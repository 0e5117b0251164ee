/-
Paths, a tree of files and the reading of text files.

A path is a list of names and the place where it begins. Empty names and single dots are dropped when a
path is read from a text; a double dot is kept, since it means the parent of the directory reached so
far, which has to exist. A tree of files is what lies below the working directory, below the directories
above it and below the root. What the working directory and the directories above it are called is not
known, so none of them is reached by its name. A text file is read as UTF-8, with a line feed for every
line end.

Main statements:
* `ofText_shown` — the writing of a path stands for the path;
* `read_write_self` — a file that was written is read, under a relative or an absolute name;
* `readText_eq_ok_iff` — a text is read exactly if the path leads to a file and its bytes are UTF-8.
-/
import TargetDocs.Text.Quoted
import TargetDocs.Text.Numeral
import TargetDocs.Text.Utf8

namespace TargetDocs

/-- Where a path begins. A path with two slashes in front is told apart from one with a single slash or
with three and more, though all begin at the root. -/
inductive Anchor
  | workingDirectory
  | root
  | doubleRoot
  deriving DecidableEq, Repr

/-- Where the path that a text writes begins. -/
def Anchor.ofText : Text → Anchor
  | '/' :: '/' :: '/' :: _ => .root
  | '/' :: '/' :: _ => .doubleRoot
  | '/' :: _ => .root
  | _ => .workingDirectory

/-- The slashes in front of a path. -/
def Anchor.shown : Anchor → Text
  | .workingDirectory => []
  | .root => ['/']
  | .doubleRoot => ['/', '/']

/-- A path. -/
structure Path where
  anchor : Anchor
  names : List Text
  deriving DecidableEq, Repr

namespace Path

/-- The path that a text writes, without empty names and single dots. -/
def ofText (t : Text) : Path where
  anchor := .ofText t
  names := (Text.cut '/' t).filter fun n => n ≠ [] ∧ n ≠ ['.']

/-- The shortest writing of a path; the working directory is a single dot. -/
def shown (p : Path) : Text :=
  if p.anchor = .workingDirectory ∧ p.names = [] then ['.']
  else p.anchor.shown ++ Text.join '/' p.names

/-- The names hold the characters of the text, but for those that separate names or are dropped. -/
theorem mem_names_ofText_iff {c : Char} (hslash : c ≠ '/') (hdot : c ≠ '.') (t : Text) :
    (∃ n ∈ (ofText t).names, c ∈ n) ↔ c ∈ t := by
  rw [← Text.mem_cut_iff hslash t]
  refine exists_congr fun n => ⟨?_, ?_⟩
  · rintro ⟨hn, hc⟩
    exact ⟨(List.mem_filter.mp hn).1, hc⟩
  · rintro ⟨hn, hc⟩
    -- the names that are dropped do not hold the character
    refine ⟨List.mem_filter.mpr ⟨hn, decide_eq_true ⟨?_, ?_⟩⟩, hc⟩
    · rintro rfl
      cases hc
    · rintro rfl
      exact hdot (List.mem_singleton.mp hc)

theorem shown_of_ne_nil {p : Path} (h : p.names ≠ []) :
    p.shown = p.anchor.shown ++ Text.join '/' p.names := if_neg fun hp => h hp.2

/-- Each slash in front cuts off an empty name, which is dropped. -/
theorem ofText_shown_append (a : Anchor) {c : Char} (hc : c ≠ '/') (t : Text) :
    ofText (a.shown ++ c :: t)
      = ⟨a, (Text.cut '/' (c :: t)).filter fun n => n ≠ [] ∧ n ≠ ['.']⟩ := by
  cases a <;> simp [ofText, Anchor.shown, Anchor.ofText, hc, Text.cut_mark_cons]

/-- The writing of a path stands for the path. -/
theorem ofText_shown (t : Text) : ofText (ofText t).shown = ofText t := by
  generalize hp : ofText t = p
  have hnames : ∀ n ∈ p.names, '/' ∉ n ∧ n ≠ [] ∧ n ≠ ['.'] := by
    intro n hn
    rw [← hp] at hn
    obtain ⟨hcut, hkept⟩ := List.mem_filter.mp hn
    exact ⟨Text.not_mem_of_mem_cut hcut, of_decide_eq_true hkept⟩
  obtain ⟨anchor, names⟩ := p
  cases names with
  | nil => cases anchor <;> rfl
  | cons n names =>
    obtain ⟨⟨hslash, hn, -⟩, -⟩ := List.forall_mem_cons.mp hnames
    obtain ⟨c, u, rfl⟩ := List.exists_cons_of_ne_nil hn
    have hc : c ≠ '/' := fun h => hslash (h ▸ List.mem_cons_self)
    have hcut : Text.cut '/' (Text.join '/' ((c :: u) :: names)) = (c :: u) :: names :=
      Text.cut_join (List.cons_ne_nil _ _) fun n hn => (hnames n hn).1
    have hkept : ((c :: u) :: names).filter (fun n => n ≠ [] ∧ n ≠ ['.']) = (c :: u) :: names :=
      List.filter_eq_self.mpr fun n hn => decide_eq_true (hnames n hn).2
    obtain ⟨v, hv⟩ : ∃ v, Text.join '/' ((c :: u) :: names) = c :: v := by
      cases names with
      | nil => exact ⟨_, rfl⟩
      | cons m names => exact ⟨_, rfl⟩
    rw [hv] at hcut
    rw [shown_of_ne_nil (List.cons_ne_nil _ _), hv, ofText_shown_append anchor hc, hcut, hkept]

example : (ofText "//a/./b/".toList).shown = "//a/b".toList := by decide

end Path

/-- Why a file cannot be opened. -/
inductive FileFault
  | missing
  /-- a name before the last one is that of a file -/
  | notDirectory
  | isDirectory
  /-- the path holds the character U+0000 -/
  | nullCharacter
  /-- another reason, in the words of the system -/
  | other (reason : Text)
  deriving DecidableEq, Repr

/-- Why a file cannot be read as text. -/
inductive ReadFault
  | file (path : Path) (fault : FileFault)
  | undecodable (fault : Text.Utf8.Fault)
  deriving DecidableEq, Repr

/-- A way to get at the bytes of files. -/
abbrev Reader := Path → Except FileFault (List UInt8)

/-- The text of a file. -/
def readText (read : Reader) (p : Path) : Except ReadFault Text :=
  match read p with
  | .error fault => .error (.file p fault)
  | .ok bytes =>
    match Text.Utf8.decode bytes with
    | .error fault => .error (.undecodable fault)
    | .ok t => .ok (Text.unifyLineEnds t)

/-- A text is read exactly if there is a file and its bytes are UTF-8. -/
theorem readText_eq_ok_iff {read : Reader} {p : Path} {t : Text} :
    readText read p = .ok t
      ↔ ∃ bytes u, read p = .ok bytes ∧ Text.Utf8.decode bytes = .ok u ∧ t = Text.unifyLineEnds u := by
  constructor
  · intro h
    unfold readText at h
    split at h
    · cases h
    · next bytes hb =>
      split at h
      · cases h
      · next u hu => exact ⟨bytes, u, hb, hu, (Except.ok.inj h).symm⟩
  · rintro ⟨bytes, u, hb, hu, rfl⟩
    rw [readText, hb]
    dsimp only
    rw [hu]

/-- What a name in a tree of files stands for. -/
inductive Place
  | file (bytes : List UInt8)
  | directory
  deriving DecidableEq, Repr

/-- A directory from which places are named. -/
inductive Base
  /-- so many levels above the working directory -/
  | above (levels : Nat)
  | root
  deriving DecidableEq, Repr

/-- The root is its own parent. -/
def Base.parent : Base → Base
  | .above levels => .above (levels + 1)
  | .root => .root

/-- A place in the system, under the names that lead to it. -/
structure Spot where
  base : Base
  names : List Text
  deriving DecidableEq, Repr

namespace Spot

/-- One name further; a double dot leads back. -/
def enter (s : Spot) (name : Text) : Spot :=
  if name ≠ ['.', '.'] then { s with names := s.names ++ [name] }
  else if s.names ≠ [] then { s with names := s.names.dropLast }
  else { s with base := s.base.parent }

/-- Where names lead. -/
def walk (s : Spot) (names : List Text) : Spot := names.foldl enter s

/-- What is passed on the way along names. -/
def way (s : Spot) : List Text → List Spot
  | [] => []
  | name :: names => s :: (s.enter name).way names

theorem enter_of_ne {s : Spot} {name : Text} (h : name ≠ ['.', '.']) :
    s.enter name = ⟨s.base, s.names ++ [name]⟩ := if_pos h

theorem walk_of_not_mem {s : Spot} {names : List Text} (h : ['.', '.'] ∉ names) :
    s.walk names = ⟨s.base, s.names ++ names⟩ := by
  induction names generalizing s with
  | nil => simp [walk]
  | cons name names ih =>
    rw [List.mem_cons, not_or] at h
    obtain ⟨hname, hnames⟩ := h
    show (s.enter name).walk names = _
    rw [ih hnames, enter_of_ne (Ne.symm hname)]
    simp

/-- What is passed without going back has fewer names than the place at the end. -/
theorem length_lt_of_mem_way {s s' : Spot} {names : List Text} (h : ['.', '.'] ∉ names)
    (hs' : s' ∈ s.way names) : s'.names.length < (s.walk names).names.length := by
  induction names generalizing s with
  | nil => cases hs'
  | cons name names ih =>
    rw [List.mem_cons, not_or] at h
    obtain ⟨hname, hnames⟩ := h
    rcases List.mem_cons.mp hs' with rfl | hrest
    · simp [walk_of_not_mem (List.not_mem_cons_of_ne_of_not_mem hname hnames)]
    · exact ih hnames hrest

end Spot

/-- Where a path begins to lead. -/
def Path.start (p : Path) : Spot where
  base := if p.anchor = .workingDirectory then .above 0 else .root
  names := []

/-- Files and directories with the spots where they are. For a spot that occurs more than once the first
place counts. -/
structure FileTree where
  places : List (Spot × Place)

namespace FileTree

/-- What lies at a spot. The directories from which the others are named are there. -/
def look (tree : FileTree) (s : Spot) : Option Place :=
  if s.names = [] then some .directory else tree.places.lookup s

/-- Follows names from a spot. Every name but the last has to be that of a directory. -/
def follow (tree : FileTree) (s : Spot) : List Text → Except FileFault Place
  | [] =>
    match tree.look s with
    | some place => .ok place
    | none => .error .missing
  | name :: names =>
    match tree.look s with
    | none => .error .missing
    | some (.file _) => .error .notDirectory
    | some .directory => tree.follow (s.enter name) names

/-- The bytes of the file that a path leads to. -/
def read (tree : FileTree) : Reader := fun p =>
  if p.names.any (·.contains '\x00') then .error .nullCharacter
  else
    match tree.follow p.start p.names with
    | .ok (.file bytes) => .ok bytes
    | .ok .directory => .error .isDirectory
    | .error fault => .error fault

/-- Puts a file or an empty directory under a name, with the directories on the way to it. -/
def write (tree : FileTree) (name : Text) (place : Place) : FileTree :=
  let p := Path.ofText name
  ⟨(p.start.walk p.names, place) :: (p.start.way p.names).map (·, Place.directory) ++ tree.places⟩

/-- Takes away what lies under a name. -/
def remove (tree : FileTree) (name : Text) : FileTree :=
  let p := Path.ofText name
  ⟨tree.places.filter (·.1 ≠ p.start.walk p.names)⟩

/-- Over directories, names lead to what lies at their end. -/
theorem follow_of_way {tree : FileTree} {s : Spot} {names : List Text} {place : Place}
    (hway : ∀ s' ∈ s.way names, tree.look s' = some .directory)
    (hend : tree.look (s.walk names) = some place) : tree.follow s names = .ok place := by
  induction names generalizing s with
  | nil =>
    have hs : tree.look s = some place := hend
    rw [follow, hs]
  | cons name names ih =>
    rw [follow, hway s List.mem_cons_self]
    exact ih (fun s' hs' => hway s' (List.mem_cons_of_mem _ hs')) hend

theorem lookup_map_directory {spots : List Spot} {s : Spot} (hs : s ∈ spots)
    (places : List (Spot × Place)) :
    (spots.map (·, Place.directory) ++ places).lookup s = some .directory := by
  induction spots with
  | nil => cases hs
  | cons s' spots ih =>
    by_cases h : s = s'
    · simp [h]
    · have hrest : s ∈ spots := (List.mem_cons.mp hs).resolve_left h
      rw [List.map_cons, List.cons_append, List.lookup_cons, beq_false_of_ne h]
      exact ih hrest

/-- With a place at the end of some names, and directories on the way to it, the names lead there. -/
theorem follow_way_end {s : Spot} {names : List Text} (hne : names ≠ []) (hback : ['.', '.'] ∉ names)
    (place : Place) (places : List (Spot × Place)) :
    FileTree.follow
      ⟨(s.walk names, place) :: (s.way names).map (·, Place.directory) ++ places⟩ s names
        = .ok place := by
  refine follow_of_way (fun s' hs' => ?_) ?_
  · have hother : s' ≠ s.walk names := by
      rintro rfl
      exact Nat.lt_irrefl _ (Spot.length_lt_of_mem_way hback hs')
    rw [look, List.cons_append, List.lookup_cons, beq_false_of_ne hother]
    split
    · rfl
    · exact lookup_map_directory hs' _
  · have hend : (s.walk names).names ≠ [] := by
      rw [Spot.walk_of_not_mem hback]
      exact List.append_ne_nil_of_right_ne_nil _ hne
    rw [look, if_neg hend, List.cons_append, List.lookup_cons, beq_self_eq_true]

/-- A file that was written is read. -/
theorem read_write_self (tree : FileTree) {name : Text} (bytes : List UInt8)
    (hnull : '\x00' ∉ name) (hne : (Path.ofText name).names ≠ [])
    (hback : ['.', '.'] ∉ (Path.ofText name).names) :
    (tree.write name (.file bytes)).read (Path.ofText name) = .ok bytes := by
  have hplain : ¬ (Path.ofText name).names.any (·.contains '\x00') := by
    simpa using fun n hn hc =>
      hnull ((Path.mem_names_ofText_iff (by decide) (by decide) name).mp ⟨n, hn, hc⟩)
  rw [read, if_neg hplain, write, follow_way_end hne hback]

end FileTree

/-- Why a file cannot be opened, as the system says it. -/
def FileFault.message (p : Path) : FileFault → Text
  | .missing => "[Errno 2] No such file or directory: ".toList ++ Text.quoted p.shown
  | .notDirectory => "[Errno 20] Not a directory: ".toList ++ Text.quoted p.shown
  | .isDirectory => "[Errno 21] Is a directory: ".toList ++ Text.quoted p.shown
  | .nullCharacter => "embedded null byte".toList
  | .other reason => reason

/-- The reason why bytes stand for no character. -/
def Text.Utf8.Flaw.message : Text.Utf8.Flaw → Text
  | .badStart => "invalid start byte".toList
  | .badContinuation => "invalid continuation byte".toList
  | .truncated => "unexpected end of data".toList

/-- A faulty sequence of one byte is shown by the byte, a longer one by its first and last position. -/
def Text.Utf8.Fault.message (f : Text.Utf8.Fault) : Text :=
  "'utf-8' codec can't decode ".toList
    ++ (if f.length = 1 then
          "byte 0x".toList ++ Text.hex 2 f.lead.toNat ++ " in position ".toList
            ++ Text.decimal f.position
        else
          "bytes in position ".toList ++ Text.decimal f.position ++ '-' ::
            Text.decimal (f.position + f.length - 1))
    ++ ": ".toList ++ f.flaw.message

def ReadFault.message : ReadFault → Text
  | .file p fault => fault.message p
  | .undecodable fault => fault.message

end TargetDocs
