/-
The order of options and file names.

A command line is written as items (`Writes`): settings, each in any of its spellings, and names of files.
What it asks for depends on the last setting of each kind and on the row of file names only:

* `Writes.takes` — the items are taken one after the other, whatever their spellings;
* `asked_append_setting` — one more setting at the end is made after all others;
* `oneRow_or_twoRows` — the names of files stand in one row, or settings part them;
* `parse_of_oneRow`, `parse_of_twoRows` — what is read in the two cases;
* `parse_canonical` — what is asked for can be asked in one way, the settings first in a fixed order;
* `run_written` — so spellings and order change nothing about a run, and two rows are refused.
-/
import Mathlib.Data.List.Induction
import TargetDocs.Proofs.CommandLine.Spelling
import TargetDocs.Run

namespace TargetDocs

namespace CommandLine

/-- A setting or the name of a file. -/
inductive Item
  | setting (o : Setting)
  | file (name : Text)
  deriving DecidableEq, Repr

/-- The words that write items one after the other. -/
inductive Writes : List Item → List Text → Prop
  | nil : Writes [] []
  | setting {o : Setting} {ts words : List Text} {items : List Item} (h : Spells o ts)
      (hrest : Writes items words) : Writes (.setting o :: items) (ts ++ words)
  | file {name : Text} {words : List Text} {items : List Item} (h : name.head? ≠ some '-')
      (hrest : Writes items words) : Writes (.file name :: items) (name :: words)

/-- The setting that an item is. -/
def Item.setting? : Item → Option Setting
  | .setting o => some o
  | .file _ => none

/-- The name of a file that an item is. -/
def Item.file? : Item → Option Text
  | .setting _ => none
  | .file name => some name

/-- Takes an item. A setting ends the row of file names. -/
def Reading.take (r : Reading) : Item → Reading
  | .setting o => r.endRow.set o
  | .file name => r.plain name

theorem Writes.takes {items : List Item} {words : List Text} (h : Writes items words) :
    Takes words fun r => items.foldl Reading.take r := by
  induction h with
  | nil => exact takes_nil
  | setting h _ ih => exact h.takes.append ih
  | file h _ ih => exact (takes_file h).append ih

/-! ### The row of file names -/

/-- Settings, then names of files and what comes behind them. -/
def withRow (before : List Setting) (files : List Text) (rest : List Item) : List Item :=
  before.map .setting ++ files.map .file ++ rest

theorem filterMap_setting?_settings (os : List Setting) :
    (os.map Item.setting).filterMap Item.setting? = os := by
  simp [Function.comp_def, Item.setting?]

theorem filterMap_file?_settings (os : List Setting) :
    (os.map Item.setting).filterMap Item.file? = [] := by
  simp [Item.file?]

theorem filterMap_setting?_withRow (before : List Setting) (files : List Text) (rest : List Item) :
    (withRow before files rest).filterMap Item.setting?
      = before ++ rest.filterMap Item.setting? := by
  have hfiles : (files.map Item.file).filterMap Item.setting? = [] := by simp [Item.setting?]
  rw [withRow, List.filterMap_append, List.filterMap_append, filterMap_setting?_settings, hfiles,
    List.append_nil]

theorem filterMap_file?_withRow (before : List Setting) (files : List Text) (rest : List Item) :
    (withRow before files rest).filterMap Item.file? = files ++ rest.filterMap Item.file? := by
  have hfiles : (files.map Item.file).filterMap Item.file? = files := by
    simp [Function.comp_def, Item.file?]
  rw [withRow, List.filterMap_append, List.filterMap_append, filterMap_file?_settings, hfiles,
    List.nil_append]

/-- The settings `os` with the names `files` in one row somewhere between them. -/
def OneRow (items : List Item) (os : List Setting) (files : List Text) : Prop :=
  ∃ before after, os = before ++ after ∧ items = withRow before files (after.map .setting)

/-- Behind the first row of file names there is a setting, and then the names `later`. -/
def TwoRows (items : List Item) (later : List Text) : Prop :=
  later ≠ [] ∧ ∃ before files o rest, files ≠ [] ∧ later = rest.filterMap Item.file?
    ∧ items = withRow before files (.setting o :: rest)

theorem oneRow_or_twoRows (items : List Item) :
    (∃ os files, OneRow items os files) ∨ ∃ later, TwoRows items later := by
  induction items with
  | nil => exact Or.inl ⟨[], [], [], [], rfl, rfl⟩
  | cons item items ih =>
    cases item with
    | setting o =>
      -- a setting in front goes with those before the row
      rcases ih with ⟨_, files, before, after, -, rfl⟩
        | ⟨later, hne, before, files, o', rest, hfiles, hlater, rfl⟩
      · exact Or.inl ⟨_, files, o :: before, after, rfl, rfl⟩
      · exact Or.inr ⟨later, hne, o :: before, files, o', rest, hfiles, hlater, rfl⟩
    | file name =>
      -- a name in front goes with the row, or is a row of its own if settings come before that
      have hsplit : ∀ o before files rest, files ≠ [] →
          TwoRows (.file name :: withRow (o :: before) files rest)
            (files ++ rest.filterMap Item.file?) := by
        intro o before files rest hfiles
        refine ⟨List.append_ne_nil_of_left_ne_nil hfiles _, [], [name], o,
          withRow before files rest, List.cons_ne_nil name [], ?_, rfl⟩
        exact (filterMap_file?_withRow before files rest).symm
      rcases ih with ⟨_, files, before, after, -, rfl⟩
        | ⟨later, hne, before, files, o', rest, hfiles, hlater, rfl⟩
      · cases before with
        | nil => exact Or.inl ⟨_, name :: files, [], after, rfl, rfl⟩
        | cons o before =>
          by_cases hfiles : files = []
          · subst hfiles
            refine Or.inl ⟨_, [name], [], o :: before ++ after, rfl, ?_⟩
            rw [List.map_append, withRow, List.map_nil, List.append_nil]
            rfl
          · exact Or.inr ⟨_, hsplit o before files _ hfiles⟩
      · cases before with
        | nil =>
          exact Or.inr ⟨later, hne, [], name :: files, o', rest, List.cons_ne_nil name files, hlater,
            rfl⟩
        | cons o before => exact Or.inr ⟨_, hsplit o before files _ hfiles⟩

/-! ### Reading a row -/

theorem request_plain (r : Reading) (t : Text) : (r.plain t).request = r.request := by
  unfold Reading.plain
  split <;> rfl

theorem request_endRow (r : Reading) : r.endRow.request = r.request := by
  unfold Reading.endRow
  split <;> rfl

theorem names_endRow (r : Reading) : r.endRow.row.names = r.row.names := by
  unfold Reading.endRow
  split
  · next names h => rw [h]; rfl
  · rfl

theorem extras_endRow (r : Reading) : r.endRow.extras = r.extras := by
  unfold Reading.endRow
  split <;> rfl

theorem request_foldl_take (items : List Item) (r : Reading) :
    (items.foldl Reading.take r).request
      = (items.filterMap Item.setting?).foldl Setting.apply r.request := by
  induction items generalizing r with
  | nil => rfl
  | cons item items ih =>
    rw [List.foldl_cons, ih]
    cases item with
    | setting o =>
      have hrequest : (r.take (.setting o)).request = o.apply r.request :=
        congrArg (Setting.apply · o) (request_endRow r)
      rw [hrequest]
      rfl
    | file name =>
      have hrequest : (r.take (.file name)).request = r.request := request_plain r name
      rw [hrequest]
      rfl

theorem foldl_settings (os : List Setting) (r : Reading) :
    let r' := (os.map Item.setting).foldl Reading.take r
    r'.row.names = r.row.names ∧ r'.extras = r.extras ∧ (r.row = .ahead → r'.row = .ahead) := by
  induction os generalizing r with
  | nil => exact ⟨rfl, rfl, id⟩
  | cons o os ih =>
    obtain ⟨hnames, hextras, hrow⟩ := ih (r.endRow.set o)
    refine ⟨hnames.trans (names_endRow r), hextras.trans (extras_endRow r), fun h => hrow ?_⟩
    show r.endRow.row = .ahead
    rw [Reading.endRow, h]
    exact h

theorem foldl_files_of_current (files : List Text) {r : Reading} {names : List Text}
    (h : r.row = .current names) :
    (files.map Item.file).foldl Reading.take r = { r with row := .current (names ++ files) } := by
  induction files generalizing r names with
  | nil =>
    rw [List.append_nil, ← h]
    rfl
  | cons name files ih =>
    have hplain : r.plain name = { r with row := .current (names ++ [name]) } := by
      rw [Reading.plain, h]
    rw [List.map_cons, List.foldl_cons, Reading.take, hplain, ih rfl, List.append_assoc]
    rfl

theorem foldl_files_of_ahead {files : List Text} (hne : files ≠ []) {r : Reading}
    (h : r.row = .ahead) :
    (files.map Item.file).foldl Reading.take r = { r with row := .current files } := by
  obtain ⟨name, files, rfl⟩ := List.exists_cons_of_ne_nil hne
  have hplain : r.plain name = { r with row := .current [name] } := by rw [Reading.plain, h]
  rw [List.map_cons, List.foldl_cons, Reading.take, hplain, foldl_files_of_current files rfl]
  rfl

theorem foldl_of_behind (items : List Item) {r : Reading} {names : List Text}
    (h : r.row = .behind names) :
    (items.foldl Reading.take r).extras = r.extras ++ items.filterMap Item.file? := by
  induction items generalizing r with
  | nil => exact (List.append_nil r.extras).symm
  | cons item items ih =>
    rw [List.foldl_cons]
    cases item with
    | setting o =>
      have htake : r.take (.setting o) = r.set o := by rw [Reading.take, Reading.endRow, h]
      rw [htake]
      exact ih h
    | file name =>
      have htake : r.take (.file name) = { r with extras := r.extras ++ [name] } := by
        rw [Reading.take, Reading.plain, h]
      have hrest := @ih { r with extras := r.extras ++ [name] } h
      rw [htake, hrest, List.append_assoc]
      rfl

theorem foldl_files (files : List Text) {r : Reading} (h : r.row = .ahead) :
    let r' := (files.map Item.file).foldl Reading.take r
    r'.row.names = files ∧ r'.extras = r.extras := by
  by_cases hne : files = []
  · subst hne
    exact ⟨congrArg FileRow.names h, rfl⟩
  · rw [foldl_files_of_ahead hne h]
    exact ⟨rfl, rfl⟩

theorem foldl_withRow (before : List Setting) (files : List Text) (rest : List Item) (r : Reading) :
    (withRow before files rest).foldl Reading.take r
      = rest.foldl Reading.take ((files.map Item.file).foldl Reading.take
          ((before.map Item.setting).foldl Reading.take r)) := by
  rw [withRow, List.foldl_append, List.foldl_append]

/-! ### What is asked for -/

/-- The target that a setting asks for. -/
def Setting.target? : Setting → Option Text
  | .target name => some name
  | _ => none

/-- Whether a setting asks for colours. -/
def Setting.pretty? : Setting → Option Bool
  | .pretty on => some on
  | _ => none

/-- The width that a setting asks for. -/
def Setting.columnWidth? : Setting → Option Nat
  | .columnWidth n => some n
  | _ => none

/-- What settings and a row of file names ask for: of each kind the last setting counts, and without one
nothing special is asked for. -/
def asked (os : List Setting) (files : List Text) : Request where
  files
  target := (os.filterMap Setting.target?).getLast?.getD []
  verbose := .verbose ∈ os
  pretty := (os.filterMap Setting.pretty?).getLast?
  columnWidth := (os.filterMap Setting.columnWidth?).getLast?.elim .preferred (.columns ·)
  debug := .debug ∈ os

theorem asked_append_setting (os : List Setting) (o : Setting) (files : List Text) :
    asked (os ++ [o]) files = o.apply (asked os files) := by
  cases o <;> simp [asked, Setting.apply, Setting.target?, Setting.pretty?, Setting.columnWidth?]

theorem foldl_apply (os : List Setting) (files : List Text) :
    os.foldl Setting.apply { files } = asked os files := by
  induction os using List.reverseRecOn with
  | nil => rfl
  | append_singleton os o ih =>
    rw [List.foldl_append, ih, asked_append_setting]
    rfl

theorem parse_of_oneRow {items : List Item} {words : List Text} {os : List Setting}
    {files : List Text} (h : Writes items words) (hrow : OneRow items os files) :
    parse words = .ok (asked os files) := by
  obtain ⟨before, after, rfl, rfl⟩ := hrow
  have hrequest := request_foldl_take (withRow before files (after.map .setting)) {}
  rw [filterMap_setting?_withRow, filterMap_setting?_settings, foldl_apply] at hrequest
  -- the row is read as it is, and the settings around it leave nothing over
  obtain ⟨-, hextras₁, hrow⟩ := foldl_settings before {}
  obtain ⟨hnames₂, hextras₂⟩ := foldl_files files (hrow rfl)
  obtain ⟨hnames₃, hextras₃, -⟩ := foldl_settings after
    ((files.map Item.file).foldl Reading.take ((before.map Item.setting).foldl Reading.take {}))
  rw [← foldl_withRow] at hnames₃ hextras₃
  rw [parse_of_takes h.takes, if_pos (hextras₃.trans (hextras₂.trans hextras₁)), hrequest, hnames₃,
    hnames₂]
  rfl

theorem parse_of_twoRows {items : List Item} {words : List Text} {later : List Text}
    (h : Writes items words) (hrows : TwoRows items later) :
    parse words = .error (.refused (.unrecognized later)) := by
  obtain ⟨hne, before, files, o, rest, hfiles, rfl, rfl⟩ := hrows
  obtain ⟨-, hextras, hrow⟩ := foldl_settings before {}
  have hread : ((withRow before files (.setting o :: rest)).foldl Reading.take {}).extras
      = rest.filterMap Item.file? := by
    rw [foldl_withRow, foldl_files_of_ahead hfiles (hrow rfl), List.foldl_cons,
      foldl_of_behind rest rfl]
    exact congrArg (· ++ _) hextras
  rw [parse_of_takes h.takes, hread, if_neg hne]

/-! ### The canonical way to ask -/

/-- The settings that differ from the usual ones, in a fixed order. -/
def Request.settings (r : Request) : List Setting :=
  (if r.target = [] then [] else [.target r.target])
    ++ (if r.verbose then [.verbose] else [])
    ++ (r.pretty.map Setting.pretty).toList
    ++ (match r.columnWidth with
      | .columns n => [.columnWidth n.toNat]
      | _ => [])
    ++ (if r.debug then [.debug] else [])

/-- The words that ask for it: one for each setting, and the names of files behind them. -/
def canonical (r : Request) : List Text := r.settings.map Setting.word ++ r.files

theorem eq_of_target? {o : Setting} {name : Text} (h : o.target? = some name) :
    o = .target name := by
  cases o <;> cases h
  rfl

theorem eq_of_pretty? {o : Setting} {on : Bool} (h : o.pretty? = some on) : o = .pretty on := by
  cases o <;> cases h
  rfl

theorem eq_of_columnWidth? {o : Setting} {n : Nat} (h : o.columnWidth? = some n) :
    o = .columnWidth n := by
  cases o <;> cases h
  rfl

theorem mem_of_getLast?_filterMap {α : Type} {kind? : Setting → Option α} {kind : α → Setting}
    (hkind : ∀ {o a}, kind? o = some a → o = kind a) {os : List Setting} {a : α}
    (h : (os.filterMap kind?).getLast? = some a) : kind a ∈ os := by
  obtain ⟨o, ho, ha⟩ := List.mem_filterMap.mp (List.mem_of_getLast? h)
  exact hkind ha ▸ ho

theorem mem_of_mem_settings_asked {os : List Setting} {files : List Text} {o : Setting}
    (h : o ∈ (asked os files).settings) : o ∈ os := by
  simp only [Request.settings, List.mem_append] at h
  rcases h with (((h | h) | h) | h) | h
  · cases hlast : (os.filterMap Setting.target?).getLast? with
    | none =>
      rw [if_pos (by rw [asked, hlast]; rfl)] at h
      cases h
    | some name =>
      simp only [asked, hlast] at h
      split at h
      · cases h
      · exact List.mem_singleton.mp h ▸ mem_of_getLast?_filterMap eq_of_target? hlast
  · split at h
    · next hverbose => exact List.mem_singleton.mp h ▸ of_decide_eq_true hverbose
    · cases h
  · obtain ⟨on, hlast, rfl⟩ := Option.map_eq_some_iff.mp (Option.mem_toList.mp h)
    exact mem_of_getLast?_filterMap eq_of_pretty? hlast
  · cases hlast : (os.filterMap Setting.columnWidth?).getLast? with
    | none =>
      simp only [asked, hlast] at h
      cases h
    | some n =>
      simp only [asked, hlast] at h
      exact List.mem_singleton.mp h ▸ mem_of_getLast?_filterMap eq_of_columnWidth? hlast
  · split at h
    · next hdebug => exact List.mem_singleton.mp h ▸ of_decide_eq_true hdebug
    · cases h

theorem asked_settings {r : Request}
    (h : r.columnWidth = .preferred ∨ ∃ n : Nat, r.columnWidth = .columns n) :
    asked r.settings r.files = r := by
  obtain ⟨files, target, verbose, pretty, columnWidth, debug⟩ := r
  have htarget : (if target = [] then [] else [Setting.target target]).foldl Setting.apply { files }
      = { files, target } := by
    split
    · next htarget => rw [htarget]; rfl
    · rfl
  rw [← foldl_apply, Request.settings]
  simp only [List.foldl_append, htarget]
  -- each of the other parts sets a field that has its usual value until then
  dsimp only at h
  rcases h with rfl | ⟨n, rfl⟩ <;> cases verbose <;> cases pretty <;> cases debug <;> rfl

theorem asked_settings_asked (os : List Setting) (files : List Text) :
    asked (asked os files).settings files = asked os files := by
  refine asked_settings ?_
  cases hlast : (os.filterMap Setting.columnWidth?).getLast? with
  | none =>
    left
    rw [asked, hlast]
    rfl
  | some n =>
    right
    refine ⟨n, ?_⟩
    rw [asked, hlast]
    rfl

theorem Writes.spells_of_mem {items : List Item} {words : List Text} (h : Writes items words)
    {o : Setting} (ho : o ∈ items.filterMap Item.setting?) : ∃ ts, Spells o ts := by
  induction h with
  | nil => cases ho
  | @setting _ ts _ _ h _ ih =>
    rcases List.mem_cons.mp ho with rfl | ho
    · exact ⟨ts, h⟩
    · exact ih ho
  | file _ _ ih => exact ih ho

theorem Writes.head_of_mem {items : List Item} {words : List Text} (h : Writes items words)
    {name : Text} (hname : name ∈ items.filterMap Item.file?) : name.head? ≠ some '-' := by
  induction h with
  | nil => cases hname
  | setting _ _ ih => exact ih hname
  | file h _ ih =>
    rcases List.mem_cons.mp hname with rfl | hname
    · exact h
    · exact ih hname

theorem writes_files {files : List Text} (h : ∀ name ∈ files, name.head? ≠ some '-') :
    Writes (files.map .file) files := by
  induction files with
  | nil => exact .nil
  | cons name files ih =>
    have hfiles := ih fun x hx => h x (List.mem_cons_of_mem name hx)
    exact .file (h name List.mem_cons_self) hfiles

theorem writes_settings {os : List Setting} (h : ∀ o ∈ os, Spells o [o.word]) {items : List Item}
    {words : List Text} (hrest : Writes items words) :
    Writes (os.map .setting ++ items) (os.map Setting.word ++ words) := by
  induction os with
  | nil => exact hrest
  | cons o os ih =>
    have hos := ih fun x hx => h x (List.mem_cons_of_mem o hx)
    exact @Writes.setting o [o.word] _ _ (h o List.mem_cons_self) hos

/-- What is asked for can be asked for with the settings in front, in a fixed order. -/
theorem parse_canonical {items : List Item} {words : List Text} {os : List Setting}
    {files : List Text} (h : Writes items words) (hrow : OneRow items os files) :
    parse (canonical (asked os files)) = .ok (asked os files) := by
  obtain ⟨before, after, rfl, rfl⟩ := hrow
  have hsettings : ∀ o ∈ (asked (before ++ after) files).settings, Spells o [o.word] := by
    intro o ho
    have hmem : o ∈ (withRow before files (after.map .setting)).filterMap Item.setting? := by
      rw [filterMap_setting?_withRow, filterMap_setting?_settings]
      exact mem_of_mem_settings_asked ho
    obtain ⟨ts, hspells⟩ := h.spells_of_mem hmem
    exact hspells.word
  have hfiles : ∀ name ∈ files, name.head? ≠ some '-' := by
    intro name hname
    refine h.head_of_mem ?_
    rw [filterMap_file?_withRow]
    exact List.mem_append_left _ hname
  have hcanonical := writes_settings hsettings (writes_files hfiles)
  have hparse := parse_of_oneRow hcanonical
    ⟨_, [], (List.append_nil _).symm, (List.append_nil _).symm⟩
  rwa [asked_settings_asked] at hparse

end CommandLine

namespace Run

open CommandLine

/-- **Spelling and order change nothing.** A command line of settings, each spelled in full, and of file
names that do not begin with a dash has these names in one row, or settings part them. In one row,
wherever it stands, exactly these files and the last setting of each kind are asked for, so that a run does
the same as if asked in the canonical way. In several rows the command line is refused for the names
behind the first one: then a run has exit code 2 and prints nothing, and it does not depend on the
files. For that the help has to be able to name the preferred width (`HelpWritable`), since no command
line is read otherwise; preferences from an environment always let it. -/
theorem run_written {items : List Item} {words : List Text} (h : Writes items words) :
    ((∃ os files, OneRow items os files) ∨ ∃ later, TwoRows items later)
      ∧ (∀ os files, OneRow items os files →
        parse words = .ok (asked os files)
        ∧ parse (canonical (asked os files)) = .ok (asked os files)
        ∧ ∀ s, run s words = run s (canonical (asked os files)))
      ∧ ∀ later, TwoRows items later →
        parse words = .error (.refused (.unrecognized later))
        ∧ ∀ s : Surroundings, HelpWritable s.preferences →
          (run s words).exit = .code 2 ∧ (run s words).output = []
          ∧ ∀ read, run { s with read } words = run s words := by
  refine ⟨oneRow_or_twoRows items, fun os files hrow => ?_, fun later hrows => ?_⟩
  · have hparse := parse_of_oneRow h hrow
    have hcanonical := parse_canonical h hrow
    refine ⟨hparse, hcanonical, fun s => ?_⟩
    rw [run, run, hparse, hcanonical]
  · have hparse := parse_of_twoRows h hrows
    refine ⟨hparse, fun s hs => ?_⟩
    rw [run_refused hs hparse]
    refine ⟨rfl, rfl, fun read => ?_⟩
    exact run_refused (s := { s with read }) hs hparse

/-- One row between options that are given several times, and two rows. -/
theorem run_written_around_files :
    parse ["--debug".toList, "-target".toList, "x".toList, "a.mk".toList, "b.mk".toList,
        "--target=y=z".toList, "--column-width".toList, "007".toList, "--no-pretty".toList]
      = .ok { files := ["a.mk".toList, "b.mk".toList], target := "y=z".toList, pretty := some false
              columnWidth := .columns 7, debug := true }
    ∧ parse ["a.mk".toList, "-verbose".toList, "b.mk".toList]
      = .error (.refused (.unrecognized ["b.mk".toList]))
    ∧ (run { preferences := {}, read := (⟨[]⟩ : FileTree).read }
      ["a.mk".toList, "-verbose".toList, "b.mk".toList]).exit = .code 2 := by
  have hone : Writes _ _ :=
    .setting (.debug (by decide : ⟨"--debug".toList, _⟩ ∈ spellings))
    <| .setting (.targetApart (by decide : ⟨"-target".toList, _⟩ ∈ spellings)
      (by decide : "x".toList.head? ≠ _))
    <| .file (by decide : "a.mk".toList.head? ≠ _)
    <| .file (by decide : "b.mk".toList.head? ≠ _)
    <| .setting (.targetJoined (by decide : ⟨"--target".toList, _⟩ ∈ spellings)
      (by decide : "y=z".toList ≠ _))
    <| .setting (@Spells.widthApart "--column-width".toList 7 2 (by decide) (by decide) (by decide))
    <| .setting (.pretty (by decide : ⟨"--no-pretty".toList, .flag (.pretty false)⟩ ∈ spellings))
    <| .nil
  have htwo : Writes _ _ :=
    .file (by decide : "a.mk".toList.head? ≠ _)
    <| .setting (.verbose (by decide : ⟨"-verbose".toList, _⟩ ∈ spellings))
    <| .file (by decide : "b.mk".toList.head? ≠ _)
    <| .nil
  obtain ⟨-, hrow, -⟩ := run_written hone
  obtain ⟨-, -, hrows⟩ := run_written htwo
  have hasked := (hrow _ ["a.mk".toList, "b.mk".toList]
    ⟨[.debug, .target "x".toList], [.target "y=z".toList, .columnWidth 7, .pretty false], rfl, rfl⟩).1
  obtain ⟨hrefused, hrun⟩ := hrows ["b.mk".toList]
    ⟨by decide, [], ["a.mk".toList], .verbose, [.file "b.mk".toList], by decide, rfl, rfl⟩
  exact ⟨hasked, hrefused, (hrun { preferences := {}, read := (⟨[]⟩ : FileTree).read } (by decide)).1⟩

/-- The marker is the one target that cannot be asked for by its name: behind an equals sign it asks for
all targets, although there is none of that name. -/
theorem run_written_marker_as_target :
    let tree := (⟨[]⟩ : FileTree).write "a.mk".toList (.file (Text.Utf8.encode "## one\na:".toList))
    let s : Surroundings := { preferences := {}, read := tree.read }
    parse ["-target=--".toList, "a.mk".toList] ≠ .ok { files := ["a.mk".toList], target := marker }
      ∧ (run s ["-target=--".toList, "a.mk".toList]).exit = .code 0
      ∧ (request s { files := ["a.mk".toList], target := marker }).exit = .code 1 := by
  decide +kernel

end Run

end TargetDocs
