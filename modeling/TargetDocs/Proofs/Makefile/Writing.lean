/-
Documented targets written as a Makefile, and read back.

There are many ways to write them: the space after the marker may be missing, the colon may be double,
anything may follow it, and lines that are no comments may stand in between. `Writes` allows them all, and
`canonical` takes the same way everywhere:

* `classify_of_spellsComment`, `classify_of_spellsTarget` — every spelling of a line is recognised;
* `documentedFrom_of_writes` — written lines document what was to be written;
* `isName_of_mem_documented` — only names are ever documented, so what was read can be written again;
* `documented_written` — both together, on texts.
-/
import Mathlib.Data.List.Forall2
import TargetDocs.Proofs.Makefile.Block

namespace TargetDocs.Makefile

/-- The line is a comment with the text `p`; the space may be left out before a text without one. -/
inductive SpellsComment (p : Text) : Text → Prop
  | spaced : SpellsComment p ('#' :: '#' :: ' ' :: p)
  | tight (h : p.head? ≠ some ' ') : SpellsComment p ('#' :: '#' :: p)

/-- The line declares the target, with a single or double colon and anything after it that does not
change the colon's meaning. -/
inductive SpellsTarget (name : Text) : Text → Prop
  | mk (colons tail : Text) (hcolons : colons = [':'] ∨ colons = [':', ':']) (hline : '\n' ∉ tail)
      (hcolon : tail.head? ≠ some ':') (hequals : tail.head? ≠ some '=') :
      SpellsTarget name (name ++ colons ++ tail)

/-- The lines write the documented targets, one after the other, with the lines of each comment right
above its declaration and lines that are no comments before, between and behind them. -/
inductive Writes : List Documented → List Text → Prop
  | nil : Writes [] []
  | filler {ds ls l} (hline : '\n' ∉ l) (hl : ∀ t, Line.classify l ≠ .comment t)
      (h : Writes ds ls) : Writes ds (l :: ls)
  | node {d ds cs l ls} (hname : IsName d.target)
      (hcs : List.Forall₂ SpellsComment (Text.lines d.comment) cs) (hl : SpellsTarget d.target l)
      (h : Writes ds ls) : Writes (d :: ds) (cs ++ l :: ls)

/-- The lines that write documented targets with a space after each marker, a single colon, and nothing
else. -/
def canonical (ds : List Documented) : List Text :=
  ds.flatMap fun d =>
    (Text.lines d.comment).map (['#', '#', ' '] ++ ·) ++ [d.target ++ [':']]

/-! ### Recognising the lines -/

theorem lineFeed_not_mem_of_spellsComment {p l : Text} (hp : '\n' ∉ p) (h : SpellsComment p l) :
    '\n' ∉ l := by
  cases h with
  | spaced => simpa using hp
  | tight _ => simpa using hp

theorem classify_of_spellsComment {p l : Text} (hp : '\n' ∉ p) (h : SpellsComment p l) :
    Line.classify l = .comment p := by
  rw [Line.classify_of_not_mem (lineFeed_not_mem_of_spellsComment hp h)]
  cases h with
  | spaced => rfl
  | tight hspace =>
    show Line.comment (dropSpace p) = .comment p
    rcases p with _ | ⟨c, p⟩
    · rfl
    · rw [dropSpace]
      rintro t ht
      exact hspace (congrArg List.head? ht)

theorem isNameChar_of_isName {name : Text} (h : IsName name) : ∀ c ∈ name, isNameChar c :=
  List.all_eq_true.mp h.2

theorem lineFeed_not_mem_of_isName {name : Text} (h : IsName name) : '\n' ∉ name :=
  fun hmem => absurd (isNameChar_of_isName h _ hmem) (by decide)

theorem lineFeed_not_mem_of_spellsTarget {name l : Text} (hname : IsName name)
    (h : SpellsTarget name l) : '\n' ∉ l := by
  obtain ⟨colons, tail, hcolons, hline, -, -⟩ := h
  have hno := lineFeed_not_mem_of_isName hname
  rcases hcolons with rfl | rfl <;> simp [hno, hline]

theorem endsSeparator_of_head? {tail : Text} (hcolon : tail.head? ≠ some ':')
    (hequals : tail.head? ≠ some '=') : endsSeparator tail := by
  unfold endsSeparator
  split
  · exact absurd rfl hcolon
  · exact absurd rfl hequals
  · rfl

theorem startsSeparator_of_colons {colons tail : Text}
    (hcolons : colons = [':'] ∨ colons = [':', ':']) (hcolon : tail.head? ≠ some ':')
    (hequals : tail.head? ≠ some '=') : startsSeparator (colons ++ tail) := by
  have hends := endsSeparator_of_head? hcolon hequals
  rcases hcolons with rfl | rfl
  · -- one colon, and the tail does not make it two
    rw [List.singleton_append, startsSeparator]
    · exact hends
    · rintro t ht
      exact hcolon (congrArg List.head? ht)
  · exact hends

/-- The name characters at the start of a declaration are its name. -/
theorem span_name {name : Text} (hname : IsName name) (more : Text) :
    (name ++ ':' :: more).takeWhile isNameChar = name
      ∧ (name ++ ':' :: more).dropWhile isNameChar = ':' :: more := by
  have hchars := isNameChar_of_isName hname
  rw [List.takeWhile_append_of_pos hchars, List.dropWhile_append_of_pos hchars]
  simp [isNameChar]

/-- A name with a separator behind it is declared. -/
theorem ofText_of_name {name rest : Text} (hname : IsName name) (hcolon : rest.head? = some ':')
    (hrest : startsSeparator rest) : Line.ofText (name ++ rest) = .target name := by
  obtain ⟨more, rfl⟩ := List.head?_eq_some_iff.mp hcolon
  obtain ⟨htake, hdrop⟩ := span_name hname more
  unfold Line.ofText
  split
  · next t ht =>
    -- a comment marker is not made of name characters
    obtain ⟨c, name, rfl⟩ := List.exists_cons_of_ne_nil hname.1
    obtain ⟨rfl, -⟩ := List.cons.inj ht
    exact absurd (isNameChar_of_isName hname '#' List.mem_cons_self) (by decide)
  · dsimp only
    rw [htake, hdrop, if_pos ⟨hname.1, hrest⟩]

theorem classify_of_spellsTarget {name l : Text} (hname : IsName name) (h : SpellsTarget name l) :
    Line.classify l = .target name := by
  rw [Line.classify_of_not_mem (lineFeed_not_mem_of_spellsTarget hname h)]
  obtain ⟨colons, tail, hcolons, -, hcolon, hequals⟩ := h
  rw [List.append_assoc]
  refine ofText_of_name hname ?_ (startsSeparator_of_colons hcolons hcolon hequals)
  rcases hcolons with rfl | rfl <;> rfl

/-! ### Reading what was written -/

theorem map_classify_of_spellsComment {ps cs : List Text} (hps : ∀ p ∈ ps, '\n' ∉ p)
    (h : List.Forall₂ SpellsComment ps cs) : cs.map Line.classify = ps.map .comment := by
  induction h with
  | nil => rfl
  | cons hc _ ih =>
    rw [List.map_cons, List.map_cons, classify_of_spellsComment (hps _ List.mem_cons_self) hc,
      ih fun p hp => hps p (List.mem_cons_of_mem _ hp)]

theorem lineFeed_not_mem_of_spellsComments {ps cs : List Text} (hps : ∀ p ∈ ps, '\n' ∉ p)
    (h : List.Forall₂ SpellsComment ps cs) : ∀ c ∈ cs, '\n' ∉ c := by
  induction h with
  | nil => simp
  | cons hc _ ih =>
    have hfirst := lineFeed_not_mem_of_spellsComment (hps _ List.mem_cons_self) hc
    exact List.forall_mem_cons.mpr ⟨hfirst, ih fun p hp => hps p (List.mem_cons_of_mem _ hp)⟩

theorem lineFeed_not_mem_of_lines {t p : Text} (h : p ∈ Text.lines t) : '\n' ∉ p :=
  Text.not_mem_of_mem_cut h

theorem lineFeed_not_mem_of_writes {ds : List Documented} {ls : List Text} (h : Writes ds ls) :
    ∀ l ∈ ls, '\n' ∉ l := by
  induction h with
  | nil => simp
  | filler hline _ _ ih => exact List.forall_mem_cons.mpr ⟨hline, ih⟩
  | node hname hcs hl _ ih =>
    have hcomments :=
      lineFeed_not_mem_of_spellsComments (fun p hp => lineFeed_not_mem_of_lines hp) hcs
    have htarget := lineFeed_not_mem_of_spellsTarget hname hl
    exact List.forall_mem_append.mpr ⟨hcomments, List.forall_mem_cons.mpr ⟨htarget, ih⟩⟩

theorem documentedFrom_of_writes {ds : List Documented} {ls : List Text} (h : Writes ds ls) :
    documentedFrom [] (ls.map Line.classify) = ds := by
  induction h with
  | nil => rfl
  | filler _ hl _ ih =>
    rw [List.map_cons, documentedFrom_nil_cons hl]
    exact ih
  | @node d ds cs l ls hname hcs hl _ ih =>
    -- the pieces of the comment are the block when the declaration is read
    have hblock := map_classify_of_spellsComment (fun p hp => lineFeed_not_mem_of_lines hp) hcs
    have hne : Text.lines d.comment ≠ [] := Text.cut_ne_nil _ _
    have hcomment : Text.joinLines (Text.lines d.comment) = d.comment := Text.join_cut _
    rw [List.map_append, List.map_cons, hblock, classify_of_spellsTarget hname hl,
      documentedFrom_comments, List.nil_append, documentedFrom_target hne, hcomment, ih]

/-! ### Writing what was read -/

theorem target_mem_of_mem_documentedFrom {block : List Text} {ls : List Line} {d : Documented}
    (h : d ∈ documentedFrom block ls) : .target d.target ∈ ls := by
  induction ls generalizing block with
  | nil => cases h
  | cons l ls ih =>
    rcases List.mem_append.mp h with h | h
    · cases l with
      | comment t => cases h
      | other t => cases h
      | target name =>
        rw [documentedBy] at h
        split at h
        · cases h
        · obtain rfl := List.mem_singleton.mp h
          exact List.mem_cons_self
    · exact List.mem_cons_of_mem _ (ih h)

theorem isName_of_mem_documented {t : Text} {d : Documented} (h : d ∈ documented t) :
    IsName d.target := by
  rw [documented_eq_documentedFrom] at h
  obtain ⟨l, -, hl⟩ := List.mem_map.mp (target_mem_of_mem_documentedFrom h)
  exact Line.isName_of_classify hl

theorem writes_canonical {ds : List Documented} (h : ∀ d ∈ ds, IsName d.target) :
    Writes ds (canonical ds) := by
  induction ds with
  | nil => exact .nil
  | cons d ds ih =>
    have hcs : List.Forall₂ SpellsComment (Text.lines d.comment)
        ((Text.lines d.comment).map (['#', '#', ' '] ++ ·)) :=
      List.forall₂_map_right_iff.mpr (List.forall₂_same.mpr fun p _ => .spaced)
    have hl : SpellsTarget d.target (d.target ++ [':'] ++ []) :=
      .mk [':'] [] (.inl rfl) (by simp) (by simp) (by simp)
    rw [List.append_nil] at hl
    rw [canonical, List.flatMap_cons, List.append_assoc, List.singleton_append]
    exact .node (h d List.mem_cons_self) hcs hl (ih fun e he => h e (List.mem_cons_of_mem _ he))

/-- **Writing and reading.** Documented targets that are written in any way are read back, and all
that is ever read can be written again in the canonical way and is then read as the same. -/
theorem documented_written :
    (∀ ds ls, Writes ds ls → documented (Text.joinLines ls) = ds)
      ∧ ∀ t, (∀ d ∈ documented t, IsName d.target)
        ∧ documented (Text.joinLines (canonical (documented t))) = documented t := by
  have hread : ∀ ds ls, Writes ds ls → documented (Text.joinLines ls) = ds := by
    intro ds ls h
    rw [documented_joinLines (lineFeed_not_mem_of_writes h), documentedFrom_of_writes h]
  have hnames : ∀ t, ∀ d ∈ documented t, IsName d.target := fun t d hd =>
    isName_of_mem_documented hd
  exact ⟨hread, fun t => ⟨hnames t, hread _ _ (writes_canonical (hnames t))⟩⟩

/-- Both spellings of the marker and of the colon, an empty piece, and pieces that look like a marker and
an assignment. -/
theorem documented_written_both_spellings :
    Writes [⟨"a".toList, "\n## b".toList⟩, ⟨"b.c".toList, "x := 1".toList⟩]
        ["z:".toList, "##".toList, "## ## b".toList, "a:: d".toList, "y = 2".toList,
          "##x := 1".toList, "b.c: ;:".toList]
      ∧ documented "z:\n##\n## ## b\na:: d\ny = 2\n##x := 1\nb.c: ;:".toList
        = [⟨"a".toList, "\n## b".toList⟩, ⟨"b.c".toList, "x := 1".toList⟩] := by
  have hcs : List.Forall₂ SpellsComment (Text.lines "\n## b".toList)
      ["##".toList, "## ## b".toList] :=
    .cons (.tight (by decide)) (.cons .spaced .nil)
  have hcs' : List.Forall₂ SpellsComment (Text.lines "x := 1".toList) ["##x := 1".toList] :=
    .cons (.tight (by decide)) .nil
  have hl : SpellsTarget "a".toList "a:: d".toList :=
    .mk "::".toList " d".toList (.inr rfl) (by decide) (by decide) (by decide)
  have hl' : SpellsTarget "b.c".toList "b.c: ;:".toList :=
    .mk ":".toList " ;:".toList (.inl rfl) (by decide) (by decide) (by decide)
  have hz : ∀ t, Line.classify "z:".toList ≠ .comment t := by
    intro t
    rw [show Line.classify "z:".toList = .target "z".toList by decide]
    simp
  have hy : ∀ t, Line.classify "y = 2".toList ≠ .comment t := by
    intro t
    rw [show Line.classify "y = 2".toList = .other "y = 2".toList by decide]
    simp
  have hlast := Writes.node (d := ⟨"b.c".toList, "x := 1".toList⟩) (by decide) hcs' hl' .nil
  have hfirst := Writes.node (d := ⟨"a".toList, "\n## b".toList⟩) (by decide) hcs hl
    (.filler (by decide) hy hlast)
  have h := Writes.filler (by decide) hz hfirst
  exact ⟨h, documented_written.1 _ _ h⟩

end TargetDocs.Makefile
