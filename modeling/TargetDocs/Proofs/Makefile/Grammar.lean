/-
The grammar of lines.

A line is recognised from its left end: by the marker of a comment, or by a name with a separator right
behind it. Here both are said without the reader, and lines are shown to be exactly what they spell:

* `isNameChar_iff` — the characters of names, by ranges;
* `startsSeparator_iff` — a separator is a single or double colon that nothing after it changes;
* `Declares.unique` — a line declares in one way only;
* `ofText_eq_comment_iff`, `ofText_eq_target_iff`, `ofText_eq_other_iff` — when a line is of each kind;
* `classify_grammar` — all of it, and what line feeds change.
-/
import Mathlib.Data.List.TakeWhile
import TargetDocs.Proofs.Makefile.Writing
import TargetDocs.Proofs.Text.Lines

namespace TargetDocs.Makefile

/-- The marker of a comment. -/
def commentMarker : Text := ['#', '#']

/-- A Latin letter, a decimal digit, a dot, an underscore or a hyphen. -/
def IsNameLetter (c : Char) : Prop :=
  ('A' ≤ c ∧ c ≤ 'Z') ∨ ('a' ≤ c ∧ c ≤ 'z') ∨ ('0' ≤ c ∧ c ≤ '9') ∨ c = '.' ∨ c = '_' ∨ c = '-'

/-- The line is a name, then one colon or two, then a rest that makes them neither a longer row of colons
nor an assignment. -/
structure Declares (l name colons rest : Text) : Prop where
  line_eq : l = name ++ colons ++ rest
  name_ne_nil : name ≠ []
  letters : ∀ c ∈ name, IsNameLetter c
  colons_eq : colons = [':'] ∨ colons = [':', ':']
  noColon : rest.head? ≠ some ':'
  noEquals : rest.head? ≠ some '='

variable {l name colons rest : Text}

/-! ### Names and separators -/

theorem isNameChar_iff {c : Char} : isNameChar c ↔ IsNameLetter c := by
  have hranges : isNameChar c
      = (decide ('A' ≤ c ∧ c ≤ 'Z') || ('a' ≤ c && c ≤ 'z') || ('0' ≤ c && c ≤ '9')
        || c = '.' || c = '_' || c = '-') := rfl
  simp only [hranges, IsNameLetter, Bool.or_eq_true, Bool.and_eq_true, decide_eq_true_eq, or_assoc]

theorem toNat_of_isNameChar {c : Char} (h : isNameChar c) : 45 ≤ c.toNat ∧ c.toNat ≤ 122 := by
  rcases isNameChar_iff.mp h with hupper | hlower | hdigit | rfl | rfl | rfl
  · exact ⟨Nat.le_trans (by decide) hupper.1, Nat.le_trans hupper.2 (by decide)⟩
  · exact ⟨Nat.le_trans (by decide) hlower.1, Nat.le_trans hlower.2 (by decide)⟩
  · exact ⟨Nat.le_trans (by decide) hdigit.1, Nat.le_trans hdigit.2 (by decide)⟩
  all_goals decide

theorem isName_iff : IsName name ↔ name ≠ [] ∧ ∀ c ∈ name, IsNameLetter c := by
  simp only [IsName, List.all_eq_true, isNameChar_iff]

theorem endsSeparator_iff :
    endsSeparator rest ↔ rest.head? ≠ some ':' ∧ rest.head? ≠ some '=' := by
  refine ⟨fun h => ?_, fun h => endsSeparator_of_head? h.1 h.2⟩
  constructor
  all_goals
    intro hhead
    obtain ⟨more, rfl⟩ := List.head?_eq_some_iff.mp hhead
    cases h

theorem startsSeparator_iff {t : Text} :
    startsSeparator t ↔ ∃ colons rest, t = colons ++ rest ∧ (colons = [':'] ∨ colons = [':', ':'])
      ∧ rest.head? ≠ some ':' ∧ rest.head? ≠ some '=' := by
  constructor
  · intro h
    unfold startsSeparator at h
    split at h
    · next rest => exact ⟨[':', ':'], rest, rfl, .inr rfl, endsSeparator_iff.mp h⟩
    · next rest _ => exact ⟨[':'], rest, rfl, .inl rfl, endsSeparator_iff.mp h⟩
    · cases h
  · rintro ⟨colons, rest, rfl, hcolons, hcolon, hequals⟩
    exact startsSeparator_of_colons hcolons hcolon hequals

/-! ### Declarations -/

theorem Declares.isName (h : Declares l name colons rest) : IsName name :=
  isName_iff.mpr ⟨h.name_ne_nil, h.letters⟩

theorem Declares.head?_colons (h : Declares l name colons rest) :
    (colons ++ rest).head? = some ':' := by
  rcases h.colons_eq with rfl | rfl <;> rfl

/-- The name ends where the name characters do. -/
theorem Declares.span (h : Declares l name colons rest) :
    l.takeWhile isNameChar = name ∧ l.dropWhile isNameChar = colons ++ rest := by
  obtain ⟨more, hmore⟩ := List.head?_eq_some_iff.mp h.head?_colons
  rw [h.line_eq, List.append_assoc, hmore]
  exact span_name h.isName more

/-- A line declares in one way only. -/
theorem Declares.unique {name' colons' rest' : Text} (h : Declares l name colons rest)
    (h' : Declares l name' colons' rest') : name = name' ∧ colons = colons' ∧ rest = rest' := by
  have hbehind : colons ++ rest = colons' ++ rest' := h.span.2.symm.trans h'.span.2
  refine ⟨h.span.1.symm.trans h'.span.1, ?_⟩
  -- if only one of the two has a second colon, the other one's rest begins with it
  rcases h.colons_eq with rfl | rfl <;> rcases h'.colons_eq with rfl | rfl
  · exact ⟨rfl, List.append_cancel_left hbehind⟩
  · exact absurd (congrArg List.head? (List.cons.inj hbehind).2) h.noColon
  · exact absurd (congrArg List.head? (List.cons.inj hbehind).2.symm) h'.noColon
  · exact ⟨rfl, List.append_cancel_left hbehind⟩

theorem declares_of_startsSeparator (hname : l.takeWhile isNameChar ≠ [])
    (h : startsSeparator (l.dropWhile isNameChar)) :
    ∃ colons rest, Declares l (l.takeWhile isNameChar) colons rest := by
  obtain ⟨colons, rest, hsplit, hcolons, hcolon, hequals⟩ := startsSeparator_iff.mp h
  have hline : l = l.takeWhile isNameChar ++ colons ++ rest := by
    rw [List.append_assoc, ← hsplit, List.takeWhile_append_dropWhile]
  have hletters : ∀ c ∈ l.takeWhile isNameChar, IsNameLetter c :=
    fun c hc => isNameChar_iff.mp (List.mem_takeWhile_imp hc)
  exact ⟨colons, rest, hline, hname, hletters, hcolons, hcolon, hequals⟩

/-! ### The kinds of lines -/

theorem ofText_eq_comment_iff {t : Text} :
    Line.ofText l = .comment t ↔ ∃ r, l = commentMarker ++ r ∧ t = dropSpace r := by
  constructor
  · intro h
    unfold Line.ofText at h
    split at h
    · next r =>
      cases h
      exact ⟨r, rfl, rfl⟩
    · dsimp only at h
      split at h <;> cases h
  · rintro ⟨r, rfl, rfl⟩
    rfl

theorem ofText_of_noMarker (h : ¬ commentMarker <+: l) :
    Line.ofText l
      = if l.takeWhile isNameChar ≠ [] ∧ startsSeparator (l.dropWhile isNameChar)
        then .target (l.takeWhile isNameChar) else .other l := by
  unfold Line.ofText
  split
  · next r => exact absurd ⟨r, rfl⟩ h
  · rfl

theorem ofText_of_declares (h : Declares l name colons rest) : Line.ofText l = .target name := by
  rw [h.line_eq, List.append_assoc]
  exact ofText_of_name h.isName h.head?_colons
    (startsSeparator_of_colons h.colons_eq h.noColon h.noEquals)

theorem ofText_eq_target_iff :
    Line.ofText l = .target name ↔ ¬ commentMarker <+: l ∧ ∃ colons rest, Declares l name colons rest := by
  constructor
  · intro h
    have hmarker : ¬ commentMarker <+: l := by
      rintro ⟨r, rfl⟩
      cases h
    refine ⟨hmarker, ?_⟩
    rw [ofText_of_noMarker hmarker] at h
    split at h
    · next hdeclares =>
      cases h
      exact declares_of_startsSeparator hdeclares.1 hdeclares.2
    · cases h
  · rintro ⟨-, colons, rest, h⟩
    exact ofText_of_declares h

theorem ofText_eq_other_iff {t : Text} :
    Line.ofText l = .other t
      ↔ t = l ∧ ¬ commentMarker <+: l ∧ ∀ name colons rest, ¬ Declares l name colons rest := by
  constructor
  · intro h
    have hmarker : ¬ commentMarker <+: l := by
      rintro ⟨r, rfl⟩
      cases h
    have hline : t = l := by
      rw [ofText_of_noMarker hmarker] at h
      split at h <;> cases h
      rfl
    exact ⟨hline, hmarker, fun name colons rest hdeclares =>
      Line.noConfusion (h.symm.trans (ofText_of_declares hdeclares))⟩
  · rintro ⟨rfl, hmarker, hnone⟩
    rw [ofText_of_noMarker hmarker, if_neg]
    rintro ⟨hname, hseparator⟩
    obtain ⟨colons, rest, h⟩ := declares_of_startsSeparator hname hseparator
    exact hnone _ _ _ h

/-- **The kinds of lines.** A line without line feeds is a comment exactly if it begins with the marker, and
one space behind it does not count. Otherwise it declares a target exactly if it is a name, a single or double
colon and a rest that begins with neither a colon nor an equals sign, which it is in one way at most. All other
lines are kept as they are. Of a text with line feeds only what comes before the first one counts. -/
theorem classify_grammar :
    (∀ l, '\n' ∉ l →
      (∀ t, Line.classify l = .comment t
          ↔ ∃ r, l = commentMarker ++ r ∧ t = if r.head? = some ' ' then r.tail else r)
        ∧ (∀ name, Line.classify l = .target name
          ↔ ¬ commentMarker <+: l ∧ ∃ colons rest, Declares l name colons rest)
        ∧ (∀ name colons rest name' colons' rest', Declares l name colons rest →
          Declares l name' colons' rest' → name = name' ∧ colons = colons')
        ∧ (∀ t, Line.classify l = .other t
          ↔ t = l ∧ ¬ commentMarker <+: l ∧ ∀ name colons rest, ¬ Declares l name colons rest))
      ∧ ∀ l t, '\n' ∉ l → Line.classify (l ++ '\n' :: t) = Line.classify l := by
  have hspace : ∀ r, dropSpace r = if r.head? = some ' ' then r.tail else r := by
    intro r
    unfold dropSpace
    split
    · rfl
    · next hno =>
      rw [if_neg]
      intro hhead
      obtain ⟨more, rfl⟩ := List.head?_eq_some_iff.mp hhead
      exact hno more rfl
  refine ⟨fun l hl => ?_, fun l t hl => ?_⟩
  · rw [Line.classify_of_not_mem hl]
    refine ⟨fun t => ?_, fun name => ofText_eq_target_iff, ?_, fun t => ofText_eq_other_iff⟩
    · simp only [ofText_eq_comment_iff, hspace]
    · intro name colons rest name' colons' rest' h h'
      exact ⟨(h.unique h').1, (h.unique h').2.1⟩
  · rw [← Line.classify_firstLine, Text.firstLine_append hl (.inr rfl)]

/-- A tab behind the colons, a name that begins with a hyphen, and text behind a line feed. -/
theorem classify_grammar_two_colons :
    Declares "-a.B_9::\t= c".toList "-a.B_9".toList "::".toList "\t= c".toList
      ∧ Line.classify "-a.B_9::\t= c\n## d".toList = .target "-a.B_9".toList
      ∧ ∀ name colons rest, ¬ Declares "a:::".toList name colons rest := by
  have hdeclares : Declares "-a.B_9::\t= c".toList "-a.B_9".toList "::".toList "\t= c".toList :=
    ⟨rfl, by decide, fun c hc => isNameChar_iff.mp (List.all_eq_true.mp (by decide) c hc), .inr rfl,
      by decide, by decide⟩
  refine ⟨hdeclares, ?_, ?_⟩
  · have hcut : "-a.B_9::\t= c\n## d".toList = "-a.B_9::\t= c".toList ++ '\n' :: "## d".toList := rfl
    rw [hcut, classify_grammar.2 _ _ (by decide)]
    exact ((classify_grammar.1 _ (by decide)).2.1 _).mpr ⟨by decide, _, _, hdeclares⟩
  · exact (((classify_grammar.1 "a:::".toList (by decide)).2.2.2 "a:::".toList).mp (by decide)).2.2

end TargetDocs.Makefile
