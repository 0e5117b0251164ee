/-
The lines of a Makefile, as far as documentation goes.

A line is a documentation comment, the declaration of a target, or something else. Comments begin
with two number signs in the first column; one space after them belongs to the marker. A declaration
begins with a name in the first column and a single or double colon right after it, which is not part
of an assignment operator.

Lines are equal if they are of one kind and have the same text (`Line.same`).

* `same_iff` — this comparison decides equality;
* `classify_firstLine` — only the text before the first line feed counts;
* `isName_of_classify` — a declared name is not empty and made of name characters only;
* `lineFeed_not_mem_of_classify` — a comment holds no line feed.
-/
import TargetDocs.Text.Basic

namespace TargetDocs.Makefile

/-- A character that target names are made of. -/
def isNameChar (c : Char) : Bool :=
  c.isAlphanum || c = '.' || c = '_' || c = '-'

/-- A text that can name a target: name characters, at least one. -/
def IsName (t : Text) : Prop := t ≠ [] ∧ t.all isNameChar

instance (t : Text) : Decidable (IsName t) := inferInstanceAs (Decidable (_ ∧ _))

/-- A line of a Makefile. -/
inductive Line
  /-- a documentation comment, without its marker -/
  | comment (text : Text)
  /-- the declaration of a target of that name -/
  | target (name : Text)
  /-- any other line -/
  | other (text : Text)
  deriving DecidableEq, Repr

/-- The name of the kind of a line. -/
def Line.kind : Line → String
  | .comment _ => "CommentLine"
  | .target _ => "TargetLine"
  | .other _ => "OtherLine"

/-- The text that a line is kept with. -/
def Line.value : Line → Text
  | .comment t => t
  | .target t => t
  | .other t => t

/-- The comparison of two lines: they are of one kind and have the same text. -/
def Line.same (a b : Line) : Bool := b.kind == a.kind && a.value == b.value

/-- The comparison decides equality. -/
theorem Line.same_iff {a b : Line} : a.same b = true ↔ a = b := by
  cases a <;> cases b <;> simp [same, kind, value]

/-- The text does not go on with a colon or an equals sign. -/
def endsSeparator : Text → Bool
  | ':' :: _ => false
  | '=' :: _ => false
  | _ => true

/-- The text begins with a colon, or two, that separate a target from what it needs. -/
def startsSeparator : Text → Bool
  | ':' :: ':' :: t => endsSeparator t
  | ':' :: t => endsSeparator t
  | _ => false

/-- The text without one space at its start. -/
def dropSpace : Text → Text
  | ' ' :: t => t
  | t => t

/-- What a line without line feeds is. -/
def Line.ofText : Text → Line
  | '#' :: '#' :: t => .comment (dropSpace t)
  | t =>
    let name := t.takeWhile isNameChar
    if name ≠ [] ∧ startsSeparator (t.dropWhile isNameChar) then .target name else .other t

/-- What the first line of a text is. -/
def Line.classify (t : Text) : Line := Line.ofText (Text.firstLine t)

/-- Only the text before the first line feed counts. -/
theorem Line.classify_firstLine (t : Text) :
    Line.classify (Text.firstLine t) = Line.classify t := by
  rw [Line.classify, Text.firstLine_of_not_mem (Text.lineFeed_not_mem_firstLine t), Line.classify]

theorem Line.classify_of_not_mem {t : Text} (h : '\n' ∉ t) :
    Line.classify t = Line.ofText t := by
  rw [Line.classify, Text.firstLine_of_not_mem h]

/-- A declared name is a name. -/
theorem Line.isName_of_classify {t name : Text} (h : Line.classify t = .target name) :
    IsName name := by
  unfold Line.classify Line.ofText at h
  split at h
  · cases h
  · dsimp only at h
    split at h
    · next hn =>
      cases h
      exact ⟨hn.1, by simp⟩
    · cases h

theorem dropSpace_suffix (t : Text) : dropSpace t <:+ t := by
  unfold dropSpace
  split
  · exact List.suffix_cons _ _
  · exact List.suffix_refl _

/-- The text of a comment lies in its line. -/
theorem Line.lineFeed_not_mem_of_classify {t text : Text} (h : Line.classify t = .comment text) :
    '\n' ∉ text := by
  unfold Line.classify Line.ofText at h
  split at h
  · next rest hline =>
    cases h
    intro hmem
    refine Text.lineFeed_not_mem_firstLine t ?_
    rw [hline]
    exact List.mem_cons_of_mem _ (List.mem_cons_of_mem _ ((dropSpace_suffix rest).subset hmem))
  · dsimp only at h
    split at h <;> cases h

example : Line.classify "## Build it".toList = .comment "Build it".toList := by decide

example : Line.classify "build:: all".toList = .target "build".toList := by decide

example : Line.classify "CC := gcc".toList = .other "CC := gcc".toList := by decide

end TargetDocs.Makefile
