/-
How an entry is shown.

An entry takes a line: its target, filled up with spaces to the width of the target column, and its
short description. A verbose listing adds a long description, if there is one, on the next lines and an
empty line after it. In colour, targets are green, the default goal is blue and short descriptions are
cyan.

Main statements:
* `render_eq_ok_iff` — an entry can be shown exactly if the width of the column fits a machine word;
* `renderAll_of_inRange` — then all of them can;
* `chars_layOut` — the text is the same for every choice of colours.
-/
import TargetDocs.Entry
import TargetDocs.Terminal

namespace TargetDocs

/-- The usual width of the target column. -/
def Listing.defaultWidth : Int := 30

/-- How entries are shown. -/
structure Style where
  /-- long descriptions are shown too -/
  verbose : Bool := false
  /-- the text is painted and its tabs are expanded -/
  colorize : Bool := false
  /-- the width of the target column in characters; a width below one adds no spaces -/
  columnWidth : Int := Listing.defaultWidth
  /-- the terminal takes no escape sequences -/
  noColor : Bool := false
  deriving DecidableEq, Repr

/-- Why an entry cannot be shown. -/
inductive RenderFault
  /-- the width of the target column is no signed number of 64 bits -/
  | widthOutOfRange
  deriving DecidableEq, Repr

def RenderFault.message : RenderFault → Text
  | .widthOutOfRange => "Python int too large to convert to C ssize_t".toList

namespace Listing

/-- A width that a signed machine word of 64 bits holds. -/
def InRange (width : Int) : Prop :=
  -9223372036854775808 ≤ width ∧ width ≤ 9223372036854775807

instance (width : Int) : Decidable (InRange width) := inferInstanceAs (Decidable (_ ∧ _))

/-- The colour of the target. -/
def targetColor (e : Entry) : Color := if e.isDefault then .blue else .green

/-- The long description with an empty line after it, nothing if there is none. -/
def longPart (e : Entry) : Text := if e.long = [] then [] else e.long ++ ['\n', '\n']

/-- The entry in colours. -/
def layOut (s : Style) (e : Entry) : Painted :=
  Terminal.paint (some (targetColor e)) (Text.padRight s.columnWidth e.target)
    ++ Terminal.paint (some .cyan) e.short
    ++ Terminal.paint none ['\n']
    ++ Terminal.paint none (if s.verbose then longPart e else [])

/-- The text of an entry. -/
def text (s : Style) (e : Entry) : Text :=
  if s.colorize then
    if s.noColor then Terminal.writtenPlain (layOut s e) else Terminal.written (layOut s e)
  else Terminal.chars (layOut s e)

/-- Shows an entry, if the width allows it. -/
def render (s : Style) (e : Entry) : Except RenderFault Text :=
  if InRange s.columnWidth then .ok (text s e) else .error .widthOutOfRange

/-- An entry can be shown exactly if the width of the column is in range. -/
theorem render_eq_ok_iff {s : Style} {e : Entry} {t : Text} :
    render s e = .ok t ↔ InRange s.columnWidth ∧ text s e = t := by
  unfold render
  split <;> simp_all

/-- Shows entries one by one, until one cannot be shown. -/
def renderAll (s : Style) : List Entry → Except RenderFault (List Text)
  | [] => .ok []
  | e :: es =>
    match render s e with
    | .error fault => .error fault
    | .ok t => (t :: ·) <$> renderAll s es

/-- In range every entry can be shown. -/
theorem renderAll_of_inRange {s : Style} (h : InRange s.columnWidth) (es : List Entry) :
    renderAll s es = .ok (es.map (text s)) := by
  induction es with
  | nil => rfl
  | cons e es ih =>
    rw [renderAll, render_eq_ok_iff.2 ⟨h, rfl⟩, ih]
    rfl

/-- Out of range no entry can be shown. -/
theorem renderAll_of_not_inRange {s : Style} (h : ¬ InRange s.columnWidth) {es : List Entry}
    (hne : es ≠ []) : renderAll s es = .error .widthOutOfRange := by
  cases es with
  | nil => exact absurd rfl hne
  | cons e es => rw [renderAll, render, if_neg h]

/-- The characters that are shown, whatever their colours. -/
theorem chars_layOut (s : Style) (e : Entry) :
    Terminal.chars (layOut s e)
      = Terminal.shown (Text.padRight s.columnWidth e.target ++ e.short ++ ['\n']
        ++ if s.verbose then longPart e else []) := by
  simp only [layOut, Terminal.chars_append, Terminal.chars_paint, Terminal.shown, List.filter_append]

end Listing

end TargetDocs
