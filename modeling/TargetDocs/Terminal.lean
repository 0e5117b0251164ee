/-
Coloured text for a terminal.

A painted text gives each character a colour or none. When it is written, tabs become spaces up to the
next stop, which lies at every eighth cell of a line, and every run of one colour stands between the
escape sequence that sets the colour and the one that resets it. No run reaches over a tab stop or a
line feed, and nothing is written around text without a colour.

Main statements:
* `flatten_runs` — grouping by colour keeps every character with its colour;
* `tabWidth_dvd_cells_tabSpaces` — the spaces for a tab end at a tab stop;
* `flatten_expandTabs_of_noTab` — without tabs the text stays as it is.
-/
import TargetDocs.Text.Extent

namespace TargetDocs

/-- The colours in use. -/
inductive Color
  | green
  | blue
  | cyan
  deriving DecidableEq, Repr

/-- The number that selects a colour for the text after it. -/
def Color.code : Color → Text
  | .green => "32".toList
  | .blue => "34".toList
  | .cyan => "36".toList

/-- Characters, each with its colour or none. -/
abbrev Painted := List (Char × Option Color)

namespace Terminal

/-- The distance of tab stops in cells. -/
def tabWidth : Nat := 8

/-- A character that reaches a terminal. The bell, the backspace, the vertical tab, the form feed and
the carriage return are left out. -/
def isShown (c : Char) : Bool :=
  !(c = '\x07' || c = '\x08' || c = '\x0b' || c = '\x0c' || c = '\r')

/-- The characters of a text that are shown. -/
def shown (t : Text) : Text := t.filter isShown

/-- A text in one colour. Line feeds never have one. -/
def paint (color : Option Color) (t : Text) : Painted :=
  (shown t).map fun c => (c, if c = '\n' then none else color)

/-- The characters of a painted text. -/
def chars (p : Painted) : Text := p.map Prod.fst

/-- Puts a character in front of the first part. -/
def attach (x : Char × Option Color) : List Painted → List Painted
  | [] => [[x]]
  | p :: ps => (x :: p) :: ps

/-- The number of spaces for a tab: one, and as many more as lead from there to a tab stop. -/
def tabSpaces (e : Text.Extent) : Nat :=
  1 + (tabWidth - (e.push ' ').cells % tabWidth) % tabWidth

/-- The parts of a painted text, which end with its tabs, with spaces for each tab; `e` is the extent
of the line so far, from its last tab stop. The spaces have the colour of their tab. What a part
ends with does not act on the part after it. -/
def expandTabs (e : Text.Extent) : Painted → List Painted
  | [] => []
  | (c, color) :: p =>
    if c = '\t' then List.replicate (tabSpaces e) (' ', color) :: expandTabs {} p
    else attach (c, color) (expandTabs (if c = '\n' then {} else e.push c) p)

/-- The longest runs of one colour. -/
def runs : Painted → List (Option Color × Text)
  | [] => []
  | (c, color) :: p =>
    match runs p with
    | [] => [(color, [c])]
    | (other, t) :: rest =>
      if color = other then (color, c :: t) :: rest else (color, [c]) :: (other, t) :: rest

/-- The escape sequence that sets a colour. -/
def setColor (c : Color) : Text := '\x1b' :: '[' :: c.code ++ ['m']

/-- The escape sequence that resets the colour. -/
def resetColor : Text := ['\x1b', '[', '0', 'm']

/-- A run as a terminal is sent it. -/
def writtenRun : Option Color × Text → Text
  | (none, t) => t
  | (some c, t) => setColor c ++ t ++ resetColor

/-- A painted text as a terminal is sent it. -/
def written (p : Painted) : Text :=
  (expandTabs {} p).flatMap fun part => (runs part).flatMap writtenRun

/-- A painted text as a terminal without colours is sent it. -/
def writtenPlain (p : Painted) : Text := (expandTabs {} p).flatMap chars

@[simp] theorem chars_append (p q : Painted) : chars (p ++ q) = chars p ++ chars q := by
  simp [chars]

/-- The characters of a painted text are those that are shown. -/
@[simp] theorem chars_paint (color : Option Color) (t : Text) : chars (paint color t) = shown t := by
  simp [chars, paint, Function.comp_def]

/-- Grouping by colour keeps every character with its colour. -/
theorem flatten_runs (p : Painted) :
    (runs p).flatMap (fun r => r.2.map fun c => (c, r.1)) = p := by
  induction p with
  | nil => rfl
  | cons x p ih =>
    obtain ⟨c, color⟩ := x
    unfold runs
    split
    · next h =>
      rw [h] at ih
      rw [← ih]
      rfl
    · next other t rest h =>
      rw [h] at ih
      split
      · next heq =>
        subst heq
        rw [← ih]
        rfl
      · rw [← ih]
        rfl

/-- The spaces for a tab end at a tab stop. -/
theorem tabWidth_dvd_cells_tabSpaces (e : Text.Extent) :
    tabWidth ∣ (e.pushAll (List.replicate (tabSpaces e) ' ')).cells := by
  rw [tabSpaces, Nat.add_comm, List.replicate_succ, Text.Extent.pushAll_cons,
    Text.Extent.cells_pushAll_spaces (Text.Extent.joined_push_space e), tabWidth]
  omega

theorem flatten_attach (x : Char × Option Color) (ps : List Painted) :
    (attach x ps).flatten = x :: ps.flatten := by
  cases ps <;> rfl

/-- Without tabs nothing changes but the grouping into parts. -/
theorem flatten_expandTabs_of_noTab (e : Text.Extent) {p : Painted} (h : ∀ x ∈ p, x.1 ≠ '\t') :
    (expandTabs e p).flatten = p := by
  induction p generalizing e with
  | nil => rfl
  | cons x p ih =>
    have hx : x.1 ≠ '\t' := h x List.mem_cons_self
    rw [expandTabs, if_neg hx, flatten_attach, ih _ fun y hy => h y (List.mem_cons_of_mem _ hy)]

/-- The space for a tab has the colour of the tab, and no run reaches over a tab stop. -/
example : written (paint (some .green) "ab\tc".toList)
    = "\x1b[32mab      \x1b[0m\x1b[32mc\x1b[0m".toList := by decide

end Terminal

end TargetDocs
