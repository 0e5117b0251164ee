/-
Which text of a coloured entry has which colour.

A coloured text is read here as it is, character by character: `StyledAs` says which style each of them stands
in, and there is no reading if a style is set for no text, for text of two lines, within another one, or is
left open.

* `StyledAs.unique` — a text can be read in one way;
* `StyledAs.lines`, `stylesBehind_of_styledAs` — so can its lines, and none of them leaves a style open;
* `styledAs_written` — what is written for painted text is read as that text with its colours;
* `styled_pieces` — so the target and the short description of an entry have their colours, and nothing
  else has one.
-/
import TargetDocs.Proofs.Listing.VisibleText

namespace TargetDocs

namespace Terminal

/-! ### Styled text -/

/-- The escape sequence that sets the style with a code. -/
def openStyle (code : Text) : Text := '\x1b' :: '[' :: code ++ ['m']

/-- The text shows these characters, each in the style with that code or in none. A style is set for at least
one character of one line, and it is reset right behind the characters it is set for. -/
inductive StyledAs : Text → List (Char × Option Text) → Prop
  | nil : StyledAs [] []
  | bare {c : Char} {t : Text} {xs : List (Char × Option Text)} (hc : c ≠ '\x1b')
      (hrest : StyledAs t xs) : StyledAs (c :: t) ((c, none) :: xs)
  | styled {code piece t : Text} {xs : List (Char × Option Text)} (hcode : code.all isParameter)
      (hne : piece ≠ []) (hescape : '\x1b' ∉ piece) (hfeed : '\n' ∉ piece) (hrest : StyledAs t xs) :
      StyledAs (openStyle code ++ (piece ++ (resetColor ++ t)))
        (piece.map (fun c => (c, some code)) ++ xs)

variable {c : Char} {code piece t : Text} {xs ys : List (Char × Option Text)}

theorem StyledAs.eq_of_bare (h : StyledAs (c :: t) xs) (hc : c ≠ '\x1b') :
    ∃ ys, xs = (c, none) :: ys ∧ StyledAs t ys := by
  generalize hu : c :: t = u at h
  cases h with
  | nil => cases hu
  | bare _ hrest =>
    obtain ⟨rfl, rfl⟩ := List.cons.inj hu
    exact ⟨_, rfl, hrest⟩
  | styled => exact absurd (List.cons.inj hu).1 hc

theorem openStyle_append (code t : Text) : openStyle code ++ t = '\x1b' :: '[' :: (code ++ 'm' :: t) := by
  simp [openStyle]

theorem not_mem_of_isParameter (h : code.all isParameter) (hc : ¬ isParameter c) : c ∉ code :=
  fun hmem => hc (List.all_eq_true.mp h c hmem)

theorem StyledAs.eq_of_styled (hcode : code.all isParameter) (hescape : '\x1b' ∉ piece)
    (h : StyledAs (openStyle code ++ (piece ++ (resetColor ++ t))) xs) :
    ∃ ys, xs = piece.map (fun c => (c, some code)) ++ ys ∧ StyledAs t ys := by
  generalize hu : openStyle code ++ (piece ++ (resetColor ++ t)) = u at h
  cases h with
  | nil => cases hu
  | bare hc _ => exact absurd (List.cons.inj hu).1.symm hc
  | @styled code' piece' t' xs' hcode' _ hescape' _ hrest =>
    -- the letter behind the code and the next escape character part both texts in the same way
    rw [openStyle_append, openStyle_append] at hu
    have hm : ¬ isParameter 'm' := by decide
    obtain ⟨rfl, hbehind⟩ := Text.append_mark_inj (not_mem_of_isParameter hcode hm)
      (not_mem_of_isParameter hcode' hm) (List.cons.inj (List.cons.inj hu).2).2
    obtain ⟨rfl, htail⟩ := Text.append_mark_inj hescape hescape' hbehind
    obtain rfl := @List.append_cancel_left _ ['[', '0', 'm'] t t' htail
    exact ⟨xs', rfl, hrest⟩

/-- A text shows its characters in one way. -/
theorem StyledAs.unique (h : StyledAs t xs) (h' : StyledAs t ys) : ys = xs := by
  induction h generalizing ys with
  | nil => cases h'; rfl
  | bare hc hrest ih =>
    obtain ⟨zs, rfl, hzs⟩ := h'.eq_of_bare hc
    rw [ih hzs]
  | styled hcode hne hescape hfeed hrest ih =>
    obtain ⟨zs, rfl, hzs⟩ := h'.eq_of_styled hcode hescape
    rw [ih hzs]

/-- The lines of the text can be read one by one. -/
theorem StyledAs.lines (h : StyledAs t xs) : ∀ l ∈ Text.lines t, ∃ ys, StyledAs l ys := by
  induction h with
  | nil =>
    intro l hl
    rw [List.mem_singleton.mp hl]
    exact ⟨[], .nil⟩
  | @bare c t xs hc hrest ih =>
    obtain ⟨first, more, ht⟩ := List.exists_cons_of_ne_nil (Text.cut_ne_nil '\n' t)
    rw [Text.lines, ht, List.forall_mem_cons] at ih
    obtain ⟨⟨ys, hys⟩, hmore⟩ := ih
    by_cases hfeed : c = '\n'
    · subst hfeed
      rw [Text.lines, Text.cut_mark_cons, ht, List.forall_mem_cons, List.forall_mem_cons]
      exact ⟨⟨[], .nil⟩, ⟨ys, hys⟩, hmore⟩
    · rw [Text.lines, Text.cut_cons hfeed ht, List.forall_mem_cons]
      exact ⟨⟨_, .bare hc hys⟩, hmore⟩
  | @styled code piece t xs hcode hne hescape hfeed hrest ih =>
    obtain ⟨first, more, ht⟩ := List.exists_cons_of_ne_nil (Text.cut_ne_nil '\n' t)
    rw [Text.lines, ht, List.forall_mem_cons] at ih
    obtain ⟨⟨ys, hys⟩, hmore⟩ := ih
    -- the sequences and the piece have no line feed, so they belong to the first line
    have hopen : '\n' ∉ openStyle code := by
      simpa [openStyle] using @not_mem_of_isParameter '\n' code hcode (by decide)
    have hlines : Text.lines (openStyle code ++ (piece ++ (resetColor ++ t)))
        = (openStyle code ++ (piece ++ (resetColor ++ first))) :: more :=
      lines_append_of_lines hopen (lines_append_of_lines hfeed
        (lines_append_of_lines (by decide) ht))
    rw [hlines, List.forall_mem_cons]
    exact ⟨⟨_, .styled hcode hne hescape hfeed hys⟩, hmore⟩

/-! ### Styles that are left open -/

/-- The code of the escape sequence that a text begins with. -/
def escapeCode (t : Text) : Text := (t.drop 2).takeWhile isParameter

/-- The codes of the styles that are set behind a text and not reset; `set` are those in front of it. The code
zero resets all of them, and so does the empty one. -/
def stylesBehind (set : List Text) : Text → List Text
  | [] => set
  | c :: t =>
    match _h : afterEscape? (c :: t) with
    | some rest =>
      let code := escapeCode (c :: t)
      stylesBehind (if code = [] ∨ code = ['0'] then [] else set ++ [code]) rest
    | none => stylesBehind set t
termination_by t => t.length
decreasing_by
  · exact length_lt_of_afterEscape? _h
  · exact Nat.lt_succ_self _

theorem stylesBehind_append {s : Text} (set : List Text) (h : '\x1b' ∉ s) (t : Text) :
    stylesBehind set (s ++ t) = stylesBehind set t := by
  induction s with
  | nil => rfl
  | cons c s ih =>
    obtain ⟨hc, hs⟩ := not_or.mp fun hmem => h (List.mem_cons.mpr hmem)
    rw [List.cons_append, stylesBehind]
    split
    · next u hu => rw [afterEscape?_of_ne (Ne.symm hc)] at hu; cases hu
    · exact ih hs

theorem span_openStyle (hcode : code.all isParameter) (t : Text) :
    escapeCode (openStyle code ++ t) = code ∧ afterEscape? (openStyle code ++ t) = some t := by
  have hall := List.all_eq_true.mp hcode
  have htake : (code ++ 'm' :: t).takeWhile isParameter = code := by
    rw [List.takeWhile_append_of_pos hall]
    exact List.append_nil code
  have hdrop : (code ++ 'm' :: t).dropWhile isParameter = 'm' :: t :=
    List.dropWhile_append_of_pos hall
  rw [openStyle_append]
  exact ⟨htake, by simp only [afterEscape?, hdrop]⟩

theorem stylesBehind_openStyle (set : List Text) (hcode : code.all isParameter) (t : Text) :
    stylesBehind set (openStyle code ++ t)
      = stylesBehind (if code = [] ∨ code = ['0'] then [] else set ++ [code]) t := by
  obtain ⟨hescape, hafter⟩ := span_openStyle hcode t
  rw [openStyle_append] at hescape hafter ⊢
  rw [stylesBehind]
  split
  · next rest hrest =>
    obtain rfl := Option.some.inj (hrest.symm.trans hafter)
    simp only [hescape]
  · next hnone =>
    rw [hafter] at hnone
    cases hnone

theorem stylesBehind_of_styledAs (h : StyledAs t xs) : stylesBehind [] t = [] := by
  induction h with
  | nil => rw [stylesBehind]
  | @bare c t xs hc hrest ih =>
    have hone : '\x1b' ∉ [c] := fun hmem => hc (List.mem_singleton.mp hmem).symm
    exact (stylesBehind_append [] hone t).trans ih
  | @styled code piece t xs hcode hne hescape hfeed hrest ih =>
    have hreset : resetColor = openStyle ['0'] := rfl
    rw [stylesBehind_openStyle [] hcode, stylesBehind_append _ hescape, hreset,
      stylesBehind_openStyle _ (by decide), if_pos (.inr rfl), ih]

/-! ### Painted text -/

/-- The characters with the codes of their colours. -/
def coded (p : Painted) : List (Char × Option Text) := p.map fun x => (x.1, x.2.map Color.code)

/-- What a run of one colour needs to be read back. -/
structure Readable (r : Option Color × Text) : Prop where
  text_ne_nil : r.2 ≠ []
  noEscape : '\x1b' ∉ r.2
  noLineFeed : '\n' ∈ r.2 → r.1 = none

theorem runs_ne_nil (p : Painted) : ∀ r ∈ runs p, r.2 ≠ [] := by
  induction p with
  | nil => exact fun r hr => absurd hr List.not_mem_nil
  | cons x p ih =>
    obtain ⟨c, color⟩ := x
    rw [runs]
    split
    · exact List.forall_mem_singleton.mpr (List.cons_ne_nil c [])
    · next other t rest hruns =>
      rw [hruns] at ih
      split
      · exact List.forall_mem_cons.mpr ⟨List.cons_ne_nil c t, (List.forall_mem_cons.mp ih).2⟩
      · exact List.forall_mem_cons.mpr ⟨List.cons_ne_nil c [], ih⟩

theorem styledAs_bare {s : Text} (hs : '\x1b' ∉ s) (h : StyledAs t xs) :
    StyledAs (s ++ t) (s.map (fun c => (c, none)) ++ xs) := by
  induction s with
  | nil => exact h
  | cons c s ih =>
    obtain ⟨hc, hs⟩ := not_or.mp fun hmem => hs (List.mem_cons.mpr hmem)
    exact .bare (Ne.symm hc) (ih hs)

theorem coded_map (color : Option Color) (s : Text) :
    coded (s.map fun c => (c, color)) = s.map fun c => (c, color.map Color.code) := by
  rw [coded, List.map_map]
  rfl

theorem styledAs_writtenRun {r : Option Color × Text} (hr : Readable r) (h : StyledAs t xs) :
    StyledAs (writtenRun r ++ t) (coded (r.2.map fun c => (c, r.1)) ++ xs) := by
  obtain ⟨color, s⟩ := r
  rw [coded_map]
  cases color with
  | none => exact styledAs_bare hr.noEscape h
  | some color =>
    have hcode : color.code.all isParameter := by cases color <;> decide
    have hfeed : '\n' ∉ s := fun hmem => Option.some_ne_none color (hr.noLineFeed hmem)
    have hwritten : writtenRun (some color, s) ++ t
        = openStyle color.code ++ (s ++ (resetColor ++ t)) := by
      rw [writtenRun, List.append_assoc, List.append_assoc]
      rfl
    rw [hwritten]
    exact .styled hcode hr.text_ne_nil hr.noEscape hfeed h

theorem styledAs_writtenRuns {rs : List (Option Color × Text)} (h : ∀ r ∈ rs, Readable r) :
    StyledAs (rs.flatMap writtenRun) (coded (rs.flatMap fun r => r.2.map fun c => (c, r.1))) := by
  induction rs with
  | nil => exact .nil
  | cons r rs ih =>
    rw [List.flatMap_cons, List.flatMap_cons, coded, List.map_append]
    exact styledAs_writtenRun (h r List.mem_cons_self) (ih fun q hq => h q (List.mem_cons_of_mem r hq))

/-- No character is an escape character, and line feeds have no colour. -/
structure Paintable (p : Painted) : Prop where
  noEscape : '\x1b' ∉ chars p
  bareLineFeeds : ∀ x ∈ p, x.1 = '\n' → x.2 = none

theorem ne_nil_of_mem_allRuns {p : Painted} {r : Option Color × Text} (h : r ∈ allRuns p) :
    r.2 ≠ [] := by
  obtain ⟨part, -, hpart⟩ := List.mem_flatMap.mp h
  exact runs_ne_nil part r hpart

theorem Paintable.readable {p : Painted} (h : Paintable p) : ∀ r ∈ allRuns p, Readable r := by
  intro r hr
  refine ⟨ne_nil_of_mem_allRuns hr, escape_not_mem_of_mem_allRuns h.noEscape r hr, fun hfeed => ?_⟩
  rcases mem_of_mem_allRuns hr hfeed with ⟨hspace, -⟩ | hp
  · exact absurd hspace (by decide)
  · exact h.bareLineFeeds _ hp rfl

/-- What is written can be read back: every character with its colour. -/
theorem styledAs_written {p : Painted} (h : Paintable p) :
    StyledAs (written p) (coded (expandTabs {} p).flatten) := by
  have hchars : (allRuns p).flatMap (fun r => r.2.map fun c => (c, r.1))
      = (expandTabs {} p).flatten := by
    rw [allRuns, List.flatMap_assoc, ← List.flatMap_id]
    exact List.flatMap_congr fun part _ => flatten_runs part
  rw [written_eq_flatMap, ← hchars]
  exact styledAs_writtenRuns h.readable

/-! ### The characters of a colour -/

/-- The characters that are shown in the style with a code, or in none. -/
def under (code : Option Text) (xs : List (Char × Option Text)) : Text :=
  (xs.filter (·.2 = code)).map Prod.fst

/-- The characters of a colour, or of none. -/
def inColor (color : Option Color) (p : Painted) : Text := (p.filter (·.2 = color)).map Prod.fst

theorem code_injective : Function.Injective Color.code := by
  intro a b h
  cases a <;> cases b <;> simp [Color.code] at h ⊢

theorem under_coded (color : Option Color) (p : Painted) :
    under (color.map Color.code) (coded p) = inColor color p := by
  rw [under, coded, List.filter_map, List.map_map, inColor]
  simp only [Function.comp_def, (Option.map_injective code_injective).eq_iff]

theorem inColor_ne_nil_iff {color : Option Color} {p : Painted} :
    inColor color p ≠ [] ↔ ∃ x ∈ p, x.2 = color := by
  simp [inColor, List.filter_eq_nil_iff]

@[simp] theorem inColor_append (color : Option Color) (p q : Painted) :
    inColor color (p ++ q) = inColor color p ++ inColor color q := by
  simp [inColor]

theorem snd_of_mem_paint {color : Option Color} {t : Text} {x : Char × Option Color}
    (h : x ∈ paint color t) : x.2 = if x.1 = '\n' then none else color := by
  obtain ⟨c, -, rfl⟩ := List.mem_map.mp h
  rfl

theorem inColor_paint (color a : Option Color) (t : Text) :
    inColor color (paint a t)
      = (shown t).filter fun c => (if c = '\n' then none else a) = color := by
  rw [inColor, paint, List.filter_map, List.map_map]
  exact List.map_id _

theorem inColor_paint_some (color a : Color) (t : Text) :
    inColor (some color) (paint (some a) t)
      = if a = color then (shown t).filter (· ≠ '\n') else [] := by
  rw [inColor_paint]
  split
  · next h =>
    subst h
    refine List.filter_congr fun c _ => ?_
    by_cases hc : c = '\n' <;> simp [hc]
  · next h =>
    refine List.filter_eq_nil_iff.mpr fun c _ => ?_
    by_cases hc : c = '\n' <;> simp [hc, h]

theorem inColor_none_paint_some (a : Color) (t : Text) :
    inColor none (paint (some a) t) = List.replicate (t.count '\n') '\n' := by
  have hfeeds : (shown t).count '\n' = t.count '\n' := List.count_filter (by decide)
  rw [inColor_paint, ← hfeeds, ← List.filter_eq]
  refine List.filter_congr fun c _ => ?_
  by_cases hc : c = '\n' <;> simp [hc, eq_comm]

theorem inColor_paint_none (color : Option Color) (t : Text) :
    inColor color (paint none t) = if color = none then shown t else [] := by
  simp only [inColor_paint, ite_self]
  split
  · next h =>
    subst h
    simp
  · next h => simp [Ne.symm h]

end Terminal

namespace Listing

open Terminal

variable {s : Style} {e : Entry}

theorem targetColor_ne_cyan (e : Entry) : targetColor e ≠ .cyan := by
  rw [targetColor]
  split <;> decide

/-- The code of the target: blue for the default goal and green otherwise. -/
def targetCode (e : Entry) : Text := if e.isDefault then "34".toList else "32".toList

theorem code_targetColor (e : Entry) : (targetColor e).code = targetCode e := by
  rw [targetColor, targetCode]
  split <;> rfl

theorem inColor_targetColor_layOut (s : Style) (e : Entry) :
    inColor (some (targetColor e)) (layOut s e)
      = (shown (Text.padRight s.columnWidth e.target)).filter (· ≠ '\n') := by
  simp only [layOut, inColor_append, inColor_paint_some, inColor_paint_none,
    if_neg (targetColor_ne_cyan e).symm]
  simp

theorem inColor_cyan_layOut (s : Style) (e : Entry) :
    inColor (some .cyan) (layOut s e) = (shown e.short).filter (· ≠ '\n') := by
  simp only [layOut, inColor_append, inColor_paint_some, inColor_paint_none,
    if_neg (targetColor_ne_cyan e)]
  simp

theorem shown_longPart (s : Style) (e : Entry) :
    shown (if s.verbose then longPart e else [])
      = if s.verbose ∧ e.long ≠ [] then shown e.long ++ ['\n', '\n'] else [] := by
  have hfeeds : shown ['\n', '\n'] = ['\n', '\n'] := by decide
  by_cases hverbose : s.verbose
  · by_cases hlong : e.long = []
    · simp [longPart, hlong, shown]
    · rw [if_pos hverbose, if_pos ⟨hverbose, hlong⟩, longPart, if_neg hlong, shown, List.filter_append,
        ← shown, ← shown, hfeeds]
  · rw [if_neg hverbose, if_neg fun h => hverbose h.1]
    rfl

theorem inColor_none_layOut (s : Style) (e : Entry) :
    inColor none (layOut s e)
      = List.replicate (e.target.count '\n' + e.short.count '\n' + 1) '\n'
        ++ if s.verbose ∧ e.long ≠ [] then shown e.long ++ ['\n', '\n'] else [] := by
  have hpadded : (Text.padRight s.columnWidth e.target).count '\n' = e.target.count '\n' := by
    simp [Text.padRight, List.count_replicate]
  have hfeed : shown ['\n'] = List.replicate 1 '\n' := by decide
  simp only [layOut, inColor_append, inColor_none_paint_some, inColor_paint_none, hpadded,
    shown_longPart, hfeed, if_true, List.replicate_append_replicate]

theorem snd_of_mem_layOut {x : Char × Option Color} (h : x ∈ layOut s e) :
    ∃ color ∈ [none, some (targetColor e), some .cyan],
      x.2 = if x.1 = '\n' then none else color := by
  simp only [layOut, List.mem_append] at h
  rcases h with ((h | h) | h) | h
  · exact ⟨some (targetColor e), by simp, snd_of_mem_paint h⟩
  · exact ⟨some .cyan, by simp, snd_of_mem_paint h⟩
  · exact ⟨none, by simp, snd_of_mem_paint h⟩
  · exact ⟨none, by simp, snd_of_mem_paint h⟩

theorem color_of_mem_layOut {x : Char × Option Color} (h : x ∈ layOut s e) :
    x.2 ∈ [none, some (targetColor e), some .cyan] := by
  obtain ⟨color, hcolor, hx⟩ := snd_of_mem_layOut h
  rw [hx]
  split
  · exact List.mem_cons_self
  · exact hcolor

theorem paintable_layOut (h : ∀ t ∈ [e.target, e.short, e.long], '\x1b' ∉ t) :
    Paintable (layOut s e) := by
  refine ⟨fun hmem => ?_, fun x hx hfeed => ?_⟩
  · obtain ⟨t, ht, hc⟩ := mem_of_mem_chars_layOut hmem (by decide) (by decide)
    exact h t ht hc
  · obtain ⟨color, -, hcolor⟩ := snd_of_mem_layOut hx
    rw [hcolor, if_pos hfeed]

theorem noTab_layOut (h : ∀ t ∈ [e.target, e.short, e.long], '\t' ∉ t) :
    ∀ x ∈ layOut s e, x.1 ≠ '\t' := by
  intro x hx htab
  have hmem : '\t' ∈ chars (layOut s e) := htab ▸ List.mem_map_of_mem hx
  obtain ⟨t, ht, hc⟩ := mem_of_mem_chars_layOut hmem (by decide) (by decide)
  exact h t ht hc

/-- **Colours mark the right text.** In an entry without tabs and escape characters every style is set for text
of one line and reset behind it, so no line leaves one open. The target, as it is padded and without the
characters that are not shown, has the code of the target, the short description has the one of descriptions,
and all that has no style is line feeds and then the long description, if it is shown. -/
theorem styled_pieces (hrange : InRange s.columnWidth)
    (hescape : ∀ t ∈ [e.target, e.short, e.long], '\x1b' ∉ t)
    (htab : ∀ t ∈ [e.target, e.short, e.long], '\t' ∉ t) :
    ∃ coloured marks, render { s with colorize := true, noColor := false } e = .ok coloured
      ∧ (∀ xs, StyledAs coloured xs ↔ xs = marks)
      ∧ (∀ l ∈ Text.lines coloured, stylesBehind [] l = [])
      ∧ (∀ x ∈ marks, x.2 ∈ [none, some (targetCode e), some "36".toList])
      ∧ under (some (targetCode e)) marks
        = (shown (Text.padRight s.columnWidth e.target)).filter (· ≠ '\n')
      ∧ under (some "36".toList) marks = (shown e.short).filter (· ≠ '\n')
      ∧ under none marks
        = List.replicate (e.target.count '\n' + e.short.count '\n' + 1) '\n'
          ++ if s.verbose ∧ e.long ≠ [] then shown e.long ++ ['\n', '\n'] else [] := by
  have hstyled : StyledAs (written (layOut s e)) (coded (layOut s e)) := by
    have h := styledAs_written (paintable_layOut (s := s) hescape)
    rwa [flatten_expandTabs_of_noTab _ (noTab_layOut htab)] at h
  refine ⟨written (layOut s e), coded (layOut s e), render_eq_ok_iff.mpr ⟨hrange, rfl⟩,
    fun xs => ⟨hstyled.unique, fun h => h ▸ hstyled⟩, fun l hl => ?_, fun x hx => ?_, ?_, ?_, ?_⟩
  · obtain ⟨ys, hys⟩ := hstyled.lines l hl
    exact stylesBehind_of_styledAs hys
  · obtain ⟨y, hy, rfl⟩ := List.mem_map.mp hx
    rw [← code_targetColor]
    exact List.mem_map_of_mem (f := Option.map Color.code) (color_of_mem_layOut hy)
  · rw [← inColor_targetColor_layOut, ← under_coded, ← code_targetColor]
    rfl
  · rw [← inColor_cyan_layOut s, ← under_coded]
    rfl
  · rw [← inColor_none_layOut, ← under_coded]
    rfl

/-- A default goal of two lines, the second one padded, and line feeds in both descriptions. -/
theorem styled_pieces_two_lines :
    let s : Style := { verbose := true, columnWidth := 4 }
    let e : Entry := ⟨"a\nb".toList, "\nx\x07y".toList, "l\r\nm".toList, true⟩
    InRange s.columnWidth ∧ (∀ t ∈ [e.target, e.short, e.long], '\x1b' ∉ t)
      ∧ (∀ t ∈ [e.target, e.short, e.long], '\t' ∉ t)
      ∧ ∃ marks,
        StyledAs ("\x1b[34ma\x1b[0m\n\x1b[34mb \x1b[0m\n".toList
          ++ "\x1b[36mxy\x1b[0m\nl\nm\n\n".toList) marks
        ∧ under (some "34".toList) marks = "ab ".toList
        ∧ under (some "36".toList) marks = "xy".toList
        ∧ under none marks = "\n\n\nl\nm\n\n".toList := by
  intro s e
  have hrange : InRange s.columnWidth := by decide
  have hescape : ∀ t ∈ [e.target, e.short, e.long], '\x1b' ∉ t := by decide
  have htab : ∀ t ∈ [e.target, e.short, e.long], '\t' ∉ t := by decide
  obtain ⟨coloured, marks, hcoloured, hmarks, -, -, htarget, hshort, hbare⟩ :=
    styled_pieces hrange hescape htab
  have hshown : render { s with colorize := true, noColor := false } e
      = .ok ("\x1b[34ma\x1b[0m\n\x1b[34mb \x1b[0m\n".toList ++ "\x1b[36mxy\x1b[0m\nl\nm\n\n".toList) := by
    decide +kernel
  obtain rfl := Except.ok.inj (hcoloured.symm.trans hshown)
  refine ⟨hrange, hescape, htab, marks, (hmarks marks).mpr rfl, htarget.trans ?_, hshort.trans ?_,
    hbare.trans ?_⟩
  all_goals decide

end Listing

end TargetDocs
