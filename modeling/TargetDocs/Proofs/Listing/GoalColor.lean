/-
What the mark of the default goal changes.

The mark decides the colour of the target and nothing else. Its effect on painted text is to exchange two
colours, and on what is written to put one escape sequence in place of another:

* `runs_recolor`, `expandTabs_recolor` — other colours leave the runs and the tabs as they are;
* `replaceAll_written` — so a written text in other colours is the text with other escape sequences;
* `written_recolor_ne_iff` — and it is another text exactly if some character has a colour that changes;
* `default_goal_color` — so the mark shows in colours only, and only if the target shows more than line feeds.
-/
import Mathlib.Logic.Equiv.Basic
import TargetDocs.Proofs.Listing.StyledText

namespace TargetDocs

namespace Text

/-- The text with `new` in place of `old`, which is not empty, wherever that occurs from the left. -/
def replaceAll (old new : Text) : Text → Text
  | [] => []
  | c :: t =>
    if old.isPrefixOf (c :: t) then new ++ replaceAll old new (t.drop (old.length - 1))
    else c :: replaceAll old new t
termination_by t => t.length
decreasing_by
  · rw [List.length_drop, List.length_cons]
    omega
  · exact Nat.lt_succ_self _

variable {old new s t : Text} {c : Char}

theorem replaceAll_of_not_isPrefixOf (h : ¬ old.isPrefixOf (c :: t)) :
    replaceAll old new (c :: t) = c :: replaceAll old new t := by
  rw [replaceAll, if_neg h]

theorem replaceAll_old (hne : old ≠ []) (new t : Text) :
    replaceAll old new (old ++ t) = new ++ replaceAll old new t := by
  obtain ⟨c, rest, rfl⟩ := List.exists_cons_of_ne_nil hne
  have hprefix : (c :: rest).isPrefixOf (c :: rest ++ t) :=
    List.isPrefixOf_iff_prefix.mpr (List.prefix_append _ t)
  rw [List.cons_append] at hprefix ⊢
  rw [replaceAll, if_pos hprefix, List.length_cons, Nat.add_sub_cancel, List.drop_left]

/-- Text without the first character of `old` stays. -/
theorem replaceAll_append (hold : old.head? = some c) (hs : c ∉ s) (t : Text) :
    replaceAll old new (s ++ t) = s ++ replaceAll old new t := by
  obtain ⟨rest, rfl⟩ := List.head?_eq_some_iff.mp hold
  induction s with
  | nil => rfl
  | cons d s ih =>
    obtain ⟨hd, hs⟩ := not_or.mp fun hmem => hs (List.mem_cons.mpr hmem)
    have hprefix : ¬ (c :: rest).isPrefixOf (d :: (s ++ t)) := by
      simp [hd]
    rw [List.cons_append, replaceAll_of_not_isPrefixOf hprefix, ih hs, List.cons_append]

end Text

namespace Terminal

/-! ### Other colours -/

/-- The text in other colours. -/
def recolor (f : Color → Color) (p : Painted) : Painted := p.map fun x => (x.1, x.2.map f)

@[simp] theorem chars_recolor (f : Color → Color) (p : Painted) : chars (recolor f p) = chars p := by
  simp [chars, recolor, Function.comp_def]

theorem recolor_append (f : Color → Color) (p q : Painted) :
    recolor f (p ++ q) = recolor f p ++ recolor f q := List.map_append

theorem recolor_paint (f : Color → Color) (color : Option Color) (t : Text) :
    recolor f (paint color t) = paint (color.map f) t := by
  rw [recolor, paint, paint, List.map_map]
  refine List.map_congr_left fun c _ => ?_
  by_cases hc : c = '\n' <;> simp [hc]

theorem runs_recolor {f : Color → Color} (hf : Function.Injective f) (p : Painted) :
    runs (recolor f p) = (runs p).map fun r => (r.1.map f, r.2) := by
  induction p with
  | nil => rfl
  | cons x p ih =>
    obtain ⟨c, color⟩ := x
    have hcons : recolor f ((c, color) :: p) = (c, color.map f) :: recolor f p := rfl
    rw [hcons, runs, runs, ih]
    cases runs p with
    | nil => rfl
    | cons r rest =>
      obtain ⟨other, t⟩ := r
      simp only [List.map_cons, (Option.map_injective hf).eq_iff]
      split <;> rfl

theorem attach_recolor (f : Color → Color) (c : Char) (color : Option Color) (ps : List Painted) :
    attach (c, color.map f) (ps.map (recolor f)) = (attach (c, color) ps).map (recolor f) := by
  cases ps <;> rfl

theorem expandTabs_recolor (f : Color → Color) (e : Text.Extent) (p : Painted) :
    expandTabs e (recolor f p) = (expandTabs e p).map (recolor f) := by
  induction p generalizing e with
  | nil => rfl
  | cons x p ih =>
    obtain ⟨c, color⟩ := x
    have hcons : recolor f ((c, color) :: p) = (c, color.map f) :: recolor f p := rfl
    rw [hcons, expandTabs, expandTabs]
    by_cases hc : c = '\t'
    · rw [if_pos hc, if_pos hc, ih, List.map_cons, recolor, List.map_replicate]
    · rw [if_neg hc, if_neg hc, ih, attach_recolor]

theorem writtenPlain_recolor (f : Color → Color) (p : Painted) :
    writtenPlain (recolor f p) = writtenPlain p := by
  rw [writtenPlain, writtenPlain, expandTabs_recolor, List.flatMap_map]
  exact List.flatMap_congr fun part _ => chars_recolor f part

theorem allRuns_recolor {f : Color → Color} (hf : Function.Injective f) (p : Painted) :
    allRuns (recolor f p) = (allRuns p).map fun r => (r.1.map f, r.2) := by
  rw [allRuns, allRuns, expandTabs_recolor, List.flatMap_map, List.map_flatMap]
  exact List.flatMap_congr fun part _ => runs_recolor hf part

/-! ### Other escape sequences -/

variable {a b c : Color}

theorem not_isPrefixOf_setColor (h : c ≠ a) (t : Text) :
    ¬ (setColor a).isPrefixOf (setColor c ++ t) := by
  cases a <;> cases c <;> simp [setColor, Color.code] at h ⊢

theorem replaceAll_sequence {sequence t : Text} (hfree : '\x1b' ∉ sequence)
    (h : ¬ (setColor a).isPrefixOf ('\x1b' :: (sequence ++ t))) (new : Text) :
    Text.replaceAll (setColor a) new ('\x1b' :: (sequence ++ t))
      = '\x1b' :: (sequence ++ Text.replaceAll (setColor a) new t) := by
  rw [Text.replaceAll_of_not_isPrefixOf h, Text.replaceAll_append rfl hfree]

theorem replaceAll_setColor (new t : Text) :
    Text.replaceAll (setColor a) new (setColor c ++ t)
      = (if c = a then new else setColor c) ++ Text.replaceAll (setColor a) new t := by
  split
  · next h =>
    have hne : setColor a ≠ [] := List.cons_ne_nil _ _
    rw [h, Text.replaceAll_old hne]
  · next h =>
    have hfree : '\x1b' ∉ '[' :: c.code ++ ['m'] := by cases c <;> decide
    exact replaceAll_sequence hfree (not_isPrefixOf_setColor h t) new

theorem replaceAll_resetColor (new t : Text) :
    Text.replaceAll (setColor a) new (resetColor ++ t)
      = resetColor ++ Text.replaceAll (setColor a) new t := by
  have hno : ¬ (setColor a).isPrefixOf (resetColor ++ t) := by
    cases a <;> simp [setColor, Color.code, resetColor]
  exact replaceAll_sequence (by decide) hno new

theorem replaceAll_writtenRun {r : Option Color × Text} (hescape : '\x1b' ∉ r.2) (hb : r.1 ≠ some b)
    (t : Text) :
    Text.replaceAll (setColor a) (setColor b) (writtenRun r ++ t)
      = writtenRun (r.1.map (Equiv.swap a b), r.2) ++ Text.replaceAll (setColor a) (setColor b) t := by
  obtain ⟨color, s⟩ := r
  cases color with
  | none => exact Text.replaceAll_append rfl hescape t
  | some c =>
    have hswap : (if c = a then setColor b else setColor c) = setColor (Equiv.swap a b c) := by
      split
      · next h => rw [h, Equiv.swap_apply_left]
      · next h => rw [Equiv.swap_apply_of_ne_of_ne h fun hcb => hb (congrArg some hcb)]
    simp only [writtenRun, Option.map_some, List.append_assoc]
    rw [replaceAll_setColor, Text.replaceAll_append rfl hescape, replaceAll_resetColor, hswap]

theorem replaceAll_writtenRuns {rs : List (Option Color × Text)}
    (h : ∀ r ∈ rs, '\x1b' ∉ r.2 ∧ r.1 ≠ some b) :
    Text.replaceAll (setColor a) (setColor b) (rs.flatMap writtenRun)
      = (rs.map fun r => (r.1.map (Equiv.swap a b), r.2)).flatMap writtenRun := by
  induction rs with
  | nil => rw [List.flatMap_nil, Text.replaceAll]; rfl
  | cons r rs ih =>
    obtain ⟨hescape, hb⟩ := h r List.mem_cons_self
    rw [List.flatMap_cons, replaceAll_writtenRun hescape hb, ih fun q hq => h q (List.mem_cons_of_mem r hq),
      List.map_cons, List.flatMap_cons]

/-- Every run has the colour of some character. -/
theorem exists_mem_of_mem_allRuns {p : Painted} {r : Option Color × Text} (h : r ∈ allRuns p) :
    ∃ c, (c, r.1) ∈ p := by
  obtain ⟨c, hc⟩ := List.exists_mem_of_ne_nil r.2 (ne_nil_of_mem_allRuns h)
  rcases mem_of_mem_allRuns h hc with ⟨-, hp⟩ | hp
  · exact ⟨_, hp⟩
  · exact ⟨c, hp⟩

/-- A text is written in one colour as it is in another, which it does not have, but for the sequences that set
this colour. -/
theorem replaceAll_written {p : Painted} (hescape : '\x1b' ∉ chars p) (hb : ∀ x ∈ p, x.2 ≠ some b) :
    Text.replaceAll (setColor a) (setColor b) (written p) = written (recolor (Equiv.swap a b) p) := by
  have hruns : ∀ r ∈ allRuns p, '\x1b' ∉ r.2 ∧ r.1 ≠ some b := by
    intro r hr
    obtain ⟨c, hc⟩ := exists_mem_of_mem_allRuns hr
    exact ⟨escape_not_mem_of_mem_allRuns hescape r hr, hb _ hc⟩
  rw [written_eq_flatMap, replaceAll_writtenRuns hruns, written_eq_flatMap,
    allRuns_recolor (Equiv.swap a b).injective]

/-! ### When other colours show -/

/-- No colour is lost with a tab. -/
theorem exists_mem_expandTabs (e : Text.Extent) {p : Painted} {x : Char × Option Color} (h : x ∈ p) :
    ∃ y ∈ (expandTabs e p).flatten, y.2 = x.2 := by
  induction p generalizing e with
  | nil => cases h
  | cons y p ih =>
    rw [expandTabs]
    split
    · rw [List.flatten_cons]
      rcases List.mem_cons.mp h with rfl | h
      · refine ⟨(' ', x.2), List.mem_append_left _ ?_, rfl⟩
        exact List.mem_replicate.mpr ⟨Nat.pos_iff_ne_zero.mp (tabSpaces_pos e), rfl⟩
      · obtain ⟨z, hz, hcolor⟩ := ih {} h
        exact ⟨z, List.mem_append_right _ hz, hcolor⟩
    · rw [flatten_attach]
      rcases List.mem_cons.mp h with rfl | h
      · exact ⟨x, List.mem_cons_self, rfl⟩
      · obtain ⟨z, hz, hcolor⟩ := ih _ h
        exact ⟨z, List.mem_cons_of_mem _ hz, hcolor⟩

theorem Paintable.recolor {p : Painted} (h : Paintable p) (f : Color → Color) :
    Paintable (recolor f p) := by
  refine ⟨?_, fun x hx hfeed => ?_⟩
  · rw [chars_recolor]
    exact h.noEscape
  · obtain ⟨y, hy, rfl⟩ := List.mem_map.mp hx
    exact congrArg (Option.map f) (h.bareLineFeeds y hy hfeed)

theorem recolor_eq_self {f : Color → Color} {p : Painted} (h : ∀ x ∈ p, x.2.map f = x.2) :
    recolor f p = p := by
  have hid : recolor f p = p.map id := List.map_congr_left fun x hx => Prod.ext rfl (h x hx)
  rw [hid, List.map_id]

/-- Another text is written exactly if a character has a colour that changes. -/
theorem written_recolor_ne_iff {f : Color → Color} {p : Painted} (h : Paintable p) :
    written (recolor f p) ≠ written p ↔ ∃ x ∈ p, x.2.map f ≠ x.2 := by
  constructor
  · contrapose!
    intro hsame
    rw [recolor_eq_self hsame]
  · -- the same text would be read as both, so no colour would change
    rintro ⟨x, hx, hne⟩ heq
    have hread := styledAs_written (h.recolor f)
    rw [heq] at hread
    have hcoded := hread.unique (styledAs_written h)
    have hflatten : (expandTabs {} (recolor f p)).flatten = recolor f (expandTabs {} p).flatten := by
      rw [expandTabs_recolor, recolor, List.map_flatten]
      rfl
    rw [hflatten, coded, coded, recolor, List.map_map, List.map_inj_left] at hcoded
    obtain ⟨y, hy, hcolor⟩ := exists_mem_expandTabs {} hx
    have hsame : y.2 = y.2.map f :=
      Option.map_injective code_injective (congrArg Prod.snd (hcoded y hy))
    rw [hcolor] at hsame
    exact hne hsame.symm

end Terminal

namespace Listing

open Terminal

variable {s : Style} {e : Entry}

/-- The mark makes green text blue, which no other text of an entry is. -/
theorem layOut_isDefault (s : Style) (e : Entry) :
    layOut s { e with isDefault := true }
      = recolor (Equiv.swap .green .blue) (layOut s { e with isDefault := false }) := by
  have hgreen : Equiv.swap Color.green Color.blue .green = .blue := Equiv.swap_apply_left _ _
  have hcyan : Equiv.swap Color.green Color.blue .cyan = .cyan :=
    Equiv.swap_apply_of_ne_of_ne (by decide) (by decide)
  simp only [layOut, targetColor, longPart, recolor_append, recolor_paint, Option.map_some, Option.map_none,
    Bool.false_eq_true, if_true, if_false, hgreen, hcyan]

theorem color_of_mem_layOut_unmarked {x : Char × Option Color}
    (h : x ∈ layOut s { e with isDefault := false }) :
    x.2 = none ∨ x.2 = some .green ∨ x.2 = some .cyan := by
  have hcolor := color_of_mem_layOut h
  simpa [targetColor] using hcolor

theorem blue_not_mem_layOut {x : Char × Option Color} (h : x ∈ layOut s { e with isDefault := false }) :
    x.2 ≠ some .blue := by
  rcases color_of_mem_layOut_unmarked h with hx | hx | hx <;> rw [hx] <;> decide

/-- A colour changes with the mark exactly if the target shows more than line feeds. -/
theorem exists_green_iff :
    (∃ x ∈ layOut s { e with isDefault := false },
        x.2.map (Equiv.swap Color.green Color.blue) ≠ x.2)
      ↔ ∃ c ∈ shown (Text.padRight s.columnWidth e.target), c ≠ '\n' := by
  generalize hp : layOut s { e with isDefault := false } = p
  have hchanges : ∀ x ∈ p,
      x.2.map (Equiv.swap Color.green Color.blue) ≠ x.2 ↔ x.2 = some .green := by
    intro x hx
    rw [← hp] at hx
    rcases color_of_mem_layOut_unmarked hx with hx | hx | hx <;> rw [hx] <;> decide
  have htarget : inColor (some .green) p
      = (shown (Text.padRight s.columnWidth e.target)).filter (· ≠ '\n') := by
    rw [← hp]
    exact inColor_targetColor_layOut s { e with isDefault := false }
  calc (∃ x ∈ p, x.2.map (Equiv.swap Color.green Color.blue) ≠ x.2)
      ↔ ∃ x ∈ p, x.2 = some .green := exists_congr fun x => and_congr_right (hchanges x)
    _ ↔ inColor (some .green) p ≠ [] := inColor_ne_nil_iff.symm
    _ ↔ ∃ c ∈ shown (Text.padRight s.columnWidth e.target), c ≠ '\n' := by
      rw [htarget]
      simp [List.filter_eq_nil_iff]

/-- **The mark of the default goal is a colour.** Without colours an entry is shown with the mark as it is
without it. In colours, unless it has escape characters, it is shown with every sequence that begins green text
replaced by the one that begins blue text, and that makes a difference exactly if the padded target has more to
show than line feeds. -/
theorem default_goal_color (hrange : InRange s.columnWidth) :
    (∃ plain bare, ∀ mark,
      render { s with colorize := false } { e with isDefault := mark } = .ok plain
        ∧ render { s with colorize := true, noColor := true } { e with isDefault := mark } = .ok bare)
      ∧ ((∀ t ∈ [e.target, e.short, e.long], '\x1b' ∉ t) →
        ∃ goal other,
          render { s with colorize := true, noColor := false } { e with isDefault := true } = .ok goal
          ∧ render { s with colorize := true, noColor := false } { e with isDefault := false } = .ok other
          ∧ goal = Text.replaceAll "\x1b[32m".toList "\x1b[34m".toList other
          ∧ (goal ≠ other ↔ ∃ c ∈ shown (Text.padRight s.columnWidth e.target), c ≠ '\n')) := by
  generalize hlayOut : layOut s { e with isDefault := false } = p
  have hgoal : layOut s { e with isDefault := true } = recolor (Equiv.swap .green .blue) p := by
    rw [layOut_isDefault, hlayOut]
  refine ⟨⟨chars p, writtenPlain p, fun mark => ?_⟩, fun hescape => ?_⟩
  · simp only [render_eq_ok_iff]
    cases mark with
    | false => exact ⟨⟨hrange, congrArg chars hlayOut⟩, hrange, congrArg writtenPlain hlayOut⟩
    | true =>
      refine ⟨⟨hrange, ?_⟩, hrange, ?_⟩
      · exact (congrArg chars hgoal).trans (chars_recolor _ p)
      · exact (congrArg writtenPlain hgoal).trans (writtenPlain_recolor _ p)
  · have hpaintable : Paintable p := by
      rw [← hlayOut]
      exact paintable_layOut hescape
    refine ⟨written (recolor (Equiv.swap .green .blue) p), written p, ?_, ?_, ?_, ?_⟩
    · exact render_eq_ok_iff.mpr ⟨hrange, congrArg written hgoal⟩
    · exact render_eq_ok_iff.mpr ⟨hrange, congrArg written hlayOut⟩
    · refine (replaceAll_written hpaintable.noEscape fun x hx => ?_).symm
      exact blue_not_mem_layOut (hlayOut ▸ hx)
    · rw [written_recolor_ne_iff hpaintable, ← exists_green_iff, hlayOut]

/-- A target with a tab, whose spaces are coloured as well. -/
theorem default_goal_color_tab :
    let s : Style := { columnWidth := 4 }
    let e : Entry := ⟨"a\tb".toList, "x".toList, [], false⟩
    let other := "\x1b[32ma       \x1b[0m\x1b[32mb \x1b[0m\x1b[36mx\x1b[0m\n".toList
    InRange s.columnWidth ∧ (∀ t ∈ [e.target, e.short, e.long], '\x1b' ∉ t)
      ∧ render { s with colorize := true, noColor := false } { e with isDefault := false } = .ok other
      ∧ ∃ goal, render { s with colorize := true, noColor := false } { e with isDefault := true } = .ok goal
        ∧ goal = Text.replaceAll "\x1b[32m".toList "\x1b[34m".toList other ∧ goal ≠ other := by
  intro s e other
  have hrange : InRange s.columnWidth := by decide
  have hescape : ∀ t ∈ [e.target, e.short, e.long], '\x1b' ∉ t := by decide
  have hother : render { s with colorize := true, noColor := false } { e with isDefault := false }
      = .ok other := by decide +kernel
  obtain ⟨goal, unmarked, hgoal, hunmarked, hreplaced, hdiffer⟩ := (default_goal_color hrange).2 hescape
  obtain rfl := Except.ok.inj (hunmarked.symm.trans hother)
  exact ⟨hrange, hescape, hother, goal, hgoal, hreplaced, hdiffer.mpr ⟨'a', by decide, by decide⟩⟩

end Listing

end TargetDocs
