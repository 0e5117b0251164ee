/-
What is seen of a coloured entry.

Colours come as escape sequences around the text, and tabs are expanded where colours could be. Both are
undone here, the first by a function that drops escape sequences from any text, the second by a relation
between a line and what an expansion of its tabs may make of it:

* `withoutEscapes_written` — without its escape sequences a coloured text is the text that a terminal
  without colours is sent;
* `tabsExpanded_unique` — the relation leaves no choice;
* `linesExpanded_of_expandTabs` — the terminal expands tabs as it says, line by line;
* `visible_text` — so colours change nothing of the visible text of an entry but its tabs.
-/
import Mathlib.Data.List.Forall2
import TargetDocs.Listing
import TargetDocs.Proofs.Text.Lines

namespace TargetDocs

namespace Terminal

/-! ### Escape sequences -/

/-- A character of the parameters of an escape sequence. -/
def isParameter (c : Char) : Bool := c.isDigit || c = ';'

/-- The text behind the escape sequence that a text begins with: an escape character, a bracket, digits
and semicolons, and the letter m. -/
def afterEscape? : Text → Option Text
  | '\x1b' :: '[' :: t =>
    match t.dropWhile isParameter with
    | 'm' :: rest => some rest
    | _ => none
  | _ => none

theorem length_lt_of_afterEscape? {t rest : Text} (h : afterEscape? t = some rest) :
    rest.length < t.length := by
  unfold afterEscape? at h
  split at h
  · next u =>
    have hdrop := (List.dropWhile_sublist isParameter (l := u)).length_le
    split at h
    · next v hv =>
      obtain rfl := Option.some.inj h
      rw [hv, List.length_cons] at hdrop
      simp only [List.length_cons]
      omega
    · cases h
  · cases h

/-- A text without its escape sequences. -/
def withoutEscapes : Text → Text
  | [] => []
  | c :: t =>
    match _h : afterEscape? (c :: t) with
    | some rest => withoutEscapes rest
    | none => c :: withoutEscapes t
termination_by t => t.length
decreasing_by
  · exact length_lt_of_afterEscape? _h
  · exact Nat.lt_succ_self _

theorem withoutEscapes_of_afterEscape? {t rest : Text} (h : afterEscape? t = some rest) :
    withoutEscapes t = withoutEscapes rest := by
  cases t with
  | nil => cases h
  | cons c t =>
    rw [withoutEscapes]
    split
    · next u hu => rw [Option.some.inj (hu.symm.trans h)]
    · next hu => rw [hu] at h; cases h

theorem afterEscape?_of_ne {c : Char} (hc : c ≠ '\x1b') (t : Text) : afterEscape? (c :: t) = none := by
  unfold afterEscape?
  split
  · next heq => exact absurd (List.cons.inj heq).1 hc
  · rfl

theorem withoutEscapes_append {s : Text} (h : '\x1b' ∉ s) (t : Text) :
    withoutEscapes (s ++ t) = s ++ withoutEscapes t := by
  induction s with
  | nil => rfl
  | cons c s ih =>
    obtain ⟨hc, hs⟩ := not_or.mp fun hmem => h (List.mem_cons.mpr hmem)
    rw [List.cons_append, withoutEscapes]
    split
    · next u hu => rw [afterEscape?_of_ne (Ne.symm hc)] at hu; cases hu
    · rw [ih hs, List.cons_append]

theorem afterEscape?_setColor (c : Color) (t : Text) : afterEscape? (setColor c ++ t) = some t := by
  cases c <;> rfl

theorem afterEscape?_resetColor (t : Text) : afterEscape? (resetColor ++ t) = some t := rfl

theorem withoutEscapes_writtenRun {r : Option Color × Text} (h : '\x1b' ∉ r.2) (t : Text) :
    withoutEscapes (writtenRun r ++ t) = r.2 ++ withoutEscapes t := by
  obtain ⟨color, u⟩ := r
  cases color with
  | none => exact withoutEscapes_append h t
  | some c =>
    rw [writtenRun, List.append_assoc, List.append_assoc,
      withoutEscapes_of_afterEscape? (afterEscape?_setColor c _), withoutEscapes_append h,
      withoutEscapes_of_afterEscape? (afterEscape?_resetColor t)]

theorem withoutEscapes_writtenRuns {rs : List (Option Color × Text)} (h : ∀ r ∈ rs, '\x1b' ∉ r.2) :
    withoutEscapes (rs.flatMap writtenRun) = rs.flatMap Prod.snd := by
  induction rs with
  | nil => rw [List.flatMap_nil, List.flatMap_nil, withoutEscapes]
  | cons r rs ih =>
    rw [List.flatMap_cons, withoutEscapes_writtenRun (h r List.mem_cons_self),
      ih fun x hx => h x (List.mem_cons_of_mem r hx), List.flatMap_cons]

theorem flatMap_snd_runs (p : Painted) : (runs p).flatMap Prod.snd = chars p := by
  have h := congrArg chars (flatten_runs p)
  simpa [chars, List.map_flatMap, Function.comp_def] using h

/-- The characters of expanded text are those of the text and the spaces for its tabs. -/
theorem mem_of_mem_expandTabs (e : Text.Extent) {p : Painted} {x : Char × Option Color}
    (h : x ∈ (expandTabs e p).flatten) : (x.1 = ' ' ∧ ('\t', x.2) ∈ p) ∨ x ∈ p := by
  induction p generalizing e with
  | nil => cases h
  | cons y p ih =>
    have hlater : ∀ {e}, x ∈ (expandTabs e p).flatten →
        (x.1 = ' ' ∧ ('\t', x.2) ∈ y :: p) ∨ x ∈ y :: p := fun hx =>
      (ih _ hx).imp (And.imp_right (List.mem_cons_of_mem y)) (List.mem_cons_of_mem y)
    rw [expandTabs] at h
    split at h
    · next htab =>
      rw [List.flatten_cons] at h
      rcases List.mem_append.mp h with h | h
      · obtain rfl := List.eq_of_mem_replicate h
        exact .inl ⟨rfl, List.mem_cons.mpr (.inl (Prod.ext htab.symm rfl))⟩
      · exact hlater h
    · rw [flatten_attach] at h
      rcases List.mem_cons.mp h with rfl | h
      · exact .inr List.mem_cons_self
      · exact hlater h

/-- The runs of a text whose tabs are expanded. -/
def allRuns (p : Painted) : List (Option Color × Text) := (expandTabs {} p).flatMap runs

theorem written_eq_flatMap (p : Painted) : written p = (allRuns p).flatMap writtenRun := by
  rw [written, allRuns, List.flatMap_assoc]

theorem mem_of_mem_runs {p : Painted} {r : Option Color × Text} (hr : r ∈ runs p) {c : Char}
    (hc : c ∈ r.2) : (c, r.1) ∈ p := by
  rw [← flatten_runs p]
  exact List.mem_flatMap.mpr ⟨r, hr, List.mem_map_of_mem hc⟩

theorem mem_of_mem_allRuns {p : Painted} {r : Option Color × Text} (hr : r ∈ allRuns p) {c : Char}
    (hc : c ∈ r.2) : (c = ' ' ∧ ('\t', r.1) ∈ p) ∨ (c, r.1) ∈ p := by
  obtain ⟨part, hpart, hr⟩ := List.mem_flatMap.mp hr
  exact mem_of_mem_expandTabs {} (List.mem_flatten.mpr ⟨part, hpart, mem_of_mem_runs hr hc⟩)

theorem escape_not_mem_of_mem_allRuns {p : Painted} (h : '\x1b' ∉ chars p) :
    ∀ r ∈ allRuns p, '\x1b' ∉ r.2 := by
  intro r hr hescape
  rcases mem_of_mem_allRuns hr hescape with ⟨hspace, -⟩ | hp
  · exact absurd hspace (by decide)
  · exact h (List.mem_map_of_mem hp)

/-- Without its escape sequences a coloured text is the one without colours. -/
theorem withoutEscapes_written {p : Painted} (h : '\x1b' ∉ chars p) :
    withoutEscapes (written p) = writtenPlain p := by
  rw [written_eq_flatMap, withoutEscapes_writtenRuns (escape_not_mem_of_mem_allRuns h), allRuns,
    List.flatMap_assoc, writtenPlain]
  exact List.flatMap_congr fun part _ => flatMap_snd_runs part

/-! ### Tabs -/

/-- The second line is the first one with its tabs expanded from left to right. The first line begins at
the given cell. For a tab there are spaces, at least one and no more than lead to the next place where
the cells up to there are a multiple of `tabWidth`; the cells are counted from tab to tab. -/
inductive TabsExpanded : Nat → Text → Text → Prop
  | last {cells : Nat} {part : Text} (hpart : '\t' ∉ part) : TabsExpanded cells part part
  | tab {cells spaces : Nat} {part line out : Text} (hpart : '\t' ∉ part) (hspaces : 0 < spaces)
      (hstop : tabWidth ∣ cells + Text.textWidth (part ++ List.replicate spaces ' '))
      (hleast : ∀ n, 0 < n → n < spaces →
        ¬ tabWidth ∣ cells + Text.textWidth (part ++ List.replicate n ' '))
      (hrest : TabsExpanded (cells + Text.textWidth (part ++ List.replicate spaces ' ')) line out) :
      TabsExpanded cells (part ++ '\t' :: line) (part ++ List.replicate spaces ' ' ++ out)

theorem eq_of_tabsExpanded_of_noTab {cells : Nat} {line out : Text} (h : TabsExpanded cells line out)
    (hline : '\t' ∉ line) : out = line := by
  cases h with
  | last => rfl
  | tab => exact absurd (List.mem_append_right _ List.mem_cons_self) hline

/-- There is one way to expand the tabs of a line. -/
theorem tabsExpanded_unique {cells : Nat} {line out out' : Text} (h : TabsExpanded cells line out)
    (h' : TabsExpanded cells line out') : out' = out := by
  induction h generalizing out' with
  | last hpart => exact eq_of_tabsExpanded_of_noTab h' hpart
  | @tab cells spaces part line out hpart hspaces hstop hleast hrest ih =>
    generalize hwhole : part ++ '\t' :: line = whole at h'
    cases h' with
    | last hwhole' =>
      refine absurd ?_ hwhole'
      rw [← hwhole]
      exact List.mem_append_right _ List.mem_cons_self
    | @tab _ spaces' part' line' out₁ hpart' hspaces' hstop' hleast' hrest' =>
      -- both parts end with the first tab of the line
      obtain ⟨rfl, rfl⟩ := Text.append_mark_inj hpart hpart' hwhole
      -- each number of spaces is the least one that will do
      have heq : spaces' = spaces := by
        rcases Nat.lt_trichotomy spaces' spaces with hlt | heq | hlt
        · exact absurd hstop' (hleast _ hspaces' hlt)
        · exact heq
        · exact absurd hstop (hleast' _ hspaces hlt)
      subst heq
      rw [ih hrest']

/-- The lines of the second text are those of the first one with their tabs expanded; the first of them
begins at the given cell. -/
def LinesExpanded (cells : Nat) (t u : Text) : Prop :=
  ∃ line rest out outs, Text.lines t = line :: rest ∧ Text.lines u = out :: outs
    ∧ TabsExpanded cells line out ∧ List.Forall₂ (TabsExpanded 0) rest outs

theorem linesExpanded_zero_iff {t u : Text} :
    LinesExpanded 0 t u ↔ List.Forall₂ (TabsExpanded 0) (Text.lines t) (Text.lines u) := by
  constructor
  · rintro ⟨line, rest, out, outs, ht, hu, hline, hrest⟩
    rw [ht, hu]
    exact .cons hline hrest
  · intro h
    obtain ⟨line, rest, ht⟩ := List.exists_cons_of_ne_nil (Text.cut_ne_nil '\n' t)
    obtain ⟨out, outs, hu⟩ := List.exists_cons_of_ne_nil (Text.cut_ne_nil '\n' u)
    rw [Text.lines, Text.lines, ht, hu] at h
    obtain ⟨hline, hrest⟩ := List.forall₂_cons.mp h
    exact ⟨line, rest, out, outs, ht, hu, hline, hrest⟩

theorem lines_append_of_lines {s t line : Text} {rest : List Text} (hs : '\n' ∉ s)
    (ht : Text.lines t = line :: rest) : Text.lines (s ++ t) = (s ++ line) :: rest := by
  induction s with
  | nil => exact ht
  | cons c s ih =>
    obtain ⟨hc, hs⟩ := not_or.mp fun hmem => hs (List.mem_cons.mpr hmem)
    exact Text.cut_cons (Ne.symm hc) (ih hs)

theorem tabSpaces_pos (e : Text.Extent) : 0 < tabSpaces e := by
  rw [tabSpaces]
  omega

/-- Fewer spaces than those for a tab, but at least one, do not lead to a tab stop. -/
theorem not_tabWidth_dvd_of_lt_tabSpaces {e : Text.Extent} {n : Nat} (hn : 0 < n)
    (hlt : n < tabSpaces e) : ¬ tabWidth ∣ (e.pushAll (List.replicate n ' ')).cells := by
  obtain ⟨n, rfl⟩ := Nat.exists_eq_succ_of_ne_zero (Nat.pos_iff_ne_zero.mp hn)
  rw [List.replicate_succ, Text.Extent.pushAll_cons,
    Text.Extent.cells_pushAll_spaces (Text.Extent.joined_push_space e)]
  unfold tabSpaces tabWidth at *
  omega

/-- The terminal expands the tabs of a text line by line. Before it stands `part`, what the first line
has since its last tab. -/
theorem linesExpanded_of_expandTabs {cells : Nat} {part : Text} (htab : '\t' ∉ part)
    (hfeed : '\n' ∉ part) (hcells : tabWidth ∣ cells) (p : Painted) :
    LinesExpanded cells (part ++ chars p)
      (part ++ chars (expandTabs (Text.Extent.pushAll {} part) p).flatten) := by
  induction p generalizing cells part with
  | nil =>
    have hlines : Text.lines (part ++ []) = [part] := by
      rw [List.append_nil]
      exact Text.cut_of_not_mem hfeed
    exact ⟨part, [], part, [], hlines, hlines, .last htab, .nil⟩
  | cons x p ih =>
    obtain ⟨c, color⟩ := x
    rw [expandTabs]
    by_cases hc : c = '\t'
    · -- the tab ends the part, and the rest of the line begins at its tab stop
      subst hc
      generalize hk : tabSpaces (Text.Extent.pushAll {} part) = k
      have hwidth : ∀ n, Text.textWidth (part ++ List.replicate n ' ')
          = ((Text.Extent.pushAll {} part).pushAll (List.replicate n ' ')).cells := by
        intro n
        rw [Text.textWidth, Text.Extent.pushAll_append]
      have hstop : tabWidth ∣ cells + Text.textWidth (part ++ List.replicate k ' ') := by
        refine Nat.dvd_add hcells ?_
        rw [hwidth, ← hk]
        exact tabWidth_dvd_cells_tabSpaces _
      have hleast : ∀ n, 0 < n → n < k →
          ¬ tabWidth ∣ cells + Text.textWidth (part ++ List.replicate n ' ') := by
        intro n hn hlt hdvd
        refine not_tabWidth_dvd_of_lt_tabSpaces hn (hk ▸ hlt) ?_
        rw [← hwidth]
        exact (Nat.dvd_add_right hcells).mp hdvd
      obtain ⟨line, rest, out, outs, ht, hu, hline, hrest⟩ :=
        @ih _ [] List.not_mem_nil List.not_mem_nil hstop
      refine ⟨part ++ '\t' :: line, rest, part ++ List.replicate k ' ' ++ out, outs, ?_, ?_, ?_, hrest⟩
      · have hmem : '\n' ∉ part ++ ['\t'] := by simpa using hfeed
        simpa [chars] using lines_append_of_lines hmem ht
      · have hmem : '\n' ∉ part ++ List.replicate k ' ' := by simp [hfeed, List.mem_replicate]
        rw [if_pos rfl, List.flatten_cons, chars_append, ← List.append_assoc]
        have hspaces : chars (List.replicate k (' ', color)) = List.replicate k ' ' := by
          simp [chars]
        rw [hspaces]
        exact lines_append_of_lines hmem hu
      · exact .tab htab (hk ▸ tabSpaces_pos _) hstop hleast hline
    · rw [if_neg hc, flatten_attach]
      by_cases hn : c = '\n'
      · -- the next line begins at the first cell
        subst hn
        obtain ⟨line, rest, out, outs, ht, hu, hline, hrest⟩ :=
          @ih 0 [] List.not_mem_nil List.not_mem_nil (Nat.dvd_zero _)
        have hsplit : ∀ t : Text, Text.lines (part ++ '\n' :: t) = part :: Text.lines t := by
          intro t
          rw [Text.lines, Text.cut_append, Text.cut_of_not_mem hfeed]
          rfl
        refine ⟨part, line :: rest, part, out :: outs, ?_, ?_, .last htab, .cons hline hrest⟩
        · exact (hsplit (chars p)).trans (congrArg (part :: ·) ht)
        · exact (hsplit _).trans (congrArg (part :: ·) hu)
      · have hnext : Text.Extent.pushAll {} (part ++ [c]) = (Text.Extent.pushAll {} part).push c :=
          Text.Extent.pushAll_append {} part [c]
        have htab' : '\t' ∉ part ++ [c] := by simpa [htab] using Ne.symm hc
        have hfeed' : '\n' ∉ part ++ [c] := by simpa [hfeed] using Ne.symm hn
        have h := ih htab' hfeed' hcells
        rw [hnext] at h
        simpa [chars, if_neg hn] using h

theorem writtenPlain_eq (p : Painted) : writtenPlain p = chars (expandTabs {} p).flatten := by
  rw [writtenPlain, chars, List.map_flatten]
  rfl

/-- The text for a terminal without colours is the text itself with the tabs of its lines expanded. -/
theorem tabsExpanded_writtenPlain (p : Painted) :
    List.Forall₂ (TabsExpanded 0) (Text.lines (chars p)) (Text.lines (writtenPlain p)) := by
  rw [writtenPlain_eq]
  exact linesExpanded_zero_iff.mp
    (@linesExpanded_of_expandTabs 0 [] List.not_mem_nil List.not_mem_nil (Nat.dvd_zero _) p)

end Terminal

/-! ### Entries -/

namespace Listing

open Terminal

variable {s : Style} {e : Entry}

/-- What an entry shows comes from its texts, but for spaces and line feeds. -/
theorem mem_of_mem_chars_layOut {c : Char} (h : c ∈ chars (layOut s e)) (hspace : c ≠ ' ')
    (hfeed : c ≠ '\n') : ∃ t ∈ [e.target, e.short, e.long], c ∈ t := by
  rw [chars_layOut] at h
  have hmem := (List.mem_filter.mp h).1
  simp only [Text.padRight, List.mem_append, List.mem_replicate, List.mem_singleton] at hmem
  rcases hmem with (((htarget | ⟨-, hc⟩) | hshort) | hc) | hlong
  · exact ⟨e.target, by simp, htarget⟩
  · exact absurd hc hspace
  · exact ⟨e.short, by simp, hshort⟩
  · exact absurd hc hfeed
  · refine ⟨e.long, by simp, ?_⟩
    have hpart : c ∈ longPart e := by
      split at hlong
      · exact hlong
      · cases hlong
    unfold longPart at hpart
    split at hpart
    · cases hpart
    · simpa [hfeed] using hpart

/-- **Colours change no visible text.** Without its escape sequences an entry in colours is what is shown of
it where no colours are taken, and that is its plain text with the tabs of each line expanded. Without
tabs it is the plain text itself. -/
theorem visible_text (hrange : InRange s.columnWidth)
    (hescape : ∀ t ∈ [e.target, e.short, e.long], '\x1b' ∉ t) :
    ∃ coloured bare plain, render { s with colorize := true, noColor := false } e = .ok coloured
      ∧ render { s with colorize := true, noColor := true } e = .ok bare
      ∧ render { s with colorize := false } e = .ok plain
      ∧ withoutEscapes coloured = bare
      ∧ (∀ t : Text, List.Forall₂ (TabsExpanded 0) (Text.lines plain) (Text.lines t) ↔ t = bare)
      ∧ ((∀ t ∈ [e.target, e.short, e.long], '\t' ∉ t) → bare = plain) := by
  refine ⟨written (layOut s e), writtenPlain (layOut s e), chars (layOut s e),
    render_eq_ok_iff.mpr ⟨hrange, rfl⟩, render_eq_ok_iff.mpr ⟨hrange, rfl⟩,
    render_eq_ok_iff.mpr ⟨hrange, rfl⟩, ?_, fun t => ⟨fun ht => ?_, ?_⟩, fun htab => ?_⟩
  · refine withoutEscapes_written fun hmem => ?_
    obtain ⟨t, ht, hc⟩ := mem_of_mem_chars_layOut hmem (by decide) (by decide)
    exact hescape t ht hc
  · -- the lines are the same, and so are the texts
    have hunique : Relator.RightUnique (TabsExpanded 0) := fun _ _ _ h h' => tabsExpanded_unique h' h
    have hlines : Text.lines t = Text.lines (writtenPlain (layOut s e)) :=
      hunique.forall₂ ht (tabsExpanded_writtenPlain (layOut s e))
    rw [← @Text.join_cut '\n' t, ← @Text.join_cut '\n' (writtenPlain (layOut s e))]
    exact congrArg (Text.join '\n') hlines
  · rintro rfl
    exact tabsExpanded_writtenPlain (layOut s e)
  · rw [writtenPlain_eq, flatten_expandTabs_of_noTab]
    intro x hx hxc
    obtain ⟨t, ht, hc⟩ := mem_of_mem_chars_layOut (s := s) (e := e)
      (List.mem_map.mpr ⟨x, hx, hxc⟩) (by decide) (by decide)
    exact htab t ht hc

/-- A wide character before a tab, a line feed in the short description and a tab in the long one. -/
theorem visible_text_wide_character :
    let s : Style := { verbose := true, columnWidth := 4 }
    let e : Entry := ⟨"ab".toList, "日\tc\nd".toList, "x\ty".toList, true⟩
    InRange s.columnWidth ∧ (∀ t ∈ [e.target, e.short, e.long], '\x1b' ∉ t)
      ∧ ∃ coloured, render { s with colorize := true, noColor := false } e = .ok coloured
        ∧ withoutEscapes coloured = "ab  日  c\nd\nx       y\n\n".toList := by
  intro s e
  have hrange : InRange s.columnWidth := by decide
  have hescape : ∀ t ∈ [e.target, e.short, e.long], '\x1b' ∉ t := by decide
  obtain ⟨coloured, bare, plain, hcoloured, hbare, -, hsame, -⟩ := visible_text hrange hescape
  have hshown : render { s with colorize := true, noColor := true } e
      = .ok "ab  日  c\nd\nx       y\n\n".toList := by decide +kernel
  rw [Except.ok.inj (hbare.symm.trans hshown)] at hsame
  exact ⟨hrange, hescape, coloured, hcoloured, hsame⟩

end Listing

end TargetDocs
