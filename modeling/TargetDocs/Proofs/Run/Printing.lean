/-
What a run prints when it is not asked for one target.

Each documented target is printed once, in the order of the targets and with one write each, so an output
that fails takes whole entries only, and the exit code tells whether it took all of them:

* `print_working`, `print_breaks_of_le`, `print_breaks_of_lt`, `print_full` — what each kind of output
  takes of the texts, and what there is to report;
* `verdict_of_noTarget` — with a width in range the entries of the catalogue are all to be printed;
* `listing_printed` — so for a working output, one that breaks at some write and one that fails at the
  flush, it is settled what was written and how the run ends.
-/
import Mathlib.Data.List.Forall2
import TargetDocs.Proofs.Loading.LastDeclaration
import TargetDocs.Proofs.Run.Ending

namespace TargetDocs

/-! ### Printing to an output -/

namespace Run

open CommandLine

theorem print_of_fault {o : Outlet} {ts : List Text} {written : Text} {fault : StreamFault}
    (h : o.writeAll ts = (written, some fault)) : print o ts = (written, some (.printFailed fault)) := by
  rw [print, h]

theorem print_of_noFault {o : Outlet} {ts : List Text} {written : Text}
    (h : o.writeAll ts = (written, none)) :
    print o ts = (written, o.flushFault?.map .flushFailed) := by
  rw [print, h]

theorem print_working (ts : List Text) : print .working ts = (ts.flatten, none) :=
  print_of_noFault (Outlet.writeAll_working ts)

theorem print_full (fault : StreamFault) (ts : List Text) :
    print (.full fault) ts = (ts.flatten, some (.flushFailed fault)) :=
  print_of_noFault (Outlet.writeAll_full fault ts)

theorem print_breaks_of_le {n : Nat} (hn : 1 ≤ n) (fault : StreamFault) {ts : List Text}
    (h : n ≤ ts.length) :
    print (.breaks n fault) ts = ((ts.take (n - 1)).flatten, some (.printFailed fault)) := by
  refine print_of_fault ?_
  rw [Outlet.writeAll_breaks hn, if_neg (Nat.not_lt.mpr h)]

theorem print_breaks_of_lt {n : Nat} (fault : StreamFault) {ts : List Text} (h : ts.length < n) :
    print (.breaks n fault) ts = (ts.flatten, none) := by
  refine print_of_noFault ?_
  rw [Outlet.writeAll_breaks (Nat.lt_of_le_of_lt (Nat.zero_le _) h), if_pos h]

private theorem fst_writeFrom_of_noFault {o : Outlet} {number : Nat} {ts : List Text}
    (h : (o.writeFrom number ts).2 = none) : (o.writeFrom number ts).1 = ts.flatten := by
  induction ts generalizing number with
  | nil => rfl
  | cons t ts ih =>
    rw [Outlet.writeFrom] at h ⊢
    split at h
    · cases h
    · rw [List.flatten_cons, ← ih h]

/-- Printing that has nothing to report has printed everything. -/
theorem fst_print_of_noReport {o : Outlet} {ts : List Text} (h : (print o ts).2 = none) :
    (print o ts).1 = ts.flatten := by
  cases hwritten : o.writeAll ts with
  | mk written fault? =>
    cases fault? with
    | some fault =>
      rw [print_of_fault hwritten] at h
      cases h
    | none =>
      have hnone : (o.writeAll ts).2 = none := by rw [hwritten]
      rw [print_of_noFault hwritten, ← fst_writeFrom_of_noFault hnone]
      exact (congrArg Prod.fst hwritten).symm

/-! ### The listing of a catalogue -/

variable {s : Surroundings} {words : List Text} {r : Request} {c : Catalogue} {width : Int}

/-- The option for the width of the column comes before the preference. -/
theorem columnWidth?_eq_some_iff {p : Preferences} {choice : WidthChoice} :
    columnWidth? p choice = some width
      ↔ choice = .columns width ∨ choice = .preferred ∧ p.columnWidth = width := by
  cases choice <;> simp [columnWidth?]

theorem verdict_of_noTarget (htarget : r.target = [])
    (hwidth : columnWidth? s.preferences r.columnWidth = some width)
    (hrange : Listing.InRange width) :
    verdict s r (.ok c) = .print (c.entries.map (Listing.text (style s r width))) := by
  have hselection : selection r.target c = some c.entries := by
    rw [selection, if_pos htarget]
  rw [verdict, verdictOf, hselection]
  dsimp only
  rw [texts_of_inRange hwidth hrange]

theorem run_of_noTarget (hreads : Reads s words r) (hloads : Loads s r c)
    (htarget : r.target = []) (hwidth : columnWidth? s.preferences r.columnWidth = some width)
    (hrange : Listing.InRange width) :
    run s words
      = finish s (logLevel s.preferences r) (Loading.load s.read r.files).notices
          (.print (c.entries.map (Listing.text (style s r width)))) := by
  rw [run_of_reads hreads, request_of_files hloads.files_ne_nil, hloads.load_eq,
    verdict_of_noTarget htarget hwidth hrange]

/-- The texts that are printed belong to the targets, one to each. -/
theorem forall₂_render_targets (c : Catalogue) {style : Style}
    (hrange : Listing.InRange style.columnWidth) :
    List.Forall₂ (fun t x => ∃ e, c.get? t = some e ∧ Listing.render style e = .ok x) c.targets
      (c.entries.map (Listing.text style)) := by
  rw [Catalogue.targets, List.forall₂_map_left_iff, List.forall₂_map_right_iff,
    List.forall₂_same]
  intro e he
  exact ⟨e, Catalogue.mem_entries_iff.mp he, Listing.render_eq_ok_iff.mpr ⟨hrange, rfl⟩⟩

/-- **What a listing prints.** At least one file is named, all named files are loaded, and no target is
asked for. Then the targets are those of the catalogue in increasing order, and each has one text, in
the style that the command line asks for or, where it is silent, that is preferred. A working output
takes all of them. One that breaks at a write takes the texts of the writes before, and the run fails
exactly if there is such a write. One that fails at the flush has taken all of them when the run fails.
So a run without failure has printed all. -/
theorem listing_printed (hreads : Reads s words r) (hloads : Loads s r c) (htarget : r.target = [])
    (hwidth : r.columnWidth = .columns width
      ∨ r.columnWidth = .preferred ∧ s.preferences.columnWidth = width)
    (hrange : Listing.InRange width) :
    c.targets.Pairwise (· < ·) ∧ (∀ t, t ∈ c.targets ↔ ∃ e, c.get? t = some e)
      ∧ ∃ ts, List.Forall₂
          (fun t x => ∃ e, c.get? t = some e
            ∧ Listing.render
                { verbose := r.verbose
                  colorize := r.pretty.getD s.preferences.pretty
                  columnWidth := width
                  noColor := s.noColor } e = .ok x)
          c.targets ts
        ∧ (s.outlet = .working →
          (run s words).output = ts.flatten ∧ (run s words).exit = .code 0)
        ∧ (∀ n fault, 1 ≤ n → s.outlet = .breaks n fault →
          (n ≤ ts.length →
            (run s words).output = (ts.take (n - 1)).flatten ∧ (run s words).exit = .code 1)
          ∧ (ts.length < n → (run s words).output = ts.flatten ∧ (run s words).exit = .code 0))
        ∧ (∀ fault, s.outlet = .full fault →
          (run s words).output = ts.flatten ∧ (run s words).exit = .code 1)
        ∧ ((run s words).exit = .code 0 → (run s words).output = ts.flatten) := by
  have hrun := run_of_noTarget hreads hloads htarget (columnWidth?_eq_some_iff.mpr hwidth) hrange
  refine ⟨List.pairwise_map.mpr c.sorted, fun t => Catalogue.mem_targets_iff,
    c.entries.map (Listing.text (style s r width)), forall₂_render_targets c hrange, ?_, ?_, ?_, ?_⟩
  · intro houtlet
    rw [hrun, finish_print, houtlet, print_working]
    exact ⟨rfl, rfl⟩
  · intro n fault hn houtlet
    refine ⟨fun hle => ?_, fun hlt => ?_⟩
    · rw [hrun, finish_print, houtlet, print_breaks_of_le hn fault hle]
      exact ⟨rfl, rfl⟩
    · rw [hrun, finish_print, houtlet, print_breaks_of_lt fault hlt]
      exact ⟨rfl, rfl⟩
  · intro fault houtlet
    rw [hrun, finish_print, houtlet, print_full]
    exact ⟨rfl, rfl⟩
  · intro hexit
    rw [hrun, finish_print] at hexit ⊢
    refine fst_print_of_noReport ?_
    by_contra hreport
    rw [if_neg hreport] at hexit
    cases hexit

/-- Two targets, the later one first in its file, and an output that takes one write. -/
theorem listing_printed_until_second_write :
    let text := "## second\nb:\n## first\na:\n".toList
    let tree := (⟨[]⟩ : FileTree).write "Makefile".toList (.file (Text.Utf8.encode text))
    let s : Surroundings :=
      { preferences := {}, read := tree.read, outlet := .breaks 2 ⟨"broken pipe".toList⟩ }
    let words := ["Makefile".toList, "--column-width=4".toList]
    (∃ r c, Reads s words r ∧ Loads s r c ∧ r.target = []
        ∧ r.columnWidth = .columns 4 ∧ Listing.InRange 4)
      ∧ (run s words).output = "a   first\n".toList ∧ (run s words).exit = .code 1 := by
  intro text tree s words
  have hreads : Reads s words { files := ["Makefile".toList], columnWidth := .columns 4 } :=
    ⟨by decide +kernel, by decide +kernel⟩
  have hread : readText s.read (Path.ofText "Makefile".toList) = .ok text := by decide +kernel
  have hloads : Loads s { files := ["Makefile".toList], columnWidth := .columns 4 }
      (Catalogue.empty.insertAll ([text].flatMap Makefile.entries)) :=
    ⟨by decide, Loading.result_loadInto_of_readable (.cons hread .nil) .empty⟩
  have hrange : Listing.InRange 4 := by decide
  obtain ⟨-, -, ts, hts, -, hbreaks, -⟩ := listing_printed hreads hloads rfl (Or.inl rfl) hrange
  refine ⟨⟨_, _, hreads, hloads, rfl, rfl, hrange⟩, ?_⟩
  have htargets : (Catalogue.empty.insertAll ([text].flatMap Makefile.entries)).targets
      = ["a".toList, "b".toList] := by decide +kernel
  rw [htargets] at hts
  rcases hts with _ | ⟨⟨e, he, hx⟩, hts⟩
  rcases hts with _ | ⟨-, hts⟩
  cases hts
  obtain rfl : ⟨"a".toList, "first".toList, [], false⟩ = e :=
    Option.some.inj (Eq.trans (by decide +kernel) he)
  have hrender : Listing.render { columnWidth := 4 } ⟨"a".toList, "first".toList, [], false⟩
      = .ok "a   first\n".toList := by decide +kernel
  have hfirst := Except.ok.inj (hx.symm.trans hrender)
  obtain ⟨houtput, hexit⟩ := (hbreaks 2 _ (by decide) rfl).1 (by simp)
  exact ⟨by rw [houtput, hfirst]; rfl, hexit⟩

end Run

end TargetDocs
