/-
A listing and the runs for one target each.

A run can be asked for one target by an option in front of its command line. The listing of all targets is
made of what these runs print, in the order of the targets, and a run for a target that is not documented
fails and prints nothing:

* `mem_targets_load_iff`, `isName_of_mem_targets` — the targets of what is loaded are those that a file
  documents, and all of them are names;
* `result_of_selection` — what a run prints is what it selects;
* `run_only` — a command line with a target in front asks for that target;
* `listing_of_targets` — so the listing is put together of the runs for its targets;
* `listing_of_targets_marker` — but the marker is no target that can be asked for: behind the equals sign it
  counts as none.
-/
import TargetDocs.Proofs.CommandLine.Front
import TargetDocs.Proofs.Loading.Rearrangement
import TargetDocs.Proofs.Makefile.Writing
import TargetDocs.Proofs.Run.ExitCode
import TargetDocs.Proofs.Run.Printing

namespace TargetDocs

/-! ### The targets of what is loaded -/

namespace Loading

variable {read : Reader} {paths : List Text} {c : Catalogue}

theorem mem_targets_load_iff (h : (load read paths).result = .ok c) (name : Text) :
    name ∈ c.targets ↔ ∃ path ∈ paths, Documents read path name := by
  obtain ⟨d, hd, hget⟩ := get?_of_load (exists_result_iff.mp ⟨c, h⟩)
  obtain rfl := Except.ok.inj (h.symm.trans hd)
  rw [Catalogue.mem_targets_iff, hget, ← Option.isSome_iff_exists, lastEntry,
    List.findSome?_isSome_iff]
  simp only [List.mem_reverse, isSome_entryIn_iff]

theorem isName_of_mem_targets (h : (load read paths).result = .ok c) {name : Text}
    (hname : name ∈ c.targets) : Makefile.IsName name := by
  obtain ⟨path, -, t, -, d, hd, rfl⟩ := (mem_targets_load_iff h name).mp hname
  exact Makefile.isName_of_mem_documented hd

end Loading

namespace Run

open CommandLine

variable {s : Surroundings} {words : List Text} {r : Request} {c : Catalogue} {width : Int}

/-! ### What is selected is printed -/

/-- Without entries any width will do. -/
theorem texts_of_width (hwidth : columnWidth? s.preferences r.columnWidth = some width)
    {es : List Entry} (hrange : es ≠ [] → Listing.InRange width) :
    texts s r es = .ok (es.map (Listing.text (style s r width))) := by
  cases es with
  | nil =>
    rw [texts, hwidth]
    rfl
  | cons e es => exact texts_of_inRange hwidth (hrange (List.cons_ne_nil e es)) (e :: es)

theorem result_of_selection {es : List Entry} (hloads : Loads s r c) (houtlet : s.outlet = .working)
    (hwidth : columnWidth? s.preferences r.columnWidth = some width)
    (hrange : es ≠ [] → Listing.InRange width) (hselection : selection r.target c = some es) :
    (request s r).result = (.code 0, es.flatMap (Listing.text (style s r width))) := by
  have hverdict := verdictOf_of_texts hselection (texts_of_width hwidth hrange)
  rw [request_of_loads hloads, hverdict, finish_print, houtlet, print_working, List.flatMap_def]
  rfl

theorem result_of_noSelection (hload : (Loading.load s.read r.files).result = .ok c)
    (hselection : selection r.target c = none) : (request s r).result = (.code 1, []) := by
  by_cases hfiles : r.files = []
  · rw [request_of_noFiles hfiles]
    rfl
  · rw [request_of_loads ⟨hfiles, hload⟩, verdictOf, hselection]
    rfl

/-- A run without files fails, but there was nothing to print either. -/
theorem output_of_noTarget (hload : (Loading.load s.read r.files).result = .ok c)
    (houtlet : s.outlet = .working) (htarget : r.target = [])
    (hwidth : columnWidth? s.preferences r.columnWidth = some width)
    (hrange : c.entries ≠ [] → Listing.InRange width) :
    (request s r).output = c.entries.flatMap (Listing.text (style s r width)) := by
  by_cases hfiles : r.files = []
  · -- nothing is loaded, so nothing is missing from the output
    have hempty : c = .empty := by
      rw [hfiles] at hload
      exact (Except.ok.inj hload).symm
    rw [request_of_noFiles hfiles, hempty]
    rfl
  · have hselection : selection r.target c = some c.entries := if_pos htarget
    exact congrArg Prod.snd
      (result_of_selection ⟨hfiles, hload⟩ houtlet hwidth hrange hselection)

/-! ### A target in front -/

/-- The word that asks for one target. -/
def onlyWord (name : Text) : Text := "-target".toList ++ '=' :: name

theorem run_target_front (hreads : Reads s words r) (hgiven : .valued .target ∉ given words)
    {name : Text} {ts : List Text} (h : Spells (.target name) ts) :
    run s (ts ++ words) = request s { r with target := name } := by
  have hfront := parse_front_of_free h hreads.parse_eq fun sw hsw hyields => hgiven (hyields ▸ hsw)
  exact run_request hreads.helpWritable hfront

theorem run_only (hreads : Reads s words r) (hgiven : .valued .target ∉ given words) {name : Text}
    (hname : name ≠ marker) :
    run s (onlyWord name :: words) = request s { r with target := name } :=
  run_target_front hreads hgiven (.targetJoined (by decide) hname)

/-- Behind the equals sign the marker counts as no target. -/
theorem run_only_marker (hreads : Reads s words r) (hgiven : .valued .target ∉ given words) :
    run s (onlyWord marker :: words) = run s words := by
  have hnone : { r with target := [] } = r := by rw [← target_eq_nil hreads.parse_eq hgiven]
  have honly : run s (onlyWord marker :: words) = request s { r with target := [] } :=
    run_target_front hreads hgiven (.targetMarker (by decide))
  rw [honly, hnone, run_of_reads hreads]

theorem result_run_only (hreads : Reads s words r) (hgiven : .valued .target ∉ given words)
    (hload : (Loading.load s.read r.files).result = .ok c) (houtlet : s.outlet = .working)
    (hwidth : columnWidth? s.preferences r.columnWidth = some width)
    (hrange : Listing.InRange width) {e : Entry} (he : e ∈ c.entries) (hname : e.target ≠ marker) :
    (run s (onlyWord e.target :: words)).result = (.code 0, Listing.text (style s r width) e) := by
  have hmem : e.target ∈ c.targets := List.mem_map_of_mem he
  obtain ⟨path, hpath, -⟩ := (Loading.mem_targets_load_iff hload e.target).mp hmem
  have hloads : Loads s { r with target := e.target } c := ⟨List.ne_nil_of_mem hpath, hload⟩
  have hselection : selection e.target c = some [e] := by
    rw [selection, if_neg (Loading.isName_of_mem_targets hload hmem).1,
      Catalogue.mem_entries_iff.mp he]
    rfl
  rw [run_only hreads hgiven hname,
    result_of_selection hloads houtlet hwidth (fun _ => hrange) hselection]
  exact congrArg (Exit.code 0, ·) (List.flatMap_singleton _ e)

theorem result_run_only_of_not_mem (hreads : Reads s words r)
    (hgiven : .valued .target ∉ given words)
    (hload : (Loading.load s.read r.files).result = .ok c) {name : Text} (hne : name ≠ [])
    (hname : name ≠ marker) (hmem : name ∉ c.targets) :
    (run s (onlyWord name :: words)).result = (.code 1, []) := by
  have hget : c.get? name = none := by
    refine Option.eq_none_iff_forall_ne_some.mpr fun e he => hmem ?_
    exact Catalogue.mem_targets_iff.mpr ⟨e, he⟩
  have hselection : selection name c = none := selection_of_get?_eq_none hne hget
  rw [run_only hreads hgiven hname]
  exact @result_of_noSelection s { r with target := name } c hload hselection

/-- **A listing is put together of its targets.** The targets are those that a file documents, in increasing
order. What a run prints that is not asked for one of them is what the runs print that are asked for
one each. A run that is asked for another one fails and prints nothing. The marker alone cannot be asked
for in this way, so if it is documented the listing is not put together like that. -/
theorem listing_of_targets (hreads : Reads s words r) (hgiven : .valued .target ∉ given words)
    (hload : (Loading.load s.read r.files).result = .ok c) (houtlet : s.outlet = .working)
    (hwidth : columnWidth? s.preferences r.columnWidth = some width)
    (hrange : Listing.InRange width) :
    let only name := run s (onlyWord name :: words)
    (∀ name, name ∈ c.targets ↔ ∃ path ∈ r.files, Loading.Documents s.read path name)
      ∧ c.targets.Pairwise (· < ·)
      ∧ (marker ∉ c.targets →
        (run s words).output = c.targets.flatMap fun name => (only name).output)
      ∧ (∀ name, name ≠ [] → name ≠ marker →
        ((only name).exit = .code 0 ↔ name ∈ c.targets)
          ∧ (name ∉ c.targets → (only name).exit = .code 1 ∧ (only name).output = []))
      ∧ only marker = run s words := by
  intro only
  refine ⟨Loading.mem_targets_load_iff hload, List.pairwise_map.mpr c.sorted, fun hmarker => ?_,
    fun name hne hname => ?_, run_only_marker hreads hgiven⟩
  · have htarget : r.target = [] := target_eq_nil hreads.parse_eq hgiven
    rw [run_of_reads hreads, output_of_noTarget hload houtlet htarget hwidth fun _ => hrange,
      Catalogue.targets, List.flatMap_map]
    -- the run for one target prints the text of its entry
    refine List.flatMap_congr fun e he => ?_
    have hname : e.target ≠ marker := fun h => hmarker (h ▸ List.mem_map_of_mem he)
    exact (Prod.mk.inj (result_run_only hreads hgiven hload houtlet hwidth hrange he hname)).2.symm
  · have hfailed : name ∉ c.targets → (only name).exit = .code 1 ∧ (only name).output = [] :=
      fun hmem => Prod.mk.inj (result_run_only_of_not_mem hreads hgiven hload hne hname hmem)
    refine ⟨⟨fun hexit => ?_, fun hmem => ?_⟩, hfailed⟩
    · by_contra hmem
      cases hexit.symm.trans (hfailed hmem).1
    · obtain ⟨e, he, rfl⟩ := List.mem_map.mp hmem
      exact (Prod.mk.inj (result_run_only hreads hgiven hload houtlet hwidth hrange he hname)).1

/-- Two targets, the later one first in its file. -/
theorem listing_of_targets_two :
    let text := "## second\nb:\n## first\na:\n".toList
    let tree := (⟨[]⟩ : FileTree).write "a.mk".toList (.file (Text.Utf8.encode text))
    let s : Surroundings := { preferences := {}, read := tree.read }
    let words := ["a.mk".toList, "--column-width=4".toList]
    let only name := run s (onlyWord name :: words)
    (run s words).output = (only "a".toList).output ++ (only "b".toList).output
      ∧ (only "a".toList).output = "a   first\n".toList
      ∧ (only "c".toList).exit = .code 1 := by
  intro text tree s words only
  have hreads : Reads s words { files := ["a.mk".toList], columnWidth := .columns 4 } :=
    ⟨by decide +kernel, by decide +kernel⟩
  have hread : readText s.read (Path.ofText "a.mk".toList) = .ok text := by decide +kernel
  let c := Catalogue.empty.insertAll ([text].flatMap Makefile.entries)
  have hload : (Loading.load s.read ["a.mk".toList]).result = .ok c :=
    Loading.result_loadInto_of_readable (.cons hread .nil) .empty
  have htargets : c.targets = ["a".toList, "b".toList] := by decide +kernel
  obtain ⟨-, -, houtput, honly, -⟩ :=
    listing_of_targets hreads (by decide +kernel) hload rfl rfl (by decide : Listing.InRange 4)
  have hmarker : marker ∉ c.targets := by
    rw [htargets]
    decide
  have hother : "c".toList ∉ c.targets := by
    rw [htargets]
    decide
  refine ⟨?_, ?_, ((honly _ (by decide) (by decide)).2 hother).1⟩
  · rw [houtput hmarker, htargets]
    simp only [List.flatMap_cons, List.flatMap_nil, List.append_nil]
    rfl
  · decide +kernel

/-- The marker is asked for, which is no target, and all targets are listed. -/
theorem listing_of_targets_marker :
    let text := "## one\na:\n## two\nb:\n".toList
    let tree := (⟨[]⟩ : FileTree).write "a.mk".toList (.file (Text.Utf8.encode text))
    let s : Surroundings := { preferences := {}, read := tree.read }
    let outcome := run s [onlyWord marker, "a.mk".toList]
    marker ≠ [] ∧ ¬ Loading.Documents s.read "a.mk".toList marker
      ∧ outcome.exit = .code 0 ∧ outcome.output ≠ [] := by
  intro text tree s outcome
  have hread : readText s.read (Path.ofText "a.mk".toList) = .ok text := by decide +kernel
  refine ⟨by decide, ?_, by decide +kernel, by decide +kernel⟩
  rw [Loading.documents_iff hread]
  decide +kernel

end Run

end TargetDocs
