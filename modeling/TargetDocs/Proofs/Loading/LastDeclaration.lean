/-
Which declaration counts when targets are documented more than once.

Loading puts the entries of all files into one catalogue, each with the mark of its own file's default
goal. Nothing of an entry survives a later one for the same target:

* `get?_insertAll` — a catalogue answers with the last of the entries put into it;
* `result_loadInto_of_readable` — files that can all be read are loaded, as one long list of entries;
* `find?_reverse_entries_iff` — the last of these entries is that of the last declaration in the last file
  that documents the target;
* `mem_targets_insertAll_entries_iff`, `get?_insertAll_entries_eq_some_iff` — what a catalogue made from
  texts answers;
* `load_last_declaration` — so what was loaded for a target is made of that declaration and the goal of
  that file.
-/
import Mathlib.Data.List.Forall2
import TargetDocs.Loading

namespace TargetDocs

open Makefile

theorem Catalogue.get?_insertAll (c : Catalogue) (es : List Entry) (target : Text) :
    (c.insertAll es).get? target
      = (es.reverse.find? fun e => e.target = target).or (c.get? target) := by
  induction es generalizing c with
  | nil => rfl
  | cons e es ih =>
    have hstep : c.insertAll (e :: es) = (c.insert e).insertAll es := rfl
    rw [hstep, ih, Catalogue.get?_insert, List.reverse_cons, List.find?_append, Option.or_assoc]
    by_cases he : e.target = target
    · simp [he]
    · simp [he]

theorem Catalogue.mem_targets_iff {c : Catalogue} {target : Text} :
    target ∈ c.targets ↔ ∃ e, c.get? target = some e := by
  rw [Catalogue.targets, List.mem_map]
  constructor
  · rintro ⟨e, he, rfl⟩
    exact ⟨e, Catalogue.mem_entries_iff.mp he⟩
  · rintro ⟨e, he⟩
    obtain rfl := Catalogue.target_of_get? he
    exact ⟨e, Catalogue.mem_entries_iff.mpr he, rfl⟩

namespace Loading

theorem result_loadInto_of_readable {read : Reader} {ps : List Path} {ts : List Text}
    (h : List.Forall₂ (fun p t => readText read p = .ok t) ps ts) (c : Catalogue) :
    (loadInto read c ps).result = .ok (c.insertAll (ts.flatMap entries)) := by
  induction h generalizing c with
  | nil => rfl
  | cons hp _ ih =>
    rw [loadInto_cons_ok hp, ih, List.flatMap_cons, Catalogue.insertAll, Catalogue.insertAll,
      Catalogue.insertAll, List.foldl_append]

/-! ### The last declaration of a target -/

/-- `t` is the last of the texts that documents the target, and `d` what it says there last. -/
structure LastDeclaration (ts : List Text) (target t : Text) (d : Documented) : Prop where
  lastText : ∃ earlier later, ts = earlier ++ t :: later
    ∧ ∀ u ∈ later, ∀ o ∈ documented u, o.target ≠ target
  lastLine : ∃ above below, documented t = above ++ d :: below ∧ ∀ o ∈ below, o.target ≠ target
  target_eq : d.target = target

/-- A search from the end finds what has nothing more to find behind it. -/
private theorem findSome?_reverse_eq_some_iff {α β : Type} {f : α → Option β} {xs : List α} {b : β} :
    xs.reverse.findSome? f = some b
      ↔ ∃ before x after, xs = before ++ x :: after ∧ f x = some b ∧ ∀ y ∈ after, f y = none := by
  rw [List.findSome?_eq_some_iff]
  constructor
  · rintro ⟨passed, x, rest, hsplit, hx, hpassed⟩
    refine ⟨rest.reverse, x, passed.reverse, ?_, hx, fun y hy => ?_⟩
    · rw [← List.reverse_reverse xs, hsplit]
      simp
    · exact hpassed y (List.mem_reverse.mp hy)
  · rintro ⟨before, x, after, rfl, hx, hafter⟩
    refine ⟨after.reverse, x, before.reverse, ?_, hx, fun y hy => ?_⟩
    · simp
    · exact hafter y (List.mem_reverse.mp hy)

theorem find?_reverse_documented_iff {t target : Text} {d : Documented} :
    (documented t).reverse.find? (fun o => o.target = target) = some d
      ↔ d.target = target
        ∧ ∃ above below, documented t = above ++ d :: below ∧ ∀ o ∈ below, o.target ≠ target := by
  rw [List.find?_eq_findSome?_guard, findSome?_reverse_eq_some_iff]
  constructor
  · rintro ⟨above, o, below, hsplit, ho, hbelow⟩
    obtain ⟨rfl, htarget⟩ := Option.guard_eq_some_iff.mp ho
    exact ⟨by simpa using htarget, above, below, hsplit, by simpa using hbelow⟩
  · rintro ⟨htarget, above, below, hsplit, hbelow⟩
    refine ⟨above, d, below, hsplit, ?_, by simpa using hbelow⟩
    exact Option.guard_eq_some_iff.mpr ⟨rfl, by simpa using htarget⟩

theorem find?_reverse_entries_iff {ts : List Text} {target : Text} {e : Entry} :
    (ts.flatMap entries).reverse.find? (fun e => e.target = target) = some e
      ↔ ∃ t d, LastDeclaration ts target t d ∧ Entry.ofDocumented d (defaultGoal t) = e := by
  -- the search goes through the files from the last one on, and through each from its end
  have hfile : ∀ t, (entries t).reverse.find? (fun e => e.target = target)
      = ((documented t).reverse.find? fun o => o.target = target).map
          (Entry.ofDocumented · (defaultGoal t)) := by
    intro t
    rw [entries, Entry.ofMakefile, ← List.map_reverse, List.find?_map]
    rfl
  have hnone : ∀ t, (documented t).reverse.find? (fun o => o.target = target) = none
      ↔ ∀ o ∈ documented t, o.target ≠ target := by
    simp
  rw [List.reverse_flatMap, List.find?_flatMap, findSome?_reverse_eq_some_iff]
  simp only [Function.comp_apply, hfile, Option.map_eq_some_iff, Option.map_eq_none_iff, hnone,
    find?_reverse_documented_iff]
  constructor
  · rintro ⟨earlier, t, later, hsplit, ⟨d, ⟨htarget, hline⟩, he⟩, hlater⟩
    exact ⟨t, d, ⟨⟨earlier, later, hsplit, hlater⟩, hline, htarget⟩, he⟩
  · rintro ⟨t, d, ⟨⟨earlier, later, hsplit, hlater⟩, hline, htarget⟩, he⟩
    exact ⟨earlier, t, later, hsplit, ⟨d, ⟨htarget, hline⟩, he⟩, hlater⟩

/-! ### What a catalogue made from texts answers -/

theorem get?_insertAll_entries (ts : List Text) (target : Text) :
    (Catalogue.empty.insertAll (ts.flatMap entries)).get? target
      = (ts.flatMap entries).reverse.find? fun e => e.target = target := by
  rw [Catalogue.get?_insertAll, Catalogue.get?_empty, Option.or_none]

/-- It has the targets that one of the texts documents. -/
theorem mem_targets_insertAll_entries_iff {ts : List Text} {target : Text} :
    target ∈ (Catalogue.empty.insertAll (ts.flatMap entries)).targets
      ↔ ∃ t ∈ ts, ∃ d ∈ documented t, d.target = target := by
  rw [Catalogue.mem_targets_iff, get?_insertAll_entries, ← Option.isSome_iff_exists, List.find?_isSome]
  simp only [List.mem_reverse, List.mem_flatMap, entries, Entry.ofMakefile, List.mem_map,
    decide_eq_true_eq]
  constructor
  · rintro ⟨e, ⟨t, ht, d, hd, rfl⟩, htarget⟩
    exact ⟨t, ht, d, hd, htarget⟩
  · rintro ⟨t, ht, d, hd, htarget⟩
    exact ⟨_, ⟨t, ht, d, hd, rfl⟩, htarget⟩

/-- Its entry for a target is made of the last declaration, with the goal of the text that has it. -/
theorem get?_insertAll_entries_eq_some_iff {ts : List Text} {target : Text} {e : Entry} :
    (Catalogue.empty.insertAll (ts.flatMap entries)).get? target = some e
      ↔ ∃ t d, LastDeclaration ts target t d
        ∧ e = { target
                short := (splitDescription d.comment).1
                long := (splitDescription d.comment).2
                isDefault := decide (defaultGoal t ≠ [] ∧ defaultGoal t = target) } := by
  rw [get?_insertAll_entries, find?_reverse_entries_iff]
  refine exists_congr fun t => exists_congr fun d => and_congr_right fun hlast => ?_
  -- the declaration names the target, so its entry is the one described
  obtain rfl := hlast.target_eq
  simp only [Entry.ofDocumented, eq_comm]

/-- **The last declaration counts.** Files that can all be read are loaded. The targets are those that
one of them documents, and the entry for each is made of its last declaration in the last file that has
one; it is the default exactly if the goal of that same file names it. -/
theorem load_last_declaration {read : Reader} {paths ts : List Text}
    (h : List.Forall₂ (fun p t => readText read (Path.ofText p) = .ok t) paths ts) :
    ∃ c, (load read paths).result = .ok c
      ∧ (∀ target, target ∈ c.targets ↔ ∃ t ∈ ts, ∃ d ∈ documented t, d.target = target)
      ∧ ∀ target e, c.get? target = some e
        ↔ ∃ t d, LastDeclaration ts target t d
          ∧ e = { target
                  short := (splitDescription d.comment).1
                  long := (splitDescription d.comment).2
                  isDefault := decide (defaultGoal t ≠ [] ∧ defaultGoal t = target) } := by
  have hread : List.Forall₂ (fun p t => readText read p = .ok t) (paths.map Path.ofText) ts :=
    List.forall₂_map_left_iff.mpr h
  exact ⟨_, result_loadInto_of_readable hread .empty, fun target => mem_targets_insertAll_entries_iff,
    fun target e => get?_insertAll_entries_eq_some_iff⟩

/-- The goal of the first file names the target, but the second file documents it twice again. -/
theorem load_last_declaration_two_goals :
    let first := ".DEFAULT_GOAL := x\n## one\nx:\n## why\ny:".toList
    let second := ".DEFAULT_GOAL := y\n## two\nx:\n## three\n##\n## more\nx:".toList
    let tree := ((⟨[]⟩ : FileTree).write "a.mk".toList (.file (Text.Utf8.encode first))).write
      "b.mk".toList (.file (Text.Utf8.encode second))
    List.Forall₂ (fun p t => readText tree.read (Path.ofText p) = .ok t)
        ["a.mk".toList, "b.mk".toList] [first, second]
      ∧ ∃ c, (load tree.read ["a.mk".toList, "b.mk".toList]).result = .ok c
        ∧ c.get? "x".toList
          = some ⟨"x".toList, "three".toList, "more".toList, false⟩ := by
  intro first second tree
  have hread : List.Forall₂ (fun p t => readText tree.read (Path.ofText p) = .ok t)
      ["a.mk".toList, "b.mk".toList] [first, second] :=
    .cons (by decide +kernel) (.cons (by decide +kernel) .nil)
  obtain ⟨c, hc, -, hget⟩ := load_last_declaration hread
  refine ⟨hread, c, hc, (hget _ _).mpr ⟨second, ⟨"x".toList, "three\n\nmore".toList⟩, ?_, ?_⟩⟩
  · refine ⟨⟨[first], [], rfl, by simp⟩, ⟨[⟨"x".toList, "two".toList⟩], [], ?_, by simp⟩, rfl⟩
    decide +kernel
  · decide +kernel

end Loading

end TargetDocs
