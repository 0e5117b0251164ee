/-
Lists of files that load to the same catalogue.

What a catalogue answers for a target is the last entry that a file of the list has for it, so a list
can be changed wherever this entry stays:

* `get?_of_load` — the answer of a catalogue, from the list of paths;
* `get?_load_append` — the later part of a list overrides the earlier one, target by target;
* `result_load_eraseEarlier`, `result_load_dedup` — of a path that is named more than once, only the last
  occurrence counts;
* `result_load_perm` — files that document no common target can change places;
* `run_of_same_result` — a run depends on the files that are named only through what is loaded;
* `load_of_rearranged` — so in each of these cases loadings and runs agree (`Interchangeable`).
-/
import Mathlib.Data.List.Dedup
import TargetDocs.Proofs.Loading.FirstFailure
import TargetDocs.Proofs.Loading.LastDeclaration

namespace TargetDocs

open Makefile

/-! ### The last entry of a list of files -/

namespace Loading

variable {read : Reader} {paths paths' : List Text}

/-- The file can be read and has a comment for the target. -/
def Documents (read : Reader) (path target : Text) : Prop :=
  ∃ t, readText read (Path.ofText path) = .ok t ∧ ∃ d ∈ documented t, d.target = target

theorem documents_iff {path t target : Text} (h : readText read (Path.ofText path) = .ok t) :
    Documents read path target ↔ ∃ d ∈ documented t, d.target = target := by
  simp [Documents, h]

/-- What a file says of a target last. -/
def entryIn (read : Reader) (target path : Text) : Option Entry :=
  match readText read (Path.ofText path) with
  | .ok t => (entries t).reverse.find? fun e => e.target = target
  | .error _ => none

/-- What a list of files says of a target last. -/
def lastEntry (read : Reader) (paths : List Text) (target : Text) : Option Entry :=
  paths.reverse.findSome? (entryIn read target)

theorem isSome_entryIn_iff {target path : Text} :
    (entryIn read target path).isSome ↔ Documents read path target := by
  unfold entryIn Documents
  cases readText read (Path.ofText path) with
  | error fault => simp
  | ok t => simp [entries, Entry.ofMakefile, Entry.ofDocumented]

theorem lastEntry_append (ps qs : List Text) (target : Text) :
    lastEntry read (ps ++ qs) target = (lastEntry read qs target).or (lastEntry read ps target) := by
  rw [lastEntry, List.reverse_append, List.findSome?_append]
  rfl

/-- Files that can all be read are loaded, and the catalogue answers with their last entries. -/
theorem get?_of_load (h : ∀ path ∈ paths, Readable read (Path.ofText path)) :
    ∃ c, (load read paths).result = .ok c ∧ ∀ target, c.get? target = lastEntry read paths target := by
  have hload : ∀ c₀ : Catalogue, ∃ c, (loadInto read c₀ (paths.map Path.ofText)).result = .ok c
      ∧ ∀ target, c.get? target = (lastEntry read paths target).or (c₀.get? target) := by
    induction paths with
    | nil => exact fun c₀ => ⟨c₀, rfl, fun target => rfl⟩
    | cons path paths ih =>
      intro c₀
      obtain ⟨t, ht⟩ := readable_iff.mp (h path List.mem_cons_self)
      obtain ⟨c, hc, hget⟩ := ih (fun p hp => h p (List.mem_cons_of_mem path hp))
        (c₀.insertAll (entries t))
      refine ⟨c, ?_, fun target => ?_⟩
      · rw [List.map_cons, loadInto_cons_ok ht]
        exact hc
      · -- the first file speaks only where the others are silent
        have hfirst : lastEntry read [path] target
            = (entries t).reverse.find? fun e => e.target = target := by
          simp [lastEntry, entryIn, ht]
        have hsplit := @lastEntry_append read [path] paths target
        rw [hget, Catalogue.get?_insertAll, ← Option.or_assoc, ← hfirst, ← hsplit]
        rfl
  obtain ⟨c, hc, hget⟩ := hload .empty
  exact ⟨c, hc, fun target => by rw [hget, Catalogue.get?_empty, Option.or_none]⟩

/-- Lists of readable files with the same last entries load to the same catalogue. -/
theorem result_load_congr (h : ∀ path ∈ paths, Readable read (Path.ofText path))
    (h' : ∀ path ∈ paths', Readable read (Path.ofText path))
    (hlast : ∀ target, lastEntry read paths' target = lastEntry read paths target) :
    (load read paths').result = (load read paths).result := by
  obtain ⟨c, hc, hget⟩ := get?_of_load h
  obtain ⟨c', hc', hget'⟩ := get?_of_load h'
  have hsame : c' = c := Catalogue.ext_get? fun target => by rw [hget', hlast, hget]
  rw [hc, hc', hsame]

theorem get?_load_append {ps qs : List Text}
    (h : ∀ path ∈ ps ++ qs, Readable read (Path.ofText path)) :
    ∃ c d e, (load read ps).result = .ok c ∧ (load read qs).result = .ok d
      ∧ (load read (ps ++ qs)).result = .ok e
      ∧ ∀ target, e.get? target = (d.get? target).or (c.get? target) := by
  obtain ⟨c, hc, hgetc⟩ := get?_of_load fun path hp => h path (List.mem_append_left qs hp)
  obtain ⟨d, hd, hgetd⟩ := get?_of_load fun path hp => h path (List.mem_append_right ps hp)
  obtain ⟨e, he, hgete⟩ := get?_of_load h
  refine ⟨c, d, e, hc, hd, he, fun target => ?_⟩
  rw [hgete, lastEntry_append, hgetc, hgetd]

/-! ### Paths that are named again -/

private theorem findSome?_filter_ne {f : Text → Option Entry} {path : Text} (h : f path = none)
    (ps : List Text) : (ps.filter (· ≠ path)).findSome? f = ps.findSome? f := by
  induction ps with
  | nil => rfl
  | cons p ps ih =>
    by_cases hp : p = path
    · subst hp
      rw [List.filter_cons_of_neg (by simp), ih, List.findSome?_cons, h]
    · rw [List.filter_cons_of_pos (by simpa using hp), List.findSome?_cons, List.findSome?_cons, ih]

theorem lastEntry_eraseEarlier (before after : List Text) (path target : Text) :
    lastEntry read (before.filter (· ≠ path) ++ path :: after) target
      = lastEntry read (before ++ path :: after) target := by
  have hsplit : ∀ ps : List Text, lastEntry read (ps ++ path :: after) target
      = (lastEntry read after target).or ((entryIn read target path).or (lastEntry read ps target)) := by
    intro ps
    rw [lastEntry_append, ← List.singleton_append, lastEntry_append, Option.or_assoc]
    simp [lastEntry]
  rw [hsplit, hsplit]
  cases hpath : entryIn read target path with
  | some e => rfl
  | none =>
    -- the path is silent on the target, so it does not matter where it stands
    have hbefore : lastEntry read (before.filter (· ≠ path)) target = lastEntry read before target := by
      rw [lastEntry, lastEntry, ← List.filter_reverse]
      exact findSome?_filter_ne hpath before.reverse
    rw [hbefore]

theorem result_load_eraseEarlier {before after : List Text} {path : Text}
    (h : ∀ p ∈ before ++ path :: after, Readable read (Path.ofText p)) :
    (load read (before.filter (· ≠ path) ++ path :: after)).result
      = (load read (before ++ path :: after)).result := by
  have hsub : (before.filter (· ≠ path) ++ path :: after).Sublist (before ++ path :: after) :=
    List.filter_sublist.append (List.Sublist.refl _)
  exact result_load_congr h (fun p hp => h p (hsub.subset hp))
    (lastEntry_eraseEarlier before after path)

theorem lastEntry_dedup (paths : List Text) (target : Text) :
    lastEntry read paths.dedup target = lastEntry read paths target := by
  induction paths with
  | nil => rfl
  | cons path paths ih =>
    have hcons : ∀ ps : List Text, lastEntry read (path :: ps) target
        = (lastEntry read ps target).or (entryIn read target path) := by
      intro ps
      rw [← List.singleton_append, lastEntry_append]
      simp [lastEntry]
    by_cases hmem : path ∈ paths
    · -- whatever the path says of the target, the later list says something too
      rw [List.dedup_cons_of_mem hmem, ih, hcons]
      cases hpath : entryIn read target path with
      | none => rw [Option.or_none]
      | some e =>
        have hsome : (lastEntry read paths target).isSome := by
          rw [lastEntry, List.findSome?_isSome_iff]
          exact ⟨path, List.mem_reverse.mpr hmem, by rw [hpath]; rfl⟩
        exact (Option.or_of_isSome hsome).symm
    · rw [List.dedup_cons_of_notMem hmem, hcons, hcons, ih]

theorem result_load_dedup (h : ∀ path ∈ paths, Readable read (Path.ofText path)) :
    (load read paths.dedup).result = (load read paths).result :=
  result_load_congr h (fun path hp => h path (List.mem_dedup.mp hp)) (lastEntry_dedup paths)

/-! ### Files that change places -/

/-- In a list without repetition two members stand in one order only. -/
private theorem eq_of_sublist_both {ps : List Text} (hnodup : ps.Nodup) {p q : Text}
    (hpq : [p, q].Sublist ps) (hqp : [q, p].Sublist ps) : p = q := by
  induction ps with
  | nil => cases hpq
  | cons x ps ih =>
    obtain ⟨hx, hps⟩ := List.nodup_cons.mp hnodup
    rcases List.sublist_cons_iff.mp hpq with hpq' | ⟨l, hl, hq⟩
    · rcases List.sublist_cons_iff.mp hqp with hqp' | ⟨l, hl, hp⟩
      · exact ih hps hpq' hqp'
      · -- `q` stands first, and once more behind `p`
        have hmem : q ∈ ps := hpq'.subset (List.mem_cons_of_mem p List.mem_cons_self)
        exact absurd ((List.cons.inj hl).1 ▸ hmem) hx
    · rcases List.sublist_cons_iff.mp hqp with hqp' | ⟨k, hk, hp⟩
      · have hmem : p ∈ ps := hqp'.subset (List.mem_cons_of_mem q List.mem_cons_self)
        exact absurd ((List.cons.inj hl).1 ▸ hmem) hx
      · exact (List.cons.inj hl).1.trans (List.cons.inj hk).1.symm

/-- The files that document the target, in their order, are all that matters for it. -/
private theorem lastEntry_filter (paths : List Text) (target : Text) :
    lastEntry read (paths.filter fun p => (entryIn read target p).isSome) target
      = lastEntry read paths target := by
  rw [lastEntry, lastEntry, ← List.filter_reverse]
  induction paths.reverse with
  | nil => rfl
  | cons p ps ih =>
    cases hp : entryIn read target p with
    | none => rw [List.filter_cons_of_neg (by simp [hp]), ih, List.findSome?_cons, hp]
    | some e => rw [List.filter_cons_of_pos (by simp [hp]), List.findSome?_cons, List.findSome?_cons, hp]

theorem lastEntry_perm (hnodup : paths.Nodup) (hperm : paths.Perm paths')
    (horder : ∀ p q target, Documents read p target → Documents read q target →
      [p, q].Sublist paths → [p, q].Sublist paths') (target : Text) :
    lastEntry read paths' target = lastEntry read paths target := by
  -- the files of both lists that document the target, in the order in which they stand in the second one
  have hpaths : (paths.filter fun p => (entryIn read target p).isSome).Pairwise
      fun p q => [p, q].Sublist paths' := by
    refine List.pairwise_iff_forall_sublist.mpr fun {p q} hpq => ?_
    have hdocuments : ∀ x ∈ [p, q], Documents read x target := fun x hx =>
      isSome_entryIn_iff.mp (List.mem_filter.mp (hpq.subset hx)).2
    exact horder p q target (hdocuments p (by simp)) (hdocuments q (by simp))
      (hpq.trans List.filter_sublist)
  have hpaths' : (paths'.filter fun p => (entryIn read target p).isSome).Pairwise
      fun p q => [p, q].Sublist paths' :=
    List.pairwise_iff_forall_sublist.mpr fun hpq => hpq.trans List.filter_sublist
  have heq := List.Perm.eq_of_pairwise
    (fun p q _ _ hpq hqp => eq_of_sublist_both (hperm.nodup_iff.mp hnodup) hpq hqp)
    hpaths hpaths' (hperm.filter _)
  rw [← lastEntry_filter paths, ← lastEntry_filter paths', heq]

theorem result_load_perm (h : ∀ path ∈ paths, Readable read (Path.ofText path))
    (hnodup : paths.Nodup) (hperm : paths.Perm paths')
    (horder : ∀ p q target, Documents read p target → Documents read q target →
      [p, q].Sublist paths → [p, q].Sublist paths') :
    (load read paths').result = (load read paths).result :=
  result_load_congr h (fun path hp => h path (hperm.mem_iff.mpr hp))
    (lastEntry_perm hnodup hperm horder)

end Loading

/-! ### Runs -/

namespace Run

open CommandLine

/-- A run depends on the files that are named only through what is loaded from them. -/
theorem run_of_same_result {s : Surroundings} {r : Request} {paths paths' : List Text}
    {words words' : List Text} (hwords : parse words = .ok { r with files := paths })
    (hwords' : parse words' = .ok { r with files := paths' }) (hnil : paths' = [] ↔ paths = [])
    (hresult : (Loading.load s.read paths').result = (Loading.load s.read paths).result) :
    (run s words').exit = (run s words).exit ∧ (run s words').output = (run s words).output := by
  by_cases hs : HelpWritable s.preferences
  · rw [run_request hs hwords, run_request hs hwords']
    by_cases hpaths : paths = []
    · rw [request_of_noFiles (r := { r with files := paths }) hpaths,
        request_of_noFiles (r := { r with files := paths' }) (hnil.mpr hpaths)]
      exact Prod.mk.inj (result_finish rfl ..)
    · rw [request_of_files (r := { r with files := paths }) hpaths,
        request_of_files (r := { r with files := paths' }) (fun hp => hpaths (hnil.mp hp)), hresult]
      -- neither the exit code nor the output shows what was reported before
      exact Prod.mk.inj (result_finish rfl ..)
  · rw [run, run, if_neg hs, if_neg hs]
    exact ⟨rfl, rfl⟩

end Run

namespace Loading

/-- The two lists of files are loaded to the same catalogue, and two runs that are asked for the same of
them end with the same exit code and the same output. -/
def Interchangeable (read : Reader) (paths paths' : List Text) : Prop :=
  (load read paths').result = (load read paths).result
    ∧ ∀ (s : Surroundings) (r : CommandLine.Request) (words words' : List Text), s.read = read →
      CommandLine.parse words = .ok { r with files := paths } →
      CommandLine.parse words' = .ok { r with files := paths' } →
      (Run.run s words').exit = (Run.run s words).exit
        ∧ (Run.run s words').output = (Run.run s words).output

variable {read : Reader} {paths paths' : List Text}

theorem interchangeable_of_result (hnil : paths' = [] ↔ paths = [])
    (hresult : (load read paths').result = (load read paths).result) :
    Interchangeable read paths paths' := by
  refine ⟨hresult, ?_⟩
  rintro s r words words' rfl hwords hwords'
  exact Run.run_of_same_result hwords hwords' hnil hresult

/-- **Rearranged files.** Of two lists of readable files after each other the second one overrides the
first one, target by target. Of a path that is named more than once, or of all such paths, every
occurrence but the last one can be left out. Different paths can be put in any order in which every two files
with a common target stand as before. What is loaded is the same in each case, and so is what runs with
the same options print and how they end. -/
theorem load_of_rearranged (read : Reader) :
    (∀ ps qs : List Text, (∀ path ∈ ps ++ qs, Readable read (Path.ofText path)) →
        (∃ c d e, (load read ps).result = .ok c ∧ (load read qs).result = .ok d
          ∧ (load read (ps ++ qs)).result = .ok e
          ∧ ∀ target, e.get? target = (d.get? target).or (c.get? target))
        ∧ ∀ ps' qs' : List Text, (load read ps').result = (load read ps).result →
          (load read qs').result = (load read qs).result → (ps' ++ qs' = [] ↔ ps ++ qs = []) →
          Interchangeable read (ps ++ qs) (ps' ++ qs'))
      ∧ (∀ (before after : List Text) (path : Text),
        (∀ p ∈ before ++ path :: after, Readable read (Path.ofText p)) →
        Interchangeable read (before ++ path :: after)
          (before.filter (· ≠ path) ++ path :: after))
      ∧ (∀ paths : List Text, (∀ path ∈ paths, Readable read (Path.ofText path)) →
        Interchangeable read paths paths.dedup)
      ∧ ∀ paths paths' : List Text, (∀ path ∈ paths, Readable read (Path.ofText path)) →
        paths.Nodup → paths.Perm paths' →
        (∀ p q target, Documents read p target → Documents read q target →
          [p, q].Sublist paths → [p, q].Sublist paths') →
        Interchangeable read paths paths' := by
  refine ⟨fun ps qs h => ⟨get?_load_append h, ?_⟩, ?_, ?_, ?_⟩
  · intro ps' qs' hps hqs hnil
    refine interchangeable_of_result hnil ?_
    obtain ⟨c, d, e, hc, hd, he, hget⟩ := get?_load_append h
    -- the other two lists are loaded as well, so all of their files can be read
    have hps' := exists_result_iff.mp ⟨c, hps.trans hc⟩
    have hqs' := exists_result_iff.mp ⟨d, hqs.trans hd⟩
    obtain ⟨c', d', e', hc', hd', he', hget'⟩ := get?_load_append fun path hp =>
      (List.mem_append.mp hp).elim (hps' path) (hqs' path)
    obtain rfl : c' = c := Except.ok.inj (hc'.symm.trans (hps.trans hc))
    obtain rfl : d' = d := Except.ok.inj (hd'.symm.trans (hqs.trans hd))
    rw [he, he', Catalogue.ext_get? fun target => (hget' target).trans (hget target).symm]
  · intro before after path h
    exact interchangeable_of_result (by simp) (result_load_eraseEarlier h)
  · intro paths h
    refine interchangeable_of_result ?_ (result_load_dedup h)
    exact List.dedup_eq_nil paths
  · intro paths paths' h hnodup hperm horder
    refine interchangeable_of_result ?_ (result_load_perm h hnodup hperm horder)
    exact ⟨fun hnil => (hnil ▸ hperm).eq_nil, fun hnil => (hnil ▸ hperm.symm).eq_nil⟩

/-- Two files with a target each change places, and the options stay the same. -/
theorem load_of_rearranged_two_files :
    let tree := ((⟨[]⟩ : FileTree).write "a.mk".toList (.file (Text.Utf8.encode "## one\nx:".toList))).write
      "b.mk".toList (.file (Text.Utf8.encode ".DEFAULT_GOAL = x\n## two\ny:".toList))
    let s : Surroundings := { preferences := {}, read := tree.read }
    let paths := ["a.mk".toList, "b.mk".toList]
    let paths' := ["b.mk".toList, "a.mk".toList]
    (load tree.read paths').result = (load tree.read paths).result
      ∧ (Run.run s ("--debug".toList :: paths')).exit = (Run.run s ("--debug".toList :: paths)).exit
      ∧ (Run.run s ("--debug".toList :: paths')).output
        = (Run.run s ("--debug".toList :: paths)).output := by
  intro tree s paths paths'
  have ha : readText tree.read (Path.ofText "a.mk".toList) = .ok "## one\nx:".toList := by
    decide +kernel
  have hb : readText tree.read (Path.ofText "b.mk".toList)
      = .ok ".DEFAULT_GOAL = x\n## two\ny:".toList := by
    decide +kernel
  have hread : ∀ path ∈ paths, Readable tree.read (Path.ofText path) := by
    intro path hpath
    rcases List.mem_pair.mp hpath with rfl | rfl
    · exact readable_iff.mpr ⟨_, ha⟩
    · exact readable_iff.mpr ⟨_, hb⟩
  have horder : ∀ p q target, Documents tree.read p target → Documents tree.read q target →
      [p, q].Sublist paths → [p, q].Sublist paths' := by
    intro p q target hp hq hpq
    obtain ⟨rfl, rfl⟩ : p = "a.mk".toList ∧ q = "b.mk".toList := by
      have hpaths : [p, q] = paths := hpq.eq_of_length rfl
      exact ⟨(List.cons.inj hpaths).1, (List.cons.inj (List.cons.inj hpaths).2).1⟩
    -- the one file has `x` alone, the other one `y` alone
    have hx : documented "## one\nx:".toList = [⟨"x".toList, "one".toList⟩] := by decide +kernel
    have hy : documented ".DEFAULT_GOAL = x\n## two\ny:".toList = [⟨"y".toList, "two".toList⟩] := by
      decide +kernel
    obtain ⟨d, hd, rfl⟩ := (documents_iff ha).mp hp
    obtain ⟨e, he, hed⟩ := (documents_iff hb).mp hq
    rw [hx, List.mem_singleton] at hd
    rw [hy, List.mem_singleton] at he
    subst hd he
    exact absurd hed (by decide)
  obtain ⟨hresult, hrun⟩ := (load_of_rearranged tree.read).2.2.2 paths paths' hread (by decide)
    (.swap _ _ _) horder
  exact ⟨hresult, hrun s { debug := true } _ _ rfl (by decide +kernel) (by decide +kernel)⟩

end Loading

end TargetDocs
