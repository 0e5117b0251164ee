/-
Documentation by target.

A catalogue holds at most one entry for a target. Its entries stand in the order of their targets, code
point by code point, so a catalogue is determined by what it says of each target, whatever the order
in which the entries came.

Main statements:
* `get?_insert` — the entry put in last is the one that counts for its target, and no other target is
  touched;
* `mem_entries_iff` — the entries are the answers of the catalogue;
* `ext_get?` — two catalogues that answer alike are equal.
-/
import TargetDocs.Entry

namespace TargetDocs

/-- At most one entry for each target, in increasing order of targets. -/
structure Catalogue where
  entries : List Entry
  sorted : entries.Pairwise fun a b => a.target < b.target

namespace Catalogue

/-- Puts an entry into a sorted list, in place of one for the same target. -/
def insertInto (e : Entry) : List Entry → List Entry
  | [] => [e]
  | x :: xs =>
    if e.target < x.target then e :: x :: xs
    else if x.target < e.target then x :: insertInto e xs
    else e :: xs

/-- Only the new entry is new. -/
theorem mem_of_mem_insertInto {e y : Entry} {xs : List Entry} (h : y ∈ insertInto e xs) :
    y = e ∨ y ∈ xs := by
  induction xs with
  | nil => exact Or.inl (List.mem_singleton.1 h)
  | cons x xs ih =>
    unfold insertInto at h
    split at h
    · exact List.mem_cons.1 h
    · split at h
      · rcases List.mem_cons.1 h with rfl | h
        · exact Or.inr List.mem_cons_self
        · exact (ih h).imp_right (List.mem_cons_of_mem _)
      · exact (List.mem_cons.1 h).imp_right (List.mem_cons_of_mem _)

theorem sorted_insertInto (e : Entry) {xs : List Entry}
    (h : xs.Pairwise fun a b => a.target < b.target) :
    (insertInto e xs).Pairwise fun a b => a.target < b.target := by
  induction xs with
  | nil => exact List.pairwise_singleton _ _
  | cons x xs ih =>
    obtain ⟨hx, hxs⟩ := List.pairwise_cons.1 h
    unfold insertInto
    split
    · next hlt =>
      -- the new entry comes first
      refine List.pairwise_cons.2 ⟨fun y hy => ?_, h⟩
      rcases List.mem_cons.1 hy with rfl | hy
      · exact hlt
      · exact List.lt_trans hlt (hx y hy)
    · next hnlt =>
      split
      · next hlt =>
        refine List.pairwise_cons.2 ⟨fun y hy => ?_, ih hxs⟩
        rcases mem_of_mem_insertInto hy with rfl | hy
        · exact hlt
        · exact hx y hy
      · next hngt =>
        -- the new entry replaces the first one, whose target it shares
        have heq : e.target = x.target :=
          List.le_antisymm (List.not_lt.1 hngt) (List.not_lt.1 hnlt)
        refine List.pairwise_cons.2 ⟨fun y hy => ?_, hxs⟩
        rw [heq]
        exact hx y hy

/-- The catalogue without entries. -/
def empty : Catalogue := ⟨[], .nil⟩

/-- Puts an entry in, in place of one for the same target. -/
def insert (c : Catalogue) (e : Entry) : Catalogue :=
  ⟨insertInto e c.entries, sorted_insertInto e c.sorted⟩

/-- Puts entries in, one after the other. -/
def insertAll (c : Catalogue) (es : List Entry) : Catalogue := es.foldl insert c

/-- The entry for a target. -/
def get? (c : Catalogue) (target : Text) : Option Entry :=
  c.entries.find? fun e => e.target = target

/-- The documented targets in increasing order. -/
def targets (c : Catalogue) : List Text := c.entries.map Entry.target

@[simp] theorem get?_empty (target : Text) : empty.get? target = none := rfl

private theorem find?_insertInto (e : Entry) (target : Text) {xs : List Entry}
    (h : xs.Pairwise fun a b => a.target < b.target) :
    (insertInto e xs).find? (fun x => x.target = target)
      = if e.target = target then some e else xs.find? fun x => x.target = target := by
  induction xs with
  | nil =>
    rw [insertInto, List.find?_cons]
    split <;> simp_all
  | cons x xs ih =>
    obtain ⟨hx, hxs⟩ := List.pairwise_cons.1 h
    unfold insertInto
    split
    · rw [List.find?_cons (a := e)]
      split <;> simp_all
    · next hnlt =>
      split
      · next hlt =>
        have hne : x.target ≠ e.target := fun he => List.lt_irrefl _ (he ▸ hlt)
        rw [List.find?_cons, ih hxs, List.find?_cons]
        by_cases hxt : x.target = target
        · simp [hxt, show e.target ≠ target from fun he => hne (hxt.trans he.symm)]
        · simp [hxt]
      · next hngt =>
        have heq : e.target = x.target :=
          List.le_antisymm (List.not_lt.1 hngt) (List.not_lt.1 hnlt)
        rw [List.find?_cons, List.find?_cons, heq]
        by_cases hxt : x.target = target <;> simp [hxt]

/-- The entry put in last counts for its target, and the other targets keep theirs. -/
@[simp] theorem get?_insert (c : Catalogue) (e : Entry) (target : Text) :
    (c.insert e).get? target = if e.target = target then some e else c.get? target :=
  find?_insertInto e target c.sorted

theorem target_of_get? {c : Catalogue} {target : Text} {e : Entry} (h : c.get? target = some e) :
    e.target = target := by
  have := List.find?_some h
  simpa using this

private theorem find?_eq_of_mem {e : Entry} {xs : List Entry}
    (h : xs.Pairwise fun a b => a.target < b.target) (he : e ∈ xs) :
    xs.find? (fun x => x.target = e.target) = some e := by
  induction xs with
  | nil => simp at he
  | cons x xs ih =>
    obtain ⟨hx, hxs⟩ := List.pairwise_cons.1 h
    rw [List.find?_cons]
    rcases List.mem_cons.1 he with rfl | he
    · simp
    · have hne : x.target ≠ e.target := fun heq => List.lt_irrefl _ (heq ▸ hx e he)
      simp [hne, ih hxs he]

/-- The entries are the answers of the catalogue. -/
theorem mem_entries_iff {c : Catalogue} {e : Entry} :
    e ∈ c.entries ↔ c.get? e.target = some e :=
  ⟨find?_eq_of_mem c.sorted, List.mem_of_find?_eq_some⟩

private theorem eq_of_mem_iff {xs ys : List Entry}
    (hx : xs.Pairwise fun a b => a.target < b.target)
    (hy : ys.Pairwise fun a b => a.target < b.target)
    (h : ∀ e, e ∈ xs ↔ e ∈ ys) : xs = ys := by
  induction xs generalizing ys with
  | nil => exact (List.eq_nil_iff_forall_not_mem.2 fun e he => by simpa using (h e).2 he).symm
  | cons x xs ih =>
    cases ys with
    | nil => simpa using (h x).1 List.mem_cons_self
    | cons y ys =>
      obtain ⟨hxmin, hxs⟩ := List.pairwise_cons.1 hx
      obtain ⟨hymin, hys⟩ := List.pairwise_cons.1 hy
      -- each head is the least, so both are the same entry
      have hxy : x = y := by
        rcases List.mem_cons.1 ((h x).1 List.mem_cons_self) with rfl | hxm
        · rfl
        · rcases List.mem_cons.1 ((h y).2 List.mem_cons_self) with rfl | hym
          · rfl
          · exact absurd (hymin x hxm) (List.not_lt.2 (List.le_of_lt (hxmin y hym)))
      subst hxy
      refine congrArg (x :: ·) (ih hxs hys fun e => ?_)
      constructor
      · intro he
        rcases List.mem_cons.1 ((h e).1 (List.mem_cons_of_mem _ he)) with rfl | he'
        · exact absurd (hxmin e he) (List.lt_irrefl _)
        · exact he'
      · intro he
        rcases List.mem_cons.1 ((h e).2 (List.mem_cons_of_mem _ he)) with rfl | he'
        · exact absurd (hymin e he) (List.lt_irrefl _)
        · exact he'

/-- A catalogue is determined by its answers. -/
theorem ext_get? {c d : Catalogue} (h : ∀ t, c.get? t = d.get? t) : c = d := by
  have heq : c.entries = d.entries :=
    eq_of_mem_iff c.sorted d.sorted fun e => by rw [mem_entries_iff, mem_entries_iff, h]
  cases c
  cases d
  exact (mk.injEq ..).mpr heq

end Catalogue

end TargetDocs
