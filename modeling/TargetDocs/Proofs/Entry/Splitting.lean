/-
Splitting a comment and joining it again.

A comment is split at the first place where two line feeds follow each other, if there is one. What comes
of joining the parts again depends on the line feeds next to the seam, where a new first place can arise:

* `splitDescription_rejoin` — two texts come back apart as they were, unless the first one holds two line
  feeds in a row or ends with one;
* `rejoin_splitDescription` — a text with a place to split it at is the join of its parts;
* `noBreak_short` — a short description has no such place;
* `resplit_descriptions` — so joining and splitting again changes nothing from the second time on, and from
  the first time on exactly if the text had a place to split it at or did not end with a line feed.
-/
import TargetDocs.Entry

namespace TargetDocs

/-- Two line feeds follow each other in the text. -/
def HasBreak (t : Text) : Prop := ['\n', '\n'] <:+: t

/-- The two texts with two line feeds between them. -/
def rejoin (parts : Text × Text) : Text := parts.1 ++ '\n' :: '\n' :: parts.2

/-- The descriptions in the join of two texts. -/
def resplit (parts : Text × Text) : Text × Text := splitDescription (rejoin parts)

variable {c : Char} {s t v : Text}

/-! ### Places to split at -/

theorem not_hasBreak_nil : ¬ HasBreak [] := fun h => by cases List.infix_nil.mp h

theorem hasBreak_cons_iff :
    HasBreak (c :: t) ↔ (c = '\n' ∧ t.head? = some '\n') ∨ HasBreak t := by
  have hstart : ['\n', '\n'] <+: c :: t ↔ c = '\n' ∧ t.head? = some '\n' := by
    rw [List.cons_prefix_cons, eq_comm, List.singleton_prefix_iff_head?_eq_some]
  rw [HasBreak, List.infix_cons_iff, hstart, HasBreak]

theorem hasBreak_concat_iff : HasBreak (t ++ ['\n']) ↔ t.getLast? = some '\n' ∨ HasBreak t := by
  have hend : ['\n', '\n'] <:+ t ++ ['\n'] ↔ t.getLast? = some '\n' := by
    rw [← List.singleton_suffix_iff_getLast?_eq_some]
    exact @List.suffix_append_self_iff _ ['\n'] t ['\n']
  rw [HasBreak, List.infix_concat_iff, hend, HasBreak]

theorem hasBreak_rejoin (parts : Text × Text) : HasBreak (rejoin parts) :=
  ⟨parts.1, parts.2, by simp [rejoin]⟩

/-! ### The parts -/

theorem splitDescription_cons (h : ¬ (c = '\n' ∧ t.head? = some '\n')) :
    splitDescription (c :: t) = (c :: (splitDescription t).1, (splitDescription t).2) := by
  rw [splitDescription]
  rintro rest rfl rfl
  exact h ⟨rfl, rfl⟩

theorem splitDescription_rejoin (h : ¬ HasBreak (s ++ ['\n'])) (l : Text) :
    splitDescription (rejoin (s, l)) = (s, l) := by
  induction s with
  | nil => rfl
  | cons c s ih =>
    rw [List.cons_append, hasBreak_cons_iff, not_or] at h
    have hhead : (rejoin (s, l)).head? = (s ++ ['\n']).head? := by
      cases s <;> rfl
    have hcons : rejoin (c :: s, l) = c :: rejoin (s, l) := rfl
    rw [hcons, splitDescription_cons (hhead ▸ h.1), ih h.2]

theorem rejoin_splitDescription (h : HasBreak v) : rejoin (splitDescription v) = v := by
  fun_induction splitDescription v with
  | case1 => exact absurd h not_hasBreak_nil
  | case2 t => rfl
  | case3 c t hno parts ih =>
    rcases hasBreak_cons_iff.mp h with ⟨rfl, hhead⟩ | ht
    · obtain ⟨rest, rfl⟩ := List.head?_eq_some_iff.mp hhead
      exact absurd rfl (hno rest rfl)
    · exact congrArg (c :: ·) (ih ht)

theorem short_prefix (v : Text) : (splitDescription v).1 <+: v := by
  by_cases h : HasBreak v
  · exact ⟨_, rejoin_splitDescription h⟩
  · exact ⟨[], by rw [splitDescription_of_noBreak h, List.append_nil]⟩

theorem noBreak_short (v : Text) : ¬ HasBreak (splitDescription v).1 := by
  fun_induction splitDescription v with
  | case1 => exact not_hasBreak_nil
  | case2 t => exact not_hasBreak_nil
  | case3 c t hno parts ih =>
    rw [hasBreak_cons_iff, not_or]
    refine ⟨?_, ih⟩
    rintro ⟨hc, hhead⟩
    -- the line feed that the rest of the short description begins with is that of the text
    obtain ⟨rest, hrest⟩ := List.head?_eq_some_iff.mp hhead
    obtain ⟨more, hmore⟩ := short_prefix t
    refine hno (rest ++ more) hc ?_
    rw [← hmore]
    exact congrArg (· ++ more) hrest

/-! ### Joining the parts again -/

theorem rejoin_resplit (parts : Text × Text) : rejoin (resplit parts) = rejoin parts :=
  rejoin_splitDescription (hasBreak_rejoin parts)

theorem resplit_descriptions_of_hasBreak (h : HasBreak v) :
    resplit (splitDescription v) = splitDescription v := by
  rw [resplit, rejoin_splitDescription h]

/-- Without a place to split at there is one behind the text, or one character before its end. -/
theorem resplit_descriptions_iff_of_noBreak (h : ¬ HasBreak v) :
    resplit (splitDescription v) = splitDescription v ↔ v.getLast? ≠ some '\n' := by
  rw [splitDescription_of_noBreak h, resplit]
  constructor
  · intro hsame hlast
    obtain ⟨w, rfl⟩ := List.getLast?_eq_some_iff.mp hlast
    have hmoved : rejoin (w ++ ['\n'], []) = rejoin (w, ['\n']) := by simp [rejoin]
    rw [hmoved, splitDescription_rejoin h] at hsame
    exact absurd (congrArg Prod.snd hsame) (List.cons_ne_nil _ _)
  · intro hlast
    refine splitDescription_rejoin ?_ []
    rw [hasBreak_concat_iff]
    exact not_or.mpr ⟨hlast, h⟩

/-- **Joining and splitting again.** To split the join of two texts is idempotent, and the parts make up the
same join. Of any text the short description cannot be split, and its descriptions come back from their join
exactly if it can be split or does not end with a line feed. -/
theorem resplit_descriptions :
    (∀ parts, resplit (resplit parts) = resplit parts ∧ rejoin (resplit parts) = rejoin parts)
      ∧ ∀ v, ¬ HasBreak (splitDescription v).1
        ∧ splitDescription (splitDescription v).1 = ((splitDescription v).1, [])
        ∧ (resplit (splitDescription v) = splitDescription v
          ↔ HasBreak v ∨ v.getLast? ≠ some '\n') := by
  refine ⟨fun parts => ⟨?_, rejoin_resplit parts⟩, fun v =>
    ⟨noBreak_short v, splitDescription_of_noBreak (noBreak_short v), ?_⟩⟩
  · rw [resplit, rejoin_resplit, ← resplit]
  · by_cases h : HasBreak v
    · exact iff_of_true (resplit_descriptions_of_hasBreak h) (.inl h)
    · rw [resplit_descriptions_iff_of_noBreak h, or_iff_right h]

/-- Behind a line feed the place to split at moves. -/
example : splitDescription "a\n".toList = ("a\n".toList, [])
    ∧ resplit ("a\n".toList, []) = ("a".toList, "\n".toList) := by decide

end TargetDocs
