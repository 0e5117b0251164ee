/-
Nodes and their written forms.

A node is its kind and its fields (`kind`, `fields`), and the written form tells both:

* `writtenField_append_inj` — a field is read from its written form, whatever stands behind it;
* `writtenRecord_inj` — so the written form tells the name and all fields;
* `eq_iff_fields` — and nodes that agree in these are equal;
* `members_eq_eraseDups` — the set that nodes are put into does not depend on its hash function;
* `beq_iff_written` — nodes compare equal exactly if they are written the same, so a set of nodes has as
  many members as there are different written forms.
-/
import Mathlib.Data.Finset.Card
import TargetDocs.Node
import TargetDocs.Proofs.Text.Lines
import TargetDocs.Proofs.Text.Quoted

namespace TargetDocs.Node

/-- The written form of a field. -/
def writtenField : Field → Text
  | .text t => Text.quoted t
  | .isDefault b => "is_default=".toList ++ writtenBool b

theorem writtenField_isDefault (b : Bool) (x : Text) :
    writtenField (.isDefault b) ++ x = "is_default=".toList ++ (writtenBool b ++ x) :=
  List.append_assoc _ _ _

theorem written_eq (n : Node) : n.written = writtenRecord n.kind (n.fields.map writtenField) := by
  rcases n with (t | t | t) | d | e <;> rfl

/-! ### The written form tells the fields -/

variable {f g : Field} {fs gs : List Field} {name name' : String} {x y : Text}

theorem writtenBool_append_inj {b b' : Bool} (h : writtenBool b ++ x = writtenBool b' ++ y) :
    b = b' ∧ x = y := by
  cases b <;> cases b'
  · exact ⟨rfl, List.append_cancel_left h⟩
  · have hhead : some 'F' = some 'T' := congrArg List.head? h
    exact absurd hhead (by decide)
  · have hhead : some 'T' = some 'F' := congrArg List.head? h
    exact absurd hhead (by decide)
  · exact ⟨rfl, List.append_cancel_left h⟩

/-- A quote is not the start of a flag. -/
theorem quoted_append_ne (t : Text) (b : Bool) : Text.quoted t ++ x ≠ writtenField (.isDefault b) ++ y := by
  intro h
  have hhead : (Text.quoted t ++ x).head? = some 'i' := by rw [h]; rfl
  rcases Text.head?_quoted t x with hquote | hquote
  all_goals exact absurd (hquote.symm.trans hhead) (by decide)

theorem writtenField_append_inj (h : writtenField f ++ x = writtenField g ++ y) :
    f = g ∧ x = y := by
  cases f with
  | text t =>
    cases g with
    | text t' =>
      obtain ⟨rfl, hx⟩ := Text.quoted_append_inj h
      exact ⟨rfl, hx⟩
    | isDefault b => exact absurd h (quoted_append_ne t b)
  | isDefault b =>
    cases g with
    | text t => exact absurd h.symm (quoted_append_ne t b)
    | isDefault b' =>
      rw [writtenField_isDefault, writtenField_isDefault, List.append_cancel_left_eq] at h
      obtain ⟨rfl, hx⟩ := writtenBool_append_inj h
      exact ⟨rfl, hx⟩

/-- A parenthesis ends the fields, a comma announces another one. -/
theorem flatMap_writtenField_inj
    (h : (fs.map writtenField).flatMap ([',', ' '] ++ ·) ++ [')']
      = (gs.map writtenField).flatMap ([',', ' '] ++ ·) ++ [')']) : fs = gs := by
  -- the head tells whether there is a field left
  induction fs generalizing gs with
  | nil =>
    cases gs with
    | nil => rfl
    | cons g gs =>
      have hhead : some ')' = some ',' := congrArg List.head? h
      exact absurd hhead (by decide)
  | cons f fs ih =>
    cases gs with
    | nil =>
      have hhead : some ',' = some ')' := congrArg List.head? h
      exact absurd hhead (by decide)
    | cons g gs =>
      simp only [List.map_cons, List.flatMap_cons, List.append_assoc] at h
      obtain ⟨rfl, hrest⟩ := writtenField_append_inj (List.append_cancel_left h)
      rw [ih hrest]

theorem head?_writtenField_ne (f : Field) (x : Text) : (writtenField f ++ x).head? ≠ some ')' := by
  cases f with
  | text t =>
    intro h
    rcases Text.head?_quoted t x with hquote | hquote
    all_goals exact absurd (hquote.symm.trans h) (by decide)
  | isDefault b => exact fun h => absurd (Option.some.inj h) (by decide)

theorem writtenRecord_nil (name : String) : writtenRecord name [] = name.toList ++ '(' :: [')'] := rfl

theorem writtenRecord_cons (name : String) (t : Text) (ts : List Text) :
    writtenRecord name (t :: ts)
      = name.toList ++ '(' :: (t ++ (ts.flatMap ([',', ' '] ++ ·) ++ [')'])) := by
  rw [writtenRecord, List.append_assoc, List.append_assoc, List.cons_append]

/-- The written form tells the name, up to the first parenthesis, and all fields. -/
theorem writtenRecord_inj (hname : '(' ∉ name.toList) (hname' : '(' ∉ name'.toList)
    (h : writtenRecord name (fs.map writtenField) = writtenRecord name' (gs.map writtenField)) :
    name = name' ∧ fs = gs := by
  -- behind the first parenthesis stands either the closing one or a field, which begins otherwise
  cases fs with
  | nil =>
    cases gs with
    | nil =>
      obtain ⟨heq, -⟩ := Text.append_mark_inj hname hname' h
      exact ⟨String.toList_inj.mp heq, rfl⟩
    | cons g gs =>
      rw [List.map_cons, writtenRecord_cons, List.map_nil, writtenRecord_nil] at h
      obtain ⟨-, hbody⟩ := Text.append_mark_inj hname hname' h
      exact absurd (congrArg List.head? hbody).symm (head?_writtenField_ne g _)
  | cons f fs =>
    cases gs with
    | nil =>
      rw [List.map_cons, writtenRecord_cons, List.map_nil, writtenRecord_nil] at h
      obtain ⟨-, hbody⟩ := Text.append_mark_inj hname hname' h
      exact absurd (congrArg List.head? hbody) (head?_writtenField_ne f _)
    | cons g gs =>
      rw [List.map_cons, List.map_cons, writtenRecord_cons, writtenRecord_cons] at h
      obtain ⟨heq, hbody⟩ := Text.append_mark_inj hname hname' h
      obtain ⟨rfl, hrest⟩ := writtenField_append_inj hbody
      rw [flatMap_writtenField_inj hrest]
      exact ⟨String.toList_inj.mp heq, rfl⟩

theorem parenthesis_not_mem_kind (n : Node) : '(' ∉ n.kind.toList := by
  rcases n with (t | t | t) | d | e
  all_goals
    simp only [kind, Makefile.Line.kind]
    decide

/-- The node of a kind with the given fields. -/
def ofFields : String → List Field → Option Node
  | "CommentLine", [.text t] => some (.line (.comment t))
  | "TargetLine", [.text t] => some (.line (.target t))
  | "OtherLine", [.text t] => some (.line (.other t))
  | "TargetComment", [.text target, .text comment] => some (.documented ⟨target, comment⟩)
  | "DocElement", [.text target, .text short, .text long, .isDefault b] =>
    some (.entry ⟨target, short, long, b⟩)
  | _, _ => none

theorem ofFields_fields (n : Node) : ofFields n.kind n.fields = some n := by
  rcases n with (t | t | t) | d | e <;> rfl

/-- Nodes are equal exactly if they are of one kind and have the same fields. -/
theorem eq_iff_fields {a b : Node} : a = b ↔ a.kind = b.kind ∧ a.fields = b.fields := by
  constructor
  · rintro rfl
    exact ⟨rfl, rfl⟩
  · rintro ⟨hkind, hfields⟩
    have hnode := ofFields_fields a
    rw [hkind, hfields, ofFields_fields] at hnode
    exact (Option.some.inj hnode).symm

/-- The written forms of different nodes are different. -/
theorem written_injective : Function.Injective written := by
  intro a b h
  rw [written_eq, written_eq] at h
  obtain ⟨hkind, hfields⟩ :=
    writtenRecord_inj (parenthesis_not_mem_kind a) (parenthesis_not_mem_kind b) h
  exact eq_iff_fields.mpr ⟨hkind, hfields⟩

/-! ### Sets of nodes -/

/-- Equal nodes have equal hashes, so the hash makes no difference. -/
theorem insert_eq (hash : List Field → Nat) (ms : List Node) (n : Node) :
    insert hash ms n = if n ∈ ms then ms else ms ++ [n] := by
  have hany : (ms.any fun m => hash m.hashed == hash n.hashed && m == n) = true ↔ n ∈ ms := by
    rw [List.any_eq_true]
    constructor
    · rintro ⟨m, hm, heq⟩
      rw [Bool.and_eq_true] at heq
      rwa [← eq_of_beq heq.2]
    · exact fun hn => ⟨n, hn, by simp⟩
  rw [insert]
  exact if_congr hany rfl rfl

theorem eraseDups_concat (ns : List Node) (n : Node) :
    (ns ++ [n]).eraseDups = if n ∈ ns then ns.eraseDups else ns.eraseDups ++ [n] := by
  rw [List.eraseDups_append]
  split
  · next hn => simp [hn, List.removeAll]
  · next hn => simp [hn, List.removeAll, List.eraseDups_cons]

/-- A set has the same members in the same order for all hash functions. -/
theorem members_eq_eraseDups (hash : List Field → Nat) (ns : List Node) :
    members hash ns = ns.eraseDups := by
  induction ns using List.reverseRecOn with
  | nil => rfl
  | append_singleton ns n ih =>
    have hstep : members hash (ns ++ [n]) = insert hash (members hash ns) n := by
      rw [members, List.foldl_append]
      rfl
    rw [hstep, ih, insert_eq, eraseDups_concat]
    exact if_congr List.mem_eraseDups rfl rfl

theorem nodup_eraseDups (ns : List Node) : ns.eraseDups.Nodup := by
  induction ns using List.reverseRecOn with
  | nil => exact List.nodup_nil
  | append_singleton ns n ih =>
    rw [eraseDups_concat]
    split
    · exact ih
    · next hn =>
      have hnew : n ∉ ns.eraseDups := mt List.mem_eraseDups.mp hn
      rw [← List.concat_eq_append]
      exact ih.concat hnew

/-- The size of a set is the number of different nodes, for all hash functions. -/
theorem length_members (hash : List Field → Nat) (ns : List Node) :
    (members hash ns).length = ns.toFinset.card := by
  have hset : ns.eraseDups.toFinset = ns.toFinset := by
    ext n
    rw [List.mem_toFinset, List.mem_toFinset, List.mem_eraseDups]
  rw [members_eq_eraseDups, ← List.toFinset_card_of_nodup (nodup_eraseDups ns), hset]

/-- There are as many different nodes as different written forms. -/
theorem card_toFinset_map_written (ns : List Node) :
    (ns.map written).toFinset.card = ns.toFinset.card := by
  have himage : (ns.map written).toFinset = ns.toFinset.image written := by
    ext t
    simp
  rw [himage, Finset.card_image_of_injective ns.toFinset written_injective]

/-- **Nodes are told apart by their written forms.** Nodes of all kinds compare equal exactly if they are
written the same, and exactly if they are of one kind and have the same fields; so comparing them is
an equivalence. A set of nodes, whatever its hash function, has as many members as there are different
written forms. -/
theorem beq_iff_written :
    (∀ a b : Node, ((a == b) = true ↔ a.written = b.written)
      ∧ ((a == b) = true ↔ a.kind = b.kind ∧ a.fields = b.fields))
    ∧ (Equivalence fun a b : Node => (a == b) = true)
    ∧ ∀ (hash : List Field → Nat) (ns : List Node),
      (members hash ns).length = (ns.map written).toFinset.card
        ∧ countDistinct ns = (ns.map written).toFinset.card := by
  refine ⟨fun a b => ⟨?_, ?_⟩, ⟨?_, ?_, ?_⟩, fun hash ns => ⟨?_, ?_⟩⟩
  · rw [beq_iff_eq]
    exact written_injective.eq_iff.symm
  · rw [beq_iff_eq, eq_iff_fields]
  · exact fun a => beq_self_eq_true a
  · exact fun h => (eq_of_beq h) ▸ beq_self_eq_true _
  · exact fun h h' => (eq_of_beq h) ▸ h'
  · rw [card_toFinset_map_written, length_members]
  · rw [card_toFinset_map_written, countDistinct, length_members]

end TargetDocs.Node
