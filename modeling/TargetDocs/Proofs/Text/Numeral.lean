/-
What is a numeral.

The grammar is given apart from the reader: runs of digits with single underscores between them
(`WritesDigits`), a sign in front and white space around (`Numeral`).

* `readDigits_eq_some_iff` — the reader of digits follows the grammar;
* `trim_around`, `exists_trim` — taking white space away is undone by putting it back;
* `readInt_eq_some_iff` — the reader of numbers follows the grammar, signs included;
* `readWidth_eq_ok_iff`, `readWidth_eq_notPositive_iff`, `readWidth_eq_notInteger_iff` — and so does that
  of widths, whatever comes of it.
-/
import Mathlib.Data.List.TakeWhile
import Mathlib.Data.Nat.Digits.Defs
import TargetDocs.Proofs.Text.Decimal

namespace TargetDocs.Text

/-! ### Digits -/

/-- Runs of decimal digits of any script, with one underscore between every two runs; `ds` are the
values of the digits. -/
def WritesDigits (t : Text) (ds : List Nat) : Prop :=
  ∃ runs : List Text, runs ≠ [] ∧ (∀ run ∈ runs, run ≠ []) ∧ t = join '_' runs
    ∧ runs.flatten.map digitValue? = ds.map some

section Digits

variable {t run : Text} {ds es : List Nat} {c : Char} {d : Nat}

theorem readDigits_of_head (hc : digitValue? c = none) (t : Text) : readDigits (c :: t) = none := by
  cases t with
  | nil => simp [readDigits, hc]
  | cons c' t =>
    by_cases hc' : c' = '_'
    · subst hc'
      simp [readDigits, hc]
    · simp [readDigits, hc]

theorem readDigits_underscore (hc : digitValue? c = some d) (ht : readDigits t = some ds) :
    readDigits (c :: '_' :: t) = some (d :: ds) := by
  simp [readDigits, hc, ht]

/-- What can be read does not begin with an underscore, so another digit may stand before it. -/
theorem readDigits_cons (hc : digitValue? c = some d) (ht : readDigits t = some ds) :
    readDigits (c :: t) = some (d :: ds) := by
  cases t with
  | nil => cases ht
  | cons c' t =>
    have hc' : c' ≠ '_' := by
      rintro rfl
      rw [readDigits_of_head (by decide)] at ht
      cases ht
    simp [readDigits, hc, ht]

/-- A run of digits is read in front of a text if each digit alone is. -/
theorem readDigits_run_append (hne : run ≠ []) (hds : run.map digitValue? = ds.map some)
    (ht : ∀ {c : Char} {d : Nat}, digitValue? c = some d → readDigits (c :: t) = some (d :: es)) :
    readDigits (run ++ t) = some (ds ++ es) := by
  induction run generalizing ds with
  | nil => exact absurd rfl hne
  | cons c run ih =>
    obtain ⟨d, ds, rfl, hd, hds⟩ := List.map_eq_cons_iff.mp hds.symm
    cases run with
    | nil =>
      obtain rfl : ds = [] := by simpa using hds
      exact ht hd.symm
    | cons c' run => exact readDigits_cons hd.symm (ih (List.cons_ne_nil c' run) hds.symm)

theorem readDigits_run (hne : run ≠ []) (hds : run.map digitValue? = ds.map some) :
    readDigits run = some ds := by
  have hread := @readDigits_run_append [] run ds [] hne hds fun hc => by simp [readDigits, hc]
  rwa [List.append_nil, List.append_nil] at hread

theorem readDigits_join {runs : List Text} (hne : runs ≠ []) (hruns : ∀ run ∈ runs, run ≠ [])
    (hds : runs.flatten.map digitValue? = ds.map some) :
    readDigits (join '_' runs) = some ds := by
  induction runs generalizing ds with
  | nil => exact absurd rfl hne
  | cons run runs ih =>
    have hrun : run ≠ [] := hruns run List.mem_cons_self
    cases runs with
    | nil => exact readDigits_run hrun (by simpa [join] using hds)
    | cons run' runs =>
      rw [List.flatten_cons, List.map_append] at hds
      obtain ⟨es, fs, rfl, hes, hfs⟩ := List.map_eq_append_iff.mp hds.symm
      rw [join_cons_cons]
      have hrest : readDigits (join '_' (run' :: runs)) = some fs :=
        ih (List.cons_ne_nil run' runs) (fun r hr => hruns r (List.mem_cons_of_mem run hr)) hfs.symm
      exact readDigits_run_append hrun hes.symm fun hc => readDigits_underscore hc hrest

theorem WritesDigits.singleton (hc : digitValue? c = some d) : WritesDigits [c] [d] :=
  ⟨[[c]], by simp, by simp, rfl, by simp [hc]⟩

/-- A digit that begins a run of its own. -/
theorem WritesDigits.cons_underscore (hc : digitValue? c = some d) (ht : WritesDigits t ds) :
    WritesDigits (c :: '_' :: t) (d :: ds) := by
  obtain ⟨runs, hne, hruns, rfl, hds⟩ := ht
  obtain ⟨run, runs, rfl⟩ := List.exists_cons_of_ne_nil hne
  refine ⟨[c] :: run :: runs, by simp, ?_, rfl, ?_⟩
  · intro r hr
    rcases List.mem_cons.mp hr with rfl | hr
    · exact List.cons_ne_nil c []
    · exact hruns r hr
  · rw [List.flatten_cons, List.map_append, hds, List.map_singleton, hc]
    rfl

/-- A digit that lengthens the first run. -/
theorem WritesDigits.cons (hc : digitValue? c = some d) (ht : WritesDigits t ds) :
    WritesDigits (c :: t) (d :: ds) := by
  obtain ⟨runs, hne, hruns, rfl, hds⟩ := ht
  obtain ⟨run, runs, rfl⟩ := List.exists_cons_of_ne_nil hne
  refine ⟨(c :: run) :: runs, by simp, ?_, ?_, ?_⟩
  · intro r hr
    rcases List.mem_cons.mp hr with rfl | hr
    · exact List.cons_ne_nil c run
    · exact hruns r (List.mem_cons_of_mem run hr)
  · cases runs <;> rfl
  · rw [List.flatten_cons, List.cons_append, List.map_cons, hc, ← List.flatten_cons, hds]
    rfl

/-- The reader of digits follows the grammar. -/
theorem readDigits_eq_some_iff : readDigits t = some ds ↔ WritesDigits t ds := by
  constructor
  -- a digit alone, a digit in front of an underscore and a digit in front of another one
  · intro h
    fun_induction readDigits t generalizing ds with
    | case1 => cases h
    | case2 c =>
      obtain ⟨d, hd, rfl⟩ := Option.map_eq_some_iff.mp h
      exact .singleton hd
    | case3 c t ih =>
      obtain ⟨d, hd, h⟩ := Option.bind_eq_some_iff.mp h
      obtain ⟨es, hes, h⟩ := Option.bind_eq_some_iff.mp h
      obtain rfl := Option.some.inj h
      exact .cons_underscore hd (ih hes)
    | case4 c c' t _ ih =>
      obtain ⟨d, hd, h⟩ := Option.bind_eq_some_iff.mp h
      obtain ⟨es, hes, h⟩ := Option.bind_eq_some_iff.mp h
      obtain rfl := Option.some.inj h
      exact .cons hd (ih hes)
  · rintro ⟨runs, hne, hruns, rfl, hds⟩
    exact readDigits_join hne hruns hds

end Digits

/-! ### White space around -/

section Margins

variable {p : Char → Bool} {t before after : Text}

theorem trim_append_right (h : ∀ c ∈ after, p c) : trim p (t ++ after) = trim p t := by
  have hreverse : ∀ c ∈ after.reverse, p c := fun c hc => h c (List.mem_reverse.mp hc)
  have hafter : after.dropWhile p = [] := List.dropWhile_eq_nil_iff.mpr h
  rw [trim, trim, List.dropWhile_append]
  cases ht : t.dropWhile p with
  | nil => simp [hafter]
  | cons c u =>
    rw [List.isEmpty_cons, if_neg Bool.false_ne_true, List.reverse_append,
      List.dropWhile_append_of_pos hreverse]

/-- White space around a text is taken away with that of the text. -/
theorem trim_around (hbefore : ∀ c ∈ before, p c) (hafter : ∀ c ∈ after, p c) :
    trim p (before ++ (t ++ after)) = trim p t := by
  rw [trim, List.dropWhile_append_of_pos hbefore]
  exact trim_append_right hafter

/-- What is taken away at the two ends is white space. -/
theorem exists_trim (p : Char → Bool) (t : Text) :
    ∃ before after : Text, t = before ++ (trim p t ++ after)
      ∧ (∀ c ∈ before, p c) ∧ ∀ c ∈ after, p c := by
  refine ⟨t.takeWhile p, ((t.dropWhile p).reverse.takeWhile p).reverse, ?_, ?_, ?_⟩
  · rw [trim, ← List.reverse_append, List.takeWhile_append_dropWhile, List.reverse_reverse,
      List.takeWhile_append_dropWhile]
  · exact fun c hc => List.mem_takeWhile_imp hc
  · exact fun c hc => List.mem_takeWhile_imp (List.mem_reverse.mp hc)

end Margins

/-! ### Numbers -/

/-- A text that writes a number: a sign, of which there may be none, and digits, at most 4300 of
them, with white space around. Underscores do not count as digits, zeros in front do. -/
def Numeral (margin : Char → Bool) (sign t : Text) (k : Nat) : Prop :=
  ∃ (before body after : Text) (ds : List Nat), t = before ++ (sign ++ body ++ after)
    ∧ (∀ c ∈ before, margin c) ∧ (∀ c ∈ after, margin c)
    ∧ WritesDigits body ds ∧ ds.length ≤ 4300 ∧ Nat.ofDigits 10 ds.reverse = k

section Numbers

variable {t body : Text} {ds : List Nat} {c : Char} {d k : Nat} {n : Int}

theorem ofDigits_eq (ds : List Nat) : ofDigits ds = Nat.ofDigits 10 ds.reverse := by
  rw [ofDigits, List.foldl_eq_foldr_reverse, Nat.ofDigits_eq_foldr]
  simp only [Nat.add_comm, Nat.cast_id]

/-- No digit of any script is white space. -/
theorem not_isBlank_of_digit (h : digitValue? c = some d) : isBlank c = false := by
  obtain ⟨z, hz, -⟩ := Option.map_eq_some_iff.mp h
  have hbounds := List.find?_some hz
  simp only [Bool.and_eq_true, decide_eq_true_eq] at hbounds
  have hzero : 0x30 ≤ z := by
    have all : ∀ z ∈ digitZeros, 0x30 ≤ z := by decide
    exact all z (List.mem_of_find?_eq_some hz)
  have hspace : c ≠ ' ' := by
    rintro rfl
    have : (' ').toNat = 0x20 := rfl
    omega
  have hwide : inRanges wideBlankRanges c = false := by
    rw [← Bool.not_eq_true, inRanges_iff]
    rintro ⟨r, hr, hfirst, hlast⟩
    have all : ∀ z ∈ digitZeros, ∀ r ∈ wideBlankRanges, r.2 < z ∨ z + 10 ≤ r.1 := by decide
    have := all z (List.mem_of_find?_eq_some hz) r hr
    omega
  simp only [isBlank, isMargin, hwide, hspace, decide_false, Bool.false_or, Bool.or_false,
    Bool.or_eq_false_iff, Bool.and_eq_false_iff, decide_eq_false_iff_not]
  omega

/-- The characters of joined texts are the mark and those of the texts. -/
theorem eq_or_mem_of_mem_join {mark : Char} {ts : List Text} (hc : c ∈ join mark ts) :
    c = mark ∨ c ∈ ts.flatten := by
  induction ts with
  | nil => exact absurd hc List.not_mem_nil
  | cons t ts ih =>
    cases ts with
    | nil => exact Or.inr (by simpa [join] using hc)
    | cons t' ts =>
      rw [join_cons_cons, List.mem_append, List.mem_cons] at hc
      rw [List.flatten_cons, List.mem_append]
      rcases hc with hc | hc | hc
      · exact Or.inr (Or.inl hc)
      · exact Or.inl hc
      · exact (ih hc).imp_right Or.inr

theorem WritesDigits.digit_or_underscore (h : WritesDigits body ds) (hc : c ∈ body) :
    c = '_' ∨ ∃ d, digitValue? c = some d := by
  obtain ⟨runs, -, -, rfl, hds⟩ := h
  refine (eq_or_mem_of_mem_join hc).imp_right fun hmem => ?_
  have hvalue : digitValue? c ∈ ds.map some := hds ▸ List.mem_map_of_mem hmem
  obtain ⟨d, -, hd⟩ := List.mem_map.mp hvalue
  exact ⟨d, hd.symm⟩

theorem WritesDigits.not_isMargin (h : WritesDigits body ds) (hc : c ∈ body) :
    isMargin c = false := by
  rcases h.digit_or_underscore hc with rfl | ⟨d, hd⟩
  · decide
  · exact not_isMargin_of_not_isBlank (not_isBlank_of_digit hd)

theorem WritesDigits.readSign (h : WritesDigits body ds) : readSign body = (false, body) := by
  have hread := readDigits_eq_some_iff.mpr h
  unfold Text.readSign
  split
  · rw [readDigits_of_head (by decide)] at hread
    cases hread
  · rw [readDigits_of_head (by decide)] at hread
    cases hread
  · rfl

theorem readInt_of_readSign {negative : Bool} (hsign : readSign (trim isMargin t) = (negative, body))
    (hbody : WritesDigits body ds) (hlength : ds.length ≤ 4300)
    (hk : Nat.ofDigits 10 ds.reverse = k) :
    readInt t = some (if negative then -(k : Int) else k) := by
  rw [readInt, hsign]
  dsimp only
  rw [readDigits_eq_some_iff.mpr hbody]
  dsimp only
  rw [if_neg (show ¬ maxDigits < ds.length from Nat.not_lt.mpr hlength), ofDigits_eq, hk]
  cases negative <;> rfl

/-- The sign is that of the text, or there is none. -/
theorem eq_of_readSign {negative : Bool} (h : Text.readSign t = (negative, body)) :
    negative = true ∧ t = ['-'] ++ body
      ∨ negative = false ∧ (t = [] ++ body ∨ t = ['+'] ++ body) := by
  unfold Text.readSign at h
  split at h
  · cases h
    exact Or.inl ⟨rfl, rfl⟩
  · cases h
    exact Or.inr ⟨rfl, Or.inr rfl⟩
  · cases h
    exact Or.inr ⟨rfl, Or.inl rfl⟩

/-- The text between the white space is the sign and the digits. -/
theorem trim_numeral (sign : Text) {before after : Text} (hsign : ∀ c ∈ sign, isMargin c = false)
    (hbefore : ∀ c ∈ before, isMargin c) (hafter : ∀ c ∈ after, isMargin c)
    (hbody : WritesDigits body ds) :
    trim isMargin (before ++ (sign ++ body ++ after)) = sign ++ body := by
  rw [trim_around hbefore hafter]
  refine trim_eq_self fun c hc => ?_
  rcases List.mem_append.mp hc with hc | hc
  · exact hsign c hc
  · exact hbody.not_isMargin hc

/-- The reader of numbers follows the grammar. -/
theorem readInt_eq_some_iff :
    readInt t = some n ↔ ∃ k : Nat,
      n = k ∧ (Numeral isMargin [] t k ∨ Numeral isMargin ['+'] t k)
        ∨ n = -k ∧ Numeral isMargin ['-'] t k := by
  constructor
  · intro h
    obtain ⟨before, after, ht, hbefore, hafter⟩ := exists_trim isMargin t
    obtain ⟨negative, body, hsign⟩ : ∃ negative body, readSign (trim isMargin t) = (negative, body) :=
      ⟨_, _, rfl⟩
    rw [readInt, hsign] at h
    dsimp only at h
    split at h
    · cases h
    next ds hds =>
    have hbody : WritesDigits body ds := readDigits_eq_some_iff.mp hds
    split at h
    · cases h
    next hlength =>
    have hnumeral : ∀ sign : Text, trim isMargin t = sign ++ body →
        Numeral isMargin sign t (ofDigits ds) := fun sign htrim =>
      ⟨before, body, after, ds, by rw [← htrim, ← ht], hbefore, hafter, hbody,
        Nat.not_lt.mp hlength, (ofDigits_eq ds).symm⟩
    refine ⟨ofDigits ds, ?_⟩
    rcases eq_of_readSign hsign with ⟨rfl, htrim⟩ | ⟨rfl, htrim⟩
    · exact Or.inr ⟨(Option.some.inj h).symm, hnumeral _ htrim⟩
    · exact Or.inl ⟨(Option.some.inj h).symm, htrim.imp (hnumeral _) (hnumeral _)⟩
  -- no sign, a plus, a minus
  · rintro ⟨k, ⟨rfl, h | h⟩ | ⟨rfl, h⟩⟩
    all_goals obtain ⟨before, body, after, ds, rfl, hbefore, hafter, hbody, hlength, hk⟩ := h
    · have htrim := trim_numeral [] (by simp) hbefore hafter hbody
      exact readInt_of_readSign (by rw [htrim]; exact hbody.readSign) hbody hlength hk
    · have htrim := trim_numeral ['+'] (List.forall_mem_singleton.mpr rfl) hbefore hafter hbody
      exact readInt_of_readSign (by rw [htrim]; rfl) hbody hlength hk
    · have htrim := trim_numeral ['-'] (List.forall_mem_singleton.mpr rfl) hbefore hafter hbody
      exact readInt_of_readSign (by rw [htrim]; rfl) hbody hlength hk

end Numbers

/-! ### Widths -/

section Widths

variable {t : Text} {n : Int}

theorem readWidth_of_readInt (h : readInt t = some n) :
    readWidth t = if n ≤ 0 then .error .notPositive else .ok n := by
  rw [readWidth, h]

theorem readWidth_eq_notInteger_iff_readInt : readWidth t = .error .notInteger ↔ readInt t = none := by
  cases h : readInt t with
  | none => simp [readWidth, h]
  | some n =>
    rw [readWidth_of_readInt h]
    split <;> simp

/-- A width is a positive number, with a plus or without a sign. -/
def WritesWidth (t : Text) (n : Int) : Prop :=
  ∃ k : Nat, n = k ∧ 0 < k ∧ (Numeral isMargin [] t k ∨ Numeral isMargin ['+'] t k)

theorem readWidth_eq_ok_iff : readWidth t = .ok n ↔ WritesWidth t n := by
  constructor
  · intro h
    have hpos : 0 < n := readWidth_pos h
    obtain ⟨k, ⟨rfl, hk⟩ | ⟨rfl, -⟩⟩ := readInt_eq_some_iff.mp (readInt_of_readWidth h)
    · exact ⟨k, rfl, by omega, hk⟩
    · omega
  · rintro ⟨k, rfl, hpos, hk⟩
    rw [readWidth_of_readInt (readInt_eq_some_iff.mpr ⟨k, Or.inl ⟨rfl, hk⟩⟩)]
    exact if_neg (by omega)

/-- Zero with any sign and all numbers with a minus are too small. -/
theorem readWidth_eq_notPositive_iff :
    readWidth t = .error .notPositive ↔ Numeral isMargin [] t 0 ∨ Numeral isMargin ['+'] t 0
      ∨ ∃ k, Numeral isMargin ['-'] t k := by
  constructor
  · intro h
    cases hread : readInt t with
    | none =>
      rw [readWidth_eq_notInteger_iff_readInt.mpr hread] at h
      cases h
    | some n =>
      rw [readWidth_of_readInt hread] at h
      split at h
      · next hn =>
        obtain ⟨k, ⟨rfl, hk⟩ | ⟨rfl, hk⟩⟩ := readInt_eq_some_iff.mp hread
        · obtain rfl : k = 0 := by omega
          exact hk.imp_right Or.inl
        · exact Or.inr (Or.inr ⟨k, hk⟩)
      · cases h
  · intro h
    obtain ⟨n, hn, hread⟩ : ∃ n ≤ (0 : Int), readInt t = some n := by
      rcases h with h | h | ⟨k, h⟩
      · exact ⟨0, le_rfl, readInt_eq_some_iff.mpr ⟨0, Or.inl ⟨rfl, Or.inl h⟩⟩⟩
      · exact ⟨0, le_rfl, readInt_eq_some_iff.mpr ⟨0, Or.inl ⟨rfl, Or.inr h⟩⟩⟩
      · exact ⟨-k, by omega, readInt_eq_some_iff.mpr ⟨k, Or.inr ⟨rfl, h⟩⟩⟩
    rw [readWidth_of_readInt hread, if_pos hn]

theorem readWidth_eq_notInteger_iff :
    readWidth t = .error .notInteger
      ↔ ∀ k, ∀ sign ∈ [[], ['+'], ['-']], ¬ Numeral isMargin sign t k := by
  rw [readWidth_eq_notInteger_iff_readInt, Option.eq_none_iff_forall_ne_some]
  constructor
  · intro h k sign hsign hk
    have hcases : sign = [] ∨ sign = ['+'] ∨ sign = ['-'] := by simpa using hsign
    rcases hcases with rfl | rfl | rfl
    · exact h k (readInt_eq_some_iff.mpr ⟨k, Or.inl ⟨rfl, Or.inl hk⟩⟩)
    · exact h k (readInt_eq_some_iff.mpr ⟨k, Or.inl ⟨rfl, Or.inr hk⟩⟩)
    · exact h (-k) (readInt_eq_some_iff.mpr ⟨k, Or.inr ⟨rfl, hk⟩⟩)
  · intro h n hread
    obtain ⟨k, ⟨-, hk | hk⟩ | ⟨-, hk⟩⟩ := readInt_eq_some_iff.mp hread
    · exact h k [] (by simp) hk
    · exact h k ['+'] (by simp) hk
    · exact h k ['-'] (by simp) hk

end Widths

end TargetDocs.Text
