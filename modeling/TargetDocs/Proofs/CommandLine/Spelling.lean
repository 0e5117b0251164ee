/-
The ways to spell an option in full.

An option is a word of its own, with its value after an equals sign or as the word after it. Whatever the
way, and whatever comes after it, it does one thing to the reading of a command line:

* `classify_explicit` — a spelling with an equals sign after it is that option with an explicit value;
* `Takes`, `Takes.append`, `parse_of_takes` — what words do wherever they stand, one after the other, and
  as a whole command line;
* `Spells.takes` — the words that spell a setting (`Spells`) make that setting;
* `Spells.word` — a setting that can be spelled can be spelled as one word.
-/
import TargetDocs.Proofs.Text.Decimal
import TargetDocs.CommandLine.Request

namespace TargetDocs.CommandLine

/-! ### Words -/

theorem mem_spellings_spec {s : Spelling} (h : s ∈ spellings) :
    s.text.head? = some '-' ∧ '=' ∉ s.text ∧ s.text ≠ marker ∧ spelled? s.text = some s := by
  have hall : ∀ s ∈ spellings,
      s.text.head? = some '-' ∧ '=' ∉ s.text ∧ s.text ≠ marker ∧ spelled? s.text = some s := by decide
  exact hall s h

theorem ne_marker_of_equals {t u : Text} : t ++ '=' :: u ≠ marker := by
  intro h
  have hmem : '=' ∈ marker := h ▸ List.mem_append_right t List.mem_cons_self
  exact absurd hmem (by decide)

theorem ne_marker_of_noDash {t : Text} (h : t.head? ≠ some '-') : t ≠ marker := by
  rintro rfl
  exact h rfl

theorem classify_explicit {s : Spelling} (h : s ∈ spellings) (t : Text) :
    classify (s.text ++ '=' :: t) = .ok (.switch s (some t)) := by
  obtain ⟨hdash, hequals, -, hspelled⟩ := mem_spellings_spec h
  have hplain : ∀ c ∈ s.text, decide (c ≠ '=') = true := by
    intro c hc
    refine decide_eq_true ?_
    rintro rfl
    exact hequals hc
  have hbefore : beforeEquals (s.text ++ '=' :: t) = s.text := by
    rw [beforeEquals, List.takeWhile_append_of_pos hplain, List.takeWhile_cons_of_neg (by simp),
      List.append_nil]
  have hafter : afterEquals? (s.text ++ '=' :: t) = some t := by
    rw [afterEquals?, List.dropWhile_append_of_pos hplain, List.dropWhile_cons_of_neg (by simp)]
  have hnone : spelled? (s.text ++ '=' :: t) = none := by
    refine List.find?_eq_none.mpr fun s' hs' htext => ?_
    refine (mem_spellings_spec hs').2.1 ?_
    rw [of_decide_eq_true htext]
    exact List.mem_append_right _ List.mem_cons_self
  have hhead : (s.text ++ '=' :: t).head? = some '-' := by rw [List.head?_append, hdash]; rfl
  have hlone : s.text ++ '=' :: t ≠ ['-'] := by
    intro hlone
    have hmem : '=' ∈ ['-'] := hlone ▸ List.mem_append_right s.text List.mem_cons_self
    exact absurd hmem (by decide)
  rw [classify, if_neg (not_not.mpr hhead), hnone]
  dsimp only
  rw [if_neg hlone, hbefore, hafter, hspelled]

theorem classifyAll_cons {t : Text} {w : Word} (hmarker : t ≠ marker) (h : classify t = .ok w)
    (ts : List Text) : classifyAll (t :: ts) = (w :: ·) <$> classifyAll ts := by
  rw [classifyAll, if_neg hmarker, h]

/-! ### What words do wherever they stand -/

/-- Before the marker, and whatever comes after them, the words `ts` turn a reading `r` into `f r`. -/
def Takes (ts : List Text) (f : Reading → Reading) : Prop :=
  ∃ ws : List Word, (∀ rest, classifyAll (ts ++ rest) = (ws ++ ·) <$> classifyAll rest)
    ∧ ∀ r rest, consume r (ws ++ rest) = consume (f r) rest

theorem takes_nil : Takes [] fun r => r :=
  ⟨[], fun rest => (id_map (classifyAll rest)).symm, fun _ _ => rfl⟩

theorem Takes.append {ts us : List Text} {f g : Reading → Reading} (hf : Takes ts f)
    (hg : Takes us g) : Takes (ts ++ us) fun r => g (f r) := by
  obtain ⟨ws, hts, hws⟩ := hf
  obtain ⟨vs, hus, hvs⟩ := hg
  refine ⟨ws ++ vs, fun rest => ?_, fun r rest => ?_⟩
  · rw [List.append_assoc, hts, hus, Functor.map_map]
    simp only [List.append_assoc]
  · rw [List.append_assoc, hws, hvs]

theorem parse_of_takes {ts : List Text} {f : Reading → Reading} (h : Takes ts f) :
    parse ts = if (f {}).extras = [] then .ok { (f {}).request with files := (f {}).row.names }
      else .error (.refused (.unrecognized (f {}).extras)) := by
  obtain ⟨ws, hts, hws⟩ := h
  have hwords : classifyAll ts = .ok ws := by
    have hall := hts []
    rw [List.append_nil] at hall
    rw [hall]
    exact congrArg Except.ok (List.append_nil ws)
  have hread : consume {} ws = .ok (f {}) := by
    have hall := hws {} []
    rwa [List.append_nil] at hall
  rw [parse, hwords]
  dsimp only
  rw [hread]

theorem takes_file {name : Text} (h : name.head? ≠ some '-') : Takes [name] (·.plain name) :=
  ⟨[.plain name], classifyAll_cons (ne_marker_of_noDash h) (classify_of_noDash h), fun _ _ => rfl⟩

theorem takes_flag {text : Text} {f : Flag} {g : Reading → Reading}
    (hs : ⟨text, .flag f⟩ ∈ spellings) (hg : ∀ r : Reading, r.flag f = .ok (g r)) :
    Takes [text] fun r => g r.endRow := by
  obtain ⟨-, -, hmarker, -⟩ := mem_spellings_spec hs
  refine ⟨[.switch ⟨text, .flag f⟩ none], classifyAll_cons hmarker (classify_spelling hs),
    fun r rest => ?_⟩
  rw [List.singleton_append, consume, hg]

theorem takes_explicit {text t : Text} {v : Valued} {g : Reading → Reading}
    (hs : ⟨text, .valued v⟩ ∈ spellings)
    (hg : ∀ r : Reading, r.explicit ⟨text, .valued v⟩ t = .ok (g r)) :
    Takes [text ++ '=' :: t] fun r => g r.endRow := by
  refine ⟨[.switch ⟨text, .valued v⟩ (some t)],
    classifyAll_cons ne_marker_of_equals (classify_explicit hs t), fun r rest => ?_⟩
  rw [List.singleton_append, consume, hg]

theorem takes_apart {text t : Text} {v : Valued} {g : Reading → Reading}
    (hs : ⟨text, .valued v⟩ ∈ spellings) (ht : t.head? ≠ some '-')
    (hg : ∀ r : Reading, r.value t v = .ok (g r)) : Takes [text, t] fun r => g r.endRow := by
  obtain ⟨-, -, hmarker, -⟩ := mem_spellings_spec hs
  refine ⟨[.switch ⟨text, .valued v⟩ none, .plain t], fun rest => ?_, fun r rest => ?_⟩
  · have hvalue := classifyAll_cons (ne_marker_of_noDash ht) (classify_of_noDash ht) rest
    rw [List.cons_append, List.singleton_append,
      classifyAll_cons hmarker (classify_spelling hs), hvalue, Functor.map_map]
    rfl
  · rw [List.cons_append, List.singleton_append, consume, hg]

/-! ### Settings -/

/-- A setting that an option makes. -/
inductive Setting
  | target (name : Text)
  | verbose
  | pretty (on : Bool)
  | columnWidth (n : Nat)
  | debug
  deriving DecidableEq, Repr

/-- Makes a setting, in the place of earlier ones of its kind. -/
def Setting.apply (r : Request) : Setting → Request
  | .target name => { r with target := name }
  | .verbose => { r with verbose := true }
  | .pretty on => { r with pretty := some on }
  | .columnWidth n => { r with columnWidth := .columns n }
  | .debug => { r with debug := true }

/-- Makes a setting in the request that is being read. -/
def Reading.set (r : Reading) (o : Setting) : Reading := { r with request := o.apply r.request }

/-- The words that spell a setting in full. The marker is no target: where it stands behind the equals
sign, there is none. -/
inductive Spells : Setting → List Text → Prop
  | targetJoined {text name : Text} (hs : ⟨text, .valued .target⟩ ∈ spellings)
      (hname : name ≠ marker) : Spells (.target name) [text ++ '=' :: name]
  | targetMarker {text : Text} (hs : ⟨text, .valued .target⟩ ∈ spellings) :
      Spells (.target []) [text ++ '=' :: marker]
  | targetApart {text name : Text} (hs : ⟨text, .valued .target⟩ ∈ spellings)
      (hname : name.head? ≠ some '-') : Spells (.target name) [text, name]
  | verbose {text : Text} (hs : ⟨text, .flag .verbose⟩ ∈ spellings) : Spells .verbose [text]
  | pretty {text : Text} {on : Bool} (hs : ⟨text, .flag (.pretty on)⟩ ∈ spellings) :
      Spells (.pretty on) [text]
  | widthJoined {text : Text} {n zeros : Nat} (hs : ⟨text, .valued .columnWidth⟩ ∈ spellings)
      (hn : 0 < n) (hlength : zeros + (Text.decimal n).length ≤ Text.maxDigits) :
      Spells (.columnWidth n) [text ++ '=' :: (List.replicate zeros '0' ++ Text.decimal n)]
  | widthApart {text : Text} {n zeros : Nat} (hs : ⟨text, .valued .columnWidth⟩ ∈ spellings)
      (hn : 0 < n) (hlength : zeros + (Text.decimal n).length ≤ Text.maxDigits) :
      Spells (.columnWidth n) [text, List.replicate zeros '0' ++ Text.decimal n]
  | debug {text : Text} (hs : ⟨text, .flag .debug⟩ ∈ spellings) : Spells .debug [text]

theorem head_zeros_decimal_ne_dash (n zeros : Nat) :
    (List.replicate zeros '0' ++ Text.decimal n).head? ≠ some '-' := by
  intro h
  have hdigit : ('-').isDigit := Text.isDigit_of_mem_zeros_decimal (List.mem_of_mem_head? h)
  exact absurd hdigit (by decide)

theorem explicit_marker (r : Reading) (text : Text) (v : Valued) :
    r.explicit ⟨text, .valued v⟩ marker = .ok (r.noValue v) := by
  rw [Reading.explicit]
  exact if_pos rfl

theorem explicit_of_ne_marker {t : Text} (h : t ≠ marker) (r : Reading) (text : Text) (v : Valued) :
    r.explicit ⟨text, .valued v⟩ t = r.value t v := by
  rw [Reading.explicit]
  exact if_neg h

theorem value_zeros_decimal {n zeros : Nat} (hn : 0 < n)
    (hlength : zeros + (Text.decimal n).length ≤ Text.maxDigits) (r : Reading) :
    r.value (List.replicate zeros '0' ++ Text.decimal n) .columnWidth
      = .ok (r.set (.columnWidth n)) := by
  rw [Reading.value, Text.readWidth_decimal hn hlength]
  rfl

/-- The words that spell a setting make it, wherever they stand. -/
theorem Spells.takes {o : Setting} {ts : List Text} (h : Spells o ts) :
    Takes ts fun r => r.endRow.set o := by
  cases h with
  | @targetJoined _ name hs hname =>
    exact takes_explicit (g := (·.set (.target name))) hs fun r =>
      explicit_of_ne_marker hname r _ .target
  | targetMarker hs =>
    exact takes_explicit (g := (·.set (.target []))) hs fun r => explicit_marker r _ .target
  | @targetApart _ name hs hname =>
    exact takes_apart (g := (·.set (.target name))) hs hname fun _ => rfl
  | verbose hs => exact takes_flag (g := (·.set .verbose)) hs fun _ => rfl
  | @pretty _ on hs => exact takes_flag (g := (·.set (.pretty on))) hs fun _ => rfl
  | debug hs => exact takes_flag (g := (·.set .debug)) hs fun _ => rfl
  | @widthJoined _ n zeros hs hn hlength =>
    have hmarker := ne_marker_of_noDash (head_zeros_decimal_ne_dash n zeros)
    exact takes_explicit (g := (·.set (.columnWidth n))) hs fun r =>
      (explicit_of_ne_marker hmarker r _ .columnWidth).trans (value_zeros_decimal hn hlength r)
  | @widthApart _ n zeros hs hn hlength =>
    exact takes_apart (g := (·.set (.columnWidth n))) hs (head_zeros_decimal_ne_dash n zeros)
      (value_zeros_decimal hn hlength)

/-- A setting as one word. -/
def Setting.word : Setting → Text
  | .target name => "--target".toList ++ '=' :: name
  | .verbose => "--verbose".toList
  | .pretty true => "--pretty".toList
  | .pretty false => "--no-pretty".toList
  | .columnWidth n => "--column-width".toList ++ '=' :: Text.decimal n
  | .debug => "--debug".toList

theorem Spells.word {o : Setting} {ts : List Text} (h : Spells o ts) : Spells o [o.word] := by
  have hwidth : ∀ {n zeros : Nat}, 0 < n → zeros + (Text.decimal n).length ≤ Text.maxDigits →
      Spells (.columnWidth n) [(Setting.columnWidth n).word] := by
    intro n zeros hn hlength
    exact @Spells.widthJoined "--column-width".toList n 0 (by decide) hn (by omega)
  cases h with
  | targetJoined hs hname => exact .targetJoined (by decide) hname
  | targetMarker hs => exact .targetJoined (by decide) (by decide)
  | targetApart hs hname => exact .targetJoined (by decide) (ne_marker_of_noDash hname)
  | verbose hs => exact .verbose (by decide)
  | @pretty text on hs => cases on <;> exact .pretty (by decide)
  | widthJoined hs hn hlength => exact hwidth hn hlength
  | widthApart hs hn hlength => exact hwidth hn hlength
  | debug hs => exact .debug (by decide)

end TargetDocs.CommandLine
