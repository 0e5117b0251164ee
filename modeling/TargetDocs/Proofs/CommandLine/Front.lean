/-
Options in front of a command line.

What a word does to a request depends on that word alone, not on what was read before it. So a setting in
front of a command line is made first and stays, unless a later option of its kind takes its place:

* `given` — the options of a command line, whatever their spellings and values;
* `Switch.Sets`, `Makes` — what one option, and what options one after the other, do to a request;
* `settled_consume` — words stop the reading whatever came before them, or do what their options do;
* `parse_front` — a command line is read with a setting in front of it exactly if it is read without;
* `parse_front_of_free` — the setting is then made, if no option takes its place (`Setting.YieldsTo`);
* `columnWidth_eq_preferred_iff`, `pretty_eq_none_iff`, `target_eq_nil` — nothing is asked for without an
  option.
-/
import TargetDocs.Proofs.CommandLine.Spelling

namespace TargetDocs.CommandLine

/-- The option that a word is. -/
def Word.switch? : Word → Option Switch
  | .switch s _ => some s.switch
  | _ => none

/-- The options that a command line gives, in its order. -/
def given (words : List Text) : List Switch :=
  match classifyAll words with
  | .ok ws => ws.filterMap Word.switch?
  | .error _ => []

/-- What an option does to a request, with one value or another. -/
inductive Switch.Sets : Switch → (Request → Request) → Prop
  | verbose : Sets (.flag .verbose) fun q => { q with verbose := true }
  | pretty (on : Bool) : Sets (.flag (.pretty on)) fun q => { q with pretty := some on }
  | debug : Sets (.flag .debug) fun q => { q with debug := true }
  | target (name : Text) : Sets (.valued .target) fun q => { q with target := name }
  | columnWidth {choice : WidthChoice} (h : choice ≠ .preferred) :
      Sets (.valued .columnWidth) fun q => { q with columnWidth := choice }

/-- What options do to a request, one after the other. -/
inductive Makes : List Switch → (Request → Request) → Prop
  | nil : Makes [] fun q => q
  | cons {sw : Switch} {sws : List Switch} {g f : Request → Request} (h : sw.Sets g)
      (hrest : Makes sws f) : Makes (sw :: sws) fun q => f (g q)

/-! ### Steps of the reading -/

/-- The step stops the reading, whatever was read. -/
def Stops (step : Reading → Except Stop Reading) : Prop := ∃ stop, ∀ r, step r = .error stop

/-- The step goes on. It changes the request by `f` and leaves the rest to what the rest was. -/
def Acts (f : Request → Request) (step : Reading → Except Stop Reading) : Prop :=
  ∀ row extras, ∃ row' extras', ∀ q, step ⟨q, row, extras⟩ = .ok ⟨f q, row', extras'⟩

/-- The step stops, or it does what the options do. -/
def Settled (sws : List Switch) (step : Reading → Except Stop Reading) : Prop :=
  Stops step ∨ ∃ f, Makes sws f ∧ Acts f step

/-- The change looks at no request and leaves it as it is. -/
def Apart (place : Reading → Reading) : Prop :=
  ∀ row extras, ∃ row' extras', ∀ q, place ⟨q, row, extras⟩ = ⟨q, row', extras'⟩

theorem apart_endRow : Apart Reading.endRow := by
  intro row extras
  cases row with
  | ahead => exact ⟨.ahead, extras, fun _ => rfl⟩
  | current names => exact ⟨.behind names, extras, fun _ => rfl⟩
  | behind names => exact ⟨.behind names, extras, fun _ => rfl⟩

theorem apart_plain (t : Text) : Apart (·.plain t) := by
  intro row extras
  cases row with
  | ahead => exact ⟨.current [t], extras, fun _ => rfl⟩
  | current names => exact ⟨.current (names ++ [t]), extras, fun _ => rfl⟩
  | behind names => exact ⟨.behind names, extras ++ [t], fun _ => rfl⟩

theorem apart_mark : Apart Reading.mark := by
  intro row extras
  cases row with
  | ahead => exact ⟨.current [], extras, fun _ => rfl⟩
  | current names => exact ⟨.current names, extras, fun _ => rfl⟩
  | behind names => exact ⟨.behind names, extras ++ [marker], fun _ => rfl⟩

theorem apart_unknown (t : Text) : Apart (·.unknown t) := by
  intro row extras
  obtain ⟨row', extras', hrow⟩ := apart_endRow row extras
  refine ⟨row', extras ++ [t], fun q => ?_⟩
  show { (Reading.endRow ⟨q, row, extras⟩) with extras := extras ++ [t] } = _
  rw [hrow]

theorem Acts.after {f : Request → Request} {step : Reading → Except Stop Reading}
    {place : Reading → Reading} (h : Acts f step) (hplace : Apart place) :
    Acts f fun r => step (place r) := by
  intro row extras
  obtain ⟨row', extras', hmoved⟩ := hplace row extras
  obtain ⟨row'', extras'', hstep⟩ := h row' extras'
  refine ⟨row'', extras'', fun q => ?_⟩
  dsimp only
  rw [hmoved, hstep]

theorem Settled.after {sws : List Switch} {step : Reading → Except Stop Reading}
    {place : Reading → Reading} (h : Settled sws step) (hplace : Apart place) :
    Settled sws fun r => step (place r) := by
  rcases h with ⟨stop, hstop⟩ | ⟨f, hf, hacts⟩
  · exact Or.inl ⟨stop, fun r => hstop (place r)⟩
  · exact Or.inr ⟨f, hf, hacts.after hplace⟩

/-- An option ends the row of file names, and the words behind it are read next. -/
theorem Settled.cons {sw : Switch} {sws : List Switch}
    {step next all : Reading → Except Stop Reading}
    (hstep : Stops step ∨ ∃ g, sw.Sets g ∧ Acts g step) (hnext : Settled sws next)
    (hall : ∀ r, all r = match step r.endRow with
      | .error stop => .error stop
      | .ok r => next r) : Settled (sw :: sws) all := by
  rcases hstep with ⟨stop, hstop⟩ | ⟨g, hg, hacts⟩
  · exact Or.inl ⟨stop, fun r => by rw [hall, hstop]⟩
  have hrow : ∀ row extras, ∃ row' extras', ∀ q,
      step (Reading.endRow ⟨q, row, extras⟩) = .ok ⟨g q, row', extras'⟩ := hacts.after apart_endRow
  rcases hnext with ⟨stop, hstop⟩ | ⟨f, hf, hnext⟩
  · refine Or.inl ⟨stop, fun ⟨q, row, extras⟩ => ?_⟩
    obtain ⟨row', extras', hok⟩ := hrow row extras
    rw [hall, hok]
    exact hstop _
  · refine Or.inr ⟨_, .cons hg hf, fun row extras => ?_⟩
    obtain ⟨row', extras', hok⟩ := hrow row extras
    obtain ⟨row'', extras'', hrest⟩ := hnext row' extras'
    refine ⟨row'', extras'', fun q => ?_⟩
    rw [hall, hok]
    exact hrest (g q)

/-! ### One option -/

theorem flag_stops_or_acts (f : Flag) :
    Stops (·.flag f) ∨ ∃ g, (Switch.flag f).Sets g ∧ Acts g (·.flag f) := by
  cases f with
  | help => exact Or.inl ⟨.help, fun _ => rfl⟩
  | verbose => exact Or.inr ⟨_, .verbose, fun row extras => ⟨row, extras, fun _ => rfl⟩⟩
  | pretty on => exact Or.inr ⟨_, .pretty on, fun row extras => ⟨row, extras, fun _ => rfl⟩⟩
  | debug => exact Or.inr ⟨_, .debug, fun row extras => ⟨row, extras, fun _ => rfl⟩⟩

theorem value_stops_or_acts (t : Text) (v : Valued) :
    Stops (·.value t v) ∨ ∃ g, (Switch.valued v).Sets g ∧ Acts g (·.value t v) := by
  cases v with
  | target => exact Or.inr ⟨_, .target t, fun row extras => ⟨row, extras, fun _ => rfl⟩⟩
  | columnWidth =>
    cases ht : readWidth t with
    | error fault =>
      refine Or.inl ⟨.refused (.badWidth fault t), fun r => ?_⟩
      show r.value t .columnWidth = _
      rw [Reading.value, ht]
    | ok n =>
      have hset : WidthChoice.columns n ≠ .preferred := by simp
      refine Or.inr ⟨_, .columnWidth hset, fun row extras => ⟨row, extras, fun q => ?_⟩⟩
      show Reading.value ⟨q, row, extras⟩ t .columnWidth = _
      rw [Reading.value, ht]

theorem noValue_acts (v : Valued) :
    ∃ g, (Switch.valued v).Sets g ∧ Acts g fun r => .ok (r.noValue v) := by
  cases v with
  | target => exact ⟨_, .target [], fun row extras => ⟨row, extras, fun _ => rfl⟩⟩
  | columnWidth =>
    have hset : WidthChoice.missing ≠ .preferred := by simp
    exact ⟨_, .columnWidth hset, fun row extras => ⟨row, extras, fun _ => rfl⟩⟩

/-- The only flag with a spelling of one dash and one character is that for the help. -/
theorem eq_help_of_flagSpelled? {c : Char} {g : Flag} (h : flagSpelled? ['-', c] = some g) :
    g = .help := by
  have hshort : ∀ s ∈ spellings, s.text.length = 2 → s.switch = .flag .help := by decide
  unfold flagSpelled? at h
  split at h
  · next text f hspelled =>
    obtain rfl := Option.some.inj h
    have htext : text = ['-', c] := by simpa using List.find?_some hspelled
    have hflag := hshort _ (List.mem_of_find?_eq_some hspelled) (by rw [htext]; rfl)
    exact (Switch.flag.inj hflag)
  · cases h

theorem help_mem_of_flagsOf {spelling t : Text} {f : Flag} {fs : List Flag}
    (h : flagsOf spelling f t = .ok fs) : .help ∈ fs := by
  fun_induction flagsOf spelling f t generalizing fs with
  | case1 => cases h
  | case2 => cases h
  | case3 => cases h
  | case4 spelling f c _ g hg =>
    obtain rfl := Except.ok.inj h
    rw [eq_help_of_flagSpelled? hg]
    simp
  | case5 spelling f c t _ g hg _ ih =>
    cases hrest : flagsOf ['-', c] g t with
    | error fault =>
      rw [hrest] at h
      cases h
    | ok gs =>
      rw [hrest] at h
      obtain rfl := Except.ok.inj h
      exact List.mem_cons_of_mem f (ih hrest)

theorem flags_of_help_mem {fs : List Flag} (h : .help ∈ fs) (r : Reading) :
    r.flags fs = .error .help := by
  induction fs generalizing r with
  | nil => cases h
  | cons f fs ih =>
    rcases List.mem_cons.mp h with rfl | hmem
    · rfl
    · cases f with
      | help => rfl
      | verbose => exact ih hmem _
      | pretty on => exact ih hmem _
      | debug => exact ih hmem _

/-- A flag with an explicit value always stops the reading, if only to show the help. -/
theorem explicit_stops_or_acts (s : Spelling) (t : Text) :
    Stops (·.explicit s t) ∨ ∃ g, s.switch.Sets g ∧ Acts g (·.explicit s t) := by
  obtain ⟨text, switch⟩ := s
  cases switch with
  | flag f =>
    left
    cases hfs : flagsOf text f t with
    | error fault =>
      refine ⟨.refused fault, fun r => ?_⟩
      show r.explicit ⟨text, .flag f⟩ t = _
      rw [Reading.explicit]
      dsimp only
      rw [hfs]
    | ok fs =>
      refine ⟨.help, fun r => ?_⟩
      show r.explicit ⟨text, .flag f⟩ t = _
      rw [Reading.explicit]
      dsimp only
      rw [hfs]
      exact flags_of_help_mem (help_mem_of_flagsOf hfs) r
  | valued v =>
    by_cases ht : t = marker
    · subst ht
      simp only [explicit_marker]
      exact Or.inr (noValue_acts v)
    · simp only [explicit_of_ne_marker ht]
      exact value_stops_or_acts t v

/-! ### Words one after the other -/

/-- **What words do to a request does not depend on what was read before them.** -/
theorem settled_consume : ∀ ws : List Word, Settled (ws.filterMap Word.switch?) (consume · ws)
  | [] => Or.inr ⟨_, .nil, fun row extras => ⟨row, extras, fun _ => rfl⟩⟩
  | .plain t :: ws => (settled_consume ws).after (apart_plain t)
  | .marker :: ws => (settled_consume ws).after apart_mark
  | .unknown t :: ws => (settled_consume ws).after (apart_unknown t)
  | .switch s (some t) :: ws =>
    .cons (explicit_stops_or_acts s t) (settled_consume ws) fun _ => rfl
  | .switch ⟨_, .flag f⟩ none :: ws =>
    .cons (flag_stops_or_acts f) (settled_consume ws) fun _ => rfl
  | .switch ⟨_, .valued v⟩ none :: .plain t :: ws =>
    .cons (value_stops_or_acts t v) (settled_consume ws) fun _ => rfl
  -- no other word is a value
  | [.switch ⟨_, .valued v⟩ none] => Or.inl ⟨.refused (.missingValue v), fun _ => rfl⟩
  | .switch ⟨_, .valued v⟩ none :: .marker :: _ => Or.inl ⟨.refused (.missingValue v), fun _ => rfl⟩
  | .switch ⟨_, .valued v⟩ none :: .unknown _ :: _ =>
    Or.inl ⟨.refused (.missingValue v), fun _ => rfl⟩
  | .switch ⟨_, .valued v⟩ none :: .switch _ _ :: _ =>
    Or.inl ⟨.refused (.missingValue v), fun _ => rfl⟩

/-! ### Command lines -/

/-- The command line is read as the words `ws` are that come after the request `q`. -/
def ReadAs (us : List Text) (q : Request) (ws : List Word) : Prop :=
  ∃ vs, classifyAll us = .ok vs ∧ consume {} vs = consume { request := q } ws

theorem parse_of_stopped {us : List Text} {q : Request} {ws : List Word} {stop : Stop}
    (h : ReadAs us q ws) (hq : consume { request := q } ws = .error stop) :
    parse us = .error stop := by
  obtain ⟨vs, hus, hvs⟩ := h
  simp only [parse, hus, hvs, hq]

theorem parse_of_consumed {us : List Text} {q : Request} {ws : List Word} {r : Reading}
    (h : ReadAs us q ws) (hq : consume { request := q } ws = .ok r) :
    parse us = if r.extras = [] then .ok { r.request with files := r.row.names }
      else .error (.refused (.unrecognized r.extras)) := by
  obtain ⟨vs, hus, hvs⟩ := h
  simp only [parse, hus, hvs, hq]

theorem readAs_front {o : Setting} {ts words : List Text} {ws : List Word} (h : Spells o ts)
    (hwords : classifyAll words = .ok ws) : ReadAs (ts ++ words) (o.apply {}) ws := by
  obtain ⟨vs, hts, hvs⟩ := h.takes
  refine ⟨vs ++ ws, ?_, hvs {} ws⟩
  rw [hts, hwords]
  rfl

theorem parse_stops_or_acts (ws : List Word) :
    (∃ stop, ∀ us q, ReadAs us q ws → parse us = .error stop)
      ∨ ∃ f files, Makes (ws.filterMap Word.switch?) f
        ∧ ∀ us q, ReadAs us q ws → parse us = .ok { f q with files } := by
  rcases settled_consume ws with ⟨stop, hstop⟩ | ⟨f, hf, hacts⟩
  · exact Or.inl ⟨stop, fun us q h => parse_of_stopped h (hstop _)⟩
  · obtain ⟨row, extras, hread⟩ := hacts .ahead []
    by_cases hextras : extras = []
    · refine Or.inr ⟨f, row.names, hf, fun us q h => ?_⟩
      exact (parse_of_consumed h (hread q)).trans (if_pos hextras)
    · refine Or.inl ⟨.refused (.unrecognized extras), fun us q h => ?_⟩
      exact (parse_of_consumed h (hread q)).trans (if_neg hextras)

/-- What stops a command line stops it with a setting in front as well, and a command line that is read is
read with the setting made before its own. -/
theorem parse_front (words : List Text) :
    (∃ stop, parse words = .error stop
        ∧ ∀ o ts, Spells o ts → parse (ts ++ words) = .error stop)
      ∨ ∃ f files, Makes (given words) f ∧ parse words = .ok { f {} with files }
        ∧ ∀ o ts, Spells o ts → parse (ts ++ words) = .ok { f (o.apply {}) with files } := by
  cases hwords : classifyAll words with
  | error a =>
    refine Or.inl ⟨.refused (.ambiguous a), by rw [parse, hwords], fun o ts h => ?_⟩
    obtain ⟨vs, hts, -⟩ := h.takes
    rw [parse, hts, hwords]
    rfl
  | ok ws =>
    have hself : ReadAs words {} ws := ⟨ws, hwords, rfl⟩
    have hgiven : given words = ws.filterMap Word.switch? := by rw [given, hwords]
    rw [hgiven]
    rcases parse_stops_or_acts ws with ⟨stop, hstop⟩ | ⟨f, files, hf, hparse⟩
    · exact Or.inl ⟨stop, hstop words {} hself, fun o ts h => hstop _ _ (readAs_front h hwords)⟩
    · exact Or.inr ⟨f, files, hf, hparse words {} hself,
        fun o ts h => hparse _ _ (readAs_front h hwords)⟩

/-! ### Settings in front -/

/-- The option takes the place of a setting that was made before. -/
def Setting.YieldsTo : Setting → Switch → Prop
  | .target _, sw => sw = .valued .target
  | .verbose, _ => False
  | .pretty _, sw => ∃ on, sw = .flag (.pretty on)
  | .columnWidth _, sw => sw = .valued .columnWidth
  | .debug, _ => False

theorem Switch.Sets.apply {sw : Switch} {g : Request → Request} (h : sw.Sets g) {o : Setting}
    (hfree : ¬ o.YieldsTo sw) (q : Request) : g (o.apply q) = o.apply (g q) := by
  cases o with
  | target name =>
    cases h with
    | target => exact absurd rfl hfree
    | _ => rfl
  | pretty on =>
    cases h with
    | pretty on' => exact absurd ⟨on', rfl⟩ hfree
    | _ => rfl
  | columnWidth n =>
    cases h with
    | columnWidth => exact absurd rfl hfree
    | _ => rfl
  | verbose => cases h <;> rfl
  | debug => cases h <;> rfl

theorem Makes.apply {sws : List Switch} {f : Request → Request} (h : Makes sws f) {o : Setting}
    (hfree : ∀ sw ∈ sws, ¬ o.YieldsTo sw) (q : Request) : f (o.apply q) = o.apply (f q) := by
  induction h generalizing q with
  | nil => rfl
  | @cons sw sws g f hg _ ih =>
    dsimp only
    rw [hg.apply (hfree sw List.mem_cons_self),
      ih fun x hx => hfree x (List.mem_cons_of_mem sw hx)]

/-- **A setting in front counts**, unless an option behind it takes its place. -/
theorem parse_front_of_free {o : Setting} {ts words : List Text} {r : Request} (h : Spells o ts)
    (hwords : parse words = .ok r) (hfree : ∀ sw ∈ given words, ¬ o.YieldsTo sw) :
    parse (ts ++ words) = .ok (o.apply r) := by
  rcases parse_front words with ⟨stop, hstop, -⟩ | ⟨f, files, hf, hparse, hfront⟩
  · cases hwords.symm.trans hstop
  · obtain rfl := Except.ok.inj (hwords.symm.trans hparse)
    rw [hfront o ts h, hf.apply hfree]
    cases o <;> rfl

/-! ### What is not given -/

theorem Makes.columnWidth_eq_preferred_iff {sws : List Switch} {f : Request → Request}
    (h : Makes sws f) (q : Request) : (f q).columnWidth = .preferred
      ↔ q.columnWidth = .preferred ∧ .valued .columnWidth ∉ sws := by
  induction h generalizing q with
  | nil => simp
  | cons hg _ ih =>
    rw [ih]
    cases hg with
    | columnWidth hchoice => simp [hchoice]
    | _ => simp

theorem Makes.pretty_eq_none_iff {sws : List Switch} {f : Request → Request} (h : Makes sws f)
    (q : Request) : (f q).pretty = none ↔ q.pretty = none ∧ ∀ on, .flag (.pretty on) ∉ sws := by
  induction h generalizing q with
  | nil => simp
  | cons hg _ ih =>
    rw [ih]
    cases hg with
    | pretty on =>
      refine iff_of_false (fun h => ?_) fun h => h.2 on List.mem_cons_self
      cases h.1
    | _ => simp

theorem Makes.target_eq {sws : List Switch} {f : Request → Request} (h : Makes sws f)
    (hsws : .valued .target ∉ sws) (q : Request) : (f q).target = q.target := by
  induction h generalizing q with
  | nil => rfl
  | cons hg _ ih =>
    obtain ⟨hsw, hrest⟩ := not_or.mp (mt List.mem_cons.mpr hsws)
    rw [ih hrest]
    cases hg with
    | target name => exact absurd rfl hsw
    | _ => rfl

variable {words : List Text} {r : Request}

theorem exists_makes_of_parse (h : parse words = .ok r) :
    ∃ f files, Makes (given words) f ∧ r = { f {} with files } := by
  rcases parse_front words with ⟨stop, hstop, -⟩ | ⟨f, files, hf, hparse, -⟩
  · cases h.symm.trans hstop
  · exact ⟨f, files, hf, Except.ok.inj (h.symm.trans hparse)⟩

theorem columnWidth_eq_preferred_iff (h : parse words = .ok r) :
    r.columnWidth = .preferred ↔ .valued .columnWidth ∉ given words := by
  obtain ⟨f, files, hf, rfl⟩ := exists_makes_of_parse h
  exact (hf.columnWidth_eq_preferred_iff {}).trans (and_iff_right rfl)

theorem pretty_eq_none_iff (h : parse words = .ok r) :
    r.pretty = none ↔ ∀ on, .flag (.pretty on) ∉ given words := by
  obtain ⟨f, files, hf, rfl⟩ := exists_makes_of_parse h
  exact (hf.pretty_eq_none_iff {}).trans (and_iff_right rfl)

theorem target_eq_nil (h : parse words = .ok r) (hgiven : .valued .target ∉ given words) :
    r.target = [] := by
  obtain ⟨f, files, hf, rfl⟩ := exists_makes_of_parse h
  exact hf.target_eq hgiven {}

end TargetDocs.CommandLine
