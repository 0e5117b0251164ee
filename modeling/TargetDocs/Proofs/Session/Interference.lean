/-
Logging does not interfere with results.

Take out of the steps of a session whatever has to do with the log: each configuration, the level where
one is set or read, and the option for debugging in front of a command line (`Step.quiet?`). What the other
steps answer stays the same, but for the level of the log (`Answer.result?`):

* `result_run_debug` — the option for debugging changes neither exit code nor output;
* `result_run_of_sameButLog` — nor does the level of the log;
* `sameButLog_step` — so sessions that differ only in the log (`SameButLog`) still do after a step and its
  quiet version, and both answer the same;
* `results_runFrom_quiet` — a session answers what its quiet version answers;
* `results_of_same_quiet` — two sessions with the same quiet version answer the same.
-/
import TargetDocs.Proofs.CommandLine.Front
import TargetDocs.Proofs.Run.Ending
import TargetDocs.Session

namespace TargetDocs

/-! ### Runs -/

namespace Run

open CommandLine

/-- The word that asks for debugging. -/
def debugWord : Text := "--debug".toList

theorem result_run_debug (s : Surroundings) (words : List Text) :
    (run s (debugWord :: words)).result = (run s words).result := by
  have hspells : Spells .debug [debugWord] := .debug (by decide)
  by_cases hs : HelpWritable s.preferences
  · rcases parse_front words with ⟨stop, hwords, hfront⟩ | ⟨f, files, -, hwords, -⟩
    · have hdebug : parse (debugWord :: words) = .error stop := hfront _ _ hspells
      rw [run, run, hwords, hdebug]
    · have hdebug : parse (debugWord :: words) = .ok { f {} with files, debug := true } :=
        parse_front_of_free hspells hwords fun sw _ hyields => hyields
      rw [run_request hs hwords, run_request hs hdebug]
      exact result_request_of_agree ⟨rfl, rfl, rfl, rfl, rfl, rfl, rfl, rfl⟩
  · rw [run, run, if_neg hs, if_neg hs]

/-- The surroundings are the same, except perhaps for the level of the log. -/
structure SameButLog (s s' : Surroundings) : Prop where
  columnWidth : s'.preferences.columnWidth = s.preferences.columnWidth
  pretty : s'.preferences.pretty = s.preferences.pretty
  noColor : s'.noColor = s.noColor
  read : s'.read = s.read
  outlet : s'.outlet = s.outlet

theorem result_run_of_sameButLog {s s' : Surroundings} (h : SameButLog s s') (words : List Text) :
    (run s' words).result = (run s words).result := by
  have hhelp : HelpWritable s'.preferences ↔ HelpWritable s.preferences := by
    rw [HelpWritable, HelpWritable, h.columnWidth]
  by_cases hs : HelpWritable s.preferences
  · cases hwords : parse words with
    | error stop =>
      cases stop with
      | help =>
        rw [run_help hs hwords, run_help (hhelp.mpr hs) hwords, help, help, h.columnWidth, h.outlet]
      | refused fault => rw [run_refused hs hwords, run_refused (hhelp.mpr hs) hwords]
    | ok r =>
      rw [run_request hs hwords, run_request (hhelp.mpr hs) hwords]
      refine result_request_of_agree ⟨h.noColor, h.read, h.outlet, rfl, rfl, rfl, ?_, ?_⟩
      · rw [h.pretty]
      · cases r.columnWidth with
        | preferred => exact congrArg some h.columnWidth
        | columns n => rfl
        | missing => rfl
  · rw [run, run, if_neg hs, if_neg (mt hhelp.mp hs)]

end Run

namespace Session

/-! ### Sessions without their log -/

/-- The words without those in front that ask for debugging. -/
def withoutDebug (words : List Text) : List Text := words.dropWhile (· = Run.debugWord)

/-- The step without what has to do with the log; nothing is left of a configuration of the log. -/
def Step.quiet? : Step → Option Step
  | .write name place => some (.write name place)
  | .remove name => some (.remove name)
  | .environment env => some (.environment { env with logLevel := none })
  | .set _ columnWidth pretty => some (.set none columnWidth pretty)
  | .configureLogging _ => none
  | .load paths => some (.load paths)
  | .main words outlet origin => some (.main (withoutDebug words) outlet origin)

/-- The answer without the level of the log; nothing is left of the answer that tells its threshold. -/
def Answer.result? : Answer → Option Answer
  | .done => some .done
  | .preferences p => some (.preferences { p with logLevel := Preferences.defaultLogLevel })
  | .threshold _ => none
  | .loaded result => some (.loaded result)
  | .finished exit output => some (.finished exit output)

/-- What the steps of a session answer, apart from the log. -/
def results (ts : List Transcript) : List Answer := ts.filterMap (·.answer.result?)

/-- The sessions are the same, except perhaps for what has to do with the log. -/
structure SameButLog (s s' : Session) : Prop where
  files : s'.files = s.files
  forbidsColor : s'.environment.forbidsColor = s.environment.forbidsColor
  columnWidth : s'.preferences.columnWidth = s.preferences.columnWidth
  pretty : s'.preferences.pretty = s.preferences.pretty

variable {s s' : Session}

theorem answer_main_withoutDebug (h : SameButLog s s') (words : List Text) (outlet : Outlet)
    (origin : Text) :
    (s'.step (.main (withoutDebug words) outlet origin)).2.answer
      = (s.step (.main words outlet origin)).2.answer := by
  have hanswer : ∀ {k k' : Session} {us us' : List Text},
      (Run.run (k'.surroundings outlet) us').result = (Run.run (k.surroundings outlet) us).result →
      (k'.step (.main us' outlet origin)).2.answer = (k.step (.main us outlet origin)).2.answer := by
    intro k k' us us' hresult
    obtain ⟨hexit, houtput⟩ := Prod.mk.inj hresult
    rw [step, step, runMain, runMain, hexit, houtput]
  have hsame : Run.SameButLog (s.surroundings outlet) (s'.surroundings outlet) :=
    ⟨h.columnWidth, h.pretty, h.forbidsColor, congrArg FileTree.read h.files, rfl⟩
  induction words with
  | nil => exact hanswer (Run.result_run_of_sameButLog hsame [])
  | cons word words ih =>
    by_cases hword : word = Run.debugWord
    · subst hword
      have hdrop : withoutDebug (Run.debugWord :: words) = withoutDebug words := by
        rw [withoutDebug, List.dropWhile_cons_of_pos (by simp)]
        rfl
      rw [hdrop, ih]
      exact hanswer (Run.result_run_debug (s.surroundings outlet) words).symm
    · have hkeep : withoutDebug (word :: words) = word :: words :=
        List.dropWhile_cons_of_neg (by simpa using hword)
      rw [hkeep]
      exact hanswer (Run.result_run_of_sameButLog hsame (word :: words))

/-- A step and its quiet version answer the same, and the sessions stay the same but for the log. -/
theorem sameButLog_step (h : SameButLog s s') {t u : Step} (hu : t.quiet? = some u) :
    SameButLog (s.step t).1 (s'.step u).1
      ∧ (s'.step u).2.answer.result? = (s.step t).2.answer.result? := by
  cases t with
  | write name place =>
    obtain rfl := Option.some.inj hu
    exact ⟨⟨congrArg (·.write name place) h.files, h.forbidsColor, h.columnWidth, h.pretty⟩, rfl⟩
  | remove name =>
    obtain rfl := Option.some.inj hu
    exact ⟨⟨congrArg (·.remove name) h.files, h.forbidsColor, h.columnWidth, h.pretty⟩, rfl⟩
  | environment env =>
    obtain rfl := Option.some.inj hu
    exact ⟨⟨h.files, rfl, rfl, rfl⟩, rfl⟩
  | set level columnWidth pretty =>
    obtain rfl := Option.some.inj hu
    have hwidth := congrArg columnWidth.getD h.columnWidth
    have hpretty := congrArg pretty.getD h.pretty
    refine ⟨⟨h.files, h.forbidsColor, hwidth, hpretty⟩, ?_⟩
    simp only [step, Preferences.set, Answer.result?, hwidth, hpretty]
  | configureLogging level => cases hu
  | load paths =>
    obtain rfl := Option.some.inj hu
    refine ⟨h, ?_⟩
    simp only [step, h.files]
  | main words outlet origin =>
    obtain rfl := Option.some.inj hu
    refine ⟨⟨h.files, h.forbidsColor, h.columnWidth, h.pretty⟩, ?_⟩
    rw [answer_main_withoutDebug h]

theorem sameButLog_of_loud (h : SameButLog s s') {t : Step} (ht : t.quiet? = none) :
    SameButLog (s.step t).1 s' ∧ (s.step t).2.answer.result? = none := by
  cases t with
  | configureLogging level => exact ⟨⟨h.files, h.forbidsColor, h.columnWidth, h.pretty⟩, rfl⟩
  | _ => cases ht

theorem results_runFrom_cons (s : Session) (t : Step) (ts : List Step) :
    results (s.runFrom (t :: ts)).2
      = ((s.step t).2.answer.result?).toList ++ results ((s.step t).1.runFrom ts).2 := by
  rw [runFrom, results, List.filterMap_cons]
  cases (s.step t).2.answer.result? <;> rfl

/-- A session answers what its quiet version answers. -/
theorem results_runFrom_quiet (h : SameButLog s s') (ts : List Step) :
    results (s'.runFrom (ts.filterMap Step.quiet?)).2 = results (s.runFrom ts).2 := by
  induction ts generalizing s s' with
  | nil => rfl
  | cons t ts ih =>
    cases ht : t.quiet? with
    | none =>
      -- the quiet session does nothing, and nothing is left of the answer of the other one
      obtain ⟨hsame, hanswer⟩ := sameButLog_of_loud h ht
      rw [List.filterMap_cons_none ht, results_runFrom_cons, hanswer, ih hsame]
      rfl
    | some u =>
      obtain ⟨hsame, hanswer⟩ := sameButLog_step h ht
      rw [List.filterMap_cons_some ht, results_runFrom_cons, results_runFrom_cons, hanswer, ih hsame]

theorem isSome_result?_step (s : Session) (t : Step) :
    (s.step t).2.answer.result?.isSome = t.quiet?.isSome := by
  cases t <;> rfl

/-- Every step that is more than a configuration of the log has one answer. -/
theorem length_results (s : Session) (ts : List Step) :
    (results (s.runFrom ts).2).length = (ts.filterMap Step.quiet?).length := by
  induction ts generalizing s with
  | nil => rfl
  | cons t ts ih =>
    have hsome := isSome_result?_step s t
    rw [results_runFrom_cons, List.length_append, ih]
    cases ht : t.quiet? with
    | none =>
      rw [ht, Option.isSome_none, Option.isSome_eq_false_iff, Option.isNone_iff_eq_none] at hsome
      rw [List.filterMap_cons_none ht, hsome]
      exact Nat.zero_add _
    | some u =>
      rw [ht, Option.isSome_some, Option.isSome_iff_exists] at hsome
      obtain ⟨answer, hanswer⟩ := hsome
      rw [List.filterMap_cons_some ht, hanswer, List.length_cons]
      exact Nat.add_comm 1 _

/-- **Logging does not interfere with results.** Two sessions whose steps are the same without what has to do
with the log answer the same, apart from the level of the log, and each of these steps has its answer. -/
theorem results_of_same_quiet (h : SameButLog s s') {ts us : List Step}
    (hsteps : ts.filterMap Step.quiet? = us.filterMap Step.quiet?) :
    results (s.runFrom ts).2 = results (s'.runFrom us).2
      ∧ (results (s.runFrom ts).2).length = (ts.filterMap Step.quiet?).length := by
  have hself : SameButLog s' s' := ⟨rfl, rfl, rfl, rfl⟩
  refine ⟨?_, length_results s ts⟩
  rw [← results_runFrom_quiet h, hsteps, results_runFrom_quiet hself]

/-- A session that logs everything and one that never speaks of the log. -/
theorem results_of_same_quiet_debugged :
    let file : Place := .file (Text.Utf8.encode "## one\na:".toList)
    let ts : List Step :=
      [.configureLogging "NOTSET".toList, .environment { logLevel := some "loud".toList },
        .write "a.mk".toList file, .set (some "error".toList) (some 4) none, .load ["a.mk".toList],
        .main [Run.debugWord, "a.mk".toList] .working Area.commandLineOrigin]
    let us : List Step :=
      [.environment {}, .write "a.mk".toList file, .set none (some 4) none, .load ["a.mk".toList],
        .main ["a.mk".toList] .working Area.commandLineOrigin]
    results (runFrom {} ts).2 = results (runFrom {} us).2
      ∧ (results (runFrom {} ts).2).getLast? = some (.finished (.code 0) "a   one\n".toList) := by
  intro file ts us
  have hself : SameButLog {} {} := ⟨rfl, rfl, rfl, rfl⟩
  have hsteps : ts.filterMap Step.quiet? = us.filterMap Step.quiet? := rfl
  obtain ⟨hresults, -⟩ := results_of_same_quiet hself hsteps
  let outcome := Run.run ((runFrom {} us.dropLast).1.surroundings .working) ["a.mk".toList]
  have hlast : (results (runFrom {} us).2).getLast? = some (.finished outcome.exit outcome.output) :=
    rfl
  have houtcome : outcome.result = (.code 0, "a   one\n".toList) := by decide +kernel
  obtain ⟨hexit, houtput⟩ := Prod.mk.inj houtcome
  exact ⟨hresults, by rw [hresults, hlast, hexit, houtput]⟩

end Session

end TargetDocs
