/-
What a session writes to its log.

However often logging is configured and whatever level is asked for, a session has at most one handler, and
errors reach it. So each record that counts is written once, and a run that fails says so in its last
line:

* `Sink.settled_configure`, `settled_step`, `settled_runFrom` — the invariant of the sink (`Sink.Settled`), for
  one step and for all that a session can come to;
* `Sink.write_of_settled` — such a sink writes one line for each record that counts (`Sink.kept`);
* `errorOutput_step` — so does every step, apart from the complaint about a command line that is refused;
* `log_of_failed_main`, `records_of_successful_main` — errors are written by the runs that fail, one each;
* `session_log` — all of it for the sessions that begin without a configured log.
-/
import TargetDocs.Proofs.Run.Ending
import TargetDocs.Session

namespace TargetDocs

namespace Sink

/-- Logging is not configured yet, or there is one handler, and errors reach it. -/
def Settled (k : Sink) : Prop :=
  k = .initial ∨ k.handlers = 1 ∧ k.threshold ≤ Level.error.number

/-- A record counts from the threshold on, before there is a handler from warnings on. -/
def keeps (k : Sink) (r : Record) : Bool :=
  decide ((if k.handlers = 0 then Level.warning.number else k.threshold) ≤ r.level.number)

/-- The records that count. -/
def kept (k : Sink) (rs : List Record) : List Record := rs.filter k.keeps

/-- The line of a record, which is bare before there is a handler. -/
def line (k : Sink) (r : Record) : Text :=
  if k.handlers = 0 then r.message ++ ['\n'] else formatted r

theorem handlers_le_of_settled {k : Sink} (h : k.Settled) : k.handlers ≤ 1 := by
  rcases h with rfl | ⟨hone, -⟩
  · exact Nat.zero_le 1
  · exact Nat.le_of_eq hone

theorem threshold_le_of_settled {k : Sink} (h : k.Settled) : k.threshold ≤ Level.error.number := by
  rcases h with rfl | ⟨-, hle⟩
  · show Level.warning.number ≤ Level.error.number
    decide
  · exact hle

theorem settled_configure {k : Sink} (h : k.Settled) (name : Text) : (k.configure name).Settled :=
  Or.inr ⟨handlers_configure (handlers_le_of_settled h) name, threshold_configure_le k name⟩

theorem lines_of_settled {k : Sink} (h : k.Settled) (r : Record) :
    k.lines r = if k.keeps r then [k.line r] else [] := by
  rcases h with rfl | ⟨hone, -⟩
  -- without a handler a record of the level of warnings or above is written bare
  · cases hr : r.level <;> simp [lines, keeps, line, initial, hr, Level.number]
  · by_cases hr : r.level.number < k.threshold
    · simp [lines, keeps, hone, hr]
    · simp [lines, keeps, line, hone, hr, Nat.not_lt.mp hr]

/-- One line for each record that counts, in the order of the records. -/
theorem write_of_settled {k : Sink} (h : k.Settled) (rs : List Record) :
    k.write rs = ((k.kept rs).map k.line).flatten := by
  have hlines : rs.flatMap k.lines = (k.kept rs).map k.line := by
    induction rs with
    | nil => rfl
    | cons r rs ih =>
      rw [List.flatMap_cons, ih, lines_of_settled h, kept, kept, List.filter_cons]
      split <;> rfl
  rw [write, hlines]

/-- A sink with a handler that errors reach keeps an error. -/
theorem kept_concat_error {k : Sink} (h : k.handlers = 1 ∧ k.threshold ≤ Level.error.number)
    (rs : List Record) {e : Record} (he : e.level = .error) :
    k.kept (rs ++ [e]) = k.kept rs ++ [e] := by
  have hkeeps : k.keeps e = true := by
    rw [keeps, h.1, if_neg Nat.one_ne_zero, he]
    exact decide_eq_true h.2
  rw [kept, kept, List.filter_append, List.filter_cons, if_pos hkeeps, List.filter_nil]

theorem line_of_handler {k : Sink} (h : k.handlers = 1) : k.line = formatted := by
  funext r
  rw [line, h, if_neg Nat.one_ne_zero]

end Sink

namespace Session

/-! ### The sink of a session -/

theorem settled_step {s : Session} (h : s.sink.Settled) (t : Step) : (s.step t).1.sink.Settled := by
  rcases sink_step s t with heq | ⟨level, heq⟩
  · rw [heq]
    exact h
  · rw [heq]
    exact Sink.settled_configure h level

theorem settled_runFrom {s : Session} (h : s.sink.Settled) (ts : List Step) :
    (s.runFrom ts).1.sink.Settled := by
  induction ts generalizing s with
  | nil => exact h
  | cons t ts ih => exact ih (settled_step h t)

/-! ### Steps -/

variable {s : Session} {words : List Text} {outlet : Outlet} {origin : Text}

theorem step_main_of_reads {r : CommandLine.Request} (h : Run.Reads (s.surroundings outlet) words r)
    (origin : Text) :
    s.step (.main words outlet origin)
      = ({ s with sink := s.sink.configure (Run.logLevel s.preferences r) },
          { answer := .finished (Run.run (s.surroundings outlet) words).exit
              (Run.run (s.surroundings outlet) words).output
            records := (Run.run (s.surroundings outlet) words).notices.map (·.record origin)
            errorOutput := (s.sink.configure (Run.logLevel s.preferences r)).write
              ((Run.run (s.surroundings outlet) words).notices.map (·.record origin)) }) := by
  obtain ⟨earlier, -, hending⟩ := Run.ending_request (s.surroundings outlet) r
  rw [← Run.run_of_reads h] at hending
  rw [step, runMain, hending.logLevel_eq, hending.complaint_eq_nil]
  rfl

/-- Every step writes the records that count, once each. Before them comes at most the complaint about a
command line that is refused. -/
theorem errorOutput_step (h : s.sink.Settled) (t : Step) :
    ∃ complaint : Text,
      (s.step t).2.errorOutput = complaint
          ++ (((s.step t).1.sink.kept (s.step t).2.records).map (s.step t).1.sink.line).flatten
        ∧ (complaint = [] ∨ ∃ words outlet origin fault, t = .main words outlet origin
          ∧ CommandLine.parse words = .error (.refused fault)
          ∧ complaint = CommandLine.refusal fault) := by
  cases t with
  | write name place => exact ⟨[], rfl, Or.inl rfl⟩
  | remove name => exact ⟨[], rfl, Or.inl rfl⟩
  | environment env => exact ⟨[], Sink.write_of_settled h _, Or.inl rfl⟩
  | set logLevel columnWidth pretty => exact ⟨[], rfl, Or.inl rfl⟩
  | configureLogging level => exact ⟨[], rfl, Or.inl rfl⟩
  | load paths => exact ⟨[], Sink.write_of_settled h _, Or.inl rfl⟩
  | main words outlet origin =>
    refine ⟨(Run.run (s.surroundings outlet) words).complaint, ?_, ?_⟩
    · rw [← Sink.write_of_settled (settled_step h (.main words outlet origin))]
      rfl
    · rcases Run.run_cases (s.surroundings outlet) words with
        ⟨r, hreads⟩ | ⟨-, -, -, hnil | ⟨fault, hparse, hcomplaint⟩⟩
      · obtain ⟨earlier, -, hending⟩ := Run.ending_request (s.surroundings outlet) r
        rw [Run.run_of_reads hreads]
        exact Or.inl hending.complaint_eq_nil
      · exact Or.inl hnil
      · exact Or.inr ⟨words, outlet, origin, fault, rfl, hparse, hcomplaint⟩

/-- A run that fails has one error to report, as the last of its records, and its last line says so. -/
theorem log_of_failed_main (h : s.sink.Settled) {output : Text}
    (hanswer : (s.step (.main words outlet origin)).2.answer = .finished (.code 1) output) :
    ∃ earlier e, (s.step (.main words outlet origin)).1.sink.kept
          (s.step (.main words outlet origin)).2.records = earlier ++ [e]
      ∧ e.level = .error ∧ (∀ q ∈ earlier, q.level ≠ .error)
      ∧ (s.step (.main words outlet origin)).2.errorOutput
        = ((earlier ++ [e]).map Sink.formatted).flatten := by
  have hexit : (Run.run (s.surroundings outlet) words).exit = .code 1 :=
    (Answer.finished.inj hanswer).1
  obtain ⟨r, earlier, n, hreads, hnotices, hn, hearlier⟩ := Run.notices_of_failed hexit
  have hhandler : (s.sink.configure (Run.logLevel s.preferences r)).handlers = 1 :=
    Sink.handlers_configure (Sink.handlers_le_of_settled h) _
  -- the run configures logging first, so its error is kept whatever level is asked for
  have hkept := Sink.kept_concat_error
    ⟨hhandler, Sink.threshold_configure_le s.sink (Run.logLevel s.preferences r)⟩
    (earlier.map (·.record origin)) (e := n.record origin) hn
  have hrecords : (earlier ++ [n]).map (·.record origin)
      = earlier.map (·.record origin) ++ [n.record origin] := List.map_append
  rw [step_main_of_reads hreads, hnotices, hrecords]
  refine ⟨_, _, hkept, hn, fun q hq => ?_, ?_⟩
  · obtain ⟨m, hm, rfl⟩ := List.mem_map.mp (List.mem_filter.mp hq).1
    exact hearlier m hm
  · rw [Sink.write_of_settled (Sink.settled_configure h _), hkept, Sink.line_of_handler hhandler]

/-- A run that does not fail has no error to report. -/
theorem records_of_successful_main {exit : Exit} {output : Text}
    (hanswer : (s.step (.main words outlet origin)).2.answer = .finished exit output)
    (hexit : exit ≠ .code 1) :
    ∀ q ∈ (s.step (.main words outlet origin)).2.records, q.level ≠ .error := by
  intro q hq
  obtain ⟨n, hn, rfl⟩ := List.mem_map.mp hq
  obtain rfl : (Run.run (s.surroundings outlet) words).exit = exit := (Answer.finished.inj hanswer).1
  exact Run.level_of_notFailed hexit n hn

/-- **What a session writes to its log.** Whatever a session has done before, there is at most one handler
and the threshold is at most that of errors; a step writes the records that count, each once and in their
order, after at most the complaint about a command line that is refused; the last line of a run with exit
code 1 is that of its only error, and a run with exit code 0 has none. -/
theorem session_log (files : FileTree) (environment : Environment) (preferences : Preferences)
    (ts : List Step) :
    let s := (runFrom { files, environment, preferences, sink := .initial } ts).1
    s.sink.handlers ≤ 1 ∧ s.sink.threshold ≤ Level.error.number
      ∧ (∀ t, ∃ complaint : Text,
        (s.step t).2.errorOutput = complaint
            ++ (((s.step t).1.sink.kept (s.step t).2.records).map (s.step t).1.sink.line).flatten
          ∧ (complaint = [] ∨ ∃ words outlet origin fault, t = .main words outlet origin
            ∧ CommandLine.parse words = .error (.refused fault)
            ∧ complaint = CommandLine.refusal fault))
      ∧ ∀ words outlet origin output,
        ((s.step (.main words outlet origin)).2.answer = .finished (.code 1) output →
          ∃ earlier e, (s.step (.main words outlet origin)).1.sink.kept
                (s.step (.main words outlet origin)).2.records = earlier ++ [e]
            ∧ e.level = .error ∧ (∀ q ∈ earlier, q.level ≠ .error)
            ∧ (s.step (.main words outlet origin)).2.errorOutput
              = ((earlier ++ [e]).map Sink.formatted).flatten)
        ∧ ((s.step (.main words outlet origin)).2.answer = .finished (.code 0) output →
          ∀ q ∈ (s.step (.main words outlet origin)).2.records, q.level ≠ .error) := by
  intro s
  have hsettled : s.sink.Settled := settled_runFrom (Or.inl rfl) ts
  refine ⟨Sink.handlers_le_of_settled hsettled, Sink.threshold_le_of_settled hsettled,
    errorOutput_step hsettled, fun words outlet origin output => ⟨?_, ?_⟩⟩
  · exact log_of_failed_main hsettled
  · exact fun hanswer => records_of_successful_main hanswer (by simp)

/-- Logging is configured twice, for everything and for a level above errors, and the level that is set is
none. -/
theorem session_log_unknown_level :
    let ts : List Step :=
      [.configureLogging "NOTSET".toList, .set (some "loud".toList) none none,
        .configureLogging "CRITICAL".toList]
    let s := (runFrom {} ts).1
    (s.step (.main [] .working Area.commandLineOrigin)).2.answer = .finished (.code 1) []
      ∧ (s.step (.main [] .working Area.commandLineOrigin)).2.errorOutput
        = "makedoc.cli - ERROR - no makefiles provided for parsing\n".toList := by
  intro ts s
  have hreads : Run.Reads (s.surroundings .working) [] {} := ⟨by decide +kernel, rfl⟩
  have hanswer : (s.step (.main [] .working Area.commandLineOrigin)).2.answer
      = .finished (.code 1) [] := by
    rw [step_main_of_reads hreads, Run.run_of_reads hreads, Run.request_of_noFiles rfl]
    rfl
  obtain ⟨-, -, -, hmain⟩ := session_log ⟨[]⟩ {} {} ts
  obtain ⟨earlier, e, hkept, -, -, herror⟩ :=
    (hmain [] .working Area.commandLineOrigin []).1 hanswer
  have hrecords : earlier ++ [e] = [Notice.noMakefiles.record] :=
    hkept.symm.trans (by decide +kernel)
  rw [hrecords] at herror
  exact ⟨hanswer, herror⟩

end Session

end TargetDocs
