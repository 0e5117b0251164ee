/-
How a run ends.

A run that reads its command line loads the files that are named and then prints, crashes or reports one
error; what it reports before that comes from the loading and is no error. Later modules cite the cases
below and do not open the run again:

* `level_ne_error_of_mem_notices_load` — a loading reports no errors, not even its own failure;
* `run_of_reads`, `request_of_noFiles`, `request_of_files` — what a command line that is read (`Reads`)
  comes to;
* `finish_print` — printing leaves what the output took, and an error exactly if the output failed;
* `result_request_of_agree` — exit code and output depend on the effective options only, and not on how they
  came about or what is logged (`Outcome.result`, `Agree`);
* `ending_request` — the three endings of a command line that is read (`Ending`);
* `run_cases` — a run that does not come to its loading logs nothing and has another exit code than 1;
* `notices_of_failed`, `level_of_notFailed` — the runs with exit code 1 report an error, as the last of their
  notices, and the others none.
-/
import TargetDocs.Proofs.Makefile.CommentRun
import TargetDocs.Run

namespace TargetDocs

/-! ### What a loading reports -/

namespace Loading

theorem level_of_mem_fileNotices {p : Path} {t : Text} {n : Notice} (h : n ∈ fileNotices p t) :
    n.level = .debug := by
  rw [fileNotices] at h
  rcases List.mem_append.mp h with h | h
  · rcases List.mem_append.mp h with h | h
    · split at h
      · cases h
      · rw [List.mem_singleton.mp h]
        rfl
    · exact (Makefile.level_area_of_mem_notices h).1
  · rw [List.mem_singleton.mp h]
    rfl

theorem level_of_mem_notices_loadInto {read : Reader} {c : Catalogue} {ps : List Path} {n : Notice}
    (h : n ∈ (loadInto read c ps).notices) : n.level = .debug := by
  -- the catalogue grows from file to file, what is reported does not depend on it
  induction ps generalizing c with
  | nil => cases h
  | cons p ps ih =>
    cases hp : readText read p with
    | error fault =>
      rw [loadInto_cons_error hp] at h
      rw [List.mem_singleton.mp h]
      rfl
    | ok t =>
      rw [loadInto_cons_ok hp] at h
      rcases List.mem_append.mp h with h | h
      · rcases List.mem_cons.mp h with rfl | h
        · rfl
        · exact level_of_mem_fileNotices h
      · exact ih h

theorem level_ne_error_of_mem_notices_load {read : Reader} {paths : List Text} {n : Notice}
    (h : n ∈ (load read paths).notices) : n.level ≠ .error := by
  rw [level_of_mem_notices_loadInto h]
  decide

end Loading

/-- What is seen of a run apart from its log: how it ended and what it printed. -/
def Outcome.result (o : Outcome) : Exit × Text := (o.exit, o.output)

namespace Run

open CommandLine

/-! ### What a command line that is read comes to -/

/-- The command line is read as a request: the help can be written, so that there is a reader at all, and
no word is refused. -/
structure Reads (s : Surroundings) (words : List Text) (r : Request) : Prop where
  helpWritable : HelpWritable s.preferences
  parse_eq : parse words = .ok r

/-- The request names at least one file, and all files that it names are loaded into a catalogue. -/
structure Loads (s : Surroundings) (r : Request) (c : Catalogue) : Prop where
  files_ne_nil : r.files ≠ []
  load_eq : (Loading.load s.read r.files).result = .ok c

theorem run_of_reads {s : Surroundings} {words : List Text} {r : Request} (h : Reads s words r) :
    run s words = request s r :=
  run_request h.helpWritable h.parse_eq

theorem request_of_noFiles {r : Request} (h : r.files = []) (s : Surroundings) :
    request s r = finish s (logLevel s.preferences r) [] (.report .noMakefiles) := by
  rw [request, if_pos h]

theorem request_of_files {r : Request} (h : r.files ≠ []) (s : Surroundings) :
    request s r
      = finish s (logLevel s.preferences r) (Loading.load s.read r.files).notices
          (verdict s r (Loading.load s.read r.files).result) := by
  rw [request, if_neg h]

theorem level_of_verdict {s : Surroundings} {r : Request} {result : Except ReadFault Catalogue}
    {n : Notice} (h : verdict s r result = .report n) : n.level = .error := by
  cases result with
  | error fault =>
    unfold verdict at h
    split at h
    · cases h
    · cases h
      rfl
    · next hresult => cases hresult
  | ok c =>
    rw [verdict, verdictOf] at h
    split at h
    · cases h
      rfl
    · split at h <;> cases h

/-- Printing leaves what the output took. A failure of a write or of the flush is reported at the end. -/
theorem finish_print (s : Surroundings) (level : Text) (notices : List Notice) (ts : List Text) :
    finish s level notices (.print ts)
      = { exit := .code (if (print s.outlet ts).2 = none then 0 else 1)
          output := (print s.outlet ts).1
          notices := notices ++ (print s.outlet ts).2.toList
          logLevel := some level } := by
  rw [finish]
  split
  · next output h => rw [h, if_pos rfl, Option.toList_none, List.append_nil]
  · next output n h => rw [h, if_neg (Option.some_ne_none n), Option.toList_some]

/-- With a width in range there is a text for every entry. -/
theorem texts_of_inRange {s : Surroundings} {r : Request} {width : Int}
    (hwidth : columnWidth? s.preferences r.columnWidth = some width)
    (hrange : Listing.InRange width) (es : List Entry) :
    texts s r es = .ok (es.map (Listing.text (style s r width))) := by
  rw [texts, hwidth]
  dsimp only
  rw [Listing.renderAll_of_inRange (s := style s r width) hrange]
  rfl

/-! ### What a result depends on -/

theorem result_finish {s s' : Surroundings} (h : s'.outlet = s.outlet) (level level' : Text)
    (notices notices' : List Notice) (v : Verdict) :
    (finish s' level' notices' v).result = (finish s level notices v).result := by
  cases v with
  | crash c => rfl
  | report n => rfl
  | print ts =>
    rw [finish_print, finish_print, h]
    rfl

/-- Two requests in their surroundings have the same effective options, files and output. -/
structure Agree (s s' : Surroundings) (r r' : Request) : Prop where
  noColor : s'.noColor = s.noColor
  read : s'.read = s.read
  outlet : s'.outlet = s.outlet
  files : r'.files = r.files
  target : r'.target = r.target
  verbose : r'.verbose = r.verbose
  pretty : r'.pretty.getD s'.preferences.pretty = r.pretty.getD s.preferences.pretty
  columnWidth : columnWidth? s'.preferences r'.columnWidth = columnWidth? s.preferences r.columnWidth

theorem verdict_of_agree {s s' : Surroundings} {r r' : Request} (h : Agree s s' r r')
    (result : Except ReadFault Catalogue) : verdict s' r' result = verdict s r result := by
  have hstyle : ∀ width, style s' r' width = style s r width := by
    intro width
    rw [style, style, h.verbose, h.pretty, h.noColor]
  have htexts : ∀ es, texts s' r' es = texts s r es := by
    intro es
    rw [texts, texts, h.columnWidth]
    cases columnWidth? s.preferences r.columnWidth with
    | none => rfl
    | some width =>
      dsimp only
      rw [hstyle]
  have hverdict : ∀ c, verdictOf s' r' c = verdictOf s r c := by
    intro c
    simp only [verdictOf, h.target, htexts]
  unfold verdict
  split
  · rfl
  · rfl
  · exact hverdict _

theorem result_request_of_agree {s s' : Surroundings} {r r' : Request} (h : Agree s s' r r') :
    (request s' r').result = (request s r).result := by
  by_cases hfiles : r.files = []
  · rw [request_of_noFiles hfiles, request_of_noFiles (h.files.trans hfiles)]
    exact result_finish h.outlet ..
  · rw [request_of_files hfiles, request_of_files (h.files.symm ▸ hfiles), verdict_of_agree h,
      h.read, h.files]
    exact result_finish h.outlet ..

/-! ### The endings -/

theorem level_of_print {o : Outlet} {ts : List Text} {n : Notice} (h : (print o ts).2 = some n) :
    n.level = .error := by
  unfold print at h
  split at h
  · cases h
    rfl
  · obtain ⟨fault, -, rfl⟩ := Option.map_eq_some_iff.mp h
    rfl

/-- How a command line that is read ends, after the notices `earlier` of its loading. -/
inductive Ending (level : Text) (earlier : List Notice) : Outcome → Prop
  | crashed (c : Crash) :
      Ending level earlier { exit := .crash c, notices := earlier, logLevel := some level }
  | printed (output : Text) :
      Ending level earlier { exit := .code 0, output, notices := earlier, logLevel := some level }
  | failed (output : Text) (n : Notice) (h : n.level = .error) :
      Ending level earlier
        { exit := .code 1, output, notices := earlier ++ [n], logLevel := some level }

theorem Ending.complaint_eq_nil {level : Text} {earlier : List Notice} {o : Outcome}
    (h : Ending level earlier o) : o.complaint = [] := by
  cases h <;> rfl

theorem Ending.logLevel_eq {level : Text} {earlier : List Notice} {o : Outcome}
    (h : Ending level earlier o) : o.logLevel = some level := by
  cases h <;> rfl

theorem Ending.notices_of_exit {level : Text} {earlier : List Notice} {o : Outcome}
    (h : Ending level earlier o) :
    (o.exit = .code 1 → ∃ n : Notice, n.level = .error ∧ o.notices = earlier ++ [n])
      ∧ (o.exit ≠ .code 1 → o.notices = earlier) := by
  cases h with
  | crashed c => exact ⟨by simp, fun _ => rfl⟩
  | printed output => exact ⟨by simp, fun _ => rfl⟩
  | failed output n hn => exact ⟨fun _ => ⟨n, hn, rfl⟩, fun hexit => absurd rfl hexit⟩

theorem ending_finish (s : Surroundings) (level : Text) (earlier : List Notice) {v : Verdict}
    (h : ∀ n, v = .report n → n.level = .error) : Ending level earlier (finish s level earlier v) := by
  cases v with
  | crash c => exact .crashed c
  | report n => exact .failed [] n (h n rfl)
  | print ts =>
    rw [finish_print]
    cases hn : (print s.outlet ts).2 with
    | none =>
      rw [if_pos rfl, Option.toList_none, List.append_nil]
      exact .printed _
    | some n =>
      rw [if_neg (Option.some_ne_none n), Option.toList_some]
      exact .failed _ n (level_of_print hn)

/-- **The endings of a command line that is read.** -/
theorem ending_request (s : Surroundings) (r : Request) :
    ∃ earlier : List Notice, (∀ n ∈ earlier, n.level ≠ .error)
      ∧ Ending (logLevel s.preferences r) earlier (request s r) := by
  by_cases hfiles : r.files = []
  · refine ⟨[], by simp, ?_⟩
    rw [request_of_noFiles hfiles]
    refine ending_finish s _ [] fun n hn => ?_
    cases hn
    rfl
  · refine ⟨(Loading.load s.read r.files).notices,
      fun n => Loading.level_ne_error_of_mem_notices_load, ?_⟩
    rw [request_of_files hfiles]
    exact ending_finish s _ _ fun n => level_of_verdict

/-! ### Runs -/

/-- **The ways of a run.** Either its command line is read, or it logs nothing and does not end with exit
code 1; then the only complaint is that about a refused command line. -/
theorem run_cases (s : Surroundings) (words : List Text) :
    (∃ r, Reads s words r)
      ∨ (run s words).notices = [] ∧ (run s words).logLevel = none
        ∧ (run s words).exit ≠ .code 1
        ∧ ((run s words).complaint = []
          ∨ ∃ fault, parse words = .error (.refused fault) ∧ (run s words).complaint = refusal fault) := by
  by_cases hs : HelpWritable s.preferences
  · cases hwords : parse words with
    | ok r => exact Or.inl ⟨r, hs, hwords⟩
    | error stop =>
      right
      cases stop with
      | help =>
        rw [run_help hs hwords]
        exact ⟨rfl, rfl, by simp [help], Or.inl rfl⟩
      | refused fault =>
        rw [run_refused hs hwords]
        exact ⟨rfl, rfl, by simp [refuse], Or.inr ⟨fault, rfl, rfl⟩⟩
  · right
    rw [run, if_neg hs]
    exact ⟨rfl, rfl, by simp, Or.inl rfl⟩

/-- A run that fails has read its command line, and its last report is its only error. -/
theorem notices_of_failed {s : Surroundings} {words : List Text}
    (h : (run s words).exit = .code 1) :
    ∃ r earlier n, Reads s words r ∧ (run s words).notices = earlier ++ [n]
      ∧ n.level = .error ∧ ∀ m ∈ earlier, m.level ≠ .error := by
  rcases run_cases s words with ⟨r, hreads⟩ | ⟨-, -, hexit, -⟩
  · obtain ⟨earlier, hearlier, hending⟩ := ending_request s r
    rw [← run_of_reads hreads] at hending
    obtain ⟨n, hn, hnotices⟩ := hending.notices_of_exit.1 h
    exact ⟨r, earlier, n, hreads, hnotices, hn, hearlier⟩
  · exact absurd h hexit

/-- A run that does not fail reports no error. -/
theorem level_of_notFailed {s : Surroundings} {words : List Text}
    (h : (run s words).exit ≠ .code 1) : ∀ n ∈ (run s words).notices, n.level ≠ .error := by
  intro n hn
  rcases run_cases s words with ⟨r, hreads⟩ | ⟨hnil, -⟩
  · obtain ⟨earlier, hearlier, hending⟩ := ending_request s r
    rw [← run_of_reads hreads] at hending
    exact hearlier n (hending.notices_of_exit.2 h ▸ hn)
  · rw [hnil] at hn
    cases hn

end Run

end TargetDocs
