/-
The exit code of a run.

A run that reads its command line shows what it is asked for, fails with a report, or crashes. Which of the
three it is follows from the files, the options and the output:

* `exit_of_success`, `exit_of_failure`, `exit_of_crashCause` — what each of them leads to (`Succeeds`, `Failure`,
  `CrashCause`);
* `succeeds_or_failure_or_crashCause` — one of them is the case;
* `read_eq_nullCharacter_iff` — the paths that a tree of files cannot even look for;
* `helpWritable_ofEnvironment` — preferences from an environment never get in the way of the help;
* `run_exits` — so every run in an environment ends with an exit code, but for those with a cause to crash;
* `run_exits_width_out_of_range` — one of the latter.
-/
import TargetDocs.Proofs.Loading.FirstFailure
import TargetDocs.Proofs.Text.Decimal

namespace TargetDocs

/-! ### Paths with a null character -/

theorem FileTree.follow_ne_nullCharacter (tree : FileTree) (spot : Spot) (names : List Text) :
    tree.follow spot names ≠ .error .nullCharacter := by
  induction names generalizing spot with
  | nil =>
    rw [FileTree.follow]
    split <;> simp
  | cons name names ih =>
    rw [FileTree.follow]
    split
    · simp
    · simp
    · exact ih _

theorem FileTree.read_eq_nullCharacter_iff (tree : FileTree) (path : Text) :
    tree.read (Path.ofText path) = .error .nullCharacter ↔ '\x00' ∈ path := by
  rw [← Path.mem_names_ofText_iff (c := '\x00') (by decide) (by decide), FileTree.read]
  by_cases hnull : (Path.ofText path).names.any (·.contains '\x00')
  · rw [if_pos hnull]
    simpa using hnull
  · have hnone : ¬ ∃ n ∈ (Path.ofText path).names, '\x00' ∈ n := by simpa using hnull
    rw [if_neg hnull]
    refine iff_of_false ?_ hnone
    split
    · simp
    · simp
    · next fault hfault =>
      rintro ⟨⟩
      exact tree.follow_ne_nullCharacter _ _ hfault

theorem readText_eq_error_file_iff {read : Reader} {p q : Path} {fault : FileFault} :
    readText read p = .error (.file q fault) ↔ p = q ∧ read p = .error fault := by
  unfold readText
  split
  · next fault' h => simp [h]
  · next bytes h =>
    split <;> simp [h]

/-! ### Preferences from an environment -/

theorem Run.helpWritable_ofEnvironment (env : Environment) :
    Run.HelpWritable (Preferences.ofEnvironment env) := by
  have hdefault : (Text.decimal Listing.defaultWidth.natAbs).length ≤ Text.maxDigits := by decide
  show (Text.decimal (Preferences.readColumnWidth env.columnWidth).1.natAbs).length ≤ Text.maxDigits
  unfold Preferences.readColumnWidth
  split
  · exact hdefault
  · split
    · next value n hn => exact Text.length_decimal_of_readInt (Text.readInt_of_readWidth hn)
    · exact hdefault
    · exact hdefault

namespace Run

open CommandLine

variable {s : Surroundings} {r : Request} {words : List Text}

/-! ### What a request comes to -/

/-- What is asked for is there and can be printed. -/
def Succeeds (s : Surroundings) (r : Request) : Prop :=
  ∃ c es ts, Loads s r c ∧ selection r.target c = some es ∧ texts s r es = .ok ts
    ∧ (print s.outlet ts).2 = none

/-- What keeps a run from it, with the notice that says so. -/
inductive Failure (s : Surroundings) (r : Request) : Notice → Prop
  | noFiles (h : r.files = []) : Failure s r .noMakefiles
  | unreadable {before : List (Path × Text)} {p : Path} {fault : ReadFault}
      (h : Loading.FirstFailure s.read (r.files.map Path.ofText) before p fault)
      (hfault : fault ≠ .file p .nullCharacter) : Failure s r (.loadFailed fault)
  | noSuchTarget {c : Catalogue} (hloads : Loads s r c) (htarget : r.target ≠ [])
      (h : c.get? r.target = none) : Failure s r (.noSuchTarget r.target)
  | output {c : Catalogue} {es : List Entry} {ts : List Text} {n : Notice} (hloads : Loads s r c)
      (hselection : selection r.target c = some es) (htexts : texts s r es = .ok ts)
      (h : (print s.outlet ts).2 = some n) : Failure s r n

/-- What a run does not expect: a path with a null character as the first one that cannot be read, or, when
there is something to print, a width of the column that is out of range or has no value. -/
inductive CrashCause (s : Surroundings) (r : Request) : Crash → Prop
  | nullCharacter {before : List (Path × Text)} {p : Path}
      (h : Loading.FirstFailure s.read (r.files.map Path.ofText) before p (.file p .nullCharacter)) :
      CrashCause s r .nullCharacter
  | widthOutOfRange {c : Catalogue} {es : List Entry} {width : Int} (hloads : Loads s r c)
      (hselection : selection r.target c = some es) (hne : es ≠ [])
      (hwidth : columnWidth? s.preferences r.columnWidth = some width)
      (hrange : ¬ Listing.InRange width) : CrashCause s r (.render .widthOutOfRange)
  | widthMissing {c : Catalogue} {es : List Entry} (hloads : Loads s r c)
      (hselection : selection r.target c = some es) (hne : es ≠ [])
      (hwidth : r.columnWidth = .missing) : CrashCause s r .widthMissing

theorem texts_of_not_inRange {es : List Entry} {width : Int} (hne : es ≠ [])
    (hwidth : columnWidth? s.preferences r.columnWidth = some width)
    (hrange : ¬ Listing.InRange width) : texts s r es = .error (.render .widthOutOfRange) := by
  rw [texts, hwidth]
  dsimp only
  rw [Listing.renderAll_of_not_inRange (s := style s r width) hrange hne]
  rfl

theorem texts_of_missing {es : List Entry} (hne : es ≠ []) (hwidth : r.columnWidth = .missing) :
    texts s r es = .error .widthMissing := by
  rw [texts, hwidth]
  exact if_neg hne

/-- The texts of entries are there, or there is one of the two reasons to crash. -/
theorem texts_cases (s : Surroundings) (r : Request) (es : List Entry) :
    (∃ ts, texts s r es = .ok ts)
      ∨ es ≠ [] ∧ ((∃ width, columnWidth? s.preferences r.columnWidth = some width
          ∧ ¬ Listing.InRange width) ∨ r.columnWidth = .missing) := by
  by_cases hne : es = []
  · subst hne
    left
    unfold texts
    split
    · exact ⟨[], rfl⟩
    · exact ⟨[], rfl⟩
  · cases hwidth : columnWidth? s.preferences r.columnWidth with
    | none =>
      refine Or.inr ⟨hne, Or.inr ?_⟩
      cases hchoice : r.columnWidth with
      | preferred => rw [hchoice] at hwidth; cases hwidth
      | columns n => rw [hchoice] at hwidth; cases hwidth
      | missing => rfl
    | some width =>
      by_cases hrange : Listing.InRange width
      · exact Or.inl ⟨_, texts_of_inRange hwidth hrange es⟩
      · exact Or.inr ⟨hne, Or.inl ⟨width, rfl, hrange⟩⟩

theorem succeeds_or_failure_or_crashCause (s : Surroundings) (r : Request) :
    Succeeds s r ∨ (∃ n, Failure s r n) ∨ ∃ c, CrashCause s r c := by
  by_cases hfiles : r.files = []
  · exact Or.inr (Or.inl ⟨_, .noFiles hfiles⟩)
  cases hload : (Loading.load s.read r.files).result with
  | error fault =>
    obtain ⟨before, p, h⟩ := Loading.result_load_eq_error_iff.mp hload
    by_cases hfault : fault = .file p .nullCharacter
    · subst hfault
      exact Or.inr (Or.inr ⟨_, .nullCharacter h⟩)
    · exact Or.inr (Or.inl ⟨_, .unreadable h hfault⟩)
  | ok c =>
    have hloads : Loads s r c := ⟨hfiles, hload⟩
    cases hselection : selection r.target c with
    | none =>
      have htarget : r.target ≠ [] := by
        intro hnil
        rw [selection, if_pos hnil] at hselection
        cases hselection
      rw [selection, if_neg htarget, Option.map_eq_none_iff] at hselection
      exact Or.inr (Or.inl ⟨_, .noSuchTarget hloads htarget hselection⟩)
    | some es =>
      rcases texts_cases s r es with ⟨ts, hts⟩ | ⟨hne, ⟨width, hwidth, hrange⟩ | hwidth⟩
      · cases hprint : (print s.outlet ts).2 with
        | none => exact Or.inl ⟨c, es, ts, hloads, hselection, hts, hprint⟩
        | some n => exact Or.inr (Or.inl ⟨n, .output hloads hselection hts hprint⟩)
      · exact Or.inr (Or.inr ⟨_, .widthOutOfRange hloads hselection hne hwidth hrange⟩)
      · exact Or.inr (Or.inr ⟨_, .widthMissing hloads hselection hne hwidth⟩)

/-! ### What each of them leads to -/

theorem selection_of_get?_eq_none {target : Text} {c : Catalogue} (htarget : target ≠ [])
    (h : c.get? target = none) : selection target c = none := by
  rw [selection, if_neg htarget, h]
  rfl

theorem verdictOf_of_texts {c : Catalogue} {es : List Entry} {ts : List Text}
    (hselection : selection r.target c = some es) (htexts : texts s r es = .ok ts) :
    verdictOf s r c = .print ts := by
  rw [verdictOf, hselection]
  dsimp only
  rw [htexts]

theorem verdictOf_of_crash {c : Catalogue} {es : List Entry} {crash : Crash}
    (hselection : selection r.target c = some es) (htexts : texts s r es = .error crash) :
    verdictOf s r c = .crash crash := by
  rw [verdictOf, hselection]
  dsimp only
  rw [htexts]

theorem request_of_loads {c : Catalogue} (h : Loads s r c) :
    request s r = finish s (logLevel s.preferences r) (Loading.load s.read r.files).notices
      (verdictOf s r c) := by
  rw [request_of_files h.files_ne_nil, h.load_eq, verdict]

theorem exit_of_crashCause {c : Crash} (h : CrashCause s r c) : (request s r).exit = .crash c := by
  cases h with
  | nullCharacter h => rw [Loading.request_of_firstFailure h, verdict, finish]
  | widthOutOfRange hloads hselection hne hwidth hrange =>
    rw [request_of_loads hloads,
      verdictOf_of_crash hselection (texts_of_not_inRange hne hwidth hrange), finish]
  | widthMissing hloads hselection hne hwidth =>
    rw [request_of_loads hloads, verdictOf_of_crash hselection (texts_of_missing hne hwidth), finish]

/-- A failed run has exit code 1, and its last notice is the one error that it reports. -/
theorem exit_of_failure {n : Notice} (h : Failure s r n) :
    (request s r).exit = .code 1 ∧ n.level = .error
      ∧ ∃ earlier, (request s r).notices = earlier ++ [n] ∧ ∀ m ∈ earlier, m.level ≠ .error := by
  have hearlier : ∀ m ∈ (Loading.load s.read r.files).notices, m.level ≠ .error :=
    fun m => Loading.level_ne_error_of_mem_notices_load
  cases h with
  | noFiles h =>
    rw [request_of_noFiles h]
    exact ⟨rfl, rfl, [], rfl, by simp⟩
  | @unreadable _ _ fault h hfault =>
    have hnull : ∀ q, fault ≠ .file q .nullCharacter := by
      rintro q rfl
      obtain ⟨rfl, -⟩ := readText_eq_error_file_iff.mp h.readText_eq_error
      exact hfault rfl
    rw [Loading.request_of_firstFailure h, Loading.verdict_of_fault hnull]
    exact ⟨rfl, rfl, _, rfl, hearlier⟩
  | noSuchTarget hloads htarget h =>
    have hselection := selection_of_get?_eq_none htarget h
    rw [request_of_loads hloads, verdictOf, hselection]
    exact ⟨rfl, rfl, _, rfl, hearlier⟩
  | output hloads hselection htexts h =>
    rw [request_of_loads hloads, verdictOf_of_texts hselection htexts, finish_print, h]
    exact ⟨rfl, level_of_print h, _, rfl, hearlier⟩

theorem exit_of_success (h : Succeeds s r) :
    (request s r).exit = .code 0 ∧ ∀ m ∈ (request s r).notices, m.level ≠ .error := by
  obtain ⟨c, es, ts, hloads, hselection, htexts, h⟩ := h
  have hearlier : ∀ m ∈ (Loading.load s.read r.files).notices, m.level ≠ .error :=
    fun m => Loading.level_ne_error_of_mem_notices_load
  rw [request_of_loads hloads, verdictOf_of_texts hselection htexts, finish_print, h,
    Option.toList_none, List.append_nil]
  exact ⟨rfl, hearlier⟩

/-! ### Runs -/

/-- **How runs end.** In an environment, and whatever the files and the output are, the help has exit code
0 and a refused command line 2. A command line that is read has exit code 0 exactly if the run succeeds,
and then no error is reported; exit code 1 exactly if it fails, and then the failure is reported as the last
notice and the only error; and no exit code exactly if there is a cause to crash. These are all
the ends that a run has here; that memory runs out, as it may for a very large width, and paths with
lone surrogates, which no `Char` is, are not part of the program. The null character is the one that no
path may hold. -/
theorem run_exits (env : Environment) (tree : FileTree) (outlet : Outlet) (words : List Text) :
    let s : Surroundings :=
      { preferences := .ofEnvironment env, noColor := env.forbidsColor, read := tree.read, outlet }
    (parse words = .error .help → (run s words).exit = .code 0)
      ∧ (∀ fault, parse words = .error (.refused fault) → (run s words).exit = .code 2)
      ∧ (∀ r, parse words = .ok r →
        (Succeeds s r ∨ (∃ n, Failure s r n) ∨ ∃ c, CrashCause s r c)
        ∧ ((run s words).exit = .code 0 ↔ Succeeds s r)
        ∧ (Succeeds s r → ∀ m ∈ (run s words).notices, m.level ≠ .error)
        ∧ ((run s words).exit = .code 1 ↔ ∃ n, Failure s r n)
        ∧ (∀ n, Failure s r n → n.level = .error
          ∧ ∃ earlier, (run s words).notices = earlier ++ [n] ∧ ∀ m ∈ earlier, m.level ≠ .error)
        ∧ ∀ c, (run s words).exit = .crash c ↔ CrashCause s r c)
      ∧ ∀ path, s.read (Path.ofText path) = .error .nullCharacter ↔ '\x00' ∈ path := by
  intro s
  have hs : HelpWritable s.preferences := helpWritable_ofEnvironment env
  refine ⟨fun h => ?_, fun fault h => ?_, fun r h => ?_, tree.read_eq_nullCharacter_iff⟩
  · rw [run_help hs h]
    rfl
  · rw [run_refused hs h]
    rfl
  · rw [run_request hs h]
    have hcases := succeeds_or_failure_or_crashCause s r
    -- the three have different ends, so each end tells which of them it was
    refine ⟨hcases, ⟨fun hexit => ?_, fun hsuccess => (exit_of_success hsuccess).1⟩,
      fun hsuccess => (exit_of_success hsuccess).2,
      ⟨fun hexit => ?_, fun ⟨n, hn⟩ => (exit_of_failure hn).1⟩,
      fun n hn => (exit_of_failure hn).2, fun c => ⟨fun hexit => ?_, exit_of_crashCause⟩⟩
    all_goals
      rcases hcases with hsuccess | ⟨n, hn⟩ | ⟨c', hc'⟩
    · exact hsuccess
    · exact absurd (hexit.symm.trans (exit_of_failure hn).1) (by simp)
    · exact absurd (hexit.symm.trans (exit_of_crashCause hc')) (by simp)
    · exact absurd (hexit.symm.trans (exit_of_success hsuccess).1) (by simp)
    · exact ⟨n, hn⟩
    · exact absurd (hexit.symm.trans (exit_of_crashCause hc')) (by simp)
    · exact absurd (hexit.symm.trans (exit_of_success hsuccess).1) (by simp)
    · exact absurd (hexit.symm.trans (exit_of_failure hn).1) (by simp)
    · obtain rfl := Exit.crash.inj (hexit.symm.trans (exit_of_crashCause hc'))
      exact hc'

/-- Not every run ends with an exit code: the width is one more than a machine word holds. -/
theorem run_exits_width_out_of_range :
    ¬ ∀ (env : Environment) (tree : FileTree) (outlet : Outlet) (words : List Text),
      let s : Surroundings :=
        { preferences := .ofEnvironment env, noColor := env.forbidsColor, read := tree.read, outlet }
      ∃ n, (run s words).exit = .code n := by
  intro h
  let tree : FileTree :=
    (⟨[]⟩ : FileTree).write "a.mk".toList (.file (Text.Utf8.encode "## one\nx:".toList))
  let words := ["--column-width".toList, "9223372036854775808".toList, "a.mk".toList]
  let s : Surroundings :=
    { preferences := .ofEnvironment {}, noColor := Environment.forbidsColor {}, read := tree.read }
  have hcrash : (run s words).exit = .crash (.render .widthOutOfRange) := by decide +kernel
  obtain ⟨n, hn⟩ := h {} tree .working words
  exact absurd (hn.symm.trans hcrash) (by simp)

end Run

end TargetDocs
