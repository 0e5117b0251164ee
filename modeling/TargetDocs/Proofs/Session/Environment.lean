/-
What reading the environment leaves behind.

The preferences that are read do not remember the ones before, whatever a session has set them to, and
they can always be used. Which values are rejected is said apart from the readers (`RejectsLevel`,
`RejectsWidth`), and so is what is logged about them (`Warns`):

* `number?_isSome_iff` — a level is known if its name is listed;
* `warns_readLogLevel`, `warns_readColumnWidth` — one warning for each value that is rejected;
* `ofEnvironment_of_rejectsLevel`, `ofEnvironment_of_rejectsWidth` — such a value is as good as none;
* `environment_gives_usable_preferences` — all of it for the sessions that read an environment in the end.
-/
import TargetDocs.Proofs.Text.Numeral
import TargetDocs.Session

namespace TargetDocs

theorem Level.number?_isSome_iff {name : Text} :
    (Level.number? name).isSome ↔ name ∈ Level.known.map Prod.fst := by
  rw [number?, List.lookup_isSome_iff, List.mem_map]
  constructor
  · rintro ⟨p, hp, heq⟩
    exact ⟨p, hp, (eq_of_beq heq).symm⟩
  · rintro ⟨p, hp, rfl⟩
    exact ⟨p, hp, beq_self_eq_true p.1⟩

namespace Session

/-- The capitals of the text are no name of a level. -/
def RejectsLevel (value : Text) : Prop := Text.upper value ∉ Level.known.map Prod.fst

/-- The text does not write a positive number. -/
def RejectsWidth (value : Text) : Prop := ∀ n, ¬ Text.WritesWidth value n

/-- The records that reading a variable leaves: a warning about the value if it is rejected. -/
inductive Warns (name : String) (rejects : Text → Prop) : Option Text → List Record → Prop
  | unset : Warns name rejects none []
  | accepted {value : Text} (h : ¬ rejects value) : Warns name rejects (some value) []
  | rejected {value : Text} (h : rejects value) (reason : Text) :
    Warns name rejects (some value) [⟨.warning, "makedoc.settings".toList,
      "Ignoring ".toList ++ name.toList ++ '=' :: Text.quoted value ++ ": ".toList ++ reason⟩]

section Readers

open Preferences

variable {value : Text}

theorem readLogLevel_of_rejected (h : RejectsLevel value) :
    readLogLevel (some value) = (defaultLogLevel, [.unknownLevel value]) := by
  rw [RejectsLevel, ← Level.number?_isSome_iff] at h
  exact if_neg h

theorem readLogLevel_of_accepted (h : ¬ RejectsLevel value) :
    readLogLevel (some value) = (Text.upper value, []) := by
  rw [RejectsLevel, not_not, ← Level.number?_isSome_iff] at h
  exact if_pos h

theorem warns_readLogLevel (value : Option Text) :
    Warns "MAKEDOC_LOG_LEVEL" RejectsLevel value ((readLogLevel value).2.map (·.record)) := by
  cases value with
  | none => exact .unset
  | some v =>
    by_cases hv : RejectsLevel v
    · rw [readLogLevel_of_rejected hv]
      exact .rejected hv "unknown logging level".toList
    · rw [readLogLevel_of_accepted hv]
      exact .accepted hv

theorem readColumnWidth_of_writesWidth {n : Int} (h : Text.WritesWidth value n) :
    readColumnWidth (some value) = (n, []) := by
  rw [readColumnWidth, Text.readWidth_eq_ok_iff.mpr h]

/-- Why a width is rejected makes no difference. -/
theorem readColumnWidth_of_rejected (h : RejectsWidth value) :
    (readColumnWidth (some value)).1 = Listing.defaultWidth := by
  cases hread : readWidth value with
  | ok n => exact absurd (Text.readWidth_eq_ok_iff.mp hread) (h n)
  | error fault =>
    rw [readColumnWidth, hread]
    cases fault <;> rfl

theorem warns_readColumnWidth (value : Option Text) :
    Warns "MAKEDOC_COLUMN_WIDTH" RejectsWidth value ((readColumnWidth value).2.map (·.record)) := by
  cases value with
  | none => exact .unset
  | some v =>
    cases hv : readWidth v with
    | ok n =>
      have hwrites : Text.WritesWidth v n := Text.readWidth_eq_ok_iff.mp hv
      rw [readColumnWidth_of_writesWidth hwrites]
      exact .accepted fun hrejects => hrejects n hwrites
    | error fault =>
      have hrejects : RejectsWidth v := fun n hn => by
        rw [Text.readWidth_eq_ok_iff.mpr hn] at hv
        cases hv
      rw [readColumnWidth, hv]
      cases fault with
      | notInteger => exact .rejected hrejects "not an integer".toList
      | notPositive => exact .rejected hrejects "must be positive".toList

/-- A level that is rejected is as good as none. -/
theorem ofEnvironment_of_rejectsLevel (h : RejectsLevel value) (env : Environment) :
    ofEnvironment { env with logLevel := some value } = ofEnvironment { env with logLevel := none } := by
  rw [ofEnvironment, readLogLevel_of_rejected h]
  rfl

/-- A width that is rejected is as good as none. -/
theorem ofEnvironment_of_rejectsWidth (h : RejectsWidth value) (env : Environment) :
    ofEnvironment { env with columnWidth := some value }
      = ofEnvironment { env with columnWidth := none } := by
  rw [ofEnvironment, readColumnWidth_of_rejected h]
  rfl

end Readers

/-- The preferences of a session that reads an environment after other steps. -/
def preferencesAfter (start : Session) (ts : List Step) (env : Environment) : Preferences :=
  ((start.runFrom ts).1.step (.environment env)).1.preferences

/-- What is logged when a session reads an environment after other steps. -/
def recordsAfter (start : Session) (ts : List Step) (env : Environment) : List Record :=
  ((start.runFrom ts).1.step (.environment env)).2.records

/-- **What is read from an environment can be used.** After any steps of any session, the preferences
are those of the environment that is read last: the level is known, the width is positive, and each
preference has a variable of its own. The records are warnings about the values that are rejected, one
for each, first the level; such a value is as good as none, and others are what is set. -/
theorem environment_gives_usable_preferences (start : Session) (ts : List Step) (env : Environment) :
    (∀ (start' : Session) (ts' : List Step),
      preferencesAfter start' ts' env = preferencesAfter start ts env)
    ∧ (preferencesAfter start ts env).logLevel ∈ Level.known.map Prod.fst
    ∧ 1 ≤ (preferencesAfter start ts env).columnWidth
    ∧ (∀ env', (env'.logLevel = env.logLevel →
        (preferencesAfter start ts env').logLevel = (preferencesAfter start ts env).logLevel)
      ∧ (env'.columnWidth = env.columnWidth →
        (preferencesAfter start ts env').columnWidth = (preferencesAfter start ts env).columnWidth)
      ∧ (env'.pretty = env.pretty →
        (preferencesAfter start ts env').pretty = (preferencesAfter start ts env).pretty))
    ∧ (∃ ofLevel ofWidth, recordsAfter start ts env = ofLevel ++ ofWidth
      ∧ Warns "MAKEDOC_LOG_LEVEL" RejectsLevel env.logLevel ofLevel
      ∧ Warns "MAKEDOC_COLUMN_WIDTH" RejectsWidth env.columnWidth ofWidth)
    ∧ (∀ value, (RejectsLevel value →
        preferencesAfter start ts { env with logLevel := some value }
          = preferencesAfter start ts { env with logLevel := none })
      ∧ (¬ RejectsLevel value →
        (preferencesAfter start ts { env with logLevel := some value }).logLevel = Text.upper value))
    ∧ ∀ value, (RejectsWidth value →
        preferencesAfter start ts { env with columnWidth := some value }
          = preferencesAfter start ts { env with columnWidth := none })
      ∧ ∀ n, Text.WritesWidth value n →
        (preferencesAfter start ts { env with columnWidth := some value }).columnWidth = n := by
  refine ⟨fun _ _ => rfl, Level.number?_isSome_iff.mp (Preferences.ofEnvironment_logLevel_known env),
    Preferences.ofEnvironment_columnWidth_pos env, fun env' => ⟨fun h => ?_, fun h => ?_, fun h => ?_⟩,
    ⟨_, _, List.map_append, warns_readLogLevel env.logLevel, warns_readColumnWidth env.columnWidth⟩,
    fun value => ⟨fun h => ?_, fun h => ?_⟩, fun value => ⟨fun h => ?_, fun n h => ?_⟩⟩
  · exact congrArg (fun v => (Preferences.readLogLevel v).1) h
  · exact congrArg (fun v => (Preferences.readColumnWidth v).1) h
  · exact congrArg (Option.any isTruthy) h
  · exact ofEnvironment_of_rejectsLevel h env
  · exact congrArg Prod.fst (readLogLevel_of_accepted h)
  · exact ofEnvironment_of_rejectsWidth h env
  · exact congrArg Prod.fst (readColumnWidth_of_writesWidth h)

/-- A level that is none and the width zero, each by itself, after a negative width; and a level and a
width that are accepted. -/
theorem environment_gives_usable_preferences_rejected :
    RejectsLevel "loud".toList
      ∧ preferencesAfter {} [.set none (some (-5)) none] { logLevel := some "loud".toList }
        = preferencesAfter {} [.set none (some (-5)) none] {}
      ∧ RejectsWidth ['0']
      ∧ preferencesAfter {} [.set none (some (-5)) none] { columnWidth := some ['0'] }
        = preferencesAfter {} [.set none (some (-5)) none] {}
      ∧ (preferencesAfter {} [.set none (some (-5)) none] { logLevel := some "info".toList }).logLevel
        = "INFO".toList
      ∧ (preferencesAfter {} [.set none (some (-5)) none] { columnWidth := some ['7'] }).columnWidth = 7
      ∧ (preferencesAfter {} [.set none (some (-5)) none] { noColor := some ['1'] }).logLevel
        = (preferencesAfter {} [.set none (some (-5)) none] {}).logLevel
      ∧ (preferencesAfter {} [.set none (some (-5)) none] { noColor := some ['1'] }).columnWidth
        = (preferencesAfter {} [.set none (some (-5)) none] {}).columnWidth
      ∧ (preferencesAfter {} [.set none (some (-5)) none] { noColor := some ['1'] }).pretty
        = (preferencesAfter {} [.set none (some (-5)) none] {}).pretty := by
  have hlevel : RejectsLevel "loud".toList := by
    show Text.upper "loud".toList ∉ Level.known.map Prod.fst
    decide
  have hinfo : ¬ RejectsLevel "info".toList := by
    show ¬ Text.upper "info".toList ∉ Level.known.map Prod.fst
    decide
  have hwidth : RejectsWidth ['0'] := fun n hn => by
    have hread : readWidth ['0'] = .error .notPositive := by decide
    have hok := hread.symm.trans (Text.readWidth_eq_ok_iff.mpr hn)
    cases hok
  have hseven : Text.WritesWidth ['7'] 7 := Text.readWidth_eq_ok_iff.mp (by decide)
  obtain ⟨-, -, -, hown, -, hlevels, hwidths⟩ :=
    environment_gives_usable_preferences {} [.set none (some (-5)) none] {}
  obtain ⟨hownLevel, hownWidth, hownPretty⟩ := hown { noColor := some ['1'] }
  exact ⟨hlevel, (hlevels _).1 hlevel, hwidth, (hwidths _).1 hwidth,
    ((hlevels _).2 hinfo).trans (by decide), (hwidths _).2 7 hseven, hownLevel rfl, hownWidth rfl,
    hownPretty rfl⟩

end Session

end TargetDocs
