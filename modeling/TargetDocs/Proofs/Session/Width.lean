/-
The width of the target column, as the option and as the variable of the environment.

Both take the same texts as the same numbers, and both refuse the others, for the same reason and each
in its own words:

* `takesWidth_iff_readWidth`, `refusesWidth_of_readWidth` — what the two do with a text is what its
  reader makes of it;
* `width_taken_or_refused` — and the reader goes by the grammar of numerals.
-/
import TargetDocs.Proofs.Text.Numeral
import TargetDocs.Session

namespace TargetDocs.Session

open CommandLine Text

/-- A record that complains about the variable of the width. -/
def aboutWidth (r : Record) : Bool :=
  "Ignoring MAKEDOC_COLUMN_WIDTH=".toList.isPrefixOf r.message

/-- The text is the width `n`: to the validator of the option, to the option itself, and as the value
of the variable, about which nothing is logged. -/
structure TakesWidth (t : Text) (n : Int) : Prop where
  validator : readWidth t = .ok n
  option : ∀ r : Reading,
    r.value t .columnWidth = .ok { r with request.columnWidth := .columns n }
  preference : ∀ (s : Session) (env : Environment),
    (s.step (.environment { env with columnWidth := some t })).1.preferences.columnWidth = n
  records : ∀ (s : Session) (env : Environment),
    (s.step (.environment { env with columnWidth := some t })).2.records.filter aboutWidth = []

/-- The text is no width: the validator of the option complains, the command line is refused with that
complaint, and the variable counts as 30 with one warning. -/
structure RefusesWidth (t : Text) (fault : WidthFault) (complaint reason : String) : Prop where
  validator : readWidth t = .error fault
  message : widthComplaint t fault = complaint.toList ++ quoted t
  option : ∀ r : Reading, r.value t .columnWidth = .error (.refused (.badWidth fault t))
  preference : ∀ (s : Session) (env : Environment),
    (s.step (.environment { env with columnWidth := some t })).1.preferences.columnWidth = 30
  records : ∀ (s : Session) (env : Environment),
    (s.step (.environment { env with columnWidth := some t })).2.records.filter aboutWidth
      = [⟨.warning, "makedoc.settings".toList,
          "Ignoring MAKEDOC_COLUMN_WIDTH=".toList ++ quoted t ++ reason.toList⟩]

variable {t : Text} {n : Int} {value : Option Text} {notices : List Notice}

/-- What is logged about the level is not about the width. -/
theorem filter_aboutWidth_readLogLevel (value : Option Text) :
    ((Preferences.readLogLevel value).2.map (·.record)).filter aboutWidth = [] := by
  cases value with
  | none => rfl
  | some v =>
    simp only [Preferences.readLogLevel]
    split <;> rfl

theorem filter_aboutWidth_step (s : Session) (env : Environment)
    (h : (Preferences.readColumnWidth value).2 = notices) :
    (s.step (.environment { env with columnWidth := value })).2.records.filter aboutWidth
      = (notices.map (·.record)).filter aboutWidth := by
  simp only [step, Preferences.noticesOf, h, List.map_append, List.filter_append,
    filter_aboutWidth_readLogLevel, List.nil_append]

theorem takesWidth_iff_readWidth : TakesWidth t n ↔ readWidth t = .ok n := by
  constructor
  · exact TakesWidth.validator
  · intro h
    have hvariable : Preferences.readColumnWidth (some t) = (n, []) := by
      rw [Preferences.readColumnWidth, h]
    refine ⟨h, fun r => ?_, fun s env => ?_, fun s env => ?_⟩
    · rw [Reading.value, h]
    · exact congrArg Prod.fst hvariable
    · exact filter_aboutWidth_step s env (congrArg Prod.snd hvariable)

theorem refusesWidth_of_readWidth {fault : WidthFault} {complaint reason : String} {notice : Notice}
    (h : readWidth t = .error fault) (hmessage : widthComplaint t fault = complaint.toList ++ quoted t)
    (hvariable : Preferences.readColumnWidth (some t) = (30, [notice]))
    (hrecord : notice.record = ⟨.warning, "makedoc.settings".toList,
      "Ignoring MAKEDOC_COLUMN_WIDTH=".toList ++ quoted t ++ reason.toList⟩) :
    RefusesWidth t fault complaint reason := by
  refine ⟨h, hmessage, fun r => ?_, fun s env => ?_, fun s env => ?_⟩
  · rw [Reading.value, h]
  · exact congrArg Prod.fst hvariable
  · rw [filter_aboutWidth_step s env (congrArg Prod.snd hvariable), List.map_singleton, hrecord]
    rfl

theorem refusesWidth_notInteger_iff_readWidth :
    RefusesWidth t .notInteger "invalid int value: " ": not an integer"
      ↔ readWidth t = .error .notInteger := by
  constructor
  · exact RefusesWidth.validator
  · intro h
    have hvariable : Preferences.readColumnWidth (some t) = (30, [.widthNotInteger t]) := by
      rw [Preferences.readColumnWidth, h]
      rfl
    exact refusesWidth_of_readWidth h rfl hvariable
      (congrArg (Record.mk .warning "makedoc.settings".toList) (List.append_assoc _ _ _))

theorem refusesWidth_notPositive_iff_readWidth :
    RefusesWidth t .notPositive "must be positive: " ": must be positive"
      ↔ readWidth t = .error .notPositive := by
  constructor
  · exact RefusesWidth.validator
  · intro h
    have hvariable : Preferences.readColumnWidth (some t) = (30, [.widthNotPositive t]) := by
      rw [Preferences.readColumnWidth, h]
      rfl
    exact refusesWidth_of_readWidth h rfl hvariable
      (congrArg (Record.mk .warning "makedoc.settings".toList) (List.append_assoc _ _ _))

/-- **The option and the variable take the same widths.** A text is the width `n` to both exactly if
it writes the positive number `n`, with a plus or without a sign, in digits of any script with single
underscores between them, at most 4300 digits, and white space around. If it writes zero or has a minus,
both refuse it because a width must be positive, and if it is no numeral because it is none. So the
decimal writing of a positive number is that number to both, unless it is too long. -/
theorem width_taken_or_refused :
    (∀ t : Text,
      (∀ n : Int, TakesWidth t n ↔ ∃ k : Nat, n = k ∧ 0 < k
        ∧ (Numeral isMargin [] t k ∨ Numeral isMargin ['+'] t k))
      ∧ (RefusesWidth t .notPositive "must be positive: " ": must be positive"
        ↔ Numeral isMargin [] t 0 ∨ Numeral isMargin ['+'] t 0 ∨ ∃ k, Numeral isMargin ['-'] t k)
      ∧ (RefusesWidth t .notInteger "invalid int value: " ": not an integer"
        ↔ ∀ k, ∀ sign ∈ [[], ['+'], ['-']], ¬ Numeral isMargin sign t k))
    ∧ ∀ n : Nat, 0 < n → (decimal n).length ≤ 4300 → TakesWidth (decimal n) n := by
  refine ⟨fun t => ⟨fun n => ?_, ?_, ?_⟩, fun n hn hlength => ?_⟩
  · rw [takesWidth_iff_readWidth, readWidth_eq_ok_iff, WritesWidth]
  · rw [refusesWidth_notPositive_iff_readWidth, readWidth_eq_notPositive_iff]
  · rw [refusesWidth_notInteger_iff_readWidth, readWidth_eq_notInteger_iff]
  · rw [takesWidth_iff_readWidth]
    exact @readWidth_decimal n 0 hn (by rw [Nat.zero_add]; exact hlength)

/-- A plus, a digit of ASCII, an underscore and an Arabic digit, between a space and a no-break space;
and a number of two digits. -/
theorem width_taken_or_refused_thirteen :
    TakesWidth [' ', '+', '1', '_', '\u0663', '\u00a0'] 13
      ∧ 0 < 120 ∧ (decimal 120).length ≤ 4300 ∧ TakesWidth (decimal 120) 120 := by
  have hbody : WritesDigits ['1', '_', '\u0663'] [1, 3] :=
    ⟨[['1'], ['\u0663']], by decide, by decide, rfl, by decide⟩
  have hnumeral : Numeral isMargin ['+'] [' ', '+', '1', '_', '\u0663', '\u00a0'] 13 :=
    ⟨[' '], ['1', '_', '\u0663'], ['\u00a0'], [1, 3], rfl, List.forall_mem_singleton.mpr rfl,
      List.forall_mem_singleton.mpr rfl, hbody, Nat.le_of_ble_eq_true rfl, rfl⟩
  have hlength : (decimal 120).length ≤ 4300 := Nat.le_of_ble_eq_true rfl
  exact ⟨((width_taken_or_refused.1 _).1 13).mpr ⟨13, rfl, by decide, Or.inr hnumeral⟩, by decide,
    hlength, width_taken_or_refused.2 120 (by decide) hlength⟩

/-- The information separators are white space, but not around a number, not even around one that is
not written in ASCII. -/
theorem refusesWidth_separator :
    (∀ c ∈ ['\x1c'], isBlank c) ∧ Numeral isBlank [] ['\x1c', '\u0663'] 3
      ∧ ¬ TakesWidth ['\x1c', '\u0663'] 3
      ∧ RefusesWidth ['\x1c', '\u0663'] .notInteger "invalid int value: " ": not an integer" := by
  have hread : readWidth ['\x1c', '\u0663'] = .error .notInteger := by decide
  have hblank : ∀ c ∈ ['\x1c'], isBlank c := List.forall_mem_singleton.mpr rfl
  refine ⟨hblank, ?_, fun h => ?_, refusesWidth_notInteger_iff_readWidth.mpr hread⟩
  · exact ⟨['\x1c'], ['\u0663'], [], [3], rfl, hblank, fun _ h => absurd h List.not_mem_nil,
      .singleton rfl, Nat.le_of_ble_eq_true rfl, rfl⟩
  · have htaken := hread.symm.trans h.validator
    cases htaken

end TargetDocs.Session
