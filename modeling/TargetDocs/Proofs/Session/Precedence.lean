/-
Options come before preferences.

An option that a command line gives hides the preference of its kind, and a preference does what the option
would do in front of a command line that does not give it:

* `helpWritable_of_inRange` — a width that fits a machine word can be named in the help;
* `answerUnder_congr` — what a run answers depends on its effective options only;
* `options_before_preferences` — so other preferences make no difference where the option is given, and
  where it is not the preference can be replaced by the option.
-/
import TargetDocs.Proofs.CommandLine.Front
import TargetDocs.Proofs.Run.Ending
import TargetDocs.Session

namespace TargetDocs

theorem Run.helpWritable_of_inRange {n : Int} (h : Listing.InRange n) (p : Preferences) :
    Run.HelpWritable { p with columnWidth := n } := by
  have hsize : n.natAbs < 10 ^ 19 := by
    obtain ⟨hlower, hupper⟩ := h
    omega
  have hlength : (Text.decimal n.natAbs).length ≤ 19 :=
    (Nat.length_toDigits_le_iff (by decide) (by decide)).mpr hsize
  exact Nat.le_trans hlength (by decide)

namespace Session

open CommandLine Run

/-- What a run answers in the session if these are the preferences. -/
def answerUnder (s : Session) (outlet : Outlet) (origin : Text) (p : Preferences)
    (words : List Text) : Answer :=
  ({ s with preferences := p }.step (.main words outlet origin)).2.answer

variable {s : Session} {outlet : Outlet} {origin : Text} {p p' : Preferences}
  {words words' : List Text} {r r' : Request}

theorem answerUnder_of_parse (hp : HelpWritable p) (h : parse words = .ok r) :
    s.answerUnder outlet origin p words
      = .finished (request ({ s with preferences := p }.surroundings outlet) r).result.1
          (request ({ s with preferences := p }.surroundings outlet) r).result.2 := by
  have hrun : run ({ s with preferences := p }.surroundings outlet) words
      = request ({ s with preferences := p }.surroundings outlet) r := run_request hp h
  rw [← hrun]
  rfl

theorem answerUnder_of_not_helpWritable (hp : ¬ HelpWritable p) (words : List Text) :
    s.answerUnder outlet origin p words = .finished (.crash .widthTooLong) [] := by
  have hrun : run ({ s with preferences := p }.surroundings outlet) words
      = { exit := .crash .widthTooLong } := if_neg hp
  rw [answerUnder, step, runMain, hrun]

/-- A run answers the same if it has the same effective options, files and output. -/
theorem answerUnder_congr (hp : HelpWritable p' ↔ HelpWritable p) (h : parse words = .ok r)
    (h' : parse words' = .ok r')
    (hagree : Agree ({ s with preferences := p }.surroundings outlet)
      ({ s with preferences := p' }.surroundings outlet) r r') :
    s.answerUnder outlet origin p' words' = s.answerUnder outlet origin p words := by
  by_cases hwritable : HelpWritable p
  · rw [answerUnder_of_parse hwritable h, answerUnder_of_parse (hp.mpr hwritable) h',
      result_request_of_agree hagree]
  · rw [answerUnder_of_not_helpWritable hwritable,
      answerUnder_of_not_helpWritable (mt hp.mp hwritable)]

theorem spells_columnWidth {n : Nat} (hn : 0 < n)
    (hlength : (Text.decimal n).length ≤ Text.maxDigits) :
    Spells (.columnWidth n) ["--column-width".toList, Text.decimal n] :=
  @Spells.widthApart "--column-width".toList n 0 (by decide) hn (by omega)

theorem spells_pretty (on : Bool) :
    Spells (.pretty on) [if on then "--pretty".toList else "--no-pretty".toList] := by
  cases on with
  | true => exact .pretty (by decide)
  | false => exact .pretty (by decide)

/-- **Options come before preferences.** Where a command line gives a column width, runs answer the same
for all preferred widths that the help can name, and where it says whether to colour, for both preferences.
Where it does not, the answer under a preference is that under any other one with the option in front
of the command line. The widths that fit a machine word can all be named in the help. -/
theorem options_before_preferences (s : Session) (outlet : Outlet) (origin : Text) (p : Preferences)
    {words : List Text} {r : Request} (h : parse words = .ok r) :
    let answer := s.answerUnder outlet origin
    (.valued .columnWidth ∈ given words → ∀ m n : Int,
        HelpWritable { p with columnWidth := m } → HelpWritable { p with columnWidth := n } →
        answer { p with columnWidth := m } words = answer { p with columnWidth := n } words)
      ∧ ((∃ on, .flag (.pretty on) ∈ given words) →
        answer { p with pretty := true } words = answer { p with pretty := false } words)
      ∧ (.valued .columnWidth ∉ given words → ∀ (n : Nat) (m : Int), 0 < n →
        HelpWritable { p with columnWidth := n } → HelpWritable { p with columnWidth := m } →
        answer { p with columnWidth := n } words
          = answer { p with columnWidth := m } ("--column-width".toList :: Text.decimal n :: words))
      ∧ ((∀ on, .flag (.pretty on) ∉ given words) → ∀ on other : Bool,
        answer { p with pretty := on } words
          = answer { p with pretty := other }
            ((if on then "--pretty".toList else "--no-pretty".toList) :: words))
      ∧ ∀ n : Int, Listing.InRange n → HelpWritable { p with columnWidth := n } := by
  intro answer
  refine ⟨fun hgiven m n hm hn => ?_, fun hgiven => ?_, fun hgiven n m hpos hn hm => ?_,
    fun hgiven on other => ?_, fun n hn => helpWritable_of_inRange hn p⟩
  · -- the option is there, so the preference is not looked at
    have hchoice : r.columnWidth ≠ .preferred :=
      fun hpreferred => (columnWidth_eq_preferred_iff h).mp hpreferred hgiven
    refine answerUnder_congr (iff_of_true hm hn) h h ⟨rfl, rfl, rfl, rfl, rfl, rfl, rfl, ?_⟩
    cases hcolumns : r.columnWidth with
    | preferred => exact absurd hcolumns hchoice
    | columns k => rfl
    | missing => rfl
  · obtain ⟨on, hgiven⟩ := hgiven
    have hchoice : r.pretty ≠ none := fun hnone => (pretty_eq_none_iff h).mp hnone on hgiven
    obtain ⟨choice, hpretty⟩ := Option.ne_none_iff_exists'.mp hchoice
    refine answerUnder_congr Iff.rfl h h ⟨rfl, rfl, rfl, rfl, rfl, rfl, ?_, rfl⟩
    rw [hpretty]
    rfl
  · have hpreferred := (columnWidth_eq_preferred_iff h).mpr hgiven
    have hfront := parse_front_of_free (spells_columnWidth hpos hn) h
      fun sw hsw hyields => hgiven (hyields ▸ hsw)
    refine answerUnder_congr (iff_of_true hn hm) hfront h
      ⟨rfl, rfl, rfl, rfl, rfl, rfl, rfl, ?_⟩
    rw [hpreferred]
    rfl
  · have hnone := (pretty_eq_none_iff h).mpr hgiven
    have hfront := parse_front_of_free (spells_pretty on) h
      fun sw hsw ⟨on', hyields⟩ => hgiven on' (hyields ▸ hsw)
    refine answerUnder_congr Iff.rfl hfront h ⟨rfl, rfl, rfl, rfl, rfl, rfl, ?_, rfl⟩
    rw [hnone]
    rfl

/-- One command line that gives both options, and one that gives none. -/
theorem options_before_preferences_both_ways :
    let s : Session :=
      { files := (⟨[]⟩ : FileTree).write "a.mk".toList (.file (Text.Utf8.encode "## one\na:".toList)) }
    let answer := s.answerUnder .working Area.commandLineOrigin
    let words := ["--column-width".toList, "4".toList, "a.mk".toList, "--no-pretty".toList]
    answer { columnWidth := 9223372036854775808 } words = .finished (.code 0) "a   one\n".toList
      ∧ answer { pretty := true } words = .finished (.code 0) "a   one\n".toList
      ∧ answer { columnWidth := 6 } ["a.mk".toList]
        = answer { columnWidth := 9223372036854775808 }
          ["--column-width".toList, "6".toList, "a.mk".toList]
      ∧ answer { pretty := true } ["a.mk".toList]
        = answer { pretty := false } ["--pretty".toList, "a.mk".toList] := by
  intro s answer words
  have hwords : parse words
      = .ok { files := ["a.mk".toList], columnWidth := .columns 4, pretty := some false } := by
    decide +kernel
  have hfile : parse ["a.mk".toList] = .ok { files := ["a.mk".toList] } := rfl
  have husual : HelpWritable {} := by decide +kernel
  have hlarge : HelpWritable { columnWidth := 9223372036854775808 } := by decide +kernel
  have hsix : HelpWritable { columnWidth := 6 } := by decide +kernel
  have hanswer : answer {} words = .finished (.code 0) "a   one\n".toList := by
    have hresult : (request (s.surroundings .working)
        { files := ["a.mk".toList], columnWidth := .columns 4, pretty := some false }).result
          = (.code 0, "a   one\n".toList) := by decide +kernel
    exact (answerUnder_of_parse husual hwords).trans (by rw [hresult])
  obtain ⟨hwidth, hpretty, -⟩ :=
    options_before_preferences s .working Area.commandLineOrigin {} hwords
  obtain ⟨-, -, hnoWidth, hnoPretty, -⟩ :=
    options_before_preferences s .working Area.commandLineOrigin {} hfile
  refine ⟨?_, ?_, ?_, ?_⟩
  · exact (hwidth (by decide +kernel) _ Listing.defaultWidth hlarge husual).trans hanswer
  · exact (hpretty ⟨false, by decide +kernel⟩).trans hanswer
  · exact hnoWidth (by decide +kernel) 6 _ (by decide) hsix hlarge
  · exact hnoPretty (by decide +kernel) true false

end Session

end TargetDocs
