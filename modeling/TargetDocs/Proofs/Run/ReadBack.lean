/-
A plain listing read back.

Without colours and long descriptions an entry takes one line. If its target is narrower than the column of
targets and its short description holds neither line feeds nor characters that are not shown (`Fits`), the
line says what target and description are, since no name holds a space:

* `text_of_fits` — the text of an entry is its line and a line feed;
* `shows_line` — the line up to its first space is the target, and the line behind the column is the short
  description (`Shows`);
* `readBack_lines` — lines behind each other can be told apart, and read one by one;
* `listing_read_back` — so targets and short descriptions can be read off what a run prints;
* `listing_read_back_width_out_of_range` — but a run with a width that no machine word holds prints nothing.
-/
import Mathlib.Data.List.Forall2
import TargetDocs.Proofs.Run.Filtering

namespace TargetDocs

namespace Text

theorem length_padRight {width : Int} {t : Text} (h : (t.length : Int) < width) :
    (padRight width t).length = width.toNat := by
  rw [padRight, List.length_append, List.length_replicate]
  omega

/-- Lines that all end with a line feed are told apart, with an empty line behind the last of them. -/
theorem lines_of_ended {ls : List Text} (h : ∀ l ∈ ls, '\n' ∉ l) :
    lines (ls.flatMap (· ++ ['\n'])) = ls ++ [[]] := by
  induction ls with
  | nil => rfl
  | cons l ls ih =>
    have hrest := ih fun x hx => h x (List.mem_cons_of_mem l hx)
    rw [List.flatMap_cons, List.append_assoc, List.singleton_append, lines, cut_append,
      cut_of_not_mem (h l List.mem_cons_self), ← lines, hrest]
    rfl

end Text

namespace Listing

open Makefile

variable {s : Style} {e : Entry} {width : Int}

/-! ### The line of an entry -/

/-- The target, filled up with spaces to the width of the column, and the short description. -/
def line (width : Int) (e : Entry) : Text := Text.padRight width e.target ++ e.short

/-- The target is narrower than the column, and the short description is shown in one line. -/
structure Fits (width : Int) (e : Entry) : Prop where
  length_lt : (e.target.length : Int) < width
  short_shown : ∀ c ∈ e.short, c ≠ '\n' ∧ Terminal.isShown c

instance (width : Int) (e : Entry) : Decidable (Fits width e) :=
  decidable_of_iff ((e.target.length : Int) < width
      ∧ e.short.all fun c => decide (c ≠ '\n') && Terminal.isShown c)
    ⟨fun h => ⟨h.1, by simpa using h.2⟩, fun h => ⟨h.1, by simpa using h.2⟩⟩

theorem isShown_of_isNameChar {c : Char} (h : isNameChar c) : Terminal.isShown c := by
  have hhidden : ['\x07', '\x08', '\x0b', '\x0c', '\r'].all fun d => !isNameChar d := by decide
  have hc : c ∉ ['\x07', '\x08', '\x0b', '\x0c', '\r'] := by
    intro hmem
    have hnot := List.all_eq_true.mp hhidden c hmem
    rw [h] at hnot
    cases hnot
  simpa [Terminal.isShown, and_assoc] using hc

theorem space_not_mem_of_isName {name : Text} (h : IsName name) : ' ' ∉ name :=
  fun hmem => absurd (isNameChar_of_isName h _ hmem) (by decide)

theorem mem_line {c : Char} (h : c ∈ line width e) : c ∈ e.target ∨ c = ' ' ∨ c ∈ e.short := by
  rw [line, Text.padRight, List.mem_append, List.mem_append] at h
  rcases h with (htarget | hspace) | hshort
  · exact Or.inl htarget
  · exact Or.inr (Or.inl (List.eq_of_mem_replicate hspace))
  · exact Or.inr (Or.inr hshort)

theorem lineFeed_not_mem_line (hname : IsName e.target) (h : Fits width e) : '\n' ∉ line width e := by
  intro hmem
  rcases mem_line hmem with htarget | hspace | hshort
  · exact lineFeed_not_mem_of_isName hname htarget
  · cases hspace
  · exact (h.short_shown _ hshort).1 rfl

theorem shown_line (hname : IsName e.target) (h : Fits width e) :
    Terminal.shown (line width e) = line width e := by
  refine List.filter_eq_self.mpr fun c hc => ?_
  rcases mem_line hc with htarget | rfl | hshort
  · exact isShown_of_isNameChar (isNameChar_of_isName hname c htarget)
  · rfl
  · exact (h.short_shown c hshort).2

/-- In a plain listing without long descriptions the text of an entry is its line. -/
theorem text_of_fits (hplain : s.colorize = false) (hverbose : s.verbose = false)
    (hname : IsName e.target) (h : Fits s.columnWidth e) :
    text s e = line s.columnWidth e ++ ['\n'] := by
  have hfeed : Terminal.shown ['\n'] = ['\n'] := by decide
  rw [text, hplain, if_neg Bool.false_ne_true, chars_layOut, hverbose, if_neg Bool.false_ne_true,
    List.append_nil]
  refine List.filter_append _ _ |>.trans ?_
  exact congrArg₂ (· ++ ·) (shown_line hname h) hfeed

/-! ### What a line says -/

/-- The line shows the entry: up to its first space it is the target, from there to the width there are
spaces, and the rest is the short description. -/
structure Shows (width : Int) (e : Entry) (l : Text) : Prop where
  target_eq : l.takeWhile (· ≠ ' ') = e.target
  spaces : ∀ i, e.target.length ≤ i → i < width.toNat → l[i]? = some ' '
  short_eq : l.drop width.toNat = e.short

theorem shows_line (hname : IsName e.target) (h : Fits width e) : Shows width e (line width e) := by
  have hpad := Text.length_padRight h.length_lt
  have hspace : ∀ c ∈ e.target, decide (c ≠ ' ') := by
    intro c hc
    refine decide_eq_true ?_
    rintro rfl
    exact space_not_mem_of_isName hname hc
  refine ⟨?_, fun i hi hwidth => ?_, ?_⟩
  · -- at least one space stands behind the target
    have hlength := h.length_lt
    obtain ⟨k, hk⟩ : ∃ k, width.toNat - e.target.length = k + 1 :=
      Nat.exists_eq_succ_of_ne_zero (by omega)
    rw [line, Text.padRight, hk, List.replicate_succ, List.append_assoc,
      List.takeWhile_append_of_pos hspace, List.cons_append, List.takeWhile_cons_of_neg (by simp),
      List.append_nil]
  · rw [line, List.getElem?_append_left (hpad ▸ hwidth), Text.padRight,
      List.getElem?_append_right hi, List.getElem?_replicate, if_pos (by omega)]
  · rw [line, ← hpad, List.drop_left]

/-- The target and the short description in each line of a listing. -/
def readBack (width : Int) (output : Text) : List (Text × Text) :=
  (Text.lines output).dropLast.map fun l => (l.takeWhile (· ≠ ' '), l.drop width.toNat)

theorem readBack_lines {es : List Entry} (hnames : ∀ e ∈ es, IsName e.target)
    (h : ∀ e ∈ es, Fits width e) :
    readBack width ((es.map (line width)).flatMap (· ++ ['\n']))
      = es.map fun e => (e.target, e.short) := by
  have hfeed : ∀ l ∈ es.map (line width), '\n' ∉ l :=
    List.forall_mem_map.mpr fun e he => lineFeed_not_mem_line (hnames e he) (h e he)
  rw [readBack, Text.lines_of_ended hfeed, List.dropLast_concat, List.map_map]
  refine List.map_congr_left fun e he => ?_
  have hshows := shows_line (hnames e he) (h e he)
  exact Prod.ext hshows.target_eq hshows.short_eq

end Listing

namespace Run

open CommandLine

variable {s : Surroundings} {words : List Text} {r : Request} {c : Catalogue} {width : Int}

/-- A run that is to show all of what its files document, one fitting line for each target. -/
structure Plain (s : Surroundings) (words : List Text) (r : Request) (c : Catalogue) (width : Int) :
    Prop where
  reads : Reads s words r
  load_eq : (Loading.load s.read r.files).result = .ok c
  outlet_eq : s.outlet = .working
  target_eq : r.target = []
  verbose_eq : r.verbose = false
  pretty_eq : r.pretty.getD s.preferences.pretty = false
  columnWidth_eq : columnWidth? s.preferences r.columnWidth = some width
  fits : ∀ e ∈ c.entries, Listing.Fits width e

theorem Plain.isName (h : Plain s words r c width) : ∀ e ∈ c.entries, Makefile.IsName e.target :=
  fun _ he => Loading.isName_of_mem_targets h.load_eq (List.mem_map_of_mem he)

theorem Plain.output_eq (h : Plain s words r c width)
    (hrange : c.entries ≠ [] → Listing.InRange width) :
    (run s words).output = (c.entries.map (Listing.line width)).flatMap (· ++ ['\n']) := by
  rw [run_of_reads h.reads,
    output_of_noTarget h.load_eq h.outlet_eq h.target_eq h.columnWidth_eq hrange, List.flatMap_map]
  refine List.flatMap_congr fun e he => ?_
  exact Listing.text_of_fits h.pretty_eq h.verbose_eq (h.isName e he) (h.fits e he)

theorem Plain.readBack_eq (h : Plain s words r c width)
    (hrange : c.entries ≠ [] → Listing.InRange width) :
    Listing.readBack width (run s words).output = c.entries.map fun e => (e.target, e.short) := by
  rw [h.output_eq hrange]
  exact Listing.readBack_lines h.isName h.fits

/-- **A plain listing can be read back.** What is printed are lines that end with a line feed, one for each
target in their order, and each shows its target and its short description. So both can be read off the
output, and runs of the same width that print the same have the same targets with the same short
descriptions. If there is something to print, the width has to fit a machine word. -/
theorem listing_read_back (h : Plain s words r c width)
    (hrange : c.entries ≠ [] → Listing.InRange width) :
    (∃ ls, (run s words).output = ls.flatMap (· ++ ['\n']) ∧ (∀ l ∈ ls, '\n' ∉ l)
        ∧ List.Forall₂ (Listing.Shows width) c.entries ls)
      ∧ Listing.readBack width (run s words).output = c.entries.map (fun e => (e.target, e.short))
      ∧ ∀ s' words' r' c', Plain s' words' r' c' width → (c'.entries ≠ [] → Listing.InRange width) →
        (run s' words').output = (run s words).output →
        c'.entries.map (fun e => (e.target, e.short)) = c.entries.map fun e => (e.target, e.short) := by
  refine ⟨⟨c.entries.map (Listing.line width), h.output_eq hrange, ?_, ?_⟩, h.readBack_eq hrange,
    fun s' words' r' c' h' hrange' houtput => ?_⟩
  · exact List.forall_mem_map.mpr fun e he =>
      Listing.lineFeed_not_mem_line (h.isName e he) (h.fits e he)
  · rw [List.forall₂_map_right_iff, List.forall₂_same]
    exact fun e he => Listing.shows_line (h.isName e he) (h.fits e he)
  · rw [← h'.readBack_eq hrange', houtput, h.readBack_eq hrange]

/-- A description that begins with spaces and one that is empty. -/
theorem listing_read_back_spaces :
    let text := "##   deep\nb-1:\n##\na:\n".toList
    let tree := (⟨[]⟩ : FileTree).write "a.mk".toList (.file (Text.Utf8.encode text))
    let s : Surroundings := { preferences := {}, read := tree.read }
    let words := ["a.mk".toList, "--column-width=5".toList]
    (run s words).output = "a    \nb-1    deep\n".toList
      ∧ Listing.readBack 5 (run s words).output = [("a".toList, []), ("b-1".toList, "  deep".toList)] := by
  intro text tree s words
  have hread : readText s.read (Path.ofText "a.mk".toList) = .ok text := by decide +kernel
  let c := Catalogue.empty.insertAll ([text].flatMap Makefile.entries)
  have hentries : c.entries
      = [⟨"a".toList, [], [], false⟩, ⟨"b-1".toList, "  deep".toList, [], false⟩] := by
    decide +kernel
  have hfits : ∀ e ∈ c.entries, Listing.Fits 5 e := by decide +kernel
  have hplain : Plain s words { files := ["a.mk".toList], columnWidth := .columns 5 } c 5 :=
    ⟨⟨by decide +kernel, by decide +kernel⟩,
      Loading.result_loadInto_of_readable (.cons hread .nil) .empty, rfl, rfl, rfl, rfl, rfl, hfits⟩
  obtain ⟨-, hback, -⟩ := listing_read_back hplain fun _ => by decide
  refine ⟨by decide +kernel, ?_⟩
  rw [hback, hentries]
  rfl

/-- A width that no machine word holds, and nothing is printed of the target. -/
theorem listing_read_back_width_out_of_range :
    let text := "## one\na:\n".toList
    let tree := (⟨[]⟩ : FileTree).write "a.mk".toList (.file (Text.Utf8.encode text))
    let s : Surroundings := { preferences := {}, read := tree.read }
    let words := ["--column-width".toList, "9223372036854775808".toList, "a.mk".toList]
    ∃ r c, Plain s words r c 9223372036854775808 ∧ c.targets = ["a".toList]
      ∧ (run s words).output = [] := by
  intro text tree s words
  have hread : readText s.read (Path.ofText "a.mk".toList) = .ok text := by decide +kernel
  let c := Catalogue.empty.insertAll ([text].flatMap Makefile.entries)
  have hfits : ∀ e ∈ c.entries, Listing.Fits 9223372036854775808 e := by decide +kernel
  refine ⟨{ files := ["a.mk".toList], columnWidth := .columns 9223372036854775808 }, c,
    ⟨⟨by decide +kernel, by decide +kernel⟩,
      Loading.result_loadInto_of_readable (.cons hread .nil) .empty, rfl, rfl, rfl, rfl, rfl, hfits⟩,
    by decide +kernel, by decide +kernel⟩

end Run

end TargetDocs
