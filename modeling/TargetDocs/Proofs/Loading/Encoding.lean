/-
Files whose bytes differ and whose documentation is the same.

Line ends are unified when a file is read, so it does not matter how they are written:

* `readText_of_respells` — the text that is read is the one with line feeds;
* `readText_of_not_isValid` — bytes that are not UTF-8 are refused where their longest valid beginning ends;
* `load_of_respelled` — what is loaded and what is reported, in both cases.
-/
import TargetDocs.Proofs.Loading.FirstFailure
import TargetDocs.Proofs.Loading.LastDeclaration
import TargetDocs.Proofs.Text.LineEnd
import TargetDocs.Proofs.Text.Utf8

namespace TargetDocs

open Text

variable {read : Reader} {p : Path}

theorem readText_of_respells {t u : Text} (hu : Respells t u) (hreturn : '\r' ∉ t)
    (hread : read p = .ok (Utf8.encode u)) : readText read p = .ok t :=
  readText_eq_ok_iff.mpr
    ⟨_, u, hread, Utf8.decode_encode u, ((unifyLineEnds_eq_iff hreturn).mpr hu).symm⟩

theorem respells_self {t : Text} (hreturn : '\r' ∉ t) : Respells t t :=
  (unifyLineEnds_eq_iff hreturn).mp (unifyLineEnds_of_noReturn hreturn)

theorem readText_of_not_isValid {bytes : List UInt8} (hread : read p = .ok bytes)
    (hvalid : ¬ Utf8.IsValid bytes) :
    ∃ f, readText read p = .error (.undecodable f)
      ∧ IsGreatest {n | ∃ valid, valid <+: bytes ∧ Utf8.IsValid valid ∧ valid.length = n} f.position := by
  obtain ⟨f, hf⟩ := Utf8.exists_fault_of_not_isValid hvalid
  refine ⟨f, ?_, Utf8.isGreatest_position hf⟩
  rw [readText, hread]
  dsimp only
  rw [hf]

namespace Loading

/-- A path leads one reader to a text without carriage returns, and the other to a writing of it with
line ends of its own. -/
def Respelled (plain read : Reader) (q : Path × Text) : Prop :=
  '\r' ∉ q.2 ∧ plain q.1 = .ok (Utf8.encode q.2) ∧ ∃ u, Respells q.2 u ∧ read q.1 = .ok (Utf8.encode u)

/-- **Line ends do not matter, and bytes that are not UTF-8 are refused.** However the line ends of files
are written, what is loaded and reported is the same: the entry for a target is made of its last
declaration in the texts with line feeds, and the log speaks of their lines. If the bytes of a file are
not UTF-8, a loading that comes to it fails, and the fault stands where their longest valid beginning
ends. -/
theorem load_of_respelled (plain read : Reader) (paths : List Text) (qs : List (Path × Text)) :
    ((∀ q ∈ qs, Respelled plain read q) → paths.map Path.ofText = qs.map Prod.fst →
        load read paths = load plain paths
        ∧ (∀ program, (load read paths).notices.map (·.record program) = qs.flatMap readRecords)
        ∧ ∃ c, load read paths = ⟨qs.flatMap readNotices, .ok c⟩
          ∧ ∀ target e, c.get? target = some e
            ↔ ∃ t d, LastDeclaration (qs.map Prod.snd) target t d
              ∧ e = { target
                      short := (splitDescription d.comment).1
                      long := (splitDescription d.comment).2
                      isDefault := decide (Makefile.defaultGoal t ≠ []
                        ∧ Makefile.defaultGoal t = target) })
      ∧ ∀ p after bytes, (∀ q ∈ qs, readText read q.1 = .ok q.2) →
        paths.map Path.ofText = qs.map Prod.fst ++ p :: after → read p = .ok bytes → ¬ Utf8.IsValid bytes →
        ∃ f, load read paths = ⟨qs.flatMap readNotices ++ [.loading p], .error (.undecodable f)⟩
          ∧ IsGreatest {n | ∃ valid, valid <+: bytes ∧ Utf8.IsValid valid ∧ valid.length = n} f.position := by
  refine ⟨fun hqs hpaths => ?_, fun p after bytes hqs hpaths hp hvalid => ?_⟩
  · have hread : ∀ q ∈ qs, readText read q.1 = .ok q.2 := by
      intro q hq
      obtain ⟨hreturn, -, u, hu, hbytes⟩ := hqs q hq
      exact readText_of_respells hu hreturn hbytes
    have hplain : ∀ q ∈ qs, readText plain q.1 = .ok q.2 := by
      intro q hq
      obtain ⟨hreturn, hbytes, -⟩ := hqs q hq
      exact readText_of_respells (respells_self hreturn) hreturn hbytes
    have htexts : qs.flatMap (Makefile.entries ·.2) = (qs.map Prod.snd).flatMap Makefile.entries :=
      (List.flatMap_map _ _ _).symm
    rw [load_of_readable hpaths hread, load_of_readable hpaths hplain]
    refine ⟨rfl, fun program => map_record_flatMap_readNotices program qs, _, rfl,
      fun target e => ?_⟩
    rw [htexts]
    exact get?_insertAll_entries_eq_some_iff
  · obtain ⟨f, hf, hposition⟩ := readText_of_not_isValid hp hvalid
    exact ⟨f, load_of_firstFailure ⟨⟨after, hpaths⟩, hqs, hf⟩, hposition⟩

/-- All three line ends and a character of two bytes in one file; behind it a file that breaks off within a
character. -/
theorem load_of_respelled_mixed :
    let text := "## é\nall:\n##\n\n".toList
    let written := "## é\r\nall:\r##\r\r\n".toList
    let plain := ((⟨[]⟩ : FileTree).write "a.mk".toList (.file (Utf8.encode text))).read
    let read := (((⟨[]⟩ : FileTree).write "a.mk".toList (.file (Utf8.encode written))).write "b.mk".toList
      (.file [0x61, 0xE2, 0x82])).read
    (load read ["a.mk".toList] = load plain ["a.mk".toList]
        ∧ Notice.discardedAt 4 ∈ (load read ["a.mk".toList]).notices
        ∧ ∃ c, (load read ["a.mk".toList]).result = .ok c
          ∧ c.get? "all".toList = some ⟨"all".toList, "é".toList, [], false⟩)
      ∧ ∃ f, (load read ["a.mk".toList, "b.mk".toList]).result = .error (.undecodable f)
        ∧ f.position = 1 := by
  intro text written plain read
  let a := Path.ofText "a.mk".toList
  have hplain : plain a = .ok (Utf8.encode text) :=
    FileTree.read_write_self _ _ (by decide) (by decide) (by decide)
  have hbroken : read (Path.ofText "b.mk".toList) = .ok [0x61, 0xE2, 0x82] :=
    FileTree.read_write_self _ _ (by decide) (by decide) (by decide)
  have hreturn : '\r' ∉ text := by decide
  have hwritten : Respells text written := (unifyLineEnds_eq_iff hreturn).mp (by decide)
  have hrespelled : Respelled plain read (a, text) :=
    ⟨hreturn, hplain, written, hwritten, by decide +kernel⟩
  have hfault : Utf8.decode [0x61, 0xE2, 0x82] = .error ⟨1, 2, 0xE2, .truncated⟩ := by decide
  have hvalid : ¬ Utf8.IsValid [0x61, 0xE2, 0x82] := by
    rintro ⟨t, ht⟩
    cases (Utf8.decode_eq_ok_iff.mpr ht).symm.trans hfault
  obtain ⟨hsame, -, c, hload, hget⟩ := (load_of_respelled plain read ["a.mk".toList] [(a, text)]).1
    (List.forall_mem_singleton.mpr hrespelled) rfl
  have hlast : LastDeclaration [text] "all".toList text ⟨"all".toList, "é".toList⟩ :=
    ⟨⟨[], [], rfl, by simp⟩, ⟨[], [], by decide +kernel, by simp⟩, rfl⟩
  refine ⟨⟨hsame, ?_, c, by rw [hload], (hget _ _).mpr ⟨text, _, hlast, by decide +kernel⟩⟩, ?_⟩
  · have hnotices : (load read ["a.mk".toList]).notices = [(a, text)].flatMap readNotices :=
      congrArg Loading.notices hload
    rw [hnotices]
    decide +kernel
  · obtain ⟨f, hresult, hposition⟩ := (load_of_respelled plain read ["a.mk".toList, "b.mk".toList]
      [(a, text)]).2 (Path.ofText "b.mk".toList) [] _
      (List.forall_mem_singleton.mpr (readText_of_respells hwritten hreturn (by decide +kernel))) rfl
      hbroken hvalid
    exact ⟨f, by rw [hresult], hposition.unique (Utf8.isGreatest_position hfault)⟩

end Loading

end TargetDocs
