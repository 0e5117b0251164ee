/-
Loading is all or nothing.

Either every file can be read and all of them are loaded, or there is a first one that cannot be read;
then nothing is loaded, whatever files come after it, and its fault is that of the whole:

* `loadInto_append` — files that can be read are loaded before the others, with all their notices;
* `readable_or_firstFailure` — the two cases;
* `exists_result_iff`, `result_load_eq_error_iff` — what comes of the loading in each of them;
* `load_of_firstFailure` — a failed loading has reported the files before the first failure in full, and
  of that file only that it is being loaded;
* `records_of_firstFailure` — the words in which the log says so (`readRecords`, `loadingRecord`);
* `run_of_firstFailure` — a run that loads such files prints nothing and reports that fault as its error;
* `load_all_or_nothing` — all of this together.
-/
import TargetDocs.Proofs.Run.Ending
import TargetDocs.Session

namespace TargetDocs

/-- The path can be opened, and the bytes there are UTF-8. -/
def Readable (read : Reader) (p : Path) : Prop :=
  ∃ bytes t, read p = .ok bytes ∧ Text.Utf8.decode bytes = .ok t

theorem readable_iff {read : Reader} {p : Path} :
    Readable read p ↔ ∃ t, readText read p = .ok t := by
  constructor
  · rintro ⟨bytes, u, hbytes, hu⟩
    exact ⟨_, readText_eq_ok_iff.mpr ⟨bytes, u, hbytes, hu, rfl⟩⟩
  · rintro ⟨t, ht⟩
    obtain ⟨bytes, u, hbytes, hu, -⟩ := readText_eq_ok_iff.mp ht
    exact ⟨bytes, u, hbytes, hu⟩

namespace Loading

/-- Everything that is reported of a file that can be read. -/
def readNotices (q : Path × Text) : List Notice := .loading q.1 :: fileNotices q.1 q.2

/-- The record that a file is being loaded. -/
def loadingRecord (p : Path) : Record :=
  ⟨.debug, "makedoc.documents".toList, "Loading documentation from ".toList ++ p.shown⟩

/-- The records of a file that can be read: that it is being loaded, its default goal if it has one, each run
of comment lines that documents no target, and the number of the targets that are documented. -/
def readRecords (q : Path × Text) : List Record :=
  let goal := Makefile.defaultGoal q.2
  let ls := Makefile.linesOf q.2
  loadingRecord q.1
    :: (if goal = [] then []
        else [⟨.debug, "makedoc.documents".toList,
          "Default goal of ".toList ++ q.1.shown ++ " is ".toList ++ Text.quoted goal⟩])
    ++ (Makefile.commentRuns ls).filterMap (Makefile.CommentRun.record? ls)
    ++ [⟨.debug, "makedoc.documents".toList,
        "Found ".toList ++ Text.decimal (Makefile.documented q.2).length
          ++ " documented targets in ".toList ++ q.1.shown⟩]

theorem map_record_readNotices (program : Text) (q : Path × Text) :
    (readNotices q).map (·.record program) = readRecords q := by
  rw [readNotices, fileNotices, List.map_cons, List.map_append, List.map_append,
    Makefile.records_notices, readRecords, apply_ite (List.map _)]
  rfl

theorem map_record_flatMap_readNotices (program : Text) (qs : List (Path × Text)) :
    (qs.flatMap readNotices).map (·.record program) = qs.flatMap readRecords := by
  rw [List.map_flatMap]
  exact congrArg (List.flatMap · qs) (funext (map_record_readNotices program))

/-- Among the paths `p` is the first one that cannot be read. Those before it hold the texts that go with
them in `before`, and reading `p` fails with `fault`. -/
structure FirstFailure (read : Reader) (ps : List Path) (before : List (Path × Text)) (p : Path)
    (fault : ReadFault) : Prop where
  split : ∃ after, ps = before.map Prod.fst ++ p :: after
  readText_before : ∀ q ∈ before, readText read q.1 = .ok q.2
  readText_eq_error : readText read p = .error fault

theorem loadInto_append {read : Reader} {before : List (Path × Text)}
    (h : ∀ q ∈ before, readText read q.1 = .ok q.2) (c : Catalogue) (rest : List Path) :
    loadInto read c (before.map Prod.fst ++ rest)
      = ⟨before.flatMap readNotices
            ++ (loadInto read (c.insertAll (before.flatMap (Makefile.entries ·.2))) rest).notices,
          (loadInto read (c.insertAll (before.flatMap (Makefile.entries ·.2))) rest).result⟩ := by
  induction before generalizing c with
  | nil => rfl
  | cons q before ih =>
    have hstep : c.insertAll ((q :: before).flatMap (Makefile.entries ·.2))
        = (c.insertAll (Makefile.entries q.2)).insertAll
            (before.flatMap (Makefile.entries ·.2)) := by
      rw [List.flatMap_cons, Catalogue.insertAll, List.foldl_append]
      rfl
    rw [List.map_cons, List.cons_append, loadInto_cons_ok (h q List.mem_cons_self),
      ih fun x hx => h x (List.mem_cons_of_mem q hx), hstep, List.flatMap_cons, readNotices,
      List.append_assoc]

theorem readable_or_firstFailure (read : Reader) (ps : List Path) :
    (∃ qs : List (Path × Text), ps = qs.map Prod.fst ∧ ∀ q ∈ qs, readText read q.1 = .ok q.2)
      ∨ ∃ before p fault, FirstFailure read ps before p fault := by
  induction ps with
  | nil => exact Or.inl ⟨[], rfl, by simp⟩
  | cons p ps ih =>
    cases hp : readText read p with
    | error fault => exact Or.inr ⟨[], p, fault, ⟨ps, rfl⟩, by simp, hp⟩
    | ok t =>
      have hcons : ∀ {qs : List (Path × Text)}, (∀ q ∈ qs, readText read q.1 = .ok q.2) →
          ∀ q ∈ (p, t) :: qs, readText read q.1 = .ok q.2 := by
        intro qs hqs q hq
        rcases List.mem_cons.mp hq with rfl | hq
        · exact hp
        · exact hqs q hq
      rcases ih with ⟨qs, rfl, hqs⟩ | ⟨before, q, fault, ⟨after, rfl⟩, hbefore, hq⟩
      · exact Or.inl ⟨(p, t) :: qs, rfl, hcons hqs⟩
      · exact Or.inr ⟨(p, t) :: before, q, fault, ⟨after, rfl⟩, hcons hbefore, hq⟩

theorem load_of_readable {read : Reader} {paths : List Text} {qs : List (Path × Text)}
    (hpaths : paths.map Path.ofText = qs.map Prod.fst)
    (h : ∀ q ∈ qs, readText read q.1 = .ok q.2) :
    load read paths
      = ⟨qs.flatMap readNotices,
          .ok (Catalogue.empty.insertAll (qs.flatMap (Makefile.entries ·.2)))⟩ := by
  rw [load, hpaths, ← List.append_nil (qs.map Prod.fst), loadInto_append h, loadInto_nil,
    List.append_nil]

theorem load_of_firstFailure {read : Reader} {paths : List Text} {before : List (Path × Text)}
    {p : Path} {fault : ReadFault}
    (h : FirstFailure read (paths.map Path.ofText) before p fault) :
    load read paths = ⟨before.flatMap readNotices ++ [.loading p], .error fault⟩ := by
  obtain ⟨after, hpaths⟩ := h.split
  rw [load, hpaths, loadInto_append h.readText_before, loadInto_cons_error h.readText_eq_error]

theorem records_of_firstFailure {read : Reader} {paths : List Text} {before : List (Path × Text)}
    {p : Path} {fault : ReadFault}
    (h : FirstFailure read (paths.map Path.ofText) before p fault) (program : Text) :
    (load read paths).notices.map (·.record program)
      = before.flatMap readRecords ++ [loadingRecord p] := by
  rw [load_of_firstFailure h, List.map_append, map_record_flatMap_readNotices]
  rfl

theorem loaded_or_firstFailure (read : Reader) (paths : List Text) :
    (∃ c, (load read paths).result = .ok c)
        ∧ (∀ path ∈ paths, Readable read (Path.ofText path))
      ∨ ∃ before p fault, FirstFailure read (paths.map Path.ofText) before p fault := by
  refine (readable_or_firstFailure read (paths.map Path.ofText)).imp_left ?_
  rintro ⟨qs, hqs, hread⟩
  refine ⟨⟨_, congrArg Loading.result (load_of_readable hqs hread)⟩, fun path hpath => ?_⟩
  have hmem : Path.ofText path ∈ qs.map Prod.fst := hqs ▸ List.mem_map_of_mem hpath
  obtain ⟨q, hq, hpq⟩ := List.mem_map.mp hmem
  exact readable_iff.mpr ⟨q.2, hpq ▸ hread q hq⟩

theorem exists_result_iff {read : Reader} {paths : List Text} :
    (∃ c, (load read paths).result = .ok c)
      ↔ ∀ path ∈ paths, Readable read (Path.ofText path) := by
  rcases loaded_or_firstFailure read paths with ⟨hload, hreadable⟩ | ⟨before, p, fault, hfailure⟩
  · exact ⟨fun _ => hreadable, fun _ => hload⟩
  · constructor
    · rintro ⟨c, hc⟩
      rw [load_of_firstFailure hfailure] at hc
      cases hc
    · intro hreadable
      -- the first failure is at one of the paths, which can be read
      obtain ⟨after, hsplit⟩ := hfailure.split
      have hp : p ∈ paths.map Path.ofText := by
        rw [hsplit]
        exact List.mem_append_right _ List.mem_cons_self
      obtain ⟨path, hpath, rfl⟩ := List.mem_map.mp hp
      obtain ⟨t, ht⟩ := readable_iff.mp (hreadable path hpath)
      rw [hfailure.readText_eq_error] at ht
      cases ht

theorem result_load_eq_error_iff {read : Reader} {paths : List Text} {fault : ReadFault} :
    (load read paths).result = .error fault
      ↔ ∃ before p, FirstFailure read (paths.map Path.ofText) before p fault := by
  constructor
  · intro h
    rcases loaded_or_firstFailure read paths with ⟨⟨c, hc⟩, -⟩ | ⟨before, p, fault', hfailure⟩
    · rw [hc] at h
      cases h
    · rw [load_of_firstFailure hfailure] at h
      obtain rfl := Except.error.inj h
      exact ⟨before, p, hfailure⟩
  · rintro ⟨before, p, hfailure⟩
    rw [load_of_firstFailure hfailure]

/-! ### Runs and sessions -/

theorem verdict_of_fault {fault : ReadFault} (h : ∀ q, fault ≠ .file q .nullCharacter)
    (s : Surroundings) (r : CommandLine.Request) :
    Run.verdict s r (.error fault) = .report (.loadFailed fault) := by
  unfold Run.verdict
  split
  · next q hq => exact absurd (Except.error.inj hq) (h q)
  · next fault' _ hfault => rw [Except.error.inj hfault]
  · next hresult => cases hresult

theorem request_of_firstFailure {s : Surroundings} {r : CommandLine.Request}
    {before : List (Path × Text)} {p : Path} {fault : ReadFault}
    (h : FirstFailure s.read (r.files.map Path.ofText) before p fault) :
    Run.request s r = Run.finish s (Run.logLevel s.preferences r) (load s.read r.files).notices
      (Run.verdict s r (.error fault)) := by
  have hfiles : r.files ≠ [] := by
    intro hnil
    obtain ⟨after, hsplit⟩ := h.split
    rw [hnil] at hsplit
    simp at hsplit
  have hresult : (load s.read r.files).result = .error fault := by rw [load_of_firstFailure h]
  rw [Run.request_of_files hfiles, hresult]

theorem run_of_firstFailure {s : Surroundings} {words : List Text} {r : CommandLine.Request}
    {before : List (Path × Text)} {p : Path} {fault : ReadFault} (hreads : Run.Reads s words r)
    (h : FirstFailure s.read (r.files.map Path.ofText) before p fault)
    (hfault : ∀ q, fault ≠ .file q .nullCharacter) :
    Run.run s words
      = { exit := .code 1
          notices := (load s.read r.files).notices ++ [.loadFailed fault]
          logLevel := some (Run.logLevel s.preferences r) } := by
  rw [Run.run_of_reads hreads, request_of_firstFailure h, verdict_of_fault hfault, Run.finish]

/-- **Loading is all or nothing.** Paths are loaded exactly if all of them can be read, and otherwise the
first one that cannot gives its fault to the whole, after all records of the paths before it and the one
that it is being loaded, and without any about the paths behind it. A run that names these paths ends
with exit code 1, prints nothing, reports this fault as its only error and leaves the files and the
preferences as they are. Paths with a null character are left out there, since a run crashes on them. -/
theorem load_all_or_nothing :
    (∀ (read : Reader) (paths : List Text),
      ((∃ c, (load read paths).result = .ok c) ↔ ∀ path ∈ paths, Readable read (Path.ofText path))
      ∧ (∀ fault, (load read paths).result = .error fault
        ↔ ∃ before p, FirstFailure read (paths.map Path.ofText) before p fault)
      ∧ ∀ before p fault, FirstFailure read (paths.map Path.ofText) before p fault →
        load read paths = ⟨before.flatMap readNotices ++ [.loading p], .error fault⟩
        ∧ ∀ program, (load read paths).notices.map (·.record program)
          = before.flatMap readRecords ++ [loadingRecord p])
    ∧ ∀ (s : Session) (r : CommandLine.Request) before p fault,
      FirstFailure s.files.read (r.files.map Path.ofText) before p fault →
      (∀ q, fault ≠ .file q .nullCharacter) →
      ∀ words outlet origin, Run.Reads (s.surroundings outlet) words r →
        (s.step (.main words outlet origin)).2.answer = .finished (.code 1) []
        ∧ (s.step (.main words outlet origin)).2.records
          = before.flatMap readRecords ++ [loadingRecord p,
            ⟨.error, origin, "failed to load makefiles: ".toList ++ fault.message⟩]
        ∧ (∀ x ∈ before.flatMap readRecords ++ [loadingRecord p], x.level ≠ .error)
        ∧ (s.step (.main words outlet origin)).1.files = s.files
        ∧ (s.step (.main words outlet origin)).1.preferences = s.preferences
        ∧ (s.step (.main words outlet origin)).1.environment = s.environment := by
  refine ⟨fun read paths => ⟨exists_result_iff, fun fault => result_load_eq_error_iff,
    fun before p fault h => ⟨load_of_firstFailure h, records_of_firstFailure h⟩⟩, ?_⟩
  intro s r before p fault h hfault words outlet origin hreads
  have hrun := run_of_firstFailure hreads h hfault
  have hrecords := records_of_firstFailure h origin
  have hlevel : ∀ x ∈ before.flatMap readRecords ++ [loadingRecord p], x.level ≠ .error := by
    rw [← hrecords, List.forall_mem_map]
    exact fun n => level_ne_error_of_mem_notices_load
  have hall : ((load s.files.read r.files).notices ++ [Notice.loadFailed fault]).map (·.record origin)
      = before.flatMap readRecords ++ [loadingRecord p,
        ⟨.error, origin, "failed to load makefiles: ".toList ++ fault.message⟩] := by
    rw [List.map_append, hrecords, List.append_assoc]
    rfl
  rw [Session.step, Session.runMain, hrun]
  exact ⟨rfl, hall, hlevel, rfl, rfl, rfl⟩

/-- The second file is missing and the third one is not UTF-8; the first one documents the target that is
asked for. -/
theorem load_all_or_nothing_missing_second :
    let s : Session :=
      { files := ((⟨[]⟩ : FileTree).write "a.mk".toList
          (.file (Text.Utf8.encode "## one\nx:".toList))).write "c.mk".toList (.file [0xff]) }
    let words := ["-target=x".toList, "a.mk".toList, "b.mk".toList, "c.mk".toList]
    (s.step (.main words .working Area.commandLineOrigin)).2.answer = .finished (.code 1) []
      ∧ (s.step (.main words .working Area.commandLineOrigin)).2.records
        = [⟨.debug, "makedoc.documents".toList, "Loading documentation from a.mk".toList⟩,
          ⟨.debug, "makedoc.documents".toList, "Found 1 documented targets in a.mk".toList⟩,
          ⟨.debug, "makedoc.documents".toList, "Loading documentation from b.mk".toList⟩,
          ⟨.error, Area.commandLineOrigin, ("failed to load makefiles: "
            ++ "[Errno 2] No such file or directory: 'b.mk'").toList⟩] := by
  intro s words
  have hreads : Run.Reads (s.surroundings .working) words
      { files := ["a.mk".toList, "b.mk".toList, "c.mk".toList], target := "x".toList } :=
    ⟨by decide +kernel, rfl⟩
  have hfailure : FirstFailure s.files.read
      (["a.mk".toList, "b.mk".toList, "c.mk".toList].map Path.ofText)
      [(Path.ofText "a.mk".toList, "## one\nx:".toList)] (Path.ofText "b.mk".toList)
      (.file (Path.ofText "b.mk".toList) .missing) :=
    ⟨⟨[Path.ofText "c.mk".toList], rfl⟩,
      fun q hq => List.mem_singleton.mp hq ▸ rfl, rfl⟩
  obtain ⟨hanswer, hrecords, -⟩ := load_all_or_nothing.2 s _ _ _ _ hfailure (by simp) words .working
    Area.commandLineOrigin hreads
  refine ⟨hanswer, ?_⟩
  rw [hrecords]
  decide +kernel

end Loading

end TargetDocs
