/-
Loading the documentation of Makefiles.

Files are read in the order in which they are named. An entry of a later file, or of a later line of
one file, takes the place of an earlier one for the same target, with its mark for the default goal.
The first file that cannot be read ends the loading without a result.

Main statements:
* `loadInto_nil`, `loadInto_cons_ok`, `loadInto_cons_error` — one step of the loading.
-/
import TargetDocs.Catalogue
import TargetDocs.Log
import TargetDocs.Makefile.Goal

namespace TargetDocs

/-- What there is to report about a comment block. -/
def Makefile.BlockEnd.notice? : Makefile.BlockEnd → Option Notice
  | .documents _ => none
  | .discardedAt line => some (.discardedAt line)
  | .discardedAtEnd => some .discardedAtEnd

/-- The notices of a scan. -/
def Makefile.notices (t : Text) : List Notice :=
  (Makefile.blockEnds t).filterMap Makefile.BlockEnd.notice?

/-- The entries of a Makefile in its order, with its own default goal marked. -/
def Makefile.entries (t : Text) : List Entry := Entry.ofMakefile (Makefile.defaultGoal t) t

/-- What came of loading. -/
structure Loading where
  notices : List Notice
  result : Except ReadFault Catalogue

namespace Loading

/-- The notices about a file that was read, after the one that it is loaded. -/
def fileNotices (p : Path) (t : Text) : List Notice :=
  let goal := Makefile.defaultGoal t
  (if goal = [] then [] else [.goalFound p goal])
    ++ Makefile.notices t ++ [.loaded (Makefile.documented t).length p]

/-- Loads files into a catalogue. -/
def loadInto (read : Reader) (c : Catalogue) : List Path → Loading
  | [] => ⟨[], .ok c⟩
  | p :: ps =>
    match readText read p with
    | .error fault => ⟨[.loading p], .error fault⟩
    | .ok t =>
      let rest := loadInto read (c.insertAll (Makefile.entries t)) ps
      ⟨.loading p :: fileNotices p t ++ rest.notices, rest.result⟩

/-- Loads the files of the given paths. -/
def load (read : Reader) (paths : List Text) : Loading :=
  loadInto read .empty (paths.map Path.ofText)

@[simp] theorem loadInto_nil (read : Reader) (c : Catalogue) : loadInto read c [] = ⟨[], .ok c⟩ := rfl

theorem loadInto_cons_error {read : Reader} {p : Path} {fault : ReadFault}
    (h : readText read p = .error fault) (c : Catalogue) (ps : List Path) :
    loadInto read c (p :: ps) = ⟨[.loading p], .error fault⟩ := by
  rw [loadInto, h]

theorem loadInto_cons_ok {read : Reader} {p : Path} {t : Text} (h : readText read p = .ok t)
    (c : Catalogue) (ps : List Path) :
    loadInto read c (p :: ps)
      = ⟨.loading p :: fileNotices p t
            ++ (loadInto read (c.insertAll (Makefile.entries t)) ps).notices,
          (loadInto read (c.insertAll (Makefile.entries t)) ps).result⟩ := by
  rw [loadInto, h]

end Loading

end TargetDocs
