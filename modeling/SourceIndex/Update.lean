import SourceIndex.Store
import SourceIndex.UnitChanges

/-!
# Updates of a store

An update removes what is stale from a store and appends what was derived afresh.
-/

namespace SourceIndex

/-- A stale file after its analysis. -/
structure AnalyzedFile where
  path : String
  /-- All records of the file, or only the ones derived afresh if its units are tracked. -/
  records : List Record
  /-- The changes of its units, if they are tracked. -/
  changes : Option UnitChanges

/-- The outcome of an update. -/
structure Update where
  store : Store
  removed : Nat
  inserted : Nat

namespace Update

/-- The changes by which a file is updated unit by unit; otherwise it is replaced as a whole. -/
def unitChanges? (granularity : Granularity) (file : AnalyzedFile) : Option UnitChanges :=
  match granularity, file.changes with
  | .unit, some changes => if changes.hasBaseline then some changes else none
  | _, _ => none

/-- What an update takes out of a store. -/
structure Removal where
  /-- The files that lose all their records. -/
  files : List String
  /-- The identifiers that go, by file. -/
  ids : KeyMap (List String)

namespace Removal

/-- Adds what an analysed file replaces: the units that are stale or were derived afresh, or the
file as a whole. -/
def add (granularity : Granularity) (removal : Removal) (file : AnalyzedFile) : Removal :=
  match unitChanges? granularity file with
  | none => { removal with files := file.path :: removal.files }
  | some changes =>
    let known := (removal.ids.get? file.path).getD []
    let gone := known ++ changes.staleIds ++ file.records.map (·.id)
    { removal with ids := removal.ids.insert file.path gone }

/-- Whether a record goes. -/
def takes (removal : Removal) (record : Record) : Bool :=
  removal.files.contains record.file
    || (removal.ids.get? record.file).any (·.contains record.id)

end Removal

/-- What goes with the deleted and the analysed files. -/
def removal (granularity : Granularity) (deleted : List String) (analyzed : List AnalyzedFile) :
    Removal :=
  analyzed.foldl (Removal.add granularity) ⟨deleted, .empty⟩

/-- Removes the records of deleted files and the stale ones of analysed files, and appends the fresh
ones. -/
def apply (granularity : Granularity) (store : Store) (deleted : List String)
    (analyzed : List AnalyzedFile) : Update :=
  let removal := removal granularity deleted analyzed
  let kept := store.retain fun record => !removal.takes record
  let fresh := analyzed.flatMap (·.records)
  ⟨fresh.foldl Store.insert kept, store.size - kept.size, fresh.length⟩

end Update

end SourceIndex
