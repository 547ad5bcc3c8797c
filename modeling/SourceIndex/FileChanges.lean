import SourceIndex.Manifest
import SourceIndex.Order

/-!
# Changes of files

A scan compared with a manifest. Only digests count: a file is unchanged if its content has the
digest that the manifest remembers.
-/

namespace SourceIndex

/-- A tracked file as a scan found it. -/
structure ScannedFile where
  path : String
  language : Language
  hash : String
  size : UInt64
  lastModified : Option Instant
  deriving DecidableEq

/-- A file whose content differs from what the manifest remembers. -/
structure FileChange where
  path : String
  oldHash : String
  newHash : String
  oldSize : UInt64
  newSize : UInt64
  deriving DecidableEq, Repr

/-- The difference of two sizes as signed words. -/
def sizeDelta (old new : UInt64) : Int64 := new.toInt64 - old.toInt64

/-- How the files of a scan relate to a manifest. All lists are in order of paths. -/
structure FileChanges where
  added : List String := []
  modified : List FileChange := []
  deleted : List String := []
  unchanged : List String := []
  /-- The scan itself. -/
  current : KeyMap ScannedFile := .empty

namespace FileChanges

/-- The change of a scanned file that the manifest remembers with another digest. -/
def change? (manifest : Option Manifest) (file : ScannedFile) : Option FileChange := do
  let entry ← (← manifest).file? file.path
  if entry.hash = file.hash then none
  else some ⟨file.path, entry.hash, file.hash, entry.size, file.size⟩

/-- Whether a manifest remembers a path. -/
def known (manifest : Option Manifest) (path : String) : Bool :=
  (manifest.bind (·.file? path)).isSome

/-- Compares a scan, in which a later file replaces an earlier one of the same path, with a
manifest. -/
def compare (scanned : List ScannedFile) (manifest : Option Manifest) : FileChanges :=
  let current := KeyMap.ofList (scanned.map fun file => (file.path, file))
  let files := current.values
  { added := (files.filter fun file => !known manifest file.path).map (·.path)
    modified := files.filterMap (change? manifest)
    deleted :=
      match manifest with
      | some manifest => manifest.files.keys.filter fun path => !current.contains path
      | none => []
    unchanged :=
      (files.filter fun file =>
        known manifest file.path && (change? manifest file).isNone).map (·.path)
    current }

/-- Whether nothing was added, modified or deleted. -/
def isEmpty (changes : FileChanges) : Bool :=
  changes.added.isEmpty && changes.modified.isEmpty && changes.deleted.isEmpty

/-- Whether a path is among the modified ones. -/
def isModified (changes : FileChanges) (path : String) : Bool :=
  changes.modified.any (·.path = path)

/-- The paths of the scan that have to be analysed, in order. -/
def stalePaths (changes : FileChanges) : List String :=
  Order.sortTexts (changes.added ++ changes.modified.map (·.path))

end FileChanges

end SourceIndex
