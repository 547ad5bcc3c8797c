import SourceIndex.Disk.Basic
import SourceIndex.Language
import SourceIndex.Order

/-!
# Walking a folder

The files of a folder whose language is known, in order of their keys. The folders that are still to
be read wait in a queue, and the folders that one of them lists come to its end. Links are not
followed, and what cannot be read is passed over.
-/

namespace SourceIndex

/-- A file that a walk found. -/
structure WalkedFile where
  /-- Its names below the root, joined by separators. -/
  path : String
  language : Language
  file : DiskFile

namespace Walk

/-- Names of folders that are left out wherever they appear. -/
def skippedFolders : List String :=
  [".git", ".arbor", "node_modules", "dist", "build", "target", ".next", ".nuxt", "__pycache__",
   ".pytest_cache", "coverage", ".nyc_output", "vendor", ".venv", "venv", ".tox", ".mypy_cache"]

/-- What a walk is told: which paths are ignored, how large a file may be, and what cannot be read.
Paths are given by their names below the root. -/
structure Filter where
  ignored : (names : List String) → (isFolder : Bool) → Bool
  maxFileSize : Nat
  /-- The folder, which may be the root, cannot be listed. -/
  unlisted : (names : List String) → Bool
  /-- The folder that lists the entry does not tell its kind, or its size. -/
  untold : (names : List String) → Bool

/-- A folder that waits to be read, with the names that lead to it from the root. -/
structure Unread where
  above : List String
  entries : Folder

namespace Filter

variable (filter : Filter)

/-- Whether an entry of a folder is seen: the folder can be listed, and it tells what the entry
is. -/
def sees (above : List String) (name : String) : Bool :=
  !filter.unlisted above && !filter.untold (above ++ [name])

/-- Whether a folder is entered. -/
def enters (above : List String) (name : String) : Bool :=
  filter.sees above name && !skippedFolders.contains name && !filter.ignored (above ++ [name]) true

/-- The walked file of a file, if it is tracked. -/
def tracked? (above : List String) (name : String) (file : DiskFile) : Option WalkedFile :=
  let names := above ++ [name]
  match Language.ofPath? (Path.key names) with
  | none => none
  | some language =>
    if filter.sees above name && !filter.ignored names false
        && file.content.size ≤ filter.maxFileSize then
      some ⟨Path.key names, language, file⟩
    else none

/-- The tracked files that a folder lists. -/
def filesOf (folder : Unread) : List WalkedFile :=
  folder.entries.filterMap fun entry =>
    match entry.2 with
    | .file file => filter.tracked? folder.above entry.1 file
    | _ => none

/-- The folders that a folder lists, without those that are not entered. -/
def foldersOf (folder : Unread) : List Unread :=
  folder.entries.filterMap fun entry =>
    match entry.2 with
    | .folder entries =>
      if filter.enters folder.above entry.1 then some ⟨folder.above ++ [entry.1], entries⟩ else none
    | _ => none

/-- Reads the folders of a queue, and those below them, and adds their files to the ones found
before. `bound` limits the number of folders that are read; there is no result if more are left. -/
def readAll? : (bound : Nat) → (queue : List Unread) → (found : List WalkedFile) →
    Option (List WalkedFile)
  | _, [], found => some found
  | 0, _ :: _, _ => none
  | bound + 1, folder :: queue, found =>
    readAll? bound (queue ++ filter.foldersOf folder) (found ++ filter.filesOf folder)

end Filter

mutual

/-- The number of folders of a node. -/
def folderCount : DiskNode → Nat
  | .file _ => 0
  | .link _ => 0
  | .folder entries => folderCountAll entries + 1

/-- The number of folders of the entries of a folder. -/
def folderCountAll : List (String × DiskNode) → Nat
  | [] => 0
  | (_, node) :: rest => folderCount node + folderCountAll rest

end

/-- All tracked files below a root folder, in the order in which they are found. -/
def found? (filter : Filter) (root : Folder) : Option (List WalkedFile) :=
  filter.readAll? (folderCountAll root + 1) [⟨[], root⟩] []

/-- All tracked files below a root folder, in order of their keys. -/
def files (filter : Filter) (root : Folder) : List WalkedFile :=
  Order.sortBy (fun a b => decide (a.path ≤ b.path)) ((found? filter root).getD [])

end Walk

end SourceIndex
