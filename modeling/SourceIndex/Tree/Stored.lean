import SourceIndex.Digest
import SourceIndex.Disk.Basic
import SourceIndex.Json.Reader
import SourceIndex.Tree.Listing

/-!
# Stored syntax trees

A parser that looks trees up in a folder. The tree of a text is stored in a file that is named for
the digest of the text and its language.
-/

namespace SourceIndex.Node

/-- The name of the file with the tree of a text. -/
def storedName (language : Language) (text : String) : String :=
  Digest.sha256.ofBytes text.toUTF8 ++ "." ++ language.name ++ ".json"

/-- The tree in a file. -/
def ofFile? (file : DiskFile) : Option Node := do
  let text ← String.fromUTF8? file.content
  ofJson? (← Json.read text.toList)

/-- The parser that looks trees up in a folder. A text without a stored tree has no nodes but the
root. -/
def storedParser (folder : Folder) : Parser := fun language text =>
  let found := match folder.get? (storedName language text) with
    | some (.file file) => ofFile? file
    | _ => none
  found.getD (leaf "" 0 text.utf8ByteSize)

end SourceIndex.Node
