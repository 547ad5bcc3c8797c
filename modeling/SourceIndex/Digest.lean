import SourceIndex.Digest.Sha256
import SourceIndex.Digest.Blake3
import SourceIndex.Text.Layout

/-!
# Digests

The digests by which the manifest recognises unchanged content, written as lower-case hexadecimal.
-/

namespace SourceIndex

/-- A digest function. -/
inductive Digest where
  | sha256
  | blake3
  deriving DecidableEq, Repr

namespace Digest

/-- The name of a digest in configuration and manifest. -/
def name : Digest → String
  | sha256 => "sha256"
  | blake3 => "blake3"

/-- The digest with a name. -/
def ofName? (name : String) : Option Digest := [sha256, blake3].find? (·.name = name)

/-- A name refers to one digest. -/
@[simp] theorem ofName?_name (digest : Digest) : ofName? digest.name = some digest := by
  cases digest <;> decide

/-- Two hexadecimal digits. -/
def hexByte (byte : UInt8) : List Char :=
  [Nat.digitChar (byte.toNat / 16), Nat.digitChar (byte.toNat % 16)]

/-- The hexadecimal text of bytes. -/
def hex (bytes : List UInt8) : String := String.ofList (bytes.flatMap hexByte)

/-- The digest of the content of a file. -/
def ofBytes (digest : Digest) (content : ByteArray) : String :=
  match digest with
  | sha256 => hex (Sha256.digest content.data.toList)
  | blake3 => hex (Blake3.digest content.data.toList)

/-- The digest of a unit's source, which ignores its layout. -/
def ofSource (digest : Digest) (source : String) : String :=
  digest.ofBytes (Text.normalize source).toUTF8

end Digest

end SourceIndex
