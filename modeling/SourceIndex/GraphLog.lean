import SourceIndex.Json.Reader
import SourceIndex.Json.Writer
import SourceIndex.Store
import SourceIndex.Text.Basic

/-!
# Graph log

The text of a store: one record a line. Reading skips blank lines, and a line that is no record
makes the whole log unusable.
-/

namespace SourceIndex.GraphLog

/-- The line of a record, with its end. -/
def line (record : Record) : List Char := record.toJson.write none ++ ['\n']

/-- The text of a store. -/
def write (store : Store) : String := String.ofList (store.records.flatMap line)

/-- The record that a line holds. -/
def record? (line : List Char) : Option Record := (Json.read line).bind Record.ofJson?

/-- The records of numbered lines, or the number of the first line that holds none. -/
def records (number : Nat) : List (List Char) → Except Nat (List Record)
  | [] => .ok []
  | line :: lines =>
    if line.all Text.isBlank then records (number + 1) lines
    else
      match record? line with
      | none => .error number
      | some record => (records (number + 1) lines).map (record :: ·)

/-- The store that a text holds, or the number of the first bad line. -/
def read (text : String) : Except Nat Store :=
  (records 1 (Text.lines text.toList)).map Store.ofRecords

end SourceIndex.GraphLog
