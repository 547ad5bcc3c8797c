import SourceIndex.GraphLog
import SourceIndex.Proofs.Documents
import SourceIndex.Proofs.Store

/-!
# The graph log read back

A line of the log holds no control character, so that splitting the log into lines never cuts a
record, and reading the log gives the records that were written, in their order. Logs of stores can
be concatenated: a record of the second takes the place of one with the same key in the first.
-/

namespace SourceIndex

/-! ## Control characters -/

namespace Json

/-- A text without control characters. -/
def Printable (text : List Char) : Prop := ∀ c ∈ text, ¬c < ' '

instance (text : List Char) : Decidable (Printable text) :=
  List.decidableBAll (fun c => ¬c < ' ') text

@[simp] theorem printable_nil : Printable [] := by decide

@[simp] theorem printable_append {left right : List Char} :
    Printable (left ++ right) ↔ Printable left ∧ Printable right :=
  List.forall_mem_append

@[simp] theorem printable_cons {c : Char} {text : List Char} :
    Printable (c :: text) ↔ ¬c < ' ' ∧ Printable text :=
  List.forall_mem_cons

/-- Every control character is escaped. -/
theorem printable_escape (c : Char) : Printable (escape c) := by
  by_cases control : c < ' '
  · have codes : ∀ code < 32, Printable (escape (Char.ofNat code)) := by decide
    simpa [Char.ofNat_toNat] using codes c.toNat control
  · have visible : ' ' ≤ c := Char.not_lt.1 control
    rw [escape]
    split_ifs <;> simp [visible]

theorem printable_quote (value : Option String) : Printable (quote value) := by
  cases value with
  | none => decide
  | some text =>
    have inner : Printable (text.toList.flatMap escape) := by
      intro c member
      obtain ⟨source, _, listed⟩ := List.mem_flatMap.1 member
      exact printable_escape source c listed
    simp [quote, inner]

theorem printable_toDigits (value : Nat) : Printable (Nat.toDigits 10 value) := by
  intro c member control
  have digit := Text.isDigit_of_mem_toDigits member
  simp only [Text.isDigit, Bool.and_eq_true, decide_eq_true_eq] at digit
  exact absurd (Nat.lt_of_lt_of_le control (by decide)) (Nat.not_lt.2 digit.1)

theorem printable_writeElements {items : List Json}
    (all : ∀ item ∈ items, Printable (write none item)) :
    Printable (writeElements none items) := by
  induction items with
  | nil => decide
  | cons item items ih =>
    have rest := ih fun other member => all other (List.mem_cons_of_mem _ member)
    have first := all item (List.mem_cons_self ..)
    simp [pad, first, rest]

theorem printable_writeMembers {fields : List (Option String × Json)}
    (all : ∀ field ∈ fields, Printable (write none field.2)) :
    Printable (writeMembers none fields) := by
  induction fields with
  | nil => decide
  | cons field fields ih =>
    have rest := ih fun other member => all other (List.mem_cons_of_mem _ member)
    have first := all field (List.mem_cons_self ..)
    simp [pad, colon, printable_quote, first, rest]

/-- A document on one line has no control characters. -/
theorem Plain.printable {document : Json} (plain : Plain document) :
    Printable (document.write none) := by
  induction plain with
  | null => decide
  | bool value => cases value <;> decide
  | natural value => exact printable_toDigits value
  | string value => exact printable_quote value
  | @array items _ ih =>
    cases items with
    | nil => decide
    | cons first others =>
      have here := ih first (List.mem_cons_self ..)
      have rest :=
        printable_writeElements fun item member => ih item (List.mem_cons_of_mem _ member)
      simp [pad, here, rest]
  | @object fields _ ih =>
    cases fields with
    | nil => decide
    | cons first others =>
      have here := ih first (List.mem_cons_self ..)
      have rest := printable_writeMembers fun item member => ih item (List.mem_cons_of_mem _ member)
      simp [pad, colon, printable_quote, here, rest]

end Json

/-! ## The log -/

namespace GraphLog

/-- The line of a record reads back as the record. -/
theorem record?_line (record : Record) : record? (record.toJson.write none) = some record := by
  rw [record?, Json.read_write record.plain_toJson, Option.bind_some, Record.ofJson?_toJson]

/-- The line of a record starts with a brace. -/
theorem not_blank_line (record : Record) :
    (record.toJson.write none).all Text.isBlank = false := by
  have brace : Text.isBlank '\x7b' = false := by decide
  simp [Record.toJson, brace]

theorem records_lines (number : Nat) (listed : List Record) :
    records number (listed.map fun record => record.toJson.write none) = .ok listed := by
  induction listed generalizing number with
  | nil => rfl
  | cons record rest ih =>
    rw [List.map_cons, records, not_blank_line, record?_line, ih]
    rfl

/-- The lines of records, joined, fall apart into the lines of the records. -/
theorem lines_flatMap_line (listed : List Record) :
    Text.lines (listed.flatMap line) = listed.map fun record => record.toJson.write none := by
  have whole : ∀ line ∈ listed.map (fun record => record.toJson.write none),
      '\n' ∉ line ∧ '\r' ∉ line := by
    intro line member
    obtain ⟨record, _, rfl⟩ := List.mem_map.1 member
    have printable := record.plain_toJson.printable
    exact ⟨fun feed => printable _ feed (by decide), fun feed => printable _ feed (by decide)⟩
  have split := Text.lines_flatMap whole
  rw [List.flatMap_map] at split
  exact split

/-- A line with something on it that is no record. -/
def Malformed (line : List Char) : Prop := line.all Text.isBlank = false ∧ record? line = none

theorem exists_error_records_iff {number : Nat} {lines : List (List Char)} :
    (∃ bad, records number lines = .error bad) ↔ ∃ line ∈ lines, Malformed line := by
  induction lines generalizing number with
  | nil => simp [records]
  | cons line lines ih =>
    rw [records, List.exists_mem_cons_iff, ← @ih (number + 1), Malformed]
    cases line.all Text.isBlank with
    | true => simp
    | false =>
      cases record? line with
      | none => simp
      | some record => cases records (number + 1) lines <;> simp [Except.map]

/-- A text can be read as a store exactly if none of its lines is malformed. -/
theorem exists_error_read_iff {text : String} :
    (∃ bad, read text = .error bad) ↔ ∃ line ∈ Text.lines text.toList, Malformed line := by
  rw [read, ← @exists_error_records_iff 1]
  cases records 1 (Text.lines text.toList) <;> simp [Except.map]

/-- The joined lines of records read as the store of the records. -/
theorem read_flatMap_line (listed : List Record) :
    read (String.ofList (listed.flatMap line)) = .ok (Store.ofRecords listed) := by
  rw [read, String.toList_ofList, lines_flatMap_line, records_lines]
  rfl

/-- A written log reads back as a store with the same records. -/
theorem read_write (store : Store) :
    ∃ found, read (write store) = .ok found ∧ found.records = store.records :=
  ⟨Store.ofRecords store.records, read_flatMap_line store.records,
    Store.records_ofRecords store.distinct⟩

/-- Logs one after the other are the log of the records one after the other. -/
theorem write_append_write (first second : Store) :
    write first ++ write second =
      String.ofList ((first.records ++ second.records).flatMap line) := by
  rw [write, write, List.flatMap_append, String.ofList_append]

/-- The log format concatenates and round-trips. Two logs one after the other read as the store of
all their records, in which a record of the second log takes the place of one with its key in the
first. One log reads back as the store that was written. -/
theorem read_concatenated (first second : Store) :
    read (write first ++ write second) = .ok (Store.ofRecords (first.records ++ second.records)) ∧
      (Store.ofRecords (first.records ++ second.records)).records =
        first.records.filter (fun record => record.key ∉ second.records.map Record.key) ++
          second.records ∧
      ∃ found, read (write first) = .ok found ∧ found.Same first := by
  refine ⟨?_, Store.records_ofRecords_append first second, ?_⟩
  · rw [write_append_write, read_flatMap_line]
  · obtain ⟨found, back, records⟩ := read_write first
    exact ⟨found, back, Store.same_of_records records⟩

end GraphLog

end SourceIndex
