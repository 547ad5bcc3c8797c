import Mathlib.Data.List.DropRight
import SourceIndex.Json.Reader
import SourceIndex.Json.Writer
import SourceIndex.Proofs.Text

/-!
# Documents read back

A document whose numbers are natural reads back from both of its written forms, whatever follows it,
as long as a number at its end is not continued. The bound of the reader suffices because every
nested value takes at least one character.
-/

namespace SourceIndex.Json

/-- A document in which every number is natural. -/
inductive Plain : Json → Prop where
  | null : Plain .null
  | bool (value : Bool) : Plain (.bool value)
  | natural (value : Nat) : Plain (.number (.natural value))
  | string (value : Option String) : Plain (.string value)
  | array {items : List Json} : (∀ item ∈ items, Plain item) → Plain (.array items)
  | object {fields : List (Option String × Json)} :
      (∀ field ∈ fields, Plain field.2) → Plain (.object fields)

/-! ## Strings -/

theorem hexUnit?_control {code : Nat} (control : code < 32) :
    hexUnit? '0' '0' (Nat.digitChar (code / 16)) (Nat.digitChar (code % 16)) = some code := by
  have codes : ∀ code < 32,
      hexUnit? '0' '0' (Nat.digitChar (code / 16)) (Nat.digitChar (code % 16)) = some code := by
    decide
  exact codes code control

@[simp] theorem pieces_quote (rest : List Char) : pieces ('"' :: rest) = some ([], rest) := rfl

@[simp] theorem pieces_unit (a b c d : Char) (rest : List Char) :
    pieces ('\\' :: 'u' :: a :: b :: c :: d :: rest) =
      (hexUnit? a b c d).bind fun unit =>
        (pieces rest).bind fun (more, rest) => some (.ofUnit unit :: more, rest) := rfl

/-- An escape of a control character stands for the character. -/
theorem pieces_unicodeEscape {c : Char} (control : c < ' ') (rest : List Char) :
    pieces (unicodeEscape c.toNat ++ rest) =
      (pieces rest).map fun (more, rest) => (.char c :: more, rest) := by
  have small : c.toNat < 32 := control
  have unit : Piece.ofUnit c.toNat = .char c := by
    rw [Piece.ofUnit, if_neg (by omega), Char.ofNat_toNat]
  simp only [unicodeEscape, List.cons_append, List.nil_append]
  rw [pieces_unit, hexUnit?_control small, Option.bind_some]
  cases pieces rest with
  | none => rfl
  | some found => simp [unit]

/-- A backslash and a letter stand for the character of that letter. -/
theorem pieces_backslash {letter c : Char} (known : escaped? letter = some c) (rest : List Char) :
    pieces ('\\' :: letter :: rest) =
      (pieces rest).map fun (more, rest) => (.char c :: more, rest) := by
  have differs : letter ≠ 'u' := by
    rintro rfl
    simp [escaped?] at known
  rw [pieces.eq_4 letter rest fun _ _ _ _ _ equal _ => differs equal, known]
  cases pieces rest <;> rfl

/-- A character without an escape stands for itself. -/
theorem pieces_cons {c : Char} (quote : c ≠ '"') (backslash : c ≠ '\\') (control : ¬c < ' ')
    (rest : List Char) :
    pieces (c :: rest) = (pieces rest).map fun (more, rest) => (.char c :: more, rest) := by
  rw [pieces.eq_5 c rest quote (fun _ _ _ _ _ equal _ => backslash equal)
      fun _ _ equal _ => backslash equal, if_neg (by simp [control, backslash])]
  cases pieces rest <;> rfl

/-- An escaped character is read as one piece. -/
theorem pieces_escape (c : Char) (rest : List Char) :
    pieces (escape c ++ rest) =
      (pieces rest).map fun (more, rest) => (.char c :: more, rest) := by
  rw [escape]
  split
  case isTrue quote =>
    subst quote
    exact pieces_backslash rfl rest
  split
  case isTrue backslash =>
    subst backslash
    exact pieces_backslash rfl rest
  split
  case isTrue backspace =>
    subst backspace
    exact pieces_backslash rfl rest
  split
  case isTrue feed =>
    subst feed
    exact pieces_backslash rfl rest
  split
  case isTrue newline =>
    subst newline
    exact pieces_backslash rfl rest
  split
  case isTrue carriage =>
    subst carriage
    exact pieces_backslash rfl rest
  split
  case isTrue tab =>
    subst tab
    exact pieces_backslash rfl rest
  split
  case isTrue control => exact pieces_unicodeEscape control rest
  case isFalse quote backslash _ _ _ _ _ control =>
    exact pieces_cons quote backslash control rest

theorem pieces_escapes (text rest : List Char) :
    pieces (text.flatMap escape ++ '"' :: rest) = some (text.map Piece.char, rest) := by
  induction text with
  | nil => exact pieces_quote rest
  | cons c text ih => rw [List.flatMap_cons, List.append_assoc, pieces_escape, ih]; rfl

theorem assemble_chars (text : List Char) : assemble (text.map Piece.char) = some text := by
  induction text with
  | nil => rfl
  | cons c text ih => simp [assemble, ih]

/-- A quoted string reads back. -/
theorem stringBody_quote (value : Option String) (rest : List Char) :
    ∃ body, quote value ++ rest = '"' :: body ∧ stringBody body = some (value, rest) := by
  cases value with
  | none =>
    refine ⟨_, rfl, ?_⟩
    simp [stringBody, hexUnit?, Text.hexValue?, Piece.ofUnit, assemble]
  | some text =>
    refine ⟨text.toList.flatMap escape ++ '"' :: rest, by simp [quote], ?_⟩
    simp [stringBody, pieces_escapes, assemble_chars]

/-! ## Numbers -/

/-- A character that continues a number. -/
def continues (c : Char) : Bool := Text.isDigit c || c == '.' || c == 'e' || c == 'E'

/-- A text in front of which a number ends. -/
def Ends (rest : List Char) : Prop := rest.head?.all (!continues ·) = true

theorem ends_nil : Ends [] := rfl

theorem ends_cons {c : Char} {rest : List Char} (stops : continues c = false) :
    Ends (c :: rest) := by
  simp [Ends, stops]

/-- What follows a number is neither a further digit nor a fraction nor an exponent. -/
theorem head_of_ends {rest : List Char} (ends : Ends rest) :
    rest.head?.all (!Text.isDigit ·) = true ∧ fraction rest = some ([], rest) ∧
      exponent rest = some ([], rest) := by
  cases rest with
  | nil => exact ⟨rfl, rfl, rfl⟩
  | cons c rest =>
    simp only [Ends, continues, List.head?_cons, Option.all_some, Bool.not_eq_eq_eq_not,
      Bool.not_true, Bool.or_eq_false_iff, beq_eq_false_iff_ne] at ends
    obtain ⟨⟨⟨digit, point⟩, small⟩, capital⟩ := ends
    refine ⟨by simp [digit], ?_, ?_⟩
    · rw [fraction]
      intro _ equal
      exact point (List.cons.inj equal).1
    · simp [exponent, small, capital]

/-- The digits of a number read back. -/
theorem magnitude_toDigits (value : Nat) {rest : List Char} (ends : Ends rest) :
    magnitude (Nat.toDigits 10 value ++ rest) = some (.natural value, rest) := by
  obtain ⟨stop, noFraction, noExponent⟩ := head_of_ends ends
  have run := Text.span_append
    (fun c (member : c ∈ Nat.toDigits 10 value) => Text.isDigit_of_mem_toDigits member) stop
  have whole : digits (Nat.toDigits 10 value ++ rest) = some (Nat.toDigits 10 value, rest) := by
    rw [digits, run]
    split
    case h_1 equal => exact absurd (Prod.mk.inj equal).1 Nat.toDigits_ne_nil
    case h_2 => rfl
  have zero : ¬((Nat.toDigits 10 value).head? = some '0' ∧ (Nat.toDigits 10 value).length ≠ 1) :=
    fun leading => leading.2 (Text.length_toDigits_of_zero leading.1)
  simp [magnitude, whole, zero, noFraction, noExponent]

/-! ## Space between tokens -/

@[simp] theorem skip_pad (level : Option Nat) (rest : List Char) :
    skip (pad level ++ rest) = skip rest := by
  cases level with
  | none => rfl
  | some level =>
    have spaces : ∀ count, skip (List.replicate count ' ' ++ rest) = skip rest := by
      intro count
      induction count with
      | zero => rfl
      | succ count ih => simpa [skip, List.replicate_succ, isSpace] using ih
    simpa [pad, skip, isSpace] using spaces (2 * level)

theorem skip_cons {c : Char} (token : isSpace c = false) (rest : List Char) :
    skip (c :: rest) = c :: rest := by
  simp [skip, token]

@[simp] theorem skip_skip (rest : List Char) : skip (skip rest) = skip rest :=
  List.dropWhile_idempotent _ rest

/-- Space in front of a value does not matter. -/
theorem value_congr {first second : List Char} (fuel : Nat) (same : skip first = skip second) :
    value fuel first = value fuel second := by
  cases fuel with
  | zero => rfl
  | succ fuel => rw [value, value, same]

theorem members_congr {first second : List Char} (fuel : Nat) (same : skip first = skip second) :
    members fuel first = members fuel second := by
  cases fuel with
  | zero => rfl
  | succ fuel => rw [members, members, same]

theorem elements_congr {first second : List Char} (fuel : Nat) (same : skip first = skip second) :
    elements fuel first = elements fuel second := by
  cases fuel with
  | zero => rfl
  | succ fuel => rw [elements, elements, value_congr fuel same]

/-! ## Documents as they are written -/

@[simp] theorem write_null (level : Option Nat) : write level .null = ['n', 'u', 'l', 'l'] := rfl

@[simp] theorem write_true (level : Option Nat) :
    write level (.bool true) = ['t', 'r', 'u', 'e'] := rfl

@[simp] theorem write_false (level : Option Nat) :
    write level (.bool false) = ['f', 'a', 'l', 's', 'e'] := rfl

@[simp] theorem write_number (level : Option Nat) (number : JsonNumber) :
    write level (.number number) = spell number := rfl

@[simp] theorem write_string (level : Option Nat) (text : Option String) :
    write level (.string text) = quote text := rfl

@[simp] theorem write_array_nil (level : Option Nat) : write level (.array []) = ['[', ']'] := rfl

@[simp] theorem write_object_nil (level : Option Nat) :
    write level (.object []) = ['\x7b', '\x7d'] := rfl

@[simp] theorem write_array_cons (level : Option Nat) (first : Json) (others : List Json) :
    write level (.array (first :: others)) =
      '[' :: (pad (level.map (· + 1)) ++ (write (level.map (· + 1)) first ++
        (writeElements (level.map (· + 1)) others ++ (pad level ++ [']'])))) := by
  change _ ++ _ ++ _ ++ _ ++ _ = _
  simp

@[simp] theorem write_object_cons (level : Option Nat) (field : Option String × Json)
    (others : List (Option String × Json)) :
    write level (.object (field :: others)) =
      '\x7b' :: (pad (level.map (· + 1)) ++ (quote field.1 ++ (colon level ++
        (write (level.map (· + 1)) field.2 ++
          (writeMembers (level.map (· + 1)) others ++ (pad level ++ ['\x7d'])))))) := by
  change _ ++ _ ++ _ ++ _ ++ _ ++ _ ++ _ = _
  simp

@[simp] theorem writeElements_nil (level : Option Nat) : writeElements level [] = [] := rfl

@[simp] theorem writeElements_cons (level : Option Nat) (item : Json) (items : List Json) :
    writeElements level (item :: items) =
      ',' :: (pad level ++ (write level item ++ writeElements level items)) := by
  change _ ++ _ ++ _ = _
  simp

@[simp] theorem writeMembers_nil (level : Option Nat) : writeMembers level [] = [] := rfl

@[simp] theorem writeMembers_cons (level : Option Nat) (field : Option String × Json)
    (fields : List (Option String × Json)) :
    writeMembers level (field :: fields) =
      ',' :: (pad level ++ (quote field.1 ++ (colon level ++
        (write level field.2 ++ writeMembers level fields)))) := by
  change _ ++ _ ++ _ ++ _ ++ _ = _
  simp

/-! ## Values -/

/-- A document that reads back from its written forms. -/
def ReadsBack (document : Json) : Prop :=
  ∀ (level : Option Nat) (rest : List Char) (fuel : Nat), Ends rest →
    (write level document).length ≤ fuel →
    value fuel (write level document ++ rest) = some (document, rest)

/-- A value that starts with a digit is a number. -/
theorem value_of_digit {c : Char} (digit : Text.isDigit c = true) (fuel : Nat) (rest : List Char) :
    value (fuel + 1) (c :: rest) =
      (magnitude (c :: rest)).map fun (found, rest) => (.number found, rest) := by
  have other (mark : Char) (wrong : Text.isDigit mark = false) : c ≠ mark := by
    rintro rfl
    simp [wrong] at digit
  have space : isSpace c = false := by
    simp [isSpace, other ' ' rfl, other '\n' rfl, other '\t' rfl, other '\r' rfl]
  have unsigned : numberAt (c :: rest) = magnitude (c :: rest) := by
    rw [numberAt]
    intro _ equal
    exact other '-' rfl (List.cons.inj equal).1
  rw [value, skip_cons space]
  split
  case h_7 =>
    rw [unsigned]
    cases magnitude (c :: rest) <;> rfl
  all_goals
    rename_i equal
    exact absurd (List.cons.inj equal).1 (other _ rfl)

theorem value_quote (fuel : Nat) (rest : List Char) :
    value (fuel + 1) ('"' :: rest) =
      (stringBody rest).bind fun (found, rest) => some (.string found, rest) := rfl

theorem readsBack_natural (number : Nat) : ReadsBack (.number (.natural number)) := by
  intro level rest fuel ends enough
  have read := magnitude_toDigits number ends
  simp only [write_number, spell] at enough ⊢
  cases digits : Nat.toDigits 10 number with
  | nil => exact absurd digits Nat.toDigits_ne_nil
  | cons c more =>
    have member : c ∈ Nat.toDigits 10 number := by simp [digits]
    have digit := Text.isDigit_of_mem_toDigits member
    cases fuel with
    | zero => simp [digits] at enough
    | succ fuel =>
      rw [digits, List.cons_append] at read
      rw [List.cons_append, value_of_digit digit, read]
      rfl

theorem readsBack_string (text : Option String) : ReadsBack (.string text) := by
  intro level rest fuel _ enough
  obtain ⟨body, opening, read⟩ := stringBody_quote text rest
  rw [write_string] at enough ⊢
  cases fuel with
  | zero => cases text <;> simp [quote] at enough
  | succ fuel =>
    rw [opening, value_quote, read]
    rfl

/-! ## Elements and fields -/

section

variable {fuel : Nat} {input rest after last : List Char} {first : Json}

/-- A value with a closing bracket behind it is the last element. -/
theorem elements_last (read : value fuel input = some (first, rest))
    (closing : skip rest = ']' :: after) :
    elements (fuel + 1) input = some ([first], after) := by
  rw [elements, read]
  simp [closing]

/-- A comma separates a value from the elements that follow. -/
theorem elements_next {others : List Json} (read : value fuel input = some (first, rest))
    (comma : skip rest = ',' :: after) (more : elements fuel after = some (others, last)) :
    elements (fuel + 1) input = some (first :: others, last) := by
  rw [elements, read]
  simp [comma, more]

variable {key : Option String} {body middle : List Char}

/-- A field with a closing brace behind it is the last one. -/
theorem members_last (opening : skip input = '"' :: body)
    (name : stringBody body = some (key, middle)) (colon : skip middle = ':' :: rest)
    (read : value fuel rest = some (first, after)) (closing : skip after = '\x7d' :: last) :
    members (fuel + 1) input = some ([(key, first)], last) := by
  rw [members, opening]
  simp [name, colon, read, closing]

/-- A comma separates a field from those that follow. -/
theorem members_next {others : List (Option String × Json)} {next : List Char}
    (opening : skip input = '"' :: body) (name : stringBody body = some (key, middle))
    (colon : skip middle = ':' :: rest) (read : value fuel rest = some (first, after))
    (comma : skip after = ',' :: next) (more : members fuel next = some (others, last)) :
    members (fuel + 1) input = some ((key, first) :: others, last) := by
  rw [members, opening]
  simp [name, colon, read, comma, more]

end

/-- A closing mark or a line break in front of it ends a number. -/
theorem ends_pad (level : Option Nat) {mark : Char} (stops : continues mark = false)
    (rest : List Char) : Ends (pad level ++ mark :: rest) := by
  cases level with
  | none => exact ends_cons stops
  | some level => exact ends_cons rfl

/-- A mark behind a line break is read next. -/
theorem skip_pad_cons (level : Option Nat) {mark : Char} (token : isSpace mark = false)
    (rest : List Char) : skip (pad level ++ mark :: rest) = mark :: rest := by
  rw [skip_pad, skip_cons token]

/-- The elements of an array read back up to its closing bracket. -/
theorem elements_write (level outer : Option Nat) (rest : List Char) (first : Json)
    (others : List Json) (all : ∀ item ∈ first :: others, ReadsBack item) (fuel : Nat)
    (enough : (write level first ++ writeElements level others).length < fuel) :
    elements fuel (pad level ++ (write level first ++
        (writeElements level others ++ (pad outer ++ ']' :: rest)))) =
      some (first :: others, rest) := by
  induction others generalizing first fuel with
  | nil =>
    cases fuel with
    | zero => simp at enough
    | succ fuel =>
      simp only [writeElements_nil, List.append_nil, List.nil_append] at enough ⊢
      have read := all first (List.mem_cons_self ..) level (pad outer ++ ']' :: rest) fuel
        (ends_pad outer rfl rest) (Nat.lt_succ_iff.1 enough)
      rw [elements_congr _ (skip_pad level _)]
      exact elements_last read (skip_pad_cons outer rfl rest)
  | cons item items ih =>
    cases fuel with
    | zero => simp at enough
    | succ fuel =>
      simp only [writeElements_cons, List.length_append, List.length_cons] at enough
      have read := all first (List.mem_cons_self ..) level
        (writeElements level (item :: items) ++ (pad outer ++ ']' :: rest)) fuel
        (by rw [writeElements_cons]; exact ends_cons rfl) (by omega)
      have others := ih item (fun other member => all other (List.mem_cons_of_mem _ member)) fuel
        (by simp only [List.length_append]; omega)
      rw [elements_congr _ (skip_pad level _)]
      simp only [writeElements_cons, List.cons_append, List.append_assoc] at read ⊢
      exact elements_next read (skip_cons rfl _) others

/-- The mark after a field's name is read with the value behind it. -/
theorem value_colon (fuel : Nat) (level : Option Nat) (rest : List Char) :
    ∃ after, skip (colon level ++ rest) = ':' :: after ∧ value fuel after = value fuel rest := by
  cases level with
  | none => exact ⟨rest, rfl, rfl⟩
  | some level => exact ⟨' ' :: rest, rfl, value_congr fuel rfl⟩

/-- The fields of an object read back up to its closing brace. -/
theorem members_write (level outer mark : Option Nat) (rest : List Char) (key : Option String)
    (first : Json) (others : List (Option String × Json))
    (all : ∀ field ∈ (key, first) :: others, ReadsBack field.2) (fuel : Nat)
    (enough : (write level first ++ writeMembers level others).length < fuel) :
    members fuel (pad level ++ (quote key ++ (colon mark ++ (write level first ++
        (writeMembers level others ++ (pad outer ++ '\x7d' :: rest)))))) =
      some ((key, first) :: others, rest) := by
  have firstBack : ReadsBack first := all (key, first) (List.mem_cons_self ..)
  induction others generalizing mark key first fuel with
  | nil =>
    cases fuel with
    | zero => simp at enough
    | succ fuel =>
      simp only [writeMembers_nil, List.append_nil, List.nil_append] at enough ⊢
      have read := firstBack level (pad outer ++ '\x7d' :: rest) fuel (ends_pad outer rfl rest)
        (Nat.lt_succ_iff.1 enough)
      obtain ⟨after, sign, same⟩ := value_colon fuel mark
        (write level first ++ (pad outer ++ '\x7d' :: rest))
      obtain ⟨body, opening, name⟩ := stringBody_quote key
        (colon mark ++ (write level first ++ (pad outer ++ '\x7d' :: rest)))
      rw [members_congr _ (skip_pad level _), opening]
      exact members_last (skip_cons rfl body) name sign (same.trans read)
        (skip_pad_cons outer rfl rest)
  | cons field fields ih =>
    cases fuel with
    | zero => simp at enough
    | succ fuel =>
      simp only [writeMembers_cons, List.length_append, List.length_cons] at enough
      have listed : ∀ other ∈ field :: fields, ReadsBack other.2 :=
        fun other member => all other (List.mem_cons_of_mem _ member)
      have read := firstBack level
        (writeMembers level (field :: fields) ++ (pad outer ++ '\x7d' :: rest)) fuel
        (by rw [writeMembers_cons]; exact ends_cons rfl) (by omega)
      have others := ih level field.1 field.2 listed fuel
        (by simp only [List.length_append]; omega) (listed field (List.mem_cons_self ..))
      obtain ⟨after, sign, same⟩ := value_colon fuel mark
        (write level first ++
          (writeMembers level (field :: fields) ++ (pad outer ++ '\x7d' :: rest)))
      obtain ⟨body, opening, name⟩ := stringBody_quote key
        (colon mark ++ (write level first ++
          (writeMembers level (field :: fields) ++ (pad outer ++ '\x7d' :: rest))))
      rw [members_congr _ (skip_pad level _), opening]
      simp only [writeMembers_cons, List.cons_append, List.append_assoc]
        at name sign read same others
      exact members_next (skip_cons rfl body) name sign (same.trans read) (skip_cons rfl _) others

/-! ## Arrays and objects -/

theorem value_bracket (fuel : Nat) (rest : List Char) :
    value (fuel + 1) ('[' :: rest) =
      match skip rest with
      | ']' :: rest => some (.array [], rest)
      | rest => (elements fuel rest).bind fun (found, rest) => some (.array found, rest) := rfl

theorem value_brace (fuel : Nat) (rest : List Char) :
    value (fuel + 1) ('\x7b' :: rest) =
      match skip rest with
      | '\x7d' :: rest => some (.object [], rest)
      | rest => (members fuel rest).bind fun (found, rest) => some (.object found, rest) := rfl

/-- No value starts with a closing bracket. -/
theorem value_of_closing {fuel : Nat} {text rest : List Char} (closing : skip text = ']' :: rest) :
    value fuel text = none := by
  have same : skip text = skip (']' :: rest) := closing.trans (skip_cons rfl rest).symm
  rw [value_congr fuel same]
  cases fuel with
  | zero => rfl
  | succ fuel => rfl

/-- An opening bracket and elements that can be read are an array. -/
theorem value_array {fuel : Nat} {text rest : List Char} {found : List Json}
    (read : elements fuel text = some (found, rest)) :
    value (fuel + 1) ('[' :: text) = some (.array found, rest) := by
  rw [value_bracket]
  split
  case h_1 closing =>
    cases fuel with
    | zero => cases read
    | succ fuel =>
      rw [elements, value_of_closing closing] at read
      cases read
  case h_2 =>
    rw [elements_congr fuel (skip_skip text), read]
    rfl

theorem value_object {fuel : Nat} {text rest : List Char} {found : List (Option String × Json)}
    (read : members fuel text = some (found, rest)) :
    value (fuel + 1) ('\x7b' :: text) = some (.object found, rest) := by
  rw [value_brace]
  split
  case h_1 after closing =>
    have same : skip text = skip ('\x7d' :: after) := closing.trans (skip_cons rfl after).symm
    rw [members_congr fuel same] at read
    cases fuel <;> cases read
  case h_2 =>
    rw [members_congr fuel (skip_skip text), read]
    rfl

theorem readsBack_array {items : List Json} (all : ∀ item ∈ items, ReadsBack item) :
    ReadsBack (.array items) := by
  intro level rest fuel _ enough
  cases fuel with
  | zero => cases items <;> simp at enough
  | succ fuel =>
    cases items with
    | nil => rfl
    | cons first others =>
      simp only [write_array_cons, List.length_append, List.length_cons, List.length_nil] at enough
      have read := elements_write (level.map (· + 1)) level rest first others all fuel
        (by simp only [List.length_append]; omega)
      simpa using value_array read

theorem readsBack_object {fields : List (Option String × Json)}
    (all : ∀ field ∈ fields, ReadsBack field.2) : ReadsBack (.object fields) := by
  intro level rest fuel _ enough
  cases fuel with
  | zero => cases fields <;> simp at enough
  | succ fuel =>
    cases fields with
    | nil => rfl
    | cons first others =>
      simp only [write_object_cons, List.length_append, List.length_cons, List.length_nil] at enough
      have read :=
        members_write (level.map (· + 1)) level level rest first.1 first.2 others all fuel
        (by simp only [List.length_append]; omega)
      simpa using value_object read

/-- A plain document reads back from its written forms. -/
theorem Plain.readsBack {document : Json} (plain : Plain document) : ReadsBack document := by
  induction plain with
  | null =>
    intro level rest fuel _ enough
    cases fuel with
    | zero => simp at enough
    | succ fuel => rfl
  | bool flag =>
    intro level rest fuel _ enough
    cases fuel with
    | zero => cases flag <;> simp at enough
    | succ fuel => cases flag <;> rfl
  | natural number => exact readsBack_natural number
  | string text => exact readsBack_string text
  | array _ ih => exact readsBack_array ih
  | object _ ih => exact readsBack_object ih

/-- A plain document is what is read from either of its written forms. -/
theorem read_write {document : Json} (plain : Plain document) (level : Option Nat) :
    read (document.write level) = some document := by
  have back := plain.readsBack level [] (2 * (document.write level).length + 2) ends_nil (by omega)
  rw [List.append_nil] at back
  rw [read, back, Option.bind_eq_bind, Option.bind_some]
  exact if_pos rfl

end SourceIndex.Json
