import Mathlib.Data.List.Nodup
import Mathlib.Data.List.TakeDrop
import Mathlib.Data.List.TakeWhile
import SourceIndex.Text.Basic
import SourceIndex.Text.Reader

/-!
# Laws of text

The decimal digits of a number are digits, their value is the number, and they start with a zero
only if the number is zero. Pieces that are joined by a separator, and lines that are written with
their ends, come apart again.
-/

namespace SourceIndex.Text

/-! ## Numerals -/

theorem isDigit_of_mem_toDigits {value : Nat} {c : Char} (member : c ∈ Nat.toDigits 10 value) :
    isDigit c = true := by
  have digit := Nat.isDigit_of_mem_toDigits (by decide) (by decide) member
  simp only [Char.isDigit, Bool.and_eq_true, decide_eq_true_eq] at digit
  simp only [isDigit, Bool.and_eq_true, decide_eq_true_eq]
  exact digit

/-- A decimal digit has the value that its code is ahead of that of zero. -/
theorem hexValue?_of_isDigit {c : Char} (digit : isDigit c = true) :
    hexValue? c = some (c.toNat - 48) := by
  simp only [isDigit, Bool.and_eq_true, decide_eq_true_eq] at digit
  rw [hexValue?, if_pos digit]

/-- Reading digits one after the other. -/
theorem foldl_digits_eq {digits : List Char} (all : ∀ c ∈ digits, isDigit c = true) (start : Nat) :
    digits.foldl (fun value c => value * 10 + (hexValue? c).getD 0) start =
      Nat.ofDigitChars 10 digits start := by
  induction digits generalizing start with
  | nil => rfl
  | cons c rest ih =>
    have first := hexValue?_of_isDigit (all c (List.mem_cons_self ..))
    rw [List.foldl_cons, Nat.ofDigitChars_cons, first,
      ih fun d member => all d (List.mem_cons_of_mem _ member)]
    congr 1
    rw [Nat.mul_comm]
    rfl

/-- The digits of a number have the number as their value. -/
@[simp] theorem decimalValue_toDigits (value : Nat) :
    decimalValue (Nat.toDigits 10 value) = value := by
  rw [decimalValue, valueIn, foldl_digits_eq fun c => isDigit_of_mem_toDigits]
  exact Nat.ofDigitChars_ten_toDigits

/-- The digits of a positive number do not start with a zero. -/
theorem head?_toDigits_ne_zero {value : Nat} (positive : 0 < value) :
    (Nat.toDigits 10 value).head? ≠ some '0' := by
  induction value using Nat.strongRecOn with
  | _ value ih =>
    by_cases small : value < 10
    · rw [Nat.toDigits_of_lt_base small]
      have digits : ∀ digit < 10, 0 < digit → Nat.digitChar digit ≠ '0' := by decide
      simpa using digits value small positive
    · have front := ih (value / 10) (by omega) (by omega)
      rw [Nat.toDigits_of_base_le (by decide) (by omega), List.head?_append]
      cases found : (Nat.toDigits 10 (value / 10)).head? with
      | none => exact absurd (List.head?_eq_none_iff.1 found) Nat.toDigits_ne_nil
      | some c => simpa [found] using front

/-- Digits with a zero in front are the digit zero alone. -/
theorem length_toDigits_of_zero {value : Nat}
    (zero : (Nat.toDigits 10 value).head? = some '0') : (Nat.toDigits 10 value).length = 1 := by
  rcases Nat.eq_zero_or_pos value with rfl | positive
  · rfl
  · exact absurd zero (head?_toDigits_ne_zero positive)

/-- A run of characters in front of one that ends it. -/
theorem span_append {p : Char → Bool} {front rest : List Char} (all : ∀ c ∈ front, p c = true)
    (ends : rest.head?.all (!p ·) = true) : (front ++ rest).span p = (front, rest) := by
  rw [List.span_eq_takeWhile_dropWhile, List.takeWhile_append_of_pos all,
    List.dropWhile_append_of_pos all]
  cases rest with
  | nil => simp
  | cons c rest =>
    have last : p c = false := by simpa using ends
    simp [last]

/-! ## Pieces -/

/-- A text without separators is its own piece. -/
theorem pieces_of_not_mem {p : Char → Bool} {text : List Char} (inner : ∀ c ∈ text, p c = false) :
    pieces p text = [text] := by
  induction text with
  | nil => rfl
  | cons c rest ih =>
    simp [pieces, inner c (List.mem_cons_self ..),
      ih fun d member => inner d (List.mem_cons_of_mem _ member)]

/-- A text without separators in front of a separator is the first piece. -/
theorem pieces_append_cons {p : Char → Bool} {front rest : List Char} {mark : Char}
    (inner : ∀ c ∈ front, p c = false) (separator : p mark = true) :
    pieces p (front ++ mark :: rest) = front :: pieces p rest := by
  induction front with
  | nil => simp [pieces, separator]
  | cons c front ih =>
    have first := inner c (List.mem_cons_self ..)
    simp [pieces, first, ih fun d member => inner d (List.mem_cons_of_mem _ member)]

/-- Pieces that were joined by a separator come apart again. -/
theorem pieces_join {p : Char → Bool} {mark : Char} (separator : p mark = true)
    {first : List Char} {others : List (List Char)}
    (inner : ∀ piece ∈ first :: others, ∀ c ∈ piece, p c = false) :
    pieces p (join [mark] (first :: others)) = first :: others := by
  induction others generalizing first with
  | nil => exact pieces_of_not_mem (inner first (List.mem_cons_self ..))
  | cons next others ih =>
    rw [join, List.append_assoc, List.singleton_append,
      pieces_append_cons (inner first (List.mem_cons_self ..)) separator,
      ih fun piece member => inner piece (List.mem_cons_of_mem _ member)]
    simp

/-- What follows the last separator is the last piece. -/
theorem pieces_append_last {p : Char → Bool} {mark : Char} (separator : p mark = true)
    {last : List Char} (inner : ∀ c ∈ last, p c = false) (front : List Char) :
    ∃ first before, pieces p (front ++ mark :: last) = first :: before ++ [last] := by
  induction front with
  | nil => exact ⟨[], [], by simp [pieces, separator, pieces_of_not_mem inner]⟩
  | cons c front ih =>
    obtain ⟨first, before, split⟩ := ih
    rw [List.cons_append, pieces, split]
    by_cases marked : p c = true
    · exact ⟨[], first :: before, by simp [marked]⟩
    · exact ⟨c :: first, before, by simp [marked]⟩

/-- The characters of a piece are characters of the text. -/
theorem mem_of_mem_pieces {p : Char → Bool} {text piece : List Char} {c : Char}
    (listed : piece ∈ pieces p text) (member : c ∈ piece) : c ∈ text := by
  induction text generalizing piece with
  | nil =>
    cases List.mem_singleton.1 listed
    exact member
  | cons first rest ih =>
    rw [pieces] at listed
    split at listed
    case isTrue =>
      cases List.mem_cons.1 listed with
      | inl empty =>
        cases empty
        cases member
      | inr later => exact List.mem_cons_of_mem _ (ih later member)
    case isFalse =>
      cases found : pieces p rest with
      | nil =>
        rw [found] at listed
        cases List.mem_singleton.1 listed
        cases List.mem_singleton.1 member
        exact List.mem_cons_self ..
      | cons next others =>
        rw [found] at listed ih
        cases List.mem_cons.1 listed with
        | inl joined =>
          cases joined
          cases List.mem_cons.1 member with
          | inl here => exact here ▸ List.mem_cons_self ..
          | inr inside => exact List.mem_cons_of_mem _ (ih (List.mem_cons_self ..) inside)
        | inr later =>
          exact List.mem_cons_of_mem _ (ih (List.mem_cons_of_mem _ later) member)

/-! ## The part after the last separator -/

/-- The part after the last separator has none. -/
theorem mem_of_mem_afterLast {p : Char → Bool} {text : List Char} {c : Char}
    (member : c ∈ afterLast p text) : c ∈ text ∧ p c = false := by
  rw [afterLast, List.mem_reverse] at member
  constructor
  · exact List.mem_reverse.1 ((List.takeWhile_sublist _).subset member)
  · simpa using List.mem_takeWhile_imp member

theorem afterLast_append {p : Char → Bool} {front last : List Char}
    (ends : ∀ mark ∈ front.getLast?, p mark = true) (inner : ∀ c ∈ last, p c = false) :
    afterLast p (front ++ last) = last := by
  have all : ∀ c ∈ last.reverse, (!p c) = true := by
    intro c member
    simp [inner c (List.mem_reverse.1 member)]
  have stops : front.reverse.takeWhile (!p ·) = [] := by
    rw [← List.head?_reverse] at ends
    cases reversed : front.reverse with
    | nil => rfl
    | cons mark rest =>
      rw [reversed] at ends
      exact List.takeWhile_cons_of_neg (by simp [ends mark rfl])
  rw [afterLast, List.reverse_append, List.takeWhile_append_of_pos all, stops, List.append_nil,
    List.reverse_reverse]

theorem afterLast_append_cons {p : Char → Bool} {mark : Char} (separator : p mark = true)
    (front : List Char) {last : List Char} (inner : ∀ c ∈ last, p c = false) :
    afterLast p (front ++ mark :: last) = last := by
  rw [List.append_cons]
  apply afterLast_append _ inner
  intro other ends
  rw [List.getLast?_concat] at ends
  cases ends
  exact separator

/-- What is before the part after the last separator is empty or ends in a separator. -/
theorem exists_append_afterLast (p : Char → Bool) (text : List Char) :
    ∃ front, text = front ++ afterLast p text ∧ ∀ mark ∈ front.getLast?, p mark = true := by
  refine ⟨(text.reverse.dropWhile (!p ·)).reverse, ?_, ?_⟩
  · rw [afterLast, ← List.reverse_append, List.takeWhile_append_dropWhile, List.reverse_reverse]
  · intro mark last
    rw [List.getLast?_reverse] at last
    simpa [Option.mem_def.1 last] using List.head?_dropWhile_not (!p ·) text.reverse

/-- The part after the last separator has none, and it is the whole text or ends it behind a
separator. -/
theorem afterLast_eq_iff {p : Char → Bool} {text last : List Char} :
    afterLast p text = last ↔ (∀ c ∈ last, p c = false) ∧
      (text = last ∨ ∃ mark, p mark = true ∧ (mark :: last) <:+ text) := by
  constructor
  · intro same
    refine ⟨fun c member => (mem_of_mem_afterLast (same ▸ member)).2, ?_⟩
    obtain ⟨front, split, ends⟩ := exists_append_afterLast p text
    rw [same] at split
    rcases List.eq_nil_or_concat front with rfl | ⟨before, mark, rfl⟩
    · exact .inl split
    · refine .inr ⟨mark, ends mark (by simp), before, ?_⟩
      rw [split, List.append_cons, List.concat_eq_append]
  · rintro ⟨inner, rfl | ⟨mark, separator, front, rfl⟩⟩
    · have whole : afterLast p ([] ++ text) = text := afterLast_append (by simp) inner
      exact whole
    · exact afterLast_append_cons separator front inner

/-- Texts that are equal are equal before and after their last separators. -/
theorem append_cons_inj {mark : Char} {front front' last last' : List Char} (here : mark ∉ last)
    (there : mark ∉ last') (same : front ++ mark :: last = front' ++ mark :: last') :
    front = front' ∧ last = last' := by
  have after (front : List Char) {last : List Char} (absent : mark ∉ last) :
      afterLast (· == mark) (front ++ mark :: last) = last := by
    apply afterLast_append_cons
    · exact beq_self_eq_true mark
    · intro c member
      exact beq_false_of_ne fun equal => absent (equal ▸ member)
  have ends := congrArg (afterLast (· == mark)) same
  rw [after front here, after front' there] at ends
  subst ends
  exact ⟨List.append_cancel_right same, rfl⟩

/-! ## Lines -/

/-- The pieces of lines that all have an end are the lines and an empty piece. -/
theorem pieces_lines {lines : List (List Char)} (whole : ∀ line ∈ lines, '\n' ∉ line) :
    pieces (· == '\n') (lines.flatMap (· ++ ['\n'])) = lines ++ [[]] := by
  induction lines with
  | nil => rfl
  | cons line lines ih =>
    have inner : ∀ c ∈ line, (c == '\n') = false := by
      intro c member
      have differs : c ≠ '\n' := fun equal => whole line (List.mem_cons_self ..) (equal ▸ member)
      simp [differs]
    rw [List.flatMap_cons, List.append_assoc, List.singleton_append, pieces_append_cons inner rfl,
      ih fun line member => whole line (List.mem_cons_of_mem _ member), List.cons_append]

/-- Lines without a line feed or a carriage return, written with their ends, are the lines of the
text. -/
theorem lines_flatMap {written : List (List Char)}
    (whole : ∀ line ∈ written, '\n' ∉ line ∧ '\r' ∉ line) :
    lines (written.flatMap (· ++ ['\n'])) = written := by
  rw [lines, pieces_lines fun line member => (whole line member).1]
  have kept : written.map (fun line => if line.getLast? = some '\r' then line.dropLast else line) =
      written := by
    rw [List.map_congr_left fun line member =>
      if_neg fun last => (whole line member).2 (List.mem_of_getLast? last)]
    exact List.map_id _
  simp [kept]

/-! ## First occurrences -/

section FirstOccurrences

variable {α : Type} [BEq α]

theorem firstOccurrences_sublist (items : List α) : (firstOccurrences items).Sublist items := by
  induction items with
  | nil => exact .slnil
  | cons head rest ih => exact (List.filter_sublist.trans ih).cons_cons head

variable [LawfulBEq α]

theorem mem_firstOccurrences {item : α} {items : List α} :
    item ∈ firstOccurrences items ↔ item ∈ items := by
  induction items with
  | nil => exact Iff.rfl
  | cons head rest ih =>
    rw [firstOccurrences, List.mem_cons, List.mem_cons, List.mem_filter, ih, bne_iff_ne]
    by_cases same : item = head <;> simp [same]

theorem nodup_firstOccurrences (items : List α) : (firstOccurrences items).Nodup := by
  induction items with
  | nil => exact List.nodup_nil
  | cons head rest ih =>
    rw [firstOccurrences, List.nodup_cons]
    exact ⟨by simp, ih.filter _⟩

/-- Selected items first occur in the order of all items. -/
theorem firstOccurrences_filter (p : α → Bool) (items : List α) :
    firstOccurrences (items.filter p) = (firstOccurrences items).filter p := by
  induction items with
  | nil => rfl
  | cons head rest ih =>
    rw [firstOccurrences]
    by_cases selected : p head = true
    · rw [List.filter_cons_of_pos selected, List.filter_cons_of_pos selected, firstOccurrences, ih,
        List.filter_filter, List.filter_filter]
      simp only [Bool.and_comm]
    · rw [List.filter_cons_of_neg selected, List.filter_cons_of_neg selected, ih,
        List.filter_filter]
      apply List.filter_congr
      intro item _
      by_cases same : item = head
      · simp [same, selected]
      · simp [same]

/-- Items that are appended first occur there unless they occur before. -/
theorem firstOccurrences_append (front back : List α) :
    firstOccurrences (front ++ back) =
      firstOccurrences front ++ (firstOccurrences back).filter (!front.contains ·) := by
  induction front with
  | nil => simp [firstOccurrences]
  | cons head rest ih =>
    rw [List.cons_append, firstOccurrences, ih, firstOccurrences, List.filter_append,
      List.filter_filter, List.cons_append]
    congr 2
    apply List.filter_congr
    intro item _
    simp [bne]

/-- Lists with the same items have the same first occurrences, up to their order. -/
theorem perm_firstOccurrences {first second : List α}
    (same : ∀ item, item ∈ first ↔ item ∈ second) :
    (firstOccurrences first).Perm (firstOccurrences second) := by
  apply (List.perm_ext_iff_of_nodup (nodup_firstOccurrences _) (nodup_firstOccurrences _)).2
  intro item
  rw [mem_firstOccurrences, mem_firstOccurrences, same]

end FirstOccurrences

end SourceIndex.Text
