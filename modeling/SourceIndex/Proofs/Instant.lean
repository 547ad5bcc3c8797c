import Mathlib.Data.List.TakeDrop
import SourceIndex.Instant
import SourceIndex.Proofs.Text

/-!
# Instants read back

An instant that names a day and a time is read back from its text, and every instant that is read is
such an instant. So is every instant that is counted from 1970, as long as its year has a date.
-/

namespace SourceIndex.Instant

/-! ## Numbers -/

theorem isDigit_zero : Text.isDigit '0' = true := by decide

/-- A padded number consists of digits. -/
theorem isDigit_of_mem_padded {width value : Nat} {c : Char} (member : c ∈ padded width value) :
    Text.isDigit c = true := by
  rcases List.mem_append.1 member with zero | digit
  · rw [List.eq_of_mem_replicate zero]
    exact isDigit_zero
  · exact Text.isDigit_of_mem_toDigits digit

/-- Leading zeros do not change the value of a number. -/
theorem decimalValue_padded (width value : Nat) :
    Text.decimalValue (padded width value) = value := by
  have zeros (count : Nat) : (List.replicate count '0').foldl
      (fun value c => value * 10 + (Text.hexValue? c).getD 0) 0 = 0 := by
    induction count with
    | zero => rfl
    | succ count ih => exact ih
  rw [padded, Text.decimalValue, Text.valueIn, List.foldl_append, zeros]
  exact Text.decimalValue_toDigits value

theorem padded_ne_nil (width value : Nat) : padded width value ≠ [] := by
  simp [padded, Nat.toDigits_ne_nil]

/-- A number that fits has the width to which it is padded. -/
theorem length_padded {width value : Nat} (positive : 0 < width) (fits : value < Nat.pow 10 width) :
    (padded width value).length = width := by
  have short := (Nat.length_toDigits_le_iff (by decide) positive).2 fits
  simp only [padded, List.length_append, List.length_replicate]
  omega

/-- Digits are read up to a character that is none, or up to the width. -/
theorem digits_append {front rest : List Char} {width : Nat} (some : front ≠ [])
    (all : ∀ c ∈ front, Text.isDigit c = true) (short : front.length ≤ width)
    (ends : front.length = width ∨ rest.head?.all (!Text.isDigit ·) = true) :
    digits width (front ++ rest) = .some (Text.decimalValue front, rest) := by
  have found : ((front ++ rest).take width).takeWhile Text.isDigit = front := by
    rw [List.take_append, List.take_of_length_le short, List.takeWhile_append_of_pos all]
    rcases ends with full | stops
    · rw [full, Nat.sub_self, List.take_zero, List.takeWhile_nil, List.append_nil]
    · cases rest with
      | nil => simp
      | cons c rest =>
        have last : Text.isDigit c = false := by simpa using stops
        cases width - front.length <;> simp [last]
  rw [digits]
  simp only [found, if_neg some, List.drop_left]

/-- A padded number that fits is read back. -/
theorem digits_padded {width value : Nat} (positive : 0 < width) (fits : value < Nat.pow 10 width)
    (rest : List Char) : digits width (padded width value ++ rest) = some (value, rest) := by
  have length := length_padded positive fits
  rw [digits_append (padded_ne_nil _ _) (fun _ => isDigit_of_mem_padded) (Nat.le_of_eq length)
    (.inl length), decimalValue_padded]

/-! ## White space and marks -/

theorem isBlank_of_isDigit {c : Char} (digit : Text.isDigit c = true) : Text.isBlank c = false := by
  have codes : ∀ code < 58, 48 ≤ code → Text.isBlank (Char.ofNat code) = false := by decide
  simp only [Text.isDigit, Bool.and_eq_true, decide_eq_true_eq] at digit
  have low : 48 ≤ c.toNat := digit.1
  have high : c.toNat ≤ 57 := digit.2
  simpa [Char.ofNat_toNat] using codes c.toNat (by omega) low

theorem skip_cons {c : Char} (visible : Text.isBlank c = false) (rest : List Char) :
    skip (c :: rest) = c :: rest := by
  rw [skip, List.dropWhile_cons, visible]
  rfl

/-- There is no white space in front of a number. -/
theorem skip_padded (width value : Nat) (rest : List Char) :
    skip (padded width value ++ rest) = padded width value ++ rest := by
  cases known : padded width value with
  | nil => exact absurd known (padded_ne_nil _ _)
  | cons c others =>
    have digit : Text.isDigit c = true := isDigit_of_mem_padded (known ▸ List.mem_cons_self ..)
    exact skip_cons (isBlank_of_isDigit digit) _

/-- A field is read back if it is within its limits. -/
theorem field_padded {width low high value : Nat} (positive : 0 < width)
    (fits : value < Nat.pow 10 width) (least : low ≤ value) (most : value ≤ high)
    (rest : List Char) :
    field width low high (padded width value ++ rest) = some (value, rest) := by
  rw [field, skip_padded, digits_padded positive fits, Option.bind_eq_bind, Option.bind_some]
  simp only [least, most, and_self, if_true]
  rfl

theorem mark_cons {c : Char} (visible : Text.isBlank c = false) (rest : List Char) :
    mark c (c :: rest) = some ((), rest) := by
  simp only [mark, skip_cons visible, if_true]

/-! ## Years and fractions -/

/-- A year without a sign is read from four digits. -/
theorem yearField_of_isDigit {c : Char} (digit : Text.isDigit c = true) (rest : List Char) :
    yearField (c :: rest) =
      (digits 4 (c :: rest)).map fun (value, rest) => ((value : Int), rest) := by
  rw [yearField, skip_cons (isBlank_of_isDigit digit)]
  split
  case h_1 same =>
    cases same
    exact absurd digit (by decide)
  case h_2 same =>
    cases same
    exact absurd digit (by decide)
  case h_3 => rfl

/-- All digits of a number are read in front of a dash. -/
theorem digits_signed (value : Nat) (rest : List Char) :
    digits (padded 4 value ++ '-' :: rest).length (padded 4 value ++ '-' :: rest) =
      some (value, '-' :: rest) := by
  rw [digits_append (padded_ne_nil _ _) (fun _ => isDigit_of_mem_padded) (by simp) (.inr rfl),
    decimalValue_padded]

/-- A year is read back. -/
theorem yearField_yearText (year : Int) (rest : List Char) :
    yearField (yearText year ++ '-' :: rest) = some (year, '-' :: rest) := by
  rw [yearText]
  split
  case isTrue common =>
    have small : year.toNat < 10000 := by omega
    have read : digits 4 (padded 4 year.toNat ++ '-' :: rest) = some (year.toNat, '-' :: rest) :=
      digits_padded (by decide) small _
    cases known : padded 4 year.toNat with
    | nil => exact absurd known (padded_ne_nil _ _)
    | cons c others =>
      have digit : Text.isDigit c = true := isDigit_of_mem_padded (known ▸ List.mem_cons_self ..)
      rw [known] at read
      rw [List.cons_append, yearField_of_isDigit digit, ← List.cons_append, read, Option.map_some]
      simp only [Int.toNat_of_nonneg common.1]
  case isFalse wide =>
    split
    case isTrue negative =>
      rw [List.cons_append, yearField, skip_cons (by decide)]
      simp only [digits_signed, Option.map_some]
      congr 2
      omega
    case isFalse positive =>
      rw [List.cons_append, yearField, skip_cons (by decide)]
      simp only [digits_signed, Option.map_some]
      congr 2
      omega

/-- Digits of a fraction are read up to the offset. -/
theorem fractionField_padded {width value : Nat} (positive : 0 < width) (short : width ≤ 9)
    (fits : value < Nat.pow 10 width) :
    fractionField ('.' :: (padded width value ++ ['Z'])) =
      some (value * Nat.pow 10 (9 - width), ['Z']) := by
  have length := length_padded positive fits
  have read : digits 9 (padded width value ++ ['Z']) = some (value, ['Z']) := by
    rw [digits_append (padded_ne_nil _ _) (fun _ => isDigit_of_mem_padded) (by omega) (.inr rfl),
      decimalValue_padded]
  have count : (padded width value ++ ['Z']).length - ['Z'].length = width := by
    rw [List.length_append, length, Nat.add_sub_cancel]
  rw [fractionField]
  simp only [read, Option.bind_eq_bind, Option.bind_some, count]
  rfl

/-- A fraction is read back. -/
theorem fractionField_fractionText {nano : Nat} (fits : nano < 1000000000) :
    fractionField (fractionText nano ++ ['Z']) = some (nano, ['Z']) := by
  rw [fractionText]
  split_ifs with whole millis micros
  · rw [whole]
    rfl
  · have small : nano / 1000000 < 1000 := by omega
    have value : nano / 1000000 * 1000000 = nano := by omega
    rw [List.cons_append, fractionField_padded (by decide) (by decide) small]
    exact congrArg (fun value => some (value, ['Z'])) value
  · have small : nano / 1000 < 1000000 := by omega
    have value : nano / 1000 * 1000 = nano := by omega
    rw [List.cons_append, fractionField_padded (by decide) (by decide) small]
    exact congrArg (fun value => some (value, ['Z'])) value
  · rw [List.cons_append, fractionField_padded (by decide) (by decide) fits]
    exact congrArg (fun value => some (value, ['Z'])) (Nat.mul_one nano)

/-! ## Whole instants -/

theorem valid_iff {t : Instant} :
    t.valid = true ↔ yearRange.1 ≤ t.year ∧ t.year ≤ yearRange.2 ∧ 1 ≤ t.month ∧ t.month ≤ 12 ∧
      1 ≤ t.day ∧ t.day ≤ daysIn t.year t.month ∧ t.hour ≤ 23 ∧ t.minute ≤ 59 ∧ t.second ≤ 60 ∧
      t.nano < 1000000000 := by
  simp only [valid, Bool.and_eq_true, decide_eq_true_eq, and_assoc]

theorem daysIn_le (year : Int) (month : Nat) : daysIn year month ≤ 31 := by
  rw [daysIn]
  split_ifs <;> omega

/-- A local time without an offset is the time itself. -/
theorem ofLocal_zero {t : Instant} (hour : t.hour ≤ 23) (minute : t.minute ≤ 59) :
    t.ofLocal 0 = t := by
  have early : ¬ ((t.hour : Int) * 60 + t.minute - 0 < 0) := by omega
  have late : (t.hour : Int) * 60 + t.minute - 0 < 1440 := by omega
  have hours : (((t.hour : Int) * 60 + t.minute - 0) / 60).toNat = t.hour := by omega
  have minutes : (((t.hour : Int) * 60 + t.minute - 0) % 60).toNat = t.minute := by omega
  simp only [ofLocal, early, late, if_true, if_false, hours, minutes]

/-- An instant that names a day and a time is read back from its text. -/
theorem read_write {t : Instant} (isValid : t.valid = true) : read t.write = some t := by
  obtain ⟨_, _, month, month', day, day', hour, minute, second, nano⟩ := valid_iff.1 isValid
  have days := daysIn_le t.year t.month
  have fits : ∀ value, value < 100 → value < Nat.pow 10 2 := fun _ small => small
  simp only [read, write, List.append_assoc, List.cons_append]
  refine Option.bind_eq_some_iff.2 ⟨_, yearField_yearText _ _, ?_⟩
  refine Option.bind_eq_some_iff.2 ⟨_, mark_cons (by decide) _, ?_⟩
  refine Option.bind_eq_some_iff.2
    ⟨_, field_padded (by decide) (fits _ (by omega)) month month' _, ?_⟩
  refine Option.bind_eq_some_iff.2 ⟨_, mark_cons (by decide) _, ?_⟩
  refine Option.bind_eq_some_iff.2
    ⟨_, field_padded (by decide) (fits _ (by omega)) day (by omega) _, ?_⟩
  refine Option.bind_eq_some_iff.2 ⟨_, rfl, ?_⟩
  refine Option.bind_eq_some_iff.2
    ⟨_, field_padded (by decide) (fits _ (by omega)) (Nat.zero_le _) hour _, ?_⟩
  refine Option.bind_eq_some_iff.2 ⟨_, mark_cons (by decide) _, ?_⟩
  refine Option.bind_eq_some_iff.2
    ⟨_, field_padded (by decide) (fits _ (by omega)) (Nat.zero_le _) minute _, ?_⟩
  refine Option.bind_eq_some_iff.2 ⟨_, mark_cons (by decide) _, ?_⟩
  refine Option.bind_eq_some_iff.2
    ⟨_, field_padded (by decide) (fits _ (by omega)) (Nat.zero_le _) second _, ?_⟩
  refine Option.bind_eq_some_iff.2 ⟨_, fractionField_fractionText nano, ?_⟩
  refine Option.bind_eq_some_iff.2 ⟨(0, []), rfl, ?_⟩
  have same : ofLocal ⟨t.year, t.month, t.day, t.hour, t.minute, t.second, t.nano⟩ 0 = t :=
    ofLocal_zero hour minute
  simp only [same]
  rw [if_pos ⟨rfl, isValid, isValid, by decide, by decide⟩]
  rfl

/-- What is read names a day and a time. -/
theorem valid_of_read {input : List Char} {t : Instant} (found : read input = some t) :
    t.valid = true := by
  -- one step for each field and each mark; the check at the end is what counts
  rw [read] at found
  obtain ⟨⟨_, _⟩, _, found⟩ := Option.bind_eq_some_iff.1 found
  obtain ⟨⟨_, _⟩, _, found⟩ := Option.bind_eq_some_iff.1 found
  obtain ⟨⟨_, _⟩, _, found⟩ := Option.bind_eq_some_iff.1 found
  obtain ⟨⟨_, _⟩, _, found⟩ := Option.bind_eq_some_iff.1 found
  obtain ⟨⟨_, _⟩, _, found⟩ := Option.bind_eq_some_iff.1 found
  obtain ⟨⟨_, _⟩, _, found⟩ := Option.bind_eq_some_iff.1 found
  obtain ⟨⟨_, _⟩, _, found⟩ := Option.bind_eq_some_iff.1 found
  obtain ⟨⟨_, _⟩, _, found⟩ := Option.bind_eq_some_iff.1 found
  obtain ⟨⟨_, _⟩, _, found⟩ := Option.bind_eq_some_iff.1 found
  obtain ⟨⟨_, _⟩, _, found⟩ := Option.bind_eq_some_iff.1 found
  obtain ⟨⟨_, _⟩, _, found⟩ := Option.bind_eq_some_iff.1 found
  obtain ⟨⟨_, _⟩, _, found⟩ := Option.bind_eq_some_iff.1 found
  obtain ⟨⟨_, _⟩, _, found⟩ := Option.bind_eq_some_iff.1 found
  dsimp only at found
  split at found
  case isTrue checked =>
    cases found
    exact checked.2.2.1
  case isFalse => cases found

/-! ## Dates of days -/

/-- The days of an era before one of its years, which are counted from March. -/
def daysBefore (year : Nat) : Nat := 365 * year + year / 4 - year / 100 + year / 400

/-- The days of an era up to a day, without the leap days. -/
def commonDays (day : Nat) : Nat := day - day / 1460 + day / 36524 - day / 146096

theorem commonDays_mono {first second : Nat} (le : first ≤ second) :
    commonDays first ≤ commonDays second := by
  have eras (day : Nat) : day / 146096 = day / 36524 / 4 := by omega
  rw [commonDays, commonDays, eras, eras]
  omega

/-- Where the years of an era begin, in days with and without leap days. -/
theorem commonDays_daysBefore :
    ∀ year < 401, 365 * year ≤ commonDays (daysBefore year) ∧
      (0 < year → commonDays (daysBefore year - 1) < 365 * year) := by
  decide +kernel

/-- A year has at most 366 days, and has them only if it ends with the February of a leap year. -/
theorem daysBefore_succ :
    ∀ year < 400, daysBefore (year + 1) ≤ daysBefore year + 366 ∧
      (daysBefore (year + 1) = daysBefore year + 366 →
        (year + 1) % 4 = 0 ∧ ((year + 1) % 100 ≠ 0 ∨ (year + 1) % 400 = 0)) := by
  decide +kernel

/-- The year of an era in which a day lies. -/
theorem daysBefore_le {day : Nat} (inEra : day < 146097) :
    commonDays day / 365 < 400 ∧ daysBefore (commonDays day / 365) ≤ day ∧
      day < daysBefore (commonDays day / 365 + 1) := by
  have last := commonDays_mono (Nat.le_of_lt_succ inEra)
  have top : commonDays 146096 = 145999 := by decide
  have small : commonDays day / 365 < 400 := by omega
  refine ⟨small, ?_, ?_⟩
  · rcases Nat.eq_zero_or_pos (commonDays day / 365) with zero | positive
    · rw [zero]
      exact Nat.zero_le day
    · by_contra before
      have below := (commonDays_daysBefore _ (Nat.lt_succ_of_lt small)).2 positive
      have early := commonDays_mono (Nat.le_sub_one_of_lt (Nat.lt_of_not_le before))
      omega
  · by_contra after
    have above := (commonDays_daysBefore (commonDays day / 365 + 1) (by omega)).1
    have late := commonDays_mono (Nat.le_of_not_lt after)
    omega

/-- The month and the day of the month of a day of the year, which begins in March. -/
def monthDay (dayOfYear : Nat) : Nat × Nat :=
  let marchMonth := (5 * dayOfYear + 2) / 153
  (if marchMonth < 10 then marchMonth + 3 else marchMonth - 9,
    dayOfYear - (153 * marchMonth + 2) / 5 + 1)

theorem monthDay_bounds :
    ∀ day < 366, 1 ≤ (monthDay day).1 ∧ (monthDay day).1 ≤ 12 ∧ 1 ≤ (monthDay day).2 ∧
      (monthDay day).2 ≤
        if (monthDay day).1 = 2 then if day = 365 then 29 else 28
        else daysIn 0 (monthDay day).1 := by
  decide +kernel

/-- A date is a day of a year of an era. -/
theorem dateOfDays_eq (days : Int) :
    ∃ (era : Int) (year day : Nat), day < 366 ∧
      (day = 365 → (year + 1) % 4 = 0 ∧ ((year + 1) % 100 ≠ 0 ∨ (year + 1) % 400 = 0)) ∧
      dateOfDays days = (era * 400 + year + (if (monthDay day).1 ≤ 2 then 1 else 0),
        (monthDay day).1, (monthDay day).2) := by
  have inEra : ((days + 719468) % 146097).toNat < 146097 := by omega
  obtain ⟨small, start, stop⟩ := daysBefore_le inEra
  obtain ⟨most, leap⟩ := daysBefore_succ _ small
  refine ⟨(days + 719468) / 146097, commonDays ((days + 719468) % 146097).toNat / 365,
    ((days + 719468) % 146097).toNat -
      daysBefore (commonDays ((days + 719468) % 146097).toNat / 365), ?_, fun last => ?_, ?_⟩
  · omega
  · exact leap (by omega)
  · have none : commonDays ((days + 719468) % 146097).toNat / 365 / 400 = 0 := by omega
    simp only [daysBefore, none, Nat.add_zero]
    rfl

/-- The days of a month other than February do not depend on the year. -/
theorem daysIn_of_ne {month : Nat} (other : month ≠ 2) (year : Int) :
    daysIn year month = daysIn 0 month := by
  simp only [daysIn, if_neg other]

/-- Counting days gives a day of a month of a year. -/
theorem dateOfDays_bounds (days : Int) :
    1 ≤ (dateOfDays days).2.1 ∧ (dateOfDays days).2.1 ≤ 12 ∧ 1 ≤ (dateOfDays days).2.2 ∧
      (dateOfDays days).2.2 ≤ daysIn (dateOfDays days).1 (dateOfDays days).2.1 := by
  obtain ⟨era, year, day, inYear, leap, date⟩ := dateOfDays_eq days
  obtain ⟨first, last, positive, most⟩ := monthDay_bounds day inYear
  rw [date]
  refine ⟨first, last, positive, Nat.le_trans most ?_⟩
  by_cases february : (monthDay day).1 = 2
  · simp only [february, Nat.le_refl, if_true]
    by_cases leapDay : day = 365
    · obtain ⟨fourth, century⟩ := leap leapDay
      have isLeap : isLeapYear (era * 400 + year + 1) = true := by
        simp only [isLeapYear, Bool.and_eq_true, Bool.or_eq_true, decide_eq_true_eq]
        omega
      simp [daysIn, leapDay, isLeap]
    · simp only [daysIn, if_neg leapDay, if_true]
      split <;> omega
  · rw [if_neg february]
    exact Nat.le_of_eq (daysIn_of_ne february _).symm

/-- An instant that is counted from 1970 names a day and a time, if its year has a date. -/
theorem valid_ofUnix {seconds : Int} {nanos : Nat}
    (least : yearRange.1 ≤ (ofUnix seconds nanos).year)
    (most : (ofUnix seconds nanos).year ≤ yearRange.2) (fits : nanos < 1000000000) :
    (ofUnix seconds nanos).valid = true := by
  obtain ⟨first, last, positive, days⟩ := dateOfDays_bounds (seconds / 86400)
  have hour : (seconds % 86400).toNat / 3600 ≤ 23 := by omega
  have minute : (seconds % 86400).toNat / 60 % 60 ≤ 59 := by omega
  have second : (seconds % 86400).toNat % 60 ≤ 60 := by omega
  exact valid_iff.2 ⟨least, most, first, last, positive, days, hour, minute, second, fits⟩

end SourceIndex.Instant
