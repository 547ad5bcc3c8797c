import SourceIndex.Text.Reader

/-!
# Instants

An instant is a date and a time of day in UTC. It is written as in RFC 3339 with `Z`. Reading takes
any offset and is lenient about white space.
-/

namespace SourceIndex

/-- A date and a time of day in UTC. Second 60 is a leap second. -/
structure Instant where
  year : Int
  month : Nat
  day : Nat
  hour : Nat
  minute : Nat
  second : Nat
  nano : Nat
  deriving DecidableEq, Repr

namespace Instant

/-- Whether February has a twenty-ninth. -/
def isLeapYear (year : Int) : Bool := year % 4 = 0 && (year % 100 ≠ 0 || year % 400 = 0)

/-- The number of days of a month. -/
def daysIn (year : Int) (month : Nat) : Nat :=
  if month = 2 then if isLeapYear year then 29 else 28
  else if month = 4 ∨ month = 6 ∨ month = 9 ∨ month = 11 then 30
  else 31

/-- The first and the last year that a date can have. -/
def yearRange : Int × Int := (-262143, 262142)

/-- Whether the fields name a day and a time. -/
def valid (t : Instant) : Bool :=
  yearRange.1 ≤ t.year && t.year ≤ yearRange.2 && 1 ≤ t.month && t.month ≤ 12 && 1 ≤ t.day
    && t.day ≤ daysIn t.year t.month && t.hour ≤ 23 && t.minute ≤ 59 && t.second ≤ 60
    && t.nano < 1000000000

/-- The same time one day later. -/
def nextDay (t : Instant) : Instant :=
  if t.day < daysIn t.year t.month then { t with day := t.day + 1 }
  else if t.month < 12 then { t with month := t.month + 1, day := 1 }
  else { t with year := t.year + 1, month := 1, day := 1 }

/-- The same time one day earlier. -/
def previousDay (t : Instant) : Instant :=
  if 1 < t.day then { t with day := t.day - 1 }
  else if 1 < t.month then { t with month := t.month - 1, day := daysIn t.year (t.month - 1) }
  else { t with year := t.year - 1, month := 12, day := 31 }

/-- The instant of a local time that is `offset` minutes ahead of UTC, by less than a day. -/
def ofLocal (t : Instant) (offset : Int) : Instant :=
  let minutes : Int := t.hour * 60 + t.minute - offset
  let timed (minutes : Int) : Instant :=
    { t with hour := (minutes / 60).toNat, minute := (minutes % 60).toNat }
  if minutes < 0 then (timed (minutes + 1440)).previousDay
  else if minutes < 1440 then timed minutes
  else (timed (minutes - 1440)).nextDay

/-- The date that lies some days after 1970-01-01, as year, month and day. Years are counted from
March, in eras of four centuries. -/
def dateOfDays (days : Int) : Int × Nat × Nat :=
  let shifted := days + 719468
  let era := shifted / 146097
  let dayOfEra := (shifted % 146097).toNat
  let yearOfEra := (dayOfEra - dayOfEra / 1460 + dayOfEra / 36524 - dayOfEra / 146096) / 365
  let dayOfYear := dayOfEra - (365 * yearOfEra + yearOfEra / 4 - yearOfEra / 100)
  let marchMonth := (5 * dayOfYear + 2) / 153
  let day := dayOfYear - (153 * marchMonth + 2) / 5 + 1
  let month := if marchMonth < 10 then marchMonth + 3 else marchMonth - 9
  let year := era * 400 + yearOfEra + (if month ≤ 2 then 1 else 0)
  (year, month, day)

/-- The instant some seconds and nanoseconds after 1970-01-01. -/
def ofUnix (seconds : Int) (nanos : Nat) : Instant :=
  let (year, month, day) := dateOfDays (seconds / 86400)
  let rest := (seconds % 86400).toNat
  ⟨year, month, day, rest / 3600, rest / 60 % 60, rest % 60, nanos⟩

/-! ## Writing -/

/-- A number with leading zeros up to a width. -/
def padded (width value : Nat) : List Char :=
  let digits := Nat.toDigits 10 value
  List.replicate (width - digits.length) '0' ++ digits

/-- A year; outside of four digits it has a sign. -/
def yearText (year : Int) : List Char :=
  if 0 ≤ year ∧ year ≤ 9999 then padded 4 year.toNat
  else (if year < 0 then '-' else '+') :: padded 4 year.natAbs

/-- The fraction of a second in none, three, six or nine digits. -/
def fractionText (nano : Nat) : List Char :=
  if nano = 0 then []
  else if nano % 1000000 = 0 then '.' :: padded 3 (nano / 1000000)
  else if nano % 1000 = 0 then '.' :: padded 6 (nano / 1000)
  else '.' :: padded 9 nano

/-- The text of an instant. -/
def write (t : Instant) : List Char :=
  yearText t.year ++ '-' :: padded 2 t.month ++ '-' :: padded 2 t.day
    ++ 'T' :: padded 2 t.hour ++ ':' :: padded 2 t.minute ++ ':' :: padded 2 t.second
    ++ fractionText t.nano ++ ['Z']

/-! ## Reading -/

/-- A number of at least one and at most `width` digits. -/
def digits (width : Nat) : Text.Reader Nat := fun input =>
  let found := (input.take width).takeWhile Text.isDigit
  if found = [] then none else some (Text.decimalValue found, input.drop found.length)

/-- White space. -/
def skip (input : List Char) : List Char := input.dropWhile Text.isBlank

/-- A number of at most `width` digits behind white space, within limits. -/
def field (width low high : Nat) : Text.Reader Nat := fun input => do
  let (value, rest) ← digits width (skip input)
  if low ≤ value ∧ value ≤ high then return (value, rest) else none

/-- A mark behind white space. -/
def mark (c : Char) : Text.Reader Unit := fun input =>
  match skip input with
  | first :: rest => if first = c then some ((), rest) else none
  | [] => none

/-- A year of up to four digits, or of any number of digits after a sign. -/
def yearField : Text.Reader Int := fun input =>
  match skip input with
  | '-' :: rest => (digits rest.length rest).map fun (value, rest) => (-(value : Int), rest)
  | '+' :: rest => (digits rest.length rest).map fun (value, rest) => ((value : Int), rest)
  | rest => (digits 4 rest).map fun (value, rest) => ((value : Int), rest)

/-- The nanoseconds of a fraction, of which nine digits count. -/
def fractionField : Text.Reader Nat := fun input =>
  match input with
  | '.' :: rest => do
    let (value, after) ← digits 9 rest
    let count := rest.length - after.length
    return (value * Nat.pow 10 (9 - count), after.dropWhile Text.isDigit)
  | _ => some (0, input)

/-- The minutes of an offset after its sign: two digits of hours, colons or white space, and two
digits of minutes. -/
def offsetMinutes : Text.Reader Nat := fun input =>
  match input with
  | a :: b :: rest =>
    if Text.isDigit a && Text.isDigit b then
      match rest.dropWhile fun c => c == ':' || Text.isBlank c with
      | c :: d :: rest =>
        if Text.isDigit c && Text.isDigit d && c < '6' then
          some (Text.decimalValue [a, b] * 60 + Text.decimalValue [c, d], rest)
        else none
      | _ => none
    else none
  | _ => none

/-- An offset: `Z`, `UTC`, or hours and minutes with a sign. -/
def offsetField : Text.Reader Int := fun input =>
  match input with
  | 'Z' :: rest => some (0, rest)
  | 'z' :: rest => some (0, rest)
  | '+' :: rest => (offsetMinutes rest).map fun (value, rest) => ((value : Int), rest)
  | '-' :: rest => (offsetMinutes rest).map fun (value, rest) => (-(value : Int), rest)
  | '−' :: rest => (offsetMinutes rest).map fun (value, rest) => (-(value : Int), rest)
  | u :: t :: c :: rest =>
    if u.toUpper = 'U' ∧ t.toUpper = 'T' ∧ c.toUpper = 'C' then some (0, rest) else none
  | _ => none

/-- The separator of date and time. -/
def separator : Text.Reader Unit := fun input =>
  match input with
  | c :: rest => if c = 'T' ∨ c = 't' ∨ c = ' ' then some ((), rest) else none
  | [] => none

/-- The instant that a text names. -/
def read (input : List Char) : Option Instant := do
  let (year, rest) ← yearField input
  let (_, rest) ← mark '-' rest
  let (month, rest) ← field 2 1 12 rest
  let (_, rest) ← mark '-' rest
  let (day, rest) ← field 2 1 31 rest
  let (_, rest) ← separator rest
  let (hour, rest) ← field 2 0 23 rest
  let (_, rest) ← mark ':' rest
  let (minute, rest) ← field 2 0 59 rest
  let (_, rest) ← mark ':' rest
  let (second, rest) ← field 2 0 60 rest
  let (nano, rest) ← fractionField rest
  let (offset, rest) ← offsetField (skip rest)
  let stated : Instant := ⟨year, month, day, hour, minute, second, nano⟩
  let found := stated.ofLocal offset
  if skip rest = [] ∧ stated.valid ∧ found.valid ∧ -1440 < offset ∧ offset < 1440 then
    return found
  else none

end Instant

end SourceIndex
