/-!
# Decimal texts of floating-point numbers

A finite double is `mantissa * 2 ^ exponent`. Its text has the fewest digits that read back as the
same number and, among those, the ones nearest to it; it is written without an exponent.
-/

namespace SourceIndex.Decimal

/-- A positive number `mantissa * 2 ^ exponent`, with the width of the gap below it. -/
structure Dyadic where
  mantissa : Nat
  exponent : Int
  /-- The next lower double is only half as far away as the next higher one. -/
  narrowBelow : Bool

/-- A non-negative fraction. -/
structure Fraction where
  numerator : Nat
  denominator : Nat

namespace Fraction

/-- `a` does not exceed `b`. -/
def le (a b : Fraction) : Bool := a.numerator * b.denominator ≤ b.numerator * a.denominator

/-- `a` is below `b`. -/
def lt (a b : Fraction) : Bool := a.numerator * b.denominator < b.numerator * a.denominator

/-- `mantissa * base ^ exponent`. -/
def scaled (mantissa base : Nat) (exponent : Int) : Fraction :=
  if 0 ≤ exponent then ⟨mantissa * base.pow exponent.toNat, 1⟩
  else ⟨mantissa, base.pow (-exponent).toNat⟩

/-- The whole part of a quotient. -/
def quotient (a b : Fraction) : Nat :=
  (a.numerator * b.denominator) / (a.denominator * b.numerator)

/-- The distance of two fractions. -/
def distance (a b : Fraction) : Fraction :=
  let left := a.numerator * b.denominator
  let right := b.numerator * a.denominator
  ⟨max left right - min left right, a.denominator * b.denominator⟩

end Fraction

namespace Dyadic

/-- The number as a fraction. -/
def value (x : Dyadic) : Fraction := .scaled x.mantissa 2 x.exponent

/-- The middle between the number and the next higher double. -/
def upper (x : Dyadic) : Fraction := .scaled (2 * x.mantissa + 1) 2 (x.exponent - 1)

/-- The middle between the number and the next lower double. -/
def lower (x : Dyadic) : Fraction :=
  if x.narrowBelow then .scaled (4 * x.mantissa - 1) 2 (x.exponent - 2)
  else .scaled (2 * x.mantissa - 1) 2 (x.exponent - 1)

/-- Whether a decimal reads back as the number; the middles round to an even mantissa. -/
def readsBack (x : Dyadic) (decimal : Fraction) : Bool :=
  if x.mantissa % 2 = 0 then x.lower.le decimal && decimal.le x.upper
  else x.lower.lt decimal && decimal.lt x.upper

/-- The number of digits before the decimal point of a number of at least one. -/
def wholeDigits (x : Dyadic) : Nat :=
  (Nat.toDigits 10 (x.value.quotient ⟨1, 1⟩)).length

/-- The zeros that follow the decimal point of a number below one; `bound` limits the search. -/
def leadingZeros (x : Dyadic) : (bound zeros : Nat) → Nat
  | 0, zeros => zeros
  | bound + 1, zeros =>
    if (Fraction.scaled 1 10 (-(zeros + 1 : Int))).le x.value then zeros
    else leadingZeros x bound (zeros + 1)

/-- The least power of ten above the number. -/
def magnitude (x : Dyadic) : Int :=
  if Fraction.le ⟨1, 1⟩ x.value then x.wholeDigits else -(x.leadingZeros 400 0 : Int)

/-- The nearer of the two decimals with last place `10 ^ place` that enclose the number, if one of
them reads back. -/
def atPlace? (x : Dyadic) (place : Int) : Option Nat :=
  let unit := Fraction.scaled 1 10 place
  let below := x.value.quotient unit
  let decimal (digits : Nat) := Fraction.scaled digits 10 place
  let lowFits := x.readsBack (decimal below)
  let highFits := x.readsBack (decimal (below + 1))
  if lowFits && highFits then
    let toLow := x.value.distance (decimal below)
    let toHigh := x.value.distance (decimal (below + 1))
    if toLow.lt toHigh then some below
    else if toHigh.lt toLow then some (below + 1)
    else if below % 2 = 0 then some below
    else some (below + 1)
  else if lowFits then some below
  else if highFits then some (below + 1)
  else none

/-- The digits and the place of the last digit of the shortest decimal, tried from `count` digits
on; `bound` limits the number of tries. -/
def shortestFrom (x : Dyadic) : (bound count : Nat) → Nat × Int
  | 0, count =>
    let place := x.magnitude - count
    (x.value.quotient (.scaled 1 10 place), place)
  | bound + 1, count =>
    let place := x.magnitude - count
    match x.atPlace? place with
    | some digits => (digits, place)
    | none => shortestFrom x bound (count + 1)

/-- The digits and the place of the last digit of the shortest decimal that reads back. -/
def shortest (x : Dyadic) : Nat × Int := x.shortestFrom 18 0

end Dyadic

/-- `digits * 10 ^ place` without an exponent. -/
def positional (digits : Nat) (place : Int) : String :=
  let text := Nat.toDigits 10 digits
  if 0 ≤ place then String.ofList (text ++ List.replicate place.toNat '0')
  else
    let after := (-place).toNat
    let padded := List.replicate (after + 1 - text.length) '0' ++ text
    String.ofList
      (padded.take (padded.length - after) ++ '.' :: padded.drop (padded.length - after))

/-- The magnitude of a finite double, or nothing for zero. -/
def dyadic? (bits : UInt64) : Option Dyadic :=
  let fraction := (bits &&& 0xfffffffffffff).toNat
  let biased := ((bits >>> 52) &&& 0x7ff).toNat
  if biased = 0 then
    if fraction = 0 then none else some ⟨fraction, -1074, false⟩
  else some ⟨fraction + 0x10000000000000, biased - 1075, fraction = 0 && 1 < biased⟩

/-- The text of a double: the shortest digits, never an exponent. -/
def text (x : Float) : String :=
  if x.isNaN then "NaN"
  else
    let bits := x.toBits
    let sign := if bits >>> 63 = 1 then "-" else ""
    if x.isInf then sign ++ "inf"
    else
      match dyadic? bits with
      | none => sign ++ "0"
      | some magnitude =>
        let (digits, place) := magnitude.shortest
        sign ++ positional digits place

/-- The whole number nearest to a non-negative double, the even one of two that are equally near. -/
def roundToEven (x : Float) : Nat :=
  match dyadic? x.toBits with
  | none => 0
  | some magnitude =>
    let value := magnitude.value
    let whole := value.numerator / value.denominator
    let twice := 2 * (value.numerator % value.denominator)
    if twice < value.denominator then whole
    else if value.denominator < twice then whole + 1
    else whole + whole % 2

/-- The double nearest to `digits * 10 ^ exponent`. Beyond a thousand places the value is infinite
or zero, so that no large power is computed. -/
def nearest (digits : Nat) (exponent : Int) : Float :=
  let size : Int := (Nat.toDigits 10 digits).length
  if digits = 0 then 0.0
  else if 1000 < exponent + size then 1.0 / 0.0
  else if exponent + size < -1000 then 0.0
  else if 0 ≤ exponent then Float.ofScientific digits false exponent.toNat
  else Float.ofScientific digits true (-exponent).toNat

end SourceIndex.Decimal
