import Mathlib.Algebra.Group.Nat.Defs
import Mathlib.Tactic.SplitIfs
import SourceIndex.Proofs.Matching

/-!
# Quotients of counts

The quotient of two counts is a float and thus rounded, first the counts and then their quotient. A
count below 2 ^ 53 is a float as it is, so if it is divided by a larger count the quotient stays
below one. For larger counts this fails.
-/

namespace SourceIndex.Score

open Float.Model UnpackedFloat

/-! ## Rounding -/

theorem mantissa_shiftRight (extended : ExtendedMantissa) (places : Nat) :
    (extended >>> places).mantissa = extended.mantissa / 2 ^ places := by
  change (places.repeat ExtendedMantissa.shiftRightOne extended).mantissa = _
  induction places with
  | zero => simp [Nat.repeat]
  | succ places ih =>
    rw [Nat.repeat, ExtendedMantissa.shiftRightOne, ih, Nat.div_div_eq_div_mul, Nat.pow_succ]

theorem shiftRight_exact (mantissa places : Nat) :
    (⟨mantissa * 2 ^ places, false, false⟩ : ExtendedMantissa) >>> places =
      ⟨mantissa, false, false⟩ := by
  change places.repeat ExtendedMantissa.shiftRightOne _ = _
  induction places generalizing mantissa with
  | zero => simp [Nat.repeat]
  | succ places ih =>
    rw [Nat.repeat, Nat.pow_succ', ← Nat.mul_assoc, ih]
    simp [ExtendedMantissa.shiftRightOne]

theorem mantissa_ofMantissaAndAccuracy (mantissa : Nat) (accuracy : Accuracy) :
    (ExtendedMantissa.ofMantissaAndAccuracy mantissa accuracy).mantissa = mantissa := by
  rcases accuracy with _ | (_ | _ | _) <;> rfl

theorem roundedMantissa_bounds (extended : ExtendedMantissa) :
    extended.mantissa ≤ extended.roundedMantissa ∧
      extended.roundedMantissa ≤ extended.mantissa + 1 := by
  obtain ⟨mantissa, round, sticky⟩ := extended
  cases round <;> cases sticky <;>
    simp only [ExtendedMantissa.roundedMantissa, ExtendedMantissa.accuracy,
      Accuracy.roundToNearestEven] <;>
    omega

/-- A mantissa without its last binary places, rounded. -/
def shortened (mantissa : Nat) (accuracy : Accuracy) (places : Nat) : Nat :=
  (ExtendedMantissa.ofMantissaAndAccuracy mantissa accuracy >>> places).roundedMantissa

theorem shortened_bounds (mantissa : Nat) (accuracy : Accuracy) (places : Nat) :
    mantissa / 2 ^ places ≤ shortened mantissa accuracy places ∧
      shortened mantissa accuracy places ≤ mantissa / 2 ^ places + 1 := by
  have bounds := roundedMantissa_bounds
    (ExtendedMantissa.ofMantissaAndAccuracy mantissa accuracy >>> places)
  rwa [mantissa_shiftRight, mantissa_ofMantissaAndAccuracy] at bounds

theorem shortened_exact (mantissa places : Nat) :
    shortened (mantissa * 2 ^ places) .exact places = mantissa := by
  rw [shortened, ExtendedMantissa.ofMantissaAndAccuracy, shiftRight_exact]
  rfl

/-- A quotient is not rounded to more than a whole number that it does not exceed. -/
theorem shortened_le {total divisor places : Nat} (bound : Nat) (positive : 0 < divisor)
    (most : total ≤ bound * 2 ^ places * divisor) :
    shortened (total / divisor) (accuracyOfFraction (total % divisor) divisor) places ≤ bound := by
  have whole : total / divisor ≤ bound * 2 ^ places := by
    rw [Nat.div_le_iff_le_mul_add_pred positive, Nat.mul_comm divisor]
    omega
  by_cases less : total / divisor / 2 ^ places < bound
  · exact Nat.le_trans (shortened_bounds ..).2 less
  · -- the quotient is the whole number itself, so that nothing is rounded
    have equal : total / divisor = bound * 2 ^ places := by
      rw [Nat.not_lt, Nat.le_div_iff_mul_le (Nat.two_pow_pos places)] at less
      exact Nat.le_antisymm whole less
    have rest : total % divisor = 0 := by
      have split := Nat.div_add_mod total divisor
      rw [equal, Nat.mul_comm divisor] at split
      omega
    rw [equal, rest, accuracyOfFraction, if_pos rfl, shortened_exact]

/-- The exponent that a float of some size has. -/
def properExponent (mantissa : Nat) (exponent : Int) : Int :=
  max (mantissa.log2 + 1 + exponent - 53) (-1074)

theorem targetExponent_eq (mantissa : Nat) (exponent : Int) :
    Format.binary64.targetExponent (totalExponent mantissa exponent) =
      properExponent mantissa exponent := rfl

/-- The number of binary places that a float has no room for. -/
def excess (mantissa : Nat) (exponent : Int) : Nat :=
  (properExponent mantissa exponent - exponent).toNat

/-- A number is told by its sign, its mantissa and its exponent. -/
theorem finite_congr {sign sign' : Sign} {mantissa mantissa' : Nat} {exponent exponent' : Int}
    {positive : 0 < mantissa} {positive' : 0 < mantissa'} (signs : sign = sign')
    (mantissas : mantissa = mantissa') (exponents : exponent = exponent') :
    UnpackedFloat.finite sign mantissa exponent positive =
      .finite sign' mantissa' exponent' positive' := by
  cases signs
  cases mantissas
  cases exponents
  rfl

/-- A number of which the mantissa may be zero. -/
def orZero (sign : Sign) (mantissa : Nat) (exponent : Int) : UnpackedFloat :=
  if zero : mantissa = 0 then .zero sign
  else .finite sign mantissa exponent (Nat.pos_of_ne_zero zero)

theorem orZero_of_pos (sign : Sign) {mantissa : Nat} (positive : 0 < mantissa) (exponent : Int) :
    orZero sign mantissa exponent = .finite sign mantissa exponent positive :=
  dif_neg positive.ne'

/-- Rounding drops the places in excess, and once more if a place was carried over. -/
theorem roundWithAccuracy_eq (sign : Sign) (mantissa : Nat) (exponent : Int)
    (accuracy : Accuracy) {rounded : Nat} {scale : Int}
    (same : shortened mantissa accuracy (excess mantissa exponent) = rounded)
    (scaled : exponent + excess mantissa exponent = scale) :
    roundWithAccuracy Format.binary64 sign mantissa exponent accuracy =
      orZero sign (rounded / 2 ^ excess rounded scale) (scale + excess rounded scale) := by
  subst same scaled
  have dropped (number places : Nat) : number / 2 ^ places =
      (ExtendedMantissa.ofMantissaAndAccuracy number .exact >>> places).mantissa := by
    rw [mantissa_shiftRight, mantissa_ofMantissaAndAccuracy]
  rw [dropped]
  rfl

/-! ## Full precision -/

/-- A mantissa of 53 binary places. -/
structure Full (mantissa : Nat) : Prop where
  least : 2 ^ 52 ≤ mantissa
  most : mantissa < 2 ^ 53

theorem log2_mul_two_pow {mantissa : Nat} (positive : 0 < mantissa) (places : Nat) :
    (mantissa * 2 ^ places).log2 = mantissa.log2 + places := by
  obtain ⟨least, most⟩ := (Nat.log2_eq_iff positive.ne').1 rfl
  have room : 0 < 2 ^ places := Nat.two_pow_pos places
  rw [Nat.log2_eq_iff (Nat.mul_pos positive room).ne', Nat.add_right_comm, Nat.pow_add, Nat.pow_add]
  exact ⟨Nat.mul_le_mul_right _ least, Nat.mul_lt_mul_of_pos_right most room⟩

namespace Full

variable {mantissa : Nat}

theorem positive (full : Full mantissa) : 0 < mantissa :=
  Nat.lt_of_lt_of_le (Nat.two_pow_pos 52) full.least

theorem log2_eq (full : Full mantissa) : mantissa.log2 = 52 :=
  (Nat.log2_eq_iff full.positive.ne').2 ⟨full.least, full.most⟩

theorem of_log2_eq (positive : 0 < mantissa) (log2_eq : mantissa.log2 = 52) : Full mantissa := by
  obtain ⟨least, most⟩ := (Nat.log2_eq_iff positive.ne').1 log2_eq
  exact ⟨least, most⟩

theorem excess_mul (full : Full mantissa) (places : Nat) {exponent : Int}
    (inside : -1074 ≤ exponent + places) : excess (mantissa * 2 ^ places) exponent = places := by
  rw [excess, properExponent, log2_mul_two_pow full.positive, full.log2_eq]
  omega

theorem excess_eq (full : Full mantissa) {exponent : Int} (inside : -1074 ≤ exponent) :
    excess mantissa exponent = 0 := by
  rw [excess, properExponent, full.log2_eq]
  omega

/-- A number that needs no more than 53 binary places is not changed by rounding. -/
theorem roundWithAccuracy_mul (full : Full mantissa) (sign : Sign) (places : Nat) (exponent : Int)
    (inside : -1074 ≤ exponent + places) :
    roundWithAccuracy Format.binary64 sign (mantissa * 2 ^ places) exponent .exact =
      .finite sign mantissa (exponent + places) full.positive := by
  have same : shortened (mantissa * 2 ^ places) .exact (excess (mantissa * 2 ^ places) exponent) =
      mantissa := by
    rw [full.excess_mul places inside, shortened_exact]
  have scaled : exponent + excess (mantissa * 2 ^ places) exponent = exponent + places := by
    rw [full.excess_mul places inside]
  rw [roundWithAccuracy_eq sign _ _ _ same scaled, full.excess_eq inside, Nat.pow_zero, Nat.div_one,
    orZero_of_pos sign full.positive]
  exact finite_congr rfl rfl (Int.add_zero _)

theorem roundWithAccuracy_eq (full : Full mantissa) (sign : Sign) {exponent : Int}
    (inside : -1074 ≤ exponent) :
    roundWithAccuracy Format.binary64 sign mantissa exponent .exact =
      .finite sign mantissa exponent full.positive := by
  have rounded := full.roundWithAccuracy_mul sign 0 exponent (by omega)
  rw [Nat.pow_zero, Nat.mul_one] at rounded
  exact rounded.trans (finite_congr rfl rfl (Int.add_zero _))

end Full

/-! ## Stored numbers -/

/-- How a number is stored that is not too large. -/
theorem pack_finite (sign : Sign) {mantissa : Nat} (positive : 0 < mantissa) {exponent : Int}
    (high : exponent ≤ 971) :
    UnpackedFloat.pack Format.binary64 (.finite sign mantissa exponent positive) =
      packComponents Format.binary64 sign
        (if mantissa.log2 + 1 = 53 then BitVec.ofNat 11 (exponent + 1075).toNat else 0#11)
        (BitVec.ofNat 52 mantissa) := by
  have bias : exponent + (1023 : Nat) + (52 : Nat) = exponent + 1075 := by omega
  have fits : ¬2 ^ 11 ≤ (exponent + (1023 : Nat) + (52 : Nat)).toNat + 1 := by omega
  refine (if_neg fits).trans ?_
  by_cases normal : mantissa.log2 + 1 = 53
  · rw [if_pos normal, ← bias]
    exact if_pos normal
  · rw [if_neg normal]
    exact if_neg normal

/-- The sign is stored in front of the other components. -/
theorem sign_packComponents (sign : Sign) (exponent : BitVec 11) (mantissa : BitVec 52) :
    Sign.ofBitVec (unpackSign (packComponents Format.binary64 sign exponent mantissa)) = sign := by
  change Sign.ofBitVec (BitVec.extractLsb' 63 1 (sign.toBitVec ++ exponent ++ mantissa)) = sign
  rw [BitVec.extractLsb'_append_eq_of_le (by decide),
    BitVec.extractLsb'_append_eq_of_le (by decide)]
  cases sign <;> rfl

section

variable {bits : BitVec Format.binary64.numBits} {exponent : BitVec 11}
variable (stored : unpackExponent bits = exponent) (finite : exponent ≠ -1#11)
include stored finite

/-- What is read of a number of full precision. -/
theorem unpack_of_normal (normal : exponent ≠ 0#11) :
    ∃ positive, UnpackedFloat.unpack Format.binary64 bits =
      .finite (Sign.ofBitVec (unpackSign bits)) (1#1 ++ unpackMantissa bits).toNat
        (exponent.toNat - 1075) positive := by
  cases stored
  exact ⟨_, (if_neg finite).trans (if_neg normal)⟩

/-- What is read of a smaller number. -/
theorem unpack_of_subnormal (subnormal : exponent = 0#11) :
    UnpackedFloat.unpack Format.binary64 bits = .zero (Sign.ofBitVec (unpackSign bits)) ∨
      ∃ positive, UnpackedFloat.unpack Format.binary64 bits =
        .finite (Sign.ofBitVec (unpackSign bits)) (unpackMantissa bits).toNat
          (exponent.toNat - 1075 + 1) positive := by
  cases stored
  by_cases zero : unpackMantissa bits = 0#52
  · exact .inl ((if_neg finite).trans ((if_pos subnormal).trans (dif_pos zero)))
  · exact .inr ⟨_, (if_neg finite).trans ((if_pos subnormal).trans (dif_neg zero))⟩

end

theorem unpack_pack (number : UnpackedFloat) :
    (Float.Model.pack number).unpack =
      UnpackedFloat.unpack Format.binary64 (UnpackedFloat.pack Format.binary64 number) := rfl

/-- A number of full precision is read as it was stored. -/
theorem Full.unpack_pack {mantissa : Nat} (full : Full mantissa) (sign : Sign) {exponent : Int}
    (low : -1074 ≤ exponent) (high : exponent ≤ 971) :
    (Float.Model.pack (.finite sign mantissa exponent full.positive)).unpack =
      .finite sign mantissa exponent full.positive := by
  have least := full.least
  have most := full.most
  have field : (BitVec.ofNat 11 (exponent + 1075).toNat).toNat = (exponent + 1075).toNat := by
    rw [BitVec.toNat_ofNat, Nat.mod_eq_of_lt (by omega)]
  have finite : BitVec.ofNat 11 (exponent + 1075).toNat ≠ -1#11 := by
    rw [Ne, ← BitVec.toNat_inj, field, show (-1#11).toNat = 2047 by rfl]
    omega
  have normal : BitVec.ofNat 11 (exponent + 1075).toNat ≠ 0#11 := by
    rw [Ne, ← BitVec.toNat_inj, field, show (0#11).toNat = 0 by rfl]
    omega
  have whole : (1#1 ++ BitVec.ofNat 52 mantissa).toNat = mantissa := by
    have implicit : (1#1).toNat <<< 52 = 2 ^ 52 := rfl
    rw [BitVec.toNat_append, ← Nat.shiftLeft_add_eq_or_of_lt (BitVec.isLt _), implicit,
      BitVec.toNat_ofNat]
    omega
  rw [Score.unpack_pack, pack_finite sign full.positive high, full.log2_eq, if_pos rfl]
  obtain ⟨_, read⟩ := unpack_of_normal unpackExponent_packComponents finite normal
  refine read.trans (finite_congr (sign_packComponents ..) ?_ (by omega))
  rw [unpackMantissa_packComponents, whole]

/-- A number is less than one. -/
def BelowOne (number : UnpackedFloat) : Prop :=
  ∃ place ∈ rank? number, place < toLex (1, toLex (-52, 4503599627370496))

theorem lt_one_iff {x : Float} : x < 1.0 ↔ BelowOne x.toModel.unpack := by
  have one : rank 1.0 = some (toLex (1, toLex (-52, 4503599627370496))) := rfl
  rw [lt_iff, one, BelowOne, rank]
  simp

theorem belowOne_finite {mantissa : Nat} (positive : 0 < mantissa) {exponent : Int}
    (low : exponent ≤ -53) : BelowOne (.finite .positive mantissa exponent positive) := by
  refine ⟨_, rfl, ?_⟩
  rw [Prod.Lex.toLex_lt_toLex]
  refine .inr ⟨rfl, ?_⟩
  rw [Prod.Lex.toLex_lt_toLex]
  exact .inl (by omega)

theorem belowOne_zero (sign : Sign) : BelowOne (.zero sign) := ⟨_, rfl, by decide⟩

theorem belowOne_packComponents (exponent : BitVec 11) (small : exponent.toNat ≤ 1022)
    (mantissa : BitVec 52) :
    BelowOne (UnpackedFloat.unpack Format.binary64
      (packComponents Format.binary64 .positive exponent mantissa)) := by
  have finite : exponent ≠ -1#11 := by
    rintro rfl
    exact absurd small (by decide)
  by_cases subnormal : exponent = 0#11
  · rcases unpack_of_subnormal unpackExponent_packComponents finite subnormal with read | ⟨_, read⟩
    · rw [read]
      exact belowOne_zero _
    · rw [read, sign_packComponents]
      have least : exponent.toNat = 0 := congrArg BitVec.toNat subnormal
      exact belowOne_finite _ (by omega)
  · obtain ⟨_, read⟩ := unpack_of_normal unpackExponent_packComponents finite subnormal
    rw [read, sign_packComponents]
    exact belowOne_finite _ (by omega)

/-- A number is stored as less than one if that can be told from its exponent. -/
theorem belowOne_pack {mantissa : Nat} (positive : 0 < mantissa) {exponent : Int}
    (low : exponent ≤ -53) :
    BelowOne (Float.Model.pack (.finite .positive mantissa exponent positive)).unpack := by
  rw [unpack_pack, pack_finite .positive positive (by omega)]
  apply belowOne_packComponents
  split_ifs
  · rw [BitVec.toNat_ofNat]
    exact Nat.le_trans (Nat.mod_le ..) (by omega)
  · simp

/-- What is rounded to less than one is stored as less than one. -/
theorem belowOne_roundWithAccuracy {mantissa : Nat} {exponent : Int} {accuracy : Accuracy}
    {places : Nat} (precise : 53 ≤ places)
    (scaled : exponent + excess mantissa exponent = -(places : Int))
    (most : shortened mantissa accuracy (excess mantissa exponent) < 2 ^ places) :
    BelowOne (Float.Model.pack
      (roundWithAccuracy Format.binary64 .positive mantissa exponent accuracy)).unpack := by
  rw [roundWithAccuracy_eq .positive _ _ _ rfl scaled]
  generalize shortened mantissa accuracy (excess mantissa exponent) = rounded at most
  have short : rounded.log2 + 1 ≤ places := by
    by_cases zero : rounded = 0
    · rw [zero, Nat.log2_zero]
      omega
    · exact (Nat.log2_lt zero).2 most
  rcases Nat.eq_zero_or_pos (rounded / 2 ^ excess rounded (-(places : Int))) with zero | positive
  · rw [zero]
    exact belowOne_packComponents 0#11 (by decide) 0#52
  · rw [orZero_of_pos .positive positive]
    apply belowOne_pack
    rw [excess, properExponent]
    omega

/-! ## Counts -/

/-- The mantissa of a small count. -/
def countMantissa (count : Nat) : Nat := count * 2 ^ (52 - count.log2)

theorem full_countMantissa {count : Nat} (positive : 0 < count) (small : count < 2 ^ 53) :
    Full (countMantissa count) := by
  have short : count.log2 < 53 := (Nat.log2_lt positive.ne').2 small
  refine .of_log2_eq (Nat.mul_pos positive (Nat.two_pow_pos _)) ?_
  rw [countMantissa, log2_mul_two_pow positive]
  omega

theorem ofNat_eq_finite {count : Nat} (positive : 0 < count) (small : count < 2 ^ 53) :
    UnpackedFloat.ofNat Format.binary64 count = .finite .positive (countMantissa count)
      (count.log2 - 52) (full_countMantissa positive small).positive := by
  have short : count.log2 < 53 := (Nat.log2_lt positive.ne').2 small
  have above : compare (count : Int) 0 = .gt := by
    rw [Int.compare_eq_gt]
    omega
  have target : properExponent count 0 = count.log2 - 52 := by
    rw [properExponent]
    omega
  have places : (0 - ((count.log2 : Int) - 52)).toNat = 52 - count.log2 := by omega
  have scaled : 0 - ((52 - count.log2 : Nat) : Int) = count.log2 - 52 := by omega
  have rounds : UnpackedFloat.ofNat Format.binary64 count =
      roundWithAccuracy Format.binary64 .positive (countMantissa count) (count.log2 - 52)
        .exact := by
    rw [UnpackedFloat.ofNat, UnpackedFloat.ofInt, UnpackedFloat.normalize, above]
    simp only [UnpackedFloat.round, targetExponent_eq, target, decreaseExponent, Int.toNat_natCast]
    rw [places, scaled, Nat.shiftLeft_eq]
    rfl
  exact rounds.trans ((full_countMantissa positive small).roundWithAccuracy_eq .positive (by omega))

/-- A factor of one changes no number of full precision. -/
theorem Full.unpack_mul_one {number : Float.Model} {mantissa : Nat} (full : Full mantissa)
    {exponent : Int} (low : -1074 ≤ exponent) (high : exponent ≤ 971)
    (found : number.unpack = .finite .positive mantissa exponent full.positive) :
    (number * (Float.ofBits 4607182418800017408).toModel).unpack =
      .finite .positive mantissa exponent full.positive := by
  have one : (Float.ofBits 4607182418800017408).toModel.unpack =
      .finite .positive (2 ^ 52) (-52) (Nat.two_pow_pos 52) := rfl
  have scaled : exponent + -52 + (52 : Nat) = exponent := by omega
  have rounded := full.roundWithAccuracy_mul .positive 52 (exponent + -52) (by omega)
  rw [scaled] at rounded
  have product : number * (Float.ofBits 4607182418800017408).toModel =
      Float.Model.pack (UnpackedFloat.mul Format.binary64 number.unpack
        (Float.ofBits 4607182418800017408).toModel.unpack) := rfl
  rw [product, found, one]
  exact (congrArg (fun x => (Float.Model.pack x).unpack) rounded).trans
    (full.unpack_pack .positive low high)

/-- A count below 2 ^ 53 is a float as it is. -/
theorem unpack_ofNat {count : Nat} (positive : 0 < count) (small : count < 2 ^ 53) :
    (Float.ofNat count).toModel.unpack = .finite .positive (countMantissa count)
      (count.log2 - 52) (full_countMantissa positive small).positive := by
  have full := full_countMantissa positive small
  have short : count.log2 < 53 := (Nat.log2_lt positive.ne').2 small
  have word : count.toUInt64.toNat = count := by
    rw [Nat.toUInt64_eq, UInt64.toNat_ofNat', Nat.mod_eq_of_lt (by omega)]
  have converted : (Float.Model.ofUInt64 count.toUInt64).unpack =
      .finite .positive (countMantissa count) (count.log2 - 52) full.positive := by
    rw [Float.Model.ofUInt64, UnpackedFloat.ofUInt64, word, ofNat_eq_finite positive small]
    exact full.unpack_pack .positive (by omega) (by omega)
  have read : Float.ofNat count = Float.ofScientific count false 0 := rfl
  rw [read, Float.ofScientific, dif_pos ⟨small, by decide⟩]
  exact full.unpack_mul_one (by omega) (by omega) converted

/-- Rounding to full precision leaves a number of full precision that is no smaller in scale. -/
theorem exists_roundWithAccuracy (sign : Sign) {mantissa : Nat} (exponent : Int)
    (accuracy : Accuracy) (positive : 0 < mantissa) {places : Nat}
    (long : mantissa.log2 = 52 + places) (inside : -1074 ≤ exponent + places) :
    ∃ (rounded : Nat) (scale : Int) (full : Full rounded), exponent + places ≤ scale ∧
      roundWithAccuracy Format.binary64 sign mantissa exponent accuracy =
        .finite sign rounded scale full.positive := by
  obtain ⟨least, most⟩ := (Nat.log2_eq_iff positive.ne').1 long
  have dropped : excess mantissa exponent = places := by
    rw [excess, properExponent]
    omega
  have scaled : exponent + excess mantissa exponent = exponent + places := by rw [dropped]
  rw [roundWithAccuracy_eq sign _ _ accuracy rfl scaled, dropped]
  obtain ⟨lower, upper⟩ := shortened_bounds mantissa accuracy places
  have room : 0 < 2 ^ places := Nat.two_pow_pos places
  rw [Nat.pow_add, ← Nat.le_div_iff_mul_le room] at least
  rw [Nat.add_right_comm, Nat.pow_add, ← Nat.div_lt_iff_lt_mul room] at most
  generalize shortened mantissa accuracy places = rounded at lower upper
  by_cases carried : rounded = 2 ^ 53
  · -- rounding up has given a place more, and the last one is a zero
    have half : Full (2 ^ 52) := ⟨Nat.le_refl _, by decide⟩
    have one : excess (2 ^ 53) (exponent + places) = 1 := half.excess_mul 1 (by omega)
    have halved : 2 ^ 53 / 2 ^ 1 = 2 ^ 52 := by decide
    refine ⟨2 ^ 52, exponent + places + 1, half, by omega, ?_⟩
    rw [carried, one, halved]
    exact orZero_of_pos sign half.positive _
  · have full : Full rounded := ⟨by omega, by omega⟩
    refine ⟨rounded, exponent + places, full, by omega, ?_⟩
    rw [full.excess_eq inside, Nat.pow_zero, Nat.div_one, orZero_of_pos sign full.positive]
    exact finite_congr rfl rfl (Int.add_zero _)

/-- A number of full precision that is too large to be stored becomes infinite. -/
theorem Full.unpack_pack_of_large {mantissa : Nat} (full : Full mantissa) (sign : Sign)
    {exponent : Int} (high : 971 < exponent) :
    (Float.Model.pack (.finite sign mantissa exponent full.positive)).unpack = .infinity sign := by
  have large : 2 ^ 11 ≤ (exponent + (1023 : Nat) + (52 : Nat)).toNat + 1 := by omega
  have packed : UnpackedFloat.pack Format.binary64
      (.finite sign mantissa exponent full.positive) = packedInfinity Format.binary64 sign :=
    if_pos large
  rw [Score.unpack_pack, packed]
  cases sign <;> rfl

theorem ofScientific_zero {count : Nat} (positive : 0 < count) :
    UnpackedFloat.ofScientific Format.binary64 count 0 =
      roundWithAccuracy Format.binary64 .positive (count * 2 ^ 53) (-53) .exact := by
  have notHigh : ¬(0 : Int) > 2 ^ 11 := by decide
  have notLow : ¬(0 : Int) < -(2 ^ 11 + count.log2) := by omega
  have product : count <<< 53 * 10 ^ (0 : Int).toNat = count * 2 ^ 53 := by
    rw [Int.toNat_zero, Nat.pow_zero, Nat.mul_one, Nat.shiftLeft_eq]
  rw [UnpackedFloat.ofScientific, dif_neg positive.ne', if_neg notHigh, if_neg notLow,
    if_pos (Int.le_refl 0), ← product]
  rfl

/-- A count from 2 ^ 53 on becomes a float with a positive exponent, or infinite. -/
theorem unpack_ofNat_of_large {count : Nat} (large : 2 ^ 53 ≤ count) :
    (Float.ofNat count).toModel.unpack = .infinity .positive ∨
      ∃ (mantissa : Nat) (exponent : Int) (full : Full mantissa), 0 < exponent ∧
        (Float.ofNat count).toModel.unpack = .finite .positive mantissa exponent full.positive := by
  have positive : 0 < count := Nat.lt_of_lt_of_le (Nat.two_pow_pos 53) large
  have long : 53 ≤ count.log2 := (Nat.le_log2 positive.ne').2 large
  have bits : (count * 2 ^ 53).log2 = 52 + (count.log2 + 1) := by
    rw [log2_mul_two_pow positive]
    omega
  obtain ⟨mantissa, exponent, full, least, rounded⟩ := exists_roundWithAccuracy .positive (-53)
    .exact (Nat.mul_pos positive (Nat.two_pow_pos 53)) bits (by omega)
  have converted : Float.ofNat count =
      ⟨Float.Model.pack (.finite .positive mantissa exponent full.positive)⟩ := by
    have read : Float.ofNat count = Float.ofScientific count false 0 := rfl
    rw [read, Float.ofScientific, dif_neg (by omega), ← rounded, ← ofScientific_zero positive]
    rfl
  rw [converted]
  by_cases high : 971 < exponent
  · exact .inl (full.unpack_pack_of_large .positive high)
  · exact .inr
      ⟨mantissa, exponent, full, by omega, full.unpack_pack .positive (by omega) (by omega)⟩

/-- What becomes of any count. -/
theorem unpack_ofNat_cases {count : Nat} (positive : 0 < count) :
    (Float.ofNat count).toModel.unpack = .infinity .positive ∨
      ∃ (mantissa : Nat) (exponent : Int) (full : Full mantissa),
        (Float.ofNat count).toModel.unpack = .finite .positive mantissa exponent full.positive ∧
          (mantissa = countMantissa count ∧ exponent = count.log2 - 52 ∨ 0 < exponent) := by
  by_cases large : 2 ^ 53 ≤ count
  · rcases unpack_ofNat_of_large large with infinite | ⟨mantissa, exponent, full, above, finite⟩
    · exact .inl infinite
    · exact .inr ⟨mantissa, exponent, full, finite, .inr above⟩
  · have small : count < 2 ^ 53 := Nat.not_le.1 large
    exact .inr ⟨_, _, full_countMantissa positive small, unpack_ofNat positive small,
      .inl ⟨rfl, rfl⟩⟩

/-! ## Division -/

/-- The mantissa and the exponent of a quotient before it is rounded. -/
theorem divCore_eq {mantissa mantissa' : Nat} (full : Full mantissa) (full' : Full mantissa')
    {exponent exponent' : Int} (lag : Nat) (ahead : exponent + lag = exponent') :
    ∃ shift ≤ 53, 53 ≤ lag + shift ∧
      divCore Format.binary64 mantissa exponent mantissa' exponent' =
        (mantissa * 2 ^ shift / mantissa', -((lag + shift : Nat) : Int),
          accuracyOfFraction (mantissa * 2 ^ shift % mantissa') mantissa') := by
  have target : Format.binary64.targetExponent
      (totalExponent mantissa exponent - totalExponent mantissa' exponent') =
        max (exponent - exponent' - 53) (-1074) := by
    have scales : totalExponent mantissa exponent - totalExponent mantissa' exponent' =
        exponent - exponent' := by
      rw [totalExponent, totalExponent, full.log2_eq, full'.log2_eq]
      omega
    rw [scales]
    rfl
  refine ⟨(exponent - exponent' -
    min (exponent - exponent') (max (exponent - exponent' - 53) (-1074))).toNat, by omega,
    by omega, ?_⟩
  simp only [divCore, target, Nat.shiftLeft_eq]
  congr 2
  omega

/-- A quotient is rounded. -/
theorem div_finite {mantissa mantissa' : Nat} (positive : 0 < mantissa) (positive' : 0 < mantissa')
    {exponent exponent' : Int} {quotient : Nat} {scale : Int} {accuracy : Accuracy}
    (divided : divCore Format.binary64 mantissa exponent mantissa' exponent' =
      (quotient, scale, accuracy)) :
    UnpackedFloat.div Format.binary64 (.finite .positive mantissa exponent positive)
        (.finite .positive mantissa' exponent' positive') =
      roundWithAccuracy Format.binary64 .positive quotient scale accuracy := by
  have rounds : UnpackedFloat.div Format.binary64 (.finite .positive mantissa exponent positive)
      (.finite .positive mantissa' exponent' positive') =
        (fun result : Nat × Int × Accuracy =>
          roundWithAccuracy Format.binary64 .positive result.1 result.2.1 result.2.2)
            (divCore Format.binary64 mantissa exponent mantissa' exponent') := rfl
  rw [rounds, divided]

/-- Of a quotient below one, 53 binary places are left before it is rounded. -/
theorem exists_scale {quotient places : Nat} (precise : 53 ≤ places)
    (less : quotient < 2 ^ places) :
    ∃ left, 53 ≤ left ∧ left + excess quotient (-(places : Int)) = places ∧
      quotient / 2 ^ excess quotient (-(places : Int)) < 2 ^ 53 := by
  have short : quotient.log2 + 1 ≤ places := by
    by_cases zero : quotient = 0
    · rw [zero, Nat.log2_zero]
      omega
    · exact (Nat.log2_lt zero).2 less
  have dropped : quotient.log2 + 1 ≤ 53 + excess quotient (-(places : Int)) ∧
      53 + excess quotient (-(places : Int)) ≤ places := by
    rw [excess, properExponent]
    omega
  refine ⟨places - excess quotient (-(places : Int)), by omega, by omega, ?_⟩
  rw [Nat.div_lt_iff_lt_mul (Nat.two_pow_pos _), ← Nat.pow_add]
  exact Nat.lt_of_lt_of_le Nat.lt_log2_self (Nat.pow_le_pow_right (by decide) dropped.1)

/-- A quotient of numbers of full precision is below one if the first number is smaller. -/
theorem belowOne_div {mantissa mantissa' : Nat} (full : Full mantissa) (full' : Full mantissa')
    {exponent exponent' : Int}
    (less : exponent < exponent' ∨ exponent = exponent' ∧ mantissa < mantissa') :
    BelowOne (Float.Model.pack (UnpackedFloat.div Format.binary64
      (.finite .positive mantissa exponent full.positive)
      (.finite .positive mantissa' exponent' full'.positive))).unpack := by
  have least := full'.least
  have most := full.most
  have most' := full'.most
  obtain ⟨lag, ahead⟩ : ∃ lag : Nat, exponent + lag = exponent' :=
    ⟨(exponent' - exponent).toNat, by omega⟩
  -- the quotient is at most the largest float below one
  have bounded : mantissa * 2 ^ 53 ≤ (2 ^ 53 - 1) * (mantissa' * 2 ^ lag) := by
    cases lag with
    | zero => omega
    | succ lag =>
      have double : 2 ^ 52 * 2 ≤ mantissa' * 2 ^ (lag + 1) :=
        Nat.mul_le_mul least (Nat.le_self_pow (Nat.succ_ne_zero lag) 2)
      omega
  obtain ⟨shift, -, precise, divided⟩ := divCore_eq full full' lag ahead
  have below : mantissa * 2 ^ shift / mantissa' < 2 ^ (lag + shift) := by
    have smaller : mantissa < 2 ^ lag * mantissa' := by
      have positive := full.positive
      rw [Nat.mul_comm (2 ^ lag)]
      omega
    rw [Nat.div_lt_iff_lt_mul full'.positive, Nat.pow_add, Nat.mul_right_comm]
    exact Nat.mul_lt_mul_of_pos_right smaller (Nat.two_pow_pos shift)
  obtain ⟨left, enough, split, short⟩ := exists_scale precise below
  rw [div_finite _ _ divided]
  refine belowOne_roundWithAccuracy enough (by omega) ?_
  rcases Nat.eq_or_lt_of_le enough with last | more
  · subst last
    refine Nat.lt_of_le_of_lt (shortened_le (2 ^ 53 - 1) full'.positive ?_) (by decide)
    generalize excess _ _ = dropped at split
    refine Nat.le_of_mul_le_mul_right ?_ (Nat.two_pow_pos lag)
    calc mantissa * 2 ^ shift * 2 ^ lag
        = mantissa * 2 ^ 53 * 2 ^ dropped := by
          rw [Nat.mul_assoc, Nat.mul_assoc, ← Nat.pow_add, ← Nat.pow_add, split, Nat.add_comm lag]
      _ ≤ (2 ^ 53 - 1) * (mantissa' * 2 ^ lag) * 2 ^ dropped := Nat.mul_le_mul_right _ bounded
      _ = (2 ^ 53 - 1) * 2 ^ dropped * mantissa' * 2 ^ lag := by
          rw [Nat.mul_right_comm, Nat.mul_assoc _ mantissa']
  · exact Nat.lt_of_le_of_lt (Nat.le_trans (shortened_bounds ..).2 short)
      (Nat.pow_lt_pow_right (by decide) more)

/-- A number of full precision that is divided by itself gives one. -/
theorem Full.div_self {mantissa : Nat} (full : Full mantissa) (exponent : Int) :
    UnpackedFloat.div Format.binary64 (.finite .positive mantissa exponent full.positive)
        (.finite .positive mantissa exponent full.positive) =
      .finite .positive (2 ^ 52) (-52) (Nat.two_pow_pos 52) := by
  obtain ⟨shift, most, least, divided⟩ := divCore_eq full full 0 (Int.add_zero exponent)
  obtain rfl : shift = 53 := by omega
  have unit : Full (2 ^ 52) := ⟨Nat.le_refl _, by decide⟩
  rw [div_finite _ _ divided, Nat.mul_div_cancel_left _ full.positive, Nat.mul_mod_right]
  exact unit.roundWithAccuracy_mul .positive 1 (-53) (by decide)

theorem unpack_div (x y : Float) :
    (x / y).toModel = Float.Model.pack
      (UnpackedFloat.div Format.binary64 x.toModel.unpack y.toModel.unpack) := rfl

/-- Of two counts below 2 ^ 53, the larger one has the larger exponent or mantissa. -/
theorem countMantissa_lt {count total : Nat} (positive : 0 < count) (less : count < total) :
    count.log2 < total.log2 ∨
      count.log2 = total.log2 ∧ countMantissa count < countMantissa total := by
  have least : count.log2 ≤ total.log2 :=
    (Nat.le_log2 (Nat.lt_trans positive less).ne').2
      (Nat.le_trans (Nat.log2_self_le positive.ne') (Nat.le_of_lt less))
  rcases Nat.lt_or_eq_of_le least with shorter | same
  · exact .inl shorter
  · refine .inr ⟨same, ?_⟩
    rw [countMantissa, countMantissa, same]
    exact Nat.mul_lt_mul_of_pos_right less (Nat.two_pow_pos _)

/-- A count below 2 ^ 53 that is divided by a larger count gives less than one. -/
theorem ofNat_div_ofNat_lt_one {count total : Nat} (small : count < 2 ^ 53) (less : count < total) :
    Float.ofNat count / Float.ofNat total < 1.0 := by
  have some : 0 < total := Nat.lt_of_le_of_lt (Nat.zero_le count) less
  have nothing : BelowOne (Float.Model.pack (.zero .positive)).unpack :=
    belowOne_packComponents 0#11 (by decide) 0#52
  rw [lt_one_iff, unpack_div]
  rcases Nat.eq_zero_or_pos count with rfl | positive
  · have zero : (Float.ofNat 0).toModel.unpack = .zero .positive := rfl
    rw [zero]
    rcases unpack_ofNat_cases some with infinite | ⟨mantissa, exponent, full, finite, -⟩
    · rw [infinite]
      exact nothing
    · rw [finite]
      exact nothing
  · rw [unpack_ofNat positive small]
    rcases unpack_ofNat_cases some with infinite | ⟨mantissa, exponent, full, finite, sized⟩
    · rw [infinite]
      exact nothing
    · rw [finite]
      apply belowOne_div (full_countMantissa positive small) full
      rcases sized with ⟨rfl, rfl⟩ | above
      · have larger := countMantissa_lt positive less
        omega
      · have short : count.log2 < 53 := (Nat.log2_lt positive.ne').2 small
        exact .inl (by omega)

theorem ofNat_div_self {count : Nat} (positive : 0 < count) (small : count < 2 ^ 53) :
    Float.ofNat count / Float.ofNat count = 1.0 := by
  have divided : (Float.ofNat count / Float.ofNat count).toModel =
      Float.Model.pack (.finite .positive (2 ^ 52) (-52) (Nat.two_pow_pos 52)) := by
    rw [unpack_div, unpack_ofNat positive small, (full_countMantissa positive small).div_self]
  have one : (1.0 : Float) =
      ⟨Float.Model.pack (.finite .positive (2 ^ 52) (-52) (Nat.two_pow_pos 52))⟩ := rfl
  rw [one, ← divided]

/-- The quotient of a count below 2 ^ 53 and a count that is not smaller reaches one only if the
counts are the same. -/
theorem one_le_ofNat_div_ofNat_iff {count total : Nat} (small : count < 2 ^ 53)
    (most : count ≤ total) (positive : 0 < total) :
    1.0 ≤ Float.ofNat count / Float.ofNat total ↔ count = total := by
  constructor
  · intro reaches
    by_contra differs
    have less := ofNat_div_ofNat_lt_one small (Nat.lt_of_le_of_ne most differs)
    exact lt_irrefl _ (lt_of_lt_of_le less reaches)
  · rintro rfl
    rw [ofNat_div_self positive small]
    decide

-- From 2 ^ 53 on, different counts can be the same float.
example : Float.ofNat 9007199254740992 / Float.ofNat 9007199254740993 = 1.0 := by decide +kernel

end SourceIndex.Score
