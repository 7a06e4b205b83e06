import Mathlib

/-!
# The size of rounded numbers

A number is rounded to fifty-three binary places and packed into sixty-four
bits.  Both can carry it into the next binary place, and packing makes a number
unbounded whose exponent is too great.  This module bounds sizes by powers of
two, so that it can be seen where the latter does not happen: `Below` is an upper
bound and `Reaches` a lower one, and both are followed through rounding, packing,
products and quotients.

Sizes are counted as places: a number of total exponent `place` is less than
`2 ^ place` and not less than `2 ^ (place - 1)`.
-/

namespace TextScanner.Rounding

open Float.Model (UnpackedFloat totalExponent)
open Float.Model.Format (binary64)
open Float.Model.UnpackedFloat

/-- A number taken apart that is zero, or finite and less than `2 ^ bound`. -/
inductive Below (bound : Int) : UnpackedFloat → Prop
  | zero (sign : Sign) : Below bound (.zero sign)
  | finite (sign : Sign) {mantissa : Nat} {exponent : Int} (positive : 0 < mantissa)
      (within : totalExponent mantissa exponent ≤ bound) :
      Below bound (.finite sign mantissa exponent positive)

instance (bound : Int) : (number : UnpackedFloat) → Decidable (Below bound number)
  | .zero sign => isTrue (.zero sign)
  | .finite sign mantissa exponent positive =>
      if within : totalExponent mantissa exponent ≤ bound then
        isTrue (.finite sign positive within)
      else
        isFalse fun below => within (by cases below with | finite _ _ within => exact within)
  | .infinity _ | .notANumber => isFalse (by rintro ⟨⟩)

theorem Below.mono {bound wider : Int} {number : UnpackedFloat}
    (below : Below bound number) (le : bound ≤ wider) : Below wider number := by
  cases below with
  | zero sign => exact .zero sign
  | finite sign positive within => exact .finite sign positive (Int.le_trans within le)

/-! ## Rounding -/

theorem mantissa_shift (extended : ExtendedMantissa) (count : Nat) :
    (extended >>> count).mantissa = extended.mantissa / 2 ^ count := by
  induction count with
  | zero => simp [HShiftRight.hShiftRight, Nat.repeat]
  | succ count ih =>
      change (extended >>> count).mantissa / 2 = _
      rw [ih, Nat.div_div_eq_div_mul, Nat.pow_succ]

theorem roundedMantissa_le (extended : ExtendedMantissa) :
    extended.roundedMantissa ≤ extended.mantissa + 1 := by
  rcases extended with ⟨mantissa, roundBit, stickyBit⟩
  cases roundBit <;> cases stickyBit <;>
    simp [ExtendedMantissa.roundedMantissa, ExtendedMantissa.accuracy,
      Accuracy.roundToNearestEven]
  omega

theorem le_roundedMantissa (extended : ExtendedMantissa) :
    extended.mantissa ≤ extended.roundedMantissa := by
  rcases extended with ⟨mantissa, roundBit, stickyBit⟩
  cases roundBit <;> cases stickyBit <;>
    simp [ExtendedMantissa.roundedMantissa, ExtendedMantissa.accuracy,
      Accuracy.roundToNearestEven]

theorem mantissa_ofMantissaAndAccuracy (mantissa : Nat) (accuracy : Accuracy) :
    (ExtendedMantissa.ofMantissaAndAccuracy mantissa accuracy).mantissa = mantissa := by
  unfold ExtendedMantissa.ofMantissaAndAccuracy
  split <;> rfl

theorem log2_div_two_pow {number count : Nat} (nonzero : number ≠ 0)
    (kept : count ≤ number.log2) : (number / 2 ^ count).log2 = number.log2 - count := by
  have power : 2 ^ (number.log2 - count) * 2 ^ count = 2 ^ number.log2 := by
    rw [← Nat.pow_add, Nat.sub_add_cancel kept]
  have least : 2 ^ (number.log2 - count) ≤ number / 2 ^ count := by
    rw [Nat.le_div_iff_mul_le (Nat.two_pow_pos count), power]
    exact Nat.log2_self_le nonzero
  have positive := Nat.two_pow_pos (number.log2 - count)
  refine (Nat.log2_eq_iff (by omega)).2 ⟨least, ?_⟩
  rw [Nat.div_lt_iff_lt_mul (Nat.two_pow_pos count), Nat.pow_succ, Nat.mul_right_comm, power,
    ← Nat.pow_succ]
  exact Nat.lt_log2_self

theorem log2_le_of_lt_two_pow {number power : Nat} (lt : number < 2 ^ (power + 1)) :
    number.log2 ≤ power := by
  by_cases zero : number = 0
  · simp [zero]
  · exact Nat.le_of_lt_succ ((Nat.log2_lt zero).2 lt)

/-- Shifting to a greater exponent keeps the size of what is not shifted out. -/
theorem totalExponent_div {mantissa count : Nat} (exponent : Int)
    (left : mantissa / 2 ^ count ≠ 0) :
    totalExponent (mantissa / 2 ^ count) (exponent + count) = totalExponent mantissa exponent := by
  have nonzero : mantissa ≠ 0 := by
    rintro rfl
    simp at left
  have kept : count ≤ mantissa.log2 := by
    refine (Nat.le_log2 nonzero).2 ?_
    by_cases le : 2 ^ count ≤ mantissa
    · exact le
    · exact absurd (Nat.div_eq_of_lt (Nat.lt_of_not_le le)) left
  simp only [totalExponent, log2_div_two_pow nonzero kept]
  omega

/-- Rounding to the precision of a number can carry into one more binary
place. -/
theorem totalExponent_roundedMantissa_le {mantissa : Nat} {exponent bound : Int}
    (accuracy : Accuracy) (within : totalExponent mantissa exponent ≤ bound)
    (normal : -1074 ≤ bound) :
    let shifted := shiftToTargetExponent binary64 mantissa exponent accuracy
    totalExponent shifted.1.roundedMantissa shifted.2 ≤ bound + 1 := by
  have target : binary64.targetExponent (totalExponent mantissa exponent) ≤ bound := by
    simp only [Float.Model.Format.targetExponent, Float.Model.Format.mantissaBits,
      Float.Model.Format.minExponent]
    omega
  simp only [shiftToTargetExponent, shiftToExponent]
  generalize binary64.targetExponent (totalExponent mantissa exponent) = aim at target
  generalize amount : (aim - exponent).toNat = count
  have rounded := roundedMantissa_le
    (ExtendedMantissa.ofMantissaAndAccuracy mantissa accuracy >>> count)
  rw [mantissa_shift, mantissa_ofMantissaAndAccuracy] at rounded
  generalize (ExtendedMantissa.ofMantissaAndAccuracy mantissa accuracy >>> count).roundedMantissa
    = result at rounded
  have size : mantissa < 2 ^ (mantissa.log2 + 1) := Nat.lt_log2_self
  unfold totalExponent at within ⊢
  by_cases kept : count ≤ mantissa.log2 + 1
  · have quotient : mantissa / 2 ^ count < 2 ^ (mantissa.log2 + 1 - count) := by
      rw [Nat.div_lt_iff_lt_mul (Nat.two_pow_pos count), ← Nat.pow_add, Nat.sub_add_cancel kept]
      exact size
    have log : result.log2 ≤ mantissa.log2 + 1 - count :=
      log2_le_of_lt_two_pow (by
        have positive := Nat.two_pow_pos (mantissa.log2 + 1 - count)
        rw [Nat.pow_succ]
        omega)
    omega
  · -- Everything is shifted out; the exponent is then that of the least number.
    have gone : mantissa / 2 ^ count = 0 :=
      Nat.div_eq_of_lt (Nat.lt_of_lt_of_le size (Nat.pow_le_pow_right (by decide) (by omega)))
    have log : result.log2 ≤ 0 := log2_le_of_lt_two_pow (by omega)
    omega

theorem below_roundWithAccuracy (sign : Sign) {mantissa : Nat} {exponent bound : Int}
    (accuracy : Accuracy) (within : totalExponent mantissa exponent ≤ bound)
    (normal : -1074 ≤ bound) :
    Below (bound + 1) (roundWithAccuracy binary64 sign mantissa exponent accuracy) := by
  have rounded := totalExponent_roundedMantissa_le accuracy within normal
  unfold roundWithAccuracy
  generalize shiftToTargetExponent binary64 mantissa exponent accuracy = shifted at rounded ⊢
  rcases shifted with ⟨extended, place⟩
  simp only [shiftToTargetExponent, shiftToExponent, mantissa_shift,
    mantissa_ofMantissaAndAccuracy] at rounded ⊢
  split
  · exact .zero sign
  · rename_i left
    exact .finite sign _ (Int.le_trans (Int.le_of_eq (totalExponent_div _ left)) rounded)

/-! ## Packing -/

theorem exponentBias_binary64 : binary64.exponentBias = 1023 :=
  rfl

/-- What is unpacked is finite if its exponent is not the reserved one; it is
then less than its exponent allows. -/
theorem below_unpack (bits : BitVec binary64.numBits)
    (ordinary : unpackExponent bits ≠ -1#_) :
    Below (max (-1022) ((unpackExponent bits).toNat - 1022))
      (UnpackedFloat.unpack binary64 bits) := by
  have small : (unpackMantissa bits).toNat < 2 ^ 52 := (unpackMantissa bits).isLt
  have implicit : (1#1 ++ unpackMantissa bits).toNat < 2 ^ 53 := (1#1 ++ unpackMantissa bits).isLt
  simp only [UnpackedFloat.unpack, if_neg ordinary, exponentBias_binary64]
  split
  · rename_i least
    split
    · exact .zero _
    · have log : (unpackMantissa bits).toNat.log2 ≤ 51 := log2_le_of_lt_two_pow small
      refine .finite _ _ ?_
      simp only [least, totalExponent, BitVec.toNat_zero]
      omega
  · have log : (1#1 ++ unpackMantissa bits).toNat.log2 ≤ 52 := log2_le_of_lt_two_pow implicit
    refine .finite _ _ ?_
    simp only [totalExponent]
    omega

theorem toNat_exponent {code : Nat} (room : ¬2 ^ binary64.exponentBits ≤ code + 1) :
    (BitVec.ofNat binary64.exponentBits code).toNat = code := by
  have range : ¬2048 ≤ code + 1 := room
  rw [BitVec.toNat_ofNat]
  exact Nat.mod_eq_of_lt (show code < 2048 by omega)

theorem exponent_ne_reserved {code : Nat} (room : ¬2 ^ binary64.exponentBits ≤ code + 1) :
    BitVec.ofNat binary64.exponentBits code ≠ -1#_ := by
  intro reserved
  have range : ¬2048 ≤ code + 1 := room
  have same : code = 2047 := (toNat_exponent room).symm.trans (congrArg BitVec.toNat reserved)
  omega

/-- The exponent that a number is packed with, zero for those without.  The
greatest that can be packed is 971. -/
def exponentOf : UnpackedFloat → Int
  | .finite _ _ exponent _ => exponent
  | _ => 0

theorem exponentOf_unpack_le (bits : BitVec binary64.numBits) :
    exponentOf (UnpackedFloat.unpack binary64 bits) ≤ 971 := by
  have code : (unpackExponent bits).toNat < 2048 := (unpackExponent bits).isLt
  simp only [UnpackedFloat.unpack, exponentBias_binary64]
  split
  · split <;> simp [exponentOf]
  · rename_i ordinary
    have notTop : (unpackExponent bits).toNat ≠ 2047 := by
      intro top
      exact ordinary (BitVec.eq_of_toNat_eq top)
    split
    · split
      · simp [exponentOf]
      · rename_i least _
        simp only [exponentOf, least, BitVec.toNat_zero]
        omega
    · simp only [exponentOf]
      omega

theorem Below.exponentOf_le {bound : Int} {number : UnpackedFloat} (below : Below bound number)
    (room : bound ≤ 971) : exponentOf number ≤ 971 := by
  cases below with
  | zero sign => simp [exponentOf]
  | finite sign positive within =>
      simp only [totalExponent, exponentOf] at within ⊢
      omega

/-- A number stays as small where its exponent can be packed. -/
theorem Below.unpack_pack {number : UnpackedFloat} {bound : Int} (below : Below bound number)
    (fits : exponentOf number ≤ 971) (normal : -1022 ≤ bound) :
    Below bound (Float.Model.pack number).unpack := by
  change Below bound (UnpackedFloat.unpack binary64 (UnpackedFloat.pack binary64 number))
  fun_cases UnpackedFloat.pack binary64 number with
  | case1 => cases below
  | case2 sign => cases below
  | case3 sign =>
      refine (below_unpack _ ?_).mono ?_
      · rw [packedZero, unpackExponent_packComponents]
        decide
      · rw [packedZero, unpackExponent_packComponents]
        simp
        omega
  | case4 _ _ _ _ code overflow =>
      simp only [code, exponentBias_binary64, exponentOf] at overflow fits
      omega
  | case5 _ _ _ _ digits code room full =>
      refine (below_unpack _ ?_).mono ?_
      · rw [unpackExponent_packComponents]
        exact exponent_ne_reserved room
      · rw [unpackExponent_packComponents, toNat_exponent room]
        cases below with
        | finite _ _ within =>
            simp only [totalExponent, Float.Model.Format.mantissaBits, code, digits,
              exponentBias_binary64] at full within ⊢
            omega
  | case6 _ _ _ _ digits code room short =>
      refine (below_unpack _ ?_).mono ?_
      · rw [unpackExponent_packComponents]
        decide
      · rw [unpackExponent_packComponents]
        simp
        omega

theorem Below.pack {number : UnpackedFloat} {bound : Int} (below : Below bound number)
    (normal : -1022 ≤ bound) (room : bound ≤ 971) :
    Below bound (Float.Model.pack number).unpack :=
  below.unpack_pack (below.exponentOf_le room) normal

/-! ## Numbers in full precision -/

/-- A number of full precision that is not below `2 ^ (place - 1)`. -/
inductive Reaches (place : Int) : UnpackedFloat → Prop
  | infinity (sign : Sign) : Reaches place (.infinity sign)
  | finite (sign : Sign) {mantissa : Nat} {exponent : Int} (positive : 0 < mantissa)
      (full : mantissa.log2 = 52) (reached : place ≤ exponent + 53) :
      Reaches place (.finite sign mantissa exponent positive)

theorem Reaches.mono {place nearer : Int} {number : UnpackedFloat}
    (reaches : Reaches place number) (le : nearer ≤ place) : Reaches nearer number := by
  cases reaches with
  | infinity sign => exact .infinity sign
  | finite sign positive full reached => exact .finite sign positive full (Int.le_trans le reached)

theorem Reaches.exponentOf_le {place bound : Int} {number : UnpackedFloat}
    (reaches : Reaches place number) (below : Below bound number) :
    exponentOf number ≤ bound - 53 := by
  cases reaches with
  | infinity => cases below
  | finite _ _ full _ =>
      cases below with
      | finite _ _ within =>
          simp only [totalExponent, full, exponentOf] at within ⊢
          omega

instance (place : Int) : (number : UnpackedFloat) → Decidable (Reaches place number)
  | .infinity sign => isTrue (.infinity sign)
  | .finite sign mantissa exponent positive =>
      if holds : mantissa.log2 = 52 ∧ place ≤ exponent + 53 then
        isTrue (.finite sign positive holds.1 holds.2)
      else
        isFalse fun reaches =>
          holds (by cases reaches with | finite _ _ full reached => exact ⟨full, reached⟩)
  | .zero _ | .notANumber => isFalse (by rintro ⟨⟩)

/-- A number with more digits than fit is cut to full precision. -/
theorem shiftToTargetExponent_of_wide {mantissa : Nat} {exponent : Int} (accuracy : Accuracy)
    (wide : 52 ≤ mantissa.log2) (normal : -1020 ≤ totalExponent mantissa exponent) :
    (shiftToTargetExponent binary64 mantissa exponent accuracy).1.mantissa.log2 = 52 ∧
      (shiftToTargetExponent binary64 mantissa exponent accuracy).2 + 53 =
        totalExponent mantissa exponent := by
  have aim : binary64.targetExponent (totalExponent mantissa exponent) =
      totalExponent mantissa exponent - 53 := by
    simp only [Float.Model.Format.targetExponent, Float.Model.Format.mantissaBits,
      Float.Model.Format.minExponent]
    omega
  have amount : (totalExponent mantissa exponent - 53 - exponent).toNat = mantissa.log2 - 52 := by
    simp only [totalExponent]
    omega
  have nonzero : mantissa ≠ 0 := by
    rintro rfl
    simp at wide
  simp only [shiftToTargetExponent, aim, shiftToExponent, amount, mantissa_shift,
    mantissa_ofMantissaAndAccuracy]
  constructor
  · rw [log2_div_two_pow nonzero (by omega)]
    omega
  · simp only [totalExponent]
    omega

theorem reaches_roundWithAccuracy (sign : Sign) {mantissa : Nat} {exponent place : Int}
    (accuracy : Accuracy) (wide : 52 ≤ mantissa.log2)
    (reached : place ≤ totalExponent mantissa exponent) (normal : -1020 ≤ place) :
    Reaches place (roundWithAccuracy binary64 sign mantissa exponent accuracy) := by
  obtain ⟨full, size⟩ := shiftToTargetExponent_of_wide accuracy wide
    (Int.le_trans normal reached)
  unfold roundWithAccuracy
  generalize shiftToTargetExponent binary64 mantissa exponent accuracy = shifted at full size ⊢
  rcases shifted with ⟨extended, shiftedExponent⟩
  simp only at full size ⊢
  have roundedWide : 52 ≤ extended.roundedMantissa.log2 := by
    have nonzero : extended.mantissa ≠ 0 := by
      intro zero
      simp [zero] at full
    have power := Nat.log2_self_le nonzero
    have up := le_roundedMantissa extended
    rw [full] at power
    exact (Nat.le_log2 (by omega)).2 (Nat.le_trans power up)
  have roundedReached : place ≤ totalExponent extended.roundedMantissa shiftedExponent := by
    simp only [totalExponent] at size reached ⊢
    omega
  obtain ⟨finalFull, finalSize⟩ := shiftToTargetExponent_of_wide .exact roundedWide
    (Int.le_trans normal roundedReached)
  split
  · rename_i zero
    simp [zero] at finalFull
  · exact .finite sign _ finalFull (by omega)

/-- The implicit digit makes a mantissa full. -/
theorem log2_implicit (digits : BitVec 52) : (1#1 ++ digits).toNat.log2 = 52 := by
  have least : 2 ^ 52 ≤ (1#1 ++ digits).toNat := by
    rw [BitVec.toNat_append]
    exact Nat.left_le_or
  exact (Nat.log2_eq_iff (by omega)).2 ⟨least, (1#1 ++ digits).isLt⟩

theorem unpack_packedInfinity (sign : Sign) :
    ∃ same, UnpackedFloat.unpack binary64 (packedInfinity binary64 sign) = .infinity same := by
  simp only [UnpackedFloat.unpack, packedInfinity, unpackExponent_packComponents,
    unpackMantissa_packComponents, if_true]
  exact ⟨_, rfl⟩

theorem Reaches.unpack_pack {number : UnpackedFloat} {place : Int}
    (reaches : Reaches place number) (normal : -1020 ≤ place) :
    Reaches place (Float.Model.pack number).unpack := by
  change Reaches place (UnpackedFloat.unpack binary64 (UnpackedFloat.pack binary64 number))
  have infinite (sign : Sign) :
      Reaches place (UnpackedFloat.unpack binary64 (packedInfinity binary64 sign)) := by
    obtain ⟨same, unpacked⟩ := unpack_packedInfinity sign
    rw [unpacked]
    exact .infinity same
  fun_cases UnpackedFloat.pack binary64 number with
  | case1 => cases reaches
  | case2 sign => exact infinite sign
  | case3 sign => cases reaches
  | case4 sign => exact infinite sign
  | case5 sign mantissa exponent _ digits code room =>
      cases reaches with
      | finite _ _ full reached =>
          have coded : (code : Int) = exponent + 1075 := by
            simp only [code, exponentBias_binary64]
            omega
          have large : BitVec.ofNat binary64.exponentBits code ≠ 0#_ := by
            intro least
            have same : code = 0 := (toNat_exponent room).symm.trans (congrArg BitVec.toNat least)
            omega
          simp only [UnpackedFloat.unpack, unpackExponent_packComponents,
            if_neg (exponent_ne_reserved room), if_neg large, toNat_exponent room,
            exponentBias_binary64]
          refine .finite _ _ (log2_implicit _) ?_
          omega
  | case6 _ _ _ _ digits code room short =>
      cases reaches with
      | finite _ _ full reached => exact absurd (congrArg (· + 1) full) short

/-! ## Products and quotients -/

theorem Below.mul {left right : UnpackedFloat} {leftBound rightBound : Int}
    (leftBelow : Below leftBound left) (rightBelow : Below rightBound right)
    (normal : -1074 ≤ leftBound + rightBound) :
    Below (leftBound + rightBound + 1) (UnpackedFloat.mul binary64 left right) := by
  cases leftBelow with
  | zero sign =>
      cases rightBelow with
      | zero => exact .zero _
      | finite => exact .zero _
  | @finite sign mantissa exponent positive within =>
      cases rightBelow with
      | zero => exact .zero _
      | @finite otherSign otherMantissa otherExponent otherPositive otherWithin =>
          refine below_roundWithAccuracy _ _ ?_ normal
          have product :
              mantissa * otherMantissa < 2 ^ (mantissa.log2 + otherMantissa.log2 + 1 + 1) := by
            calc
              mantissa * otherMantissa
                  < 2 ^ (mantissa.log2 + 1) * 2 ^ (otherMantissa.log2 + 1) :=
                Nat.mul_lt_mul'' Nat.lt_log2_self Nat.lt_log2_self
              _ = 2 ^ (mantissa.log2 + otherMantissa.log2 + 1 + 1) := by
                rw [← Nat.pow_add]
                congr 1
                omega
          have log := log2_le_of_lt_two_pow product
          simp only [totalExponent] at within otherWithin ⊢
          omega

/-- A quotient is as small as the exponents of its parts allow. -/
theorem totalExponent_divCore_le {mantissa divisor : Nat} {exponent divisorExponent bound : Int}
    (divisorPositive : 0 < divisor)
    (within : totalExponent mantissa exponent - totalExponent divisor divisorExponent + 1 ≤ bound)
    (normal : -1073 ≤ bound) :
    let quotient := divCore binary64 mantissa exponent divisor divisorExponent
    totalExponent quotient.1 quotient.2.1 ≤ bound := by
  have target : binary64.targetExponent
      (totalExponent mantissa exponent - totalExponent divisor divisorExponent) ≤ bound - 1 := by
    simp only [Float.Model.Format.targetExponent, Float.Model.Format.mantissaBits,
      Float.Model.Format.minExponent]
    omega
  simp only [divCore]
  generalize binary64.targetExponent
    (totalExponent mantissa exponent - totalExponent divisor divisorExponent) = aim at target
  generalize amount :
    (exponent - divisorExponent - min (exponent - divisorExponent) aim).toNat = count
  have size : mantissa < 2 ^ (mantissa.log2 + 1) := Nat.lt_log2_self
  simp only [Nat.shiftLeft_eq, totalExponent] at within ⊢
  by_cases gone : mantissa * 2 ^ count / divisor = 0
  · simp only [gone, Nat.log2_zero]
    omega
  · have power : 2 ^ ((mantissa * 2 ^ count / divisor).log2 + divisor.log2)
        < 2 ^ (mantissa.log2 + 1 + count) := by
      calc
        2 ^ ((mantissa * 2 ^ count / divisor).log2 + divisor.log2)
            ≤ mantissa * 2 ^ count / divisor * divisor := by
          rw [Nat.pow_add]
          exact Nat.mul_le_mul (Nat.log2_self_le gone) (Nat.log2_self_le (by omega))
        _ ≤ mantissa * 2 ^ count := Nat.div_mul_le_self _ _
        _ < 2 ^ (mantissa.log2 + 1 + count) := by
          rw [Nat.pow_add]
          exact Nat.mul_lt_mul_of_pos_right size (Nat.two_pow_pos count)
    have log := (Nat.pow_lt_pow_iff_right (by decide)).1 power
    omega

theorem Below.div {number divisor : UnpackedFloat} {bound place : Int}
    (below : Below bound number) (reaches : Reaches place divisor)
    (normal : -1073 ≤ bound - place + 1) :
    Below (bound - place + 1 + 1) (UnpackedFloat.div binary64 number divisor) := by
  cases below with
  | zero =>
      cases reaches with
      | infinity => exact .zero _
      | finite => exact .zero _
  | finite _ _ within =>
      cases reaches with
      | infinity => exact .zero _
      | finite _ positive full reached =>
          refine below_roundWithAccuracy _ _ (totalExponent_divCore_le positive ?_ normal)
            (by omega)
          simp only [totalExponent, full] at within ⊢
          omega

/-! ## Whole numbers -/

theorem totalExponent_shiftLeft {mantissa : Nat} (count : Nat) (exponent : Int)
    (nonzero : mantissa ≠ 0) :
    totalExponent (mantissa <<< count) (exponent - count) = totalExponent mantissa exponent := by
  have log : (mantissa <<< count).log2 = mantissa.log2 + count := by
    rw [Nat.shiftLeft_eq]
    have positive := Nat.two_pow_pos count
    refine (Nat.log2_eq_iff (Nat.mul_ne_zero nonzero (by omega))).2 ⟨?_, ?_⟩
    · rw [Nat.pow_add]
      exact Nat.mul_le_mul_right _ (Nat.log2_self_le nonzero)
    · rw [Nat.add_right_comm, Nat.pow_add]
      exact Nat.mul_lt_mul_of_pos_right Nat.lt_log2_self positive
  simp only [totalExponent, log]
  omega

theorem below_round (sign : Sign) {mantissa : Nat} {exponent bound : Int} (nonzero : mantissa ≠ 0)
    (within : totalExponent mantissa exponent ≤ bound) (normal : -1074 ≤ bound) :
    Below (bound + 1) (UnpackedFloat.round binary64 sign mantissa exponent) := by
  refine below_roundWithAccuracy _ _ ?_ normal
  rw [totalExponent_shiftLeft _ _ nonzero]
  exact within

theorem below_ofNat {number : Nat} (log : number.log2 ≤ 63) :
    Below 65 (UnpackedFloat.ofNat binary64 number) := by
  unfold UnpackedFloat.ofNat UnpackedFloat.ofInt UnpackedFloat.normalize
  split
  · rename_i negative
    have less := Int.compare_eq_lt.1 negative
    omega
  · exact .zero _
  · rename_i positive
    have greater := Int.compare_eq_gt.1 positive
    have within : totalExponent (number : Int).toNat 0 ≤ 64 := by
      simp only [totalExponent, Int.toNat_natCast]
      omega
    exact below_round _ (by omega) within (by decide)

/-! ## Finite numbers -/

theorem Below.isFinite {number : UnpackedFloat} {bound : Int} (below : Below bound number) :
    number.isFinite = true := by
  cases below with
  | zero => rfl
  | finite => rfl

/-- Finite numbers stay so where their exponents can be packed. -/
theorem isFinite_unpack_pack {number : UnpackedFloat} (finite : number.isFinite = true)
    (fits : exponentOf number ≤ 971) : (Float.Model.pack number).unpack.isFinite = true := by
  cases number with
  | infinity | notANumber => simp [UnpackedFloat.isFinite] at finite
  | zero sign => exact (Below.unpack_pack (.zero sign) fits (Int.le_refl (-1022))).isFinite
  | finite sign mantissa exponent positive =>
      have below : Below (max (totalExponent mantissa exponent) (-1022))
          (.finite sign mantissa exponent positive) :=
        .finite sign positive (Int.le_max_left _ _)
      exact (below.unpack_pack fits (Int.le_max_right _ _)).isFinite

/-- A number that was rounded is finite unless it grew beyond the greatest. -/
theorem isFinite_unpack_pack_of_isInf {number : UnpackedFloat} (finite : number.isFinite = true)
    (bounded : (Float.Model.pack number).unpack.isInf = false) :
    (Float.Model.pack number).unpack.isFinite = true := by
  by_cases fits : exponentOf number ≤ 971
  · exact isFinite_unpack_pack finite fits
  · exfalso
    change (UnpackedFloat.unpack binary64 (UnpackedFloat.pack binary64 number)).isInf = false
      at bounded
    cases number with
    | infinity | notANumber => simp [UnpackedFloat.isFinite] at finite
    | zero => simp [exponentOf] at fits
    | finite sign mantissa exponent positive =>
        have overflow : 2 ^ binary64.exponentBits ≤
            (exponent + binary64.exponentBias + binary64.mantissaBitsWithoutImplicit).toNat +
              1 := by
          simp only [exponentOf, exponentBias_binary64] at fits ⊢
          omega
        obtain ⟨same, unpacked⟩ := unpack_packedInfinity sign
        simp only [UnpackedFloat.pack, if_pos overflow, unpacked] at bounded
        simp [UnpackedFloat.isInf] at bounded

theorem isFinite_neg {number : Float} (finite : number.isFinite = true) :
    (-number).isFinite = true := by
  have fits : exponentOf number.toModel.unpack ≤ 971 := exponentOf_unpack_le _
  change number.toModel.unpack.isFinite = true at finite
  change (Float.Model.pack number.toModel.unpack.neg).unpack.isFinite = true
  generalize number.toModel.unpack = unpacked at fits finite
  refine isFinite_unpack_pack ?_ ?_
  · cases unpacked <;> simp_all [UnpackedFloat.neg, UnpackedFloat.isFinite]
  · cases unpacked <;> simp_all [UnpackedFloat.neg, exponentOf]

end TextScanner.Rounding
