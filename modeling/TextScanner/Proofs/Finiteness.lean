import TextScanner.Proofs.Magnitude
import TextScanner.Stored.Number

/-!
# Stored numbers are finite

A stored number is a significand below `2 ^ 64` that is scaled by a power of ten.
Scaling up is refused where it leaves the finite numbers.  Scaling down divides by
a power of ten that is at least one, several times if need be, so that the number
never grows by more than what rounding carries (`below_scaleDown`).
-/

namespace TextScanner.Stored

open Rounding
open Float.Model (UnpackedFloat totalExponent)
open Float.Model.Format (binary64)
open Float.Model.UnpackedFloat

/-! ## Powers of ten and significands -/

/-- A power of ten is rounded once. -/
theorem powerOfTen_eq_round {exponent : Nat} (large : 22 < exponent)
    (small : exponent ≤ greatestPower) :
    (powerOfTen exponent).toModel =
      Float.Model.pack
        (roundWithAccuracy binary64 .positive (2 ^ 53 * 10 ^ exponent) (-53) .exact) := by
  have scientific : UnpackedFloat.ofScientific binary64 1 exponent =
      roundWithAccuracy binary64 .positive (2 ^ 53 * 10 ^ exponent) (-53) .exact := by
    unfold UnpackedFloat.ofScientific
    unfold greatestPower at small
    have limit : (2 : Int) ^ binary64.exponentBits = 2048 := by decide
    rw [dif_neg (by decide), if_neg (by omega), if_neg (by omega), if_pos (by omega)]
    rfl
  unfold powerOfTen Float.ofScientific
  rw [dif_neg (by omega), ← scientific]
  rfl

theorem le_log2_powerOfTen {exponent : Nat} (large : 22 < exponent) :
    54 ≤ (2 ^ 53 * 10 ^ exponent).log2 := by
  have power : 2 ^ 54 ≤ 2 ^ 53 * 10 ^ exponent := by
    calc
      2 ^ 54 ≤ 2 ^ 53 * 10 ^ 1 := by decide
      _ ≤ 2 ^ 53 * 10 ^ exponent :=
        Nat.mul_le_mul_left _ (Nat.pow_le_pow_right (by decide) (by omega))
  exact (Nat.le_log2 (by omega)).2 power

theorem reaches_round_powerOfTen {exponent : Nat} (large : 22 < exponent) :
    Reaches 2 (roundWithAccuracy binary64 .positive (2 ^ 53 * 10 ^ exponent) (-53) .exact) := by
  have log := le_log2_powerOfTen large
  refine reaches_roundWithAccuracy _ _ (by omega) ?_ (by decide)
  simp only [totalExponent]
  omega

theorem powerOfTen_reaches_of_large {exponent : Nat} (large : 22 < exponent)
    (small : exponent ≤ greatestPower) : Reaches 2 (powerOfTen exponent).toModel.unpack := by
  rw [powerOfTen_eq_round large small]
  exact (reaches_round_powerOfTen large).unpack_pack (by decide)

theorem powerOfTen_reaches {exponent : Nat} (small : exponent ≤ greatestPower) :
    Reaches 1 (powerOfTen exponent).toModel.unpack := by
  by_cases large : 22 < exponent
  · exact (powerOfTen_reaches_of_large large small).mono (by decide)
  · have tabled : ∀ exponent : Fin 23, Reaches 1 (powerOfTen exponent).toModel.unpack := by
      decide +kernel
    exact tabled ⟨exponent, by omega⟩

theorem below_powerOfTen {exponent : Nat} (small : exponent ≤ greatestPower) :
    Below 1024 (powerOfTen exponent).toModel.unpack := by
  by_cases large : 22 < exponent
  · by_cases greatest : exponent = greatestPower
    · -- The greatest power is not rounded up to the next power of two.
      subst greatest
      decide +kernel
    · have less : exponent ≤ 307 := by
        unfold greatestPower at small greatest
        omega
      have power : 2 ^ 53 * 10 ^ exponent < 2 ^ (1072 + 1) := by
        calc
          2 ^ 53 * 10 ^ exponent ≤ 2 ^ 53 * 10 ^ 307 :=
            Nat.mul_le_mul_left _ (Nat.pow_le_pow_right (by decide) less)
          _ < 2 ^ (1072 + 1) := by decide +kernel
      have within : totalExponent (2 ^ 53 * 10 ^ exponent) (-53) ≤ 1020 := by
        have log := log2_le_of_lt_two_pow power
        simp only [totalExponent]
        omega
      have below := below_roundWithAccuracy .positive .exact within (by decide)
      have fits := (reaches_round_powerOfTen large).exponentOf_le below
      rw [powerOfTen_eq_round large small]
      exact (below.unpack_pack (by omega) (by decide)).mono (by decide)
  · have tabled : ∀ exponent : Fin 23, Below 1024 (powerOfTen exponent).toModel.unpack := by
      decide +kernel
    exact tabled ⟨exponent, by omega⟩

theorem below_nearest {significand : Nat} (range : significand < significandLimit) :
    Below 67 (nearest significand).toModel.unpack := by
  have limit : significand < 2 ^ 64 := range
  have log : significand.log2 ≤ 63 := log2_le_of_lt_two_pow limit
  unfold nearest Float.ofScientific
  split
  · -- A significand that is a number itself is multiplied by one.
    have one : Below 1 (Float.exactlyRepresentablePowersOfTen[0]).toModel.unpack := by
      decide +kernel
    have value : significand.toUInt64.toNat = significand := by
      rw [Nat.toUInt64, UInt64.toNat_ofNat', Nat.mod_eq_of_lt limit]
    have whole : Below 65 (significand.toUInt64.toFloat).toModel.unpack :=
      (below_ofNat (value.symm ▸ log)).pack (by decide) (by decide)
    exact (whole.mul one (by decide)).pack (by decide) (by decide)
  · have nonzero : significand ≠ 0 := by omega
    have left :
        totalExponent (significand <<< binary64.mantissaBits) (-binary64.mantissaBits) ≤ 65 := by
      have shifted := totalExponent_shiftLeft binary64.mantissaBits 0 nonzero
      rw [Int.zero_sub] at shifted
      rw [shifted, totalExponent]
      omega
    have right : totalExponent (10 ^ (0 : Int).toNat) 0 ≤ 1 := by decide
    have scientific : Below 67 (UnpackedFloat.ofScientific binary64 significand 0) := by
      unfold UnpackedFloat.ofScientific
      have limit : (2 : Int) ^ binary64.exponentBits = 2048 := by decide
      rw [dif_neg nonzero, if_neg (by omega), if_neg (by omega), if_pos (by omega)]
      exact Below.mul (.finite _ _ left) (.finite _ _ right) (by decide)
    exact scientific.pack (by decide) (by decide)

/-! ## Scaling -/

theorem below_scaleDown {fuel exponent : Nat} {number : Float}
    (below : Below 67 number.toModel.unpack) :
    Below 68 (scaleDown fuel number exponent).toModel.unpack := by
  induction fuel generalizing number exponent with
  | zero => exact below.mono (by decide)
  | succ fuel ih =>
      simp only [scaleDown]
      split
      · rename_i small
        exact (below.div (powerOfTen_reaches small) (by decide)).pack (by decide) (by decide)
      · split
        · exact below.mono (by decide)
        · have reaches := powerOfTen_reaches_of_large (by decide) (Nat.le_refl greatestPower)
          exact ih ((below.div reaches (by decide)).pack (by decide) (by decide))

theorem isFinite_of_scale? {significand : Nat} {exponent : Int} {number : Float}
    (range : significand < significandLimit) (scaled : scale? significand exponent = some number) :
    number.isFinite = true := by
  have below := below_nearest range
  simp only [scale?] at scaled
  split at scaled
  · split at scaled
    · rename_i small
      split at scaled
      · simp at scaled
      · rename_i bounded
        rw [← Option.some.inj scaled]
        have product := below.mul (below_powerOfTen small) (by decide)
        exact isFinite_unpack_pack_of_isInf product.isFinite (Bool.eq_false_iff.2 bounded)
    · split at scaled
      · rw [← Option.some.inj scaled]
        exact below.isFinite
      · simp at scaled
  · rw [← Option.some.inj scaled]
    exact (below_scaleDown below).isFinite

/-! ## Digits -/

theorem gatherWhole_lt {significand : Nat} (digits : List Char)
    (range : significand < significandLimit) :
    (gatherWhole significand digits).1 < significandLimit := by
  induction digits generalizing significand with
  | nil => exact range
  | cons digit rest ih =>
      simp only [gatherWhole]
      split
      · rename_i fits
        exact ih fits
      · exact range

theorem gatherFraction_lt {significand : Nat} (gathered : Nat) (digits : List Char)
    (range : significand < significandLimit) :
    (gatherFraction significand gathered digits).1 < significandLimit := by
  induction digits generalizing significand gathered with
  | nil => exact range
  | cons digit rest ih =>
      simp only [gatherFraction]
      split
      · rename_i fits
        exact ih _ fits
      · exact range

theorem isFinite_of_magnitude? {numeral : Numeral} {number : Float}
    (read : magnitude? numeral = some number) : number.isFinite = true := by
  have range : (gatherFraction (gatherWhole 0 numeral.whole).1 0 (numeral.fraction.getD [])).1
      < significandLimit :=
    gatherFraction_lt 0 _ (gatherWhole_lt _ (by decide))
  simp only [magnitude?] at read
  split at read
  · exact isFinite_of_scale? range read
  · split at read
    · split at read
      · rw [← Option.some.inj read]
        rfl
      · simp at read
    · split at read
      · exact isFinite_of_scale? range read
      · exact isFinite_of_scale? range read

/-- A stored number is finite. -/
theorem isFinite_of_number? {numeral : Numeral} {number : Float}
    (read : number? numeral = some number) : number.isFinite = true := by
  obtain ⟨magnitude, found, rfl⟩ := Option.map_eq_some_iff.1 read
  have finite := isFinite_of_magnitude? found
  split
  · exact isFinite_neg finite
  · exact finite

end TextScanner.Stored
