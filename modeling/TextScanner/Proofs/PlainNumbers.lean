import TextScanner.Decimal.Notation
import TextScanner.Proofs.JsonText
import TextScanner.Proofs.Rounding

/-!
# Plain numbers are read back

The plain text of a finite number consists of digits around a point, and the number that they
are read as is the number that was written.

The number is taken apart into a mantissa and an exponent, whose exact value has a decimal
(`value_ofBinary`).  That decimal is read as the number, since a number is rounded to itself,
and a shorter one is only taken instead if it is read alike (`beq_toFloat_shortest`).  Where
the point stands, and which zeros are put around the digits, does not change the value
(`spells_layPositional`), and what a decimal is read as depends on its value alone
(`Decimal.toFloat_congr`).
-/

namespace TextScanner

open Float.Model (UnpackedFloat)
open Float.Model.Format (binary64)
open Float.Model.UnpackedFloat
open Rounding (RoundsTo Canonical)

theorem eq_of_toModel_eq {left right : Float} (same : left.toModel = right.toModel) :
    left = right := by
  cases left
  cases right
  exact congrArg Float.ofModel same

/-! ## Decimals -/

namespace Decimal

/-- The exact value of a decimal. -/
def value (decimal : Decimal) : ℚ :=
  decimal.significand * 10 ^ decimal.exponent

theorem toModel_toFloat (decimal : Decimal) :
    ∃ number, RoundsTo decimal.value number ∧
      decimal.toFloat.toModel = Float.Model.pack number := by
  have rounded (negative : Bool) :=
    Rounding.toModel_ofScientific decimal.significand negative decimal.exponent.natAbs
  unfold toFloat value
  split_ifs with negative
  · have exponent : decimal.exponent = -decimal.exponent.natAbs := by omega
    have down := rounded true
    rwa [if_pos rfl, ← exponent] at down
  · have exponent : decimal.exponent = decimal.exponent.natAbs := by omega
    have up := rounded false
    rwa [if_neg Bool.false_ne_true, ← exponent] at up

/-- Decimals of one value are read as one number. -/
theorem toFloat_congr {left right : Decimal} (same : left.value = right.value) :
    left.toFloat = right.toFloat := by
  obtain ⟨number, rounds, packed⟩ := left.toModel_toFloat
  obtain ⟨other, alike, otherPacked⟩ := right.toModel_toFloat
  rw [same] at rounds
  obtain rfl := rounds.unique alike
  exact eq_of_toModel_eq (packed.trans otherPacked.symm)

/-- A decimal that is the value of a number is read as that number. -/
theorem toModel_toFloat_of_canonical {decimal : Decimal} {mantissa : Nat} {exponent : Int}
    (positive : 0 < mantissa) (canonical : Canonical mantissa exponent)
    (same : decimal.value = mantissa * 2 ^ exponent) :
    decimal.toFloat.toModel = Float.Model.pack (.finite .positive mantissa exponent positive) := by
  obtain ⟨number, rounds, packed⟩ := decimal.toModel_toFloat
  rw [same] at rounds
  rw [packed, rounds.unique (Rounding.roundsTo_self positive canonical)]

theorem unpack_toFloat_of_zero {decimal : Decimal} (zero : decimal.significand = 0) :
    decimal.toFloat.toModel.unpack = .zero .positive := by
  obtain ⟨number, rounds, packed⟩ := decimal.toModel_toFloat
  rw [value, zero, Nat.cast_zero, zero_mul] at rounds
  rw [packed, rounds.unique Rounding.roundsTo_zero]
  exact unpack_packedZero

theorem value_ofBinary (significand : Nat) (exponent : Int) :
    (ofBinary significand exponent).value = significand * 2 ^ exponent := by
  unfold ofBinary value
  split_ifs with negative
  · obtain ⟨power, rfl⟩ : ∃ power : Nat, exponent = -power := ⟨exponent.natAbs, by omega⟩
    rw [Int.natAbs_neg, Int.natAbs_natCast, Nat.pow_eq, zpow_neg, zpow_neg, zpow_natCast,
      zpow_natCast]
    push_cast
    rw [show (10 : ℚ) = 5 * 2 by norm_num, mul_pow]
    field_simp
  · obtain ⟨power, rfl⟩ : ∃ power : Nat, exponent = power := ⟨exponent.natAbs, by omega⟩
    rw [Int.natAbs_natCast, Nat.pow_eq, zpow_natCast, zpow_zero]
    push_cast
    ring

theorem value_dropZeros (fuel : Nat) (decimal : Decimal) :
    (dropZeros fuel decimal).value = decimal.value := by
  induction fuel generalizing decimal with
  | zero => rfl
  | succ fuel ih =>
      rw [dropZeros]
      split_ifs with zeros
      · have tens : ((10 * (decimal.significand / 10) : Nat) : ℚ) = decimal.significand := by
          exact_mod_cast Nat.mul_div_cancel' (Nat.dvd_of_mod_eq_zero zeros.2)
        rw [ih, value, value, ← tens, zpow_add_one₀ (by norm_num)]
        push_cast
        ring
      · rfl

/-! ## Shortest decimals -/

theorem eq_some_of_or {α : Type} {condition : Prop} [Decidable condition]
    {first second : Option α} {found : α}
    (chosen : (if condition then first.or second else second.or first) = some found) :
    first = some found ∨ second = some found := by
  split_ifs at chosen
  · exact (Option.or_eq_some_iff.mp chosen).imp_right And.right
  · exact (Option.or_eq_some_iff.mp chosen).symm.imp_left And.right

/-- A neighbour counts only if it is read as the number. -/
theorem beq_of_neighbour? {tie : Tie} {number : Float} {exact found : Decimal} {width : Nat}
    (neighbour : neighbour? tie number exact width = some found) :
    (found.toFloat == number) = true := by
  have tried {significand : Nat} {exponent : Int}
      (success : (if (Decimal.mk significand exponent).toFloat == number then
        some (Decimal.mk significand exponent) else none) = some found) :
      (found.toFloat == number) = true := by
    split_ifs at success with reads
    rwa [← Option.some.inj success]
  simp only [neighbour?] at neighbour
  by_cases whole : exact.significand % Nat.pow 10 width = 0
  · rw [if_pos whole] at neighbour
    exact tried neighbour
  · rw [if_neg whole] at neighbour
    rcases eq_some_of_or neighbour with above | below
    · exact tried above
    · exact tried below

theorem beq_of_search {tie : Tie} {number : Float} {exact : Decimal}
    (own : (exact.toFloat == number) = true) (width : Nat) :
    ((search tie number exact width).toFloat == number) = true := by
  induction width with
  | zero => exact own
  | succ width ih =>
      rw [search]
      split
      · rename_i found neighbour
        exact beq_of_neighbour? neighbour
      · exact ih

/-- The shortest decimal of a number is read as that number. -/
theorem beq_toFloat_shortest {tie : Tie} {number : Float} {exact : Decimal}
    (own : (exact.toFloat == number) = true) :
    ((shortest tie number exact).toFloat == number) = true := by
  unfold shortest
  rw [toFloat_congr (value_dropZeros _ _)]
  exact beq_of_search own _

end Decimal

/-! ## Taking numbers apart -/

namespace Binary

theorem toNat_unpackExponent (bits : BitVec binary64.numBits) :
    (unpackExponent bits).toNat = bits.toNat / Nat.pow 2 52 % Nat.pow 2 11 := by
  rw [unpackExponent_def, BitVec.extractLsb'_toNat, Nat.shiftRight_eq_div_pow]
  rfl

theorem toNat_unpackMantissa (bits : BitVec binary64.numBits) :
    (unpackMantissa bits).toNat = bits.toNat % Nat.pow 2 52 := by
  rw [unpackMantissa_def, BitVec.extractLsb'_toNat, Nat.shiftRight_zero]
  rfl

theorem toNat_unpackSign (bits : BitVec binary64.numBits) :
    (unpackSign bits).toNat = bits.toNat / Nat.pow 2 63 := by
  have range : bits.toNat < 2 ^ 64 := bits.isLt
  rw [unpackSign_def, BitVec.extractLsb'_toNat, Nat.shiftRight_eq_div_pow]
  change bits.toNat / 2 ^ 63 % 2 ^ 1 = bits.toNat / 2 ^ 63
  omega

/-- Whether a sign is a minus. -/
def isNegative : Sign → Bool
  | .negative => true
  | .positive => false

theorem isNegative_ofBitVec (bit : BitVec 1) :
    isNegative (Sign.ofBitVec bit) = (bit.toNat == 1) := by
  revert bit
  decide

/-- A number taken apart along its bits. -/
def ofUnpacked : UnpackedFloat → Binary
  | .notANumber => .notANumber
  | .infinity sign => .infinite (isNegative sign)
  | .zero sign => .finite (isNegative sign) 0 (-1074)
  | .finite sign mantissa exponent _ => .finite (isNegative sign) mantissa exponent

theorem ofFloat_eq_ofUnpacked (number : Float) :
    ofFloat number = ofUnpacked number.toModel.unpack := by
  have bits : number.toBits.toNat = number.toModel.toBits.toBitVec.toNat := rfl
  simp only [ofFloat, bits, Float.Model.unpack, UnpackedFloat.unpack]
  generalize number.toModel.toBits.toBitVec = vector
  rw [← toNat_unpackExponent vector, ← toNat_unpackMantissa vector, ← toNat_unpackSign vector,
    ← isNegative_ofBitVec]
  have top : @unpackExponent binary64 vector = -1#_ ↔
      (@unpackExponent binary64 vector).toNat = 2047 := BitVec.toNat_inj.symm
  have bottom : @unpackExponent binary64 vector = 0#_ ↔
      (@unpackExponent binary64 vector).toNat = 0 := BitVec.toNat_inj.symm
  have empty : @unpackMantissa binary64 vector = 0#_ ↔
      (@unpackMantissa binary64 vector).toNat = 0 := BitVec.toNat_inj.symm
  by_cases reserved : (@unpackExponent binary64 vector).toNat = 2047
  · rw [if_pos reserved, if_pos (top.mpr reserved)]
    by_cases plain : (@unpackMantissa binary64 vector).toNat = 0
    · rw [if_pos plain, if_pos (empty.mpr plain)]
      rfl
    · rw [if_neg plain, if_neg (mt empty.mp plain)]
      rfl
  · rw [if_neg reserved, if_neg (mt top.mp reserved)]
    by_cases least : (@unpackExponent binary64 vector).toNat = 0
    · rw [if_pos least, if_pos (bottom.mpr least)]
      by_cases plain : (@unpackMantissa binary64 vector).toNat = 0
      · rw [dif_pos (empty.mpr plain), plain]
        rfl
      · rw [dif_neg (mt empty.mp plain), least]
        rfl
    · rw [if_neg least, if_neg (mt bottom.mp least)]
      simp only [ofUnpacked, Rounding.toNat_implicit]
      rfl

end Binary

theorem canonical_of_unpack {bits : BitVec binary64.numBits} {sign : Sign} {mantissa : Nat}
    {exponent : Int} {positive : 0 < mantissa}
    (unpacked : UnpackedFloat.unpack binary64 bits = .finite sign mantissa exponent positive) :
    Canonical mantissa exponent := by
  have range : (unpackExponent bits).toNat < 2048 := (unpackExponent bits).isLt
  have digits : (unpackMantissa bits).toNat < 2 ^ 52 := (unpackMantissa bits).isLt
  simp only [UnpackedFloat.unpack, Rounding.exponentBias_binary64] at unpacked
  split_ifs at unpacked with reserved _ least
  · obtain ⟨-, rfl, rfl⟩ := UnpackedFloat.finite.inj unpacked
    rw [least]
    exact ⟨by omega, by decide, by decide, Or.inr rfl⟩
  · obtain ⟨-, rfl, rfl⟩ := UnpackedFloat.finite.inj unpacked
    have notTop : (unpackExponent bits).toNat ≠ 2047 :=
      fun top => reserved (BitVec.eq_of_toNat_eq top)
    have notBottom : (unpackExponent bits).toNat ≠ 0 :=
      fun bottom => least (BitVec.eq_of_toNat_eq bottom)
    have places : (binary64.mantissaBitsWithoutImplicit : Int) = 52 := rfl
    refine ⟨(1#1 ++ unpackMantissa bits).isLt, by omega, by omega, Or.inl ?_⟩
    exact Rounding.log2_implicit _

theorem pack_unpack (model : Float.Model) : Float.Model.pack model.unpack = model := by
  rcases model with ⟨⟨bits⟩, valid⟩
  have same := pack_unpack_of_valid valid
  unfold Float.Model.pack Float.Model.unpack
  congr

theorem eq_of_unpack_eq {left right : Float} (same : left.toModel.unpack = right.toModel.unpack) :
    left = right := by
  apply eq_of_toModel_eq
  rw [← pack_unpack left.toModel, same, pack_unpack]

/-- A number other than zero is only equal to itself. -/
theorem beq_iff_of_unpack {left right : Float} {sign : Sign} {mantissa : Nat} {exponent : Int}
    {positive : 0 < mantissa}
    (unpacked : right.toModel.unpack = .finite sign mantissa exponent positive) :
    (left == right) = true ↔ left = right := by
  have compared : (left == right) = left.toModel.unpack.beq right.toModel.unpack := rfl
  rw [compared, beq_iff_ne_notANumber_and_eq, unpacked]
  constructor
  · rintro ⟨-, -, same | ⟨-, zero⟩ | ⟨-, zero⟩⟩
    · exact eq_of_unpack_eq (same.trans unpacked.symm)
    · nomatch zero
    · nomatch zero
  · rintro rfl
    rw [unpacked]
    exact ⟨nofun, nofun, Or.inl rfl⟩

theorem unpack_abs {number : Float} {sign : Sign} {mantissa : Nat} {exponent : Int}
    {positive : 0 < mantissa}
    (unpacked : number.toModel.unpack = .finite sign mantissa exponent positive) :
    number.abs.toModel.unpack = .finite .positive mantissa exponent positive := by
  change (Float.Model.pack number.toModel.unpack.abs).unpack = _
  rw [unpacked]
  exact Rounding.unpack_pack positive (canonical_of_unpack unpacked)

/-- A magnitude with a sign. -/
theorem signed_eq_of_unpack {number magnitude : Float} {negative : Bool}
    (same : (if negative then magnitude.toModel.unpack.neg else magnitude.toModel.unpack) =
      number.toModel.unpack) :
    (if negative then -magnitude else magnitude) = number := by
  cases negative with
  | true =>
      apply eq_of_toModel_eq
      rw [← pack_unpack number.toModel, ← same]
      rfl
  | false => exact eq_of_unpack_eq same

/-! ## Written numbers -/

namespace Notation

/-- The decimal that a number is written with is read as its magnitude. -/
theorem toFloat_shortest_of_unpack {tie : Tie} {number : Float} {sign : Sign} {mantissa : Nat}
    {exponent : Int} {positive : 0 < mantissa}
    (unpacked : number.toModel.unpack = .finite sign mantissa exponent positive) :
    (Decimal.shortest tie number.abs (Decimal.ofBinary mantissa exponent)).toFloat =
      number.abs := by
  have absolute := unpack_abs unpacked
  have own : (Decimal.ofBinary mantissa exponent).toFloat = number.abs := by
    apply eq_of_toModel_eq
    rw [← pack_unpack number.abs.toModel, absolute]
    exact Decimal.toModel_toFloat_of_canonical positive (canonical_of_unpack unpacked)
      (Decimal.value_ofBinary _ _)
  rw [← beq_iff_of_unpack absolute]
  exact Decimal.beq_toFloat_shortest ((beq_iff_of_unpack absolute).mpr own)

/-- The value of digits around a point. -/
theorem value_toDecimal {negative : Bool} {whole : List Char} {fraction : Option (List Char)}
    {significand : Nat} {exponent : Int}
    (spelled : digitsValue (whole ++ fraction.getD []) = significand)
    (places : -(fraction.getD []).length = exponent) :
    (Numeral.mk negative whole fraction none).toDecimal.value = significand * 10 ^ exponent := by
  have decimal : (Numeral.mk negative whole fraction none).toDecimal =
      ⟨significand, exponent⟩ := by
    simp [Numeral.toDecimal, spelled, places]
  rw [decimal, Decimal.value]

theorem digitsValue_zeros_append (count : Nat) (digits : List Char) :
    digitsValue (List.replicate count '0' ++ digits) = digitsValue digits := by
  change Nat.ofDigitChars 10 _ 0 = Nat.ofDigitChars 10 _ 0
  rw [Nat.ofDigitChars_append, Nat.ofDigitChars_replicate_zero, Nat.mul_zero]

theorem digitsValue_append_zeros (digits : List Char) (count : Nat) :
    digitsValue (digits ++ List.replicate count '0') = 10 ^ count * digitsValue digits := by
  change Nat.ofDigitChars 10 _ 0 = _ * Nat.ofDigitChars 10 _ 0
  rw [Nat.ofDigitChars_append, Nat.ofDigitChars_replicate_zero]

/-- Whether a text consists of digits, perhaps around a point, that a reader takes as a number
of this value. -/
def Spells (chars : List Char) (value : ℚ) : Prop :=
  ∃ whole fraction, chars = whole ++ Json.pointed fraction ∧ Json.WholeDigits whole ∧
    (∀ part ∈ fraction, part ≠ [] ∧ ∀ char ∈ part, char.isDigit = true) ∧
    ∀ negative, (Numeral.mk negative whole fraction none).toDecimal.value = value

theorem isDigit_of_mem_zeros {count : Nat} {char : Char}
    (member : char ∈ List.replicate count '0') : char.isDigit = true := by
  rw [List.eq_of_mem_replicate member]
  rfl

section Digits

variable {digits : List Char} (whole : Json.WholeDigits digits)

include whole

theorem spells_point_before (count : Nat) :
    Spells (['0', '.'] ++ List.replicate count '0' ++ digits)
      (digitsValue digits * 10 ^ (-(count + digits.length) : Int)) := by
  refine ⟨['0'], some (List.replicate count '0' ++ digits), ?_, ?_, ?_, fun negative => ?_⟩
  · simp [Json.pointed]
  · exact ⟨by simp, by simp, fun leading => (List.cons.inj leading).2.symm⟩
  · rintro part ⟨⟩
    refine ⟨by simp [whole.nonempty], List.forall_mem_append.mpr ⟨?_, whole.all⟩⟩
    exact fun char => isDigit_of_mem_zeros
  · refine value_toDecimal (digitsValue_zeros_append (count + 1) digits) ?_
    rw [Option.getD_some, List.length_append, List.length_replicate]
    push_cast
    rfl

/-- Zeros are put behind digits only if these do not begin with one. -/
theorem spells_point_behind {count : Nat}
    (proper : count = 0 ∨ ∀ others, digits ≠ '0' :: others) :
    Spells (digits ++ List.replicate count '0') (digitsValue digits * 10 ^ (count : Int)) := by
  refine ⟨digits ++ List.replicate count '0', none, ?_, ?_, ?_, fun negative => ?_⟩
  · simp [Json.pointed]
  · refine ⟨by simp [whole.nonempty], List.forall_mem_append.mpr ⟨whole.all, ?_⟩, ?_⟩
    · exact fun char => isDigit_of_mem_zeros
    · intro others leading
      rcases proper with rfl | nonzero
      · rw [List.replicate_zero, List.append_nil] at leading
        exact whole.leading leading
      · cases digits with
        | nil => exact absurd rfl whole.nonempty
        | cons first rest =>
            obtain ⟨rfl, -⟩ := List.cons.inj leading
            exact absurd rfl (nonzero rest)
  · rintro part ⟨⟩
  · have spelled : digitsValue (digits ++ List.replicate count '0' ++ (none : Option _).getD []) =
        10 ^ count * digitsValue digits := by
      rw [Option.getD_none, List.append_nil, digitsValue_append_zeros]
    rw [value_toDecimal spelled rfl, zpow_natCast]
    push_cast
    simp [mul_comm]

theorem spells_point_within {place : Nat} (positive : 0 < place) (within : place < digits.length) :
    Spells (digits.take place ++ '.' :: digits.drop place)
      (digitsValue digits * 10 ^ (place - digits.length : Int)) := by
  refine ⟨digits.take place, some (digits.drop place), rfl, ?_, ?_, fun negative => ?_⟩
  · refine ⟨?_, fun char member => whole.all char (List.mem_of_mem_take member), ?_⟩
    · rw [Ne, List.take_eq_nil_iff]
      rintro (none | empty)
      · omega
      · exact whole.nonempty empty
    · intro others leading
      have start : digits = '0' :: (others ++ digits.drop place) := by
        conv_lhs => rw [← List.take_append_drop place digits, leading]
        rfl
      exact (List.append_eq_nil_iff.mp (whole.leading start)).1
  · rintro part ⟨⟩
    refine ⟨?_, fun char member => whole.all char (List.mem_of_mem_drop member)⟩
    rw [Ne, List.drop_eq_nil_iff]
    omega
  · refine value_toDecimal (by rw [Option.getD_some, List.take_append_drop]) ?_
    rw [Option.getD_some, List.length_drop]
    omega

/-- Digits that are laid out around a point keep their value. -/
theorem spells_layPositional {point : Int}
    (proper : point ≤ digits.length ∨ ∀ others, digits ≠ '0' :: others) :
    Spells (plain.layPositional digits point)
      (digitsValue digits * 10 ^ (point - digits.length)) := by
  unfold layPositional
  split_ifs with before behind
  · have places : -(point.natAbs + digits.length : Int) = point - digits.length := by omega
    rw [← places]
    exact spells_point_before whole point.natAbs
  · have places : ((point.natAbs - digits.length : Nat) : Int) = point - digits.length := by omega
    have noFraction : plain.wholeFraction.toList = [] := rfl
    rw [← places, noFraction, List.append_nil]
    exact spells_point_behind whole (proper.imp_left fun fits => by omega)
  · have places : (point.natAbs : Int) - digits.length = point - digits.length := by omega
    rw [← places]
    exact spells_point_within whole (by omega) (by omega)

end Digits

/-- A decimal is laid out as a number that is read as it. -/
theorem exists_numeral_of_lay {decimal : Decimal}
    (proper : decimal.significand ≠ 0 ∨ decimal.exponent = 0) (negative : Bool) :
    ∃ numeral : Numeral,
      Json.readNumeral? ((if negative then ['-'] else []) ++ plain.lay decimal) =
        some (numeral, []) ∧
      numeral.exponent = none ∧ numeral.negative = negative ∧
      numeral.toDecimal.toFloat = decimal.toFloat := by
  have digits := Json.wholeDigits_writeNat decimal.significand
  have room : (Nat.toDigits 10 decimal.significand).length + decimal.exponent ≤
      (Nat.toDigits 10 decimal.significand).length ∨
        ∀ others, Nat.toDigits 10 decimal.significand ≠ '0' :: others := by
    rcases proper with nonzero | whole
    · exact Or.inr fun others leading => nonzero (Json.eq_zero_of_toDigits_eq leading)
    · exact Or.inl (by rw [whole, Int.add_zero])
  obtain ⟨whole, fraction, laid, wholeDigits, fractionDigits, value⟩ :=
    spells_layPositional digits room
  refine ⟨_, ?_, rfl, rfl, Decimal.toFloat_congr ((value negative).trans ?_)⟩
  · rw [← wholeDigits.readNumeral? fractionDigits negative, ← laid]
    rfl
  · have own := Json.digitsValue_writeNat decimal.significand
    rw [own, Decimal.value]
    congr 2
    exact add_sub_cancel_left _ _

/-- A finite number is written with its sign and the digits of its magnitude. -/
theorem exists_magnitude_of_write (style : Notation) {number : Float}
    (finite : number.isFinite = true) :
    ∃ (negative : Bool) (magnitude : Decimal),
      (style.write number).toList = (if negative then ['-'] else []) ++ style.lay magnitude ∧
      (magnitude.significand ≠ 0 ∨ magnitude.exponent = 0) ∧
      (if negative then -magnitude.toFloat else magnitude.toFloat) = number := by
  have apart := Binary.ofFloat_eq_ofUnpacked number
  change number.toModel.unpack.isFinite = true at finite
  cases unpacked : number.toModel.unpack with
  | notANumber => rw [unpacked] at finite; nomatch finite
  | infinity sign => rw [unpacked] at finite; nomatch finite
  | zero sign =>
      rw [unpacked] at apart
      refine ⟨Binary.isNegative sign, ⟨0, 0⟩, ?_, Or.inr rfl, ?_⟩
      · simp [write, apart, Binary.ofUnpacked]
      · apply signed_eq_of_unpack
        rw [Decimal.unpack_toFloat_of_zero rfl, unpacked]
        cases sign <;> rfl
  | finite sign mantissa exponent positive =>
      have reads := @toFloat_shortest_of_unpack style.tie _ _ _ _ _ unpacked
      have absolute := unpack_abs unpacked
      rw [unpacked] at apart
      refine ⟨Binary.isNegative sign, Decimal.shortest style.tie number.abs
        (Decimal.ofBinary mantissa exponent), ?_, Or.inl ?_, ?_⟩
      · simp [write, apart, Binary.ofUnpacked, positive.ne']
      · intro zero
        have none := Decimal.unpack_toFloat_of_zero zero
        rw [reads, absolute] at none
        nomatch none
      · apply signed_eq_of_unpack
        rw [reads, absolute, unpacked]
        cases sign <;> rfl

/-- The plain text of a finite number is read as digits without exponent, and they are read
back as that number. -/
theorem exists_numeral_of_write {number : Float} (finite : number.isFinite = true) :
    ∃ numeral : Numeral, Json.readNumeral? (plain.write number).toList = some (numeral, []) ∧
      numeral.exponent = none ∧ numeral.toFloat = number := by
  obtain ⟨negative, magnitude, written, proper, same⟩ := plain.exists_magnitude_of_write finite
  obtain ⟨numeral, read, unscaled, sign, toFloat⟩ := exists_numeral_of_lay proper negative
  refine ⟨numeral, by rw [written, read], unscaled, ?_⟩
  rw [Numeral.toFloat, sign, toFloat, same]

end Notation

end TextScanner
