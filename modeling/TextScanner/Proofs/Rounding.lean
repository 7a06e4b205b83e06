import TextScanner.Proofs.Magnitude

/-!
# Rounding to binary numbers

A number is rounded to fifty-three binary places in steps that cut digits off and keep two
bits of what was cut.  What comes out depends on the exact value alone: the bits tell all
that is to be known of it (`Represents.unique`), and so does the place that it is rounded at
(`RoundsAt.unique`).  Hence a rational is rounded to one number only (`RoundsTo.unique`),
whether it was computed as a product, as a quotient or from decimal digits.

Numbers that are packed as they are (`Canonical`) are rounded to themselves.  Beyond the
greatest of them numbers are packed as infinity, and below half the least one they are
rounded to zero.  The main result is `toModel_ofScientific`: a number in scientific notation
is its exact value, rounded once.
-/

namespace TextScanner.Rounding

open Float.Model (UnpackedFloat totalExponent)
open Float.Model.Format (binary64)
open Float.Model.UnpackedFloat

/-! ## Numbers that were cut -/

/-- What a mantissa with its two further bits tells of a number: the whole part,
and how the rest compares to one half. -/
def Represents (exact : ℚ) : ExtendedMantissa → Prop
  | ⟨whole, false, false⟩ => exact = whole
  | ⟨whole, false, true⟩ => whole < exact ∧ exact < whole + 1 / 2
  | ⟨whole, true, false⟩ => exact = whole + 1 / 2
  | ⟨whole, true, true⟩ => whole + 1 / 2 < exact ∧ exact < whole + 1

variable {exact : ℚ} {extended : ExtendedMantissa}

theorem Represents.bounds (represents : Represents exact extended) :
    extended.mantissa ≤ exact ∧ exact < extended.mantissa + 1 := by
  rcases extended with ⟨whole, _ | _, _ | _⟩ <;> simp only [Represents] at represents ⊢
  all_goals constructor <;> linarith

theorem Represents.unique {other : ExtendedMantissa} (represents : Represents exact extended)
    (alike : Represents exact other) : extended = other := by
  have whole : extended.mantissa = other.mantissa := by
    have first := represents.bounds
    have second := alike.bounds
    have below : (extended.mantissa : ℚ) < other.mantissa + 1 := by linarith
    have above : (other.mantissa : ℚ) < extended.mantissa + 1 := by linarith
    norm_cast at below above
    omega
  rcases extended with ⟨mantissa, _ | _, _ | _⟩ <;> rcases other with ⟨_, _ | _, _ | _⟩ <;>
    simp only at whole <;> subst whole <;> first | rfl | skip
  all_goals
    exfalso
    simp only [Represents] at represents alike
    linarith

theorem Represents.shiftRightOne (represents : Represents exact extended) :
    Represents (exact / 2) extended.shiftRightOne := by
  rcases extended with ⟨whole, roundBit, stickyBit⟩
  have digits := Nat.mod_add_div whole 2
  have cast : ((whole % 2 : Nat) : ℚ) + 2 * ((whole / 2 : Nat) : ℚ) = whole := by
    exact_mod_cast digits
  rcases Nat.mod_two_eq_zero_or_one whole with even | odd
  · cases roundBit <;> cases stickyBit <;>
      simp [Represents, ExtendedMantissa.shiftRightOne, even] at represents cast ⊢
    all_goals first | linarith | (constructor <;> linarith)
  · cases roundBit <;> cases stickyBit <;>
      simp [Represents, ExtendedMantissa.shiftRightOne, odd] at represents cast ⊢
    all_goals first | linarith | (constructor <;> linarith)

theorem Represents.shiftRight (represents : Represents exact extended) (count : Nat) :
    Represents (exact / 2 ^ count) (extended >>> count) := by
  change Represents _ (count.repeat ExtendedMantissa.shiftRightOne extended)
  induction count with
  | zero => simpa [Nat.repeat] using represents
  | succ count ih =>
      rw [pow_succ, ← div_div]
      exact ih.shiftRightOne

/-! ## The place that a number is rounded at -/

/-- The exponent that a number is rounded at.  Fifty-three binary digits are kept, fewer
where the number is so small that it is rounded at the least exponent. -/
def RoundsAt (exact : ℚ) (exponent : Int) : Prop :=
  (exponent = -1074 ∧ exact < 2 ^ (-1021 : Int)) ∨
    (-1074 ≤ exponent ∧ 2 ^ (exponent + 52) ≤ exact ∧ exact < 2 ^ (exponent + 53))

theorem lt_of_two_zpow_lt {left right : Int} (lt : (2 : ℚ) ^ left < 2 ^ right) : left < right :=
  (zpow_lt_zpow_iff_right₀ (by norm_num)).mp lt

theorem RoundsAt.unique {exponent other : Int} (rounds : RoundsAt exact exponent)
    (alike : RoundsAt exact other) : exponent = other := by
  rcases rounds with ⟨rfl, small⟩ | ⟨least, low, high⟩
  · rcases alike with ⟨rfl, -⟩ | ⟨least, low, -⟩
    · rfl
    · have := lt_of_two_zpow_lt (low.trans_lt small)
      omega
  · rcases alike with ⟨rfl, small⟩ | ⟨otherLeast, otherLow, otherHigh⟩
    · have := lt_of_two_zpow_lt (low.trans_lt small)
      omega
    · have below := lt_of_two_zpow_lt (low.trans_lt otherHigh)
      have above := lt_of_two_zpow_lt (otherLow.trans_lt high)
      omega

/-- A mantissa has enough digits to be rounded, or stands at the least exponent. -/
def Precise (mantissa : Nat) (exponent : Int) : Prop :=
  52 ≤ mantissa.log2 ∨ exponent ≤ -1074

theorem targetExponent_eq (mantissa : Nat) (exponent : Int) :
    binary64.targetExponent (totalExponent mantissa exponent) =
      max (mantissa.log2 + exponent - 52) (-1074) := by
  simp only [Float.Model.Format.targetExponent, Float.Model.Format.mantissaBits,
    Float.Model.Format.minExponent, totalExponent]
  omega

theorem roundsAt_target {mantissa : Nat} {exponent : Int} (precise : Precise mantissa exponent)
    (least : mantissa * 2 ^ exponent ≤ exact) (most : exact < (mantissa + 1) * 2 ^ exponent) :
    RoundsAt exact (max (mantissa.log2 + exponent - 52) (-1074)) := by
  have unit : (0 : ℚ) < 2 ^ exponent := zpow_pos (by norm_num) _
  have nextPower : ((mantissa : ℚ) + 1) ≤ 2 ^ (mantissa.log2 + 1) := by
    exact_mod_cast Nat.lt_log2_self
  have high : exact < 2 ^ ((mantissa.log2 : Int) + exponent + 1) := by
    calc
      exact < (mantissa + 1) * 2 ^ exponent := most
      _ ≤ 2 ^ (mantissa.log2 + 1) * 2 ^ exponent := by gcongr
      _ = 2 ^ ((mantissa.log2 : Int) + exponent + 1) := by
        rw [← zpow_natCast, ← zpow_add₀ (by norm_num)]
        congr 1
        push_cast
        omega
  by_cases small : (mantissa.log2 : Int) + exponent - 52 ≤ -1074
  · refine Or.inl ⟨max_eq_right small, high.trans_le ?_⟩
    exact zpow_le_zpow_right₀ (by norm_num) (by omega)
  · rw [max_eq_left (by omega)]
    have nonzero : mantissa ≠ 0 := by
      rintro rfl
      rcases precise with wide | deep
      · simp at wide
      · simp at small
        omega
    refine Or.inr ⟨by omega, ?_, ?_⟩
    · calc
        (2 : ℚ) ^ ((mantissa.log2 : Int) + exponent - 52 + 52) =
            2 ^ mantissa.log2 * 2 ^ exponent := by
          rw [← zpow_natCast, ← zpow_add₀ (by norm_num)]
          congr 1
          omega
        _ ≤ mantissa * 2 ^ exponent := by
          gcongr
          exact_mod_cast Nat.log2_self_le nonzero
        _ ≤ exact := least
    · refine high.trans_le (le_of_eq ?_)
      congr 1
      omega

/-- What a mantissa with its two further bits becomes that was rounded. -/
def settled (mantissa : Nat) (exponent : Int) : UnpackedFloat :=
  let final := shiftToTargetExponent binary64 mantissa exponent .exact
  if gone : final.1.mantissa = 0 then .zero .positive
  else .finite .positive final.1.mantissa final.2 (Nat.pos_of_ne_zero gone)

theorem roundWithAccuracy_eq (mantissa : Nat) (exponent : Int) (accuracy : Accuracy) :
    roundWithAccuracy binary64 .positive mantissa exponent accuracy =
      settled (shiftToTargetExponent binary64 mantissa exponent accuracy).1.roundedMantissa
        (shiftToTargetExponent binary64 mantissa exponent accuracy).2 :=
  rfl

/-- The number that a rational is rounded to. -/
def RoundsTo (exact : ℚ) (number : UnpackedFloat) : Prop :=
  ∃ extended exponent, RoundsAt exact exponent ∧ Represents (exact / 2 ^ exponent) extended ∧
    number = settled extended.roundedMantissa exponent

theorem RoundsTo.unique {number other : UnpackedFloat} (rounds : RoundsTo exact number)
    (alike : RoundsTo exact other) : number = other := by
  obtain ⟨extended, exponent, place, cut, rfl⟩ := rounds
  obtain ⟨otherExtended, otherExponent, otherPlace, otherCut, rfl⟩ := alike
  obtain rfl := place.unique otherPlace
  obtain rfl := cut.unique otherCut
  rfl

theorem roundsTo_roundWithAccuracy {mantissa : Nat} {exponent : Int} {accuracy : Accuracy}
    (precise : Precise mantissa exponent)
    (cut : Represents (exact / 2 ^ exponent)
      (ExtendedMantissa.ofMantissaAndAccuracy mantissa accuracy)) :
    RoundsTo exact (roundWithAccuracy binary64 .positive mantissa exponent accuracy) := by
  have unit : (0 : ℚ) < 2 ^ exponent := zpow_pos (by norm_num) _
  have bounds := cut.bounds
  rw [mantissa_ofMantissaAndAccuracy, le_div_iff₀ unit, div_lt_iff₀ unit] at bounds
  have place := roundsAt_target precise bounds.1 bounds.2
  have aim : exponent ≤ max (mantissa.log2 + exponent - 52) (-1074) := by
    rcases precise with wide | deep <;> omega
  rw [roundWithAccuracy_eq]
  refine ⟨_, _, ?_, ?_, rfl⟩
  · simp only [shiftToTargetExponent, shiftToExponent, targetExponent_eq]
    convert place using 1
    omega
  · simp only [shiftToTargetExponent, shiftToExponent, targetExponent_eq]
    have shifted := cut.shiftRight (max (mantissa.log2 + exponent - 52) (-1074) - exponent).toNat
    rw [div_div, ← zpow_natCast, ← zpow_add₀ (by norm_num)] at shifted
    exact shifted

/-! ## Products and quotients -/

/-- A mantissa with enough digits is rounded to what it is. -/
theorem roundsTo_of_precise {mantissa : Nat} {exponent : Int}
    (precise : Precise mantissa exponent) :
    RoundsTo (mantissa * 2 ^ exponent)
      (roundWithAccuracy binary64 .positive mantissa exponent .exact) := by
  refine roundsTo_roundWithAccuracy precise ?_
  rw [mul_div_cancel_right₀ _ (zpow_ne_zero _ (by norm_num))]
  rfl

theorem log2_mul_le {left right : Nat} (leftPositive : 0 < left) (rightPositive : 0 < right) :
    left.log2 + right.log2 ≤ (left * right).log2 := by
  rw [Nat.le_log2 (by positivity), pow_add]
  exact Nat.mul_le_mul (Nat.log2_self_le leftPositive.ne') (Nat.log2_self_le rightPositive.ne')

theorem roundsTo_mul {left right : Nat} {leftExponent rightExponent : Int} (leftPositive : 0 < left)
    (rightPositive : 0 < right) (wide : 52 ≤ left.log2 + right.log2) :
    RoundsTo (left * 2 ^ leftExponent * (right * 2 ^ rightExponent))
      (UnpackedFloat.mul binary64 (.finite .positive left leftExponent leftPositive)
        (.finite .positive right rightExponent rightPositive)) := by
  have precise : Precise (left * right) (leftExponent + rightExponent) :=
    Or.inl (wide.trans (log2_mul_le leftPositive rightPositive))
  have product : (left : ℚ) * 2 ^ leftExponent * (right * 2 ^ rightExponent) =
      ((left * right : Nat) : ℚ) * 2 ^ (leftExponent + rightExponent) := by
    rw [zpow_add₀ (by norm_num)]
    push_cast
    ring
  rw [product]
  exact roundsTo_of_precise precise

/-- A whole number and a proper fraction behind it. -/
theorem represents_fraction (whole : Nat) {rest divisor : Nat} (proper : rest < divisor) :
    Represents (whole + (rest : ℚ) / divisor)
      (ExtendedMantissa.ofMantissaAndAccuracy whole (accuracyOfFraction rest divisor)) := by
  have positive : (0 : ℚ) < divisor := by exact_mod_cast Nat.zero_lt_of_lt proper
  unfold accuracyOfFraction
  by_cases none : rest = 0
  · rw [if_pos none, none]
    simp [Represents, ExtendedMantissa.ofMantissaAndAccuracy]
  · have some : (0 : ℚ) < (rest : ℚ) / divisor := by positivity
    have less : (rest : ℚ) / divisor < 1 := by
      rw [div_lt_one positive]
      exact_mod_cast proper
    rw [if_neg none]
    rcases lt_trichotomy (2 * rest) divisor with below | middle | above
    · have half : (rest : ℚ) / divisor < 1 / 2 := by
        rw [div_lt_div_iff₀ positive (by norm_num)]
        norm_cast
        omega
      rw [Nat.compare_eq_lt.mpr below]
      simp only [Represents, ExtendedMantissa.ofMantissaAndAccuracy]
      constructor <;> linarith
    · have half : (rest : ℚ) / divisor = 1 / 2 := by
        rw [div_eq_div_iff positive.ne' (by norm_num)]
        norm_cast
        omega
      rw [Nat.compare_eq_eq.mpr middle]
      simp only [Represents, ExtendedMantissa.ofMantissaAndAccuracy]
      rw [half]
    · have half : 1 / 2 < (rest : ℚ) / divisor := by
        rw [div_lt_div_iff₀ (by norm_num) positive]
        norm_cast
        omega
      rw [Nat.compare_eq_gt.mpr above]
      simp only [Represents, ExtendedMantissa.ofMantissaAndAccuracy]
      constructor <;> linarith

theorem represents_quotient {divisor : Nat} (positive : 0 < divisor) (dividend : Nat) :
    Represents ((dividend : ℚ) / divisor)
      (ExtendedMantissa.ofMantissaAndAccuracy (dividend / divisor)
        (accuracyOfFraction (dividend % divisor) divisor)) := by
  have parts : ((divisor * (dividend / divisor) + dividend % divisor : Nat) : ℚ) = dividend := by
    exact_mod_cast Nat.div_add_mod dividend divisor
  have split : (dividend : ℚ) / divisor =
      ((dividend / divisor : Nat) : ℚ) + ((dividend % divisor : Nat) : ℚ) / divisor := by
    have nonzero : (divisor : ℚ) ≠ 0 := by exact_mod_cast positive.ne'
    field_simp
    rw [← parts]
    push_cast
    ring
  rw [split]
  exact represents_fraction _ (Nat.mod_lt dividend positive)

theorem le_log2_quotient {left right count : Nat} (leftPositive : 0 < left)
    (rightPositive : 0 < right) (wide : 53 + right.log2 ≤ left.log2 + count) :
    52 ≤ ((left <<< count) / right).log2 := by
  have large : 2 ^ 52 ≤ (left <<< count) / right := by
    rw [Nat.le_div_iff_mul_le rightPositive, Nat.shiftLeft_eq]
    calc
      2 ^ 52 * right ≤ 2 ^ 52 * 2 ^ (right.log2 + 1) := by
        gcongr
        exact Nat.lt_log2_self.le
      _ = 2 ^ (53 + right.log2) := by ring
      _ ≤ 2 ^ (left.log2 + count) := Nat.pow_le_pow_right (by decide) wide
      _ = 2 ^ left.log2 * 2 ^ count := pow_add _ _ _
      _ ≤ left * 2 ^ count := Nat.mul_le_mul_right _ (Nat.log2_self_le leftPositive.ne')
  exact (Nat.le_log2 (by omega)).mpr large

theorem roundsTo_div {left right : Nat} {leftExponent rightExponent : Int} (leftPositive : 0 < left)
    (rightPositive : 0 < right) :
    RoundsTo (left * 2 ^ leftExponent / (right * 2 ^ rightExponent))
      (UnpackedFloat.div binary64 (.finite .positive left leftExponent leftPositive)
        (.finite .positive right rightExponent rightPositive)) := by
  change RoundsTo _ (roundWithAccuracy binary64 .positive _ _ _)
  generalize aim : binary64.targetExponent
    (totalExponent left leftExponent - totalExponent right rightExponent) = target
  generalize amount : (leftExponent - rightExponent -
    min (leftExponent - rightExponent) target).toNat = count
  refine roundsTo_roundWithAccuracy ?_ ?_
  · simp only [Float.Model.Format.targetExponent, Float.Model.Format.mantissaBits,
      Float.Model.Format.minExponent, totalExponent] at aim
    by_cases deep : min (leftExponent - rightExponent) target ≤ -1074
    · exact Or.inr deep
    · exact Or.inl (le_log2_quotient leftPositive rightPositive (by omega))
  · have exponents : min (leftExponent - rightExponent) target + count =
        leftExponent - rightExponent := by omega
    have scaled : (left : ℚ) * 2 ^ leftExponent / (right * 2 ^ rightExponent) /
        2 ^ min (leftExponent - rightExponent) target = ((left <<< count : Nat) : ℚ) / right := by
      have power : (2 : ℚ) ^ leftExponent =
          2 ^ min (leftExponent - rightExponent) target * 2 ^ count * 2 ^ rightExponent := by
        rw [← zpow_natCast, ← zpow_add₀ (by norm_num), ← zpow_add₀ (by norm_num)]
        congr 1
        omega
      rw [power, Nat.shiftLeft_eq]
      push_cast
      field_simp
    rw [scaled]
    exact represents_quotient rightPositive _

/-! ## Numbers that are packed as they are -/

/-- Mantissas and exponents that numbers are packed with. -/
structure Canonical (mantissa : Nat) (exponent : Int) : Prop where
  lt : mantissa < 2 ^ 53
  least : -1074 ≤ exponent
  most : exponent ≤ 971
  full : mantissa.log2 = 52 ∨ exponent = -1074

theorem Canonical.precise {mantissa : Nat} {exponent : Int}
    (canonical : Canonical mantissa exponent) : Precise mantissa exponent := by
  rcases canonical.full with full | deep
  · exact Or.inl full.ge
  · exact Or.inr deep.le

theorem Canonical.log2_le {mantissa : Nat} {exponent : Int}
    (canonical : Canonical mantissa exponent) : mantissa.log2 ≤ 52 :=
  log2_le_of_lt_two_pow canonical.lt

/-- The first digit of a mantissa in full is not packed. -/
theorem toNat_implicit (digits : BitVec 52) :
    (1#1 ++ digits).toNat = 2 ^ 52 + digits.toNat := by
  rw [BitVec.toNat_append, ← Nat.shiftLeft_add_eq_or_of_lt digits.isLt]
  rfl

theorem toNat_implicit_ofNat {mantissa : Nat} (full : mantissa.log2 = 52) :
    (1#1 ++ BitVec.ofNat 52 mantissa).toNat = mantissa := by
  have nonzero : mantissa ≠ 0 := by
    rintro rfl
    simp at full
  have bounds := (Nat.log2_eq_iff nonzero).mp full
  rw [toNat_implicit, BitVec.toNat_ofNat]
  omega

/-- The exponent that a number is packed with. -/
theorem packedExponent_eq (exponent : Int) :
    (exponent + binary64.exponentBias + binary64.mantissaBitsWithoutImplicit).toNat =
      (exponent + 1075).toNat := by
  rw [exponentBias_binary64]
  congr 1
  norm_num
  omega

theorem not_overflow {exponent : Int} (most : exponent ≤ 971) :
    ¬2 ^ binary64.exponentBits ≤ (exponent + 1075).toNat + 1 := by
  have limit : 2 ^ binary64.exponentBits = 2048 := rfl
  omega

/-- A number with all its digits is packed without the first of them. -/
theorem unpack_pack_of_full {sign : Sign} {mantissa : Nat} {exponent : Int}
    (positive : 0 < mantissa) (full : mantissa.log2 = 52) (least : -1074 ≤ exponent)
    (most : exponent ≤ 971) :
    (Float.Model.pack (.finite sign mantissa exponent positive)).unpack =
      .finite sign mantissa exponent positive := by
  change UnpackedFloat.unpack binary64 (UnpackedFloat.pack binary64 _) = _
  have code := packedExponent_eq exponent
  have room := not_overflow most
  have large : BitVec.ofNat binary64.exponentBits (exponent + 1075).toNat ≠ 0#_ := by
    intro zero
    have same := (toNat_exponent room).symm.trans (congrArg BitVec.toNat zero)
    simp at same
    omega
  simp only [UnpackedFloat.pack, code, if_neg room]
  rw [if_pos (by rw [full]; rfl)]
  simp only [UnpackedFloat.unpack, unpackExponent_packComponents,
    unpackMantissa_packComponents, unpackSign_packComponents, Sign.ofBitVec_toBitVec,
    if_neg (exponent_ne_reserved room), if_neg large, toNat_exponent room]
  congr 1
  · exact toNat_implicit_ofNat full
  · rw [exponentBias_binary64]
    norm_num
    omega

/-- A number with fewer digits is packed at the least exponent. -/
theorem unpack_pack_of_least {sign : Sign} {mantissa : Nat} (positive : 0 < mantissa)
    (small : mantissa.log2 < 52) :
    (Float.Model.pack (.finite sign mantissa (-1074) positive)).unpack =
      .finite sign mantissa (-1074) positive := by
  change UnpackedFloat.unpack binary64 (UnpackedFloat.pack binary64 _) = _
  have code := packedExponent_eq (-1074)
  have room := not_overflow (show (-1074 : Int) ≤ 971 by decide)
  have below : mantissa < 2 ^ 52 := (Nat.log2_lt positive.ne').mp small
  have digits :
      (BitVec.ofNat binary64.mantissaBitsWithoutImplicit mantissa).toNat = mantissa := by
    rw [BitVec.toNat_ofNat]
    exact Nat.mod_eq_of_lt below
  have nonzero : BitVec.ofNat binary64.mantissaBitsWithoutImplicit mantissa ≠ 0#_ := by
    intro zero
    have same := digits.symm.trans (congrArg BitVec.toNat zero)
    simp at same
    omega
  have ordinary : BitVec.ofNat binary64.exponentBits 0 ≠ -1#_ := by decide
  have short : ¬mantissa.log2 + 1 = binary64.mantissaBits :=
    fun same => small.ne (Nat.succ.inj same)
  simp only [UnpackedFloat.pack, code, if_neg room]
  rw [if_neg short]
  simp only [UnpackedFloat.unpack, unpackExponent_packComponents,
    unpackMantissa_packComponents, unpackSign_packComponents, Sign.ofBitVec_toBitVec,
    if_neg ordinary, if_true, dif_neg nonzero]
  congr 1

/-- What is packed as it is comes out again. -/
theorem unpack_pack {sign : Sign} {mantissa : Nat} {exponent : Int} (positive : 0 < mantissa)
    (canonical : Canonical mantissa exponent) :
    (Float.Model.pack (.finite sign mantissa exponent positive)).unpack =
      .finite sign mantissa exponent positive := by
  by_cases full : mantissa.log2 = 52
  · exact unpack_pack_of_full positive full canonical.least canonical.most
  · obtain rfl : exponent = -1074 := canonical.full.resolve_left full
    exact unpack_pack_of_least positive (lt_of_le_of_ne canonical.log2_le full)

theorem settled_of_canonical {mantissa : Nat} {exponent : Int} (positive : 0 < mantissa)
    (canonical : Canonical mantissa exponent) :
    settled mantissa exponent = .finite .positive mantissa exponent positive := by
  have log := canonical.log2_le
  have least := canonical.least
  have stays : shiftToTargetExponent binary64 mantissa exponent .exact =
      (⟨mantissa, false, false⟩, exponent) := by
    have none : (max (mantissa.log2 + exponent - 52) (-1074) - exponent).toNat = 0 := by omega
    simp only [shiftToTargetExponent, shiftToExponent, targetExponent_eq, none]
    simp [HShiftRight.hShiftRight, Nat.repeat, ExtendedMantissa.ofMantissaAndAccuracy]
  simp only [settled, stays, dif_neg positive.ne']

/-- A number that is packed as it is is rounded to itself. -/
theorem roundsTo_self {mantissa : Nat} {exponent : Int} (positive : 0 < mantissa)
    (canonical : Canonical mantissa exponent) :
    RoundsTo (mantissa * 2 ^ exponent) (.finite .positive mantissa exponent positive) := by
  have unit : (0 : ℚ) < 2 ^ exponent := zpow_pos (by norm_num) _
  have place : RoundsAt (mantissa * 2 ^ exponent) _ :=
    roundsAt_target canonical.precise le_rfl (by linarith)
  have log := canonical.log2_le
  have same : max (mantissa.log2 + exponent - 52) (-1074) = exponent := by
    have least := canonical.least
    rcases canonical.full with full | deep <;> omega
  rw [same] at place
  refine ⟨⟨mantissa, false, false⟩, exponent, place, ?_,
    (settled_of_canonical positive canonical).symm⟩
  rw [mul_div_cancel_right₀ _ unit.ne']
  rfl

theorem settled_zero (exponent : Int) : settled 0 exponent = .zero .positive := by
  have gone : (shiftToTargetExponent binary64 0 exponent .exact).1.mantissa = 0 := by
    simp only [shiftToTargetExponent, shiftToExponent, mantissa_shift,
      mantissa_ofMantissaAndAccuracy, Nat.zero_div]
  rw [settled, dif_pos gone]

theorem roundsTo_zero : RoundsTo 0 (.zero .positive) := by
  refine ⟨⟨0, false, false⟩, -1074, Or.inl ⟨rfl, by positivity⟩, ?_, (settled_zero _).symm⟩
  simp [Represents]

/-- Numbers below half the least one are rounded to zero. -/
theorem roundsTo_zero_of_small (positive : 0 < exact) (small : exact < 2 ^ (-1075 : Int)) :
    RoundsTo exact (.zero .positive) := by
  have least : (0 : ℚ) < 2 ^ (-1074 : Int) := by positivity
  have half : (2 : ℚ) ^ (-1075 : Int) = 1 / 2 * 2 ^ (-1074 : Int) := by
    rw [show (-1075 : Int) = -1 + -1074 by rfl, zpow_add₀ (by norm_num)]
    norm_num
  refine ⟨⟨0, false, true⟩, -1074, Or.inl ⟨rfl, ?_⟩, ?_, (settled_zero _).symm⟩
  · exact small.trans_le (zpow_le_zpow_right₀ (by norm_num) (by norm_num))
  · rw [half, ← div_lt_iff₀ least] at small
    simp only [Represents, Nat.cast_zero, zero_add]
    exact ⟨div_pos positive least, small⟩

/-- A rounded mantissa with all its digits does not vanish when it is settled. -/
theorem settled_of_full {mantissa : Nat} {exponent : Int} (full : 2 ^ 52 ≤ mantissa)
    (least : -1074 ≤ exponent) :
    ∃ final place positive, settled mantissa exponent = .finite .positive final place positive ∧
      exponent ≤ place := by
  have wide : 52 ≤ mantissa.log2 := (Nat.le_log2 (by omega)).mpr full
  have count : (max (mantissa.log2 + exponent - 52) (-1074) - exponent).toNat =
      mantissa.log2 - 52 := by omega
  have shifted : (shiftToTargetExponent binary64 mantissa exponent .exact).1.mantissa =
      mantissa / 2 ^ (mantissa.log2 - 52) := by
    simp only [shiftToTargetExponent, shiftToExponent, targetExponent_eq, count,
      mantissa_shift, mantissa_ofMantissaAndAccuracy]
  have left : (shiftToTargetExponent binary64 mantissa exponent .exact).1.mantissa ≠ 0 := by
    rw [shifted]
    intro gone
    have log := log2_div_two_pow (show mantissa ≠ 0 by omega)
      (show mantissa.log2 - 52 ≤ mantissa.log2 by omega)
    rw [gone, Nat.log2_zero] at log
    omega
  refine ⟨_, _, Nat.pos_of_ne_zero left, dif_neg left, ?_⟩
  simp only [shiftToTargetExponent, shiftToExponent]
  omega

theorem pack_of_overflow {mantissa : Nat} {exponent : Int} (positive : 0 < mantissa)
    (beyond : 972 ≤ exponent) :
    Float.Model.pack (.finite .positive mantissa exponent positive) =
      Float.Model.pack (.infinity .positive) := by
  have overflow : 2 ^ binary64.exponentBits ≤
      (exponent + binary64.exponentBias + binary64.mantissaBitsWithoutImplicit).toNat + 1 := by
    rw [exponentBias_binary64]
    have limit : 2 ^ binary64.exponentBits = 2048 := rfl
    norm_num
    omega
  unfold Float.Model.pack
  simp only [UnpackedFloat.pack, if_pos overflow]

/-- Numbers beyond the greatest are packed as infinity. -/
theorem RoundsTo.pack_of_large {number : UnpackedFloat} (rounds : RoundsTo exact number)
    (large : 2 ^ (1024 : Int) ≤ exact) :
    Float.Model.pack number = Float.Model.pack (.infinity .positive) := by
  obtain ⟨extended, exponent, ⟨-, small⟩ | ⟨least, low, high⟩, cut, rfl⟩ := rounds
  · have := lt_of_two_zpow_lt (large.trans_lt small)
    omega
  · have unit : (0 : ℚ) < 2 ^ exponent := zpow_pos (by norm_num) _
    have beyond := lt_of_two_zpow_lt (large.trans_lt high)
    have full : 2 ^ 52 ≤ extended.mantissa := by
      rw [zpow_add₀ (by norm_num), mul_comm, ← le_div_iff₀ unit] at low
      have next := low.trans_lt cut.bounds.2
      norm_cast at next
      omega
    obtain ⟨final, place, positive, same, up⟩ :=
      settled_of_full (full.trans (le_roundedMantissa extended)) least
    rw [same]
    exact pack_of_overflow positive (by omega)

/-! ## Decimals -/

theorem roundsTo_scaledUp {significand : Nat} (power : Nat) (positive : 0 < significand <<< 53)
    (powerPositive : 0 < 10 ^ power) :
    RoundsTo (significand * 10 ^ (power : Int))
      (UnpackedFloat.mul binary64 (.finite .positive (significand <<< 53) (-53) positive)
        (.finite .positive (10 ^ power) 0 powerPositive)) := by
  have wide : 52 ≤ (significand <<< 53).log2 := by
    rw [Nat.le_log2 positive.ne', Nat.shiftLeft_eq]
    rw [Nat.shiftLeft_eq] at positive
    omega
  have value : (significand : ℚ) * (10 : ℚ) ^ (power : Int) =
      ((significand <<< 53 : Nat) : ℚ) * 2 ^ (-53 : Int) *
        ((10 ^ power : Nat) * 2 ^ (0 : Int)) := by
    rw [Nat.shiftLeft_eq, zpow_neg, zpow_natCast]
    push_cast
    field_simp
  rw [value]
  exact roundsTo_mul positive powerPositive (by omega)

theorem roundsTo_scaledDown {significand : Nat} (power : Nat) (positive : 0 < significand)
    (powerPositive : 0 < 10 ^ power) :
    RoundsTo (significand * 10 ^ (-power : Int))
      (UnpackedFloat.div binary64 (.finite .positive significand 0 positive)
        (.finite .positive (10 ^ power) 0 powerPositive)) := by
  have value : (significand : ℚ) * (10 : ℚ) ^ (-power : Int) =
      significand * 2 ^ (0 : Int) / ((10 ^ power : Nat) * 2 ^ (0 : Int)) := by
    rw [zpow_neg, zpow_natCast]
    push_cast
    field_simp
  rw [value]
  exact roundsTo_div positive powerPositive

/-- A decimal whose exponent is out of all proportion is beyond the greatest number. -/
theorem two_zpow_le_of_large {significand : Nat} {exponent : Int} (positive : 0 < significand)
    (large : 1024 ≤ exponent) : (2 : ℚ) ^ (1024 : Int) ≤ significand * 10 ^ exponent := by
  have one : (1 : ℚ) ≤ significand := by exact_mod_cast positive
  calc
    (2 : ℚ) ^ (1024 : Int) ≤ 2 ^ exponent := zpow_le_zpow_right₀ (by norm_num) large
    _ ≤ 10 ^ exponent := zpow_le_zpow_left₀ (by omega) (by norm_num) (by norm_num)
    _ ≤ significand * 10 ^ exponent := le_mul_of_one_le_left (by positivity) one

/-- A decimal whose exponent is out of all proportion is below half the least number. -/
theorem lt_two_zpow_of_small {significand : Nat} {exponent : Int}
    (small : exponent < -(2048 + significand.log2)) :
    significand * 10 ^ exponent < (2 : ℚ) ^ (-1075 : Int) := by
  have size : (significand : ℚ) < 2 ^ ((significand.log2 : Int) + 1) := by
    exact_mod_cast Nat.lt_log2_self
  have tens : (10 : ℚ) ^ exponent ≤ 2 ^ exponent := by
    have flipped : (2 : ℚ) ^ (-exponent) ≤ 10 ^ (-exponent) :=
      zpow_le_zpow_left₀ (by omega) (by norm_num) (by norm_num)
    have inverse := inv_anti₀ (by positivity) flipped
    rwa [← zpow_neg, ← zpow_neg, neg_neg] at inverse
  calc
    (significand : ℚ) * 10 ^ exponent < 2 ^ ((significand.log2 : Int) + 1) * 10 ^ exponent := by
      gcongr
    _ ≤ 2 ^ ((significand.log2 : Int) + 1) * 2 ^ exponent := by gcongr
    _ = 2 ^ ((significand.log2 : Int) + 1 + exponent) := (zpow_add₀ (by norm_num) _ _).symm
    _ ≤ 2 ^ (-1075 : Int) := zpow_le_zpow_right₀ (by norm_num) (by omega)

/-- A decimal in scientific notation is rounded once. -/
theorem ofScientific_eq_pack (significand : Nat) (exponent : Int) :
    ∃ number, RoundsTo (significand * 10 ^ exponent) number ∧
      Float.Model.ofScientific significand exponent = Float.Model.pack number := by
  unfold Float.Model.ofScientific UnpackedFloat.ofScientific
  have limit : (2 : Int) ^ binary64.exponentBits = 2048 := rfl
  rw [limit]
  by_cases zero : significand = 0
  · refine ⟨.zero .positive, ?_, by rw [dif_pos zero]⟩
    rw [zero, Nat.cast_zero, zero_mul]
    exact roundsTo_zero
  · have positive : 0 < significand := Nat.pos_of_ne_zero zero
    rw [dif_neg zero]
    by_cases sign : 0 ≤ exponent
    · have product := roundsTo_scaledUp exponent.toNat (Nat.shiftLeft_pos_iff.mpr positive)
        (show 0 < 10 ^ exponent.toNat by positivity)
      rw [Int.toNat_of_nonneg sign] at product
      refine ⟨_, product, ?_⟩
      split_ifs with large small
      · exact (product.pack_of_large (two_zpow_le_of_large positive (by omega))).symm
      · omega
      · rfl
    · have quotient := roundsTo_scaledDown (-exponent).toNat positive
        (show 0 < 10 ^ (-exponent).toNat by positivity)
      rw [Int.toNat_of_nonneg (by omega), neg_neg] at quotient
      rw [if_neg (by omega), if_neg sign]
      by_cases small : exponent < -(2048 + significand.log2)
      · refine ⟨.zero .positive, roundsTo_zero_of_small (by positivity) ?_, by rw [if_pos small]⟩
        exact lt_two_zpow_of_small small
      · exact ⟨_, quotient, by rw [if_neg small]⟩

/-! ## Numbers in full precision -/

/-- A positive number of full precision and its value. -/
inductive Full (exact : ℚ) : UnpackedFloat → Prop
  | finite {mantissa : Nat} {exponent : Int} (positive : 0 < mantissa) (full : mantissa.log2 = 52)
      (value : mantissa * 2 ^ exponent = exact) :
      Full exact (.finite .positive mantissa exponent positive)

theorem Full.mul {left right : UnpackedFloat} {leftExact rightExact : ℚ}
    (leftFull : Full leftExact left) (rightFull : Full rightExact right) :
    RoundsTo (leftExact * rightExact) (UnpackedFloat.mul binary64 left right) := by
  cases leftFull with
  | finite leftPositive wide leftValue =>
      cases rightFull with
      | finite rightPositive _ rightValue =>
          rw [← leftValue, ← rightValue]
          exact roundsTo_mul leftPositive rightPositive (by omega)

theorem Full.div {left right : UnpackedFloat} {leftExact rightExact : ℚ}
    (leftFull : Full leftExact left) (rightFull : Full rightExact right) :
    RoundsTo (leftExact / rightExact) (UnpackedFloat.div binary64 left right) := by
  cases leftFull with
  | finite leftPositive _ leftValue =>
      cases rightFull with
      | finite rightPositive _ rightValue =>
          rw [← leftValue, ← rightValue]
          exact roundsTo_div leftPositive rightPositive

/-- Whole numbers below `2 ^ 53` are numbers themselves. -/
theorem full_ofNat {number : Nat} (positive : 0 < number) (small : number < 2 ^ 53) :
    Full number (Float.Model.ofNat number).unpack := by
  have log : number.log2 ≤ 52 := log2_le_of_lt_two_pow small
  have shifted : 0 < number <<< (52 - number.log2) := Nat.shiftLeft_pos_iff.mpr positive
  have size := totalExponent_shiftLeft (52 - number.log2) 0 positive.ne'
  have full : (number <<< (52 - number.log2)).log2 = 52 := by
    simp only [totalExponent] at size
    omega
  have canonical : Canonical (number <<< (52 - number.log2)) (0 - (52 - number.log2 : Nat)) := by
    refine ⟨?_, by omega, by omega, Or.inl full⟩
    exact ((Nat.log2_eq_iff shifted.ne').mp full).2
  have rounded : UnpackedFloat.ofNat binary64 number =
      .finite .positive (number <<< (52 - number.log2)) (0 - (52 - number.log2 : Nat)) shifted := by
    have count : (0 - max ((number.log2 : Int) + 0 - 52) (-1074)).toNat = 52 - number.log2 := by
      omega
    unfold UnpackedFloat.ofNat UnpackedFloat.ofInt UnpackedFloat.normalize
    rw [Int.compare_eq_gt.mpr (by omega)]
    simp only [Int.toNat_natCast, UnpackedFloat.round, targetExponent_eq, decreaseExponent, count]
    exact (roundsTo_of_precise canonical.precise).unique (roundsTo_self shifted canonical)
  change Full number (Float.Model.pack (UnpackedFloat.ofNat binary64 number)).unpack
  rw [rounded, unpack_pack shifted canonical]
  refine .finite shifted full ?_
  rw [Nat.shiftLeft_eq, zero_sub, zpow_neg, zpow_natCast]
  push_cast
  field_simp

/-- A number of full precision is read off its digits where its value is a whole number. -/
theorem full_of_whole {mantissa whole : Nat} {exponent : Int} (positive : 0 < mantissa)
    (full : mantissa.log2 = 52) (least : -52 ≤ exponent)
    (scaled : mantissa * 2 ^ (exponent + 52).toNat = whole * 2 ^ 52) :
    Full whole (.finite .positive mantissa exponent positive) := by
  refine .finite positive full ?_
  have power : (2 : ℚ) ^ (exponent + 52).toNat = 2 ^ exponent * 2 ^ 52 := by
    rw [← zpow_natCast, Int.toNat_of_nonneg (by omega), zpow_add₀ (by norm_num)]
    norm_cast
  have castScaled : (mantissa : ℚ) * 2 ^ (exponent + 52).toNat = whole * 2 ^ 52 := by
    exact_mod_cast scaled
  rw [power, ← mul_assoc] at castScaled
  exact mul_right_cancel₀ (by norm_num) castScaled

/-- Whether a number is of full precision and of a whole value. -/
def isWhole (whole : Nat) : UnpackedFloat → Bool
  | .finite .positive mantissa exponent _ =>
      mantissa.log2 = 52 ∧ -52 ≤ exponent ∧ mantissa * 2 ^ (exponent + 52).toNat = whole * 2 ^ 52
  | _ => false

theorem full_of_isWhole {whole : Nat} {number : UnpackedFloat}
    (checked : isWhole whole number = true) : Full whole number := by
  unfold isWhole at checked
  split at checked
  · simp only [decide_eq_true_eq] at checked
    obtain ⟨full, least, scaled⟩ := checked
    exact full_of_whole _ full least scaled
  · nomatch checked

/-- The powers of ten that are numbers themselves. -/
theorem full_powerOfTen {exponent : Nat} (small : exponent < 23) :
    Full ((10 ^ exponent : Nat) : ℚ)
      (Float.exactlyRepresentablePowersOfTen[exponent]).toModel.unpack := by
  have tabled : ∀ exponent : Fin 23,
      isWhole (10 ^ exponent.val)
        (Float.exactlyRepresentablePowersOfTen[exponent]).toModel.unpack = true := by
    decide +kernel
  exact full_of_isWhole (tabled ⟨exponent, small⟩)

/-! ## Reading decimals -/

theorem unpack_ofNat_zero : (Float.Model.ofNat 0).unpack = .zero .positive :=
  unpack_packedZero

theorem Full.mul_ofNat {number : Nat} {right : UnpackedFloat} {exact : ℚ} (full : Full exact right)
    (small : number < 2 ^ 53) :
    RoundsTo (number * exact)
      (UnpackedFloat.mul binary64 (Float.Model.ofNat number).unpack right) := by
  by_cases zero : number = 0
  · cases full
    rw [zero, unpack_ofNat_zero, Nat.cast_zero, zero_mul]
    exact roundsTo_zero
  · exact (full_ofNat (Nat.pos_of_ne_zero zero) small).mul full

theorem Full.div_ofNat {number : Nat} {right : UnpackedFloat} {exact : ℚ} (full : Full exact right)
    (small : number < 2 ^ 53) :
    RoundsTo (number / exact)
      (UnpackedFloat.div binary64 (Float.Model.ofNat number).unpack right) := by
  by_cases zero : number = 0
  · cases full
    rw [zero, unpack_ofNat_zero, Nat.cast_zero, zero_div]
    exact roundsTo_zero
  · exact (full_ofNat (Nat.pos_of_ne_zero zero) small).div full

/-- A decimal is rounded once, whichever way it is computed. -/
theorem toModel_ofScientific (significand : Nat) (negative : Bool) (exponent : Nat) :
    ∃ number,
      RoundsTo (significand * 10 ^ (if negative then -exponent else exponent : Int)) number ∧
        (Float.ofScientific significand negative exponent).toModel = Float.Model.pack number := by
  by_cases short : significand < 2 ^ 53 ∧ exponent ≤ 22
  · have power := full_powerOfTen (Nat.lt_succ_of_le short.2)
    have whole : significand.toUInt64.toNat = significand := by
      rw [Nat.toUInt64, UInt64.toNat_ofNat', Nat.mod_eq_of_lt (by omega)]
    unfold Float.ofScientific
    rw [dif_pos short]
    cases negative with
    | true =>
        have quotient := power.div_ofNat short.1
        refine ⟨_, ?_, congrArg (fun number => Float.Model.pack (UnpackedFloat.div binary64
          (Float.Model.ofNat number).unpack _)) whole⟩
        rw [if_pos rfl, zpow_neg, zpow_natCast, ← div_eq_mul_inv]
        exact_mod_cast quotient
    | false =>
        have product := power.mul_ofNat short.1
        refine ⟨_, ?_, congrArg (fun number => Float.Model.pack (UnpackedFloat.mul binary64
          (Float.Model.ofNat number).unpack _)) whole⟩
        rw [if_neg Bool.false_ne_true, zpow_natCast]
        exact_mod_cast product
  · unfold Float.ofScientific
    rw [dif_neg short]
    cases negative with
    | true =>
        obtain ⟨number, rounds, same⟩ := ofScientific_eq_pack significand (Int.negOfNat exponent)
        rw [Int.negOfNat_eq] at rounds
        exact ⟨number, rounds, same⟩
    | false => exact ofScientific_eq_pack significand _

end TextScanner.Rounding
