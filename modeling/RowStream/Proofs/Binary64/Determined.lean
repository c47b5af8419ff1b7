import Mathlib
import RowStream.Proofs.Binary64.Rounding

/-!
Contract: which number an exact one is rounded to.

Owns:
- `Binary64.cut`, the whole units of an exact number with what the residual bits tell about the
  rest;
- `Binary64.rounded`, the number that an exact one is rounded to.

Main statements: `Binary64.roundWithAccuracy_eq_rounded`, however many bits a significand is
computed to, it is rounded to the same number as long as they are enough;
`Binary64.mul_eq_rounded` and `Binary64.div_eq_rounded`; `Binary64.rounded_dyadic`, what needs no
rounding is not rounded.
-/

namespace RowStream.Binary64

open Float.Model (Format UnpackedFloat totalExponent)
open Float.Model.UnpackedFloat

/-! ### Cutting off -/

/-- The whole units of an exact number, and what the residual bits tell about the rest. -/
def cut (exact : ℚ) : ExtendedMantissa where
  mantissa := ⌊exact⌋₊
  roundBit := decide (1 ≤ 2 * (exact - ⌊exact⌋₊))
  stickyBit := decide (exact - ⌊exact⌋₊ ≠ 0 ∧ 2 * (exact - ⌊exact⌋₊) ≠ 1)

/-- The two bits after the significand are what the rest of the exact number says they are. -/
theorem cut_eq {exact rest : ℚ} {whole : Nat} (split : exact = whole + rest) (nonneg : 0 ≤ rest)
    (part : rest < 1) :
    cut exact = ⟨whole, decide (1 ≤ 2 * rest), decide (rest ≠ 0 ∧ 2 * rest ≠ 1)⟩ := by
  have floor : ⌊exact⌋₊ = whole := by
    rw [Nat.floor_eq_iff (by rw [split]; positivity), split]
    constructor
    · linarith
    · linarith
  have difference : exact - whole = rest := by
    rw [split]
    ring
  rw [cut, floor, difference]

theorem cut_natCast (whole : Nat) : cut whole = ⟨whole, false, false⟩ := by
  rw [cut_eq (add_zero (whole : ℚ)).symm le_rfl zero_lt_one]
  simp

/-- Halving an exact number shifts one more bit into the rest. -/
theorem cut_half {exact : ℚ} (nonneg : 0 ≤ exact) :
    (cut exact).shiftRightOne = cut (exact / 2) := by
  have below := Nat.floor_le nonneg
  have above := Nat.lt_floor_add_one exact
  obtain ⟨rest, difference⟩ : ∃ rest, rest = exact - ⌊exact⌋₊ := ⟨_, rfl⟩
  have whole : exact = ⌊exact⌋₊ + rest := by rw [difference]; ring
  have restNonneg : 0 ≤ rest := by linarith
  have restBelow : rest < 1 := by linarith
  have halves : (⌊exact⌋₊ : ℚ) = (⌊exact⌋₊ / 2 : Nat) * 2 + (⌊exact⌋₊ % 2 : Nat) := by
    exact_mod_cast (Nat.div_add_mod' ⌊exact⌋₊ 2).symm
  have split : exact / 2 = (⌊exact⌋₊ / 2 : Nat) + ((⌊exact⌋₊ % 2 : Nat) + rest) / 2 := by
    linarith
  have either : (decide (1 ≤ 2 * rest) || decide (rest ≠ 0 ∧ 2 * rest ≠ 1)) =
      decide (rest ≠ 0) := by
    rw [← Bool.decide_or, decide_eq_decide]
    grind
  rw [cut_eq whole restNonneg restBelow]
  rcases Nat.mod_two_eq_zero_or_one ⌊exact⌋₊ with even | odd
  · rw [even, Nat.cast_zero, zero_add] at split
    have low : decide (1 ≤ 2 * (rest / 2)) = false := decide_eq_false (by linarith)
    have some : decide (rest / 2 ≠ 0 ∧ 2 * (rest / 2) ≠ 1) = decide (rest ≠ 0) := by
      rw [decide_eq_decide]
      grind
    rw [cut_eq split (by linarith) (by linarith), low, some, ← either]
    simp only [ExtendedMantissa.shiftRightOne, even]
    rfl
  · rw [odd, Nat.cast_one] at split
    have high : decide (1 ≤ 2 * ((1 + rest) / 2)) = true := decide_eq_true (by linarith)
    have some : decide ((1 + rest) / 2 ≠ 0 ∧ 2 * ((1 + rest) / 2) ≠ 1) = decide (rest ≠ 0) := by
      rw [decide_eq_decide]
      grind
    rw [cut_eq split (by linarith) (by linarith), high, some, ← either]
    simp only [ExtendedMantissa.shiftRightOne, odd]
    rfl

/-- The induction is on the number of bits, of which the last one is shifted out at the end. -/
theorem cut_shiftRight {exact : ℚ} (nonneg : 0 ≤ exact) (bits : Nat) :
    cut exact >>> bits = cut (exact / 2 ^ bits) := by
  induction bits with
  | zero =>
      rw [pow_zero, div_one]
      rfl
  | succ bits inductionHypothesis =>
      have shifted : cut exact >>> (bits + 1) = (cut exact >>> bits).shiftRightOne := rfl
      rw [shifted, inductionHypothesis, cut_half (by positivity), div_div, ← pow_succ]

theorem ofMantissaAndAccuracy_exact (whole : Nat) :
    ExtendedMantissa.ofMantissaAndAccuracy whole .exact = cut whole :=
  (cut_natCast whole).symm

/-- The quotient and the remainder of a division tell what a cut of the exact quotient tells. -/
theorem ofMantissaAndAccuracy_div {numerator denominator : Nat} (positive : 0 < denominator) :
    ExtendedMantissa.ofMantissaAndAccuracy (numerator / denominator)
        (accuracyOfFraction (numerator % denominator) denominator) =
      cut (numerator / denominator) := by
  have scale : (0 : ℚ) < denominator := Nat.cast_pos.mpr positive
  have below : numerator % denominator < denominator := Nat.mod_lt _ positive
  have whole : (numerator : ℚ) / denominator = (numerator / denominator : Nat) +
      ((numerator % denominator : Nat) : ℚ) / denominator := by
    have parts : (numerator : ℚ) =
        (numerator / denominator : Nat) * denominator + (numerator % denominator : Nat) := by
      exact_mod_cast (Nat.div_add_mod' numerator denominator).symm
    rw [div_eq_iff scale.ne', add_mul, div_mul_cancel₀ _ scale.ne']
    exact parts
  have fraction : ((numerator % denominator : Nat) : ℚ) / denominator < 1 :=
    (div_lt_one scale).mpr (Nat.cast_lt.mpr below)
  rw [cut_eq whole (by positivity) fraction, accuracyOfFraction]
  generalize numerator % denominator = remainder at *
  have half : (1 ≤ 2 * ((remainder : ℚ) / denominator)) ↔ denominator ≤ 2 * remainder := by
    rw [← mul_div_assoc, one_le_div scale]
    exact_mod_cast Iff.rfl
  have tie : (2 * ((remainder : ℚ) / denominator) = 1) ↔ 2 * remainder = denominator := by
    rw [← mul_div_assoc, div_eq_one_iff_eq scale.ne']
    exact_mod_cast Iff.rfl
  have nothing : (remainder : ℚ) / denominator = 0 ↔ remainder = 0 := by
    rw [div_eq_zero_iff, Nat.cast_eq_zero, or_iff_left scale.ne']
  simp only [half, tie, nothing, ne_eq]
  split
  · next none =>
      rw [none, decide_eq_false (by omega), decide_eq_false (by omega)]
      rfl
  · next some =>
      rcases lt_trichotomy (2 * remainder) denominator with less | equal | more
      · rw [compare_lt_iff_lt.mpr less, decide_eq_false (by omega), decide_eq_true (by omega)]
        rfl
      · rw [compare_eq_iff_eq.mpr equal, decide_eq_true (by omega), decide_eq_false (by omega)]
        rfl
      · rw [compare_gt_iff_gt.mpr more, decide_eq_true (by omega), decide_eq_true (by omega)]
        rfl

/-! ### The rounded number -/

/-- The exponent at which an exact number is cut off to fit into 53 bits. -/
def scaleOf (exact : ℚ) : Int := max (Int.log 2 exact - 52) (-1074)

/-- The number that an exact one is rounded to: it is cut off, the rest decides which neighbour it
goes to, and a carry beyond the bits is shifted out. -/
def rounded (exact : ℚ) : UnpackedFloat :=
  let parts := shiftToTargetExponent Format.binary64
    (cut (exact / 2 ^ scaleOf exact)).roundedMantissa (scaleOf exact) .exact
  ofParts .positive parts.1.mantissa parts.2

theorem log_eq_of_bounds {exact : ℚ} {power : Int} (low : 2 ^ power ≤ exact)
    (high : exact < 2 ^ (power + 1)) : Int.log 2 exact = power := by
  have positive : 0 < exact := (zpow_pos two_pos power).trans_le low
  have atLeast : power ≤ Int.log 2 exact :=
    (Int.zpow_le_iff_le_log (by decide) positive).mp (by exact_mod_cast low)
  have below : Int.log 2 exact < power + 1 :=
    (Int.lt_zpow_iff_log_lt (by decide) positive).mp (by exact_mod_cast high)
  omega

/-- The length of the whole part at some exponent tells the order of magnitude. -/
theorem log2_floor {exact : ℚ} {exponent : Int} (some : 0 < ⌊exact / 2 ^ exponent⌋₊) :
    (⌊exact / 2 ^ exponent⌋₊.log2 : Int) + exponent = Int.log 2 exact := by
  have scale : (0 : ℚ) < 2 ^ exponent := zpow_pos two_pos exponent
  have least := Nat.floor_le (Nat.pos_of_floor_pos some).le
  have most := Nat.lt_floor_add_one (exact / 2 ^ exponent)
  have low : ((2 ^ ⌊exact / 2 ^ exponent⌋₊.log2 : Nat) : ℚ) ≤ ⌊exact / 2 ^ exponent⌋₊ :=
    Nat.cast_le.mpr (Nat.log2_self_le some.ne')
  have high : ((⌊exact / 2 ^ exponent⌋₊ + 1 : Nat) : ℚ) ≤
      (2 ^ (⌊exact / 2 ^ exponent⌋₊.log2 + 1) : Nat) :=
    Nat.cast_le.mpr Nat.lt_log2_self
  symm
  apply log_eq_of_bounds
  · rw [zpow_add₀ two_ne_zero, zpow_natCast, ← le_div_iff₀ scale]
    push_cast at low
    exact low.trans least
  · rw [add_right_comm, zpow_add₀ two_ne_zero, ← div_lt_iff₀ scale]
    push_cast at high
    exact_mod_cast most.trans_le high

theorem mantissa_ofMantissaAndAccuracy (significand : Nat) (accuracy : Accuracy) :
    (ExtendedMantissa.ofMantissaAndAccuracy significand accuracy).mantissa = significand := by
  cases accuracy with
  | exact => rfl
  | inexact order => cases order <;> rfl

/-- A significand that is cut off from an exact number is rounded as that number, as long as it
is not cut off too early. -/
theorem roundWithAccuracy_eq_rounded {exact : ℚ} (positive : 0 < exact) {significand : Nat}
    {exponent : Int} {accuracy : Accuracy}
    (shows : ExtendedMantissa.ofMantissaAndAccuracy significand accuracy =
      cut (exact / 2 ^ exponent))
    (fine : exponent ≤ scaleOf exact) :
    roundWithAccuracy Format.binary64 .positive significand exponent accuracy = rounded exact := by
  have scale : (0 : ℚ) < 2 ^ exponent := zpow_pos two_pos exponent
  have whole : significand = ⌊exact / 2 ^ exponent⌋₊ := by
    rw [← mantissa_ofMantissaAndAccuracy significand accuracy, shows, cut]
  have target : Format.binary64.targetExponent (totalExponent significand exponent) =
      scaleOf exact := by
    rw [targetExponent_eq, scaleOf]
    rcases Nat.eq_zero_or_pos significand with zero | some
    · -- Nothing is left of the number, so the exponent is the least one.
      have small : exact / 2 ^ exponent < 1 := Nat.floor_eq_zero.mp (whole.symm.trans zero)
      have below : Int.log 2 exact < exponent := by
        rw [div_lt_one scale] at small
        exact (Int.lt_zpow_iff_log_lt (by decide) positive).mp (by exact_mod_cast small)
      rw [scaleOf] at fine
      rw [zero, Nat.log2_zero]
      omega
    · rw [whole, log2_floor (whole ▸ some)]
  obtain ⟨bits, gap⟩ := Int.eq_ofNat_of_zero_le (show 0 ≤ scaleOf exact - exponent by omega)
  have shift : (scaleOf exact - exponent).toNat = bits := by omega
  have reached : exponent + bits = scaleOf exact := by omega
  have shifted : shiftToTargetExponent Format.binary64 significand exponent accuracy =
      (cut (exact / 2 ^ scaleOf exact), scaleOf exact) := by
    rw [shiftToTargetExponent, target, shiftToExponent, shift, shows,
      cut_shiftRight (by positivity), div_div, ← zpow_natCast, ← zpow_add₀ two_ne_zero, reached]
  rw [roundWithAccuracy, shifted]
  rfl

/-- An exact number is cut at the scale that the format aims at. -/
theorem scaleOf_dyadic {significand : Nat} (positive : 0 < significand) (exponent : Int) :
    scaleOf (dyadic significand exponent) =
      Format.binary64.targetExponent (totalExponent significand exponent) := by
  have scale : (0 : ℚ) < 2 ^ exponent := zpow_pos two_pos exponent
  have whole : ⌊dyadic significand exponent / 2 ^ exponent⌋₊ = significand := by
    rw [dyadic, mul_div_cancel_right₀ _ scale.ne', Nat.floor_natCast]
  have order := log2_floor (whole.symm ▸ positive)
  rw [whole] at order
  rw [targetExponent_eq, scaleOf, order]

/-- A significand that is long enough is rounded as the number it stands for. -/
theorem roundWithAccuracy_exact {significand : Nat} (positive : 0 < significand) {exponent : Int}
    (fine : exponent ≤ Format.binary64.targetExponent (totalExponent significand exponent)) :
    roundWithAccuracy Format.binary64 .positive significand exponent .exact =
      rounded (dyadic significand exponent) := by
  have scale : (0 : ℚ) < 2 ^ exponent := zpow_pos two_pos exponent
  apply roundWithAccuracy_eq_rounded (dyadic_pos positive exponent)
  · rw [dyadic, mul_div_cancel_right₀ _ scale.ne']
    exact ofMantissaAndAccuracy_exact significand
  · rw [scaleOf_dyadic positive]
    exact fine

theorem roundedMantissa_bounds (extended : ExtendedMantissa) :
    extended.mantissa ≤ extended.roundedMantissa ∧
      extended.roundedMantissa ≤ extended.mantissa + 1 := by
  rcases extended with ⟨mantissa, _ | _, _ | _⟩
  · exact ⟨Nat.le_refl mantissa, Nat.le_succ mantissa⟩
  · exact ⟨Nat.le_refl mantissa, Nat.le_succ mantissa⟩
  · have tie : mantissa % 2 < 2 := Nat.mod_lt _ two_pos
    exact ⟨Nat.le_add_right mantissa _, show mantissa + mantissa % 2 ≤ mantissa + 1 by omega⟩
  · exact ⟨Nat.le_succ mantissa, Nat.le_refl _⟩

/-- What is cut off fits into 53 bits, all of them in use above the least exponent. -/
theorem floor_bounds {exact : ℚ} (positive : 0 < exact) :
    ⌊exact / 2 ^ scaleOf exact⌋₊ < 2 ^ 53 ∧
      (2 ^ 52 ≤ ⌊exact / 2 ^ scaleOf exact⌋₊ ∨ scaleOf exact = -1074) := by
  have scale : (0 : ℚ) < 2 ^ scaleOf exact := zpow_pos two_pos _
  constructor
  · have high : exact < 2 ^ (Int.log 2 exact + 1) :=
      mod_cast Int.lt_zpow_succ_log_self (by decide) exact
    have beyond : (2 : ℚ) ^ (Int.log 2 exact + 1) ≤ 2 ^ (scaleOf exact + 53) :=
      zpow_le_zpow_right₀ one_le_two (by rw [scaleOf]; omega)
    rw [Nat.floor_lt (by positivity), div_lt_iff₀ scale]
    calc exact
        < 2 ^ (scaleOf exact + 53) := high.trans_le beyond
      _ = (2 ^ 53 : Nat) * 2 ^ scaleOf exact := by
          rw [zpow_add₀ two_ne_zero, mul_comm]
          push_cast
          norm_cast
  · rcases le_or_gt (-1074) (Int.log 2 exact - 52) with normal | subnormal
    · left
      have reached : scaleOf exact = Int.log 2 exact - 52 := by rw [scaleOf]; omega
      have low : (2 : ℚ) ^ Int.log 2 exact ≤ exact :=
        mod_cast Int.zpow_log_le_self (by decide) positive
      rw [Nat.le_floor_iff (by positivity), le_div_iff₀ scale]
      calc ((2 ^ 52 : Nat) : ℚ) * 2 ^ scaleOf exact
          = 2 ^ (scaleOf exact + 52) := by
            rw [zpow_add₀ two_ne_zero, mul_comm]
            push_cast
            norm_cast
        _ = 2 ^ Int.log 2 exact := by rw [reached, sub_add_cancel]
        _ ≤ exact := low
    · right
      rw [scaleOf]
      omega

/-- The parts of a rounded number are canonical, and it is cut off no later than they begin. -/
theorem rounded_eq {exact : ℚ} (positive : 0 < exact) :
    ∃ significand exponent, rounded exact = ofParts .positive significand exponent ∧
      Canonical significand exponent ∧ scaleOf exact ≤ exponent := by
  obtain ⟨below, normal⟩ := floor_bounds positive
  obtain ⟨least, most⟩ := roundedMantissa_bounds (cut (exact / 2 ^ scaleOf exact))
  have floor : (cut (exact / 2 ^ scaleOf exact)).mantissa = ⌊exact / 2 ^ scaleOf exact⌋₊ := rfl
  rw [floor] at least most
  have parts := shiftToTargetExponent_eq (most.trans below) (le_max_right _ _)
    (normal.imp_left (fun high => high.trans least))
  exact ⟨_, _, rfl, parts.1, by
    show scaleOf exact ≤ scaleOf exact + (Int.toNat _ : Int)
    omega⟩

/-- What is canonical has nothing shifted out. -/
theorem shiftToTargetExponent_of_canonical {significand : Nat} {exponent : Int}
    (canonical : Canonical significand exponent) :
    shiftToTargetExponent Format.binary64 significand exponent .exact =
      (⟨significand, false, false⟩, exponent) := by
  have bits : significand.log2 ≤ 52 := by
    by_cases zero : significand = 0
    · simp [zero]
    · have short := (Nat.log2_lt zero).mpr canonical.below
      omega
  have least := canonical.least
  have still : (Format.binary64.targetExponent (totalExponent significand exponent) -
      exponent).toNat = 0 := by
    rw [targetExponent_eq]
    omega
  rw [shiftToTargetExponent, shiftToExponent, still]
  exact Prod.ext rfl (Int.add_zero exponent)

/-- What is canonical is not rounded. -/
theorem rounded_dyadic {significand : Nat} {exponent : Int} (positive : 0 < significand)
    (canonical : Canonical significand exponent) :
    rounded (dyadic significand exponent) = .finite .positive significand exponent positive := by
  have fine : exponent ≤
      Format.binary64.targetExponent (totalExponent significand exponent) := by
    rw [targetExponent_eq]
    rcases canonical.normal with high | least
    · have bits : 52 ≤ significand.log2 := (Nat.le_log2 positive.ne').mpr high
      omega
    · omega
  have shifted := shiftToTargetExponent_of_canonical canonical
  rw [← roundWithAccuracy_exact positive fine, roundWithAccuracy, shifted]
  dsimp only
  rw [show (ExtendedMantissa.mk significand false false).roundedMantissa = significand from rfl,
    shifted, dif_neg positive.ne']

section Quotients

variable {left right : Nat} {exponent scale : Int}

/-- The product is cut once, from the exact product, so that no bit is lost before that. -/
theorem mul_eq_rounded (leftPositive : 0 < left) (rightPositive : 0 < right)
    (fine : exponent + scale ≤
      Format.binary64.targetExponent (totalExponent (left * right) (exponent + scale))) :
    mul Format.binary64 (.finite .positive left exponent leftPositive)
        (.finite .positive right scale rightPositive) =
      rounded (dyadic left exponent * dyadic right scale) := by
  rw [← dyadic_mul]
  exact roundWithAccuracy_exact (Nat.mul_pos leftPositive rightPositive) fine

theorem zpow_log2_le_dyadic (positive : 0 < left) :
    (2 : ℚ) ^ (left.log2 + exponent) ≤ dyadic left exponent := by
  have low : ((2 ^ left.log2 : Nat) : ℚ) ≤ left := Nat.cast_le.mpr (Nat.log2_self_le positive.ne')
  rw [zpow_add₀ two_ne_zero, zpow_natCast, dyadic]
  push_cast at low
  exact mul_le_mul_of_nonneg_right low (zpow_pos two_pos exponent).le

theorem dyadic_lt_zpow_log2 (significand : Nat) (exponent : Int) :
    dyadic significand exponent < (2 : ℚ) ^ (significand.log2 + exponent + 1) := by
  have high : (significand : ℚ) < ((2 ^ (significand.log2 + 1) : Nat) : ℚ) :=
    Nat.cast_lt.mpr Nat.lt_log2_self
  rw [add_right_comm, zpow_add₀ two_ne_zero, dyadic]
  push_cast at high
  exact mul_lt_mul_of_pos_right (by exact_mod_cast high) (zpow_pos two_pos exponent)

theorem le_log_div (leftPositive : 0 < left) (rightPositive : 0 < right) :
    (left.log2 + exponent) - (right.log2 + scale) - 1 ≤
      Int.log 2 (dyadic left exponent / dyadic right scale) := by
  have divisor : 0 < dyadic right scale := dyadic_pos rightPositive scale
  have quotient : 0 < dyadic left exponent / dyadic right scale :=
    div_pos (dyadic_pos leftPositive exponent) divisor
  apply (Int.zpow_le_iff_le_log (by decide) quotient).mp
  push_cast
  rw [le_div_iff₀ divisor]
  calc (2 : ℚ) ^ ((left.log2 + exponent) - (right.log2 + scale) - 1) * dyadic right scale
      ≤ 2 ^ ((left.log2 + exponent) - (right.log2 + scale) - 1) *
          2 ^ (right.log2 + scale + 1) :=
        mul_le_mul_of_nonneg_left (dyadic_lt_zpow_log2 right scale).le (zpow_pos two_pos _).le
    _ = 2 ^ (left.log2 + exponent) := by
        rw [← zpow_add₀ two_ne_zero]
        congr 1
        ring
    _ ≤ dyadic left exponent := zpow_log2_le_dyadic leftPositive

/-- A quotient is computed to enough bits, and what is left of it decides how it is rounded. -/
theorem div_eq_rounded (leftPositive : 0 < left) (rightPositive : 0 < right) :
    div Format.binary64 (.finite .positive left exponent leftPositive)
        (.finite .positive right scale rightPositive) =
      rounded (dyadic left exponent / dyadic right scale) := by
  have quotient : 0 < dyadic left exponent / dyadic right scale :=
    div_pos (dyadic_pos leftPositive exponent) (dyadic_pos rightPositive scale)
  have order : (left.log2 + exponent) - (right.log2 + scale) - 1 ≤
      Int.log 2 (dyadic left exponent / dyadic right scale) :=
    le_log_div leftPositive rightPositive
  obtain ⟨target, chosen⟩ : ∃ target, target = min (exponent - scale)
      (Format.binary64.targetExponent
        (totalExponent left exponent - totalExponent right scale)) := ⟨_, rfl⟩
  have enough : target ≤ scaleOf (dyadic left exponent / dyadic right scale) := by
    have bits : Format.binary64.mantissaBits = 53 := rfl
    rw [chosen, scaleOf]
    simp only [Format.targetExponent, totalExponent, bits, Format.minExponent]
    omega
  obtain ⟨shift, gap⟩ := Int.eq_ofNat_of_zero_le (show 0 ≤ exponent - scale - target by omega)
  have computed : divCore Format.binary64 left exponent right scale =
      (left * 2 ^ shift / right, target,
        accuracyOfFraction (left * 2 ^ shift % right) right) := by
    simp only [divCore, ← chosen, gap, Int.toNat_natCast, Nat.shiftLeft_eq]
  have scaled : dyadic left exponent / dyadic right scale / 2 ^ target =
      (left * 2 ^ shift : Nat) / right := by
    have same : exponent = target + scale + shift := by omega
    rw [dyadic, dyadic, same, zpow_add₀ two_ne_zero, zpow_add₀ two_ne_zero, zpow_natCast]
    push_cast
    field_simp
  simp only [div, computed]
  apply roundWithAccuracy_eq_rounded quotient
  · rw [scaled]
    exact ofMantissaAndAccuracy_div rightPositive
  · exact enough

end Quotients

end RowStream.Binary64
