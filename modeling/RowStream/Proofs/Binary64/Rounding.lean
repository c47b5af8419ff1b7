import Mathlib.Algebra.Order.Field.Power
import Mathlib.Data.Rat.Cast.Order
import Mathlib.Tactic.Ring

/-!
Contract: rounding an exact result to a 64-bit binary floating-point number.

Owns:
- `Binary64.Nearest`, a whole number of units within half a unit of an exact number;
- `Binary64.dyadic`, the rational that a significand and an exponent stand for, and
  `Binary64.Canonical`, the pairs of them that such numbers have;
- `Binary64.RoundsTo`, what callers know of a rounded result.

Main statement: `Binary64.roundWithAccuracy_eq`. A rounded result never passes a number that
needs no rounding, which decides every comparison with such a number.
-/

namespace RowStream.Binary64

open Float.Model (Format UnpackedFloat totalExponent)
open Float.Model.UnpackedFloat

/-! ### Whole units -/

/-- So many units are at most half a unit away from an exact number. -/
structure Nearest (exact unit rounded : Nat) : Prop where
  upper : 2 * (rounded * unit) ≤ 2 * exact + unit
  lower : 2 * exact ≤ 2 * (rounded * unit) + unit

namespace Nearest

variable {exact unit rounded : Nat}

theorem down {whole rest : Nat} (half : 2 * rest ≤ unit) :
    Nearest (whole * unit + rest) unit whole := by
  constructor
  · omega
  · omega

theorem up {whole rest : Nat} (half : unit ≤ 2 * rest) (part : rest ≤ unit) :
    Nearest (whole * unit + rest) unit (whole + 1) := by
  have next : (whole + 1) * unit = whole * unit + unit := Nat.succ_mul whole unit
  constructor
  · rw [next]
    omega
  · rw [next]
    omega

theorem le_of_le (nearest : Nearest exact unit rounded) (positive : 0 < unit) {bound : Nat}
    (below : exact ≤ bound * unit) : rounded ≤ bound := by
  by_contra above
  have next : (bound + 1) * unit ≤ rounded * unit := Nat.mul_le_mul_right unit (by omega)
  have upper := nearest.upper
  rw [Nat.add_mul, Nat.one_mul] at next
  omega

theorem ge_of_ge (nearest : Nearest exact unit rounded) (positive : 0 < unit) {bound : Nat}
    (above : bound * unit ≤ exact) : bound ≤ rounded := by
  by_contra below
  have next : (rounded + 1) * unit ≤ bound * unit := Nat.mul_le_mul_right unit (by omega)
  have lower := nearest.lower
  rw [Nat.add_mul, Nat.one_mul] at next
  omega

private theorem scaled_error_le {error count : Nat} (half : 2 * error ≤ unit)
    (beside : count * unit + error ≤ exact) : (2 * count + 1) * error ≤ exact := by
  have units : count * (2 * error) ≤ count * unit := Nat.mul_le_mul_left count half
  calc (2 * count + 1) * error
      = count * (2 * error) + error := by ring
    _ ≤ count * unit + error := Nat.add_le_add_right units error
    _ ≤ exact := beside

/-- The error is small beside an exact number of many units. -/
theorem error_le (nearest : Nearest exact unit rounded) (positive : 0 < unit) {count : Nat}
    (many : count * unit ≤ exact) :
    (2 * count + 1) * (rounded * unit - exact) ≤ exact ∧
      (2 * count + 1) * (exact - rounded * unit) ≤ exact := by
  have kept : count ≤ rounded := nearest.ge_of_ge positive many
  have units : count * unit ≤ rounded * unit := Nat.mul_le_mul_right unit kept
  have upper := nearest.upper
  have lower := nearest.lower
  constructor
  · rcases Nat.lt_or_ge exact (rounded * unit) with up | down
    · -- Rounded up beyond `count` units, so to at least one unit more.
      have more : count + 1 ≤ rounded := by
        by_contra least
        have same : rounded = count := by omega
        rw [same] at up
        omega
      have next : (count + 1) * unit ≤ rounded * unit := Nat.mul_le_mul_right unit more
      rw [Nat.add_mul, Nat.one_mul] at next
      have half : 2 * (rounded * unit - exact) ≤ unit := by omega
      exact scaled_error_le half (by omega)
    · rw [Nat.sub_eq_zero_of_le down]
      exact Nat.zero_le exact
  · have half : 2 * (exact - rounded * unit) ≤ unit := by omega
    exact scaled_error_le half (by omega)

end Nearest

/-! ### Dropping bits -/

/-- What the residual bits of a significand tell about the part of a unit that was dropped. -/
def Dropped (rest unit : Nat) (extended : ExtendedMantissa) : Prop :=
  match extended.roundBit, extended.stickyBit with
  | false, false => rest = 0
  | false, true => 0 < rest ∧ 2 * rest < unit
  | true, false => 2 * rest = unit
  | true, true => unit < 2 * rest ∧ rest < unit

/-- What a shift by one bit drops joins what was dropped before it. -/
theorem Dropped.shiftRightOne {rest unit : Nat} {extended : ExtendedMantissa}
    (dropped : Dropped rest unit extended) (positive : 0 < unit) :
    Dropped (extended.mantissa % 2 * unit + rest) (2 * unit) extended.shiftRightOne := by
  rcases extended with ⟨mantissa, roundBit, stickyBit⟩
  rcases Nat.mod_two_eq_zero_or_one mantissa with even | odd
  · cases roundBit <;> cases stickyBit <;>
      simp [Dropped, ExtendedMantissa.shiftRightOne, even] at dropped ⊢ <;> omega
  · cases roundBit <;> cases stickyBit <;>
      simp [Dropped, ExtendedMantissa.shiftRightOne, odd] at dropped ⊢ <;> omega

/-- The induction is on the number of bits; each of them joins the part that was dropped. -/
theorem shiftRight_exact (exact bits : Nat) :
    ∃ rest, exact =
        ((ExtendedMantissa.ofMantissaAndAccuracy exact .exact) >>> bits).mantissa * 2 ^ bits +
          rest ∧
      Dropped rest (2 ^ bits) ((ExtendedMantissa.ofMantissaAndAccuracy exact .exact) >>> bits) := by
  induction bits with
  | zero => exact ⟨0, (Nat.mul_one exact).symm, rfl⟩
  | succ bits inductionHypothesis =>
      obtain ⟨rest, whole, dropped⟩ := inductionHypothesis
      let before := (ExtendedMantissa.ofMantissaAndAccuracy exact .exact) >>> bits
      have shifted : (ExtendedMantissa.ofMantissaAndAccuracy exact .exact) >>> (bits + 1) =
          before.shiftRightOne := rfl
      have halves : before.mantissa = before.mantissa / 2 * 2 + before.mantissa % 2 :=
        (Nat.div_add_mod' before.mantissa 2).symm
      rw [shifted]
      refine ⟨before.mantissa % 2 * 2 ^ bits + rest, ?_, ?_⟩
      · show exact = before.mantissa / 2 * 2 ^ (bits + 1) + (before.mantissa % 2 * 2 ^ bits + rest)
        calc exact
            = before.mantissa * 2 ^ bits + rest := whole
          _ = (before.mantissa / 2 * 2 + before.mantissa % 2) * 2 ^ bits + rest := by
              rw [← halves]
          _ = before.mantissa / 2 * 2 ^ (bits + 1) +
                (before.mantissa % 2 * 2 ^ bits + rest) := by ring
      · rw [Nat.pow_succ']
        exact dropped.shiftRightOne (Nat.two_pow_pos bits)

/-- What is dropped is rounded to the nearest whole unit. -/
theorem roundedMantissa_nearest (exact bits : Nat) :
    Nearest exact (2 ^ bits)
      ((ExtendedMantissa.ofMantissaAndAccuracy exact .exact) >>> bits).roundedMantissa := by
  obtain ⟨rest, whole, dropped⟩ := shiftRight_exact exact bits
  generalize (ExtendedMantissa.ofMantissaAndAccuracy exact .exact) >>> bits = extended
    at whole dropped
  generalize 2 ^ bits = unit at whole dropped
  rw [whole]
  rcases extended with ⟨mantissa, _ | _, _ | _⟩
  · have none : rest = 0 := dropped
    exact .down (by omega)
  · have some : 0 < rest ∧ 2 * rest < unit := dropped
    exact .down (by omega)
  · have half : 2 * rest = unit := dropped
    show Nearest _ unit (mantissa + mantissa % 2)
    rcases Nat.mod_two_eq_zero_or_one mantissa with even | odd
    · rw [even]
      exact .down (by omega)
    · rw [odd]
      exact .up (by omega) (by omega)
  · have some : unit < 2 * rest ∧ rest < unit := dropped
    exact .up (by omega) (by omega)

/-! ### Significands and exponents -/

/-- The number that a significand and an exponent stand for. -/
def dyadic (significand : Nat) (exponent : Int) : ℚ :=
  significand * 2 ^ exponent

theorem dyadic_add (significand : Nat) (exponent : Int) (bits : Nat) :
    dyadic significand (exponent + bits) = dyadic (significand * 2 ^ bits) exponent := by
  rw [dyadic, dyadic, zpow_add₀ two_ne_zero, zpow_natCast]
  push_cast
  ring

theorem dyadic_zero (significand : Nat) : dyadic significand 0 = significand := by
  rw [dyadic, zpow_zero, mul_one]

theorem dyadic_zero_left (exponent : Int) : dyadic 0 exponent = 0 := by
  rw [dyadic, Nat.cast_zero, zero_mul]

theorem dyadic_mul (left right : Nat) (exponent scale : Int) :
    dyadic (left * right) (exponent + scale) = dyadic left exponent * dyadic right scale := by
  rw [dyadic, dyadic, dyadic, zpow_add₀ two_ne_zero]
  push_cast
  ring

theorem dyadic_le_dyadic {left right : Nat} {exponent : Int} :
    dyadic left exponent ≤ dyadic right exponent ↔ left ≤ right := by
  have positive : (0 : ℚ) < 2 ^ exponent := zpow_pos two_pos exponent
  rw [dyadic, dyadic, mul_le_mul_iff_left₀ positive, Nat.cast_le]

theorem dyadic_lt_dyadic {left right : Nat} {exponent : Int} :
    dyadic left exponent < dyadic right exponent ↔ left < right := by
  rw [← not_le, dyadic_le_dyadic, not_le]

theorem dyadic_pos {significand : Nat} (positive : 0 < significand) (exponent : Int) :
    0 < dyadic significand exponent :=
  mul_pos (Nat.cast_pos.mpr positive) (zpow_pos two_pos exponent)

theorem dyadic_nonneg (significand : Nat) (exponent : Int) : 0 ≤ dyadic significand exponent :=
  mul_nonneg (Nat.cast_nonneg significand) (zpow_pos two_pos exponent).le

/-- The significand has 53 bits, all of them in use above the least exponent. -/
structure Canonical (significand : Nat) (exponent : Int) : Prop where
  below : significand < 2 ^ 53
  least : -1074 ≤ exponent
  normal : 2 ^ 52 ≤ significand ∨ exponent = -1074

theorem canonical_two_pow {exponent : Int} (least : -1074 ≤ exponent) :
    Canonical (2 ^ 52) exponent :=
  ⟨by decide, least, Or.inl (Nat.le_refl _)⟩

/-- What is canonical is below everything that begins at a larger exponent. -/
theorem Canonical.dyadic_lt {significand : Nat} {exponent larger : Int}
    (canonical : Canonical significand exponent) (higher : exponent < larger) :
    dyadic significand exponent < dyadic (2 ^ 52) larger := by
  obtain ⟨bits, gap⟩ := Int.eq_ofNat_of_zero_le (show 0 ≤ larger - exponent - 1 by omega)
  have beyond : larger = exponent + (bits + 1 : Nat) := by omega
  have power : 2 ^ 53 ≤ 2 ^ 52 * 2 ^ (bits + 1) := by
    rw [← Nat.pow_add]
    exact Nat.pow_le_pow_right two_pos (by omega)
  rw [beyond, dyadic_add, dyadic_lt_dyadic]
  exact Nat.lt_of_lt_of_le canonical.below power

theorem targetExponent_eq (significand : Nat) (exponent : Int) :
    Format.binary64.targetExponent (totalExponent significand exponent) =
      max (significand.log2 + exponent - 52) (-1074) := by
  have bits : Format.binary64.mantissaBits = 53 := rfl
  simp only [Format.targetExponent, totalExponent, bits, Format.minExponent]
  omega

/-- What is canonical, or one carry beyond it, is brought to canonical form without a loss. -/
theorem shiftToTargetExponent_eq {significand : Nat} {exponent : Int}
    (below : significand ≤ 2 ^ 53) (least : -1074 ≤ exponent)
    (normal : 2 ^ 52 ≤ significand ∨ exponent = -1074) :
    let shifted := shiftToTargetExponent Format.binary64 significand exponent .exact
    Canonical shifted.1.mantissa shifted.2 ∧
      dyadic shifted.1.mantissa shifted.2 = dyadic significand exponent := by
  intro shifted
  rcases Nat.lt_or_eq_of_le below with inside | carried
  · have bits : significand.log2 ≤ 52 := by
      by_cases zero : significand = 0
      · simp [zero]
      · have := (Nat.log2_lt zero).mpr inside
        omega
    have still : (Format.binary64.targetExponent (totalExponent significand exponent) -
        exponent).toNat = 0 := by
      rw [targetExponent_eq]
      omega
    have same : shifted = (⟨significand, false, false⟩, exponent) := by
      show shiftToExponent _ _ _ _ = _
      rw [shiftToExponent, still]
      simp [ExtendedMantissa.ofMantissaAndAccuracy]
      rfl
    rw [same]
    exact ⟨⟨inside, least, normal⟩, rfl⟩
  · have one : (Format.binary64.targetExponent (totalExponent significand exponent) -
        exponent).toNat = 1 := by
      rw [targetExponent_eq, carried, Nat.log2_two_pow]
      omega
    have halved : shifted = (⟨2 ^ 52, false, false⟩, exponent + 1) := by
      show shiftToExponent _ _ _ _ = _
      rw [shiftToExponent, one, carried]
      rfl
    have canonical : Canonical (2 ^ 52) (exponent + 1) := canonical_two_pow (by omega)
    have same : dyadic (2 ^ 52) (exponent + 1) = dyadic (2 ^ 53) exponent :=
      dyadic_add (2 ^ 52) exponent 1
    rw [halved, carried]
    exact ⟨canonical, same⟩

/-! ### Rounded results -/

section Nearest

variable {significand rounded bits bound : Nat} {exponent scale : Int}

theorem dyadic_rounded_le (nearest : Nearest significand (2 ^ bits) rounded)
    (normal : 2 ^ 52 * 2 ^ bits ≤ significand ∨ exponent + bits = -1074)
    (canonical : Canonical bound scale)
    (below : dyadic significand exponent ≤ dyadic bound scale) :
    dyadic rounded (exponent + bits) ≤ dyadic bound scale := by
  rcases Int.lt_or_le scale (exponent + bits) with finer | coarser
  · have least := canonical.least
    have high : 2 ^ 52 * 2 ^ bits ≤ significand := normal.resolve_right (by omega)
    have above : dyadic bound scale < dyadic significand exponent :=
      calc dyadic bound scale
          < dyadic (2 ^ 52) (exponent + bits) := canonical.dyadic_lt finer
        _ = dyadic (2 ^ 52 * 2 ^ bits) exponent := dyadic_add _ _ _
        _ ≤ dyadic significand exponent := dyadic_le_dyadic.mpr high
    exact absurd below (not_le.mpr above)
  · obtain ⟨more, gap⟩ := Int.eq_ofNat_of_zero_le (show 0 ≤ scale - (exponent + bits) by omega)
    have same : scale = exponent + bits + more := by omega
    rw [same, dyadic_add, dyadic_add, dyadic_le_dyadic] at below
    rw [same, dyadic_add bound, dyadic_le_dyadic]
    exact nearest.le_of_le (Nat.two_pow_pos bits) below

theorem le_dyadic_rounded (nearest : Nearest significand (2 ^ bits) rounded)
    (normal : 2 ^ 52 * 2 ^ bits ≤ significand ∨ exponent + bits = -1074)
    (canonical : Canonical bound scale)
    (above : dyadic bound scale ≤ dyadic significand exponent) :
    dyadic bound scale ≤ dyadic rounded (exponent + bits) := by
  rcases Int.lt_or_le scale (exponent + bits) with finer | coarser
  · have least := canonical.least
    have high : 2 ^ 52 * 2 ^ bits ≤ significand := normal.resolve_right (by omega)
    have kept : 2 ^ 52 ≤ rounded := nearest.ge_of_ge (Nat.two_pow_pos bits) high
    calc dyadic bound scale
        ≤ dyadic (2 ^ 52) (exponent + bits) := (canonical.dyadic_lt finer).le
      _ ≤ dyadic rounded (exponent + bits) := dyadic_le_dyadic.mpr kept
  · obtain ⟨more, gap⟩ := Int.eq_ofNat_of_zero_le (show 0 ≤ scale - (exponent + bits) by omega)
    have same : scale = exponent + bits + more := by omega
    rw [same, dyadic_add, dyadic_add, dyadic_le_dyadic] at above
    rw [same, dyadic_add, dyadic_le_dyadic]
    exact nearest.ge_of_ge (Nat.two_pow_pos bits) above

/-- Where the significand is full, rounding errs by at most one part in `2 ^ 53 + 1`. -/
theorem dyadic_rounded_close (nearest : Nearest significand (2 ^ bits) rounded)
    (high : 2 ^ 52 * 2 ^ bits ≤ significand) :
    (2 ^ 53 + 1) * |dyadic rounded (exponent + bits) - dyadic significand exponent| ≤
      dyadic significand exponent := by
  have positive : (0 : ℚ) < 2 ^ exponent := zpow_pos two_pos exponent
  obtain ⟨upper, lower⟩ := nearest.error_le (Nat.two_pow_pos bits) high
  have scaled : dyadic rounded (exponent + bits) - dyadic significand exponent =
      ((rounded * 2 ^ bits : Nat) - (significand : Nat) : ℚ) * 2 ^ exponent := by
    rw [dyadic_add, dyadic, dyadic]
    ring
  have counted : (2 ^ 53 + 1) * |((rounded * 2 ^ bits : Nat) - (significand : Nat) : ℚ)| ≤
      (significand : ℚ) := by
    rcases Nat.le_total significand (rounded * 2 ^ bits) with up | down
    · rw [← Nat.cast_sub up, abs_of_nonneg (Nat.cast_nonneg _)]
      exact_mod_cast upper
    · rw [abs_sub_comm, ← Nat.cast_sub down, abs_of_nonneg (Nat.cast_nonneg _)]
      exact_mod_cast lower
  rw [scaled, abs_mul, abs_of_pos positive, ← mul_assoc, dyadic]
  exact mul_le_mul_of_nonneg_right counted positive.le

end Nearest

/-- What callers know of a rounded result: it is on the same side of everything canonical as the
exact one, and close to it unless that is tiny. -/
structure RoundsTo (exact : ℚ) (significand : Nat) (exponent : Int) : Prop where
  canonical : Canonical significand exponent
  le_of_le : ∀ {bound : Nat} {scale : Int}, Canonical bound scale → exact ≤ dyadic bound scale →
    dyadic significand exponent ≤ dyadic bound scale
  ge_of_ge : ∀ {bound : Nat} {scale : Int}, Canonical bound scale → dyadic bound scale ≤ exact →
    dyadic bound scale ≤ dyadic significand exponent
  close : dyadic (2 ^ 52) (-1074) ≤ exact →
    (2 ^ 53 + 1) * |dyadic significand exponent - exact| ≤ exact

/-- A finite number, or zero if its significand is. -/
def ofParts (sign : Sign) (significand : Nat) (exponent : Int) : UnpackedFloat :=
  if zero : significand = 0 then .zero sign
  else .finite sign significand exponent (Nat.pos_of_ne_zero zero)

/-- How many bits are too many, and what is left without them. -/
theorem shift_bounds {significand : Nat} {exponent : Int} (positive : 0 < significand)
    (fine : exponent ≤ Format.binary64.targetExponent (totalExponent significand exponent)) :
    ∃ bits : Nat,
      (Format.binary64.targetExponent (totalExponent significand exponent) - exponent).toNat =
          bits ∧
        -1074 ≤ exponent + bits ∧ significand ≤ 2 ^ 53 * 2 ^ bits ∧
        (2 ^ 52 * 2 ^ bits ≤ significand ∨ exponent + bits = -1074) := by
  rw [targetExponent_eq] at fine ⊢
  obtain ⟨bits, gap⟩ := Int.eq_ofNat_of_zero_le
    (show 0 ≤ max (significand.log2 + exponent - 52) (-1074) - exponent by omega)
  refine ⟨bits, by omega, by omega, ?_, ?_⟩
  · have power : 2 ^ (significand.log2 + 1) ≤ 2 ^ (53 + bits) :=
      Nat.pow_le_pow_right two_pos (by omega)
    rw [← Nat.pow_add]
    exact Nat.le_trans (Nat.le_of_lt Nat.lt_log2_self) power
  · rcases Int.lt_or_le (-1074) (exponent + bits) with normal | subnormal
    · left
      have power : 52 + bits = significand.log2 := by omega
      rw [← Nat.pow_add, power]
      exact Nat.log2_self_le positive.ne'
    · right
      omega

/-- An exact number whose bits reach far enough is rounded to a canonical one. -/
theorem roundWithAccuracy_eq (sign : Sign) {significand : Nat} {exponent : Int}
    (positive : 0 < significand)
    (fine : exponent ≤ Format.binary64.targetExponent (totalExponent significand exponent)) :
    ∃ rounded scale,
      roundWithAccuracy Format.binary64 sign significand exponent .exact =
          ofParts sign rounded scale ∧
        RoundsTo (dyadic significand exponent) rounded scale := by
  obtain ⟨bits, shift, least, fits, normal⟩ := shift_bounds positive fine
  let rounded :=
    ((ExtendedMantissa.ofMantissaAndAccuracy significand .exact) >>> bits).roundedMantissa
  have nearest : Nearest significand (2 ^ bits) rounded :=
    roundedMantissa_nearest significand bits
  have below : rounded ≤ 2 ^ 53 := nearest.le_of_le (Nat.two_pow_pos bits) fits
  have kept : 2 ^ 52 ≤ rounded ∨ exponent + bits = -1074 :=
    normal.imp_left (nearest.ge_of_ge (Nat.two_pow_pos bits))
  obtain ⟨canonical, same⟩ := shiftToTargetExponent_eq below least kept
  refine ⟨_, _, ?_, canonical, ?_, ?_, ?_⟩
  · show roundWithAccuracy Format.binary64 sign significand exponent .exact = _
    rw [roundWithAccuracy, shiftToTargetExponent, shiftToExponent, shift]
    rfl
  · intro bound scale other above
    rw [same]
    exact dyadic_rounded_le nearest normal other above
  · intro bound scale other beyond
    rw [same]
    exact le_dyadic_rounded nearest normal other beyond
  · intro large
    rw [same]
    apply dyadic_rounded_close nearest
    rcases normal with high | subnormal
    · exact high
    · rw [← subnormal, dyadic_add, dyadic_le_dyadic] at large
      exact large

theorem log2_mul_two_pow {significand : Nat} (positive : 0 < significand) (bits : Nat) :
    (significand * 2 ^ bits).log2 = significand.log2 + bits := by
  have shifted : significand * 2 ^ bits ≠ 0 :=
    (Nat.mul_pos positive (Nat.two_pow_pos bits)).ne'
  rw [Nat.log2_eq_iff shifted]
  constructor
  · rw [Nat.pow_add]
    exact Nat.mul_le_mul_right _ (Nat.log2_self_le positive.ne')
  · have next : significand.log2 + bits + 1 = significand.log2 + 1 + bits := by omega
    rw [next, Nat.pow_add]
    exact Nat.mul_lt_mul_of_pos_right Nat.lt_log2_self (Nat.two_pow_pos bits)

/-- Any exact number is rounded to a canonical one. -/
theorem round_eq (sign : Sign) {significand : Nat} (positive : 0 < significand) (exponent : Int) :
    ∃ rounded scale,
      round Format.binary64 sign significand exponent = ofParts sign rounded scale ∧
        RoundsTo (dyadic significand exponent) rounded scale := by
  let bits :=
    (exponent - Format.binary64.targetExponent (totalExponent significand exponent)).toNat
  have longer : 0 < significand * 2 ^ bits := Nat.mul_pos positive (Nat.two_pow_pos bits)
  have fine : exponent - bits ≤
      Format.binary64.targetExponent (totalExponent (significand * 2 ^ bits) (exponent - bits)) := by
    have enough : exponent - bits ≤
        Format.binary64.targetExponent (totalExponent significand exponent) := by omega
    rw [targetExponent_eq] at enough
    rw [targetExponent_eq, log2_mul_two_pow positive]
    omega
  have same : dyadic (significand * 2 ^ bits) (exponent - bits) = dyadic significand exponent := by
    rw [← dyadic_add, Int.sub_add_cancel]
  obtain ⟨rounded, scale, equal, rounds⟩ := roundWithAccuracy_eq sign longer fine
  rw [same] at rounds
  refine ⟨rounded, scale, ?_, rounds⟩
  rw [← equal, ← Nat.shiftLeft_eq]
  rfl

end RowStream.Binary64
