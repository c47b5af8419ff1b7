import RowStream.Proofs.Binary64.Bits
import RowStream.Proofs.Binary64.Scientific
import RowStream.Proofs.Json.Numerals

/-!
Contract: floats are read back.

Owns: `Decimal.value`, the number that a decimal stands for.

Main statements: `Decimal.toFloat_eq`, a decimal is read as the float nearest to it, so that
decimals of one value are read alike; `Decimal.toFloat_shortest`; `Numeral.isNaN_toFloat`, whatever
numeral is read is a number; `Json.float_eq`, a finite float is stated by a numeral that is read as
this float.
-/

namespace RowStream

open Binary64
open Float.Model (UnpackedFloat)
open Float.Model.UnpackedFloat

namespace Decimal

def value (decimal : Decimal) : ℚ := decimal.digits * 10 ^ decimal.exponent

/-- A decimal is read as the float nearest to it. -/
theorem toFloat_eq (decimal : Decimal) : decimal.toFloat = nearest decimal.value := by
  obtain ⟨digits, exponent⟩ := decimal
  simp only [toFloat, value, ofScientific_eq]
  split
  · next natural =>
      obtain ⟨count, rfl⟩ := Int.eq_ofNat_of_zero_le natural
      rw [scientific, if_neg Bool.false_ne_true, zpow_natCast, Int.toNat_natCast]
  · next negative =>
      obtain ⟨count, same⟩ := Int.eq_ofNat_of_zero_le (show 0 ≤ -exponent by omega)
      have negated : exponent = -(count : Int) := by omega
      rw [scientific, if_pos rfl, same, negated, zpow_neg, zpow_natCast, Int.toNat_natCast,
        div_eq_mul_inv]

/-- Zeros at the end of the digits stand for nothing but a power of ten. -/
theorem value_of_zeros {found trimmed : Decimal} {zeros : Nat}
    (digits : found.digits = trimmed.digits * 10 ^ zeros)
    (exponent : trimmed.exponent = found.exponent + zeros) : trimmed.value = found.value := by
  rw [value, value, digits, exponent, zpow_add₀ (by norm_num), zpow_natCast]
  push_cast
  ring

variable {number : Float} {significand : Nat} {exponent : Int} {positive : 0 < significand}

/-- The ratio of a finite number is where it stands. -/
theorem magnitudeRatio_eq
    (unpacked : number.toModel.unpack = .finite .positive significand exponent positive) :
    ∃ places : Nat, (magnitudeRatio number).2 = 2 ^ places ∧
      dyadic significand exponent = (magnitudeRatio number).1 / 2 ^ places := by
  obtain ⟨significands, exponents⟩ := fields_of_finite unpacked
  have ratio : magnitudeRatio number =
      if 1075 ≤ max ((number.toBits.toNat >>> 52) % 2 ^ 11) 1 then
        (significand <<< (max ((number.toBits.toNat >>> 52) % 2 ^ 11) 1 - 1075), 1)
      else (significand, 1 <<< (1075 - max ((number.toBits.toNat >>> 52) % 2 ^ 11) 1)) := by
    rw [significands]
    rfl
  generalize max ((number.toBits.toNat >>> 52) % 2 ^ 11) 1 = power at exponents ratio
  rw [ratio]
  split
  · next large =>
      obtain ⟨bits, rfl⟩ := Nat.exists_eq_add_of_le large
      have natural : exponent = (bits : Int) := by omega
      refine ⟨0, rfl, ?_⟩
      rw [natural, dyadic, Nat.add_sub_cancel_left, Nat.shiftLeft_eq, pow_zero, div_one,
        zpow_natCast]
      push_cast
      rfl
  · next small =>
      refine ⟨1075 - power, Nat.one_shiftLeft _, ?_⟩
      have negated : exponent = -((1075 - power : Nat) : Int) := by omega
      rw [negated, dyadic, zpow_neg, zpow_natCast, div_eq_mul_inv]

/-- All digits of a number stand for it. -/
theorem value_exact
    (unpacked : number.toModel.unpack = .finite .positive significand exponent positive) :
    (exact number).value = dyadic significand exponent := by
  obtain ⟨places, denominator, ratio⟩ := magnitudeRatio_eq unpacked
  have tens : (10 : ℚ) ^ places = 2 ^ places * 5 ^ places := by
    rw [← mul_pow]
    norm_num
  rw [exact, value, ratio]
  simp only [denominator, Nat.log2_two_pow, zpow_neg, zpow_natCast, tens, Nat.pow_eq]
  push_cast
  field_simp

theorem toBits_injective {left right : Float} (same : left.toBits = right.toBits) :
    left = right := by
  obtain ⟨⟨bits, _⟩⟩ := left
  obtain ⟨⟨others, _⟩⟩ := right
  obtain rfl : bits = others := same
  rfl

/-- The shortest decimal of a positive finite number is read as this number, and has no zeros at
its end. -/
theorem toFloat_shortest (tie : Tie)
    (unpacked : number.toModel.unpack = .finite .positive significand exponent positive)
    (canonical : Canonical significand exponent) :
    (shortest tie number).toFloat = number ∧ (shortest tie number).digits % 10 ≠ 0 := by
  have itself : nearest (dyadic significand exponent) = number := by
    rw [nearest, rounded_dyadic positive canonical, ← unpacked, ofModel_pack_unpack]
  obtain ⟨found, zeros, origin, digits, power, trimmed⟩ := shortest_spec tie number
  have read : found.toFloat = number := by
    rcases origin with ⟨_, hit⟩ | rfl
    · exact toBits_injective (toFloat_gridPoint? hit)
    · rw [toFloat_eq, value_exact unpacked, itself]
  have same : (shortest tie number).toFloat = number := by
    rw [toFloat_eq, value_of_zeros digits power, ← toFloat_eq, read]
  refine ⟨same, trimmed ?_⟩
  intro zero
  have nothing : found.toFloat.toModel.unpack = .zero .positive := by
    rw [toFloat_eq, value, zero, Nat.cast_zero, zero_mul, nearest_zero]
    exact unpack_ofModel_pack trivial
  rw [read, unpacked] at nothing
  cases nothing

end Decimal

/-! ### What is read is a number -/

theorem Decimal.value_nonneg (decimal : Decimal) : 0 ≤ decimal.value :=
  mul_nonneg (Nat.cast_nonneg _) (zpow_pos (by norm_num) _).le

theorem isNaN_neg {number : Float} (ordered : number.isNaN = false) :
    (-number).isNaN = false := by
  have within := formed number
  have negated : -number = Float.ofModel (Float.Model.pack number.toModel.unpack.neg) := rfl
  rw [isNaN_eq] at ordered
  rw [negated]
  cases unpacked : number.toModel.unpack with
  | notANumber =>
      rw [unpacked] at ordered
      cases ordered
  | finite sign significand exponent positive =>
      rw [unpacked] at within
      exact isNaN_pack within rfl
  | infinity sign => exact isNaN_pack trivial rfl
  | zero sign => exact isNaN_pack trivial rfl

/-- However large or small, a numeral is read as a number. -/
theorem Numeral.isNaN_toFloat (numeral : Numeral) : numeral.toFloat.isNaN = false := by
  cases numeral with
  | integer value =>
      rw [toFloat]
      split
      · exact (rounds_ofNat _).ordered
      · exact isNaN_neg (rounds_ofNat _).ordered
  | decimal negative magnitude =>
      have ordered : magnitude.toFloat.isNaN = false := by
        rw [Decimal.toFloat_eq]
        exact isNaN_nearest magnitude.value_nonneg
      rw [toFloat]
      split
      · exact isNaN_neg ordered
      · exact ordered

theorem isFinite_iff_isNaN_isInf {number : Float} :
    number.isFinite = true ↔ number.isNaN = false ∧ number.isInf = false := by
  have bounded : number.isInf = number.toModel.unpack.isInf := rfl
  rw [isFinite_eq, isNaN_eq, bounded]
  cases number.toModel.unpack <;> simp [UnpackedFloat.isFinite, isNaN, isInf]

namespace Json

/-- The first bit decides the sign. -/
theorem hasSign_of_isNegative {number : Float} (ordered : number.isNaN = false) :
    HasSign (if Decimal.isNegative number then .negative else .positive) number.toModel.unpack := by
  have sign := hasSign ordered
  have bit : Decimal.isNegative number = (unpackSign (bitsOf number) == 1#1) := by
    have first := toNat_unpackSign number
    rw [Decimal.isNegative, Bool.eq_iff_iff, beq_iff_eq, beq_iff_eq, ← UInt64.toNat_inj,
      ← BitVec.toNat_inj, UInt64.toNat_shiftRight, first, Nat.shiftRight_eq_div_pow]
    rfl
  rw [bit]
  generalize unpackSign (bitsOf number) = state at sign ⊢
  have bits : ∀ bit : BitVec 1, bit = 0#1 ∨ bit = 1#1 := by decide
  rcases bits state with rfl | rfl
  · exact sign
  · exact sign

/-- Sign and magnitude make up a number. -/
theorem toFloat_decimal {number : Float} (ordered : number.isNaN = false) {magnitude : Decimal}
    (read : magnitude.toFloat = number.abs) :
    (Numeral.decimal (Decimal.isNegative number) magnitude).toFloat = number := by
  have sign := hasSign_of_isNegative ordered
  rw [Numeral.toFloat, read]
  split
  · next negative =>
      rw [if_pos negative] at sign
      exact neg_abs_eq sign
  · next positive =>
      rw [if_neg positive] at sign
      exact abs_eq sign

theorem beq_zero (number : Float) :
    (number == 0.0) = number.toModel.unpack.beq (.zero .positive) := rfl

/-- A finite number is stated by a numeral that is read as this number: a zero keeps its sign, and
everything else is its sign and the shortest decimal of its magnitude. -/
theorem float_eq {number : Float} (finite : number.isFinite = true) :
    ∃ numeral : Numeral, float number = .number numeral ∧ numeral.Canonical ∧
      numeral.toFloat = number := by
  have ordered := isNaN_of_isFinite finite
  have magnitude := unpack_abs number
  have within := formed number
  have stated : float number =
      if number.isNaN || number.isInf then .null
      else if number == 0.0 then .number (.decimal (Decimal.isNegative number) ⟨0, 0⟩)
      else .number (.decimal (Decimal.isNegative number)
        (Decimal.shortest FloatLayout.json.tie number.abs)) := rfl
  have bounded : number.isInf = number.toModel.unpack.isInf := rfl
  rw [beq_zero, ordered, bounded, Bool.false_or] at stated
  rw [isFinite_eq] at finite
  cases unpacked : number.toModel.unpack with
  | notANumber =>
      rw [unpacked] at finite
      cases finite
  | infinity sign =>
      rw [unpacked] at finite
      cases finite
  | zero sign =>
      rw [unpacked] at stated magnitude
      refine ⟨_, stated, Or.inl rfl, toFloat_decimal ordered ?_⟩
      have nothing : (⟨0, 0⟩ : Decimal).value = 0 := by
        rw [Decimal.value, Nat.cast_zero, zero_mul]
      rw [Decimal.toFloat_eq, nothing, nearest_zero, ← ofModel_pack_unpack number.abs, magnitude]
      rfl
  | finite sign significand exponent positive =>
      rw [unpacked] at stated magnitude within
      obtain ⟨read, trimmed⟩ :=
        Decimal.toFloat_shortest FloatLayout.json.tie magnitude within.1
      refine ⟨.decimal (Decimal.isNegative number) _, stated.trans ?_, Or.inr trimmed,
        toFloat_decimal ordered read⟩
      cases sign <;> rfl

end Json

end RowStream
