import Mathlib
import RowStream.Proofs.Binary64.Rounding

/-!
Contract: floating-point numbers in 64 bits.

Owns:
- `Binary64.Formed`, what 64 bits can hold.

Main statements: `Binary64.formed_unpack`, all that is read from bits is formed;
`Binary64.unpack_pack`, what is formed is not changed by them; `Binary64.unpack_pack_of_large`,
what is too large for them becomes infinite.
-/

namespace RowStream.Binary64

open Float.Model (Format UnpackedFloat)
open Float.Model.UnpackedFloat

/-- What 64 bits can hold. -/
def Formed : UnpackedFloat → Prop
  | .finite _ significand exponent _ => Canonical significand exponent ∧ exponent ≤ 971
  | _ => True

/-! ### Reading bits -/

theorem toNat_one_append (fraction : BitVec 52) :
    (1#1 ++ fraction).toNat = 2 ^ 52 + fraction.toNat := by
  have below := fraction.isLt
  rw [BitVec.toNat_append, ← Nat.shiftLeft_add_eq_or_of_lt below]
  rfl

theorem formed_unpack (bits : BitVec Format.binary64.numBits) :
    Formed (unpack Format.binary64 bits) := by
  have fraction : (unpackMantissa bits).toNat < 2 ^ 52 := (unpackMantissa bits).isLt
  have biased : (unpackExponent bits).toNat < 2 ^ 11 := (unpackExponent bits).isLt
  unfold unpack
  by_cases full : unpackExponent bits = -1#_
  · simp only [full, if_true]
    split
    · trivial
    · trivial
  · rw [if_neg full]
    by_cases empty : unpackExponent bits = 0#_
    · rw [if_pos empty]
      split
      · trivial
      · rw [empty]
        exact ⟨⟨by omega, by decide, Or.inr (by decide)⟩, by decide⟩
    · have notFull : (unpackExponent bits).toNat ≠ 2047 := fun same =>
        full (BitVec.eq_of_toNat_eq same)
      have notEmpty : (unpackExponent bits).toNat ≠ 0 := fun same =>
        empty (BitVec.eq_of_toNat_eq same)
      have whole := toNat_one_append (unpackMantissa bits)
      have bias : (Format.binary64.exponentBias : Int) +
          Format.binary64.mantissaBitsWithoutImplicit = 1075 := by decide
      rw [if_neg empty]
      refine ⟨⟨?_, ?_, Or.inl ?_⟩, ?_⟩
      · show (1#1 ++ unpackMantissa bits).toNat < _
        omega
      · omega
      · omega
      · omega

private theorem finite_congr {sign : Sign} {left right : Nat} {exponent scale : Int}
    {positive : 0 < left} (significands : left = right) (exponents : exponent = scale) :
    UnpackedFloat.finite sign left exponent positive =
      .finite sign right scale (significands ▸ positive) := by
  subst significands
  subst exponents
  rfl

theorem unpack_normal (sign : Sign) {biased : BitVec 11} (fraction : BitVec 52)
    (notFull : biased ≠ 2047#11) (notEmpty : biased ≠ 0#11) :
    unpack Format.binary64 (packComponents Format.binary64 sign biased fraction) =
      .finite sign (2 ^ 52 + fraction.toNat) (biased.toNat - 1075) (by omega) := by
  have finite : ¬ biased = -1#11 := notFull
  rw [unpack]
  simp only [unpackMantissa_packComponents, unpackExponent_packComponents,
    unpackSign_packComponents, Sign.ofBitVec_toBitVec, if_neg finite, if_neg notEmpty]
  apply finite_congr
  · exact toNat_one_append fraction
  · rfl

theorem unpack_subnormal (sign : Sign) {fraction : BitVec 52} (some : 0 < fraction.toNat) :
    unpack Format.binary64 (packComponents Format.binary64 sign 0#11 fraction) =
      .finite sign fraction.toNat (-1074) some := by
  have notZero : ¬ fraction = 0#52 := by
    intro none
    rw [none] at some
    exact absurd some (by decide)
  rw [unpack]
  simp only [unpackMantissa_packComponents, unpackExponent_packComponents,
    unpackSign_packComponents, Sign.ofBitVec_toBitVec, if_true, dif_neg notZero]
  rfl

/-! ### Writing bits -/

section Finite

variable (sign : Sign) {significand : Nat} {exponent : Int} (positive : 0 < significand)

private theorem biased_eq (exponent : Int) :
    exponent + (Format.binary64.exponentBias : Int) + (52 : Nat) = exponent + 1075 := by
  show exponent + 1023 + 52 = _
  omega

theorem pack_normal (small : exponent ≤ 971) (bits : significand.log2 = 52) :
    pack Format.binary64 (.finite sign significand exponent positive) =
      packComponents Format.binary64 sign (BitVec.ofNat 11 (exponent + 1075).toNat)
        (BitVec.ofNat 52 significand) := by
  have inside : ¬ 2 ^ 11 ≤ (exponent + 1075).toNat + 1 := by omega
  have all : significand.log2 + 1 = Format.binary64.mantissaBits := by
    rw [bits]
    rfl
  simp only [pack, biased_eq, if_neg inside, if_pos all]

theorem pack_subnormal (small : exponent ≤ 971) (bits : significand.log2 < 52) :
    pack Format.binary64 (.finite sign significand exponent positive) =
      packComponents Format.binary64 sign 0#11 (BitVec.ofNat 52 significand) := by
  have inside : ¬ 2 ^ 11 ≤ (exponent + 1075).toNat + 1 := by omega
  have few : ¬ significand.log2 + 1 = Format.binary64.mantissaBits := by
    show ¬ significand.log2 + 1 = 53
    omega
  simp only [pack, biased_eq, if_neg inside, if_neg few]

theorem pack_of_large (large : 971 < exponent) :
    pack Format.binary64 (.finite sign significand exponent positive) =
      pack Format.binary64 (.infinity sign) := by
  have beyond : 2 ^ 11 ≤ (exponent + 1075).toNat + 1 := by omega
  simp only [pack, biased_eq, if_pos beyond]

theorem unpack_pack_of_large (large : 971 < exponent) :
    unpack Format.binary64 (pack Format.binary64 (.finite sign significand exponent positive)) =
      .infinity sign := by
  rw [pack_of_large sign positive large]
  cases sign with
  | positive => rfl
  | negative => rfl

theorem unpack_pack_finite (canonical : Canonical significand exponent)
    (small : exponent ≤ 971) :
    unpack Format.binary64 (pack Format.binary64 (.finite sign significand exponent positive)) =
      .finite sign significand exponent positive := by
  have below := canonical.below
  have least := canonical.least
  rcases Nat.lt_or_ge significand (2 ^ 52) with few | full
  · have bits : significand.log2 < 52 := (Nat.log2_lt positive.ne').mpr few
    have fraction : (BitVec.ofNat 52 significand).toNat = significand := by
      rw [BitVec.toNat_ofNat]
      exact Nat.mod_eq_of_lt few
    have lowest : -1074 = exponent :=
      (canonical.normal.resolve_left (Nat.not_le_of_lt few)).symm
    rw [pack_subnormal sign positive small bits]
    exact (unpack_subnormal sign (positive.trans_eq fraction.symm)).trans
      (finite_congr fraction lowest)
  · have bits : significand.log2 = 52 := (Nat.log2_eq_iff positive.ne').mpr ⟨full, below⟩
    have fraction : 2 ^ 52 + (BitVec.ofNat 52 significand).toNat = significand := by
      rw [BitVec.toNat_ofNat]
      omega
    have biased : (BitVec.ofNat 11 (exponent + 1075).toNat).toNat = (exponent + 1075).toNat := by
      rw [BitVec.toNat_ofNat]
      omega
    have notFull : BitVec.ofNat 11 (exponent + 1075).toNat ≠ 2047#11 := by
      intro same
      rw [same] at biased
      have full : (2047#11).toNat = 2047 := rfl
      omega
    have notEmpty : BitVec.ofNat 11 (exponent + 1075).toNat ≠ 0#11 := by
      intro same
      rw [same] at biased
      have empty : (0#11).toNat = 0 := rfl
      omega
    have exponents : ((BitVec.ofNat 11 (exponent + 1075).toNat).toNat : Int) - 1075 =
        exponent := by
      omega
    rw [pack_normal sign positive small bits]
    exact (unpack_normal sign _ notFull notEmpty).trans (finite_congr fraction exponents)

end Finite

/-- Packing loses nothing of a number that has the form of the format. -/
theorem unpack_pack {number : UnpackedFloat} (formed : Formed number) :
    unpack Format.binary64 (pack Format.binary64 number) = number := by
  cases number with
  | notANumber => rfl
  | infinity sign => cases sign with
    | positive => rfl
    | negative => rfl
  | zero sign => cases sign with
    | positive => rfl
    | negative => rfl
  | finite sign significand exponent positive =>
      exact unpack_pack_finite sign positive formed.1 formed.2

end RowStream.Binary64
