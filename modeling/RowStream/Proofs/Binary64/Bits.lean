import RowStream.Proofs.Binary64.Rounded

/-!
Contract: the bits of floats.

Main statements: `Binary64.ofModel_pack_unpack`, a float is put together again from what is read
from its bits; `Binary64.neg_abs_eq` and `Binary64.abs_eq`, sign and magnitude make up a float;
`Binary64.fields_of_finite`, its significand and exponent in terms of its bits.
-/

namespace RowStream.Binary64

open Float.Model (Format UnpackedFloat)
open Float.Model.UnpackedFloat

/-! ### Putting bits together -/

theorem toBitVec_ofBitVec (bit : BitVec 1) : (Sign.ofBitVec bit).toBitVec = bit := by
  revert bit
  decide

/-- A word is put together again from its three fields. -/
theorem packComponents_unpack (bits : BitVec Format.binary64.numBits) :
    packComponents Format.binary64 (Sign.ofBitVec (unpackSign bits)) (unpackExponent bits)
      (unpackMantissa bits) = bits := by
  rw [packComponents, toBitVec_ofBitVec]
  simp only [unpackSign, unpackExponent, unpackMantissa, BitVec.extractLsb]
  ext place within
  grind

theorem ofNat_eq_of_mod {width number : Nat} {bits : BitVec width}
    (same : number % 2 ^ width = bits.toNat) : BitVec.ofNat width number = bits :=
  BitVec.eq_of_toNat_eq (by rw [BitVec.toNat_ofNat, same])

section Fields

variable (sign : Sign) {biased : BitVec 11} {fraction : BitVec 52} {exponent : Int}

/-- A significand without its leading bit is written as it is read. -/
theorem pack_of_fraction (some : 0 < fraction.toNat) (small : exponent ≤ 971) :
    pack Format.binary64 (.finite sign fraction.toNat exponent some) =
      packComponents Format.binary64 sign 0#11 fraction := by
  have short : fraction.toNat.log2 < 52 := (Nat.log2_lt some.ne').mpr fraction.isLt
  rw [pack_subnormal _ _ small short, ofNat_eq_of_mod (Nat.mod_eq_of_lt fraction.isLt)]

/-- So is a significand whose leading bit is not written. -/
theorem pack_of_biased (positive : 0 < (1#1 ++ fraction).toNat) (notFull : biased ≠ 2047#11)
    (reached : exponent = biased.toNat - 1075) :
    pack Format.binary64 (.finite sign (1#1 ++ fraction).toNat exponent positive) =
      packComponents Format.binary64 sign biased fraction := by
  have below : biased.toNat < 2 ^ 11 := biased.isLt
  have notLast : biased.toNat ≠ 2047 := fun same => notFull (BitVec.eq_of_toNat_eq same)
  have significand := toNat_one_append fraction
  have short : fraction.toNat < 2 ^ 52 := fraction.isLt
  have length : (1#1 ++ fraction).toNat.log2 = 52 := by
    rw [Nat.log2_eq_iff positive.ne']
    omega
  have field : BitVec.ofNat 11 (exponent + 1075).toNat = biased := ofNat_eq_of_mod (by omega)
  have kept : BitVec.ofNat 52 (1#1 ++ fraction).toNat = fraction := ofNat_eq_of_mod (by omega)
  rw [pack_normal _ _ (by omega) length, field, kept]

end Fields

/-- No two valid words stand for one number. -/
theorem pack_unpack {bits : BitVec Format.binary64.numBits} (valid : Format.binary64.Valid bits) :
    pack Format.binary64 (unpack Format.binary64 bits) = bits := by
  have whole := packComponents_unpack bits
  unfold unpack
  by_cases full : unpackExponent bits = -1#_
  · simp only [full, if_true]
    split
    · next infinite =>
        rw [full, infinite] at whole
        exact whole
    · next notInfinite => exact (valid.eq_packedNaN full notInfinite).symm
  · rw [if_neg full]
    by_cases empty : unpackExponent bits = 0#_
    · rw [if_pos empty]
      rw [empty] at whole
      split
      · next nothing =>
          rw [nothing] at whole
          exact whole
      · next some =>
          rw [pack_of_fraction _ _ (by rw [empty]; decide)]
          exact whole
    · rw [if_neg empty, pack_of_biased _ _ full (by rfl)]
      exact whole

/-- A float is put together again from what is read from its bits. -/
theorem ofModel_pack_unpack (number : Float) :
    Float.ofModel (Float.Model.pack number.toModel.unpack) = number := by
  obtain ⟨⟨bits, valid⟩⟩ := number
  have same : pack Format.binary64 (unpack Format.binary64 bits.toBitVec) = bits.toBitVec :=
    pack_unpack valid
  simp only [Float.Model.pack, Float.Model.unpack, same]

/-! ### Fields of bits -/

def bitsOf (number : Float) : BitVec Format.binary64.numBits := number.toModel.toBits.toBitVec

theorem toNat_bitsOf (number : Float) : (bitsOf number).toNat = number.toBits.toNat := rfl

theorem toNat_unpackExponent (number : Float) :
    (unpackExponent (bitsOf number)).toNat = (number.toBits.toNat >>> 52) % 2 ^ 11 := by
  simp [unpackExponent, BitVec.extractLsb_toNat, toNat_bitsOf]

theorem toNat_unpackMantissa (number : Float) :
    (unpackMantissa (bitsOf number)).toNat = number.toBits.toNat % 2 ^ 52 := by
  simp [unpackMantissa, BitVec.extractLsb_toNat, toNat_bitsOf]

theorem toNat_unpackSign (number : Float) :
    (unpackSign (bitsOf number)).toNat = number.toBits.toNat / 2 ^ 63 := by
  have word : number.toBits.toNat < 2 ^ 64 := number.toBits.toNat_lt
  have shifted : (unpackSign (bitsOf number)).toNat = (number.toBits.toNat >>> 63) % 2 := by
    simp [unpackSign, BitVec.extractLsb_toNat, toNat_bitsOf]
  rw [shifted, Nat.shiftRight_eq_div_pow]
  omega

/-- The sign of a number, infinite ones and zero included. -/
def HasSign (sign : Sign) : UnpackedFloat → Prop
  | .notANumber => False
  | .infinity other => other = sign
  | .zero other => other = sign
  | .finite other _ _ _ => other = sign

/-- The first bit states the sign of all that is a number. -/
theorem hasSign {number : Float} (ordered : number.isNaN = false) :
    HasSign (Sign.ofBitVec (unpackSign (bitsOf number))) number.toModel.unpack := by
  have whole : number.toModel.unpack = unpack Format.binary64 (bitsOf number) := rfl
  rw [isNaN_eq] at ordered
  rw [whole] at ordered ⊢
  generalize bitsOf number = bits at ordered ⊢
  unfold unpack at ordered ⊢
  by_cases full : unpackExponent bits = -1#_
  · simp only [full, if_true] at ordered ⊢
    split at ordered
    · next infinite =>
        rw [if_pos infinite]
        rfl
    · cases ordered
  · rw [if_neg full]
    split
    · split
      · rfl
      · rfl
    · rfl

theorem formed_abs {number : UnpackedFloat} (within : Formed number) : Formed number.abs := by
  cases number with
  | finite sign significand exponent positive => exact within
  | _ => trivial

theorem abs_of_hasSign {number : UnpackedFloat} (sign : HasSign .positive number) :
    number.abs = number := by
  cases number with
  | notANumber => rfl
  | infinity other => rw [show other = .positive from sign]; rfl
  | zero other => rw [show other = .positive from sign]; rfl
  | finite other _ _ _ => rw [show other = .positive from sign]; rfl

theorem neg_abs_of_hasSign {number : UnpackedFloat} (sign : HasSign .negative number) :
    number.abs.neg = number := by
  cases number with
  | notANumber => rfl
  | infinity other => rw [show other = .negative from sign]; rfl
  | zero other => rw [show other = .negative from sign]; rfl
  | finite other _ _ _ => rw [show other = .negative from sign]; rfl

theorem unpack_abs (number : Float) : number.abs.toModel.unpack = number.toModel.unpack.abs :=
  unpack_ofModel_pack (formed_abs (formed number))

theorem abs_eq {number : Float} (sign : HasSign .positive number.toModel.unpack) :
    number.abs = number := by
  have again := ofModel_pack_unpack number
  rwa [← abs_of_hasSign sign] at again

theorem neg_abs_eq {number : Float} (sign : HasSign .negative number.toModel.unpack) :
    -number.abs = number := by
  have negated : -number.abs =
      Float.ofModel (Float.Model.pack number.abs.toModel.unpack.neg) := rfl
  rw [negated, unpack_abs, neg_abs_of_hasSign sign, ofModel_pack_unpack]

/-! ### The place that bits state -/

/-- The significand and the exponent of a finite number in terms of its fields. -/
theorem fields_of_finite {number : Float} {sign : Sign} {significand : Nat} {exponent : Int}
    {positive : 0 < significand}
    (unpacked : number.toModel.unpack = .finite sign significand exponent positive) :
    let field := (number.toBits.toNat >>> 52) % 2 ^ 11
    let fraction := number.toBits.toNat % 2 ^ 52
    significand = (if field = 0 then fraction else 2 ^ 52 + fraction) ∧
      exponent = (max field 1 : Nat) - 1075 := by
  have whole : number.toModel.unpack = unpack Format.binary64 (bitsOf number) := rfl
  rw [whole] at unpacked
  intro field fraction
  have fieldEq : (unpackExponent (bitsOf number)).toNat = field := toNat_unpackExponent number
  have fractionEq : (unpackMantissa (bitsOf number)).toNat = fraction := toNat_unpackMantissa number
  have bias : (Format.binary64.exponentBias : Int) +
      Format.binary64.mantissaBitsWithoutImplicit = 1075 := by decide
  generalize bitsOf number = bits at unpacked fieldEq fractionEq
  unfold unpack at unpacked
  by_cases full : unpackExponent bits = -1#_
  · simp only [full, if_true] at unpacked
    split at unpacked
    · cases unpacked
    · cases unpacked
  · rw [if_neg full] at unpacked
    by_cases empty : unpackExponent bits = 0#_
    · rw [if_pos empty] at unpacked
      have none : field = 0 := by
        rw [← fieldEq, empty]
        rfl
      split at unpacked
      · cases unpacked
      · injection unpacked with _ significands exponents
        rw [if_pos none, ← significands, ← exponents, fractionEq, empty, none]
        exact ⟨rfl, rfl⟩
    · rw [if_neg empty] at unpacked
      have some : field ≠ 0 := fun none => empty (BitVec.eq_of_toNat_eq (fieldEq.trans none))
      injection unpacked with _ significands exponents
      rw [if_neg some, ← significands, ← exponents, toNat_one_append, fractionEq, fieldEq]
      exact ⟨rfl, by omega⟩

end RowStream.Binary64
