import RowStream.Proofs.Binary64.Order

/-!
Contract: floats that exact numbers are rounded to.

Owns:
- `Binary64.Representable`, the numbers that need no rounding;
- `Binary64.Rounds`, what callers know of a rounded float.

Main statement: `Binary64.rounds_pack`. A rounded float is on the same side of everything
representable as the exact number, `Binary64.Rounds.le_of_le` and `Binary64.Rounds.ge_of_ge`.
-/

namespace RowStream.Binary64

open Float.Model (UnpackedFloat)
open Float.Model.UnpackedFloat

/-! ### What needs no rounding -/

/-- A number with a canonical significand and exponent, however large. -/
def Representable (exact : ℚ) : Prop :=
  ∃ significand exponent, Canonical significand exponent ∧ dyadic significand exponent = exact

theorem representable_zero : Representable 0 :=
  ⟨0, -1074, ⟨by decide, by decide, Or.inr rfl⟩, dyadic_zero_left (-1074)⟩

theorem representable_limit : Representable limit :=
  ⟨2 ^ 52, 972, canonical_two_pow (by decide), rfl⟩

theorem Representable.min_limit {exact : ℚ} (representable : Representable exact) :
    Representable (min exact limit) := by
  rcases le_total exact limit with inside | beyond
  · rw [min_eq_left inside]
    exact representable
  · rw [min_eq_right beyond]
    exact representable_limit

/-- Leading zeros are shifted out as far as the exponent allows. -/
theorem representable_dyadic {significand : Nat} {exponent : Int} (few : significand < 2 ^ 53)
    (least : -1074 ≤ exponent) : Representable (dyadic significand exponent) := by
  rcases Nat.eq_zero_or_pos significand with zero | positive
  · rw [zero, dyadic_zero_left]
    exact representable_zero
  · let bits := min (52 - significand.log2) (exponent + 1074).toNat
    have low : 2 ^ significand.log2 ≤ significand := Nat.log2_self_le positive.ne'
    have high : significand < 2 ^ (significand.log2 + 1) := Nat.lt_log2_self
    have length : significand.log2 < 53 := (Nat.log2_lt positive.ne').mpr few
    have below : significand * 2 ^ bits < 2 ^ 53 :=
      calc significand * 2 ^ bits
          < 2 ^ (significand.log2 + 1) * 2 ^ bits :=
            Nat.mul_lt_mul_of_pos_right high (Nat.two_pow_pos bits)
        _ = 2 ^ (significand.log2 + 1 + bits) := (Nat.pow_add 2 _ _).symm
        _ ≤ 2 ^ 53 := Nat.pow_le_pow_right two_pos (by omega)
    refine ⟨significand * 2 ^ bits, exponent - bits, ⟨below, by omega, ?_⟩, ?_⟩
    · rcases Nat.le_total (52 - significand.log2) (exponent + 1074).toNat with normal | subnormal
      · left
        have all : 52 = significand.log2 + bits := by omega
        calc 2 ^ 52
            = 2 ^ significand.log2 * 2 ^ bits := by rw [← Nat.pow_add, ← all]
          _ ≤ significand * 2 ^ bits := Nat.mul_le_mul_right _ low
      · right
        omega
    · rw [← dyadic_add, Int.sub_add_cancel]

/-- Whole numbers up to the length of the significand have a float each. -/
theorem representable_natCast {number : Nat} (few : number ≤ 2 ^ 53) : Representable number := by
  rcases Nat.lt_or_eq_of_le few with less | equal
  · rw [← dyadic_zero]
    exact representable_dyadic less (by decide)
  · have carried : ((2 ^ 53 : Nat) : ℚ) = dyadic (2 ^ 52) 1 := by
      rw [← dyadic_zero]
      exact (dyadic_add (2 ^ 52) 0 1).symm
    rw [equal, carried]
    exact representable_dyadic (by decide) (by decide)

theorem representable_two_pow (exponent : Nat) : Representable (2 ^ exponent) := by
  have single : (2 : ℚ) ^ exponent = dyadic 1 exponent := by
    rw [dyadic, zpow_natCast, Nat.cast_one, one_mul]
  rw [single]
  exact representable_dyadic (by decide) (by omega)

theorem representable_placeOf {number : Float} (ordered : number.isNaN = false)
    (nonneg : 0 ≤ placeOf number) : Representable (placeOf number) := by
  rw [placeOf]
  rcases unpack_of_nonneg ordered nonneg with
    ⟨sign, unpacked⟩ | unpacked | ⟨significand, exponent, positive, unpacked, canonical, _⟩
  · rw [unpacked]
    exact representable_zero
  · rw [unpacked]
    exact representable_limit
  · rw [unpacked]
    exact ⟨significand, exponent, canonical, rfl⟩

/-! ### Rounded floats -/

/-- What needs no rounding is not rounded. -/
theorem RoundsTo.dyadic_eq {exact : ℚ} {significand : Nat} {exponent : Int}
    (roundsTo : RoundsTo exact significand exponent) (representable : Representable exact) :
    dyadic significand exponent = exact := by
  obtain ⟨kept, scale, canonical, equal⟩ := representable
  rw [← equal]
  apply le_antisymm
  · exact roundsTo.le_of_le canonical equal.ge
  · exact roundsTo.ge_of_ge canonical equal.le

/-- A float that an exact number is rounded to. What is too large is infinite. -/
structure Rounds (exact : ℚ) (number : Float) : Prop where
  ordered : number.isNaN = false
  rounded : ∃ significand exponent, RoundsTo exact significand exponent ∧
    placeOf number = min (dyadic significand exponent) limit

section Rounds

variable {exact bound : ℚ} {number : Float}

/-- Rounding does not cross a number that the format holds. -/
theorem Rounds.le_of_le (rounds : Rounds exact number) (representable : Representable bound)
    (below : exact ≤ bound) : placeOf number ≤ bound := by
  obtain ⟨significand, exponent, roundsTo, same⟩ := rounds.rounded
  obtain ⟨most, scale, canonical, rfl⟩ := representable
  rw [same]
  exact (min_le_left _ _).trans (roundsTo.le_of_le canonical below)

theorem Rounds.ge_of_ge (rounds : Rounds exact number) (representable : Representable bound)
    (inside : bound ≤ limit) (above : bound ≤ exact) : bound ≤ placeOf number := by
  obtain ⟨significand, exponent, roundsTo, same⟩ := rounds.rounded
  obtain ⟨least, scale, canonical, rfl⟩ := representable
  rw [same]
  exact le_min (roundsTo.ge_of_ge canonical above) inside

theorem Rounds.placeOf_eq_min (rounds : Rounds exact number) (representable : Representable exact) :
    placeOf number = min exact limit := by
  obtain ⟨significand, exponent, roundsTo, same⟩ := rounds.rounded
  rw [same, roundsTo.dyadic_eq representable]

/-- A number that the format holds is not rounded at all. -/
theorem Rounds.placeOf_eq (rounds : Rounds exact number) (representable : Representable exact)
    (inside : exact ≤ limit) : placeOf number = exact := by
  rw [rounds.placeOf_eq_min representable, min_eq_left inside]

end Rounds

theorem roundsTo_zero : RoundsTo 0 0 (-1074) := by
  refine ⟨⟨by decide, by decide, Or.inr rfl⟩, ?_, ?_, ?_⟩
  · intro bound scale canonical below
    rw [dyadic_zero_left]
    exact below
  · intro bound scale canonical below
    rw [dyadic_zero_left]
    exact below
  · intro large
    exact absurd large (not_le.mpr (dyadic_pos (by decide) _))

theorem RoundsTo.rounds {exact : ℚ} {significand : Nat} {exponent : Int} {number : Float}
    {value : UnpackedFloat} (roundsTo : RoundsTo exact significand exponent)
    (unpacked : number.toModel.unpack = value) (ordered : value.isNaN = false)
    (same : place value = min (dyadic significand exponent) limit) : Rounds exact number := by
  rw [← unpacked] at ordered same
  exact ⟨ordered, significand, exponent, roundsTo, same⟩

theorem rounds_of_zero {exact : ℚ} {significand : Nat} {exponent : Int} {number : Float}
    {sign : Sign} (roundsTo : RoundsTo exact significand exponent) (zero : significand = 0)
    (unpacked : number.toModel.unpack = .zero sign) : Rounds exact number := by
  apply roundsTo.rounds unpacked rfl
  rw [place, zero, dyadic_zero_left, min_eq_left limit_pos.le]

theorem unpack_ofModel_pack {number : UnpackedFloat} (within : Formed number) :
    (Float.ofModel (Float.Model.pack number)).toModel.unpack = number :=
  unpack_pack within

theorem limit_le_dyadic {significand : Nat} {exponent : Int} (high : 2 ^ 52 ≤ significand)
    (large : 971 < exponent) : limit ≤ dyadic significand exponent := by
  rcases Int.lt_or_eq_of_le (show 972 ≤ exponent by omega) with beyond | least
  · have least : Canonical (2 ^ 52) 972 := canonical_two_pow (by decide)
    exact (least.dyadic_lt beyond).le.trans (dyadic_le_dyadic.mpr high)
  · rw [← least]
    exact dyadic_le_dyadic.mpr high

/-- What is rounded is written into bits, or is infinite because they cannot hold it. -/
theorem rounds_pack {exact : ℚ} {significand : Nat} {exponent : Int}
    (roundsTo : RoundsTo exact significand exponent) :
    Rounds exact (Float.ofModel (Float.Model.pack (ofParts .positive significand exponent))) := by
  have canonical := roundsTo.canonical
  rw [ofParts]
  split
  · next zero => exact rounds_of_zero roundsTo zero (unpack_ofModel_pack trivial)
  · next some =>
      have positive := Nat.pos_of_ne_zero some
      rcases Int.lt_or_le 971 exponent with large | small
      · have unpacked : (Float.ofModel (Float.Model.pack
            (.finite .positive significand exponent positive))).toModel.unpack =
              .infinity .positive := unpack_pack_of_large .positive positive large
        have high : 2 ^ 52 ≤ significand := canonical.normal.resolve_right (by omega)
        apply roundsTo.rounds unpacked rfl
        exact (min_eq_right (limit_le_dyadic high large)).symm
      · have unpacked : (Float.ofModel (Float.Model.pack
            (.finite .positive significand exponent positive))).toModel.unpack =
              .finite .positive significand exponent positive :=
          unpack_ofModel_pack ⟨canonical, small⟩
        apply roundsTo.rounds unpacked rfl
        exact (min_eq_left (dyadic_lt_limit canonical small).le).symm

end RowStream.Binary64
