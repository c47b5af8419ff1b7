import RowStream.Proofs.Binary64.Rounded

/-!
Contract: products of floats and floats of whole numbers.

Main statements: `Binary64.rounds_mul`, a product of finite numbers is the exact one, rounded;
`Binary64.le_placeOf_mul`, which also covers infinite factors; `Binary64.rounds_toFloat` and
`Binary64.rounds_ofNat`, a whole number is rounded, and `Binary64.Rounds.exists_natCast`, by how
much.
-/

namespace RowStream.Binary64

open Float.Model (Format UnpackedFloat totalExponent)
open Float.Model.UnpackedFloat

/-! ### Products -/

/-- Either factor has 53 bits, or both of them have the least exponent. -/
theorem fine_mul {left right : Nat} {exponent scale : Int} (leftPositive : 0 < left)
    (rightPositive : 0 < right) (leftCanonical : Canonical left exponent)
    (rightCanonical : Canonical right scale) :
    exponent + scale ≤
      Format.binary64.targetExponent (totalExponent (left * right) (exponent + scale)) := by
  have long {factor product : Nat} (high : 2 ^ 52 ≤ factor) (within : factor ≤ product) :
      52 ≤ product.log2 := by
    have some : product ≠ 0 := by omega
    exact (Nat.le_log2 some).mpr (by omega)
  rw [targetExponent_eq]
  rcases leftCanonical.normal with high | leftLeast
  · have bits := long high (Nat.le_mul_of_pos_right left rightPositive)
    omega
  · rcases rightCanonical.normal with high | rightLeast
    · have bits := long high (Nat.le_mul_of_pos_left right leftPositive)
      omega
    · omega

/-- A finite number that is not below zero is zero or has a positive sign. -/
theorem unpack_of_isFinite {number : Float} (finite : number.isFinite = true)
    (nonneg : 0 ≤ placeOf number) :
    (∃ sign, number.toModel.unpack = .zero sign) ∨
      ∃ significand exponent positive,
        number.toModel.unpack = .finite .positive significand exponent positive ∧
          Canonical significand exponent := by
  rcases unpack_of_nonneg (isNaN_of_isFinite finite) nonneg with
    zero | infinite | ⟨significand, exponent, positive, unpacked, canonical, _⟩
  · exact Or.inl zero
  · rw [isFinite_eq, infinite] at finite
    cases finite
  · exact Or.inr ⟨significand, exponent, positive, unpacked, canonical⟩

theorem unpack_mul (left right : Float) :
    left * right = Float.ofModel (Float.Model.pack
      (mul Format.binary64 left.toModel.unpack right.toModel.unpack)) := rfl

/-- Zero times infinity is no number. -/
theorem isNaN_zero_mul {left right : Float} {sign other : Sign}
    (zero : left.toModel.unpack = .zero sign) (infinite : right.toModel.unpack = .infinity other) :
    (left * right).isNaN = true := by
  have neither : mul Format.binary64 (.zero sign) (.infinity other) = .notANumber := rfl
  have kept : (Float.ofModel (Float.Model.pack .notANumber)).toModel.unpack = .notANumber :=
    unpack_ofModel_pack trivial
  rw [isNaN_eq, unpack_mul, zero, infinite, neither, kept]
  rfl

theorem rounds_mul {left right : Float} (leftFinite : left.isFinite = true)
    (rightFinite : right.isFinite = true) (leftNonneg : 0 ≤ placeOf left)
    (rightNonneg : 0 ≤ placeOf right) :
    Rounds (placeOf left * placeOf right) (left * right) := by
  rcases unpack_of_isFinite leftFinite leftNonneg with
    ⟨sign, zero⟩ | ⟨significand, exponent, positive, unpacked, canonical⟩
  · have nothing : placeOf left * placeOf right = 0 := by
      rw [placeOf, zero, place, zero_mul]
    rw [nothing, unpack_mul, zero]
    rcases unpack_of_isFinite rightFinite rightNonneg with
      ⟨other, otherUnpacked⟩ | ⟨other, scale, otherPositive, otherUnpacked, otherCanonical⟩
    · rw [otherUnpacked]
      exact rounds_of_zero roundsTo_zero rfl (unpack_ofModel_pack trivial)
    · rw [otherUnpacked]
      exact rounds_of_zero roundsTo_zero rfl (unpack_ofModel_pack trivial)
  · rcases unpack_of_isFinite rightFinite rightNonneg with
      ⟨sign, zero⟩ | ⟨other, scale, otherPositive, otherUnpacked, otherCanonical⟩
    · have nothing : placeOf left * placeOf right = 0 := by
        rw [mul_comm, placeOf, zero, place, zero_mul]
      rw [nothing, unpack_mul, zero, unpacked]
      exact rounds_of_zero roundsTo_zero rfl (unpack_ofModel_pack trivial)
    · obtain ⟨rounded, target, equal, roundsTo⟩ :=
        roundWithAccuracy_eq .positive (Nat.mul_pos positive otherPositive)
          (fine_mul positive otherPositive canonical otherCanonical)
      have product : left * right =
          Float.ofModel (Float.Model.pack (ofParts .positive rounded target)) := by
        rw [unpack_mul, unpacked, otherUnpacked, ← equal]
        rfl
      have exact : placeOf left * placeOf right =
          dyadic (significand * other) (exponent + scale) := by
        rw [placeOf, placeOf, unpacked, otherUnpacked, dyadic_mul]
        rfl
      rw [exact, product]
      exact rounds_pack roundsTo

/-! ### Growth -/

theorem placeOf_one : placeOf 1.0 = 1 := by
  have unpacked : (1.0 : Float).toModel.unpack =
      .finite .positive (1 * 2 ^ 52) (-52) (by decide) := rfl
  rw [placeOf, unpacked]
  show dyadic (1 * 2 ^ 52) (-52) = 1
  rw [← dyadic_add]
  exact (dyadic_zero 1).trans Nat.cast_one

theorem one_le_placeOf {number : Float} (big : 1.0 ≤ number) : 1 ≤ placeOf number := by
  rw [← placeOf_one]
  exact (le_iff.mp big).2.2

theorem one_le_iff {number : Float} :
    1.0 ≤ number ↔ number.isNaN = false ∧ 1 ≤ placeOf number := by
  have one : (1.0 : Float).isNaN = false := by decide +kernel
  rw [le_iff, placeOf_one]
  exact ⟨fun big => big.2, fun big => ⟨one, big⟩⟩

theorem unpack_of_one_le {number : Float} (big : 1.0 ≤ number) :
    number.toModel.unpack = .infinity .positive ∨
      ∃ significand exponent positive,
        number.toModel.unpack = .finite .positive significand exponent positive := by
  have known := one_le_iff.mp big
  rcases unpack_of_nonneg known.1 (zero_le_one.trans known.2) with
    ⟨sign, zero⟩ | infinite | ⟨significand, exponent, positive, unpacked, _⟩
  · have nothing : placeOf number = 0 := by rw [placeOf, zero, place]
    exact absurd known.2 (by simp [nothing])
  · exact Or.inl infinite
  · exact Or.inr ⟨significand, exponent, positive, unpacked⟩

/-- Above one there is a single number that is not finite. -/
theorem unpack_of_not_isFinite {number : Float} (big : 1.0 ≤ number)
    (infinite : ¬ number.isFinite = true) : number.toModel.unpack = .infinity .positive := by
  rcases unpack_of_one_le big with known | ⟨significand, exponent, positive, unpacked⟩
  · exact known
  · rw [isFinite_eq, unpacked] at infinite
    exact absurd rfl infinite

/-- Infinity absorbs every factor from one on, so that a power that has left the finite numbers
does not come back. -/
theorem infinite_mul {left right : Float} (leftBig : 1.0 ≤ left) (rightBig : 1.0 ≤ right)
    (infinite : ¬ left.isFinite = true ∨ ¬ right.isFinite = true) :
    (left * right).toModel.unpack = .infinity .positive := by
  have kept : (Float.ofModel (Float.Model.pack (.infinity .positive))).toModel.unpack =
      .infinity .positive := unpack_ofModel_pack trivial
  rw [unpack_mul]
  rcases unpack_of_one_le leftBig with leftInfinite | ⟨significand, exponent, positive, leftUnpacked⟩
  · rcases unpack_of_one_le rightBig with rightInfinite | ⟨other, scale, otherPositive, unpacked⟩
    · rw [leftInfinite, rightInfinite]
      exact kept
    · rw [leftInfinite, unpacked]
      exact kept
  · rcases unpack_of_one_le rightBig with rightInfinite | ⟨other, scale, otherPositive, unpacked⟩
    · rw [leftUnpacked, rightInfinite]
      exact kept
    · rw [isFinite_eq, isFinite_eq, leftUnpacked, unpacked] at infinite
      exact absurd infinite (by simp [isFinite])

/-- A product of numbers that are not below one reaches all that the exact one reaches. -/
theorem le_placeOf_mul {left right : Float} (leftBig : 1.0 ≤ left) (rightBig : 1.0 ≤ right)
    {bound : ℚ} (representable : Representable bound) (inside : bound ≤ limit)
    (reached : bound ≤ placeOf left * placeOf right) :
    (left * right).isNaN = false ∧ bound ≤ placeOf (left * right) := by
  by_cases finite : left.isFinite = true ∧ right.isFinite = true
  · have rounds := rounds_mul finite.1 finite.2 (zero_le_one.trans (one_le_placeOf leftBig))
      (zero_le_one.trans (one_le_placeOf rightBig))
    exact ⟨rounds.ordered, rounds.ge_of_ge representable inside reached⟩
  · have unpacked := infinite_mul leftBig rightBig (not_and_or.mp finite)
    constructor
    · rw [isNaN_eq, unpacked]
      rfl
    · rw [placeOf, unpacked]
      exact inside

theorem one_lt_limit : 1 < limit := by
  rw [← Nat.cast_one]
  exact natCast_lt_limit (by decide)

/-- Factors from one on keep the product there, whatever is rounded away. -/
theorem one_le_mul {left right : Float} (leftBig : 1.0 ≤ left) (rightBig : 1.0 ≤ right) :
    1.0 ≤ left * right := by
  have exact : (1 : ℚ) ≤ placeOf left * placeOf right :=
    one_le_mul_of_one_le_of_one_le (one_le_placeOf leftBig) (one_le_placeOf rightBig)
  have representable : Representable (1 : Nat) := representable_natCast (by decide)
  rw [Nat.cast_one] at representable
  exact one_le_iff.mpr (le_placeOf_mul leftBig rightBig representable one_lt_limit.le exact)

/-! ### Whole numbers -/

private theorem scaled_sub_le {left right exact : Nat}
    (close : (2 ^ 53 + 1) * |(left : ℚ) - right| ≤ exact) :
    (2 ^ 53 + 1) * (left - right) ≤ exact := by
  rcases Nat.le_total left right with none | some
  · rw [Nat.sub_eq_zero_of_le none]
    exact Nat.zero_le exact
  · rw [← Nat.cast_sub some, abs_of_nonneg (Nat.cast_nonneg _)] at close
    exact_mod_cast close

/-- A whole number is rounded to a whole number, and not at all unless it is large. -/
theorem RoundsTo.exists_natCast {exact significand : Nat} {exponent : Int}
    (roundsTo : RoundsTo exact significand exponent) :
    ∃ whole : Nat, dyadic significand exponent = whole ∧
      (2 ^ 53 + 1) * (whole - exact) ≤ exact ∧ (2 ^ 53 + 1) * (exact - whole) ≤ exact := by
  rcases Nat.lt_or_ge exact (2 ^ 53) with few | many
  · have kept := roundsTo.dyadic_eq (representable_natCast few.le)
    refine ⟨exact, kept, ?_, ?_⟩
    · omega
    · omega
  · have start : Canonical (2 ^ 52) 1 := canonical_two_pow (by decide)
    have least : Canonical (2 ^ 52) (-1074) := canonical_two_pow (by decide)
    have first : dyadic (2 ^ 52) 1 = (2 ^ 53 : Nat) := by
      rw [← dyadic_zero]
      exact dyadic_add (2 ^ 52) 0 1
    have beyond : dyadic (2 ^ 52) 1 ≤ exact := by
      rw [first]
      exact Nat.cast_le.mpr many
    have coarse : 1 ≤ exponent := by
      by_contra fine
      have below := roundsTo.canonical.dyadic_lt (Int.lt_of_not_ge fine)
      exact absurd (roundsTo.ge_of_ge start beyond) (not_le.mpr below)
    obtain ⟨bits, same⟩ := Int.eq_ofNat_of_zero_le (show 0 ≤ exponent by omega)
    have whole : dyadic significand exponent = (significand * 2 ^ bits : Nat) := by
      rw [same, ← dyadic_zero, ← dyadic_add, Int.zero_add]
    have large : dyadic (2 ^ 52) (-1074) ≤ exact :=
      (least.dyadic_lt (by decide)).le.trans beyond
    have close := roundsTo.close large
    rw [whole] at close
    refine ⟨_, whole, scaled_sub_le close, ?_⟩
    rw [abs_sub_comm] at close
    exact scaled_sub_le close

theorem rounds_normalize (number : Nat) :
    Rounds number (Float.ofModel (Float.Model.pack
      (UnpackedFloat.normalize Format.binary64 number 0 .positive))) := by
  rcases Nat.eq_zero_or_pos number with zero | positive
  · have nothing : UnpackedFloat.normalize Format.binary64 (0 : Nat) 0 .positive =
        .zero .positive := rfl
    rw [zero, nothing, Nat.cast_zero]
    exact rounds_of_zero roundsTo_zero rfl (unpack_ofModel_pack trivial)
  · have above : compare (number : Int) 0 = .gt := compare_gt_iff_gt.mpr (by omega)
    obtain ⟨rounded, scale, equal, roundsTo⟩ := round_eq .positive positive 0
    have same : UnpackedFloat.normalize Format.binary64 number 0 .positive =
        ofParts .positive rounded scale := by
      rw [UnpackedFloat.normalize, above, ← equal]
      rfl
    rw [dyadic_zero] at roundsTo
    rw [same]
    exact rounds_pack roundsTo

theorem rounds_toFloat (word : UInt64) : Rounds word.toNat word.toFloat :=
  rounds_normalize word.toNat

/-- A word is rounded to a whole number below the limit. -/
theorem Rounds.exists_natCast {exact : Nat} {number : Float} (rounds : Rounds exact number)
    (word : exact < 2 ^ 64) :
    number.isFinite = true ∧ ∃ whole : Nat, placeOf number = whole ∧
      (2 ^ 53 + 1) * (whole - exact) ≤ exact ∧ (2 ^ 53 + 1) * (exact - whole) ≤ exact := by
  obtain ⟨significand, exponent, roundsTo, same⟩ := rounds.rounded
  obtain ⟨whole, equal, upper, lower⟩ := roundsTo.exists_natCast
  have below : (whole : ℚ) < limit := natCast_lt_limit (by omega)
  rw [equal, min_eq_left below.le] at same
  have nonneg : 0 ≤ placeOf number := by
    rw [same]
    exact Nat.cast_nonneg whole
  refine ⟨?_, whole, same, upper, lower⟩
  rw [isFinite_iff rounds.ordered nonneg, same]
  exact below

/-- A whole number without decimals is rounded once, from more bits than the format holds. -/
theorem scientific_eq {number : Nat} (positive : 0 < number) :
    UnpackedFloat.ofScientific Format.binary64 number 0 =
      roundWithAccuracy Format.binary64 .positive (number * 2 ^ 53) (-53) .exact := by
  have inside : ¬ (0 : Int) > 2 ^ 11 := by decide
  have above : ¬ (0 : Int) < -((2 ^ 11 : Int) + (number.log2 : Nat)) := by omega
  rw [UnpackedFloat.ofScientific, dif_neg positive.ne', if_neg inside, if_neg above,
    if_pos (Int.le_refl 0)]
  have significand : number <<< Format.binary64.mantissaBits * 10 ^ Int.toNat 0 =
      number * 2 ^ 53 := by
    rw [Nat.shiftLeft_eq]
    exact Nat.mul_one _
  have exponent : -(Format.binary64.mantissaBits : Int) + 0 = -53 := by decide
  rw [mul, significand, exponent]
  rfl

theorem ofNat_eq (number : Nat) : Float.ofNat number = Float.ofScientific number false 0 := rfl

theorem rounds_ofNat (number : Nat) : Rounds number (Float.ofNat number) := by
  rw [ofNat_eq, Float.ofScientific]
  split
  · next small =>
      have one : Float.ofBits 0x3FF0000000000000 = 1.0 := by decide +kernel
      have word : number.toUInt64.toNat = number := by
        rw [Nat.toUInt64, UInt64.toNat_ofNat']
        omega
      have rounds := rounds_toFloat number.toUInt64
      have finite := (rounds.exists_natCast number.toUInt64.toNat_lt).1
      rw [word] at rounds
      have exact : placeOf number.toUInt64.toFloat = number :=
        rounds.placeOf_eq (representable_natCast (by omega)) (natCast_lt_limit (by omega)).le
      have product := rounds_mul finite (show (1.0 : Float).isFinite = true by decide +kernel)
        (exact.ge.trans' (Nat.cast_nonneg number)) (placeOf_one.ge.trans' zero_le_one)
      show Rounds number (number.toUInt64.toFloat * Float.ofBits 0x3FF0000000000000)
      rw [exact, placeOf_one, mul_one] at product
      rw [one]
      exact product
  · next large =>
      have positive : 0 < number := by omega
      have exact : dyadic (number * 2 ^ 53) (-53) = number := by
        rw [← dyadic_add, ← dyadic_zero]
        rfl
      have fine : -53 ≤ Format.binary64.targetExponent (totalExponent (number * 2 ^ 53) (-53)) := by
        rw [targetExponent_eq, log2_mul_two_pow positive]
        omega
      obtain ⟨rounded, scale, equal, roundsTo⟩ :=
        roundWithAccuracy_eq .positive (Nat.mul_pos positive (Nat.two_pow_pos 53)) fine
      show Rounds number (Float.ofModel (Float.Model.pack
        (UnpackedFloat.ofScientific Format.binary64 number 0)))
      rw [scientific_eq positive, equal, ← exact]
      exact rounds_pack roundsTo

/-- Whole numbers of up to 53 bits, and the next one, keep their value. -/
theorem placeOf_ofNat {number : Nat} (few : number ≤ 2 ^ 53) :
    placeOf (Float.ofNat number) = number :=
  (rounds_ofNat number).placeOf_eq (representable_natCast few) (natCast_lt_limit (by omega)).le

theorem placeOf_ofNat_nonneg (number : Nat) : 0 ≤ placeOf (Float.ofNat number) :=
  (rounds_ofNat number).ge_of_ge representable_zero limit_pos.le (Nat.cast_nonneg number)

/-- Whole numbers up to the length of the significand go through a float unchanged. -/
theorem toNat_toUInt64_ofNat {number : Nat} (few : number ≤ 2 ^ 53) :
    (Float.ofNat number).toUInt64.toNat = number := by
  rw [toNat_toUInt64, placeOf_ofNat few, Nat.floor_natCast]
  omega

/-- A word, cast to a float and back, is off by at most one part in `2 ^ 53 + 1`. -/
theorem toNat_toUInt64_toFloat (word : UInt64) :
    word.toFloat.toUInt64.toNat ≤ word.toNat + word.toNat / (2 ^ 53 + 1) ∧
      word.toNat ≤ word.toFloat.toUInt64.toNat + word.toNat / (2 ^ 53 + 1) := by
  have fits := word.toNat_lt
  obtain ⟨_, whole, same, upper, lower⟩ := (rounds_toFloat word).exists_natCast fits
  rw [toNat_toUInt64, same, Nat.floor_natCast]
  omega

theorem placeOf_toFloat_nonneg (word : UInt64) : 0 ≤ placeOf word.toFloat :=
  (rounds_toFloat word).ge_of_ge representable_zero limit_pos.le (Nat.cast_nonneg _)

theorem isFinite_toFloat (word : UInt64) : word.toFloat.isFinite = true :=
  ((rounds_toFloat word).exists_natCast word.toNat_lt).1

/-! ### Shares -/

theorem placeOf_zero : placeOf 0.0 = 0 := rfl

/-- A share of a finite number is not larger than the number. -/
theorem placeOf_mul_le {whole share : Float} (finite : whole.isFinite = true)
    (nonneg : 0 ≤ placeOf whole) (some : 0.0 < share) (part : share ≤ 1.0) :
    placeOf (whole * share) ≤ placeOf whole := by
  have shareOrdered := (lt_iff.mp some).2.1
  have shareNonneg : 0 ≤ placeOf share := placeOf_zero.ge.trans (lt_iff.mp some).2.2.le
  have atMost : placeOf share ≤ 1 := (le_iff.mp part).2.2.trans_eq placeOf_one
  have inside : placeOf share < limit := atMost.trans_lt one_lt_limit
  have shareFinite : share.isFinite = true := (isFinite_iff shareOrdered shareNonneg).mpr inside
  have rounds := rounds_mul finite shareFinite nonneg shareNonneg
  have exact : placeOf whole * placeOf share ≤ placeOf whole := mul_le_of_le_one_right nonneg atMost
  exact rounds.le_of_le (representable_placeOf (isNaN_of_isFinite finite) nonneg) exact

/-- A factor of one costs no precision. -/
theorem placeOf_mul_one {whole : Float} (finite : whole.isFinite = true)
    (nonneg : 0 ≤ placeOf whole) : placeOf (whole * 1.0) = placeOf whole := by
  have one : (1.0 : Float).isFinite = true := by decide +kernel
  have rounds := rounds_mul finite one nonneg (placeOf_one.ge.trans' zero_le_one)
  rw [placeOf_one, mul_one] at rounds
  exact rounds.placeOf_eq (representable_placeOf (isNaN_of_isFinite finite) nonneg)
    (placeOf_le_limit whole)

end RowStream.Binary64
