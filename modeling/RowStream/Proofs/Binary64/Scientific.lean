import RowStream.Proofs.Binary64.Arithmetic
import RowStream.Proofs.Binary64.Determined

/-!
Contract: floats of digits with a power of ten.

Owns: `Binary64.nearest`, the float that an exact number is rounded to, which is never what is no
number, `Binary64.isNaN_nearest`.

Main statement: `Binary64.ofScientific_eq`, digits with a power of ten are the float nearest to the
number they stand for, whichever way they are computed: by one operation on exact floats if they
are few and the power is small, and otherwise by a product or a quotient of whole numbers, unless
the power decides the result on its own.
-/

namespace RowStream.Binary64

open Float.Model (Format UnpackedFloat totalExponent)
open Float.Model.UnpackedFloat

def nearest (exact : ℚ) : Float := Float.ofModel (Float.Model.pack (rounded exact))

theorem nearest_congr {exact : ℚ} {number : UnpackedFloat}
    (same : pack Format.binary64 (rounded exact) = pack Format.binary64 number) :
    nearest exact = Float.ofModel (Float.Model.pack number) := by
  rw [nearest]
  unfold Float.Model.pack
  simp only [same]

/-! ### The two ends -/

theorem rounded_of_nothing {exact : ℚ}
    (nothing : (cut (exact / 2 ^ scaleOf exact)).roundedMantissa = 0) :
    rounded exact = .zero .positive := by
  have shifted :
      (shiftToTargetExponent Format.binary64 0 (scaleOf exact) .exact).1.mantissa = 0 := by
    rw [shiftToTargetExponent, shiftToExponent, ofMantissaAndAccuracy_exact,
      cut_shiftRight (Nat.cast_nonneg 0), Nat.cast_zero, zero_div, cut, Nat.floor_zero]
  simp only [rounded, nothing, shifted]
  rfl

theorem roundedMantissa_down (mantissa : Nat) (sticky : Bool) :
    (ExtendedMantissa.mk mantissa false sticky).roundedMantissa = mantissa := by
  cases sticky <;> rfl

theorem rounded_zero : rounded 0 = .zero .positive := by
  apply rounded_of_nothing
  rw [zero_div, ← Nat.cast_zero, cut_natCast]
  rfl

/-- A number that is not even half of the least one is rounded to zero. -/
theorem rounded_of_tiny {exact : ℚ} (nonneg : 0 ≤ exact) (tiny : exact < 2 ^ (-1075 : Int)) :
    rounded exact = .zero .positive := by
  rcases nonneg.eq_or_lt with zero | positive
  · rw [← zero, rounded_zero]
  · have least : scaleOf exact = -1074 := by
      have below : Int.log 2 exact < -1075 :=
        (Int.lt_zpow_iff_log_lt (by decide) positive).mp (by exact_mod_cast tiny)
      rw [scaleOf]
      omega
    have small : exact / 2 ^ (-1074 : Int) < 1 / 2 := by
      rw [div_lt_iff₀ (zpow_pos two_pos _)]
      have half : (1 : ℚ) / 2 * 2 ^ (-1074 : Int) = 2 ^ (-1075 : Int) := by
        rw [one_div, ← zpow_neg_one, ← zpow_add₀ two_ne_zero]
        rfl
      rwa [half]
    have split : exact / 2 ^ (-1074 : Int) = (0 : Nat) + exact / 2 ^ (-1074 : Int) := by
      rw [Nat.cast_zero, zero_add]
    apply rounded_of_nothing
    rw [least, cut_eq split (by positivity) (by linarith), decide_eq_false (by linarith)]
    exact roundedMantissa_down 0 _

/-- A number beyond all that is finite is rounded to infinity. -/
theorem nearest_of_huge {exact : ℚ} (huge : 2 ^ 1024 ≤ exact) :
    nearest exact = Float.ofModel (Float.Model.pack (.infinity .positive)) := by
  have positive : 0 < exact := (pow_pos two_pos 1024).trans_le huge
  have order : 1024 ≤ Int.log 2 exact :=
    (Int.zpow_le_iff_le_log (by decide) positive).mp (by exact_mod_cast huge)
  obtain ⟨significand, exponent, parts, canonical, reached⟩ := rounded_eq positive
  have large : 971 < exponent := by
    rw [scaleOf] at reached
    omega
  have high : 2 ^ 52 ≤ significand := canonical.normal.resolve_right (by omega)
  apply nearest_congr
  rw [parts, ofParts, dif_neg (by omega), pack_of_large _ _ large]

/-! ### Kinds of numbers -/

theorem isNaN_pack {number : UnpackedFloat} (within : Formed number)
    (ordered : number.isNaN = false) :
    (Float.ofModel (Float.Model.pack number)).isNaN = false := by
  rw [isNaN_eq, unpack_ofModel_pack within, ordered]

/-- What is rounded is a number: zero, finite or infinite. -/
theorem isNaN_nearest {exact : ℚ} (nonneg : 0 ≤ exact) : (nearest exact).isNaN = false := by
  rcases nonneg.eq_or_lt with zero | positive
  · rw [nearest, ← zero, rounded_zero]
    exact isNaN_pack trivial rfl
  · obtain ⟨significand, exponent, parts, canonical, _⟩ := rounded_eq positive
    rcases Nat.eq_zero_or_pos significand with nothing | some
    · rw [nearest, parts, ofParts, dif_pos nothing]
      exact isNaN_pack trivial rfl
    · rw [ofParts, dif_neg some.ne'] at parts
      rcases Int.lt_or_le 971 exponent with large | small
      · rw [nearest_congr (parts ▸ pack_of_large .positive some large)]
        exact isNaN_pack trivial rfl
      · rw [nearest, parts]
        exact isNaN_pack ⟨canonical, small⟩ rfl

/-! ### Digits with a power of ten -/

theorem natCast_eq_dyadic (number : Nat) (bits : Nat) :
    dyadic (number * 2 ^ bits) (-bits) = number := by
  rw [← dyadic_add, neg_add_cancel, dyadic_zero]

theorem two_zpow_le_ten_zpow {power : Int} (natural : 0 ≤ power) : (2 : ℚ) ^ power ≤ 10 ^ power :=
  zpow_le_zpow_left₀ natural (by norm_num) (by norm_num)

/-- A power of ten so large that digits in front of it do not matter. -/
theorem huge_scientific {digits : Nat} (positive : 0 < digits) {power : Int}
    (large : 2048 < power) : (2 : ℚ) ^ 1024 ≤ digits * 10 ^ power :=
  calc (2 : ℚ) ^ 1024
      = 2 ^ (1024 : Int) := (zpow_natCast 2 1024).symm
    _ ≤ 2 ^ power := zpow_le_zpow_right₀ one_le_two (by omega)
    _ ≤ 10 ^ power := two_zpow_le_ten_zpow (by omega)
    _ ≤ digits * 10 ^ power := le_mul_of_one_le_left (zpow_pos (by norm_num) power).le
        (Nat.one_le_cast.mpr positive)

/-- A power of ten so small that the digits in front of it do not make up for it. -/
theorem tiny_scientific {digits : Nat} {power : Int} (small : power < -(2048 + digits.log2)) :
    (digits : ℚ) * 10 ^ power < 2 ^ (-1075 : Int) := by
  have short : (digits : ℚ) < 2 ^ ((digits.log2 : Int) + 1) := by
    have below := dyadic_lt_zpow_log2 digits 0
    rwa [dyadic_zero, add_zero] at below
  have fewer : (10 : ℚ) ^ power ≤ 2 ^ power := by
    have inverse := inv_anti₀ (zpow_pos two_pos _)
      (two_zpow_le_ten_zpow (show 0 ≤ -power by omega))
    rwa [← zpow_neg, ← zpow_neg, neg_neg] at inverse
  calc (digits : ℚ) * 10 ^ power
      ≤ digits * 2 ^ power := mul_le_mul_of_nonneg_left fewer (Nat.cast_nonneg digits)
    _ < 2 ^ ((digits.log2 : Int) + 1) * 2 ^ power :=
        mul_lt_mul_of_pos_right short (zpow_pos two_pos power)
    _ = 2 ^ ((digits.log2 : Int) + 1 + power) := (zpow_add₀ two_ne_zero _ _).symm
    _ ≤ 2 ^ (-1075 : Int) := zpow_le_zpow_right₀ one_le_two (by omega)

section Scientific

variable {digits : Nat} (positive : 0 < digits) (count : Nat)

/-- A product is computed from digits with 53 zero bits behind them, so that none of its bits is
lost before it is rounded. -/
theorem product_eq_rounded :
    mul Format.binary64
        (.finite .positive (digits * 2 ^ 53) (-53) (Nat.mul_pos positive (Nat.two_pow_pos 53)))
        (.finite .positive (10 ^ count) 0 (Nat.pow_pos (by decide))) =
      rounded (digits * 10 ^ (count : Int)) := by
  have longer : 0 < digits * 2 ^ 53 := Nat.mul_pos positive (Nat.two_pow_pos 53)
  have tens : 0 < 10 ^ count := Nat.pow_pos (by decide)
  have bits : 53 ≤ (digits * 2 ^ 53 * 10 ^ count).log2 := by
    rw [Nat.le_log2 (Nat.mul_pos longer tens).ne', Nat.mul_right_comm]
    exact Nat.le_mul_of_pos_left _ (Nat.mul_pos positive tens)
  have fine : -53 + 0 ≤ Format.binary64.targetExponent
      (totalExponent (digits * 2 ^ 53 * 10 ^ count) (-53 + 0)) := by
    rw [targetExponent_eq]
    omega
  have value : dyadic (digits * 2 ^ 53) (-53) * dyadic (10 ^ count) 0 =
      digits * 10 ^ (count : Int) := by
    rw [dyadic_zero, zpow_natCast, Nat.cast_pow]
    exact congrArg (· * _) (natCast_eq_dyadic digits 53)
  rw [mul_eq_rounded longer tens fine, value]

/-- Digits over a power of ten are rounded once, from the exact quotient. -/
theorem quotient_eq_rounded :
    div Format.binary64 (.finite .positive digits 0 positive)
        (.finite .positive (10 ^ count) 0 (Nat.pow_pos (by decide))) =
      rounded (digits * 10 ^ (-count : Int)) := by
  have value : dyadic digits 0 / dyadic (10 ^ count) 0 = digits * 10 ^ (-count : Int) := by
    rw [dyadic_zero, dyadic_zero, zpow_neg, zpow_natCast, Nat.cast_pow, div_eq_mul_inv]
    rfl
  rw [div_eq_rounded positive (Nat.pow_pos (by decide)), value]

end Scientific

/-- The product and the quotient are rounded right, and so are the numbers that are not computed
because their power of ten decides where they belong. -/
theorem pack_ofScientific {digits : Nat} (positive : 0 < digits) (power : Int) :
    Float.ofModel (Float.Model.pack (UnpackedFloat.ofScientific Format.binary64 digits power)) =
      nearest (digits * 10 ^ power) := by
  rw [UnpackedFloat.ofScientific, dif_neg positive.ne']
  split
  · next huge => rw [nearest_of_huge (huge_scientific positive huge)]
  · split
    · next tiny =>
        have nonneg : (0 : ℚ) ≤ digits * 10 ^ power :=
          mul_nonneg (Nat.cast_nonneg digits) (zpow_pos (by norm_num) power).le
        rw [nearest, rounded_of_tiny nonneg (tiny_scientific tiny)]
    · split
      · next natural =>
          obtain ⟨count, rfl⟩ := Int.eq_ofNat_of_zero_le natural
          rw [nearest, ← product_eq_rounded positive count]
          simp only [Int.toNat_natCast, Nat.shiftLeft_eq]
          rfl
      · next negative =>
          obtain ⟨count, same⟩ := Int.eq_ofNat_of_zero_le (show 0 ≤ -power by omega)
          obtain rfl : power = -(count : Int) := by omega
          rw [nearest, ← quotient_eq_rounded positive count]
          simp only [neg_neg, Int.toNat_natCast]

/-! ### Operations on exact floats -/

/-- A positive finite float is given by a canonical significand and exponent. -/
theorem unpack_of_pos {number : Float} (finite : number.isFinite = true)
    (positive : 0 < placeOf number) :
    ∃ significand exponent some,
      number.toModel.unpack = .finite .positive significand exponent some ∧
        Canonical significand exponent ∧ dyadic significand exponent = placeOf number := by
  rcases unpack_of_isFinite finite positive.le with
    ⟨sign, zero⟩ | ⟨significand, exponent, some, unpacked, canonical⟩
  · rw [placeOf, zero] at positive
    exact absurd positive (lt_irrefl 0)
  · refine ⟨significand, exponent, some, unpacked, canonical, ?_⟩
    rw [placeOf, unpacked]
    rfl

theorem mul_eq_nearest {left right : Float} (leftFinite : left.isFinite = true)
    (rightFinite : right.isFinite = true) (leftPositive : 0 < placeOf left)
    (rightPositive : 0 < placeOf right) :
    left * right = nearest (placeOf left * placeOf right) := by
  obtain ⟨significand, exponent, some, unpacked, canonical, place⟩ :=
    unpack_of_pos leftFinite leftPositive
  obtain ⟨other, scale, otherSome, otherUnpacked, otherCanonical, otherPlace⟩ :=
    unpack_of_pos rightFinite rightPositive
  rw [unpack_mul, unpacked, otherUnpacked, ← place, ← otherPlace, nearest,
    mul_eq_rounded some otherSome (fine_mul some otherSome canonical otherCanonical)]

theorem unpack_div (left right : Float) :
    left / right = Float.ofModel (Float.Model.pack
      (div Format.binary64 left.toModel.unpack right.toModel.unpack)) := rfl

theorem div_eq_nearest {left right : Float} (leftFinite : left.isFinite = true)
    (rightFinite : right.isFinite = true) (leftPositive : 0 < placeOf left)
    (rightPositive : 0 < placeOf right) :
    left / right = nearest (placeOf left / placeOf right) := by
  obtain ⟨significand, exponent, some, unpacked, _, place⟩ :=
    unpack_of_pos leftFinite leftPositive
  obtain ⟨other, scale, otherSome, otherUnpacked, _, otherPlace⟩ :=
    unpack_of_pos rightFinite rightPositive
  rw [unpack_div, unpacked, otherUnpacked, ← place, ← otherPlace, nearest,
    div_eq_rounded some otherSome]

def isPowerOfTen (count : Nat) : UnpackedFloat → Bool
  | .finite .positive significand exponent _ =>
      significand * 2 ^ exponent.toNat == 10 ^ count * 2 ^ (-exponent).toNat
  | _ => false

/-- The powers of ten in the table of the library are exact. -/
theorem powers_of_ten : ∀ count : Fin 23,
    isPowerOfTen count (Float.exactlyRepresentablePowersOfTen[count]).toModel.unpack = true := by
  decide +kernel

theorem exists_of_isPowerOfTen {count : Nat} {number : UnpackedFloat}
    (power : isPowerOfTen count number = true) :
    ∃ significand exponent positive, number = .finite .positive significand exponent positive ∧
      dyadic significand exponent = 10 ^ count := by
  unfold isPowerOfTen at power
  split at power
  · next significand exponent positive =>
      refine ⟨significand, exponent, positive, rfl, ?_⟩
      have equal : (significand : ℚ) * 2 ^ exponent.toNat = 10 ^ count * 2 ^ (-exponent).toNat :=
        mod_cast beq_iff_eq.mp power
      have parts : exponent = (exponent.toNat : Int) - ((-exponent).toNat : Int) := by omega
      rw [dyadic, parts, zpow_sub₀ two_ne_zero, zpow_natCast, zpow_natCast, ← mul_div_assoc, equal,
        mul_div_cancel_right₀ _ (pow_ne_zero _ two_ne_zero)]
  · exact absurd power Bool.false_ne_true

/-- The tabulated powers of ten are exact. -/
theorem power_exact {count : Nat} (small : count < Float.exactlyRepresentablePowersOfTen.size) :
    ∃ significand exponent positive,
      Float.exactlyRepresentablePowersOfTen[count].toModel.unpack =
          .finite .positive significand exponent positive ∧
        dyadic significand exponent = 10 ^ count :=
  exists_of_isPowerOfTen (powers_of_ten ⟨count, small⟩)

/-- Few digits are exact. -/
theorem toFloat_exact {digits : Nat} (few : digits < 2 ^ 53) :
    digits.toUInt64.toFloat.isFinite = true ∧ placeOf digits.toUInt64.toFloat = digits := by
  have word : digits.toUInt64.toNat = digits := by
    rw [Nat.toUInt64, UInt64.toNat_ofNat']
    omega
  have rounds := rounds_toFloat digits.toUInt64
  have finite := (rounds.exists_natCast digits.toUInt64.toNat_lt).1
  rw [word] at rounds
  exact ⟨finite,
    rounds.placeOf_eq (representable_natCast few.le) (natCast_lt_limit (by omega)).le⟩

def scientific (digits : Nat) (negative : Bool) (count : Nat) : ℚ :=
  if negative then digits / 10 ^ count else digits * 10 ^ count

theorem scientific_zero (negative : Bool) (count : Nat) : scientific 0 negative count = 0 := by
  simp [scientific]

theorem nearest_zero : nearest 0 = Float.ofModel (Float.Model.pack (.zero .positive)) := by
  rw [nearest, rounded_zero]

/-- One operation on exact floats. -/
theorem nearest_of_few {digits : Nat} (few : digits < 2 ^ 53) {power : Float} {count : Nat}
    {significand : Nat} {exponent : Int} {positive : 0 < significand}
    (unpacked : power.toModel.unpack = .finite .positive significand exponent positive)
    (exact : dyadic significand exponent = 10 ^ count) (negative : Bool) :
    (if negative then digits.toUInt64.toFloat / power else digits.toUInt64.toFloat * power) =
      nearest (scientific digits negative count) := by
  rcases Nat.eq_zero_or_pos digits with rfl | some
  · have nothing : (0 : Nat).toUInt64.toFloat.toModel.unpack = .zero .positive :=
      unpack_ofModel_pack trivial
    rw [scientific_zero, nearest_zero, unpack_div, unpack_mul, nothing, unpacked]
    cases negative <;> rfl
  · obtain ⟨digitsFinite, digitsPlace⟩ := toFloat_exact few
    have place : placeOf power = 10 ^ count := by
      rw [placeOf, unpacked]
      exact exact
    have finite : power.isFinite = true := by
      rw [isFinite_eq, unpacked]
      rfl
    have tens : 0 < placeOf power := by
      rw [place]
      positivity
    have digitsPositive : 0 < placeOf digits.toUInt64.toFloat := by
      rw [digitsPlace]
      exact Nat.cast_pos.mpr some
    rw [div_eq_nearest digitsFinite finite digitsPositive tens,
      mul_eq_nearest digitsFinite finite digitsPositive tens, digitsPlace, place, scientific]
    cases negative <;> rfl

/-- Digits with a power of ten are the float nearest to the number they stand for. -/
theorem ofScientific_eq (digits : Nat) (negative : Bool) (count : Nat) :
    Float.ofScientific digits negative count = nearest (scientific digits negative count) := by
  rw [Float.ofScientific]
  split
  · next few =>
      obtain ⟨significand, exponent, positive, unpacked, exact⟩ :=
        power_exact (Nat.lt_succ_of_le few.2)
      exact nearest_of_few few.1 unpacked exact negative
  · next many =>
      show Float.ofModel (Float.Model.pack (UnpackedFloat.ofScientific Format.binary64 digits
        (if negative then Int.negOfNat count else Int.ofNat count))) = _
      rcases Nat.eq_zero_or_pos digits with rfl | some
      · rw [scientific_zero, nearest_zero, UnpackedFloat.ofScientific, dif_pos rfl]
      · have power : scientific digits negative count =
            digits * 10 ^ (if negative then Int.negOfNat count else Int.ofNat count) := by
          cases negative with
          | true =>
              rw [scientific, if_pos rfl, if_pos rfl, Int.negOfNat_eq, zpow_neg, div_eq_mul_inv]
              rfl
          | false => rfl
        rw [pack_ofScientific some, power]

end RowStream.Binary64
