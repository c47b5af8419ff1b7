import RowStream.Proofs.Binary64.Packing

/-!
Contract: the order of 64-bit floating-point numbers.

Owns:
- `Binary64.place`, where a number stands among the rationals, and `Binary64.placeOf`, the same
  for `Float`. Infinity stands right beyond the finite numbers, so that no case is apart.

Main statements: `Binary64.lt_iff` and `Binary64.le_iff`, comparisons are those of the places;
`Binary64.toNat_toUInt64`, a cast to an integer cuts the place down.
-/

namespace RowStream.Binary64

open Float.Model (Format UnpackedFloat)
open Float.Model.UnpackedFloat

/-! ### Places -/

/-- The first power of two beyond the finite numbers. -/
def limit : ℚ := dyadic (2 ^ 52) 972

def signed : Sign → ℚ → ℚ
  | .positive, magnitude => magnitude
  | .negative, magnitude => -magnitude

/-- Where a number stands; what is not a number stands nowhere. -/
def place : UnpackedFloat → ℚ
  | .notANumber => 0
  | .infinity sign => signed sign limit
  | .zero _ => 0
  | .finite sign significand exponent _ => signed sign (dyadic significand exponent)

theorem limit_eq : limit = 2 ^ 52 * 2 ^ 972 := by
  show ((2 ^ 52 : Nat) : ℚ) * 2 ^ ((972 : Nat) : Int) = _
  rw [zpow_natCast, Nat.cast_pow, Nat.cast_ofNat]

theorem two_pow_lt_limit {exponent : Nat} (small : exponent ≤ 1023) :
    (2 : ℚ) ^ exponent < limit := by
  rw [limit_eq, ← pow_add]
  exact pow_lt_pow_right₀ one_lt_two (by omega)

theorem limit_le_two_pow {exponent : Nat} (large : 1024 ≤ exponent) : limit ≤ 2 ^ exponent := by
  rw [limit_eq, ← pow_add]
  exact pow_le_pow_right₀ one_lt_two.le (by omega)

/-- Words and sums of two of them are far from the limit. -/
theorem natCast_lt_limit {number : Nat} (few : number < 2 ^ 65) : (number : ℚ) < limit := by
  have below : (number : ℚ) < 2 ^ 65 := by exact_mod_cast few
  exact below.trans (two_pow_lt_limit (by decide))

theorem limit_pos : 0 < limit := mul_pos (by norm_num) (zpow_pos two_pos 972)

theorem dyadic_lt_limit {significand : Nat} {exponent : Int}
    (canonical : Canonical significand exponent) (small : exponent ≤ 971) :
    dyadic significand exponent < limit :=
  canonical.dyadic_lt (by omega)

/-! ### Comparisons -/

/-- Exponents decide, and significands where exponents do not. -/
theorem compare_canonical {left right : Nat} {exponent scale : Int}
    (leftCanonical : Canonical left exponent) (rightCanonical : Canonical right scale) :
    (compare exponent scale).then (compare left right) =
      compare (dyadic left exponent) (dyadic right scale) := by
  rcases lt_trichotomy exponent scale with finer | same | coarser
  · have least := leftCanonical.least
    have high : 2 ^ 52 ≤ right := rightCanonical.normal.resolve_right (by omega)
    have below : dyadic left exponent < dyadic right scale :=
      (leftCanonical.dyadic_lt finer).trans_le (dyadic_le_dyadic.mpr high)
    rw [compare_lt_iff_lt.mpr finer, compare_lt_iff_lt.mpr below]
    rfl
  · subst same
    rw [compare_eq_iff_eq.mpr rfl]
    show compare left right = _
    rcases lt_trichotomy left right with less | equal | more
    · rw [compare_lt_iff_lt.mpr less, compare_lt_iff_lt.mpr (dyadic_lt_dyadic.mpr less)]
    · rw [equal, compare_eq_iff_eq.mpr rfl, compare_eq_iff_eq.mpr rfl]
    · rw [compare_gt_iff_gt.mpr more, compare_gt_iff_gt.mpr (dyadic_lt_dyadic.mpr more)]
  · have least := rightCanonical.least
    have high : 2 ^ 52 ≤ left := leftCanonical.normal.resolve_right (by omega)
    have above : dyadic right scale < dyadic left exponent :=
      (rightCanonical.dyadic_lt coarser).trans_le (dyadic_le_dyadic.mpr high)
    rw [compare_gt_iff_gt.mpr coarser, compare_gt_iff_gt.mpr above]
    rfl

private theorem before {left right : ℚ} (less : left < right) :
    some Ordering.lt = some (compare left right) :=
  congrArg some (compare_lt_iff_lt.mpr less).symm

private theorem behind {left right : ℚ} (more : right < left) :
    some Ordering.gt = some (compare left right) :=
  congrArg some (compare_gt_iff_gt.mpr more).symm

private theorem beside (both : ℚ) : some Ordering.eq = some (compare both both) :=
  congrArg some (compare_eq_iff_eq.mpr rfl).symm

private theorem compare_infinity : ∀ (sign : Sign) {right : UnpackedFloat}, Formed right →
    right.isNaN = false →
      (infinity sign).compare right = some (compare (signed sign limit) (place right))
  | .positive, .infinity .positive, _, _ => beside limit
  | .negative, .infinity .negative, _, _ => beside (-limit)
  | .positive, .infinity .negative, _, _ => behind (neg_lt_self limit_pos)
  | .negative, .infinity .positive, _, _ => before (neg_lt_self limit_pos)
  | .positive, .zero _, _, _ => behind limit_pos
  | .negative, .zero _, _, _ => before (neg_lt_zero.mpr limit_pos)
  | .positive, .finite .positive _ _ _, formed, _ => behind (dyadic_lt_limit formed.1 formed.2)
  | .negative, .finite .negative _ _ _, formed, _ =>
      before (neg_lt_neg (dyadic_lt_limit formed.1 formed.2))
  | .positive, .finite .negative _ _ positive, _, _ =>
      behind ((neg_lt_zero.mpr (dyadic_pos positive _)).trans limit_pos)
  | .negative, .finite .positive _ _ positive, _, _ =>
      before ((neg_lt_zero.mpr limit_pos).trans (dyadic_pos positive _))

private theorem compare_zero : ∀ (sign : Sign) {right : UnpackedFloat}, right.isNaN = false →
    (zero sign).compare right = some (compare 0 (place right))
  | _, .infinity .positive, _ => before limit_pos
  | _, .infinity .negative, _ => behind (neg_lt_zero.mpr limit_pos)
  | _, .zero _, _ => beside 0
  | _, .finite .positive _ _ positive, _ => before (dyadic_pos positive _)
  | _, .finite .negative _ _ positive, _ => behind (neg_lt_zero.mpr (dyadic_pos positive _))

theorem compare_neg_neg (left right : ℚ) : compare (-left) (-right) = (compare left right).swap := by
  rcases lt_trichotomy left right with less | equal | more
  · rw [compare_lt_iff_lt.mpr less, compare_gt_iff_gt.mpr (neg_lt_neg less)]
    rfl
  · rw [equal, compare_eq_iff_eq.mpr rfl, compare_eq_iff_eq.mpr rfl]
    rfl
  · rw [compare_gt_iff_gt.mpr more, compare_lt_iff_lt.mpr (neg_lt_neg more)]
    rfl

private theorem compare_finite : ∀ (sign : Sign) {significand : Nat} {exponent : Int}
    (positive : 0 < significand) {right : UnpackedFloat}, Canonical significand exponent →
      exponent ≤ 971 → Formed right → right.isNaN = false →
        (finite sign significand exponent positive).compare right =
          some (compare (signed sign (dyadic significand exponent)) (place right))
  | .positive, _, _, _, .infinity .positive, canonical, small, _, _ =>
      before (dyadic_lt_limit canonical small)
  | .negative, _, _, positive, .infinity .positive, _, _, _, _ =>
      before ((neg_lt_zero.mpr (dyadic_pos positive _)).trans limit_pos)
  | .positive, _, _, positive, .infinity .negative, _, _, _, _ =>
      behind ((neg_lt_zero.mpr limit_pos).trans (dyadic_pos positive _))
  | .negative, _, _, _, .infinity .negative, canonical, small, _, _ =>
      behind (neg_lt_neg (dyadic_lt_limit canonical small))
  | .positive, _, _, positive, .zero _, _, _, _, _ => behind (dyadic_pos positive _)
  | .negative, _, _, positive, .zero _, _, _, _, _ => before (neg_lt_zero.mpr (dyadic_pos positive _))
  | .positive, _, _, positive, .finite .negative _ _ other, _, _, _, _ =>
      behind ((neg_lt_zero.mpr (dyadic_pos other _)).trans (dyadic_pos positive _))
  | .negative, _, _, positive, .finite .positive _ _ other, _, _, _, _ =>
      before ((neg_lt_zero.mpr (dyadic_pos positive _)).trans (dyadic_pos other _))
  | .positive, _, _, _, .finite .positive _ _ _, canonical, _, formed, _ =>
      congrArg some (compare_canonical canonical formed.1)
  | .negative, _, _, _, .finite .negative _ _ _, canonical, _, formed, _ => by
      show some (Ordering.swap _) = some (compare (-_) (-_))
      rw [compare_canonical canonical formed.1, compare_neg_neg]

/-- Floats that are numbers compare as their places do, the infinities included. -/
theorem compare_eq {left right : UnpackedFloat} (leftFormed : Formed left)
    (rightFormed : Formed right) (leftOrdered : left.isNaN = false)
    (rightOrdered : right.isNaN = false) :
    left.compare right = some (compare (place left) (place right)) := by
  cases left with
  | notANumber => cases leftOrdered
  | infinity sign => exact compare_infinity sign rightFormed rightOrdered
  | zero sign => exact compare_zero sign rightOrdered
  | finite sign significand exponent positive =>
      exact compare_finite sign positive leftFormed.1 leftFormed.2 rightFormed rightOrdered

theorem compare_eq_none {left right : UnpackedFloat}
    (unordered : ¬ (left.isNaN = false ∧ right.isNaN = false)) :
    left.compare right = none := by
  cases left <;> cases right <;> simp_all [UnpackedFloat.compare, isNaN]

/-! ### The order of `Float` -/

def placeOf (number : Float) : ℚ := place number.toModel.unpack

theorem formed (number : Float) : Formed number.toModel.unpack :=
  formed_unpack number.toModel.toBits.toBitVec

theorem isNaN_eq (number : Float) : number.isNaN = number.toModel.unpack.isNaN := rfl

theorem isFinite_eq (number : Float) : number.isFinite = number.toModel.unpack.isFinite := rfl

theorem placeOf_le_limit (number : Float) : placeOf number ≤ limit := by
  have within := formed number
  unfold placeOf
  cases unpacked : number.toModel.unpack with
  | notANumber => exact limit_pos.le
  | zero sign => exact limit_pos.le
  | infinity sign =>
      cases sign with
      | positive => exact le_rfl
      | negative => exact (neg_lt_self limit_pos).le
  | finite sign significand exponent positive =>
      rw [unpacked] at within
      cases sign with
      | positive => exact (dyadic_lt_limit within.1 within.2).le
      | negative => exact (neg_nonpos.mpr (dyadic_nonneg significand exponent)).trans limit_pos.le

/-- A number that is not below zero is zero or has a positive sign. -/
theorem unpack_of_nonneg {number : Float} (ordered : number.isNaN = false)
    (nonneg : 0 ≤ placeOf number) :
    (∃ sign, number.toModel.unpack = .zero sign) ∨
      number.toModel.unpack = .infinity .positive ∨
        ∃ significand exponent positive,
          number.toModel.unpack = .finite .positive significand exponent positive ∧
            Canonical significand exponent ∧ exponent ≤ 971 := by
  have within := formed number
  rw [isNaN_eq] at ordered
  unfold placeOf at nonneg
  cases unpacked : number.toModel.unpack with
  | notANumber =>
      rw [unpacked] at ordered
      cases ordered
  | zero sign => exact Or.inl ⟨sign, rfl⟩
  | infinity sign =>
      rw [unpacked] at nonneg
      cases sign with
      | positive => exact Or.inr (Or.inl rfl)
      | negative => exact absurd nonneg (not_le.mpr (neg_lt_zero.mpr limit_pos))
  | finite sign significand exponent positive =>
      rw [unpacked] at nonneg within
      cases sign with
      | positive => exact Or.inr (Or.inr ⟨significand, exponent, positive, rfl, within⟩)
      | negative =>
          exact absurd nonneg (not_le.mpr (neg_lt_zero.mpr (dyadic_pos positive exponent)))

/-- A number that is not below zero is finite or has reached the limit. -/
theorem isFinite_iff {number : Float} (ordered : number.isNaN = false)
    (nonneg : 0 ≤ placeOf number) : number.isFinite = true ↔ placeOf number < limit := by
  rw [isFinite_eq, placeOf]
  rcases unpack_of_nonneg ordered nonneg with
    ⟨sign, unpacked⟩ | unpacked | ⟨significand, exponent, positive, unpacked, canonical, small⟩
  · rw [unpacked]
    exact ⟨fun _ => limit_pos, fun _ => rfl⟩
  · rw [unpacked]
    exact ⟨fun finite => (nomatch finite), fun below => absurd below (lt_irrefl limit)⟩
  · rw [unpacked]
    exact ⟨fun _ => dyadic_lt_limit canonical small, fun _ => rfl⟩

theorem isNaN_of_isFinite {number : Float} (finite : number.isFinite = true) :
    number.isNaN = false := by
  rw [isFinite_eq] at finite
  rw [isNaN_eq]
  cases unpacked : number.toModel.unpack with
  | notANumber =>
      rw [unpacked] at finite
      cases finite
  | infinity sign => rfl
  | zero sign => rfl
  | finite sign significand exponent positive => rfl

theorem lt_iff {left right : Float} :
    left < right ↔ left.isNaN = false ∧ right.isNaN = false ∧ placeOf left < placeOf right := by
  have compared : left < right ↔
      left.toModel.unpack.compare right.toModel.unpack = some .lt := by
    show decide (left.toModel < right.toModel) = true ↔ _
    rw [decide_eq_true_iff]
    exact beq_iff_eq
  by_cases ordered : left.isNaN = false ∧ right.isNaN = false
  · rw [compared, compare_eq (formed left) (formed right) ordered.1 ordered.2, Option.some.injEq,
      compare_lt_iff_lt]
    exact ⟨fun less => ⟨ordered.1, ordered.2, less⟩, fun less => less.2.2⟩
  · rw [compared, compare_eq_none ordered]
    exact ⟨fun none => (nomatch none), fun less => absurd ⟨less.1, less.2.1⟩ ordered⟩

theorem le_iff {left right : Float} :
    left ≤ right ↔ left.isNaN = false ∧ right.isNaN = false ∧ placeOf left ≤ placeOf right := by
  have compared : left ≤ right ↔
      (left.toModel.unpack.compare right.toModel.unpack).any (·.isLE) = true := by
    show decide (left.toModel ≤ right.toModel) = true ↔ _
    rw [decide_eq_true_iff]
    exact Iff.rfl
  by_cases ordered : left.isNaN = false ∧ right.isNaN = false
  · rw [compared, compare_eq (formed left) (formed right) ordered.1 ordered.2, Option.any_some,
      ← Ordering.ne_gt_iff_isLE, compare_gt_iff_gt, not_lt]
    exact ⟨fun atMost => ⟨ordered.1, ordered.2, atMost⟩, fun atMost => atMost.2.2⟩
  · rw [compared, compare_eq_none ordered]
    exact ⟨fun none => (nomatch none), fun atMost => absurd ⟨atMost.1, atMost.2.1⟩ ordered⟩

/-- Only what is not a number escapes the order. -/
theorem le_of_not_lt {left right : Float} (leftOrdered : left.isNaN = false)
    (rightOrdered : right.isNaN = false) (notLess : ¬ right < left) : left ≤ right := by
  apply le_iff.mpr
  refine ⟨leftOrdered, rightOrdered, not_lt.mp ?_⟩
  intro less
  exact notLess (lt_iff.mpr ⟨rightOrdered, leftOrdered, less⟩)

theorem not_lt_of_le {left right : Float} (atMost : left ≤ right) : ¬ right < left := by
  intro less
  exact absurd (lt_iff.mp less).2.2 (not_lt.mpr (le_iff.mp atMost).2.2)

/-! ### Casts to integers -/

private theorem shiftRight_mantissa (significand bits : Nat) :
    ((ExtendedMantissa.ofMantissaAndAccuracy significand .exact) >>> bits).mantissa =
      significand / 2 ^ bits := by
  induction bits with
  | zero => exact (Nat.div_one significand).symm
  | succ bits inductionHypothesis =>
      show ((ExtendedMantissa.ofMantissaAndAccuracy significand .exact) >>> bits).mantissa / 2 = _
      rw [inductionHypothesis, Nat.div_div_eq_div_mul, Nat.pow_succ]

/-- Reading a whole number out of a float drops the part after the point. -/
theorem roundToInt_eq (sign : Sign) (significand : Nat) (exponent : Int) :
    roundToInt sign significand exponent = sign.apply ⌊dyadic significand exponent⌋₊ := by
  show sign.apply ((ExtendedMantissa.ofMantissaAndAccuracy
    (significand <<< (exponent - 0).toNat) .exact) >>>
      (0 - (exponent - ((exponent - 0).toNat : Nat))).toNat).mantissa = _
  rw [shiftRight_mantissa]
  rcases Int.le_total 0 exponent with whole | part
  · obtain ⟨bits, same⟩ := Int.eq_ofNat_of_zero_le whole
    have up : (exponent - 0).toNat = bits := by omega
    have down : (0 - (exponent - (bits : Nat))).toNat = 0 := by omega
    have exact : dyadic significand exponent = (significand * 2 ^ bits : Nat) := by
      rw [same, dyadic, zpow_natCast]
      push_cast
      rfl
    rw [up, down, exact, Nat.floor_natCast, Nat.shiftLeft_eq, Nat.pow_zero, Nat.div_one]
  · obtain ⟨bits, same⟩ := Int.eq_ofNat_of_zero_le (Int.neg_nonneg.mpr part)
    have up : (exponent - 0).toNat = 0 := by omega
    have down : (0 - (exponent - (0 : Nat))).toNat = bits := by omega
    have exact : dyadic significand exponent = (significand : ℚ) / (2 ^ bits : Nat) := by
      have negated : exponent = -(bits : Int) := by omega
      rw [negated, dyadic, zpow_neg, zpow_natCast, div_eq_mul_inv]
      push_cast
      rfl
    rw [up, down, exact, Nat.floor_div_eq_div, Nat.shiftLeft_zero]

theorem toNat_ofNatClamp (number : Nat) :
    (UInt64.ofNatClamp number).toNat = min number (2 ^ 64 - 1) := by
  rw [UInt64.ofNatClamp]
  split
  · next fits =>
      have below : number < 2 ^ 64 := fits
      rw [UInt64.toNat_ofNatLT]
      omega
  · next large =>
      have beyond : ¬ number < 2 ^ 64 := large
      rw [UInt64.toNat_ofNatLT]
      show 2 ^ 64 - 1 = _
      omega

/-- A cast cuts down to a whole number and stops at the last word. -/
theorem toNat_toUInt64 (number : Float) :
    number.toUInt64.toNat = min ⌊placeOf number⌋₊ (2 ^ 64 - 1) := by
  show (UInt64.ofNatClamp (toInt 0 (UInt64.size - 1) number.toModel.unpack).toNat).toNat = _
  rw [toNat_ofNatClamp, placeOf]
  cases number.toModel.unpack with
  | notANumber => simp [toInt, place]
  | zero sign => simp [toInt, place]
  | infinity sign =>
      cases sign with
      | positive =>
          have beyond : 2 ^ 64 - 1 ≤ ⌊limit⌋₊ := Nat.le_floor (natCast_lt_limit (by decide)).le
          show min (2 ^ 64 - 1) (2 ^ 64 - 1) = min ⌊limit⌋₊ (2 ^ 64 - 1)
          omega
      | negative =>
          have none : ⌊-limit⌋₊ = 0 := Nat.floor_of_nonpos (neg_nonpos.mpr limit_pos.le)
          show min 0 (2 ^ 64 - 1) = min ⌊-limit⌋₊ (2 ^ 64 - 1)
          rw [none]
  | finite sign significand exponent positive =>
      show min (roundToInt sign significand exponent).toNat (2 ^ 64 - 1) = _
      rw [roundToInt_eq]
      cases sign with
      | positive =>
          show min (Int.toNat (⌊dyadic significand exponent⌋₊ : Nat)) (2 ^ 64 - 1) = _
          rw [Int.toNat_natCast]
          rfl
      | negative =>
          have none : ⌊-dyadic significand exponent⌋₊ = 0 :=
            Nat.floor_of_nonpos (neg_nonpos.mpr (dyadic_nonneg significand exponent))
          show min (Int.toNat (-(⌊dyadic significand exponent⌋₊ : Nat))) (2 ^ 64 - 1) =
            min ⌊-dyadic significand exponent⌋₊ (2 ^ 64 - 1)
          rw [none, Int.toNat_neg_natCast]

/-- Reading a word out of a float respects the order, past the largest word as well. -/
theorem toUInt64_mono {left right : Float} (atMost : placeOf left ≤ placeOf right) :
    left.toUInt64.toNat ≤ right.toUInt64.toNat := by
  rw [toNat_toUInt64, toNat_toUInt64]
  exact min_le_min_right _ (Nat.floor_mono atMost)

end RowStream.Binary64
