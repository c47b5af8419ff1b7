import RowStream.Proofs.Binary64.Arithmetic
import RowStream.Random.ChaCha
import RowStream.Retry.Policy

/-!
Contract: the schedule of a policy whose first wait is nothing.

Owns:
- `RetryPolicy.power_bounded`, the rule for bounds on powers by repeated squaring;
- the powers that are finite, and those that are not.

Main statement: `RetryPolicy.delay_of_no_initialDelay`. Nothing, grown by a finite power, is
nothing, but nothing multiplied by infinity is not a number, and what is not a number is capped.
-/

namespace RowStream.RetryPolicy

open Binary64

/-! ### Powers -/

section Powers

variable (Bounded : Nat → Float → Prop) {most : Nat}

/-- Squares and products are met with exponents that add up to the exponent of the result, so that
no bound beyond `most` is asked for. -/
theorem power_go_bounded
    (times : ∀ {first second : Nat} {left right : Float}, first + second ≤ most →
      Bounded first left → Bounded second right → Bounded (first + second) (left * right))
    (exponent : Nat) {degree made : Nat} {square product : Float} (base : Bounded degree square)
    (begun : Bounded made product) (within : made + degree * exponent ≤ most) :
    Bounded (made + degree * exponent) (power.go square product exponent) := by
  induction exponent using Nat.strongRecOn generalizing degree made square product with
  | _ exponent inductionHypothesis =>
      have next : ∃ taken, taken = made + degree * (exponent % 2) ∧
          Bounded taken (if exponent % 2 = 1 then product * square else product) := by
        rcases Nat.mod_two_eq_zero_or_one exponent with even | odd
        · refine ⟨made, by rw [even, Nat.mul_zero, Nat.add_zero], ?_⟩
          rw [even]
          exact begun
        · have some : degree * 1 ≤ degree * exponent := Nat.mul_le_mul_left degree (by omega)
          refine ⟨made + degree, by rw [odd, Nat.mul_one], ?_⟩
          rw [odd]
          exact times (by omega) begun base
      obtain ⟨taken, counted, bounded⟩ := next
      have halves : degree * exponent = degree * (exponent % 2) + degree * 2 * (exponent / 2) := by
        rw [Nat.mul_assoc, ← Nat.mul_add, Nat.mod_add_div]
      rw [power.go]
      by_cases last : exponent < 2
      · have total : made + degree * exponent = taken := by
          rw [counted, Nat.mod_eq_of_lt last]
        rw [if_pos last, total]
        exact bounded
      · have twice : degree + degree = degree * 2 := (Nat.mul_two degree).symm
        have some : degree * 2 ≤ degree * exponent := Nat.mul_le_mul_left degree (by omega)
        have squared : Bounded (degree * 2) (square * square) := by
          rw [← twice]
          exact times (by omega) base base
        have total : made + degree * exponent = taken + degree * 2 * (exponent / 2) := by omega
        rw [if_neg last, total]
        exact inductionHypothesis (exponent / 2) (by omega) squared bounded (by omega)

theorem power_bounded
    (times : ∀ {first second : Nat} {left right : Float}, first + second ≤ most →
      Bounded first left → Bounded second right → Bounded (first + second) (left * right))
    (one : Bounded 0 1.0) {base : Float} {degree : Nat} (bounded : Bounded degree base)
    (exponent : Nat) (within : degree * exponent ≤ most) :
    Bounded (degree * exponent) (power base exponent) := by
  have whole : 0 + degree * exponent ≤ most := by omega
  have grown := power_go_bounded Bounded times exponent bounded one whole
  rw [Nat.zero_add] at grown
  exact grown

end Powers

theorem one_le_one : (1.0 : Float) ≤ 1.0 := by decide +kernel

theorem one_le_power {base : Float} (big : 1.0 ≤ base) (exponent : Nat) :
    1.0 ≤ power base exponent := by
  have times : ∀ {first second : Nat} {left right : Float}, first + second ≤ 0 * exponent →
      1.0 ≤ left → 1.0 ≤ right → 1.0 ≤ left * right := fun _ => one_le_mul
  exact power_bounded (fun _ number => 1.0 ≤ number) times one_le_one big exponent (Nat.le_refl _)

/-- Below the limit, powers are bounded as the exact ones are. -/
theorem placeOf_power_le {base : Float} (big : 1.0 ≤ base) {bits : Nat}
    (atMost : placeOf base ≤ 2 ^ bits) {exponent : Nat} (few : bits * exponent ≤ 1023) :
    placeOf (power base exponent) ≤ 2 ^ (bits * exponent) := by
  have times : ∀ {first second : Nat} {left right : Float}, first + second ≤ 1023 →
      1.0 ≤ left ∧ placeOf left ≤ 2 ^ first → 1.0 ≤ right ∧ placeOf right ≤ 2 ^ second →
        1.0 ≤ left * right ∧ placeOf (left * right) ≤ 2 ^ (first + second) := by
    intro first second left right inside ⟨leftBig, leftAtMost⟩ ⟨rightBig, rightAtMost⟩
    have leftNonneg := zero_le_one.trans (one_le_placeOf leftBig)
    have rightNonneg := zero_le_one.trans (one_le_placeOf rightBig)
    have leftFinite : left.isFinite = true :=
      (isFinite_iff (one_le_iff.mp leftBig).1 leftNonneg).mpr
        (leftAtMost.trans_lt (two_pow_lt_limit (by omega)))
    have rightFinite : right.isFinite = true :=
      (isFinite_iff (one_le_iff.mp rightBig).1 rightNonneg).mpr
        (rightAtMost.trans_lt (two_pow_lt_limit (by omega)))
    have exact : placeOf left * placeOf right ≤ 2 ^ (first + second) := by
      rw [pow_add]
      exact mul_le_mul leftAtMost rightAtMost rightNonneg (pow_nonneg zero_le_two first)
    exact ⟨one_le_mul leftBig rightBig,
      (rounds_mul leftFinite rightFinite leftNonneg rightNonneg).le_of_le
        (representable_two_pow (first + second)) exact⟩
  have one : 1.0 ≤ (1.0 : Float) ∧ placeOf 1.0 ≤ 2 ^ 0 := by
    rw [pow_zero]
    exact ⟨one_le_one, placeOf_one.le⟩
  exact (power_bounded (fun degree number => 1.0 ≤ number ∧ placeOf number ≤ 2 ^ degree) times one
    ⟨big, atMost⟩ exponent few).2

private theorem min_mul_le {first second most left right : ℚ} (leftBig : 1 ≤ left)
    (rightBig : 1 ≤ right) (nonneg : 0 ≤ second) (leftReached : min first most ≤ left)
    (rightReached : min second most ≤ right) : min (first * second) most ≤ left * right := by
  have leftNonneg : 0 ≤ left := zero_le_one.trans leftBig
  rcases le_total most first with leftMost | leftInside
  · rw [min_eq_right leftMost] at leftReached
    calc min (first * second) most
        ≤ most := min_le_right _ _
      _ ≤ left := leftReached
      _ ≤ left * right := le_mul_of_one_le_right leftNonneg rightBig
  · rw [min_eq_left leftInside] at leftReached
    rcases le_total most second with rightMost | rightInside
    · rw [min_eq_right rightMost] at rightReached
      calc min (first * second) most
          ≤ most := min_le_right _ _
        _ ≤ right := rightReached
        _ ≤ left * right := le_mul_of_one_le_left (zero_le_one.trans rightBig) leftBig
    · rw [min_eq_left rightInside] at rightReached
      calc min (first * second) most
          ≤ first * second := min_le_left _ _
        _ ≤ left * right := mul_le_mul leftReached rightReached nonneg leftNonneg

/-- Powers reach what the exact ones reach, or the limit. -/
theorem le_placeOf_power {base : Float} (big : 1.0 ≤ base) {bits : Nat}
    (atLeast : min (2 ^ bits) limit ≤ placeOf base) (exponent : Nat) :
    min (2 ^ (bits * exponent)) limit ≤ placeOf (power base exponent) := by
  have times : ∀ {first second : Nat} {left right : Float}, first + second ≤ bits * exponent →
      1.0 ≤ left ∧ min (2 ^ first) limit ≤ placeOf left →
        1.0 ≤ right ∧ min (2 ^ second) limit ≤ placeOf right →
          1.0 ≤ left * right ∧ min (2 ^ (first + second)) limit ≤ placeOf (left * right) := by
    intro first second left right _ ⟨leftBig, leftReached⟩ ⟨rightBig, rightReached⟩
    have exact : min (2 ^ (first + second)) limit ≤ placeOf left * placeOf right := by
      rw [pow_add]
      exact min_mul_le (one_le_placeOf leftBig) (one_le_placeOf rightBig)
        (pow_nonneg zero_le_two second) leftReached rightReached
    exact ⟨one_le_mul leftBig rightBig,
      (le_placeOf_mul leftBig rightBig (representable_two_pow (first + second)).min_limit
        (min_le_right _ _) exact).2⟩
  have one : 1.0 ≤ (1.0 : Float) ∧ min (2 ^ 0) limit ≤ placeOf 1.0 := by
    rw [pow_zero, placeOf_one]
    exact ⟨one_le_one, min_le_left _ _⟩
  exact (power_bounded (fun degree number => 1.0 ≤ number ∧ min (2 ^ degree) limit ≤ placeOf number)
    times one ⟨big, atLeast⟩ exponent (Nat.le_refl _)).2

/-! ### Nothing, grown -/

theorem placeOf_ofNat_two_pow (bits : Nat) :
    placeOf (Float.ofNat (2 ^ bits)) = min (2 ^ bits) limit := by
  have rounds := rounds_ofNat (2 ^ bits)
  rw [Nat.cast_pow, Nat.cast_ofNat] at rounds
  exact rounds.placeOf_eq_min (representable_two_pow bits)

def growth (policy : RetryPolicy) (attempts : Nat) : Float :=
  power policy.multiplier (min (attempts - 1) maxExponent)

theorem lesser_of_le {left right : Float} (known : left.isNaN = false)
    (atMost : placeOf left ≤ placeOf right) : lesser left right = left := by
  have notLess : ¬ right < left := fun less => absurd (lt_iff.mp less).2.2 (not_lt.mpr atMost)
  rw [lesser, if_neg notLess, if_neg (Bool.eq_false_iff.mp known)]

theorem lesser_of_isNaN {left right : Float} (unknown : left.isNaN = true) :
    lesser left right = right := by
  rw [lesser, if_pos unknown, ite_self]

theorem unpack_ofNat_zero : (Float.ofNat 0).toModel.unpack = .zero .positive := rfl

section Nothing

variable {policy : RetryPolicy} (none : policy.initialDelay = .zero)
  (big : 1.0 ≤ policy.multiplier) {attempts : Nat}

include none in
theorem baseDelay_eq_lesser :
    policy.baseDelay attempts =
      .ofMillis (lesser (Float.ofNat 0 * policy.growth attempts)
        (Float.ofNat policy.maxDelay.millis)).toUInt64.toNat := by
  rw [baseDelay, none]
  rfl

include none big

/-- As long as the power is finite, a delay that begins at nothing stays there. -/
theorem baseDelay_of_finite_growth (finite : (policy.growth attempts).isFinite = true) :
    policy.baseDelay attempts = .zero := by
  have grown : 1 ≤ placeOf (policy.growth attempts) := one_le_placeOf (one_le_power big _)
  have nothing : placeOf (Float.ofNat 0) = 0 := by rw [placeOf, unpack_ofNat_zero, place]
  have zeroFinite : (Float.ofNat 0).isFinite = true := rfl
  have product := rounds_mul zeroFinite finite nothing.ge (zero_le_one.trans grown)
  rw [nothing, zero_mul] at product
  have still : placeOf (Float.ofNat 0 * policy.growth attempts) = 0 :=
    product.placeOf_eq representable_zero limit_pos.le
  have least : placeOf (Float.ofNat 0 * policy.growth attempts) ≤
      placeOf (Float.ofNat policy.maxDelay.millis) :=
    still.trans_le (placeOf_ofNat_nonneg _)
  rw [baseDelay_eq_lesser none, lesser_of_le product.ordered least, toNat_toUInt64, still,
    Nat.floor_zero, Nat.zero_min]
  rfl

/-- Infinitely many times nothing is not a number, and the cap is. -/
theorem baseDelay_of_infinite_growth (infinite : (policy.growth attempts).isFinite = false) :
    policy.baseDelay attempts =
      .ofMillis (Float.ofNat policy.maxDelay.millis).toUInt64.toNat := by
  have endless : (policy.growth attempts).toModel.unpack = .infinity .positive :=
    unpack_of_not_isFinite (one_le_power big _) (by simp [infinite])
  have unknown := isNaN_zero_mul unpack_ofNat_zero endless
  rw [baseDelay_eq_lesser none, lesser_of_isNaN unknown]

end Nothing

/-- The power stays finite as long as the bits of all its factors fit the exponent. -/
theorem isFinite_growth_of_le {policy : RetryPolicy} (big : 1.0 ≤ policy.multiplier)
    {attempts bits : Nat} (atMost : policy.multiplier ≤ Float.ofNat (2 ^ bits))
    (few : bits * (attempts - 1) ≤ 1023) : (policy.growth attempts).isFinite = true := by
  have base : placeOf policy.multiplier ≤ 2 ^ bits :=
    ((le_iff.mp atMost).2.2.trans_eq (placeOf_ofNat_two_pow bits)).trans (min_le_left _ _)
  have within : bits * min (attempts - 1) maxExponent ≤ 1023 :=
    (Nat.mul_le_mul_left bits (Nat.min_le_left _ _)).trans few
  have grown := one_le_iff.mp (one_le_power big (min (attempts - 1) maxExponent))
  rw [growth, isFinite_iff grown.1 (zero_le_one.trans grown.2)]
  exact (placeOf_power_le big base within).trans_lt (two_pow_lt_limit within)

/-- The power is infinite once the bits of all its factors no longer fit the exponent. -/
theorem isFinite_growth_of_ge {policy : RetryPolicy} (big : 1.0 ≤ policy.multiplier)
    {attempts bits : Nat} (atLeast : Float.ofNat (2 ^ bits) ≤ policy.multiplier)
    (many : 1024 ≤ bits * min (attempts - 1) maxExponent) :
    (policy.growth attempts).isFinite = false := by
  have base : min (2 ^ bits) limit ≤ placeOf policy.multiplier :=
    (placeOf_ofNat_two_pow bits).ge.trans (le_iff.mp atLeast).2.2
  have grown := one_le_iff.mp (one_le_power big (min (attempts - 1) maxExponent))
  have reached := le_placeOf_power big base (min (attempts - 1) maxExponent)
  rw [min_eq_right (limit_le_two_pow many)] at reached
  rw [growth, ← Bool.not_eq_true, isFinite_iff grown.1 (zero_le_one.trans grown.2), not_lt]
  exact reached

/-- Without a first wait there is none at all, as long as the growth is finite: for a factor of at
most `2 ^ bits` as long as `bits * (attempts - 1)` is at most 1023. Where the growth is infinite
the wait is the cap, for a factor of at least `2 ^ bits` as soon as the same product is more. -/
theorem delay_of_no_initialDelay {policy : RetryPolicy} (none : policy.initialDelay = .zero)
    (big : 1.0 ≤ policy.multiplier) (attempts : Nat) :
    ((policy.growth attempts).isFinite = true →
      policy.baseDelay attempts = .zero ∧
        ∀ random, (policy.nextDelay attempts random).1 = .zero) ∧
      ((policy.growth attempts).isFinite = false →
        policy.baseDelay attempts =
            .ofMillis (Float.ofNat policy.maxDelay.millis).toUInt64.toNat ∧
          ∀ random, (policy.nextDelay attempts random).1 ≤ policy.baseDelay attempts) ∧
      (∀ bits, policy.multiplier ≤ Float.ofNat (2 ^ bits) → bits * (attempts - 1) ≤ 1023 →
        (policy.growth attempts).isFinite = true) ∧
      ∀ bits, Float.ofNat (2 ^ bits) ≤ policy.multiplier →
        1024 ≤ bits * min (attempts - 1) maxExponent →
          (policy.growth attempts).isFinite = false := by
  refine ⟨?_, ?_, fun bits => isFinite_growth_of_le big, fun bits => isFinite_growth_of_ge big⟩
  · intro finite
    have base := baseDelay_of_finite_growth none big finite
    refine ⟨base, fun random => ?_⟩
    have drawn := policy.nextDelay_le_baseDelay attempts random
    rw [base] at drawn
    exact Duration.eq_zero_of_le drawn
  · intro infinite
    exact ⟨baseDelay_of_infinite_growth none big infinite, policy.nextDelay_le_baseDelay attempts⟩

/-- A factor of three, which is between two and four. -/
theorem delay_of_no_initialDelay_tripling :
    let policy := { RetryPolicy.brief with initialDelay := .zero, multiplier := 3.0 }
    policy.initialDelay = .zero ∧ 1.0 ≤ policy.multiplier ∧
      policy.baseDelay 512 = .zero ∧ (policy.nextDelay 512 (.seeded 1)).1 = .zero ∧
      policy.baseDelay 1025 = .ofMillis 100 := by
  intro policy
  have none : policy.initialDelay = .zero := rfl
  have big : 1.0 ≤ policy.multiplier := by decide +kernel
  obtain ⟨nothing, _, small, _⟩ := delay_of_no_initialDelay none big 512
  obtain ⟨_, capped, _, large⟩ := delay_of_no_initialDelay none big 1025
  obtain ⟨base, next⟩ := nothing (small 2 (by decide +kernel) (by decide))
  have cap := (capped (large 1 (by decide +kernel) (by decide))).1
  exact ⟨none, big, base, next _, cap.trans (by decide +kernel)⟩

/-- With a factor of two the wait after the 1025th failure is the cap. -/
theorem delay_without_initialDelay_not_zero :
    ¬ ∀ policy : RetryPolicy, policy.initialDelay = .zero → policy.multiplier.isFinite = true →
      1.0 ≤ policy.multiplier → ∀ attempts : Nat, 1 ≤ attempts → ∀ random : Random,
        policy.baseDelay attempts = .zero ∧ (policy.nextDelay attempts random).1 = .zero := by
  intro always
  have late := always { RetryPolicy.brief with initialDelay := .zero } rfl (by decide +kernel)
    (by decide +kernel) 1025 (by decide) (.seeded 1)
  exact absurd late.1 (by decide +kernel)

end RowStream.RetryPolicy
