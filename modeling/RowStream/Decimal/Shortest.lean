/-!
Contract: the shortest decimal that reads back as a given binary number.

Owns:
- `Decimal`, a natural number times a power of ten, and the nearest binary number to it;
- `Decimal.shortest`, the decimal with the fewest digits among those that read back as a
  finite positive number, and of two such the nearer one.

Main statements: `Decimal.toFloat_gridPoint?`, what the search finds on a grid reads back
as the number it was found for, and `Decimal.shortest_spec`, the shortest decimal is such a
find or all digits, without zeros at the end.
-/

namespace RowStream

/-- `digits` times ten to the power `exponent`. -/
structure Decimal where
  digits : Nat
  exponent : Int
deriving DecidableEq, Repr

/-- Which way an exact tie between two neighbours goes. -/
inductive Tie where
  | up
  | toEven
deriving DecidableEq, Repr

namespace Decimal

/-- The nearest binary number. -/
def toFloat (decimal : Decimal) : Float :=
  if 0 ≤ decimal.exponent then
    Float.ofScientific decimal.digits false decimal.exponent.toNat
  else
    Float.ofScientific decimal.digits true (-decimal.exponent).toNat

/-- Whether a number carries a minus sign, which zero can do too. -/
def isNegative (value : Float) : Bool := value.toBits >>> 63 == 1

/-- Numerator and denominator of the magnitude of a finite number. -/
def magnitudeRatio (value : Float) : Nat × Nat :=
  let bits := value.toBits.toNat
  let hidden := 1 <<< 52
  let field := (bits >>> 52) % (1 <<< 11)
  let fraction := bits % hidden
  let significand := if field = 0 then fraction else hidden + fraction
  let power := max field 1
  if 1075 ≤ power then
    (significand <<< (power - 1075), 1)
  else
    (significand, 1 <<< (1075 - power))

/-- How many decimal digits a natural number is written with. -/
def digitCount (value : Nat) : Nat :=
  (Nat.toDigits 10 value).length

/-- The power of ten just above a positive ratio: the ratio lies below ten to this power
and not below ten to the power before. -/
def leadingPower (numerator denominator : Nat) : Int :=
  if denominator ≤ numerator then
    digitCount (numerator / denominator)
  else
    1 - (digitCount ((denominator + numerator - 1) / numerator - 1) : Int)

/-- Of the two neighbours of a magnitude on the grid of multiples of ten to the power
`exponent`, the one that reads back as `value`; the nearer one if both do. -/
def gridPoint? (tie : Tie) (value : Float) (exponent : Int) : Option Decimal :=
  let (numerator, denominator) := magnitudeRatio value
  let scaledNumerator := numerator * Nat.pow 10 (-exponent).toNat
  let scaledDenominator := denominator * Nat.pow 10 exponent.toNat
  let below : Decimal := ⟨scaledNumerator / scaledDenominator, exponent⟩
  let above : Decimal := ⟨scaledNumerator / scaledDenominator + 1, exponent⟩
  let twiceRemainder := 2 * (scaledNumerator % scaledDenominator)
  let preferAbove :=
    scaledDenominator < twiceRemainder ||
      (twiceRemainder == scaledDenominator && (tie == .up || below.digits % 2 == 1))
  let candidates := if preferAbove then [above, below] else [below, above]
  candidates.find? fun candidate => candidate.toFloat.toBits == value.toBits

/-- All digits of a magnitude. -/
def exact (value : Float) : Decimal :=
  let (numerator, denominator) := magnitudeRatio value
  let places := denominator.log2
  ⟨numerator * Nat.pow 5 places, -(places : Int)⟩

private def dropTrailingZeros : Nat → Decimal → Decimal
  | 0, decimal => decimal
  | fuel + 1, decimal =>
      if decimal.digits ≠ 0 ∧ decimal.digits % 10 = 0 then
        dropTrailingZeros fuel ⟨decimal.digits / 10, decimal.exponent + 1⟩
      else
        decimal

/-- The decimal with the fewest digits that reads back as `value`, which is finite and
positive. Seventeen digits always suffice. -/
def shortest (tie : Tie) (value : Float) : Decimal :=
  let (numerator, denominator) := magnitudeRatio value
  let leading := leadingPower numerator denominator
  let found := (List.range 17).findSome? fun precision =>
    gridPoint? tie value (leading - (precision + 1 : Nat))
  let decimal := found.getD (exact value)
  dropTrailingZeros (digitCount decimal.digits) decimal

/-- A point of the grid is taken only if it is read back as the number it stands for. -/
theorem toFloat_gridPoint? {tie : Tie} {value : Float} {exponent : Int} {decimal : Decimal}
    (found : gridPoint? tie value exponent = some decimal) :
    decimal.toFloat.toBits = value.toBits := by
  unfold gridPoint? at found
  simpa using List.find?_some found

/-- What is left without zeros at the end, how many there were, and that none is left, as long as
there is fuel for all digits. -/
private theorem dropTrailingZeros_spec (fuel : Nat) (decimal : Decimal) :
    ∃ zeros : Nat,
      decimal.digits = (dropTrailingZeros fuel decimal).digits * Nat.pow 10 zeros ∧
        (dropTrailingZeros fuel decimal).exponent = decimal.exponent + zeros ∧
        (decimal.digits ≠ 0 → decimal.digits < Nat.pow 10 fuel →
          (dropTrailingZeros fuel decimal).digits % 10 ≠ 0) := by
  induction fuel generalizing decimal with
  | zero =>
      refine ⟨0, (Nat.mul_one _).symm, (Int.add_zero _).symm, ?_⟩
      intro some few
      exact absurd (Nat.lt_one_iff.mp few) some
  | succ fuel inductionHypothesis =>
      rw [dropTrailingZeros]
      split
      · next whole =>
          obtain ⟨zeros, digits, exponent, trimmed⟩ :=
            inductionHypothesis ⟨decimal.digits / 10, decimal.exponent + 1⟩
          have tenth : decimal.digits = decimal.digits / 10 * 10 := by omega
          refine ⟨zeros + 1, ?_, ?_, ?_⟩
          · have more : Nat.pow 10 (zeros + 1) = Nat.pow 10 zeros * 10 := rfl
            rw [more, ← Nat.mul_assoc, ← digits]
            exact tenth
          · rw [exponent]
            show decimal.exponent + 1 + zeros = decimal.exponent + (zeros + 1 : Nat)
            omega
          · intro some few
            have more : Nat.pow 10 (fuel + 1) = Nat.pow 10 fuel * 10 := rfl
            rw [more] at few
            exact trimmed (show decimal.digits / 10 ≠ 0 by omega) (Nat.div_lt_of_lt_mul
              (Nat.mul_comm _ _ ▸ few))
      · next part =>
          refine ⟨0, (Nat.mul_one _).symm, (Int.add_zero _).symm, ?_⟩
          intro some _ zero
          exact part ⟨some, zero⟩

/-- The shortest decimal is what the search finds, or all digits of the magnitude, without the
zeros at the end. -/
theorem shortest_spec (tie : Tie) (value : Float) :
    ∃ (found : Decimal) (zeros : Nat),
      ((∃ exponent, gridPoint? tie value exponent = some found) ∨ found = exact value) ∧
        found.digits = (shortest tie value).digits * Nat.pow 10 zeros ∧
        (shortest tie value).exponent = found.exponent + zeros ∧
        (found.digits ≠ 0 → (shortest tie value).digits % 10 ≠ 0) := by
  have all (decimal : Decimal) : decimal.digits < Nat.pow 10 (digitCount decimal.digits) := by
    have length : digitCount decimal.digits ≤ digitCount decimal.digits := Nat.le_refl _
    exact (Nat.length_toDigits_le_iff (by decide) Nat.length_toDigits_pos).mp length
  have spec (found : Decimal) := dropTrailingZeros_spec (digitCount found.digits) found
  unfold shortest
  dsimp only
  cases search : (List.range 17).findSome? fun precision =>
      gridPoint? tie value (leadingPower (magnitudeRatio value).1 (magnitudeRatio value).2 -
        (precision + 1 : Nat)) with
  | none =>
      obtain ⟨zeros, digits, exponent, trimmed⟩ := spec (exact value)
      exact ⟨exact value, zeros, .inr rfl, digits, exponent, fun some => trimmed some (all _)⟩
  | some found =>
      obtain ⟨precision, _, hit⟩ := List.exists_of_findSome?_eq_some search
      obtain ⟨zeros, digits, exponent, trimmed⟩ := spec found
      exact ⟨found, zeros, .inl ⟨_, hit⟩, digits, exponent, fun some => trimmed some (all _)⟩

end Decimal

end RowStream
