/-!
Contract: random draws as positions in an endless sequence of 64-bit words.

Owns:
- `Random`, a word sequence together with the number of words already drawn;
- the two draws the library is built on, a bounded integer and a biased coin.

A generator is any function from positions to words, so a statement about every
`Random` is a statement about every generator and every seed.
-/

namespace RowStream

/-- An endless sequence of words, of which the first `drawn` have been used. -/
structure Random where
  word : Nat → UInt64
  drawn : Nat := 0

namespace Random

/-- The next word, and the generator past it. -/
def next (random : Random) : UInt64 × Random :=
  (random.word random.drawn, { random with drawn := random.drawn + 1 })

/-- Passes over `count` words. -/
def skip (count : Nat) (random : Random) : Random :=
  { random with drawn := random.drawn + count }

/-- A word from the half-open interval `[low, high)`. An empty interval answers
`low` and draws nothing. -/
def range (low high : UInt64) (random : Random) : UInt64 × Random :=
  if high ≤ low then
    (low, random)
  else
    let (drawnWord, rest) := random.next
    (low + drawnWord % (high - low), rest)

/-- A coin that falls `true` when the next word, scaled to the unit interval, lies
below `probability`. -/
def chance (probability : Float) (random : Random) : Bool × Random :=
  let (drawnWord, rest) := random.next
  (decide (drawnWord.toFloat / (UInt64.ofNat (UInt64.size - 1)).toFloat < probability), rest)

@[simp] theorem range_of_le {low high : UInt64} (empty : high ≤ low) (random : Random) :
    random.range low high = (low, random) := by
  simp [range, empty]

/-- A word from an interval that is not empty lies in it. -/
theorem range_mem {low high : UInt64} (nonempty : low < high) (random : Random) :
    low ≤ (random.range low high).1 ∧ (random.range low high).1 < high := by
  have drawn : (random.range low high).1 =
      low + random.word random.drawn % (high - low) := by
    rw [range, if_neg (UInt64.not_le.mpr nonempty)]
    rfl
  have width : (high - low).toNat = high.toNat - low.toNat :=
    UInt64.toNat_sub_of_le _ _ (UInt64.le_of_lt nonempty)
  have ordered : low.toNat < high.toNat := nonempty
  have rest : (random.word random.drawn).toNat % (high - low).toNat < (high - low).toNat :=
    Nat.mod_lt _ (by omega)
  have word := high.toNat_lt
  rw [drawn, UInt64.le_iff_toNat_le, UInt64.lt_iff_toNat_lt, UInt64.toNat_add, UInt64.toNat_mod]
  omega

@[simp] theorem drawn_next (random : Random) : random.next.2.drawn = random.drawn + 1 := rfl

@[simp] theorem word_next (random : Random) : random.next.2.word = random.word := rfl

end Random

end RowStream
