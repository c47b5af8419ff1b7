/-!
Contract: spans of time and the simulated clock.

Owns:
- `Duration`, a span in whole nanoseconds, with truncating access in milliseconds;
- `SimClock`, a clock that moves only when told to or slept on, and remembers every sleep.

Times are milliseconds in a 64-bit word: advancing wraps around, adding a span to a
timestamp stops at the last one.
-/

namespace RowStream

/-- A span of time in nanoseconds. -/
structure Duration where
  nanos : Nat
deriving DecidableEq, Repr

namespace Duration

def zero : Duration := ⟨0⟩

def ofMillis (millis : Nat) : Duration := ⟨1000000 * millis⟩

/-- Whole milliseconds; a rest is dropped. -/
def millis (duration : Duration) : Nat := duration.nanos / 1000000

/-- Whole milliseconds as a word; high bits are dropped. -/
def millisWord (duration : Duration) : UInt64 := UInt64.ofNat duration.millis

/-- Whole milliseconds of several spans, each without its rest. -/
def totalMillis : List Duration → Nat
  | [] => 0
  | duration :: later => duration.millis + totalMillis later

def add (left right : Duration) : Duration := ⟨left.nanos + right.nanos⟩

instance : Add Duration := ⟨add⟩

instance : LT Duration := ⟨fun left right => left.nanos < right.nanos⟩

instance : LE Duration := ⟨fun left right => left.nanos ≤ right.nanos⟩

instance (left right : Duration) : Decidable (left < right) :=
  inferInstanceAs (Decidable (left.nanos < right.nanos))

instance (left right : Duration) : Decidable (left ≤ right) :=
  inferInstanceAs (Decidable (left.nanos ≤ right.nanos))

@[simp] theorem millis_ofMillis (millis : Nat) : (ofMillis millis).millis = millis := by
  simp [ofMillis, Duration.millis]

@[simp] theorem totalMillis_nil : totalMillis [] = 0 := rfl

@[simp] theorem totalMillis_cons (duration : Duration) (later : List Duration) :
    totalMillis (duration :: later) = duration.millis + totalMillis later := rfl

theorem nanos_add (left right : Duration) :
    (left + right).nanos = left.nanos + right.nanos := rfl

theorem le_iff_nanos_le {left right : Duration} : left ≤ right ↔ left.nanos ≤ right.nanos :=
  Iff.rfl

theorem eq_zero_of_le {duration : Duration} (atMost : duration ≤ zero) : duration = zero := by
  cases duration with
  | mk nanos => exact congrArg mk (Nat.le_zero.mp (le_iff_nanos_le.mp atMost))

@[simp] theorem nanos_ofMillis (millis : Nat) : (ofMillis millis).nanos = 1000000 * millis := rfl

theorem ofMillis_le_ofMillis {left right : Nat} :
    ofMillis left ≤ ofMillis right ↔ left ≤ right := by
  rw [le_iff_nanos_le, nanos_ofMillis, nanos_ofMillis]
  omega

/-- What is dropped of a span makes no difference to whole milliseconds. -/
theorem ofMillis_le_iff {millis : Nat} {duration : Duration} :
    ofMillis millis ≤ duration ↔ millis ≤ duration.millis := by
  rw [le_iff_nanos_le, nanos_ofMillis, Duration.millis]
  omega

theorem millis_ofMillis_add (millis : Nat) (duration : Duration) :
    (ofMillis millis + duration).millis = millis + duration.millis := by
  rw [Duration.millis, nanos_add, nanos_ofMillis, Duration.millis]
  omega

end Duration

/-- The timestamp a span after `timestamp`, or the last one if there is none. -/
def timestampAfter (timestamp : UInt64) (duration : Duration) : UInt64 :=
  let sum := timestamp + duration.millisWord
  if sum < timestamp then UInt64.ofNat (UInt64.size - 1) else sum

/-- The span from one timestamp to a later one, and nothing if it is not later. -/
def timeBetween (earlier later : UInt64) : Duration :=
  Duration.ofMillis (later.toNat - earlier.toNat)

/-- Virtual time, with the sleeps requested so far. -/
structure SimClock where
  now : UInt64 := 0
  sleeps : Array Duration := #[]
deriving DecidableEq, Repr

namespace SimClock

def advance (duration : Duration) (clock : SimClock) : SimClock :=
  { clock with now := clock.now + duration.millisWord }

def set (now : UInt64) (clock : SimClock) : SimClock :=
  { clock with now := now }

/-- Records the request and moves past it at once. -/
def sleep (duration : Duration) (clock : SimClock) : SimClock :=
  { now := clock.now + duration.millisWord, sleeps := clock.sleeps.push duration }

def elapsed (since : UInt64) (clock : SimClock) : Duration :=
  timeBetween since clock.now

/-- The sleeps requested since an earlier state of the clock. -/
def sleepsSince (clock earlier : SimClock) : List Duration :=
  clock.sleeps.toList.drop earlier.sleeps.size

theorem sleepsSince_eq {earlier clock : SimClock} {sleeps : List Duration}
    (kept : clock.sleeps.toList = earlier.sleeps.toList ++ sleeps) :
    clock.sleepsSince earlier = sleeps := by
  rw [sleepsSince, kept, ← Array.length_toList, List.drop_left]

/-- As long as the clock does not wrap around, it moves on by whole milliseconds. -/
theorem toNat_now_advance {duration : Duration} {clock : SimClock}
    (unwrapped : clock.now.toNat + duration.millis < UInt64.size) :
    (clock.advance duration).now.toNat = clock.now.toNat + duration.millis := by
  have word : UInt64.size = 2 ^ 64 := rfl
  rw [advance, UInt64.toNat_add, Duration.millisWord, UInt64.toNat_ofNat']
  omega

/-- Less than a millisecond is no time. -/
theorem now_advance_of_millis {duration : Duration} {clock : SimClock}
    (instant : duration.millis = 0) : (clock.advance duration).now = clock.now := by
  rw [advance, Duration.millisWord, instant]
  exact UInt64.add_zero clock.now

theorem advance_zero (clock : SimClock) : clock.advance .zero = clock :=
  congrArg (SimClock.mk · clock.sleeps) (UInt64.add_zero clock.now)

/-- A sleep moves the clock by its whole milliseconds, unless it wraps around. -/
theorem toNat_now_sleep {duration : Duration} {clock : SimClock}
    (unwrapped : clock.now.toNat + duration.millis < UInt64.size) :
    (clock.sleep duration).now.toNat = clock.now.toNat + duration.millis :=
  toNat_now_advance unwrapped

@[simp] theorem sleeps_advance (duration : Duration) (clock : SimClock) :
    (clock.advance duration).sleeps = clock.sleeps := rfl

@[simp] theorem sleeps_sleep (duration : Duration) (clock : SimClock) :
    (clock.sleep duration).sleeps = clock.sleeps.push duration := rfl

end SimClock

end RowStream
