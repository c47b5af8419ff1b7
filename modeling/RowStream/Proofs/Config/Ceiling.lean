import RowStream.Config
import RowStream.Proofs.Binary64.Arithmetic

/-!
Contract: how much of a message rows may fill.

Owns: `Config.slack`, by how much a word can change when it is cast to a float and back.

Main statements: `Config.ceiling_le`, for any share that a configuration may ask for, and
`Config.ceiling_withCeiling`, for the whole of a message. Up to 2^53 bytes nothing changes.
-/

namespace RowStream.Config

open Binary64

/-- One part in `2 ^ 53 + 1`. -/
def slack (bytes : UInt64) : Nat := bytes.toNat / (2 ^ 53 + 1)

/-- Up to the length of the significand the ceiling is the one that was asked for. -/
theorem slack_eq_zero {bytes : UInt64} (few : bytes.toNat ≤ 2 ^ 53) : slack bytes = 0 :=
  Nat.div_eq_of_lt (by omega)

/-- Only the cast can bring the ceiling above the largest message, and not the share. -/
theorem ceiling_le {config : Config} (some : 0.0 < config.requestSizeRatio)
    (part : config.requestSizeRatio ≤ 1.0) :
    config.ceiling ≤ config.maxMessageBytes.toNat + slack config.maxMessageBytes := by
  have share : placeOf (config.maxMessageBytes.toFloat * config.requestSizeRatio) ≤
      placeOf config.maxMessageBytes.toFloat :=
    placeOf_mul_le (isFinite_toFloat _) (placeOf_toFloat_nonneg _) some part
  calc config.ceiling
      ≤ config.maxMessageBytes.toFloat.toUInt64.toNat := toUInt64_mono share
    _ ≤ config.maxMessageBytes.toNat + slack config.maxMessageBytes :=
        (toNat_toUInt64_toFloat config.maxMessageBytes).1

theorem ceiling_withCeiling (bytes : UInt64) :
    (withCeiling bytes).ceiling ≤ bytes.toNat + slack bytes ∧
      bytes.toNat ≤ (withCeiling bytes).ceiling + slack bytes := by
  have whole : (withCeiling bytes).ceiling = bytes.toFloat.toUInt64.toNat := by
    show (bytes.toFloat * 1.0).toUInt64.toNat = _
    rw [toNat_toUInt64, toNat_toUInt64,
      placeOf_mul_one (isFinite_toFloat bytes) (placeOf_toFloat_nonneg bytes)]
  rw [whole]
  exact toNat_toUInt64_toFloat bytes

end RowStream.Config
