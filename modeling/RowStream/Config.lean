import RowStream.Decimal.Layout
import RowStream.Retry.Policy

/-!
Contract: the settings a session runs with.

Owns:
- `Config` and its presets;
- the request ceiling, the share of a message that rows may fill;
- `Config.validate` with the flaws it names, in the order in which they are looked for;
- the errors of loading a configuration.

Main statement: `Config.validate_eq_ok_iff`, a configuration passes exactly when it has
none of the flaws.
-/

namespace RowStream

structure Config where
  /-- Largest request the transport takes, in bytes. -/
  maxMessageBytes : UInt64
  /-- Share of `maxMessageBytes` that rows may fill; the rest is for the envelope. -/
  requestSizeRatio : Float
  /-- Pause between the last append and the request to finalize. -/
  finalizeQuiescence : Duration
  /-- Schedule for creating and finalizing the stream. -/
  retry : RetryPolicy
  /-- Codes treated as transient. -/
  retryableCodes : List StatusCode

namespace Config

def standard : Config where
  maxMessageBytes := 10000000
  requestSizeRatio := 0.95
  finalizeQuiescence := .ofMillis 500
  retry := .standard
  retryableCodes := Verdict.standardRetryable

instance : Inhabited Config := ⟨standard⟩

/-- Small requests and a short schedule without jitter. -/
def small : Config :=
  { standard with maxMessageBytes := 65536, retry := .brief }

/-- The configuration whose request ceiling is the given size. -/
def withCeiling (bytes : UInt64) : Config :=
  { small with maxMessageBytes := bytes, requestSizeRatio := 1.0 }

/-- Largest payload of one append request, in bytes. -/
def ceiling (config : Config) : Nat :=
  (config.maxMessageBytes.toFloat * config.requestSizeRatio).toUInt64.toNat

end Config

/-- What can be wrong with a configuration. -/
inductive ConfigFlaw where
  | noMessageBytes
  | ratioOutOfRange (ratio : Float)
  | ceilingZero
  | shrinkingDelays (multiplier : Float)
  | capBelowInitialDelay
  /-- A flaw found by a caller, in its own words. -/
  | other (message : String)

def ConfigFlaw.text : ConfigFlaw → String
  | .noMessageBytes => "max_message_bytes must be positive"
  | .ratioOutOfRange ratio =>
      s!"request_size_ratio must be in (0, 1], got {FloatLayout.plain.write ratio}"
  | .ceilingZero => "request ceiling rounds down to zero bytes"
  | .shrinkingDelays multiplier =>
      s!"retry_delay_multiplier must be >= 1.0, got {FloatLayout.plain.write multiplier}"
  | .capBelowInitialDelay => "max_retry_delay must not be shorter than initial_retry_delay"
  | .other message => message

/-- A failure of the operating system, as far as it concerns this library. -/
inductive SystemError where
  | noSuchFile
  | invalidText
  | other (message : String)
deriving DecidableEq, Repr

def SystemError.text : SystemError → String
  | .noSuchFile => "No such file or directory (os error 2)"
  | .invalidText => "stream did not contain valid UTF-8"
  | .other message => message

/-- Why no configuration could be loaded. -/
inductive ConfigError where
  | unreadable (cause : SystemError)
  | malformed
  | invalid (flaw : ConfigFlaw)

namespace ConfigError

private def malformedDetail : String := "document does not describe a configuration"

def text : ConfigError → String
  | .unreadable cause => s!"config I/O error: {cause.text}"
  | .malformed => s!"config parse error: {malformedDetail}"
  | .invalid flaw => s!"invalid config: {flaw.text}"

/-- The texts of the underlying errors, outermost first. -/
def causes : ConfigError → List String
  | .unreadable cause => [cause.text]
  | .malformed => [malformedDetail]
  | .invalid _ => []

end ConfigError

namespace Config

/-- The first flaw of a configuration, if it has any. -/
def validate (config : Config) : Except ConfigFlaw Unit :=
  if config.maxMessageBytes = 0 then
    .error .noMessageBytes
  else if ¬(0.0 < config.requestSizeRatio ∧ config.requestSizeRatio ≤ 1.0) then
    .error (.ratioOutOfRange config.requestSizeRatio)
  else if config.ceiling = 0 then
    .error .ceilingZero
  else if config.retry.multiplier < 1.0 then
    .error (.shrinkingDelays config.retry.multiplier)
  else if config.retry.maxDelay < config.retry.initialDelay then
    .error .capBelowInitialDelay
  else
    .ok ()

/-- What a configuration must satisfy to be used. -/
structure Sound (config : Config) : Prop where
  message_pos : 0 < config.maxMessageBytes.toNat
  ratio_pos : 0.0 < config.requestSizeRatio
  ratio_le_one : config.requestSizeRatio ≤ 1.0
  ceiling_pos : 1 ≤ config.ceiling
  not_shrinking : ¬ config.retry.multiplier < 1.0
  initial_le_cap : config.retry.initialDelay ≤ config.retry.maxDelay

/-- The checks are made one after the other, the first that fails is told, and all of them
together say that the settings are sound. -/
theorem validate_eq_ok_iff (config : Config) : config.validate = .ok () ↔ config.Sound := by
  have capIff : ¬ config.retry.maxDelay < config.retry.initialDelay ↔
      config.retry.initialDelay ≤ config.retry.maxDelay := Nat.not_lt
  have messageIff : ¬ config.maxMessageBytes = 0 ↔ 0 < config.maxMessageBytes.toNat := by
    rw [Nat.pos_iff_ne_zero, ne_eq, ← UInt64.toNat_inj, UInt64.toNat_zero]
  constructor
  · intro passes
    unfold validate at passes
    split at passes
    · simp at passes
    · split at passes
      · simp at passes
      · split at passes
        · simp at passes
        · split at passes
          · simp at passes
          · split at passes
            · simp at passes
            · rename_i message ratio ceiling shrinking cap
              have ratio := Classical.not_not.mp ratio
              exact ⟨messageIff.mp message, ratio.1, ratio.2, Nat.one_le_iff_ne_zero.mpr ceiling,
                shrinking, capIff.mp cap⟩
  · intro sound
    have message := messageIff.mpr sound.message_pos
    have ceiling : ¬ config.ceiling = 0 := Nat.one_le_iff_ne_zero.mp sound.ceiling_pos
    have cap := capIff.mpr sound.initial_le_cap
    simp [validate, message, sound.ratio_pos, sound.ratio_le_one, ceiling, sound.not_shrinking,
      cap]

end Config

end RowStream
