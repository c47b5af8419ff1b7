import RowStream.Config.Document
import RowStream.Json.Reader

/-!
Contract: configurations as JSON.

Owns: `Config.toJson`, with all settings in the order of their fields, and
`Config.ofJson?`, which reads a document that may leave settings out.
-/

namespace RowStream

/-- A status code by its name, or as the only member of an object without a value. -/
def StatusCode.ofJson? : Json → Option StatusCode
  | .string name => ofName? name
  | .object [(name, .null)] => ofName? name
  | _ => none

/-- What JSON says about its values. -/
def ValueReader.json : ValueReader Json where
  shape?
    | .object members => some (.named members)
    | .array items => some (.row items true)
    | _ => none
  natural? limit
    | .number (.integer value) =>
        if 0 ≤ value ∧ value ≤ limit then some value.toNat else none
    | _ => none
  float?
    | .number numeral => if numeral.toFloat.isInf then none else some numeral.toFloat
    | _ => none
  flag?
    | .bool value => some value
    | _ => none
  items?
    | .array items => some items
    | _ => none
  code? := StatusCode.ofJson?

/-- A span in milliseconds, as far as they fit into a word. -/
def Duration.toJson (duration : Duration) : Json := .nat duration.millisWord.toNat

def RetryPolicy.toJson (policy : RetryPolicy) : Json :=
  .object
    [("initial_retry_delay", policy.initialDelay.toJson),
     ("retry_delay_multiplier", .float policy.multiplier),
     ("max_retry_delay", policy.maxDelay.toJson),
     ("max_attempts", .nat policy.maxAttempts.toNat),
     ("total_timeout", policy.totalTimeout.toJson),
     ("jittered", .bool policy.jittered)]

namespace Config

def toJson (config : Config) : Json :=
  .object
    [("max_message_bytes", .nat config.maxMessageBytes.toNat),
     ("request_size_ratio", .float config.requestSizeRatio),
     ("finalize_quiescence", config.finalizeQuiescence.toJson),
     ("retry", config.retry.toJson),
     ("retryable_codes", .array (config.retryableCodes.map fun code => .string code.name))]

/-- The configuration as a JSON text. -/
def toJsonText (config : Config) : String := config.toJson.compact

/-- The configuration that a JSON text describes. Its flaws are not looked for. -/
def ofJsonText? (text : String) : Option Config :=
  (Json.parse? text).bind (ofValue? ValueReader.json)

end Config

end RowStream
