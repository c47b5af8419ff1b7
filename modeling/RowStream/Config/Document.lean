import RowStream.Config

/-!
Contract: configurations as parts of documents, whatever the document's format.

Owns:
- `Shape`, the two ways in which a record can be written: as named members or as a row of
  values in the order of its fields;
- `ValueReader`, what a format must be able to say about its values;
- `Config.ofValue?`, the configuration that a value describes.

Missing settings take their standard value. Names that mean nothing are passed over; a
name that means something may occur only once.
-/

namespace RowStream

/-- How a record is written. -/
inductive Shape (ν : Type) where
  | named (members : List (String × ν))
  /-- Values in the order of the fields; `strict` refuses values beyond the last field. -/
  | row (values : List ν) (strict : Bool)

namespace Shape

variable {ν : Type}

/-- The value of one field: `none` if it is written twice, `some none` if it is missing. -/
def field? (shape : Shape ν) (position : Nat) (name : String) : Option (Option ν) :=
  match shape with
  | .named members =>
      match members.filter fun member => member.1 == name with
      | [] => some none
      | [member] => some (some member.2)
      | _ => none
  | .row values _ => some values[position]?

/-- The setting in one field, the standard one if it is missing. -/
def setting? {α : Type} (shape : Shape ν) (position : Nat) (name : String)
    (read : ν → Option α) (standard : α) : Option α :=
  match shape.field? position name with
  | none => none
  | some none => some standard
  | some (some value) => read value

/-- Whether there is no value beyond the last of `count` fields, or none that matters. -/
def fits (shape : Shape ν) (count : Nat) : Bool :=
  match shape with
  | .named _ => true
  | .row values strict => !strict || decide (values.length ≤ count)

end Shape

/-- What a format says about its values. -/
structure ValueReader (ν : Type) where
  shape? : ν → Option (Shape ν)
  /-- A whole number from zero to the limit. -/
  natural? : (limit : Nat) → ν → Option Nat
  float? : ν → Option Float
  flag? : ν → Option Bool
  items? : ν → Option (List ν)
  code? : ν → Option StatusCode

namespace ValueReader

variable {ν : Type}

def duration? (reader : ValueReader ν) (value : ν) : Option Duration :=
  (reader.natural? (UInt64.size - 1) value).map Duration.ofMillis

def codes? (reader : ValueReader ν) (value : ν) : Option (List StatusCode) :=
  (reader.items? value).bind fun items => items.mapM reader.code?

end ValueReader

/-- The retry policy that a value describes. -/
def RetryPolicy.ofValue? {ν : Type} (reader : ValueReader ν) (value : ν) :
    Option RetryPolicy := do
  let shape ← reader.shape? value
  let standard := RetryPolicy.standard
  let initialDelay ←
    shape.setting? 0 "initial_retry_delay" reader.duration? standard.initialDelay
  let multiplier ← shape.setting? 1 "retry_delay_multiplier" reader.float? standard.multiplier
  let maxDelay ← shape.setting? 2 "max_retry_delay" reader.duration? standard.maxDelay
  let maxAttempts ← shape.setting? 3 "max_attempts" (reader.natural? (UInt32.size - 1))
    standard.maxAttempts.toNat
  let totalTimeout ←
    shape.setting? 4 "total_timeout" reader.duration? standard.totalTimeout
  let jittered ← shape.setting? 5 "jittered" reader.flag? standard.jittered
  if shape.fits 6 then
    some ⟨initialDelay, multiplier, maxDelay, UInt32.ofNat maxAttempts, totalTimeout, jittered⟩
  else
    none

namespace Config

/-- The configuration that a value describes. -/
def ofValue? {ν : Type} (reader : ValueReader ν) (value : ν) : Option Config := do
  let shape ← reader.shape? value
  let maxMessageBytes ← shape.setting? 0 "max_message_bytes" (reader.natural? (UInt64.size - 1))
    standard.maxMessageBytes.toNat
  let requestSizeRatio ←
    shape.setting? 1 "request_size_ratio" reader.float? standard.requestSizeRatio
  let finalizeQuiescence ←
    shape.setting? 2 "finalize_quiescence" reader.duration? standard.finalizeQuiescence
  let retry ← shape.setting? 3 "retry" (RetryPolicy.ofValue? reader) standard.retry
  let retryableCodes ←
    shape.setting? 4 "retryable_codes" reader.codes? standard.retryableCodes
  if shape.fits 5 then
    some ⟨UInt64.ofNat maxMessageBytes, requestSizeRatio, finalizeQuiescence, retry,
      retryableCodes⟩
  else
    none

end Config

end RowStream
