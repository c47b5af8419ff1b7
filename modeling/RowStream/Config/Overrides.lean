import RowStream.Config
import RowStream.Text.Blank
import RowStream.Text.Number

/-!
Contract: settings taken from named variables.

Owns: the seven variables that replace a setting, and `Config.override`, which applies
them to a configuration.

A value is trimmed first; one that does not read as a number of the setting's kind is
passed over.
-/

namespace RowStream.Config

private def word? (text : String) : Option UInt64 :=
  (Text.unsigned? (UInt64.size - 1) text).map UInt64.ofNat

private def halfWord? (text : String) : Option UInt32 :=
  (Text.unsigned? (UInt32.size - 1) text).map UInt32.ofNat

private def duration? (text : String) : Option Duration :=
  (Text.unsigned? (UInt64.size - 1) text).map Duration.ofMillis

/-- The configuration with every setting replaced whose variable holds a readable value. -/
def override (lookup : String → Option String) (config : Config) : Config :=
  let setting {α : Type} (name : String) (read : String → Option α) (current : α) : α :=
    (((lookup name).map Text.trimBlanks).bind read).getD current
  { config with
    maxMessageBytes := setting "WRITE_STREAM_MAX_MESSAGE_BYTES" word? config.maxMessageBytes
    requestSizeRatio :=
      setting "WRITE_STREAM_REQUEST_SIZE_RATIO" Text.float? config.requestSizeRatio
    finalizeQuiescence :=
      setting "WRITE_STREAM_FINALIZE_QUIESCENCE_MS" duration? config.finalizeQuiescence
    retry :=
      { config.retry with
        maxAttempts :=
          setting "WRITE_STREAM_RETRY_MAX_ATTEMPTS" halfWord? config.retry.maxAttempts
        initialDelay :=
          setting "WRITE_STREAM_RETRY_INITIAL_DELAY_MS" duration? config.retry.initialDelay
        maxDelay := setting "WRITE_STREAM_RETRY_MAX_DELAY_MS" duration? config.retry.maxDelay
        totalTimeout :=
          setting "WRITE_STREAM_RETRY_TOTAL_TIMEOUT_MS" duration? config.retry.totalTimeout } }

end RowStream.Config
