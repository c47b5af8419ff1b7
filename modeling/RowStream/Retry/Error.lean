import RowStream.Retry.Policy

/-!
Contract: the final failure of a retried operation.

Owns: the reasons for giving up, and the error that carries the operation's name, the
number of attempts and the last status.
-/

namespace RowStream

/-- Why a retried operation gave up. -/
inductive GiveUpReason where
  /-- The last failure was judged not to be transient. -/
  | nonRetryable (verdict : Verdict)
  /-- The budget of attempts or of time is spent. -/
  | exhausted
  /-- Cancelled before the first attempt or while waiting for the next. -/
  | interrupted
  /-- No budget was set and no attempt settled the matter within the number of calls that
  a run makes at most. -/
  | unsettled
deriving DecidableEq, Repr

structure RetryError where
  operation : String
  attempts : Nat
  reason : GiveUpReason
  lastStatus : Option Status
deriving DecidableEq, Repr

def GiveUpReason.text : GiveUpReason → String
  | .nonRetryable verdict => s!"non-retryable failure ({verdict.name})"
  | .exhausted => "retries exhausted"
  | .interrupted => "interrupted"
  | .unsettled => "unsettled"

namespace RetryError

def text (error : RetryError) : String :=
  let summary :=
    s!"{error.operation} failed after {error.attempts} attempt(s): {error.reason.text}"
  match error.lastStatus with
  | none => summary
  | some status => s!"{summary}, last status {status.text}"

/-- The texts of the underlying errors, outermost first. -/
def causes (error : RetryError) : List String :=
  (error.lastStatus.map Status.text).toList

end RetryError

end RowStream
