/-!
Contract: the named places at which a fault can be injected.

Owns:
- `FaultPoint`, one constructor a place, listed in declaration order by `FaultPoint.all`;
- the identifier and the default probability of each place.
-/

namespace RowStream

/-- A place in the conversation with the service at which a fault can strike. -/
inductive FaultPoint where
  | createUnavailable
  | createInvalidArgument
  | appendServerError
  | appendOffsetSkew
  | appendResponseDropped
  | finalizeUnavailable
  | finalizeDeadlineExceeded
deriving DecidableEq, Repr

namespace FaultPoint

/-- Every place, in declaration order. -/
def all : List FaultPoint :=
  [.createUnavailable, .createInvalidArgument, .appendServerError, .appendOffsetSkew,
   .appendResponseDropped, .finalizeUnavailable, .finalizeDeadlineExceeded]

/-- The identifier under which a place is configured and counted. -/
def id : FaultPoint → String
  | .createUnavailable => "write_stream.create_unavailable"
  | .createInvalidArgument => "write_stream.create_invalid_argument"
  | .appendServerError => "write_stream.append_server_error"
  | .appendOffsetSkew => "write_stream.append_offset_skew"
  | .appendResponseDropped => "write_stream.append_response_dropped"
  | .finalizeUnavailable => "write_stream.finalize_unavailable"
  | .finalizeDeadlineExceeded => "write_stream.finalize_deadline_exceeded"

def defaultProbability : FaultPoint → Float
  | .createUnavailable => 0.05
  | .createInvalidArgument => 0.005
  | .appendServerError => 0.01
  | .appendOffsetSkew => 0.005
  | .appendResponseDropped => 0.005
  | .finalizeUnavailable => 0.05
  | .finalizeDeadlineExceeded => 0.02

theorem mem_all (point : FaultPoint) : point ∈ all := by
  cases point <;> decide

theorem id_injective {left right : FaultPoint} (same : left.id = right.id) : left = right := by
  cases left <;> cases right <;> first | rfl | exact absurd same (by decide)

end FaultPoint

end RowStream
