import RowStream.Row
import RowStream.Status

/-!
Contract: what a client and the service say to each other about one stream.

Owns:
- the kinds of stream and the name under which one was created;
- the schema that rows are serialized against, which nothing here interprets;
- `Appender`, one connection on which rows are sent;
- the possible answers to an append request.
-/

namespace RowStream

/-- When rows of a stream become visible. -/
inductive StreamKind where
  /-- As soon as they are acknowledged. -/
  | committed
  /-- Once the stream is finalized. -/
  | pending
  /-- After an explicit flush. -/
  | buffered
deriving DecidableEq, Repr

def StreamKind.all : List StreamKind := [.committed, .pending, .buffered]

def StreamKind.name : StreamKind → String
  | .committed => "Committed"
  | .pending => "Pending"
  | .buffered => "Buffered"

/-- A stream as the service announces it. -/
structure CreatedStream where
  name : String
  kind : StreamKind
deriving DecidableEq, Repr

/-- The descriptor that rows are serialized against. -/
structure Schema where
  messageName : String
  descriptor : ByteArray

/-- A connection to one stream. A closed one sends nothing any more. -/
structure Appender where
  stream : String
  closed : Bool := false
deriving DecidableEq, Repr

/-- What becomes of an append request. -/
inductive AppendReply where
  /-- The rows were accepted, starting at `offset`. -/
  | appended (offset : UInt64)
  /-- The service refused the request. -/
  | rejected (status : Status)
  /-- The transport lost the answer. -/
  | lost (status : Status)
  /-- No answer ever arrives. -/
  | silent
deriving DecidableEq, Repr

end RowStream
