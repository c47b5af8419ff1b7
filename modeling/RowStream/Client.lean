import RowStream.Event
import RowStream.Stream

/-!
Contract: what a session needs of the world around it.

Owns:
- `Client`, the requests to the service, each a transition of an arbitrary state;
- `Host`, the clock, the cancellation token and the reports, over the same state;
- `Environment`, the two together.

The state stands for everything outside the session: the service, the network, the clock,
other sessions. A statement about every `Environment` is a statement about every
behaviour of a client.
-/

namespace RowStream

/-- The requests that a session makes of the service. -/
structure Client (σ : Type) where
  /-- Creates a stream under a parent. -/
  create : String → StreamKind → σ → Except Status CreatedStream × σ
  /-- Sets up a connection for appending to a stream. -/
  bind : String → Schema → σ → Except SystemError Appender × σ
  /-- Sends rows that claim to start at an offset. -/
  append : Appender → Batch → UInt64 → σ → AppendReply × σ
  /-- Releases a connection. -/
  close : Appender → σ → Except Status Unit × σ
  /-- Ends a stream and answers its number of rows. -/
  finalize : String → σ → Except Status Nat × σ
  shutdown : σ → σ

/-- The clock, the cancellation token and the reports of one session. -/
structure Host (σ : Type) where
  now : σ → UInt64
  sleep : Duration → σ → σ
  cancelled : σ → Bool
  report : Event → σ → σ

/-- Everything that one session deals with. -/
structure Environment (σ : Type) where
  client : Client σ
  host : Host σ

/-- The same connection, closed. -/
def Appender.close (appender : Appender) : Appender :=
  { appender with closed := true }

end RowStream
