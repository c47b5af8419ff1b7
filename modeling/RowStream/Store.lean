import RowStream.Association
import RowStream.Client

/-!
Contract: an in-memory service that keeps streams of rows.

Owns:
- `Store`, the streams, the log of requests and the faults scripted for coming requests;
- the five requests, and `Store.client`, which offers them as a client.

Rows are accepted only at the end of a stream that is not finalized; an offset anywhere
else is refused. A scripted fault strikes once, at the next request that it concerns.

Main statement: `Store.find?_update`, changing one stream's record changes no other.
-/

namespace RowStream

/-- A request as the service logs it. -/
inductive Call where
  | create (parent : String)
  | bind (stream : String)
  | append (stream : String) (offset : UInt64) (rows : Nat)
  | finalize (stream : String)
  | close (stream : String)
deriving DecidableEq, Repr

structure StreamRecord where
  kind : StreamKind
  rows : Array Row := #[]
  finalized : Bool := false

/-- Faults that strike once each. -/
structure Script where
  /-- Answers to the next creations, first one first. -/
  createFailures : List Status := []
  /-- Answers to the next finalizations, first one first. -/
  finalizeFailures : List Status := []
  /-- Answer to the next append, which then stores nothing. -/
  appendError : Option Status := none
  /-- Lose the answer to the next append. -/
  dropAppendResponse : Bool := false
  /-- How far the next acknowledgement is off. -/
  ackSkew : Option UInt64 := none
  /-- Number of rows that the next finalization reports. -/
  finalizeRowCount : Option Nat := none
  bindFailure : Option String := none
  closeFailure : Option Status := none
deriving DecidableEq, Repr

structure Store where
  /-- How many streams were created so far. -/
  created : Nat := 0
  /-- Records by stream name, the newest stream first. -/
  streams : List (String × StreamRecord) := []
  calls : Array Call := #[]
  script : Script := {}
  shutDown : Bool := false

namespace Store

def find? (store : Store) (stream : String) : Option StreamRecord :=
  store.streams.lookup stream

/-- The rows stored for a stream, none if there is no such stream. -/
def rows (store : Store) (stream : String) : List Row :=
  match store.find? stream with
  | none => []
  | some record => record.rows.toList

def isFinalized (store : Store) (stream : String) : Bool :=
  (store.find? stream).any StreamRecord.finalized

/-- Names of all streams, in the order of their code points. -/
def streamNames (store : Store) : List String :=
  (store.streams.map Prod.fst).mergeSort fun left right => decide (left ≤ right)

/-- Offsets of the append requests received, in order. -/
def appendOffsets (store : Store) : List UInt64 :=
  store.calls.toList.filterMap fun
    | .append _ offset _ => some offset
    | _ => none

def createCalls (store : Store) : Nat :=
  store.calls.toList.countP fun
    | .create _ => true
    | _ => false

def finalizeCalls (store : Store) : Nat :=
  store.calls.toList.countP fun
    | .finalize _ => true
    | _ => false

/-- The store after logging a request. -/
def log (call : Call) (store : Store) : Store :=
  { store with calls := store.calls.push call }

/-- The store after changing the record of one stream. -/
def update (stream : String) (change : StreamRecord → StreamRecord) (store : Store) : Store :=
  { store with
    streams := store.streams.map fun entry =>
      if entry.1 = stream then (entry.1, change entry.2) else entry }

/-- Changing the record of one stream changes no other. -/
theorem find?_update (stream other : String) (change : StreamRecord → StreamRecord)
    (store : Store) :
    (store.update stream change).find? other =
      if other = stream then (store.find? other).map change else store.find? other := by
  unfold find? update
  simp only
  induction store.streams with
  | nil => simp
  | cons entry rest inductionHypothesis =>
      rw [List.map_cons, Association.lookup_cons, Association.lookup_cons, inductionHypothesis]
      by_cases same : entry.1 = stream
      · by_cases first : other = stream
        · simp [same, first]
        · simp [same, first]
      · by_cases first : other = entry.1
        · have apart : ¬ other = stream := fun equal => same (first ▸ equal)
          simp [same, first]
        · simp [same, first]

/-- The name of the `number`-th stream under a parent. -/
def streamName (parent : String) (number : Nat) : String :=
  s!"{parent}/streams/{number}"

/-- Creates a stream. A scripted failure answers instead. -/
def create (parent : String) (kind : StreamKind) (store : Store) :
    Except Status CreatedStream × Store :=
  let store := store.log (.create parent)
  match store.script.createFailures with
  | status :: later =>
      (.error status, { store with script := { store.script with createFailures := later } })
  | [] =>
      let number := store.created + 1
      let name := streamName parent number
      (.ok ⟨name, kind⟩,
        { store with
          created := number
          streams := (name, { kind := kind }) :: store.streams })

/-- Connects to a stream, which need not exist. -/
def bind (stream : String) (_ : Schema) (store : Store) :
    Except SystemError Appender × Store :=
  match store.script.bindFailure with
  | some message =>
      (.error (.other message),
        { store with script := { store.script with bindFailure := none } })
  | none => (.ok { stream := stream }, store.log (.bind stream))

/-- The store with a batch written at the end of a stream. -/
def accept (stream : String) (batch : Batch) (store : Store) : Store :=
  store.update stream fun record => { record with rows := record.rows ++ batch.rows }

/-- The answer to an append that no scripted fault concerns. -/
def write (stream : String) (batch : Batch) (offset : UInt64) (store : Store) :
    AppendReply × Store :=
  match store.find? stream with
  | none => (.rejected ⟨.notFound, s!"write-stream {stream} not found"⟩, store)
  | some record =>
      let stop := UInt64.ofNat record.rows.size
      if record.finalized then
        (.rejected ⟨.failedPrecondition, s!"write-stream {stream} is already finalized"⟩, store)
      else if offset < stop then
        (.rejected ⟨.alreadyExists, s!"offset {offset} already written, stream end is {stop}"⟩,
          store)
      else if stop < offset then
        (.rejected ⟨.outOfRange, s!"offset {offset} is beyond stream end {stop}"⟩, store)
      else
        (.appended offset, store.accept stream batch)

/-- An acknowledgement moved by `skew` rows. -/
def skewReply (skew : UInt64) : AppendReply → AppendReply
  | .appended offset => .appended (offset + skew)
  | reply => reply

/-- Receives an append request. -/
def receive (stream : String) (batch : Batch) (offset : UInt64) (store : Store) :
    AppendReply × Store :=
  let store := store.log (.append stream offset batch.length)
  match store.script.appendError with
  | some status =>
      (.rejected status, { store with script := { store.script with appendError := none } })
  | none =>
      let script := store.script
      let store :=
        { store with script := { script with dropAppendResponse := false, ackSkew := none } }
      let (reply, store) := store.write stream batch offset
      if script.dropAppendResponse then
        (.lost (.unavailable "append response channel closed"), store)
      else
        (skewReply (script.ackSkew.getD 0) reply, store)

/-- Sends a batch over a connection, unless it is closed. -/
def append (appender : Appender) (batch : Batch) (offset : UInt64) (store : Store) :
    AppendReply × Store :=
  if appender.closed then
    (.lost ⟨.failedPrecondition, "appender is closed"⟩, store)
  else
    store.receive appender.stream batch offset

/-- Releases a connection; nothing happens if it is closed already. -/
def close (appender : Appender) (store : Store) : Except Status Unit × Store :=
  if appender.closed then
    (.ok (), store)
  else
    let store := store.log (.close appender.stream)
    match store.script.closeFailure with
    | some status =>
        (.error status, { store with script := { store.script with closeFailure := none } })
    | none => (.ok (), store)

/-- Ends a stream. A scripted failure answers instead; a scripted count is reported in
place of the number of rows. -/
def finalize (stream : String) (store : Store) : Except Status Nat × Store :=
  let store := store.log (.finalize stream)
  match store.script.finalizeFailures with
  | status :: later =>
      (.error status, { store with script := { store.script with finalizeFailures := later } })
  | [] =>
      let scripted := store.script.finalizeRowCount
      let store := { store with script := { store.script with finalizeRowCount := none } }
      match store.find? stream with
      | none => (.error ⟨.notFound, s!"write-stream {stream} not found"⟩, store)
      | some record =>
          (.ok (scripted.getD record.rows.size),
            store.update stream fun record => { record with finalized := true })

/-- The store as a service that a session can use directly. -/
def client : Client Store where
  create := create
  bind := bind
  append := append
  close := close
  finalize := finalize
  shutdown := fun store => { store with shutDown := true }

end Store

end RowStream
