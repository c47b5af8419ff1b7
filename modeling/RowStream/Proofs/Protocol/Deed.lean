import RowStream.Proofs.Protocol.Words
import RowStream.Proofs.Session.ExactlyOnce

/-!
Contract: actions of the protocol as deeds of a real session.

Owns:
- `Reception`, what the service is told to make of one append;
- `Deed`, an action with its row and the faults that it takes, with the moves that carry
  it out on the simulated service;
- `Session.abstract` and `Course.abstract`, what the protocol sees of a session.

A fault is scripted only for a request that the session is about to make.

Main statements: `Store.append_of_reception`, the answer to an append as it was scripted,
and the equations that tell how the protocol's steps look from a session.
-/

namespace RowStream

/-- What the service makes of an append, with all that it is told. -/
inductive Reception where
  | acknowledged
  | serverError (status : Status)
  | offsetSkew (rows : UInt64)
  | responseDropped
deriving DecidableEq

namespace Reception

def ack : Reception → Protocol.Ack
  | .acknowledged => .acknowledged
  | .serverError _ => .serverError
  | .offsetSkew _ => .offsetSkew
  | .responseDropped => .responseDropped

def mishaps : Reception → List Mishap
  | .acknowledged => []
  | .serverError status => [.failAppend status]
  | .offsetSkew rows => [.skewAck rows]
  | .responseDropped => [.dropAppendResponse]

/-- A skew by no row is none. -/
def Genuine : Reception → Prop
  | .offsetSkew rows => rows ≠ 0
  | _ => True

def leaves (batch : Batch) (record : StreamRecord) : Reception → StreamRecord
  | .serverError _ => record
  | _ => record.extend batch

def Scripted (script : Script) : Reception → Prop
  | .acknowledged =>
      script.appendError = none ∧ script.dropAppendResponse = false ∧ script.ackSkew = none
  | .serverError status => script.appendError = some status
  | .offsetSkew rows =>
      script.appendError = none ∧ script.dropAppendResponse = false ∧ script.ackSkew = some rows
  | .responseDropped => script.appendError = none ∧ script.dropAppendResponse = true

end Reception

def Script.planAll (mishaps : List Mishap) (script : Script) : Script :=
  mishaps.foldl (fun planned mishap => planned.plan mishap) script

theorem Reception.scripted_planAll (reception : Reception) :
    reception.Scripted (Script.planAll reception.mishaps {}) := by
  cases reception with
  | acknowledged => exact ⟨rfl, rfl, rfl⟩
  | serverError status => rfl
  | offsetSkew rows => exact ⟨rfl, rfl, rfl⟩
  | responseDropped => exact ⟨rfl, rfl⟩

/-- The answer to an append where the stream ends, as it was scripted. -/
theorem Store.append_of_reception {store after : Store} {stream : String}
    {record : StreamRecord} {batch : Batch} {reply : AppendReply} {reception : Reception}
    (genuine : reception.Genuine) (found : store.find? stream = some record)
    (unfinished : record.finalized = false) (scripted : reception.Scripted store.script)
    (called : store.append { stream := stream } batch (UInt64.ofNat record.rows.size) =
      (reply, after)) :
    (reply = .appended (UInt64.ofNat record.rows.size) ↔ reception = .acknowledged) ∧
      after.find? stream = some (reception.leaves batch record) ∧
      (reception = .acknowledged → after.script = store.script) := by
  rw [append_at_end found unfinished] at called
  cases reception with
  | acknowledged =>
      obtain ⟨noError, noDrop, noSkew⟩ := scripted
      simp only [noError, noDrop, noSkew, Bool.false_eq_true, if_false, Prod.mk.injEq] at called
      rw [← called.1, ← called.2]
      refine ⟨by simp, find?_accept found batch, fun _ => ?_⟩
      show { store.script with dropAppendResponse := false, ackSkew := none } = store.script
      rw [← noDrop, ← noSkew]
  | serverError status =>
      have failing : store.script.appendError = some status := scripted
      simp only [failing, Prod.mk.injEq] at called
      rw [← called.1, ← called.2]
      exact ⟨by simp, found, by simp⟩
  | offsetSkew rows =>
      obtain ⟨noError, noDrop, skewed⟩ := scripted
      simp only [noError, noDrop, skewed, Bool.false_eq_true, if_false, Prod.mk.injEq] at called
      rw [← called.1, ← called.2]
      have apart : UInt64.ofNat record.rows.size + rows ≠ UInt64.ofNat record.rows.size := by
        intro same
        exact genuine (UInt64.add_eq_left.mp same)
      exact ⟨by simp [apart], find?_accept found batch, by simp⟩
  | responseDropped =>
      obtain ⟨noError, dropped⟩ := scripted
      simp only [noError, dropped, if_true, Prod.mk.injEq] at called
      rw [← called.1, ← called.2]
      exact ⟨by simp, find?_accept found batch, by simp⟩

/-! ### What the protocol sees -/

namespace Session

/-- A session and the record of its stream as the protocol sees them: by sizes and counts, in
words. -/
def abstract (record : StreamRecord) (accepted : Nat) (attempts : UInt32) (returned : Option Nat)
    (session : Session) : Protocol.State where
  phase := session.phase
  pending := session.pending.toList.map fun row => UInt64.ofNat row.size
  pendingBytes := UInt64.ofNat session.pendingBytes
  committed := UInt64.ofNat session.committedCount
  accepted := UInt64.ofNat accepted
  attempts := attempts
  serverRows := UInt64.ofNat record.rows.size
  serverFinalized := if record.finalized then some (UInt64.ofNat record.rows.size) else none
  returned := returned.map UInt64.ofNat

variable {session : Session} {record : StreamRecord} {rows : List Row} {stream : String}
  {accepted : Nat} {attempts : UInt32} {returned : Option Nat}

theorem abstract_offer :
    (session.abstract record accepted attempts returned).offer =
      session.abstract record accepted (attempts + 1) returned := rfl

theorem abstract_enqueue (row : Row) :
    (session.abstract record accepted attempts returned).enqueue (UInt64.ofNat row.size) =
      (session.buffer row).abstract record (accepted + 1) attempts returned := by
  simp [abstract, Protocol.State.enqueue, buffer]

theorem abstract_pendingRows (consistent : session.Consistent) :
    (session.abstract record accepted attempts returned).pendingRows =
      UInt64.ofNat session.pendingCount := by
  rw [consistent.count_eq, ← Batch.length_toList]
  simp [abstract, Protocol.State.pendingRows]

theorem abstract_synchronized (inStep : InStep stream rows record session) :
    (session.abstract record accepted attempts returned).synchronized = true := by
  simp [Protocol.State.synchronized, abstract, inStep.counted]

/-- A batch that is stored adds its rows to those of the service. -/
theorem size_extend (consistent : session.Consistent) :
    UInt64.ofNat (record.extend session.pending).rows.size =
      UInt64.ofNat record.rows.size + UInt64.ofNat session.pendingCount := by
  rw [consistent.count_eq, ← Batch.length_toList]
  simp [StreamRecord.extend, Batch.toList]

/-- Sending the buffer and abstracting commute where the service acknowledges. -/
theorem abstract_sent_acknowledged (inStep : InStep stream rows record session)
    (consistent : session.Consistent) :
    (session.abstract record accepted attempts returned).sent .acknowledged =
      (true, session.countRequest.acknowledge.abstract (record.extend session.pending) accepted
        attempts returned) := by
  have unfinished : (record.extend session.pending).finalized = false := inStep.unfinished
  rw [Protocol.State.sent, if_pos (abstract_synchronized inStep), Protocol.State.acknowledge,
    abstract_pendingRows consistent]
  simp [abstract, acknowledge, countRequest, size_extend consistent, unfinished,
    inStep.unfinished]

/-- Sending the buffer and abstracting commute where the append fails, whether or not its rows are
stored. -/
theorem abstract_sent_failed {reception : Reception} (inStep : InStep stream rows record session)
    (consistent : session.Consistent) (failed : reception ≠ .acknowledged) :
    (session.abstract record accepted attempts returned).sent reception.ack =
      (false, session.countRequest.fail.abstract (reception.leaves session.pending record)
        accepted attempts returned) := by
  have unfinished : (record.extend session.pending).finalized = false := inStep.unfinished
  have stored : (session.abstract record accepted attempts returned).overtake.fail =
      session.countRequest.fail.abstract (record.extend session.pending) accepted attempts
        returned := by
    rw [Protocol.State.overtake, if_pos (abstract_synchronized inStep),
      abstract_pendingRows consistent]
    simp [Protocol.State.fail, abstract, fail, countRequest, size_extend consistent, unfinished,
      inStep.unfinished]
  cases reception with
  | acknowledged => exact absurd rfl failed
  | serverError status => rfl
  | offsetSkew skew => exact congrArg (Prod.mk false) stored
  | responseDropped => exact congrArg (Prod.mk false) stored

theorem abstract_finalize_ok (inStep : InStep stream rows record session) (tries : Nat)
    (random : Random) :
    (session.abstract record accepted attempts returned).finalize true =
      (session.countFinalize tries random).finish.abstract { record with finalized := true }
        accepted attempts (some session.committedCount) := by
  simp [Protocol.State.finalize, abstract, finish, countFinalize, inStep.counted]

theorem abstract_finalize_failed (random : Random) :
    (session.abstract record accepted attempts returned).finalize false =
      ({ session with random := random }.fail).abstract record accepted attempts returned := by
  rfl

end Session

def Course.returned {σ : Type} (course : Course σ) : Option Nat :=
  course.commits.foldl (fun last answer => answer.toOption.or last) none

def Course.abstract (stream : String) (attempts : UInt32) (course : Course SimStage) :
    Protocol.State :=
  course.session.abstract ((course.state.store.find? stream).getD { kind := .pending })
    course.accepted.length attempts course.returned

theorem Course.abstract_eq {course : Course SimStage} {stream : String} {record : StreamRecord}
    (found : course.state.store.find? stream = some record) (attempts : UInt32) :
    course.abstract stream attempts =
      course.session.abstract record course.accepted.length attempts course.returned := by
  rw [abstract, found]
  rfl

/-! ### Deeds -/

/-- An action of the protocol, with the row and the faults that it takes. -/
inductive Deed where
  | add (row : Row) (reception : Reception)
  | commit (reception : Reception) (refusal : Option Status)
  | abort

namespace Deed

def action : Deed → Protocol.Action
  | .add row reception => .add (UInt64.ofNat row.size) reception.ack
  | .commit reception refusal => .commit reception.ack refusal.isNone
  | .abort => .abort

/-- A skew is one, a row stays in a word together with the ceiling, and a refused finalization
is not worth another attempt. -/
def Sound (config : Config) : Deed → Prop
  | .add row reception => reception.Genuine ∧ config.ceiling + row.size < UInt64.size
  | .commit reception refusal =>
      reception.Genuine ∧ ∀ status, refusal = some status → status.code ∉ config.retryableCodes
  | .abort => True

/-- The faults to be scripted for the requests that the deed causes in a session. -/
def mishaps (session : Session) : Deed → List Mishap
  | .add row reception =>
      if session.phase = .open ∧ row.size ≤ session.ceiling ∧
          session.ceiling < session.pendingBytes + row.size then
        reception.mishaps
      else []
  | .commit reception refusal =>
      if session.phase ≠ .open then []
      else if session.pending.isEmpty = true ∨ reception = .acknowledged then
        refusal.toList.map fun status => .failFinalizes [status]
      else reception.mishaps
  | .abort => []

section Scripts

variable {session : Session} {row : Row} {reception : Reception} {refusal : Option Status}

/-- A row that sends the buffer orders its reception from the service. -/
theorem scripted_add (isOpen : session.phase = .open) (fits : row.size ≤ session.ceiling)
    (overflows : session.ceiling < session.pendingBytes + row.size) :
    reception.Scripted (Script.planAll ((Deed.add row reception).mishaps session) {}) := by
  rw [mishaps, if_pos ⟨isOpen, fits, overflows⟩]
  exact reception.scripted_planAll

/-- A row that sends nothing orders nothing. -/
theorem unscripted_add
    (direct : session.pendingBytes + row.size ≤ session.ceiling ∨ session.ceiling < row.size) :
    Script.planAll ((Deed.add row reception).mishaps session) {} = {} := by
  rw [mishaps, if_neg (by omega)]
  rfl

theorem scripted_finalize (isOpen : session.phase = .open)
    (last : session.pending.toList = [] ∨ reception = .acknowledged) :
    Script.planAll ((Deed.commit reception refusal).mishaps session) {} =
      { finalizeFailures := refusal.toList } := by
  rw [← Batch.isEmpty_iff] at last
  rw [mishaps, if_neg (not_not_intro isOpen), if_pos last]
  cases refusal with
  | none => rfl
  | some status => rfl

theorem scripted_commit (isOpen : session.phase = .open)
    (waiting : session.pending.toList ≠ []) :
    reception.Scripted (Script.planAll ((Deed.commit reception refusal).mishaps session) {}) := by
  by_cases acknowledged : reception = .acknowledged
  · rw [scripted_finalize isOpen (Or.inr acknowledged), acknowledged]
    exact ⟨rfl, rfl, rfl⟩
  · have otherwise : ¬ (session.pending.isEmpty = true ∨ reception = .acknowledged) := by
      rw [Batch.isEmpty_iff]
      exact not_or.mpr ⟨waiting, acknowledged⟩
    rw [mishaps, if_neg (not_not_intro isOpen), if_neg otherwise]
    exact reception.scripted_planAll

end Scripts

def call : Deed → Move SimStage
  | .add row _ => .add row
  | .commit _ _ => .commit
  | .abort => .abort

end Deed

namespace Course

def undertake (token : Option String) (course : Course SimStage) (deed : Deed) :
    Course SimStage :=
  (course.run (.simulated false token) ((deed.mishaps course.session).map Move.order)).perform
    (.simulated false token) deed.call

/-- Orders for faults change nothing but the script. -/
theorem run_orders (environment : Environment SimStage) (mishaps : List Mishap)
    (course : Course SimStage) :
    ∃ stage, course.run environment (mishaps.map Move.order) = { course with state := stage } ∧
      stage.store =
        { course.state.store with script := course.state.store.script.planAll mishaps } ∧
      stage.cancelled = course.state.cancelled := by
  induction mishaps generalizing course with
  | nil => exact ⟨course.state, rfl, rfl, rfl⟩
  | cons mishap rest inductionHypothesis =>
      obtain ⟨stage, same, stored, cancelled⟩ :=
        inductionHypothesis (course.perform environment (.order mishap))
      exact ⟨stage, same, stored, cancelled⟩

end Course

end RowStream
