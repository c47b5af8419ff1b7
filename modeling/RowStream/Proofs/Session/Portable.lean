import RowStream.Stage
import RowStream.Proofs.Retry.Induction
import RowStream.Proofs.Session.Renaming
import RowStream.Proofs.Store.Written

/-!
Contract: without faults a session comes to the same thing whatever its stream is called and
whatever else the service holds.

Owns:
- `Watch` and `Quarters`, the clock, the token and the reports of one session, and
  `Watch.environment`, a session in its quarters on the in-memory service;
- `Session.Sits`, a session whose stream ends at the rows that were acknowledged to it;
- `Session.Ending`, what an operation comes to, told without the name of the stream.

Main statements: `Session.add_portable`, `Session.commit_portable`, `Session.abort_portable`
and `Session.start_portable`, one for each operation.
-/

namespace RowStream

variable {κ α : Type}

/-! ### One session in its quarters -/

/-- The clock and the token of a session, over whatever state they have. -/
structure Watch (κ : Type) where
  now : κ → UInt64
  sleep : Duration → κ → κ
  cancelled : κ → Bool

/-- Where one session runs: the state of its clock and token, and its reports. -/
structure Quarters (κ : Type) where
  around : κ
  events : Array Event := #[]

namespace Quarters

def report (event : Event) (quarters : Quarters κ) : Quarters κ :=
  { quarters with events := quarters.events.push event }

def onStream (name : String) (quarters : Quarters κ) : Quarters κ :=
  { quarters with events := quarters.events.map (Event.onStream name) }

theorem onStream_report (name : String) (event : Event) (quarters : Quarters κ) :
    (quarters.report event).onStream name =
      (quarters.onStream name).report (event.onStream name) := by
  simp [report, onStream]

def sleep (watch : Watch κ) (duration : Duration) (quarters : Quarters κ) : Quarters κ :=
  { quarters with around := watch.sleep duration quarters.around }

@[simp] theorem onStream_onStream (first last : String) (quarters : Quarters κ) :
    (quarters.onStream first).onStream last = quarters.onStream last := by
  simp [onStream, Function.comp_def]

end Quarters

namespace Watch

def host (watch : Watch κ) : Host (Quarters κ × Store) where
  now := fun state => watch.now state.1.around
  sleep := fun duration state => (state.1.sleep watch duration, state.2)
  cancelled := fun state => watch.cancelled state.1.around
  report := fun event state => (state.1.report event, state.2)

def environment (watch : Watch κ) : Environment (Quarters κ × Store) :=
  ⟨Store.client.onSecond, watch.host⟩

end Watch

namespace Session

variable {watch : Watch κ} {session : Session} {quarters : Quarters κ} {record : StreamRecord}

/-- A session whose connection is alive, and whose stream, while it is open, ends at the rows
acknowledged to it. -/
structure Sits (session : Session) (record : StreamRecord) : Prop where
  consistent : session.Consistent
  alive : ∀ appender, session.appender = some appender → appender.closed = false
  inStep : session.phase = .open →
    record.finalized = false ∧ record.rows.size = session.committedCount

theorem Sits.named (sits : Sits session record) (held : session.phase ≠ .aborted) :
    session.stream.isSome := by
  refine Option.isSome_iff_ne_none.mpr ?_
  intro nameless
  exact held (sits.consistent.nameless_iff.mp nameless)

/-- An open session is connected to its stream, whatever that is called. -/
theorem Sits.wired (sits : Sits session record) (isOpen : session.phase = .open)
    (name : String) : (session.onStream name).appender = some { stream := name } := by
  obtain ⟨appender, connected⟩ :=
    Option.isSome_iff_exists.mp (sits.consistent.connected_iff.mpr (Or.inl isOpen))
  exact appender_onStream name connected (sits.alive appender connected)

/-- What an operation comes to, told without the name of the stream. -/
structure Ending (κ α : Type) where
  result : Except SessionError α
  session : Session
  quarters : Quarters κ
  record : StreamRecord
  /-- The entries that the requests leave in the log. -/
  calls : List Call

/-- An operation comes to an end whatever the stream is called and whatever else the service
holds, and the session still sits on its stream. -/
structure Ending.Portable (ending : Ending κ α)
    (operation : Session → Quarters κ × Store →
      Except SessionError α × Session × Quarters κ × Store)
    (session : Session) (quarters : Quarters κ) (record : StreamRecord) : Prop where
  sits : Sits ending.session ending.record
  shown : ∀ name store, store.script = {} → store.find? name = some record →
    ∃ after, operation (session.onStream name) (quarters.onStream name, store) =
        (ending.result.mapError (SessionError.onStream name), ending.session.onStream name,
          ending.quarters.onStream name, after) ∧
      Store.Wrote name ending.record ending.calls store after

/-! ### Sending the buffer -/

def sending (session : Session) : Event :=
  .appendSent session.streamText session.nextOffset session.pendingCount session.pendingBytes

def interruptedFlush (session : Session) (quarters : Quarters κ) (record : StreamRecord) :
    Ending κ Unit where
  result := .error (session.appendError .interrupted)
  session := session.fail
  quarters :=
    quarters.report (.appendFailed session.streamText session.nextOffset .interrupted)
  record := record
  calls := []

def acknowledgedFlush (session : Session) (quarters : Quarters κ) (record : StreamRecord) :
    Ending κ Unit where
  result := .ok ()
  session := session.countRequest.acknowledge
  quarters := quarters.report session.sending
  record := record.extend session.pending
  calls := [.append session.streamText session.nextOffset session.pending.length]

theorem Sits.acknowledge (sits : Sits session record) (isOpen : session.phase = .open) :
    Sits session.countRequest.acknowledge (record.extend session.pending) where
  consistent := sits.consistent.acknowledge
  alive := sits.alive
  inStep _ := by
    obtain ⟨unfinished, counted⟩ := sits.inStep isOpen
    refine ⟨unfinished, ?_⟩
    change (record.rows ++ session.pending.rows).size =
      session.committedCount + session.pendingCount
    rw [Array.size_append, counted, sits.consistent.count_eq, Batch.length]

theorem Sits.fail (sits : Sits session record) (isOpen : session.phase = .open) :
    Sits session.fail record where
  consistent := sits.consistent.fail isOpen
  alive := sits.alive
  inStep impossible := by simp [Session.fail] at impossible

theorem flush_of_cancelled (sits : Sits session record) (isOpen : session.phase = .open)
    (cancelled : watch.cancelled quarters.around = true) :
    (interruptedFlush session quarters record).Portable (flush watch.environment) session
      quarters record := by
  refine ⟨sits.fail isOpen, ?_⟩
  intro name store unscripted found
  refine ⟨store, ?_, .refl unscripted found⟩
  have named := sits.named (by simp [isOpen])
  have wired := sits.wired isOpen name
  have step := flush_step watch.environment (session.onStream name)
    (quarters.onStream name, store)
  generalize (session.onStream name).flush watch.environment (quarters.onStream name, store) =
    ended at step ⊢
  cases step with
  | interrupted stopped =>
      simp only [interruptedFlush, mapError_onStream_error, appendError_onStream named,
        reportFailure, streamText_onStream named, Quarters.onStream_report, Event.onStream]
      rfl
  | unconnected closed => simp [wired] at closed
  | rejected going _ sent judged => exact absurd (going.symm.trans cancelled) (by decide)
  | acknowledged going _ sent => exact absurd (going.symm.trans cancelled) (by decide)

/-- The ending is worked out from the record alone, so that it is the same on every stream that
holds it. -/
theorem flush_of_going (sits : Sits session record) (isOpen : session.phase = .open)
    (going : watch.cancelled quarters.around = false) :
    (acknowledgedFlush session quarters record).Portable (flush watch.environment) session
      quarters record := by
  refine ⟨sits.acknowledge isOpen, ?_⟩
  intro name store unscripted found
  have named := sits.named (by simp [isOpen])
  have wired := sits.wired isOpen name
  obtain ⟨unfinished, counted⟩ := sits.inStep isOpen
  obtain ⟨answered, wrote⟩ := Store.append_wrote unscripted found unfinished session.pending
    session.streamText
  rw [counted] at answered wrote
  refine ⟨_, ?_, wrote⟩
  have step := flush_step watch.environment (session.onStream name)
    (quarters.onStream name, store)
  generalize (session.onStream name).flush watch.environment (quarters.onStream name, store) =
    ended at step ⊢
  have sent : watch.environment.client.append { stream := name } session.pending
      session.nextOffset ((session.onStream name).announce watch.environment
        (quarters.onStream name, store)) =
      (.appended session.nextOffset, ((quarters.report session.sending).onStream name,
        (store.append { stream := name } session.pending session.nextOffset).2)) := by
    rw [announce, streamText_onStream named, Quarters.onStream_report]
    have reply := congrArg Prod.fst answered
    exact Prod.ext reply rfl
  cases step with
  | interrupted stopped => exact absurd (going.symm.trans stopped) (by decide)
  | unconnected closed => simp [wired] at closed
  | @rejected other reply cause after _ held called judged =>
      obtain rfl := Option.some.inj (held.symm.trans wired)
      have accepted := judgeReply_eq_ok_iff.mpr (Prod.mk.inj (called.symm.trans sent)).1
      exact absurd (judged.symm.trans accepted) (by simp)
  | acknowledged _ held called =>
      obtain rfl := Option.some.inj (held.symm.trans wired)
      rw [(Prod.mk.inj (called.symm.trans sent)).2]
      rfl

/-- A flush is acknowledged unless the session is cancelled. -/
theorem flush_portable (watch : Watch κ) (quarters : Quarters κ) (sits : Sits session record)
    (isOpen : session.phase = .open) :
    ∃ ending : Ending κ Unit,
      ending.Portable (flush watch.environment) session quarters record ∧
        ((∃ error, ending.result = .error error) ∨
          ending = acknowledgedFlush session quarters record) := by
  cases cancelled : watch.cancelled quarters.around with
  | true => exact ⟨_, flush_of_cancelled sits isOpen cancelled, Or.inl ⟨_, rfl⟩⟩
  | false => exact ⟨_, flush_of_going sits isOpen cancelled, Or.inr rfl⟩

/-! ### Adding a row -/

theorem Sits.buffer {row : Row} (sits : Sits session record) (isOpen : session.phase = .open)
    (fits : session.pendingBytes + row.size ≤ session.ceiling) :
    Sits (session.buffer row) record :=
  ⟨sits.consistent.buffer isOpen fits, sits.alive, sits.inStep⟩

theorem Sits.countForcedFlush (sits : Sits session record) :
    Sits session.countForcedFlush record where
  consistent :=
    { bytes_eq := sits.consistent.bytes_eq
      bytes_le := sits.consistent.bytes_le
      count_eq := sits.consistent.count_eq
      connected_iff := sits.consistent.connected_iff
      nameless_iff := sits.consistent.nameless_iff
      emptied := sits.consistent.emptied }
  alive := sits.alive
  inStep := sits.inStep

/-- An operation that makes no request. -/
theorem Ending.Portable.still {operation : Session → Quarters κ × Store →
      Except SessionError α × Session × Quarters κ × Store} {after : Session}
    (result : Except SessionError α) (sits : Sits after record)
    (shown : ∀ name store, operation (session.onStream name) (quarters.onStream name, store) =
      (result.mapError (SessionError.onStream name), after.onStream name,
        quarters.onStream name, store)) :
    (⟨result, after, quarters, record, []⟩ : Ending κ α).Portable operation session quarters
      record where
  sits := sits
  shown name store unscripted found := ⟨store, shown name store, .refl unscripted found⟩

/-- A row ends in the same way on every stream that holds the same record. -/
theorem add_portable (watch : Watch κ) (quarters : Quarters κ) (sits : Sits session record)
    (row : Row) :
    ∃ ending : Ending κ Unit,
      ending.Portable (add watch.environment row) session quarters record := by
  by_cases past : session.phase ≠ .open
  · refine ⟨_, .still (.error (.closed session.phase)) sits ?_⟩
    intro name store
    exact (add_step watch.environment row (session.onStream name) _).eq_of_closed past
  have isOpen : session.phase = .open := Classical.not_not.mp past
  by_cases fits : session.pendingBytes + row.size ≤ session.ceiling
  · refine ⟨_, .still (.ok ()) (sits.buffer isOpen fits) ?_⟩
    intro name store
    exact add_of_fits _ row (session.onStream name) _ isOpen fits
  by_cases large : session.ceiling < row.size
  · refine ⟨_, .still (.error (.rowTooLarge row.size session.ceiling)) sits ?_⟩
    intro name store
    exact add_of_large _ row (session.onStream name) _ isOpen large
  -- The buffer has to be sent first. A flush that fails ends the operation.
  have full (name : String) (store : Store) := add_of_overflow watch.environment row
    (session.onStream name) (quarters.onStream name, store) isOpen (Nat.lt_of_not_le fits)
    (Nat.le_of_not_lt large)
  obtain ⟨flushed, portable, failed | acknowledged⟩ := flush_portable watch quarters sits
    isOpen
  · obtain ⟨error, result⟩ := failed
    refine ⟨flushed, portable.sits, ?_⟩
    intro name store unscripted found
    obtain ⟨after, ended, wrote⟩ := portable.shown name store unscripted found
    refine ⟨after, ?_, wrote⟩
    rw [full, ended, result]
    rfl
  · subst acknowledged
    refine ⟨{ acknowledgedFlush session quarters record with
      session := session.countRequest.acknowledge.countForcedFlush.buffer row }, ?_, ?_⟩
    · refine (sits.acknowledge isOpen).countForcedFlush.buffer isOpen ?_
      change 0 + row.size ≤ session.ceiling
      omega
    · intro name store unscripted found
      obtain ⟨after, ended, wrote⟩ := portable.shown name store unscripted found
      refine ⟨after, ?_, wrote⟩
      rw [full, ended]
      rfl

/-! ### Committing -/

/-- A live connection is released without a report. -/
theorem closeAppender_of_wired {name : String} {store : Store} (unscripted : store.script = {})
    (quarters : Quarters κ) (wired : session.appender = some { stream := name }) :
    (session.closeAppender watch.environment (quarters, store)).2 =
      (quarters, (store.close { stream := name }).2) := by
  have called : watch.environment.client.close { stream := name } (quarters, store) =
      (.ok (), quarters, (store.close { stream := name }).2) := by
    have answered := store.close_of_unscripted { stream := name } unscripted
    exact Prod.ext answered rfl
  have step := closeAppender_step watch.environment session (quarters, store)
  generalize (session.closeAppender watch.environment (quarters, store)).2 = after at step ⊢
  cases step with
  | absent closed => simp [wired] at closed
  | quiet connected answered =>
      obtain rfl := Option.some.inj (connected.symm.trans wired)
      exact (Prod.mk.inj (answered.symm.trans called)).2
  | reported connected answered =>
      obtain rfl := Option.some.inj (connected.symm.trans wired)
      exact absurd (Prod.mk.inj (answered.symm.trans called)).1 (by simp)

def interruptedCommit (watch : Watch κ) (session : Session) (quarters : Quarters κ)
    (record : StreamRecord) : Ending κ Nat where
  result := .error (.finalization session.streamText .interrupted)
  session := session.fail
  quarters := (quarters.sleep watch session.config.finalizeQuiescence).report
    (.finalizeInterrupted session.streamText)
  record := record
  calls := []

def finishedCommit (watch : Watch κ) (session : Session) (quarters : Quarters κ)
    (record : StreamRecord) : Ending κ Nat where
  result := .ok record.rows.size
  session := (session.countFinalize 1 session.random).finish
  quarters := (quarters.sleep watch session.config.finalizeQuiescence).report
    (.finalized session.streamText record.rows.size)
  record := { record with finalized := true }
  calls := [.finalize session.streamText, .close session.streamText]

theorem Sits.finish (sits : Sits session record) (isOpen : session.phase = .open)
    (empty : session.pending.toList = []) (attempts : Nat) (random : Random)
    (after : StreamRecord) : Sits (session.countFinalize attempts random).finish after where
  consistent :=
    { bytes_eq := sits.consistent.bytes_eq
      bytes_le := sits.consistent.bytes_le
      count_eq := sits.consistent.count_eq
      connected_iff := by simp [Session.finish]
      nameless_iff := by
        have named := sits.consistent.nameless_iff
        simp only [isOpen, reduceCtorEq, iff_false] at named
        simp [Session.finish, countFinalize, named]
      emptied := fun _ => empty }
  alive appender impossible := by simp [Session.finish] at impossible
  inStep impossible := by simp [Session.finish] at impossible

theorem conclude_of_cancelled (sits : Sits session record) (isOpen : session.phase = .open)
    (cancelled : watch.cancelled
      (quarters.sleep watch session.config.finalizeQuiescence).around = true) :
    (interruptedCommit watch session quarters record).Portable (conclude watch.environment)
      session quarters record := by
  refine ⟨sits.fail isOpen, ?_⟩
  intro name store unscripted found
  refine ⟨store, ?_, .refl unscripted found⟩
  have named := sits.named (by simp [isOpen])
  have step := conclude_step watch.environment (session.onStream name)
    (quarters.onStream name, store)
  generalize (session.onStream name).conclude watch.environment (quarters.onStream name, store) =
    ended at step ⊢
  cases step with
  | interrupted stopped =>
      rw [streamText_onStream named]
      simp only [interruptedCommit, mapError_onStream_error, Quarters.onStream_report,
        SessionError.onStream, Event.onStream]
      rfl
  | refused going gaveUp => exact absurd (going.symm.trans cancelled) (by decide)
  | miscounted going answered differs => exact absurd (going.symm.trans cancelled) (by decide)
  | finalized going answered agrees => exact absurd (going.symm.trans cancelled) (by decide)

theorem conclude_of_going (sits : Sits session record) (isOpen : session.phase = .open)
    (empty : session.pending.toList = [])
    (going : watch.cancelled
      (quarters.sleep watch session.config.finalizeQuiescence).around = false) :
    (finishedCommit watch session quarters record).Portable (conclude watch.environment)
      session quarters record := by
  refine ⟨sits.finish isOpen empty 1 session.random _, ?_⟩
  intro name store unscripted found
  have named := sits.named (by simp [isOpen])
  have wired := sits.wired isOpen name
  obtain ⟨unfinished, counted⟩ := sits.inStep isOpen
  obtain ⟨answered, finalized⟩ := Store.finalize_wrote unscripted found session.streamText
  obtain ⟨-, closed⟩ := Store.close_wrote finalized.unscripted finalized.found
    session.streamText
  refine ⟨_, ?_, finalized.trans closed⟩
  have ran : (session.onStream name).finalizing watch.environment
      (quarters.onStream name, store) =
      ⟨.ok ⟨record.rows.size, 1⟩, session.random,
        ((quarters.sleep watch session.config.finalizeQuiescence).onStream name,
          (store.finalize name).2)⟩ := by
    unfold finalizing
    rw [streamText_onStream named]
    refine Retry.run_of_first_ok _ _ _ _ going ?_
    have reply := congrArg Prod.fst answered
    exact Prod.ext reply rfl
  have released : ((session.onStream name).countFinalize 1 session.random).closing
      watch.environment ((quarters.sleep watch session.config.finalizeQuiescence).onStream name,
        (store.finalize name).2) =
      ((quarters.sleep watch session.config.finalizeQuiescence).onStream name,
        ((store.finalize name).2.close { stream := name }).2) :=
    closeAppender_of_wired finalized.unscripted _ wired
  have step := conclude_step watch.environment (session.onStream name)
    (quarters.onStream name, store)
  generalize (session.onStream name).conclude watch.environment (quarters.onStream name, store) =
    ended at step ⊢
  cases step with
  | interrupted stopped => exact absurd (going.symm.trans stopped) (by decide)
  | refused _ gaveUp => simp [ran] at gaveUp
  | @miscounted retried _ replied differs =>
      rw [ran] at replied
      rw [← Except.ok.inj replied] at differs
      exact absurd counted differs
  | @finalized retried _ replied agrees =>
      rw [ran] at replied
      rw [← Except.ok.inj replied, ran, streamText_onStream named]
      dsimp only
      rw [released]
      simp only [finishedCommit, mapError_onStream_ok, Quarters.onStream_report, Event.onStream]
      rfl

theorem conclude_portable (watch : Watch κ) (quarters : Quarters κ) (sits : Sits session record)
    (isOpen : session.phase = .open) (empty : session.pending.toList = []) :
    ∃ ending : Ending κ Nat,
      ending.Portable (conclude watch.environment) session quarters record := by
  cases cancelled : watch.cancelled
      (quarters.sleep watch session.config.finalizeQuiescence).around with
  | true => exact ⟨_, conclude_of_cancelled sits isOpen cancelled⟩
  | false => exact ⟨_, conclude_of_going sits isOpen empty cancelled⟩

theorem commit_portable (watch : Watch κ) (quarters : Quarters κ)
    (sits : Sits session record) :
    ∃ ending : Ending κ Nat,
      ending.Portable (commit watch.environment) session quarters record := by
  by_cases past : session.phase ≠ .open
  · refine ⟨_, .still (.error (.closed session.phase)) sits ?_⟩
    intro name store
    exact (commit_step watch.environment (session.onStream name) _).eq_of_closed past
  have isOpen : session.phase = .open := Classical.not_not.mp past
  by_cases empty : session.pending.toList = []
  · obtain ⟨ending, portable⟩ := conclude_portable watch quarters sits isOpen empty
    refine ⟨ending, portable.sits, ?_⟩
    intro name store unscripted found
    obtain ⟨after, ended, wrote⟩ := portable.shown name store unscripted found
    refine ⟨after, ?_, wrote⟩
    rw [commit_of_unbuffered watch.environment (session.onStream name) _ isOpen empty]
    exact ended
  have full (name : String) (store : Store) := commit_of_buffered watch.environment
    (session.onStream name) (quarters.onStream name, store) isOpen empty
  obtain ⟨flushed, sent, failed | acknowledged⟩ := flush_portable watch quarters sits
    isOpen
  · obtain ⟨error, result⟩ := failed
    refine ⟨{ flushed with result := .error error }, sent.sits, ?_⟩
    intro name store unscripted found
    obtain ⟨after, ended, wrote⟩ := sent.shown name store unscripted found
    refine ⟨after, ?_, wrote⟩
    rw [full, ended, result]
    rfl
  · subst acknowledged
    obtain ⟨ending, concluded⟩ := conclude_portable watch
      (quarters.report session.sending) (sits.acknowledge isOpen) isOpen rfl
    refine ⟨{ ending with
      calls := (acknowledgedFlush session quarters record).calls ++ ending.calls },
      concluded.sits, ?_⟩
    intro name store unscripted found
    obtain ⟨between, flushed, sending⟩ := sent.shown name store unscripted found
    obtain ⟨after, ended, wrote⟩ := concluded.shown name between sending.unscripted sending.found
    refine ⟨after, ?_, sending.trans wrote⟩
    rw [full, flushed]
    exact ended

/-! ### Aborting -/

/-- The quarters after the report of an abort; without a stream there is none. -/
def aborting (session : Session) (quarters : Quarters κ) : Quarters κ :=
  match session.stream with
  | none => quarters
  | some stream => quarters.report (.aborted stream session.committedCount session.phase)

def abandoned (session : Session) (quarters : Quarters κ) (record : StreamRecord) :
    Ending κ Unit where
  result := .ok ()
  session := session.giveUp
  quarters := session.aborting quarters
  record := record
  calls := match session.appender with
    | none => []
    | some appender => [.close appender.stream]

theorem Sits.giveUp (session : Session) (record : StreamRecord) : Sits session.giveUp record where
  consistent := Consistent.giveUp session
  alive appender impossible := by simp [Session.giveUp] at impossible
  inStep impossible := by simp [Session.giveUp] at impossible

theorem abort_portable (watch : Watch κ) (quarters : Quarters κ) (sits : Sits session record) :
    (abandoned session quarters record).Portable
      (fun session state => (.ok (), session.abort watch.environment state)) session quarters
      record := by
  refine ⟨.giveUp session record, ?_⟩
  intro name store unscripted found
  -- What becomes of the service is settled by the connection, the report by the stream.
  have released : ∃ after,
      ((session.onStream name).discard.closeAppender watch.environment
        (quarters.onStream name, store)).2 = (quarters.onStream name, after) ∧
      Store.Wrote name record (abandoned session quarters record).calls store after := by
    cases connected : session.appender with
    | none =>
        refine ⟨store, ?_, ?_⟩
        · simp [closeAppender, discard, onStream, connected]
        · simp only [abandoned, connected]
          exact .refl unscripted found
    | some appender =>
        have wired := appender_onStream name connected (sits.alive appender connected)
        have closed := (Store.close_wrote unscripted found appender.stream).2
        refine ⟨_, closeAppender_of_wired unscripted _ wired, ?_⟩
        simp only [abandoned, connected]
        exact closed
  obtain ⟨after, closed, wrote⟩ := released
  refine ⟨after, ?_, wrote⟩
  have whole : (session.onStream name).discard.closeAppender watch.environment
      (quarters.onStream name, store) =
      ({ (session.onStream name).discard with appender := none }, quarters.onStream name, after) :=
    Prod.ext (closeAppender_session _ _ _) closed
  unfold discard at whole
  simp only [abort, whole]
  cases named : session.stream with
  | none => simp [onStream, named, abandoned, aborting, giveUp]
  | some stream =>
      simp [onStream, named, abandoned, aborting, giveUp, Quarters.onStream_report,
        Event.onStream]
      rfl

/-! ### Opening -/

def uncreated : RetryError := ⟨"create_write_stream", 0, .interrupted, none⟩

def seated (table : String) (schema : Schema) (config : Config) (random : Random) : Session :=
  fresh table schema config { stream := "" } ⟨⟨"", .pending⟩, 1⟩ random

theorem sits_seated (table : String) (schema : Schema) (config : Config) (random : Random) :
    Sits (seated table schema config random) { kind := .pending } where
  consistent := .fresh table schema config _ _ random
  alive appender connected := by
    rw [← Option.some.inj connected]
  inStep _ := ⟨rfl, rfl⟩

/-- Opening a session either fails and makes no request, or succeeds on the stream with the next
number, whatever else the service holds. -/
theorem start_portable (watch : Watch κ) (quarters : Quarters κ) (table : String)
    (schema : Schema) (config : Config) (random : Random)
    (nameless : ∀ name, quarters.onStream name = quarters) :
    (∃ error after, (∀ name, SessionError.onStream name error = error) ∧
      (∀ name, Quarters.onStream name after = after) ∧
      ∀ store, start watch.environment table schema config random (quarters, store) =
        (.error error, after, store)) ∨
    ∀ name store, store.script = {} → Store.streamName table (store.created + 1) = name →
      ∃ after, start watch.environment table schema config random (quarters, store) =
          (.ok ((seated table schema config random).onStream name),
            (quarters.report (.streamCreated "" table 1)).onStream name, after) ∧
        Store.Wrote name { kind := .pending } [.bind ""] store after ∧
        store.created < after.created := by
  cases valid : config.validate with
  | error flaw =>
      refine Or.inl ⟨.config (.invalid flaw), quarters, fun _ => rfl, nameless, ?_⟩
      intro store
      simp only [start, valid]
  | ok accepted =>
      cases cancelled : watch.cancelled quarters.around with
      | true =>
          refine Or.inl ⟨.streamCreation table uncreated,
            quarters.report (.streamNotCreated table uncreated), fun _ => rfl, ?_, ?_⟩
          · intro name
            rw [Quarters.onStream_report, nameless]
            rfl
          · intro store
            have ran := @Retry.run_of_cancelled _ _ watch.environment.host
              (watch.environment.client.create table .pending) config.retry
              config.retryableCodes "create_write_stream" random (quarters, store) cancelled
            simp only [start, valid, ran]
            rfl
      | false =>
          refine Or.inr ?_
          intro name store unscripted named
          obtain ⟨answered, created, counted⟩ :=
            Store.create_wrote unscripted table .pending named
          obtain ⟨connected, bound⟩ :=
            Store.bind_wrote created.unscripted created.found schema ""
          have ran : Retry.run watch.environment.host config.retry config.retryableCodes
              "create_write_stream" (watch.environment.client.create table .pending) random
              (quarters, store) =
              ⟨.ok ⟨⟨name, .pending⟩, 1⟩, random, quarters,
                (store.create table .pending).2⟩ := by
            refine Retry.run_of_first_ok _ _ _ _ cancelled ?_
            have reply := congrArg Prod.fst answered
            exact Prod.ext reply rfl
          have called : watch.environment.client.bind name schema
              (quarters, (store.create table .pending).2) = (.ok { stream := name }, quarters,
                ((store.create table .pending).2.bind name schema).2) := by
            have reply := congrArg Prod.fst connected
            exact Prod.ext reply rfl
          refine ⟨_, ?_, created.trans bound, ?_⟩
          · simp only [start, valid, ran, called]
            rw [Quarters.onStream_report, nameless]
            rfl
          · have grown := bound.created_le
            omega

end Session

end RowStream
