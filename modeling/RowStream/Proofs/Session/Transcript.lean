import RowStream.Proofs.Client.Logged
import RowStream.Proofs.Session.Account
import RowStream.Proofs.Session.Course

/-!
Contract: the log of a stream under the operations of its session.

Owns:
- `transcript`, the log of a stream as a session leaves it, and `Request.PausedBetween`, the
  pause between appending and finalizing;
- `Sending` and `Ended`, what stands in the log and among the requests while a session is open
  and afterwards;
- for each operation what it makes of them in an environment that `Serves`.

Only an open session sends anything but the release of its connection. It asks for the pause
once everything accepted is acknowledged, and is not open after that.
-/

namespace RowStream

/-- The first request to finalize comes after a pause, and the last append before it. -/
def Request.PausedBetween (duration : Duration) (requests : List Request) : Prop :=
  ∃ before after, requests = before ++ .sleep duration :: after ∧
    (∀ stream, .finalize stream ∉ before) ∧ ∀ appender batch offset,
      .append appender batch offset ∉ after

theorem Request.PausedBetween.added {duration : Duration} {requests more : List Request}
    (paused : Request.PausedBetween duration requests)
    (grown : Request.Added
      (fun request => ∀ appender batch offset, request ≠ .append appender batch offset)
      requests more) :
    Request.PausedBetween duration more := by
  obtain ⟨before, after, split, unfinalized, unappended⟩ := paused
  obtain ⟨added, equal, others⟩ := grown
  refine ⟨before, after ++ added, by rw [equal, split]; simp, unfinalized, ?_⟩
  intro appender batch offset member
  rcases List.mem_append.mp member with inside | behind
  · exact unappended appender batch offset inside
  · exact others _ behind appender batch offset rfl

namespace Session

variable {σ : Type} {environment : Environment σ} {store : σ → Store} {faults : σ → Nat}
  {session : Session} {stream : String}

/-! ### Entries -/

def appendCall (stream : String) (append : UInt64 × Nat) : Call :=
  .append stream append.1 append.2

/-- The log of a stream whose session made these appends and requests to finalize, and
released its connection in the end. -/
def transcript (stream : String) (appends : List (UInt64 × Nat)) (finalizes : Nat)
    (connected : Bool) : List Call :=
  .bind stream :: (appends.map (appendCall stream) ++
    (List.replicate finalizes (.finalize stream) ++ if connected then [] else [.close stream]))

theorem transcript_append (stream : String) (appends more : List (UInt64 × Nat)) :
    transcript stream appends 0 true ++ more.map (appendCall stream) =
      transcript stream (appends ++ more) 0 true := by
  simp [transcript]

theorem transcript_finalize (stream : String) (appends : List (UInt64 × Nat)) (finalizes : Nat)
    (connected : Bool) :
    transcript stream appends 0 true ++ (List.replicate finalizes (.finalize stream) ++
        if connected then [] else [.close stream]) =
      transcript stream appends finalizes connected := by
  simp [transcript]

theorem transcript_close (stream : String) (appends : List (UInt64 × Nat)) (finalizes : Nat) :
    transcript stream appends finalizes true ++ [.close stream] =
      transcript stream appends finalizes false := by
  simp [transcript]

section Entries

variable {state : σ}

/-- A flush leaves one entry; one that fails may leave none. -/
theorem FlushStep.calls (serves : Serves environment store faults)
    (connection : session.appender = some { stream := stream })
    {ended : Except SessionError Unit × Session × σ}
    (step : FlushStep environment session state ended) :
    (store ended.2.2).callsOn stream =
        (store state).callsOn stream ++
          [(session.nextOffset, session.pending.length)].map (appendCall stream) ∨
      (∃ error, ended.1 = .error error) ∧
        (store ended.2.2).callsOn stream = (store state).callsOn stream := by
  have announced : (store (session.announce environment state)).callsOn stream =
      (store state).callsOn stream := serves.report_calls stream _ state
  cases step with
  | interrupted cancelled => exact Or.inr ⟨⟨_, rfl⟩, serves.report_calls stream _ state⟩
  | unconnected closed => exact Or.inr ⟨⟨_, rfl⟩, rfl⟩
  | @rejected appender reply cause after going connected sent judged =>
      have reported : (store (session.reportFailure environment cause after)).callsOn stream =
          (store after).callsOn stream := serves.report_calls stream _ after
      rw [Option.some.inj (connected.symm.trans connection)] at sent
      rcases serves.append_calls sent with logged | ⟨_, same⟩
      · exact Or.inl (reported.trans (logged.trans (by rw [announced]; rfl)))
      · exact Or.inr ⟨⟨_, rfl⟩, reported.trans (same.trans announced)⟩
  | acknowledged going connected sent =>
      rw [Option.some.inj (connected.symm.trans connection)] at sent
      rcases serves.append_calls sent with logged | ⟨⟨status, impossible⟩, _⟩
      · exact Or.inl (logged.trans (by rw [announced]; rfl))
      · exact absurd impossible (by simp)

/-- Releasing a connection leaves one entry, and none if there is no connection. -/
theorem CloseStep.calls (serves : Serves environment store faults)
    (held : ∀ appender, session.appender = some appender → appender = { stream := stream })
    {after : σ} (step : CloseStep environment session state after) :
    (store after).callsOn stream =
      (store state).callsOn stream ++ if session.appender.isSome then [.close stream] else [] := by
  cases step with
  | absent closed => simp [closed]
  | @quiet appender after connected called =>
      rw [held appender connected] at called
      rw [serves.close_calls called, connected]
      rfl
  | @reported appender status after connected called =>
      rw [held appender connected] at called
      rw [serves.report_calls, serves.close_calls called, connected]
      rfl

theorem closing_calls (serves : Serves environment store faults)
    (connection : session.appender = some { stream := stream }) (state : σ) :
    (store (session.closing environment state)).callsOn stream =
      (store state).callsOn stream ++ [.close stream] := by
  have held : ∀ appender, ({ session with phase := .committed } : Session).appender =
      some appender → appender = { stream := stream } :=
    fun appender connected => Option.some.inj (connected.symm.trans connection)
  have calls := (closeAppender_step environment _ state).calls serves held
  rw [closing, calls, connection]
  rfl

/-- The service logs no more finalizations than the policy allows attempts. -/
theorem finalizing_calls (serves : Serves environment store faults)
    (named : session.streamText = stream) (state : σ) :
    ∃ finalizes, session.config.retry.Allows finalizes ∧
      (store (session.finalizing environment state).state).callsOn stream =
        (store state).callsOn stream ++ List.replicate finalizes (.finalize stream) := by
  obtain ⟨finalizes, allowed, logged⟩ := serves.finalize_run_calls stream session.config.retry
    session.config.retryableCodes "finalize_write_stream" session.random
    (session.pause environment state)
  have paused : (store (session.pause environment state)).callsOn stream =
      (store state).callsOn stream := serves.sleep_calls stream _ state
  rw [paused] at logged
  rw [finalizing, named]
  exact ⟨finalizes, allowed, logged⟩

/-- After the requests to finalize, the connection is released if they end well. -/
theorem ConcludeStep.calls (serves : Serves environment store faults)
    (connection : session.appender = some { stream := stream })
    (named : session.streamText = stream) {ended : Except SessionError Nat × Session × σ}
    (step : ConcludeStep environment session state ended) :
    ∃ finalizes, session.config.retry.Allows finalizes ∧
      (store ended.2.2).callsOn stream =
        (store state).callsOn stream ++ (List.replicate finalizes (.finalize stream) ++
          if ended.2.1.appender.isSome then [] else [.close stream]) := by
  obtain ⟨finalizes, allowed, logged⟩ := finalizing_calls serves named state
  cases step with
  | interrupted cancelled =>
      refine ⟨0, fun _ => Nat.zero_le _, ?_⟩
      have paused : (store (session.pause environment state)).callsOn stream =
          (store state).callsOn stream := serves.sleep_calls stream _ state
      simp [serves.report_calls, paused, fail, connection]
  | refused going gaveUp =>
      refine ⟨finalizes, allowed, ?_⟩
      simp [serves.report_calls, logged, fail, connection]
  | miscounted going answered differs =>
      refine ⟨finalizes, allowed, ?_⟩
      simp [serves.report_calls, logged, fail, countFinalize, connection]
  | @finalized retried going answered agrees =>
      refine ⟨finalizes, allowed, ?_⟩
      have counted : (session.countFinalize retried.attempts
          (session.finalizing environment state).random).appender = some { stream := stream } :=
        connection
      simp [serves.report_calls, closing_calls serves counted, logged, finish]

end Entries

/-! ### Requests -/

section Requests

variable {whole : List Request × σ} {Kind : Request → Prop}

/-- What a commit asks for after the pause. -/
theorem ConcludeStep.added_after_pause
    {ended : Except SessionError Nat × Session × List Request × σ}
    (step : ConcludeStep environment.recorded session whole ended)
    (finalize : Kind (.finalize session.streamText)) (sleep : ∀ duration, Kind (.sleep duration))
    (close : ∀ appender, Kind (.close appender)) :
    Request.Added Kind (whole.1 ++ [.sleep session.config.finalizeQuiescence]) ended.2.2.1 := by
  have attempts : Request.Added Kind (whole.1 ++ [.sleep session.config.finalizeQuiescence])
      (session.finalizing environment.recorded whole).state.1 :=
    attempts_requests_added environment (fun _ => .one finalize _) sleep
      session.config.retry session.config.retryableCodes "finalize_write_stream" session.random
      (session.pause environment.recorded whole)
  cases step with
  | interrupted cancelled => exact .refl _
  | refused going gaveUp => exact attempts
  | miscounted going answered differs => exact attempts
  | finalized going answered agrees =>
      exact attempts.trans ((closeAppender_step environment.recorded _ _).requests_added close)

/-- The pause comes after the last append and before the first finalization. -/
theorem ConcludeStep.paused {ended : Except SessionError Nat × Session × List Request × σ}
    (step : ConcludeStep environment.recorded session whole ended)
    (unfinalized : ∀ other, .finalize other ∉ whole.1) :
    Request.PausedBetween session.config.finalizeQuiescence ended.2.2.1 := by
  have begun : Request.PausedBetween session.config.finalizeQuiescence
      (whole.1 ++ [.sleep session.config.finalizeQuiescence]) :=
    ⟨whole.1, [], rfl, unfinalized, by simp⟩
  exact begun.added (step.added_after_pause (by simp) (by simp) (by simp))

end Requests

/-! ### Operations -/

variable {before : List Call} {accepted : List Row} {whole : List Request × σ}

structure Sending (store : σ → Store) (stream : String) (before : List Call) (session : Session)
    (whole : List Request × σ) : Prop where
  isOpen : session.phase = .open
  named : session.streamText = stream
  connected : session.appender = some { stream := stream }
  logged : ∃ appends,
    (store whole.2).callsOn stream = before ++ transcript stream appends 0 true ∧
      Contiguous 0 appends ∧ rowTotal appends = session.committedCount
  unfinalized : ∀ other, .finalize other ∉ whole.1

/-- What was sent for a session, and whether it still is connected. If it was asked to finalize
the stream, this was after the pause and with every accepted row acknowledged. -/
structure Sent (store : σ → Store) (stream : String) (before : List Call) (accepted : List Row)
    (session : Session) (connected : Bool) (whole : List Request × σ) : Prop where
  logged : ∃ appends finalizes,
    (store whole.2).callsOn stream = before ++ transcript stream appends finalizes connected ∧
      Contiguous 0 appends ∧ session.config.retry.Allows finalizes
  settled : (∀ other, .finalize other ∉ whole.1) ∨
    session.committedCount = accepted.length ∧
      Request.PausedBetween session.config.finalizeQuiescence whole.1

structure Ended (store : σ → Store) (stream : String) (before : List Call) (accepted : List Row)
    (session : Session) (whole : List Request × σ) : Prop where
  past : session.phase ≠ .open
  held : ∀ appender, session.appender = some appender → appender = { stream := stream }
  sent : Sent store stream before accepted session session.appender.isSome whole

namespace Sending

theorem sent (sending : Sending store stream before session whole) (accepted : List Row) :
    Sent store stream before accepted session true whole where
  logged := by
    obtain ⟨appends, entries, contiguous, _⟩ := sending.logged
    exact ⟨appends, 0, entries, contiguous, fun _ => Nat.zero_le _⟩
  settled := Or.inl sending.unfinalized

end Sending

/-- A session that failed although its appends are in order, and before it asked to finalize. -/
theorem Ended.of_failed {failed : Session} (hasFailed : failed.phase = .failed)
    (connected : failed.appender = some { stream := stream })
    (logged : ∃ appends,
      (store whole.2).callsOn stream = before ++ transcript stream appends 0 true ∧
        Contiguous 0 appends)
    (unfinalized : ∀ other, .finalize other ∉ whole.1) :
    Ended store stream before accepted failed whole where
  past := by simp [hasFailed]
  held appender present := Option.some.inj (present.symm.trans connected)
  sent := by
    obtain ⟨appends, entries, contiguous⟩ := logged
    rw [connected]
    exact ⟨⟨appends, 0, entries, contiguous, fun _ => Nat.zero_le _⟩, Or.inl unfinalized⟩

/-- Releasing the connection completes the log. -/
theorem Sent.close (connected : Session) {released : Session}
    (sent : Sent store stream before accepted session connected.appender.isSome whole)
    (serves : Serves environment store faults)
    (held : ∀ appender, connected.appender = some appender → appender = { stream := stream })
    {after : List Request × σ}
    (step : CloseStep environment.recorded connected whole after)
    (config : released.config = session.config)
    (count : released.committedCount = session.committedCount) :
    Sent store stream before accepted released false after where
  logged := by
    obtain ⟨appends, finalizes, entries, contiguous, allowed⟩ := sent.logged
    have closed := step.calls (serves_recorded serves) held
    rw [← config] at allowed
    refine ⟨appends, finalizes, ?_, contiguous, allowed⟩
    rw [closed, entries]
    cases connected.appender.isSome with
    | true => rw [if_pos rfl, List.append_assoc, transcript_close]
    | false => simp
  settled := by
    rw [config, count]
    rcases sent.settled with unfinalized | ⟨complete, paused⟩
    · refine Or.inl fun other => ?_
      exact (step.requests_added fun _ => by simp).not_mem (unfinalized other)
    · exact Or.inr ⟨complete, paused.added (step.requests_added fun _ => by simp)⟩

/-- What is in the buffer goes where the entries so far end. -/
theorem FlushStep.sending (serves : Serves environment store faults) (accepted : List Row)
    (counted : session.pendingCount = session.pending.length)
    (sending : Sending store stream before session whole)
    {ended : Except SessionError Unit × Session × List Request × σ}
    (step : FlushStep environment.recorded session whole ended) :
    match ended.1 with
    | .ok () => Sending store stream before ended.2.1 ended.2.2
    | .error _ => Ended store stream before accepted ended.2.1 ended.2.2 := by
  obtain ⟨appends, entries, contiguous, total⟩ := sending.logged
  have calls := step.calls (serves_recorded serves) sending.connected
  have unfinalized : ∀ other, .finalize other ∉ ended.2.2.1 := fun other =>
    (step.requests_added fun _ => by simp).not_mem (sending.unfinalized other)
  have offset : session.nextOffset = 0 + UInt64.ofNat (rowTotal appends) := by
    rw [total, UInt64.zero_add, nextOffset]
  have extended : Contiguous 0 (appends ++ [(session.nextOffset, session.pending.length)]) := by
    rw [offset]
    exact contiguous.append_at_end _
  have either : ((store ended.2.2.2).callsOn stream = before ++ transcript stream
        (appends ++ [(session.nextOffset, session.pending.length)]) 0 true) ∨
      (∃ error, ended.1 = .error error) ∧
        (store ended.2.2.2).callsOn stream = before ++ transcript stream appends 0 true := by
    rcases calls with logged | ⟨failed, same⟩
    · refine Or.inl ?_
      rw [logged, entries, List.append_assoc, transcript_append]
    · exact Or.inr ⟨failed, same.trans entries⟩
  have logged : ∃ sent, (store ended.2.2.2).callsOn stream =
      before ++ transcript stream sent 0 true ∧ Contiguous 0 sent := by
    rcases either with more | ⟨_, same⟩
    · exact ⟨_, more, extended⟩
    · exact ⟨_, same, contiguous⟩
  cases step with
  | interrupted cancelled => exact .of_failed rfl sending.connected logged unfinalized
  | unconnected closed =>
      rw [sending.connected] at closed
      exact absurd closed (by simp)
  | rejected going connected sent judged =>
      exact .of_failed rfl sending.connected logged unfinalized
  | acknowledged going connected sent =>
      refine ⟨sending.isOpen, sending.named, sending.connected, ?_, unfinalized⟩
      rcases either with more | ⟨⟨error, impossible⟩, _⟩
      · refine ⟨_, more, extended, ?_⟩
        rw [rowTotal_append, rowTotal_singleton, total, ← counted]
        rfl
      · exact absurd impossible (by simp)

/-- A row adds at most one append to the log, at the offset that the last one left. -/
theorem AddStep.sending (serves : Serves environment store faults) (accepted : List Row)
    (counted : session.pendingCount = session.pending.length)
    (sending : Sending store stream before session whole) {row : Row}
    {ended : Except SessionError Unit × Session × List Request × σ}
    (step : AddStep environment.recorded row session whole ended) :
    Sending store stream before ended.2.1 ended.2.2 ∨
      (∃ error, ended.1 = .error error) ∧
        Ended store stream before accepted ended.2.1 ended.2.2 := by
  cases step with
  | closed past => exact absurd sending.isOpen past
  | buffered isOpen fits =>
      exact Or.inl ⟨sending.isOpen, sending.named, sending.connected, sending.logged,
        sending.unfinalized⟩
  | tooLarge isOpen large => exact Or.inl sending
  | stuck isOpen overflows fits flushed =>
      exact Or.inr ⟨⟨_, rfl⟩, flushed.sending serves accepted counted sending⟩
  | flushed isOpen overflows fits flushed =>
      have emptied := flushed.sending serves accepted counted sending
      exact Or.inl ⟨emptied.isOpen, emptied.named, emptied.connected, emptied.logged,
        emptied.unfinalized⟩

/-- However a commit ends that finds nothing left to send, the session sends nothing more. -/
theorem ConcludeStep.ended (serves : Serves environment store faults)
    (sending : Sending store stream before session whole)
    (complete : session.committedCount = accepted.length)
    {ended : Except SessionError Nat × Session × List Request × σ}
    (step : ConcludeStep environment.recorded session whole ended) :
    Ended store stream before accepted ended.2.1 ended.2.2 := by
  obtain ⟨appends, entries, contiguous, _⟩ := sending.logged
  obtain ⟨finalizes, allowed, logged⟩ :=
    step.calls (serves_recorded serves) sending.connected sending.named
  rw [entries, List.append_assoc, transcript_finalize] at logged
  have paused := step.paused sending.unfinalized
  rw [← step.config_eq] at allowed paused
  refine ⟨?_, ?_, ⟨appends, finalizes, logged, contiguous, allowed⟩,
    Or.inr ⟨step.committedCount_eq.trans complete, paused⟩⟩
  · cases step <;> simp [Session.fail, finish]
  · intro appender connected
    cases step with
    | finalized going answered agrees => simp [finish] at connected
    | interrupted cancelled =>
        exact Option.some.inj (connected.symm.trans sending.connected)
    | refused going gaveUp => exact Option.some.inj (connected.symm.trans sending.connected)
    | miscounted going answered differs =>
        exact Option.some.inj (connected.symm.trans sending.connected)

theorem InStepAt.acknowledged {state : σ} (inStep : InStepAt store stream accepted session state)
    (empty : session.pending.toList = []) : session.committedCount = accepted.length := by
  obtain ⟨record, _, inStep⟩ := inStep
  rw [← inStep.stored_eq empty, Array.length_toList, inStep.counted]

theorem CommitStep.ended (serves : Serves environment store faults)
    (consistent : Consistent session)
    (inStep : InStepAt (fun reached : List Request × σ => store reached.2) stream accepted session
      whole)
    (sending : Sending store stream before session whole)
    {ended : Except SessionError Nat × Session × List Request × σ}
    (step : CommitStep environment.recorded session whole ended) :
    Ended store stream before accepted ended.2.1 ended.2.2 := by
  cases step with
  | closed past => exact absurd sending.isOpen past
  | unbuffered isOpen empty concluded =>
      exact concluded.ended serves sending (inStep.acknowledged empty)
  | stuck isOpen waiting flushed =>
      exact flushed.sending serves accepted consistent.count_eq sending
  | flushed isOpen waiting flushed concluded =>
      have emptied := flushed.sending serves accepted consistent.count_eq sending
      obtain ⟨_, settled, _, empty⟩ := flushed.outcome (serves_recorded serves) consistent inStep
      exact concluded.ended serves emptied (settled.acknowledged empty)

theorem Sent.report {connected : Bool} (serves : Serves environment store faults)
    (sent : Sent store stream before accepted session connected whole) (event : Event) :
    Sent store stream before accepted session connected
      (environment.recorded.host.report event whole) where
  logged := by
    obtain ⟨appends, finalizes, entries, ordered⟩ := sent.logged
    exact ⟨appends, finalizes, (serves.report_calls stream event whole.2).trans entries, ordered⟩
  settled := sent.settled

theorem AbortStep.ended (serves : Serves environment store faults)
    (held : ∀ appender, session.appender = some appender → appender = { stream := stream })
    (sent : Sent store stream before accepted session session.appender.isSome whole)
    {ended : Session × List Request × σ}
    (step : AbortStep environment.recorded session whole ended) :
    Ended store stream before accepted ended.1 ended.2 := by
  have released {after : List Request × σ}
      (closed : CloseStep environment.recorded session.discard whole after) :
      Sent store stream before accepted session.giveUp false after :=
    sent.close session.discard serves held closed rfl rfl
  cases step with
  | silent nameless closed =>
      exact ⟨by simp [giveUp], by simp [giveUp], released closed⟩
  | reported named closed =>
      exact ⟨by simp [giveUp], by simp [giveUp], (released closed).report serves _⟩

/-- Letting go of a session releases its connection, if that was not done before. -/
theorem Sent.release (serves : Serves environment store faults)
    (held : ∀ appender, session.appender = some appender → appender = { stream := stream })
    (sent : Sent store stream before accepted session session.appender.isSome whole) :
    Sent store stream before accepted session false
      (session.release environment.recorded whole) := by
  unfold Session.release
  split
  · next released =>
      rw [released] at sent
      exact sent
  · exact (sent.report serves _).close session serves held (closeAppender_step _ _ _) rfl rfl

end Session

end RowStream
