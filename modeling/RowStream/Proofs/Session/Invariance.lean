import RowStream.Proofs.Client.Serving
import RowStream.Proofs.Retry.Induction
import RowStream.Proofs.Session.Steps

/-!
Contract: what every request keeps, every operation of a session keeps.

Owns:
- `Keeps`, a relation between states that is passed on and kept by each single request,
  report and pause;
- `Reached`, the smallest such relation;
- `Serves.keeps`, such a relation from one that each request to the store keeps;
- for each operation of a session that it keeps such a relation, however it ends.

This is for facts that no request can break. What depends on the phase of the session or on
the answers to its requests is proved of the steps themselves.
-/

namespace RowStream

variable {σ : Type} {environment : Environment σ} {Kept : σ → σ → Prop}

/-- Whatever a session asks of its environment, the states before and after are related. -/
structure Keeps (environment : Environment σ) (Kept : σ → σ → Prop) : Prop where
  refl : ∀ state, Kept state state
  trans : ∀ {first second third}, Kept first second → Kept second third → Kept first third
  report : ∀ event state, Kept state (environment.host.report event state)
  sleep : ∀ duration state, Kept state (environment.host.sleep duration state)
  create : ∀ parent kind state, Kept state (environment.client.create parent kind state).2
  bind : ∀ stream schema state, Kept state (environment.client.bind stream schema state).2
  append : ∀ appender batch offset state,
    Kept state (environment.client.append appender batch offset state).2
  close : ∀ appender state, Kept state (environment.client.close appender state).2
  finalize : ∀ stream state, Kept state (environment.client.finalize stream state).2

namespace Keeps

theorem of_bind (keeps : Keeps environment Kept) {stream : String} {schema : Schema}
    {answer : Except SystemError Appender} {before after : σ}
    (called : environment.client.bind stream schema before = (answer, after)) :
    Kept before after := by
  have kept := keeps.bind stream schema before
  rw [called] at kept
  exact kept

theorem of_append (keeps : Keeps environment Kept) {appender : Appender} {batch : Batch}
    {offset : UInt64} {reply : AppendReply} {before after : σ}
    (called : environment.client.append appender batch offset before = (reply, after)) :
    Kept before after := by
  have kept := keeps.append appender batch offset before
  rw [called] at kept
  exact kept

theorem of_close (keeps : Keeps environment Kept) {appender : Appender}
    {answer : Except Status Unit} {before after : σ}
    (called : environment.client.close appender before = (answer, after)) :
    Kept before after := by
  have kept := keeps.close appender before
  rw [called] at kept
  exact kept

/-- Attempts keep what one attempt keeps. -/
theorem attempts (keeps : Keeps environment Kept) {α : Type} {attempt : σ → Except Status α × σ}
    (one : ∀ state, Kept state (attempt state).2) (policy : RetryPolicy)
    (retryable : List StatusCode) (operation : String) (random : Random) (state : σ) :
    Kept state
      (Retry.run environment.host policy retryable operation attempt random state).state := by
  have called {reached after : σ} {answer : Except Status α} (kept : Kept state reached)
      (called : attempt reached = (answer, after)) : Kept state after := by
    have next := one reached
    rw [called] at next
    exact keeps.trans kept next
  have ended := @Retry.run_invariant α σ environment.host attempt (Kept state)
    (fun _ reached => Kept state reached)
    (fun event reached kept => keeps.trans kept (keeps.report event reached))
    (fun duration reached kept => keeps.trans kept (keeps.sleep duration reached))
    called called policy retryable operation random state (keeps.refl state)
  cases outcome :
      (Retry.run environment.host policy retryable operation attempt random state).outcome with
  | ok retried => exact ended.1 retried outcome
  | error error => exact ended.2 error outcome

end Keeps

/-- Requests, reports and pauses lead from one state to the other: what they keep one by one, they
have kept in between. -/
def Reached (environment : Environment σ) (before after : σ) : Prop :=
  ∀ Kept : σ → σ → Prop, Keeps environment Kept → Kept before after

/-- Being reached is itself kept. -/
theorem reached_keeps (environment : Environment σ) : Keeps environment (Reached environment) where
  refl state _ keeps := keeps.refl state
  trans early late Kept keeps := keeps.trans (early Kept keeps) (late Kept keeps)
  report event state _ keeps := keeps.report event state
  sleep duration state _ keeps := keeps.sleep duration state
  create parent kind state _ keeps := keeps.create parent kind state
  bind stream schema state _ keeps := keeps.bind stream schema state
  append appender batch offset state _ keeps := keeps.append appender batch offset state
  close appender state _ keeps := keeps.close appender state
  finalize stream state _ keeps := keeps.finalize stream state

/-- However a request fares, it does to the store what serving it does, or nothing. -/
theorem Delivery.kept {α : Type} {store : σ → Store} {faults : σ → Nat}
    {serve : Store → α × Store} {Refusal : α → Prop} {Touched : α → α → Prop} {before : σ}
    {request : α × σ} (delivery : Delivery store faults serve Refusal Touched before request)
    {KeptBy : Store → Store → Prop} (refl : ∀ held, KeptBy held held)
    (serving : ∀ held, KeptBy held (serve held).2) : KeptBy (store before) (store request.2) := by
  have kept := serving (store before)
  cases delivery with
  | reached served quiet =>
      rw [served] at kept
      exact kept
  | refused refusal untouched struck =>
      rw [untouched]
      exact refl _
  | touched served touch struck =>
      rw [served] at kept
      exact kept

/-- What every request to the store keeps, an environment that serves it keeps. -/
theorem Serves.keeps {store : σ → Store} {faults : σ → Nat}
    (serves : Serves environment store faults) {KeptBy : Store → Store → Prop}
    (refl : ∀ held, KeptBy held held)
    (trans : ∀ {first second third}, KeptBy first second → KeptBy second third →
      KeptBy first third)
    (create : ∀ parent kind held, KeptBy held (held.create parent kind).2)
    (bind : ∀ stream schema held, KeptBy held (held.bind stream schema).2)
    (append : ∀ appender batch offset held, KeptBy held (held.append appender batch offset).2)
    (close : ∀ appender held, KeptBy held (held.close appender).2)
    (finalize : ∀ stream held, KeptBy held (held.finalize stream).2) :
    Keeps environment (fun before after => KeptBy (store before) (store after)) where
  refl state := refl (store state)
  trans := trans
  report event state := by
    rw [(serves.report event state).1]
    exact refl _
  sleep duration state := by
    rw [(serves.sleep duration state).1]
    exact refl _
  create parent kind state := (serves.create parent kind state).kept refl (create parent kind)
  bind stream schema state := (serves.bind stream schema state).kept refl (bind stream schema)
  append appender batch offset state :=
    (serves.append appender batch offset state).kept refl (append appender batch offset)
  close appender state := (serves.close appender state).kept refl (close appender)
  finalize stream state := (serves.finalize stream state).kept refl (finalize stream)

namespace Session

variable {session : Session} {state : σ}

/-- A relation that requests keep is kept while a stream is created, over all its attempts. -/
theorem creating_kept (keeps : Keeps environment Kept) (table : String) (config : Config)
    (random : Random) (state : σ) :
    Kept state (creating environment table config random state).state :=
  keeps.attempts (fun reached => keeps.create table .pending reached) config.retry
    config.retryableCodes "create_write_stream" random state

theorem finalizing_kept (keeps : Keeps environment Kept) (session : Session) (state : σ) :
    Kept state (session.finalizing environment state).state :=
  keeps.trans (keeps.sleep _ state)
    (keeps.attempts (fun reached => keeps.finalize session.streamText reached)
      session.config.retry session.config.retryableCodes "finalize_write_stream" session.random
      (session.pause environment state))

theorem StartStep.kept (keeps : Keeps environment Kept) {table : String} {schema : Schema}
    {config : Config} {random : Random} {ended : Except SessionError Session × σ}
    (step : StartStep environment table schema config random state ended) :
    Kept state ended.2 := by
  have attempts := creating_kept keeps table config random state
  cases step with
  | invalid flawed => exact keeps.refl state
  | notCreated valid gaveUp => exact keeps.trans attempts (keeps.report _ _)
  | notBound valid answered bound => exact keeps.trans attempts (keeps.of_bind bound)
  | opened valid answered bound =>
      exact keeps.trans (keeps.trans attempts (keeps.of_bind bound)) (keeps.report _ _)

theorem FlushStep.kept (keeps : Keeps environment Kept)
    {ended : Except SessionError Unit × Session × σ}
    (step : FlushStep environment session state ended) : Kept state ended.2.2 := by
  have announced : Kept state (session.announce environment state) := keeps.report _ state
  cases step with
  | interrupted cancelled => exact keeps.report _ state
  | unconnected closed => exact keeps.refl state
  | rejected going connected sent judged =>
      exact keeps.trans (keeps.trans announced (keeps.of_append sent)) (keeps.report _ _)
  | acknowledged going connected sent => exact keeps.trans announced (keeps.of_append sent)

theorem CloseStep.kept (keeps : Keeps environment Kept) {after : σ}
    (step : CloseStep environment session state after) : Kept state after := by
  cases step with
  | absent closed => exact keeps.refl state
  | quiet connected called => exact keeps.of_close called
  | reported connected called => exact keeps.trans (keeps.of_close called) (keeps.report _ _)

theorem ConcludeStep.kept (keeps : Keeps environment Kept)
    {ended : Except SessionError Nat × Session × σ}
    (step : ConcludeStep environment session state ended) : Kept state ended.2.2 := by
  have attempts := finalizing_kept keeps session state
  cases step with
  | interrupted cancelled => exact keeps.trans (keeps.sleep _ state) (keeps.report _ _)
  | refused going gaveUp => exact keeps.trans attempts (keeps.report _ _)
  | miscounted going answered differs => exact keeps.trans attempts (keeps.report _ _)
  | finalized going answered agrees =>
      have closed := fun finished =>
        (closeAppender_step environment finished (session.finalizing environment state).state).kept
          keeps
      exact keeps.trans (keeps.trans attempts (closed _)) (keeps.report _ _)

theorem AddStep.kept (keeps : Keeps environment Kept) {row : Row}
    {ended : Except SessionError Unit × Session × σ}
    (step : AddStep environment row session state ended) : Kept state ended.2.2 := by
  cases step with
  | closed past => exact keeps.refl state
  | buffered isOpen fits => exact keeps.refl state
  | tooLarge isOpen large => exact keeps.refl state
  | stuck isOpen overflows fits flushed => exact flushed.kept keeps
  | flushed isOpen overflows fits flushed => exact flushed.kept keeps

theorem CommitStep.kept (keeps : Keeps environment Kept)
    {ended : Except SessionError Nat × Session × σ}
    (step : CommitStep environment session state ended) : Kept state ended.2.2 := by
  cases step with
  | closed past => exact keeps.refl state
  | unbuffered isOpen empty concluded => exact concluded.kept keeps
  | stuck isOpen waiting flushed => exact flushed.kept keeps
  | flushed isOpen waiting flushed concluded =>
      exact keeps.trans (flushed.kept keeps) (concluded.kept keeps)

theorem AbortStep.kept (keeps : Keeps environment Kept) {ended : Session × σ}
    (step : AbortStep environment session state ended) : Kept state ended.2 := by
  cases step with
  | silent nameless closed => exact closed.kept keeps
  | reported named closed => exact keeps.trans (closed.kept keeps) (keeps.report _ _)

theorem release_kept (keeps : Keeps environment Kept) (session : Session) (state : σ) :
    Kept state (session.release environment state) := by
  unfold Session.release
  split
  · exact keeps.refl state
  · exact keeps.trans (keeps.report _ state) ((closeAppender_step _ _ _).kept keeps)

end Session

end RowStream
