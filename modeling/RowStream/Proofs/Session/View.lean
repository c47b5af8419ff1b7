import RowStream.Proofs.Session.Course

/-!
Contract: a session does the same in two environments that answer alike.

Owns:
- `Views`, two environments of which one behaves like the other as far as a view of its
  states tells;
- for the attempts under a policy and for each operation of a session, that it does the
  same in both.

Main statements: `Course.start_session_eq`, `Course.add_session_eq`,
`Course.commit_session_eq` and `Course.abort_session_eq`. A course takes note of requests,
and its session does what it does where nobody takes note.
-/

namespace RowStream

variable {σ τ : Type} {view : τ → σ} {outer : Environment τ} {inner : Environment σ}

/-- The outer environment does what the inner one does to the view of its state. -/
structure Views (view : τ → σ) (outer : Environment τ) (inner : Environment σ) : Prop where
  now : ∀ state, outer.host.now state = inner.host.now (view state)
  cancelled : ∀ state, outer.host.cancelled state = inner.host.cancelled (view state)
  sleep : ∀ duration state,
    view (outer.host.sleep duration state) = inner.host.sleep duration (view state)
  report : ∀ event state,
    view (outer.host.report event state) = inner.host.report event (view state)
  create : ∀ parent kind state, inner.client.create parent kind (view state) =
    ((outer.client.create parent kind state).1, view (outer.client.create parent kind state).2)
  bind : ∀ stream schema state, inner.client.bind stream schema (view state) =
    ((outer.client.bind stream schema state).1, view (outer.client.bind stream schema state).2)
  append : ∀ appender batch offset state,
    inner.client.append appender batch offset (view state) =
      ((outer.client.append appender batch offset state).1,
        view (outer.client.append appender batch offset state).2)
  close : ∀ appender state, inner.client.close appender (view state) =
    ((outer.client.close appender state).1, view (outer.client.close appender state).2)
  finalize : ∀ stream state, inner.client.finalize stream (view state) =
    ((outer.client.finalize stream state).1, view (outer.client.finalize stream state).2)

/-- Noting requests is nothing that a session could see. -/
theorem views_recorded (environment : Environment σ) :
    Views Prod.snd environment.recorded environment where
  now _ := rfl
  cancelled _ := rfl
  sleep _ _ := rfl
  report _ _ := rfl
  create _ _ _ := rfl
  bind _ _ _ := rfl
  append _ _ _ _ := rfl
  close _ _ := rfl
  finalize _ _ := rfl

namespace Views

/-- The induction is on the calls left; both runs take the same branch at each of them. -/
theorem runFrom {α : Type} (views : Views view outer inner)
    {seen : σ → Except Status α × σ} {attempt : τ → Except Status α × τ}
    (same : ∀ state, seen (view state) = ((attempt state).1, view (attempt state).2))
    (policy : RetryPolicy) (judge : Status → Verdict) (operation : String) (start : UInt64)
    (fuel attempts : Nat) (random : Random) (state : τ) :
    let ended := Retry.runFrom outer.host policy judge operation attempt start fuel attempts
      random state
    Retry.runFrom inner.host policy judge operation seen start fuel attempts random
        (view state) = ⟨ended.outcome, ended.random, view ended.state⟩ := by
  induction fuel generalizing attempts random state with
  | zero => rfl
  | succ fuel inductionHypothesis =>
      simp only [Retry.runFrom, same state, views.cancelled state]
      by_cases cancelled : inner.host.cancelled (view state) = true
      · simp only [if_pos cancelled]
      · simp only [if_neg cancelled]
        cases called : attempt state with
        | mk answer after =>
          cases answer with
          | ok value => rfl
          | error status =>
              simp only [views.now after]
              split
              · rw [views.report]
              · split
                · rw [← views.report, ← views.sleep, ← views.cancelled]
                  split
                  · rfl
                  · exact inductionHypothesis _ _ _
                · rw [views.report]

/-- Retried calls answer the same over a state as over the part of it that they look at. -/
theorem run {α : Type} (views : Views view outer inner)
    {seen : σ → Except Status α × σ} {attempt : τ → Except Status α × τ}
    (same : ∀ state, seen (view state) = ((attempt state).1, view (attempt state).2))
    (policy : RetryPolicy) (retryable : List StatusCode) (operation : String)
    (random : Random) (state : τ) :
    let ended := Retry.run outer.host policy retryable operation attempt random state
    Retry.run inner.host policy retryable operation seen random (view state) =
      ⟨ended.outcome, ended.random, view ended.state⟩ := by
  simp only [Retry.run, Retry.runWith, ← views.now]
  exact views.runFrom same policy (Verdict.ofStatus retryable) operation _ _ 0 random state

theorem start (views : Views view outer inner) (table : String) (schema : Schema)
    (config : Config) (random : Random) (state : τ) :
    let opened := Session.start outer table schema config random state
    Session.start inner table schema config random (view state) = (opened.1, view opened.2) := by
  simp only [Session.start]
  split
  · rfl
  · rw [views.run (views.create table .pending)]
    simp only
    split
    · rw [views.report]
    · next retried answered =>
        rw [views.bind]
        cases bound : outer.client.bind retried.value.name schema
            (Retry.run outer.host config.retry config.retryableCodes "create_write_stream"
              (outer.client.create table .pending) random state).state with
        | mk answer after =>
          cases answer with
          | error error => rfl
          | ok appender => simp only [views.report]

theorem closeAppender (views : Views view outer inner) (session : Session) (state : τ) :
    let closed := session.closeAppender outer state
    session.closeAppender inner (view state) = (closed.1, view closed.2) := by
  simp only [Session.closeAppender]
  split
  · rfl
  · next appender connected =>
      rw [views.close]
      cases called : outer.client.close appender state with
      | mk answer after =>
        cases answer with
        | ok done => rfl
        | error status => simp only [views.report]

theorem flush (views : Views view outer inner) (session : Session) (state : τ) :
    let flushed := session.flush outer state
    session.flush inner (view state) = (flushed.1, flushed.2.1, view flushed.2.2) := by
  cases connected : session.appender with
  | none =>
      simp only [Session.flush, Session.failAppend, views.cancelled, connected]
      split
      · rw [views.report]
      · rfl
  | some appender =>
      cases answered : outer.client.append appender session.pending session.nextOffset
          (session.announce outer state) with
      | mk reply after =>
        have seen : inner.client.append appender session.pending session.nextOffset
            (session.announce inner (view state)) = (reply, view after) := by
          rw [Session.announce, ← views.report, views.append]
          exact congrArg (fun called => (called.1, view called.2)) answered
        unfold Session.announce at answered seen
        simp only [Session.flush, Session.failAppend, views.cancelled, connected, answered, seen]
        split
        · rw [views.report]
        · split
          · rw [views.report]
          · rfl

theorem conclude (views : Views view outer inner) (session : Session) (state : τ) :
    let concluded := session.conclude outer state
    session.conclude inner (view state) =
      (concluded.1, concluded.2.1, view concluded.2.2) := by
  simp only [Session.conclude, views.cancelled, ← views.sleep]
  split
  · rw [views.report]
  · rw [views.run (views.finalize session.streamText)]
    simp only
    split
    · rw [views.report]
    · split
      · rw [views.report]
      · rw [views.closeAppender]
        simp only [views.report]

theorem add (views : Views view outer inner) (row : Row) (session : Session) (state : τ) :
    let added := session.add outer row state
    session.add inner row (view state) = (added.1, added.2.1, view added.2.2) := by
  simp only [Session.add]
  split
  · rfl
  · split
    · rfl
    · split
      · rfl
      · rw [views.flush]
        cases flushed : session.flush outer state with
        | mk result rest =>
          cases result with
          | ok done => rfl
          | error error => rfl

theorem commit (views : Views view outer inner) (session : Session) (state : τ) :
    let committed := session.commit outer state
    session.commit inner (view state) =
      (committed.1, committed.2.1, view committed.2.2) := by
  simp only [Session.commit]
  split
  · rfl
  · split
    · exact views.conclude session state
    · rw [views.flush]
      cases flushed : session.flush outer state with
      | mk result rest =>
        cases result with
        | ok done => exact views.conclude rest.1 rest.2
        | error error => rfl

theorem abort (views : Views view outer inner) (session : Session) (state : τ) :
    let aborted := session.abort outer state
    session.abort inner (view state) = (aborted.1, view aborted.2) := by
  simp only [Session.abort]
  rw [views.closeAppender]
  simp only
  split
  · rfl
  · rw [views.report]

end Views

namespace Course

variable (environment : Environment σ) (course : Course σ)

theorem start_session_eq {table : String} {schema : Schema} {config : Config} {random : Random}
    {state : σ} {opened : Course σ}
    (started : start environment table schema config random state = .ok opened) :
    Session.start environment table schema config random state =
      (.ok opened.session, opened.state) := by
  have seen := (views_recorded environment).start table schema config random ([], state)
  rw [(start_eq started).1] at seen
  exact seen

theorem add_session_eq (row : Row) :
    course.session.add environment row course.state =
      ((course.add environment row).1, (course.add environment row).2.session,
        (course.add environment row).2.state) :=
  (views_recorded environment).add row course.session (course.requests, course.state)

theorem commit_session_eq :
    course.session.commit environment course.state =
      ((course.commit environment).1, (course.commit environment).2.session,
        (course.commit environment).2.state) :=
  (views_recorded environment).commit course.session (course.requests, course.state)

theorem abort_session_eq :
    course.session.abort environment course.state =
      ((course.abort environment).session, (course.abort environment).state) :=
  (views_recorded environment).abort course.session (course.requests, course.state)

end Course

end RowStream
