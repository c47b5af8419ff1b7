import Mathlib.Algebra.GroupWithZero.Nat
import RowStream.Proofs.Session.Batching
import RowStream.Proofs.Session.Invariance
import RowStream.Proofs.Session.View

/-!
Contract: what a session counts of its appends, against the replies that it received.

Owns:
- `Exchange`, an append request with the reply to it, and `Environment.exchanging`, which
  behaves like another environment and keeps the exchanges;
- `Course.dispatches`, the exchanges of a course, each with the move that made it;
- `AppendCounts.count`, what one exchange changes of the counts, and
  `Course.appendCounts_run`, that nothing else changes them;
- `Course.Concluded`, how the dispatches of a course can end.

Main statement: `Course.statistics_true`.
-/

namespace RowStream

variable {σ : Type} {environment : Environment σ}

theorem Batch.rowCount_cons (batch : Batch) (batches : List Batch) :
    rowCount (batch :: batches) = batch.length + rowCount batches := by
  simp [rowCount, length_toList]

/-! ### Exchanges -/

structure Exchange where
  batch : Batch
  offset : UInt64
  reply : AppendReply

/-- The rows were accepted where the request claims that they start. -/
def Exchange.acknowledged (exchange : Exchange) : Bool :=
  exchange.reply = .appended exchange.offset

def Client.exchanging (client : Client σ) : Client (List Exchange × σ) :=
  { client.onSecond with
    append := fun appender batch offset (exchanges, state) =>
      let (reply, state) := client.append appender batch offset state
      (reply, exchanges ++ [⟨batch, offset, reply⟩], state) }

def Environment.exchanging (environment : Environment σ) : Environment (List Exchange × σ) where
  client := environment.client.exchanging
  host :=
    { now := fun (_, state) => environment.host.now state
      sleep := fun duration (exchanges, state) =>
        (exchanges, environment.host.sleep duration state)
      cancelled := fun (_, state) => environment.host.cancelled state
      report := fun event (exchanges, state) =>
        (exchanges, environment.host.report event state) }

/-- To keep the exchanges changes nothing else. -/
theorem views_exchanging (environment : Environment σ) :
    Views (fun whole : List Request × List Exchange × σ => (whole.1, whole.2.2))
      environment.exchanging.recorded environment.recorded where
  now _ := rfl
  cancelled _ := rfl
  sleep _ _ := rfl
  report _ _ := rfl
  create _ _ _ := rfl
  bind _ _ _ := rfl
  append _ _ _ _ := rfl
  close _ _ := rfl
  finalize _ _ := rfl

theorem Environment.exchange_noted {appender : Appender} {batch : Batch} {offset : UInt64}
    {reply : AppendReply} {before after : List Request × List Exchange × σ}
    (called : environment.exchanging.recorded.client.append appender batch offset before =
      (reply, after)) : after.2.1 = before.2.1 ++ [⟨batch, offset, reply⟩] := by
  have answered := congrArg Prod.fst called
  have left := congrArg (fun ended => ended.2.2.1) called
  simp only at answered left
  rw [← left, ← answered]
  rfl

def Exchange.InStep (before after : List Request × List Exchange × σ) : Prop :=
  ∃ added, after.2.1 = before.2.1 ++ added ∧
    Request.batches after.1 = Request.batches before.1 ++ added.map Exchange.batch

namespace Exchange.InStep

variable {first second third : List Request × List Exchange × σ}

theorem refl (whole : List Request × List Exchange × σ) : InStep whole whole :=
  ⟨[], by simp, by simp⟩

theorem trans (early : InStep first second) (late : InStep second third) :
    InStep first third := by
  obtain ⟨exchanges, noted, batches⟩ := early
  obtain ⟨others, notedToo, batchesToo⟩ := late
  refine ⟨exchanges ++ others, ?_, ?_⟩
  · rw [notedToo, noted, List.append_assoc]
  · rw [batchesToo, batches, List.map_append, List.append_assoc]

/-- What is no append request is no exchange. -/
theorem of_other {request : Request} (other : request.batch? = none)
    (noted : second.2.1 = first.2.1) (asked : second.1 = first.1 ++ [request]) :
    InStep first second := by
  refine ⟨[], by rw [noted, List.append_nil], ?_⟩
  have added : Request.Added (fun request => request.batch? = none) first.1 second.1 :=
    asked ▸ .one other first.1
  rw [added.batches_eq, List.map_nil, List.append_nil]

/-- Where nothing was appended, nothing was exchanged. -/
theorem exchanges_eq (kept : InStep first second)
    (silent : Request.batches second.1 = Request.batches first.1) : second.2.1 = first.2.1 := by
  obtain ⟨added, noted, batches⟩ := kept
  rw [silent] at batches
  have nothing : added.map Exchange.batch = [] := List.self_eq_append_right.mp batches
  rw [noted, List.map_eq_nil_iff.mp nothing, List.append_nil]

/-- From the first exchange on, what was sent is what was exchanged. -/
theorem batches_eq {requests : List Request} {state : σ}
    (kept : InStep (requests, [], state) second) :
    Request.batches second.1 = Request.batches requests ++ second.2.1.map Exchange.batch := by
  obtain ⟨added, noted, batches⟩ := kept
  rw [batches, noted, List.nil_append]

end Exchange.InStep

/-- Appends are noted once as requests and once as exchanges, in the same order. -/
theorem exchanging_keeps (environment : Environment σ) :
    Keeps environment.exchanging.recorded Exchange.InStep where
  refl := .refl
  trans := .trans
  report _ whole := .refl whole
  sleep _ _ := .of_other rfl rfl rfl
  create _ _ _ := .of_other rfl rfl rfl
  bind _ _ _ := .of_other rfl rfl rfl
  append _ _ _ whole := ⟨[_], rfl, Request.batches_append whole.1 _ _ _⟩
  close _ _ := .of_other rfl rfl rfl
  finalize _ _ := .of_other rfl rfl rfl

/-! ### Counts -/

@[ext] structure AppendCounts where
  requests : Nat
  rows : Nat
  bytes : Nat
  forced : Nat
  committed : Nat

/-- One more exchange. What a row made necessary counts as forced. -/
def AppendCounts.count (forced : Bool) (counts : AppendCounts) (exchange : Exchange) :
    AppendCounts :=
  if exchange.acknowledged then
    { requests := counts.requests + 1
      rows := counts.rows + exchange.batch.length
      bytes := counts.bytes + exchange.batch.byteSize
      forced := counts.forced + forced.toNat
      committed := counts.committed + exchange.batch.length }
  else { counts with requests := counts.requests + 1 }

def Session.appendCounts (session : Session) : AppendCounts where
  requests := session.stats.appendRequests
  rows := session.stats.rowsAppended
  bytes := session.stats.bytesAppended
  forced := session.stats.flushesForced
  committed := session.committedCount

/-! ### Operations of a session -/

namespace Session

variable {session : Session} {requests : List Request} {exchanges : List Exchange} {state : σ}

def exchange (session : Session) (reply : AppendReply) : Exchange :=
  ⟨session.pending, session.nextOffset, reply⟩

inductive Flushed (session : Session) :
    Except SessionError Unit × Session → List Exchange → Prop where
  | unsent {error : SessionError} {after : Session}
      (same : after.appendCounts = session.appendCounts) : Flushed session (.error error, after) []
  | refused {cause : AppendFailure} {reply : AppendReply}
      (unacknowledged : (session.exchange reply).acknowledged = false) :
      Flushed session (.error (session.appendError cause), session.countRequest.fail)
        [session.exchange reply]
  | acknowledged :
      Flushed session (.ok (), session.countRequest.acknowledge)
        [session.exchange (.appended session.nextOffset)]

theorem acknowledged_exchange (session : Session) :
    (session.exchange (.appended session.nextOffset)).acknowledged = true :=
  decide_eq_true rfl

/-- A flush makes one exchange at most, and counts it by its reply. -/
theorem FlushStep.flushed
    {ended : Except SessionError Unit × Session × List Request × List Exchange × σ}
    (step : FlushStep environment.exchanging.recorded session (requests, exchanges, state) ended) :
    ∃ added, Flushed session (ended.1, ended.2.1) added ∧ ended.2.2.2.1 = exchanges ++ added := by
  cases step with
  | interrupted cancelled => exact ⟨[], .unsent rfl, (List.append_nil _).symm⟩
  | unconnected closed => exact ⟨[], .unsent rfl, (List.append_nil _).symm⟩
  | @rejected appender reply cause after going connected sent judged =>
      have unacknowledged : (session.exchange reply).acknowledged = false := by
        apply decide_eq_false
        intro accepted
        have agreed := judgeReply_eq_ok_iff.mpr accepted
        exact absurd (agreed.symm.trans judged) (by simp)
      exact ⟨_, .refused unacknowledged, Environment.exchange_noted sent⟩
  | acknowledged going connected sent =>
      exact ⟨_, .acknowledged, Environment.exchange_noted sent⟩

def AppendFailed {α : Type} (answer : Except SessionError α) : Prop :=
  ∃ stream offset cause, answer = .error (.appendFailed stream offset cause)

/-- An operation makes one exchange at most, and counts it. One that is not acknowledged fails
the operation and the session; one that is acknowledged leaves the session open only if a row
made it necessary. -/
inductive Dispatched (forced : Bool) (failed : Prop) (session after : Session) :
    List Exchange → Prop where
  | silent (same : after.appendCounts = session.appendCounts) :
      Dispatched forced failed session after []
  | refused {exchange : Exchange} (unacknowledged : exchange.acknowledged = false)
      (counted : after.appendCounts = session.appendCounts.count forced exchange)
      (told : failed) (past : after.phase ≠ .open) :
      Dispatched forced failed session after [exchange]
  | acknowledged {exchange : Exchange} (accepted : exchange.acknowledged = true)
      (counted : after.appendCounts = session.appendCounts.count forced exchange)
      (closing : forced = true ∨ after.phase ≠ .open) :
      Dispatched forced failed session after [exchange]

theorem appendCounts_of_refused (forced : Bool) {exchange : Exchange}
    (unacknowledged : exchange.acknowledged = false) :
    session.countRequest.fail.appendCounts = session.appendCounts.count forced exchange := by
  rw [AppendCounts.count, unacknowledged]
  rfl

/-- The buffer's own totals are what is added for it. -/
theorem appendCounts_of_acknowledged (consistent : session.Consistent) :
    session.countRequest.acknowledge.appendCounts =
      session.appendCounts.count false (session.exchange (.appended session.nextOffset)) := by
  rw [AppendCounts.count, acknowledged_exchange, if_pos rfl]
  simp only [appendCounts, acknowledge, countRequest, exchange, consistent.count_eq,
    consistent.bytes_eq, Bool.toNat_false, Nat.add_zero]

/-- A row that finds no room makes the buffer be sent, and opens the next one. -/
theorem appendCounts_of_forced (consistent : session.Consistent) (row : Row) :
    (session.countRequest.acknowledge.countForcedFlush.buffer row).appendCounts =
      session.appendCounts.count true (session.exchange (.appended session.nextOffset)) := by
  rw [AppendCounts.count, acknowledged_exchange, if_pos rfl]
  simp only [appendCounts, buffer, countForcedFlush, acknowledge, countRequest, exchange,
    consistent.count_eq, consistent.bytes_eq, Bool.toNat_true]

theorem FlushStep.dispatched_of_error {α : Type} {error : SessionError} {failed : Session}
    {after : List Request × List Exchange × σ} (forced : Bool)
    (step : FlushStep environment.exchanging.recorded session (requests, [], state)
      (.error error, failed, after)) :
    Dispatched forced (AppendFailed (.error error : Except SessionError α)) session failed
      after.2.1 := by
  obtain ⟨added, flushed, noted⟩ := step.flushed
  rw [List.nil_append] at noted
  simp only at noted flushed
  rw [noted]
  cases flushed with
  | unsent same => exact .silent same
  | refused unacknowledged =>
      exact .refused unacknowledged (appendCounts_of_refused forced unacknowledged)
        ⟨_, _, _, rfl⟩ (by simp [fail])

theorem AddStep.dispatched {row : Row}
    {ended : Except SessionError Unit × Session × List Request × List Exchange × σ}
    (step : AddStep environment.exchanging.recorded row session (requests, [], state) ended)
    (consistent : session.Consistent) :
    Dispatched true (AppendFailed ended.1) session ended.2.1 ended.2.2.2.1 := by
  cases step with
  | closed past => exact .silent rfl
  | buffered isOpen fits => exact .silent rfl
  | tooLarge isOpen large => exact .silent rfl
  | stuck isOpen overflows fits flushed => exact flushed.dispatched_of_error true
  | @flushed emptied after isOpen overflows fits flushed =>
      obtain ⟨added, sent, noted⟩ := flushed.flushed
      rw [List.nil_append] at noted
      simp only at noted sent
      rw [noted]
      cases sent with
      | acknowledged =>
          exact .acknowledged (acknowledged_exchange session)
            (appendCounts_of_forced consistent row) (Or.inl rfl)

/-- Nothing is appended once the buffer is sent. -/
theorem ConcludeStep.exchanges_eq
    {ended : Except SessionError Nat × Session × List Request × List Exchange × σ}
    (step : ConcludeStep environment.exchanging.recorded session (requests, exchanges, state)
      ended) : ended.2.2.2.1 = exchanges := by
  have added : Request.Added (fun request => request.batch? = none) requests ended.2.2.1 :=
    step.requests_added rfl (fun _ => rfl) fun _ => rfl
  exact (step.kept (exchanging_keeps environment)).exchanges_eq added.batches_eq

theorem ConcludeStep.appendCounts_eq {ended : Except SessionError Nat × Session × σ}
    (step : ConcludeStep environment session state ended) :
    ended.2.1.appendCounts = session.appendCounts := by
  cases step with
  | interrupted cancelled => rfl
  | refused going gaveUp => rfl
  | miscounted going answered differs => rfl
  | finalized going answered agrees => rfl

theorem CommitStep.dispatched
    {ended : Except SessionError Nat × Session × List Request × List Exchange × σ}
    (step : CommitStep environment.exchanging.recorded session (requests, [], state) ended)
    (consistent : session.Consistent) :
    Dispatched false (AppendFailed ended.1) session ended.2.1 ended.2.2.2.1 := by
  cases step with
  | closed past => exact .silent rfl
  | unbuffered isOpen empty concluded =>
      rw [concluded.exchanges_eq]
      exact .silent concluded.appendCounts_eq
  | stuck isOpen waiting flushed => exact flushed.dispatched_of_error false
  | @flushed emptied between _ isOpen waiting flushed concluded =>
      obtain ⟨added, sent, noted⟩ := flushed.flushed
      rw [List.nil_append] at noted
      simp only at noted sent
      rw [concluded.exchanges_eq, noted]
      cases sent with
      | acknowledged =>
          exact .acknowledged (acknowledged_exchange session)
            (concluded.appendCounts_eq.trans (appendCounts_of_acknowledged consistent))
            (Or.inr concluded.past)

/-- Every exchange is counted. -/
theorem Dispatched.eq_nil {forced : Bool} {failed : Prop} {after : Session}
    (dispatched : Dispatched forced failed session after exchanges)
    (same : after.appendCounts = session.appendCounts) : exchanges = [] := by
  cases dispatched with
  | silent same => rfl
  | refused unacknowledged counted told past =>
      rw [counted, AppendCounts.count, unacknowledged] at same
      have requests := congrArg AppendCounts.requests same
      simp at requests
  | acknowledged accepted counted closing =>
      rw [counted, AppendCounts.count, accepted] at same
      have requests := congrArg AppendCounts.requests same
      simp at requests

theorem Dispatched.appendCounts_eq {forced : Bool} {failed : Prop} {after : Session}
    (dispatched : Dispatched forced failed session after exchanges) :
    after.appendCounts = exchanges.foldl (AppendCounts.count forced) session.appendCounts := by
  cases dispatched with
  | silent same => exact same
  | refused unacknowledged counted told past => exact counted
  | acknowledged accepted counted closing => exact counted

end Session

/-! ### Courses that keep their exchanges -/

def Move.offers (move : Move σ) : Bool := move.row?.isSome

namespace Course

variable {course : Course σ}

def noting (course : Course σ) : Course (List Exchange × σ) where
  session := course.session
  state := ([], course.state)
  accepted := course.accepted
  commits := course.commits
  requests := course.requests

def exchanges (environment : Environment σ) (course : Course σ) : Move σ → List Exchange
  | .add row => (course.noting.add environment.exchanging row).2.state.1
  | .commit => (course.noting.commit environment.exchanging).2.state.1
  | .abort => (course.noting.abort environment.exchanging).state.1
  | .meanwhile _ => []

/-- The append requests of a whole course with the replies to them, each with the move that
made it. -/
def dispatches (environment : Environment σ) : List (Move σ) → Course σ → List (Move σ × Exchange)
  | [], _ => []
  | move :: rest, course =>
      (course.exchanges environment move).map (Prod.mk move) ++
        dispatches environment rest (course.perform environment move)

def AppendFails (environment : Environment σ) (course : Course σ) : Move σ → Prop
  | .add row => Session.AppendFailed (course.add environment row).1
  | .commit => Session.AppendFailed (course.commit environment).1
  | _ => False

theorem exchanges_abort (course : Course σ) : course.exchanges environment .abort = [] := by
  have step := Session.abort_step environment.exchanging.recorded course.session
    (course.requests, [], course.state)
  have added : Request.Added (fun request => request.batch? = none) course.requests
      (course.noting.abort environment.exchanging).requests := step.requests_added fun _ => rfl
  exact (step.kept (exchanging_keeps environment)).exchanges_eq added.batches_eq

/-- Whether the exchanges are kept or not, an operation answers the same, leaves the same session
and makes the same requests. -/
theorem add_noting (environment : Environment σ) (course : Course σ) (row : Row) :
    let noted := course.noting.add environment.exchanging row
    (course.add environment row).1 = noted.1 ∧
      (course.add environment row).2.session = noted.2.session ∧
      (course.add environment row).2.requests = noted.2.requests := by
  have same := (views_exchanging environment).add row course.session
    (course.requests, [], course.state)
  exact ⟨congrArg Prod.fst same, congrArg (fun ended => ended.2.1) same,
    congrArg (fun ended => ended.2.2.1) same⟩

theorem commit_noting (environment : Environment σ) (course : Course σ) :
    let noted := course.noting.commit environment.exchanging
    (course.commit environment).1 = noted.1 ∧
      (course.commit environment).2.session = noted.2.session ∧
      (course.commit environment).2.requests = noted.2.requests := by
  have same := (views_exchanging environment).commit course.session
    (course.requests, [], course.state)
  exact ⟨congrArg Prod.fst same, congrArg (fun ended => ended.2.1) same,
    congrArg (fun ended => ended.2.2.1) same⟩

theorem abort_noting (environment : Environment σ) (course : Course σ) :
    (course.abort environment).requests =
      (course.noting.abort environment.exchanging).requests :=
  congrArg (fun ended => ended.2.1) ((views_exchanging environment).abort course.session
    (course.requests, [], course.state))

/-- The exchanges of a move are those that the session counts, and they carry what the move
sends. -/
theorem dispatched_perform (environment : Environment σ)
    (consistent : course.session.Consistent) (move : Move σ) :
    Session.Dispatched move.offers (course.AppendFails environment move) course.session
        (course.perform environment move).session (course.exchanges environment move) ∧
      (course.perform environment move).sent =
        course.sent ++ (course.exchanges environment move).map Exchange.batch := by
  have keeps := exchanging_keeps environment
  cases move with
  | add row =>
      have step := Session.add_step environment.exchanging.recorded row course.session
        (course.requests, [], course.state)
      obtain ⟨answered, left, asked⟩ := add_noting environment course row
      simp only [AppendFails, perform, sent]
      rw [answered, left, asked]
      exact ⟨step.dispatched consistent, (step.kept keeps).batches_eq⟩
  | commit =>
      have step := Session.commit_step environment.exchanging.recorded course.session
        (course.requests, [], course.state)
      obtain ⟨answered, left, asked⟩ := commit_noting environment course
      simp only [AppendFails, perform, sent]
      rw [answered, left, asked]
      exact ⟨step.dispatched consistent, (step.kept keeps).batches_eq⟩
  | abort =>
      have step := Session.abort_step environment.exchanging.recorded course.session
        (course.requests, [], course.state)
      constructor
      · rw [exchanges_abort, perform, abort_session]
        exact .silent rfl
      · rw [sent, perform, abort_noting]
        exact (step.kept keeps).batches_eq
  | meanwhile change => exact ⟨.silent rfl, (List.append_nil _).symm⟩

/-- A closed session dispatches nothing any more. -/
theorem exchanges_of_past (consistent : course.session.Consistent)
    (past : course.session.phase ≠ .open) (move : Move σ) :
    course.exchanges environment move = [] := by
  have dispatched := (dispatched_perform environment consistent move).1
  cases move with
  | add row =>
      rw [perform, add_of_closed environment row past] at dispatched
      exact dispatched.eq_nil rfl
  | commit =>
      rw [perform, commit_of_closed environment past] at dispatched
      exact dispatched.eq_nil rfl
  | abort => exact exchanges_abort course
  | meanwhile change => rfl

theorem dispatches_of_past (consistent : course.session.Consistent)
    (past : course.session.phase ≠ .open) (moves : List (Move σ)) :
    course.dispatches environment moves = [] := by
  induction moves generalizing course with
  | nil => rfl
  | cons move rest inductionHypothesis =>
      rw [dispatches, exchanges_of_past consistent past]
      exact inductionHypothesis (consistent_perform consistent move) (past_perform past move)

/-- The counters of a session are what its exchanges come to, over all moves. -/
theorem appendCounts_run (environment : Environment σ)
    (consistent : course.session.Consistent) (moves : List (Move σ)) :
    (course.run environment moves).session.appendCounts =
      (course.dispatches environment moves).foldl
        (fun counts dispatch => counts.count dispatch.1.offers dispatch.2)
        course.session.appendCounts := by
  induction moves generalizing course with
  | nil => rfl
  | cons move rest inductionHypothesis =>
      have counted := (dispatched_perform environment consistent
        move).1.appendCounts_eq
      rw [dispatches, List.foldl_append, List.foldl_map, ← counted]
      exact inductionHypothesis (consistent_perform consistent move)

/-- The batches that were sent are those of the exchanges. -/
theorem sent_run (environment : Environment σ) (consistent : course.session.Consistent)
    (moves : List (Move σ)) :
    (course.run environment moves).sent =
      course.sent ++ (course.dispatches environment moves).map (·.2.batch) := by
  induction moves generalizing course with
  | nil => exact (List.append_nil _).symm
  | cons move rest inductionHypothesis =>
      have sent := (dispatched_perform environment consistent move).2
      have kept : (course.perform environment move).session.Consistent :=
        consistent_perform consistent move
      have later := inductionHypothesis kept
      rw [sent, List.append_assoc] at later
      rw [dispatches, List.map_append, List.map_map]
      exact later

def FailsWithin (environment : Environment σ) (course : Course σ) (moves : List (Move σ)) :
    Prop :=
  ∃ earlier move later, moves = earlier ++ move :: later ∧
    (course.run environment earlier).AppendFails environment move

theorem FailsWithin.cons {move : Move σ} {rest : List (Move σ)}
    (fails : FailsWithin environment (course.perform environment move) rest) :
    FailsWithin environment course (move :: rest) := by
  obtain ⟨earlier, failing, later, split, told⟩ := fails
  exact ⟨move :: earlier, failing, later, congrArg (List.cons move) split, told⟩

/-- How the dispatches of a course can end: rows make any number of them necessary, which are
all acknowledged. One that a commit makes, or that fails, is the last. -/
inductive Concluded (failed : Prop) : List (Move σ × Exchange) → Prop where
  | none : Concluded failed []
  | forced {dispatch : Move σ × Exchange} {rest : List (Move σ × Exchange)}
      (offers : dispatch.1.offers = true) (accepted : dispatch.2.acknowledged = true)
      (concluded : Concluded failed rest) : Concluded failed (dispatch :: rest)
  | committed {exchange : Exchange} (accepted : exchange.acknowledged = true) :
      Concluded failed [(.commit, exchange)]
  | refused {dispatch : Move σ × Exchange} (unacknowledged : dispatch.2.acknowledged = false)
      (told : failed) : Concluded failed [dispatch]

theorem Concluded.imp {failed other : Prop} {dispatches : List (Move σ × Exchange)}
    (weaker : failed → other) (concluded : Concluded failed dispatches) :
    Concluded other dispatches := by
  induction concluded with
  | none => exact .none
  | forced offers accepted _ inductionHypothesis =>
      exact .forced offers accepted inductionHypothesis
  | committed accepted => exact .committed accepted
  | refused unacknowledged told => exact .refused unacknowledged (weaker told)

/-- Only the last exchange of a session can be one that was not acknowledged. -/
theorem concluded_run (environment : Environment σ) (consistent : course.session.Consistent)
    (moves : List (Move σ)) :
    Concluded (FailsWithin environment course moves) (course.dispatches environment moves) := by
  induction moves generalizing course with
  | nil => exact .none
  | cons move rest inductionHypothesis =>
      have dispatched := (dispatched_perform environment consistent move).1
      have kept : (course.perform environment move).session.Consistent :=
        consistent_perform consistent move
      have concluded := (inductionHypothesis kept).imp FailsWithin.cons
      generalize exchanged : course.exchanges environment move = exchanges at dispatched
      rw [dispatches, exchanged]
      cases dispatched with
      | silent same => exact concluded
      | refused unacknowledged counted told past =>
          rw [dispatches_of_past kept past]
          exact .refused unacknowledged ⟨[], move, rest, rfl, told⟩
      | acknowledged accepted counted closing =>
          cases move with
          | add row => exact .forced rfl accepted concluded
          | commit =>
              have past := closing.resolve_left Bool.false_ne_true
              rw [dispatches_of_past kept past]
              exact .committed accepted
          | abort => exact absurd exchanged (by simp [exchanges_abort])
          | meanwhile change => exact absurd exchanged (by simp [exchanges])

/-! ### Totals -/

def acknowledged (dispatches : List (Move σ × Exchange)) : List (Move σ × Exchange) :=
  dispatches.filter (·.2.acknowledged)

theorem acknowledged_cons {dispatch : Move σ × Exchange}
    (accepted : dispatch.2.acknowledged = true) (rest : List (Move σ × Exchange)) :
    acknowledged (dispatch :: rest) = dispatch :: acknowledged rest :=
  List.filter_cons_of_pos accepted

theorem acknowledged_cons_of_refused {dispatch : Move σ × Exchange}
    (unacknowledged : ¬ dispatch.2.acknowledged = true) (rest : List (Move σ × Exchange)) :
    acknowledged (dispatch :: rest) = acknowledged rest :=
  List.filter_cons_of_neg unacknowledged

def written (dispatches : List (Move σ × Exchange)) : List Batch :=
  (acknowledged dispatches).map (·.2.batch)

/-- Counted one by one, dispatches come to their totals. -/
theorem foldl_count (dispatches : List (Move σ × Exchange)) (counts : AppendCounts) :
    dispatches.foldl (fun counts dispatch => counts.count dispatch.1.offers dispatch.2) counts =
      { requests := counts.requests + dispatches.length
        rows := counts.rows + Batch.rowCount (written dispatches)
        bytes := counts.bytes + ((written dispatches).map Batch.byteSize).sum
        forced := counts.forced + (acknowledged dispatches).countP (·.1.offers)
        committed := counts.committed + Batch.rowCount (written dispatches) } := by
  induction dispatches generalizing counts with
  | nil => rfl
  | cons dispatch rest inductionHypothesis =>
      rw [List.foldl_cons, inductionHypothesis]
      by_cases accepted : dispatch.2.acknowledged = true
      · have kept := acknowledged_cons accepted rest
        have forced : (acknowledged (dispatch :: rest)).countP (·.1.offers) =
            dispatch.1.offers.toNat + (acknowledged rest).countP (·.1.offers) := by
          rw [kept, List.countP_cons, Nat.add_comm]
          cases dispatch.1.offers <;> rfl
        have carried : written (dispatch :: rest) = dispatch.2.batch :: written rest := by
          rw [written, kept]
          rfl
        rw [AppendCounts.count, if_pos accepted, forced, carried]
        simp only [Batch.rowCount_cons, List.map_cons, List.sum_cons, List.length_cons,
          AppendCounts.mk.injEq]
        omega
      · have kept := acknowledged_cons_of_refused accepted rest
        have carried : written (dispatch :: rest) = written rest := by
          rw [written, kept]
          rfl
        have requests : counts.requests + 1 + rest.length =
            counts.requests + (dispatch :: rest).length := Nat.add_right_comm _ _ _
        rw [AppendCounts.count, if_neg accepted, kept, carried, requests]

/-- There is one request more than acknowledgements at most, and then an append has failed. -/
theorem Concluded.requests_eq {failed : Prop} {dispatches : List (Move σ × Exchange)}
    (concluded : Concluded failed dispatches) :
    dispatches.length = (acknowledged dispatches).length ∨
      dispatches.length = (acknowledged dispatches).length + 1 ∧ failed := by
  induction concluded with
  | none => exact Or.inl rfl
  | @forced dispatch rest offers accepted _ inductionHypothesis =>
      rw [acknowledged_cons accepted rest]
      simpa using inductionHypothesis
  | @committed exchange accepted =>
      have kept : acknowledged [(.commit, exchange)] = [((.commit : Move σ), exchange)] :=
        acknowledged_cons accepted []
      rw [kept]
      exact Or.inl rfl
  | @refused dispatch unacknowledged told =>
      rw [acknowledged_cons_of_refused (by simp [unacknowledged]) []]
      exact Or.inr ⟨rfl, told⟩

/-- What no row made necessary, a commit sent. -/
theorem Concluded.forced_eq {failed : Prop} {dispatches : List (Move σ × Exchange)}
    (concluded : Concluded failed dispatches) :
    let accepted := acknowledged dispatches
    let forced := accepted.countP (·.1.offers)
    accepted.length = forced ∨
      accepted.length = forced + 1 ∧ ∃ exchange, (.commit, exchange) ∈ accepted := by
  simp only
  induction concluded with
  | none => exact Or.inl rfl
  | @forced dispatch rest offers accepted _ inductionHypothesis =>
      have counted : (dispatch :: acknowledged rest).countP (·.1.offers) =
          (acknowledged rest).countP (·.1.offers) + 1 := List.countP_cons_of_pos offers
      rw [acknowledged_cons accepted rest, counted, List.length_cons]
      rcases inductionHypothesis with all | ⟨allButOne, exchange, sent⟩
      · exact Or.inl (congrArg (· + 1) all)
      · exact Or.inr ⟨congrArg (· + 1) allButOne, exchange, List.mem_cons_of_mem _ sent⟩
  | @committed exchange accepted =>
      have kept : acknowledged [(.commit, exchange)] = [((.commit : Move σ), exchange)] :=
        acknowledged_cons accepted []
      rw [kept]
      exact Or.inr ⟨rfl, exchange, List.mem_singleton_self _⟩
  | @refused dispatch unacknowledged told =>
      rw [acknowledged_cons_of_refused (by simp [unacknowledged]) []]
      exact Or.inl rfl

/-- In whatever order things happen, and whatever the client answers: the session counts every
append request that it makes, the rows and bytes of those that are acknowledged where they claim
to start, and how many of these a row made necessary. Only the last request can be without an
acknowledgement, and only if an append failed; only the last one can be acknowledged without
being forced, and only if a commit sent it. -/
theorem statistics_true {table : String} {schema : Schema} {config : Config} {random : Random}
    {state : σ} (started : start environment table schema config random state = .ok course)
    (moves : List (Move σ)) :
    let reached := course.run environment moves
    let stats := reached.session.stats
    let dispatches := course.dispatches environment moves
    let accepted := acknowledged dispatches
    reached.sent = dispatches.map (·.2.batch) ∧ stats.appendRequests = dispatches.length ∧
      stats.rowsAppended = reached.session.committedCount ∧
      stats.rowsAppended = Batch.rowCount (written dispatches) ∧
      stats.bytesAppended = ((written dispatches).map Batch.byteSize).sum ∧
      stats.flushesForced = accepted.countP (·.1.offers) ∧
      (stats.appendRequests = accepted.length ∨
        stats.appendRequests = accepted.length + 1 ∧ FailsWithin environment course moves) ∧
      (accepted.length = stats.flushesForced ∨
        accepted.length = stats.flushesForced + 1 ∧
          ∃ exchange, (.commit, exchange) ∈ accepted) := by
  intro reached stats dispatches accepted
  have consistent := consistent_start started
  have concluded := concluded_run environment consistent moves
  have fresh : course.session.appendCounts = ⟨0, 0, 0, 0, 0⟩ := by
    obtain ⟨⟨_, _, _, opened⟩, _⟩ := start_session started
    rw [opened]
    rfl
  have unsent : course.sent = [] := by
    have added : Request.Added (fun request => request.batch? = none) [] course.requests :=
      (step_of_start started).requests_added rfl (fun _ => rfl) fun _ => rfl
    exact added.batches_eq
  have counts := appendCounts_run environment consistent moves
  rw [foldl_count, fresh] at counts
  simp only [Nat.zero_add] at counts
  have requests : stats.appendRequests = dispatches.length := congrArg AppendCounts.requests counts
  have rows : stats.rowsAppended = Batch.rowCount (written dispatches) :=
    congrArg AppendCounts.rows counts
  have committed : reached.session.committedCount = Batch.rowCount (written dispatches) :=
    congrArg AppendCounts.committed counts
  have forced : stats.flushesForced = accepted.countP (·.1.offers) :=
    congrArg AppendCounts.forced counts
  refine ⟨?_, requests, rows.trans committed.symm, rows, congrArg AppendCounts.bytes counts,
    forced, ?_, ?_⟩
  · have sent := sent_run environment consistent moves
    rw [unsent, List.nil_append] at sent
    exact sent
  · rw [requests]
    exact concluded.requests_eq
  · rw [forced]
    exact concluded.forced_eq

/-- The first append makes room for the second row and is acknowledged; the second, of the commit,
is acknowledged at another offset. -/
theorem statistics_true_of_skew :
    ∃ course moves,
      moves = [.add (filledRow 3 1), .add (filledRow 2 2), .order (.skewAck 1), .commit] ∧
        let environment := Environment.simulated false none
        start environment "table" ⟨"Row", .empty⟩ (Config.withCeiling 4) (.seeded 0)
          { backend := ({ rates := FaultRates.none, random := .seeded 0 }, {}) } = .ok course ∧
        let stats := (course.run environment moves).session.stats
        let dispatches := course.dispatches environment moves
        dispatches.map (·.2.acknowledged) = [true, false] ∧
          dispatches.map (·.1.offers) = [true, false] ∧
          dispatches.map (·.2.batch.byteSize) = [3, 2] ∧
          stats.appendRequests = 2 ∧ stats.rowsAppended = 1 ∧ stats.bytesAppended = 3 ∧
          stats.flushesForced = 1 ∧ FailsWithin environment course moves := by
  have ran : ∃ course moves,
      moves = [.add (filledRow 3 1), .add (filledRow 2 2), .order (.skewAck 1), .commit] ∧
        let environment := Environment.simulated false none
        start environment "table" ⟨"Row", .empty⟩ (Config.withCeiling 4) (.seeded 0)
          { backend := ({ rates := FaultRates.none, random := .seeded 0 }, {}) } = .ok course ∧
        let dispatches := course.dispatches environment moves
        dispatches.map (·.2.acknowledged) = [true, false] ∧
          dispatches.map (·.1.offers) = [true, false] ∧
          dispatches.map (·.2.batch.byteSize) = [3, 2] ∧ dispatches.length = 2 ∧
          (acknowledged dispatches).length = 1 ∧
          (acknowledged dispatches).countP (·.1.offers) = 1 ∧
          Batch.rowCount (written dispatches) = 1 ∧
          ((written dispatches).map Batch.byteSize).sum = 3 := by
    refine ⟨_, _, rfl, rfl, rfl, rfl, rfl, rfl, rfl, rfl, rfl, rfl⟩
  obtain ⟨course, moves, planned, started, replies, offers, sizes, sent, accepted, forced, rows,
    bytes⟩ := ran
  obtain ⟨_, requests, _, counted, carried, necessary, failed, _⟩ := statistics_true started moves
  rw [rows] at counted
  rw [bytes] at carried
  rw [forced] at necessary
  rw [sent] at requests
  rw [requests, accepted] at failed
  have failing := (failed.resolve_left (by decide)).2
  exact ⟨course, moves, planned, started, replies, offers, sizes, requests, counted, carried,
    necessary, failing⟩

end Course

end RowStream
