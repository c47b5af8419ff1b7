import RowStream.Proofs.Row.Packing
import RowStream.Proofs.Session.Closure

/-!
Contract: a session divides the rows it accepts greedily into append requests.

Owns:
- `Course.sent`, the batches that were sent, and `Course.unsent`, the buffer if it was not;
- `Session.Divided`, the acknowledged batches and the buffer as a division of the accepted
  rows, and one lemma a step relation that keeps it;
- `Course.run_fitting` and `Course.accepted_run`, rows that are too large leave no trace, and
  an open session has accepted all the others.

Main statement: `Course.batches_greedy`.
-/

namespace RowStream

variable {σ : Type} {environment : Environment σ}

def Batch.rowCount (batches : List Batch) : Nat :=
  (batches.flatMap toList).length

/-! ### Batches of requests -/

namespace Request

def batch? : Request → Option Batch
  | .append _ batch _ => some batch
  | _ => none

def batches (requests : List Request) : List Batch :=
  requests.filterMap batch?

theorem batches_append (requests : List Request) (appender : Appender) (batch : Batch)
    (offset : UInt64) :
    batches (requests ++ [.append appender batch offset]) = batches requests ++ [batch] := by
  simp [batches, batch?]

theorem Added.batches_eq {before after : List Request}
    (added : Added (fun request => request.batch? = none) before after) :
    batches after = batches before := by
  obtain ⟨requests, extended, silent⟩ := added
  have nothing : batches requests = [] := List.filterMap_eq_nil_iff.mpr silent
  rw [extended, batches, List.filterMap_append]
  show batches before ++ batches requests = batches before
  rw [nothing, List.append_nil]

end Request

/-! ### Operations of a session -/

namespace Session

variable {session : Session} {requests : List Request} {state : σ} {accepted : List Row}
  {acknowledged : List Batch}

def buffered (session : Session) : List Batch :=
  if session.pending.isEmpty then [] else [session.pending]

theorem buffered_of_empty (empty : session.pending.toList = []) : session.buffered = [] :=
  if_pos ((Batch.isEmpty_iff _).mpr empty)

theorem buffered_of_waiting (waiting : session.pending.toList ≠ []) :
    session.buffered = [session.pending] :=
  if_neg fun none => waiting ((Batch.isEmpty_iff _).mp none)

theorem buffered_buffer (row : Row) (session : Session) :
    (session.buffer row).buffered = [session.pending.push row] :=
  buffered_of_waiting (Batch.toList_ne_nil_of_push session.pending row)

theorem rowCount_concat_buffered (session : Session) (acknowledged : List Batch) :
    Batch.rowCount (acknowledged ++ session.buffered) =
      Batch.rowCount acknowledged + session.pending.length := by
  by_cases empty : session.pending.toList = []
  · rw [buffered_of_empty empty, List.append_nil, ← Batch.length_toList, empty]
    rfl
  · rw [buffered_of_waiting empty]
    simp [Batch.rowCount, Batch.length_toList]

/-- The batches that were acknowledged and the buffer are what the accepted rows are packed
into. The buffer was sent if the last append failed. -/
structure Divided (accepted : List Row) (requests : List Request) (session : Session)
    (acknowledged : List Batch) : Prop where
  counted : Batch.rowCount acknowledged = session.committedCount
  packed : acknowledged ++ session.buffered = Batch.pack session.ceiling accepted
  small : ∀ row ∈ accepted, row.size ≤ session.ceiling
  sent : Request.batches requests = acknowledged ∨
    session.phase ≠ .open ∧ Request.batches requests = acknowledged ++ session.buffered

namespace Divided

theorem of_open (divided : Divided accepted requests session acknowledged)
    (isOpen : session.phase = .open) : Request.batches requests = acknowledged := by
  rcases divided.sent with none | ⟨past, _⟩
  · exact none
  · exact absurd isOpen past

/-- What closes a session without an append divides nothing anew. -/
theorem closing {later : Session} {after : List Request}
    (divided : Divided accepted requests session acknowledged)
    (counted : later.committedCount = session.committedCount)
    (kept : later.pending = session.pending) (settings : later.config = session.config)
    (asked : Request.batches after = Request.batches requests) (past : later.phase ≠ .open) :
    Divided accepted after later acknowledged := by
  have same : later.buffered = session.buffered := by rw [buffered, kept, buffered]
  have ceiling : later.ceiling = session.ceiling := congrArg Config.ceiling settings
  refine ⟨divided.counted.trans counted.symm, ?_, ?_, ?_⟩
  · rw [same, ceiling]
    exact divided.packed
  · rw [ceiling]
    exact divided.small
  · rw [asked, same]
    exact divided.sent.imp_right fun sent => ⟨past, sent.2⟩

/-- A row that fits joins the buffer, which is the last batch; the first row of all opens it. -/
theorem buffer {row : Row} (divided : Divided accepted requests session acknowledged)
    (consistent : session.Consistent) (isOpen : session.phase = .open)
    (begun : session.pending.toList = [] → accepted = [])
    (fits : session.pendingBytes + row.size ≤ session.ceiling) :
    Divided (accepted ++ [row]) requests (session.buffer row) acknowledged := by
  have alone : row.size ≤ session.ceiling := Nat.le_trans (Nat.le_add_left _ _) fits
  have small : ∀ other ∈ accepted ++ [row], other.size ≤ session.ceiling :=
    List.forall_mem_append.mpr ⟨divided.small, List.forall_mem_singleton.mpr alone⟩
  refine ⟨divided.counted, ?_, small, Or.inl (divided.of_open isOpen)⟩
  show acknowledged ++ (session.buffer row).buffered =
    Batch.pack session.ceiling (accepted ++ [row])
  rw [buffered_buffer, Batch.pack_concat, ← divided.packed]
  by_cases empty : session.pending.toList = []
  · have first : acknowledged = [] := by
      have packed := divided.packed
      rw [begun empty, buffered_of_empty empty, List.append_nil] at packed
      exact packed
    rw [first, buffered_of_empty empty, Batch.push_of_empty empty]
    rfl
  · rw [consistent.bytes_eq] at fits
    rw [buffered_of_waiting empty, Batch.place_of_fits fits]

/-- The buffer counts as sent only if there are rows in it. -/
theorem sent_cases (divided : Divided accepted requests session acknowledged) :
    Request.batches requests = acknowledged ∨
      session.pending.toList ≠ [] ∧
        Request.batches requests = acknowledged ++ [session.pending] := by
  rcases divided.sent with none | ⟨_, last⟩
  · exact Or.inl none
  · by_cases empty : session.pending.toList = []
    · rw [buffered_of_empty empty, List.append_nil] at last
      exact Or.inl last
    · rw [buffered_of_waiting empty] at last
      exact Or.inr ⟨empty, last⟩

theorem of_empty (divided : Divided accepted requests session acknowledged)
    (empty : session.pending.toList = []) : Request.batches requests = acknowledged := by
  rcases divided.sent_cases with none | ⟨waiting, _⟩
  · exact none
  · exact absurd empty waiting

/-- A row that did not fit opens the next batch once the last one was sent. -/
theorem reopen {earlier : List Batch} {last : Batch} {row : Row}
    (divided : Divided accepted requests session (earlier ++ [last]))
    (empty : session.pending.toList = []) (overflows : session.ceiling < last.byteSize + row.size)
    (fits : row.size ≤ session.ceiling) :
    Divided (accepted ++ [row]) requests (session.buffer row) (earlier ++ [last]) := by
  have small : ∀ other ∈ accepted ++ [row], other.size ≤ session.ceiling :=
    List.forall_mem_append.mpr ⟨divided.small, List.forall_mem_singleton.mpr fits⟩
  refine ⟨divided.counted, ?_, small, Or.inl (divided.of_empty empty)⟩
  show earlier ++ [last] ++ (session.buffer row).buffered =
    Batch.pack session.ceiling (accepted ++ [row])
  rw [buffered_buffer, Batch.push_of_empty empty, Batch.pack_concat, ← divided.packed,
    buffered_of_empty empty, List.append_nil, Batch.place_of_overflow overflows]

end Divided

/-- An append that is acknowledged closes the last batch. One that is not leaves it in the
buffer, whether it was sent or not. -/
theorem FlushStep.divided {ended : Except SessionError Unit × Session × List Request × σ}
    (step : FlushStep environment.recorded session (requests, state) ended)
    (divided : Divided accepted requests session acknowledged) (consistent : session.Consistent)
    (isOpen : session.phase = .open) (waiting : session.pending.toList ≠ []) :
    (ended.1 = .ok () →
        Divided accepted ended.2.2.1 ended.2.1 (acknowledged ++ session.buffered)) ∧
      (∀ error, ended.1 = .error error →
        Divided accepted ended.2.2.1 ended.2.1 acknowledged) := by
  have sent := divided.of_open isOpen
  cases step with
  | interrupted cancelled =>
      refine ⟨by simp, fun _ _ => ?_⟩
      exact divided.closing rfl rfl rfl rfl (by simp [fail])
  | unconnected closed => exact absurd closed (consistent.connected_of_open isOpen)
  | @rejected appender reply cause after going connected answered judged =>
      have noted : after.1 = requests ++ [.append appender session.pending session.nextOffset] :=
        Environment.append_noted answered
      refine ⟨by simp, fun _ _ => ⟨divided.counted, divided.packed, divided.small, Or.inr ?_⟩⟩
      refine ⟨by simp [fail], ?_⟩
      show Request.batches after.1 = acknowledged ++ session.buffered
      rw [noted, Request.batches_append, sent, buffered_of_waiting waiting]
  | @acknowledged appender after going connected answered =>
      have noted : after.1 = requests ++ [.append appender session.pending session.nextOffset] :=
        Environment.append_noted answered
      refine ⟨fun _ => ⟨?_, ?_, divided.small, Or.inl ?_⟩, by simp⟩
      · rw [rowCount_concat_buffered, divided.counted, ← consistent.count_eq]
        rfl
      · exact (List.append_nil _).trans divided.packed
      · rw [noted, Request.batches_append, sent, buffered_of_waiting waiting]

theorem ConcludeStep.divided
    {ended : Except SessionError Nat × Session × List Request × σ}
    (step : ConcludeStep environment.recorded session (requests, state) ended)
    (divided : Divided accepted requests session acknowledged) :
    Divided accepted ended.2.2.1 ended.2.1 acknowledged := by
  have silent : Request.Added (fun request => request.batch? = none) requests ended.2.2.1 :=
    step.requests_added rfl (fun _ => rfl) fun _ => rfl
  have kept : ended.2.1.pending = session.pending := by
    cases step <;> rfl
  exact divided.closing step.committedCount_eq kept step.config_eq silent.batches_eq step.past

/-- A row leaves the batches sent, with the one that waits, a packing of the accepted rows. -/
theorem AddStep.divided {row : Row}
    {ended : Except SessionError Unit × Session × List Request × σ}
    (step : AddStep environment.recorded row session (requests, state) ended)
    (divided : Divided accepted requests session acknowledged) (consistent : session.Consistent)
    (begun : session.phase = .open → session.pending.toList = [] → accepted = []) :
    ∃ acknowledged,
      Divided (Course.accept row accepted ended.1) ended.2.2.1 ended.2.1 acknowledged := by
  have waiting (overflows : session.ceiling < session.pendingBytes + row.size)
      (fits : row.size ≤ session.ceiling) : session.pending.toList ≠ [] := by
    intro empty
    have bytes := (consistent.totals_of_emptied empty).2
    omega
  cases step with
  | closed past => exact ⟨acknowledged, divided⟩
  | buffered isOpen fits =>
      exact ⟨acknowledged, divided.buffer consistent isOpen (begun isOpen) fits⟩
  | tooLarge isOpen large => exact ⟨acknowledged, divided⟩
  | stuck isOpen overflows fits flushed =>
      have failed := (flushed.divided divided consistent isOpen (waiting overflows fits)).2
      exact ⟨acknowledged, failed _ rfl⟩
  | @flushed emptied after isOpen overflows fits flushed =>
      have some := waiting overflows fits
      have sent := (flushed.divided divided consistent isOpen some).1 rfl
      rw [consistent.bytes_eq] at overflows
      rw [buffered_of_waiting some] at sent
      cases flushed with
      | acknowledged going connected answered =>
          have forced : Divided accepted after.1
              session.countRequest.acknowledge.countForcedFlush
              (acknowledged ++ [session.pending]) :=
            ⟨sent.counted, sent.packed, sent.small, sent.sent⟩
          exact ⟨_, forced.reopen rfl overflows fits⟩

/-- What a session that is still open afterwards does with a row depends on its size alone. -/
theorem AddStep.accept_of_open {row : Row} {ended : Except SessionError Unit × Session × σ}
    {state : σ} (step : AddStep environment row session state ended)
    (consistent : session.Consistent) (isOpen : ended.2.1.phase = .open) :
    Course.accept row accepted ended.1 =
      if row.size ≤ session.ceiling then accepted ++ [row] else accepted := by
  cases step with
  | closed past => exact absurd isOpen past
  | buffered _ fits =>
      rw [if_pos (Nat.le_trans (Nat.le_add_left _ _) fits)]
      rfl
  | tooLarge _ large =>
      rw [if_neg (Nat.not_le.mpr large)]
      rfl
  | stuck wasOpen overflows fits flushed =>
      exact absurd isOpen (flushed.past_of_error (consistent.connected_of_open wasOpen) rfl)
  | flushed _ overflows fits flushed =>
      rw [if_pos fits]
      rfl

/-- While a session is open, its buffer is empty only before the first row. -/
theorem AddStep.begun {row : Row} {ended : Except SessionError Unit × Session × σ} {state : σ}
    (step : AddStep environment row session state ended) (consistent : session.Consistent)
    (begun : session.phase = .open → session.pending.toList = [] → accepted = [])
    (isOpen : ended.2.1.phase = .open) (empty : ended.2.1.pending.toList = []) :
    Course.accept row accepted ended.1 = [] := by
  cases step with
  | closed past => exact absurd isOpen past
  | buffered _ fits =>
      exact absurd empty (Batch.toList_ne_nil_of_push session.pending row)
  | tooLarge _ large => exact begun isOpen empty
  | stuck wasOpen overflows fits flushed =>
      exact absurd isOpen (flushed.past_of_error (consistent.connected_of_open wasOpen) rfl)
  | @flushed emptied after wasOpen overflows fits flushed =>
      exact absurd empty (Batch.toList_ne_nil_of_push emptied.pending row)

theorem CommitStep.divided {ended : Except SessionError Nat × Session × List Request × σ}
    (step : CommitStep environment.recorded session (requests, state) ended)
    (divided : Divided accepted requests session acknowledged)
    (consistent : session.Consistent) :
    ∃ acknowledged, Divided accepted ended.2.2.1 ended.2.1 acknowledged := by
  cases step with
  | closed past => exact ⟨acknowledged, divided⟩
  | unbuffered isOpen empty concluded => exact ⟨acknowledged, concluded.divided divided⟩
  | stuck isOpen waiting flushed =>
      exact ⟨acknowledged, (flushed.divided divided consistent isOpen waiting).2 _ rfl⟩
  | flushed isOpen waiting flushed concluded =>
      have sent := (flushed.divided divided consistent isOpen waiting).1 rfl
      exact ⟨_, concluded.divided sent⟩

end Session

/-! ### Rows that are offered -/

def Move.row? : Move σ → Option Row
  | .add row => some row
  | _ => none

def Move.fits (ceiling : Nat) : Move σ → Bool
  | .add row => row.size ≤ ceiling
  | _ => true

namespace Course

variable {course : Course σ}

theorem perform_of_large (course : Course σ) {row : Row}
    (large : course.session.ceiling < row.size) :
    course.perform environment (.add row) = course := by
  show (course.add environment row).2 = course
  by_cases isOpen : course.session.phase = .open
  · rw [add, Session.add_of_large environment.recorded row course.session _ isOpen large]
    rfl
  · rw [add_of_closed environment row isOpen]

/-- Without the rows that are too large, everything comes to the same. -/
theorem run_fitting (course : Course σ) (moves : List (Move σ)) :
    course.run environment (moves.filter (Move.fits course.session.ceiling)) =
      course.run environment moves := by
  induction moves generalizing course with
  | nil => rfl
  | cons move rest inductionHypothesis =>
      have settings : (course.perform environment move).session.ceiling =
          course.session.ceiling := congrArg Config.ceiling (config_perform course move)
      have others := inductionHypothesis (course.perform environment move)
      rw [settings] at others
      by_cases fits : move.fits course.session.ceiling = true
      · rw [List.filter_cons_of_pos fits]
        exact others
      · rw [List.filter_cons_of_neg fits, inductionHypothesis]
        cases move with
        | add row =>
            have large : course.session.ceiling < row.size := by simpa [Move.fits] using fits
            show course.run environment rest = (course.perform environment (.add row)).run _ rest
            rw [perform_of_large course large]
        | commit => simp [Move.fits] at fits
        | abort => simp [Move.fits] at fits
        | meanwhile change => simp [Move.fits] at fits

/-- While the session stays open, the accepted rows are those offered that fit the ceiling. -/
theorem accepted_perform (consistent : course.session.Consistent) (move : Move σ)
    (isOpen : (course.perform environment move).session.phase = .open) :
    (course.perform environment move).accepted =
      course.accepted ++ ([move].filter (Move.fits course.session.ceiling)).filterMap Move.row? := by
  cases move with
  | add row =>
      have step := Session.add_step environment.recorded row course.session
        (course.requests, course.state)
      have accepted : (course.perform environment (.add row)).accepted =
          if row.size ≤ course.session.ceiling then course.accepted ++ [row]
          else course.accepted := step.accept_of_open consistent isOpen
      rw [accepted]
      by_cases fits : row.size ≤ course.session.ceiling
      · simp [Move.fits, Move.row?, fits]
      · simp [Move.fits, Move.row?, fits]
  | commit => exact (List.append_nil _).symm
  | abort => exact (List.append_nil _).symm
  | meanwhile change => exact (List.append_nil _).symm

/-- While a session is open, it has accepted every row that is not too large. -/
theorem accepted_run (consistent : course.session.Consistent) (moves : List (Move σ))
    (isOpen : (course.run environment moves).session.phase = .open) :
    (course.run environment moves).accepted =
      course.accepted ++ (moves.filter (Move.fits course.session.ceiling)).filterMap Move.row? := by
  induction moves generalizing course with
  | nil => exact (List.append_nil _).symm
  | cons move rest inductionHypothesis =>
      have between : (course.perform environment move).session.phase = .open :=
        Classical.not_not.mp fun past => past_run past rest isOpen
      have settings : (course.perform environment move).session.ceiling =
          course.session.ceiling := congrArg Config.ceiling (config_perform course move)
      have others := inductionHypothesis (consistent_perform consistent move) isOpen
      rw [settings, accepted_perform consistent move between, List.append_assoc,
        ← List.filterMap_append, ← List.filter_append] at others
      exact others

/-! ### Whole courses -/

def sent (course : Course σ) : List Batch :=
  Request.batches course.requests

/-- The buffer, if there are rows in it and it was not sent: as many rows were sent as were
acknowledged. -/
def unsent (course : Course σ) : List Batch :=
  if Batch.rowCount course.sent = course.session.committedCount then course.session.buffered
  else []

/-- A course that was not aborted, between two moves. -/
structure Batched (course : Course σ) : Prop where
  consistent : course.session.Consistent
  divided : ∃ acknowledged,
    Session.Divided course.accepted course.requests course.session acknowledged
  begun : course.session.phase = .open → course.session.pending.toList = [] →
    course.accepted = []

theorem batched_start {table : String} {schema : Schema} {config : Config} {random : Random}
    {state : σ} (started : start environment table schema config random state = .ok course) :
    course.Batched := by
  obtain ⟨⟨appender, created, later, opened⟩, unoffered, _⟩ := start_session started
  have added : Request.Added (fun request => request.batch? = none) [] course.requests :=
    (step_of_start started).requests_added rfl (fun _ => rfl) fun _ => rfl
  refine ⟨consistent_start started, ⟨[], ?_⟩, fun _ _ => unoffered⟩
  rw [unoffered, opened]
  exact ⟨rfl, rfl, by simp, Or.inl added.batches_eq⟩

theorem batched_add (batched : course.Batched) (row : Row) :
    (course.add environment row).2.Batched := by
  have step := Session.add_step environment.recorded row course.session
    (course.requests, course.state)
  obtain ⟨acknowledged, divided⟩ := batched.divided
  exact ⟨batched.consistent.add step, step.divided divided batched.consistent batched.begun,
    step.begun batched.consistent batched.begun⟩

theorem batched_commit (batched : course.Batched) : (course.commit environment).2.Batched := by
  have step := Session.commit_step environment.recorded course.session
    (course.requests, course.state)
  obtain ⟨acknowledged, divided⟩ := batched.divided
  exact ⟨batched.consistent.commit step, step.divided divided batched.consistent,
    fun isOpen => absurd isOpen (step.past batched.consistent)⟩

/-- An abort empties the buffer without sending it, and is therefore left out. -/
theorem batched_run (batched : course.Batched) (moves : List (Move σ))
    (unaborted : .abort ∉ moves) : (course.run environment moves).Batched := by
  refine run_induction Batched (fun move => move ≠ .abort) ?_ moves ?_ course batched
  · intro course move batched kept
    cases move with
    | add row => exact batched_add batched row
    | commit => exact batched_commit batched
    | abort => exact absurd rfl kept
    | meanwhile change => exact ⟨batched.consistent, batched.divided, batched.begun⟩
  · intro move member aborted
    exact unaborted (aborted ▸ member)

/-- What was sent and what was not are the acknowledged batches and the buffer. -/
theorem sent_append_unsent {acknowledged : List Batch}
    (divided : Session.Divided course.accepted course.requests course.session acknowledged) :
    course.sent ++ course.unsent = acknowledged ++ course.session.buffered := by
  rcases divided.sent_cases with none | ⟨waiting, last⟩
  · have same : course.sent = acknowledged := none
    rw [unsent, same, if_pos divided.counted]
  · have same : course.sent = acknowledged ++ course.session.buffered := by
      rw [Session.buffered_of_waiting waiting]
      exact last
    have some : 0 < course.session.pending.length := by
      rw [← Batch.length_toList]
      exact List.length_pos_iff.mpr waiting
    have counted : Batch.rowCount course.sent ≠ course.session.committedCount := by
      rw [same, Session.rowCount_concat_buffered, divided.counted]
      omega
    rw [unsent, if_neg counted, List.append_nil, same]

/-- A committed session has sent all it accepted. -/
theorem Batched.sent_of_committed (batched : course.Batched)
    (committed : course.session.phase = .committed) :
    course.sent = Batch.pack course.session.ceiling course.accepted := by
  have empty := batched.consistent.emptied committed
  obtain ⟨acknowledged, divided⟩ := batched.divided
  have packed := divided.packed
  rw [Session.buffered_of_empty empty, List.append_nil] at packed
  exact (divided.of_empty empty).trans packed

/-- As long as the session is not aborted, whatever the client answers: the batches that were
sent, and the buffer if it was not, are the one greedy division of the accepted rows. Only the
last batch can have failed, and rows that are too large change nothing at all; an open session
has accepted all the others. A commit that succeeds has sent as few batches as any division of
these rows has. -/
theorem batches_greedy {table : String} {schema : Schema} {config : Config} {random : Random}
    {state : σ} (started : start environment table schema config random state = .ok course)
    (moves : List (Move σ)) (unaborted : .abort ∉ moves) :
    let reached := course.run environment moves
    let ended := reached.commit environment
    (∀ batches, Batch.Greedy config.ceiling reached.accepted batches ↔
        batches = reached.sent ++ reached.unsent) ∧
      (∀ batch ∈ reached.sent, batch.toList ≠ [] ∧ batch.byteSize ≤ config.ceiling) ∧
      (Batch.rowCount reached.sent = reached.session.committedCount ∨
        ∃ earlier, reached.sent = earlier ++ [reached.session.pending] ∧
          Batch.rowCount earlier = reached.session.committedCount) ∧
      course.run environment (moves.filter (Move.fits config.ceiling)) = reached ∧
      (reached.session.phase = .open →
        reached.accepted = (moves.filter (Move.fits config.ceiling)).filterMap Move.row?) ∧
      (∀ count, ended.1 = .ok count →
        IsLeast
            {number | ∃ batches, Batch.Splits config.ceiling reached.accepted batches ∧
              batches.length = number}
            ended.2.sent.length ∧
          (reached.accepted = [] → ended.2.sent = [])) := by
  intro reached ended
  have batched : reached.Batched := batched_run (batched_start started) moves unaborted
  have settings : reached.session.ceiling = config.ceiling := ceiling_run started moves
  obtain ⟨acknowledged, divided⟩ := batched.divided
  have whole : reached.sent ++ reached.unsent = Batch.pack config.ceiling reached.accepted := by
    rw [sent_append_unsent divided, divided.packed, settings]
  have small : ∀ row ∈ reached.accepted, row.size ≤ config.ceiling := settings ▸ divided.small
  have ceiling : course.session.ceiling = config.ceiling := ceiling_run started []
  refine ⟨?_, ?_, ?_, ?_, ?_, ?_⟩
  · intro batches
    rw [whole]
    exact Batch.greedy_iff small
  · have greedy := Batch.pack_greedy small
    rw [← whole] at greedy
    intro batch member
    have sent := List.mem_append_left reached.unsent member
    exact ⟨greedy.nonempty batch sent, greedy.within batch sent⟩
  · rcases divided.sent_cases with none | ⟨_, last⟩
    · have same : reached.sent = acknowledged := none
      exact Or.inl (same ▸ divided.counted)
    · exact Or.inr ⟨acknowledged, last, divided.counted⟩
  · rw [← ceiling]
    exact run_fitting course moves
  · intro isOpen
    have all := accepted_run (consistent_start started) moves isOpen
    rw [(start_session started).2.1, List.nil_append, ceiling] at all
    exact all
  · intro count succeeded
    have committed : ended.2.session.phase = .committed :=
      (Session.commit_step environment.recorded reached.session _).committed_of_ok succeeded
    have unchanged : ended.2.session.ceiling = config.ceiling :=
      (congrArg Config.ceiling (config_perform reached .commit)).trans settings
    have sent : ended.2.sent = Batch.pack config.ceiling reached.accepted := by
      rw [← unchanged]
      exact (batched_commit batched).sent_of_committed committed
    rw [sent]
    refine ⟨Batch.isLeast_length_pack small, fun nothing => ?_⟩
    rw [nothing]
    rfl

/-- Of rows for requests of four bytes one is too large, one does not fit beside the first, and
one has no bytes. The commit sends the last two. -/
theorem batches_greedy_of_overflow :
    ∃ course moves,
      moves = [.add (filledRow 3 1), .add (filledRow 5 2), .add (filledRow 2 3),
          .add (filledRow 0 4)] ∧
        let environment := Environment.simulated false none
        start environment "table" ⟨"Row", .empty⟩ (Config.withCeiling 4) (.seeded 0)
          { backend := ({ rates := FaultRates.none, random := .seeded 0 }, {}) } = .ok course ∧
        .abort ∉ moves ∧
        let reached := course.run environment moves
        let ended := reached.commit environment
        reached.sent.map Batch.byteSize = [3] ∧ reached.unsent.map Batch.byteSize = [2] ∧
          Batch.Greedy 4 reached.accepted (reached.sent ++ reached.unsent) ∧
          course.run environment (moves.eraseIdx 1) = reached ∧
          ended.1 = .ok 3 ∧
          IsLeast
            {number | ∃ batches, Batch.Splits 4 reached.accepted batches ∧ batches.length = number}
            2 := by
  have ran : ∃ course moves,
      moves = [.add (filledRow 3 1), .add (filledRow 5 2), .add (filledRow 2 3),
          .add (filledRow 0 4)] ∧
        let environment := Environment.simulated false none
        start environment "table" ⟨"Row", .empty⟩ (Config.withCeiling 4) (.seeded 0)
          { backend := ({ rates := FaultRates.none, random := .seeded 0 }, {}) } = .ok course ∧
        let reached := course.run environment moves
        let ended := reached.commit environment
        reached.sent.map Batch.byteSize = [3] ∧ reached.unsent.map Batch.byteSize = [2] ∧
          ended.1 = .ok 3 ∧ ended.2.sent.length = 2 := by
    refine ⟨_, _, rfl, rfl, rfl, rfl, rfl, rfl⟩
  obtain ⟨course, moves, planned, started, sent, unsent, succeeded, requests⟩ := ran
  have unaborted : .abort ∉ moves := by
    rw [planned]
    simp
  obtain ⟨greedy, _, _, fitting, _, least⟩ := batches_greedy started moves unaborted
  have fewest := (least 3 succeeded).1
  rw [requests] at fewest
  have others : moves.filter (Move.fits (Config.withCeiling 4).ceiling) = moves.eraseIdx 1 := by
    rw [planned]
    rfl
  rw [others] at fitting
  exact ⟨course, moves, planned, started, unaborted, sent, unsent, (greedy _).mpr rfl, fitting,
    succeeded, fewest⟩

end Course

end RowStream
