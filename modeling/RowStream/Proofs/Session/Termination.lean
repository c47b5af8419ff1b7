import RowStream.Proofs.Session.Conclusion

/-!
Contract: what the phase of a session tells about its stream.

Owns:
- `Move.Uncounted`, what happens around a session without a row count being scripted;
- `Course.Terminated`, the invariant of a whole course in which no row count is scripted.

Main statement: `Course.finalized_of_phase`. A session that failed never owns a finalized
stream. One that was aborted owns one exactly if a commit had succeeded before, since an abort
is accepted in every phase (`Course.finalized_of_late_abort`).
-/

namespace RowStream

variable {σ : Type} {environment : Environment σ} {store : σ → Store} {faults : σ → Nat}
  {stream : String}

namespace Session

variable {session : Session}

theorem past_of_terminal (terminal : session.phase = .committed ∨ session.phase = .aborted) :
    session.phase ≠ .open := by
  rcases terminal with isCommitted | isAborted
  · simp [isCommitted]
  · simp [isAborted]

end Session

/-- Calls of the session itself, and anything else by which no row count gets scripted. -/
def Move.Uncounted (store : σ → Store) : Move σ → Prop
  | .meanwhile change => ∀ state, (store state).script.finalizeRowCount = none →
      (store (change state)).script.finalizeRowCount = none
  | _ => True

theorem Move.cancel_uncounted (token : String) : (cancel token).Uncounted SimStage.store :=
  fun _ unscripted => unscripted

namespace Course

variable {course : Course σ}

/-- No row count was scripted: the stream is finalized exactly if a commit succeeded, and after
that the session is committed, or aborted. -/
structure Terminated (store : σ → Store) (stream : String) (course : Course σ) : Prop where
  settled : course.Settled (fun _ => False) store stream
  unscripted : (store course.state).script.finalizeRowCount = none
  terminal : ∀ count, .ok count ∈ course.commits →
    course.session.phase = .committed ∨ course.session.phase = .aborted

namespace Terminated

/-- A stream is finalized if and only if one of the commits answered a number. -/
theorem finalized_iff (terminated : course.Terminated store stream) :
    (store course.state).isFinalized stream = true ↔ ∃ count, .ok count ∈ course.commits := by
  refine terminated.settled.finalized_iff.trans ⟨?_, ?_⟩
  · rintro ⟨answer, member, concluded⟩
    cases answer with
    | ok count => exact ⟨count, member⟩
    | error error =>
        -- Without a script no commit tells another number of rows.
        have told : ∃ counts, Session.mismatch? (.error error) = some counts := by
          simpa [Session.concludes, Except.isOk, Except.toBool, Option.isSome_iff_exists] using
            concluded
        obtain ⟨⟨expected, actual⟩, told⟩ := told
        exact absurd (terminated.settled.explained _ member expected actual told).2.2 id
  · rintro ⟨count, member⟩
    exact ⟨.ok count, member, rfl⟩

theorem of_later (settled : course.Settled (fun _ => False) store stream) {before : Store}
    (later : before.Later (store course.state))
    (unscripted : before.script.finalizeRowCount = none)
    (terminal : ∀ count, .ok count ∈ course.commits →
      course.session.phase = .committed ∨ course.session.phase = .aborted) :
    course.Terminated store stream where
  settled := settled
  unscripted := by
    obtain ⟨_, advances⟩ := later
    cases waiting : (store course.state).script.finalizeRowCount with
    | none => rfl
    | some rows =>
        rw [advances.spent rows waiting] at unscripted
        exact absurd unscripted (by simp)
  terminal := terminal

end Terminated

theorem terminal_add (environment : Environment σ) (row : Row)
    (terminal : ∀ count, .ok count ∈ course.commits →
      course.session.phase = .committed ∨ course.session.phase = .aborted) (count : Nat)
    (succeeded : .ok count ∈ (course.add environment row).2.commits) :
    (course.add environment row).2.session.phase = .committed ∨
      (course.add environment row).2.session.phase = .aborted := by
  have phase := terminal count succeeded
  rw [add_of_closed environment row (Session.past_of_terminal phase)]
  exact phase

theorem terminal_commit (environment : Environment σ)
    (terminal : ∀ count, .ok count ∈ course.commits →
      course.session.phase = .committed ∨ course.session.phase = .aborted) (count : Nat)
    (succeeded : .ok count ∈ (course.commit environment).2.commits) :
    (course.commit environment).2.session.phase = .committed ∨
      (course.commit environment).2.session.phase = .aborted := by
  rcases List.mem_append.mp succeeded with earlier | now
  · have phase := terminal count earlier
    rw [commit_of_closed environment (Session.past_of_terminal phase)]
    exact phase
  · exact Or.inl ((Session.commit_step environment.recorded course.session
      (course.requests, course.state)).committed_of_ok (List.mem_singleton.mp now).symm)

theorem terminated_perform (serves : Serves environment store faults)
    (terminated : course.Terminated store stream) (move : Move σ)
    (spares : move.Spares store stream) (uncounted : move.Uncounted store) :
    (course.perform environment move).Terminated store stream := by
  have settled := settled_perform serves terminated.settled
    (fun rows waiting => by simp [terminated.unscripted] at waiting) move spares
  cases move with
  | add row =>
      exact .of_later settled (later_perform serves course (.add row) trivial)
        terminated.unscripted (terminal_add environment row terminated.terminal)
  | commit =>
      exact .of_later settled (later_perform serves course .commit trivial)
        terminated.unscripted (terminal_commit environment terminated.terminal)
  | abort =>
      have aborted := (Session.abort_step environment.recorded course.session
        (course.requests, course.state)).session_eq
      refine .of_later settled (later_perform serves course .abort trivial)
        terminated.unscripted fun _ _ => Or.inr ?_
      exact (congrArg Session.phase aborted).trans rfl
  | meanwhile change =>
      exact ⟨settled, uncounted course.state terminated.unscripted, terminated.terminal⟩

section Simulated

variable (faulty : Bool) (cancelled : SimStage → Bool) {table : String} {schema : Schema}
  {config : Config} {random : Random} {stage : SimStage} {course : Course SimStage}

/-- While no row count is scripted: a stream is finalized neither under an open session nor
under one that failed, it is under a committed one, and under an aborted one exactly if a
commit had succeeded before. -/
theorem finalized_of_phase
    (started : start ((Environment.simulated faulty none).interruptedBy cancelled) table schema
      config random stage = .ok course)
    (unscripted : stage.store.script.finalizeRowCount = none) (moves : List (Move SimStage))
    (alone : ∀ move ∈ moves, move.Spares SimStage.store course.session.streamText ∧
      move.Uncounted SimStage.store) :
    let reached := course.run ((Environment.simulated faulty none).interruptedBy cancelled) moves
    let finalized := reached.state.store.isFinalized course.session.streamText
    (reached.session.phase = .open → finalized = false) ∧
      (reached.session.phase = .failed → finalized = false) ∧
      (reached.session.phase = .committed → finalized = true) ∧
      (reached.session.phase = .aborted →
        (finalized = true ↔ ∃ count, .ok count ∈ reached.commits)) := by
  intro reached finalized
  have serves := serves_interruptedBy (serves_simulated faulty none) cancelled
  have terminated : reached.Terminated SimStage.store course.session.streamText := by
    refine run_induction (Terminated SimStage.store course.session.streamText)
      (fun move => move.Spares SimStage.store course.session.streamText ∧
        move.Uncounted SimStage.store)
      (fun _ move terminated ⟨spares, uncounted⟩ =>
        terminated_perform serves terminated move spares uncounted) moves alone course ?_
    obtain ⟨_, _, unasked⟩ := start_session started
    refine .of_later (settled_start serves started) (later_start serves started) unscripted ?_
    simp [unasked]
  obtain ⟨_, record, found, account⟩ := terminated.settled.kept
  have recorded : finalized = record.finalized := Store.isFinalized_eq found
  refine ⟨?_, ?_, ?_, fun _ => terminated.finalized_iff⟩
  · intro isOpen
    exact recorded.trans (account.inStep_of_open isOpen).unfinished
  · intro hasFailed
    cases concluded : finalized with
    | false => rfl
    | true =>
        obtain ⟨count, succeeded⟩ := terminated.finalized_iff.mp concluded
        have phase := terminated.terminal count succeeded
        simp [hasFailed] at phase
  · intro isCommitted
    exact recorded.trans (account.complete_of_committed isCommitted).finalized

/-- A commit that is cancelled finalizes nothing, also if the session is aborted then. -/
theorem finalized_of_phase_cancelled :
    ∃ course moves,
      moves = [.add (filledRow 3 1), .cancel "main", .commit, .abort] ∧
        start ((Environment.simulated true none).interruptedBy (Stage.isCancelled (some "main")))
          "table" ⟨"Row", .empty⟩ (Config.withCeiling 4) (.seeded 0)
          { backend := ({ rates := FaultRates.none, random := .seeded 0 }, {}) } = .ok course ∧
        let reached := course.run
          ((Environment.simulated true none).interruptedBy (Stage.isCancelled (some "main"))) moves
        (∀ move ∈ moves, move.Spares SimStage.store course.session.streamText ∧
            move.Uncounted SimStage.store) ∧
          reached.session.phase = .aborted ∧ (∀ count, .ok count ∉ reached.commits) ∧
          (SimStage.store reached.state).isFinalized course.session.streamText = false := by
  have ran : ∃ course moves,
      moves = [.add (filledRow 3 1), .cancel "main", .commit, .abort] ∧
        start ((Environment.simulated true none).interruptedBy (Stage.isCancelled (some "main")))
          "table" ⟨"Row", .empty⟩ (Config.withCeiling 4) (.seeded 0)
          { backend := ({ rates := FaultRates.none, random := .seeded 0 }, {}) } = .ok course ∧
        let reached := course.run
          ((Environment.simulated true none).interruptedBy (Stage.isCancelled (some "main"))) moves
        reached.session.phase = .aborted ∧ ∃ error, reached.commits = [.error error] := by
    refine ⟨_, _, rfl, rfl, rfl, _, rfl⟩
  obtain ⟨course, moves, planned, started, aborted, error, answered⟩ := ran
  have alone : ∀ move ∈ moves, move.Spares SimStage.store course.session.streamText ∧
      move.Uncounted SimStage.store := by
    rw [planned]
    simp only [List.forall_mem_cons]
    exact ⟨⟨trivial, trivial⟩, ⟨Move.cancel_spares _ _, Move.cancel_uncounted _⟩,
      ⟨trivial, trivial⟩, ⟨trivial, trivial⟩, by simp⟩
  have finalizedIff := (finalized_of_phase true (Stage.isCancelled (some "main")) started rfl moves
    alone).2.2.2 aborted
  have unsuccessful : ∀ count, .ok count ∉ (course.run
      ((Environment.simulated true none).interruptedBy (Stage.isCancelled (some "main")))
      moves).commits := by
    simp [answered]
  refine ⟨course, moves, planned, started, alone, aborted, unsuccessful, ?_⟩
  rw [Bool.eq_false_iff]
  intro finalized
  obtain ⟨count, succeeded⟩ := finalizedIff.mp finalized
  exact unsuccessful count succeeded

/-- An abort after a successful commit: the session is aborted, and its stream is finalized. -/
theorem finalized_of_late_abort :
    ∃ course moves,
      moves = [.add (filledRow 3 1), .commit, .abort] ∧
        start ((Environment.simulated true none).interruptedBy fun _ => false) "table"
          ⟨"Row", .empty⟩ (Config.withCeiling 4) (.seeded 0)
          { backend := ({ rates := FaultRates.none, random := .seeded 0 }, {}) } = .ok course ∧
        let reached := course.run
          ((Environment.simulated true none).interruptedBy fun _ => false) moves
        reached.commits = [.ok 1] ∧ reached.session.phase = .aborted ∧
          (SimStage.store reached.state).isFinalized course.session.streamText = true :=
  ⟨_, _, rfl, rfl, rfl, rfl, rfl⟩

end Simulated

end Course

end RowStream
