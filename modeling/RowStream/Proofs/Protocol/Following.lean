import RowStream.Proofs.Protocol.Deed

/-!
Contract: an open session on the in-memory service does what the protocol says.

Owns:
- `serves_directly`, the service without faults on the way;
- `FlushStep.follows` and `ConcludeStep.follows`, the two requests of a session as the
  protocol's `sent` and `finalize`;
- `Session.Consistent.fits_iff`, the protocol's comparison of words as the session's;
- `AddStep.follows` and `CommitStep.follows`, the two calls as the protocol's actions.

They hold in every environment in which requests are served directly and whose requests
cancel nothing.
-/

namespace RowStream

variable {σ : Type} {environment : Environment σ} {store : σ → Store} {stream : String}

/-- Without faults on the way, every request is served. -/
theorem Delivery.served {α : Type} {serve : Store → α × Store} {Refusal : α → Prop}
    {Touched : α → α → Prop} {before after : σ} {answer : α}
    (delivery : Delivery store (fun _ => 0) serve Refusal Touched before (answer, after)) :
    serve (store before) = (answer, store after) := by
  cases delivery with
  | reached served quiet => exact served
  | refused refusal untouched struck => exact absurd struck (Nat.lt_irrefl 0)
  | touched serving touch struck => exact absurd struck (Nat.lt_irrefl 0)

theorem serves_directly (token : Option String) :
    Serves (Environment.simulated false token) SimStage.store (fun _ => 0) where
  report _ _ := ⟨rfl, rfl⟩
  sleep _ _ := ⟨rfl, rfl⟩
  create _ _ _ := .reached rfl rfl
  bind _ _ _ := .reached rfl rfl
  append _ _ _ _ := .reached rfl rfl
  close _ _ := .reached rfl rfl
  finalize _ _ := .reached rfl rfl

namespace Session

variable {session : Session} {state : σ} {record : StreamRecord} {rows : List Row}

/-- An append that is received as scripted is the protocol's flush. -/
theorem FlushStep.follows (serves : Serves environment store (fun _ => 0))
    (steady : Steady environment) (consistent : session.Consistent)
    (found : (store state).find? stream = some record)
    (inStep : InStep stream rows record session) {reception : Reception}
    (genuine : reception.Genuine) (scripted : reception.Scripted (store state).script)
    (going : environment.host.cancelled state = false)
    {ended : Except SessionError Unit × Session × σ}
    (step : FlushStep environment session state ended) (accepted : Nat) (attempts : UInt32)
    (returned : Option Nat) :
    ∃ after, (store ended.2.2).find? stream = some after ∧
      (session.abstract record accepted attempts returned).sent reception.ack =
        (decide (reception = .acknowledged),
          ended.2.1.abstract after accepted attempts returned) ∧
      (ended.1 = .ok () ↔ reception = .acknowledged) ∧
      (ended.1 = .ok () → InStep stream rows after ended.2.1 ∧
        (store ended.2.2).script = (store state).script ∧
        environment.host.cancelled ended.2.2 = false) := by
  have announced : Still store (fun _ => 0) state (session.announce environment state) :=
    serves.report_still _ state
  have present := (announced.find? stream).trans found
  have heard : (store (session.announce environment state)).script = (store state).script :=
    congrArg Store.script (serves.report _ state).1
  cases step.at_end inStep with
  | interrupted cancelled => simp [going] at cancelled
  | @rejected reply cause after sent unacknowledged =>
      have delivery := serves.append { stream := stream } session.pending
        (UInt64.ofNat record.rows.size) (session.announce environment state)
      rw [sent] at delivery
      obtain ⟨replyIff, left, _⟩ := Store.append_of_reception genuine present inStep.unfinished
        (heard ▸ scripted) delivery.served
      have failed : reception ≠ .acknowledged := fun acknowledged =>
        unacknowledged (replyIff.mpr acknowledged)
      have reported : Still store (fun _ => 0) after
          (session.reportFailure environment cause after) := serves.report_still _ after
      refine ⟨_, (reported.find? stream).trans left, ?_, by simp [failed], by simp⟩
      rw [abstract_sent_failed inStep consistent failed, decide_eq_false failed]
  | @acknowledged after sent =>
      have delivery := serves.append { stream := stream } session.pending
        (UInt64.ofNat record.rows.size) (session.announce environment state)
      have answered := steady.append { stream := stream } session.pending
        (UInt64.ofNat record.rows.size) (session.announce environment state)
      rw [sent] at delivery answered
      obtain ⟨replyIff, left, unspent⟩ := Store.append_of_reception genuine present
        inStep.unfinished (heard ▸ scripted) delivery.served
      have acknowledged := replyIff.mp rfl
      rw [acknowledged] at left
      refine ⟨_, left, ?_, by simp [acknowledged], ?_⟩
      · rw [acknowledged]
        exact abstract_sent_acknowledged inStep consistent
      · intro _
        exact ⟨inStep.acknowledge consistent, (unspent acknowledged).trans heard,
          (answered.trans (steady.report _ state)).trans going⟩

/-- A scripted refusal that is not worth another attempt ends the attempts. -/
theorem finalizing_refused (serves : Serves environment store (fun _ => 0)) {status : Status}
    (final : status.code ∉ session.config.retryableCodes)
    (scripted : (store state).script.finalizeFailures = [status])
    (going : environment.host.cancelled (session.pause environment state) = false) :
    ∃ error, (session.finalizing environment state).outcome = .error error := by
  have failures :
      (store (session.pause environment state)).script.finalizeFailures = [status] := by
    rw [pause, (serves.sleep _ state).1]
    exact scripted
  cases called : environment.client.finalize session.streamText
      (session.pause environment state) with
  | mk answer after =>
    have delivery := serves.finalize session.streamText (session.pause environment state)
    rw [called] at delivery
    have refused : answer = .error status := by
      have answered := Store.finalize_of_scripted session.streamText failures
      rw [delivery.served] at answered
      exact answered
    rw [refused] at called
    rw [finalizing, Retry.run_of_first_final _ _ _ going called final]
    exact ⟨_, rfl⟩

/-- A finalization that is refused or granted as scripted is the protocol's. -/
theorem ConcludeStep.follows (serves : Serves environment store (fun _ => 0))
    (steady : Steady environment) (found : (store state).find? stream = some record)
    (inStep : InStep stream rows record session) {refusal : Option Status}
    (final : ∀ status, refusal = some status → status.code ∉ session.config.retryableCodes)
    (scripted : (store state).script = { finalizeFailures := refusal.toList })
    (going : environment.host.cancelled state = false)
    {ended : Except SessionError Nat × Session × σ}
    (step : ConcludeStep environment session state ended) (accepted : Nat) (attempts : UInt32)
    (returned : Option Nat) :
    ended.2.1.phase ≠ .open ∧
      ∃ after, (store ended.2.2).find? stream = some after ∧
        (session.abstract record accepted attempts returned).finalize refusal.isNone =
          ended.2.1.abstract after accepted attempts (ended.1.toOption.or returned) := by
  have goingOn : environment.host.cancelled (session.pause environment state) = false :=
    (steady.sleep _ state).trans going
  have attempted := finalizing_outcome serves found inStep
  cases refusal with
  | none =>
      cases step with
      | interrupted cancelled => simp [goingOn] at cancelled
      | @refused error _ gaveUp =>
          exact absurd ((attempted.2 error gaveUp).2 goingOn scripted) (Nat.lt_irrefl 0)
      | @miscounted retried _ answered differs =>
          exact absurd ((attempted.1 retried answered).2.2 scripted) differs
      | @finalized retried _ answered agrees =>
          obtain ⟨_, finalized, _⟩ := attempted.1 retried answered
          have ended := closing_still serves
            (session.countFinalize retried.attempts (session.finalizing environment state).random)
            (.finalized session.streamText retried.value)
            (session.finalizing environment state).state
          refine ⟨by simp [finish], _, (ended.find? stream).trans finalized, ?_⟩
          rw [agrees]
          exact abstract_finalize_ok inStep _ _
  | some status =>
      have failures : (store state).script.finalizeFailures = [status] := by
        rw [scripted]
        rfl
      obtain ⟨error, gaveUp⟩ := finalizing_refused serves (final status rfl) failures goingOn
      cases step with
      | interrupted cancelled => simp [goingOn] at cancelled
      | @refused error _ gaveUp =>
          have reported := (attempted.2 error gaveUp).1.trans
            (serves.report_still (.finalizeFailed session.streamText error) _)
          exact ⟨by simp [fail], record, (reported.find? stream).trans found,
            abstract_finalize_failed _⟩
      | @miscounted retried _ answered differs =>
          rw [gaveUp] at answered
          exact absurd answered (by simp)
      | @finalized retried _ answered agrees =>
          rw [gaveUp] at answered
          exact absurd answered (by simp)

end Session

/-! ### Deeds in an open session -/

namespace Session

variable {session : Session} {state : σ} {record : StreamRecord} {rows : List Row}
  {protocol : Protocol} {reception : Reception}

/-- As long as the ceiling and the row stay in a word, the protocol compares with the ceiling
what the session compares with it. -/
theorem Consistent.fits_iff (consistent : session.Consistent)
    (ceiling : session.ceiling = protocol.ceiling.toNat) {size : Nat}
    (bounded : session.ceiling + size < UInt64.size) :
    (UInt64.ofNat session.pendingBytes + UInt64.ofNat size ≤ protocol.ceiling ↔
        session.pendingBytes + size ≤ session.ceiling) ∧
      (protocol.ceiling < UInt64.ofNat size ↔ session.ceiling < size) := by
  constructor
  · rw [UInt64.le_iff_toNat_le, consistent.toNat_add bounded, ceiling]
  · rw [UInt64.lt_iff_toNat_lt, UInt64.toNat_ofNat_of_lt' (by omega), ceiling]

/-- A row does to the session what the protocol says, whatever the service makes of the append. -/
theorem AddStep.follows (serves : Serves environment store (fun _ => 0))
    (steady : Steady environment) (consistent : session.Consistent)
    (found : (store state).find? stream = some record)
    (inStep : InStep stream rows record session) (ceiling : session.ceiling = protocol.ceiling.toNat)
    (genuine : reception.Genuine) {row : Row}
    (bounded : session.ceiling + row.size < UInt64.size)
    (scripted : (store state).script =
      Script.planAll ((Deed.add row reception).mishaps session) {})
    (going : environment.host.cancelled state = false)
    {ended : Except SessionError Unit × Session × σ}
    (step : AddStep environment row session state ended) (attempts : UInt32)
    (returned : Option Nat) :
    ∃ after, (store ended.2.2).find? stream = some after ∧
      protocol.step? (session.abstract record rows.length attempts returned)
          (.add (UInt64.ofNat row.size) reception.ack) =
        some (ended.2.1.abstract after (Course.accept row rows ended.1).length (attempts + 1)
          returned) ∧
      (ended.2.1.phase = .open →
        (store ended.2.2).script = {} ∧ environment.host.cancelled ended.2.2 = false) := by
  obtain ⟨fitsIff, largeIff⟩ := consistent.fits_iff ceiling bounded
  have opened : (session.abstract record rows.length attempts returned).phase = .open :=
    inStep.isOpen
  cases step with
  | closed past => exact absurd inStep.isOpen past
  | buffered isOpen fits =>
      rw [Deed.unscripted_add (Or.inl fits)] at scripted
      refine ⟨record, found, ?_, fun _ => ⟨scripted, going⟩⟩
      rw [Protocol.step?_add_fitting opened (fitsIff.mpr fits), Course.accept, List.length_append]
      exact congrArg some (abstract_enqueue row)
  | tooLarge isOpen large =>
      rw [Deed.unscripted_add (Or.inr large)] at scripted
      refine ⟨record, found, ?_, fun _ => ⟨scripted, going⟩⟩
      have overflows := UInt64.not_le.mp (mt fitsIff.mp (by omega))
      exact Protocol.step?_add_tooLarge opened overflows (largeIff.mpr large)
  | @stuck error failed after isOpen overflows fits flushed =>
      have received := scripted ▸ Deed.scripted_add isOpen fits overflows
      obtain ⟨left, leftFound, sent, okIff, _⟩ := flushed.follows serves steady consistent found
        inStep genuine received going rows.length (attempts + 1) returned
      have refused : reception ≠ .acknowledged := by
        intro acknowledged
        have impossible := okIff.mpr acknowledged
        simp at impossible
      have stopped : failed.phase = .failed :=
        (flushed.outcome serves consistent ⟨record, found, inStep⟩).2.hasFailed
      rw [decide_eq_false refused, ← abstract_offer] at sent
      have fits := UInt64.not_lt.mp (mt largeIff.mp (Nat.not_lt.mpr fits))
      have overflows := UInt64.not_le.mp (mt fitsIff.mp (Nat.not_le.mpr overflows))
      refine ⟨left, leftFound, ?_, fun stillOpen => by simp [stopped] at stillOpen⟩
      rw [Protocol.step?_add_overflowing opened fits overflows sent]
      rfl
  | @flushed emptied after isOpen overflows fits flushed =>
      have received := scripted ▸ Deed.scripted_add isOpen fits overflows
      obtain ⟨left, leftFound, sent, okIff, settled⟩ := flushed.follows serves steady consistent
        found inStep genuine received going rows.length (attempts + 1) returned
      have acknowledged := okIff.mp rfl
      obtain ⟨_, unspent, goingOn⟩ := settled rfl
      have unscripted : (store state).script = {} := by
        rw [scripted, Deed.mishaps, if_pos ⟨isOpen, fits, overflows⟩, acknowledged]
        rfl
      rw [decide_eq_true acknowledged, ← abstract_offer] at sent
      have fits := UInt64.not_lt.mp (mt largeIff.mp (Nat.not_lt.mpr fits))
      have overflows := UInt64.not_le.mp (mt fitsIff.mp (Nat.not_le.mpr overflows))
      refine ⟨left, leftFound, ?_, fun _ => ⟨unspent.trans unscripted, goingOn⟩⟩
      rw [Protocol.step?_add_overflowing opened fits overflows sent, Course.accept,
        List.length_append]
      exact congrArg some (abstract_enqueue row)

/-- A commit does to the session what the protocol says, whatever the service makes of the append
and of the finalization. -/
theorem CommitStep.follows (serves : Serves environment store (fun _ => 0))
    (steady : Steady environment) (consistent : session.Consistent)
    (found : (store state).find? stream = some record)
    (inStep : InStep stream rows record session) (genuine : reception.Genuine)
    {refusal : Option Status}
    (final : ∀ status, refusal = some status → status.code ∉ session.config.retryableCodes)
    (scripted : (store state).script =
      Script.planAll ((Deed.commit reception refusal).mishaps session) {})
    (going : environment.host.cancelled state = false)
    {ended : Except SessionError Nat × Session × σ}
    (step : CommitStep environment session state ended) (attempts : UInt32)
    (returned : Option Nat) :
    ended.2.1.phase ≠ .open ∧
      ∃ after, (store ended.2.2).find? stream = some after ∧
        protocol.step? (session.abstract record rows.length attempts returned)
            (.commit reception.ack refusal.isNone) =
          some (ended.2.1.abstract after rows.length attempts (ended.1.toOption.or returned)) := by
  cases step with
  | closed past => exact absurd inStep.isOpen past
  | unbuffered isOpen empty concluded =>
      rw [Deed.scripted_finalize isOpen (Or.inl empty)] at scripted
      obtain ⟨closed, after, afterFound, finalized⟩ := concluded.follows serves steady found inStep
        final scripted going rows.length attempts returned
      refine ⟨closed, after, afterFound, ?_⟩
      have nothing : (session.pending.toList.map fun row => UInt64.ofNat row.size) = [] := by
        rw [empty]
        rfl
      rw [Protocol.step?_commit_unbuffered isOpen nothing, finalized]
  | @stuck error failed after isOpen waiting flushed =>
      have received := scripted ▸ Deed.scripted_commit isOpen waiting
      obtain ⟨left, leftFound, sent, okIff, _⟩ := flushed.follows serves steady consistent found
        inStep genuine received going rows.length attempts returned
      have refused : reception ≠ .acknowledged := by
        intro acknowledged
        have impossible := okIff.mpr acknowledged
        simp at impossible
      have stopped : failed.phase = .failed :=
        (flushed.outcome serves consistent ⟨record, found, inStep⟩).2.hasFailed
      rw [decide_eq_false refused] at sent
      refine ⟨by simp [stopped], left, leftFound, ?_⟩
      rw [Protocol.step?_commit_buffered isOpen (by simpa [abstract] using waiting) sent]
      rfl
  | @flushed emptied between ended isOpen waiting flushed concluded =>
      have received := scripted ▸ Deed.scripted_commit isOpen waiting
      obtain ⟨left, leftFound, sent, okIff, settled⟩ := flushed.follows serves steady consistent
        found inStep genuine received going rows.length attempts returned
      have acknowledged := okIff.mp rfl
      obtain ⟨inStepAfter, unspent, goingOn⟩ := settled rfl
      rw [Deed.scripted_finalize isOpen (Or.inr acknowledged)] at scripted
      have settings : emptied.config = session.config := flushed.config_eq
      obtain ⟨closed, after, afterFound, finalized⟩ := concluded.follows serves steady leftFound
        inStepAfter (settings ▸ final) (unspent.trans scripted) goingOn rows.length attempts
        returned
      refine ⟨closed, after, afterFound, ?_⟩
      rw [decide_eq_true acknowledged] at sent
      rw [Protocol.step?_commit_buffered isOpen (by simpa [abstract] using waiting) sent]
      exact congrArg some finalized

end Session

end RowStream
