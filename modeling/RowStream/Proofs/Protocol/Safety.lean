import RowStream.Proofs.Protocol.Offers

/-!
Contract: the protocol is safe in every state that can be reached.

Owns:
- `Protocol.Step`, everything that an accepted action can come to;
- `Protocol.Reachable`, the states that offered actions lead to;
- `Protocol.Sound`, the invariant that carries the safety of a step.

Main statements: `Protocol.safe_of_reachable`, and `Protocol.listing_of_reachable` for a build
that checks its sums. None of the five properties is kept by a step on its own. What carries
them is that an open session counts exactly the rows that the service has, so that a flush is
stored and a finalization reports the count it should.

The counts of rows stay below the number of rows offered, and so within their words. Sizes may
be any words at all: the total of the buffer wraps around where the sum of its sizes does.
-/

namespace RowStream.Protocol

variable {protocol : Protocol} {state next : State} {action : Action}

namespace State

def giveUp (state : State) : State :=
  { state with pending := [], pendingBytes := 0, phase := .aborted }

theorem toNat_attempts_offer (counted : state.attempts.toNat + 1 < UInt32.size) :
    state.offer.attempts.toNat = state.attempts.toNat + 1 := by
  show (state.attempts + 1).toNat = state.attempts.toNat + 1
  rw [UInt32.toNat_add, UInt32.toNat_one]
  exact Nat.mod_eq_of_lt counted

theorem toNat_add_pendingRows {count : UInt64}
    (fits : count.toNat + state.pending.length < UInt64.size) :
    (count + state.pendingRows).toNat = count.toNat + state.pending.length := by
  have rows : state.pendingRows.toNat = state.pending.length :=
    UInt64.toNat_ofNat_of_lt' (by omega)
  rw [UInt64.toNat_add, rows]
  exact Nat.mod_eq_of_lt fits

theorem bufferedBytes_enqueue (size : UInt64) (state : State) :
    (state.enqueue size).bufferedBytes = state.bufferedBytes + size := by
  simp [bufferedBytes, enqueue, List.foldl_append]

/-- What becomes of a buffer that is sent to where the stream ends. -/
inductive Flush (state : State) : Bool × State → Prop where
  | acknowledged : Flush state (true, state.acknowledge)
  | lost : Flush state (false, state.fail)
  | doubtful :
      Flush state
        (false, { state with serverRows := state.serverRows + state.pendingRows }.fail)

/-- All that sending the buffer can come to while the session knows where the stream ends. -/
theorem flush_of_synchronized (ack : Ack) (synchronized : state.committed = state.serverRows) :
    Flush state (state.sent ack) := by
  have inPlace : state.synchronized = true := beq_iff_eq.mpr synchronized
  cases ack with
  | acknowledged =>
      rw [sent, if_pos inPlace]
      exact .acknowledged
  | serverError => exact .lost
  | offsetSkew =>
      rw [sent, overtake, if_pos inPlace]
      exact .doubtful
  | responseDropped =>
      rw [sent, overtake, if_pos inPlace]
      exact .doubtful

end State

/-! ### Steps -/

inductive Step (protocol : Protocol) (state : State) : Action → State → Prop where
  | buffered {size : UInt64} {ack : Ack} (isOpen : state.phase = .open)
      (fits : state.pendingBytes + size ≤ protocol.ceiling) :
      Step protocol state (.add size ack) (state.offer.enqueue size)
  | tooLarge {size : UInt64} {ack : Ack} (isOpen : state.phase = .open)
      (overflows : protocol.ceiling < state.pendingBytes + size)
      (large : protocol.ceiling < size) : Step protocol state (.add size ack) state.offer
  | stuck {size : UInt64} {ack : Ack} {failed : State} (isOpen : state.phase = .open)
      (overflows : protocol.ceiling < state.pendingBytes + size) (fits : size ≤ protocol.ceiling)
      (sent : state.offer.sent ack = (false, failed)) :
      Step protocol state (.add size ack) failed
  | flushed {size : UInt64} {ack : Ack} {emptied : State} (isOpen : state.phase = .open)
      (overflows : protocol.ceiling < state.pendingBytes + size) (fits : size ≤ protocol.ceiling)
      (sent : state.offer.sent ack = (true, emptied)) :
      Step protocol state (.add size ack) (emptied.enqueue size)
  | unbuffered {ack : Ack} {finalizeOk : Bool} (isOpen : state.phase = .open)
      (empty : state.pending = []) :
      Step protocol state (.commit ack finalizeOk) (state.finalize finalizeOk)
  | uncommitted {ack : Ack} {finalizeOk : Bool} {failed : State} (isOpen : state.phase = .open)
      (waiting : state.pending ≠ []) (sent : state.sent ack = (false, failed)) :
      Step protocol state (.commit ack finalizeOk) failed
  | concluded {ack : Ack} {finalizeOk : Bool} {emptied : State} (isOpen : state.phase = .open)
      (waiting : state.pending ≠ []) (sent : state.sent ack = (true, emptied)) :
      Step protocol state (.commit ack finalizeOk) (emptied.finalize finalizeOk)
  | aborted (uncommitted : state.phase ≠ .committed) (unaborted : state.phase ≠ .aborted) :
      Step protocol state .abort state.giveUp

theorem step_of_step? (stepped : protocol.step? state action = some next) :
    Step protocol state action next := by
  cases action with
  | add size ack =>
      have isOpen := phase_open_of_step? stepped (by simp)
      rw [step?_add isOpen, Option.some.injEq] at stepped
      rw [← stepped]
      split
      · next fits => exact .buffered isOpen fits
      · next overflows =>
          have overflows := UInt64.not_le.mp overflows
          split
          · next large => exact .tooLarge isOpen overflows large
          · next fits =>
              have fits := UInt64.not_lt.mp fits
              cases sent : state.offer.sent ack with
              | mk goesOn flushed =>
                cases goesOn with
                | false => exact .stuck isOpen overflows fits sent
                | true => exact .flushed isOpen overflows fits sent
  | commit ack finalizeOk =>
      have isOpen := phase_open_of_step? stepped (by simp)
      rw [step?_commit isOpen, Option.some.injEq] at stepped
      rw [← stepped]
      split
      · next empty => exact .unbuffered isOpen (List.isEmpty_iff.mp empty)
      · next waiting =>
          have waiting : state.pending ≠ [] := fun empty =>
            waiting (List.isEmpty_iff.mpr empty)
          cases sent : state.sent ack with
          | mk goesOn flushed =>
            cases goesOn with
            | false => exact .uncommitted isOpen waiting sent
            | true => exact .concluded isOpen waiting sent
  | abort =>
      rw [step?_abort] at stepped
      split at stepped
      · cases stepped
      · next unsettled =>
          rw [← Option.some.inj stepped]
          obtain ⟨uncommitted, unaborted⟩ := not_or.mp unsettled
          exact .aborted uncommitted unaborted

/-! ### The invariant -/

structure Sound (protocol : Protocol) (state : State) : Prop where
  bytes_eq : state.bufferedBytes = state.pendingBytes
  bytes_le : state.pendingBytes ≤ protocol.ceiling
  stored : state.committed ≤ state.serverRows
  divided : state.phase ≠ .aborted →
    state.committed.toNat + state.pending.length = state.accepted.toNat
  offered : state.accepted.toNat ≤ state.attempts.toNat
  inStep : state.phase = .open → state.committed = state.serverRows
  complete : CommittedComplete state
  unfinalized : state.phase ≠ .committed → state.serverFinalized = none

namespace Sound

theorem initial (protocol : Protocol) : Sound protocol initial where
  bytes_eq := rfl
  bytes_le := UInt64.zero_le
  stored := UInt64.le_refl _
  divided _ := rfl
  offered := Nat.le_refl _
  inStep _ := rfl
  complete := by simp [CommittedComplete, Protocol.initial]
  unfinalized _ := rfl

/-- No count leaves its word, for that of the rows offered is one of half the width. -/
theorem accepted_lt (sound : Sound protocol state) : state.accepted.toNat + 1 < UInt64.size := by
  have words : UInt32.size + 1 < UInt64.size := by decide
  have offered := sound.offered
  have last := state.attempts.toNat_lt_size
  omega

/-- The rows of the buffer and those that were committed are the accepted ones. -/
theorem committed_add (sound : Sound protocol state) (unaborted : state.phase ≠ .aborted) :
    state.committed + state.pendingRows = state.accepted := by
  have fits := sound.accepted_lt
  rw [← sound.divided unaborted] at fits
  apply UInt64.toNat_inj.mp
  rw [State.toNat_add_pendingRows (by omega), sound.divided unaborted]

theorem offer (sound : Sound protocol state)
    (counted : state.attempts.toNat + 1 < UInt32.size) : Sound protocol state.offer where
  bytes_eq := sound.bytes_eq
  bytes_le := sound.bytes_le
  stored := sound.stored
  divided := sound.divided
  offered := by
    rw [State.toNat_attempts_offer counted]
    exact Nat.le_succ_of_le sound.offered
  inStep := sound.inStep
  complete := sound.complete
  unfinalized := sound.unfinalized

/-- A row enters the buffer after it was offered, and so is not yet among the accepted ones. -/
theorem enqueue (sound : Sound protocol state) (isOpen : state.phase = .open)
    (spare : state.accepted.toNat < state.attempts.toNat) {size : UInt64}
    (fits : state.pendingBytes + size ≤ protocol.ceiling) :
    Sound protocol (state.enqueue size) := by
  have oneMore : (state.enqueue size).accepted.toNat = state.accepted.toNat + 1 := by
    show (state.accepted + 1).toNat = state.accepted.toNat + 1
    rw [UInt64.toNat_add, UInt64.toNat_one]
    exact Nat.mod_eq_of_lt sound.accepted_lt
  exact
    { bytes_eq := by
        rw [State.bufferedBytes_enqueue, sound.bytes_eq]
        rfl
      bytes_le := fits
      stored := sound.stored
      divided := fun _ => by
        have divided := sound.divided (by simp [isOpen])
        rw [oneMore]
        simp only [State.enqueue, List.length_append, List.length_singleton]
        omega
      offered := by
        rw [oneMore]
        exact spare
      inStep := sound.inStep
      complete := by simp [CommittedComplete, State.enqueue, isOpen]
      unfinalized := sound.unfinalized }

theorem acknowledge (sound : Sound protocol state) (isOpen : state.phase = .open) :
    Sound protocol state.acknowledge where
  bytes_eq := rfl
  bytes_le := UInt64.zero_le
  stored := by
    show state.committed + state.pendingRows ≤ state.serverRows + state.pendingRows
    rw [sound.inStep isOpen]
    exact UInt64.le_refl _
  divided _ := congrArg UInt64.toNat (sound.committed_add (by simp [isOpen]))
  offered := sound.offered
  inStep _ := congrArg (· + state.pendingRows) (sound.inStep isOpen)
  complete := by simp [CommittedComplete, State.acknowledge, isOpen]
  unfinalized := sound.unfinalized

/-- Only an open session fails, and the service may have more rows than it knows of. -/
theorem fail (sound : Sound protocol state) (isOpen : state.phase = .open) {rows : UInt64}
    (grown : state.serverRows ≤ rows) :
    Sound protocol { state with serverRows := rows }.fail where
  bytes_eq := sound.bytes_eq
  bytes_le := sound.bytes_le
  stored := UInt64.le_trans sound.stored grown
  divided _ := sound.divided (by simp [isOpen])
  offered := sound.offered
  inStep := by simp [State.fail]
  complete := by simp [CommittedComplete, State.fail]
  unfinalized _ := sound.unfinalized (by simp [isOpen])

/-- What the service has of an open session does not wrap around with the buffer. -/
theorem serverRows_le (sound : Sound protocol state) (isOpen : state.phase = .open) :
    state.serverRows ≤ state.serverRows + state.pendingRows := by
  have divided := sound.divided (by simp [isOpen])
  have fits := sound.accepted_lt
  rw [← sound.inStep isOpen, UInt64.le_iff_toNat_le,
    State.toNat_add_pendingRows (by omega)]
  exact Nat.le_add_right _ _

theorem flush (sound : Sound protocol state) (isOpen : state.phase = .open) {ack : Ack}
    {goesOn : Bool} {flushed : State} (sent : state.sent ack = (goesOn, flushed)) :
    Sound protocol flushed ∧
      (goesOn = true → flushed.phase = .open ∧ flushed.pending = [] ∧
        flushed.pendingBytes = 0 ∧ flushed.accepted = state.accepted ∧
        flushed.attempts = state.attempts) := by
  have fate := State.flush_of_synchronized ack (sound.inStep isOpen)
  rw [sent] at fate
  cases fate with
  | acknowledged => exact ⟨sound.acknowledge isOpen, fun _ => ⟨isOpen, rfl, rfl, rfl, rfl⟩⟩
  | lost => exact ⟨sound.fail isOpen (UInt64.le_refl _), by simp⟩
  | doubtful => exact ⟨sound.fail isOpen (sound.serverRows_le isOpen), by simp⟩

/-- A finalization of an open session with an empty buffer cannot report another count. -/
theorem finalize (sound : Sound protocol state) (isOpen : state.phase = .open)
    (empty : state.pending = []) (finalizeOk : Bool) :
    Sound protocol (state.finalize finalizeOk) := by
  have inStep := sound.inStep isOpen
  have divided := sound.divided (by simp [isOpen])
  rw [empty, List.length_nil, Nat.add_zero] at divided
  cases finalizeOk with
  | false => exact sound.fail isOpen (UInt64.le_refl _)
  | true =>
      have counts : state.serverRows = state.accepted :=
        inStep.symm.trans (UInt64.toNat_inj.mp divided)
      simp only [State.finalize, Bool.not_true, Bool.false_eq_true, if_false]
      rw [if_pos inStep.symm]
      exact
        { bytes_eq := sound.bytes_eq
          bytes_le := sound.bytes_le
          stored := sound.stored
          divided := fun _ => sound.divided (by simp [isOpen])
          offered := sound.offered
          inStep := by simp
          complete := fun _ => ⟨congrArg some counts, congrArg some counts, counts⟩
          unfinalized := by simp }

/-- Giving up keeps what the service has. -/
theorem giveUp (sound : Sound protocol state) (uncommitted : state.phase ≠ .committed) :
    Sound protocol state.giveUp where
  bytes_eq := rfl
  bytes_le := UInt64.zero_le
  stored := sound.stored
  divided := by simp [State.giveUp]
  offered := sound.offered
  inStep := by simp [State.giveUp]
  complete := by simp [CommittedComplete, State.giveUp]
  unfinalized _ := sound.unfinalized uncommitted

/-- No step leaves the invariant. Only the number of rows offered is asked to have room: that the
other sums stay in their words follows from the invariant. -/
theorem step (sound : Sound protocol state)
    (counted : ∀ size ack, action = .add size ack → state.attempts.toNat + 1 < UInt32.size)
    (step : Step protocol state action next) : Sound protocol next := by
  cases step with
  | @buffered size ack isOpen fits =>
      have counted := counted size ack rfl
      have offered := sound.offered
      refine (sound.offer counted).enqueue isOpen ?_ fits
      rw [State.toNat_attempts_offer counted]
      exact Nat.lt_succ_of_le offered
  | @tooLarge size ack isOpen overflows large => exact sound.offer (counted size ack rfl)
  | @stuck size ack failed isOpen overflows fits sent =>
      exact ((sound.offer (counted size ack rfl)).flush isOpen sent).1
  | @flushed size ack emptied isOpen overflows fits sent =>
      have counted := counted size ack rfl
      have offered := sound.offered
      obtain ⟨flushed, goesOn⟩ := (sound.offer counted).flush isOpen sent
      obtain ⟨stillOpen, _, empty, accepted, attempts⟩ := goesOn rfl
      refine flushed.enqueue stillOpen ?_ ?_
      · rw [accepted, attempts, State.toNat_attempts_offer counted]
        exact Nat.lt_succ_of_le offered
      · rw [empty, UInt64.zero_add]
        exact fits
  | unbuffered isOpen empty => exact sound.finalize isOpen empty _
  | uncommitted isOpen waiting sent => exact (sound.flush isOpen sent).1
  | concluded isOpen waiting sent =>
      obtain ⟨flushed, goesOn⟩ := sound.flush isOpen sent
      obtain ⟨stillOpen, emptied, _⟩ := goesOn rfl
      exact flushed.finalize stillOpen emptied _
  | aborted uncommitted unaborted => exact sound.giveUp uncommitted

end Sound

/-! ### Reachable states -/

/-- A state that offered actions lead to from the initial one. -/
inductive Reachable (protocol : Protocol) : State → Prop where
  | initial : Reachable protocol initial
  | step {state next : State} {action : Action} (reachable : Reachable protocol state)
      (offered : action ∈ protocol.actions state)
      (stepped : protocol.step? state action = some next) : Reachable protocol next

theorem Reachable.sound (reachable : Reachable protocol state) : Sound protocol state := by
  induction reachable with
  | initial => exact Sound.initial protocol
  | step reachable offered stepped inductionHypothesis =>
      refine inductionHypothesis.step (fun size ack adding => ?_) (step_of_step? stepped)
      subst adding
      have isOpen := phase_open_of_step? stepped (by simp)
      exact (permitted_of_mem_actions isOpen offered).toNat_attempts_lt

/-- The counts of an open session stay in their words, and so does the buffer with one more row
if the ceiling does with it. -/
theorem Sound.sumsFit (sound : Sound protocol state) (isOpen : state.phase = .open)
    (bounded : ∀ size ∈ protocol.rowSizes,
      protocol.ceiling.toNat + size.toNat < UInt64.size) : SumsFit protocol state := by
  have divided := sound.divided (by simp [isOpen])
  have inStep := congrArg UInt64.toNat (sound.inStep isOpen)
  have fits := sound.accepted_lt
  refine ⟨⟨fits, by omega, by omega⟩, fun size listed => ?_⟩
  have within := UInt64.le_iff_toNat_le.mp sound.bytes_le
  have bounded := bounded size listed
  omega

/-- As long as the ceiling and one more row stay in a word, a build that checks its sums is never
stopped: in a reachable state it offers the same actions, and they lead where they lead without
the checks. -/
theorem listing_of_reachable (reachable : Reachable protocol state)
    (bounded : ∀ size ∈ protocol.rowSizes,
      protocol.ceiling.toNat + size.toNat < UInt64.size) :
    protocol.listing .checked state = .ok (protocol.actions state) ∧
      ∀ action ∈ protocol.actions state,
        (protocol.step .checked state action).toOption = protocol.step? state action := by
  have fit := fun isOpen => reachable.sound.sumsFit isOpen bounded
  refine ⟨listing_of_sumsFit fit .checked, fun action offered => ?_⟩
  exact step_of_sumsFit fit (fun isOpen => permitted_of_mem_actions isOpen offered) .checked

/-- Whatever the ceiling, the sizes of the rows and their number: all that is to hold always
holds in every reachable state. -/
theorem safe_of_reachable (reachable : Reachable protocol state) :
    BufferBounded protocol state ∧ PendingConsistent state ∧ AcknowledgedStored state ∧
      CommittedComplete state ∧ FinalizedCommitted state := by
  have sound := reachable.sound
  refine ⟨sound.bytes_le, ⟨sound.bytes_eq, ?_⟩, sound.stored, sound.complete, ?_⟩
  · by_cases isAborted : state.phase = .aborted
    · exact Or.inl isAborted
    · exact Or.inr (sound.committed_add isAborted)
  · by_cases isCommitted : state.phase = .committed
    · exact Or.inr isCommitted
    · exact Or.inl (sound.unfinalized isCommitted)

/-- An empty row and one that fills the ceiling, one that is too large, and a last one whose
append is stored and acknowledged at another offset. -/
theorem safe_of_reachable_skew :
    ∃ state, Reachable ⟨3, [0, 3, 4], 4⟩ state ∧ state.phase = .failed ∧ state.committed = 0 ∧
      state.serverRows = 2 ∧ state.accepted = 2 ∧
      BufferBounded ⟨3, [0, 3, 4], 4⟩ state ∧ PendingConsistent state ∧
      AcknowledgedStored state ∧ CommittedComplete state ∧ FinalizedCommitted state := by
  have ran : ∃ state, Reachable ⟨3, [0, 3, 4], 4⟩ state ∧ state.phase = .failed ∧
      state.committed = 0 ∧ state.serverRows = 2 ∧ state.accepted = 2 := by
    have empty := @Reachable.step ⟨3, [0, 3, 4], 4⟩ _ _ (.add 0 .acknowledged) .initial
      (by decide) rfl
    have full := @Reachable.step _ _ _ (.add 3 .acknowledged) empty (by decide) rfl
    have tooLarge := @Reachable.step _ _ _ (.add 4 .acknowledged) full (by decide) rfl
    have skewed := @Reachable.step _ _ _ (.add 3 .offsetSkew) tooLarge (by decide) rfl
    exact ⟨_, skewed, rfl, rfl, rfl, rfl⟩
  obtain ⟨state, reachable, failed, committed, stored, accepted⟩ := ran
  exact ⟨state, reachable, failed, committed, stored, accepted, safe_of_reachable reachable⟩

end RowStream.Protocol
