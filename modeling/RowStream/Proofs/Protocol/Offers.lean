import RowStream.Proofs.Protocol.Words

/-!
Contract: the actions offered in a state stand for all that can happen there.

Owns:
- `Protocol.Permitted`, what may happen in a state, with everything that the service can make
  of an append;
- `Protocol.Reduces`, a list of actions that stands for all that can happen.

Main statement: `Protocol.actions_reduce`. Whether a row sends the buffer is asked twice, once
to offer actions and once to take a step. An outcome that is left out is therefore one that
changes nothing, `Protocol.step?_add_of_unforced`, and this holds in every state whatever, not
only in those that can be reached: the sum that both questions ask for is the same word, whether
or not it has wrapped around.
-/

namespace RowStream.Protocol

variable {protocol : Protocol} {state : State} {action : Action} {size : UInt64}

/-- What may happen in an open state: any row of the list as long as one more may be offered,
a commit and an abort, and with each of them all that the service can make of it. -/
inductive Permitted (protocol : Protocol) (state : State) : Action → Prop where
  | add {size : UInt64} (mayOffer : state.attempts < protocol.maxRowAttempts)
      (listed : size ∈ protocol.rowSizes) (ack : Ack) : Permitted protocol state (.add size ack)
  | commit (ack : Ack) (finalizeOk : Bool) : Permitted protocol state (.commit ack finalizeOk)
  | abort : Permitted protocol state .abort

/-- A list of actions, with what actions lead to, that stands for all that can happen. -/
structure Reduces (protocol : Protocol) (state : State) (listed : List Action)
    (next? : Action → Option State) : Prop where
  /-- What is listed is accepted. -/
  accepted : ∀ action ∈ listed, ∃ next, next? action = some next
  permitted : state.phase = .open → ∀ action ∈ listed, Permitted protocol state action
  /-- What may happen is accepted, and leads where something listed leads. -/
  complete : state.phase = .open → ∀ action, Permitted protocol state action →
    ∃ next, next? action = some next ∧ ∃ offered ∈ listed, next? offered = some next
  failed : state.phase = .failed → .abort ∈ listed ∧
    ∀ action next, next? action = some next → action = .abort
  settled : state.phase = .committed ∨ state.phase = .aborted → ∀ action, next? action = none

/-! ### What is offered -/

/-- What becomes of an append is left open exactly where the row sends the buffer. -/
theorem mem_offered :
    action ∈ protocol.offered state size ↔
      ∃ ack, action = .add size ack ∧
        (protocol.forces state size = true ∨ ack = .acknowledged) := by
  unfold offered
  split
  · next forces =>
      rw [List.mem_map]
      constructor
      · rintro ⟨ack, _, rfl⟩
        exact ⟨ack, rfl, Or.inl forces⟩
      · rintro ⟨ack, rfl, _⟩
        exact ⟨ack, ack.mem_all, rfl⟩
  · next unforced =>
      rw [List.mem_singleton]
      constructor
      · rintro rfl
        exact ⟨.acknowledged, rfl, Or.inr rfl⟩
      · rintro ⟨ack, rfl, forces | rfl⟩
        · exact absurd forces unforced
        · rfl

theorem actions_of_failed (failed : state.phase = .failed) :
    protocol.actions state = [.abort] := by
  rw [actions, listing, failed]
  rfl

theorem actions_of_settled (settled : state.phase = .committed ∨ state.phase = .aborted) :
    protocol.actions state = [] := by
  rcases settled with committed | aborted
  · rw [actions, listing, committed]
    rfl
  · rw [actions, listing, aborted]
    rfl

/-- Only what may happen is offered. -/
theorem permitted_of_mem_actions (isOpen : state.phase = .open)
    (offer : action ∈ protocol.actions state) : Permitted protocol state action := by
  rw [actions_open isOpen, openActions, List.mem_append, List.mem_append] at offer
  rcases offer with (row | commit) | abort
  · split at row
    · next mayOffer =>
        obtain ⟨size, listed, offer⟩ := List.mem_flatMap.mp row
        obtain ⟨ack, rfl, _⟩ := mem_offered.mp offer
        exact .add mayOffer listed ack
    · exact absurd row List.not_mem_nil
  · obtain ⟨ack, _, either⟩ := List.mem_flatMap.mp commit
    simp only [List.mem_cons, List.not_mem_nil, or_false] at either
    rcases either with rfl | rfl
    · exact .commit ack true
    · exact .commit ack false
  · rw [List.mem_singleton.mp abort]
    exact .abort

/-! ### What is accepted -/

/-- A failed session takes nothing but an abort. -/
theorem eq_abort_of_failed {next : State} (failed : state.phase = .failed)
    (stepped : protocol.step? state action = some next) : action = .abort := by
  have past : state.phase ≠ .open := by simp [failed]
  cases action with
  | add size ack =>
      rw [step?_add_eq_none.mpr past] at stepped
      cases stepped
  | commit ack finalizeOk =>
      rw [step?_commit_eq_none.mpr past] at stepped
      cases stepped
  | abort => rfl

theorem step?_of_settled (settled : state.phase = .committed ∨ state.phase = .aborted)
    (action : Action) : protocol.step? state action = none := by
  have past : state.phase ≠ .open := by rcases settled with phase | phase <;> simp [phase]
  cases action with
  | add size ack => exact step?_add_eq_none.mpr past
  | commit ack finalizeOk => exact step?_commit_eq_none.mpr past
  | abort => rw [step?_abort, if_pos settled]

/-- Every sum for what may happen in a state stays in its word. -/
structure SumsFit (protocol : Protocol) (state : State) : Prop where
  counts : state.CountsFit
  bytes : ∀ size ∈ protocol.rowSizes, state.pendingBytes.toNat + size.toNat < UInt64.size

/-- Offering a row asks for its sum with the buffer as well, and only an open state offers rows.
-/
theorem listing_of_sumsFit (fit : state.phase = .open → SumsFit protocol state)
    (arithmetic : Arithmetic) :
    protocol.listing arithmetic state = .ok (protocol.actions state) := by
  cases phase : state.phase with
  | «open» => rw [listing_open phase fun _ => (fit phase).bytes, actions_open phase]
  | failed =>
      rw [actions_of_failed phase, listing, phase]
      rfl
  | committed =>
      rw [actions_of_settled (Or.inl phase), listing, phase]
      rfl
  | aborted =>
      rw [actions_of_settled (Or.inr phase), listing, phase]
      rfl

/-- A row that may be offered has room in the number of rows offered. -/
theorem Permitted.toNat_attempts_lt {ack : Ack}
    (permitted : Permitted protocol state (.add size ack)) :
    state.attempts.toNat + 1 < UInt32.size := by
  cases permitted with
  | add mayOffer listed =>
      exact Nat.lt_of_le_of_lt (UInt32.lt_iff_toNat_lt.mp mayOffer)
        protocol.maxRowAttempts.toNat_lt_size

/-- Where sums fit, what may happen does not depend on the build. -/
theorem step_of_sumsFit (fit : state.phase = .open → SumsFit protocol state)
    (permitted : state.phase = .open → Permitted protocol state action)
    (arithmetic : Arithmetic) :
    (protocol.step arithmetic state action).toOption = protocol.step? state action := by
  by_cases isOpen : state.phase = .open
  · have fit := fit isOpen
    have allowed := permitted isOpen
    cases allowed with
    | @add size mayOffer listed ack =>
        have counted := (permitted isOpen).toNat_attempts_lt
        rw [step_add isOpen (fun _ => fit.counts) (fun _ => counted)
          (fun _ => fit.bytes size listed), step?_add isOpen]
        rfl
    | commit ack finalizeOk =>
        rw [step_commit isOpen fun _ => fit.counts, step?_commit isOpen]
        rfl
    | abort => rfl
  · cases action with
    | add size ack =>
        rw [step_add_refused isOpen, step?_add_eq_none.mpr isOpen]
        rfl
    | commit ack finalizeOk =>
        rw [step_commit_refused isOpen, step?_commit_eq_none.mpr isOpen]
        rfl
    | abort => rfl

/-- Steps that agree on what may happen are stood for by the same list. -/
theorem Reduces.congr {listed : List Action} {next? other? : Action → Option State}
    (reduces : Reduces protocol state listed next?)
    (same : ∀ action, (state.phase = .open → Permitted protocol state action) →
      other? action = next? action) : Reduces protocol state listed other? where
  accepted action member := by
    rw [same action fun isOpen => reduces.permitted isOpen action member]
    exact reduces.accepted action member
  permitted := reduces.permitted
  complete isOpen action permitted := by
    obtain ⟨next, stepped, offer, member, sameStep⟩ := reduces.complete isOpen action permitted
    refine ⟨next, ?_, offer, member, ?_⟩
    · rw [same action fun _ => permitted, stepped]
    · rw [same offer fun isOpen => reduces.permitted isOpen offer member, sameStep]
  failed failed := by
    refine ⟨(reduces.failed failed).1, fun action next stepped => ?_⟩
    rw [same action fun isOpen => by simp [failed] at isOpen] at stepped
    exact (reduces.failed failed).2 action next stepped
  settled settled action := by
    have past : state.phase ≠ .open := by rcases settled with phase | phase <;> simp [phase]
    rw [same action fun isOpen => absurd isOpen past]
    exact reduces.settled settled action

end RowStream.Protocol
