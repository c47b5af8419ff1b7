import RowStream.Proofs.Protocol.Offers
import RowStream.Proofs.Protocol.Safety
import RowStream.Protocol.Walk

/-!
Contract: walking through the protocol ends.

Owns:
- `Protocol.Path`, offered actions one after the other;
- `Protocol.budget`, how many offered actions can still follow;
- `Protocol.frontier`, the levels of the walk without a bound on their number.

Main statement: `Protocol.exploration_ends`. A step takes from the budget of its state whether
the row is stored, refused or lost, `Protocol.budget_lt_of_offered`, so that no path is longer
than the budget of the initial state. The levels of the walk are the ends of such paths: past
the longest one they are empty, and the bound built into the walk is never what ends it.
-/

namespace RowStream.Protocol

variable {protocol : Protocol} {state next last : State} {action : Action}

/-! ### The budget of a state -/

/-- How many offered actions can still follow: an open session has the rows left to be offered,
a commit that may fail, and an abort; a failed one has its abort. -/
def budget (protocol : Protocol) (state : State) : Nat :=
  match state.phase with
  | .open => protocol.maxRowAttempts.toNat - state.attempts.toNat + 2
  | .failed => 1
  | .committed => 0
  | .aborted => 0

theorem budget_of_open (isOpen : state.phase = .open) :
    protocol.budget state = protocol.maxRowAttempts.toNat - state.attempts.toNat + 2 := by
  simp [budget, isOpen]

theorem budget_of_failed (failed : state.phase = .failed) : protocol.budget state = 1 := by
  simp [budget, failed]

theorem budget_of_terminal (terminal : state.phase = .committed ∨ state.phase = .aborted) :
    protocol.budget state = 0 := by
  rcases terminal with committed | aborted
  · simp [budget, committed]
  · simp [budget, aborted]

namespace State

/-- A buffer that is sent leaves the session as far as it was, or fails it. -/
theorem phase_sent {ack : Ack} {goesOn : Bool} {flushed : State}
    (sent : state.sent ack = (goesOn, flushed)) :
    if goesOn then flushed.phase = state.phase ∧ flushed.attempts = state.attempts
    else flushed.phase = .failed := by
  cases ack with
  | acknowledged =>
      rw [State.sent] at sent
      split at sent
      · cases sent
        exact ⟨rfl, rfl⟩
      · cases sent
        rfl
  | serverError =>
      cases sent
      rfl
  | offsetSkew =>
      cases sent
      rfl
  | responseDropped =>
      cases sent
      rfl

theorem phase_finalize (finalizeOk : Bool) (state : State) :
    (state.finalize finalizeOk).phase = .committed ∨
      (state.finalize finalizeOk).phase = .failed := by
  unfold finalize
  split
  · exact Or.inr rfl
  · dsimp only
    split
    · exact Or.inl rfl
    · exact Or.inr rfl

end State

/-- An open session stays open only by a row, which is counted. -/
theorem Step.counted_or_settled (step : Step protocol state action next)
    (isOpen : state.phase = .open) :
    (∃ size ack, action = .add size ack) ∧ next.phase = .open ∧
        next.attempts = state.attempts + 1 ∨
      next.phase = .failed ∨ next.phase = .committed ∨ next.phase = .aborted := by
  cases step with
  | buffered => exact Or.inl ⟨⟨_, _, rfl⟩, isOpen, rfl⟩
  | tooLarge => exact Or.inl ⟨⟨_, _, rfl⟩, isOpen, rfl⟩
  | stuck _ _ _ sent => exact Or.inr (Or.inl (State.phase_sent sent))
  | flushed _ _ _ sent =>
      obtain ⟨phase, attempts⟩ := State.phase_sent sent
      exact Or.inl ⟨⟨_, _, rfl⟩, phase.trans isOpen, attempts⟩
  | unbuffered =>
      rcases State.phase_finalize _ state with committed | failed
      · exact Or.inr (Or.inr (Or.inl committed))
      · exact Or.inr (Or.inl failed)
  | uncommitted _ _ sent => exact Or.inr (Or.inl (State.phase_sent sent))
  | @concluded _ _ emptied =>
      rcases State.phase_finalize _ emptied with committed | failed
      · exact Or.inr (Or.inr (Or.inl committed))
      · exact Or.inr (Or.inl failed)
  | aborted => exact Or.inr (Or.inr (Or.inr rfl))

/-- Every offered action takes from the budget. -/
theorem budget_lt_of_offered (offered : action ∈ protocol.actions state)
    (stepped : protocol.step? state action = some next) :
    protocol.budget next < protocol.budget state := by
  cases phase : state.phase with
  | «open» =>
      rw [budget_of_open phase]
      rcases (step_of_step? stepped).counted_or_settled phase with
        ⟨⟨size, ack, rfl⟩, isOpen, attempts⟩ | failed | terminal
      · have permitted := permitted_of_mem_actions phase offered
        have counted : next.attempts.toNat = state.attempts.toNat + 1 :=
          (congrArg UInt32.toNat attempts).trans
            (State.toNat_attempts_offer permitted.toNat_attempts_lt)
        cases permitted with
        | add mayOffer =>
            have mayOffer := UInt32.lt_iff_toNat_lt.mp mayOffer
            rw [budget_of_open isOpen]
            omega
      · rw [budget_of_failed failed]
        omega
      · rw [budget_of_terminal terminal]
        omega
  | failed =>
      have onlyAbort := eq_abort_of_failed phase stepped
      subst onlyAbort
      have terminal : next.phase = .aborted := by
        cases step_of_step? stepped with
        | aborted => rfl
      rw [budget_of_failed phase, budget_of_terminal (Or.inr terminal)]
      decide
  | committed => simp [step?_of_settled (Or.inl phase)] at stepped
  | aborted => simp [step?_of_settled (Or.inr phase)] at stepped

/-! ### Paths -/

inductive Path (protocol : Protocol) : State → List Action → State → Prop where
  | none (state : State) : Path protocol state [] state
  | next {state next last : State} {action : Action} {rest : List Action}
      (offered : action ∈ protocol.actions state)
      (stepped : protocol.step? state action = some next) (path : Path protocol next rest last) :
      Path protocol state (action :: rest) last

/-- Every step of a path is paid for out of the budget. -/
theorem Path.length_add_budget_le {actions : List Action}
    (path : Path protocol state actions last) :
    actions.length + protocol.budget last ≤ protocol.budget state := by
  induction path with
  | none state => simp
  | next offered stepped path inductionHypothesis =>
      have less := budget_lt_of_offered offered stepped
      rw [List.length_cons]
      omega

theorem Path.concat {actions : List Action} (path : Path protocol state actions last)
    (offered : action ∈ protocol.actions last)
    (stepped : protocol.step? last action = some next) :
    Path protocol state (actions ++ [action]) next := by
  induction path with
  | none state => exact .next offered stepped (.none next)
  | next first taken path inductionHypothesis =>
      exact .next first taken (inductionHypothesis offered stepped)

theorem Path.reachable {actions : List Action} (path : Path protocol state actions last)
    (reachable : Reachable protocol state) : Reachable protocol last := by
  induction path with
  | none state => exact reachable
  | next offered stepped path inductionHypothesis =>
      exact inductionHypothesis (.step reachable offered stepped)

theorem budget_initial (protocol : Protocol) :
    protocol.budget initial = protocol.maxRowAttempts.toNat + 2 := rfl

/-! ### The walk -/

theorem mem_successors :
    next ∈ protocol.successors state ↔
      ∃ action ∈ protocol.actions state, protocol.step? state action = some next := by
  rw [successors, List.mem_filterMap]

/-- What is discovered among the given states is what was not seen. -/
theorem mem_discover (states : List State) (seen : Std.HashSet State) :
    state ∈ (discover seen states).1 ↔ state ∈ states ∧ state ∉ seen := by
  induction states generalizing seen with
  | nil => simp [discover]
  | cons first rest inductionHypothesis =>
      rw [discover]
      split
      · next known =>
          have known : first ∈ seen := known
          rw [inductionHypothesis, List.mem_cons]
          grind
      · next unknown =>
          have unknown : first ∉ seen := unknown
          simp only [List.mem_cons, inductionHypothesis, Std.HashSet.mem_insert, beq_iff_eq]
          grind

/-- All of the given states have been seen afterwards. -/
theorem mem_seen_discover (states : List State) (seen : Std.HashSet State) :
    state ∈ (discover seen states).2 ↔ state ∈ states ∨ state ∈ seen := by
  induction states generalizing seen with
  | nil => simp [discover]
  | cons first rest inductionHypothesis =>
      rw [discover]
      split
      · next known =>
          have known : first ∈ seen := known
          rw [inductionHypothesis, List.mem_cons]
          grind
      · next unknown =>
          simp only [List.mem_cons, inductionHypothesis, Std.HashSet.mem_insert, beq_iff_eq]
          grind

/-- The level at a distance, with all that was seen up to it. -/
def frontier (protocol : Protocol) : Nat → List State × Std.HashSet State
  | 0 => discover {} [initial]
  | distance + 1 =>
      discover (protocol.frontier distance).2
        ((protocol.frontier distance).1.flatMap protocol.successors)

theorem mem_frontier_zero : state ∈ (protocol.frontier 0).1 ↔ state = initial := by
  simp [frontier, mem_discover]

theorem mem_frontier_succ {distance : Nat} :
    next ∈ (protocol.frontier (distance + 1)).1 ↔
      (∃ state ∈ (protocol.frontier distance).1, next ∈ protocol.successors state) ∧
        next ∉ (protocol.frontier distance).2 := by
  rw [frontier, mem_discover, List.mem_flatMap]

/-- What was seen is what lies on some level so far. -/
theorem mem_seen_frontier {distance : Nat} :
    state ∈ (protocol.frontier distance).2 ↔
      ∃ nearer ≤ distance, state ∈ (protocol.frontier nearer).1 := by
  induction distance with
  | zero => simp [frontier, mem_seen_discover, mem_discover]
  | succ distance inductionHypothesis =>
      have seen : state ∈ (protocol.frontier (distance + 1)).2 ↔
          (∃ before ∈ (protocol.frontier distance).1, state ∈ protocol.successors before) ∨
            state ∈ (protocol.frontier distance).2 := by
        rw [frontier, mem_seen_discover, List.mem_flatMap]
      rw [seen]
      constructor
      · intro either
        by_cases old : state ∈ (protocol.frontier distance).2
        · obtain ⟨nearer, near, member⟩ := inductionHypothesis.mp old
          exact ⟨nearer, Nat.le_succ_of_le near, member⟩
        · exact ⟨distance + 1, Nat.le_refl _,
            mem_frontier_succ.mpr ⟨either.resolve_right old, old⟩⟩
      · rintro ⟨nearer, near, member⟩
        rcases Nat.le_succ_iff.mp near with before | rfl
        · exact Or.inr (inductionHypothesis.mpr ⟨nearer, before, member⟩)
        · exact Or.inl (mem_frontier_succ.mp member).1

/-- The states of a level are the ends of paths of its distance. -/
theorem exists_path_of_mem_frontier {distance : Nat}
    (member : state ∈ (protocol.frontier distance).1) :
    ∃ actions, actions.length = distance ∧ Path protocol initial actions state := by
  induction distance generalizing state with
  | zero =>
      rw [mem_frontier_zero.mp member]
      exact ⟨[], rfl, .none initial⟩
  | succ distance inductionHypothesis =>
      obtain ⟨⟨before, level, successor⟩, _⟩ := mem_frontier_succ.mp member
      obtain ⟨actions, length, path⟩ := inductionHypothesis level
      obtain ⟨action, offered, stepped⟩ := mem_successors.mp successor
      exact ⟨actions ++ [action], by simp [length], path.concat offered stepped⟩

/-- No reachable state is missed: where a state was seen, so are its successors one level on. -/
theorem exists_mem_frontier (reachable : Reachable protocol state) :
    ∃ distance, state ∈ (protocol.frontier distance).1 := by
  induction reachable with
  | initial => exact ⟨0, mem_frontier_zero.mpr rfl⟩
  | @step state next action reachable offered stepped inductionHypothesis =>
      obtain ⟨distance, member⟩ := inductionHypothesis
      by_cases old : next ∈ (protocol.frontier distance).2
      · obtain ⟨nearer, _, found⟩ := mem_seen_frontier.mp old
        exact ⟨nearer, found⟩
      · have successor := mem_successors.mpr ⟨action, offered, stepped⟩
        exact ⟨distance + 1, mem_frontier_succ.mpr ⟨⟨state, member, successor⟩, old⟩⟩

/-- No state is first met further from the start than the budget of the start. -/
theorem distance_le_of_mem_frontier {distance : Nat}
    (member : state ∈ (protocol.frontier distance).1) :
    distance ≤ protocol.maxRowAttempts.toNat + 2 := by
  obtain ⟨actions, length, path⟩ := exists_path_of_mem_frontier member
  have bounded := path.length_add_budget_le
  rw [budget_initial] at bounded
  omega

theorem frontier_eq_nil {distance : Nat} (far : protocol.maxRowAttempts.toNat + 2 < distance) :
    (protocol.frontier distance).1 = [] := by
  apply List.eq_nil_iff_forall_not_mem.mpr
  intro state member
  exact Nat.not_lt.mpr (distance_le_of_mem_frontier member) far

/-- An empty level has only empty ones after it. -/
theorem frontier_eq_nil_of_le {distance further : Nat} (farther : distance ≤ further)
    (empty : (protocol.frontier distance).1 = []) : (protocol.frontier further).1 = [] := by
  induction farther with
  | refl => exact empty
  | step farther inductionHypothesis =>
      rw [frontier, inductionHypothesis, List.flatMap_nil, discover]

def levelsPast (protocol : Protocol) (fuel distance : Nat) : List (List State) :=
  protocol.levelsFrom fuel (protocol.frontier distance).1 (protocol.frontier distance).2

theorem levelsPast_succ (fuel distance : Nat) :
    protocol.levelsPast (fuel + 1) distance =
      if (protocol.frontier distance).1.isEmpty then []
      else (protocol.frontier distance).1 :: protocol.levelsPast fuel (distance + 1) := rfl

theorem levelsPast_of_empty (fuel : Nat) {distance : Nat}
    (empty : (protocol.frontier distance).1 = []) : protocol.levelsPast fuel distance = [] := by
  cases fuel with
  | zero => rfl
  | succ fuel => simp [levelsPast_succ, empty]

/-- The bound on the number of levels does not matter once it covers all that are not empty. -/
theorem levelsPast_succ_eq {fuel distance : Nat}
    (enough : protocol.maxRowAttempts.toNat + 3 ≤ distance + fuel) :
    protocol.levelsPast (fuel + 1) distance = protocol.levelsPast fuel distance := by
  induction fuel generalizing distance with
  | zero =>
      have far : protocol.maxRowAttempts.toNat + 2 < distance := by omega
      have empty := frontier_eq_nil far
      rw [levelsPast_of_empty _ empty, levelsPast_of_empty _ empty]
  | succ fuel inductionHypothesis =>
      rw [levelsPast_succ (fuel + 1) distance, levelsPast_succ fuel distance,
        inductionHypothesis (by omega)]

/-- More rounds than the budget find no more. -/
theorem levelsPast_eq_levels {fuel : Nat} (enough : protocol.maxRowAttempts.toNat + 3 ≤ fuel) :
    protocol.levelsPast fuel 0 = protocol.levels := by
  have least : protocol.levelsPast (protocol.maxRowAttempts.toNat + 3) 0 = protocol.levels :=
    (levelsPast_succ_eq (by omega)).symm
  induction fuel with
  | zero => omega
  | succ fuel inductionHypothesis =>
      rcases Nat.lt_or_ge fuel (protocol.maxRowAttempts.toNat + 3) with few | many
      · have same : fuel + 1 = protocol.maxRowAttempts.toNat + 3 := by omega
        rw [same, least]
      · rw [levelsPast_succ_eq (by omega), inductionHypothesis many]

theorem length_levelsPast_le {fuel distance : Nat} :
    (protocol.levelsPast fuel distance).length ≤ fuel := by
  induction fuel generalizing distance with
  | zero => exact Nat.le_refl 0
  | succ fuel inductionHypothesis =>
      rw [levelsPast_succ]
      split
      · exact Nat.zero_le _
      · exact Nat.succ_le_succ inductionHypothesis

theorem mem_levelsPast {fuel distance : Nat} :
    state ∈ (protocol.levelsPast fuel distance).flatten ↔
      ∃ further, distance ≤ further ∧ further < distance + fuel ∧
        state ∈ (protocol.frontier further).1 := by
  induction fuel generalizing distance with
  | zero =>
      refine ⟨fun member => absurd member List.not_mem_nil, ?_⟩
      rintro ⟨further, farther, within, _⟩
      omega
  | succ fuel inductionHypothesis =>
      rw [levelsPast_succ]
      split
      · next empty =>
          refine ⟨fun member => absurd member List.not_mem_nil, ?_⟩
          rintro ⟨further, farther, _, member⟩
          rw [frontier_eq_nil_of_le farther (List.isEmpty_iff.mp empty)] at member
          exact absurd member List.not_mem_nil
      · rw [List.flatten_cons, List.mem_append, inductionHypothesis]
        constructor
        · rintro (here | ⟨further, farther, within, member⟩)
          · exact ⟨distance, Nat.le_refl _, by omega, here⟩
          · exact ⟨further, by omega, by omega, member⟩
        · rintro ⟨further, farther, within, member⟩
          rcases Nat.eq_or_lt_of_le farther with rfl | beyond
          · exact Or.inl member
          · exact Or.inr ⟨further, beyond, by omega, member⟩

/-- What the exploration lists is what can be reached. -/
theorem mem_reachable_iff : state ∈ protocol.reachable ↔ Reachable protocol state := by
  rw [reachable, ← levelsPast_eq_levels (Nat.le_refl _), mem_levelsPast]
  constructor
  · rintro ⟨distance, _, _, member⟩
    obtain ⟨actions, _, path⟩ := exists_path_of_mem_frontier member
    exact path.reachable .initial
  · intro reachable
    obtain ⟨distance, member⟩ := exists_mem_frontier reachable
    have near := distance_le_of_mem_frontier member
    exact ⟨distance, Nat.zero_le _, by omega, member⟩

/-! ### The end of the walk -/

/-- Whatever the ceiling, the sizes of the rows and their number: no path of offered actions is
longer than the number of rows and two; the breadth-first walk ends by itself after that many
levels and the first, whatever bound on them it is given from there on; and the states it has
found then are those that can be reached. -/
theorem exploration_ends (protocol : Protocol) :
    (∀ actions last, Path protocol initial actions last →
        actions.length ≤ protocol.maxRowAttempts.toNat + 2) ∧
      protocol.levels.length ≤ protocol.maxRowAttempts.toNat + 3 ∧
      (∀ fuel, protocol.maxRowAttempts.toNat + 3 ≤ fuel →
        protocol.levelsFrom fuel (discover {} [initial]).1 (discover {} [initial]).2 =
          protocol.levels) ∧
      ∀ state, state ∈ protocol.reachable ↔ Reachable protocol state := by
  refine ⟨?_, ?_, fun fuel enough => levelsPast_eq_levels enough, fun state => mem_reachable_iff⟩
  · intro actions last path
    have bounded := path.length_add_budget_le
    rw [budget_initial] at bounded
    omega
  · rw [← levelsPast_eq_levels (Nat.le_refl _)]
    exact length_levelsPast_le

/-- A path that is as long as can be: a row that fits, a row that is too large, a commit whose
append fails, and an abort. -/
theorem exploration_ends_of_failed_commit :
    ∃ actions last, Path ⟨3, [2, 4], 2⟩ initial actions last ∧ actions.length = 2 + 2 ∧
      actions.length ≤ (⟨3, [2, 4], 2⟩ : Protocol).maxRowAttempts.toNat + 2 := by
  have path : ∃ last, Path ⟨3, [2, 4], 2⟩ initial
      [.add 2 .acknowledged, .add 4 .acknowledged, .commit .serverError true, .abort] last :=
    ⟨_, .next (by decide) rfl (.next (by decide) rfl (.next (by decide) rfl
      (.next (by decide) rfl (.none _))))⟩
  obtain ⟨last, path⟩ := path
  exact ⟨_, last, path, rfl, (exploration_ends ⟨3, [2, 4], 2⟩).1 _ last path⟩

end RowStream.Protocol
