import Mathlib.Algebra.BigOperators.Group.List.Basic
import Mathlib.Algebra.GroupWithZero.Nat
import RowStream.Proofs.Client.Conversation
import RowStream.Proofs.Client.Serving

/-!
Contract: the counters of a client that lets faults strike, the tally of its switch and the log of
the service behind it tell the same.

Owns:
- `FaultInjector.Rolled`, what considering several faults one after the other records;
- `FaultTally.Balanced`, each of several faults was considered at the requests that no earlier
  one struck;
- `FaultInjector.Accounted`, the three records agree, and one lemma a kind of request that keeps
  it.

Main statement: `Store.faults_accounted`.
-/

namespace RowStream

/-! ### One fault after the other -/

theorem Counts.count_bump_id (counts : Counts) (point other : FaultPoint) :
    (counts.bump point.id).count other.id =
      counts.count other.id + (other == point).toNat := by
  rw [count_bump]
  by_cases same : other = point
  · rw [if_pos (congrArg FaultPoint.id same), same, beq_self_eq_true]
    rfl
  · rw [if_neg fun equal => same (FaultPoint.id_injective equal), beq_false_of_ne same]
    rfl

namespace FaultTally

theorem checks_recordCheck (tally : FaultTally) (point : FaultPoint) :
    (tally.recordCheck point.id).checks.count point.id = tally.checks.count point.id + 1 := by
  have counted := tally.checks.count_bump_id point point
  rw [beq_self_eq_true] at counted
  exact counted

theorem checks_recordCheck_of_ne (tally : FaultTally) {point other : FaultPoint}
    (apart : other ≠ point) :
    (tally.recordCheck point.id).checks.count other.id = tally.checks.count other.id := by
  have counted := tally.checks.count_bump_id point other
  rw [beq_false_of_ne apart] at counted
  exact counted

end FaultTally

namespace FaultInjector

/-- What considering faults in their order records, up to the first that strikes. -/
inductive Rolled : List FaultPoint → FaultTally → Option FaultPoint → FaultTally → Prop where
  | spared (tally : FaultTally) : Rolled [] tally none tally
  | struck (point : FaultPoint) (rest : List FaultPoint) (tally : FaultTally) :
      Rolled (point :: rest) tally (some point)
        ((tally.recordCheck point.id).recordTrigger point.id)
  | missed {point : FaultPoint} {rest : List FaultPoint} {tally after : FaultTally}
      {struck : Option FaultPoint}
      (later : Rolled rest (tally.recordCheck point.id) struck after) :
      Rolled (point :: rest) tally struck after

/-- The points are asked in their order, and those after the first that strikes are not asked. -/
theorem firstStrike_rolled (points : List FaultPoint) (injector : FaultInjector) :
    Rolled points injector.switch.tally (injector.firstStrike points).1
      (injector.firstStrike points).2.switch.tally := by
  induction points generalizing injector with
  | nil => exact .spared _
  | cons point rest inductionHypothesis =>
      have told : (injector.strikes point).2.switch.tally =
          if (injector.strikes point).1 then
            (injector.switch.tally.recordCheck point.id).recordTrigger point.id
          else injector.switch.tally.recordCheck point.id :=
        injector.switch.tally_strikesWith point.id (injector.rates.rate point) injector.random
      rw [firstStrike]
      cases decided : injector.strikes point with
      | mk hit later =>
          rw [decided] at told
          cases hit with
          | true =>
              have recorded : later.switch.tally =
                  (injector.switch.tally.recordCheck point.id).recordTrigger point.id := told
              show Rolled (point :: rest) injector.switch.tally (some point) later.switch.tally
              rw [recorded]
              exact .struck point rest _
          | false =>
              have recorded : later.switch.tally = injector.switch.tally.recordCheck point.id :=
                told
              have rolled := inductionHypothesis later
              rw [recorded] at rolled
              exact .missed rolled

namespace Rolled

variable {points : List FaultPoint} {tally after : FaultTally} {struck : Option FaultPoint}

/-- Only the fault that strikes is recorded as a trigger. -/
theorem triggered_eq (rolled : Rolled points tally struck after) (other : FaultPoint) :
    after.triggered other.id = tally.triggered other.id + (struck == some other).toNat := by
  induction rolled with
  | spared tally => rfl
  | struck point rest tally =>
      have counted := tally.triggers.count_bump_id point other
      rw [Bool.beq_comm] at counted
      exact counted
  | missed later inductionHypothesis => exact inductionHypothesis

/-- A fault that is not among those considered is not recorded. -/
theorem checks_eq (rolled : Rolled points tally struck after) {other : FaultPoint}
    (apart : other ∉ points) : after.checks.count other.id = tally.checks.count other.id := by
  induction rolled with
  | spared tally => rfl
  | struck point rest tally =>
      exact tally.checks_recordCheck_of_ne (List.ne_of_not_mem_cons apart)
  | @missed point rest tally after struck later inductionHypothesis =>
      exact (inductionHypothesis (List.not_mem_of_not_mem_cons apart)).trans
        (tally.checks_recordCheck_of_ne (List.ne_of_not_mem_cons apart))

theorem struck_mem (rolled : Rolled points tally struck after) {point : FaultPoint}
    (hit : struck = some point) : point ∈ points := by
  induction rolled with
  | spared tally => exact absurd hit (by simp)
  | struck first rest tally =>
      rw [← Option.some.inj hit]
      exact List.mem_cons_self
  | missed later inductionHypothesis => exact List.mem_cons_of_mem _ (inductionHypothesis hit)

theorem triggered_eq_of_not_mem (rolled : Rolled points tally struck after)
    {other : FaultPoint} (apart : other ∉ points) :
    after.triggered other.id = tally.triggered other.id := by
  have missed : (struck == some other) = false := beq_false_of_ne fun hit =>
    apart (rolled.struck_mem hit)
  rw [rolled.triggered_eq other, missed]
  rfl

/-- Whatever is recorded, a trigger is recorded with its check. -/
theorem triggered_le (rolled : Rolled points tally struck after)
    (within : ∀ identifier, tally.triggered identifier ≤ tally.checks.count identifier)
    (identifier : String) : after.triggered identifier ≤ after.checks.count identifier := by
  induction rolled with
  | spared tally => exact within identifier
  | struck point rest tally =>
      have checked := tally.checks.count_bump point.id identifier
      have triggered := tally.triggers.count_bump point.id identifier
      have before := within identifier
      rw [FaultTally.triggered] at before
      show (tally.triggers.bump point.id).count identifier ≤
        (tally.checks.bump point.id).count identifier
      omega
  | @missed point rest tally after struck later inductionHypothesis =>
      refine inductionHypothesis fun other => ?_
      have checked := tally.checks.count_bump point.id other
      exact Nat.le_trans (within other) (by
        show tally.checks.count other ≤ (tally.checks.bump point.id).count other
        omega)

end Rolled

end FaultInjector

/-! ### Requests and the faults considered at them -/

namespace FaultTally

variable {points : List FaultPoint} {tally after : FaultTally}

/-- Of so many requests, the first fault was considered at all, each further one at those that
no earlier one struck. -/
def Balanced (tally : FaultTally) : List FaultPoint → Nat → Prop
  | [], _ => True
  | point :: rest, requests =>
      tally.checks.count point.id = requests ∧
        ∃ left, left + tally.triggered point.id = requests ∧ tally.Balanced rest left

theorem Balanced.of_same {requests : Nat} (balanced : tally.Balanced points requests)
    (same : ∀ point ∈ points, after.checks.count point.id = tally.checks.count point.id ∧
      after.triggered point.id = tally.triggered point.id) : after.Balanced points requests := by
  induction points generalizing requests with
  | nil => trivial
  | cons point rest inductionHypothesis =>
      obtain ⟨checked, left, passed, balanced⟩ := balanced
      obtain ⟨checks, triggered⟩ := same point List.mem_cons_self
      refine ⟨checks.trans checked, left, by rw [triggered, passed], ?_⟩
      exact inductionHypothesis balanced fun other member =>
        same other (List.mem_cons_of_mem point member)

/-- Three faults in a row. -/
theorem Balanced.triple {first second third : FaultPoint} {requests : Nat}
    (balanced : tally.Balanced [first, second, third] requests) :
    tally.checks.count first.id = requests ∧
      tally.checks.count second.id + tally.triggered first.id = requests ∧
      tally.checks.count third.id + tally.triggered first.id + tally.triggered second.id =
        requests := by
  obtain ⟨checked, left, passed, considered, last, spared, reached, _⟩ := balanced
  refine ⟨checked, considered ▸ passed, ?_⟩
  rw [reached]
  omega

end FaultTally

namespace FaultInjector.Rolled

variable {points others : List FaultPoint} {tally after : FaultTally}
  {struck : Option FaultPoint} {requests : Nat}

/-- One more request at which these faults are considered. -/
theorem balanced (rolled : Rolled points tally struck after) (distinct : points.Nodup)
    (balanced : tally.Balanced points requests) : after.Balanced points (requests + 1) := by
  induction rolled generalizing requests with
  | spared tally => trivial
  | struck point rest tally =>
      obtain ⟨checked, left, passed, balanced⟩ := balanced
      have rolled : Rolled (point :: rest) tally (some point) _ := .struck point rest tally
      have triggered := rolled.triggered_eq point
      rw [beq_self_eq_true, Bool.toNat_true] at triggered
      refine ⟨(tally.checks_recordCheck point).trans (by rw [checked]), left, by omega, ?_⟩
      refine balanced.of_same fun other member => ?_
      have apart : other ≠ point := fun same =>
        (List.nodup_cons.mp distinct).1 (same ▸ member)
      have unmoved := rolled.triggered_eq other
      rw [beq_false_of_ne (by simpa using apart.symm)] at unmoved
      exact ⟨tally.checks_recordCheck_of_ne apart, unmoved⟩
  | @missed point rest tally after struck later inductionHypothesis =>
      obtain ⟨checked, left, passed, balanced⟩ := balanced
      obtain ⟨alone, distinct⟩ := List.nodup_cons.mp distinct
      have checks : after.checks.count point.id = requests + 1 := by
        rw [later.checks_eq alone, tally.checks_recordCheck, checked]
      have triggered : after.triggered point.id = tally.triggered point.id :=
        later.triggered_eq_of_not_mem alone
      refine ⟨checks, left + 1, by omega, inductionHypothesis distinct ?_⟩
      refine balanced.of_same fun other member => ?_
      have apart : other ≠ point := fun same => alone (same ▸ member)
      exact ⟨tally.checks_recordCheck_of_ne apart, rfl⟩

/-- Faults of other kinds of request are not concerned. -/
theorem balanced_of_disjoint (rolled : Rolled points tally struck after)
    (apart : ∀ point ∈ others, point ∉ points) (balanced : tally.Balanced others requests) :
    after.Balanced others requests :=
  balanced.of_same fun point member =>
    ⟨rolled.checks_eq (apart point member), rolled.triggered_eq_of_not_mem (apart point member)⟩

end FaultInjector.Rolled

/-! ### Three records of the same -/

/-- The faults that can refuse a creation, in the order in which they are considered. -/
def FaultPoint.ofCreate : List FaultPoint := [.createInvalidArgument, .createUnavailable]

def FaultPoint.ofAppend : List FaultPoint :=
  [.appendServerError, .appendOffsetSkew, .appendResponseDropped]

def FaultPoint.ofFinalize : List FaultPoint := [.finalizeUnavailable, .finalizeDeadlineExceeded]

/-- Of so many requests of a kind, some were refused, which is what some of the faults were
triggered for, and the others were received. -/
structure FaultTally.Agrees (tally : FaultTally) (points refusing : List FaultPoint)
    (requests refused received : Nat) : Prop where
  balanced : tally.Balanced points requests
  refused_eq : refused = (refusing.map fun point => tally.triggered point.id).sum
  received_eq : received + refused = requests

/-- Two faults, each of which refuses the request. -/
theorem FaultTally.Agrees.pair {tally : FaultTally} {first second : FaultPoint}
    {requests refused received : Nat}
    (agrees : tally.Agrees [first, second] [first, second] requests refused received) :
    tally.checks.count first.id = requests ∧
      tally.checks.count second.id + tally.triggered first.id = requests ∧
      refused = tally.triggered first.id + tally.triggered second.id := by
  obtain ⟨checked, left, passed, considered, _⟩ := agrees.balanced
  exact ⟨checked, considered ▸ passed, agrees.refused_eq⟩

namespace FaultInjector.Rolled

variable {points others refusing : List FaultPoint} {tally after : FaultTally}
  {struck : Option FaultPoint} {requests refused received more : Nat}

/-- One fault strikes, or none. -/
theorem sum_hits (rolled : Rolled points tally struck after) (distinct : points.Nodup) :
    (points.map fun point => (struck == some point).toNat).sum = struck.isSome.toNat := by
  induction rolled with
  | spared tally => rfl
  | struck point rest tally =>
      have others : ∀ other ∈ rest, (some point == some other).toNat = 0 := by
        intro other member
        have apart : point ≠ other := fun same =>
          (List.nodup_cons.mp distinct).1 (same ▸ member)
        simp [apart]
      rw [List.map_cons, List.sum_cons, List.map_congr_left others]
      simp
  | @missed point rest tally after struck later inductionHypothesis =>
      obtain ⟨alone, distinct⟩ := List.nodup_cons.mp distinct
      have missed : (struck == some point) = false := beq_false_of_ne fun hit =>
        alone (later.struck_mem hit)
      rw [List.map_cons, List.sum_cons, missed, inductionHypothesis distinct]
      exact Nat.zero_add _

/-- One more request of this kind. It is received unless one of the faults refuses it. -/
theorem agrees (rolled : Rolled points tally struck after) (distinct : points.Nodup)
    (agrees : tally.Agrees points refusing requests refused received)
    (received_eq : more + (refusing.map fun point => (struck == some point).toNat).sum =
      received + 1) :
    after.Agrees points refusing (requests + 1)
      (refused + (refusing.map fun point => (struck == some point).toNat).sum) more where
  balanced := rolled.balanced distinct agrees.balanced
  refused_eq := by
    simp only [rolled.triggered_eq, List.sum_map_add]
    rw [agrees.refused_eq]
  received_eq := by
    have all := agrees.received_eq
    omega

/-- Each of the faults considered refuses the request. -/
theorem agrees_of_refusal (rolled : Rolled points tally struck after) (distinct : points.Nodup)
    (agrees : tally.Agrees points points requests refused received)
    (received_eq : more + struck.isSome.toNat = received + 1) :
    after.Agrees points points (requests + 1) (refused + struck.isSome.toNat) more := by
  have hits := rolled.sum_hits distinct
  rw [← hits] at received_eq ⊢
  exact rolled.agrees distinct agrees received_eq

/-- Requests of other kinds are not concerned. -/
theorem agrees_of_disjoint (rolled : Rolled points tally struck after)
    (apart : ∀ point ∈ others ++ refusing, point ∉ points)
    (agrees : tally.Agrees others refusing requests refused received) :
    after.Agrees others refusing requests refused received where
  balanced := rolled.balanced_of_disjoint
    (fun point member => apart point (List.mem_append_left _ member)) agrees.balanced
  refused_eq := by
    have same : ∀ point ∈ refusing, after.triggered point.id = tally.triggered point.id :=
      fun point member =>
        rolled.triggered_eq_of_not_mem (apart point (List.mem_append_right _ member))
    rw [agrees.refused_eq, List.map_congr_left same]
  received_eq := agrees.received_eq

end FaultInjector.Rolled

namespace FaultInjector

/-- The counters of the client, the tally of its switch and the log of the service agree. -/
structure Accounted (injector : FaultInjector) (store : Store) : Prop where
  creates : injector.switch.tally.Agrees FaultPoint.ofCreate FaultPoint.ofCreate
    injector.counters.createAttempts injector.counters.createFaults store.createCalls
  appends : injector.switch.tally.Agrees FaultPoint.ofAppend [.appendServerError]
    injector.counters.appendAttempts injector.counters.appendServerErrors
    store.appendOffsets.length
  skews : injector.counters.appendOffsetSkews =
    injector.switch.tally.triggered FaultPoint.appendOffsetSkew.id
  drops : injector.counters.appendResponsesDropped =
    injector.switch.tally.triggered FaultPoint.appendResponseDropped.id
  finalizes : injector.switch.tally.Agrees FaultPoint.ofFinalize FaultPoint.ofFinalize
    injector.counters.finalizeAttempts injector.counters.finalizeFaults store.finalizeCalls
  within : ∀ identifier,
    injector.switch.tally.triggered identifier ≤ injector.switch.tally.checks.count identifier

/-- Nothing was asked yet. -/
theorem accounted_fresh (rates : FaultRates) (random : Random) (table : FaultTable) :
    Accounted { rates := rates, random := random, switch := { table := table } } {} where
  creates := ⟨⟨rfl, 0, rfl, rfl, 0, rfl, trivial⟩, rfl, rfl⟩
  appends := ⟨⟨rfl, 0, rfl, rfl, 0, rfl, rfl, 0, rfl, trivial⟩, rfl, rfl⟩
  skews := rfl
  drops := rfl
  finalizes := ⟨⟨rfl, 0, rfl, rfl, 0, rfl, trivial⟩, rfl, rfl⟩
  within _ := Nat.le_refl 0

namespace Accounted

variable {injector later : FaultInjector} {store after : Store} {struck : Option FaultPoint}

/-- What is no request of the three kinds leaves all records. -/
theorem beside (accounted : Accounted injector store)
    (creates : after.createCalls = store.createCalls)
    (appends : after.appendOffsets = store.appendOffsets)
    (finalizes : after.finalizeCalls = store.finalizeCalls) : Accounted injector after where
  creates := creates ▸ accounted.creates
  appends := appends ▸ accounted.appends
  skews := accounted.skews
  drops := accounted.drops
  finalizes := finalizes ▸ accounted.finalizes
  within := accounted.within

/-- So does a request of another kind, whether it is logged or not. -/
theorem beside_of_logs (accounted : Accounted injector store) {call : Call}
    (logs : Store.Logs call store after)
    (creates : ({ calls := #[call] } : Store).createCalls = 0)
    (appends : ({ calls := #[call] } : Store).appendOffsets = [])
    (finalizes : ({ calls := #[call] } : Store).finalizeCalls = 0) :
    Accounted injector after := by
  obtain ⟨entries, few, advances⟩ := logs
  rcases List.sublist_singleton.mp few with rfl | rfl
  · exact accounted.beside advances.createCalls_eq
      (advances.appendOffsets_eq.trans (List.append_nil _)) advances.finalizeCalls_eq
  · refine accounted.beside ?_ ?_ ?_
    · rw [advances.createCalls_eq, creates, Nat.add_zero]
    · rw [advances.appendOffsets_eq, appends, List.append_nil]
    · rw [advances.finalizeCalls_eq, finalizes, Nat.add_zero]

/-- A creation is received unless a fault strikes. -/
theorem countCreate (accounted : Accounted injector store)
    (rolled : Rolled FaultPoint.ofCreate injector.switch.tally struck later.switch.tally)
    (counters : later.counters = injector.counters)
    (received : after.createCalls + struck.isSome.toNat = store.createCalls + 1)
    (appends : after.appendOffsets = store.appendOffsets)
    (finalizes : after.finalizeCalls = store.finalizeCalls) :
    Accounted (later.countCreate struck.isSome) after := by
  refine
    { creates := ?_
      appends := ?_
      skews := ?_
      drops := ?_
      finalizes := ?_
      within := rolled.triggered_le accounted.within }
  · simp only [FaultInjector.countCreate, counters]
    exact rolled.agrees_of_refusal (by decide) accounted.creates received
  · simp only [FaultInjector.countCreate, counters, appends]
    exact rolled.agrees_of_disjoint (by decide) accounted.appends
  · simp only [FaultInjector.countCreate, counters]
    exact accounted.skews.trans (rolled.triggered_eq_of_not_mem (by decide)).symm
  · simp only [FaultInjector.countCreate, counters]
    exact accounted.drops.trans (rolled.triggered_eq_of_not_mem (by decide)).symm
  · simp only [FaultInjector.countCreate, counters, finalizes]
    exact rolled.agrees_of_disjoint (by decide) accounted.finalizes

/-- An append is received unless the first fault strikes; the others strike on the way back. -/
theorem countAppend (accounted : Accounted injector store)
    (rolled : Rolled FaultPoint.ofAppend injector.switch.tally struck later.switch.tally)
    (counters : later.counters = injector.counters)
    (creates : after.createCalls = store.createCalls)
    (received : after.appendOffsets.length + (struck == some .appendServerError).toNat =
      store.appendOffsets.length + 1)
    (finalizes : after.finalizeCalls = store.finalizeCalls) :
    Accounted (later.countAppend struck) after := by
  refine
    { creates := ?_
      appends := ?_
      skews := ?_
      drops := ?_
      finalizes := ?_
      within := rolled.triggered_le accounted.within }
  · simp only [FaultInjector.countAppend, counters, creates]
    exact rolled.agrees_of_disjoint (by decide) accounted.creates
  · simp only [FaultInjector.countAppend, counters]
    exact rolled.agrees (by decide) accounted.appends received
  · simp only [FaultInjector.countAppend, counters]
    rw [accounted.skews, rolled.triggered_eq]
  · simp only [FaultInjector.countAppend, counters]
    rw [accounted.drops, rolled.triggered_eq]
  · simp only [FaultInjector.countAppend, counters, finalizes]
    exact rolled.agrees_of_disjoint (by decide) accounted.finalizes

/-- A finalization is received unless a fault strikes. -/
theorem countFinalize (accounted : Accounted injector store)
    (rolled : Rolled FaultPoint.ofFinalize injector.switch.tally struck later.switch.tally)
    (counters : later.counters = injector.counters)
    (creates : after.createCalls = store.createCalls)
    (appends : after.appendOffsets = store.appendOffsets)
    (received : after.finalizeCalls + struck.isSome.toNat = store.finalizeCalls + 1) :
    Accounted (later.countFinalize struck.isSome) after := by
  refine
    { creates := ?_
      appends := ?_
      skews := ?_
      drops := ?_
      finalizes := ?_
      within := rolled.triggered_le accounted.within }
  · simp only [FaultInjector.countFinalize, counters, creates]
    exact rolled.agrees_of_disjoint (by decide) accounted.creates
  · simp only [FaultInjector.countFinalize, counters, appends]
    exact rolled.agrees_of_disjoint (by decide) accounted.appends
  · simp only [FaultInjector.countFinalize, counters]
    exact accounted.skews.trans (rolled.triggered_eq_of_not_mem (by decide)).symm
  · simp only [FaultInjector.countFinalize, counters]
    exact accounted.drops.trans (rolled.triggered_eq_of_not_mem (by decide)).symm
  · simp only [FaultInjector.countFinalize, counters]
    exact rolled.agrees_of_refusal (by decide) accounted.finalizes received

end Accounted

end FaultInjector

/-! ### Conversations -/

/-- Every append of the acts goes over a connection that is not closed. -/
def Store.Act.Connected : Store.Act → Prop
  | .append appender _ _ => appender.closed = false
  | _ => True

namespace FaultInjector.Accounted

variable {injector : FaultInjector} {store : Store}

theorem create (accounted : Accounted injector store) (parent : String) (kind : StreamKind) :
    let after := (Store.client.withFaults.create parent kind (injector, store)).2
    Accounted after.1 after.2 := by
  have rolled := injector.firstStrike_rolled [.createInvalidArgument, .createUnavailable]
  have counters := injector.counters_firstStrike [.createInvalidArgument, .createUnavailable]
  have logged := store.create_advances parent kind
  simp only [Client.withFaults]
  cases decided : injector.firstStrike [.createInvalidArgument, .createUnavailable] with
  | mk struck later =>
      rw [decided] at rolled counters
      cases struck with
      | some point => exact accounted.countCreate rolled counters rfl rfl rfl
      | none =>
          refine accounted.countCreate rolled counters logged.createCalls_eq ?_
            logged.finalizeCalls_eq
          exact logged.appendOffsets_eq.trans (List.append_nil _)

theorem finalize (accounted : Accounted injector store) (stream : String) :
    let after := (Store.client.withFaults.finalize stream (injector, store)).2
    Accounted after.1 after.2 := by
  have rolled := injector.firstStrike_rolled [.finalizeUnavailable, .finalizeDeadlineExceeded]
  have counters := injector.counters_firstStrike [.finalizeUnavailable, .finalizeDeadlineExceeded]
  have logged := store.finalize_advances stream
  simp only [Client.withFaults]
  cases decided : injector.firstStrike [.finalizeUnavailable, .finalizeDeadlineExceeded] with
  | mk struck later =>
      rw [decided] at rolled counters
      cases struck with
      | some point => exact accounted.countFinalize rolled counters rfl rfl rfl
      | none =>
          refine accounted.countFinalize rolled counters logged.createCalls_eq ?_
            logged.finalizeCalls_eq
          exact logged.appendOffsets_eq.trans (List.append_nil _)

theorem append (accounted : Accounted injector store) {appender : Appender}
    (connected : appender.closed = false) (batch : Batch) (offset : UInt64) :
    let after := (Store.client.withFaults.append appender batch offset (injector, store)).2
    Accounted after.1 after.2 := by
  have rolled := injector.firstStrike_rolled
    [.appendServerError, .appendOffsetSkew, .appendResponseDropped]
  have counters := injector.counters_firstStrike
    [.appendServerError, .appendOffsetSkew, .appendResponseDropped]
  have logged := Store.append_advances connected batch offset store
  have offsets : (store.append appender batch offset).2.appendOffsets.length =
      store.appendOffsets.length + 1 := by
    rw [logged.appendOffsets_eq, List.length_append]
    rfl
  simp only [Client.withFaults]
  cases decided : injector.firstStrike
      [.appendServerError, .appendOffsetSkew, .appendResponseDropped] with
  | mk struck later =>
      rw [decided] at rolled counters
      have received (touched : struck ≠ some .appendServerError) :
          Accounted (later.countAppend struck) (store.append appender batch offset).2 := by
        refine accounted.countAppend rolled counters logged.createCalls_eq ?_
          logged.finalizeCalls_eq
        rw [offsets, beq_false_of_ne touched]
        rfl
      simp only
      split
      · exact accounted.countAppend rolled counters rfl rfl rfl
      · exact received (by simp)
      · exact received (by simp)
      · next refused _ _ => exact received refused

/-- Whatever is asked over open connections, the records stay in agreement. -/
theorem respond (accounted : Accounted injector store) {act : Store.Act}
    (connected : act.Connected) :
    let after := (Store.client.withFaults.respond (Client.planBehind Store.plan)
      (injector, store) act).2
    Accounted after.1 after.2 := by
  cases act with
  | create parent kind => exact accounted.create parent kind
  | bind stream schema =>
      exact accounted.beside_of_logs (store.bind_logs stream schema) rfl rfl rfl
  | append appender batch offset => exact accounted.append connected batch offset
  | finalize stream => exact accounted.finalize stream
  | close appender => exact accounted.beside_of_logs (Store.close_logs appender store) rfl rfl rfl
  | plan mishap => exact accounted.beside rfl rfl rfl
  | shutdown => exact accounted.beside rfl rfl rfl

/-- Over a whole exchange with the service every request is counted where it was struck. -/
theorem converse (accounted : Accounted injector store) (acts : List Store.Act)
    (connected : ∀ act ∈ acts, act.Connected) :
    let after := (Store.client.withFaults.converse (Client.planBehind Store.plan) acts
      (injector, store)).2
    Accounted after.1 after.2 := by
  induction acts generalizing injector store with
  | nil => exact accounted
  | cons act rest inductionHypothesis =>
      have between := accounted.respond (connected act List.mem_cons_self)
      exact inductionHypothesis between fun later member =>
        connected later (List.mem_cons_of_mem act member)

end FaultInjector.Accounted

/-- Whatever the rates, the generator and the table, and whatever is asked of a service through a
client that lets faults strike, as long as no append goes over a closed connection: of each kind
of request, the first fault is considered at every one and each further fault at those that no
earlier one struck; the counters are the triggers of the tally; and the log holds the requests
that no fault refused. -/
theorem Store.faults_accounted (rates : FaultRates) (random : Random) (table : FaultTable)
    (acts : List Act) (connected : ∀ act ∈ acts, act.Connected) :
    let ended := client.withFaults.converse (Client.planBehind Store.plan) acts
      ({ rates := rates, random := random, switch := { table := table } }, {})
    let counters := ended.2.1.counters
    let tally := ended.2.1.switch.tally
    let store := ended.2.2
    let checks (point : FaultPoint) := tally.checks.count point.id
    let triggers (point : FaultPoint) := tally.triggered point.id
    (checks .createInvalidArgument = counters.createAttempts ∧
      checks .createUnavailable + triggers .createInvalidArgument = counters.createAttempts ∧
      counters.createFaults =
        triggers .createInvalidArgument + triggers .createUnavailable) ∧
    (checks .appendServerError = counters.appendAttempts ∧
      checks .appendOffsetSkew + triggers .appendServerError = counters.appendAttempts ∧
      checks .appendResponseDropped + triggers .appendServerError + triggers .appendOffsetSkew =
        counters.appendAttempts ∧
      counters.appendServerErrors = triggers .appendServerError ∧
      counters.appendOffsetSkews = triggers .appendOffsetSkew ∧
      counters.appendResponsesDropped = triggers .appendResponseDropped) ∧
    (checks .finalizeUnavailable = counters.finalizeAttempts ∧
      checks .finalizeDeadlineExceeded + triggers .finalizeUnavailable =
        counters.finalizeAttempts ∧
      counters.finalizeFaults =
        triggers .finalizeUnavailable + triggers .finalizeDeadlineExceeded) ∧
    counters.totalFaults = (FaultPoint.all.map triggers).sum ∧
    (store.createCalls + counters.createFaults = counters.createAttempts ∧
      store.appendOffsets.length + counters.appendServerErrors = counters.appendAttempts ∧
      store.finalizeCalls + counters.finalizeFaults = counters.finalizeAttempts) ∧
    ∀ identifier, tally.triggered identifier ≤ tally.checks.count identifier := by
  intro ended counters tally store checks triggers
  have accounted : FaultInjector.Accounted ended.2.1 ended.2.2 :=
    (FaultInjector.accounted_fresh rates random table).converse acts connected
  obtain ⟨appended, skewable, droppable⟩ := accounted.appends.balanced.triple
  have created := accounted.creates.pair
  have finalized := accounted.finalizes.pair
  have createFaults : counters.createFaults =
      triggers .createInvalidArgument + triggers .createUnavailable := created.2.2
  have serverErrors : counters.appendServerErrors = triggers .appendServerError :=
    accounted.appends.refused_eq
  have skews : counters.appendOffsetSkews = triggers .appendOffsetSkew := accounted.skews
  have drops : counters.appendResponsesDropped = triggers .appendResponseDropped :=
    accounted.drops
  have finalizeFaults : counters.finalizeFaults =
      triggers .finalizeUnavailable + triggers .finalizeDeadlineExceeded := finalized.2.2
  have total : counters.totalFaults = (FaultPoint.all.map triggers).sum := by
    have faults : (FaultPoint.all.map triggers).sum =
        triggers .createUnavailable + (triggers .createInvalidArgument +
          (triggers .appendServerError + (triggers .appendOffsetSkew +
            (triggers .appendResponseDropped + (triggers .finalizeUnavailable +
              triggers .finalizeDeadlineExceeded))))) := rfl
    rw [FaultCounters.totalFaults, faults]
    omega
  exact ⟨created, ⟨appended, skewable, droppable, serverErrors, skews, drops⟩, finalized, total,
    ⟨accounted.creates.received_eq, accounted.appends.received_eq,
      accounted.finalizes.received_eq⟩, accounted.within⟩

/-- Every creation is refused. The append and the finalization reach the service, which has no
stream. -/
theorem Store.faults_accounted_of_unavailable :
    ∃ (rates : FaultRates) (random : Random) (table : FaultTable) (acts : List Act),
      rates = ⟨fun point => if point = .createUnavailable then 1.0 else 0.0⟩ ∧
        random.word = (fun _ => 0) ∧ table.enabled = true ∧
        acts = [.create "table" .pending, .create "table" .pending,
          .append ⟨streamName "table" 1, false⟩ (.ofList [filledRow 3 1]) 0,
          .finalize (streamName "table" 1)] ∧
        (∀ act ∈ acts, act.Connected) ∧
        let ended := client.withFaults.converse (Client.planBehind Store.plan) acts
          ({ rates := rates, random := random, switch := { table := table } }, {})
        let counters := ended.2.1.counters
        let tally := ended.2.1.switch.tally
        counters.createAttempts = 2 ∧ counters.createFaults = 2 ∧
          tally.checks.count FaultPoint.createInvalidArgument.id = 2 ∧
          tally.checks.count FaultPoint.createUnavailable.id = 2 ∧
          tally.triggered FaultPoint.createUnavailable.id = 2 ∧
          ended.2.2.createCalls = 0 ∧ ended.2.2.appendOffsets.length = 1 ∧
          ended.2.2.finalizeCalls = 1 := by
  have ran : ∃ (rates : FaultRates) (random : Random) (table : FaultTable) (acts : List Act),
      rates = ⟨fun point => if point = .createUnavailable then 1.0 else 0.0⟩ ∧
        random.word = (fun _ => 0) ∧ table.enabled = true ∧
        acts = [.create "table" .pending, .create "table" .pending,
          .append ⟨streamName "table" 1, false⟩ (.ofList [filledRow 3 1]) 0,
          .finalize (streamName "table" 1)] ∧
        let ended := client.withFaults.converse (Client.planBehind Store.plan) acts
          ({ rates := rates, random := random, switch := { table := table } }, {})
        let counters := ended.2.1.counters
        counters.createAttempts = 2 ∧ counters.createFaults = 2 ∧
          counters.appendAttempts = 1 ∧ counters.appendServerErrors = 0 ∧
          counters.finalizeAttempts = 1 ∧ counters.finalizeFaults = 0 ∧
          ended.2.1.switch.tally.triggered FaultPoint.createInvalidArgument.id = 0 := by
    refine ⟨⟨fun point => if point = .createUnavailable then 1.0 else 0.0⟩,
      { word := fun _ => 0 }, .standard, _, rfl, rfl, rfl, rfl, ?_⟩
    decide +kernel
  obtain ⟨rates, random, table, acts, rated, words, enabled, planned, attempts, faults, appends,
    errors, finalizes, refusals, valid⟩ := ran
  have connected : ∀ act ∈ acts, act.Connected := by
    rw [planned]
    simp only [List.forall_mem_cons]
    exact ⟨trivial, trivial, rfl, trivial, by simp⟩
  obtain ⟨⟨checked, considered, struck⟩, _, _, _, ⟨created, appended, finalized⟩, _⟩ :=
    faults_accounted rates random table acts connected
  simp only [attempts, faults, valid] at checked considered struck created
  rw [appends, errors] at appended
  rw [finalizes, refusals] at finalized
  refine ⟨rates, random, table, acts, rated, words, enabled, planned, connected, attempts, faults,
    checked, considered, ?_, ?_, appended, finalized⟩
  · omega
  · omega

end RowStream
