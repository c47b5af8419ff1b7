import RowStream.Store

/-!
Contract: what each request to the store does to the records of its streams.

Owns:
- `Store.SameRecords`, two stores that tell the same about every stream, and
  `Store.ConfinedTo`, two stores that differ in the record of one stream at most;
- for each request the records it leaves alone and the record it changes;
- `Store.append_at_end`, the exact answer to an append where a stream ends.

Nothing is scripted by a request: a script that is empty before stays empty.
-/

namespace RowStream

def StreamRecord.extend (batch : Batch) (record : StreamRecord) : StreamRecord :=
  { record with rows := record.rows ++ batch.rows }

namespace Store

structure SameRecords (before after : Store) : Prop where
  records : ∀ stream, after.find? stream = before.find? stream
  unscripted : before.script = {} → after.script = {}

structure ConfinedTo (stream : String) (before after : Store) : Prop where
  others : ∀ other, other ≠ stream → after.find? other = before.find? other
  unscripted : before.script = {} → after.script = {}

namespace SameRecords

theorem refl (store : Store) : SameRecords store store :=
  ⟨fun _ => rfl, id⟩

theorem trans {first second third : Store} (left : SameRecords first second)
    (right : SameRecords second third) : SameRecords first third where
  records stream := (right.records stream).trans (left.records stream)
  unscripted empty := right.unscripted (left.unscripted empty)

theorem confined {before after : Store} (same : SameRecords before after) (stream : String) :
    ConfinedTo stream before after :=
  ⟨fun other _ => same.records other, same.unscripted⟩

/-- Stores with the same list of records, of which one was not scripted further. -/
theorem of_streams {before after : Store} (streams : after.streams = before.streams)
    (unscripted : before.script = {} → after.script = {}) : SameRecords before after :=
  ⟨fun stream => by rw [find?, find?, streams], unscripted⟩

end SameRecords

theorem ConfinedTo.trans {stream : String} {first second third : Store}
    (left : ConfinedTo stream first second) (right : ConfinedTo stream second third) :
    ConfinedTo stream first third where
  others other apart := (right.others other apart).trans (left.others other apart)
  unscripted empty := right.unscripted (left.unscripted empty)

theorem rows_eq {store : Store} {stream : String} {record : StreamRecord}
    (found : store.find? stream = some record) : store.rows stream = record.rows.toList := by
  rw [rows, found]

theorem isFinalized_eq {store : Store} {stream : String} {record : StreamRecord}
    (found : store.find? stream = some record) :
    store.isFinalized stream = record.finalized := by
  rw [isFinalized, found]
  rfl

theorem isFinalized_congr {before after : Store} {stream : String}
    (same : after.find? stream = before.find? stream) :
    after.isFinalized stream = before.isFinalized stream := by
  rw [isFinalized, same, isFinalized]

/-- Changing the record of one stream is confined to it. -/
theorem update_confined (stream : String) (change : StreamRecord → StreamRecord)
    (store : Store) : ConfinedTo stream store (store.update stream change) where
  others other apart := by rw [find?_update, if_neg apart]
  unscripted empty := empty

theorem find?_update_self {store : Store} {stream : String} {record : StreamRecord}
    (found : store.find? stream = some record) (change : StreamRecord → StreamRecord) :
    (store.update stream change).find? stream = some (change record) := by
  rw [find?_update, if_pos rfl, found]
  rfl

/-! ### Creating and connecting -/

variable {stream : String} {store after : Store}

theorem create_error {parent : String} {kind : StreamKind} {status : Status}
    (called : store.create parent kind = (.error status, after)) : SameRecords store after := by
  unfold create at called
  cases failures : store.script.createFailures with
  | nil => simp [log, failures] at called
  | cons first later =>
      simp only [log, failures, Prod.mk.injEq] at called
      rw [← called.2]
      refine SameRecords.of_streams rfl ?_
      intro empty
      rw [empty] at failures
      simp at failures

/-- A stream just created is empty, whatever the store held under its name. -/
theorem create_ok {parent : String} {kind : StreamKind} {created : CreatedStream}
    (called : store.create parent kind = (.ok created, after)) :
    ConfinedTo created.name store after ∧ after.find? created.name = some { kind := kind } := by
  unfold create at called
  cases failures : store.script.createFailures with
  | cons first later => simp [log, failures] at called
  | nil =>
      simp only [log, failures, Prod.mk.injEq, Except.ok.injEq] at called
      rw [← called.1, ← called.2]
      refine ⟨⟨?_, id⟩, ?_⟩
      · intro other apart
        simp only [find?]
        rw [Association.lookup_cons, if_neg apart]
      · simp only [find?]
        rw [Association.lookup_cons, if_pos rfl]

/-- With nothing scripted, a creation gives the stream the next number. -/
theorem create_of_unscripted (parent : String) (kind : StreamKind)
    (unscripted : store.script = {}) :
    (store.create parent kind).1 = .ok ⟨streamName parent (store.created + 1), kind⟩ := by
  simp [create, log, unscripted]

theorem bind_records (stream : String) (schema : Schema) (store : Store) :
    SameRecords store (store.bind stream schema).2 := by
  unfold bind
  split
  · next failing =>
      refine SameRecords.of_streams rfl ?_
      intro empty
      rw [empty] at failing
      simp at failing
  · exact SameRecords.of_streams rfl id

theorem bind_ok {schema : Schema} {appender : Appender}
    (called : store.bind stream schema = (.ok appender, after)) :
    appender = { stream := stream } := by
  unfold bind at called
  split at called
  · simp at called
  · simp only [Prod.mk.injEq, Except.ok.injEq] at called
    exact called.1.symm

theorem bind_of_unscripted (stream : String) (schema : Schema) (unscripted : store.script = {}) :
    (store.bind stream schema).1 = .ok { stream := stream } := by
  rw [bind, unscripted]

theorem close_records (appender : Appender) (store : Store) :
    SameRecords store (store.close appender).2 := by
  unfold close
  split
  · exact SameRecords.refl store
  · simp only [log]
    split
    · next failing =>
        refine SameRecords.of_streams rfl ?_
        intro empty
        rw [empty] at failing
        simp at failing
    · exact SameRecords.of_streams rfl id

/-- With nothing scripted, releasing a connection succeeds. -/
theorem close_of_unscripted (appender : Appender) (unscripted : store.script = {}) :
    (store.close appender).1 = .ok () := by
  unfold close
  split
  · rfl
  · simp [log, unscripted]

/-! ### Appending -/

/-- The store once an append has used up what was scripted for it. -/
def spendAppend (store : Store) : Store :=
  { store with script := { store.script with dropAppendResponse := false, ackSkew := none } }

/-- The exact answer to an append at the offset at which an unfinished stream ends. -/
theorem append_at_end {record : StreamRecord} (found : store.find? stream = some record)
    (unfinished : record.finalized = false) (batch : Batch) :
    store.append { stream := stream } batch (UInt64.ofNat record.rows.size) =
      match store.script.appendError with
      | some status =>
          (.rejected status,
            { store.log (.append stream (UInt64.ofNat record.rows.size) batch.length) with
              script := { store.script with appendError := none } })
      | none =>
          (if store.script.dropAppendResponse then
              .lost (.unavailable "append response channel closed")
            else .appended (UInt64.ofNat record.rows.size + store.script.ackSkew.getD 0),
            (store.log (.append stream (UInt64.ofNat record.rows.size) batch.length)).spendAppend
              |>.accept stream batch) := by
  have written : ∀ spent : Store, spent.find? stream = some record →
      spent.write stream batch (UInt64.ofNat record.rows.size) =
        (.appended (UInt64.ofNat record.rows.size), spent.accept stream batch) := by
    intro spent present
    simp [write, present, unfinished]
  unfold append receive
  simp only [Bool.false_eq_true, if_false]
  cases failure : store.script.appendError with
  | some status => simp [log, failure]
  | none =>
      have spent := written
        (store.log (.append stream (UInt64.ofNat record.rows.size) batch.length)).spendAppend found
      simp only [spendAppend, log, failure] at spent ⊢
      rw [spent]
      cases store.script.dropAppendResponse with
      | false => rfl
      | true => rfl

theorem find?_accept {record : StreamRecord} (found : store.find? stream = some record)
    (batch : Batch) : (store.accept stream batch).find? stream = some (record.extend batch) :=
  find?_update_self found _

/-- An append where the stream ends is not acknowledged and changes no record, or its batch
is written behind the rows there, whatever the answer says. -/
theorem append_at_end_records {record : StreamRecord} {batch : Batch} {reply : AppendReply}
    (found : store.find? stream = some record) (unfinished : record.finalized = false)
    (called : store.append { stream := stream } batch (UInt64.ofNat record.rows.size) =
      (reply, after)) :
    ConfinedTo stream store after ∧
      (after.find? stream = some record ∧ (∀ offset, reply ≠ .appended offset) ∨
        after.find? stream = some (record.extend batch)) := by
  rw [append_at_end found unfinished] at called
  cases failure : store.script.appendError with
  | some status =>
      simp only [failure, Prod.mk.injEq] at called
      rw [← called.1, ← called.2]
      refine ⟨⟨fun _ _ => rfl, ?_⟩, Or.inl ⟨found, fun _ => by simp⟩⟩
      intro empty
      rw [empty] at failure
      simp at failure
  | none =>
      simp only [failure, Prod.mk.injEq] at called
      rw [← called.2]
      have spent : ConfinedTo stream store (store.log
          (.append stream (UInt64.ofNat record.rows.size) batch.length)).spendAppend := by
        refine ⟨fun _ _ => rfl, ?_⟩
        intro empty
        simp [spendAppend, log, empty]
      exact ⟨spent.trans (update_confined stream _ _), Or.inr (find?_accept found batch)⟩

/-- With nothing scripted, an append where the stream ends is acknowledged there. -/
theorem append_at_end_of_unscripted {record : StreamRecord}
    (found : store.find? stream = some record) (unfinished : record.finalized = false)
    (unscripted : store.script = {}) (batch : Batch) :
    (store.append { stream := stream } batch (UInt64.ofNat record.rows.size)).1 =
      .appended (UInt64.ofNat record.rows.size) := by
  rw [append_at_end found unfinished, unscripted]
  simp

/-! ### Finalizing -/

theorem finalize_error {status : Status}
    (called : store.finalize stream = (.error status, after)) : SameRecords store after := by
  unfold finalize at called
  cases failures : store.script.finalizeFailures with
  | cons first later =>
      simp only [log, failures, Prod.mk.injEq] at called
      rw [← called.2]
      refine SameRecords.of_streams rfl ?_
      intro empty
      rw [empty] at failures
      simp at failures
  | nil =>
      cases found : store.find? stream with
      | none =>
          simp only [log, failures, find?] at called found
          simp only [found, Prod.mk.injEq] at called
          rw [← called.2]
          refine SameRecords.of_streams rfl ?_
          intro empty
          simp [empty]
      | some record =>
          simp only [log, failures, find?] at called found
          simp [found] at called

/-- A finalization changes no record but its own, and of that one only the mark. -/
theorem finalize_ok {count : Nat} (called : store.finalize stream = (.ok count, after)) :
    ConfinedTo stream store after ∧
      ∃ record, store.find? stream = some record ∧
        after.find? stream = some { record with finalized := true } ∧
        count = store.script.finalizeRowCount.getD record.rows.size := by
  unfold finalize at called
  cases failures : store.script.finalizeFailures with
  | cons first later => simp [log, failures] at called
  | nil =>
      cases found : store.find? stream with
      | none =>
          simp only [log, failures, find?] at called found
          simp [found] at called
      | some record =>
          have present := found
          simp only [log, failures, find?] at called found
          simp only [found, Prod.mk.injEq, Except.ok.injEq] at called
          rw [← called.1, ← called.2]
          refine ⟨⟨?_, ?_⟩, record, rfl, ?_, rfl⟩
          · intro other apart
            rw [find?_update, if_neg apart]
            rfl
          · intro empty
            simp [update, empty]
          · rw [find?_update, if_pos rfl]
            exact congrArg (Option.map _) present

/-- A failure scripted for the next finalization answers it. -/
theorem finalize_of_scripted (stream : String) {status : Status} {later : List Status}
    (failures : store.script.finalizeFailures = status :: later) :
    (store.finalize stream).1 = .error status := by
  simp [finalize, log, failures]

theorem finalize_of_unscripted {record : StreamRecord}
    (found : store.find? stream = some record) (unscripted : store.script = {}) :
    (store.finalize stream).1 = .ok record.rows.size := by
  have present := found
  unfold find? at present
  simp [finalize, log, unscripted, find?, present]

end Store

end RowStream
