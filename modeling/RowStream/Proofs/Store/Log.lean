import RowStream.Proofs.Store.Requests

/-!
Contract: what each request to the store leaves in its log.

Owns:
- `Call.stream?`, the stream that a logged request concerns, and `Store.callsOn`, the log
  restricted to one stream;
- `Contiguous`, append entries of which each starts where the one before it ends;
- `Store.Advances`, what a request does to a store beside its records, and for each request
  the entry it leaves, which does not depend on its answer except where a connection is set up.
-/

namespace RowStream

/-- The stream that a request names; a creation names none yet. -/
def Call.stream? : Call → Option String
  | .create _ => none
  | .bind stream => some stream
  | .append stream _ _ => some stream
  | .finalize stream => some stream
  | .close stream => some stream

/-- Offset and number of rows of the entries of consecutive appends, the first of which
starts at an offset. -/
def Contiguous : UInt64 → List (UInt64 × Nat) → Prop
  | _, [] => True
  | start, (offset, rows) :: later => offset = start ∧ Contiguous (start + UInt64.ofNat rows) later

def rowTotal : List (UInt64 × Nat) → Nat
  | [] => 0
  | (_, rows) :: later => rows + rowTotal later

theorem rowTotal_append (front back : List (UInt64 × Nat)) :
    rowTotal (front ++ back) = rowTotal front + rowTotal back := by
  induction front with
  | nil => simp [rowTotal]
  | cons first later inductionHypothesis =>
      simp [rowTotal, inductionHypothesis, Nat.add_assoc]

theorem rowTotal_singleton (offset : UInt64) (rows : Nat) : rowTotal [(offset, rows)] = rows := rfl

/-- An append at the offset where the earlier ones end continues them. -/
theorem Contiguous.append_at_end {start : UInt64} {appends : List (UInt64 × Nat)}
    (contiguous : Contiguous start appends) (rows : Nat) :
    Contiguous start (appends ++ [(start + UInt64.ofNat (rowTotal appends), rows)]) := by
  induction appends generalizing start with
  | nil => exact ⟨UInt64.add_zero start, trivial⟩
  | cons first later inductionHypothesis =>
      obtain ⟨offset, firstRows⟩ := first
      obtain ⟨atStart, contiguous⟩ := contiguous
      have whole : start + UInt64.ofNat (rowTotal ((offset, firstRows) :: later)) =
          start + UInt64.ofNat firstRows + UInt64.ofNat (rowTotal later) := by
        simp [rowTotal, UInt64.ofNat_add, UInt64.add_assoc]
      rw [whole]
      exact ⟨atStart, inductionHypothesis contiguous⟩

namespace Store

variable {store before after : Store}

def callsOn (stream : String) (store : Store) : List Call :=
  store.calls.toList.filter fun call => decide (call.stream? = some stream)

/-- What requests leave behind beside the records: these entries in the log, a count of
streams that did not fall, and no row count scripted that was not scripted before. -/
structure Advances (entries : List Call) (before after : Store) : Prop where
  calls : after.calls.toList = before.calls.toList ++ entries
  created_le : before.created ≤ after.created
  spent : ∀ rows, after.script.finalizeRowCount = some rows →
    before.script.finalizeRowCount = some rows

namespace Advances

theorem refl (store : Store) : Advances [] store store :=
  ⟨(List.append_nil _).symm, Nat.le_refl _, fun _ scripted => scripted⟩

theorem trans {early late : List Call} {first second third : Store}
    (left : Advances early first second) (right : Advances late second third) :
    Advances (early ++ late) first third where
  calls := by rw [right.calls, left.calls, List.append_assoc]
  created_le := Nat.le_trans left.created_le right.created_le
  spent rows scripted := left.spent rows (right.spent rows scripted)

theorem callsOn {entries : List Call} (advances : Advances entries before after)
    (stream : String) :
    after.callsOn stream = before.callsOn stream ++
      entries.filter fun call => decide (call.stream? = some stream) := by
  rw [Store.callsOn, Store.callsOn, advances.calls, List.filter_append]

theorem createCalls_eq {entries : List Call} (advances : Advances entries before after) :
    after.createCalls =
      before.createCalls + ({ calls := entries.toArray } : Store).createCalls := by
  rw [createCalls, advances.calls, List.countP_append]
  rfl

theorem appendOffsets_eq {entries : List Call} (advances : Advances entries before after) :
    after.appendOffsets =
      before.appendOffsets ++ ({ calls := entries.toArray } : Store).appendOffsets := by
  rw [appendOffsets, advances.calls, List.filterMap_append]
  rfl

theorem finalizeCalls_eq {entries : List Call} (advances : Advances entries before after) :
    after.finalizeCalls =
      before.finalizeCalls + ({ calls := entries.toArray } : Store).finalizeCalls := by
  rw [finalizeCalls, advances.calls, List.countP_append]
  rfl

theorem callsOn_of_concerned {call : Call} {stream : String}
    (advances : Advances [call] before after) (concerned : call.stream? = some stream) :
    after.callsOn stream = before.callsOn stream ++ [call] := by
  rw [advances.callsOn stream]
  simp [concerned]

/-- A store that has one entry more and is the same as before but for records and script. -/
theorem of_log {call : Call} (calls : after.calls = before.calls.push call)
    (created : after.created = before.created)
    (spent : ∀ rows, after.script.finalizeRowCount = some rows →
      before.script.finalizeRowCount = some rows) : Advances [call] before after where
  calls := by rw [calls, Array.toList_push]
  created_le := Nat.le_of_eq created.symm
  spent := spent

end Advances

/-! ### Entries -/

theorem create_advances (parent : String) (kind : StreamKind) (store : Store) :
    Advances [.create parent] store (store.create parent kind).2 := by
  unfold create
  simp only
  split
  · exact .of_log rfl rfl fun _ scripted => scripted
  · exact ⟨Array.toList_push, Nat.le_succ _, fun _ scripted => scripted⟩

/-- Setting up a connection is logged only if it succeeds. -/
theorem bind_advances (stream : String) (schema : Schema) (store : Store) :
    Advances (match (store.bind stream schema).1 with
      | .ok _ => [.bind stream]
      | .error _ => []) store (store.bind stream schema).2 := by
  unfold bind
  cases store.script.bindFailure with
  | some message =>
      exact ⟨(List.append_nil _).symm, Nat.le_refl _, fun _ scripted => scripted⟩
  | none => exact .of_log rfl rfl fun _ scripted => scripted

theorem write_advances (stream : String) (batch : Batch) (offset : UInt64) (store : Store) :
    Advances [] store (store.write stream batch offset).2 := by
  have accepted : Advances [] store (store.accept stream batch) :=
    ⟨(List.append_nil _).symm, Nat.le_refl _, fun _ scripted => scripted⟩
  unfold write
  split
  · exact .refl store
  · simp only
    split
    · exact .refl store
    · split
      · exact .refl store
      · split
        · exact .refl store
        · exact accepted

theorem receive_advances (stream : String) (batch : Batch) (offset : UInt64) (store : Store) :
    Advances [.append stream offset batch.length] store
      (store.receive stream batch offset).2 := by
  unfold receive
  simp only
  split
  · exact .of_log rfl rfl fun _ scripted => scripted
  · have begun : Advances [.append stream offset batch.length] store
        (store.log (.append stream offset batch.length)).spendAppend :=
      .of_log rfl rfl fun _ scripted => scripted
    have written := begun.trans (write_advances stream batch offset
      (store.log (.append stream offset batch.length)).spendAppend)
    split
    · exact written
    · exact written

/-- An append on a connection that stands is logged whatever becomes of it. -/
theorem append_advances {appender : Appender} (connected : appender.closed = false)
    (batch : Batch) (offset : UInt64) (store : Store) :
    Advances [.append appender.stream offset batch.length] store
      (store.append appender batch offset).2 := by
  rw [append, connected]
  exact receive_advances appender.stream batch offset store

theorem close_advances {appender : Appender} (connected : appender.closed = false)
    (store : Store) : Advances [.close appender.stream] store (store.close appender).2 := by
  unfold close
  rw [connected]
  simp only [Bool.false_eq_true, if_false]
  split
  · exact .of_log rfl rfl fun _ scripted => scripted
  · exact .of_log rfl rfl fun _ scripted => scripted

theorem finalize_advances (stream : String) (store : Store) :
    Advances [.finalize stream] store (store.finalize stream).2 := by
  unfold finalize
  simp only
  split
  · exact .of_log rfl rfl fun _ scripted => scripted
  · split
    · exact .of_log rfl rfl fun _ scripted => absurd scripted (by simp)
    · exact .of_log rfl rfl fun _ scripted => absurd scripted (by simp [update])

/-- Over a closed connection nothing is sent. -/
theorem append_of_closed {appender : Appender} (closed : appender.closed = true) (batch : Batch)
    (offset : UInt64) (store : Store) : (store.append appender batch offset).2 = store := by
  rw [append, if_pos closed]

theorem close_of_closed {appender : Appender} (closed : appender.closed = true)
    (store : Store) : (store.close appender).2 = store := by
  rw [close, if_pos closed]

/-! ### Any request -/

/-- A request leaves the one entry that it can leave, or none. -/
def Logs (call : Call) (before after : Store) : Prop :=
  ∃ entries : List Call, entries.Sublist [call] ∧ Advances entries before after

theorem Advances.logs {call : Call} (advances : Advances [call] before after) :
    Logs call before after :=
  ⟨[call], List.Sublist.refl _, advances⟩

theorem logs_refl (call : Call) (store : Store) : Logs call store store :=
  ⟨[], List.nil_sublist _, .refl store⟩

theorem bind_logs (stream : String) (schema : Schema) (store : Store) :
    Logs (.bind stream) store (store.bind stream schema).2 := by
  refine ⟨_, ?_, store.bind_advances stream schema⟩
  split
  · exact List.Sublist.refl _
  · exact List.nil_sublist _

theorem append_logs (appender : Appender) (batch : Batch) (offset : UInt64) (store : Store) :
    Logs (.append appender.stream offset batch.length) store
      (store.append appender batch offset).2 := by
  cases closed : appender.closed with
  | true =>
      rw [append_of_closed closed]
      exact logs_refl _ store
  | false => exact (append_advances closed batch offset store).logs

theorem close_logs (appender : Appender) (store : Store) :
    Logs (.close appender.stream) store (store.close appender).2 := by
  cases closed : appender.closed with
  | true =>
      rw [close_of_closed closed]
      exact logs_refl _ store
  | false => exact (close_advances closed store).logs

end Store

end RowStream
