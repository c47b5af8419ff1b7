import RowStream.Proofs.Session.Steps

/-!
Contract: what the fields of a session say about each other.

Owns:
- `Session.Consistent`, the totals are those of the buffer, the buffer fits into a request,
  and phase, connection and name agree;
- for each operation the proof that it keeps this in every environment.
-/

namespace RowStream.Session

variable {σ : Type} {environment : Environment σ} {session : Session} {state : σ}

structure Consistent (session : Session) : Prop where
  bytes_eq : session.pendingBytes = session.pending.byteSize
  bytes_le : session.pendingBytes ≤ session.ceiling
  count_eq : session.pendingCount = session.pending.length
  connected_iff : session.appender.isSome ↔ session.phase = .open ∨ session.phase = .failed
  nameless_iff : session.stream = none ↔ session.phase = .aborted
  emptied : session.phase = .committed → session.pending.toList = []

namespace Consistent

theorem fresh (table : String) (schema : Schema) (config : Config) (appender : Appender)
    (created : Retried CreatedStream) (random : Random) :
    Consistent (fresh table schema config appender created random) where
  bytes_eq := rfl
  bytes_le := Nat.zero_le _
  count_eq := rfl
  connected_iff := by simp [Session.fresh]
  nameless_iff := by simp [Session.fresh]
  emptied := by simp [Session.fresh]

/-- While the buffer is within the ceiling, sums that fit beside the ceiling into a word of 64
bits fit beside the buffer too. -/
theorem toNat_add (consistent : Consistent session) {size : Nat}
    (bounded : session.ceiling + size < UInt64.size) :
    (UInt64.ofNat session.pendingBytes + UInt64.ofNat size).toNat =
      session.pendingBytes + size := by
  have within := consistent.bytes_le
  have fits : session.pendingBytes + size < UInt64.size := by omega
  rw [UInt64.toNat_add, UInt64.toNat_ofNat_of_lt' (by omega),
    UInt64.toNat_ofNat_of_lt' (by omega)]
  exact Nat.mod_eq_of_lt fits

/-- A row that fits the ceiling fits the word of the running total as well. -/
theorem buffer {row : Row} (consistent : Consistent session) (isOpen : session.phase = .open)
    (fits : session.pendingBytes + row.size ≤ session.ceiling) :
    Consistent (session.buffer row) where
  bytes_eq := by
    simp only [Session.buffer, Batch.byteSize_push, consistent.bytes_eq]
  bytes_le := fits
  count_eq := by
    simp only [Session.buffer, Batch.length_push, consistent.count_eq]
  connected_iff := consistent.connected_iff
  nameless_iff := consistent.nameless_iff
  emptied := by simp [Session.buffer, isOpen]

theorem acknowledge (consistent : Consistent session) :
    Consistent session.countRequest.acknowledge where
  bytes_eq := rfl
  bytes_le := Nat.zero_le _
  count_eq := rfl
  connected_iff := consistent.connected_iff
  nameless_iff := consistent.nameless_iff
  emptied _ := rfl

/-- Only an open session can fail. -/
theorem fail (consistent : Consistent session) (isOpen : session.phase = .open) :
    Consistent session.fail where
  bytes_eq := consistent.bytes_eq
  bytes_le := consistent.bytes_le
  count_eq := consistent.count_eq
  connected_iff := by
    have connected := consistent.connected_iff.mpr (Or.inl isOpen)
    simp [Session.fail, connected]
  nameless_iff := by
    have named := consistent.nameless_iff
    simp only [isOpen, reduceCtorEq, iff_false] at named
    simp [Session.fail, named]
  emptied := by simp [Session.fail]

theorem flush {ended : Except SessionError Unit × Session × σ} (consistent : Consistent session)
    (isOpen : session.phase = .open) (step : FlushStep environment session state ended) :
    Consistent ended.2.1 := by
  cases step with
  | interrupted cancelled => exact consistent.fail isOpen
  | unconnected closed => exact consistent
  | rejected going connected sent judged =>
      have failed := consistent.fail isOpen
      exact ⟨failed.bytes_eq, failed.bytes_le, failed.count_eq, failed.connected_iff,
        failed.nameless_iff, failed.emptied⟩
  | acknowledged going connected sent => exact consistent.acknowledge

theorem add {row : Row} {ended : Except SessionError Unit × Session × σ}
    (consistent : Consistent session) (step : AddStep environment row session state ended) :
    Consistent ended.2.1 := by
  cases step with
  | closed past => exact consistent
  | buffered isOpen fits => exact consistent.buffer isOpen fits
  | tooLarge isOpen large => exact consistent
  | stuck isOpen overflows fits flushed => exact consistent.flush isOpen flushed
  | flushed isOpen overflows fits flushed =>
      cases flushed with
      | acknowledged going connected sent =>
          have emptied := consistent.acknowledge
          have counted : Consistent session.countRequest.acknowledge.countForcedFlush :=
            ⟨emptied.bytes_eq, emptied.bytes_le, emptied.count_eq, emptied.connected_iff,
              emptied.nameless_iff, emptied.emptied⟩
          refine counted.buffer isOpen ?_
          change 0 + row.size ≤ session.ceiling
          omega

theorem conclude {ended : Except SessionError Nat × Session × σ}
    (consistent : Consistent session) (isOpen : session.phase = .open)
    (empty : session.pending.toList = []) (step : ConcludeStep environment session state ended) :
    Consistent ended.2.1 := by
  have failed := consistent.fail isOpen
  have named := consistent.nameless_iff
  simp only [isOpen, reduceCtorEq, iff_false] at named
  cases step with
  | interrupted cancelled => exact failed
  | refused going gaveUp =>
      exact ⟨failed.bytes_eq, failed.bytes_le, failed.count_eq, failed.connected_iff,
        failed.nameless_iff, failed.emptied⟩
  | miscounted going answered differs =>
      exact ⟨failed.bytes_eq, failed.bytes_le, failed.count_eq, failed.connected_iff,
        failed.nameless_iff, failed.emptied⟩
  | finalized going answered agrees =>
      exact
        { bytes_eq := consistent.bytes_eq
          bytes_le := consistent.bytes_le
          count_eq := consistent.count_eq
          connected_iff := by simp [finish]
          nameless_iff := by simp [finish, countFinalize, named]
          emptied := fun _ => empty }

theorem commit {ended : Except SessionError Nat × Session × σ}
    (consistent : Consistent session) (step : CommitStep environment session state ended) :
    Consistent ended.2.1 := by
  cases step with
  | closed past => exact consistent
  | unbuffered isOpen empty concluded => exact consistent.conclude isOpen empty concluded
  | stuck isOpen waiting flushed => exact consistent.flush isOpen flushed
  | flushed isOpen waiting flushed concluded =>
      cases flushed with
      | acknowledged going connected sent =>
          exact consistent.acknowledge.conclude isOpen rfl concluded

theorem totals_of_emptied (consistent : Consistent session)
    (empty : session.pending.toList = []) :
    session.pendingCount = 0 ∧ session.pendingBytes = 0 := by
  have nothing : session.pending = {} := by
    have rows : session.pending.rows = #[] := Array.toList_eq_nil_iff.mp empty
    rw [← rows]
  rw [consistent.count_eq, consistent.bytes_eq, nothing]
  exact ⟨rfl, rfl⟩

theorem giveUp (session : Session) : Consistent session.giveUp where
  bytes_eq := rfl
  bytes_le := Nat.zero_le _
  count_eq := rfl
  connected_iff := by simp [Session.giveUp]
  nameless_iff := by simp [Session.giveUp]
  emptied := by simp [Session.giveUp]

end Consistent

end RowStream.Session
