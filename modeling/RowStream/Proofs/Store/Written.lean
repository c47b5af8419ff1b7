import RowStream.Proofs.Session.Renaming
import RowStream.Proofs.Store.Names

/-!
Contract: what requests for one stream leave behind in a service without faults.

Owns:
- `Store.Wrote`, the record and the log entries of one stream, everything else being as it was;
- for each request for a stream at its end, its answer and what it wrote.
-/

namespace RowStream.Store

variable {name : String} {record later : StreamRecord} {store before after : Store}

/-- What requests for one stream leave behind: its record, their entries in the log, and
everything else as it was. -/
structure Wrote (name : String) (record : StreamRecord) (calls : List Call)
    (before after : Store) : Prop where
  found : after.find? name = some record
  heard : after.callsOn name = before.callsOn name ++ calls.map (Call.onStream name)
  records : ∀ other, other ≠ name → after.find? other = before.find? other
  unheard : ∀ other, other ≠ name → after.callsOn other = before.callsOn other
  unscripted : after.script = {}
  created_le : before.created ≤ after.created

namespace Wrote

theorem refl (unscripted : store.script = {}) (found : store.find? name = some record) :
    Wrote name record [] store store :=
  ⟨found, (List.append_nil _).symm, fun _ _ => rfl, fun _ _ => rfl, unscripted, Nat.le_refl _⟩

theorem trans {early late : List Call} {first second third : Store}
    (left : Wrote name record early first second) (right : Wrote name later late second third) :
    Wrote name later (early ++ late) first third where
  found := right.found
  heard := by rw [right.heard, left.heard, List.map_append, List.append_assoc]
  records other apart := (right.records other apart).trans (left.records other apart)
  unheard other apart := (right.unheard other apart).trans (left.unheard other apart)
  unscripted := right.unscripted
  created_le := Nat.le_trans left.created_le right.created_le

/-- One request for a stream that leaves one entry. -/
theorem of_request {call : Call} (unscripted : before.script = {})
    (confined : ConfinedTo name before after) (found : after.find? name = some record)
    (advances : Advances [call.onStream name] before after) (concerned : call.stream?.isSome) :
    Wrote name record [call] before after := by
  have names : (call.onStream name).stream? = some name := by
    obtain ⟨stream, concerned⟩ := Option.isSome_iff_exists.mp concerned
    rw [Call.stream?_onStream, concerned]
    rfl
  refine ⟨found, advances.callsOn_of_concerned names, confined.others, ?_,
    confined.unscripted unscripted, advances.created_le⟩
  intro other apart
  rw [advances.callsOn other]
  simp [names, Ne.symm apart]

end Wrote

/-- The stream with the next number is created empty. No other had its name. -/
theorem create_wrote (unscripted : store.script = {}) (parent : String) (kind : StreamKind)
    (named : streamName parent (store.created + 1) = name) :
    store.create parent kind = (.ok ⟨name, kind⟩, (store.create parent kind).2) ∧
      Wrote name { kind := kind } [] store (store.create parent kind).2 ∧
      (store.create parent kind).2.created = store.created + 1 := by
  subst named
  have answered := create_of_unscripted parent kind unscripted
  have created : store.create parent kind = (.ok _, (store.create parent kind).2) :=
    Prod.ext answered rfl
  obtain ⟨confined, found⟩ := create_ok created
  have advances := create_advances parent kind store
  refine ⟨created, ⟨found, ?_, confined.others, ?_, confined.unscripted unscripted,
    advances.created_le⟩, (create_ok_created created).2⟩
  · rw [advances.callsOn]
    rfl
  · intro other apart
    rw [advances.callsOn]
    exact List.append_nil _

theorem bind_wrote (unscripted : store.script = {}) (found : store.find? name = some record)
    (schema : Schema) (stream : String) :
    store.bind name schema = (.ok { stream := name }, (store.bind name schema).2) ∧
      Wrote name record [.bind stream] store (store.bind name schema).2 := by
  have answered := bind_of_unscripted name schema unscripted
  have same := bind_records name schema store
  have advances := bind_advances name schema store
  rw [answered] at advances
  exact ⟨Prod.ext answered rfl, .of_request unscripted (same.confined name)
    ((same.records name).trans found) advances rfl⟩

/-- With nothing scripted, an append where the stream ends is stored there. The entry is told
under any name, as all of them are. -/
theorem append_wrote (unscripted : store.script = {}) (found : store.find? name = some record)
    (unfinished : record.finalized = false) (batch : Batch) (stream : String) :
    store.append { stream := name } batch (UInt64.ofNat record.rows.size) =
        (.appended (UInt64.ofNat record.rows.size),
          (store.append { stream := name } batch (UInt64.ofNat record.rows.size)).2) ∧
      Wrote name (record.extend batch)
        [.append stream (UInt64.ofNat record.rows.size) batch.length] store
        (store.append { stream := name } batch (UInt64.ofNat record.rows.size)).2 := by
  have answered := append_at_end_of_unscripted found unfinished unscripted batch
  obtain ⟨confined, unwritten | written⟩ := append_at_end_records found unfinished
    (show store.append { stream := name } batch (UInt64.ofNat record.rows.size) = (_, _) from rfl)
  · exact absurd answered (unwritten.2 _)
  · have connected : ({ stream := name } : Appender).closed = false := rfl
    exact ⟨Prod.ext answered rfl, .of_request unscripted confined written
      (append_advances connected batch (UInt64.ofNat record.rows.size) store) rfl⟩

/-- Without a script a stream that exists is finalized, and its rows are counted. -/
theorem finalize_wrote (unscripted : store.script = {})
    (found : store.find? name = some record) (stream : String) :
    store.finalize name = (.ok record.rows.size, (store.finalize name).2) ∧
      Wrote name { record with finalized := true } [.finalize stream] store
        (store.finalize name).2 := by
  have answered := finalize_of_unscripted found unscripted
  obtain ⟨confined, present, known, ended, -⟩ := finalize_ok (Prod.ext answered rfl)
  obtain rfl := Option.some.inj (found.symm.trans known)
  exact ⟨Prod.ext answered rfl,
    .of_request unscripted confined ended (finalize_advances name store) rfl⟩

theorem close_wrote (unscripted : store.script = {}) (found : store.find? name = some record)
    (stream : String) :
    store.close { stream := name } = (.ok (), (store.close { stream := name }).2) ∧
      Wrote name record [.close stream] store (store.close { stream := name }).2 := by
  have connected : ({ stream := name } : Appender).closed = false := rfl
  have same := close_records { stream := name } store
  exact ⟨Prod.ext (close_of_unscripted _ unscripted) rfl,
    .of_request unscripted (same.confined name) ((same.records name).trans found)
      (close_advances connected store) rfl⟩

end RowStream.Store
