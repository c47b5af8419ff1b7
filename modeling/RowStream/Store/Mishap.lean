import RowStream.Store

/-!
Contract: orders for faults at coming requests of the in-memory service.

Owns: `Mishap`, one constructor an order, and `Store.plan`, which enters it into the
store's script. Refusals of creations and finalizations queue up; any other order
replaces an earlier one of its kind that has not struck yet.
-/

namespace RowStream

/-- An order for a fault that strikes once. -/
inductive Mishap where
  | failCreates (statuses : List Status)
  | failFinalizes (statuses : List Status)
  | failAppend (status : Status)
  | dropAppendResponse
  | skewAck (rows : UInt64)
  | overrideRowCount (rows : Nat)
  | failBind (message : String)
  | failClose (status : Status)
deriving DecidableEq, Repr

/-- The script with one more order. -/
def Script.plan (mishap : Mishap) (script : Script) : Script :=
  match mishap with
  | .failCreates statuses => { script with createFailures := script.createFailures ++ statuses }
  | .failFinalizes statuses =>
      { script with finalizeFailures := script.finalizeFailures ++ statuses }
  | .failAppend status => { script with appendError := some status }
  | .dropAppendResponse => { script with dropAppendResponse := true }
  | .skewAck rows => { script with ackSkew := some rows }
  | .overrideRowCount rows => { script with finalizeRowCount := some rows }
  | .failBind message => { script with bindFailure := some message }
  | .failClose status => { script with closeFailure := some status }

/-- The store with one more order in its script. -/
def Store.plan (mishap : Mishap) (store : Store) : Store :=
  { store with script := store.script.plan mishap }

end RowStream
