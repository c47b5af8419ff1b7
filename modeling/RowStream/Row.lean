/-!
Contract: rows as bytes, and batches of them.

Owns:
- `Row`, one serialized row;
- `Batch`, the rows of one append request in order, with their count and payload size.

Main statements: `Batch.byteSize_push` and `Batch.byteSize_append`, payload sizes add up.
-/

namespace RowStream

/-- One serialized row. -/
abbrev Row := ByteArray

/-- A row that holds one byte again and again. -/
def filledRow (size : Nat) (byte : UInt8) : Row :=
  size.fold (fun _ _ row => row.push byte) .empty

theorem size_filledRow (size : Nat) (byte : UInt8) : (filledRow size byte).size = size := by
  unfold filledRow
  induction size with
  | zero => rfl
  | succ size inductionHypothesis => simp [Nat.fold_succ, inductionHypothesis]

/-- Rows in the order in which they are written. -/
structure Batch where
  rows : Array Row := #[]

namespace Batch

instance : Inhabited Batch := ⟨{}⟩

def ofList (rows : List Row) : Batch := ⟨rows.toArray⟩

def toList (batch : Batch) : List Row := batch.rows.toList

def push (batch : Batch) (row : Row) : Batch := ⟨batch.rows.push row⟩

def length (batch : Batch) : Nat := batch.rows.size

def isEmpty (batch : Batch) : Bool := batch.rows.isEmpty

/-- Total payload in bytes. -/
def byteSize (batch : Batch) : Nat :=
  batch.rows.foldl (fun total row => total + row.size) 0

@[simp] theorem toList_empty : ({} : Batch).toList = [] := rfl

@[simp] theorem toList_push (batch : Batch) (row : Row) :
    (batch.push row).toList = batch.toList ++ [row] := by
  simp [push, toList]

@[simp] theorem toList_ofList (rows : List Row) : (ofList rows).toList = rows := rfl

@[simp] theorem length_empty : ({} : Batch).length = 0 := rfl

@[simp] theorem length_push (batch : Batch) (row : Row) :
    (batch.push row).length = batch.length + 1 := by
  simp [push, length]

theorem length_toList (batch : Batch) : batch.toList.length = batch.length := by
  simp [toList, length]

private theorem foldl_size_add (rows : List Row) (start : Nat) :
    rows.foldl (fun total row => total + row.size) start =
      start + rows.foldl (fun total row => total + row.size) 0 := by
  induction rows generalizing start with
  | nil => rfl
  | cons row rest inductionHypothesis =>
      rw [List.foldl_cons, List.foldl_cons, inductionHypothesis, inductionHypothesis (0 + row.size)]
      omega

@[simp] theorem byteSize_empty : ({} : Batch).byteSize = 0 := rfl

theorem byteSize_push (batch : Batch) (row : Row) :
    (batch.push row).byteSize = batch.byteSize + row.size := by
  simp [byteSize, push]

/-- Sizes add up, wherever a batch is cut in two. -/
theorem byteSize_append (left right : List Row) :
    (ofList (left ++ right)).byteSize = (ofList left).byteSize + (ofList right).byteSize := by
  simp only [byteSize, ofList, List.foldl_toArray, List.foldl_append]
  rw [foldl_size_add right]

theorem isEmpty_iff (batch : Batch) : batch.isEmpty = true ↔ batch.toList = [] := by
  simp [isEmpty, toList]

end Batch

end RowStream
