import Mathlib.Data.List.Chain
import Mathlib.Order.Bounds.Defs
import RowStream.Row

/-!
Contract: dividing rows into consecutive batches under a ceiling.

Owns:
- `Batch.Splits`, the divisions of a list of rows into batches that may be sent;
- `Batch.Greedy`, the division whose batches end only where the next row would not fit;
- `Batch.pack`, which computes it row by row.

Main statements: `Batch.greedy_iff`, there is exactly one greedy division, and
`Batch.isLeast_length_pack`, no division has fewer batches.
-/

namespace RowStream.Batch

variable {ceiling : Nat} {rows : List Row} {batches : List Batch}

/-- The batches are the rows in their order; none is empty, and none exceeds the ceiling. -/
structure Splits (ceiling : Nat) (rows : List Row) (batches : List Batch) : Prop where
  rows_eq : batches.flatMap toList = rows
  nonempty : ∀ batch ∈ batches, batch.toList ≠ []
  within : ∀ batch ∈ batches, batch.byteSize ≤ ceiling

/-- The first row of the next batch would not have fitted into this one. -/
def ClosedBy (ceiling : Nat) (batch next : Batch) : Prop :=
  ∀ row, next.toList.head? = some row → ceiling < batch.byteSize + row.size

/-- A division in which each batch ends only where the next row would not fit. -/
structure Greedy (ceiling : Nat) (rows : List Row) (batches : List Batch) : Prop extends
    Splits ceiling rows batches where
  closed : batches.IsChain (ClosedBy ceiling)

/-- Puts a row into the last batch, or into a new one if it does not fit there. -/
def place (ceiling : Nat) (batches : List Batch) (row : Row) : List Batch :=
  match batches.getLast? with
  | none => [ofList [row]]
  | some last =>
      if last.byteSize + row.size ≤ ceiling then batches.dropLast ++ [last.push row]
      else batches ++ [ofList [row]]

def pack (ceiling : Nat) (rows : List Row) : List Batch :=
  rows.foldl (place ceiling) []

/-! ### Batches as lists -/

theorem ofList_toList (batch : Batch) : ofList batch.toList = batch := rfl

theorem toList_ne_nil_of_push (batch : Batch) (row : Row) : (batch.push row).toList ≠ [] := by
  simp

theorem push_of_empty {batch : Batch} (empty : batch.toList = []) (row : Row) :
    batch.push row = ofList [row] := by
  rw [← ofList_toList (batch.push row), toList_push, empty]
  rfl

theorem byteSize_singleton (row : Row) : (ofList [row]).byteSize = row.size := by
  simp [byteSize, ofList]

theorem byteSize_cons (row : Row) (rest : List Row) :
    (ofList (row :: rest)).byteSize = row.size + (ofList rest).byteSize := by
  rw [← byteSize_singleton row]
  exact byteSize_append [row] rest

/-! ### Placing rows -/

theorem place_of_fits {last : Batch} {row : Row} (fits : last.byteSize + row.size ≤ ceiling) :
    place ceiling (batches ++ [last]) row = batches ++ [last.push row] := by
  simp [place, fits]

theorem place_of_overflow {last : Batch} {row : Row}
    (overflows : ceiling < last.byteSize + row.size) :
    place ceiling (batches ++ [last]) row = batches ++ [last] ++ [ofList [row]] := by
  simp [place, Nat.not_le.mpr overflows]

theorem pack_concat (rows : List Row) (row : Row) :
    pack ceiling (rows ++ [row]) = place ceiling (pack ceiling rows) row := by
  rw [pack, List.foldl_append]
  rfl

/-- Rows that fit into the last batch together all go there. -/
theorem foldl_place_of_fits {last : Batch}
    (fits : last.byteSize + (ofList rows).byteSize ≤ ceiling) :
    rows.foldl (place ceiling) (batches ++ [last]) =
      batches ++ [ofList (last.toList ++ rows)] := by
  induction rows generalizing last with
  | nil => rw [List.foldl_nil, List.append_nil, ofList_toList]
  | cons row rest inductionHypothesis =>
      rw [byteSize_cons] at fits
      have first : last.byteSize + row.size ≤ ceiling := by omega
      have others : (last.push row).byteSize + (ofList rest).byteSize ≤ ceiling := by
        rw [byteSize_push]
        omega
      rw [List.foldl_cons, place_of_fits first, inductionHypothesis others, toList_push,
        List.append_assoc, List.singleton_append]

/-- Rows of one request open at most one more batch: what follows the row that opens it fits
in beside that row. -/
theorem length_foldl_place_le (fits : (ofList rows).byteSize ≤ ceiling) :
    (rows.foldl (place ceiling) batches).length ≤ batches.length + 1 := by
  induction rows generalizing batches with
  | nil => exact Nat.le_succ _
  | cons row rest inductionHypothesis =>
      rw [byteSize_cons] at fits
      have beside : (ofList [row]).byteSize + (ofList rest).byteSize ≤ ceiling := by
        rw [byteSize_singleton]
        exact fits
      rcases batches.eq_nil_or_concat with none | ⟨earlier, last, some⟩
      · have opened : rest.foldl (place ceiling) ([] ++ [ofList [row]]) =
            [] ++ [ofList ((ofList [row]).toList ++ rest)] := foldl_place_of_fits beside
        rw [none, List.foldl_cons]
        show (rest.foldl (place ceiling) ([] ++ [ofList [row]])).length ≤ 1
        rw [opened]
        exact Nat.le_refl 1
      · rw [List.concat_eq_append] at some
        rw [some, List.foldl_cons]
        by_cases room : last.byteSize + row.size ≤ ceiling
        · rw [place_of_fits room]
          have joined : (earlier ++ [last.push row]).length = (earlier ++ [last]).length := by
            simp
          rw [← joined]
          exact inductionHypothesis (by omega)
        · rw [place_of_overflow (Nat.not_le.mp room), foldl_place_of_fits beside]
          simp

/-! ### The greedy division -/

namespace Greedy

theorem single {row : Row} (fits : row.size ≤ ceiling) :
    Greedy ceiling [row] [ofList [row]] where
  rows_eq := rfl
  nonempty := by simp
  within := by simpa [byteSize_singleton] using fits
  closed := .singleton _

/-- A row that fits joins the last batch. -/
theorem join {earlier : List Batch} {last : Batch} {row : Row}
    (greedy : Greedy ceiling rows (earlier ++ [last]))
    (fits : last.byteSize + row.size ≤ ceiling) :
    Greedy ceiling (rows ++ [row]) (earlier ++ [last.push row]) := by
  obtain ⟨front, _, closing⟩ := List.isChain_append.mp greedy.closed
  refine ⟨⟨?_, ?_, ?_⟩, List.isChain_append.mpr ⟨front, .singleton _, ?_⟩⟩
  · rw [← greedy.rows_eq]
    simp
  · intro batch member
    rcases List.mem_append.mp member with before | here
    · exact greedy.nonempty batch (by simp [before])
    · rw [List.mem_singleton.mp here]
      exact toList_ne_nil_of_push last row
  · intro batch member
    rcases List.mem_append.mp member with before | here
    · exact greedy.within batch (by simp [before])
    · rw [List.mem_singleton.mp here, byteSize_push]
      exact fits
  · -- The batch before still ends where it did: the last batch keeps its first row.
    intro batch member next joined first head
    have same : next = last.push row := by simpa using joined.symm
    have started : last.toList ≠ [] := greedy.nonempty last (by simp)
    rw [same, toList_push, List.head?_append_of_ne_nil _ started] at head
    exact closing batch member last (by simp) first head

/-- A row that does not fit closes the last batch. -/
theorem close {earlier : List Batch} {last : Batch} {row : Row}
    (greedy : Greedy ceiling rows (earlier ++ [last])) (small : row.size ≤ ceiling)
    (overflows : ceiling < last.byteSize + row.size) :
    Greedy ceiling (rows ++ [row]) (earlier ++ [last] ++ [ofList [row]]) := by
  have opened := single small
  refine ⟨⟨?_, ?_, ?_⟩, List.isChain_append.mpr ⟨greedy.closed, opened.closed, ?_⟩⟩
  · rw [List.flatMap_append, greedy.rows_eq, opened.rows_eq]
  · intro batch member
    rcases List.mem_append.mp member with before | here
    · exact greedy.nonempty batch before
    · exact opened.nonempty batch here
  · intro batch member
    rcases List.mem_append.mp member with before | here
    · exact greedy.within batch before
    · exact opened.within batch here
  · intro batch member next begun first head
    have ended : batch = last := by simpa using member.symm
    have same : next = ofList [row] := by simpa using begun.symm
    rw [same, toList_ofList] at head
    rw [ended, ← Option.some.inj head]
    exact overflows

/-- The rows of all batches but the last one are divided greedily by these. -/
theorem front {earlier : List Batch} {last : Batch}
    (greedy : Greedy ceiling rows (earlier ++ [last])) :
    Greedy ceiling (earlier.flatMap toList) earlier where
  rows_eq := rfl
  nonempty batch member := greedy.nonempty batch (by simp [member])
  within batch member := greedy.within batch (by simp [member])
  closed := greedy.closed.left_of_append

/-- The induction is on the batches from the end: the first row of the last batch opens it,
and the others fit in beside that row. -/
theorem eq_pack (greedy : Greedy ceiling rows batches) : batches = pack ceiling rows := by
  induction batches using List.reverseRecOn generalizing rows with
  | nil =>
      have nothing : rows = [] := greedy.rows_eq.symm
      rw [nothing]
      rfl
  | append_singleton earlier last inductionHypothesis =>
      have packed := inductionHypothesis greedy.front
      obtain ⟨row, rest, started⟩ := List.exists_cons_of_ne_nil (greedy.nonempty last (by simp))
      have room : (ofList [row]).byteSize + (ofList rest).byteSize ≤ ceiling := by
        have within := greedy.within last (by simp)
        rw [← ofList_toList last, started, byteSize_cons] at within
        rw [byteSize_singleton]
        exact within
      have opens : place ceiling earlier row = earlier ++ [ofList [row]] := by
        rcases earlier.eq_nil_or_concat with none | ⟨others, previous, some⟩
        · rw [none]
          rfl
        · rw [List.concat_eq_append] at some
          obtain ⟨_, _, closing⟩ := List.isChain_append.mp greedy.closed
          rw [some]
          refine place_of_overflow (closing previous (by simp [some]) last rfl row ?_)
          rw [started]
          rfl
      have divided : rows = earlier.flatMap toList ++ row :: rest := by
        rw [← greedy.rows_eq, List.flatMap_append, List.flatMap_singleton, started]
      rw [divided, pack, List.foldl_append, List.foldl_cons]
      show earlier ++ [last] =
        rest.foldl (place ceiling) (place ceiling (pack ceiling (earlier.flatMap toList)) row)
      rw [← packed, opens, foldl_place_of_fits room, toList_ofList, List.singleton_append,
        ← started, ofList_toList]

end Greedy

theorem pack_greedy (small : ∀ row ∈ rows, row.size ≤ ceiling) :
    Greedy ceiling rows (pack ceiling rows) := by
  induction rows using List.reverseRecOn with
  | nil => exact ⟨⟨rfl, by simp [pack], by simp [pack]⟩, .nil⟩
  | append_singleton rows row inductionHypothesis =>
      have greedy := inductionHypothesis fun earlier member => small earlier (by simp [member])
      have fits : row.size ≤ ceiling := small row (by simp)
      rw [pack_concat]
      rcases (pack ceiling rows).eq_nil_or_concat with none | ⟨earlier, last, some⟩
      · rw [none] at greedy ⊢
        have nothing : rows = [] := greedy.rows_eq.symm
        rw [nothing]
        exact Greedy.single fits
      · rw [List.concat_eq_append] at some
        rw [some] at greedy ⊢
        by_cases room : last.byteSize + row.size ≤ ceiling
        · rw [place_of_fits room]
          exact greedy.join room
        · have overflows := Nat.not_le.mp room
          rw [place_of_overflow overflows]
          exact greedy.close fits overflows

/-- Rows that may be sent have exactly one greedy division. -/
theorem greedy_iff (small : ∀ row ∈ rows, row.size ≤ ceiling) :
    Greedy ceiling rows batches ↔ batches = pack ceiling rows := by
  constructor
  · exact Greedy.eq_pack
  · intro packed
    rw [packed]
    exact pack_greedy small

/-! ### The fewest batches -/

/-- The rows of a request open at most one more batch, so a list of requests opens at most as
many as there are requests. -/
theorem length_foldl_place_flatMap_le (within : ∀ batch ∈ batches, batch.byteSize ≤ ceiling)
    (packed : List Batch) :
    ((batches.flatMap toList).foldl (place ceiling) packed).length ≤
      packed.length + batches.length := by
  induction batches generalizing packed with
  | nil => exact Nat.le_refl _
  | cons batch rest inductionHypothesis =>
      let first := batch.toList.foldl (place ceiling) packed
      have one : first.length ≤ packed.length + 1 :=
        length_foldl_place_le (within batch (by simp))
      have others : ((rest.flatMap toList).foldl (place ceiling) first).length ≤
          first.length + rest.length :=
        inductionHypothesis (fun later member => within later (by simp [member])) first
      rw [List.flatMap_cons, List.foldl_append, List.length_cons]
      show ((rest.flatMap toList).foldl (place ceiling) first).length ≤
        packed.length + (rest.length + 1)
      omega

theorem Splits.length_pack_le (splits : Splits ceiling rows batches) :
    (pack ceiling rows).length ≤ batches.length := by
  have keepsUp := length_foldl_place_flatMap_le splits.within []
  rw [splits.rows_eq, List.length_nil, Nat.zero_add] at keepsUp
  exact keepsUp

/-- No other way to cut the rows into batches needs fewer of them. -/
theorem isLeast_length_pack (small : ∀ row ∈ rows, row.size ≤ ceiling) :
    IsLeast {number | ∃ batches, Splits ceiling rows batches ∧ batches.length = number}
      (pack ceiling rows).length := by
  refine ⟨⟨_, (pack_greedy small).toSplits, rfl⟩, ?_⟩
  rintro number ⟨batches, splits, rfl⟩
  exact splits.length_pack_le

end RowStream.Batch
