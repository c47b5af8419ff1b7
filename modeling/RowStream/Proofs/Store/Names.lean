import RowStream.Store

/-!
Contract: streams created one after the other have different names.

Owns:
- `Store.streamName_inj`, the number of a stream can be read off its name;
- the name that a creation gives, from the count of streams.

A name ends in the digits of its number, and these stand behind a slash whatever the parent is.
-/

namespace RowStream.Store

def trailingDigits (text : String) : List Char := text.toList.reverse.takeWhile Char.isDigit

/-- The number of a stream can be read off its name, whatever the name of its parent ends with. -/
theorem trailingDigits_streamName (parent : String) (number : Nat) :
    trailingDigits (streamName parent number) = (Nat.toDigits 10 number).reverse := by
  have spelled : (streamName parent number).toList =
      parent.toList ++ "/streams".toList ++ '/' :: Nat.toDigits 10 number := by
    unfold streamName
    simp only [String.toList_append, Nat.toString_eq_ofList_toDigits, String.toList_ofList]
    simp [toString]
  have digits : ∀ digit ∈ (Nat.toDigits 10 number).reverse, digit.isDigit = true := by
    intro digit member
    exact Nat.isDigit_of_mem_toDigits (by omega) (by omega) (List.mem_reverse.mp member)
  rw [trailingDigits, spelled, List.reverse_append, List.reverse_cons, List.append_assoc,
    List.takeWhile_append_of_pos digits]
  simp

/-- Streams of different numbers have different names, also under different parents. -/
theorem streamName_inj {parent other : String} {number another : Nat}
    (same : streamName parent number = streamName other another) : number = another := by
  have digits := congrArg trailingDigits same
  rw [trailingDigits_streamName, trailingDigits_streamName, List.reverse_inj] at digits
  have values := congrArg (Nat.ofDigitChars 10 · 0) digits
  simpa only [Nat.ofDigitChars_ten_toDigits] using values

/-! ### The count of streams -/

/-- A creation that fails takes no number. -/
theorem create_error_created {parent : String} {kind : StreamKind} {status : Status}
    {store after : Store} (called : store.create parent kind = (.error status, after)) :
    after.created = store.created := by
  unfold create at called
  simp only at called
  split at called
  · rw [← (Prod.mk.inj called).2]
    rfl
  · simp at called

/-- A creation that succeeds takes the next number. -/
theorem create_ok_created {parent : String} {kind : StreamKind} {created : CreatedStream}
    {store after : Store} (called : store.create parent kind = (.ok created, after)) :
    created.name = streamName parent (store.created + 1) ∧ after.created = store.created + 1 := by
  unfold create at called
  simp only at called
  split at called
  · simp at called
  · rw [← Except.ok.inj (Prod.mk.inj called).1, ← (Prod.mk.inj called).2]
    exact ⟨rfl, rfl⟩

end RowStream.Store
