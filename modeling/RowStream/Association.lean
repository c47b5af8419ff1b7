/-!
Contract: lists of keys with values, in which the first entry of a key counts.

Owns: `Association.set`, which gives one key a value in its place, and the laws of looking
up.

Main statements: `Association.lookup_cons` and `Association.lookup_set`.
-/

namespace RowStream.Association

variable {κ α : Type} [DecidableEq κ]

/-- The entries with the value of one key set; a new key comes last. -/
def set (key : κ) (value : α) : List (κ × α) → List (κ × α)
  | [] => [(key, value)]
  | entry :: rest =>
      if entry.1 = key then (key, value) :: rest else entry :: set key value rest

theorem lookup_cons (entry : κ × α) (rest : List (κ × α)) (key : κ) :
    (entry :: rest).lookup key = if key = entry.1 then some entry.2 else rest.lookup key := by
  obtain ⟨first, value⟩ := entry
  rw [List.lookup_cons]
  by_cases same : key = first
  · simp [same]
  · rw [if_neg same, beq_false_of_ne same]

/-- Setting a key changes what is found under no other one. -/
theorem lookup_set (key other : κ) (value : α) (entries : List (κ × α)) :
    (set key value entries).lookup other =
      if other = key then some value else entries.lookup other := by
  induction entries with
  | nil => rw [set, lookup_cons]
  | cons entry rest inductionHypothesis =>
      rw [set]
      by_cases found : entry.1 = key
      · rw [if_pos found, lookup_cons, lookup_cons, found]
        by_cases same : other = key
        · rw [if_pos same, if_pos same]
        · rw [if_neg same, if_neg same, if_neg same]
      · rw [if_neg found, lookup_cons, lookup_cons, inductionHypothesis]
        by_cases first : other = entry.1
        · rw [if_pos first, if_pos first, if_neg (first ▸ found)]
        · rw [if_neg first, if_neg first]

end RowStream.Association
