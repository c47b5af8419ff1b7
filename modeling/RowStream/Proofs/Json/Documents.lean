import RowStream.Proofs.Json.Numerals
import RowStream.Proofs.Json.Strings

/-!
Contract: documents are read back.

Owns: `Json.Canonical`, the values whose numerals are such as reading leaves, and whose texts are
texts.

Main statement: `Json.parse?_compact`, the compact form of such a value is read as that value. The
induction is on the value; the fuel that reading takes is bounded by the length of the form, and
what follows a value inside of another is a comma or a closing bracket, which no number goes on
with.
-/

namespace RowStream.Json

mutual

/-- The values that reading can leave. -/
def Canonical : Json → Prop
  | .null => True
  | .bool _ => True
  | .number numeral => numeral.Canonical
  | .string _ => True
  | .array items => CanonicalItems items
  | .object members => CanonicalMembers members
  | .illFormed => False

def CanonicalItems : List Json → Prop
  | [] => True
  | item :: rest => item.Canonical ∧ CanonicalItems rest

def CanonicalMembers : List (String × Json) → Prop
  | [] => True
  | (_, value) :: rest => value.Canonical ∧ CanonicalMembers rest

end

variable {rest characters : List Char} {fuel : Nat}

/-! ### What a value starts with -/

theorem numeralOf?_nil (negative : Bool) (fraction : Option (List Char)) (exponent : Option Int) :
    numeralOf? negative [] fraction exponent = none := by
  simp [numeralOf?, wholeDigits?]

/-- A number starts with a sign or a digit. -/
theorem number?_starts {result : Numeral × List Char} (read : number? characters = some result) :
    ∃ first later, characters = first :: later ∧ (first = '-' ∨ first.isDigit = true) := by
  cases characters with
  | nil => cases read
  | cons first later =>
      refine ⟨first, later, rfl, ?_⟩
      by_contra neither
      obtain ⟨unsigned, noDigit⟩ := not_or.mp neither
      have sign := signPart_signChars false
        (show (first :: later).head? ≠ some '-' from fun same => unsigned (Option.some.inj same))
      have scanned : (first :: later).takeWhile Char.isDigit = [] :=
        List.takeWhile_cons_of_neg noDigit
      rw [signChars, if_neg Bool.false_ne_true, List.nil_append] at sign
      simp only [number?, sign, scanned, numeralOf?_nil, Option.bind_eq_bind, Option.bind_none,
        Option.bind_fun_none, reduceCtorEq] at read

/-- A character that is no blank is not skipped, nor is what follows it. -/
theorem skipSpace_of_visible {first : Char} {later : List Char} (visible : isSpace first = false) :
    skipSpace (first :: later) = first :: later :=
  List.dropWhile_cons_of_neg (by rw [visible]; exact Bool.false_ne_true)

theorem ne_of_starts {first : Char} (start : first = '-' ∨ first.isDigit = true) (other : Char)
    (odd : other ≠ '-' ∧ other.isDigit = false) : first ≠ other := by
  rintro rfl
  rcases start with minus | digit
  · exact odd.1 minus
  · exact absurd (odd.2.symm.trans digit) Bool.false_ne_true

theorem isSpace_of_starts {first : Char} (start : first = '-' ∨ first.isDigit = true) :
    isSpace first = false := by
  have apart := ne_of_starts start
  simp [isSpace, apart ' ' (by decide), apart '\n' (by decide), apart '\t' (by decide),
    apart '\r' (by decide)]

theorem value?_number {numeral : Numeral} (read : number? characters = some (numeral, rest)) :
    value? (fuel + 1) characters = some (.number numeral, rest) := by
  obtain ⟨first, later, rfl, start⟩ := number?_starts read
  rw [value?, skipSpace_of_visible (isSpace_of_starts start)]
  split
  case h_7 => rw [read]; rfl
  all_goals
    next same => exact absurd (List.cons.inj same).1 (ne_of_starts start _ (by decide))

/-! ### Values inside of others -/

/-- A bracket that closes is no value, by which an empty array is told apart. -/
theorem value?_closing (fuel : Nat) (later : List Char) : value? fuel (']' :: later) = none := by
  cases fuel with
  | zero => rfl
  | succ fuel => rfl

theorem items?_closing (fuel : Nat) (later : List Char) : items? fuel (']' :: later) = none := by
  cases fuel with
  | zero => rfl
  | succ fuel => rw [items?, value?_closing]

/-- Items make an array, since no item starts with the closing bracket. -/
theorem value?_array {items : List Json} (read : items? fuel characters = some (items, rest))
    (visible : skipSpace characters = characters) :
    value? (fuel + 1) ('[' :: characters) = some (.array items, rest) := by
  simp only [value?, skipSpace_of_visible (show isSpace '[' = false from rfl), visible]
  split
  · rw [items?_closing] at read
    cases read
  · rw [read]
    rfl

theorem members?_closing (fuel : Nat) (later : List Char) :
    members? fuel ('}' :: later) = none := by
  cases fuel with
  | zero => rfl
  | succ fuel => rfl

theorem objectOf_named (members : List (String × Json)) :
    objectOf (members.map fun member => (some member.1, member.2)) = .object members := by
  have back : ((fun member : Option String × Json => member.1.map (·, member.2)) ∘
      fun member : String × Json => (some member.1, member.2)) =
        fun member => pure (id member) := rfl
  have whole : (members.map fun member => (some member.1, member.2)).mapM
      (fun member : Option String × Json => member.1.map (·, member.2)) = some members := by
    rw [List.mapM_map, back, List.mapM_pure, List.map_id]
    rfl
  rw [objectOf, whole]

/-- Members with names that are texts make an object. -/
theorem value?_object {members : List (String × Json)}
    (read : members? fuel characters =
      some (members.map fun member => (some member.1, member.2), rest))
    (visible : skipSpace characters = characters) :
    value? (fuel + 1) ('{' :: characters) = some (.object members, rest) := by
  simp only [value?, skipSpace_of_visible (show isSpace '{' = false from rfl), visible]
  split
  · rw [members?_closing] at read
    cases read
  · rw [read, Option.map_some, objectOf_named]

theorem endsNumber_nil : EndsNumber [] := by
  rintro character ⟨⟩

theorem endsNumber_comma : EndsNumber (',' :: rest) := by
  rintro character ⟨⟩
  decide

theorem endsNumber_bracket : EndsNumber (']' :: rest) := by
  rintro character ⟨⟩
  decide

theorem endsNumber_brace : EndsNumber ('}' :: rest) := by
  rintro character ⟨⟩
  decide

/-- The compact form starts with no blank. -/
theorem skipSpace_compactChars {json : Json} (canonical : json.Canonical) (rest : List Char) :
    skipSpace (json.compactChars ++ rest) = json.compactChars ++ rest := by
  cases json with
  | number numeral =>
      obtain ⟨first, later, written, start⟩ :=
        number?_starts (number?_write canonical endsNumber_nil)
      rw [List.append_nil] at written
      rw [compactChars, written]
      exact skipSpace_of_visible (isSpace_of_starts start)
  | bool value => cases value <;> rfl
  | illFormed => exact canonical.elim
  | _ => rfl

theorem skipSpace_compactItems {items : List Json} (canonical : CanonicalItems items)
    (someItems : items ≠ []) (rest : List Char) :
    skipSpace (compactItems items ++ rest) = compactItems items ++ rest := by
  match items with
  | [] => exact absurd rfl someItems
  | [item] => exact skipSpace_compactChars canonical.1 rest
  | item :: next :: later =>
      rw [compactItems, List.append_assoc]
      exact skipSpace_compactChars canonical.1 _

theorem skipSpace_compactMembers {members : List (String × Json)} (someMembers : members ≠ [])
    (rest : List Char) :
    skipSpace (compactMembers members ++ rest) = compactMembers members ++ rest := by
  match members with
  | [] => exact absurd rfl someMembers
  | [_] => rfl
  | _ :: _ :: _ => rfl

mutual

/-- A written value is read back in front of anything that cannot continue it. The induction goes
over the value together with its elements and its members; the fuel only has to exceed the length
of the text. -/
theorem value?_compactChars (json : Json) (fuel : Nat) (rest : List Char)
    (canonical : json.Canonical) (ends : EndsNumber rest)
    (enough : json.compactChars.length < fuel) :
    value? fuel (json.compactChars ++ rest) = some (json, rest) := by
  obtain ⟨fuel, rfl⟩ : ∃ smaller, fuel = smaller + 1 := Nat.exists_eq_add_one.mpr (by omega)
  match json with
  | .null => rfl
  | .bool value => cases value <;> rfl
  | .number numeral => exact value?_number (number?_write canonical ends)
  | .string text =>
      simp only [compactChars, quoteChars, List.cons_append, value?, List.append_assoc,
        skipSpace_of_visible (show isSpace '"' = false from rfl), List.nil_append,
        stringBody_text]
  | .array [] => rfl
  | .array (item :: items) =>
      rw [compactChars, List.length_append, List.length_cons, List.length_singleton] at enough
      have read := items?_compactItems (item :: items) fuel rest canonical (List.cons_ne_nil _ _)
        (by omega)
      rw [compactChars, List.append_assoc]
      exact value?_array read (skipSpace_compactItems canonical (List.cons_ne_nil _ _) _)
  | .object [] => rfl
  | .object (member :: members) =>
      rw [compactChars, List.length_append, List.length_cons, List.length_singleton] at enough
      have read := members?_compactMembers (member :: members) fuel rest canonical
        (List.cons_ne_nil _ _) (by omega)
      rw [compactChars, List.append_assoc]
      exact value?_object read (skipSpace_compactMembers (List.cons_ne_nil _ _) _)
  | .illFormed => exact canonical.elim

theorem items?_compactItems (items : List Json) (fuel : Nat) (rest : List Char)
    (canonical : CanonicalItems items) (someItems : items ≠ [])
    (enough : (compactItems items).length + 1 < fuel) :
    items? fuel (compactItems items ++ ']' :: rest) = some (items, rest) := by
  obtain ⟨fuel, rfl⟩ : ∃ smaller, fuel = smaller + 1 := Nat.exists_eq_add_one.mpr (by omega)
  match items with
  | [] => exact absurd rfl someItems
  | [item] =>
      rw [compactItems] at enough
      have read := value?_compactChars item fuel (']' :: rest) canonical.1 endsNumber_bracket
        (by omega)
      rw [compactItems, items?, read]
      rfl
  | item :: next :: later =>
      rw [compactItems, List.length_append, List.length_cons] at enough
      have first := value?_compactChars item fuel
        (',' :: (compactItems (next :: later) ++ ']' :: rest)) canonical.1 endsNumber_comma
        (by omega)
      have others := items?_compactItems (next :: later) fuel rest canonical.2
        (List.cons_ne_nil _ _) (by omega)
      rw [compactItems, List.append_assoc, List.cons_append, items?, first]
      simp only [skipSpace_of_visible (show isSpace ',' = false from rfl), others, Option.map_some]

theorem members?_compactMembers (members : List (String × Json)) (fuel : Nat) (rest : List Char)
    (canonical : CanonicalMembers members) (someMembers : members ≠ [])
    (enough : (compactMembers members).length + 1 < fuel) :
    members? fuel (compactMembers members ++ '}' :: rest) =
      some (members.map fun member => (some member.1, member.2), rest) := by
  obtain ⟨fuel, rfl⟩ : ∃ smaller, fuel = smaller + 1 := Nat.exists_eq_add_one.mpr (by omega)
  match members with
  | [] => exact absurd rfl someMembers
  | [(name, value)] =>
      rw [compactMembers, List.length_append, List.length_cons] at enough
      have read := value?_compactChars value fuel ('}' :: rest) canonical.1 endsNumber_brace
        (by omega)
      simp only [compactMembers, quoteChars, List.cons_append, List.append_assoc, members?,
        skipSpace_of_visible (show isSpace '"' = false from rfl), List.nil_append, stringBody_text,
        skipSpace_of_visible (show isSpace ':' = false from rfl), read,
        skipSpace_of_visible (show isSpace '}' = false from rfl), List.map_cons, List.map_nil]
  | (name, value) :: next :: later =>
      rw [compactMembers, List.length_append, List.length_cons, List.length_append,
        List.length_cons] at enough
      have first := value?_compactChars value fuel
        (',' :: (compactMembers (next :: later) ++ '}' :: rest)) canonical.1 endsNumber_comma
        (by omega)
      have others := members?_compactMembers (next :: later) fuel rest canonical.2
        (List.cons_ne_nil _ _) (by omega)
      simp only [compactMembers, quoteChars, List.cons_append, List.append_assoc, members?,
        skipSpace_of_visible (show isSpace '"' = false from rfl), List.nil_append, stringBody_text,
        skipSpace_of_visible (show isSpace ':' = false from rfl), first,
        skipSpace_of_visible (show isSpace ',' = false from rfl), others, Option.map_some,
        List.map_cons]

end

/-- The compact form of a value is read as that value. -/
theorem parse?_compact {json : Json} (canonical : json.Canonical) :
    parse? json.compact = some json := by
  have read := value?_compactChars json (2 * json.compactChars.length + 1) [] canonical
    endsNumber_nil (by omega)
  rw [List.append_nil] at read
  simp only [parse?, compact, String.toList_ofList, read]
  rfl

end RowStream.Json
