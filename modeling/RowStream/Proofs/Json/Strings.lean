import RowStream.Json.Reader

/-!
Contract: quoted texts are read back.

Main statement: `Json.stringBody_text`, whatever characters the text has and whatever follows
its closing quote. A character below the blank is escaped by its number; the reader looks at two
such escapes at a time, because of pairs, but a first one that is no half of a pair leaves the
second one to be read on its own, `Json.stringBody_unit`.
-/

namespace RowStream.Json

variable {reversed : Option (List Char)} {rest : List Char} {a b c d : Char} {unit : Nat}

/-- Whether another escape by number follows. -/
def UnitFollows (rest : List Char) : Prop :=
  ∃ e f g h later, rest = '\\' :: 'u' :: e :: f :: g :: h :: later

theorem not_unitFollows_iff :
    ¬ UnitFollows rest ↔
      ∀ e f g h later, rest = '\\' :: 'u' :: e :: f :: g :: h :: later → False := by
  simp only [UnitFollows, not_exists]

theorem stringBody_of_unreadable (unreadable : hexUnit? a b c d = none) :
    stringBody reversed ('\\' :: 'u' :: a :: b :: c :: d :: rest) = none := by
  by_cases follows : UnitFollows rest
  · obtain ⟨e, f, g, h, later, rfl⟩ := follows
    rw [stringBody, unreadable]
  · rw [stringBody, unreadable]
    exact not_unitFollows_iff.mp follows

/-- An escape of a character that is no half of a pair. If another escape follows, both are
looked at together, but then the second one is read on its own. -/
theorem stringBody_unit (read : hexUnit? a b c d = some unit) (whole : unit < 0xd800) :
    stringBody reversed ('\\' :: 'u' :: a :: b :: c :: d :: rest) =
      stringBody (reversed.map (Char.ofNat unit :: ·)) rest := by
  have below (other : Prop) : ¬ (0xd800 ≤ unit ∧ other) := by omega
  by_cases follows : UnitFollows rest
  · obtain ⟨e, f, g, h, later, rfl⟩ := follows
    rw [stringBody, read]
    cases second : hexUnit? e f g h with
    | none => simp only [stringBody_of_unreadable second]
    | some low => simp only [below, ↓reduceIte]
  · rw [stringBody, read]
    · simp only [below, ↓reduceIte]
    · exact not_unitFollows_iff.mp follows

theorem stringBody_letter {letter character : Char} (escape : escapeChar? letter = some character)
    (apart : letter ≠ 'u') :
    stringBody reversed ('\\' :: letter :: rest) =
      stringBody (reversed.map (character :: ·)) rest := by
  rw [stringBody, escape]
  · intro _ _ _ _ _ _ _ _ _ same
    exact absurd same apart
  · intro _ _ _ _ _ same
    exact absurd same apart

theorem stringBody_plain {character : Char} (noQuote : character ≠ '"')
    (noEscape : character ≠ '\\') (printable : 0x20 ≤ character.toNat) :
    stringBody reversed (character :: rest) = stringBody (reversed.map (character :: ·)) rest := by
  have passes : ¬ (character.toNat < 0x20 ∨ character = '\\') :=
    not_or.mpr ⟨Nat.not_lt.mpr printable, noEscape⟩
  rw [stringBody, if_neg passes]
  · exact noQuote
  · intro _ _ _ _ _ _ _ _ _ same
    exact absurd same noEscape
  · intro _ _ _ _ _ same
    exact absurd same noEscape
  · intro _ _ same
    exact absurd same noEscape

theorem hexUnit?_digits {code : Nat} (small : code < 0x10000)
    (written : Text.Hex.digits 4 code = [a, b, c, d]) : hexUnit? a b c d = some code := by
  simp only [Text.Hex.digits, List.nil_append, List.cons_append, List.cons.injEq, and_true]
    at written
  obtain ⟨rfl, rfl, rfl, rfl⟩ := written
  have read (value : Nat) := Text.Hex.digitValue?_digit (value % 16) (Nat.mod_lt _ (by decide))
  simp only [hexUnit?, read, Option.bind_eq_bind, Option.bind_some, Option.some.injEq]
  omega

/-- Each character is read back from the form in which it is quoted. -/
theorem stringBody_quoteChar (character : Char) :
    stringBody reversed (quoteChar character ++ rest) =
      stringBody (reversed.map (character :: ·)) rest := by
  unfold quoteChar
  split
  case h_8 noQuote noEscape _ _ _ _ _ =>
    dsimp only
    split
    · next control =>
      have read := hexUnit?_digits (show character.toNat < 0x10000 by omega) rfl
      refine (stringBody_unit read (by omega)).trans ?_
      rw [Char.ofNat_toNat]
      rfl
    · next printable =>
      exact stringBody_plain noQuote noEscape (Nat.not_lt.mp printable)
  all_goals exact stringBody_letter rfl (by decide)

/-- A quoted text is read back, whatever follows its closing quote. -/
theorem stringBody_quoted (characters : List Char) :
    stringBody reversed (characters.flatMap quoteChar ++ '"' :: rest) =
      some (reversed.map fun text => String.ofList (text.reverse ++ characters), rest) := by
  induction characters generalizing reversed with
  | nil => simp [stringBody]
  | cons character later inductionHypothesis =>
      rw [List.flatMap_cons, List.append_assoc, stringBody_quoteChar, inductionHypothesis]
      simp only [Option.map_map, Function.comp_def, List.reverse_cons, List.append_assoc,
        List.singleton_append]

/-- A written text is read up to its closing quotation mark, and no further. -/
theorem stringBody_text (text : String) :
    stringBody (some []) (text.toList.flatMap quoteChar ++ '"' :: rest) =
      some (some text, rest) := by
  rw [stringBody_quoted]
  simp

end RowStream.Json
