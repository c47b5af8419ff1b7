import Mathlib.Algebra.Order.Ring.Int
import RowStream.Json.Reader

/-!
Contract: numerals are read back.

Owns:
- `Numeral.Canonical`, the numerals that reading leaves;
- the digits of a natural number, with zeros and a point among them;
- what may follow a number without being taken for a part of it, `Json.EndsNumber`.

Main statement: `Json.number?_write`, in all layouts of integers and decimals.
-/

namespace RowStream

namespace Text

theorem digitsValue_eq (digits : List Char) :
    digitsValue digits = Nat.ofDigitChars 10 digits 0 := by
  rw [digitsValue, Nat.ofDigitChars_eq_foldl]
  congr 1
  funext value digit
  rw [digitValue, Nat.mul_comm]

theorem digitsValue_toDigits (value : Nat) : digitsValue (Nat.toDigits 10 value) = value := by
  rw [digitsValue_eq, Nat.ofDigitChars_ten_toDigits]

/-- Zeros in front do not matter. -/
theorem digitsValue_padded (count value : Nat) :
    digitsValue (List.replicate count '0' ++ Nat.toDigits 10 value) = value := by
  rw [digitsValue_eq, Nat.ofDigitChars_append, Nat.ofDigitChars_replicate_zero, Nat.mul_zero,
    Nat.ofDigitChars_ten_toDigits]

theorem isDigit_of_mem {value : Nat} : ∀ digit ∈ Nat.toDigits 10 value, digit.isDigit := by
  intro digit member
  exact Nat.isDigit_of_mem_toDigits (by decide) (by decide) member

/-- A number is written with its last digit at the end. -/
theorem getLast?_toDigits (value : Nat) :
    (Nat.toDigits 10 value).getLast? = some (value % 10).digitChar := by
  rcases Nat.lt_or_ge value 10 with small | large
  · rw [Nat.toDigits_of_lt_base small, Nat.mod_eq_of_lt small]
    rfl
  · rw [Nat.toDigits_of_base_le (by decide) large, List.getLast?_concat]

/-- A positive number is written without a zero in front. -/
theorem head?_toDigits {value : Nat} (positive : 0 < value) :
    ∃ digit, (Nat.toDigits 10 value).head? = some digit ∧ digit ≠ '0' := by
  induction value using Nat.strongRecOn with
  | ind value inductionHypothesis =>
      rcases Nat.lt_or_ge value 10 with small | large
      · refine ⟨value.digitChar, ?_, ?_⟩
        · rw [Nat.toDigits_of_lt_base small]
          rfl
        · rw [ne_eq, Nat.digitChar_eq_zero]
          exact Nat.ne_of_gt positive
      · obtain ⟨digit, first, nonzero⟩ :=
          inductionHypothesis (value / 10) (by omega) (by omega)
        refine ⟨digit, ?_, nonzero⟩
        rw [Nat.toDigits_of_base_le (by decide) large, List.head?_append, first]
        rfl

end Text

namespace Json

/-- The end of the digits of a number: nothing follows, or something that is no digit. -/
def EndsDigits (rest : List Char) : Prop := ∀ character ∈ rest.head?, character.isDigit = false

/-- The end of a number: nothing follows that would be a part of it. -/
def EndsNumber (rest : List Char) : Prop :=
  ∀ character ∈ rest.head?,
    character.isDigit = false ∧ character ≠ '.' ∧ character ≠ 'e' ∧ character ≠ 'E'

variable {digits whole fraction rest : List Char}

theorem EndsNumber.endsDigits (ends : EndsNumber rest) : EndsDigits rest :=
  fun character first => (ends character first).1

theorem takeWhile_digits (allDigits : ∀ digit ∈ digits, digit.isDigit) (ends : EndsDigits rest) :
    (digits ++ rest).takeWhile Char.isDigit = digits := by
  rw [List.takeWhile_append_of_pos allDigits]
  cases rest with
  | nil => simp
  | cons character later =>
      rw [List.takeWhile_cons_of_neg (by simpa using ends character rfl), List.append_nil]

theorem dropWhile_digits (allDigits : ∀ digit ∈ digits, digit.isDigit) (ends : EndsDigits rest) :
    (digits ++ rest).dropWhile Char.isDigit = rest := by
  rw [List.dropWhile_append_of_pos allDigits]
  cases rest with
  | nil => rfl
  | cons character later =>
      rw [List.dropWhile_cons_of_neg (by simpa using ends character rfl)]

def signChars (negative : Bool) : List Char := if negative then ['-'] else []


theorem signPart_signChars (negative : Bool) {characters : List Char}
    (unsigned : characters.head? ≠ some '-') :
    signPart (signChars negative ++ characters) = (negative, characters) := by
  cases negative with
  | true => rfl
  | false =>
      cases characters with
      | nil => rfl
      | cons first later =>
          have apart : first ≠ '-' := fun same => unsigned (congrArg some same)
          show signPart (first :: later) = _
          rw [signPart]
          intro _ same
          exact apart (List.cons.inj same).1

theorem unsigned_of_digits {whole rest : List Char} (allDigits : ∀ digit ∈ whole, digit.isDigit)
    (proper : wholeDigits? whole = true) : (whole ++ rest).head? ≠ some '-' := by
  cases whole with
  | nil => exact absurd proper (by decide)
  | cons first later =>
      intro same
      have minus : first = '-' := Option.some.inj same
      exact absurd (allDigits first List.mem_cons_self) (minus ▸ by decide)

theorem fractionPart_of_ends (ends : EndsNumber rest) : fractionPart rest = (none, rest) := by
  rw [fractionPart]
  rintro later rfl
  exact (ends '.' rfl).2.1 rfl

theorem scalePart?_of_ends (ends : EndsNumber rest) : scalePart? rest = some (none, rest) := by
  rw [scalePart?]
  · rintro later rfl
    exact (ends 'e' rfl).2.2.1 rfl
  · rintro later rfl
    exact (ends 'E' rfl).2.2.2 rfl

/-- What a number is read as whose digits before the point are known. -/
theorem number?_of_whole (negative : Bool) (allDigits : ∀ digit ∈ whole, digit.isDigit)
    (proper : wholeDigits? whole = true) (ends : EndsDigits rest) {fraction : Option (List Char)}
    {behind after : List Char} {exponent : Option Int}
    (fractionRead : fractionPart rest = (fraction, behind))
    (scaleRead : scalePart? behind = some (exponent, after)) :
    number? (signChars negative ++ (whole ++ rest)) =
      (numeralOf? negative whole fraction exponent).map (·, after) := by
  rw [number?, signPart_signChars negative (unsigned_of_digits allDigits proper)]
  simp only [takeWhile_digits allDigits ends, dropWhile_digits allDigits ends, fractionRead,
    scaleRead, Option.bind_eq_bind, Option.bind_some]
  cases numeralOf? negative whole fraction exponent <;> rfl

/-- Digits are read as a whole number unless a fraction or an exponent follows. -/
theorem number?_integer (negative : Bool) (allDigits : ∀ digit ∈ whole, digit.isDigit)
    (proper : wholeDigits? whole = true) (ends : EndsNumber rest) :
    number? (signChars negative ++ (whole ++ rest)) =
      some (integerNumeral negative whole, rest) := by
  rw [number?_of_whole negative allDigits proper ends.endsDigits (fractionPart_of_ends ends)
    (scalePart?_of_ends ends)]
  simp [numeralOf?, proper]

/-- A decimal with a point. -/
theorem number?_point (negative : Bool) (allDigits : ∀ digit ∈ whole, digit.isDigit)
    (proper : wholeDigits? whole = true) (someDigits : fraction ≠ [])
    (fractionDigits : ∀ digit ∈ fraction, digit.isDigit) (ends : EndsDigits rest)
    {exponent : Option Int} {after : List Char}
    (scaleRead : scalePart? rest = some (exponent, after)) :
    number? (signChars negative ++ (whole ++ '.' :: (fraction ++ rest))) =
      some (.decimal negative
        (trimZeros (whole ++ fraction) (exponent.getD 0 - fraction.length)), after) := by
  have fractionRead : fractionPart ('.' :: (fraction ++ rest)) = (some fraction, rest) := by
    rw [fractionPart, takeWhile_digits fractionDigits ends, dropWhile_digits fractionDigits ends]
  have point : EndsDigits ('.' :: (fraction ++ rest)) := by
    rintro character ⟨⟩
    decide
  rw [number?_of_whole negative allDigits proper point fractionRead scaleRead]
  simp [numeralOf?, proper, someDigits]

/-- A decimal without a point, but with a power of ten. -/
theorem number?_scaled (negative : Bool) (allDigits : ∀ digit ∈ whole, digit.isDigit)
    (proper : wholeDigits? whole = true) {later after : List Char} {exponent : Int}
    (scaleRead : scalePart? ('e' :: later) = some (some exponent, after)) :
    number? (signChars negative ++ (whole ++ 'e' :: later)) =
      some (.decimal negative (trimZeros whole exponent), after) := by
  have mark : EndsDigits ('e' :: later) := by
    rintro character ⟨⟩
    decide
  rw [number?_of_whole negative allDigits proper mark rfl scaleRead]
  simp [numeralOf?, proper]

theorem dropWhile_zeros {digits : List Char} {digit : Char} (first : digits.head? = some digit)
    (nonzero : digit ≠ '0') : digits.dropWhile (· == '0') = digits := by
  cases digits with
  | nil => rfl
  | cons other later =>
      rw [List.head?_cons, Option.some.injEq] at first
      rw [List.dropWhile_cons_of_neg (by simpa [first] using nonzero)]

/-- Zeros around the digits of a number do not matter, except that those behind shift the
exponent. -/
theorem trimZeros_padded {value : Nat} (trimmed : value % 10 ≠ 0) (before behind : Nat)
    (exponent : Int) :
    trimZeros (List.replicate before '0' ++ Nat.toDigits 10 value ++ List.replicate behind '0')
      exponent = ⟨value, exponent + behind⟩ := by
  have positive : value ≠ 0 := by
    rintro rfl
    exact trimmed rfl
  have nonzero : (value % 10).digitChar ≠ '0' := by
    rw [ne_eq, Nat.digitChar_eq_zero]
    exact trimmed
  have lastDigit : (List.replicate before '0' ++ Nat.toDigits 10 value).reverse.head? =
      some (value % 10).digitChar := by
    rw [List.head?_reverse, List.getLast?_append, Text.getLast?_toDigits]
    rfl
  have kept : ((List.replicate before '0' ++ Nat.toDigits 10 value ++
      List.replicate behind '0').reverse.dropWhile (· == '0')).reverse =
        List.replicate before '0' ++ Nat.toDigits 10 value := by
    rw [List.reverse_append, List.reverse_replicate,
      List.dropWhile_append_of_pos (fun _ member => by simp [List.eq_of_mem_replicate member])]
    rw [dropWhile_zeros lastDigit nonzero, List.reverse_reverse]
  have trailing : (List.replicate before '0' ++ Nat.toDigits 10 value ++
      List.replicate behind '0').length -
        (List.replicate before '0' ++ Nat.toDigits 10 value).length = behind := by
    simp only [List.length_append, List.length_replicate]
    omega
  rw [trimZeros, kept, Text.digitsValue_padded, if_neg positive, trailing]

theorem toList_toString (value : Int) :
    (toString value).toList = signChars (decide (value < 0)) ++ Nat.toDigits 10 value.natAbs := by
  rw [Int.toString_eq_repr, Int.repr_eq_if]
  rcases lt_or_ge value 0 with negative | natural
  · rw [if_neg (Int.not_le.mpr negative), decide_eq_true negative, String.toList_append,
      Nat.toList_repr]
    congr 2
    omega
  · rw [if_pos natural, decide_eq_false (Int.not_lt.mpr natural), Nat.toList_repr]
    congr 1
    omega

/-- The power of ten is read back from the form in which it is written. -/
theorem exponentPart?_written (exponent : Int) (ends : EndsDigits rest) :
    exponentPart? ((if 0 ≤ exponent then ['+'] else []) ++ ((toString exponent).toList ++ rest)) =
      some (exponent, rest) := by
  have allDigits : ∀ digit ∈ Nat.toDigits 10 exponent.natAbs, digit.isDigit := Text.isDigit_of_mem
  have scanned := takeWhile_digits allDigits ends
  have left := dropWhile_digits allDigits ends
  have someDigits : (Nat.toDigits 10 exponent.natAbs).isEmpty = false := by simp
  rw [toList_toString]
  rcases lt_or_ge exponent 0 with negative | natural
  · have value : -(exponent.natAbs : Int) = exponent := by omega
    rw [if_neg (Int.not_le.mpr negative), decide_eq_true negative, signChars, if_pos rfl,
      List.nil_append, List.append_assoc, List.singleton_append, exponentPart?]
    simp only [scanned, left, someDigits, Text.digitsValue_toDigits, Bool.false_eq_true,
      ↓reduceIte, value]
  · have value : (exponent.natAbs : Int) = exponent := by omega
    rw [if_pos natural, decide_eq_false (Int.not_lt.mpr natural), signChars,
      if_neg Bool.false_ne_true, List.nil_append, List.singleton_append, exponentPart?]
    simp only [scanned, left, someDigits, Text.digitsValue_toDigits, Bool.false_eq_true,
      ↓reduceIte, value]

theorem wholeDigits?_of_head {digit : Char} (first : digits.head? = some digit)
    (nonzero : digit ≠ '0') : wholeDigits? digits = true := by
  cases digits with
  | nil => exact absurd first (by simp)
  | cons other later =>
      obtain rfl : other = digit := Option.some.inj first
      rw [wholeDigits?]
      · simp
      · exact fun same => nonzero (List.cons.inj same).1
      · exact fun _ same => nonzero (List.cons.inj same).1

/-- The digits of a number may stand before a point. -/
theorem wholeDigits?_toDigits (value : Nat) : wholeDigits? (Nat.toDigits 10 value) = true := by
  rcases Nat.eq_zero_or_pos value with rfl | positive
  · rfl
  · obtain ⟨digit, first, nonzero⟩ := Text.head?_toDigits positive
    exact wholeDigits?_of_head first nonzero

end Json

/-- The numerals that reading leaves: integers of 64 bits, and decimals without zeros at their
end. -/
def Numeral.Canonical : Numeral → Prop
  | .integer value => -(UInt64.size / 2 : Nat) ≤ value ∧ value < UInt64.size
  | .decimal _ magnitude => magnitude = ⟨0, 0⟩ ∨ magnitude.digits % 10 ≠ 0

namespace Json

variable {rest : List Char}

/-- A whole number is read as it is written, in front of whatever ends a number. -/
theorem number?_write_integer {value : Int} (canonical : (Numeral.integer value).Canonical)
    (ends : EndsNumber rest) :
    number? ((toString value).toList ++ rest) = some (.integer value, rest) := by
  obtain ⟨above, below⟩ := canonical
  rw [toList_toString, List.append_assoc,
    number?_integer _ Text.isDigit_of_mem (wholeDigits?_toDigits _) ends, integerNumeral,
    Text.digitsValue_toDigits]
  rcases lt_or_ge value 0 with negative | natural
  · rw [if_pos (decide_eq_true negative), if_pos (by omega)]
    congr
    omega
  · rw [if_neg (by simpa using natural), if_pos (by omega)]
    congr
    omega

theorem isDigit_replicate {count : Nat} : ∀ digit ∈ List.replicate count '0', digit.isDigit := by
  intro digit member
  rw [List.eq_of_mem_replicate member]
  rfl

/-- The digits of a number with zeros around them and a point somewhere. -/
theorem number?_padded (negative : Bool) {whole fraction after : List Char} {value : Nat}
    {before behind : Nat} {scale : Option Int} {exponent : Int} (trimmed : value % 10 ≠ 0)
    (padded : whole ++ fraction =
      List.replicate before '0' ++ Nat.toDigits 10 value ++ List.replicate behind '0')
    (shifted : scale.getD 0 - fraction.length + behind = exponent)
    (proper : wholeDigits? whole = true) (someDigits : fraction ≠ []) (ends : EndsDigits rest)
    (scaleRead : scalePart? rest = some (scale, after)) :
    number? (signChars negative ++ (whole ++ '.' :: (fraction ++ rest))) =
      some (.decimal negative ⟨value, exponent⟩, after) := by
  have allDigits : ∀ digit ∈ whole ++ fraction, digit.isDigit := by
    intro digit member
    rw [padded, List.mem_append, List.mem_append] at member
    rcases member with (zero | digit) | zero
    · exact isDigit_replicate _ zero
    · exact Text.isDigit_of_mem _ digit
    · exact isDigit_replicate _ zero
  rw [number?_point negative (fun _ member => allDigits _ (List.mem_append_left _ member)) proper
    someDigits (fun _ member => allDigits _ (List.mem_append_right _ member)) ends scaleRead,
    padded, trimZeros_padded trimmed, shifted]

/-- The digits of a number with a point among them. -/
theorem number?_divided (negative : Bool) {after : List Char} {value count : Nat}
    {scale : Option Int} {exponent : Int} (trimmed : value % 10 ≠ 0) (some : 0 < count)
    (notAll : count < (Nat.toDigits 10 value).length)
    (shifted : scale.getD 0 + count = (Nat.toDigits 10 value).length + exponent)
    (ends : EndsDigits rest) (scaleRead : scalePart? rest = .some (scale, after)) :
    number? (signChars negative ++ ((Nat.toDigits 10 value).take count ++
        '.' :: ((Nat.toDigits 10 value).drop count ++ rest))) =
      .some (.decimal negative ⟨value, exponent⟩, after) := by
  have positive : 0 < value := Nat.pos_of_ne_zero (by rintro rfl; exact trimmed rfl)
  obtain ⟨digit, first, nonzero⟩ := Text.head?_toDigits positive
  have padded : (Nat.toDigits 10 value).take count ++ (Nat.toDigits 10 value).drop count =
      List.replicate 0 '0' ++ Nat.toDigits 10 value ++ List.replicate 0 '0' := by
    rw [List.take_append_drop]
    simp
  have proper : wholeDigits? ((Nat.toDigits 10 value).take count) = true := by
    refine wholeDigits?_of_head ?_ nonzero
    rw [List.head?_take, if_neg some.ne', first]
  have more : (Nat.toDigits 10 value).drop count ≠ [] := by
    rw [ne_eq, List.drop_eq_nil_iff]
    omega
  refine number?_padded negative trimmed padded ?_ proper more ends scaleRead
  rw [List.length_drop]
  omega

theorem number?_zero (negative : Bool) (ends : EndsNumber rest) :
    number? (signChars negative ++ ("0.0".toList ++ rest)) =
      some (.decimal negative ⟨0, 0⟩, rest) := by
  have zero : ∀ digit ∈ ['0'], digit.isDigit := List.forall_mem_singleton.mpr rfl
  exact number?_point negative zero rfl (List.cons_ne_nil _ _) zero ends.endsDigits
    (scalePart?_of_ends ends)

/-- The digits of a decimal with a point before, behind or among them. -/
theorem number?_positionalChars (negative : Bool) {value : Nat} {exponent point : Int}
    (trimmed : value % 10 ≠ 0) (ends : EndsNumber rest)
    (placed : (Nat.toDigits 10 value).length + exponent = point) :
    number? (signChars negative ++
        (FloatLayout.positionalChars (Nat.toDigits 10 value) point ++ rest)) =
      some (.decimal negative ⟨value, exponent⟩, rest) := by
  have positive : 0 < value := Nat.pos_of_ne_zero (by rintro rfl; exact trimmed rfl)
  obtain ⟨digit, first, nonzero⟩ := Text.head?_toDigits positive
  have stop := ends.endsDigits
  have scale := scalePart?_of_ends ends
  unfold FloatLayout.positionalChars
  split
  · next before =>
      have padded : ['0'] ++ (List.replicate (-point).toNat '0' ++ Nat.toDigits 10 value) =
          List.replicate ((-point).toNat + 1) '0' ++ Nat.toDigits 10 value ++
            List.replicate 0 '0' := by
        simp [List.replicate_succ]
      have shifted : (none : Option Int).getD 0 -
          (List.replicate (-point).toNat '0' ++ Nat.toDigits 10 value).length + (0 : Nat) =
            exponent := by
        rw [Option.getD_none, List.length_append, List.length_replicate]
        omega
      exact number?_padded negative trimmed padded shifted rfl (by simp) stop scale
  · split
    · next behind =>
      have padded : (Nat.toDigits 10 value ++
          List.replicate (point.toNat - (Nat.toDigits 10 value).length) '0') ++ ['0'] =
            List.replicate 0 '0' ++ Nat.toDigits 10 value ++
              List.replicate (point.toNat - (Nat.toDigits 10 value).length + 1) '0' := by
        simp [List.replicate_succ']
      have shifted : (none : Option Int).getD 0 - ['0'].length +
          (point.toNat - (Nat.toDigits 10 value).length + 1 : Nat) = exponent := by
        rw [Option.getD_none, List.length_singleton]
        omega
      have proper : wholeDigits? (Nat.toDigits 10 value ++
          List.replicate (point.toNat - (Nat.toDigits 10 value).length) '0') = true := by
        refine wholeDigits?_of_head ?_ nonzero
        rw [List.head?_append, first]
        rfl
      rw [List.append_assoc _ ['.', '0']]
      exact number?_padded negative trimmed padded shifted proper (by simp) stop scale
    · next among =>
      have shifted : (none : Option Int).getD 0 + point.toNat =
          (Nat.toDigits 10 value).length + exponent := by
        rw [Option.getD_none]
        omega
      rw [List.append_assoc]
      exact number?_divided negative trimmed (by omega) (by omega) shifted stop scale

/-- The digits of a decimal with the power of ten behind them. -/
theorem number?_exponentChars (negative : Bool) {value : Nat} {exponent point : Int}
    (trimmed : value % 10 ≠ 0) (ends : EndsNumber rest)
    (placed : (Nat.toDigits 10 value).length + exponent = point) :
    number? (signChars negative ++
        (FloatLayout.exponentChars (Nat.toDigits 10 value) point ++ rest)) =
      some (.decimal negative ⟨value, exponent⟩, rest) := by
  have someDigits : 0 < (Nat.toDigits 10 value).length := Nat.length_toDigits_pos
  have scale : scalePart? ('e' :: ((if 1 ≤ point then ['+'] else []) ++
      ((toString (point - 1)).toList ++ rest))) = some (some (point - 1), rest) := by
    have mark : 1 ≤ point ↔ 0 ≤ point - 1 := by omega
    simp only [mark]
    rw [scalePart?, exponentPart?_written (point - 1) ends.endsDigits]
    rfl
  have mark : EndsDigits ('e' :: ((if 1 ≤ point then ['+'] else []) ++
      ((toString (point - 1)).toList ++ rest))) := by
    rintro character ⟨⟩
    decide
  unfold FloatLayout.exponentChars
  split
  · next single =>
      have scaled := trimZeros_padded trimmed 0 0 (point - 1)
      rw [List.replicate_zero, List.nil_append, List.append_nil] at scaled
      rw [List.append_assoc, List.cons_append, List.append_assoc, number?_scaled negative
        Text.isDigit_of_mem (wholeDigits?_toDigits value) scale, scaled]
      congr 4
      omega
  · next several =>
      have shifted : (some (point - 1)).getD 0 + (1 : Nat) =
          (Nat.toDigits 10 value).length + exponent := by
        rw [Option.getD_some]
        omega
      rw [List.append_assoc, List.append_assoc, List.cons_append, List.cons_append,
        List.append_assoc]
      exact number?_divided negative trimmed Nat.one_pos (by omega) shifted mark scale

/-- A numeral is read back from the form in which it is written, unless more follows that
belongs to a number. -/
theorem number?_write {numeral : Numeral} (canonical : numeral.Canonical)
    (ends : EndsNumber rest) : number? (numeral.write.toList ++ rest) = some (numeral, rest) := by
  cases numeral with
  | integer value => exact number?_write_integer canonical ends
  | decimal negative magnitude =>
      have sign : (if negative then "-" else "").toList = signChars negative := by
        cases negative <;> rfl
      rw [Numeral.write]
      split
      · next zero =>
          have magnitudeZero : magnitude = ⟨0, 0⟩ := by
            rcases canonical with same | trimmed
            · exact same
            · exact absurd (by rw [zero]) trimmed
          rw [String.toList_append, sign, List.append_assoc, magnitudeZero,
            number?_zero negative ends]
      · next nonzero =>
          have trimmed : magnitude.digits % 10 ≠ 0 := by
            rcases canonical with same | trimmed
            · exact absurd (congrArg Decimal.digits same) nonzero
            · exact trimmed
          rw [String.toList_append, sign, List.append_assoc,
            FloatLayout.toList_writeDecimal_json]
          dsimp only
          split
          · exact number?_positionalChars negative trimmed ends rfl
          · exact number?_exponentChars negative trimmed ends rfl

end Json

end RowStream
