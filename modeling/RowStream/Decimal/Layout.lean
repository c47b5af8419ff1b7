import RowStream.Decimal.Shortest

/-!
Contract: how numbers with a fraction are written.

Owns:
- `FloatLayout`, the choices that a written form makes;
- `FloatLayout.plain`, the form used in messages: never an exponent, no fraction on whole
  numbers;
- `FloatLayout.json`, the form used in documents: a fraction on whole numbers, an exponent
  with its sign outside a window.

Main statement: `FloatLayout.toList_writeDecimal_json`, the characters of the form used in
documents in terms of the digits.
-/

namespace RowStream

/-- The choices that a written form of binary numbers makes. -/
structure FloatLayout where
  /-- Which way an exact tie between two shortest forms goes. -/
  tie : Tie
  /-- Positions of the decimal point, counted from the first digit, that are written
  without an exponent; `none` for all positions. -/
  positional : Option (Int × Int)
  /-- What follows a whole number. -/
  wholeSuffix : String
  /-- What stands before the digits of an exponent that is not negative. -/
  exponentPlus : String
  /-- The texts of the three values that are no decimals. -/
  notANumber : String
  infinite : String
  negativeInfinite : String

namespace FloatLayout

/-- The form used in messages. -/
def plain : FloatLayout where
  tie := .up
  positional := none
  wholeSuffix := ""
  exponentPlus := ""
  notANumber := "NaN"
  infinite := "inf"
  negativeInfinite := "-inf"

/-- The form used in documents, which have no text for what is no decimal. -/
def json : FloatLayout where
  tie := .toEven
  positional := some (-4, 16)
  wholeSuffix := ".0"
  exponentPlus := "+"
  notANumber := "null"
  infinite := "null"
  negativeInfinite := "null"

private def zeros (count : Nat) : String :=
  "".pushn '0' count

private def positionalText (layout : FloatLayout) (digits : String) (point : Int) : String :=
  let count := digits.length
  if point ≤ 0 then
    "0." ++ zeros (-point).toNat ++ digits
  else if count ≤ point.toNat then
    digits ++ zeros (point.toNat - count) ++ layout.wholeSuffix
  else
    (digits.take point.toNat).toString ++ "." ++ (digits.drop point.toNat).toString

private def exponentText (layout : FloatLayout) (digits : String) (point : Int) : String :=
  let significand :=
    if digits.length = 1 then digits
    else (digits.take 1).toString ++ "." ++ (digits.drop 1).toString
  let mark := if 1 ≤ point then "e" ++ layout.exponentPlus else "e"
  significand ++ mark ++ toString (point - 1)

/-- A positive decimal in this layout. -/
def writeDecimal (layout : FloatLayout) (decimal : Decimal) : String :=
  let digits := toString decimal.digits
  let point := digits.length + decimal.exponent
  match layout.positional with
  | none => layout.positionalText digits point
  | some (lowest, highest) =>
      if lowest ≤ point ∧ point ≤ highest then layout.positionalText digits point
      else layout.exponentText digits point

def write (layout : FloatLayout) (value : Float) : String :=
  let negative := Decimal.isNegative value
  if value.isNaN then layout.notANumber
  else if value.isInf then
    if negative then layout.negativeInfinite else layout.infinite
  else
    let sign := if negative then "-" else ""
    if value == 0.0 then sign ++ "0" ++ layout.wholeSuffix
    else sign ++ layout.writeDecimal (Decimal.shortest layout.tie value.abs)

/-! ### The characters of a decimal in a document -/

private theorem toList_zeros (count : Nat) :
    (zeros count).toList = List.replicate count '0' := by
  rw [zeros, String.pushn_eq_repeat_push]
  induction count with
  | zero => rfl
  | succ count inductionHypothesis =>
      rw [Nat.repeat, String.toList_push, inductionHypothesis, ← List.replicate_succ']

private theorem length_toString (value : Nat) :
    (toString value).length = (Nat.toDigits 10 value).length := by
  rw [← String.length_toList, Nat.toString_eq_ofList_toDigits, String.toList_ofList]

/-- The digits with a point at a position, counted from the first digit. -/
def positionalChars (digits : List Char) (point : Int) : List Char :=
  if point ≤ 0 then
    '0' :: '.' :: (List.replicate (-point).toNat '0' ++ digits)
  else if digits.length ≤ point.toNat then
    digits ++ List.replicate (point.toNat - digits.length) '0' ++ ['.', '0']
  else
    digits.take point.toNat ++ '.' :: digits.drop point.toNat

/-- The digits with the point after the first one, and the power of ten that puts it where it
belongs. -/
def exponentChars (digits : List Char) (point : Int) : List Char :=
  (if digits.length = 1 then digits else digits.take 1 ++ '.' :: digits.drop 1) ++
    'e' :: ((if 1 ≤ point then ['+'] else []) ++ (toString (point - 1)).toList)

theorem toList_writeDecimal_json (decimal : Decimal) :
    (json.writeDecimal decimal).toList =
      let digits := Nat.toDigits 10 decimal.digits
      let point := digits.length + decimal.exponent
      if -4 ≤ point ∧ point ≤ 16 then positionalChars digits point
      else exponentChars digits point := by
  simp only [writeDecimal, json, length_toString]
  split
  · rw [positionalText, positionalChars, length_toString]
    split
    · simp [toList_zeros]
    · split
      · simp [toList_zeros]
      · simp
  · rw [exponentText, exponentChars, length_toString]
    split
    · split <;> simp
    · split <;> simp

end FloatLayout

end RowStream
