import RowStream.Decimal.Shortest

/-!
Contract: numbers written as plain text, outside of any document.

Owns:
- `unsigned?`, an optional plus sign and decimal digits, at most a given limit;
- `float?`, an optional sign and a decimal with optional point and exponent, or a name of
  an infinity or of what is not a number.
-/

namespace RowStream.Text

def digitValue (character : Char) : Nat :=
  character.toNat - '0'.toNat

/-- The number that a row of decimal digits denotes. -/
def digitsValue (digits : List Char) : Nat :=
  digits.foldl (fun value digit => value * 10 + digitValue digit) 0

private def allDigits (characters : List Char) : Bool :=
  !characters.isEmpty && characters.all Char.isDigit

private def dropPlus : List Char → List Char
  | '+' :: rest => rest
  | characters => characters

/-- Decimal digits, with a plus sign in front if need be, for a number up to `limit`. -/
def unsigned? (limit : Nat) (text : String) : Option Nat :=
  let digits := dropPlus text.toList
  if allDigits digits && decide (digitsValue digits ≤ limit) then
    some (digitsValue digits)
  else
    none

/-- A sign, `true` for minus, and what follows it. -/
private def splitSign : List Char → Bool × List Char
  | '-' :: rest => (true, rest)
  | '+' :: rest => (false, rest)
  | characters => (false, characters)

/-- A power of ten with an optional sign; at least one digit. -/
private def exponent? (characters : List Char) : Option Int :=
  let (negative, digits) := splitSign characters
  if allDigits digits then
    some (if negative then -(digitsValue digits : Int) else digitsValue digits)
  else
    none

/-- Digits with an optional point among them and an optional exponent. -/
private def decimal? (characters : List Char) : Option Decimal := do
  let whole := characters.takeWhile Char.isDigit
  let afterWhole := characters.dropWhile Char.isDigit
  let (fraction, afterFraction) := match afterWhole with
    | '.' :: rest => (rest.takeWhile Char.isDigit, rest.dropWhile Char.isDigit)
    | rest => ([], rest)
  if whole.isEmpty && fraction.isEmpty then none
  let exponent ← match afterFraction with
    | [] => some 0
    | 'e' :: rest => exponent? rest
    | 'E' :: rest => exponent? rest
    | _ => none
  some ⟨digitsValue (whole ++ fraction), exponent - fraction.length⟩

private def applySign (negative : Bool) (value : Float) : Float :=
  if negative then -value else value

def float? (text : String) : Option Float :=
  let (negative, characters) := splitSign text.toList
  match String.ofList (characters.map Char.toLower) with
  | "inf" => some (applySign negative (1.0 / 0.0))
  | "infinity" => some (applySign negative (1.0 / 0.0))
  | "nan" => some (0.0 / 0.0)
  | _ => (decimal? characters).map fun decimal => applySign negative decimal.toFloat

end RowStream.Text
