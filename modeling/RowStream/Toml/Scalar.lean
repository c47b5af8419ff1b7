import RowStream.Text.Number
import RowStream.Toml

/-!
Contract: the values of TOML that are written without brackets and quotes.

Owns: `Toml.scalar?`, which reads a whole token as a truth value, an integer in one of
four bases, a number with a fraction or an exponent, a date or a time of day.

Integers must fit into 64 bits with a sign, and numbers must not overflow upwards.
-/

namespace RowStream.Toml

/-- The digits of a number whose underscores all stand between two digits. -/
def groupedDigits? (isDigit : Char → Bool) : List Char → Option (List Char)
  | [] => none
  | [digit] => if isDigit digit then some [digit] else none
  | digit :: '_' :: next :: rest =>
      if isDigit digit then (groupedDigits? isDigit (next :: rest)).map (digit :: ·) else none
  | digit :: rest =>
      if isDigit digit then (groupedDigits? isDigit rest).map (digit :: ·) else none

/-- The digits of a decimal number without superfluous zeros in front. -/
def wholeDigits? (token : List Char) : Option (List Char) :=
  match groupedDigits? Char.isDigit token with
  | some ('0' :: _ :: _) => none
  | digits => digits

def splitSign : List Char → Bool × List Char
  | '-' :: rest => (true, rest)
  | '+' :: rest => (false, rest)
  | rest => (false, rest)

private def digitValue (character : Char) : Nat :=
  if character.isDigit then character.toNat - '0'.toNat
  else character.toLower.toNat - 'a'.toNat + 10

private def isDigitOf (base : Nat) (character : Char) : Bool :=
  (character.isDigit || ('a' ≤ character.toLower && character.toLower ≤ 'f')) &&
    decide (digitValue character < base)

/-- Integers lie from minus this bound up to just below it. -/
def integerBound : Int := UInt64.size / 2

private def basedInteger? (base : Nat) (digits : List Char) : Option Int :=
  (groupedDigits? (isDigitOf base) digits).bind fun digits =>
    let value := digits.foldl (fun value digit => value * base + digitValue digit) 0
    if value < integerBound then some value else none

def integer? (token : List Char) : Option Int :=
  match token with
  | '0' :: 'x' :: digits => basedInteger? 16 digits
  | '0' :: 'o' :: digits => basedInteger? 8 digits
  | '0' :: 'b' :: digits => basedInteger? 2 digits
  | _ =>
      let (negative, digits) := splitSign token
      (wholeDigits? digits).bind fun digits =>
        let value : Int := Text.digitsValue digits
        let value := if negative then -value else value
        if -integerBound ≤ value ∧ value < integerBound then some value else none

private def isExponentMark (character : Char) : Bool :=
  character == 'e' || character == 'E'

/-- The power of ten behind an exponent mark. -/
private def exponent? (token : List Char) : Option Int :=
  let (negative, digits) := splitSign token
  (groupedDigits? Char.isDigit digits).map fun digits =>
    let value : Int := Text.digitsValue digits
    if negative then -value else value

/-- A decimal with a fraction or an exponent. -/
private def fractional? (token : List Char) : Option Decimal := do
  let significand := token.takeWhile fun character => !isExponentMark character
  let exponent ← match token.dropWhile fun character => !isExponentMark character with
    | [] => some none
    | _ :: rest => (exponent? rest).map some
  let whole ← wholeDigits? (significand.takeWhile (· != '.'))
  let fraction ← match significand.dropWhile (· != '.') with
    | [] => some none
    | _ :: rest => (groupedDigits? Char.isDigit rest).map some
  if exponent.isNone && fraction.isNone then none
  let fraction := fraction.getD []
  some ⟨Text.digitsValue (whole ++ fraction), exponent.getD 0 - fraction.length⟩

/-- A number with a fraction or an exponent, or the name of a special one. Digits for a
number beyond the largest one are refused, those for one below the smallest denote minus
infinity. -/
def float? (token : List Char) : Option Float :=
  let (negative, rest) := splitSign token
  let applySign (value : Float) : Float := if negative then -value else value
  match rest with
  | ['i', 'n', 'f'] => some (applySign (1.0 / 0.0))
  | ['n', 'a', 'n'] => some (0.0 / 0.0)
  | _ =>
      (fractional? rest).bind fun decimal =>
        if decimal.toFloat.isInf && !negative then none else some (applySign decimal.toFloat)

/-- A number of exactly two digits from `low` to `high`. -/
private def twoDigits? (low high : Nat) (tens ones : Char) : Option Nat :=
  let value := Text.digitsValue [tens, ones]
  if tens.isDigit && ones.isDigit && decide (low ≤ value) && decide (value ≤ high) then
    some value
  else
    none

def isLeapYear (year : Nat) : Bool :=
  year % 4 == 0 && (year % 100 != 0 || year % 400 == 0)

def daysInMonth (year month : Nat) : Nat :=
  if month = 2 then if isLeapYear year then 29 else 28
  else if month = 4 ∨ month = 6 ∨ month = 9 ∨ month = 11 then 30
  else 31

/-- What follows a date at the start of a token. -/
private def afterDate? : List Char → Option (List Char)
  | a :: b :: c :: d :: '-' :: e :: f :: '-' :: g :: h :: rest => do
      if !([a, b, c, d].all Char.isDigit) then none
      let year := Text.digitsValue [a, b, c, d]
      let month ← twoDigits? 1 12 e f
      let _ ← twoDigits? 1 (daysInMonth year month) g h
      some rest
  | _ => none

/-- What follows a time of day at the start of a token. -/
private def afterTime? : List Char → Option (List Char)
  | a :: b :: ':' :: c :: d :: ':' :: e :: f :: rest => do
      let _ ← twoDigits? 0 23 a b
      let _ ← twoDigits? 0 59 c d
      let _ ← twoDigits? 0 60 e f
      match rest with
      | '.' :: rest =>
          if (rest.takeWhile Char.isDigit).isEmpty then none
          else some (rest.dropWhile Char.isDigit)
      | rest => some rest
  | _ => none

private def isOffset : List Char → Bool
  | ['Z'] => true
  | ['z'] => true
  | [sign, a, b, ':', c, d] =>
      (sign == '+' || sign == '-') && (twoDigits? 0 23 a b).isSome && (twoDigits? 0 59 c d).isSome
  | _ => false

/-- Whether a token is a time of day with or without an offset. -/
def isOffsetTime (token : List Char) : Bool :=
  match afterTime? token with
  | some rest => rest.isEmpty || isOffset rest
  | none => false

/-- Whether a token is a date and nothing else. -/
def isDate (token : List Char) : Bool :=
  (afterDate? token).any List.isEmpty

private def isDatetime (token : List Char) : Bool :=
  match afterDate? token with
  | some [] => true
  | some ('T' :: rest) => isOffsetTime rest
  | some ('t' :: rest) => isOffsetTime rest
  | some _ => false
  | none => (afterTime? token).any List.isEmpty

/-- The value that a token denotes. -/
def scalar? (token : List Char) : Option Toml :=
  match token with
  | ['t', 'r', 'u', 'e'] => some (.bool true)
  | ['f', 'a', 'l', 's', 'e'] => some (.bool false)
  | _ =>
      if isDatetime token then some .datetime
      else
        match float? token with
        | some value => some (.float value)
        | none => (integer? token).map .integer

end RowStream.Toml
