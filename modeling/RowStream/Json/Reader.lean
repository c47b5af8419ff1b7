import RowStream.Json
import RowStream.Text.Number

/-!
Contract: reading JSON documents.

Owns: the readers of strings, numbers and values, and `Json.parse?`, which reads a whole
document.

Each reader answers what it read and the characters left over. Nesting is bounded by fuel
that a document of a given length cannot exhaust. A number is kept as it is written; that its
value as a binary number is the nearest one (`Numeral.toFloat`) is an assumption about the
library that reads the documents, which can be built to round with best effort only.
-/

namespace RowStream.Json

def isSpace (character : Char) : Bool :=
  character == ' ' || character == '\n' || character == '\t' || character == '\r'

def skipSpace (characters : List Char) : List Char :=
  characters.dropWhile isSpace

/-- The number that four hexadecimal digits denote. -/
def hexUnit? (a b c d : Char) : Option Nat := do
  let a ← Text.Hex.digitValue? a
  let b ← Text.Hex.digitValue? b
  let c ← Text.Hex.digitValue? c
  let d ← Text.Hex.digitValue? d
  some (((a * 16 + b) * 16 + c) * 16 + d)

/-- The character that a backslash and `letter` stand for. -/
def escapeChar? : Char → Option Char
  | '"' => some '"'
  | '\\' => some '\\'
  | '/' => some '/'
  | 'b' => some '\x08'
  | 'f' => some '\x0c'
  | 'n' => some '\n'
  | 'r' => some '\r'
  | 't' => some '\t'
  | _ => none

/-- A string from the character after its opening quote: its text, or `none` if it holds
half a surrogate pair, and what follows the closing quote. Accumulates in reverse. -/
def stringBody : (reversed : Option (List Char)) → List Char →
    Option (Option String × List Char)
  | _, [] => none
  | reversed, '"' :: rest => some (reversed.map fun text => String.ofList text.reverse, rest)
  | reversed, '\\' :: 'u' :: a :: b :: c :: d :: '\\' :: 'u' :: e :: f :: g :: h :: rest =>
      match hexUnit? a b c d, hexUnit? e f g h with
      | some high, some low =>
          if 0xd800 ≤ high ∧ high < 0xdc00 ∧ 0xdc00 ≤ low ∧ low < 0xe000 then
            let code := 0x10000 + (high - 0xd800) * 0x400 + (low - 0xdc00)
            stringBody (reversed.map (Char.ofNat code :: ·)) rest
          else if 0xd800 ≤ high ∧ high < 0xe000 then
            stringBody none ('\\' :: 'u' :: e :: f :: g :: h :: rest)
          else
            stringBody (reversed.map (Char.ofNat high :: ·))
              ('\\' :: 'u' :: e :: f :: g :: h :: rest)
      | _, _ => none
  | reversed, '\\' :: 'u' :: a :: b :: c :: d :: rest =>
      match hexUnit? a b c d with
      | some unit =>
          if 0xd800 ≤ unit ∧ unit < 0xe000 then stringBody none rest
          else stringBody (reversed.map (Char.ofNat unit :: ·)) rest
      | none => none
  | reversed, '\\' :: letter :: rest =>
      match escapeChar? letter with
      | some character => stringBody (reversed.map (character :: ·)) rest
      | none => none
  | reversed, character :: rest =>
      if character.toNat < 0x20 ∨ character = '\\' then none
      else stringBody (reversed.map (character :: ·)) rest
termination_by _ characters => characters.length

/-- Whether digits may stand before a point: some digits, and no zero before others. -/
def wholeDigits? (digits : List Char) : Bool :=
  match digits with
  | [] => false
  | ['0'] => true
  | '0' :: _ => false
  | _ => true

/-- A decimal without zeros at its end. -/
def trimZeros (digits : List Char) (exponent : Int) : Decimal :=
  let kept := (digits.reverse.dropWhile (· == '0')).reverse
  if Text.digitsValue kept = 0 then ⟨0, 0⟩
  else ⟨Text.digitsValue kept, exponent + (digits.length - kept.length : Nat)⟩

/-- A numeral without point and exponent. -/
def integerNumeral (negative : Bool) (digits : List Char) : Numeral :=
  let value := Text.digitsValue digits
  if negative then
    if 0 < value ∧ value ≤ UInt64.size / 2 then .integer (-value)
    else .decimal true (trimZeros digits 0)
  else
    if value < UInt64.size then .integer value else .decimal false (trimZeros digits 0)

/-- The part of a number after `e`, and what follows it. -/
def exponentPart? (characters : List Char) : Option (Int × List Char) :=
  let (negative, characters) := match characters with
    | '+' :: rest => (false, rest)
    | '-' :: rest => (true, rest)
    | rest => (false, rest)
  let digits := characters.takeWhile Char.isDigit
  if digits.isEmpty then none
  else
    let value : Int := Text.digitsValue digits
    some (if negative then -value else value, characters.dropWhile Char.isDigit)

/-- A minus sign, if there is one, and what follows it. -/
def signPart : List Char → Bool × List Char
  | '-' :: rest => (true, rest)
  | rest => (false, rest)

/-- The digits after a point, if there is a point, and what follows them. -/
def fractionPart : List Char → Option (List Char) × List Char
  | '.' :: rest => (some (rest.takeWhile Char.isDigit), rest.dropWhile Char.isDigit)
  | rest => (none, rest)

/-- The power of ten, if one is stated, and what follows it. -/
def scalePart? : List Char → Option (Option Int × List Char)
  | 'e' :: rest => (exponentPart? rest).map fun (exponent, rest) => (some exponent, rest)
  | 'E' :: rest => (exponentPart? rest).map fun (exponent, rest) => (some exponent, rest)
  | rest => some (none, rest)

/-- The numeral with these parts, unless digits are missing or are there to no purpose. -/
def numeralOf? (negative : Bool) (whole : List Char) (fraction : Option (List Char))
    (exponent : Option Int) : Option Numeral :=
  if !wholeDigits? whole || fraction == some [] then none
  else if fraction.isNone && exponent.isNone then some (integerNumeral negative whole)
  else
    let digits := fraction.getD []
    some (.decimal negative (trimZeros (whole ++ digits) (exponent.getD 0 - digits.length)))

/-- A number, starting at its sign or first digit. -/
def number? (characters : List Char) : Option (Numeral × List Char) := do
  let (negative, characters) := signPart characters
  let whole := characters.takeWhile Char.isDigit
  let (fraction, rest) := fractionPart (characters.dropWhile Char.isDigit)
  let (exponent, rest) ← scalePart? rest
  let numeral ← numeralOf? negative whole fraction exponent
  some (numeral, rest)

/-- The members of an object as a value; a name that is no text spoils the object. -/
def objectOf (members : List (Option String × Json)) : Json :=
  match members.mapM fun (name, value) => name.map (·, value) with
  | some members => .object members
  | none => .illFormed

mutual

/-- A value, blanks before it included. -/
def value? : (fuel : Nat) → List Char → Option (Json × List Char)
  | 0, _ => none
  | fuel + 1, characters =>
      match skipSpace characters with
      | 'n' :: 'u' :: 'l' :: 'l' :: rest => some (.null, rest)
      | 't' :: 'r' :: 'u' :: 'e' :: rest => some (.bool true, rest)
      | 'f' :: 'a' :: 'l' :: 's' :: 'e' :: rest => some (.bool false, rest)
      | '"' :: rest =>
          match stringBody (some []) rest with
          | some (some text, rest) => some (.string text, rest)
          | some (none, rest) => some (.illFormed, rest)
          | none => none
      | '[' :: rest =>
          match skipSpace rest with
          | ']' :: rest => some (.array [], rest)
          | rest => (items? fuel rest).map fun (items, rest) => (.array items, rest)
      | '{' :: rest =>
          match skipSpace rest with
          | '}' :: rest => some (.object [], rest)
          | rest => (members? fuel rest).map fun (members, rest) => (objectOf members, rest)
      | rest => (number? rest).map fun (numeral, rest) => (.number numeral, rest)

/-- The items of an array up to its closing bracket; at least one. -/
def items? : (fuel : Nat) → List Char → Option (List Json × List Char)
  | 0, _ => none
  | fuel + 1, characters =>
      match value? fuel characters with
      | none => none
      | some (item, rest) =>
          match skipSpace rest with
          | ']' :: rest => some ([item], rest)
          | ',' :: rest => (items? fuel rest).map fun (items, rest) => (item :: items, rest)
          | _ => none

/-- The members of an object up to its closing brace; at least one. -/
def members? : (fuel : Nat) → List Char →
    Option (List (Option String × Json) × List Char)
  | 0, _ => none
  | fuel + 1, characters =>
      match skipSpace characters with
      | '"' :: rest =>
          match stringBody (some []) rest with
          | none => none
          | some (name, rest) =>
              match skipSpace rest with
              | ':' :: rest =>
                  match value? fuel rest with
                  | none => none
                  | some (value, rest) =>
                      match skipSpace rest with
                      | '}' :: rest => some ([(name, value)], rest)
                      | ',' :: rest =>
                          (members? fuel rest).map fun (members, rest) =>
                            ((name, value) :: members, rest)
                      | _ => none
              | _ => none
      | _ => none

end

/-- The value that a document holds. -/
def parse? (text : String) : Option Json :=
  let characters := text.toList
  match value? (2 * characters.length + 1) characters with
  | some (value, rest) => if (skipSpace rest).isEmpty then some value else none
  | none => none

end RowStream.Json
