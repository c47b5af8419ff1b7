import RowStream.Decimal.Layout
import RowStream.Text.Hex

/-!
Contract: values of JSON documents and how they are written.

Owns:
- `Numeral`, an integer or a decimal with a sign;
- `Json`, the values, objects keeping the order and the repetition of their members;
- quoting of strings, and the two written forms: compact, and indented by two blanks.
-/

namespace RowStream

/-- A number as a document states it. What is written like an integer and fits into 64
bits is one; everything else is a decimal, whose sign zero has as well. -/
inductive Numeral where
  | integer (value : Int)
  | decimal (negative : Bool) (magnitude : Decimal)
deriving DecidableEq, Repr

inductive Json where
  | null
  | bool (value : Bool)
  | number (numeral : Numeral)
  | string (text : String)
  | array (items : List Json)
  | object (members : List (String × Json))
  /-- A string with half a surrogate pair, which is no text, or an object with such a
  name. -/
  | illFormed
deriving Inhabited

namespace Numeral

/-- The nearest binary number. That a reader of documents gets there for every decimal is assumed
of it: one that settles for the best effort may be off in the last bit. -/
def toFloat : Numeral → Float
  | .integer value =>
      if 0 ≤ value then Float.ofNat value.toNat else -Float.ofNat (-value).toNat
  | .decimal negative magnitude => if negative then -magnitude.toFloat else magnitude.toFloat

def write : Numeral → String
  | .integer value => toString value
  | .decimal negative magnitude =>
      let sign := if negative then "-" else ""
      if magnitude.digits = 0 then sign ++ "0.0"
      else sign ++ FloatLayout.json.writeDecimal magnitude

end Numeral

namespace Json

def nat (value : Nat) : Json := .number (.integer value)

/-- A binary number by its shortest decimal; what is no decimal becomes `null`. -/
def float (value : Float) : Json :=
  let negative := Decimal.isNegative value
  if value.isNaN || value.isInf then .null
  else if value == 0.0 then .number (.decimal negative ⟨0, 0⟩)
  else .number (.decimal negative (Decimal.shortest FloatLayout.json.tie value.abs))

/-- How one character stands inside a quoted string. -/
def quoteChar (character : Char) : List Char :=
  match character with
  | '"' => ['\\', '"']
  | '\\' => ['\\', '\\']
  | '\n' => ['\\', 'n']
  | '\r' => ['\\', 'r']
  | '\t' => ['\\', 't']
  | '\x08' => ['\\', 'b']
  | '\x0c' => ['\\', 'f']
  | _ =>
      let code := character.toNat
      if code < 0x20 then ['\\', 'u'] ++ Text.Hex.digits 4 code
      else [character]

/-- A string between quotes. -/
def quoteChars (text : String) : List Char :=
  '"' :: text.toList.flatMap quoteChar ++ ['"']

private def illFormedChars : List Char := "\"\\ud800\"".toList

mutual

/-- The characters of the value without any blanks. -/
def compactChars : Json → List Char
  | .null => "null".toList
  | .bool value => (if value then "true" else "false").toList
  | .number numeral => numeral.write.toList
  | .string text => quoteChars text
  | .array items => '[' :: compactItems items ++ [']']
  | .object members => '{' :: compactMembers members ++ ['}']
  | .illFormed => illFormedChars

def compactItems : List Json → List Char
  | [] => []
  | [item] => item.compactChars
  | item :: next :: rest => item.compactChars ++ ',' :: compactItems (next :: rest)

def compactMembers : List (String × Json) → List Char
  | [] => []
  | [(name, value)] => quoteChars name ++ ':' :: value.compactChars
  | (name, value) :: next :: rest =>
      quoteChars name ++ ':' :: value.compactChars ++ ',' :: compactMembers (next :: rest)

end

/-- The value without any blanks. -/
def compact (value : Json) : String := String.ofList value.compactChars

private def indentation (depth : Nat) : List Char :=
  '\n' :: List.replicate (2 * depth) ' '

mutual

/-- The characters of the value on several lines, `depth` levels deep. -/
def indentedChars (depth : Nat) : Json → List Char
  | .array [] => ['[', ']']
  | .array items => '[' :: indentedItems (depth + 1) items ++ indentation depth ++ [']']
  | .object [] => ['{', '}']
  | .object members => '{' :: indentedMembers (depth + 1) members ++ indentation depth ++ ['}']
  | .null => "null".toList
  | .bool value => (if value then "true" else "false").toList
  | .number numeral => numeral.write.toList
  | .string text => quoteChars text
  | .illFormed => illFormedChars

def indentedItems (depth : Nat) : List Json → List Char
  | [] => []
  | [item] => indentation depth ++ item.indentedChars depth
  | item :: next :: rest =>
      indentation depth ++ item.indentedChars depth ++ ',' :: indentedItems depth (next :: rest)

def indentedMembers (depth : Nat) : List (String × Json) → List Char
  | [] => []
  | [(name, value)] =>
      indentation depth ++ quoteChars name ++ ':' :: ' ' :: value.indentedChars depth
  | (name, value) :: next :: rest =>
      indentation depth ++ quoteChars name ++ ':' :: ' ' :: value.indentedChars depth ++
        ',' :: indentedMembers depth (next :: rest)

end

/-- The value on several lines, indented by two blanks a level. -/
def indented (value : Json) : String := String.ofList (value.indentedChars 0)

end Json

end RowStream
