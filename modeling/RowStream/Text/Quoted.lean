import RowStream.Text.Combining
import RowStream.Text.Unprintable

/-!
Contract: texts quoted for diagnostics.

Owns: `quoted`, a text between double quotes in which every character can be seen.

A quote and a backslash stand behind a backslash, a few control characters have a letter,
and any other character that cannot be seen on its own is written as its code point.
-/

namespace RowStream.Text

/-- A character as its code point in lower-case hexadecimal digits. -/
def codePointEscape (character : Char) : List Char :=
  ['\\', 'u', '\x7b'] ++ Nat.toDigits 16 character.toNat ++ ['\x7d']

/-- How one character stands between the quotes. -/
def quotedChar (character : Char) : List Char :=
  match character with
  | '\x00' => ['\\', '0']
  | '\t' => ['\\', 't']
  | '\n' => ['\\', 'n']
  | '\r' => ['\\', 'r']
  | '"' => ['\\', '"']
  | '\\' => ['\\', '\\']
  | _ =>
      if isCombining character || isUnprintable character then codePointEscape character
      else [character]

/-- A text between double quotes. -/
def quoted (text : String) : String :=
  String.ofList ('"' :: text.toList.flatMap quotedChar ++ ['"'])

end RowStream.Text
