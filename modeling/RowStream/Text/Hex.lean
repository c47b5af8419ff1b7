/-!
Contract: numbers and bytes in hexadecimal digits.

Owns:
- the digits, written in lower case and read in either case;
- bytes as text, two digits a byte, in both directions.

Main statement: `Hex.decode?_encode`, bytes are read back from their text.
-/

namespace RowStream.Text.Hex

/-- The digit of a number below sixteen. -/
def digit (value : Nat) : Char :=
  Char.ofNat (if value < 10 then '0'.toNat + value else 'a'.toNat + (value - 10))

def digitValue? (character : Char) : Option Nat :=
  if '0' ≤ character ∧ character ≤ '9' then some (character.toNat - '0'.toNat)
  else if 'a' ≤ character ∧ character ≤ 'f' then some (character.toNat - 'a'.toNat + 10)
  else if 'A' ≤ character ∧ character ≤ 'F' then some (character.toNat - 'A'.toNat + 10)
  else none

/-- The last `width` digits of a number. -/
def digits : (width value : Nat) → List Char
  | 0, _ => []
  | width + 1, value => digits width (value / 16) ++ [digit (value % 16)]

def ofByte (byte : UInt8) : List Char := digits 2 byte.toNat

def encode (bytes : ByteArray) : String :=
  String.ofList (bytes.data.toList.flatMap ofByte)

/-- The bytes of a row of digits, of which there must be an even number. -/
def bytes? : List Char → Option (List UInt8)
  | [] => some []
  | [_] => none
  | high :: low :: rest => do
      let high ← digitValue? high
      let low ← digitValue? low
      let later ← bytes? rest
      some (UInt8.ofNat (high * 16 + low) :: later)

def decode? (text : String) : Option ByteArray :=
  (bytes? text.toList).map fun bytes => ⟨bytes.toArray⟩

theorem digitValue?_digit : ∀ value < 16, digitValue? (digit value) = some value := by
  decide

theorem bytes?_flatMap_ofByte (bytes : List UInt8) :
    bytes? (bytes.flatMap ofByte) = some bytes := by
  induction bytes with
  | nil => rfl
  | cons byte rest inductionHypothesis =>
      have small : byte.toNat < 256 := byte.toNat_lt
      have split : byte.toNat / 16 % 16 * 16 + byte.toNat % 16 = byte.toNat := by omega
      simp only [List.flatMap_cons, ofByte, digits, List.nil_append, List.cons_append, bytes?,
        digitValue?_digit _ (Nat.mod_lt _ (by decide : 0 < 16))]
      rw [inductionHypothesis]
      simp only [Option.bind_eq_bind, Option.bind_some, split, UInt8.ofNat_toNat]

/-- Bytes are read back from their text. -/
theorem decode?_encode (bytes : ByteArray) : decode? (encode bytes) = some bytes := by
  simp [decode?, encode, bytes?_flatMap_ofByte]

end RowStream.Text.Hex
