import RowStream.Json.Reader
import RowStream.Toml.Scalar

/-!
Contract: reading TOML documents.

Owns: the readers of blanks, strings, keys and values, and `Toml.parse?`, which reads a
whole document into the table it describes.

Each reader answers what it read and the characters left over. Values nest less than
`nestingLimit` deep, and keys have fewer parts than that.
-/

namespace RowStream.Toml

/-- A reader's result: what it read, and the characters left over. -/
abbrev Reading (α : Type) := Option (α × List Char)

/-- Depth at which values and keys are refused. -/
def nestingLimit : Nat := 80

def isBlank (character : Char) : Bool :=
  character == ' ' || character == '\t'

def skipBlanks (characters : List Char) : List Char :=
  characters.dropWhile isBlank

/-- Whether a character may stand in a comment or a literal string: no control character
but the tabulator. -/
def isPlain (character : Char) : Bool :=
  character == '\t' || (decide (0x20 ≤ character.toNat) && character.toNat != 0x7f)

/-- What follows a line's end, if there is one here. -/
def newline? : List Char → Option (List Char)
  | '\n' :: rest => some rest
  | '\r' :: '\n' :: rest => some rest
  | _ => none

/-- What follows a comment, if there is one here. -/
def skipComment : List Char → List Char
  | '#' :: rest => rest.dropWhile isPlain
  | characters => characters

/-- What follows the end of a line that holds nothing more than blanks and a comment. -/
def lineEnd? (characters : List Char) : Option (List Char) :=
  match skipComment (skipBlanks characters) with
  | [] => some []
  | rest => newline? rest

/-- Skips blanks, comments and the ends of lines. A comment must end with its line. -/
def skipLines : (fuel : Nat) → List Char → Option (List Char)
  | 0, _ => none
  | fuel + 1, characters =>
      match skipBlanks characters with
      | '#' :: rest => (newline? (rest.dropWhile isPlain)).bind (skipLines fuel)
      | '\n' :: rest => skipLines fuel rest
      | '\r' :: '\n' :: rest => skipLines fuel rest
      | rest => some rest

/-- The character that an escape denotes, from the character after the backslash. -/
def escape? : List Char → Reading Char
  | 'b' :: rest => some ('\x08', rest)
  | 't' :: rest => some ('\t', rest)
  | 'n' :: rest => some ('\n', rest)
  | 'f' :: rest => some ('\x0c', rest)
  | 'r' :: rest => some ('\r', rest)
  | '"' :: rest => some ('"', rest)
  | '\\' :: rest => some ('\\', rest)
  | 'u' :: rest => codePoint? 4 rest
  | 'U' :: rest => codePoint? 8 rest
  | _ => none
where
  /-- The character whose number is written in `count` hexadecimal digits. -/
  codePoint? (count : Nat) (characters : List Char) : Option (Char × List Char) := do
    let digits ← (characters.take count).mapM Text.Hex.digitValue?
    if digits.length ≠ count then none
    let code := digits.foldl (fun value digit => value * 16 + digit) 0
    if code.isValidChar then some (Char.ofNat code, characters.drop count) else none

/-- A string on one line, after its opening quote. -/
def basicBody : (fuel : Nat) → (reversed : List Char) → List Char → Reading String
  | 0, _, _ => none
  | _ + 1, reversed, '"' :: rest => some (String.ofList reversed.reverse, rest)
  | fuel + 1, reversed, '\\' :: rest =>
      (escape? rest).bind fun (character, rest) => basicBody fuel (character :: reversed) rest
  | fuel + 1, reversed, character :: rest =>
      if isPlain character then basicBody fuel (character :: reversed) rest else none
  | _ + 1, _, [] => none

/-- A literal string on one line, after its opening apostrophe. -/
def literalBody (characters : List Char) : Reading String :=
  let isInside (character : Char) : Bool := isPlain character && character != '\''
  match characters.dropWhile isInside with
  | '\'' :: rest => some (String.ofList (characters.takeWhile isInside), rest)
  | _ => none

/-- Blanks and ends of lines after a backslash at the end of a line. -/
def skipContinuation : (fuel : Nat) → List Char → List Char
  | 0, characters => characters
  | fuel + 1, characters =>
      match newline? (skipBlanks characters) with
      | some rest => skipContinuation fuel rest
      | none => skipBlanks characters

/-- The closing quotes of a string on several lines: three, after up to two that belong
to the string. -/
def closing? (quote : Char) (reversed characters : List Char) : Reading String :=
  let count := (characters.takeWhile (· == quote)).length
  if 3 ≤ count then
    let inside := min (count - 3) 2
    some (String.ofList (List.replicate inside quote ++ reversed).reverse,
      characters.drop (inside + 3))
  else
    none

/-- A string on several lines, after its opening quotes and a line's end behind them. -/
def multilineBody (quote : Char) : (fuel : Nat) → (reversed : List Char) → List Char →
    Reading String
  | 0, _, _ => none
  | fuel + 1, reversed, characters =>
      match closing? quote reversed characters with
      | some reading => some reading
      | none =>
          match characters with
          | [] => none
          | '\r' :: '\n' :: rest => multilineBody quote fuel ('\n' :: reversed) rest
          | '\n' :: rest => multilineBody quote fuel ('\n' :: reversed) rest
          | '\\' :: rest =>
              if quote == '"' then
                match newline? (skipBlanks rest) with
                | some rest =>
                    multilineBody quote fuel reversed (skipContinuation rest.length rest)
                | none =>
                    (escape? rest).bind fun (character, rest) =>
                      multilineBody quote fuel (character :: reversed) rest
              else
                multilineBody quote fuel ('\\' :: reversed) rest
          | character :: rest =>
              if isPlain character then multilineBody quote fuel (character :: reversed) rest
              else none

def dropNewline (characters : List Char) : List Char :=
  (newline? characters).getD characters

/-- A string of one of the four kinds, from its opening quote. -/
def string? (characters : List Char) : Reading String :=
  let fuel := characters.length + 1
  match characters with
  | '"' :: '"' :: '"' :: rest => multilineBody '"' fuel [] (dropNewline rest)
  | '\'' :: '\'' :: '\'' :: rest => multilineBody '\'' fuel [] (dropNewline rest)
  | '"' :: rest => basicBody fuel [] rest
  | '\'' :: rest => literalBody rest
  | _ => none

def isBareKey (character : Char) : Bool :=
  character.isAlphanum || character == '_' || character == '-'

/-- One part of a key. -/
def simpleKey? (characters : List Char) : Reading String :=
  match characters with
  | '"' :: rest => basicBody (characters.length + 1) [] rest
  | '\'' :: rest => literalBody rest
  | _ =>
      let bare := characters.takeWhile isBareKey
      if bare.isEmpty then none
      else some (String.ofList bare, characters.dropWhile isBareKey)

/-- The parts of a key, blanks around each of them included. -/
def keyParts? : (fuel : Nat) → List Char → Reading (List String)
  | 0, _ => none
  | fuel + 1, characters =>
      (simpleKey? (skipBlanks characters)).bind fun (part, rest) =>
        match skipBlanks rest with
        | '.' :: rest => (keyParts? fuel rest).map fun (parts, rest) => (part :: parts, rest)
        | rest => some ([part], rest)

/-- A key: the steps to it, and its last part. -/
def key? (characters : List Char) : Reading (List String × String) :=
  (keyParts? (nestingLimit - 1) characters).bind fun (parts, rest) =>
    parts.getLast?.map fun last => ((parts.dropLast, last), rest)

def isTokenCharacter (character : Char) : Bool :=
  isBareKey character || character == '+' || character == '.' || character == ':'

/-- A value without brackets and quotes. A date may be followed by a blank and a time. -/
def scalarReading? (characters : List Char) : Reading Toml :=
  let token := characters.takeWhile isTokenCharacter
  let rest := characters.dropWhile isTokenCharacter
  match rest with
  | ' ' :: later =>
      if isDate token && isOffsetTime (later.takeWhile isTokenCharacter) then
        some (.datetime, later.dropWhile isTokenCharacter)
      else
        (scalar? token).map (·, rest)
  | _ => (scalar? token).map (·, rest)

mutual

/-- A value, not deeper than `depth` brackets. -/
def value? : (fuel depth : Nat) → List Char → Reading Toml
  | 0, _, _ => none
  | fuel + 1, depth, characters =>
      match characters with
      | '"' :: _ => (string? characters).map fun (text, rest) => (.string text, rest)
      | '\'' :: _ => (string? characters).map fun (text, rest) => (.string text, rest)
      | '[' :: rest =>
          if depth = 0 then none
          else
            match skipLines (rest.length + 1) rest with
            | some (']' :: rest) => some (.array [], rest)
            | some rest =>
                (items? fuel (depth - 1) rest).map fun (items, rest) => (.array items, rest)
            | none => none
      | '{' :: rest =>
          if depth = 0 then none
          else
            match skipBlanks rest with
            | '}' :: rest => some (.table [], rest)
            | rest =>
                (members? fuel (depth - 1) [] rest).map fun (entries, rest) =>
                  (.table (entriesToValues entries), rest)
      | _ => scalarReading? characters

/-- The items of an array up to its closing bracket; at least one. -/
def items? : (fuel depth : Nat) → List Char → Reading (List Toml)
  | 0, _, _ => none
  | fuel + 1, depth, characters =>
      match value? fuel depth characters with
      | none => none
      | some (item, rest) =>
          match skipLines (rest.length + 1) rest with
          | some (']' :: rest) => some ([item], rest)
          | some (',' :: rest) =>
              match skipLines (rest.length + 1) rest with
              | some (']' :: rest) => some ([item], rest)
              | some rest =>
                  (items? fuel depth rest).map fun (items, rest) => (item :: items, rest)
              | none => none
          | _ => none

/-- The members of an inline table up to its closing brace; at least one more. -/
def members? : (fuel depth : Nat) → Entries → List Char → Reading Entries
  | 0, _, _, _ => none
  | fuel + 1, depth, entries, characters =>
      match key? characters with
      | some ((steps, key), '=' :: rest) =>
          match value? fuel depth (skipBlanks rest) with
          | none => none
          | some (value, rest) =>
              match addDotted key value steps entries with
              | none => none
              | some entries =>
                  match skipBlanks rest with
                  | '}' :: rest => some (entries, rest)
                  | ',' :: rest => members? fuel depth entries rest
                  | _ => none
      | _ => none

end

/-- A document read so far: its tables, and the header that is in force. -/
structure Draft where
  root : Entries := []
  header : List String := []

/-- Reads the header of a table or of an element, after its opening bracket. -/
def header? (draft : Draft) (characters : List Char) : Option (Draft × List Char) :=
  match characters with
  | '[' :: rest =>
      match key? rest with
      | some ((steps, key), ']' :: ']' :: rest) => do
          let rest ← lineEnd? rest
          let root ← within (openElement key) steps draft.root
          some (⟨root, steps ++ [key]⟩, rest)
      | _ => none
  | _ =>
      match key? characters with
      | some ((steps, key), ']' :: rest) => do
          let rest ← lineEnd? rest
          let root ← within (openTable key) steps draft.root
          some (⟨root, steps ++ [key]⟩, rest)
      | _ => none

/-- Reads a key and its value up to the end of the line. -/
def assignment? (draft : Draft) (characters : List Char) : Option (Draft × List Char) :=
  match key? characters with
  | some ((steps, key), '=' :: rest) => do
      let rest := skipBlanks rest
      let (value, rest) ← value? (2 * rest.length + 1) (nestingLimit - 1) rest
      let rest ← lineEnd? rest
      let root ← within (addDotted key value steps) draft.header draft.root
      some ({ draft with root := root }, rest)
  | _ => none

/-- Reads the statements of a document, one a line. -/
def statements? : (fuel : Nat) → Draft → List Char → Option Draft
  | 0, _, _ => none
  | fuel + 1, draft, characters =>
      match skipBlanks characters with
      | [] => some draft
      | '[' :: rest =>
          (header? draft rest).bind fun (draft, rest) => statements? fuel draft rest
      | rest =>
          match rest with
          | '#' :: _ => (lineEnd? rest).bind (statements? fuel draft)
          | '\n' :: _ => (lineEnd? rest).bind (statements? fuel draft)
          | '\r' :: _ => (lineEnd? rest).bind (statements? fuel draft)
          | _ => (assignment? draft rest).bind fun (draft, rest) => statements? fuel draft rest

/-- The table that a document describes. A byte order mark in front is skipped. -/
def parse? (text : String) : Option Toml :=
  let characters := match text.toList with
    | '\ufeff' :: rest => rest
    | characters => characters
  (statements? (characters.length + 1) {} characters).map fun draft =>
    .table (entriesToValues draft.root)

end RowStream.Toml
