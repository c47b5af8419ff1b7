import RowStream.Config.Document
import RowStream.Toml.Reader

/-!
Contract: configurations as TOML.

Owns: `Config.ofToml`, which reads a document and refuses a configuration with a flaw,
and `Config.ofFile`, which does so with the bytes of a file.
-/

namespace RowStream

/-- Whether a value has no content, as the value of a name that stands for itself. -/
private def Toml.isHollow : Toml → Bool
  | .array [] => true
  | .table [] => true
  | _ => false

/-- A status code by its name, or as the only entry of a table without content. -/
def StatusCode.ofToml? : Toml → Option StatusCode
  | .string name => ofName? name
  | .table [(name, value)] => if value.isHollow then ofName? name else none
  | _ => none

/-- What TOML says about its values. A date is like a table of which nothing is known. -/
def ValueReader.toml : ValueReader Toml where
  shape?
    | .table entries => some (.named entries)
    | .array items => some (.row items false)
    | .datetime => some (.named [])
    | _ => none
  natural? limit
    | .integer value => if 0 ≤ value ∧ value ≤ limit then some value.toNat else none
    | _ => none
  float?
    | .float value => some value
    | .integer value => some (Numeral.integer value).toFloat
    | _ => none
  flag?
    | .bool value => some value
    | _ => none
  items?
    | .array items => some items
    | _ => none
  code? := StatusCode.ofToml?

namespace Config

/-- The configuration that a TOML document describes, if it has no flaw. -/
def ofToml (text : String) : Except ConfigError Config :=
  match (Toml.parse? text).bind (ofValue? ValueReader.toml) with
  | none => .error .malformed
  | some config =>
      match config.validate with
      | .error flaw => .error (.invalid flaw)
      | .ok () => .ok config

/-- The configuration in a file, given the file's bytes if there is such a file. -/
def ofFile (contents : Option ByteArray) : Except ConfigError Config :=
  match contents with
  | none => .error (.unreadable .noSuchFile)
  | some bytes =>
      match String.fromUTF8? bytes with
      | none => .error (.unreadable .invalidText)
      | some text => ofToml text

end Config

end RowStream
