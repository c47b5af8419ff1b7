/-!
Contract: the layouts in which reports can be written.

Owns: `LogFormat` and the reader of its names, which does not tell capital ASCII letters
from small ones.
-/

namespace RowStream

/-- How reports are laid out. -/
inductive LogFormat where
  /-- One line for people. -/
  | pretty
  /-- One JSON object. -/
  | json
deriving DecidableEq, Repr

namespace LogFormat

def name : LogFormat → String
  | .pretty => "pretty"
  | .json => "json"

/-- The layout used unless another one is asked for. -/
def standard : LogFormat := .pretty

instance : Inhabited LogFormat := ⟨standard⟩

/-- The layout of a name, or what to say about a name that means none. -/
def ofText (text : String) : Except String LogFormat :=
  match text.toLower with
  | "pretty" => .ok .pretty
  | "text" => .ok .pretty
  | "json" => .ok .json
  | other => .error s!"unknown log format: {other}"

end LogFormat

end RowStream
