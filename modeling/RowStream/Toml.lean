/-!
Contract: values of TOML documents and the tables they are collected in.

Owns:
- `Toml`, the values;
- `Node`, a value in its place, or a table with the way in which it came about;
- the three statements of a document as changes of such tables: a dotted key with a
  value, the header of a table, the header of an element of an array of tables.

A table comes about by a header of its own, as a step on the way of a longer header, or
as a step of a dotted key. What may be added to it later depends on that: a header may
take over only what a longer header implied, and a dotted key may not reach into what has
a header.
-/

namespace RowStream

inductive Toml where
  | string (text : String)
  | integer (value : Int)
  | float (value : Float)
  | bool (value : Bool)
  /-- A date, a time of day, or both; which one plays no part here. -/
  | datetime
  | array (items : List Toml)
  | table (entries : List (String × Toml))
deriving Inhabited

namespace Toml

/-- How a table came about. -/
inductive Origin where
  /-- It has a header of its own. -/
  | header
  /-- It lies on the way of a longer header. -/
  | implied
  /-- It is a step of a dotted key. -/
  | dotted
deriving DecidableEq, Repr

inductive Node where
  | value (value : Toml)
  | table (origin : Origin) (entries : List (String × Node))
  /-- Elements of an array of tables, the latest one first. -/
  | tables (latest : List (String × Node)) (earlier : List (List (String × Node)))

/-- The members of a table under construction. -/
abbrev Entries := List (String × Node)

/-- The entries with the node of one key replaced; the key comes last if it is new. -/
def put (key : String) (node : Node) : Entries → Entries
  | [] => [(key, node)]
  | entry :: rest => if entry.1 = key then (key, node) :: rest else entry :: put key node rest

/-- Adds a value under a key that is not taken. -/
def addValue (key : String) (value : Toml) (entries : Entries) : Option Entries :=
  match entries.lookup key with
  | none => some (put key (.value value) entries)
  | some _ => none

/-- Adds a value under a dotted key, `steps` being all its parts but the last. -/
def addDotted (key : String) (value : Toml) : (steps : List String) → Entries → Option Entries
  | [], entries => addValue key value entries
  | step :: steps, entries =>
      match entries.lookup step with
      | none =>
          (addDotted key value steps []).map fun inner => put step (.table .dotted inner) entries
      | some (.value _) => none
      | some (.table .header _) => none
      | some (.table .implied inner) =>
          if steps.isEmpty then none
          else (addDotted key value steps inner).map fun inner =>
            put step (.table .implied inner) entries
      | some (.table .dotted inner) =>
          (addDotted key value steps inner).map fun inner =>
            put step (.table .dotted inner) entries
      | some (.tables latest earlier) =>
          if steps.isEmpty then none
          else (addDotted key value steps latest).map fun latest =>
            put step (.tables latest earlier) entries

/-- Changes the table that a header's steps lead to, the latest element standing for an
array of tables. Steps that lead nowhere yet imply tables. -/
def within (change : Entries → Option Entries) : (steps : List String) → Entries →
    Option Entries
  | [], entries => change entries
  | step :: steps, entries =>
      match entries.lookup step with
      | none =>
          (within change steps []).map fun inner => put step (.table .implied inner) entries
      | some (.value _) => none
      | some (.table origin inner) =>
          (within change steps inner).map fun inner => put step (.table origin inner) entries
      | some (.tables latest earlier) =>
          (within change steps latest).map fun latest =>
            put step (.tables latest earlier) entries

/-- Opens the table of a header. -/
def openTable (key : String) (entries : Entries) : Option Entries :=
  match entries.lookup key with
  | none => some (put key (.table .header []) entries)
  | some (.table .implied inner) => some (put key (.table .header inner) entries)
  | some _ => none

/-- Opens one more element of an array of tables. -/
def openElement (key : String) (entries : Entries) : Option Entries :=
  match entries.lookup key with
  | none => some (put key (.tables [] []) entries)
  | some (.tables latest earlier) => some (put key (.tables [] (latest :: earlier)) entries)
  | some _ => none

mutual

/-- The value that a finished node is. -/
def Node.toValue : Node → Toml
  | .value value => value
  | .table _ entries => .table (entriesToValues entries)
  | .tables latest earlier =>
      .array (elementsToValues earlier [.table (entriesToValues latest)])

def entriesToValues : List (String × Node) → List (String × Toml)
  | [] => []
  | (key, node) :: rest => (key, node.toValue) :: entriesToValues rest

def elementsToValues : List (List (String × Node)) → List Toml → List Toml
  | [], later => later
  | entries :: rest, later => elementsToValues rest (.table (entriesToValues entries) :: later)

end

end Toml

end RowStream
