import RowStream.Simulation.Harness
import RowStream.Text.Number
import RowStream.Text.Quoted

/-!
Contract: the program that sweeps simulated runs over a range of seeds.

Owns:
- `Sweep`, what the arguments ask for, and `Sweep.ofArguments`, which reads them;
- `UsageError`, what can be wrong with the arguments;
- `Completion`, what the program writes and how it ends.

Options may stand anywhere. The other arguments are, in this order, the first seed, the
number of seeds and the mode; what follows them is passed over.
-/

namespace RowStream

/-- How hard the simulated runs are. -/
inductive Mode where
  | calm
  | moderate
  | chaos
deriving DecidableEq, Repr

def Mode.ofName? : String → Option Mode
  | "calm" => some .calm
  | "moderate" => some .moderate
  | "chaos" => some .chaos
  | _ => none

/-- The settings of a mode's run with a seed. -/
def Mode.simulation : Mode → UInt64 → Simulation
  | .calm => .calm
  | .moderate => .moderate
  | .chaos => .chaos

inductive UsageError where
  | missingSessions
  | badSessions (text : String)
  | badSeed (text : String)
  | badCount (text : String)
  | unknownMode (text : String)
deriving DecidableEq, Repr

def UsageError.text : UsageError → String
  | .missingSessions => "--sessions needs a value"
  | .badSessions text => s!"invalid session count: {text}"
  | .badSeed text => s!"invalid seed: {text}"
  | .badCount text => s!"invalid count: {text}"
  | .unknownMode text => s!"Unknown mode: {text}. Use 'calm', 'moderate', or 'chaos'"

/-- Runs with successive seeds. -/
structure Sweep where
  seed : UInt64 := 0
  count : Nat := 100
  mode : Mode := .moderate
  /-- Sessions in each run. -/
  sessions : Nat := 50
  /-- Write the reports as JSON. -/
  json : Bool := false
deriving DecidableEq, Repr

namespace Sweep

/-- The largest number that an argument may give. -/
def numberLimit : Nat := UInt64.size - 1

/-- The argument's value, the standard one if there is no argument. -/
private def argument {α : Type} (text : Option String) (standard : α)
    (read : String → Option α) (error : String → UsageError) : Except UsageError α :=
  match text with
  | none => .ok standard
  | some text =>
      match read text with
      | none => .error (error text)
      | some value => .ok value

/-- Takes the options in; answers the other arguments. -/
def takeOptions : List String → Sweep → Except UsageError (List String × Sweep)
  | [], sweep => .ok ([], sweep)
  | "--json" :: rest, sweep => takeOptions rest { sweep with json := true }
  | ["--sessions"], _ => .error .missingSessions
  | "--sessions" :: text :: rest, sweep =>
      match Text.unsigned? numberLimit text with
      | none => .error (.badSessions text)
      | some sessions => takeOptions rest { sweep with sessions := sessions }
  | text :: rest, sweep => do
      let (others, sweep) ← takeOptions rest sweep
      .ok (text :: others, sweep)

/-- The sweep that the arguments ask for. -/
def ofArguments (arguments : List String) : Except UsageError Sweep := do
  let (others, sweep) ← takeOptions arguments {}
  let seed ← argument others[0]? sweep.seed
    (fun text => (Text.unsigned? numberLimit text).map UInt64.ofNat) .badSeed
  let count ← argument others[1]? sweep.count (Text.unsigned? numberLimit) .badCount
  let mode ← argument others[2]? sweep.mode Mode.ofName? .unknownMode
  .ok { sweep with seed := seed, count := count, mode := mode }

/-- The reports of all runs, in the order of their seeds. -/
def reports (sweep : Sweep) : List SimReport :=
  (Harness.batch sweep.mode.simulation sweep.sessions sweep.count sweep.seed {}).1.map
    Harness.Finished.report

end Sweep

/-- What the program writes, and the code with which it ends. -/
structure Completion where
  exitCode : UInt8
  output : String := ""
  complaint : String := ""
deriving DecidableEq, Repr

namespace Completion

/-- A report that found promises broken, in full. -/
private def detail (report : SimReport) : String :=
  let findings := report.violations.map fun violation => s!"  - {violation.text}\n"
  s!"{report.summary}\n" ++ String.join findings

/-- What is written about the reports of a sweep. -/
def ofReports (json : Bool) (reports : List SimReport) : Completion :=
  let broken := reports.filter fun report => !report.succeeded
  let output :=
    if json then
      (Json.array (reports.map SimReport.toJson)).indented ++ "\n"
    else
      String.join (broken.map detail) ++ SimReport.summarize reports ++ "\n"
  { exitCode := if broken.isEmpty then 0 else 1, output := output }

/-- What is written about arguments that ask for no sweep. -/
def ofError (error : UsageError) : Completion :=
  { exitCode := 1, complaint := s!"Error: {Text.quoted error.text}\n" }

/-- The whole program, from its arguments to what it writes. -/
def ofArguments (arguments : List String) : Completion :=
  match Sweep.ofArguments arguments with
  | .error error => ofError error
  | .ok sweep => ofReports sweep.json sweep.reports

end Completion

end RowStream
