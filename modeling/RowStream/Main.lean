import RowStream.CommandLine

/-!
Contract: the program as the operating system starts it.

Owns: `main`, which hands the arguments over and writes what comes back.
-/

open RowStream

def main (arguments : List String) : IO UInt32 := do
  let completion := Completion.ofArguments arguments
  IO.print completion.output
  IO.eprint completion.complaint
  return completion.exitCode.toUInt32
