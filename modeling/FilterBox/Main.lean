import FilterBox.CommandLine.Outcome

/-!
The program behind the command line.
-/

def main (arguments : List String) : IO UInt32 := do
  let outcome := FilterBox.CommandLine.outcome arguments
  IO.print outcome.output
  IO.eprint outcome.errors
  return outcome.code
