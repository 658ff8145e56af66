import TextParsers.CommandLine

/-!
# The program

Hands the arguments and the log setting to `CommandLine.run`, and prints the
report that comes back.
-/

def main (arguments : List String) : IO UInt32 := do
  let report := TextParsers.CommandLine.run (← IO.getEnv "RUST_LOG") arguments
  IO.print (TextParsers.CommandLine.unlines report.output)
  IO.eprint (TextParsers.CommandLine.unlines report.diagnosticLines)
  return UInt32.ofNat report.exitCode
