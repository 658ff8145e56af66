import TextParsers.Log.Filter
import TextParsers.Showcase

/-!
# The command line

The program reads each of its inputs as an assignment and writes the
assignment again in its normal form, one line for each. An input that is
rejected is reported on the error stream instead, and at the end, if there was
any, their number. Log records that the filter admits go to the error stream
too, in the order in which they are made.

The arguments are looked at from left to right, and nothing is read before all
of them are known to be good.
-/

namespace TextParsers.CommandLine

/-- What the arguments ask for. -/
inductive Request where
  | help
  | version
  /-- Reads the inputs, after the showcase if it is asked for. -/
  | read (showcase : Bool) (inputs : List String)
  /-- The arguments are not understood, from this one on. -/
  | misuse (argument : String)
  deriving DecidableEq

/-- Whether an argument is an input even where options are expected: it does not begin with a
dash or is a dash alone. -/
def isPlainInput (argument : String) : Bool :=
  match argument.toList with
  | '-' :: _ :: _ => false
  | _ => true

/-- Reads arguments from left to right, after a showcase option or not and after the inputs that
have been met. -/
def requestFrom (showcase : Bool) (inputs : Array String) : List String → Request
  | [] => .read showcase inputs.toList
  | argument :: rest =>
      if isPlainInput argument then requestFrom showcase (inputs.push argument) rest
      else if argument = "--" then .read showcase (inputs.toList ++ rest)
      else if argument = "--help" ∨ argument = "-h" then .help
      else if argument = "--version" ∨ argument = "-V" then .version
      else if argument = "--showcase" ∧ ¬ showcase then requestFrom true inputs rest
      else .misuse argument

/-- What a list of arguments asks for. -/
def requestOf (arguments : List String) : Request := requestFrom false #[] arguments

/-- The text that `--help` prints. -/
def helpLines : List String :=
  ["Parser combinators over string slices with data-valued failures",
   "",
   "Usage: strcomb [OPTIONS] [INPUTS]...",
   "",
   "Arguments:",
   "  [INPUTS]...  Assignments to parse, e.g. \"let xs = [1, 2, 3]\"",
   "",
   "Options:",
   "      --showcase  Walk through every primitive and combinator on sample inputs",
   "  -h, --help      Print help",
   "  -V, --version   Print version"]

/-- The text that `--version` prints. -/
def versionLine : String := "strcomb 0.1.0"

/-- A line on the error stream. -/
inductive Diagnostic where
  /-- A log record. -/
  | logged (r : Record)
  /-- An input that was rejected. -/
  | invalid (input : String) (error : ParseError)
  /-- How many of all inputs were rejected. -/
  | summary (rejected total : Nat)
  /-- An argument that is not understood. -/
  | misuse (argument : String)
  deriving DecidableEq

/-- The diagnostic on one line. -/
def Diagnostic.line : Diagnostic → String
  | logged r => r.consoleLine
  | invalid input error => "error: invalid assignment " ++ Text.quote input ++ ": " ++ error.message
  | summary rejected total =>
      "Error: " ++ Decimal.ofNat rejected ++ " of " ++ Decimal.ofNat total ++
        " inputs failed to parse"
  | misuse argument => "error: unexpected argument " ++ Text.quote argument

/-- What a run of the program leaves behind. -/
structure Report where
  /-- The lines on standard output. -/
  output : List String
  /-- The lines on the error stream. -/
  diagnostics : List Diagnostic
  exitCode : Nat

/-- The error stream as it is printed. -/
def Report.diagnosticLines (r : Report) : List String := r.diagnostics.map Diagnostic.line

/-- An input that has been read: the assignment in it or the error, and the records made. -/
structure Reading where
  input : String
  result : Except ParseError Assignment
  records : List Record

/-- Reads one input. For an assignment one more record is made. -/
def read (input : String) : Reading :=
  let parsed := Assignment.parse (Text.ofString input)
  let announced :=
    match parsed.value with
    | .ok a => [Record.parsed a.name a.values.length]
    | .error _ => []
  ⟨input, parsed.value, parsed.records ++ announced⟩

namespace Reading

/-- The lines on standard output: the assignment as it is written. -/
def output (r : Reading) : List String :=
  match r.result with
  | .ok a => [a.render]
  | .error _ => []

/-- The lines on the error stream: the admitted records, and the error. -/
def diagnostics (filter : Filter) (r : Reading) : List Diagnostic :=
  (r.records.filter filter.admits).map .logged ++
    match r.result with
    | .ok _ => []
    | .error e => [.invalid r.input e]

/-- Whether the input is rejected. -/
def isRejected (r : Reading) : Bool :=
  match r.result with
  | .ok _ => false
  | .error _ => true

end Reading

/-- Reads the inputs one after another. -/
def readAll (filter : Filter) (showcase : Bool) (inputs : List String) : Report :=
  let readings := inputs.map read
  let rejected := readings.countP Reading.isRejected
  { output := (if showcase then Showcase.lines else []) ++ readings.flatMap Reading.output
    diagnostics := readings.flatMap (Reading.diagnostics filter) ++
      if rejected = 0 then [] else [.summary rejected inputs.length]
    exitCode := if rejected = 0 then 0 else 1 }

/-- Does what the arguments ask for, under the log setting if there is one. -/
def run (logSetting : Option String) (arguments : List String) : Report :=
  match requestOf arguments with
  | .help => ⟨helpLines, [], 0⟩
  | .version => ⟨[versionLine], [], 0⟩
  | .misuse argument => ⟨[], [.misuse argument], 2⟩
  | .read showcase inputs =>
      readAll ((logSetting.map Filter.ofSetting).getD Filter.errorsOnly) showcase inputs

/-- Lines as one string, each with a line break after it. -/
def unlines (lines : List String) : String := String.join (lines.map (· ++ "\n"))

end TextParsers.CommandLine
