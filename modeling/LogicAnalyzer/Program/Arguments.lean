import LogicAnalyzer.Program.LiveCapture
import LogicAnalyzer.Program.SimulatedCapture

/-!
# Command line arguments

What a program is asked for is its request; how it is asked is left to this module, on which no
program depends.  Programs take options only.  An option has a long name and perhaps a letter; it is
a switch or takes a value.  A value may be attached to its option or follow as the next argument,
and switches given by their letters may share one argument.

## Main definitions

* `OptionSpec`, `OptionUse`: an option, and how it may be used
* `Scan`: what has been read of a command line
* `readArguments`: the options of a command line, in the order given
* `SimulatedCapture.requestOf`, `LiveCapture.requestOf`: what the arguments of a program ask for
-/

namespace LogicAnalyzer.Program

/-- How an option may be used. -/
inductive OptionUse where
  | switch
  /-- With a value, given once. -/
  | single
  /-- With a value, given any number of times. -/
  | repeated
  /-- Asks for the version of the program, and for nothing else. -/
  | version
  /-- Asks for help, and for nothing else. -/
  | help
deriving DecidableEq, Repr

/-- An option of a program. -/
structure OptionSpec where
  name : String
  letter : Option Char := none
  /-- How it may be used. -/
  use : OptionUse
  /-- Whether a value is acceptable. -/
  accepts : String → Bool := fun _ => true

/-- Whether an option takes a value. -/
def OptionSpec.takesValue (spec : OptionSpec) : Bool :=
  spec.use = .single || spec.use = .repeated

/-- Why no options were read. -/
inductive ArgumentStop where
  /-- The version is to be shown. -/
  | version
  /-- Help is to be shown. -/
  | help
  /-- The arguments make no sense. -/
  | misuse
deriving DecidableEq, Repr

/-- An option as it was given; the value of a switch is empty. -/
structure GivenOption where
  /-- The long name of the option. -/
  name : String
  /-- The value it was given. -/
  value : String
deriving DecidableEq, Repr

/-- What has been read of a command line. -/
structure Scan where
  /-- The options that are complete, in the order given. -/
  given : List GivenOption := []
  /-- The option whose value is the next argument. -/
  pending : Option OptionSpec := none
  /-- Whether only positional arguments can follow. -/
  closed : Bool := false

namespace Scan

/-- Completes an option.  One that may be given once must not have been given before, and no
other may be waiting for its value. -/
def complete (scan : Scan) (spec : OptionSpec) (value : String) : Except ArgumentStop Scan :=
  if scan.pending.isSome then .error .misuse
  else if spec.use = .version then .error .version
  else if spec.use = .help then .error .help
  else if spec.use ≠ .repeated ∧ scan.given.any (fun option => option.name == spec.name) then
    .error .misuse
  else if spec.takesValue && !spec.accepts value then .error .misuse
  else .ok { scan with given := scan.given ++ [⟨spec.name, value⟩] }

/-- Waits for the value of an option. -/
def await (scan : Scan) (spec : OptionSpec) : Except ArgumentStop Scan :=
  if scan.pending.isSome then .error .misuse else .ok { scan with pending := some spec }

/-- Reads an option given by its long name, perhaps with a value behind an equals sign. -/
def readLong (specs : List OptionSpec) (scan : Scan) (text : List Char) :
    Except ArgumentStop Scan :=
  let name := String.ofList (text.takeWhile (· ≠ '='))
  match specs.find? (·.name == name) with
  | none => .error .misuse
  | some spec =>
    match text.dropWhile (· ≠ '='), spec.takesValue with
    | _ :: value, true => scan.complete spec (String.ofList value)
    | _ :: _, false => .error .misuse
    | [], true => scan.await spec
    | [], false => scan.complete spec ""

/-- Reads options given by their letters.  The first that takes a value takes what is left of
the argument, without an equals sign in front, or else the next argument. -/
def readLetters (specs : List OptionSpec) (scan : Scan) : List Char → Except ArgumentStop Scan
  | [] => .ok scan
  | letter :: rest =>
    match specs.find? (·.letter == some letter) with
    | none => .error .misuse
    | some spec =>
      if spec.takesValue then
        match rest with
        | [] => scan.await spec
        | '=' :: value => scan.complete spec (String.ofList value)
        | value => scan.complete spec (String.ofList value)
      else do
        let scan ← scan.complete spec ""
        scan.readLetters specs rest

/-- **Reads one argument.**  What starts with a dash is an option, also where a value is due; a
lone dash is a value, and a double dash closes the options. -/
def read (specs : List OptionSpec) (scan : Scan) (argument : String) : Except ArgumentStop Scan :=
  match argument.toList, scan.closed with
  | _, true => .error .misuse
  | ['-', '-'], false => .ok { scan with closed := true }
  | '-' :: '-' :: text, false => scan.readLong specs text
  | '-' :: letter :: rest, false => scan.readLetters specs (letter :: rest)
  | _, false =>
    match scan.pending with
    | some spec => { scan with pending := none }.complete spec argument
    | none => .error .misuse

end Scan

/-- **The options of a command line**, in the order given. -/
def readArguments (specs : List OptionSpec) (arguments : List String) :
    Except ArgumentStop (List GivenOption) := do
  let scan ← arguments.foldlM (Scan.read specs) {}
  if scan.pending.isSome then throw .misuse
  return scan.given

/-- The values given for an option, in order. -/
def valuesOf (given : List GivenOption) (name : String) : List String :=
  (given.filter (·.name == name)).map (·.value)

/-- The value given for an option. -/
def value? (given : List GivenOption) (name : String) : Option String :=
  (valuesOf given name).head?

/-- The number given for an option, if there is one. -/
def wordOf (given : List GivenOption) (name : String) (otherwise : UInt64) : UInt64 :=
  ((value? given name).bind readWord).getD otherwise

/-- The version of the programs. -/
def release : String := "0.1"

/-- What a program leaves behind if its arguments did not tell it to do anything. -/
def ArgumentStop.result (program : String) : ArgumentStop → ProgramResult
  | version => { exitCode := 0, output := program ++ " " ++ release ++ "\n" }
  | help => { exitCode := 0, output := "Usage: " ++ program ++ " [OPTIONS]\n" }
  | misuse => { exitCode := 2 }

/-! ## The options of the programs -/

namespace SimulatedCapture

/-- The options of the program. -/
def options : List OptionSpec := [
  { name := "samples", letter := some 's', use := .single, accepts := (readWord · |>.isSome) },
  { name := "limit", letter := some 'l', use := .single, accepts := (readWord · |>.isSome) },
  { name := "output", letter := some 'o', use := .single },
  { name := "verbose", letter := some 'v', use := .switch },
  { name := "help", letter := some 'h', use := .help },
  { name := "version", letter := some 'V', use := .version }]

/-- What the arguments ask for. -/
def requestOf (arguments : List String) : Except ArgumentStop Request := do
  let given ← readArguments options arguments
  let standard : Request := {}
  return {
    samples := wordOf given "samples" standard.samples
    limit := wordOf given "limit" standard.limit
    output := value? given "output" }

end SimulatedCapture

namespace LiveCapture

/-- The numbers in a list with commas, if they all are. -/
def readChannels (text : String) : Option (List UInt64) := (text.splitOn ",").mapM readWord

/-- The options of the program. -/
def options : List OptionSpec := [
  { name := "output", letter := some 'o', use := .single },
  { name := "model", letter := some 'm', use := .single,
    accepts := fun text => models.any (·.1 == text) },
  { name := "rate", letter := some 'r', use := .single, accepts := (readWord · |>.isSome) },
  { name := "limit", letter := some 'l', use := .single, accepts := (readWord · |>.isSome) },
  { name := "channels", letter := some 'c', use := .repeated,
    accepts := (readChannels · |>.isSome) },
  { name := "trigger", letter := some 't', use := .repeated },
  { name := "external-clock", use := .switch },
  { name := "verbose", letter := some 'v', use := .switch },
  { name := "help", letter := some 'h', use := .help },
  { name := "version", letter := some 'V', use := .version }]

/-- What the arguments ask for. -/
def requestOf (arguments : List String) : Except ArgumentStop Request := do
  let given ← readArguments options arguments
  let standard : Request := {}
  return {
    output := (value? given "output").getD standard.output
    model := (value? given "model").getD standard.model
    rate := wordOf given "rate" standard.rate
    limit := wordOf given "limit" standard.limit
    channels := (valuesOf given "channels").flatMap fun text => (readChannels text).getD []
    triggers := valuesOf given "trigger"
    externalClock := (value? given "external-clock").isSome }

end LiveCapture

end LogicAnalyzer.Program
