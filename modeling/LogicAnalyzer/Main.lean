import LogicAnalyzer.Capture.PlainTable
import LogicAnalyzer.Program.Arguments

/-!
# The command line

The first argument names the program; the others are its arguments.  What a program does is
computed before any of it is done.
-/

namespace LogicAnalyzer.Program

/-- Writes what a program leaves behind. -/
def conclude (result : ProgramResult) : IO UInt32 := do
  IO.print result.output
  IO.eprint result.complaint
  return result.exitCode.toUInt32

/-- Does what a program does.  What it tells first is out before its file is written, since the
file may be the output itself. -/
def SimulatedCapture.Deed.carryOut : SimulatedCapture.Deed → IO Unit
  | .tells text => do
    IO.print text
    (← IO.getStdout).flush
  | .saves path text => IO.FS.writeFile path text

/-- Runs the simulated capture.  If its file cannot be written, it ends as with files that refuse. -/
def simulate (request : SimulatedCapture.Request) : IO UInt32 := do
  let performed := fun files => SimulatedCapture.perform .plain files request
  let code := fun files => ((performed files).elim 101 (·.exitCode)).toUInt32
  try
    for deed in (performed .willing).elim [] (·.deeds) do deed.carryOut
    return code .willing
  catch error =>
    IO.eprintln s!"Error: {error}"
    return code (.refusing (toString error))

/-- Runs the program that the first argument names.  No bus is attached to a program that runs
without drivers, so a live capture finds no analyzer. -/
def runNamed (arguments : List String) : IO UInt32 :=
  match arguments with
  | program :: rest =>
    if program == SimulatedCapture.name then
      match SimulatedCapture.requestOf rest with
      | .error stop => conclude (stop.result program)
      | .ok request => simulate request
    else if program == LiveCapture.name then
      match LiveCapture.requestOf rest with
      | .error stop => conclude (stop.result program)
      | .ok request =>
        match LiveCapture.run request [] with
        | .error result => conclude result
        | .ok (_, analyzer) =>
          conclude { exitCode := 0, output := LiveCapture.foundText request analyzer }
    else conclude { exitCode := 2, complaint := "There is no program " ++ program ++ "\n" }
  | [] => conclude { exitCode := 2, complaint := "Name a program\n" }

end LogicAnalyzer.Program

/-- The command line. -/
def main (arguments : List String) : IO UInt32 := LogicAnalyzer.Program.runNamed arguments
