import LogicAnalyzer.Capture.Controller
import LogicAnalyzer.Capture.Table
import LogicAnalyzer.Device.Simulated

/-!
# A capture without hardware

The program lets a simulated device stream a counter, with the trigger firing after the
first quarter of it, captures that, and tells what each of the lowest channels did, as the columns
of the table of the capture have it.  If asked to, it writes the capture to a file.  It breaks off
as soon as something fails.

## Main definitions

* `SimulatedCapture.Request`: what the program is asked for
* `SimulatedCapture.capture`: the capture
* `SimulatedCapture.Steps`: what the program does, up to where it breaks off
* `SimulatedCapture.report`, `keep`: what is told of the capture, and the file that is written
* `SimulatedCapture.perform`: the program
-/

namespace LogicAnalyzer.Program.SimulatedCapture

/-- The name of the program. -/
def name : String := "simulated_capture"

/-- What the program is asked for. -/
structure Request where
  /-- How many samples the device streams. -/
  samples : UInt64 := 4096
  /-- How many of them are wanted; zero if there is no limit. -/
  limit : UInt64 := 1000
  /-- The path of the file to write. -/
  output : Option String := none
deriving DecidableEq, Repr

/-! ## The capture -/

/-- The model that is simulated. -/
def model : Model := .lwla1016

/-- The samples of the counter. -/
def counter (count : Nat) : List UInt64 :=
  (List.range count).map fun index => UInt64.ofNat index &&& 0xffff

/-- The device with its stream: a quarter of the counter, the trigger, the rest, the end. -/
def device (count : Nat) : Option SimulatedDevice := do
  let quarter := count / 4
  let samples := counter count
  let device ← SimulatedDevice.queueSamples { model } (samples.take quarter)
  let device ← device.queueTrigger.queueSamples (samples.drop quarter)
  return device.queueCaptureDone

/-- The trigger plan: all channels are recorded, a rising edge on the first one is watched for. -/
def plan : TriggerPlan :=
  (TriggerPlan.enableAll { channelCount := model.channelCount }).watch 0 .rising

/-- The device brought up and configured. -/
def prepare (device : SimulatedDevice) (limit : UInt64) :
    Except Failure (Controller SimulatedDevice Recording) := do
  let c : Controller SimulatedDevice Recording := .new (.new device model) {}
  let (opened, c) := c.onSession Session.openDevice
  opened
  let c := { c with session := c.session.setSampleLimit limit }
  let masks ← plan.build.mapError .trigger
  let (configured, c) := c.onSession (·.configureTriggers masks)
  configured
  return c

/-- What a capture leaves behind. -/
structure Outcome where
  /-- The trailer of the capture. -/
  trailer : StreamTrailer
  device : SimulatedDevice
  recording : Recording

/-- **The capture**: the device is brought up, configured, and read to the end.  There is nothing
more if the stream cannot be queued, or if the capture never ends. -/
def capture (request : Request) : Option (Except Failure Outcome) := do
  let device ← device request.samples.toNat
  match prepare device request.limit with
  | .error e => return .error e
  | .ok c =>
    match ← c.start with
    | (.error e, _) => return .error e
    | (.ok (), c) =>
      match ← c.run with
      | (.error e, _) => return .error e
      | (.ok trailer, c) =>
        let (device, recording) := c.close
        return .ok { trailer, device, recording }

/-! ## Telling of it -/

/-- Why the program breaks off. -/
inductive Stop (ε : Type) where
  | failure (error : Failure)
  /-- A table could not be made, read or written. -/
  | table (error : ε)

/-- What the program does. -/
inductive Deed where
  /-- It writes a text to its output. -/
  | tells (text : String)
  /-- It writes a text to a file. -/
  | saves (path text : String)
deriving DecidableEq, Repr

/-- What is written to the output. -/
def Deed.told : Deed → String
  | tells text => text
  | saves _ _ => ""

/-- **What the program does**, up to where it breaks off. -/
abbrev Steps (ε : Type) : Type → Type := ExceptT (Stop ε) (StateM (List Deed))

variable {ε : Type}

/-- Does something. -/
def act (deed : Deed) : Steps ε Unit := modify (· ++ [deed])

/-- Goes on with what is asked for, or breaks off. -/
def require {α : Type} : Except ε α → Steps ε α
  | .ok a => return a
  | .error e => throw (.table e)

/-- How a failed transfer is called. -/
def transferText : TransferError → String
  | .stall => "Stall"
  | .disconnected => "Disconnected"
  | .fault => "Fault"
  | .cancelled => "Cancelled"
  | .bus report => "Usb(" ++ Text.quote report ++ ")"

/-- How a corrupt stream is called. -/
def corruptionText : Corruption → String
  | .unknownOpcode opcode => s!"UnknownOpcode({opcode.toNat})"
  | .unexpectedPayload opcode => malformed opcode "unexpected payload"
  | .partialRecord =>
    malformed Response.samplesOpcode "payload is not a whole number of sample records"
where
  malformed (opcode : UInt16) (reason : String) : String :=
    "Malformed \x7b " ++ s!"opcode: {opcode.toNat}, reason: " ++ Text.quote reason ++ " \x7d"

/-- How the end of a capture is called. -/
def reasonText : EndReason → String
  | .stopped => "Stopped"
  | .limitReached => "LimitReached"
  | .deviceDone => "DeviceDone"
  | .aborted (.transfer error) => "Aborted(Transfer(" ++ transferText error ++ "))"
  | .aborted (.corruption cause) => "Aborted(Protocol(" ++ corruptionText cause ++ "))"

/-- A list of numbers in brackets. -/
def listText (values : List Nat) : String := "[" ++ ", ".intercalate (values.map toString) ++ "]"

/-- How often neighbouring levels differ. -/
def transitions : List Bool → Nat
  | [] => 0
  | level :: rest =>
    (rest.foldl (fun (state : Bool × Nat) next =>
      (next, if next = state.1 then state.2 else state.2 + 1)) (level, 0)).2

/-- How many channels are told about. -/
def reportedChannels : Nat := 4

/-- Tells how often the levels of a channel change in its column. -/
def reportChannel (library : TableLibrary ε) (table : SampleTable) (channel : Nat) :
    Steps ε Unit := do
  let name := model.channelName channel
  let column ← require (library.column table name)
  let levels ← require (library.levels column)
  act (.tells ("  " ++ name ++ s!": {transitions levels} transitions\n"))

/-- Tells where the trigger fired, if it did. -/
def reportTriggers (triggers : List Nat) : Steps ε Unit :=
  if triggers.isEmpty then return
  else act (.tells ("Trigger at sample " ++ listText triggers ++ "\n"))

/-- **Tells of a capture**, and of the lowest channels in its table. -/
def report (library : TableLibrary ε) (outcome : Outcome) : Steps ε Unit := do
  act (.tells (s!"Captured {outcome.trailer.samples} samples (" ++
    reasonText outcome.trailer.reason ++ ")\n"))
  act (.tells s!"Device saw {outcome.device.commands.length} commands\n")
  reportTriggers outcome.recording.triggers
  let table ← require (outcome.recording.table library)
  (model.channels.toList.take reportedChannels).forM (reportChannel library table)

/-- **Writes a capture to its file**, if there is one, and tells so. -/
def keep (library : TableLibrary ε) (files : Files ε) (recording : Recording) :
    Option String → Steps ε Unit
  | none => return
  | some path => do
    let text ← require (recording.save library files path)
    act (.saves path text)
    act (.tells ("Wrote " ++ path ++ "\n"))

/-! ## The program -/

/-- What the program has done, and whether it broke off. -/
structure Run (ε : Type) where
  ending : Except (Stop ε) Unit
  deeds : List Deed

/-- The exit code. -/
def Run.exitCode (run : Run ε) : UInt8 :=
  match run.ending with
  | .ok () => 0
  | .error _ => 1

/-- All that was written to the output. -/
def Run.output (run : Run ε) : String := String.join (run.deeds.map Deed.told)

/-- **The program**, on what it is asked for. -/
def perform (library : TableLibrary ε) (files : Files ε) (request : Request) :
    Option (Run ε) := do
  let result ← capture request
  let steps : Steps ε Unit := match result with
    | .error e => throw (.failure e)
    | .ok outcome => do
      report library outcome
      keep library files outcome.recording request.output
  let (ending, deeds) := steps.run.run []
  return { ending, deeds }

end LogicAnalyzer.Program.SimulatedCapture
