import LogicAnalyzer.Channel.Model
import LogicAnalyzer.Device.Registry
import LogicAnalyzer.Program.SimulatedCapture
import LogicAnalyzer.Trigger.Plan
import LogicAnalyzer.Wire.Rate

/-!
# A capture from an analyzer on the bus

The program refuses rates, triggers and channels that the model does not have, looks for an
analyzer on the bus, and opens the first that it finds.

## Main definitions

* `LiveCapture.Request`: what the program is asked for
* `LiveCapture.settings`: the channel settings that it asks for
* `LiveCapture.run`: the program, up to the point where an analyzer is opened
* `readWord`: numbers in texts
-/

namespace LogicAnalyzer.Program

/-- The number that decimal digits write. -/
def ofDigits (digits : List Char) : Nat :=
  digits.foldl (fun value digit => 10 * value + (digit.toNat - '0'.toNat)) 0

/-- **A number that fits a word**: decimal digits, at least one, perhaps behind a plus sign. -/
def readWord (text : String) : Option UInt64 :=
  let digits := match text.toList with
    | '+' :: rest => rest
    | digits => digits
  if digits.isEmpty || !digits.all Char.isDigit then none
  else if ofDigits digits < UInt64.size then some (UInt64.ofNat (ofDigits digits))
  else none

/-- What a program leaves behind. -/
structure ProgramResult where
  exitCode : UInt8
  /-- What it wrote to its output. -/
  output : String := ""
  /-- What it wrote to its error output. -/
  complaint : String := ""
deriving DecidableEq, Repr

namespace LiveCapture

/-- The name of the program. -/
def name : String := "capture"

/-- What the program is asked for. -/
structure Request where
  output : String := "capture.csv"
  /-- The name of the model. -/
  model : String := "lwla1034"
  rate : UInt64 := 1000000
  /-- How many samples are wanted. -/
  limit : UInt64 := 100000
  /-- The channels to record, counted from one; all if none is given. -/
  channels : List UInt64 := []
  triggers : List String := []
  /-- Whether to sample at the rising edges of the external input. -/
  externalClock : Bool := false
deriving DecidableEq, Repr

/-- The models that can be asked for. -/
def models : List (String × Model) := [("lwla1016", .lwla1016), ("lwla1034", .lwla1034)]

/-- The model that is asked for. -/
def Request.device (request : Request) : Model :=
  ((models.find? (·.1 == request.model)).map Prod.snd).getD .lwla1034

/-- A request that cannot be met. -/
inductive RequestError where
  /-- The rate is not offered. -/
  | unsupportedRate (rate : UInt64)
  /-- A trigger without an equals sign. -/
  | invalidTrigger (text : String)
  /-- A trigger on something that is no channel of the model. -/
  | invalidChannel (text : String) (model : Model)
deriving DecidableEq, Repr

/-- What is told about a request that cannot be met. -/
def RequestError.message : RequestError → String
  | unsupportedRate rate =>
    s!"Unsupported sample rate {rate.toNat}. Pick one of " ++
      SimulatedCapture.listText (SampleRate.offered.map UInt64.toNat)
  | invalidTrigger text => "Invalid trigger " ++ text ++ ". Use CHANNEL=TYPE"
  | invalidChannel text model => "Invalid channel " ++ text ++ " for " ++ model.name

/-- The channel and the condition of a trigger: what is on either side of its first equals
sign, the channel counted from one. -/
def readTrigger (model : Model) (text : String) : Except RequestError (Nat × String) :=
  let chars := text.toList
  match chars.dropWhile (· ≠ '=') with
  | [] => .error (.invalidTrigger text)
  | _ :: condition =>
    let channel := String.ofList (chars.takeWhile (· ≠ '='))
    match readWord channel with
    | some number =>
      if 1 ≤ number.toNat ∧ number.toNat ≤ model.channelCount then
        .ok (number.toNat - 1, String.ofList condition)
      else .error (.invalidChannel channel model)
    | none => .error (.invalidChannel channel model)

/-- **The channel settings of a request.**  The rate is judged first, then the triggers one by
one; of several triggers on a channel the last one counts. -/
def settings (request : Request) : Except RequestError (List ChannelSetting) := do
  let model := request.device
  unless SampleRate.isOffered request.rate do throw (.unsupportedRate request.rate)
  let triggers ← request.triggers.mapM (readTrigger model)
  return (List.range model.channelCount).map fun channel => {
    enabled := request.channels.isEmpty || request.channels.any (·.toNat == channel + 1)
    trigger := ((triggers.reverse.find? (·.1 == channel)).map Prod.snd).getD "" }

/-- How a failed search is called. -/
def searchText : DiscoveryError → String
  | .deviceNotFound bus address =>
    "DeviceNotFound \x7b " ++ s!"bus: {bus.toNat}, address: {address.toNat}" ++ " \x7d"
  | .noDevices => "NoDevices"

/-- The heading of the output. -/
def heading : String := "LWLA Capture\n============\n"

/-- What is told once an analyzer is found. -/
def foundText (request : Request) (analyzer : AnalyzerInfo) : String :=
  heading ++ "Using " ++ analyzer.describe ++ " as " ++ request.device.name ++ "\n"

/-- **The program**, on what it is asked for and with the devices that are on the bus, up to the
point where it has opened an analyzer. -/
def run (request : Request) (attached : List BusDevice) :
    Except ProgramResult (List ChannelSetting × AnalyzerInfo) :=
  match settings request with
  | .error e => .error { exitCode := 1, complaint := e.message ++ "\n" }
  | .ok settings =>
    match (Registry.scan attached).devices with
    | [] =>
      .error {
        exitCode := 1
        output := heading
        complaint := DiscoveryError.noDevices.message ++ "\n" }
    | analyzer :: _ =>
      match Registry.find attached analyzer with
      | .error e =>
        .error {
          exitCode := 1
          output := foundText request analyzer
          complaint := "Error: " ++ searchText e ++ "\n" }
      | .ok opened => .ok (settings, opened)

end LiveCapture

end LogicAnalyzer.Program
