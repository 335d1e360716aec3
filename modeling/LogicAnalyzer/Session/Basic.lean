import LogicAnalyzer.Channel.Model
import LogicAnalyzer.Failure
import LogicAnalyzer.Trigger.Plan

/-!
# Sessions

A session is one analyzer together with how it is to be used: rate, limit, clock, channels
and triggers.  It owns the transport.  Settings can be made at any time; what a running
capture does is decided when it starts, except for the clock, which the device is told at
once.

Every operation gives its result and the session after it, also when it fails.

## Main definitions

* `Session τ`: a device behind a transport with states `τ`, and its settings
* `Session.openDevice`, `close`: bringing the device up and shutting it down
* `Session.setSampleRate`, `setSampleLimit`, `setClockSource`: single settings
* `Session.configureChannels`, `configureTriggers`: the masks
* `Session.beginStop`, `finishStop`: the status of a capture that is being stopped
-/

namespace LogicAnalyzer

/-- One analyzer and its settings. -/
structure Session (τ : Type) where
  /-- The way to the device. -/
  transport : τ
  model : Model
  /-- Where the session is in its life. -/
  status : Status := .inactive
  /-- The sample rate, once one is chosen. -/
  sampleRate : Option UInt64 := none
  /-- The sample limit; zero if there is none. -/
  sampleLimit : UInt64 := 0
  /-- Where the sampling ticks come from. -/
  clockSource : ClockSource := .internal
  /-- The channels to record and the triggers to watch for. -/
  masks : TriggerMasks
deriving DecidableEq

namespace Session

variable {τ : Type}

/-- A session with a device that is not up yet: all channels are recorded, nothing is
watched. -/
def new (transport : τ) (model : Model) : Session τ where
  transport := transport
  model := model
  masks := { channels := model.channels }

/-- Sends a command to the device. -/
def send [Transport τ] (s : Session τ) (frame : Frame) : Except TransferError Unit × Session τ :=
  let (result, transport) := Transport.send s.transport frame
  (result, { s with transport })

/-- **Brings the device up**, telling it the clock source.  A session without a rate gets the
standard one, also if the device then refuses. -/
def openDevice [Transport τ] (s : Session τ) : Except Failure Unit × Session τ :=
  if s.status ≠ .inactive then (.error (.session (.invalidState .openDevice s.status)), s)
  else
    let s := { s with
      status := .initializing
      sampleRate := some (s.sampleRate.getD SampleRate.standard) }
    match s.send (Command.selectClock s.clockSource).frame with
    | (.ok (), s) => (.ok (), { s with status := .active })
    | (.error e, s) => (.error (.transfer e), { s with status := .inactive })

/-- **Shuts the device down** and gives the transport back.  An inactive device is not told,
since it was never brought up or is shut down already; a refusal changes nothing. -/
def close [Transport τ] (s : Session τ) : τ :=
  if s.status = .inactive then s.transport else (s.send Command.shutdown.frame).2.transport

/-- Chooses a rate; only the offered ones are taken. -/
def setSampleRate (s : Session τ) (rate : UInt64) : Except Failure Unit × Session τ :=
  if SampleRate.isOffered rate then (.ok (), { s with sampleRate := some rate })
  else (.error (.command (.unsupportedRate rate)), s)

/-- Chooses a limit; zero is no limit. -/
def setSampleLimit (s : Session τ) (limit : UInt64) : Session τ := { s with sampleLimit := limit }

/-- **Chooses a clock source.**  An active device is told at once, and if it refuses, the choice
is taken back. -/
def setClockSource [Transport τ] (s : Session τ) (source : ClockSource) :
    Except Failure Unit × Session τ :=
  if source = .none then (.error (.session .reservedClockSource), s)
  else if s.status = .active then
    match s.send (Command.selectClock source).frame with
    | (.ok (), s) => (.ok (), { s with clockSource := source })
    | (.error e, s) => (.error (.transfer e), s)
  else (.ok (), { s with clockSource := source })

/-- Why a session that is being brought up or stopped refuses an action. -/
def unsettled? (s : Session τ) (action : SettledAction) : Option SessionError :=
  match s.status with
  | .inactive | .active => none
  | status => some (.invalidState action status)

/-- Takes masks if they could be made. -/
def takeMasks (s : Session τ) (action : SettledAction) (masks : Except TriggerError TriggerMasks) :
    Except Failure Unit × Session τ :=
  match s.unsettled? action with
  | some e => (.error (.session e), s)
  | none =>
    match masks with
    | .ok masks => (.ok (), { s with masks })
    | .error e => (.error (.trigger e), s)

/-- Chooses channels and triggers by a list of settings, one per channel. -/
def configureChannels (s : Session τ) (settings : List ChannelSetting) :
    Except Failure Unit × Session τ :=
  s.takeMasks .configureChannels (TriggerMasks.ofSettings s.model.channelCount settings)

/-- Chooses channels and triggers by masks. -/
def configureTriggers (s : Session τ) (masks : TriggerMasks) : Except Failure Unit × Session τ :=
  s.takeMasks .configureTriggers (masks.checked s.model.channelCount)

/-- A capture begins to stop. -/
def beginStop (s : Session τ) : Session τ :=
  if s.status = .active then { s with status := .stopping } else s

/-- A capture has stopped. -/
def finishStop (s : Session τ) : Session τ := { s with status := .inactive }

end Session

end LogicAnalyzer
