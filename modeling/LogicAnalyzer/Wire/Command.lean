import LogicAnalyzer.Trigger.Masks
import LogicAnalyzer.Wire.Clock
import LogicAnalyzer.Wire.Frame
import LogicAnalyzer.Wire.Rate

/-!
# Commands

The device understands three commands: select a clock, take trigger masks, and arm.  Each
has one frame.  Before a command is put into its frame it is checked against what the
device has: its channels and its rates.

## Main definitions

* `Command`: what the device can be told
* `Command.frame`: the frame of a command
* `Command.check`: whether a device with so many channels can obey
* `Command.encode`: the frame of a command that was checked
* `CommandError`: why it cannot

## Main results

* `Command.encode_eq_ok`: what is encoded is the frame
-/

namespace LogicAnalyzer

/-- Why a command is not sent. -/
inductive CommandError where
  /-- The rate is not offered. -/
  | unsupportedRate (rate : UInt64)
  /-- A mask mentions a channel that the device lacks. -/
  | channelOverflow (channel channelCount : Nat)
deriving DecidableEq, Repr

/-- What an unsent command is told. -/
def CommandError.message : CommandError → String
  | unsupportedRate rate => s!"Unsupported sample rate {rate.toNat} Hz"
  | channelOverflow channel channelCount =>
    s!"Channel {channel} exceeds the device's {channelCount} channels"

/-- What the device can be told. -/
inductive Command where
  /-- Take ticks from this source. -/
  | selectClock (source : ClockSource)
  /-- Record and watch these channels. -/
  | configureTriggers (masks : TriggerMasks)
  /-- Start sampling at this rate, until this many samples are taken if the limit is not zero. -/
  | arm (rate limit : UInt64)
deriving DecidableEq, Repr

namespace Command

/-- The operation code of clock selection. -/
def selectClockOpcode : UInt16 := 0x0001

/-- The operation code of trigger configuration. -/
def configureTriggersOpcode : UInt16 := 0x0002

/-- The operation code of arming. -/
def armOpcode : UInt16 := 0x0003

/-- The command that shuts the device down. -/
def shutdown : Command := selectClock .none

/-- A 64-bit word as it is sent. -/
def word (value : UInt64) : List UInt8 := littleEndian 8 value.toNat

/-- **The frame of a command**: a byte for the clock, four words for the masks, two words for
rate and limit. -/
def frame : Command → Frame
  | selectClock source => ⟨selectClockOpcode, [source.code]⟩
  | configureTriggers masks =>
    ⟨configureTriggersOpcode,
      word masks.channels.bits ++ word masks.triggers.bits ++
        word masks.edges.bits ++ word masks.levels.bits⟩
  | arm rate limit => ⟨armOpcode, word rate ++ word limit⟩

/-- Whether a device with `channelCount` channels can obey. -/
def check (channelCount : Nat) : Command → Except CommandError Unit
  | selectClock _ => .ok ()
  | configureTriggers masks =>
    match masks.excess? channelCount with
    | some channel => .error (.channelOverflow channel channelCount)
    | none => .ok ()
  | arm rate _ => if SampleRate.isOffered rate then .ok () else .error (.unsupportedRate rate)

/-- The frame of a command that the device can obey. -/
def encode (channelCount : Nat) (command : Command) : Except CommandError Frame :=
  (command.check channelCount).map fun _ => command.frame

/-- What is encoded is the frame. -/
theorem encode_eq_ok {channelCount : Nat} {command : Command} {frame : Frame}
    (h : command.encode channelCount = .ok frame) : frame = command.frame := by
  unfold encode at h
  cases hcheck : command.check channelCount with
  | error e =>
    rw [hcheck] at h
    cases h
  | ok =>
    rw [hcheck] at h
    cases h
    rfl

end Command

end LogicAnalyzer
