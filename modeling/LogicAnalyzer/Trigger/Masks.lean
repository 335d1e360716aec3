import LogicAnalyzer.Channel.Set
import LogicAnalyzer.Text.Quoted
import LogicAnalyzer.Trigger.Condition

/-!
# Trigger masks

The device is configured with four sets of channels: those it records, those whose
condition it watches, those of them whose condition is an edge, and those whose condition
asks for the high level.

## Main definitions

* `TriggerMasks`: the four sets
* `TriggerMasks.condition?`: the condition of one channel
* `TriggerMasks.check`: whether a device with so many channels takes the masks
* `TriggerError`: why a trigger setting is refused
-/

namespace LogicAnalyzer

/-- Why a trigger setting is refused. -/
inductive TriggerError where
  /-- A channel was given a sequence of conditions. -/
  | multipleStages (channel : Nat) (text : String)
  /-- A channel was given a character that names no condition. -/
  | unknownCondition (channel : Nat) (name : Char)
  /-- The device has fewer channels. -/
  | channelOverLimit (channel channelCount : Nat)
  /-- Channels are marked as edges but not watched. -/
  | edgeWithoutTrigger (channels : ChannelSet)
deriving DecidableEq, Repr

/-- What a refused setting is told. -/
def TriggerError.message : TriggerError → String
  | multipleStages channel text =>
    s!"Only one trigger stage is supported (channel {channel} got " ++ Text.quote text ++ ")"
  | unknownCondition channel name =>
    "Trigger type '" ++ name.toString ++ s!"' is not supported on channel {channel}"
  | channelOverLimit channel channelCount =>
    s!"Channel {channel} over the limit of {channelCount}"
  | edgeWithoutTrigger channels =>
    "Edge trigger configured on channels " ++ channels.render ++ " without a trigger"

/-- The sets of channels that configure the device. -/
structure TriggerMasks where
  channels : ChannelSet := .empty
  /-- The channels whose condition is watched. -/
  triggers : ChannelSet := .empty
  /-- The channels whose condition is an edge. -/
  edges : ChannelSet := .empty
  /-- The channels whose condition asks for the high level. -/
  levels : ChannelSet := .empty
deriving DecidableEq, Repr, Inhabited

namespace TriggerMasks

/-- Every channel that one of the masks mentions. -/
def mentioned (m : TriggerMasks) : ChannelSet :=
  ((m.channels.union m.triggers).union m.edges).union m.levels

/-- The highest mentioned channel that a device with `channelCount` channels lacks. -/
def excess? (m : TriggerMasks) (channelCount : Nat) : Option Nat :=
  m.mentioned.highest?.filter (channelCount ≤ ·)

/-- **Acceptable masks** mention only channels of the device, and mark as edges only channels
that are watched.  The first rule is checked first. -/
def check (m : TriggerMasks) (channelCount : Nat) : Except TriggerError Unit :=
  match m.excess? channelCount with
  | some channel => .error (.channelOverLimit channel channelCount)
  | none =>
    if m.edges.subset m.triggers then .ok ()
    else .error (.edgeWithoutTrigger (m.edges.diff m.triggers))

/-- The masks themselves if they are acceptable. -/
def checked (m : TriggerMasks) (channelCount : Nat) : Except TriggerError TriggerMasks :=
  (m.check channelCount).map fun _ => m

/-- The condition of a channel, if it is watched. -/
def condition? (m : TriggerMasks) (channel : Nat) : Option TriggerCondition :=
  if m.triggers.contains channel then
    some (.ofBits (m.edges.contains channel) (m.levels.contains channel))
  else none

/-- Watches one more channel for a condition. -/
def watch (m : TriggerMasks) (channel : Nat) (condition : TriggerCondition) : TriggerMasks where
  channels := m.channels
  triggers := m.triggers.insert channel
  edges := if condition.isEdge then m.edges.insert channel else m.edges
  levels := if condition.level then m.levels.insert channel else m.levels

end TriggerMasks

end LogicAnalyzer
