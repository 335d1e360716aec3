import LogicAnalyzer.Trigger.Masks

/-!
# Trigger plans

Masks are seldom written down directly.  A plan collects, channel by channel, what to
record and what to watch, and is compiled to masks once it is complete; a list of channel
settings, one per channel, is compiled through a plan.

## Main definitions

* `TriggerPlan`: what to record and what to watch
* `TriggerPlan.enable`, `enableAll`, `watch`: its steps
* `TriggerPlan.build`: the masks of a plan
* `ChannelSetting`: whether a channel is recorded, and the text of its trigger
* `TriggerMasks.ofSettings`: the masks of a list of settings
-/

namespace LogicAnalyzer

/-- What a capture is to record and to watch for. -/
structure TriggerPlan where
  /-- How many channels the device has. -/
  channelCount : Nat
  enabled : ChannelSet := .empty
  /-- The conditions to watch for, at most one per channel, the latest last. -/
  conditions : List (Nat × TriggerCondition) := []
deriving Repr

namespace TriggerPlan

/-- Records a channel. -/
def enable (p : TriggerPlan) (channel : Nat) : TriggerPlan :=
  { p with enabled := p.enabled.insert channel }

/-- Records every channel of the device. -/
def enableAll (p : TriggerPlan) : TriggerPlan :=
  { p with enabled := .first p.channelCount }

/-- Records a channel and watches it for a condition, in place of any earlier one. -/
def watch (p : TriggerPlan) (channel : Nat) (condition : TriggerCondition) : TriggerPlan where
  channelCount := p.channelCount
  enabled := p.enabled.insert channel
  conditions := p.conditions.filter (fun entry => entry.1 != channel) ++ [(channel, condition)]

/-- Adds conditions to masks, up to the first channel that the device lacks. -/
def addConditions (channelCount : Nat) :
    TriggerMasks → List (Nat × TriggerCondition) → Except TriggerError TriggerMasks
  | masks, [] => .ok masks
  | masks, (channel, condition) :: rest =>
    if channelCount ≤ channel then .error (.channelOverLimit channel channelCount)
    else addConditions channelCount (masks.watch channel condition) rest

/-- **The masks of a plan**, if the device takes them. -/
def build (p : TriggerPlan) : Except TriggerError TriggerMasks := do
  let masks ← addConditions p.channelCount { channels := p.enabled } p.conditions
  masks.checked p.channelCount

end TriggerPlan

namespace TriggerCondition

/-- The condition that a character names, for a given channel. -/
def named (channel : Nat) (name : Char) : Except TriggerError TriggerCondition :=
  match ofChar? name with
  | some condition => .ok condition
  | none => .error (.unknownCondition channel name)

/-- **The condition that a text asks for**: none if it is empty, the one it names if it is a
single character.  Longer texts would be sequences of conditions. -/
def ofText (channel : Nat) (text : String) : Except TriggerError (Option TriggerCondition) :=
  match text.toList with
  | [] => .ok none
  | [name] => (named channel name).map some
  | _ => .error (.multipleStages channel text)

end TriggerCondition

/-- What is asked of one channel. -/
structure ChannelSetting where
  enabled : Bool
  trigger : String
deriving DecidableEq, Repr, Inhabited

namespace TriggerPlan

/-- Enters one channel's setting.  The trigger of a channel that is not recorded is not read. -/
def enter (p : TriggerPlan) (channel : Nat) (setting : ChannelSetting) :
    Except TriggerError TriggerPlan :=
  if p.channelCount ≤ channel then .error (.channelOverLimit channel p.channelCount)
  else if !setting.enabled then .ok p
  else do
    match ← TriggerCondition.ofText channel setting.trigger with
    | none => return p.enable channel
    | some condition => return (p.enable channel).watch channel condition

/-- Enters settings for the channels from `channel` on. -/
def enterFrom (p : TriggerPlan) (channel : Nat) :
    List ChannelSetting → Except TriggerError TriggerPlan
  | [] => .ok p
  | setting :: rest => do
    let p ← p.enter channel setting
    p.enterFrom (channel + 1) rest

end TriggerPlan

/-- **The masks of a list of settings**, one per channel from channel 0 on.  The first setting
that cannot be met decides the error. -/
def TriggerMasks.ofSettings (channelCount : Nat) (settings : List ChannelSetting) :
    Except TriggerError TriggerMasks := do
  let plan ← (TriggerPlan.mk channelCount .empty []).enterFrom 0 settings
  plan.build

end LogicAnalyzer
