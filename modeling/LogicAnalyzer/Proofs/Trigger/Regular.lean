import LogicAnalyzer.Proofs.Trigger.Settings
import LogicAnalyzer.Proofs.Trigger.Steps

/-!
# Regular masks

Masks have four words, and not every choice of them describes what a device is to do: a channel may
be watched that is not recorded, or have a level to watch for that nobody watches.  Regular masks
are those without such leftovers.  They are determined by the channels that they record and by the
condition that is read back for each channel.  A plan is compiled to regular masks, and so are
settings, because entering settings is making a plan in steps.

## Main definitions

* `TriggerMasks.Regular`: accepted by the device, and without leftovers
* `PlanStep.Records`: the channels that a step records

## Main results

* `TriggerMasks.Regular.ext`: what determines regular masks
* `TriggerPlan.build_eq_ok`: when a plan is compiled, and to what
* `TriggerPlan.recorded_ofSteps`: the channels of the device that a plan records
* `TriggerPlan.regular_of_build`, `TriggerMasks.regular_of_ofSettings`: what is compiled is regular
-/

namespace LogicAnalyzer

variable {channelCount channel i : Nat} {condition : TriggerCondition}

/-! ## Conditions and their bits -/

namespace TriggerCondition

theorem isEdge_ofBits (edge level : Bool) : (ofBits edge level).isEdge = edge := by
  cases edge <;> cases level <;> rfl

theorem level_ofBits (edge level : Bool) : (ofBits edge level).level = level := by
  cases edge <;> cases level <;> rfl

end TriggerCondition

namespace TriggerMasks

variable {m m' : TriggerMasks}

theorem contains_mentioned :
    m.mentioned.contains i = true ↔
      m.channels.contains i = true ∨ m.triggers.contains i = true ∨ m.edges.contains i = true ∨
        m.levels.contains i = true := by
  simp only [mentioned, ChannelSet.contains_union, Bool.or_eq_true, or_assoc]

/-- **Regular masks** are accepted by a device with so many channels, and watch only what they
record.  Only channels that are watched have a level. -/
structure Regular (m : TriggerMasks) (channelCount : Nat) : Prop where
  accepted : m.check channelCount = .ok ()
  recorded : m.triggers.subset m.channels = true
  levels : m.levels.subset m.triggers = true

/-- A channel is watched if a condition is read back for it. -/
theorem isSome_condition? (m : TriggerMasks) (i : Nat) :
    (m.condition? i).isSome = m.triggers.contains i := by
  rw [condition?]
  split
  · rename_i hwatched
    exact hwatched.symm
  · rename_i hnot
    exact (Bool.eq_false_iff.mpr hnot).symm

namespace Regular

variable {otherCount : Nat}

/-- Only channels that are watched have an edge. -/
theorem edges (h : m.Regular channelCount) : m.edges.subset m.triggers = true :=
  ChannelSet.subset_iff.mpr (check_eq_ok.mp h.accepted).2

theorem lt_of_mentioned (h : m.Regular channelCount) (hi : m.mentioned.contains i = true) :
    i < channelCount :=
  (check_eq_ok.mp h.accepted).1 i hi

/-- The edge is that of the condition that is read back. -/
theorem contains_edges (h : m.Regular channelCount) (i : Nat) :
    m.edges.contains i = (m.condition? i).any TriggerCondition.isEdge := by
  rw [condition?]
  split
  · exact (TriggerCondition.isEdge_ofBits _ _).symm
  · rename_i hnot
    have hedge : ¬ m.edges.contains i = true := fun hi =>
      hnot (ChannelSet.subset_iff.mp h.edges i hi)
    exact Bool.eq_false_iff.mpr hedge

/-- The level is that of the condition that is read back. -/
theorem contains_levels (h : m.Regular channelCount) (i : Nat) :
    m.levels.contains i = (m.condition? i).any TriggerCondition.level := by
  rw [condition?]
  split
  · exact (TriggerCondition.level_ofBits _ _).symm
  · rename_i hnot
    have hlevel : ¬ m.levels.contains i = true := fun hi =>
      hnot (ChannelSet.subset_iff.mp h.levels i hi)
    exact Bool.eq_false_iff.mpr hlevel

/-- **Regular masks are determined** by what they record and by the conditions that are read
back. -/
theorem ext (h : m.Regular channelCount) (h' : m'.Regular otherCount)
    (hchannels : ∀ i, m.channels.contains i = m'.channels.contains i)
    (hconditions : ∀ i, m.condition? i = m'.condition? i) : m = m' := by
  have htriggers (i : Nat) : m.triggers.contains i = m'.triggers.contains i := by
    rw [← isSome_condition?, ← isSome_condition?, hconditions i]
  have hedges (i : Nat) : m.edges.contains i = m'.edges.contains i := by
    rw [h.contains_edges, h'.contains_edges, hconditions i]
  have hlevels (i : Nat) : m.levels.contains i = m'.levels.contains i := by
    rw [h.contains_levels, h'.contains_levels, hconditions i]
  obtain ⟨channels, triggers, edges, levels⟩ := m
  obtain ⟨channels', triggers', edges', levels'⟩ := m'
  obtain rfl : channels = channels' := ChannelSet.ext_contains hchannels
  obtain rfl : triggers = triggers' := ChannelSet.ext_contains htriggers
  obtain rfl : edges = edges' := ChannelSet.ext_contains hedges
  obtain rfl : levels = levels' := ChannelSet.ext_contains hlevels
  rfl

end Regular

end TriggerMasks

/-! ## Plans -/

/-- **The channels that a step records.**  A channel that is watched is recorded, too. -/
def PlanStep.Records (channelCount : Nat) : PlanStep → Nat → Prop
  | enable named, channel | watch named _, channel => channel = named
  | enableAll, channel => channel < channelCount

namespace TriggerPlan

variable {p p' : TriggerPlan} {masks : TriggerMasks} {steps : List PlanStep}

/-- **A plan is compiled** if and only if the device has all channels that it mentions. -/
theorem build_eq_ok :
    p.build = .ok masks ↔
      (∀ channel, p.Mentions channel → channel < p.channelCount) ∧
        masks = TriggerMasks.watchAll { channels := p.enabled } p.conditions := by
  constructor
  · intro hbuild
    have hwithin : ∀ channel, p.Mentions channel → channel < p.channelCount := by
      intro channel hmentions
      by_contra hexcess
      obtain ⟨first, herror, -⟩ := build_of_excess hmentions (Nat.le_of_not_lt hexcess)
      rw [hbuild] at herror
      contradiction
    rw [build_of_within hwithin] at hbuild
    exact ⟨hwithin, (Except.ok.inj hbuild).symm⟩
  · rintro ⟨hwithin, rfl⟩
    exact build_of_within hwithin

/-- **The channels of the device that a plan records** are those that some step does. -/
theorem recorded_ofSteps (hchannel : channel < channelCount)
    (hcapacity : channel < ChannelSet.capacity) :
    (ofSteps channelCount steps).enabled.contains channel = true ↔
      ∃ step ∈ steps, step.Records channelCount channel := by
  induction steps using List.reverseRecOn with
  | nil => simp [ofSteps]
  | append_singleton steps step ih =>
    simp only [ofSteps_snoc, List.mem_append, List.mem_singleton, or_and_right, exists_or,
      exists_eq_left, ← ih]
    rcases step with named | _ | ⟨named, asked⟩
    · simp only [take, enable, ChannelSet.contains_insert, PlanStep.Records, Bool.or_eq_true,
        decide_eq_true_eq]
      grind
    · simp [take, enableAll, PlanStep.Records, hchannel, hcapacity]
    · simp only [take, watch, ChannelSet.contains_insert, PlanStep.Records, Bool.or_eq_true,
        decide_eq_true_eq]
      grind

/-- What is watched is recorded, unless it is no channel of the device. -/
theorem enabled_of_conditions (hchannel : channel < channelCount)
    (hcapacity : channel < ChannelSet.capacity)
    (hmem : (channel, condition) ∈ (ofSteps channelCount steps).conditions) :
    (ofSteps channelCount steps).enabled.contains channel = true := by
  obtain ⟨asked, hwatch⟩ := conditions_ofSteps.mp ⟨condition, hmem⟩
  exact (recorded_ofSteps hchannel hcapacity).mpr ⟨_, hwatch, rfl⟩

/-- **A plan is compiled to regular masks.** -/
theorem regular_of_build (h : (ofSteps channelCount steps).build = .ok masks) :
    masks.Regular channelCount := by
  have haccepted := check_of_build h
  rw [channelCount_ofSteps] at haccepted
  obtain ⟨hwithin, rfl⟩ := build_eq_ok.mp h
  rw [channelCount_ofSteps] at hwithin
  refine ⟨haccepted, ?_, ?_⟩
  · rw [ChannelSet.subset_iff]
    intro i hi
    obtain ⟨hcapacity, condition, hmem⟩ := TriggerMasks.contains_triggers_watchAll.mp hi
    exact enabled_of_conditions (hwithin i (.inr ⟨condition, hmem⟩)) hcapacity hmem
  · rw [ChannelSet.subset_iff]
    intro i hi
    exact TriggerMasks.triggers_of_insertEach _ hi

/-! ## Settings -/

/-- Entering a setting takes steps: none, one or two. -/
theorem ofSteps_of_enter {setting : ChannelSetting}
    (h : (ofSteps channelCount steps).enter channel setting = .ok p') :
    ∃ more, p' = ofSteps channelCount (steps ++ more) := by
  have hentered := (ofSteps channelCount steps).entered channel setting
  rw [h] at hentered
  rcases hentered with _ | _ | ⟨-, condition, -⟩ | _
  · exact ⟨[], by rw [List.append_nil]⟩
  · exact ⟨[.enable channel], (ofSteps_snoc channelCount steps (.enable channel)).symm⟩
  · refine ⟨[.enable channel] ++ [.watch channel condition], ?_⟩
    rw [← List.append_assoc, ofSteps_snoc, ofSteps_snoc]
    rfl

theorem ofSteps_of_enterFrom {settings : List ChannelSetting}
    (h : (ofSteps channelCount steps).enterFrom channel settings = .ok p') :
    ∃ more, p' = ofSteps channelCount (steps ++ more) := by
  induction settings generalizing steps channel with
  | nil => exact ⟨[], by rw [List.append_nil, Except.ok.inj h]⟩
  | cons setting rest ih =>
    obtain ⟨entered, henter, hrest⟩ := bind_eq_ok.mp h
    obtain ⟨first, rfl⟩ := ofSteps_of_enter henter
    obtain ⟨more, rfl⟩ := ih hrest
    exact ⟨first ++ more, by rw [List.append_assoc]⟩

end TriggerPlan

namespace TriggerMasks

variable {masks : TriggerMasks} {settings : List ChannelSetting}

/-- **Settings are compiled to regular masks.** -/
theorem regular_of_ofSettings (h : ofSettings channelCount settings = .ok masks) :
    masks.Regular channelCount := by
  obtain ⟨plan, hplan, hbuild⟩ := bind_eq_ok.mp h
  have hempty : TriggerPlan.mk channelCount .empty [] = .ofSteps channelCount [] := rfl
  rw [hempty] at hplan
  obtain ⟨steps, rfl⟩ := TriggerPlan.ofSteps_of_enterFrom hplan
  exact TriggerPlan.regular_of_build hbuild

end TriggerMasks

end LogicAnalyzer
