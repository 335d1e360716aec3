import LogicAnalyzer.Proofs.Trigger.Regular

/-!
# The last condition counts

A channel may be watched for one condition after another while a plan is made, and each takes the
place of the one before.  What is left at the end is what the last step for the channel said, in
whatever order the steps for other channels came in between.

## Main definitions

* `PlanStep.lastCondition?`: the condition that the last step for a channel watches it for
* `PlanStep.Apart`: two steps that do not name the same channel

## Main results

* `TriggerPlan.mem_conditions_iff`: the conditions of a plan
* `TriggerPlan.build_ofSteps`: what is recorded and watched in the end
* `TriggerPlan.last_step_decides`: the masks that steps are compiled to
-/

namespace LogicAnalyzer

variable {channelCount channel i : Nat} {condition : TriggerCondition}
variable {steps : List PlanStep} {step first second : PlanStep}

namespace PlanStep

/-- The condition that a step watches a channel for. -/
def condition? (channel : Nat) : PlanStep → Option TriggerCondition
  | watch named condition => if named = channel then some condition else none
  | enable _ | enableAll => none

/-- **The condition of the last step** that watches a channel. -/
def lastCondition? (channel : Nat) (steps : List PlanStep) : Option TriggerCondition :=
  (steps.filterMap (condition? channel)).getLast?

/-- Two steps do not name the same channel. -/
def Apart (first second : PlanStep) : Prop :=
  ∀ channel, first.channel? = some channel → second.channel? ≠ some channel

theorem lastCondition?_snoc (channel : Nat) (steps : List PlanStep) (step : PlanStep) :
    lastCondition? channel (steps ++ [step]) =
      (step.condition? channel).or (lastCondition? channel steps) := by
  rw [lastCondition?, List.filterMap_append, List.getLast?_append, List.filterMap_cons,
    List.filterMap_nil]
  rcases step.condition? channel with _ | condition <;> rfl

theorem channel?_of_condition? (h : step.condition? channel = some condition) :
    step.channel? = some channel := by
  rcases step with named | _ | ⟨named, asked⟩
  · contradiction
  · contradiction
  · rw [condition?] at h
    split at h
    · rename_i hnamed
      exact congrArg some hnamed
    · contradiction

theorem named_of_lastCondition? (h : lastCondition? channel steps = some condition) :
    Named steps channel := by
  obtain ⟨step, hmem, hcondition⟩ := List.mem_filterMap.mp (List.mem_of_getLast? h)
  exact ⟨step, hmem, channel?_of_condition? hcondition⟩

/-- A step records the channel that it names, or all of the device. -/
theorem Records.device_or_named (h : step.Records channelCount channel) :
    channel < channelCount ∨ step.channel? = some channel := by
  rcases step with named | _ | ⟨named, asked⟩
  · exact .inr (congrArg some (Eq.symm h))
  · exact .inl h
  · exact .inr (congrArg some (Eq.symm h))

/-- Of two steps that do not name the same channel, one at most watches any. -/
theorem Apart.condition? (h : Apart first second) (channel : Nat) :
    first.condition? channel = none ∨ second.condition? channel = none := by
  rcases hfirst : first.condition? channel with _ | asked
  · exact .inl rfl
  rcases hsecond : second.condition? channel with _ | other
  · exact .inr rfl
  exact absurd (channel?_of_condition? hsecond) (h channel (channel?_of_condition? hfirst))

/-- Which of them comes first does not matter for the last condition of any channel. -/
theorem Apart.lastCondition? (h : Apart first second) (channel : Nat)
    (before after : List PlanStep) :
    lastCondition? channel (before ++ first :: second :: after) =
      lastCondition? channel (before ++ second :: first :: after) := by
  simp only [PlanStep.lastCondition?, List.filterMap_append, List.filterMap_cons]
  rcases h.condition? channel with hfirst | hsecond
  · rw [hfirst]
  · rw [hsecond]

end PlanStep

namespace TriggerPlan

open PlanStep

/-- **The conditions of a plan** are those of the last step for each channel. -/
theorem mem_conditions_iff :
    (channel, condition) ∈ (ofSteps channelCount steps).conditions ↔
      lastCondition? channel steps = some condition := by
  induction steps using List.reverseRecOn with
  | nil => exact ⟨nofun, nofun⟩
  | append_singleton steps step ih =>
    rw [ofSteps_snoc, lastCondition?_snoc]
    rcases step with named | _ | ⟨named, asked⟩
    · exact ih
    · exact ih
    · simp only [take, watch, List.mem_append, List.mem_filter, List.mem_singleton, bne_iff_ne,
        Prod.mk.injEq, ih, PlanStep.condition?]
      by_cases hnamed : named = channel
      · subst hnamed
        simp [eq_comm]
      · simp [hnamed, Ne.symm hnamed]

/-- No channel has two conditions. -/
theorem decides_ofSteps (channelCount : Nat) (steps : List PlanStep) :
    Decides (ofSteps channelCount steps).conditions := by
  intro channel first second hfirst hsecond
  have hlast := mem_conditions_iff.mp hfirst
  rw [mem_conditions_iff.mp hsecond] at hlast
  exact (Option.some.inj hlast).symm

/-- **The channels that a plan records** are those that some step does, if all steps name channels
of the device. -/
theorem recorded_of_within (hcount : channelCount ≤ ChannelSet.capacity)
    (hwithin : ∀ channel, Named steps channel → channel < channelCount) (channel : Nat) :
    (ofSteps channelCount steps).enabled.contains channel = true ↔
      ∃ step ∈ steps, step.Records channelCount channel := by
  by_cases hchannel : channel < channelCount
  · exact recorded_ofSteps hchannel (Nat.lt_of_lt_of_le hchannel hcount)
  · constructor
    · intro hi
      have hkept := ((enabled_ofSteps (Nat.le_of_not_lt hchannel)).mp hi).2
      exact absurd (hwithin channel (named_of_kept hkept)) hchannel
    · rintro ⟨step, hmem, hrecords⟩
      rcases hrecords.device_or_named with hdevice | hnamed
      · exact absurd hdevice hchannel
      · exact absurd (hwithin channel ⟨step, hmem, hnamed⟩) hchannel

/-- A plan whose steps name channels of the device mentions no others. -/
theorem mentions_within (hwithin : ∀ channel, Named steps channel → channel < channelCount) :
    ∀ channel, (ofSteps channelCount steps).Mentions channel →
      channel < (ofSteps channelCount steps).channelCount := by
  intro channel hmentions
  rw [channelCount_ofSteps]
  by_contra hexcess
  rcases (mentions_ofSteps (Nat.le_of_not_lt hexcess)).mp hmentions with hwatched | ⟨-, hkept⟩
  · exact hexcess (hwithin channel (named_of_watched hwatched))
  · exact hexcess (hwithin channel (named_of_kept hkept))

/-- **What a plan is compiled to**, if its steps name channels of the device. -/
theorem build_ofSteps (hcount : channelCount ≤ ChannelSet.capacity)
    (hwithin : ∀ channel, Named steps channel → channel < channelCount) :
    ∃ masks, (ofSteps channelCount steps).build = .ok masks ∧
      (∀ i, masks.channels.contains i = true ↔ ∃ step ∈ steps, step.Records channelCount i) ∧
      ∀ i, masks.condition? i = lastCondition? i steps := by
  refine ⟨_, build_of_within (mentions_within hwithin), recorded_of_within hcount hwithin, ?_⟩
  intro i
  ext condition
  rw [TriggerMasks.condition?_watchAll (decides_ofSteps channelCount steps), mem_conditions_iff]
  constructor
  · rintro ⟨-, hlast⟩
    exact hlast
  · intro hlast
    have hchannel := hwithin i (named_of_lastCondition? hlast)
    exact ⟨Nat.lt_of_lt_of_le hchannel hcount, hlast⟩

/-- **The last step for a channel decides**, for any device with at most 64 channels and any steps
that name channels of the device only.  The masks record what some step does, and watch each channel
for the condition of the last step that watches it.  Nothing is left of earlier ones: edges and
levels are those of channels that are watched, and these are recorded.  Two steps in a row that do
not name the same channel can change places. -/
theorem last_step_decides (hcount : channelCount ≤ ChannelSet.capacity)
    (hwithin : ∀ channel, Named steps channel → channel < channelCount) :
    ∃ masks, (ofSteps channelCount steps).build = .ok masks ∧
      (∀ i, masks.channels.contains i = true ↔ ∃ step ∈ steps, step.Records channelCount i) ∧
      (∀ i, masks.condition? i = lastCondition? i steps) ∧
      masks.edges.subset masks.triggers = true ∧ masks.levels.subset masks.triggers = true ∧
      masks.triggers.subset masks.channels = true ∧
      ∀ before first second after, steps = before ++ first :: second :: after →
        Apart first second →
          (ofSteps channelCount (before ++ second :: first :: after)).build = .ok masks := by
  obtain ⟨masks, hbuild, hchannels, hconditions⟩ := build_ofSteps hcount hwithin
  have hregular := regular_of_build hbuild
  refine ⟨masks, hbuild, hchannels, hconditions, hregular.edges, hregular.levels,
    hregular.recorded, ?_⟩
  rintro before first second after rfl hapart
  have hsame (step : PlanStep) :
      step ∈ before ++ second :: first :: after ↔ step ∈ before ++ first :: second :: after := by
    simp only [List.mem_append, List.mem_cons, or_left_comm]
  have hwithin' : ∀ channel,
      Named (before ++ second :: first :: after) channel → channel < channelCount := by
    rintro channel ⟨step, hmem, hnamed⟩
    exact hwithin channel ⟨step, (hsame step).mp hmem, hnamed⟩
  obtain ⟨swapped, hswapped, hchannels', hconditions'⟩ := build_ofSteps hcount hwithin'
  obtain rfl : swapped = masks := by
    refine (regular_of_build hswapped).ext hregular (fun i => ?_) (fun i => ?_)
    · rw [Bool.eq_iff_iff, hchannels, hchannels']
      simp only [hsame]
    · rw [hconditions, hconditions', hapart.lastCondition?]
  exact hswapped

/-- A falling edge takes the place of a rising one; that all channels are recorded in between is no
matter. -/
theorem last_step_decides_of_four_steps :
    34 ≤ ChannelSet.capacity ∧
      (∀ channel, Named [.watch 33 .rising, .enableAll, .watch 2 .high, .watch 33 .falling]
        channel → channel < 34) ∧
      ∃ masks, (ofSteps 34
          [.watch 33 .rising, .enableAll, .watch 2 .high, .watch 33 .falling]).build = .ok masks ∧
        masks.channels.contains 17 = true ∧ masks.condition? 33 = some .falling ∧
        masks.condition? 2 = some .high ∧ masks.condition? 17 = none := by
  have hwithin : ∀ channel, Named [.watch 33 .rising, .enableAll, .watch 2 .high,
      .watch 33 .falling] channel → channel < 34 := by
    rintro channel ⟨step, hmem, hnamed⟩
    simp only [List.mem_cons, List.not_mem_nil, or_false] at hmem
    rcases hmem with rfl | rfl | rfl | rfl <;> cases hnamed <;> decide
  obtain ⟨masks, hbuild, hchannels, hconditions, -⟩ := last_step_decides (by decide) hwithin
  refine ⟨by decide, hwithin, masks, hbuild, ?_, hconditions 33, hconditions 2, hconditions 17⟩
  exact (hchannels 17).mpr ⟨.enableAll, by simp, by simp [Records]⟩

end TriggerPlan

end LogicAnalyzer
