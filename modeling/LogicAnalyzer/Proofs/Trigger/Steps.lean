import LogicAnalyzer.Proofs.Trigger.Plans
import Mathlib.Data.List.Induction

/-!
# Plans made step by step

A plan is made by steps that record one channel, record all channels of the device, or watch a
channel for a condition.  A step may name a channel that the device lacks.  The plan is refused if
that channel is watched, or if it is one that a set can have and was not forgotten when all channels
of the device were recorded.  In all other cases nobody is told.

## Main definitions

* `PlanStep`, `TriggerPlan.ofSteps`: the steps, and the plan that they make
* `PlanStep.Named`, `Watched`, `Kept`: the channels that some step names, those that are watched,
  and those that are not forgotten

## Main results

* `TriggerPlan.mentions_ofSteps`: the channels of the plan that the device lacks
* `TriggerPlan.excess_reported_iff`: when a channel that the device lacks is reported
* `TriggerPlan.excess_not_reported`: it is not always
-/

namespace LogicAnalyzer

/-- One step of making a plan. -/
inductive PlanStep where
  | enable (channel : Nat)
  | enableAll
  | watch (channel : Nat) (condition : TriggerCondition)

namespace PlanStep

/-- The channel that a step names. -/
def channel? : PlanStep → Option Nat
  | enable channel | watch channel _ => some channel
  | enableAll => none

/-- Some step names the channel. -/
def Named (steps : List PlanStep) (channel : Nat) : Prop :=
  ∃ step ∈ steps, step.channel? = some channel

/-- Some step watches the channel. -/
def Watched (steps : List PlanStep) (channel : Nat) : Prop :=
  ∃ condition, watch channel condition ∈ steps

/-- Some step names the channel, and no later one records all channels of the device instead. -/
def Kept (steps : List PlanStep) (channel : Nat) : Prop :=
  ∃ before step after, steps = before ++ step :: after ∧ step.channel? = some channel ∧
    enableAll ∉ after

variable {steps : List PlanStep} {step : PlanStep} {channel : Nat}

theorem watched_snoc :
    Watched (steps ++ [step]) channel ↔
      Watched steps channel ∨ ∃ condition, step = watch channel condition := by
  simp only [Watched, List.mem_append, List.mem_singleton, exists_or]
  grind

theorem kept_snoc :
    Kept (steps ++ [step]) channel ↔
      step.channel? = some channel ∨ step ≠ enableAll ∧ Kept steps channel := by
  constructor
  · rintro ⟨before, named, after, heq, hnamed, hlater⟩
    rcases List.eq_nil_or_concat after with rfl | ⟨after, last, rfl⟩
    · obtain ⟨-, hlast⟩ := List.append_inj' heq rfl
      obtain rfl := (List.cons.inj hlast).1
      exact .inl hnamed
    · rw [List.concat_eq_append, ← List.cons_append, ← List.append_assoc] at heq
      obtain ⟨hsteps, hlast⟩ := List.append_inj' heq rfl
      obtain rfl := (List.cons.inj hlast).1
      rw [List.concat_eq_append, List.mem_append, List.mem_singleton, not_or] at hlater
      exact .inr ⟨Ne.symm hlater.2, before, named, after, hsteps, hnamed, hlater.1⟩
  · rintro (hnamed | ⟨hstep, before, named, after, rfl, hnamed, hlater⟩)
    · exact ⟨steps, step, [], rfl, hnamed, List.not_mem_nil⟩
    · refine ⟨before, named, after ++ [step], ?_, hnamed, ?_⟩
      · rw [List.append_assoc, List.cons_append]
      · rw [List.mem_append, List.mem_singleton, not_or]
        exact ⟨hlater, Ne.symm hstep⟩

theorem named_of_watched (h : Watched steps channel) : Named steps channel := by
  obtain ⟨condition, hmem⟩ := h
  exact ⟨_, hmem, rfl⟩

theorem named_of_kept (h : Kept steps channel) : Named steps channel := by
  obtain ⟨before, step, after, rfl, hstep, -⟩ := h
  exact ⟨step, List.mem_append_right before List.mem_cons_self, hstep⟩

end PlanStep

namespace TriggerPlan

open PlanStep

/-- The plan after a step. -/
def take (p : TriggerPlan) : PlanStep → TriggerPlan
  | .enable channel => p.enable channel
  | .enableAll => p.enableAll
  | .watch channel condition => p.watch channel condition

/-- **The plan that steps make**, for a device with so many channels. -/
def ofSteps (channelCount : Nat) (steps : List PlanStep) : TriggerPlan :=
  steps.foldl take (.mk channelCount .empty [])

variable {channelCount channel : Nat} {steps : List PlanStep}

theorem ofSteps_snoc (channelCount : Nat) (steps : List PlanStep) (step : PlanStep) :
    ofSteps channelCount (steps ++ [step]) = (ofSteps channelCount steps).take step := by
  rw [ofSteps, List.foldl_append]
  rfl

@[simp]
theorem channelCount_ofSteps : (ofSteps channelCount steps).channelCount = channelCount := by
  induction steps using List.reverseRecOn with
  | nil => rfl
  | append_singleton steps step ih =>
    rw [ofSteps_snoc]
    rcases step <;> exact ih

/-- Every channel that is watched has a condition. -/
theorem conditions_ofSteps :
    (∃ condition, (channel, condition) ∈ (ofSteps channelCount steps).conditions) ↔
      Watched steps channel := by
  induction steps using List.reverseRecOn with
  | nil => simp [ofSteps, Watched]
  | append_singleton steps step ih =>
    rw [ofSteps_snoc, watched_snoc, ← ih]
    rcases step with named | _ | ⟨named, condition⟩
    · simp [take, enable]
    · simp [take, enableAll]
    · simp only [take, watch, List.mem_append, List.mem_filter, List.mem_singleton, bne_iff_ne,
        Prod.mk.injEq, PlanStep.watch.injEq]
      grind

/-- The channels to record that the device lacks. -/
theorem enabled_ofSteps (hexcess : channelCount ≤ channel) :
    (ofSteps channelCount steps).enabled.contains channel = true ↔
      channel < ChannelSet.capacity ∧ Kept steps channel := by
  induction steps using List.reverseRecOn with
  | nil => simp [ofSteps, Kept]
  | append_singleton steps step ih =>
    rw [ofSteps_snoc, kept_snoc]
    rcases step with named | _ | ⟨named, condition⟩
    · simp only [take, enable, ChannelSet.contains_insert, Bool.or_eq_true, decide_eq_true_eq, ih]
      grind [PlanStep.channel?]
    · simp [take, enableAll, PlanStep.channel?, Nat.not_lt_of_le hexcess]
    · simp only [take, watch, ChannelSet.contains_insert, Bool.or_eq_true, decide_eq_true_eq, ih]
      grind [PlanStep.channel?]

/-- **The channels of the plan that the device lacks.** -/
theorem mentions_ofSteps (hexcess : channelCount ≤ channel) :
    (ofSteps channelCount steps).Mentions channel ↔
      Watched steps channel ∨ channel < ChannelSet.capacity ∧ Kept steps channel := by
  rw [Mentions, enabled_ofSteps hexcess, conditions_ofSteps, or_comm]

/-- **A channel that the device lacks is reported** if and only if one is watched, or one that a set
can have is recorded and not forgotten.  Nothing else is ever reported, and only a channel that some
step names. -/
theorem excess_reported_iff (channelCount : Nat) (steps : List PlanStep) :
    ((∃ channel,
        (ofSteps channelCount steps).build = .error (.channelOverLimit channel channelCount)) ↔
      ∃ channel, channelCount ≤ channel ∧
        (Watched steps channel ∨ channel < ChannelSet.capacity ∧ Kept steps channel)) ∧
    ∀ error, (ofSteps channelCount steps).build = .error error →
      ∃ channel, error = .channelOverLimit channel channelCount ∧ channelCount ≤ channel ∧
        Named steps channel := by
  have hrefused : (∃ channel, (ofSteps channelCount steps).build =
      .error (.channelOverLimit channel channelCount)) ↔
        ∃ channel, channelCount ≤ channel ∧ (ofSteps channelCount steps).Mentions channel := by
    have hplan := (ofSteps channelCount steps).build_refused_iff
    rwa [channelCount_ofSteps] at hplan
  constructor
  · rw [hrefused]
    exact exists_congr fun channel => and_congr_right mentions_ofSteps
  · intro error herror
    obtain ⟨channel, hreported, hexcess, hmentions⟩ := excess_of_build herror
    rw [channelCount_ofSteps] at hreported hexcess
    refine ⟨channel, hreported, hexcess, ?_⟩
    rcases (mentions_ofSteps hexcess).mp hmentions with hwatched | ⟨-, hkept⟩
    · exact named_of_watched hwatched
    · exact named_of_kept hkept

/-- **A channel that the device lacks is not always reported**: one that no set can have is dropped,
as is one that was to be recorded before all channels of the device were. -/
theorem excess_not_reported :
    (Named [.enable 64] 64 ∧ (ofSteps 16 [.enable 64]).build = .ok {}) ∧
      Named [.enable 20, .enableAll] 20 ∧
        (ofSteps 16 [.enable 20, .enableAll]).build = .ok { channels := .first 16 } := by
  refine ⟨⟨⟨_, List.mem_cons_self, rfl⟩, ?_⟩, ⟨_, List.mem_cons_self, rfl⟩, ?_⟩
  · decide +kernel
  · decide +kernel

end TriggerPlan

end LogicAnalyzer
