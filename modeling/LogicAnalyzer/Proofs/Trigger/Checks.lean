import LogicAnalyzer.Proofs.Channel.Members
import LogicAnalyzer.Trigger.Plan
import LogicAnalyzer.Wire.Command

/-!
# Checks of trigger masks

Masks are checked where they are made and again, by a check of its own, where they are put into
a command.  Masks that pass the first pass the second, however they were made.

## Main results

* `TriggerMasks.check_eq_ok`: which masks a device accepts
* `TriggerMasks.check_of_checked`, `check_of_ofSettings`: masks that could be made are accepted
* `Command.encode_configureTriggers`, `encode_arm`: what was accepted is sent
-/

namespace LogicAnalyzer

/-- Steps succeed together if each of them does. -/
theorem bind_eq_ok {ε α β : Type} {x : Except ε α} {f : α → Except ε β} {b : β} :
    (x >>= f) = .ok b ↔ ∃ a, x = .ok a ∧ f a = .ok b := by
  cases x with
  | error e => exact ⟨nofun, nofun⟩
  | ok a => exact ⟨fun h => ⟨a, rfl, h⟩, fun ⟨_, ha, h⟩ => by cases ha; exact h⟩

namespace TriggerMasks

variable {m m' : TriggerMasks} {channelCount : Nat}

theorem excess?_eq_none :
    m.excess? channelCount = none ↔ ∀ i, m.mentioned.contains i = true → i < channelCount := by
  unfold excess?
  cases hhighest : m.mentioned.highest? with
  | none =>
    have hempty := ChannelSet.isEmpty_iff.mp (ChannelSet.highest?_eq_none.mp hhighest)
    simp [hempty]
  | some highest =>
    have hmem := ChannelSet.contains_of_highest? hhighest
    rw [Option.filter_eq_none_iff]
    constructor
    · intro hbelow i hi
      have hnot := hbelow highest rfl
      have hle := ChannelSet.le_of_highest? hhighest hi
      simp only [decide_eq_true_eq, Nat.not_le] at hnot
      exact Nat.lt_of_le_of_lt hle hnot
    · rintro hall _ ⟨⟩
      simpa using hall highest hmem

/-- **Masks are accepted** if they mention channels of the device only, and each edge is
watched. -/
theorem check_eq_ok :
    m.check channelCount = .ok () ↔
      (∀ i, m.mentioned.contains i = true → i < channelCount) ∧
        ∀ i, m.edges.contains i = true → m.triggers.contains i = true := by
  rw [← excess?_eq_none, ← ChannelSet.subset_iff]
  unfold check
  split
  · rename_i hexcess
    simp [hexcess]
  · rename_i hexcess
    split <;> simp_all

/-- All channels of a device can be recorded. -/
theorem check_first (channelCount : Nat) :
    check { channels := .first channelCount } channelCount = .ok () := by
  rw [check_eq_ok]
  refine ⟨?_, ?_⟩
  · intro i hi
    simp only [mentioned, ChannelSet.contains_union, ChannelSet.contains_first,
      ChannelSet.contains_empty, Bool.or_false, decide_eq_true_eq] at hi
    exact hi.1
  · intro i hi
    simp at hi

/-! ## Masks that could be made -/

theorem check_of_checked (h : m.checked channelCount = .ok m') : m'.check channelCount = .ok () := by
  unfold checked at h
  cases hcheck : m.check channelCount with
  | error e =>
    rw [hcheck] at h
    cases h
  | ok =>
    rw [hcheck] at h
    cases h
    exact hcheck

end TriggerMasks

namespace TriggerPlan

variable {p p' : TriggerPlan}

theorem check_of_build {masks : TriggerMasks} (h : p.build = .ok masks) :
    masks.check p.channelCount = .ok () := by
  obtain ⟨added, -, hchecked⟩ := bind_eq_ok.mp h
  exact TriggerMasks.check_of_checked hchecked

/-- A setting is entered into a plan for the same device. -/
theorem channelCount_enter {channel : Nat} {setting : ChannelSetting}
    (h : p.enter channel setting = .ok p') : p'.channelCount = p.channelCount := by
  unfold enter at h
  split at h
  · cases h
  · split at h
    · cases h
      rfl
    · obtain ⟨condition, -, hentered⟩ := bind_eq_ok.mp h
      cases condition <;> cases hentered <;> rfl

theorem channelCount_enterFrom {channel : Nat} {settings : List ChannelSetting}
    (h : p.enterFrom channel settings = .ok p') : p'.channelCount = p.channelCount := by
  induction settings generalizing p channel with
  | nil =>
    cases h
    rfl
  | cons setting rest ih =>
    obtain ⟨entered, henter, hrest⟩ := bind_eq_ok.mp h
    exact (ih hrest).trans (channelCount_enter henter)

end TriggerPlan

theorem TriggerMasks.check_of_ofSettings {channelCount : Nat} {settings : List ChannelSetting}
    {masks : TriggerMasks} (h : ofSettings channelCount settings = .ok masks) :
    masks.check channelCount = .ok () := by
  obtain ⟨plan, hplan, hbuild⟩ := bind_eq_ok.mp h
  have hcheck := TriggerPlan.check_of_build hbuild
  rwa [TriggerPlan.channelCount_enterFrom hplan] at hcheck

/-! ## What was accepted is sent -/

namespace Command

variable {channelCount : Nat}

/-- **Accepted masks** go into a command. -/
theorem encode_configureTriggers {masks : TriggerMasks} (h : masks.check channelCount = .ok ()) :
    encode channelCount (.configureTriggers masks) = .ok (configureTriggers masks).frame := by
  have hexcess := TriggerMasks.excess?_eq_none.mpr (TriggerMasks.check_eq_ok.mp h).1
  simp only [encode, check, hexcess]
  rfl

/-- **An offered rate** goes into a command. -/
theorem encode_arm {rate : UInt64} (h : rate ∈ SampleRate.offered) (limit : UInt64) :
    encode channelCount (.arm rate limit) = .ok (arm rate limit).frame := by
  simp only [encode, check, SampleRate.isOffered_iff.mpr h, if_true]
  rfl

end Command

end LogicAnalyzer
