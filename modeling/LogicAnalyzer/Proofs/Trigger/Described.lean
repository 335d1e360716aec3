import LogicAnalyzer.Proofs.Trigger.Regular

/-!
# Masks described by settings

What regular masks say can be written down as settings, one per channel of the device, and the
settings are compiled back to the same masks.  Since nothing else than regular masks is ever
compiled, settings can describe all that a device is ever configured with.

## Main definitions

* `TriggerCondition.text`: the text that asks for a condition or for none
* `TriggerMasks.describe`: the settings that describe masks

## Main results

* `TriggerMasks.reflects_of_ofSettings`: compiled masks are those of the settings
* `TriggerMasks.Regular.described`: the settings are compiled back to the masks
-/

namespace LogicAnalyzer

variable {channelCount i : Nat} {condition : TriggerCondition} {setting : ChannelSetting}

namespace TriggerCondition

/-- **The text that asks for a condition**, or for none. -/
def text : Option TriggerCondition → String
  | none => ""
  | some condition => String.singleton condition.toChar

theorem toChar_inj {other : TriggerCondition} (h : condition.toChar = other.toChar) :
    condition = other := by
  have hread := ofChar?_toChar condition
  rw [h, ofChar?_toChar] at hread
  exact (Option.some.inj hread).symm

/-- It asks for that condition and for no other. -/
theorem toList_text (asked : Option TriggerCondition) :
    (text asked).toList = [condition.toChar] ↔ asked = some condition := by
  rcases asked with _ | other
  · simp [text]
  · rw [text, String.toList_singleton, List.cons.injEq, Option.some.injEq,
      and_iff_left rfl]
    exact ⟨toChar_inj, congrArg toChar⟩

/-- It can always be read. -/
theorem text_readable (asked : Option TriggerCondition) :
    text asked ∈ ["", "0", "1", "r", "f"] := by
  rw [text_mem_iff]
  rcases asked with _ | condition
  · exact .inl rfl
  · exact .inr ⟨condition, String.toList_singleton condition.toChar⟩

end TriggerCondition

namespace TriggerMasks

variable {m masks : TriggerMasks} {settings : List ChannelSetting} {steps : List PlanStep}

/-- **Compiled masks are those of the settings**, for a device with at most 64 channels. -/
theorem reflects_of_ofSettings (hcount : channelCount ≤ ChannelSet.capacity)
    (h : ofSettings channelCount settings = .ok masks) : masks.Reflects settings := by
  obtain ⟨plan, hplan, -⟩ := bind_eq_ok.mp h
  have hlength := (exists_ofSettings_iff.mp ⟨masks, h⟩).1
  rw [ofSettings_of_enterFrom hplan] at h
  obtain rfl := Except.ok.inj h
  exact reflects_of_carries ((TriggerPlan.carries_nil channelCount).enterFrom hplan)
    (Nat.le_trans hlength hcount)

/-- **The settings that describe masks**, one for each channel of the device. -/
def describe (m : TriggerMasks) (channelCount : Nat) : List ChannelSetting :=
  (List.range channelCount).map fun channel =>
    ⟨m.channels.contains channel, TriggerCondition.text (m.condition? channel)⟩

theorem getElem?_describe :
    (m.describe channelCount)[i]? = some setting ↔
      i < channelCount ∧
        setting = ⟨m.channels.contains i, TriggerCondition.text (m.condition? i)⟩ := by
  by_cases hi : i < channelCount
  · simp [describe, hi, eq_comm]
  · simp [describe, hi]

/-- There is a setting for each channel, and its text can be read. -/
theorem exists_ofSettings_describe (m : TriggerMasks) (channelCount : Nat) :
    ∃ masks, ofSettings channelCount (m.describe channelCount) = .ok masks := by
  rw [exists_ofSettings_iff]
  constructor
  · rw [describe, List.length_map, List.length_range]
  · intro setting hmem _
    obtain ⟨channel, -, rfl⟩ := List.mem_map.mp hmem
    exact TriggerCondition.text_readable (m.condition? channel)

namespace Regular

theorem lt_of_channels (h : m.Regular channelCount) (hi : m.channels.contains i = true) :
    i < channelCount :=
  h.lt_of_mentioned (contains_mentioned.mpr (.inl hi))

/-- Channels that have a condition are recorded. -/
theorem channels_of_condition? (h : m.Regular channelCount)
    (hi : m.condition? i = some condition) : m.channels.contains i = true := by
  have hwatched := m.isSome_condition? i
  rw [hi] at hwatched
  exact ChannelSet.subset_iff.mp h.recorded i hwatched.symm

/-- The settings have the channels of the masks, -/
theorem recorded_describe (h : m.Regular channelCount) (i : Nat) :
    (∃ setting, (m.describe channelCount)[i]? = some setting ∧ setting.enabled = true) ↔
      m.channels.contains i = true := by
  simp only [getElem?_describe]
  constructor
  · rintro ⟨setting, ⟨-, rfl⟩, henabled⟩
    exact henabled
  · intro hi
    exact ⟨_, ⟨h.lt_of_channels hi, rfl⟩, hi⟩

/-- and ask for their conditions. -/
theorem asks_describe (h : m.Regular channelCount) (i : Nat) :
    (∃ setting, (m.describe channelCount)[i]? = some setting ∧ setting.Asks condition) ↔
      m.condition? i = some condition := by
  simp only [getElem?_describe]
  constructor
  · rintro ⟨setting, ⟨-, rfl⟩, -, htext⟩
    exact (TriggerCondition.toList_text _).mp htext
  · intro hi
    have hrecorded := h.channels_of_condition? hi
    exact ⟨_, ⟨h.lt_of_channels hrecorded, rfl⟩, hrecorded,
      (TriggerCondition.toList_text _).mpr hi⟩

/-- **The settings that describe regular masks** are compiled back to them. -/
theorem described (h : m.Regular channelCount) (hcount : channelCount ≤ ChannelSet.capacity) :
    ofSettings channelCount (m.describe channelCount) = .ok m := by
  obtain ⟨masks, hmasks⟩ := exists_ofSettings_describe m channelCount
  have hreflects := reflects_of_ofSettings hcount hmasks
  obtain rfl : masks = m := by
    refine (regular_of_ofSettings hmasks).ext h (fun i => ?_) (fun i => ?_)
    · rw [Bool.eq_iff_iff, hreflects.channels, h.recorded_describe]
    · ext condition
      rw [hreflects.conditions, h.asks_describe]
  exact hmasks

end Regular

/-- **Masks and settings describe each other**, for any device with at most 64 channels: the
settings that describe regular masks are compiled back to the same four words.  Whatever settings or
steps are compiled to, it is regular masks, so that nothing else has to be described. -/
theorem compiled_back (hcount : channelCount ≤ ChannelSet.capacity) :
    (∀ m : TriggerMasks, m.Regular channelCount →
      ofSettings channelCount (m.describe channelCount) = .ok m) ∧
    (∀ settings m, ofSettings channelCount settings = .ok m → m.Regular channelCount) ∧
    ∀ steps m, (TriggerPlan.ofSteps channelCount steps).build = .ok m →
      m.Regular channelCount := by
  refine ⟨fun m hregular => hregular.described hcount, ?_, ?_⟩
  · intro settings m hcompiled
    exact regular_of_ofSettings hcompiled
  · intro steps m hbuild
    exact TriggerPlan.regular_of_build hbuild

/-- Masks with a falling edge on the last channel of the larger model. -/
theorem compiled_back_of_falling_edge :
    34 ≤ ChannelSet.capacity ∧
      Regular ⟨⟨0x200000003⟩, ⟨0x200000001⟩, ⟨0x200000000⟩, ⟨0x1⟩⟩ 34 ∧
      ofSettings 34 (describe ⟨⟨0x200000003⟩, ⟨0x200000001⟩, ⟨0x200000000⟩, ⟨0x1⟩⟩ 34) =
        .ok ⟨⟨0x200000003⟩, ⟨0x200000001⟩, ⟨0x200000000⟩, ⟨0x1⟩⟩ := by
  have hregular : Regular ⟨⟨0x200000003⟩, ⟨0x200000001⟩, ⟨0x200000000⟩, ⟨0x1⟩⟩ 34 :=
    ⟨by decide +kernel, by decide +kernel, by decide +kernel⟩
  exact ⟨by decide, hregular, (compiled_back (by decide)).1 _ hregular⟩

end TriggerMasks

end LogicAnalyzer
