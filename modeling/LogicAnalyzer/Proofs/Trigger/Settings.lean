import LogicAnalyzer.Proofs.Trigger.Plans

/-!
# Settings are compiled exactly

A list of settings has one for every channel, from channel 0 on.  Compiling it succeeds if there
are no more settings than channels, and each channel that is recorded has an empty text or the name
of one condition.  The masks are then those that the settings ask for, and no others; and if it
fails, it is for the first setting that is refused.

## Main definitions

* `ChannelSetting.Refused`: why a setting is refused
* `ChannelSetting.Asks`: the condition that a setting asks for
* `FirstRefused`: the first setting that is refused
* `TriggerPlan.Carries`, `TriggerMasks.Reflects`: the plans and masks of a list of settings

## Main results

* `TriggerPlan.entered`: what entering a setting does, case by case
* `TriggerPlan.enterFrom_eq_error`, `Carries.enterFrom`: what entering all of them does
* `TriggerMasks.compiled_exactly`: when settings are compiled, and to what
-/

namespace LogicAnalyzer

variable {channelCount channel : Nat} {setting : ChannelSetting} {error : TriggerError}

namespace ChannelSetting

/-- **Why a setting is refused** for a channel. -/
inductive Refused (channelCount channel : Nat) (setting : ChannelSetting) :
    TriggerError → Prop where
  /-- The device does not have the channel. -/
  | overLimit (excess : channelCount ≤ channel) :
      Refused channelCount channel setting (.channelOverLimit channel channelCount)
  /-- The channel is recorded, and its text has more than one character. -/
  | multipleStages (within : channel < channelCount) (enabled : setting.enabled = true)
      (stages : 2 ≤ setting.trigger.toList.length) :
      Refused channelCount channel setting (.multipleStages channel setting.trigger)
  /-- The channel is recorded, and its text is a character that names no condition. -/
  | unknownCondition (within : channel < channelCount) (enabled : setting.enabled = true)
      (name : Char) (text : setting.trigger.toList = [name])
      (unknown : name ∉ ['0', '1', 'r', 'f']) :
      Refused channelCount channel setting (.unknownCondition channel name)

/-- A setting is refused for one reason only. -/
theorem Refused.unique {first second : TriggerError}
    (hfirst : setting.Refused channelCount channel first)
    (hsecond : setting.Refused channelCount channel second) : first = second := by
  rcases hfirst with hexcess | ⟨hwithin, -, hstages⟩ | ⟨hwithin, -, name, htext, -⟩
  · rcases hsecond with _ | ⟨hwithin, -, -⟩ | ⟨hwithin, -, -, -, -⟩
    · rfl
    · omega
    · omega
  · rcases hsecond with hexcess | _ | ⟨-, -, name, htext, -⟩
    · omega
    · rfl
    · simp [htext] at hstages
  · rcases hsecond with hexcess | ⟨-, -, hstages⟩ | ⟨-, -, other, hother, -⟩
    · omega
    · simp [htext] at hstages
    · rw [htext] at hother
      rw [(List.cons.inj hother).1]

/-- **A setting asks for a condition**: the channel is recorded, and its text is the name. -/
def Asks (setting : ChannelSetting) (condition : TriggerCondition) : Prop :=
  setting.enabled = true ∧ setting.trigger.toList = [condition.toChar]

/-- What is read of a setting. -/
def seen (setting : ChannelSetting) : Option String :=
  if setting.enabled then some setting.trigger else none

theorem Asks.unique {first second : TriggerCondition} (hfirst : setting.Asks first)
    (hsecond : setting.Asks second) : first = second := by
  have hchar : [first.toChar] = [second.toChar] := hfirst.2.symm.trans hsecond.2
  have hname := TriggerCondition.ofChar?_toChar first
  rw [(List.cons.inj hchar).1, TriggerCondition.ofChar?_toChar] at hname
  exact (Option.some.inj hname).symm

end ChannelSetting

/-! ## One setting -/

namespace TriggerCondition

/-- The characters that name a condition. -/
theorem mem_names_iff {name : Char} :
    name ∈ ['0', '1', 'r', 'f'] ↔ ∃ condition : TriggerCondition, condition.toChar = name := by
  constructor
  · intro h
    simp only [List.mem_cons, List.not_mem_nil, or_false] at h
    rcases h with rfl | rfl | rfl | rfl
    exacts [⟨low, rfl⟩, ⟨high, rfl⟩, ⟨rising, rfl⟩, ⟨falling, rfl⟩]
  · rintro ⟨condition, rfl⟩
    cases condition <;> decide

theorem ofChar?_eq_none {name : Char} (h : name ∉ ['0', '1', 'r', 'f']) : ofChar? name = none := by
  rcases hcondition : ofChar? name with _ | condition
  · rfl
  · exact absurd (mem_names_iff.mpr ⟨condition, toChar_of_ofChar? hcondition⟩) h

/-- The texts that ask for nothing or for one condition. -/
theorem text_mem_iff {text : String} :
    text ∈ ["", "0", "1", "r", "f"] ↔
      text.toList = [] ∨ ∃ condition : TriggerCondition, text.toList = [condition.toChar] := by
  constructor
  · intro h
    simp only [List.mem_cons, List.not_mem_nil, or_false] at h
    rcases h with rfl | rfl | rfl | rfl | rfl
    exacts [.inl rfl, .inr ⟨low, rfl⟩, .inr ⟨high, rfl⟩, .inr ⟨rising, rfl⟩, .inr ⟨falling, rfl⟩]
  · rintro (hempty | ⟨condition, hname⟩)
    · rw [String.toList_eq_nil_iff.mp hempty]
      exact List.mem_cons_self
    · rw [String.toList_inj.mp (hname.trans (String.toList_singleton _).symm)]
      cases condition <;> decide

end TriggerCondition

namespace TriggerPlan

variable {p p' : TriggerPlan}

/-- **What entering a setting does**, case by case. -/
inductive Entered (p : TriggerPlan) (channel : Nat) (setting : ChannelSetting) :
    Except TriggerError TriggerPlan → Prop where
  /-- The channel is not recorded. -/
  | disabled (within : channel < p.channelCount) (disabled : setting.enabled = false) :
      Entered p channel setting (.ok p)
  /-- It is recorded and not watched. -/
  | recorded (within : channel < p.channelCount) (enabled : setting.enabled = true)
      (text : setting.trigger.toList = []) : Entered p channel setting (.ok (p.enable channel))
  | watched (within : channel < p.channelCount) (condition : TriggerCondition)
      (asks : setting.Asks condition) :
      Entered p channel setting (.ok ((p.enable channel).watch channel condition))
  | refused (error : TriggerError) (refused : setting.Refused p.channelCount channel error) :
      Entered p channel setting (.error error)

theorem entered (p : TriggerPlan) (channel : Nat) (setting : ChannelSetting) :
    p.Entered channel setting (p.enter channel setting) := by
  by_cases hexcess : p.channelCount ≤ channel
  · rw [enter, if_pos hexcess]
    exact .refused _ (.overLimit hexcess)
  · have hwithin := Nat.lt_of_not_le hexcess
    rw [enter, if_neg hexcess]
    rcases henabled : setting.enabled
    · exact .disabled hwithin henabled
    · simp only [Bool.not_true, Bool.false_eq_true, if_false, TriggerCondition.ofText]
      rcases htext : setting.trigger.toList with _ | ⟨name, _ | ⟨next, rest⟩⟩
      · exact .recorded hwithin henabled htext
      · by_cases hname : name ∈ ['0', '1', 'r', 'f']
        · obtain ⟨condition, rfl⟩ := TriggerCondition.mem_names_iff.mp hname
          simp only [TriggerCondition.named, TriggerCondition.ofChar?_toChar]
          exact .watched hwithin condition ⟨henabled, htext⟩
        · simp only [TriggerCondition.named, TriggerCondition.ofChar?_eq_none hname]
          exact .refused _ (.unknownCondition hwithin henabled name htext hname)
      · refine .refused _ (.multipleStages hwithin henabled ?_)
        rw [htext, List.length_cons, List.length_cons]
        omega

theorem refused_of_enter (h : p.enter channel setting = .error error) :
    setting.Refused p.channelCount channel error := by
  have hentered := p.entered channel setting
  rw [h] at hentered
  rcases hentered with _ | _ | _ | ⟨_, hrefused⟩
  exact hrefused

/-- A setting that is entered is for a channel of the device, and its text can be read. -/
theorem readable_of_enter (h : p.enter channel setting = .ok p') :
    channel < p.channelCount ∧
      (setting.enabled = true → setting.trigger ∈ ["", "0", "1", "r", "f"]) := by
  have hentered := p.entered channel setting
  rw [h] at hentered
  rcases hentered with ⟨hwithin, hdisabled⟩ | ⟨hwithin, -, htext⟩ | ⟨hwithin, condition, hasks⟩ | _
  · exact ⟨hwithin, fun henabled => absurd (henabled.symm.trans hdisabled) nofun⟩
  · exact ⟨hwithin, fun _ => TriggerCondition.text_mem_iff.mpr (.inl htext)⟩
  · exact ⟨hwithin, fun _ => TriggerCondition.text_mem_iff.mpr (.inr ⟨condition, hasks.2⟩)⟩

end TriggerPlan

/-- The settings that are not refused. -/
theorem ChannelSetting.not_refused_iff :
    (∀ error, ¬ setting.Refused channelCount channel error) ↔
      channel < channelCount ∧
        (setting.enabled = true → setting.trigger ∈ ["", "0", "1", "r", "f"]) := by
  constructor
  · intro h
    rcases hentered : (TriggerPlan.mk channelCount .empty []).enter channel setting with error | p'
    · exact absurd (TriggerPlan.refused_of_enter hentered) (h error)
    · exact TriggerPlan.readable_of_enter hentered
  · rintro ⟨hwithin, hread⟩ error
      (hexcess | ⟨-, henabled, hstages⟩ | ⟨-, henabled, name, htext, hname⟩)
    · omega
    · rcases TriggerCondition.text_mem_iff.mp (hread henabled) with hempty | ⟨condition, hsingle⟩
      · simp [hempty] at hstages
      · simp [hsingle] at hstages
    · rcases TriggerCondition.text_mem_iff.mp (hread henabled) with hempty | ⟨condition, hsingle⟩
      · rw [hempty] at htext
        contradiction
      · rw [hsingle] at htext
        obtain ⟨rfl, -⟩ := List.cons.inj htext
        exact hname (TriggerCondition.mem_names_iff.mpr ⟨condition, rfl⟩)

namespace TriggerPlan

variable {p : TriggerPlan}

/-- **Entering a setting fails** if it is refused. -/
theorem enter_eq_error :
    p.enter channel setting = .error error ↔ setting.Refused p.channelCount channel error := by
  constructor
  · exact refused_of_enter
  · intro hrefused
    rcases hentered : p.enter channel setting with found | p'
    · rw [(refused_of_enter hentered).unique hrefused]
    · have haccepted := ChannelSetting.not_refused_iff.mpr (readable_of_enter hentered)
      exact absurd hrefused (haccepted error)

/-- The text of a channel that is not recorded is not read. -/
theorem enter_congr {other : ChannelSetting} (h : setting.seen = other.seen) :
    p.enter channel setting = p.enter channel other := by
  obtain ⟨enabled, trigger⟩ := setting
  obtain ⟨enabled', trigger'⟩ := other
  rcases enabled <;> rcases enabled' <;> simp only [ChannelSetting.seen, Bool.false_eq_true,
    if_false, if_true, Option.some.injEq, reduceCtorEq] at h
  · rfl
  · rw [h]

end TriggerPlan

/-! ## All settings -/

variable {settings rest : List ChannelSetting}

/-- **The first setting that is refused**, of settings for the channels from `channel` on. -/
def FirstRefused (channelCount channel : Nat) (settings : List ChannelSetting)
    (error : TriggerError) : Prop :=
  ∃ (i : Nat) (setting : ChannelSetting), settings[i]? = some setting ∧
    setting.Refused channelCount (channel + i) error ∧
    ∀ (j : Nat) (earlier : ChannelSetting), j < i → settings[j]? = some earlier →
      ∀ other, ¬ earlier.Refused channelCount (channel + j) other

theorem firstRefused_cons_of_refused {found : TriggerError}
    (h : setting.Refused channelCount channel found) :
    FirstRefused channelCount channel (setting :: rest) error ↔
      setting.Refused channelCount channel error := by
  constructor
  · rintro ⟨_ | i, offending, hget, hrefused, hfirst⟩
    · obtain rfl := Option.some.inj hget
      exact hrefused
    · exact absurd h (hfirst 0 setting (Nat.succ_pos i) rfl found)
  · intro hrefused
    exact ⟨0, setting, rfl, hrefused, fun j _ hlt => absurd hlt (Nat.not_lt_zero j)⟩

theorem firstRefused_cons_of_accepted
    (h : ∀ other, ¬ setting.Refused channelCount channel other) :
    FirstRefused channelCount channel (setting :: rest) error ↔
      FirstRefused channelCount (channel + 1) rest error := by
  have hshift (i : Nat) : channel + 1 + i = channel + (i + 1) := Nat.add_right_comm channel 1 i
  constructor
  · rintro ⟨_ | i, offending, hget, hrefused, hfirst⟩
    · obtain rfl := Option.some.inj hget
      exact absurd hrefused (h error)
    · refine ⟨i, offending, hget, ?_, ?_⟩
      · rwa [hshift]
      · intro j earlier hlt hearlier other
        rw [hshift]
        exact hfirst (j + 1) earlier (Nat.succ_lt_succ hlt) hearlier other
  · rintro ⟨i, offending, hget, hrefused, hfirst⟩
    refine ⟨i + 1, offending, hget, ?_, ?_⟩
    · rwa [← hshift]
    · rintro (_ | j) earlier hlt hearlier other
      · obtain rfl := Option.some.inj hearlier
        exact h other
      · rw [← hshift]
        exact hfirst j earlier (Nat.lt_of_succ_lt_succ hlt) hearlier other

/-- If any setting is refused, one is the first. -/
theorem exists_firstRefused {i : Nat} (hget : settings[i]? = some setting)
    (hrefused : setting.Refused channelCount (channel + i) error) :
    ∃ found, FirstRefused channelCount channel settings found := by
  induction i using Nat.strong_induction_on generalizing setting error with
  | _ i ih =>
    by_cases hearlier : ∃ j < i, ∃ earlier other, settings[j]? = some earlier ∧
        earlier.Refused channelCount (channel + j) other
    · obtain ⟨j, hlt, earlier, other, hearlier, hother⟩ := hearlier
      exact ih j hlt hearlier hother
    · refine ⟨error, i, setting, hget, hrefused, ?_⟩
      intro j earlier hlt hget other hother
      exact hearlier ⟨j, hlt, earlier, other, hget, hother⟩

namespace TriggerPlan

variable {p p' : TriggerPlan}

/-- **Entering settings fails** for the first one that is refused. -/
theorem enterFrom_eq_error :
    p.enterFrom channel settings = .error error ↔
      FirstRefused p.channelCount channel settings error := by
  induction settings generalizing p channel with
  | nil => exact ⟨nofun, fun ⟨_, _, hget, _⟩ => absurd hget (by simp)⟩
  | cons setting rest ih =>
    rcases hentered : p.enter channel setting with found | p'
    · rw [firstRefused_cons_of_refused (enter_eq_error.mp hentered), ← enter_eq_error, enterFrom,
        hentered]
      rfl
    · have haccepted (other : TriggerError) :
          ¬ setting.Refused p.channelCount channel other := by
        rw [← enter_eq_error, hentered]
        nofun
      have hrest : p.enterFrom channel (setting :: rest) = p'.enterFrom (channel + 1) rest := by
        rw [enterFrom, hentered]
        rfl
      rw [hrest, ih, channelCount_enter hentered, firstRefused_cons_of_accepted haccepted]

/-- It succeeds if none is. -/
theorem exists_enterFrom_iff :
    (∃ p', p.enterFrom channel settings = .ok p') ↔
      ∀ (i : Nat) (setting : ChannelSetting), settings[i]? = some setting →
        ∀ error, ¬ setting.Refused p.channelCount (channel + i) error := by
  constructor
  · rintro ⟨p', hentered⟩ i setting hget error hrefused
    obtain ⟨found, hfirst⟩ := exists_firstRefused hget hrefused
    rw [enterFrom_eq_error.mpr hfirst] at hentered
    contradiction
  · intro haccepted
    rcases hentered : p.enterFrom channel settings with error | p'
    · obtain ⟨i, setting, hget, hrefused, -⟩ := enterFrom_eq_error.mp hentered
      exact absurd hrefused (haccepted i setting hget error)
    · exact ⟨p', rfl⟩

theorem enterFrom_congr {others : List ChannelSetting}
    (h : settings.map ChannelSetting.seen = others.map ChannelSetting.seen) :
    p.enterFrom channel settings = p.enterFrom channel others := by
  induction settings generalizing p channel others with
  | nil =>
    rw [List.map_nil, eq_comm, List.map_eq_nil_iff] at h
    rw [h]
  | cons setting rest ih =>
    obtain ⟨other, rest', rfl, hseen, hrest⟩ := List.map_eq_cons_iff.mp h.symm
    rw [enterFrom, enterFrom, enter_congr hseen.symm]
    exact bind_congr fun p' => ih hrest.symm

/-- **A plan has what settings ask for**, and nothing else. -/
structure Carries (p : TriggerPlan) (settings : List ChannelSetting) : Prop where
  enabled : ∀ i, p.enabled.contains i = true ↔
    i < ChannelSet.capacity ∧ ∃ setting, settings[i]? = some setting ∧ setting.enabled = true
  conditions : ∀ i condition, (i, condition) ∈ p.conditions ↔
    ∃ setting, settings[i]? = some setting ∧ setting.Asks condition

/-- What is true of a setting of a list that goes on with one more. -/
theorem exists_getElem?_concat {P : ChannelSetting → Prop} {i : Nat} :
    (∃ found, (settings ++ [setting])[i]? = some found ∧ P found) ↔
      (∃ found, settings[i]? = some found ∧ P found) ∨ i = settings.length ∧ P setting := by
  rcases Nat.lt_trichotomy i settings.length with hlt | rfl | hgt
  · rw [List.getElem?_append_left hlt]
    simp [Nat.ne_of_lt hlt]
  · simp
  · have hnone : (settings ++ [setting])[i]? = none :=
      List.getElem?_eq_none (by rw [List.length_append]; exact hgt)
    simp [hnone, List.getElem?_eq_none (Nat.le_of_lt hgt), Nat.ne_of_gt hgt]

/-- One more setting is entered. -/
theorem Carries.enter (h : p.Carries settings)
    (hentered : p.enter settings.length setting = .ok p') : p'.Carries (settings ++ [setting]) := by
  have hrecorded (henabled : setting.enabled = true) (i : Nat) :
      (p.enabled.insert settings.length).contains i = true ↔ i < ChannelSet.capacity ∧
        ∃ found, (settings ++ [setting])[i]? = some found ∧ found.enabled = true := by
    rw [exists_getElem?_concat, ChannelSet.contains_insert, Bool.or_eq_true, decide_eq_true_eq,
      h.enabled]
    grind
  have hcases := p.entered settings.length setting
  rw [hentered] at hcases
  rcases hcases with ⟨-, hdisabled⟩ | ⟨-, henabled, htext⟩ | ⟨-, condition, hasks⟩ | _
  · constructor
    · intro i
      rw [h.enabled, exists_getElem?_concat]
      simp [hdisabled]
    · intro i condition
      rw [h.conditions, exists_getElem?_concat]
      simp [ChannelSetting.Asks, hdisabled]
  · constructor
    · exact hrecorded henabled
    · intro i condition
      rw [exists_getElem?_concat, ← h.conditions]
      simp [ChannelSetting.Asks, htext, enable]
  · constructor
    · intro i
      rw [← hrecorded hasks.1]
      simp [enable, watch]
    · intro i other
      have hother : setting.Asks other ↔ other = condition :=
        ⟨fun hother => hother.unique hasks, fun heq => heq ▸ hasks⟩
      have hold : (i, other) ∈ p.conditions → i ≠ settings.length := by
        rw [h.conditions]
        rintro ⟨found, hget, -⟩
        exact Nat.ne_of_lt (List.getElem?_eq_some_iff.mp hget).1
      rw [exists_getElem?_concat, ← h.conditions, hother]
      simp only [watch, enable, List.mem_append, List.mem_filter, List.mem_singleton, bne_iff_ne,
        Prod.mk.injEq]
      grind

/-- One setting after another is entered. -/
theorem Carries.enterFrom (h : p.Carries settings)
    (hentered : p.enterFrom settings.length rest = .ok p') : p'.Carries (settings ++ rest) := by
  induction rest generalizing p settings with
  | nil =>
    obtain rfl := Except.ok.inj hentered
    rwa [List.append_nil]
  | cons setting rest ih =>
    obtain ⟨next, hnext, hrest⟩ := bind_eq_ok.mp hentered
    have hlength : (settings ++ [setting]).length = settings.length + 1 := List.length_append
    rw [← hlength] at hrest
    have hcarries := ih (h.enter hnext) hrest
    rwa [List.append_assoc] at hcarries

theorem carries_nil (channelCount : Nat) : (TriggerPlan.mk channelCount .empty []).Carries [] := by
  constructor
  · simp
  · simp

theorem Carries.lt_length (h : p.Carries settings) (hmentions : p.Mentions channel) :
    channel < settings.length := by
  rcases hmentions with henabled | ⟨condition, hcondition⟩
  · obtain ⟨-, setting, hget, -⟩ := (h.enabled channel).mp henabled
    exact (List.getElem?_eq_some_iff.mp hget).1
  · obtain ⟨setting, hget, -⟩ := (h.conditions channel condition).mp hcondition
    exact (List.getElem?_eq_some_iff.mp hget).1

theorem Carries.decides (h : p.Carries settings) : Decides p.conditions := by
  intro channel first second hfirst hsecond
  obtain ⟨setting, hget, hasks⟩ := (h.conditions channel first).mp hfirst
  obtain ⟨setting', hget', hasks'⟩ := (h.conditions channel second).mp hsecond
  obtain rfl := Option.some.inj (hget.symm.trans hget')
  exact hasks.unique hasks'

end TriggerPlan

/-! ## What settings are compiled to -/

namespace TriggerMasks

variable {masks : TriggerMasks}

/-- **The masks are those of a list of settings.** -/
structure Reflects (masks : TriggerMasks) (settings : List ChannelSetting) : Prop where
  channels : ∀ i, masks.channels.contains i = true ↔
    ∃ setting, settings[i]? = some setting ∧ setting.enabled = true
  conditions : ∀ i condition, masks.condition? i = some condition ↔
    ∃ setting, settings[i]? = some setting ∧ setting.Asks condition
  /-- Channels that are not watched are neither edges nor levels. -/
  edges : ∀ i, masks.edges.contains i = true → masks.triggers.contains i = true
  levels : ∀ i, masks.levels.contains i = true → masks.triggers.contains i = true

theorem reflects_of_carries {p : TriggerPlan} (h : p.Carries settings)
    (hlength : settings.length ≤ ChannelSet.capacity) :
    (watchAll { channels := p.enabled } p.conditions).Reflects settings := by
  have hcapacity {i : Nat} {setting : ChannelSetting} (hget : settings[i]? = some setting) :
      i < ChannelSet.capacity :=
    Nat.lt_of_lt_of_le (List.getElem?_eq_some_iff.mp hget).1 hlength
  refine ⟨fun i => ?_, fun i condition => ?_, fun i => ?_, fun i => ?_⟩
  · refine (h.enabled i).trans ⟨And.right, ?_⟩
    rintro ⟨setting, hget, henabled⟩
    exact ⟨hcapacity hget, setting, hget, henabled⟩
  · rw [condition?_watchAll h.decides, h.conditions]
    refine ⟨And.right, ?_⟩
    rintro ⟨setting, hget, hasks⟩
    exact ⟨hcapacity hget, setting, hget, hasks⟩
  · exact triggers_of_insertEach p.enabled
  · exact triggers_of_insertEach p.enabled

/-- Settings that can be entered into a plan are compiled. -/
theorem ofSettings_of_enterFrom {p : TriggerPlan}
    (h : (TriggerPlan.mk channelCount .empty []).enterFrom 0 settings = .ok p) :
    ofSettings channelCount settings =
      .ok (watchAll { channels := p.enabled } p.conditions) := by
  have hcarries : p.Carries settings := (TriggerPlan.carries_nil channelCount).enterFrom h
  rw [ofSettings, h]
  refine TriggerPlan.build_of_within fun channel hmentions => ?_
  have haccepted := TriggerPlan.exists_enterFrom_iff.mp ⟨p, h⟩ channel _
    (List.getElem?_eq_getElem (hcarries.lt_length hmentions))
  have hlt := (ChannelSetting.not_refused_iff.mp haccepted).1
  rw [Nat.zero_add] at hlt
  exact Nat.lt_of_lt_of_eq hlt (TriggerPlan.channelCount_enterFrom h).symm

/-- All others are refused, for the first setting that is. -/
theorem ofSettings_eq_error :
    ofSettings channelCount settings = .error error ↔
      FirstRefused channelCount 0 settings error := by
  have hentered : (TriggerPlan.mk channelCount .empty []).enterFrom 0 settings = .error error ↔
      FirstRefused channelCount 0 settings error := TriggerPlan.enterFrom_eq_error
  rw [← hentered]
  rcases h : (TriggerPlan.mk channelCount .empty []).enterFrom 0 settings with found | p
  · have hrefused : ofSettings channelCount settings = .error found := by
      rw [ofSettings, h]
      rfl
    rw [hrefused, Except.error.injEq, Except.error.injEq]
  · rw [ofSettings_of_enterFrom h]
    exact ⟨nofun, nofun⟩

theorem exists_ofSettings_iff :
    (∃ masks, ofSettings channelCount settings = .ok masks) ↔
      settings.length ≤ channelCount ∧ ∀ setting ∈ settings,
        setting.enabled = true → setting.trigger ∈ ["", "0", "1", "r", "f"] := by
  have hplan : (∃ masks, ofSettings channelCount settings = .ok masks) ↔
      ∃ p, (TriggerPlan.mk channelCount .empty []).enterFrom 0 settings = .ok p := by
    constructor
    · rintro ⟨masks, hmasks⟩
      obtain ⟨p, hp, -⟩ := bind_eq_ok.mp hmasks
      exact ⟨p, hp⟩
    · rintro ⟨p, hp⟩
      exact ⟨_, ofSettings_of_enterFrom hp⟩
  rw [hplan, TriggerPlan.exists_enterFrom_iff]
  simp only [ChannelSetting.not_refused_iff, Nat.zero_add]
  constructor
  · intro h
    constructor
    · by_contra hlong
      have hlt : channelCount < settings.length := Nat.lt_of_not_le hlong
      exact Nat.lt_irrefl _ (h channelCount _ (List.getElem?_eq_getElem hlt)).1
    · intro setting hmem
      obtain ⟨i, hget⟩ := List.mem_iff_getElem?.mp hmem
      exact (h i setting hget).2
  · rintro ⟨hlength, hread⟩ i setting hget
    have hlt := (List.getElem?_eq_some_iff.mp hget).1
    exact ⟨Nat.lt_of_lt_of_le hlt hlength, hread setting (List.mem_of_getElem? hget)⟩

/-- The first setting for a channel that the device lacks is the one behind all of its channels. -/
theorem eq_of_firstRefused_overLimit {limit : Nat}
    (h : FirstRefused channelCount 0 settings (.channelOverLimit channel limit)) :
    channel = channelCount ∧ limit = channelCount := by
  obtain ⟨i, setting, hget, hrefused, hfirst⟩ := h
  rw [Nat.zero_add] at hrefused
  obtain ⟨hexcess⟩ := hrefused
  refine ⟨Nat.le_antisymm ?_ hexcess, rfl⟩
  by_contra hbehind
  have hlt : channelCount < channel := Nat.lt_of_not_le hbehind
  have hlength := Nat.lt_trans hlt (List.getElem?_eq_some_iff.mp hget).1
  exact hfirst channelCount _ hlt (List.getElem?_eq_getElem hlength) _
    (.overLimit (Nat.le_add_left channelCount 0))

/-- **Settings are compiled exactly**, for any device with at most 64 channels.  They are compiled
if and only if there are at most as many as channels, and every channel that is recorded has an
empty text or the name of one condition.  The masks are then those of the settings.  Otherwise the
error is that of the first setting that is refused; if that is one that the device has no channel
for, it is the first such.  Texts of channels that are not recorded do not matter. -/
theorem compiled_exactly (hcount : channelCount ≤ ChannelSet.capacity)
    (settings : List ChannelSetting) :
    ((∃ masks, ofSettings channelCount settings = .ok masks) ↔
      settings.length ≤ channelCount ∧ ∀ setting ∈ settings,
        setting.enabled = true → setting.trigger ∈ ["", "0", "1", "r", "f"]) ∧
    (∀ masks, ofSettings channelCount settings = .ok masks → masks.Reflects settings) ∧
    (∀ error, ofSettings channelCount settings = .error error ↔
      FirstRefused channelCount 0 settings error) ∧
    (∀ channel limit,
      ofSettings channelCount settings = .error (.channelOverLimit channel limit) →
        channel = channelCount ∧ limit = channelCount) ∧
    ∀ others, settings.map ChannelSetting.seen = others.map ChannelSetting.seen →
      ofSettings channelCount settings = ofSettings channelCount others := by
  refine ⟨exists_ofSettings_iff, ?_, fun error => ofSettings_eq_error, ?_, ?_⟩
  · intro masks hmasks
    obtain ⟨p, hplan, -⟩ := bind_eq_ok.mp hmasks
    have hlength := (exists_ofSettings_iff.mp ⟨masks, hmasks⟩).1
    rw [ofSettings_of_enterFrom hplan] at hmasks
    obtain rfl := Except.ok.inj hmasks
    have hcarries : p.Carries settings := (TriggerPlan.carries_nil channelCount).enterFrom hplan
    exact reflects_of_carries hcarries (Nat.le_trans hlength hcount)
  · intro channel limit herror
    exact eq_of_firstRefused_overLimit (ofSettings_eq_error.mp herror)
  · intro others hseen
    rw [ofSettings, ofSettings, TriggerPlan.enterFrom_congr hseen]

/-- Two channels are recorded, and watched for an edge and a level.  Between them is one that is
not; that nobody could read its text is no matter. -/
theorem compiled_exactly_of_three_settings :
    16 ≤ ChannelSet.capacity ∧
      ∃ masks, ofSettings 16 [⟨true, "r"⟩, ⟨false, "rf"⟩, ⟨true, "0"⟩] = .ok masks ∧
        masks.channels.contains 1 = false ∧ masks.condition? 0 = some .rising ∧
        masks.condition? 2 = some .low := by
  have hcompiled := compiled_exactly (by decide : 16 ≤ ChannelSet.capacity)
    [⟨true, "r"⟩, ⟨false, "rf"⟩, ⟨true, "0"⟩]
  obtain ⟨masks, hmasks⟩ := hcompiled.1.mpr (by decide)
  have hreflects := hcompiled.2.1 masks hmasks
  refine ⟨by decide, masks, hmasks, ?_, ?_, ?_⟩
  · rw [Bool.eq_false_iff, ne_eq, hreflects.channels]
    rintro ⟨setting, hget, henabled⟩
    obtain rfl := Option.some.inj hget
    contradiction
  · exact (hreflects.conditions 0 .rising).mpr ⟨_, rfl, rfl, rfl⟩
  · exact (hreflects.conditions 2 .low).mpr ⟨_, rfl, rfl, rfl⟩

end TriggerMasks

end LogicAnalyzer
