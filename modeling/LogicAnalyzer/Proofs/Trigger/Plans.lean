import LogicAnalyzer.Proofs.Trigger.Checks

/-!
# What a plan is compiled to

A plan mentions the channels that it records and those that it watches.  If the device has all of
them, the plan is compiled, to masks that have just these channels; if not, one that the device
lacks is reported.  Channels from 64 on are recorded by no plan.

## Main definitions

* `ChannelSet.insertEach`: the channels with conditions of some kind
* `TriggerMasks.watchAll`: masks with all conditions of a list
* `TriggerPlan.Mentions`: the channels of a plan

## Main results

* `ChannelSet.contains_insertEach`: which channels those are
* `TriggerMasks.condition?_watchAll`: the condition of a channel is read back
* `TriggerPlan.build_of_within`: a plan for channels of the device is compiled
* `TriggerPlan.build_refused_iff`, `excess_of_build`: when a plan is refused, and for what
-/

namespace LogicAnalyzer

variable {entries : List (Nat × TriggerCondition)} {i : Nat}

/-! ## Conditions in sets -/

/-- Adds the channels whose condition is of some kind. -/
def ChannelSet.insertEach (kind : TriggerCondition → Bool) (s : ChannelSet)
    (entries : List (Nat × TriggerCondition)) : ChannelSet :=
  entries.foldl (fun s entry => if kind entry.2 then s.insert entry.1 else s) s

/-- **The channels whose condition is of some kind**, as far as there are channels. -/
theorem ChannelSet.contains_insertEach {kind : TriggerCondition → Bool} {s : ChannelSet} :
    (s.insertEach kind entries).contains i = true ↔
      s.contains i = true ∨
        i < capacity ∧ ∃ condition, (i, condition) ∈ entries ∧ kind condition = true := by
  induction entries generalizing s with
  | nil => simp [insertEach]
  | cons entry rest ih =>
    obtain ⟨channel, condition⟩ := entry
    have hcons : s.insertEach kind ((channel, condition) :: rest) =
        (if kind condition then s.insert channel else s).insertEach kind rest := rfl
    rw [hcons, ih]
    rcases hkind : kind condition
    · simp only [Bool.false_eq_true, if_false, List.mem_cons, Prod.mk.injEq]
      grind
    · simp only [if_true, contains_insert, List.mem_cons, Prod.mk.injEq, Bool.or_eq_true,
        decide_eq_true_eq]
      grind

theorem ChannelSet.contains_insertEach_empty {kind : TriggerCondition → Bool} :
    (empty.insertEach kind entries).contains i = true ↔
      i < capacity ∧ ∃ condition, (i, condition) ∈ entries ∧ kind condition = true := by
  simp [contains_insertEach]

/-- A list decides for every channel if it has one condition for it at most. -/
def Decides (entries : List (Nat × TriggerCondition)) : Prop :=
  ∀ channel first second, (channel, first) ∈ entries → (channel, second) ∈ entries → first = second

/-- Then the condition that it has for a channel decides whether the channel is added. -/
theorem Decides.contains_insertEach_empty (h : Decides entries) {condition : TriggerCondition}
    (hi : i < ChannelSet.capacity) (hmem : (i, condition) ∈ entries)
    (kind : TriggerCondition → Bool) :
    (ChannelSet.empty.insertEach kind entries).contains i = kind condition := by
  rw [Bool.eq_iff_iff, ChannelSet.contains_insertEach_empty]
  constructor
  · rintro ⟨-, other, hother, hkind⟩
    rwa [h i condition other hmem hother]
  · intro hkind
    exact ⟨hi, condition, hmem, hkind⟩

namespace TriggerMasks

variable {m : TriggerMasks} {s : ChannelSet} {channelCount : Nat}

/-- Watches one channel after another. -/
def watchAll (m : TriggerMasks) (entries : List (Nat × TriggerCondition)) : TriggerMasks where
  channels := m.channels
  triggers := m.triggers.insertEach (fun _ => true) entries
  edges := m.edges.insertEach TriggerCondition.isEdge entries
  levels := m.levels.insertEach TriggerCondition.level entries

theorem watchAll_cons (m : TriggerMasks) (channel : Nat) (condition : TriggerCondition) :
    m.watchAll ((channel, condition) :: entries) = (m.watch channel condition).watchAll entries :=
  rfl

theorem contains_triggers_watchAll :
    (watchAll { channels := s } entries).triggers.contains i = true ↔
      i < ChannelSet.capacity ∧ ∃ condition, (i, condition) ∈ entries := by
  simp [watchAll, ChannelSet.contains_insertEach_empty]

/-- Edges and levels are watched. -/
theorem triggers_of_insertEach (s : ChannelSet) {kind : TriggerCondition → Bool}
    (h : (ChannelSet.empty.insertEach kind entries).contains i = true) :
    (watchAll { channels := s } entries).triggers.contains i = true := by
  obtain ⟨hi, condition, hmem, -⟩ := ChannelSet.contains_insertEach_empty.mp h
  exact contains_triggers_watchAll.mpr ⟨hi, condition, hmem⟩

theorem contains_mentioned_watchAll :
    (watchAll { channels := s } entries).mentioned.contains i = true ↔
      s.contains i = true ∨ i < ChannelSet.capacity ∧ ∃ condition, (i, condition) ∈ entries := by
  simp only [mentioned, ChannelSet.contains_union, Bool.or_eq_true]
  constructor
  · rintro (((hchannel | htrigger) | hedge) | hlevel)
    · exact .inl hchannel
    · exact .inr (contains_triggers_watchAll.mp htrigger)
    · exact .inr (contains_triggers_watchAll.mp (triggers_of_insertEach s hedge))
    · exact .inr (contains_triggers_watchAll.mp (triggers_of_insertEach s hlevel))
  · rintro (hchannel | hcondition)
    · exact .inl (.inl (.inl hchannel))
    · exact .inl (.inl (.inr (contains_triggers_watchAll.mpr hcondition)))

/-- **The condition of a channel is read back.** -/
theorem condition?_watchAll (hdecides : Decides entries) {condition : TriggerCondition} :
    (watchAll { channels := s } entries).condition? i = some condition ↔
      i < ChannelSet.capacity ∧ (i, condition) ∈ entries := by
  have hread {listed : TriggerCondition} (hi : i < ChannelSet.capacity)
      (hmem : (i, listed) ∈ entries) :
      (watchAll { channels := s } entries).condition? i = some listed := by
    rw [condition?, if_pos (contains_triggers_watchAll.mpr ⟨hi, listed, hmem⟩), watchAll,
      hdecides.contains_insertEach_empty hi hmem, hdecides.contains_insertEach_empty hi hmem,
      TriggerCondition.ofBits_isEdge_level]
  constructor
  · intro h
    have hwatched : (watchAll { channels := s } entries).triggers.contains i = true := by
      by_contra hnot
      rw [condition?, if_neg hnot] at h
      contradiction
    obtain ⟨hi, listed, hmem⟩ := contains_triggers_watchAll.mp hwatched
    rw [hread hi hmem] at h
    obtain rfl := Option.some.inj h
    exact ⟨hi, hmem⟩
  · rintro ⟨hi, hmem⟩
    exact hread hi hmem

/-! ## The check -/

theorem checked_of_check (h : m.check channelCount = .ok ()) : m.checked channelCount = .ok m := by
  rw [checked, h]
  rfl

theorem of_excess? {channel : Nat} (h : m.excess? channelCount = some channel) :
    channelCount ≤ channel ∧ m.mentioned.contains channel = true := by
  obtain ⟨hhighest, hle⟩ := Option.filter_eq_some_iff.mp h
  exact ⟨of_decide_eq_true hle, ChannelSet.contains_of_highest? hhighest⟩

/-- Masks that mention a channel that the device lacks are refused, for one such channel. -/
theorem checked_of_excess (hi : m.mentioned.contains i = true) (hexcess : channelCount ≤ i) :
    ∃ channel, m.checked channelCount = .error (.channelOverLimit channel channelCount) ∧
      channelCount ≤ channel ∧ m.mentioned.contains channel = true := by
  rcases hhighest : m.excess? channelCount with _ | channel
  · have hlt := excess?_eq_none.mp hhighest i hi
    omega
  · refine ⟨channel, ?_, of_excess? hhighest⟩
    simp only [checked, check, hhighest]
    rfl

end TriggerMasks

/-! ## Plans -/

namespace TriggerPlan

variable {p : TriggerPlan} {channelCount channel : Nat}

/-- **The channels of a plan**, to record or to watch. -/
def Mentions (p : TriggerPlan) (channel : Nat) : Prop :=
  p.enabled.contains channel = true ∨ ∃ condition, (channel, condition) ∈ p.conditions

/-- All conditions are added if the device has their channels. -/
theorem addConditions_of_within (m : TriggerMasks)
    (h : ∀ channel condition, (channel, condition) ∈ entries → channel < channelCount) :
    addConditions channelCount m entries = .ok (m.watchAll entries) := by
  induction entries generalizing m with
  | nil => rfl
  | cons entry rest ih =>
    obtain ⟨channel, condition⟩ := entry
    have hlt := h channel condition List.mem_cons_self
    rw [addConditions, if_neg (Nat.not_le.mpr hlt), TriggerMasks.watchAll_cons]
    exact ih _ fun channel condition hmem => h channel condition (List.mem_cons_of_mem _ hmem)

/-- Otherwise one that it lacks is reported. -/
theorem addConditions_of_excess (m : TriggerMasks) {condition : TriggerCondition}
    (hmem : (channel, condition) ∈ entries) (hexcess : channelCount ≤ channel) :
    ∃ first condition,
      addConditions channelCount m entries = .error (.channelOverLimit first channelCount) ∧
        channelCount ≤ first ∧ (first, condition) ∈ entries := by
  induction entries generalizing m with
  | nil => contradiction
  | cons entry rest ih =>
    obtain ⟨head, asked⟩ := entry
    by_cases hhead : channelCount ≤ head
    · exact ⟨head, asked, if_pos hhead, hhead, List.mem_cons_self⟩
    · have hrest : (channel, condition) ∈ rest := by
        rcases List.mem_cons.mp hmem with heq | hrest
        · obtain ⟨rfl, -⟩ := Prod.mk.inj heq
          contradiction
        · exact hrest
      obtain ⟨first, found, herror, hle, hfound⟩ := ih (m.watch head asked) hrest
      exact ⟨first, found, (if_neg hhead).trans herror, hle, List.mem_cons_of_mem _ hfound⟩

/-- **A plan is compiled** if the device has all channels that it mentions. -/
theorem build_of_within (h : ∀ channel, p.Mentions channel → channel < p.channelCount) :
    p.build = .ok (TriggerMasks.watchAll { channels := p.enabled } p.conditions) := by
  have hadded : addConditions p.channelCount { channels := p.enabled } p.conditions =
      .ok (TriggerMasks.watchAll { channels := p.enabled } p.conditions) :=
    addConditions_of_within _ fun channel condition hmem => h channel (.inr ⟨condition, hmem⟩)
  have hcheck : (TriggerMasks.watchAll { channels := p.enabled } p.conditions).check
      p.channelCount = .ok () := by
    refine TriggerMasks.check_eq_ok.mpr ⟨fun i hi => h i ?_, fun i hi => ?_⟩
    · rcases TriggerMasks.contains_mentioned_watchAll.mp hi with henabled | ⟨-, hwatched⟩
      · exact .inl henabled
      · exact .inr hwatched
    · exact TriggerMasks.triggers_of_insertEach p.enabled hi
  rw [build, hadded]
  exact TriggerMasks.checked_of_check hcheck

/-- **A plan that mentions a channel that the device lacks** is refused, for one such channel. -/
theorem build_of_excess (h : p.Mentions channel) (hexcess : p.channelCount ≤ channel) :
    ∃ first, p.build = .error (.channelOverLimit first p.channelCount) ∧
      p.channelCount ≤ first ∧ p.Mentions first := by
  by_cases hwithin : ∀ channel condition,
      (channel, condition) ∈ p.conditions → channel < p.channelCount
  · have henabled : p.enabled.contains channel = true := by
      rcases h with henabled | ⟨condition, hmem⟩
      · exact henabled
      · have hlt := hwithin channel condition hmem
        omega
    have hlacking : (TriggerMasks.watchAll { channels := p.enabled }
        p.conditions).mentioned.contains channel = true :=
      TriggerMasks.contains_mentioned_watchAll.mpr (.inl henabled)
    obtain ⟨first, herror, hle, hmentioned⟩ := TriggerMasks.checked_of_excess hlacking hexcess
    refine ⟨first, ?_, hle, ?_⟩
    · rw [build, addConditions_of_within _ hwithin]
      exact herror
    · rcases TriggerMasks.contains_mentioned_watchAll.mp hmentioned with hfirst | ⟨-, hfirst⟩
      · exact .inl hfirst
      · exact .inr hfirst
  · push Not at hwithin
    obtain ⟨lacking, condition, hmem, hle⟩ := hwithin
    obtain ⟨first, found, herror, hfirst, hfound⟩ :=
      addConditions_of_excess { channels := p.enabled } hmem hle
    refine ⟨first, ?_, hfirst, .inr ⟨found, hfound⟩⟩
    rw [build, herror]
    rfl

/-- **A plan is refused** if and only if it mentions a channel that the device lacks. -/
theorem build_refused_iff (p : TriggerPlan) :
    (∃ channel, p.build = .error (.channelOverLimit channel p.channelCount)) ↔
      ∃ channel, p.channelCount ≤ channel ∧ p.Mentions channel := by
  constructor
  · rintro ⟨channel, herror⟩
    by_contra hnone
    push Not at hnone
    have hwithin (other : Nat) (hmentions : p.Mentions other) : other < p.channelCount :=
      Nat.lt_of_not_le fun hexcess => hnone other hexcess hmentions
    rw [build_of_within hwithin] at herror
    contradiction
  · rintro ⟨channel, hexcess, hmentions⟩
    obtain ⟨first, herror, -⟩ := build_of_excess hmentions hexcess
    exact ⟨first, herror⟩

/-- Whatever error it is refused with, it is for such a channel. -/
theorem excess_of_build {error : TriggerError} (h : p.build = .error error) :
    ∃ channel, error = .channelOverLimit channel p.channelCount ∧ p.channelCount ≤ channel ∧
      p.Mentions channel := by
  by_cases hwithin : ∀ channel, p.Mentions channel → channel < p.channelCount
  · rw [build_of_within hwithin] at h
    contradiction
  · push Not at hwithin
    obtain ⟨lacking, hmentions, hexcess⟩ := hwithin
    obtain ⟨channel, herror, hle, hfound⟩ := build_of_excess hmentions hexcess
    rw [h] at herror
    exact ⟨channel, Except.error.inj herror, hle, hfound⟩

end TriggerPlan

end LogicAnalyzer
