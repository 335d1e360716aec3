import LogicAnalyzer.Session.Settings

/-!
# What settings tell the device

Of all settings the device is told of the clock alone, and only of one that can be chosen.  The
clock that shuts it down cannot be.

## Main definitions

* `Session.Tuned`: what a setting does to the device

## Main results

* `Session.tuned_openDevice`, `tuned_setOption` and their like: settings do no more than that
-/

namespace LogicAnalyzer.Session

variable {τ : Type} [Transport τ] {s s' : Session τ}

/-- From `s` to `s'` the device was told at most of a clock that can be chosen, if `s` has one. -/
structure Tuned (s s' : Session τ) : Prop where
  told : s.clockSource ≠ .none → s'.transport = s.transport ∨ ∃ source : ClockSource,
    source ≠ .none ∧
      s'.transport = (Transport.send s.transport (Command.selectClock source).frame).2
  clock : s.clockSource ≠ .none → s'.clockSource ≠ .none

theorem Tuned.of_eq (htransport : s'.transport = s.transport)
    (hclock : s'.clockSource = s.clockSource) : s.Tuned s' :=
  ⟨fun _ => .inl htransport, fun h => hclock ▸ h⟩

theorem tuned_openDevice : s.Tuned s.openDevice.2 := by
  unfold openDevice
  split
  · exact .of_eq rfl rfl
  · simp only [send]
    rcases hsend : Transport.send s.transport (Command.selectClock s.clockSource).frame with
      ⟨_ | _, transport⟩
    all_goals exact ⟨fun hclock => .inr ⟨s.clockSource, hclock, by rw [hsend]⟩, id⟩

theorem tuned_setSampleRate (rate : UInt64) : s.Tuned (s.setSampleRate rate).2 := by
  unfold setSampleRate
  split <;> exact .of_eq rfl rfl

theorem tuned_setClockSource (source : ClockSource) : s.Tuned (s.setClockSource source).2 := by
  unfold setClockSource
  split
  · exact .of_eq rfl rfl
  · rename_i hsource
    split
    · simp only [send]
      rcases hsend : Transport.send s.transport (Command.selectClock source).frame with
        ⟨_ | _, transport⟩
      · exact ⟨fun _ => .inr ⟨source, hsource, by rw [hsend]⟩, id⟩
      · exact ⟨fun _ => .inr ⟨source, hsource, by rw [hsend]⟩, fun _ => hsource⟩
    · exact ⟨fun _ => .inl rfl, fun _ => hsource⟩

theorem tuned_setOption (key : OptionKey) (value : OptionValue) :
    s.Tuned (s.setOption key value).2 := by
  unfold setOption
  split
  · exact tuned_setSampleRate _
  · exact .of_eq rfl rfl
  · exact tuned_setClockSource _
  all_goals exact .of_eq rfl rfl

theorem tuned_takeMasks (action : SettledAction) (masks : Except TriggerError TriggerMasks) :
    s.Tuned (s.takeMasks action masks).2 := by
  unfold takeMasks
  split
  · exact .of_eq rfl rfl
  · split <;> exact .of_eq rfl rfl

end LogicAnalyzer.Session
