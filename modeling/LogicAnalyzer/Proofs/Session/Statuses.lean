import LogicAnalyzer.Session.Settings

/-!
# Who touches the status of a session

Settings leave the status alone.  Bringing the device up makes an inactive session active, or
leaves it as it was.

## Main results

* `Session.status_openDevice`: what bringing the device up does to the status
* `Session.status_setOption` and its like: settings leave it alone
-/

namespace LogicAnalyzer.Session

variable {τ : Type} (s : Session τ)

theorem status_send [Transport τ] (frame : Frame) : (s.send frame).2.status = s.status := rfl

/-- Bringing the device up changes the status only if it was down, and only if it works. -/
theorem status_openDevice [Transport τ] :
    s.openDevice.2.status = s.status ∨
      s.status = .inactive ∧ s.openDevice.2.status = .active := by
  by_cases h : s.status = .inactive
  · simp only [openDevice, ne_eq, h, not_true_eq_false, if_false]
    split
    · exact Or.inr ⟨trivial, rfl⟩
    · exact Or.inl rfl
  · rw [openDevice, if_pos h]
    exact Or.inl rfl

theorem status_setSampleRate (rate : UInt64) : (s.setSampleRate rate).2.status = s.status := by
  unfold setSampleRate
  split <;> rfl

theorem status_setClockSource [Transport τ] (source : ClockSource) :
    (s.setClockSource source).2.status = s.status := by
  unfold setClockSource
  split
  · rfl
  · split
    · have hsend := s.status_send (Command.selectClock source).frame
      split
      · rename_i heq
        rw [heq] at hsend
        exact hsend
      · rename_i heq
        rw [heq] at hsend
        exact hsend
    · rfl

theorem status_setOption [Transport τ] (key : OptionKey) (value : OptionValue) :
    (s.setOption key value).2.status = s.status := by
  unfold setOption
  split
  · exact s.status_setSampleRate _
  · rfl
  · exact s.status_setClockSource _
  all_goals rfl

theorem status_takeMasks (action : SettledAction) (masks : Except TriggerError TriggerMasks) :
    (s.takeMasks action masks).2.status = s.status := by
  unfold takeMasks
  split
  · rfl
  · split <;> rfl

end LogicAnalyzer.Session
