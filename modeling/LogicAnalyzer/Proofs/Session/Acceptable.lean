import LogicAnalyzer.Proofs.Session.Statuses
import LogicAnalyzer.Proofs.Trigger.Checks

/-!
# Settings that a device accepts

A setting is checked when it is made.  Since one that is refused is not made, the settings of a
session are accepted by its device at all times, whatever was done with the session.

## Main definitions

* `Session.Acceptable`: settings that the device accepts
* `Session.Reached`: the sessions that operations lead to

## Main results

* `Session.Acceptable.openDevice`, `setOption` and their like: operations keep settings acceptable
* `Session.Reached.acceptable`, `settled`: the settings of a session are acceptable, and it is up or
  is not
-/

namespace LogicAnalyzer.Session

variable {τ : Type} {s : Session τ}

/-- **Settings that the device accepts.** -/
structure Acceptable (s : Session τ) : Prop where
  offered : ∀ rate ∈ s.sampleRate, rate ∈ SampleRate.offered
  /-- A device is not up before there is a rate. -/
  chosen : s.status ≠ .inactive → s.sampleRate ≠ none
  clock : s.clockSource ≠ .none
  masks : s.masks.check s.model.channelCount = .ok ()

theorem acceptable_new (transport : τ) (model : Model) : (new transport model).Acceptable where
  offered := by rintro rate ⟨⟩
  chosen hup := absurd rfl hup
  clock := by rintro ⟨⟩
  masks := TriggerMasks.check_first model.channelCount

namespace Acceptable

/-- Neither the transport nor the limit matters, and the status only if the device comes up. -/
theorem withTransport (h : s.Acceptable) (transport : τ) :
    Acceptable { s with transport } :=
  { h with }

theorem setSampleLimit (h : s.Acceptable) (limit : UInt64) : (s.setSampleLimit limit).Acceptable :=
  { h with }

theorem beginStop (h : s.Acceptable) : s.beginStop.Acceptable := by
  unfold Session.beginStop
  split
  · rename_i hactive
    exact { h with chosen := fun _ => h.chosen (by simp [hactive]) }
  · exact h

theorem finishStop (h : s.Acceptable) : s.finishStop.Acceptable :=
  { h with chosen := fun hup => absurd rfl hup }

theorem setSampleRate (h : s.Acceptable) (rate : UInt64) :
    (s.setSampleRate rate).2.Acceptable := by
  unfold Session.setSampleRate
  split
  · rename_i hoffered
    refine { h with offered := ?_, chosen := fun _ => nofun }
    rintro _ ⟨⟩
    exact SampleRate.isOffered_iff.mp hoffered
  · exact h

variable [Transport τ]

/-- **Bringing the device up** chooses a rate that is offered, also if the device refuses. -/
theorem openDevice (h : s.Acceptable) : s.openDevice.2.Acceptable := by
  unfold Session.openDevice
  split
  · exact h
  · have hoffered : ∀ rate ∈ some (s.sampleRate.getD SampleRate.standard),
        rate ∈ SampleRate.offered := by
      rintro _ ⟨⟩
      cases hrate : s.sampleRate with
      | none => exact List.mem_cons_self ..
      | some rate => exact h.offered rate hrate
    simp only [send]
    rcases Transport.send s.transport (Command.selectClock s.clockSource).frame with
      ⟨_ | _, transport⟩
    all_goals exact { h with offered := hoffered, chosen := fun _ => nofun }

/-- **A clock source** is not chosen if it is the one that shuts the device down. -/
theorem setClockSource (h : s.Acceptable) (source : ClockSource) :
    (s.setClockSource source).2.Acceptable := by
  unfold Session.setClockSource
  split
  · exact h
  · rename_i hsource
    split
    · simp only [send]
      rcases Transport.send s.transport (Command.selectClock source).frame with ⟨_ | _, transport⟩
      · exact h.withTransport transport
      · exact { h with clock := hsource }
    · exact { h with clock := hsource }

theorem setOption (h : s.Acceptable) (key : OptionKey) (value : OptionValue) :
    (s.setOption key value).2.Acceptable := by
  unfold Session.setOption
  split
  · exact h.setSampleRate _
  · exact h.setSampleLimit _
  · exact h.setClockSource _
  all_goals exact h

omit [Transport τ] in
theorem takeMasks (h : s.Acceptable) (action : SettledAction)
    {masks : Except TriggerError TriggerMasks}
    (hmasks : ∀ m, masks = .ok m → m.check s.model.channelCount = .ok ()) :
    (s.takeMasks action masks).2.Acceptable := by
  unfold Session.takeMasks
  split
  · exact h
  · split
    · exact { h with masks := hmasks _ rfl }
    · exact h

omit [Transport τ] in
theorem configureChannels (h : s.Acceptable) (settings : List ChannelSetting) :
    (s.configureChannels settings).2.Acceptable :=
  h.takeMasks .configureChannels fun _ => TriggerMasks.check_of_ofSettings

omit [Transport τ] in
theorem configureTriggers (h : s.Acceptable) (masks : TriggerMasks) :
    (s.configureTriggers masks).2.Acceptable :=
  h.takeMasks .configureTriggers fun _ => TriggerMasks.check_of_checked

end Acceptable

variable [Transport τ]

/-- **The sessions that operations lead to.**  The transport may be changed in between. -/
inductive Reached : Session τ → Prop where
  | new (transport : τ) (model : Model) : Reached (.new transport model)
  | openDevice {s : Session τ} : Reached s → Reached s.openDevice.2
  | setSampleRate {s : Session τ} (rate : UInt64) : Reached s → Reached (s.setSampleRate rate).2
  | setSampleLimit {s : Session τ} (limit : UInt64) : Reached s → Reached (s.setSampleLimit limit)
  | setClockSource {s : Session τ} (source : ClockSource) :
      Reached s → Reached (s.setClockSource source).2
  | setOption {s : Session τ} (key : OptionKey) (value : OptionValue) :
      Reached s → Reached (s.setOption key value).2
  | configureChannels {s : Session τ} (settings : List ChannelSetting) :
      Reached s → Reached (s.configureChannels settings).2
  | configureTriggers {s : Session τ} (masks : TriggerMasks) :
      Reached s → Reached (s.configureTriggers masks).2
  | withTransport {s : Session τ} (transport : τ) : Reached s → Reached { s with transport }

/-- **The settings of a session** are acceptable. -/
theorem Reached.acceptable (h : s.Reached) : s.Acceptable := by
  induction h with
  | new transport model => exact acceptable_new transport model
  | openDevice _ ih => exact ih.openDevice
  | setSampleRate rate _ ih => exact ih.setSampleRate rate
  | setSampleLimit limit _ ih => exact ih.setSampleLimit limit
  | setClockSource source _ ih => exact ih.setClockSource source
  | setOption key value _ ih => exact ih.setOption key value
  | configureChannels settings _ ih => exact ih.configureChannels settings
  | configureTriggers masks _ ih => exact ih.configureTriggers masks
  | withTransport transport _ ih => exact ih.withTransport transport

/-- **A session without a controller** is up or is not. -/
theorem Reached.settled (h : s.Reached) : s.status = .inactive ∨ s.status = .active := by
  induction h with
  | new transport model => exact .inl rfl
  | @openDevice s _ ih =>
    rcases s.status_openDevice with hsame | ⟨-, hactive⟩
    · rwa [hsame]
    · exact .inr hactive
  | @setSampleRate s rate _ ih => rwa [s.status_setSampleRate rate]
  | setSampleLimit limit _ ih => exact ih
  | @setClockSource s source _ ih => rwa [s.status_setClockSource source]
  | @setOption s key value _ ih => rwa [s.status_setOption key value]
  | @configureChannels s settings _ ih => rwa [Session.configureChannels, s.status_takeMasks]
  | @configureTriggers s masks _ ih => rwa [Session.configureTriggers, s.status_takeMasks]
  | withTransport transport _ ih => exact ih

end LogicAnalyzer.Session
