import LogicAnalyzer.Device.Simulated
import LogicAnalyzer.Proofs.Session.Statuses

/-!
# Options as a store

The options of a session are looked at by a front end as a store of values under keys.  Behind three
of the keys there is a setting each: a rate that must be offered, a limit, and a clock that an active
device may refuse.  Whether a value is taken depends on nothing that another value changes, so every
key reads as the last value that it was given and took.

## Main definitions

* `OptionChoice`: a value for an option
* `Session.setOptions`: giving options one value after another
* `Session.optionAnswer`: which values a session takes, and what it says to the others
* `lastTaken?`: the last value of an option that was taken

## Main results

* `Session.setOption_fst`, `optionAnswer_setOption`: what one value is answered
* `Session.getOption_setOption`: what an option reads as after it
* `Session.options_are_a_store`: what any number of values are answered, and what options read as
-/

namespace LogicAnalyzer

/-- The type of the values that an option can be given, if it can be given any. -/
def OptionKey.type? : OptionKey → Option OptionType
  | sampleRate | limitSamples => some .word
  | externalClock => some .flag
  | logicAnalyzer | triggerType | deviceOptions => none

/-- A value for an option. -/
structure OptionChoice where
  key : OptionKey
  value : OptionValue

/-- **The last value of an option that was taken**, of some values that were given one after another,
with the answers to them. -/
def lastTaken? (key : OptionKey) (choices : List OptionChoice)
    (answers : List (Except Failure Unit)) : Option OptionValue :=
  ((choices.zip answers).filterMap fun (choice, answer) =>
    if choice.key = key ∧ answer.isOk = true then some choice.value else none).getLast?

theorem lastTaken?_cons (key : OptionKey) (choice : OptionChoice) (rest : List OptionChoice)
    (answer : Except Failure Unit) (answers : List (Except Failure Unit)) :
    lastTaken? key (choice :: rest) (answer :: answers) =
      (lastTaken? key rest answers).or
        (if choice.key = key ∧ answer.isOk = true then some choice.value else none) := by
  simp only [lastTaken?, List.zip_cons_cons, List.filterMap_cons]
  split
  · rename_i hnone
    rw [hnone, Option.or_none]
  · rename_i value hsome
    rw [hsome, List.getLast?_cons]
    cases (List.filterMap _ (rest.zip answers)).getLast? <;> rfl

namespace Session

section

variable {τ : Type} [Transport τ]

/-- **Gives options one value after another**, and has the answers. -/
def setOptions (s : Session τ) : List OptionChoice → List (Except Failure Unit) × Session τ
  | [] => ([], s)
  | choice :: rest =>
    let (answer, s) := s.setOption choice.key choice.value
    let (answers, s) := s.setOptions rest
    (answer :: answers, s)

/-- **A clock that can be chosen** is, unless an active device refuses it. -/
theorem setClockSource_cases {source : ClockSource} (h : source ≠ .none) (s : Session τ) :
    (s.setClockSource source).1 = .ok () ∧ (∃ transport,
        (s.setClockSource source).2 = { s with transport, clockSource := source }) ∨
      (∃ e, (s.setClockSource source).1 = .error e) ∧
        ∃ transport, (s.setClockSource source).2 = { s with transport } := by
  unfold setClockSource
  rw [if_neg h]
  split
  · simp only [send]
    rcases Transport.send s.transport (Command.selectClock source).frame with ⟨e | _, transport⟩
    · exact .inr ⟨⟨_, rfl⟩, transport, rfl⟩
    · exact .inl ⟨rfl, transport, rfl⟩
  · exact .inl ⟨rfl, s.transport, rfl⟩

/-- The clock that the clock option stands for, either way, can be chosen and is external or not. -/
theorem clock_of_flag (external : Bool) :
    (if external then ClockSource.externalRisingEdge else .internal) ≠ .none ∧
      (if external then ClockSource.externalRisingEdge else .internal).isExternal = external := by
  cases external <;> exact ⟨nofun, rfl⟩

/-- **What an option reads as** after one was given a value: that value, if it is the option and took
it, and else what it read as before. -/
theorem getOption_setOption (s : Session τ) (choice : OptionChoice) (key : OptionKey) :
    (s.setOption choice.key choice.value).2.getOption key =
      if choice.key = key ∧ (s.setOption choice.key choice.value).1.isOk = true then
        .ok choice.value
      else s.getOption key := by
  obtain ⟨given, value⟩ := choice
  have hrefused (e : Failure) :
      s.getOption key =
        if given = key ∧ (Except.error e : Except Failure Unit).isOk = true then .ok value
        else s.getOption key := by
    rw [if_neg]
    rintro ⟨-, hok⟩
    cases hok
  cases given with
  | sampleRate =>
    cases value with
    | word rate =>
      simp only [setOption, setSampleRate]
      split
      · cases key <;> rfl
      · exact hrefused _
    | _ => exact hrefused _
  | limitSamples =>
    cases value with
    | word limit => cases key <;> rfl
    | _ => exact hrefused _
  | externalClock =>
    cases value with
    | flag external =>
      obtain ⟨hchoice, hexternal⟩ := clock_of_flag external
      obtain ⟨hok, transport, heq⟩ | ⟨⟨e, herror⟩, transport, heq⟩ :=
        setClockSource_cases hchoice s
      · simp only [setOption, hok, heq]
        cases key with
        | externalClock => exact congrArg (fun flag => Except.ok (OptionValue.flag flag)) hexternal
        | _ => rfl
      · simp only [setOption, herror, heq]
        have hsame : getOption { s with transport } key = s.getOption key := by cases key <;> rfl
        rw [hsame]
        exact hrefused e
    | _ => exact hrefused _
  | _ => exact hrefused _

end

/-- The error with which the device refuses a clock, if it is up. -/
def clockRefusal? (s : Session SimulatedDevice) : Option TransferError :=
  if s.status = .active then s.transport.refusal? Command.selectClockOpcode else none

/-- **Which values a session takes, and what it says to the others.** -/
def optionAnswer (s : Session SimulatedDevice) (choice : OptionChoice) : Except Failure Unit :=
  match choice.key, choice.value with
  | .sampleRate, .word rate =>
    if rate ∈ SampleRate.offered then .ok () else .error (.command (.unsupportedRate rate))
  | .limitSamples, .word _ => .ok ()
  | .externalClock, .flag _ =>
    match s.clockRefusal? with
    | some e => .error (.transfer e)
    | none => .ok ()
  | key, value =>
    match key.type? with
    | some expected => .error (.option (.typeMismatch key expected value.type))
    | none => .error (.option (.notApplicable key))

variable (s : Session SimulatedDevice)

theorem setClockSource_fst {source : ClockSource} (h : source ≠ .none) :
    (s.setClockSource source).1 =
      match s.clockRefusal? with
      | some e => .error (.transfer e)
      | none => .ok () := by
  unfold setClockSource
  rw [if_neg h]
  by_cases hactive : s.status = .active
  · have hopcode : (Command.selectClock source).frame.opcode = Command.selectClockOpcode := rfl
    simp only [clockRefusal?, if_pos hactive, send, Transport.send, SimulatedDevice.send, hopcode]
    cases s.transport.refusal? Command.selectClockOpcode <;> rfl
  · simp only [clockRefusal?, if_neg hactive]

/-- **What one value is answered.** -/
theorem setOption_fst (choice : OptionChoice) :
    (s.setOption choice.key choice.value).1 = s.optionAnswer choice := by
  obtain ⟨key, value⟩ := choice
  cases key with
  | sampleRate =>
    cases value with
    | word rate =>
      simp only [setOption, setSampleRate, optionAnswer, ← SampleRate.isOffered_iff]
      split <;> rfl
    | _ => rfl
  | limitSamples => cases value <;> rfl
  | externalClock =>
    cases value with
    | flag external => exact setClockSource_fst s (clock_of_flag external).1
    | _ => rfl
  | _ => rfl

/-- A device refuses the same commands after one as before. -/
theorem commandFailure_setClockSource (source : ClockSource) :
    (s.setClockSource source).2.transport.commandFailure = s.transport.commandFailure := by
  unfold setClockSource
  split
  · rfl
  · split
    · simp only [send, Transport.send, SimulatedDevice.send]
      cases s.transport.refusal? (Command.selectClock source).frame.opcode <;> rfl
    · rfl

/-- Whether the device refuses a clock does not change with a value, -/
theorem clockRefusal?_setOption (key : OptionKey) (value : OptionValue) :
    (s.setOption key value).2.clockRefusal? = s.clockRefusal? := by
  have hfailure : (s.setOption key value).2.transport.commandFailure =
      s.transport.commandFailure := by
    unfold setOption
    split
    · unfold setSampleRate
      split <;> rfl
    · rfl
    · exact s.commandFailure_setClockSource _
    all_goals rfl
  unfold clockRefusal? SimulatedDevice.refusal?
  rw [status_setOption, hfailure]

/-- and so neither does what other values would be answered. -/
theorem optionAnswer_setOption (key : OptionKey) (value : OptionValue) :
    (s.setOption key value).2.optionAnswer = s.optionAnswer := by
  funext choice
  unfold optionAnswer
  rw [clockRefusal?_setOption]

/-! ## Any number of values -/

theorem setOptions_fst (choices : List OptionChoice) :
    (s.setOptions choices).1 = choices.map s.optionAnswer := by
  induction choices generalizing s with
  | nil => rfl
  | cons choice rest ih =>
    simp only [setOptions, List.map_cons, setOption_fst, ih, optionAnswer_setOption]

theorem getOption_setOptions (choices : List OptionChoice) (key : OptionKey) :
    (s.setOptions choices).2.getOption key =
      ((lastTaken? key choices (s.setOptions choices).1).map .ok).getD (s.getOption key) := by
  induction choices generalizing s with
  | nil => rfl
  | cons choice rest ih =>
    simp only [setOptions, ih, getOption_setOption, lastTaken?_cons]
    cases lastTaken? key rest _ with
    | some value => rfl
    | none =>
      split <;> rfl

/-- The values for other options can be left out of the last value that was taken. -/
theorem lastTaken?_filter (answer : OptionChoice → Except Failure Unit)
    (choices : List OptionChoice) (key : OptionKey) :
    lastTaken? key (choices.filter (·.key = key)) ((choices.filter (·.key = key)).map answer) =
      lastTaken? key choices (choices.map answer) := by
  induction choices with
  | nil => rfl
  | cons choice rest ih =>
    by_cases hkey : choice.key = key
    · simp only [List.filter_cons, hkey, decide_true, if_true, List.map_cons, lastTaken?_cons, ih]
    · simp only [List.filter_cons, hkey, decide_false, Bool.false_eq_true, if_false, List.map_cons,
        lastTaken?_cons, ih, false_and, Option.or_none]

/-- **Options are a store.**  Let options of a session be given values one after another, in any status
and with any refusal that its device was told of.  Every value is answered as it would have been at
first: a rate is taken if and only if it is offered, a limit always, and a flag for the clock unless
the session is active and its device refuses a clock; values of another type are refused as such, and
all values for other keys because of the key.  Afterwards each key reads as the last value that it was
given and took, or as at first if there is none, and it reads the same if the values for other keys
are left out. -/
theorem options_are_a_store (choices : List OptionChoice) :
    (s.setOptions choices).1 = choices.map s.optionAnswer ∧
      ∀ key,
        (s.setOptions choices).2.getOption key =
            ((lastTaken? key choices (s.setOptions choices).1).map .ok).getD (s.getOption key) ∧
          (s.setOptions (choices.filter (·.key = key))).2.getOption key =
            (s.setOptions choices).2.getOption key := by
  refine ⟨setOptions_fst s choices, fun key => ⟨getOption_setOptions s choices key, ?_⟩⟩
  rw [getOption_setOptions, getOption_setOptions, setOptions_fst, setOptions_fst,
    lastTaken?_filter]

end Session

end LogicAnalyzer
