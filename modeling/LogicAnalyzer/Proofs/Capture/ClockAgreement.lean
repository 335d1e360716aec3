import LogicAnalyzer.Proofs.Capture.FailedStart
import LogicAnalyzer.Proofs.Capture.Keeping
import LogicAnalyzer.Proofs.Capture.Pairing
import LogicAnalyzer.Proofs.Capture.RefusedShutdown

/-!
# The clock of the session and that of the device

The device is told of a clock when it is brought up, when one is chosen while it is up, and at the
end of a capture, which takes its clock away.  It may refuse each time.  A choice that it refuses is
no choice of the session, and a shutdown is none either.  So while the session is active both sides
agree, and a device that is brought up again is told of the clock that was chosen last.

## Main definitions

* `lastClock`: the clock that a device was told of last
* `selections`: the clocks that operations chose
* `Session.ClockStep`: what a setting has to do with the clock
* `Controller.ShutsDown`, `DownWith`: the end of a capture, and what holds from then on

## Main results

* `Controller.clockStep_of_perform`: what any operation has to do with the clock
* `Controller.clock_agrees`: session and device agree
-/

namespace LogicAnalyzer

/-! ## What the device is told -/

/-- The clock that a frame selects, as the byte that stands for it. -/
def Frame.clockCode? (frame : Frame) : Option UInt8 :=
  if frame.opcode = Command.selectClockOpcode then frame.payload.head? else none

/-- **The clock that a device was told of last**, among the commands that it accepted. -/
def lastClock (commands : List Frame) : Option UInt8 :=
  (commands.filterMap Frame.clockCode?).getLast?

theorem lastClock_append (commands more : List Frame) :
    lastClock (commands ++ more) = (lastClock more).or (lastClock commands) := by
  rw [lastClock, List.filterMap_append, List.getLast?_append]
  rfl

@[simp] theorem lastClock_append_selectClock (commands : List Frame) (source : ClockSource) :
    lastClock (commands ++ [(Command.selectClock source).frame]) = some source.code := by
  rw [lastClock_append]
  rfl

/-- Other commands do not matter. -/
theorem lastClock_append_of_others {commands more : List Frame}
    (h : ∀ frame ∈ more, frame.opcode ≠ Command.selectClockOpcode) :
    lastClock (commands ++ more) = lastClock commands := by
  have hnone : more.filterMap Frame.clockCode? = [] := by
    rw [List.filterMap_eq_nil_iff]
    intro frame hframe
    exact if_neg (h frame hframe)
  rw [lastClock_append, lastClock, hnone]
  rfl

/-- An operation that adds no command to those that the device accepted, and takes none away. -/
def Operation.SparesCommands : Operation SimulatedDevice → Prop
  | .adjust change => ∀ d, (change d).commands = d.commands
  | _ => True

/-- The clock that an operation is to choose. -/
def Operation.clock? {τ : Type} : Operation τ → Option ClockSource
  | .setClockSource source => some source
  | .setOption .externalClock (.flag external) =>
    some (if external then .externalRisingEdge else .internal)
  | _ => none

/-- The clock that an operation chose. -/
def Operation.selected? {τ : Type} (op : Operation τ) : Answer → Option ClockSource
  | .result (.ok ()) => op.clock?
  | _ => none

theorem Operation.selected?_of_clock? {τ : Type} {op : Operation τ} (h : op.clock? = none)
    (answer : Answer) : op.selected? answer = none := by
  unfold selected?
  split
  · exact h
  · rfl

/-- **The clocks that operations chose**, in order. -/
def selections {τ : Type} : List (Operation τ) → List Answer → List ClockSource
  | op :: ops, answer :: answers => (op.selected? answer).toList ++ selections ops answers
  | _, _ => []

/-! ## Settings -/

/-- A command is accepted, or the device takes nothing down. -/
theorem SimulatedDevice.commands_send (d : SimulatedDevice) (frame : Frame) :
    ((d.send frame).1 = .ok () ∧ (d.send frame).2.commands = d.commands ++ [frame]) ∨
      (∃ e, (d.send frame).1 = .error e) ∧ (d.send frame).2.commands = d.commands := by
  rcases hsend : d.send frame with ⟨e | _, d'⟩
  · exact .inr ⟨⟨e, rfl⟩, commands_of_send_error hsend⟩
  · exact .inl ⟨rfl, commands_of_send_ok hsend⟩

namespace Session

variable {s s' : Session SimulatedDevice}

/-- **What a setting has to do with the clock**, by the one that it chose. -/
inductive ClockStep (s s' : Session SimulatedDevice) : Option ClockSource → Prop where
  /-- None was chosen, and the device was told of none. -/
  | keeps (clock : s'.clockSource = s.clockSource)
      (last : lastClock s'.transport.commands = lastClock s.transport.commands)
      (status : s'.status = .active → s.status = .active) : ClockStep s s' none
  /-- One was chosen, and an active device accepted it. -/
  | selects {source : ClockSource} (clock : s'.clockSource = source) (status : s'.status = s.status)
      (commands : s'.transport.commands =
        if s.status = .active then s.transport.commands ++ [(Command.selectClock source).frame]
        else s.transport.commands) : ClockStep s s' (some source)
  /-- The device was brought up. -/
  | opens (clock : s'.clockSource = s.clockSource) (was : s.status = .inactive)
      (status : s'.status = .active)
      (commands : s'.transport.commands =
        s.transport.commands ++ [(Command.selectClock s.clockSource).frame]) : ClockStep s s' none

theorem ClockStep.refl (s : Session SimulatedDevice) : s.ClockStep s none := .keeps rfl rfl id

/-- **Bringing the device up** sends the clock of the session, if it is not up already. -/
theorem openDevice_sends (hs : s.status = .inactive) :
    s.openDevice.2.clockSource = s.clockSource ∧
      ((s.openDevice.1 = .ok () ∧ s.openDevice.2.status = .active ∧
          s.openDevice.2.transport.commands =
            s.transport.commands ++ [(Command.selectClock s.clockSource).frame]) ∨
        (∃ e, s.openDevice.1 = .error e) ∧ s.openDevice.2.status = .inactive ∧
          s.openDevice.2.transport.commands = s.transport.commands) := by
  simp only [openDevice, hs, ne_eq, not_true_eq_false, if_false, send, Transport.send]
  rcases hsend : s.transport.send (Command.selectClock s.clockSource).frame with ⟨e | _, d⟩
  · exact ⟨rfl, .inr ⟨⟨_, rfl⟩, rfl, SimulatedDevice.commands_of_send_error hsend⟩⟩
  · exact ⟨rfl, .inl ⟨rfl, rfl, SimulatedDevice.commands_of_send_ok hsend⟩⟩

theorem clockStep_openDevice (s : Session SimulatedDevice) : s.ClockStep s.openDevice.2 none := by
  by_cases hs : s.status = .inactive
  · obtain ⟨hclock, ⟨-, hactive, hcommands⟩ | ⟨-, hinactive, hcommands⟩⟩ := openDevice_sends hs
    · exact .opens hclock hs hactive hcommands
    · refine .keeps hclock (congrArg lastClock hcommands) ?_
      intro hactive
      cases hinactive.symm.trans hactive
  · rw [openDevice, if_pos hs]
    exact .refl s

theorem clockStep_setSampleRate (s : Session SimulatedDevice) (rate : UInt64) :
    s.ClockStep (s.setSampleRate rate).2 none := by
  unfold setSampleRate
  split <;> exact .keeps rfl rfl id

theorem clockStep_takeMasks (s : Session SimulatedDevice) (action : SettledAction)
    (masks : Except TriggerError TriggerMasks) : s.ClockStep (s.takeMasks action masks).2 none := by
  unfold takeMasks
  split
  · exact .refl s
  · split <;> exact .keeps rfl rfl id

/-- **Choosing a clock**: a choice that fails is taken back. -/
theorem clockStep_setClockSource (s : Session SimulatedDevice) (source : ClockSource) :
    s.ClockStep (s.setClockSource source).2
      ((Operation.setClockSource source : Operation SimulatedDevice).selected?
        (.result (s.setClockSource source).1)) := by
  unfold setClockSource
  split
  · exact .refl s
  · split
    · rename_i hactive
      simp only [send, Transport.send]
      rcases hsend : s.transport.send (Command.selectClock source).frame with ⟨e | _, d⟩
      · refine .keeps rfl ?_ id
        exact congrArg lastClock (SimulatedDevice.commands_of_send_error hsend)
      · refine .selects rfl rfl ?_
        rw [if_pos hactive]
        exact SimulatedDevice.commands_of_send_ok hsend
    · rename_i hactive
      exact .selects rfl rfl (if_neg hactive).symm

theorem clockStep_setOption (s : Session SimulatedDevice) (key : OptionKey) (value : OptionValue) :
    s.ClockStep (s.setOption key value).2
      ((Operation.setOption key value : Operation SimulatedDevice).selected?
        (.result (s.setOption key value).1)) := by
  unfold setOption
  split
  · rw [Operation.selected?_of_clock? rfl]
    exact s.clockStep_setSampleRate _
  · exact .keeps rfl rfl id
  · exact s.clockStep_setClockSource _
  all_goals exact .refl s

end Session

namespace Controller

variable {σ : Type} {c c' d : Controller SimulatedDevice σ} {op : Operation SimulatedDevice}
  {answer : Answer}

/-! ## The end of a capture -/

/-- **From `c` to `c'` a capture came to its end.**  The device was told that there is no clock any
more, and accepted it or not; the session keeps the one that it has. -/
structure ShutsDown (c c' : Controller SimulatedDevice σ) : Prop where
  running : c.acquisition ≠ none
  idle : c'.acquisition = none
  status : c'.session.status = .inactive
  clock : c'.session.clockSource = c.session.clockSource
  told : c'.session.transport.commands =
      c.session.transport.commands ++ [Command.shutdown.frame] ∨
    c'.session.transport.commands = c.session.transport.commands

/-- What an operation has to do with the clock: what a setting may have, or it ends a capture. -/
def ClockStep (c c' : Controller SimulatedDevice σ) (selected : Option ClockSource) : Prop :=
  c.session.ClockStep c'.session selected ∧ (c'.acquisition = none → c.acquisition = none) ∨
    selected = none ∧ c.ShutsDown c'

theorem ClockStep.refl (c : Controller SimulatedDevice σ) : c.ClockStep c none :=
  .inl ⟨.refl c.session, id⟩

variable [Sink σ]

/-- Reads tell the device of no clock, until the last of them is back. -/
theorem clockStep_of_reads (hc : c.acquisition ≠ none)
    (hsettings : c.session.SameSettings c'.session)
    (hstatus : c'.session.status = .active → c.session.status = .active)
    (hreads : ∃ c₁ : Controller SimulatedDevice σ, (c' = c₁ ∨ c' = c₁.finishIfDrained.2) ∧
      c₁.session.transport.commands = c.session.transport.commands ∧
      (c₁.acquisition = none → c.acquisition = none)) :
    c.ClockStep c' none := by
  obtain ⟨c₁, hc', hcommands, hrunning⟩ := hreads
  have hstays (heq : c' = c₁) : c.ClockStep c' none := by
    subst heq
    exact .inl ⟨.keeps hsettings.clockSource (congrArg lastClock hcommands) hstatus, hrunning⟩
  obtain heq | heq := hc'
  · exact hstays heq
  · obtain ⟨-, hsame⟩ | ⟨a, -, -, -, hover⟩ := finishIfDrained_cases c₁
    · exact hstays (heq.trans hsame)
    · rw [hover] at heq
      have htold := c₁.session.transport.commands_send Command.shutdown.frame
      rw [hcommands] at htold
      subst heq
      exact .inr ⟨rfl, hc, rfl, rfl, hsettings.clockSource, htold.imp And.right And.right⟩

/-- **A start** tells the device of no clock, whether it works or not. -/
theorem clockStep_start {result : Except Failure Unit} (h : c.start = some (result, c')) :
    c.ClockStep c' none := by
  have hlaunched {rate : UInt64} {pool : TransferPool} {frames : List Frame} {d : SimulatedDevice}
      {launched : Except TransferError TransferPool}
      (hprepare : c.prepare rate = .ok (pool, frames))
      (hlaunch : launch c.session.transport pool frames = some (launched, d)) :
      lastClock d.commands = lastClock c.session.transport.commands := by
    have hcancel := TransferPool.cancelRequested_of_allocate (prepare_eq_ok.mp hprepare).1
    obtain ⟨-, sent, hsent, hcommands⟩ := launch_keeps hcancel hlaunch
    rw [hcommands]
    apply lastClock_append_of_others
    intro frame hframe
    exact opcode_of_prepare hprepare frame (hsent.subset hframe)
  cases result with
  | error e =>
    obtain rfl | ⟨pool, frames, e', d, hprepare, hlaunch, rfl⟩ := start_error_cases h
    · exact .refl c'
    · exact .inl ⟨.keeps rfl (hlaunched hprepare hlaunch) id, id⟩
  | ok =>
    obtain ⟨e, d, hno, -⟩ | ⟨-, -, hidle, pool, frames, pool', d, hprepare, hlaunch, rfl⟩ :=
      start_cases h
    · cases hno
    · exact .inl ⟨.keeps rfl (hlaunched hprepare hlaunch) id, fun _ => hidle⟩

/-- What reads ask of the device adds no command. -/
theorem keepsReads_commands (commands : List Frame) :
    Transport.KeepsReads fun d : SimulatedDevice => d.commands = commands where
  submit d slot buffer h := (SimulatedDevice.undisturbed_submit d slot buffer).commands.trans h
  cancelAll _ h := h

/-- Reads never make a session active. -/
theorem persists_active (s : Session SimulatedDevice) :
    Persists fun c : Controller SimulatedDevice σ =>
      c.session.status = .active → s.status = .active := by
  refine persists_session (Q := fun s' => s'.status = .active → s.status = .active)
    (fun transport h => h) ?_ ?_
  · intro s' h
    unfold Session.beginStop
    split
    · nofun
    · exact h
  · intro s' h
    nofun

theorem clockStep_requestStop (c : Controller SimulatedDevice σ) :
    c.ClockStep c.requestStop.2 none := by
  by_cases hc : c.acquisition = none
  · rw [requestStop_of_idle hc]
    exact .refl c
  · have hkeeps := keepsReads_commands c.session.transport.commands
    obtain ⟨c₁, heq, hcommands, hrunning⟩ := hkeeps.exists_of_requestStop rfl
    exact clockStep_of_reads hc ((persists_sameSettings _).requestStop (.refl _))
      ((persists_active _).requestStop id) ⟨c₁, heq, hcommands, hrunning⟩

theorem clockStep_dispatch (c : Controller SimulatedDevice σ) (event : ReadEvent) :
    c.ClockStep (c.dispatch event).2 none := by
  by_cases hc : c.acquisition = none
  · rw [dispatch_of_idle hc event]
    exact .refl c
  · have hkeeps := keepsReads_commands c.session.transport.commands
    obtain ⟨c₁, heq, hcommands, hrunning⟩ := hkeeps.exists_of_dispatch rfl event
    exact clockStep_of_reads hc ((persists_sameSettings _).dispatch (.refl _) event)
      ((persists_active _).dispatch id event)
      ⟨c₁, .inr (congrArg Prod.snd heq), hcommands, hrunning⟩

theorem clockStep_poll (c : Controller SimulatedDevice σ) : c.ClockStep c.poll.2 none := by
  by_cases hc : c.acquisition = none
  · rw [poll_of_idle hc]
    exact .refl c
  · have hkeeps := keepsReads_commands c.session.transport.commands
    obtain ⟨c₁, heq, hcommands, hrunning⟩ :=
      hkeeps.exists_of_poll (fun d h => d.commands_next.trans h) rfl
    exact clockStep_of_reads hc ((persists_sameSettings _).poll (.refl _))
      ((persists_active _).poll id) ⟨c₁, .inr (congrArg Prod.snd heq), hcommands, hrunning⟩

/-- **What any operation has to do with the clock.** -/
theorem clockStep_of_perform (hspares : op.SparesCommands)
    (hop : c.perform op = some (answer, c')) : c.ClockStep c' (op.selected? answer) := by
  cases op with
  | openDevice =>
    cases hop
    rw [Operation.selected?_of_clock? rfl]
    exact .inl ⟨c.session.clockStep_openDevice, id⟩
  | setSampleRate rate =>
    cases hop
    rw [Operation.selected?_of_clock? rfl]
    exact .inl ⟨c.session.clockStep_setSampleRate rate, id⟩
  | setClockSource source =>
    cases hop
    exact .inl ⟨c.session.clockStep_setClockSource source, id⟩
  | setOption key value =>
    cases hop
    exact .inl ⟨c.session.clockStep_setOption key value, id⟩
  | configureChannels settings =>
    cases hop
    rw [Operation.selected?_of_clock? rfl]
    exact .inl ⟨c.session.clockStep_takeMasks .., id⟩
  | configureTriggers masks =>
    cases hop
    rw [Operation.selected?_of_clock? rfl]
    exact .inl ⟨c.session.clockStep_takeMasks .., id⟩
  | start =>
    obtain ⟨⟨result, c'⟩, hstart, heq⟩ := Option.map_eq_some_iff.mp hop
    cases heq
    rw [Operation.selected?_of_clock? rfl]
    exact clockStep_start hstart
  | requestStop =>
    cases hop
    rw [Operation.selected?_of_clock? rfl]
    exact clockStep_requestStop c
  | dispatch event =>
    cases hop
    exact clockStep_dispatch c event
  | poll =>
    cases hop
    exact clockStep_poll c
  | adjust change =>
    cases hop
    exact .inl ⟨.keeps rfl (congrArg lastClock (hspares c.session.transport)) id, id⟩
  | setSampleLimit limit | setTransferPool poolSize bufferSize =>
    cases hop
    exact .inl ⟨.keeps rfl rfl id, id⟩

/-! ## The choice -/

theorem clockSource_of_perform (hspares : op.SparesCommands)
    (hop : c.perform op = some (answer, c')) :
    c'.session.clockSource = (op.selected? answer).getD c.session.clockSource := by
  obtain ⟨hstep, -⟩ | ⟨hnone, hdown⟩ := clockStep_of_perform hspares hop
  · generalize op.selected? answer = selected at hstep ⊢
    cases hstep with
    | keeps clock last status => exact clock
    | selects clock status commands => exact clock
    | opens clock was status commands => exact clock
  · rw [hnone]
    exact hdown.clock

omit [Sink σ] in
theorem getD_getLast?_selections (ops : List (Operation SimulatedDevice)) (answers : List Answer)
    (source : ClockSource) :
    (selections (op :: ops) (answer :: answers)).getLast?.getD source =
      (selections ops answers).getLast?.getD ((op.selected? answer).getD source) := by
  rw [selections, List.getLast?_append]
  cases (selections ops answers).getLast? with
  | some last => rfl
  | none => cases op.selected? answer <;> rfl

/-! ## The agreement -/

/-- **An active session and its device agree on the clock.** -/
def ClockAgrees (c : Controller SimulatedDevice σ) : Prop :=
  c.session.status = .active →
    lastClock c.session.transport.commands = some c.session.clockSource.code

theorem ClockAgrees.perform (h : c.ClockAgrees) (hspares : op.SparesCommands)
    (hop : c.perform op = some (answer, c')) : c'.ClockAgrees := by
  intro hactive
  obtain ⟨hstep, -⟩ | ⟨-, hdown⟩ := clockStep_of_perform hspares hop
  · generalize op.selected? answer = selected at hstep
    cases hstep with
    | keeps clock last status => rw [last, clock, h (status hactive)]
    | selects clock status commands =>
      rw [commands, if_pos (status.symm.trans hactive), lastClock_append_selectClock, clock]
    | opens clock was status commands => rw [commands, lastClock_append_selectClock, clock]
  · cases hdown.status.symm.trans hactive

/-! ## Until the device is brought up again -/

/-- **The device is down**, and the session keeps this clock for when it is brought up. -/
structure DownWith (source : ClockSource) (c : Controller SimulatedDevice σ) : Prop where
  acquisition : c.acquisition = none
  status : c.session.status = .inactive
  last : lastClock c.session.transport.commands = some 0
  clock : c.session.clockSource = source

/-- **Bringing the device up sends this clock**, and the session is active if the device accepts
it. -/
def OpensWith (source : ClockSource) (c : Controller SimulatedDevice σ) : Prop :=
  ∃ result c', c.perform .openDevice = some (.result result, c') ∧ c'.session.clockSource = source ∧
    (result = .ok () ∧ c'.session.status = .active ∧
        c'.session.transport.commands =
          c.session.transport.commands ++ [(Command.selectClock source).frame] ∨
      (∃ e, result = .error e) ∧ c'.session.status = .inactive ∧
        c'.session.transport.commands = c.session.transport.commands)

theorem DownWith.opensWith {source : ClockSource} (h : c.DownWith source) : c.OpensWith source := by
  obtain ⟨hclock, hsent⟩ := Session.openDevice_sends h.status
  rw [h.clock] at hclock hsent
  exact ⟨_, _, rfl, hclock, hsent⟩

omit [Sink σ] in
theorem ShutsDown.downWith (h : c.ShutsDown c')
    (haccepted : c'.session.transport.commands =
      c.session.transport.commands ++ [Command.shutdown.frame]) :
    c'.DownWith c.session.clockSource where
  acquisition := h.idle
  status := h.status
  last := by rw [haccepted]; exact lastClock_append_selectClock _ .none
  clock := h.clock

/-- **A device that is down stays so** until it is brought up. -/
theorem DownWith.perform {source : ClockSource} (h : c.DownWith source)
    (hspares : op.SparesCommands) (hop : c.perform op = some (answer, c'))
    (hunopened : op.opened answer = 0) :
    c'.DownWith ((op.selected? answer).getD source) := by
  have hdue := due_perform_of_idle h.acquisition hop
  rw [Session.due_of_inactive h.status, hunopened] at hdue
  have hinactive : c'.session.status = .inactive := by
    apply Decidable.byContradiction
    intro hup
    rw [Session.due_of_up hup] at hdue
    cases hdue
  refine ⟨?_, hinactive, ?_, h.clock ▸ clockSource_of_perform hspares hop⟩
  · obtain hidle | ⟨result, -, -, hstart⟩ := idle_of_perform h.acquisition hop
    · exact hidle
    · obtain ⟨e, transport, -, rfl⟩ | ⟨-, hactive, -⟩ := start_cases hstart
      · exact h.acquisition
      · cases h.status.symm.trans hactive
  · obtain ⟨hstep, -⟩ | ⟨-, hdown⟩ := clockStep_of_perform hspares hop
    · generalize op.selected? answer = selected at hstep
      cases hstep with
      | keeps clock last status => rw [last, h.last]
      | selects clock status commands =>
        rw [commands, if_neg (by rw [h.status]; nofun), h.last]
      | opens clock was status commands => cases hinactive.symm.trans status
    · exact absurd h.acquisition hdown.running

theorem DownWith.performAll {source : ClockSource} {ops : List (Operation SimulatedDevice)}
    {answers : List Answer} (h : c.DownWith source) (hspare : ∀ op ∈ ops, op.SparesCommands)
    (hops : c.performAll ops = some (answers, c')) (hunopened : openings ops answers = 0) :
    c'.DownWith ((selections ops answers).getLast?.getD source) := by
  induction ops generalizing c answers source with
  | nil =>
    cases hops
    exact h
  | cons op rest ih =>
    obtain ⟨answer, c₁, answers', hop, hrest, rfl⟩ := performAll_cons_eq_some.mp hops
    obtain ⟨hfirst, hothers⟩ := List.forall_mem_cons.mp hspare
    obtain ⟨hone, hnone⟩ := Nat.add_eq_zero_iff.mp hunopened
    rw [getD_getLast?_selections]
    exact ih (h.perform hfirst hop hone) hothers hrest hnone

/-- **Session and device agree on the clock.**  From a session on whose device is not up, over any
operations and with a device that refuses whatever it likes: while the session is active, the clock
that the device was told of last is that of the session.  A capture that ends leaves the choice of
the session alone.  If the device accepts that shutdown, it is the last that it is told of a clock
until it is brought up, whatever is chosen meanwhile, and what was chosen last is what it is brought
up with. -/
theorem clock_agrees (h : c.ReachableBy (fun s => s.status = .inactive) Operation.SparesCommands) :
    (c.session.status = .active →
      lastClock c.session.transport.commands = some c.session.clockSource.code) ∧
    ∀ op answer c', op.SparesCommands → c.perform op = some (answer, c') →
      c.acquisition ≠ none → c'.acquisition = none →
      c.ShutsDown c' ∧
        (c'.session.transport.commands =
            c.session.transport.commands ++ [Command.shutdown.frame] →
          ∀ ops answers d, (∀ op ∈ ops, op.SparesCommands) →
            c'.performAll ops = some (answers, d) → openings ops answers = 0 →
            d.DownWith ((selections ops answers).getLast?.getD c.session.clockSource) ∧
              d.OpensWith ((selections ops answers).getLast?.getD c.session.clockSource)) := by
  refine ⟨?_, ?_⟩
  · show c.ClockAgrees
    induction h with
    | new session sink h =>
      intro hactive
      cases h.symm.trans hactive
    | perform _ hspares hop ih => exact ih.perform hspares hop
  · intro op answer c' hspares hop hrunning hover
    have hdown : c.ShutsDown c' := by
      obtain ⟨-, hstays⟩ | ⟨-, hdown⟩ := clockStep_of_perform hspares hop
      · exact absurd (hstays hover) hrunning
      · exact hdown
    refine ⟨hdown, ?_⟩
    intro haccepted ops answers d hspare hops hunopened
    have hlast := (hdown.downWith haccepted).performAll hspare hops hunopened
    exact ⟨hlast, hlast.opensWith⟩

/-- A clock is chosen during a capture, and another one when it is over.  The device is told of the
first at once, and of the other when it is brought up. -/
theorem clock_agrees_of_late_choice :
    ∃ (ops : List (Operation SimulatedDevice)) (answers late : List Answer)
        (c d : Controller SimulatedDevice (List StreamEvent)),
      ops = [.setClockSource .internal, .setOption .externalClock (.flag true),
        .setClockSource .externalFallingEdge,
        .adjust fun d => d.failCommand Command.selectClockOpcode .stall, .openDevice] ∧
      (new (.new { model := .lwla1016 } .lwla1016) []).performAll
          [.openDevice, .setTransferPool 1 8, .start, .setClockSource .externalRisingEdge] =
        some (answers, c) ∧
      lastClock c.session.transport.commands = some 2 ∧
      c.requestStop.2.ShutsDown c.requestStop.2.poll.2 ∧
      c.requestStop.2.poll.2.performAll ops = some (late, d) ∧
      d.DownWith .externalFallingEdge ∧ d.OpensWith .externalFallingEdge := by
  obtain ⟨ops, answers, late, c, d, hlist, hops, hactive, hclock, hrunning, hover, haccepted, hlate,
      hunopened, hlast⟩ :
      ∃ (ops : List (Operation SimulatedDevice)) (answers late : List Answer)
          (c d : Controller SimulatedDevice (List StreamEvent)),
        ops = [.setClockSource .internal, .setOption .externalClock (.flag true),
          .setClockSource .externalFallingEdge,
          .adjust fun d => d.failCommand Command.selectClockOpcode .stall, .openDevice] ∧
        (new (.new { model := .lwla1016 } .lwla1016) []).performAll
            [.openDevice, .setTransferPool 1 8, .start, .setClockSource .externalRisingEdge] =
          some (answers, c) ∧
        c.session.status = .active ∧ c.session.clockSource = .externalRisingEdge ∧
        c.requestStop.2.acquisition.isSome = true ∧ c.requestStop.2.poll.2.acquisition = none ∧
        c.requestStop.2.poll.2.session.transport.commands =
          c.requestStop.2.session.transport.commands ++ [Command.shutdown.frame] ∧
        c.requestStop.2.poll.2.performAll ops = some (late, d) ∧ openings ops late = 0 ∧
        (selections ops late).getLast? = some .externalFallingEdge :=
    ⟨_, _, _, _, _, rfl, rfl, rfl, rfl, rfl, rfl, rfl, rfl, rfl, rfl⟩
  have hnew : (new (.new { model := .lwla1016 } .lwla1016) [] :
      Controller SimulatedDevice (List StreamEvent)).ReachableBy
        (fun s => s.status = .inactive) Operation.SparesCommands := .new _ _ rfl
  have hrun := hnew.performAll (by simp [Operation.SparesCommands]) hops
  have hstop : c.perform .requestStop = some (.result c.requestStop.1, c.requestStop.2) := rfl
  have hpoll : c.requestStop.2.perform .poll =
    some (.progress c.requestStop.2.poll.1, c.requestStop.2.poll.2) := rfl
  have hstopping := hrun.perform (show (Operation.requestStop).SparesCommands from trivial) hstop
  have htold := (clock_agrees hrun).1 hactive
  rw [hclock] at htold
  obtain ⟨hdown, hlater⟩ := (clock_agrees hstopping).2 .poll _ _ trivial hpoll
    (Option.isSome_iff_ne_none.mp hrunning) hover
  have hspare : ∀ op ∈ ops, op.SparesCommands := by
    rw [hlist]
    simp [Operation.SparesCommands, SimulatedDevice.failCommand]
  obtain ⟨hdownWith, hopens⟩ := hlater haccepted ops late d hspare hlate hunopened
  rw [hlast] at hdownWith hopens
  exact ⟨ops, answers, late, c, d, hlist, hops, htold, hdown, hlate, hdownWith, hopens⟩

end Controller

end LogicAnalyzer
