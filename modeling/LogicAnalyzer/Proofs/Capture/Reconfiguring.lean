import LogicAnalyzer.Proofs.Capture.Genuine
import LogicAnalyzer.Proofs.Capture.Recasting
import LogicAnalyzer.Proofs.Device.Guises

/-!
# Settings during a capture

Settings can be made at any time, and while a capture is running they drift away from those that it
was started with.  A choice of the clock is told to the device, which adds it to its commands or
counts a refusal.  The capture sees neither: two runs with the same polls, requests to stop and
bytes to stream go alike, whatever is set in the course of them.

## Main definitions

* `Operation.isSetting`: the operations that set something
* `heard`: what the other operations answer
* `Controller.bare`: a controller without its settings, over a device without its commands

## Main results

* `Controller.perform_bare`: other operations do not notice that both are missing
* `Controller.bare_of_setting`: settings change nothing else
* `Controller.settings_unnoticed`: two runs that differ in their settings go alike
-/

namespace LogicAnalyzer

/-! ## Settings and other operations -/

namespace Operation

variable {τ : Type}

/-- Whether an operation sets something for the next capture. -/
def isSetting : Operation τ → Bool
  | setSampleRate _ | setSampleLimit _ | setClockSource _ | setOption _ _ | configureChannels _
  | configureTriggers _ => true
  | _ => false

end Operation

/-- **What other operations answer.** -/
def heard {τ : Type} : List (Operation τ) → List Answer → List Answer
  | op :: ops, answer :: answers =>
    if op.isSetting then heard ops answers else answer :: heard ops answers
  | _, _ => []

namespace SimulatedDevice

/-- The device, but it has not heard a command. -/
def withoutCommands (d : SimulatedDevice) : SimulatedDevice :=
  { d with commands := [], refusedCommands := 0 }

theorem withoutCommands_send (d : SimulatedDevice) (frame : Frame) :
    (d.send frame).2.withoutCommands = d.withoutCommands := by
  unfold send
  split <;> rfl

theorem readHom_withoutCommands : Transport.ReadHom withoutCommands :=
  readHom_mapCommands (fun _ => []) (fun _ => 0) id

end SimulatedDevice

/-- **An operation that continues a capture**: neither does it bring the device up, nor start
another one.  What it does to the device behind the controller's back has to do neither with the
commands that this accepted nor with those that it refused. -/
def Operation.Continues : Operation SimulatedDevice → Prop
  | .openDevice | .start => False
  | .adjust change =>
    ∀ d : SimulatedDevice, (change d.withoutCommands).withoutCommands = (change d).withoutCommands
  | _ => True

/-- Queueing bytes is such an operation. -/
theorem Operation.continues_queue (bytes : List UInt8) :
    (Operation.adjust fun d => d.queue bytes).Continues := fun _ => rfl

/-! ## Sessions -/

namespace Session

variable {s s' : Session SimulatedDevice}

/-- **The session without its settings**, over the device without its commands. -/
def bare (s : Session SimulatedDevice) : Session SimulatedDevice :=
  s.recast SimulatedDevice.withoutCommands fun _ => ⟨none, 0, .internal, {}⟩

theorem bare_congr (htransport : s'.transport.withoutCommands = s.transport.withoutCommands)
    (hmodel : s'.model = s.model) (hstatus : s'.status = s.status) : s'.bare = s.bare := by
  simp only [bare, recast, htransport, hmodel, hstatus]

theorem bare_setSampleRate (s : Session SimulatedDevice) (rate : UInt64) :
    (s.setSampleRate rate).2.bare = s.bare := by
  unfold setSampleRate
  split <;> rfl

theorem bare_takeMasks (s : Session SimulatedDevice) (action : SettledAction)
    (masks : Except TriggerError TriggerMasks) : (s.takeMasks action masks).2.bare = s.bare := by
  unfold takeMasks
  split
  · rfl
  · split <;> rfl

/-- The device may be told of the clock, and accept it or not. -/
theorem bare_setClockSource (s : Session SimulatedDevice) (source : ClockSource) :
    (s.setClockSource source).2.bare = s.bare := by
  unfold setClockSource
  split
  · rfl
  · split
    · have htold := s.transport.withoutCommands_send (Command.selectClock source).frame
      simp only [send, Transport.send]
      rcases hsend : s.transport.send (Command.selectClock source).frame with ⟨_ | _, d⟩
      all_goals
        rw [hsend] at htold
        exact bare_congr htold rfl rfl
    · rfl

theorem bare_setOption (s : Session SimulatedDevice) (key : OptionKey) (value : OptionValue) :
    (s.setOption key value).2.bare = s.bare := by
  unfold setOption
  split
  · exact s.bare_setSampleRate _
  · rfl
  · exact s.bare_setClockSource _
  all_goals rfl

end Session

namespace Controller

variable {σ : Type} {c c₀ c' : Controller SimulatedDevice σ} {op : Operation SimulatedDevice}
  {answer : Answer}

/-- **The controller without its settings**, over the device without its commands. -/
def bare (c : Controller SimulatedDevice σ) : Controller SimulatedDevice σ :=
  { c with session := c.session.bare }

variable [Sink σ]

/-! ## One operation -/

/-- **A setting changes nothing else.** -/
theorem bare_of_setting (hsetting : op.isSetting = true) (hop : c.perform op = some (answer, c')) :
    c'.bare = c.bare := by
  have hsession {session : Session SimulatedDevice} (h : session.bare = c.session.bare) :
      bare { c with session } = c.bare := by
    simp only [bare, h]
  cases op with
  | setSampleRate rate =>
    cases hop
    exact hsession (c.session.bare_setSampleRate rate)
  | setSampleLimit limit =>
    cases hop
    exact hsession rfl
  | setClockSource source =>
    cases hop
    exact hsession (c.session.bare_setClockSource source)
  | setOption key value =>
    cases hop
    exact hsession (c.session.bare_setOption key value)
  | configureChannels settings =>
    cases hop
    exact hsession (c.session.bare_takeMasks ..)
  | configureTriggers masks =>
    cases hop
    exact hsession (c.session.bare_takeMasks ..)
  | _ => cases hsetting

/-- The end of a capture does not notice what is missing, though it is one more command. -/
theorem finishIfDrained_bare (c : Controller SimulatedDevice σ) :
    c.bare.finishIfDrained.map id bare = c.finishIfDrained.map id bare := by
  rcases c with ⟨session, sink, _ | a, trailer, poolSize, bufferSize⟩
  · rfl
  · simp only [finishIfDrained, bare]
    split
    · have hsent (d : SimulatedDevice) := d.withoutCommands_send Command.shutdown.frame
      have hover : (session.bare.send Command.shutdown.frame).2.finishStop.bare =
          (session.send Command.shutdown.frame).2.finishStop.bare :=
        Session.bare_congr ((hsent session.bare.transport).trans (hsent session.transport).symm)
          rfl rfl
      exact congrArg
        (fun session => (_, (⟨session, _, none, _, poolSize, bufferSize⟩ : Controller _ σ))) hover
    · rfl

/-- **Other operations do not notice** what is missing. -/
theorem perform_bare (hcontinues : op.Continues) (hother : op.isSetting = false)
    (c : Controller SimulatedDevice σ) :
    (c.bare.perform op).map (Prod.map id bare) = (c.perform op).map (Prod.map id bare) := by
  have hreads := SimulatedDevice.readHom_withoutCommands
  let unset : Settings → Settings := fun _ => ⟨none, 0, .internal, {}⟩
  cases op with
  | setTransferPool poolSize bufferSize => rfl
  | requestStop =>
    obtain ⟨e, heq, heq'⟩ | ⟨c₁, heq, heq'⟩ := requestStop_recast_cases hreads unset c
    · have hbare : c.bare.requestStop = (.error e, c.bare) := heq'
      simp only [perform, heq, hbare]
      rfl
    · have hbare : c.bare.requestStop = (.ok (), c₁.bare.finishIfDrained.2) := heq'
      have hend := congrArg Prod.snd (finishIfDrained_bare c₁)
      simp only [perform, heq, hbare]
      exact congrArg (fun d => some (Answer.result (.ok ()), d)) hend
  | dispatch event =>
    obtain ⟨c₁, heq, heq'⟩ := exists_dispatch_recast hreads unset c event
    have hbare : c.bare.dispatch event = c₁.bare.finishIfDrained := heq'
    simp only [perform, heq, hbare]
    exact congrArg (fun done => some (done.map Answer.progress id)) (finishIfDrained_bare c₁)
  | poll =>
    obtain ⟨c₁, heq, heq'⟩ := exists_poll_recast hreads unset c
    have hbare : c.bare.poll = c₁.bare.finishIfDrained := heq'
    simp only [perform, heq, hbare]
    exact congrArg (fun done => some (done.map Answer.progress id)) (finishIfDrained_bare c₁)
  | adjust change =>
    have hsame : { c.bare.session with transport := change c.bare.session.transport }.bare =
        { c.session with transport := change c.session.transport }.bare :=
      Session.bare_congr (hcontinues c.session.transport) rfl rfl
    exact congrArg (fun session => some (Answer.result (.ok ()), { c with session })) hsame
  | openDevice | start => cases hcontinues
  | _ => cases hother

/-! ## Two runs -/

/-- **A run with its settings left out** gives the same answers, from a controller that differs in
what settings change. -/
theorem performAll_without_settings {ops : List (Operation SimulatedDevice)}
    (hcontinue : ∀ op ∈ ops, op.Continues) (hbare : c₀.bare = c.bare) :
    ∃ answers c' c₀', c.performAll ops = some (answers, c') ∧
      c₀.performAll (ops.filter (!·.isSetting)) = some (heard ops answers, c₀') ∧
      c₀'.bare = c'.bare := by
  induction ops generalizing c c₀ with
  | nil => exact ⟨[], c, c₀, rfl, rfl, hbare⟩
  | cons op rest ih =>
    obtain ⟨hfirst, hothers⟩ := List.forall_mem_cons.mp hcontinue
    obtain ⟨answer, c₁, hop⟩ := exists_perform c op
    cases hsetting : op.isSetting with
    | true =>
      have hbare₁ := hbare.trans (bare_of_setting hsetting hop).symm
      obtain ⟨answers, c', c₀', hrest, hrest₀, hlast⟩ := ih hothers hbare₁
      refine ⟨answer :: answers, c', c₀', ?_, ?_, hlast⟩
      · exact performAll_cons_eq_some.mpr ⟨answer, c₁, answers, hop, hrest, rfl⟩
      · rw [List.filter_cons_of_neg (by simp [hsetting]), heard, if_pos hsetting]
        exact hrest₀
    | false =>
      obtain ⟨answer₀, c₀₁, hop₀⟩ := exists_perform c₀ op
      have hstep := perform_bare hfirst hsetting c₀
      rw [hbare, perform_bare hfirst hsetting c, hop, hop₀] at hstep
      obtain ⟨rfl, hbare₁⟩ : answer = answer₀ ∧ c₁.bare = c₀₁.bare := by simpa using hstep
      obtain ⟨answers, c', c₀', hrest, hrest₀, hlast⟩ := ih hothers hbare₁.symm
      refine ⟨answer :: answers, c', c₀', ?_, ?_, hlast⟩
      · exact performAll_cons_eq_some.mpr ⟨answer, c₁, answers, hop, hrest, rfl⟩
      · rw [List.filter_cons_of_pos (by simp [hsetting]), heard, if_neg (by simp [hsetting])]
        exact performAll_cons_eq_some.mpr ⟨answer, c₀₁, _, hop₀, hrest₀, rfl⟩

/-- **What two runs have in common** that differ in their settings. -/
structure SameCapture (c c' : Controller SimulatedDevice σ) : Prop where
  sink : c'.sink = c.sink
  acquisition : c'.acquisition = c.acquisition
  lastTrailer : c'.lastTrailer = c.lastTrailer
  status : c'.session.status = c.session.status
  stream : c'.session.transport.stream = c.session.transport.stream
  pending : c'.session.transport.pending = c.session.transport.pending

omit [Sink σ] in
theorem sameCapture_of_bare (h : c'.bare = c.bare) : c.SameCapture c' where
  sink := congrArg (·.sink) h
  acquisition := congrArg (·.acquisition) h
  lastTrailer := congrArg (·.lastTrailer) h
  status := congrArg (·.session.status) h
  stream := congrArg (·.session.transport.stream) h
  pending := congrArg (·.session.transport.pending) h

/-- **Settings during a capture do not touch it.**  Take any two runs from one controller over the
simulated device that poll, request stops, take events and do things to the device alike, but make
different settings at different moments, whether these work or fail.  Both come back.  But for the
settings all answers are the same, the same has been delivered to the sink, and the capture stands
where it stands in the other run.  This holds at every moment, and so of a capture up to its end. -/
theorem settings_unnoticed (c : Controller SimulatedDevice σ)
    {ops ops' : List (Operation SimulatedDevice)}
    (hops : ∀ op ∈ ops, op.Continues) (hops' : ∀ op ∈ ops', op.Continues)
    (hsame : ops.filter (!·.isSetting) = ops'.filter (!·.isSetting)) :
    ∃ answers answers' d d', c.performAll ops = some (answers, d) ∧
      c.performAll ops' = some (answers', d') ∧ heard ops answers = heard ops' answers' ∧
      d.SameCapture d' := by
  obtain ⟨answers, d, d₀, hrun, hrun₀, hlast⟩ := performAll_without_settings hops (Eq.refl c.bare)
  obtain ⟨answers', d', d₀', hrun', hrun₀', hlast'⟩ :=
    performAll_without_settings hops' (Eq.refl c.bare)
  -- with the settings left out they are the same run
  rw [hsame, hrun₀'] at hrun₀
  obtain ⟨hheard, rfl⟩ : heard ops' answers' = heard ops answers ∧ d₀' = d₀ := by
    simpa using hrun₀
  exact ⟨answers, answers', d, d', hrun, hrun', hheard.symm,
    sameCapture_of_bare (hlast'.symm.trans hlast)⟩

/-- A capture that has some bytes to read and is then stopped.  In the other run the clock is
changed, in vain and then with success, and limit, rate and channels are too. -/
theorem settings_unnoticed_of_drifting_settings :
    ∃ (ops ops' : List (Operation SimulatedDevice)) (started answers answers' : List Answer)
        (c d d' : Controller SimulatedDevice (List StreamEvent)),
      ops = [.adjust fun d => d.queue [1, 2, 3, 4, 5], .poll, .requestStop, .poll] ∧
      ops' = [.setClockSource .none, .adjust fun d => d.queue [1, 2, 3, 4, 5], .setSampleLimit 1,
        .setClockSource .externalRisingEdge, .poll, .setOption .sampleRate (.word 1000),
        .configureTriggers {}, .requestStop, .setClockSource .internal, .poll] ∧
      (new (.new { model := .lwla1016 } .lwla1016) []).performAll
        [.openDevice, .setTransferPool 1 8, .start] = some (started, c) ∧
      c.performAll ops = some (answers, d) ∧ c.performAll ops' = some (answers', d') ∧
      heard ops answers = heard ops' answers' ∧ d.SameCapture d' := by
  obtain ⟨started, c, hstart⟩ :
      ∃ (started : List Answer) (c : Controller SimulatedDevice (List StreamEvent)),
        (new (.new { model := .lwla1016 } .lwla1016) []).performAll
          [.openDevice, .setTransferPool 1 8, .start] = some (started, c) := ⟨_, _, rfl⟩
  have hqueue := Operation.continues_queue [1, 2, 3, 4, 5]
  have hplain : ∀ op ∈ [.adjust fun d => d.queue [1, 2, 3, 4, 5], .poll, .requestStop, .poll],
      Operation.Continues op := by
    simpa [Operation.Continues] using hqueue
  have hdrifting : ∀ op ∈ [.setClockSource .none, .adjust fun d => d.queue [1, 2, 3, 4, 5],
        .setSampleLimit 1, .setClockSource .externalRisingEdge, .poll,
        .setOption .sampleRate (.word 1000), .configureTriggers {}, .requestStop,
        .setClockSource .internal, .poll],
      Operation.Continues op := by
    simpa [Operation.Continues] using hqueue
  obtain ⟨answers, answers', d, d', hrun, hrun', hheard, hsame⟩ :=
    settings_unnoticed c hplain hdrifting rfl
  exact ⟨_, _, started, answers, answers', c, d, d', rfl, rfl, hstart, hrun, hrun', hheard, hsame⟩

end Controller

end LogicAnalyzer
