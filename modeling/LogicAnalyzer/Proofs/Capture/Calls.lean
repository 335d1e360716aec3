import LogicAnalyzer.Proofs.Capture.Operations
import LogicAnalyzer.Proofs.Capture.Recasting

/-!
# What a controller tells its transport

A controller does over a traced transport what it does over the transport itself.  So the trace
that one operation leaves, from an empty one on, is what that operation tells the transport.

## Main definitions

* `Controller.mapTransport`: a controller over another transport
* `Controller.calls`, `callsAll`, `closing`: what an operation tells the transport, what one after
  another does, and what closing does

## Main results

* `Controller.start_hom`, `poll_hom`, `run_hom`, `close_hom` and their like: where the operations of
  two transports agree, so do those of the controllers over them
* `Controller.perform_traced`: what an operation does, and what it tells the transport
-/

namespace LogicAnalyzer

variable {τ τ' σ : Type}

/-- A session over another transport. -/
def Session.mapTransport (f : τ → τ') (s : Session τ) : Session τ' :=
  { s with transport := f s.transport }

/-- A controller over another transport. -/
def Controller.mapTransport (f : τ → τ') (c : Controller τ σ) : Controller τ' σ :=
  { c with session := c.session.mapTransport f }

/-! ## Sessions do not notice -/

namespace Session

section

variable {f : τ → τ'}

theorem setSampleRate_mapTransport (s : Session τ) (rate : UInt64) :
    (s.mapTransport f).setSampleRate rate = (s.setSampleRate rate).map id (mapTransport f) := by
  unfold setSampleRate
  split <;> rfl

theorem takeMasks_mapTransport (s : Session τ) (action : SettledAction)
    (masks : Except TriggerError TriggerMasks) :
    (s.mapTransport f).takeMasks action masks =
      (s.takeMasks action masks).map id (mapTransport f) := by
  have hunsettled : (s.mapTransport f).unsettled? action = s.unsettled? action := rfl
  unfold takeMasks
  rw [hunsettled]
  split
  · rfl
  · split <;> rfl

end

variable [Transport τ] [Transport τ'] {f : τ → τ'}

theorem send_hom (hf : Transport.Hom f) (s : Session τ) (frame : Frame) :
    (s.mapTransport f).send frame = (s.send frame).map id (mapTransport f) := by
  simp only [send, mapTransport, hf.send]
  rfl

theorem openDevice_hom (hf : Transport.Hom f) (s : Session τ) :
    (s.mapTransport f).openDevice = s.openDevice.map id (mapTransport f) := by
  unfold openDevice
  simp only [send, mapTransport, hf.send]
  split
  · rfl
  · rcases Transport.send s.transport _ with ⟨_ | _, transport⟩ <;> rfl

theorem close_hom (hf : Transport.Hom f) (s : Session τ) :
    (s.mapTransport f).close = f s.close := by
  have hstatus : (s.mapTransport f).status = s.status := rfl
  unfold close
  rw [hstatus]
  split
  · rfl
  · rw [send_hom hf]
    rfl

theorem setClockSource_hom (hf : Transport.Hom f) (s : Session τ) (source : ClockSource) :
    (s.mapTransport f).setClockSource source =
      (s.setClockSource source).map id (mapTransport f) := by
  unfold setClockSource
  simp only [send, mapTransport, hf.send]
  split
  · rfl
  · split
    · rcases Transport.send s.transport _ with ⟨_ | _, transport⟩ <;> rfl
    · rfl

theorem setOption_hom (hf : Transport.Hom f) (s : Session τ) (key : OptionKey)
    (value : OptionValue) :
    (s.mapTransport f).setOption key value = (s.setOption key value).map id (mapTransport f) := by
  unfold setOption
  split
  · exact setSampleRate_mapTransport ..
  · rfl
  · exact setClockSource_hom hf ..
  all_goals rfl

end Session

/-! ## Controllers do not notice -/

namespace Controller

theorem onSession_mapTransport {α : Type} {operation : Session τ → α × Session τ}
    {operation' : Session τ' → α × Session τ'} {f : τ → τ'}
    (h : ∀ s, operation' (s.mapTransport f) = (operation s).map id (Session.mapTransport f))
    (c : Controller τ σ) :
    (c.mapTransport f).onSession operation' = (c.onSession operation).map id (mapTransport f) := by
  simp only [onSession, mapTransport, h]
  rfl

variable [Transport τ] [Transport τ'] {f : τ → τ'}

theorem sendEach_hom (hf : Transport.Hom f) (frames : List Frame) (t : τ) :
    sendEach (f t) frames = (sendEach t frames).map id f := by
  induction frames generalizing t with
  | nil => rfl
  | cons frame rest ih =>
    simp only [sendEach]
    rw [hf.send]
    rcases Transport.send t frame with ⟨_ | _, t'⟩
    · rfl
    · exact ih t'

theorem launch_hom (hf : Transport.Hom f) (t : τ) (pool : TransferPool)
    (commands : List Frame) :
    launch (f t) pool commands = (launch t pool commands).map (Prod.map id f) := by
  unfold launch
  rw [sendEach_hom hf]
  rcases sendEach t commands with ⟨_ | _, t⟩
  · rfl
  · dsimp only [Prod.map, id]
    rw [TransferPool.submitAll_hom hf.toReadHom]
    rcases pool.submitAll t with ⟨_ | _, pool, t⟩
    · dsimp only [Prod.map, id]
      rw [TransferPool.abandon_hom hf.toReadHom]
      cases pool.abandon t <;> rfl
    · rfl

theorem beginStop_hom (hf : Transport.ReadHom f) (c : Controller τ σ) (reason : EndReason) :
    (c.mapTransport f).beginStop reason = (c.beginStop reason).mapTransport f :=
  beginStop_recast (g := id) hf c reason

variable [Sink σ]

theorem start_hom (hf : Transport.Hom f) (c : Controller τ σ) :
    (c.mapTransport f).start = c.start.map (Prod.map id (mapTransport f)) := by
  have hstatus : (c.mapTransport f).session.status = c.session.status := rfl
  have hacquisition : (c.mapTransport f).acquisition = c.acquisition := rfl
  have hrate : (c.mapTransport f).session.sampleRate = c.session.sampleRate := rfl
  have hprepare (rate : UInt64) : (c.mapTransport f).prepare rate = c.prepare rate := rfl
  unfold start
  rw [hstatus, hacquisition]
  by_cases hactive : c.session.status ≠ .active
  · rw [if_pos hactive, if_pos hactive]
    rfl
  rw [if_neg hactive, if_neg hactive]
  by_cases hidle : c.acquisition.isSome = true
  · rw [if_pos hidle, if_pos hidle]
    rfl
  rw [if_neg hidle, if_neg hidle]
  simp only [hrate, hprepare]
  rcases c.prepare _ with e | ⟨pool, commands⟩
  · rfl
  · have hlaunch := launch_hom hf c.session.transport pool commands
    simp only [mapTransport, Session.mapTransport] at hlaunch ⊢
    rw [hlaunch, Option.map_map, Option.map_map]
    congr 1
    funext launched
    rcases launched with ⟨_ | _, transport⟩ <;> rfl

theorem requestStop_hom (hf : Transport.Hom f) (c : Controller τ σ) :
    (c.mapTransport f).requestStop = c.requestStop.map id (mapTransport f) :=
  requestStop_recast (g := id) hf c

/-- **What a poll comes to** before it is looked whether the capture is over.  Up to there only
reads matter. -/
theorem exists_poll_hom (hf : Transport.ReadHom f) (c : Controller τ σ) :
    ∃ c₁ : Controller τ σ, c.poll = c₁.finishIfDrained ∧
      (c.mapTransport f).poll = (c₁.mapTransport f).finishIfDrained :=
  exists_poll_recast hf id c

theorem dispatch_hom (hf : Transport.Hom f) (c : Controller τ σ) (event : ReadEvent) :
    (c.mapTransport f).dispatch event = (c.dispatch event).map id (mapTransport f) :=
  dispatch_recast (g := id) hf c event

theorem poll_hom (hf : Transport.Hom f) (c : Controller τ σ) :
    (c.mapTransport f).poll = c.poll.map id (mapTransport f) :=
  poll_recast (g := id) hf c

theorem pollUntil_hom (hf : Transport.Hom f) (limit : Nat) (c : Controller τ σ) :
    pollUntil limit (c.mapTransport f) =
      (pollUntil limit c).map id (Prod.map id (mapTransport f)) := by
  induction limit generalizing c with
  | zero => rfl
  | succ limit ih =>
    simp only [pollUntil]
    rw [poll_hom hf]
    rcases c.poll with ⟨_ | _ | trailer, c⟩
    · rfl
    · simp only [Prod.map, id, ih]
    · rfl

theorem run_hom (hf : Transport.Hom f) (c : Controller τ σ) :
    (c.mapTransport f).run = c.run.map (Prod.map id (mapTransport f)) := by
  refine loop_map (mapTransport f) (Prod.map id (mapTransport f)) ?_ c
  intro c
  unfold runNext
  rw [poll_hom hf]
  rcases c.poll with ⟨_ | _ | trailer, d⟩
  · have htrailer : (d.mapTransport f).lastTrailer = d.lastTrailer := rfl
    simp only [Prod.map, id, htrailer]
    split <;> rfl
  · rfl
  · rfl

theorem close_hom (hf : Transport.Hom f) (c : Controller τ σ) :
    (c.mapTransport f).close = c.close.map f id := by
  have hclosed (c : Controller τ σ) :
      ((c.mapTransport f).session.close, (c.mapTransport f).sink) =
        (c.session.close, c.sink).map f id := by
    simp only [mapTransport]
    rw [Session.close_hom hf]
    rfl
  have hacquiring : (c.mapTransport f).isAcquiring = c.isAcquiring := rfl
  unfold close
  rw [hacquiring]
  split
  · rw [beginStop_hom hf.toReadHom, pollUntil_hom hf]
    exact hclosed _
  · exact hclosed c

end Controller

/-- The same operation on a traced transport: the trace is out of reach of its owner. -/
def Operation.traced : Operation τ → Operation (Traced τ)
  | .openDevice => .openDevice
  | .setSampleRate rate => .setSampleRate rate
  | .setSampleLimit limit => .setSampleLimit limit
  | .setClockSource source => .setClockSource source
  | .setOption key value => .setOption key value
  | .configureChannels settings => .configureChannels settings
  | .configureTriggers masks => .configureTriggers masks
  | .setTransferPool poolSize bufferSize => .setTransferPool poolSize bufferSize
  | .start => .start
  | .requestStop => .requestStop
  | .dispatch event => .dispatch event
  | .poll => .poll
  | .adjust change => .adjust fun t => { t with inner := change t.inner }

namespace Controller

variable [Transport τ] [Sink σ]

/-- **Controllers do not notice** that their transport is traced. -/
theorem perform_inner (c : Controller (Traced τ) σ) (op : Operation τ) :
    (c.mapTransport Traced.inner).perform op =
      (c.perform op.traced).map (Prod.map id (mapTransport Traced.inner)) := by
  have hf := Traced.inner_hom (τ := τ)
  have hsession {operation : Session (Traced τ) → Except Failure Unit × Session (Traced τ)}
      {operation' : Session τ → Except Failure Unit × Session τ}
      (h : ∀ s, operation' (s.mapTransport Traced.inner) =
        (operation s).map id (Session.mapTransport Traced.inner)) :
      some (((c.mapTransport Traced.inner).onSession operation').map Answer.result id) =
        (some ((c.onSession operation).map Answer.result id)).map
          (Prod.map id (mapTransport Traced.inner)) := by
    rw [onSession_mapTransport h]
    rfl
  cases op with
  | openDevice => exact hsession (Session.openDevice_hom hf)
  | setSampleRate rate => exact hsession fun s => s.setSampleRate_mapTransport rate
  | setSampleLimit limit => rfl
  | setClockSource source => exact hsession fun s => s.setClockSource_hom hf source
  | setOption key value => exact hsession fun s => s.setOption_hom hf key value
  | configureChannels settings => exact hsession fun s => s.takeMasks_mapTransport _ _
  | configureTriggers masks => exact hsession fun s => s.takeMasks_mapTransport _ _
  | setTransferPool poolSize bufferSize => rfl
  | start =>
    simp only [perform, Operation.traced, start_hom hf, Option.map_map]
    rfl
  | requestStop =>
    simp only [perform, Operation.traced, requestStop_hom hf]
    rfl
  | dispatch event =>
    simp only [perform, Operation.traced, dispatch_hom hf]
    rfl
  | poll =>
    simp only [perform, Operation.traced, poll_hom hf]
    rfl
  | adjust change => rfl

/-- The controller, with a new trace of its transport. -/
def traced (c : Controller τ σ) : Controller (Traced τ) σ := c.mapTransport fun t => ⟨t, []⟩

/-- **What an operation tells the transport**, in order. -/
def calls (c : Controller τ σ) (op : Operation τ) : List Call :=
  ((c.traced.perform op.traced).map fun done => done.2.session.transport.calls).getD []

/-- The controller, with a trace of its transport that has these calls already. -/
def withTrace (c : Controller τ σ) (calls : List Call) : Controller (Traced τ) σ :=
  c.mapTransport fun t => ⟨t, calls⟩

/-- **What one operation after another tells the transport**, in order. -/
def callsAll (c : Controller τ σ) : List (Operation τ) → List Call
  | [] => []
  | op :: rest => c.calls op ++ ((c.perform op).map fun done => done.2.callsAll rest).getD []

/-- **What closing tells the transport**, in order. -/
def closing (c : Controller τ σ) : List Call := c.traced.close.1.calls

variable {c c' : Controller τ σ}

theorem callsAll_cons {op : Operation τ} {answer : Answer} (hop : c.perform op = some (answer, c'))
    (rest : List (Operation τ)) : c.callsAll (op :: rest) = c.calls op ++ c'.callsAll rest := by
  rw [callsAll, hop]
  rfl

/-- What closing gives back is seen on the traced transport. -/
theorem close_traced (c : Controller τ σ) : c.close = (c.traced.close.1.inner, c.traced.close.2) :=
  close_hom Traced.inner_hom c.traced

/-- What an operation does is seen on the traced transport, and there is its trace. -/
theorem perform_traced {op : Operation τ} {answer : Answer}
    (hop : c.perform op = some (answer, c')) :
    ∃ d : Controller (Traced τ) σ, c.traced.perform op.traced = some (answer, d) ∧
      d.mapTransport Traced.inner = c' ∧ d.session.transport.calls = c.calls op := by
  have hinner : c.traced.mapTransport Traced.inner = c := rfl
  rw [← hinner, perform_inner] at hop
  obtain ⟨⟨answer', d⟩, hd, heq⟩ := Option.map_eq_some_iff.mp hop
  cases heq
  refine ⟨d, hd, rfl, ?_⟩
  simp only [calls, hd, Option.map_some, Option.getD_some]

/-- **What a poll tells the transport** is added to the trace. -/
theorem poll_withTrace (c : Controller τ σ) (calls : List Call) :
    (c.withTrace calls).poll = (c.poll.1, c.poll.2.withTrace (calls ++ c.calls .poll)) := by
  let before : Traced τ → Traced τ := fun t => ⟨t.inner, calls ++ t.calls⟩
  have hbefore : Transport.Hom before :=
    { send := fun _ _ => congrArg (Prod.mk _) (congrArg (Traced.mk _) (List.append_assoc ..))
      submit := fun _ _ _ =>
        congrArg (Prod.mk _) (congrArg (Traced.mk _) (List.append_assoc ..))
      cancelAll := fun _ => congrArg (Traced.mk _) (List.append_assoc ..)
      next := fun _ => congrArg (Prod.mk _) (congrArg (Traced.mk _) (List.append_assoc ..))
      forget := fun _ => congrArg (Traced.mk _) (List.append_assoc ..) }
  have hop : c.perform .poll = some (.progress c.poll.1, c.poll.2) := rfl
  obtain ⟨d, hd, hinner, hcalls⟩ := perform_traced hop
  have hpoll : c.traced.poll = (c.poll.1, d) := by
    simp only [perform, Operation.traced, Prod.map, Option.some.injEq, Prod.mk.injEq,
      Answer.progress.injEq] at hd
    exact Prod.ext hd.1 hd.2
  have hstart : c.withTrace calls = c.traced.mapTransport before := by
    simp only [withTrace, traced, mapTransport, Session.mapTransport, before, List.append_nil]
  rw [hstart, poll_hom hbefore, hpoll, ← hinner, ← hcalls]
  rfl

end Controller

end LogicAnalyzer
