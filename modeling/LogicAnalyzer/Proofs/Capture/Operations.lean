import LogicAnalyzer.Capture.Controller
import LogicAnalyzer.Proofs.Session.Statuses

/-!
# Operations of a controller

Between its making and its closing a controller is driven by its owner, one operation after
another.  The owner may open the session, change its settings, start and stop captures, poll,
or take events from elsewhere and dispatch them.  He also reaches the transport, as a test does
that gives a device more to stream, so between two operations its state may become any other.

## Main definitions

* `Operation τ`: the operations
* `Controller.perform`: what an operation does
* `Controller.performAll`: what one operation after another does
* `Controller.Reachable`: the controllers that operations lead to
* `Controller.Unnoticed`: what most operations are to a capture

## Main results

* `Controller.perform_cases`: what an operation does to the capture
-/

namespace LogicAnalyzer

/-- An operation on a controller over a transport with states `τ`. -/
inductive Operation (τ : Type) where
  | openDevice
  | setSampleRate (rate : UInt64)
  | setSampleLimit (limit : UInt64)
  | setClockSource (source : ClockSource)
  | setOption (key : OptionKey) (value : OptionValue)
  | configureChannels (settings : List ChannelSetting)
  | configureTriggers (masks : TriggerMasks)
  | setTransferPool (poolSize bufferSize : Nat)
  | start
  | requestStop
  /-- Take an event from anywhere. -/
  | dispatch (event : ReadEvent)
  | poll
  /-- Do something to the transport. -/
  | adjust (change : τ → τ)

/-- What an operation answers. -/
inductive Answer where
  | result (result : Except Failure Unit)
  | progress (progress : Progress)

namespace Controller

variable {τ σ : Type} [Transport τ] [Sink σ]

/-- **What an operation does.**  There is no answer from a start that does not come back. -/
def perform (c : Controller τ σ) : Operation τ → Option (Answer × Controller τ σ)
  | .openDevice => some ((c.onSession Session.openDevice).map .result id)
  | .setSampleRate rate => some ((c.onSession (·.setSampleRate rate)).map .result id)
  | .setSampleLimit limit =>
    some ((c.onSession fun s => (.ok (), s.setSampleLimit limit)).map .result id)
  | .setClockSource source => some ((c.onSession (·.setClockSource source)).map .result id)
  | .setOption key value => some ((c.onSession (·.setOption key value)).map .result id)
  | .configureChannels settings =>
    some ((c.onSession (·.configureChannels settings)).map .result id)
  | .configureTriggers masks => some ((c.onSession (·.configureTriggers masks)).map .result id)
  | .setTransferPool poolSize bufferSize =>
    some (.result (.ok ()), c.withTransferPool poolSize bufferSize)
  | .start => c.start.map (Prod.map .result id)
  | .requestStop => some (c.requestStop.map .result id)
  | .dispatch event => some ((c.dispatch event).map .progress id)
  | .poll => some (c.poll.map .progress id)
  | .adjust change => some (.result (.ok ()), c.withTransport (change c.session.transport))

/-- What one operation after another does, with all their answers. -/
def performAll (c : Controller τ σ) : List (Operation τ) → Option (List Answer × Controller τ σ)
  | [] => some ([], c)
  | op :: rest => do
    let (answer, c) ← c.perform op
    let (answers, c) ← c.performAll rest
    return (answer :: answers, c)

/-- **The controllers that operations lead to.**  A controller is made with a session that is
up or is not; its settings may be any. -/
inductive Reachable : Controller τ σ → Prop where
  | new (session : Session τ) (sink : σ)
      (settled : session.status = .inactive ∨ session.status = .active) :
      Reachable (.new session sink)
  | perform {c c' : Controller τ σ} {op : Operation τ} {answer : Answer} :
      Reachable c → c.perform op = some (answer, c') → Reachable c'

variable {c c' : Controller τ σ}

/-! ## One operation -/

/-- The capture does not notice that `c` became `c'`. -/
structure Unnoticed (c c' : Controller τ σ) : Prop where
  acquisition : c'.acquisition = c.acquisition
  /-- The status is the same, unless the device was brought up. -/
  status : c'.session.status = c.session.status ∨
    c.session.status = .inactive ∧ c'.session.status = .active

/-- **What an operation does to the capture**: nothing, unless it starts it, asks for its end, or
takes an event. -/
theorem perform_cases {op : Operation τ} {answer : Answer}
    (hop : c.perform op = some (answer, c')) :
    c.Unnoticed c' ∨
      (∃ result, c.start = some (result, c')) ∨
      c' = c.requestStop.2 ∨
      (∃ event, answer = .progress (c.dispatch event).1 ∧ c' = (c.dispatch event).2) ∨
      (answer = .progress c.poll.1 ∧ c' = c.poll.2) := by
  cases op with
  | openDevice =>
    cases hop
    exact .inl ⟨rfl, c.session.status_openDevice⟩
  | setSampleRate rate =>
    cases hop
    exact .inl ⟨rfl, .inl (c.session.status_setSampleRate rate)⟩
  | setSampleLimit limit =>
    cases hop
    exact .inl ⟨rfl, .inl rfl⟩
  | setClockSource source =>
    cases hop
    exact .inl ⟨rfl, .inl (c.session.status_setClockSource source)⟩
  | setOption key value =>
    cases hop
    exact .inl ⟨rfl, .inl (c.session.status_setOption key value)⟩
  | configureChannels settings =>
    cases hop
    exact .inl ⟨rfl, .inl (c.session.status_takeMasks ..)⟩
  | configureTriggers masks =>
    cases hop
    exact .inl ⟨rfl, .inl (c.session.status_takeMasks ..)⟩
  | setTransferPool poolSize bufferSize =>
    cases hop
    exact .inl ⟨rfl, .inl rfl⟩
  | start =>
    obtain ⟨⟨result, c'⟩, hstart, heq⟩ := Option.map_eq_some_iff.mp hop
    cases heq
    exact .inr (.inl ⟨result, hstart⟩)
  | requestStop =>
    cases hop
    exact .inr (.inr (.inl rfl))
  | dispatch event =>
    cases hop
    exact .inr (.inr (.inr (.inl ⟨event, rfl, rfl⟩)))
  | poll =>
    cases hop
    exact .inr (.inr (.inr (.inr ⟨rfl, rfl⟩)))
  | adjust change =>
    cases hop
    exact .inl ⟨rfl, .inl rfl⟩

/-! ## One operation after another -/

theorem performAll_cons_eq_some {op : Operation τ} {rest : List (Operation τ)}
    {answers : List Answer} :
    c.performAll (op :: rest) = some (answers, c') ↔
      ∃ answer c₁ answers', c.perform op = some (answer, c₁) ∧
        c₁.performAll rest = some (answers', c') ∧ answers = answer :: answers' := by
  simp only [performAll, Option.bind_eq_bind, Option.bind_eq_some_iff, Prod.exists, Option.pure_def,
    Option.some.injEq, Prod.mk.injEq]
  constructor
  · rintro ⟨answer, c₁, hop, answers', c₂, hrest, rfl, rfl⟩
    exact ⟨answer, c₁, answers', hop, hrest, rfl⟩
  · rintro ⟨answer, c₁, answers', hop, hrest, rfl⟩
    exact ⟨answer, c₁, hop, answers', c', hrest, rfl, rfl⟩

theorem Reachable.performAll {ops : List (Operation τ)} {answers : List Answer} (h : c.Reachable)
    (hops : c.performAll ops = some (answers, c')) : c'.Reachable := by
  induction ops generalizing c answers with
  | nil =>
    cases hops
    exact h
  | cons op rest ih =>
    obtain ⟨answer, c₁, answers', hop, hrest, -⟩ := performAll_cons_eq_some.mp hops
    exact ih (h.perform hop) hrest

/-! ## Polling -/

/-- **Polling** keeps what every poll keeps. -/
theorem of_pollUntil {motive : Controller τ σ → Prop} (hpoll : ∀ c, motive c → motive c.poll.2)
    (h : motive c) (limit : Nat) : motive (pollUntil limit c).2.2 := by
  induction limit generalizing c with
  | zero => exact h
  | succ limit ih =>
    have hpolled := hpoll c h
    rw [pollUntil]
    rcases heq : c.poll with ⟨_ | _ | trailer, d⟩ <;> rw [heq] at hpolled
    · exact hpolled
    · exact ih hpolled
    · exact hpolled

end Controller

end LogicAnalyzer
