import LogicAnalyzer.Proofs.Capture.Calls
import LogicAnalyzer.Proofs.Capture.Lifecycle
import LogicAnalyzer.Proofs.Session.Clocks
import LogicAnalyzer.Proofs.Transfer.Ledger

/-!
# Captures under way

A capture is under way from the operation that started it, over others, as long as it is running.
On its way it is noted when the transport takes a buffer, when the pool accepts a report, and when
the device is shut down.

## Main definitions

* `Controller.ReachableBy`: the controllers that some operations lead to
* `Controller.notes`: what is noted of a capture in one operation
* `Controller.Underway`: a capture that is running, with what was noted since its start

## Main results

* `Controller.performs_of_perform`: what an operation does
* `Controller.ReachableBy.exists_underway`: every capture that is running is under way
-/

namespace LogicAnalyzer

variable {τ σ : Type}

/-- **A session between captures**: it is up or is not, and its clock can be chosen. -/
structure Session.AtRest (s : Session τ) : Prop where
  settled : s.status = .inactive ∨ s.status = .active
  clock : s.clockSource ≠ .none

/-- From `s` to `s'` no setting was made. -/
def Session.SameSettings (s s' : Session τ) : Prop :=
  ∃ transport status, s' = { s with transport, status }

namespace Session.SameSettings

variable {s s' s'' : Session τ}

theorem refl (s : Session τ) : s.SameSettings s := ⟨s.transport, s.status, rfl⟩

theorem trans (h : s.SameSettings s') (h' : s'.SameSettings s'') : s.SameSettings s'' := by
  obtain ⟨transport, status, rfl⟩ := h
  obtain ⟨transport', status', rfl⟩ := h'
  exact ⟨transport', status', rfl⟩

theorem withTransport (s : Session τ) (transport : τ) : s.SameSettings { s with transport } :=
  ⟨transport, s.status, rfl⟩

theorem beginStop (s : Session τ) : s.SameSettings s.beginStop := by
  unfold Session.beginStop
  split
  · exact ⟨s.transport, .stopping, rfl⟩
  · exact refl s

theorem finishStop (s : Session τ) : s.SameSettings s.finishStop := ⟨s.transport, .inactive, rfl⟩

theorem clockSource (h : s.SameSettings s') : s'.clockSource = s.clockSource := by
  obtain ⟨transport, status, rfl⟩ := h
  rfl

end Session.SameSettings

namespace Controller

theorem isAcquiring_iff {c : Controller τ σ} :
    c.isAcquiring = true ↔ ∃ a, c.acquisition = some a := Option.isSome_iff_exists

theorem isStopping_iff {c : Controller τ σ} :
    c.isStopping = true ↔ ∃ a, c.acquisition = some a ∧ a.stopping = true := by
  rw [isStopping, Option.any_eq_true]

theorem isAcquiring_eq_false {c : Controller τ σ} :
    c.isAcquiring = false ↔ c.acquisition = none := by
  simp [isAcquiring]

variable [Transport τ]

/-! ## Events -/

/-- The event that an operation takes. -/
def event? (c : Controller τ σ) : Operation τ → Option ReadEvent
  | .dispatch event => some event
  | .poll => (Transport.next c.session.transport).1
  | _ => none

/-- What is noted of the event that an operation takes: it counts if the pool accepts it. -/
def acceptance (c : Controller τ σ) (op : Operation τ) : List Moment :=
  match c.acquisition, c.event? op with
  | some a, some event => if (a.pool.accept event).1.isSome then event.notes else []
  | _, _ => []

section

variable {c : Controller τ σ} {op : Operation τ} {a : Acquisition} {event : ReadEvent}

theorem acceptance_of_inFlight (hc : c.acquisition = some a) (hevent : c.event? op = some event)
    (hslot : a.pool.slots[event.slot]? = some .inFlight) : c.acceptance op = event.notes := by
  simp only [acceptance, hc, hevent, TransferPool.accept_of_inFlight hslot, Option.isSome_some,
    if_true]

theorem acceptance_of_not_inFlight (hc : c.acquisition = some a)
    (hevent : c.event? op = some event) (hslot : a.pool.slots[event.slot]? ≠ some .inFlight) :
    c.acceptance op = [] := by
  simp only [acceptance, hc, hevent, TransferPool.accept_of_not_inFlight hslot, Option.isSome_none,
    Bool.false_eq_true, if_false]

theorem acceptance_of_none (hevent : c.event? op = none) : c.acceptance op = [] := by
  unfold acceptance
  rw [hevent]
  cases c.acquisition <;> rfl

theorem shutdown_notMem_acceptance (c : Controller τ σ) (op : Operation τ) :
    .shutdown ∉ c.acceptance op := by
  unfold acceptance
  split
  · split
    · unfold ReadEvent.notes
      split <;> simp
    · exact List.not_mem_nil
  · exact List.not_mem_nil

/-- The trace of the transport does not matter for it. -/
theorem acceptance_traced (c : Controller τ σ) (op : Operation τ) :
    c.traced.acceptance op.traced = c.acceptance op := by
  cases op <;> rfl

end

variable [Sink σ]

/-! ## Runs -/

/-- **The controllers that some operations lead to**, from sessions of some kind on. -/
inductive ReachableBy (initial : Session τ → Prop) (allowed : Operation τ → Prop) :
    Controller τ σ → Prop where
  | new (session : Session τ) (sink : σ) (h : initial session) :
      ReachableBy initial allowed (.new session sink)
  | perform {c c' : Controller τ σ} {op : Operation τ} {answer : Answer} :
      ReachableBy initial allowed c → allowed op → c.perform op = some (answer, c') →
        ReachableBy initial allowed c'

/-- **What is noted of a capture in one operation.**  A report is accepted before the transport
hears of it. -/
def notes (c : Controller τ σ) (op : Operation τ) : List Moment :=
  c.acceptance op ++ moments (c.calls op)

/-- **A capture under way**: it was started from `c₀`, is running in `c`, and on the way this was
noted of it. -/
inductive Underway (allowed : Operation τ → Prop) (c₀ : Controller τ σ) :
    List Moment → Controller τ σ → Prop where
  | start {c : Controller τ σ} : c₀.perform .start = some (.result (.ok ()), c) →
      Underway allowed c₀ (c₀.notes .start) c
  | perform {notes : List Moment} {c c' : Controller τ σ} {op : Operation τ} {answer : Answer} :
      Underway allowed c₀ notes c → allowed op → c.perform op = some (answer, c') →
        c'.isAcquiring = true → Underway allowed c₀ (notes ++ c.notes op) c'

/-! ## Operations -/

/-- What an operation does. -/
inductive Performs (c : Controller τ σ) : Operation τ → Answer → Controller τ σ → Prop where
  | tunes {op : Operation τ} {answer : Answer} {session : Session τ} (event : c.event? op = none)
      (tuned : c.session.Tuned session) : Performs c op answer { c with session }
  | resizes {answer : Answer} (poolSize bufferSize : Nat) :
      Performs c (.setTransferPool poolSize bufferSize) answer
        (c.withTransferPool poolSize bufferSize)
  | adjusts {answer : Answer} (change : τ → τ) :
      Performs c (.adjust change) answer (c.withTransport (change c.session.transport))
  | starts {result : Except Failure Unit} {c' : Controller τ σ}
      (hstart : c.start = some (result, c')) : Performs c .start (.result result) c'
  | requestsStop : Performs c .requestStop (.result c.requestStop.1) c.requestStop.2
  | dispatches (event : ReadEvent) :
      Performs c (.dispatch event) (.progress (c.dispatch event).1) (c.dispatch event).2
  | polls : Performs c .poll (.progress c.poll.1) c.poll.2

variable {c c' : Controller τ σ} {op : Operation τ} {answer : Answer}

/-- **What an operation does**, by what it is. -/
theorem performs_of_perform (hop : c.perform op = some (answer, c')) : c.Performs op answer c' := by
  cases op with
  | openDevice =>
    cases hop
    exact .tunes rfl Session.tuned_openDevice
  | setSampleRate rate =>
    cases hop
    exact .tunes rfl (Session.tuned_setSampleRate rate)
  | setSampleLimit limit =>
    cases hop
    exact .tunes rfl (.of_eq rfl rfl)
  | setClockSource source =>
    cases hop
    exact .tunes rfl (Session.tuned_setClockSource source)
  | setOption key value =>
    cases hop
    exact .tunes rfl (Session.tuned_setOption key value)
  | configureChannels settings =>
    cases hop
    exact .tunes rfl (Session.tuned_takeMasks ..)
  | configureTriggers masks =>
    cases hop
    exact .tunes rfl (Session.tuned_takeMasks ..)
  | setTransferPool poolSize bufferSize =>
    cases hop
    exact .resizes poolSize bufferSize
  | start =>
    obtain ⟨⟨result, c'⟩, hstart, heq⟩ := Option.map_eq_some_iff.mp hop
    cases heq
    exact .starts hstart
  | requestStop =>
    cases hop
    exact .requestsStop
  | dispatch event =>
    cases hop
    exact .dispatches event
  | poll =>
    cases hop
    exact .polls
  | adjust change =>
    cases hop
    exact .adjusts change

/-! ## What operations leave as it is -/

/-- Without a capture there is none after anything but a start. -/
theorem idle_of_perform (hc : c.acquisition = none) (hop : c.perform op = some (answer, c')) :
    c'.acquisition = none ∨ ∃ result, op = .start ∧ answer = .result result ∧
      c.start = some (result, c') := by
  cases performs_of_perform hop with
  | tunes event tuned => exact .inl hc
  | resizes poolSize bufferSize => exact .inl hc
  | adjusts change => exact .inl hc
  | starts hstart => exact .inr ⟨_, rfl, rfl, hstart⟩
  | requestsStop => exact .inl ((congrArg acquisition (requestStop_of_idle hc)).trans hc)
  | dispatches event => exact .inl (by rw [dispatch_of_idle hc event]; exact hc)
  | polls => exact .inl (by rw [poll_of_idle hc]; exact hc)

theorem persists_sameSettings (s : Session τ) :
    Persists fun c : Controller τ σ => s.SameSettings c.session :=
  persists_session (fun transport h => h.trans (.withTransport _ transport))
    (fun h => h.trans (.beginStop _)) (fun h => h.trans (.finishStop _))

theorem sameSettings_start {result : Except Failure Unit} (h : c.start = some (result, c')) :
    c.session.SameSettings c'.session := by
  obtain ⟨e, transport, -, rfl⟩ | ⟨-, -, -, pool, commands, pool', transport, -, -, rfl⟩ :=
    start_cases h
  · exact .withTransport ..
  · exact .withTransport ..

/-- The clock that shuts the device down is never chosen. -/
theorem clockSource_perform (hclock : c.session.clockSource ≠ .none)
    (hop : c.perform op = some (answer, c')) : c'.session.clockSource ≠ .none := by
  have hkept := persists_sameSettings (σ := σ) c.session
  cases performs_of_perform hop with
  | tunes event tuned => exact tuned.clock hclock
  | resizes poolSize bufferSize => exact hclock
  | adjusts change => exact hclock
  | starts hstart => exact (sameSettings_start hstart).clockSource ▸ hclock
  | requestsStop => exact (hkept.requestStop (.refl _)).clockSource ▸ hclock
  | dispatches event => exact (hkept.dispatch (.refl _) event).clockSource ▸ hclock
  | polls => exact (hkept.poll (.refl _)).clockSource ▸ hclock

namespace ReachableBy

variable {initial : Session τ → Prop} {allowed : Operation τ → Prop}

theorem mono {initial' : Session τ → Prop} (hinitial : ∀ s, initial s → initial' s)
    (h : c.ReachableBy initial allowed) : c.ReachableBy initial' allowed := by
  induction h with
  | new session sink h => exact .new session sink (hinitial session h)
  | perform _ hallowed hop ih => exact ih.perform hallowed hop

theorem clock (hinitial : ∀ s, initial s → s.AtRest) (h : c.ReachableBy initial allowed) :
    c.session.clockSource ≠ .none := by
  induction h with
  | new session sink h => exact (hinitial session h).clock
  | perform _ _ hop ih => exact clockSource_perform ih hop

theorem reachable (hinitial : ∀ s, initial s → s.status = .inactive ∨ s.status = .active)
    (h : c.ReachableBy initial allowed) : c.Reachable := by
  induction h with
  | new session sink h => exact .new session sink (hinitial session h)
  | perform _ _ hop ih => exact ih.perform hop

theorem performAll {ops : List (Operation τ)} {answers : List Answer}
    (h : c.ReachableBy initial allowed) (hallowed : ∀ op ∈ ops, allowed op)
    (hops : c.performAll ops = some (answers, c')) : c'.ReachableBy initial allowed := by
  induction ops generalizing c answers with
  | nil =>
    cases hops
    exact h
  | cons op rest ih =>
    obtain ⟨answer, c₁, answers', hop, hrest, -⟩ := performAll_cons_eq_some.mp hops
    have hfirst := h.perform (hallowed op (List.mem_cons_self ..)) hop
    exact ih hfirst (fun other hmem => hallowed other (List.mem_cons_of_mem _ hmem)) hrest

/-- What operations lead to a capture under way lead to. -/
theorem underway {c₀ : Controller τ σ} {notes : List Moment} (h₀ : c₀.ReachableBy initial allowed)
    (hstart : allowed .start) (h : Underway allowed c₀ notes c) : c.ReachableBy initial allowed := by
  induction h with
  | start hop => exact h₀.perform hstart hop
  | perform _ hallowed hop _ ih => exact ih.perform hallowed hop

/-- **Every capture that is running** is under way. -/
theorem exists_underway (h : c.ReachableBy initial allowed) (hc : c.isAcquiring = true) :
    ∃ c₀ notes, c₀.ReachableBy initial allowed ∧ c₀.isAcquiring = false ∧
      Underway allowed c₀ notes c := by
  induction h with
  | new session sink h => cases hc
  | @perform c c' op answer h hallowed hop ih =>
    cases hacquiring : c.isAcquiring with
    | true =>
      obtain ⟨c₀, notes, h₀, hidle, hunderway⟩ := ih hacquiring
      exact ⟨c₀, _, h₀, hidle, hunderway.perform hallowed hop hc⟩
    | false =>
      have hnone : c.acquisition = none := by simpa [isAcquiring] using hacquiring
      obtain hnone' | ⟨result, rfl, rfl, hstart⟩ := idle_of_perform hnone hop
      · simp [isAcquiring, hnone'] at hc
      · obtain ⟨e, transport, rfl, rfl⟩ | ⟨rfl, -⟩ := start_cases hstart
        · have hsame : c.isAcquiring = true := hc
          cases hacquiring.symm.trans hsame
        · exact ⟨c, _, h, hacquiring, .start hop⟩

end ReachableBy

end Controller

end LogicAnalyzer
