import LogicAnalyzer.Device.Simulated
import LogicAnalyzer.Proofs.Capture.Runs

/-!
# Stray events

An event counts for a capture if it reports a read that the pool has out.  Any other is stray: its
slot is none of the pool's, or the read of that slot was reported before.  A stray event is turned
away before anything is counted, and since a capture whose end has begun still waits for a read, it
is not taken for the last one either.  So a run goes as it does without the stray events in it.

## Main definitions

* `Controller.Stray`: an event that is not the report of a read
* `Controller.WithStrays`: a run with stray events in between

## Main results

* `Controller.dispatch_of_stray`, `calls_of_stray`: a stray event leaves everything as it is
* `Controller.WithStrays.performAll`: any number of them does, wherever in a run they come
-/

namespace LogicAnalyzer.Controller

variable {τ σ : Type} {c c' : Controller τ σ} {event : ReadEvent}

/-- **An event is stray** unless its slot is in flight.  Without a capture every event is. -/
def Stray (c : Controller τ σ) (event : ReadEvent) : Prop :=
  ∀ a, c.acquisition = some a → a.pool.slots[event.slot]? ≠ some .inFlight

variable [Transport τ] [Sink σ]

/-- **Stray events in a run**: from `c` on, the operations `ops'` are the operations `ops` with
events in between that are stray when they come. -/
inductive WithStrays : Controller τ σ → List (Operation τ) → List (Operation τ) → Prop where
  | nil (c : Controller τ σ) : WithStrays c [] []
  | stray {c : Controller τ σ} {event : ReadEvent} {ops ops' : List (Operation τ)} :
      c.Stray event → WithStrays c ops ops' → WithStrays c ops (.dispatch event :: ops')
  | perform {c c' : Controller τ σ} {op : Operation τ} {answer : Answer}
      {ops ops' : List (Operation τ)} :
      c.perform op = some (answer, c') → WithStrays c' ops ops' →
        WithStrays c (op :: ops) (op :: ops')

/-! ## One event -/

/-- **A stray event** changes nothing if a stopping capture still waits for a read. -/
theorem dispatch_of_stray
    (hwaits : ∀ a, c.acquisition = some a → a.stopping = true → 0 < a.pool.outstanding)
    (hstray : c.Stray event) :
    c.dispatch event = (if c.isAcquiring then .running else .idle, c) := by
  rcases hc : c.acquisition with _ | a
  · rw [dispatch_of_idle hc, isAcquiring_eq_false.mpr hc]
    rfl
  · have hwaiting : a.stopping = false ∨ 0 < a.pool.outstanding := by
      rcases hstopping : a.stopping with _ | _
      · exact .inl rfl
      · exact .inr (hwaits a hc hstopping)
    simp only [dispatch, hc, TransferPool.accept_of_not_inFlight (hstray a hc)]
    rw [finishIfDrained_of_waiting hc hwaiting, isAcquiring_iff.mpr ⟨a, hc⟩]
    rfl

/-- The transport is told nothing. -/
theorem calls_of_stray (h : c.Lifecycle) (hstray : c.Stray event) :
    c.calls (.dispatch event) = [] := by
  have htraced : c.traced.dispatch event =
      (if c.traced.isAcquiring then .running else .idle, c.traced) :=
    dispatch_of_stray h.waits hstray
  simp only [calls, Operation.traced, perform, htraced]
  rfl

/-! ## Any number of events -/

/-- **Stray events in a run** make no difference to where it leads, nor to what the transport is
told on the way, and every other operation is answered as it would be without them. -/
theorem WithStrays.performAll {ops ops' : List (Operation τ)} {answers : List Answer}
    (hstrays : WithStrays c ops ops') (h : c.Lifecycle)
    (hops : c.performAll ops = some (answers, c')) :
    ∃ answers', c.performAll ops' = some (answers', c') ∧ answers.Sublist answers' ∧
      c.callsAll ops' = c.callsAll ops := by
  induction hstrays generalizing answers with
  | nil c => exact ⟨answers, hops, .refl _, rfl⟩
  | @stray c event ops ops' hstray _ ih =>
    obtain ⟨answers', hrest, hanswers, hcalls⟩ := ih h hops
    have hevent : c.perform (.dispatch event) =
        some (.progress (if c.isAcquiring then .running else .idle), c) := by
      simp only [Controller.perform, dispatch_of_stray h.waits hstray]
      rfl
    refine ⟨_, performAll_cons_eq_some.mpr ⟨_, c, answers', hevent, hrest, rfl⟩, ?_, ?_⟩
    · exact hanswers.cons _
    · rw [callsAll_cons hevent, calls_of_stray h hstray, List.nil_append, hcalls]
  | @perform c c₁ op answer ops ops' hop _ ih =>
    obtain ⟨answer', c₂, rest, hop', hrest, rfl⟩ := performAll_cons_eq_some.mp hops
    cases hop.symm.trans hop'
    obtain ⟨answers', hrest', hanswers, hcalls⟩ := ih (perform_lifecycle h hop) hrest
    refine ⟨_, performAll_cons_eq_some.mpr ⟨answer, c₁, answers', hop, hrest', rfl⟩, ?_, ?_⟩
    · exact hanswers.cons_cons answer
    · rw [callsAll_cons hop, callsAll_cons hop, hcalls]

/-- **Stray events do nothing**, on any transport and in every state that operations lead to: session
and transport, sink, capture and last trailer are as they were, the transport is told nothing, and
the answer is that of a controller with nothing to report.  So they can be left out of any run. -/
theorem stray_events_do_nothing (h : c.Reachable) :
    (∀ event, c.Stray event →
      c.dispatch event = (if c.isAcquiring then .running else .idle, c) ∧
        c.calls (.dispatch event) = []) ∧
      ∀ (ops ops' : List (Operation τ)) (answers : List Answer) (c' : Controller τ σ),
        WithStrays c ops ops' → c.performAll ops = some (answers, c') →
          ∃ answers', c.performAll ops' = some (answers', c') ∧ answers.Sublist answers' ∧
            c.callsAll ops' = c.callsAll ops := by
  refine ⟨?_, ?_⟩
  · intro event hstray
    exact ⟨dispatch_of_stray h.lifecycle.waits hstray, calls_of_stray h.lifecycle hstray⟩
  · intro ops ops' answers c' hstrays hops
    exact hstrays.performAll h.lifecycle hops

/-- A cancellation that is confirmed twice, and a failure in a slot that the pool lacks, while a
stopping capture waits for its other read. -/
theorem stray_events_do_nothing_of_duplicate :
    ∃ (answers : List Answer) (c : Controller SimulatedDevice (List StreamEvent)),
      (new (.new { model := .lwla1016 } .lwla1016) []).performAll
          [.openDevice, .setTransferPool 2 8, .start, .requestStop, .poll] = some (answers, c) ∧
        c.isStopping = true ∧ c.outstanding = 1 ∧
        c.Stray ⟨0, .allocate 8, .cancelled⟩ ∧ c.Stray ⟨7, .allocate 8, .failed .stall⟩ ∧
        c.dispatch ⟨0, .allocate 8, .cancelled⟩ = (.running, c) ∧
        c.calls (.dispatch ⟨0, .allocate 8, .cancelled⟩) = [] ∧
        ∃ answers', c.performAll [.dispatch ⟨7, .allocate 8, .failed .stall⟩] =
          some (answers', c) := by
  obtain ⟨answers, c, hops, hstopping, hout, hdouble, hforeign⟩ :
      ∃ (answers : List Answer) (c : Controller SimulatedDevice (List StreamEvent)),
        (new (.new { model := .lwla1016 } .lwla1016) []).performAll
            [.openDevice, .setTransferPool 2 8, .start, .requestStop, .poll] = some (answers, c) ∧
          c.isStopping = true ∧ c.outstanding = 1 ∧
          c.Stray ⟨0, .allocate 8, .cancelled⟩ ∧ c.Stray ⟨7, .allocate 8, .failed .stall⟩ := by
    refine ⟨_, _, rfl, rfl, rfl, ?_, ?_⟩
    · rintro a ⟨⟩
      decide
    · rintro a ⟨⟩
      decide
  have hfresh : Reachable (σ := List StreamEvent)
      (new (.new ({ model := .lwla1016 } : SimulatedDevice) .lwla1016) []) :=
    .new _ _ (.inl rfl)
  obtain ⟨hinert, hruns⟩ := stray_events_do_nothing (hfresh.performAll hops)
  have hacquiring : c.isAcquiring = true := by
    obtain ⟨a, hc, -⟩ := isStopping_iff.mp hstopping
    exact isAcquiring_iff.mpr ⟨a, hc⟩
  obtain ⟨hdispatch, hcalls⟩ := hinert _ hdouble
  rw [hacquiring, if_pos rfl] at hdispatch
  obtain ⟨answers', hrun, -⟩ := hruns [] _ [] c (.stray hforeign (.nil c)) rfl
  exact ⟨answers, c, hops, hstopping, hout, hdouble, hforeign, hdispatch, hcalls, answers', hrun⟩

end LogicAnalyzer.Controller
