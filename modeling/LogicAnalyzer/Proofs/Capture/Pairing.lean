import LogicAnalyzer.Proofs.Capture.Shutdown

/-!
# Bringing up and shutting down

A device that was brought up is to be shut down, once.  The end of a capture does that, and closing
does it if no capture has.  So between two operations a shutdown is due exactly if the session is
not inactive, and over a run that ends with closing the device is shut down as often as it was
brought up.

## Main definitions

* `shutdowns`: how often calls shut the device down
* `openings`: how often operations brought the device up
* `Session.due`: the shutdown that is still to come
* `Controller.UpWhileRunning`: the session is not inactive while a capture is running

## Main results

* `Controller.shutdowns_perform`: the balance over one operation
* `Controller.shutdowns_closing`: closing shuts the device down if that is due
* `Controller.shutdowns_eq_openings`: every bring-up is paired with one shutdown
-/

namespace LogicAnalyzer

variable {τ σ : Type}

/-! ## What is counted -/

/-- How often calls shut the device down, whether it obeyed or not. -/
def shutdowns (calls : List Call) : Nat := (moments calls).count .shutdown

@[simp] theorem shutdowns_append (calls more : List Call) :
    shutdowns (calls ++ more) = shutdowns calls + shutdowns more := by
  simp only [shutdowns, moments_append, List.count_append]

theorem shutdowns_of_quiet {calls : List Call} (h : Quiet calls) : shutdowns calls = 0 :=
  List.count_eq_zero.mpr h

theorem shutdowns_shutdown (taken : Bool) : shutdowns [.send Command.shutdown.frame taken] = 1 := by
  simp [shutdowns, moments, Call.moment?]

/-- Whether an operation brought the device up. -/
def Operation.opened : Operation τ → Answer → Nat
  | .openDevice, .result (.ok ()) => 1
  | _, _ => 0

/-- How often operations brought the device up. -/
def openings : List (Operation τ) → List Answer → Nat
  | op :: ops, answer :: answers => op.opened answer + openings ops answers
  | _, _ => 0

/-- How many shutdowns are due: one if the device is up. -/
def Session.due (s : Session τ) : Nat := if s.status = .inactive then 0 else 1

theorem Session.due_of_up {s : Session τ} (h : s.status ≠ .inactive) : s.due = 1 := if_neg h

theorem Session.due_of_inactive {s : Session τ} (h : s.status = .inactive) : s.due = 0 := if_pos h

/-- A session shuts the device down if that is due when it is closed. -/
theorem Session.shutdowns_close [Transport τ] (s : Session (Traced τ)) :
    ∃ calls, s.close.calls = s.transport.calls ++ calls ∧ shutdowns calls = s.due := by
  by_cases hinactive : s.status = .inactive
  · rw [close, if_pos hinactive, due_of_inactive hinactive]
    exact ⟨[], (List.append_nil _).symm, rfl⟩
  · rw [close, if_neg hinactive, due_of_up hinactive]
    exact ⟨_, rfl, shutdowns_shutdown _⟩

namespace Controller

/-! ## The status while a capture is running -/

/-- **The session is inactive exactly if no capture is running.**  This is kept from the start of a
capture until the device is brought up again. -/
def UpWhileRunning (c : Controller τ σ) : Prop :=
  c.acquisition = none ↔ c.session.status = .inactive

theorem Lifecycle.up {c : Controller τ σ} (h : c.Lifecycle) (hc : c.acquisition ≠ none) :
    c.session.status ≠ .inactive := by
  obtain ⟨a, ha⟩ := Option.ne_none_iff_exists'.mp hc
  cases hstopping : a.stopping with
  | false => simp [(h.streams a ha hstopping).status]
  | true => simp [(h.drains a ha hstopping).status]

theorem Lifecycle.upWhileRunning {c : Controller τ σ} (h : c.Lifecycle) (hc : c.acquisition ≠ none) :
    c.UpWhileRunning :=
  iff_of_false hc (h.up hc)

theorem UpWhileRunning.due {c : Controller τ σ} (h : c.UpWhileRunning) :
    c.session.due = if c.acquisition = none then 0 else 1 := by
  simp only [Session.due, show c.acquisition = none ↔ c.session.status = .inactive from h]

variable [Transport τ]

theorem UpWhileRunning.beginStop {c : Controller τ σ} (h : c.UpWhileRunning) (reason : EndReason) :
    (c.beginStop reason).UpWhileRunning := by
  obtain ⟨-, heq⟩ | ⟨a, hc, -, heq⟩ := beginStop_cases c reason
  · rwa [heq]
  · have hup : c.session.status ≠ .inactive := fun hinactive => by simp [h.mpr hinactive] at hc
    rw [heq]
    refine iff_of_false nofun ?_
    unfold Session.beginStop
    split
    · nofun
    · exact hup

variable [Sink σ]

theorem persists_upWhileRunning : Persists fun c : Controller τ σ => c.UpWhileRunning where
  withTransport _ h := h
  beginStop reason h := h.beginStop reason
  handles := by
    intro c c₁ a event hc hhandles h
    have hup : c.session.status ≠ .inactive := fun hinactive => by simp [h.mpr hinactive] at hc
    have hrunning {d : Controller τ σ} {b : Acquisition} (hd : d.acquisition = some b)
        (hstatus : d.session.status = c.session.status) : d.UpWhileRunning :=
      iff_of_false (by simp [hd]) (hstatus ▸ hup)
    cases hhandles with
    | parks why => exact hrunning rfl rfl
    | fails stopping outcome asked =>
      apply UpWhileRunning.beginStop
      exact hrunning rfl rfl
    | concludes stopping outcome hreason =>
      apply UpWhileRunning.beginStop
      exact hrunning rfl rfl
    | resubmits stopping outcome hresubmit => exact hrunning rfl rfl
    | refuses stopping outcome hresubmit =>
      apply UpWhileRunning.beginStop
      exact hrunning rfl rfl
  finishIfDrained := by
    intro c h
    obtain ⟨-, heq⟩ | ⟨a, -, -, -, heq⟩ := finishIfDrained_cases c
    · rwa [heq]
    · rw [heq]
      exact iff_of_true rfl rfl

/-! ## One operation -/

variable {c c' : Controller τ σ} {op : Operation τ} {answer : Answer}

/-- An operation during a capture leaves the session active or stopping, unless it ends the
capture. -/
theorem upWhileRunning_perform (h : c.Lifecycle) (hc : c.acquisition ≠ none)
    (hop : c.perform op = some (answer, c')) : c'.UpWhileRunning := by
  have hbefore := h.upWhileRunning hc
  obtain hsame | ⟨result, hstart⟩ | rfl | ⟨event, -, rfl⟩ | ⟨-, rfl⟩ := perform_cases hop
  · have hstatus := hsame.status.resolve_right fun hup => h.up hc hup.1
    unfold UpWhileRunning
    rwa [hsame.acquisition, hstatus]
  · obtain ⟨a, ha⟩ := Option.ne_none_iff_exists'.mp hc
    obtain ⟨e, hrefused⟩ := start_of_acquiring ha
    cases hrefused.symm.trans hstart
    exact hbefore
  · exact persists_upWhileRunning.requestStop hbefore
  · exact persists_upWhileRunning.dispatch hbefore event
  · exact persists_upWhileRunning.poll hbefore

/-- A device that is up is not brought up again. -/
theorem opened_of_up (hup : c.session.status ≠ .inactive)
    (hop : c.perform op = some (answer, c')) : op.opened answer = 0 := by
  cases op with
  | openDevice =>
    simp only [perform, onSession, Session.openDevice, if_pos hup] at hop
    cases hop
    rfl
  | _ => rfl

/-- Without a capture, the device comes up by being brought up. -/
theorem due_perform_of_idle (hc : c.acquisition = none) (hop : c.perform op = some (answer, c')) :
    c'.session.due = c.session.due + op.opened answer := by
  have hsame (hstatus : c'.session.status = c.session.status) : c'.session.due = c.session.due + 0 :=
    by rw [Session.due, hstatus]; rfl
  cases op with
  | openDevice =>
    by_cases hup : c.session.status ≠ .inactive
    · rw [opened_of_up hup hop]
      simp only [perform, onSession, Session.openDevice, if_pos hup] at hop
      cases hop
      rfl
    · have hinactive : c.session.status = .inactive := Decidable.not_not.mp hup
      simp only [perform, onSession, Session.openDevice, if_neg hup, Session.send] at hop
      rw [Session.due_of_inactive hinactive]
      rcases hsend : Transport.send c.session.transport
        (Command.selectClock c.session.clockSource).frame with ⟨_ | _, transport⟩
      all_goals
        simp only [hsend] at hop
        cases hop
        rfl
  | setSampleRate rate =>
    cases hop
    exact hsame (c.session.status_setSampleRate rate)
  | setClockSource source =>
    cases hop
    exact hsame (c.session.status_setClockSource source)
  | setOption key value =>
    cases hop
    exact hsame (c.session.status_setOption key value)
  | configureChannels settings =>
    cases hop
    exact hsame (c.session.status_takeMasks ..)
  | configureTriggers masks =>
    cases hop
    exact hsame (c.session.status_takeMasks ..)
  | start =>
    obtain ⟨⟨result, started⟩, hstart, heq⟩ := Option.map_eq_some_iff.mp hop
    cases heq
    obtain ⟨e, transport, -, rfl⟩ | ⟨-, -, -, pool, commands, pool', transport, -, -, rfl⟩ :=
      start_cases hstart
    · rfl
    · rfl
  | requestStop =>
    cases hop
    exact hsame (congrArg (·.session.status) (requestStop_of_idle hc))
  | dispatch event =>
    cases hop
    exact hsame (congrArg (·.2.session.status) (dispatch_of_idle hc event))
  | poll =>
    cases hop
    exact hsame (congrArg (·.2.session.status) (poll_of_idle hc))
  | setSampleLimit limit | setTransferPool poolSize bufferSize | adjust change =>
    cases hop
    rfl

variable {allowed : Operation τ → Prop}

theorem ReachableBy.lifecycle (h : c.ReachableBy Session.AtRest allowed) : c.Lifecycle :=
  (h.reachable fun _ hrest => hrest.settled).lifecycle

/-- The books of a capture that is running. -/
theorem ReachableBy.exists_ledger (h : c.ReachableBy Session.AtRest allowed)
    (hc : c.acquisition ≠ none) :
    ∃ a notes, c.acquisition = some a ∧ a.pool.Ledger notes := by
  obtain ⟨c₀, notes, h₀, -, hunderway⟩ :=
    h.exists_underway (isAcquiring_iff.mpr (Option.ne_none_iff_exists'.mp hc))
  obtain ⟨-, -, a, ha, hledger⟩ := hunderway.ledger (h₀.clock fun _ => id)
  exact ⟨a, notes, ha, hledger⟩

/-- **The balance over one operation**: what was due before or is so because the device was brought
up was done or is due afterwards. -/
theorem shutdowns_perform (h : c.ReachableBy Session.AtRest allowed)
    (hop : c.perform op = some (answer, c')) :
    shutdowns (c.calls op) + c'.session.due = c.session.due + op.opened answer := by
  have hclock := h.clock fun _ => id
  by_cases hc : c.acquisition = none
  · obtain ⟨hquiet, -⟩ := perform_books_of_idle hclock hc hop
    rw [shutdowns_of_quiet hquiet, Nat.zero_add, due_perform_of_idle hc hop]
  · have hup := h.lifecycle.up hc
    rw [(upWhileRunning_perform h.lifecycle hc hop).due, Session.due_of_up hup, opened_of_up hup hop]
    obtain ⟨a, notes, ha, hledger⟩ := h.exists_ledger hc
    obtain ⟨a', ha', -, hquiet⟩ | ⟨hidle, calls, taken, hcalls, hquiet, -⟩ :=
      perform_books hclock ha hledger hop
    · rw [shutdowns_of_quiet hquiet, ha']
      rfl
    · rw [hcalls, shutdowns_append, shutdowns_of_quiet hquiet, shutdowns_shutdown, hidle]
      rfl

theorem shutdowns_performAll {ops : List (Operation τ)} {answers : List Answer}
    (h : c.ReachableBy Session.AtRest fun _ => True) (hops : c.performAll ops = some (answers, c')) :
    shutdowns (c.callsAll ops) + c'.session.due = c.session.due + openings ops answers := by
  induction ops generalizing c answers with
  | nil =>
    cases hops
    rw [Nat.add_comm]
    rfl
  | cons op rest ih =>
    obtain ⟨answer, c₁, answers', hop, hrest, rfl⟩ := performAll_cons_eq_some.mp hops
    have hone := shutdowns_perform h hop
    have hothers := ih (h.perform trivial hop) hrest
    rw [callsAll_cons hop, shutdowns_append, openings]
    omega

/-! ## Closing -/

/-- **One shutdown is due or done** since `t`, and if it is due a capture is running. -/
structure Balanced (t : Traced τ) (c : Controller (Traced τ) σ) : Prop where
  balance : ∃ calls, c.session.transport.calls = t.calls ++ calls ∧
    shutdowns calls + c.session.due = 1
  up : c.UpWhileRunning
  ledger : ∀ a, c.acquisition = some a → ∃ notes, a.pool.Ledger notes

section

variable {t : Traced τ} {c d : Controller (Traced τ) σ} {a : Acquisition} {notes : List Moment}

omit [Transport τ] [Sink σ] in
/-- Books that are kept or closed keep the balance. -/
theorem Balanced.settles (h : Balanced t c) (hc : c.acquisition = some a)
    (hsettles : Settles notes c.session.transport d) (hup : d.UpWhileRunning) : Balanced t d := by
  obtain ⟨calls, hcalls, hbalance⟩ := h.balance
  have hdue : c.session.due = 1 := by rw [h.up.due, hc]; rfl
  cases hsettles with
  | goesOn books =>
    obtain ⟨b, more, hd, htells, hledger⟩ := books
    refine ⟨⟨calls ++ more, ?_, ?_⟩, hup, ?_⟩
    · rw [← List.append_assoc, ← hcalls, htells.calls_eq]
    · have hdue' : d.session.due = 1 := by rw [hup.due, hd]; rfl
      rw [shutdowns_append, shutdowns_of_quiet htells.quiet]
      omega
    · intro b' hb'
      cases hd.symm.trans hb'
      exact ⟨_, hledger⟩
  | @ends more taken idle calls_eq quiet matched =>
    refine ⟨⟨calls ++ (more ++ [.send Command.shutdown.frame taken]), ?_, ?_⟩, hup, by simp [idle]⟩
    · rw [calls_eq, hcalls, List.append_assoc]
    · have hdue' : d.session.due = 0 := by rw [hup.due, idle]; rfl
      rw [shutdowns_append, shutdowns_append, shutdowns_of_quiet quiet, shutdowns_shutdown]
      omega

theorem Balanced.poll (h : Balanced t c) : Balanced t c.poll.2 := by
  cases hc : c.acquisition with
  | none =>
    rw [poll_of_idle hc]
    exact h
  | some a =>
    obtain ⟨notes, hledger⟩ := h.ledger a hc
    exact h.settles hc (settles_poll hc hledger) (persists_upWhileRunning.poll h.up)

end

/-- **Closing** shuts the device down if that is due: a capture that ends within its polls has done
it, and else the session does. -/
theorem shutdowns_closing (h : c.ReachableBy Session.AtRest allowed) :
    shutdowns c.closing = c.session.due := by
  rw [closing, close]
  by_cases hc : c.acquisition = none
  · have hidle : ¬c.traced.isAcquiring = true := by simp [traced, mapTransport, isAcquiring, hc]
    obtain ⟨calls, hcalls, hdue⟩ := c.traced.session.shutdowns_close
    rw [if_neg hidle]
    dsimp only
    rw [hcalls]
    exact hdue
  · obtain ⟨a, notes, ha, hledger⟩ := h.exists_ledger hc
    have hacquiring : c.traced.isAcquiring = true := isAcquiring_iff.mpr ⟨a, ha⟩
    have hup : c.traced.UpWhileRunning := h.lifecycle.upWhileRunning hc
    have hdue : c.session.due = 1 := Session.due_of_up (h.lifecycle.up hc)
    have hbalanced : Balanced c.traced.session.transport c.traced := by
      refine ⟨⟨[], rfl, (Nat.zero_add _).trans hdue⟩, hup, ?_⟩
      intro b hb
      cases ha.symm.trans hb
      exact ⟨notes, hledger⟩
    have hbooks : Books notes c.traced.session.transport c.traced :=
      ⟨a, [], ha, .refl _, by rwa [moments_nil, List.append_nil]⟩
    have hbegun := hbalanced.settles ha (.goesOn (hbooks.beginStop .stopped)) (hup.beginStop _)
    obtain ⟨calls, hcalls, hbalance⟩ :=
      (of_pollUntil (fun _ h => h.poll) hbegun maxClosePolls).balance
    obtain ⟨last, hlast, hclosed⟩ :=
      (pollUntil maxClosePolls (c.traced.beginStop .stopped)).2.2.session.shutdowns_close
    rw [if_pos hacquiring]
    dsimp only
    rw [hlast, hcalls, hdue, show c.traced.session.transport.calls = [] from rfl, List.nil_append,
      shutdowns_append, hclosed, hbalance]

/-- **Every bring-up is paired with one shutdown.**  On any transport and over any operations, if
the controller is closed after them the device has been shut down as often as it was brought up.
The session may have been up from the beginning, and that counts as one; a new session is not. -/
theorem shutdowns_eq_openings {session : Session τ} {sink : σ} {ops : List (Operation τ)}
    {answers : List Answer} (h : session.AtRest)
    (hops : (new session sink).performAll ops = some (answers, c)) :
    shutdowns ((new session sink).callsAll ops ++ c.closing) =
      session.due + openings ops answers := by
  have hnew : (new session sink).ReachableBy Session.AtRest fun _ => True := .new session sink h
  have hlast := hnew.performAll (fun _ _ => trivial) hops
  rw [shutdowns_append, shutdowns_closing hlast]
  exact shutdowns_performAll hnew hops

/-- A device that is brought up twice.  The first capture ends by itself, and the second is running
when the controller is closed, with a device that does not obey. -/
theorem shutdowns_eq_openings_of_two_captures :
    ∃ (fresh c : Controller SimulatedDevice (List StreamEvent))
        (ops : List (Operation SimulatedDevice)) (answers : List Answer),
      fresh = new (.new { model := .lwla1016 } .lwla1016) [] ∧
      ops = [.openDevice, .setTransferPool 1 8, .start, .requestStop, .poll, .openDevice,
        .openDevice, .start, .adjust fun d => d.failCommand Command.selectClockOpcode .stall] ∧
      fresh.performAll ops = some (answers, c) ∧ openings ops answers = 2 ∧
      shutdowns (fresh.callsAll ops ++ c.closing) = 2 := by
  obtain ⟨ops, hlist, answers, c, hops, htwo⟩ : ∃ ops : List (Operation SimulatedDevice),
      ops = [.openDevice, .setTransferPool 1 8, .start, .requestStop, .poll, .openDevice,
        .openDevice, .start, .adjust fun d => d.failCommand Command.selectClockOpcode .stall] ∧
      ∃ answers c, (new (.new { model := .lwla1016 } .lwla1016) [] :
        Controller SimulatedDevice (List StreamEvent)).performAll ops = some (answers, c) ∧
        openings ops answers = 2 := ⟨_, rfl, _, _, rfl, rfl⟩
  have hrest : (Session.new ({ model := .lwla1016 } : SimulatedDevice) .lwla1016).AtRest :=
    ⟨.inl rfl, by rintro ⟨⟩⟩
  refine ⟨_, c, ops, answers, rfl, hlist, hops, htwo, ?_⟩
  rw [shutdowns_eq_openings hrest hops, htwo]
  rfl

end Controller

end LogicAnalyzer
