import LogicAnalyzer.Proofs.Capture.Genuine
import LogicAnalyzer.Proofs.Device.Room

/-!
# The buffers of a capture

The buffers of a capture pass from the pool to the device, from there to the decoder and back, any
number of times.  On the simulated device, whatever it streams and however it fails, they keep the
room they were allocated with when the capture was started, and go to the device empty.  So a read
that receives something takes that many bytes off the stream, or all if there are fewer.

## Main definitions

* `Controller.HasRoom`: the buffers of the capture, parked or at the device, have this much room
* `Controller.KeepsRoom`: what that means for whoever looks at the capture

## Main results

* `Controller.Handles.hasRoom`, `HasRoom.perform`: the room is kept by a report, and by operations
* `Controller.Underway.hasRoom`: it is the one that the buffers had when the capture was started
* `Controller.buffers_keep_room`: so every read takes as much as there is room for
-/

namespace LogicAnalyzer.Controller

variable {σ : Type} {c c' c₁ : Controller SimulatedDevice σ} {a : Acquisition} {room : Nat}

/-- **The buffers of the capture have this much room**: those that are parked, and those at the
device, which are empty. -/
structure HasRoom (c : Controller SimulatedDevice σ) (room : Nat) : Prop where
  parked : ∀ a, c.acquisition = some a → a.pool.HasRoom room
  pending : c.session.transport.HasRoom room

/-! ## One operation -/

theorem hasRoom_of_acquisition (hc : c.acquisition = some a) (hpool : a.pool.HasRoom room)
    (hpending : c.session.transport.HasRoom room) : c.HasRoom room := by
  refine ⟨?_, hpending⟩
  intro b hb
  rwa [← Option.some.inj (hc.symm.trans hb)]

theorem HasRoom.beginStop (h : c.HasRoom room) (reason : EndReason) :
    (c.beginStop reason).HasRoom room := by
  obtain ⟨-, heq⟩ | ⟨a, hc, -, heq⟩ := beginStop_cases c reason
  · rwa [heq]
  · rw [heq]
    refine hasRoom_of_acquisition rfl ((h.parked a hc).cancelAll _) ?_
    rw [Session.transport_beginStop]
    exact TransferPool.of_cancelAll (motive := (SimulatedDevice.HasRoom · room))
      (fun _ hd => hd.cancelAll) a.pool h.pending

variable [Sink σ]

theorem HasRoom.finishIfDrained (h : c.HasRoom room) : c.finishIfDrained.2.HasRoom room := by
  obtain ⟨-, heq⟩ | ⟨a, -, -, -, heq⟩ := finishIfDrained_cases c
  · rwa [heq]
  · rw [heq]
    exact ⟨nofun, h.pending.send Command.shutdown.frame⟩

/-- **A report whose buffer has the room** is handled: the buffer is parked, or emptied and
submitted again, or lost. -/
theorem Handles.hasRoom {event : ReadEvent} (h : c.Handles a event c₁)
    (hpool : a.pool.HasRoom room) (hpending : c.session.transport.HasRoom room)
    (hbuffer : event.buffer.capacity = room) : c₁.HasRoom room := by
  have hsettled := hpool.settle hbuffer
  have hresubmitted {result : Except TransferError Unit} {pool : TransferPool}
      {d : SimulatedDevice}
      (hresubmit : (a.pool.accept event).2.resubmit c.session.transport event.slot event.buffer =
        (result, pool, d)) : pool.HasRoom room ∧ d.HasRoom room :=
    (hpool.accept event).resubmit hpending hbuffer hresubmit
  cases h with
  | parks why => exact hasRoom_of_acquisition rfl hsettled hpending
  | fails stopping outcome asked =>
    apply HasRoom.beginStop
    exact hasRoom_of_acquisition rfl hsettled hpending
  | concludes stopping outcome hreason =>
    apply HasRoom.beginStop
    exact hasRoom_of_acquisition rfl hsettled hpending
  | resubmits stopping outcome hresubmit =>
    obtain ⟨hpool', hpending'⟩ := hresubmitted hresubmit
    exact hasRoom_of_acquisition rfl hpool' hpending'
  | refuses stopping outcome hresubmit =>
    obtain ⟨hpool', hpending'⟩ := hresubmitted hresubmit
    apply HasRoom.beginStop
    exact hasRoom_of_acquisition rfl hpool' hpending'

/-- **A poll** takes the report of a read, whose buffer has the room. -/
theorem HasRoom.poll (h : c.HasRoom room) (hroom : 1 ≤ room) : c.poll.2.HasRoom room := by
  cases hc : c.acquisition with
  | none =>
    rw [poll_of_idle hc]
    exact h
  | some a =>
    have hpool := h.parked a hc
    obtain ⟨event, d, hnext, heq⟩ | ⟨d, hnext, heq⟩ := poll_cases hc
    · obtain ⟨hpending, hbuffer, -⟩ := h.pending.next hroom hnext
      rw [heq]
      obtain ⟨-, hdispatch⟩ | ⟨-, c₁, hhandles, hdispatch⟩ :=
        dispatch_cases (c := c.withTransport d) hc event
      · rw [hdispatch]
        exact (hasRoom_of_acquisition (c := c.withTransport d) hc hpool hpending).finishIfDrained
      · rw [hdispatch]
        exact (hhandles.hasRoom hpool hpending hbuffer).finishIfDrained
    · cases SimulatedDevice.next_none hnext
      rw [heq]
      exact h.finishIfDrained

theorem HasRoom.requestStop (h : c.HasRoom room) : c.requestStop.2.HasRoom room := by
  obtain heq | ⟨_, -, -, heq⟩ := requestStop_cases c
  · rwa [heq]
  · rw [heq]
    exact (h.beginStop .stopped).finishIfDrained

/-- **One genuine operation** while a capture is running keeps the room of its buffers. -/
theorem HasRoom.perform {op : Operation SimulatedDevice} {answer : Answer} (h : c.HasRoom room)
    (hroom : 1 ≤ room) (hacquiring : c.isAcquiring = true)
    (hclock : c.session.clockSource ≠ .none) (hgenuine : op.Genuine)
    (hop : c.perform op = some (answer, c')) : c'.HasRoom room := by
  cases performs_of_perform hop with
  | tunes event tuned =>
    refine ⟨h.parked, ?_⟩
    obtain heq | ⟨source, -, heq⟩ := tuned.told hclock
    · rw [heq]
      exact h.pending
    · rw [heq]
      exact h.pending.send (Command.selectClock source).frame
  | resizes poolSize bufferSize => exact ⟨h.parked, h.pending⟩
  | adjusts change => exact ⟨h.parked, h.pending.of_pending (hgenuine c.session.transport)⟩
  | starts hstart =>
    obtain ⟨b, hb⟩ := isAcquiring_iff.mp hacquiring
    obtain ⟨e, hrefused⟩ := start_of_acquiring hb
    cases hrefused.symm.trans hstart
    exact h
  | requestsStop => exact h.requestStop
  | dispatches event => cases hgenuine
  | polls => exact h.poll hroom

/-- **Closing** leaves no other buffers at the device. -/
theorem HasRoom.close (h : c.HasRoom room) (hroom : 1 ≤ room) : c.close.1.HasRoom room := by
  have hshut {c : Controller SimulatedDevice σ} (h : c.HasRoom room) :
      c.session.close.HasRoom room := by
    unfold Session.close
    split
    · exact h.pending
    · exact h.pending.send Command.shutdown.frame
  unfold Controller.close
  dsimp only
  split
  · exact hshut (of_pollUntil (motive := (HasRoom · room)) (fun _ hpolled => hpolled.poll hroom)
      (h.beginStop .stopped) maxClosePolls)
  · exact hshut h

/-! ## Over a capture -/

/-- **A capture that is started** has buffers as large as were chosen. -/
theorem hasRoom_of_start (hattached : c.Attached) (hstart : c.start = some (.ok (), c')) :
    c'.HasRoom c.bufferSize ∧ c'.isAcquiring = true := by
  obtain ⟨e, d, hno, -⟩ | ⟨-, -, hidle, pool, commands, pool', d, hprepare, hlaunch, rfl⟩ :=
    start_cases hstart
  · cases hno
  · obtain ⟨hallocate, -⟩ := prepare_eq_ok.mp hprepare
    obtain ⟨d₁, count, hsend, hsubmit⟩ := exists_of_launch_ok hlaunch
    have hsent := pending_sendEach commands c.session.transport
    rw [hsend, hattached.idle hidle] at hsent
    have hnone : d₁.HasRoom c.bufferSize := by
      intro read hmem
      rw [hsent] at hmem
      cases hmem
    obtain ⟨hpool, hdevice⟩ := TransferPool.hasRoom_submitAll hallocate hnone hsubmit
    exact ⟨hasRoom_of_acquisition rfl hpool hdevice, rfl⟩

variable {c₀ : Controller SimulatedDevice σ} {notes : List Moment}

/-- **As long as the capture is running** its buffers keep the room they had at its start. -/
theorem Underway.hasRoom (h : Underway Operation.Genuine c₀ notes c) (h₀ : c₀.Genuine)
    (hroom : 1 ≤ c₀.bufferSize) : c.HasRoom c₀.bufferSize ∧ c.isAcquiring = true := by
  induction h with
  | @start c hop =>
    obtain ⟨⟨result, c₁⟩, hstart, heq⟩ := Option.map_eq_some_iff.mp hop
    cases heq
    exact hasRoom_of_start h₀.attached hstart
  | @perform notes c c' op answer h hgenuine hop hacquiring ih =>
    have hbefore : c.Genuine := h₀.underway trivial h
    obtain ⟨hkept, hrunning⟩ := ih
    exact ⟨hkept.perform hroom hrunning hbefore.clockSource_ne_none hgenuine hop, hacquiring⟩

/-- **The buffers of a capture keep their room.** -/
structure KeepsRoom (c : Controller SimulatedDevice σ) (a : Acquisition) (room : Nat) : Prop where
  parked : ∀ (slot : Nat) (buffer : Buffer),
    a.pool.slots[slot]? = some (.parked buffer) → buffer.capacity = room
  /-- The slots in flight are those of the reads at the device, -/
  inFlight : ∀ slot, a.pool.slots[slot]? = some .inFlight ↔
    ∃ read ∈ c.session.transport.pending, read.slot = slot
  /-- and their buffers are empty. -/
  pending : ∀ read ∈ c.session.transport.pending,
    read.buffer.capacity = room ∧ read.buffer.bytes = []
  /-- The bytes that a read receives are the beginning of the stream, as far as there is room. -/
  received : ∀ event d, Transport.next c.session.transport = (some event, d) →
    event.outcome = .received →
      (a.pool.accept event).1 = some event ∧ event.buffer.capacity = room ∧
        event.buffer.bytes = c.session.transport.stream.take room ∧
        event.buffer.bytes.length = min room c.session.transport.stream.length ∧
        d.stream = c.session.transport.stream.drop room
  /-- Reads that are left when the controller is closed have such buffers too. -/
  closed : ∀ read ∈ c.close.1.pending, read.buffer.capacity = room ∧ read.buffer.bytes = []

theorem HasRoom.keepsRoom (h : c.HasRoom room) (hroom : 1 ≤ room) (hattached : c.Attached)
    (hc : c.acquisition = some a) : c.KeepsRoom a room where
  parked := h.parked a hc
  inFlight slot := by
    rw [(hattached.inStep a hc).expects.inFlight, List.mem_map]
  pending read hmem := by
    rw [h.pending read hmem]
    exact ⟨rfl, rfl⟩
  received event d hnext houtcome := by
    obtain ⟨-, hbuffer, hreceived⟩ := h.pending.next hroom hnext
    obtain ⟨hbytes, hstream⟩ := hreceived houtcome
    obtain ⟨-, -, -, -, hslot⟩ := hattached.report hc hnext
    refine ⟨?_, hbuffer, hbytes, ?_, hstream⟩
    · rw [TransferPool.accept_of_inFlight hslot, houtcome, if_neg (by simp), ← houtcome]
    · rw [hbytes, List.length_take]
  closed read hmem := by
    rw [h.close hroom read hmem]
    exact ⟨rfl, rfl⟩

/-- **The buffers of a capture keep their room**, on the simulated device, whatever it streams and
however it fails.  Without a capture there is none.  A capture that is running was started at some
time, and if the buffers that were chosen then have room for a byte at least, each of them, parked
or at the device, has the same room now; those at the device are empty, and a read that receives
something is handed on with exactly as many bytes as there is room for, or with all that the device
had to stream. -/
theorem buffers_keep_room (h : c.Genuine) :
    (c.acquisition = none → c.session.transport.pending = []) ∧
      ∀ a, c.acquisition = some a →
        (∃ c₀ notes, c₀.Genuine ∧ Underway Operation.Genuine c₀ notes c) ∧
          ∀ c₀ notes, c₀.Genuine → Underway Operation.Genuine c₀ notes c → 1 ≤ c₀.bufferSize →
            c.KeepsRoom a c₀.bufferSize := by
  refine ⟨h.attached.idle, ?_⟩
  intro a hc
  refine ⟨?_, ?_⟩
  · obtain ⟨c₀, notes, h₀, -, hunderway⟩ := h.exists_underway (isAcquiring_iff.mpr ⟨a, hc⟩)
    exact ⟨c₀, notes, h₀, hunderway⟩
  · intro c₀ notes h₀ hunderway hroom
    exact (hunderway.hasRoom h₀ hroom).1.keepsRoom hroom h.attached hc

/-- A capture of two reads with room for four bytes: one was withdrawn and its buffer is parked, and
the other is about to receive as much of a frame of six bytes. -/
theorem buffers_keep_room_of_long_frame :
    ∃ (c₀ c : Controller SimulatedDevice (List StreamEvent)) (a : Acquisition) (notes : List Moment)
        (d : SimulatedDevice),
      c.Genuine ∧ c.acquisition = some a ∧ c₀.Genuine ∧ 1 ≤ c₀.bufferSize ∧
        Underway Operation.Genuine c₀ notes c ∧
        a.pool.slots[0]? = some (.parked (.allocate 4)) ∧
        Transport.next c.session.transport = (some ⟨1, .ofBytes [1, 128, 2, 0] 4, .received⟩, d) ∧
        c.KeepsRoom a 4 ∧ [1, 128, 2, 0] = c.session.transport.stream.take 4 := by
  obtain ⟨opened, queued, polled, c₀, c₁, c₂, c₃, a, d, hopened, hsize, hstart, hqueue, hpoll,
      hrunning, hc, hparked, hnext⟩ :
      ∃ (opened : List Answer) (queued polled : Answer)
          (c₀ c₁ c₂ c₃ : Controller SimulatedDevice (List StreamEvent)) (a : Acquisition)
          (d : SimulatedDevice),
        (new (.new { model := .lwla1016 } .lwla1016) []).performAll
            [.openDevice, .setTransferPool 2 4] = some (opened, c₀) ∧
        c₀.bufferSize = 4 ∧
        c₀.perform .start = some (.result (.ok ()), c₁) ∧
        c₁.perform (.adjust fun d => (d.queue [1, 128, 2, 0, 5, 0]).failCompletion 0 .cancelled) =
          some (queued, c₂) ∧
        c₂.perform .poll = some (polled, c₃) ∧ c₂.isAcquiring = true ∧ c₃.acquisition = some a ∧
        a.pool.slots[0]? = some (.parked (.allocate 4)) ∧
        Transport.next c₃.session.transport =
          (some ⟨1, .ofBytes [1, 128, 2, 0] 4, .received⟩, d) :=
    ⟨_, _, _, _, _, _, _, _, _, rfl, rfl, rfl, rfl, rfl, rfl, rfl, rfl, rfl⟩
  have hnew := genuine_new (d := { model := .lwla1016 }) rfl .lwla1016 ([] : List StreamEvent)
  have h₀ := hnew.performAll (by simp [Operation.Genuine]) hopened
  have hqueues : Operation.Genuine
      (.adjust fun d => (d.queue [1, 128, 2, 0, 5, 0]).failCompletion 0 .cancelled) := fun _ => rfl
  have hpolls : Operation.Genuine (.poll : Operation SimulatedDevice) := trivial
  have hunderway := ((Underway.start hstart).perform hqueues hqueue hrunning).perform hpolls hpoll
    (isAcquiring_iff.mpr ⟨a, hc⟩)
  have hgenuine := h₀.underway trivial hunderway
  have hroom : 1 ≤ c₀.bufferSize := by rw [hsize]; decide
  have hkeeps := ((buffers_keep_room hgenuine).2 a hc).2 c₀ _ h₀ hunderway hroom
  rw [hsize] at hkeeps
  obtain ⟨-, -, hbytes, -⟩ := hkeeps.received _ d hnext rfl
  exact ⟨c₀, c₃, a, _, d, hgenuine, hc, h₀, hroom, hunderway, hparked, hnext, hkeeps, hbytes⟩

end LogicAnalyzer.Controller
