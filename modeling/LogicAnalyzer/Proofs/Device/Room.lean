import LogicAnalyzer.Proofs.Device.Faults

/-!
# The room of buffers

The buffers of a pool are allocated with room for the same number of bytes.  They go to the device
empty and come back with at most that many bytes in them, so none of them ever has to grow, and all
of them keep the room that they were allocated with, wherever they are.

## Main definitions

* `TransferPool.HasRoom`, `SimulatedDevice.HasRoom`: the buffers that are parked, and those that are
  out, have this much room

## Main results

* `SimulatedDevice.HasRoom.next`: what a read reports, and how much
* `TransferPool.HasRoom.settle`, `HasRoom.resubmit` and their like: the room is kept
* `TransferPool.hasRoom_submitAll`: a new pool and its device
-/

namespace LogicAnalyzer

theorem Buffer.clear_eq_allocate {b : Buffer} {room : Nat} (h : b.capacity = room) :
    b.clear = .allocate room := by
  subst h
  rfl

/-- An empty buffer that takes no more than it has room for does not grow. -/
theorem Buffer.capacity_append_allocate {room : Nat} {bytes : List UInt8}
    (h : bytes.length ≤ room) : ((Buffer.allocate room).append bytes).capacity = room := by
  apply Buffer.capacity_append
  rw [Buffer.allocate, List.length_nil, Nat.zero_add]
  exact h

namespace SimulatedDevice

variable {d d' : SimulatedDevice} {event : ReadEvent} {room slot : Nat}

/-- **The reads that are out have empty buffers**, with this much room. -/
def HasRoom (d : SimulatedDevice) (room : Nat) : Prop :=
  ∀ read ∈ d.pending, read.buffer = .allocate room

theorem HasRoom.of_pending (h : d.HasRoom room) (hpending : d'.pending = d.pending) :
    d'.HasRoom room := by
  unfold HasRoom
  rwa [hpending]

/-- **What a read reports**: its buffer, with no more in it than there is room for.  What it
received is the beginning of the stream, up to that. -/
theorem HasRoom.next (h : d.HasRoom room) (hroom : 1 ≤ room) (hnext : d.next = (some event, d')) :
    d'.HasRoom room ∧ event.buffer.capacity = room ∧
      (event.outcome = .received →
        event.buffer.bytes = d.stream.take room ∧ d'.stream = d.stream.drop room) := by
  obtain ⟨read, rest, stream, hpending, hready, rfl⟩ := next_cases hnext
  have hempty : read.buffer = .allocate room := h read (hpending ▸ List.mem_cons_self ..)
  refine ⟨fun other hmem => h other (hpending ▸ List.mem_cons_of_mem _ hmem), ?_⟩
  cases hready with
  | confirms cancelled free => exact ⟨congrArg Buffer.capacity hempty, nofun⟩
  | fails cancelled failure => exact ⟨congrArg Buffer.capacity hempty, nofun⟩
  | receives cancelled failure stream =>
    have htakes : max read.buffer.capacity 1 = room := by
      rw [hempty]
      exact Nat.max_eq_left hroom
    rw [htakes, hempty]
    exact ⟨Buffer.capacity_append_allocate (List.length_take_le ..), fun _ => ⟨rfl, rfl⟩⟩

theorem HasRoom.submit {buffer : Buffer} (h : d.HasRoom room) (hbuffer : buffer.capacity = room) :
    (d.submit slot buffer.clear).2.HasRoom room := by
  rcases hsubmit : d.submit slot buffer.clear with ⟨e | _, d'⟩
  · exact h.of_pending (submit_error hsubmit).1
  · intro read hmem
    rw [(submit_ok hsubmit).1] at hmem
    rcases List.mem_append.mp hmem with hold | hnew
    · exact h read hold
    · rw [List.mem_singleton.mp hnew]
      exact Buffer.clear_eq_allocate hbuffer

theorem HasRoom.cancelAll (h : d.HasRoom room) : d.cancelAll.HasRoom room := by
  intro other hmem
  obtain ⟨read, hread, rfl⟩ := List.mem_map.mp hmem
  exact h read hread

theorem HasRoom.send (h : d.HasRoom room) (frame : Frame) : (d.send frame).2.HasRoom room :=
  h.of_pending (send_keeps d frame).1

end SimulatedDevice

namespace TransferPool

variable {p p' : TransferPool} {d d' : SimulatedDevice} {event : ReadEvent} {buffer : Buffer}
  {room slot : Nat}

/-- **The buffers that are parked have this much room.** -/
def HasRoom (p : TransferPool) (room : Nat) : Prop :=
  ∀ (slot : Nat) (buffer : Buffer), p.slots[slot]? = some (.parked buffer) → buffer.capacity = room

/-- A slot may come to hold anything but a buffer with another room. -/
theorem HasRoom.put {state : Slot} (h : p.HasRoom room)
    (hstate : ∀ buffer : Buffer, state = .parked buffer → buffer.capacity = room)
    (hslots : p'.slots = p.slots.set slot state) : p'.HasRoom room := by
  intro other buffer hparked
  rw [hslots, List.getElem?_set] at hparked
  split at hparked
  · split at hparked
    · exact hstate buffer (Option.some.inj hparked)
    · cases hparked
  · exact h other buffer hparked

theorem HasRoom.park (h : p.HasRoom room) (hbuffer : buffer.capacity = room) :
    (p.park slot buffer).HasRoom room := by
  refine h.put ?_ rfl
  rintro _ ⟨⟩
  exact hbuffer

theorem HasRoom.accept (h : p.HasRoom room) (event : ReadEvent) :
    (p.accept event).2.HasRoom room := by
  unfold TransferPool.accept
  split
  · exact h.put (by simp) rfl
  · exact h

/-- **A report is settled**: its buffer is parked. -/
theorem HasRoom.settle (h : p.HasRoom room) (hbuffer : event.buffer.capacity = room) :
    (p.settle event).HasRoom room := by
  by_cases hslot : p.slots[event.slot]? = some .inFlight
  · rw [settle_of_inFlight hslot]
    exact (h.accept event).park hbuffer
  · rw [settle_of_not_inFlight hslot]
    exact h

theorem HasRoom.cancelAll (h : p.HasRoom room) (d : SimulatedDevice) :
    (p.cancelAll d).1.HasRoom room := by
  unfold TransferPool.cancelAll
  split
  · exact h
  · exact fun slot buffer hparked => h slot buffer hparked

/-- **A buffer goes to the device**, emptied, or is lost. -/
theorem HasRoom.submit {result : Except TransferError Unit} (h : p.HasRoom room)
    (hd : d.HasRoom room) (hbuffer : buffer.capacity = room)
    (hsubmit : p.submit d slot buffer = (result, p', d')) : p'.HasRoom room ∧ d'.HasRoom room := by
  have hdevice : (d.submit slot buffer.clear).2.HasRoom room := hd.submit hbuffer
  obtain ⟨d₁, htaken, heq⟩ | ⟨e, d₁, hrefused, heq⟩ := submit_cases d p slot buffer
  · cases heq.symm.trans hsubmit
    simp only [Transport.submit] at htaken
    rw [htaken] at hdevice
    exact ⟨h.put (by simp) rfl, hdevice⟩
  · cases heq.symm.trans hsubmit
    simp only [Transport.submit] at hrefused
    rw [hrefused] at hdevice
    exact ⟨h.put (by simp) rfl, hdevice⟩

/-- **A buffer is handed back** to be read into again. -/
theorem HasRoom.resubmit {result : Except TransferError Unit} (h : p.HasRoom room)
    (hd : d.HasRoom room) (hbuffer : buffer.capacity = room)
    (hresubmit : p.resubmit d slot buffer = (result, p', d')) :
    p'.HasRoom room ∧ d'.HasRoom room := by
  unfold TransferPool.resubmit at hresubmit
  split at hresubmit
  · cases hresubmit
    exact ⟨h.park hbuffer, hd⟩
  · exact h.submit hd hbuffer hresubmit

theorem hasRoom_of_allocate {size bufferSize : Nat} (h : allocate size bufferSize = .ok p) :
    p.HasRoom bufferSize := by
  intro slot buffer hparked
  rw [allocate_eq_ok h] at hparked
  rw [List.getElem?_replicate] at hparked
  split at hparked
  · cases hparked
    rfl
  · cases hparked

/-- **A new pool** hands buffers with the room that they were allocated with to its device. -/
theorem hasRoom_submitAll {size bufferSize : Nat} {result : Except TransferError Nat}
    (hallocate : allocate size bufferSize = .ok p) (hd : d.HasRoom bufferSize)
    (hsubmit : p.submitAll d = (result, p', d')) :
    p'.HasRoom bufferSize ∧ d'.HasRoom bufferSize := by
  rw [submitAll, cancelRequested_of_allocate hallocate] at hsubmit
  refine of_submitEach (motive := fun p d => p.HasRoom bufferSize ∧ d.HasRoom bufferSize) ?_ ?_
    List.nodup_range (fun slot _ => not_inFlight_of_allocate hallocate slot) hsubmit
    ⟨hasRoom_of_allocate hallocate, hd⟩
  · rintro p d slot buffer result p' d' ⟨hp, hd⟩ hparked hone
    exact hp.submit hd (hp slot buffer hparked) hone
  · rintro p d slot ⟨hp, hd⟩ -
    exact ⟨hp.put (by simp) rfl, hd⟩

end TransferPool

end LogicAnalyzer
