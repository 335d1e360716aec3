import LogicAnalyzer.Proofs.Capture.Calls
import LogicAnalyzer.Proofs.Capture.Keeping
import LogicAnalyzer.Proofs.Device.Streaming

/-!
# What calls show of a device

The trace of a transport shows the bytes that reports bring, the reads that fail and the buffers that
are refused.  It is all that there is to see: what was received and what is still to be streamed are
what was queued, and nothing fails that the device was not told to fail.

## Main definitions

* `receivedBytes`, `failuresSeen`: the bytes and the failures that some calls show
* `ShowsSame`: two traces show the same
* `Accounts`: the calls are true of the device

## Main results

* `Accounts.keeps`, `Accounts.next`: they stay true whatever a capture asks
* `shows_of_received`, `shows_of_failed`, `shows_of_refusal`: what single calls show
-/

namespace LogicAnalyzer

/-! ## What calls show -/

/-- The bytes that a call brings. -/
def Call.bytes : Call → List UInt8
  | .next (some ⟨_, buffer, .received⟩) => buffer.bytes
  | _ => []

/-- **The failure that a call shows**: that of a read, or the fault of a buffer that was refused. -/
def Call.failure? : Call → Option TransferError
  | .next (some ⟨_, _, .failed e⟩) => some e
  | .submit _ false => some .fault
  | _ => none

/-- A submission fails with a fault or not at all. -/
theorem Call.eq_fault_of_mem {slot : Nat} {taken : Bool} {e : TransferError}
    (h : e ∈ (Call.submit slot taken).failure?) : e = .fault := by
  cases taken with
  | true => exact absurd h (Option.not_mem_none e)
  | false => exact (Option.mem_some.mp h).symm

/-- **The bytes that some calls brought**, in order. -/
def receivedBytes (calls : List Call) : List UInt8 := calls.flatMap Call.bytes

/-- **The failures that some calls show**, in order. -/
def failuresSeen (calls : List Call) : List TransferError := calls.filterMap Call.failure?

@[simp] theorem receivedBytes_append (calls more : List Call) :
    receivedBytes (calls ++ more) = receivedBytes calls ++ receivedBytes more := List.flatMap_append

@[simp] theorem failuresSeen_append (calls more : List Call) :
    failuresSeen (calls ++ more) = failuresSeen calls ++ failuresSeen more := List.filterMap_append

@[simp] theorem receivedBytes_singleton (call : Call) : receivedBytes [call] = call.bytes :=
  List.append_nil _

@[simp] theorem failuresSeen_singleton (call : Call) :
    failuresSeen [call] = call.failure?.toList := by
  cases h : call.failure? <;> simp [failuresSeen, h]

/-- The two traces show the same. -/
structure ShowsSame (calls more : List Call) : Prop where
  bytes : receivedBytes more = receivedBytes calls
  failures : failuresSeen more = failuresSeen calls

theorem ShowsSame.refl (calls : List Call) : ShowsSame calls calls := ⟨rfl, rfl⟩

theorem ShowsSame.trans {calls more others : List Call} (h : ShowsSame calls more)
    (h' : ShowsSame more others) : ShowsSame calls others :=
  ⟨h'.bytes.trans h.bytes, h'.failures.trans h.failures⟩

/-- A call that shows nothing. -/
theorem showsSame_append {calls : List Call} {call : Call} (hbytes : call.bytes = [])
    (hfailure : call.failure? = none) : ShowsSame calls (calls ++ [call]) := by
  constructor
  · rw [receivedBytes_append, receivedBytes_singleton, hbytes, List.append_nil]
  · rw [failuresSeen_append, failuresSeen_singleton, hfailure, Option.toList_none, List.append_nil]

/-! ## Single calls -/

section

variable {t t' : Traced SimulatedDevice} {event : ReadEvent} {calls : List Call}

/-- The report of received bytes shows these. -/
theorem shows_of_received (hcalls : t.calls = calls ++ [.next (some event)])
    (houtcome : event.outcome = .received) :
    receivedBytes t.calls = receivedBytes calls ++ event.buffer.bytes ∧
      failuresSeen t.calls = failuresSeen calls := by
  obtain ⟨slot, buffer, outcome⟩ := event
  subst houtcome
  rw [hcalls, receivedBytes_append, receivedBytes_singleton, failuresSeen_append,
    failuresSeen_singleton]
  exact ⟨rfl, List.append_nil _⟩

/-- The report of a failure shows that. -/
theorem shows_of_failed {e : TransferError}
    (hcalls : t.calls = calls ++ [.next (some event)]) (houtcome : event.outcome = .failed e) :
    receivedBytes t.calls = receivedBytes calls ∧
      failuresSeen t.calls = failuresSeen calls ++ [e] := by
  obtain ⟨slot, buffer, outcome⟩ := event
  subst houtcome
  rw [hcalls, receivedBytes_append, receivedBytes_singleton, failuresSeen_append,
    failuresSeen_singleton]
  exact ⟨List.append_nil _, rfl⟩

/-- The report of a cancellation shows nothing. -/
theorem showsSame_of_cancelled (hcalls : t.calls = calls ++ [.next (some event)])
    (houtcome : event.outcome = .cancelled) : ShowsSame calls t.calls := by
  obtain ⟨slot, buffer, outcome⟩ := event
  subst houtcome
  rw [hcalls]
  exact showsSame_append rfl rfl

/-- A buffer that is taken back shows nothing. -/
theorem showsSame_of_resubmit {p pool : TransferPool} {slot : Nat} {buffer : Buffer}
    (h : p.resubmit t slot buffer = (.ok (), pool, t')) : ShowsSame t.calls t'.calls := by
  unfold TransferPool.resubmit at h
  split at h
  · cases h
    exact .refl _
  · obtain ⟨t₁, htaken, heq⟩ | ⟨e, t₁, -, heq⟩ := TransferPool.submit_cases t p slot buffer
    · cases heq.symm.trans h
      rw [(Traced.submit_inner htaken).2]
      exact showsSame_append rfl rfl
    · cases heq.symm.trans h

/-- A buffer that is refused shows a fault. -/
theorem shows_of_refusal {p pool : TransferPool} {slot : Nat} {buffer : Buffer} {e : TransferError}
    (h : p.resubmit t slot buffer = (.error e, pool, t')) :
    e = .fault ∧ receivedBytes t'.calls = receivedBytes t.calls ∧
      failuresSeen t'.calls = failuresSeen t.calls ++ [.fault] := by
  unfold TransferPool.resubmit at h
  split at h
  · cases h
  · obtain ⟨t₁, -, heq⟩ | ⟨e', t₁, hrefused, heq⟩ := TransferPool.submit_cases t p slot buffer
    · cases heq.symm.trans h
    · cases heq.symm.trans h
      obtain ⟨hinner, hcalls⟩ := Traced.submit_inner hrefused
      rw [hcalls, receivedBytes_append, receivedBytes_singleton, failuresSeen_append,
        failuresSeen_singleton]
      exact ⟨SimulatedDevice.eq_fault_of_submit hinner, List.append_nil _, rfl⟩

end

/-! ## The device -/

/-- **Calls that are true of the device** that had this to stream at first, and is told that this
read fails: the bytes that they brought, followed by what it has still to stream, are what it had,
and they show no failure that it was not told of. -/
structure Accounts (stream : List UInt8) (fault : Option (Nat × TransferError))
    (t : Traced SimulatedDevice) : Prop where
  stream : receivedBytes t.calls ++ t.inner.stream = stream
  cleared : t.inner.Cleared
  completionFailure : t.inner.completionFailure = fault
  injected : ∀ e ∈ failuresSeen t.calls, e = .fault ∨ ∃ index, fault = some (index, e)

namespace Accounts

variable {stream : List UInt8} {fault : Option (Nat × TransferError)} {t t' : Traced SimulatedDevice}

/-- One more call. -/
theorem append {call : Call} (h : Accounts stream fault t) (hcalls : t'.calls = t.calls ++ [call])
    (hstream : t.inner.stream = call.bytes ++ t'.inner.stream) (hcleared : t'.inner.Cleared)
    (hfault : t'.inner.completionFailure = t.inner.completionFailure)
    (hfailure : ∀ e ∈ call.failure?, e = .fault ∨ ∃ index, fault = some (index, e)) :
    Accounts stream fault t' where
  stream := by
    rw [hcalls, receivedBytes_append, receivedBytes_singleton, List.append_assoc, ← hstream]
    exact h.stream
  cleared := hcleared
  completionFailure := hfault.trans h.completionFailure
  injected := by
    intro e he
    rw [hcalls, failuresSeen_append, failuresSeen_singleton, List.mem_append] at he
    rcases he with he | he
    · exact h.injected e he
    · exact hfailure e (Option.mem_toList.mp he)

/-- One more call that shows nothing. -/
theorem append_silent {call : Call} (h : Accounts stream fault t)
    (hcalls : t'.calls = t.calls ++ [call]) (hbytes : call.bytes = [])
    (hfailure : call.failure? = none) (hstream : t'.inner.stream = t.inner.stream)
    (hcleared : t'.inner.Cleared)
    (hfault : t'.inner.completionFailure = t.inner.completionFailure) :
    Accounts stream fault t' := by
  refine h.append hcalls ?_ hcleared hfault ?_
  · rw [hbytes, hstream, List.nil_append]
  · intro e he
    rw [hfailure] at he
    exact absurd he (Option.not_mem_none e)

/-- **Whatever a capture asks** shows what becomes of the device. -/
theorem keeps : Transport.Keeps (Accounts stream fault) where
  send t frame h := by
    have hkept := SimulatedDevice.streamKept_send t.inner frame
    exact h.append_silent rfl rfl rfl hkept.stream (hkept.cleared h.cleared)
      (SimulatedDevice.completionFailure_send t.inner frame)
  submit t slot buffer h := by
    have hkept := SimulatedDevice.undisturbed_submit t.inner slot buffer
    refine h.append rfl hkept.stream.symm (hkept.cleared h.cleared)
      (SimulatedDevice.completionFailure_submit ..) ?_
    exact fun e he => .inl (Call.eq_fault_of_mem he)
  cancelAll t h := by
    have hkept := SimulatedDevice.undisturbed_cancelAll t.inner
    exact h.append_silent rfl rfl rfl hkept.stream (hkept.cleared h.cleared) rfl

/-- **A report** brings the bytes that it takes off the stream, and fails only as the device is
told. -/
theorem next (h : Accounts stream fault t) : Accounts stream fault (Transport.next t).2 := by
  rcases hnext : Transport.next t with ⟨_ | ⟨slot, buffer, outcome⟩, t'⟩
  · obtain ⟨hinner, hcalls⟩ := Traced.next_inner hnext
    have hsame : t'.inner = t.inner := SimulatedDevice.next_none hinner
    refine h.append_silent hcalls rfl rfl ?_ ?_ ?_
    · rw [hsame]
    · rw [hsame]
      exact h.cleared
    · rw [hsame]
  · obtain ⟨hinner, hcalls⟩ := Traced.next_inner hnext
    obtain ⟨hstream, hnothing⟩ := SimulatedDevice.stream_of_next hinner h.cleared
    refine h.append hcalls ?_ (SimulatedDevice.cleared_of_next hinner h.cleared) ?_ ?_
    · cases outcome with
      | received => exact hstream
      | failed e => rwa [hnothing nofun] at hstream
      | cancelled => rwa [hnothing nofun] at hstream
    · exact SimulatedDevice.completionFailure_next hinner
    · intro e he
      cases outcome with
      | failed e' =>
        cases he
        rw [← h.completionFailure]
        exact .inr (SimulatedDevice.exists_of_next_failed hinner rfl)
      | received => cases he
      | cancelled => cases he

end Accounts

end LogicAnalyzer
