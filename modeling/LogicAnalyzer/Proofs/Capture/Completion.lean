import LogicAnalyzer.Proofs.Capture.Configuration
import LogicAnalyzer.Proofs.Capture.Keeping
import LogicAnalyzer.Proofs.Capture.Start

/-!
# Running a capture to its end

A run polls until a poll says that the capture has finished.  It leaves what further polls would
leave, since those find no capture running.  On the way the recording keeps its header.

## Main results

* `Controller.poll_of_answer_idle`: a poll that finds no capture running changes nothing
* `Rehearsal.run_of_follow`: a run goes on up to the end of a capture
* `Rehearsal.persists_header`: a capture keeps the header of its recording
-/

namespace LogicAnalyzer

namespace Controller

variable {τ σ : Type} [Transport τ] [Sink σ] {c : Controller τ σ}

/-- **A poll** says at its end how the capture stands, if one is running. -/
theorem exists_poll_eq_finishIfDrained (c : Controller τ σ) :
    ∃ c₁ : Controller τ σ, c.poll = c₁.finishIfDrained ∧ (c₁.acquisition = none → c.acquisition = none) := by
  have hany : Transport.KeepsReads fun _ : τ => True := ⟨fun _ _ _ _ => trivial, fun _ _ => trivial⟩
  obtain ⟨c₁, hpoll, -, hrunning⟩ := hany.exists_of_poll (c := c) (fun _ _ => trivial) trivial
  exact ⟨c₁, hpoll, hrunning⟩

/-- A poll that finds no capture running changes nothing. -/
theorem poll_of_answer_idle (h : c.poll.1 = .idle) : c.poll.2 = c := by
  cases hc : c.acquisition with
  | none => rw [poll_of_idle hc]
  | some a =>
    obtain ⟨c₁, hpoll, hrunning⟩ := c.exists_poll_eq_finishIfDrained
    rw [hpoll, finishIfDrained] at h
    split at h
    · rename_i hnone
      rw [hrunning hnone] at hc
      cases hc
    · split at h <;> cases h

omit [Sink σ] in
/-- The beginning of the end delivers nothing. -/
theorem sink_beginStop (c : Controller τ σ) (reason : EndReason) :
    (c.beginStop reason).sink = c.sink := by
  obtain ⟨-, heq⟩ | ⟨a, -, -, heq⟩ := beginStop_cases c reason <;> rw [heq]

end Controller

namespace Rehearsal

variable {c after : Rehearsing} {trailer : StreamTrailer}

/-- Polls that find no capture running change nothing. -/
theorem follow_of_idle {n idle : Nat}
    (h : (follow c (List.replicate n .poll)).1 = List.replicate idle .idle) :
    (follow c (List.replicate n .poll)).2 = c := by
  induction n generalizing c idle with
  | zero => rfl
  | succ n ih =>
    cases idle with
    | zero => cases h
    | succ idle =>
      obtain ⟨hfirst, hrest⟩ := List.cons.inj h
      have hsame := Controller.poll_of_answer_idle hfirst
      rw [hsame] at hrest
      show (follow c.poll.2 (List.replicate n .poll)).2 = c
      rw [hsame]
      exact ih hrest

/-- **A run goes on up to the end of the capture.**  It gives the trailer that polls come to, and
leaves what they leave. -/
theorem run_of_follow {n running idle : Nat}
    (h : follow c (List.replicate n .poll) =
      (List.replicate running .running ++ .finished trailer :: List.replicate idle .idle, after)) :
    c.run = some (.ok trailer, after) := by
  induction n generalizing c running with
  | zero => cases running <;> cases h
  | succ n ih =>
    rw [List.replicate_succ, follow] at h
    obtain ⟨hanswers, hafter⟩ := Prod.mk.inj h
    rcases hpoll : c.poll with ⟨answer, c₁⟩
    rw [hpoll] at hanswers hafter
    cases running with
    | zero =>
      obtain ⟨rfl, hidle⟩ := List.cons.inj hanswers
      obtain rfl : c₁ = after := (follow_of_idle hidle).symm.trans hafter
      exact loop_of_inr (by simp only [Controller.runNext, hpoll])
    | succ running =>
      obtain ⟨rfl, hrest⟩ := List.cons.inj hanswers
      have hnext : Controller.runNext c = .inl c₁ := by simp only [Controller.runNext, hpoll]
      exact (loop_of_inl hnext).trans (ih (Prod.ext hrest hafter))

/-- A capture keeps the header of the recording it is delivered to. -/
theorem persists_header (header : Option StreamHeader) :
    Controller.Persists fun c : Rehearsing => c.sink.header = header where
  withTransport _ h := h
  handles {c _ a event} _ hhandles h := by
    have hfed : (Sink.takeAll c.sink (a.delivers event.buffer.bytes)).header = header :=
      (Recording.extends_takeAll_deliveries ..).header.trans h
    cases hhandles with
    | parks why => exact h
    | fails stopping outcome asked => rwa [Controller.sink_beginStop]
    | concludes stopping outcome hreason => rwa [Controller.sink_beginStop]
    | resubmits stopping outcome hresubmit => exact hfed
    | refuses stopping outcome hresubmit => rwa [Controller.sink_beginStop]
  beginStop reason h := by rwa [Controller.sink_beginStop]
  finishIfDrained {c} h := by
    obtain hsame | ⟨trailer, htrailer⟩ := Controller.sink_finishIfDrained c
    · rwa [hsame]
    · rw [htrailer]
      exact h

theorem header_follow (n : Nat) (c : Rehearsing) :
    (follow c (List.replicate n .poll)).2.sink.header = c.sink.header := by
  induction n generalizing c with
  | zero => rfl
  | succ n ih => exact (ih c.poll.2).trans ((persists_header _).poll rfl)

end Rehearsal

end LogicAnalyzer
