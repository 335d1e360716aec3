/-!
# Loops

A loop takes a step again and again.  A step leads to another state, or gives the result of the
loop.  A loop need not come to a result; it does if every step brings it closer to one.

## Main definitions

* `loop`: the result of a loop, if it comes to one

## Main results

* `exists_loop`, `exists_of_loop`: when a loop comes to a result, and what the result keeps
* `loop_map`: loops whose steps agree
-/

namespace LogicAnalyzer

variable {α β : Type} (step : α → α ⊕ β)

/-- **Takes the step again and again** until it gives a result.  There is none if it never does. -/
def loop (state : α) : Option β :=
  match step state with
  | .inl next => by
    -- written as a tactic, the call leaves no note of its position in the term
    apply loop
    exact next
  | .inr result => some result
partial_fixpoint

variable {step} {state next : α} {result : β}

theorem loop_of_inl (h : step state = .inl next) : loop step state = loop step next := by
  rw [loop, h]

theorem loop_of_inr (h : step state = .inr result) : loop step state = some result := by
  rw [loop, h]

/-- **A loop comes to a result** if every step brings it closer to one. -/
theorem exists_loop (measure : α → Nat)
    (h : ∀ state next, step state = .inl next → measure next < measure state) (state : α) :
    ∃ result, loop step state = some result := by
  induction hn : measure state using Nat.strongRecOn generalizing state with
  | ind n ih =>
    cases hstep : step state with
    | inl next =>
      rw [loop_of_inl hstep]
      exact ih (measure next) (hn ▸ h state next hstep) next rfl
    | inr result => exact ⟨result, loop_of_inr hstep⟩

/-- **A loop that comes to a result** keeps on its way what every step keeps. -/
theorem exists_of_loop {motive : α → Prop}
    (hstep : ∀ state next, motive state → step state = .inl next → motive next)
    (hloop : loop step state = some result) (hstate : motive state) :
    ∃ last, motive last ∧ step last = .inr result := by
  have hresult := loop.partial_correctness step
    (fun state result => motive state → ∃ last, motive last ∧ step last = .inr result) ?_
    state result hloop
  · exact hresult hstate
  · intro recurse hrecurse state result heq hstate
    split at heq
    · rename_i next hnext
      exact hrecurse next result heq (hstep state next hstate hnext)
    · rename_i last hlast
      cases heq
      exact ⟨state, hstate, hlast⟩

/-- **A loop in another guise**: if the steps agree along `f`, so do the loops. -/
theorem loop_map {α' β' : Type} {step' : α' → α' ⊕ β'} (f : α → α') (g : β → β')
    (h : ∀ state, step' (f state) = (step state).map f g) (state : α) :
    loop step' (f state) = (loop step state).map g := by
  have hforth : ∀ state result, loop step state = some result →
      loop step' (f state) = some (g result) := by
    apply loop.partial_correctness
    intro recurse hrecurse state result heq
    split at heq
    · rename_i next hnext
      have hnext' : step' (f state) = .inl (f next) := by rw [h, hnext]; rfl
      rw [loop_of_inl hnext']
      exact hrecurse next result heq
    · rename_i last hlast
      cases heq
      exact loop_of_inr (by rw [h, hlast]; rfl)
  have hback : ∀ state' result', loop step' state' = some result' →
      ∀ state, f state = state' → ∃ result, loop step state = some result ∧ g result = result' := by
    apply loop.partial_correctness
    rintro recurse hrecurse _ result' heq state rfl
    rw [h] at heq
    cases hstep : step state with
    | inl next =>
      rw [hstep] at heq
      rw [loop_of_inl hstep]
      exact hrecurse (f next) result' heq next rfl
    | inr last =>
      rw [hstep] at heq
      exact ⟨last, loop_of_inr hstep, Option.some.inj heq⟩
  cases hloop : loop step state with
  | some result => exact hforth state result hloop
  | none =>
    apply Option.eq_none_iff_forall_ne_some.mpr
    intro result' hresult'
    obtain ⟨result, hresult, -⟩ := hback (f state) result' hresult' state rfl
    rw [hloop] at hresult
    cases hresult

end LogicAnalyzer
