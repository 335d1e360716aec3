import LogicAnalyzer.Transfer.Pool

/-!
# What a transport is told

A transport answers, and what it was told before decides how.  Whoever wants to know what it was
told puts another one around it that passes everything on and takes it down.  Nobody notices: the
pool does over the one what it does over the other, and so does everything above it.

## Main definitions

* `Call`: an operation of a transport, with the part of the answer that matters
* `Traced τ`: a transport that takes down what it is told
* `Transport.ReadHom f`: what two transports do with reads agrees along `f`
* `Transport.Hom f`: so does what they do with commands

## Main results

* `Traced.inner_hom`: forgetting what was taken down
* `TransferPool.submitAll_hom`, `resubmit_hom`, `cancelAll_hom`, `abandon_hom`: pools do not notice
-/

namespace LogicAnalyzer

/-- An operation of a transport, with the part of the answer that matters. -/
inductive Call where
  | send (frame : Frame) (taken : Bool)
  | submit (slot : Nat) (taken : Bool)
  | cancelAll
  /-- It was asked for the next event, and gave this one. -/
  | next (event : Option ReadEvent)
  | forget

/-- A transport that takes down what it is told, oldest call first. -/
structure Traced (τ : Type) where
  inner : τ
  calls : List Call := []

instance {τ : Type} [Transport τ] : Transport (Traced τ) where
  send t frame :=
    let (result, inner) := Transport.send t.inner frame
    (result, ⟨inner, t.calls ++ [.send frame result.isOk]⟩)
  submit t slot buffer :=
    let (result, inner) := Transport.submit t.inner slot buffer
    (result, ⟨inner, t.calls ++ [.submit slot result.isOk]⟩)
  cancelAll t := ⟨Transport.cancelAll t.inner, t.calls ++ [.cancelAll]⟩
  next t :=
    let (event, inner) := Transport.next t.inner
    (event, ⟨inner, t.calls ++ [.next event]⟩)
  forget t := ⟨Transport.forget t.inner, t.calls ++ [.forget]⟩

/-- A traced transport gives the events of the transport that it is around. -/
theorem Traced.next_inner {τ : Type} [Transport τ] {t t' : Traced τ} {event : Option ReadEvent}
    (h : Transport.next t = (event, t')) :
    Transport.next t.inner = (event, t'.inner) ∧ t'.calls = t.calls ++ [.next event] := by
  cases h
  exact ⟨rfl, rfl⟩

/-- What it is asked to send is sent there. -/
theorem Traced.send_inner {τ : Type} [Transport τ] {t t' : Traced τ} {frame : Frame}
    {result : Except TransferError Unit} (h : Transport.send t frame = (result, t')) :
    Transport.send t.inner frame = (result, t'.inner) ∧
      t'.calls = t.calls ++ [.send frame result.isOk] := by
  cases h
  exact ⟨rfl, rfl⟩

/-- What it is asked to submit is submitted there. -/
theorem Traced.submit_inner {τ : Type} [Transport τ] {t t' : Traced τ} {slot : Nat}
    {buffer : Buffer} {result : Except TransferError Unit}
    (h : Transport.submit t slot buffer = (result, t')) :
    Transport.submit t.inner slot buffer = (result, t'.inner) ∧
      t'.calls = t.calls ++ [.submit slot result.isOk] := by
  cases h
  exact ⟨rfl, rfl⟩

/-- **What two transports do with reads agrees** along a map of their states. -/
structure Transport.ReadHom {τ τ' : Type} [Transport τ] [Transport τ'] (f : τ → τ') : Prop where
  submit : ∀ t slot buffer,
    Transport.submit (f t) slot buffer = (Transport.submit t slot buffer).map id f
  cancelAll : ∀ t : τ, Transport.cancelAll (f t) = f (Transport.cancelAll t)
  next : ∀ t : τ, Transport.next (f t) = (Transport.next t).map id f
  forget : ∀ t : τ, Transport.forget (f t) = f (Transport.forget t)

/-- **The operations of two transports agree** along a map of their states. -/
structure Transport.Hom {τ τ' : Type} [Transport τ] [Transport τ'] (f : τ → τ') : Prop
    extends Transport.ReadHom f where
  send : ∀ t frame, Transport.send (f t) frame = (Transport.send t frame).map id f

theorem Traced.inner_hom {τ : Type} [Transport τ] :
    Transport.Hom (Traced.inner : Traced τ → τ) where
  send _ _ := rfl
  submit _ _ _ := rfl
  cancelAll _ := rfl
  next _ := rfl
  forget _ := rfl

/-! ## Pools do not notice -/

namespace TransferPool

variable {τ τ' : Type} [Transport τ] [Transport τ'] {f : τ → τ'}

theorem submit_hom (hf : Transport.ReadHom f) (p : TransferPool) (t : τ) (slot : Nat)
    (buffer : Buffer) :
    p.submit (f t) slot buffer = (p.submit t slot buffer).map id (Prod.map id f) := by
  unfold submit
  rw [hf.submit]
  rcases Transport.submit t slot buffer.clear with ⟨result | result, t'⟩ <;> rfl

theorem submitEach_hom (hf : Transport.ReadHom f) (slots : List Nat) (p : TransferPool) (t : τ)
    (count : Nat) :
    p.submitEach (f t) count slots = (p.submitEach t count slots).map id (Prod.map id f) := by
  induction slots generalizing p t count with
  | nil => rfl
  | cons slot rest ih =>
    simp only [submitEach]
    split
    · rename_i buffer _
      rw [submit_hom hf]
      rcases p.submit t slot buffer with ⟨result | result, p', t'⟩
      · rfl
      · exact ih p' t' (count + 1)
    · exact ih ..

theorem submitAll_hom (hf : Transport.ReadHom f) (p : TransferPool) (t : τ) :
    p.submitAll (f t) = (p.submitAll t).map id (Prod.map id f) := by
  unfold submitAll
  split
  · rfl
  · exact submitEach_hom hf ..

theorem resubmit_hom (hf : Transport.ReadHom f) (p : TransferPool) (t : τ) (slot : Nat)
    (buffer : Buffer) :
    p.resubmit (f t) slot buffer = (p.resubmit t slot buffer).map id (Prod.map id f) := by
  unfold resubmit
  split
  · rfl
  · exact submit_hom hf ..

theorem cancelAll_hom (hf : Transport.ReadHom f) (p : TransferPool) (t : τ) :
    p.cancelAll (f t) = (p.cancelAll t).map id f := by
  unfold cancelAll
  split
  · rfl
  · split
    · rw [hf.cancelAll]
      rfl
    · rfl

theorem settleReady_hom (hf : Transport.ReadHom f) (p : TransferPool) (t : τ) :
    p.settleReady (f t) = (p.settleReady t).map (Prod.map id f) := by
  refine loop_map (Prod.map id f) (Prod.map id f) ?_ (p, t)
  rintro ⟨p, t⟩
  simp only [settleNext, Prod.map, id]
  rw [hf.next]
  rcases Transport.next t with ⟨_ | event, t'⟩ <;> split <;> rfl

theorem abandon_hom (hf : Transport.ReadHom f) (p : TransferPool) (t : τ) :
    p.abandon (f t) = (p.abandon t).map (Prod.map id f) := by
  unfold abandon
  rw [cancelAll_hom hf]
  rcases p.cancelAll t with ⟨p, t⟩
  dsimp only [Prod.map, id]
  rw [settleReady_hom hf]
  cases p.settleReady t with
  | none => rfl
  | some settled =>
    rcases settled with ⟨p, t⟩
    simp only [Option.map_some, Prod.map, id, Option.bind_eq_bind, Option.bind_some]
    split
    · rfl
    · rw [hf.forget]
      rfl

end TransferPool

end LogicAnalyzer
