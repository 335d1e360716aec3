import LogicAnalyzer.Capture.Sink

/-!
# Recordings

The simplest sink keeps a whole capture.  A new header starts it over, so it always holds
the last capture.

## Main definitions

* `Recording`: a capture as far as it was delivered
* `Recording.take`: what a delivery adds
-/

namespace LogicAnalyzer

/-- A capture as far as it was delivered. -/
structure Recording where
  /-- The header, once there is one. -/
  header : Option StreamHeader := none
  samples : List UInt64 := []
  /-- For each trigger the number of samples before it. -/
  triggers : List Nat := []
  /-- How many batches the samples came in. -/
  batches : Nat := 0
  /-- The trailer, once there is one. -/
  trailer : Option StreamTrailer := none
deriving DecidableEq, Repr, Inhabited

namespace Recording

/-- Whether the capture has ended. -/
def isFinished (r : Recording) : Bool := r.trailer.isSome

/-- **What a delivery adds.** -/
def take (r : Recording) : StreamEvent → Recording
  | .header header => { header := some header }
  | .samples batch => { r with samples := r.samples ++ batch.samples, batches := r.batches + 1 }
  | .trigger sampleIndex => { r with triggers := r.triggers ++ [sampleIndex] }
  | .trailer trailer => { r with trailer := some trailer }

instance : Sink Recording := ⟨take⟩

end Recording

end LogicAnalyzer
