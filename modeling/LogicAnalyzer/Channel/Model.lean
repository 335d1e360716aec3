import LogicAnalyzer.Channel.Set

/-!
# Analyzer models

The members of the family differ in name and in the number of their inputs.  The number of
inputs fixes how many bytes a sample takes in the device's stream.

## Main definitions

* `Model`: a member of the family
* `Model.lwla1016`, `Model.lwla1034`: the two that are sold
* `Model.recordWidth`, `Model.channels`, `Model.channelName`: what follows from the inputs
-/

namespace LogicAnalyzer

/-- A member of the analyzer family. -/
structure Model where
  /-- The name it is sold under. -/
  name : String
  /-- How many inputs it has. -/
  channelCount : Nat
deriving DecidableEq, Repr, Inhabited

namespace Model

/-- The model with 16 inputs. -/
def lwla1016 : Model := ⟨"LWLA1016", 16⟩

/-- The model with 34 inputs. -/
def lwla1034 : Model := ⟨"LWLA1034", 34⟩

/-- Bytes that one sample takes in the stream: one bit per input, whole bytes. -/
def recordWidth (m : Model) : Nat := (m.channelCount + 7) / 8

/-- All inputs of the model. -/
def channels (m : Model) : ChannelSet := ChannelSet.first m.channelCount

/-- Inputs are labelled from one on the case; a label is counted in a machine word. -/
def channelName (_ : Model) (channel : Nat) : String := s!"CH{(UInt64.ofNat channel + 1).toNat}"

end Model

end LogicAnalyzer
