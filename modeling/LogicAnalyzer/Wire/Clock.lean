/-!
# Clock sources

Samples are taken at the ticks of a clock inside the device or at the edges of an external
one.  Having no clock at all is how the device is shut down.

## Main definitions

* `ClockSource`: where the ticks come from
* `ClockSource.code`, `ofCode?`: the byte that selects it, and back
-/

namespace LogicAnalyzer

/-- Where the sampling ticks come from. -/
inductive ClockSource where
  /-- Nowhere: the device is shut down. -/
  | none
  /-- The clock inside the device. -/
  | internal
  /-- The rising edges of the external input. -/
  | externalRisingEdge
  /-- The falling edges of the external input. -/
  | externalFallingEdge
deriving DecidableEq, Repr

namespace ClockSource

instance : Inhabited ClockSource := ⟨internal⟩

/-- All sources, in the order of their codes. -/
def all : List ClockSource := [none, internal, externalRisingEdge, externalFallingEdge]

/-- The byte that selects a source. -/
def code : ClockSource → UInt8
  | none => 0
  | internal => 1
  | externalRisingEdge => 2
  | externalFallingEdge => 3

/-- The source that a byte selects. -/
def ofCode? (code : UInt8) : Option ClockSource := all.find? fun source => source.code == code

/-- Whether the ticks come from outside. -/
def isExternal : ClockSource → Bool
  | none | internal => false
  | externalRisingEdge | externalFallingEdge => true

theorem ofCode?_code (source : ClockSource) : ofCode? source.code = some source := by
  cases source <;> rfl

end ClockSource

end LogicAnalyzer
