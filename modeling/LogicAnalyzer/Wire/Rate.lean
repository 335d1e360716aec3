/-!
# Sample rates

The device samples at one of twenty rates.  It could do others, but only these are offered,
and a rate is taken only if it is one of them exactly.

## Main definitions

* `SampleRate.offered`: the rates in hertz, fastest first
* `SampleRate.isOffered`: whether a rate is one of them
-/

namespace LogicAnalyzer.SampleRate

/-- The fastest rate. -/
def fastest : UInt64 := 125000000

/-- The slowest rate. -/
def slowest : UInt64 := 100

/-- The rates in hertz, fastest first. -/
def offered : List UInt64 :=
  [fastest, 100000000, 50000000, 20000000, 10000000, 5000000, 2000000, 1000000, 500000, 200000,
    100000, 50000, 20000, 10000, 5000, 2000, 1000, 500, 200, slowest]

/-- The rate of a session that has not chosen one. -/
def standard : UInt64 := fastest

/-- Whether a rate is offered. -/
def isOffered (rate : UInt64) : Bool := offered.contains rate

theorem isOffered_iff {rate : UInt64} : isOffered rate = true ↔ rate ∈ offered := by
  simp [isOffered]

end LogicAnalyzer.SampleRate
