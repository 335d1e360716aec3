import LogicAnalyzer.Session.Basic

/-!
# Settings by option

Three options of a session can be read and written.  The clock option is a truth value and
can tell only whether the ticks come from outside; written, it selects the rising edges of
the external input or the internal clock.

## Main definitions

* `Session.getOption`: the value of an option
* `Session.setOption`: gives an option a value
-/

namespace LogicAnalyzer.Session

variable {τ : Type}

/-- The value of an option; a rate that is not chosen yet reads as zero. -/
def getOption (s : Session τ) : OptionKey → Except OptionError OptionValue
  | .sampleRate => .ok (.word (s.sampleRate.getD 0))
  | .limitSamples => .ok (.word s.sampleLimit)
  | .externalClock => .ok (.flag s.clockSource.isExternal)
  | key => .error (.notApplicable key)

/-- **Gives an option a value.**  The key decides which type of value it takes; keys that are
not settings take none. -/
def setOption [Transport τ] (s : Session τ) (key : OptionKey) (value : OptionValue) :
    Except Failure Unit × Session τ :=
  match key, value with
  | .sampleRate, .word rate => s.setSampleRate rate
  | .limitSamples, .word limit => (.ok (), s.setSampleLimit limit)
  | .externalClock, .flag external =>
    s.setClockSource (if external then .externalRisingEdge else .internal)
  | .sampleRate, value | .limitSamples, value =>
    (.error (.option (.typeMismatch key .word value.type)), s)
  | .externalClock, value => (.error (.option (.typeMismatch key .flag value.type)), s)
  | key, _ => (.error (.option (.notApplicable key)), s)

end LogicAnalyzer.Session
