import LogicAnalyzer.Trigger.Condition
import LogicAnalyzer.Wire.Rate

/-!
# Options

General purpose front ends drive devices of every kind through keys and values.  An option
is a key of that common vocabulary; a value is of one of five types.

## Main definitions

* `OptionKey`: the keys
* `OptionValue`, `OptionType`: values and their types
* `OptionKey.choices`: the values that a key can have, where they can be listed
* `OptionError`: a key or a value that does not apply
-/

namespace LogicAnalyzer

/-- A key of the common vocabulary. -/
inductive OptionKey where
  /-- Being a logic analyzer at all. -/
  | logicAnalyzer
  | sampleRate
  | limitSamples
  /-- Whether ticks come from outside. -/
  | externalClock
  | triggerType
  /-- The keys that the device knows. -/
  | deviceOptions
deriving DecidableEq, Repr

/-- The name of a key. -/
def OptionKey.name : OptionKey → String
  | logicAnalyzer => "LogicAnalyzer"
  | sampleRate => "SampleRate"
  | limitSamples => "LimitSamples"
  | externalClock => "ExternalClock"
  | triggerType => "TriggerType"
  | deviceOptions => "DeviceOptions"

/-- The type of a value. -/
inductive OptionType where
  | word
  | flag
  | text
  | rates
  | keys
deriving DecidableEq, Repr

/-- The name of a type. -/
def OptionType.name : OptionType → String
  | word => "u64"
  | flag => "bool"
  | text => "string"
  | rates => "sample rate list"
  | keys => "key list"

/-- A value of an option. -/
inductive OptionValue where
  | word (value : UInt64)
  | flag (value : Bool)
  | text (value : String)
  | rates (values : List UInt64)
  | keys (values : List OptionKey)
deriving DecidableEq, Repr

/-- The type of a value. -/
def OptionValue.type : OptionValue → OptionType
  | word _ => .word
  | flag _ => .flag
  | text _ => .text
  | rates _ => .rates
  | keys _ => .keys

/-- A key or a value that does not apply. -/
inductive OptionError where
  /-- The key cannot be used that way. -/
  | notApplicable (key : OptionKey)
  /-- The key has values of another type. -/
  | typeMismatch (key : OptionKey) (expected actual : OptionType)
deriving DecidableEq, Repr

/-- What a refused option is told. -/
def OptionError.message : OptionError → String
  | notApplicable key => "Key " ++ key.name ++ " is not applicable"
  | typeMismatch key expected actual =>
    "Key " ++ key.name ++ " expects a " ++ expected.name ++ " value, got " ++ actual.name

/-- The keys that the device knows, in the order in which they are advertised. -/
def OptionKey.advertised : List OptionKey :=
  [logicAnalyzer, sampleRate, externalClock, triggerType, limitSamples]

/-- **The values that a key can have.**  Keys whose values cannot be listed are refused. -/
def OptionKey.choices : OptionKey → Except OptionError OptionValue
  | deviceOptions => .ok (.keys advertised)
  | sampleRate => .ok (.rates SampleRate.offered)
  | triggerType => .ok (.text TriggerCondition.alphabet)
  | key => .error (.notApplicable key)

end LogicAnalyzer
