/-!
# Trigger conditions

A trigger fires when every armed channel does what its condition asks: holds a level, or
moves to one.  A condition is named by one character.

## Main definitions

* `TriggerCondition`: what one channel has to do
* `TriggerCondition.toChar`, `ofChar?`: its name and back
* `TriggerCondition.isEdge`, `level`: the two bits that the device is given
* `TriggerCondition.ofBits`: the condition with given bits

## Main results

* `TriggerCondition.ofChar?_toChar`, `toChar_of_ofChar?`: names are one to one
* `TriggerCondition.ofBits_isEdge_level`: the bits determine the condition
-/

namespace LogicAnalyzer

/-- What a channel has to do for the trigger to fire. -/
inductive TriggerCondition where
  | low
  | high
  /-- Go from low to high. -/
  | rising
  /-- Go from high to low. -/
  | falling
deriving DecidableEq, Repr, Inhabited

namespace TriggerCondition

/-- All conditions, in the order in which they are advertised. -/
def all : List TriggerCondition := [low, high, rising, falling]

/-- The character that names a condition. -/
def toChar : TriggerCondition → Char
  | low => '0'
  | high => '1'
  | rising => 'r'
  | falling => 'f'

/-- The condition that a character names. -/
def ofChar? (c : Char) : Option TriggerCondition := all.find? fun condition => condition.toChar == c

/-- Whether the condition is a change of level. -/
def isEdge : TriggerCondition → Bool
  | low | high => false
  | rising | falling => true

/-- The level to hold, or the one that the edge ends on. -/
def level : TriggerCondition → Bool
  | low | falling => false
  | high | rising => true

/-- The condition with the given edge bit and level bit. -/
def ofBits : (edge level : Bool) → TriggerCondition
  | false, false => low
  | false, true => high
  | true, true => rising
  | true, false => falling

/-- The names of all conditions, one after another. -/
def alphabet : String := String.ofList (all.map toChar)

theorem ofChar?_toChar (condition : TriggerCondition) :
    ofChar? condition.toChar = some condition := by
  cases condition <;> rfl

theorem toChar_of_ofChar? {c : Char} {condition : TriggerCondition}
    (h : ofChar? c = some condition) : condition.toChar = c := by
  simpa using List.find?_some h

theorem ofBits_isEdge_level (condition : TriggerCondition) :
    ofBits condition.isEdge condition.level = condition := by
  cases condition <;> rfl

end TriggerCondition

end LogicAnalyzer
