/-!
# The status of a session

A session is brought up by initializing the device, is active until a stop begins, and
returns to being inactive when the stop is complete.

## Main definitions

* `Status`: where a session is in its life
* `SessionError`: an operation that its status does not allow
-/

namespace LogicAnalyzer

/-- Where a session is in its life. -/
inductive Status where
  /-- The device is not up. -/
  | inactive
  /-- The device is being brought up. -/
  | initializing
  | active
  /-- A capture is being stopped. -/
  | stopping
deriving DecidableEq, Repr, Inhabited

/-- The name of a status. -/
def Status.name : Status → String
  | inactive => "Inactive"
  | initializing => "Initializing"
  | active => "Active"
  | stopping => "Stopping"

/-- What needs a settled session. -/
inductive SettledAction where
  | openDevice
  | configureChannels
  | configureTriggers
deriving DecidableEq, Repr

/-- How an action is called in messages. -/
def SettledAction.name : SettledAction → String
  | openDevice => "open"
  | configureChannels => "configure channels"
  | configureTriggers => "configure triggers"

/-- An operation came at the wrong time. -/
inductive SessionError where
  /-- The device must be up. -/
  | notActive (status : Status)
  /-- The session must be settled. -/
  | invalidState (action : SettledAction) (status : Status)
  /-- A capture is running already. -/
  | acquisitionInProgress
  | noAcquisition
  /-- Having no clock is kept for shutting down. -/
  | reservedClockSource
deriving DecidableEq, Repr

/-- What such an operation is told. -/
def SessionError.message : SessionError → String
  | notActive status => "Device is not active (status " ++ status.name ++ ")"
  | invalidState action status =>
    "Cannot " ++ action.name ++ " while the device is " ++ status.name
  | acquisitionInProgress => "Acquisition still in progress"
  | noAcquisition => "No acquisition running"
  | reservedClockSource => "Clock source None is reserved for shutdown"

end LogicAnalyzer
