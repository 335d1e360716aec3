import LogicAnalyzer.Session.Option
import LogicAnalyzer.Session.Status
import LogicAnalyzer.Transfer.Pool
import LogicAnalyzer.Wire.Command

/-!
# Failures

An operation of a session or a capture can fail in any of the layers below it.  A failure
keeps the error of that layer, and its message says which layer it was.

## Main definitions

* `Failure`: the error of some layer
* `Failure.message`: its text
-/

namespace LogicAnalyzer

/-- The error of one of the layers. -/
inductive Failure where
  /-- A command could not be encoded. -/
  | command (error : CommandError)
  /-- The session was not in the right status. -/
  | session (error : SessionError)
  | transfer (error : TransferError)
  /-- Memory could not be had. -/
  | allocation (error : AllocationError)
  | trigger (error : TriggerError)
  | option (error : OptionError)
deriving DecidableEq, Repr

/-- The text of a failure. -/
def Failure.message : Failure → String
  | command error => "Protocol error: " ++ error.message
  | session error => "Session error: " ++ error.message
  | transfer error => "Transfer error: " ++ error.message
  | allocation error => "Resource error: " ++ error.message
  | trigger error => "Trigger configuration error: " ++ error.message
  | option error => "Configuration error: " ++ error.message

end LogicAnalyzer
