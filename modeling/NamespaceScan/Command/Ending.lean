import NamespaceScan.Accident
import NamespaceScan.Command.Event
import NamespaceScan.Problem

/-!
# How a run ends

A run ends by itself, by a request to exit, by a refusal of what the user
wrote, by an interruption, or by an error. Each of these has an exit status
and something to be seen.
-/

namespace NamespaceScan.Command

/-- An exit status. A truth value is one too. -/
inductive Exit where
  | status (n : Int)
  | truth (b : Bool)
deriving DecidableEq

namespace Exit

/-- All went well. -/
def success : Exit := .status 0

/-- Something went wrong. -/
def failure : Exit := .status 1

/-- The status that a value stands for. -/
def ofValue? : Value → Option Exit
  | .int n => some (.status n)
  | .bool b => some (.truth b)
  | _ => none

/-- The number of a status. -/
def number : Exit → Int
  | .status n => n
  | .truth b => if b then 1 else 0

end Exit

/-- How a run ends. -/
inductive Ending where
  /-- By itself, with a value. -/
  | returned (value : Value)
  /-- By a request to exit with a value. -/
  | exited (value : Value)
  /-- By a refusal with a status and a text. -/
  | refused (status : Nat) (text : Text)
  | interrupted
  /-- By an announced error that was not reported yet. -/
  | failed (failure : Failure)
  /-- By any other error. -/
  | unexpected (message : Text)

namespace Ending

/-- By itself, without a value. -/
def done : Ending := .returned .null

/-- With the status of a failure that was reported already. -/
def given : Ending := .exited (.int 1)

/-- The fault that an ending leads to when it is to be shown. -/
def fault? : Ending → Option Fault
  | .failed failure => failure.fault?
  | _ => none

/-- The exit status of an ending. -/
def exit : Ending → Exit
  | .returned value => (Exit.ofValue? value).getD .success
  | .exited .null => .success
  | .exited value => (Exit.ofValue? value).getD .failure
  | .refused status _ => .status status
  | .interrupted => .status 130
  | .failed _ | .unexpected _ => .failure

/-- A record about the end of a run, with a trace of the error. -/
def record (level : Log.Level) (message : List Text) : Event :=
  .record { Log.Record.ofPart "cli" level message with hasTrace := true }

/-- The details of a failure, as they are logged. -/
def detailText (failure : Failure) : Text :=
  if failure.details.isEmpty then "<none>" else (Value.table failure.details).quoted

/-- What is to be seen of an ending. -/
def events : Ending → List Event
  | .returned _ | .exited _ => []
  | .refused _ text => [.complaints text]
  | .interrupted => [.message .warning "Interrupted"]
  | .failed failure =>
    [.message .error failure.shown, record .debug ["Error details: ", detailText failure]]
  | .unexpected message =>
    [.message .error ("Unexpected error: " ++ message),
      record .error ["Unhandled exception in CLI"]]

end Ending

end NamespaceScan.Command
