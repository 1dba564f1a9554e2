import NamespaceScan.Environment
import NamespaceScan.Log.Record
import NamespaceScan.Value

/-!
# Layouts of log lines

A layout says which parts of a record stand in its line. The name of the level
can be colored. The time and the trace of an error come from outside, because
a record does not hold them.
-/

namespace NamespaceScan.Log

/-- A part of a line. -/
inductive Part where
  | text (t : Text)
  | level
  | message
  | logger
  | time
deriving DecidableEq

/-- The parts of a line in order. -/
abbrev Layout := List Part

namespace Layout

/-- The level and the message. -/
def brief : Layout := [.level, .text ": ", .message]

/-- The time, the logger, the level and the message. -/
def full : Layout :=
  [.time, .text " - ", .logger, .text " - ", .level, .text " - ", .message]

end Layout

/-- The color of a level, as a number of the terminal; only the named levels
have one. -/
def Level.color? (level : Level) : Option Nat :=
  if level = .debug then some 36
  else if level = .info then some 32
  else if level = .warning then some 33
  else if level = .error then some 31
  else if level = .critical then some 35
  else none

/-- The name of a level, in its color if wanted. -/
def Level.label (level : Level) (colored : Bool) : Text :=
  match level.color? with
  | some number =>
    if colored then
      Text.concat ["\x1b[", Text.ofNat number, "m", level.name, "\x1b[0m"]
    else level.name
  | none => level.name

/-- What a line takes from outside of its record. -/
structure Surroundings where
  time : Text
  /-- The trace of the error that is being reported. -/
  trace : Text
  /-- Where in the program and by whom the report is made. -/
  place : List (Text × Value) := []

/-- A record in a layout. -/
def Record.inLayout (r : Record) (layout : Layout) (colored : Bool) (around : Surroundings) :
    Text :=
  let line : Text := layout.flatMap fun
    | .text t => t
    | .level => r.level.label colored
    | .message => r.message
    | .logger => r.logger
    | .time => around.time
  if r.hasTrace then
    Text.concat [line, if Text.endsWith line "\n" then [] else "\n", around.trace]
  else line

end NamespaceScan.Log
