import NamespaceScan.Text.Basic

/-!
# Log records

A record says what happened, how important that is and which part of the
program reports it. Records are data: the parts of the program only produce
them, and a registry decides later which of them are shown.
-/

namespace NamespaceScan.Log

/-- How important a record is; a larger rank is more important. -/
structure Level where
  rank : Int
deriving DecidableEq

namespace Level

/-- No level of its own. -/
def unset : Level := ⟨0⟩
def debug : Level := ⟨10⟩
def info : Level := ⟨20⟩
def warning : Level := ⟨30⟩
def error : Level := ⟨40⟩
def critical : Level := ⟨50⟩

instance : LE Level := ⟨fun a b => a.rank ≤ b.rank⟩

instance : LT Level := ⟨fun a b => a.rank < b.rank⟩

instance (a b : Level) : Decidable (a ≤ b) := inferInstanceAs (Decidable (a.rank ≤ b.rank))

instance (a b : Level) : Decidable (a < b) := inferInstanceAs (Decidable (a.rank < b.rank))

/-- The name of a level; levels between the named ones are numbered. -/
def name (level : Level) : Text :=
  if level = unset then "NOTSET"
  else if level = debug then "DEBUG"
  else if level = info then "INFO"
  else if level = warning then "WARNING"
  else if level = error then "ERROR"
  else if level = critical then "CRITICAL"
  else "Level " ++ Text.ofInt level.rank

/-- The level that a number of requests for more detail asks for. -/
def ofVerbosity (count : Int) : Level :=
  if count ≤ 0 then warning else if count = 1 then info else debug

end Level

/-- The name of the logger above all others of the program. -/
def rootName : Text := "closuredeps"

/-- One report. -/
structure Record where
  /-- The full name of the logger. -/
  logger : Text
  level : Level
  message : Text
  /-- A trace of the error that led to the record follows it. -/
  hasTrace : Bool := false

/-- A record of the part of the program with the given name. -/
def Record.ofPart (part : String) (level : Level) (message : List Text) : Record :=
  { logger := rootName ++ "." ++ part, level, message := Text.concat message }

/-- The short form of a record: its level and its message. -/
def Record.brief (r : Record) : Text := r.level.name ++ ": " ++ r.message

end NamespaceScan.Log
