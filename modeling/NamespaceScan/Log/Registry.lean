import NamespaceScan.Log.Layout

/-!
# Loggers

Loggers have names with dots; the part before a dot names a logger above. A
record goes to the handlers of its logger and of the loggers above it, as far
as each passes records on. All names belong under one root name, and only the
logger of that name is ever given a handler that writes.

A registry holds one logger for each name that was asked for. The logger
directly above another one is the nearest one that exists; a record goes from
each logger to the one directly above it.
-/

namespace NamespaceScan.Log

/-- Where lines are written to. -/
inductive Sink where
  /-- The stream for complaints. -/
  | complaints
  /-- A stream that the caller has brought along. -/
  | given (number : Nat)
deriving DecidableEq

/-- How a writing handler shows records. -/
structure Setup where
  /-- Records below this level are dropped. -/
  level : Level := .info
  /-- Lines have the full layout. -/
  verbose : Bool := false
  /-- Levels may be colored. -/
  colored : Bool := true
  sink : Sink := .complaints
deriving DecidableEq

/-- What a logger does with a record. -/
inductive Handler where
  /-- Drop it. -/
  | silent
  /-- Write it as a line. -/
  | stream (setup : Setup)
deriving DecidableEq

/-- The setup in which a handler shows records of a level. -/
def Handler.shows? (level : Level) : Handler → Option Setup
  | .silent => none
  | .stream setup => if setup.level ≤ level then some setup else none

/-- A logger. -/
structure Logger where
  level : Level := .unset
  handlers : List Handler := []
  /-- Records go on to the logger above. -/
  passesOn : Bool := true
deriving DecidableEq

/-- The setups in which the handlers of a logger show records of a level. -/
def Logger.shows (logger : Logger) (level : Level) : List Setup :=
  logger.handlers.filterMap (Handler.shows? level)

/-- The loggers that exist, and whether logging is switched on. -/
structure Registry where
  loggers : List (Text × Logger) := []
  configured : Bool := false

/-- The names above a reversed name, the nearest first. A dot directly before
another one does not end a name of its own. -/
def namesAbove (reversed : Text) : List Text :=
  match _ : reversed.dropWhile (· ≠ (0x2E : CodePoint)) with
  | _ :: c :: before => (c :: before).reverse :: namesAbove before
  | _ => []
termination_by reversed.length
decreasing_by
  have shorter := (List.dropWhile_suffix (· ≠ (0x2E : CodePoint)) (l := reversed)).length_le
  simp_all only [List.length_cons]
  omega

/-- The names of the loggers above a logger, the nearest first. -/
def ancestors (name : Text) : List Text := namesAbove name.reverse

theorem length_lt_of_mem_namesAbove {reversed name : Text} (above : name ∈ namesAbove reversed) :
    name.length < reversed.length := by
  fun_induction namesAbove reversed with
  | case1 reversed dot c before cut ih =>
      have shorter := (List.dropWhile_suffix (· ≠ (0x2E : CodePoint)) (l := reversed)).length_le
      rw [cut, List.length_cons, List.length_cons] at shorter
      rcases List.mem_cons.mp above with rfl | further
      · rw [List.length_reverse, List.length_cons]
        omega
      · have := ih further
        omega
  | case2 => cases above

theorem length_lt_of_mem_ancestors {above name : Text} (member : above ∈ ancestors name) :
    above.length < name.length := by
  simpa using length_lt_of_mem_namesAbove member

/-- The full name of a logger that is asked for by a name or by none. -/
def fullName (name : Option Text) : Text :=
  match name with
  | none => rootName
  | some name =>
    if name = [] ∨ name = rootName then rootName
    else if Text.startsWith name (rootName ++ ".") then name
    else Text.concat [rootName, ".", name]

namespace Registry

/-- The logger with a full name. -/
def find? (r : Registry) (name : Text) : Option Logger :=
  (r.loggers.find? fun entry => entry.1 = name).map (·.2)

/-- The logger with a full name, as it would be created if there is none. -/
def logger (r : Registry) (name : Text) : Logger := (r.find? name).getD {}

/-- The root of the program's loggers. -/
def root (r : Registry) : Logger := r.logger rootName

/-- Put a logger under a full name. -/
def put (r : Registry) (name : Text) (logger : Logger) : Registry :=
  { r with loggers := (name, logger) :: r.loggers.filter fun entry => entry.1 ≠ name }

/-- The name of the nearest existing logger above a name. -/
def parentName? (r : Registry) (name : Text) : Option Text :=
  (ancestors name).find? fun above => (r.find? above).isSome

/-- The nearest existing logger above a name. -/
def parent? (r : Registry) (name : Text) : Option Logger := (r.parentName? name).bind r.find?

/-- Ask for a logger. One that would have no handler, neither of its own nor
right above it, gets a silent one. -/
def request (r : Registry) (name : Option Text) : Registry :=
  let name := fullName name
  let logger := r.logger name
  let alone := logger.handlers.isEmpty && (r.parent? name).all fun parent => parent.handlers.isEmpty
  r.put name (if alone then { logger with handlers := [.silent] } else logger)

/-- Switch logging on: the root gets one writing handler and passes nothing
on. -/
def configure (r : Registry) (setup : Setup) : Registry :=
  { r.put rootName { level := setup.level, handlers := [.stream setup], passesOn := false } with
    configured := true }

/-- Switch logging off: the root gets a silent handler. -/
def disable (r : Registry) : Registry :=
  { r.put rootName { r.root with level := .unset, handlers := [.silent] } with configured := false }

/-- A request to a registry. -/
inductive Request where
  | logger (name : Option Text)
  | configure (setup : Setup)
  | disable

/-- Carry out a request. -/
def step (r : Registry) : Request → Registry
  | .logger name => r.request name
  | .configure setup => r.configure setup
  | .disable => r.disable

/-- Carry out requests in order. -/
def run (r : Registry) (requests : List Request) : Registry := requests.foldl step r

/-! ## Records -/

/-- The logger with a name and those above it, each of them directly above the one
before. Not all of them are ancestors of the first one: `a` is one of `a.`, and
`a.` is one of `a..b`, but `a` is none of `a..b`. -/
def lineage (r : Registry) (name : Text) : List Logger :=
  match _ : r.parentName? name with
  | some above => r.logger name :: lineage r above
  | none => [r.logger name]
termination_by name.length
decreasing_by exact length_lt_of_mem_ancestors (List.mem_of_find?_eq_some ‹_›)

/-- The level from which on records count: that of the nearest logger that has
one. -/
def threshold (r : Registry) (name : Text) : Level :=
  (((r.lineage name).find? fun logger => logger.level ≠ .unset).map (·.level)).getD .warning

/-- The loggers whose handlers get a record. -/
def reached : List Logger → List Logger
  | [] => []
  | logger :: rest => if logger.passesOn then logger :: reached rest else [logger]

/-- The writing handlers that show a record. -/
def streams (r : Registry) (record : Record) : List Setup :=
  if .unset < record.level ∧ r.threshold record.logger ≤ record.level then
    (reached (r.lineage record.logger)).flatMap (·.shows record.level)
  else []

/-- A line and where it is written to. -/
structure Line where
  sink : Sink
  text : Text

/-- The lines that a record leads to, given which streams are terminals. -/
def lines (r : Registry) (env : Environment) (terminal : Sink → Bool) (around : Surroundings)
    (record : Record) : List Line :=
  (r.streams record).map fun setup =>
    { sink := setup.sink
      text := record.inLayout (if setup.verbose then Layout.full else Layout.brief)
        (setup.colored && env.allowsColor (terminal setup.sink)) around ++ [0x0A] }

/-- Everything that a record leads to, when the streams are alike. -/
def written (r : Registry) (env : Environment) (terminal : Bool) (around : Surroundings)
    (record : Record) : Text :=
  (r.lines env (fun _ => terminal) around record).flatMap (·.text)

/-- The setup that an environment allows. -/
def setupFor (env : Environment) (level : Level) (verbose : Bool) (sink : Sink := .complaints) :
    Setup :=
  { level, verbose, colored := (env.content? Environment.noColor).isNone, sink }

end Registry

end NamespaceScan.Log
