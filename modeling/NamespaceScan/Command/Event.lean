import NamespaceScan.Console.Screen
import NamespaceScan.Log.Registry

/-!
# Events

What a run of the command does to be seen, in order: it makes log records,
prints messages, and prints texts. Which records are shown is decided by a
registry of loggers, and how messages look by a screen.
-/

namespace NamespaceScan.Command

open Console (Mood Output Screen)

/-- One thing to be seen of a run. -/
inductive Event where
  | record (entry : Log.Record)
  | message (mood : Mood) (text : Text)
  /-- A text for the results, as it is. -/
  | results (text : Text)
  /-- A text for the complaints. -/
  | complaints (text : Text)

namespace Event

/-- What is printed of an event apart from the log. -/
def output (screen : Screen) (env : Environment) (terminal : Bool := false) : Event → Output
  | .record _ => {}
  | .message mood text => screen.output env mood text
  | .results text => { results := text }
  | .complaints text => { complaints := screen.echoed terminal text }

/-- What is logged of an event. -/
def logged (registry : Log.Registry) (env : Environment) (terminal : Bool)
    (around : Log.Surroundings) : Event → Text
  | .record entry => registry.written env terminal around entry
  | _ => []

/-- Everything that is printed of an event; the log stands with the
complaints. -/
def printed (screen : Screen) (registry : Log.Registry) (env : Environment) (terminal : Bool)
    (around : Log.Surroundings) (event : Event) : Output :=
  event.output screen env terminal ++ { complaints := event.logged registry env terminal around }

end Event

/-- Everything that is printed of events in order. -/
def printed (screen : Screen) (registry : Log.Registry) (env : Environment) (terminal : Bool)
    (around : Log.Surroundings) (events : List Event) : Output :=
  events.foldl (fun output event => output ++ event.printed screen registry env terminal around) {}

end NamespaceScan.Command
