import NamespaceScan.Console.Codes
import NamespaceScan.Console.Message
import NamespaceScan.Console.Table

/-!
# Screens

How texts are shown is not decided by the program. It hands plain texts, messages and tables to a
screen, and prints what the screen makes of them. `Screen.standard` lays them out in the columns
of the console, without colors.
-/

namespace NamespaceScan.Console

/-- Shows texts on the console. -/
structure Screen where
  /-- A plain text for an output that a terminal reads, or for another one. -/
  echoed : (terminal : Bool) → Text → Text
  /-- A message in the style of its mood. Its text is not marked text. -/
  message : Environment → Mood → Text → Text
  /-- A table, unless its marked texts have errors. -/
  drawn : Environment → Table → Except Fault Text

namespace Screen

/-- Codes for terminals are left out where no terminal reads them; long lines are broken. -/
def standard : Screen where
  echoed terminal text := if terminal then text else withoutCodes text
  message env _ text := laidOut env text
  drawn env table := table.toText (width env)

/-- A message with its label. -/
def spoken (screen : Screen) (env : Environment) (mood : Mood) (text : Text) : Text :=
  screen.message env mood (labelled mood.label text)

/-- A message on the output where it belongs. -/
def output (screen : Screen) (env : Environment) (mood : Mood) (text : Text) : Output :=
  match mood with
  | .success => { results := screen.spoken env mood text }
  | .error | .warning => { complaints := screen.spoken env mood text }

end Screen

end NamespaceScan.Console
