import NamespaceScan.Console.Markup
import NamespaceScan.Console.Wrap
import NamespaceScan.Environment

/-!
# Messages

Messages tell a person how a run went. They have a label before their text and
go to one of two outputs: results to the first, complaints to the second.
-/

namespace NamespaceScan.Console

/-- What a message is about. -/
inductive Mood where
  | success
  | error
  | warning
deriving DecidableEq

/-- The label before a message. -/
def Mood.label : Mood → Text
  | .success => "[OK]"
  | .error => "[ERROR]"
  | .warning => "[WARNING]"

/-- The width that is assumed when none is given. -/
def defaultWidth : Nat := 80

/-- The number of columns of the console. -/
def width (env : Environment) : Nat :=
  match env.get? "COLUMNS" with
  | some digits =>
    if digits ≠ [] ∧ digits.all CodePoint.isDigit then
      digits.foldl (fun n c => 10 * n + (c.val - 0x30)) 0
    else defaultWidth
  | none => defaultWidth

/-- A text as it is printed in lines. It is not marked text. -/
def laidOut (env : Environment) (text : Text) : Text :=
  (wrap (width env) (Markup.shown (Markup.escape text))).flatMap (· ++ [0x0A])

/-- A text with a label before it. -/
def labelled (label text : Text) : Text := Text.concat [label, " ", text]

/-- A message as it is printed. -/
def message (env : Environment) (label text : Text) : Text := laidOut env (labelled label text)

/-- What a run prints. -/
structure Output where
  results : Text := []
  complaints : Text := []

namespace Output

instance : Append Output :=
  ⟨fun a b => ⟨a.results ++ b.results, a.complaints ++ b.complaints⟩⟩

end Output

end NamespaceScan.Console
