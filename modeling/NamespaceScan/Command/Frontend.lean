import NamespaceScan.Command.Options

/-!
# Frontends

How the words of a command line are understood is not decided by the program. A frontend tells
what they and the environment ask for, or ends the run before its work begins: with a text that
is shown, or with a refusal. It is asked twice, since the options of the command are read only
after the settings are loaded.

`Frontend.standard` reads the words as `CommandLine.read` does.
-/

namespace NamespaceScan.Command

/-- Understands the words of command lines. -/
structure Frontend where
  /-- What is asked for before the command, and the words behind the command's name. -/
  program : Host → Environment → List Text → Except Stop (ProgramOptions × List Text)
  /-- What the words behind the command's name ask for. -/
  scan : Host → Environment → List Text → Except Stop ScanOptions

namespace Frontend

/-- The word that calls for a scan. -/
def scanWord : Text := "scan"

/-- The words behind the command's name. A name with a dash is read as an
option once more before it is refused. -/
def commandWords (host : Host) (env : Environment) : List Text → Except Stop (List Text)
  | [] => .error { ending := Ending.misuse .program "Missing command." }
  | name :: rest =>
    if name = scanWord then .ok rest
    else
      let unknown : Stop :=
        { ending := Ending.misuse .program (Text.concat ["No such command ", name.quoted, "."]) }
      if CommandLine.isOption name then
        (ProgramOptions.read host env (name :: rest)).bind fun _ => .error unknown
      else .error unknown

/-- The options are those that the help texts list. -/
def standard : Frontend where
  program host env arguments :=
    match ProgramOptions.read host env arguments with
    | .error stop => .error stop
    | .ok (options, words) => (commandWords host env words).map fun rest => (options, rest)
  scan host _ arguments := ScanOptions.read host arguments

end Frontend

end NamespaceScan.Command
