import NamespaceScan.Command.Ending

/-!
# Help

The texts about the usage of the program, and the refusals of what a user
wrote.
-/

namespace NamespaceScan.Command

/-- The version of the program. -/
def version : Text := "0.1.0"

/-- The line that shows the version. -/
def versionLine : Text := Text.concat [Log.rootName, " ", version, "\n"]

/-- What help is given on. -/
inductive Topic where
  | program
  | scan
deriving DecidableEq

namespace Topic

/-- The words that call for the topic. -/
def path : Topic → Text
  | .program => "closuredeps"
  | .scan => "closuredeps scan"

/-- The line that shows the form of a call. -/
def usage (topic : Topic) : Text :=
  Text.concat
    ["Usage: ", topic.path,
      match topic with
      | .program => " [OPTIONS] COMMAND [ARGS]...\n"
      | .scan => " [OPTIONS] [PATHS]...\n"]

/-- The lines below the usage line. -/
def explanation : Topic → List Text
  | .program =>
    ["",
      "  List the goog.provide / goog.require namespaces of JavaScript files.",
      "",
      "  Examples:",
      "    closuredeps scan src/",
      "    closuredeps scan src/ --format deps --base src/ -o src/deps.js",
      "    closuredeps -v scan app.js --format json",
      "",
      "Options:",
      "  -c, --config FILE     Configuration file (default: closuredeps.toml or",
      "                        pyproject.toml).",
      "  -v, --verbose         Log progress to stderr; -vv adds debug details.",
      "  --color / --no-color  Colorize terminal output.",
      "  --version             Show the version and exit.",
      "  -h, --help            Show this message and exit.",
      "",
      "Commands:",
      "  scan  Extract goog.provide / goog.require namespaces from PATHS."]
  | .scan =>
    ["",
      "  Extract goog.provide / goog.require namespaces from PATHS.",
      "",
      "  PATHS may be files or directories (default: current directory). Directories",
      "  are searched recursively for files with the configured extensions.",
      "",
      "  Exits:     0 on success, 1 if a file cannot be read or, in strict mode,",
      "  contains syntax errors.",
      "",
      "Options:",
      "  -f, --format [table|simple|json|deps]",
      "                                  Output format.",
      "  -o, --output FILE               Write output to a file instead of stdout",
      "                                  (not for table format).",
      "  --base DIRECTORY                Directory that reported paths are relative",
      "                                  to (default: cwd).",
      "  --ext TEXT                      File extension to scan inside directories",
      "                                  (repeatable).",
      "  --exclude-dir TEXT              Additional directory name to skip",
      "                                  (repeatable).",
      "  --strict / --no-strict          Fail on syntax errors instead of scanning",
      "                                  the recovered tree.",
      "  --include-empty                 Also list files without",
      "                                  goog.provide/goog.require calls.",
      "  -h, --help                      Show this message and exit."]

/-- The whole help text. -/
def help (topic : Topic) : Text := topic.usage ++ topic.explanation.flatMap (· ++ [0x0A])

end Topic

namespace Ending

/-- A refusal that only gives its reason. -/
def refusal (status : Nat) (reason : Text) : Ending :=
  .refused status (Text.concat ["Error: ", reason, "\n"])

/-- A refusal that reminds of the usage. -/
def misuse (topic : Topic) (reason : Text) : Ending :=
  .refused 2
    (Text.concat
      [topic.usage, "Try '", topic.path, " --help' for help.\n\nError: ", reason, "\n"])

end Ending

/-- The complaint about a program that cannot be started, on a platform of the
given version. -/
def startupComplaint (platform reason : Text) : Text :=
  Text.concat
    ["closuredeps CLI could not be started.\nPython version : ", platform,
      "\nclosuredeps version: ", version, "\nImportError: ", reason, "\n"]

end NamespaceScan.Command
