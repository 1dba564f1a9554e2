import NamespaceScan.Console.Markup
import NamespaceScan.Dependencies

/-!
# Report formats

The reports that list the dependencies of files: a plain list, a document, and
a file of registration lines. The table for the console takes its cells from
`row`.
-/

namespace NamespaceScan

namespace Report

/-- The first lines of a file of registration lines. -/
def header : Text :=
  "// This file was autogenerated by closuredeps.\n// Please do not edit.\n\n"

/-- Each text on a line of its own. -/
def lines (texts : List Text) : Text := texts.flatMap (· ++ [0x0A])

/-- The text, or something else in its place when it is empty. -/
def orElse (t other : Text) : Text := if t = [] then other else t

/-- Names in one line, a dash when there are none. -/
def inLine (names : Names) : Text := orElse (Text.joinWith ", " names.toList) "-"

/-- Three lines for each file: its path, what it provides, what it requires. -/
def simple (cwd : Location) (base : Path) (records : List Dependencies) : Text :=
  lines (records.flatMap fun d =>
    [(d.reportedPath cwd (some base)).toText, "  provides: " ++ inLine d.found.provides,
      "  requires: " ++ inLine d.found.requires])

/-- A document with one table for each file. -/
def json (cwd : Location) (base : Path) (records : List Dependencies) : Text :=
  (Document.table [("files", .list (records.map (·.document cwd (some base))))]).toText ++ [0x0A]

/-- A registration line for each file, below the header. -/
def deps (cwd : Location) (base : Path) (records : List Dependencies) : Text :=
  header ++ lines (records.map (·.line cwd (some base)))

/-- What a cell without names shows. -/
def emptyCell : Text := "[dim]-[/dim]"

/-- Names one below the other. -/
def inColumn (names : Names) : Text :=
  orElse (Text.joinWith [0x0A] (names.toList.map Markup.escape)) emptyCell

/-- The remark on a file with syntax errors. -/
def remark (d : Dependencies) : Text :=
  if d.hasErrors then
    "syntax errors: line " ++ Text.joinWith ", " (d.errorLines.map Text.ofNat)
  else []

/-- The cells of a file in the table: column and content. -/
def row (cwd : Location) (base : Path) (d : Dependencies) : List (Text × Text) :=
  [("File", Markup.escape (d.reportedPath cwd (some base)).toText),
    ("Provides", inColumn d.found.provides), ("Requires", inColumn d.found.requires),
    ("Notes", remark d)]

end Report

end NamespaceScan
