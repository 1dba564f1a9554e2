import NamespaceScan.Extraction
import NamespaceScan.Path
import NamespaceScan.Report.Document
import NamespaceScan.Tree.Literal

/-!
# Dependencies of a source file

The namespaces that a file provides and requires, with the file's path and the
lines of its syntax errors, and the forms in which they are reported.
-/

namespace NamespaceScan

/-- What one source file provides and requires. -/
structure Dependencies where
  path : Path
  found : Extraction
  /-- The lines of the syntax errors. -/
  errorLines : List Nat := []

namespace Dependencies

/-- Whether the file provides or requires anything. -/
def hasNames (d : Dependencies) : Bool := !d.found.isEmpty

/-- Whether the file has syntax errors. -/
def hasErrors (d : Dependencies) : Bool := !d.errorLines.isEmpty

/-- The path as it is reported: as it is, or seen from a base. -/
def reportedPath (cwd : Location) (base : Option Path) (d : Dependencies) : Path :=
  match base with
  | none => d.path
  | some base => d.path.relativeTo cwd base

/-- The namespaces as string literals, separated by commas. -/
def literals (names : Names) : Text := Text.joinWith ", " (names.toList.map Literal.quote)

/-- A path between the quotes of a literal: its quotes are escaped. -/
def quotable (path : Text) : Text := Text.substitute 0x27 "\\'" path

/-- The line that registers the file with a loader. -/
def line (cwd : Location) (base : Option Path) (d : Dependencies) : Text :=
  Text.concat
    ["goog.addDependency('", quotable (d.reportedPath cwd base).toText, "', [",
      literals d.found.provides, "], [", literals d.found.requires, "]);"]

/-- The names as structured data. -/
def nameList (names : Names) : Document := .list (names.toList.map .text)

/-- The error lines as an entry, which is left out when there are none. -/
def errorEntry (d : Dependencies) : List (Text × Document) :=
  if d.hasErrors then [("syntax_error_lines", .list (d.errorLines.map .number))] else []

/-- The dependencies as structured data. -/
def document (cwd : Location) (base : Option Path) (d : Dependencies) : Document :=
  .table
    (("path", .text (d.reportedPath cwd base).toText) ::
      ("provides", nameList d.found.provides) ::
      ("requires", nameList d.found.requires) :: d.errorEntry)

end Dependencies

end NamespaceScan
