import NamespaceScan.Dependencies
import NamespaceScan.Log.Traced
import NamespaceScan.Tree.Convert

/-!
# Sources

A source is parsed by a grammar, which may be any function from octets to
concrete trees. The grammar recovers from errors; a strict reading refuses
such a tree, a lenient one takes it with a warning.
-/

namespace NamespaceScan

open Log

/-- A way to read octets as a concrete tree. -/
abbrev Grammar := ByteArray → Concrete

/-- A source that was parsed. -/
structure ParsedSource where
  root : Node
  /-- The lines of the errors, in increasing order. -/
  errorLines : List Nat

namespace ParsedSource

/-- Whether the grammar had to recover from an error. -/
def hasErrors (p : ParsedSource) : Bool := !p.errorLines.isEmpty

/-- The namespaces of a source. -/
def extraction (p : ParsedSource) : Extraction := Extraction.ofTree p.root

/-- The name of a source in messages. -/
def label (path : Option Text) : Text :=
  match path with
  | none | some [] => "<string>"
  | some path => path

/-- The failure of a strict reading. -/
def refusal (path : Option Text) (lines : List Nat) : Failure :=
  .parse (.text ("Syntax errors in " ++ label path)) path (lines.map Int.ofNat)

/-- The tree of octets. The errors are checked before the conversion. -/
def ofOctets (grammar : Grammar) (strict : Bool) (path : Option Text) (data : ByteArray) :
    Traced ParsedSource := do
  let tree := grammar data
  let errorLines := tree.errorLines
  if !errorLines.isEmpty then
    if strict then Traced.fail (refusal path errorLines)
    else
      Traced.note "parser" .warning
        ["Syntax errors in ", label path, " at line(s) ",
          Text.joinWith ", " (errorLines.map Text.ofNat), "; using recovered tree"]
  Traced.note "parser" .debug ["Parsed ", label path, " (", Text.ofNat data.size, " bytes)"]
  return { root := tree.convert data, errorLines }

/-- The tree of a text. A text with surrogates has no octets. -/
def ofText (grammar : Grammar) (strict : Bool) (path : Option Text) (source : Text) :
    Traced ParsedSource :=
  match Utf8.encode source with
  | .error error => Traced.stop (.fault (.unencodable error))
  | .ok data => ofOctets grammar strict path data

end ParsedSource

namespace Dependencies

/-- The dependencies of a source that was parsed. -/
def ofSource (path : Path) (source : ParsedSource) : Dependencies :=
  { path, found := source.extraction, errorLines := source.errorLines }

/-- The dependencies of a text, which may have no path. -/
def ofText (grammar : Grammar) (strict : Bool) (path : Option Path) (text : Text) :
    Traced Dependencies := do
  let source ← ParsedSource.ofText grammar strict (path.map Path.toText) text
  return ofSource (path.getD (Path.ofText "<string>")) source

end Dependencies

end NamespaceScan
