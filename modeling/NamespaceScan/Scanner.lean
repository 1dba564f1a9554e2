import NamespaceScan.Files.Reading
import NamespaceScan.Files.Search
import NamespaceScan.Settings.Basic
import NamespaceScan.Source

/-!
# Scanning

A scanner turns paths into files, and files into their dependencies.
Directories are searched; a file that is named is scanned whatever its
extension is. Each file is scanned on its own.
-/

namespace NamespaceScan

/-- How files are found and read. -/
structure Scanner where
  /-- How sources are parsed. -/
  grammar : Grammar
  extensions : List Text
  excluded : List Text
  /-- Stop at the first file with syntax errors. -/
  strict : Bool

namespace Scanner

/-- The scanner that settings ask for. -/
def ofSettings (grammar : Grammar) (settings : Settings) : Scanner :=
  { grammar, extensions := settings.extensions, excluded := settings.excluded
    strict := settings.strict }

/-- The scanner that settings ask for, with wishes that go before them: other
extensions, more excluded directories, another strictness. -/
def withWishes (grammar : Grammar) (settings : Settings) (extensions excluded : List Text)
    (strict : Option Bool) : Scanner where
  grammar := grammar
  extensions :=
    if extensions.isEmpty then settings.extensions else extensions.map normalizeExtension
  excluded := (OrderedSet.ofList (settings.excluded ++ excluded)).toList
  strict := strict.getD settings.strict

/-- The search that the scanner makes in directories. -/
def search (s : Scanner) : Search := { extensions := s.extensions, excluded := s.excluded }

/-- The failure for a path where there is nothing. -/
def missing (raw : Text) : Failure :=
  .file (.text ("Path not found: " ++ raw)) (some raw) (some "scan") none

/-- The files that one path stands for. -/
def filesOf (s : Scanner) (host : Host) (raw : Text) : Traced (OrderedSet Location) := do
  let location ← Traced.ofExcept ((host.validate (Path.ofText raw)).mapError .fault)
  let path := Path.ofLocation location
  let spot ← Traced.ofExcept ((host.look path).mapError .fault)
  if spot.any (·.entry.isDirectory) then
    let files ← s.search.run host path
    if files.isEmpty then
      Traced.note "scanner" .info ["No source files found under ", path.toText]
    return files
  else if spot.any (·.entry.isFile) then return OrderedSet.ofList [location]
  else Traced.fail (missing raw)

/-- The files that paths stand for. -/
def collect (s : Scanner) (host : Host) (paths : List Text) : Traced (OrderedSet Location) := do
  let found ← Traced.forEach (s.filesOf host) paths
  return found.foldl OrderedSet.union ∅

/-- Read and parse a file. -/
def parseFile (grammar : Grammar) (strict : Bool) (host : Host) (path : Path) :
    Traced ParsedSource := do
  let text ← Traced.ofExcept (host.readSource path)
  ParsedSource.ofText grammar strict (some path.toText) text

/-- The dependencies of one file. -/
def scanFile (s : Scanner) (host : Host) (file : Location) : Traced Dependencies := do
  let location ← Traced.ofExcept ((host.resolve (Path.ofLocation file)).mapError .fault)
  let path := Path.ofLocation location
  let source ← parseFile s.grammar s.strict host path
  let found := source.extraction
  Traced.note "scanner" .debug
    [path.toText, ": ", Text.ofNat found.provides.size, " provide(s), ",
      Text.ofNat found.requires.size, " require(s)"]
  return Dependencies.ofSource path source

/-- The dependencies of all files that paths stand for. -/
def scan (s : Scanner) (host : Host) (paths : List Text) : Traced (List Dependencies) := do
  let files ← s.collect host paths
  Traced.note "scanner" .info ["Scanning ", Text.ofNat files.size, " file(s)"]
  let records ← Traced.forEach (s.scanFile host) files.toList
  Traced.note "scanner" .info
    ["Found Closure dependency calls in ",
      Text.ofNat (records.filter (·.hasNames)).length, " of ", Text.ofNat records.length,
      " file(s)"]
  return records

end Scanner

end NamespaceScan
