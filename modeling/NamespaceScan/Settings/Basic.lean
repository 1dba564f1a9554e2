import NamespaceScan.OrderedSet
import NamespaceScan.Path
import NamespaceScan.Problem
import NamespaceScan.Text.Blank
import NamespaceScan.Text.Case

/-!
# Settings

What a project can set: the extensions of source files, the directories that
are never searched, and whether syntax errors are fatal. A section of a data
file sets some of them; it is refused as a whole when it sets anything else or
a value of the wrong type.
-/

namespace NamespaceScan

/-- The settings of a project. -/
structure Settings where
  /-- The extensions of source files, each with its dot. -/
  extensions : List Text := [".js"]
  /-- The names of directories that are never searched. -/
  excluded : List Text :=
    [".git", ".hg", ".svn", ".venv", "__pycache__", "node_modules", "venv"]
  /-- Syntax errors are fatal. -/
  strict : Bool := false
  /-- The file that the settings come from. -/
  source : Option Path := none
deriving DecidableEq

/-- An extension in lower case, with a dot in front and without blanks around
it. -/
def normalizeExtension (t : Text) : Text :=
  let trimmed := t.strip.lower
  if trimmed.startsWith [dot] then trimmed else dot :: trimmed

namespace Settings

/-- The settings as a value, as they are logged. -/
def toValue (s : Settings) : Value :=
  .table
    [("extensions", .list (s.extensions.map .text)),
      ("exclude_dirs", .list (s.excluded.map .text)), ("strict", .bool s.strict)]

/-- The keys that a section may have. -/
def knownKeys : List Text := ["extensions", "exclude_dirs", "strict"]

/-- The keys of a section that it may not have. -/
def unknownKeys (body : List (Text × Value)) : OrderedSet Text :=
  OrderedSet.ofList ((body.map (·.1)).filter fun key => !knownKeys.contains key)

/-- A refusal of a section of the file at a path. -/
def refuse {α : Type} (path : Text) (option : Option Text) (message : List Text) :
    Except Failure α :=
  .error (.config (.text (Text.concat message)) (some path) option)

/-- A text among values. -/
def asText? : Value → Option Text
  | .text t => some t
  | _ => none

/-- The texts of a list, if all of its items are texts. -/
def texts? : Value → Option (List Text)
  | .list items => items.mapM asText?
  | _ => none

/-- A list of texts. -/
def textList (path option : Text) (value : Value) : Except Failure (List Text) :=
  match texts? value with
  | some texts => .ok texts
  | none => refuse path (some option) [option, " must be a list of strings, got ", value.typeWord]

/-- The extensions that a section sets. -/
def extensionsOf (path : Text) (body : List (Text × Value)) : Except Failure (List Text) :=
  match Value.find? body "extensions" with
  | none => .ok ({} : Settings).extensions
  | some value =>
    (textList path "extensions" value).bind fun texts =>
      if texts.isEmpty then refuse path (some "extensions") ["extensions must not be empty"]
      else .ok (texts.map normalizeExtension)

/-- The excluded directories that a section sets. -/
def excludedOf (path : Text) (body : List (Text × Value)) : Except Failure (List Text) :=
  match Value.find? body "exclude_dirs" with
  | none => .ok ({} : Settings).excluded
  | some value => textList path "exclude_dirs" value

/-- The strictness that a section sets. -/
def strictOf (path : Text) (body : List (Text × Value)) : Except Failure Bool :=
  match Value.find? body "strict" with
  | none => .ok ({} : Settings).strict
  | some (.bool b) => .ok b
  | some value => refuse path (some "strict") ["strict must be a boolean, got ", value.typeWord]

/-- The settings of a section. Unknown keys are refused first, then each option
in turn. -/
def ofEntries (path : Text) (body : List (Text × Value)) : Except Failure Settings := do
  let unknown := unknownKeys body
  if !unknown.isEmpty then
    refuse path none ["Unknown configuration keys: ", Text.joinWith ", " unknown.toList]
  let extensions ← extensionsOf path body
  let excluded ← excludedOf path body
  let strict ← strictOf path body
  return { extensions, excluded, strict }

/-- The settings of a section, which should be a table. -/
def ofSection (path : Text) : Value → Except Problem Settings
  | .table entries => (ofEntries path entries).mapError .failure
  | value => .error (.fault (.notTable value.longTypeWord "keys"))

end Settings

end NamespaceScan
