import NamespaceScan.Text.Quoted

/-!
# Reading a command line

Words that begin with a dash are options. A long name has two dashes, or more
than one letter; its value follows an equals sign or is the next word. Letters
behind a single dash are options of their own, until one of them takes the
rest of the word or the next word as its value. Two dashes alone end the
options.

What the options mean is left open: each name stands for a key.
-/

namespace NamespaceScan.Command

/-- One name of an option. -/
structure Switch (κ : Type) where
  name : Text
  key : κ
  takesValue : Bool := false

/-- An option as it was given, with its value if it takes one. -/
structure Given (κ : Type) where
  key : κ
  value : Text := []

/-- Why a word cannot be read. -/
inductive Misuse where
  | unknown (name : Text)
  | missingValue (name : Text)
  | unwantedValue (name : Text)
deriving DecidableEq

/-- The wording of a misuse. -/
def Misuse.message : Misuse → Text
  | .unknown name => Text.concat ["No such option ", name.quoted, "."]
  | .missingValue name => Text.concat ["Option ", name.quoted, " requires an argument."]
  | .unwantedValue name => Text.concat ["Option ", name.quoted, " does not take a value."]

/-- A command line that was read: the options in order, and the other words. -/
structure CommandLine (κ : Type) where
  options : List (Given κ) := []
  words : List Text := []

namespace CommandLine

variable {κ : Type}

def dash : CodePoint := 0x2D

/-- The word that ends the options. -/
def terminator : Text := [dash, dash]

/-- A word that is read as options. -/
def isOption (word : Text) : Bool := word.head? = some dash && 1 < word.length

/-- The switch with a name. -/
def find? (switches : List (Switch κ)) (name : Text) : Option (Switch κ) :=
  switches.find? fun s => s.name = name

/-- The options in one word, and the switch whose value is still to come. -/
structure Spelled (κ : Type) where
  options : List (Given κ) := []
  open? : Option (Switch κ) := none

/-- Letters behind a single dash. -/
def letters (switches : List (Switch κ)) : Text → Except Misuse (Spelled κ)
  | [] => .ok {}
  | c :: rest =>
    match find? switches [dash, c] with
    | none => .error (.unknown [dash, c])
    | some s =>
      if s.takesValue then
        if rest = [] then .ok { open? := some s } else .ok { options := [⟨s.key, rest⟩] }
      else do
        let spelled ← letters switches rest
        return { spelled with options := ⟨s.key, []⟩ :: spelled.options }

/-- A word with one name, and perhaps a value behind an equals sign. -/
def long (s : Switch κ) (value : Option Text) : Except Misuse (Spelled κ) :=
  match s.takesValue, value with
  | true, some value => .ok { options := [⟨s.key, value⟩] }
  | true, none => .ok { open? := some s }
  | false, some _ => .error (.unwantedValue s.name)
  | false, none => .ok { options := [⟨s.key, []⟩] }

/-- The value behind an equals sign. -/
def attached (word : Text) : Option Text :=
  match word.dropWhile (· ≠ 0x3D) with
  | [] => none
  | _ :: value => some value

/-- The options in one word. -/
def spell (switches : List (Switch κ)) (word : Text) : Except Misuse (Spelled κ) :=
  let name := word.takeWhile (· ≠ 0x3D)
  match if name.length = 2 then none else find? switches name with
  | some s => long s (attached word)
  | none =>
    if word.startsWith terminator then .error (.unknown name) else letters switches (word.drop 1)

/-- The line with options before its own. -/
def withOptions (line : CommandLine κ) (options : List (Given κ)) : CommandLine κ :=
  { line with options := options ++ line.options }

/-- The line with a word before its own. -/
def withWord (line : CommandLine κ) (word : Text) : CommandLine κ :=
  { line with words := word :: line.words }

/-- Read a command line. If options are not allowed behind other words, the
first other word ends them. -/
def read (switches : List (Switch κ)) (mixed : Bool) : List Text → Except Misuse (CommandLine κ)
  | [] => .ok {}
  | word :: rest =>
    if word = terminator then .ok { words := rest }
    else if isOption word then
      match spell switches word with
      | .error misuse => .error misuse
      | .ok spelled =>
        match spelled.open? with
        | none => (read switches mixed rest).map (·.withOptions spelled.options)
        | some s =>
          match rest with
          | [] => .error (.missingValue s.name)
          | value :: rest =>
            (read switches mixed rest).map (·.withOptions (spelled.options ++ [⟨s.key, value⟩]))
    else if mixed then (read switches mixed rest).map (·.withWord word)
    else .ok { words := word :: rest }

/-- The first option for which something is known. -/
def first? {β : Type} (line : CommandLine κ) (f : κ → Option β) : Option β :=
  line.options.findSome? fun given => f given.key

/-- The values that a function finds in the options, in order. -/
def values {β : Type} (line : CommandLine κ) (f : κ → Text → Option β) : List β :=
  line.options.filterMap fun given => f given.key given.value

end CommandLine

end NamespaceScan.Command
