import NamespaceScan.Files.Refusal
import NamespaceScan.Text.Utf8
import NamespaceScan.Value

/-!
# Failures and faults

A failure is an error that the program announces: a source with syntax errors
in strict mode, a file that cannot be read or written, settings that are not
valid. It carries details that follow its message in parentheses.

A fault is an error that no part of the program expects, such as a value of
the wrong type where a table is needed. `Problem` joins both.
-/

namespace NamespaceScan

/-- An announced error. -/
inductive Failure where
  /-- Any error, with details of its own. -/
  | general (message : Value) (details : List (Text × Value))
  /-- Syntax errors in a source, with its file and the lines. -/
  | parse (message : Value) (file : Option Text) (lines : List Int)
  /-- A file operation that did not succeed. -/
  | file (message : Value) (path operation cause : Option Text)
  /-- Settings that cannot be used. -/
  | config (message : Value) (path option : Option Text)

namespace Failure

/-- What a failure says: a text, unless it was made from outside with some other
value. -/
def message : Failure → Value
  | .general message _ => message
  | .parse message .. => message
  | .file message .. => message
  | .config message .. => message

/-- A detail that is present. -/
def detail (key : String) (value : Option Text) : List (Text × Value) :=
  (value.map fun t => ((key : Text), Value.text t)).toList

/-- The line numbers of a failure, separated by commas. -/
def lineList (lines : List Int) : Option Text :=
  if lines.isEmpty then none else some (Text.joinWith "," (lines.map Text.ofInt))

/-- The details in the order in which they are shown. -/
def details : Failure → List (Text × Value)
  | .general _ details => details
  | .parse _ source lines => detail "file" source ++ detail "lines" (lineList lines)
  | .file _ path operation cause =>
    detail "path" path ++ detail "operation" operation ++ detail "original_error" cause
  | .config _ path option => detail "config" path ++ detail "option" option

/-- The message, followed by the details if there are any. -/
def shown (f : Failure) : Text :=
  match f.details with
  | [] => f.message.shown
  | details =>
    let parts := details.map fun (key, value) => key ++ "=" ++ value.shown
    Text.concat [f.message.shown, " (", Text.joinWith ", " parts, ")"]

/-- The word for the kind of a failure. -/
def word : Failure → Text
  | .general .. => "ClosureDepsError"
  | .parse .. => "ParseError"
  | .file .. => "FileOperationError"
  | .config .. => "ConfigError"

/-- A description that names the kind. -/
def describe (f : Failure) : Text :=
  Text.concat
    [f.word, "(message=", f.message.quoted, ", details=", (Value.table f.details).quoted, ")"]

end Failure

/-- Octets that are no text in an encoding, in words: the first of them, their
position, their number, and the reason. -/
def undecodedMessage (codec : Text) (first : UInt8) (start count : Nat) (reason : Text) : Text :=
  if count = 1 then
    Text.concat
      ["'", codec, "' codec can't decode byte 0x", Text.hexDigits 2 first.toNat, " in position ",
        Text.ofNat start, ": ", reason]
  else
    Text.concat
      ["'", codec, "' codec can't decode bytes in position ", Text.ofNat start, "-",
        Text.ofNat (start + count - 1), ": ", reason]

namespace Utf8

/-- The reason for a decoding fault, in words. -/
def Fault.reason : Fault → Text
  | .invalidStart => "invalid start byte"
  | .invalidContinuation => "invalid continuation byte"
  | .unexpectedEnd => "unexpected end of data"

/-- A decoding error in words. -/
def DecodeError.message (e : DecodeError) : Text :=
  undecodedMessage "utf-8" e.first e.start e.count e.cause.reason

/-- An encoding error in words. -/
def EncodeError.message (e : EncodeError) : Text :=
  if e.count = 1 then
    Text.concat
      ["'utf-8' codec can't encode character '", Quoted.numbered e.first, "' in position ",
        Text.ofNat e.start, ": surrogates not allowed"]
  else
    Text.concat
      ["'utf-8' codec can't encode characters in position ", Text.ofNat e.start, "-",
        Text.ofNat (e.start + e.count - 1), ": surrogates not allowed"]

end Utf8

/-- An unannounced error. -/
inductive Fault where
  /-- A text with surrogates has no octets. -/
  | unencodable (error : Utf8.EncodeError)
  /-- The console cannot print a text with surrogates. -/
  | unprintable (error : Utf8.EncodeError)
  /-- Octets that are no text. -/
  | undecodable (error : Utf8.DecodeError)
  /-- Octets in units of two without a mark for the order of the octets. -/
  | noByteOrder
  /-- A name that stands for no encoding. -/
  | unknownEncoding (name : Text)
  /-- A path with a character that stands in no path. -/
  | zeroInPath
  /-- A refusal of the file system that nobody expects. -/
  | refused (refusal : Refusal)
  /-- A symbolic link that leads back to itself. -/
  | linkLoop (path : Text)
  /-- Calls of a function that are nested too deeply. -/
  | tooDeep
  /-- The home directory of an unknown user. -/
  | unknownHome
  /-- A value that is no table was asked for something only tables have. -/
  | notTable (typeWord part : Text)
  /-- A value without members was asked for one. -/
  | notContainer (typeWord : Text)
  /-- A word that names no kind of node. -/
  | unknownKind (word : Text)
  /-- A closing tag that names no open tag. -/
  | strayClosing (tag : Text) (position : Nat)
  /-- A closing tag without a name where no tag is open. -/
  | nothingToClose (position : Nat)
  /-- A style that has no meaning, and why. -/
  | unknownStyle (name reason : Text)
  /-- Values of a data file that are nested too deeply. -/
  | deepNesting (limit : Nat)
  /-- A key of a data file with too many parts. -/
  | longKey (limit : Nat)
  /-- A number with too many digits. -/
  | longNumber (limit digits : Nat)
  /-- A failure that says no text and has no details. -/
  | speechless (typeWord : Text)

namespace Fault

/-- The wording of a fault. -/
def message : Fault → Text
  | .unencodable error => error.message
  | .unprintable error =>
    error.message ++ "\n*** You may need to add PYTHONIOENCODING=utf-8 to your environment ***"
  | .undecodable error => error.message
  | .noByteOrder => "UTF-16 stream does not start with BOM"
  | .unknownEncoding name => "unknown encoding: " ++ name
  | .zeroInPath => "embedded null byte"
  | .refused refusal => refusal.message
  | .linkLoop path => "Symlink loop from " ++ path.quoted
  | .tooDeep => "maximum recursion depth exceeded"
  | .unknownHome => "Could not determine home directory."
  | .notTable typeWord part =>
    Text.concat ["'", typeWord, "' object has no attribute '", part, "'"]
  | .notContainer typeWord => Text.concat ["argument of type '", typeWord, "' is not iterable"]
  | .unknownKind word => word.quoted ++ " is not a valid NodeKind"
  | .strayClosing tag position =>
    Text.concat
      ["closing tag '", tag, "' at position ", Text.ofNat position, " doesn't match any open tag"]
  | .nothingToClose position =>
    Text.concat ["closing tag '[/]' at position ", Text.ofNat position, " has nothing to close"]
  | .unknownStyle name reason =>
    Text.concat ["Failed to get style ", name.quoted, "; ", reason]
  | .deepNesting limit =>
    Text.concat
      ["TOML inline arrays/tables are nested more than the allowed ", Text.ofNat limit, " levels"]
  | .longKey limit =>
    Text.concat ["TOML key has more than the allowed ", Text.ofNat limit, " parts"]
  | .longNumber limit digits =>
    Text.concat
      ["Exceeds the limit (", Text.ofNat limit,
        " digits) for integer string conversion: value has ", Text.ofNat digits,
        " digits; use sys.set_int_max_str_digits() to increase the limit"]
  | .speechless typeWord =>
    Text.concat ["__str__ returned non-string (type ", typeWord, ")"]

end Fault

/-- The fault of a failure that cannot be put into words. -/
def Failure.fault? (f : Failure) : Option Fault :=
  match f.details, f.message with
  | [], .text _ => none
  | [], message => some (.speechless message.typeWord)
  | _, _ => none

/-- Any error. -/
inductive Problem where
  | failure (failure : Failure)
  | fault (fault : Fault)

namespace Problem

/-- The wording of a problem. -/
def message : Problem → Text
  | .failure f => f.shown
  | .fault f => f.message

end Problem

end NamespaceScan
