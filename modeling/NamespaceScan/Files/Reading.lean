import NamespaceScan.Files.Encoding
import NamespaceScan.Files.Host
import NamespaceScan.Log.Traced

/-!
# Reading files

A file is read as a whole. Octets become text by an encoding; every line ends
in a line feed afterwards, whatever ended it in the file. The file is looked up
again under its resolved path, which may be too long although the given one is
not.
-/

namespace NamespaceScan

/-- Every line ends in a line feed: a carriage return, alone or before a line
feed, becomes one. -/
def Text.unifyLines : Text → Text
  | [] => []
  | 0x0D :: 0x0A :: rest => 0x0A :: unifyLines rest
  | c :: rest => (if c = 0x0D then 0x0A else c) :: unifyLines rest

namespace Host

/-- The size in octets up to which a file is read. -/
def sizeLimit : Int := 10 * 1024 * 1024

/-- The failure of a reading. -/
def unread (message : List Text) (path : Text) (cause : Option Text) : Problem :=
  .failure (.file (.text (Text.concat message)) (some path) (some "read") cause)

/-- The text of the file at a path. -/
def read (host : Host) (p : Path) (limit : Option Int) (encoding : Encoding) :
    Except Problem Text :=
  match host.look p with
  | .error fault => .error (.fault fault)
  | .ok none => .error (unread ["File not found: ", p.toText] p.toText none)
  | .ok (some spot) =>
    match spot.entry with
    | .file octets =>
      match host.resolve p with
      | .error fault => .error (.fault fault)
      | .ok location =>
        match host.look (Path.ofLocation location) with
        | .error fault => .error (.fault fault)
        | .ok _ =>
          let path := Location.toText location
          if limit.any fun most => most < (octets.size : Int) then
            .error (unread
              ["File too large: ", Text.ofNat octets.size, " bytes (max ",
                Text.ofInt (limit.getD 0), ")"] path none)
          else
            match encoding.decode octets with
            | .error (.octets reason) =>
              .error (unread ["Failed to read file: ", reason] path (some reason))
            | .error (.fault fault) => .error (.fault fault)
            | .ok text => .ok text.unifyLines
    | _ => .error (unread ["Not a file: ", p.toText] p.toText none)

/-- The text of a source file. -/
def readSource (host : Host) (p : Path) : Except Problem Text :=
  host.read p (some sizeLimit) .utf8

end Host

end NamespaceScan
