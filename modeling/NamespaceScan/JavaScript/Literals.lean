import NamespaceScan.JavaScript.Goal

/-!
# Literals with a structure

Regular expressions and templates are read by characters. A template's parts
are runs of characters, single escapes, and expressions in braces.
-/

namespace NamespaceScan.JavaScript

open NamespaceScan.JavaScript.Parser

/-- A regular expression; the current token is a slash. -/
def regex : Parser Concrete := do
  let start := (← peek).start
  let first := start.next
  match patternEnd? first.left false first with
  | none => failure
  | some stop =>
    let flagsEnd := stop.skipWhile fun c => 0x61 ≤ c.val && c.val ≤ 0x7A
    let pattern : Concrete :=
      { type := "regex_pattern", start := first.offset, stop := stop.offset - 1, row := first.row }
    let flags :=
      if flagsEnd.offset = stop.offset then [] else [span "regex_flags" stop flagsEnd []]
    resume flagsEnd
    return span "regex" start flagsEnd (pattern :: flags)

/-- How many of at most `limit` code points are octal digits. -/
def octalRun (limit : Nat) (t : Text) : Nat :=
  ((t.take limit).takeWhile fun c => c.octalValue?.isSome).length

/-- The length of an escape in a template, its backslash included. -/
def templateEscape (t : Text) : Nat :=
  match nameEscape? t, t with
  | some length, _ => length
  | none, 0x5C :: 0x78 :: a :: b :: _ => if (Text.hexNumber? [a, b]).isSome then 4 else 2
  | none, 0x5C :: c :: rest =>
    if c.octalValue?.isSome then 1 + octalRun 3 (c :: rest) else plainEscape t
  | none, _ => 1

/-- Behind a run of template characters. -/
def templateChars : Nat → Cursor → Cursor
  | 0, k => k
  | fuel + 1, k =>
    match k.rest with
    | [] => k
    | 0x24 :: 0x7B :: _ => k
    | c :: _ => if c = 0x60 || c = 0x5C then k else templateChars fuel k.next

/-- An expression in a template's braces, from the cursor behind the opening
brace; also where the template goes on. -/
def substitution (rules : Rules) (start : Cursor) : Parser (Concrete × Cursor) := do
  resume (start.skip 2)
  let inner ← rules.enclosed
  let close ← peek
  if close.isMark "\x7d" then
    return (span "template_substitution" start close.stop [inner], close.stop)
  else failure

/-- One more part of a template, if it does not end here. -/
def templatePart (rules : Rules) : List Concrete × Cursor → Parser (Option (List Concrete × Cursor))
  | (parts, k) => do
    let run := templateChars k.left k
    if run.offset ≠ k.offset then return some (span "string_fragment" k run [] :: parts, run)
    match k.rest with
    | [] => failure
    | 0x60 :: _ => return none
    | 0x5C :: _ =>
      let stop := k.skip (templateEscape k.rest)
      return some (span "escape_sequence" k stop [] :: parts, stop)
    | _ =>
      let (part, stop) ← substitution rules k
      return some (part :: parts, stop)

/-- A template; the current token is its opening back quote. -/
def template (rules : Rules) : Parser Concrete := do
  let start := (← peek).start
  let (parts, stop) ← iterate (templatePart rules) ([], start.next)
  resume stop.next
  return span "template_string" start stop.next parts.reverse

end NamespaceScan.JavaScript
