import MultiTarget.Placeholder

/-!
# `MultiTarget.Template`: text with placeholders

A text is cut into literals and placeholders. Every occurrence of a token
is a placeholder; all else, other braces included, is literal. Two
literals never stand side by side, and none is empty.

`Template.substitute` puts the values of a target in place of the
placeholders, all at once; a placeholder without a value keeps its token.

Specification 4.2. `parse`, `substitute` and `join` are `parse`, `substitute`
and `substitute_segments`; `substituteIn` is `substitute_value`.
-/

set_option autoImplicit false

namespace MultiTarget.Template

open Placeholder (Values)

/-- A part of a text. -/
inductive Segment where
  | literal (text : List Char)
  | placeholder (named : Placeholder)
  deriving DecidableEq, Repr

/-- Put a character before segments, into the literal they start with if they
do. So literals never stand side by side and none is empty. -/
def Segment.push (c : Char) : List Segment → List Segment
  | .literal text :: rest => .literal (c :: text) :: rest
  | segments => .literal [c] :: segments

/-- The segments of a text after the next `skip` characters, which belong to a
token. Counting them off keeps the recursion on the characters, one at a
time. -/
def segmentsFrom : Nat → List Char → List Segment
  | _, [] => []
  | skip + 1, _ :: rest => segmentsFrom skip rest
  | 0, c :: rest =>
    -- No token begins another one, so at most one starts here.
    match Placeholder.atStart? (c :: rest) with
    | some named => .placeholder named :: segmentsFrom (named.token.length - 1) rest
    | none => Segment.push c (segmentsFrom 0 rest)

/-- The segments of a text. -/
def parse (text : String) : List Segment := segmentsFrom 0 text.toList

/-- A segment with its value in place. -/
def Segment.resolve (values : Values) : Segment → List Char
  | .literal text => text
  | .placeholder named =>
    match values.get? named with
    | some value => value.toList
    | none => named.token

/-- Segments with their values in place, joined. A value is not looked into: a
token inside it stays. -/
def join (values : Values) (segments : List Segment) : String :=
  String.ofList (segments.flatMap (Segment.resolve values))

/-- A text with values in place of placeholders. All tokens are found before
any is replaced. -/
def substitute (values : Values) (text : String) : String := join values (parse text)

mutual

/-- Substitute in every string inside a value. Keys stay as they are, and so
does all that is no string. -/
def substituteIn (values : Values) : Json → Json
  | .str text => .str (substitute values text)
  | .arr items => .arr (substituteItems values items)
  | .obj entries => .obj (substituteEntries values entries)
  | .null => .null
  | .bool b => .bool b
  | .int n => .int n
  | .double x => .double x

/-- Substitute in every item. -/
def substituteItems (values : Values) : List Json → List Json
  | [] => []
  | item :: rest => substituteIn values item :: substituteItems values rest

/-- Substitute in the value of every entry. -/
def substituteEntries (values : Values) : List (String × Json) → List (String × Json)
  | [] => []
  | (key, value) :: rest => (key, substituteIn values value) :: substituteEntries values rest

end

end MultiTarget.Template
