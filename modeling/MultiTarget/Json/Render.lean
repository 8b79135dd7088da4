import MultiTarget.Decimal.FloatStyle
import MultiTarget.Json

/-!
# `MultiTarget.Json.Render`: JSON text

Compact text has no white space; indented text has one item per line,
two spaces per level and no line inside an empty list or map. In quoted
text a quotation mark, a backslash and the characters below U+0020 are
escaped, all others stand for themselves.
-/

set_option autoImplicit false

namespace MultiTarget

namespace Json

/-- A hexadecimal digit in lower case. -/
def hexDigit (n : Nat) : Char := (Nat.digitChar n)

/-- The written form of one character of a quoted text. -/
def escapeChar (c : Char) : List Char :=
  match c with
  | '"' => ['\\', '"']
  | '\\' => ['\\', '\\']
  | '\n' => ['\\', 'n']
  | '\r' => ['\\', 'r']
  | '\t' => ['\\', 't']
  | '\x08' => ['\\', 'b']
  | '\x0c' => ['\\', 'f']
  | c =>
    if c.toNat < 0x20 then ['\\', 'u', '0', '0', hexDigit (c.toNat / 16), hexDigit (c.toNat % 16)]
    else [c]

/-- Text between quotation marks. -/
def quote (text : String) : String :=
  String.ofList ('"' :: (text.toList.flatMap escapeChar ++ ['"']))

/-- Texts joined by a separator. -/
def joinWith (separator : String) : List String → String
  | [] => ""
  | first :: rest => rest.foldl (fun text next => text ++ separator ++ next) first

/-- The text of a double; a value that is not finite has none in JSON
and is written as `null`. -/
def renderDouble (d : Decimal.Double) : String :=
  if d.isFinite then Decimal.FloatStyle.json.render d else "null"

mutual

/-- The compact text of a value. -/
def compact : Json → String
  | .null => "null"
  | .bool true => "true"
  | .bool false => "false"
  | .int n => toString n
  | .double d => renderDouble d
  | .str text => quote text
  | .arr items => "[" ++ joinWith "," (compactItems items) ++ "]"
  | .obj entries => "\x7b" ++ joinWith "," (compactEntries entries) ++ "\x7d"

/-- The compact texts of the values of a list. -/
def compactItems : List Json → List String
  | [] => []
  | item :: rest => compact item :: compactItems rest

/-- The compact texts of the entries of a map. -/
def compactEntries : List (String × Json) → List String
  | [] => []
  | (key, value) :: rest => (quote key ++ ":" ++ compact value) :: compactEntries rest

end

/-- A line break and the indentation of a level. -/
def lineAt (level : Nat) : String := String.ofList ('\n' :: List.replicate (2 * level) ' ')

mutual

/-- The indented text of a value that starts at a level. -/
def indentedAt (level : Nat) : Json → String
  | .null => "null"
  | .bool true => "true"
  | .bool false => "false"
  | .int n => toString n
  | .double d => renderDouble d
  | .str text => quote text
  | .arr [] => "[]"
  | .arr (item :: rest) =>
    let inner := lineAt (level + 1)
    "[" ++ inner ++
      joinWith ("," ++ inner) (indentedAt (level + 1) item :: indentedItems (level + 1) rest) ++
      lineAt level ++ "]"
  | .obj [] => "\x7b\x7d"
  | .obj ((key, value) :: rest) =>
    let inner := lineAt (level + 1)
    "\x7b" ++ inner ++
      joinWith ("," ++ inner)
        ((quote key ++ ": " ++ indentedAt (level + 1) value) ::
          indentedEntries (level + 1) rest) ++
      lineAt level ++ "\x7d"

/-- The indented texts of the values of a list. -/
def indentedItems (level : Nat) : List Json → List String
  | [] => []
  | item :: rest => indentedAt level item :: indentedItems level rest

/-- The indented texts of the entries of a map. -/
def indentedEntries (level : Nat) : List (String × Json) → List String
  | [] => []
  | (key, value) :: rest =>
    (quote key ++ ": " ++ indentedAt level value) :: indentedEntries level rest

end

/-- The indented text of a value. -/
def indented (value : Json) : String := indentedAt 0 value

end Json

end MultiTarget
