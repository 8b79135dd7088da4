import MultiTarget.Decimal.FloatStyle
import MultiTarget.Yaml.Style

/-!
# `MultiTarget.Yaml.Write`: values as YAML text

Maps and lists are written as blocks, one entry or item per line and two
columns per level; a list that is the value of a key stands in the column
of the key. Empty maps and lists are written as a pair of brackets.
Lines are never folded.

Manifests are written with it (specification X.6.15).
-/

set_option autoImplicit false

namespace MultiTarget.Yaml

/-! ### Scalars -/

/-- The letter of an escape sequence. -/
def escapeLetter? (c : Char) : Option Char :=
  match c.toNat with
  | 0x00 => some '0'
  | 0x07 => some 'a'
  | 0x08 => some 'b'
  | 0x09 => some 't'
  | 0x0A => some 'n'
  | 0x0B => some 'v'
  | 0x0C => some 'f'
  | 0x0D => some 'r'
  | 0x1B => some 'e'
  | 0x22 => some '"'
  | 0x5C => some '\\'
  | 0x85 => some 'N'
  | 0xA0 => some '_'
  | 0x2028 => some 'L'
  | 0x2029 => some 'P'
  | _ => none

/-- A number in at least `width` hexadecimal digits. -/
def hexadecimal (width n : Nat) : List Char :=
  let digits := (Nat.toDigits 16 n).map Char.toUpper
  List.replicate (width - digits.length) '0' ++ digits

/-- An escape sequence for a character. -/
def escape (c : Char) : List Char :=
  match escapeLetter? c with
  | some letter => ['\\', letter]
  | none =>
    let n := c.toNat
    if n ≤ 0xFF then '\\' :: 'x' :: hexadecimal 2 n
    else if n ≤ 0xFFFF then '\\' :: 'u' :: hexadecimal 4 n
    else '\\' :: 'U' :: hexadecimal 8 n

/-- A character inside double quotation marks. -/
def doubleQuotedChar (c : Char) : List Char :=
  if isPrintable c && !isBreak c && c != '"' && c != '\\' then [c] else escape c

/-- The text inside single quotation marks: a quotation mark is written
twice, and what follows line breaks is indented. Texts with a line feed
are not written in this style. -/
def singleQuotedBody (indent : Nat) (lineStart : Bool) : List Char → List Char
  | [] => if lineStart then List.replicate indent ' ' else []
  | c :: rest =>
    if isBreak c then c :: singleQuotedBody indent true rest
    else
      (if lineStart then List.replicate indent ' ' else []) ++
        (if c == '\'' then ['\'', '\''] else [c]) ++ singleQuotedBody indent false rest

/-- The lines of a literal block: all but the empty ones are indented. -/
def literalBody (indent : Nat) (lineStart : Bool) : List Char → List Char
  | [] => []
  | c :: rest =>
    if isBreak c then c :: literalBody indent true rest
    else
      (if lineStart then List.replicate indent ' ' else []) ++
        c :: literalBody indent false rest

/-- How a literal block says where it begins and ends: the depth of its
indentation if the text begins with blanks, a minus if it ends without a
line break, a plus if it ends with an empty line. -/
def literalHints (cs : List Char) : List Char :=
  let depth := if firstIs (fun c => c == ' ' || isBreak c) cs then ['2'] else []
  let ending := match cs.reverse with
    | [c] => if isBreak c then ['+'] else ['-']
    | c :: d :: _ => if !isBreak c then ['-'] else if isBreak d then ['+'] else []
    | [] => ['-']
  depth ++ ending

/-- Written text, and whether its last line is ended. -/
structure Written where
  text : List Char
  ended : Bool

/-- Written text within a line. -/
def Written.inLine (text : List Char) : Written := ⟨text, false⟩

/-- A text as a scalar whose further lines are indented. -/
def writeText (indent : Nat) (text : String) : Written :=
  let cs := text.toList
  match Style.ofText text with
  | .literal | .folded =>
    ⟨'|' :: literalHints cs ++ '\n' :: literalBody indent true cs, lastIs isBreak cs⟩
  | .plain => .inLine cs
  | .singleQuoted => .inLine ('\'' :: singleQuotedBody indent false cs ++ ['\''])
  | .doubleQuoted => .inLine ('"' :: cs.flatMap doubleQuotedChar ++ ['"'])

/-! ### Collections -/

/-- Where a value is written. -/
inductive Place where
  /-- At the start of a document. -/
  | document
  /-- After a key, in the map at a column. -/
  | afterKey (column : Nat)
  /-- After the mark of an item or of a long key or its value, the mark
  standing at a column. -/
  | afterMark (column : Nat)
  deriving DecidableEq, Repr

namespace Place

/-- The column of a map. -/
def mapColumn : Place → Nat
  | document => 0
  | afterKey column => column + 2
  | afterMark column => column + 2

/-- The column of a list; after a key it is that of the key. -/
def listColumn : Place → Nat
  | document => 0
  | afterKey column => column
  | afterMark column => column + 2

/-- What separates a scalar from what stands before it. -/
def gap : Place → List Char
  | document => []
  | _ => [' ']

/-- What stands before a collection at a column. -/
def lead : Place → Nat → List Char
  | document, _ => []
  | afterKey _, column => '\n' :: List.replicate column ' '
  | afterMark _, _ => [' ']

end Place

/-- What stands before a further entry at a column. -/
def nextLine (column : Nat) (before : Written) : List Char :=
  (if before.ended then [] else ['\n']) ++ List.replicate column ' '

/-- A key with its mark at a column, and the place of its value. -/
def writeKey (column : Nat) (key : String) : List Char × Place :=
  let written := writeText (column + 2) key
  if Style.isSimpleKey key then (written.text ++ [':'], .afterKey column)
  else ('?' :: ' ' :: written.text ++ nextLine column written ++ [':'], .afterMark column)

mutual

/-- A value at a place. -/
def writeAt (place : Place) : Json → Written
  | .null => .inLine (place.gap ++ "null".toList)
  | .bool flag => .inLine (place.gap ++ (if flag then "true" else "false").toList)
  | .int n => .inLine (place.gap ++ (toString n).toList)
  | .double d => .inLine (place.gap ++ (Decimal.FloatStyle.yaml.render d).toList)
  | .str text =>
    let written := writeText place.mapColumn text
    ⟨place.gap ++ written.text, written.ended⟩
  | .arr [] => .inLine (place.gap ++ ['[', ']'])
  | .arr (item :: rest) =>
    let column := place.listColumn
    let first := writeAt (.afterMark column) item
    let others := writeItems column first rest
    ⟨place.lead column ++ '-' :: first.text ++ others.text, others.ended⟩
  | .obj [] => .inLine (place.gap ++ ['\x7b', '\x7d'])
  | .obj ((key, value) :: rest) =>
    let column := place.mapColumn
    let (keyText, valuePlace) := writeKey column key
    let first := writeAt valuePlace value
    let others := writeEntries column first rest
    ⟨place.lead column ++ keyText ++ first.text ++ others.text, others.ended⟩

/-- Further items of a list at a column. -/
def writeItems (column : Nat) (before : Written) : List Json → Written
  | [] => ⟨[], before.ended⟩
  | item :: rest =>
    let written := writeAt (.afterMark column) item
    let others := writeItems column written rest
    ⟨nextLine column before ++ '-' :: written.text ++ others.text, others.ended⟩

/-- Further entries of a map at a column. -/
def writeEntries (column : Nat) (before : Written) : List (String × Json) → Written
  | [] => ⟨[], before.ended⟩
  | (key, value) :: rest =>
    let (keyText, valuePlace) := writeKey column key
    let written := writeAt valuePlace value
    let others := writeEntries column written rest
    ⟨nextLine column before ++ keyText ++ written.text ++ others.text, others.ended⟩

end

/-- A value as a document. -/
def write (value : Json) : String :=
  let written := writeAt .document value
  String.ofList (written.text ++ nextLine 0 written)

/-- Values as a stream of documents. -/
def writeAll (values : List Json) : String :=
  String.join (values.map fun value => "---\n" ++ write value)

end MultiTarget.Yaml
