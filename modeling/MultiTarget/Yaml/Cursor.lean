/-!
# `MultiTarget.Yaml.Cursor`: a place in a YAML text

The characters that the grammar distinguishes, and a cursor that counts
octets, lines and columns. A carriage return with a line feed is one
line break; the breaks of Latin text all stand for a line feed, the
Unicode line and paragraph separators for themselves.
-/

set_option autoImplicit false

namespace MultiTarget.Yaml

/-- A character that ends a line. -/
def isBreak (c : Char) : Bool :=
  c == '\n' || c == '\r' || c == '\x85' || c == '\u2028' || c == '\u2029'

/-- A space or a tab. -/
def isSpacing (c : Char) : Bool := c == ' ' || c == '\t'

/-- A character that may stand in a YAML text. -/
def isAllowed (c : Char) : Bool :=
  let n := c.toNat
  n == 0x09 || n == 0x0A || n == 0x0D || (0x20 ≤ n && n ≤ 0x7E) || n == 0x85 ||
    (0xA0 ≤ n && n ≤ 0xD7FF) || (0xE000 ≤ n && n ≤ 0xFFFD) || 0x10000 ≤ n

/-- A letter, a digit, a dash or an underscore. -/
def isWordChar (c : Char) : Bool := c.isAlphanum || c == '_' || c == '-'

/-- An indicator of a flow collection. -/
def isFlowIndicator (c : Char) : Bool :=
  c == ',' || c == '[' || c == ']' || c == '{' || c == '}'

/-- The text is at its end or goes on with a space, a tab or a break. -/
def atGap : List Char → Bool
  | [] => true
  | c :: _ => isSpacing c || isBreak c

/-- The text is at its end or goes on with a break. -/
def atLineEnd : List Char → Bool
  | [] => true
  | c :: _ => isBreak c

/-- The text goes on with a character that passes a test. -/
def startsWith (p : Char → Bool) : List Char → Bool
  | [] => false
  | c :: _ => p c

/-- A place in a text. -/
structure Cursor where
  /-- The number of characters of the whole text. -/
  size : Nat
  /-- What is still to be read. -/
  rest : List Char
  /-- The number of octets read, in UTF-8. -/
  index : Nat
  /-- The number of lines read. -/
  line : Nat
  /-- The number of characters read of the line. -/
  column : Nat

namespace Cursor

/-- The start of a text. -/
def start (text : List Char) : Cursor := ⟨text.length, text, 0, 0, 0⟩

/-- Go past characters of the line. -/
def skip (n : Nat) (c : Cursor) : Cursor :=
  let passed := c.rest.take n
  { c with
    rest := c.rest.drop n
    index := c.index + passed.foldl (fun size c => size + c.utf8Size) 0
    column := c.column + passed.length }

/-- Go past the characters of the line that pass a test. -/
def skipWhile (p : Char → Bool) (c : Cursor) : Cursor := c.skip (c.rest.takeWhile p).length

/-- Go past a comment. -/
def skipComment (c : Cursor) : Cursor :=
  if startsWith (· == '#') c.rest then c.skipWhile (!isBreak ·) else c

/-- Go past a break of `octets` octets, after which `rest` is left. -/
def newLine (c : Cursor) (rest : List Char) (octets : Nat) : Cursor :=
  { c with rest, index := c.index + octets, line := c.line + 1, column := 0 }

/-- Go past a line break, if there is one, with the text it stands for. -/
def takeBreak (c : Cursor) : List Char × Cursor :=
  match c.rest with
  | '\r' :: '\n' :: rest => (['\n'], c.newLine rest 2)
  | b :: rest =>
    if isBreak b then
      let stands := if b == '\u2028' || b == '\u2029' then b else '\n'
      ([stands], c.newLine rest b.utf8Size)
    else ([], c)
  | [] => ([], c)

/-- Go past a line break, if there is one. -/
def skipBreak (c : Cursor) : Cursor := c.takeBreak.2

/-- A line of the document marker `mark` starts here. -/
def atMarker (mark : Char) (c : Cursor) : Bool :=
  c.column == 0 &&
    match c.rest with
    | a :: b :: d :: rest => a == mark && b == mark && d == mark && atGap rest
    | _ => false

/-- A line starts here that ends whatever came before it. -/
def atDocumentMarker (c : Cursor) : Bool := c.atMarker '-' || c.atMarker '.'

end Cursor

end MultiTarget.Yaml
