import MultiTarget.Yaml.Cursor
import MultiTarget.Yaml.Scalar

/-!
# `MultiTarget.Yaml.Style`: how a text is written as a scalar

A text of several lines is written as a literal block, a text that as a
plain scalar would mean something else in single quotation marks, and
every other text plain. A style that a text does not allow gives way:
plain to single quotation marks, and all to double quotation marks,
which allow everything.
-/

set_option autoImplicit false

namespace MultiTarget.Yaml

/-- A character that is written as it is. -/
def isPrintable (c : Char) : Bool :=
  let n := c.toNat
  n == 0x0A || (0x20 ≤ n && n ≤ 0x7E) || (0xA0 ≤ n && n ≤ 0xD7FF) ||
    (0xE000 ≤ n && n ≤ 0xFFFD && n != 0xFEFF) || 0x10000 ≤ n

/-- A character that separates words, or the null character. -/
def isGap (c : Char) : Bool := isSpacing c || isBreak c || c == '\x00'

/-- A character that a plain scalar cannot begin with. -/
def isIndicator (c : Char) : Bool :=
  isFlowIndicator c || c == '#' || c == '&' || c == '*' || c == '!' || c == '|' || c == '>' ||
    c == '\'' || c == '"' || c == '%' || c == '@' || c.toNat == 0x60

/-- A character that begins a structure if a gap or the end follows. -/
def isLoneIndicator (c : Char) : Bool := c == '-' || c == '?' || c == ':'

/-- Two neighbours pass tests. -/
def hasPair (p q : Char → Bool) : List Char → Bool
  | a :: b :: rest => (p a && q b) || hasPair p q (b :: rest)
  | _ => false

/-- The first character passes a test. -/
def firstIs (p : Char → Bool) (cs : List Char) : Bool := startsWith p cs

/-- The last character passes a test. -/
def lastIs (p : Char → Bool) (cs : List Char) : Bool := startsWith p cs.reverse

namespace Style

/-- The text has several lines. -/
def isMultiline (cs : List Char) : Bool := cs.any isBreak

/-- The text starts a structure or a comment where a plain scalar is
expected, or contains one. -/
def hasIndicator (cs : List Char) : Bool :=
  firstIs isIndicator cs ||
  (match cs with
    | [c] => isLoneIndicator c
    | c :: d :: _ => isLoneIndicator c && isGap d
    | [] => false) ||
  ['-', '-', '-'].isPrefixOf cs || ['.', '.', '.'].isPrefixOf cs ||
  hasPair (· == ':') isGap cs || lastIs (· == ':') cs ||
  hasPair isGap (· == '#') cs

/-- The text can stand in single quotation marks. -/
def allowsSingleQuotes (cs : List Char) : Bool :=
  cs.all isPrintable && !hasPair isBreak (· == ' ') cs && !hasPair (· == ' ') isBreak cs

/-- The text can be plain. -/
def allowsPlain (cs : List Char) : Bool :=
  allowsSingleQuotes cs && !isMultiline cs && !hasIndicator cs &&
    !firstIs (· == ' ') cs && !lastIs (· == ' ') cs

/-- The text can be a literal block. -/
def allowsLiteral (cs : List Char) : Bool :=
  !cs.isEmpty && cs.all isPrintable && !hasPair (· == ' ') isBreak cs && !lastIs (· == ' ') cs

/-- A plain scalar of the text means the text, also to those who take
digits after a zero for a number. -/
def isPlainText (text : String) : Bool :=
  Scalar.plainMeaning text == .text && !Scalar.hasLeadingZero text.toList

/-- The text can be the key of a map on one line with its value. -/
def isSimpleKey (text : String) : Bool :=
  !isMultiline text.toList && text.utf8ByteSize ≤ 128

/-- The style of a text. -/
def ofText (text : String) : ScalarStyle :=
  let cs := text.toList
  if cs.contains '\n' then if allowsLiteral cs then .literal else .doubleQuoted
  else if isPlainText text && allowsPlain cs then .plain
  else if allowsSingleQuotes cs then .singleQuoted
  else .doubleQuoted

end Style

end MultiTarget.Yaml
