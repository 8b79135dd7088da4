import MultiTarget.Yaml.Lexeme

/-!
# `MultiTarget.Yaml.Scanner`: the tokens of a YAML text

The scanner keeps the columns of the open block collections and, for
each open flow collection and the block around them, the place where a
simple key may have begun. Such a place is a pending slot among the
tokens: a colon on the same line, at most 1024 octets later, turns it
into a key, and every other slot is dropped at the end.
-/

set_option autoImplicit false

namespace MultiTarget.Yaml

/-- A token, or a place where a key may turn out to begin. -/
inductive Slot where
  | token (token : Token)
  | pending
  | key (opensMapping : Bool)

/-- The tokens that a slot stands for in the end. -/
def Slot.tokens : Slot → List Token
  | token t => [t]
  | pending => []
  | key true => [.blockMappingStart, .key]
  | key false => [.key]

/-- A place where a simple key may have begun. -/
structure SimpleKey where
  /-- The slot among the tokens. -/
  slot : Nat
  /-- Without a colon the text is malformed. -/
  isRequired : Bool
  index : Nat
  line : Nat
  column : Nat

/-- The state between two tokens. -/
structure Scanner where
  cursor : Cursor
  slots : Array Slot
  /-- The possible key of the innermost flow collection, or of the block
  if there is none. -/
  current : Option SimpleKey
  /-- The possible keys around the open flow collections, innermost
  first. -/
  outer : List (Option SimpleKey)
  /-- The column of the innermost block collection. -/
  indent : Int
  /-- The columns of the block collections around it, innermost first. -/
  indents : List Int
  keyAllowed : Bool

namespace Scanner

/-- The state at the start of a text. -/
def start (text : List Char) : Scanner where
  cursor := Cursor.start text
  slots := #[]
  current := none
  outer := []
  indent := -1
  indents := []
  keyAllowed := true

/-- The scanner is inside a flow collection. -/
def inFlow (s : Scanner) : Bool := !s.outer.isEmpty

/-- Add a token. -/
def push (s : Scanner) (token : Token) : Scanner := { s with slots := s.slots.push (.token token) }

/-- Go past `n` characters. -/
def skip (s : Scanner) (n : Nat) : Scanner := { s with cursor := s.cursor.skip n }

/-- Go past blanks, comments and breaks to the next token. A byte order
mark may begin a line, and counts as a character of it. Tabs count as
blanks where they cannot be taken for indentation. -/
def toNextToken : Nat → Scanner → Scanner
  | 0, s => s
  | fuel + 1, s =>
    let mark := if s.cursor.column == 0 && startsWith (· == '\ufeff') s.cursor.rest then 1 else 0
    let tabs := s.inFlow || !s.keyAllowed
    let c := ((s.cursor.skip mark).skipWhile fun ch =>
      ch == ' ' || (tabs && ch == '\t')).skipComment
    if startsWith isBreak c.rest then
      toNextToken fuel { s with cursor := c.skipBreak, keyAllowed := s.keyAllowed || !s.inFlow }
    else { s with cursor := c }

/-- A possible key that can no longer become one: it is dropped, or the
text is malformed if a key was required. -/
def staleKey? (c : Cursor) : Option SimpleKey → Option (Option SimpleKey)
  | none => some none
  | some key =>
    if key.line < c.line || key.index + 1024 < c.index then
      if key.isRequired then none else some none
    else some (some key)

/-- Drop the possible keys that have become stale. -/
def dropStale? (s : Scanner) : Option Scanner := do
  let current ← staleKey? s.cursor s.current
  let outer ← s.outer.mapM (staleKey? s.cursor)
  return { s with current, outer }

/-- Give up the possible key of the innermost collection. -/
def removeKey? (s : Scanner) : Option Scanner :=
  match s.current with
  | some key => if key.isRequired then none else some { s with current := none }
  | none => some s

/-- Note that a simple key may begin here. -/
def saveKey? (s : Scanner) : Option Scanner :=
  if s.keyAllowed then do
    let s ← s.removeKey?
    let key : SimpleKey :=
      { slot := s.slots.size
        -- In the column of an open block collection a scalar can only be a key.
        isRequired := !s.inFlow && s.indent == (s.cursor.column : Int)
        index := s.cursor.index
        line := s.cursor.line
        column := s.cursor.column }
    return { s with current := some key, slots := s.slots.push .pending }
  else some s

/-- Close the block collections right of a column. -/
def unroll (s : Scanner) (column : Int) : Scanner :=
  if s.inFlow then s else go s.indents s
where
  go : List Int → Scanner → Scanner
    | [], s => s
    | outer :: rest, s =>
      if column < s.indent then
        go rest { s.push .blockEnd with indent := outer, indents := rest }
      else s

/-- Whether a block collection opens at a column. -/
def opensAt (s : Scanner) (column : Nat) : Bool := !s.inFlow && s.indent < (column : Int)

/-- Make a column the innermost indentation if it opens a collection. -/
def rollTo (s : Scanner) (column : Nat) : Scanner :=
  if s.opensAt column then { s with indent := column, indents := s.indent :: s.indents } else s

/-- Open a block collection at the cursor, if its column asks for it. -/
def roll (s : Scanner) (token : Token) : Scanner :=
  if s.opensAt s.cursor.column then (s.push token).rollTo s.cursor.column else s

/-- A document marker or a directive ends everything open. -/
def outermost? (s : Scanner) : Option Scanner := do
  let s ← (s.unroll (-1)).removeKey?
  return { s with keyAllowed := false }

/-- Open a flow collection. -/
def openFlow? (s : Scanner) (token : Token) : Option Scanner := do
  let s ← s.saveKey?
  let s := { s with outer := s.current :: s.outer, current := none, keyAllowed := true }
  return (s.skip 1).push token

/-- Close a flow collection. -/
def closeFlow? (s : Scanner) (token : Token) : Option Scanner := do
  let s ← s.removeKey?
  let s := match s.outer with
    | key :: outer => { s with current := key, outer }
    -- A bracket that closes nothing is refused when nodes are built.
    | [] => s
  return ({ s with keyAllowed := false }.skip 1).push token

/-- The dash of a block sequence. -/
def blockEntry? (s : Scanner) : Option Scanner := do
  if !s.inFlow && !s.keyAllowed then none
  let s ← (s.roll .blockSequenceStart).removeKey?
  return ({ s with keyAllowed := true }.skip 1).push .blockEntry

/-- The question mark of an explicit key. -/
def explicitKey? (s : Scanner) : Option Scanner := do
  if !s.inFlow && !s.keyAllowed then none
  let s ← (s.roll .blockMappingStart).removeKey?
  return ({ s with keyAllowed := !s.inFlow }.skip 1).push .key

/-- The colon before a value. -/
def value? (s : Scanner) : Option Scanner :=
  match s.current with
  | some key =>
    -- Only the colon tells: the slot left open before the scalar becomes the key, and the mapping
    -- opens in its column.
    let opens := s.opensAt key.column
    let s := { s with slots := s.slots.setIfInBounds key.slot (.key opens) }.rollTo key.column
    some (({ s with current := none, keyAllowed := false }.skip 1).push .value)
  | none => do
    if !s.inFlow && !s.keyAllowed then none
    let s := s.roll .blockMappingStart
    return ({ s with keyAllowed := !s.inFlow }.skip 1).push .value

/-- A token that may begin a simple key and after which none begins. -/
def keyed? (s : Scanner) (read : Cursor → Option (Token × Cursor)) : Option Scanner := do
  let s ← s.saveKey?
  let (token, cursor) ← read s.cursor
  return { s with cursor, keyAllowed := false }.push token

/-- An anchor or alias. -/
def named? (make : String → Token) (c : Cursor) : Option (Token × Cursor) :=
  (Lexeme.anchorName? c).map fun (name, c) => (make name, c)

/-- A plain scalar; after a break a simple key may begin again. -/
def plain? (s : Scanner) : Option Scanner := do
  let s ← s.saveKey?
  let (token, broken, cursor) ← Lexeme.plain? s.inFlow (s.indent + 1).toNat s.cursor
  return { s with cursor, keyAllowed := broken }.push token

/-- A character that starts no plain scalar by itself. -/
def isIndicator (c : Char) : Bool :=
  isFlowIndicator c || c == '-' || c == '?' || c == ':' || c == '#' || c == '&' || c == '*' ||
    c == '!' || c == '|' || c == '>' || c == '\'' || c == '"' || c == '%' || c == '@' ||
    c.toNat == 0x60

/-- The token that starts with a character, and what follows it. -/
def token? (s : Scanner) (ch : Char) (rest : List Char) : Option Scanner :=
  let flow := s.inFlow
  if s.cursor.column == 0 && ch == '%' then do
    let s ← s.outermost?
    let (token, cursor) ← Lexeme.directive? s.cursor
    return { s with cursor }.push token
  else if s.cursor.atMarker '-' then s.outermost?.map fun s => (s.skip 3).push .documentStart
  else if s.cursor.atMarker '.' then s.outermost?.map fun s => (s.skip 3).push .documentEnd
  else if ch == '[' then s.openFlow? .flowSequenceStart
  else if ch == '{' then s.openFlow? .flowMappingStart
  else if ch == ']' then s.closeFlow? .flowSequenceEnd
  else if ch == '}' then s.closeFlow? .flowMappingEnd
  else if ch == ',' then
    s.removeKey?.map fun s => ({ s with keyAllowed := true }.skip 1).push .flowEntry
  else if ch == '-' && atGap rest then s.blockEntry?
  else if ch == '?' && (flow || atGap rest) then s.explicitKey?
  else if ch == ':' && (flow || atGap rest) then s.value?
  else if ch == '*' then s.keyed? (named? .alias)
  else if ch == '&' then s.keyed? (named? .anchor)
  else if ch == '!' then s.keyed? (Lexeme.tag? flow)
  else if (ch == '|' || ch == '>') && !flow then do
    let s ← s.removeKey?
    let (token, cursor) ← Lexeme.block? s.indent s.cursor
    return { s with cursor, keyAllowed := true }.push token
  else if ch == '\'' || ch == '"' then s.keyed? (Lexeme.quoted? ch)
  else if (!isIndicator ch && !isSpacing ch) || (ch == '-' && !startsWith isSpacing rest) ||
      (!flow && (ch == '?' || ch == ':') && !atGap rest) then s.plain?
  else none

/-- The slots of the whole text from a state on. -/
def run : Nat → Scanner → Option (Array Slot)
  | 0, _ => none
  | fuel + 1, s => do
    let s := toNextToken (s.cursor.size + 1) s
    let s ← s.dropStale?
    let s := s.unroll s.cursor.column
    match s.cursor.rest with
    | [] =>
      let s ← (s.unroll (-1)).removeKey?
      return s.slots
    | ch :: rest => run fuel (← s.token? ch rest)

end Scanner

/-- The tokens of a text; characters outside the format are refused. -/
def tokens? (text : String) : Option (List Token) :=
  let cs := text.toList
  if cs.all isAllowed then
    (Scanner.run (cs.length + 1) (Scanner.start cs)).map fun slots =>
      slots.toList.flatMap Slot.tokens
  else none

end MultiTarget.Yaml
