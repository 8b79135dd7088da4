import MultiTarget.Yaml.Cursor
import MultiTarget.Yaml.Token

/-!
# `MultiTarget.Yaml.Lexeme`: single lexemes

Each function reads one lexeme at a cursor and gives the cursor after
it, or nothing where the text is malformed. Loops are bounded by the
number of characters of the text.
-/

set_option autoImplicit false

namespace MultiTarget.Yaml

namespace Lexeme

/-- A number of steps that suffices for what is left of a text. -/
def fuelFor (c : Cursor) : Nat := 2 * c.size + 2

/-! ### Line folding -/

/-- The blanks between two pieces of a scalar. -/
structure Gap where
  /-- Spaces and tabs before a break. -/
  spaces : List Char
  /-- The first break. -/
  firstBreak : List Char
  /-- Further breaks. -/
  moreBreaks : List Char
  /-- A break was read. -/
  broken : Bool

/-- No blanks. -/
def Gap.none : Gap := ⟨[], [], [], false⟩

/-- The text that blanks stand for inside a scalar: a single line feed
is folded to a space, of several the first is dropped. -/
def Gap.text (gap : Gap) : List Char :=
  if gap.broken then
    if gap.firstBreak == ['\n'] then
      if gap.moreBreaks.isEmpty then [' '] else gap.moreBreaks
    else gap.firstBreak ++ gap.moreBreaks
  else gap.spaces

/-- Read spaces, tabs and breaks. In a plain scalar a tab that stands for
indentation, left of `tabFrom`, is refused. -/
def readGap (tabFrom : Option Nat) : Nat → Gap → Cursor → Option (Gap × Cursor)
  | 0, _, _ => none
  | fuel + 1, gap, c =>
    match c.rest with
    | [] => some (gap, c)
    | ch :: _ =>
      if isSpacing ch then
        if gap.broken then
          if ch == '\t' && tabFrom.any (c.column < ·) then none
          else readGap tabFrom fuel gap (c.skip 1)
        else readGap tabFrom fuel { gap with spaces := gap.spaces ++ [ch] } (c.skip 1)
      else if isBreak ch then
        let (br, next) := c.takeBreak
        if gap.broken then
          readGap tabFrom fuel { gap with moreBreaks := gap.moreBreaks ++ br } next
        -- Blanks before a break are dropped: only those within a line are part of the text.
        else readGap tabFrom fuel ⟨[], br, [], true⟩ next
      else some (gap, c)

/-! ### Plain scalars -/

/-- The characters of a plain scalar up to a gap or an indicator that
ends it, in reverse. In a flow collection a colon before another
indicator is refused. -/
def plainRun (inFlow : Bool) : Nat → List Char → Cursor → Option (List Char × Cursor)
  | 0, _, _ => none
  | fuel + 1, read, c =>
    match c.rest with
    | [] => some (read, c)
    | ch :: rest =>
      if atGap c.rest then some (read, c)
      else if inFlow && ch == ':' && startsWith (fun n => isFlowIndicator n || n == '?') rest then
        none
      else if (ch == ':' && atGap rest) || (inFlow && isFlowIndicator ch) then some (read, c)
      else plainRun inFlow fuel (ch :: read) (c.skip 1)

/-- A plain scalar: its text in reverse, whether it ended after a break,
and the cursor after the blanks behind it. -/
def plainLines (inFlow : Bool) (indent : Nat) :
    Nat → List Char → Gap → Cursor → Option (List Char × Bool × Cursor)
  | 0, _, _, _ => none
  | fuel + 1, read, gap, c =>
    if c.atDocumentMarker || startsWith (· == '#') c.rest then some (read, gap.broken, c)
    else
      match plainRun inFlow (fuelFor c) [] c with
      | none => none
      | some (run, c) =>
        let (read, gap) :=
          if run.isEmpty then (read, gap) else (run ++ (gap.text.reverse ++ read), Gap.none)
        if startsWith (fun ch => isSpacing ch || isBreak ch) c.rest then
          match readGap (some indent) (fuelFor c) gap c with
          | none => none
          | some (gap, c) =>
            -- A line further left is not of this scalar. In a flow collection brackets tell, not
            -- columns.
            if !inFlow && c.column < indent then some (read, gap.broken, c)
            else plainLines inFlow indent fuel read gap c
        else some (read, gap.broken, c)

/-- A plain scalar in lines indented by at least `indent`; the flag says
that it ended after a break. -/
def plain? (inFlow : Bool) (indent : Nat) (c : Cursor) : Option (Token × Bool × Cursor) :=
  (plainLines inFlow indent (fuelFor c) [] Gap.none c).map fun (read, broken, c) =>
    (.scalar (String.ofList read.reverse) .plain, broken, c)

/-! ### Quoted scalars -/

/-- The value of a hexadecimal digit. -/
def hexValue? (c : Char) : Option Nat :=
  if c.isDigit then some (c.toNat - '0'.toNat)
  else if 'a' ≤ c ∧ c ≤ 'f' then some (c.toNat - 'a'.toNat + 10)
  else if 'A' ≤ c ∧ c ≤ 'F' then some (c.toNat - 'A'.toNat + 10)
  else none

/-- The number of a run of hexadecimal digits. -/
def hexNumber? (digits : List Char) : Option Nat :=
  digits.foldl (fun n c => do return (← n) * 16 + (← hexValue? c)) (some 0)

/-- The character of a code point outside the surrogates. -/
def codePoint? (n : Nat) : Option Char :=
  if (0xD800 ≤ n ∧ n ≤ 0xDFFF) ∨ 0x10FFFF < n then none else some (Char.ofNat n)

/-- The character of an escape after its backslash, and the number of
characters of the escape. -/
def escape? : List Char → Option (Char × Nat)
  | [] => none
  | letter :: rest =>
    let coded (digits : Nat) : Option (Char × Nat) := do
      if rest.length < digits then none
      let n ← hexNumber? (rest.take digits)
      return (← codePoint? n, digits + 1)
    match letter with
    | '0' => some ('\x00', 1)
    | 'a' => some ('\x07', 1)
    | 'b' => some ('\x08', 1)
    | 't' => some ('\t', 1)
    | '\t' => some ('\t', 1)
    | 'n' => some ('\n', 1)
    | 'v' => some ('\x0b', 1)
    | 'f' => some ('\x0c', 1)
    | 'r' => some ('\r', 1)
    | 'e' => some ('\x1b', 1)
    | ' ' => some (' ', 1)
    | '"' => some ('"', 1)
    | '/' => some ('/', 1)
    | '\\' => some ('\\', 1)
    | 'N' => some ('\x85', 1)
    | '_' => some ('\xa0', 1)
    | 'L' => some ('\u2028', 1)
    | 'P' => some ('\u2029', 1)
    | 'x' => coded 2
    | 'u' => coded 4
    | 'U' => coded 8
    | _ => none

/-- The characters of a quoted scalar up to a gap or its closing quote,
in reverse. The flag says that an escaped line break ended the run. -/
def quotedRun (quote : Char) : Nat → List Char → Cursor → Option (List Char × Bool × Cursor)
  | 0, _, _ => none
  | fuel + 1, read, c =>
    match c.rest with
    | [] => some (read, false, c)
    | ch :: rest =>
      if atGap c.rest then some (read, false, c)
      else if quote == '\'' then
        if ch == quote then
          if startsWith (· == quote) rest then quotedRun quote fuel (quote :: read) (c.skip 2)
          else some (read, false, c)
        else quotedRun quote fuel (ch :: read) (c.skip 1)
      else if ch == quote then some (read, false, c)
      else if ch == '\\' then
        if startsWith isBreak rest then some (read, true, (c.skip 1).skipBreak)
        else
          match escape? rest with
          | none => none
          | some (escaped, n) => quotedRun quote fuel (escaped :: read) (c.skip (n + 1))
      else quotedRun quote fuel (ch :: read) (c.skip 1)

/-- The lines of a quoted scalar after its opening quote, in reverse, and
the cursor after the closing quote. -/
def quotedLines (quote : Char) : Nat → List Char → Cursor → Option (List Char × Cursor)
  | 0, _, _ => none
  | fuel + 1, read, c =>
    if c.atDocumentMarker || c.rest.isEmpty then none
    else
      match quotedRun quote (fuelFor c) read c with
      | none => none
      | some (read, continued, c) =>
        if startsWith (· == quote) c.rest then some (read, c.skip 1)
        else
          match readGap none (fuelFor c) { Gap.none with broken := continued } c with
          | none => none
          | some (gap, c) =>
            -- After an escaped break every further break counts.
            let text := if continued then gap.moreBreaks else gap.text
            quotedLines quote fuel (text.reverse ++ read) c

/-- A quoted scalar. -/
def quoted? (quote : Char) (c : Cursor) : Option (Token × Cursor) :=
  (quotedLines quote (fuelFor c) [] (c.skip 1)).map fun (read, c) =>
    (.scalar (String.ofList read.reverse)
      (if quote == '\'' then .singleQuoted else .doubleQuoted), c)

/-! ### Block scalars -/

/-- What is kept of the breaks at the end of a block scalar. -/
inductive Chomping where
  | strip
  | clip
  | keep
  deriving DecidableEq

/-- The chomping that a mark asks for. -/
def chomping? (ch : Char) : Option Chomping :=
  if ch == '+' then some .keep else if ch == '-' then some .strip else none

/-- The header of a block scalar: chomping and indentation in either
order. An indentation of zero is refused. -/
def blockHeader? (c : Cursor) : Option (Chomping × Option Nat × Cursor) :=
  let width? (ch : Char) : Option Nat := if ch.isDigit then some (ch.toNat - '0'.toNat) else none
  let checked (chomping : Chomping) (width : Nat) (c : Cursor) :=
    if width = 0 then none else some (chomping, some width, c)
  match c.rest with
  | [] => some (.clip, none, c)
  | first :: rest =>
    match chomping? first, width? first with
    | some chomping, _ =>
      match rest.head?.bind width? with
      | some width => checked chomping width (c.skip 2)
      | none => some (chomping, none, c.skip 1)
    | none, some width =>
      match rest.head?.bind chomping? with
      | some chomping => checked chomping width (c.skip 2)
      | none => checked .clip width (c.skip 1)
    | none, none => some (.clip, none, c)

/-- Read empty lines and the indentation of the first line that is not:
their breaks, the greatest column reached, and the cursor. A tab in the
place of indentation is refused. -/
def blockBreaks (indent : Option Nat) :
    Nat → List Char → Nat → Cursor → Option (List Char × Nat × Cursor)
  | 0, _, _, _ => none
  | fuel + 1, breaks, widest, c =>
    let inside (column : Nat) : Bool := indent.all (column < ·)
    let spaces := (c.rest.takeWhile (· == ' ')).length
    let c := c.skip (match indent with
      | some n => min spaces (n - c.column)
      | none => spaces)
    let widest := max widest c.column
    if inside c.column && startsWith (· == '\t') c.rest then none
    else if startsWith isBreak c.rest then
      let (br, next) := c.takeBreak
      blockBreaks indent fuel (breaks ++ br) widest next
    else some (breaks, widest, c)

/-- The lines of a block scalar: its text in reverse, the last break and
the breaks after it. -/
def blockLines (isLiteral : Bool) (indent : Nat) :
    Nat → List Char → List Char → List Char → Bool → Cursor →
      Option (List Char × List Char × List Char × Cursor)
  | 0, _, _, _, _, _ => none
  | fuel + 1, read, lastBreak, breaks, blankBefore, c =>
    if c.column == indent && !c.rest.isEmpty then
      let blankNow := startsWith isSpacing c.rest
      -- Two lines are folded into one only if neither begins with a blank.
      let joint :=
        if !isLiteral && lastBreak == ['\n'] && !blankBefore && !blankNow then
          if breaks.isEmpty then [' '] else breaks
        else lastBreak ++ breaks
      let content := c.rest.takeWhile (!isBreak ·)
      let (br, c) := (c.skip content.length).takeBreak
      match blockBreaks (some indent) (fuelFor c) [] 0 c with
      | none => none
      | some (breaks, _, c) =>
        blockLines isLiteral indent fuel (content.reverse ++ (joint.reverse ++ read)) br breaks
          blankNow c
    else some (read, lastBreak, breaks, c)

/-- A block scalar inside a collection indented by `parent`. -/
def block? (parent : Int) (c : Cursor) : Option (Token × Cursor) := do
  let isLiteral := startsWith (· == '|') c.rest
  let (chomping, width, c) ← blockHeader? (c.skip 1)
  let c := (c.skipWhile isSpacing).skipComment
  if !atLineEnd c.rest then none
  let c := c.skipBreak
  let given := width.map fun w => if 0 ≤ parent then parent.toNat + w else w
  let (breaks, widest, c) ← blockBreaks given (fuelFor c) [] 0 c
  -- Without a depth in the header the widest column so far is it, if that is deeper than the
  -- collection around the scalar.
  let indent := given.getD (max (max widest (parent + 1).toNat) 1)
  let (read, lastBreak, breaks, c) ←
    blockLines isLiteral indent (fuelFor c) [] [] breaks false c
  let tail := match chomping with
    | .strip => []
    | .clip => lastBreak
    | .keep => lastBreak ++ breaks
  return (.scalar (String.ofList (read.reverse ++ tail))
    (if isLiteral then .literal else .folded), c)

/-! ### Anchors, aliases, tags and directives -/

/-- The name of an anchor or alias after its indicator. -/
def anchorName? (c : Cursor) : Option (String × Cursor) :=
  let c := c.skip 1
  let name := c.rest.takeWhile isWordChar
  let after := c.skip name.length
  let follows (ch : Char) : Bool :=
    ch == '?' || ch == ':' || ch == ',' || ch == ']' || ch == '}' || ch == '%' || ch == '@' ||
      ch.toNat == 0x60
  if name.isEmpty || !(atGap after.rest || startsWith follows after.rest) then none
  else some (String.ofList name, after)

/-- A character of a tag. -/
def isTagChar (verbatim : Bool) (c : Char) : Bool :=
  isWordChar c || c == ';' || c == '/' || c == '?' || c == ':' || c == '@' || c == '&' ||
    c == '=' || c == '+' || c == '$' || c == '.' || c == '%' || c == '!' || c == '~' || c == '*' ||
    c == '\'' || c == '(' || c == ')' || (verbatim && (c == ',' || c == '[' || c == ']'))

/-- The number of octets that follow a leading octet. -/
def followers? (leading : UInt8) : Option Nat :=
  if leading &&& 0x80 == 0 then some 0
  else if leading &&& 0xE0 == 0xC0 then some 1
  else if leading &&& 0xF0 == 0xE0 then some 2
  else if leading &&& 0xF8 == 0xF0 then some 3
  else none

/-- The octets of characters and percent escapes. An escaped leading
octet is followed by as many escaped octets as it asks for; `owed` of
them are still to come. -/
def tagOctets? : Nat → List Char → Option Tag
  | 0, [] => some []
  | _ + 1, [] => none
  | owed, '%' :: a :: b :: rest => do
    let octet := UInt8.ofNat ((← hexValue? a) * 16 + (← hexValue? b))
    match owed with
    | 0 => return octet :: (← tagOctets? (← followers? octet) rest)
    | owed + 1 =>
      if octet &&& 0xC0 == 0x80 then return octet :: (← tagOctets? owed rest) else none
  | _, '%' :: _ => none
  | 0, c :: rest => do return Tag.ofText (String.singleton c) ++ (← tagOctets? 0 rest)
  | _ + 1, _ :: _ => none

/-- The tag that is written. -/
def writtenTag? (written : List Char) : Option Tag := (tagOctets? 0 written).map Tag.untilZero

/-- A tag handle: an exclamation mark, or a word between two of them. -/
def tagHandle (c : Cursor) : List Char × Cursor :=
  let word := (c.rest.drop 1).takeWhile isWordChar
  let after := c.skip (1 + word.length)
  if startsWith (· == '!') after.rest then ('!' :: word ++ ['!'], after.skip 1)
  else ('!' :: word, after)

/-- A tag. -/
def tag? (inFlow : Bool) (c : Cursor) : Option (Token × Cursor) := do
  let (token, c) ← match c.rest with
    | '!' :: '<' :: _ =>
      let c := c.skip 2
      let written := c.rest.takeWhile (isTagChar true)
      let c := c.skip written.length
      if written.isEmpty || !startsWith (· == '>') c.rest then none
      else some (.tag "" (← writtenTag? written), c.skip 1)
    | _ =>
      let (handle, c) := tagHandle c
      let written := c.rest.takeWhile (isTagChar false)
      let after := c.skip written.length
      if 1 < handle.length && handle.getLast? == some '!' then
        if written.isEmpty then none
        else some (.tag (String.ofList handle) (← writtenTag? written), after)
      else
        let suffix ← writtenTag? (handle.drop 1 ++ written)
        -- A lone exclamation mark is a tag of its own.
        some (if suffix.isEmpty then .tag "" Tag.mark else .tag "!" suffix, after)
  if (inFlow && startsWith (· == ',') c.rest) || atGap c.rest then return (token, c) else none

/-- The number of a component of a version, of at most nine digits. -/
def versionNumber? (c : Cursor) : Option (Nat × Cursor) :=
  let digits := c.rest.takeWhile Char.isDigit
  if digits.isEmpty || 9 < digits.length then none
  else some (digits.foldl (fun n d => n * 10 + (d.toNat - '0'.toNat)) 0, c.skip digits.length)

/-- A directive with the rest of its line. -/
def directive? (c : Cursor) : Option (Token × Cursor) := do
  let c := c.skip 1
  let name := c.rest.takeWhile isWordChar
  let c := c.skip name.length
  if name.isEmpty || !atGap c.rest then none
  let c := c.skipWhile isSpacing
  let (token, c) ←
    if name == ['Y', 'A', 'M', 'L'] then do
      let (major, c) ← versionNumber? c
      if !startsWith (· == '.') c.rest then none
      let (minor, c) ← versionNumber? (c.skip 1)
      some (.versionDirective major minor, c)
    else if name == ['T', 'A', 'G'] then do
      if !startsWith (· == '!') c.rest then none
      let (handle, c) := tagHandle c
      if handle != ['!'] && !(1 < handle.length && handle.getLast? == some '!') then none
      if !startsWith isSpacing c.rest then none
      let c := c.skipWhile isSpacing
      let written := c.rest.takeWhile (isTagChar true)
      let c := c.skip written.length
      if written.isEmpty || !atGap c.rest then none
      some (.tagDirective (String.ofList handle) (← writtenTag? written), c)
    else none
  let c := (c.skipWhile isSpacing).skipComment
  if atLineEnd c.rest then return (token, c.skipBreak) else none

end Lexeme

end MultiTarget.Yaml
