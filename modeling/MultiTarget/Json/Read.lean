import MultiTarget.Json

/-!
# `MultiTarget.Json.Read`: values from JSON text

`Json.parse?` reads one value and refuses text that goes on after it.
Lists and maps may be nested 127 deep. Of several entries with one key
the last stays, and maps come out in ascending key order. A lone
surrogate escape, an unescaped control character and a number beyond
the largest double are refused.

`Json.parseRecord?` reads the entries of the outermost map that somebody asks
for, as written. The values of the others are skipped (`Reading.skip?`). They
have to be written as values are, but nothing is made of them, so neither
their depth nor the size of their numbers matters, nor which characters their
escapes name.

The specification leaves reading to a library (X.6.1, X.6.14); this follows
the JSON grammar with the limits named above.
-/

set_option autoImplicit false

namespace MultiTarget

namespace Json

namespace Reading

/-- The white space of the format. -/
def isBlank (c : Char) : Bool := c == ' ' || c == '\n' || c == '\r' || c == '\t'

/-- The text after leading white space. -/
def skipBlanks (cs : List Char) : List Char := cs.dropWhile isBlank

/-- The text after a word it starts with. -/
def after? (word : String) (cs : List Char) : Option (List Char) :=
  word.toList.isPrefixOf? cs

/-! ### Numbers -/

/-- The value of a decimal digit. -/
def digitValue (c : Char) : Nat := c.toNat - '0'.toNat

/-- Put digits after a significand while it stays below `2 ^ 64`; the
digits that do not fit are counted, not read. -/
def takeDigits (significand : Nat) : List Char → Nat × Nat
  | [] => (significand, 0)
  | c :: rest =>
    let next := significand * 10 + digitValue c
    if next < 0x10000000000000000 then takeDigits next rest else (significand, rest.length + 1)

/-- An exponent mark with its digits; no mark means no exponent, a mark
without digits is refused. -/
def exponent? (cs : List Char) : Option (Option Int × List Char) :=
  match cs with
  | c :: rest =>
    if c == 'e' || c == 'E' then
      let (negative, rest) := match rest with
        | '-' :: r => (true, r)
        | '+' :: r => (false, r)
        | r => (false, r)
      let (digits, rest) := rest.span Char.isDigit
      if digits.isEmpty then none
      else
        let n : Nat := digits.foldl (fun n c => n * 10 + digitValue c) 0
        some (some (if negative then -(n : Int) else n), rest)
    else some (none, cs)
  | [] => some (none, cs)

/-- The value of the digits before and after the point and an exponent. -/
def numberValue (negative : Bool) (whole decimals : List Char) (exponent : Option Int) :
    Option Json :=
  let (significand, dropped) := takeDigits 0 whole
  if decimals.isEmpty && exponent.isNone then
    if dropped = 0 then
      if !negative then some (.int significand)
      -- Minus zero and what lies below the signed range are no integers, but doubles.
      else if significand = 0 ∨ 0x8000000000000000 < significand then
        some (.double (.ofRatio true significand 1))
      else some (.int (-significand))
    else (Decimal.Double.ofScaledDecimal negative significand dropped).map .double
  else
    let (full, unread) := takeDigits significand decimals
    -- The digits that were counted and not read stand to the right of all that were.
    let places : Int := (decimals.length : Int) - unread
    (Decimal.Double.ofScaledDecimal negative full
      ((dropped : Int) - places + exponent.getD 0)).map .double

/-- A number as it is written. -/
structure Written where
  negative : Bool
  /-- The digits before the point. -/
  whole : List Char
  /-- The digits behind the point, none without a point. -/
  decimals : List Char
  exponent : Option Int

/-- A written number; the first digit is zero only if it is the only one before
the point. Nothing is made of it yet, so a number that no double can hold is
written like any other. -/
def written? (cs : List Char) : Option (Written × List Char) := do
  let (negative, cs) := match cs with
    | '-' :: r => (true, r)
    | r => (false, r)
  let (whole, rest) := cs.span Char.isDigit
  if whole.isEmpty || (whole.head? == some '0' && 1 < whole.length) then none
  let (decimals, rest) ← match rest with
    | '.' :: r =>
      let (digits, r) := r.span Char.isDigit
      if digits.isEmpty then none else some (digits, r)
    | r => some ([], r)
  let (exponent, rest) ← exponent? rest
  return (⟨negative, whole, decimals, exponent⟩, rest)

/-- A number with its value. -/
def number? (cs : List Char) : Option (Json × List Char) := do
  let (number, rest) ← written? cs
  let value ← numberValue number.negative number.whole number.decimals number.exponent
  return (value, rest)

/-! ### Strings -/

/-- The value of a hexadecimal digit of either case. -/
def hexValue? (c : Char) : Option Nat :=
  if c.isDigit then some (digitValue c)
  else if 'a' ≤ c ∧ c ≤ 'f' then some (c.toNat - 'a'.toNat + 10)
  else if 'A' ≤ c ∧ c ≤ 'F' then some (c.toNat - 'A'.toNat + 10)
  else none

/-- The number of four hexadecimal digits. -/
def fourHex? : List Char → Option (Nat × List Char)
  | a :: b :: c :: d :: rest => do
    let n := (← hexValue? a) * 4096 + (← hexValue? b) * 256 + (← hexValue? c) * 16 + (← hexValue? d)
    return (n, rest)
  | _ => none

/-- The character of an escape after its backslash. Characters beyond
U+FFFF are written as a pair of surrogates. -/
def escape? : List Char → Option (Char × List Char)
  | '"' :: r => some ('"', r)
  | '\\' :: r => some ('\\', r)
  | '/' :: r => some ('/', r)
  | 'b' :: r => some ('\x08', r)
  | 'f' :: r => some ('\x0c', r)
  | 'n' :: r => some ('\n', r)
  | 'r' :: r => some ('\r', r)
  | 't' :: r => some ('\t', r)
  | 'u' :: r => do
    let (high, r) ← fourHex? r
    -- The second half of a pair cannot begin one.
    if 0xDC00 ≤ high ∧ high ≤ 0xDFFF then none
    else if 0xD800 ≤ high ∧ high ≤ 0xDBFF then
      match r with
      | '\\' :: 'u' :: r => do
        let (low, r) ← fourHex? r
        if 0xDC00 ≤ low ∧ low ≤ 0xDFFF then
          return (Char.ofNat (0x10000 + (high - 0xD800) * 0x400 + (low - 0xDC00)), r)
        else none
      | _ => none
    else return (Char.ofNat high, r)
  | _ => none

/-- The characters up to the closing quotation mark, collected in
reverse. -/
def string? : Nat → List Char → List Char → Option (String × List Char)
  | 0, _, _ => none
  | fuel + 1, read, cs =>
    match cs with
    | [] => none
    | '"' :: rest => some (String.ofList read.reverse, rest)
    | '\\' :: rest => do
      let (c, rest) ← escape? rest
      string? fuel (c :: read) rest
    | c :: rest => if c.toNat < 0x20 then none else string? fuel (c :: read) rest

/-! ### Values -/

mutual

/-- A value after white space. The fuel bounds the number of nested calls,
`depth` the nesting of lists and maps. A list or a map beyond it is refused
before anything inside it is read. -/
def value? : Nat → Nat → List Char → Option (Json × List Char)
  | 0, _, _ => none
  | fuel + 1, depth, cs =>
    match skipBlanks cs with
    | '"' :: rest => (string? (rest.length + 1) [] rest).map fun (text, rest) => (.str text, rest)
    | '[' :: rest =>
      if depth = 0 then none
      else match skipBlanks rest with
        | ']' :: rest => some (.arr [], rest)
        | rest => items? fuel (depth - 1) [] rest
    | '\x7b' :: rest =>
      if depth = 0 then none
      else match skipBlanks rest with
        | '\x7d' :: rest => some (.obj [], rest)
        | rest => (members? fuel (depth - 1) [] rest).map fun (entries, rest) =>
            (.ofMap (.ofList entries), rest)
    | cs =>
      match after? "null" cs, after? "true" cs, after? "false" cs with
      | some rest, _, _ => some (.null, rest)
      | _, some rest, _ => some (.bool true, rest)
      | _, _, some rest => some (.bool false, rest)
      | _, _, _ => number? cs

/-- The values of a list up to its end, collected in reverse. -/
def items? : Nat → Nat → List Json → List Char → Option (Json × List Char)
  | 0, _, _, _ => none
  | fuel + 1, depth, read, cs =>
    match value? fuel depth cs with
    | none => none
    | some (item, rest) =>
      match skipBlanks rest with
      | ',' :: rest => items? fuel depth (item :: read) rest
      | ']' :: rest => some (.arr (item :: read).reverse, rest)
      | _ => none

/-- The entries of a map up to its end, collected in reverse. -/
def members? : Nat → Nat → List (String × Json) → List Char →
    Option (List (String × Json) × List Char)
  | 0, _, _, _ => none
  | fuel + 1, depth, read, cs =>
    match skipBlanks cs with
    | '"' :: rest =>
      match string? (rest.length + 1) [] rest with
      | none => none
      | some (key, rest) =>
        match skipBlanks rest with
        | ':' :: rest =>
          match value? fuel depth rest with
          | none => none
          | some (item, rest) =>
            match skipBlanks rest with
            | ',' :: rest => members? fuel depth ((key, item) :: read) rest
            | '\x7d' :: rest => some (((key, item) :: read).reverse, rest)
            | _ => none
        | _ => none
    | _ => none

end

/-- How deep lists and maps may be nested. -/
def maxDepth : Nat := 127

/-- Fuel that is enough for a text. -/
def fuelFor (cs : List Char) : Nat := 2 * cs.length + 2

/-! ### Values that nobody asks for -/

/-- The text after an escape and its backslash, whatever character four digits
name. -/
def skipEscape? : List Char → Option (List Char)
  | 'u' :: rest => (fourHex? rest).map (·.2)
  | c :: rest => if c ∈ ['"', '\\', '/', 'b', 'f', 'n', 'r', 't'] then some rest else none
  | [] => none

/-- The text after the closing quotation mark. -/
def skipString? : Nat → List Char → Option (List Char)
  | 0, _ => none
  | fuel + 1, cs =>
    match cs with
    | [] => none
    | '"' :: rest => some rest
    | '\\' :: rest => (skipEscape? rest).bind (skipString? fuel)
    | c :: rest => if c.toNat < 0x20 then none else skipString? fuel rest

mutual

/-- The text after a value, with fuel for the nested calls. Where `value?`
gives a value, the text after it is the same; but depth is no limit here, nor
is the size of numbers. -/
def skip? : Nat → List Char → Option (List Char)
  | 0, _ => none
  | fuel + 1, cs =>
    match skipBlanks cs with
    | '"' :: rest => skipString? (rest.length + 1) rest
    | '[' :: rest =>
      match skipBlanks rest with
      | ']' :: rest => some rest
      | rest => skipItems? fuel rest
    | '\x7b' :: rest =>
      match skipBlanks rest with
      | '\x7d' :: rest => some rest
      | rest => skipMembers? fuel rest
    | cs =>
      match after? "null" cs, after? "true" cs, after? "false" cs with
      | some rest, _, _ => some rest
      | _, some rest, _ => some rest
      | _, _, some rest => some rest
      | _, _, _ => (written? cs).map (·.2)

/-- The text after the values of a list and its end. -/
def skipItems? : Nat → List Char → Option (List Char)
  | 0, _ => none
  | fuel + 1, cs =>
    match (skip? fuel cs).map skipBlanks with
    | some (',' :: rest) => skipItems? fuel rest
    | some (']' :: rest) => some rest
    | _ => none

/-- The text after the entries of a map and its end. -/
def skipMembers? : Nat → List Char → Option (List Char)
  | 0, _ => none
  | fuel + 1, cs =>
    match skipBlanks cs with
    | '"' :: rest =>
      match (skipString? (rest.length + 1) rest).map skipBlanks with
      | some (':' :: rest) =>
        match (skip? fuel rest).map skipBlanks with
        | some (',' :: rest) => skipMembers? fuel rest
        | some ('\x7d' :: rest) => some rest
        | _ => none
      | _ => none
    | _ => none

end

/-- The entries of the outermost map that are asked for, up to its end,
collected in reverse. -/
def asked? (names : List String) : Nat → List (String × Json) → List Char →
    Option (List (String × Json) × List Char)
  | 0, _, _ => none
  | fuel + 1, read, cs =>
    match skipBlanks cs with
    | '"' :: rest =>
      match string? (rest.length + 1) [] rest with
      | none => none
      | some (key, rest) =>
        match skipBlanks rest with
        | ':' :: rest =>
          let entry :=
            if key ∈ names then
              -- The outermost map is one level by itself.
              (value? fuel (maxDepth - 1) rest).map fun (item, rest) => ((key, item) :: read, rest)
            else (skip? fuel rest).map fun rest => (read, rest)
          match entry with
          | none => none
          | some (read, rest) =>
            match skipBlanks rest with
            | ',' :: rest => asked? names fuel read rest
            | '\x7d' :: rest => some (read.reverse, rest)
            | _ => none
        | _ => none
    | _ => none

/-! ### Whole texts -/

/-- A value that no more than white space follows. -/
def whole? {α : Type} : Option (α × List Char) → Option α
  | some (value, rest) => if (skipBlanks rest).isEmpty then some value else none
  | none => none

end Reading

open Reading in
/-- The value of a JSON text. -/
def parse? (text : String) : Option Json :=
  whole? (value? (fuelFor text.toList) maxDepth text.toList)

open Reading in
/-- The value of a JSON text. If it is a map, it has those of its own entries
that have one of some names, in the order written, so that repeated keys can
be seen. -/
def parseRecord? (names : List String) (text : String) : Option Json :=
  match skipBlanks text.toList with
  | '\x7b' :: rest =>
    match skipBlanks rest with
    | '\x7d' :: rest => whole? (some (.obj [], rest))
    | rest => (whole? (asked? names (fuelFor rest) [] rest)).map .obj
  | _ => parse? text

end Json

end MultiTarget
