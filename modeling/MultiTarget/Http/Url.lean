import MultiTarget.Text.Cut
import MultiTarget.Text.Numeral

/-!
# `MultiTarget.Http.Url`: addresses of resources

`Url.parse?` reads an absolute `http` or `https` URL in the lenient way of
browsers:

* white space and controls around it are cut off, tabs and line breaks
  dropped, and a backslash counts as a slash;
* a path is cut into segments, of which `.` and `..` are resolved;
* characters that may not stand in a path or in a query are written as
  percent signs with the digits of their UTF-8 bytes.

Hosts are names of ASCII characters or addresses of four numbers. Others are
refused, and none is taken for one that it is not: no host is decoded, and no
address is written in another way.

The reading is that of the URL standard as far as it goes here. Controllers
do not depend on it.
-/

set_option autoImplicit false

namespace MultiTarget.Http

/-- An absolute URL. -/
structure Url where
  secure : Bool
  host : String
  /-- The port, unless it is that of the scheme. -/
  port : Option Nat
  /-- The path with the slash that it begins with. -/
  path : String
  query : Option String
  deriving DecidableEq, Repr

namespace Url

/-! ### Percent encoding -/

/-- A hexadecimal digit in upper case. -/
def hexDigit (n : Nat) : Char := Char.ofNat (if n < 10 then 0x30 + n else 0x37 + n)

/-- A byte as a percent sign and two digits. -/
def encodeByte (byte : UInt8) : List Char :=
  ['%', hexDigit (byte.toNat / 16), hexDigit (byte.toNat % 16)]

/-- A character, encoded if it is not one that may stand as it is. -/
def encodeChar (allowed : Char → Bool) (c : Char) : List Char :=
  if allowed c then [c] else (String.singleton c).toUTF8.toList.flatMap encodeByte

/-- A text, encoded character by character. -/
def encode (allowed : Char → Bool) (cs : List Char) : List Char := cs.flatMap (encodeChar allowed)

/-- Printable ASCII characters other than those listed. -/
def isPlain (except : List Char) (c : Char) : Bool :=
  0x20 < c.toNat && c.toNat < 0x7F && !except.contains c

/-- The characters that may stand in a path. -/
def mayStandInPath : Char → Bool :=
  isPlain ['"', '<', '>', '\x60', '#', '?', '^', '\x7b', '\x7d']

/-- The characters that may stand in a query. -/
def mayStandInQuery : Char → Bool := isPlain ['"', '<', '>', '#', '\x27']

/-! ### Paths -/

/-- A slash or a backslash. -/
def isSlash (c : Char) : Bool := c == '/' || c == '\\'

/-- The segments of a path between its slashes. -/
def segments (cs : List Char) : List (List Char) :=
  Text.pieces '/' (cs.map fun c => if isSlash c then '/' else c)

/-- The segment with its written dots decoded, if it is made of dots. -/
def dots (segment : List Char) : List Char :=
  match segment with
  | '.' :: rest => '.' :: dots rest
  | '%' :: '2' :: e :: rest => if e == 'e' || e == 'E' then '.' :: dots rest else segment
  | _ => segment

/-- The segments after those before them, kept in reverse. A segment of
two dots removes the one before it; one of dots at the end leaves an
empty segment. -/
def resolve (before : List (List Char)) : List (List Char) → List (List Char)
  | [] => before.reverse
  | segment :: rest =>
    if dots segment = ['.', '.'] then
      -- At the end the slash behind the removed segment stays, as an empty one.
      resolve (if rest.isEmpty then [] :: before.drop 1 else before.drop 1) rest
    else if dots segment = ['.'] then
      resolve (if rest.isEmpty then [] :: before else before) rest
    else resolve (encode mayStandInPath segment :: before) rest

/-- The path of what follows an authority. -/
def pathOf (cs : List Char) : String :=
  let segments := resolve [] (segments (cs.drop 1))
  String.ofList (segments.flatMap fun segment => '/' :: segment)

/-! ### Reading -/

/-- The text without controls and white space around it and without tabs
and line breaks. -/
def strip (cs : List Char) : List Char :=
  let isOuter (c : Char) : Bool := c.toNat ≤ 0x20
  ((cs.dropWhile isOuter).reverse.dropWhile isOuter).reverse.filter fun c =>
    !(c == '\t' || c == '\n' || c == '\r')

/-- Whether a scheme is the secure one, if it is known at all. -/
def secure? (scheme : List Char) : Option Bool :=
  match Text.lowerAscii (String.ofList scheme) with
  | "http" => some false
  | "https" => some true
  | _ => none

/-- The port that a scheme stands for. -/
def defaultPort (secure : Bool) : Nat := if secure then 443 else 80

/-- A port, or none if it is empty or that of the scheme. -/
def port? (secure : Bool) (cs : List Char) : Option (Option Nat) :=
  if cs.isEmpty then some none
  else (Text.digits? cs).bind fun n =>
    if n < 0x10000 then some (if n = defaultPort secure then none else some n) else none

/-- The characters that may stand in a host. -/
def mayStandInHost : Char → Bool :=
  isPlain ['#', '%', '/', ':', '<', '>', '?', '@', '[', '\\', ']', '^', '|']

/-- A label of a host that is a number, decimal or hexadecimal. Where it is the
last one, the host is an address. -/
def isNumber (label : List Char) : Bool :=
  match label with
  | '0' :: x :: digits =>
    if x == 'x' || x == 'X' then
      digits.all fun c => c.isDigit || ('a' ≤ c.toLower && c.toLower ≤ 'f')
    else (x :: digits).all Char.isDigit
  | _ => !label.isEmpty && label.all Char.isDigit

/-- A number of an address as it is written in full, without zeros before it. -/
def isByte (label : List Char) : Bool :=
  match Text.digits? label with
  | some n => n < 0x100 && (toString n).toList == label
  | none => false

/-- A host in small letters. Its last label may be empty. -/
def host? (cs : List Char) : Option String :=
  let labels := Text.pieces '.' cs
  let last := if labels.getLast? = some [] then labels.dropLast.getLast? else labels.getLast?
  if cs.isEmpty || !cs.all mayStandInHost then none
  else if last.any isNumber && !(labels.length == 4 && labels.all isByte) then none
  else some (Text.lowerAscii (String.ofList cs))

/-- Host and port of an authority; what stands before the last `@` names
the user and is left out. -/
def authority? (secure : Bool) (cs : List Char) : Option (String × Option Nat) := do
  let place := ((Text.cutLast? ['@'] cs).map (·.2)).getD cs
  let (host, port) := ((Text.cutFirst? [':'] place).getD (place, []))
  return (← host? host, ← port? secure port)

/-- Read an absolute URL. -/
def parse? (text : String) : Option Url := do
  let (scheme, rest) ← Text.cutFirst? [':'] (strip text.toList)
  let secure ← secure? scheme
  -- Any number of slashes leads to the authority, and a fragment is not sent.
  let rest := (rest.dropWhile isSlash).takeWhile (· ≠ '#')
  let (authority, rest) := rest.span fun c => !(isSlash c || c == '?')
  let (host, port) ← authority? secure authority
  let (path, query) := rest.span (· ≠ '?')
  return {
    secure, host, port
    path := pathOf path
    query := if query.isEmpty then none
      else some (String.ofList (encode mayStandInQuery (query.drop 1))) }

/-! ### Writing -/

/-- Path and query, as a request names them. -/
def target (url : Url) : String :=
  match url.query with
  | some query => url.path ++ "?" ++ query
  | none => url.path

/-- Scheme, host and port. -/
def origin (url : Url) : String :=
  (if url.secure then "https://" else "http://") ++ url.host ++
    (match url.port with
    | some port => ":" ++ toString port
    | none => "")

/-- The URL as text. -/
def render (url : Url) : String := url.origin ++ url.target

end Url

end MultiTarget.Http
