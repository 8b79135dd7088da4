import MultiTarget.Text.Cut
import MultiTarget.Text.Numeral

/-!
# `MultiTarget.Uri`: the parts of a route

A route is written `host.domain/path` or, where routes are told apart by
port, `domain:port/path`. A scheme in front of it is ignored.

Specification 4.4 (hosts, domains, ports and paths of routes). `split`,
`withoutScheme`, `withScheme`, `domainOf?` and `portOf?` are `split`,
`without_scheme`, `with_scheme`, `domain` and `port`.
-/

set_option autoImplicit false

namespace MultiTarget

/-- The parts of a route. -/
structure Uri where
  host : String
  domain : String
  port : Option Nat
  /-- The path with the slash that it begins with. -/
  path : Option String
  deriving DecidableEq, Repr

namespace Uri

/-- What separates a scheme from the rest. -/
def schemeSeparator : List Char := "://".toList

theorem schemeSeparator_eq : schemeSeparator = [':', '/', '/'] := by decide

/-- A route without its scheme. Nothing before the separator is no scheme. The
first separator counts wherever it stands, even in a path. -/
def withoutScheme (cs : List Char) : List Char :=
  match Text.cutFirst? schemeSeparator cs with
  | some (_ :: _, rest) => rest
  | _ => cs

/-- A route with a scheme in front. -/
def withScheme (scheme route : String) : String :=
  scheme ++ String.ofList schemeSeparator ++ route

/-- The number of a port, which is never zero. A text that is no such number
gives no port, and is no fault. -/
def port? (cs : List Char) : Option Nat := (Text.unsigned? 0x10000 cs).filter (0 < ·)

/-- The parts of an authority. What follows the last colon is a port, and then
there is no host; else what precedes the first dot is the host. An empty part
before either sign is none. -/
def ofAuthority (authority : List Char) (path : Option String) : Uri :=
  match Text.cutLast? [':'] authority with
  -- The colon makes it a route by port, whether or not a number follows.
  | some (c :: domain, port) => ⟨"", String.ofList (c :: domain), port? port, path⟩
  | _ =>
    match Text.cutFirst? ['.'] authority with
    | some (c :: host, domain) => ⟨String.ofList (c :: host), String.ofList domain, none, path⟩
    | _ => ⟨"", String.ofList authority, none, path⟩

/-- The parts of a route. Every text has them: what cannot be divided is a
domain. -/
def split (route : String) : Uri :=
  let (authority, path) := (withoutScheme route.toList).span (· ≠ '/')
  ofAuthority authority (if path.isEmpty then none else some (String.ofList path))

/-- The domain of a route, if it has one. -/
def domainOf? (route : String) : Option String :=
  some (split route).domain |>.filter (!·.isEmpty)

/-- The port of a route, if it has one. -/
def portOf? (route : String) : Option Nat := (split route).port

end Uri

end MultiTarget
