import MultiTarget.Digest.Sha256
import MultiTarget.Options
import MultiTarget.ScopeChain
import MultiTarget.Text.Cut

/-!
# `MultiTarget.Name`: names of applications and services

A platform limits the length of names. A longer name is cut and ends with
the beginning of its digest, so different long names stay different. A
namespace stands in front of a name, or behind it but before the marker
of a blue-green deployment.

Specification 4.3 and X.6.2. `shorten` is `shortened`, `ofText` is
`namespaced_name`, `withSuffix` is `with_namespace_suffix`, `ofApplication`
and `ofService` are `valid_application_name` and `valid_service_name`, and
`ofModule` is `application_name`.
-/

set_option autoImplicit false

namespace MultiTarget.Name

/-- How many characters of its digest end a shortened name. -/
def digestLength : Nat := 8

/-- The greatest length of the name of an application. -/
def applicationMaxLength : Nat := 1024

/-- The greatest length of the name of a service. -/
def serviceMaxLength : Nat := 50

/-- A name of at most `maxLength` characters. The digest is that of the whole
name, so that names with the same beginning can be told apart. Without room for
the digest a name cannot be shortened. -/
def shorten (name : String) (maxLength : Nat) : Except ContentError String :=
  if name.length ≤ maxLength then .ok name
  -- Cutting would leave less than a digest, and the name would not be told apart.
  else if maxLength < digestLength then .error (.cannotShortenName name maxLength)
  else .ok <| String.ofList <|
    name.toList.take (maxLength - digestLength) ++
      (Digest.Sha256.hexDigest name).take digestLength

/-- The markers of the two sides of a blue-green deployment, in the order in
which they are tried. None ends another, so a name has at most one. -/
def markers : List (List Char) := ["-idle".toList, "-blue".toList, "-green".toList]

/-- The length of the longest marker, which is that of `-green`. -/
def maxMarkerLength : Nat := 6

/-- The marker that a name ends with. -/
def marker? (name : List Char) : Option (List Char) := markers.find? (·.isSuffixOf name)

/-- A name with a namespace behind it, before the marker. Room is left for the
longest marker, whichever it is, and even for names without one. -/
def withSuffix (name namespaceName : String) (maxLength : Nat) : Except ContentError String := do
  let suffix := '-' :: namespaceName.toList
  -- The subtraction ends at zero: a long namespace may leave no room at all.
  let short := (← shorten name (maxLength - (suffix.length + maxMarkerLength))).toList
  match marker? name.toList with
  | some marker =>
    -- Where the name was shortened, its digest has taken the place of the marker at the end. Then
    -- the last marker anywhere in it is cut, with all that follows.
    let stem := match Text.cutLast? marker short with
      | some (before, _) => before
      | none => short
    return String.ofList (stem ++ suffix ++ marker)
  | none => return String.ofList (short ++ suffix)

/-- How namespaces enter names. -/
structure Style where
  /-- The namespace; an empty one counts as none. -/
  namespaceName : Option String
  /-- The namespace is part of the name. -/
  applies : Bool
  /-- The namespace stands behind the name. -/
  asSuffix : Bool
  deriving DecidableEq, Repr

/-- The namespace that is part of names. -/
def Style.applied? (style : Style) : Option String :=
  style.namespaceName.filter fun ns => !ns.isEmpty && style.applies

/-- A name with its namespace, of at most `maxLength` characters. In front, the
namespace is shortened along with the name; behind, the name alone gives way to
it. -/
def ofText (style : Style) (name : String) (maxLength : Nat) : Except ContentError String := do
  let full ← match style.applied? with
    | some ns => if style.asSuffix then withSuffix name ns maxLength else pure (ns ++ "-" ++ name)
    | none => pure name
  -- A second time: namespace and marker may have come on top of a name that fits.
  shorten full maxLength

/-- The name of an application. -/
def ofApplication (style : Style) (name : String) : Except ContentError String :=
  ofText style name applicationMaxLength

/-- The name of a service. -/
def ofService (style : Style) (name : String) : Except ContentError String :=
  ofText style name serviceMaxLength

/-- The name of the application of a module: the parameter `app-name`,
else `default-app-name`, else the name of the module. -/
def ofModule (options : Options) (descriptor : Descriptor) (m : Module) (chain : ScopeChain) :
    Except ContentError String := do
  let short ← match ← chain.text? "app-name" with
    | some name => pure name
    | none => pure ((← chain.text? "default-app-name").getD m.name)
  ofApplication
    ⟨some (options.namespaceFor descriptor), options.useNamespaces, options.namespaceAsSuffix⟩
    short

end MultiTarget.Name
