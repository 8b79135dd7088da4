import MultiTarget.Build
import MultiTarget.Descriptor
import MultiTarget.Text.Blank
import MultiTarget.Text.Numeral

/-!
# `MultiTarget.ScopeChain`: layered parameters

The parameters that apply to a module, a resource or a dependency stand
in several scopes: those of the descriptor, its own, and those of the
dependency. A chain lists them from the most general to the most
specific, and a more specific scope shadows a more general one.

* `ScopeChain.get?` is the one look-up; every typed reader is a function
  of the value that it finds (`ScopeChain.read?_congr`).
* `ScopeChain.pair` reads a name and its plural from one scope, the most
  specific one that has either.
* `ScopeChain.merged` is one scope with the same look-ups.

Specification 4.1 and X.7. `get?` is `get`, `pair` is `get_all`, `merged` is
`merge_all`, and `unsupported` is `unsupported_keys`. `moduleScopes`,
`resourceScopes` and `dependencyScopes` are `module_chain`, `resource_chain`
and `dependency_chain`.
-/

set_option autoImplicit false

namespace MultiTarget

namespace Json

/-- A flag, or the text of one. -/
def flag? : Json → Option Bool
  | .bool flag => some flag
  | .str "true" => some true
  | .str "false" => some false
  | _ => none

/-- A boolean. -/
def bool? : Json → Option Bool
  | .bool flag => some flag
  | _ => none

/-- A signed 64-bit integer, or its text between blanks. A number with a
fraction is none, even if the fraction is zero. -/
def integer? : Json → Option Int
  | .str text => Text.signed64? (Text.trim text.toList)
  | value => value.signed?

/-- The entries of a map. -/
def entries? : Json → Option (List (String × Json))
  | .obj entries => some entries
  | _ => none

/-- The items of a list. -/
def items? : Json → Option (List Json)
  | .arr items => some items
  | _ => none

/-- A list of texts; a single text is a list of one. -/
def texts? : Json → Option (List String)
  | .str text => some [text]
  | .arr items => items.mapM text?
  | _ => none

end Json

/-- The parameter scopes of one owner. -/
structure ScopeChain where
  /-- The module, resource or dependency that messages name. -/
  owner : String
  /-- The scopes, the most general first. -/
  scopes : List Parameters
  deriving DecidableEq, Repr

namespace ScopeChain

variable {α : Type}

/-- The chain with a more specific scope and its owner. -/
def extend (chain : ScopeChain) (owner : String) (scope : Parameters) : ScopeChain :=
  ⟨owner, chain.scopes ++ [scope]⟩

/-! ### Single parameters -/

/-- The value of a key in the most specific scope that has it. A null is a
value here: it hides those of more general scopes. -/
def get? (chain : ScopeChain) (key : String) : Option Json :=
  -- Scopes are kept in the order they are written, so the look-up starts at the end.
  chain.scopes.reverse.findSome? (·.get? key)

/-- Whether a scope has the key, be it with a null: what is contained may still
be read as absent. -/
def contains (chain : ScopeChain) (key : String) : Bool := (chain.get? key).isSome

/-- The complaint that a parameter is not of the expected shape. -/
def invalid (chain : ScopeChain) (key expected : String) : ContentError :=
  .invalidType chain.owner key expected

/-- The value of a key as it is seen by `view`. A null counts as absent; a
value without a view is not of the expected shape. All typed readers are this
one with their view and their name of the shape. -/
def read? (chain : ScopeChain) (key expected : String) (view : Json → Option α) :
    Except ContentError (Option α) :=
  match chain.get? key with
  -- After the look-up: a null has hidden the other scopes already.
  | none | some .null => .ok none
  | some value =>
    match view value with
    | some seen => .ok (some seen)
    | none => .error (chain.invalid key expected)

/-- What is read depends on the owner and the value found alone. -/
theorem read?_congr {a b : ScopeChain} {key : String} (howner : a.owner = b.owner)
    (hget : a.get? key = b.get? key) (expected : String) (view : Json → Option α) :
    a.read? key expected view = b.read? key expected view := by
  simp only [read?, invalid, hget, howner]

/-- A text. -/
def text? (chain : ScopeChain) (key : String) : Except ContentError (Option String) :=
  chain.read? key "string" Json.text?

/-- A flag. -/
def flag? (chain : ScopeChain) (key : String) : Except ContentError (Option Bool) :=
  chain.read? key "boolean" Json.flag?

/-- A flag with a value for its absence. -/
def flag (chain : ScopeChain) (key : String) (absent : Bool) : Except ContentError Bool :=
  return (← chain.flag? key).getD absent

/-- An integer. -/
def integer? (chain : ScopeChain) (key : String) : Except ContentError (Option Int) :=
  chain.read? key "integer" Json.integer?

/-- A map. -/
def map? (chain : ScopeChain) (key : String) :
    Except ContentError (Option (List (String × Json))) :=
  chain.read? key "map" Json.entries?

/-- A list. -/
def list? (chain : ScopeChain) (key : String) : Except ContentError (Option (List Json)) :=
  chain.read? key "list" Json.items?

/-- A list of texts, empty if absent. -/
def texts (chain : ScopeChain) (key : String) : Except ContentError (List String) :=
  return (← chain.read? key "list of strings" Json.texts?).getD []

/-! ### Inside a map -/

/-- The value of a name inside a map parameter. A null counts as absent.
Complaints name the map and the name inside it. -/
def inner? (chain : ScopeChain) (key : String) (entries : List (String × Json))
    (name expected : String) (view : Json → Option α) : Except ContentError (Option α) :=
  match Entries.lookup name entries with
  | none | some .null => .ok none
  | some value =>
    match view value with
    | some seen => .ok (some seen)
    | none => .error (chain.invalid (key ++ "#" ++ name) expected)

/-- A text inside a map. -/
def innerText? (chain : ScopeChain) (key : String) (entries : List (String × Json))
    (name : String) : Except ContentError (Option String) :=
  chain.inner? key entries name "string" Json.text?

/-- A boolean inside a map, with a value for its absence. -/
def innerFlag (chain : ScopeChain) (key : String) (entries : List (String × Json))
    (name : String) (absent : Bool) : Except ContentError Bool :=
  return (← chain.inner? key entries name "boolean" Json.bool?).getD absent

/-! ### Singular and plural -/

/-- The most specific scope that has either of two names. A null is enough: the
scope then shadows the others and gives nothing. -/
def pairScope? (chain : ScopeChain) (singular plural : String) : Option Parameters :=
  chain.scopes.reverse.find? fun scope => scope.contains singular || scope.contains plural

/-- The values of a name and of its plural in one scope, the single value
first. Names of other scopes are not added to it, so a module that says one of
the two has its own list and no more. -/
def pair (chain : ScopeChain) (singular plural : String) : Except ContentError (List Json) :=
  match chain.pairScope? singular plural with
  | none => .ok []
  | some scope =>
    -- From here on only this scope counts.
    let single := match scope.get? singular with
      | none | some .null => []
      | some value => [value]
    match scope.get? plural with
    | none | some .null => .ok single
    | some (.arr items) => .ok (single ++ items)
    | some _ => .error (chain.invalid plural "list")

/-- The values of a pair, each seen by `view`; complaints name the
plural. -/
def pairOf (chain : ScopeChain) (singular plural expected : String) (view : Json → Option α) :
    Except ContentError (List α) := do
  match (← chain.pair singular plural).mapM view with
  | some seen => .ok seen
  | none => .error (chain.invalid plural expected)

/-- The texts of a pair. -/
def pairTexts (chain : ScopeChain) (singular plural : String) :
    Except ContentError (List String) :=
  chain.pairOf singular plural "list of strings" Json.text?

/-- The integers of a pair. -/
def pairIntegers (chain : ScopeChain) (singular plural : String) :
    Except ContentError (List Int) :=
  chain.pairOf singular plural "list of integers" Json.integer?

/-! ### All parameters -/

/-- All scopes as one, each key with the value of the most specific scope that
has it. A null stays, since it hides values as much as any other. -/
def merged (chain : ScopeChain) : Parameters :=
  chain.scopes.foldl OrderedMap.overlay ∅

/-- The keys of all scopes that stand in none of the known lists, in ascending
order. The keys of the descriptor's scope count for every module and every
service again. -/
def unsupported (chain : ScopeChain) (known : List (List String)) : List String :=
  chain.merged.keys.filter fun key => !known.flatten.contains key

/-- The warnings about unsupported keys. -/
def unsupportedWarnings (chain : ScopeChain) (known : List (List String)) : List Warning :=
  (chain.unsupported known).map fun key => .unsupportedParameter chain.owner key

/-- Warn of every unsupported key. This never fails, so it may stand before
readers that do. -/
def warnUnsupported (chain : ScopeChain) (known : List (List String)) : Build Unit :=
  Build.warn (chain.unsupportedWarnings known)

end ScopeChain

namespace Descriptor

/-- The scopes of a module. -/
def moduleScopes (descriptor : Descriptor) (m : Module) : ScopeChain :=
  ⟨m.name, [descriptor.parameters, m.parameters]⟩

/-- The scopes of a resource. -/
def resourceScopes (descriptor : Descriptor) (resource : Resource) : ScopeChain :=
  ⟨resource.name, [descriptor.parameters, resource.parameters]⟩

/-- The scopes of a dependency that a module requires: those of the module with
one more, whose owner is named by both. -/
def dependencyScopes (descriptor : Descriptor) (m : Module) (dependency : RequiredDependency) :
    ScopeChain :=
  (descriptor.moduleScopes m).extend (m.name ++ "#" ++ dependency.name) dependency.parameters

/-- The scopes of the first module with a name. -/
def moduleScopes? (descriptor : Descriptor) (name : String) : Option ScopeChain :=
  (descriptor.module? name).map descriptor.moduleScopes

/-- The scopes of the first resource with a name. -/
def resourceScopes? (descriptor : Descriptor) (name : String) : Option ScopeChain :=
  (descriptor.resource? name).map descriptor.resourceScopes

/-- The scopes of the first dependency with a name that the first module
with a name requires. -/
def dependencyScopes? (descriptor : Descriptor) (moduleName name : String) :
    Option ScopeChain := do
  let m ← descriptor.module? moduleName
  let dependency ← m.requires.find? (·.name == name)
  return descriptor.dependencyScopes m dependency

end Descriptor

end MultiTarget
