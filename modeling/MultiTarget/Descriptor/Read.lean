import MultiTarget.Descriptor
import MultiTarget.Outline

/-!
# `MultiTarget.Descriptor.Read`: descriptors from trees

Reads descriptors and their parts from any `Source`. Lists and maps may
be absent, but not null; optional attributes may be both. Unknown
attributes are left out.

Specification 3 and X.6.1 list the attributes. A group that is a single text
is a list of one (`one_or_many`).
-/

set_option autoImplicit false

namespace MultiTarget

variable {σ : Type} [Source σ]

/-- The groups of a dependency: none, one or several. Unlike other lists they
may be null, and a single text is a list of one. -/
def readGroups (tree : σ) : Option (List String) :=
  match Source.isNull? tree with
  | some true => some []
  | some false =>
    match Source.value? tree with
    | some (.str group) => some [group]
    | some (.arr items) => items.mapM Json.text?
    | _ => none
  | none => none

/-- The attributes of a required dependency in order. -/
def RequiredDependency.fields : List FieldName :=
  Record.plainFields ["name", "group", "list", "parameters", "properties"]

/-- Read a required dependency. -/
def RequiredDependency.read? (tree : σ) : Option RequiredDependency := do
  let r ← Record.read? fields tree
  return {
    name := ← r.required "name" Source.text?
    groups := ← r.orElse "group" readGroups []
    list := ← r.optional "list" Source.text?
    parameters := ← r.orElse "parameters" Source.parameters? ∅
    properties := ← r.orElse "properties" Source.parameters? ∅ }

/-- The attributes of a provided dependency in order. -/
def ProvidedDependency.fields : List FieldName :=
  Record.plainFields ["name", "public", "parameters", "properties"]

/-- Read a provided dependency. -/
def ProvidedDependency.read? (tree : σ) : Option ProvidedDependency := do
  let r ← Record.read? fields tree
  return {
    name := ← r.required "name" Source.text?
    isPublic := ← r.orElse "public" Source.flag? false
    parameters := ← r.orElse "parameters" Source.parameters? ∅
    properties := ← r.orElse "properties" Source.parameters? ∅ }

/-- The attributes of a module in order. -/
def Module.fields : List FieldName :=
  Record.plainFields ["name", "type", "path", "description", "parameters", "properties",
    "requires", "provides"]

/-- Read a module. -/
def Module.read? (tree : σ) : Option Module := do
  let r ← Record.read? Module.fields tree
  return {
    name := ← r.required "name" Source.text?
    typeName := ← r.optional "type" Source.text?
    path := ← r.optional "path" Source.text?
    description := ← r.optional "description" Source.text?
    parameters := ← r.orElse "parameters" Source.parameters? ∅
    properties := ← r.orElse "properties" Source.parameters? ∅
    requires := ← r.orElse "requires" (Source.list? RequiredDependency.read?) []
    provides := ← r.orElse "provides" (Source.list? ProvidedDependency.read?) [] }

/-- The attributes of a resource in order. -/
def Resource.fields : List FieldName :=
  Record.plainFields ["name", "type", "description", "parameters", "properties", "optional",
    "active"]

/-- Read a resource. -/
def Resource.read? (tree : σ) : Option Resource := do
  let r ← Record.read? Resource.fields tree
  return {
    name := ← r.required "name" Source.text?
    typeName := ← r.optional "type" Source.text?
    description := ← r.optional "description" Source.text?
    parameters := ← r.orElse "parameters" Source.parameters? ∅
    properties := ← r.orElse "properties" Source.parameters? ∅
    isOptional := ← r.orElse "optional" Source.flag? false
    isActive := ← r.orElse "active" Source.flag? true }

/-- The attributes of a descriptor in order; the identifier may be
written in small letters. -/
def Descriptor.fields : List FieldName :=
  ⟨"ID", ["id"]⟩ :: Record.plainFields ["version", "description", "provider", "copyright",
    "parameters", "modules", "resources"]

/-- Read a descriptor. -/
def Descriptor.read? (tree : σ) : Option Descriptor := do
  let r ← Record.read? Descriptor.fields tree
  return {
    id := ← r.required "ID" Source.text?
    version := ← r.required "version" Source.text?
    description := ← r.optional "description" Source.text?
    provider := ← r.optional "provider" Source.text?
    copyright := ← r.optional "copyright" Source.text?
    parameters := ← r.orElse "parameters" Source.parameters? ∅
    modules := ← r.orElse "modules" (Source.list? Module.read?) []
    resources := ← r.orElse "resources" (Source.list? Resource.read?) [] }

/-- What is looked at of a module. -/
def Module.outline : Outline :=
  .record Module.fields [
    ("requires", .list (.record RequiredDependency.fields [])),
    ("provides", .list (.record ProvidedDependency.fields []))]

/-- What is looked at of a descriptor. -/
def Descriptor.outline : Outline :=
  .record Descriptor.fields [
    ("modules", .list Module.outline),
    ("resources", .list (.record Resource.fields []))]

/-- The kind of a service by its name. -/
def ServiceKind.read? (tree : σ) : Option ServiceKind :=
  (Source.choice? tree).bind ServiceKind.ofName?

end MultiTarget
