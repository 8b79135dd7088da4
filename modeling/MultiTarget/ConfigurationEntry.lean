import MultiTarget.Json.Render
import MultiTarget.Target
import MultiTarget.Version

/-!
# `MultiTarget.ConfigurationEntry`: what an application publishes

A public provided dependency with properties is published as an entry
that other applications can use. Its visibility lists the spaces from
which they may: those declared and that of the producer, or without a
declaration all spaces of the producer's organisation.

Specification 4.9 and X.6.13. `ofDescriptor` is `build`, `ofModule` is
`module_entries`, `ofDependency` is `entry`, `visibilityOf` is `visibility`,
and `providerIdOf` is `provider_id`.
-/

set_option autoImplicit false

namespace MultiTarget

/-- A space of an organisation; a star stands for any. -/
structure SpaceName where
  org : String
  space : String
  deriving DecidableEq, Repr

/-- A space in words. -/
def SpaceName.render (name : SpaceName) : String := name.org ++ " " ++ name.space

/-- A space as JSON. -/
def SpaceName.toJson (name : SpaceName) : Json := .obj <|
  Json.entry "org" (.str name.org) ++
  Json.entry "space" (.str name.space)

/-- A published dependency. -/
structure ConfigurationEntry where
  providerNid : String
  providerId : String
  providerNamespace : String
  version : Version
  target : SpaceName
  /-- The properties of the dependency as JSON text. -/
  content : String
  visibility : List SpaceName
  spaceGuid : Option String
  deriving DecidableEq, Repr

namespace ConfigurationEntry

/-- The identifier of a dependency of an application. -/
def providerIdOf (mta dependency : String) : String := mta ++ ":" ++ dependency

/-- The complaint about the visibility of a dependency. -/
def invalid (dependency : ProvidedDependency) (reason : String) : ContentError :=
  .invalidVisibility dependency.name reason

/-- A part of a declared space; absent or null it stands for any. An empty text
is a name like any other. -/
def spacePart (dependency : ProvidedDependency) (entries : List (String × Json)) (key : String) :
    Except ContentError String :=
  match Entries.lookup key entries with
  | none | some .null => .ok "*"
  | some (.str name) => .ok name
  | some value => .error (invalid dependency s!"\"{key}\" must be a string, got {value.kind}")

/-- A declared space. -/
def declaredSpace (dependency : ProvidedDependency) : Json → Except ContentError SpaceName
  | .obj entries => do
    return ⟨← spacePart dependency entries "org", ← spacePart dependency entries "space"⟩
  | value => .error (invalid dependency s!"expected a map target, got {value.kind}")

/-- The spaces from which a dependency may be used. An empty list declares
none, so that the space of the producer alone is left; a null is no list. -/
def visibilityOf (target : Target) (dependency : ProvidedDependency) :
    Except ContentError (List SpaceName) := do
  match dependency.parameters.get? "visibility" with
  | none => return [⟨target.org, "*"⟩]
  | some (.arr items) =>
    let declared ← items.mapM (declaredSpace dependency)
    -- The producer's own space stands first, and declaring it again adds nothing.
    return (⟨target.org, target.space⟩ :: declared).eraseDups
  | some value => throw (invalid dependency s!"expected a list, got {value.kind}")

/-- The namespace of a dependency, which is not empty. A null is no text and is
refused. -/
def namespaceOf (dependency : ProvidedDependency) : Except ContentError String :=
  match dependency.parameters.get? "namespace" with
  | none => .ok "default"
  | some (.str name) => .ok (if name.isEmpty then "default" else name)
  | some _ => .error (.invalidType dependency.name "namespace" "string")

/-- The entry of a dependency. The version is handed in, since it is the same
for all entries. -/
def ofDependency (target : Target) (descriptor : Descriptor) (version : Version)
    (dependency : ProvidedDependency) : Except ContentError ConfigurationEntry := do
  return {
    providerNid := "mta"
    providerId := providerIdOf descriptor.id dependency.name
    providerNamespace := ← namespaceOf dependency
    version
    target := ⟨target.org, target.space⟩
    content := (Json.ofMap dependency.properties).compact
    visibility := ← visibilityOf target dependency
    spaceGuid := target.spaceGuid }

/-- The dependencies of a module that are published: the public ones with
properties. Without properties there is nothing to publish. -/
def published (m : Module) : List ProvidedDependency :=
  m.provides.filter fun dependency => dependency.isPublic && !dependency.properties.isEmpty

/-- The version of the application, read where an entry needs it for the
first time and kept for those that follow. -/
def versionOnce (descriptor : Descriptor) :
    StateT (Option Version) (Except ContentError) Version := do
  match ← get with
  | some version => return version
  | none =>
    -- A version that cannot be read is a fault only if something is published.
    let version ← Version.parse descriptor.id descriptor.version
    set (some version)
    return version

/-- The entries of a module. -/
def ofModule (target : Target) (descriptor : Descriptor) (m : Module) :
    StateT (Option Version) (Except ContentError) (List ConfigurationEntry) :=
  (published m).mapM fun dependency => do
    ofDependency target descriptor (← versionOnce descriptor) dependency

/-- The entries of all modules by their names. A module without entries has an
empty list. Of modules with one name the last one's entries stay. -/
def ofDescriptor (target : Target) (descriptor : Descriptor) :
    Except ContentError (OrderedMap (List ConfigurationEntry)) := do
  let named := descriptor.modules.mapM fun m => do
    return (m.name, ← ofModule target descriptor m)
  -- Every descriptor starts without a version: nothing is kept between runs.
  return .ofList (← named.run' none)

/-- An entry as JSON. -/
def toJson (entry : ConfigurationEntry) : Json := .obj <|
  Json.entry "provider-nid" (.str entry.providerNid) ++
  Json.entry "provider-id" (.str entry.providerId) ++
  Json.entry "provider-namespace" (.str entry.providerNamespace) ++
  Json.entry "version" (.str entry.version.render) ++
  Json.entry "target" entry.target.toJson ++
  Json.entry "content" (.str entry.content) ++
  Json.entry "visibility" (.arr (entry.visibility.map SpaceName.toJson)) ++
  Json.textEntry "space-guid" entry.spaceGuid

end ConfigurationEntry

end MultiTarget
