import MultiTarget.ContentError
import MultiTarget.Json

/-!
# `MultiTarget.Descriptor`: deployment descriptors

A descriptor describes one multi-target application: modules, which are
deployed, and resources, which modules require. Parameters steer how the
model is built; properties are opaque data for the application. Both
come in scopes: of the descriptor, of a module or resource, and of a
dependency.

Specification 3 and X.6.1. `declaredType`, `serviceKind` and `isService` are
`declared_type`, `service_kind` and `is_service`; `destinationGroups` is
`destination_groups`.
-/

set_option autoImplicit false

namespace MultiTarget

/-- A reference from a module to a resource or to a provided dependency. -/
structure RequiredDependency where
  name : String
  /-- The groups its properties are collected in. -/
  groups : List String
  /-- A single group that takes the place of `groups`. -/
  list : Option String
  parameters : Parameters
  properties : Parameters
  deriving DecidableEq, Repr

/-- A named contract that a module offers to others. -/
structure ProvidedDependency where
  name : String
  /-- Whether other applications may use it. -/
  isPublic : Bool
  parameters : Parameters
  properties : Parameters
  deriving DecidableEq, Repr

/-- A deployable unit: an application or a cluster workload. -/
structure Module where
  name : String
  typeName : Option String
  path : Option String
  description : Option String
  parameters : Parameters
  properties : Parameters
  requires : List RequiredDependency
  provides : List ProvidedDependency
  deriving DecidableEq, Repr

/-- A declared dependency of the application, usually a service. -/
structure Resource where
  name : String
  typeName : Option String
  description : Option String
  parameters : Parameters
  properties : Parameters
  isOptional : Bool
  isActive : Bool
  deriving DecidableEq, Repr

/-- The description of a multi-target application. -/
structure Descriptor where
  id : String
  version : String
  description : Option String
  provider : Option String
  copyright : Option String
  parameters : Parameters
  modules : List Module
  resources : List Resource
  deriving DecidableEq, Repr

/-- The kinds of resources that describe a service. -/
inductive ServiceKind where
  | managed
  | userProvided
  | existing
  | existingKey
  deriving DecidableEq, Repr

/-- The groups in which the properties of a dependency are collected. Without
one they are flattened into the environment. A single group takes the place of
the list, and is not added to it. -/
def RequiredDependency.destinationGroups (dependency : RequiredDependency) : List String :=
  match dependency.list with
  | some group => [group]
  | none => dependency.groups

namespace ServiceKind

/-- The name of the kind in a descriptor. -/
def name : ServiceKind → String
  | managed => "managed-service"
  | userProvided => "user-provided-service"
  | existing => "existing-service"
  | existingKey => "existing-service-key"

/-- The four kinds. -/
def all : List ServiceKind := [managed, userProvided, existing, existingKey]

/-- The kind with a name. -/
def ofName? (name : String) : Option ServiceKind := all.find? (·.name == name)

/-- What may stand before the name of a kind. -/
def qualifier : String := "org.cloudfoundry."

/-- The kind that a resource type names, with or without the qualifier. A type
that names no kind is no fault: the resource then describes no service. -/
def ofType? (typeName : String) : Option ServiceKind :=
  match qualifier.toList.isPrefixOf? typeName.toList with
  | some short => ofName? (String.ofList short)
  | none => ofName? typeName

/-- The parameters that a resource of a kind must have, in the order in which
they are found missing. -/
def requiredParameters : ServiceKind → List String
  | managed => ["service", "service-plan"]
  | userProvided => []
  | existing => []
  | existingKey => ["service-name"]

end ServiceKind

namespace Resource

/-- An active resource without name and content. -/
def blank : Resource where
  name := ""
  typeName := none
  description := none
  parameters := ∅
  properties := ∅
  isOptional := false
  isActive := true

/-- The type of a resource; the parameter `type` wins over the attribute. A
null is no text, and no absence either. -/
def declaredType (resource : Resource) : Except ContentError (Option String) :=
  match resource.parameters.get? "type" with
  | some (.str text) => .ok (some text)
  | some _ => .error (.invalidType resource.name "type" "string")
  | none => .ok resource.typeName

/-- The service kind of a resource; `none` for a resource that describes
no service. -/
def serviceKind (resource : Resource) : Except ContentError (Option ServiceKind) := do
  return (← resource.declaredType).bind ServiceKind.ofType?

/-- Whether a resource describes a service. One whose type is no text describes
none here, while reading its kind fails. -/
def isService (resource : Resource) : Bool :=
  match resource.serviceKind with
  | .ok (some _) => true
  | _ => false

end Resource

namespace Descriptor

/-- The first module with a name. Names may repeat, and then the others are not
reached by it. -/
def module? (descriptor : Descriptor) (name : String) : Option Module :=
  descriptor.modules.find? (·.name == name)

/-- The first resource with a name. -/
def resource? (descriptor : Descriptor) (name : String) : Option Resource :=
  descriptor.resources.find? (·.name == name)

/-- The first provided dependency with a name, with its module. -/
def providedDependency? (descriptor : Descriptor) (name : String) :
    Option (Module × ProvidedDependency) :=
  descriptor.modules.findSome? fun m =>
    (m.provides.find? (·.name == name)).map fun p => (m, p)

end Descriptor

end MultiTarget
