import MultiTarget.Name

/-!
# `MultiTarget.ServiceNaming`: names of the services of resources

A resource says what its service is called. An existing service keeps
that name; every other one gets the namespace, where services take part
in namespaces, and fits into the limit of the platform.

Specification 4.3 and X.6.2. `shortName` and `name` are `short_name` and
`map_name`.
-/

set_option autoImplicit false

namespace MultiTarget

/-- How services are named. -/
structure ServiceNaming where
  namespaceName : Option String
  useNamespaces : Bool
  useNamespacesForServices : Bool
  asSuffix : Bool
  deriving DecidableEq, Repr

namespace ServiceNaming

/-- How the services of a descriptor are named. -/
def ofOptions (options : Options) (descriptor : Descriptor) : ServiceNaming where
  namespaceName := some (options.namespaceFor descriptor)
  useNamespaces := options.useNamespaces
  useNamespacesForServices := options.useNamespacesForServices
  asSuffix := options.namespaceAsSuffix

/-- The style of service names. Namespaces are part of them only if they are
part of names at all. -/
def style (naming : ServiceNaming) : Name.Style :=
  ⟨naming.namespaceName, naming.useNamespaces && naming.useNamespacesForServices,
    naming.asSuffix⟩

/-- The declared name of a service: the parameter `service-name`, else
`default-service-name`, else the name of the resource. Parameters that are no
texts are passed over, and those of the descriptor do not count. -/
def shortName (resource : Resource) : String :=
  let declared (key : String) : Option String :=
    (resource.parameters.get? key).bind Json.text?
  (declared "service-name" <|> declared "default-service-name").getD resource.name

/-- The name of the service of a resource. It fails for a type of the wrong
shape, and where the namespace leaves no room for the name. -/
def name (naming : ServiceNaming) (resource : Resource) : Except ContentError String := do
  -- It was named by somebody else, so neither namespace nor limit applies.
  if (← resource.serviceKind) = some .existing then return shortName resource
  Name.ofService naming.style (shortName resource)

end ServiceNaming

end MultiTarget
