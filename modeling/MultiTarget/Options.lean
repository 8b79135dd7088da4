import MultiTarget.Descriptor
import MultiTarget.Json.Entry
import MultiTarget.Source

/-!
# `MultiTarget.Options`: switches that shape the model

The flavour of the platform, the use of namespaces in names, and how
routes are made and written.

Specification X.4 (`ModelConfig`). `namespaceFor` is `namespace_for`, and
`includesProtocol` is `includes_protocol`.
-/

set_option autoImplicit false

namespace MultiTarget

/-- Flavours of the target platform. -/
inductive Flavour where
  | cf
  | xs2
  deriving DecidableEq, Repr

namespace Flavour

/-- The name of a flavour. -/
def name : Flavour → String
  | cf => "cf"
  | xs2 => "xs2"

/-- Whether routes are written with their scheme. -/
def includesProtocol (flavour : Flavour) : Bool := flavour == xs2

/-- Read the name of a flavour. -/
def read? {σ : Type} [Source σ] (tree : σ) : Option Flavour :=
  (Source.choice? tree).bind fun name => [cf, xs2].find? (·.name == name)

end Flavour

/-- The switches. -/
structure Options where
  flavour : Flavour
  /-- The namespace of names; without one it is the identifier of the
  descriptor. -/
  namespaceName : Option String
  portBasedRouting : Bool
  prettyPrinting : Bool
  useNamespaces : Bool
  useNamespacesForServices : Bool
  namespaceAsSuffix : Bool
  /-- Applications keep the routes they have. -/
  keepExistingRoutes : Bool
  deployId : Option String
  deriving DecidableEq, Repr

namespace Options

/-- Everything switched off. -/
def standard : Options := ⟨.cf, none, false, false, false, false, false, false, none⟩

/-- The namespace for a descriptor: the one given, else its identifier. -/
def namespaceFor (options : Options) (descriptor : Descriptor) : String :=
  options.namespaceName.getD descriptor.id

/-- The switches in order. -/
def fields : List FieldName :=
  Record.plainFields ["platform-type", "namespace", "port-based-routing", "pretty-printing",
    "use-namespaces", "use-namespaces-for-services", "namespace-as-suffix",
    "keep-existing-routes", "deploy-id"]

/-- Read switches; those left out are off. -/
def read? {σ : Type} [Source σ] (tree : σ) : Option Options := do
  let r ← Record.read? fields tree
  return {
    flavour := ← r.orElse "platform-type" Flavour.read? .cf
    namespaceName := ← r.optional "namespace" Source.text?
    portBasedRouting := ← r.orElse "port-based-routing" Source.flag? false
    prettyPrinting := ← r.orElse "pretty-printing" Source.flag? false
    useNamespaces := ← r.orElse "use-namespaces" Source.flag? false
    useNamespacesForServices := ← r.orElse "use-namespaces-for-services" Source.flag? false
    namespaceAsSuffix := ← r.orElse "namespace-as-suffix" Source.flag? false
    keepExistingRoutes := ← r.orElse "keep-existing-routes" Source.flag? false
    deployId := ← r.optional "deploy-id" Source.text? }

/-- Switches as JSON. -/
def toJson (options : Options) : Json := .obj <|
  Json.entry "platform-type" (.str options.flavour.name) ++
  Json.entry "namespace" (.ofString? options.namespaceName) ++
  Json.entry "port-based-routing" (.bool options.portBasedRouting) ++
  Json.entry "pretty-printing" (.bool options.prettyPrinting) ++
  Json.entry "use-namespaces" (.bool options.useNamespaces) ++
  Json.entry "use-namespaces-for-services" (.bool options.useNamespacesForServices) ++
  Json.entry "namespace-as-suffix" (.bool options.namespaceAsSuffix) ++
  Json.entry "keep-existing-routes" (.bool options.keepExistingRoutes) ++
  Json.entry "deploy-id" (.ofString? options.deployId)

end Options

end MultiTarget
