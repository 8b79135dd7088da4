import MultiTarget.Json.Entry
import MultiTarget.Outline
import MultiTarget.Text.Cut

/-!
# `MultiTarget.Deployed`: what is deployed already

A snapshot of one deployed multi-target application: its applications
with their routes, and its services. An application serves traffic, or
it waits for the swap of a blue-green deployment.

Specification X.6.10. `application?` and `service?` are `find_application`
and `find_service`.
-/

set_option autoImplicit false

namespace MultiTarget

/-- Whether an application serves traffic. -/
inductive Productization where
  | live
  | idle
  deriving DecidableEq, Repr

/-- A deployed application. -/
structure DeployedApplication where
  moduleName : String
  name : String
  uris : List String
  boundServices : List String
  state : Productization
  deriving DecidableEq, Repr

/-- A service that exists. -/
structure DeployedService where
  name : String
  resourceName : Option String
  label : Option String
  plan : Option String
  deriving DecidableEq, Repr

/-- What is deployed of one multi-target application. -/
structure Deployed where
  id : String
  version : Option String
  namespaceName : Option String
  applications : List DeployedApplication
  services : List DeployedService
  deriving DecidableEq, Repr

/-- The name of a state. -/
def Productization.name : Productization → String
  | live => "live"
  | idle => "idle"

namespace Deployed

/-- The first live application of a module; the case of ASCII letters in names
of modules is ignored. An idle one of the same module is passed over, even if
it stands before. -/
def application? (deployed : Deployed) (moduleName : String) : Option DeployedApplication :=
  deployed.applications.find? fun app =>
    Text.equalIgnoringCase app.moduleName moduleName && app.state == .live

/-- The first service with a name. -/
def service? (deployed : Deployed) (name : String) : Option DeployedService :=
  deployed.services.find? (·.name == name)

end Deployed

/-! ### Reading -/

section

variable {σ : Type} [Source σ]

/-- Read the name of a state. -/
def Productization.read? (tree : σ) : Option Productization :=
  (Source.choice? tree).bind fun name => [live, idle].find? (·.name == name)

/-- The fields of a deployed application in order. -/
def DeployedApplication.fields : List FieldName :=
  Record.plainFields ["module-name", "name", "uris", "bound-services", "productization-state"]

/-- Read a deployed application. -/
def DeployedApplication.read? (tree : σ) : Option DeployedApplication := do
  let r ← Record.read? fields tree
  return {
    moduleName := ← r.required "module-name" Source.text?
    name := ← r.required "name" Source.text?
    uris := ← r.orElse "uris" Source.texts? []
    boundServices := ← r.orElse "bound-services" Source.texts? []
    state := ← r.orElse "productization-state" Productization.read? .live }

/-- The fields of a deployed service in order. -/
def DeployedService.fields : List FieldName :=
  Record.plainFields ["name", "resource-name", "label", "plan"]

/-- Read a deployed service. -/
def DeployedService.read? (tree : σ) : Option DeployedService := do
  let r ← Record.read? fields tree
  return {
    name := ← r.required "name" Source.text?
    resourceName := ← r.optional "resource-name" Source.text?
    label := ← r.optional "label" Source.text?
    plan := ← r.optional "plan" Source.text? }

/-- The fields that speak of the whole. -/
def Deployed.metadataFields : List FieldName := Record.plainFields ["id", "version", "namespace"]

/-- Read what the snapshot says of the whole: identifier, version and
namespace. -/
def Deployed.readMetadata? (tree : σ) : Option (String × Option String × Option String) := do
  let r ← Record.read? metadataFields tree
  return (← r.required "id" Source.text?, ← r.optional "version" Source.text?,
    ← r.optional "namespace" Source.text?)

/-- The fields of a snapshot in order. -/
def Deployed.fields : List FieldName :=
  Record.plainFields ["metadata", "applications", "services"]

/-- Read a snapshot. -/
def Deployed.read? (tree : σ) : Option Deployed := do
  let r ← Record.read? fields tree
  let (id, version, namespaceName) ← r.required "metadata" readMetadata?
  return {
    id, version, namespaceName
    applications := ← r.orElse "applications" (Source.list? DeployedApplication.read?) []
    services := ← r.orElse "services" (Source.list? DeployedService.read?) [] }

end

/-- What is looked at of a snapshot. -/
def Deployed.outline : Outline :=
  .record Deployed.fields [
    ("metadata", .record Deployed.metadataFields []),
    ("applications", .list (.record DeployedApplication.fields [])),
    ("services", .list (.record DeployedService.fields []))]

/-! ### Writing -/

/-- A deployed application as JSON. -/
def DeployedApplication.toJson (app : DeployedApplication) : Json := .obj <|
  Json.entry "module-name" (.str app.moduleName) ++
  Json.entry "name" (.str app.name) ++
  Json.entry "uris" (.ofStrings app.uris) ++
  Json.entry "bound-services" (.ofStrings app.boundServices) ++
  Json.entry "productization-state" (.str app.state.name)

/-- A deployed service as JSON. -/
def DeployedService.toJson (service : DeployedService) : Json := .obj <|
  Json.entry "name" (.str service.name) ++
  Json.entry "resource-name" (.ofString? service.resourceName) ++
  Json.entry "label" (.ofString? service.label) ++
  Json.entry "plan" (.ofString? service.plan)

/-- A snapshot as JSON. -/
def Deployed.toJson (deployed : Deployed) : Json := .obj <|
  Json.entry "metadata" (.obj (
    Json.entry "id" (.str deployed.id) ++
    Json.entry "version" (.ofString? deployed.version) ++
    Json.entry "namespace" (.ofString? deployed.namespaceName))) ++
  Json.entry "applications" (.arr (deployed.applications.map DeployedApplication.toJson)) ++
  Json.entry "services" (.arr (deployed.services.map DeployedService.toJson))

end MultiTarget
