import MultiTarget.Descriptor
import MultiTarget.Platform
import MultiTarget.Target

/-!
# `MultiTarget.Proofs.Support.Plain`: descriptors with little in them

Modules, resources, descriptors, a target, services and a platform that
have only what a law reads. The instances of the laws are stated at these.
-/

set_option autoImplicit false

namespace MultiTarget

/-- A module with parameters and no dependencies. Every field that a law can
read but does not is absent or empty. -/
def Module.plain (name : String) (parameters : Parameters) : Module where
  name
  typeName := none
  path := none
  description := none
  parameters
  properties := ∅
  requires := []
  provides := []

/-- An active resource of a type with parameters. Its other fields are those of
the blank one, so none of them is set. -/
def Resource.plain (name typeName : String) (parameters : Parameters) : Resource :=
  { Resource.blank with name, typeName := some typeName, parameters }

/-- A dependency on a resource or a module that flattens nothing into the
environment, so it matters by its name and its parameters only. -/
def RequiredDependency.plain (name : String) (parameters : Parameters) :
    RequiredDependency where
  name
  groups := []
  list := none
  parameters
  properties := ∅

/-- A descriptor with parameters, modules and resources. Its version is a valid
one, so that dependencies that publish it can be built. -/
def Descriptor.plain (parameters : Parameters) (modules : List Module)
    (resources : List Resource) : Descriptor where
  id := "shop"
  version := "1.0.0"
  description := none
  provider := none
  copyright := none
  parameters
  modules
  resources

/-- A target with the values that it must have, and without a router port or an
idle domain. The instances that need one of these set it. -/
def Target.plain : Target where
  org := "acme"
  space := "dev"
  orgGuid := none
  spaceGuid := none
  user := none
  defaultDomain := "apps.example.com"
  defaultIdleDomain := none
  controllerUrl := "https://api.example.com"
  authorizationEndpoint := none
  deployServiceUrl := none
  routeProtocol := none
  routerPort := none
  timestamp := ⟨2024, 1, 2, 3, 4, 5⟩

/-- A managed service with a label to try and a plan, mandatory and without
alternatives, as the creation of services takes it. -/
def Service.plain (name label plan : String) : Service where
  name
  resourceName := name
  kind := .managed
  label := some label
  plan := some plan
  provider := none
  broker := none
  version := none
  alternatives := []
  credentials := ∅
  tags := []
  syslogDrainUrl := none
  isOptional := false
  isManaged := true
  ignoreUpdateErrors := false
  skippedUpdates := ⟨false, false, false, false⟩

/-- A platform that always lists the same offerings and creates whatever it is
asked for. It has no state, so its exchanges depend on the requests only. -/
def Platform.plain (offerings : List Offering) : Platform (StateM Unit) where
  offerings := pure (.ok offerings)
  create _ _ _ := pure (.ok ())

end MultiTarget
