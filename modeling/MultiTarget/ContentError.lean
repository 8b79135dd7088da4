import MultiTarget.Text.Quoted

/-!
# `MultiTarget.ContentError`: faults in the content of a descriptor

A content error names the module or resource and the parameter that its
author can mend. `ContentError.message` is the one place where it is put
into words.

Specification 7 lists the faults, and X.3 asks that each names what it is
about.
-/

set_option autoImplicit false

namespace MultiTarget

/-- Why no model can be built from a descriptor, or no service created
from a model. -/
inductive ContentError where
  | invalidType (owner parameter expected : String)
  | missingParameter (resource kind parameter : String)
  | invalidServiceConfig (service actual : String)
  | invalidBindingParameters (module dependency actual : String)
  | invalidTcpRoute (module : String)
  | missingContainerImage (module : String)
  | invalidSecretData (resource actual : String)
  | unknownResourceType (resource value : String)
  | unknownModuleType (module value : String)
  | invalidMemory (owner value : String)
  | unsupportedLifecycle (module value : String)
  | buildpacksRequiredForCnb (module : String)
  | dockerInfoRequired (module : String)
  | buildpacksNotAllowedWithDocker (module : String)
  | dockerInfoNotAllowed (module lifecycle : String)
  | cannotShortenName (name : String) (maxLength : Nat)
  | unknownDeployedAfter (module dependency : String)
  | deploymentOrderCycle (modules : List String)
  | invalidVersion (mta version : String)
  | invalidVisibility (dependency reason : String)
  | noOfferingsMatchPlan (service : String) (candidates : List String) (plan : String)
  | cannotCreateService (service : String) (offerings : List String)
  deriving DecidableEq, Repr

namespace ContentError

/-- The error in words. -/
def message : ContentError → String
  | invalidType owner parameter expected =>
    s!"invalid type for parameter \"{parameter}\" of \"{owner}\": expected {expected}"
  | missingParameter resource kind parameter =>
    s!"missing required parameter \"{parameter}\" for {kind} \"{resource}\""
  | invalidServiceConfig service actual =>
    s!"invalid service config for service \"{service}\": expected a map, got {actual}"
  | invalidBindingParameters module dependency actual =>
    s!"invalid binding parameters for \"{module}#{dependency}#config\": expected a map, got {actual}"
  | invalidTcpRoute module =>
    s!"invalid tcp route for module \"{module}\": \"tcp\" and \"tcps\" cannot both be set"
  | missingContainerImage module =>
    s!"container image for module \"{module}\" is not specified, use the \"container-image\" parameter to do so"
  | invalidSecretData resource actual =>
    s!"invalid secret data for resource \"{resource}\": expected a map, got {actual}"
  | unknownResourceType resource value =>
    s!"unknown resource type \"{value}\" for resource \"{resource}\""
  | unknownModuleType module value => s!"unknown module type \"{value}\" for module \"{module}\""
  | invalidMemory owner value => s!"invalid memory value \"{value}\" for \"{owner}\""
  | unsupportedLifecycle module value =>
    s!"unsupported lifecycle value \"{value}\" for module \"{module}\""
  | buildpacksRequiredForCnb module =>
    s!"buildpacks must be specified for module \"{module}\" when lifecycle is \"cnb\""
  | dockerInfoRequired module =>
    s!"docker info is required for module \"{module}\" when lifecycle is \"docker\""
  | buildpacksNotAllowedWithDocker module =>
    s!"buildpacks are not allowed for module \"{module}\" when lifecycle is \"docker\""
  | dockerInfoNotAllowed module lifecycle =>
    s!"docker info is not allowed for module \"{module}\" with lifecycle \"{lifecycle}\""
  | cannotShortenName name maxLength =>
    s!"cannot shorten name \"{name}\" to {maxLength} characters"
  | unknownDeployedAfter module dependency =>
    s!"module \"{module}\" requires unknown module \"{dependency}\" through \"deployed-after\""
  | deploymentOrderCycle modules =>
    s!"circular \"deployed-after\" dependencies between modules: {Text.quotedList modules}"
  | invalidVersion mta version =>
    s!"invalid version \"{version}\" of multi-target application \"{mta}\""
  | invalidVisibility dependency reason =>
    s!"invalid visibility target for provided dependency \"{dependency}\": {reason}"
  | noOfferingsMatchPlan service candidates plan =>
    s!"cannot create service \"{service}\": no offerings among {Text.quotedList candidates} provide plan \"{plan}\""
  | cannotCreateService service offerings =>
    s!"cannot create service \"{service}\" from offerings {Text.quotedList offerings}"

end ContentError

end MultiTarget
