import MultiTarget.Json.Entry
import MultiTarget.ScopeChain
import MultiTarget.Text.Cut

/-!
# `MultiTarget.Staging`: how an application becomes a container

An application is staged from sources by buildpacks, classic or cloud
native, or runs a container image. The parameters of a module must not
contradict its lifecycle; `Staging.checkLifecycle` lists what does.

Specification X.6.6. `Staging.ofScopes` is `parse_staging`,
`ContainerImage.ofScopes` is `parse_docker`, and `checkLifecycle` is
`validate_lifecycle`.
-/

set_option autoImplicit false

namespace MultiTarget

/-- The ways an application becomes a container. -/
inductive Lifecycle where
  | buildpack
  | docker
  | cnb
  deriving DecidableEq, Repr

/-- The name of a lifecycle. -/
def Lifecycle.name : Lifecycle → String
  | buildpack => "buildpack"
  | docker => "docker"
  | cnb => "cnb"

/-- A container image that runs in place of sources. -/
structure ContainerImage where
  image : String
  username : Option String
  password : Option String
  deriving DecidableEq, Repr

/-- How an application is staged, started and watched. -/
structure Staging where
  command : Option String
  buildpacks : List String
  stack : Option String
  healthCheckType : Option String
  healthCheckTimeout : Option Int
  healthCheckInvocationTimeout : Option Int
  healthCheckHttpEndpoint : Option String
  sshEnabled : Option Bool
  lifecycle : Option Lifecycle
  docker : Option ContainerImage
  deriving DecidableEq, Repr

/-- The container image of a module. -/
def ContainerImage.ofScopes (chain : ScopeChain) :
    Except ContentError (Option ContainerImage) := do
  match ← chain.map? "docker" with
  | none => return none
  | some entries =>
    -- A map without an image is at fault, while no map at all means no image.
    match ← chain.innerText? "docker" entries "image" with
    | none => throw (chain.invalid "docker" "map with an image")
    | some image =>
      return some {
        image
        username := ← chain.innerText? "docker" entries "username"
        password := ← chain.innerText? "docker" entries "password" }

/-- The lifecycle of a module; its name is written in either case. Any other
name is a fault of its own kind, which shows the text as written. -/
def Lifecycle.ofScopes (chain : ScopeChain) : Except ContentError (Option Lifecycle) := do
  match ← chain.text? "lifecycle" with
  | none => return none
  | some value =>
    match [buildpack, docker, cnb].find? (·.name == Text.lowerAscii value) with
    | some lifecycle => return some lifecycle
    | none => throw (.unsupportedLifecycle chain.owner value)

namespace Staging

/-- The parameters of a module do not contradict its lifecycle: `cnb` needs
buildpacks, `docker` needs an image and no buildpacks, and no other lifecycle
may have an image. Without a lifecycle nothing is checked, and images and
buildpacks may stand side by side. -/
def checkLifecycle (owner : String) (lifecycle : Option Lifecycle) (buildpacks : List String)
    (docker : Option ContainerImage) : Except ContentError Unit :=
  match lifecycle with
  | none => .ok ()
  | some .docker =>
    -- The image is asked for first: a module without it and with buildpacks lacks an image.
    if docker.isNone then .error (.dockerInfoRequired owner)
    else if !buildpacks.isEmpty then .error (.buildpacksNotAllowedWithDocker owner)
    else .ok ()
  | some .cnb =>
    -- Here what is missing is told before what is too much.
    if buildpacks.isEmpty then .error (.buildpacksRequiredForCnb owner)
    else if docker.isSome then .error (.dockerInfoNotAllowed owner Lifecycle.cnb.name)
    else .ok ()
  | some .buildpack =>
    if docker.isSome then .error (.dockerInfoNotAllowed owner Lifecycle.buildpack.name)
    else .ok ()

/-- The buildpacks of a module: those of the plural name, if any scope has it.
The two names are no pair here: a plural name in a more general scope wins over
a single one of the module. -/
def buildpacksOf (chain : ScopeChain) : Except ContentError (List String) :=
  chain.texts (if chain.contains "buildpacks" then "buildpacks" else "buildpack")

/-- The endpoint of the health check, which checks over HTTP have even if none
is given. For other checks a given endpoint is kept all the same. -/
def httpEndpoint (declared healthCheckType : Option String) : Option String :=
  match declared with
  | some endpoint => some endpoint
  | none => if healthCheckType = some "http" then some "/" else none

/-- The staging of a module. What the check of the lifecycle needs is read
first, so a contradiction is reported before a fault in the parameters that
have no part in it. -/
def ofScopes (chain : ScopeChain) : Except ContentError Staging := do
  let buildpacks ← buildpacksOf chain
  let healthCheckType ← chain.text? "health-check-type"
  let endpoint ← chain.text? "health-check-http-endpoint"
  let docker ← ContainerImage.ofScopes chain
  let lifecycle ← Lifecycle.ofScopes chain
  checkLifecycle chain.owner lifecycle buildpacks docker
  return {
    command := ← chain.text? "command"
    buildpacks
    stack := ← chain.text? "stack"
    healthCheckType
    healthCheckTimeout := ← chain.integer? "health-check-timeout"
    healthCheckInvocationTimeout := ← chain.integer? "health-check-invocation-timeout"
    healthCheckHttpEndpoint := httpEndpoint endpoint healthCheckType
    sshEnabled := ← chain.flag? "enable-ssh"
    lifecycle
    docker }

end Staging

/-- A container image as JSON. -/
def ContainerImage.toJson (c : ContainerImage) : Json := .obj <|
  Json.entry "image" (.str c.image) ++
  Json.textEntry "username" c.username ++
  Json.textEntry "password" c.password

/-- Staging as JSON. -/
def Staging.toJson (s : Staging) : Json := .obj <|
  Json.textEntry "command" s.command ++
  Json.listEntry "buildpacks" (s.buildpacks.map .str) ++
  Json.textEntry "stack" s.stack ++
  Json.textEntry "health-check-type" s.healthCheckType ++
  Json.numberEntry "health-check-timeout" s.healthCheckTimeout ++
  Json.numberEntry "health-check-invocation-timeout" s.healthCheckInvocationTimeout ++
  Json.textEntry "health-check-http-endpoint" s.healthCheckHttpEndpoint ++
  Json.optionalEntry "ssh-enabled" (s.sshEnabled.map .bool) ++
  Json.textEntry "lifecycle" (s.lifecycle.map Lifecycle.name) ++
  Json.optionalEntry "docker" (s.docker.map ContainerImage.toJson)

end MultiTarget
