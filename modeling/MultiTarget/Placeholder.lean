import MultiTarget.Json.Entry
import MultiTarget.Source

/-!
# `MultiTarget.Placeholder`: values known only for a concrete target

A descriptor may name values that are known once the target of a
deployment is: its default domain, its controller and others. A
placeholder is written as a token in braces. `Placeholder.Values` holds
what is known of a target; a placeholder without a value stays as it is.

Specification 4.2. `token` has its name, and `Values.get?` is `resolve` of a
placeholder context.
-/

set_option autoImplicit false

namespace MultiTarget

/-- The values that a descriptor can name. -/
inductive Placeholder where
  | defaultDomain
  | defaultIdleDomain
  | protocol
  | authorizationEndpoint
  | deployServiceUrl
  | controllerEndpoint
  | routerPort
  deriving DecidableEq, Repr

namespace Placeholder

/-- The placeholders. -/
def all : List Placeholder := [
  defaultDomain, defaultIdleDomain, protocol, authorizationEndpoint, deployServiceUrl,
  controllerEndpoint, routerPort]

/-- The name of a placeholder in its token. -/
def name : Placeholder → String
  | defaultDomain => "domain-default"
  | defaultIdleDomain => "domain-idle-default"
  | protocol => "protocol"
  | authorizationEndpoint => "endpoint-authorization"
  | deployServiceUrl => "service-url-deploy-service"
  | controllerEndpoint => "endpoint-controller"
  | routerPort => "router-port"

/-- The text that stands for a placeholder, braces included. No token is the
beginning of another one. -/
def token (placeholder : Placeholder) : List Char :=
  '\x7b' :: "xsa-placeholder-".toList ++ placeholder.name.toList ++ ['\x7d']

/-- The placeholder whose token a text starts with. -/
def atStart? (cs : List Char) : Option Placeholder :=
  all.find? fun placeholder => placeholder.token.isPrefixOf cs

/-- What is known of a target. -/
structure Values where
  defaultDomain : Option String
  defaultIdleDomain : Option String
  protocol : Option String
  authorizationEndpoint : Option String
  deployServiceUrl : Option String
  controllerEndpoint : Option String
  routerPort : Option String
  deriving DecidableEq, Repr

namespace Values

/-- The value of a placeholder. Idle routes share the default domain
unless they have one of their own. -/
def get? (values : Values) : Placeholder → Option String
  | .defaultDomain => values.defaultDomain
  | .defaultIdleDomain => values.defaultIdleDomain <|> values.defaultDomain
  | .protocol => values.protocol
  | .authorizationEndpoint => values.authorizationEndpoint
  | .deployServiceUrl => values.deployServiceUrl
  | .controllerEndpoint => values.controllerEndpoint
  | .routerPort => values.routerPort

/-- The fields in order. -/
def fields : List FieldName :=
  Record.plainFields ["default_domain", "default_idle_domain", "protocol",
    "authorization_endpoint", "deploy_service_url", "controller_endpoint", "router_port"]

/-- Read values. Written in order of the fields, none may be left out. -/
def read? {σ : Type} [Source σ] (tree : σ) : Option Values := do
  let r ← Record.readComplete? fields tree
  return {
    defaultDomain := ← r.optional "default_domain" Source.text?
    defaultIdleDomain := ← r.optional "default_idle_domain" Source.text?
    protocol := ← r.optional "protocol" Source.text?
    authorizationEndpoint := ← r.optional "authorization_endpoint" Source.text?
    deployServiceUrl := ← r.optional "deploy_service_url" Source.text?
    controllerEndpoint := ← r.optional "controller_endpoint" Source.text?
    routerPort := ← r.optional "router_port" Source.text? }

/-- Values as JSON. -/
def toJson (values : Values) : Json := .obj <|
  Json.entry "default_domain" (.ofString? values.defaultDomain) ++
  Json.entry "default_idle_domain" (.ofString? values.defaultIdleDomain) ++
  Json.entry "protocol" (.ofString? values.protocol) ++
  Json.entry "authorization_endpoint" (.ofString? values.authorizationEndpoint) ++
  Json.entry "deploy_service_url" (.ofString? values.deployServiceUrl) ++
  Json.entry "controller_endpoint" (.ofString? values.controllerEndpoint) ++
  Json.entry "router_port" (.ofString? values.routerPort)

end Values

end Placeholder

end MultiTarget
