/-!
# `MultiTarget.RouteFamily`: parameters of live and of idle routes

An application that is not yet live has routes of its own, until the
swap of a blue-green deployment. Either family of routes is read from
its own parameters.

Specification 4.4 (the independent defaults of idle routes).
`RouteFamily.parameters` is `names` of a set of route parameters.
-/

set_option autoImplicit false

namespace MultiTarget

/-- The two families of routes. -/
inductive RouteFamily where
  | live
  | idle
  deriving DecidableEq, Repr

/-- The names of the parameters of a family of routes. -/
structure RouteParameters where
  host : String
  hosts : String
  domain : String
  domains : String
  port : String
  ports : String
  route : String
  routes : String
  defaultHost : String
  defaultDomain : String
  defaultPort : String
  deriving DecidableEq, Repr

/-- The parameters of a family. -/
def RouteFamily.parameters : RouteFamily → RouteParameters
  | live => {
      host := "host", hosts := "hosts", domain := "domain", domains := "domains"
      port := "port", ports := "ports", route := "route", routes := "routes"
      defaultHost := "default-host", defaultDomain := "default-domain"
      defaultPort := "default-port" }
  | idle => {
      host := "idle-host", hosts := "idle-hosts", domain := "idle-domain"
      domains := "idle-domains", port := "idle-port", ports := "idle-ports"
      route := "idle-route", routes := "idle-routes"
      defaultHost := "default-idle-host", defaultDomain := "default-idle-domain"
      defaultPort := "default-idle-port" }

end MultiTarget
