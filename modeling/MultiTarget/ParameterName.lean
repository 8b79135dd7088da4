/-!
# `MultiTarget.ParameterName`: the parameters that are understood

A parameter in none of the lists that apply to its owner is unsupported:
it is tolerated, with a warning.

Specification 4.1 and X.6.9 subtract these names before they report what is
left.
-/

set_option autoImplicit false

namespace MultiTarget.ParameterName

/-- What a module passes on to whoever runs its application. -/
def attributes : List String := [
  "execute-app", "success-marker", "failure-marker", "stop-app", "check-deploy-id",
  "register-service-url", "service-name", "service-url", "create-service-broker",
  "service-broker-name", "service-broker-user", "service-broker-password", "service-broker-url",
  "service-broker-space-scoped", "dependency-type", "no-start", "upload-timeout"]

/-- What describes the application of a module. -/
def application : List String := [
  "app-name", "default-app-name", "host", "hosts", "domain", "domains", "port", "ports",
  "default-host", "default-port", "default-domain", "idle-host", "idle-hosts", "idle-domain",
  "idle-domains", "idle-port", "idle-ports", "default-idle-host", "default-idle-port",
  "default-idle-domain", "route", "routes", "idle-route", "idle-routes", "route-path",
  "no-route", "no-hostname", "tcp", "tcps", "default-uri", "default-idle-uri", "command",
  "buildpack", "buildpacks", "stack", "health-check-type", "health-check-timeout",
  "health-check-invocation-timeout", "health-check-http-endpoint", "enable-ssh", "lifecycle",
  "docker", "disk-quota", "memory", "instances", "default-instances", "tasks",
  "restart-on-env-change", "keep-existing-routes", "deployed-after", "type", "container-image",
  "retries"]

/-- What describes the service of a resource. -/
def service : List String := [
  "type", "service-name", "default-service-name", "service", "service-plan",
  "service-alternatives", "service-provider", "service-version", "service-broker", "config",
  "service-tags", "service-keys", "service-key-name", "syslog-drain-url",
  "skip-service-updates", "ignore-update-errors", "optional", "registry", "username",
  "password", "data", "service-class"]

/-- What stands in the scope of the descriptor and is seen by every
owner. -/
def shared : List String := [
  "org", "space", "user", "default-domain", "default-idle-domain", "controller-url",
  "authorization-url", "deploy-url", "protocol", "timestamp", "enable-parallel-deployments",
  "keep-existing-routes", "namespace"]

end MultiTarget.ParameterName
