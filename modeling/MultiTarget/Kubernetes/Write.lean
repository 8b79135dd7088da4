import MultiTarget.Json.Entry
import MultiTarget.Kubernetes.Manifest

/-!
# `MultiTarget.Kubernetes.Write`: manifests as JSON

An object is written with the version of its interface and the policies
that hold for all objects of its kind; a manifest also with its kind.

Specification X.6.15 fixes the policies that are the same for all objects of
a kind.
-/

set_option autoImplicit false

namespace MultiTarget.Kubernetes

/-- A map of texts. -/
def textMap (m : OrderedMap String) : Json := .ofMap (m.map .str)

/-- A map of texts that is left out if empty. -/
def textMapEntry (name : String) (m : OrderedMap String) : List (String × Json) :=
  Json.mapEntry name (m.map .str)

/-- A reference to an object by its name. -/
def reference (name : String) : Json := .obj (Json.entry "name" (.str name))

/-- Metadata; empty parts are left out. -/
def Metadata.toJson (m : Metadata) : Json := .obj <|
  Json.textEntry "name" (if m.name.isEmpty then none else some m.name) ++
  textMapEntry "labels" m.labels ++
  textMapEntry "annotations" m.annotations

/-- The version of an interface and the metadata of an object. -/
def objectHead (version : String) (metadata : Metadata) : List (String × Json) :=
  Json.entry "apiVersion" (.str version) ++ Json.entry "metadata" metadata.toJson

/-- The fields of a configuration. -/
def ConfigMap.fields (c : ConfigMap) : List (String × Json) :=
  objectHead "v1" c.metadata ++
  Json.entry "data" (textMap c.data)

/-- The name of a type of secret. -/
def SecretType.name : SecretType → String
  | opaqueData => "Opaque"
  | dockerConfig => "kubernetes.io/dockerconfigjson"

/-- The fields of a secret. -/
def Secret.fields (s : Secret) : List (String × Json) :=
  objectHead "v1" s.metadata ++
  Json.entry "type" (.str s.type.name) ++
  Json.entry "data" (textMap s.data)

/-- The name of a policy. -/
def RestartPolicy.name : RestartPolicy → String
  | always => "Always"
  | never => "Never"

/-- The ports of a container. -/
def containerPorts (port : Option Nat) : List Json :=
  port.toList.map fun (n : Nat) => .obj <|
    Json.entry "containerPort" (.int n) ++
    Json.entry "protocol" (.str "TCP")

/-- The container of a template. -/
def PodTemplate.container (t : PodTemplate) : Json := .obj <|
  Json.entry "name" (.str t.containerName) ++
  Json.entry "image" (.str t.image) ++
  Json.listEntry "ports" (containerPorts t.containerPort) ++
  Json.entry "terminationMessagePath" (.str "/dev/termination-log") ++
  Json.entry "terminationMessagePolicy" (.str "File") ++
  Json.entry "imagePullPolicy" (.str "Always") ++
  Json.entry "envFrom" (.arr [.obj (Json.entry "configMapRef" (reference t.configMapName))])

/-- A template of pods. -/
def PodTemplate.toJson (t : PodTemplate) : Json := .obj <|
  Json.entry "metadata" t.metadata.toJson ++
  Json.entry "spec" (.obj (
    Json.entry "containers" (.arr [t.container]) ++
    Json.entry "restartPolicy" (.str t.restartPolicy.name) ++
    Json.entry "dnsPolicy" (.str "ClusterFirst") ++
    Json.entry "terminationGracePeriodSeconds" (.int 30) ++
    Json.entry "schedulerName" (.str "default-scheduler") ++
    Json.listEntry "imagePullSecrets" (t.pullSecrets.map reference)))

/-- How pods are replaced: one more than wanted, one less at the least. -/
def rollingUpdate : Json := .obj <|
  Json.entry "type" (.str "RollingUpdate") ++
  Json.entry "rollingUpdate" (.obj (
    Json.entry "maxSurge" (.int 1) ++
    Json.entry "maxUnavailable" (.int 1)))

/-- The fields of a deployment. -/
def Deployment.fields (d : Deployment) : List (String × Json) :=
  objectHead "apps/v1" d.metadata ++
  Json.entry "spec" (.obj (
    Json.entry "replicas" (.int d.replicas) ++
    Json.entry "selector" (.obj (Json.entry "matchLabels" (textMap d.matchLabels))) ++
    Json.entry "strategy" rollingUpdate ++
    Json.entry "revisionHistoryLimit" (.int 10) ++
    Json.entry "progressDeadlineSeconds" (.int 600) ++
    Json.entry "template" d.template.toJson))

/-- The fields of a job. -/
def Job.fields (j : Job) : List (String × Json) :=
  objectHead "batch/v1" j.metadata ++
  Json.entry "spec" (.obj (
    Json.entry "backoffLimit" (.int j.retries) ++
    Json.entry "template" j.template.toJson))

/-- The fields of a service. -/
def NetworkService.fields (s : NetworkService) : List (String × Json) :=
  objectHead "v1" s.metadata ++
  Json.entry "spec" (.obj (
    Json.entry "type" (.str "ClusterIP") ++
    Json.entry "selector" (textMap s.selector) ++
    Json.entry "ports" (.arr [.obj (
      Json.entry "port" (.int s.port) ++
      Json.entry "targetPort" (.int s.targetPort) ++
      Json.entry "protocol" (.str "TCP"))])))

/-- The service that a rule leads to. -/
def IngressRule.backend (r : IngressRule) : Json :=
  .obj <| Json.entry "service" <| .obj <|
    Json.entry "name" (.str r.serviceName) ++
    Json.entry "port" (.obj (Json.entry "number" (.int r.servicePort)))

/-- A rule, which holds for all paths of its host. -/
def IngressRule.toJson (r : IngressRule) : Json := .obj <|
  Json.entry "host" (.str r.host) ++
  Json.entry "http" (.obj (Json.entry "paths" (.arr [.obj (
    Json.entry "path" (.str "/") ++
    Json.entry "pathType" (.str "Prefix") ++
    Json.entry "backend" r.backend)])))

/-- The fields of an ingress. -/
def Ingress.fields (i : Ingress) : List (String × Json) :=
  objectHead "networking.k8s.io/v1" i.metadata ++
  Json.entry "spec" (.obj (Json.entry "rules" (.arr (i.rules.map IngressRule.toJson))))

/-- The version of the interface of the service catalog. -/
def catalogVersion : String := "servicecatalog.k8s.io/v1beta1"

/-- The fields of a service of the catalog. -/
def ServiceInstance.fields (s : ServiceInstance) : List (String × Json) :=
  objectHead catalogVersion s.metadata ++
  Json.entry "spec" (.obj (
    Json.entry "clusterServiceClassExternalName" (.str s.className) ++
    Json.entry "clusterServicePlanExternalName" (.str s.planName) ++
    Json.mapEntry "parameters" s.parameters))

/-- The fields of a binding. -/
def ServiceBinding.fields (b : ServiceBinding) : List (String × Json) :=
  objectHead catalogVersion b.metadata ++
  Json.entry "spec" (.obj (
    Json.entry "instanceRef" (reference b.instanceName) ++
    Json.entry "secretName" (.str b.secretName)))

namespace Manifest

/-- The fields of an object. -/
def fields : Manifest → List (String × Json)
  | configMap object => object.fields
  | deployment object => object.fields
  | job object => object.fields
  | service object => object.fields
  | ingress object => object.fields
  | secret object => object.fields
  | serviceInstance object => object.fields
  | serviceBinding object => object.fields

/-- A manifest as JSON, its kind first. -/
def toJson (manifest : Manifest) : Json :=
  .obj (Json.entry "kind" (.str manifest.kind) ++ manifest.fields)

end Manifest

end MultiTarget.Kubernetes
