import MultiTarget.Json

/-!
# `MultiTarget.Kubernetes.Manifest`: objects of a cluster

The objects that modules and resources become: of each, what depends on
the descriptor. What is the same for all, such as versions of interfaces
and policies, is added where manifests are written.

Specification 4.10 and X.6.15.
-/

set_option autoImplicit false

namespace MultiTarget.Kubernetes

/-- Labels and other maps of texts. -/
abbrev Labels := OrderedMap String

/-- What is said of an object besides its content. -/
structure Metadata where
  /-- The name; an object inside another one has an empty name. -/
  name : String
  labels : Labels
  annotations : OrderedMap String
  deriving DecidableEq, Repr

/-- Metadata without annotations. -/
def Metadata.plain (name : String) (labels : Labels) : Metadata := ⟨name, labels, ∅⟩

/-- Configuration of a module. -/
structure ConfigMap where
  metadata : Metadata
  data : OrderedMap String
  deriving DecidableEq, Repr

/-- The types of secrets. -/
inductive SecretType where
  | opaqueData
  | dockerConfig
  deriving DecidableEq, Repr

/-- Secret data. -/
structure Secret where
  metadata : Metadata
  type : SecretType
  /-- The values in base 64. -/
  data : OrderedMap String
  deriving DecidableEq, Repr

/-- When containers of a pod are started again. -/
inductive RestartPolicy where
  | always
  | never
  deriving DecidableEq, Repr

/-- A template of pods with one container, whose environment is a
configuration. -/
structure PodTemplate where
  metadata : Metadata
  containerName : String
  image : String
  containerPort : Option Nat
  /-- The name of the configuration. -/
  configMapName : String
  restartPolicy : RestartPolicy
  /-- The names of the secrets for pulling images. -/
  pullSecrets : List String
  deriving DecidableEq, Repr

/-- A workload that keeps running. -/
structure Deployment where
  metadata : Metadata
  replicas : Nat
  /-- The labels by which it finds its pods. -/
  matchLabels : Labels
  template : PodTemplate
  deriving DecidableEq, Repr

/-- A workload that runs once. -/
structure Job where
  metadata : Metadata
  /-- How often it is run again after a failure. -/
  retries : Nat
  template : PodTemplate
  deriving DecidableEq, Repr

/-- An address for the pods of a deployment. -/
structure NetworkService where
  metadata : Metadata
  /-- The labels by which it finds its pods. -/
  selector : Labels
  port : Nat
  /-- The port of the containers. -/
  targetPort : Nat
  deriving DecidableEq, Repr

/-- A host that leads to a service. -/
structure IngressRule where
  host : String
  serviceName : String
  servicePort : Nat
  deriving DecidableEq, Repr

/-- The hosts that lead into the cluster. -/
structure Ingress where
  metadata : Metadata
  rules : List IngressRule
  deriving DecidableEq, Repr

/-- A service of the service catalog. -/
structure ServiceInstance where
  metadata : Metadata
  className : String
  planName : String
  parameters : Parameters
  deriving DecidableEq, Repr

/-- The credentials of a service of the service catalog. -/
structure ServiceBinding where
  metadata : Metadata
  instanceName : String
  /-- The secret that takes the credentials. -/
  secretName : String
  deriving DecidableEq, Repr

/-- An object of a cluster. -/
inductive Manifest where
  | configMap (object : ConfigMap)
  | deployment (object : Deployment)
  | job (object : Job)
  | service (object : NetworkService)
  | ingress (object : Ingress)
  | secret (object : Secret)
  | serviceInstance (object : ServiceInstance)
  | serviceBinding (object : ServiceBinding)
  deriving DecidableEq, Repr

namespace Manifest

/-- The kind of an object. -/
def kind : Manifest → String
  | configMap _ => "ConfigMap"
  | deployment _ => "Deployment"
  | job _ => "Job"
  | service _ => "Service"
  | ingress _ => "Ingress"
  | secret _ => "Secret"
  | serviceInstance _ => "ServiceInstance"
  | serviceBinding _ => "ServiceBinding"

/-- The metadata of an object. -/
def metadata : Manifest → Metadata
  | configMap object => object.metadata
  | deployment object => object.metadata
  | job object => object.metadata
  | service object => object.metadata
  | ingress object => object.metadata
  | secret object => object.metadata
  | serviceInstance object => object.metadata
  | serviceBinding object => object.metadata

/-- The name of an object. -/
def name (manifest : Manifest) : String := manifest.metadata.name

end Manifest

end MultiTarget.Kubernetes
