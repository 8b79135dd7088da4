import MultiTarget.CloudModel
import MultiTarget.Controller
import MultiTarget.Creation
import MultiTarget.Descriptor.Load
import MultiTarget.Descriptor.Write
import MultiTarget.Digest.NameId
import MultiTarget.Http.Client
import MultiTarget.Json.Read
import MultiTarget.Kubernetes.Provision
import MultiTarget.Listing
import MultiTarget.Main
import MultiTarget.Proofs.Defaults
import MultiTarget.Proofs.DeploymentOrder
import MultiTarget.Proofs.Support.Outcome
import MultiTarget.Proofs.Service
import MultiTarget.Proofs.Binding
import MultiTarget.Proofs.Integrity
import MultiTarget.Proofs.HostLabel
import MultiTarget.Proofs.HostLabel.Stability
import MultiTarget.Proofs.Template
import MultiTarget.Proofs.IdleRoutes
import MultiTarget.Proofs.Creation.Record
import MultiTarget.Proofs.Creation.Fallback
import MultiTarget.Proofs.Creation.Batch
import MultiTarget.Proofs.Name
import MultiTarget.Proofs.NameMarker
import MultiTarget.Proofs.NameLength
import MultiTarget.Proofs.Kubernetes.Manifests
import MultiTarget.Proofs.Kubernetes.Selectors
import MultiTarget.Proofs.Kubernetes.References
import MultiTarget.Proofs.Kubernetes.Identities
import MultiTarget.Proofs.DeploymentOrder.Permutation
import MultiTarget.Proofs.Applications
import MultiTarget.Proofs.Instances
import MultiTarget.Proofs.Support.Distinct
import MultiTarget.Proofs.Support.Entries
import MultiTarget.Proofs.Template.Nested
import MultiTarget.Proofs.Template.Segments
import MultiTarget.Proofs.Kubernetes.RoutedHosts
import MultiTarget.Proofs.Agreement
import MultiTarget.Proofs.Environment
import MultiTarget.Proofs.Environment.Precedence
import MultiTarget.Proofs.Kubernetes.Environments
import MultiTarget.Proofs.Agreement.Routing
import MultiTarget.Proofs.Agreement.Application
import MultiTarget.Proofs.Agreement.Kubernetes
import MultiTarget.Proofs.Agreement.Service
import MultiTarget.Proofs.Reproducibility
import MultiTarget.Proofs.KeptRoutes
import MultiTarget.Proofs.Redeployment
import MultiTarget.Proofs.RoundTrip
import MultiTarget.Proofs.Secrets
import MultiTarget.Proofs.Kubernetes.Secrets
import MultiTarget.Proofs.Confidentiality
import MultiTarget.Proofs.Support.Reordered
import MultiTarget.Proofs.DeploymentOrder.Reordering
import MultiTarget.Proofs.DeploymentOrder.LeastOrder
import MultiTarget.Proofs.DeploymentOrder.Counters
import MultiTarget.Proofs.DeploymentOrder.Depth
import MultiTarget.Proofs.DeclarationOrder
import MultiTarget.Proofs.Support.Lawful
import MultiTarget.Proofs.RouteFamilies
import MultiTarget.Proofs.RequiredParameters
import MultiTarget.Proofs.ServiceNames
import MultiTarget.Proofs.Warnings
import MultiTarget.Proofs.DescribedRoutes
import MultiTarget.Proofs.RetainedRoutes
import MultiTarget.Proofs.Address
import MultiTarget.Proofs.RouteSources
import MultiTarget.Proofs.PortNumbers
import MultiTarget.Proofs.Repetitions
import MultiTarget.Proofs.Preparation
import MultiTarget.Proofs.Flattening
import MultiTarget.Proofs.KnownDefaults
import MultiTarget.Proofs.Kubernetes.BoundNames
import MultiTarget.Proofs.ShadowedPairs
import MultiTarget.Proofs.UnsetParameters
import MultiTarget.Proofs.Size
import MultiTarget.Proofs.Version
import MultiTarget.Proofs.Visibility
import MultiTarget.Proofs.PublishedEntries
import MultiTarget.Proofs.Pagination
import MultiTarget.Proofs.Catalog
