import GatewaySync.Cluster.Api
import GatewaySync.Json.MergePatch
import GatewaySync.Konnect.Client
import GatewaySync.Main
import GatewaySync.Proofs.Addresses
import GatewaySync.Proofs.Adoption
import GatewaySync.Proofs.Bindings
import GatewaySync.Proofs.CallDiscipline
import GatewaySync.Proofs.Classification
import GatewaySync.Proofs.Commutation
import GatewaySync.Proofs.Convergence
import GatewaySync.Proofs.Destination
import GatewaySync.Proofs.FailedReads
import GatewaySync.Proofs.Finalizers
import GatewaySync.Proofs.LiveReferences
import GatewaySync.Proofs.MissingPlane
import GatewaySync.Proofs.Namespaces
import GatewaySync.Proofs.OutcomeTable
import GatewaySync.Proofs.Ownership
import GatewaySync.Proofs.Patches
import GatewaySync.Proofs.Programmed
import GatewaySync.Proofs.Quiescence
import GatewaySync.Proofs.Reassignment
import GatewaySync.Proofs.Recognition
import GatewaySync.Proofs.Release
import GatewaySync.Proofs.Retries
import GatewaySync.Proofs.Revisions
import GatewaySync.Proofs.Succession
import GatewaySync.Proofs.Summaries
import GatewaySync.Proofs.TagSets
import GatewaySync.Proofs.Transitions
import GatewaySync.Proofs.Verdicts
import GatewaySync.Proofs.Watches
import GatewaySync.Sync.Pass
import GatewaySync.Sync.Watch
