import WebhookPayload.Payload
import WebhookPayload.Schema.Assembly
import WebhookPayload.Proofs.FragmentGraph
import WebhookPayload.Proofs.Reachability
import WebhookPayload.Proofs.Walk
import WebhookPayload.Proofs.Validity
import WebhookPayload.Proofs.Collection
import WebhookPayload.Proofs.Completion
import WebhookPayload.Proofs.Conformance
import WebhookPayload.Proofs.NullPropagation
import WebhookPayload.Proofs.Answerable
import WebhookPayload.Proofs.Progress
import WebhookPayload.Proofs.Noninterference
import WebhookPayload.Proofs.SharedNames
import WebhookPayload.Proofs.Assembly
import WebhookPayload.Proofs.Expansion
import WebhookPayload.Proofs.Growth
import WebhookPayload.Proofs.Ownership
import WebhookPayload.Proofs.SelectedData
import WebhookPayload.Proofs.Containment
import WebhookPayload.Proofs.FragmentStack
import WebhookPayload.Proofs.Calls
import WebhookPayload.Proofs.ResponseOrder
import WebhookPayload.Proofs.Loads
import WebhookPayload.Proofs.StoppingEarly
import WebhookPayload.Proofs.Repetition
import WebhookPayload.Proofs.SelectionOrder
import WebhookPayload.Proofs.ArgumentBinding
import WebhookPayload.Proofs.AssembledSchema
import WebhookPayload.Proofs.Extensions
import WebhookPayload.Proofs.Enumeration
import WebhookPayload.Proofs.Redaction
import WebhookPayload.Proofs.Deferral
import WebhookPayload.Proofs.ErrorPaths
import WebhookPayload.Proofs.ErrorRecords
import WebhookPayload.Proofs.SettingLists
import WebhookPayload.Proofs.Laziness
import WebhookPayload.Proofs.OverlappingLoads
import WebhookPayload.Proofs.Merging
import WebhookPayload.Proofs.DeclaredFields
