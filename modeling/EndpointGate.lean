import EndpointGate.Main
import EndpointGate.Proofs.TemplateCut
import EndpointGate.Proofs.RowValidation
import EndpointGate.Proofs.Transaction
import EndpointGate.Proofs.BatchAtomicity
import EndpointGate.Proofs.RowOrder
import EndpointGate.Proofs.EndpointLookup
import EndpointGate.Proofs.InvocationPipeline
import EndpointGate.Proofs.StoreInvariant
import EndpointGate.Proofs.ReadFailure
import EndpointGate.Proofs.RegistryHistory
import EndpointGate.Proofs.TableRelations
import EndpointGate.Proofs.EndpointStore
import EndpointGate.Proofs.RegistryEquivalence
import EndpointGate.Proofs.BackupSafety
import EndpointGate.Proofs.RequestAccounts
import EndpointGate.Proofs.UnmatchedRequests
import EndpointGate.Proofs.CredentialRenaming
import EndpointGate.Proofs.SessionHistory
import EndpointGate.Proofs.RequestTasks
import EndpointGate.Proofs.FailureAnswers
import EndpointGate.Proofs.AdminGuard
import EndpointGate.Proofs.RelevantFields
import EndpointGate.Proofs.KeptRegistrations
import EndpointGate.Proofs.SecretHeaders
import EndpointGate.Proofs.ReadBack
import EndpointGate.Proofs.SchemaNames
import EndpointGate.Proofs.ServerBoot
import EndpointGate.Proofs.IntegerBinding
import EndpointGate.Proofs.FieldContainment
import EndpointGate.Proofs.ParameterSlots
import EndpointGate.Proofs.MarkerPlaces
import EndpointGate.Proofs.BackupReplacement
import EndpointGate.Proofs.BodyForms
import EndpointGate.Proofs.RowForms
import EndpointGate.Proofs.ResultColumns
import EndpointGate.Proofs.LogLines
import EndpointGate.Proofs.LifecycleRuns
import EndpointGate.Proofs.BlankRegistrations
import EndpointGate.Proofs.ConfigText
