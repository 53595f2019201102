import LongHub.ActivationCodes
import LongHub.AgentIsolation
import LongHub.ArtifactRuns
import LongHub.BackupListing
import LongHub.BridgeTransport
import LongHub.CancelledUpdate
import LongHub.CircuitStaysOpen
import LongHub.ClientCancellation
import LongHub.ClientReleaseRuns
import LongHub.ConfirmationAgreement
import LongHub.ConfirmationGuarantees
import LongHub.ContentSkillExport
import LongHub.CredentialRoundTrip
import LongHub.CredentialVault
import LongHub.FeaturePolicyRuns
import LongHub.GatewayStatusReports
import LongHub.KeyScope
import LongHub.LineChannel
import LongHub.LocalProfile
import LongHub.LogRotation
import LongHub.LogSecrets
import LongHub.ManagerGateway
import LongHub.MemberNames
import LongHub.ModelAdmissionGuarantees
import LongHub.NoCodeReopening
import LongHub.OutboxAttempts
import LongHub.PackCapabilities
import LongHub.PairingGuarantees
import LongHub.PairingRecovery
import LongHub.PlanPatches
import LongHub.PluginDowngrade
import LongHub.ReservationQuota
import LongHub.ReservationTwins
import LongHub.ResolutionTightens
import LongHub.SessionRetention
import LongHub.SignedContents
import LongHub.SkillRestarts
import LongHub.StoreDecisions
import LongHub.StreamGuarantees
import LongHub.SupervisorGuarantees
import LongHub.TaskAdmission
import LongHub.TaskCancellation
import LongHub.TaskEventStream
import LongHub.TaskStoreLog
import LongHub.TrashAgreement
import LongHub.UpdateBlocked
import LongHub.VersionComparison
import LongHub.WithdrawnUpdate
import LongHub.WorkerFailures
import LongHub.WorkflowKeys
import LongHub.WorkspaceGrants
