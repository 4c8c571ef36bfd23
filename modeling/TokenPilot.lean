import TokenPilot.Library.Json
import TokenPilot.Runtime.RouteAgreement
import TokenPilot.Runtime.Access
import TokenPilot.Runtime.Denial
import TokenPilot.Quota.ConsumedBalance
import TokenPilot.Quota.SharedReservation
import TokenPilot.Quota.HardLimit
import TokenPilot.Quota.LedgerReplay
import TokenPilot.Quota.Idempotence
import TokenPilot.Quota.PeriodAgreement
import TokenPilot.Quota.PeriodTiling
import TokenPilot.Quota.ReservationToken
import TokenPilot.Quota.Precedence
import TokenPilot.Pipeline.Replay
import TokenPilot.Pipeline.Completion
import TokenPilot.Pipeline.Resume
import TokenPilot.Runtime.Identity
import TokenPilot.Runtime.PublishedRoutes
import TokenPilot.Runtime.VersionSafety
import TokenPilot.Runtime.Restore
import TokenPilot.Runtime.EditedRoutes
import TokenPilot.Analytics.Acknowledgement
import TokenPilot.Management.UserGroups
import TokenPilot.Runtime.SpoolDelivery
import TokenPilot.Pipeline.PayloadCleanup
import TokenPilot.Pipeline.DeadLetters
import TokenPilot.Runtime.Acceptability
import TokenPilot.Runtime.ReservationAdmission
import TokenPilot.Runtime.ChatAccounting
import TokenPilot.Pipeline.AiuTotals
import TokenPilot.Pipeline.CostTotals
import TokenPilot.Pipeline.Normalization
import TokenPilot.Library.Framing
import TokenPilot.Runtime.ProviderUsage
import TokenPilot.Runtime.ResponseStream
import TokenPilot.Reconciliation.Accepted
import TokenPilot.Runtime.Timestamps
import TokenPilot.Management.Refresher
import TokenPilot.Management.Conditions
import TokenPilot.Management.QuotaSettings
import TokenPilot.Analytics.Migration
import TokenPilot.Reconciliation.Columns
import TokenPilot.Management.BackgroundJobs
import TokenPilot.Reports.Pagination
import TokenPilot.Reports.Privacy
import TokenPilot.Operations.IngestionAnswers
import TokenPilot.Operations.SerialPoller
