import SolarFlowEms.Mqtt.SingleInFlight
import SolarFlowEms.Mqtt.StopNeverWaits
import SolarFlowEms.ChargeOnRecord
import SolarFlowEms.Mqtt.DeliveryAttribution
import SolarFlowEms.Winter.OneStepADay
import SolarFlowEms.Config.CommentRefresh
import SolarFlowEms.Config.UpgradeAuthority
import SolarFlowEms.Admin.IndependentRecords
import SolarFlowEms.Backup.EncryptedBackups
import SolarFlowEms.Appliance.Ends
import SolarFlowEms.Admin.RecoveryGate
import SolarFlowEms.Runtime.ResetKept
import SolarFlowEms.Appliance.SchemaRuns
import SolarFlowEms.Discovery.ObservedRoutes
import SolarFlowEms.Appliance.KnownGoodRuns
import SolarFlowEms.Controller.ChargeShares
import SolarFlowEms.Schedule.RulesReadBack
import SolarFlowEms.Schedule.OverlapFound
import SolarFlowEms.Appliance.DeadlineRuns
import SolarFlowEms.Controller.StabilizedTotal
import SolarFlowEms.Controller.TargetBounds
import SolarFlowEms.Controller.FailedCycles
import SolarFlowEms.Runtime.ReconcileTwice
import SolarFlowEms.Runtime.RuntimeWrites
import SolarFlowEms.Runtime.ValidationTotal
import SolarFlowEms.Config.RenderRoundTrip
import SolarFlowEms.Migration.KeepsWorking
import SolarFlowEms.Config.EditsTakeEffect
import SolarFlowEms.Runtime.SettingsNotHammered
import SolarFlowEms.Admin.WaysBack
import SolarFlowEms.E3dc.SessionRuns
import SolarFlowEms.Config.EditsTypeSafe
import SolarFlowEms.Mqtt.IngestionSafe
import SolarFlowEms.Dashboard.LoginRateLimiter
import SolarFlowEms.Dashboard.Sessions
import SolarFlowEms.Appliance.Version
import SolarFlowEms.Appliance.VersionOrder
