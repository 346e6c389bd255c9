import FrankenTerm.Ports.IngestRealign
import FrankenTerm.Ports.TxResume
import FrankenTerm.Ports.TxAtMostOnce
import FrankenTerm.Ports.PlanTxValid
import FrankenTerm.Ports.PolicyDenials
import FrankenTerm.Ports.PolicyTenants
import FrankenTerm.Ports.PolicyTiers
import FrankenTerm.Ports.ApprovalTokens
import FrankenTerm.Ports.KillSwitchState
import FrankenTerm.Ports.CaptureLease
import FrankenTerm.Ports.CommandGate
import FrankenTerm.Ports.PolicyAuditChain
import FrankenTerm.Ports.IngestFence
import FrankenTerm.Ports.ScrollbackIndex
import FrankenTerm.Ports.GuardianIntact
import FrankenTerm.Ports.GuardianFence
import FrankenTerm.Ports.GuardianQueries
import FrankenTerm.Ports.ScrollbackRingFifo
import FrankenTerm.Ports.WireRollback
import FrankenTerm.Ports.NotificationGate
import FrankenTerm.Ports.PaneRoutes
import FrankenTerm.Ports.TxChannel
