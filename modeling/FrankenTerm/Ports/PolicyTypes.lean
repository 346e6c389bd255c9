import FrankenTerm.Ports.PolicyNamespace

/-!
# Policy inputs and decisions

The vocabulary of `policy.rs`: which actions are asked for, by whom, on which surface and
against which pane, and what the engine answers.  A decision carries the trail of the rules it
went through and the rule that determined it.

The evidence, the risk score, the rate-limit snapshot and the copy of the input that a decision
context also holds are written for audit records only and are left out, as are the approval
payload, which is attached after the decision, and the fields of a trauma decision that no gate
reads.
-/

namespace FrankenTerm.Ports.PolicyTypes

open PolicyNamespace

/-- `ActionKind`. -/
inductive ActionKind where
  | sendText
  | sendCtrlC
  | sendCtrlD
  | sendCtrlZ
  | sendControl
  | spawn
  | split
  | activate
  | close
  | browserAuth
  | workflowRun
  | reservePane
  | releasePane
  | readOutput
  | searchOutput
  | writeFile
  | deleteFile
  | execCommand
  | connectorNotify
  | connectorTicket
  | connectorTriggerWorkflow
  | connectorAuditLog
  | connectorInvoke
  | connectorCredentialAction
deriving DecidableEq, Repr

namespace ActionKind

/-- The variants, in the order of their declaration. -/
def all : List ActionKind :=
  [.sendText, .sendCtrlC, .sendCtrlD, .sendCtrlZ, .sendControl, .spawn, .split, .activate,
    .close, .browserAuth, .workflowRun, .reservePane, .releasePane, .readOutput, .searchOutput,
    .writeFile, .deleteFile, .execCommand, .connectorNotify, .connectorTicket,
    .connectorTriggerWorkflow, .connectorAuditLog, .connectorInvoke, .connectorCredentialAction]

def isMutating : ActionKind → Bool
  | .sendText | .sendCtrlC | .sendCtrlD | .sendCtrlZ | .sendControl | .spawn | .split | .close =>
    true
  | _ => false

def isDestructive : ActionKind → Bool
  | .close | .deleteFile | .sendCtrlC | .sendCtrlD | .connectorCredentialAction => true
  | _ => false

/-- `ActionKind::is_rate_limited`: everything but `activate` and, on purpose, `searchOutput`. -/
def isRateLimited : ActionKind → Bool
  | .readOutput | .sendText | .sendCtrlC | .sendCtrlD | .sendCtrlZ | .sendControl | .spawn
  | .split | .close | .browserAuth | .workflowRun | .reservePane | .releasePane | .writeFile
  | .deleteFile | .execCommand | .connectorNotify | .connectorTicket | .connectorTriggerWorkflow
  | .connectorAuditLog | .connectorInvoke | .connectorCredentialAction => true
  | _ => false

def isConnectorAction : ActionKind → Bool
  | .connectorNotify | .connectorTicket | .connectorTriggerWorkflow | .connectorAuditLog
  | .connectorInvoke | .connectorCredentialAction => true
  | _ => false

/-- The action class that the `SoftStop` tier of the kill switch pauses. -/
def isWorkflowLaunch : ActionKind → Bool
  | .workflowRun | .connectorTriggerWorkflow => true
  | _ => false

/-- The action class that stays permitted under the `HardStop` tier. -/
def isReadOnly : ActionKind → Bool
  | .readOutput | .searchOutput | .activate => true
  | _ => false

/-- The actions that inject input into a pane: the pattern shared by the alt-screen, gap and
prompt gates. -/
def isSend : ActionKind → Bool
  | .sendText | .sendControl | .sendCtrlC | .sendCtrlD | .sendCtrlZ => true
  | _ => false

def asStr : ActionKind → String
  | .sendText => "send_text"
  | .sendCtrlC => "send_ctrl_c"
  | .sendCtrlD => "send_ctrl_d"
  | .sendCtrlZ => "send_ctrl_z"
  | .sendControl => "send_control"
  | .spawn => "spawn"
  | .split => "split"
  | .activate => "activate"
  | .close => "close"
  | .browserAuth => "browser_auth"
  | .workflowRun => "workflow_run"
  | .reservePane => "reserve_pane"
  | .releasePane => "release_pane"
  | .readOutput => "read_output"
  | .searchOutput => "search_output"
  | .writeFile => "write_file"
  | .deleteFile => "delete_file"
  | .execCommand => "exec_command"
  | .connectorNotify => "connector_notify"
  | .connectorTicket => "connector_ticket"
  | .connectorTriggerWorkflow => "connector_trigger_workflow"
  | .connectorAuditLog => "connector_audit_log"
  | .connectorInvoke => "connector_invoke"
  | .connectorCredentialAction => "connector_credential_action"

end ActionKind

/-- `ActorKind`. -/
inductive ActorKind where
  | human
  | robot
  | mcp
  | workflow
deriving DecidableEq, Repr

namespace ActorKind

def all : List ActorKind := [.human, .robot, .mcp, .workflow]

def isTrusted : ActorKind → Bool
  | .human => true
  | _ => false

def asStr : ActorKind → String
  | .human => "human"
  | .robot => "robot"
  | .mcp => "mcp"
  | .workflow => "workflow"

end ActorKind

/-- `PolicySurface`. -/
inductive PolicySurface where
  | unknown
  | mux
  | swarm
  | robot
  | connector
  | workflow
  | mcp
  | ipc
deriving DecidableEq, Repr

namespace PolicySurface

def all : List PolicySurface :=
  [.unknown, .mux, .swarm, .robot, .connector, .workflow, .mcp, .ipc]

def asStr : PolicySurface → String
  | .unknown => "unknown"
  | .mux => "mux"
  | .swarm => "swarm"
  | .robot => "robot"
  | .connector => "connector"
  | .workflow => "workflow"
  | .mcp => "mcp"
  | .ipc => "ipc"

/-- `PolicySurface::default_for_actor`. -/
def defaultForActor : ActorKind → PolicySurface
  | .human => .unknown
  | .robot => .robot
  | .mcp => .mcp
  | .workflow => .workflow

end PolicySurface

theorem find?_actionKind (kind : ActionKind) :
    ActionKind.all.find? (fun other => other.asStr == kind.asStr) = some kind := by
  cases kind <;> rfl

theorem find?_actorKind (kind : ActorKind) :
    ActorKind.all.find? (fun other => other.asStr == kind.asStr) = some kind := by
  cases kind <;> rfl

theorem find?_policySurface (kind : PolicySurface) :
    PolicySurface.all.find? (fun other => other.asStr == kind.asStr) = some kind := by
  cases kind <;> rfl

/-- `PaneCapabilities`.  An `altScreen` or `isReserved` of `none` means that the state is not
known. -/
structure PaneCapabilities where
  promptActive : Bool := false
  commandRunning : Bool := false
  altScreen : Option Bool := none
  hasRecentGap : Bool := false
  isReserved : Option Bool := none
  reservedBy : Option String := none
deriving DecidableEq, Repr

/-- `TraumaDecision`. -/
structure TraumaDecision where
  shouldIntervene : Bool
  reasonCode : Option String
  repeatCount : Nat
deriving DecidableEq, Repr

/-- `PolicyInput`. -/
structure PolicyInput where
  action : ActionKind
  actor : ActorKind
  surface : PolicySurface
  paneId : Option Nat := none
  domain : Option String := none
  capabilities : PaneCapabilities := {}
  textSummary : Option String := none
  workflowId : Option String := none
  commandText : Option String := none
  traumaDecision : Option TraumaDecision := none
  paneTitle : Option String := none
  paneCwd : Option String := none
  agentType : Option String := none
  actorNamespace : Option TenantNamespace := none
deriving DecidableEq, Repr

/-- `PolicyInput::new`. -/
def PolicyInput.new (action : ActionKind) (actor : ActorKind) : PolicyInput where
  action := action
  actor := actor
  surface := .defaultForActor actor

/-- `RuleEvaluation`: one entry of the trail of a decision. -/
structure RuleEvaluation where
  ruleId : String
  isMatch : Bool
  decision : Option String
  reason : Option String
deriving DecidableEq, Repr

/-- `DecisionContext`. -/
structure DecisionContext where
  rulesEvaluated : List RuleEvaluation := []
  determiningRule : Option String := none
deriving DecidableEq, Repr

/-- `DecisionContext::record_rule`. -/
def DecisionContext.recordRule (context : DecisionContext) (ruleId : String) (isMatch : Bool)
    (decision reason : Option String) : DecisionContext :=
  { context with rulesEvaluated := context.rulesEvaluated ++ [⟨ruleId, isMatch, decision, reason⟩] }

/-- `DecisionContext::set_determining_rule`. -/
def DecisionContext.setDeterminingRule (context : DecisionContext) (ruleId : String) :
    DecisionContext :=
  { context with determiningRule := some ruleId }

/-- `PolicyDecision`. -/
inductive PolicyDecision where
  | allow (ruleId : Option String) (context : DecisionContext)
  | deny (reason : String) (ruleId : Option String) (context : DecisionContext)
  | requireApproval (reason : String) (ruleId : Option String) (context : DecisionContext)
deriving DecidableEq, Repr

namespace PolicyDecision

def isAllowed : PolicyDecision → Bool
  | .allow .. => true
  | _ => false

def isDenied : PolicyDecision → Bool
  | .deny .. => true
  | _ => false

def requiresApproval : PolicyDecision → Bool
  | .requireApproval .. => true
  | _ => false

/-- `PolicyDecision::context`. -/
def context : PolicyDecision → DecisionContext
  | .allow _ context | .deny _ _ context | .requireApproval _ _ context => context

end PolicyDecision

/-- The last lines of a denying gate: record the rule, name it as determining, return. -/
def DecisionContext.denyWith (context : DecisionContext) (ruleId note reason : String) :
    PolicyDecision :=
  .deny reason (some ruleId)
    ((context.recordRule ruleId true (some "deny") (some note)).setDeterminingRule ruleId)

/-- The last lines of a gate that asks for approval. -/
def DecisionContext.approveWith (context : DecisionContext) (ruleId note reason : String) :
    PolicyDecision :=
  .requireApproval reason (some ruleId)
    ((context.recordRule ruleId true (some "require_approval")
      (some note)).setDeterminingRule ruleId)

end FrankenTerm.Ports.PolicyTypes
