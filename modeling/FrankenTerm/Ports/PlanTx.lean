import FrankenTerm.Verified.Check
import FrankenTerm.Verified.Serde

/-!
# Mission transaction contracts

Model of the transaction contract of `plan.rs`: its states and outcomes, the plan with its
compensations, the receipts that every phase appends as JSON values, and `validate`, which
every loader and every phase runs first.

A contract carries more than its validation reads: who requested it, the summaries, the
actions of steps and compensations, the preconditions.  Those fields are left out here.

`debug` is the quoting of a string by `{:?}`, which the error texts use.

## Main definitions

* `TxReceipt` — a receipt as `serde` reads it from a JSON value.
* `validatePersistedTxReceipts` — the loop over the persisted receipts.
* `MissionTxContract.validate` — all checks, in the order of the source.
-/

namespace FrankenTerm.Ports.PlanTx

open Verified.Serde Verified.Check

/-! ## States and outcomes -/

/-- Transaction state within a mission lifecycle. -/
inductive MissionTxState where
  | draft
  | planned
  | prepared
  | committing
  | committed
  | failed
  | compensating
  | compensated
  | rolledBack
  deriving DecidableEq, Repr

/-- Outcome of the overall mission transaction. -/
inductive TxOutcome where
  | pending
  | committed
  | failed
  | compensated
  deriving DecidableEq, Repr

namespace TxOutcome

/-- The outcome as `{:?}` prints it. -/
def debug : TxOutcome → String
  | pending => "Pending"
  | committed => "Committed"
  | failed => "Failed"
  | compensated => "Compensated"

end TxOutcome

namespace MissionTxState

def all : List MissionTxState :=
  [draft, planned, prepared, committing, committed, failed, compensating, compensated, rolledBack]

/-- The text of `Display`, which is also the serialised tag. -/
def display : MissionTxState → String
  | draft => "draft"
  | planned => "planned"
  | prepared => "prepared"
  | committing => "committing"
  | committed => "committed"
  | failed => "failed"
  | compensating => "compensating"
  | compensated => "compensated"
  | rolledBack => "rolled_back"

/-- The overall outcome that goes with a state. -/
def expectedOutcome : MissionTxState → TxOutcome
  | committed => .committed
  | failed => .failed
  | compensated | rolledBack => .compensated
  | draft | planned | prepared | committing | compensating => .pending

instance : Codec MissionTxState where
  serialize state := .str state.display
  deserialize := tagged all display

theorem roundTrips (state : MissionTxState) : RoundTrips state := by
  cases state <;> rfl

end MissionTxState

/-- Kill switch severity for mission execution. -/
inductive MissionKillSwitchLevel where
  | off
  | safeMode
  | hardStop
  deriving DecidableEq, Repr

/-- Outcome of the transaction commit phase. -/
inductive TxCommitOutcome where
  | fullyCommitted
  | partialFailure
  | immediateFailure
  | killSwitchBlocked
  | pauseSuspended
  deriving DecidableEq, Repr

/-- Target tx state after this commit outcome. -/
def TxCommitOutcome.targetTxState : TxCommitOutcome → MissionTxState
  | fullyCommitted => .committed
  | partialFailure | immediateFailure | killSwitchBlocked => .failed
  | pauseSuspended => .committing

/-- Outcome of a single commit step. -/
inductive TxCommitStepOutcome where
  | committed (reasonCode : String)
  | failed (reasonCode : String)
  | skipped (reasonCode : String)
  deriving DecidableEq, Repr

/-- Whether this step was committed successfully. -/
def TxCommitStepOutcome.isCommitted : TxCommitStepOutcome → Bool
  | committed _ => true
  | _ => false

/-- Outcome of the compensation phase. -/
inductive TxCompensationOutcome where
  | fullyRolledBack
  | compensationFailed
  | nothingToCompensate
  deriving DecidableEq, Repr

/-- Target tx state after compensation. -/
def TxCompensationOutcome.targetTxState : TxCompensationOutcome → MissionTxState
  | fullyRolledBack => .rolledBack
  | nothingToCompensate => .compensated
  | compensationFailed => .failed

/-! ## Identifiers -/

/-- Unicode `White_Space`, as `char::is_whitespace` tests it. -/
def isWhitespace (c : Char) : Bool :=
  let n := c.toNat
  (0x09 ≤ n && n ≤ 0x0d) || n == 0x20 || n == 0x85 || n == 0xa0 || n == 0x1680 ||
    (0x2000 ≤ n && n ≤ 0x200a) || n == 0x2028 || n == 0x2029 || n == 0x202f || n == 0x205f ||
    n == 0x3000

/-- Unicode category `Cc`, as `char::is_control` tests it. -/
def isControl (c : Char) : Bool :=
  c.toNat ≤ 0x1f || (0x7f ≤ c.toNat && c.toNat ≤ 0x9f)

/-- Why a string is no transaction identifier. -/
def txIdentifierReason (value : String) : Option String :=
  let chars := value.toList
  if chars = [] then some "identifier cannot be empty"
  else if chars.any isWhitespace then some "identifier cannot contain whitespace"
  else if chars.any isControl then some "identifier cannot contain control characters"
  else if chars.head? = some '~' ∨ '/' ∈ chars ∨ '\\' ∈ chars then
    some "identifier must not be path-like"
  else if value = "." ∨ value = ".." ∨
      (chars.splitOn ':').any fun part => part = ['.'] ∨ part = ['.', '.'] then
    some "identifier cannot contain traversal components"
  else none

def validateTxIdentifier (debug : String → String) (label value : String) :
    Except String Unit :=
  match txIdentifierReason value with
  | some reason => .error s!"Transaction {label} {debug value} is invalid: {reason}"
  | none => .ok ()

/-! ## Plans -/

abbrev TxId := String

abbrev TxStepId := String

abbrev TxPlanId := String

/-- Intent describing a mission transaction. -/
structure TxIntent where
  txId : TxId
  correlationId : String

/-- A single step in a transaction plan. -/
structure TxStep where
  stepId : TxStepId
  ordinal : Nat

/-- Compensation action for a step. -/
structure TxCompensation where
  forStepId : TxStepId

/-- Complete transaction plan. -/
structure TxPlan where
  planId : TxPlanId
  txId : TxId
  steps : List TxStep
  compensations : List TxCompensation

def TxPlan.stepIds (plan : TxPlan) : List TxStepId := plan.steps.map (·.stepId)

def TxPlan.compensationStepIds (plan : TxPlan) : List TxStepId :=
  plan.compensations.map (·.forStepId)

/-! ## Token budgets -/

/-- Token budget attached to a mission transaction. -/
structure MissionTokenBudget where
  maxTokens : UInt64
  maxNoProgressTokens : UInt64

namespace MissionTokenBudget

def validate (budget : MissionTokenBudget) : Except String Unit := do
  refuseIf (budget.maxTokens = 0) "Mission token budget max_tokens must be > 0"
  refuseIf (budget.maxNoProgressTokens = 0)
    "Mission token budget max_no_progress_tokens must be > 0"
  refuseIf (budget.maxTokens < budget.maxNoProgressTokens)
    s!"Mission token budget no-progress limit {budget.maxNoProgressTokens} exceeds total budget {budget.maxTokens}"

def ofJson (j : Json) : Except String MissionTokenBudget := do
  let maxTokens ← field "max_tokens" j
  let maxNoProgressTokens ← field "max_no_progress_tokens" j
  return { maxTokens, maxNoProgressTokens }

end MissionTokenBudget

/-- Accumulated economic circuit-breaker state for a mission transaction. -/
structure MissionEconomicState where
  totalTokens : UInt64 := 0
  noProgressTokens : UInt64 := 0
  progressMarkers : UInt64 := 0
  hardStopTripped : Bool := false
  lastReasonCode : Option String := none
  lastObservedAtMs : Option Int64 := none

def MissionEconomicState.ofJson (j : Json) : Except String MissionEconomicState := do
  let totalTokens ← field "total_tokens" j
  let noProgressTokens ← field "no_progress_tokens" j
  let progressMarkers ← field "progress_markers" j
  let hardStopTripped ← field "hard_stop_tripped" j
  let lastReasonCode ← optField "last_reason_code" j
  let lastObservedAtMs ← optField "last_observed_at_ms" j
  return { totalTokens, noProgressTokens, progressMarkers, hardStopTripped, lastReasonCode,
           lastObservedAtMs }

def missionTokenBudgetAttachmentKind : String := "mission_token_budget"

/-- Typed token-budget attachment carried among the receipts of a contract. -/
structure MissionTokenBudgetAttachment where
  kind : String
  tokenBudget : MissionTokenBudget
  economicState : MissionEconomicState

namespace MissionTokenBudgetAttachment

/-- A missing `kind` and a missing `economic_state` have defaults. -/
def ofJson (j : Json) : Except String MissionTokenBudgetAttachment := do
  let kind ← match j.get? "kind" with
    | some v => deserialize v
    | none => .ok missionTokenBudgetAttachmentKind
  let tokenBudget ← match j.get? "token_budget" with
    | some v => MissionTokenBudget.ofJson v
    | none => .error "missing field token_budget"
  let economicState ← match j.get? "economic_state" with
    | some v => MissionEconomicState.ofJson v
    | none => .ok {}
  return { kind, tokenBudget, economicState }

def validate (debug : String → String) (attachment : MissionTokenBudgetAttachment) :
    Except String Unit := do
  refuseIf (attachment.kind ≠ missionTokenBudgetAttachmentKind)
    s!"Mission token budget attachment kind {debug attachment.kind} is invalid"
  attachment.tokenBudget.validate

end MissionTokenBudgetAttachment

/-! ## Receipts -/

/-- A receipt recording a state transition in the contract lifecycle. -/
structure TxReceipt where
  seq : UInt64
  phase : String
  txId : String
  planId : String
  state : MissionTxState
  stepId : Option String
  outcome : String
  emittedAtMs : Int64
  reasonCode : String
  errorCode : Option String
  decisionPath : String
  deriving DecidableEq

/-- The derived reader. -/
def TxReceipt.ofJson (j : Json) : Except String TxReceipt := do
  let seq ← field "seq" j
  let phase ← field "phase" j
  let txId ← field "tx_id" j
  let planId ← field "plan_id" j
  let state ← field "state" j
  let stepId ← optField "step_id" j
  let outcome ← field "outcome" j
  let emittedAtMs ← field "emitted_at_ms" j
  let reasonCode ← field "reason_code" j
  let errorCode ← optField "error_code" j
  let decisionPath ← field "decision_path" j
  return { seq, phase, txId, planId, state, stepId, outcome, emittedAtMs, reasonCode,
           errorCode, decisionPath }

def looksLikePersistedTxReceipt (value : Json) : Bool :=
  (value.get? "phase").isSome ||
    ((value.get? "seq").isSome && (value.get? "tx_id").isSome && (value.get? "plan_id").isSome)

/-- Full mission transaction contract. -/
structure MissionTxContract where
  txVersion : Nat
  intent : TxIntent
  plan : TxPlan
  lifecycleState : MissionTxState
  outcome : TxOutcome
  receipts : List Json

/-- State of the loop over the persisted receipts. -/
structure ReceiptScan where
  validated : List (Nat × TxReceipt) := []
  previousSeq : UInt64 := 0
  latestSuccessfulCommitReceipts : List (String × TxReceipt) := []
  stepsWithCompensationAttempts : List String := []

/-- The checks on a receipt of phase `commit`. -/
def checkCommitReceipt (plan : TxPlan) (scan : ReceiptScan) (receipt : TxReceipt) :
    Except String ReceiptScan := do
  refuseIf (receipt.state ≠ .committing)
    s!"commit receipt for seq {receipt.seq} has incoherent tx state {receipt.state.display}"
  let stepId ← okOr receipt.stepId "commit receipt missing step_id"
  refuseIf (stepId ∉ plan.stepIds) s!"commit receipt references unknown step {stepId}"
  refuseIf (receipt.outcome ∉ ["committed", "failed", "skipped"])
    s!"unknown commit receipt outcome '{receipt.outcome}' for step {stepId}"
  refuseIf (receipt.outcome = "committed" ∧ stepId ∈ scan.stepsWithCompensationAttempts)
    s!"committed receipt for step {stepId} follows a compensation attempt; a new effect generation is required before recommit"
  if receipt.outcome = "committed" then
    return { scan with
      latestSuccessfulCommitReceipts :=
        (stepId, receipt) :: scan.latestSuccessfulCommitReceipts }
  else
    return scan

/-- The checks on a receipt of phase `compensate`. -/
def checkCompensateReceipt (plan : TxPlan) (scan : ReceiptScan) (receipt : TxReceipt) :
    Except String ReceiptScan := do
  refuseIf (receipt.state ≠ .compensating)
    s!"compensation receipt for seq {receipt.seq} has incoherent tx state {receipt.state.display}"
  let stepId ← okOr receipt.stepId "compensation receipt missing step_id"
  refuseIf (stepId ∉ plan.stepIds) s!"compensation receipt references unknown step {stepId}"
  refuseIf (stepId ∉ plan.compensationStepIds)
    s!"compensation receipt references step {stepId} without a declared compensation action"
  refuseIf (receipt.outcome ∉ ["compensated", "failed", "skipped"])
    s!"unknown compensation receipt outcome '{receipt.outcome}' for step {stepId}"
  let commitReceipt ← okOr (scan.latestSuccessfulCommitReceipts.lookup stepId)
    s!"compensation receipt for step {stepId} has no preceding committed receipt"
  refuseIf (receipt.seq ≤ commitReceipt.seq)
    s!"compensation receipt for step {stepId} does not follow its committed receipt"
  return { scan with
    stepsWithCompensationAttempts := stepId :: scan.stepsWithCompensationAttempts }

/-- The checks on a receipt of phase `lifecycle`. -/
def checkLifecycleReceipt (scan : ReceiptScan) (receipt : TxReceipt) :
    Except String ReceiptScan := do
  refuseIf (receipt.stepId ≠ none ∨ receipt.outcome ≠ "state_checkpoint")
    s!"lifecycle receipt for seq {receipt.seq} must have no step_id and outcome state_checkpoint"
  return scan

/-- The checks that depend on the phase of the receipt. -/
def checkReceiptPhase (plan : TxPlan) (scan : ReceiptScan) (receipt : TxReceipt)
    (persistedIndex : Nat) : Except String ReceiptScan :=
  if receipt.phase = "commit" then checkCommitReceipt plan scan receipt
  else if receipt.phase = "compensate" then checkCompensateReceipt plan scan receipt
  else if receipt.phase = "lifecycle" then checkLifecycleReceipt scan receipt
  else .error
    s!"unknown transaction receipt phase '{receipt.phase}' at persisted index {persistedIndex}"

/-- All checks on one parsed receipt. -/
def checkReceipt (txId : TxId) (plan : TxPlan) (scan : ReceiptScan) (receipt : TxReceipt)
    (persistedIndex : Nat) : Except String ReceiptScan := do
  refuseIf (receipt.emittedAtMs < 0)
    s!"transaction receipt seq {receipt.seq} has negative emitted_at_ms {receipt.emittedAtMs}"
  let phase := if receipt.phase = "compensate" then "compensation" else receipt.phase
  refuseIf (receipt.txId ≠ txId ∨ receipt.planId ≠ plan.planId)
    s!"{phase} receipt does not belong to tx {txId} / plan {plan.planId}"
  let checked ← checkReceiptPhase plan scan receipt persistedIndex
  let previousSeq := checked.previousSeq
  refuseIf (receipt.seq ≤ previousSeq)
    s!"transaction receipt seq {receipt.seq} at persisted index {persistedIndex} is not strictly greater than previous seq {previousSeq}"
  return { checked with
    previousSeq := receipt.seq
    validated := checked.validated ++ [(persistedIndex, receipt)] }

/-- One turn of the loop: values that are no receipts are passed over. -/
def scanReceipt (txId : TxId) (plan : TxPlan) (scan : ReceiptScan) (item : Json × Nat) :
    Except String ReceiptScan :=
  if looksLikePersistedTxReceipt item.1 then
    match TxReceipt.ofJson item.1 with
    | .error err =>
      .error s!"invalid transaction receipt at persisted index {item.2}: {err}"
    | .ok receipt => checkReceipt txId plan scan receipt item.2
  else .ok scan

/-! ## Validation -/

/-- State of the loop over the plan's steps. -/
structure StepScan where
  stepIds : List TxStepId := []
  ordinals : List Nat := []
  prevOrdinal : Option Nat := none

def checkStep (debug : String → String) (scan : StepScan) (step : TxStep) :
    Except String StepScan := do
  refuseIf (step.stepId = "") "Transaction plan has a step with an empty step_id"
  validateTxIdentifier debug "step_id" step.stepId
  refuseIf (step.stepId ∈ scan.stepIds)
    s!"Transaction plan has duplicate step_id {step.stepId}"
  refuseIf (step.ordinal ∈ scan.ordinals)
    s!"Transaction plan has duplicate step ordinal {step.ordinal}"
  let prev := scan.prevOrdinal.getD 0
  refuseIf (scan.prevOrdinal.isSome ∧ step.ordinal ≤ prev)
    s!"Transaction plan steps are not in ascending ordinal order: step {step.stepId} has ordinal {step.ordinal} after ordinal {prev} (array order is the execution order; it must match ordinal order)"
  return { stepIds := step.stepId :: scan.stepIds
           ordinals := step.ordinal :: scan.ordinals
           prevOrdinal := some step.ordinal }

def checkCompensation (debug : String → String) (stepIds : List TxStepId)
    (seen : List TxStepId) (compensation : TxCompensation) : Except String (List TxStepId) := do
  validateTxIdentifier debug "compensation step_id" compensation.forStepId
  refuseIf (compensation.forStepId ∉ stepIds)
    s!"Transaction compensation references unknown step_id {compensation.forStepId}"
  refuseIf (compensation.forStepId ∈ seen)
    s!"Transaction plan has duplicate compensation for step_id {compensation.forStepId}"
  return compensation.forStepId :: seen

namespace MissionTxContract

variable (debug : String → String) (contract : MissionTxContract)

def missionTxSchemaVersion : Nat := 1

/-- One turn of the loop over the receipts that looks for token budgets. -/
def readTokenBudget (attachment : Option MissionTokenBudgetAttachment) (receipt : Json) :
    Except String (Option MissionTokenBudgetAttachment) :=
  if (receipt.get? "kind").bind Json.asStr? = some missionTokenBudgetAttachmentKind then
    match MissionTokenBudgetAttachment.ofJson receipt with
    | .error err => .error s!"invalid mission token budget attachment: {err}"
    | .ok parsed => do
      parsed.validate debug
      return some parsed
  else .ok attachment

/-- Latest token-budget attachment carried by this contract, if any. -/
def tokenBudgetAttachment : Except String (Option MissionTokenBudgetAttachment) :=
  contract.receipts.foldlM (readTokenBudget debug) none

def validatePersistedTxReceipts : Except String (List (Nat × TxReceipt)) := do
  let scan ← contract.receipts.zipIdx.foldlM (scanReceipt contract.intent.txId contract.plan) {}
  return scan.validated

/-- Validate contract consistency. -/
def validate : Except String Unit := do
  refuseIf (contract.txVersion ≠ missionTxSchemaVersion)
    s!"Transaction tx_version {contract.txVersion} is unsupported; expected {missionTxSchemaVersion}"
  validateTxIdentifier debug "intent tx_id" contract.intent.txId
  validateTxIdentifier debug "plan tx_id" contract.plan.txId
  validateTxIdentifier debug "plan_id" contract.plan.planId
  validateTxIdentifier debug "correlation_id" contract.intent.correlationId
  refuseIf (contract.intent.txId ≠ contract.plan.txId)
    s!"Transaction intent tx_id {contract.intent.txId} does not match plan tx_id {contract.plan.txId}"
  let expected := contract.lifecycleState.expectedOutcome
  refuseIf (contract.outcome ≠ expected)
    s!"Transaction state {contract.lifecycleState.display} requires outcome {expected.debug}, got {contract.outcome.debug}"
  refuseIf (contract.plan.steps.isEmpty = true) "Transaction plan has no steps"
  let _ ← contract.tokenBudgetAttachment debug
  let steps ← contract.plan.steps.foldlM (checkStep debug) {}
  let _ ← contract.plan.compensations.foldlM (checkCompensation debug steps.stepIds) []
  let _ ← contract.validatePersistedTxReceipts
  return ()

end MissionTxContract

end FrankenTerm.Ports.PlanTx
