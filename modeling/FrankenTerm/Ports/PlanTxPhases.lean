import FrankenTerm.Ports.PlanTx

/-!
# The commit and compensation phases

Model of the phase reducers of `plan.rs`.  A reducer reads a contract and the results that
an executor reports for its steps, and returns a report with the receipts to append.  It
writes nothing itself: the caller appends the receipts and moves the contract to the target
state of the report's outcome (`MissionTxContract.advance`).

* `executeCommitPhase` — commit receipts for all steps, in plan order.
* `missionTxRollbackCommitReport` — the commit report, rebuilt from the receipts.
* `executeCompensationPhase` — compensation receipts for the committed steps, in reverse
  order.
-/

namespace FrankenTerm.Ports.PlanTx

open Verified.Serde Verified.Check

/-! ## Inputs and reports -/

section

variable (debug : String → String) (contract : MissionTxContract) (scan : RollbackScan)
  (inputs : List TxCommitStepInput)

/-- Input for a single commit step. -/
structure TxCommitStepInput where
  stepId : TxStepId
  success : Bool
  reasonCode : String
  errorCode : Option String
  completedAtMs : Int64

/-- Input for a single compensation step. -/
structure TxCompensationStepInput where
  forStepId : TxStepId
  success : Bool
  reasonCode : String
  errorCode : Option String
  completedAtMs : Int64

/-- Result of a single commit step. -/
structure TxCommitStepResult where
  stepId : TxStepId
  ordinal : Nat
  outcome : TxCommitStepOutcome
  decisionPath : String
  completedAtMs : Int64
  deriving DecidableEq

/-- Report from the commit phase. -/
structure TxCommitReport where
  txId : TxId
  planId : TxPlanId
  outcome : TxCommitOutcome
  stepResults : List TxCommitStepResult
  failureBoundary : Option String
  committedCount : Nat
  failedCount : Nat
  skippedCount : Nat
  decisionPath : String
  reasonCode : String
  errorCode : Option String
  completedAtMs : Int64
  receipts : List Json

/-- Report from the compensation phase. -/
structure TxCompensationReport where
  outcome : TxCompensationOutcome
  compensatedCount : Nat
  failedCount : Nat
  noCompensationCount : Nat
  skippedCount : Nat
  stepResults : List TxCommitStepResult
  decisionPath : String
  reasonCode : String
  errorCode : Option String
  completedAtMs : Int64
  receipts : List Json

/-- What a caller does with a report: append its receipts and enter the target state. -/
def MissionTxContract.advance (receipts : List Json) (target : MissionTxState) :
    MissionTxContract :=
  { contract with
    receipts := contract.receipts ++ receipts
    lifecycleState := target
    outcome := target.expectedOutcome }

/-! ## Receipts -/

def txLastReceiptSeq (receipts : List Json) : UInt64 :=
  ((receipts.reverse.filter looksLikePersistedTxReceipt).findSome?
    fun receipt => (receipt.get? "seq").bind Json.asU64?).getD 0

def u64Max : UInt64 := 0xffffffffffffffff

def txIncrementReceiptSeq (previousSeq : UInt64) : Except String UInt64 := do
  refuseIf (previousSeq = u64Max)
    s!"transaction receipt sequence overflow after seq {previousSeq}"
  return previousSeq + 1

/-- Whether the newest receipt for the phase and the step already records the outcome. -/
def txLatestReceiptMatches (phase stepId outcome : String) : Bool :=
  match contract.receipts.reverse.find? fun receipt =>
      (receipt.get? "phase").bind Json.asStr? = some phase ∧
        (receipt.get? "step_id").bind Json.asStr? = some stepId with
  | some receipt => (receipt.get? "outcome").bind Json.asStr? = some outcome
  | none => false

def txBuildReceipt (seq : UInt64) (phase : String) (txId : TxId) (planId : TxPlanId)
    (state : MissionTxState) (stepId : Option TxStepId) (outcome reasonCode : String)
    (errorCode : Option String) (decisionPath : String) (emittedAtMs : Int64) : Json :=
  .obj [("seq", serialize seq), ("phase", serialize phase), ("tx_id", serialize txId),
    ("plan_id", serialize planId), ("state", serialize state), ("step_id", serialize stepId),
    ("outcome", serialize outcome), ("reason_code", serialize reasonCode),
    ("error_code", serialize errorCode), ("decision_path", serialize decisionPath),
    ("emitted_at_ms", serialize emittedAtMs)]

/-! ## Checks on the inputs -/

/-- The first identifier that already occurred. -/
def firstRepeated : List String → List String → Option String
  | _, [] => none
  | seen, id :: rest => if id ∈ seen then some id else firstRepeated (id :: seen) rest

def duplicateCommitInputStepId : Option String :=
  firstRepeated [] (inputs.map (·.stepId))

def duplicateCompensationInputStepId (inputs : List TxCompensationStepInput) : Option String :=
  firstRepeated [] (inputs.map (·.forStepId))

def validateCommitInputStepIds : Except String Unit :=
  inputs.forM fun input => do
    validateTxIdentifier debug "commit input step_id" input.stepId
    refuseIf (input.stepId ∉ contract.plan.stepIds)
      s!"commit input references unknown step_id {input.stepId}"

/-- The steps that a report says are committed. -/
def TxCommitReport.committedSteps (report : TxCommitReport) : List TxCommitStepResult :=
  report.stepResults.filter fun result => result.outcome.isCommitted

def validateCompensationInputStepIds (report : TxCommitReport)
    (inputs : List TxCompensationStepInput) : Except String Unit :=
  inputs.forM fun input => do
    validateTxIdentifier debug "compensation input step_id" input.forStepId
    refuseIf (input.forStepId ∉ contract.plan.stepIds)
      s!"compensation input references unknown step_id {input.forStepId}"
    refuseIf (input.forStepId ∉ report.committedSteps.map (·.stepId))
      s!"compensation input references uncommitted step_id {input.forStepId}"

/-- One turn of the loop over the step results of a commit report. -/
def checkCommittedStep (plan : TxPlan) (seen : List TxStepId) (result : TxCommitStepResult) :
    Except String (List TxStepId) := do
  validateTxIdentifier debug "commit report step_id" result.stepId
  refuseIf (result.stepId ∉ plan.stepIds)
    s!"Compensation commit report references unknown step {result.stepId}"
  refuseIf (result.outcome.isCommitted = true ∧ result.stepId ∈ seen)
    s!"duplicate committed step {result.stepId} in commit report: compensation would be order-dependent"
  return if result.outcome.isCommitted then result.stepId :: seen else seen

def validateCompensationCommitReport (report : TxCommitReport) : Except String Unit := do
  refuseIf (report.txId ≠ contract.intent.txId)
    s!"Compensation commit report tx_id {report.txId} does not match contract tx_id {contract.intent.txId}"
  refuseIf (report.planId ≠ contract.plan.planId)
    s!"Compensation commit report plan_id {report.planId} does not match contract plan_id {contract.plan.planId}"
  let _ ← report.stepResults.foldlM (checkCommittedStep debug contract.plan) []
  return ()

/-! ## The commit phase -/

/-- The report of a commit that is blocked before any step. -/
def txBlockedCommitReport (outcome : TxCommitOutcome) (reasonCode : String)
    (errorCode : Option String) (decisionPath : String) (completedAtMs : Int64) :
    Except String TxCommitReport := do
  let (_, stepResults, receipts) ← contract.plan.steps.foldlM
    (fun (nextSeq, stepResults, receipts) step => do
      let nextSeq ← txIncrementReceiptSeq nextSeq
      let result : TxCommitStepResult :=
        ⟨step.stepId, step.ordinal, .skipped reasonCode, decisionPath, completedAtMs⟩
      let receipt := txBuildReceipt nextSeq "commit" contract.intent.txId contract.plan.planId
        .committing (some step.stepId) "skipped" reasonCode errorCode decisionPath completedAtMs
      return (nextSeq, stepResults ++ [result], receipts ++ [receipt]))
    (txLastReceiptSeq contract.receipts, [], [])
  return {
    txId := contract.intent.txId
    planId := contract.plan.planId
    outcome, stepResults
    failureBoundary := none
    committedCount := 0
    failedCount := 0
    skippedCount := contract.plan.steps.length
    decisionPath, reasonCode, errorCode, completedAtMs, receipts }

/-- What a phase decides about one step. -/
structure StepVerdict where
  outcome : TxCommitStepOutcome
  decisionPath : String
  completedAtMs : Int64
  reasonCode : String
  errorCode : Option String

/-- State of the loop over the steps of the plan. -/
structure CommitLoop where
  stepResults : List TxCommitStepResult := []
  receipts : List Json := []
  nextSeq : UInt64
  committed : Nat := 0
  failed : Nat := 0
  skipped : Nat := 0
  failureBoundary : Option String := none
  reportErrorCode : Option String := none
  failureSeen : Bool := false

/-- The verdict on a step, and the counters after it. -/
def commitVerdict (loop : CommitLoop) (step : TxStep) (matchedInput : Option TxCommitStepInput)
    (nowMs : Int64) : CommitLoop × StepVerdict :=
  if loop.failureSeen then
    ({ loop with skipped := loop.skipped + 1 },
      ⟨.skipped "commit_skipped_after_failure", "commit_phase->skipped_after_failure", nowMs,
        "commit_skipped_after_failure", none⟩)
  else
    match matchedInput with
    | some input =>
      if input.success then
        ({ loop with committed := loop.committed + 1 },
          ⟨.committed input.reasonCode, "commit_phase->committed", input.completedAtMs,
            input.reasonCode, none⟩)
      else
        ({ loop with
            failed := loop.failed + 1
            failureSeen := true
            failureBoundary := some step.stepId
            reportErrorCode := input.errorCode },
          ⟨.failed input.reasonCode, "commit_phase->failed", input.completedAtMs,
            input.reasonCode, input.errorCode⟩)
    | none =>
      ({ loop with
          failed := loop.failed + 1
          failureSeen := true
          failureBoundary := some step.stepId
          reportErrorCode := some "tx.commit.input_missing" },
        ⟨.failed "commit_input_missing", "commit_phase->missing_input", nowMs,
          "commit_input_missing", some "tx.commit.input_missing"⟩)

/-- The outcome text of a commit receipt. -/
def TxCommitStepOutcome.commitText : TxCommitStepOutcome → String
  | committed _ => "committed"
  | failed _ => "failed"
  | skipped _ => "skipped"

/-- One turn of the loop over the steps of the plan. -/
def commitStep (nowMs : Int64) (loop : CommitLoop) (step : TxStep) : Except String CommitLoop := do
  let matchedInput := inputs.find? fun input => input.stepId = step.stepId
  let (loop, verdict) := commitVerdict loop step matchedInput nowMs
  let nextSeq ← txIncrementReceiptSeq loop.nextSeq
  let receipt := txBuildReceipt nextSeq "commit" contract.intent.txId contract.plan.planId
    .committing (some step.stepId) verdict.outcome.commitText verdict.reasonCode
    verdict.errorCode verdict.decisionPath verdict.completedAtMs
  let result : TxCommitStepResult :=
    ⟨step.stepId, step.ordinal, verdict.outcome, verdict.decisionPath, verdict.completedAtMs⟩
  return { loop with
    nextSeq
    receipts := loop.receipts ++ [receipt]
    stepResults := loop.stepResults ++ [result] }

/-- The outcome of a whole commit and its reason code. -/
def commitOutcome (committed failed : Nat) : TxCommitOutcome × String :=
  if failed = 0 then (.fullyCommitted, "fully_committed")
  else if committed = 0 then (.immediateFailure, "immediate_failure")
  else (.partialFailure, "partial_failure")

/-- The error code of a blocking kill switch. -/
def MissionKillSwitchLevel.errorCode : MissionKillSwitchLevel → Option String
  | safeMode => some "tx.kill_switch.safe_mode"
  | hardStop => some "tx.kill_switch.hard_stop"
  | off => none

/-- The commit report of the unblocked phase. -/
def commitAll (nowMs : Int64) : Except String TxCommitReport := do
  let start : CommitLoop := { nextSeq := txLastReceiptSeq contract.receipts }
  let loop ← contract.plan.steps.foldlM (commitStep contract inputs nowMs) start
  let (outcome, reasonCode) := commitOutcome loop.committed loop.failed
  return {
    txId := contract.intent.txId
    planId := contract.plan.planId
    outcome
    stepResults := loop.stepResults
    failureBoundary := loop.failureBoundary
    committedCount := loop.committed
    failedCount := loop.failed
    skippedCount := loop.skipped
    decisionPath := "commit_phase"
    reasonCode
    errorCode := loop.reportErrorCode
    completedAtMs := nowMs
    receipts := loop.receipts }

/-- Execute commit phase from step inputs. -/
def executeCommitPhase (killSwitch : MissionKillSwitchLevel) (paused : Bool) (nowMs : Int64) :
    Except String TxCommitReport := do
  refuseIf (contract.lifecycleState ∉ [.prepared, .committing])
    s!"Commit requires prepared or committing tx state, got {contract.lifecycleState.display}"
  refuseIf (contract.plan.steps.isEmpty = true) "Transaction plan has no steps"
  contract.validate debug
  validateCommitInputStepIds debug contract inputs
  if killSwitch ≠ .off then
    txBlockedCommitReport contract .killSwitchBlocked "kill_switch_blocked" killSwitch.errorCode
      "commit_phase->kill_switch_blocked" nowMs
  else if paused then
    txBlockedCommitReport contract .pauseSuspended "pause_suspended" none
      "commit_phase->pause_suspended" nowMs
  else
    match duplicateCommitInputStepId inputs with
    | some stepId =>
      .error s!"duplicate commit input for tx step {stepId}: replay would be order-dependent"
    | none => commitAll contract inputs nowMs

/-! ## Rebuilding the commit report -/

/-- State of the loop over the validated receipts. -/
structure RollbackScan where
  latestCommitReceipts : List (String × TxReceipt) := []
  latestSuccessfulCommitReceipts : List (String × TxReceipt) := []
  latestSuccessfulCompensationReceipts : List (String × TxReceipt) := []
  stepsWithCompensationAttempts : List String := []
  commitReceipts : List Json := []

/-- A commit receipt is remembered; a committed one also as the step's success. -/
def rollbackCommitReceipt (persistedIndex : Nat) (receipt : TxReceipt) :
    Except String RollbackScan := do
  let stepId ← okOr receipt.stepId "commit receipt missing step_id"
  refuseIf (receipt.outcome = "committed" ∧ stepId ∈ scan.stepsWithCompensationAttempts)
    s!"committed receipt for step {stepId} follows a compensation attempt; a new effect generation is required before recommit"
  return { scan with
    latestSuccessfulCommitReceipts :=
      if receipt.outcome = "committed" then
        (stepId, receipt) :: scan.latestSuccessfulCommitReceipts
      else scan.latestSuccessfulCommitReceipts
    latestCommitReceipts := (stepId, receipt) :: scan.latestCommitReceipts
    -- the index comes from the validation of this contract, so the value is there
    commitReceipts := scan.commitReceipts ++ contract.receipts[persistedIndex]?.toList }

/-- A compensation receipt counts as an attempt; a compensated one also as success. -/
def rollbackCompensateReceipt (receipt : TxReceipt) : Except String RollbackScan := do
  let stepId ← okOr receipt.stepId "compensation receipt missing step_id"
  let commitReceipt ← okOr (scan.latestSuccessfulCommitReceipts.lookup stepId)
    s!"compensation receipt for step {stepId} has no preceding committed receipt"
  refuseIf (receipt.seq ≤ commitReceipt.seq)
    s!"compensation receipt for step {stepId} does not follow its committed receipt"
  return { scan with
    stepsWithCompensationAttempts := stepId :: scan.stepsWithCompensationAttempts
    latestSuccessfulCompensationReceipts :=
      if receipt.outcome = "compensated" then
        (stepId, receipt) :: scan.latestSuccessfulCompensationReceipts
      else scan.latestSuccessfulCompensationReceipts }

/-- One turn of the loop over the validated receipts. -/
def rollbackScanReceipt (item : Nat × TxReceipt) : Except String RollbackScan :=
  if item.2.phase = "commit" then rollbackCommitReceipt contract scan item.1 item.2
  else if item.2.phase = "compensate" then rollbackCompensateReceipt scan item.2
  else .ok scan

/-- State of the loop that builds the step results. -/
structure RollbackBuild where
  stepResults : List TxCommitStepResult := []
  committedCount : Nat := 0
  failedCount : Nat := 0
  skippedCount : Nat := 0
  failureBoundary : Option String := none
  reportErrorCode : Option String := none
  completedAtMs : Int64

/-- The receipt that speaks for a step: its latest success, else its latest attempt. -/
def RollbackScan.receiptFor (stepId : TxStepId) : Except String TxReceipt := do
  let latestReceipt ← okOr (scan.latestCommitReceipts.lookup stepId)
    s!"rollback requires a commit receipt for step {stepId}"
  return (scan.latestSuccessfulCommitReceipts.lookup stepId).getD latestReceipt

/-- The successful compensation of a step, when it follows the receipt. -/
def RollbackScan.alreadyCompensated (stepId : TxStepId) (receipt : TxReceipt) : Option TxReceipt :=
  (scan.latestSuccessfulCompensationReceipts.lookup stepId).filter
    fun compensation => receipt.seq < compensation.seq

/-- One turn of the loop that builds the step results. -/
def rollbackStep (build : RollbackBuild) (step : TxStep) : Except String RollbackBuild := do
  let receipt ← scan.receiptFor step.stepId
  let build := { build with completedAtMs := max build.completedAtMs receipt.emittedAtMs }
  let result (outcome : TxCommitStepOutcome) (decisionPath : String) (completedAtMs : Int64) :
      TxCommitStepResult :=
    ⟨step.stepId, step.ordinal, outcome, decisionPath, completedAtMs⟩
  match scan.alreadyCompensated step.stepId receipt with
  | some compensation =>
    refuseIf (receipt.outcome ≠ "committed")
      s!"unknown commit receipt outcome '{receipt.outcome}' for step {step.stepId}"
    return { build with
      skippedCount := build.skippedCount + 1
      completedAtMs := max build.completedAtMs compensation.emittedAtMs
      stepResults := build.stepResults ++ [result (.skipped "already_compensated")
        "rollback_compensation_receipts->already_compensated" compensation.emittedAtMs] }
  | none =>
    if receipt.outcome = "committed" then
      return { build with
        committedCount := build.committedCount + 1
        stepResults := build.stepResults ++ [result (.committed receipt.reasonCode)
          receipt.decisionPath receipt.emittedAtMs] }
    else if receipt.outcome = "failed" then
      return { build with
        failedCount := build.failedCount + 1
        failureBoundary := build.failureBoundary.or (some step.stepId)
        reportErrorCode := build.reportErrorCode.or receipt.errorCode
        stepResults := build.stepResults ++ [result (.failed receipt.reasonCode)
          receipt.decisionPath receipt.emittedAtMs] }
    else if receipt.outcome = "skipped" then
      return { build with
        skippedCount := build.skippedCount + 1
        stepResults := build.stepResults ++ [result (.skipped receipt.reasonCode)
          receipt.decisionPath receipt.emittedAtMs] }
    else
      .error s!"unknown commit receipt outcome '{receipt.outcome}' for step {step.stepId}"

/-- The sequence number a receipt is sorted by. -/
def receiptSortKey (receipt : Json) : UInt64 :=
  ((receipt.get? "seq").bind Json.asU64?).getD 0

/-- Build the commit report a rollback surface should compensate against. -/
def missionTxRollbackCommitReport (completedAtMs : Int64) : Except String TxCommitReport := do
  refuseIf (contract.lifecycleState ∈ [.rolledBack, .compensated])
    s!"rollback is not allowed for terminal tx state {contract.lifecycleState.display}"
  contract.validate debug
  let validated ← contract.validatePersistedTxReceipts
  let scan ← validated.foldlM (rollbackScanReceipt contract) {}
  refuseIf (scan.latestCommitReceipts.isEmpty = true)
    s!"rollback requires commit receipts, got none for tx state {contract.lifecycleState.display}"
  let start : RollbackBuild := { completedAtMs }
  let build ← contract.plan.steps.foldlM (rollbackStep scan) start
  let (outcome, reasonCode) := commitOutcome build.committedCount build.failedCount
  return {
    txId := contract.intent.txId
    planId := contract.plan.planId
    outcome
    stepResults := build.stepResults
    failureBoundary := build.failureBoundary
    committedCount := build.committedCount
    failedCount := build.failedCount
    skippedCount := build.skippedCount
    decisionPath := "rollback_commit_receipts"
    reasonCode
    errorCode := build.reportErrorCode
    completedAtMs := build.completedAtMs
    receipts := scan.commitReceipts.insertionSort
      fun a b => receiptSortKey a ≤ receiptSortKey b }

/-! ## The compensation phase -/

/-- State of the loop over the committed steps. -/
structure CompensationLoop where
  stepResults : List TxCommitStepResult := []
  receipts : List Json := []
  nextSeq : UInt64
  compensatedCount : Nat := 0
  failedCount : Nat := 0
  skippedCount : Nat := 0
  reportErrorCode : Option String := none
  failureSeen : Bool := false

/-- The verdict on a committed step, and the counters after it. -/
def compensationVerdict (loop : CompensationLoop) (matchedInput : Option TxCompensationStepInput)
    (nowMs : Int64) : CompensationLoop × StepVerdict :=
  if loop.failureSeen then
    ({ loop with skippedCount := loop.skippedCount + 1 },
      ⟨.skipped "compensation_skipped_after_failure", "compensation_phase->skipped_after_failure",
        nowMs, "compensation_skipped_after_failure", none⟩)
  else
    match matchedInput with
    | some input =>
      if input.success then
        ({ loop with compensatedCount := loop.compensatedCount + 1 },
          ⟨.committed input.reasonCode, "compensation_phase->compensated",
            input.completedAtMs, input.reasonCode, none⟩)
      else
        ({ loop with
            failedCount := loop.failedCount + 1
            failureSeen := true
            reportErrorCode := input.errorCode },
          ⟨.failed input.reasonCode, "compensation_phase->failed", input.completedAtMs,
            input.reasonCode, input.errorCode⟩)
    | none =>
      ({ loop with
          failedCount := loop.failedCount + 1
          failureSeen := true
          reportErrorCode := some "tx.compensation.input_missing" },
        ⟨.failed "compensation_input_missing", "compensation_phase->missing_input", nowMs,
          "compensation_input_missing", some "tx.compensation.input_missing"⟩)

/-- The outcome text of a compensation receipt. -/
def TxCommitStepOutcome.compensateText : TxCommitStepOutcome → String
  | committed _ => "compensated"
  | failed _ => "failed"
  | skipped _ => "skipped"

/-- One turn of the loop over the committed steps.  A receipt that only restates the
newest one of the step is not written again. -/
def compensationStep (inputs : List TxCompensationStepInput) (nowMs : Int64)
    (loop : CompensationLoop) (committedStep : TxCommitStepResult) :
    Except String CompensationLoop := do
  let matchedInput := inputs.find? fun input => input.forStepId = committedStep.stepId
  let (loop, verdict) := compensationVerdict loop matchedInput nowMs
  let result : TxCommitStepResult :=
    ⟨committedStep.stepId, committedStep.ordinal, verdict.outcome, verdict.decisionPath,
      verdict.completedAtMs⟩
  let loop := { loop with stepResults := loop.stepResults ++ [result] }
  let outcome := verdict.outcome.compensateText
  if txLatestReceiptMatches contract "compensate" committedStep.stepId outcome then
    return loop
  else
    let nextSeq ← txIncrementReceiptSeq loop.nextSeq
    let receipt := txBuildReceipt nextSeq "compensate" contract.intent.txId contract.plan.planId
      contract.lifecycleState (some committedStep.stepId) outcome verdict.reasonCode
      verdict.errorCode verdict.decisionPath verdict.completedAtMs
    return { loop with nextSeq, receipts := loop.receipts ++ [receipt] }

/-- The compensation report for the committed steps. -/
def compensateAll (committedSteps : List TxCommitStepResult) (inputs : List TxCompensationStepInput)
    (nowMs : Int64) :
    Except String TxCompensationReport := do
  let start : CompensationLoop := { nextSeq := txLastReceiptSeq contract.receipts }
  let loop ← committedSteps.reverse.foldlM (compensationStep contract inputs nowMs) start
  return {
    outcome := if loop.failedCount = 0 then .fullyRolledBack else .compensationFailed
    compensatedCount := loop.compensatedCount
    failedCount := loop.failedCount
    noCompensationCount := 0
    skippedCount := loop.skippedCount
    stepResults := loop.stepResults
    decisionPath := "compensation_phase"
    reasonCode := if loop.failedCount = 0 then "fully_rolled_back" else "compensation_failed"
    errorCode := loop.reportErrorCode
    completedAtMs := nowMs
    receipts := loop.receipts }

/-- Execute compensation phase after a failed commit. -/
def executeCompensationPhase (report : TxCommitReport) (inputs : List TxCompensationStepInput)
    (nowMs : Int64) :
    Except String TxCompensationReport := do
  refuseIf (contract.lifecycleState ≠ .compensating)
    s!"Compensation requires compensating tx state, got {contract.lifecycleState.display}"
  refuseIf (contract.plan.steps.isEmpty = true) "Transaction plan has no steps"
  contract.validate debug
  validateCompensationCommitReport debug contract report
  validateCompensationInputStepIds debug contract report inputs
  if report.committedSteps.isEmpty then
    return {
      outcome := .nothingToCompensate
      compensatedCount := 0
      failedCount := 0
      noCompensationCount := 0
      skippedCount := 0
      stepResults := []
      decisionPath := "compensation_phase->nothing_to_compensate"
      reasonCode := "nothing_to_compensate"
      errorCode := none
      completedAtMs := nowMs
      receipts := [] }
  else
    match duplicateCompensationInputStepId inputs with
    | some stepId =>
      .error s!"duplicate compensation input for tx step {stepId}: replay would be order-dependent"
    | none => compensateAll contract report.committedSteps inputs nowMs

end

end FrankenTerm.Ports.PlanTx
