import FrankenTerm.Verified.Journal
import FrankenTerm.Verified.Loop
import FrankenTerm.Ports.PlanTxPhases

/-!
# Receipt histories of a transaction contract

What the validator of `plan.rs` accepts, said without its loop.  The receipts of a contract
form a journal; `Admits` says which receipt may follow which past:

* its sequence number is positive and above all earlier ones, its time is not negative, and
  it names the transaction and the plan of the contract;
* a commit receipt names a step of the plan, and records a success only while nobody has
  tried to compensate the step;
* a compensation receipt names a step with a declared compensation, of which a success was
  recorded before;
* a lifecycle receipt names no step.

## Main results

* `validatePersistedTxReceipts_ok_iff` — the validator accepts the legible admitted journals.
* `validate_ok_iff` — what validation checks.
* `Emitted` — receipts that a phase has built so far extend the journal of the contract.
* `Emitted.validate_advance` — appending them keeps the contract valid.
-/

namespace FrankenTerm.Ports.PlanTxHistory

open Verified.Serde Verified.Check Verified.Journal Verified.Loop PlanTx List
open MissionTxContract

/-! ## The journal of a contract -/

/-- The receipt that a persisted value stands for. -/
def receiptOf (value : Json) : Option TxReceipt :=
  if looksLikePersistedTxReceipt value then (TxReceipt.ofJson value).toOption else none

/-- What looks like a receipt is one. -/
def Legible (value : Json) : Prop :=
  looksLikePersistedTxReceipt value = true → ∃ receipt, TxReceipt.ofJson value = .ok receipt

/-- The receipts of a list of persisted values. -/
def historyOf (values : List Json) : List TxReceipt := values.filterMap receiptOf

@[simp] theorem historyOf_append (front back : List Json) :
    historyOf (front ++ back) = historyOf front ++ historyOf back :=
  filterMap_append

/-- The step of a successful commit. -/
def committedStepId (receipt : TxReceipt) : Option TxStepId :=
  if receipt.phase = "commit" ∧ receipt.outcome = "committed" then receipt.stepId else none

/-- The step of a compensation attempt. -/
def attemptedStepId (receipt : TxReceipt) : Option TxStepId :=
  if receipt.phase = "compensate" then receipt.stepId else none

variable {debug : String → String} {contract : MissionTxContract} {receipt : TxReceipt}

theorem committedStepId_eq_some {stepId : TxStepId} :
    committedStepId receipt = some stepId ↔
      (receipt.phase = "commit" ∧ receipt.outcome = "committed") ∧ receipt.stepId = some stepId :=
  Option.ite_none_right_eq_some

theorem attemptedStepId_eq_some {stepId : TxStepId} :
    attemptedStepId receipt = some stepId ↔
      receipt.phase = "compensate" ∧ receipt.stepId = some stepId :=
  Option.ite_none_right_eq_some

/-- What the phase of a receipt demands of the past. -/
inductive PhaseAdmits (plan : TxPlan) (past : List TxReceipt) (receipt : TxReceipt) : Prop where
  | commit (stepId : TxStepId) (hPhase : receipt.phase = "commit")
      (hState : receipt.state = .committing) (hStep : receipt.stepId = some stepId)
      (hKnown : stepId ∈ plan.stepIds)
      (hOutcome : receipt.outcome ∈ ["committed", "failed", "skipped"])
      (hFresh : receipt.outcome = "committed" →
        ∀ earlier ∈ past, attemptedStepId earlier ≠ some stepId)
  | compensate (stepId : TxStepId) (hPhase : receipt.phase = "compensate")
      (hState : receipt.state = .compensating) (hStep : receipt.stepId = some stepId)
      (hKnown : stepId ∈ plan.stepIds) (hDeclared : stepId ∈ plan.compensationStepIds)
      (hOutcome : receipt.outcome ∈ ["compensated", "failed", "skipped"])
      (hCommitted : ∃ earlier ∈ past, committedStepId earlier = some stepId)
  | lifecycle (hPhase : receipt.phase = "lifecycle") (hStep : receipt.stepId = none)
      (hOutcome : receipt.outcome = "state_checkpoint")

/-- Which receipt may follow which past. -/
structure Admits (txId : TxId) (plan : TxPlan) (past : List TxReceipt) (receipt : TxReceipt) :
    Prop where
  time : ¬receipt.emittedAtMs < 0
  owner : receipt.txId = txId ∧ receipt.planId = plan.planId
  phase : PhaseAdmits plan past receipt
  positive : 0 < receipt.seq
  later : ∀ earlier ∈ past, earlier.seq < receipt.seq

/-! ## Sequence numbers -/

/-- The sequence number that the next receipt has to exceed. -/
def IsTip (past : List TxReceipt) (seq : UInt64) : Prop :=
  (∀ earlier ∈ past, earlier.seq ≤ seq) ∧ (seq = 0 ∨ ∃ earlier ∈ past, earlier.seq = seq)

variable {value : Json} {receipts : List Json} {seq : UInt64}

theorem IsTip.lt_iff {past : List TxReceipt} {next : UInt64} (h : IsTip past seq) :
    seq < next ↔ 0 < next ∧ ∀ earlier ∈ past, earlier.seq < next := by
  constructor
  · intro hLt
    refine ⟨?_, fun earlier hEarlier => ?_⟩
    · exact Nat.lt_of_le_of_lt (Nat.zero_le _) hLt
    · exact UInt64.lt_of_le_of_lt (h.1 earlier hEarlier) hLt
  · rintro ⟨hPos, hAll⟩
    rcases h.2 with rfl | ⟨earlier, hEarlier, rfl⟩
    · exact hPos
    · exact hAll earlier hEarlier

theorem isTip_nil : IsTip [] 0 := ⟨nofun, .inl rfl⟩

theorem isTip_snoc {past : List TxReceipt} (hLater : ∀ earlier ∈ past, earlier.seq < receipt.seq) :
    IsTip (past ++ [receipt]) receipt.seq := by
  refine ⟨?_, .inr ⟨receipt, by simp, rfl⟩⟩
  rw [forall_mem_append, forall_mem_singleton]
  exact ⟨fun earlier hPast => UInt64.le_of_lt (hLater earlier hPast), UInt64.le_refl _⟩

/-! ## The validator -/

/-- What the validator remembers of the receipts it has accepted. -/
structure Summary (past : List TxReceipt) (scan : ReceiptScan) : Prop where
  validated : scan.validated.map (·.2) = past
  tip : IsTip past scan.previousSeq
  committed : Indexes committedStepId scan.latestSuccessfulCommitReceipts past
  attempted : ∀ stepId, stepId ∈ scan.stepsWithCompensationAttempts ↔
    ∃ earlier ∈ past, attemptedStepId earlier = some stepId

theorem summary_nil : Summary [] {} where
  validated := rfl
  tip := isTip_nil
  committed := indexes_nil
  attempted _ := by simp

/-- What the check of a phase records, and what it leaves to the rest of the turn. -/
structure Recorded (past : List TxReceipt) (receipt : TxReceipt) (scan checked : ReceiptScan) :
    Prop where
  validated : checked.validated = scan.validated
  previousSeq : checked.previousSeq = scan.previousSeq
  committed : Indexes committedStepId checked.latestSuccessfulCommitReceipts (past ++ [receipt])
  attempted : ∀ stepId, stepId ∈ checked.stepsWithCompensationAttempts ↔
    ∃ earlier ∈ past ++ [receipt], attemptedStepId earlier = some stepId

section Checks

variable {plan : TxPlan} {past : List TxReceipt} {scan checked : ReceiptScan}

private theorem ite_pure_eq_ok {ε α : Type} {c : Prop} [Decidable c] {a b : α} :
    (if c then pure a else pure b : Except ε α) = .ok (if c then a else b) := by
  split <;> rfl

variable (h : Summary past scan)
include h

private theorem attempted_snoc (stepId : TxStepId) :
    (∃ earlier ∈ past ++ [receipt], attemptedStepId earlier = some stepId) ↔
      stepId ∈ scan.stepsWithCompensationAttempts ∨ attemptedStepId receipt = some stepId := by
  rw [h.attempted stepId]
  simp only [mem_append, mem_singleton, or_and_right, exists_or, exists_eq_left]

/-- A receipt that is neither a success nor an attempt records nothing. -/
private theorem recorded_self (hCommit : committedStepId receipt = none)
    (hAttempt : attemptedStepId receipt = none) : Recorded past receipt scan scan where
  validated := rfl
  previousSeq := rfl
  committed := h.committed.skip hCommit
  attempted stepId := by
    rw [attempted_snoc h, hAttempt]
    simp

theorem checkCommitReceipt_ok (hPhase : receipt.phase = "commit")
    (hRun : checkCommitReceipt plan scan receipt = .ok checked) :
    PhaseAdmits plan past receipt ∧ Recorded past receipt scan checked := by
  rcases refuseIf_bind_eq_ok.mp hRun with ⟨hState, hRun⟩
  rcases bind_eq_ok.mp hRun with ⟨stepId, hStep, hRun⟩
  rw [okOr_eq_ok] at hStep
  rcases refuseIf_bind_eq_ok.mp hRun with ⟨hKnown, hRun⟩
  rcases refuseIf_bind_eq_ok.mp hRun with ⟨hOutcome, hRun⟩
  rcases refuseIf_bind_eq_ok.mp hRun with ⟨hFresh, hRun⟩
  have hNoAttempt : attemptedStepId receipt = none := by
    simp [attemptedStepId, hPhase]
  refine ⟨.commit stepId hPhase (not_not.mp hState) hStep (not_not.mp hKnown)
    (not_not.mp hOutcome) fun hCommitted earlier hEarlier hAttempt => ?_, ?_⟩
  · exact hFresh ⟨hCommitted, (h.attempted stepId).mpr ⟨earlier, hEarlier, hAttempt⟩⟩
  · by_cases hCommitted : receipt.outcome = "committed"
    · rw [if_pos hCommitted] at hRun
      cases hRun
      have hKey : committedStepId receipt = some stepId := by
        simp [committedStepId, hPhase, hCommitted, hStep]
      refine ⟨rfl, rfl, h.committed.insert hKey, fun other => ?_⟩
      rw [attempted_snoc h, hNoAttempt]
      simp
    · rw [if_neg hCommitted] at hRun
      cases hRun
      exact recorded_self h (by simp [committedStepId, hCommitted]) hNoAttempt

theorem checkCompensateReceipt_ok (hPhase : receipt.phase = "compensate")
    (hRun : checkCompensateReceipt plan scan receipt = .ok checked) :
    PhaseAdmits plan past receipt ∧ Recorded past receipt scan checked := by
  rcases refuseIf_bind_eq_ok.mp hRun with ⟨hState, hRun⟩
  rcases bind_eq_ok.mp hRun with ⟨stepId, hStep, hRun⟩
  rw [okOr_eq_ok] at hStep
  rcases refuseIf_bind_eq_ok.mp hRun with ⟨hKnown, hRun⟩
  rcases refuseIf_bind_eq_ok.mp hRun with ⟨hDeclared, hRun⟩
  rcases refuseIf_bind_eq_ok.mp hRun with ⟨hOutcome, hRun⟩
  rcases bind_eq_ok.mp hRun with ⟨commitReceipt, hCommit, hRun⟩
  rw [okOr_eq_ok, h.committed stepId] at hCommit
  rcases refuseIf_bind_eq_ok.mp hRun with ⟨_, hRun⟩
  cases hRun
  have hNoCommit : committedStepId receipt = none := by
    simp [committedStepId, hPhase]
  have hAttempt : attemptedStepId receipt = some stepId := by
    simp [attemptedStepId, hPhase, hStep]
  refine ⟨.compensate stepId hPhase (not_not.mp hState) hStep (not_not.mp hKnown)
    (not_not.mp hDeclared) (not_not.mp hOutcome) ⟨commitReceipt, mem_of_latest hCommit⟩,
    rfl, rfl, h.committed.skip hNoCommit, fun other => ?_⟩
  rw [attempted_snoc h, hAttempt, mem_cons, Option.some.injEq, or_comm, eq_comm]

theorem checkReceiptPhase_ok {persistedIndex : Nat}
    (hRun : checkReceiptPhase plan scan receipt persistedIndex = .ok checked) :
    PhaseAdmits plan past receipt ∧ Recorded past receipt scan checked := by
  unfold checkReceiptPhase at hRun
  split at hRun
  next hPhase => exact checkCommitReceipt_ok h hPhase hRun
  next =>
    split at hRun
    next hPhase => exact checkCompensateReceipt_ok h hPhase hRun
    next hNotCompensate =>
      split at hRun
      next hPhase =>
        rcases refuseIf_bind_eq_ok.mp hRun with ⟨hBare, hRun⟩
        cases hRun
        rw [not_or, not_not, not_not] at hBare
        refine ⟨.lifecycle hPhase hBare.1 hBare.2, recorded_self h ?_ ?_⟩
        · simp [committedStepId, hPhase]
        · simp [attemptedStepId, hPhase]
      next => cases hRun

/-- The checks of the phase pass when the past admits the receipt. -/
theorem checkReceiptPhase_of_admits (persistedIndex : Nat)
    (hAdmits : PhaseAdmits plan past receipt)
    (hLater : ∀ earlier ∈ past, earlier.seq < receipt.seq) :
    ∃ checked, checkReceiptPhase plan scan receipt persistedIndex = .ok checked := by
  unfold checkReceiptPhase
  cases hAdmits with
  | commit stepId hPhase hState hStep hKnown hOutcome hFresh =>
    have hNoAttempt : ¬(receipt.outcome = "committed" ∧
        stepId ∈ scan.stepsWithCompensationAttempts) := by
      rintro ⟨hCommitted, hMem⟩
      rcases (h.attempted stepId).mp hMem with ⟨earlier, hEarlier, hAttempt⟩
      exact hFresh hCommitted earlier hEarlier hAttempt
    rw [if_pos hPhase]
    refine ⟨_, refuseIf_bind_eq_ok.mpr ⟨not_not.mpr hState, bind_eq_ok.mpr ⟨stepId,
      okOr_eq_ok.mpr hStep, refuseIf_bind_eq_ok.mpr ⟨not_not.mpr hKnown,
      refuseIf_bind_eq_ok.mpr ⟨not_not.mpr hOutcome, refuseIf_bind_eq_ok.mpr ⟨hNoAttempt,
      ite_pure_eq_ok⟩⟩⟩⟩⟩⟩
  | compensate stepId hPhase hState hStep hKnown hDeclared hOutcome hCommitted =>
    rcases exists_latest.mpr hCommitted with ⟨commitReceipt, hCommit⟩
    have hAfter : ¬receipt.seq ≤ commitReceipt.seq :=
      UInt64.not_le.mpr (hLater commitReceipt (mem_of_latest hCommit).1)
    rw [if_neg (by rw [hPhase]; decide), if_pos hPhase]
    refine ⟨_, refuseIf_bind_eq_ok.mpr ⟨not_not.mpr hState, bind_eq_ok.mpr ⟨stepId,
      okOr_eq_ok.mpr hStep, refuseIf_bind_eq_ok.mpr ⟨not_not.mpr hKnown,
      refuseIf_bind_eq_ok.mpr ⟨not_not.mpr hDeclared, refuseIf_bind_eq_ok.mpr
      ⟨not_not.mpr hOutcome, bind_eq_ok.mpr ⟨commitReceipt,
      okOr_eq_ok.mpr ((h.committed stepId).trans hCommit),
      refuseIf_bind_eq_ok.mpr ⟨hAfter, rfl⟩⟩⟩⟩⟩⟩⟩⟩
  | lifecycle hPhase hStep hOutcome =>
    rw [if_neg (by rw [hPhase]; decide), if_neg (by rw [hPhase]; decide), if_pos hPhase]
    refine ⟨scan, refuseIf_bind_eq_ok.mpr ⟨?_, rfl⟩⟩
    rw [hStep, hOutcome]
    decide

/-- One receipt is accepted exactly when the past admits it. -/
theorem checkReceipt_ok {txId : TxId} {persistedIndex : Nat}
    (hRun : checkReceipt txId plan scan receipt persistedIndex = .ok checked) :
    Admits txId plan past receipt ∧ Summary (past ++ [receipt]) checked := by
  rcases refuseIf_bind_eq_ok.mp hRun with ⟨hTime, hRun⟩
  rcases refuseIf_bind_eq_ok.mp hRun with ⟨hOwner, hRun⟩
  rcases bind_eq_ok.mp hRun with ⟨recorded, hPhase, hRun⟩
  rcases refuseIf_bind_eq_ok.mp hRun with ⟨hSeq, hRun⟩
  cases hRun
  rcases checkReceiptPhase_ok h hPhase with ⟨hAdmits, hRecorded⟩
  rw [hRecorded.previousSeq, UInt64.not_le, h.tip.lt_iff] at hSeq
  rw [not_or, not_not, not_not] at hOwner
  refine ⟨⟨hTime, hOwner, hAdmits, hSeq.1, hSeq.2⟩, ?_, isTip_snoc hSeq.2,
    hRecorded.committed, hRecorded.attempted⟩
  rw [map_append, hRecorded.validated, h.validated]
  rfl

theorem checkReceipt_of_admits {txId : TxId} (persistedIndex : Nat)
    (hAdmits : Admits txId plan past receipt) :
    ∃ checked, checkReceipt txId plan scan receipt persistedIndex = .ok checked := by
  rcases checkReceiptPhase_of_admits h persistedIndex hAdmits.phase hAdmits.later with
    ⟨recorded, hPhase⟩
  have hSeq : ¬receipt.seq ≤ recorded.previousSeq := by
    rw [(checkReceiptPhase_ok h hPhase).2.previousSeq, UInt64.not_le, h.tip.lt_iff]
    exact ⟨hAdmits.positive, hAdmits.later⟩
  have hOwner : ¬(receipt.txId ≠ txId ∨ receipt.planId ≠ plan.planId) := by
    rw [not_or, not_not, not_not]
    exact hAdmits.owner
  exact ⟨_, refuseIf_bind_eq_ok.mpr ⟨hAdmits.time, refuseIf_bind_eq_ok.mpr ⟨hOwner,
    bind_eq_ok.mpr ⟨recorded, hPhase, refuseIf_bind_eq_ok.mpr ⟨hSeq, rfl⟩⟩⟩⟩⟩

end Checks

/-- The loop of the validator checks the journal. -/
theorem scanReceipt_checks (txId : TxId) (plan : TxPlan) :
    Checks (Admits txId plan) (fun item : Json × Nat => Legible item.1)
      (fun item => receiptOf item.1) Summary (scanReceipt txId plan) where
  sound := by
    intro past scan item checked h hRun
    unfold scanReceipt at hRun
    by_cases hLooks : looksLikePersistedTxReceipt item.1
    · rw [if_pos hLooks] at hRun
      cases hParse : TxReceipt.ofJson item.1 with
      | error =>
        rw [hParse] at hRun
        cases hRun
      | ok receipt =>
        rw [hParse] at hRun
        have hRead : receiptOf item.1 = some receipt := by
          rw [receiptOf, if_pos hLooks, hParse]
          rfl
        rcases checkReceipt_ok h hRun with ⟨hAdmits, hNext⟩
        rw [hRead]
        refine ⟨fun _ => ⟨receipt, hParse⟩, fun other hOther => ?_, hNext⟩
        cases hOther
        exact hAdmits
    · rw [if_neg hLooks] at hRun
      cases hRun
      have hRead : receiptOf item.1 = none := by
        rw [receiptOf, if_neg hLooks]
      rw [hRead]
      exact ⟨fun hTrue => absurd hTrue hLooks, nofun, by simpa using h⟩
  complete := by
    intro past scan item h hLegible hAdmits
    unfold scanReceipt
    by_cases hLooks : looksLikePersistedTxReceipt item.1
    · rcases hLegible hLooks with ⟨receipt, hParse⟩
      rw [if_pos hLooks, hParse]
      refine checkReceipt_of_admits h item.2 (hAdmits receipt ?_)
      rw [receiptOf, if_pos hLooks, hParse]
      rfl
    · rw [if_neg hLooks]
      exact ⟨scan, rfl⟩

/-- The journal of a contract is legible and admitted. -/
def Lawful (contract : MissionTxContract) : Prop :=
  (∀ value ∈ contract.receipts, Legible value) ∧
    Admitted (Admits contract.intent.txId contract.plan) [] (historyOf contract.receipts)

private theorem filterMap_zipIdx (values : List Json) :
    values.zipIdx.filterMap (fun item => receiptOf item.1) = historyOf values := by
  show _ = values.filterMap receiptOf
  conv => rhs; rw [← zipIdx_map_fst 0 values, filterMap_map]
  rfl

private theorem forall_zipIdx {values : List Json} :
    (∀ item ∈ values.zipIdx, Legible item.1) ↔ ∀ value ∈ values, Legible value := by
  conv => rhs; rw [← zipIdx_map_fst 0 values]
  simp only [mem_map, forall_exists_index, and_imp, forall_apply_eq_imp_iff₂]

/-- **The validator accepts exactly the lawful journals**, and returns their receipts. -/
theorem validatePersistedTxReceipts_ok_iff (contract : MissionTxContract) :
    (∃ validated, contract.validatePersistedTxReceipts = .ok validated) ↔ Lawful contract := by
  have hChecks := scanReceipt_checks contract.intent.txId contract.plan
  constructor
  · rintro ⟨validated, hRun⟩
    rcases bind_eq_ok.mp hRun with ⟨scan, hScan, _⟩
    have hEnd := hChecks.foldlM_ok summary_nil _ hScan
    rw [filterMap_zipIdx, forall_zipIdx] at hEnd
    exact ⟨hEnd.1, hEnd.2.1⟩
  · rintro ⟨hLegible, hAdmitted⟩
    rw [← filterMap_zipIdx] at hAdmitted
    rcases hChecks.foldlM_of_admitted summary_nil _ (forall_zipIdx.mpr hLegible) hAdmitted with
      ⟨scan, hScan⟩
    exact ⟨scan.validated, bind_eq_ok.mpr ⟨scan, hScan, rfl⟩⟩

theorem validated_eq_history {validated : List (Nat × TxReceipt)}
    (hRun : contract.validatePersistedTxReceipts = .ok validated) :
    validated.map (·.2) = historyOf contract.receipts := by
  rcases bind_eq_ok.mp hRun with ⟨scan, hScan, hDone⟩
  cases hDone
  have hEnd := (scanReceipt_checks contract.intent.txId contract.plan).foldlM_ok summary_nil _ hScan
  rw [filterMap_zipIdx] at hEnd
  exact hEnd.2.2.validated

/-! ## Validation as a whole -/

/-- The part of validation that reads neither the state nor the receipts. -/
def HeaderOk (debug : String → String) (contract : MissionTxContract) : Prop :=
  contract.txVersion = MissionTxContract.missionTxSchemaVersion ∧
  validateTxIdentifier debug "intent tx_id" contract.intent.txId = .ok () ∧
  validateTxIdentifier debug "plan tx_id" contract.plan.txId = .ok () ∧
  validateTxIdentifier debug "plan_id" contract.plan.planId = .ok () ∧
  validateTxIdentifier debug "correlation_id" contract.intent.correlationId = .ok () ∧
  contract.intent.txId = contract.plan.txId ∧
  contract.plan.steps.isEmpty = false ∧
  ∃ steps, contract.plan.steps.foldlM (checkStep debug) {} = .ok steps ∧
    ∃ seen, contract.plan.compensations.foldlM (checkCompensation debug steps.stepIds) [] = .ok seen

theorem validate_ok_iff :
    contract.validate debug = .ok () ↔
      HeaderOk debug contract ∧ contract.outcome = contract.lifecycleState.expectedOutcome ∧
        (∃ attachment, contract.tokenBudgetAttachment debug = .ok attachment) ∧
        Lawful contract := by
  rw [← validatePersistedTxReceipts_ok_iff]
  unfold validate HeaderOk
  rw [refuseIf_bind_eq_ok, unit_bind_eq_ok, unit_bind_eq_ok, unit_bind_eq_ok, unit_bind_eq_ok,
    refuseIf_bind_eq_ok, refuseIf_bind_eq_ok, refuseIf_bind_eq_ok, bind_eq_ok]
  simp only [bind_eq_ok, not_not, ne_eq, Bool.not_eq_true]
  constructor
  · rintro ⟨hVersion, hIntent, hPlanTx, hPlan, hCorrelation, hSame, hOutcome, hSteps, attachment,
      hBudget, steps, hStepLoop, seen, hSeen, validated, hReceipts, _⟩
    exact ⟨⟨hVersion, hIntent, hPlanTx, hPlan, hCorrelation, hSame, hSteps, steps, hStepLoop,
      seen, hSeen⟩, hOutcome, ⟨attachment, hBudget⟩, validated, hReceipts⟩
  · rintro ⟨⟨hVersion, hIntent, hPlanTx, hPlan, hCorrelation, hSame, hSteps, steps, hStepLoop,
      seen, hSeen⟩, hOutcome, ⟨attachment, hBudget⟩, validated, hReceipts⟩
    exact ⟨hVersion, hIntent, hPlanTx, hPlan, hCorrelation, hSame, hOutcome, hSteps, attachment,
      hBudget, steps, hStepLoop, seen, hSeen, validated, hReceipts, rfl⟩

/-- The steps of a valid plan have distinct identifiers. -/
theorem HeaderOk.nodup_stepIds (h : HeaderOk debug contract) : contract.plan.stepIds.Nodup := by
  rcases h with ⟨_, _, _, _, _, _, _, steps, hSteps, _⟩
  have hEnd := foldlM_ok (checkStep debug)
    (fun front scan => scan.stepIds = (front.map (·.stepId)).reverse ∧
      (front.map (·.stepId)).Nodup) contract.plan.steps hSteps ?_ ⟨rfl, nodup_nil⟩
  · exact hEnd.2
  intro front step scan scan' _ ⟨hIds, hNodup⟩ hRun
  rcases refuseIf_bind_eq_ok.mp hRun with ⟨_, hRun⟩
  rcases unit_bind_eq_ok.mp hRun with ⟨_, hRun⟩
  rcases refuseIf_bind_eq_ok.mp hRun with ⟨hNew, hRun⟩
  rcases refuseIf_bind_eq_ok.mp hRun with ⟨_, hRun⟩
  rcases refuseIf_bind_eq_ok.mp hRun with ⟨_, hRun⟩
  cases hRun
  rw [hIds, mem_reverse] at hNew
  rw [map_append, map_singleton, nodup_append]
  refine ⟨by rw [hIds]; simp, hNodup, nodup_singleton _, fun id hId other hOther => ?_⟩
  rw [mem_singleton.mp hOther]
  exact fun hEq => hNew (hEq ▸ hId)

/-! ## Receipts that a phase builds -/

/-- A receipt that was built is read back. -/
theorem receiptOf_txBuildReceipt (seq : UInt64) (phase : String) (txId : TxId)
    (planId : TxPlanId) (state : MissionTxState) (stepId : Option TxStepId)
    (outcome reasonCode : String) (errorCode : Option String) (decisionPath : String)
    (emittedAtMs : Int64) :
    TxReceipt.ofJson (txBuildReceipt seq phase txId planId state stepId outcome reasonCode
      errorCode decisionPath emittedAtMs) =
    .ok { seq, phase, txId, planId, state, stepId, outcome, emittedAtMs, reasonCode,
          errorCode, decisionPath } := by
  unfold TxReceipt.ofJson
  rw [field_eq_ok rfl (roundTrips_uint64 seq), field_eq_ok rfl (roundTrips_string phase),
    field_eq_ok rfl (roundTrips_string txId), field_eq_ok rfl (roundTrips_string planId),
    field_eq_ok rfl state.roundTrips, optField_eq_ok rfl (roundTrips_optString stepId),
    field_eq_ok rfl (roundTrips_string outcome), field_eq_ok rfl (roundTrips_int64 emittedAtMs),
    field_eq_ok rfl (roundTrips_string reasonCode),
    optField_eq_ok rfl (roundTrips_optString errorCode),
    field_eq_ok rfl (roundTrips_string decisionPath)]
  rfl

/-- The members that the phases read directly are those of the receipt. -/
theorem fields_of_ofJson (h : TxReceipt.ofJson value = .ok receipt) :
    field "seq" value = .ok receipt.seq ∧ field "phase" value = .ok receipt.phase ∧
      optField "step_id" value = .ok receipt.stepId := by
  unfold TxReceipt.ofJson at h
  simp only [bind_eq_ok] at h
  rcases h with ⟨seq, hSeq, phase, hPhase, _, _, _, _, _, _, stepId, hStep, _, _, _, _, _, _, _,
    _, _, _, hDone⟩
  cases hDone
  exact ⟨hSeq, hPhase, hStep⟩

theorem seq_of_ofJson (h : TxReceipt.ofJson value = .ok receipt) :
    (value.get? "seq").bind Json.asU64? = some receipt.seq := by
  have hSeq := (fields_of_ofJson h).1
  unfold field at hSeq
  cases hGet : value.get? "seq" with
  | none =>
    rw [hGet] at hSeq
    cases hSeq
  | some =>
    rw [hGet] at hSeq
    exact asU64?_of_deserialize hSeq

theorem historyOf_snoc_of_ok (values : List Json)
    (hLooks : looksLikePersistedTxReceipt value)
    (hParse : TxReceipt.ofJson value = .ok receipt) :
    historyOf (values ++ [value]) = historyOf values ++ [receipt] := by
  rw [historyOf_append]
  refine congrArg _ ?_
  show [value].filterMap receiptOf = [receipt]
  rw [filterMap_cons, receiptOf, if_pos hLooks, hParse]
  rfl

/-- The last sequence number of a lawful journal is the one the next has to exceed. -/
theorem isTip_txLastReceiptSeq {txId : TxId} {plan : TxPlan} (values : List Json)
    (hLegible : ∀ value ∈ values, Legible value)
    (hAdmitted : Admitted (Admits txId plan) [] (historyOf values)) :
    IsTip (historyOf values) (txLastReceiptSeq values) := by
  induction values using List.reverseRecOn with
  | nil => exact isTip_nil
  | append_singleton front value ih =>
    have hLast : Legible value := hLegible value (by simp)
    by_cases hLooks : looksLikePersistedTxReceipt value
    · rcases hLast hLooks with ⟨receipt, hParse⟩
      rw [historyOf_snoc_of_ok front hLooks hParse] at hAdmitted ⊢
      have hSeq : txLastReceiptSeq (front ++ [value]) = receipt.seq := by
        simp [txLastReceiptSeq, hLooks, seq_of_ofJson hParse]
      rw [hSeq]
      exact isTip_snoc hAdmitted.admits_of_split.later
    · have hNone : historyOf (front ++ [value]) = historyOf front := by
        rw [historyOf_append]
        show historyOf front ++ [value].filterMap receiptOf = _
        simp [receiptOf, hLooks]
      have hSeq : txLastReceiptSeq (front ++ [value]) = txLastReceiptSeq front := by
        simp [txLastReceiptSeq, hLooks]
      rw [hNone] at hAdmitted ⊢
      rw [hSeq]
      exact ih (fun other hOther => hLegible other (by simp [hOther])) hAdmitted

/-- Receipts of the phases carry no token budget. -/
theorem tokenBudgetAttachment_append (target : MissionTxState)
    (hPlain : ∀ value ∈ receipts, value.get? "kind" = none) :
    (contract.advance receipts target).tokenBudgetAttachment debug =
      contract.tokenBudgetAttachment debug := by
  unfold tokenBudgetAttachment
  show (contract.receipts ++ receipts).foldlM (readTokenBudget debug) none = _
  rw [foldlM_append]
  cases contract.receipts.foldlM (readTokenBudget debug) none with
  | error => rfl
  | ok attachment =>
    show receipts.foldlM (readTokenBudget debug) attachment = .ok attachment
    induction receipts with
    | nil => rfl
    | cons value _ ih =>
      have hKind : value.get? "kind" = none := hPlain value (by simp)
      have hSkip : readTokenBudget debug attachment value =
          .ok attachment := by
        rw [readTokenBudget, hKind]
        rfl
      rw [foldlM_cons, hSkip]
      exact ih fun other hOther => hPlain other (by simp [hOther])

/-- The receipts that a phase has built so far extend the journal of the contract, and
`nextSeq` is the last sequence number that was used. -/
structure Emitted (contract : MissionTxContract) (receipts : List Json) (nextSeq : UInt64) :
    Prop where
  legible : ∀ value ∈ receipts, Legible value
  plain : ∀ value ∈ receipts, value.get? "kind" = none
  admitted : Admitted (Admits contract.intent.txId contract.plan)
    (historyOf contract.receipts) (historyOf receipts)
  tip : IsTip (historyOf contract.receipts ++ historyOf receipts) nextSeq

theorem Lawful.emitted_nil (h : Lawful contract) :
    Emitted contract [] (txLastReceiptSeq contract.receipts) where
  legible := nofun
  plain := nofun
  admitted := trivial
  tip := by
    show IsTip (historyOf contract.receipts ++ []) _
    rw [append_nil]
    exact isTip_txLastReceiptSeq contract.receipts h.1 h.2

theorem toNat_succ (h : seq ≠ u64Max) : (seq + 1).toNat = seq.toNat + 1 := by
  have hNe : seq.toNat ≠ 2 ^ 64 - 1 := fun hEq => h (UInt64.toNat_inj.mp hEq)
  have hLt := seq.toNat_lt
  exact Nat.mod_eq_of_lt (by show seq.toNat + 1 < 2 ^ 64; omega)

/-- One more receipt: only its phase has to be admitted. -/
theorem Emitted.snoc {next : UInt64} (h : Emitted contract receipts seq)
    (hNext : txIncrementReceiptSeq seq = .ok next) {phase : String} {state : MissionTxState}
    {stepId : Option TxStepId} {outcome reasonCode : String} {errorCode : Option String}
    {decisionPath : String} {emittedAtMs : Int64} (hTime : ¬emittedAtMs < 0)
    (hPhase : ∀ receipt : TxReceipt, receipt.phase = phase → receipt.state = state → receipt.stepId
      = stepId → receipt.outcome = outcome → PhaseAdmits contract.plan (historyOf contract.receipts
      ++ historyOf receipts) receipt) :
    Emitted contract (receipts ++ [txBuildReceipt next phase contract.intent.txId
      contract.plan.planId state stepId outcome reasonCode errorCode decisionPath
      emittedAtMs]) next := by
  rcases refuseIf_bind_eq_ok.mp hNext with ⟨hRoom, hDone⟩
  cases hDone
  have hGrow : seq < seq + 1 := by
    rw [UInt64.lt_iff_toNat_lt, toNat_succ hRoom]
    omega
  have hParse := receiptOf_txBuildReceipt (seq + 1) phase contract.intent.txId
    contract.plan.planId state stepId outcome reasonCode errorCode decisionPath emittedAtMs
  have hHistory := historyOf_snoc_of_ok receipts rfl hParse
  have hSeq := h.tip.lt_iff.mp hGrow
  constructor
  · rw [forall_mem_append, forall_mem_singleton]
    exact ⟨h.legible, fun _ => ⟨_, hParse⟩⟩
  · rw [forall_mem_append, forall_mem_singleton]
    exact ⟨h.plain, rfl⟩
  · rw [hHistory, admitted_append]
    exact ⟨h.admitted, ⟨hTime, ⟨rfl, rfl⟩, hPhase _ rfl rfl rfl rfl, hSeq.1, hSeq.2⟩, trivial⟩
  · rw [hHistory, ← append_assoc]
    exact isTip_snoc hSeq.2

/-- Appending what a phase emitted keeps the contract valid. -/
theorem Emitted.validate_advance (hValid : contract.validate debug = .ok ()) {nextSeq : UInt64}
    (h : Emitted contract receipts nextSeq) (target : MissionTxState) :
    (contract.advance receipts target).validate debug = .ok () := by
  rw [validate_ok_iff] at hValid ⊢
  rcases hValid with ⟨hHeader, _, _, hLegible, hAdmitted⟩
  refine ⟨hHeader, rfl, ?_, forall_mem_append.mpr ⟨hLegible, h.legible⟩, ?_⟩
  · rwa [tokenBudgetAttachment_append target h.plain]
  · show Admitted _ [] (historyOf (contract.receipts ++ receipts))
    rw [historyOf_append, admitted_append]
    exact ⟨hAdmitted, h.admitted⟩

end FrankenTerm.Ports.PlanTxHistory
