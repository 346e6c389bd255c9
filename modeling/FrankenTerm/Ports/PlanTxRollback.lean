import FrankenTerm.Ports.PlanTxHistory

/-!
# Rolling back a transaction

`missionTxRollbackCommitReport` rebuilds a commit report from the receipts of a contract, and
`executeCompensationPhase` compensates the steps that this report calls committed.  The two
functions communicate only through appended receipts, so a retry has to find out from them
what has been undone already.

## Main results

* `rollbackCommitReport_reported` — every step of the plan is reported as the journal says.
* `compensate_reverse` — one attempt handles the committed steps in reverse plan order.
* `rollback_compensates_once` — over any number of attempts no step is compensated twice.
* `skipped_reason_is_free` — a skipped commit receipt may itself say `already_compensated`.
-/

namespace FrankenTerm.Ports.PlanTxRollback

open Verified.Serde Verified.Check Verified.Journal Verified.Loop PlanTx PlanTxHistory List

/-! ## The facts of a step -/

/-- The step of a commit attempt. -/
def commitStepId (receipt : TxReceipt) : Option TxStepId :=
  if receipt.phase = "commit" then receipt.stepId else none

/-- The step of a successful compensation. -/
def compensatedStepId (receipt : TxReceipt) : Option TxStepId :=
  if receipt.phase = "compensate" ∧ receipt.outcome = "compensated" then receipt.stepId else none

variable {stepId : TxStepId} {outcome : TxCommitStepOutcome}

variable {after before : Bool} {scan : RollbackScan} {receipt : TxReceipt}
  {contract' : MissionTxContract} {loop : CompensationLoop}

theorem compensatedStepId_eq_some :
    compensatedStepId receipt = some stepId ↔
      (receipt.phase = "compensate" ∧ receipt.outcome = "compensated") ∧
        receipt.stepId = some stepId :=
  Option.ite_none_right_eq_some

/-- The journal has a committed commit receipt of the step. -/
def HasCommitted (history : List TxReceipt) (stepId : TxStepId) : Prop :=
  ∃ receipt ∈ history, committedStepId receipt = some stepId

/-- The journal has a compensated receipt of the step. -/
def HasCompensated (history : List TxReceipt) (stepId : TxStepId) : Prop :=
  ∃ receipt ∈ history, compensatedStepId receipt = some stepId

section Lawful

variable {txId : TxId} {plan : TxPlan} {history : List TxReceipt}

theorem attempted_of_compensated (h : compensatedStepId receipt = some stepId) :
    attemptedStepId receipt = some stepId := by
  rcases compensatedStepId_eq_some.mp h with ⟨⟨hPhase, _⟩, hStep⟩
  exact attemptedStepId_eq_some.mpr ⟨hPhase, hStep⟩

/-- Only what was committed is compensated. -/
theorem HasCompensated.hasCommitted (hLaw : Admitted (Admits txId plan) [] history)
    (h : HasCompensated history stepId) : HasCommitted history stepId := by
  rcases h with ⟨receipt, hMem, hStep⟩
  rcases compensatedStepId_eq_some.mp hStep with ⟨⟨hPhase, _⟩, hOwn⟩
  rcases append_of_mem hMem with ⟨front, back, rfl⟩
  cases hLaw.admits_of_split.phase with
  | commit _ hOther | lifecycle hOther => exact absurd (hPhase.symm.trans hOther) (by decide)
  | compensate other _ _ hSame _ _ _ hCommitted =>
    have hEq : other = stepId := Option.some.inj (hSame.symm.trans hOwn)
    rcases hCommitted with ⟨earlier, hEarlier, hCommit⟩
    exact ⟨earlier, mem_append_left _ hEarlier, hEq ▸ hCommit⟩

/-- A success is admitted only before the first attempt to compensate. -/
theorem not_attempted_of_committed {past : List TxReceipt} (h : Admits txId plan past receipt)
    (hStep : committedStepId receipt = some stepId) :
    ∀ earlier ∈ past, attemptedStepId earlier ≠ some stepId := by
  rcases committedStepId_eq_some.mp hStep with ⟨⟨hPhase, hCommitted⟩, hOwn⟩
  cases h.phase with
  | commit other _ _ hSame _ _ hFresh =>
    have hEq : other = stepId := Option.some.inj (hSame.symm.trans hOwn)
    exact hEq ▸ hFresh hCommitted
  | compensate _ hOther | lifecycle hOther => exact absurd (hPhase.symm.trans hOther) (by decide)

/-- Every success of a step precedes every compensation of it. -/
theorem committed_before_attempted (hLaw : Admitted (Admits txId plan) [] history)
    {commit attempt : TxReceipt} (hCommit : commit ∈ history)
    (hCommitStep : committedStepId commit = some stepId) (hAttempt : attempt ∈ history)
    (hAttemptStep : attemptedStepId attempt = some stepId) : commit.seq < attempt.seq := by
  have hne : commit ≠ attempt := by
    rintro rfl
    have hPhase := (committedStepId_eq_some.mp hCommitStep).1.1
    exact absurd (hPhase.symm.trans (attemptedStepId_eq_some.mp hAttemptStep).1) (by decide)
  have hOrder := hLaw.related (fun earlier receipt => earlier.seq < receipt.seq ∧
      (committedStepId receipt = some stepId → attemptedStepId earlier ≠ some stepId))
    (fun past receipt hAdmits earlier hEarlier => ⟨hAdmits.later earlier hEarlier,
      fun hStep => not_attempted_of_committed hAdmits hStep earlier hEarlier⟩)
    hCommit hAttempt hne
  rcases hOrder with hLt | hLt
  · exact hLt.1
  · exact absurd hAttemptStep (hLt.2 hCommitStep)

end Lawful

/-! ## Reading the receipts back -/

/-- What the first loop remembers of the journal. -/
structure Facts (history : List TxReceipt) (scan : RollbackScan) : Prop where
  commits : Indexes commitStepId scan.latestCommitReceipts history
  committed : Indexes committedStepId scan.latestSuccessfulCommitReceipts history
  compensated : Indexes compensatedStepId scan.latestSuccessfulCompensationReceipts history

variable {debug : String → String} {contract : MissionTxContract} {report : TxCommitReport}
  {inputs : List TxCompensationStepInput} {history : List TxReceipt} {nowMs : Int64}
  {comp : TxCompensationReport} {completedAtMs : Int64}

theorem Facts.rollbackScanReceipt {scan' : RollbackScan} {item : Nat × TxReceipt}
    (h : Facts history scan) (hRun : rollbackScanReceipt contract scan item = .ok scan') :
    Facts (history ++ [item.2]) scan' := by
  unfold PlanTx.rollbackScanReceipt at hRun
  split at hRun
  next hPhase =>
    rcases bind_eq_ok.mp hRun with ⟨stepId, hStep, hRun⟩
    rw [okOr_eq_ok] at hStep
    rcases refuseIf_bind_eq_ok.mp hRun with ⟨_, hRun⟩
    cases hRun
    refine ⟨h.commits.insert (by simp [commitStepId, hPhase, hStep]), ?_,
      h.compensated.skip (by simp [compensatedStepId, hPhase])⟩
    by_cases hCommitted : item.2.outcome = "committed"
    · rw [if_pos hCommitted]
      exact h.committed.insert (by simp [committedStepId, hPhase, hCommitted, hStep])
    · rw [if_neg hCommitted]
      exact h.committed.skip (by simp [committedStepId, hCommitted])
  next hNotCommit =>
    split at hRun
    next hPhase =>
      rcases bind_eq_ok.mp hRun with ⟨stepId, hStep, hRun⟩
      rw [okOr_eq_ok] at hStep
      rcases bind_eq_ok.mp hRun with ⟨commitReceipt, _, hRun⟩
      rcases refuseIf_bind_eq_ok.mp hRun with ⟨_, hRun⟩
      cases hRun
      refine ⟨h.commits.skip (by simp [commitStepId, hPhase]),
        h.committed.skip (by simp [committedStepId, hPhase]), ?_⟩
      by_cases hCompensated : item.2.outcome = "compensated"
      · rw [if_pos hCompensated]
        exact h.compensated.insert (by simp [compensatedStepId, hPhase, hCompensated, hStep])
      · rw [if_neg hCompensated]
        exact h.compensated.skip (by simp [compensatedStepId, hCompensated])
    next hNotCompensate =>
      cases hRun
      exact ⟨h.commits.skip (by simp [commitStepId, hNotCommit]),
        h.committed.skip (by simp [committedStepId, hNotCommit]),
        h.compensated.skip (by simp [compensatedStepId, hNotCompensate])⟩

theorem facts_of_scan {validated : List (Nat × TxReceipt)}
    (hRun : validated.foldlM (rollbackScanReceipt contract) {} = .ok scan) :
    Facts (validated.map (·.2)) scan := by
  refine foldlM_ok (rollbackScanReceipt contract)
    (fun front scan => Facts (front.map (·.2)) scan) validated hRun ?_
    ⟨indexes_nil, indexes_nil, indexes_nil⟩
  intro front item scan scan' _ hFacts hStep
  rw [map_append]
  exact hFacts.rollbackScanReceipt hStep

/-! ## Step results -/

/-- How a journal reports a step. -/
inductive Reported (history : List TxReceipt) (stepId : TxStepId) : TxCommitStepOutcome → Prop where
  | committed (receipt : TxReceipt)
      (hLatest : latest committedStepId history stepId = some receipt)
      (hKept : ¬HasCompensated history stepId) :
      Reported history stepId (.committed receipt.reasonCode)
  | compensated (hCommitted : HasCommitted history stepId)
      (hUndone : HasCompensated history stepId) :
      Reported history stepId (.skipped "already_compensated")
  | failed (receipt : TxReceipt) (hNever : ¬HasCommitted history stepId)
      (hLatest : latest commitStepId history stepId = some receipt)
      (hOutcome : receipt.outcome = "failed") :
      Reported history stepId (.failed receipt.reasonCode)
  | skipped (receipt : TxReceipt) (hNever : ¬HasCommitted history stepId)
      (hLatest : latest commitStepId history stepId = some receipt)
      (hOutcome : receipt.outcome = "skipped") :
      Reported history stepId (.skipped receipt.reasonCode)

section Report

variable {txId : TxId} {plan : TxPlan}

/-- One step of a lawful journal. -/
theorem rollbackStep_reported (hLaw : Admitted (Admits txId plan) [] history)
    (hFacts : Facts history scan) {build build' : RollbackBuild} {step : TxStep}
    (hRun : rollbackStep scan build step = .ok build') :
    ∃ result, build'.stepResults = build.stepResults ++ [result] ∧
      result.stepId = step.stepId ∧ Reported history step.stepId result.outcome := by
  rcases bind_eq_ok.mp hRun with ⟨receipt, hReceipt, hRun⟩
  rcases bind_eq_ok.mp hReceipt with ⟨latestReceipt, hLatest, hDone⟩
  rw [okOr_eq_ok, hFacts.commits step.stepId] at hLatest
  rw [hFacts.committed step.stepId] at hDone
  cases hCommit : latest committedStepId history step.stepId with
  | some success =>
    -- the latest success speaks for the step, whatever was tried after it
    rw [hCommit] at hDone
    cases hDone
    have hSuccess := mem_of_latest hCommit
    have hHas : HasCommitted history step.stepId := ⟨success, hSuccess⟩
    have hOutcome : success.outcome = "committed" :=
      (committedStepId_eq_some.mp hSuccess.2).1.2
    cases hUndo : latest compensatedStepId history step.stepId with
    | some undo =>
      have hMem := mem_of_latest hUndo
      have hAfter : success.seq < undo.seq := committed_before_attempted hLaw hSuccess.1
        hSuccess.2 hMem.1 (attempted_of_compensated hMem.2)
      have hAlready : scan.alreadyCompensated step.stepId success = some undo := by
        rw [RollbackScan.alreadyCompensated, hFacts.compensated step.stepId, hUndo]
        simp [hAfter]
      simp only [Option.getD_some, hAlready] at hRun
      rcases refuseIf_bind_eq_ok.mp hRun with ⟨_, hRun⟩
      cases hRun
      exact ⟨_, rfl, rfl, .compensated hHas ⟨undo, hMem⟩⟩
    | none =>
      have hAlready : scan.alreadyCompensated step.stepId success = none := by
        rw [RollbackScan.alreadyCompensated, hFacts.compensated step.stepId, hUndo]
        rfl
      simp only [Option.getD_some, hAlready, if_pos hOutcome] at hRun
      cases hRun
      refine ⟨_, rfl, rfl, .committed success hCommit fun ⟨undo, hMem, hStep⟩ => ?_⟩
      exact latest_eq_none.mp hUndo undo hMem hStep
  | none =>
    rw [hCommit] at hDone
    cases hDone
    have hNever : ¬HasCommitted history step.stepId := fun ⟨success, hMem, hStep⟩ =>
      latest_eq_none.mp hCommit success hMem hStep
    have hNot : latestReceipt.outcome ≠ "committed" := by
      intro hOutcome
      have hMem := mem_of_latest hLatest
      rcases Option.ite_none_right_eq_some.mp hMem.2 with ⟨hPhase, hStep⟩
      exact hNever ⟨latestReceipt, hMem.1, committedStepId_eq_some.mpr ⟨⟨hPhase, hOutcome⟩, hStep⟩⟩
    have hUndo : latest compensatedStepId history step.stepId = none :=
      latest_eq_none.mpr fun undo hMem hStep =>
        hNever (HasCompensated.hasCommitted hLaw ⟨undo, hMem, hStep⟩)
    have hAlready : scan.alreadyCompensated step.stepId latestReceipt = none := by
      rw [RollbackScan.alreadyCompensated, hFacts.compensated step.stepId, hUndo]
      rfl
    simp only [Option.getD_none, hAlready, if_neg hNot] at hRun
    split at hRun
    next hFailed =>
      cases hRun
      exact ⟨_, rfl, rfl, .failed latestReceipt hNever hLatest hFailed⟩
    next =>
      split at hRun
      next hSkipped =>
        cases hRun
        exact ⟨_, rfl, rfl, .skipped latestReceipt hNever hLatest hSkipped⟩
      next => cases hRun

end Report

theorem Reported.isCommitted_iff (h : Reported history stepId outcome) :
    outcome.isCommitted ↔ HasCommitted history stepId ∧ ¬HasCompensated history stepId := by
  cases h with
  | committed receipt hLatest hKept =>
    exact iff_of_true rfl ⟨⟨receipt, mem_of_latest hLatest⟩, hKept⟩
  | compensated _ hUndone => exact iff_of_false nofun fun h => h.2 hUndone
  | failed _ hNever | skipped _ hNever => exact iff_of_false nofun fun h => hNever h.1

/-- The reason code of a skipped step is that of its compensation, or the one that its own
latest receipt carries. -/
theorem Reported.alreadyCompensated_iff (h : Reported history stepId outcome) :
    outcome = .skipped "already_compensated" ↔
      HasCommitted history stepId ∧ HasCompensated history stepId ∨
      ¬HasCommitted history stepId ∧ ∃ receipt,
        latest commitStepId history stepId = some receipt ∧ receipt.outcome = "skipped" ∧
          receipt.reasonCode = "already_compensated" := by
  cases h with
  | committed receipt hLatest hKept =>
    refine iff_of_false nofun ?_
    rintro (hBoth | hNever)
    · exact hKept hBoth.2
    · exact hNever.1 ⟨receipt, mem_of_latest hLatest⟩
  | compensated hCommitted hUndone => exact iff_of_true rfl (.inl ⟨hCommitted, hUndone⟩)
  | failed _ hNever hLatest hOutcome =>
    refine iff_of_false nofun ?_
    rintro (hBoth | ⟨_, other, hOther, hSkipped, _⟩)
    · exact hNever hBoth.1
    · rw [hLatest] at hOther
      cases hOther
      exact absurd (hOutcome.symm.trans hSkipped) (by decide)
  | skipped receipt hNever hLatest hOutcome =>
    constructor
    · intro hReason
      exact .inr ⟨hNever, receipt, hLatest, hOutcome, TxCommitStepOutcome.skipped.inj hReason⟩
    · rintro (hBoth | ⟨_, other, hOther, _, hReason⟩)
      · exact absurd hBoth.1 hNever
      · rw [hLatest] at hOther
        cases hOther
        rw [hReason]

/-- **A rebuilt report says of every step what the journal says**, in plan order. -/
theorem rollbackCommitReport_reported
    (hRun : missionTxRollbackCommitReport debug contract completedAtMs = .ok report) :
    report.stepResults.map (·.stepId) = contract.plan.stepIds ∧ ∀ result ∈ report.stepResults,
      Reported (historyOf contract.receipts) result.stepId result.outcome := by
  rcases refuseIf_bind_eq_ok.mp hRun with ⟨_, hRun⟩
  rcases unit_bind_eq_ok.mp hRun with ⟨hValid, hRun⟩
  rcases bind_eq_ok.mp hRun with ⟨validated, hValidated, hRun⟩
  rcases bind_eq_ok.mp hRun with ⟨scan, hScan, hRun⟩
  rcases refuseIf_bind_eq_ok.mp hRun with ⟨_, hRun⟩
  rcases bind_eq_ok.mp hRun with ⟨build, hBuild, hRun⟩
  cases hRun
  have hLaw : Lawful contract := (validate_ok_iff.mp hValid).2.2.2
  have hFacts := facts_of_scan hScan
  rw [validated_eq_history hValidated] at hFacts
  refine foldlM_ok (rollbackStep scan) (fun front build =>
    build.stepResults.map (·.stepId) = front.map (·.stepId) ∧ ∀ result ∈ build.stepResults,
      Reported (historyOf contract.receipts) result.stepId result.outcome)
    contract.plan.steps hBuild ?_ ⟨rfl, nofun⟩
  intro front step build build' _ ⟨hIds, hFront⟩ hStep
  rcases rollbackStep_reported hLaw.2 hFacts hStep with ⟨result, hResults, hId, hReported⟩
  rw [hResults, map_append, map_append, hIds, forall_mem_append, forall_mem_singleton,
    map_singleton, map_singleton, hId]
  exact ⟨rfl, hFront, hReported⟩

/-! ## One attempt -/

/-- How a phase moves on over a step: the flag says whether a failure was seen. -/
inductive Proceeds : Bool → TxCommitStepOutcome → Bool → Prop where
  | done (reasonCode : String) : Proceeds false (.committed reasonCode) false
  | fails (reasonCode : String) : Proceeds false (.failed reasonCode) true
  | skips (reasonCode : String) : Proceeds true (.skipped reasonCode) true

/-- A step succeeds only before the first failure. -/
theorem Proceeds.before_eq_false (h : Proceeds before outcome after)
    (hDone : outcome.isCommitted) : before = false := by
  cases h with
  | done => rfl
  | fails => rfl
  | skips => cases hDone

/-- Without a failure after the step, there was none before it and it succeeded. -/
theorem Proceeds.of_after_eq_false (h : Proceeds before outcome after) (hAfter : after = false) :
    before = false ∧ outcome.isCommitted := by
  cases h with
  | done => exact ⟨rfl, rfl⟩
  | fails | skips => cases hAfter

/-- One turn of the compensation loop. -/
structure CompensationTurn (contract : MissionTxContract)
    (inputs : List TxCompensationStepInput) (nowMs : Int64) (loop : CompensationLoop)
    (step : TxCommitStepResult) (verdict : StepVerdict) (loop' : CompensationLoop) : Prop where
  results : loop'.stepResults = loop.stepResults ++ [⟨step.stepId, step.ordinal,
    verdict.outcome, verdict.decisionPath, verdict.completedAtMs⟩]
  proceeds : Proceeds loop.failureSeen verdict.outcome loop'.failureSeen
  time : verdict.completedAtMs = nowMs ∨
    ∃ input ∈ inputs, verdict.completedAtMs = input.completedAtMs
  receipts :
    (txLatestReceiptMatches contract "compensate" step.stepId verdict.outcome.compensateText =
        true ∧ loop'.receipts = loop.receipts ∧ loop'.nextSeq = loop.nextSeq) ∨
    (txIncrementReceiptSeq loop.nextSeq = .ok loop'.nextSeq ∧
      loop'.receipts = loop.receipts ++ [txBuildReceipt loop'.nextSeq "compensate"
        contract.intent.txId contract.plan.planId contract.lifecycleState (some step.stepId)
        verdict.outcome.compensateText verdict.reasonCode verdict.errorCode
        verdict.decisionPath verdict.completedAtMs])

private theorem compensationVerdict_spec (loop : CompensationLoop)
    (inputs : List TxCompensationStepInput) (stepId : TxStepId) (nowMs : Int64) :
    ∃ after verdict, compensationVerdict loop
        (inputs.find? fun input => input.forStepId = stepId) nowMs = (after, verdict) ∧
      after.receipts = loop.receipts ∧ after.nextSeq = loop.nextSeq ∧
      after.stepResults = loop.stepResults ∧
      Proceeds loop.failureSeen verdict.outcome after.failureSeen ∧
      (verdict.completedAtMs = nowMs ∨
        ∃ input ∈ inputs, verdict.completedAtMs = input.completedAtMs) := by
  unfold compensationVerdict
  cases hSeen : loop.failureSeen with
  | true => exact ⟨_, _, rfl, rfl, rfl, rfl, hSeen.symm ▸ .skips _, .inl rfl⟩
  | false =>
    cases hFind : inputs.find? fun input => input.forStepId = stepId with
    | none => exact ⟨_, _, rfl, rfl, rfl, rfl, .fails _, .inl rfl⟩
    | some input =>
      have hMem := mem_of_find?_eq_some hFind
      dsimp only
      cases input.success with
      | true =>
        exact ⟨_, _, rfl, rfl, rfl, rfl, hSeen.symm ▸ .done _, .inr ⟨input, hMem, rfl⟩⟩
      | false => exact ⟨_, _, rfl, rfl, rfl, rfl, .fails _, .inr ⟨input, hMem, rfl⟩⟩

theorem compensationStep_turn {loop' : CompensationLoop} {step : TxCommitStepResult}
    (hRun : compensationStep contract inputs nowMs loop step = .ok loop') :
    ∃ verdict, CompensationTurn contract inputs nowMs loop step verdict loop' := by
  rcases compensationVerdict_spec loop inputs step.stepId nowMs with
    ⟨after, verdict, hVerdict, hReceipts, hSeq, hResults, hProceeds, hTime⟩
  unfold compensationStep at hRun
  simp only [hVerdict] at hRun
  refine ⟨verdict, ?_⟩
  split at hRun
  next hMatches =>
    cases hRun
    exact ⟨by rw [hResults], hProceeds, hTime, .inl ⟨hMatches, hReceipts, hSeq⟩⟩
  next =>
    rcases bind_eq_ok.mp hRun with ⟨next, hNext, hRun⟩
    cases hRun
    refine ⟨by rw [hResults], hProceeds, hTime, .inr ⟨?_, by rw [hReceipts]⟩⟩
    rw [← hSeq]
    exact hNext

/-- What an accepted compensation phase checked, and the loop it ran. -/
structure CompensationRun (debug : String → String) (contract : MissionTxContract)
    (report : TxCommitReport) (inputs : List TxCompensationStepInput) (nowMs : Int64)
    (comp : TxCompensationReport) (loop : CompensationLoop) : Prop where
  state : contract.lifecycleState = .compensating
  valid : contract.validate debug = .ok ()
  run : report.committedSteps.reverse.foldlM (compensationStep contract inputs nowMs)
    { nextSeq := txLastReceiptSeq contract.receipts } = .ok loop
  results : comp.stepResults = loop.stepResults
  receipts : comp.receipts = loop.receipts

theorem executeCompensationPhase_run
    (hRun : executeCompensationPhase debug contract report inputs nowMs = .ok comp) :
    ∃ loop, CompensationRun debug contract report inputs nowMs comp loop := by
  rcases refuseIf_bind_eq_ok.mp hRun with ⟨hState, hRun⟩
  rcases refuseIf_bind_eq_ok.mp hRun with ⟨_, hRun⟩
  rcases unit_bind_eq_ok.mp hRun with ⟨hValid, hRun⟩
  rcases unit_bind_eq_ok.mp hRun with ⟨_, hRun⟩
  rcases unit_bind_eq_ok.mp hRun with ⟨_, hRun⟩
  split at hRun
  next hEmpty =>
    cases hRun
    refine ⟨{ nextSeq := txLastReceiptSeq contract.receipts }, not_not.mp hState, hValid, ?_,
      rfl, rfl⟩
    rw [isEmpty_iff.mp hEmpty]
    rfl
  next =>
    split at hRun
    next => cases hRun
    next =>
      rcases bind_eq_ok.mp hRun with ⟨loop, hLoop, hRun⟩
      cases hRun
      exact ⟨loop, not_not.mp hState, hValid, hLoop, rfl, rfl⟩

/-- **One attempt**: the committed steps in reverse order, and nothing is compensated after
the first failure. -/
theorem compensate_reverse
    (hRun : executeCompensationPhase debug contract report inputs nowMs = .ok comp) :
    comp.stepResults.map (·.stepId) = (report.committedSteps.map (·.stepId)).reverse ∧
      comp.stepResults.Pairwise fun earlier later =>
        later.outcome.isCommitted → earlier.outcome.isCommitted := by
  rcases executeCompensationPhase_run hRun with ⟨loop, hLoop⟩
  rw [hLoop.results, ← map_reverse]
  -- as long as no failure was seen, everything before was compensated
  have hEnd := foldlM_ok (compensationStep contract inputs nowMs)
    (fun front loop => loop.stepResults.map (·.stepId) = front.map (·.stepId) ∧
      (loop.failureSeen = false → ∀ result ∈ loop.stepResults, result.outcome.isCommitted) ∧
      loop.stepResults.Pairwise fun earlier later =>
        later.outcome.isCommitted → earlier.outcome.isCommitted)
    _ hLoop.run ?_ ⟨rfl, fun _ => nofun, .nil⟩
  · exact ⟨hEnd.1, hEnd.2.2⟩
  intro front step loop loop' _ ⟨hIds, hClean, hPairs⟩ hStep
  rcases compensationStep_turn hStep with ⟨verdict, hTurn⟩
  rw [hTurn.results]
  refine ⟨by rw [map_append, map_append, hIds]; rfl, fun hSeen => ?_, ?_⟩
  · rcases hTurn.proceeds.of_after_eq_false hSeen with ⟨hBefore, hDone⟩
    exact forall_mem_append.mpr ⟨hClean hBefore, forall_mem_singleton.mpr hDone⟩
  · refine pairwise_append.mpr ⟨hPairs, pairwise_singleton _ _, ?_⟩
    intro earlier hEarlier later hLater hDone
    rw [mem_singleton.mp hLater] at hDone
    exact hClean (hTurn.proceeds.before_eq_false hDone) earlier hEarlier

/-! ## Any number of attempts -/

/-- How often the journal records that the step was compensated. -/
def compensatedCount (values : List Json) (stepId : TxStepId) : Nat :=
  (historyOf values).countP fun receipt => compensatedStepId receipt = some stepId

theorem compensatedCount_append (front back : List Json) (stepId : TxStepId) :
    compensatedCount (front ++ back) stepId =
      compensatedCount front stepId + compensatedCount back stepId := by
  rw [compensatedCount, historyOf_append, countP_append]
  rfl

theorem compensatedCount_pos {values : List Json} :
    0 < compensatedCount values stepId ↔ HasCompensated (historyOf values) stepId := by
  rw [compensatedCount, countP_pos_iff]
  simp [HasCompensated]

/-- An attempt writes at most one receipt for each committed step. -/
theorem CompensationRun.count_le (h : CompensationRun debug contract report inputs nowMs comp loop)
    (stepId : TxStepId) :
    compensatedCount comp.receipts stepId ≤
      (report.committedSteps.map (·.stepId)).count stepId := by
  rw [h.receipts, ← count_reverse, ← map_reverse]
  refine foldlM_ok (compensationStep contract inputs nowMs)
    (fun front loop => compensatedCount loop.receipts stepId ≤
      (front.map (·.stepId)).count stepId) _ h.run ?_ (Nat.le_refl _)
  intro front step loop loop' _ hCount hStep
  rcases compensationStep_turn hStep with ⟨verdict, hTurn⟩
  rw [map_append, count_append]
  rcases hTurn.receipts with ⟨_, hSame, _⟩ | ⟨_, hNew⟩
  · rw [hSame]
    omega
  · rw [hNew, compensatedCount_append]
    refine Nat.add_le_add hCount ?_
    have hParse := receiptOf_txBuildReceipt loop'.nextSeq "compensate" contract.intent.txId
      contract.plan.planId contract.lifecycleState (some step.stepId)
      verdict.outcome.compensateText verdict.reasonCode verdict.errorCode verdict.decisionPath
      verdict.completedAtMs
    have hHistory := historyOf_snoc_of_ok [] rfl hParse
    rw [nil_append] at hHistory
    rw [compensatedCount, hHistory, map_singleton]
    show countP _ ([] ++ [_]) ≤ _
    rw [nil_append, countP_singleton, count_singleton]
    by_cases hEq : step.stepId = stepId
    · rw [hEq]
      split <;> simp
    · rw [if_neg (by
        intro hStep
        have hOwn := (compensatedStepId_eq_some.mp (of_decide_eq_true hStep)).2
        exact hEq (Option.some.inj hOwn))]
      exact Nat.zero_le _

/-- One rollback attempt: rebuild the report, compensate with any inputs, append the
receipts and leave the contract in any state. -/
inductive RollbackAttempt (debug : String → String) :
    MissionTxContract → MissionTxContract → Prop where
  | attempt (contract : MissionTxContract) (completedAtMs nowMs : Int64)
      (report : TxCommitReport) (inputs : List TxCompensationStepInput)
      (comp : TxCompensationReport) (state : MissionTxState)
      (hReport : missionTxRollbackCommitReport debug contract completedAtMs = .ok report)
      (hRun : executeCompensationPhase debug contract report inputs nowMs = .ok comp) :
      RollbackAttempt debug contract (contract.advance comp.receipts state)

/-- An attempt compensates a step at most once, and not at all when it was compensated. -/
theorem RollbackAttempt.count (h : RollbackAttempt debug contract contract') (stepId : TxStepId) :
    compensatedCount contract'.receipts stepId ≤
        compensatedCount contract.receipts stepId + 1 ∧
      (0 < compensatedCount contract.receipts stepId → compensatedCount contract'.receipts stepId =
          compensatedCount contract.receipts stepId) := by
  cases h with
  | attempt _ _ report _ comp _ hReport hRun =>
    rcases executeCompensationPhase_run hRun with ⟨loop, hLoop⟩
    have hCount := hLoop.count_le stepId
    show compensatedCount (contract.receipts ++ comp.receipts) stepId ≤ _ ∧
      (_ → compensatedCount (contract.receipts ++ comp.receipts) stepId = _)
    rw [compensatedCount_append]
    constructor
    · have hHeader := (validate_ok_iff.mp hLoop.valid).1
      have hNodup : (report.committedSteps.map (·.stepId)).Nodup := by
        refine List.Nodup.sublist (filter_sublist.map _) ?_
        rw [(rollbackCommitReport_reported hReport).1]
        exact hHeader.nodup_stepIds
      have hOnce := nodup_iff_count_le_one.mp hNodup stepId
      omega
    · intro hPos
      have hUndone := compensatedCount_pos.mp hPos
      have hAbsent : stepId ∉ report.committedSteps.map (·.stepId) := by
        intro hMem
        rcases mem_map.mp hMem with ⟨result, hResult, rfl⟩
        rcases mem_filter.mp hResult with ⟨hIn, hCommitted⟩
        have hReported := (rollbackCommitReport_reported hReport).2 result hIn
        exact (hReported.isCommitted_iff.mp hCommitted).2 hUndone
      rw [count_eq_zero.mpr hAbsent] at hCount
      omega

/-- **Exact reconstruction and at most one compensation.**  A rebuilt report has one result
for each step of the plan, in plan order: committed exactly when the journal has a success
and no compensation of the step, and skipped as already compensated exactly when it has
both, or has no success and the latest commit receipt of the step is a skipped one with that
very reason.  An attempt handles the committed steps in reverse order and compensates nothing
after a failure.  Over any number of attempts every step acquires at most one compensated
receipt, and none when it had one. -/
theorem rollback_compensates_once (debug : String → String) (contract : MissionTxContract) :
    (∀ completedAtMs report,
      missionTxRollbackCommitReport debug contract completedAtMs = .ok report →
      report.stepResults.map (·.stepId) = contract.plan.stepIds ∧
      (∀ result ∈ report.stepResults, (result.outcome.isCommitted = true ↔
          HasCommitted (historyOf contract.receipts) result.stepId ∧
            ¬HasCompensated (historyOf contract.receipts) result.stepId) ∧
        (result.outcome = .skipped "already_compensated" ↔
          HasCommitted (historyOf contract.receipts) result.stepId ∧
            HasCompensated (historyOf contract.receipts) result.stepId ∨
          ¬HasCommitted (historyOf contract.receipts) result.stepId ∧ ∃ receipt,
            latest commitStepId (historyOf contract.receipts) result.stepId = some receipt ∧
              receipt.outcome = "skipped" ∧ receipt.reasonCode = "already_compensated")) ∧
      ∀ inputs nowMs comp, executeCompensationPhase debug contract report inputs nowMs = .ok comp →
        comp.stepResults.map (·.stepId) = (report.committedSteps.map (·.stepId)).reverse ∧
          comp.stepResults.Pairwise fun earlier later =>
            later.outcome.isCommitted = true → earlier.outcome.isCommitted = true) ∧
    ∀ contract', Relation.ReflTransGen (RollbackAttempt debug) contract contract' →
      ∀ stepId, compensatedCount contract'.receipts stepId ≤
          compensatedCount contract.receipts stepId + 1 ∧
        (0 < compensatedCount contract.receipts stepId →
          compensatedCount contract'.receipts stepId =
            compensatedCount contract.receipts stepId) := by
  refine ⟨fun completedAtMs report hReport =>
      ⟨(rollbackCommitReport_reported hReport).1, ?_, ?_⟩, fun contract' hAttempts stepId => ?_⟩
  · intro result hResult
    have hReported := (rollbackCommitReport_reported hReport).2 result hResult
    exact ⟨hReported.isCommitted_iff, hReported.alreadyCompensated_iff⟩
  · intro inputs nowMs comp hRun
    exact compensate_reverse hRun
  · induction hAttempts with
    | refl => exact ⟨Nat.le_succ _, fun _ => rfl⟩
    | tail _ hLast =>
      have hStep := hLast.count stepId
      omega

/-! ### Two contracts -/

/-- A plan of two steps, both with a compensation. -/
def twoStepPlan : TxPlan where
  planId := "plan-1"
  txId := "tx-1"
  steps := [⟨"step-1", 1⟩, ⟨"step-2", 2⟩]
  compensations := [⟨"step-1"⟩, ⟨"step-2"⟩]

/-- The commit receipt of a step of that plan. -/
def commitReceipt (seq : UInt64) (stepId : TxStepId) (outcome reasonCode : String) : Json :=
  txBuildReceipt seq "commit" "tx-1" "plan-1" .committing (some stepId) outcome reasonCode none
    "commit_phase" 10

/-- A contract of that plan, with the outcome that goes with its state. -/
def twoStepContract (state : MissionTxState) (receipts : List Json) : MissionTxContract where
  txVersion := 1
  intent := ⟨"tx-1", "corr-1"⟩
  plan := twoStepPlan
  lifecycleState := state
  outcome := state.expectedOutcome
  receipts

/-- Both steps were committed. -/
def committedContract : MissionTxContract :=
  twoStepContract .compensating
    [commitReceipt 1 "step-1" "committed" "ok", commitReceipt 2 "step-2" "committed" "ok"]

/-- The executor undoes the second step and fails on the first. -/
def partialInputs : List TxCompensationStepInput :=
  [⟨"step-1", false, "undo_failed", some "E1", 20⟩, ⟨"step-2", true, "undone", none, 20⟩]

/-- A partial rollback of both steps. -/
theorem rollback_compensates_once_partial :
    ∃ report comp, missionTxRollbackCommitReport id committedContract 30 = .ok report ∧
      executeCompensationPhase id committedContract report partialInputs 30 = .ok comp ∧
      comp.stepResults.map (·.stepId) = (report.committedSteps.map (·.stepId)).reverse ∧
      compensatedCount (committedContract.advance comp.receipts .failed).receipts "step-2" ≤
        compensatedCount committedContract.receipts "step-2" + 1 := by
  have hBoth : ((missionTxRollbackCommitReport id committedContract 30).toOption.bind
      fun report => (executeCompensationPhase id committedContract report partialInputs
        30).toOption).isSome := by decide +kernel
  rcases Option.isSome_iff_exists.mp hBoth with ⟨comp, hComp⟩
  rcases Option.bind_eq_some_iff.mp hComp with ⟨report, hReport, hRun⟩
  rw [toOption_eq_some] at hReport hRun
  have hOnce := rollback_compensates_once id committedContract
  exact ⟨report, comp, hReport, hRun, ((hOnce.1 30 report hReport).2.2 partialInputs 30 comp hRun).1,
    (hOnce.2 _ (.single (.attempt committedContract 30 30 report partialInputs comp .failed
      hReport hRun)) "step-2").1⟩

/-- The reason code of a skipped receipt is free text: a step that was never committed is
reported with the reason of a compensated one. -/
theorem skipped_reason_is_free :
    ¬∀ (contract : MissionTxContract) (completedAtMs : Int64) (report : TxCommitReport),
      missionTxRollbackCommitReport id contract completedAtMs = .ok report →
      ∀ result ∈ report.stepResults, (result.outcome = .skipped "already_compensated" ↔
          HasCommitted (historyOf contract.receipts) result.stepId ∧
            HasCompensated (historyOf contract.receipts) result.stepId) := by
  intro hAll
  let contract := twoStepContract .failed [commitReceipt 1 "step-1" "failed" "boom",
    commitReceipt 2 "step-2" "skipped" "already_compensated"]
  have hReport : ∃ report ∈ (missionTxRollbackCommitReport id contract 30).toOption,
      ∃ result ∈ report.stepResults, result.stepId = "step-2" ∧
        result.outcome = .skipped "already_compensated" := by decide +kernel
  have hNever : ∀ receipt ∈ historyOf contract.receipts,
      committedStepId receipt ≠ some "step-2" := by decide +kernel
  rcases hReport with ⟨report, hReport, result, hResult, hStep, hOutcome⟩
  have hBoth := (hAll contract 30 report (toOption_eq_some.mp hReport) result hResult).mp hOutcome
  rcases hBoth.1 with ⟨receipt, hMem, hCommitted⟩
  exact hNever receipt hMem (hStep ▸ hCommitted)

end FrankenTerm.Ports.PlanTxRollback
