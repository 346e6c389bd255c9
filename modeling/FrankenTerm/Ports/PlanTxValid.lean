import FrankenTerm.Ports.PlanTxRollback

/-!
# Phases keep a contract valid

The validator of `plan.rs` and the phase reducers check different things, and a contract is
validated again whenever it is loaded.  Here the two sides are compared: the receipts of an
accepted phase extend the journal of a valid contract lawfully, with one exception.  The
compensation phase does not ask whether a committed step has a declared compensation; the
execution engine does so before it calls the phase.  For a step without one the phase still
writes a receipt, which the validator then refuses.

## Main results

* `executeCommitPhase_emitted` — the receipts of a commit phase.
* `compensation_emitted` — those of a compensation phase.
* `phases_keep_valid` — the contract after a phase, and after any run of phases.
* `undeclared_compensation_invalid` — the exception.
-/

namespace FrankenTerm.Ports.PlanTxValid

open Verified.Serde Verified.Check Verified.Journal Verified.Loop
open PlanTx PlanTxHistory PlanTxRollback List

/-! ## The commit phase -/

/-- No compensation of the contract was tried. -/
def NeverCompensated (contract : MissionTxContract) : Prop :=
  ∀ receipt ∈ historyOf contract.receipts, receipt.phase ≠ "compensate"

/-- What the loops of the commit phase keep: the receipts so far extend the journal, and
they are commit receipts. -/
def CommitEmitted (contract : MissionTxContract) (receipts : List Json) (nextSeq : UInt64) :
    Prop :=
  Emitted contract receipts nextSeq ∧ ∀ receipt ∈ historyOf receipts, receipt.phase = "commit"

variable {contract : MissionTxContract}

/-- One more commit receipt of a step of the plan. -/
theorem CommitEmitted.snoc {receipts : List Json} {seq next : UInt64}
    (h : CommitEmitted contract receipts seq) (hNever : NeverCompensated contract)
    (hNext : txIncrementReceiptSeq seq = .ok next) {stepId : TxStepId}
    (hStep : stepId ∈ contract.plan.stepIds) {outcome : String}
    (hOutcome : outcome ∈ ["committed", "failed", "skipped"]) {reasonCode : String}
    {errorCode : Option String} {decisionPath : String} {emittedAtMs : Int64}
    (hTime : ¬emittedAtMs < 0) :
    CommitEmitted contract (receipts ++ [txBuildReceipt next "commit" contract.intent.txId
      contract.plan.planId .committing (some stepId) outcome reasonCode errorCode decisionPath
      emittedAtMs]) next := by
  refine ⟨h.1.snoc hNext hTime fun receipt hPhase hState hOwn hText => ?_, ?_⟩
  · refine .commit stepId hPhase hState hOwn hStep (hText ▸ hOutcome) fun _ earlier hEarlier => ?_
    intro hAttempt
    have hCompensate := (attemptedStepId_eq_some.mp hAttempt).1
    rcases mem_append.mp hEarlier with hOld | hNew
    · exact hNever earlier hOld hCompensate
    · exact absurd ((h.2 earlier hNew).symm.trans hCompensate) (by decide)
  · rw [historyOf_snoc_of_ok receipts rfl (receiptOf_txBuildReceipt ..), forall_mem_append,
      forall_mem_singleton]
    exact ⟨h.2, rfl⟩

theorem Lawful.commitEmitted_nil (h : Lawful contract) :
    CommitEmitted contract [] (txLastReceiptSeq contract.receipts) :=
  ⟨h.emitted_nil, nofun⟩

theorem mem_stepIds {plan : TxPlan} {step : TxStep} (h : step ∈ plan.steps) :
    step.stepId ∈ plan.stepIds :=
  mem_map_of_mem h

theorem mem_of_isPrefix {α : Type} {front : List α} {a : α} {xs : List α}
    (h : front ++ [a] <+: xs) : a ∈ xs :=
  h.subset (by simp)

theorem txBlockedCommitReport_emitted (hLaw : Lawful contract) (hNever : NeverCompensated contract)
    {outcome : TxCommitOutcome} {reasonCode : String} {errorCode : Option String}
    {decisionPath : String} {nowMs : Int64} (hNow : ¬nowMs < 0) {report : TxCommitReport}
    (hRun : txBlockedCommitReport contract outcome reasonCode errorCode decisionPath nowMs = .ok
      report) : ∃ nextSeq, CommitEmitted contract report.receipts nextSeq := by
  rcases bind_eq_ok.mp hRun with ⟨⟨nextSeq, stepResults, receipts⟩, hLoop, hDone⟩
  cases hDone
  refine ⟨nextSeq, foldlM_ok _ (fun _ state => CommitEmitted contract state.2.2 state.1) _ hLoop
    ?_ (Lawful.commitEmitted_nil hLaw)⟩
  intro front step state state' hFront hEmitted hStep
  rcases bind_eq_ok.mp hStep with ⟨next, hNext, hDone⟩
  cases hDone
  exact hEmitted.snoc hNever hNext (mem_stepIds (mem_of_isPrefix hFront)) (by decide) hNow

/-- A verdict changes counters only, and its time is that of an input or of the call. -/
private theorem commitVerdict_spec (loop : CommitLoop) (step : TxStep)
    (inputs : List TxCommitStepInput) (nowMs : Int64) :
    ∃ after verdict, commitVerdict loop step
        (inputs.find? fun input => input.stepId = step.stepId) nowMs = (after, verdict) ∧
      after.receipts = loop.receipts ∧ after.nextSeq = loop.nextSeq ∧
      (verdict.completedAtMs = nowMs ∨
        ∃ input ∈ inputs, verdict.completedAtMs = input.completedAtMs) := by
  unfold commitVerdict
  cases loop.failureSeen with
  | true => exact ⟨_, _, rfl, rfl, rfl, .inl rfl⟩
  | false =>
    cases hFind : inputs.find? fun input => input.stepId = step.stepId with
    | none => exact ⟨_, _, rfl, rfl, rfl, .inl rfl⟩
    | some input =>
      have hMem := mem_of_find?_eq_some hFind
      dsimp only
      cases input.success with
      | true | false => exact ⟨_, _, rfl, rfl, rfl, .inr ⟨input, hMem, rfl⟩⟩

theorem commitText_mem (outcome : TxCommitStepOutcome) :
    outcome.commitText ∈ ["committed", "failed", "skipped"] := by
  cases outcome <;> simp [TxCommitStepOutcome.commitText]

section Commit

variable {debug : String → String}
  {inputs : List TxCommitStepInput} {nowMs : Int64} (hLaw : Lawful contract)
  (hNever : NeverCompensated contract) (hNow : ¬nowMs < 0)
  (hTimes : ∀ input ∈ inputs, ¬input.completedAtMs < 0)

include hLaw hNever hNow hTimes

theorem commitAll_emitted {report : TxCommitReport}
    (hRun : commitAll contract inputs nowMs = .ok report) :
    ∃ nextSeq, CommitEmitted contract report.receipts nextSeq := by
  rcases bind_eq_ok.mp hRun with ⟨loop, hLoop, hDone⟩
  cases hDone
  refine ⟨loop.nextSeq, foldlM_ok (commitStep contract inputs nowMs)
    (fun _ loop => CommitEmitted contract loop.receipts loop.nextSeq) _ hLoop ?_
    (Lawful.commitEmitted_nil hLaw)⟩
  intro front step loop loop' hFront hEmitted hStep
  rcases commitVerdict_spec loop step inputs nowMs with
    ⟨after, verdict, hVerdict, hReceipts, hSeq, hTime⟩
  unfold commitStep at hStep
  simp only [hVerdict] at hStep
  rcases bind_eq_ok.mp hStep with ⟨next, hNext, hDone⟩
  cases hDone
  rw [hSeq] at hNext
  rw [hReceipts]
  refine hEmitted.snoc hNever hNext (mem_stepIds (mem_of_isPrefix hFront)) (commitText_mem _) ?_
  rcases hTime with hEq | ⟨input, hInput, hEq⟩
  · rwa [hEq]
  · rw [hEq]
    exact hTimes input hInput

/-- The receipts of an accepted commit phase extend the journal. -/
theorem executeCommitPhase_emitted {killSwitch : MissionKillSwitchLevel} {paused : Bool}
    {report : TxCommitReport}
    (hRun : executeCommitPhase debug contract inputs killSwitch paused nowMs = .ok report) :
    ∃ nextSeq, CommitEmitted contract report.receipts nextSeq := by
  rcases refuseIf_bind_eq_ok.mp hRun with ⟨_, hRun⟩
  rcases refuseIf_bind_eq_ok.mp hRun with ⟨_, hRun⟩
  rcases unit_bind_eq_ok.mp hRun with ⟨_, hRun⟩
  rcases unit_bind_eq_ok.mp hRun with ⟨_, hRun⟩
  split at hRun
  next => exact txBlockedCommitReport_emitted hLaw hNever hNow hRun
  next =>
    split at hRun
    next => exact txBlockedCommitReport_emitted hLaw hNever hNow hRun
    next =>
      split at hRun
      next => cases hRun
      next => exact commitAll_emitted hLaw hNever hNow hTimes hRun

end Commit

/-! ## The compensation phase -/

/-- Every step that the report calls committed has a declared compensation. -/
def Declared (contract : MissionTxContract) (report : TxCommitReport) : Prop :=
  ∀ step ∈ report.committedSteps, step.stepId ∈ contract.plan.compensationStepIds

theorem compensateText_mem (outcome : TxCommitStepOutcome) :
    outcome.compensateText ∈ ["compensated", "failed", "skipped"] := by
  cases outcome <;> simp [TxCommitStepOutcome.compensateText]

/-- A receipt that is not written again is in the journal. -/
theorem attempted_of_matches (hLaw : Lawful contract) {stepId outcome : String}
    (h : txLatestReceiptMatches contract "compensate" stepId outcome) :
    ∃ receipt ∈ historyOf contract.receipts, attemptedStepId receipt = some stepId := by
  unfold txLatestReceiptMatches at h
  split at h
  next value hFind =>
    have hMem : value ∈ contract.receipts :=
      mem_reverse.mp (mem_of_find?_eq_some hFind)
    have hFields : (value.get? "phase").bind Json.asStr? = some "compensate" ∧
        (value.get? "step_id").bind Json.asStr? = some stepId := by
      simpa using find?_some hFind
    have hPhase := eq_str_of_asStr? hFields.1
    have hStep := eq_str_of_asStr? hFields.2
    have hLooks : looksLikePersistedTxReceipt value := by
      simp [looksLikePersistedTxReceipt, hPhase]
    rcases hLaw.1 value hMem hLooks with ⟨receipt, hParse⟩
    rcases fields_of_ofJson hParse with ⟨_, hReadPhase, hReadStep⟩
    rw [field, hPhase] at hReadPhase
    rw [optField, hStep] at hReadStep
    refine ⟨receipt, mem_filterMap.mpr ⟨value, hMem, ?_⟩, attemptedStepId_eq_some.mpr
      ⟨(Except.ok.inj hReadPhase).symm, (Except.ok.inj hReadStep).symm⟩⟩
    rw [receiptOf, if_pos hLooks, hParse]
    rfl
  next => cases h

/-- A lawful journal has compensation receipts of declared compensations only. -/
theorem declared_of_attempted (hLaw : Lawful contract) {receipt : TxReceipt}
    (hMem : receipt ∈ historyOf contract.receipts) {stepId : TxStepId}
    (hStep : attemptedStepId receipt = some stepId) :
    stepId ∈ contract.plan.compensationStepIds := by
  rcases attemptedStepId_eq_some.mp hStep with ⟨hPhase, hOwn⟩
  rcases append_of_mem hMem with ⟨front, back, hSplit⟩
  have hAdmitted := hLaw.2
  rw [hSplit] at hAdmitted
  cases hAdmitted.admits_of_split.phase with
  | commit _ hOther | lifecycle hOther => exact absurd (hPhase.symm.trans hOther) (by decide)
  | compensate _ _ _ hSame _ hDeclared =>
    exact Option.some.inj (hSame.symm.trans hOwn) ▸ hDeclared

section Compensation

variable {debug : String → String} {completedAtMs nowMs : Int64}
  {report : TxCommitReport} {inputs : List TxCompensationStepInput}
  {comp : TxCompensationReport}
  (hReport : missionTxRollbackCommitReport debug contract completedAtMs = .ok report)
  (hRun : executeCompensationPhase debug contract report inputs nowMs = .ok comp)

include hReport hRun

/-- The receipts of a compensation phase extend the journal when every committed step has a
declared compensation. -/
theorem compensation_emitted (hNow : ¬nowMs < 0)
    (hTimes : ∀ input ∈ inputs, ¬input.completedAtMs < 0) (hDeclared : Declared contract report) :
    ∃ nextSeq, Emitted contract comp.receipts nextSeq := by
  rcases executeCompensationPhase_run hRun with ⟨loop, hLoop⟩
  have hLaw : Lawful contract := (validate_ok_iff.mp hLoop.valid).2.2.2
  rw [hLoop.receipts]
  refine ⟨loop.nextSeq, foldlM_ok (compensationStep contract inputs nowMs)
    (fun _ loop => Emitted contract loop.receipts loop.nextSeq) _ hLoop.run ?_ hLaw.emitted_nil⟩
  intro front step loop loop' hFront hEmitted hStep
  have hMem : step ∈ report.committedSteps := mem_reverse.mp (mem_of_isPrefix hFront)
  rcases mem_filter.mp hMem with ⟨hResult, hCommitted⟩
  have hReported := rollbackCommitReport_reported hReport
  have hFacts := (hReported.2 step hResult).isCommitted_iff.mp hCommitted
  have hKnown : step.stepId ∈ contract.plan.stepIds := by
    rw [← hReported.1]
    exact mem_map_of_mem hResult
  rcases compensationStep_turn hStep with ⟨verdict, hTurn⟩
  rcases hTurn.receipts with ⟨_, hSame, hSeq⟩ | ⟨hNext, hNew⟩
  · rw [hSame, hSeq]
    exact hEmitted
  · have hTime : ¬verdict.completedAtMs < 0 := by
      rcases hTurn.time with hEq | ⟨input, hInput, hEq⟩
      · rwa [hEq]
      · rw [hEq]
        exact hTimes input hInput
    rw [hNew]
    refine hEmitted.snoc hNext hTime fun receipt hPhase hState hOwn hText => ?_
    rcases hFacts.1 with ⟨earlier, hEarlier, hSuccess⟩
    exact .compensate step.stepId hPhase (hState.trans hLoop.state) hOwn hKnown
      (hDeclared step hMem) (hText ▸ compensateText_mem _)
      ⟨earlier, mem_append_left _ hEarlier, hSuccess⟩

omit hReport in
/-- Every committed step has a compensation receipt afterwards, old or new. -/
theorem attempted_after {step : TxCommitStepResult} (hStep : step ∈ report.committedSteps) :
    ∃ receipt ∈ historyOf (contract.receipts ++ comp.receipts),
      attemptedStepId receipt = some step.stepId := by
  rcases executeCompensationPhase_run hRun with ⟨loop, hLoop⟩
  have hLaw : Lawful contract := (validate_ok_iff.mp hLoop.valid).2.2.2
  rw [hLoop.receipts]
  refine foldlM_ok (compensationStep contract inputs nowMs)
    (fun front loop => ∀ step ∈ front, ∃ receipt ∈ historyOf (contract.receipts ++ loop.receipts),
      attemptedStepId receipt = some step.stepId) _ hLoop.run ?_ nofun step
    (mem_reverse.mpr hStep)
  intro front current loop loop' _ hFront hTurn
  rcases compensationStep_turn hTurn with ⟨verdict, hTurn⟩
  rcases hTurn.receipts with ⟨hMatches, hSame, _⟩ | ⟨_, hNew⟩
  · rw [hSame]
    refine forall_mem_append.mpr ⟨hFront, forall_mem_singleton.mpr ?_⟩
    rcases attempted_of_matches hLaw hMatches with ⟨receipt, hMem, hAttempt⟩
    exact ⟨receipt, by rw [historyOf_append]; exact mem_append_left _ hMem, hAttempt⟩
  · rw [hNew, ← append_assoc, historyOf_snoc_of_ok _ rfl (receiptOf_txBuildReceipt ..)]
    refine forall_mem_append.mpr ⟨fun old hOld => ?_, forall_mem_singleton.mpr ?_⟩
    · rcases hFront old hOld with ⟨receipt, hMem, hAttempt⟩
      exact ⟨receipt, mem_append_left _ hMem, hAttempt⟩
    · exact ⟨_, mem_append_right _ (mem_singleton_self _), attemptedStepId_eq_some.mpr ⟨rfl, rfl⟩⟩

end Compensation

/-! ## Runs of phases -/

/-- An accepted phase, or a move of the lifecycle between two phases. -/
inductive PhaseRun (debug : String → String) : MissionTxContract → MissionTxContract → Prop where
  | commit (contract : MissionTxContract) (inputs : List TxCommitStepInput)
      (killSwitch : MissionKillSwitchLevel) (paused : Bool) (nowMs : Int64)
      (report : TxCommitReport) (hNever : NeverCompensated contract) (hNow : ¬nowMs < 0)
      (hTimes : ∀ input ∈ inputs, ¬input.completedAtMs < 0)
      (hRun : executeCommitPhase debug contract inputs killSwitch paused nowMs = .ok report) :
      PhaseRun debug contract (contract.advance report.receipts report.outcome.targetTxState)
  | compensate (contract : MissionTxContract) (completedAtMs nowMs : Int64)
      (report : TxCommitReport) (inputs : List TxCompensationStepInput)
      (comp : TxCompensationReport)
      (hReport : missionTxRollbackCommitReport debug contract completedAtMs = .ok report)
      (hDeclared : Declared contract report) (hNow : ¬nowMs < 0)
      (hTimes : ∀ input ∈ inputs, ¬input.completedAtMs < 0)
      (hRun : executeCompensationPhase debug contract report inputs nowMs = .ok comp) :
      PhaseRun debug contract (contract.advance comp.receipts comp.outcome.targetTxState)
  | enter (contract : MissionTxContract) (state : MissionTxState) :
      PhaseRun debug contract (contract.advance [] state)

theorem PhaseRun.valid {debug : String → String} {contract' : MissionTxContract}
    (h : PhaseRun debug contract contract') (hValid : contract.validate debug = .ok ()) :
    contract'.validate debug = .ok () := by
  have hLaw : Lawful contract := (validate_ok_iff.mp hValid).2.2.2
  cases h with
  | commit _ _ _ _ _ hNever hNow hTimes hRun =>
    rcases executeCommitPhase_emitted hLaw hNever hNow hTimes hRun with ⟨_, hEmitted⟩
    exact hEmitted.1.validate_advance hValid _
  | compensate _ _ _ _ _ hReport hDeclared hNow hTimes hRun =>
    rcases compensation_emitted hReport hRun hNow hTimes hDeclared with ⟨_, hEmitted⟩
    exact hEmitted.validate_advance hValid _
  | enter state => exact hLaw.emitted_nil.validate_advance hValid state

/-- **Phases keep a contract valid.**  From a valid contract, with no negative times:
a commit phase without earlier compensations leaves a valid contract; a compensation phase
against the rebuilt report does so exactly when every committed step has a declared
compensation; hence every run of such phases, with any moves of the lifecycle in between,
ends in a valid contract. -/
theorem phases_keep_valid {debug : String → String} {contract : MissionTxContract}
    (hValid : contract.validate debug = .ok ()) :
    (∀ (inputs : List TxCommitStepInput) (killSwitch : MissionKillSwitchLevel) (paused : Bool)
      (nowMs : Int64) (report : TxCommitReport),
      contract.lifecycleState = .prepared ∨ contract.lifecycleState = .committing →
      NeverCompensated contract → ¬nowMs < 0 →
      (∀ input ∈ inputs, ¬input.completedAtMs < 0) →
      executeCommitPhase debug contract inputs killSwitch paused nowMs = .ok report →
      (contract.advance report.receipts report.outcome.targetTxState).validate debug = .ok ()) ∧
    (∀ (completedAtMs nowMs : Int64) (report : TxCommitReport)
      (inputs : List TxCompensationStepInput) (comp : TxCompensationReport),
      contract.lifecycleState = .compensating →
      missionTxRollbackCommitReport debug contract completedAtMs = .ok report →
      ¬nowMs < 0 → (∀ input ∈ inputs, ¬input.completedAtMs < 0) →
      executeCompensationPhase debug contract report inputs nowMs = .ok comp →
      ((contract.advance comp.receipts comp.outcome.targetTxState).validate debug = .ok () ↔
        Declared contract report)) ∧
    ∀ contract', Relation.ReflTransGen (PhaseRun debug) contract contract' →
      contract'.validate debug = .ok () := by
  refine ⟨?_, ?_, fun contract' hRuns => ?_⟩
  · intro inputs killSwitch paused nowMs report _ hNever hNow hTimes hRun
    exact (PhaseRun.commit contract inputs killSwitch paused nowMs report hNever hNow hTimes
      hRun).valid hValid
  · intro completedAtMs nowMs report inputs comp _ hReport hNow hTimes hRun
    refine ⟨fun hAfter step hStep => ?_, fun hDeclared => (PhaseRun.compensate contract
      completedAtMs nowMs report inputs comp hReport hDeclared hNow hTimes hRun).valid hValid⟩
    rcases attempted_after hRun hStep with ⟨receipt, hMem, hAttempt⟩
    exact declared_of_attempted (validate_ok_iff.mp hAfter).2.2.2 hMem hAttempt
  · induction hRuns with
    | refl => exact hValid
    | tail _ hLast ih => exact hLast.valid ih

/-- Both steps of a plan are committed from the prepared state. -/
theorem phases_keep_valid_prepared :
    ∃ report, executeCommitPhase id (twoStepContract .prepared [])
        [⟨"step-1", true, "ok", none, 10⟩, ⟨"step-2", true, "ok", none, 10⟩] .off false 20 =
          .ok report ∧
      ((twoStepContract .prepared []).advance report.receipts
        report.outcome.targetTxState).validate id = .ok () := by
  have hValid : (twoStepContract .prepared []).validate id = .ok () := by decide +kernel
  have hSome : (executeCommitPhase id (twoStepContract .prepared [])
      [⟨"step-1", true, "ok", none, 10⟩, ⟨"step-2", true, "ok", none, 10⟩] .off false
        20).toOption.isSome := by decide +kernel
  rcases Option.isSome_iff_exists.mp hSome with ⟨report, hReport⟩
  rw [toOption_eq_some] at hReport
  exact ⟨report, hReport, (phases_keep_valid hValid).1 _ .off false 20 report (.inl rfl) nofun
    (by decide) (by decide) hReport⟩

/-- The exception: a committed step without a declared compensation gets a receipt that the
validator refuses. -/
theorem undeclared_compensation_invalid :
    ¬∀ (contract : MissionTxContract) (completedAtMs nowMs : Int64) (report : TxCommitReport)
      (inputs : List TxCompensationStepInput) (comp : TxCompensationReport),
      contract.validate id = .ok () → contract.lifecycleState = .compensating →
      missionTxRollbackCommitReport id contract completedAtMs = .ok report →
      ¬nowMs < 0 → (∀ input ∈ inputs, ¬input.completedAtMs < 0) →
      executeCompensationPhase id contract report inputs nowMs = .ok comp →
      (contract.advance comp.receipts comp.outcome.targetTxState).validate id = .ok () := by
  intro hAll
  let contract := { committedContract with plan := { twoStepPlan with compensations := [] } }
  have hValid : contract.validate id = .ok () := by decide +kernel
  have hRefused : ∃ report ∈ (missionTxRollbackCommitReport id contract 30).toOption,
      ∃ comp ∈ (executeCompensationPhase id contract report [] 30).toOption,
        (contract.advance comp.receipts comp.outcome.targetTxState).validate id ≠ .ok () := by
    decide +kernel
  rcases hRefused with ⟨report, hReport, comp, hRun, hRefused⟩
  exact hRefused (hAll contract 30 30 report [] comp hValid rfl (toOption_eq_some.mp hReport)
    (by decide) nofun (toOption_eq_some.mp hRun))

end FrankenTerm.Ports.PlanTxValid
