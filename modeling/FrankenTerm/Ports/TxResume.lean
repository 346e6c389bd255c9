import FrankenTerm.Ports.TxLedgerInvariant

/-!
# What to do with an interrupted transaction (`ResumeContext` in `tx_idempotency.rs`)

A ledger that was left behind by a crash is turned into a recommendation: go on, start afresh, take
back what was done, or nothing.  The recommendation is read off the chain, the outcomes, the phase
and the certificate.

In a terminal phase the certificate answers for the outcomes.  In an open one a transaction is
called complete when no step of its plan is left, and a step is not left if it succeeded *or* was
compensated: a rollback that stops half way looks complete.

## Main results

* `mem_actualSteps` — what a certificate says about the records.
* `resume_truthful_iff` — the recommendation is true except in the middle of a rollback.
-/

namespace FrankenTerm.Ports.TxResume

open Verified TxRecord TxLedger TxLedgerInvariant TxExecutionLedger List

variable {P : Platform}

/-! ## The recommendation -/

/-- `ResumeRecommendation`. -/
inductive ResumeRecommendation where
  | continueFromCheckpoint
  | restartFresh
  | compensateAndAbort
  | alreadyComplete
  deriving DecidableEq, Repr

/-- The fields of `IdempotencyPolicy` that a resumption reads. -/
structure IdempotencyPolicy where
  skipCompletedOnResume : Bool
  requireChainIntegrity : Bool

/-- `ResumeContext`. -/
structure ResumeContext where
  executionId : String
  planId : String
  interruptedPhase : TxPhase
  completedSteps : List String
  failedSteps : List String
  remainingSteps : List String
  compensatedSteps : List String
  chainIntact : Bool
  lastHash : String
  recommendation : ResumeRecommendation

def isSuccess : StepOutcome → Bool
  | .success _ => true
  | _ => false

/-- `StepOutcome::is_failure`. -/
def isFailure : StepOutcome → Bool
  | .failed .. => true
  | _ => false

def isCompensated : StepOutcome → Bool
  | .compensated .. => true
  | _ => false

/-- The ids of the steps that have a record with such an outcome; the source collects them in a
set. -/
def stepIds (ledger : TxExecutionLedger P) (outcome : StepOutcome → Bool) : List String :=
  (ledger.records.filter (outcome ·.outcome)).map (·.idemKey.stepId)

section

variable (ledger : TxExecutionLedger P) (planSteps : List String) (policy : IdempotencyPolicy)

/-- The steps of the plan that are left, in its order. -/
def stepsLeft : List String :=
  if (stepIds ledger isFailure).isEmpty then
    planSteps.filter fun id =>
      (!policy.skipCompletedOnResume || !(stepIds ledger isSuccess).contains id) &&
        !(stepIds ledger isCompensated).contains id
  else []

def recommend : ResumeRecommendation :=
  let completed := stepIds ledger isSuccess
  let compensated := stepIds ledger isCompensated
  if policy.requireChainIntegrity && !ledger.verifyChain.chainIntact then .restartFresh
  else if ledger.records.any (·.outcome.isAmbiguousReplayOutcome) then .compensateAndAbort
  else if ledger.phase.isTerminal then
    match ledger.terminalCertificate with
    | some cert => match cert.disposition with
      | .committed =>
        if planSteps.any (!completed.contains ·) then .restartFresh else .alreadyComplete
      | .rolledBack => .alreadyComplete
      | .aborted =>
        if completed ≠ [] ∧ ¬(compensated ⊆ completed ∧ completed ⊆ compensated) then
          .compensateAndAbort
        else .alreadyComplete
    | none => .restartFresh
  else if stepIds ledger isFailure ≠ [] then .compensateAndAbort
  else if stepsLeft ledger planSteps policy = [] ∧ completed ≠ [] then .alreadyComplete
  else .continueFromCheckpoint

/-- `ResumeContext::from_ledger_with_policy`; the plan is read for the ids of its steps. -/
def ResumeContext.fromLedgerWithPolicy : ResumeContext :=
  let sorted := fun outcome => (stepIds ledger outcome).dedup.insertionSort (· ≤ ·)
  { executionId := ledger.executionId
    planId := ledger.planId
    interruptedPhase := ledger.phase
    completedSteps := sorted isSuccess
    failedSteps := sorted isFailure
    remainingSteps := stepsLeft ledger planSteps policy
    compensatedSteps := sorted isCompensated
    chainIntact := ledger.verifyChain.chainIntact
    lastHash := ledger.lastHash
    recommendation := recommend ledger planSteps policy }

end

/-! ## What a certificate says -/

theorem mem_pushNew {steps : List String} {stepId id : String} :
    id ∈ pushNew steps stepId ↔ id ∈ steps ∨ id = stepId := by
  unfold pushNew
  split <;> simp_all

theorem mem_foldl_add (records : List (StepExecutionRecord P)) (sets : StepSets) (id : String) :
    (id ∈ (records.foldl StepSets.add sets).completed ↔ id ∈ sets.completed ∨
      ∃ record ∈ records, (isSuccess record.outcome ∨ isCompensated record.outcome) ∧
        record.idemKey.stepId = id) ∧
    (id ∈ (records.foldl StepSets.add sets).compensated ↔ id ∈ sets.compensated ∨
      ∃ record ∈ records, isCompensated record.outcome ∧ record.idemKey.stepId = id) := by
  induction records generalizing sets with
  | nil => simp
  | cons record _ ih =>
    obtain ⟨hCompleted, hCompensated⟩ := ih (sets.add record)
    cases hOutcome : record.outcome <;> grind [StepSets.add, mem_pushNew, isSuccess, isCompensated]

/-- The lists of a certificate have the steps of the records. -/
theorem mem_actualSteps (ledger : TxExecutionLedger P) (id : String) :
    (id ∈ (actualSteps ledger.records).completed ↔
      id ∈ stepIds ledger isSuccess ∨ id ∈ stepIds ledger isCompensated) ∧
    (id ∈ (actualSteps ledger.records).compensated ↔ id ∈ stepIds ledger isCompensated) := by
  obtain ⟨hCompleted, hCompensated⟩ := mem_foldl_add ledger.records ⟨[], [], []⟩ id
  simp only [actualSteps, mem_insertionSort, hCompleted, hCompensated, stepIds, mem_map, mem_filter]
  grind

variable {ledger : TxExecutionLedger P} {planSteps : List String}

/-- A certificate that the ledger accepts answers for the compensations. -/
theorem compensations_of_validate {cert : TerminalDispositionCertificate} {phase : TxPhase}
    (h : ledger.validateCertificateAgainstLedger cert phase = .ok ()) :
    (cert.disposition = .committed → stepIds ledger isCompensated = []) ∧
      (cert.disposition = .rolledBack → stepIds ledger isSuccess ⊆ stepIds ledger isCompensated) := by
  have hMem := mem_actualSteps ledger
  simp only [validateCertificateAgainstLedger] at h
  split_ifs at h with _ _ _ hCompleted _ hCompensated
  unfold TerminalDispositionCertificate.checkDisposition at h
  refine ⟨fun hKind => ?_, fun hKind id hId => ?_⟩
  · simp only [hKind] at h
    split_ifs at h with _ _ hNone
    refine eq_nil_iff_forall_not_mem.mpr fun id hId => ?_
    have := (hMem id).2.mpr hId
    simp_all
  · simp only [hKind] at h
    split_ifs at h with _ _ hSame
    have := (hMem id).1.mpr (.inl hId)
    simp_all

/-! ## When it is true -/

/-- Every outcome is known, and none is a failure. -/
def Known (ledger : TxExecutionLedger P) : Prop := ∀ record ∈ ledger.records,
  record.outcome.isAmbiguousReplayOutcome = false ∧ isFailure record.outcome = false

/-- The plan was carried out and nothing taken back, or all that was carried out was taken back. -/
def Complete (ledger : TxExecutionLedger P) (planSteps : List String) : Prop :=
  ((∀ id ∈ planSteps, id ∈ stepIds ledger isSuccess) ∧ stepIds ledger isCompensated = []) ∨
    stepIds ledger isSuccess ⊆ stepIds ledger isCompensated

/-- The promises of a recommendation. -/
structure Truthful (ledger : TxExecutionLedger P) (planSteps : List String)
    (context : ResumeContext) : Prop where
  goesOn : context.recommendation = .continueFromCheckpoint → Known ledger ∧
    context.remainingSteps = planSteps.filter fun id =>
      id ∉ stepIds ledger isSuccess ∧ id ∉ stepIds ledger isCompensated
  complete : context.recommendation = .alreadyComplete → Complete ledger planSteps

/-- A rollback of a finished plan that has stopped half way. -/
structure HalfRolledBack (ledger : TxExecutionLedger P) (planSteps : List String) : Prop where
  isOpen : ledger.phase.isTerminal = false
  known : Known ledger
  covered : ∀ id ∈ planSteps, id ∈ stepIds ledger isSuccess ∨ id ∈ stepIds ledger isCompensated
  takenBack : stepIds ledger isCompensated ≠ []
  standing : ¬stepIds ledger isSuccess ⊆ stepIds ledger isCompensated

theorem stepIds_eq_nil {outcome : StepOutcome → Bool} :
    stepIds ledger outcome = [] ↔ ∀ record ∈ ledger.records, outcome record.outcome = false := by
  simp [stepIds]

/-- A terminal ledger is called complete by its certificate. -/
theorem complete_of_terminal (h : Kept ledger) (hTerminal : ledger.phase.isTerminal)
    (hRec : recommend ledger planSteps ⟨true, true⟩ = .alreadyComplete) :
    Complete ledger planSteps := by
  obtain ⟨hKnown, cert, hCert, hValid⟩ := h.terminal hTerminal
  obtain ⟨hCommitted, hRolledBack⟩ := compensations_of_validate hValid
  have hAny : ledger.records.any (·.outcome.isAmbiguousReplayOutcome) = false := by simpa using hKnown
  simp only [recommend, h.verifyChain_intact, hAny, hTerminal, hCert, Bool.not_true, Bool.and_false,
    Bool.false_eq_true, if_false, if_true] at hRec
  cases hKind : cert.disposition with
  | committed =>
    rw [hKind] at hRec
    dsimp only at hRec
    split_ifs at hRec with hAll
    exact .inl ⟨by simpa using hAll, hCommitted hKind⟩
  | rolledBack => exact .inr (hRolledBack hKind)
  | aborted =>
    rw [hKind] at hRec
    dsimp only at hRec
    split_ifs at hRec with hSame
    by_cases hNone : stepIds ledger isSuccess = []
    · exact .inr (by simp [hNone])
    · exact .inr (not_not.mp fun hNot => hSame ⟨hNone, fun hBoth => hNot hBoth.2⟩)

theorem truthful_iff (h : Kept ledger) :
    Truthful ledger planSteps (.fromLedgerWithPolicy ledger planSteps ⟨true, true⟩) ↔
      ¬HalfRolledBack ledger planSteps := by
  have hOpen : ledger.phase.isTerminal = false → recommend ledger planSteps ⟨true, true⟩ =
      if ledger.records.any (·.outcome.isAmbiguousReplayOutcome) then .compensateAndAbort
      else if stepIds ledger isFailure ≠ [] then .compensateAndAbort
      else if stepsLeft ledger planSteps ⟨true, true⟩ = [] ∧ stepIds ledger isSuccess ≠ [] then
        .alreadyComplete
      else .continueFromCheckpoint := by
    intro hOpen
    simp [recommend, h.verifyChain_intact, hOpen]
  have hLeft : stepIds ledger isFailure = [] → stepsLeft ledger planSteps ⟨true, true⟩ =
      planSteps.filter fun id =>
        id ∉ stepIds ledger isSuccess ∧ id ∉ stepIds ledger isCompensated := by
    intro hNone
    simp [stepsLeft, hNone]
  constructor
  · intro hTrue hHalf
    have hFailed := stepIds_eq_nil.mpr fun record hMem => (hHalf.known record hMem).2
    have hComplete := hTrue.complete (by
      show recommend ledger planSteps ⟨true, true⟩ = _
      rw [hOpen hHalf.isOpen, hLeft hFailed,
        if_neg (by simpa using fun r hMem => (hHalf.known r hMem).1),
        if_neg (by simpa using hFailed), if_pos]
      refine ⟨filter_eq_nil_iff.mpr fun id hId => ?_, fun hNone => hHalf.standing (by simp [hNone])⟩
      have := hHalf.covered id hId
      grind)
    exact hComplete.elim (fun hAll => hHalf.takenBack hAll.2) hHalf.standing
  · intro hNot
    cases hTerminal : ledger.phase.isTerminal with
    | true =>
      refine ⟨fun hRec => ?_, complete_of_terminal h hTerminal⟩
      obtain ⟨-, cert, hCert, -⟩ := h.terminal hTerminal
      change recommend ledger planSteps ⟨true, true⟩ = _ at hRec
      simp only [recommend, h.verifyChain_intact, hTerminal, hCert] at hRec
      grind
    | false =>
      refine ⟨fun hRec => ?_, fun hRec => ?_⟩ <;>
        change recommend ledger planSteps ⟨true, true⟩ = _ at hRec <;>
        rw [hOpen hTerminal] at hRec <;> split_ifs at hRec with hAny hFailed hDone
      · have hNone := not_not.mp hFailed
        refine ⟨fun record hMem => ⟨?_, stepIds_eq_nil.mp hNone record hMem⟩, hLeft hNone⟩
        simp_all
      · have hNone := not_not.mp hFailed
        rw [hLeft hNone, filter_eq_nil_iff] at hDone
        by_contra hFalse
        rw [Complete, not_or] at hFalse
        refine hNot ⟨hTerminal, fun record hMem => ⟨by simp_all, stepIds_eq_nil.mp hNone record hMem⟩,
          fun id hId => ?_, fun hClear => hFalse.1 ⟨fun id hId => ?_, hClear⟩, hFalse.2⟩
        · have := hDone.1 id hId
          grind
        · have := hDone.1 id hId
          simp_all

/-- **What the recommendation is worth**: along every run it keeps its promises, except about a
rollback that stopped half way. -/
theorem resume_truthful_iff (executionId planId : String) (planHash : Nat) (calls : List (Call P))
    (planSteps : List String) :
    let ledger := runCalls (new P executionId planId planHash) calls
    Truthful ledger planSteps (.fromLedgerWithPolicy ledger planSteps ⟨true, true⟩) ↔
      ¬HalfRolledBack ledger planSteps :=
  truthful_iff <| List.foldlRecOn (motive := Kept) calls _ (kept_new executionId planId planHash)
    fun _ h _ _ => h.run_induction h fun _ hAdvance => hAdvance.kept h

/-- Both steps of a plan have succeeded, and one of them is taken back. -/
def halfRolledBackCalls : List (Call flatPlatform) :=
  [.append (.new flatPlatform "plan" "first" "send") (.success none) .low "agent" 10,
    .append (.new flatPlatform "plan" "second" "send") (.success none) .low "agent" 20,
    .append (.forCompensation flatPlatform "plan" "second" "undo")
      (.compensated (.success none) "undone") .low "agent" 30]

/-- A step of it still stands, and there is nothing left to do. -/
theorem half_rolled_back_is_called_complete :
    let ledger := runCalls (new flatPlatform "exec-1" "plan" 7) halfRolledBackCalls
    let context := ResumeContext.fromLedgerWithPolicy ledger ["first", "second"] ⟨true, true⟩
    context.recommendation = .alreadyComplete ∧ context.completedSteps = ["first", "second"] ∧
      context.compensatedSteps = ["second"] := by
  decide +kernel

end FrankenTerm.Ports.TxResume
