import FrankenTerm.Ports.GuardianBookkeeping

/-!
# The guardian never finds its bookkeeping broken

The guardian has about forty places where it reports that its own maps disagree, and a few where it
stops.  With `Bookkept` none of them is reached: the checks in front of them are shown to pass, one
operation after the other.

## Main results

* `step_intact` — no event is answered with an error about the bookkeeping.
* `guardian_bookkeeping` — what the maps say to each other along every run.
-/

namespace FrankenTerm.Ports.Guardian

open Std (TreeMap TreeSet)
open CheckpointReceipt
open Verified Verified.Check Verified.ReceiptWindow GuardianProtocolState

/-- The answer of a transaction says nothing against the bookkeeping. -/
def AnswersIntact {α : Type} (answer : Except TransactionError α) : Prop :=
  ∀ error, answer = .error (.protocol error) → error.Intact

variable {α : Type}

theorem answersIntact_fail {error : GuardianProtocolError} (h : error.Intact) :
    AnswersIntact (.error (.protocol error) : Except TransactionError α) := by
  rintro _ ⟨⟩
  exact h

theorem answersIntact_ok {value : α} :
    AnswersIntact (.ok value : Except TransactionError α) := nofun

section Intact

variable {state : GuardianProtocolState}

/-! ## Checks that rely on no map -/

variable {memory published : Bool} {stored : StoredEffect} {requestId paneId : Uuid}
  {identity : CheckpointEffectIdentity} {fingerprint : EffectFingerprint}
  {error : GuardianProtocolError} {reply : GuardianReply} {target : InputEffectState}
  {page : CensusPageRequest}
  {settleMemory storeMemory : Bool} {muxIncarnation effectId : Uuid} {label : String}
  {operation : GuardianOperation} {wire : Wire} {request : GuardianRequest}
  {header : GuardianRequestHeader} {α : Type}

/-- A planned effect finds its pane as the plan found it. -/
theorem fenceSite_eq_none
    {next : GuardianPaneState} (h : state.Planned paneId effectId header reply next) :
    state.fenceSite header.operation paneId = none := by
  have hSome : ∀ {pane}, state.panes[paneId]? = some pane → state.panes.contains paneId := by
    intro pane hPane
    rw [← TreeMap.mem_iff_contains, TreeMap.mem_iff_isSome_getElem?, hPane]
    rfl
  unfold fenceSite
  cases h with
  | spawn hOp hPane =>
    rw [if_pos hOp, if_neg (contains_eq_false_iff.mpr hPane)]
  | claim hOp hPane | closeExited hOp hPane =>
    rw [if_neg (by rw [hOp]; nofun), if_pos (hSome hPane)]
  | mutation hOp hNext =>
    rw [if_neg (by rintro hSpawn; rw [hSpawn] at hOp; cases hOp), if_pos (hSome hNext.pane)]

theorem newEffect_intact (hOp : isPlanned request.header.operation) (outcome : EffectOutcome) :
    AnswersIntact (state.newEffect memory request paneId effectId outcome).answer := by
  fun_cases newEffect with
  | case1 refused hRefused =>
    exact answersIntact_fail (planNewEffect_refused hOp.1 hOp.2.1 hOp.2.2 hRefused).error
  | case4 reply next hPlanned _ _ _ site hSite =>
    rw [fenceSite_eq_none (planNewEffect_cases hPlanned)] at hSite
    cases hSite
  | case5 => cases outcome <;> rintro _ ⟨⟩
  | _ => exact answersIntact_fail rfl

theorem validateForInputBytes_failsOnly {inputBytes : Nat} :
    FailsIntact (target.validateForInputBytes inputBytes) := by
  refine .past rfl ?_
  split
  · exact .of_refuseIf fun _ => rfl
  · exact FailsOnly.ok

/-- The receipt of an open checkpoint is in order. -/
theorem pendingCheckpointReceipt_eq_ok
    (hReply : stored.reply = .checkpointReceipt (.fromIdentity identity .outcomeIndeterminate)) :
    pendingCheckpointReceipt stored identity =
      .ok (.fromIdentity identity .outcomeIndeterminate) := by
  unfold pendingCheckpointReceipt
  rw [hReply]
  simp only [checkpointReceiptFromReply, bind, Except.bind]
  have hGood : ¬((fromIdentity identity .outcomeIndeterminate).disposition ≠
      .outcomeIndeterminate ∨ (fromIdentity identity
        .outcomeIndeterminate).matchesIdentity identity = false) := by
    simp [fromIdentity, matchesIdentity]
  rw [refuseIf, if_neg hGood]
  rfl

/-- An effect of a checkpoint is stored as one, with a receipt. -/
theorem Shaped.checkpoint {effect : StoredEffect}
    (h : Shaped effectId effect) (hOp : effect.fingerprint.operation = .checkpoint) :
    ∃ disposition identity, effect.state = .checkpoint disposition identity ∧
      effect.reply = .checkpointReceipt (.fromIdentity identity disposition) := by
  cases hState : effect.state with
  | applied =>
    simp only [Shaped, hState] at h
    exact absurd hOp h.2
  | outcomeIndeterminate =>
    simp only [Shaped, hState] at h
    exact absurd hOp h
  | input =>
    simp only [Shaped, hState] at h
    rw [hOp] at h
    cases h.1
  | checkpoint disposition identity =>
    simp only [Shaped, hState] at h
    exact ⟨disposition, identity, rfl, h.2.2.1⟩

theorem newCheckpoint_intact (hIdentity : GuardianProtocolState.Identifies identity request.header) :
    AnswersIntact (state.newCheckpoint memory request fingerprint identity published).answer := by
  fun_cases newCheckpoint with
  | case1 refused hRefused => exact answersIntact_fail (planExactSequence_refused hRefused).error
  | case2 sequence next hPlanned hOther =>
    obtain ⟨_, _, hPlan⟩ := planExactSequence_eq_ok.mp hPlanned
    exact absurd ((Prod.mk.inj hPlan).1.trans hIdentity.sequence) hOther
  | case5 => exact answersIntact_ok
  | _ => exact answersIntact_fail rfl

theorem checkpointIdentity_failsOnly : FailsIntact (checkpointIdentity wire request) := by
  exact .bind validateRequestEnvelope_failsOnly fun _ _ =>
    .past rfl <| .okOr_bind (fun _ => rfl) fun _ _ => .okOr_bind (fun _ => rfl) fun _ _ =>
    .bind decoded_failsOnly fun _ _ => .ok

theorem checkInputEffect_failsOnly : FailsIntact (state.checkInputEffect wire request) := by
  exact .bind validateRequestEnvelope_failsOnly fun _ _ => .past rfl <| .of_refuseIf fun _ => rfl

theorem checkContinuation_failsOnly {continuation : ActivationContinuation} :
    FailsIntact (state.checkContinuation wire request continuation) := by
  exact .bind validateRequestEnvelope_failsOnly fun _ _ => .past rfl <| .past rfl <| .past rfl <|
    .of_refuseIf fun _ => rfl

theorem requireOperation_failsOnly : FailsIntact (requireOperation operation reply) := by
  unfold requireOperation
  split
  all_goals first
    | exact .of_refuseIf fun _ => rfl
    | exact .error rfl

theorem effectOutcomeIndeterminate_failsOnly {intended : GuardianReply} : FailsIntact
      (effectOutcomeIndeterminate header intended) := by
  have hLength : encodedLength intended =
      encodedCapacity intended := by
    cases intended <;> rfl
  refine .past rfl <| .bind ?_ fun _ _ => .bind ?_ fun _ _ => .okOr_bind (fun _ => rfl) fun _ _ =>
    .bind ?_ fun _ _ => .bind requireOperation_failsOnly fun _ _ => .ok
  · exact .bind requireOperation_failsOnly fun _ _ => .past rfl <| .of_refuseIf fun hBad =>
      absurd hLength hBad
  · exact .bind requireOperation_failsOnly fun _ _ => .of_refuseIf fun _ => rfl
  · unfold intendedNumbers
    split
    all_goals first
      | exact FailsOnly.ok
      | exact .error rfl

theorem censusPage_failsOnly {snapshotId : Uuid} :
    FailsIntact (state.censusPage page muxIncarnation snapshotId) := by
  exact .past rfl <| .okOr_bind (fun _ => rfl) fun _ _ => .past rfl .ok

theorem attach_failsOnly : FailsIntact (state.attach header) := by
  refine .okOr_bind (fun _ => rfl) fun paneId _ => ?_
  repeat' split
  all_goals first
    | exact FailsOnly.ok
    | exact .error rfl

theorem requireReplayGeneration_failsOnly : FailsIntact (state.requireReplayGeneration header) := by
  refine .okOr_bind (fun _ => rfl) fun paneId _ => ?_
  repeat' split
  all_goals first
    | exact FailsOnly.ok
    | exact .error rfl

theorem queriedState_failsOnly {generation : Nat} {query : InputEffectQuery} : FailsIntact
      (state.queriedState paneId effectId generation query) := by
  unfold queriedState
  split
  · unfold missingInputEffectState
    split
    all_goals first
      | exact FailsOnly.ok
      | exact .error rfl
  · refine .past rfl ?_
    split
    · exact .bind validateForInputBytes_failsOnly fun _ _ => .ok
    · exact .error rfl

theorem queryInputEffect_failsOnly : FailsIntact (state.queryInputEffect wire request) := by
  refine .okOr_bind (fun _ => rfl) fun paneId _ => .bind ?_ fun _ _ =>
    .okOr_bind (fun _ => rfl) fun _ _ => .bind decoded_failsOnly fun _ _ =>
    .bind queriedState_failsOnly fun _ _ => .ok
  unfold requireEffectQueryAuthority
  split
  · exact .of_refuseIf fun _ => rfl
  · exact .of_refuseIf fun _ => rfl
  · exact .error rfl

theorem preflightReplay_failsOnly : FailsIntact (state.preflightReplay wire operation request) := by
  exact .bind validateRequestEnvelope_failsOnly fun _ _ => .past rfl <| .past rfl <|
    .bind requireReplayGeneration_failsOnly fun _ _ => decoded_failsOnly

theorem preflightCheckpointStage_failsOnly :
    FailsIntact (state.preflightCheckpointStage wire request) := by
  refine .bind validateRequestEnvelope_failsOnly fun _ _ => .past rfl <| .past rfl <|
    .bind decoded_failsOnly fun stage _ => .bind ?_ fun _ _ => .ok
  unfold requireStagedScope
  split
  · exact .error rfl
  · unfold requireStagedLease
    split
    · exact .past rfl <| .past rfl <| .of_refuseIf fun _ => rfl
    all_goals
      exact .error rfl

theorem AnswersIntact.outcome {result : Result α} (h : AnswersIntact result.answer)
    (hError : result.outcome.error = some error) : error.Intact := by
  change protocolError result.answer = some error at hError
  unfold protocolError at hError
  split at hError
  · next other hAnswer =>
      cases hError
      exact h _ hAnswer
  · cases hError

theorem written_intact {result : Except GuardianProtocolError (GuardianProtocolState × α)}
    (h : FailsIntact result)
    (hError : (written state result).error = some error) : error.Intact := by
  cases result with
  | ok => cases hError
  | error =>
    cases hError
    exact h _ rfl

theorem seen_intact {result : Except GuardianProtocolError α} (h : FailsIntact result)
    (hError : (seen state result).error = some error) : error.Intact := by
  cases result with
  | ok => cases hError
  | error =>
    cases hError
    exact h _ rfl

section Kept

variable (h : Bookkept state)
include h

/-- A retained request has its effect, with its fingerprint and reply. -/
theorem Bookkept.effect_of_request {stored : StoredRequest}
    (hStored : state.receipts.requests[requestId]? = some stored) :
    ∃ effect, state.receipts.effects[stored.effectId]? = some effect ∧
      stored.fingerprint = effect.fingerprint ∧ stored.reply = effect.reply :=
  h.receipts.effect_of_request requestId stored hStored

/-! ## Effects -/

theorem Bookkept.replayRequest_intact {stored : StoredRequest}
    (hStored : state.receipts.requests[requestId]? = some stored) :
    AnswersIntact (state.replayRequest stored fingerprint effectId) := by
  unfold replayRequest
  split
  · next hSame =>
      obtain ⟨effect, hEffect, _⟩ := h.effect_of_request hStored
      rw [hSame.2] at hEffect
      rw [hEffect]
      dsimp only
      split
      · nofun
      · nofun
  · exact answersIntact_fail rfl

/-- The requests of a retained effect are indexed, and stay so when another request makes room. -/
theorem Bookkept.addAlias_failsOnly {site expected : String}
    (hEffect : state.receipts.effects[effectId]? = some stored) :
    FailsIntact (state.addAlias memory site expected requestId effectId stored) := by
  have hContains : ∀ {window : Window Uuid StoredEffect StoredRequest},
      window.Sound receiptScheme → window.effects[effectId]? = some stored →
      window.effectRequestIds.contains effectId := by
    intro window hSound hStored
    obtain ⟨ids, hIds⟩ := hSound.exists_index hStored
    rw [← TreeMap.mem_iff_contains, TreeMap.mem_iff_isSome_getElem?, hIds]
    rfl
  unfold addAlias
  split
  · exact .error rfl
  · next plan hPlan =>
      obtain ⟨hSound, _, _, _, hSame⟩ := h.receipts.commitCapacity hPlan
      have hStored := hEffect
      rw [← hSame rfl] at hStored
      rw [hContains h.receipts hEffect]
      split
      · exact .error rfl
      · rw [if_neg (by simp)]
        rw [if_neg (by
          rw [show (state.commitReceiptCapacity plan).effectRequestIds.contains effectId from
            hContains hSound hStored]
          simp)]
        exact FailsOnly.ok

theorem Bookkept.aliasEffect_intact (hEffect : state.receipts.effects[effectId]? = some stored) :
    AnswersIntact (state.aliasEffect memory requestId fingerprint effectId stored).answer := by
  fun_cases aliasEffect with
  | case3 _ _ error hError => exact answersIntact_fail (h.addAlias_failsOnly hEffect error hError)
  | case4 => split <;> rintro _ ⟨⟩
  | _ => exact answersIntact_fail rfl

theorem Bookkept.applyEffectTransactionInner_intact
    (hOp : isPlanned request.header.operation ∨ request.header.paneId = none)
    (outcome : EffectOutcome) :
    AnswersIntact (state.applyEffectTransactionInner memory request outcome).answer := by
  unfold applyEffectTransactionInner
  split
  · next paneId effectId hPane hEffectId =>
      replace hOp : isPlanned request.header.operation := by
        rcases hOp with hOp | hNone
        · exact hOp
        · rw [hPane] at hNone
          cases hNone
      split
      · next stored hStored => exact h.replayRequest_intact hStored
      · split
        · next stored hEffect => exact h.aliasEffect_intact hEffect
        · exact newEffect_intact hOp outcome
  · exact answersIntact_fail rfl

/-! ## Settling -/

/-- The checks of the requests of an open effect pass. -/
theorem Bookkept.openAliases_failsOnly (hEffect : state.receipts.effects[effectId]? = some stored)
    (hPending : stored.state.isPending) :
    FailsIntact (state.openAliases memory label effectId stored.fingerprint stored.reply) := by
  obtain ⟨ids, hIds⟩ := h.receipts.exists_index hEffect
  have hMem := h.receipts.mem_index effectId ids hIds
  refine .some_bind hIds <| .refuseIf_bind (fun hEmpty => ?_) fun _ =>
    .refuseIf_bind (fun hAny => ?_) fun _ => .bind (.forM fun id hId => ?_) fun _ _ =>
    .refuseIf_bind (fun hQueued => ?_) fun _ => .past rfl .ok
  · -- an open effect has been asked for
    obtain ⟨id, request, hRequest, hOf⟩ := h.receipts.asked effectId stored hEffect hPending
    have hIn := (hMem id).mpr ⟨request, hRequest, hOf⟩
    exact absurd hIn (TreeSet.isEmpty_iff_forall_not_mem.mp hEmpty id)
  · -- the index has every request of the effect
    rw [List.any_eq_true] at hAny
    obtain ⟨⟨id, request⟩, hEntry, hOf⟩ := hAny
    rw [TreeMap.mem_toList_iff_getElem?_eq_some] at hEntry
    rw [Bool.and_eq_true, beq_iff_eq, Bool.not_eq_true', ← Bool.not_eq_true,
      TreeSet.contains_iff_mem] at hOf
    exact absurd ((hMem id).mpr ⟨request, hEntry, hOf.1⟩) hOf.2
  · obtain ⟨request, hRequest, hOf⟩ := (hMem id).mp (TreeSet.mem_toList.mp hId)
    obtain ⟨effect, hSame, hAgrees⟩ := h.receipts.effect_of_request id request hRequest
    rw [hOf, hEffect, Option.some.injEq] at hSame
    subst hSame
    refine .some_bind hRequest <| .of_refuseIf fun hBad => absurd hBad ?_
    simp [show request.effectId = effectId from hOf, hAgrees.1, hAgrees.2]
  · -- an open effect stands in no queue
    rcases hQueued with hQueued | hQueued
    · obtain ⟨effect, hSame, hKept⟩ :=
        h.receipts.effect_of_queued effectId (List.contains_iff_mem.mp hQueued)
      rw [hEffect, Option.some.injEq] at hSame
      subst hSame
      rw [receiptScheme.kept_of_pending stored hPending] at hKept
      cases hKept
    · rw [List.any_eq_true] at hQueued
      obtain ⟨id, hId, hOrder⟩ := hQueued
      obtain ⟨request, effect, hRequest, hSame, hSettled⟩ :=
        h.receipts.request_of_queued id (List.contains_iff_mem.mp hOrder)
      obtain ⟨same, hSameRequest, hOf⟩ := (hMem id).mp (TreeSet.mem_toList.mp hId)
      rw [hRequest, Option.some.injEq] at hSameRequest
      subst hSameRequest
      rw [hOf, hEffect, Option.some.injEq] at hSame
      subst hSame
      rw [show receiptScheme.pending stored from hPending] at hSettled
      cases hSettled

theorem Bookkept.settleReceipts_failsOnly
    (hEffect : state.receipts.effects[effectId]? = some stored) {requestIds : TreeSet Uuid}
    {settled : StoredEffectState}
    (hIds : state.receipts.effectRequestIds[effectId]? = some requestIds) :
    FailsIntact (state.settleReceipts label effectId requestIds settled reply) := by
  unfold settleReceipts
  rw [hEffect]
  dsimp only
  rw [if_pos]
  · exact FailsOnly.ok
  · rw [List.all_eq_true]
    intro id hId
    obtain ⟨request, hRequest, _⟩ :=
      (h.receipts.mem_index effectId requestIds hIds id).mp (TreeSet.mem_toList.mp hId)
    rw [← TreeMap.mem_iff_contains, TreeMap.mem_iff_isSome_getElem?, hRequest]
    rfl

/-- An open input is settled without complaint. -/
theorem Bookkept.settleInput_failsOnly {identity : InputEffectIdentity}
    (hEffect : state.receipts.effects[identity.effectId]? = some stored)
    (hFingerprint : stored.fingerprint = inputFingerprint identity)
    (hState : stored.state = .input .acceptedNotDurable) :
    FailsIntact (state.settleInput memory identity target stored) := by
  have hShaped := h.shaped _ _ hEffect
  simp only [Shaped, hState, hFingerprint] at hShaped
  obtain ⟨_, hLt, hReply⟩ := hShaped
  have hStands := h.stands hEffect
  simp only [Fenced, hState, hFingerprint] at hStands
  obtain ⟨pane, hPane, hFence, hCleared⟩ : ∃ pane, state.panes[identity.paneId]? = some pane ∧
      inputFence (some pane) identity (identity.sequence + 1) ∧
      clearPendingInput (some pane) = .ok (withoutPendingInput pane) := by
    rcases hStands with hPane | ⟨status, hPane⟩ <;>
      exact ⟨_, hPane, by simp [inputFence, inputFingerprint], rfl⟩
  have hPendingReply : stored.reply = inputReply identity .acceptedNotDurable := hReply
  refine .refuseIf_bind (fun hBad => absurd hPendingReply hBad) fun _ =>
    .some_bind (checkedSucc_eq_some.mpr ⟨hLt, rfl⟩) <| .refuseIf_bind (fun hBad => ?_) fun _ =>
    .bind ?_ fun requestIds hIds => .bind ?_ fun _ _ =>
    .bind (h.settleReceipts_failsOnly hEffect (openAliases_eq_ok hIds)) fun _ _ => .ok
  · rw [hPane, hFence] at hBad
    cases hBad
  · rw [← hPendingReply]
    exact h.openAliases_failsOnly hEffect (by rw [hState]; rfl)
  · rw [hPane, hCleared]
    exact FailsOnly.ok

theorem Bookkept.transitionPendingInput_failsOnly {identity : InputEffectIdentity} : FailsIntact
      (state.transitionPendingInput memory identity target) := by
  refine .past rfl <| .bind validateForInputBytes_failsOnly fun _ _ =>
    .okOr_bind (fun _ => rfl) fun stored hEffect => .refuseIf_bind (fun _ => rfl) fun hSame => ?_
  rw [not_not] at hSame
  split
  · next hState =>
      have hShaped := h.shaped _ _ hEffect
      simp only [Shaped, hState, hSame] at hShaped
      exact .refuseIf_bind (fun hBad => absurd hShaped.2.2 hBad) fun _ => .ok
  · refine .refuseIf_bind (fun _ => rfl) fun hState => ?_
    rw [not_not] at hState
    exact h.settleInput_failsOnly hEffect hSame hState

/-! ## Checkpoints -/

/-- An open checkpoint is committed without complaint. -/
theorem Bookkept.markCheckpointCommitted_failsOnly
    (hEffect : state.receipts.effects[identity.effectId]? = some stored)
    (hState : stored.state = .checkpoint .outcomeIndeterminate identity) :
    FailsIntact (state.markCheckpointCommitted memory identity) := by
  have hShaped := h.shaped _ _ hEffect
  simp only [Shaped, hState] at hShaped
  obtain ⟨_, _, hReply, _, hPane, hGeneration, hSequence, hMux⟩ := hShaped
  have hFenced := h.stands hEffect
  simp only [Fenced, hState] at hFenced
  rw [← hPane] at hFenced
  have hFence : checkpointFence state.panes[identity.paneId]? identity
      (identity.sequence + 1) := by
    rcases hFenced.2 with hSome | ⟨status, hSome⟩
    · rw [hSome]
      simp [checkpointFence, hGeneration, hSequence, hMux]
    · rw [hSome]
      simp [checkpointFence, hGeneration]
  unfold markCheckpointCommitted
  rw [hEffect]
  dsimp only
  rw [hState]
  dsimp only
  rw [if_neg (by simp), if_neg (by simp)]
  refine .past rfl <| .okOr_bind (fun _ => rfl) fun next hNext =>
    .refuseIf_bind (fun hBad => ?_) fun _ => .bind ?_ fun _ _ => .bind ?_ fun requestIds hIds =>
    .bind (h.settleReceipts_failsOnly hEffect (openAliases_eq_ok hIds)) fun _ _ => .ok
  · obtain ⟨_, rfl⟩ := checkedSucc_eq_some.mp hNext
    rw [hFence] at hBad
    cases hBad
  · rw [pendingCheckpointReceipt_eq_ok hReply]
    exact FailsOnly.ok
  · exact h.openAliases_failsOnly hEffect (by rw [hState]; rfl)

theorem Bookkept.reconcileCheckpointPublication_intact :
    AnswersIntact (state.reconcileCheckpointPublication memory identity published).answer := by
  fun_cases reconcileCheckpointPublication with
  | case3 stored hEffect hState error hError =>
    rw [not_not] at hState
    have hShaped := h.shaped _ _ hEffect
    simp only [Shaped, hState] at hShaped
    rw [pendingCheckpointReceipt_eq_ok hShaped.2.2.1] at hError
    cases hError
  | case5 stored hEffect hState _ _ _ _ error hError =>
    exact answersIntact_fail
      (h.markCheckpointCommitted_failsOnly hEffect (not_not.mp hState) error hError)
  | case4 | case6 => exact answersIntact_ok
  | _ => exact answersIntact_fail rfl

theorem Bookkept.replayCheckpoint_intact {stored : StoredRequest}
    (hStored : state.receipts.requests[requestId]? = some stored)
    (hOp : fingerprint.operation = .checkpoint) :
    AnswersIntact (state.replayCheckpoint memory stored fingerprint identity published).answer := by
  obtain ⟨effect, hEffect, hAgrees⟩ := h.effect_of_request hStored
  unfold replayCheckpoint
  split
  · exact answersIntact_fail rfl
  · next hSame =>
      rw [not_or, not_not, not_not] at hSame
      rw [hSame.2] at hEffect
      have hEffectOp : effect.fingerprint.operation = .checkpoint := by
        rw [← hAgrees.1, hSame.1]
        exact hOp
      obtain ⟨disposition, storedIdentity, hState, hReply⟩ :=
        (h.shaped _ _ hEffect).checkpoint hEffectOp
      rw [hEffect]
      dsimp only
      rw [hState]
      cases disposition with
      | outcomeIndeterminate => exact h.reconcileCheckpointPublication_intact
      | committed =>
        rw [hAgrees.2, hReply]
        exact answersIntact_ok

theorem Bookkept.storeCheckpointAlias_intact
    (hEffect : state.receipts.effects[identity.effectId]? = some stored)
    (hOp : stored.fingerprint.operation = .checkpoint) (call : Option Call) :
    AnswersIntact (state.storeCheckpointAlias memory identity call).answer := by
  obtain ⟨disposition, storedIdentity, _, hReply⟩ :=
    (h.shaped _ _ hEffect).checkpoint hOp
  unfold storeCheckpointAlias
  rw [hEffect]
  dsimp only
  rw [hReply]
  dsimp only [checkpointReceiptFromReply]
  split
  · next error hError => exact answersIntact_fail (h.addAlias_failsOnly hEffect error hError)
  · exact answersIntact_ok

theorem Bookkept.aliasCheckpoint_intact
    (hEffect : state.receipts.effects[identity.effectId]? = some stored)
    (hOp : fingerprint.operation = .checkpoint) :
    AnswersIntact (state.aliasCheckpoint settleMemory storeMemory stored fingerprint identity
      published).answer := by
  unfold aliasCheckpoint
  split
  · exact answersIntact_fail rfl
  · next hSame =>
      rw [not_not] at hSame
      subst hSame
      obtain ⟨disposition, storedIdentity, hState, _⟩ :=
        (h.shaped _ _ hEffect).checkpoint hOp
      rw [hState]
      cases disposition with
      | outcomeIndeterminate =>
        dsimp only
        split
        · exact answersIntact_fail rfl
        · have hReconciled := @Bookkept.reconcileCheckpointPublication_intact state settleMemory
            published storedIdentity h
          split
          · exact hReconciled
          · obtain ⟨hChange, _⟩ := @GuardianProtocolState.reconcileCheckpointPublication_change
              state settleMemory storedIdentity published
            -- A checkpoint stays a checkpoint when it is reconciled.
            obtain ⟨effect, hFound, hKept⟩ := h.kept_change hChange hEffect
              (by simp [receiptScheme, hState, StoredEffectState.isPending])
            exact (h.change hChange).storeCheckpointAlias_intact hFound (by rw [hKept]; exact hOp) _
      | committed => exact h.storeCheckpointAlias_intact hEffect hOp none

theorem Bookkept.applyCheckpointTransactionally_intact :
    AnswersIntact (state.applyCheckpointTransactionally wire settleMemory storeMemory request
      published).answer := by
  fun_cases applyCheckpointTransactionally with
  | case1 error hError => exact answersIntact_fail (validateRequestEnvelope_failsOnly error hError)
  | case4 _ _ _ error hError => exact answersIntact_fail (checkpointIdentity_failsOnly error hError)
  | case5 _ _ hOp _ _ _ stored hStored => exact h.replayCheckpoint_intact hStored (not_not.mp hOp)
  | case6 _ _ hOp _ _ _ _ stored hEffect => exact h.aliasCheckpoint_intact hEffect (not_not.mp hOp)
  | case7 _ _ _ identity hIdentity => exact newCheckpoint_intact (checkpointIdentity_eq_ok hIdentity)
  | _ => exact answersIntact_fail rfl

/-! ## Spawns -/

theorem Bookkept.checkGenericEffect_failsOnly :
    FailsIntact (state.checkGenericEffect wire request) := by
  exact .bind validateRequestEnvelope_failsOnly fun _ _ => .past rfl <|
    .bind (fenceReservedGenesisSpawn_failsOnly h.spawns) fun _ _ => .past rfl <| .past rfl <|
    .of_refuseIf fun _ => rfl

theorem Bookkept.completedGenesisSpawnReply_failsOnly :
    FailsIntact (state.completedGenesisSpawnReply wire request) := by
  refine .bind validateRequestEnvelope_failsOnly fun _ _ => .past rfl <| .past rfl ?_
  split
  · exact .bind (fenceReservedGenesisSpawn_failsOnly h.spawns) fun _ _ => .ok
  · refine .past rfl ?_
    split
    · exact FailsOnly.ok
    · next stored hStored =>
        obtain ⟨effect, hEffect, hAgrees⟩ := h.effect_of_request hStored
        refine .okOr_bind (fun _ => rfl) fun paneId _ => .refuseIf_bind (fun _ => rfl) fun hSame =>
          .some_bind hEffect <| .refuseIf_bind (fun hBad => ?_) fun _ => .ok
        rw [not_or, not_not] at hSame
        rw [← hAgrees.1, hSame.1, ← hAgrees.2] at hBad
        exact absurd hBad (by simp)

/-! ## Open outcomes -/

/-- The reply that an open effect was to have comes from its receipt. -/
theorem Bookkept.intendedReply_spec :
    FailsIntact (state.intendedReply fingerprint requestId effectId) ∧
      ∀ intended, state.intendedReply fingerprint requestId effectId = .ok intended →
        intended.isSome → ∃ (effectId : Uuid) (effect : StoredEffect),
          state.receipts.effects[effectId]? = some effect ∧ effect.state = .outcomeIndeterminate ∧
            effect.fingerprint.paneId = fingerprint.paneId := by
  unfold intendedReply
  split
  · next stored hStored =>
      obtain ⟨effect, hEffect, hAgrees⟩ := h.effect_of_request hStored
      unfold intendedByRequest
      constructor
      · refine .refuseIf_bind (fun _ => rfl) fun hSame => ?_
        rw [not_or, not_not, not_not] at hSame
        rw [hSame.2] at hEffect
        refine .some_bind hEffect <| .refuseIf_bind (fun hBad => ?_) fun _ => .ok
        rw [← hAgrees.1, hSame.1, ← hAgrees.2] at hBad
        exact absurd hBad (by simp)
      · intro intended hIntended hSome
        simp only [↓refuseIf_bind_eq_ok, bind_eq_ok, okOr_eq_ok, not_or, not_not] at hIntended
        obtain ⟨_, found, hFound, hSame, hIntended⟩ := hIntended
        cases hIntended
        split at hSome
        · next hOpen => exact ⟨effectId, found, hFound, hOpen, by rw [hSame.1]⟩
        · cases hSome
  · split
    · next stored hEffect =>
        unfold intendedByEffect
        constructor
        · exact .past rfl .ok
        · intro intended hIntended hSome
          rw [refuseIf_bind_eq_ok, not_not] at hIntended
          obtain ⟨hSame, hIntended⟩ := hIntended
          cases hIntended
          split at hSome
          · next hOpen => exact ⟨effectId, stored, hEffect, hOpen, by rw [hSame]⟩
          · cases hSome
    · refine ⟨FailsOnly.ok, fun intended hIntended hSome => ?_⟩
      cases hIntended
      cases hSome

theorem Bookkept.indeterminateEffectReply_failsOnly :
    FailsIntact (state.indeterminateEffectReply wire request) := by
  refine .bind validateRequestEnvelope_failsOnly fun _ _ => .past rfl <|
    .past rfl <| .okOr_bind (fun _ => rfl) fun paneId _ => .okOr_bind (fun _ => rfl) fun _ _ =>
    .bind h.intendedReply_spec.1 fun intended hIntended => ?_
  cases intended with
  | none => exact FailsOnly.ok
  | some reply =>
    -- An effect that is to be reported as open has its pane in quarantine.
    obtain ⟨effectId, effect, hEffect, hState, hPaneId⟩ := h.intendedReply_spec.2 _ hIntended rfl
    have hFenced := h.stands hEffect
    simp only [Fenced, hState, hPaneId] at hFenced
    obtain ⟨generation, exitStatus, hPane⟩ := hFenced
    refine .refuseIf_bind (fun hBad => ?_) fun _ => effectOutcomeIndeterminate_failsOnly.map
    rw [show state.panes[paneId]? = _ from hPane] at hBad
    cases hBad

/-! ## Observations -/

/-- The number of a new snapshot is fresh. -/
theorem Bookkept.takeSnapshot_failsOnly :
    FailsIntact (state.takeSnapshot muxIncarnation).2 := by
  unfold takeSnapshot
  split
  · exact .error rfl
  · rw [if_neg]
    · split
      · exact .error rfl
      · exact FailsOnly.ok
    · rintro (hZero | hTaken)
      · have := h.nextSnapshot
        omega
      · exact Nat.lt_irrefl _ (h.snapshots _ (TreeMap.mem_iff_contains.mpr hTaken))

theorem Bookkept.census_failsOnly : FailsIntact (state.census page muxIncarnation).2 := by
  unfold census
  split
  · split
    · next after error hTaken =>
        have hSnapshot := @Bookkept.takeSnapshot_failsOnly state muxIncarnation h
        rw [hTaken] at hSnapshot
        rintro _ ⟨⟩
        exact hSnapshot error rfl
    · exact censusPage_failsOnly
  · exact censusPage_failsOnly

theorem Bookkept.applyObservation_failsOnly :
    FailsIntact (state.applyObservation wire request).2 := by
  unfold applyObservation
  split
  · next error hError =>
      have hCheck : FailsIntact (state.checkObservation wire request) :=
        .bind validateRequestEnvelope_failsOnly fun _ _ => .of_refuseIf fun _ => rfl
      rintro _ ⟨⟩
      exact hCheck error hError
  · unfold observe
    split
    · exact FailsOnly.ok
    · split
      · next error hError =>
          rintro _ ⟨⟩
          exact decoded_failsOnly error hError
      · exact h.census_failsOnly
    · exact attach_failsOnly
    · exact .okOr_bind (fun _ => rfl) fun _ _ =>
        .bind requireReplayGeneration_failsOnly fun _ _ => .ok
    · exact queryInputEffect_failsOnly
    · exact .error rfl

/-! ## Events -/

/-- **No event is answered with an error about the bookkeeping.** -/
theorem Bookkept.step_intact (wire : Wire) (event : Event)
    (hError : (Guardian.step wire state event).error = some error) : error.Intact := by
  cases event with
  | effect _ _ outcome =>
    refine AnswersIntact.outcome ?_ hError
    unfold applyEffectTransactionally
    split
    · next refused hRefused =>
        exact answersIntact_fail (h.checkGenericEffect_failsOnly refused hRefused)
    · next hCheck =>
        exact h.applyEffectTransactionInner_intact (isPlanned_of_checkGenericEffect hCheck) outcome
  | input _ _ outcome =>
    refine AnswersIntact.outcome ?_ hError
    unfold applyInputEffectTransactionally
    split
    · next refused hRefused => exact answersIntact_fail (checkInputEffect_failsOnly refused hRefused)
    · next hCheck =>
        exact h.applyEffectTransactionInner_intact
          (.inl (isPlanned_of_checkInputEffect hCheck)) outcome
  | checkpoint =>
    exact h.applyCheckpointTransactionally_intact.outcome hError
  | settleInput =>
    exact written_intact h.transitionPendingInput_failsOnly hError
  | reserve =>
    exact written_intact (reserveGenesisSpawn_failsOnly h.spawns) hError
  | finalize _ _ _ outcome =>
    refine AnswersIntact.outcome ?_ hError
    unfold finalizeGenesisSpawnTransactionally
    split
    · next refused hRefused => exact answersIntact_fail (checkContinuation_failsOnly refused hRefused)
    · next hCheck =>
        exact h.applyEffectTransactionInner_intact
          (.inl (isPlanned_of_checkContinuation hCheck)) outcome
  | fence =>
    exact written_intact (installDurableSpawnFence_failsOnly h.spawns) hError
  | disconnect =>
    exact written_intact (.past rfl .ok) hError
  | exit =>
    exact written_intact (.okOr_bind (fun _ => rfl) fun _ _ => .okOr_bind (fun _ => rfl) fun _ _ =>
      .ok) hError
  | observe => exact seen_intact h.applyObservation_failsOnly hError
  | completedGenesisSpawn => exact seen_intact h.completedGenesisSpawnReply_failsOnly hError
  | indeterminateEffect => exact seen_intact h.indeterminateEffectReply_failsOnly hError
  | preflightReplay => exact seen_intact preflightReplay_failsOnly hError
  | preflightStage => exact seen_intact preflightCheckpointStage_failsOnly hError
  | preflightSeal request =>
    have hSeal : FailsIntact (state.preflightCheckpointSeal wire request) :=
      .bind preflightCheckpointStage_failsOnly fun _ _ => .refuseIf_bind (fun _ => rfl) fun _ => .ok
    exact seen_intact hSeal hError

/-! ## Runs -/

theorem Bookkept.run (wire : Wire) (events : List Event) :
    Bookkept (Guardian.run wire state events).1 := by
  induction events generalizing state with
  | nil => exact h
  | cons event _ ih => exact ih (h.step wire event)

/-- What the maps of the guardian say to each other. -/
structure Consistent (state : GuardianProtocolState) : Prop where
  /-- Neither receipts nor panes are too many. -/
  requests_le : state.receipts.requests.size ≤ guardianMaxEffectReceipts
  effects_le : state.receipts.effects.size ≤ guardianMaxEffectReceipts
  slots_le : state.occupiedPaneSlots ≤ guardianMaxPanes
  /-- A retained request has its effect, with its fingerprint and reply. -/
  request : ∀ (id : Uuid) stored, state.receipts.requests[id]? = some stored →
    ∃ effect, state.receipts.effects[stored.effectId]? = some effect ∧
      stored.fingerprint = effect.fingerprint ∧ stored.reply = effect.reply
  /-- The reverse index has exactly the retained requests of each retained effect. -/
  indexed : ∀ effectId : Uuid, effectId ∈ state.receipts.effectRequestIds ↔
    effectId ∈ state.receipts.effects
  index : ∀ (effectId : Uuid) ids, state.receipts.effectRequestIds[effectId]? = some ids →
    ∀ id : Uuid, id ∈ ids ↔ ∃ stored, state.receipts.requests[id]? = some stored ∧
      stored.effectId = effectId
  /-- A pane waits for an input exactly while that input is accepted and not durable. -/
  waiting : ∀ paneId effectId : Uuid,
    (∃ pane, state.panes[paneId]? = some pane ∧ pane.pendingInputEffect = some effectId) ↔
      ∃ effect, state.receipts.effects[effectId]? = some effect ∧
        effect.state = .input .acceptedNotDurable ∧ effect.fingerprint.paneId = paneId
  /-- A pane is barred exactly by its indeterminate checkpoint. -/
  barred : ∀ paneId effectId : Uuid, state.indeterminateCheckpointsByPane[paneId]? = some effectId ↔
      ∃ effect identity, state.receipts.effects[effectId]? = some effect ∧
        effect.state = .checkpoint .outcomeIndeterminate identity ∧
        effect.fingerprint.paneId = paneId

theorem Bookkept.consistent : Consistent state where
  requests_le := h.receipts.requests_le.trans_eq h.capacity
  effects_le := h.receipts.effects_le.trans_eq h.capacity
  slots_le := h.slots
  request := h.receipts.effect_of_request
  indexed := h.receipts.indexed
  index := h.receipts.mem_index
  waiting := by
    intro paneId effectId
    constructor
    · rintro ⟨pane, hPane, hPending⟩
      exact (h.panes paneId).waiting effectId (by rw [hPane]; exact hPending)
    · rintro ⟨effect, hEffect, hState, rfl⟩
      have hFenced := h.stands hEffect
      simp only [Fenced, hState] at hFenced
      rcases hFenced with hPane | ⟨status, hPane⟩
      · exact ⟨_, hPane, rfl⟩
      · exact ⟨_, hPane, rfl⟩
  barred := by
    intro paneId effectId
    constructor
    · exact (h.panes paneId).barred effectId
    · rintro ⟨effect, identity, hEffect, hState, rfl⟩
      have hFenced := h.stands hEffect
      simp only [Fenced, hState] at hFenced
      exact hFenced.1

end Kept

/-- **The bookkeeping of the guardian never breaks.**  After every run the maps fit together, and
whatever is asked next is not answered with an error about them and evicts no spawn and no open
effect. -/
theorem guardian_bookkeeping (wire : Wire) (incarnation : Uuid) (events : List Event) :
    let state := (Guardian.run wire (.initial incarnation) events).1
    Consistent state ∧ ∀ event,
      (∀ error, (Guardian.step wire state event).error = some error → error.isBroken = false) ∧
      ∀ (effectId : Uuid) effect, state.receipts.effects[effectId]? = some effect →
        effect.state.isPending ∨ effect.fingerprint.operation = .spawn →
        ∃ found, (Guardian.step wire state event).state.receipts.effects[effectId]? = some found ∧
          found.fingerprint = effect.fingerprint := by
  have h := (bookkept_initial incarnation).run wire events
  refine ⟨h.consistent, fun event => ⟨fun error => h.step_intact wire event, ?_⟩⟩
  intro effectId effect hEffect hOpen
  have hKept : receiptScheme.kept effect := by
    rcases hOpen with hOpen | hOpen
    · simp [receiptScheme, hOpen]
    · simp [receiptScheme, hOpen]
  obtain ⟨middle, hFirst, hSecond⟩ := step_change wire _ event
  rw [(h.change hFirst).effects_asked hSecond]
  exact h.kept_change hFirst hEffect hKept

end Intact

end FrankenTerm.Ports.Guardian
