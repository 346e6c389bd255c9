import FrankenTerm.Ports.GuardianMachine

/-!
# What an event can do to the guardian

Every event of the guardian does one of a dozen things to its state, or two of them in a row: a
repeated checkpoint is reconciled before it gets another request.  `Change` lists them, with what was
checked before and with what is to be remembered about them, a call of a callback or the disposition
of an input.  Whatever holds along the runs of the guardian is shown case by case from this list.

## Main results

* `step_change` — an event is a change with its mark, and possibly another request behind it.
-/

namespace FrankenTerm.Ports.Guardian

open Std (TreeMap TreeSet)
open Verified Verified.Check Verified.ReceiptWindow

/-- What is remembered about a run: the calls of callbacks and the dispositions of inputs. -/
inductive Mark where
  | called (call : Call)
  | settled (identity : InputEffectIdentity) (target : InputEffectState)
deriving DecidableEq

namespace GuardianProtocolState

/-- An effect that is ready for its callback. -/
structure Attempt (state : GuardianProtocolState) (request : GuardianRequest)
    (paneId effectId : Uuid) (plan : CapacityPlan Uuid) (reply : GuardianReply)
    (next : GuardianPaneState) : Prop where
  hasPane : request.header.paneId = some paneId
  hasEffect : request.header.effectId = some effectId
  freshRequest : state.receipts.requests[request.header.requestId]? = none
  freshEffect : state.receipts.effects[effectId]? = none
  planned : state.Planned paneId effectId request.header reply next
  capacity : state.planReceiptCapacity true true = some plan

/-- The identity of a checkpoint is the one of its request. -/
structure Identifies (identity : CheckpointEffectIdentity) (header : GuardianRequestHeader) :
    Prop where
  pane : header.paneId = some identity.paneId
  effect : header.effectId = some identity.effectId
  operation : header.operation = .checkpoint
  request : header.requestId = identity.requestId
  mux : header.muxIncarnation = identity.muxIncarnation
  generation : header.leaseGeneration = identity.generation
  sequence : header.leaseSequence = identity.sequence

/-- The pane of an input that has been settled. -/
def withoutPendingInput : GuardianPaneState → GuardianPaneState
  | .liveClaimed generation muxIncarnation nextSequence _ =>
    .liveClaimed generation muxIncarnation nextSequence none
  | .exitedUnclaimed generation exitStatus _ => .exitedUnclaimed generation exitStatus none
  | pane => pane

/-- The state behind the settling of an input. -/
def withInputSettled (state : GuardianProtocolState) (identity : InputEffectIdentity)
    (target : InputEffectState) (stored : StoredEffect) (requestIds : TreeSet Uuid)
    (pane : GuardianPaneState) : GuardianProtocolState :=
  { state with
    panes := state.panes.insert identity.paneId (withoutPendingInput pane)
    receipts := state.receipts.settle identity.effectId
      { stored with reply := inputReply identity target, state := .input target } requestIds
      fun request => { request with reply := inputReply identity target } }

/-- The state behind the settling of a checkpoint. -/
def withCheckpointSettled (state : GuardianProtocolState) (identity : CheckpointEffectIdentity)
    (stored : StoredEffect) (requestIds : TreeSet Uuid) : GuardianProtocolState :=
  let reply := GuardianReply.checkpointReceipt (.fromIdentity identity .committed)
  { state with
    receipts := state.receipts.settle identity.effectId
      { stored with reply, state := .checkpoint .committed identity } requestIds
      fun request => { request with reply }
    indeterminateCheckpointsByPane := state.indeterminateCheckpointsByPane.erase identity.paneId }

/-- **What one event can do**, or one half of it. -/
inductive Change (state : GuardianProtocolState) : GuardianProtocolState → Option Mark → Prop where
  | quiet : Change state state none
  | quarantine {paneId : Uuid} {old : GuardianPaneState} {reason : GuardianQuarantineReason}
      (hPane : state.panes[paneId]? = some old) (hLive : isLive old = true)
      (hPending : old.pendingInputEffect = none)
      (hBarrier : state.indeterminateCheckpointsByPane[paneId]? = none) :
      Change state { state with
        panes := state.panes.insert paneId (.quarantined old.generation reason none) } none
  | notApplied {request : GuardianRequest} {paneId effectId : Uuid} {plan : CapacityPlan Uuid}
      {reply : GuardianReply} {next : GuardianPaneState}
      (h : state.Attempt request paneId effectId plan reply next) :
      Change state state (some (.called
        { fingerprint := .fromAuthenticatedRequest paneId request, effectId
          outcome := .definitelyNotApplied }))
  | installed {request : GuardianRequest} {paneId effectId : Uuid} {plan : CapacityPlan Uuid}
      {reply : GuardianReply} {next : GuardianPaneState}
      (h : state.Attempt request paneId effectId plan reply next) (indeterminate : Bool) :
      Change state (state.installEffect plan request.header.requestId
        (.fromAuthenticatedRequest paneId request) effectId reply next indeterminate)
        (some (.called
          { fingerprint := .fromAuthenticatedRequest paneId request, effectId
            outcome := if indeterminate then .outcomeIndeterminate else .applied }))
  | asked {requestId effectId : Uuid} {stored : StoredEffect} {plan : CapacityPlan Uuid}
      (hRequest : state.receipts.requests[requestId]? = none)
      (hEffect : state.receipts.effects[effectId]? = some stored)
      (hPlan : state.planReceiptCapacity true false = some plan) :
      Change state { state with
        receipts := (state.commitReceiptCapacity plan).ask effectId requestId
          ⟨stored.fingerprint, effectId, stored.reply⟩ (!stored.state.isPending) } none
  | checkpoint {request : GuardianRequest} {identity : CheckpointEffectIdentity}
      {plan : CapacityPlan Uuid} (hIdentity : Identifies identity request.header)
      (hRequest : state.receipts.requests[identity.requestId]? = none)
      (hEffect : state.receipts.effects[identity.effectId]? = none)
      (hNext : state.NextMutation identity.paneId request.header)
      (hLt : identity.sequence < RustText.u64Max)
      (hPlan : state.planReceiptCapacity true true = some plan)
      (disposition : CheckpointDisposition) :
      Change state (state.installCheckpoint plan
        (.fromAuthenticatedRequest identity.paneId request) identity
        (.liveClaimed identity.generation identity.muxIncarnation (identity.sequence + 1) none)
        disposition)
        (some (.called
          { fingerprint := .fromAuthenticatedRequest identity.paneId request
            effectId := identity.effectId
            outcome := if disposition = .committed then .applied else .outcomeIndeterminate }))
  | reconciled {identity : CheckpointEffectIdentity} {stored : StoredEffect}
      (hEffect : state.receipts.effects[identity.effectId]? = some stored)
      (hState : stored.state = .checkpoint .outcomeIndeterminate identity) (published : Bool) :
      Change state state (some (.called (reconcileCall stored identity published)))
  | committed {identity : CheckpointEffectIdentity} {stored : StoredEffect}
      {requestIds : TreeSet Uuid}
      (hEffect : state.receipts.effects[identity.effectId]? = some stored)
      (hState : stored.state = .checkpoint .outcomeIndeterminate identity)
      (hBarrier : state.indeterminateCheckpointsByPane[identity.paneId]? = some identity.effectId)
      (hIds : state.receipts.effectRequestIds[identity.effectId]? = some requestIds) :
      Change state (state.withCheckpointSettled identity stored requestIds)
        (some (.called (settlingCall stored identity)))
  | inputSettled {identity : InputEffectIdentity} {target : InputEffectState}
      {stored : StoredEffect} {requestIds : TreeSet Uuid} {pane : GuardianPaneState}
      (hTarget : isTerminalInput target = true)
      (hEffect : state.receipts.effects[identity.effectId]? = some stored)
      (hFingerprint : stored.fingerprint = inputFingerprint identity)
      (hState : stored.state = .input .acceptedNotDurable)
      (hPane : state.panes[identity.paneId]? = some pane)
      (hWaits : pane.pendingInputEffect = some identity.effectId)
      (hIds : state.receipts.effectRequestIds[identity.effectId]? = some requestIds) :
      Change state (state.withInputSettled identity target stored requestIds pane)
        (some (.settled identity target))
  | inputSettledBefore {identity : InputEffectIdentity} {target : InputEffectState}
      {stored : StoredEffect} (hTarget : isTerminalInput target = true)
      (hEffect : state.receipts.effects[identity.effectId]? = some stored)
      (hFingerprint : stored.fingerprint = inputFingerprint identity)
      (hState : stored.state = .input target) :
      Change state state (some (.settled identity target))
  | reserved {record : GenesisReservation}
      (hFresh : state.preflightGenesisReservationIdentity record = .ok ()) :
      Change state { state with
        genesis := state.genesis.insert record.toDurableSpawnFence record } none
  | fenced {candidate : DurableSpawnFence}
      (hFresh : state.freshDurableSpawnFence candidate = .ok ()) :
      Change state { state with durable := state.durable.insert candidate candidate } none
  | disconnected (muxIncarnation : Uuid) :
      Change state { state with panes := state.panes.map (state.retireLease muxIncarnation) } none
  | exited {paneId : Uuid} {exitStatus : Int} {pane next : GuardianPaneState}
      (hPane : state.panes[paneId]? = some pane) (hExit : exitedPane exitStatus pane = some next) :
      Change state { state with panes := state.panes.insert paneId next } none
  | census {after : GuardianProtocolState}
      (hSame : after = { state with
        censusSnapshots := after.censusSnapshots
        censusSnapshotOrder := after.censusSnapshotOrder
        nextCensusSnapshotSequence := after.nextCensusSnapshotSequence })
      (hNext : state.nextCensusSnapshotSequence ≤ after.nextCensusSnapshotSequence)
      (hIds : ∀ id : Uuid, id ∈ after.censusSnapshots → id ∈ state.censusSnapshots ∨
        id < after.nextCensusSnapshotSequence) :
      Change state after none

/-! ## Effects -/

section Transactions

variable {state : GuardianProtocolState}

/-- Nothing, or another request for a retained effect. -/
inductive Asked (state : GuardianProtocolState) : GuardianProtocolState → Prop where
  | nothing : Asked state state
  | request {requestId effectId : Uuid} {stored : StoredEffect} {plan : CapacityPlan Uuid}
      (hRequest : state.receipts.requests[requestId]? = none)
      (hEffect : state.receipts.effects[effectId]? = some stored)
      (hPlan : state.planReceiptCapacity true false = some plan) :
      Asked state { state with
        receipts := (state.commitReceiptCapacity plan).ask effectId requestId
          ⟨stored.fingerprint, effectId, stored.reply⟩ (!stored.state.isPending) }

variable {memory : Bool} {request : GuardianRequest} {identity : CheckpointEffectIdentity}
  {after : GuardianProtocolState} {wire : Wire}

theorem Asked.change (h : Asked state after) :
    Change state after none := by
  cases h with
  | nothing => exact .quiet
  | request hRequest hEffect hPlan => exact .asked hRequest hEffect hPlan

/-- A change with its mark, and possibly another request behind it. -/
def Changes (state after : GuardianProtocolState) (mark : Option Mark) : Prop :=
  ∃ middle, Change state middle mark ∧ Asked middle after

theorem Change.changes {mark : Option Mark}
    (h : Change state after mark) : Changes state after mark := ⟨after, h, .nothing⟩

variable {effectId paneId requestId : Uuid} {stored : StoredEffect}
  {fingerprint : EffectFingerprint} {requestIds : TreeSet Uuid} {published : Bool}
  {reply : GuardianReply}

/-- A refusal installs nothing but a quarantine. -/
theorem refuse_change {refused : Refused} (h : state.Harmless paneId refused) :
    Change state (state.refuse paneId refused) none := by
  unfold refuse
  split
  · exact .quiet
  · next pane hQuarantine =>
      obtain ⟨old, reason, hPane, hLive, hPending, hBarrier, rfl⟩ := h.quarantine pane hQuarantine
      exact .quarantine hPane hLive hPending hBarrier

theorem addAlias_asked {site expected : String}
    (hRequest : state.receipts.requests[requestId]? = none)
    (hEffect : state.receipts.effects[effectId]? = some stored)
    (h : state.addAlias memory site expected requestId effectId stored = .ok after) :
    Asked state after := by
  unfold addAlias at h
  split at h
  · cases h
  · next plan hPlan =>
      dsimp only at h
      split_ifs at h
      cases h
      exact .request hRequest hEffect hPlan

theorem aliasEffect_change (hRequest : state.receipts.requests[requestId]? = none)
    (hEffect : state.receipts.effects[effectId]? = some stored) :
    Change state (state.aliasEffect memory requestId fingerprint effectId stored).state none ∧
      (state.aliasEffect memory requestId fingerprint effectId stored).call = none := by
  fun_cases aliasEffect with
  | case4 _ _ after hAlias => exact ⟨(addAlias_asked hRequest hEffect hAlias).change, rfl⟩
  | _ => exact ⟨.quiet, rfl⟩

/-- The mark of a call. -/
def markOf (call : Option Call) : Option Mark := call.map .called

/-- The operations that `plan_new_effect` plans. -/
def isPlanned (operation : GuardianOperation) : Prop :=
  operation.createsEffect = true ∧ operation ≠ .checkpoint ∧ operation ≠ .guardedStop

theorem newEffect_change (hOp : isPlanned request.header.operation)
    (hPane : request.header.paneId = some paneId)
    (hEffectId : request.header.effectId = some effectId)
    (hRequest : state.receipts.requests[request.header.requestId]? = none)
    (hEffect : state.receipts.effects[effectId]? = none) (outcome : EffectOutcome) :
    Change state (state.newEffect memory request paneId effectId outcome).state
      (markOf (state.newEffect memory request paneId effectId outcome).call) := by
  fun_cases newEffect with
  | case1 _ hRefused => exact refuse_change (planNewEffect_refused hOp.1 hOp.2.1 hOp.2.2 hRefused)
  | case5 reply next hPlanned plan hPlan =>
    have h : state.Attempt request paneId effectId plan reply next :=
      ⟨hPane, hEffectId, hRequest, hEffect, planNewEffect_cases hPlanned, hPlan⟩
    cases outcome with
    | definitelyNotApplied => exact .notApplied h
    | applied => exact .installed h false
    | outcomeIndeterminate => exact .installed h true
  | _ => exact .quiet

/-- An operation that is planned, or a stop, which names no pane. -/
theorem applyEffectTransactionInner_change
    (hOp : isPlanned request.header.operation ∨ request.header.paneId = none)
    (outcome : EffectOutcome) :
    Change state (state.applyEffectTransactionInner memory request outcome).state
      (markOf (state.applyEffectTransactionInner memory request outcome).call) := by
  unfold applyEffectTransactionInner
  split
  · next paneId effectId hPane hEffectId =>
      replace hOp : isPlanned request.header.operation := by
        rcases hOp with hOp | hNone
        · exact hOp
        · rw [hPane] at hNone
          cases hNone
      split
      · exact .quiet
      · next hRequest =>
          split
          · next stored hEffect =>
              obtain ⟨hChange, hCall⟩ := aliasEffect_change hRequest hEffect
              rw [hCall]
              exact hChange
          · next hEffect => exact newEffect_change hOp hPane hEffectId hRequest hEffect outcome
  · exact .quiet

/-! ## Settling -/

theorem openAliases_eq_ok {label : String} {pendingReply : GuardianReply}
    (h : state.openAliases memory label effectId fingerprint pendingReply = .ok requestIds) :
    state.receipts.effectRequestIds[effectId]? = some requestIds := by
  unfold openAliases at h
  simp only [↓refuseIf_bind_eq_ok, bind_eq_ok, okOr_eq_ok] at h
  obtain ⟨ids, hIds, _, _, _, _, _, _, h⟩ := h
  cases h
  exact hIds

theorem settleReceipts_eq_ok {label : String} {settled : StoredEffectState}
    {receipts : Window Uuid StoredEffect StoredRequest}
    (hEffect : state.receipts.effects[effectId]? = some stored)
    (h : state.settleReceipts label effectId requestIds settled reply = .ok receipts) :
    receipts = state.receipts.settle effectId { stored with reply, state := settled } requestIds
      fun request => { request with reply } := by
  unfold settleReceipts at h
  rw [hEffect] at h
  dsimp only at h
  split at h
  · cases h
    rfl
  · cases h

theorem inputFence_pending {pane : Option GuardianPaneState} {identity : InputEffectIdentity}
    {nextSequence : Nat} (h : inputFence pane identity nextSequence) :
    ∃ old, pane = some old ∧ old.pendingInputEffect = some identity.effectId := by
  unfold inputFence at h
  split at h
  · simp only [Bool.and_eq_true, beq_iff_eq] at h
    exact ⟨_, rfl, h.2⟩
  · simp only [Bool.and_eq_true, beq_iff_eq] at h
    exact ⟨_, rfl, h.2⟩
  · cases h

theorem clearPendingInput_eq_ok {old pane : GuardianPaneState}
    (h : clearPendingInput (some old) = .ok pane) : pane = withoutPendingInput old := by
  unfold clearPendingInput at h
  split at h
  · next hNone => cases hNone
  · next hSome =>
      cases hSome
      cases h
      rfl
  · next hSome =>
      cases hSome
      cases h
      rfl
  · cases h

/-- An input is settled, or has been settled in the same way. -/
theorem transitionPendingInput_change {identity : InputEffectIdentity} {target : InputEffectState}
    (h : state.transitionPendingInput memory identity target = .ok (after, reply)) :
    Change state after (some (.settled identity target)) := by
  unfold transitionPendingInput at h
  simp only [↓refuseIf_bind_eq_ok, bind_eq_ok, okOr_eq_ok, not_not, Bool.not_eq_false] at h
  obtain ⟨hTarget, _, _, stored, hEffect, hFingerprint, h⟩ := h
  split at h
  · next hState =>
      rw [refuseIf_bind_eq_ok] at h
      cases h.2
      exact .inputSettledBefore hTarget hEffect hFingerprint hState
  · rw [refuseIf_bind_eq_ok, not_not] at h
    obtain ⟨hState, h⟩ := h
    unfold settleInput at h
    simp only [↓refuseIf_bind_eq_ok, bind_eq_ok, Bool.not_eq_false] at h
    obtain ⟨_, _, _, hFence, requestIds, hIds, cleared, hCleared, receipts, hReceipts, h⟩ := h
    obtain ⟨old, hPane, hWaits⟩ := inputFence_pending hFence
    rw [hPane] at hCleared
    cases h
    rw [clearPendingInput_eq_ok hCleared, settleReceipts_eq_ok hEffect hReceipts]
    exact .inputSettled hTarget hEffect hFingerprint hState hPane hWaits (openAliases_eq_ok hIds)

/-- An open checkpoint is committed. -/
theorem markCheckpointCommitted_eq_ok {receipt : CheckpointReceipt}
    (hEffect : state.receipts.effects[identity.effectId]? = some stored)
    (hState : stored.state = .checkpoint .outcomeIndeterminate identity)
    (h : state.markCheckpointCommitted memory identity = .ok (after, receipt)) :
    state.indeterminateCheckpointsByPane[identity.paneId]? = some identity.effectId ∧
      ∃ requestIds, state.receipts.effectRequestIds[identity.effectId]? = some requestIds ∧
        after = state.withCheckpointSettled identity stored requestIds := by
  unfold markCheckpointCommitted at h
  rw [hEffect] at h
  dsimp only at h
  rw [hState] at h
  dsimp only at h
  rw [if_neg (by simp), if_neg (by simp)] at h
  unfold settleCheckpoint at h
  simp only [↓refuseIf_bind_eq_ok, bind_eq_ok, not_not] at h
  obtain ⟨hBarrier, _, _, _, _, _, requestIds, hIds, receipts, hReceipts, h⟩ := h
  cases h
  rw [settleReceipts_eq_ok hEffect hReceipts]
  exact ⟨hBarrier, requestIds, openAliases_eq_ok hIds, rfl⟩

/-- The publication of an open checkpoint is asked for once more, and commits it or not. -/
theorem reconcileCheckpointPublication_change (memory : Bool) (identity : CheckpointEffectIdentity)
    (published : Bool) :
    let result := state.reconcileCheckpointPublication memory identity published
    Change state result.state (markOf result.call) ∧ (result.state = state ∨
      ∃ stored requestIds, result.state = state.withCheckpointSettled identity stored requestIds) := by
  fun_cases reconcileCheckpointPublication with
  | case4 stored hEffect hState =>
    exact ⟨.reconciled hEffect (not_not.mp hState) _, .inl rfl⟩
  | case5 stored hEffect hState =>
    exact ⟨.reconciled hEffect (not_not.mp hState) _, .inl rfl⟩
  | case6 stored hEffect hState _ _ hPublished after committed hCommitted =>
    rw [not_not] at hState
    rw [Bool.not_eq_false] at hPublished
    subst hPublished
    obtain ⟨hBarrier, requestIds, hIds, rfl⟩ :=
      markCheckpointCommitted_eq_ok hEffect hState hCommitted
    exact ⟨.committed hEffect hState hBarrier hIds, .inr ⟨stored, requestIds, rfl⟩⟩
  | _ => exact ⟨.quiet, .inl rfl⟩

/-! ## Checkpoints -/

theorem checkpointIdentity_eq_ok
    (h : checkpointIdentity wire request = .ok identity) : Identifies identity request.header := by
  unfold checkpointIdentity at h
  simp only [↓refuseIf_bind_eq_ok, bind_eq_ok, okOr_eq_ok, not_not] at h
  obtain ⟨_, _, hOp, paneId, hPane, effectId, hEffect, intent, _, h⟩ := h
  cases h
  exact ⟨hPane, hEffect, hOp, rfl, rfl, rfl, rfl⟩

theorem newCheckpoint_change (hIdentity : Identifies identity request.header)
    (hRequest : state.receipts.requests[identity.requestId]? = none)
    (hEffect : state.receipts.effects[identity.effectId]? = none) (published : Bool) :
    let result := state.newCheckpoint memory request
      (.fromAuthenticatedRequest identity.paneId request) identity published
    Change state result.state (markOf result.call) := by
  fun_cases newCheckpoint with
  | case1 refused hRefused => exact refuse_change (planExactSequence_refused hRefused)
  | case5 sequence next hPlanned _ plan hPlan =>
    obtain ⟨hNext, hLt, hPlanned⟩ := planExactSequence_eq_ok.mp hPlanned
    obtain ⟨rfl, rfl⟩ := Prod.mk.inj hPlanned
    rw [hIdentity.sequence] at hLt ⊢
    rw [hIdentity.generation, hIdentity.mux]
    cases published with
    | false =>
      exact .checkpoint hIdentity hRequest hEffect hNext hLt hPlan .outcomeIndeterminate
    | true => exact .checkpoint hIdentity hRequest hEffect hNext hLt hPlan .committed
  | _ => exact .quiet

theorem storeCheckpointAlias_asked (call : Option Call)
    (hRequest : state.receipts.requests[identity.requestId]? = none) :
    Asked state (state.storeCheckpointAlias memory identity call).state ∧
      (state.storeCheckpointAlias memory identity call).call = call := by
  fun_cases storeCheckpointAlias with
  | case4 stored hEffect _ _ after hAlias => exact ⟨addAlias_asked hRequest hEffect hAlias, rfl⟩
  | _ => exact ⟨.nothing, rfl⟩

theorem aliasCheckpoint_changes {settleMemory storeMemory : Bool}
    (hRequest : state.receipts.requests[identity.requestId]? = none) :
    let result := state.aliasCheckpoint settleMemory storeMemory stored fingerprint identity published
    Changes state result.state (markOf result.call) := by
  unfold aliasCheckpoint
  dsimp only
  split
  · exact Change.quiet.changes
  · split
    · next storedIdentity hState =>
        split
        · exact Change.quiet.changes
        · obtain ⟨hReconciled, hState⟩ :=
            @reconcileCheckpointPublication_change state settleMemory storedIdentity published
          split
          · exact hReconciled.changes
          · have hFresh : (state.reconcileCheckpointPublication settleMemory storedIdentity
                published).state.receipts.requests[identity.requestId]? = none := by
              rcases hState with hSame | ⟨stored, requestIds, hSettled⟩
              · rwa [hSame]
              · rw [hSettled]
                change (state.receipts.requests.map _)[identity.requestId]? = none
                rw [TreeMap.getElem?_map, hRequest, Option.map_none]
            obtain ⟨hStored, hCall⟩ := @storeCheckpointAlias_asked _ storeMemory identity
              (state.reconcileCheckpointPublication settleMemory storedIdentity published).call hFresh
            rw [hCall]
            exact ⟨_, hReconciled, hStored⟩
    · obtain ⟨hStored, hCall⟩ := @storeCheckpointAlias_asked _ storeMemory identity none hRequest
      rw [hCall]
      exact hStored.change.changes
    · exact Change.quiet.changes

theorem replayCheckpoint_change {stored : StoredRequest} :
    let result := state.replayCheckpoint memory stored fingerprint identity published
    Change state result.state (markOf result.call) := by
  fun_cases replayCheckpoint with
  | case3 => exact (reconcileCheckpointPublication_change _ _ _).1
  | _ => exact .quiet

theorem applyCheckpointTransactionally_changes {settleMemory storeMemory : Bool} :
    let result := state.applyCheckpointTransactionally wire settleMemory storeMemory request published
    Changes state result.state (markOf result.call) := by
  fun_cases applyCheckpointTransactionally with
  | case5 => exact replayCheckpoint_change.changes
  | case6 _ _ _ _ _ _ hRequest => exact aliasCheckpoint_changes hRequest
  | case7 _ _ _ identity hIdentity _ hRequest hEffect =>
    exact (newCheckpoint_change (checkpointIdentity_eq_ok hIdentity) hRequest hEffect
      published).changes
  | _ => exact Change.quiet.changes

/-! ## Observations -/

/-- Snapshots that stay were there before. -/
theorem mem_of_mem_retireSnapshots {snapshots : TreeMap Uuid CensusSnapshot} {order : List Uuid}
    {id : Uuid} (h : id ∈ (retireSnapshots snapshots order).1) : id ∈ snapshots := by
  induction order generalizing snapshots with
  | nil => exact h
  | cons _ _ ih =>
    rw [retireSnapshots] at h
    split at h
    · exact h
    · exact TreeMap.mem_of_mem_erase (ih h)

theorem takeSnapshot_change {muxIncarnation : Uuid} :
    Change state (state.takeSnapshot muxIncarnation).1 none := by
  have hOld {id : Uuid} := @mem_of_mem_retireSnapshots state.censusSnapshots
    state.censusSnapshotOrder id
  fun_cases takeSnapshot with
  | case3 _ _ _ snapshots order hRetired =>
    rw [hRetired] at hOld
    exact .census rfl (Nat.le_refl _) fun id hId => .inl (hOld hId)
  | case4 _ _ _ _ snapshots order hRetired =>
    rw [hRetired] at hOld
    refine .census rfl (Nat.le_succ _) fun id hId => ?_
    rw [TreeMap.mem_insert] at hId
    rcases hId with hNew | hId
    · obtain rfl := Nat.compare_eq_eq.mp hNew
      exact .inr (Nat.lt_succ_self _)
    · exact .inl (hOld hId)
  | _ => exact .quiet

theorem applyObservation_change :
    Change state (state.applyObservation wire request).1 none := by
  unfold applyObservation observe census
  split
  · exact .quiet
  · split
    case h_2 =>
      split
      · exact .quiet
      · split
        · have hTaken := @takeSnapshot_change state request.header.muxIncarnation
          generalize state.takeSnapshot request.header.muxIncarnation = taken at hTaken
          split <;> exact hTaken
        · exact .quiet
    all_goals exact .quiet

end Transactions

end GuardianProtocolState

/-! ## Events -/

open GuardianProtocolState

variable {wire : Wire} {state : GuardianProtocolState} {request : GuardianRequest}

theorem isPlanned_of_checkGenericEffect (h : state.checkGenericEffect wire request = .ok ()) :
    isPlanned request.header.operation ∨ request.header.paneId = none := by
  unfold checkGenericEffect at h
  simp only [↓refuseIf_bind_eq_ok, unit_bind_eq_ok, refuseIf_eq_ok, Bool.not_eq_false] at h
  obtain ⟨hEnvelope, _, _, hCheckpoint, _, hCreates⟩ := h
  by_cases hStop : request.header.operation = .guardedStop
  · -- The envelope check refuses a stop that names a pane.
    unfold validateRequestEnvelope at hEnvelope
    simp only [↓refuseIf_bind_eq_ok, unit_bind_eq_ok] at hEnvelope
    obtain ⟨_, _, _, _, _, _, _, _, hScope, _⟩ := hEnvelope
    rw [hStop] at hScope
    cases hPane : request.header.paneId with
    | none => exact .inr rfl
    | some =>
      rw [hPane] at hScope
      cases hScope
  · exact .inl ⟨hCreates, hCheckpoint, hStop⟩

theorem isPlanned_of_checkInputEffect (h : state.checkInputEffect wire request = .ok ()) :
    isPlanned request.header.operation := by
  unfold checkInputEffect at h
  simp only [↓refuseIf_bind_eq_ok, unit_bind_eq_ok, refuseIf_eq_ok, not_not] at h
  obtain ⟨_, _, hOp⟩ := h
  rw [hOp]
  exact ⟨rfl, by decide, by decide⟩

theorem isPlanned_of_checkContinuation {continuation : ActivationContinuation}
    (h : state.checkContinuation wire request continuation = .ok ()) :
    isPlanned request.header.operation := by
  unfold checkContinuation at h
  simp only [↓refuseIf_bind_eq_ok, unit_bind_eq_ok, not_not] at h
  obtain ⟨_, _, hOp, _⟩ := h
  rw [hOp]
  exact ⟨rfl, by decide, by decide⟩

/-- An effect behind its check. -/
theorem checked_changes {check : Except GuardianProtocolError Unit} {memory : Bool}
    {outcome : EffectOutcome} :
    (check = .ok () → isPlanned request.header.operation ∨ request.header.paneId = none) →
    let result : Result GuardianReply := match check with
      | .error error => state.fail error
      | .ok () => state.applyEffectTransactionInner memory request outcome
    Changes state result.state (markOf result.call) := by
  intro hOp
  cases check with
  | error => exact Change.quiet.changes
  | ok => exact (applyEffectTransactionInner_change (hOp rfl) outcome).changes

/-- What is remembered about an event. -/
def Outcome.mark (outcome : Outcome) : Event → Option Mark
  | .settleInput identity target _ =>
    if outcome.error = none then some (.settled identity target) else none
  | _ => markOf outcome.call

/-- **An event is a change with its mark, and possibly another request behind it.** -/
theorem step_change (wire : Wire) (state : GuardianProtocolState) (event : Event) :
    Changes state (step wire state event).state ((step wire state event).mark event) := by
  have hWritten : ∀ {α : Type} {result : Except GuardianProtocolError (GuardianProtocolState × α)},
      (∀ after value, result = .ok (after, value) → Change state after none) →
        Changes state (written state result).state (markOf (written state result).call) := by
    intro α result hResult
    unfold written
    split
    · exact Change.quiet.changes
    · exact (hResult _ _ rfl).changes
  have hSeen : ∀ {α : Type} {after : GuardianProtocolState}
      {result : Except GuardianProtocolError α}, Change state after none →
        Changes state (seen after result).state (markOf (seen after result).call) := by
    intro α after result hChange
    unfold seen
    split
    · exact hChange.changes
    · exact hChange.changes
  cases event with
  | effect => exact checked_changes isPlanned_of_checkGenericEffect
  | input => exact checked_changes fun hCheck => .inl (isPlanned_of_checkInputEffect hCheck)
  | checkpoint => exact applyCheckpointTransactionally_changes
  | settleInput identity target memory =>
    change Changes state (written state (state.transitionPendingInput memory identity target)).state
      ((written state (state.transitionPendingInput memory identity target)).mark
        (.settleInput identity target memory))
    cases hSettled : state.transitionPendingInput memory identity target with
    | error => exact Change.quiet.changes
    | ok => exact (transitionPendingInput_change hSettled).changes
  | reserve =>
    refine hWritten fun after record hReserved => ?_
    obtain ⟨hFresh, rfl⟩ := reserveGenesisSpawn_eq_ok hReserved
    exact .reserved hFresh
  | finalize => exact checked_changes fun hCheck => .inl (isPlanned_of_checkContinuation hCheck)
  | fence =>
    refine hWritten fun after installed hInstalled => ?_
    rcases installDurableSpawnFence_eq_ok hInstalled with rfl | ⟨hFresh, rfl⟩
    · exact .quiet
    · exact .fenced hFresh
  | disconnect muxIncarnation =>
    refine hWritten fun after retirement hRetired => ?_
    unfold retireDisconnectedMuxLeases at hRetired
    rw [unit_bind_eq_ok] at hRetired
    cases hRetired.2
    exact .disconnected muxIncarnation
  | exit =>
    refine hWritten fun after _ hExited => ?_
    unfold markExited at hExited
    simp only [bind_eq_ok, okOr_eq_ok] at hExited
    obtain ⟨pane, hPane, next, hExit, hExited⟩ := hExited
    cases hExited
    exact .exited hPane hExit
  | observe => exact hSeen applyObservation_change
  | _ => exact hSeen .quiet

end FrankenTerm.Ports.Guardian
