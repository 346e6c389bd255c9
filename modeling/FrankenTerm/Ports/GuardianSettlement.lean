import FrankenTerm.Ports.GuardianState

/-!
# Inputs and checkpoints of the guardian

Two effects can stay open after their callback.  An input is accepted before the journal knows what
became of its bytes, and the pane waits for it (`pending_input_effect`).  A checkpoint whose
publication failed may have been published, and the pane is barred until the same publication has
been confirmed (`indeterminate_checkpoints_by_pane`).  Both are settled by checking the whole
bookkeeping of the effect first and changing it only then.

The answer of a publication is an argument, as the outcome of a callback is.
-/

namespace FrankenTerm.Ports.Guardian

open Std (TreeMap TreeSet)
open Verified Verified.Check Verified.ReceiptWindow

/-- `GuardianInputEffectIdentity`. -/
structure InputEffectIdentity where
  paneId : Uuid
  muxIncarnation : Uuid
  generation : Nat
  sequence : Nat
  effectId : Uuid
  inputBytes : Nat
  payloadSha256 : Digest
deriving DecidableEq, Repr

namespace GuardianProtocolState

/-! ## The requests of an open effect -/

section

variable (state : GuardianProtocolState) (memory : Bool) (identity : CheckpointEffectIdentity)

/-- One request of an open effect. -/
def checkAlias (label : String) (effectId : Uuid) (fingerprint : EffectFingerprint)
    (pendingReply : GuardianReply) (requestId : Uuid) :
    Except GuardianProtocolError Unit := do
  let request ← okOr state.receipts.requests[requestId]?
    (.stateInvariantViolation (label ++ "-reconciliation-request-alias"))
  refuseIf (request.effectId ≠ effectId ∨ request.fingerprint ≠ fingerprint ∨
      request.reply ≠ pendingReply)
    (.stateInvariantViolation (label ++ "-reconciliation-request-identity"))

/-- The requests of an open effect, behind the checks that precede its settling. -/
def openAliases (label : String) (effectId : Uuid) (fingerprint : EffectFingerprint)
    (pendingReply : GuardianReply) :
    Except GuardianProtocolError (TreeSet Uuid) := do
  let requestIds ← okOr state.receipts.effectRequestIds[effectId]?
    (.stateInvariantViolation (label ++ "-reconciliation-reverse-index"))
  refuseIf (requestIds.isEmpty = true)
    (.stateInvariantViolation (label ++ "-reconciliation-empty-reverse-index"))
  refuseIf ((state.receipts.requests.toList.any fun entry =>
      entry.2.effectId == effectId && !requestIds.contains entry.1) = true)
    (.stateInvariantViolation (label ++ "-reconciliation-incomplete-reverse-index"))
  requestIds.toList.forM (state.checkAlias label effectId fingerprint pendingReply)
  refuseIf (state.receipts.effectOrder.contains effectId = true ∨
      (requestIds.toList.any state.receipts.requestOrder.contains) = true)
    (.stateInvariantViolation (label ++ "-reconciliation-pending-fifo"))
  refuseIf (memory = false) .capacityExhausted
  return requestIds

/-- The effect gets its settled state and reply, and its requests get the reply. -/
def settleReceipts (label : String) (effectId : Uuid) (requestIds : TreeSet Uuid)
    (settled : StoredEffectState) (reply : GuardianReply) :
    Except GuardianProtocolError (Window Uuid StoredEffect StoredRequest) :=
  match state.receipts.effects[effectId]? with
  | none => .error (.panicked (label ++ " effect exists after reconciliation preflight"))
  | some stored =>
    if requestIds.toList.all state.receipts.requests.contains then
      .ok (state.receipts.settle effectId { stored with reply, state := settled } requestIds
        fun request => { request with reply })
    else .error
      (.panicked (label ++ " request alias exists after reconciliation preflight"))

/-! ## Inputs -/

/-- The pane still waits for this input. -/
def inputFence (pane : Option GuardianPaneState) (identity : InputEffectIdentity)
    (nextSequence : Nat) : Bool :=
  match pane with
  | some (.liveClaimed generation muxIncarnation next pending) =>
    generation == identity.generation && muxIncarnation == identity.muxIncarnation &&
      next == nextSequence && pending == some identity.effectId
  | some (.exitedUnclaimed generation _ pending) =>
    generation == identity.generation && pending == some identity.effectId
  | _ => false

/-- The fingerprint of the effect is the one of the identity. -/
def inputFingerprint (identity : InputEffectIdentity) : EffectFingerprint where
  operation := .input
  paneId := identity.paneId
  muxIncarnation := identity.muxIncarnation
  leaseGeneration := identity.generation
  leaseSequence := identity.sequence
  payloadBytes := identity.inputBytes
  payloadSha256 := identity.payloadSha256

/-- The receipt of an input. -/
def inputReply (identity : InputEffectIdentity) (state : InputEffectState) : GuardianReply :=
  .inputReceipt identity.paneId identity.generation identity.sequence identity.effectId state

/-- The pane no longer waits for an input. -/
def clearPendingInput (pane : Option GuardianPaneState) :
    Except GuardianProtocolError GuardianPaneState :=
  match pane with
  | none => .error (.panicked "input pane exists after reconciliation preflight")
  | some (.liveClaimed generation muxIncarnation nextSequence _) =>
    .ok (.liveClaimed generation muxIncarnation nextSequence none)
  | some (.exitedUnclaimed generation exitStatus _) =>
    .ok (.exitedUnclaimed generation exitStatus none)
  | some _ => .error (.panicked "input pane shape was checked before reconciliation")

/-- The pane and the receipts of an accepted input, settled. -/
def settleInput (identity : InputEffectIdentity) (target : InputEffectState) (stored : StoredEffect) :
    Except GuardianProtocolError (GuardianProtocolState × GuardianReply) := do
  refuseIf (stored.reply ≠ inputReply identity .acceptedNotDurable)
    (.stateInvariantViolation "input-reconciliation-pending-reply")
  let nextSequence ← okOr (checkedSucc identity.sequence)
    (.stateInvariantViolation "input-reconciliation-sequence-fence")
  refuseIf (inputFence state.panes[identity.paneId]? identity nextSequence = false)
    (.stateInvariantViolation "input-reconciliation-pane-fence")
  let requestIds ← state.openAliases memory "input" identity.effectId stored.fingerprint
    (inputReply identity .acceptedNotDurable)
  let pane ← clearPendingInput state.panes[identity.paneId]?
  let receipts ← state.settleReceipts "input" identity.effectId requestIds (.input target)
    (inputReply identity target)
  return ({ state with panes := state.panes.insert identity.paneId pane, receipts },
    inputReply identity target)

/-- The three dispositions that end an input. -/
def isTerminalInput : InputEffectState → Bool
  | .durableFull => true
  | .durablePrefix _ => true
  | .knownNotApplied => true
  | _ => false

/-- `transition_pending_input`. -/
def transitionPendingInput (identity : InputEffectIdentity) (target : InputEffectState) :
    Except GuardianProtocolError (GuardianProtocolState × GuardianReply) := do
  refuseIf (isTerminalInput target = false) .inputDurabilityIdentityMismatch
  target.validateForInputBytes identity.inputBytes
  let stored ← okOr state.receipts.effects[identity.effectId]? .inputDurabilityIdentityMismatch
  refuseIf (stored.fingerprint ≠ inputFingerprint identity) .inputDurabilityIdentityMismatch
  if stored.state = .input target then do
    refuseIf (stored.reply ≠ inputReply identity target)
      (.stateInvariantViolation "input-reconciliation-terminal-reply")
    return (state, inputReply identity target)
  else do
    refuseIf (stored.state ≠ .input .acceptedNotDurable) .inputDurabilityIdentityMismatch
    state.settleInput memory identity target stored

/-! ## Checkpoints -/

/-- `checkpoint_receipt_from_reply`. -/
def checkpointReceiptFromReply : GuardianReply → Except GuardianProtocolError CheckpointReceipt
  | .checkpointReceipt receipt => .ok receipt
  | _ => .error (.stateInvariantViolation "checkpoint-stored-reply-kind")

/-- The pane is still barred by this checkpoint only. -/
def checkpointFence (pane : Option GuardianPaneState) (identity : CheckpointEffectIdentity)
    (nextSequence : Nat) : Bool :=
  match pane with
  | some (.liveClaimed generation muxIncarnation next pending) =>
    generation == identity.generation && muxIncarnation == identity.muxIncarnation &&
      next == nextSequence && pending == none
  | some (.exitedUnclaimed generation _ pending) =>
    generation == identity.generation && pending == none
  | _ => false

/-- The receipt of a checkpoint that is open. -/
def pendingCheckpointReceipt (stored : StoredEffect) (identity : CheckpointEffectIdentity) :
    Except GuardianProtocolError CheckpointReceipt := do
  let receipt ← checkpointReceiptFromReply stored.reply
  refuseIf (receipt.disposition ≠ .outcomeIndeterminate ∨ receipt.matchesIdentity identity = false)
    (.stateInvariantViolation "checkpoint-reconciliation-pending-reply")
  return receipt

/-- A checkpoint that is committed already, in `mark_checkpoint_committed`. -/
def committedCheckpointReceipt (stored : StoredEffect) (identity : CheckpointEffectIdentity) :
    Except GuardianProtocolError CheckpointReceipt := do
  let receipt ← checkpointReceiptFromReply stored.reply
  refuseIf (¬(receipt.disposition = .committed ∧ receipt.matchesIdentity identity = true ∧
      state.indeterminateCheckpointsByPane.contains identity.paneId = false))
    (.stateInvariantViolation "checkpoint-reconciliation-committed-state")
  return receipt

/-- The receipts and the barrier of an open checkpoint, settled. -/
def settleCheckpoint (stored : StoredEffect) :
    Except GuardianProtocolError (GuardianProtocolState × CheckpointReceipt) := do
  refuseIf (state.indeterminateCheckpointsByPane[identity.paneId]? ≠ some identity.effectId)
    .checkpointIdentityMismatch
  let nextSequence ← okOr (checkedSucc identity.sequence) .checkpointIdentityMismatch
  refuseIf (checkpointFence state.panes[identity.paneId]? identity nextSequence = false)
    (.stateInvariantViolation "checkpoint-reconciliation-pane-fence")
  let _ ← pendingCheckpointReceipt stored identity
  let requestIds ← state.openAliases memory "checkpoint" identity.effectId stored.fingerprint
    stored.reply
  let receipt := CheckpointReceipt.fromIdentity identity .committed
  let receipts ← state.settleReceipts "checkpoint" identity.effectId requestIds
    (.checkpoint .committed identity) (.checkpointReceipt receipt)
  return ({ state with
      receipts
      indeterminateCheckpointsByPane :=
        state.indeterminateCheckpointsByPane.erase identity.paneId }, receipt)

/-- `mark_checkpoint_committed`. -/
def markCheckpointCommitted :
    Except GuardianProtocolError (GuardianProtocolState × CheckpointReceipt) :=
  match state.receipts.effects[identity.effectId]? with
  | none => .error .checkpointIdentityMismatch
  | some stored =>
    match stored.state with
    | .checkpoint disposition storedIdentity =>
      if storedIdentity ≠ identity then .error .checkpointIdentityMismatch
      else if disposition = .committed then
        (fun receipt => (state, receipt)) <$> state.committedCheckpointReceipt stored identity
      else state.settleCheckpoint memory identity stored
    | _ => .error .checkpointIdentityMismatch

/-- The publication of an open checkpoint is asked for once more. -/
def reconcileCall (stored : StoredEffect) (identity : CheckpointEffectIdentity)
    (published : Bool) : Call where
  reconciles := true
  fingerprint := stored.fingerprint
  effectId := identity.effectId
  outcome := if published then .applied else .outcomeIndeterminate

/-- The repeated publication that is recorded. -/
def settlingCall (stored : StoredEffect) (identity : CheckpointEffectIdentity) : Call :=
  { reconcileCall stored identity true with settles := true }

/-- `reconcile_checkpoint_publication`. -/
def reconcileCheckpointPublication (published : Bool) : Result CheckpointReceipt :=
  match state.receipts.effects[identity.effectId]? with
  | none => state.fail .checkpointIdentityMismatch
  | some stored =>
    if stored.state ≠ .checkpoint .outcomeIndeterminate identity then
      state.fail .checkpointIdentityMismatch
    else
      match pendingCheckpointReceipt stored identity with
      | .error error => state.fail error
      | .ok receipt =>
        let call := reconcileCall stored identity published
        if published = false then { state, answer := .ok receipt, call := some call }
        else
          match state.markCheckpointCommitted memory identity with
          | .error error => { state.fail error with call := some call }
          | .ok (after, committed) =>
            { state := after, answer := .ok committed, call := some (settlingCall stored identity) }

/-- `GuardianCheckpointEffectIdentity::from_authenticated_request`. -/
def checkpointIdentity (wire : Wire) (request : GuardianRequest) :
    Except GuardianProtocolError CheckpointEffectIdentity := do
  validateRequestEnvelope wire request
  refuseIf (request.header.operation ≠ .checkpoint) .checkpointIdentityMismatch
  let paneId ← okOr request.header.paneId .checkpointIdentityMismatch
  let effectId ← okOr request.header.effectId .checkpointIdentityMismatch
  let intent ← decoded (wire.checkpointIntent request.payload)
  return { paneId, muxIncarnation := request.header.muxIncarnation
           requestId := request.header.requestId, generation := request.header.leaseGeneration
           sequence := request.header.leaseSequence, effectId, intent }

/-- A request for a checkpoint that is retained. -/
def replayCheckpoint (stored : StoredRequest) (fingerprint : EffectFingerprint)
    (identity : CheckpointEffectIdentity) (published : Bool) : Result CheckpointReceipt :=
  if stored.fingerprint ≠ fingerprint ∨ stored.effectId ≠ identity.effectId then
    state.fail .requestIdentityConflict
  else
    match state.receipts.effects[identity.effectId]? with
    | none => state.fail (.stateInvariantViolation "checkpoint-request-effect")
    | some effect =>
      match effect.state with
      | .checkpoint .outcomeIndeterminate storedIdentity =>
        state.reconcileCheckpointPublication memory storedIdentity published
      | .checkpoint .committed _ =>
        match checkpointReceiptFromReply stored.reply with
        | .error error => state.fail error
        | .ok receipt => { state, answer := .ok receipt }
      | _ => state.fail (.stateInvariantViolation "checkpoint-request-effect-kind")

/-- The retained checkpoint gets another request, behind the call that reconciled it if it was
open. -/
def storeCheckpointAlias (call : Option Call) : Result CheckpointReceipt :=
  match state.receipts.effects[identity.effectId]? with
  | none =>
    { state.fail (.stateInvariantViolation "checkpoint-effect-after-reconciliation") with call }
  | some stored =>
    match checkpointReceiptFromReply stored.reply with
    | .error error => { state.fail error with call }
    | .ok receipt =>
      match state.addAlias memory "checkpoint-effect-request-alias-set"
          "checkpoint alias set exists after capacity preflight" identity.requestId
          identity.effectId stored with
      | .error error => { state.fail error with call }
      | .ok after => { state := after, answer := .ok receipt, call }

/-- A request that names a retained checkpoint. -/
def aliasCheckpoint (settleMemory storeMemory : Bool) (stored : StoredEffect)
    (fingerprint : EffectFingerprint) (identity : CheckpointEffectIdentity) (published : Bool) :
    Result CheckpointReceipt :=
  if stored.fingerprint ≠ fingerprint then state.fail .effectIdentityConflict
  else
    match stored.state with
    | .checkpoint .outcomeIndeterminate storedIdentity =>
      if guardianMaxRequestAliasesPerPendingEffect ≤ state.aliases identity.effectId then
        state.fail (.requestAliasCapacityExhausted identity.effectId
          guardianMaxRequestAliasesPerPendingEffect)
      else
        let reconciled :=
          state.reconcileCheckpointPublication settleMemory storedIdentity published
        match reconciled.answer with
        | .error _ => reconciled
        | .ok _ => reconciled.state.storeCheckpointAlias storeMemory identity reconciled.call
    | .checkpoint .committed _ => state.storeCheckpointAlias storeMemory identity none
    | _ => state.fail (.stateInvariantViolation "checkpoint-effect-state-kind")

/-- The receipt, the pane and the barrier of a checkpoint whose publication has been called. -/
def installCheckpoint (plan : CapacityPlan Uuid) (fingerprint : EffectFingerprint)
    (identity : CheckpointEffectIdentity) (next : GuardianPaneState)
    (disposition : CheckpointDisposition) : GuardianProtocolState :=
  let reply := GuardianReply.checkpointReceipt (.fromIdentity identity disposition)
  let queued := disposition == .committed
  { state with
    panes := state.panes.insert identity.paneId next
    receipts := (state.commitReceiptCapacity plan).enter identity.effectId
      ⟨fingerprint, reply, .checkpoint disposition identity⟩ identity.requestId
      ⟨fingerprint, identity.effectId, reply⟩ queued queued
    indeterminateCheckpointsByPane := if queued then state.indeterminateCheckpointsByPane
      else state.indeterminateCheckpointsByPane.insert identity.paneId identity.effectId }

/-- A new checkpoint. -/
def newCheckpoint (request : GuardianRequest) (fingerprint : EffectFingerprint)
    (identity : CheckpointEffectIdentity) (published : Bool) : Result CheckpointReceipt :=
  match state.planExactSequence identity.paneId request.header with
  | .error refused => (state.refuse identity.paneId refused).fail refused.error
  | .ok (sequence, next) =>
    if sequence ≠ identity.sequence then
      state.fail (.stateInvariantViolation "checkpoint-planned-sequence-identity")
    else
      match state.planReceiptCapacity true true with
      | none => state.fail .capacityExhausted
      | some plan =>
        if memory = false then state.fail .capacityExhausted
        else
          let disposition : CheckpointDisposition :=
            if published then .committed else .outcomeIndeterminate
          { state := state.installCheckpoint plan fingerprint identity next disposition
            answer := .ok (.fromIdentity identity disposition)
            call := some
              { fingerprint, effectId := identity.effectId
                outcome := if published then .applied else .outcomeIndeterminate } }

/-- `apply_checkpoint_transactionally`. -/
def applyCheckpointTransactionally (wire : Wire) (state : GuardianProtocolState)
    (settleMemory storeMemory : Bool) (request : GuardianRequest) (published : Bool) :
    Result CheckpointReceipt :=
  match validateRequestEnvelope wire request with
  | .error error => state.fail error
  | .ok () =>
    if request.header.guardianIncarnation ≠ state.incarnation then
      state.fail .guardianIncarnationMismatch
    else if request.header.operation ≠ .checkpoint then
      state.fail .checkpointRequiresTypedTransaction
    else
      match checkpointIdentity wire request with
      | .error error => state.fail error
      | .ok identity =>
        let fingerprint := EffectFingerprint.fromAuthenticatedRequest identity.paneId request
        match state.receipts.requests[identity.requestId]? with
        | some stored =>
          state.replayCheckpoint settleMemory stored fingerprint identity published
        | none =>
          match state.receipts.effects[identity.effectId]? with
          | some stored => state.aliasCheckpoint settleMemory storeMemory stored fingerprint
              identity published
          | none => state.newCheckpoint storeMemory request fingerprint identity published

end

end GuardianProtocolState

end FrankenTerm.Ports.Guardian
