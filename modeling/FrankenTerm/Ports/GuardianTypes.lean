import FrankenTerm.Verified.Check
import FrankenTerm.Verified.ReceiptWindow
import FrankenTerm.Verified.RustText

/-!
# Requests and replies of the guardian

The guardian (`guardian_protocol.rs`) holds the terminals of the panes and works for one multiplexer
at a time.  This module has its requests, replies and errors, the check of an envelope, and what is
remembered about panes and effects.

UUIDs and digests are numbers here, and the nil UUID is zero.  The binary formats of the payloads
come in through `Wire`: its decoders either refuse a payload or give what the state machine reads
from it.  The claim of a pane may carry a rotation of the multiplexer's identity, of which only the
two shapes matter.
-/

namespace FrankenTerm.Ports.Guardian

open Verified Verified.Check

abbrev Uuid := Nat

abbrev Digest := Nat

def guardianProtocolVersion : Nat := 5
def guardianMaxPayloadBytes : Nat := 512 * 1024
def guardianMaxInputBytes : Nat := 64 * 1024
def guardianMaxPanes : Nat := 16384
def guardianMaxEffectReceipts : Nat := 65536
def guardianMaxRequestAliasesPerPendingEffect : Nat := 64
def guardianMaxCensusSnapshots : Nat := 8
def guardianCensusPageHeaderBytes : Nat := 34
def guardianCensusEntryEncodedBytes : Nat := 87

/-- `u64::checked_add(1)`. -/
def checkedSucc (n : Nat) : Option Nat := if n < RustText.u64Max then some (n + 1) else none

/-! ## Operations -/

/-- `GuardianOperation`. -/
inductive GuardianOperation where
  | spawn
  | census
  | claim
  | attach
  | input
  | resize
  | signal
  | close
  | checkpoint
  | replay
  | queryInputEffect
  | retireLease
  | hello
  | guardedStop
  | checkpointStage
  | replayAck
deriving DecidableEq, Repr

namespace GuardianOperation

section

variable (operation : GuardianOperation)

/-- `creates_effect`. -/
def createsEffect : Bool :=
  [spawn, claim, input, resize, signal, close, checkpoint, retireLease, guardedStop].contains
    operation

/-- `supports_generic_effect_indeterminate`. -/
def supportsGenericEffectIndeterminate : Bool :=
  [spawn, claim, resize, signal, close, retireLease].contains operation

/-- `requires_lease`. -/
def requiresLease : Bool :=
  [attach, input, resize, signal, close, checkpoint, replay, replayAck, queryInputEffect,
    retireLease].contains operation

/-- `uses_mutation_sequence`. -/
def usesMutationSequence : Bool :=
  [input, resize, signal, close, checkpoint, retireLease].contains operation

end

end GuardianOperation

/-! ## Errors -/

/-- The refusals of the payload decoders. -/
inductive PayloadError where
  | invalidOperationPayload
  | invalidCensusPage
  | invalidCheckpointIntent
  | payloadTooLarge
  | truncated
deriving DecidableEq, Repr

/-- `GuardianProtocolError`, as far as the state machine returns it.  `panicked` stands for an
`expect` or an `unreachable!` that fires. -/
inductive GuardianProtocolError where
  | unsupportedVersion (version : Nat)
  | payloadTooLarge
  | payloadDigestMismatch
  | zeroIdentity (label : String)
  | invalidOperationScope (operation : GuardianOperation)
  | malformed (error : PayloadError)
  | invalidOperationPayload
  | guardianIncarnationMismatch
  | paneNotFound (paneId : Uuid)
  | paneAlreadyExists (paneId : Uuid)
  | requestIdentityConflict
  | effectIdentityConflict
  | paneTerminal
  | claimGenerationMismatch (observed current : Nat)
  | staleLease
  | repeatedSequence (expected observed : Nat)
  | sequenceGap (expected observed : Nat)
  | generationExhausted
  | sequenceExhausted
  | capacityExhausted
  | requestAliasCapacityExhausted (effectId : Uuid) (maxAliases : Nat)
  | stateInvariantViolation (site : String)
  | missingEffectQueryIdentity
  | inputDurabilityPending
  | inputDurabilityIdentityMismatch
  | invalidInputDisposition
  | invalidCensusCursor (cursor paneCount : Nat)
  | censusSnapshotNotFound (snapshotId : Uuid)
  | censusSnapshotIdentityConflict
  | invalidReplyPayload
  | replyOperationMismatch (operation : GuardianOperation)
  | responseRequestMismatch
  | checkpointRequiresTypedTransaction
  | checkpointOutcomeIndeterminate
  | checkpointIdentityMismatch
  | genesisAuthorityUnavailable
  | genesisAuthorityMismatch
  | genesisReservationAlreadyIssued
  | invalidGenesisReservation
  | genesisSpawnRequiresPublishedAdmission
  | panicked (site : String)
deriving DecidableEq, Repr

/-- The bookkeeping has come apart. -/
def GuardianProtocolError.isBroken : GuardianProtocolError → Bool
  | .stateInvariantViolation _ => true
  | .panicked _ => true
  | _ => false

/-- Nothing that the guardian is asked to do may be answered with anything else. -/
abbrev GuardianProtocolError.Intact (error : GuardianProtocolError) : Prop := error.isBroken = false

/-- The result says nothing against the bookkeeping. -/
abbrev FailsIntact {α : Type} (result : Except GuardianProtocolError α) : Prop :=
  FailsOnly GuardianProtocolError.Intact result

/-! ## Requests -/

/-- `GuardianRequestHeader`. -/
structure GuardianRequestHeader where
  protocolVersion : Nat := guardianProtocolVersion
  operation : GuardianOperation
  guardianIncarnation : Uuid
  muxIncarnation : Uuid
  requestId : Uuid
  payloadSha256 : Digest
  paneId : Option Uuid
  leaseGeneration : Nat
  leaseSequence : Nat
  effectId : Option Uuid
deriving DecidableEq, Repr

/-- `AuthenticatedGuardianRequest`; the authenticated length outlives the payload, which may have
been wiped. -/
structure GuardianRequest where
  header : GuardianRequestHeader
  payload : List UInt8
  authenticatedPayloadBytes : Nat

/-- `GuardianCensusPageRequest`. -/
structure CensusPageRequest where
  snapshotId : Uuid
  cursor : Nat
  maxEntries : Nat
  maxBytes : Nat

/-- `GuardianInputEffectQuery`. -/
structure InputEffectQuery where
  originMuxIncarnation : Uuid
  sequence : Nat
  inputBytes : Nat
  payloadSha256 : Digest

/-- `GuardianCheckpointIntent`. -/
structure CheckpointIntent where
  checkpointIdentity : Digest
  outputBoundaryIdentity : Digest
deriving DecidableEq, Repr

/-- `GuardianCheckpointScopeV1`. -/
inductive CheckpointScope where
  | pane (paneId : Uuid) (generation : Nat)
  | genesis (spawnEffectId : Uuid)
deriving DecidableEq, Repr

/-- `GuardianCheckpointStageKindV1`. -/
inductive CheckpointStageKind where
  | begin
  | chunk
  | seal
  | query
  | ack
deriving DecidableEq, Repr

/-- `GuardianCheckpointStageRequestV1`, as far as the state machine reads it. -/
structure CheckpointStage where
  kind : CheckpointStageKind
  scope : CheckpointScope
  rows : Nat
  cols : Nat
  checkpointId : Digest
  boundaryId : Digest
  uploadId : Uuid

/-- `PtySize` of a spawn. -/
structure PtySize where
  rows : Nat
  cols : Nat
  pixelWidth : Nat
  pixelHeight : Nat

/-- The hash and the payload formats. -/
structure Wire where
  sha256 : List UInt8 → Digest
  spawn : List UInt8 → Except PayloadError PtySize
  census : List UInt8 → Except PayloadError CensusPageRequest
  inputEffectQuery : List UInt8 → Except PayloadError InputEffectQuery
  checkpointIntent : List UInt8 → Except PayloadError CheckpointIntent
  /-- The decoder and `validate_header`. -/
  checkpointStage : GuardianRequestHeader → List UInt8 → Except PayloadError CheckpointStage
  /-- The decoders of resizes, signals, replays, acknowledgements and build identities. -/
  accepts : GuardianOperation → List UInt8 → Except PayloadError Unit
  isMuxRotation : List UInt8 → Bool
  isSuccessorMuxRotation : List UInt8 → Bool

/-- A decoder's answer as an answer of the state machine. -/
def decoded {α : Type} : Except PayloadError α → Except GuardianProtocolError α
  | .ok value => .ok value
  | .error error => .error (.malformed error)

/-- `require_nonzero`. -/
def requireNonzero (value : Uuid) (label : String) : Except GuardianProtocolError Unit :=
  refuseIf (value = 0) (.zeroIdentity label)

/-- `validate_operation_scope`. -/
def validateOperationScope (operation : GuardianOperation) (paneId effectId : Option Uuid)
    (leaseGeneration leaseSequence : Nat) : Except GuardianProtocolError Unit :=
  if operation = .checkpointStage then
    let shape := match paneId, effectId with
      | some paneId, none => paneId != 0 && decide (0 < leaseGeneration)
      | none, some effectId => leaseGeneration == 0 && effectId != 0
      | _, _ => false
    refuseIf (¬(leaseSequence = 0 ∧ shape = true)) (.invalidOperationScope operation)
  else
    let paneRequired := ! [.census, .hello, .guardedStop].contains operation
    let effectRequired := operation.createsEffect || operation == .queryInputEffect
    let leaseRequired := operation.requiresLease
    refuseIf (paneRequired ≠ paneId.isSome ∨ effectRequired ≠ effectId.isSome ∨
        (leaseRequired = false ∧ operation ≠ .spawn ∧ operation ≠ .claim ∧
          (leaseGeneration ≠ 0 ∨ leaseSequence ≠ 0)) ∨
        (operation = .spawn ∧ ¬(leaseGeneration = 0 ∧ leaseSequence = 0)) ∨
        ([.census, .hello].contains operation = true ∧ ¬(paneId = none ∧ effectId = none ∧
          leaseGeneration = 0 ∧ leaseSequence = 0)) ∨
        (operation = .guardedStop ∧ ¬(paneId = none ∧ effectId.isSome = true ∧
          leaseGeneration = 0 ∧ leaseSequence = 0)) ∨
        (operation = .claim ∧ leaseSequence ≠ 0) ∨
        (operation.usesMutationSequence = false ∧ leaseSequence ≠ 0) ∨
        (leaseRequired = true ∧ leaseGeneration = 0)) (.invalidOperationScope operation)

/-- The payload of an operation, in `validate_request_envelope`. -/
def validatePayload (wire : Wire) (header : GuardianRequestHeader) (payload : List UInt8) :
    Except GuardianProtocolError Unit :=
  match header.operation with
  | .spawn => (fun _ => ()) <$> decoded (wire.spawn payload)
  | .census => (fun _ => ()) <$> decoded (wire.census payload)
  | .input => refuseIf (payload = [] ∨ guardianMaxInputBytes < payload.length)
      (.invalidOperationScope .input)
  | .queryInputEffect => (fun _ => ()) <$> decoded (wire.inputEffectQuery payload)
  | .checkpoint => (fun _ => ()) <$> decoded (wire.checkpointIntent payload)
  | .checkpointStage => (fun _ => ()) <$> decoded (wire.checkpointStage header payload)
  | .resize | .signal | .replay | .replayAck => decoded (wire.accepts header.operation payload)
  | .hello => if payload = [] then .ok () else decoded (wire.accepts .hello payload)
  | .claim =>
    refuseIf (¬(payload = [] ∨ (wire.isMuxRotation payload = true ∧ header.leaseGeneration = 1) ∨
        (wire.isSuccessorMuxRotation payload = true ∧ 1 < header.leaseGeneration ∧
          header.leaseGeneration < RustText.u64Max))) .invalidOperationPayload
  | .guardedStop | .attach | .close | .retireLease =>
    refuseIf (payload ≠ []) .invalidOperationPayload

/-- Only a hello names no guardian, in `validate_request_envelope`. -/
def validateGuardianIncarnation (header : GuardianRequestHeader) :
    Except GuardianProtocolError Unit :=
  if header.operation = .hello then
    refuseIf (header.guardianIncarnation ≠ 0) (.invalidOperationScope .hello)
  else requireNonzero header.guardianIncarnation "guardian incarnation"

/-- `validate_request_envelope`. -/
def validateRequestEnvelope (wire : Wire) (request : GuardianRequest) :
    Except GuardianProtocolError Unit := do
  let header := request.header
  refuseIf (header.protocolVersion ≠ guardianProtocolVersion)
    (.unsupportedVersion header.protocolVersion)
  refuseIf (guardianMaxPayloadBytes < request.payload.length) .payloadTooLarge
  refuseIf (wire.sha256 request.payload ≠ header.payloadSha256) .payloadDigestMismatch
  validateGuardianIncarnation header
  requireNonzero header.muxIncarnation "mux incarnation"
  requireNonzero header.requestId "request"
  refuseIf (header.paneId = some 0) (.zeroIdentity "pane")
  refuseIf (header.effectId = some 0) (.zeroIdentity "effect")
  validateOperationScope header.operation header.paneId header.effectId header.leaseGeneration
    header.leaseSequence
  validatePayload wire header request.payload

theorem decoded_failsOnly {α : Type} {result : Except PayloadError α} :
    FailsIntact (decoded result) := by
  cases result with
  | ok => exact FailsOnly.ok
  | error => exact .error rfl

theorem validatePayload_failsOnly {wire : Wire} {header : GuardianRequestHeader}
    {payload : List UInt8} :
    FailsIntact (validatePayload wire header payload) := by
  unfold validatePayload
  split
  case h_11 => split_ifs with hEmpty; exacts [FailsOnly.ok, decoded_failsOnly]
  all_goals
    first
    | exact decoded_failsOnly.map
    | exact decoded_failsOnly
    | exact FailsOnly.of_refuseIf fun _ => rfl

theorem validateRequestEnvelope_failsOnly {wire : Wire} {request : GuardianRequest} :
    FailsIntact (validateRequestEnvelope wire request) := by
  refine .past rfl <| .past rfl <| .past rfl <| .bind ?_ fun _ _ => .past rfl <| .past rfl <|
    .past rfl <| .past rfl <| .bind ?_ fun _ _ => validatePayload_failsOnly
  · unfold validateGuardianIncarnation
    split_ifs
    all_goals exact .of_refuseIf fun _ => rfl
  · unfold validateOperationScope
    split_ifs
    all_goals exact .of_refuseIf fun _ => rfl

/-! ## Panes -/

/-- `GuardianQuarantineReason`. -/
inductive GuardianQuarantineReason where
  | generationExhausted
  | sequenceExhausted
  | effectOutcomeIndeterminate
deriving DecidableEq, Repr

/-- `GuardianPaneState`. -/
inductive GuardianPaneState where
  | liveUnclaimed (generation : Nat)
  | liveClaimed (generation : Nat) (muxIncarnation : Uuid) (nextSequence : Nat)
      (pendingInputEffect : Option Uuid)
  | exitedUnclaimed (generation : Nat) (exitStatus : Int) (pendingInputEffect : Option Uuid)
  | closedTerminal (generation : Nat) (exitStatus : Option Int)
  | quarantined (generation : Nat) (reason : GuardianQuarantineReason) (exitStatus : Option Int)
deriving DecidableEq, Repr

namespace GuardianPaneState

/-- `generation`. -/
def generation : GuardianPaneState → Nat
  | liveUnclaimed generation => generation
  | liveClaimed generation _ _ _ => generation
  | exitedUnclaimed generation _ _ => generation
  | closedTerminal generation _ => generation
  | quarantined generation _ _ => generation

/-- The field `pending_input_effect`, where there is one. -/
def pendingInputEffect : GuardianPaneState → Option Uuid
  | liveClaimed _ _ _ pending => pending
  | exitedUnclaimed _ _ pending => pending
  | _ => none

/-- The exit status that a quarantine takes over. -/
def exitStatus : GuardianPaneState → Option Int
  | exitedUnclaimed _ exitStatus _ => some exitStatus
  | closedTerminal _ exitStatus => exitStatus
  | quarantined _ _ exitStatus => exitStatus
  | _ => none

end GuardianPaneState

/-! ## Effects -/

/-- `InputEffectState`. -/
inductive InputEffectState where
  | notSeen
  | acceptedNotDurable
  | durableFull
  | durablePrefix (appliedBytes : Nat)
  | knownNotApplied
  | dispositionUnavailable
deriving DecidableEq, Repr

/-- `validate_for_input_bytes`. -/
def InputEffectState.validateForInputBytes (state : InputEffectState) (inputBytes : Nat) :
    Except GuardianProtocolError Unit := do
  refuseIf (inputBytes = 0 ∨ guardianMaxInputBytes < inputBytes) .invalidInputDisposition
  match state with
  | .durablePrefix appliedBytes =>
    refuseIf (appliedBytes = 0 ∨ inputBytes ≤ appliedBytes) .invalidInputDisposition
  | _ => .ok ()

/-- `GuardianCheckpointDisposition`. -/
inductive CheckpointDisposition where
  | committed
  | outcomeIndeterminate
deriving DecidableEq, Repr

/-- `GuardianCheckpointEffectIdentity`. -/
structure CheckpointEffectIdentity where
  paneId : Uuid
  muxIncarnation : Uuid
  requestId : Uuid
  generation : Nat
  sequence : Nat
  effectId : Uuid
  intent : CheckpointIntent
deriving DecidableEq, Repr

/-- `GuardianCheckpointReceipt`; the state machine never sets its owner. -/
structure CheckpointReceipt where
  paneId : Uuid
  generation : Nat
  sequence : Nat
  effectId : Uuid
  intent : CheckpointIntent
  disposition : CheckpointDisposition
deriving DecidableEq, Repr

/-- `GuardianCheckpointReceipt::from_identity`. -/
def CheckpointReceipt.fromIdentity (identity : CheckpointEffectIdentity)
    (disposition : CheckpointDisposition) : CheckpointReceipt :=
  ⟨identity.paneId, identity.generation, identity.sequence, identity.effectId, identity.intent,
    disposition⟩

/-- `matches_identity`. -/
def CheckpointReceipt.matchesIdentity (receipt : CheckpointReceipt)
    (identity : CheckpointEffectIdentity) : Bool :=
  receipt.paneId == identity.paneId && receipt.generation == identity.generation &&
    receipt.sequence == identity.sequence && receipt.effectId == identity.effectId &&
    receipt.intent == identity.intent

/-- `GuardianCensusPaneStatus`. -/
inductive CensusPaneStatus where
  | liveUnclaimed
  | liveClaimed
  | exitedUnclaimed
  | closedTerminal
  | quarantined
deriving DecidableEq, Repr

/-- `GuardianCensusEntry`. -/
structure CensusEntry where
  paneId : Uuid
  status : CensusPaneStatus
  generation : Nat
  muxIncarnation : Option Uuid := none
  nextSequence : Option Nat := none
  pendingInputEffect : Option Uuid := none
  indeterminateCheckpointEffect : Option Uuid
  exitStatus : Option Int := none
  quarantineReason : Option GuardianQuarantineReason := none
deriving DecidableEq, Repr

/-- `GuardianCensusEntry::from_state`. -/
def CensusEntry.fromState (paneId : Uuid) (state : GuardianPaneState)
    (indeterminateCheckpointEffect : Option Uuid) : CensusEntry :=
  match state with
  | .liveUnclaimed generation =>
    { paneId, status := .liveUnclaimed, generation, indeterminateCheckpointEffect }
  | .liveClaimed generation muxIncarnation nextSequence pendingInputEffect =>
    { paneId, status := .liveClaimed, generation, indeterminateCheckpointEffect,
      muxIncarnation := some muxIncarnation, nextSequence := some nextSequence,
      pendingInputEffect }
  | .exitedUnclaimed generation exitStatus pendingInputEffect =>
    { paneId, status := .exitedUnclaimed, generation, indeterminateCheckpointEffect,
      exitStatus := some exitStatus, pendingInputEffect }
  | .closedTerminal generation exitStatus =>
    { paneId, status := .closedTerminal, generation, indeterminateCheckpointEffect, exitStatus }
  | .quarantined generation reason exitStatus =>
    { paneId, status := .quarantined, generation, indeterminateCheckpointEffect, exitStatus,
      quarantineReason := some reason }

/-- `GuardianReply`, as far as the state machine returns it. -/
inductive GuardianReply where
  | hello (guardianIncarnation : Uuid)
  | spawned (paneId : Uuid) (generation : Nat)
  | censusPage (snapshotId : Uuid) (entries : List CensusEntry) (nextCursor : Option Nat)
      (totalPanes : Nat)
  | claimed (paneId : Uuid) (generation nextSequence : Nat)
  | attached (paneId : Uuid) (generation nextSequence : Nat)
  | inputReceipt (paneId : Uuid) (generation sequence : Nat) (effectId : Uuid)
      (state : InputEffectState)
  | checkpointReceipt (receipt : CheckpointReceipt)
  | mutationApplied (paneId : Uuid) (generation sequence : Nat)
  | leaseRetired (paneId : Uuid) (generation : Nat)
  | inputEffect (effectId : Uuid) (state : InputEffectState)
  | replayReady (paneId : Uuid) (generation : Nat)
  | effectOutcomeIndeterminate (paneId : Uuid) (generation sequence : Nat) (effectId : Uuid)
deriving DecidableEq, Repr

/-- `EffectFingerprint`. -/
structure EffectFingerprint where
  operation : GuardianOperation
  paneId : Uuid
  muxIncarnation : Uuid
  leaseGeneration : Nat
  leaseSequence : Nat
  payloadBytes : Nat
  payloadSha256 : Digest
deriving DecidableEq, Repr

/-- `EffectFingerprint::from_authenticated_request` of a request for this pane. -/
def EffectFingerprint.fromAuthenticatedRequest (paneId : Uuid) (request : GuardianRequest) :
    EffectFingerprint where
  operation := request.header.operation
  paneId := paneId
  muxIncarnation := request.header.muxIncarnation
  leaseGeneration := request.header.leaseGeneration
  leaseSequence := request.header.leaseSequence
  payloadBytes := request.payload.length
  payloadSha256 := request.header.payloadSha256

/-- `StoredEffectState`. -/
inductive StoredEffectState where
  | applied
  | outcomeIndeterminate
  | input (state : InputEffectState)
  | checkpoint (disposition : CheckpointDisposition) (identity : CheckpointEffectIdentity)
deriving DecidableEq, Repr

/-- `is_pending`. -/
def StoredEffectState.isPending : StoredEffectState → Bool
  | .outcomeIndeterminate => true
  | .input .acceptedNotDurable => true
  | .checkpoint .outcomeIndeterminate _ => true
  | _ => false

/-- `StoredEffect`. -/
structure StoredEffect where
  fingerprint : EffectFingerprint
  reply : GuardianReply
  state : StoredEffectState
deriving DecidableEq, Repr

/-- `StoredRequest`. -/
structure StoredRequest where
  fingerprint : EffectFingerprint
  effectId : Uuid
  reply : GuardianReply
deriving DecidableEq, Repr

/-- `GuardianEffectOutcome`; a recovered panic of the callback counts as indeterminate. -/
inductive EffectOutcome where
  | applied
  | definitelyNotApplied
  | outcomeIndeterminate
deriving DecidableEq, Repr

/-- Receipts of the guardian: an open outcome is pending, and neither an open outcome nor a spawn
ever rotates out. -/
def receiptScheme : ReceiptWindow.Scheme Uuid StoredEffect StoredRequest where
  effectId := StoredRequest.effectId
  pending := fun effect => effect.state.isPending
  kept := fun effect => effect.state.isPending || effect.fingerprint.operation == .spawn
  Agrees := fun effect request =>
    request.fingerprint = effect.fingerprint ∧ request.reply = effect.reply
  kept_of_pending := fun _ h => by simp [h]

end FrankenTerm.Ports.Guardian
