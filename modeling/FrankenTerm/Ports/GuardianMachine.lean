import FrankenTerm.Ports.GuardianGenesis
import FrankenTerm.Ports.GuardianSettlement

/-!
# The guardian as a machine

The remaining operations of `GuardianProtocolState`, and its runs: whatever the guardian is asked to
do, with whatever its callbacks and its allocator report, is an `Event`.
-/

namespace FrankenTerm.Ports.Guardian

open Std (TreeMap TreeSet)
open Verified Verified.Check Verified.ReceiptWindow

namespace GuardianProtocolState

/-! ## Effects -/

section

variable (wire : Wire) (state : GuardianProtocolState) (request : GuardianRequest)
  (header : GuardianRequestHeader)

/-- The checks of `apply_effect_transactionally`. -/
def checkGenericEffect : Except GuardianProtocolError Unit := do
  validateRequestEnvelope wire request
  refuseIf (request.header.guardianIncarnation ≠ state.incarnation) .guardianIncarnationMismatch
  state.fenceReservedGenesisSpawn request
  refuseIf (request.header.operation = .checkpoint) .checkpointRequiresTypedTransaction
  refuseIf (request.header.operation = .input) (.invalidOperationScope .input)
  refuseIf (request.header.operation.createsEffect = false)
    (.invalidOperationScope request.header.operation)

/-- `apply_effect_transactionally`. -/
def applyEffectTransactionally (memory : Bool) (request : GuardianRequest) (outcome : EffectOutcome) :
    Result GuardianReply :=
  match state.checkGenericEffect wire request with
  | .error error => state.fail error
  | .ok () => state.applyEffectTransactionInner memory request outcome

/-- The checks of `apply_input_effect_transactionally`. -/
def checkInputEffect : Except GuardianProtocolError Unit := do
  validateRequestEnvelope wire request
  refuseIf (request.header.guardianIncarnation ≠ state.incarnation) .guardianIncarnationMismatch
  refuseIf (request.header.operation ≠ .input) (.invalidOperationScope request.header.operation)

/-- `apply_input_effect_transactionally`; a callback that fails was not applied, and one that
panics is indeterminate. -/
def applyInputEffectTransactionally (memory : Bool) (request : GuardianRequest)
    (outcome : EffectOutcome) : Result GuardianReply :=
  match state.checkInputEffect wire request with
  | .error error => state.fail error
  | .ok () => state.applyEffectTransactionInner memory request outcome

/-! ## Leases and exits -/

/-- `GuardianMuxLeaseRetirement`. -/
structure MuxLeaseRetirement where
  retiredPanes : Nat
  pendingInputPanes : Nat
  indeterminateCheckpointPanes : Nat
deriving DecidableEq, Repr

/-- The pane is leased to this multiplexer. -/
def isLeasedTo (muxIncarnation : Uuid) : GuardianPaneState → Bool
  | .liveClaimed _ owner _ _ => owner == muxIncarnation
  | _ => false

/-- The lease of a multiplexer that is gone ends unless something is open. -/
def retireLease (muxIncarnation paneId : Uuid) (pane : GuardianPaneState) : GuardianPaneState :=
  if isLeasedTo muxIncarnation pane && pane.pendingInputEffect.isNone &&
      !state.indeterminateCheckpointsByPane.contains paneId then
    .liveUnclaimed pane.generation
  else pane

/-- `retire_disconnected_mux_leases`. -/
def retireDisconnectedMuxLeases (muxIncarnation : Uuid) :
    Except GuardianProtocolError (GuardianProtocolState × MuxLeaseRetirement) := do
  requireNonzero muxIncarnation "mux incarnation"
  let leased := state.panes.toList.filter fun entry => isLeasedTo muxIncarnation entry.2
  let waiting := leased.filter fun entry => entry.2.pendingInputEffect.isSome
  let settled := leased.filter fun entry => entry.2.pendingInputEffect.isNone
  let barred := settled.filter fun entry =>
    state.indeterminateCheckpointsByPane.contains entry.1
  return ({ state with panes := state.panes.map (state.retireLease muxIncarnation) },
    ⟨settled.length - barred.length, waiting.length, barred.length⟩)

/-- The pane of a process that has exited. -/
def exitedPane (exitStatus : Int) : GuardianPaneState → Option GuardianPaneState
  | .liveUnclaimed generation => some (.exitedUnclaimed generation exitStatus none)
  | .liveClaimed generation _ _ pending => some (.exitedUnclaimed generation exitStatus pending)
  | .quarantined generation reason none => some (.quarantined generation reason (some exitStatus))
  | .closedTerminal generation none => some (.closedTerminal generation (some exitStatus))
  | _ => none

/-- `mark_exited`. -/
def markExited (paneId : Uuid) (exitStatus : Int) :
    Except GuardianProtocolError (GuardianProtocolState × Unit) := do
  let pane ← okOr state.panes[paneId]? (.paneNotFound paneId)
  let exited ← okOr (exitedPane exitStatus pane) .paneTerminal
  return ({ state with panes := state.panes.insert paneId exited }, ())

/-! ## Observations -/

/-- The oldest snapshots go until there is room; the flag says whether there is. -/
def retireSnapshots (snapshots : TreeMap Uuid CensusSnapshot) :
    List Uuid → TreeMap Uuid CensusSnapshot × List Uuid × Bool
  | [] => (snapshots, [], decide (snapshots.size < guardianMaxCensusSnapshots))
  | id :: rest =>
    if snapshots.size < guardianMaxCensusSnapshots then (snapshots, id :: rest, true)
    else retireSnapshots (snapshots.erase id) rest

/-- A new snapshot, in `census`. -/
def takeSnapshot (muxIncarnation : Uuid) :
    GuardianProtocolState × Except GuardianProtocolError Uuid :=
  let snapshotId := state.nextCensusSnapshotSequence
  if 2 ^ 128 - 1 ≤ state.nextCensusSnapshotSequence then (state, .error .capacityExhausted)
  else if snapshotId = 0 ∨ state.censusSnapshots.contains snapshotId = true then
    (state, .error (.stateInvariantViolation "guardian-census-snapshot-sequence"))
  else
    let entries := state.panes.toList.map fun entry =>
      CensusEntry.fromState entry.1 entry.2 state.indeterminateCheckpointsByPane[entry.1]?
    match retireSnapshots state.censusSnapshots state.censusSnapshotOrder with
    | (snapshots, order, false) =>
      ({ state with censusSnapshots := snapshots, censusSnapshotOrder := order },
        .error .capacityExhausted)
    | (snapshots, order, true) =>
      ({ state with
          censusSnapshots := snapshots.insert snapshotId ⟨muxIncarnation, entries⟩
          censusSnapshotOrder := order ++ [snapshotId]
          nextCensusSnapshotSequence := state.nextCensusSnapshotSequence + 1 },
        .ok snapshotId)

/-- The page of a snapshot, in `census`. -/
def censusPage (state : GuardianProtocolState) (page : CensusPageRequest) (muxIncarnation : Uuid)
    (snapshotId : Uuid) : Except GuardianProtocolError GuardianReply := do
  refuseIf ((state.censusSnapshots[snapshotId]?.any fun snapshot =>
    snapshot.muxIncarnation != muxIncarnation) = true) .censusSnapshotIdentityConflict
  let snapshot ← okOr state.censusSnapshots[snapshotId]? (.censusSnapshotNotFound snapshotId)
  let totalPanes := snapshot.entries.length
  refuseIf (totalPanes < page.cursor) (.invalidCensusCursor page.cursor totalPanes)
  let pageCapacity := min page.maxEntries
    ((page.maxBytes - guardianCensusPageHeaderBytes) / guardianCensusEntryEncodedBytes)
  let entries := (snapshot.entries.drop page.cursor).take pageCapacity
  let last := page.cursor + entries.length
  return .censusPage snapshotId entries (if last < totalPanes then some last else none) totalPanes

/-- `census`. -/
def census (page : CensusPageRequest) (muxIncarnation : Uuid) :
    GuardianProtocolState × Except GuardianProtocolError GuardianReply :=
  if page.cursor = 0 then
    match state.takeSnapshot muxIncarnation with
    | (after, .error error) => (after, .error error)
    | (after, .ok snapshotId) => (after, after.censusPage page muxIncarnation snapshotId)
  else (state, state.censusPage page muxIncarnation page.snapshotId)

/-- `attach`. -/
def attach : Except GuardianProtocolError GuardianReply := do
  let paneId ← okOr header.paneId (.invalidOperationScope header.operation)
  match state.panes[paneId]? with
  | some (.liveClaimed generation muxIncarnation nextSequence _) =>
    if generation = header.leaseGeneration ∧ muxIncarnation = header.muxIncarnation then
      .ok (.attached paneId generation nextSequence)
    else .error .staleLease
  | some (.liveUnclaimed _) => .error .staleLease
  | some _ => .error .paneTerminal
  | none => .error (.paneNotFound paneId)

/-- `require_replay_generation`. -/
def requireReplayGeneration : Except GuardianProtocolError Nat := do
  let paneId ← okOr header.paneId (.invalidOperationScope header.operation)
  match state.panes[paneId]? with
  | some (.liveClaimed generation muxIncarnation _ _) =>
    if generation = header.leaseGeneration ∧ muxIncarnation = header.muxIncarnation then
      .ok generation
    else .error .staleLease
  | some (.liveUnclaimed _) => .error .staleLease
  | some pane =>
    if pane.generation = header.leaseGeneration then .ok pane.generation else .error .staleLease
  | none => .error (.paneNotFound paneId)

/-- `replay`. -/
def replay : Except GuardianProtocolError GuardianReply := do
  let paneId ← okOr header.paneId (.invalidOperationScope header.operation)
  let generation ← state.requireReplayGeneration header
  return .replayReady paneId generation

/-- `missing_input_effect_state`. -/
def missingInputEffectState (paneId : Uuid) (sequence : Nat) :
    Except GuardianProtocolError InputEffectState :=
  match state.panes[paneId]? with
  | some (.liveClaimed _ _ nextSequence _) =>
    .ok (if sequence < nextSequence then .dispositionUnavailable else .notSeen)
  | some (.quarantined _ _ _) => .ok .dispositionUnavailable
  | some pane => .ok (if pane.generation = 0 then .notSeen else .dispositionUnavailable)
  | none => .error (.paneNotFound paneId)

/-- `require_effect_query_authority`. -/
def requireEffectQueryAuthority (paneId : Uuid) (header : GuardianRequestHeader) :
    Except GuardianProtocolError Unit :=
  match state.panes[paneId]? with
  | some (.liveClaimed generation muxIncarnation _ _) =>
    refuseIf (¬(generation = header.leaseGeneration ∧ muxIncarnation = header.muxIncarnation))
      .staleLease
  | some pane => refuseIf (pane.generation ≠ header.leaseGeneration) .staleLease
  | none => .error (.paneNotFound paneId)

/-- The state of a retained input, in `query_input_effect`. -/
def storedInputState (stored : StoredEffect) (expected : EffectFingerprint) :
    Except GuardianProtocolError InputEffectState := do
  refuseIf (stored.fingerprint ≠ expected) .inputDurabilityIdentityMismatch
  match stored.state with
  | .input state => do
    state.validateForInputBytes expected.payloadBytes
    return state
  | _ => .error .inputDurabilityIdentityMismatch

/-- The fingerprint that a query asks for. -/
def queriedFingerprint (paneId : Uuid) (generation : Nat) (query : InputEffectQuery) :
    EffectFingerprint where
  operation := .input
  paneId := paneId
  muxIncarnation := query.originMuxIncarnation
  leaseGeneration := generation
  leaseSequence := query.sequence
  payloadBytes := query.inputBytes
  payloadSha256 := query.payloadSha256

/-- The state that a query is answered with, in `query_input_effect`. -/
def queriedState (paneId effectId : Uuid) (generation : Nat) (query : InputEffectQuery) :
    Except GuardianProtocolError InputEffectState :=
  match state.receipts.effects[effectId]? with
  | none => state.missingInputEffectState paneId query.sequence
  | some stored => storedInputState stored (queriedFingerprint paneId generation query)

/-- `query_input_effect`. -/
def queryInputEffect : Except GuardianProtocolError GuardianReply := do
  let paneId ← okOr request.header.paneId (.invalidOperationScope request.header.operation)
  state.requireEffectQueryAuthority paneId request.header
  let effectId ← okOr request.header.effectId .missingEffectQueryIdentity
  let query ← decoded (wire.inputEffectQuery request.payload)
  let answer ← state.queriedState paneId effectId request.header.leaseGeneration query
  return .inputEffect effectId answer

/-- The operations of `apply_observation`, behind its checks. -/
def observe : GuardianProtocolState × Except GuardianProtocolError GuardianReply :=
  match request.header.operation with
  | .hello => (state, .ok (.hello state.incarnation))
  | .census =>
    match decoded (wire.census request.payload) with
    | .error error => (state, .error error)
    | .ok page => state.census page request.header.muxIncarnation
  | .attach => (state, state.attach request.header)
  | .replay => (state, state.replay request.header)
  | .queryInputEffect => (state, state.queryInputEffect wire request)
  | operation => (state, .error (.invalidOperationScope operation))

/-- The checks of `apply_observation`. -/
def checkObservation : Except GuardianProtocolError Unit := do
  validateRequestEnvelope wire request
  refuseIf (request.header.operation ≠ .hello ∧
    request.header.guardianIncarnation ≠ state.incarnation) .guardianIncarnationMismatch

/-- `apply_observation`. -/
def applyObservation : GuardianProtocolState × Except GuardianProtocolError GuardianReply :=
  match state.checkObservation wire request with
  | .error error => (state, .error error)
  | .ok () => state.observe wire request

/-- `preflight_replay` and `preflight_replay_ack`, which differ in the operation. -/
def preflightReplay (operation : GuardianOperation) (request : GuardianRequest) :
    Except GuardianProtocolError Unit := do
  validateRequestEnvelope wire request
  refuseIf (request.header.guardianIncarnation ≠ state.incarnation) .guardianIncarnationMismatch
  refuseIf (request.header.operation ≠ operation)
    (.invalidOperationScope request.header.operation)
  let _ ← state.requireReplayGeneration request.header
  decoded (wire.accepts operation request.payload)

/-- The lease of a pane that is staged, in `preflight_checkpoint_stage`. -/
def requireStagedLease (paneId : Uuid) (generation : Nat) : Except GuardianProtocolError Unit :=
  match state.panes[paneId]? with
  | some (.liveClaimed liveGeneration muxIncarnation _ pending) => do
    refuseIf (¬(liveGeneration = generation ∧ muxIncarnation = header.muxIncarnation))
      .staleLease
    refuseIf (pending.isSome = true) .inputDurabilityPending
    refuseIf (state.indeterminateCheckpointsByPane.contains paneId = true)
      .checkpointOutcomeIndeterminate
  | some (.liveUnclaimed _) => .error .staleLease
  | some _ => .error .paneTerminal
  | none => .error (.paneNotFound paneId)

/-- The scope of a stage has to be a leased pane. -/
def requireStagedScope : CheckpointScope → Except GuardianProtocolError Unit
  | .genesis _ => .error (.invalidOperationScope .checkpointStage)
  | .pane paneId generation => state.requireStagedLease header paneId generation

/-- `preflight_checkpoint_stage`. -/
def preflightCheckpointStage : Except GuardianProtocolError CheckpointStage := do
  validateRequestEnvelope wire request
  refuseIf (request.header.guardianIncarnation ≠ state.incarnation) .guardianIncarnationMismatch
  refuseIf (request.header.operation ≠ .checkpointStage)
    (.invalidOperationScope request.header.operation)
  let stage ← decoded (wire.checkpointStage request.header request.payload)
  state.requireStagedScope request.header stage.scope
  return stage

/-- `preflight_checkpoint_seal`. -/
def preflightCheckpointSeal : Except GuardianProtocolError CheckpointStage := do
  let stage ← state.preflightCheckpointStage wire request
  refuseIf (stage.kind ≠ .seal) .invalidOperationPayload
  return stage

/-! ## The receipt of an open effect -/

/-- `require_operation` of a reply to an effect whose outcome may be open. -/
def requireOperation (operation : GuardianOperation) (reply : GuardianReply) :
    Except GuardianProtocolError Unit :=
  match operation, reply with
  | .spawn, .spawned paneId generation =>
    refuseIf (¬(paneId ≠ 0 ∧ generation = 0)) .invalidReplyPayload
  | .claim, .claimed paneId generation nextSequence =>
    refuseIf (¬(paneId ≠ 0 ∧ 0 < generation ∧ 0 < nextSequence)) .invalidReplyPayload
  | .resize, .mutationApplied paneId generation sequence
  | .signal, .mutationApplied paneId generation sequence =>
    refuseIf (¬(paneId ≠ 0 ∧ 0 < generation ∧ 0 < sequence)) .invalidReplyPayload
  | .close, .mutationApplied paneId generation sequence =>
    refuseIf (¬(paneId ≠ 0 ∧ (sequence = 0 ∨ (0 < generation ∧ 0 < sequence))))
      .invalidReplyPayload
  | .retireLease, .leaseRetired paneId generation =>
    refuseIf (¬(paneId ≠ 0 ∧ 0 < generation)) .invalidReplyPayload
  | .spawn, .effectOutcomeIndeterminate paneId generation sequence effectId =>
    refuseIf (¬(paneId ≠ 0 ∧ effectId ≠ 0 ∧ generation = 0 ∧ sequence = 0)) .invalidReplyPayload
  | .close, .effectOutcomeIndeterminate paneId generation sequence effectId =>
    refuseIf (¬(paneId ≠ 0 ∧ effectId ≠ 0 ∧
      ((0 < generation ∧ 0 < sequence) ∨ sequence = 0))) .invalidReplyPayload
  | .claim, .effectOutcomeIndeterminate paneId generation sequence effectId
  | .resize, .effectOutcomeIndeterminate paneId generation sequence effectId
  | .signal, .effectOutcomeIndeterminate paneId generation sequence effectId
  | .retireLease, .effectOutcomeIndeterminate paneId generation sequence effectId =>
    refuseIf (¬(paneId ≠ 0 ∧ effectId ≠ 0 ∧ 0 < generation ∧ 0 < sequence)) .invalidReplyPayload
  | _, _ => .error (.replyOperationMismatch operation)

/-- The bytes that `encode_for_operation` reserves for such a reply. -/
def encodedCapacity : GuardianReply → Nat
  | .spawned _ _ => 24
  | .leaseRetired _ _ => 24
  | .claimed _ _ _ => 32
  | .mutationApplied _ _ _ => 32
  | .effectOutcomeIndeterminate _ _ _ _ => 48
  | _ => 0

/-- The bytes that `encode_for_operation` writes: a UUID has sixteen, a number eight. -/
def encodedLength : GuardianReply → Nat
  | .spawned _ _ => 16 + 8
  | .leaseRetired _ _ => 16 + 8
  | .claimed _ _ _ => 16 + 8 + 8
  | .mutationApplied _ _ _ => 16 + 8 + 8
  | .effectOutcomeIndeterminate _ _ _ _ => 16 + 8 + 8 + 16
  | _ => 0

/-- `encode_for_operation`, as far as it can fail. -/
def encodeForOperation (operation : GuardianOperation) (reply : GuardianReply) :
    Except GuardianProtocolError Unit := do
  requireOperation operation reply
  refuseIf (guardianMaxPayloadBytes < encodedCapacity reply) .payloadTooLarge
  refuseIf (encodedLength reply ≠ encodedCapacity reply)
    (.stateInvariantViolation "guardian-reply-encoded-size")

/-- `require_response_identity` of a reply to an effect whose outcome is open. -/
def requireResponseIdentity (reply : GuardianReply) : Except GuardianProtocolError Unit := do
  requireOperation header.operation reply
  let same := match reply with
    | .spawned paneId generation => header.paneId == some paneId && generation == 0
    | .claimed paneId generation nextSequence => header.paneId == some paneId &&
        checkedSucc header.leaseGeneration == some generation && nextSequence == 1
    | .mutationApplied paneId generation sequence => header.paneId == some paneId &&
        header.leaseGeneration == generation && header.leaseSequence == sequence
    | .leaseRetired paneId generation =>
      header.paneId == some paneId && header.leaseGeneration == generation
    | .effectOutcomeIndeterminate paneId generation sequence effectId =>
      header.paneId == some paneId && header.effectId == some effectId &&
        match header.operation with
        | .spawn => header.leaseGeneration == 0 && header.leaseSequence == 0 &&
            generation == 0 && sequence == 0
        | .claim => checkedSucc header.leaseGeneration == some generation &&
            header.leaseSequence == 0 && sequence == 1
        | _ => header.leaseGeneration == generation && header.leaseSequence == sequence
    | _ => false
  refuseIf (same = false) .responseRequestMismatch

/-- The numbers of an intended reply. -/
def intendedNumbers : GuardianReply → Except GuardianProtocolError (Uuid × Nat × Nat)
  | .spawned paneId generation => .ok (paneId, generation, 0)
  | .claimed paneId generation nextSequence => .ok (paneId, generation, nextSequence)
  | .mutationApplied paneId generation sequence => .ok (paneId, generation, sequence)
  | .leaseRetired paneId generation => .ok (paneId, generation, header.leaseSequence)
  | _ => .error .invalidReplyPayload

/-- `GuardianReply::effect_outcome_indeterminate`. -/
def effectOutcomeIndeterminate (header : GuardianRequestHeader) (intended : GuardianReply) :
    Except GuardianProtocolError GuardianReply := do
  refuseIf (header.operation.supportsGenericEffectIndeterminate = false) .invalidReplyPayload
  encodeForOperation header.operation intended
  requireResponseIdentity header intended
  let effectId ← okOr header.effectId (.invalidOperationScope header.operation)
  let numbers ← intendedNumbers header intended
  let receipt := GuardianReply.effectOutcomeIndeterminate numbers.1 numbers.2.1 numbers.2.2 effectId
  requireOperation header.operation receipt
  return receipt

/-- The retained request of an open effect, in `indeterminate_effect_reply`. -/
def intendedByRequest (fingerprint : EffectFingerprint) (effectId : Uuid) (stored : StoredRequest) :
    Except GuardianProtocolError (Option GuardianReply) := do
  refuseIf (stored.fingerprint ≠ fingerprint ∨ stored.effectId ≠ effectId) .requestIdentityConflict
  let effect ← okOr state.receipts.effects[effectId]?
    (.stateInvariantViolation "indeterminate-request-effect-reverse-index")
  refuseIf (effect.fingerprint ≠ fingerprint ∨ effect.reply ≠ stored.reply)
    (.stateInvariantViolation "indeterminate-request-effect-identity")
  return if effect.state = .outcomeIndeterminate then some stored.reply else none

/-- The retained open effect, in `indeterminate_effect_reply`. -/
def intendedByEffect (fingerprint : EffectFingerprint) (stored : StoredEffect) :
    Except GuardianProtocolError (Option GuardianReply) := do
  refuseIf (stored.fingerprint ≠ fingerprint) .effectIdentityConflict
  return if stored.state = .outcomeIndeterminate then some stored.reply else none

/-- The reply that an open effect was to have. -/
def intendedReply (fingerprint : EffectFingerprint) (requestId effectId : Uuid) :
    Except GuardianProtocolError (Option GuardianReply) :=
  match state.receipts.requests[requestId]? with
  | some stored => state.intendedByRequest fingerprint effectId stored
  | none =>
    match state.receipts.effects[effectId]? with
    | some stored => intendedByEffect fingerprint stored
    | none => .ok none

/-- The pane of an open effect is in quarantine. -/
def isQuarantinedByEffect : Option GuardianPaneState → Bool
  | some (.quarantined _ .effectOutcomeIndeterminate _) => true
  | _ => false

/-- The answer to an exact retry of an open effect. -/
def diagnosticReply (paneId : Uuid) : Option GuardianReply →
      Except GuardianProtocolError (Option GuardianReply)
  | none => .ok none
  | some intended => do
    refuseIf (isQuarantinedByEffect state.panes[paneId]? = false)
      (.stateInvariantViolation "indeterminate-effect-without-pane-quarantine")
    some <$> effectOutcomeIndeterminate header intended

/-- `indeterminate_effect_reply`. -/
def indeterminateEffectReply : Except GuardianProtocolError (Option GuardianReply) := do
  validateRequestEnvelope wire request
  refuseIf (request.header.guardianIncarnation ≠ state.incarnation) .guardianIncarnationMismatch
  refuseIf (request.header.operation.supportsGenericEffectIndeterminate = false)
    (.invalidOperationScope request.header.operation)
  let paneId ← okOr request.header.paneId (.invalidOperationScope request.header.operation)
  let effectId ← okOr request.header.effectId (.invalidOperationScope request.header.operation)
  let intended ← state.intendedReply (.fromAuthenticatedRequest paneId request)
    request.header.requestId effectId
  state.diagnosticReply request.header paneId intended

end

end GuardianProtocolState

/-! ## Runs -/

/-- What the guardian can be asked to do, with what its callbacks and its allocator report. -/
inductive Event where
  | effect (request : GuardianRequest) (memory : Bool) (outcome : EffectOutcome)
  | input (request : GuardianRequest) (memory : Bool) (outcome : EffectOutcome)
  | checkpoint (request : GuardianRequest) (settleMemory storeMemory published : Bool)
  | settleInput (identity : InputEffectIdentity) (target : InputEffectState) (memory : Bool)
  | reserve (spawnRequest beginRequest : GuardianRequest) (muxAuthority : Option MuxAuthority)
      (liveAuthority : Option LiveBuildAuthority) (memory : Bool)
  | finalize (request : GuardianRequest) (continuation : ActivationContinuation) (memory : Bool)
      (outcome : EffectOutcome)
  | fence (candidate : DurableSpawnFence) (memory : Bool)
  | disconnect (muxIncarnation : Uuid)
  | exit (paneId : Uuid) (exitStatus : Int)
  | observe (request : GuardianRequest)
  | completedGenesisSpawn (request : GuardianRequest)
  | indeterminateEffect (request : GuardianRequest)
  | preflightReplay (operation : GuardianOperation) (request : GuardianRequest)
  | preflightStage (request : GuardianRequest)
  | preflightSeal (request : GuardianRequest)

/-- What an event leaves, is refused with and calls. -/
structure Outcome where
  state : GuardianProtocolState
  error : Option GuardianProtocolError := none
  call : Option Call := none

/-- The protocol error of an answer. -/
def protocolError {α : Type} : Except TransactionError α → Option GuardianProtocolError
  | .error (.protocol error) => some error
  | _ => none

/-- The outcome of a transaction. -/
def Result.outcome {α : Type} (result : Result α) : Outcome :=
  ⟨result.state, protocolError result.answer, result.call⟩

/-- The outcome of an operation that changes the state only when it succeeds. -/
def written {α : Type} (state : GuardianProtocolState) :
    Except GuardianProtocolError (GuardianProtocolState × α) → Outcome
  | .error error => { state, error := some error }
  | .ok (after, _) => { state := after }

/-- The outcome of an operation that only reads. -/
def seen {α : Type} (state : GuardianProtocolState) : Except GuardianProtocolError α → Outcome
  | .error error => { state, error := some error }
  | .ok _ => { state }

/-- The outcome of an observation. -/
def observed (result : GuardianProtocolState × Except GuardianProtocolError GuardianReply) :
    Outcome := seen result.1 result.2

/-- One event. -/
def step (wire : Wire) (state : GuardianProtocolState) : Event → Outcome
  | .effect request memory outcome =>
    (state.applyEffectTransactionally wire memory request outcome).outcome
  | .input request memory outcome =>
    (state.applyInputEffectTransactionally wire memory request outcome).outcome
  | .checkpoint request settleMemory storeMemory published =>
    (state.applyCheckpointTransactionally wire settleMemory storeMemory request
      published).outcome
  | .settleInput identity target memory =>
    written state (state.transitionPendingInput memory identity target)
  | .reserve spawnRequest beginRequest muxAuthority liveAuthority memory =>
    written state (state.reserveGenesisSpawn wire memory spawnRequest beginRequest muxAuthority
      liveAuthority)
  | .finalize request continuation memory outcome =>
    (state.finalizeGenesisSpawnTransactionally wire memory request continuation outcome).outcome
  | .fence candidate memory => written state (state.installDurableSpawnFence memory candidate)
  | .disconnect muxIncarnation => written state (state.retireDisconnectedMuxLeases muxIncarnation)
  | .exit paneId exitStatus => written state (state.markExited paneId exitStatus)
  | .observe request => observed (state.applyObservation wire request)
  | .completedGenesisSpawn request => seen state (state.completedGenesisSpawnReply wire request)
  | .indeterminateEffect request => seen state (state.indeterminateEffectReply wire request)
  | .preflightReplay operation request =>
    seen state (state.preflightReplay wire operation request)
  | .preflightStage request => seen state (state.preflightCheckpointStage wire request)
  | .preflightSeal request => seen state (state.preflightCheckpointSeal wire request)

/-- A run, with its last state and the calls it made. -/
def run (wire : Wire) : GuardianProtocolState → List Event → GuardianProtocolState × List Call
  | state, [] => (state, [])
  | state, event :: events =>
    let outcome := step wire state event
    let later := run wire outcome.state events
    (later.1, outcome.call.toList ++ later.2)

end FrankenTerm.Ports.Guardian
