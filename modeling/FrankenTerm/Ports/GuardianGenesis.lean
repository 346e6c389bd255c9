import FrankenTerm.Ports.GuardianState

/-!
# Reserved and fenced spawns of the guardian

A spawn can be reserved before the child exists (`reserve_genesis_spawn`), and a restarted guardian
is told about the spawns that a broker has carried out (`install_durable_spawn_fence`).  Both are
indexed by request, by effect and by pane, and a generic spawn that meets one of the three is
refused for good (`fence_reserved_genesis_spawn`); a reserved spawn is finished with the
continuation of its reservation only.

## Main results

* `SpawnIndex.Sound.insert` — a spawn whose effect and pane are fresh keeps the index sound.
* `preflightGenesisReservationIdentity_eq_ok`, `freshDurableSpawnFence_eq_ok` — the checks before an
  insertion.
* `fenceReservedGenesisSpawn_failsOnly`, `installDurableSpawnFence_failsOnly`,
  `reserveGenesisSpawn_failsOnly` — a sound index is never found broken.
-/

namespace FrankenTerm.Ports.Guardian

open Std (TreeMap TreeSet)
open SpawnIndex

open Verified Verified.Check

/-- `GuardianGenesisMuxAuthorityV1`: a connection proved by its hello, or a handoff by its
identity. -/
structure MuxAuthority where
  guardianIncarnation : Uuid
  muxIncarnation : Uuid
  proofId : Uuid
  muxBuildIdentity : Digest

/-- `GuardianLiveBuildAuthorityV1`. -/
structure LiveBuildAuthority where
  guardianIncarnation : Uuid
  guardianBuildIdentity : Digest

/-- `GuardianGenesisActivationContinuationV1`. -/
structure ActivationContinuation where
  guardianIncarnation : Uuid
  reservation : GenesisReservation

/-- `validated_parts`. -/
def MuxAuthority.validatedParts (authority : MuxAuthority) (incarnation : Uuid) :
    Except GuardianProtocolError (Uuid × Digest) := do
  refuseIf (authority.guardianIncarnation ≠ incarnation ∨ authority.muxIncarnation = 0 ∨
    authority.proofId = 0) .genesisAuthorityMismatch
  return (authority.muxIncarnation, authority.muxBuildIdentity)

/-- `GuardianGenesisReservationIdentityV1::validate`. -/
def GenesisReservation.isValid (record : GenesisReservation) : Bool :=
  record.muxIncarnation != 0 && record.spawnEffectId != 0 && record.durablePaneId != 0 &&
    record.originRequestId != 0 && record.spawnPayloadBytes != 0 &&
    record.spawnPayloadDigest != 0 && record.spawningMuxBuildIdentityDigest != 0 &&
    record.liveGuardianBuildIdentityDigest != 0 && record.rows != 0 && record.cols != 0 &&
    record.checkpointIdentityDigest != 0 && record.boundaryIdentityDigest != 0 &&
    record.uploadId != 0

/-! ## The index -/

namespace SpawnIndex

variable {α : Type}

/-- A spawn whose request is known is refused. -/
def refuseRequest (index : SpawnIndex α) (requestId : Uuid) (error : α → GuardianProtocolError) :
    Except GuardianProtocolError Unit :=
  match index.byRequest[requestId]? with
  | none => .ok ()
  | some existing => .error (error existing)

/-- A spawn whose effect or pane is known is refused; `site` is the check of the index. -/
def refuseIndexed (index : SpawnIndex α) (ids : TreeMap Uuid Uuid) (id : Uuid) (site : String)
    (error : α → GuardianProtocolError) : Except GuardianProtocolError Unit :=
  match ids[id]? with
  | none => .ok ()
  | some requestId =>
    match index.byRequest[requestId]? with
    | none => .error (.stateInvariantViolation site)
    | some existing => .error (error existing)

/-- A spawn whose effect or pane belongs to another spawn is refused. -/
def refuseForeign (index : SpawnIndex α) (ids : TreeMap Uuid Uuid) (id : Uuid) (site : String)
    (same : α → Bool) (error : GuardianProtocolError) : Except GuardianProtocolError Unit :=
  match ids[id]? with
  | none => .ok ()
  | some requestId =>
    match index.byRequest[requestId]? with
    | none => .error (.stateInvariantViolation site)
    | some existing => refuseIf (same existing = false) error

/-- A new spawn. -/
def insert (index : SpawnIndex α) (fence : DurableSpawnFence) (value : α) : SpawnIndex α where
  byRequest := index.byRequest.insert fence.originRequestId value
  effects := index.effects.insert fence.spawnEffectId fence.originRequestId
  panes := index.panes.insert fence.durablePaneId fence.originRequestId

end SpawnIndex

/-- The refusal of a spawn that has been reserved or fenced already, or of another one. -/
def issuedOr (same : Bool) (other : GuardianProtocolError) : GuardianProtocolError :=
  if same then .genesisReservationAlreadyIssued else other

/-- The refusal of a generic spawn. -/
def admissionOr (same : Bool) (other : GuardianProtocolError) : GuardianProtocolError :=
  if same then .genesisSpawnRequiresPublishedAdmission else other

namespace GuardianProtocolState

/-! ## Durable fences -/

section

variable (wire : Wire) (state : GuardianProtocolState) (request : GuardianRequest)

/-- A fence whose request is known, in `install_durable_spawn_fence`. -/
def knownDurableSpawnFence (existing candidate : DurableSpawnFence) :
    Except GuardianProtocolError Unit := do
  let effectRequest ← okOr state.durable.effects[existing.spawnEffectId]?
    (.stateInvariantViolation "durable-spawn-request-effect-index")
  let paneRequest ← okOr state.durable.panes[existing.durablePaneId]?
    (.stateInvariantViolation "durable-spawn-request-pane-index")
  refuseIf (effectRequest ≠ existing.originRequestId ∨ paneRequest ≠ existing.originRequestId)
    (.stateInvariantViolation "durable-spawn-request-index-identity")
  refuseIf (existing ≠ candidate) .requestIdentityConflict

/-- A fence whose request is new, in `install_durable_spawn_fence`. -/
def freshDurableSpawnFence (candidate : DurableSpawnFence) : Except GuardianProtocolError Unit := do
  let same := fun record : GenesisReservation => record.toDurableSpawnFence == candidate
  refuseIf (state.receipts.requests.contains candidate.originRequestId = true ∨
    state.protectedSpawnRequests.contains candidate.originRequestId = true) .requestIdentityConflict
  refuseIf ((state.genesis.byRequest[candidate.originRequestId]?.any fun record =>
    !same record) = true) .requestIdentityConflict
  state.durable.refuseIndexed state.durable.effects candidate.spawnEffectId
    "durable-spawn-effect-request-index"
    fun existing => issuedOr (existing == candidate) .effectIdentityConflict
  refuseIf (state.receipts.effects.contains candidate.spawnEffectId = true ∨
    state.protectedSpawnEffects.contains candidate.spawnEffectId = true) .effectIdentityConflict
  state.genesis.refuseForeign state.genesis.effects candidate.spawnEffectId
    "genesis-effect-durable-spawn-index" same .effectIdentityConflict
  state.durable.refuseIndexed state.durable.panes candidate.durablePaneId
    "durable-spawn-pane-request-index"
    fun existing => issuedOr (existing == candidate) (.paneAlreadyExists candidate.durablePaneId)
  refuseIf (state.panes.contains candidate.durablePaneId = true)
    (.paneAlreadyExists candidate.durablePaneId)
  state.genesis.refuseForeign state.genesis.panes candidate.durablePaneId
    "genesis-pane-durable-spawn-index" same (.paneAlreadyExists candidate.durablePaneId)
  refuseIf (guardianMaxPanes ≤ state.durable.byRequest.size ∨
    (state.genesis.panes.contains candidate.durablePaneId = false ∧
      guardianMaxPanes ≤ state.occupiedPaneSlots)) .capacityExhausted

/-- `install_durable_spawn_fence`; the flag says whether the fence is new. -/
def installDurableSpawnFence (memory : Bool) (candidate : DurableSpawnFence) :
    Except GuardianProtocolError (GuardianProtocolState × Bool) :=
  match state.durable.byRequest[candidate.originRequestId]? with
  | some existing => do
    state.knownDurableSpawnFence existing candidate
    return (state, false)
  | none => do
    state.freshDurableSpawnFence candidate
    refuseIf (memory = false) .capacityExhausted
    return ({ state with durable := state.durable.insert candidate candidate }, true)

/-! ## Reservations -/

/-- `preflight_genesis_reservation_identity`. -/
def preflightGenesisReservationIdentity (candidate : GenesisReservation) :
    Except GuardianProtocolError Unit := do
  let fence := candidate.toDurableSpawnFence
  state.durable.refuseRequest fence.originRequestId
    fun existing => issuedOr (existing == fence) .requestIdentityConflict
  state.durable.refuseIndexed state.durable.effects fence.spawnEffectId
    "durable-spawn-effect-genesis-index"
    fun existing => issuedOr (existing == fence) .effectIdentityConflict
  state.durable.refuseIndexed state.durable.panes fence.durablePaneId
    "durable-spawn-pane-genesis-index"
    fun existing => issuedOr (existing == fence) (.paneAlreadyExists fence.durablePaneId)
  state.genesis.refuseRequest fence.originRequestId
    fun existing => issuedOr (existing == candidate) .requestIdentityConflict
  refuseIf (state.receipts.requests.contains fence.originRequestId = true ∨
    state.protectedSpawnRequests.contains fence.originRequestId = true) .requestIdentityConflict
  state.genesis.refuseIndexed state.genesis.effects fence.spawnEffectId
    "genesis-effect-request-index"
    fun existing => issuedOr (existing == candidate) .effectIdentityConflict
  refuseIf (state.receipts.effects.contains fence.spawnEffectId = true ∨
    state.protectedSpawnEffects.contains fence.spawnEffectId = true) .effectIdentityConflict
  state.genesis.refuseIndexed state.genesis.panes fence.durablePaneId
    "genesis-pane-request-index"
    fun existing => issuedOr (existing == candidate) (.paneAlreadyExists fence.durablePaneId)
  refuseIf (state.panes.contains fence.durablePaneId = true)
    (.paneAlreadyExists fence.durablePaneId)
  refuseIf (guardianMaxPanes ≤ state.occupiedPaneSlots) .capacityExhausted

/-- The record of a reservation, in `reserve_genesis_spawn`. -/
def genesisRecord (spawnRequest beginRequest : GuardianRequest) (muxIncarnation : Uuid)
    (muxBuildIdentity : Digest) (live : LiveBuildAuthority) :
    Except GuardianProtocolError GenesisReservation := do
  let spawnEffectId ← okOr spawnRequest.header.effectId (.invalidOperationScope .spawn)
  let durablePaneId ← okOr spawnRequest.header.paneId (.invalidOperationScope .spawn)
  let size ← decoded (wire.spawn spawnRequest.payload)
  let stage ← decoded (wire.checkpointStage beginRequest.header beginRequest.payload)
  refuseIf (stage.kind ≠ .begin ∨ stage.scope ≠ .genesis spawnEffectId) .invalidGenesisReservation
  refuseIf (stage.rows ≠ size.rows ∨ stage.cols ≠ size.cols) .invalidGenesisReservation
  let record : GenesisReservation :=
    { muxIncarnation, spawnEffectId, durablePaneId
      originRequestId := spawnRequest.header.requestId
      spawnPayloadBytes := spawnRequest.authenticatedPayloadBytes
      spawnPayloadDigest := spawnRequest.header.payloadSha256
      spawningMuxBuildIdentityDigest := muxBuildIdentity
      liveGuardianBuildIdentityDigest := live.guardianBuildIdentity
      rows := size.rows, cols := size.cols
      pixelWidth := size.pixelWidth, pixelHeight := size.pixelHeight
      checkpointIdentityDigest := stage.checkpointId
      boundaryIdentityDigest := stage.boundaryId
      uploadId := stage.uploadId }
  refuseIf (record.isValid = false) .invalidGenesisReservation
  return record

/-- `reserve_genesis_spawn`; the permit carries the record, as does the continuation that
`reserve_genesis_spawn_for_activation` returns with it. -/
def reserveGenesisSpawn (memory : Bool) (spawnRequest beginRequest : GuardianRequest)
    (muxAuthority : Option MuxAuthority) (liveAuthority : Option LiveBuildAuthority) :
    Except GuardianProtocolError (GuardianProtocolState × GenesisReservation) := do
  validateRequestEnvelope wire spawnRequest
  validateRequestEnvelope wire beginRequest
  refuseIf (spawnRequest.header.guardianIncarnation ≠ state.incarnation ∨
    beginRequest.header.guardianIncarnation ≠ state.incarnation) .guardianIncarnationMismatch
  refuseIf (spawnRequest.header.operation ≠ .spawn)
    (.invalidOperationScope spawnRequest.header.operation)
  refuseIf (beginRequest.header.operation ≠ .checkpointStage)
    (.invalidOperationScope beginRequest.header.operation)
  let authority ← okOr muxAuthority .genesisAuthorityUnavailable
  let live ← okOr liveAuthority .genesisAuthorityUnavailable
  let (muxIncarnation, muxBuildIdentity) ← authority.validatedParts state.incarnation
  refuseIf (live.guardianIncarnation ≠ state.incarnation ∨ live.guardianBuildIdentity = 0)
    .genesisAuthorityMismatch
  refuseIf (muxIncarnation ≠ spawnRequest.header.muxIncarnation ∨
    muxIncarnation ≠ beginRequest.header.muxIncarnation) .genesisAuthorityMismatch
  let record ← genesisRecord wire spawnRequest beginRequest muxIncarnation muxBuildIdentity live
  state.preflightGenesisReservationIdentity record
  refuseIf (memory = false) .capacityExhausted
  return ({ state with genesis := state.genesis.insert record.toDurableSpawnFence record }, record)

/-- `fence_reserved_genesis_spawn` of a spawn with these identities. -/
def fenceSpawn (effectId paneId : Uuid) : Except GuardianProtocolError Unit := do
  let refused := fun (other : GuardianProtocolError) (fence : DurableSpawnFence) =>
    admissionOr (fence.matchesAuthenticatedSpawn request) other
  let reserved := fun (other : GuardianProtocolError) (record : GenesisReservation) =>
    refused other record.toDurableSpawnFence
  state.durable.refuseRequest request.header.requestId (refused .requestIdentityConflict)
  state.durable.refuseIndexed state.durable.effects effectId
    "durable-spawn-effect-spawn-fence" (refused .effectIdentityConflict)
  state.durable.refuseIndexed state.durable.panes paneId
    "durable-spawn-pane-spawn-fence" (refused (.paneAlreadyExists paneId))
  state.genesis.refuseRequest request.header.requestId (reserved .requestIdentityConflict)
  state.genesis.refuseIndexed state.genesis.effects effectId
    "genesis-effect-spawn-fence" (reserved .effectIdentityConflict)
  state.genesis.refuseIndexed state.genesis.panes paneId
    "genesis-pane-spawn-fence" (reserved (.paneAlreadyExists paneId))

/-- `fence_reserved_genesis_spawn`. -/
def fenceReservedGenesisSpawn : Except GuardianProtocolError Unit := do
  if request.header.operation ≠ .spawn then return ()
  else do
    let effectId ← okOr request.header.effectId (.invalidOperationScope .spawn)
    let paneId ← okOr request.header.paneId (.invalidOperationScope .spawn)
    state.fenceSpawn request effectId paneId

/-- The checks of `finalize_genesis_spawn_transactionally`. -/
def checkContinuation (continuation : ActivationContinuation) :
    Except GuardianProtocolError Unit := do
  let reservation := continuation.reservation
  validateRequestEnvelope wire request
  refuseIf (request.header.guardianIncarnation ≠ state.incarnation ∨
    continuation.guardianIncarnation ≠ state.incarnation) .guardianIncarnationMismatch
  refuseIf (request.header.operation ≠ .spawn) (.invalidOperationScope request.header.operation)
  refuseIf (reservation.matchesAuthenticatedSpawn request = false) .requestIdentityConflict
  refuseIf (state.genesis.byRequest[reservation.originRequestId]? ≠ some reservation ∨
    state.genesis.effects[reservation.spawnEffectId]? ≠ some reservation.originRequestId ∨
    state.genesis.panes[reservation.durablePaneId]? ≠ some reservation.originRequestId)
    .invalidGenesisReservation

/-- `finalize_genesis_spawn_transactionally`. -/
def finalizeGenesisSpawnTransactionally (memory : Bool) (request : GuardianRequest)
    (continuation : ActivationContinuation) (outcome : EffectOutcome) : Result GuardianReply :=
  match state.checkContinuation wire request continuation with
  | .error error => state.fail error
  | .ok () => state.applyEffectTransactionInner memory request outcome

/-- The receipt of a completed spawn, in `completed_genesis_spawn_reply`. -/
def completedReceipt (reservation : GenesisReservation) (stored : StoredRequest) :
    Except GuardianProtocolError (Option GuardianReply) := do
  let paneId ← okOr request.header.paneId (.invalidOperationScope request.header.operation)
  let fingerprint := EffectFingerprint.fromAuthenticatedRequest paneId request
  refuseIf (stored.fingerprint ≠ fingerprint ∨ stored.effectId ≠ reservation.spawnEffectId)
    .requestIdentityConflict
  let effect ← okOr state.receipts.effects[stored.effectId]?
    (.stateInvariantViolation "genesis-completed-receipt-effect")
  refuseIf (effect.fingerprint ≠ fingerprint ∨ effect.reply ≠ stored.reply)
    (.stateInvariantViolation "genesis-completed-receipt-identity")
  return if effect.state = .applied then some stored.reply else none

/-- A spawn that is not reserved, in `completed_genesis_spawn_reply`. -/
def unreservedReply : Except GuardianProtocolError (Option GuardianReply) := do
  state.fenceReservedGenesisSpawn request
  return none

/-- A reserved spawn, in `completed_genesis_spawn_reply`. -/
def reservedReply (reservation : GenesisReservation) :
    Except GuardianProtocolError (Option GuardianReply) := do
  refuseIf (reservation.matchesAuthenticatedSpawn request = false) .requestIdentityConflict
  match state.receipts.requests[request.header.requestId]? with
  | none => return none
  | some stored => state.completedReceipt request reservation stored

/-- `completed_genesis_spawn_reply`. -/
def completedGenesisSpawnReply : Except GuardianProtocolError (Option GuardianReply) := do
  validateRequestEnvelope wire request
  refuseIf (request.header.guardianIncarnation ≠ state.incarnation) .guardianIncarnationMismatch
  refuseIf (request.header.operation ≠ .spawn) (.invalidOperationScope request.header.operation)
  match state.genesis.byRequest[request.header.requestId]? with
  | none => state.unreservedReply request
  | some reservation => state.reservedReply request reservation

end

end GuardianProtocolState

/-! ## A sound index -/

namespace SpawnIndex

variable {α : Type} {fence : α → DurableSpawnFence} {index : SpawnIndex α}

/-- The three maps name the same spawns. -/
structure Sound (fence : α → DurableSpawnFence) (index : SpawnIndex α) : Prop where
  of_request : ∀ (id : Uuid) value, index.byRequest[id]? = some value →
    (fence value).originRequestId = id ∧ index.effects[(fence value).spawnEffectId]? = some id ∧
      index.panes[(fence value).durablePaneId]? = some id
  of_effect : ∀ id requestId : Uuid, index.effects[id]? = some requestId →
    requestId ∈ index.byRequest
  of_pane : ∀ id requestId : Uuid, index.panes[id]? = some requestId → requestId ∈ index.byRequest

/-- **A spawn whose effect and pane are fresh keeps the index sound.** -/
theorem Sound.insert (h : index.Sound fence) {value : α}
    (hEffect : index.effects[(fence value).spawnEffectId]? = none)
    (hPane : index.panes[(fence value).durablePaneId]? = none) :
    (index.insert (fence value) value).Sound fence := by
  unfold SpawnIndex.insert
  constructor
  case of_request =>
    intro id other _
    have := h.of_request id other
    grind
  case of_effect =>
    intro id requestId _
    have := h.of_effect id requestId
    grind
  case of_pane =>
    intro id requestId _
    have := h.of_pane id requestId
    grind

variable {error : α → GuardianProtocolError} {site : String} {ids : TreeMap Uuid Uuid} {id : Uuid}

variable {requestId : Uuid}

theorem refuseRequest_eq_ok :
    index.refuseRequest requestId error = .ok () ↔ index.byRequest[requestId]? = none := by
  unfold refuseRequest
  split
  · simp_all
  · simp_all

theorem refuseIndexed_eq_ok : index.refuseIndexed ids id site error = .ok () ↔ ids[id]? = none := by
  unfold refuseIndexed
  split
  · simp_all
  · split
    all_goals simp_all

theorem refuseRequest_failsOnly (hError : ∀ value, (error value).Intact) :
    FailsIntact (index.refuseRequest requestId error) := by
  unfold refuseRequest
  split
  · exact FailsOnly.ok
  · rintro _ ⟨⟩
    exact hError _

theorem refuseIndexed_failsOnly
    (hIds : ∀ id requestId : Uuid, ids[id]? = some requestId → requestId ∈ index.byRequest)
    (hError : ∀ value, (error value).Intact) :
    FailsIntact (index.refuseIndexed ids id site error) := by
  unfold refuseIndexed
  split
  · exact FailsOnly.ok
  · next requestId hId =>
      rw [TreeMap.getElem?_eq_some_getElem (hIds id requestId hId)]
      rintro _ ⟨⟩
      exact hError _

theorem refuseForeign_failsOnly {same : α → Bool} {error : GuardianProtocolError}
    (hIds : ∀ id requestId : Uuid, ids[id]? = some requestId → requestId ∈ index.byRequest)
    (hError : error.Intact) :
    FailsIntact (index.refuseForeign ids id site same error) := by
  unfold refuseForeign
  split
  · exact FailsOnly.ok
  · next requestId hId =>
      rw [TreeMap.getElem?_eq_some_getElem (hIds id requestId hId)]
      exact FailsOnly.of_refuseIf fun _ => hError

end SpawnIndex

variable {other : GuardianProtocolError} {same : Bool}

theorem issuedOr_intact (h : other.Intact) : (issuedOr same other).Intact := by
  cases same
  · exact h
  · rfl

theorem admissionOr_intact (h : other.Intact) : (admissionOr same other).Intact := by
  cases same
  · exact h
  · rfl

namespace GuardianProtocolState

variable {state : GuardianProtocolState}

/-- The indices of durable and of reserved spawns are sound. -/
structure SpawnsSound (state : GuardianProtocolState) : Prop where
  durable : state.durable.Sound id
  genesis : state.genesis.Sound GenesisReservation.toDurableSpawnFence

variable {candidate : DurableSpawnFence} {memory : Bool}
  {beginRequest spawnRequest : GuardianRequest} {wire : Wire}

/-- **A durable fence has a fresh effect and pane**, and the pane is reserved or has a free slot. -/
theorem freshDurableSpawnFence_eq_ok (h : state.freshDurableSpawnFence candidate = .ok ()) :
    state.durable.effects[candidate.spawnEffectId]? = none ∧
      state.durable.panes[candidate.durablePaneId]? = none ∧
      (state.genesis.panes.contains candidate.durablePaneId ∨
        state.occupiedPaneSlots < guardianMaxPanes) := by
  unfold freshDurableSpawnFence at h
  simp only [↓refuseIf_bind_eq_ok, unit_bind_eq_ok, refuseIndexed_eq_ok,
    refuseIf_eq_ok] at h
  obtain ⟨_, _, hEffect, _, _, hPane, _⟩ := h
  refine ⟨hEffect, hPane, ?_⟩
  by_cases hReserved : state.genesis.panes.contains candidate.durablePaneId
  · exact .inl hReserved
  · exact .inr (by simp_all)

/-- **A reservation has a fresh effect and pane**, and there is a slot for the pane. -/
theorem preflightGenesisReservationIdentity_eq_ok {candidate : GenesisReservation}
    (h : state.preflightGenesisReservationIdentity candidate = .ok ()) :
    state.genesis.effects[candidate.spawnEffectId]? = none ∧
      state.genesis.panes[candidate.durablePaneId]? = none ∧
      state.occupiedPaneSlots < guardianMaxPanes := by
  unfold preflightGenesisReservationIdentity at h
  simp only [↓refuseIf_bind_eq_ok, unit_bind_eq_ok, refuseIndexed_eq_ok,
    refuseRequest_eq_ok, refuseIf_eq_ok, not_le] at h
  obtain ⟨_, _, _, _, _, hEffect, _, hPane, _, hSlots⟩ := h
  exact ⟨hEffect, hPane, hSlots⟩

theorem fenceReservedGenesisSpawn_failsOnly (h : state.SpawnsSound) {request : GuardianRequest} :
    FailsIntact (state.fenceReservedGenesisSpawn request) := by
  unfold fenceReservedGenesisSpawn
  split_ifs
  · exact FailsOnly.ok
  · refine .okOr_bind (fun _ => rfl) fun effectId _ => .okOr_bind (fun _ => rfl) fun paneId _ => ?_
    exact .bind (refuseRequest_failsOnly fun _ => admissionOr_intact rfl) fun _ _ =>
      .bind (refuseIndexed_failsOnly h.durable.of_effect fun _ =>
        admissionOr_intact rfl) fun _ _ =>
      .bind (refuseIndexed_failsOnly h.durable.of_pane fun _ =>
        admissionOr_intact rfl) fun _ _ =>
      .bind (refuseRequest_failsOnly fun _ => admissionOr_intact rfl) fun _ _ =>
      .bind (refuseIndexed_failsOnly h.genesis.of_effect fun _ =>
        admissionOr_intact rfl) fun _ _ =>
      refuseIndexed_failsOnly h.genesis.of_pane fun _ => admissionOr_intact rfl

theorem freshDurableSpawnFence_failsOnly (h : state.SpawnsSound) :
    FailsIntact (state.freshDurableSpawnFence candidate) := by
  exact .past rfl <| .past rfl <|
    .bind (refuseIndexed_failsOnly h.durable.of_effect fun _ =>
      issuedOr_intact rfl) fun _ _ => .past rfl <|
    .bind (refuseForeign_failsOnly h.genesis.of_effect rfl) fun _ _ =>
    .bind (refuseIndexed_failsOnly h.durable.of_pane fun _ =>
      issuedOr_intact rfl) fun _ _ => .past rfl <|
    .bind (refuseForeign_failsOnly h.genesis.of_pane rfl) fun _ _ =>
    .of_refuseIf fun _ => rfl

/-- **A sound index is never found broken** by a durable fence. -/
theorem installDurableSpawnFence_failsOnly (h : state.SpawnsSound) :
    FailsIntact (state.installDurableSpawnFence memory candidate) := by
  unfold installDurableSpawnFence
  split
  · next existing hKnown =>
      obtain ⟨_, _⟩ := h.durable.of_request _ existing hKnown
      refine .bind (.okOr_bind (fun hNone => ?_) fun effectRequest hSome =>
        .okOr_bind (fun hNone => ?_) fun paneRequest hSome' =>
        .refuseIf_bind (fun hBad => ?_) fun _ => .of_refuseIf fun _ => rfl) fun _ _ => .ok
      all_goals simp_all
  · exact .bind (freshDurableSpawnFence_failsOnly h) fun _ _ => .past rfl .ok

theorem preflightGenesisReservationIdentity_failsOnly (h : state.SpawnsSound)
    {candidate : GenesisReservation} : FailsIntact
      (state.preflightGenesisReservationIdentity candidate) := by
  exact .bind (refuseRequest_failsOnly fun _ => issuedOr_intact rfl) fun _ _ =>
    .bind (refuseIndexed_failsOnly h.durable.of_effect fun _ => issuedOr_intact rfl) fun _ _ =>
    .bind (refuseIndexed_failsOnly h.durable.of_pane fun _ => issuedOr_intact rfl) fun _ _ =>
    .bind (refuseRequest_failsOnly fun _ => issuedOr_intact rfl) fun _ _ => .past rfl <|
    .bind (refuseIndexed_failsOnly h.genesis.of_effect fun _ => issuedOr_intact rfl) fun _ _ =>
    .past rfl <| .bind (refuseIndexed_failsOnly h.genesis.of_pane fun _ =>
      issuedOr_intact rfl) fun _ _ => .past rfl <| .of_refuseIf fun _ => rfl

variable {after : GuardianProtocolState} {liveAuthority : Option LiveBuildAuthority}
  {muxAuthority : Option MuxAuthority}

/-- **A sound index is never found broken** by a reservation. -/
theorem reserveGenesisSpawn_failsOnly (h : state.SpawnsSound) : FailsIntact
      (state.reserveGenesisSpawn wire memory spawnRequest beginRequest muxAuthority
        liveAuthority) := by
  refine .bind validateRequestEnvelope_failsOnly fun _ _ =>
    .bind validateRequestEnvelope_failsOnly fun _ _ => .past rfl <| .past rfl <|
    .past rfl <| .okOr_bind (fun _ => rfl) fun _ _ => .okOr_bind (fun _ => rfl) fun _ _ =>
    .bind (.past rfl .ok) fun _ _ => .past rfl <| .past rfl <| .bind ?_ fun _ _ =>
    .bind (preflightGenesisReservationIdentity_failsOnly h) fun _ _ => .past rfl .ok
  -- The record of a reservation is built from checked parts.
  exact .okOr_bind (fun _ => rfl) fun _ _ => .okOr_bind (fun _ => rfl) fun _ _ =>
    .bind decoded_failsOnly fun _ _ => .bind decoded_failsOnly fun _ _ => .past rfl <| .past rfl <|
    .past rfl .ok

/-- What a reservation does to the state. -/
theorem reserveGenesisSpawn_eq_ok {record : GenesisReservation}
    (h : state.reserveGenesisSpawn wire memory spawnRequest beginRequest muxAuthority liveAuthority
      = .ok (after, record)) :
    state.preflightGenesisReservationIdentity record = .ok () ∧
      after = { state with
        genesis := state.genesis.insert record.toDurableSpawnFence record } := by
  unfold reserveGenesisSpawn at h
  simp only [↓refuseIf_bind_eq_ok, bind_eq_ok] at h
  obtain ⟨_, _, _, _, _, _, _, _, _, _, _, _, _, _, _, built, _, _, hFresh, _, h⟩ := h
  obtain ⟨rfl, rfl⟩ := Prod.mk.inj (Except.ok.inj h)
  exact ⟨hFresh, rfl⟩

/-- What a durable fence does to the state. -/
theorem installDurableSpawnFence_eq_ok {installed : Bool}
    (h : state.installDurableSpawnFence memory candidate = .ok (after, installed)) :
    after = state ∨ (state.freshDurableSpawnFence candidate = .ok () ∧
      after = { state with durable := state.durable.insert candidate candidate }) := by
  unfold installDurableSpawnFence at h
  split at h
  · rw [unit_bind_eq_ok] at h
    obtain ⟨rfl, _⟩ := Prod.mk.inj (Except.ok.inj h.2)
    exact .inl rfl
  · simp only [↓refuseIf_bind_eq_ok, unit_bind_eq_ok] at h
    obtain ⟨hFresh, _, h⟩ := h
    obtain ⟨rfl, _⟩ := Prod.mk.inj (Except.ok.inj h)
    exact .inr ⟨hFresh, rfl⟩

end GuardianProtocolState

end FrankenTerm.Ports.Guardian
