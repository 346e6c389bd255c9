import FrankenTerm.Ports.GuardianTypes

/-!
# The state of the guardian and its effect transactions

`GuardianProtocolState` remembers the panes, the receipts of effects and requests, the checkpoints
whose publication is open, and the spawns that are reserved or fenced.  A pane is unclaimed, or it
is leased to one multiplexer under a generation, with the number of the next mutation; every
mutation has to name both, so a delayed or repeated one is refused even when its receipt is gone.

An effect runs through a callback.  `applyEffectTransactionInner` answers a known request or effect
from its receipt; for a new effect it plans the pane's next state and the evictions, runs the
callback, and installs the plan.  A definite failure leaves everything as it was.  An open outcome
quarantines the pane for good.

The outcome of the callback is an argument: it is what the callback reports if it is called.  The
same holds for the allocator, whose refusals (`try_reserve`) all come before the callback.  Planning
never changes the state except that an exhausted counter quarantines the pane; such a quarantine is
part of the refusal.

## Main results

* `planNewEffect_cases` — what a planned effect needs and what it does to the pane.
* `planNewEffect_refused` — a refusal touches at most a live pane.
-/

namespace FrankenTerm.Ports.Guardian

open Std (TreeMap TreeSet)
open Verified Verified.Check Verified.ReceiptWindow

/-! ## State -/

/-- `GuardianDurableSpawnFenceV1`. -/
structure DurableSpawnFence where
  muxIncarnation : Uuid
  spawnEffectId : Uuid
  durablePaneId : Uuid
  originRequestId : Uuid
  spawnPayloadBytes : Nat
  spawnPayloadDigest : Digest
deriving DecidableEq, Repr

/-- `matches_authenticated_spawn`, the same for a fence and for a reservation. -/
def DurableSpawnFence.matchesAuthenticatedSpawn (fence : DurableSpawnFence)
    (request : GuardianRequest) : Bool :=
  fence.muxIncarnation == request.header.muxIncarnation &&
    fence.spawnEffectId == request.header.effectId.getD 0 &&
    fence.durablePaneId == request.header.paneId.getD 0 &&
    fence.originRequestId == request.header.requestId &&
    fence.spawnPayloadBytes == request.authenticatedPayloadBytes &&
    fence.spawnPayloadDigest == request.header.payloadSha256

/-- `GuardianGenesisReservationRecordV1`; its fence is `from_genesis_record`. -/
structure GenesisReservation extends DurableSpawnFence where
  spawningMuxBuildIdentityDigest : Digest
  liveGuardianBuildIdentityDigest : Digest
  rows : Nat
  cols : Nat
  pixelWidth : Nat
  pixelHeight : Nat
  checkpointIdentityDigest : Digest
  boundaryIdentityDigest : Digest
  uploadId : Uuid
deriving DecidableEq, Repr

/-- Spawn identities by their request, and the request by effect and by pane. -/
structure SpawnIndex (α : Type) where
  byRequest : TreeMap Uuid α := {}
  effects : TreeMap Uuid Uuid := {}
  panes : TreeMap Uuid Uuid := {}

/-- `GuardianCensusSnapshot`. -/
structure CensusSnapshot where
  muxIncarnation : Uuid
  entries : List CensusEntry

/-- `GuardianProtocolState`. -/
structure GuardianProtocolState where
  incarnation : Uuid
  panes : TreeMap Uuid GuardianPaneState := {}
  censusSnapshots : TreeMap Uuid CensusSnapshot := {}
  censusSnapshotOrder : List Uuid := []
  nextCensusSnapshotSequence : Nat := 1
  receipts : Window Uuid StoredEffect StoredRequest
  indeterminateCheckpointsByPane : TreeMap Uuid Uuid := {}
  protectedSpawnRequests : TreeSet Uuid := {}
  protectedSpawnEffects : TreeSet Uuid := {}
  genesis : SpawnIndex GenesisReservation := {}
  durable : SpawnIndex DurableSpawnFence := {}

namespace GuardianProtocolState

section

variable (state : GuardianProtocolState) (paneId : Uuid) (header : GuardianRequestHeader)

/-- The state that `GuardianProtocolState::new` returns. -/
def initial (incarnation : Uuid) : GuardianProtocolState where
  incarnation := incarnation
  receipts := { capacity := guardianMaxEffectReceipts }

/-- `GuardianProtocolState::new`. -/
def new (incarnation : Uuid) : Except GuardianProtocolError GuardianProtocolState := do
  requireNonzero incarnation "guardian incarnation"
  return initial incarnation

/-- `occupied_pane_slots`: panes, reserved panes and fenced panes, each counted once. -/
def occupiedPaneSlots : Nat :=
  state.panes.size +
    (state.genesis.panes.keys.filter fun pane => !state.panes.contains pane).length +
    (state.durable.panes.keys.filter fun pane =>
      !state.panes.contains pane && !state.genesis.panes.contains pane).length

/-! ## Planning -/

/-- A refusal, with the quarantine that an exhausted counter puts on the pane. -/
structure Refused where
  error : GuardianProtocolError
  quarantine : Option GuardianPaneState := none

/-- `require_current_lease`. -/
def requireCurrentLease : Except Refused Nat :=
  match state.panes[paneId]? with
  | some (.liveClaimed generation muxIncarnation nextSequence _) =>
    if generation = header.leaseGeneration ∧ muxIncarnation = header.muxIncarnation then
      .ok nextSequence
    else .error { error := .staleLease }
  | some (.liveUnclaimed _) => .error { error := .staleLease }
  | some _ => .error { error := .paneTerminal }
  | none => .error { error := .paneNotFound paneId }

/-- The pane behind the check of the lease, with the number of its next mutation advanced. -/
def advanceSequence (expected : Nat) (header : GuardianRequestHeader) (pane : GuardianPaneState) :
    Except Refused (Nat × GuardianPaneState) :=
  match checkedSucc expected with
  | none => .error
      { error := .sequenceExhausted
        quarantine := some (.quarantined header.leaseGeneration .sequenceExhausted none) }
  | some nextSequence =>
    match pane with
    | .liveClaimed generation muxIncarnation _ pending =>
      .ok (expected, .liveClaimed generation muxIncarnation nextSequence pending)
    | _ => .error { error := .stateInvariantViolation "planned-exact-sequence-current-lease" }

/-- `plan_exact_sequence`. -/
def planExactSequence : Except Refused (Nat × GuardianPaneState) := do
  let expected ← state.requireCurrentLease paneId header
  let pane ← okOr state.panes[paneId]? { error := .paneNotFound paneId }
  refuseIf (pane.pendingInputEffect.isSome = true) { error := .inputDurabilityPending }
  refuseIf (state.indeterminateCheckpointsByPane.contains paneId = true)
    { error := .checkpointOutcomeIndeterminate }
  refuseIf (header.leaseSequence < expected)
    { error := .repeatedSequence expected header.leaseSequence }
  refuseIf (expected < header.leaseSequence) { error := .sequenceGap expected header.leaseSequence }
  advanceSequence expected header pane

/-- A spawn, in `plan_new_effect`. -/
def planSpawn : Except Refused (GuardianReply × GuardianPaneState) := do
  refuseIf (state.panes.contains paneId = true) { error := .paneAlreadyExists paneId }
  refuseIf (guardianMaxPanes < state.occupiedPaneSlots ∨
      (state.occupiedPaneSlots = guardianMaxPanes ∧ state.genesis.panes.contains paneId = false))
    { error := .capacityExhausted }
  return (.spawned paneId 0, .liveUnclaimed 0)

/-- The next generation of a claim, or the quarantine of a pane without one. -/
def advanceGeneration (current : Nat) : Except Refused (GuardianReply × GuardianPaneState) :=
  match checkedSucc current with
  | none => .error
      { error := .generationExhausted
        quarantine := some (.quarantined current .generationExhausted none) }
  | some generation =>
    .ok (.claimed paneId generation 1, .liveClaimed generation header.muxIncarnation 1 none)

/-- The pane has a process. -/
def isLive : GuardianPaneState → Bool
  | .liveUnclaimed _ => true
  | .liveClaimed _ _ _ _ => true
  | _ => false

/-- A claim, in `plan_new_effect`. -/
def planClaim : Except Refused (GuardianReply × GuardianPaneState) := do
  let pane ← okOr state.panes[paneId]? { error := .paneNotFound paneId }
  refuseIf (pane.generation ≠ header.leaseGeneration)
    { error := .claimGenerationMismatch header.leaseGeneration pane.generation }
  refuseIf (isLive pane = false) { error := .paneTerminal }
  refuseIf (pane.pendingInputEffect.isSome = true) { error := .inputDurabilityPending }
  refuseIf (state.indeterminateCheckpointsByPane.contains paneId = true)
    { error := .checkpointOutcomeIndeterminate }
  advanceGeneration paneId header pane.generation

/-- An input, in `plan_new_effect`, behind its sequence. -/
def awaitInput (effectId : Uuid) (header : GuardianRequestHeader)
    (planned : Nat × GuardianPaneState) : Except Refused (GuardianReply × GuardianPaneState) :=
  match planned.2 with
  | .liveClaimed generation muxIncarnation nextSequence _ =>
    .ok (.inputReceipt paneId header.leaseGeneration planned.1 effectId .acceptedNotDurable,
      .liveClaimed generation muxIncarnation nextSequence (some effectId))
  | _ => .error { error := .stateInvariantViolation "planned-input-claimed-pane" }

/-- The close of a pane whose process has exited, in `plan_new_effect`. -/
def planCloseExited (generation : Nat) (exitStatus : Int) (pending : Option Uuid) :
    Except Refused (GuardianReply × GuardianPaneState) := do
  refuseIf (pending.isSome = true) { error := .inputDurabilityPending }
  refuseIf (generation ≠ header.leaseGeneration ∨ header.leaseSequence ≠ 0)
    { error := .staleLease }
  return (.mutationApplied paneId generation 0, .closedTerminal generation (some exitStatus))

/-- The close of a live pane, in `plan_new_effect`. -/
def planCloseLive : Except Refused (GuardianReply × GuardianPaneState) := do
  let planned ← state.planExactSequence paneId header
  return (.mutationApplied paneId header.leaseGeneration planned.1,
    .closedTerminal header.leaseGeneration none)

/-- A close, in `plan_new_effect`. -/
def planClose : Except Refused (GuardianReply × GuardianPaneState) := do
  refuseIf (state.indeterminateCheckpointsByPane.contains paneId = true)
    { error := .checkpointOutcomeIndeterminate }
  match state.panes[paneId]? with
  | some (.exitedUnclaimed generation exitStatus pending) =>
    planCloseExited paneId header generation exitStatus pending
  | _ => state.planCloseLive paneId header

/-- `plan_new_effect`. -/
def planNewEffect (effectId : Uuid) (header : GuardianRequestHeader) :
    Except Refused (GuardianReply × GuardianPaneState) :=
  match header.operation with
  | .spawn => state.planSpawn paneId
  | .claim => state.planClaim paneId header
  | .retireLease => do
    let _ ← state.planExactSequence paneId header
    return (.leaseRetired paneId header.leaseGeneration, .liveUnclaimed header.leaseGeneration)
  | .input => do
    let planned ← state.planExactSequence paneId header
    awaitInput paneId effectId header planned
  | .resize | .signal => do
    let planned ← state.planExactSequence paneId header
    return (.mutationApplied paneId header.leaseGeneration planned.1, planned.2)
  | .close => state.planClose paneId header
  | _ => .error { error := .stateInvariantViolation "effect-operation-classification" }

/-- A refusal installs its quarantine. -/
def refuse (refused : Refused) : GuardianProtocolState :=
  match refused.quarantine with
  | none => state
  | some pane => { state with panes := state.panes.insert paneId pane }

/-! ## Transactions -/

/-- `plan_receipt_capacity`. -/
def planReceiptCapacity (newRequest newEffect : Bool) : Option (CapacityPlan Uuid) :=
  state.receipts.planCapacity newRequest newEffect

/-- `commit_receipt_capacity`. -/
def commitReceiptCapacity (plan : CapacityPlan Uuid) : Window Uuid StoredEffect StoredRequest :=
  state.receipts.commitCapacity receiptScheme plan

end

end GuardianProtocolState

/-- `GuardianEffectTransactionError`. -/
inductive TransactionError where
  | protocol (error : GuardianProtocolError)
  | effect
  | outcomeIndeterminate (reply : GuardianReply)
deriving DecidableEq, Repr

/-- One call of a callback: the effect for the first time, or the publication of an open checkpoint
once more.  The repeated publication settles the checkpoint when the guardian has recorded it. -/
structure Call where
  reconciles : Bool := false
  fingerprint : EffectFingerprint
  effectId : Uuid
  outcome : EffectOutcome
  settles : Bool := false
deriving DecidableEq, Repr

/-- What an operation leaves, answers and calls. -/
structure Result (α : Type) where
  state : GuardianProtocolState
  answer : Except TransactionError α
  call : Option Call := none

namespace GuardianProtocolState

section

variable (state : GuardianProtocolState) (memory : Bool)

/-- A refusal by the protocol. -/
def fail {α : Type} (state : GuardianProtocolState) (error : GuardianProtocolError) : Result α :=
  { state, answer := .error (.protocol error) }

/-- The answer to a request that is retained. -/
def replayRequest (stored : StoredRequest) (fingerprint : EffectFingerprint) (effectId : Uuid) :
    Except TransactionError GuardianReply :=
  if stored.fingerprint = fingerprint ∧ stored.effectId = effectId then
    match state.receipts.effects[effectId]? with
    | none => .error (.protocol (.stateInvariantViolation "effect-request-replay-reverse-index"))
    | some effect =>
      if effect.state = .outcomeIndeterminate then
        .error (.outcomeIndeterminate stored.reply)
      else .ok stored.reply
  else .error (.protocol .requestIdentityConflict)

/-- The number of requests of an effect. -/
def aliases (effectId : Uuid) : Nat :=
  (state.receipts.effectRequestIds[effectId]?).elim 0 TreeSet.size

/-- A further request for a retained effect gets the effect's receipt; `site` and `expected` are the
texts of the two checks of the reverse index. -/
def addAlias (site expected : String) (requestId effectId : Uuid) (stored : StoredEffect) :
    Except GuardianProtocolError GuardianProtocolState :=
  match state.planReceiptCapacity true false with
  | none => .error .capacityExhausted
  | some plan =>
    if memory = false then .error .capacityExhausted
    else if state.receipts.effectRequestIds.contains effectId = false then
      .error (.stateInvariantViolation site)
    else
      let receipts := state.commitReceiptCapacity plan
      if receipts.effectRequestIds.contains effectId = false then .error (.panicked expected)
      else .ok
        { state with
          receipts := receipts.ask effectId requestId
            ⟨stored.fingerprint, effectId, stored.reply⟩ (!stored.state.isPending) }

/-- A request that names a retained effect. -/
def aliasEffect (requestId : Uuid) (fingerprint : EffectFingerprint) (effectId : Uuid)
    (stored : StoredEffect) : Result GuardianReply :=
  if stored.fingerprint ≠ fingerprint then state.fail .effectIdentityConflict
  else if stored.state.isPending = true ∧
      guardianMaxRequestAliasesPerPendingEffect ≤ state.aliases effectId then
    state.fail (.requestAliasCapacityExhausted effectId guardianMaxRequestAliasesPerPendingEffect)
  else
    match state.addAlias memory "effect-request-alias-set"
        "effect alias set exists after capacity preflight" requestId effectId stored with
    | .error error => state.fail error
    | .ok after =>
      { state := after
        answer := if stored.state = .outcomeIndeterminate then
            .error (.outcomeIndeterminate stored.reply)
          else .ok stored.reply }

/-- The pane that the conservative quarantine goes on is as the plan found it. -/
def fenceSite (operation : GuardianOperation) (paneId : Uuid) : Option String :=
  if operation = .spawn then
    if state.panes.contains paneId then some "spawn-pane-appeared-after-preflight" else none
  else if state.panes.contains paneId then none
  else some "effect-pane-disappeared-after-preflight"

/-- The quarantine that stays when the outcome is open. -/
def quarantine (paneId : Uuid) (next : GuardianPaneState) : GuardianPaneState :=
  .quarantined next.generation .effectOutcomeIndeterminate
    (state.panes[paneId]?.bind GuardianPaneState.exitStatus)

/-- What is stored about a new effect. -/
def storedState (operation : GuardianOperation) (indeterminate : Bool) : StoredEffectState :=
  if indeterminate then .outcomeIndeterminate
  else if operation = .input then .input .acceptedNotDurable
  else .applied

/-- The planned receipt and pane state behind a callback that may have had an effect. -/
def installEffect (plan : CapacityPlan Uuid) (requestId : Uuid) (fingerprint : EffectFingerprint)
    (effectId : Uuid) (reply : GuardianReply) (next : GuardianPaneState) (indeterminate : Bool) :
    GuardianProtocolState :=
  let operation := fingerprint.operation
  let queued := operation != .spawn && !indeterminate && operation != .input
  { state with
    panes := state.panes.insert fingerprint.paneId
      (if indeterminate then state.quarantine fingerprint.paneId next else next)
    receipts := (state.commitReceiptCapacity plan).enter effectId
      ⟨fingerprint, reply, storedState operation indeterminate⟩ requestId
      ⟨fingerprint, effectId, reply⟩ queued queued
    protectedSpawnRequests := if operation = .spawn then
        state.protectedSpawnRequests.insert requestId
      else state.protectedSpawnRequests
    protectedSpawnEffects := if operation = .spawn then
        state.protectedSpawnEffects.insert effectId
      else state.protectedSpawnEffects }

/-- The callback of a planned effect. -/
def runEffect (plan : CapacityPlan Uuid) (requestId : Uuid) (fingerprint : EffectFingerprint)
    (effectId : Uuid) (reply : GuardianReply) (next : GuardianPaneState) (outcome : EffectOutcome) :
    Result GuardianReply :=
  let call : Call := { fingerprint, effectId, outcome }
  match outcome with
  | .definitelyNotApplied => { state, answer := .error .effect, call := some call }
  | .applied =>
    { state := state.installEffect plan requestId fingerprint effectId reply next false
      answer := .ok reply
      call := some call }
  | .outcomeIndeterminate =>
    { state := state.installEffect plan requestId fingerprint effectId reply next true
      answer := .error (.outcomeIndeterminate reply)
      call := some call }

/-- A new effect. -/
def newEffect (request : GuardianRequest) (paneId effectId : Uuid) (outcome : EffectOutcome) :
    Result GuardianReply :=
  match state.planNewEffect paneId effectId request.header with
  | .error refused => (state.refuse paneId refused).fail refused.error
  | .ok (reply, next) =>
    match state.planReceiptCapacity true true with
    | none => state.fail .capacityExhausted
    | some plan =>
      if memory = false then state.fail .capacityExhausted
      else
        match state.fenceSite request.header.operation paneId with
        | some site => state.fail (.stateInvariantViolation site)
        | none =>
          state.runEffect plan request.header.requestId
            (.fromAuthenticatedRequest paneId request) effectId reply next outcome

/-- `apply_effect_transaction_inner`. -/
def applyEffectTransactionInner (request : GuardianRequest) (outcome : EffectOutcome) :
    Result GuardianReply :=
  match request.header.paneId, request.header.effectId with
  | some paneId, some effectId =>
    let fingerprint := EffectFingerprint.fromAuthenticatedRequest paneId request
    match state.receipts.requests[request.header.requestId]? with
    | some stored => { state, answer := state.replayRequest stored fingerprint effectId }
    | none =>
      match state.receipts.effects[effectId]? with
      | some stored =>
        state.aliasEffect memory request.header.requestId fingerprint effectId stored
      | none => state.newEffect memory request paneId effectId outcome
  | _, _ => state.fail (.invalidOperationScope request.header.operation)

end

end GuardianProtocolState

/-! ## What a plan needs and does -/

section
variable {state : GuardianProtocolState} {paneId effectId : Uuid} {header : GuardianRequestHeader}

theorem checkedSucc_eq_some {n m : Nat} :
    checkedSucc n = some m ↔ n < RustText.u64Max ∧ m = n + 1 := by
  unfold checkedSucc
  split_ifs with h
  · simp only [Option.some.injEq, h, true_and, eq_comm]
  · simp [h]

/-- The pane takes its next mutation from the owner of the lease, and nothing is open. -/
structure GuardianProtocolState.NextMutation (state : GuardianProtocolState) (paneId : Uuid)
    (header : GuardianRequestHeader) : Prop where
  pane : state.panes[paneId]? = some
    (.liveClaimed header.leaseGeneration header.muxIncarnation header.leaseSequence none)
  barrier : state.indeterminateCheckpointsByPane[paneId]? = none

namespace GuardianProtocolState

theorem requireCurrentLease_eq_ok {expected : Nat} :
    state.requireCurrentLease paneId header = .ok expected ↔ ∃ pending, state.panes[paneId]? = some
        (.liveClaimed header.leaseGeneration header.muxIncarnation expected pending) := by
  unfold requireCurrentLease
  constructor
  · intro h
    split at h
    · next generation mux next pending hPane =>
        split_ifs at h with hLease
        obtain ⟨rfl, rfl⟩ := hLease
        cases h
        exact ⟨pending, hPane⟩
    · cases h
    · cases h
    · cases h
  · rintro ⟨pending, hPane⟩
    rw [hPane]
    exact if_pos ⟨rfl, rfl⟩

theorem contains_eq_false_iff {α : Type} {entries : TreeMap Uuid α} {id : Uuid} :
    ¬entries.contains id ↔ entries[id]? = none := by
  grind

theorem pending_isSome_eq_false {pending : Option Uuid} : ¬pending.isSome ↔ pending = none := by
  cases pending <;> simp

/-- The sequence check passes for the next mutation of the lease only. -/
theorem planExactSequence_eq_ok {planned : Nat × GuardianPaneState} :
    state.planExactSequence paneId header = .ok planned ↔
      state.NextMutation paneId header ∧ header.leaseSequence < RustText.u64Max ∧
        planned = (header.leaseSequence, .liveClaimed header.leaseGeneration header.muxIncarnation
          (header.leaseSequence + 1) none) := by
  unfold planExactSequence
  simp only [↓refuseIf_bind_eq_ok, bind_eq_ok, requireCurrentLease_eq_ok, okOr_eq_ok,
    contains_eq_false_iff, pending_isSome_eq_false]
  constructor
  · rintro ⟨expected, ⟨pending, hPane⟩, pane, hSame, hPending, hBarrier, _, _, hNext⟩
    rw [hPane, Option.some.injEq] at hSame
    subst hSame
    have hSeq : expected = header.leaseSequence := by omega
    subst hSeq
    subst hPending
    unfold advanceSequence at hNext
    split at hNext
    · cases hNext
    · next next hSucc =>
        obtain ⟨hLt, rfl⟩ := checkedSucc_eq_some.mp hSucc
        cases hNext
        exact ⟨⟨hPane, hBarrier⟩, hLt, rfl⟩
  · rintro ⟨⟨hPane, hBarrier⟩, hLt, rfl⟩
    refine ⟨header.leaseSequence, ⟨none, hPane⟩, _, hPane, rfl, hBarrier, lt_irrefl _, lt_irrefl _, ?_⟩
    rw [advanceSequence, checkedSucc_eq_some.mpr ⟨hLt, rfl⟩]

/-- A refusal says nothing about the bookkeeping, and puts at most a live pane with nothing open
into quarantine. -/
structure Harmless (state : GuardianProtocolState) (paneId : Uuid) (refused : Refused) : Prop where
  error : refused.error.isBroken = false
  quarantine : ∀ pane, refused.quarantine = some pane →
    ∃ old reason, state.panes[paneId]? = some old ∧ isLive old = true ∧
      old.pendingInputEffect = none ∧ state.indeterminateCheckpointsByPane[paneId]? = none ∧
      pane = .quarantined old.generation reason none

variable {reply : GuardianReply} {next : GuardianPaneState} {refused : Refused}

theorem harmless_of_none (hError : refused.error.isBroken = false)
    (hNone : refused.quarantine = none) : state.Harmless paneId refused :=
  ⟨hError, fun pane h => by rw [hNone] at h; cases h⟩

theorem planExactSequence_refused (h : state.planExactSequence paneId header = .error refused) :
    state.Harmless paneId refused := by
  unfold planExactSequence at h
  simp only [↓refuseIf_bind_eq_error, bind_eq_error, requireCurrentLease_eq_ok, okOr_eq_ok,
    okOr_eq_error, contains_eq_false_iff, pending_isSome_eq_false] at h
  rcases h with hLease | ⟨expected, ⟨pending, hPane⟩, ⟨_, rfl⟩ | ⟨pane, hSame, h⟩⟩
  · unfold requireCurrentLease at hLease
    split at hLease
    · split_ifs at hLease
      cases hLease
      exact harmless_of_none rfl rfl
    all_goals
      cases hLease
      exact harmless_of_none rfl rfl
  · exact harmless_of_none rfl rfl
  · rw [hPane, Option.some.injEq] at hSame
    subst hSame
    rcases h with ⟨_, rfl⟩ | ⟨hPending, ⟨_, rfl⟩ | ⟨hBarrier, ⟨_, rfl⟩ | ⟨_, ⟨_, rfl⟩ | ⟨_, h⟩⟩⟩⟩
    iterate 4 exact harmless_of_none rfl rfl
    unfold advanceSequence at h
    split at h
    · cases h
      refine ⟨rfl, fun pane hEq => ?_⟩
      cases hEq
      exact ⟨_, _, hPane, rfl, hPending, hBarrier, rfl⟩
    · cases h

/-- The reply and the next pane state of a mutation that is numbered. -/
def mutationPlan (paneId effectId : Uuid) (header : GuardianRequestHeader) :
    GuardianReply × GuardianPaneState :=
  let generation := header.leaseGeneration
  let sequence := header.leaseSequence
  match header.operation with
  | .retireLease => (.leaseRetired paneId generation, .liveUnclaimed generation)
  | .input =>
    (.inputReceipt paneId generation sequence effectId .acceptedNotDurable,
      .liveClaimed generation header.muxIncarnation (sequence + 1) (some effectId))
  | .close =>
    (.mutationApplied paneId generation sequence, .closedTerminal generation none)
  | _ =>
    (.mutationApplied paneId generation sequence,
      .liveClaimed generation header.muxIncarnation (sequence + 1) none)

/-- The operations that `plan_new_effect` numbers. -/
def isMutation (operation : GuardianOperation) : Bool :=
  [.retireLease, .input, .resize, .signal, .close].contains operation

/-- What a planned effect needs, what it answers and what becomes of the pane. -/
inductive Planned (state : GuardianProtocolState) (paneId effectId : Uuid)
    (header : GuardianRequestHeader) : GuardianReply → GuardianPaneState → Prop where
  | spawn (hOp : header.operation = .spawn) (hPane : state.panes[paneId]? = none)
      (hSlots : state.occupiedPaneSlots < guardianMaxPanes ∨
        state.occupiedPaneSlots ≤ guardianMaxPanes ∧ state.genesis.panes.contains paneId = true) :
      Planned state paneId effectId header (.spawned paneId 0) (.liveUnclaimed 0)
  | claim (hOp : header.operation = .claim) {pane : GuardianPaneState}
      (hPane : state.panes[paneId]? = some pane) (hLive : isLive pane = true)
      (hPending : pane.pendingInputEffect = none)
      (hBarrier : state.indeterminateCheckpointsByPane[paneId]? = none)
      (hGeneration : pane.generation = header.leaseGeneration)
      (hLt : header.leaseGeneration < RustText.u64Max) :
      Planned state paneId effectId header (.claimed paneId (header.leaseGeneration + 1) 1)
        (.liveClaimed (header.leaseGeneration + 1) header.muxIncarnation 1 none)
  | mutation (hOp : isMutation header.operation = true) (hNext : state.NextMutation paneId header)
      (hLt : header.leaseSequence < RustText.u64Max) :
      Planned state paneId effectId header (mutationPlan paneId effectId header).1
        (mutationPlan paneId effectId header).2
  | closeExited (hOp : header.operation = .close) {exitStatus : Int}
      (hPane : state.panes[paneId]? = some
        (.exitedUnclaimed header.leaseGeneration exitStatus none))
      (hBarrier : state.indeterminateCheckpointsByPane[paneId]? = none)
      (hSequence : header.leaseSequence = 0) :
      Planned state paneId effectId header (.mutationApplied paneId header.leaseGeneration 0)
        (.closedTerminal header.leaseGeneration (some exitStatus))

theorem planSpawn_cases (hOp : header.operation = .spawn)
    (h : state.planSpawn paneId = .ok (reply, next)) :
    state.Planned paneId effectId header reply next := by
  unfold planSpawn at h
  simp only [refuseIf_bind_eq_ok, contains_eq_false_iff, not_or, not_and, not_lt,
    Bool.not_eq_false] at h
  obtain ⟨hPane, ⟨hLe, hFull⟩, h⟩ := h
  cases h
  refine .spawn hOp hPane ?_
  rcases hLe.lt_or_eq with hLt | hEq
  · exact .inl hLt
  · exact .inr ⟨hLe, hFull hEq⟩

theorem planClaim_cases (hOp : header.operation = .claim)
    (h : state.planClaim paneId header = .ok (reply, next)) :
    state.Planned paneId effectId header reply next := by
  unfold planClaim at h
  simp only [↓refuseIf_bind_eq_ok, bind_eq_ok, okOr_eq_ok, contains_eq_false_iff,
    pending_isSome_eq_false, not_not, Bool.not_eq_false] at h
  obtain ⟨pane, hPane, hGeneration, hLive, hPending, hBarrier, h⟩ := h
  unfold advanceGeneration at h
  split at h
  · cases h
  · next generation hSucc =>
      obtain ⟨hLt, rfl⟩ := checkedSucc_eq_some.mp hSucc
      cases h
      rw [hGeneration] at hLt ⊢
      exact .claim hOp hPane hLive hPending hBarrier hGeneration hLt

theorem planClose_cases (hOp : header.operation = .close)
    (h : state.planClose paneId header = .ok (reply, next)) :
    state.Planned paneId effectId header reply next := by
  unfold planClose at h
  rw [refuseIf_bind_eq_ok, contains_eq_false_iff] at h
  obtain ⟨hBarrier, h⟩ := h
  split at h
  · next generation exitStatus pending hPane =>
      unfold planCloseExited at h
      simp only [refuseIf_bind_eq_ok, pending_isSome_eq_false, not_or, not_not] at h
      obtain ⟨rfl, ⟨rfl, hSequence⟩, h⟩ := h
      cases h
      exact .closeExited hOp hPane hBarrier hSequence
  · unfold planCloseLive at h
    simp only [bind_eq_ok, planExactSequence_eq_ok] at h
    obtain ⟨planned, ⟨hNext, hLt, rfl⟩, h⟩ := h
    cases h
    have hPlan := @Planned.mutation state paneId effectId header (by rw [hOp]; rfl) hNext hLt
    simpa only [mutationPlan, hOp] using hPlan

/-- **What a planned effect needs and does.** -/
theorem planNewEffect_cases (h : state.planNewEffect paneId effectId header = .ok (reply, next)) :
    state.Planned paneId effectId header reply next := by
  have hMutation : ∀ {planned : Nat × GuardianPaneState},
      state.planExactSequence paneId header = .ok planned → isMutation header.operation →
      planned = (header.leaseSequence, .liveClaimed header.leaseGeneration header.muxIncarnation
        (header.leaseSequence + 1) none) ∧
      state.Planned paneId effectId header (mutationPlan paneId effectId header).1
        (mutationPlan paneId effectId header).2 := by
    intro planned hPlanned hOp
    obtain ⟨hNext, hLt, hEq⟩ := planExactSequence_eq_ok.mp hPlanned
    exact ⟨hEq, .mutation hOp hNext hLt⟩
  unfold planNewEffect at h
  split at h
  case h_1 hOp => exact planSpawn_cases hOp h
  case h_2 hOp => exact planClaim_cases hOp h
  case h_7 hOp => exact planClose_cases hOp h
  case h_8 => cases h
  all_goals
    rename_i hOp
    obtain ⟨planned, hPlanned, h⟩ := bind_eq_ok.mp h
    obtain ⟨rfl, hPlan⟩ := hMutation hPlanned (by rw [hOp]; rfl)
    cases h
    simpa only [mutationPlan, hOp] using hPlan

/-- **A refusal touches at most a live pane.** -/
theorem planNewEffect_refused (hOp : header.operation.createsEffect)
    (hCheckpoint : header.operation ≠ .checkpoint) (hStop : header.operation ≠ .guardedStop)
    (h : state.planNewEffect paneId effectId header = .error refused) :
    state.Harmless paneId refused := by
  unfold planNewEffect at h
  split at h
  case h_1 =>
    unfold planSpawn at h
    simp only [refuseIf_bind_eq_error] at h
    rcases h with ⟨_, rfl⟩ | ⟨_, ⟨_, rfl⟩ | ⟨_, h⟩⟩
    iterate 2 exact harmless_of_none rfl rfl
    cases h
  case h_2 =>
    unfold planClaim at h
    simp only [↓refuseIf_bind_eq_error, bind_eq_error, okOr_eq_ok, okOr_eq_error,
      contains_eq_false_iff, pending_isSome_eq_false, Bool.not_eq_false] at h
    rcases h with ⟨_, rfl⟩ | ⟨pane, hPane, ⟨_, rfl⟩ | ⟨_, ⟨_, rfl⟩ | ⟨hLive, ⟨_, rfl⟩ |
      ⟨hPending, ⟨_, rfl⟩ | ⟨hBarrier, h⟩⟩⟩⟩⟩
    iterate 5 exact harmless_of_none rfl rfl
    unfold advanceGeneration at h
    split at h
    · cases h
      refine ⟨rfl, fun quarantined hEq => ?_⟩
      cases hEq
      exact ⟨pane, _, hPane, hLive, hPending, hBarrier, rfl⟩
    · cases h
  case h_7 =>
    unfold planClose at h
    rw [refuseIf_bind_eq_error] at h
    rcases h with ⟨_, rfl⟩ | ⟨_, h⟩
    · exact harmless_of_none rfl rfl
    · split at h
      · unfold planCloseExited at h
        simp only [refuseIf_bind_eq_error] at h
        rcases h with ⟨_, rfl⟩ | ⟨_, ⟨_, rfl⟩ | ⟨_, h⟩⟩
        iterate 2 exact harmless_of_none rfl rfl
        cases h
      · rcases bind_eq_error.mp h with h | ⟨_, _, h⟩
        · exact planExactSequence_refused h
        · cases h
  case h_8 hSpawn hClaim hRetire hInput hResize hSignal hClose =>
    revert hOp
    cases hKind : header.operation <;> simp_all [GuardianOperation.createsEffect]
  all_goals
    rcases bind_eq_error.mp h with h | ⟨planned, hPlanned, h⟩
    · exact planExactSequence_refused h
    · obtain ⟨_, _, rfl⟩ := planExactSequence_eq_ok.mp hPlanned
      cases h

end GuardianProtocolState

end

end FrankenTerm.Ports.Guardian
