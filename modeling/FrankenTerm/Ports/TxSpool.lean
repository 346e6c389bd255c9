import FrankenTerm.Verified.Check
import FrankenTerm.Ports.TxLedger

/-!
# The durable spool and its processes

Model of the durable half of `IdempotencyStore` in `tx_idempotency.rs`: one spool of
execution ledgers, shared by any number of processes that reserve an idempotency key,
record `Pending`, dispatch the external effect and complete the record, or link a
recovered outcome, or abort and archive the ledgers of a plan.

* A process is a `Flow`: it owns at most one token (a key lease, a reservation, or the
  execution locks of a retirement), and a crash, an error return or a drop takes it back
  to `idle`, which releases its locks.
* Every ledger file is replaced atomically, under its execution lock.  The scan of the
  spool that a lease acquisition makes is *not* atomic: it reads one file per step and
  other processes write in between.
* A call may also fail for reasons that are not modelled: I/O, the size limits of the
  spool, the monotonic clock of the local cache.  Such a call writes nothing, so it is
  the event that does not happen, or a crash.

## Main definitions

* `selectAuthoritativeDurableOutcome`, `refreshOutcome` — what a scan concludes.
* `recordExecutionReserved`, `recordRecoveredExecutionReserved`,
  `completeExecutionReserved` — the guarded ledger mutations.
* `step`, `run` — one event of the shared system, and a sequence of them.
-/

namespace FrankenTerm.Ports.TxSpool

open Verified.Serde Verified.Check TxRecord TxLedger

variable {P : Platform}

/-! ## Durable outcomes -/

/-- The outcome as `{:?}` prints it. -/
def debugOutcome (P : Platform) : StepOutcome → String
  | .success none => "Success \x7b result: None \x7d"
  | .success (some result) => "Success \x7b result: Some(" ++ P.debug result ++ ") \x7d"
  | .failed errorCode errorMessage compensated =>
    "Failed \x7b error_code: " ++ P.debug errorCode ++ ", error_message: " ++
      P.debug errorMessage ++ ", compensated: " ++ toString compensated ++ " \x7d"
  | .skipped reason => "Skipped \x7b reason: " ++ P.debug reason ++ " \x7d"
  | .compensated originalOutcome compensationResult =>
    "Compensated \x7b original_outcome: " ++ debugOutcome P originalOutcome ++
      ", compensation_result: " ++ P.debug compensationResult ++ " \x7d"
  | .pending => "Pending"

/-- The optional outcome as `{:?}` prints it. -/
def debugObserved (P : Platform) : Option StepOutcome → String
  | none => "None"
  | some outcome => "Some(" ++ debugOutcome P outcome ++ ")"

/-- One record of a key, as a scan of the spool sees it. -/
structure DurableOutcomeObservation where
  timestampMs : Nat
  executionId : String
  ordinal : Nat
  outcome : StepOutcome
  deriving DecidableEq, Repr

/-- Order by timestamp, then execution, then ordinal. -/
def DurableOutcomeObservation.Before (left right : DurableOutcomeObservation) : Prop :=
  left.timestampMs < right.timestampMs ∨ left.timestampMs = right.timestampMs ∧
      (left.executionId < right.executionId ∨
        left.executionId = right.executionId ∧ left.ordinal ≤ right.ordinal)

instance : DecidableRel DurableOutcomeObservation.Before := fun left right => by
  unfold DurableOutcomeObservation.Before
  infer_instance

/-- One step of the loop over the sticky observations. -/
def stickyStep (idemKey : IdempotencyKey P) (sticky : Option DurableOutcomeObservation)
    (observation : DurableOutcomeObservation) :
    Except IdempotencyError (Option DurableOutcomeObservation) :=
  match sticky with
  | none => .ok (some observation)
  | some existing =>
    if existing.outcome ≠ observation.outcome then
      .error (.ledgerIndexCorrupt ("conflicting sticky durable outcomes for key " ++
        idemKey.key ++ ": " ++ debugOutcome P existing.outcome ++ " in execution " ++
        existing.executionId ++ " and " ++ debugOutcome P observation.outcome ++
        " in execution " ++ observation.executionId))
    else .ok (some observation)

/-- The sticky fact about a key if there is one, and the newest observation otherwise. -/
def selectAuthoritativeDurableOutcome (idemKey : IdempotencyKey P)
    (observations : List DurableOutcomeObservation) :
    Except IdempotencyError (Option DurableOutcomeObservation) := do
  let sorted := observations.insertionSort DurableOutcomeObservation.Before
  let sticky ← (sorted.filter fun observation =>
    observation.outcome.isStickyReplayProof).foldlM (stickyStep idemKey) none
  return sticky.or sorted.getLast?

def u64Max : Nat := 2 ^ 64 - 1

/-- A sticky outcome never ages out; any other one after the time to live. -/
def isFreshForDedup (dedupTtlMs : Nat) (outcome : StepOutcome) (timestampMs nowMs : Nat) : Bool :=
  outcome.isStickyReplayProof || decide (nowMs ≤ min (timestampMs + dedupTtlMs) u64Max)

/-- The end of `refresh_durable_outcomes_for_keys` for one key: what the lease holder is
told about it. -/
def refreshOutcome (dedupTtlMs : Nat) (idemKey : IdempotencyKey P)
    (observations : List DurableOutcomeObservation) (durableHighWaterMs nowMs : Nat) :
    Except IdempotencyError (Option StepOutcome) :=
  if nowMs < durableHighWaterMs then
    .error (.retrogradeTimestamp nowMs durableHighWaterMs)
  else
    match selectAuthoritativeDurableOutcome idemKey observations with
    | .error err => .error err
    | .ok none => .ok none
    | .ok (some authoritative) =>
      if isFreshForDedup dedupTtlMs authoritative.outcome authoritative.timestampMs nowMs then
        .ok (some authoritative.outcome)
      else .ok none

/-! ## The spool -/

/-- One ledger file for each execution. -/
abbrev Spool (P : Platform) := List (TxExecutionLedger P)

section

variable (spool : Spool P) (reservation : IdempotencyReservation) (executionId : String)
  (idemKey : IdempotencyKey P)

/-- Read, deserialise and verify the file of an execution.  The paths that the error
texts of the source show are left out. -/
def Spool.readLedger : Except IdempotencyError (TxExecutionLedger P) :=
  match spool.find? (fun ledger => ledger.executionId = executionId) with
  | none => .error (.ledgerNotFound executionId)
  | some stored =>
    match P.text.reload stored with
    | .error reason => .error (.ledgerPersist ("deserialize ledger: " ++ reason))
    | .ok ledger =>
      if ledger.executionId ≠ executionId then
        .error (.ledgerPersist "ledger identity mismatch")
      else if ledger.verifyChain.chainIntact = false then
        .error (.ledgerPersist "verify ledger hash chain")
      else .ok ledger

/-- Atomic replacement of the file of the ledger's execution. -/
def Spool.replace (ledger : TxExecutionLedger P) : Spool P :=
  spool.map fun stored => if stored.executionId = ledger.executionId then ledger else stored

/-- The records of a key in one ledger, as observations. -/
def observationsIn (ledger : TxExecutionLedger P) : List DurableOutcomeObservation :=
  (ledger.records.filter fun record => record.idemKey = idemKey).map fun record =>
    { timestampMs := record.timestampMs
      executionId := ledger.executionId
      ordinal := record.ordinal
      outcome := record.outcome }

/-- The latest timestamp of a ledger. -/
def ledgerHighWater (ledger : TxExecutionLedger P) : Nat :=
  ledger.records.foldl (fun highWater record => max highWater record.timestampMs) 0

/-! ## Reservations -/

/-- Mutation lease for one key in one execution. -/
structure IdempotencyReservation where
  idemKey : String
  executionId : String
  observedOutcome : Option StepOutcome
  pendingRecorded : Bool
  deriving DecidableEq, Repr

/-- The checks that every reserved mutation makes first. -/
def IdempotencyReservation.validateBinding : Except IdempotencyError Unit := do
  refuseIf (reservation.idemKey ≠ idemKey.key)
    (.reservationKeyMismatch reservation.idemKey idemKey.key)
  refuseIf (reservation.executionId ≠ executionId)
    (.reservationExecutionMismatch reservation.executionId executionId)

/-- A failed or skipped compensation may be retried under its own key. -/
def retriesFailedCompensation (observed : Option StepOutcome) : Bool :=
  idemKey.isCompensation &&
    match observed with
    | some (.failed _ _ false) | some (.skipped _) => true
    | _ => false

/-- Reserve a key durably: append its `Pending` record. -/
def recordExecutionReserved (outcome : StepOutcome) (risk : StepRisk) (agentId : String)
    (timestampMs : Nat) :
    Except IdempotencyError (TxExecutionLedger P × IdempotencyReservation) := do
  reservation.validateBinding executionId idemKey
  refuseIf (reservation.pendingRecorded = true)
    (.reservationAlreadyUsed reservation.idemKey reservation.executionId)
  refuseIf (reservation.observedOutcome ≠ none ∧
      retriesFailedCompensation idemKey reservation.observedOutcome = false)
    (.duplicateExecution idemKey.key)
  refuseIf (outcome.isPending = false)
    (.ledgerRecordInvariant "a new durable reservation must begin with Pending before dispatch")
  let ledger ← spool.readLedger reservation.executionId
  match ledger.append idemKey outcome risk agentId timestampMs with
  | (.error err, _) => .error err
  | (.ok _, candidate) => .ok (candidate, { reservation with pendingRecorded := true })

/-- Only a success or a compensation certifies that a prior effect completed. -/
def isRecoverable : StepOutcome → Bool
  | .success _ | .compensated _ _ => true
  | _ => false

/-- Link an already proven outcome into the ledger of the reservation. -/
def recordRecoveredExecutionReserved (outcome : StepOutcome) (risk : StepRisk) (agentId : String)
    (timestampMs : Nat) :
    Except IdempotencyError (TxExecutionLedger P) := do
  refuseIf (isRecoverable outcome = false)
    (.ledgerRecordInvariant ("recovered proof link for key " ++ idemKey.key ++
      " requires Success or Compensated, got " ++ debugOutcome P outcome))
  reservation.validateBinding executionId idemKey
  refuseIf (reservation.pendingRecorded = true)
    (.reservationAlreadyUsed reservation.idemKey reservation.executionId)
  refuseIf (reservation.observedOutcome ≠ some outcome)
    (.recoveredProofMismatch idemKey.key (debugOutcome P outcome)
      (debugObserved P reservation.observedOutcome))
  let ledger ← spool.readLedger reservation.executionId
  match ledger.append idemKey outcome risk agentId timestampMs with
  | (.error err, _) => .error err
  | (.ok _, candidate) => .ok candidate

/-- Complete the pending record of the reservation. -/
def completeExecutionReserved (outcome : StepOutcome) (timestampMs : Nat) :
    Except IdempotencyError (TxExecutionLedger P) := do
  reservation.validateBinding executionId idemKey
  refuseIf (reservation.pendingRecorded = false)
    (.reservationNotPending reservation.idemKey executionId)
  let ledger ← spool.readLedger reservation.executionId
  match ledger.completePending idemKey outcome timestampMs with
  | (.error err, _) => .error err
  | (.ok _, candidate) => .ok candidate

end

/-! ## The shared system -/

/-- One flow of control of some process, with the token it owns. -/
inductive Flow (P : Platform) where
  | idle
  /-- The key lock is held and the files `unread` are still to be scanned. -/
  | scanning (idemKey : IdempotencyKey P) (nowMs : Nat) (unread : List String)
      (seen : List DurableOutcomeObservation) (highWaterMs : Nat)
  /-- A key lease with the outcome observed under it. -/
  | leased (idemKey : IdempotencyKey P) (observedOutcome : Option StepOutcome)
  /-- A reservation; `dispatched` says whether its external effect was sent. -/
  | reserved (idemKey : IdempotencyKey P) (reservation : IdempotencyReservation)
      (dispatched : Bool)
  /-- The execution locks of a retirement and the snapshots still to be published. -/
  | retiring (planId : String) (planHash : Nat) (locks : List String)
      (snapshots : List (TxExecutionLedger P))

namespace Flow

/-- The raw key of the key lock that the flow holds. -/
def keyLock : Flow P → Option String
  | scanning idemKey .. | leased idemKey _ | reserved idemKey _ _ => some idemKey.key
  | _ => none

/-- The executions whose ledger lock the flow holds. -/
def executionLocks : Flow P → List String
  | reserved _ reservation _ => [reservation.executionId]
  | retiring _ _ locks _ => locks
  | _ => []

end Flow

/-- The spool, the flows, and two logs of what happened outside of it: the external
effects that were dispatched and the keys whose record was completed as failed. -/
structure System (P : Platform) where
  spool : Spool P
  flows : List (Flow P)
  effects : List (IdempotencyKey P)
  failures : List (IdempotencyKey P)

namespace System

variable (P) in
/-- An empty spool without processes. -/
def init : System P := ⟨[], [], [], []⟩

def setFlow (sys : System P) (p : Nat) (flow : Flow P) : System P :=
  { sys with flows := sys.flows.set p flow }

/-- No flow holds the key lock. -/
def keyFree (sys : System P) (key : String) : Bool :=
  sys.flows.all fun flow => flow.keyLock ≠ some key

/-- No flow holds the lock of the execution ledger. -/
def executionFree (sys : System P) (executionId : String) : Bool :=
  sys.flows.all fun flow => executionId ∉ flow.executionLocks

end System

/-- What a process, or the scheduler, may do next. -/
inductive Event (P : Platform) where
  /-- A further flow of control starts. -/
  | spawn
  /-- The flow crashes, returns an error or drops its token. -/
  | crash (p : Nat)
  | createLedger (executionId planId : String) (planHash : Nat)
  | transitionPhase (executionId : String) (next : TxPhase)
  /-- Take the key lock and list the spool directory. -/
  | acquireKeyLease (p : Nat) (idemKey : IdempotencyKey P) (nowMs : Nat)
  /-- Read the next file of the scan. -/
  | scanNext (p : Nat)
  /-- Conclude the scan under a policy's time to live. -/
  | refresh (p : Nat) (dedupTtlMs : Nat)
  | bindKeyLease (p : Nat) (executionId : String)
  | recordReserved (p : Nat) (outcome : StepOutcome) (risk : StepRisk) (agentId : String)
      (timestampMs : Nat)
  /-- Send the external effect of the reserved step. -/
  | dispatch (p : Nat)
  | completeReserved (p : Nat) (outcome : StepOutcome) (timestampMs : Nat)
  | recordRecovered (p : Nat) (outcome : StepOutcome) (risk : StepRisk) (agentId : String)
      (timestampMs : Nat)
  /-- Start to abort and archive the ledgers of a plan. -/
  | retirePlan (p : Nat) (planId : String) (planHash : Nat)
  | lockForRetirement (p : Nat) (executionId : String)
  /-- Read every locked ledger and move it to `Aborted`. -/
  | prepareRetirement (p : Nat)
  /-- Publish one of the prepared snapshots. -/
  | publishRetirement (p : Nat)

/-- The snapshot of a ledger to be retired: a terminal ledger stays as it is. -/
def retiredSnapshot (ledger : TxExecutionLedger P) : Option (TxExecutionLedger P) :=
  if ledger.phase.isTerminal then some ledger
  else
    match ledger.transitionPhase .aborted with
    | (.ok _, candidate) => some candidate
    | (.error _, _) => none

/-- The file names of a directory listing, in scan order. -/
def Spool.candidates (spool : Spool P) : List String :=
  ((spool.map (·.executionId)).filter isValidExecutionId).insertionSort (· ≤ ·)

section

variable (sys : System P) (p : Nat)

/-- The steps of a flow that holds a key lock. -/
def leaseStep (flow : Flow P) : Event P → Option (System P)
  | .acquireKeyLease _ idemKey nowMs =>
    match flow with
    | .idle =>
      if sys.keyFree idemKey.key then
        some (sys.setFlow p (.scanning idemKey nowMs sys.spool.candidates [] 0))
      else none
    | _ => none
  | .scanNext _ =>
    match flow with
    | .scanning idemKey nowMs (stem :: unread) seen highWaterMs => do
      let ledger ← (sys.spool.readLedger stem).toOption
      some (sys.setFlow p (.scanning idemKey nowMs unread
        (seen ++ observationsIn idemKey ledger) (max highWaterMs (ledgerHighWater ledger))))
    | _ => none
  | .refresh _ dedupTtlMs =>
    match flow with
    | .scanning idemKey nowMs [] seen highWaterMs => do
      let observed ← (refreshOutcome dedupTtlMs idemKey seen highWaterMs nowMs).toOption
      some (sys.setFlow p (.leased idemKey observed))
    | _ => none
  | .bindKeyLease _ executionId =>
    match flow with
    | .leased idemKey observed => do
      let ledger ← (sys.spool.readLedger executionId).toOption
      if sys.executionFree executionId && !ledger.phase.isTerminal then
        some (sys.setFlow p (.reserved idemKey
          ⟨idemKey.key, executionId, observed, false⟩ false))
      else none
    | _ => none
  | _ => none

/-- The steps of a flow that holds a reservation. -/
def reservedStep (idemKey : IdempotencyKey P) (reservation : IdempotencyReservation)
    (dispatched : Bool) :
    Event P → Option (System P)
  | .recordReserved _ outcome risk agentId timestampMs => do
    let (ledger, reservation) ← (recordExecutionReserved sys.spool reservation
      reservation.executionId idemKey outcome risk agentId timestampMs).toOption
    some { sys.setFlow p (.reserved idemKey reservation dispatched) with
           spool := sys.spool.replace ledger }
  | .dispatch _ =>
    if reservation.pendingRecorded && !dispatched then
      some { sys.setFlow p (.reserved idemKey reservation true) with
             effects := idemKey :: sys.effects }
    else none
  | .completeReserved _ outcome timestampMs => do
    let ledger ← (completeExecutionReserved sys.spool reservation reservation.executionId
      idemKey outcome timestampMs).toOption
    some { sys.setFlow p .idle with
           spool := sys.spool.replace ledger
           failures := if outcome.isStickyReplayProof then sys.failures
             else idemKey :: sys.failures }
  | .recordRecovered _ outcome risk agentId timestampMs => do
    let ledger ← (recordRecoveredExecutionReserved sys.spool reservation
      reservation.executionId idemKey outcome risk agentId timestampMs).toOption
    some { sys.setFlow p .idle with spool := sys.spool.replace ledger }
  | _ => none

/-- The steps of a flow that aborts and archives the ledgers of a plan. -/
def retireStep (flow : Flow P) : Event P → Option (System P)
  | .retirePlan _ planId planHash =>
    match flow with
    | .idle => some (sys.setFlow p (.retiring planId planHash [] []))
    | _ => none
  | .lockForRetirement _ executionId =>
    match flow with
    | .retiring planId planHash locks [] => do
      let ledger ← (sys.spool.readLedger executionId).toOption
      if sys.executionFree executionId && ledger.planId = planId && ledger.planHash = planHash then
        some (sys.setFlow p (.retiring planId planHash (locks ++ [executionId]) []))
      else none
    | _ => none
  | .prepareRetirement _ =>
    match flow with
    | .retiring planId planHash locks [] => do
      let ledgers ← locks.mapM fun executionId =>
        (sys.spool.readLedger executionId).toOption
      let snapshots ← ledgers.mapM retiredSnapshot
      some (sys.setFlow p (.retiring planId planHash locks snapshots))
    | _ => none
  | .publishRetirement _ =>
    match flow with
    | .retiring planId planHash locks (snapshot :: snapshots) =>
      some { sys.setFlow p (.retiring planId planHash locks snapshots) with
             spool := sys.spool.replace snapshot }
    | _ => none
  | _ => none

/-- The flow that an event belongs to. -/
def Event.process? : Event P → Option Nat
  | .spawn | .createLedger .. | .transitionPhase .. => none
  | .crash p | .acquireKeyLease p _ _ | .scanNext p | .refresh p _ | .bindKeyLease p _
  | .recordReserved p .. | .dispatch p | .completeReserved p _ _ | .recordRecovered p ..
  | .retirePlan p _ _ | .lockForRetirement p _ | .prepareRetirement p | .publishRetirement p =>
    some p

/-- The step of the flow `p`. -/
def flowStep (event : Event P) : Option (System P) := do
  let flow ← sys.flows[p]?
  match event, flow with
  | .crash _, _ => some (sys.setFlow p .idle)
  | event, .reserved idemKey reservation dispatched =>
    reservedStep sys p idemKey reservation dispatched event
  | event, flow => (leaseStep sys p flow event).or (retireStep sys p flow event)

/-- One event of the shared system; `none` if it cannot happen. -/
def step (event : Event P) : Option (System P) :=
  match event with
  | .spawn => some { sys with flows := sys.flows ++ [.idle] }
  | .createLedger executionId planId planHash =>
    if isValidExecutionId executionId && sys.executionFree executionId &&
        (sys.spool.find? fun ledger => ledger.executionId = executionId).isNone then
      some { sys with
        spool := sys.spool ++ [TxExecutionLedger.new P executionId planId planHash] }
    else none
  | .transitionPhase executionId next => do
    let ledger ← (sys.spool.readLedger executionId).toOption
    if sys.executionFree executionId then
      match ledger.transitionPhase next with
      | (.ok _, candidate) => some { sys with spool := sys.spool.replace candidate }
      | (.error _, _) => none
    else none
  | event => event.process?.bind fun p => flowStep sys p event

/-- A sequence of events. -/
def run (events : List (Event P)) : Option (System P) :=
  events.foldlM step sys

end

/-- Every state that the processes can reach, in any interleaving. -/
inductive Reach : System P → Prop where
  | init : Reach (System.init P)
  | step {sys sys' : System P} (event : Event P) (h : Reach sys)
      (hStep : step sys event = some sys') : Reach sys'

end FrankenTerm.Ports.TxSpool
