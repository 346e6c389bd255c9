import FrankenTerm.Verified.HashChain
import FrankenTerm.Ports.TxRecord

/-!
# The transaction execution ledger

Model of `TxExecutionLedger` in `tx_idempotency.rs`: the hash-chained list of
execution records of one transaction run, with its phase machine, its terminal
certificate, its in-memory key index and its checked deserialiser.

A call takes the ledger and returns its result together with the ledger it leaves
behind, on the error paths as well, so "a failed call changes nothing" is a theorem
and not a convention.  The key index is an association list in insertion order.

## Main definitions

* `TxExecutionLedger.append`, `completePending`, `transitionPhase` — the operations.
* `TxExecutionLedger.verifyChain` — the walk over links and ordinals.
* `TxExecutionLedger.toJson`, `ofJson` — what is stored and how it is checked on reload.

The invariant of these operations is the subject of `TxLedgerInvariant`.
-/

namespace FrankenTerm.Ports.TxLedger

open Verified.Serde Verified.HashChain TxRecord

variable {P : Platform}

/-! ## Phases -/

/-- Phase of a transaction execution. -/
inductive TxPhase where
  | planned
  | preparing
  | committing
  | compensating
  | completed
  | aborted
  deriving DecidableEq, Repr

namespace TxPhase

def isTerminal : TxPhase → Bool
  | completed | aborted => true
  | _ => false

def validTransitions : TxPhase → List TxPhase
  | planned => [preparing, aborted]
  | preparing => [committing, aborted]
  | committing => [compensating, completed, aborted]
  | compensating => [completed, aborted]
  | completed | aborted => []

def canTransitionTo (phase next : TxPhase) : Bool :=
  phase.validTransitions.contains next

def tag : TxPhase → String
  | planned => "planned"
  | preparing => "preparing"
  | committing => "committing"
  | compensating => "compensating"
  | completed => "completed"
  | aborted => "aborted"

/-- The phase as `{:?}` prints it. -/
def debug : TxPhase → String
  | planned => "Planned"
  | preparing => "Preparing"
  | committing => "Committing"
  | compensating => "Compensating"
  | completed => "Completed"
  | aborted => "Aborted"

instance : Codec TxPhase where
  serialize phase := .str phase.tag
  deserialize := tagged [planned, preparing, committing, compensating, completed, aborted] tag

theorem roundTrips (phase : TxPhase) : RoundTrips phase := by
  cases phase <;> rfl

end TxPhase

/-! ## Errors -/

/-- Errors of the idempotency operations. -/
inductive IdempotencyError where
  | duplicateExecution (key : String)
  | invalidPhaseTransition (source target : TxPhase)
  | ledgerSealed (phase : TxPhase)
  | ledgerNotFound (executionId : String)
  | ambiguousTerminalTransition (executionId : String) (ambiguousOrdinals : List Nat)
  | invalidTerminalCertificate (reason : String)
  | ledgerIndexCorrupt (reason : String)
  | ledgerRecordInvariant (reason : String)
  | reservationKeyMismatch (reserved attempted : String)
  | reservationExecutionMismatch (reserved attempted : String)
  | reservationAlreadyUsed (key executionId : String)
  | reservationNotPending (key executionId : String)
  | recoveredProofMismatch (key expected observed : String)
  | retrogradeTimestamp (observedMs highWaterMs : Nat)
  | ledgerPersist (reason : String)
  deriving DecidableEq, Repr

/-- A list as `{:?}` prints it, given how its elements are printed. -/
def debugList (items : List String) : String :=
  "[" ++ ", ".intercalate items ++ "]"

variable (P) in
def debugStrings (items : List String) : String :=
  debugList (items.map P.debug)

/-- File name guard of the durable spool. -/
def isValidExecutionId (executionId : String) : Bool :=
  executionId != "" && decide (executionId.utf8ByteSize ≤ 128) && executionId != "." &&
    executionId != ".." &&
    executionId.toList.all (fun c => c.isAlphanum || c = '-' || c = '_' || c = '.') &&
    !executionId.toList.tails.any (fun rest => "..".toList.isPrefixOf rest)

/-! ## Terminal certificates -/

/-- Kind of terminal disposition. -/
inductive TerminalDispositionKind where
  | committed
  | rolledBack
  | aborted
  deriving DecidableEq, Repr

namespace TerminalDispositionKind

def tag : TerminalDispositionKind → String
  | committed => "committed"
  | rolledBack => "rolled_back"
  | aborted => "aborted"

instance : Codec TerminalDispositionKind where
  serialize kind := .str kind.tag
  deserialize := tagged [committed, rolledBack, aborted] tag

theorem roundTrips (kind : TerminalDispositionKind) : RoundTrips kind := by
  cases kind <;> rfl

end TerminalDispositionKind

/-- Certificate of the terminal disposition of a transaction. -/
structure TerminalDispositionCertificate where
  disposition : TerminalDispositionKind
  executionId : String
  planId : String
  planHash : Nat
  completedStepIds : List String
  failedStepIds : List String
  compensatedStepIds : List String
  certifiedAtMs : Nat
  deriving DecidableEq, Repr

namespace TerminalDispositionCertificate

def toJson (cert : TerminalDispositionCertificate) : Json :=
  .obj [("disposition", serialize cert.disposition),
    ("execution_id", serialize cert.executionId), ("plan_id", serialize cert.planId),
    ("plan_hash", serialize cert.planHash),
    ("completed_step_ids", serialize cert.completedStepIds),
    ("failed_step_ids", serialize cert.failedStepIds),
    ("compensated_step_ids", serialize cert.compensatedStepIds),
    ("certified_at_ms", serialize cert.certifiedAtMs)]

def ofJson (j : Json) : Except String TerminalDispositionCertificate := do
  let disposition ← field "disposition" j
  let executionId ← field "execution_id" j
  let planId ← field "plan_id" j
  let planHash ← field "plan_hash" j
  let completedStepIds ← field "completed_step_ids" j
  let failedStepIds ← field "failed_step_ids" j
  let compensatedStepIds ← field "compensated_step_ids" j
  let certifiedAtMs ← field "certified_at_ms" j
  return { disposition, executionId, planId, planHash, completedStepIds, failedStepIds,
           compensatedStepIds, certifiedAtMs }

instance : Codec TerminalDispositionCertificate := ⟨toJson, ofJson⟩

theorem integral_toJson (cert : TerminalDispositionCertificate) : cert.toJson.integral := by
  simp [toJson, serialize, Json.integral, Json.integralMembers, Json.integralItems_eq_all]

theorem roundTrips (cert : TerminalDispositionCertificate) : RoundTrips cert := by
  show ofJson cert.toJson = .ok cert
  unfold ofJson
  rw [field_eq_ok rfl (TerminalDispositionKind.roundTrips cert.disposition),
    field_eq_ok rfl (roundTrips_string cert.executionId),
    field_eq_ok rfl (roundTrips_string cert.planId),
    field_eq_ok rfl (roundTrips_nat cert.planHash),
    field_eq_ok rfl (roundTrips_strings cert.completedStepIds),
    field_eq_ok rfl (roundTrips_strings cert.failedStepIds),
    field_eq_ok rfl (roundTrips_strings cert.compensatedStepIds),
    field_eq_ok rfl (roundTrips_nat cert.certifiedAtMs)]
  rfl

end TerminalDispositionCertificate

/-! ## The ledger -/

/-- In-memory index from a key to the ordinal of its record. -/
abbrev KeyIndex (P : Platform) := List (IdempotencyKey P × Nat)

/-- `HashMap::insert`: an entry of the same key is replaced. -/
def KeyIndex.insert (index : KeyIndex P) (key : IdempotencyKey P) (ordinal : Nat) : KeyIndex P :=
  index.filter (fun entry => entry.1 ≠ key) ++ [(key, ordinal)]

variable (P) in
/-- Ledger of the execution records of a single transaction run. -/
structure TxExecutionLedger where
  executionId : String
  planId : String
  planHash : Nat
  phase : TxPhase
  records : List (StepExecutionRecord P)
  lastHash : String
  nextOrdinal : Nat
  keyIndex : KeyIndex P
  terminalCertificate : Option TerminalDispositionCertificate
  deriving DecidableEq

/-- One step of the loop of `build_ledger_key_index`. -/
def indexRecord (index : KeyIndex P) (record : StepExecutionRecord P) :
    Except String (KeyIndex P) :=
  match index.lookup record.idemKey with
  | none => .ok (index.insert record.idemKey record.ordinal)
  | some ordinal =>
    .error ("duplicate idempotency key in tx ledger: " ++ record.idemKey.key ++
      " at ordinals " ++ toString ordinal ++ " and " ++ toString record.ordinal)

def buildLedgerKeyIndex (records : List (StepExecutionRecord P)) :
    Except String (KeyIndex P) :=
  records.foldlM indexRecord []

/-- The ordinals of the records that leave open whether the effect happened. -/
def ambiguousOrdinals (records : List (StepExecutionRecord P)) : List Nat :=
  (records.filter fun record => record.outcome.isAmbiguousReplayOutcome).map (·.ordinal)

/-- The hash of the last record, empty for no record. -/
def lastRecordHash (records : List (StepExecutionRecord P)) : String :=
  (records.getLast?.map StepExecutionRecord.hash).getD ""

/-- The step ids a certificate speaks about. -/
structure StepSets where
  completed : List String
  failed : List String
  compensated : List String

/-- `if !steps.contains(&step_id) { steps.push(step_id) }` -/
def pushNew (steps : List String) (stepId : String) : List String :=
  if steps.contains stepId then steps else steps ++ [stepId]

/-- One step of the loop that collects the step ids.  A compensation receipt is
itself proof that the original step completed. -/
def StepSets.add (sets : StepSets) (record : StepExecutionRecord P) : StepSets :=
  match record.outcome with
  | .success _ => { sets with completed := pushNew sets.completed record.idemKey.stepId }
  | .failed .. => { sets with failed := pushNew sets.failed record.idemKey.stepId }
  | .compensated .. =>
    { sets with
      completed := pushNew sets.completed record.idemKey.stepId
      compensated := pushNew sets.compensated record.idemKey.stepId }
  | _ => sets

/-- The sorted step ids of the records, by outcome. -/
def actualSteps (records : List (StepExecutionRecord P)) : StepSets :=
  let sets := records.foldl StepSets.add ⟨[], [], []⟩
  ⟨sets.completed.insertionSort (· ≤ ·), sets.failed.insertionSort (· ≤ ·),
    sets.compensated.insertionSort (· ≤ ·)⟩

/-- The check of `validate_certificate_against_ledger` on the disposition alone. -/
def TerminalDispositionCertificate.checkDisposition (P : Platform)
    (cert : TerminalDispositionCertificate) (targetPhase : TxPhase) : Except String Unit :=
  match cert.disposition with
  | .committed =>
    if targetPhase ≠ .completed then
      .error ("Committed disposition requires Completed phase; target phase is " ++
        targetPhase.debug)
    else if cert.failedStepIds ≠ [] then
      .error ("Committed disposition cannot have failed steps: " ++
        debugStrings P cert.failedStepIds)
    else if cert.compensatedStepIds ≠ [] then
      .error ("Committed disposition cannot have compensated steps: " ++
        debugStrings P cert.compensatedStepIds)
    else .ok ()
  | .rolledBack =>
    if targetPhase ≠ .completed ∧ targetPhase ≠ .aborted then
      .error ("RolledBack disposition requires Completed or Aborted phase; target phase is " ++
        targetPhase.debug)
    else if cert.failedStepIds = [] ∧ cert.compensatedStepIds = [] then
      .error "RolledBack disposition requires failed or compensated step evidence"
    else if cert.completedStepIds ≠ cert.compensatedStepIds then
      .error ("RolledBack disposition requires every completed step to be compensated; " ++
        "completed=" ++ debugStrings P cert.completedStepIds ++ ", compensated=" ++
        debugStrings P cert.compensatedStepIds)
    else .ok ()
  | .aborted =>
    if targetPhase ≠ .aborted then
      .error ("Aborted disposition requires Aborted phase; target phase is " ++ targetPhase.debug)
    else .ok ()

namespace TxExecutionLedger

variable (P) in
/-- A new empty ledger. -/
def new (executionId planId : String) (planHash : Nat) : TxExecutionLedger P where
  executionId := executionId
  planId := planId
  planHash := planHash
  phase := .planned
  records := []
  lastHash := ""
  nextOrdinal := 0
  keyIndex := []
  terminalCertificate := none

def validateCertificateAgainstLedger (ledger : TxExecutionLedger P)
    (cert : TerminalDispositionCertificate) (targetPhase : TxPhase) : Except String Unit :=
  let actual := actualSteps ledger.records
  if cert.executionId ≠ ledger.executionId then
    .error ("certificate execution_id " ++ P.debug cert.executionId ++
      " does not match ledger execution_id " ++ P.debug ledger.executionId)
  else if cert.planId ≠ ledger.planId then
    .error ("certificate plan_id " ++ P.debug cert.planId ++
      " does not match ledger plan_id " ++ P.debug ledger.planId)
  else if cert.planHash ≠ ledger.planHash then
    .error ("certificate plan_hash " ++ toString cert.planHash ++
      " does not match ledger plan_hash " ++ toString ledger.planHash)
  else if cert.completedStepIds ≠ actual.completed then
    .error ("certificate completed_step_ids " ++ debugStrings P cert.completedStepIds ++
      " does not match actual completed records " ++ debugStrings P actual.completed)
  else if cert.failedStepIds ≠ actual.failed then
    .error ("certificate failed_step_ids " ++ debugStrings P cert.failedStepIds ++
      " does not match actual failed records " ++ debugStrings P actual.failed)
  else if cert.compensatedStepIds ≠ actual.compensated then
    .error ("certificate compensated_step_ids " ++ debugStrings P cert.compensatedStepIds ++
      " does not match actual compensated records " ++ debugStrings P actual.compensated)
  else cert.checkDisposition P targetPhase

/-- The disposition that the recorded steps prove for a target phase. -/
def synthesizeDisposition (ledger : TxExecutionLedger P) (actual : StepSets)
    (targetPhase : TxPhase) : Except IdempotencyError TerminalDispositionKind :=
  match targetPhase with
  | .completed =>
    if actual.failed = [] ∧ actual.compensated = [] then .ok .committed
    else if actual.compensated = actual.completed ∧
        (actual.failed ≠ [] ∨ actual.compensated ≠ []) then .ok .rolledBack
    else
      .error (.invalidTerminalCertificate
        ("cannot transition to Completed without proving all steps committed or all " ++
          "completed steps compensated on execution " ++ ledger.executionId ++
          "; completed=" ++ debugStrings P actual.completed ++ ", failed=" ++
          debugStrings P actual.failed ++ ", compensated=" ++
          debugStrings P actual.compensated))
  | .aborted =>
    if actual.compensated ≠ [] ∧ actual.compensated = actual.completed then .ok .rolledBack
    else .ok .aborted
  | _ =>
    .error (.invalidTerminalCertificate
      ("cannot synthesize terminal certificate for non-terminal phase " ++ targetPhase.debug))

def synthesizeTerminalCertificate (ledger : TxExecutionLedger P) (targetPhase : TxPhase) :
    Except IdempotencyError TerminalDispositionCertificate :=
  let actual := actualSteps ledger.records
  match ledger.synthesizeDisposition actual targetPhase with
  | .error err => .error err
  | .ok disposition =>
    .ok { disposition
          executionId := ledger.executionId
          planId := ledger.planId
          planHash := ledger.planHash
          completedStepIds := actual.completed
          failedStepIds := actual.failed
          compensatedStepIds := actual.compensated
          certifiedAtMs := (ledger.records.getLast?.map (·.timestampMs)).getD 0 }

/-! ### Operations -/

/-- Transition to a new phase; a terminal phase needs unambiguous records and an
accepted certificate, synthesised when none was set. -/
def transitionPhase (ledger : TxExecutionLedger P) (next : TxPhase) :
    Except IdempotencyError TxPhase × TxExecutionLedger P :=
  if ledger.phase.canTransitionTo next = false then
    (.error (.invalidPhaseTransition ledger.phase next), ledger)
  else if next.isTerminal then
    if ambiguousOrdinals ledger.records ≠ [] then
      (.error (.ambiguousTerminalTransition ledger.executionId
        (ambiguousOrdinals ledger.records)), ledger)
    else
      match ledger.terminalCertificate with
      | none =>
        match ledger.synthesizeTerminalCertificate next with
        | .error err => (.error err, ledger)
        | .ok cert =>
          (.ok ledger.phase, { ledger with terminalCertificate := some cert, phase := next })
      | some cert =>
        match ledger.validateCertificateAgainstLedger cert next with
        | .error reason => (.error (.invalidTerminalCertificate reason), ledger)
        | .ok () => (.ok ledger.phase, { ledger with phase := next })
  else (.ok ledger.phase, { ledger with phase := next })

/-- Rebuild an index that is empty while there are records. -/
def selfHeal (ledger : TxExecutionLedger P) : Except String (TxExecutionLedger P) :=
  if ledger.keyIndex.isEmpty && !ledger.records.isEmpty then
    match buildLedgerKeyIndex ledger.records with
    | .error reason => .error reason
    | .ok keyIndex => .ok { ledger with keyIndex }
  else .ok ledger

/-- The record that `append` pushes. -/
def nextRecord (ledger : TxExecutionLedger P) (idemKey : IdempotencyKey P)
    (outcome : StepOutcome) (risk : StepRisk) (agentId : String) (timestampMs : Nat) :
    StepExecutionRecord P where
  ordinal := ledger.nextOrdinal
  idemKey := idemKey
  executionId := ledger.executionId
  timestampMs := timestampMs
  outcome := outcome
  risk := risk
  prevHash := ledger.lastHash
  agentId := agentId

/-- The ledger after the record was pushed. -/
def push (ledger : TxExecutionLedger P) (record : StepExecutionRecord P) :
    TxExecutionLedger P :=
  { ledger with
    nextOrdinal := ledger.nextOrdinal + 1
    lastHash := record.hash
    keyIndex := ledger.keyIndex.insert record.idemKey record.ordinal
    records := ledger.records ++ [record] }

/-- Append an execution record; the result is its hash. -/
def append (ledger : TxExecutionLedger P) (idemKey : IdempotencyKey P)
    (outcome : StepOutcome) (risk : StepRisk) (agentId : String) (timestampMs : Nat) :
    Except IdempotencyError String × TxExecutionLedger P :=
  let highWaterMs := (ledger.records.getLast?.map (·.timestampMs)).getD 0
  if ledger.phase.isTerminal then (.error (.ledgerSealed ledger.phase), ledger)
  else if idemKey.planId ≠ ledger.planId then
    (.error (.ledgerRecordInvariant ("idempotency key plan_id " ++ P.debug idemKey.planId ++
      " does not match ledger plan_id " ++ P.debug ledger.planId)), ledger)
  else if timestampMs < highWaterMs then
    (.error (.retrogradeTimestamp timestampMs highWaterMs), ledger)
  else
    match ledger.selfHeal with
    | .error reason => (.error (.ledgerIndexCorrupt reason), ledger)
    | .ok ledger =>
      if (ledger.keyIndex.lookup idemKey).isSome then
        (.error (.duplicateExecution idemKey.key), ledger)
      else
        let record := ledger.nextRecord idemKey outcome risk agentId timestampMs
        (.ok record.hash, ledger.push record)

/-- Store a link in a record. -/
def setPrevHash (prevHash : String) (record : StepExecutionRecord P) : StepExecutionRecord P :=
  { record with prevHash }

/-- `for idx in index..records.len()`: recompute the links of a suffix, the first of
them from the record before it. -/
def rehashFrom (index : Nat) (records : List (StepExecutionRecord P)) :
    List (StepExecutionRecord P) :=
  records.take index ++
    relink StepExecutionRecord.hash setPrevHash (lastRecordHash (records.take index))
      (records.drop index)

/-- The ledger after the reservation at `index` was completed. -/
def rewrite (ledger : TxExecutionLedger P) (index : Nat) (record : StepExecutionRecord P)
    (outcome : StepOutcome) (timestampMs : Nat) : TxExecutionLedger P :=
  let records :=
    rehashFrom index (ledger.records.set index { record with outcome, timestampMs })
  { ledger with records, lastHash := lastRecordHash records }

/-- The timestamp of the record before `index`. -/
def previousTimestamp (records : List (StepExecutionRecord P)) : Nat → Nat
  | 0 => 0
  | previous + 1 => (records[previous]?.map (·.timestampMs)).getD 0

/-- Upgrade a pending record to its terminal outcome. -/
def completePending (ledger : TxExecutionLedger P) (idemKey : IdempotencyKey P)
    (outcome : StepOutcome) (timestampMs : Nat) :
    Except IdempotencyError String × TxExecutionLedger P :=
  if ledger.phase.isTerminal then (.error (.ledgerSealed ledger.phase), ledger)
  else
    match ledger.selfHeal with
    | .error reason => (.error (.ledgerIndexCorrupt reason), ledger)
    | .ok ledger =>
      match ledger.keyIndex.lookup idemKey with
      | none =>
        (.error (.ledgerIndexCorrupt
          ("cannot complete unreserved idempotency key " ++ idemKey.key)), ledger)
      | some ordinal =>
        match ledger.records.findFinIdx? (fun record => record.ordinal = ordinal) with
        | none =>
          (.error (.ledgerIndexCorrupt ("idempotency key " ++ idemKey.key ++
            " points to missing ordinal " ++ toString ordinal)), ledger)
        | some index =>
          let record := ledger.records[index]
          let minimumTimestamp :=
            max (previousTimestamp ledger.records index) record.timestampMs
          let nextTimestamp := ledger.records[index.val + 1]?.map (·.timestampMs)
          if record.outcome.isPending = false then
            (.error (.duplicateExecution idemKey.key), ledger)
          else if outcome.isAmbiguousReplayOutcome then
            (.error (.ledgerRecordInvariant
              "a Pending reservation must complete with an unambiguous outcome"), ledger)
          else if timestampMs < minimumTimestamp ∨
              nextTimestamp.any (fun next => next < timestampMs) then
            (.error (.ledgerRecordInvariant ("completion timestamp " ++
              toString timestampMs ++ " would violate ledger timestamp order around " ++
              "ordinal " ++ toString ordinal)), ledger)
          else
            let after := ledger.rewrite index record outcome timestampMs
            (.ok ((after.records[index.val]?.map StepExecutionRecord.hash).getD ""), after)

end TxExecutionLedger

/-! ### Chain verification -/

/-- Result of verifying a ledger's hash chain. -/
structure ChainVerification where
  chainIntact : Bool
  firstBreakAt : Option Nat
  missingOrdinals : List Nat
  totalRecords : Nat
  deriving DecidableEq, Repr

/-- The loop variables of `verify_chain`. -/
structure ChainWalk where
  expectedPrev : String
  firstBreakAt : Option Nat
  missingOrdinals : List Nat
  expectedOrdinal : Nat

def ChainWalk.step (walk : ChainWalk) (record : StepExecutionRecord P) : ChainWalk where
  missingOrdinals :=
    if record.ordinal ≠ walk.expectedOrdinal then
      walk.missingOrdinals ++
        List.range' walk.expectedOrdinal (record.ordinal - walk.expectedOrdinal)
    else walk.missingOrdinals
  expectedOrdinal := record.ordinal + 1
  firstBreakAt :=
    if record.prevHash ≠ walk.expectedPrev ∧ walk.firstBreakAt = none then some record.ordinal
    else walk.firstBreakAt
  expectedPrev := record.hash

/-- Walk the links and the ordinals, then authenticate the tip. -/
def TxExecutionLedger.verifyChain (ledger : TxExecutionLedger P) : ChainVerification :=
  let walk := ledger.records.foldl ChainWalk.step ⟨"", none, [], 0⟩
  let firstBreakAt :=
    if walk.firstBreakAt = none ∧ ledger.records ≠ [] ∧ walk.expectedPrev ≠ ledger.lastHash then
      ledger.records.getLast?.map (·.ordinal)
    else walk.firstBreakAt
  { chainIntact := firstBreakAt.isNone && walk.missingOrdinals.isEmpty
    firstBreakAt
    missingOrdinals := walk.missingOrdinals
    totalRecords := ledger.records.length }

/-! ### Serialisation -/

namespace TxExecutionLedger

/-- The derived serialiser: the index is skipped, an absent certificate is left out. -/
def toJson (ledger : TxExecutionLedger P) : Json :=
  .obj ([("execution_id", serialize ledger.executionId), ("plan_id", serialize ledger.planId),
    ("plan_hash", serialize ledger.planHash), ("phase", serialize ledger.phase),
    ("records", serialize ledger.records), ("last_hash", serialize ledger.lastHash),
    ("next_ordinal", serialize ledger.nextOrdinal)] ++
    match ledger.terminalCertificate with
    | none => []
    | some cert => [("terminal_certificate", serialize cert)])

/-- The loop over the records of the deserialiser: owner, plan and timestamp order. -/
def checkRecord (executionId planId : String) (highWater : Option Nat)
    (record : StepExecutionRecord P) : Except String (Option Nat) :=
  if record.executionId ≠ executionId then
    .error ("TxExecutionLedger record " ++ toString record.ordinal ++ " execution_id " ++
      P.debug record.executionId ++ " does not match ledger execution_id " ++
      P.debug executionId)
  else if record.idemKey.planId ≠ planId then
    .error ("TxExecutionLedger record " ++ toString record.ordinal ++
      " idempotency plan_id " ++ P.debug record.idemKey.planId ++
      " does not match ledger plan_id " ++ P.debug planId)
  else if highWater.any (fun previous => record.timestampMs < previous) then
    .error ("TxExecutionLedger record " ++ toString record.ordinal ++ " timestamp " ++
      toString record.timestampMs ++ " is below prior high-water " ++
      toString (highWater.getD 0))
  else .ok (some record.timestampMs)

/-- The checks on a ledger that was stored in a terminal phase. -/
def checkTerminal (ledger : TxExecutionLedger P) : Except String Unit :=
  if ledger.phase.isTerminal then
    if ambiguousOrdinals ledger.records ≠ [] then
      .error ("terminal TxExecutionLedger contains ambiguous Pending/Skipped records at " ++
        "ordinals " ++ debugList ((ambiguousOrdinals ledger.records).map toString))
    else
      match ledger.terminalCertificate with
      | none =>
        .error ("terminal TxExecutionLedger in phase " ++ ledger.phase.debug ++
          " lacks a terminal disposition certificate")
      | some cert => ledger.validateCertificateAgainstLedger cert ledger.phase
  else .ok ()

/-- The ordinal of a record is its index. -/
def checkOrdinal (entry : StepExecutionRecord P × Nat) : Except String Unit :=
  if entry.1.ordinal ≠ entry.2 then
    .error ("br-ft-ddm8k: TxExecutionLedger record at index " ++ toString entry.2 ++
      " has ordinal " ++ toString entry.1.ordinal ++
      " (expected dense 0..len, must equal index)")
  else .ok ()

/-- The checks of the hand-written deserialiser on the fields that were read, in its
order; `ledger.keyIndex` is not read but rebuilt. -/
def ofSerde (ledger : TxExecutionLedger P) : Except String (TxExecutionLedger P) := do
  if isValidExecutionId ledger.executionId = false then
    throw ("TxExecutionLedger execution_id is unsafe or malformed: " ++ P.debug ledger.executionId)
  if ledger.planId = "" then throw "TxExecutionLedger plan_id must not be empty"
  let _ ← ledger.records.foldlM (checkRecord ledger.executionId ledger.planId) none
  checkTerminal ledger
  let keyIndex ← buildLedgerKeyIndex ledger.records
  ledger.records.zipIdx.forM checkOrdinal
  if ledger.nextOrdinal ≠ ledger.records.length then
    throw ("br-ft-ddm8k: TxExecutionLedger next_ordinal " ++ toString ledger.nextOrdinal ++
      " does not match records.len() " ++ toString ledger.records.length ++
      " — append would reuse an existing ordinal or skip into a gap")
  if ledger.lastHash ≠ lastRecordHash ledger.records then
    throw ("br-ft-ddm8k: TxExecutionLedger last_hash `" ++ ledger.lastHash ++
      "` does not match records.last().hash() `" ++ lastRecordHash ledger.records ++
      "` — chain anchor is detached from the record vec")
  return { ledger with keyIndex }

variable (P) in
def ofJson (j : Json) : Except String (TxExecutionLedger P) := do
  let executionId ← field "execution_id" j
  let planId ← field "plan_id" j
  let planHash ← field "plan_hash" j
  let phase ← field "phase" j
  let records ← field "records" j
  let lastHash ← field "last_hash" j
  let nextOrdinal ← field "next_ordinal" j
  let terminalCertificate ← optField "terminal_certificate" j
  ofSerde { executionId, planId, planHash, phase, records, lastHash, nextOrdinal,
            keyIndex := [], terminalCertificate }

instance : Codec (TxExecutionLedger P) := ⟨toJson, ofJson P⟩

end TxExecutionLedger

end FrankenTerm.Ports.TxLedger
