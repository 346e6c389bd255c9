import FrankenTerm.Verified.Serde

/-!
# Idempotency keys, step outcomes and execution records

Model of the first part of `tx_idempotency.rs`: the content-addressed
idempotency key of a transaction step, the outcome of executing it and the record
of one execution, each with the serialisation the source derives or writes by
hand.

`Platform` holds what the source takes from its libraries: SHA-256, the bytes of a
JSON tree, the quoting of a string by `{:?}`, and the stored texts with their nesting
limit.  A key carries the facts its
private fields and its checked deserialiser guarantee: the raw key is the digest of
the other fields, and the fingerprint digest is well formed.

## Main results

* `isWellFormedIdempotencyKey_computeKey` — every derived key has the wire format.
* `IdempotencyKey.roundTrips` — a key with a plan and a step is read back unchanged.
* `StepExecutionRecord.roundTrips` — so is a record with such a key.
-/

namespace FrankenTerm.Ports.TxRecord

open Verified.Serde
open String

/-- What the source takes from its libraries. -/
structure Platform where
  /-- The SHA-256 digest. -/
  sha256 : List UInt8 → List UInt8
  length_sha256 : ∀ message, (sha256 message).length = 32
  /-- The bytes `serde_json::to_vec` prints for a tree. -/
  toVec : Json → List UInt8
  /-- A string as `{:?}` prints it. -/
  debug : String → String
  /-- The texts of `serde_json::to_vec_pretty` and `serde_json::from_slice`. -/
  text : TextLayer
  /-- The reader counts down from 128 and gives up at zero. -/
  limit_text : text.limit = 127

variable (P : Platform)

/-! ## Collision-resistant hashing -/

/-- A length as eight big-endian bytes. -/
def toBeBytes (n : Nat) : List UInt8 :=
  (List.range 8).map fun i => UInt8.ofNat (n / 256 ^ (7 - i))

def hexDigit (n : Nat) : Char :=
  "0123456789abcdef".toList.getD n '0'

/-- Two lower-case hexadecimal digits for each byte. -/
def hexEncode (bytes : List UInt8) : String :=
  String.ofList (bytes.flatMap fun b => [hexDigit (b.toNat / 16), hexDigit (b.toNat % 16)])

/-- Digest of a domain and its components, each preceded by its length. -/
def sha256DomainDigest (domain : List UInt8) (components : List (List UInt8)) : String :=
  hexEncode <| P.sha256 <|
    (domain :: components).flatMap fun component => toBeBytes component.length ++ component

/-- The bytes of a string. -/
def asBytes (s : String) : List UInt8 := s.toByteArray.toList

/-! ## Idempotency keys -/

/-- Semantic namespace of the external effect. -/
inductive IdempotencyKeyKind where
  | action
  | compensation
  deriving DecidableEq, Repr

namespace IdempotencyKeyKind

def domainTag : IdempotencyKeyKind → String
  | action => "action"
  | compensation => "compensation"

def fingerprintDomain : IdempotencyKeyKind → String
  | action => "frankenterm.tx.action-fingerprint.v1"
  | compensation => "frankenterm.tx.compensation-fingerprint.v1"

instance : Codec IdempotencyKeyKind where
  serialize kind := .str kind.domainTag
  deserialize := tagged [action, compensation] domainTag

theorem roundTrips (kind : IdempotencyKeyKind) : RoundTrips kind := by
  cases kind <;> rfl

end IdempotencyKeyKind

def computeKey (kind : IdempotencyKeyKind) (planId stepId hashInputDigest : String) : String :=
  "txk:v2:" ++ sha256DomainDigest P (asBytes "frankenterm.tx.idempotency-key.v2")
    [asBytes kind.domainTag, asBytes planId, asBytes stepId, asBytes hashInputDigest]

def computeHashInputDigest (kind : IdempotencyKeyKind) (hashInput : String) : String :=
  "sha256:" ++ sha256DomainDigest P (asBytes kind.fingerprintDomain) [asBytes hashInput]

def isLowerHexDigest (hex : String) : Bool :=
  hex.utf8ByteSize == 64 && hex.toList.all fun c => c.isDigit || decide ('a' ≤ c ∧ c ≤ 'f')

/-- The rest of the string after the given start. -/
def stripStart (start raw : String) : Option String :=
  if start.toList.isPrefixOf raw.toList then
    some (String.ofList (raw.toList.drop start.toList.length))
  else none

def isWellFormedIdempotencyKey (raw : String) : Bool :=
  match stripStart "txk:v2:" raw with
  | none => false
  | some hex => isLowerHexDigest hex

def isWellFormedHashInputDigest (raw : String) : Bool :=
  (stripStart "sha256:" raw).any isLowerHexDigest

/-- A key is built only by its constructors and by its checked deserialiser, so it
always names the digest of its own fields. -/
structure IdempotencyKey where
  key : String
  planId : String
  stepId : String
  keyKind : IdempotencyKeyKind
  hashInput : String
  derived : key = computeKey P keyKind planId stepId hashInput
  wellFormed : isWellFormedHashInputDigest hashInput = true
  deriving DecidableEq

/-! ### The wire format of the digests -/

private theorem hexDigit_isLowerHex (n : Fin 16) :
    ((hexDigit n).isDigit || decide ('a' ≤ hexDigit n ∧ hexDigit n ≤ 'f')) = true ∧
      (hexDigit n).utf8Size = 1 := by
  revert n
  decide

private theorem utf8Len_of_ascii {cs : List Char} (h : ∀ c ∈ cs, c.utf8Size = 1) :
    utf8Len cs = cs.length := by
  induction cs with
  | nil => rfl
  | cons c _ ih =>
    have hHead := h c (by simp)
    have hTail := ih fun d hd => h d (by simp [hd])
    rw [utf8Len_cons, hHead, hTail, List.length_cons]

private theorem isLowerHexDigest_hexEncode {bytes : List UInt8} (h : bytes.length = 32) :
    isLowerHexDigest (hexEncode bytes) := by
  have hDigit : ∀ c ∈ bytes.flatMap fun b => [hexDigit (b.toNat / 16), hexDigit (b.toNat % 16)],
      (c.isDigit || decide ('a' ≤ c ∧ c ≤ 'f')) = true ∧ c.utf8Size = 1 := by
    intro c hc
    simp only [List.mem_flatMap, List.mem_cons, List.not_mem_nil, or_false] at hc
    rcases hc with ⟨b, _, rfl | rfl⟩
    · exact hexDigit_isLowerHex ⟨b.toNat / 16, by have := b.toNat_lt; omega⟩
    · exact hexDigit_isLowerHex ⟨b.toNat % 16, by omega⟩
  unfold isLowerHexDigest hexEncode
  rw [utf8ByteSize_ofList, utf8Len_of_ascii fun c hc => (hDigit c hc).2,
    toList_ofList]
  simp only [Bool.and_eq_true, List.all_eq_true, beq_iff_eq]
  refine ⟨?_, fun c hc => (hDigit c hc).1⟩
  simp [List.length_flatMap, h]

private theorem stripStart_append (start rest : String) :
    stripStart start (start ++ rest) = some rest := by
  simp [stripStart, toList_append]

/-- Every derived key has the wire format that the deserialiser demands. -/
theorem isWellFormedIdempotencyKey_computeKey (kind : IdempotencyKeyKind)
    (planId stepId hashInput : String) :
    isWellFormedIdempotencyKey (computeKey P kind planId stepId hashInput) := by
  unfold isWellFormedIdempotencyKey computeKey
  rw [stripStart_append]
  exact isLowerHexDigest_hexEncode (P.length_sha256 _)

theorem isWellFormedHashInputDigest_compute (kind : IdempotencyKeyKind) (input : String) :
    isWellFormedHashInputDigest (computeHashInputDigest P kind input) := by
  unfold isWellFormedHashInputDigest computeHashInputDigest
  rw [stripStart_append]
  exact isLowerHexDigest_hexEncode (P.length_sha256 _)

namespace IdempotencyKey

/-- The key of a step's action. -/
def new (planId stepId actionFingerprint : String) : IdempotencyKey P where
  key := computeKey P .action planId stepId (computeHashInputDigest P .action actionFingerprint)
  planId := planId
  stepId := stepId
  keyKind := .action
  hashInput := computeHashInputDigest P .action actionFingerprint
  derived := rfl
  wellFormed := isWellFormedHashInputDigest_compute P .action actionFingerprint

/-- The key of a compensation execution. -/
def forCompensation (planId stepId compensationKind : String) : IdempotencyKey P where
  key := computeKey P .compensation planId stepId
    (computeHashInputDigest P .compensation compensationKind)
  planId := planId
  stepId := stepId
  keyKind := .compensation
  hashInput := computeHashInputDigest P .compensation compensationKind
  derived := rfl
  wellFormed := isWellFormedHashInputDigest_compute P .compensation compensationKind

variable {P}

def isCompensation (k : IdempotencyKey P) : Bool := k.keyKind = .compensation

def toJson (k : IdempotencyKey P) : Json :=
  .obj [("key", serialize k.key), ("plan_id", serialize k.planId),
    ("step_id", serialize k.stepId), ("key_kind", serialize k.keyKind),
    ("hash_input", serialize k.hashInput)]

variable (P) in
/-- The checks of the hand-written deserialiser, in its order. -/
def ofShape (key planId stepId : String) (keyKind : IdempotencyKeyKind) (hashInput : String) :
    Except String (IdempotencyKey P) :=
  if isWellFormedIdempotencyKey key = false then
    .error ("br-ft-f4vta: malformed IdempotencyKey raw key `" ++ key ++
      "`; expected format `txk:v2:` + 64 lowercase hex chars")
  else if planId = "" then
    .error "br-ft-f4vta: IdempotencyKey.plan_id must not be empty"
  else if stepId = "" then
    .error "br-ft-f4vta: IdempotencyKey.step_id must not be empty"
  else if hWellFormed : isWellFormedHashInputDigest hashInput = true then
    if hDerived : key = computeKey P keyKind planId stepId hashInput then
      .ok ⟨key, planId, stepId, keyKind, hashInput, hDerived, hWellFormed⟩
    else
      .error ("br-ft-f4vta: IdempotencyKey.key `" ++ key ++ "` does not match " ++
        "hash(length-delimited key_kind, plan_id, step_id, hash_input) — persisted form is " ++
        "forged or aliased from a different step (expected `" ++
        computeKey P keyKind planId stepId hashInput ++ "`)")
  else
    .error "br-ft-f4vta: IdempotencyKey.hash_input must be `sha256:` plus 64 lowercase hex chars"

variable (P) in
def ofJson (j : Json) : Except String (IdempotencyKey P) := do
  let key ← field "key" j
  let planId ← field "plan_id" j
  let stepId ← field "step_id" j
  let keyKind ← field "key_kind" j
  let hashInput ← field "hash_input" j
  ofShape P key planId stepId keyKind hashInput

instance : Codec (IdempotencyKey P) := ⟨toJson, ofJson P⟩

private theorem ofJson_toJson (k : IdempotencyKey P) :
    ofJson P k.toJson = ofShape P k.key k.planId k.stepId k.keyKind k.hashInput := by
  unfold ofJson
  rw [field_eq_ok rfl (roundTrips_string k.key), field_eq_ok rfl (roundTrips_string k.planId),
    field_eq_ok rfl (roundTrips_string k.stepId),
    field_eq_ok rfl (IdempotencyKeyKind.roundTrips k.keyKind),
    field_eq_ok rfl (roundTrips_string k.hashInput)]
  rfl

/-- A key with a plan and a step passes the checks of its deserialiser. -/
theorem roundTrips {k : IdempotencyKey P} (hPlan : k.planId ≠ "") (hStep : k.stepId ≠ "") :
    RoundTrips k := by
  have hKey : isWellFormedIdempotencyKey k.key := by
    rw [k.derived]
    exact isWellFormedIdempotencyKey_computeKey P _ _ _ _
  show ofJson P k.toJson = .ok k
  rw [ofJson_toJson]
  simp [ofShape, hKey, hPlan, hStep, k.wellFormed, ← k.derived]

/-- A key without a plan or a step is refused, any other key read back. -/
theorem faithful (k : IdempotencyKey P) : Faithful k := by
  by_cases hNamed : k.planId ≠ "" ∧ k.stepId ≠ ""
  · exact .inl (roundTrips hNamed.1 hNamed.2)
  have hKey : isWellFormedIdempotencyKey k.key := by
    rw [k.derived]
    exact isWellFormedIdempotencyKey_computeKey P _ _ _ _
  have hShape : ∃ err, ofShape P k.key k.planId k.stepId k.keyKind k.hashInput =
      .error err := by
    unfold ofShape
    rw [if_neg (by simp [hKey])]
    by_cases hPlan : k.planId = ""
    · exact ⟨_, if_pos hPlan⟩
    · have hStep : k.stepId = "" := by
        by_contra hNot
        exact hNamed ⟨hPlan, hNot⟩
      rw [if_neg hPlan, if_pos hStep]
      exact ⟨_, rfl⟩
  rcases hShape with ⟨err, hErr⟩
  refine .inr ⟨err, ?_⟩
  show ofJson P k.toJson = _
  rw [ofJson_toJson, hErr]

end IdempotencyKey

/-! ## Step outcomes -/

/-- Outcome of executing a single step. -/
inductive StepOutcome where
  | success (result : Option String)
  | failed (errorCode errorMessage : String) (compensated : Bool)
  | skipped (reason : String)
  | compensated (originalOutcome : StepOutcome) (compensationResult : String)
  | pending
  deriving DecidableEq, Repr

namespace StepOutcome

def isPending : StepOutcome → Bool
  | pending => true
  | _ => false

theorem isPending_iff {outcome : StepOutcome} : outcome.isPending ↔ outcome = pending := by
  cases outcome <;> simp [isPending]

/-- Durable replay proof: it must not age out. -/
def isStickyReplayProof : StepOutcome → Bool
  | pending | success _ | compensated _ _ => true
  | _ => false

/-- Not enough to say whether the external effect happened. -/
def isAmbiguousReplayOutcome : StepOutcome → Bool
  | pending | skipped _ => true
  | _ => false

def toJson : StepOutcome → Json
  | success result => .obj [("success", .obj [("result", serialize result)])]
  | failed errorCode errorMessage undone =>
    .obj [("failed", .obj [("error_code", serialize errorCode),
      ("error_message", serialize errorMessage), ("compensated", serialize undone)])]
  | skipped reason => .obj [("skipped", .obj [("reason", serialize reason)])]
  | compensated originalOutcome compensationResult =>
    .obj [("compensated", .obj [("original_outcome", originalOutcome.toJson),
      ("compensation_result", serialize compensationResult)])]
  | pending => .str "pending"

/-- The derived reader: a unit variant is its tag, any other variant an object with
the tag as its only member. -/
def ofJson (j : Json) : Except String StepOutcome :=
  match j with
  | .str tag => if tag = "pending" then .ok pending else .error s!"unknown variant {tag}"
  | .obj [(tag, body)] =>
    if tag = "success" then do
      let result ← optField "result" body
      return success result
    else if tag = "failed" then do
      let errorCode ← field "error_code" body
      let errorMessage ← field "error_message" body
      let undone ← field "compensated" body
      return failed errorCode errorMessage undone
    else if tag = "skipped" then do
      let reason ← field "reason" body
      return skipped reason
    else if tag = "compensated" then
      match hInner : body.get? "original_outcome" with
      | none => .error "missing field original_outcome"
      | some inner => do
        let originalOutcome ← ofJson inner
        let compensationResult ← field "compensation_result" body
        return compensated originalOutcome compensationResult
    else .error s!"unknown variant {tag}"
  | _ => .error "invalid type: expected enum StepOutcome"
termination_by sizeOf j
decreasing_by
  have hLt := Json.sizeOf_get?_lt hInner
  simp only [Json.obj.sizeOf_spec, List.cons.sizeOf_spec, Prod.mk.sizeOf_spec]
  omega

instance : Codec StepOutcome := ⟨toJson, ofJson⟩

theorem integral_toJson (outcome : StepOutcome) : outcome.toJson.integral := by
  induction outcome with
  | success result =>
    cases result <;> simp [toJson, serialize, Json.integral, Json.integralMembers]
  | _ => simp_all [toJson, serialize, Json.integral, Json.integralMembers]

/-- By induction on the outcome that a compensation wraps. -/
theorem roundTrips (outcome : StepOutcome) : RoundTrips outcome := by
  show ofJson outcome.toJson = .ok outcome
  induction outcome with
  | success result =>
    rw [toJson, ofJson, if_pos rfl, optField_eq_ok rfl (roundTrips_optString result)]
    rfl
  | failed =>
    rw [toJson, ofJson]
    rfl
  | skipped =>
    rw [toJson, ofJson]
    simp only [reduceEq, reduceIte]
    rfl
  | compensated originalOutcome compensationResult ih =>
    rw [toJson, ofJson]
    show (ofJson originalOutcome.toJson >>= fun _ => _) = _
    rw [ih, field_eq_ok rfl (roundTrips_string compensationResult)]
    rfl
  | pending => rw [toJson, ofJson, if_pos rfl]

end StepOutcome

/-! ## Execution records -/

/-- Risk level of a step. -/
inductive StepRisk where
  | low
  | medium
  | high
  | critical
  deriving DecidableEq, Repr

namespace StepRisk

def tag : StepRisk → String
  | low => "low"
  | medium => "medium"
  | high => "high"
  | critical => "critical"

instance : Codec StepRisk where
  serialize risk := .str risk.tag
  deserialize := tagged [low, medium, high, critical] tag

theorem roundTrips (risk : StepRisk) : RoundTrips risk := by
  cases risk <;> rfl

end StepRisk

/-- Record of a single step execution. -/
structure StepExecutionRecord where
  ordinal : Nat
  idemKey : IdempotencyKey P
  executionId : String
  timestampMs : Nat
  outcome : StepOutcome
  risk : StepRisk
  prevHash : String
  agentId : String
  deriving DecidableEq

namespace StepExecutionRecord

variable {P}

def toJson (record : StepExecutionRecord P) : Json :=
  .obj [("ordinal", serialize record.ordinal), ("idem_key", serialize record.idemKey),
    ("execution_id", serialize record.executionId),
    ("timestamp_ms", serialize record.timestampMs), ("outcome", serialize record.outcome),
    ("risk", serialize record.risk), ("prev_hash", serialize record.prevHash),
    ("agent_id", serialize record.agentId)]

variable (P) in
def ofJson (j : Json) : Except String (StepExecutionRecord P) := do
  let ordinal ← field "ordinal" j
  let idemKey ← field "idem_key" j
  let executionId ← field "execution_id" j
  let timestampMs ← field "timestamp_ms" j
  let outcome ← field "outcome" j
  let risk ← field "risk" j
  let prevHash ← field "prev_hash" j
  let agentId ← field "agent_id" j
  return { ordinal, idemKey, executionId, timestampMs, outcome, risk, prevHash, agentId }

instance : Codec (StepExecutionRecord P) := ⟨toJson, ofJson P⟩

theorem integral_toJson (record : StepExecutionRecord P) : record.toJson.integral := by
  have hOutcome := record.outcome.integral_toJson
  simp_all [toJson, serialize, IdempotencyKey.toJson, Json.integral, Json.integralMembers]

/-- A record is read back unchanged when its key is. -/
theorem roundTrips {record : StepExecutionRecord P} (hKey : RoundTrips record.idemKey) :
    RoundTrips record := by
  show ofJson P record.toJson = .ok record
  unfold ofJson
  rw [field_eq_ok rfl (roundTrips_nat record.ordinal), field_eq_ok rfl hKey,
    field_eq_ok rfl (roundTrips_string record.executionId),
    field_eq_ok rfl (roundTrips_nat record.timestampMs),
    field_eq_ok rfl (StepOutcome.roundTrips record.outcome),
    field_eq_ok rfl (StepRisk.roundTrips record.risk),
    field_eq_ok rfl (roundTrips_string record.prevHash),
    field_eq_ok rfl (roundTrips_string record.agentId)]
  rfl

/-- A record is refused exactly when its key is. -/
theorem faithful (record : StepExecutionRecord P) : Faithful record := by
  rcases record.idemKey.faithful with hKey | ⟨err, hErr⟩
  · exact .inl (roundTrips hKey)
  refine .inr ⟨err, ?_⟩
  show ofJson P record.toJson = .error err
  unfold ofJson
  rw [field_eq_ok rfl (roundTrips_nat record.ordinal), field_eq_error rfl hErr]
  rfl

/-- Domain-separated digest of the record's JSON form. -/
def hash (record : StepExecutionRecord P) : String :=
  sha256DomainDigest P (asBytes "frankenterm.tx.execution-record.v2") [P.toVec record.toJson]

end StepExecutionRecord

end FrankenTerm.Ports.TxRecord
