import FrankenTerm.Verified.Check
import FrankenTerm.Verified.RustText

/-!
# The aggregator of the wire protocol

Agents send numbered envelopes to an aggregator (`wire_protocol.rs`), which keeps one session for
every sender: the last number it has taken, and when it heard from the sender last by its own clock.
A number that is not above the last one is a duplicate.  A session ends when the sender has been
silent for too long, either when its next envelope arrives or when room is needed for another
sender, and when it is removed by hand; after that the sender may count from the start again.

Envelopes are checked first (`validateEnvelopeProtocolWithLimits`).  The clock is arbitrary: it may
run backwards, and its differences saturate as the source's do.

Numbers of the source are natural numbers or integers here, so that every envelope of the source is
one of the model.  A confidence is the bits of a binary floating point number.  Three fields of a
detection that nothing reads (its agent, its severity and what was extracted) are left out.

## Main results

* `ingestEnvelopeAt_cases` — what an envelope does, by the place where it is decided.
* `Tracked.step` — every event keeps what is known about a sender's session.
* `sessions_dedup` — duplicates over whole runs.
-/

namespace FrankenTerm.Ports.WireAggregator

open Std (TreeMap)
open Verified Verified.Check List

def protocolVersion : Nat := 1

/-- The greatest sequence number that SQLite stores. -/
def maxDurableSequence : Nat := 2 ^ 63 - 1

/-- `WireProtocolLimits`, as far as envelopes are checked against them. -/
structure WireProtocolLimits where
  maxSenderIdLen : Nat

/-! ## Envelopes -/

/-- `PaneMeta`. -/
structure PaneMeta where
  paneId : Nat
  paneUuid : Option String
  domain : String
  title : Option String
  cwd : Option String
  rows : Option Nat
  cols : Option Nat
  observed : Bool
  timestampMs : Int
deriving DecidableEq, Repr

/-- `PaneDelta`. -/
structure PaneDelta where
  paneId : Nat
  seq : Nat
  content : String
  contentLen : Nat
  capturedAtMs : Int
deriving DecidableEq, Repr

/-- `GapNotice`. -/
structure GapNotice where
  paneId : Nat
  seqBefore : Nat
  seqAfter : Nat
  reason : String
  detectedAtMs : Int
deriving DecidableEq, Repr

/-- `DetectionNotice`. -/
structure DetectionNotice where
  ruleId : String
  eventType : String
  confidence : UInt64
  matchedText : String
  paneId : Nat
  paneUuid : Option String
  detectedAtMs : Int
deriving DecidableEq, Repr

/-- `PanesMeta`. -/
structure PanesMeta where
  panes : List PaneMeta
  timestampMs : Int
deriving DecidableEq, Repr

/-- `WirePayload`. -/
inductive WirePayload where
  | paneMeta (pane : PaneMeta)
  | paneDelta (delta : PaneDelta)
  | gap (gap : GapNotice)
  | detection (detection : DetectionNotice)
  | panesMeta (panes : PanesMeta)
deriving DecidableEq, Repr

/-- `WireEnvelope`. -/
structure WireEnvelope where
  version : Nat
  seq : Nat
  sender : String
  sentAtMs : Int
  payload : WirePayload
deriving DecidableEq, Repr

/-- `WireProtocolError`, as far as an envelope is refused with it.  The text of
`invalidConfidence` prints the number. -/
inductive WireProtocolError where
  | invalidJson (message : String)
  | invalidConfidence (confidence : UInt64)
  | versionMismatch (expected got : Nat)
  | invalidSender (sender reason : String)
  | tooManyAgents (max : Nat) (sender : String)
  | invalidSequence (sender : String)
deriving DecidableEq, Repr

/-! ## Checks -/

/-- `str::trim().is_empty()`. -/
def isBlank (text : String) : Bool := (RustText.trim text.toList).isEmpty

/-- The bytes that a sender may have. -/
def isSenderByte (byte : UInt8) : Bool :=
  (48 ≤ byte && byte ≤ 57) || (65 ≤ byte && byte ≤ 90) || (97 ≤ byte && byte ≤ 122) ||
    byte == 45 || byte == 95 || byte == 46

/-- `validate_sender_identity_with_limits`. -/
def validateSenderIdentityWithLimits (sender : String) (limits : WireProtocolLimits) :
    Except WireProtocolError Unit := do
  refuseIf (isBlank sender = true) (.invalidSender sender "sender must not be empty")
  refuseIf (limits.maxSenderIdLen < sender.utf8ByteSize)
    (.invalidSender sender "sender exceeds max length")
  refuseIf ((sender.toUTF8.toList.any fun byte => !isSenderByte byte) = true)
    (.invalidSender sender "sender contains invalid characters")

/-- `validate_optional_pane_uuid`. -/
def validateOptionalPaneUuid (paneUuid : Option String) (label : String) :
    Except WireProtocolError Unit :=
  refuseIf (paneUuid.any isBlank = true)
    (.invalidJson s!"{label} pane_uuid must not be empty when present")

/-- `validate_detection_identifier`. -/
def validateDetectionIdentifier (value field : String) : Except WireProtocolError Unit := do
  refuseIf (isBlank value = true) (.invalidJson s!"DetectionNotice {field} must not be empty")
  refuseIf (((value.toList.splitOn '.').any fun segment =>
      (RustText.trim segment).isEmpty) = true)
    (.invalidJson s!"DetectionNotice {field} must not contain empty dot-separated segments")
  refuseIf (value.toList.any RustText.isWhitespace = true)
    (.invalidJson s!"DetectionNotice {field} must not contain whitespace")

/-- `validate_pane_meta`. -/
def validatePaneMeta (pane : PaneMeta) (label : String) : Except WireProtocolError Unit := do
  refuseIf (isBlank pane.domain = true) (.invalidJson s!"{label} domain must not be empty")
  validateOptionalPaneUuid pane.paneUuid label

/-- `f64::is_finite`: the exponent is not all ones. -/
def isFinite (bits : UInt64) : Bool := bits.toNat / 2 ^ 52 % 2 ^ 11 != 2047

/-- The number is in `0.0..=1.0`: it is negative zero, or positive and at most one. -/
def inUnitInterval (bits : UInt64) : Bool :=
  bits.toNat == 2 ^ 63 || decide (bits.toNat ≤ 1023 * 2 ^ 52)

/-- A delta, in `validate_envelope_protocol_with_limits`. -/
def validatePaneDelta (delta : PaneDelta) : Except WireProtocolError Unit :=
  let declared := delta.contentLen
  let length := delta.content.utf8ByteSize
  refuseIf (declared ≠ length)
    (.invalidJson s!"PaneDelta content_len ({declared}) does not match content length ({length})")

/-- A gap, in `validate_envelope_protocol_with_limits`. -/
def validateGap (gap : GapNotice) : Except WireProtocolError Unit := do
  let before := gap.seqBefore
  let after := gap.seqAfter
  let maximum := maxDurableSequence
  refuseIf (maximum < before ∨ maximum < after)
    (.invalidJson (s!"GapNotice sequence bounds ({before}, {after}) must not exceed the durable " ++
      s!"signed 64-bit sequence maximum ({maximum})"))
  refuseIf (after ≤ before)
    (.invalidJson s!"GapNotice seq_after ({after}) must be greater than seq_before ({before})")

/-- A detection, in `validate_envelope_protocol_with_limits`. -/
def validateDetection (detection : DetectionNotice) : Except WireProtocolError Unit := do
  validateOptionalPaneUuid detection.paneUuid "DetectionNotice"
  validateDetectionIdentifier detection.ruleId "rule_id"
  validateDetectionIdentifier detection.eventType "event_type"
  refuseIf (isFinite detection.confidence = false ∨ inUnitInterval detection.confidence = false)
    (.invalidConfidence detection.confidence)

/-- The panes of a listing behind the route keys and UUIDs that have been seen. -/
def validatePanes (routeKeys : List (List Char × Nat)) (paneUuids : List (List Char)) :
    List PaneMeta → Except WireProtocolError Unit
  | [] => .ok ()
  | pane :: panes => do
    validatePaneMeta pane "PanesMeta pane"
    let domain := RustText.trim pane.domain.toList
    let domainText := String.ofList domain
    let paneId := pane.paneId
    refuseIf (routeKeys.contains (domain, paneId) = true)
      (.invalidJson
        s!"PanesMeta contains duplicate pane route key domain={domainText} pane_id={paneId}")
    let uuid := (pane.paneUuid.map fun text => RustText.trim text.toList).toList
    let uuidText := String.ofList (uuid.head?.getD [])
    refuseIf (uuid.any paneUuids.contains = true)
      (.invalidJson s!"PanesMeta contains duplicate pane_uuid {uuidText}")
    validatePanes ((domain, paneId) :: routeKeys) (uuid ++ paneUuids) panes

/-- The payload, in `validate_envelope_protocol_with_limits`. -/
def validatePayload : WirePayload → Except WireProtocolError Unit
  | .paneMeta pane => validatePaneMeta pane "PaneMeta"
  | .paneDelta delta => validatePaneDelta delta
  | .gap gap => validateGap gap
  | .detection detection => validateDetection detection
  | .panesMeta panes => validatePanes [] [] panes.panes

/-- `validate_envelope_protocol_with_limits`. -/
def validateEnvelopeProtocolWithLimits (envelope : WireEnvelope) (limits : WireProtocolLimits) :
    Except WireProtocolError Unit := do
  refuseIf (envelope.version ≠ protocolVersion)
    (.versionMismatch protocolVersion envelope.version)
  refuseIf (envelope.seq = RustText.u64Max) (.invalidSequence envelope.sender)
  validateSenderIdentityWithLimits envelope.sender limits
  validatePayload envelope.payload

/-! ## Sessions -/

/-- `i64::saturating_sub`. -/
def saturatingSub (a b : Int) : Int := max (-2 ^ 63) (min (2 ^ 63 - 1) (a - b))

/-- `u64::saturating_add(1)`. -/
def saturatingSucc (n : Nat) : Nat := min RustText.u64Max (n + 1)

/-- `AgentSession`. -/
structure AgentSession where
  lastSeq : Nat := 0
  messagesReceived : Nat := 0
  duplicatesSkipped : Nat := 0
  lastSeenMs : Int := 0
deriving DecidableEq, Repr

/-- `Aggregator`. -/
structure Aggregator where
  agents : TreeMap String AgentSession := {}
  totalAccepted : Nat := 0
  totalRejected : Nat := 0
  maxAgents : Nat
  staleAfterMs : Int
  limits : WireProtocolLimits

/-- `IngestResult`. -/
inductive IngestResult where
  | accepted (payload : WirePayload)
  | duplicate (sender : String) (seq : Nat)
deriving DecidableEq, Repr

namespace Aggregator

section

variable (aggregator : Aggregator) (sender : String)

/-- `with_limits_and_stale_after`. -/
def withLimitsAndStaleAfter (maxAgents : Nat) (limits : WireProtocolLimits) (staleAfterMs : Int) :
    Aggregator := { maxAgents, staleAfterMs, limits }

/-- The session has been silent for too long. -/
def isStale (nowMs : Int) (session : AgentSession) : Bool :=
  decide (aggregator.staleAfterMs ≤ saturatingSub nowMs session.lastSeenMs)

/-- `prune_stale_agents`, with the number of sessions that it removes. -/
def pruneStaleAgents (nowMs : Int) : Aggregator × Nat :=
  if aggregator.staleAfterMs ≤ 0 then (aggregator, 0)
  else
    let agents := aggregator.agents.filter fun _ session => !aggregator.isStale nowMs session
    ({ aggregator with agents }, aggregator.agents.size - agents.size)

/-- `remove_agent`. -/
def removeAgent : Aggregator × Bool :=
  ({ aggregator with agents := aggregator.agents.erase sender }, aggregator.agents.contains sender)

/-- The stale reset, in `ingest_envelope_at`. -/
def resetStale (receivedAtMs : Int) : Aggregator :=
  if 0 < aggregator.staleAfterMs ∧
      aggregator.agents[sender]?.any (aggregator.isStale receivedAtMs) = true then
    { aggregator with agents := aggregator.agents.erase sender }
  else aggregator

/-- The sessions are as many as they may be, and the sender has none. -/
def isFullFor : Bool :=
  !aggregator.agents.contains sender && decide (aggregator.maxAgents ≤ aggregator.agents.size)

/-- The room that is made for a new sender, in `ingest_envelope_at`. -/
def makeRoom (receivedAtMs : Int) : Aggregator :=
  if aggregator.isFullFor sender then (aggregator.pruneStaleAgents receivedAtMs).1 else aggregator

/-- The state in which an envelope is decided. -/
def readyFor (receivedAtMs : Int) : Aggregator :=
  (aggregator.resetStale sender receivedAtMs).makeRoom sender receivedAtMs

/-- An envelope is refused. -/
def reject (error : WireProtocolError) : Aggregator × Except WireProtocolError IngestResult :=
  ({ aggregator with totalRejected := saturatingSucc aggregator.totalRejected }, .error error)

/-- The session takes the envelope or not, in `ingest_envelope_at`. -/
def record (envelope : WireEnvelope) (receivedAtMs : Int) :
    Aggregator × Except WireProtocolError IngestResult :=
  let session := aggregator.agents[envelope.sender]?.getD {}
  let lastSeenMs := max session.lastSeenMs receivedAtMs
  if 0 < session.messagesReceived ∧ envelope.seq ≤ session.lastSeq then
    let session := { session with
      duplicatesSkipped := saturatingSucc session.duplicatesSkipped, lastSeenMs }
    ({ aggregator with agents := aggregator.agents.insert envelope.sender session },
      .ok (.duplicate envelope.sender envelope.seq))
  else
    let session := { session with
      lastSeq := envelope.seq
      messagesReceived := saturatingSucc session.messagesReceived
      lastSeenMs }
    ({ aggregator with
        agents := aggregator.agents.insert envelope.sender session
        totalAccepted := saturatingSucc aggregator.totalAccepted },
      .ok (.accepted envelope.payload))

/-- `ingest_envelope_at`. -/
def ingestEnvelopeAt (envelope : WireEnvelope) (receivedAtMs : Int) :
    Aggregator × Except WireProtocolError IngestResult :=
  match validateEnvelopeProtocolWithLimits envelope aggregator.limits with
  | .error error => aggregator.reject error
  | .ok () =>
    let ready := aggregator.readyFor envelope.sender receivedAtMs
    if ready.isFullFor envelope.sender then
      ready.reject (.tooManyAgents aggregator.maxAgents envelope.sender)
    else ready.record envelope receivedAtMs

end

end Aggregator

/-! ## Runs -/

section

variable (aggregator : Aggregator)

/-- The calls of a run. -/
inductive Event where
  | ingest (envelope : WireEnvelope) (receivedAtMs : Int)
  | prune (nowMs : Int)
  | remove (sender : String)

/-- The aggregator behind an event. -/
def step : Event → Aggregator
  | .ingest envelope receivedAtMs => (aggregator.ingestEnvelopeAt envelope receivedAtMs).1
  | .prune nowMs => (aggregator.pruneStaleAgents nowMs).1
  | .remove sender => (aggregator.removeAgent sender).1

/-- The session has been silent for too long, where silence ends sessions. -/
def expired (nowMs : Int) (session : AgentSession) : Bool :=
  decide (0 < aggregator.staleAfterMs) && aggregator.isStale nowMs session

/-- The event ends the session of a sender.  An arrival ends only a session that has expired at that
instant, and only if it is the sender's own or of a sender for which there is no room. -/
def removes (event : Event) (sender : String) : Bool :=
  aggregator.agents[sender]?.any fun session =>
    match event with
    | .ingest envelope receivedAtMs =>
      (validateEnvelopeProtocolWithLimits envelope aggregator.limits).isOk &&
        expired aggregator receivedAtMs session &&
        (envelope.sender == sender || aggregator.isFullFor envelope.sender)
    | .prune nowMs => expired aggregator nowMs session
    | .remove other => other == sender

/-- The sequence number that an event is answered `Accepted` for, if it is one of the sender. -/
def taken (event : Event) (sender : String) : List Nat :=
  match event with
  | .ingest envelope receivedAtMs =>
    match (aggregator.ingestEnvelopeAt envelope receivedAtMs).2 with
    | .ok (.accepted _) => if envelope.sender = sender then [envelope.seq] else []
    | _ => []
  | _ => []

/-- The sequence numbers taken from a sender, cut where its session ends; `current` has those of
the session that is open. -/
def sessionsFrom (sender : String) (aggregator : Aggregator) (current : List Nat) :
    List Event → List (List Nat)
  | [] => [current]
  | event :: events =>
    let accepted := taken aggregator event sender
    if removes aggregator event sender then
      current :: sessionsFrom sender (step aggregator event) accepted events
    else sessionsFrom sender (step aggregator event) (current ++ accepted) events

/-- The sessions of a sender in a run. -/
def sessions (sender : String) (aggregator : Aggregator) (events : List Event) : List (List Nat) :=
  sessionsFrom sender aggregator [] events

/-- The aggregator behind a run. -/
def run (events : List Event) : Aggregator := events.foldl step aggregator

end

/-! ## One envelope -/

namespace Aggregator

variable {aggregator : Aggregator} {sender : String} {nowMs : Int}

/-- What holds of every session of a bounded aggregator. -/
structure Sane (aggregator : Aggregator) : Prop where
  size_le : aggregator.agents.size ≤ aggregator.maxAgents
  received : ∀ (sender : String) session, aggregator.agents[sender]? = some session →
    0 < session.messagesReceived
  unreserved : ∀ (sender : String) session, aggregator.agents[sender]? = some session →
    session.lastSeq ≠ RustText.u64Max

/-- Nothing but sessions may go, and none of them changes. -/
structure Shrunk (before after : Aggregator) : Prop where
  maxAgents : after.maxAgents = before.maxAgents
  limits : after.limits = before.limits
  size_le : after.agents.size ≤ before.agents.size
  session : ∀ sender : String, after.agents[sender]? = before.agents[sender]? ∨
    after.agents[sender]? = none

theorem Shrunk.refl (aggregator : Aggregator) : Shrunk aggregator aggregator :=
  ⟨rfl, rfl, le_rfl, fun _ => .inl rfl⟩

theorem Shrunk.trans {first second third : Aggregator} (h : Shrunk first second)
    (h' : Shrunk second third) : Shrunk first third := by
  refine ⟨h'.maxAgents.trans h.maxAgents, h'.limits.trans h.limits, h'.size_le.trans h.size_le,
    fun sender => ?_⟩
  rcases h'.session sender with hSame | hGone
  · rw [hSame]
    exact h.session sender
  · exact .inr hGone

theorem Shrunk.session_eq {after : Aggregator} (h : Shrunk aggregator after)
    {session : AgentSession} (hAfter : after.agents[sender]? = some session) :
    aggregator.agents[sender]? = some session := by
  rcases h.session sender with hSame | hGone
  · rw [← hSame, hAfter]
  · rw [hGone] at hAfter
    cases hAfter

theorem Sane.shrunk {after : Aggregator} (h : aggregator.Sane) (hShrunk : Shrunk aggregator after) :
    after.Sane := by
  refine ⟨?_, fun sender session hAfter => h.received sender session (hShrunk.session_eq hAfter),
    fun sender session hAfter => h.unreserved sender session (hShrunk.session_eq hAfter)⟩
  rw [hShrunk.maxAgents]
  exact hShrunk.size_le.trans h.size_le

theorem shrunk_prune : Shrunk aggregator (aggregator.pruneStaleAgents nowMs).1 := by
  unfold pruneStaleAgents
  split_ifs
  · exact Shrunk.refl aggregator
  · refine ⟨rfl, rfl, TreeMap.size_filter_le_size, fun sender => ?_⟩
    rw [TreeMap.getElem?_filter]
    cases aggregator.agents[sender]? with
    | none => exact .inl rfl
    | some =>
      rw [Option.pfilter_some]
      split_ifs
      · exact .inl rfl
      · exact .inr rfl

theorem shrunk_erase : Shrunk aggregator
    { aggregator with agents := aggregator.agents.erase sender } :=
  ⟨rfl, rfl, TreeMap.size_erase_le, fun other => by grind⟩

theorem shrunk_readyFor : Shrunk aggregator (aggregator.readyFor sender nowMs) := by
  have hReset : Shrunk aggregator (aggregator.resetStale sender nowMs) := by
    unfold resetStale
    split_ifs
    · exact shrunk_erase
    · exact Shrunk.refl aggregator
  refine hReset.trans ?_
  unfold readyFor makeRoom
  split_ifs
  · exact shrunk_prune
  · exact Shrunk.refl _

/-- A stale reset leaves room for the sender itself. -/
theorem isFullFor_resetStale (h : aggregator.Sane) :
    (aggregator.resetStale sender nowMs).isFullFor sender = aggregator.isFullFor sender := by
  unfold resetStale
  split_ifs with hStale
  · have hSize := h.size_le
    have hMem : sender ∈ aggregator.agents := by
      by_contra hAbsent
      rw [TreeMap.getElem?_eq_none hAbsent] at hStale
      exact absurd hStale.2 Bool.false_ne_true
    have hPos : 0 < aggregator.agents.size := by
      rw [← TreeMap.length_keys]
      exact length_pos_of_mem (TreeMap.mem_keys.mpr hMem)
    unfold isFullFor
    grind
  · rfl

/-- A tracked sender never meets a full aggregator. -/
theorem readyFor_of_tracked (h : aggregator.Sane) {session : AgentSession}
    (hTracked : aggregator.agents[sender]? = some session) :
    (aggregator.readyFor sender nowMs).isFullFor sender = false := by
  have hRoom : (aggregator.resetStale sender nowMs).isFullFor sender = false := by
    rw [isFullFor_resetStale h]
    unfold isFullFor
    grind
  unfold readyFor makeRoom
  rw [if_neg (by simp [hRoom]), hRoom]

/-- What is pruned has expired. -/
theorem session_prune : (aggregator.pruneStaleAgents nowMs).1.agents[sender]? =
    aggregator.agents[sender]?.filter (fun session => !expired aggregator nowMs session) := by
  unfold pruneStaleAgents expired
  split_ifs with hNever
  · rw [decide_eq_false (not_lt.mpr hNever)]
    cases aggregator.agents[sender]? with
    | none => rfl
    | some => rfl
  · rw [decide_eq_true (not_le.mp hNever)]
    simp only [TreeMap.getElem?_filter, Option.pfilter_eq_filter, Bool.true_and]

theorem session_erase {other : String} : (aggregator.agents.erase other)[sender]? =
    aggregator.agents[sender]?.filter (fun _ => !(other == sender)) := by
  grind

/-- What is reset is the sender's own session, and has expired. -/
theorem session_resetStale {other : String} :
    (aggregator.resetStale other nowMs).agents[sender]? = aggregator.agents[sender]?.filter
      (fun session => !(expired aggregator nowMs session && other == sender)) := by
  unfold resetStale expired
  grind

/-- **The sessions that an arrival meets**: those that have expired are gone, if they are of the
sender itself or there is no room for it. -/
theorem session_readyFor (h : aggregator.Sane) (other : String) (nowMs : Int) :
    (aggregator.readyFor other nowMs).agents[sender]? = aggregator.agents[sender]?.filter
      (fun session => !(expired aggregator nowMs session &&
        (other == sender || aggregator.isFullFor other))) := by
  have hExpired : expired (aggregator.resetStale other nowMs) nowMs = expired aggregator nowMs := by
    unfold resetStale
    split_ifs
    · rfl
    · rfl
  unfold readyFor makeRoom
  rw [isFullFor_resetStale h]
  cases aggregator.isFullFor other with
  | false => simp only [Bool.false_eq_true, if_false, session_resetStale, Bool.or_false]
  | true =>
    rw [if_pos rfl, session_prune, session_resetStale, hExpired, Option.filter_filter]
    congr 1
    funext session
    cases expired aggregator nowMs session with
    | false => rfl
    | true =>
      rw [Bool.not_true, Bool.and_false, Bool.or_true]
      rfl

/-- **What an envelope does**, by the place where it is decided: it is refused, it is a duplicate,
or it is taken. -/
theorem ingestEnvelopeAt_cases (envelope : WireEnvelope) (receivedAtMs : Int) :
    (∃ error, validateEnvelopeProtocolWithLimits envelope aggregator.limits = .error error ∧
      aggregator.ingestEnvelopeAt envelope receivedAtMs = aggregator.reject error) ∨
    (validateEnvelopeProtocolWithLimits envelope aggregator.limits = .ok () ∧
      (aggregator.readyFor envelope.sender receivedAtMs).isFullFor envelope.sender ∧
      aggregator.ingestEnvelopeAt envelope receivedAtMs =
        (aggregator.readyFor envelope.sender receivedAtMs).reject
          (.tooManyAgents aggregator.maxAgents envelope.sender)) ∨
    (validateEnvelopeProtocolWithLimits envelope aggregator.limits = .ok () ∧
      (aggregator.readyFor envelope.sender receivedAtMs).isFullFor envelope.sender = false ∧
      aggregator.ingestEnvelopeAt envelope receivedAtMs =
        (aggregator.readyFor envelope.sender receivedAtMs).record envelope receivedAtMs) := by
  unfold ingestEnvelopeAt
  cases hValid : validateEnvelopeProtocolWithLimits envelope aggregator.limits with
  | error error => exact .inl ⟨error, rfl, rfl⟩
  | ok =>
    refine .inr ?_
    by_cases hFull : (aggregator.readyFor envelope.sender receivedAtMs).isFullFor
        envelope.sender
    · exact .inl ⟨rfl, hFull, if_pos hFull⟩
    · exact .inr ⟨rfl, by simpa using hFull, if_neg hFull⟩

/-- A recorded envelope is a duplicate of its session, or the session takes its number. -/
theorem record_cases (envelope : WireEnvelope) (receivedAtMs : Int) :
    (∃ session after, aggregator.agents[envelope.sender]? = some session ∧
      envelope.seq ≤ session.lastSeq ∧ after.lastSeq = session.lastSeq ∧
      after.messagesReceived = session.messagesReceived ∧
      aggregator.record envelope receivedAtMs =
        ({ aggregator with agents := aggregator.agents.insert envelope.sender after },
          .ok (.duplicate envelope.sender envelope.seq))) ∨
    (∃ after total, (∀ session, aggregator.agents[envelope.sender]? = some session →
        0 < session.messagesReceived → session.lastSeq < envelope.seq) ∧
      after.lastSeq = envelope.seq ∧ 0 < after.messagesReceived ∧
      aggregator.record envelope receivedAtMs =
        ({ aggregator with
            agents := aggregator.agents.insert envelope.sender after
            totalAccepted := total },
          .ok (.accepted envelope.payload))) := by
  unfold record
  by_cases hDuplicate : 0 < (aggregator.agents[envelope.sender]?.getD {}).messagesReceived ∧
      envelope.seq ≤ (aggregator.agents[envelope.sender]?.getD {}).lastSeq
  · cases hSession : aggregator.agents[envelope.sender]? with
    | none =>
      rw [hSession] at hDuplicate
      exact absurd hDuplicate.1 (lt_irrefl 0)
    | some session =>
      rw [hSession] at hDuplicate
      refine .inl ⟨session, _, rfl, hDuplicate.2, ?_, ?_, if_pos hDuplicate⟩
      · rfl
      · rfl
  · refine .inr ⟨_, _, ?_, ?_, ?_, if_neg hDuplicate⟩
    · intro session hSession hReceived
      rw [hSession] at hDuplicate
      exact not_le.mp fun hLe => hDuplicate ⟨hReceived, hLe⟩
    · rfl
    · show 0 < saturatingSucc _
      unfold saturatingSucc RustText.u64Max
      omega

/-- A recorded envelope leaves the bounds of the aggregator and its limits. -/
theorem Sane.record (h : aggregator.Sane) {envelope : WireEnvelope}
    (hSeq : envelope.seq ≠ RustText.u64Max) (hRoom : aggregator.isFullFor envelope.sender = false)
    (receivedAtMs : Int) : (aggregator.record envelope receivedAtMs).1.Sane ∧
      (aggregator.record envelope receivedAtMs).1.limits = aggregator.limits ∧
      (aggregator.record envelope receivedAtMs).1.maxAgents = aggregator.maxAgents := by
  have hInsert : ∀ (after : AgentSession), 0 < after.messagesReceived →
      after.lastSeq ≠ RustText.u64Max → ∀ total,
      ({ aggregator with
        agents := aggregator.agents.insert envelope.sender after
        totalAccepted := total } : Aggregator).Sane := by
    intro after _ _ total
    have hSize := h.size_le
    refine ⟨?_, fun sender session hSession => ?_, fun sender session hSession => ?_⟩
    · unfold isFullFor at hRoom
      grind
    · have := h.received sender session
      grind
    · have := h.unreserved sender session
      grind
  rcases aggregator.record_cases envelope receivedAtMs with
    ⟨session, after, hSession, _, hLast, hReceived, hEq⟩ | ⟨after, total, _, hLast, hReceived, hEq⟩
  · rw [hEq]
    refine ⟨hInsert after ?_ ?_ aggregator.totalAccepted, rfl, rfl⟩
    · rw [hReceived]
      exact h.received _ session hSession
    · rw [hLast]
      exact h.unreserved _ session hSession
  · rw [hEq]
    refine ⟨hInsert after hReceived ?_ total, rfl, rfl⟩
    rw [hLast]
    exact hSeq

end Aggregator

/-! ## One event -/

open Aggregator

variable {aggregator : Aggregator}

/-- Every event keeps the bounds, and the bounds' parameters. -/
theorem Sane.step (h : aggregator.Sane) (event : Event) :
    (step aggregator event).Sane ∧ (step aggregator event).limits = aggregator.limits ∧
      (step aggregator event).maxAgents = aggregator.maxAgents := by
  cases event with
  | prune =>
    exact ⟨h.shrunk shrunk_prune, shrunk_prune.limits, shrunk_prune.maxAgents⟩
  | remove => exact ⟨h.shrunk shrunk_erase, rfl, rfl⟩
  | ingest envelope receivedAtMs =>
    have hShrunk := @shrunk_readyFor aggregator envelope.sender receivedAtMs
    have hReady := h.shrunk hShrunk
    rcases aggregator.ingestEnvelopeAt_cases envelope receivedAtMs with
      ⟨error, _, hEq⟩ | ⟨_, _, hEq⟩ | ⟨hValid, hRoom, hEq⟩
    · rw [WireAggregator.step, hEq]
      exact ⟨⟨h.size_le, h.received, h.unreserved⟩, rfl, rfl⟩
    · rw [WireAggregator.step, hEq]
      exact ⟨⟨hReady.size_le, hReady.received, hReady.unreserved⟩, hShrunk.limits,
        hShrunk.maxAgents⟩
    · have hSeq := hValid
      simp only [validateEnvelopeProtocolWithLimits, refuseIf_bind_eq_ok] at hSeq
      obtain ⟨hSane, hLimits, hMax⟩ := hReady.record hSeq.2.1 hRoom receivedAtMs
      rw [WireAggregator.step, hEq]
      exact ⟨hSane, hLimits.trans hShrunk.limits, hMax.trans hShrunk.maxAgents⟩

/-- What is known about the open session of a sender: the numbers that it has taken increase, and
the last of them is stored. -/
structure Tracked (aggregator : Aggregator) (sender : String) (current : List Nat) : Prop where
  increasing : current.Pairwise (· < ·)
  last : ∀ session, aggregator.agents[sender]? = some session →
    current.getLast? = some session.lastSeq
  empty : aggregator.agents[sender]? = none → current = []

variable {sender : String} {current : List Nat}

/-- Sessions may go; the open one is then empty. -/
theorem Tracked.filter {after : Aggregator} (h : Tracked aggregator sender current)
    {gone : AgentSession → Bool} (hAfter : after.agents[sender]? =
      aggregator.agents[sender]?.filter (fun session => !gone session)) :
    Tracked after sender (if aggregator.agents[sender]?.any gone then [] else current) := by
  cases hBefore : aggregator.agents[sender]? with
  | none =>
    rw [hBefore, Option.filter_none] at hAfter
    rw [Option.any_none, if_neg Bool.false_ne_true]
    refine ⟨h.increasing, fun session hSession => ?_, fun _ => h.empty hBefore⟩
    rw [hAfter] at hSession
    cases hSession
  | some session =>
    rw [hBefore] at hAfter
    rw [Option.any_some]
    by_cases hGone : gone session = true
    · rw [Option.filter_some_neg (by simp [hGone])] at hAfter
      rw [if_pos hGone]
      refine ⟨List.Pairwise.nil, fun other hOther => ?_, fun _ => rfl⟩
      rw [hAfter] at hOther
      cases hOther
    · rw [Option.filter_some_pos (by simp [hGone]), ← hBefore] at hAfter
      rw [if_neg hGone]
      exact ⟨h.increasing, fun other hOther => h.last other (hAfter ▸ hOther),
        fun hNone => h.empty (hAfter ▸ hNone)⟩

/-- A recorded envelope of the sender extends the session that it meets. -/
theorem Tracked.record (h : Tracked aggregator sender current) (hSane : aggregator.Sane)
    (envelope : WireEnvelope) (receivedAtMs : Int) :
    Tracked (aggregator.record envelope receivedAtMs).1 sender
      (current ++ match (aggregator.record envelope receivedAtMs).2 with
        | .ok (.accepted _) => if envelope.sender = sender then [envelope.seq] else []
        | _ => []) := by
  have hOther : envelope.sender ≠ sender → ∀ (after : AgentSession) total, Tracked
      { aggregator with
        agents := aggregator.agents.insert envelope.sender after
        totalAccepted := total } sender current := by
    intro _ after total
    have hSame : (aggregator.agents.insert envelope.sender after)[sender]? =
        aggregator.agents[sender]? := by grind
    exact ⟨h.increasing, fun session hSession => h.last session (hSame ▸ hSession),
      fun hNone => h.empty (hSame ▸ hNone)⟩
  rcases aggregator.record_cases envelope receivedAtMs with
    ⟨session, after, hSession, _, hLast, _, hEq⟩ | ⟨after, total, hNew, hLast, _, hEq⟩
  · rw [hEq]
    simp only [append_nil]
    by_cases hSender : envelope.sender = sender
    · subst hSender
      refine ⟨h.increasing, fun other hSome => ?_, fun hNone => by grind⟩
      have hAfter : other = after := by grind
      rw [h.last session hSession, hAfter, hLast]
    · exact hOther hSender after aggregator.totalAccepted
  · rw [hEq]
    by_cases hSender : envelope.sender = sender
    · subst hSender
      simp only [if_true]
      -- The numbers taken so far are below the stored one, and the new number is above it.
      have hBelow : ∀ seq ∈ current, seq < envelope.seq := by
        intro seq hSeq
        cases hSession : aggregator.agents[envelope.sender]? with
        | none =>
          rw [h.empty hSession] at hSeq
          cases hSeq
        | some session =>
          have hAbove := hNew session hSession (hSane.received _ session hSession)
          have hStored := h.last session hSession
          obtain ⟨front, rfl⟩ := getLast?_eq_some_iff.mp hStored
          rcases mem_append.mp hSeq with hFront | hEnd
          · have := (pairwise_append.mp h.increasing).2.2 seq hFront session.lastSeq
              (by simp)
            omega
          · have : seq = session.lastSeq := by simpa using hEnd
            omega
      refine ⟨?_, fun other hSome => ?_, fun hNone => by grind⟩
      · rw [pairwise_append]
        refine ⟨h.increasing, pairwise_singleton _ _, fun a ha b hb => ?_⟩
        have hb : b = envelope.seq := by simpa using hb
        rw [hb]
        exact hBelow a ha
      · have hAfter : other = after := by grind
        rw [getLast?_append, hAfter, hLast]
        rfl
    · simp only [if_neg hSender, append_nil]
      exact hOther hSender after total

/-- **Every event keeps what is known about a sender's session.** -/
theorem Tracked.step (h : Tracked aggregator sender current) (hSane : aggregator.Sane)
    (event : Event) :
    Tracked (step aggregator event) sender
      ((if removes aggregator event sender then [] else current) ++
        taken aggregator event sender) := by
  cases event with
  | prune nowMs =>
    simp only [taken, append_nil]
    exact h.filter session_prune
  | remove other =>
    simp only [taken, append_nil]
    exact h.filter session_erase
  | ingest envelope receivedAtMs =>
    have hReady := h.filter (session_readyFor hSane envelope.sender receivedAtMs)
    rcases aggregator.ingestEnvelopeAt_cases envelope receivedAtMs with
      ⟨error, hInvalid, hEq⟩ | ⟨hValid, _, hEq⟩ | ⟨hValid, _, hEq⟩
    · have hKept : removes aggregator (.ingest envelope receivedAtMs) sender = false := by
        simp only [removes, hInvalid, Except.isOk, Except.toBool, Bool.false_and, Option.any_false]
      simp only [WireAggregator.step, taken, hEq, hKept, Aggregator.reject, Bool.false_eq_true,
        if_false, append_nil]
      exact ⟨h.increasing, h.last, h.empty⟩
    · simp only [WireAggregator.step, taken, hEq, removes, hValid, Aggregator.reject,
        append_nil]
      exact ⟨hReady.increasing, hReady.last, hReady.empty⟩
    · have hShrunk := @shrunk_readyFor aggregator envelope.sender receivedAtMs
      have := hReady.record (hSane.shrunk hShrunk) envelope receivedAtMs
      simpa only [WireAggregator.step, taken, hEq, removes, hValid, Except.isOk, Except.toBool,
        Bool.true_and] using this

/-! ## Whole runs -/

theorem Sane.run (h : aggregator.Sane) (events : List Event) :
    (run aggregator events).Sane ∧ (run aggregator events).limits = aggregator.limits ∧
      (run aggregator events).maxAgents = aggregator.maxAgents := by
  induction events generalizing aggregator with
  | nil => exact ⟨h, rfl, rfl⟩
  | cons event _ ih =>
    obtain ⟨hSane, hLimits, hMax⟩ := Sane.step h event
    obtain ⟨hRun, hRunLimits, hRunMax⟩ := ih hSane
    exact ⟨hRun, hRunLimits.trans hLimits, hRunMax.trans hMax⟩

/-- The numbers of every session of a run increase. -/
theorem Tracked.run (h : Tracked aggregator sender current) (hSane : aggregator.Sane)
    (events : List Event) :
    ∀ session ∈ sessionsFrom sender aggregator current events, session.Pairwise (· < ·) := by
  induction events generalizing aggregator current with
  | nil =>
    intro session hSession
    rw [mem_singleton.mp hSession]
    exact h.increasing
  | cons event _ ih =>
    have hStep := h.step hSane event
    have hNext := (Sane.step hSane event).1
    intro session hSession
    rw [sessionsFrom] at hSession
    by_cases hRemoved : removes aggregator event sender
    · rw [if_pos hRemoved, nil_append] at hStep
      rw [if_pos hRemoved] at hSession
      rcases mem_cons.mp hSession with rfl | hLater
      · exact h.increasing
      · exact ih hStep hNext session hLater
    · rw [if_neg hRemoved] at hStep hSession
      exact ih hStep hNext session hSession

/-- A valid envelope of a tracked sender is taken, or it is a duplicate that leaves the number and
the count of the session. -/
theorem answer_of_tracked (h : aggregator.Sane) {envelope : WireEnvelope} {session : AgentSession}
    (hValid : validateEnvelopeProtocolWithLimits envelope aggregator.limits = .ok ())
    (hTracked : aggregator.agents[envelope.sender]? = some session) (receivedAtMs : Int) :
    (aggregator.ingestEnvelopeAt envelope receivedAtMs).2 = .ok (.accepted envelope.payload) ∨
      ((aggregator.ingestEnvelopeAt envelope receivedAtMs).2 =
          .ok (.duplicate envelope.sender envelope.seq) ∧
        ∃ after, (aggregator.ingestEnvelopeAt envelope receivedAtMs).1.agents[envelope.sender]? =
            some after ∧
          after.lastSeq = session.lastSeq ∧
          after.messagesReceived = session.messagesReceived) := by
  have hRoom := @readyFor_of_tracked aggregator envelope.sender receivedAtMs h session hTracked
  rcases aggregator.ingestEnvelopeAt_cases envelope receivedAtMs with
    ⟨error, hInvalid, _⟩ | ⟨_, hFull, _⟩ | ⟨_, _, hEq⟩
  · rw [hValid] at hInvalid
    cases hInvalid
  · rw [hRoom] at hFull
    cases hFull
  · rw [hEq]
    rcases Aggregator.record_cases envelope receivedAtMs with
      ⟨stored, after, hStored, _, hLast, hReceived, hRecord⟩ | ⟨after, total, _, _, _, hRecord⟩
    · rw [hRecord]
      have hSame : stored = session := by
        rcases (@shrunk_readyFor aggregator envelope.sender receivedAtMs).session envelope.sender
          with hKept | hGone
        · rw [hKept, hTracked] at hStored
          exact (Option.some.inj hStored).symm
        · rw [hGone] at hStored
          cases hStored
      subst hSame
      exact .inr ⟨rfl, after, by grind, hLast, hReceived⟩
    · rw [hRecord]
      exact .inl rfl

/-- **Duplicates over whole runs.**  Whatever envelopes arrive at whatever times, with sessions
pruned and removed in between: the numbers that a session takes increase strictly, every other valid
envelope of a tracked sender is a duplicate and leaves the session's number and count, the reserved
number is never stored, and there are never more sessions than allowed. -/
theorem sessions_dedup (maxAgents : Nat) (limits : WireProtocolLimits) (staleAfterMs : Int)
    (events : List Event) :
    let start := Aggregator.withLimitsAndStaleAfter maxAgents limits staleAfterMs
    let reached := run start events
    (∀ sender, ∀ session ∈ sessions sender start events, session.Pairwise (· < ·)) ∧
      (∀ (envelope : WireEnvelope) (receivedAtMs : Int) (session : AgentSession),
        validateEnvelopeProtocolWithLimits envelope limits = .ok () →
        reached.agents[envelope.sender]? = some session →
        (reached.ingestEnvelopeAt envelope receivedAtMs).2 = .ok (.accepted envelope.payload) ∨
          ((reached.ingestEnvelopeAt envelope receivedAtMs).2 =
              .ok (.duplicate envelope.sender envelope.seq) ∧
            ∃ after, (reached.ingestEnvelopeAt envelope receivedAtMs).1.agents[envelope.sender]? =
                some after ∧
              after.lastSeq = session.lastSeq ∧
              after.messagesReceived = session.messagesReceived)) ∧
      (∀ (sender : String) (session : AgentSession), reached.agents[sender]? = some session →
        session.lastSeq ≠ RustText.u64Max) ∧
      reached.agents.size ≤ maxAgents := by
  intro start reached
  have hNone : ∀ (sender : String) session, start.agents[sender]? ≠ some session := by
    intro sender session h
    have hEmpty : start.agents[sender]? = none := TreeMap.getElem?_emptyc
    cases h
  have hStart : start.Sane :=
    ⟨Nat.zero_le _, fun sender session h => absurd h (hNone sender session),
      fun sender session h => absurd h (hNone sender session)⟩
  obtain ⟨hReached, hLimits, hMax⟩ := Sane.run hStart events
  refine ⟨fun sender => ?_, fun envelope receivedAtMs session hValid hTracked => ?_,
    hReached.unreserved, hReached.size_le.trans_eq hMax⟩
  · have hFresh : Tracked start sender [] :=
      ⟨List.Pairwise.nil, fun session h => absurd h (hNone sender session), fun _ => rfl⟩
    exact hFresh.run hStart events
  · exact answer_of_tracked hReached (hLimits ▸ hValid) hTracked receivedAtMs

end FrankenTerm.Ports.WireAggregator
