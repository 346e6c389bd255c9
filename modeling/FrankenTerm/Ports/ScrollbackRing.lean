import FrankenTerm.Verified.Check
import FrankenTerm.Verified.Records
import FrankenTerm.Verified.TornFile

/-!
# The file of the scrollback ring

`scrollback_mmap_writer.rs` keeps the scrollback of a pane in a file of fixed length: 256 bytes of
header, and behind it the ring of records.  The first 64 bytes of the header never change.  Behind 24
bytes of telemetry there are two state slots, each with a checksum; a state says where the retained
records lie, and how they are numbered.  A record has a header of 64 bytes with its length, its kind,
its generation, its sequence number and a digest over all of this and the payload.

This module has the formats and the reader.  `sha256` is a parameter.  The legacy files, which have
no state slots, are not part of the model; `read_linear_records_from_file` tells them by their flags
(`legacyV1`).
-/

namespace FrankenTerm.Ports.ScrollbackRing

open Verified Verified.Check Verified.Records Verified.TornFile

/-- The hash of the slots and records. -/
structure Sha256 where
  digest : List UInt8 → List UInt8
  length_digest : ∀ bytes, (digest bytes).length = 32

def headerSize : Nat := 256
def hardMaxLinearRecordFileBytes : Nat := 1024 * 1024 * 1024
def hardMaxLinearRecords : Nat := 1048576
def maxCapBytes : Nat := hardMaxLinearRecordFileBytes - headerSize
def v2RingFlag : Nat := 0x8000
def v2StateSlotVersion : Nat := 2
def v2StateSlotSize : Nat := 64
def v2StateSlotsOffset : Nat := 88
def v2RecordHeaderSize : Nat := 64

/-- The largest `u64`. -/
def u64Max : Nat := 2 ^ 64 - 1

/-- The bytes of an ASCII text. -/
def ascii (text : String) : List UInt8 := text.toList.map fun c => UInt8.ofNat c.toNat

def fileMagic : List UInt8 := [0x46, 0x54, 0x53, 0x42]
def v2StateSlotMagic : List UInt8 := [0x46, 0x54, 0x53, 0x32]
def v2RecordMagic : List UInt8 := [0x46, 0x54, 0x52, 0x32]
def v2StateHashDomain : List UInt8 := ascii "frankenterm.scrollback.v2.state" ++ [0]
def v2RecordHashDomain : List UInt8 := ascii "frankenterm.scrollback.v2.record" ++ [0]

/-- `bytes[start..stop]`. -/
def slice (bytes : List UInt8) (start stop : Nat) : List UInt8 :=
  (bytes.drop start).take (stop - start)

/-- `MmapScrollbackError`, as far as the ring returns it. -/
inductive MmapScrollbackError where
  | capTooSmall (minimum actual : Nat)
  | capTooLarge (maximum actual : Nat)
  | recordTooLarge (payloadBytes capacityBytes : Nat)
  | v2Integrity (reason : String)
  | readLimitExceeded (limitName : String) (limit observed : Nat)
  | truncatedHeader (actual : Nat)
  | badMagic
  | unknownVersion (observed : Nat)
  | cursorBeyondCapacity (cursor capacity : Nat)
  | existingFileShapeMismatch (expectedFileBytes actualFileBytes : Nat)
  | unsafeReadSource (reason : String)
  | legacyV1
deriving DecidableEq, Repr

/-- The reader stops at a limit. -/
def MmapScrollbackError.isReadLimit : MmapScrollbackError → Bool
  | .readLimitExceeded _ _ _ => true
  | _ => false

/-! ## The header -/

/-- `RecordKind`. -/
inductive RecordKind where
  | text
  | osc
  | csi
  | cursor
  | clear
deriving DecidableEq, Repr

/-- `RecordKind::as_u8`. -/
def RecordKind.asU8 : RecordKind → UInt8
  | text => 1
  | osc => 2
  | csi => 3
  | cursor => 4
  | clear => 5

/-- `RecordKind::from_u8`. -/
def RecordKind.fromU8 (raw : UInt8) : Option RecordKind :=
  if raw = 1 then some text
  else if raw = 2 then some osc
  else if raw = 3 then some csi
  else if raw = 4 then some cursor
  else if raw = 5 then some clear
  else none

/-- `ScrollbackHeader`; the only version is the first. -/
structure ScrollbackHeader where
  flags : Nat
  capacityBytes : Nat
  writeCursorBytes : Nat
  paneUuid : List UInt8
  createdAtEpochMs : Nat
  lastMsyncAtEpochMs : Nat
  redactionsApplied : Nat
  totalBytesWritten : Nat
deriving DecidableEq, Repr

namespace ScrollbackHeader

/-- The part of the header that never changes. -/
def encodeIdentity (header : ScrollbackHeader) : List UInt8 :=
  fileMagic ++ leBytes 2 1 ++ leBytes 2 header.flags ++ leBytes 8 header.capacityBytes ++
    leBytes 8 header.writeCursorBytes ++ header.paneUuid ++ leBytes 8 header.createdAtEpochMs

/-- The telemetry in the header. -/
def encodeTelemetry (header : ScrollbackHeader) : List UInt8 :=
  leBytes 8 header.lastMsyncAtEpochMs ++ leBytes 8 header.redactionsApplied ++
    leBytes 8 header.totalBytesWritten

/-- `ScrollbackHeader::encode`. -/
def encode (header : ScrollbackHeader) : List UInt8 :=
  header.encodeIdentity ++ header.encodeTelemetry ++ List.replicate 168 0

/-- The fields of a header. -/
def fields (bytes : List UInt8) : ScrollbackHeader where
  flags := leNat (slice bytes 6 8)
  capacityBytes := leNat (slice bytes 8 16)
  writeCursorBytes := leNat (slice bytes 16 24)
  paneUuid := slice bytes 24 56
  createdAtEpochMs := leNat (slice bytes 56 64)
  lastMsyncAtEpochMs := leNat (slice bytes 64 72)
  redactionsApplied := leNat (slice bytes 72 80)
  totalBytesWritten := leNat (slice bytes 80 88)

/-- `ScrollbackHeader::decode`. -/
def decode (bytes : List UInt8) : Except MmapScrollbackError ScrollbackHeader := do
  refuseIf (bytes.length < headerSize) (.truncatedHeader bytes.length)
  refuseIf (slice bytes 0 4 ≠ fileMagic) .badMagic
  refuseIf (leNat (slice bytes 4 6) ≠ 1) (.unknownVersion (leNat (slice bytes 4 6)))
  refuseIf ((fields bytes).capacityBytes < (fields bytes).writeCursorBytes)
    (.cursorBeyondCapacity (fields bytes).writeCursorBytes (fields bytes).capacityBytes)
  return fields bytes

end ScrollbackHeader

section

variable (sha : Sha256) (file : Bytes) (baseHeader : List UInt8) (state : V2RingState)

/-- `encode_v2_base_header`: the cursor of the first version stays zero on disk. -/
def encodeV2BaseHeader (header : ScrollbackHeader) : List UInt8 :=
  { header with writeCursorBytes := 0 }.encode

/-! ## State slots -/

/-- `V2RingState`. -/
structure V2RingState where
  slotEpoch : Nat
  head : Nat
  tail : Nat
  wrapAt : Nat
  generation : Nat
  nextSequence : Nat
  recordCount : Nat
deriving DecidableEq, Repr

/-- `V2RingState::fresh`. -/
def V2RingState.fresh (capacityBytes : Nat) : V2RingState where
  slotEpoch := 1
  head := 0
  tail := 0
  wrapAt := capacityBytes
  generation := 0
  nextSequence := 0
  recordCount := 0

/-- `v2_state_checksum`. -/
def v2StateChecksum (statePart : List UInt8) : List UInt8 :=
  (sha.digest (v2StateHashDomain ++ baseHeader.take 64 ++ statePart)).take 16

/-- A state slot up to its checksum. -/
def encodeV2State : List UInt8 :=
  v2StateSlotMagic ++ leBytes 2 v2StateSlotVersion ++ leBytes 2 0 ++ leBytes 8 state.slotEpoch ++
    leBytes 4 state.head ++ leBytes 4 state.tail ++ leBytes 4 state.wrapAt ++
    leBytes 4 state.recordCount ++ leBytes 8 state.generation ++ leBytes 8 state.nextSequence

/-- `encode_v2_state_slot`. -/
def encodeV2StateSlot : List UInt8 :=
  encodeV2State state ++ v2StateChecksum sha baseHeader (encodeV2State state)

/-- `V2SlotObservation`. -/
inductive V2SlotObservation where
  | empty
  | valid (state : V2RingState)
  | invalid
deriving DecidableEq, Repr

/-- The state in a slot whose checksum is right. -/
def decodeV2State (slot : List UInt8) : V2RingState where
  slotEpoch := leNat (slice slot 8 16)
  head := leNat (slice slot 16 20)
  tail := leNat (slice slot 20 24)
  wrapAt := leNat (slice slot 24 28)
  recordCount := leNat (slice slot 28 32)
  generation := leNat (slice slot 32 40)
  nextSequence := leNat (slice slot 40 48)

/-- Where a slot starts. -/
def slotOffset (index : Nat) : Nat := v2StateSlotsOffset + index * v2StateSlotSize

/-- `observe_v2_state_slot`, of the bytes of the slot. -/
def observeSlotBytes (slot : List UInt8) : V2SlotObservation :=
  if slot.all (· == 0) then .empty
  else if slice slot 0 4 ≠ v2StateSlotMagic ∨ leNat (slice slot 4 6) ≠ v2StateSlotVersion ∨
      leNat (slice slot 6 8) ≠ 0 then .invalid
  else if slice slot 48 64 ≠ v2StateChecksum sha baseHeader (slice slot 0 48) then .invalid
  else .valid (decodeV2State slot)

/-- `observe_v2_state_slot`. -/
def observeV2StateSlot (index : Nat) : V2SlotObservation :=
  observeSlotBytes sha baseHeader
    (slice baseHeader (slotOffset index) (slotOffset index + v2StateSlotSize))

/-- The state in a slot, with the slot. -/
def slotCandidate (headerBytes : List UInt8) (index : Nat) : Option (V2RingState × Nat) :=
  match observeV2StateSlot sha headerBytes index with
  | .valid state => some (state, index)
  | _ => none

/-- `v2_slot_candidates`: the states, the newest first, and whether a slot is torn. -/
def v2SlotCandidates (headerBytes : List UInt8) : List (V2RingState × Nat) × Bool :=
  (([0, 1].filterMap (slotCandidate sha headerBytes)).insertionSort fun a b =>
      b.1.slotEpoch ≤ a.1.slotEpoch,
    [0, 1].any fun index => observeV2StateSlot sha headerBytes index == .invalid)

/-- Two states with the same epoch. -/
def ambiguousEpoch : List (V2RingState × Nat) → Bool
  | [a, b] => a.1.slotEpoch == b.1.slotEpoch
  | _ => false

/-! ## Records -/

/-- `V2RecordMeta`. -/
structure V2RecordMeta where
  totalLen : Nat
  payloadLen : Nat
  generation : Nat
  sequence : Nat
deriving DecidableEq, Repr

/-- `v2_record_digest`. -/
def v2RecordDigest (paneUuid : List UInt8) (kind : RecordKind)
    (payloadLen generation sequence : Nat) (payload : List UInt8) : List UInt8 :=
  sha.digest (v2RecordHashDomain ++ paneUuid ++ [kind.asU8] ++ leBytes 4 payloadLen ++
    leBytes 8 generation ++ leBytes 8 sequence ++ payload)

/-- A record header up to its digest. -/
def encodeV2RecordFields (kind : RecordKind) (payloadLen generation sequence : Nat) : List UInt8 :=
  v2RecordMagic ++ leBytes 4 payloadLen ++ [kind.asU8] ++ List.replicate 7 0 ++
    leBytes 8 generation ++ leBytes 8 sequence

/-- `encode_v2_record_header`. -/
def encodeV2RecordHeader (paneUuid : List UInt8) (kind : RecordKind)
    (payloadLen generation sequence : Nat) (payload : List UInt8) : List UInt8 :=
  encodeV2RecordFields kind payloadLen generation sequence ++
    v2RecordDigest sha paneUuid kind payloadLen generation sequence payload

/-- A record of the ring. -/
structure RingRecord where
  kind : RecordKind
  payload : List UInt8
  generation : Nat
  sequence : Nat
deriving DecidableEq, Repr

/-- What a reader gets of a record. -/
def RingRecord.content (record : RingRecord) : RecordKind × List UInt8 :=
  (record.kind, record.payload)

/-- The length of a record in the ring. -/
def RingRecord.len (record : RingRecord) : Nat := v2RecordHeaderSize + record.payload.length

/-- The header of a record. -/
def RingRecord.header (paneUuid : List UInt8) (record : RingRecord) : List UInt8 :=
  encodeV2RecordHeader sha paneUuid record.kind record.payload.length record.generation
    record.sequence record.payload

/-- `read_v2_record_verified`. -/
def readV2RecordVerified (header : ScrollbackHeader)
    (bodyOffset capacityBytes maxPayloadBytes : Nat) :
    Except MmapScrollbackError (RecordKind × List UInt8 × V2RecordMeta) := do
  refuseIf (capacityBytes < bodyOffset + v2RecordHeaderSize)
    (.v2Integrity "v2 record header crosses the ring boundary")
  let bytes := readAt file (headerSize + bodyOffset) v2RecordHeaderSize
  refuseIf (slice bytes 0 4 ≠ v2RecordMagic ∨ (slice bytes 9 16).all (· == 0) = false)
    (.v2Integrity "v2 record marker or reserved bytes are invalid")
  let payloadLen := leNat (slice bytes 4 8)
  refuseIf (maxPayloadBytes < payloadLen)
    (.readLimitExceeded "payload_bytes" maxPayloadBytes payloadLen)
  let totalLen := v2RecordHeaderSize + payloadLen
  refuseIf (capacityBytes < bodyOffset + totalLen)
    (.v2Integrity "v2 record payload crosses the ring boundary")
  let kind ← okOr (RecordKind.fromU8 (bytes.getD 8 0)) (.v2Integrity "v2 record kind is unknown")
  let generation := leNat (slice bytes 16 24)
  let sequence := leNat (slice bytes 24 32)
  let payload := readAt file (headerSize + bodyOffset + v2RecordHeaderSize) payloadLen
  refuseIf (slice bytes 32 64 ≠
      v2RecordDigest sha header.paneUuid kind payloadLen generation sequence payload)
    (.v2Integrity "v2 record digest mismatch")
  refuseIf (2 ^ 32 ≤ totalLen) (.v2Integrity "v2 record length does not fit its format")
  return (kind, payload, ⟨totalLen, payloadLen, generation, sequence⟩)

/-! ## Reading -/

/-- `LinearRecordReadLimits`, as far as the ring reads it. -/
structure LinearRecordReadLimits where
  maxRecords : Nat
  maxPayloadBytes : Nat

/-- `validate_v2_state_shape`. -/
def validateV2StateShape (capacityBytes : Nat) : Except MmapScrollbackError Unit := do
  refuseIf (2 ^ 32 ≤ capacityBytes) (.v2Integrity "v2 capacity does not fit ring offsets")
  refuseIf (capacityBytes ≤ state.head ∨ capacityBytes ≤ state.tail ∨ capacityBytes < state.wrapAt)
    (.v2Integrity "v2 state offset lies outside the ring")
  if state.recordCount = 0 then
    refuseIf (state.head ≠ state.tail ∨ state.wrapAt ≠ capacityBytes)
      (.v2Integrity "empty v2 state has inconsistent head, tail, or wrap boundary")
  else do
    refuseIf (state.nextSequence < state.recordCount)
      (.v2Integrity "v2 retained count exceeds the next sequence")
    if state.tail < state.head then
      refuseIf (state.wrapAt < state.head ∨ capacityBytes < state.wrapAt)
        (.v2Integrity "wrapped v2 state has an invalid wrap boundary")
    else if state.head < state.tail ∧ state.wrapAt ≠ capacityBytes then
      .error (.v2Integrity "linear v2 state unexpectedly retains a wrap boundary")
    else
      refuseIf (state.tail = state.head ∧ state.wrapAt < state.head)
        (.v2Integrity "full v2 state has an invalid wrap boundary")

/-- What `decode_v2_records_for_state` keeps while it walks along the records. -/
structure Walk where
  cursor : Nat
  records : List (RecordKind × List UInt8) := []
  payloadBytes : Nat := 0
  usedBytes : Nat := 0
  wrapped : Bool := false
  previousGeneration : Option Nat := none

/-- The walk goes on at the front. -/
def Walk.turn (walk : Walk) : Walk := { walk with cursor := 0, wrapped := true }

/-- Before a record: the walk may stand at the wrap. -/
def enterRecord (walk : Walk) : Except MmapScrollbackError Walk :=
  if walk.cursor = state.wrapAt ∧ walk.cursor ≠ 0 then
    if walk.wrapped then .error (.v2Integrity "v2 retained interval wraps more than once")
    else .ok walk.turn
  else .ok walk

/-- Behind a record: the walk may have reached the wrap or the end. -/
def leaveRecord (capacityBytes : Nat) (more : Bool) (walk : Walk) :
    Except MmapScrollbackError Walk :=
  if (walk.cursor = state.wrapAt ∧ state.wrapAt ≠ 0) ∨ walk.cursor = capacityBytes then
    if more && walk.wrapped then .error (.v2Integrity "v2 retained interval wraps more than once")
    else .ok walk.turn
  else .ok walk

/-- The checks of a record that has been read, and the walk behind it. -/
def acceptRecord (header : ScrollbackHeader) (state : V2RingState) (firstSequence index : Nat)
    (walk : Walk) (record : RecordKind × List UInt8 × V2RecordMeta) :
    Except MmapScrollbackError Walk := do
  let (kind, payload, found) := record
  refuseIf (found.sequence ≠ firstSequence + index ∨ state.generation < found.generation)
    (.v2Integrity "v2 record sequence or generation is inconsistent with state")
  refuseIf (walk.previousGeneration.any (fun previous => found.generation < previous) = true)
    (.v2Integrity "v2 record generations are not monotone")
  refuseIf (header.capacityBytes < walk.usedBytes + found.totalLen)
    (.v2Integrity "v2 retained records exceed ring capacity")
  leaveRecord state header.capacityBytes (decide (index + 1 < state.recordCount))
    { cursor := walk.cursor + found.totalLen
      records := walk.records ++ [(kind, payload)]
      payloadBytes := walk.payloadBytes + found.payloadLen
      usedBytes := walk.usedBytes + found.totalLen
      wrapped := walk.wrapped
      previousGeneration := some found.generation }

/-- One record of the walk. -/
def walkRecord (header : ScrollbackHeader) (state : V2RingState) (limits : LinearRecordReadLimits)
    (firstSequence index : Nat) (walk : Walk) :
    Except MmapScrollbackError Walk := do
  let walk ← enterRecord state walk
  let record ← readV2RecordVerified sha file header walk.cursor header.capacityBytes
    (limits.maxPayloadBytes - walk.payloadBytes)
  acceptRecord header state firstSequence index walk record

/-- The rest of the walk, from a record on. -/
def walkRecords (sha : Sha256) (file : Bytes) (header : ScrollbackHeader) (state : V2RingState)
    (limits : LinearRecordReadLimits) (firstSequence : Nat) :
    (remaining index : Nat) → Walk → Except MmapScrollbackError Walk
  | 0, _, walk => .ok walk
  | remaining + 1, index, walk => do
    let walk ← walkRecord sha file header state limits firstSequence index walk
    walkRecords sha file header state limits firstSequence remaining (index + 1) walk

/-- `DecodedV2Records`. -/
structure DecodedV2Records where
  records : List (RecordKind × List UInt8)
  payloadBytes : Nat
  usedBytes : Nat

/-- `decode_v2_records_for_state`, which always collects the records here. -/
def decodeV2RecordsForState (header : ScrollbackHeader) (state : V2RingState)
    (limits : LinearRecordReadLimits) :
    Except MmapScrollbackError DecodedV2Records := do
  validateV2StateShape state header.capacityBytes
  refuseIf (limits.maxRecords < state.recordCount)
    (.readLimitExceeded "records" limits.maxRecords state.recordCount)
  refuseIf (state.nextSequence < state.recordCount)
    (.v2Integrity "v2 sequence/count accounting underflow")
  let walk ← walkRecords sha file header state limits (state.nextSequence - state.recordCount)
    state.recordCount 0 { cursor := state.head }
  refuseIf (walk.cursor ≠ state.tail)
    (.v2Integrity "v2 retained records do not terminate at the published tail")
  return ⟨walk.records, walk.payloadBytes, walk.usedBytes⟩

/-- `LinearRecordCompleteness`; the only reason in a ring is an invalid newer state. -/
inductive LinearRecordCompleteness where
  | complete
  | incomplete (decodedCursorBytes declaredCursorBytes : Nat)
deriving DecidableEq, Repr

/-- `LinearRecordSnapshot`, without the identity of the file. -/
structure LinearRecordSnapshot where
  header : ScrollbackHeader
  records : List (RecordKind × List UInt8)
  payloadBytes : Nat
  completeness : LinearRecordCompleteness
deriving DecidableEq, Repr

/-- The states of the slots one after the other, in `read_linear_records_from_file`. -/
def readCandidates (sha : Sha256) (file : Bytes) (header : ScrollbackHeader)
    (limits : LinearRecordReadLimits) :
    (rejectedNewerState : Bool) → (rejectedTail : Option Nat) →
    (lastError : Option MmapScrollbackError) → List (V2RingState × Nat) →
    Except MmapScrollbackError LinearRecordSnapshot
  | _, _, lastError, [] =>
    .error (lastError.getD
      (.v2Integrity "no v2 state slot references a valid retained interval"))
  | rejectedNewerState, rejectedTail, _, (state, _) :: rest =>
    match decodeV2RecordsForState sha file header state limits with
    | .ok decoded => .ok
        { header := { header with writeCursorBytes := state.tail }
          records := decoded.records
          payloadBytes := decoded.payloadBytes
          completeness := if rejectedNewerState then
              .incomplete state.tail (rejectedTail.getD header.capacityBytes)
            else .complete }
    | .error error =>
      if error.isReadLimit then .error error
      else readCandidates sha file header limits true (some state.tail) (some error) rest

/-- `read_linear_records_from_file`, of a file with state slots. -/
def readLinearRecordsFromFile (fileLen : Nat) (limits : LinearRecordReadLimits) :
    Except MmapScrollbackError LinearRecordSnapshot := do
  refuseIf (fileLen < headerSize) (.truncatedHeader fileLen)
  let headerBytes := readAt file 0 headerSize
  let header ← ScrollbackHeader.decode headerBytes
  refuseIf (header.flags &&& v2RingFlag = 0) .legacyV1
  refuseIf (header.flags ≠ v2RingFlag ∨ header.writeCursorBytes ≠ 0)
    (.v2Integrity "v2 outer header fields are not canonical")
  refuseIf (fileLen ≠ headerSize + header.capacityBytes)
    (.v2Integrity "v2 physical length does not match its declared capacity")
  let candidates := v2SlotCandidates sha headerBytes
  refuseIf (candidates.1 = []) (.v2Integrity "v2 has no authenticated state slot")
  refuseIf (ambiguousEpoch candidates.1 = true)
    (.v2Integrity "v2 state slots have an ambiguous epoch")
  readCandidates sha file header limits candidates.2 none none candidates.1

end

end FrankenTerm.Ports.ScrollbackRing
