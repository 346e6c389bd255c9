import FrankenTerm.Ports.ScrollbackRing

/-!
# The writer of the scrollback ring

`MmapScrollback` appends records to the ring of a pane.  It plans where the record goes and which of
the oldest records have to go for it (`plan_append_position`).  Where records have to go, it publishes
the state without them and syncs, before their bytes are used again.  Then it writes the record and
publishes the state with it.  A publication goes to the slot that does not hold the last synced state:
`state_slot_dirty` says that the active slot has been written since the last sync, and such a slot is
written again.

File operations succeed in this model.  What is done to the file is kept in `ops`, with the purpose of
each write, and `file` is what a reader of the file sees.  The clock and the elapsed sync interval are
inputs of a call.  Locks, paths and the identity of the file are left out, and with failing file
operations the repair of a state slot.
-/

namespace FrankenTerm.Ports.ScrollbackRing

open Verified Verified.Check Verified.Records Verified.TornFile

/-- What a write is for: the header with the first state in slot 0, a state slot, the header of a
record, its payload, or the telemetry. -/
inductive WriteTag where
  | header (state : V2RingState)
  | slot (index : Nat) (state : V2RingState)
  | record (record : RingRecord)
  | payload
  | telemetry
deriving DecidableEq, Repr

/-- What is done to the file of the ring. -/
abbrev RingOp := FileOp WriteTag

/-- `MmapScrollback`. -/
structure MmapScrollback where
  file : Bytes
  ops : List RingOp
  header : ScrollbackHeader
  appendsSinceSync : Nat
  syncEveryAppends : Nat
  v2State : V2RingState
  activeStateSlot : Nat
  stateSlotDirty : Bool
  usedBytes : Nat

/-- `MmapAppendReport`, without the evidence of the redaction. -/
structure MmapAppendReport where
  recordKind : RecordKind
  payloadBytes : Nat
  writeCursorBytes : Nat
  synced : Bool
deriving DecidableEq, Repr

/-- The clock during an append: the two times at which it may sync, and whether the sync interval
has elapsed. -/
structure Clock where
  evictionMs : Nat := 0
  dueMs : Nat := 0
  intervalElapsed : Bool := false

def hardMaxLinearRecordPayloadBytes : Nat := 1024 * 1024 * 1024

/-- `normalize_cap_bytes`. -/
def normalizeCapBytes (capBytes : Nat) : Except MmapScrollbackError Nat :=
  if capBytes < v2RecordHeaderSize + 1 then .error (.capTooSmall (v2RecordHeaderSize + 1) capBytes)
  else if maxCapBytes < capBytes then .error (.capTooLarge maxCapBytes capBytes)
  else .ok capBytes

/-- `fit_payload_to_capacity`: the last bytes of a payload that is too long. -/
def fitPayloadToCapacity (payload : List UInt8) (capacityBytes : Nat) :
    Except MmapScrollbackError (List UInt8) :=
  if capacityBytes - v2RecordHeaderSize = 0 then
    .error (.capTooSmall (v2RecordHeaderSize + 1) capacityBytes)
  else .ok (payload.drop (payload.length - (capacityBytes - v2RecordHeaderSize)))

namespace MmapScrollback

section

variable (capacityBytes : Nat) (sha : Sha256) (w : MmapScrollback) (state : V2RingState)

/-- One write. -/
def write (w : MmapScrollback) (tag : WriteTag) (offset : Nat) (data : List UInt8) :
    MmapScrollback :=
  { w with file := writeAt w.file offset data, ops := w.ops ++ [.write tag offset data] }

/-- `sync_file_data`. -/
def syncFileData : MmapScrollback := { w with ops := w.ops ++ [.sync] }

/-! ## Publishing and syncing -/

/-- `write_v2_telemetry`. -/
def writeV2Telemetry : MmapScrollback :=
  w.write .telemetry 64 (slice (encodeV2BaseHeader w.header) 64 88)

/-- `sync`, of a writer that has no slot to repair. -/
def sync (nowMs : Nat) : MmapScrollback :=
  { ({ w with header := { w.header with lastMsyncAtEpochMs := nowMs } }).writeV2Telemetry.syncFileData
    with appendsSinceSync := 0, stateSlotDirty := false }

/-- The slot that takes the next state. -/
def nextSlot : Nat :=
  if w.stateSlotDirty then w.activeStateSlot else (w.activeStateSlot + 1) % 2

/-- The state as it is published next. -/
def nextState : V2RingState :=
  { w.v2State with slotEpoch := w.v2State.slotEpoch + 1 }

/-- The writer behind a publication. -/
def published : MmapScrollback :=
  { w.write (.slot w.nextSlot w.nextState) (slotOffset w.nextSlot)
      (encodeV2StateSlot sha (encodeV2BaseHeader w.header) w.nextState) with
    v2State := w.nextState
    activeStateSlot := w.nextSlot
    stateSlotDirty := true }

/-- `publish_v2_state`. -/
def publishV2State : Except MmapScrollbackError MmapScrollback :=
  if u64Max < w.v2State.slotEpoch + 1 then .error (.v2Integrity "v2 state epoch exhausted")
  else .ok (w.published sha)

/-- `sync_if_due`. -/
def syncIfDue (clock : Clock) : MmapScrollback × Bool :=
  if (0 < w.syncEveryAppends ∧ w.syncEveryAppends ≤ w.appendsSinceSync) ∨
      clock.intervalElapsed = true then (w.sync clock.dueMs, true)
  else (w, false)

/-! ## Planning -/

/-- The state, the used bytes and the flag of `plan_append_position`. -/
structure AppendPlan where
  state : V2RingState
  usedBytes : Nat
  evicted : Bool
deriving DecidableEq, Repr

/-- The first step of `evict_oldest_from_plan`: the head may stand at the wrap. -/
def headAtRecord : V2RingState :=
  if state.head = state.wrapAt ∧ state.head ≠ 0 then
    { state with head := 0, wrapAt := capacityBytes }
  else state

/-- The state without its oldest record, which ends at `recordEnd`. -/
def dropOldest (recordEnd : Nat) (state : V2RingState) : V2RingState :=
  if state.recordCount - 1 = 0 then
    { state with recordCount := 0, head := state.tail, wrapAt := capacityBytes }
  else if recordEnd = state.wrapAt then
    { state with recordCount := state.recordCount - 1, head := 0, wrapAt := capacityBytes }
  else if recordEnd = capacityBytes then
    { state with recordCount := state.recordCount - 1, head := 0 }
  else { state with recordCount := state.recordCount - 1, head := recordEnd }

/-- `evict_oldest_from_plan`, and the flag that the planner sets behind it. -/
def evictOldestFromPlan (plan : AppendPlan) : Except MmapScrollbackError AppendPlan := do
  refuseIf (plan.state.recordCount = 0)
    (.v2Integrity "attempted to evict from an empty v2 ring")
  let state := headAtRecord w.header.capacityBytes plan.state
  let (_, _, found) ← readV2RecordVerified sha w.file w.header state.head w.header.capacityBytes
    w.header.capacityBytes
  refuseIf (plan.usedBytes < found.totalLen) (.v2Integrity "v2 used-byte accounting underflow")
  return {
    state := dropOldest w.header.capacityBytes (state.head + found.totalLen) state
    usedBytes := plan.usedBytes - found.totalLen
    evicted := true }

/-- `while` a condition on the state holds, evict.  Each turn takes a record away and the conditions
of the source do not hold of an empty ring, so the count of records bounds the turns. -/
def evictWhile (sha : Sha256) (w : MmapScrollback) (condition : V2RingState → Bool) :
    (turns : Nat) → AppendPlan → Except MmapScrollbackError AppendPlan
  | 0, plan => .ok plan
  | turns + 1, plan =>
    if condition plan.state then do
      let plan ← evictOldestFromPlan sha w plan
      evictWhile sha w condition turns plan
    else .ok plan

/-- The plan of an empty ring starts at the front. -/
def emptyPlan (plan : AppendPlan) : AppendPlan :=
  { plan with
    state := { plan.state with head := 0, tail := 0, wrapAt := capacityBytes }
    usedBytes := 0 }

/-- The oldest record lies where the new one would lie at the front. -/
def coversHead (totalLen : Nat) (state : V2RingState) : Bool :=
  decide (0 < state.recordCount ∧ state.head < totalLen)

/-- The plan goes on at the front. -/
def toFront (plan : AppendPlan) : AppendPlan :=
  if plan.state.recordCount = 0 then emptyPlan capacityBytes plan
  else { plan with state := { plan.state with wrapAt := plan.state.tail, tail := 0 } }

/-- The record does not fit before the end, and goes to the front. -/
def planFront (totalLen : Nat) (plan : AppendPlan) : Except MmapScrollbackError AppendPlan := do
  let plan ← evictWhile sha w (coversHead totalLen) plan.state.recordCount plan
  let plan := toFront w.header.capacityBytes plan
  refuseIf (u64Max < plan.state.generation + 1) (.v2Integrity "v2 ring generation exhausted")
  return { plan with state := { plan.state with generation := plan.state.generation + 1 } }

/-- The loop of `plan_append_position`.  Each further turn has evicted a record, so the turns do not
run out. -/
def planLoop (sha : Sha256) (w : MmapScrollback) (totalLen : Nat) :
    (turns : Nat) → AppendPlan → Except MmapScrollbackError AppendPlan
  | 0, plan => .ok plan
  | turns + 1, plan =>
    if plan.state.tail < plan.state.head then
      if plan.state.tail + totalLen ≤ plan.state.head then .ok plan
      else do
        let plan ← evictOldestFromPlan sha w plan
        planLoop sha w totalLen turns plan
    else if ¬(0 < plan.state.recordCount ∧ plan.state.tail = plan.state.head) ∧
        plan.state.tail + totalLen ≤ w.header.capacityBytes then .ok plan
    else if w.header.capacityBytes < plan.state.tail + totalLen then
      planFront sha w totalLen plan
    else do
      let plan ← evictOldestFromPlan sha w plan
      planLoop sha w totalLen turns plan

/-- The ring has as many records as a reader takes. -/
def tooMany : Bool := decide (hardMaxLinearRecords ≤ state.recordCount)

/-- `plan_append_position`. -/
def planAppendPosition (totalLen : Nat) : Except MmapScrollbackError AppendPlan :=
  if w.v2State.recordCount = 0 then
    .ok (emptyPlan w.header.capacityBytes ⟨w.v2State, w.usedBytes, false⟩)
  else do
    let plan ← evictWhile sha w tooMany w.v2State.recordCount ⟨w.v2State, w.usedBytes, false⟩
    planLoop sha w totalLen (plan.state.recordCount + 1) plan

/-! ## Appending -/

/-- `append_redacted_payload` up to its first write: the payload that fits, and the plan. -/
def prepareAppend (bytes : List UInt8) : Except MmapScrollbackError (List UInt8 × AppendPlan) := do
  let payload ← fitPayloadToCapacity bytes w.header.capacityBytes
  refuseIf (2 ^ 32 ≤ payload.length) (.recordTooLarge payload.length w.header.capacityBytes)
  let plan ← planAppendPosition sha w (v2RecordHeaderSize + payload.length)
  refuseIf (u64Max < w.v2State.slotEpoch + if plan.evicted then 2 else 1)
    (.v2Integrity "v2 state epoch exhausted")
  refuseIf (2 ^ 32 ≤ plan.state.recordCount + 1) (.v2Integrity "v2 record count overflow")
  refuseIf (u64Max < plan.state.nextSequence + 1) (.v2Integrity "v2 record sequence exhausted")
  refuseIf (plan.state.tail + (v2RecordHeaderSize + payload.length) = w.header.capacityBytes ∧
      u64Max < plan.state.generation + 1) (.v2Integrity "v2 ring generation exhausted")
  refuseIf (w.header.capacityBytes < plan.usedBytes + (v2RecordHeaderSize + payload.length))
    (.v2Integrity "v2 append plan exceeds ring capacity")
  return (payload, plan)

/-- The writer takes a state over. -/
def adopt (usedBytes : Nat) : MmapScrollback :=
  { w with
    v2State := state
    usedBytes := usedBytes
    header := { w.header with writeCursorBytes := state.tail } }

/-- The records of the plan go: the state without them is published and synced. -/
def publishEviction (plan : AppendPlan) (nowMs : Nat) :
    Except MmapScrollbackError MmapScrollback := do
  let w ← (w.adopt plan.state plan.usedBytes).publishV2State sha
  return w.sync nowMs

/-- The record as the prepared state numbers it. -/
def recordOf (kind : RecordKind) (payload : List UInt8) : RingRecord where
  kind := kind
  payload := payload
  generation := state.generation
  sequence := state.nextSequence

/-- The two writes of a record. -/
def writeRecord (tail : Nat) (record : RingRecord) : MmapScrollback :=
  (w.write (.record record) (headerSize + tail) (record.header sha w.header.paneUuid)).write .payload
    (headerSize + tail + v2RecordHeaderSize) record.payload

/-- The state with a record more. -/
def commitState (totalLen : Nat) (state : V2RingState) : V2RingState where
  slotEpoch := state.slotEpoch
  head := if state.recordCount = 0 then state.tail else state.head
  tail := if state.tail + totalLen = capacityBytes then 0 else state.tail + totalLen
  wrapAt := if state.tail + totalLen = capacityBytes then capacityBytes else state.wrapAt
  generation :=
    if state.tail + totalLen = capacityBytes then state.generation + 1 else state.generation
  nextSequence := state.nextSequence + 1
  recordCount := state.recordCount + 1

/-- The telemetry behind an append. -/
def countAppend (header : ScrollbackHeader) (totalLen replacements : Nat) : ScrollbackHeader :=
  { header with
    totalBytesWritten := min (header.totalBytesWritten + totalLen) u64Max
    redactionsApplied := min (header.redactionsApplied + replacements) u64Max }

/-- The telemetry behind an append that is taken back. -/
def uncountAppend (header : ScrollbackHeader) (totalLen replacements : Nat) : ScrollbackHeader :=
  { header with
    totalBytesWritten := header.totalBytesWritten - totalLen
    redactionsApplied := header.redactionsApplied - replacements }

/-- The writer when the record is written and the state with it is about to be published. -/
def readyToPublish (usedBytes : Nat) (record : RingRecord) (replacements : Nat) : MmapScrollback :=
  let committed := (w.writeRecord sha state.tail record).adopt
    (commitState w.header.capacityBytes record.len state) (usedBytes + record.len)
  { committed with header := countAppend committed.header record.len replacements }

/-- The end of `append_redacted_payload`: the append is counted, and synced if this is due. -/
def finishAppend (record : RingRecord) (clock : Clock) : MmapScrollback × MmapAppendReport :=
  let (synced, due) :=
    { w with appendsSinceSync := min (w.appendsSinceSync + 1) u64Max }.syncIfDue clock
  (synced,
    { recordKind := record.kind
      payloadBytes := record.payload.length
      writeCursorBytes := synced.header.writeCursorBytes
      synced := due })

/-- `append_redacted_payload` from the record on: the record is written where the prepared state says,
and the state with it is published. -/
def commitRecord (usedBytes : Nat) (record : RingRecord) (replacements : Nat) (clock : Clock) :
    MmapScrollback × Except MmapScrollbackError MmapAppendReport :=
  match publishV2State sha (w.readyToPublish sha state usedBytes record replacements) with
  | .error error =>
    let back := (w.readyToPublish sha state usedBytes record replacements).adopt w.v2State
      w.usedBytes
    ({ back with header := uncountAppend back.header record.len replacements }, .error error)
  | .ok published =>
    let (after, report) := published.finishAppend record clock
    (after, .ok report)

/-- `append_redacted_payload`. -/
def appendRedactedPayload (kind : RecordKind) (bytes : List UInt8) (replacements : Nat)
    (clock : Clock) : MmapScrollback × Except MmapScrollbackError MmapAppendReport :=
  match prepareAppend sha w bytes with
  | .error error => (w, .error error)
  | .ok (payload, plan) =>
    if plan.evicted then
      match publishEviction sha w plan clock.evictionMs with
      | .error error => (w, .error error)
      | .ok cleared =>
        commitRecord sha cleared cleared.v2State plan.usedBytes
          (recordOf cleared.v2State kind payload) replacements clock
    else
      commitRecord sha w plan.state plan.usedBytes (recordOf plan.state kind payload) replacements
        clock

end

end MmapScrollback

/-! ## Opening -/

/-- The configuration of a pane. -/
structure RingConfig where
  capBytes : Nat
  paneUuid : List UInt8
  length_paneUuid : paneUuid.length = 32
  syncEveryAppends : Nat

/-- The header of a new file. -/
def RingConfig.header (config : RingConfig) (capBytes createdMs nowMs : Nat) : ScrollbackHeader where
  flags := v2RingFlag
  capacityBytes := capBytes
  writeCursorBytes := 0
  paneUuid := config.paneUuid
  createdAtEpochMs := createdMs
  lastMsyncAtEpochMs := nowMs
  redactionsApplied := 0
  totalBytesWritten := 0

/-- The first 256 bytes of a new file: the header, with a state in slot 0. -/
def initialBytes (sha : Sha256) (header : ScrollbackHeader) (state : V2RingState) : List UInt8 :=
  let base := encodeV2BaseHeader header
  base.take v2StateSlotsOffset ++ encodeV2StateSlot sha base state ++
    base.drop (v2StateSlotsOffset + v2StateSlotSize)

/-- The file that `set_len` leaves. -/
def zeroFile : Bytes := fun _ => 0

/-- `MmapScrollback::open` of a file that is not there yet. -/
def create (sha : Sha256) (config : RingConfig) (createdMs nowMs : Nat) :
    Except MmapScrollbackError MmapScrollback := do
  let capBytes ← normalizeCapBytes config.capBytes
  let header := config.header capBytes createdMs nowMs
  let state := V2RingState.fresh capBytes
  return (MmapScrollback.write
    { file := zeroFile
      ops := []
      header := header
      appendsSinceSync := 0
      syncEveryAppends := config.syncEveryAppends
      v2State := state
      activeStateSlot := 0
      stateSlotDirty := false
      usedBytes := 0 } (.header state) 0 (initialBytes sha header state)).syncFileData

/-- `LoadedV2State`. -/
structure LoadedV2State where
  state : V2RingState
  slotIndex : Nat
  usedBytes : Nat

/-- `load_v2_writer_state`. -/
def loadV2WriterState (sha : Sha256) (file : Bytes) (headerBytes : List UInt8)
    (header : ScrollbackHeader) : Except MmapScrollbackError LoadedV2State := do
  refuseIf (header.writeCursorBytes ≠ 0 ∨ header.flags ≠ v2RingFlag)
    (.v2Integrity "v2 outer header fields are not canonical")
  let candidates := v2SlotCandidates sha headerBytes
  refuseIf (candidates.2 = true) (.v2Integrity "v2 state slot is missing, torn, or corrupt")
  refuseIf (ambiguousEpoch candidates.1 = true)
    (.v2Integrity "v2 state slots have an ambiguous epoch")
  let newest ← okOr candidates.1.head? (.v2Integrity "v2 state slot is missing, torn, or corrupt")
  let decoded ← decodeV2RecordsForState sha file header newest.1
    ⟨hardMaxLinearRecords, hardMaxLinearRecordPayloadBytes⟩
  return ⟨newest.1, newest.2, decoded.usedBytes⟩

/-- `MmapScrollback::open` of a file that is there; `ops` is what has been done to it so far. -/
def reopen (sha : Sha256) (config : RingConfig) (file : Bytes) (fileLen : Nat) (ops : List RingOp) :
    Except MmapScrollbackError MmapScrollback := do
  let capBytes ← normalizeCapBytes config.capBytes
  refuseIf (fileLen ≠ headerSize + capBytes)
    (.existingFileShapeMismatch (headerSize + capBytes) fileLen)
  let headerBytes := readAt file 0 headerSize
  let header ← ScrollbackHeader.decode headerBytes
  refuseIf (header.paneUuid ≠ config.paneUuid)
    (.unsafeReadSource "existing scrollback header does not match its configured filename")
  refuseIf (header.capacityBytes ≠ capBytes)
    (.existingFileShapeMismatch (headerSize + capBytes) fileLen)
  refuseIf (header.flags &&& v2RingFlag = 0) .legacyV1
  let loaded ← loadV2WriterState sha file headerBytes header
  return {
    file := file
    ops := ops
    header := { header with writeCursorBytes := loaded.state.tail }
    appendsSinceSync := 0
    syncEveryAppends := config.syncEveryAppends
    v2State := loaded.state
    activeStateSlot := loaded.slotIndex
    stateSlotDirty := false
    usedBytes := loaded.usedBytes }

end FrankenTerm.Ports.ScrollbackRing
