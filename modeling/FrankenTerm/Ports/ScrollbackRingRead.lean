import FrankenTerm.Verified.RingLayout
import FrankenTerm.Ports.ScrollbackRing

/-!
# Reading what is in the scrollback ring

What the encoders of the ring write is what its readers read: a state slot, a record, and with them
the whole file.  `Holds` says of a state which records it retains: they are laid out as the state
says, they are stored where they lie, they are numbered one after the other up to the next sequence
number, and their generations do not fall.  The reader walks along such records from the head, turns
once where they wrap, and ends at the tail.

## Main results

* `observeSlotBytes_encode`, `readV2RecordVerified_of_stored` — what has been encoded is read.
* `decodeV2RecordsForState_of_holds` — the walk along the records that a state retains.
* `reads_of_slot` — a file reads as the records of its newest state.
-/

namespace FrankenTerm.Ports.ScrollbackRing

open Verified Verified.Check Verified.Records Verified.TornFile Verified.RingLayout RingRecord List

/-! ## Slots -/

/-- The fields of a state fit their places in a slot. -/
structure V2RingState.Fits (state : V2RingState) : Prop where
  slotEpoch : state.slotEpoch ≤ u64Max
  head : state.head < 2 ^ 32
  tail : state.tail < 2 ^ 32
  wrapAt : state.wrapAt < 2 ^ 32
  recordCount : state.recordCount < 2 ^ 32
  generation : state.generation ≤ u64Max
  nextSequence : state.nextSequence ≤ u64Max

variable {stop start : Nat}

theorem slice_append_left {a b : List UInt8} (h : stop ≤ a.length) :
    slice (a ++ b) start stop = slice a start stop := by
  unfold slice
  rw [take_drop, take_drop]
  rcases Nat.lt_or_ge stop start with hLt | hLe
  · rw [Nat.sub_eq_zero_of_le (Nat.le_of_lt hLt)]
    simp
  · rw [Nat.add_sub_cancel' hLe, take_append_of_le_length h]

section

variable (sha : Sha256) (base : List UInt8) (state : V2RingState)

theorem slice_readAt (file : Bytes) {offset len : Nat} (h : stop ≤ len) (hLe : start ≤ stop) :
    slice (readAt file offset len) start stop = readAt file (offset + start) (stop - start) :=
  readAt_slice (by omega)

@[simp] theorem length_encodeV2State : (encodeV2State state).length = 48 := by
  simp [encodeV2State, v2StateSlotMagic, length_leBytes]

@[simp] theorem length_v2StateChecksum (statePart : List UInt8) :
    (v2StateChecksum sha base statePart).length = 16 := by
  simp [v2StateChecksum, sha.length_digest]

@[simp] theorem length_encodeV2StateSlot : (encodeV2StateSlot sha base state).length = 64 := by
  simp [encodeV2StateSlot]

/-- The fields of a state are read back. -/
theorem decodeV2State_encode {state : V2RingState} (h : state.Fits) (rest : List UInt8) :
    decodeV2State (encodeV2State state ++ rest) = state := by
  obtain ⟨_, _⟩ := h
  unfold u64Max at *
  unfold decodeV2State
  simp [slice, encodeV2State, v2StateSlotMagic, drop_append, drop_eq_nil_of_le, length_leBytes]
  rw [leNat_leBytes (by omega), leNat_leBytes (by omega), leNat_leBytes (by omega),
    leNat_leBytes (by omega), leNat_leBytes (by omega), leNat_leBytes (by omega),
    leNat_leBytes (by omega)]

/-- A published state is seen in its slot. -/
theorem observeSlotBytes_encode {base written : List UInt8} {state : V2RingState}
    (hBase : base.take 64 = written.take 64) (h : state.Fits) :
    observeSlotBytes sha base (encodeV2StateSlot sha written state) = .valid state := by
  have hChecksum : v2StateChecksum sha base (encodeV2State state) =
      v2StateChecksum sha written (encodeV2State state) := by
    unfold v2StateChecksum
    rw [hBase]
  have hSome : (encodeV2StateSlot sha written state).all (· == 0) = false := by
    simp [encodeV2StateSlot, encodeV2State, v2StateSlotMagic]
  have hMagic : slice (encodeV2StateSlot sha written state) 0 4 = v2StateSlotMagic := by
    simp [slice, encodeV2StateSlot, encodeV2State, v2StateSlotMagic]
  obtain ⟨hVersion, hZero⟩ :
      leNat (slice (encodeV2StateSlot sha written state) 4 6) = v2StateSlotVersion ∧
        leNat (slice (encodeV2StateSlot sha written state) 6 8) = 0 := by
    simp [slice, encodeV2StateSlot, encodeV2State, v2StateSlotMagic, length_leBytes]
    exact ⟨leNat_leBytes (by decide), leNat_leBytes (by decide)⟩
  have hFields : slice (encodeV2StateSlot sha written state) 0 48 = encodeV2State state := by
    unfold encodeV2StateSlot
    rw [slice_append_left (by simp)]
    simp [slice, take_of_length_le]
  have hSum : slice (encodeV2StateSlot sha written state) 48 64 =
      v2StateChecksum sha written (encodeV2State state) := by
    unfold encodeV2StateSlot
    simp [slice, take_of_length_le]
  unfold observeSlotBytes
  rw [if_neg (by simp [hSome]), if_neg (by simp [hMagic, hVersion, hZero]),
    if_neg (by rw [hSum, hFields, hChecksum]; simp)]
  exact congrArg _ (decodeV2State_encode h _)

theorem observeSlotBytes_zero (n : Nat) :
    observeSlotBytes sha base (List.replicate n 0) = .empty := by
  unfold observeSlotBytes
  rw [if_pos (by simp)]

end

/-! ## Records -/

/-- The fields of a record fit their places in its header. -/
structure RingRecord.Fits (record : RingRecord) : Prop where
  payload : record.payload.length < 2 ^ 32
  generation : record.generation ≤ u64Max
  sequence : record.sequence ≤ u64Max

/-- The record is in the ring at an offset. -/
def Stored (sha : Sha256) (paneUuid : List UInt8) (file : Bytes) (offset : Nat)
    (record : RingRecord) : Prop :=
  readAt file (headerSize + offset) record.len = record.header sha paneUuid ++ record.payload

section

variable (sha : Sha256) (paneUuid : List UInt8) (record : RingRecord) (kind : RecordKind)
  (payloadLen generation sequence : Nat)

theorem RingRecord.len_eq : record.len = v2RecordHeaderSize + record.payload.length := rfl

theorem RingRecord.len_pos : 0 < record.len := by
  unfold len v2RecordHeaderSize
  omega

@[simp] theorem length_encodeV2RecordFields :
    (encodeV2RecordFields kind payloadLen generation sequence).length = 32 := by
  simp [encodeV2RecordFields, v2RecordMagic, length_leBytes]

@[simp] theorem length_v2RecordDigest (payload : List UInt8) :
    (v2RecordDigest sha paneUuid kind payloadLen generation sequence payload).length = 32 :=
  sha.length_digest _

@[simp] theorem RingRecord.length_header :
    (record.header sha paneUuid).length = v2RecordHeaderSize := by
  simp [RingRecord.header, encodeV2RecordHeader, v2RecordHeaderSize]

@[simp] theorem RecordKind.fromU8_asU8 : RecordKind.fromU8 kind.asU8 = some kind := by
  cases kind <;> rfl

end

section Stored

variable {sha : Sha256} {file other : Bytes} {offset : Nat} {record : RingRecord}
  {paneUuid : List UInt8}

theorem Stored.congr (h : Stored sha paneUuid file offset record)
    (hAgree : Agree other file (headerSize + offset) (headerSize + offset + record.len)) :
    Stored sha paneUuid other offset record :=
  (readAt_congr hAgree).trans h

/-- The two parts of a stored record. -/
theorem Stored.parts (h : Stored sha paneUuid file offset record) :
    readAt file (headerSize + offset) v2RecordHeaderSize = record.header sha paneUuid ∧
      readAt file (headerSize + offset + v2RecordHeaderSize) record.payload.length =
        record.payload := by
  unfold Stored at h
  rw [record.len_eq, readAt_add] at h
  exact append_inj h (by simp)

/-- **A stored record is read and verified.** -/
theorem readV2RecordVerified_of_stored {header : ScrollbackHeader} {capacityBytes : Nat}
    (maxPayload : Nat) (h : Stored sha header.paneUuid file offset record) (hFits : record.Fits)
    (hEnd : offset + record.len ≤ capacityBytes) (hCap : capacityBytes < 2 ^ 32)
    (hMax : record.payload.length ≤ maxPayload) :
    readV2RecordVerified sha file header offset capacityBytes maxPayload =
      .ok (record.kind, record.payload,
        ⟨record.len, record.payload.length, record.generation, record.sequence⟩) := by
  obtain ⟨_, _⟩ := hFits
  have hLen := record.len_eq
  have hMagic : slice (record.header sha header.paneUuid) 0 4 = v2RecordMagic := by
    simp [slice, RingRecord.header, encodeV2RecordHeader, encodeV2RecordFields, v2RecordMagic]
  have hZero : (slice (record.header sha header.paneUuid) 9 16).all (· == 0) := by
    simp [slice, RingRecord.header, encodeV2RecordHeader, encodeV2RecordFields, v2RecordMagic,
      drop_append, length_leBytes, drop_eq_nil_of_le]
  have hPayloadLen : leNat (slice (record.header sha header.paneUuid) 4 8) =
      record.payload.length := by
    simp [slice, RingRecord.header, encodeV2RecordHeader, encodeV2RecordFields, v2RecordMagic,
      length_leBytes]
    exact leNat_leBytes (by omega)
  have hKind : (record.header sha header.paneUuid).getD 8 0 = record.kind.asU8 := by
    simp [RingRecord.header, encodeV2RecordHeader, encodeV2RecordFields, v2RecordMagic,
      length_leBytes]
  have hRead : leNat (slice (record.header sha header.paneUuid) 16 24) = record.generation ∧
      leNat (slice (record.header sha header.paneUuid) 24 32) = record.sequence := by
    unfold u64Max at *
    simp [slice, RingRecord.header, encodeV2RecordHeader, encodeV2RecordFields, v2RecordMagic,
      drop_append, length_leBytes, drop_eq_nil_of_le]
    exact ⟨leNat_leBytes (by omega), leNat_leBytes (by omega)⟩
  have hDigest : slice (record.header sha header.paneUuid) 32 64 =
      v2RecordDigest sha header.paneUuid record.kind record.payload.length record.generation
        record.sequence record.payload := by
    unfold RingRecord.header encodeV2RecordHeader
    simp [slice, take_of_length_le]
  unfold readV2RecordVerified
  simp only [h.parts.1, hPayloadLen, hKind, hRead.1, hRead.2, h.parts.2]
  refine refuseIf_bind_eq_ok.mpr ⟨by omega, refuseIf_bind_eq_ok.mpr ⟨by simp [hMagic, hZero], ?_⟩⟩
  refine refuseIf_bind_eq_ok.mpr ⟨by omega, refuseIf_bind_eq_ok.mpr ⟨by omega, ?_⟩⟩
  refine bind_eq_ok.mpr ⟨record.kind, okOr_eq_ok.mpr record.kind.fromU8_asU8, ?_⟩
  exact refuseIf_bind_eq_ok.mpr
    ⟨by simp [hDigest], refuseIf_bind_eq_ok.mpr ⟨by omega, rfl⟩⟩

end Stored

/-! ## The walk along the records -/

/-- The records are numbered one after the other. -/
def Numbered : Nat → List RingRecord → Prop
  | _, [] => True
  | first, record :: rest => record.sequence = first ∧ Numbered (first + 1) rest

/-- The generations do not fall, from `low` on, and end at `high` at the latest. -/
def Aged (high : Nat) : Nat → List RingRecord → Prop
  | _, [] => True
  | low, record :: rest =>
    low ≤ record.generation ∧ record.generation ≤ high ∧ Aged high record.generation rest

/-- The walk behind a record. -/
def Walk.step (walk : Walk) (record : RingRecord) : Walk where
  cursor := walk.cursor + record.len
  records := walk.records ++ [record.content]
  payloadBytes := walk.payloadBytes + record.payload.length
  usedBytes := walk.usedBytes + record.len
  wrapped := walk.wrapped
  previousGeneration := some record.generation

/-- The walk behind some records. -/
def Walk.along (walk : Walk) (records : List RingRecord) : Walk := records.foldl Walk.step walk

/-- The length of the payloads of some records. -/
def payloadSum (records : List RingRecord) : Nat :=
  (records.map fun record => record.payload.length).sum

section Along

variable (walk : Walk) (records : List RingRecord)

@[simp] theorem Walk.along_cons (record : RingRecord) :
    walk.along (record :: records) = (walk.step record).along records := rfl

@[simp] theorem Walk.cursor_along :
    (walk.along records).cursor = walk.cursor + span len records := by
  induction records generalizing walk with
  | nil => rfl
  | cons _ _ ih =>
    rw [along_cons, ih, span_cons, step, Nat.add_assoc]

@[simp] theorem Walk.usedBytes_along :
    (walk.along records).usedBytes = walk.usedBytes + span len records := by
  induction records generalizing walk with
  | nil => rfl
  | cons _ _ ih =>
    rw [along_cons, ih, span_cons, step, Nat.add_assoc]

@[simp] theorem Walk.payloadBytes_along :
    (walk.along records).payloadBytes = walk.payloadBytes + payloadSum records := by
  induction records generalizing walk with
  | nil => rfl
  | cons _ _ ih =>
    rw [along_cons, ih, step, Nat.add_assoc]
    rfl

@[simp] theorem Walk.records_along :
    (walk.along records).records = walk.records ++ records.map content := by
  induction records generalizing walk with
  | nil => exact (append_nil _).symm
  | cons _ _ ih =>
    rw [along_cons, ih, step, append_assoc]
    rfl

@[simp] theorem Walk.wrapped_along : (walk.along records).wrapped = walk.wrapped := by
  induction records generalizing walk with
  | nil => rfl
  | cons _ _ ih => rw [along_cons, ih, step]

end Along

theorem payloadSum_le_span (records : List RingRecord) :
    payloadSum records ≤ span len records := by
  induction records with
  | nil => exact Nat.le_refl 0
  | cons record rest =>
    have hLen := record.len_eq
    have hSum : payloadSum (record :: rest) = record.payload.length + payloadSum rest := rfl
    rw [span_cons, hSum]
    omega

theorem numbered_append {first : Nat} {front back : List RingRecord} :
    Numbered first (front ++ back) ↔ Numbered first front ∧ Numbered (first + front.length) back := by
  induction front generalizing first with
  | nil => simp [Numbered]
  | cons _ _ ih =>
    rw [cons_append, Numbered, Numbered, ih, length_cons, and_assoc, Nat.add_assoc, Nat.add_comm 1]

open Walk

/-- The generations go on where a walk has come to. -/
theorem aged_append {high : Nat} {walk : Walk} {front back : List RingRecord} :
    Aged high (walk.previousGeneration.getD 0) (front ++ back) ↔
      Aged high (walk.previousGeneration.getD 0) front ∧
        Aged high ((walk.along front).previousGeneration.getD 0) back := by
  induction front generalizing walk with
  | nil => simp [Aged, along]
  | cons record _ ih =>
    have hRest := @ih (walk.step record)
    rw [cons_append, Aged, Aged, along_cons]
    change _ ∧ _ ∧ Aged high ((walk.step record).previousGeneration.getD 0) _ ↔
      (_ ∧ _ ∧ Aged high ((walk.step record).previousGeneration.getD 0) _) ∧ _
    rw [hRest, and_assoc, and_assoc]

section Walk

variable {sha : Sha256} {file : Bytes} {header : ScrollbackHeader} {state : V2RingState}
  {limits : LinearRecordReadLimits} (hCap : header.capacityBytes < 2 ^ 32)
  (hLimit : header.capacityBytes ≤ limits.maxPayloadBytes)
include hCap hLimit

section One

variable (walk : Walk) (firstSequence index : Nat) {record : RingRecord}
  (hStored : Stored sha header.paneUuid file walk.cursor record) (hFits : record.Fits)
  (hPayload : walk.payloadBytes ≤ walk.usedBytes)
  (hUsed : walk.usedBytes + record.len ≤ header.capacityBytes)
  (hSequence : record.sequence = firstSequence + index)
  (hOld : walk.previousGeneration.getD 0 ≤ record.generation)
  (hNew : record.generation ≤ state.generation)
include hStored hFits hPayload hUsed hSequence hOld hNew

/-- The walk takes a stored record that has the next number and is not too old. -/
theorem walkRecord_of_stored (hBefore : walk.cursor < state.wrapAt)
    (hEnd : walk.cursor + record.len ≤ header.capacityBytes) :
    walkRecord sha file header state limits firstSequence index walk =
      leaveRecord state header.capacityBytes (decide (index + 1 < state.recordCount))
        (walk.step record) := by
  have hLen := record.len_eq
  have hEnter : enterRecord state walk = .ok walk := if_neg (by omega)
  have hMonotone : walk.previousGeneration.any (fun previous => record.generation < previous) ≠
      true := by
    cases hPrevious : walk.previousGeneration with
    | none => simp
    | some =>
      rw [hPrevious] at hOld
      simpa using hOld
  have hRead := readV2RecordVerified_of_stored (limits.maxPayloadBytes - walk.payloadBytes) hStored
    hFits hEnd hCap (by omega)
  unfold walkRecord
  rw [hEnter, ok_bind, hRead, ok_bind]
  unfold acceptRecord
  dsimp only
  rw [refuseIf_neg (by omega), ok_bind, refuseIf_neg hMonotone, ok_bind, refuseIf_neg (by omega),
    ok_bind]
  rfl

/-- **The walk turns behind the record that ends at the wrap.** -/
theorem walkRecords_turn (hWrap : state.wrapAt ≤ header.capacityBytes) (remaining : Nat)
    (hEnd : walk.cursor + record.len = state.wrapAt) (hFirst : walk.wrapped = false) :
    walkRecords sha file header state limits firstSequence (remaining + 1) index walk =
      walkRecords sha file header state limits firstSequence remaining (index + 1)
        (walk.step record).turn := by
  have hPos := record.len_pos
  have hStep := walkRecord_of_stored hCap hLimit walk firstSequence index hStored hFits hPayload
    hUsed hSequence hOld hNew (by omega) (by omega)
  have hLeave : leaveRecord state header.capacityBytes (decide (index + 1 < state.recordCount))
      (walk.step record) = .ok (walk.step record).turn := by
    have hCursor : (walk.step record).cursor = walk.cursor + record.len := rfl
    have hWrapped : (walk.step record).wrapped = false := hFirst
    unfold leaveRecord
    rw [if_pos (by omega), hWrapped, Bool.and_false, if_neg Bool.false_ne_true]
  rw [walkRecords, hStep, hLeave]
  rfl

end One

/-- **The walk along records before the wrap.** -/
theorem walkRecords_straight (walk : Walk) (firstSequence index : Nat)
    (hWrap : state.wrapAt ≤ header.capacityBytes) (remaining : Nat) (records : List RingRecord)
    (hStored : ∀ offset record, (offset, record) ∈ place len walk.cursor records →
      Stored sha header.paneUuid file offset record ∧ record.Fits)
    (hBefore : walk.cursor + span len records < state.wrapAt)
    (hPayload : walk.payloadBytes ≤ walk.usedBytes)
    (hUsed : walk.usedBytes + span len records ≤ header.capacityBytes)
    (hNumbered : Numbered (firstSequence + index) records)
    (hAged : Aged state.generation (walk.previousGeneration.getD 0) records) :
    walkRecords sha file header state limits firstSequence (records.length + remaining) index walk =
      walkRecords sha file header state limits firstSequence remaining (index + records.length)
        (walk.along records) := by
  induction records generalizing walk index with
  | nil =>
    rw [length_nil, Nat.zero_add]
    rfl
  | cons record rest ih =>
    rw [span_cons] at hBefore hUsed
    obtain ⟨hSequence, hRest⟩ := hNumbered
    obtain ⟨hOld, hNew, hYounger⟩ := hAged
    have hLen := record.len_eq
    obtain ⟨hHere, hFits⟩ := hStored walk.cursor record mem_cons_self
    have hStep := walkRecord_of_stored hCap hLimit walk firstSequence index hHere hFits hPayload
      (by omega) hSequence hOld hNew (by omega) (by omega)
    have hLeave : leaveRecord state header.capacityBytes (decide (index + 1 < state.recordCount))
        (walk.step record) = .ok (walk.step record) := by
      have hCursor : (walk.step record).cursor = walk.cursor + record.len := rfl
      exact if_neg (by omega)
    rw [length_cons, Nat.add_right_comm, walkRecords, hStep, hLeave]
    change walkRecords sha file header state limits firstSequence (rest.length + remaining)
      (index + 1) (walk.step record) = _
    have hNext := ih (walk.step record) (index + 1)
      (fun offset other hMem => hStored offset other (mem_cons_of_mem _ hMem))
      (by change walk.cursor + record.len + _ < _; omega)
      (by
        change walk.payloadBytes + record.payload.length ≤ walk.usedBytes + record.len
        omega)
      (by change walk.usedBytes + record.len + _ ≤ _; omega)
      (by rw [← Nat.add_assoc]; exact hRest) hYounger
    rw [hNext, along_cons, Nat.add_assoc, Nat.add_comm 1]

end Walk

/-! ## What a state retains -/

/-- **The state retains these records** in a file, each at its offset. -/
structure Holds (sha : Sha256) (paneUuid : List UInt8) (capacityBytes : Nat) (file : Bytes)
    (state : V2RingState) (placed : List (Nat × RingRecord)) : Prop where
  capacity_lt : capacityBytes < 2 ^ 32
  fits : state.Fits
  layout : Layout len capacityBytes state.head state.tail state.wrapAt placed
  stored : ∀ offset record, (offset, record) ∈ placed →
    Stored sha paneUuid file offset record ∧ record.Fits
  count : state.recordCount = placed.length
  count_le : state.recordCount ≤ state.nextSequence
  numbered : Numbered (state.nextSequence - state.recordCount) (placed.map Prod.snd)
  aged : Aged state.generation 0 (placed.map Prod.snd)

section Holds

variable {sha : Sha256} {file other : Bytes} {header : ScrollbackHeader} {state : V2RingState}
  {limits : LinearRecordReadLimits} {placed : List (Nat × RingRecord)} {paneUuid : List UInt8}
  {capacityBytes : Nat}

theorem Holds.congr (h : Holds sha paneUuid capacityBytes file state placed)
    (hAgree : ∀ offset record, (offset, record) ∈ placed →
      Agree other file (headerSize + offset) (headerSize + offset + record.len)) :
    Holds sha paneUuid capacityBytes other state placed :=
  { h with stored := fun offset record hMem =>
      ⟨(h.stored offset record hMem).1.congr (hAgree offset record hMem),
        (h.stored offset record hMem).2⟩ }

/-- The shape of a state that retains some records is accepted. -/
theorem validateV2StateShape_of_holds (h : Holds sha paneUuid capacityBytes file state placed) :
    validateV2StateShape state capacityBytes = .ok () := by
  have hCap := h.capacity_lt
  have hHead := h.layout.head_lt len_pos
  have hTail := h.layout.tail_lt len_pos
  have hWrap := h.layout.wrap_le
  have hCount := h.count
  have hSequence := h.count_le
  refine refuseIf_bind_eq_ok.mpr ⟨by omega, refuseIf_bind_eq_ok.mpr ⟨by omega, ?_⟩⟩
  cases hPlaced : placed with
  | nil =>
    rw [hPlaced] at hCount
    have hLayout := h.layout
    rw [hPlaced] at hLayout
    obtain ⟨_, _⟩ := hLayout.of_nil
    rw [if_pos (by simpa using hCount)]
    exact refuseIf_eq_ok.mpr (by omega)
  | cons =>
    have hSome : placed ≠ [] := by simp [hPlaced]
    have hBefore := h.layout.head_lt_wrap len_pos hSome
    have hPositive : state.recordCount ≠ 0 := by simp [hCount, hPlaced]
    rw [if_neg hPositive]
    refine refuseIf_bind_eq_ok.mpr ⟨by omega, ?_⟩
    split_ifs with hLt hOther
    · exact refuseIf_eq_ok.mpr (by omega)
    · exact absurd (h.layout.wrap_eq hOther.1) hOther.2
    · exact refuseIf_eq_ok.mpr (by omega)

/-- The walk along what a state retains ends at its tail. -/
theorem walkRecords_of_holds (h : Holds sha header.paneUuid header.capacityBytes file state placed)
    (hLimit : header.capacityBytes ≤ limits.maxPayloadBytes) :
    ∃ walk, walkRecords sha file header state limits (state.nextSequence - state.recordCount)
        state.recordCount 0 { cursor := state.head } = .ok walk ∧
      walk.cursor = state.tail ∧
      walk.records = (placed.map Prod.snd).map content ∧
      walk.payloadBytes = payloadSum (placed.map Prod.snd) ∧
      walk.usedBytes = span len (placed.map Prod.snd) := by
  obtain ⟨hCap, _, hLayout, hStored, hCount, _, hNumbered, hAged⟩ := h
  have hSpan := hLayout.span_le
  have hWrap := hLayout.wrap_le
  rw [hCount] at hNumbered ⊢
  generalize hFirst : state.nextSequence - placed.length = first at hNumbered ⊢
  generalize hHead : state.head = head at hLayout ⊢
  generalize hTail : state.tail = tail at hLayout ⊢
  generalize hEnd : state.wrapAt = wrap at hLayout
  cases hLayout with
  | empty => exact ⟨{ cursor := head }, rfl, rfl, rfl, rfl, rfl⟩
  | @linear records _ hBefore =>
    rw [map_snd_place] at *
    have hWalk := walkRecords_straight hCap hLimit { cursor := head } first 0 hWrap 0 records hStored
      (by rw [hEnd]; exact hBefore) (Nat.le_refl 0) (by rw [Nat.zero_add]; exact hSpan) hNumbered
      hAged
    rw [length_place, ← Nat.add_zero records.length, hWalk]
    exact ⟨_, rfl, cursor_along _ _, by simp, by simp, by simp⟩
  | @wrapped upper lower hSome hUpper =>
    -- the walk goes straight up to the last record before the wrap, turns, and goes on
    obtain ⟨init, last, rfl⟩ : ∃ init last, upper = init ++ [last] :=
      ⟨_, _, (dropLast_append_getLast hSome).symm⟩
    simp only [map_append, map_snd_place, span_append, span_cons, span_nil,
      Nat.add_zero] at hSpan hNumbered hAged hUpper hEnd ⊢
    have hPos := last.len_pos
    rw [numbered_append, numbered_append] at hNumbered
    obtain ⟨⟨hInit, hLast, _⟩, hRest⟩ := hNumbered
    have hAgedAt : Aged state.generation (({ cursor := head } : Walk).previousGeneration.getD 0)
        ((init ++ [last]) ++ lower) := hAged
    rw [aged_append, aged_append] at hAgedAt
    obtain ⟨⟨hAgedInit, hOld, hNew, _⟩, hAgedLower⟩ := hAgedAt
    have hPlaced : ∀ offset record, (offset, record) ∈ place len head init ∨
        (offset, record) = (head + span len init, last) ∨
        (offset, record) ∈ place len 0 lower →
        Stored sha header.paneUuid file offset record ∧ record.Fits := by
      intro offset record hMem
      apply hStored
      rw [place_append, mem_append, mem_append]
      rcases hMem with hMem | hMem | hMem
      · exact .inl (.inl hMem)
      · exact .inl (.inr (hMem ▸ mem_cons_self))
      · exact .inr hMem
    have hStraight := walkRecords_straight hCap hLimit { cursor := head } first 0 hWrap
      (lower.length + 1) init (fun offset record hMem => hPlaced offset record (.inl hMem))
      (by change head + _ < _; omega) (Nat.le_refl 0) (by change 0 + _ ≤ _; omega) hInit hAgedInit
    have hHere := hPlaced _ _ (.inr (.inl rfl))
    generalize hMid : (({ cursor := head } : Walk).along init) = mid at hStraight hOld
    have hMidCursor : mid.cursor = head + span len init := by
      rw [← hMid, cursor_along]
    have hMidUsed : mid.usedBytes = span len init := by
      rw [← hMid, usedBytes_along, Nat.zero_add]
    have hMidPayload : mid.payloadBytes = payloadSum init := by
      rw [← hMid, payloadBytes_along, Nat.zero_add]
    have hMidSum := payloadSum_le_span init
    have hTurn := walkRecords_turn hCap hLimit mid first (0 + init.length)
      (by rw [hMidCursor]; exact hHere.1) hHere.2 (by omega) (by omega)
      (by rw [hLast, Nat.zero_add]) hOld hNew hWrap lower.length (by omega)
      (by rw [← hMid, wrapped_along])
    have hLen := last.len_eq
    have hFinish := walkRecords_straight hCap hLimit (mid.step last).turn first
      (0 + init.length + 1) hWrap 0 lower (fun offset record hMem => hPlaced offset record (.inr (.inr hMem)))
      (by change 0 + _ < _; omega)
      (by
        change mid.payloadBytes + last.payload.length ≤ mid.usedBytes + last.len
        omega)
      (by change mid.usedBytes + last.len + _ ≤ _; omega)
      (by
        rw [Nat.zero_add, ← Nat.add_assoc]
        rw [length_append, length_singleton, ← Nat.add_assoc] at hRest
        exact hRest)
      (by
        have hPrevious : ((mid.step last).turn.previousGeneration.getD 0) =
            ((({ cursor := head } : Walk).along (init ++ [last])).previousGeneration.getD 0) := by
          rw [along, foldl_append]
          rfl
        rw [hPrevious]
        exact hAgedLower)
    have hCountLen : (place len head (init ++ [last]) ++
        place len 0 lower).length = init.length + (lower.length + 1) := by
      simp only [length_append, length_place, length_singleton]
      omega
    rw [hCountLen, hStraight, hTurn, ← Nat.add_zero lower.length, hFinish]
    refine ⟨_, rfl, ?_, ?_, ?_, ?_⟩
    · rw [cursor_along]
      exact Nat.zero_add _
    · rw [records_along]
      change (mid.records ++ [last.content]) ++ _ = _
      rw [← hMid, records_along]
      simp
    · rw [payloadBytes_along]
      change mid.payloadBytes + last.payload.length + _ = _
      rw [hMidPayload]
      simp [payloadSum, Nat.add_assoc]
    · rw [usedBytes_along]
      change mid.usedBytes + last.len + _ = _
      rw [hMidUsed]

/-- **The records that a state retains are decoded.** -/
theorem decodeV2RecordsForState_of_holds
    (h : Holds sha header.paneUuid header.capacityBytes file state placed)
    (hRecords : state.recordCount ≤ limits.maxRecords)
    (hLimit : header.capacityBytes ≤ limits.maxPayloadBytes) :
    decodeV2RecordsForState sha file header state limits =
      .ok ⟨(placed.map Prod.snd).map content, payloadSum (placed.map Prod.snd),
        span len (placed.map Prod.snd)⟩ := by
  obtain ⟨walk, hWalk, hCursor, hContents, hPayload, hUsed⟩ := walkRecords_of_holds h hLimit
  have hSequence := h.count_le
  unfold decodeV2RecordsForState
  rw [validateV2StateShape_of_holds h, ok_bind, refuseIf_neg (by omega), ok_bind,
    refuseIf_neg (by omega), ok_bind, hWalk, ok_bind, refuseIf_neg (by simp [hCursor]), ok_bind,
    hContents, hPayload, hUsed]
  rfl

end Holds

/-! ## The file as a whole -/

/-- The header of a ring: its fields fit, and its flag says that it is a ring. -/
structure ScrollbackHeader.Ring (header : ScrollbackHeader) : Prop where
  flags : header.flags = v2RingFlag
  capacity : header.capacityBytes < 2 ^ 32
  paneUuid : header.paneUuid.length = 32

/-- The file starts with the part of the header that never changes. -/
def Identified (header : ScrollbackHeader) (file : Bytes) : Prop :=
  readAt file 0 64 = (encodeV2BaseHeader header).take 64

open ScrollbackHeader

section File

variable {sha : Sha256} {file other : Bytes} {header : ScrollbackHeader}

theorem take_encodeV2BaseHeader (hRing : header.Ring) :
    (encodeV2BaseHeader header).take 64 = { header with writeCursorBytes := 0 }.encodeIdentity := by
  have hLen : ({ header with writeCursorBytes := 0 } : ScrollbackHeader).encodeIdentity.length =
      64 := by
    simp [encodeIdentity, fileMagic, length_leBytes, hRing.paneUuid]
  unfold encodeV2BaseHeader encode
  rw [append_assoc, take_append_of_le_length (by omega), take_of_length_le (by omega)]

/-- The identity of a ring is decoded. -/
theorem ScrollbackHeader.decode_of_identified (hRing : header.Ring)
    (h : Identified header file) : ∃ decoded,
      decode (readAt file 0 headerSize) = .ok decoded ∧
      decoded.flags = v2RingFlag ∧ decoded.capacityBytes = header.capacityBytes ∧
      decoded.writeCursorBytes = 0 ∧ decoded.paneUuid = header.paneUuid := by
  have hCap := hRing.capacity
  have hUuid := hRing.paneUuid
  unfold Identified at h
  rw [take_encodeV2BaseHeader hRing] at h
  have hSlice : ∀ start stop, start ≤ stop → stop ≤ 64 →
      slice (readAt file 0 headerSize) start stop =
        slice ({ header with writeCursorBytes := 0 } : ScrollbackHeader).encodeIdentity start stop := by
    intro start stop hLe hStop
    rw [← h, slice_readAt file (by unfold headerSize; omega) hLe, slice_readAt file hStop hLe]
  have hMagic : slice (readAt file 0 headerSize) 0 4 = fileMagic := by
    rw [hSlice 0 4 (by omega) (by omega)]
    simp [slice, encodeIdentity, fileMagic]
  obtain ⟨hVersion, hFlags⟩ : leNat (slice (readAt file 0 headerSize) 4 6) = 1 ∧
      leNat (slice (readAt file 0 headerSize) 6 8) = v2RingFlag := by
    rw [hSlice 4 6 (by omega) (by omega), hSlice 6 8 (by omega) (by omega)]
    simp [slice, encodeIdentity, fileMagic, length_leBytes, hRing.flags]
    exact ⟨leNat_leBytes (by decide), leNat_leBytes (by decide)⟩
  obtain ⟨hCapacity, hCursor⟩ : leNat (slice (readAt file 0 headerSize) 8 16) =
      header.capacityBytes ∧ leNat (slice (readAt file 0 headerSize) 16 24) = 0 := by
    rw [hSlice 8 16 (by omega) (by omega), hSlice 16 24 (by omega) (by omega)]
    simp [slice, encodeIdentity, fileMagic, length_leBytes, drop_append, drop_eq_nil_of_le]
    exact ⟨leNat_leBytes (by omega), leNat_leBytes (by decide)⟩
  have hPane : slice (readAt file 0 headerSize) 24 56 = header.paneUuid := by
    rw [hSlice 24 56 (by omega) (by omega)]
    simp [slice, encodeIdentity, fileMagic, length_leBytes, drop_append, drop_eq_nil_of_le, hUuid]
  have hInside : ¬(fields (readAt file 0 headerSize)).capacityBytes <
      (fields (readAt file 0 headerSize)).writeCursorBytes := by
    unfold fields
    dsimp only
    omega
  refine ⟨fields (readAt file 0 headerSize), ?_, hFlags, hCapacity, hCursor, hPane⟩
  unfold decode
  rw [refuseIf_neg (by simp), ok_bind, refuseIf_neg (by simp [hMagic]), ok_bind,
    refuseIf_neg (by simp [hVersion]), ok_bind, refuseIf_neg hInside, ok_bind]
  rfl

/-- What is in a slot of a file. -/
def observeSlot (sha : Sha256) (file : Bytes) (index : Nat) : V2SlotObservation :=
  observeV2StateSlot sha (readAt file 0 headerSize) index

/-- The slot of a file holds a state. -/
def SlotHolds (sha : Sha256) (header : ScrollbackHeader) (file : Bytes) (index : Nat)
    (state : V2RingState) : Prop :=
  readAt file (slotOffset index) v2StateSlotSize =
    encodeV2StateSlot sha (encodeV2BaseHeader header) state

variable {index : Nat} {state : V2RingState}

theorem observeSlot_eq (hIndex : index < 2) :
    observeSlot sha file index = observeSlotBytes sha (readAt file 0 headerSize)
      (readAt file (slotOffset index) v2StateSlotSize) := by
  unfold observeSlot observeV2StateSlot
  have hEnd : slotOffset index + v2StateSlotSize ≤ headerSize := by
    unfold slotOffset v2StateSlotSize v2StateSlotsOffset headerSize
    omega
  rw [slice_readAt file hEnd (by omega), Nat.zero_add, Nat.add_sub_cancel_left]

theorem observeSlot_of_holds (hIndex : index < 2) (hIdentified : Identified header file)
    (hFits : state.Fits) (h : SlotHolds sha header file index state) :
    observeSlot sha file index = .valid state := by
  rw [observeSlot_eq hIndex, h]
  refine observeSlotBytes_encode sha ?_ hFits
  have hTake : slice (readAt file 0 headerSize) 0 64 = readAt file (0 + 0) (64 - 0) :=
    slice_readAt file (by decide) (by decide)
  exact hTake.trans hIdentified

/-- The candidates of a file one of whose slots is known. -/
def candidatesFrom (state : V2RingState) (index : Nat) :
    V2SlotObservation → List (V2RingState × Nat) × Bool
  | .empty => ([(state, index)], false)
  | .invalid => ([(state, index)], true)
  | .valid other =>
    if other.slotEpoch < state.slotEpoch then ([(state, index), (other, 1 - index)], false)
    else ([(other, 1 - index), (state, index)], false)

theorem v2SlotCandidates_eq (hIndex : index < 2) (h : observeSlot sha file index = .valid state)
    (hEpoch : ∀ other, observeSlot sha file (1 - index) = .valid other → other.slotEpoch ≠
      state.slotEpoch) :
    v2SlotCandidates sha (readAt file 0 headerSize) =
      candidatesFrom state index (observeSlot sha file (1 - index)) := by
  unfold observeSlot at h hEpoch ⊢
  have hPair : v2SlotCandidates sha (readAt file 0 headerSize) =
      (([0, 1].filterMap (slotCandidate sha (readAt file 0 headerSize))).insertionSort fun a b =>
          b.1.slotEpoch ≤ a.1.slotEpoch,
        observeV2StateSlot sha (readAt file 0 headerSize) 0 == .invalid ||
          (observeV2StateSlot sha (readAt file 0 headerSize) 1 == .invalid || false)) := rfl
  rw [hPair]
  obtain rfl | rfl : index = 0 ∨ index = 1 := by omega
  · cases hOther : observeV2StateSlot sha (readAt file 0 headerSize) (1 - 0) with
    | empty | invalid => simp [slotCandidate, h, hOther, candidatesFrom]
    | valid other =>
      have hNe := hEpoch other hOther
      simp only [filterMap, slotCandidate, h, hOther, candidatesFrom]
      split_ifs with hLt
      · simp [insertionSort, Nat.le_of_lt hLt]
      · have hGt : state.slotEpoch < other.slotEpoch := by omega
        simp [insertionSort, orderedInsert, hGt]
  · cases hOther : observeV2StateSlot sha (readAt file 0 headerSize) (1 - 1) with
    | empty | invalid => simp [slotCandidate, h, hOther, candidatesFrom]
    | valid other =>
      have hNe := hEpoch other hOther
      simp only [filterMap, slotCandidate, h, hOther, candidatesFrom]
      split_ifs with hLt
      · simp [insertionSort, orderedInsert, hLt]
      · simp [insertionSort, orderedInsert, hLt]

theorem candidatesFrom_unambiguous (index : Nat) {observation : V2SlotObservation}
    (hEpoch : ∀ other, observation = .valid other → other.slotEpoch ≠ state.slotEpoch) :
    (candidatesFrom state index observation).1 ≠ [] ∧
      ambiguousEpoch (candidatesFrom state index observation).1 = false := by
  cases observation with
  | empty | invalid => exact ⟨by simp [candidatesFrom], rfl⟩
  | valid other =>
    have hNe := hEpoch other rfl
    rw [candidatesFrom]
    split_ifs with hLt
    · exact ⟨by simp, by simp [ambiguousEpoch, Ne.symm hNe]⟩
    · exact ⟨by simp, by simp [ambiguousEpoch, hNe]⟩

/-- The reader of a ring one of whose slots is known tries the states of the slots. -/
theorem readLinearRecordsFromFile_eq (hRing : header.Ring) (hIdentified : Identified header file)
    (hIndex : index < 2) (h : observeSlot sha file index = .valid state)
    (hEpoch : ∀ other, observeSlot sha file (1 - index) = .valid other → other.slotEpoch ≠
      state.slotEpoch) (limits : LinearRecordReadLimits) :
    ∃ decoded : ScrollbackHeader, decoded.capacityBytes = header.capacityBytes ∧
      decoded.paneUuid = header.paneUuid ∧
      readLinearRecordsFromFile sha file (headerSize + header.capacityBytes) limits =
        readCandidates sha file decoded limits
          (candidatesFrom state index (observeSlot sha file (1 - index))).2 none none
          (candidatesFrom state index (observeSlot sha file (1 - index))).1 := by
  obtain ⟨decoded, hDecoded, hFlags, hCapacity, hCursor, hPane⟩ :=
    decode_of_identified hRing hIdentified
  obtain ⟨hSome, hClear⟩ := candidatesFrom_unambiguous index hEpoch
  refine ⟨decoded, hCapacity, hPane, ?_⟩
  unfold readLinearRecordsFromFile
  rw [refuseIf_neg (by omega), ok_bind]
  dsimp only
  rw [hDecoded, ok_bind, refuseIf_neg (by rw [hFlags]; decide), ok_bind,
    refuseIf_neg (by simp [hFlags, hCursor]), ok_bind, refuseIf_neg (by simp [hCapacity]), ok_bind,
    v2SlotCandidates_eq hIndex h hEpoch, refuseIf_neg hSome, ok_bind,
    refuseIf_neg (by simp [hClear]), ok_bind]

/-- What a reader gets from the file. -/
def Reads (sha : Sha256) (file : Bytes) (capacityBytes : Nat) (limits : LinearRecordReadLimits)
    (records : List (RecordKind × List UInt8)) : Prop :=
  ∃ snapshot, readLinearRecordsFromFile sha file (headerSize + capacityBytes) limits = .ok snapshot ∧
    snapshot.completeness = .complete ∧ snapshot.records = records

/-- **A file whose newest state retains some records reads as these records.** -/
theorem reads_of_slot (hRing : header.Ring) (hIdentified : Identified header file)
    (hIndex : index < 2) {placed : List (Nat × RingRecord)}
    (h : observeSlot sha file index = .valid state)
    (hOther : observeSlot sha file (1 - index) ≠ .invalid)
    (hOlder : ∀ other, observeSlot sha file (1 - index) = .valid other → other.slotEpoch <
      state.slotEpoch) (hHolds : Holds sha header.paneUuid header.capacityBytes file state placed)
    {limits : LinearRecordReadLimits} (hRecords : state.recordCount ≤ limits.maxRecords)
    (hLimit : header.capacityBytes ≤ limits.maxPayloadBytes) :
    Reads sha file header.capacityBytes limits
      ((placed.map Prod.snd).map content) := by
  obtain ⟨decoded, hCapacity, hPane, hRead⟩ := readLinearRecordsFromFile_eq hRing hIdentified hIndex
    h (fun other hValid => Nat.ne_of_lt (hOlder other hValid)) limits
  rw [← hCapacity, ← hPane] at hHolds
  have hDecode := decodeV2RecordsForState_of_holds hHolds hRecords (by rw [hCapacity]; exact hLimit)
  have hFirst : ∀ rest, readCandidates sha file decoded limits false none none
      ((state, index) :: rest) = .ok
        { header := { decoded with writeCursorBytes := state.tail }
          records := (placed.map Prod.snd).map content
          payloadBytes := payloadSum (placed.map Prod.snd)
          completeness := .complete } := by
    intro rest
    rw [readCandidates, hDecode]
    rfl
  cases hSlot : observeSlot sha file (1 - index) with
  | invalid => exact absurd hSlot hOther
  | empty =>
    rw [hSlot] at hRead
    exact ⟨_, hRead.trans (hFirst []), rfl, rfl⟩
  | valid other =>
    rw [hSlot, candidatesFrom, if_pos (hOlder other hSlot)] at hRead
    exact ⟨_, hRead.trans (hFirst _), rfl, rfl⟩

end File

end FrankenTerm.Ports.ScrollbackRing
