import FrankenTerm.Ports.ScrollbackRingPlan

/-!
# What a writer of the scrollback ring does to its file

`Trace` lists the operations that a file of the ring may see, one constructor for each kind of them:
the header of a new file, the telemetry, a sync, the publication of a state without some of its oldest
records, the two writes of a record, and the publication of the state with it.  It carries the state
that was published last with the records that it retains (`Point`), and the stage between two
publications.  A record is written only where there is room beside the published records, and behind
the publication of an eviction there is a sync before anything else happens.

The writer follows this protocol, and the protocol alone decides what a reader finds.

## Main results

* `Holds.push` — what a state retains with one more record.
* `Trace.visible` — what the file shows at every point of a trace.
* `Visible.reads` — so a reader gets the records of the published state.
-/

namespace FrankenTerm.Ports.ScrollbackRing

open Verified Verified.Check Verified.Records Verified.TornFile Verified.RingLayout RingRecord List
open MmapScrollback ScrollbackHeader

/-! ## One more record -/

variable {record : RingRecord}

theorem Aged.push {high low : Nat} {records : List RingRecord} (h : Aged high low records)
    (hLow : low ≤ high) (hRecord : record.generation = high) :
    Aged high low (records ++ [record]) := by
  induction records generalizing low with
  | nil => exact ⟨by omega, by omega, trivial⟩
  | cons _ _ ih =>
    obtain ⟨hOld, hNew, hRest⟩ := h
    exact ⟨hOld, hNew, ih hRest hNew⟩

/-- **What a state retains with one more record**, which is stored where there was room for it. -/
theorem Holds.push {sha : Sha256} {paneUuid : List UInt8} {capacityBytes : Nat} {file : Bytes}
    {state : V2RingState} {placed : List (Nat × RingRecord)}
    (h : Holds sha paneUuid capacityBytes file state placed)
    (hRoom : Room capacityBytes state.head state.tail placed record.len)
    (hStored : Stored sha paneUuid file state.tail record) (hRecord : record.Fits)
    (hSequence : record.sequence = state.nextSequence)
    (hGeneration : record.generation = state.generation) {epoch : Nat}
    (hFits : V2RingState.Fits { commitState capacityBytes record.len state with
      slotEpoch := epoch }) :
    Holds sha paneUuid capacityBytes file
      { commitState capacityBytes record.len state with slotEpoch := epoch }
      (placed ++ [(state.tail, record)]) := by
  have hCount := h.count
  have hLe := h.count_le
  have hEmpty : state.recordCount = 0 ↔ placed = [] := by
    rw [hCount, length_eq_zero_iff]
  refine ⟨h.capacity_lt, hFits, ?_, ?_, ?_, ?_, ?_, ?_⟩
  · have hPush := h.layout.push len_pos hRoom
    unfold commitState
    simp only [hEmpty]
    exact hPush
  · intro offset other hMem
    rcases mem_append.mp hMem with hMem | hMem
    · exact h.stored offset other hMem
    · rw [mem_singleton] at hMem
      cases hMem
      exact ⟨hStored, hRecord⟩
  · rw [length_append, length_singleton, ← hCount]
    rfl
  · exact Nat.succ_le_succ hLe
  · have hFirst : state.nextSequence + 1 - (state.recordCount + 1) =
        state.nextSequence - state.recordCount := by omega
    change Numbered (state.nextSequence + 1 - (state.recordCount + 1)) _
    rw [hFirst, map_append, numbered_append, length_map, ← hCount]
    refine ⟨h.numbered, ?_, trivial⟩
    change record.sequence = _
    omega
  · have hAged := h.aged.push (Nat.zero_le _) hGeneration
    rw [map_append]
    unfold commitState
    dsimp only
    split_ifs
    · exact hAged.mono (Nat.le_succ _) (Nat.le_refl _)
    · exact hAged

/-! ## The protocol -/

/-- What has been published last: a state, the records that it retains, its slot, and whether this
slot has been written since the last sync. -/
structure Point where
  state : V2RingState
  placed : List (Nat × RingRecord)
  slot : Nat
  dirty : Bool

/-- The slot of the next publication. -/
def Point.nextSlot (p : Point) : Nat := if p.dirty then p.slot else (p.slot + 1) % 2

/-- Where a writer is between two publications. -/
inductive Stage where
  | rest
  | evicting
  | header (prepared : V2RingState) (record : RingRecord)
  | body (prepared : V2RingState) (record : RingRecord)

/-- What a reader of the file sees behind some operations. -/
def visible (ops : List RingOp) : Bytes := replay zeroFile ops

/-- A state is prepared for a record: it retains what is published, with room for the record. -/
structure Prepared (sha : Sha256) (h0 : ScrollbackHeader) (file : Bytes) (p : Point)
    (prepared : V2RingState) (record : RingRecord) : Prop where
  holds : Holds sha h0.paneUuid h0.capacityBytes file prepared p.placed
  room : Room h0.capacityBytes prepared.head prepared.tail p.placed record.len
  fits : record.Fits
  slotEpoch : prepared.slotEpoch = p.state.slotEpoch
  nextSequence : prepared.nextSequence = p.state.nextSequence
  sequence : record.sequence = prepared.nextSequence
  generation : record.generation = prepared.generation

/-- The state that is published with the record. -/
def publishedState (h0 : ScrollbackHeader) (prepared : V2RingState) (record : RingRecord) :
    V2RingState :=
  { MmapScrollback.commitState h0.capacityBytes record.len prepared with
    slotEpoch := prepared.slotEpoch + 1 }

/-- The write of a state slot. -/
def slotWrite (sha : Sha256) (h0 : ScrollbackHeader) (slot : Nat) (state : V2RingState) : RingOp :=
  .write (.slot slot state) (slotOffset slot)
    (encodeV2StateSlot sha (encodeV2BaseHeader h0) state)

/-- **What a writer does to its file.** -/
inductive Trace (sha : Sha256) (h0 : ScrollbackHeader) : List RingOp → Point → Stage → Prop where
  | create :
      Trace sha h0 [.write (.header (.fresh h0.capacityBytes)) 0
          (initialBytes sha h0 (.fresh h0.capacityBytes)), .sync]
        ⟨.fresh h0.capacityBytes, [], 0, false⟩ .rest
  | telemetry {ops : List RingOp} {p : Point} {stage : Stage} {data : List UInt8}
      (h : Trace sha h0 ops p stage) (hLen : data.length = 24) :
      Trace sha h0 (ops ++ [.write .telemetry 64 data]) p stage
  | sync {ops : List RingOp} {p : Point} {stage : Stage} (h : Trace sha h0 ops p stage)
      (hStage : stage = .rest ∨ stage = .evicting) :
      Trace sha h0 (ops ++ [.sync]) { p with dirty := false } .rest
  | evict {ops : List RingOp} {p : Point} {state : V2RingState} {kept : List (Nat × RingRecord)}
      (h : Trace sha h0 ops p .rest)
      (hHolds : Holds sha h0.paneUuid h0.capacityBytes (visible ops) state kept)
      (hKept : kept <:+ p.placed) (hEpoch : state.slotEpoch = p.state.slotEpoch + 1)
      (hSequence : state.nextSequence = p.state.nextSequence) :
      Trace sha h0 (ops ++ [slotWrite sha h0 p.nextSlot state]) ⟨state, kept, p.nextSlot, true⟩
        .evicting
  | header {ops : List RingOp} {p : Point} {prepared : V2RingState} {record : RingRecord}
      (h : Trace sha h0 ops p .rest) (hPrepared : Prepared sha h0 (visible ops) p prepared record) :
      Trace sha h0 (ops ++ [.write (.record record) (headerSize + prepared.tail)
        (record.header sha h0.paneUuid)]) p (.header prepared record)
  | body {ops : List RingOp} {p : Point} {prepared : V2RingState} {record : RingRecord}
      (h : Trace sha h0 ops p (.header prepared record)) :
      Trace sha h0 (ops ++ [.write .payload (headerSize + prepared.tail + v2RecordHeaderSize)
        record.payload]) p (.body prepared record)
  | publish {ops : List RingOp} {p : Point} {prepared : V2RingState} {record : RingRecord}
      (h : Trace sha h0 ops p (.body prepared record))
      (hFits : (publishedState h0 prepared record).Fits)
      (hFew : prepared.recordCount < hardMaxLinearRecords) :
      Trace sha h0 (ops ++ [slotWrite sha h0 p.nextSlot (publishedState h0 prepared record)])
        ⟨publishedState h0 prepared record, p.placed ++ [(prepared.tail, record)], p.nextSlot, true⟩
        .rest

/-! ## What a reader sees -/

/-- What is in the file at a point. -/
structure Visible (sha : Sha256) (h0 : ScrollbackHeader) (file : Bytes) (p : Point) : Prop where
  identified : Identified h0 file
  slot_lt : p.slot < 2
  slot : SlotHolds sha h0 file p.slot p.state
  other : readAt file (slotOffset (1 - p.slot)) v2StateSlotSize = List.replicate 64 0 ∨
    ∃ older : V2RingState, older.Fits ∧ SlotHolds sha h0 file (1 - p.slot) older ∧
      older.slotEpoch < p.state.slotEpoch
  holds : Holds sha h0.paneUuid h0.capacityBytes file p.state p.placed
  few : p.placed.length ≤ hardMaxLinearRecords

/-- What is in the file between two publications. -/
def Stage.Visible (sha : Sha256) (h0 : ScrollbackHeader) (file : Bytes) (p : Point) : Stage → Prop
  | .rest => True
  | .evicting => True
  | .header prepared record => Prepared sha h0 file p prepared record ∧
      readAt file (headerSize + prepared.tail) v2RecordHeaderSize = record.header sha h0.paneUuid
  | .body prepared record => Prepared sha h0 file p prepared record ∧
      Stored sha h0.paneUuid file prepared.tail record

section Visible

variable {sha : Sha256} {h0 : ScrollbackHeader} {file other : Bytes} {p : Point} {stage : Stage}
  {ops : List RingOp}

variable {prepared : V2RingState} {limits : LinearRecordReadLimits}
  {index : Nat}

theorem slotOffset_eq (h : index < 2) :
    slotOffset index = 88 ∧ index = 0 ∨ slotOffset index = 152 ∧ index = 1 := by
  unfold slotOffset v2StateSlotsOffset v2StateSlotSize
  omega

theorem visible_write (ops : List RingOp) (tag : WriteTag) (offset : Nat) (data : List UInt8) :
    visible (ops ++ [.write tag offset data]) = writeAt (visible ops) offset data := by
  unfold visible
  rw [replay_append]
  rfl

theorem visible_sync (ops : List RingOp) : visible (ops ++ [.sync]) = visible ops := by
  unfold visible
  rw [replay_append]
  rfl

theorem SlotHolds.congr {state : V2RingState} (h : SlotHolds sha h0 file index state)
    (hAgree : Agree other file (slotOffset index) (slotOffset index + v2StateSlotSize)) :
    SlotHolds sha h0 other index state :=
  (readAt_congr hAgree).trans h

/-- A write behind the slots that avoids the records is not noticed. -/
theorem Visible.congr (h : Visible sha h0 file p) (hIdentity : Agree other file 0 64)
    (hSlots : Agree other file 88 216)
    (hRecords : ∀ offset record, (offset, record) ∈ p.placed →
      Agree other file (headerSize + offset) (headerSize + offset + record.len)) :
    Visible sha h0 other p := by
  have hLt := h.slot_lt
  have hAgree : ∀ index, index < 2 →
      Agree other file (slotOffset index) (slotOffset index + v2StateSlotSize) := by
    intro index hIndex
    unfold v2StateSlotSize
    rcases slotOffset_eq hIndex with ⟨_, _⟩ | ⟨_, _⟩
    · exact hSlots.mono (by omega) (by omega)
    · exact hSlots.mono (by omega) (by omega)
  refine ⟨(readAt_congr hIdentity).trans h.identified, hLt, h.slot.congr (hAgree _ hLt), ?_,
    h.holds.congr hRecords, h.few⟩
  rcases h.other with hZero | ⟨older, hFits, hOlder, hEpoch⟩
  · exact .inl ((readAt_congr (hAgree _ (by omega))).trans hZero)
  · exact .inr ⟨older, hFits, hOlder.congr (hAgree _ (by omega)), hEpoch⟩

theorem Prepared.congr (h : Prepared sha h0 file p prepared record)
    (hRecords : ∀ offset record, (offset, record) ∈ p.placed → Agree other file (headerSize +
      offset) (headerSize + offset + record.len)) : Prepared sha h0 other p prepared record :=
  { h with holds := h.holds.congr hRecords }

theorem Point.nextSlot_cases (hLt : p.slot < 2) :
    p.nextSlot < 2 ∧ (p.dirty ∧ p.nextSlot = p.slot ∨
      p.dirty = false ∧ p.nextSlot = 1 - p.slot) := by
  unfold Point.nextSlot
  cases p.dirty with
  | true => simp [hLt]
  | false =>
    refine ⟨by simp only [Bool.false_eq_true, if_false]; omega, .inr ⟨rfl, ?_⟩⟩
    simp only [Bool.false_eq_true, if_false]
    omega

/-- **A publication**: the next slot holds the new state, and the other one an older state. -/
theorem Visible.publish (h : Visible sha h0 file p) {state : V2RingState}
    {placed : List (Nat × RingRecord)}
    (hHolds : Holds sha h0.paneUuid h0.capacityBytes file state placed)
    (hFew : placed.length ≤ hardMaxLinearRecords)
    (hEpoch : state.slotEpoch = p.state.slotEpoch + 1) :
    Visible sha h0 (writeAt file (slotOffset p.nextSlot)
      (encodeV2StateSlot sha (encodeV2BaseHeader h0) state)) ⟨state, placed, p.nextSlot, true⟩ := by
  have hLt := h.slot_lt
  obtain ⟨hNext, hCases⟩ := Point.nextSlot_cases hLt
  have hLen := length_encodeV2StateSlot sha (encodeV2BaseHeader h0) state
  have hOffset := slotOffset_eq hNext
  have hAgree : ∀ start stop, stop ≤ slotOffset p.nextSlot ∨ slotOffset p.nextSlot + 64 ≤ start →
      Agree (writeAt file (slotOffset p.nextSlot)
        (encodeV2StateSlot sha (encodeV2BaseHeader h0) state)) file start stop :=
    fun start stop hApart => agree_writeAt (by omega)
  have hOtherSlot : Agree (writeAt file (slotOffset p.nextSlot)
      (encodeV2StateSlot sha (encodeV2BaseHeader h0) state)) file (slotOffset (1 - p.nextSlot))
      (slotOffset (1 - p.nextSlot) + v2StateSlotSize) := by
    have hOther := slotOffset_eq (show 1 - p.nextSlot < 2 by omega)
    unfold v2StateSlotSize
    exact hAgree _ _ (by omega)
  refine ⟨(readAt_congr (hAgree 0 (0 + 64) (by omega))).trans h.identified, hNext, ?_, ?_,
    hHolds.congr (fun offset record _ => hAgree _ _ (by unfold headerSize; omega)), hFew⟩
  · have hRead := readAt_writeAt file (slotOffset p.nextSlot)
      (encodeV2StateSlot sha (encodeV2BaseHeader h0) state)
    rw [hLen] at hRead
    exact hRead
  · rcases hCases with ⟨_, hSame⟩ | ⟨_, _⟩
    · rw [hSame] at hOtherSlot ⊢
      rcases h.other with hZero | ⟨older, hFits, hOlder, hOld⟩
      · exact .inl ((readAt_congr hOtherSlot).trans hZero)
      · exact .inr ⟨older, hFits, hOlder.congr hOtherSlot, by dsimp only; omega⟩
    · have hBack : 1 - p.nextSlot = p.slot := by omega
      rw [hBack] at hOtherSlot ⊢
      exact .inr ⟨p.state, h.holds.fits, h.slot.congr hOtherSlot, by dsimp only; omega⟩

/-- The header is zero behind the telemetry. -/
theorem encodeV2BaseHeader_eq (hRing : h0.Ring) : ∃ front : List UInt8, front.length = 88 ∧
    encodeV2BaseHeader h0 = front ++ List.replicate 168 0 := by
  refine ⟨_, ?_, rfl⟩
  simp [encodeIdentity, encodeTelemetry, fileMagic, length_leBytes,
    hRing.paneUuid]

theorem length_encodeV2BaseHeader {header : ScrollbackHeader}
    (hPane : header.paneUuid.length = 32) : (encodeV2BaseHeader header).length = 256 := by
  unfold encodeV2BaseHeader encode
  rw [length_append, length_append, length_replicate]
  simp [encodeIdentity, encodeTelemetry, fileMagic, length_leBytes,
    hPane]

theorem V2RingState.fresh_fits {capacityBytes : Nat} (hCap : capacityBytes < 2 ^ 32) :
    (V2RingState.fresh capacityBytes).Fits where
  slotEpoch := by change 1 ≤ u64Max; decide
  head := Nat.two_pow_pos 32
  tail := Nat.two_pow_pos 32
  wrapAt := hCap
  recordCount := Nat.two_pow_pos 32
  generation := Nat.zero_le _
  nextSequence := Nat.zero_le _

theorem V2RingState.fresh_holds (file : Bytes) (hRing : h0.Ring) (hCap : 0 < h0.capacityBytes) :
    Holds sha h0.paneUuid h0.capacityBytes file (.fresh h0.capacityBytes) [] where
  capacity_lt := hRing.capacity
  fits := V2RingState.fresh_fits hRing.capacity
  layout := .empty hCap
  stored := nofun
  count := rfl
  count_le := Nat.le_refl 0
  numbered := trivial
  aged := trivial

/-- A new file is as its first state says. -/
theorem visible_create (hRing : h0.Ring) (hCap : 0 < h0.capacityBytes) :
    Visible sha h0 (writeAt zeroFile 0 (initialBytes sha h0 (.fresh h0.capacityBytes)))
      ⟨.fresh h0.capacityBytes, [], 0, false⟩ := by
  obtain ⟨front, hFront, hBase⟩ := encodeV2BaseHeader_eq hRing
  have hSlot := length_encodeV2StateSlot sha (encodeV2BaseHeader h0) (.fresh h0.capacityBytes)
  have hDrop : (encodeV2BaseHeader h0).drop 152 = replicate 104 0 := by
    rw [hBase, drop_append, drop_eq_nil_of_le (by omega), hFront, nil_append, drop_replicate]
  have hTake : (encodeV2BaseHeader h0).take 88 = front := by
    rw [hBase, take_append_of_le_length (by omega), take_of_length_le (by omega)]
  -- the file starts with the header up to the slots, the first slot, and zeros
  have hBytes : initialBytes sha h0 (.fresh h0.capacityBytes) =
      front ++ encodeV2StateSlot sha (encodeV2BaseHeader h0) (.fresh h0.capacityBytes) ++
        replicate 104 0 := by
    change (encodeV2BaseHeader h0).take 88 ++ _ ++ (encodeV2BaseHeader h0).drop 152 = _
    rw [hTake, hDrop]
  generalize initialBytes sha h0 (.fresh h0.capacityBytes) = bytes at hBytes ⊢
  have hLen : bytes.length = 256 := by
    rw [hBytes, length_append, length_append, hFront, hSlot, length_replicate]
  have hRead := readAt_writeAt zeroFile 0 bytes
  rw [hLen] at hRead
  have hPart : ∀ start width, start + width ≤ 256 →
      readAt (writeAt zeroFile 0 bytes) start width = (bytes.drop start).take width := by
    intro start width hEnd
    have hSlice : ((readAt (writeAt zeroFile 0 bytes) 0 256).drop start).take width =
        readAt (writeAt zeroFile 0 bytes) (0 + start) width := readAt_slice hEnd
    rw [hRead, Nat.zero_add] at hSlice
    exact hSlice.symm
  refine ⟨?_, Nat.two_pos, ?_, .inl ?_, V2RingState.fresh_holds _ hRing hCap, Nat.zero_le _⟩
  · unfold Identified
    rw [hPart 0 64 (by decide), drop_zero, hBytes, append_assoc,
      take_append_of_le_length (by omega), hBase, take_append_of_le_length (by omega)]
  · change readAt _ 88 64 = _
    rw [hPart 88 64 (by decide), hBytes, append_assoc, drop_append,
      drop_eq_nil_of_le (by omega), hFront, nil_append, drop_zero,
      take_append_of_le_length (by omega), take_of_length_le (by omega)]
  · change readAt _ 152 64 = _
    rw [hPart 152 64 (by decide), hBytes, drop_append, drop_eq_nil_of_le
      (by rw [length_append, hFront, hSlot]), length_append, hFront, hSlot,
      nil_append, drop_zero, take_replicate]
    rfl

/-- A write in the ring where there is room leaves the published state alone. -/
theorem Visible.write_free (h : Visible sha h0 file p)
    (hPrepared : Prepared sha h0 file p prepared record) (start : Nat) (data : List UInt8)
    (hStart : headerSize + prepared.tail ≤ start)
    (hEnd : start + data.length ≤ headerSize + prepared.tail + record.len) :
    Visible sha h0 (writeAt file start data) p ∧
      Prepared sha h0 (writeAt file start data) p prepared record := by
  have hRecords : ∀ offset old, (offset, old) ∈ p.placed →
      Agree (writeAt file start data) file (headerSize + offset) (headerSize + offset + old.len) :=
    fun offset old hMem => agree_writeAt <| by
      have := Room.disjoint hPrepared.holds.layout hPrepared.room hMem
      omega
  unfold headerSize at hStart
  exact ⟨h.congr (agree_writeAt (by omega)) (agree_writeAt (by omega)) hRecords,
    hPrepared.congr hRecords⟩

/-- **What is in the file at every point of a trace.** -/
theorem Trace.visible (hRing : h0.Ring) (hCap : 0 < h0.capacityBytes)
    (h : Trace sha h0 ops p stage) :
    Visible sha h0 (visible ops) p ∧ stage.Visible sha h0 (ScrollbackRing.visible ops) p := by
  induction h with
  | create => exact ⟨visible_create hRing hCap, trivial⟩
  | @telemetry ops p stage data _ _ ih =>
    obtain ⟨hVisible, hStage⟩ := ih
    rw [visible_write]
    have hAgree : ∀ start stop, stop ≤ 64 ∨ 88 ≤ start →
        Agree (writeAt (ScrollbackRing.visible ops) 64 data) (ScrollbackRing.visible ops) start
          stop := fun start stop hApart => agree_writeAt (by omega)
    have hRecords : ∀ offset record, (offset, record) ∈ p.placed →
        Agree (writeAt (ScrollbackRing.visible ops) 64 data) (ScrollbackRing.visible ops)
          (headerSize + offset) (headerSize + offset + record.len) :=
      fun offset record _ => hAgree _ _ (by unfold headerSize; omega)
    refine ⟨hVisible.congr (hAgree _ _ (by omega)) (hAgree _ _ (by omega)) hRecords, ?_⟩
    cases stage with
    | rest => trivial
    | evicting => trivial
    | header =>
      exact ⟨hStage.1.congr hRecords,
        (readAt_congr (hAgree _ _ (by unfold headerSize; omega))).trans hStage.2⟩
    | body =>
      exact ⟨hStage.1.congr hRecords, hStage.2.congr (hAgree _ _ (by unfold headerSize; omega))⟩
  | sync _ _ ih =>
    obtain ⟨hVisible, _⟩ := ih
    rw [visible_sync]
    exact ⟨⟨hVisible.identified, hVisible.slot_lt, hVisible.slot, hVisible.other, hVisible.holds,
      hVisible.few⟩, trivial⟩
  | evict _ hHolds hKept hEpoch _ ih =>
    unfold slotWrite
    rw [visible_write]
    exact ⟨ih.1.publish hHolds (Nat.le_trans hKept.length_le ih.1.few) hEpoch, trivial⟩
  | @header _ _ prepared record _ hPrepared ih =>
    rw [visible_write]
    have hLen := record.length_header sha h0.paneUuid
    obtain ⟨hVisible, hAfter⟩ := ih.1.write_free hPrepared (headerSize + prepared.tail)
      (record.header sha h0.paneUuid) (Nat.le_refl _)
      (by rw [hLen]; unfold len; omega)
    refine ⟨hVisible, hAfter, ?_⟩
    rw [← hLen]
    exact readAt_writeAt _ _ _
  | @body _ _ prepared record _ ih =>
    obtain ⟨hVisible, hPrepared, hHeader⟩ := ih
    rw [visible_write]
    obtain ⟨hVisible, hAfter⟩ := hVisible.write_free hPrepared
      (headerSize + prepared.tail + v2RecordHeaderSize) record.payload (Nat.le_add_right _ _)
      (by unfold len; omega)
    refine ⟨hVisible, hAfter, ?_⟩
    unfold Stored len
    rw [readAt_add, readAt_congr (agree_writeAt (.inr (Nat.le_refl _))), hHeader, readAt_writeAt]
  | @publish _ _ prepared _ _ hFits _ ih =>
    obtain ⟨hVisible, hPrepared, hStored⟩ := ih
    unfold slotWrite
    rw [visible_write]
    refine ⟨hVisible.publish (hPrepared.holds.push hPrepared.room hStored hPrepared.fits
      hPrepared.sequence hPrepared.generation hFits) ?_ ?_, trivial⟩
    · have := hPrepared.holds.count
      rw [length_append, length_singleton]
      omega
    · change prepared.slotEpoch + 1 = _
      rw [hPrepared.slotEpoch]

/-- The limits let a reader take everything that a ring can hold. -/
structure LinearRecordReadLimits.Suffice (limits : LinearRecordReadLimits) (capacityBytes : Nat) :
    Prop where
  records : hardMaxLinearRecords ≤ limits.maxRecords
  payload : capacityBytes ≤ limits.maxPayloadBytes

/-- The other slot of a file that is as a point says. -/
theorem Visible.observe_other (h : Visible sha h0 file p) :
    observeSlot sha file (1 - p.slot) ≠ .invalid ∧
      ∀ other, observeSlot sha file (1 - p.slot) = .valid other →
        other.slotEpoch < p.state.slotEpoch := by
  rcases h.other with hZero | ⟨older, hFits, hOlder, hEpoch⟩
  · have hEmpty : observeSlot sha file (1 - p.slot) = .empty := by
      rw [observeSlot_eq (by omega), hZero, observeSlotBytes_zero]
    rw [hEmpty]
    exact ⟨nofun, nofun⟩
  · have hValid := observeSlot_of_holds (by omega) h.identified hFits hOlder
    rw [hValid]
    refine ⟨nofun, fun other hOther => ?_⟩
    cases hOther
    exact hEpoch

/-- A file that is as a point says reads as the records of the point. -/
theorem Visible.reads (hRing : h0.Ring) (h : Visible sha h0 file p)
    (hLimits : limits.Suffice h0.capacityBytes) :
    Reads sha file h0.capacityBytes limits ((p.placed.map Prod.snd).map content) := by
  obtain ⟨hOther, hOlder⟩ := h.observe_other
  have hCount := h.holds.count
  have hFew := h.few
  have hRecords := hLimits.records
  exact reads_of_slot hRing h.identified h.slot_lt
    (observeSlot_of_holds h.slot_lt h.identified h.holds.fits h.slot) hOther hOlder h.holds
    (by omega) hLimits.payload

end Visible

end FrankenTerm.Ports.ScrollbackRing
