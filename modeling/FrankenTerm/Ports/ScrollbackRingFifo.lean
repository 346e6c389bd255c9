import FrankenTerm.Ports.ScrollbackRingTrace

/-!
# The scrollback ring is a bounded queue

The writer follows the protocol of `Trace`: `Tracks` relates its fields to the point that its
operations have reached, and each of its calls keeps this relation.  So what is true of traces is true
of everything a writer does.  In particular a reader always gets a suffix of the records that have
been appended, with the last one at its end.

## Main results

* `Tracks.sync`, `Tracks.append` — what the calls of a writer do.
* `ring_refines_bounded_fifo` — the ring is a bounded queue.
* `reopen_resumes` — a writer that is opened again goes on where the last one stopped.
* `append_makes_room_iff` — an append finds room unless the ring is full and in its way.
-/

namespace FrankenTerm.Ports.ScrollbackRing

open Verified Verified.Check Verified.TornFile Verified.RingLayout RingRecord MmapScrollback

/-! ## The writer and its trace -/

/-- The two headers have the part in common that never changes. -/
structure ScrollbackHeader.Same (header h0 : ScrollbackHeader) : Prop where
  bytes : (encodeV2BaseHeader header).take 64 = (encodeV2BaseHeader h0).take 64
  capacity : header.capacityBytes = h0.capacityBytes
  paneUuid : header.paneUuid = h0.paneUuid

/-- **The writer has come to a point of its trace.** -/
structure Tracks (sha : Sha256) (h0 : ScrollbackHeader) (w : MmapScrollback) (p : Point)
    (stage : Stage) : Prop where
  trace : Trace sha h0 w.ops p stage
  file : w.file = visible w.ops
  same : w.header.Same h0
  state : w.v2State = p.state
  slot : w.activeStateSlot = p.slot
  dirty : w.stateSlotDirty = p.dirty
  used : w.usedBytes = span len (p.placed.map Prod.snd)

/-- The header of a ring with room for a record. -/
structure ScrollbackHeader.Usable (h0 : ScrollbackHeader) : Prop extends h0.Ring where
  room : v2RecordHeaderSize < h0.capacityBytes

open ScrollbackHeader

section Tracks

variable {sha : Sha256} {h0 : ScrollbackHeader} {w : MmapScrollback} {p : Point} {stage : Stage}

theorem ScrollbackHeader.Same.slot_eq {header : ScrollbackHeader} (h : header.Same h0)
    (state : V2RingState) : encodeV2StateSlot sha (encodeV2BaseHeader header) state =
      encodeV2StateSlot sha (encodeV2BaseHeader h0) state := by
  unfold encodeV2StateSlot v2StateChecksum
  rw [h.bytes]

/-- The telemetry and the cursor are not part of what never changes. -/
theorem ScrollbackHeader.Same.of_telemetry {header other : ScrollbackHeader} (h : header.Same h0)
    (hRing : h0.Ring) (hFlags : other.flags = header.flags)
    (hCapacity : other.capacityBytes = header.capacityBytes)
    (hPane : other.paneUuid = header.paneUuid)
    (hCreated : other.createdAtEpochMs = header.createdAtEpochMs) : other.Same h0 := by
  refine ⟨?_, hCapacity.trans h.capacity, hPane.trans h.paneUuid⟩
  rw [← h.bytes]
  have hLen : ∀ some : ScrollbackHeader, some.paneUuid = header.paneUuid →
      ({ some with writeCursorBytes := 0 } : ScrollbackHeader).encodeIdentity.length = 64 := by
    intro some hSome
    simp [encodeIdentity, fileMagic, Records.length_leBytes, hSome, h.paneUuid,
      hRing.paneUuid]
  unfold encodeV2BaseHeader encode
  rw [List.append_assoc, List.append_assoc, List.take_append_of_le_length (by rw [hLen _ hPane]),
    List.take_append_of_le_length (by rw [hLen _ rfl])]
  unfold encodeIdentity
  rw [hFlags, hCapacity, hPane, hCreated]

theorem publishV2State_eq (hEpoch : w.v2State.slotEpoch + 1 ≤ u64Max) :
    w.publishV2State sha = .ok (w.published sha) := if_neg (by omega)

/-- The writer behind a publication that its trace allows. -/
theorem tracks_published {placed : List (Nat × RingRecord)} (hFile : w.file = visible w.ops)
    (hSame : w.header.Same h0) (hUsed : w.usedBytes = span len (placed.map Prod.snd))
    (hTrace : Trace sha h0 (w.ops ++ [slotWrite sha h0 w.nextSlot w.nextState])
      ⟨w.nextState, placed, w.nextSlot, true⟩ stage) :
    Tracks sha h0 (w.published sha) ⟨w.nextState, placed, w.nextSlot, true⟩ stage := by
  refine ⟨?_, ?_, hSame, rfl, rfl, rfl, hUsed⟩
  · unfold published write
    rw [hSame.slot_eq]
    exact hTrace
  · change writeAt w.file _ _ = visible (w.ops ++ [_])
    rw [visible_write, hFile]

theorem Tracks.nextSlot_eq (h : Tracks sha h0 w p stage) : w.nextSlot = p.nextSlot := by
  unfold nextSlot Point.nextSlot
  rw [h.dirty, h.slot]

/-- The state with the record fits its slot, where no counter is exhausted. -/
theorem publishedState_fits {file : Bytes} {prepared : V2RingState} {record : RingRecord}
    (h : Prepared sha h0 file p prepared record)
    (hFew : prepared.recordCount < hardMaxLinearRecords)
    (hEpoch : prepared.slotEpoch + 1 ≤ u64Max) (hSequence : prepared.nextSequence + 1 ≤ u64Max)
    (hGeneration : prepared.tail + record.len = h0.capacityBytes →
      prepared.generation + 1 ≤ u64Max) : (publishedState h0 prepared record).Fits := by
  have hCap := h.holds.capacity_lt
  have hFits := h.holds.fits
  have hEnd := Room.end_le len_pos h.holds.layout h.room
  unfold hardMaxLinearRecords at hFew
  refine ⟨hEpoch, ?_, ?_, ?_, ?_, ?_, hSequence⟩ <;> dsimp only [publishedState, commitState]
  · split_ifs
    · exact hFits.tail
    · exact hFits.head
  · split_ifs
    · exact Nat.two_pow_pos 32
    · omega
  · split_ifs
    · exact hCap
    · exact hFits.wrapAt
  · omega
  · split_ifs with hFull
    · exact hGeneration hFull
    · exact hFits.generation

/-- The state of a plan is prepared for the record. -/
theorem prepared_recordOf {file : Bytes} {state : V2RingState} {payload : List UInt8}
    (hHolds : Holds sha h0.paneUuid h0.capacityBytes file state p.placed)
    (hRoom : Room h0.capacityBytes state.head state.tail p.placed
      (v2RecordHeaderSize + payload.length))
    (hEpoch : state.slotEpoch = p.state.slotEpoch)
    (hSequence : state.nextSequence = p.state.nextSequence) (kind : RecordKind) :
    Prepared sha h0 file p state (recordOf state kind payload) := by
  have hEnd := Room.end_le len_pos hHolds.layout hRoom
  have hCap := hHolds.capacity_lt
  exact ⟨hHolds, hRoom, ⟨by change payload.length < _; omega, hHolds.fits.generation,
    hHolds.fits.nextSequence⟩, hEpoch, hSequence, rfl, rfl⟩

/-- The last bytes of a payload, as many as fit. -/
def cutPayload (capacityBytes : Nat) (bytes : List UInt8) : List UInt8 :=
  bytes.drop (bytes.length - (capacityBytes - v2RecordHeaderSize))

/-- No counter of the writer can run out during an append. -/
structure MmapScrollback.Unexhausted (w : MmapScrollback) : Prop where
  slotEpoch : w.v2State.slotEpoch + 2 ≤ u64Max
  nextSequence : w.v2State.nextSequence + 1 ≤ u64Max
  generation : w.v2State.generation + 2 ≤ u64Max

variable (hUsable : h0.Usable)

include hUsable

theorem length_cutPayload (bytes : List UInt8) :
    v2RecordHeaderSize + (cutPayload h0.capacityBytes bytes).length ≤ h0.capacityBytes := by
  have hRoom := hUsable.room
  unfold cutPayload
  rw [List.length_drop]
  omega

theorem Tracks.fit (h : Tracks sha h0 w p stage) (bytes : List UInt8) :
    fitPayloadToCapacity bytes w.header.capacityBytes = .ok (cutPayload h0.capacityBytes bytes) := by
  have hRoom := hUsable.room
  rw [h.same.capacity]
  exact if_neg (by omega)

theorem Tracks.visible (h : Tracks sha h0 w p stage) :
    Visible sha h0 w.file p := by
  rw [h.file]
  exact (h.trace.visible hUsable.toRing (Nat.zero_lt_of_lt hUsable.room)).1

/-- What the writer retains, as its planner sees it. -/
theorem Tracks.retains (h : Tracks sha h0 w p stage) :
    AppendPlan.Retains sha w ⟨w.v2State, w.usedBytes, false⟩ p.placed := by
  refine ⟨?_, h.used⟩
  rw [h.same.capacity, h.same.paneUuid, h.state]
  exact (h.visible hUsable).holds

/-- **A sync.** -/
theorem Tracks.sync (h : Tracks sha h0 w p stage)
    (hStage : stage = .rest ∨ stage = .evicting) (nowMs : Nat) :
    Tracks sha h0 (w.sync nowMs) { p with dirty := false } .rest := by
  have hPane : ({ w.header with lastMsyncAtEpochMs := nowMs } : ScrollbackHeader).paneUuid.length =
      32 := by
    rw [h.same.paneUuid]
    exact hUsable.paneUuid
  have hLen : (slice (encodeV2BaseHeader { w.header with lastMsyncAtEpochMs := nowMs }) 64
      88).length = 24 := by
    rw [slice, List.length_take, List.length_drop, length_encodeV2BaseHeader hPane]
    rfl
  refine ⟨(h.trace.telemetry hLen).sync hStage, ?_, ?_, h.state, h.slot, rfl, h.used⟩
  · change writeAt w.file 64 _ = ScrollbackRing.visible ((w.ops ++ [_]) ++ [.sync])
    rw [visible_sync, visible_write, h.file]
  · exact h.same.of_telemetry hUsable.toRing rfl rfl rfl rfl

variable (h : Tracks sha h0 w p .rest)

include h

/-- **An eviction is published and synced.** -/
theorem Tracks.evict {plan : AppendPlan} {kept : List (Nat × RingRecord)}
    (hRetains : plan.Retains sha w kept) (hKept : kept <:+ p.placed)
    (hEpoch : plan.state.slotEpoch = w.v2State.slotEpoch)
    (hSequence : plan.state.nextSequence = w.v2State.nextSequence)
    (hBound : w.v2State.slotEpoch + 1 ≤ u64Max) (nowMs : Nat) :
    ∃ cleared, publishEviction sha w plan nowMs = .ok cleared ∧
      cleared.v2State = { plan.state with slotEpoch := plan.state.slotEpoch + 1 } ∧
      Tracks sha h0 cleared
        ⟨{ plan.state with slotEpoch := plan.state.slotEpoch + 1 }, kept, p.nextSlot, false⟩ .rest := by
  have hAdopted : (w.adopt plan.state plan.usedBytes).v2State.slotEpoch + 1 ≤ u64Max := by
    change plan.state.slotEpoch + 1 ≤ u64Max
    omega
  have hHolds := hRetains.holds
  rw [h.same.capacity, h.same.paneUuid, h.file] at hHolds
  have hNext : Holds sha h0.paneUuid h0.capacityBytes (ScrollbackRing.visible w.ops)
      { plan.state with slotEpoch := plan.state.slotEpoch + 1 } kept :=
    { hHolds with fits := { hHolds.fits with slotEpoch := hAdopted } }
  have hSlot : (w.adopt plan.state plan.usedBytes).nextSlot = p.nextSlot := h.nextSlot_eq
  have hTrace := Trace.evict h.trace hNext hKept
    (by rw [← h.state]; change plan.state.slotEpoch + 1 = _; omega)
    (by rw [← h.state]; exact hSequence)
  rw [← hSlot] at hTrace ⊢
  have hPublished := @tracks_published sha h0 (w.adopt plan.state plan.usedBytes) _ _ h.file
    (h.same.of_telemetry hUsable.toRing rfl rfl rfl rfl) hRetains.used hTrace
  unfold publishEviction
  rw [publishV2State_eq hAdopted, ok_bind]
  exact ⟨_, rfl, rfl, hPublished.sync hUsable (.inr rfl) nowMs⟩

/-- The end of an append. -/
theorem Tracks.finish (record : RingRecord) (clock : Clock) :
    ∃ dirty, Tracks sha h0 (w.finishAppend record clock).1 { p with dirty := dirty } .rest := by
  have hCounted : Tracks sha h0 { w with appendsSinceSync := min (w.appendsSinceSync + 1) u64Max } p
      .rest := ⟨h.trace, h.file, h.same, h.state, h.slot, h.dirty, h.used⟩
  unfold finishAppend syncIfDue
  split_ifs
  · exact ⟨false, hCounted.sync hUsable (.inl rfl) _⟩
  · exact ⟨p.dirty, hCounted⟩

/-- **A record is written and published** where the prepared state has room for it. -/
theorem Tracks.commit {prepared : V2RingState} {record : RingRecord} {usedBytes : Nat}
    (hPrepared : Prepared sha h0 (ScrollbackRing.visible w.ops) p prepared record)
    (hUsed : usedBytes = w.usedBytes) (hFew : prepared.recordCount < hardMaxLinearRecords)
    (hEpoch : prepared.slotEpoch + 1 ≤ u64Max) (hSequence : prepared.nextSequence + 1 ≤ u64Max)
    (hGeneration : prepared.tail + record.len = h0.capacityBytes → prepared.generation + 1 ≤ u64Max)
    (replacements : Nat) (clock : Clock) :
    ∃ report dirty, (commitRecord sha w prepared usedBytes record replacements clock).2 =
        .ok report ∧
      Tracks sha h0
        (commitRecord sha w prepared usedBytes record replacements clock).1
        ⟨publishedState h0 prepared record, p.placed ++ [(prepared.tail, record)], p.nextSlot, dirty⟩
        .rest := by
  have hTrace := ((h.trace.header hPrepared).body).publish
    (publishedState_fits hPrepared hFew hEpoch hSequence hGeneration) hFew
  unfold commitRecord
  generalize hReady : w.readyToPublish sha prepared usedBytes record replacements = ready
  have hOps : ready.ops = w.ops ++ [.write (.record record) (headerSize + prepared.tail)
        (record.header sha h0.paneUuid)] ++ [.write .payload
        (headerSize + prepared.tail + v2RecordHeaderSize) record.payload] := by
    rw [← h.same.paneUuid, ← hReady]
    rfl
  have hFile : ready.file = ScrollbackRing.visible ready.ops := by
    rw [hOps, visible_write, visible_write, ← h.file, ← h.same.paneUuid, ← hReady]
    rfl
  have hState : ready.nextState = publishedState h0 prepared record := by
    unfold publishedState
    rw [← h.same.capacity, ← hReady]
    rfl
  have hSlot : ready.nextSlot = p.nextSlot := hReady ▸ h.nextSlot_eq
  have hSame : ready.header.Same h0 := by
    rw [← hReady]
    exact h.same.of_telemetry hUsable.toRing rfl rfl rfl rfl
  have hSpan : ready.usedBytes = span len ((p.placed ++ [(prepared.tail, record)]).map Prod.snd) := by
    rw [List.map_append, span_append, ← h.used, ← hUsed, ← hReady]
    rfl
  have hBound : ready.v2State.slotEpoch + 1 ≤ u64Max := by
    rw [← hReady]
    exact hEpoch
  rw [← hOps, ← hState, ← hSlot] at hTrace
  have hPublished := tracks_published hFile hSame hSpan hTrace
  rw [hState, hSlot] at hPublished
  obtain ⟨dirty, hAfter⟩ := hPublished.finish hUsable record clock
  rw [publishV2State_eq hBound]
  exact ⟨_, dirty, rfl, hAfter⟩

/-! ## Appending -/

/-- How planning ends, for a writer that has come to a point. -/
theorem Tracks.plan (bytes : List UInt8) :
    PlanResult sha w
      (v2RecordHeaderSize + (cutPayload h0.capacityBytes bytes).length)
      ⟨w.v2State, w.usedBytes, false⟩ p.placed
      (FullBehind w p.placed
        (v2RecordHeaderSize + (cutPayload h0.capacityBytes bytes).length))
      (planAppendPosition sha w
        (v2RecordHeaderSize + (cutPayload h0.capacityBytes bytes).length)) := by
  have hVisible := h.visible hUsable
  have hCount := hVisible.holds.count
  have hFew := hVisible.few
  refine planAppendPosition_result ?_ (h.retains hUsable) ?_
  · rw [h.same.capacity]
    exact length_cutPayload hUsable bytes
  · rw [h.state]
    omega

/-- **What an append has prepared** before it writes. -/
theorem Tracks.of_prepareAppend {bytes payload : List UInt8} {plan : AppendPlan}
    (hPrepare : prepareAppend sha w bytes = .ok (payload, plan)) :
    payload = cutPayload h0.capacityBytes bytes ∧
      (∃ kept, Planned sha w (v2RecordHeaderSize + payload.length)
        ⟨w.v2State, w.usedBytes, false⟩ plan p.placed kept) ∧
      (w.v2State.slotEpoch + if plan.evicted then 2 else 1) ≤ u64Max ∧
      plan.state.nextSequence + 1 ≤ u64Max ∧
      (plan.state.tail + (v2RecordHeaderSize + payload.length) = w.header.capacityBytes →
        plan.state.generation + 1 ≤ u64Max) ∧
      ¬FullBehind w p.placed (v2RecordHeaderSize + payload.length) := by
  have hPlan := h.plan hUsable bytes
  unfold prepareAppend at hPrepare
  rw [h.fit hUsable, ok_bind, refuseIf_bind_eq_ok] at hPrepare
  obtain ⟨_, hPrepare⟩ := hPrepare
  obtain ⟨found, hFound, hPrepare⟩ := bind_eq_ok.mp hPrepare
  simp only [refuseIf_bind_eq_ok] at hPrepare
  obtain ⟨_, _, _, _, hUsed, hOk⟩ := hPrepare
  cases hOk
  rw [hFound] at hPlan
  cases hPlan with
  | room hFree hPlanned => exact ⟨rfl, ⟨_, hPlanned⟩, by omega, by omega, by omega, hFree⟩
  | stuck _ hStuck => exact absurd hStuck hUsed

/-- **An append prepares unless the ring is full and some record is in the way.** -/
theorem Tracks.prepareAppend_iff (hCounters : w.Unexhausted) (bytes : List UInt8) :
    (∃ prepared, prepareAppend sha w bytes = .ok prepared) ↔ ¬FullBehind w p.placed
        (v2RecordHeaderSize + (cutPayload h0.capacityBytes bytes).length) := by
  have hPlan := h.plan hUsable bytes
  have hLen := length_cutPayload hUsable bytes
  have hCap := h.same.capacity
  have hBound := hUsable.capacity
  obtain ⟨_, _⟩ := hCounters
  constructor
  · rintro ⟨⟨payload, plan⟩, hPrepare⟩
    obtain ⟨rfl, _, _, _, _, hFree⟩ := h.of_prepareAppend hUsable hPrepare
    exact hFree
  · intro hFree
    unfold prepareAppend
    rw [h.fit hUsable, ok_bind, refuseIf_neg (by omega), ok_bind]
    generalize planAppendPosition sha w
      (v2RecordHeaderSize + (cutPayload h0.capacityBytes bytes).length) = result at hPlan ⊢
    cases hPlan with
    | @room plan _ _ hPlanned =>
      have hUsed := hPlanned.retains.used
      have hSpan := Room.span_le len_pos hPlanned.retains.holds.layout hPlanned.room
      have hFew := hPlanned.few
      have hCount := hPlanned.retains.count
      have hNext := hPlanned.nextSequence
      have hOlder := hPlanned.generation_le
      dsimp only at hNext hOlder
      unfold hardMaxLinearRecords at hFew
      have hSteps : ¬u64Max < w.v2State.slotEpoch + if plan.evicted then 2 else 1 := by
        split_ifs <;> omega
      rw [ok_bind, refuseIf_neg hSteps, ok_bind, refuseIf_neg (by omega), ok_bind,
        refuseIf_neg (by omega), ok_bind, refuseIf_neg (by omega), ok_bind,
        refuseIf_neg (by omega), ok_bind]
      exact ⟨_, rfl⟩
    | stuck hStuck => exact absurd hStuck hFree
    | exhausted hOver =>
      change u64Max < w.v2State.generation + 1 at hOver
      omega

/-- **What an append does**: it is refused and nothing has happened, or the record is retained behind
some of the records that were. -/
theorem Tracks.append (kind : RecordKind) (bytes : List UInt8) (replacements : Nat)
    (clock : Clock) :
    (∃ error, prepareAppend sha w bytes = .error error ∧
        appendRedactedPayload sha w kind bytes replacements clock = (w, .error error)) ∨
      (∃ prepared, prepareAppend sha w bytes = .ok prepared) ∧
      ∃ report after kept offset record,
        (appendRedactedPayload sha w kind bytes replacements clock).2 = .ok report ∧
        Tracks sha h0 (appendRedactedPayload sha w kind bytes replacements clock).1
          after .rest ∧
        kept <:+ p.placed ∧ after.placed = kept ++ [(offset, record)] ∧
        record.content = (kind, cutPayload h0.capacityBytes bytes) := by
  unfold appendRedactedPayload
  cases hPrepare : prepareAppend sha w bytes with
  | error error => exact .inl ⟨error, rfl, rfl⟩
  | ok prepared =>
    obtain ⟨payload, plan⟩ := prepared
    obtain ⟨hPayload, ⟨kept, hPlanned⟩, hEpoch, hSequence, hGeneration, _⟩ :=
      h.of_prepareAppend hUsable hPrepare
    refine .inr ⟨⟨_, rfl⟩, ?_⟩
    have hCount := hPlanned.retains.count
    have hFew := hPlanned.few
    have hRoom := hPlanned.room
    rw [h.same.capacity] at hRoom hGeneration
    have hContent : ∀ state, (recordOf state kind payload).content =
        (kind, cutPayload h0.capacityBytes bytes) := by
      intro state
      rw [← hPayload]
      rfl
    cases hEvicted : plan.evicted with
    | true =>
      rw [hEvicted, if_pos rfl] at hEpoch
      have hPlanEpoch : plan.state.slotEpoch = w.v2State.slotEpoch := hPlanned.slotEpoch
      obtain ⟨cleared, hPublish, hState, hCleared⟩ := h.evict hUsable hPlanned.retains
        hPlanned.suffix hPlanned.slotEpoch hPlanned.nextSequence (by omega) clock.evictionMs
      have hHolds := (hCleared.visible hUsable).holds
      rw [hCleared.file] at hHolds
      obtain ⟨report, dirty, hReport, hAfter⟩ := hCleared.commit hUsable
        (prepared_recordOf hHolds hRoom rfl rfl kind)
        (hPlanned.retains.used.trans hCleared.used.symm) (by dsimp only; omega)
        (by dsimp only; omega) hSequence hGeneration replacements clock
      simp only [hEvicted, if_true, hPublish, hState]
      exact ⟨report, _, kept, _, _, hReport, hAfter, hPlanned.suffix, rfl, hContent _⟩
    | false =>
      rw [hEvicted] at hEpoch
      simp only [Bool.false_eq_true, if_false] at hEpoch
      have hAll := hPlanned.all hEvicted
      subst hAll
      have hPlanEpoch : plan.state.slotEpoch = w.v2State.slotEpoch := hPlanned.slotEpoch
      have hHolds := hPlanned.retains.holds
      rw [h.same.capacity, h.same.paneUuid, h.file] at hHolds
      obtain ⟨report, dirty, hReport, hAfter⟩ := h.commit hUsable
        (prepared_recordOf hHolds hRoom (by rw [hPlanEpoch, h.state])
          (hPlanned.nextSequence.trans (by rw [← h.state])) kind)
        (hPlanned.retains.used.trans h.used.symm) (by omega) (by omega) hSequence hGeneration
        replacements clock
      simp only [hEvicted, Bool.false_eq_true, if_false]
      exact ⟨report, _, p.placed, _, _, hReport, hAfter, List.suffix_refl _, rfl, hContent _⟩

end Tracks

/-- **A new file.** -/
theorem create_tracks (sha : Sha256) (config : RingConfig) {capBytes : Nat}
    (hCap : normalizeCapBytes config.capBytes = .ok capBytes) (createdMs nowMs : Nat) :
    (config.header capBytes createdMs nowMs).Usable ∧
      ∃ w, create sha config createdMs nowMs = .ok w ∧
        Tracks sha (config.header capBytes createdMs nowMs) w ⟨.fresh capBytes, [], 0, false⟩
          .rest := by
  have hBounds : v2RecordHeaderSize < capBytes ∧ capBytes ≤ maxCapBytes := by
    unfold normalizeCapBytes at hCap
    split_ifs at hCap
    cases hCap
    omega
  have hMax : maxCapBytes < 2 ^ 32 := by decide
  refine ⟨⟨⟨rfl, ?_, config.length_paneUuid⟩, hBounds.1⟩, ?_⟩
  · change capBytes < 2 ^ 32
    omega
  · unfold create
    rw [hCap, ok_bind]
    exact ⟨_, rfl, Trace.create, rfl, ⟨rfl, rfl, rfl⟩, rfl, rfl, rfl, rfl⟩

/-! ## Runs of a writer -/

/-- A call of a writer. -/
inductive RingCall where
  | append (kind : RecordKind) (bytes : List UInt8) (replacements : Nat) (clock : Clock)
  | sync (nowMs : Nat)

/-- The writer behind a call. -/
def RingCall.run (sha : Sha256) (w : MmapScrollback) : RingCall → MmapScrollback
  | .append kind bytes replacements clock =>
    (w.appendRedactedPayload sha kind bytes replacements clock).1
  | .sync nowMs => w.sync nowMs

/-- The record that a call appends, if it succeeds: the payload is cut to what fits. -/
def RingCall.appends (sha : Sha256) (w : MmapScrollback) :
    RingCall → Option (RecordKind × List UInt8)
  | .append kind bytes replacements clock =>
    match (w.appendRedactedPayload sha kind bytes replacements clock).2 with
    | .ok _ => some (kind, cutPayload w.header.capacityBytes bytes)
    | .error _ => none
  | .sync _ => none

/-- The writer behind some calls. -/
def runCalls (sha : Sha256) (w : MmapScrollback) (calls : List RingCall) : MmapScrollback :=
  calls.foldl (RingCall.run sha) w

/-- The records that some calls append. -/
def appended (sha : Sha256) : MmapScrollback → List RingCall → List (RecordKind × List UInt8)
  | _, [] => []
  | w, call :: calls => (call.appends sha w).toList ++ appended sha (call.run sha w) calls

/-- What a reader gets of the records at a point. -/
def Point.contents (p : Point) : List (RecordKind × List UInt8) :=
  (p.placed.map Prod.snd).map content

section Runs

variable {sha : Sha256} {h0 : ScrollbackHeader} {w : MmapScrollback} {p : Point}

/-- One call. -/
theorem Tracks.call (hUsable : h0.Usable) (h : Tracks sha h0 w p .rest) (call : RingCall) :
    ∃ after, Tracks sha h0 (call.run sha w) after .rest ∧
      ∃ kept, kept <:+ p.contents ∧ after.contents = kept ++ (call.appends sha w).toList := by
  cases call with
  | sync nowMs =>
    exact ⟨_, h.sync hUsable (.inl rfl) nowMs, _, List.suffix_refl _, (List.append_nil _).symm⟩
  | append kind bytes replacements clock =>
    rcases h.append hUsable kind bytes replacements clock with
      ⟨error, _, hError⟩ | ⟨_, report, after, kept, offset, record, hReport, hAfter, hKept, hPlaced,
        hContent⟩
    · unfold RingCall.run RingCall.appends
      dsimp only
      rw [hError]
      exact ⟨p, h, _, List.suffix_refl _, (List.append_nil _).symm⟩
    · unfold RingCall.run RingCall.appends
      dsimp only
      rw [hReport]
      refine ⟨after, hAfter, (kept.map Prod.snd).map content, (hKept.map Prod.snd).map content, ?_⟩
      unfold Point.contents
      rw [hPlaced, List.map_append, List.map_append, h.same.capacity]
      change _ ++ [record.content] = _
      rw [hContent]
      rfl

/-- **A run**: the records at its end are a suffix of what has been appended. -/
theorem Tracks.calls (hUsable : h0.Usable) (h : Tracks sha h0 w p .rest) (calls : List RingCall)
    (past : List (RecordKind × List UInt8)) (hPast : p.contents <:+ past) :
    ∃ after, Tracks sha h0 (runCalls sha w calls) after .rest ∧
      after.contents <:+ past ++ appended sha w calls := by
  induction calls generalizing w p past with
  | nil =>
    rw [appended, List.append_nil]
    exact ⟨p, h, hPast⟩
  | cons call _ ih =>
    obtain ⟨next, hNext, kept, hKept, hContents⟩ := h.call hUsable call
    have hSuffix : next.contents <:+ past ++ (call.appends sha w).toList := by
      obtain ⟨front, hFront⟩ := hKept.trans hPast
      rw [hContents, ← hFront, List.append_assoc]
      exact List.suffix_append _ _
    obtain ⟨after, hAfter, hAppended⟩ := ih hNext _ hSuffix
    rw [List.append_assoc] at hAppended
    exact ⟨after, hAfter, hAppended⟩

end Runs

/-! ## A bounded queue -/

/-- **The ring is a bounded queue.**  After any calls on a new file, a reader gets a suffix of the
records that have been appended, and their lengths are the used bytes.  Behind one more append this
suffix ends with the new record, cut to its last bytes; or the append is refused, and the reader gets
a suffix of what it got before. -/
theorem ring_refines_bounded_fifo (sha : Sha256) (config : RingConfig) {capBytes : Nat}
    (hCap : normalizeCapBytes config.capBytes = .ok capBytes) (createdMs nowMs : Nat) :
    ∃ w, create sha config createdMs nowMs = .ok w ∧ ∀ calls : List RingCall,
      ∃ kept, kept <:+ appended sha w calls ∧ (runCalls sha w calls).usedBytes =
          (kept.map fun record => v2RecordHeaderSize + record.2.length).sum ∧
        (runCalls sha w calls).usedBytes ≤ capBytes ∧
        (∀ limits : LinearRecordReadLimits, limits.Suffice capBytes →
          Reads sha (runCalls sha w calls).file capBytes limits kept) ∧
        ∀ kind bytes replacements clock,
          match (runCalls sha w calls).appendRedactedPayload sha kind bytes replacements clock with
          | (after, .ok _) => ∃ rest, rest <:+ kept ∧
              ∀ limits : LinearRecordReadLimits, limits.Suffice capBytes →
                Reads sha after.file capBytes limits
                  (rest ++ [(kind, bytes.drop (bytes.length - (capBytes - v2RecordHeaderSize)))])
          | (after, .error _) => ∃ rest, rest <:+ kept ∧
              ∀ limits : LinearRecordReadLimits, limits.Suffice capBytes →
                Reads sha after.file capBytes limits rest := by
  obtain ⟨hUsable, w, hCreate, hTracks⟩ := create_tracks sha config hCap createdMs nowMs
  refine ⟨w, hCreate, fun calls => ?_⟩
  obtain ⟨p, hRun, hSuffix⟩ := hTracks.calls hUsable calls [] (List.suffix_refl _)
  have hVisible := hRun.visible hUsable
  have hSpan := hVisible.holds.layout.span_le
  refine ⟨p.contents, hSuffix, ?_, ?_, ?_, ?_⟩
  · rw [hRun.used, Point.contents, List.map_map (f := content)]
    rfl
  · rw [hRun.used]
    exact hSpan
  · exact fun limits hLimits => hVisible.reads hUsable.toRing hLimits
  · intro kind bytes replacements clock
    rcases hRun.append hUsable kind bytes replacements clock with
      ⟨error, _, hError⟩ | ⟨_, report, after, kept, offset, record, hReport, hAfter, hKept, hPlaced,
        hContent⟩
    · rw [hError]
      exact ⟨p.contents, List.suffix_refl _,
        fun limits hLimits => hVisible.reads hUsable.toRing hLimits⟩
    · generalize hResult : (runCalls sha w calls).appendRedactedPayload sha kind bytes replacements
        clock = result at hReport hAfter
      obtain ⟨writer, outcome⟩ := result
      subst hReport
      refine ⟨(kept.map Prod.snd).map content,
        (hKept.map Prod.snd).map content, fun limits hLimits => ?_⟩
      have hReads := (hAfter.visible hUsable).reads hUsable.toRing hLimits
      rw [hPlaced, List.map_append, List.map_append] at hReads
      change Reads sha _ _ _ (_ ++ [record.content]) at hReads
      rw [hContent] at hReads
      exact hReads

/-- A digest to compute with. -/
def foldSha : Sha256 where
  digest bytes := Records.leBytes 32
    (bytes.foldl (fun acc byte => (acc * 257 + byte.toNat + 1) % 2 ^ 256) 1)
  length_digest _ := Records.length_leBytes _ _

def smallRing (capBytes : Nat) : RingConfig where
  capBytes := capBytes
  paneUuid := List.replicate 32 7
  length_paneUuid := List.length_replicate
  syncEveryAppends := 64

/-- A text of some length. -/
def textOf (length : Nat) : RingCall := .append .text (List.replicate length 97) 0 {}

theorem small_ring_reads : ∃ w, create foldSha (smallRing 130) 0 0 = .ok w ∧
    ∃ kept, kept <:+ appended foldSha w [textOf 2, textOf 0, textOf 2] ∧
      Reads foldSha (runCalls foldSha w [textOf 2, textOf 0, textOf 2]).file 130
        ⟨hardMaxLinearRecords, 130⟩ kept := by
  obtain ⟨w, hCreate, hRun⟩ := ring_refines_bounded_fifo foldSha (smallRing 130) rfl 0 0
  obtain ⟨kept, hKept, _, _, hReads, _⟩ := hRun [textOf 2, textOf 0, textOf 2]
  exact ⟨w, hCreate, kept, hKept, hReads _ ⟨Nat.le_refl _, Nat.le_refl _⟩⟩

/-! ## A file that is opened again -/

/-- A writer that is opened finds the state that the file shows. -/
theorem Visible.load {sha : Sha256} {h0 header : ScrollbackHeader} {file : Bytes} {p : Point}
    (h : Visible sha h0 file p) (hFlags : header.flags = v2RingFlag)
    (hCursor : header.writeCursorBytes = 0) (hCapacity : header.capacityBytes = h0.capacityBytes)
    (hPane : header.paneUuid = h0.paneUuid)
    (hLimit : header.capacityBytes ≤ hardMaxLinearRecordPayloadBytes) :
    loadV2WriterState sha file (readAt file 0 headerSize) header =
      .ok ⟨p.state, p.slot, span len (p.placed.map Prod.snd)⟩ := by
  obtain ⟨hOther, hOlder⟩ := h.observe_other
  have hSlot := observeSlot_of_holds h.slot_lt h.identified h.holds.fits h.slot
  have hEpoch := fun other hValid => Nat.ne_of_lt (hOlder other hValid)
  have hNewest : (candidatesFrom p.state p.slot (observeSlot sha file (1 - p.slot))).2 = false ∧
      (candidatesFrom p.state p.slot (observeSlot sha file (1 - p.slot))).1.head? =
        some (p.state, p.slot) := by
    cases hCase : observeSlot sha file (1 - p.slot) with
    | empty => exact ⟨rfl, rfl⟩
    | invalid => exact absurd hCase hOther
    | valid other =>
      rw [candidatesFrom, if_pos (hOlder other hCase)]
      exact ⟨rfl, rfl⟩
  have hHolds := h.holds
  rw [← hCapacity, ← hPane] at hHolds
  have hDecode := @decodeV2RecordsForState_of_holds _ _ _ _
    ⟨hardMaxLinearRecords, hardMaxLinearRecordPayloadBytes⟩ _ hHolds (h.holds.count ▸ h.few) hLimit
  unfold loadV2WriterState
  rw [refuseIf_neg (by simp [hCursor, hFlags]), ok_bind]
  dsimp only
  rw [v2SlotCandidates_eq h.slot_lt hSlot hEpoch, hNewest.1, hNewest.2,
    (candidatesFrom_unambiguous p.slot hEpoch).2, refuseIf_neg (by decide), ok_bind,
    refuseIf_neg (by decide), ok_bind]
  simp only [okOr, ok_bind, hDecode]
  rfl

/-- **A writer that is opened again goes on where the last one stopped.** -/
theorem reopen_resumes (sha : Sha256) (config : RingConfig) {capBytes : Nat}
    (hCap : normalizeCapBytes config.capBytes = .ok capBytes) (createdMs nowMs : Nat) :
    ∃ w, create sha config createdMs nowMs = .ok w ∧ ∀ calls : List RingCall,
      let ring := runCalls sha w calls
      ∃ again, reopen sha config ring.file (headerSize + capBytes) ring.ops = .ok again ∧
        again.v2State = ring.v2State ∧ again.activeStateSlot = ring.activeStateSlot ∧
        again.usedBytes = ring.usedBytes := by
  obtain ⟨hUsable, w, hCreate, hTracks⟩ := create_tracks sha config hCap createdMs nowMs
  refine ⟨w, hCreate, fun calls => ?_⟩
  obtain ⟨p, hRun, _⟩ := hTracks.calls hUsable calls [] (List.suffix_refl _)
  have hVisible := hRun.visible hUsable
  obtain ⟨header, hDecoded, hFlags, hCapacity, hCursor, hPane⟩ :=
    decode_of_identified hUsable.toRing hVisible.identified
  have hLimit : capBytes ≤ hardMaxLinearRecordPayloadBytes := by
    unfold normalizeCapBytes at hCap
    split_ifs at hCap with _ hMax
    cases hCap
    exact (not_lt.mp hMax).trans (by decide)
  have hLoad := hVisible.load hFlags hCursor hCapacity hPane (hCapacity ▸ hLimit)
  unfold reopen
  dsimp only
  rw [hCap, ok_bind, refuseIf_neg (by simp), ok_bind, hDecoded, ok_bind,
    refuseIf_neg (by simp [hPane, RingConfig.header]), ok_bind,
    refuseIf_neg (by simp [hCapacity, RingConfig.header]), ok_bind,
    refuseIf_neg (by rw [hFlags]; decide), ok_bind, hLoad, ok_bind]
  exact ⟨_, rfl, hRun.state.symm, hRun.slot.symm, hRun.used.symm⟩

/-- A ring of 130 bytes behind records of 66, 64 and 66 bytes: the third one went to the front, where
the first one was. -/
theorem small_ring_resumes : ∃ w, create foldSha (smallRing 130) 0 0 = .ok w ∧
    let ring := runCalls foldSha w [textOf 2, textOf 0, textOf 2]
    (ring.v2State.head = 66 ∧ ring.v2State.tail = 66 ∧ ring.v2State.recordCount = 2) ∧
      ∃ again, reopen foldSha (smallRing 130) ring.file (headerSize + 130) ring.ops = .ok again ∧
        again.v2State = ring.v2State ∧ again.activeStateSlot = ring.activeStateSlot ∧
        again.usedBytes = ring.usedBytes := by
  obtain ⟨w, hCreate, hRun⟩ := reopen_resumes foldSha (smallRing 130) rfl 0 0
  obtain rfl := Except.ok.inj (hCreate.symm.trans rfl)
  exact ⟨_, rfl, by decide +kernel, hRun [textOf 2, textOf 0, textOf 2]⟩

/-! ## Where an append finds no room -/

/-- The places and lengths of records one after the other, as their headers say, with a turn at the
wrap. -/
def spansFrom (file : Bytes) (wrapAt : Nat) : (count cursor : Nat) → List (Nat × Nat)
  | 0, _ => []
  | count + 1, cursor =>
    let len := v2RecordHeaderSize + Records.leNat (readAt file (headerSize + cursor + 4) 4)
    (cursor, len) ::
      spansFrom file wrapAt count (if cursor + len = wrapAt then 0 else cursor + len)

/-- Where the retained records of a state lie. -/
def retainedSpans (file : Bytes) (state : V2RingState) : List (Nat × Nat) :=
  spansFrom file state.wrapAt state.recordCount state.head

/-- **The ring is full, and in the way of the next record**: the tail is at the head, the record does
not fit before the end, and some record starts behind the end that the new one would have at the
front. -/
def MmapScrollback.Blocked (w : MmapScrollback) (totalLen : Nat) : Prop :=
  w.v2State.recordCount < hardMaxLinearRecords ∧ w.v2State.head = w.v2State.tail ∧
    w.header.capacityBytes < w.v2State.tail + totalLen ∧
    ∃ span ∈ retainedSpans w.file w.v2State, totalLen ≤ span.1

section Blocked

variable {sha : Sha256} {paneUuid : List UInt8} {file : Bytes}

/-- The length in the header of a stored record. -/
theorem Stored.payloadLen {offset : Nat} {record : RingRecord}
    (h : Stored sha paneUuid file offset record) (hFits : record.Fits) :
    v2RecordHeaderSize + Records.leNat (readAt file (headerSize + offset + 4) 4) = record.len := by
  have hSlice : slice (record.header sha paneUuid) 4 8 =
      readAt file (headerSize + offset + 4) (8 - 4) := by
    rw [← h.parts.1]
    exact slice_readAt file (by decide) (by decide)
  have hBytes : slice (record.header sha paneUuid) 4 8 =
      Records.leBytes 4 record.payload.length := by
    simp [slice, RingRecord.header, encodeV2RecordHeader, encodeV2RecordFields, v2RecordMagic,
      Records.length_leBytes]
  have hPayload := hFits.payload
  rw [hBytes] at hSlice
  rw [← hSlice, Records.leNat_leBytes (by omega)]
  rfl

/-- The spans of placed records that end before the wrap, or at it. -/
theorem spansFrom_place {wrapAt cursor : Nat} (count : Nat) (records : List RingRecord)
    (hStored : ∀ offset record, (offset, record) ∈ place len cursor records →
      Stored sha paneUuid file offset record ∧ record.Fits)
    (hEnd : cursor + span len records ≤ wrapAt) (hSome : records ≠ []) :
    spansFrom file wrapAt (records.length + count) cursor =
      (place len cursor records).map (fun placed => (placed.1, placed.2.len)) ++
        spansFrom file wrapAt count
          (if cursor + span len records = wrapAt then 0
            else cursor + span len records) := by
  induction records generalizing cursor with
  | nil => exact absurd rfl hSome
  | cons record rest ih =>
    obtain ⟨hHere, hFits⟩ := hStored cursor record List.mem_cons_self
    rw [span_cons] at hEnd ⊢
    rw [List.length_cons, Nat.add_right_comm, spansFrom, hHere.payloadLen hFits]
    rcases eq_or_ne rest [] with rfl | hRest
    · rw [span_nil, Nat.add_zero, List.length_nil, Nat.zero_add]
      rfl
    · have hPos := span_pos len_pos hRest
      rw [if_neg (by omega), ih (fun offset other hMem => hStored offset other
        (List.mem_cons_of_mem _ hMem)) (by omega) hRest, ← Nat.add_assoc]
      rfl

/-- **The spans of the retained records are where they lie.** -/
theorem retainedSpans_of_holds {capacityBytes : Nat} {state : V2RingState}
    {placed : List (Nat × RingRecord)}
    (h : Holds sha paneUuid capacityBytes file state placed) :
    retainedSpans file state = placed.map fun placed => (placed.1, placed.2.len) := by
  obtain ⟨_, _, hLayout, hStored, hCount, _⟩ := h
  unfold retainedSpans
  rw [hCount]
  generalize state.head = head at hLayout ⊢
  generalize state.tail = tail at hLayout
  generalize state.wrapAt = wrap at hLayout ⊢
  cases hLayout with
  | empty => rfl
  | linear hSome hTail =>
    rw [length_place, ← Nat.add_zero (List.length _),
      spansFrom_place 0 _ hStored (Nat.le_of_lt hTail) hSome]
    exact List.append_nil _
  | @wrapped upper lower hSome =>
    have hPos := span_pos len_pos hSome
    rw [List.length_append, length_place, length_place, List.map_append,
      spansFrom_place _ upper (fun offset record hMem => hStored offset record
        (List.mem_append_left _ hMem)) (Nat.le_refl _) hSome, if_pos rfl]
    congr 1
    rcases eq_or_ne lower [] with rfl | hLower
    · rfl
    · rw [← Nat.add_zero lower.length, spansFrom_place 0 lower (fun offset record hMem =>
        hStored offset record (List.mem_append_right _ hMem)) (by omega) hLower]
      exact List.append_nil _

variable {h0 : ScrollbackHeader} {w : MmapScrollback} {p : Point}

theorem Tracks.blocked_iff (hUsable : h0.Usable) (h : Tracks sha h0 w p .rest) {totalLen : Nat} :
    w.Blocked totalLen ↔ FullBehind w p.placed totalLen := by
  unfold Blocked FullBehind
  rw [retainedSpans_of_holds (h.retains hUsable).holds]
  simp only [List.mem_map, exists_exists_and_eq_and]
  simp only [Prod.exists]

/-- **The place that planning finds.** -/
theorem Tracks.room (hUsable : h0.Usable) (h : Tracks sha h0 w p .rest) (hCounters : w.Unexhausted)
    (bytes : List UInt8) {totalLen : Nat}
    (hTotal : totalLen = v2RecordHeaderSize + (cutPayload h0.capacityBytes bytes).length)
    (hFree : ¬w.Blocked totalLen) :
    ∃ plan, w.planAppendPosition sha totalLen = .ok plan ∧
      plan.usedBytes + totalLen ≤ h0.capacityBytes ∧
      plan.state.tail + totalLen ≤ h0.capacityBytes ∧
      ∀ span ∈ retainedSpans w.file plan.state,
        span.1 + span.2 ≤ plan.state.tail ∨ plan.state.tail + totalLen ≤ span.1 := by
  subst hTotal
  have hPlan := h.plan hUsable bytes
  have hGeneration := hCounters.generation
  rw [h.blocked_iff hUsable] at hFree
  generalize planAppendPosition sha w
    (v2RecordHeaderSize + (cutPayload h0.capacityBytes bytes).length) = result at hPlan ⊢
  cases hPlan with
  | @room plan _ _ hPlanned =>
    have hHolds := hPlanned.retains.holds
    have hRoom := hPlanned.room
    rw [h.same.capacity] at hHolds hRoom
    refine ⟨plan, rfl, ?_, Room.end_le len_pos hHolds.layout hRoom, ?_⟩
    · rw [hPlanned.retains.used]
      exact Room.span_le len_pos hHolds.layout hRoom
    · rw [retainedSpans_of_holds hHolds]
      intro span hSpan
      obtain ⟨placed, hMem, rfl⟩ := List.mem_map.mp hSpan
      exact Room.disjoint hHolds.layout hRoom hMem
  | stuck hStuck => exact absurd hStuck hFree
  | exhausted hOver =>
    change u64Max < w.v2State.generation + 1 at hOver
    omega

end Blocked

/-- **When an append finds room**: unless the ring is full and in the way of the record.  Then the
records that are evicted leave a place of its length that overlaps none of those that stay. -/
theorem append_makes_room_iff (sha : Sha256) (config : RingConfig) {capBytes : Nat}
    (hCap : normalizeCapBytes config.capBytes = .ok capBytes) (createdMs nowMs : Nat) :
    ∃ w, create sha config createdMs nowMs = .ok w ∧
      ∀ (calls : List RingCall) (kind : RecordKind) (bytes : List UInt8) (replacements : Nat)
        (clock : Clock), (runCalls sha w calls).Unexhausted →
        let ring := runCalls sha w calls
        let totalLen := v2RecordHeaderSize + (cutPayload capBytes bytes).length
        ((∃ report, (ring.appendRedactedPayload sha kind bytes replacements clock).2 = .ok report) ↔
          ¬ring.Blocked totalLen) ∧
        (¬ring.Blocked totalLen → ∃ plan, ring.planAppendPosition sha totalLen = .ok plan ∧
          plan.usedBytes + totalLen ≤ capBytes ∧ plan.state.tail + totalLen ≤ capBytes ∧
          ∀ span ∈ retainedSpans ring.file plan.state,
            span.1 + span.2 ≤ plan.state.tail ∨ plan.state.tail + totalLen ≤ span.1) := by
  obtain ⟨hUsable, w, hCreate, hTracks⟩ := create_tracks sha config hCap createdMs nowMs
  refine ⟨w, hCreate, fun calls kind bytes replacements clock hCounters => ?_⟩
  obtain ⟨p, hRun, _⟩ := hTracks.calls hUsable calls [] (List.suffix_refl _)
  refine ⟨?_, hRun.room hUsable hCounters bytes rfl⟩
  have hPrepare := hRun.prepareAppend_iff hUsable hCounters bytes
  rw [← hRun.blocked_iff hUsable] at hPrepare
  refine Iff.trans ?_ hPrepare
  rcases hRun.append hUsable kind bytes replacements clock with
    ⟨error, hError, hRefused⟩ | ⟨hPrepared, report, _, _, _, _, hReport, _⟩
  · rw [hError, hRefused]
    simp
  · exact ⟨fun _ => hPrepared, fun _ => ⟨report, hReport⟩⟩

/-- Behind records of 66, 64 and 66 bytes a ring of 130 bytes is full with its head and its tail at 66.
It refuses a record of 65 bytes: the planner takes the bytes before the head for free, and evicts
nothing. -/
theorem full_ring_refuses : ∃ w, create foldSha (smallRing 130) 0 0 = .ok w ∧
    (runCalls foldSha w [textOf 2, textOf 0, textOf 2]).Unexhausted ∧
    ((runCalls foldSha w [textOf 2, textOf 0, textOf 2]).appendRedactedPayload foldSha .text [97] 0
      {}).2 = .error (.v2Integrity "v2 append plan exceeds ring capacity") :=
  ⟨_, rfl, ⟨by decide +kernel, by decide +kernel, by decide +kernel⟩, by decide +kernel⟩

theorem small_ring_takes : ∃ w, create foldSha (smallRing 130) 0 0 = .ok w ∧
    ∃ report, ((runCalls foldSha w [textOf 2]).appendRedactedPayload foldSha .text [97] 0 {}).2 =
      .ok report := by
  obtain ⟨w, hCreate, hRun⟩ := append_makes_room_iff foldSha (smallRing 130) rfl 0 0
  obtain rfl := Except.ok.inj (hCreate.symm.trans rfl)
  refine ⟨_, rfl, (hRun [textOf 2] .text [97] 0 {} ⟨by decide +kernel, by decide +kernel,
    by decide +kernel⟩).1.mpr fun hBlocked => ?_⟩
  exact absurd hBlocked.2.1 (by decide +kernel)

end FrankenTerm.Ports.ScrollbackRing
