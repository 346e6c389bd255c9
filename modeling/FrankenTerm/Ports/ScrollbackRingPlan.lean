import FrankenTerm.Ports.ScrollbackRingRead
import FrankenTerm.Ports.ScrollbackRingWriter

/-!
# Where the next record of the scrollback ring goes

`plan_append_position` evicts the oldest records until there is room for the next one, before the end
of the ring or at its front.  An eviction takes the oldest record out of the layout (`Evicts`), and a
plan that finds room leaves the layout of the records that are left, with room at its tail (`Planned`).

There is one ring in which the planner goes wrong.  Where the ring is full, with the tail at the head,
and the record does not fit before the end, the planner evicts while the head lies before the end of
the new record.  Where it stops before it has passed the wrap, the records at the front are still
there, and the planned sizes exceed the capacity (`PlanResult.stuck`).

## Main results

* `evictOldestFromPlan_of_retains` — the oldest record goes.
* `planAppendPosition_result` — the planner finds room, or the ring is full and in its way, or the
  generations are exhausted.
-/

namespace FrankenTerm.Ports.ScrollbackRing

open Verified Verified.Check Verified.TornFile Verified.RingLayout RingRecord List

/-! ## Generations and numbers -/

theorem Aged.mono {high high' low low' : Nat} {records : List RingRecord}
    (h : Aged high low records) (hHigh : high ≤ high') (hLow : low' ≤ low) :
    Aged high' low' records := by
  induction records generalizing low low' with
  | nil => trivial
  | cons _ _ ih =>
    obtain ⟨_, _, hRest⟩ := h
    exact ⟨by omega, by omega, ih hRest (Nat.le_refl _)⟩

/-- An eviction moves the head and the wrap, and counts down. -/
structure V2RingState.Steady (before after : V2RingState) : Prop where
  tail : after.tail = before.tail
  slotEpoch : after.slotEpoch = before.slotEpoch
  generation : after.generation = before.generation
  nextSequence : after.nextSequence = before.nextSequence

theorem V2RingState.Steady.refl (state : V2RingState) : V2RingState.Steady state state :=
  ⟨rfl, rfl, rfl, rfl⟩

theorem V2RingState.Steady.trans {a b c : V2RingState} (h : V2RingState.Steady a b)
    (h' : V2RingState.Steady b c) : V2RingState.Steady a c :=
  ⟨h'.tail.trans h.tail, h'.slotEpoch.trans h.slotEpoch, h'.generation.trans h.generation,
    h'.nextSequence.trans h.nextSequence⟩

variable {state : V2RingState} {file : Bytes} {capacityBytes : Nat} {paneUuid : List UInt8}
  {sha : Sha256}

/-- What a state retains behind an eviction. -/
theorem Holds.evicted {after : V2RingState} {offset : Nat} {record : RingRecord}
    {rest : List (Nat × RingRecord)}
    (h : Holds sha paneUuid capacityBytes file state ((offset, record) :: rest))
    (hSteady : state.Steady after) (hCount : after.recordCount = rest.length)
    (hLayout : Layout len capacityBytes after.head state.tail after.wrapAt rest) :
    Holds sha paneUuid capacityBytes file after rest := by
  obtain ⟨hCap, hFits, _, hStored, hBefore, _, ⟨_, hNumbered⟩, ⟨_, _, hAged⟩⟩ := h
  rw [length_cons] at hBefore
  have hHead := hLayout.head_lt len_pos
  have hWrap := hLayout.wrap_le
  have hFew := hFits.recordCount
  obtain ⟨slotEpoch, head, tail, wrapAt, generation, nextSequence, recordCount⟩ := after
  obtain ⟨rfl, rfl, rfl, rfl⟩ := hSteady
  dsimp only at hHead hWrap hCount
  have hFirst : state.nextSequence - recordCount =
      state.nextSequence - state.recordCount + 1 := by omega
  refine ⟨hCap, { hFits with head := ?_, wrapAt := ?_, recordCount := ?_ }, hLayout,
    fun offset record hMem => hStored offset record (mem_cons_of_mem _ hMem), hCount, ?_,
    hFirst ▸ hNumbered, hAged.mono (Nat.le_refl _) (Nat.zero_le _)⟩
  all_goals
    dsimp only
    omega

/-- A state that goes on to the next generation retains what it retained. -/
theorem Holds.nextGeneration {placed : List (Nat × RingRecord)}
    (h : Holds sha paneUuid capacityBytes file state placed)
    (hGeneration : state.generation + 1 ≤ u64Max) :
    Holds sha paneUuid capacityBytes file { state with generation := state.generation + 1 } placed :=
  { h with
    fits := { h.fits with generation := hGeneration }
    aged := h.aged.mono (Nat.le_succ _) (Nat.le_refl _) }

namespace MmapScrollback

variable {w : MmapScrollback} {plan before mid after : AppendPlan}
  {placed kept : List (Nat × RingRecord)} {totalLen : Nat}

/-! ## Evictions -/

/-- The plan retains these records, and its used bytes are theirs. -/
structure AppendPlan.Retains (sha : Sha256) (w : MmapScrollback) (plan : AppendPlan)
    (placed : List (Nat × RingRecord)) : Prop where
  holds : Holds sha w.header.paneUuid w.header.capacityBytes w.file plan.state placed
  used : plan.usedBytes = span len (placed.map Prod.snd)

/-- **Some of the oldest records have been evicted.** -/
structure Evicts (sha : Sha256) (w : MmapScrollback) (before after : AppendPlan)
    (placed kept : List (Nat × RingRecord)) : Prop where
  retains : after.Retains sha w kept
  suffix : kept <:+ placed
  steady : before.state.Steady after.state
  flag : before.evicted = true → after.evicted = true
  all : after.evicted = false → kept = placed

theorem Evicts.refl (h : plan.Retains sha w placed) : Evicts sha w plan plan placed placed :=
  ⟨h, suffix_refl _, .refl _, id, fun _ => rfl⟩

variable {stuck : Prop} {offset : Nat} {record : RingRecord} {condition : V2RingState → Bool}
  {middle rest : List (Nat × RingRecord)} {result : Except MmapScrollbackError AppendPlan}

theorem Evicts.trans (h : Evicts sha w before mid placed middle)
    (h' : Evicts sha w mid after middle kept) : Evicts sha w before after placed kept where
  retains := h'.retains
  suffix := h'.suffix.trans h.suffix
  steady := h.steady.trans h'.steady
  flag := fun hFlag => h'.flag (h.flag hFlag)
  all := by
    intro hNot
    have hMid : mid.evicted = false := by
      refine Bool.eq_false_iff.mpr fun hFlag => ?_
      rw [h'.flag hFlag] at hNot
      cases hNot
    rw [h'.all hNot, h.all hMid]

theorem AppendPlan.Retains.count (h : plan.Retains sha w placed) :
    plan.state.recordCount = placed.length := h.holds.count

theorem AppendPlan.Retains.count_pos (h : plan.Retains sha w placed) :
    0 < plan.state.recordCount ↔ placed ≠ [] := by
  rw [h.count, length_pos_iff]

/-- The state behind an eviction: the head is at the next record, which may be the one at the front,
and the ring is not full. -/
theorem dropOldest_of_holds
    (h : Holds sha paneUuid capacityBytes file state ((offset, record) :: rest)) :
    ∃ after, dropOldest capacityBytes (state.head + record.len) state = after ∧
      state.Steady after ∧ after.recordCount = rest.length ∧
      Layout len capacityBytes after.head state.tail after.wrapAt rest ∧
      (rest ≠ [] → after.head ≠ state.tail ∧
        (state.head + record.len = state.wrapAt ∧ after.head = 0 ∨
          after.head = state.head + record.len)) := by
  obtain ⟨_, hEmpty, hTurn, hNext⟩ := h.layout.evict len_pos
  have hCount := h.count
  rw [length_cons] at hCount
  rcases eq_or_ne rest [] with rfl | hSome
  · exact ⟨_, if_pos (by rw [hCount]; rfl), ⟨rfl, rfl, rfl, rfl⟩, rfl, hEmpty rfl,
      fun hNe => absurd rfl hNe⟩
  · have hPos : rest.length ≠ 0 := fun hZero => hSome (length_eq_zero_iff.mp hZero)
    have hLast : ¬state.recordCount - 1 = 0 := by omega
    have hLess : state.recordCount - 1 = rest.length := by omega
    by_cases hWrapped : state.head + record.len = state.wrapAt
    · obtain ⟨hTail, hLayout⟩ := hTurn hSome hWrapped
      exact ⟨_, (if_neg hLast).trans (if_pos hWrapped), ⟨rfl, rfl, rfl, rfl⟩, hLess, hLayout,
        fun _ => ⟨Nat.ne_of_lt hTail, .inl ⟨hWrapped, rfl⟩⟩⟩
    · obtain ⟨hTail, hLayout⟩ := hNext hSome hWrapped
      have hInside := Nat.ne_of_lt (hLayout.head_lt len_pos)
      exact ⟨_, (if_neg hLast).trans ((if_neg hWrapped).trans (if_neg hInside)),
        ⟨rfl, rfl, rfl, rfl⟩, hLess, hLayout, fun _ => ⟨hTail, .inr rfl⟩⟩

/-- **The oldest record goes.**  Behind this the head is at the next record, which may be the one at
the front, and the ring is not full. -/
theorem evictOldestFromPlan_of_retains (h : plan.Retains sha w ((offset, record) :: rest)) :
    offset = plan.state.head ∧ ∃ after, evictOldestFromPlan sha w plan = .ok after ∧
      Evicts sha w plan after ((offset, record) :: rest) rest ∧ after.evicted ∧
      (rest ≠ [] → after.state.head ≠ after.state.tail ∧
        (plan.state.head + record.len = plan.state.wrapAt ∧ after.state.head = 0 ∨
          after.state.head = plan.state.head + record.len)) := by
  obtain ⟨hHolds, hUsed⟩ := h
  have hBefore := hHolds.layout.head_lt_wrap len_pos (cons_ne_nil _ _)
  obtain ⟨rfl, -⟩ := hHolds.layout.evict len_pos
  refine ⟨rfl, ?_⟩
  have hCount := hHolds.count
  rw [length_cons] at hCount
  change plan.usedBytes = record.len + span len (rest.map Prod.snd) at hUsed
  have hEnd := hHolds.layout.mem_bounds mem_cons_self
  have hWrap := hHolds.layout.wrap_le
  obtain ⟨hStored, hFits⟩ := hHolds.stored _ _ mem_cons_self
  have hLen := record.len_eq
  have hRead := readV2RecordVerified_of_stored w.header.capacityBytes hStored hFits hEnd
    hHolds.capacity_lt (by omega)
  have hAt : headAtRecord w.header.capacityBytes plan.state = plan.state := if_neg (by omega)
  obtain ⟨state, hDrop, hSteady, hRestCount, hLayout, hHead⟩ := dropOldest_of_holds hHolds
  refine ⟨⟨state, plan.usedBytes - record.len, true⟩, ?_, ?_, rfl, ?_⟩
  · unfold evictOldestFromPlan
    rw [refuseIf_neg (by omega), ok_bind]
    dsimp only
    rw [hAt, hRead, ok_bind]
    dsimp only
    rw [refuseIf_neg (by omega), ok_bind, hDrop]
    rfl
  · refine ⟨⟨hHolds.evicted hSteady hRestCount hLayout, ?_⟩, suffix_cons _ _, hSteady,
      fun _ => rfl, nofun⟩
    dsimp only
    omega
  · intro hSome
    rw [hSteady.tail]
    exact hHead hSome

theorem evictWhile_stop (turns : Nat) (h : condition plan.state = false) :
    evictWhile sha w condition turns plan = .ok plan := by
  cases turns with
  | zero => rfl
  | succ =>
    rw [evictWhile, h]
    rfl

theorem evictWhile_step (turns : Nat) (h : condition plan.state)
    (hEvict : evictOldestFromPlan sha w plan = .ok after) :
    evictWhile sha w condition (turns + 1) plan = evictWhile sha w condition turns after := by
  rw [evictWhile, if_pos h, hEvict, ok_bind]

/-! ## Freeing the front -/

/-- The front is free: there is nothing, or everything lies behind the end of the new record. -/
def FrontFree (totalLen : Nat) (after : AppendPlan) (kept : List (Nat × RingRecord)) : Prop :=
  kept = [] ∨ totalLen ≤ after.state.head ∧ after.state.head < after.state.tail

/-- The evictions of the planner free the front. -/
def FreesFront (sha : Sha256) (w : MmapScrollback) (totalLen turns : Nat) (plan : AppendPlan)
    (placed : List (Nat × RingRecord)) : Prop :=
  ∃ after kept, evictWhile sha w (coversHead totalLen) turns plan = .ok after ∧
    Evicts sha w plan after placed kept ∧ FrontFree totalLen after kept

/-- There is nothing to evict. -/
theorem freesFront_nil (totalLen turns : Nat) (h : plan.Retains sha w []) :
    FreesFront sha w totalLen turns plan [] := by
  have hCount := h.count
  rw [length_nil] at hCount
  exact ⟨plan, [], evictWhile_stop turns (decide_eq_false (by omega)), .refl h, .inl rfl⟩

/-- The oldest record is in the way. -/
theorem FreesFront.step {turns : Nat} (hOn : coversHead totalLen plan.state)
    (hEvict : evictOldestFromPlan sha w plan = .ok mid) (h : Evicts sha w plan mid placed middle)
    (hFrees : FreesFront sha w totalLen turns mid middle) :
    FreesFront sha w totalLen (turns + 1) plan placed := by
  obtain ⟨after, kept, hRun, hRest, hFront⟩ := hFrees
  exact ⟨after, kept, (evictWhile_step turns hOn hEvict).trans hRun, h.trans hRest, hFront⟩

/-- **Records in one piece**: the front becomes free. -/
theorem evictFront_of_linear (totalLen turns : Nat) (hTurns : placed.length ≤ turns)
    (h : plan.Retains sha w placed) (hLinear : placed ≠ [] → plan.state.head < plan.state.tail) :
    FreesFront sha w totalLen turns plan placed := by
  induction placed generalizing plan turns with
  | nil => exact freesFront_nil totalLen turns h
  | cons _ rest ih =>
    have hLt := hLinear (cons_ne_nil _ _)
    by_cases hFree : totalLen ≤ plan.state.head
    · have hStop : coversHead totalLen plan.state = false := decide_eq_false (by omega)
      exact ⟨plan, _, evictWhile_stop turns hStop, .refl h, .inr ⟨hFree, hLt⟩⟩
    · obtain ⟨turns, rfl⟩ : ∃ n, turns = n + 1 := by
        rw [length_cons] at hTurns
        exact ⟨turns - 1, by omega⟩
      have hPos := h.count_pos.mpr (cons_ne_nil _ _)
      have hOn : coversHead totalLen plan.state := decide_eq_true (by omega)
      have hWrap := h.holds.layout.wrap_eq hLt
      have hTail := h.holds.layout.tail_lt len_pos
      have hEnd := (h.holds.layout.mem_of_lt hLt mem_cons_self).2
      obtain ⟨hOffset, next, hEvict, hEvicts, _, hHead⟩ := evictOldestFromPlan_of_retains h
      have hNext : rest ≠ [] → next.state.head < next.state.tail := by
        intro hSome
        obtain ⟨_, hHead⟩ := hHead hSome
        have := hEvicts.steady.tail
        omega
      exact .step hOn hEvict hEvicts (ih turns (by rw [length_cons] at hTurns; omega)
        hEvicts.retains hNext)

/-- **Records in two pieces, all before the end of the new record**: the front becomes free, too. -/
theorem evictFront_of_wrapped (totalLen turns : Nat) (hTurns : placed.length ≤ turns)
    (h : plan.Retains sha w placed) (hWrapped : plan.state.tail ≤ plan.state.head)
    (hBefore : ∀ offset record, (offset, record) ∈ placed → offset < totalLen) :
    FreesFront sha w totalLen turns plan placed := by
  induction placed generalizing plan turns with
  | nil => exact freesFront_nil totalLen turns h
  | cons _ rest ih =>
    rw [length_cons] at hTurns
    obtain ⟨turns, rfl⟩ : ∃ n, turns = n + 1 := ⟨turns - 1, by omega⟩
    obtain ⟨hOffset, next, hEvict, hEvicts, _⟩ := evictOldestFromPlan_of_retains h
    have hFirst := hBefore _ _ mem_cons_self
    rw [hOffset] at hFirst
    have hPos := h.count_pos.mpr (cons_ne_nil _ _)
    have hOn : coversHead totalLen plan.state := decide_eq_true ⟨hPos, hFirst⟩
    have hTail := hEvicts.steady.tail
    -- behind the wrap the records lie in one piece, and before it they still lie in two
    refine .step hOn hEvict hEvicts ?_
    by_cases hLinear : rest ≠ [] → next.state.head < next.state.tail
    · exact evictFront_of_linear totalLen turns (by omega) hEvicts.retains hLinear
    · exact ih turns (by omega) hEvicts.retains (by omega)
        (fun offset record hMem => hBefore offset record (mem_cons_of_mem _ hMem))

/-- **Records in two pieces, one of them behind the end of the new record**: the planner stops before
it has passed the wrap, and the sizes exceed the capacity. -/
theorem evictFront_of_behind (totalLen turns : Nat) (hTurns : placed.length ≤ turns)
    (h : plan.Retains sha w placed) (hWrapped : plan.state.tail ≤ plan.state.head)
    (hShort : w.header.capacityBytes < plan.state.tail + totalLen)
    (hMem : (offset, record) ∈ placed) (hBehind : totalLen ≤ offset) :
    ∃ after, evictWhile sha w (coversHead totalLen) turns plan = .ok after ∧
      0 < after.state.recordCount ∧ w.header.capacityBytes < after.usedBytes + totalLen ∧
      after.state.generation = plan.state.generation := by
  induction placed generalizing plan turns with
  | nil => cases hMem
  | cons first rest ih =>
    rw [length_cons] at hTurns
    obtain ⟨turns, rfl⟩ : ∃ n, turns = n + 1 := ⟨turns - 1, by omega⟩
    have hSome : first :: rest ≠ [] := cons_ne_nil _ _
    have hPos := h.count_pos.mpr hSome
    by_cases hFree : totalLen ≤ plan.state.head
    · have hStop : coversHead totalLen plan.state = false := decide_eq_false (by omega)
      have hUsed := h.used
      have hSpan := h.holds.layout.span_of_le len_pos hSome hWrapped
      have hBefore := h.holds.layout.head_lt_wrap len_pos hSome
      exact ⟨plan, evictWhile_stop _ hStop, hPos, by omega, rfl⟩
    · have hOn : coversHead totalLen plan.state := decide_eq_true (by omega)
      obtain ⟨hOffset, next, hEvict, hEvicts, _⟩ := evictOldestFromPlan_of_retains h
      have hTail := hEvicts.steady.tail
      have hRest : (offset, record) ∈ rest := by
        rcases mem_cons.mp hMem with hFirst | hRest
        · rw [← hFirst] at hOffset
          omega
        · exact hRest
      -- a record behind the end of the new one lies before the wrap
      have hNext : next.state.tail ≤ next.state.head := by
        by_contra hLt
        have := (hEvicts.retains.holds.layout.mem_of_lt (by omega) hRest).2
        have := record.len_pos
        omega
      obtain ⟨after, hRun, hCount, hUsed, hGeneration⟩ := ih turns (by omega) hEvicts.retains hNext
        (by omega) hRest
      exact ⟨after, (evictWhile_step turns hOn hEvict).trans hRun, hCount, hUsed,
        hGeneration.trans hEvicts.steady.generation⟩

/-! ## The plan -/

/-- **The plan has room for the record**, behind the records that it keeps. -/
structure Planned (sha : Sha256) (w : MmapScrollback) (totalLen : Nat) (before after : AppendPlan)
    (placed kept : List (Nat × RingRecord)) : Prop where
  retains : after.Retains sha w kept
  suffix : kept <:+ placed
  room : Room w.header.capacityBytes after.state.head after.state.tail kept totalLen
  slotEpoch : after.state.slotEpoch = before.state.slotEpoch
  nextSequence : after.state.nextSequence = before.state.nextSequence
  generation_le : after.state.generation ≤ before.state.generation + 1
  few : kept.length < hardMaxLinearRecords
  flag : before.evicted = true → after.evicted = true
  all : after.evicted = false → kept = placed

/-- **How planning ends.** -/
inductive PlanResult (sha : Sha256) (w : MmapScrollback) (totalLen : Nat) (before : AppendPlan)
    (placed : List (Nat × RingRecord)) (stuck : Prop) :
    Except MmapScrollbackError AppendPlan → Prop where
  | room {after : AppendPlan} {kept : List (Nat × RingRecord)} (hFree : ¬stuck)
      (h : Planned sha w totalLen before after placed kept) :
      PlanResult sha w totalLen before placed stuck (.ok after)
  | stuck {after : AppendPlan} (hStuck : stuck)
      (h : w.header.capacityBytes < after.usedBytes + totalLen) :
      PlanResult sha w totalLen before placed stuck (.ok after)
  | exhausted (h : u64Max < before.state.generation + 1) :
      PlanResult sha w totalLen before placed stuck
        (.error (.v2Integrity "v2 ring generation exhausted"))

theorem Evicts.planned (h : Evicts sha w before after placed kept)
    (hFew : kept.length < hardMaxLinearRecords)
    (hRoom : Room w.header.capacityBytes after.state.head after.state.tail kept totalLen) :
    Planned sha w totalLen before after placed kept where
  retains := h.retains
  suffix := h.suffix
  room := hRoom
  slotEpoch := h.steady.slotEpoch
  nextSequence := h.steady.nextSequence
  generation_le := by
    rw [h.steady.generation]
    exact Nat.le_succ _
  few := hFew
  flag := h.flag
  all := h.all

/-- Planning goes on behind an eviction. -/
theorem PlanResult.of_evicts (h : Evicts sha w before mid placed middle)
    (hFlag : mid.evicted) (hFree : ¬stuck)
    (hResult : PlanResult sha w totalLen mid middle False result) :
    PlanResult sha w totalLen before placed stuck result := by
  cases hResult with
  | @room _ _ _ hPlanned =>
    have hEvicted := hPlanned.flag hFlag
    refine .room hFree ⟨hPlanned.retains, hPlanned.suffix.trans h.suffix, hPlanned.room,
      hPlanned.slotEpoch.trans h.steady.slotEpoch,
      hPlanned.nextSequence.trans h.steady.nextSequence, ?_, hPlanned.few, fun _ => hEvicted, ?_⟩
    · rw [← h.steady.generation]
      exact hPlanned.generation_le
    · intro hNot
      rw [hEvicted] at hNot
      cases hNot
  | stuck hStuck => exact hStuck.elim
  | exhausted hGeneration =>
    rw [h.steady.generation] at hGeneration
    exact .exhausted hGeneration

theorem toFront_counters (capacityBytes : Nat) (plan : AppendPlan) :
    (toFront capacityBytes plan).state.slotEpoch = plan.state.slotEpoch ∧
      (toFront capacityBytes plan).state.nextSequence = plan.state.nextSequence ∧
      (toFront capacityBytes plan).state.generation = plan.state.generation ∧
      (toFront capacityBytes plan).evicted = plan.evicted := by
  unfold toFront emptyPlan
  split_ifs <;> exact ⟨rfl, rfl, rfl, rfl⟩

/-- The ring is full, the record does not fit before the end, and some record starts behind the end
that the new one would have at the front. -/
def FullBehind (w : MmapScrollback) (placed : List (Nat × RingRecord)) (totalLen : Nat) : Prop :=
  w.v2State.recordCount < hardMaxLinearRecords ∧ w.v2State.head = w.v2State.tail ∧
    w.header.capacityBytes < w.v2State.tail + totalLen ∧
    ∃ offset record, (offset, record) ∈ placed ∧ totalLen ≤ offset

theorem PlanResult.congr {stuck' : Prop} (h : PlanResult sha w totalLen before placed stuck result)
    (hIff : stuck ↔ stuck') : PlanResult sha w totalLen before placed stuck' result := by
  rw [← propext hIff]
  exact h

section Room

variable (hTotal : totalLen ≤ w.header.capacityBytes)
include hTotal

/-- **The plan at the front**: where the front is free, there is room for the record. -/
theorem toFront_retains (h : after.Retains sha w kept) (hFree : FrontFree totalLen after kept) :
    (toFront w.header.capacityBytes after).Retains sha w kept ∧
      Room w.header.capacityBytes (toFront w.header.capacityBytes after).state.head
        (toFront w.header.capacityBytes after).state.tail kept totalLen := by
  have hTail := h.holds.layout.tail_lt len_pos
  have hFits := h.holds.fits
  rcases eq_or_ne kept [] with rfl | hSome
  · have hCount : after.state.recordCount = 0 := h.count
    have hFront : toFront w.header.capacityBytes after = emptyPlan w.header.capacityBytes after :=
      if_pos hCount
    rw [hFront]
    have hZero := Nat.two_pow_pos 32
    refine ⟨⟨{ h.holds with
      fits := { hFits with head := hZero, tail := hZero, wrapAt := h.holds.capacity_lt }
      layout := .empty (Nat.zero_lt_of_lt hTail) }, rfl⟩, fun _ => ?_, fun hNe => absurd rfl hNe⟩
    change 0 + totalLen ≤ _
    omega
  · obtain ⟨_, hLt⟩ := hFree.resolve_left hSome
    have hCount : ¬after.state.recordCount = 0 := Nat.pos_iff_ne_zero.mp (h.count_pos.mpr hSome)
    have hFront : toFront w.header.capacityBytes after =
        { after with state := { after.state with wrapAt := after.state.tail, tail := 0 } } :=
      if_neg hCount
    rw [hFront]
    refine ⟨⟨{ h.holds with
      fits := { hFits with tail := Nat.two_pow_pos 32, wrapAt := hFits.tail }
      layout := h.holds.layout.turn hLt }, h.used⟩, fun hOr => ?_, fun _ _ => ?_⟩
    · rcases hOr with hNil | hImpossible
      · exact absurd hNil hSome
      · change after.state.head < 0 at hImpossible
        omega
    · change 0 + totalLen ≤ after.state.head
      omega

/-- Freeing the front finds room where the front becomes free. -/
theorem planFront_of_free (hFew : placed.length < hardMaxLinearRecords)
    (hFrees : FreesFront sha w totalLen plan.state.recordCount plan placed) (hNot : ¬stuck) :
    PlanResult sha w totalLen plan placed stuck (planFront sha w totalLen plan) := by
  obtain ⟨after, kept, hRun, hEvicts, hFree⟩ := hFrees
  obtain ⟨hRetains, hRoom⟩ := toFront_retains hTotal hEvicts.retains hFree
  obtain ⟨hEpoch, hSequence, hGeneration, hFlag⟩ := toFront_counters w.header.capacityBytes after
  have hSteady := hEvicts.steady
  unfold planFront
  rw [hRun, ok_bind]
  generalize toFront w.header.capacityBytes after = front at *
  by_cases hExhausted : u64Max < front.state.generation + 1
  · dsimp only
    rw [refuseIf_pos hExhausted]
    refine .exhausted ?_
    rw [← hSteady.generation, ← hGeneration]
    exact hExhausted
  · dsimp only
    rw [refuseIf_neg hExhausted, ok_bind]
    refine .room hNot ⟨⟨hRetains.holds.nextGeneration (by omega), hRetains.used⟩, hEvicts.suffix,
      hRoom, hEpoch.trans hSteady.slotEpoch, hSequence.trans hSteady.nextSequence, ?_,
      Nat.lt_of_le_of_lt hEvicts.suffix.length_le hFew,
      fun hBefore => hFlag.trans (hEvicts.flag hBefore),
      fun hAfter => hEvicts.all (hFlag.symm.trans hAfter)⟩
    rw [hGeneration, hSteady.generation]

/-- **The planner finds room in a ring that is not full.** -/
theorem planLoop_of_free (hFew : placed.length < hardMaxLinearRecords) (turns : Nat)
    (hTurns : placed.length < turns) (h : plan.Retains sha w placed)
    (hFull : placed ≠ [] → plan.state.head ≠ plan.state.tail) (hNot : ¬stuck) :
    PlanResult sha w totalLen plan placed stuck (planLoop sha w totalLen turns plan) := by
  induction placed generalizing plan turns stuck with
  | nil =>
    obtain ⟨turns, rfl⟩ : ∃ n, turns = n + 1 := ⟨turns - 1, by rw [length_nil] at hTurns; omega⟩
    obtain ⟨_, _⟩ := h.holds.layout.of_nil
    have hCount : plan.state.recordCount = 0 := h.count
    rw [planLoop, if_neg (by omega)]
    split_ifs with hFits hShort
    · exact .room hNot ((Evicts.refl h).planned hFew
        ⟨fun _ => hFits.2, fun hNe => absurd rfl hNe⟩)
    · exact planFront_of_free hTotal hFew (freesFront_nil _ _ h) hNot
    · omega
  | cons first rest ih =>
    rw [length_cons] at hTurns
    obtain ⟨turns, rfl⟩ : ∃ n, turns = n + 1 := ⟨turns - 1, by omega⟩
    have hSome : first :: rest ≠ [] := cons_ne_nil _ _
    have hNe := hFull hSome
    obtain ⟨_, next, hEvict, hEvicts, hFlag, hHead⟩ := evictOldestFromPlan_of_retains h
    have hNext : PlanResult sha w totalLen next rest False (planLoop sha w totalLen turns next) :=
      ih (by rw [length_cons] at hFew; omega) turns (by omega) hEvicts.retains
        (fun hRest => (hHead hRest).1) id
    rw [planLoop]
    split_ifs with hWrapped hFits hFits hShort
    · exact .room hNot ((Evicts.refl h).planned hFew
        ⟨fun hOr => absurd (hOr.resolve_left hSome) (by omega), fun _ _ => hFits⟩)
    · rw [hEvict, ok_bind]
      exact hNext.of_evicts hEvicts hFlag hNot
    · exact .room hNot ((Evicts.refl h).planned hFew ⟨fun _ => hFits.2, by omega⟩)
    · exact planFront_of_free hTotal hFew (evictFront_of_linear totalLen plan.state.recordCount
        (Nat.le_of_eq h.count.symm) h fun _ => by omega) hNot
    · rw [hEvict, ok_bind]
      exact hNext.of_evicts hEvicts hFlag hNot

/-- Freeing the front of a full ring. -/
theorem planFront_of_full (hFew : placed.length < hardMaxLinearRecords)
    (h : plan.Retains sha w placed) (hFull : plan.state.head = plan.state.tail)
    (hShort : w.header.capacityBytes < plan.state.tail + totalLen) :
    PlanResult sha w totalLen plan placed
      (∃ offset record, (offset, record) ∈ placed ∧ totalLen ≤ offset)
      (planFront sha w totalLen plan) := by
  have hTurns := Nat.le_of_eq h.count.symm
  by_cases hBehind : ∃ offset record, (offset, record) ∈ placed ∧ totalLen ≤ offset
  · obtain ⟨offset, record, hMem, hLe⟩ := hBehind
    obtain ⟨after, hRun, _, hUsed, hGeneration⟩ := evictFront_of_behind totalLen
      plan.state.recordCount hTurns h (by omega) hShort hMem hLe
    obtain ⟨_, _, hFront, _⟩ := toFront_counters w.header.capacityBytes after
    have hKept : (toFront w.header.capacityBytes after).usedBytes = after.usedBytes := by
      rw [toFront, if_neg (by omega)]
    unfold planFront
    rw [hRun, ok_bind]
    dsimp only
    generalize toFront w.header.capacityBytes after = front at *
    by_cases hExhausted : u64Max < front.state.generation + 1
    · rw [refuseIf_pos hExhausted]
      refine .exhausted ?_
      rw [← hGeneration, ← hFront]
      exact hExhausted
    · rw [refuseIf_neg hExhausted, ok_bind]
      refine .stuck ⟨offset, record, hMem, hLe⟩ ?_
      rw [hKept]
      exact hUsed
  · refine planFront_of_free hTotal hFew (evictFront_of_wrapped totalLen
      plan.state.recordCount hTurns h (by omega) fun offset record hMem => ?_) hBehind
    by_contra hNot
    exact hBehind ⟨offset, record, hMem, by omega⟩

/-- **The planner in a full ring.** -/
theorem planLoop_of_full (h : AppendPlan.Retains sha w ⟨w.v2State, w.usedBytes, false⟩ placed)
    (hSome : placed ≠ []) (hFew : w.v2State.recordCount < hardMaxLinearRecords)
    (hFull : w.v2State.head = w.v2State.tail) :
    PlanResult sha w totalLen ⟨w.v2State, w.usedBytes, false⟩ placed (FullBehind w placed totalLen)
      (planLoop sha w totalLen (w.v2State.recordCount + 1) ⟨w.v2State, w.usedBytes, false⟩) := by
  have hPos : 0 < w.v2State.recordCount := h.count_pos.mpr hSome
  have hLess : placed.length < hardMaxLinearRecords := by
    rw [← h.count]
    exact hFew
  rw [planLoop, if_neg (by dsimp only; omega), if_neg (by dsimp only; omega)]
  split_ifs with hShort
  · refine (planFront_of_full hTotal hLess h hFull hShort).congr ?_
    exact ⟨fun hBehind => ⟨hFew, hFull, hShort, hBehind⟩, fun hStuck => hStuck.2.2.2⟩
  · obtain ⟨first, rest, rfl⟩ := exists_cons_of_ne_nil hSome
    obtain ⟨_, next, hEvict, hEvicts, hFlag, hHead⟩ := evictOldestFromPlan_of_retains h
    have hCount : w.v2State.recordCount = rest.length + 1 := h.count
    rw [hEvict, ok_bind]
    exact (planLoop_of_free hTotal (by omega) _ (by omega) hEvicts.retains
      (fun hRest => (hHead hRest).1) id).of_evicts hEvicts hFlag (fun hStuck => hShort hStuck.2.2.1)

/-- **How planning ends**: there is room, or the ring is full and some record is in the way, or the
generations are exhausted. -/
theorem planAppendPosition_result
    (h : AppendPlan.Retains sha w ⟨w.v2State, w.usedBytes, false⟩ placed)
    (hLimit : w.v2State.recordCount ≤ hardMaxLinearRecords) :
    PlanResult sha w totalLen ⟨w.v2State, w.usedBytes, false⟩ placed (FullBehind w placed totalLen)
      (planAppendPosition sha w totalLen) := by
  unfold planAppendPosition
  rcases eq_or_ne placed [] with rfl | hSome
  · have hCount : w.v2State.recordCount = 0 := h.count
    have hFront : toFront w.header.capacityBytes ⟨w.v2State, w.usedBytes, false⟩ =
        emptyPlan w.header.capacityBytes ⟨w.v2State, w.usedBytes, false⟩ := if_pos hCount
    obtain ⟨hRetains, hRoom⟩ := toFront_retains hTotal h (.inl rfl)
    rw [if_pos hCount]
    rw [hFront] at hRetains hRoom
    refine .room ?_ ⟨hRetains, suffix_refl _, hRoom, rfl, rfl, Nat.le_succ _, by decide, id,
      fun _ => rfl⟩
    rintro ⟨_, _, _, _, _, hMem, _⟩
    cases hMem
  · have hPos := h.count_pos.mpr hSome
    rw [if_neg (Nat.pos_iff_ne_zero.mp hPos)]
    rcases Nat.lt_or_eq_of_le hLimit with hFew | hMany
    · rw [evictWhile_stop _ (decide_eq_false (by dsimp only; omega)), ok_bind]
      by_cases hFull : w.v2State.head = w.v2State.tail
      · exact planLoop_of_full hTotal h hSome hFew hFull
      · have hLess : placed.length < hardMaxLinearRecords := by
          rw [← h.count]
          exact hFew
        exact planLoop_of_free hTotal hLess _ (by rw [h.count]; exact Nat.lt_succ_self _) h
          (fun _ => hFull) (fun hStuck => hFull hStuck.2.1)
    · -- one record too many: the ring is not full behind its eviction
      obtain ⟨first, rest, rfl⟩ := exists_cons_of_ne_nil hSome
      obtain ⟨_, next, hEvict, hEvicts, hFlag, hHead⟩ := evictOldestFromPlan_of_retains h
      have hCount : w.v2State.recordCount = rest.length + 1 := h.count
      have hNext := hEvicts.retains.count
      rw [hCount, evictWhile_step rest.length (decide_eq_true (by dsimp only; omega)) hEvict,
        evictWhile_stop _ (decide_eq_false (by omega)), ok_bind]
      refine (planLoop_of_free hTotal (by omega) _ (by omega) hEvicts.retains
        (fun hRest => (hHead hRest).1) id).of_evicts hEvicts hFlag ?_
      rintro ⟨_, _⟩
      omega

end Room

end MmapScrollback

end FrankenTerm.Ports.ScrollbackRing
