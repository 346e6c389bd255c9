import FrankenTerm.Ports.GuardianChange

/-!
# The bookkeeping of the guardian

The guardian checks the relations between its maps wherever it relies on them, and stops with an
error of its own if one does not hold.  `Bookkept` has these relations.  The receipts are a sound
window.  An open effect is one that its pane waits for, is barred by or is in quarantine for, and no
pane waits for anything else; this is said pane by pane (`PaneKept`), because a change touches one
pane and the effects of that pane.

## Main results

* `Bookkept.change` — every change keeps the relations.
* `Bookkept.kept_change` — spawns and open effects are never evicted.
* `Bookkept.step`, `bookkept_initial` — the relations hold at first and after every event.
-/

namespace FrankenTerm.Ports.Guardian

open Std (TreeMap TreeSet)
open EffectFingerprint GuardianPaneState StoredEffectState
open Verified Verified.Check Verified.ReceiptWindow GuardianProtocolState

/-! ## Stored effects -/

/-- The state, the operation and the reply of a stored effect go together. -/
def Shaped (effectId : Uuid) (effect : StoredEffect) : Prop :=
  match effect.state with
  | .applied => effect.fingerprint.operation ≠ .input ∧ effect.fingerprint.operation ≠ .checkpoint
  | .outcomeIndeterminate => effect.fingerprint.operation ≠ .checkpoint
  | .input state =>
    effect.fingerprint.operation = .input ∧ effect.fingerprint.leaseSequence < RustText.u64Max ∧
      effect.reply = .inputReceipt effect.fingerprint.paneId effect.fingerprint.leaseGeneration
        effect.fingerprint.leaseSequence effectId state
  | .checkpoint disposition identity =>
    effect.fingerprint.operation = .checkpoint ∧
      effect.fingerprint.leaseSequence < RustText.u64Max ∧
      effect.reply = .checkpointReceipt (.fromIdentity identity disposition) ∧
      identity.effectId = effectId ∧ identity.paneId = effect.fingerprint.paneId ∧
      identity.generation = effect.fingerprint.leaseGeneration ∧
      identity.sequence = effect.fingerprint.leaseSequence ∧
      identity.muxIncarnation = effect.fingerprint.muxIncarnation

/-- The pane is where a mutation has left it, or its process has exited since. -/
def Stands (pane : Option GuardianPaneState) (fingerprint : EffectFingerprint)
    (pending : Option Uuid) : Prop :=
  pane = some (.liveClaimed fingerprint.leaseGeneration fingerprint.muxIncarnation
      (fingerprint.leaseSequence + 1) pending) ∨
    ∃ exitStatus, pane = some (.exitedUnclaimed fingerprint.leaseGeneration exitStatus pending)

/-- The pane and the barrier of an open effect keep everything else away. -/
def Fenced (pane : Option GuardianPaneState) (barrier : Option Uuid) (effectId : Uuid)
    (effect : StoredEffect) : Prop :=
  match effect.state with
  | .outcomeIndeterminate => ∃ generation exitStatus,
      pane = some (.quarantined generation .effectOutcomeIndeterminate exitStatus)
  | .input .acceptedNotDurable => Stands pane effect.fingerprint (some effectId)
  | .checkpoint .outcomeIndeterminate _ =>
    barrier = some effectId ∧ Stands pane effect.fingerprint none
  | _ => True

/-- The open effects of one pane, and what the pane waits for and is barred by. -/
structure PaneKept (effects : TreeMap Uuid StoredEffect) (paneId : Uuid)
    (pane : Option GuardianPaneState) (barrier : Option Uuid) : Prop where
  fenced : ∀ (effectId : Uuid) effect, effects[effectId]? = some effect →
    effect.fingerprint.paneId = paneId → Fenced pane barrier effectId effect
  waiting : ∀ effectId, pane.bind GuardianPaneState.pendingInputEffect = some effectId →
    ∃ effect, effects[effectId]? = some effect ∧ effect.state = .input .acceptedNotDurable ∧
      effect.fingerprint.paneId = paneId
  barred : ∀ effectId, barrier = some effectId →
    ∃ effect identity, effects[effectId]? = some effect ∧
      effect.state = .checkpoint .outcomeIndeterminate identity ∧
      effect.fingerprint.paneId = paneId

/-- The relations between the maps of the guardian. -/
structure Bookkept (state : GuardianProtocolState) : Prop where
  receipts : state.receipts.Sound receiptScheme
  capacity : state.receipts.capacity = guardianMaxEffectReceipts
  shaped : ∀ (effectId : Uuid) effect, state.receipts.effects[effectId]? = some effect →
    Shaped effectId effect
  panes : ∀ paneId : Uuid, PaneKept state.receipts.effects paneId state.panes[paneId]?
    state.indeterminateCheckpointsByPane[paneId]?
  spawns : state.SpawnsSound
  snapshots : ∀ id : Uuid, id ∈ state.censusSnapshots → id < state.nextCensusSnapshotSequence
  nextSnapshot : 0 < state.nextCensusSnapshotSequence
  slots : state.occupiedPaneSlots ≤ guardianMaxPanes

/-! ## Lookups -/

section Lookup

variable {α : Type} {entries : TreeMap Uuid α} {id other : Uuid} {value found : α}

theorem getElem?_insert_of_ne (h : other ≠ id) :
    (entries.insert id value)[other]? = entries[other]? := by
  rw [TreeMap.getElem?_insert, if_neg (by simpa using Ne.symm h)]

/-- Behind an insertion there is the new value, or what was there under another key. -/
theorem of_getElem?_insert (h : (entries.insert id value)[other]? = some found) :
    (id = other ∧ value = found) ∨ entries[other]? = some found := by
  by_cases hEq : other = id
  · rw [hEq, TreeMap.getElem?_insert_self] at h
    exact .inl ⟨hEq.symm, Option.some.inj h⟩
  · rw [getElem?_insert_of_ne hEq] at h
    exact .inr h

/-- What is not there is not there either when entries go. -/
theorem none_of_evicted {kept : TreeMap Uuid α}
    (h : ∀ (id : Uuid) found, kept[id]? = some found → entries[id]? = some found)
    (hNone : entries[id]? = none) : kept[id]? = none := by
  refine Option.eq_none_iff_forall_ne_some.mpr fun found hFound => ?_
  rw [h id found hFound] at hNone
  cases hNone

end Lookup

/-! ## One pane -/

section Pane

variable {effects effects' : TreeMap Uuid StoredEffect} {paneId : Uuid}
  {pane next : Option GuardianPaneState} {barrier : Option Uuid}

variable {effectId : Uuid} {effect : StoredEffect}

theorem fenced_of_settled (h : effect.state.isPending = false) :
    Fenced pane barrier effectId effect := by
  unfold Fenced
  split
  · next hState => simp [hState, isPending] at h
  · next hState => simp [hState, isPending] at h
  · next hState => simp [hState, isPending] at h
  · trivial

/-- A pane does not notice what becomes of the effects of others, or of its settled ones. -/
theorem PaneKept.congr (h : PaneKept effects paneId pane barrier)
    (hOld : ∀ (effectId : Uuid) effect, effects'[effectId]? = some effect →
      effect.fingerprint.paneId = paneId → effects[effectId]? = some effect)
    (hKept : ∀ (effectId : Uuid) effect, effects[effectId]? = some effect →
      effect.fingerprint.paneId = paneId → effect.state.isPending →
      effects'[effectId]? = some effect) : PaneKept effects' paneId pane barrier := by
  constructor
  · intro effectId effect hEffect hPane
    exact h.fenced effectId effect (hOld effectId effect hEffect hPane) hPane
  · intro effectId hPending
    obtain ⟨effect, hEffect, hState, hPane⟩ := h.waiting effectId hPending
    exact ⟨effect, hKept effectId effect hEffect hPane (by rw [hState]; rfl), hState, hPane⟩
  · intro effectId hBarrier
    obtain ⟨effect, identity, hEffect, hState, hPane⟩ := h.barred effectId hBarrier
    exact ⟨effect, identity, hKept effectId effect hEffect hPane (by rw [hState]; rfl), hState, hPane⟩

/-- The pane has no open effect. -/
def AllSettled (effects : TreeMap Uuid StoredEffect) (paneId : Uuid) : Prop :=
  ∀ (effectId : Uuid) effect, effects[effectId]? = some effect →
    effect.fingerprint.paneId = paneId → effect.state.isPending = false

/-- A pane without open effects that goes on without any. -/
theorem paneKept_of_settled (hSettled : AllSettled effects paneId)
    (hPending : pane.bind pendingInputEffect = none) (hBarrier : barrier = none) :
    PaneKept effects paneId pane barrier := by
  constructor
  · intro effectId effect hEffect hPane
    exact fenced_of_settled (hSettled effectId effect hEffect hPane)
  · intro effectId hSome
    rw [hPending] at hSome
    cases hSome
  · intro effectId hSome
    rw [hBarrier] at hSome
    cases hSome

variable {fingerprint : EffectFingerprint} {pending : Option Uuid}

theorem Stands.pending_eq (h : Stands pane fingerprint pending) :
    pane.bind pendingInputEffect = pending := by
  rcases h with h | ⟨status, h⟩
  · rw [h]
    rfl
  · rw [h]
    rfl

/-- What holds the pane of an open effect. -/
inductive HeldBy (pane : Option GuardianPaneState) (barrier : Option Uuid) (effectId : Uuid) :
    Prop where
  | quarantine {generation : Nat} {reason : GuardianQuarantineReason} {exitStatus : Option Int}
      (h : pane = some (.quarantined generation reason exitStatus))
  | input {fingerprint : EffectFingerprint} (h : Stands pane fingerprint (some effectId))
  | checkpoint {fingerprint : EffectFingerprint} (hBarrier : barrier = some effectId)
      (h : Stands pane fingerprint none)

theorem Fenced.heldBy (h : Fenced pane barrier effectId effect)
    (hPending : effect.state.isPending) :
    HeldBy pane barrier effectId := by
  unfold Fenced at h
  cases hState : effect.state with
  | applied =>
    rw [hState] at hPending
    cases hPending
  | outcomeIndeterminate =>
    rw [hState] at h
    obtain ⟨generation, exitStatus, h⟩ := h
    exact .quarantine h
  | input state =>
    cases state with
    | acceptedNotDurable =>
      rw [hState] at h
      exact .input h
    | _ =>
      rw [hState] at hPending
      cases hPending
  | checkpoint disposition =>
    cases disposition with
    | committed =>
      rw [hState] at hPending
      cases hPending
    | outcomeIndeterminate =>
      rw [hState] at h
      exact .checkpoint h.1 h.2

/-- A pane that waits for nothing, is not barred and not in quarantine has no open effect. -/
theorem PaneKept.settled (h : PaneKept effects paneId pane barrier)
    (hPending : pane.bind pendingInputEffect = none) (hBarrier : barrier = none)
    (hQuarantine : ∀ generation reason exitStatus, pane ≠ some (.quarantined generation reason
      exitStatus)) : AllSettled effects paneId := by
  intro effectId effect hEffect hPane
  by_contra hOpen
  rw [Bool.not_eq_false] at hOpen
  cases (h.fenced effectId effect hEffect hPane).heldBy hOpen with
  | quarantine hSome => exact hQuarantine _ _ _ hSome
  | input hStands =>
    rw [hStands.pending_eq] at hPending
    cases hPending
  | checkpoint hSome =>
    rw [hBarrier] at hSome
    cases hSome

/-- **A pane that waits for an effect or is barred by it has no other open one.** -/
theorem PaneKept.others_settled (h : PaneKept effects paneId pane barrier) {other : Uuid}
    (hStands : Stands pane fingerprint pending)
    (hOpen : pending = some effectId ∨ pending = none ∧ barrier = some effectId)
    (hOther : effects[other]? = some effect) (hPane : effect.fingerprint.paneId = paneId)
    (hNe : other ≠ effectId) : effect.state.isPending = false := by
  have hPending := hStands.pending_eq
  by_contra hOpenToo
  rw [Bool.not_eq_false] at hOpenToo
  cases (h.fenced other effect hOther hPane).heldBy hOpenToo with
  | quarantine hSome =>
    rcases hStands with h | ⟨_, h⟩
    · cases h.symm.trans hSome
    · cases h.symm.trans hSome
  | input hStandsToo =>
    rw [hStandsToo.pending_eq] at hPending
    rcases hOpen with hOpen | ⟨hOpen, _⟩
    · rw [hOpen, Option.some.injEq] at hPending
      exact hNe hPending
    · rw [hOpen] at hPending
      cases hPending
  | checkpoint hBarrier hStandsToo =>
    rw [hStandsToo.pending_eq] at hPending
    rcases hOpen with hOpen | ⟨_, hOpen⟩
    · rw [hOpen] at hPending
      cases hPending
    · rw [hOpen, Option.some.injEq] at hBarrier
      exact hNe hBarrier.symm

/-- A pane without open effects that gets a new one. -/
theorem paneKept_enter (hPane : effect.fingerprint.paneId = paneId)
    (hSettled : AllSettled effects paneId) (hFenced : Fenced pane barrier effectId effect)
    (hWaiting : ∀ other, pane.bind pendingInputEffect = some other →
      other = effectId ∧ effect.state = .input .acceptedNotDurable)
    (hBarred : ∀ other, barrier = some other →
      other = effectId ∧ ∃ identity, effect.state = .checkpoint .outcomeIndeterminate identity) :
    PaneKept (effects.insert effectId effect) paneId pane barrier := by
  constructor
  · intro other found hFound hFoundPane
    rcases of_getElem?_insert hFound with ⟨rfl, rfl⟩ | hOld
    · exact hFenced
    · exact fenced_of_settled (hSettled other found hOld hFoundPane)
  · intro other hSome
    obtain ⟨rfl, hState⟩ := hWaiting other hSome
    exact ⟨effect, TreeMap.getElem?_insert_self, hState, hPane⟩
  · intro other hSome
    obtain ⟨rfl, identity, hState⟩ := hBarred other hSome
    exact ⟨effect, identity, TreeMap.getElem?_insert_self, hState, hPane⟩

end Pane

/-! ## Slots -/

/-- The panes that have a slot. -/
def GuardianProtocolState.slotSet (state : GuardianProtocolState) : Finset Uuid :=
  state.panes.keys.toFinset ∪ state.genesis.panes.keys.toFinset ∪
    state.durable.panes.keys.toFinset

section Slots

variable {state : GuardianProtocolState}

theorem length_filter_keys {α : Type} (entries : TreeMap Uuid α) (p : Uuid → Bool) :
    (entries.keys.filter p).length = (entries.keys.toFinset.filter (p ·)).card := by
  rw [← List.toFinset_filter, List.toFinset_card_of_nodup (TreeMap.nodup_keys.filter p)]

theorem occupiedPaneSlots_eq_card : state.occupiedPaneSlots = state.slotSet.card := by
  have hPanes : state.panes.size = state.panes.keys.toFinset.card := by
    rw [List.toFinset_card_of_nodup TreeMap.nodup_keys, TreeMap.length_keys]
  unfold occupiedPaneSlots slotSet
  rw [← Finset.union_sdiff_self_eq_union, Finset.card_union_of_disjoint Finset.disjoint_sdiff,
    ← Finset.union_sdiff_self_eq_union, Finset.card_union_of_disjoint Finset.disjoint_sdiff,
    length_filter_keys, length_filter_keys, hPanes]
  congr 3
  · ext pane
    simp only [Finset.mem_filter, Finset.mem_sdiff, List.mem_toFinset, TreeMap.mem_keys,
      TreeMap.mem_iff_contains, Bool.not_eq_true, Bool.not_eq_true']
  · ext pane
    simp only [Finset.mem_filter, Finset.mem_sdiff, Finset.mem_union, List.mem_toFinset,
      TreeMap.mem_keys, TreeMap.mem_iff_contains, Bool.and_eq_true, Bool.not_eq_true', not_or,
      Bool.not_eq_true]
    grind

theorem mem_slotSet {pane : Uuid} : pane ∈ state.slotSet ↔
    pane ∈ state.panes ∨ pane ∈ state.genesis.panes ∨ pane ∈ state.durable.panes := by
  simp [slotSet]

theorem slots_insert {after : GuardianProtocolState} {pane : Uuid}
    (hSlots : ∀ other, other ∈ after.slotSet → pane = other ∨ other ∈ state.slotSet)
    (hRoom : pane ∈ state.slotSet ∧ state.occupiedPaneSlots ≤ guardianMaxPanes ∨
      state.occupiedPaneSlots < guardianMaxPanes) :
    after.occupiedPaneSlots ≤ guardianMaxPanes := by
  rw [occupiedPaneSlots_eq_card] at *
  have hSubset : after.slotSet ⊆ insert pane state.slotSet := by
    intro other hOther
    exact Finset.mem_insert.mpr ((hSlots other hOther).imp_left Eq.symm)
  have hCard := Finset.card_le_card hSubset
  rcases hRoom with ⟨hMem, hLe⟩ | hLt
  · rw [Finset.insert_eq_self.mpr hMem] at hCard
    omega
  · have := Finset.card_insert_le pane state.slotSet
    omega

end Slots

/-! ## Changes -/

section Changes

variable {state after : GuardianProtocolState}

variable {next : GuardianPaneState} {mark : Option Mark} {reply : GuardianReply}
  {plan : CapacityPlan Uuid} {effect : StoredEffect} {request : GuardianRequest} {other : Uuid}
  {effects : TreeMap Uuid StoredEffect} {paneId : Uuid} {pane : Option GuardianPaneState}
  {barrier : Option Uuid} {effectId : Uuid} {fingerprint : EffectFingerprint}

/-- A queued effect of `install_effect` may rotate out. -/
theorem kept_storedState {indeterminate : Bool}
    (h : (fingerprint.operation != .spawn && !indeterminate && fingerprint.operation != .input) =
      true) :
    receiptScheme.kept ⟨fingerprint, reply,
      storedState fingerprint.operation indeterminate⟩ = false := by
  simp only [Bool.and_eq_true, bne_iff_ne, Bool.not_eq_true'] at h
  obtain ⟨⟨hSpawn, rfl⟩, hInput⟩ := h
  simp [receiptScheme, storedState, hInput, hSpawn, isPending]

/-- A planned effect is stored in shape. -/
theorem shaped_of_planned (hPlanned : state.Planned paneId effectId request.header reply next)
    (indeterminate : Bool) :
    Shaped effectId ⟨.fromAuthenticatedRequest paneId request, reply,
      storedState request.header.operation indeterminate⟩ := by
  have hOther : request.header.operation ≠ .input → request.header.operation ≠ .checkpoint →
      Shaped effectId ⟨.fromAuthenticatedRequest paneId request, reply,
        storedState request.header.operation indeterminate⟩ := by
    intro hInput hCheckpoint
    unfold Shaped storedState
    cases indeterminate with
    | true => exact hCheckpoint
    | false =>
      rw [if_neg (by simp), if_neg hInput]
      exact ⟨hInput, hCheckpoint⟩
  cases hPlanned with
  | spawn hOp | claim hOp | closeExited hOp =>
    exact hOther (by rw [hOp]; nofun) (by rw [hOp]; nofun)
  | mutation hOp _ hLt =>
    by_cases hInput : request.header.operation = .input
    · unfold Shaped storedState
      cases indeterminate with
      | true =>
        change request.header.operation ≠ .checkpoint
        rw [hInput]
        nofun
      | false =>
        rw [if_neg (by simp), if_pos hInput]
        refine ⟨hInput, hLt, ?_⟩
        simp [mutationPlan, hInput, fromAuthenticatedRequest]
    · refine hOther hInput ?_
      intro hCheckpoint
      rw [hCheckpoint] at hOp
      cases hOp

/-- An effect that is settled in its pane, the last open one there. -/
theorem PaneKept.settle {pending : Option Uuid}
    (h : PaneKept effects paneId pane barrier) (hStands : Stands pane fingerprint pending)
    (hOpen : pending = some effectId ∨ pending = none ∧ barrier = some effectId)
    {settled : StoredEffect} (hSettled : settled.state.isPending = false)
    {next : Option GuardianPaneState}
    (hNext : next.bind pendingInputEffect = none) :
    PaneKept (effects.insert effectId settled) paneId next none := by
  refine paneKept_of_settled (fun other effect hOther hPane => ?_) hNext rfl
  by_cases hEq : other = effectId
  · subst hEq
    rw [TreeMap.getElem?_insert_self] at hOther
    cases hOther
    exact hSettled
  · rw [getElem?_insert_of_ne hEq] at hOther
    exact h.others_settled hStands hOpen hOther hPane hEq

/-- Other panes do not notice that an effect is settled. -/
theorem PaneKept.settle_other (h : PaneKept effects paneId pane barrier)
    {stored settled : StoredEffect}
    (hEffect : effects[effectId]? = some stored)
    (hSame : settled.fingerprint = stored.fingerprint)
    (hOther : stored.fingerprint.paneId ≠ paneId) :
    PaneKept (effects.insert effectId settled) paneId pane barrier := by
  refine h.congr ?_ ?_
  · intro id found hFound hPane
    rcases of_getElem?_insert hFound with ⟨rfl, rfl⟩ | hOld
    · rw [hSame] at hPane
      exact absurd hPane hOther
    · exact hOld
  · intro id found hFound hPane _
    have hNe : id ≠ effectId := by
      intro hEq
      rw [hEq, hEffect] at hFound
      cases hFound
      exact hOther hPane
    rwa [getElem?_insert_of_ne hNe]

/-- A barred pane is where the checkpoint has left it, so that one elsewhere is not barred. -/
theorem PaneKept.barrier_eq_none (h : PaneKept effects paneId pane barrier)
    (hNot : ∀ fingerprint, ¬Stands pane fingerprint none) : barrier = none := by
  refine Option.eq_none_iff_forall_ne_some.mpr fun other hBarrier => ?_
  obtain ⟨effect, identity, hEffect, hState, hPane⟩ := h.barred other hBarrier
  have hFenced := h.fenced other effect hEffect hPane
  simp only [Fenced, hState] at hFenced
  exact hNot _ hFenced.2

/-- A pane keeps what it waits for when its process exits. -/
theorem PaneKept.exit {pane : GuardianPaneState} {exitStatus : Int}
    (h : PaneKept effects paneId (some pane) barrier)
    (hExit : exitedPane exitStatus pane = some next) :
    PaneKept effects paneId (some next) barrier := by
  have hPending : next.pendingInputEffect = pane.pendingInputEffect := by
    unfold exitedPane at hExit
    split at hExit <;> cases hExit <;> rfl
  have hStands : ∀ fingerprint pending, Stands (some pane) fingerprint pending →
      Stands (some next) fingerprint pending := by
    rintro fingerprint pending (hSome | ⟨status, hSome⟩)
    · cases hSome
      cases hExit
      exact .inr ⟨exitStatus, rfl⟩
    · cases hSome
      cases hExit
  constructor
  · intro effectId effect hEffect hPane
    have hFenced := h.fenced effectId effect hEffect hPane
    unfold Fenced at hFenced ⊢
    split at hFenced
    · obtain ⟨generation, status, hSome⟩ := hFenced
      cases hSome
      cases status with
      | none =>
        cases hExit
        exact ⟨_, _, rfl⟩
      | some => cases hExit
    · exact hStands _ _ hFenced
    · exact ⟨hFenced.1, hStands _ _ hFenced.2⟩
    · trivial
  · intro effectId hSome
    change next.pendingInputEffect = some effectId at hSome
    rw [hPending] at hSome
    exact h.waiting effectId hSome
  · exact h.barred

/-- The lease of a multiplexer that is gone. -/
theorem PaneKept.retire {muxIncarnation : Uuid}
    (h : PaneKept state.receipts.effects paneId state.panes[paneId]?
      state.indeterminateCheckpointsByPane[paneId]?) :
    PaneKept state.receipts.effects paneId
      (state.panes[paneId]?.map (state.retireLease muxIncarnation paneId))
      state.indeterminateCheckpointsByPane[paneId]? := by
  cases hPane : state.panes[paneId]? with
  | none =>
    rw [hPane] at h
    exact h
  | some =>
    rw [hPane] at h
    rw [Option.map_some, retireLease]
    split
    · next hRetired =>
        simp only [Bool.and_eq_true, Option.isNone_iff_eq_none, Bool.not_eq_true',
          ← Bool.not_eq_true, contains_eq_false_iff] at hRetired
        obtain ⟨⟨hLeased, hPending⟩, hBarrier⟩ := hRetired
        refine paneKept_of_settled (h.settled hPending hBarrier fun _ _ _ hQuarantine => ?_) rfl
          hBarrier
        cases hQuarantine
        cases hLeased
    · exact h

section Kept

variable (h : Bookkept state)
include h

/-- The receipts behind an eviction. -/
theorem Bookkept.evicted {newRequest newEffect : Bool}
    (hPlan : state.planReceiptCapacity newRequest newEffect = some plan) :
    Window.Sound.Evicted receiptScheme state.receipts (state.commitReceiptCapacity plan) :=
  (h.receipts.commitCapacity hPlan).2.1

theorem Bookkept.barrier_of_planned
    {header : GuardianRequestHeader} (hPlanned : state.Planned paneId effectId header reply next) :
    state.indeterminateCheckpointsByPane[paneId]? = none := by
  cases hPlanned with
  | spawn _ hNone =>
    refine (h.panes paneId).barrier_eq_none fun _ hStands => ?_
    rw [hNone] at hStands
    rcases hStands with hSome | ⟨_, hSome⟩ <;> cases hSome
  | claim _ _ _ _ hBarrier | closeExited _ _ hBarrier => exact hBarrier
  | mutation _ hNext => exact hNext.barrier

/-- A pane that a new effect may be planned for has nothing open. -/
theorem Bookkept.settled_of_planned
    {header : GuardianRequestHeader} (hPlanned : state.Planned paneId effectId header reply next) :
    AllSettled state.receipts.effects paneId := by
  have hKept := h.panes paneId
  rw [h.barrier_of_planned hPlanned] at hKept
  cases hPlanned with
  | spawn _ hNone =>
    rw [hNone] at hKept
    exact hKept.settled rfl rfl nofun
  | claim _ hSome hLive hPending =>
    rw [hSome] at hKept
    refine hKept.settled hPending rfl fun _ _ _ hQuarantine => ?_
    cases hQuarantine
    cases hLive
  | mutation _ hNext =>
    rw [hNext.pane] at hKept
    exact hKept.settled rfl rfl nofun
  | closeExited _ hSome =>
    rw [hSome] at hKept
    exact hKept.settled rfl rfl nofun

/-- A new effect and its request, behind the evictions that make room for them. -/
theorem Bookkept.enter
    (hPlan : state.planReceiptCapacity true true = some plan) {requestId : Uuid}
    (hRequest : state.receipts.requests[requestId]? = none)
    (hEffect : state.receipts.effects[effectId]? = none) (effect : StoredEffect) {queued : Bool}
    (hQueued : queued → receiptScheme.kept effect = false) :
    ((state.commitReceiptCapacity plan).enter effectId effect requestId
      ⟨effect.fingerprint, effectId, effect.reply⟩ queued queued).Sound receiptScheme := by
  obtain ⟨hSound, hEvicted, hRequests, hEffects, _⟩ := h.receipts.commitCapacity hPlan
  refine hSound.enter ?_ ?_ (none_of_evicted hEvicted.effects hEffect)
    (none_of_evicted hEvicted.requests hRequest) rfl ⟨rfl, rfl⟩ (fun hTrue => ?_) hQueued
  · rw [hEvicted.capacity]
    exact hRequests rfl
  · rw [hEvicted.capacity]
    exact hEffects rfl
  · have hKept := hQueued hTrue
    cases hPending : receiptScheme.pending effect with
    | false => rfl
    | true => rw [receiptScheme.kept_of_pending effect hPending] at hKept; cases hKept

/-- Other panes do not notice a new effect, nor the evictions before it. -/
theorem Bookkept.enter_other (hPlan : state.planReceiptCapacity true true = some plan)
    (hFresh : state.receipts.effects[effectId]? = none)
    (hOther : effect.fingerprint.paneId ≠ paneId) :
    PaneKept ((state.commitReceiptCapacity plan).effects.insert effectId effect) paneId
      state.panes[paneId]? state.indeterminateCheckpointsByPane[paneId]? := by
  have hEvicted := h.evicted hPlan
  refine (h.panes paneId).congr ?_ ?_
  · intro id found hFound hPane
    rcases of_getElem?_insert hFound with ⟨rfl, rfl⟩ | hOld
    · exact absurd hPane hOther
    · exact hEvicted.effects id found hOld
  · intro id found hFound _ hPending
    have hNe : id ≠ effectId := by
      intro hEq
      rw [hEq, hFresh] at hFound
      cases hFound
    rw [getElem?_insert_of_ne hNe]
    exact hEvicted.kept id found hFound (receiptScheme.kept_of_pending found hPending)

/-- The pane behind a planned effect. -/
theorem Bookkept.panes_installed
    (hAttempt : state.Attempt request paneId effectId plan reply next) (indeterminate : Bool) :
    PaneKept ((state.commitReceiptCapacity plan).effects.insert effectId
        ⟨.fromAuthenticatedRequest paneId request, reply,
          storedState request.header.operation indeterminate⟩) paneId
      (some (if indeterminate then state.quarantine paneId next else next)) none := by
  have hPlanned := hAttempt.planned
  have hSettled : AllSettled (state.commitReceiptCapacity plan).effects paneId :=
    fun other found hFound => h.settled_of_planned hPlanned other found
      ((h.evicted hAttempt.capacity).effects other found hFound)
  cases indeterminate with
  | true => exact paneKept_enter rfl hSettled ⟨_, _, rfl⟩ nofun nofun
  | false =>
    by_cases hInput : request.header.operation = .input
    · obtain ⟨rfl, rfl⟩ : reply = (mutationPlan paneId effectId
          request.header).1 ∧ next = (mutationPlan paneId effectId
          request.header).2 := by
        cases hPlanned with
        | mutation => exact ⟨rfl, rfl⟩
        | spawn hOp | claim hOp | closeExited hOp => rw [hInput] at hOp; cases hOp
      have hState : storedState request.header.operation false =
          .input .acceptedNotDurable := by
        rw [storedState, if_neg (by simp), if_pos hInput]
      have hNext : (mutationPlan paneId effectId request.header).2 =
          .liveClaimed request.header.leaseGeneration request.header.muxIncarnation
            (request.header.leaseSequence + 1) (some effectId) := by
        simp only [mutationPlan, hInput]
      rw [hState]
      rw [hNext]
      refine paneKept_enter rfl hSettled (.inl rfl) ?_ nofun
      intro other hOther
      cases hOther
      exact ⟨rfl, rfl⟩
    · have hState : storedState request.header.operation false = .applied := by
        rw [storedState, if_neg (by simp), if_neg hInput]
      have hNext : next.pendingInputEffect = none := by
        cases hPlanned with
        | mutation =>
          unfold mutationPlan
          split
          · rfl
          · next hOp => exact absurd hOp hInput
          · rfl
          · rfl
        | spawn => rfl
        | claim => rfl
        | closeExited => rfl
      rw [hState]
      refine paneKept_enter rfl hSettled trivial ?_ nofun
      intro other hOther
      change next.pendingInputEffect = some other at hOther
      rw [hNext] at hOther
      cases hOther

/-- The pane behind a checkpoint. -/
theorem Bookkept.panes_checkpoint {identity : CheckpointEffectIdentity}
    (hIdentity : GuardianProtocolState.Identifies identity request.header)
    (hNext : state.NextMutation identity.paneId request.header)
    (hPlan : state.planReceiptCapacity true true = some plan) (disposition : CheckpointDisposition) :
    PaneKept ((state.commitReceiptCapacity plan).effects.insert identity.effectId
        ⟨.fromAuthenticatedRequest identity.paneId request,
          .checkpointReceipt (.fromIdentity identity disposition), .checkpoint disposition identity⟩)
      identity.paneId
      (some (.liveClaimed identity.generation identity.muxIncarnation (identity.sequence + 1) none))
      (if disposition == .committed then none else some identity.effectId) := by
  have hKept := h.panes identity.paneId
  rw [hNext.pane, hNext.barrier] at hKept
  have hSettled : AllSettled (state.commitReceiptCapacity plan).effects identity.paneId :=
    fun other found hFound =>
      hKept.settled rfl rfl nofun other found ((h.evicted hPlan).effects other found hFound)
  cases disposition with
  | committed =>
    exact paneKept_enter rfl hSettled trivial nofun nofun
  | outcomeIndeterminate =>
    refine paneKept_enter rfl hSettled ⟨rfl, .inl ?_⟩ nofun ?_
    · simp only [fromAuthenticatedRequest, hIdentity.generation, hIdentity.mux,
        hIdentity.sequence]
    · intro other hOther
      cases hOther
      exact ⟨rfl, identity, rfl⟩

/-- The fence of an open effect, as the pane and the barrier have it. -/
theorem Bookkept.stands (hEffect : state.receipts.effects[effectId]? = some effect) :
    Fenced state.panes[effect.fingerprint.paneId]?
      state.indeterminateCheckpointsByPane[effect.fingerprint.paneId]? effectId effect :=
  (h.panes effect.fingerprint.paneId).fenced effectId effect hEffect rfl

/-- A change that touches panes which exist takes no slot. -/
theorem Bookkept.slots_same (hSlots : ∀ pane, pane ∈ after.slotSet → pane ∈ state.slotSet) :
    after.occupiedPaneSlots ≤ guardianMaxPanes := by
  have hLe := h.slots
  rw [occupiedPaneSlots_eq_card] at *
  exact (Finset.card_le_card hSlots).trans hLe

/-- A pane that has a slot, or gets one. -/
theorem Bookkept.slots_insert_pane {pane : Uuid}
    (hPanes : after.panes = state.panes.insert pane next) (hGenesis : after.genesis = state.genesis)
    (hDurable : after.durable = state.durable)
    (hRoom : pane ∈ state.slotSet ∨ state.occupiedPaneSlots < guardianMaxPanes) :
    after.occupiedPaneSlots ≤ guardianMaxPanes := by
  refine slots_insert (fun other hOther => ?_) (hRoom.imp_left fun hSlot => ⟨hSlot, h.slots⟩)
  rw [mem_slotSet, hPanes, hGenesis, hDurable, TreeMap.mem_insert, Nat.compare_eq_eq] at hOther
  rwa [mem_slotSet, ← or_assoc]

/-- A pane that exists keeps its slot. -/
theorem Bookkept.slots_insert_old {pane : Uuid} {old : GuardianPaneState}
    (hPane : state.panes[pane]? = some old) (hPanes : after.panes = state.panes.insert pane next)
    (hGenesis : after.genesis = state.genesis) (hDurable : after.durable = state.durable) :
    after.occupiedPaneSlots ≤ guardianMaxPanes := by
  refine h.slots_insert_pane hPanes hGenesis hDurable (.inl (mem_slotSet.mpr (.inl ?_)))
  rw [TreeMap.mem_iff_isSome_getElem?, hPane]
  rfl

/-- Another request leaves the effects as they are. -/
theorem Bookkept.effects_asked (hAsked : state.Asked after) :
    after.receipts.effects = state.receipts.effects := by
  cases hAsked with
  | nothing => rfl
  | request _ _ hPlan =>
    obtain ⟨_, _, _, _, hSame⟩ := h.receipts.commitCapacity hPlan
    exact hSame rfl

variable (hChange : state.Change after mark)
include hChange

theorem Bookkept.receipts_change :
    after.receipts.Sound receiptScheme ∧ after.receipts.capacity = state.receipts.capacity := by
  cases hChange with
  | installed hAttempt =>
    refine ⟨?_, (h.evicted hAttempt.capacity).capacity⟩
    exact h.enter hAttempt.capacity hAttempt.freshRequest hAttempt.freshEffect _ kept_storedState
  | @checkpoint request identity _ hIdentity hRequest hEffect _ _ hPlan disposition =>
    refine ⟨?_, (h.evicted hPlan).capacity⟩
    refine h.enter hPlan hRequest hEffect
      ⟨.fromAuthenticatedRequest identity.paneId request,
        .checkpointReceipt (.fromIdentity identity disposition), .checkpoint disposition identity⟩
      fun hQueued => ?_
    rw [beq_iff_eq] at hQueued
    subst hQueued
    simp [receiptScheme, isPending, fromAuthenticatedRequest,
      hIdentity.operation]
  | asked hRequest hEffect hPlan =>
    obtain ⟨hSound, hEvicted, hRequests, _, hSame⟩ := h.receipts.commitCapacity hPlan
    refine ⟨?_, hEvicted.capacity⟩
    have hRetained := hEffect
    rw [← hSame rfl] at hRetained
    refine hSound.ask ?_ hRetained (none_of_evicted hEvicted.requests hRequest) rfl ⟨rfl, rfl⟩ ?_
    · rw [hEvicted.capacity]
      exact hRequests rfl
    · intro hQueued
      rwa [Bool.not_eq_true'] at hQueued
  | committed hEffect hState _ hIds =>
    have hShaped := h.shaped _ _ hEffect
    simp only [Shaped, hState] at hShaped
    refine ⟨h.receipts.settle hEffect ?_ hIds ?_ (fun _ => rfl) fun _ hAgrees => ⟨hAgrees.1, rfl⟩, rfl⟩
    · simp [receiptScheme, hState, isPending]
    · simp [receiptScheme, isPending, hShaped.1]
  | inputSettled hTarget hEffect hFingerprint hState hPane hWaits hIds =>
    have hShaped := h.shaped _ _ hEffect
    simp only [Shaped, hState] at hShaped
    refine ⟨h.receipts.settle hEffect ?_ hIds ?_ (fun _ => rfl) fun _ hAgrees => ⟨hAgrees.1, rfl⟩, rfl⟩
    · simp [receiptScheme, hState, isPending]
    · rename_i identity target stored requestIds pane
      cases target <;>
        simp_all [receiptScheme, isPending, isTerminalInput]
  | census hSame _ _ =>
    rw [hSame]
    exact ⟨h.receipts, rfl⟩
  | _ => exact ⟨h.receipts, rfl⟩

/-- Stored effects that were there before are in shape. -/
theorem Bookkept.shaped_change :
    ∀ (effectId : Uuid) effect, after.receipts.effects[effectId]? = some effect →
      Shaped effectId effect := by
  intro other otherEffect hOther
  cases hChange with
  | installed hAttempt indeterminate =>
    rcases of_getElem?_insert hOther with ⟨rfl, rfl⟩ | hOld
    · exact shaped_of_planned hAttempt.planned indeterminate
    · exact h.shaped other otherEffect ((h.evicted hAttempt.capacity).effects other _ hOld)
  | checkpoint hIdentity _ _ _ hLt hPlan =>
    rcases of_getElem?_insert hOther with ⟨rfl, rfl⟩ | hOld
    · exact ⟨hIdentity.operation, hIdentity.sequence.trans_lt hLt, rfl, rfl, rfl,
        hIdentity.generation.symm, hIdentity.sequence.symm, hIdentity.mux.symm⟩
    · exact h.shaped other otherEffect ((h.evicted hPlan).effects other _ hOld)
  | asked _ _ hPlan =>
    exact h.shaped other otherEffect ((h.evicted hPlan).effects other _ hOther)
  | committed hEffect hState =>
    rcases of_getElem?_insert hOther with ⟨rfl, rfl⟩ | hOld
    · have hShaped := h.shaped _ _ hEffect
      simp only [Shaped, hState] at hShaped
      exact ⟨hShaped.1, hShaped.2.1, rfl, rfl, hShaped.2.2.2.2⟩
    · exact h.shaped other otherEffect hOld
  | inputSettled _ hEffect hFingerprint hState =>
    rcases of_getElem?_insert hOther with ⟨rfl, rfl⟩ | hOld
    · have hShaped := h.shaped _ _ hEffect
      simp only [Shaped, hState] at hShaped
      refine ⟨hShaped.1, hShaped.2.1, ?_⟩
      rw [hFingerprint]
      rfl
    · exact h.shaped other otherEffect hOld
  | census hSame =>
    rw [hSame] at hOther
    exact h.shaped other otherEffect hOther
  | _ => exact h.shaped other otherEffect hOther

theorem Bookkept.panes_change (other : Uuid) :
    PaneKept after.receipts.effects other after.panes[other]?
      after.indeterminateCheckpointsByPane[other]? := by
  cases hChange with
  | @quarantine paneId _ _ hPane hLive hPending hBarrier =>
    by_cases hEq : other = paneId
    · subst hEq
      have hKept := h.panes other
      rw [hPane, hBarrier] at hKept
      rw [TreeMap.getElem?_insert_self]
      refine paneKept_of_settled (hKept.settled hPending rfl fun _ _ _ hQuarantine => ?_) rfl hBarrier
      cases hQuarantine
      cases hLive
    · rw [getElem?_insert_of_ne hEq]
      exact h.panes other
  | @installed _ paneId _ _ _ _ hAttempt indeterminate =>
    by_cases hEq : other = paneId
    · subst hEq
      change PaneKept _ _ (state.panes.insert other _)[other]?
        state.indeterminateCheckpointsByPane[other]?
      rw [TreeMap.getElem?_insert_self, h.barrier_of_planned hAttempt.planned]
      exact h.panes_installed hAttempt indeterminate
    · change PaneKept _ _ (state.panes.insert paneId _)[other]? _
      rw [getElem?_insert_of_ne hEq]
      exact h.enter_other hAttempt.capacity hAttempt.freshEffect (Ne.symm hEq)
  | @checkpoint _ identity _ hIdentity _ hEffect hNext _ hPlan disposition =>
    have hBarrier : (if disposition == .committed then state.indeterminateCheckpointsByPane
        else state.indeterminateCheckpointsByPane.insert identity.paneId identity.effectId)[other]? =
        if other = identity.paneId then
          (if disposition == .committed then none else some identity.effectId)
        else state.indeterminateCheckpointsByPane[other]? := by
      split
      · split
        · next hEq => rw [hEq, hNext.barrier]
        · rfl
      · split
        · next hEq => rw [hEq, TreeMap.getElem?_insert_self]
        · next hEq => rw [getElem?_insert_of_ne hEq]
    change PaneKept _ _ (state.panes.insert identity.paneId _)[other]? (ite _ _ _)[other]?
    rw [hBarrier]
    by_cases hEq : other = identity.paneId
    · subst hEq
      rw [TreeMap.getElem?_insert_self, if_pos rfl]
      exact h.panes_checkpoint hIdentity hNext hPlan disposition
    · rw [getElem?_insert_of_ne hEq, if_neg hEq]
      exact h.enter_other hPlan hEffect (Ne.symm hEq)
  | asked _ _ hPlan =>
    obtain ⟨_, _, _, _, hSame⟩ := h.receipts.commitCapacity hPlan
    have hKept := h.panes other
    rw [← hSame rfl] at hKept
    exact hKept
  | @committed identity _ _ hEffect hState hBarrier =>
    have hShaped := h.shaped _ _ hEffect
    simp only [Shaped, hState] at hShaped
    have hFenced := h.stands hEffect
    simp only [Fenced, hState] at hFenced
    rw [← hShaped.2.2.2.2.1] at hFenced
    change PaneKept (state.receipts.effects.insert _ _) _ _
      (state.indeterminateCheckpointsByPane.erase identity.paneId)[other]?
    by_cases hEq : other = identity.paneId
    · subst hEq
      rw [TreeMap.getElem?_erase_self]
      exact (h.panes identity.paneId).settle hFenced.2 (.inr ⟨rfl, hBarrier⟩) rfl
        hFenced.2.pending_eq
    · rw [TreeMap.getElem?_erase, if_neg (by simpa using Ne.symm hEq)]
      refine (h.panes other).settle_other hEffect rfl ?_
      rw [← hShaped.2.2.2.2.1]
      exact Ne.symm hEq
  | @inputSettled identity target stored _ pane hTarget hEffect hFingerprint hState =>
    have hPaneId : stored.fingerprint.paneId = identity.paneId := by
      rw [hFingerprint]
      rfl
    have hFenced := h.stands hEffect
    simp only [Fenced, hState] at hFenced
    rw [hPaneId] at hFenced
    change PaneKept (state.receipts.effects.insert _ _) _
      (state.panes.insert identity.paneId _)[other]? _
    by_cases hEq : other = identity.paneId
    · subst hEq
      rw [TreeMap.getElem?_insert_self]
      have hKept := h.panes identity.paneId
      have hTerminal : (input target).isPending = false := by
        cases target <;> first | rfl | cases hTarget
      change PaneKept _ _ _ state.indeterminateCheckpointsByPane[identity.paneId]?
      rw [hKept.barrier_eq_none fun _ h => nomatch hFenced.pending_eq.symm.trans h.pending_eq]
      exact hKept.settle hFenced (.inl rfl) hTerminal (by cases pane <;> rfl)
    · rw [getElem?_insert_of_ne hEq]
      refine (h.panes other).settle_other hEffect rfl ?_
      rw [hPaneId]
      exact Ne.symm hEq
  | disconnected =>
    rw [TreeMap.getElem?_map]
    exact (h.panes other).retire
  | @exited paneId _ _ _ hPane hExit =>
    by_cases hEq : other = paneId
    · subst hEq
      have hKept := h.panes other
      rw [hPane] at hKept
      rw [TreeMap.getElem?_insert_self]
      exact hKept.exit hExit
    · rw [getElem?_insert_of_ne hEq]
      exact h.panes other
  | census hSame =>
    rw [hSame]
    exact h.panes other
  | _ => exact h.panes other

theorem Bookkept.spawns_change : after.SpawnsSound := by
  cases hChange with
  | reserved hFresh =>
    obtain ⟨hEffect, hPane, _⟩ :=
      preflightGenesisReservationIdentity_eq_ok hFresh
    exact ⟨h.spawns.durable, h.spawns.genesis.insert hEffect hPane⟩
  | fenced hFresh =>
    obtain ⟨hEffect, hPane, _⟩ := freshDurableSpawnFence_eq_ok hFresh
    exact ⟨h.spawns.durable.insert hEffect hPane, h.spawns.genesis⟩
  | census hSame =>
    rw [hSame]
    exact ⟨h.spawns.durable, h.spawns.genesis⟩
  | quiet | notApplied | reconciled | inputSettledBefore => exact h.spawns
  | _ => exact ⟨h.spawns.durable, h.spawns.genesis⟩

theorem Bookkept.snapshots_change :
    (∀ id : Uuid, id ∈ after.censusSnapshots → id < after.nextCensusSnapshotSequence) ∧
      0 < after.nextCensusSnapshotSequence := by
  cases hChange with
  | census _ hNext hIds =>
    refine ⟨fun id hId => ?_, h.nextSnapshot.trans_le hNext⟩
    rcases hIds id hId with hOld | hNew
    · exact (h.snapshots id hOld).trans_le hNext
    · exact hNew
  | _ => exact ⟨h.snapshots, h.nextSnapshot⟩

theorem Bookkept.slots_change : after.occupiedPaneSlots ≤ guardianMaxPanes := by
  cases hChange with
  | quarantine hPane | inputSettled _ _ _ _ hPane | exited hPane =>
    exact h.slots_insert_old hPane rfl rfl rfl
  | installed hAttempt =>
    cases hAttempt.planned with
    | spawn _ _ hSlots =>
      refine h.slots_insert_pane rfl rfl rfl ?_
      rcases hSlots with hLt | ⟨hLe, hReserved⟩
      · exact .inr hLt
      · refine .inl ?_
        rw [mem_slotSet]
        exact .inr (.inl (TreeMap.mem_iff_contains.mpr hReserved))
    | claim _ hPane | closeExited _ hPane => exact h.slots_insert_old hPane rfl rfl rfl
    | mutation _ hNext => exact h.slots_insert_old hNext.pane rfl rfl rfl
  | checkpoint _ _ _ hNext => exact h.slots_insert_old hNext.pane rfl rfl rfl
  | disconnected =>
    refine h.slots_same fun pane hPane => ?_
    rw [mem_slotSet] at hPane ⊢
    rwa [TreeMap.mem_map] at hPane
  | @reserved record hFresh =>
    obtain ⟨_, _, hSlots⟩ :=
      preflightGenesisReservationIdentity_eq_ok hFresh
    refine @slots_insert state _ record.durablePaneId (fun pane hPane => ?_) (.inr hSlots)
    rw [mem_slotSet] at hPane ⊢
    change _ ∨ pane ∈ state.genesis.panes.insert _ _ ∨ _ at hPane
    rw [TreeMap.mem_insert, Nat.compare_eq_eq] at hPane
    tauto
  | @fenced candidate hFresh =>
    obtain ⟨_, _, hSlots⟩ := freshDurableSpawnFence_eq_ok hFresh
    refine @slots_insert state _ candidate.durablePaneId (fun pane hPane => ?_) ?_
    · rw [mem_slotSet] at hPane ⊢
      change _ ∨ _ ∨ pane ∈ state.durable.panes.insert _ _ at hPane
      rw [TreeMap.mem_insert, Nat.compare_eq_eq] at hPane
      tauto
    · rcases hSlots with hReserved | hLt
      · refine .inl ⟨?_, h.slots⟩
        rw [mem_slotSet]
        exact .inr (.inl (TreeMap.mem_iff_contains.mpr hReserved))
      · exact .inr hLt
  | census hSame =>
    rw [hSame]
    exact h.slots
  | _ => exact h.slots

/-- **Spawns and open effects are never evicted.** -/
theorem Bookkept.kept_change (hEffect : state.receipts.effects[effectId]? = some effect)
    (hKept : receiptScheme.kept effect) :
    ∃ found, after.receipts.effects[effectId]? = some found ∧
      found.fingerprint = effect.fingerprint := by
  have hEnter : ∀ {plan : CapacityPlan Uuid} {other : Uuid} {new : StoredEffect},
      state.planReceiptCapacity true true = some plan → state.receipts.effects[other]? = none →
      ∃ found, ((state.commitReceiptCapacity plan).effects.insert other new)[effectId]? = some found ∧
        found.fingerprint = effect.fingerprint := by
    intro plan other new hPlan hNone
    have hNe : effectId ≠ other := by
      rintro rfl
      rw [hNone] at hEffect
      cases hEffect
    rw [getElem?_insert_of_ne hNe]
    exact ⟨effect, (h.evicted hPlan).kept effectId effect hEffect hKept, rfl⟩
  have hSettle : ∀ {other : Uuid} {stored settled : StoredEffect},
      state.receipts.effects[other]? = some stored → settled.fingerprint = stored.fingerprint →
      ∃ found, (state.receipts.effects.insert other settled)[effectId]? = some found ∧
        found.fingerprint = effect.fingerprint := by
    intro other stored settled hStored hSame
    by_cases hEq : effectId = other
    · subst hEq
      rw [hEffect, Option.some.injEq] at hStored
      rw [TreeMap.getElem?_insert_self]
      exact ⟨settled, rfl, by rw [hSame, hStored]⟩
    · rw [getElem?_insert_of_ne hEq]
      exact ⟨effect, hEffect, rfl⟩
  cases hChange with
  | installed hAttempt => exact hEnter hAttempt.capacity hAttempt.freshEffect
  | checkpoint _ _ hNone _ _ hPlan => exact hEnter hPlan hNone
  | asked _ _ hPlan => exact ⟨effect, (h.evicted hPlan).kept effectId effect hEffect hKept, rfl⟩
  | committed hStored | inputSettled _ hStored => exact hSettle hStored rfl
  | census hSame =>
    rw [hSame]
    exact ⟨effect, hEffect, rfl⟩
  | _ => exact ⟨effect, hEffect, rfl⟩

/-- **Every change keeps the relations.** -/
theorem Bookkept.change : Bookkept after where
  receipts := (h.receipts_change hChange).1
  capacity := (h.receipts_change hChange).2.trans h.capacity
  shaped := h.shaped_change hChange
  panes := h.panes_change hChange
  spawns := h.spawns_change hChange
  snapshots := (h.snapshots_change hChange).1
  nextSnapshot := (h.snapshots_change hChange).2
  slots := h.slots_change hChange

end Kept

theorem Bookkept.step (h : Bookkept state) (wire : Wire) (event : Event) :
    Bookkept (step wire state event).state := by
  obtain ⟨middle, hFirst, hSecond⟩ := step_change wire state event
  exact (h.change hFirst).change hSecond.change

theorem bookkept_initial (incarnation : Uuid) : Bookkept (initial incarnation) := by
  constructor
  · constructor <;> simp [initial]
  · rfl
  · simp [initial]
  · intro paneId
    constructor <;> simp [initial]
  · constructor
    all_goals constructor <;> simp [initial]
  · simp [initial]
  · simp [initial]
  · simp [initial, occupiedPaneSlots]

end Changes

end FrankenTerm.Ports.Guardian
