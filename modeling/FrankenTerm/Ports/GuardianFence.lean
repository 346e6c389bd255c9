import FrankenTerm.Ports.GuardianHistory

/-!
# Effects happen at most once

What the calls of a run look like (`LeaseFenced`).  The accepted effects of a pane are the log of a
resource under numbered leases, so they cannot be repeated, whether or not their receipts are still
there.  An effect whose outcome is open jams its pane for good, except for a checkpoint: its pane is
barred until an exact repetition of the request has published the checkpoint, and this repetition is
the only way for a callback to be called again.

`Fencing` adds what ties the calls to the state: the panes that are jammed, barred or spawned.

## Main results

* `Fencing.change` — every change keeps the calls fenced.
* `effects_lease_fenced` — the calls of every run are.
-/

namespace FrankenTerm.Ports.Guardian

open Std (TreeMap TreeSet)
open Verified Verified.ReceiptWindow Verified.LeaseLog GuardianProtocolState List

/-- The first publication of a checkpoint whose outcome is open. -/
structure Call.LeavesOpen (call : Call) : Prop where
  accepted : call.accepted = true
  operation : call.fingerprint.operation = .checkpoint
  outcome : call.outcome = .outcomeIndeterminate

/-- The checkpoint of this call has been published after all. -/
structure Call.Publishes (again first : Call) : Prop where
  reconciles : again.reconciles = true
  effect : again.effectId = first.effectId
  outcome : again.outcome = .applied
  settled : again.settles = true

/-- An effect other than a checkpoint whose outcome is open. -/
structure Call.Jams (call : Call) : Prop where
  accepted : call.accepted = true
  operation : call.fingerprint.operation ≠ .checkpoint
  outcome : call.outcome = .outcomeIndeterminate

/-- The same operation on the same pane under the same number. -/
structure Repeats (later earlier : EffectFingerprint) : Prop where
  pane : later.paneId = earlier.paneId
  operation : later.operation = earlier.operation
  generation : later.leaseGeneration = earlier.leaseGeneration
  sequence : later.leaseSequence = earlier.leaseSequence

/-- **What the calls of a run look like.** -/
structure LeaseFenced (calls : List Call) : Prop where
  /-- The accepted effects of a pane: one spawn, consecutive claims, and numbered effects from the
  claimant. -/
  logged : ∀ paneId, Logged (logOf paneId calls)
  /-- One spawn for a spawn effect. -/
  spawns : calls.Pairwise fun earlier later => earlier.accepted = true → later.accepted = true →
    earlier.fingerprint.operation = .spawn → later.fingerprint.operation = .spawn →
    later.effectId ≠ earlier.effectId
  /-- Nothing is called for a pane behind an open outcome. -/
  jammed : calls.Pairwise fun earlier later => earlier.Jams →
    later.fingerprint.paneId ≠ earlier.fingerprint.paneId
  /-- Behind an open checkpoint, nothing but its publication. -/
  barred : ∀ before first between later after,
    calls = before ++ first :: (between ++ later :: after) → first.LeavesOpen →
    later.reconciles = false → later.fingerprint.paneId = first.fingerprint.paneId →
    ∃ again ∈ between, again.Publishes first
  /-- No callback is called again for an accepted effect. -/
  unrepeated : calls.Pairwise fun earlier later => earlier.accepted = true →
    later.reconciles = false → ¬Repeats later.fingerprint earlier.fingerprint
  /-- Only open checkpoints are published again. -/
  reconciled : ∀ before call after, calls = before ++ call :: after → call.reconciles = true →
    ∃ first ∈ before, first.LeavesOpen ∧ first.fingerprint = call.fingerprint ∧
      first.effectId = call.effectId
  /-- None is published again once a repetition has settled it. -/
  settled : calls.Pairwise fun earlier later => earlier.settles = true → later.reconciles = true →
    later.fingerprint ≠ earlier.fingerprint

/-- The calls of a run and the state they have led to. -/
structure Fencing (calls : List Call) (state : GuardianProtocolState) : Prop where
  fenced : LeaseFenced calls
  explained : Explained calls state
  jammed : ∀ call ∈ calls, call.Jams →
    ∃ pane, state.panes[call.fingerprint.paneId]? = some pane ∧ isOver pane = true
  barred : ∀ before first after, calls = before ++ first :: after → first.LeavesOpen →
    (∃ again ∈ after, again.Publishes first) ∨
      state.indeterminateCheckpointsByPane[first.fingerprint.paneId]? = some first.effectId
  spawned : ∀ call ∈ calls, call.accepted = true → call.fingerprint.operation = .spawn →
    ∃ effect, state.receipts.effects[call.effectId]? = some effect ∧
      effect.fingerprint.operation = .spawn
  origin : ∀ (effectId : Uuid) effect identity, state.receipts.effects[effectId]? = some effect →
    effect.state = .checkpoint .outcomeIndeterminate identity →
    ∃ first ∈ calls, first.LeavesOpen ∧ first.fingerprint = effect.fingerprint ∧
      first.effectId = effectId
  settled : ∀ again ∈ calls, again.settles = true →
    (∃ first ∈ calls, first.accepted = true ∧ first.fingerprint = again.fingerprint) ∧
    ∀ (effectId : Uuid) effect identity, state.receipts.effects[effectId]? = some effect →
      effect.state = .checkpoint .outcomeIndeterminate identity →
      effect.fingerprint ≠ again.fingerprint

section

variable {state after : GuardianProtocolState} {calls : List Call} {call : Call}

/-! ## Calls -/

/-- A first call is for a fresh effect. -/
theorem GuardianProtocolState.Change.fresh (h : Change state after (some (.called call)))
    (hFirst : call.reconciles = false) : state.receipts.effects[call.effectId]? = none := by
  cases h with
  | notApplied hAttempt | installed hAttempt => exact hAttempt.freshEffect
  | checkpoint _ _ hEffect => exact hEffect
  | reconciled | committed => cases hFirst

/-- A call that reconciles is for an open checkpoint. -/
theorem GuardianProtocolState.Change.open_of_reconciles
    (h : Change state after (some (.called call))) (hAgain : call.reconciles) :
    ∃ effect identity, state.receipts.effects[call.effectId]? = some effect ∧
      effect.state = .checkpoint .outcomeIndeterminate identity ∧
      effect.fingerprint = call.fingerprint := by
  cases h with
  | @reconciled identity stored hEffect hState published
  | @committed identity stored _ hEffect hState =>
    exact ⟨stored, identity, hEffect, hState, rfl⟩
  | _ => cases hAgain

variable {mark : Option Mark} {paneId effectId : Uuid} {pane : GuardianPaneState}

/-- A jammed pane is not called for. -/
theorem GuardianProtocolState.Change.not_over (hKept : Bookkept state)
    (hExplained : Explained calls state) (h : Change state after (some (.called call)))
    (hPane : state.panes[call.fingerprint.paneId]? = some pane) : isOver pane = false := by
  cases hReconciles : call.reconciles with
  | false =>
    obtain ⟨next, hTakes, _⟩ := h.taken hKept hExplained hReconciles
    rw [hPane] at hTakes
    exact hTakes.not_closed
  | true =>
    obtain ⟨effect, identity, hEffect, hState, hSame⟩ := h.open_of_reconciles hReconciles
    have hFenced := hKept.stands hEffect
    simp only [Fenced, hState, hSame, hPane] at hFenced
    rcases hFenced.2 with hSome | ⟨exitStatus, hSome⟩
    · cases hSome
      rfl
    · cases hSome
      rfl

/-- A barrier goes when its checkpoint is published. -/
theorem GuardianProtocolState.Change.barrier (h : Change state after mark)
    (hBarrier : state.indeterminateCheckpointsByPane[paneId]? = some effectId) :
    after.indeterminateCheckpointsByPane[paneId]? = some effectId ∨
      ∃ again, mark = some (.called again) ∧ again.reconciles ∧
        again.effectId = effectId ∧ again.outcome = .applied ∧ again.settles := by
  cases h with
  | @checkpoint _ identity _ _ _ _ hNext _ _ disposition =>
    have hNe : paneId ≠ identity.paneId := by
      rintro rfl
      rw [hNext.barrier] at hBarrier
      cases hBarrier
    left
    cases disposition with
    | committed => exact hBarrier
    | outcomeIndeterminate =>
      change (state.indeterminateCheckpointsByPane.insert identity.paneId _)[paneId]? = _
      rw [getElem?_insert_of_ne hNe]
      exact hBarrier
  | @committed identity _ _ _ _ hHere =>
    by_cases hEq : paneId = identity.paneId
    · subst hEq
      rw [hHere] at hBarrier
      cases hBarrier
      exact .inr ⟨_, rfl, rfl, rfl, rfl, rfl⟩
    · left
      change (state.indeterminateCheckpointsByPane.erase identity.paneId)[paneId]? = _
      rw [TreeMap.getElem?_erase, if_neg (by simpa using Ne.symm hEq)]
      exact hBarrier
  | census hSame =>
    rw [hSame]
    exact .inl hBarrier
  | _ => exact .inl hBarrier

/-- An open checkpoint bars its pane. -/
theorem GuardianProtocolState.Change.barrier_of_leavesOpen
    (h : Change state after (some (.called call))) (hOpen : call.LeavesOpen) :
    after.indeterminateCheckpointsByPane[call.fingerprint.paneId]? = some call.effectId := by
  obtain ⟨hAccepted, hOp, hOutcome⟩ := hOpen
  cases h with
  | installed hAttempt => exact absurd hOp hAttempt.planned.not_checkpoint
  | @checkpoint _ identity _ _ _ _ _ _ _ disposition =>
    cases disposition with
    | committed => cases hOutcome
    | outcomeIndeterminate =>
      change (state.indeterminateCheckpointsByPane.insert identity.paneId
        identity.effectId)[identity.paneId]? = _
      rw [TreeMap.getElem?_insert_self]
  | _ => cases hAccepted

theorem anonymous_actOf {later earlier : EffectFingerprint} (h : Repeats later earlier) :
    (actOf earlier).anonymous = (actOf later).anonymous := by
  unfold actOf
  rw [h.operation, h.generation, h.sequence]
  repeat' split
  all_goals rfl

/-! ## Steps -/

theorem pairwise_append_singleton {α : Type} {R : α → α → Prop} {xs : List α} {x : α}
    (h : xs.Pairwise R) (hLast : ∀ y ∈ xs, R y x) : (xs ++ [x]).Pairwise R := by
  rw [pairwise_append]
  refine ⟨h, pairwise_singleton _ _, fun y hy z hz => ?_⟩
  rw [mem_singleton.mp hz]
  exact hLast y hy

/-- A pane that is over stays so. -/
theorem IdleAt.over (h : IdleAt paneId state after) (hPane : state.panes[paneId]? = some pane)
    (hOver : isOver pane) :
    ∃ next, after.panes[paneId]? = some next ∧ isOver next := by
  rcases h with ⟨hNone, _⟩ | ⟨old, next, hOld, hNext, hIdle⟩
  · rw [hNone] at hPane
    cases hPane
  · rw [hOld] at hPane
    cases hPane
    exact ⟨next, hNext, hIdle.closed hOver⟩

theorem called_of_mem (h : call ∈ callsOf mark.toList) : mark = some (.called call) := by
  rcases called_or_quiet mark with ⟨hNone, _⟩ | ⟨later, rfl⟩
  · rw [hNone] at h
    cases h
  · rw [mem_singleton.mp h]

/-- Two open checkpoints of a pane are the same. -/
theorem Bookkept.open_unique (hKept : Bookkept state) {effect other : StoredEffect} {otherId : Uuid}
    {identity otherIdentity : CheckpointEffectIdentity}
    (hEffect : state.receipts.effects[effectId]? = some effect)
    (hState : effect.state = .checkpoint .outcomeIndeterminate identity)
    (hOther : state.receipts.effects[otherId]? = some other)
    (hOtherState : other.state = .checkpoint .outcomeIndeterminate otherIdentity)
    (hPane : effect.fingerprint.paneId = other.fingerprint.paneId) : effectId = otherId := by
  have hFenced := hKept.stands hEffect
  have hOtherFenced := hKept.stands hOther
  simp only [Fenced, hState] at hFenced
  simp only [Fenced, hOtherState] at hOtherFenced
  rw [hPane, hOtherFenced.1] at hFenced
  exact (Option.some.inj hFenced.1).symm

section Steps

variable (h : Fencing calls state)
include h

theorem Fencing.barred_change (hChange : Change state after mark)
    {before rest : List Call} {first : Call}
    (hSplit : calls ++ callsOf mark.toList = before ++ first :: rest) (hOpen : first.LeavesOpen) :
    (∃ again ∈ rest, again.Publishes first) ∨
      after.indeterminateCheckpointsByPane[first.fingerprint.paneId]? = some first.effectId := by
  rcases called_or_quiet mark with ⟨hNone, hQuiet⟩ | ⟨call, rfl⟩
  · rw [hNone, append_nil] at hSplit
    rcases h.barred before first rest hSplit hOpen with hAgain | hBarrier
    · exact .inl hAgain
    · rcases hChange.barrier hBarrier with hBarrier | ⟨again, hMark, _⟩
      · exact .inr hBarrier
      · exact absurd hMark (hQuiet again)
  · rcases append_singleton_eq hSplit with ⟨_, _, rfl⟩ | ⟨others, rfl, hCalls⟩
    · exact .inr (hChange.barrier_of_leavesOpen hOpen)
    · rcases h.barred before first others hCalls hOpen with ⟨again, hMem, hAgain⟩ | hBarrier
      · exact .inl ⟨again, mem_append_left _ hMem, hAgain⟩
      · rcases hChange.barrier hBarrier with
          hBarrier | ⟨again, hMark, hAgain, hId, hOutcome, hSettles⟩
        · exact .inr hBarrier
        · cases hMark
          exact .inl ⟨call, mem_append_right _ mem_cons_self, hAgain, hId, hOutcome, hSettles⟩

variable (hKept : Bookkept state)
include hKept

/-- The calls stay fenced with one more. -/
theorem Fencing.fenced_called (hChange : Change state after (some (.called call))) :
    LeaseFenced (calls ++ [call]) where
  logged := fun paneId => (h.explained.change hKept hChange paneId).logged
  spawns := by
    refine pairwise_append_singleton h.fenced.spawns ?_
    intro earlier hMem hEarlier hAccepted hOp _ hSame
    obtain ⟨effect, hEffect, _⟩ := h.spawned earlier hMem hEarlier hOp
    rw [← hSame, hChange.fresh (Call.first_of_accepted hAccepted)] at hEffect
    cases hEffect
  jammed := by
    refine pairwise_append_singleton h.fenced.jammed ?_
    intro earlier hMem hJams hSame
    obtain ⟨pane, hPane, hOver⟩ := h.jammed earlier hMem hJams
    rw [← hSame] at hPane
    rw [hChange.not_over hKept h.explained hPane] at hOver
    cases hOver
  barred := by
    intro before first between later rest hSplit hOpen hFirst hSame
    rw [← cons_append, ← append_assoc] at hSplit
    rcases append_singleton_eq hSplit with ⟨_, hCalls, rfl⟩ | ⟨others, _, hCalls⟩
    · rcases h.barred before first between hCalls.symm hOpen with hAgain | hBarrier
      · exact hAgain
      · obtain ⟨_, _, _, hNone⟩ := hChange.taken hKept h.explained hFirst
        rw [hSame, hBarrier] at hNone
        cases hNone
    · refine h.fenced.barred before first between later others ?_ hOpen hFirst hSame
      rw [hCalls, append_assoc, cons_append]
  unrepeated := by
    refine pairwise_append_singleton h.fenced.unrepeated ?_
    intro earlier hMem hEarlier hFirst hRepeats
    obtain ⟨next, hTakes, _⟩ := hChange.taken hKept h.explained hFirst
    have hLogged := ((h.explained call.fingerprint.paneId).take hTakes).logged
    exact hLogged.unrepeated (mem_logOf hMem hEarlier hRepeats.pane.symm)
      (anonymous_actOf hRepeats)
  reconciled := by
    intro before again rest hSplit hAgain
    rcases append_singleton_eq hSplit with ⟨_, rfl, rfl⟩ | ⟨others, _, hCalls⟩
    · obtain ⟨effect, identity, hEffect, hState, hSame⟩ :=
        hChange.open_of_reconciles hAgain
      obtain ⟨first, hMem, hOpen, hFingerprint, hId⟩ := h.origin _ effect identity hEffect hState
      exact ⟨first, hMem, hOpen, hFingerprint.trans hSame, hId⟩
    · exact h.fenced.reconciled before again others hCalls hAgain
  settled := by
    refine pairwise_append_singleton h.fenced.settled ?_
    intro earlier hMem hSettles hAgain
    obtain ⟨effect, identity, hEffect, hState, hSame⟩ := hChange.open_of_reconciles hAgain
    rw [← hSame]
    exact (h.settled earlier hMem hSettles).2 _ effect identity hEffect hState

variable (hChange : Change state after mark)
include hChange

theorem Fencing.jammed_change :
    ∀ call ∈ calls ++ callsOf mark.toList, call.Jams →
      ∃ pane, after.panes[call.fingerprint.paneId]? = some pane ∧ isOver pane := by
  intro earlier hMem hJams
  rcases mem_append.mp hMem with hMem | hMem
  · obtain ⟨pane, hPane, hOver⟩ := h.jammed earlier hMem hJams
    refine (hChange.idleAt fun later hMark _ hSame => ?_).over hPane hOver
    rw [hMark] at hChange
    rw [← hSame] at hPane
    rw [hChange.not_over hKept h.explained hPane] at hOver
    cases hOver
  · cases called_of_mem hMem
    obtain ⟨next, _, hNext, _⟩ :=
      hChange.taken hKept h.explained (Call.first_of_accepted hJams.accepted)
    obtain ⟨hAfter, hClosed⟩ := hNext hJams.accepted
    obtain ⟨pane, hPane, rfl⟩ := Option.map_eq_some_iff.mp hAfter
    exact ⟨pane, hPane, hClosed hJams.outcome hJams.operation⟩

theorem Fencing.spawned_change :
    ∀ call ∈ calls ++ callsOf mark.toList, call.accepted →
      call.fingerprint.operation = .spawn →
      ∃ effect, after.receipts.effects[call.effectId]? = some effect ∧
        effect.fingerprint.operation = .spawn := by
  intro earlier hMem hAccepted hOp
  rcases mem_append.mp hMem with hMem | hMem
  · obtain ⟨effect, hEffect, hSpawn⟩ := h.spawned earlier hMem hAccepted hOp
    obtain ⟨found, hFound, hSame⟩ :=
      hKept.kept_change hChange hEffect (by simp [receiptScheme, hSpawn])
    exact ⟨found, hFound, by rw [hSame, hSpawn]⟩
  · cases called_of_mem hMem
    have hStep := hChange.effectStep hKept earlier.effectId
    generalize hAfter : after.receipts.effects[earlier.effectId]? = next at hStep
    rw [hChange.fresh (Call.first_of_accepted hAccepted)] at hStep
    cases hStep with
    | same hSilent => exact absurd rfl (hSilent.called earlier rfl hAccepted)
    | entered => exact ⟨_, rfl, hOp⟩
    | checkpoint _ _ hCheckpoint =>
      rw [hOp] at hCheckpoint
      cases hCheckpoint

theorem Fencing.origin_change {effect : StoredEffect} {identity : CheckpointEffectIdentity}
    (hEffect : after.receipts.effects[effectId]? = some effect)
    (hState : effect.state = .checkpoint .outcomeIndeterminate identity) :
    ∃ first ∈ calls ++ callsOf mark.toList, first.LeavesOpen ∧
      first.fingerprint = effect.fingerprint ∧ first.effectId = effectId := by
  have hStep := hChange.effectStep hKept effectId
  generalize hBefore : state.receipts.effects[effectId]? = before at hStep
  rw [hEffect] at hStep
  cases hStep with
  | same =>
    obtain ⟨first, hMem, hFirst⟩ := h.origin effectId effect identity hBefore hState
    exact ⟨first, mem_append_left _ hMem, hFirst⟩
  | entered =>
    simp only [storedState] at hState
    split_ifs at hState
  | @checkpoint _ _ _ call hAccepted hId hOp hOutcome =>
    cases hState
    exact ⟨call, mem_append_right _ mem_cons_self, ⟨hAccepted, hOp, hOutcome⟩, rfl, hId⟩
  | settled | committed => cases hState

/-- A checkpoint that was settled is not open again. -/
theorem Fencing.closed_change {again : Call} (hMem : again ∈ calls) (hSettles : again.settles)
    {effect : StoredEffect} {identity : CheckpointEffectIdentity}
    (hEffect : after.receipts.effects[effectId]? = some effect)
    (hState : effect.state = .checkpoint .outcomeIndeterminate identity) :
    effect.fingerprint ≠ again.fingerprint := by
  obtain ⟨⟨first, hFirst, hAccepted, hSame⟩, hClosed⟩ := h.settled again hMem hSettles
  have hStep := hChange.effectStep hKept effectId
  generalize hBefore : state.receipts.effects[effectId]? = before at hStep
  rw [hEffect] at hStep
  cases hStep with
  | same => exact hClosed effectId effect identity hBefore hState
  | entered =>
    simp only [storedState] at hState
    split_ifs at hState
  | @checkpoint _ _ _ call hCall =>
    -- The settled checkpoint was accepted once, and no first call repeats it.
    intro hEq
    have hApart := (pairwise_append.mp (h.fenced_called hKept hChange).unrepeated).2.2 first hFirst
      call (mem_singleton_self call) hAccepted (Call.first_of_accepted hCall)
    have hRepeats : call.fingerprint = first.fingerprint := hEq.trans hSame.symm
    exact hApart (by rw [hRepeats]; exact ⟨rfl, rfl, rfl, rfl⟩)
  | settled | committed => cases hState

theorem Fencing.settled_change :
    ∀ again ∈ calls ++ callsOf mark.toList, again.settles →
      (∃ first ∈ calls ++ callsOf mark.toList, first.accepted ∧
        first.fingerprint = again.fingerprint) ∧
      ∀ (effectId : Uuid) effect identity, after.receipts.effects[effectId]? = some effect →
        effect.state = .checkpoint .outcomeIndeterminate identity →
        effect.fingerprint ≠ again.fingerprint := by
  intro again hMem hSettles
  rcases mem_append.mp hMem with hMem | hMem
  · obtain ⟨⟨first, hFirst, hAccepted⟩, _⟩ := h.settled again hMem hSettles
    exact ⟨⟨first, mem_append_left _ hFirst, hAccepted⟩,
      fun _ _ _ hEffect hState => h.closed_change hKept hChange hMem hSettles hEffect hState⟩
  · cases called_of_mem hMem
    cases hChange with
    | @committed settled stored requestIds hStored hOpen =>
      obtain ⟨first, hFirst, hLeaves, hSame, _⟩ := h.origin _ stored settled hStored hOpen
      refine ⟨⟨first, mem_append_left _ hFirst, hLeaves.accepted, hSame⟩, ?_⟩
      intro effectId effect identity hEffect hState hEq
      change (state.receipts.effects.insert settled.effectId _)[effectId]? = some effect at hEffect
      by_cases hId : effectId = settled.effectId
      · subst hId
        rw [TreeMap.getElem?_insert_self] at hEffect
        cases hEffect
        cases hState
      · rw [getElem?_insert_of_ne hId] at hEffect
        have hPane : effect.fingerprint.paneId = stored.fingerprint.paneId := by rw [hEq]; rfl
        exact hId (hKept.open_unique hEffect hState hStored hOpen hPane)
    | _ => cases hSettles

/-- **Every change keeps the calls fenced.** -/
theorem Fencing.change : Fencing (calls ++ callsOf mark.toList) after where
  fenced := by
    rcases called_or_quiet mark with ⟨hNone, _⟩ | ⟨call, rfl⟩
    · rw [hNone, append_nil]
      exact h.fenced
    · exact h.fenced_called hKept hChange
  explained := h.explained.change hKept hChange
  jammed := h.jammed_change hKept hChange
  barred := fun _ _ _ hSplit hOpen => h.barred_change hChange hSplit hOpen
  spawned := h.spawned_change hKept hChange
  origin := fun _ _ _ hEffect hState => h.origin_change hKept hChange hEffect hState
  settled := h.settled_change hKept hChange

end Steps

theorem fencing_initial (incarnation : Uuid) : Fencing [] (.initial incarnation) where
  fenced :=
    { logged := fun _ => logged_nil
      spawns := List.Pairwise.nil
      jammed := List.Pairwise.nil
      barred := by
        intro before first between later rest hSplit
        cases before <;> cases hSplit
      unrepeated := List.Pairwise.nil
      reconciled := by
        intro before call rest hSplit
        cases before <;> cases hSplit
      settled := List.Pairwise.nil }
  explained := fun _ => rfl
  jammed := nofun
  barred := by
    intro before first rest hSplit
    cases before <;> cases hSplit
  spawned := nofun
  origin := by
    intro effectId effect identity hSome
    simp [GuardianProtocolState.initial] at hSome
  settled := nofun

end

/-- **Guardian effects are lease-fenced and happen at most once**, except that an open checkpoint is
published again. -/
theorem effects_lease_fenced (wire : Wire) (incarnation : Uuid) (events : List Event) :
    LeaseFenced (run wire (.initial incarnation) events).2 := by
  have hChange : ∀ past state after mark, Bookkept state → Fencing (callsOf past) state →
      Change state after mark → Fencing (callsOf (past ++ mark.toList)) after := by
    intro past state after mark hKept h hChange
    rw [callsOf_append]
    exact h.change hKept hChange
  have hStart : Fencing (callsOf []) (.initial incarnation) := fencing_initial incarnation
  have hRun := history_rule hChange wire events (bookkept_initial incarnation) hStart
  rw [nil_append, callsOf_history] at hRun
  exact hRun.fenced

/-- A checkpoint whose publication fails, its repetition, and a resize behind it. -/
def reconciledCheckpoint : List Event :=
  [.effect (plainRequest .spawn 1 0 0 11 []) true .applied,
    .effect (plainRequest .claim 2 0 0 12 []) true .applied,
    .checkpoint (plainRequest .checkpoint 3 1 1 13 []) true true false,
    .checkpoint (plainRequest .checkpoint 3 1 1 13 []) true true true,
    .effect (plainRequest .resize 4 1 2 14 []) true .applied]

/-- The repetition of an accepted checkpoint calls its callback again, and the pane goes on behind
the open outcome. -/
theorem open_checkpoint_is_published_again :
    let checkpoint : EffectFingerprint := ⟨.checkpoint, 7, 5, 1, 1, 0, 1⟩
    (run plainWire (.initial 3) reconciledCheckpoint).2.drop 2 =
      [{ fingerprint := checkpoint, effectId := 13, outcome := .outcomeIndeterminate },
        { reconciles := true, fingerprint := checkpoint, effectId := 13, outcome := .applied
          settles := true },
        { fingerprint := ⟨.resize, 7, 5, 1, 2, 0, 1⟩, effectId := 14, outcome := .applied }] := by
  decide +kernel

end FrankenTerm.Ports.Guardian
