import FrankenTerm.Ports.GuardianBookkeeping
import FrankenTerm.Verified.LeaseLog

/-!
# What the guardian has called

The guardian forgets receipts, so a repeated request has to be kept away by the pane it names.  A
pane is a resource under numbered leases (`cellOf`): a spawn creates it, a claim opens the next
generation, and a mutation names the generation and the next number.  The accepted calls for a pane
are therefore the log of such a resource (`logOf`), which is what `Explained` says about a run.

A call is accepted unless its callback reports that nothing happened.  The publication of a
checkpoint is the one callback that is called again: while its outcome is open, the pane is barred
and an exact repetition of the request publishes once more (`Call.reconciles`).

## Main results

* `explained_run` — along every run, the accepted calls explain the panes.
-/

namespace FrankenTerm.Ports.Guardian

open Std (TreeMap TreeSet)
open EffectFingerprint
open Verified Verified.Check Verified.ReceiptWindow Verified.LeaseLog GuardianProtocolState

/-! ## Histories -/

/-- What is remembered about a run. -/
def history (wire : Wire) : GuardianProtocolState → List Event → List Mark
  | _, [] => []
  | state, event :: events =>
    ((step wire state event).mark event).toList ++ history wire (step wire state event).state events

/-- The call among the marks. -/
def Mark.call : Mark → Option Call
  | .called call => some call
  | .settled _ _ => none

/-- The calls among the marks. -/
def callsOf (past : List Mark) : List Call := past.filterMap Mark.call

theorem callsOf_append (past later : List Mark) :
    callsOf (past ++ later) = callsOf past ++ callsOf later := List.filterMap_append

/-- A mark has a call or none. -/
theorem called_or_quiet (mark : Option Mark) :
    (callsOf mark.toList = [] ∧ ∀ call, mark ≠ some (.called call)) ∨
      ∃ call, mark = some (.called call) := by
  cases mark with
  | none => exact .inl ⟨rfl, nofun⟩
  | some mark =>
    cases mark with
    | settled => exact .inl ⟨rfl, nofun⟩
    | called call => exact .inr ⟨call, rfl⟩

theorem callsOf_markOf (call : Option Call) : callsOf (markOf call).toList = call.toList := by
  cases call <;> rfl

theorem callsOf_mark (wire : Wire) (state : GuardianProtocolState) (event : Event) :
    callsOf ((step wire state event).mark event).toList = (step wire state event).call.toList := by
  cases event with
  | settleInput identity target memory =>
    have hCall : (step wire state (.settleInput identity target memory)).call = none := by
      change (written state (state.transitionPendingInput memory identity target)).call = none
      unfold written
      split <;> rfl
    rw [hCall]
    unfold Outcome.mark
    split_ifs <;> rfl
  | _ => exact callsOf_markOf _

/-- The history has the calls of the run. -/
theorem callsOf_history (wire : Wire) (state : GuardianProtocolState) (events : List Event) :
    callsOf (history wire state events) = (run wire state events).2 := by
  induction events generalizing state with
  | nil => rfl
  | cons _ _ ih =>
    unfold history run
    rw [callsOf_append, callsOf_mark, ih]

/-- **The rule for runs**: what every change keeps, with the marks so far, holds after every run. -/
theorem history_rule {P : List Mark → GuardianProtocolState → Prop}
    (hChange : ∀ past state after mark, Bookkept state → P past state → Change state after mark →
      P (past ++ mark.toList) after) (wire : Wire) (events : List Event) {past : List Mark}
    {state : GuardianProtocolState} (hKept : Bookkept state) (h : P past state) :
    P (past ++ history wire state events) (run wire state events).1 := by
  induction events generalizing past state with
  | nil =>
    unfold history
    rw [List.append_nil]
    exact h
  | cons event _ ih =>
    obtain ⟨middle, hFirst, hSecond⟩ := step_change wire state event
    have hMiddle := hChange past state middle _ hKept h hFirst
    have hAfter := hChange _ middle _ none (hKept.change hFirst) hMiddle hSecond.change
    rw [Option.toList_none, List.append_nil] at hAfter
    unfold history run
    rw [← List.append_assoc]
    exact ih (hKept.step wire event) hAfter

/-! ## Panes as resources -/

/-- The effect may have happened, for the first time. -/
def Call.accepted (call : Call) : Bool :=
  !call.reconciles && call.outcome != .definitelyNotApplied

/-- The pane takes no effects any more. -/
def isOver : GuardianPaneState → Bool
  | .closedTerminal _ _ => true
  | .quarantined _ _ _ => true
  | _ => false

/-- The claimant and the next number. -/
def leaseOf : GuardianPaneState → Option (Uuid × Nat)
  | .liveClaimed _ muxIncarnation nextSequence _ => some (muxIncarnation, nextSequence)
  | _ => none

/-- A pane as a resource under numbered leases. -/
def cellOf (pane : GuardianPaneState) : Cell Uuid :=
  ⟨pane.generation, leaseOf pane, isOver pane⟩

/-- What an effect does to its pane; only the close of an exited pane has the number zero. -/
def actOf (fingerprint : EffectFingerprint) : Act Uuid :=
  match fingerprint.operation with
  | .spawn => .create
  | .claim => .claim fingerprint.leaseGeneration fingerprint.muxIncarnation
  | .close =>
    if fingerprint.leaseSequence = 0 then .finish fingerprint.leaseGeneration
    else .numbered fingerprint.leaseGeneration fingerprint.muxIncarnation
      fingerprint.leaseSequence
  | _ => .numbered fingerprint.leaseGeneration fingerprint.muxIncarnation
      fingerprint.leaseSequence

/-- The accepted effects of a pane, in order. -/
def logOf (paneId : Uuid) (calls : List Call) : List (Act Uuid) :=
  (calls.filter fun call => call.accepted && call.fingerprint.paneId == paneId).map fun call =>
    actOf call.fingerprint

variable {call : Call} {calls : List Call}

theorem Call.first_of_accepted (h : call.accepted) : call.reconciles = false := by
  unfold Call.accepted at h
  rw [Bool.and_eq_true, Bool.not_eq_true'] at h
  exact h.1

theorem logOf_append_self (h : call.accepted) :
    logOf call.fingerprint.paneId (calls ++ [call]) =
      logOf call.fingerprint.paneId calls ++ [actOf call.fingerprint] := by
  simp [logOf, h]

theorem logOf_append_other {paneId : Uuid}
    (h : call.accepted → call.fingerprint.paneId ≠ paneId) :
    logOf paneId (calls ++ [call]) = logOf paneId calls := by
  have hNot : (call.accepted && call.fingerprint.paneId == paneId) = false := by
    cases hAccepted : call.accepted with
    | false => rfl
    | true => simpa using h hAccepted
  simp [logOf, hNot]

theorem mem_logOf {paneId : Uuid} (hMem : call ∈ calls) (hAccepted : call.accepted)
    (hPane : call.fingerprint.paneId = paneId) : actOf call.fingerprint ∈ logOf paneId calls := by
  refine List.mem_map.mpr ⟨call, List.mem_filter.mpr ⟨hMem, ?_⟩, rfl⟩
  simp [hAccepted, hPane]

/-- The accepted calls explain every pane. -/
def Explained (calls : List Call) (state : GuardianProtocolState) : Prop :=
  ∀ paneId : Uuid, Explains (logOf paneId calls) (state.panes[paneId]?.map cellOf)

section Takes

variable {state after : GuardianProtocolState}

variable {paneId : Uuid} {next : GuardianPaneState}

/-- The numbers of a lease start at one. -/
theorem Explained.next_pos (h : Explained calls state) {paneId mux next : Nat}
    {pane : GuardianPaneState} (hPane : state.panes[paneId]? = some pane)
    (hLease : leaseOf pane = some (mux, next)) : 0 < next := by
  have hCell := h paneId
  rw [hPane] at hCell
  obtain ⟨⟨n, rfl, _⟩, _⟩ := ExplainsCell.lease hCell mux next hLease
  exact Nat.succ_pos n

/-- A mutation of the owner of the lease, by its number. -/
theorem takes_numbered {fingerprint : EffectFingerprint} {pane : GuardianPaneState}
    {pending : Option Uuid} (hAct : actOf fingerprint = .numbered fingerprint.leaseGeneration
      fingerprint.muxIncarnation fingerprint.leaseSequence)
    (hPane : state.panes[paneId]? = some (.liveClaimed fingerprint.leaseGeneration
      fingerprint.muxIncarnation fingerprint.leaseSequence pending))
    (hGeneration : pane.generation = fingerprint.leaseGeneration)
    (hLease : leaseOf pane = some (fingerprint.muxIncarnation, fingerprint.leaseSequence + 1) ∨
      leaseOf pane = none) :
    Takes (state.panes[paneId]?.map cellOf) (actOf fingerprint) (cellOf pane) := by
  rw [hPane, hAct]
  exact @Takes.numbered _ (cellOf (.liveClaimed fingerprint.leaseGeneration
    fingerprint.muxIncarnation fingerprint.leaseSequence pending)) (cellOf pane) _ _ rfl rfl
    hGeneration hLease

theorem leaseOf_mutationPlan (paneId effectId : Uuid) (header : GuardianRequestHeader) :
    (mutationPlan paneId effectId header).2.generation = header.leaseGeneration ∧
      (leaseOf (mutationPlan paneId effectId header).2 =
          some (header.muxIncarnation, header.leaseSequence + 1) ∨
        leaseOf (mutationPlan paneId effectId header).2 = none) := by
  unfold mutationPlan
  split
  · exact ⟨rfl, .inr rfl⟩
  · exact ⟨rfl, .inl rfl⟩
  · exact ⟨rfl, .inr rfl⟩
  · exact ⟨rfl, .inl rfl⟩

/-- A pane takes what is planned for it, whether the outcome is open or not. -/
theorem takes_of_planned {effectId : Uuid} {request : GuardianRequest} {reply : GuardianReply}
    (hPlanned : state.Planned paneId effectId request.header reply next)
    (hPos : ∀ pane mux number, state.panes[paneId]? = some pane → leaseOf pane = some (mux, number)
      → 0 < number) (indeterminate : Bool) :
    Takes (state.panes[paneId]?.map cellOf) (actOf (.fromAuthenticatedRequest paneId request))
      (cellOf (if indeterminate then state.quarantine paneId next else next)) := by
  cases hPlanned with
  | spawn hOp hPane =>
    have hAct : actOf (.fromAuthenticatedRequest paneId request) = .create := by
      simp [actOf, fromAuthenticatedRequest, hOp]
    rw [hPane, hAct]
    cases indeterminate with
    | false | true => exact .create rfl rfl
  | @claim hOp pane hPane hLive _ _ hGeneration =>
    have hAct : actOf (.fromAuthenticatedRequest paneId request) =
        .claim (cellOf pane).generation request.header.muxIncarnation := by
      simp [actOf, fromAuthenticatedRequest, hOp, cellOf, hGeneration]
    have hOpen : (cellOf pane).closed = false := by
      cases pane with
      | liveUnclaimed => rfl
      | liveClaimed => rfl
      | exitedUnclaimed | closedTerminal | quarantined => cases hLive
    rw [hPane, hAct]
    have hNext : (cellOf pane).generation + 1 = request.header.leaseGeneration + 1 := by
      rw [← hGeneration]
      rfl
    cases indeterminate with
    | false => exact .claim hOpen hNext.symm (.inl rfl)
    | true => exact .claim hOpen hNext.symm (.inr rfl)
  | mutation hOp hNext =>
    have hAct : actOf (.fromAuthenticatedRequest paneId request) =
        .numbered request.header.leaseGeneration request.header.muxIncarnation
          request.header.leaseSequence := by
      have hSequence := hPos _ _ _ hNext.pane rfl
      simp only [actOf, fromAuthenticatedRequest]
      split
      · next hOther => rw [hOther] at hOp; cases hOp
      · next hOther => rw [hOther] at hOp; cases hOp
      · exact if_neg (by omega)
      · rfl
    obtain ⟨hGeneration, hLease⟩ := leaseOf_mutationPlan paneId effectId request.header
    cases indeterminate with
    | false => exact takes_numbered hAct hNext.pane hGeneration hLease
    | true => exact takes_numbered hAct hNext.pane hGeneration (.inr rfl)
  | @closeExited hOp exitStatus hPane _ hSequence =>
    have hAct : actOf (.fromAuthenticatedRequest paneId request) =
        .finish request.header.leaseGeneration := by
      simp [actOf, fromAuthenticatedRequest, hOp, hSequence]
    rw [hPane, hAct]
    cases indeterminate with
    | false | true =>
      exact @Takes.finish _ (cellOf (.exitedUnclaimed request.header.leaseGeneration exitStatus none))
        _ rfl rfl rfl rfl

/-- A first call is for something that its pane takes; the pane is not barred, and becomes what the
call makes of it if the call is accepted. -/
theorem GuardianProtocolState.Change.taken (hKept : Bookkept state)
    (hExplained : Explained calls state) (h : Change state after (some (.called call)))
    (hFirst : call.reconciles = false) :
    ∃ next, Takes (state.panes[call.fingerprint.paneId]?.map cellOf) (actOf call.fingerprint) next ∧
      (call.accepted → after.panes[call.fingerprint.paneId]?.map cellOf = some next ∧
          (call.outcome = .outcomeIndeterminate → call.fingerprint.operation ≠ .checkpoint →
            next.closed)) ∧
      state.indeterminateCheckpointsByPane[call.fingerprint.paneId]? = none := by
  cases h with
  | @notApplied _ _ _ _ _ _ hAttempt =>
    refine ⟨_, takes_of_planned hAttempt.planned (fun _ _ _ => hExplained.next_pos) false, ?_,
      hKept.barrier_of_planned hAttempt.planned⟩
    intro hAccepted
    cases hAccepted
  | @installed _ paneId _ _ _ _ hAttempt indeterminate =>
    refine ⟨_, takes_of_planned hAttempt.planned (fun _ _ _ => hExplained.next_pos) indeterminate,
      fun _ => ⟨?_, ?_⟩, hKept.barrier_of_planned hAttempt.planned⟩
    · change ((state.panes.insert paneId _)[paneId]?).map cellOf = _
      rw [TreeMap.getElem?_insert_self]
      rfl
    · intro hOutcome _
      cases indeterminate with
      | false => cases hOutcome
      | true => rfl
  | @checkpoint request identity _ hIdentity _ _ hNext =>
    have hAct : actOf (.fromAuthenticatedRequest identity.paneId request) =
        .numbered request.header.leaseGeneration request.header.muxIncarnation
          request.header.leaseSequence := by
      simp only [actOf, fromAuthenticatedRequest, hIdentity.operation]
    have hTakes := @takes_numbered state identity.paneId
      (.fromAuthenticatedRequest identity.paneId request) (.liveClaimed identity.generation
        identity.muxIncarnation (identity.sequence + 1) none) none hAct hNext.pane
      hIdentity.generation.symm (.inl (by rw [← hIdentity.mux, ← hIdentity.sequence]; rfl))
    refine ⟨_, hTakes, fun _ => ⟨?_, ?_⟩, hNext.barrier⟩
    · change ((state.panes.insert identity.paneId _)[identity.paneId]?).map cellOf = _
      rw [TreeMap.getElem?_insert_self]
      rfl
    · intro _ hOp
      exact absurd hIdentity.operation hOp
  | reconciled | committed => cases hFirst

/-! ## Panes that take nothing -/

/-- The pane takes nothing, or there is none. -/
def IdleAt (paneId : Uuid) (state after : GuardianProtocolState) : Prop :=
  (state.panes[paneId]? = none ∧ after.panes[paneId]? = none) ∨
    ∃ old next, state.panes[paneId]? = some old ∧ after.panes[paneId]? = some next ∧
      Idle (cellOf old) (cellOf next)

theorem idleAt_of_same (h : after.panes[paneId]? = state.panes[paneId]?) :
    IdleAt paneId state after := by
  cases hPane : state.panes[paneId]? with
  | none => exact .inl ⟨hPane, h.trans hPane⟩
  | some pane => exact .inr ⟨pane, pane, hPane, h.trans hPane, Idle.refl _⟩

theorem idleAt_of_insert {changed : Uuid} {old : GuardianPaneState}
    (hPanes : after.panes = state.panes.insert changed next)
    (hOld : state.panes[changed]? = some old) (hIdle : Idle (cellOf old) (cellOf next)) :
    IdleAt paneId state after := by
  by_cases hEq : paneId = changed
  · subst hEq
    refine .inr ⟨old, next, hOld, ?_, hIdle⟩
    rw [hPanes, TreeMap.getElem?_insert_self]
  · apply idleAt_of_same
    rw [hPanes, getElem?_insert_of_ne hEq]

theorem idle_withoutPendingInput (pane : GuardianPaneState) :
    Idle (cellOf pane) (cellOf (withoutPendingInput pane)) := by
  cases pane with
  | _ => exact ⟨rfl, .inl rfl, id⟩

theorem idle_retireLease (state : GuardianProtocolState) (muxIncarnation paneId : Uuid)
    (pane : GuardianPaneState) :
    Idle (cellOf pane) (cellOf (state.retireLease muxIncarnation paneId pane)) := by
  unfold GuardianProtocolState.retireLease
  split_ifs with hRetire
  · refine ⟨rfl, .inr rfl, ?_⟩
    intro hClosed
    cases pane with
    | liveClaimed => cases hClosed
    | _ => cases hRetire
  · exact Idle.refl _

theorem idle_exitedPane {exitStatus : Int} {pane : GuardianPaneState}
    (h : exitedPane exitStatus pane = some next) : Idle (cellOf pane) (cellOf next) := by
  unfold exitedPane at h
  split at h <;> cases h
  · exact ⟨rfl, .inl rfl, id⟩
  · exact ⟨rfl, .inr rfl, id⟩
  · exact ⟨rfl, .inl rfl, id⟩
  · exact ⟨rfl, .inl rfl, id⟩

/-- A pane that no accepted call is for takes nothing. -/
theorem GuardianProtocolState.Change.idleAt {mark : Option Mark} (h : Change state after mark)
    (hNot : ∀ call, mark = some (.called call) → call.accepted → call.fingerprint.paneId ≠
      paneId) : IdleAt paneId state after := by
  cases h with
  | quarantine hPane =>
    exact idleAt_of_insert rfl hPane ⟨rfl, .inr rfl, fun _ => rfl⟩
  | @installed _ changed _ _ _ _ _ indeterminate =>
    have hNe : changed ≠ paneId := hNot _ rfl (by cases indeterminate <;> rfl)
    exact idleAt_of_same (getElem?_insert_of_ne hNe.symm)
  | @checkpoint _ identity _ _ _ _ _ _ _ disposition =>
    have hNe : identity.paneId ≠ paneId := hNot _ rfl (by cases disposition <;> rfl)
    exact idleAt_of_same (getElem?_insert_of_ne hNe.symm)
  | inputSettled _ _ _ _ hPane =>
    exact idleAt_of_insert rfl hPane (idle_withoutPendingInput _)
  | disconnected muxIncarnation =>
    cases hPane : state.panes[paneId]? with
    | none =>
      refine .inl ⟨hPane, ?_⟩
      rw [TreeMap.getElem?_map, hPane]
      rfl
    | some pane =>
      refine .inr ⟨pane, _, hPane, ?_, idle_retireLease state muxIncarnation paneId pane⟩
      rw [TreeMap.getElem?_map, hPane]
      rfl
  | exited hPane hExit => exact idleAt_of_insert rfl hPane (idle_exitedPane hExit)
  | census hSame =>
    apply idleAt_of_same
    rw [hSame]
  | _ => exact idleAt_of_same rfl

theorem explains_idleAt {log : List (Act Uuid)} (h : Explains log (state.panes[paneId]?.map cellOf))
    (hIdle : IdleAt paneId state after) : Explains log (after.panes[paneId]?.map cellOf) := by
  rcases hIdle with ⟨hNone, hAfter⟩ | ⟨old, next, hOld, hAfter, hIdle⟩
  · rw [hNone] at h
    rw [hAfter]
    exact h
  · rw [hOld] at h
    rw [hAfter]
    exact Explains.idle h hIdle

/-! ## Runs -/

/-- **A change keeps the panes explained.** -/
theorem Explained.change (h : Explained calls state) (hKept : Bookkept state) {mark : Option Mark}
    (hChange : Change state after mark) : Explained (calls ++ callsOf mark.toList) after := by
  intro paneId
  rcases called_or_quiet mark with ⟨hNone, hQuiet⟩ | ⟨call, rfl⟩
  · rw [hNone, List.append_nil]
    exact explains_idleAt (h paneId) (hChange.idleAt fun call hMark => absurd hMark (hQuiet call))
  change Explains (logOf paneId (calls ++ [call])) _
  by_cases hCall : call.accepted ∧ call.fingerprint.paneId = paneId
  · obtain ⟨hAccepted, rfl⟩ := hCall
    obtain ⟨next, hTakes, hNext, _⟩ := hChange.taken hKept h (Call.first_of_accepted hAccepted)
    rw [logOf_append_self hAccepted, (hNext hAccepted).1]
    exact (h call.fingerprint.paneId).take hTakes
  · have hNot : call.accepted → call.fingerprint.paneId ≠ paneId :=
      fun hAccepted hPane => hCall ⟨hAccepted, hPane⟩
    rw [logOf_append_other hNot]
    refine explains_idleAt (h paneId) (hChange.idleAt fun other hMark => ?_)
    cases hMark
    exact hNot

end Takes

/-- **The accepted calls of a run explain the panes.** -/
theorem explained_run (wire : Wire) (incarnation : Uuid) (events : List Event) :
    Explained (run wire (.initial incarnation) events).2
      (run wire (.initial incarnation) events).1 := by
  have hChange : ∀ past state after mark, Bookkept state → Explained (callsOf past) state →
      Change state after mark → Explained (callsOf (past ++ mark.toList)) after := by
    intro past state after mark hKept h hChange
    rw [callsOf_append]
    exact h.change hKept hChange
  have hStart : Explained (callsOf []) (.initial incarnation) := fun _ => rfl
  have hRun := history_rule hChange wire events (bookkept_initial incarnation) hStart
  rw [List.nil_append, callsOf_history] at hRun
  exact hRun

/-! ## Effects -/

/-- The mark has nothing new about this effect. -/
structure Silent (effectId : Uuid) (before : Option StoredEffect) (mark : Option Mark) : Prop where
  called : ∀ call, mark = some (.called call) → call.accepted = true → call.effectId ≠ effectId
  settled : ∀ identity target, mark = some (.settled identity target) →
    identity.effectId = effectId → isTerminalInput target = true ∧ ∃ stored, before = some stored ∧
      stored.fingerprint = inputFingerprint identity ∧ stored.state = .input target

/-- **What a change can do to one effect.** -/
inductive EffectStep (effectId : Uuid) :
    Option StoredEffect → Option StoredEffect → Option Mark → Prop where
  | same {effect : Option StoredEffect} {mark : Option Mark} (h : Silent effectId effect mark) :
      EffectStep effectId effect effect mark
  | evicted {effect : StoredEffect} {mark : Option Mark}
      (hKept : receiptScheme.kept effect = false) (h : Silent effectId (some effect) mark) :
      EffectStep effectId (some effect) none mark
  | entered {reply : GuardianReply} {call : Call} (hAccepted : call.accepted = true)
      (hId : call.effectId = effectId) (hOp : call.fingerprint.operation ≠ .checkpoint) :
      EffectStep effectId none (some ⟨call.fingerprint, reply,
        storedState call.fingerprint.operation (call.outcome == .outcomeIndeterminate)⟩)
        (some (.called call))
  | checkpoint {reply : GuardianReply} {disposition : CheckpointDisposition}
      {identity : CheckpointEffectIdentity} {call : Call} (hAccepted : call.accepted = true)
      (hId : call.effectId = effectId) (hOp : call.fingerprint.operation = .checkpoint)
      (hOutcome : call.outcome =
        if disposition = .committed then .applied else .outcomeIndeterminate) :
      EffectStep effectId none
        (some ⟨call.fingerprint, reply, .checkpoint disposition identity⟩) (some (.called call))
  | settled {identity : InputEffectIdentity} {target : InputEffectState} {stored : StoredEffect}
      (hId : identity.effectId = effectId) (hTarget : isTerminalInput target = true)
      (hFingerprint : stored.fingerprint = inputFingerprint identity)
      (hState : stored.state = .input .acceptedNotDurable) :
      EffectStep effectId (some stored)
        (some { stored with reply := inputReply identity target, state := .input target })
        (some (.settled identity target))
  | committed {identity : CheckpointEffectIdentity} {stored : StoredEffect} {reply : GuardianReply}
      (hState : stored.state = .checkpoint .outcomeIndeterminate identity) :
      EffectStep effectId (some stored)
        (some { stored with reply, state := .checkpoint .committed identity })
        (some (.called (settlingCall stored identity)))

section Effects

variable {state after : GuardianProtocolState}

variable {effectId : Uuid}

theorem effectStep_evicted {before window : Window Uuid StoredEffect StoredRequest}
    (hEvicted : Window.Sound.Evicted receiptScheme before window) {mark : Option Mark}
    (h : Silent effectId before.effects[effectId]? mark) :
    EffectStep effectId before.effects[effectId]? window.effects[effectId]? mark := by
  cases hBefore : before.effects[effectId]? with
  | none =>
    rw [hBefore] at h
    rw [none_of_evicted hEvicted.effects hBefore]
    exact .same h
  | some effect =>
    rw [hBefore] at h
    cases hAfter : window.effects[effectId]? with
    | none =>
      refine .evicted ?_ h
      by_contra hKept
      rw [Bool.not_eq_false] at hKept
      rw [hEvicted.kept effectId effect hBefore hKept] at hAfter
      cases hAfter
    | some found =>
      have hFound := hEvicted.effects effectId found hAfter
      rw [hBefore] at hFound
      cases hFound
      exact .same h

theorem silent_called {before : Option StoredEffect}
    (h : call.accepted → call.effectId ≠ effectId) :
    Silent effectId before (some (.called call)) := by
  constructor
  · intro other hMark
    cases hMark
    exact h
  · nofun

theorem GuardianProtocolState.Planned.not_checkpoint {paneId : Uuid}
    {header : GuardianRequestHeader} {reply : GuardianReply} {next : GuardianPaneState}
    (h : state.Planned paneId effectId header reply next) : header.operation ≠ .checkpoint := by
  intro hOp
  cases h with
  | spawn hPlanned | claim hPlanned | mutation hPlanned | closeExited hPlanned =>
    rw [hOp] at hPlanned
    cases hPlanned

/-- An effect that is put into the table takes its own step; every other one is left as it was. -/
theorem effectStep_insert {effects : TreeMap Uuid StoredEffect} {entered : Uuid}
    {stored : StoredEffect} {before : Option StoredEffect} {mark : Option Mark}
    (hSelf : effectId = entered → EffectStep effectId before (some stored) mark)
    (hOther : effectId ≠ entered → EffectStep effectId before effects[effectId]? mark) :
    EffectStep effectId before (effects.insert entered stored)[effectId]? mark := by
  by_cases hEq : effectId = entered
  · subst hEq
    rw [TreeMap.getElem?_insert_self]
    exact hSelf rfl
  · rw [getElem?_insert_of_ne hEq]
    exact hOther hEq

theorem GuardianProtocolState.Change.effectStep (hKept : Bookkept state) {mark : Option Mark}
    (h : Change state after mark) (effectId : Uuid) :
    EffectStep effectId state.receipts.effects[effectId]? after.receipts.effects[effectId]?
      mark := by
  cases h with
  | @installed request paneId _ _ reply _ hAttempt indeterminate =>
    refine effectStep_insert (fun hEq => ?_) fun hEq => ?_
    · subst hEq
      rw [hAttempt.freshEffect]
      have hOp := hAttempt.planned.not_checkpoint
      cases indeterminate with
      | false =>
        exact @EffectStep.entered effectId reply ⟨false, .fromAuthenticatedRequest paneId request,
          effectId, .applied, false⟩ rfl rfl hOp
      | true =>
        exact @EffectStep.entered effectId reply ⟨false, .fromAuthenticatedRequest paneId request,
          effectId, .outcomeIndeterminate, false⟩ rfl rfl hOp
    · exact effectStep_evicted (hKept.evicted hAttempt.capacity)
        (silent_called fun _ hSame => hEq hSame.symm)
  | @checkpoint request identity _ hIdentity _ hEffect _ _ hPlan disposition =>
    refine effectStep_insert (fun hEq => ?_) fun hEq => ?_
    · subst hEq
      rw [hEffect]
      have hOp := hIdentity.operation
      cases disposition with
      | committed | outcomeIndeterminate =>
        exact @EffectStep.checkpoint identity.effectId _ _ identity ⟨false,
          .fromAuthenticatedRequest identity.paneId request, identity.effectId, _, false⟩ rfl rfl
          hOp rfl
    · exact effectStep_evicted (hKept.evicted hPlan)
        (silent_called fun _ hSame => hEq hSame.symm)
  | asked _ _ hPlan =>
    exact effectStep_evicted (hKept.evicted hPlan) ⟨nofun, nofun⟩
  | committed hEffect hState =>
    refine effectStep_insert (fun hEq => ?_) fun hEq => ?_
    · subst hEq
      rw [hEffect]
      exact .committed hState
    · exact .same (silent_called nofun)
  | inputSettled hTarget hEffect hFingerprint hState =>
    refine effectStep_insert (fun hEq => ?_) fun hEq => ?_
    · subst hEq
      rw [hEffect]
      exact .settled rfl hTarget hFingerprint hState
    · refine .same ⟨nofun, fun other _ hMark hSame => ?_⟩
      cases hMark
      exact absurd hSame.symm hEq
  | @inputSettledBefore _ _ stored hTarget hEffect hFingerprint hState =>
    refine .same ⟨nofun, fun other _ hMark hSame => ?_⟩
    cases hMark
    subst hSame
    exact ⟨hTarget, stored, hEffect, hFingerprint, hState⟩
  | notApplied | reconciled => exact .same (silent_called nofun)
  | census hSame =>
    rw [hSame]
    exact .same ⟨nofun, nofun⟩
  | _ => exact .same ⟨nofun, nofun⟩

end Effects

/-! ## A small world -/

/-- Payload formats that accept everything. -/
def plainWire : Wire where
  sha256 := fun _ => 1
  spawn := fun _ => .ok ⟨24, 80, 0, 0⟩
  census := fun _ => .error .invalidCensusPage
  inputEffectQuery := fun _ => .ok ⟨5, 1, 1, 1⟩
  checkpointIntent := fun _ => .ok ⟨1, 1⟩
  checkpointStage := fun _ _ => .error .invalidOperationPayload
  accepts := fun _ _ => .ok ()
  isMuxRotation := fun _ => false
  isSuccessorMuxRotation := fun _ => false

/-- A request of the multiplexer 5 for pane 7 of the guardian 3. -/
def plainRequest (operation : GuardianOperation) (requestId generation sequence effectId : Nat)
    (payload : List UInt8) : GuardianRequest where
  header :=
    { operation, guardianIncarnation := 3, muxIncarnation := 5, requestId, payloadSha256 := 1
      paneId := some 7, leaseGeneration := generation, leaseSequence := sequence
      effectId := some effectId }
  payload := payload
  authenticatedPayloadBytes := payload.length

end FrankenTerm.Ports.Guardian
