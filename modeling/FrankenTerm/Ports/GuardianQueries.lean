import FrankenTerm.Ports.GuardianHistory

/-!
# Asking what became of an input

After a crash the multiplexer asks the guardian what became of an input (`query_input_effect`), and
writes it again if the guardian has not seen it.  The answer comes from the receipt of the input as
long as there is one; otherwise the guardian infers it from the pane.  `Remembers` says what the
receipts and the panes know about the inputs of a run: an accepted input has a receipt until its
disposition is recorded, the receipt has that disposition, and the pane is past its number.

## Main results

* `Remembers.change` — every change keeps this.
* `query_never_invites_double_write` — what the answers to queries say about the run.
-/

namespace FrankenTerm.Ports.Guardian

open Std (TreeMap TreeSet)
open Verified Verified.Check Verified.ReceiptWindow Verified.LeaseLog GuardianProtocolState

/-- The input with this identity has been accepted. -/
def AcceptedInput (past : List Mark) (effectId : Uuid) (fingerprint : EffectFingerprint) : Prop :=
  ∃ call, .called call ∈ past ∧ call.accepted = true ∧ call.effectId = effectId ∧
    call.fingerprint = fingerprint

/-- The disposition of the input with this identity has been recorded. -/
def Recorded (past : List Mark) (effectId : Uuid) (fingerprint : EffectFingerprint)
    (target : InputEffectState) : Prop :=
  ∃ identity, .settled identity target ∈ past ∧ identity.effectId = effectId ∧
    inputFingerprint identity = fingerprint

/-- What the receipt, or its absence, says about an accepted input. -/
inductive Remembered (past : List Mark) (effectId : Uuid) (fingerprint : EffectFingerprint) :
    Option StoredEffect → Prop where
  | unknown {effect : StoredEffect} (hFingerprint : effect.fingerprint = fingerprint)
      (hState : effect.state = .outcomeIndeterminate) :
      Remembered past effectId fingerprint (some effect)
  | waiting {effect : StoredEffect} (hFingerprint : effect.fingerprint = fingerprint)
      (hState : effect.state = .input .acceptedNotDurable)
      (hOpen : ∀ target, ¬Recorded past effectId fingerprint target) :
      Remembered past effectId fingerprint (some effect)
  | known {effect : StoredEffect} {target : InputEffectState}
      (hFingerprint : effect.fingerprint = fingerprint) (hState : effect.state = .input target)
      (hTarget : isTerminalInput target = true)
      (hRecorded : Recorded past effectId fingerprint target)
      (hOnly : ∀ other, Recorded past effectId fingerprint other → other = target) :
      Remembered past effectId fingerprint (some effect)
  | gone {effect : Option StoredEffect}
      (hOther : ∀ found, effect = some found → found.fingerprint ≠ fingerprint)
      (hRecorded : ∃ target, Recorded past effectId fingerprint target) :
      Remembered past effectId fingerprint effect

/-- What the guardian knows about the inputs of a run. -/
structure Remembers (past : List Mark) (state : GuardianProtocolState) : Prop where
  explained : Explained (callsOf past) state
  origin : ∀ (effectId : Uuid) stored input, state.receipts.effects[effectId]? = some stored →
    stored.state = .input input → (input = .acceptedNotDurable ∨ isTerminalInput input = true) ∧
      AcceptedInput past effectId stored.fingerprint
  recorded : ∀ effectId fingerprint target, Recorded past effectId fingerprint target →
    AcceptedInput past effectId fingerprint
  inputs : ∀ (effectId : Uuid) fingerprint, fingerprint.operation = .input →
    AcceptedInput past effectId fingerprint →
    Remembered past effectId fingerprint state.receipts.effects[effectId]?

/-! ## Marks -/

section Marks

variable {past : List Mark} {effectId : Uuid} {fingerprint : EffectFingerprint}
  {target : InputEffectState} {mark : Option Mark}

theorem AcceptedInput.append (h : AcceptedInput past effectId fingerprint) (later : List Mark) :
    AcceptedInput (past ++ later) effectId fingerprint := by
  obtain ⟨call, hMem, hRest⟩ := h
  exact ⟨call, List.mem_append_left _ hMem, hRest⟩

theorem Recorded.append (h : Recorded past effectId fingerprint target) (later : List Mark) :
    Recorded (past ++ later) effectId fingerprint target := by
  obtain ⟨identity, hMem, hRest⟩ := h
  exact ⟨identity, List.mem_append_left _ hMem, hRest⟩

/-- An accepted input was accepted before, or just now. -/
theorem acceptedInput_append (h : AcceptedInput (past ++ mark.toList) effectId fingerprint) :
    AcceptedInput past effectId fingerprint ∨ ∃ call, mark = some (.called call) ∧
      call.accepted ∧ call.effectId = effectId ∧ call.fingerprint = fingerprint := by
  obtain ⟨call, hMem, hRest⟩ := h
  rcases List.mem_append.mp hMem with hMem | hMem
  · exact .inl ⟨call, hMem, hRest⟩
  · exact .inr ⟨call, Option.mem_toList.mp hMem, hRest⟩

theorem recorded_append (h : Recorded (past ++ mark.toList) effectId fingerprint target) :
    Recorded past effectId fingerprint target ∨ ∃ identity,
      mark = some (.settled identity target) ∧ identity.effectId = effectId ∧
        inputFingerprint identity = fingerprint := by
  obtain ⟨identity, hMem, hRest⟩ := h
  rcases List.mem_append.mp hMem with hMem | hMem
  · exact .inl ⟨identity, hMem, hRest⟩
  · exact .inr ⟨identity, Option.mem_toList.mp hMem, hRest⟩

/-- A call records no disposition. -/
theorem recorded_append_called {call : Call}
    (h : Recorded (past ++ (some (Mark.called call)).toList) effectId fingerprint target) :
    Recorded past effectId fingerprint target := by
  rcases recorded_append h with h | ⟨identity, hMark, _⟩
  · exact h
  · cases hMark

/-- A mark with nothing new about an effect records what the receipt has already. -/
theorem Silent.recorded {before : Option StoredEffect} (h : Silent effectId before mark)
    (hRecorded : Recorded (past ++ mark.toList) effectId fingerprint target) :
    Recorded past effectId fingerprint target ∨ isTerminalInput target ∧
      ∃ stored, before = some stored ∧ stored.fingerprint = fingerprint ∧
        stored.state = .input target := by
  rcases recorded_append hRecorded with hRecorded | ⟨identity, hMark, hId, rfl⟩
  · exact .inl hRecorded
  · exact .inr (h.settled identity target hMark hId)

theorem Silent.accepted {before : Option StoredEffect} (h : Silent effectId before mark)
    (hAccepted : AcceptedInput (past ++ mark.toList) effectId fingerprint) :
    AcceptedInput past effectId fingerprint := by
  rcases acceptedInput_append hAccepted with hAccepted | ⟨call, hMark, hCall, hId, _⟩
  · exact hAccepted
  · exact absurd hId (h.called call hMark hCall)

end Marks

/-! ## One effect -/

section Effect

variable {past : List Mark} {effectId : Uuid} {fingerprint : EffectFingerprint}
  {effect : Option StoredEffect} {mark : Option Mark}

theorem Remembered.same (h : Remembered past effectId fingerprint effect)
    (hSilent : Silent effectId effect mark) :
    Remembered (past ++ mark.toList) effectId fingerprint effect := by
  cases h with
  | unknown hFingerprint hState => exact .unknown hFingerprint hState
  | waiting hFingerprint hState hOpen =>
    refine .waiting hFingerprint hState fun target hRecorded => ?_
    rcases hSilent.recorded hRecorded with hRecorded | ⟨hTarget, stored, hSome, _, hInput⟩
    · exact hOpen target hRecorded
    · cases hSome
      rw [hState] at hInput
      cases hInput
      cases hTarget
  | known hFingerprint hState hTarget hRecorded hOnly =>
    refine .known hFingerprint hState hTarget (hRecorded.append _) fun other hOther => ?_
    rcases hSilent.recorded hOther with hOther | ⟨_, stored, hSome, _, hInput⟩
    · exact hOnly other hOther
    · cases hSome
      rw [hState] at hInput
      cases hInput
      rfl
  | gone hOther hRecorded =>
    obtain ⟨target, hRecorded⟩ := hRecorded
    exact .gone hOther ⟨target, hRecorded.append _⟩

theorem Remembered.evicted {stored : StoredEffect}
    (h : Remembered past effectId fingerprint (some stored))
    (hKept : receiptScheme.kept stored = false) :
    Remembered (past ++ mark.toList) effectId fingerprint none := by
  have hSettled : ∀ {state}, stored.state = state → state.isPending = false := by
    rintro _ rfl
    simp only [receiptScheme, Bool.or_eq_false_iff] at hKept
    exact hKept.1
  have hNone : ∀ found : StoredEffect, none = some found → found.fingerprint ≠ fingerprint := by
    intro found hSome
    cases hSome
  cases h with
  | unknown _ hState | waiting _ hState => cases hSettled hState
  | known _ _ _ hRecorded => exact .gone hNone ⟨_, hRecorded.append _⟩
  | gone _ hRecorded =>
    obtain ⟨target, hRecorded⟩ := hRecorded
    exact .gone hNone ⟨target, hRecorded.append _⟩

/-- An input that has no receipt any more is past its disposition. -/
theorem Remembered.of_none (h : Remembered past effectId fingerprint none) :
    ∃ target, Recorded past effectId fingerprint target := by
  cases h with
  | gone _ hRecorded => exact hRecorded

/-- A receipt with another identity says nothing about an input that is past its disposition. -/
theorem remembered_of_other {found : StoredEffect}
    (hRecorded : ∃ target, Recorded past effectId fingerprint target)
    (hOther : found.fingerprint ≠ fingerprint) :
    Remembered (past ++ mark.toList) effectId fingerprint (some found) := by
  obtain ⟨target, hRecorded⟩ := hRecorded
  refine .gone ?_ ⟨target, hRecorded.append _⟩
  rintro _ ⟨⟩
  exact hOther

theorem Remembered.settled {identity : InputEffectIdentity} {target : InputEffectState}
    {stored settled : StoredEffect} (h : Remembered past effectId fingerprint (some stored))
    (hId : identity.effectId = effectId) (hTarget : isTerminalInput target)
    (hFingerprint : stored.fingerprint = inputFingerprint identity)
    (hState : stored.state = .input .acceptedNotDurable)
    (hSettled : settled.fingerprint = stored.fingerprint ∧ settled.state = .input target) :
    Remembered (past ++ (some (Mark.settled identity target)).toList) effectId fingerprint
      (some settled) := by
  have hHere : Mark.settled identity target ∈
      past ++ (some (Mark.settled identity target)).toList :=
    List.mem_append_right _ List.mem_cons_self
  cases h with
  | unknown _ hUnknown =>
    rw [hState] at hUnknown
    cases hUnknown
  | waiting hSame _ hOpen =>
    refine .known (hSettled.1.trans hSame) hSettled.2 hTarget
      ⟨identity, hHere, hId, hFingerprint.symm.trans hSame⟩ fun other hOther => ?_
    rcases recorded_append hOther with hOther | ⟨_, hMark, _⟩
    · exact absurd hOther (hOpen other)
    · cases hMark
      rfl
  | known _ hKnown hTerminal =>
    rw [hState] at hKnown
    cases hKnown
    cases hTerminal
  | gone hOther hRecorded =>
    exact remembered_of_other hRecorded (hSettled.1 ▸ hOther stored rfl)

end Effect

/-! ## Changes -/

section Changes

variable {past : List Mark} {state after : GuardianProtocolState} {mark : Option Mark}

theorem mem_callsOf {call : Call} : call ∈ callsOf past ↔ Mark.called call ∈ past := by
  unfold callsOf
  rw [List.mem_filterMap]
  constructor
  · rintro ⟨mark, hMem, hCall⟩
    cases mark with
    | called =>
      cases hCall
      exact hMem
    | settled => cases hCall
  · intro hMem
    exact ⟨_, hMem, rfl⟩

variable {effectId : Uuid} {before next : Option StoredEffect}

/-- What has been accepted is not accepted again. -/
theorem Remembers.not_again (h : Remembers past state) (hKept : Bookkept state) {call : Call}
    (hChange : Change state after (some (.called call))) (hAccepted : call.accepted) :
    ¬AcceptedInput past effectId call.fingerprint := by
  rintro ⟨earlier, hMem, hEarlier, _, hSame⟩
  have hFirst : call.reconciles = false := by
    unfold Call.accepted at hAccepted
    simp_all
  obtain ⟨next, hTakes, _⟩ := hChange.taken hKept h.explained hFirst
  have hLogged := ((h.explained call.fingerprint.paneId).take hTakes).logged
  refine hLogged.unrepeated (mem_logOf (mem_callsOf.mpr hMem) hEarlier (by rw [hSame])) ?_
  rw [hSame]

theorem Remembers.origin_change (h : Remembers past state)
    (hBefore : before = state.receipts.effects[effectId]?)
    (hStep : EffectStep effectId before next mark) {stored : StoredEffect}
    {input : InputEffectState} (hStored : next = some stored) (hState : stored.state = .input input) :
    (input = .acceptedNotDurable ∨ isTerminalInput input) ∧
      AcceptedInput (past ++ mark.toList) effectId stored.fingerprint := by
  cases hStep with
  | same =>
    obtain ⟨hInput, hAccepted⟩ := h.origin effectId stored input (hBefore ▸ hStored) hState
    exact ⟨hInput, hAccepted.append _⟩
  | evicted => cases hStored
  | @entered _ call hAccepted hId =>
    cases hStored
    have hInput : input = .acceptedNotDurable := by
      simp only [storedState] at hState
      split_ifs at hState
      cases hState
      rfl
    exact ⟨.inl hInput, call, List.mem_append_right _ List.mem_cons_self, hAccepted, hId, rfl⟩
  | checkpoint | committed =>
    cases hStored
    cases hState
  | settled _ hTarget _ hWaiting =>
    cases hStored
    cases hState
    exact ⟨.inr hTarget, (h.origin effectId _ _ hBefore.symm hWaiting).2.append _⟩

theorem Remembers.recorded_change (h : Remembers past state)
    (hBefore : before = state.receipts.effects[effectId]?)
    (hStep : EffectStep effectId before next mark) {fingerprint : EffectFingerprint}
    {target : InputEffectState}
    (hRecorded : Recorded (past ++ mark.toList) effectId fingerprint target) :
    AcceptedInput (past ++ mark.toList) effectId fingerprint := by
  have hSilently : Silent effectId before mark →
      AcceptedInput (past ++ mark.toList) effectId fingerprint := by
    intro hSilent
    rcases hSilent.recorded hRecorded with hOld | ⟨_, stored, hSome, rfl, hInput⟩
    · exact (h.recorded _ _ _ hOld).append _
    · exact (h.origin effectId stored target (hBefore ▸ hSome) hInput).2.append _
  cases hStep with
  | same hSilent | evicted _ hSilent => exact hSilently hSilent
  | settled _ _ hFingerprint hWaiting =>
    rcases recorded_append hRecorded with hOld | ⟨_, hMark, _, hSame⟩
    · exact (h.recorded _ _ _ hOld).append _
    · cases hMark
      rw [← hSame, ← hFingerprint]
      exact (h.origin effectId _ _ hBefore.symm hWaiting).2.append _
  | _ => exact (h.recorded _ _ _ (recorded_append_called hRecorded)).append _

theorem Remembers.inputs_change (h : Remembers past state) (hKept : Bookkept state)
    (hChange : Change state after mark) (hBefore : before = state.receipts.effects[effectId]?)
    (hStep : EffectStep effectId before next mark) {fingerprint : EffectFingerprint}
    (hOp : fingerprint.operation = .input)
    (hAccepted : AcceptedInput (past ++ mark.toList) effectId fingerprint) :
    Remembered (past ++ mark.toList) effectId fingerprint next := by
  have hOld : AcceptedInput past effectId fingerprint →
      Remembered past effectId fingerprint before := by
    intro hPast
    rw [hBefore]
    exact h.inputs effectId fingerprint hOp hPast
  cases hStep with
  | same hSilent => exact (hOld (hSilent.accepted hAccepted)).same hSilent
  | evicted hNotKept hSilent => exact (hOld (hSilent.accepted hAccepted)).evicted hNotKept
  | @entered _ call hCall =>
    have hAgain : ∀ {other}, ¬AcceptedInput past other call.fingerprint :=
      h.not_again hKept hChange hCall
    rcases acceptedInput_append hAccepted with hPast | ⟨_, hMark, _, _, rfl⟩
    · refine remembered_of_other (hOld hPast).of_none ?_
      rintro rfl
      exact hAgain hPast
    · cases hMark
      cases hOutcome : call.outcome == .outcomeIndeterminate with
      | true => exact .unknown rfl rfl
      | false =>
        refine .waiting rfl (by simp [storedState, hOp]) fun target hRecorded => ?_
        exact hAgain (h.recorded _ _ _ (recorded_append_called hRecorded))
  | @checkpoint _ _ _ call _ _ hCheckpoint =>
    have hOther : call.fingerprint ≠ fingerprint := by
      rintro rfl
      rw [hOp] at hCheckpoint
      cases hCheckpoint
    rcases acceptedInput_append hAccepted with hPast | ⟨_, hMark, _, _, hSame⟩
    · exact remembered_of_other (hOld hPast).of_none hOther
    · cases hMark
      exact absurd hSame hOther
  | settled hId hTarget hFingerprint hWaiting =>
    rcases acceptedInput_append hAccepted with hPast | ⟨_, hMark, _⟩
    · exact (hOld hPast).settled hId hTarget hFingerprint hWaiting ⟨rfl, rfl⟩
    · cases hMark
  | @committed _ stored _ hState =>
    rcases acceptedInput_append hAccepted with hPast | ⟨_, hMark, hCall, _⟩
    · cases hOld hPast with
      | unknown _ hOther | waiting _ hOther | known _ hOther => rw [hState] at hOther; cases hOther
      | gone hOther hRecorded => exact remembered_of_other hRecorded (hOther stored rfl)
    · cases hMark
      cases hCall

/-- **Every change keeps what the guardian knows about inputs.** -/
theorem Remembers.change (h : Remembers past state) (hKept : Bookkept state)
    (hChange : Change state after mark) : Remembers (past ++ mark.toList) after where
  explained := by
    rw [callsOf_append]
    exact h.explained.change hKept hChange
  origin := fun effectId _ _ => h.origin_change rfl (hChange.effectStep hKept effectId)
  recorded := fun effectId _ _ => h.recorded_change rfl (hChange.effectStep hKept effectId)
  inputs := fun effectId _ =>
    h.inputs_change hKept hChange rfl (hChange.effectStep hKept effectId)

theorem remembers_initial (incarnation : Uuid) : Remembers [] (.initial incarnation) where
  explained := fun _ => rfl
  origin := by
    intro effectId stored input hSome
    simp [GuardianProtocolState.initial] at hSome
  recorded := by
    rintro _ _ _ ⟨_, hMem, _⟩
    cases hMem
  inputs := by
    rintro _ _ _ ⟨_, hMem, _⟩
    cases hMem

theorem remembers_run (wire : Wire) (incarnation : Uuid) (events : List Event) :
    Remembers (history wire (.initial incarnation) events)
      (run wire (.initial incarnation) events).1 :=
  history_rule (fun _ _ _ _ hKept h hChange => h.change hKept hChange) wire events
    (bookkept_initial incarnation) (remembers_initial incarnation)

end Changes

/-! ## Queries -/

section Queries

variable {past : List Mark} {state : GuardianProtocolState}

variable {answer : InputEffectState}

/-- What has to hold for an answer to a query. -/
theorem queryInputEffect_eq_ok {wire : Wire} {request : GuardianRequest} {effectId : Uuid}
    (h : state.queryInputEffect wire request = .ok (.inputEffect effectId answer)) :
    ∃ paneId query, request.header.paneId = some paneId ∧ request.header.effectId = some effectId ∧
      wire.inputEffectQuery request.payload = .ok query ∧
      state.requireEffectQueryAuthority paneId request.header = .ok () ∧
      state.queriedState paneId effectId request.header.leaseGeneration query = .ok answer := by
  unfold queryInputEffect at h
  simp only [bind_eq_ok, okOr_eq_ok] at h
  obtain ⟨paneId, hPane, _, hAuthority, found, hEffect, query, hQuery, state, hState, h⟩ := h
  cases h
  refine ⟨paneId, query, hPane, hEffect, ?_, hAuthority, hState⟩
  unfold decoded at hQuery
  split at hQuery
  · next value hValue =>
      cases hQuery
      exact hValue
  · cases hQuery

/-- The pane is at the generation of the query, and under a lease only its claimant may ask. -/
theorem requireEffectQueryAuthority_eq_ok {paneId : Uuid} {header : GuardianRequestHeader}
    (h : state.requireEffectQueryAuthority paneId header = .ok ()) :
    ∃ pane, state.panes[paneId]? = some pane ∧ pane.generation = header.leaseGeneration ∧
      ∀ mux next, leaseOf pane = some (mux, next) → mux = header.muxIncarnation := by
  unfold requireEffectQueryAuthority at h
  split at h
  · next generation mux next pending hPane =>
      have hLease := refuseIf_eq_ok.mp h
      rw [not_not] at hLease
      refine ⟨_, hPane, hLease.1, fun other number hSome => ?_⟩
      cases hSome
      exact hLease.2
  · next pane hNot hPane =>
      have hGeneration := refuseIf_eq_ok.mp h
      rw [not_not] at hGeneration
      refine ⟨pane, hPane, hGeneration, fun other number hSome => ?_⟩
      cases pane with
      | liveClaimed generation mux next pending => exact absurd rfl (hNot generation mux next pending)
      | _ => cases hSome
  · cases h

theorem storedInputState_eq_ok {stored : StoredEffect} {expected : EffectFingerprint}
    (h : storedInputState stored expected = .ok answer) :
    stored.fingerprint = expected ∧ stored.state = .input answer := by
  unfold storedInputState at h
  rw [refuseIf_bind_eq_ok, not_not] at h
  obtain ⟨hSame, h⟩ := h
  split at h
  · next input hState =>
      obtain ⟨_, _, h⟩ := bind_eq_ok.mp h
      cases h
      exact ⟨hSame, hState⟩
  · cases h

/-- An accepted input is behind its pane. -/
theorem Remembers.behind (h : Remembers past state) {call : Call} (hMem : .called call ∈ past)
    (hAccepted : call.accepted) (hOp : call.fingerprint.operation = .input)
    {pane : GuardianPaneState} (hPane : state.panes[call.fingerprint.paneId]? = some pane) :
    call.fingerprint.leaseGeneration ≠ 0 ∧ ∀ mux next, leaseOf pane = some (mux, next) →
      call.fingerprint.leaseGeneration = pane.generation →
      call.fingerprint.leaseSequence < next := by
  have hExplains := h.explained call.fingerprint.paneId
  have hAct := mem_logOf (mem_callsOf.mpr hMem) hAccepted rfl
  have hNumbered : actOf call.fingerprint = .numbered call.fingerprint.leaseGeneration
      call.fingerprint.muxIncarnation call.fingerprint.leaseSequence := by
    simp only [actOf, hOp]
  rw [hNumbered] at hAct
  constructor
  · obtain ⟨before, rest, hSplit⟩ := List.append_of_mem hAct
    obtain ⟨named, _⟩ := hExplains.logged.owned _ _ _ _ _ hSplit
    omega
  · rw [hPane] at hExplains
    exact (Explains.numbered_lt hExplains hAct).2

/-- Without a receipt, the pane knows whether an input of its generation was accepted. -/
theorem Remembers.missing (h : Remembers past state) {call : Call} (hMem : .called call ∈ past)
    (hAccepted : call.accepted) (hOp : call.fingerprint.operation = .input)
    {pane : GuardianPaneState} (hPane : state.panes[call.fingerprint.paneId]? = some pane)
    (hGeneration : pane.generation = call.fingerprint.leaseGeneration)
    (hAnswer : state.missingInputEffectState call.fingerprint.paneId call.fingerprint.leaseSequence
      = .ok answer) : answer = .dispositionUnavailable := by
  obtain ⟨_, hLt⟩ := h.behind hMem hAccepted hOp hPane
  unfold missingInputEffectState at hAnswer
  rw [hPane] at hAnswer
  cases pane with
  | liveClaimed _ mux next =>
    dsimp only at hAnswer
    rw [if_pos (hLt mux next rfl hGeneration.symm)] at hAnswer
    cases hAnswer
    rfl
  | quarantined =>
    cases hAnswer
    rfl
  | _ =>
    dsimp only at hAnswer
    rw [if_neg (by omega)] at hAnswer
    cases hAnswer
    rfl

/-- **Queries never invite a double write.**  A query is answered with "not seen" only if no input
with that number was accepted.  An accepted input is answered with "accepted" until its disposition
is recorded, and then with that disposition or, when its receipt is gone, with nothing to be had.
While the pane is claimed, only the claimant is answered. -/
theorem query_never_invites_double_write (wire : Wire) (incarnation : Uuid) (events : List Event)
    (request : GuardianRequest) (effectId : Uuid) (answer : InputEffectState)
    (hOp : request.header.operation = .queryInputEffect)
    (hAnswer : ((run wire (.initial incarnation) events).1.applyObservation wire request).2 =
      .ok (.inputEffect effectId answer)) :
    let state := (run wire (.initial incarnation) events).1
    let past := history wire (.initial incarnation) events
    ∃ paneId query, request.header.paneId = some paneId ∧ request.header.effectId = some effectId ∧
      wire.inputEffectQuery request.payload = .ok query ∧
      let asked := queriedFingerprint paneId request.header.leaseGeneration query
      (answer = .notSeen → ∀ call, .called call ∈ past → call.accepted →
        call.fingerprint.operation = .input → call.fingerprint.paneId = paneId →
        call.fingerprint.leaseGeneration = request.header.leaseGeneration →
        call.fingerprint.leaseSequence ≠ query.sequence) ∧
      (AcceptedInput past effectId asked →
        ((∀ target, ¬Recorded past effectId asked target) → answer = .acceptedNotDurable) ∧
        ∀ target, Recorded past effectId asked target → answer = target ∨
          answer = .dispositionUnavailable ∧ state.receipts.effects[effectId]? = none) ∧
      ∀ generation mux next pending,
        state.panes[paneId]? = some (.liveClaimed generation mux next pending) →
        mux = request.header.muxIncarnation := by
  have hRemembers := remembers_run wire incarnation events
  generalize (run wire (.initial incarnation) events).1 = state at hAnswer hRemembers ⊢
  generalize history wire (.initial incarnation) events = past at hRemembers ⊢
  unfold applyObservation observe at hAnswer
  split at hAnswer
  · cases hAnswer
  rw [hOp] at hAnswer
  obtain ⟨paneId, query, hPaneId, hEffectId, hQuery, hAuthority, hState⟩ :=
    queryInputEffect_eq_ok hAnswer
  obtain ⟨pane, hPane, hGeneration, hClaimant⟩ := requireEffectQueryAuthority_eq_ok hAuthority
  refine ⟨paneId, query, hPaneId, hEffectId, hQuery, ?_, ?_, ?_⟩
  · rintro rfl call hMem hAccepted hInput rfl hSame hSequence
    unfold queriedState at hState
    split at hState
    · rw [← hSequence] at hState
      cases hRemembers.missing hMem hAccepted hInput hPane (hGeneration.trans hSame.symm) hState
    · next stored hStored =>
        obtain ⟨_, hNotSeen⟩ := storedInputState_eq_ok hState
        rcases (hRemembers.origin effectId stored _ hStored hNotSeen).1 with hSeen | hSeen
        · cases hSeen
        · cases hSeen
  · intro hAccepted
    have hRemembered := hRemembers.inputs effectId _ rfl hAccepted
    unfold queriedState at hState
    split at hState
    · next hNone =>
        obtain ⟨call, hMem, hCall, _, hSame⟩ := hAccepted
        have hPaneOf : call.fingerprint.paneId = paneId := by rw [hSame]; rfl
        have hSequenceOf : call.fingerprint.leaseSequence = query.sequence := by rw [hSame]; rfl
        have hGenerationOf : call.fingerprint.leaseGeneration = request.header.leaseGeneration := by
          rw [hSame]
          rfl
        have hUnavailable : answer = .dispositionUnavailable := by
          rw [← hPaneOf, ← hSequenceOf] at hState
          rw [← hPaneOf] at hPane
          exact hRemembers.missing hMem hCall (by rw [hSame]; rfl) hPane
            (hGeneration.trans hGenerationOf.symm) hState
        rw [hNone] at hRemembered
        obtain ⟨target, hRecorded⟩ := hRemembered.of_none
        exact ⟨fun hOpen => absurd hRecorded (hOpen target), fun _ _ => .inr ⟨hUnavailable, hNone⟩⟩
    · next stored hStored =>
        obtain ⟨hSame, hInput⟩ := storedInputState_eq_ok hState
        rw [hStored] at hRemembered
        cases hRemembered with
        | unknown _ hOther =>
          rw [hInput] at hOther
          cases hOther
        | waiting _ hOther hOpen =>
          rw [hInput] at hOther
          cases hOther
          exact ⟨fun _ => rfl, fun target hRecorded => absurd hRecorded (hOpen target)⟩
        | known _ hOther _ hRecorded hOnly =>
          rw [hInput] at hOther
          cases hOther
          exact ⟨fun hOpen => absurd hRecorded (hOpen _),
            fun target hTarget => .inl (hOnly target hTarget).symm⟩
        | gone hOther => exact absurd hSame (hOther stored rfl)
  · intro generation mux next pending hSome
    rw [hPane] at hSome
    cases hSome
    exact hClaimant mux next rfl

/-- A pane is spawned and claimed, an input is written and found durable. -/
def durableInput : List Event :=
  [.effect (plainRequest .spawn 1 0 0 11 []) true .applied,
    .effect (plainRequest .claim 2 0 0 12 []) true .applied,
    .input (plainRequest .input 3 1 1 13 [97]) true .applied,
    .settleInput ⟨7, 5, 1, 1, 13, 1, 1⟩ .durableFull true]

/-- The disposition of an input is the answer to a query. -/
theorem durable_input_is_answered :
    let past := history plainWire (.initial 3) durableInput
    let asked := queriedFingerprint 7 1 ⟨5, 1, 1, 1⟩
    AcceptedInput past 13 asked ∧ Recorded past 13 asked .durableFull ∧
      ∃ paneId query, (plainRequest .queryInputEffect 4 1 0 13 []).header.paneId = some paneId ∧
        plainWire.inputEffectQuery [] = .ok query ∧
        (AcceptedInput past 13 (queriedFingerprint paneId 1 query) →
          ∀ target, Recorded past 13 (queriedFingerprint paneId 1 query) target →
            InputEffectState.durableFull = target ∨
              InputEffectState.durableFull = .dispositionUnavailable ∧
                (run plainWire (.initial 3) durableInput).1.receipts.effects[13]? = none) := by
  have hPast : history plainWire (.initial 3) durableInput =
      [.called ⟨false, ⟨.spawn, 7, 5, 0, 0, 0, 1⟩, 11, .applied, false⟩,
        .called ⟨false, ⟨.claim, 7, 5, 0, 0, 0, 1⟩, 12, .applied, false⟩,
        .called ⟨false, ⟨.input, 7, 5, 1, 1, 1, 1⟩, 13, .applied, false⟩,
        .settled ⟨7, 5, 1, 1, 13, 1, 1⟩ .durableFull] := by
    decide +kernel
  obtain ⟨paneId, query, hPane, _, hQuery, _, hAnswer, _⟩ := query_never_invites_double_write
    plainWire 3 durableInput (plainRequest .queryInputEffect 4 1 0 13 []) 13 .durableFull rfl
    (by decide +kernel)
  refine ⟨⟨⟨false, ⟨.input, 7, 5, 1, 1, 1, 1⟩, 13, .applied, false⟩, ?_, rfl, rfl, rfl⟩,
    ⟨⟨7, 5, 1, 1, 13, 1, 1⟩, ?_, rfl, rfl⟩, paneId, query, hPane, hQuery,
    fun hAccepted => (hAnswer hAccepted).2⟩
  · rw [hPast]
    simp
  · rw [hPast]
    simp

end Queries

end FrankenTerm.Ports.Guardian
