import FrankenTerm.Ports.WireAggregator

/-!
# Taking an accepted envelope back

The caller of an aggregator takes a snapshot of the sender's session before it hands an envelope in.
If the envelope cannot be stored after it was accepted, `rollback_accepted` puts the snapshot back.
It counts the accepted envelopes that it takes back as the difference of the numbers of messages in
the two sessions.

That is right while the session goes on.  Where the envelope has found its sender stale, the session
behind it is a new one with one message, and the difference is not one but one less than the old
session had: the total is not lowered, and with an older session it is raised.

## Main results

* `rollback_restores_iff` — the session comes back, and when the total does.
-/

namespace FrankenTerm.Ports.WireAggregator

open Std (TreeMap)
open FrankenTerm.Verified

namespace Aggregator

/-- `agent_session_snapshot`; an `AgentSessionSnapshot` has the fields of an `AgentSession`. -/
def agentSessionSnapshot (aggregator : Aggregator) (sender : String) : Option AgentSession :=
  aggregator.agents[sender]?

/-- The messages of a session, if there is one. -/
def messagesOf (session : Option AgentSession) : Nat := (session.map (·.messagesReceived)).getD 0

/-- The total behind a rollback, by the messages that a session has and those of the snapshot. -/
def restoredTotal (total currentMessages previousMessages : Nat) : Nat :=
  if total ≠ RustText.u64Max then
    if previousMessages < currentMessages then total - (currentMessages - previousMessages)
    else if currentMessages < previousMessages then
      min RustText.u64Max (total + (previousMessages - currentMessages))
    else total
  else total

/-- `rollback_accepted`. -/
def rollbackAccepted (aggregator : Aggregator) (sender : String) (previous : Option AgentSession) :
    Aggregator :=
  { aggregator with
    agents := match previous with
      | some session => aggregator.agents.insert sender session
      | none => aggregator.agents.erase sender
    totalAccepted := restoredTotal aggregator.totalAccepted
      (messagesOf aggregator.agents[sender]?) (messagesOf previous) }

end Aggregator

/-- The aggregators that calls lead to; a rollback may bring in the snapshot of any of them. -/
inductive Reachable : Aggregator → Prop where
  | start (maxAgents : Nat) (limits : WireProtocolLimits) (staleAfterMs : Int) :
      Reachable (.withLimitsAndStaleAfter maxAgents limits staleAfterMs)
  | step {aggregator : Aggregator} (event : Event) (h : Reachable aggregator) :
      Reachable (step aggregator event)
  | rollback {aggregator earlier : Aggregator} (sender other : String) (h : Reachable aggregator)
      (hEarlier : Reachable earlier) :
      Reachable (aggregator.rollbackAccepted sender (earlier.agentSessionSnapshot other))

namespace Aggregator

/-- The sender's session will be reset, in `ingest_envelope_at`. -/
def Resets (aggregator : Aggregator) (sender : String) (receivedAtMs : Int) : Prop :=
  0 < aggregator.staleAfterMs ∧
    aggregator.agents[sender]?.any (aggregator.isStale receivedAtMs) = true

/-- **An accepted envelope of the sender can be taken back**: the total is not about to stick at its
end, and the session of the sender is not stale and its counter is not at its end. -/
structure Undoable (aggregator : Aggregator) (sender : String) (receivedAtMs : Int) : Prop where
  total : aggregator.totalAccepted + 1 < RustText.u64Max
  fresh : ¬aggregator.Resets sender receivedAtMs
  counter : messagesOf aggregator.agents[sender]? < RustText.u64Max

variable {aggregator : Aggregator} {sender : String} {receivedAtMs : Int} {envelope : WireEnvelope}

theorem resetStale_of_resets (h : aggregator.Resets sender receivedAtMs) :
    aggregator.resetStale sender receivedAtMs =
      { aggregator with agents := aggregator.agents.erase sender } := if_pos h

theorem resetStale_of_not (h : ¬aggregator.Resets sender receivedAtMs) :
    aggregator.resetStale sender receivedAtMs = aggregator := if_neg h

/-- The session that an envelope meets. -/
theorem readyFor_session : (aggregator.readyFor sender receivedAtMs).agents[sender]? =
    (aggregator.resetStale sender receivedAtMs).agents[sender]? := by
  unfold readyFor makeRoom
  split_ifs with hFull
  · have hNone : (aggregator.resetStale sender receivedAtMs).agents[sender]? = none := by
      unfold isFullFor at hFull
      grind
    rcases (@shrunk_prune (aggregator.resetStale sender receivedAtMs) receivedAtMs).session sender
      with hSame | hGone
    · exact hSame
    · rw [hGone, hNone]
  · rfl

theorem readyFor_settings :
    (aggregator.readyFor sender receivedAtMs).totalAccepted = aggregator.totalAccepted ∧
      (aggregator.readyFor sender receivedAtMs).staleAfterMs = aggregator.staleAfterMs := by
  unfold readyFor makeRoom pruneStaleAgents resetStale
  split_ifs <;> exact ⟨rfl, rfl⟩

/-- One accepted envelope is taken back where the session has one more message than it had. -/
theorem restoredTotal_eq_iff {total currentMessages previousMessages : Nat}
    (hTotal : total < RustText.u64Max) (hCurrent : currentMessages ≤ previousMessages + 1) :
    restoredTotal (total + 1) currentMessages previousMessages = total ↔
      total + 1 < RustText.u64Max ∧ currentMessages = previousMessages + 1 := by
  unfold restoredTotal
  generalize RustText.u64Max = limit at *
  split_ifs <;> omega

theorem rollbackAccepted_session {previous : Option AgentSession} :
    (aggregator.rollbackAccepted sender previous).agents[sender]? = previous := by
  cases previous with
  | none => exact TreeMap.getElem?_erase_self
  | some => exact TreeMap.getElem?_insert_self

/-- Whether a session is reset depends on the session alone. -/
theorem resets_congr {other : Aggregator} (hStale : other.staleAfterMs = aggregator.staleAfterMs)
    (hSession : other.agents[sender]? = aggregator.agents[sender]?) :
    other.Resets sender receivedAtMs ↔ aggregator.Resets sender receivedAtMs := by
  unfold Resets isStale
  rw [hStale, hSession]

/-- The envelope is behind what the session has taken. -/
def Repeats (envelope : WireEnvelope) (session : Option AgentSession) : Prop :=
  0 < (session.getD {}).messagesReceived ∧ envelope.seq ≤ (session.getD {}).lastSeq

/-- Where there is room without pruning, a new number is accepted. -/
theorem accepts (hValid : validateEnvelopeProtocolWithLimits envelope aggregator.limits = .ok ())
    (hRoom : (aggregator.resetStale envelope.sender receivedAtMs).isFullFor envelope.sender = false)
    (hNew : ¬Repeats envelope
      (aggregator.resetStale envelope.sender receivedAtMs).agents[envelope.sender]?) :
    (aggregator.ingestEnvelopeAt envelope receivedAtMs).2 = .ok (.accepted envelope.payload) := by
  have hReady : aggregator.readyFor envelope.sender receivedAtMs =
      aggregator.resetStale envelope.sender receivedAtMs := by
    unfold readyFor makeRoom
    rw [if_neg (by simp [hRoom])]
  unfold Repeats at hNew
  unfold ingestEnvelopeAt record
  rw [hValid]
  rw [hReady, if_neg (by simp [hRoom]), if_neg hNew]

/-- **What an accepted envelope has met and done.** -/
theorem of_accepted {payload : WirePayload}
    (h : (aggregator.ingestEnvelopeAt envelope receivedAtMs).2 = .ok (.accepted payload)) :
    ∃ ready session, ready = aggregator.readyFor envelope.sender receivedAtMs ∧
      validateEnvelopeProtocolWithLimits envelope aggregator.limits = .ok () ∧
      ready.isFullFor envelope.sender = false ∧
      ¬Repeats envelope ready.agents[envelope.sender]? ∧
      session.messagesReceived = saturatingSucc (messagesOf ready.agents[envelope.sender]?) ∧
      (aggregator.ingestEnvelopeAt envelope receivedAtMs).1 = { ready with
        agents := ready.agents.insert envelope.sender session
        totalAccepted := saturatingSucc ready.totalAccepted } := by
  rcases aggregator.ingestEnvelopeAt_cases envelope receivedAtMs with
    ⟨error, _, hEq⟩ | ⟨_, _, hEq⟩ | ⟨hValid, hRoom, hEq⟩
  · rw [hEq] at h
    cases h
  · rw [hEq] at h
    cases h
  · rw [hEq] at h ⊢
    by_cases hRepeats : Repeats envelope
        (aggregator.readyFor envelope.sender receivedAtMs).agents[envelope.sender]?
    · cases (congrArg Prod.snd (if_pos hRepeats)).symm.trans h
    · refine ⟨_, _, rfl, hValid, hRoom, hRepeats, ?_, congrArg Prod.fst (if_neg hRepeats)⟩
      cases (aggregator.readyFor envelope.sender receivedAtMs).agents[envelope.sender]? <;> rfl

end Aggregator

open Aggregator

variable {aggregator : Aggregator}

/-- Every session of a reachable aggregator has taken a message. -/
theorem Reachable.received (h : Reachable aggregator) (sender : String) (session : AgentSession)
    (hSession : aggregator.agents[sender]? = some session) : 0 < session.messagesReceived := by
  induction h generalizing sender session with
  | start =>
    have hNone : (∅ : TreeMap String AgentSession)[sender]? = none := TreeMap.getElem?_emptyc
    cases hNone.symm.trans hSession
  | @step aggregator event _ ih =>
    cases event with
    | prune => exact ih _ _ (shrunk_prune.session_eq hSession)
    | remove => exact ih _ _ (shrunk_erase.session_eq hSession)
    | ingest envelope receivedAtMs =>
      have hReady := fun (sender : String) session hSome => ih sender session
        ((@shrunk_readyFor aggregator envelope.sender receivedAtMs).session_eq hSome)
      rw [WireAggregator.step] at hSession
      rcases aggregator.ingestEnvelopeAt_cases envelope receivedAtMs with
        ⟨error, _, hEq⟩ | ⟨_, _, hEq⟩ | ⟨_, _, hEq⟩
      · rw [hEq] at hSession
        exact ih sender session hSession
      · rw [hEq] at hSession
        exact hReady sender session hSession
      · rcases Aggregator.record_cases envelope receivedAtMs with
          ⟨stored, after, hStored, _, _, hReceived, hRecord⟩ |
          ⟨after, total, _, _, hReceived, hRecord⟩
        · have := hReady envelope.sender stored hStored
          have := hReady sender session
          grind
        · have := hReady sender session
          grind
  | @rollback _ earlier _ other _ _ ih ihEarlier =>
    have hOld := ih sender session
    unfold rollbackAccepted agentSessionSnapshot at hSession
    cases hOther : earlier.agents[other]? with
    | none =>
      grind
    | some snapshot =>
      have := ihEarlier other snapshot hOther
      grind

section Rollback

variable {ready undone : Aggregator} {envelope : WireEnvelope} {receivedAtMs : Int}
  {session : AgentSession}
  (hReady : ready = aggregator.readyFor envelope.sender receivedAtMs)
  (hUndone : undone = Aggregator.rollbackAccepted { ready with
    agents := ready.agents.insert envelope.sender session
    totalAccepted := saturatingSucc ready.totalAccepted } envelope.sender
      aggregator.agents[envelope.sender]?)

include hReady hUndone

/-- **The envelope is accepted again**: it meets the session that it has met, and there is room. -/
theorem accepts_again
    (hValid : validateEnvelopeProtocolWithLimits envelope aggregator.limits = .ok ())
    (hRoom : ready.isFullFor envelope.sender = false)
    (hNew : ¬Repeats envelope ready.agents[envelope.sender]?) :
    (undone.ingestEnvelopeAt envelope receivedAtMs).2 = .ok (.accepted envelope.payload) := by
  have hShrunk := @shrunk_readyFor aggregator envelope.sender receivedAtMs
  have hMet := @readyFor_session aggregator envelope.sender receivedAtMs
  have hStale := (@readyFor_settings aggregator envelope.sender receivedAtMs).2
  rw [← hReady] at hShrunk hMet hStale
  have hBack : undone.agents[envelope.sender]? = aggregator.agents[envelope.sender]? := by
    rw [hUndone, rollbackAccepted_session]
  have hResets := @resets_congr aggregator envelope.sender receivedAtMs undone
    (by rw [hUndone]; exact hStale) hBack
  have hLimits : undone.limits = aggregator.limits := by
    rw [hUndone]
    exact hShrunk.limits
  by_cases hReset : aggregator.Resets envelope.sender receivedAtMs
  · -- the session that is put back is stale, and goes again
    obtain ⟨old, hOld⟩ : ∃ old, aggregator.agents[envelope.sender]? = some old :=
      Option.isSome_iff_exists.mp (Option.isSome_of_any hReset.2)
    rw [resetStale_of_resets hReset] at hMet
    have hGone : (undone.agents.erase envelope.sender)[envelope.sender]? = none :=
      TreeMap.getElem?_erase_self
    refine accepts (hLimits ▸ hValid) ?_ ?_
    · rw [resetStale_of_resets (hResets.mpr hReset), hUndone]
      unfold rollbackAccepted isFullFor at *
      grind
    · rw [resetStale_of_resets (hResets.mpr hReset), hGone]
      exact fun hRepeats => absurd hRepeats.1 (lt_irrefl 0)
  · rw [resetStale_of_not hReset] at hMet
    refine accepts (hLimits ▸ hValid) ?_ ?_
    · rw [resetStale_of_not (mt hResets.mp hReset)]
      cases hOld : aggregator.agents[envelope.sender]? with
      | some =>
        unfold isFullFor
        grind
      | none =>
        unfold rollbackAccepted isFullFor at *
        grind
    · rw [resetStale_of_not (mt hResets.mp hReset), hBack, ← hMet]
      exact hNew

/-- **When the total comes back.** -/
theorem total_restored_iff (hReceived : ∀ session,
      aggregator.agents[envelope.sender]? = some session → 0 < session.messagesReceived)
    (hTotal : aggregator.totalAccepted < RustText.u64Max)
    (hMessages : session.messagesReceived = saturatingSucc
      (messagesOf ready.agents[envelope.sender]?)) :
    undone.totalAccepted = aggregator.totalAccepted ↔
      aggregator.Undoable envelope.sender receivedAtMs := by
  have hMet := @readyFor_session aggregator envelope.sender receivedAtMs
  have hTotals := (@readyFor_settings aggregator envelope.sender receivedAtMs).1
  rw [← hReady] at hMet hTotals
  have hNow : (ready.agents.insert envelope.sender session)[envelope.sender]? = some session :=
    TreeMap.getElem?_insert_self
  have hSum : saturatingSucc aggregator.totalAccepted = aggregator.totalAccepted + 1 :=
    Nat.min_eq_right hTotal
  have hUndoneTotal : undone.totalAccepted = restoredTotal (aggregator.totalAccepted + 1)
      session.messagesReceived (messagesOf aggregator.agents[envelope.sender]?) := by
    rw [hUndone, ← hSum, ← hTotals]
    simp only [rollbackAccepted, hNow]
    rfl
  rw [hUndoneTotal]
  by_cases hReset : aggregator.Resets envelope.sender receivedAtMs
  · -- the new session has one message, and the old one had one at least
    obtain ⟨old, hOld⟩ : ∃ old, aggregator.agents[envelope.sender]? = some old :=
      Option.isSome_iff_exists.mp (Option.isSome_of_any hReset.2)
    have hOne : session.messagesReceived = 1 := by
      rw [hMessages, hMet, resetStale_of_resets hReset, TreeMap.getElem?_erase_self]
      rfl
    have hPositive : 0 < messagesOf aggregator.agents[envelope.sender]? := by
      rw [hOld]
      exact hReceived old hOld
    rw [restoredTotal_eq_iff hTotal (by omega)]
    exact iff_of_false (by omega) fun hUndoable => hUndoable.fresh hReset
  · rw [hMet, resetStale_of_not hReset, saturatingSucc] at hMessages
    rw [restoredTotal_eq_iff hTotal (by omega), hMessages]
    constructor
    · rintro ⟨hBelow, _⟩
      exact ⟨hBelow, hReset, by omega⟩
    · rintro ⟨hBelow, _, hCounter⟩
      exact ⟨hBelow, Nat.min_eq_right hCounter⟩

end Rollback

/-- **When a rollback restores.**  It puts the session back, and the envelope would be accepted again;
the total is what it was exactly if the envelope could be taken back. -/
theorem rollback_restores_iff (h : Reachable aggregator)
    (hTotal : aggregator.totalAccepted < RustText.u64Max) {envelope : WireEnvelope}
    {receivedAtMs : Int} {payload : WirePayload}
    (hAccepted : (aggregator.ingestEnvelopeAt envelope receivedAtMs).2 = .ok (.accepted payload)) :
    let previous := aggregator.agentSessionSnapshot envelope.sender
    let undone := (aggregator.ingestEnvelopeAt envelope receivedAtMs).1.rollbackAccepted
      envelope.sender previous
    undone.agentSessionSnapshot envelope.sender = previous ∧
      (undone.ingestEnvelopeAt envelope receivedAtMs).2 = .ok (.accepted envelope.payload) ∧
      (undone.totalAccepted = aggregator.totalAccepted ↔
        aggregator.Undoable envelope.sender receivedAtMs) := by
  intro previous undone
  obtain ⟨ready, session, hReady, hValid, hRoom, hNew, hMessages, hAfter⟩ := of_accepted hAccepted
  have hUndone : undone = Aggregator.rollbackAccepted { ready with
      agents := ready.agents.insert envelope.sender session
      totalAccepted := saturatingSucc ready.totalAccepted } envelope.sender previous := by
    rw [← hAfter]
  exact ⟨rollbackAccepted_session, accepts_again hReady hUndone hValid hRoom hNew,
    total_restored_iff hReady hUndone (h.received envelope.sender) hTotal hMessages⟩

/-- An envelope of the sender `a` with a short delta. -/
def deltaEnvelope (seq : Nat) : WireEnvelope :=
  { version := 1
    seq
    sender := "a"
    sentAtMs := 0
    payload := .paneDelta
      { paneId := 1, seq := 0, content := "x", contentLen := 1, capturedAtMs := 0 } }

/-- An aggregator that has accepted two envelopes, where sessions go stale after a second. -/
def twoAccepted : Aggregator :=
  run (.withLimitsAndStaleAfter 4 ⟨64⟩ 1000)
    [.ingest (deltaEnvelope 1) 0, .ingest (deltaEnvelope 2) 10]

/-- A third envelope that arrives in time is taken back. -/
theorem fresh_rollback_restores : Reachable twoAccepted ∧ let envelope := deltaEnvelope 3
    let previous := twoAccepted.agentSessionSnapshot envelope.sender
    let undone := (twoAccepted.ingestEnvelopeAt envelope 20).1.rollbackAccepted
      envelope.sender previous
    undone.agentSessionSnapshot envelope.sender = previous ∧
      (undone.ingestEnvelopeAt envelope 20).2 = .ok (.accepted envelope.payload) ∧
      undone.totalAccepted = 2 := by
  have hReachable : Reachable twoAccepted :=
    ((Reachable.start 4 ⟨64⟩ 1000).step (.ingest (deltaEnvelope 1) 0)).step
      (.ingest (deltaEnvelope 2) 10)
  have hTotal : twoAccepted.totalAccepted = 2 := by decide +kernel
  obtain ⟨hSession, hAgain, hIff⟩ := rollback_restores_iff hReachable (by decide +kernel)
    (show (twoAccepted.ingestEnvelopeAt (deltaEnvelope 3) 20).2 =
      .ok (.accepted (deltaEnvelope 3).payload) by decide +kernel)
  have hFresh : ¬twoAccepted.Resets "a" 20 := by
    unfold Aggregator.Resets
    decide +kernel
  exact ⟨hReachable, hSession, hAgain,
    (hIff.2 ⟨by decide +kernel, hFresh, by decide +kernel⟩).trans hTotal⟩

/-- Where it arrives after five seconds it is not: behind the rollback the aggregator says that it
has accepted four envelopes. -/
theorem stale_rollback_raises_total : Reachable twoAccepted ∧ twoAccepted.totalAccepted = 2 ∧
    (twoAccepted.ingestEnvelopeAt (deltaEnvelope 3) 5000).2 =
      .ok (.accepted (deltaEnvelope 3).payload) ∧
    ((twoAccepted.ingestEnvelopeAt (deltaEnvelope 3) 5000).1.rollbackAccepted "a"
      (twoAccepted.agentSessionSnapshot "a")).totalAccepted = 4 :=
  ⟨((Reachable.start 4 ⟨64⟩ 1000).step (.ingest (deltaEnvelope 1) 0)).step
      (.ingest (deltaEnvelope 2) 10),
    by decide +kernel, by decide +kernel, by decide +kernel⟩

end FrankenTerm.Ports.WireAggregator
