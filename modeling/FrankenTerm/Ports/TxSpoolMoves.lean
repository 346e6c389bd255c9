import FrankenTerm.Ports.TxLedgerInvariant
import FrankenTerm.Ports.TxSpool

/-!
# What the processes of the spool can do

The inversion of `TxSpool.step`: over a spool of sound ledgers every event is one of the
moves of `Moves`, with its guards and with the ledger it reads or replaces.  The
invariants of the shared system are proved from the moves and never unfold the step
function.

## Main results

* `WellFormed.readLedger` — reading a file gives the ledger that was stored, or fails.
* `WellFormed.replace_split` — replacing a file touches that file only.
* `step_moves` — every event is a move.
-/

namespace FrankenTerm.Ports.TxSpoolMoves

open Verified.Serde Verified.Check TxRecord TxLedger TxLedgerInvariant TxSpool List Option

variable {P : Platform}

/-! ## The spool -/

/-- The file names are distinct and every ledger is sound. -/
structure WellFormed (spool : Spool P) : Prop where
  distinct : (spool.map (·.executionId)).Nodup
  sound : ∀ ledger ∈ spool, Sound ledger

/-- Reading a file gives the ledger that was stored, or fails. -/
theorem WellFormed.readLedger {spool : Spool P} (h : WellFormed spool) {executionId : String}
    {ledger : TxExecutionLedger P} (hRead : spool.readLedger executionId = .ok ledger) :
    ledger ∈ spool ∧ ledger.executionId = executionId := by
  unfold Spool.readLedger at hRead
  cases hFind : spool.find? (fun ledger => ledger.executionId = executionId) with
  | none =>
    rw [hFind] at hRead
    cases hRead
  | some stored =>
    rw [hFind] at hRead
    dsimp only at hRead
    have hMem : stored ∈ spool := mem_of_find?_eq_some hFind
    have hId : stored.executionId = executionId := by
      simpa using find?_some hFind
    rcases P.text.reload_of_faithful (integral_ledger stored) (h.sound stored hMem).faithful with
      hSame | ⟨err, hErr⟩
    · rw [hSame] at hRead
      dsimp only at hRead
      split at hRead
      · cases hRead
      split at hRead
      · cases hRead
      cases hRead
      exact ⟨hMem, hId⟩
    · rw [hErr] at hRead
      cases hRead

/-- Replacing a file touches that file only. -/
theorem WellFormed.replace_split {spool : Spool P} (h : WellFormed spool)
    {ledger after : TxExecutionLedger P} (hMem : ledger ∈ spool)
    (hId : after.executionId = ledger.executionId) :
    ∃ front back, spool = front ++ ledger :: back ∧
      spool.replace after = front ++ after :: back := by
  rcases append_of_mem hMem with ⟨front, back, rfl⟩
  refine ⟨front, back, rfl, ?_⟩
  have hDistinct := h.distinct
  rw [map_append, map_cons, nodup_append, nodup_cons] at hDistinct
  have hKeep : ∀ other ∈ front ++ back,
      (if other.executionId = after.executionId then after else other) = other := by
    intro other hOther
    refine if_neg fun hEq => ?_
    rw [hId] at hEq
    rcases mem_append.mp hOther with hFront | hBack
    · exact hDistinct.2.2 _ (mem_map_of_mem hFront) ledger.executionId (by simp) hEq
    · exact hDistinct.2.1.1 (hEq ▸ mem_map_of_mem hBack)
  unfold Spool.replace
  rw [map_append, map_cons, if_pos hId.symm,
    map_congr_left fun other hOther => hKeep other (by simp [hOther]),
    map_congr_left fun other hOther => hKeep other (by simp [hOther])]
  simp

/-! ## What an event does -/

/-- A prepared snapshot: the locked ledger is stored with the same records. -/
def Prepared (spool : Spool P) (locks : List String) (snapshot : TxExecutionLedger P) : Prop :=
  Sound snapshot ∧ snapshot.executionId ∈ locks ∧
    ∃ ledger ∈ spool, ledger.executionId = snapshot.executionId ∧ ledger.records = snapshot.records

/-- The inversion of `step`. -/
inductive Moves (sys : System P) : Event P → System P → Prop where
  | spawn : Moves sys .spawn { sys with flows := sys.flows ++ [.idle] }
  | crash (p : Nat) (flow : Flow P) (hFlow : sys.flows[p]? = some flow) :
      Moves sys (.crash p) (sys.setFlow p .idle)
  | create (executionId planId : String) (planHash : Nat)
      (hId : isValidExecutionId executionId = true)
      (hNew : ∀ ledger ∈ sys.spool, ledger.executionId ≠ executionId) :
      Moves sys (.createLedger executionId planId planHash)
        { sys with spool := sys.spool ++ [TxExecutionLedger.new P executionId planId planHash] }
  | phase (next : TxPhase) (ledger after : TxExecutionLedger P) (hMem : ledger ∈ sys.spool)
      (hFree : sys.executionFree ledger.executionId = true)
      (hAdvance : Advance ledger (.transitionPhase next) after) :
      Moves sys (.transitionPhase ledger.executionId next)
        { sys with spool := sys.spool.replace after }
  | acquire (p : Nat) (key : IdempotencyKey P) (nowMs : Nat)
      (hFlow : sys.flows[p]? = some .idle) (hFree : sys.keyFree key.key = true) :
      Moves sys (.acquireKeyLease p key nowMs)
        (sys.setFlow p (.scanning key nowMs sys.spool.candidates [] 0))
  | scan (p : Nat) (key : IdempotencyKey P) (nowMs highWaterMs : Nat) (unread : List String)
      (seen : List DurableOutcomeObservation) (ledger : TxExecutionLedger P)
      (hMem : ledger ∈ sys.spool)
      (hFlow : sys.flows[p]? =
        some (.scanning key nowMs (ledger.executionId :: unread) seen highWaterMs)) :
      Moves sys (.scanNext p) (sys.setFlow p (.scanning key nowMs unread
        (seen ++ observationsIn key ledger) (max highWaterMs (ledgerHighWater ledger))))
  | refresh (p dedupTtlMs : Nat) (key : IdempotencyKey P) (nowMs highWaterMs : Nat)
      (seen : List DurableOutcomeObservation) (observed : Option StepOutcome)
      (hFlow : sys.flows[p]? = some (.scanning key nowMs [] seen highWaterMs))
      (hRefresh : refreshOutcome dedupTtlMs key seen highWaterMs nowMs = .ok observed) :
      Moves sys (.refresh p dedupTtlMs) (sys.setFlow p (.leased key observed))
  | bind (p : Nat) (executionId : String) (key : IdempotencyKey P)
      (observed : Option StepOutcome) (hFlow : sys.flows[p]? = some (.leased key observed))
      (hFree : sys.executionFree executionId = true) :
      Moves sys (.bindKeyLease p executionId)
        (sys.setFlow p (.reserved key ⟨key.key, executionId, observed, false⟩ false))
  | reserve (p : Nat) (risk : StepRisk) (agentId : String) (timestampMs : Nat)
      (key : IdempotencyKey P) (reservation : IdempotencyReservation) (dispatched : Bool)
      (ledger after : TxExecutionLedger P)
      (hFlow : sys.flows[p]? = some (.reserved key reservation dispatched))
      (hMem : ledger ∈ sys.spool) (hId : ledger.executionId = reservation.executionId)
      (hUnused : reservation.pendingRecorded = false)
      (hObserved : reservation.observedOutcome = none ∨
        retriesFailedCompensation key reservation.observedOutcome = true)
      (hAdvance : Advance ledger (.append key .pending risk agentId timestampMs) after) :
      Moves sys (.recordReserved p .pending risk agentId timestampMs)
        { sys.setFlow p (.reserved key { reservation with pendingRecorded := true }
            dispatched) with spool := sys.spool.replace after }
  | dispatch (p : Nat) (key : IdempotencyKey P) (reservation : IdempotencyReservation)
      (hFlow : sys.flows[p]? = some (.reserved key reservation false))
      (hRecorded : reservation.pendingRecorded = true) :
      Moves sys (.dispatch p)
        { sys.setFlow p (.reserved key reservation true) with effects := key :: sys.effects }
  | complete (p : Nat) (outcome : StepOutcome) (timestampMs : Nat) (key : IdempotencyKey P)
      (reservation : IdempotencyReservation) (dispatched : Bool)
      (ledger after : TxExecutionLedger P)
      (hFlow : sys.flows[p]? = some (.reserved key reservation dispatched))
      (hMem : ledger ∈ sys.spool) (hId : ledger.executionId = reservation.executionId)
      (hRecorded : reservation.pendingRecorded = true)
      (hAdvance : Advance ledger (.completePending key outcome timestampMs) after) :
      Moves sys (.completeReserved p outcome timestampMs)
        { sys.setFlow p .idle with
          spool := sys.spool.replace after
          failures := if outcome.isStickyReplayProof then sys.failures
            else key :: sys.failures }
  | recover (p : Nat) (outcome : StepOutcome) (risk : StepRisk) (agentId : String)
      (timestampMs : Nat) (key : IdempotencyKey P) (reservation : IdempotencyReservation)
      (dispatched : Bool) (ledger after : TxExecutionLedger P)
      (hFlow : sys.flows[p]? = some (.reserved key reservation dispatched))
      (hMem : ledger ∈ sys.spool) (hId : ledger.executionId = reservation.executionId)
      (hUnused : reservation.pendingRecorded = false)
      (hOutcome : isRecoverable outcome = true)
      (hObserved : reservation.observedOutcome = some outcome)
      (hAdvance : Advance ledger (.append key outcome risk agentId timestampMs) after) :
      Moves sys (.recordRecovered p outcome risk agentId timestampMs)
        { sys.setFlow p .idle with spool := sys.spool.replace after }
  | retire (event : Event P) (p : Nat) (flow : Flow P) (planId : String) (planHash : Nat)
      (locks : List String) (snapshots : List (TxExecutionLedger P))
      (hFlow : sys.flows[p]? = some flow)
      (hLocks : ∀ executionId ∈ locks, executionId ∈ flow.executionLocks ∨
        sys.executionFree executionId = true)
      (hPrepared : ∀ snapshot ∈ snapshots, Prepared sys.spool locks snapshot) :
      Moves sys event (sys.setFlow p (.retiring planId planHash locks snapshots))
  | publish (p : Nat) (planId : String) (planHash : Nat) (locks : List String)
      (snapshot : TxExecutionLedger P) (snapshots : List (TxExecutionLedger P))
      (hFlow : sys.flows[p]? = some (.retiring planId planHash locks (snapshot :: snapshots))) :
      Moves sys (.publishRetirement p)
        { sys.setFlow p (.retiring planId planHash locks snapshots) with
          spool := sys.spool.replace snapshot }

/-! ## Every event is a move -/

section Mutations

variable {spool : Spool P} (hWf : WellFormed spool) {reservation : IdempotencyReservation}
  {key : IdempotencyKey P}

include hWf

variable {after : TxExecutionLedger P} {timestampMs : Nat} {outcome : StepOutcome}

/-- What a successful `recordExecutionReserved` has checked and appended. -/
theorem recordExecutionReserved_ok {risk : StepRisk} {agentId : String}
    {used : IdempotencyReservation}
    (h : recordExecutionReserved spool reservation reservation.executionId key outcome risk agentId
      timestampMs = .ok (after, used)) :
    outcome = .pending ∧ used = { reservation with pendingRecorded := true } ∧
      reservation.pendingRecorded = false ∧
      (reservation.observedOutcome = none ∨
        retriesFailedCompensation key reservation.observedOutcome) ∧
      ∃ ledger ∈ spool, ledger.executionId = reservation.executionId ∧
        Advance ledger (.append key .pending risk agentId timestampMs) after := by
  rcases bind_eq_ok.mp h with ⟨_, _, h⟩
  rcases refuseIf_bind_eq_ok.mp h with ⟨hUnused, h⟩
  rcases refuseIf_bind_eq_ok.mp h with ⟨hObserved, h⟩
  rcases refuseIf_bind_eq_ok.mp h with ⟨hPending, h⟩
  rcases bind_eq_ok.mp h with ⟨ledger, hRead, h⟩
  have hStored := hWf.readLedger hRead
  have hOutcome := StepOutcome.isPending_iff.mp (Bool.not_eq_false _ ▸ hPending)
  subst hOutcome
  split at h
  · cases h
  · rename_i hash candidate hAppend
    cases h
    refine ⟨rfl, rfl, Bool.eq_false_iff.mpr hUnused, ?_, ledger, hStored.1, hStored.2,
      (hWf.sound ledger hStored.1).advance (by simp only [Call.run, hAppend]; rfl)⟩
    by_cases hNone : reservation.observedOutcome = none
    · exact .inl hNone
    · right
      by_contra hRetry
      exact hObserved ⟨hNone, Bool.eq_false_iff.mpr hRetry⟩

/-- What a successful `recordRecoveredExecutionReserved` has checked and appended. -/
theorem recordRecoveredExecutionReserved_ok {risk : StepRisk} {agentId : String}
    (h : recordRecoveredExecutionReserved spool reservation reservation.executionId key outcome
      risk agentId timestampMs = .ok after) :
    isRecoverable outcome ∧ reservation.pendingRecorded = false ∧
      reservation.observedOutcome = some outcome ∧
      ∃ ledger ∈ spool, ledger.executionId = reservation.executionId ∧
        Advance ledger (.append key outcome risk agentId timestampMs) after := by
  rcases refuseIf_bind_eq_ok.mp h with ⟨hOutcome, h⟩
  rcases bind_eq_ok.mp h with ⟨_, _, h⟩
  rcases refuseIf_bind_eq_ok.mp h with ⟨hUnused, h⟩
  rcases refuseIf_bind_eq_ok.mp h with ⟨hObserved, h⟩
  rcases bind_eq_ok.mp h with ⟨ledger, hRead, h⟩
  have hStored := hWf.readLedger hRead
  split at h
  · cases h
  · rename_i hash candidate hAppend
    cases h
    exact ⟨Bool.not_eq_false _ ▸ hOutcome, Bool.eq_false_iff.mpr hUnused, not_not.mp hObserved,
      ledger, hStored.1, hStored.2,
      (hWf.sound ledger hStored.1).advance (by simp only [Call.run, hAppend]; rfl)⟩

/-- What a successful `completeExecutionReserved` has checked and rewritten. -/
theorem completeExecutionReserved_ok
    (h : completeExecutionReserved spool reservation reservation.executionId key outcome
      timestampMs = .ok after) :
    reservation.pendingRecorded ∧
      ∃ ledger ∈ spool, ledger.executionId = reservation.executionId ∧
        Advance ledger (.completePending key outcome timestampMs) after := by
  rcases bind_eq_ok.mp h with ⟨_, _, h⟩
  rcases refuseIf_bind_eq_ok.mp h with ⟨hRecorded, h⟩
  rcases bind_eq_ok.mp h with ⟨ledger, hRead, h⟩
  have hStored := hWf.readLedger hRead
  split at h
  · cases h
  · rename_i hash candidate hComplete
    cases h
    exact ⟨Bool.not_eq_false _ ▸ hRecorded, ledger, hStored.1, hStored.2,
      (hWf.sound ledger hStored.1).advance (by simp only [Call.run, hComplete]; rfl)⟩

omit hWf in
theorem advance_transitionPhase_records {ledger : TxExecutionLedger P} {next : TxPhase}
    (h : Advance ledger (.transitionPhase next) after) :
    after.executionId = ledger.executionId ∧ after.records = ledger.records := by
  cases h <;> exact ⟨rfl, rfl⟩

/-- A snapshot prepared for retirement keeps the records of the ledger it was read from. -/
theorem prepared_snapshot {locks : List String} {executionId : String}
    {ledger snapshot : TxExecutionLedger P} (hLock : executionId ∈ locks)
    (hRead : spool.readLedger executionId = .ok ledger)
    (hSnapshot : retiredSnapshot ledger = some snapshot) : Prepared spool locks snapshot := by
  rcases hWf.readLedger hRead with ⟨hMem, rfl⟩
  have hSound := hWf.sound ledger hMem
  unfold retiredSnapshot at hSnapshot
  split at hSnapshot
  · cases hSnapshot
    exact ⟨hSound, hLock, ledger, hMem, rfl, rfl⟩
  · split at hSnapshot
    · rename_i phase candidate hAbort
      cases hSnapshot
      have hAdvance : Advance ledger (.transitionPhase .aborted) snapshot :=
        hSound.advance (by simp only [Call.run, hAbort]; rfl)
      have hSame := advance_transitionPhase_records hAdvance
      exact ⟨hAdvance.sound hSound, hSame.1 ▸ hLock, ledger, hMem, hSame.1.symm, hSame.2.symm⟩
    · cases hSnapshot

end Mutations

private theorem exists_of_mem_mapM {α β : Type} {f : α → Option β} {as : List α} {bs : List β}
    (h : as.mapM f = some bs) {b : β} (hb : b ∈ bs) : ∃ a ∈ as, f a = some b := by
  induction as generalizing bs with
  | nil =>
    cases h
    simp at hb
  | cons a _ ih =>
    simp only [mapM_cons, Option.bind_eq_bind, Option.bind_eq_some_iff,
      Option.pure_def, Option.some.injEq] at h
    rcases h with ⟨first, hFirst, rest, hRest, rfl⟩
    rcases mem_cons.mp hb with rfl | hMem
    · exact ⟨a, by simp, hFirst⟩
    · rcases ih hRest hMem with ⟨other, hOther, hEq⟩
      exact ⟨other, by simp [hOther], hEq⟩

section Steps

variable {sys sys' : System P} (hWf : WellFormed sys.spool) {p : Nat}

include hWf

variable {event : Event P}

private theorem leaseStep_moves {flow : Flow P} (hFlow : sys.flows[p]? = some flow)
    (hEvent : event.process? = some p) (h : leaseStep sys p flow event = some sys') :
    Moves sys event sys' := by
  cases event with
  | acquireKeyLease =>
    cases some.inj hEvent
    cases flow with
    | idle =>
      simp only [leaseStep] at h
      split at h
      · rename_i hFree
        cases h
        exact .acquire _ _ _ hFlow hFree
      · cases h
    | _ => cases h
  | scanNext =>
    cases some.inj hEvent
    cases flow with
    | scanning _ _ unread =>
      cases unread with
      | nil => cases h
      | cons =>
        simp only [leaseStep, bind_eq_bind, bind_eq_some_iff] at h
        rcases h with ⟨ledger, hRead, h⟩
        cases h
        rcases hWf.readLedger (toOption_eq_some.mp hRead) with ⟨hMem, rfl⟩
        exact .scan _ _ _ _ _ _ ledger hMem hFlow
    | _ => cases h
  | refresh =>
    cases some.inj hEvent
    cases flow with
    | scanning _ _ unread =>
      cases unread with
      | cons => cases h
      | nil =>
        simp only [leaseStep, bind_eq_bind, bind_eq_some_iff] at h
        rcases h with ⟨observed, hRefresh, h⟩
        cases h
        exact .refresh _ _ _ _ _ _ observed hFlow (toOption_eq_some.mp hRefresh)
    | _ => cases h
  | bindKeyLease =>
    cases some.inj hEvent
    cases flow with
    | leased =>
      simp only [leaseStep, bind_eq_bind, bind_eq_some_iff] at h
      rcases h with ⟨ledger, _, h⟩
      split at h
      · rename_i hFree
        cases h
        exact .bind _ _ _ _ hFlow (Bool.and_eq_true_iff.mp hFree).1
      · cases h
    | _ => cases h
  | _ => cases h

private theorem reservedStep_moves {key : IdempotencyKey P} {reservation : IdempotencyReservation}
    {dispatched : Bool} (hFlow : sys.flows[p]? = some (.reserved key reservation dispatched))
    (hEvent : event.process? = some p)
    (h : reservedStep sys p key reservation dispatched event = some sys') :
    Moves sys event sys' := by
  cases event with
  | recordReserved =>
    cases some.inj hEvent
    simp only [reservedStep, bind_eq_bind, bind_eq_some_iff] at h
    rcases h with ⟨⟨after, used⟩, hRecord, h⟩
    cases h
    rcases recordExecutionReserved_ok hWf (toOption_eq_some.mp hRecord) with
      ⟨rfl, rfl, hUnused, hObserved, ledger, hMem, hId, hAdvance⟩
    exact .reserve _ _ _ _ _ _ _ ledger after hFlow hMem hId hUnused hObserved hAdvance
  | dispatch =>
    cases some.inj hEvent
    simp only [reservedStep] at h
    split at h
    · rename_i hReady
      cases h
      simp only [Bool.and_eq_true, Bool.not_eq_true'] at hReady
      rw [hReady.2] at hFlow
      exact .dispatch _ _ _ hFlow hReady.1
    · cases h
  | completeReserved =>
    cases some.inj hEvent
    simp only [reservedStep, bind_eq_bind, bind_eq_some_iff] at h
    rcases h with ⟨after, hComplete, h⟩
    cases h
    rcases completeExecutionReserved_ok hWf (toOption_eq_some.mp hComplete) with
      ⟨hRecorded, ledger, hMem, hId, hAdvance⟩
    exact .complete _ _ _ _ _ _ ledger after hFlow hMem hId hRecorded hAdvance
  | recordRecovered =>
    cases some.inj hEvent
    simp only [reservedStep, bind_eq_bind, bind_eq_some_iff] at h
    rcases h with ⟨after, hRecover, h⟩
    cases h
    rcases recordRecoveredExecutionReserved_ok hWf (toOption_eq_some.mp hRecover) with
      ⟨hOutcome, hUnused, hObserved, ledger, hMem, hId, hAdvance⟩
    exact .recover _ _ _ _ _ _ _ _ ledger after hFlow hMem hId hUnused hOutcome hObserved hAdvance
  | _ => cases h

private theorem retireStep_moves {flow : Flow P} (hFlow : sys.flows[p]? = some flow)
    (hEvent : event.process? = some p) (h : retireStep sys p flow event = some sys') :
    Moves sys event sys' := by
  cases event with
  | retirePlan =>
    cases flow with
    | idle =>
      cases h
      exact .retire _ _ _ _ _ [] [] hFlow nofun nofun
    | _ => cases h
  | lockForRetirement =>
    cases flow with
    | retiring _ _ _ snapshots =>
      cases snapshots with
      | cons => cases h
      | nil =>
        simp only [retireStep, bind_eq_bind, bind_eq_some_iff] at h
        rcases h with ⟨ledger, _, h⟩
        split at h
        · rename_i hReady
          cases h
          simp only [Bool.and_eq_true] at hReady
          refine .retire _ _ _ _ _ _ [] hFlow (fun id hId => ?_) nofun
          rcases mem_append.mp hId with hOld | hNew
          · exact .inl hOld
          · exact .inr (mem_singleton.mp hNew ▸ hReady.1.1)
        · cases h
    | _ => cases h
  | prepareRetirement =>
    cases flow with
    | retiring _ _ locks snapshots =>
      cases snapshots with
      | cons => cases h
      | nil =>
        simp only [retireStep, bind_eq_bind, bind_eq_some_iff] at h
        rcases h with ⟨ledgers, hLedgers, snapshots, hSnapshots, h⟩
        cases h
        refine .retire _ _ _ _ _ locks snapshots hFlow
          (fun id hId => .inl hId) fun snapshot hMem => ?_
        rcases exists_of_mem_mapM hSnapshots hMem with ⟨ledger, hLedger, hSnapshot⟩
        rcases exists_of_mem_mapM hLedgers hLedger with ⟨executionId, hLock, hRead⟩
        exact prepared_snapshot hWf hLock (toOption_eq_some.mp hRead) hSnapshot
    | _ => cases h
  | publishRetirement =>
    cases some.inj hEvent
    cases flow with
    | retiring _ _ _ snapshots =>
      cases snapshots with
      | nil => cases h
      | cons =>
        cases h
        exact .publish _ _ _ _ _ _ hFlow
    | _ => cases h
  | _ => cases h

private theorem flowStep_moves (hEvent : event.process? = some p)
    (h : flowStep sys p event = some sys') : Moves sys event sys' := by
  unfold flowStep at h
  rw [bind_eq_bind, bind_eq_some_iff] at h
  rcases h with ⟨flow, hFlow, h⟩
  split at h
  · cases some.inj hEvent
    cases h
    exact .crash _ _ hFlow
  · exact reservedStep_moves hWf hFlow hEvent h
  · rcases or_eq_some_iff.mp h with hLease | ⟨_, hRetire⟩
    · exact leaseStep_moves hWf hFlow hEvent hLease
    · exact retireStep_moves hWf hFlow hEvent hRetire

/-- Every event of the shared system is a move. -/
theorem step_moves (h : step sys event = some sys') : Moves sys event sys' := by
  have hFlowStep : ∀ q, event.process? = some q →
      event.process?.bind (fun p => flowStep sys p event) = some sys' → Moves sys event sys' := by
    intro q hq hRun
    rw [hq] at hRun
    exact flowStep_moves hWf hq hRun
  cases event with
  | spawn =>
    cases h
    exact .spawn
  | createLedger =>
    simp only [step] at h
    split at h
    · rename_i hReady
      cases h
      simp only [Bool.and_eq_true, isNone_iff_eq_none, find?_eq_none, decide_eq_true_eq] at hReady
      exact .create _ _ _ hReady.1.1 hReady.2
    · cases h
  | transitionPhase _ next =>
    simp only [step, bind_eq_bind, bind_eq_some_iff] at h
    rcases h with ⟨ledger, hRead, h⟩
    rcases hWf.readLedger (toOption_eq_some.mp hRead) with ⟨hMem, rfl⟩
    split at h
    · rename_i hFree
      split at h
      · rename_i previous candidate hRun
        cases h
        exact .phase next ledger candidate hMem hFree
          ((hWf.sound ledger hMem).advance (by simp only [Call.run, hRun]; rfl))
      · cases h
    · cases h
  | _ => exact hFlowStep _ rfl h

end Steps

end FrankenTerm.Ports.TxSpoolMoves
