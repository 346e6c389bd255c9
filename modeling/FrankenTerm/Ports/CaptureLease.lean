import FrankenTerm.Verified.RustText

/-!
# One capture lease and its drain

A `CaptureLease` is an atomic state, two counters of the guards in flight and a notification.  The
module models it with the threads that work on it: every access to an atomic is one event, and a
run is any list of events, so that a statement about runs is one about every interleaving.  A loop
around a compare-and-exchange is the exchange that succeeds.

An acquisition looks at the state, counts itself in and looks again; one that finds the lease no
longer admitting counts itself out and fails.  Whoever lowers a counter from one reads the state and
both counters, and notifies the waiter if the lease is drained.

## Main results

* `Lease.Sound.step` — the counters count the shares, and a lease that is revoked has no live guard.
* `drained_lease_wakes_waiter` — a waiter that is parked on a drained lease is woken.
* `revoked_lease_unused` — a revoked lease is out of use for good.
-/

namespace FrankenTerm.Ports.CaptureAuthority

open FrankenTerm.Verified

/-- `CaptureSourceKind`. -/
inductive CaptureSourceKind where
  | polling
  | vendoredStreaming
  | nativePush
  deriving DecidableEq

/-- `CaptureGuardStage`. -/
inductive CaptureGuardStage where
  | producer
  | persistence
  deriving DecidableEq

/-- `CaptureStamp`. -/
structure CaptureStamp where
  globalPaneId : Nat
  paneIncarnation : Nat
  sourceKind : CaptureSourceKind
  sourceEpoch : Nat
  deriving DecidableEq

/-- The variants of `CaptureAuthorityError` that the modelled functions return. -/
inductive CaptureAuthorityError where
  | paneIncarnationExhausted
  | sourceEpochExhausted
  | paneAlreadyActive (globalPaneId : Nat)
  | revisionNotDesired (globalPaneId : Nat)
  | revisionRequired (globalPaneId : Nat)
  | staleDesiredView (installedEpoch requestedEpoch : Nat)
  | paneNotActive (globalPaneId : Nat)
  | stalePaneIncarnation (globalPaneId : Nat)
  | sourceAlreadyActive (sourceKind : CaptureSourceKind)
  | sourceNotActive (sourceKind : CaptureSourceKind)
  | staleSourceEpoch (sourceKind : CaptureSourceKind)
  | transitionInProgress
  | stampMismatch
  | paneIdMismatch
  | leaseNotAdmitting (stage : CaptureGuardStage)
  | authorityChanged
  deriving DecidableEq

/-- The values of the atomic `state` of a lease. -/
inductive LeaseState where
  | admitting
  | draining
  | revoked
  deriving DecidableEq

/-- What is left of `release_inflight` after a counter went from one to zero. -/
inductive Closing where
  | loadState
  | loadProducer
  | loadPersistence
  | notify

/-- Where a thread stands that works on a lease. -/
inductive Activity where
  /-- It found the lease admitting and will count itself in. -/
  | checked (stage : CaptureGuardStage)
  /-- It counted itself in and will look at the state again. -/
  | counted (stage : CaptureGuardStage)
  | guard (stage : CaptureGuardStage)
  /-- A `CapturePersistenceHold`. -/
  | hold
  /-- It found the lease not admitting and will count itself out. -/
  | refused (stage : CaptureGuardStage)
  | closing (rest : Closing)
  | gone

namespace Activity

/-- The counter of the stage counts the thread. -/
def counts (stage : CaptureGuardStage) : Activity → Bool
  | counted own | guard own | refused own => own = stage
  | hold => stage = .persistence
  | checked _ | closing _ | gone => false

/-- The thread has a guard of the stage, or a hold, that was granted and is not released. -/
def holds (stage : CaptureGuardStage) : Activity → Bool
  | guard own => own = stage
  | hold => stage = .persistence
  | checked _ | counted _ | refused _ | closing _ | gone => false

def closes : Activity → Bool
  | closing _ => true
  | checked _ | counted _ | guard _ | hold | refused _ | gone => false

end Activity

open Activity (counts holds closes)

/-- Where `wait_until_drained` stands; the flag `drain_waiter_active` is up unless it is `idle`. -/
inductive Waiter where
  | idle
  | loadProducer
  | loadPersistence
  /-- Before `notified` is polled. -/
  | polling
  | parked
  | woken
  /-- `finish` loads the state, exchanges it, and the waiter is dropped. -/
  | finishing
  | exchanging
  | leaving
  deriving DecidableEq

/-- `CaptureLeaseInner`, with the permit of its `Notify` and the threads at work on it. -/
structure Lease where
  stamp : CaptureStamp
  state : LeaseState := .admitting
  producerInflight : Nat := 0
  persistenceInflight : Nat := 0
  permit : Bool := false
  waiter : Waiter := .idle
  activities : List Activity := []

inductive LeaseEvent where
  | acquire (stamp : CaptureStamp) (capturedGlobalPaneId : Nat) (stage : CaptureGuardStage)
  | increment (thread : Nat)
  | recheck (thread : Nat)
  | delegateStorage (thread : Nat)
  | decrement (thread : Nat)
  | close (thread : Nat)
  | revokeAdmission
  | claimWaiter
  | waiter
  | cancelWaiter (handsOn : Bool)

namespace Lease

variable (lease : Lease)

def counter : CaptureGuardStage → Nat
  | .producer => lease.producerInflight
  | .persistence => lease.persistenceInflight

def setCounter (count : Nat) : CaptureGuardStage → Lease
  | .producer => { lease with producerInflight := count }
  | .persistence => { lease with persistenceInflight := count }

def move (thread : Nat) (activity : Activity) : Lease :=
  { lease with activities := lease.activities.set thread activity }

/-- `try_acquire_with_hook`, up to its first load of the state. -/
def tryAcquire (stamp : CaptureStamp) (capturedGlobalPaneId : Nat) (stage : CaptureGuardStage) :
    Except CaptureAuthorityError Lease :=
  if stamp ≠ lease.stamp then .error .stampMismatch
  else if capturedGlobalPaneId ≠ stamp.globalPaneId then .error .paneIdMismatch
  else if lease.state ≠ .admitting then .error (.leaseNotAdmitting stage)
  else .ok { lease with activities := lease.activities ++ [.checked stage] }

/-- `try_increment_inflight`; `none` is `InflightCounterExhausted`. -/
def tryIncrementInflight (stage : CaptureGuardStage) : Option Lease :=
  if lease.counter stage < RustText.u64Max then
    some (lease.setCounter (lease.counter stage + 1) stage)
  else none

/-- `release_inflight`, up to its decrement.  At zero the source panics (`Sound.counted` excludes it). -/
def releaseInflight (thread : Nat) (stage : CaptureGuardStage) : Lease :=
  if lease.counter stage = 0 then lease
  else (lease.setCounter (lease.counter stage - 1) stage).move thread
    (if lease.counter stage = 1 then .closing .loadState else .gone)

/-- `notify_one`. -/
def notifyOne : Lease :=
  if lease.waiter = .parked then { lease with waiter := .woken } else { lease with permit := true }

/-- The next access of `release_inflight` behind its decrement. -/
def close (thread : Nat) : Closing → Lease
  | .loadState =>
    lease.move thread (if lease.state = .admitting then .gone else .closing .loadProducer)
  | .loadProducer =>
    lease.move thread (if lease.producerInflight = 0 then .closing .loadPersistence else .gone)
  | .loadPersistence =>
    lease.move thread (if lease.persistenceInflight = 0 then .closing .notify else .gone)
  | .notify => lease.notifyOne.move thread .gone

/-- `revoke_admission`. -/
def revokeAdmission : Lease :=
  if lease.state = .admitting then { lease with state := .draining } else lease

/-- `is_drained`, read in one critical section. -/
def isDrained : Bool := lease.producerInflight == 0 && lease.persistenceInflight == 0

/-- The exchange of `finish`. -/
def finish : Lease := if lease.state = .draining then { lease with state := .revoked } else lease

/-- The next access of `wait_until_drained`. -/
def wait : Lease :=
  match lease.waiter with
  | .idle | .parked => lease
  | .loadProducer =>
    { lease with waiter := if lease.producerInflight = 0 then .loadPersistence else .polling }
  | .loadPersistence =>
    { lease with waiter := if lease.persistenceInflight = 0 then .finishing else .polling }
  | .polling =>
    if lease.permit then { lease with permit := false, waiter := .loadProducer }
    else { lease with waiter := .parked }
  | .woken => { lease with waiter := .loadProducer }
  | .finishing =>
    { lease with waiter := if lease.state = .revoked then .leaving else .exchanging }
  | .exchanging => { lease.finish with waiter := .leaving }
  | .leaving => { lease with waiter := .idle }

/-- One access to the lease.  A revocation handle, and with it a waiter, exists only behind a
`revoke_admission`; a thread that is elsewhere leaves the lease as it is. -/
def step : LeaseEvent → Lease
  | .acquire stamp capturedGlobalPaneId stage =>
    (lease.tryAcquire stamp capturedGlobalPaneId stage).toOption.getD lease
  | .increment thread =>
    match lease.activities[thread]? with
    | some (.checked stage) =>
      match lease.tryIncrementInflight stage with
      | some counted => counted.move thread (.counted stage)
      | none => lease.move thread .gone
    | _ => lease
  | .recheck thread =>
    match lease.activities[thread]? with
    | some (.counted stage) =>
      lease.move thread (if lease.state = .admitting then .guard stage else .refused stage)
    | _ => lease
  | .delegateStorage thread =>
    match lease.activities[thread]? with
    | some (.guard .persistence) =>
      match lease.tryIncrementInflight .persistence with
      | some counted => { counted with activities := counted.activities ++ [.hold] }
      | none => lease
    | _ => lease
  | .decrement thread =>
    match lease.activities[thread]? with
    | some (.guard stage) | some (.refused stage) => lease.releaseInflight thread stage
    | some .hold => lease.releaseInflight thread .persistence
    | _ => lease
  | .close thread =>
    match lease.activities[thread]? with
    | some (.closing rest) => lease.close thread rest
    | _ => lease
  | .revokeAdmission => lease.revokeAdmission
  | .claimWaiter =>
    if lease.state ≠ .admitting ∧ lease.waiter = .idle then
      { lease with waiter := .loadProducer }
    else lease
  | .waiter => lease.wait
  | .cancelWaiter handsOn =>
    match lease.waiter with
    | .parked => { lease with waiter := .idle }
    | .woken => { lease with waiter := .idle, permit := lease.permit || handsOn }
    | _ => lease

/-- What holds of a lease between any two accesses to it. -/
structure Sound : Prop where
  producers : lease.producerInflight = lease.activities.countP (counts .producer)
  persisters : lease.persistenceInflight = lease.activities.countP (counts .persistence)
  closed : lease.waiter ≠ .idle → lease.state ≠ .admitting
  produced : lease.waiter = .loadPersistence → lease.activities.countP (holds .producer) = 0
  drained : lease.waiter = .finishing ∨ lease.waiter = .exchanging ∨ lease.state = .revoked →
    lease.activities.countP (holds .producer) = 0 ∧ lease.activities.countP (holds .persistence) = 0
  announced : lease.waiter = .polling ∨ lease.waiter = .parked → lease.isDrained →
    (lease.permit ∧ lease.waiter = .polling) ∨ 0 < lease.activities.countP closes

end Lease

/-- A thread that goes on is counted as what it has become. -/
theorem countP_set {activities : List Activity} {thread : Nat} {old : Activity}
    (hThread : activities[thread]? = some old) (p : Activity → Bool) (new : Activity) :
    (activities.set thread new).countP p + (p old).toNat = activities.countP p + (p new).toNat := by
  obtain ⟨hLength, rfl⟩ := List.getElem?_eq_some_iff.mp hThread
  have hOld : (p activities[thread]).toNat ≤ activities.countP p := by
    cases hp : p activities[thread] with
    | false => exact Nat.zero_le _
    | true => exact List.countP_pos_iff.mpr ⟨_, List.getElem_mem hLength, hp⟩
  rw [List.countP_set hLength]
  grind [Bool.toNat]

theorem holds_le_counts (stage : CaptureGuardStage) (activities : List Activity) :
    activities.countP (holds stage) ≤ activities.countP (counts stage) :=
  List.countP_mono_left fun activity _ h => by cases activity <;> simp_all [holds, counts]

open Lease

namespace Lease

variable {lease : Lease}

/-- A thread that `old` counts lowers the counter of its stage, and closes if it was the last. -/
theorem Sound.releaseInflight (hSound : lease.Sound) {thread : Nat} {old : Activity}
    (hThread : lease.activities[thread]? = some old) {stage : CaptureGuardStage}
    (hCounts : ∀ other, counts other old = decide (stage = other)) (hCloses : closes old = false) :
    (lease.releaseInflight thread stage).Sound := by
  have hSet := countP_set hThread
  obtain ⟨_, _⟩ := hSound
  cases stage <;> simp only [Lease.releaseInflight, setCounter, counter, move] <;>
    split_ifs <;> constructor <;> grind -linarith [counts, holds, closes, isDrained]

theorem Sound.step (hSound : lease.Sound) (event : LeaseEvent) : (lease.step event).Sound := by
  have hHolds := fun stage => holds_le_counts stage lease.activities
  have ⟨hProducer, hPersistence, hClosed, hProduced, hDrained, hAnnounced⟩ := hSound
  cases event with
  | acquire =>
    simp only [Lease.step, tryAcquire]
    split_ifs <;> simp only [Except.toOption, Option.getD] <;>
      first | exact hSound | constructor <;> grind -linarith [counts, holds, closes, isDrained]
  | increment =>
    simp only [Lease.step]
    split
    · rename_i stage hThread
      have hSet := countP_set hThread
      cases stage <;> simp only [tryIncrementInflight, setCounter, counter, move] <;>
        split <;> constructor <;> grind -linarith [counts, holds, closes, isDrained]
    · exact hSound
  | recheck =>
    simp only [Lease.step, move]
    split
    · rename_i stage hThread
      have hSet := countP_set hThread
      split <;> constructor <;> grind -linarith [counts, holds, closes, isDrained]
    · exact hSound
  | delegateStorage =>
    simp only [Lease.step]
    split
    · rename_i hThread
      have hGuard := List.countP_pos_iff.mpr
        ⟨_, List.mem_of_getElem? hThread, show holds .persistence _ by decide⟩
      simp only [tryIncrementInflight, setCounter, counter]
      split <;> constructor <;> grind -linarith [counts, holds, closes, isDrained]
    · exact hSound
  | decrement =>
    simp only [Lease.step]
    split
    · exact hSound.releaseInflight ‹_› (fun _ => rfl) rfl
    · exact hSound.releaseInflight ‹_› (fun _ => rfl) rfl
    · exact hSound.releaseInflight ‹_› (by rintro (_ | _) <;> rfl) rfl
    · exact hSound
  | close =>
    simp only [Lease.step]
    split
    · rename_i rest hThread
      have hSet := countP_set hThread
      cases rest <;> simp only [close, notifyOne, move] <;>
        split_ifs <;> constructor <;> grind -linarith [counts, holds, closes, isDrained]
    · exact hSound
  | revokeAdmission =>
    simp only [Lease.step, revokeAdmission]
    split
    · constructor <;> grind -linarith [isDrained]
    · exact hSound
  | claimWaiter =>
    simp only [Lease.step]
    split
    · constructor <;> grind -linarith
    · exact hSound
  | waiter =>
    simp only [Lease.step, wait, finish]
    (repeat' split) <;> constructor <;> grind -linarith [isDrained]
  | cancelWaiter =>
    simp only [Lease.step]
    split <;> constructor <;> grind -linarith

theorem sound_foldl (stamp : CaptureStamp) (events : List LeaseEvent) :
    (events.foldl step { stamp }).Sound :=
  List.foldlRecOn (motive := Sound) events step (by constructor <;> simp) fun _ h event _ => h.step event

end Lease

theorem drained_lease_wakes_waiter (stamp : CaptureStamp) (events : List LeaseEvent) :
    let lease := events.foldl Lease.step { stamp }
    lease.waiter = .parked ∨ lease.waiter = .woken → lease.state ≠ .admitting → lease.isDrained →
      lease.waiter = .woken ∨
        (∃ (thread : Nat) (rest : Closing), lease.activities[thread]? = some (.closing rest)) ∧
        ∀ (thread : Nat) (rest : Closing), lease.activities[thread]? = some (.closing rest) →
          ∃ steps ≤ 4,
            ((List.replicate steps (.close thread)).foldl Lease.step lease).waiter = .woken := by
  intro lease hWaiter hState hDrained
  refine hWaiter.symm.imp_right fun hParked => ⟨?_, fun thread rest hThread => ?_⟩
  · have hSound := sound_foldl stamp events
    obtain ⟨-, hPolling⟩ | hPos := hSound.announced (.inr hParked) hDrained
    · cases hPolling.symm.trans hParked
    · obtain ⟨activity, hMem, hCloses⟩ := List.countP_pos_iff.mp hPos
      obtain ⟨thread, hThread⟩ := List.getElem?_of_mem hMem
      cases activity with
      | closing rest => exact ⟨thread, rest, hThread⟩
      | _ => cases hCloses
  · -- A thread that closes a drained lease wakes the waiter that is parked on it.
    obtain ⟨hLength, hGet⟩ := List.getElem?_eq_some_iff.mp hThread
    have hCounters : lease.producerInflight = 0 ∧ lease.persistenceInflight = 0 := by
      simpa [isDrained] using hDrained
    refine ⟨match rest with
      | .loadState => 4
      | .loadProducer => 3
      | .loadPersistence => 2
      | .notify => 1, ?_⟩
    cases rest <;> simp [List.replicate, Lease.step, close, move, notifyOne, hLength,
      hGet, hState, hCounters, hParked]

/-- A producer is admitted, the lease is revoked, its waiter parks, and the producer counts itself
out. -/
def lastProducerLeaves (stamp : CaptureStamp) : List LeaseEvent :=
  [.acquire stamp stamp.globalPaneId .producer, .increment 0, .recheck 0, .revokeAdmission,
    .claimWaiter, .waiter, .waiter, .decrement 0]

theorem parked_waiter_is_woken :
    let stamp : CaptureStamp := ⟨7, 1, .polling, 1⟩
    let lease := (lastProducerLeaves stamp).foldl Lease.step { stamp }
    lease.waiter = .parked ∧
      ∃ (thread : Nat) (rest : Closing), lease.activities[thread]? = some (.closing rest) :=
  ⟨rfl, ((drained_lease_wakes_waiter _ (lastProducerLeaves _) (.inl rfl) (by decide) rfl).resolve_left
    (by decide)).1⟩

theorem Lease.step_revoked {lease : Lease} (h : lease.state = .revoked) (event : LeaseEvent) :
    (lease.step event).state = .revoked := by
  cases event <;> simp only [Lease.step, tryAcquire, tryIncrementInflight, releaseInflight,
    Lease.close, Lease.revokeAdmission, notifyOne, move, setCounter, wait, finish]
  all_goals grind [Except.toOption, setCounter]

/-- **A revoked lease is out of use**: no guard or hold of it is live, now or ever after. -/
theorem revoked_lease_unused (stamp : CaptureStamp) (events later : List LeaseEvent)
    (h : (events.foldl Lease.step { stamp }).state = .revoked) :
    ∀ activity ∈ ((events ++ later).foldl Lease.step { stamp }).activities, ∀ stage,
      ¬holds stage activity := by
  have hRevoked : ((events ++ later).foldl Lease.step { stamp }).state = .revoked := by
    rw [List.foldl_append]
    exact List.foldlRecOn later Lease.step (motive := fun lease => lease.state = .revoked) h
      fun _ h event _ => step_revoked h event
  have hNone := (sound_foldl stamp (events ++ later)).drained (.inr (.inr hRevoked))
  simp only [List.countP_eq_zero] at hNone
  rintro activity hMem (_ | _)
  · exact hNone.1 activity hMem
  · exact hNone.2 activity hMem

/-- A producer found the lease admitting before it was revoked, and counts itself in too late. -/
theorem revoked_lease_unused_late :
    let stamp : CaptureStamp := ⟨7, 1, .polling, 1⟩
    let events : List LeaseEvent := [.acquire stamp 7 .producer, .revokeAdmission, .claimWaiter,
      .waiter, .waiter, .waiter, .waiter]
    let later : List LeaseEvent := [.increment 0, .recheck 0]
    ∀ activity ∈ ((events ++ later).foldl Lease.step { stamp }).activities, ∀ stage,
      ¬holds stage activity :=
  revoked_lease_unused _ _ _ (by decide)

end FrankenTerm.Ports.CaptureAuthority
