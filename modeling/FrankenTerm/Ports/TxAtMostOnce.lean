import FrankenTerm.Verified.Locks
import FrankenTerm.Verified.Loop
import FrankenTerm.Ports.TxSpoolMoves

/-!
# At-most-once dispatch over the durable spool

The sticky records of a key, over all ledgers of the spool, are its *facts*: `Pending`,
`Success` and `Compensated` never age out.  In every reachable state the facts of a key
are one `Pending`, or they all agree on one settled outcome.  A process may write a new
`Pending` record only under the key lease and only when its scan of the spool showed no
fact; the scan is not atomic, but nobody else can touch the key while it runs.

A fact disappears in one way only: the reservation that wrote `Pending` completes it as
`Failed`.  After that the failure may age out and the key may be reserved again, so the
number of dispatched effects of a key is at most one more than the number of its failed
completions.

## Main results

* `selectAuthoritativeDurableOutcome_ok` — agreeing facts are never a conflict.
* `Inv`, `reach_inv` — the invariant of the shared system.
* `pending_written_once` — at-most-once dispatch, in every reachable state.
* `pending_written_again` — the key of a failed completion is written again.
* `effect_behind_pending` — an effect is sent behind its record only.
-/

namespace FrankenTerm.Ports.TxAtMostOnce

open Verified.Serde Verified.HashChain Verified.Locks Verified.Loop
open TxRecord TxLedger TxLedgerInvariant TxSpool TxSpoolMoves List

variable {P : Platform}

/-! ## Facts -/

/-- The key and the outcome of a record. -/
def entry (record : StepExecutionRecord P) : IdempotencyKey P × StepOutcome :=
  (record.idemKey, record.outcome)

/-- The sticky outcomes of a key among some entries. -/
def stickyOf (key : IdempotencyKey P) (entries : List (IdempotencyKey P × StepOutcome)) :
    List StepOutcome :=
  (entries.filter fun e => e.1 = key && e.2.isStickyReplayProof).map (·.2)

/-- The facts of one ledger about a key. -/
def ledgerFacts (key : IdempotencyKey P) (ledger : TxExecutionLedger P) : List StepOutcome :=
  stickyOf key (ledger.records.map entry)

/-- The facts of the spool about a key. -/
def facts (key : IdempotencyKey P) (spool : Spool P) : List StepOutcome :=
  spool.flatMap (ledgerFacts key)

/-- One reservation is pending, or every fact is the same settled outcome. -/
def Agreed (outcomes : List StepOutcome) : Prop :=
  outcomes = [.pending] ∨ ∃ settled, settled ≠ .pending ∧ ∀ outcome ∈ outcomes, outcome = settled

@[simp] theorem stickyOf_append (key : IdempotencyKey P)
    (front back : List (IdempotencyKey P × StepOutcome)) :
    stickyOf key (front ++ back) = stickyOf key front ++ stickyOf key back := by
  simp [stickyOf]

variable {key : IdempotencyKey P} {sys : System P} {spool : Spool P}
  {ledger : TxExecutionLedger P} {sys' : System P} {after : TxExecutionLedger P} {event : Event P}
  {events : List (Event P)}

theorem stickyOf_singleton_of_ne {e : IdempotencyKey P × StepOutcome} (h : e.1 ≠ key) :
    stickyOf key [e] = [] := by
  simp [stickyOf, h]

theorem stickyOf_singleton (key : IdempotencyKey P) (outcome : StepOutcome) :
    stickyOf key [(key, outcome)] = if outcome.isStickyReplayProof then [outcome] else [] := by
  cases h : outcome.isStickyReplayProof <;> simp [stickyOf, h]

variable {p highWaterMs nowMs : Nat} {outcome : StepOutcome} {executionId : String}
  {flow new : Flow P} {seen : List DurableOutcomeObservation}

theorem mem_stickyOf {entries : List (IdempotencyKey P × StepOutcome)} :
    outcome ∈ stickyOf key entries ↔
      (key, outcome) ∈ entries ∧ outcome.isStickyReplayProof := by
  constructor
  · intro h
    rcases mem_map.mp h with ⟨⟨other, found⟩, hEntry, rfl⟩
    rw [mem_filter] at hEntry
    simp only [Bool.and_eq_true, decide_eq_true_eq] at hEntry
    exact ⟨hEntry.2.1 ▸ hEntry.1, hEntry.2.2⟩
  · intro h
    exact mem_map.mpr ⟨(key, outcome), mem_filter.mpr ⟨h.1, by simp [h.2]⟩, rfl⟩

theorem mem_facts :
    outcome ∈ facts key spool ↔ ∃ ledger ∈ spool, outcome ∈ ledgerFacts key ledger := by
  simp [facts]

theorem sticky_of_mem_facts (h : outcome ∈ facts key spool) :
    outcome.isStickyReplayProof := by
  rcases mem_facts.mp h with ⟨ledger, _, hMem⟩
  exact (mem_stickyOf.mp hMem).2

variable {outcomes : List StepOutcome} {q ordinal timestampMs dedupTtlMs : Nat} {old other : Flow P}
  {unread : List String} {record : StepExecutionRecord P} {observed : Option StepOutcome}

theorem Agreed.eq (h : Agreed outcomes) {a b : StepOutcome} (ha : a ∈ outcomes) (hb : b ∈ outcomes) :
    a = b := by
  rcases h with rfl | ⟨settled, _, hAll⟩
  · rw [mem_singleton.mp ha, mem_singleton.mp hb]
  · rw [hAll a ha, hAll b hb]

theorem Agreed.eq_singleton (h : Agreed outcomes) (hPending : .pending ∈ outcomes) :
    outcomes = [.pending] := by
  rcases h with hOne | ⟨settled, hSettled, hAll⟩
  · exact hOne
  · exact absurd (hAll _ hPending).symm hSettled

theorem agreed_nil : Agreed [] := .inr ⟨.success none, nofun, nofun⟩

/-! ### How the ledger operations change the facts -/

/-- The entries of a ledger around the record that a completion rewrites. -/
theorem entries_rewrite {index : Nat} (hRecord : ledger.records[index]? = some record)
    (outcome : StepOutcome) (timestampMs : Nat) :
    ∃ front back, ledger.records.map entry = front ++ [entry record] ++ back ∧
      (ledger.rewrite index record outcome timestampMs).records.map entry =
        front ++ [(record.idemKey, outcome)] ++ back := by
  have hLt : index < ledger.records.length := (List.getElem?_eq_some_iff.mp hRecord).1
  have hAt : ledger.records[index] = record := (List.getElem?_eq_some_iff.mp hRecord).2
  refine ⟨(ledger.records.take index).map entry, (ledger.records.drop (index + 1)).map entry,
    ?_, ?_⟩
  · rw [← List.map_singleton, ← List.map_append, ← List.map_append, ← hAt,
      take_append_getElem, take_append_drop]
  · show (TxExecutionLedger.rehashFrom index (ledger.records.set index _)).map entry = _
    rw [map_rehashFrom entry (fun _ _ => rfl), set_eq_take_append_cons_drop, if_pos hLt,
      map_append, map_cons, append_assoc]
    rfl

/-! ## Selecting the authoritative outcome -/

private theorem foldlM_stickyStep (key : IdempotencyKey P) (outcome : StepOutcome)
    (observations : List DurableOutcomeObservation)
    (hSame : ∀ o ∈ observations, o.outcome = outcome) (first : DurableOutcomeObservation)
    (hFirst : first.outcome = outcome) :
    ∃ last, observations.foldlM (stickyStep key) (some first) = .ok (some last) ∧
      last.outcome = outcome := by
  induction observations generalizing first with
  | nil => exact ⟨first, rfl, hFirst⟩
  | cons o _ ih =>
    have hHead : o.outcome = outcome := hSame o (by simp)
    have hStep : stickyStep key (some first) o = .ok (some o) := by
      simp [stickyStep, hFirst, hHead]
    rw [foldlM_cons, hStep]
    exact ih (fun next hNext => hSame next (by simp [hNext])) o hHead

section Agree

variable (key : IdempotencyKey P) (observations : List DurableOutcomeObservation)
  (hAgree : ∀ a ∈ observations, ∀ b ∈ observations, a.outcome.isStickyReplayProof →
    b.outcome.isStickyReplayProof → a.outcome = b.outcome)
include hAgree

/-- Sticky observations that agree are never a conflict, and the selected observation
has their outcome. -/
theorem selectAuthoritativeDurableOutcome_ok :
    ∃ selected, selectAuthoritativeDurableOutcome key observations = .ok selected ∧
      ∀ o ∈ observations, o.outcome.isStickyReplayProof →
        ∃ found, selected = some found ∧ found.outcome = o.outcome := by
  unfold selectAuthoritativeDurableOutcome
  dsimp only
  generalize hSorted : observations.insertionSort DurableOutcomeObservation.Before = sorted
  have hMem : ∀ o, o ∈ sorted ↔ o ∈ observations := fun o => hSorted ▸ mem_insertionSort _
  cases hSticky : sorted.filter fun o => o.outcome.isStickyReplayProof with
  | nil =>
    refine ⟨none.or sorted.getLast?, rfl, fun o ho hTrue => ?_⟩
    have hNone := filter_eq_nil_iff.mp hSticky o ((hMem o).mpr ho)
    exact absurd hTrue hNone
  | cons first rest =>
    -- every sticky observation has the outcome of the first one
    have hIn : ∀ o ∈ first :: rest, o ∈ observations ∧ o.outcome.isStickyReplayProof := by
      intro o ho
      rw [← hSticky, mem_filter] at ho
      exact ⟨(hMem o).mp ho.1, ho.2⟩
    have hFirst := hIn first (by simp)
    have hSame : ∀ o ∈ rest, o.outcome = first.outcome := fun o ho =>
      hAgree o (hIn o (by simp [ho])).1 first hFirst.1 (hIn o (by simp [ho])).2 hFirst.2
    rcases foldlM_stickyStep key first.outcome rest hSame first rfl with ⟨last, hRun, hLast⟩
    refine ⟨some last, ?_, fun o ho hTrue => ⟨last, rfl, ?_⟩⟩
    · show (rest.foldlM (stickyStep key) (some first) >>= fun _ => _) = _
      rw [hRun]
      rfl
    · rw [hLast]
      exact hAgree first hFirst.1 o ho hFirst.2 hTrue

/-- A lease holder is told every sticky observation. -/
theorem refreshOutcome_eq
    (hRefresh : refreshOutcome dedupTtlMs key observations highWaterMs nowMs = .ok observed)
    {o : DurableOutcomeObservation} (ho : o ∈ observations)
    (hSticky : o.outcome.isStickyReplayProof) : observed = some o.outcome := by
  rcases selectAuthoritativeDurableOutcome_ok key observations hAgree with
    ⟨selected, hSelect, hFound⟩
  rcases hFound o ho hSticky with ⟨found, rfl, hOutcome⟩
  unfold refreshOutcome at hRefresh
  rw [hSelect] at hRefresh
  split at hRefresh
  · cases hRefresh
  dsimp only at hRefresh
  have hFresh : isFreshForDedup dedupTtlMs found.outcome found.timestampMs nowMs := by
    rw [isFreshForDedup, hOutcome, hSticky, Bool.true_or]
  rw [if_pos hFresh, hOutcome] at hRefresh
  exact (Except.ok.inj hRefresh).symm

end Agree

theorem facts_split (key : IdempotencyKey P) (front back : Spool P) (ledger : TxExecutionLedger P) :
    facts key (front ++ ledger :: back) =
      facts key front ++ ledgerFacts key ledger ++ facts key back := by
  simp [facts]

/-! ## The invariant of the shared system -/

/-- The key whose lock a flow holds. -/
def flowKey : Flow P → Option (IdempotencyKey P)
  | .scanning key .. | .leased key _ | .reserved key _ _ => some key
  | _ => none

/-- What the token of a flow says about the spool.  A scan has seen every fact of the
files it has read, and nothing that is not a fact; a lease or an unused reservation knows
every fact of its key; a used reservation has its `Pending` record. -/
def FlowOk (spool : Spool P) : Flow P → Prop
  | .idle => True
  | .scanning key _ unread seen _ =>
    (∀ ledger ∈ spool, ledger.executionId ∉ unread →
      ∀ fact ∈ ledgerFacts key ledger, ∃ o ∈ seen, o.outcome = fact) ∧
    ∀ o ∈ seen, o.outcome.isStickyReplayProof = true → o.outcome ∈ facts key spool
  | .leased key observed => ∀ fact ∈ facts key spool, observed = some fact
  | .reserved key reservation _ =>
    if reservation.pendingRecorded then .pending ∈ facts key spool
    else ∀ fact ∈ facts key spool, reservation.observedOutcome = some fact
  | .retiring _ _ locks snapshots => ∀ snapshot ∈ snapshots, Prepared spool locks snapshot

/-- A reservation whose effect was not sent yet has its dispatch still to spend. -/
def Unsent (effects failures : List (IdempotencyKey P)) : Flow P → Prop
  | .reserved key reservation false =>
    reservation.pendingRecorded = true → effects.count key ≤ failures.count key
  | _ => True

/-- The dispatches that the facts of a key account for. -/
def spent (outcomes : List StepOutcome) : Nat := if outcomes = [] then 0 else 1

/-- The invariant of the shared system. -/
structure Inv (sys : System P) : Prop where
  wellFormed : WellFormed sys.spool
  keyLocks : Exclusive (sys.flows.map fun flow => flow.keyLock.toList)
  executionLocks : Exclusive (sys.flows.map Flow.executionLocks)
  agreed : ∀ key, Agreed (facts key sys.spool)
  flows : ∀ flow ∈ sys.flows, FlowOk sys.spool flow
  budget : ∀ key, sys.effects.count key ≤ sys.failures.count key + spent (facts key sys.spool)
  unsent : ∀ flow ∈ sys.flows, Unsent sys.effects sys.failures flow

theorem inv_init : Inv (System.init P) where
  wellFormed := ⟨List.Pairwise.nil, nofun⟩
  keyLocks := exclusive_nil
  executionLocks := exclusive_nil
  agreed _ := agreed_nil
  flows := nofun
  budget _ := Nat.le_refl 0
  unsent := nofun

/-! ### Frames -/

theorem after_mem_replace (hMem : ledger ∈ spool) (hId : after.executionId = ledger.executionId) :
    after ∈ spool.replace after :=
  mem_map.mpr ⟨ledger, hMem, if_pos hId.symm⟩

section Frames

variable (hWf : WellFormed spool)
  (hMem : ledger ∈ spool) (hId : after.executionId = ledger.executionId)

include hWf hMem hId

/-- A stored ledger is the old one or the new one. -/
theorem mem_replace {other : TxExecutionLedger P} (h : other ∈ spool.replace after) :
    other ∈ spool ∨ other = after := by
  rcases hWf.replace_split hMem hId with ⟨front, back, hSpool, hAfter⟩
  rw [hAfter] at h
  rcases mem_append.mp h with hFront | hRest
  · exact .inl (by simp [hSpool, hFront])
  · rcases mem_cons.mp hRest with rfl | hBack
    · exact .inr rfl
    · exact .inl (by simp [hSpool, hBack])

theorem wellFormed_replace (hSound : Sound after) : WellFormed (spool.replace after) := by
  constructor
  · rcases hWf.replace_split hMem hId with ⟨front, back, hSpool, hAfter⟩
    have hDistinct := hWf.distinct
    rw [hSpool] at hDistinct
    rw [hAfter]
    simpa [hId] using hDistinct
  · intro other hOther
    rcases mem_replace hWf hMem hId hOther with hOld | rfl
    · exact hWf.sound other hOld
    · exact hSound

theorem facts_replace_eq (hSame : ledgerFacts key after = ledgerFacts key ledger) :
    facts key (spool.replace after) = facts key spool := by
  rcases hWf.replace_split hMem hId with ⟨front, back, hSpool, hAfter⟩
  rw [hAfter, facts_split, hSame, ← facts_split, ← hSpool]

/-- A write to one ledger does not disturb a flow with another key and another lock. -/
theorem FlowOk.replace (h : FlowOk spool flow)
    (hKey : ∀ key, flowKey flow = some key → ledgerFacts key after = ledgerFacts key ledger)
    (hLock : ledger.executionId ∉ flow.executionLocks ∨ after.records = ledger.records) :
    FlowOk (spool.replace after) flow := by
  cases flow with
  | idle => trivial
  | scanning key =>
    have hSame := hKey key rfl
    refine ⟨fun other hOther hRead fact hFact => ?_, fun o ho hSticky => ?_⟩
    · rcases mem_replace hWf hMem hId hOther with hOld | rfl
      · exact h.1 other hOld hRead fact hFact
      · exact h.1 ledger hMem (hId ▸ hRead) fact (hSame ▸ hFact)
    · rw [facts_replace_eq hWf hMem hId hSame]
      exact h.2 o ho hSticky
  | leased key =>
    show ∀ fact ∈ facts key _, _
    rw [facts_replace_eq hWf hMem hId (hKey key rfl)]
    exact h
  | reserved key reservation =>
    show if reservation.pendingRecorded then _ ∈ facts key _ else ∀ fact ∈ facts key _, _
    rw [facts_replace_eq hWf hMem hId (hKey key rfl)]
    exact h
  | retiring _ _ locks =>
    intro snapshot hSnapshot
    rcases h snapshot hSnapshot with ⟨hSound, hLocked, stored, hStored, hStoredId, hRecords⟩
    refine ⟨hSound, hLocked, ?_⟩
    by_cases hEq : stored.executionId = ledger.executionId
    · rcases hLock with hOut | hSame
      · exact absurd (show ledger.executionId ∈ locks from hEq ▸ hStoredId ▸ hLocked) hOut
      · have hUnique : stored = ledger :=
          inj_on_of_nodup_map hWf.distinct hStored hMem hEq
        subst hUnique
        exact ⟨after, after_mem_replace hMem hId, hId.trans hStoredId, hSame.trans hRecords⟩
    · exact ⟨stored, mem_map.mpr ⟨stored, hStored, if_neg (hId ▸ hEq)⟩, hStoredId, hRecords⟩

end Frames

/-! ### Steps that write nothing -/

/-- A flow of the new list is the new one, or another one of the old list. -/
private theorem mem_set_of_ne {flows : List (Flow P)} (hFlow : flows[p]? = some old)
    (h : flow ∈ flows.set p new) : flow = new ∨ ∃ q, p ≠ q ∧ flows[q]? = some flow := by
  rcases getElem?_of_mem h with ⟨q, hq⟩
  by_cases hpq : p = q
  · subst hpq
    rw [List.getElem?_set_self (List.getElem?_eq_some_iff.mp hFlow).1] at hq
    exact .inl (Option.some.inj hq).symm
  · rw [List.getElem?_set_ne hpq] at hq
    exact .inr ⟨q, hpq, hq⟩

/-- A flow may change its token when the token is true and takes free locks only. -/
theorem Inv.setFlow (h : Inv sys) (hFlow : sys.flows[p]? = some old)
    (hKeyLock : ∀ key, new.keyLock = some key → old.keyLock = some key ∨ sys.keyFree key)
    (hExecution : ∀ executionId ∈ new.executionLocks, executionId ∈ old.executionLocks ∨
      sys.executionFree executionId) (hOk : FlowOk sys.spool new)
    (hUnsent : Unsent sys.effects sys.failures new) :
    Inv (sys.setFlow p new) where
  wellFormed := h.wellFormed
  keyLocks := by
    refine h.keyLocks.map_set hFlow fun key hKey => ?_
    rcases hKeyLock key (Option.mem_toList.mp hKey) with hOld | hFree
    · exact .inl (Option.mem_toList.mpr hOld)
    · simp only [System.keyFree, all_eq_true, decide_eq_true_eq] at hFree
      exact .inr fun flow hIn hMem => hFree flow hIn (Option.mem_toList.mp hMem)
  executionLocks := h.executionLocks.map_set hFlow fun id hLock =>
    (hExecution id hLock).imp_right fun hFree => by simpa [System.executionFree] using hFree
  agreed := h.agreed
  flows flow hMem := by
    rcases mem_or_eq_of_mem_set hMem with hOld | rfl
    · exact h.flows flow hOld
    · exact hOk
  budget := h.budget
  unsent flow hMem := by
    rcases mem_or_eq_of_mem_set hMem with hOld | rfl
    · exact h.unsent flow hOld
    · exact hUnsent

/-- What one flow holds, no other flow holds. -/
theorem Inv.keyLock_ne (h : Inv sys) (hFlow : sys.flows[p]? = some flow)
    (hOther : sys.flows[q]? = some other) (hne : p ≠ q) {key : String}
    (hKey : flow.keyLock = some key) : other.keyLock ≠ some key := by
  intro hSame
  exact h.keyLocks.notMem (by rw [getElem?_map, hFlow]; rfl)
    (by rw [getElem?_map, hOther]; rfl) hne (Option.mem_toList.mpr hKey)
    (Option.mem_toList.mpr hSame)

theorem keyLock_eq (flow : Flow P) : flow.keyLock = (flowKey flow).map (·.key) := by
  cases flow <;> rfl

/-- The files of a directory listing are all the files. -/
theorem mem_candidates (hWf : WellFormed spool) (hMem : ledger ∈ spool) :
    ledger.executionId ∈ spool.candidates := by
  unfold Spool.candidates
  rw [mem_insertionSort, mem_filter]
  exact ⟨mem_map_of_mem hMem, (hWf.sound ledger hMem).executionId⟩

/-- The observations of a ledger are its records of that key. -/
theorem mem_observationsIn {fact : StepOutcome} (hSticky : fact.isStickyReplayProof) :
    (∃ o ∈ observationsIn key ledger, o.outcome = fact) ↔ fact ∈ ledgerFacts key ledger := by
  unfold observationsIn ledgerFacts
  rw [mem_stickyOf]
  simp only [mem_map, mem_filter, decide_eq_true_eq, entry, Prod.mk.injEq]
  constructor
  · rintro ⟨o, ⟨record, ⟨hRecord, hKey⟩, rfl⟩, hOutcome⟩
    exact ⟨⟨record, hRecord, hKey, hOutcome⟩, hSticky⟩
  · rintro ⟨⟨record, hRecord, hKey, hOutcome⟩, _⟩
    exact ⟨_, ⟨record, ⟨hRecord, hKey⟩, rfl⟩, hOutcome⟩

/-- One more file was read. -/
theorem FlowOk.scan (hWf : WellFormed spool) (hMem : ledger ∈ spool)
    (h : FlowOk spool (.scanning key nowMs (ledger.executionId :: unread) seen highWaterMs)) :
    FlowOk spool (.scanning key nowMs unread (seen ++ observationsIn key ledger)
      (max highWaterMs (ledgerHighWater ledger))) := by
  constructor
  · intro other hOther hRead fact hFact
    by_cases hEq : other.executionId = ledger.executionId
    · have hUnique : other = ledger :=
        inj_on_of_nodup_map hWf.distinct hOther hMem hEq
      subst hUnique
      rcases (mem_observationsIn (mem_stickyOf.mp hFact).2).mpr hFact with ⟨o, ho, hOutcome⟩
      exact ⟨o, by simp [ho], hOutcome⟩
    · rcases h.1 other hOther (by simp [hEq, hRead]) fact hFact with ⟨o, ho, hOutcome⟩
      exact ⟨o, by simp [ho], hOutcome⟩
  · intro o ho hSticky
    rcases mem_append.mp ho with hOld | hNew
    · exact h.2 o hOld hSticky
    · exact mem_facts.mpr ⟨ledger, hMem, (mem_observationsIn hSticky).mp ⟨o, hNew, rfl⟩⟩

/-- The facts that a scan has seen agree. -/
theorem Inv.seen_agree (h : Inv sys)
    (hOk : FlowOk sys.spool (.scanning key nowMs unread seen highWaterMs)) :
    ∀ a ∈ seen, ∀ b ∈ seen, a.outcome.isStickyReplayProof →
      b.outcome.isStickyReplayProof → a.outcome = b.outcome := by
  intro a ha b hb hStickyA hStickyB
  exact (h.agreed key).eq (hOk.2 a ha hStickyA) (hOk.2 b hb hStickyB)

/-- A complete scan tells the lease holder every fact of the key. -/
theorem Inv.refresh (h : Inv sys) (hOk : FlowOk sys.spool (.scanning key nowMs [] seen highWaterMs))
    (hRefresh : refreshOutcome dedupTtlMs key seen highWaterMs nowMs = .ok observed) :
    FlowOk sys.spool (.leased key observed) := by
  intro fact hFact
  have hSticky := sticky_of_mem_facts hFact
  rcases mem_facts.mp hFact with ⟨ledger, hMem, hIn⟩
  rcases hOk.1 ledger hMem (by simp) fact hIn with ⟨o, ho, rfl⟩
  exact refreshOutcome_eq key seen (h.seen_agree hOk) hRefresh ho hSticky

/-! ### Steps that write -/

/-- One flow replaces the file of a ledger whose lock it holds, changing no facts but
those of the key whose lock it holds. -/
theorem Inv.write (h : Inv sys) {failures : List (IdempotencyKey P)}
    (hFlow : sys.flows[p]? = some old) (hMem : ledger ∈ sys.spool)
    (hId : after.executionId = ledger.executionId) (hSound : Sound after)
    (hKeyLock : ∀ key, new.keyLock = some key → old.keyLock = some key)
    (hExecution : ∀ executionId ∈ new.executionLocks, executionId ∈ old.executionLocks)
    (hLock : ledger.executionId ∈ old.executionLocks)
    (hKeep : ∀ key, flowKey old ≠ some key → ledgerFacts key after = ledgerFacts key ledger)
    (hFailures : ∀ key, sys.failures.count key ≤ failures.count key)
    (hAgreed : ∀ key, flowKey old = some key → Agreed (facts key (sys.spool.replace after)))
    (hBudget : ∀ key, flowKey old = some key → sys.effects.count key ≤ failures.count key + spent
      (facts key (sys.spool.replace after))) (hOk : FlowOk (sys.spool.replace after) new)
    (hUnsent : Unsent sys.effects failures new) :
    Inv { spool := sys.spool.replace after, flows := sys.flows.set p new,
          effects := sys.effects, failures } where
  wellFormed := wellFormed_replace h.wellFormed hMem hId hSound
  keyLocks := h.keyLocks.map_set hFlow fun key hKey =>
    .inl (Option.mem_toList.mpr (hKeyLock key (Option.mem_toList.mp hKey)))
  executionLocks := h.executionLocks.map_set hFlow fun id hIn => .inl (hExecution id hIn)
  agreed key := by
    by_cases hKey : flowKey old = some key
    · exact hAgreed key hKey
    · rw [facts_replace_eq h.wellFormed hMem hId (hKeep key hKey)]
      exact h.agreed key
  flows flow hIn := by
    rcases mem_set_of_ne hFlow hIn with rfl | ⟨q, hpq, hq⟩
    · exact hOk
    · refine (h.flows flow (mem_of_getElem? hq)).replace h.wellFormed hMem hId
        (fun key hKey => hKeep key fun hSame => ?_)
        (.inl (h.executionLocks.notMem (by rw [getElem?_map, hFlow]; rfl)
          (by rw [getElem?_map, hq]; rfl) hpq hLock))
      -- two flows would hold the lock of one key
      have hOldLock : old.keyLock = some key.key := by rw [keyLock_eq, hSame, Option.map_some]
      have hOwnLock : flow.keyLock = some key.key := by rw [keyLock_eq, hKey, Option.map_some]
      exact h.keyLock_ne hFlow hq hpq hOldLock hOwnLock
  budget key := by
    by_cases hKey : flowKey old = some key
    · exact hBudget key hKey
    · rw [facts_replace_eq h.wellFormed hMem hId (hKeep key hKey)]
      exact Nat.le_trans (h.budget key) (Nat.add_le_add_right (hFailures key) _)
  unsent flow hIn := by
    rcases mem_or_eq_of_mem_set hIn with hOld | rfl
    · have hBefore := h.unsent flow hOld
      cases flow with
      | reserved key _ dispatched =>
        cases dispatched with
        | true => trivial
        | false => exact fun hRecorded => Nat.le_trans (hBefore hRecorded) (hFailures key)
      | _ => trivial
    · exact hUnsent

/-- Every `Pending` record of the key in the second ledger is one in the first. -/
def NoMorePending (key : IdempotencyKey P) (ledger after : TxExecutionLedger P) : Prop :=
  ∀ record ∈ after.records, record.idemKey = key → record.outcome = .pending →
    ∃ old ∈ ledger.records, old.ordinal = record.ordinal ∧ old.idemKey = key ∧
      old.outcome = .pending

section Advances

variable {risk : StepRisk} {agentId : String}

section Append

variable (hAdvance : Advance ledger (.append key outcome risk agentId timestampMs) after)
include hAdvance

/-- An appended record adds its outcome to the facts of its own key. -/
theorem ledgerFacts_append (other : IdempotencyKey P) :
    after.executionId = ledger.executionId ∧
      ledgerFacts other after = ledgerFacts other ledger ++ stickyOf other [(key, outcome)] := by
  cases hAdvance with
  | append =>
    refine ⟨rfl, ?_⟩
    show stickyOf other ((ledger.records ++ [_]).map entry) = _
    rw [map_append, stickyOf_append]
    rfl

theorem ledgerFacts_append_of_ne {other : IdempotencyKey P} (hne : key ≠ other) :
    ledgerFacts other after = ledgerFacts other ledger := by
  have hEntry : (key, outcome).1 ≠ other := hne
  rw [(ledgerFacts_append hAdvance other).2, stickyOf_singleton_of_ne hEntry, append_nil]

private theorem pending_of_append {other : IdempotencyKey P}
    (hNew : key = other → outcome ≠ .pending) : NoMorePending other ledger after := by
  cases hAdvance with
  | append =>
    intro record hRecord hKey hPending
    rcases mem_append.mp hRecord with hOld | hLast
    · exact ⟨record, hOld, rfl, hKey, hPending⟩
    · rw [mem_singleton.mp hLast] at hKey hPending
      exact absurd hPending (hNew hKey)

end Append

variable (hAdvance : Advance ledger (.completePending key outcome timestampMs) after)
include hAdvance

/-- A completed reservation turns one `Pending` of its key into the outcome. -/
theorem ledgerFacts_complete :
    after.executionId = ledger.executionId ∧
      ∃ front back : List (IdempotencyKey P × StepOutcome), ∀ other, ledgerFacts other ledger =
          stickyOf other front ++ stickyOf other [(key, .pending)] ++ stickyOf other back ∧
        ledgerFacts other after =
          stickyOf other front ++ stickyOf other [(key, outcome)] ++ stickyOf other back := by
  cases hAdvance with
  | complete _ _ _ _ _ _ hRecord hKey hPending =>
    rcases entries_rewrite hRecord outcome timestampMs with ⟨front, back, hOld, hNew⟩
    refine ⟨rfl, front, back, fun other => ⟨?_, ?_⟩⟩
    · unfold ledgerFacts
      rw [hOld, stickyOf_append, stickyOf_append, entry, hKey, hPending]
    · unfold ledgerFacts
      rw [hNew, stickyOf_append, stickyOf_append, hKey]

theorem ledgerFacts_complete_of_ne {other : IdempotencyKey P} (hne : key ≠ other) :
    ledgerFacts other after = ledgerFacts other ledger := by
  rcases ledgerFacts_complete hAdvance with ⟨_, front, back, hFacts⟩
  have hOldEntry : (key, StepOutcome.pending).1 ≠ other := hne
  have hNewEntry : (key, outcome).1 ≠ other := hne
  rw [(hFacts other).1, (hFacts other).2, stickyOf_singleton_of_ne hOldEntry,
    stickyOf_singleton_of_ne hNewEntry]

private theorem pending_of_complete {other : IdempotencyKey P} :
    NoMorePending other ledger after := by
  cases hAdvance with
  | complete _ _ _ index rewritten _ _ _ _ hOutcome =>
    intro record hRecord hKey hPending
    -- the links aside, only the completed record was changed, and not to `Pending`
    have hView : (record.ordinal, entry record) ∈
        (ledger.records.set index { rewritten with outcome, timestampMs }).map
          fun r => (r.ordinal, entry r) := by
      rw [← map_rehashFrom (fun r => (r.ordinal, entry r)) (fun _ _ => rfl) index]
      exact mem_map.mpr ⟨record, hRecord, rfl⟩
    rcases mem_map.mp hView with ⟨old, hOld, hSame⟩
    simp only [entry, Prod.mk.injEq] at hSame
    rcases mem_or_eq_of_mem_set hOld with hIn | rfl
    · exact ⟨old, hIn, hSame.1, hSame.2.1.trans hKey, hSame.2.2.trans hPending⟩
    · have hBad : outcome = .pending := hSame.2.2.trans hPending
      rw [hBad] at hOutcome
      cases hOutcome

/-- The `Pending` of a reservation that completes was the only fact of the key. -/
theorem Inv.complete_facts (h : Inv sys) (hMem : ledger ∈ sys.spool) :
    facts key sys.spool = [.pending] := by
  rcases ledgerFacts_complete hAdvance with ⟨hAfterId, before, later, hFacts⟩
  rcases h.wellFormed.replace_split hMem hAfterId with ⟨front, back, hSpool, _⟩
  refine (h.agreed key).eq_singleton ?_
  rw [hSpool, facts_split, (hFacts key).1, stickyOf_singleton]
  simp [StepOutcome.isStickyReplayProof]

end Advances

section Writes

variable (h : Inv sys)
  {reservation : IdempotencyReservation} {dispatched : Bool}
  (hFlow : sys.flows[p]? = some (.reserved key reservation dispatched)) (hMem : ledger ∈ sys.spool)
  (hId : ledger.executionId = reservation.executionId)

variable {risk : StepRisk} {agentId : String}

include h hFlow hMem hId

/-- Reserving a key that has no fact. -/
theorem Inv.reserve (hUnused : reservation.pendingRecorded = false)
    (hObserved : reservation.observedOutcome = none ∨
      retriesFailedCompensation key reservation.observedOutcome)
    (hAdvance : Advance ledger (.append key .pending risk agentId timestampMs) after) :
    facts key sys.spool = [] ∧ facts key (sys.spool.replace after) = [.pending] ∧
      Inv { sys.setFlow p (.reserved key { reservation with pendingRecorded := true }
          dispatched) with spool := sys.spool.replace after } := by
  have hAfterId := (ledgerFacts_append hAdvance key).1
  have hKnown := h.flows _ (mem_of_getElem? hFlow)
  rw [FlowOk, hUnused, if_neg Bool.false_ne_true] at hKnown
  -- a fact would have been observed, and no observed fact may be retried
  have hNone : facts key sys.spool = [] := by
    rw [eq_nil_iff_forall_not_mem]
    intro fact hFact
    have hSticky := sticky_of_mem_facts hFact
    have hSaw := hKnown fact hFact
    rcases hObserved with hFree | hRetry
    · rw [hFree] at hSaw
      cases hSaw
    · rw [hSaw] at hRetry
      cases fact <;> simp [retriesFailedCompensation, StepOutcome.isStickyReplayProof]
        at hRetry hSticky
  have hOne : facts key (sys.spool.replace after) = [.pending] := by
    rcases h.wellFormed.replace_split hMem hAfterId with ⟨front, back, hSpool, hAfter⟩
    rw [hSpool, facts_split, append_eq_nil_iff, append_eq_nil_iff] at hNone
    rw [hAfter, facts_split, (ledgerFacts_append hAdvance key).2, hNone.1.1, hNone.1.2, hNone.2,
      stickyOf_singleton]
    rfl
  refine ⟨hNone, hOne, ?_⟩
  have hBudget : sys.effects.count key ≤ sys.failures.count key := by
    have hCount := h.budget key
    rwa [hNone] at hCount
  refine h.write hFlow hMem hAfterId (hAdvance.sound (h.wellFormed.sound ledger hMem))
    (fun _ hKey => hKey) (fun _ hIn => hIn) (by simp [Flow.executionLocks, hId])
    (fun other hOther => ?_) (fun _ => Nat.le_refl _) (fun other hOther => ?_)
    (fun other hOther => ?_) ?_ ?_
  · exact ledgerFacts_append_of_ne hAdvance fun hEq => hOther (congrArg some hEq)
  · cases hOther
    exact .inl hOne
  · cases hOther
    exact Nat.le_add_right_of_le hBudget
  · simp [FlowOk, hOne]
  · cases dispatched with
    | true => trivial
    | false => exact fun _ => hBudget

omit h hFlow hMem hId in
theorem ne_pending_of_isRecoverable (h : isRecoverable outcome) : outcome ≠ .pending := by
  rintro rfl
  cases h

/-- Linking a proven outcome into another ledger. -/
theorem Inv.recover (hUnused : reservation.pendingRecorded = false)
    (hOutcome : isRecoverable outcome)
    (hObserved : reservation.observedOutcome = some outcome)
    (hAdvance : Advance ledger (.append key outcome risk agentId timestampMs) after) :
    Inv { sys.setFlow p .idle with spool := sys.spool.replace after } := by
  have hAfterId := (ledgerFacts_append hAdvance key).1
  have hSettled := ne_pending_of_isRecoverable hOutcome
  have hKnown := h.flows _ (mem_of_getElem? hFlow)
  rw [FlowOk, hUnused, if_neg Bool.false_ne_true, hObserved] at hKnown
  rcases h.wellFormed.replace_split hMem hAfterId with ⟨front, back, hSpool, hAfter⟩
  have hMore : ∀ fact ∈ facts key sys.spool, fact ∈ facts key (sys.spool.replace after) := by
    intro fact hFact
    rw [hSpool, facts_split] at hFact
    rw [hAfter, facts_split, (ledgerFacts_append hAdvance key).2]
    simp only [mem_append] at hFact ⊢
    tauto
  have hAll : ∀ fact ∈ facts key (sys.spool.replace after), fact = outcome := by
    intro fact hFact
    have hOld : fact ∈ facts key sys.spool → fact = outcome := fun hIn =>
      (Option.some.inj (hKnown fact hIn)).symm
    rw [hAfter, facts_split, (ledgerFacts_append hAdvance key).2] at hFact
    rw [hSpool, facts_split] at hOld
    simp only [mem_append] at hFact hOld
    rcases hFact with (hFront | hLedger | hNew) | hBack
    · exact hOld (.inl (.inl hFront))
    · exact hOld (.inl (.inr hLedger))
    · have hEntry := (mem_stickyOf.mp hNew).1
      simp only [mem_singleton, Prod.mk.injEq, true_and] at hEntry
      exact hEntry
    · exact hOld (.inr hBack)
  refine h.write hFlow hMem hAfterId (hAdvance.sound (h.wellFormed.sound ledger hMem)) nofun
    nofun (by simp [Flow.executionLocks, hId])
    (fun other hOther => ledgerFacts_append_of_ne hAdvance fun hEq =>
      hOther (congrArg some hEq)) (fun _ => Nat.le_refl _) (fun other hOther => ?_)
    (fun other hOther => ?_) trivial trivial
  · cases hOther
    exact .inr ⟨outcome, hSettled, hAll⟩
  · cases hOther
    refine Nat.le_trans (h.budget key) (Nat.add_le_add_left ?_ _)
    unfold spent
    split
    · exact Nat.zero_le _
    · rename_i hSome
      rcases exists_mem_of_ne_nil _ hSome with ⟨fact, hFact⟩
      rw [if_neg (ne_nil_of_mem (hMore fact hFact))]

/-- Completing a reservation. -/
theorem Inv.complete (hAdvance : Advance ledger (.completePending key outcome timestampMs) after) :
    facts key (sys.spool.replace after) = (if outcome.isStickyReplayProof then [outcome] else []) ∧
      Inv { sys.setFlow p .idle with
            spool := sys.spool.replace after
            failures := if outcome.isStickyReplayProof then sys.failures
              else key :: sys.failures } := by
  rcases ledgerFacts_complete hAdvance with ⟨hAfterId, before, later, hFacts⟩
  rcases h.wellFormed.replace_split hMem hAfterId with ⟨front, back, hSpool, hAfter⟩
  have hPending := Inv.complete_facts hAdvance h hMem
  -- so the other parts of the spool hold no fact of the key
  have hEmpty : facts key front = [] ∧ stickyOf key before = [] ∧ stickyOf key later = [] ∧
      facts key back = [] := by
    have hLength := congrArg length hPending
    rw [hSpool, facts_split, (hFacts key).1, stickyOf_singleton] at hLength
    simp only [StepOutcome.isStickyReplayProof, if_true, length_append, length_singleton] at hLength
    simp only [← length_eq_zero_iff]
    omega
  have hAfterFacts : facts key (sys.spool.replace after) =
      (if outcome.isStickyReplayProof then [outcome] else []) := by
    rw [hAfter, facts_split, (hFacts key).2, hEmpty.1, hEmpty.2.1, hEmpty.2.2.1, hEmpty.2.2.2,
      stickyOf_singleton]
    simp
  have hBudget : sys.effects.count key ≤ sys.failures.count key + 1 := by
    have hCount := h.budget key
    rwa [hPending] at hCount
  have hOutcome : outcome ≠ .pending := by
    intro hEq
    subst hEq
    cases hAdvance with
    | complete _ _ _ _ _ _ _ _ _ hAmbiguous => cases hAmbiguous
  refine ⟨hAfterFacts, ?_⟩
  refine h.write hFlow hMem hAfterId (hAdvance.sound (h.wellFormed.sound ledger hMem)) nofun
    nofun (by simp [Flow.executionLocks, hId]) (fun other hOther => ?_) (fun other => ?_)
    (fun other hOther => ?_) (fun other hOther => ?_) trivial trivial
  · exact ledgerFacts_complete_of_ne hAdvance fun hEq => hOther (congrArg some hEq)
  · split
    · exact Nat.le_refl _
    · exact count_le_count_cons
  · cases hOther
    rw [hAfterFacts]
    split
    · exact .inr ⟨outcome, hOutcome, fun fact hFact => mem_singleton.mp hFact⟩
    · exact agreed_nil
  · cases hOther
    rw [hAfterFacts]
    split
    · exact hBudget
    · simpa [spent] using hBudget

end Writes

/-! ### Every event keeps the invariant -/

/-- A ledger without records adds nothing to the spool. -/
theorem Inv.create (h : Inv sys) (planId : String) (planHash : Nat)
    (hId : isValidExecutionId executionId)
    (hNew : ∀ ledger ∈ sys.spool, ledger.executionId ≠ executionId) : Inv { sys with spool :=
      sys.spool ++ [TxExecutionLedger.new P executionId planId planHash] } := by
  have hFacts : ∀ key, facts key (sys.spool ++
      [TxExecutionLedger.new P executionId planId planHash]) = facts key sys.spool := by
    intro key
    simp [facts, ledgerFacts, TxExecutionLedger.new, stickyOf]
  refine { h with wellFormed := ?_, agreed := ?_, flows := ?_, budget := ?_ }
  · constructor
    · rw [map_append, nodup_append]
      refine ⟨h.wellFormed.distinct, nodup_singleton _, fun id hOld other hOther => ?_⟩
      rcases mem_map.mp hOld with ⟨ledger, hMem, rfl⟩
      have hSame : other = executionId := by simpa [TxExecutionLedger.new] using hOther
      rw [hSame]
      exact hNew ledger hMem
    · rw [forall_mem_append, forall_mem_singleton]
      exact ⟨h.wellFormed.sound, { kept_new _ planId planHash with executionId := hId }⟩
  · intro key
    rw [hFacts]
    exact h.agreed key
  · intro flow hFlow
    have hOk := h.flows flow hFlow
    cases flow with
    | idle => trivial
    | scanning =>
      refine ⟨fun ledger hMem hRead fact hFact => ?_, fun o ho hSticky => ?_⟩
      · rcases mem_append.mp hMem with hOld | hLast
        · exact hOk.1 ledger hOld hRead fact hFact
        · rw [mem_singleton.mp hLast] at hFact
          simp [ledgerFacts, TxExecutionLedger.new, stickyOf] at hFact
      · rw [hFacts]
        exact hOk.2 o ho hSticky
    | leased key =>
      intro fact hFact
      exact hOk fact (hFacts key ▸ hFact)
    | reserved =>
      simp only [FlowOk] at hOk ⊢
      rwa [hFacts]
    | retiring =>
      intro snapshot hSnapshot
      rcases hOk snapshot hSnapshot with ⟨hSound, hLock, ledger, hMem, hRest⟩
      exact ⟨hSound, hLock, ledger, by simp [hMem], hRest⟩
  · intro key
    rw [hFacts]
    exact h.budget key

/-- A ledger is replaced by one with the same records. -/
theorem Inv.republish (h : Inv sys) (hMem : ledger ∈ sys.spool)
    (hId : after.executionId = ledger.executionId) (hSound : Sound after)
    (hRecords : after.records = ledger.records) :
    Inv { sys with spool := sys.spool.replace after } := by
  have hSame : ∀ key, ledgerFacts key after = ledgerFacts key ledger := by
    intro key
    unfold ledgerFacts
    rw [hRecords]
  have hFacts : ∀ key, facts key (sys.spool.replace after) = facts key sys.spool := fun key =>
    facts_replace_eq h.wellFormed hMem hId (hSame key)
  refine { h with wellFormed := ?_, agreed := ?_, flows := ?_, budget := ?_ }
  · exact wellFormed_replace h.wellFormed hMem hId hSound
  · intro key
    rw [hFacts]
    exact h.agreed key
  · intro flow hFlow
    exact (h.flows flow hFlow).replace h.wellFormed hMem hId (fun key _ => hSame key)
      (.inr hRecords)
  · intro key
    rw [hFacts]
    exact h.budget key

/-- The external effect of a reservation is sent. -/
theorem Inv.dispatch (h : Inv sys) {reservation : IdempotencyReservation}
    (hFlow : sys.flows[p]? = some (.reserved key reservation false))
    (hRecorded : reservation.pendingRecorded) :
    Inv { sys.setFlow p (.reserved key reservation true) with effects := key :: sys.effects } := by
  have hOk := h.flows _ (mem_of_getElem? hFlow)
  have hBase : Inv (sys.setFlow p (.reserved key reservation true)) :=
    h.setFlow hFlow (fun _ hKey => .inl hKey) (fun _ hIn => .inl hIn) hOk trivial
  have hUnsent : sys.effects.count key ≤ sys.failures.count key :=
    h.unsent _ (mem_of_getElem? hFlow) hRecorded
  have hPending : facts key sys.spool ≠ [] := by
    rw [FlowOk, if_pos hRecorded] at hOk
    exact ne_nil_of_mem hOk
  refine { hBase with budget := ?_, unsent := ?_ }
  · intro other
    show (key :: sys.effects).count other ≤ sys.failures.count other +
      spent (facts other sys.spool)
    by_cases hEq : key = other
    · subst hEq
      rw [count_cons_self, spent, if_neg hPending]
      omega
    · rw [count_cons_of_ne hEq]
      exact h.budget other
  · intro flow hIn
    rcases mem_set_of_ne hFlow hIn with rfl | ⟨q, hpq, hq⟩
    · trivial
    · have hBefore := h.unsent flow (mem_of_getElem? hq)
      cases flow with
      | reserved other _ dispatched =>
        cases dispatched with
        | true => trivial
        | false =>
          have hne : key ≠ other := by
            intro hEq
            exact h.keyLock_ne hFlow hq hpq rfl (hEq ▸ rfl)
          intro hToken
          rw [count_cons_of_ne hne]
          exact hBefore hToken
      | _ => trivial

/-- Every event of the shared system keeps the invariant. -/
theorem Inv.moves (h : Inv sys) (hMoves : Moves sys event sys') : Inv sys' := by
  cases hMoves with
  | spawn =>
    refine { h with keyLocks := ?_, executionLocks := ?_, flows := ?_, unsent := ?_ }
    · rw [map_append]
      exact h.keyLocks.snoc_nil
    · rw [map_append]
      exact h.executionLocks.snoc_nil
    · rw [forall_mem_append, forall_mem_singleton]
      exact ⟨h.flows, trivial⟩
    · rw [forall_mem_append, forall_mem_singleton]
      exact ⟨h.unsent, trivial⟩
  | crash _ _ hFlow => exact h.setFlow hFlow nofun nofun trivial trivial
  | create _ planId planHash hId hNew => exact h.create planId planHash hId hNew
  | phase _ ledger _ hMem _ hAdvance =>
    have hSame := advance_transitionPhase_records hAdvance
    exact h.republish hMem hSame.1 (hAdvance.sound (h.wellFormed.sound ledger hMem)) hSame.2
  | acquire _ _ _ hFlow hFree =>
    refine h.setFlow hFlow (fun raw hRaw => .inr ?_) nofun ⟨?_, nofun⟩ trivial
    · cases hRaw
      exact hFree
    · intro ledger hMem hUnread
      exact absurd (mem_candidates h.wellFormed hMem) hUnread
  | scan _ _ _ _ _ _ _ hMem hFlow =>
    exact h.setFlow hFlow (fun _ hKey => .inl hKey) nofun
      ((h.flows _ (mem_of_getElem? hFlow)).scan h.wellFormed hMem) trivial
  | refresh _ _ _ _ _ _ _ hFlow hRefresh =>
    exact h.setFlow hFlow (fun _ hKey => .inl hKey) nofun
      (h.refresh (h.flows _ (mem_of_getElem? hFlow)) hRefresh) trivial
  | bind _ _ _ _ hFlow hFree =>
    have hOk := h.flows _ (mem_of_getElem? hFlow)
    refine h.setFlow hFlow (fun _ hKey => .inl hKey) (fun id hIn => .inr ?_) ?_ nofun
    · rw [mem_singleton.mp hIn]
      exact hFree
    · simpa [FlowOk] using hOk
  | reserve _ _ _ _ _ _ _ _ _ hFlow hMem hId hUnused hObserved hAdvance =>
    exact (h.reserve hFlow hMem hId hUnused hObserved hAdvance).2.2
  | dispatch _ _ _ hFlow hRecorded => exact h.dispatch hFlow hRecorded
  | complete _ _ _ _ _ _ _ _ hFlow hMem hId _ hAdvance => exact (h.complete hFlow hMem hId hAdvance).2
  | recover _ _ _ _ _ _ _ _ _ _ hFlow hMem hId hUnused hOutcome hObserved hAdvance =>
    exact h.recover hFlow hMem hId hUnused hOutcome hObserved hAdvance
  | retire _ _ _ _ _ _ _ hFlow hLocks hPrepared =>
    exact h.setFlow hFlow nofun hLocks hPrepared trivial
  | publish _ _ _ _ snapshot _ hFlow =>
    have hOk := h.flows _ (mem_of_getElem? hFlow)
    rcases hOk snapshot (by simp) with ⟨hSound, _, ledger, hMem, hId, hRecords⟩
    have hNext := h.republish hMem hId.symm hSound hRecords.symm
    refine hNext.setFlow hFlow nofun (fun _ hIn => .inl hIn) (fun other hOther => ?_) trivial
    exact hNext.flows _ (mem_of_getElem? hFlow) other (by simp [hOther])

/-- The invariant holds in every reachable state. -/
theorem reach_inv (h : Reach sys) : Inv sys := by
  induction h with
  | init => exact inv_init
  | step _ _ hStep ih => exact ih.moves (step_moves ih.wellFormed hStep)

/-! ## No further pending record -/

/-- Some ledger holds a `Pending` or a `Success` record for the key. -/
def Holds (key : IdempotencyKey P) (spool : Spool P) : Prop :=
  ∃ ledger ∈ spool, ∃ record ∈ ledger.records, record.idemKey = key ∧
    (record.outcome = .pending ∨ ∃ result, record.outcome = .success result)

/-- The record at this place of the spool is a `Pending` record of the key. -/
def PendingAt (key : IdempotencyKey P) (spool : Spool P) (executionId : String)
    (ordinal : Nat) : Prop :=
  ∃ ledger ∈ spool, ledger.executionId = executionId ∧
    ∃ record ∈ ledger.records, record.ordinal = ordinal ∧ record.idemKey = key ∧
      record.outcome = .pending

/-- Some ledger holds a `Success` record for the key. -/
def Succeeded (key : IdempotencyKey P) (spool : Spool P) : Prop :=
  ∃ ledger ∈ spool, ∃ record ∈ ledger.records, record.idemKey = key ∧
    ∃ result, record.outcome = .success result

theorem mem_facts_of_record (hMem : ledger ∈ spool) (hRecord : record ∈ ledger.records)
    (hKey : record.idemKey = key) (hSticky : record.outcome.isStickyReplayProof) :
    record.outcome ∈ facts key spool :=
  mem_facts.mpr ⟨ledger, hMem,
    mem_stickyOf.mpr ⟨mem_map.mpr ⟨record, hRecord, by rw [entry, hKey]⟩, hSticky⟩⟩

theorem Succeeded.mem_facts (h : Succeeded key spool) :
    ∃ result, .success result ∈ facts key spool := by
  rcases h with ⟨ledger, hMem, record, hRecord, hKey, result, hSuccess⟩
  exact ⟨result, hSuccess ▸ mem_facts_of_record hMem hRecord hKey (by rw [hSuccess]; rfl)⟩

theorem Holds.facts_ne_nil (h : Holds key spool) :
    facts key spool ≠ [] := by
  rcases h with ⟨ledger, hMem, record, hRecord, hKey, hOutcome⟩
  have hSticky : record.outcome.isStickyReplayProof := by
    rcases hOutcome with hPending | ⟨result, hSuccess⟩
    · rw [hPending]
      rfl
    · rw [hSuccess]
      rfl
  exact ne_nil_of_mem (mem_facts_of_record hMem hRecord hKey hSticky)

/-- Replacing a ledger adds no pending place when the new ledger has none. -/
theorem PendingAt.of_replace (hWf : WellFormed spool) (hMem : ledger ∈ spool)
    (hId : after.executionId = ledger.executionId) (hRecords : NoMorePending key ledger after)
    (h : PendingAt key (spool.replace after) executionId ordinal) :
    PendingAt key spool executionId ordinal := by
  rcases h with ⟨stored, hStored, hStoredId, record, hRecord, hOrdinal, hKey, hPending⟩
  rcases mem_replace hWf hMem hId hStored with hOld | rfl
  · exact ⟨stored, hOld, hStoredId, record, hRecord, hOrdinal, hKey, hPending⟩
  · rcases hRecords record hRecord hKey hPending with ⟨old, hIn, hSame, hOldKey, hOldPending⟩
    exact ⟨ledger, hMem, hId ▸ hStoredId, old, hIn, hSame.trans hOrdinal, hOldKey, hOldPending⟩

/-- What a step may do to a key that has a fact: it writes no further `Pending` record,
and the facts are gone only after a failed completion of that key. -/
structure Keeps (key : IdempotencyKey P) (sys sys' : System P) : Prop where
  pending : ∀ executionId ordinal, PendingAt key sys'.spool executionId ordinal →
    PendingAt key sys.spool executionId ordinal
  facts : facts key sys'.spool ≠ [] ∨ sys.failures.count key < sys'.failures.count key

private theorem keeps_republish (h : Inv sys) (hMem : ledger ∈ sys.spool)
    (hId : after.executionId = ledger.executionId) (hRecords : after.records = ledger.records)
    (flows : List (Flow P)) (hFacts : facts key sys.spool ≠ []) :
    Keeps key sys { sys with spool := sys.spool.replace after, flows } where
  pending _ _ hAt := hAt.of_replace h.wellFormed hMem hId fun record hRecord hKey hPending =>
    ⟨record, hRecords ▸ hRecord, rfl, hKey, hPending⟩
  facts := by
    left
    rwa [facts_replace_eq h.wellFormed hMem hId (by unfold ledgerFacts; rw [hRecords])]

/-- Every event keeps a key that has a fact. -/
theorem Inv.keeps (h : Inv sys) (hMoves : Moves sys event sys')
    (hFacts : TxAtMostOnce.facts key sys.spool ≠ []) : Keeps key sys sys' := by
  cases hMoves with
  | create _ _ _ hId =>
    refine ⟨fun id ordinal hAt => ?_, .inl ?_⟩
    · rcases hAt with ⟨ledger, hMem, hId, record, hRecord, hRest⟩
      rcases mem_append.mp hMem with hOld | hLast
      · exact ⟨ledger, hOld, hId, record, hRecord, hRest⟩
      · rw [mem_singleton.mp hLast] at hRecord
        cases hRecord
    · rcases exists_mem_of_ne_nil _ hFacts with ⟨fact, hFact⟩
      rcases mem_facts.mp hFact with ⟨ledger, hMem, hIn⟩
      exact ne_nil_of_mem (mem_facts.mpr ⟨ledger, mem_append_left _ hMem, hIn⟩)
  | phase _ _ _ hMem _ hAdvance =>
    have hSame := advance_transitionPhase_records hAdvance
    exact keeps_republish h hMem hSame.1 hSame.2 sys.flows hFacts
  | publish _ _ _ _ snapshot _ hFlow =>
    rcases h.flows _ (mem_of_getElem? hFlow) snapshot (by simp) with
      ⟨_, _, ledger, hMem, hId, hRecords⟩
    exact keeps_republish h hMem hId.symm hRecords.symm _ hFacts
  | reserve _ _ _ _ own _ _ _ _ hFlow hMem hId hUnused hObserved hAdvance =>
    have hBefore := (h.reserve hFlow hMem hId hUnused hObserved hAdvance).1
    have hne : own ≠ key := fun hEq => hFacts (hEq ▸ hBefore)
    have hAfterId := (ledgerFacts_append hAdvance key).1
    refine ⟨fun id ordinal hAt => ?_, .inl ?_⟩
    · exact hAt.of_replace h.wellFormed hMem hAfterId
        (pending_of_append hAdvance fun hEq => absurd hEq hne)
    · rwa [facts_replace_eq h.wellFormed hMem hAfterId (ledgerFacts_append_of_ne hAdvance hne)]
  | complete _ _ _ own _ _ _ _ hFlow hMem hId _ hAdvance =>
    have hAfterId := (ledgerFacts_complete hAdvance).1
    refine ⟨fun id ordinal hAt => ?_, ?_⟩
    · exact hAt.of_replace h.wellFormed hMem hAfterId (pending_of_complete hAdvance)
    · by_cases hEq : own = key
      · subst hEq
        rw [(h.complete hFlow hMem hId hAdvance).1]
        split
        · exact .inl (by simp)
        · exact .inr (by rw [count_cons_self]; omega)
      · left
        rwa [facts_replace_eq h.wellFormed hMem hAfterId
          (ledgerFacts_complete_of_ne hAdvance hEq)]
  | recover _ _ _ _ _ _ _ _ _ _ _ hMem _ _ hOutcome _ hAdvance =>
    have hAfterId := (ledgerFacts_append hAdvance key).1
    refine ⟨fun id ordinal hAt => ?_, .inl ?_⟩
    · exact hAt.of_replace h.wellFormed hMem hAfterId
        (pending_of_append hAdvance fun _ => ne_pending_of_isRecoverable hOutcome)
    · rcases h.wellFormed.replace_split hMem hAfterId with ⟨front, back, hSpool, hAfter⟩
      rw [hSpool, facts_split] at hFacts
      rw [hAfter, facts_split, (ledgerFacts_append hAdvance key).2]
      simp only [ne_eq, append_eq_nil_iff, not_and] at hFacts ⊢
      exact fun hLeft => hFacts ⟨hLeft.1, hLeft.2.1⟩
  | _ => exact ⟨fun _ _ h => h, .inl hFacts⟩

/-- The failed completions of a key only grow, and they grow only where the facts of the
key are one `Pending`. -/
theorem Inv.failures (h : Inv sys) (hMoves : Moves sys event sys') (key : IdempotencyKey P) :
    sys'.failures.count key = sys.failures.count key ∨
      sys.failures.count key < sys'.failures.count key ∧ facts key sys.spool = [.pending] := by
  cases hMoves with
  | complete _ outcome _ own _ _ _ _ _ hMem _ _ hAdvance =>
    by_cases hSticky : outcome.isStickyReplayProof
    · rw [if_pos hSticky]
      exact .inl rfl
    rw [if_neg hSticky]
    by_cases hEq : own = key
    · subst hEq
      rw [count_cons_self]
      exact .inr ⟨Nat.lt_succ_self _, Inv.complete_facts hAdvance h hMem⟩
    · exact .inl (count_cons_of_ne hEq)
  | _ => exact .inl rfl

/-- Every pending place of the key in the second spool is one in the first. -/
def NoNewPending (key : IdempotencyKey P) (spool spool' : Spool P) : Prop :=
  ∀ executionId ordinal, PendingAt key spool' executionId ordinal →
    PendingAt key spool executionId ordinal

/-- A key with a fact gets no pending record over a whole run in which none of its
reservations is completed as failed. -/
theorem run_noNewPending (h : Inv sys) (hRun : run sys events = some sys')
    (hFacts : facts key sys.spool ≠ []) (hCount : sys'.failures.count key = sys.failures.count key) :
    NoNewPending key sys.spool sys'.spool := by
  -- until the first failed completion, the key keeps a fact
  have hEnd := foldlM_preserves step (fun now => Inv now ∧
      sys.failures.count key ≤ now.failures.count key ∧
      (now.failures.count key = sys.failures.count key →
        facts key now.spool ≠ [] ∧ NoNewPending key sys.spool now.spool))
    ?_ events hRun ⟨h, Nat.le_refl _, fun _ => ⟨hFacts, fun _ _ hAt => hAt⟩⟩
  · exact (hEnd.2.2 hCount).2
  intro now event next ⟨hNow, hGrown, hKeep⟩ hStep
  have hMoves := step_moves hNow.wellFormed hStep
  have hMore := hNow.failures hMoves key
  refine ⟨hNow.moves hMoves, by omega, fun hSame => ?_⟩
  rcases hKeep (by omega) with ⟨hSome, hOld⟩
  have hKept := hNow.keeps hMoves hSome
  constructor
  · rcases hKept.facts with hStill | hLost
    · exact hStill
    · omega
  · exact fun id ordinal hAt => hOld id ordinal (hKept.pending id ordinal hAt)

theorem pending_mem_facts :
    .pending ∈ facts key spool ↔ ∃ executionId ordinal, PendingAt key spool executionId ordinal := by
  constructor
  · intro hFact
    rcases mem_facts.mp hFact with ⟨ledger, hMem, hIn⟩
    rcases mem_map.mp (mem_stickyOf.mp hIn).1 with ⟨record, hRecord, hEntry⟩
    rcases Prod.mk.inj hEntry with ⟨hKey, hPending⟩
    exact ⟨_, _, ledger, hMem, rfl, record, hRecord, rfl, hKey, hPending⟩
  · rintro ⟨_, _, ledger, hMem, _, record, hRecord, _, hKey, hPending⟩
    exact hPending ▸ mem_facts_of_record hMem hRecord hKey (by rw [hPending]; rfl)

/-- A settled key stays settled over every run: nothing can fail any more. -/
theorem run_settled (h : Inv sys) (hRun : run sys events = some sys')
    (hFacts : facts key sys.spool ≠ []) (hSettled : .pending ∉ facts key sys.spool) :
    .pending ∉ facts key sys'.spool := by
  have hEnd := foldlM_preserves step (fun now => Inv now ∧ facts key now.spool ≠ [] ∧
      .pending ∉ facts key now.spool) ?_ events hRun ⟨h, hFacts, hSettled⟩
  · exact hEnd.2.2
  intro now event next ⟨hNow, hSome, hNone⟩ hStep
  have hMoves := step_moves hNow.wellFormed hStep
  have hKept := hNow.keeps hMoves hSome
  have hSame : next.failures.count key = now.failures.count key := by
    rcases hNow.failures hMoves key with hSame | ⟨_, hPending⟩
    · exact hSame
    · exact absurd (hPending ▸ mem_singleton_self _) hNone
  refine ⟨hNow.moves hMoves, ?_, fun hPending => hNone ?_⟩
  · rcases hKept.facts with hStill | hLost
    · exact hStill
    · omega
  · rcases pending_mem_facts.mp hPending with ⟨id, ordinal, hAt⟩
    exact pending_mem_facts.mpr ⟨id, ordinal, hKept.pending id ordinal hAt⟩

/-- **At-most-once dispatch.**  In every reachable state of the shared system: once a
ledger holds a `Pending` or `Success` record for a key, no further `Pending` record of
it is written to any ledger over any run in which no reservation of the key is completed
as failed, and after a `Success` record over no run at all; neither the spool nor a scan
in progress ever shows a conflict; and the key was dispatched at most once more than it
was completed as failed. -/
theorem pending_written_once {sys : System P} (hReach : Reach sys) (key : IdempotencyKey P) :
    (Holds key sys.spool → ∀ (events : List (Event P)) (sys' : System P),
      run sys events = some sys' →
      sys'.failures.count key = sys.failures.count key ∨ Succeeded key sys.spool →
      NoNewPending key sys.spool sys'.spool) ∧
    (∃ selected, selectAuthoritativeDurableOutcome key
      (sys.spool.flatMap (observationsIn key)) = .ok selected) ∧
    (∀ nowMs unread seen highWaterMs, Flow.scanning key nowMs unread seen highWaterMs ∈ sys.flows →
      ∃ selected, selectAuthoritativeDurableOutcome key seen = .ok selected) ∧
    sys.effects.count key ≤ sys.failures.count key + 1 := by
  have hInv := reach_inv hReach
  refine ⟨fun hHolds events sys' hRun hWhen => ?_, ?_, ?_, ?_⟩
  · rcases hWhen with hCount | hSucceeded
    · exact run_noNewPending hInv hRun hHolds.facts_ne_nil hCount
    · rcases hSucceeded.mem_facts with ⟨result, hFact⟩
      have hNone : .pending ∉ facts key sys.spool := fun hPending =>
        StepOutcome.noConfusion ((hInv.agreed key).eq hPending hFact)
      exact fun id ordinal hAt => absurd (pending_mem_facts.mpr ⟨id, ordinal, hAt⟩)
        (run_settled hInv hRun hHolds.facts_ne_nil hNone)
  · have hFact : ∀ o ∈ sys.spool.flatMap (observationsIn key),
        o.outcome.isStickyReplayProof → o.outcome ∈ facts key sys.spool := by
      intro o ho hSticky
      rcases mem_flatMap.mp ho with ⟨ledger, hMem, hIn⟩
      exact mem_facts.mpr ⟨ledger, hMem, (mem_observationsIn hSticky).mp ⟨o, hIn, rfl⟩⟩
    rcases selectAuthoritativeDurableOutcome_ok key _ fun a ha b hb hStickyA hStickyB =>
      (hInv.agreed key).eq (hFact a ha hStickyA) (hFact b hb hStickyB) with ⟨selected, hSelect, _⟩
    exact ⟨selected, hSelect⟩
  · intro nowMs unread seen highWaterMs hFlow
    rcases selectAuthoritativeDurableOutcome_ok key seen (hInv.seen_agree (hInv.flows _ hFlow))
      with ⟨selected, hSelect, _⟩
    exact ⟨selected, hSelect⟩
  · refine Nat.le_trans (hInv.budget key) (Nat.add_le_add_left ?_ _)
    unfold spent
    split <;> omega

theorem reach_of_run (h : Reach sys) (hRun : run sys events = some sys') : Reach sys' :=
  foldlM_preserves step Reach (fun _ event _ hNow hStep => .step event hNow hStep) events hRun h

theorem PendingAt.holds (h : PendingAt key spool executionId ordinal) : Holds key spool := by
  rcases h with ⟨ledger, hMem, _, record, hRecord, _, hKey, hPending⟩
  exact ⟨ledger, hMem, record, hRecord, hKey, .inl hPending⟩

instance (key : IdempotencyKey P) (spool : Spool P) (executionId : String) (ordinal : Nat) :
    Decidable (PendingAt key spool executionId ordinal) := by
  unfold PendingAt
  infer_instance

/-! ### One key, reserved and then retried -/

/-- An action key of the platform whose digests are all alike. -/
def sendKey : IdempotencyKey flatPlatform := IdempotencyKey.new flatPlatform "plan" "step" "send"

/-- The state in which a process has recorded `Pending` for the key. -/
def reservedSystem : Option (System flatPlatform) :=
  run (System.init flatPlatform)
    [.spawn, .createLedger "exec-1" "plan" 7, .acquireKeyLease 0 sendKey 100, .scanNext 0,
      .refresh 0 1000, .bindKeyLease 0 "exec-1", .recordReserved 0 .pending .low "agent" 100]

/-- The process dispatches and succeeds. -/
def successEvents : List (Event flatPlatform) :=
  [.dispatch 0, .completeReserved 0 (.success none) 100]

/-- The process dispatches and fails; when the failure has aged out, a second run of the
plan reserves the same key in its own ledger. -/
def retryEvents : List (Event flatPlatform) :=
  [.dispatch 0, .completeReserved 0 (.failed "E1" "step failed" false) 100,
    .createLedger "exec-2" "plan" 7, .acquireKeyLease 0 sendKey 5000, .scanNext 0, .scanNext 0,
    .refresh 0 1000, .bindKeyLease 0 "exec-2", .recordReserved 0 .pending .low "agent" 5000]

/-- The reservation that succeeds. -/
theorem pending_written_once_success :
    ∃ sys, reservedSystem = some sys ∧ Holds sendKey sys.spool ∧
      ∃ sys', run sys successEvents = some sys' ∧ NoNewPending sendKey sys.spool sys'.spool := by
  have hRun : ∃ sys ∈ reservedSystem, PendingAt sendKey sys.spool "exec-1" 0 ∧
      ∃ sys' ∈ run sys successEvents,
        sys'.failures.count sendKey = sys.failures.count sendKey := by decide +kernel
  rcases hRun with ⟨sys, hSys, hPending, sys', hSys', hCount⟩
  have hHolds := hPending.holds
  exact ⟨sys, hSys, hHolds, sys', hSys',
    (pending_written_once (reach_of_run .init hSys) sendKey).1 hHolds _ _ hSys' (.inl hCount)⟩

/-- Without the proviso the first part fails: the reservation that fails is retried in
another ledger. -/
theorem pending_written_again :
    ¬ ∀ (sys : System flatPlatform), Reach sys → ∀ key, key.isCompensation = false →
      Holds key sys.spool → ∀ events sys', run sys events = some sys' →
        NoNewPending key sys.spool sys'.spool := by
  intro hAll
  have hRun : ∃ sys ∈ reservedSystem, PendingAt sendKey sys.spool "exec-1" 0 ∧
      ¬ PendingAt sendKey sys.spool "exec-2" 0 ∧
      ∃ sys' ∈ run sys retryEvents, PendingAt sendKey sys'.spool "exec-2" 0 := by decide +kernel
  rcases hRun with ⟨sys, hSys, hFirst, hNot, sys', hSys', hAgain⟩
  exact hNot (hAll sys (reach_of_run .init hSys) sendKey (by decide +kernel) hFirst.holds _ _
    hSys' "exec-2" 0 hAgain)

/-- **An effect is sent behind its record only**: when it is sent, the one sticky record of its key
in all ledgers is the `Pending` record. -/
theorem effect_behind_pending {sys sys' : System P} {event : Event P} (hReach : Reach sys)
    (hStep : step sys event = some sys') (hSent : sys'.effects ≠ sys.effects) :
    ∃ key, sys'.effects = key :: sys.effects ∧ facts key sys.spool = [.pending] := by
  have hInv := reach_inv hReach
  cases step_moves hInv.wellFormed hStep with
  | dispatch _ key _ hFlow hRecorded =>
    have hOk := hInv.flows _ (mem_of_getElem? hFlow)
    rw [FlowOk, if_pos hRecorded] at hOk
    exact ⟨key, rfl, (hInv.agreed key).eq_singleton hOk⟩
  | _ => exact absurd rfl hSent

theorem effect_behind_pending_send : ∃ sys ∈ reservedSystem, ∃ sys' ∈ step sys (.dispatch 0), ∃ key,
    sys'.effects = key :: sys.effects ∧ facts key sys.spool = [.pending] := by
  have hRun : ∃ sys ∈ reservedSystem, ∃ sys' ∈ step sys (.dispatch 0),
      sys'.effects ≠ sys.effects := by decide +kernel
  obtain ⟨sys, hSys, sys', hStep, hSent⟩ := hRun
  exact ⟨sys, hSys, sys', hStep, effect_behind_pending (reach_of_run .init hSys) hStep hSent⟩

end FrankenTerm.Ports.TxAtMostOnce
