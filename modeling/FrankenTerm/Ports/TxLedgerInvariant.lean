import FrankenTerm.Ports.TxLedger

/-!
# The ledger invariant and the reload round trip

Every call on a ledger either fails and returns the ledger it was given, or advances
it in one of four ways (`Advance`): a record is pushed, a reservation is rewritten and
the suffix of the chain is hashed again, an open phase is entered, or the ledger is
sealed with a certificate.  `Sound` is kept by each of them, and it is what the chain
verification and the deserialiser check.

## Main results

* `Kept.run_cases` — the inversion of a call on a sound ledger.
* `Advance.sound` — an advance keeps the invariant.
* `Kept.verifyChain_intact`, `Sound.roundTrips` — a sound ledger verifies and reloads.
* `ledger_sound_and_reloads` — all of this for every sequence of calls on a new ledger.
-/

namespace FrankenTerm.Ports.TxLedgerInvariant

open Verified.Serde Verified.HashChain TxRecord TxLedger TxExecutionLedger List

variable {P : Platform}

/-! ## The invariant -/

/-- An open ledger has no certificate; a terminal one has unambiguous records and a
certificate that the ledger accepts. -/
def Certified (ledger : TxExecutionLedger P) : Prop :=
  if ledger.phase.isTerminal then
    ambiguousOrdinals ledger.records = [] ∧ ∃ cert, ledger.terminalCertificate = some cert ∧
        ledger.validateCertificateAgainstLedger cert ledger.phase = .ok ()
  else ledger.terminalCertificate = none

/-- The entry of a record in the key index. -/
def indexEntry (record : StepExecutionRecord P) : IdempotencyKey P × Nat :=
  (record.idemKey, record.ordinal)

/-- The record belongs to the ledger of this execution and plan. -/
def Owned (ledger : TxExecutionLedger P) (record : StepExecutionRecord P) : Prop :=
  record.executionId = ledger.executionId ∧ record.idemKey.planId = ledger.planId

/-- The plan and every step have a name; the deserialiser refuses a ledger otherwise. -/
def Named (ledger : TxExecutionLedger P) : Prop :=
  ledger.planId ≠ "" ∧ ∀ record ∈ ledger.records, record.idemKey.stepId ≠ ""

/-- The invariant of a ledger, whatever its id. -/
structure Kept (ledger : TxExecutionLedger P) : Prop where
  owned : ∀ record ∈ ledger.records, Owned ledger record
  ordinals : ledger.records.map (·.ordinal) = List.range ledger.records.length
  ordered : (ledger.records.map (·.timestampMs)).Pairwise (· ≤ ·)
  distinct : (ledger.records.map (·.idemKey)).Nodup
  indexed : ledger.keyIndex = ledger.records.map indexEntry
  counted : ledger.nextOrdinal = ledger.records.length
  linked : Linked StepExecutionRecord.hash (·.prevHash) "" ledger.records
  anchored : ledger.lastHash = lastRecordHash ledger.records
  certified : Certified ledger

/-- The invariant of a ledger that can be loaded again. -/
structure Sound (ledger : TxExecutionLedger P) : Prop extends Kept ledger where
  executionId : isValidExecutionId ledger.executionId = true

/-- A new ledger is sound. -/
theorem kept_new (executionId planId : String) (planHash : Nat) :
    Kept (new P executionId planId planHash) where
  owned := by simp [new]
  ordinals := rfl
  ordered := List.Pairwise.nil
  distinct := List.Pairwise.nil
  indexed := rfl
  counted := rfl
  linked := trivial
  anchored := rfl
  certified := rfl

/-! ## The key index -/

variable {ledger : TxExecutionLedger P} {records : List (StepExecutionRecord P)}

/-- The index of some records has no entry exactly for the keys that none of them has. -/
theorem lookup_indexEntry_eq_none {key : IdempotencyKey P} :
    (records.map indexEntry).lookup key = none ↔ key ∉ records.map (·.idemKey) := by
  induction records with
  | nil => simp
  | cons record _ ih =>
    rw [map_cons, indexEntry, lookup_cons, map_cons, mem_cons, not_or, ← ih]
    by_cases hEq : key = record.idemKey
    · simp [hEq]
    · simp [hEq, beq_eq_false_iff_ne.mpr hEq]

/-- Distinct keys are all found at their own ordinal. -/
theorem lookup_indexEntry (hDistinct : (records.map (·.idemKey)).Nodup)
    {record : StepExecutionRecord P}
    (hRecord : record ∈ records) :
    (records.map indexEntry).lookup record.idemKey = some record.ordinal := by
  induction records with
  | nil => simp at hRecord
  | cons first _ ih =>
    rw [map_cons, nodup_cons] at hDistinct
    rw [map_cons, indexEntry, lookup_cons]
    rcases mem_cons.mp hRecord with rfl | hRest
    · simp
    · have hNe : record.idemKey ≠ first.idemKey := by
        intro hEq
        exact hDistinct.1 (hEq ▸ mem_map_of_mem hRest)
      simp only [beq_eq_false_iff_ne.mpr hNe]
      exact ih hDistinct.2 hRest

/-- Inserting a key that is not there adds its entry at the end. -/
theorem insert_indexEntry {record : StepExecutionRecord P}
    (h : record.idemKey ∉ records.map (·.idemKey)) :
    KeyIndex.insert (records.map indexEntry) record.idemKey record.ordinal =
      (records ++ [record]).map indexEntry := by
  have hKeep : (records.map indexEntry).filter (fun entry => entry.1 ≠ record.idemKey) =
      records.map indexEntry := by
    rw [filter_eq_self]
    intro entry hEntry
    rcases mem_map.mp hEntry with ⟨other, hOther, rfl⟩
    simp only [decide_eq_true_eq]
    intro hEq
    exact h (mem_map.mpr ⟨other, hOther, hEq⟩)
  unfold KeyIndex.insert
  rw [hKeep, map_append]
  rfl

private theorem foldlM_indexRecord (rest done : List (StepExecutionRecord P))
    (h : ((done ++ rest).map (·.idemKey)).Nodup) :
    rest.foldlM indexRecord (done.map indexEntry) = .ok ((done ++ rest).map indexEntry) := by
  induction rest generalizing done with
  | nil =>
    rw [append_nil]
    rfl
  | cons record rest ih =>
    have hNew : record.idemKey ∉ done.map (·.idemKey) := by
      rw [map_append, nodup_append] at h
      intro hMem
      exact h.2.2 _ hMem record.idemKey (by simp) rfl
    have hStep : indexRecord (done.map indexEntry) record =
        .ok ((done ++ [record]).map indexEntry) := by
      unfold indexRecord
      rw [lookup_indexEntry_eq_none.mpr hNew, insert_indexEntry hNew]
    have hSplit : done ++ record :: rest = (done ++ [record]) ++ rest := by simp
    rw [foldlM_cons, hStep, hSplit]
    exact ih (done ++ [record]) (hSplit ▸ h)

/-! ## Calls -/

variable (P) in
/-- A call of one of the three operations. -/
inductive Call where
  | append (idemKey : IdempotencyKey P) (outcome : StepOutcome) (risk : StepRisk)
      (agentId : String) (timestampMs : Nat)
  | completePending (idemKey : IdempotencyKey P) (outcome : StepOutcome) (timestampMs : Nat)
  | transitionPhase (next : TxPhase)

/-- The error or the success of a call, and the ledger it leaves behind. -/
def Call.run (call : Call P) (ledger : TxExecutionLedger P) :
    Except IdempotencyError Unit × TxExecutionLedger P :=
  match call with
  | append idemKey outcome risk agentId timestampMs =>
    let (result, after) := ledger.append idemKey outcome risk agentId timestampMs
    (result.map fun _ => (), after)
  | completePending idemKey outcome timestampMs =>
    let (result, after) := ledger.completePending idemKey outcome timestampMs
    (result.map fun _ => (), after)
  | transitionPhase next =>
    let (result, after) := ledger.transitionPhase next
    (result.map fun _ => (), after)

/-- The key of an appended record names a step. -/
def Call.NamesStep : Call P → Prop
  | append idemKey _ _ _ _ => idemKey.stepId ≠ ""
  | _ => True

/-- What a successful call does to a sound ledger. -/
inductive Advance (ledger : TxExecutionLedger P) : Call P → TxExecutionLedger P → Prop where
  | append (idemKey : IdempotencyKey P) (outcome : StepOutcome) (risk : StepRisk)
      (agentId : String) (timestampMs : Nat)
      (hOpen : ledger.phase.isTerminal = false) (hPlan : idemKey.planId = ledger.planId)
      (hTime : (ledger.records.getLast?.map (·.timestampMs)).getD 0 ≤ timestampMs)
      (hNew : idemKey ∉ ledger.records.map (·.idemKey)) :
      Advance ledger (.append idemKey outcome risk agentId timestampMs)
        (ledger.push (ledger.nextRecord idemKey outcome risk agentId timestampMs))
  | complete (idemKey : IdempotencyKey P) (outcome : StepOutcome) (timestampMs : Nat)
      (index : Nat) (record : StepExecutionRecord P)
      (hOpen : ledger.phase.isTerminal = false)
      (hRecord : ledger.records[index]? = some record) (hKey : record.idemKey = idemKey)
      (hPending : record.outcome = .pending)
      (hOutcome : outcome.isAmbiguousReplayOutcome = false)
      (hOwn : record.timestampMs ≤ timestampMs)
      (hNext : ∀ next, ledger.records[index + 1]? = some next → timestampMs ≤ next.timestampMs) :
      Advance ledger (.completePending idemKey outcome timestampMs)
        (ledger.rewrite index record outcome timestampMs)
  | enter (next : TxPhase) (hOpen : ledger.phase.isTerminal = false)
      (hNext : next.isTerminal = false) :
      Advance ledger (.transitionPhase next) { ledger with phase := next }
  | certify (next : TxPhase) (cert : TerminalDispositionCertificate)
      (hNext : next.isTerminal = true) (hClear : ambiguousOrdinals ledger.records = [])
      (hCert : ledger.validateCertificateAgainstLedger cert next = .ok ()) :
      Advance ledger (.transitionPhase next)
        { ledger with terminalCertificate := some cert, phase := next }

/-- The certificate that the ledger synthesises is one that it accepts. -/
theorem validate_of_synthesize {next : TxPhase} {cert : TerminalDispositionCertificate}
    (h : ledger.synthesizeTerminalCertificate next = .ok cert) :
    ledger.validateCertificateAgainstLedger cert next = .ok () := by
  unfold synthesizeTerminalCertificate at h
  dsimp only at h
  split at h
  · cases h
  rename_i disposition hDisposition
  cases h
  simp only [validateCertificateAgainstLedger, ne_eq, not_true_eq_false,
    if_false, TerminalDispositionCertificate.checkDisposition]
  generalize actualSteps ledger.records = actual at hDisposition ⊢
  unfold synthesizeDisposition at hDisposition
  cases next with
  | completed =>
    dsimp only at hDisposition
    split at hDisposition
    · cases hDisposition
      simp_all
    · split at hDisposition
      · cases hDisposition
        simp_all
      · cases hDisposition
  | aborted =>
    dsimp only at hDisposition
    split at hDisposition
    · rename_i hAll
      have hSome : actual.completed ≠ [] := hAll.2 ▸ hAll.1
      cases hDisposition
      simp [hAll.2, hSome]
    · cases hDisposition
      simp
  | _ => cases hDisposition

theorem isTerminal_of_canTransitionTo {phase next : TxPhase}
    (h : phase.canTransitionTo next) : phase.isTerminal = false := by
  cases phase <;> first | rfl | (cases next <;> cases h)

namespace Kept

variable (h : Kept ledger)
include h

/-- The index of a sound ledger never needs to be rebuilt. -/
theorem selfHeal : ledger.selfHeal = .ok ledger := by
  unfold TxExecutionLedger.selfHeal
  rw [h.indexed]
  cases ledger.records <;> rfl

theorem terminalCertificate (hOpen : ledger.phase.isTerminal = false) :
    ledger.terminalCertificate = none := by
  have hCertified := h.certified
  rwa [Certified, hOpen, if_neg Bool.false_ne_true] at hCertified

/-- The record with ordinal `i` stands at index `i`. -/
theorem ordinal_getElem {i : Nat} {record : StepExecutionRecord P}
    (hRecord : ledger.records[i]? = some record) : record.ordinal = i := by
  have hMap : (ledger.records.map (·.ordinal))[i]? = some record.ordinal := by
    rw [getElem?_map, hRecord]
    rfl
  rw [h.ordinals, getElem?_eq_some_iff] at hMap
  rcases hMap with ⟨_, hEq⟩
  rw [getElem_range] at hEq
  exact hEq.symm

/-- The index leads to the record with that key. -/
theorem getElem_of_lookup {key : IdempotencyKey P} {ordinal : Nat}
    (hFound : ledger.keyIndex.lookup key = some ordinal) :
    ∃ record, ledger.records[ordinal]? = some record ∧ record.idemKey = key := by
  rw [h.indexed, lookup_eq_some_iff] at hFound
  rcases hFound with ⟨front, back, hSplit, _⟩
  have hMem : (key, ordinal) ∈ ledger.records.map indexEntry := by
    rw [hSplit]
    simp
  rcases mem_map.mp hMem with ⟨record, hRecord, hEntry⟩
  rcases getElem?_of_mem hRecord with ⟨i, hi⟩
  have hOrdinal : ordinal = i := (Prod.mk.inj hEntry).2 ▸ h.ordinal_getElem hi
  exact ⟨record, hOrdinal ▸ hi, (Prod.mk.inj hEntry).1⟩

/-! ### What a call does -/

/-- A failing call returns the ledger it was given. -/
def Unchanged (ledger : TxExecutionLedger P)
    (result : Except IdempotencyError Unit × TxExecutionLedger P) : Prop :=
  ∃ err, result = (.error err, ledger)

/-- The call fails and changes nothing, or it succeeds and advances the ledger. -/
def Settles (ledger : TxExecutionLedger P) (call : Call P) : Prop :=
  Unchanged ledger (call.run ledger) ∨
    ∃ after, call.run ledger = (.ok (), after) ∧ Advance ledger call after

theorem append_cases (idemKey : IdempotencyKey P) (outcome : StepOutcome)
    (risk : StepRisk) (agentId : String) (timestampMs : Nat) :
    Settles ledger (.append idemKey outcome risk agentId timestampMs) := by
  unfold Settles Call.run append
  dsimp only
  split
  · exact .inl ⟨_, rfl⟩
  rename_i hOpen
  split
  · exact .inl ⟨_, rfl⟩
  rename_i hPlan
  split
  · exact .inl ⟨_, rfl⟩
  rename_i hTime
  rw [h.selfHeal]
  dsimp only
  cases hFound : ledger.keyIndex.lookup idemKey with
  | some => exact .inl ⟨_, rfl⟩
  | none =>
    rw [h.indexed] at hFound
    exact .inr ⟨_, rfl, .append idemKey outcome risk agentId timestampMs
      (Bool.eq_false_iff.mpr hOpen) (not_not.mp hPlan) (Nat.le_of_not_lt hTime)
      (lookup_indexEntry_eq_none.mp hFound)⟩

theorem completePending_cases (idemKey : IdempotencyKey P)
    (outcome : StepOutcome) (timestampMs : Nat) :
    Settles ledger (.completePending idemKey outcome timestampMs) := by
  unfold Settles Call.run completePending
  dsimp only
  split
  · exact .inl ⟨_, rfl⟩
  rename_i hOpen
  rw [h.selfHeal]
  dsimp only
  cases hFound : ledger.keyIndex.lookup idemKey with
  | none => exact .inl ⟨_, rfl⟩
  | some ordinal =>
  dsimp only
  cases hIndex : ledger.records.findFinIdx? (fun record => record.ordinal = ordinal) with
  | none => exact .inl ⟨_, rfl⟩
  | some index =>
  dsimp only
  split
  · exact .inl ⟨_, rfl⟩
  rename_i hPending
  split
  · exact .inl ⟨_, rfl⟩
  rename_i hOutcome
  split
  · exact .inl ⟨_, rfl⟩
  rename_i hTime
  refine .inr ⟨_, rfl, .complete idemKey outcome timestampMs index ledger.records[index]
    (Bool.eq_false_iff.mpr hOpen) (getElem?_eq_getElem index.isLt) ?_ ?_
    (Bool.eq_false_iff.mpr hOutcome) ?_ ?_⟩
  · rcases h.getElem_of_lookup hFound with ⟨record, hRecord, hKey⟩
    have hOrdinal : ledger.records[index].ordinal = ordinal := by
      have hFind := findFinIdx?_eq_some_iff.mp hIndex
      simpa using hFind.1
    have hSame : index.val = ordinal :=
      (h.ordinal_getElem (getElem?_eq_getElem index.isLt)).symm.trans hOrdinal
    rw [← hSame, getElem?_eq_getElem index.isLt] at hRecord
    exact (Option.some.inj hRecord) ▸ hKey
  · exact StepOutcome.isPending_iff.mp (Bool.not_eq_false _ ▸ hPending)
  · exact Nat.le_of_not_lt fun hLt => hTime (.inl (Nat.lt_of_lt_of_le hLt (Nat.le_max_right _ _)))
  · intro next hNext
    refine Nat.le_of_not_lt fun hLt => hTime (.inr ?_)
    rw [hNext]
    simpa using hLt

theorem transitionPhase_cases (next : TxPhase) :
    Settles ledger (.transitionPhase next) := by
  unfold Settles Call.run transitionPhase
  dsimp only
  split
  · exact .inl ⟨_, rfl⟩
  rename_i hValid
  have hOpen := isTerminal_of_canTransitionTo (Bool.not_eq_false _ ▸ hValid)
  by_cases hNext : next.isTerminal
  case neg =>
    rw [if_neg hNext]
    exact .inr ⟨_, rfl, .enter next hOpen (Bool.eq_false_iff.mpr hNext)⟩
  rw [if_pos hNext, h.terminalCertificate hOpen]
  split
  · exact .inl ⟨_, rfl⟩
  rename_i hClear
  cases hCert : ledger.synthesizeTerminalCertificate next with
  | error => exact .inl ⟨_, rfl⟩
  | ok cert =>
    exact .inr ⟨_, rfl, .certify next cert hNext (not_not.mp hClear) (validate_of_synthesize hCert)⟩

/-- A call on a sound ledger fails and changes nothing, or advances it. -/
theorem run_cases (call : Call P) : Settles ledger call := by
  cases call with
  | append idemKey outcome risk agentId timestampMs =>
    exact h.append_cases idemKey outcome risk agentId timestampMs
  | completePending idemKey outcome timestampMs =>
    exact h.completePending_cases idemKey outcome timestampMs
  | transitionPhase next => exact h.transitionPhase_cases next

/-- A call that succeeds on a sound ledger is an advance. -/
theorem advance {call : Call P} {after : TxExecutionLedger P}
    (hRun : call.run ledger = (.ok (), after)) : Advance ledger call after := by
  rcases h.run_cases call with ⟨err, hErr⟩ | ⟨done, hDone, hAdvance⟩
  · rw [hErr] at hRun
    cases (Prod.mk.inj hRun).1
  · rw [hDone] at hRun
    exact (Prod.mk.inj hRun).2 ▸ hAdvance

end Kept

/-! ## An advance keeps the invariant -/

theorem lastRecordHash_eq_tip (records : List (StepExecutionRecord P)) :
    lastRecordHash records = tip StepExecutionRecord.hash "" records :=
  (tip_eq_getLast? _ "" records).symm

/-- Appending a time that is not before the last one. -/
private theorem pairwise_snoc {times : List Nat} {t : Nat} (h : times.Pairwise (· ≤ ·))
    (hLast : times.getLast?.getD 0 ≤ t) : (times ++ [t]).Pairwise (· ≤ ·) := by
  rw [pairwise_append]
  refine ⟨h, pairwise_singleton _ _, fun a ha b hb => ?_⟩
  rw [mem_singleton.mp hb]
  refine Nat.le_trans ?_ hLast
  rw [getLast?_eq_getLast_of_ne_nil (ne_nil_of_mem ha), Option.getD_some]
  exact h.rel_getLast ha

/-- Moving one time forward, but not past the next one. -/
private theorem pairwise_set {times : List Nat} {i t own : Nat} (h : times.Pairwise (· ≤ ·))
    (hOwn : times[i]? = some own) (hForward : own ≤ t)
    (hNext : ∀ next, times[i + 1]? = some next → t ≤ next) :
    (times.set i t).Pairwise (· ≤ ·) := by
  induction times generalizing i with
  | nil => simp
  | cons _ rest ih =>
    rw [pairwise_cons] at h
    cases i with
    | zero =>
      rw [set_cons_zero, pairwise_cons]
      refine ⟨fun b hb => ?_, h.2⟩
      cases rest with
      | nil => simp at hb
      | cons second =>
        have hSecond : t ≤ second := hNext second rfl
        rcases mem_cons.mp hb with rfl | hRest
        · exact hSecond
        · exact hSecond.trans ((pairwise_cons.mp h.2).1 b hRest)
    | succ =>
      rw [set_cons_succ, pairwise_cons]
      refine ⟨fun b hb => ?_, ih h.2 hOwn hNext⟩
      rcases mem_or_eq_of_mem_set hb with hRest | rfl
      · exact h.1 b hRest
      · exact (h.1 own (mem_of_getElem? hOwn)).trans hForward

/-- Rehashing changes nothing but the links. -/
theorem map_rehashFrom {β : Type} (view : StepExecutionRecord P → β) (hView : ∀ prevHash record,
      view (setPrevHash prevHash record) = view record)
    (index : Nat) (records : List (StepExecutionRecord P)) :
    (rehashFrom index records).map view = records.map view := by
  unfold rehashFrom
  rw [map_append, map_relink _ _ view hView, ← map_append, take_append_drop]

/-- Rehashing from the first record that was changed restores the chain. -/
theorem linked_rehashFrom {index : Nat}
    (h : Linked StepExecutionRecord.hash (·.prevHash) "" (records.take index)) :
    Linked StepExecutionRecord.hash (·.prevHash) ""
      (rehashFrom index records) := by
  unfold rehashFrom
  rw [linked_append, lastRecordHash_eq_tip]
  exact ⟨h, linked_relink _ _ (fun _ _ => rfl) _ _⟩

theorem certified_of_open (hOpen : ledger.phase.isTerminal = false)
    (h : ledger.terminalCertificate = none) : Certified ledger := by
  rwa [Certified, if_neg (Bool.eq_false_iff.mp hOpen)]

/-- A pushed record keeps the invariant. -/
theorem kept_push (h : Kept ledger)
    {idemKey : IdempotencyKey P} {timestampMs : Nat} (outcome : StepOutcome) (risk : StepRisk)
    (agentId : String) (hOpen : ledger.phase.isTerminal = false)
    (hPlan : idemKey.planId = ledger.planId)
    (hTime : (ledger.records.getLast?.map (·.timestampMs)).getD 0 ≤ timestampMs)
    (hNew : idemKey ∉ ledger.records.map (·.idemKey)) :
    Kept (ledger.push (ledger.nextRecord idemKey outcome risk agentId timestampMs)) where
  owned := forall_mem_append.mpr ⟨h.owned, forall_mem_singleton.mpr ⟨rfl, hPlan⟩⟩
  ordinals := by
    show (ledger.records ++ [_]).map _ = range (ledger.records ++ [_]).length
    rw [map_append, length_append, h.ordinals, length_singleton, range_succ, ← h.counted]
    rfl
  ordered := by
    show ((ledger.records ++ [_]).map _).Pairwise _
    rw [map_append]
    exact pairwise_snoc h.ordered (by rwa [getLast?_map])
  distinct := by
    show ((ledger.records ++ [_]).map _).Nodup
    rw [map_append, map_singleton, nodup_append]
    refine ⟨h.distinct, nodup_singleton _, fun key hKey other hOther => ?_⟩
    rw [mem_singleton.mp hOther]
    intro hEq
    have hSame : key = idemKey := hEq
    exact hNew (hSame ▸ hKey)
  indexed := by
    show KeyIndex.insert ledger.keyIndex _ _ = _
    rw [h.indexed]
    exact insert_indexEntry hNew
  counted := by
    show ledger.nextOrdinal + 1 = (ledger.records ++ [_]).length
    rw [h.counted, length_append, length_singleton]
  linked := by
    refine (linked_append _ _ _ _ [_]).mpr ⟨h.linked, ?_, trivial⟩
    show ledger.lastHash = _
    rw [h.anchored, lastRecordHash_eq_tip]
  anchored := by
    show _ = lastRecordHash (ledger.records ++ [_])
    rw [lastRecordHash, getLast?_concat]
    rfl
  certified := certified_of_open hOpen (h.terminalCertificate hOpen)

/-- A view that sees neither outcome, timestamp nor link is not changed by `rewrite`. -/
theorem map_rewrite {β : Type} (view : StepExecutionRecord P → β) (hLink : ∀ prevHash record,
      view (setPrevHash prevHash record) = view record) {index : Nat} {record : StepExecutionRecord P}
    (hRecord : ledger.records[index]? = some record) (outcome : StepOutcome)
    (timestampMs : Nat) (hView : view { record with outcome, timestampMs } = view record) :
    (ledger.rewrite index record outcome timestampMs).records.map view =
      ledger.records.map view := by
  show (rehashFrom index (ledger.records.set index _)).map view = _
  rw [map_rehashFrom view hLink, map_set, hView]
  refine ext_getElem? fun i => ?_
  rw [getElem?_set]
  split
  · rename_i hEq
    subst hEq
    split
    · rw [getElem?_map, hRecord]
      rfl
    · rename_i hOut
      rw [getElem?_eq_none (Nat.le_of_not_lt hOut)]
  · rfl

/-- A completed reservation keeps the invariant. -/
theorem kept_rewrite (h : Kept ledger) {index : Nat}
    {record : StepExecutionRecord P} (outcome : StepOutcome) {timestampMs : Nat}
    (hOpen : ledger.phase.isTerminal = false)
    (hRecord : ledger.records[index]? = some record) (hOwn : record.timestampMs ≤ timestampMs)
    (hNext : ∀ next, ledger.records[index + 1]? = some next → timestampMs ≤ next.timestampMs) :
    Kept (ledger.rewrite index record outcome timestampMs) := by
  have hOrdinal := map_rewrite (·.ordinal) (fun _ _ => rfl) hRecord outcome timestampMs rfl
  have hKey := map_rewrite (·.idemKey) (fun _ _ => rfl) hRecord outcome timestampMs rfl
  have hEntry := map_rewrite indexEntry (fun _ _ => rfl) hRecord outcome timestampMs rfl
  have hOwner := map_rewrite (fun r => (r.executionId, r.idemKey)) (fun _ _ => rfl) hRecord
    outcome timestampMs rfl
  have hLength : (ledger.rewrite index record outcome timestampMs).records.length =
      ledger.records.length := by
    simpa using congrArg length hOrdinal
  constructor
  case owned =>
    intro other hOther
    have hMem : (other.executionId, other.idemKey) ∈
        ledger.records.map fun r => (r.executionId, r.idemKey) :=
      hOwner ▸ mem_map.mpr ⟨other, hOther, rfl⟩
    rcases mem_map.mp hMem with ⟨old, hOld, hSame⟩
    have hOwned := h.owned old hOld
    rw [Prod.mk.injEq] at hSame
    unfold Owned at hOwned ⊢
    rwa [hSame.1, hSame.2] at hOwned
  case ordinals => rw [hOrdinal, h.ordinals, hLength]
  case ordered =>
    show ((rehashFrom index (ledger.records.set index _)).map _).Pairwise _
    rw [map_rehashFrom _ (fun _ _ => rfl), map_set]
    have hAt : (ledger.records.map (·.timestampMs))[index]? = some record.timestampMs := by
      rw [getElem?_map, hRecord]
      rfl
    refine pairwise_set h.ordered hAt hOwn fun next hAfter => ?_
    rw [getElem?_map, Option.map_eq_some_iff] at hAfter
    rcases hAfter with ⟨after, hAfter, rfl⟩
    exact hNext after hAfter
  case distinct => exact hKey ▸ h.distinct
  case indexed => exact hEntry ▸ h.indexed
  case counted => exact hLength ▸ h.counted
  case linked =>
    apply linked_rehashFrom
    rw [take_set_of_le (Nat.le_refl index)]
    have hSplit := h.linked
    rw [← take_append_drop index ledger.records, linked_append] at hSplit
    exact hSplit.1
  case anchored => rfl
  case certified => exact certified_of_open hOpen (h.terminalCertificate hOpen)

/-- Every advance keeps the invariant. -/
theorem Advance.kept {after : TxExecutionLedger P} {call : Call P} (h : Kept ledger)
    (hAdvance : Advance ledger call after) : Kept after := by
  cases hAdvance with
  | append _ outcome risk agentId _ hOpen hPlan hTime hNew =>
    exact kept_push h outcome risk agentId hOpen hPlan hTime hNew
  | complete _ outcome _ _ _ hOpen hRecord _ _ _ hOwn hNext =>
    exact kept_rewrite h outcome hOpen hRecord hOwn hNext
  | enter _ hOpen hNext =>
    exact { h with certified := certified_of_open hNext (h.terminalCertificate hOpen) }
  | certify next cert hNext hClear hCert =>
    refine { h with certified := ?_ }
    show (if next.isTerminal then _ else _)
    rw [if_pos hNext]
    exact ⟨hClear, cert, rfl, hCert⟩

theorem Advance.sound {after : TxExecutionLedger P} {call : Call P} (h : Sound ledger)
    (hAdvance : Advance ledger call after) : Sound after :=
  { hAdvance.kept h.toKept with executionId := by cases hAdvance <;> exact h.executionId }

/-- A completed reservation keeps the key of every record. -/
theorem Advance.named {after : TxExecutionLedger P} {call : Call P} (h : Named ledger)
    (hCall : call.NamesStep) (hAdvance : Advance ledger call after) : Named after := by
  cases hAdvance with
  | append =>
    exact ⟨h.1, forall_mem_append.mpr ⟨h.2, forall_mem_singleton.mpr hCall⟩⟩
  | complete _ outcome timestampMs _ _ _ hRecord =>
    refine ⟨h.1, fun other hOther => ?_⟩
    have hKeys := map_rewrite (·.idemKey) (fun _ _ => rfl) hRecord outcome timestampMs rfl
    have hMem : other.idemKey ∈ ledger.records.map (·.idemKey) :=
      hKeys ▸ mem_map.mpr ⟨other, hOther, rfl⟩
    rcases mem_map.mp hMem with ⟨old, hOld, hSame⟩
    exact hSame ▸ h.2 old hOld
  | enter => exact h
  | certify => exact h

/-- A call keeps what every advance keeps, whether it succeeds or fails. -/
theorem Kept.run_induction (h : Kept ledger) {call : Call P} {Q : TxExecutionLedger P → Prop}
    (hBefore : Q ledger) (hAfter : ∀ after, Advance ledger call after → Q after) :
    Q (call.run ledger).2 := by
  rcases h.run_cases call with ⟨err, hRun⟩ | ⟨after, hRun, hAdvance⟩
  · rw [hRun]
    exact hBefore
  · rw [hRun]
    exact hAfter after hAdvance

/-- The ledger after a sequence of calls, successful or failing. -/
def runCalls (ledger : TxExecutionLedger P) (calls : List (Call P)) : TxExecutionLedger P :=
  calls.foldl (fun current call => (call.run current).2) ledger

theorem runCalls_sound (h : Sound ledger) (hNamed : Named ledger)
    (calls : List (Call P)) (hCalls : ∀ call ∈ calls, call.NamesStep) :
    Sound (runCalls ledger calls) ∧ Named (runCalls ledger calls) := by
  induction calls generalizing ledger with
  | nil => exact ⟨h, hNamed⟩
  | cons call _ ih =>
    exact ih (h.run_induction h fun _ hAdvance => hAdvance.sound h)
      (h.run_induction hNamed fun _ hAdvance => hAdvance.named hNamed (hCalls call (by simp)))
      fun next hNext => hCalls next (by simp [hNext])

/-! ## Chain verification and reload -/

/-- Over linked records with dense ordinals the walk reports nothing. -/
theorem foldl_chainWalk (records : List (StepExecutionRecord P)) (start : String) (n : Nat)
    (hLinked : Linked StepExecutionRecord.hash (·.prevHash) start records)
    (hOrdinals : records.map (·.ordinal) = List.range' n records.length) :
    records.foldl ChainWalk.step ⟨start, none, [], n⟩ =
      ⟨tip StepExecutionRecord.hash start records, none, [], n + records.length⟩ := by
  induction records generalizing start n with
  | nil => rfl
  | cons record _ ih =>
    rw [map_cons, length_cons, range'_succ, cons.injEq] at hOrdinals
    have hStep : ChainWalk.step ⟨start, none, [], n⟩ record =
        ⟨record.hash, none, [], n + 1⟩ := by
      simp [ChainWalk.step, hOrdinals.1, hLinked.1]
    rw [foldl_cons, hStep, ih record.hash (n + 1) hLinked.2 hOrdinals.2,
      length_cons, Nat.add_right_comm, ← Nat.add_assoc]
    rfl

/-- The deserialiser's loop over the records of one execution and plan. -/
theorem foldlM_checkRecord {executionId planId : String}
    (records : List (StepExecutionRecord P)) (highWater : Option Nat)
    (hOwner : ∀ record ∈ records, record.executionId = executionId ∧ record.idemKey.planId = planId)
    (hOrder : (highWater.toList ++ records.map (·.timestampMs)).Pairwise (· ≤ ·)) :
    ∃ last, records.foldlM (checkRecord executionId planId) highWater =
      .ok last := by
  induction records generalizing highWater with
  | nil => exact ⟨highWater, rfl⟩
  | cons record _ ih =>
    have hMine := hOwner record (by simp)
    rw [map_cons, pairwise_append, pairwise_cons] at hOrder
    have hTime : highWater.any (fun previous => record.timestampMs < previous) = false := by
      cases highWater with
      | none => rfl
      | some previous =>
        have hLe := hOrder.2.2 previous (by simp) record.timestampMs (by simp)
        simpa using hLe
    have hStep : checkRecord executionId planId highWater record =
        .ok (some record.timestampMs) := by
      simp [checkRecord, hMine, hTime]
    rw [foldlM_cons, hStep]
    exact ih (some record.timestampMs) (fun other hOther => hOwner other (by simp [hOther]))
      (pairwise_cons.mpr hOrder.2.1)

theorem forM_checkOrdinal (records : List (StepExecutionRecord P)) (n : Nat)
    (hOrdinals : records.map (·.ordinal) = List.range' n records.length) :
    (records.zipIdx n).forM checkOrdinal = .ok () := by
  induction records generalizing n with
  | nil => rfl
  | cons record _ ih =>
    rw [map_cons, length_cons, range'_succ, cons.injEq] at hOrdinals
    have hStep : checkOrdinal (record, n) = .ok () := by
      simp [checkOrdinal, hOrdinals.1]
    rw [zipIdx_cons, forM_eq_forM, forM_cons, hStep]
    exact ih (n + 1) hOrdinals.2

namespace Kept

variable (h : Kept ledger)
include h

theorem ordinals_range' :
    ledger.records.map (·.ordinal) = List.range' 0 ledger.records.length := by
  rw [h.ordinals, range_eq_range']

/-- A sound ledger passes its own chain verification. -/
theorem verifyChain_intact : ledger.verifyChain.chainIntact := by
  have hWalk := foldl_chainWalk ledger.records "" 0 h.linked h.ordinals_range'
  have hTip : tip StepExecutionRecord.hash "" ledger.records = ledger.lastHash := by
    rw [h.anchored, lastRecordHash_eq_tip]
  simp [verifyChain, hWalk, hTip]

theorem checkTerminal :
    TxExecutionLedger.checkTerminal { ledger with keyIndex := [] } = .ok () := by
  have hCertified := h.certified
  unfold Certified at hCertified
  unfold TxExecutionLedger.checkTerminal
  split at hCertified
  · rename_i hTerminal
    rcases hCertified with ⟨hClear, cert, hCert, hValid⟩
    simp only [hTerminal, if_true, hClear, ne_eq, not_true_eq_false, if_false, hCert]
    exact hValid
  · rename_i hOpen
    simp only [hOpen, Bool.false_eq_true, if_false]

/-- A terminal ledger has no pending or skipped record and an accepted certificate. -/
theorem terminal (hTerminal : ledger.phase.isTerminal) :
    (∀ record ∈ ledger.records, record.outcome.isAmbiguousReplayOutcome = false) ∧
      ∃ cert, ledger.terminalCertificate = some cert ∧
        ledger.validateCertificateAgainstLedger cert ledger.phase = .ok () := by
  have hCertified := h.certified
  rw [Certified, if_pos hTerminal] at hCertified
  refine ⟨fun record hRecord => ?_, hCertified.2⟩
  have hNone := map_eq_nil_iff.mp hCertified.1
  rw [filter_eq_nil_iff] at hNone
  exact Bool.eq_false_iff.mpr (hNone record hRecord)

end Kept

namespace Sound

/-- The checks of the deserialiser accept the fields of a sound ledger. -/
theorem ofSerde (h : Sound ledger) (hPlan : ledger.planId ≠ "") :
    TxExecutionLedger.ofSerde { ledger with keyIndex := [] } = .ok ledger := by
  have hOwner : ∀ record ∈ ledger.records, record.executionId = ledger.executionId ∧
      record.idemKey.planId = ledger.planId :=
    fun record hRecord => h.owned record hRecord
  rcases foldlM_checkRecord ledger.records none hOwner h.ordered with ⟨last, hRecords⟩
  have hOrdinals := forM_checkOrdinal ledger.records 0 h.ordinals_range'
  have hIndex : buildLedgerKeyIndex ledger.records = .ok (ledger.records.map indexEntry) :=
    foldlM_indexRecord _ [] h.distinct
  unfold TxExecutionLedger.ofSerde
  simp only [h.executionId, Bool.true_eq_false, if_false, hPlan, hRecords, h.checkTerminal,
    hIndex, hOrdinals, if_neg (not_not.mpr h.counted), if_neg (not_not.mpr h.anchored)]
  rw [← h.indexed]
  rfl

private theorem certificate_field (ledger : TxExecutionLedger P) :
    optField "terminal_certificate" ledger.toJson =
      Except.ok ledger.terminalCertificate := by
  unfold toJson
  cases ledger.terminalCertificate with
  | none => exact rfl
  | some =>
    refine optField_eq_ok rfl (RoundTrips.option (fun v _ => ?_) fun _ _ => nofun)
    exact TerminalDispositionCertificate.roundTrips v

private theorem ofJson_of_records (hRecords : RoundTrips ledger.records) :
    ofJson P ledger.toJson =
      TxExecutionLedger.ofSerde { ledger with keyIndex := [] } := by
  unfold ofJson
  rw [field_eq_ok rfl (roundTrips_string ledger.executionId),
    field_eq_ok rfl (roundTrips_string ledger.planId),
    field_eq_ok rfl (roundTrips_nat ledger.planHash),
    field_eq_ok rfl (TxPhase.roundTrips ledger.phase), field_eq_ok rfl hRecords,
    field_eq_ok rfl (roundTrips_string ledger.lastHash),
    field_eq_ok rfl (roundTrips_nat ledger.nextOrdinal), certificate_field ledger]
  rfl

/-- A sound ledger is read back from its serialised form unchanged, its key index
included. -/
theorem roundTrips (h : Sound ledger) (hNamed : Named ledger) : RoundTrips ledger := by
  have hRecords : RoundTrips ledger.records := RoundTrips.list fun record hRecord => by
    have hPlan : record.idemKey.planId ≠ "" := (h.owned record hRecord).2 ▸ hNamed.1
    exact StepExecutionRecord.roundTrips
      (IdempotencyKey.roundTrips hPlan (hNamed.2 record hRecord))
  show ofJson P ledger.toJson = .ok ledger
  rw [ofJson_of_records hRecords, h.ofSerde hNamed.1]

/-- Whatever its names, a sound ledger is never read back as another ledger. -/
theorem faithful (h : Sound ledger) : Faithful ledger := by
  have hRecords : Faithful ledger.records := Faithful.list fun record _ => record.faithful
  rcases hRecords with hRead | ⟨err, hErr⟩
  · by_cases hPlan : ledger.planId = ""
    · refine .inr ⟨"TxExecutionLedger plan_id must not be empty", ?_⟩
      show ofJson P ledger.toJson = _
      rw [ofJson_of_records hRead]
      unfold TxExecutionLedger.ofSerde
      simp only [h.executionId, Bool.true_eq_false, if_false, hPlan, if_true]
      rfl
    · refine .inl ?_
      show ofJson P ledger.toJson = .ok ledger
      rw [ofJson_of_records hRead, h.ofSerde hPlan]
  refine .inr ⟨err, ?_⟩
  show ofJson P ledger.toJson = .error err
  unfold ofJson
  rw [field_eq_ok rfl (roundTrips_string ledger.executionId),
    field_eq_ok rfl (roundTrips_string ledger.planId),
    field_eq_ok rfl (roundTrips_nat ledger.planHash),
    field_eq_ok rfl (TxPhase.roundTrips ledger.phase), field_eq_error rfl hErr]
  rfl

end Sound

/-- No field of a ledger is a float. -/
theorem integral_ledger (ledger : TxExecutionLedger P) : (serialize ledger).integral := by
  have hRecords : Json.integralItems (ledger.records.map serialize) := by
    rw [Json.integralItems_eq_all, List.all_map, List.all_eq_true]
    exact fun record _ => record.integral_toJson
  have hCertificate : ∀ cert ∈ ledger.terminalCertificate,
      (serialize (α := TerminalDispositionCertificate) cert).integral :=
    fun cert _ => cert.integral_toJson
  cases hCert : ledger.terminalCertificate <;>
    simp_all [serialize, toJson, Json.integral, Json.integralMembers]

/-- **Ledger invariant and reload**: after any sequence of calls, successful or
failing, on a new ledger the records are dense, ordered, uniquely keyed and chained,
the ledger verifies, a terminal phase is certified, the stored form reloads to the
same ledger exactly if it is nested no deeper than the reader goes, and the next call
changes nothing if it fails. -/
theorem ledger_sound_and_reloads (executionId planId : String) (planHash : Nat)
    (calls : List (Call P)) (hId : isValidExecutionId executionId = true) (hPlan : planId ≠ "")
    (hCalls : ∀ call ∈ calls, call.NamesStep) :
    let ledger := runCalls (new P executionId planId planHash) calls
    (∀ (i : Nat) (record : StepExecutionRecord P),
      ledger.records[i]? = some record → record.ordinal = i) ∧
    (ledger.records.map (·.timestampMs)).Pairwise (· ≤ ·) ∧
    (ledger.records.map (·.idemKey)).Nodup ∧
    (∀ record ∈ ledger.records, ledger.keyIndex.lookup record.idemKey = some record.ordinal) ∧
    ledger.nextOrdinal = ledger.records.length ∧
    ledger.lastHash = lastRecordHash ledger.records ∧
    (∀ record, ledger.records.head? = some record → record.prevHash = "") ∧
    (∀ (i : Nat) (record next : StepExecutionRecord P), ledger.records[i]? = some record →
      ledger.records[i + 1]? = some next → next.prevHash = record.hash) ∧
    ledger.verifyChain.chainIntact ∧
    (ledger.phase.isTerminal →
      (∀ record ∈ ledger.records, record.outcome.isAmbiguousReplayOutcome = false) ∧
      ∃ cert, ledger.terminalCertificate = some cert ∧
        ledger.validateCertificateAgainstLedger cert ledger.phase = .ok ()) ∧
    (P.text.reload ledger = Except.ok ledger ↔ (serialize ledger).depth ≤ 127) ∧
    ∀ call err after, Call.run call ledger = (.error err, after) → after = ledger := by
  intro ledger
  have hBoth : Sound ledger ∧ Named ledger :=
    runCalls_sound { kept_new _ planId planHash with executionId := hId }
      ⟨hPlan, by simp [new]⟩ calls hCalls
  have hSound : Sound ledger := hBoth.1
  have hReload : P.text.reload ledger = Except.ok ledger ↔ (serialize ledger).depth ≤ 127 := by
    rw [← P.limit_text]
    constructor
    · intro hSame
      by_contra hDeep
      rcases P.text.reload_of_deep (a := ledger) (by omega) with ⟨err, hErr⟩
      rw [hErr] at hSame
      cases hSame
    · intro hShallow
      rw [P.text.reload_of_shallow (integral_ledger ledger) hShallow]
      exact hSound.roundTrips hBoth.2
  refine ⟨fun _ _ hRecord => hSound.ordinal_getElem hRecord, hSound.ordered, hSound.distinct,
    fun _ hRecord => hSound.indexed ▸ lookup_indexEntry hSound.distinct hRecord,
    hSound.counted, hSound.anchored, fun _ hFirst => hSound.linked.prev_head hFirst,
    fun _ _ _ hRecord hNext => hSound.linked.prev_getElem hRecord hNext,
    hSound.verifyChain_intact, hSound.terminal, hReload,
    fun call err after hRun => ?_⟩
  rcases hSound.run_cases call with ⟨other, hSame⟩ | ⟨done, hDone, _⟩
  · rw [hSame] at hRun
    exact (Prod.mk.inj hRun).2.symm
  · rw [hDone] at hRun
    cases (Prod.mk.inj hRun).1

/-- A platform whose digests are all alike and whose texts are trees. -/
def flatPlatform : Platform where
  sha256 _ := List.replicate 32 0
  length_sha256 _ := rfl
  toVec _ := []
  debug s := s
  text := TextLayer.ofTrees 127
  limit_text := rfl

/-- Two steps are reserved and completed out of order, between failing calls. -/
def committedCalls : List (Call flatPlatform) :=
  let first := IdempotencyKey.new flatPlatform "plan" "first" "send"
  let second := IdempotencyKey.new flatPlatform "plan" "second" "send"
  [.transitionPhase .preparing, .transitionPhase .committing,
    .append first .pending .low "agent" 10, .append second .pending .high "agent" 20,
    .append first .pending .low "agent" 30, .transitionPhase .completed,
    .completePending second (.success none) 25, .completePending first (.success none) 15,
    .transitionPhase .completed, .append first .pending .low "agent" 40]

theorem ledger_sound_and_reloads_committed :
    let ledger := runCalls (new flatPlatform "exec-1" "plan" 7) committedCalls
    ledger.phase = .completed ∧ ledger.records.length = 2 ∧
      flatPlatform.text.reload ledger = Except.ok ledger := by
  have hAll := ledger_sound_and_reloads "exec-1" "plan" 7 committedCalls (by decide +kernel)
    (by decide) (by simp [committedCalls, Call.NamesStep, IdempotencyKey.new])
  have hReload := hAll.2.2.2.2.2.2.2.2.2.2.1
  exact ⟨by decide +kernel, by decide +kernel, hReload.mpr (by decide +kernel)⟩

/-- An outcome that was compensated again and again. -/
def compensatedTimes : Nat → StepOutcome
  | 0 => .success none
  | n + 1 => .compensated (compensatedTimes n) "undone"

/-- One step is recorded with an outcome that is nested 62 times. -/
def deepCalls : List (Call flatPlatform) :=
  [.append (IdempotencyKey.new flatPlatform "plan" "first" "send") (compensatedTimes 62) .low
    "agent" 10]

/-- The call succeeds, and the ledger that is stored then does not load any more. -/
theorem deep_ledger_is_refused :
    let ledger := runCalls (new flatPlatform "exec-1" "plan" 7) deepCalls
    ledger.records.length = 1 ∧ ∃ err, flatPlatform.text.reload ledger = .error err :=
  ⟨by decide +kernel, flatPlatform.text.reload_of_deep (by decide +kernel)⟩

end FrankenTerm.Ports.TxLedgerInvariant
