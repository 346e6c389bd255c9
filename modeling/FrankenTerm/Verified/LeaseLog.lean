import Mathlib

/-!
# Logs of a resource under numbered leases

A resource is created once, and from then on it belongs to whoever claimed it last.  A claim names
the current generation and opens the next one; what the owner does under its lease is numbered; a
resource that is finished takes nothing more.  Since whatever is taken names the current generation
and the next number, nothing can be taken twice, and no record of what was taken is needed to see
this.

`Takes` says what a resource takes, `Idle` how else it may change: a lease may end and a resource may
be closed at any time.  `Explains` ties a log of what was taken to the resource it has led to.

## Main results

* `Explains.take` and `Explains.idle` — the log goes on explaining the resource.
* `Logged.unrepeated` — nothing is taken twice.
* `Explains.numbered_lt` — whatever was taken under a lease is behind the resource.
-/

namespace FrankenTerm.Verified.LeaseLog

open List

variable {ω : Type}

/-- What a resource takes from owners `ω`. -/
inductive Act (ω : Type) where
  | create
  | claim (generation : Nat) (owner : ω)
  | numbered (generation : Nat) (owner : ω) (sequence : Nat)
  | finish (generation : Nat)

namespace Act

/-- The generation that a claim names. -/
def claimed : Act ω → Option Nat
  | claim generation _ => some generation
  | _ => none

/-- The number of what is done under the lease of this generation. -/
def sequenceIn (current : Nat) : Act ω → Option Nat
  | numbered generation _ sequence => if generation = current then some sequence else none
  | _ => none

def isCreate : Act ω → Bool
  | create => true
  | _ => false

theorem sequenceIn_numbered (generation : Nat) (owner : ω) (sequence : Nat) :
    (numbered generation owner sequence).sequenceIn generation = some sequence := if_pos rfl

/-- Everything but the owner. -/
def anonymous : Act ω → Act Unit
  | create => create
  | claim generation _ => claim generation ()
  | numbered generation _ sequence => numbered generation () sequence
  | finish generation => finish generation

end Act

/-- A resource: its generation, its lease with the owner and the next number, and whether it takes
nothing more. -/
structure Cell (ω : Type) where
  generation : Nat
  lease : Option (ω × Nat)
  closed : Bool

/-- How a resource changes without taking anything. -/
structure Idle (old next : Cell ω) : Prop where
  generation : next.generation = old.generation
  lease : next.lease = old.lease ∨ next.lease = none
  closed : old.closed = true → next.closed = true

theorem Idle.refl (cell : Cell ω) : Idle cell cell := ⟨rfl, .inl rfl, id⟩

/-- What a resource takes, and what becomes of it. -/
inductive Takes : Option (Cell ω) → Act ω → Cell ω → Prop where
  | create {next : Cell ω} (hGeneration : next.generation = 0) (hLease : next.lease = none) :
      Takes none .create next
  | claim {cell next : Cell ω} {owner : ω} (hOpen : cell.closed = false)
      (hGeneration : next.generation = cell.generation + 1)
      (hLease : next.lease = some (owner, 1) ∨ next.lease = none) :
      Takes (some cell) (.claim cell.generation owner) next
  | numbered {cell next : Cell ω} {owner : ω} {sequence : Nat} (hOpen : cell.closed = false)
      (hCurrent : cell.lease = some (owner, sequence))
      (hGeneration : next.generation = cell.generation)
      (hLease : next.lease = some (owner, sequence + 1) ∨ next.lease = none) :
      Takes (some cell) (.numbered cell.generation owner sequence) next
  | finish {cell next : Cell ω} (hOpen : cell.closed = false)
      (hGeneration : next.generation = cell.generation) (hLease : next.lease = none)
      (hClosed : next.closed = true) :
      Takes (some cell) (.finish cell.generation) next

/-- A closed resource takes nothing. -/
theorem Takes.not_closed {cell next : Cell ω} {act : Act ω} (h : Takes (some cell) act next) :
    cell.closed = false := by
  cases h with
  | claim hOpen | numbered hOpen | finish hOpen => exact hOpen

/-- How the log of a resource looks. -/
structure Logged (log : List (Act ω)) : Prop where
  /-- The resource is created at most once. -/
  created : log.countP Act.isCreate ≤ 1
  /-- Claims name the generations one after the other. -/
  claims : ∃ n, log.filterMap Act.claimed = List.range n
  /-- What is done under one lease is numbered from one. -/
  sequences : ∀ generation, ∃ n, log.filterMap (Act.sequenceIn generation) = List.range' 1 n
  /-- It is done by whoever claimed that lease before. -/
  owned : ∀ before generation owner sequence after,
    log = before ++ .numbered generation owner sequence :: after →
    ∃ named, generation = named + 1 ∧ Act.claim named owner ∈ before
  /-- Nothing follows the end. -/
  finished : ∀ before generation after, log = before ++ .finish generation :: after → after = []

/-- The log has led to this resource. -/
structure ExplainsCell (log : List (Act ω)) (cell : Cell ω) : Prop where
  logged : Logged log
  claims : log.filterMap Act.claimed = List.range cell.generation
  later : ∀ generation, cell.generation < generation →
    log.filterMap (Act.sequenceIn generation) = []
  lease : ∀ owner next, cell.lease = some (owner, next) →
    (∃ n, next = n + 1 ∧ log.filterMap (Act.sequenceIn cell.generation) = List.range' 1 n) ∧
      ∃ named, cell.generation = named + 1 ∧ Act.claim named owner ∈ log
  finished : ∀ generation, Act.finish generation ∈ log → cell.closed = true

/-- The log has led to this resource, or to none. -/
def Explains (log : List (Act ω)) : Option (Cell ω) → Prop
  | none => log = []
  | some cell => ExplainsCell log cell

/-! ## Logs -/

open Act

section Log

variable {log : List (Act ω)} {act : Act ω} {cell next : Cell ω}

variable {α β : Type} {x : α} {xs : List α} {f : α → Option β}

/-- Splitting a log that has become longer by one. -/
theorem append_singleton_eq {before after log : List α} {y : α}
    (h : log ++ [x] = before ++ y :: after) :
    (after = [] ∧ before = log ∧ y = x) ∨ ∃ rest, after = rest ++ [x] ∧ log = before ++ y :: rest := by
  rcases eq_nil_or_concat after with rfl | ⟨rest, last, rfl⟩
  · obtain ⟨hLog, hLast⟩ := append_inj' h rfl
    cases hLast
    exact .inl ⟨rfl, hLog.symm, rfl⟩
  · rw [concat_eq_append, ← cons_append, ← append_assoc] at h
    obtain ⟨hLog, hLast⟩ := append_inj' h rfl
    cases hLast
    exact .inr ⟨rest, concat_eq_append, hLog⟩

theorem logged_nil : Logged ([] : List (Act ω)) where
  created := Nat.zero_le 1
  claims := ⟨0, rfl⟩
  sequences := fun _ => ⟨0, rfl⟩
  owned := by
    intro before generation owner sequence after h
    cases before <;> cases h
  finished := by
    intro before generation after h
    cases before <;> cases h

/-- What a log that becomes longer has to keep. -/
theorem Logged.append (h : Logged log)
    (hCreated : act.isCreate → log.countP isCreate = 0)
    (hClaims : ∃ n, (log ++ [act]).filterMap claimed = List.range n)
    (hSequences : ∀ generation, ∃ n,
      (log ++ [act]).filterMap (sequenceIn generation) = List.range' 1 n)
    (hOwned : ∀ generation owner sequence, act = .numbered generation owner sequence →
      ∃ named, generation = named + 1 ∧ Act.claim named owner ∈ log)
    (hFinished : ∀ generation, Act.finish generation ∉ log) : Logged (log ++ [act]) where
  created := by
    have := h.created
    rw [countP_append, countP_singleton]
    split_ifs with hAct
    · rw [hCreated hAct]
    · omega
  claims := hClaims
  sequences := hSequences
  owned := by
    intro before generation owner sequence after hSplit
    rcases append_singleton_eq hSplit with ⟨_, rfl, hAct⟩ | ⟨rest, _, hLog⟩
    · exact hOwned generation owner sequence hAct.symm
    · exact h.owned before generation owner sequence rest hLog
  finished := by
    intro before generation after hSplit
    rcases append_singleton_eq hSplit with ⟨hNil, _⟩ | ⟨rest, _, hLog⟩
    · exact hNil
    · refine absurd ?_ (hFinished generation)
      rw [hLog]
      exact mem_append_right _ mem_cons_self

theorem filterMap_append_none (h : f x = none) : (xs ++ [x]).filterMap f = xs.filterMap f := by
  rw [filterMap_append, filterMap_cons_none h, filterMap_nil, append_nil]

theorem filterMap_append_some {y : β} (h : f x = some y) :
    (xs ++ [x]).filterMap f = xs.filterMap f ++ [y] := by
  rw [filterMap_append, filterMap_cons_some h, filterMap_nil]

theorem range'_one_succ (n : Nat) : List.range' 1 (n + 1) = List.range' 1 n ++ [n + 1] := by
  rw [range'_concat, Nat.one_mul, Nat.add_comm 1 n]

/-! ## Steps -/

theorem Explains.logged {cell : Option (Cell ω)} (h : Explains log cell) : Logged log := by
  cases cell with
  | none =>
    cases h
    exact logged_nil
  | some => exact ExplainsCell.logged h

/-- A resource that is not closed has not been finished. -/
theorem ExplainsCell.not_finished (h : ExplainsCell log cell) (hOpen : cell.closed = false)
    (generation : Nat) : Act.finish generation ∉ log := by
  intro hMem
  rw [h.finished generation hMem] at hOpen
  cases hOpen

theorem explains_create (hGeneration : next.generation = 0) (hLease : next.lease = none) :
    ExplainsCell [create] next where
  logged := @Logged.append ω [] .create logged_nil (fun _ => rfl) ⟨0, rfl⟩ (fun _ => ⟨0, rfl⟩)
    (fun _ _ _ h => nomatch h) (fun _ => not_mem_nil)
  claims := by
    rw [hGeneration]
    rfl
  later := fun _ _ => rfl
  lease := by
    intro owner number h
    rw [hLease] at h
    cases h
  finished := by
    intro generation h
    cases mem_singleton.mp h

theorem ExplainsCell.claim (h : ExplainsCell log cell) {owner : ω} (hOpen : cell.closed = false)
    (hGeneration : next.generation = cell.generation + 1)
    (hLease : next.lease = some (owner, 1) ∨ next.lease = none) :
    ExplainsCell (log ++ [Act.claim cell.generation owner]) next := by
  have hClaims : (log ++ [Act.claim cell.generation owner]).filterMap claimed =
      range (cell.generation + 1) := by
    rw [filterMap_append_some (rfl : claimed (.claim _ owner) = some _), h.claims, range_succ]
  have hSame : ∀ generation,
      (log ++ [Act.claim cell.generation owner]).filterMap (sequenceIn generation) =
        log.filterMap (sequenceIn generation) := fun generation => filterMap_append_none rfl
  constructor
  · refine h.logged.append (fun hCreate => nomatch hCreate) ⟨_, hClaims⟩ ?_
      (fun _ _ _ hAct => nomatch hAct) (h.not_finished hOpen)
    intro generation
    rw [hSame]
    exact h.logged.sequences generation
  · rw [hClaims, hGeneration]
  · intro generation _
    rw [hSame]
    exact h.later generation (by omega)
  · intro other number hSome
    rcases hLease with hLease | hLease
    · rw [hLease] at hSome
      cases hSome
      refine ⟨⟨0, rfl, ?_⟩, cell.generation, hGeneration, by simp⟩
      rw [hSame, h.later _ (by omega)]
      rfl
    · rw [hLease] at hSome
      cases hSome
  · intro generation hMem
    rcases mem_append.mp hMem with hMem | hMem
    · exact absurd hMem (h.not_finished hOpen generation)
    · cases mem_singleton.mp hMem

theorem ExplainsCell.numbered (h : ExplainsCell log cell) {owner : ω} {sequence : Nat}
    (hOpen : cell.closed = false) (hCurrent : cell.lease = some (owner, sequence))
    (hGeneration : next.generation = cell.generation)
    (hLease : next.lease = some (owner, sequence + 1) ∨ next.lease = none) :
    ExplainsCell (log ++ [Act.numbered cell.generation owner sequence]) next := by
  obtain ⟨⟨n, rfl, hNumbers⟩, named, hNamed, hMem⟩ := h.lease owner sequence hCurrent
  have hSame : (log ++ [Act.numbered cell.generation owner (n + 1)]).filterMap claimed =
      log.filterMap claimed := filterMap_append_none rfl
  have hOther : ∀ generation, generation ≠ cell.generation →
      (log ++ [Act.numbered cell.generation owner (n + 1)]).filterMap (sequenceIn generation) =
        log.filterMap (sequenceIn generation) :=
    fun generation hNe => filterMap_append_none (if_neg fun hEq => hNe hEq.symm)
  have hThis : (log ++ [Act.numbered cell.generation owner (n + 1)]).filterMap
      (sequenceIn cell.generation) = range' 1 (n + 1) := by
    rw [filterMap_append_some (sequenceIn_numbered _ _ _), hNumbers, range'_one_succ]
  constructor
  · refine h.logged.append (fun hCreate => nomatch hCreate) ⟨_, hSame.trans h.claims⟩ ?_ ?_
      (h.not_finished hOpen)
    · intro generation
      by_cases hEq : generation = cell.generation
      · rw [hEq]
        exact ⟨_, hThis⟩
      · rw [hOther generation hEq]
        exact h.logged.sequences generation
    · intro generation other number hAct
      cases hAct
      exact ⟨named, hNamed, hMem⟩
  · rw [hSame, hGeneration]
    exact h.claims
  · intro generation _
    rw [hOther generation (by omega)]
    exact h.later generation (by omega)
  · intro other number hSome
    rcases hLease with hLease | hLease
    · rw [hLease] at hSome
      cases hSome
      rw [hGeneration]
      exact ⟨⟨n + 1, rfl, hThis⟩, named, hNamed, mem_append_left _ hMem⟩
    · rw [hLease] at hSome
      cases hSome
  · intro generation hFinish
    rcases mem_append.mp hFinish with hFinish | hFinish
    · exact absurd hFinish (h.not_finished hOpen generation)
    · cases mem_singleton.mp hFinish

theorem ExplainsCell.finish (h : ExplainsCell log cell) (hOpen : cell.closed = false)
    (hGeneration : next.generation = cell.generation) (hLease : next.lease = none)
    (hClosed : next.closed) : ExplainsCell (log ++ [Act.finish cell.generation]) next := by
  have hClaims : (log ++ [Act.finish cell.generation]).filterMap claimed =
      log.filterMap claimed := filterMap_append_none rfl
  have hSame : ∀ generation,
      (log ++ [Act.finish cell.generation]).filterMap (sequenceIn generation) =
        log.filterMap (sequenceIn generation) := fun generation => filterMap_append_none rfl
  constructor
  · refine h.logged.append (fun hCreate => nomatch hCreate) ⟨_, hClaims.trans h.claims⟩ ?_
      (fun _ _ _ hAct => nomatch hAct) (h.not_finished hOpen)
    intro generation
    rw [hSame]
    exact h.logged.sequences generation
  · rw [hClaims, hGeneration]
    exact h.claims
  · intro generation _
    rw [hSame]
    exact h.later generation (by omega)
  · intro owner number hSome
    rw [hLease] at hSome
    cases hSome
  · intro generation _
    exact hClosed

/-- **The log explains the resource with what it takes.** -/
theorem Explains.take {old : Option (Cell ω)} (h : Explains log old) (hTakes : Takes old act next) :
    Explains (log ++ [act]) (some next) := by
  cases hTakes with
  | create hGeneration hLease =>
    cases h
    exact explains_create hGeneration hLease
  | claim hOpen hGeneration hLease => exact ExplainsCell.claim h hOpen hGeneration hLease
  | numbered hOpen hCurrent hGeneration hLease =>
    exact ExplainsCell.numbered h hOpen hCurrent hGeneration hLease
  | finish hOpen hGeneration hLease hClosed =>
    exact ExplainsCell.finish h hOpen hGeneration hLease hClosed

/-- **The log explains the resource as long as it takes nothing.** -/
theorem Explains.idle (h : Explains log (some cell)) (hIdle : Idle cell next) :
    Explains log (some next) := by
  replace h : ExplainsCell log cell := h
  refine ⟨h.logged, ?_, ?_, ?_, fun generation hMem => hIdle.closed (h.finished generation hMem)⟩
  · rw [hIdle.generation]
    exact h.claims
  · intro generation hLt
    rw [hIdle.generation] at hLt
    exact h.later generation hLt
  · intro owner number hSome
    rcases hIdle.lease with hLease | hLease
    · rw [hIdle.generation]
      rw [hLease] at hSome
      exact h.lease owner number hSome
    · rw [hLease] at hSome
      cases hSome

/-! ## What a log rules out -/

theorem not_mem_of_nodup {y : α} {b : β} (h : ((xs ++ [x]).filterMap f).Nodup) (hx : f x = some b)
    (hy : f y = some b) : y ∉ xs := by
  intro hMem
  rw [filterMap_append_some hx, nodup_append] at h
  exact h.2.2 b (mem_filterMap.mpr ⟨y, hMem, hy⟩) b mem_cons_self rfl

/-- **Nothing is taken twice**, whoever tries. -/
theorem Logged.unrepeated (h : Logged (log ++ [act])) {earlier : Act ω} (hMem : earlier ∈ log) :
    earlier.anonymous ≠ act.anonymous := by
  intro hSame
  cases act with
  | create =>
    cases earlier with
    | create =>
      have hCreated := h.created
      have hPos : 0 < log.countP isCreate :=
        countP_pos_iff.mpr ⟨.create, hMem, rfl⟩
      simp only [countP_append, countP_singleton, isCreate, if_true] at hCreated
      omega
    | _ => cases hSame
  | claim generation owner =>
    cases earlier with
    | claim =>
      cases hSame
      obtain ⟨n, hClaims⟩ := h.claims
      have hNodup : ((log ++ [Act.claim generation owner]).filterMap claimed).Nodup := by
        rw [hClaims]
        exact nodup_range
      exact not_mem_of_nodup hNodup rfl rfl hMem
    | _ => cases hSame
  | numbered generation owner sequence =>
    cases earlier with
    | numbered =>
      cases hSame
      obtain ⟨n, hNumbers⟩ := h.sequences generation
      have hNodup : ((log ++ [Act.numbered generation owner sequence]).filterMap
          (sequenceIn generation)).Nodup := by
        rw [hNumbers]
        exact nodup_range'
      exact not_mem_of_nodup hNodup (sequenceIn_numbered _ _ _)
        (sequenceIn_numbered _ _ _) hMem
    | _ => cases hSame
  | finish generation =>
    cases earlier with
    | finish =>
      cases hSame
      obtain ⟨before, after, rfl⟩ := append_of_mem hMem
      have hNil := h.finished before generation (after ++ [.finish generation]) (by simp)
      simp at hNil
    | _ => cases hSame

/-- **Whatever was taken under a lease is behind the resource.** -/
theorem Explains.numbered_lt (h : Explains log (some cell)) {generation sequence : Nat} {owner : ω}
    (hMem : Act.numbered generation owner sequence ∈ log) :
    generation ≤ cell.generation ∧ ∀ holder number, cell.lease = some (holder, number) →
      generation = cell.generation → sequence < number := by
  replace h : ExplainsCell log cell := h
  have hIn : sequence ∈ log.filterMap (sequenceIn generation) :=
    mem_filterMap.mpr ⟨_, hMem, sequenceIn_numbered _ _ _⟩
  constructor
  · by_contra hGt
    rw [h.later generation (by omega)] at hIn
    cases hIn
  · rintro holder number hLease rfl
    obtain ⟨⟨n, rfl, hNumbers⟩, _⟩ := h.lease holder number hLease
    rw [hNumbers, mem_range'_1] at hIn
    omega

end Log

end FrankenTerm.Verified.LeaseLog
