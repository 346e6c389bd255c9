import FrankenTerm.Ports.PolicyTypes

/-!
# The rate limiter

Operations are counted in a sliding window, for each pane and action and for each action
globally.  `check` decides and counts; `preview` only decides.  A limit of `0` switches the
corresponding count off.  Instants and durations are nanoseconds.

## Main results

* `preview_isLimited`, `check_isLimited` — both refuse exactly when the limit is reached.
-/

namespace FrankenTerm.Ports.PolicyRateLimit

open PolicyTypes

/-- `RateLimitScope`. -/
inductive RateLimitScope where
  | perPane (paneId : Nat)
  | global
deriving DecidableEq, Repr

/-- `RateLimitHit`. -/
structure RateLimitHit where
  scope : RateLimitScope
  action : ActionKind
  limit : Nat
  current : Nat
  window : Nat
  retryAfter : Nat
deriving DecidableEq, Repr

def nanosPerMilli : Nat := 1000000

def nanosPerSec : Nat := 1000000000

/-- `RateLimitHit::reason`. -/
def RateLimitHit.reason (hit : RateLimitHit) : String :=
  let action := hit.action.asStr
  let current := hit.current
  let limit := hit.limit
  let retrySecs := (hit.retryAfter / nanosPerMilli + 999) / 1000
  let windowSecs := hit.window / nanosPerSec
  let counted :=
    match hit.scope with
    | .perPane paneId =>
      s!"Rate limit exceeded for action '{action}' on pane {paneId}: {current}/{limit} in {windowSecs}s window (per-pane)"
    | .global =>
      s!"Global rate limit exceeded for action '{action}': {current}/{limit} in {windowSecs}s window"
  let retry := if retrySecs > 0 then s!"; retry after {retrySecs}s" else ""
  counted ++ retry ++ ". Remediation: wait before retrying or reduce concurrency."

/-- `RateLimitOutcome`. -/
inductive RateLimitOutcome where
  | allowed
  | limited (hit : RateLimitHit)

def RateLimitOutcome.isLimited : RateLimitOutcome → Bool
  | .allowed => false
  | .limited _ => true

/-- `RateLimiter`. -/
structure RateLimiter where
  limitPerPane : Nat
  limitGlobal : Nat
  window : Nat
  paneCounts : List ((Nat × ActionKind) × List Nat) := []
  globalCounts : List (ActionKind × List Nat) := []

namespace RateLimiter

section

variable (limiter : RateLimiter) (now : Nat) (action : ActionKind)

/-- `PANE_COUNTS_AUTO_GC_THRESHOLD`. -/
def paneCountsAutoGcThreshold : Nat := 1024

/-- Where the window of an operation at `now` starts: `now.checked_sub(window).unwrap_or(now)`. -/
def windowStart : Nat :=
  if limiter.window ≤ now then now - limiter.window else now

/-- `prune_old`. -/
def pruneOld (start : Nat) (timestamps : List Nat) : List Nat := timestamps.filter (start ≤ ·)

/-- `retry_after`. -/
def retryAfter (timestamps : List Nat) (window : Nat) : Nat :=
  match timestamps.head? with
  | some oldest => oldest + window - now
  | none => 0

/-- `active_retry_after`. -/
def activeRetryAfter (timestamps : List Nat) (start window : Nat) : Nat :=
  match (pruneOld start timestamps).min? with
  | some oldest => oldest + window - now
  | none => 0

/-- `HashMap::remove` on an association list. -/
def withoutEntry {κ : Type} [BEq κ] (table : List (κ × List Nat)) (key : κ) : List (κ × List Nat) :=
  table.filter fun entry => !(entry.1 == key)

/-- `HashMap::insert` on an association list. -/
def withEntry {κ : Type} [BEq κ] (table : List (κ × List Nat)) (key : κ) (timestamps : List Nat) :
    List (κ × List Nat) :=
  (key, timestamps) :: withoutEntry table key

/-- `RateLimiter::gc_at`. -/
def gcAt : RateLimiter :=
  let start := limiter.windowStart now
  { limiter with
    paneCounts := (limiter.paneCounts.map fun (key, ts) => (key, pruneOld start ts)).filter
      fun (_, ts) => !ts.isEmpty
    globalCounts := (limiter.globalCounts.map fun (key, ts) => (key, pruneOld start ts)).filter
      fun (_, ts) => !ts.isEmpty }

/-- The count of the pane: pruned, and dropped when nothing is left. -/
def prunePane (start : Nat) (key : Nat × ActionKind) : RateLimiter :=
  match limiter.paneCounts.lookup key with
  | none => limiter
  | some timestamps =>
    let active := pruneOld start timestamps
    if active.isEmpty then { limiter with paneCounts := withoutEntry limiter.paneCounts key }
    else { limiter with paneCounts := withEntry limiter.paneCounts key active }

/-- The part of `check` for the pane: the limiter after pruning, and the hit if there is one. -/
def checkPane (paneId : Nat) : RateLimiter × Option RateLimitHit :=
  if limiter.limitPerPane > 0 then
    let key := (paneId, action)
    let limiter := limiter.prunePane (limiter.windowStart now) key
    let current := ((limiter.paneCounts.lookup key).getD []).length
    if current ≥ limiter.limitPerPane then
      let retry := ((limiter.paneCounts.lookup key).map
        fun timestamps => retryAfter now timestamps limiter.window).getD limiter.window
      (limiter, some ⟨.perPane paneId, action, limiter.limitPerPane, current, limiter.window,
        retry⟩)
    else (limiter, none)
  else (limiter, none)

/-- The part of `check` for the action globally. -/
def checkGlobal : RateLimiter × Option RateLimitHit :=
  if limiter.limitGlobal > 0 then
    let active := pruneOld (limiter.windowStart now)
      ((limiter.globalCounts.lookup action).getD [])
    let limiter := { limiter with globalCounts := withEntry limiter.globalCounts action active }
    if active.length ≥ limiter.limitGlobal then
      (limiter, some ⟨.global, action, limiter.limitGlobal, active.length, limiter.window,
        retryAfter now active limiter.window⟩)
    else (limiter, none)
  else (limiter, none)

/-- The counts with one more operation. -/
def recordHit (paneId : Option Nat) : RateLimiter :=
  let limiter :=
    match paneId with
    | some paneId =>
      if limiter.limitPerPane > 0 then
        let key := (paneId, action)
        { limiter with
          paneCounts := withEntry limiter.paneCounts key
            ((limiter.paneCounts.lookup key).getD [] ++ [now]) }
      else limiter
    | none => limiter
  if limiter.limitGlobal > 0 then
    { limiter with
      globalCounts := withEntry limiter.globalCounts action
        ((limiter.globalCounts.lookup action).getD [] ++ [now]) }
  else limiter

/-- `RateLimiter::check`. -/
def check (paneId : Option Nat) : RateLimitOutcome × RateLimiter :=
  let limiter :=
    if limiter.paneCounts.length ≥ paneCountsAutoGcThreshold then limiter.gcAt now else limiter
  let (limiter, paneHit) :=
    match paneId with
    | some paneId => limiter.checkPane now action paneId
    | none => (limiter, none)
  match paneHit with
  | some hit => (.limited hit, limiter)
  | none =>
    let (limiter, globalHit) := limiter.checkGlobal now action
    match globalHit with
    | some hit => (.limited hit, limiter)
    | none => (.allowed, limiter.recordHit now action paneId)

/-- `RateLimiter::preview`. -/
def preview (paneId : Option Nat) : RateLimitOutcome :=
  let start := limiter.windowStart now
  let paneHit :=
    match paneId with
    | some paneId =>
      if limiter.limitPerPane > 0 then
        let key := (paneId, action)
        let current := (pruneOld start ((limiter.paneCounts.lookup key).getD [])).length
        if current ≥ limiter.limitPerPane then
          let retry := ((limiter.paneCounts.lookup key).map fun timestamps =>
            activeRetryAfter now timestamps start limiter.window).getD limiter.window
          some ⟨.perPane paneId, action, limiter.limitPerPane, current, limiter.window, retry⟩
        else none
      else none
    | none => none
  match paneHit with
  | some hit => .limited hit
  | none =>
    if limiter.limitGlobal > 0 then
      let current := (pruneOld start ((limiter.globalCounts.lookup action).getD [])).length
      if current ≥ limiter.limitGlobal then
        let retry := ((limiter.globalCounts.lookup action).map fun timestamps =>
          activeRetryAfter now timestamps start limiter.window).getD limiter.window
        .limited ⟨.global, action, limiter.limitGlobal, current, limiter.window, retry⟩
      else .allowed
    else .allowed

/-- The operations of the window on a pane. -/
def paneOperations (paneId : Nat) : Nat :=
  (pruneOld (limiter.windowStart now) ((limiter.paneCounts.lookup (paneId, action)).getD [])).length

/-- The operations of the window on all panes. -/
def globalOperations : Nat :=
  (pruneOld (limiter.windowStart now) ((limiter.globalCounts.lookup action).getD [])).length

/-- The limit of the pane is reached. -/
def paneReached (paneId : Nat) : Bool :=
  0 < limiter.limitPerPane && limiter.limitPerPane ≤ limiter.paneOperations now action paneId

/-- The global limit is reached. -/
def globalReached : Bool :=
  0 < limiter.limitGlobal && limiter.limitGlobal ≤ limiter.globalOperations now action

/-- **The limit is reached**, on the pane or globally. -/
def isReached (paneId : Option Nat) : Bool :=
  paneId.any (limiter.paneReached now action) || limiter.globalReached now action

/-- The limiter without limits. -/
def unlimited : RateLimiter := { limitPerPane := 0, limitGlobal := 0, window := 0 }

end

/-- The counts are maps: each key has one entry. -/
structure Keyed (limiter : RateLimiter) : Prop where
  panes : (limiter.paneCounts.map Prod.fst).Nodup
  actions : (limiter.globalCounts.map Prod.fst).Nodup

variable {limiter : RateLimiter} {now : Nat} {action : ActionKind}

theorem pruneOld_pruneOld (start : Nat) (timestamps : List Nat) :
    pruneOld start (pruneOld start timestamps) = pruneOld start timestamps := by
  simp [pruneOld]

/-- What `gc` leaves of an entry. -/
private theorem lookup_gc {κ : Type} [BEq κ] [LawfulBEq κ] (start : Nat)
    {table : List (κ × List Nat)} (hKeys : (table.map Prod.fst).Nodup) (key : κ) :
    (((table.map fun (key, ts) => (key, pruneOld start ts)).filter
      fun (_, ts) => !ts.isEmpty).lookup key).getD [] = pruneOld start ((table.lookup key).getD []) := by
  induction table with
  | nil => rfl
  | cons entry rest ih =>
    obtain ⟨other, ts⟩ := entry
    obtain ⟨hNew, hRest⟩ := List.nodup_cons.mp hKeys
    rw [List.map_cons, List.filter_cons]
    by_cases hKey : key = other
    · subst hKey
      have hNone : rest.lookup key = none := by
        rw [List.lookup_eq_none_iff]
        intro entry hMem
        have hNe : key ≠ entry.1 := by
          rintro rfl
          exact hNew (List.mem_map.mpr ⟨entry, hMem, rfl⟩)
        simpa using hNe
      split_ifs with hSome
      · simp
      · have hEmpty : pruneOld start ts = [] := by simpa using hSome
        rw [ih hRest, hNone, List.lookup_cons_self, Option.getD_some, hEmpty]
        rfl
    · have hSkip : (key == other) = false := by simpa using hKey
      split_ifs
      · rw [List.lookup_cons, hSkip, List.lookup_cons, hSkip]
        exact ih hRest
      · rw [List.lookup_cons, hSkip]
        exact ih hRest

theorem paneReached_gcAt (hKeyed : limiter.Keyed) (paneId : Nat) :
    (limiter.gcAt now).paneReached now action paneId = limiter.paneReached now action paneId := by
  have hStart : (limiter.gcAt now).windowStart now = limiter.windowStart now := rfl
  have hLookup : ((limiter.gcAt now).paneCounts.lookup (paneId, action)).getD [] =
      pruneOld (limiter.windowStart now) ((limiter.paneCounts.lookup (paneId, action)).getD []) :=
    lookup_gc _ hKeyed.panes _
  rw [paneReached, paneOperations, hStart, hLookup, pruneOld_pruneOld]
  rfl

theorem globalReached_gcAt (hKeyed : limiter.Keyed) :
    (limiter.gcAt now).globalReached now action = limiter.globalReached now action := by
  have hStart : (limiter.gcAt now).windowStart now = limiter.windowStart now := rfl
  have hLookup : ((limiter.gcAt now).globalCounts.lookup action).getD [] =
      pruneOld (limiter.windowStart now) ((limiter.globalCounts.lookup action).getD []) :=
    lookup_gc _ hKeyed.actions _
  rw [globalReached, globalOperations, hStart, hLookup, pruneOld_pruneOld]
  rfl

private theorem lookup_withoutEntry {κ : Type} [BEq κ] [LawfulBEq κ] (table : List (κ × List Nat))
    (key : κ) : (withoutEntry table key).lookup key = none := by
  rw [List.lookup_eq_none_iff]
  intro entry hMem
  have hNe : ¬entry.1 = key := by simpa using (List.mem_filter.mp hMem).2
  simpa using fun hEq : key = entry.1 => hNe hEq.symm

private theorem lookup_prunePane (start : Nat) (key : Nat × ActionKind) :
    ((limiter.prunePane start key).paneCounts.lookup key).getD [] =
      pruneOld start ((limiter.paneCounts.lookup key).getD []) := by
  unfold prunePane
  cases hLookup : limiter.paneCounts.lookup key with
  | none => simp [hLookup, pruneOld]
  | some timestamps =>
    dsimp only
    split_ifs with hEmpty
    · rw [lookup_withoutEntry]
      exact (List.isEmpty_iff.mp hEmpty).symm
    · rw [withEntry, List.lookup_cons_self]
      rfl

/-- Pruning a pane touches the counts of panes only. -/
private theorem prunePane_eq (limiter : RateLimiter) (start : Nat) (key : Nat × ActionKind) :
    ∃ paneCounts, limiter.prunePane start key = { limiter with paneCounts } := by
  unfold prunePane
  split
  · exact ⟨limiter.paneCounts, rfl⟩
  · dsimp only
    split_ifs <;> exact ⟨_, rfl⟩

theorem checkPane_isSome (paneId : Nat) :
    (limiter.checkPane now action paneId).2.isSome = limiter.paneReached now action paneId := by
  obtain ⟨paneCounts, hPruned⟩ := prunePane_eq limiter (limiter.windowStart now)
    (paneId, action)
  have hLimit : (limiter.prunePane (limiter.windowStart now) (paneId, action)).limitPerPane =
      limiter.limitPerPane := by rw [hPruned]
  unfold checkPane paneReached paneOperations
  by_cases hOn : limiter.limitPerPane > 0
  · simp only [if_pos hOn, lookup_prunePane, hLimit]
    split_ifs with hFull <;> simp_all
  · simp [hOn]

theorem globalReached_checkPane (paneId : Nat) :
    (limiter.checkPane now action paneId).1.globalReached now action =
      limiter.globalReached now action := by
  obtain ⟨paneCounts, hPruned⟩ := prunePane_eq limiter (limiter.windowStart now)
    (paneId, action)
  unfold checkPane
  dsimp only
  split_ifs
  · rw [hPruned]
    rfl
  · rw [hPruned]
    rfl
  · rfl

theorem checkGlobal_isSome :
    (limiter.checkGlobal now action).2.isSome = limiter.globalReached now action := by
  unfold checkGlobal globalReached globalOperations
  by_cases hOn : limiter.limitGlobal > 0
  · simp only [if_pos hOn]
    split_ifs with hFull <;> simp_all
  · simp [hOn]

/-- **`check` refuses exactly when the limit is reached.** -/
theorem check_isLimited (hKeyed : limiter.Keyed) (paneId : Option Nat) :
    (limiter.check now action paneId).1.isLimited = limiter.isReached now action paneId := by
  -- Whether `gc` runs first makes no difference.
  obtain ⟨collected, hCollected, hPane, hGlobal⟩ : ∃ collected,
      collected = (if limiter.paneCounts.length ≥ paneCountsAutoGcThreshold then limiter.gcAt now
        else limiter) ∧
      (∀ paneId, collected.paneReached now action paneId = limiter.paneReached now action paneId) ∧
      collected.globalReached now action = limiter.globalReached now action := by
    refine ⟨_, rfl, ?_⟩
    split_ifs
    · exact ⟨paneReached_gcAt hKeyed, globalReached_gcAt hKeyed⟩
    · exact ⟨fun _ => rfl, rfl⟩
  have hRest : ∀ pruned : RateLimiter, pruned.globalReached now action =
      limiter.globalReached now action →
      (match (pruned.checkGlobal now action).2 with
        | some hit => (RateLimitOutcome.limited hit, (pruned.checkGlobal now action).1)
        | none => (.allowed, (pruned.checkGlobal now action).1.recordHit now action
          paneId)).1.isLimited = limiter.globalReached now action := by
    intro pruned hSame
    rw [← hSame, ← checkGlobal_isSome]
    cases (pruned.checkGlobal now action).2 <;> rfl
  unfold check isReached
  rw [← hCollected]
  cases paneId with
  | none => exact hRest collected hGlobal
  | some paneId =>
    have hPaneHit := (checkPane_isSome paneId).trans (hPane paneId)
    cases hHit : (collected.checkPane now action paneId).2 with
    | some hit =>
      rw [hHit] at hPaneHit
      simp [hHit, ← hPaneHit, RateLimitOutcome.isLimited]
    | none =>
      rw [hHit] at hPaneHit
      have hThen := hRest _ ((globalReached_checkPane paneId).trans hGlobal)
      simp only [hHit, Option.any_some, ← hPaneHit, Option.isSome_none, Bool.false_or]
      exact hThen

/-- **`preview` refuses exactly when the limit is reached.** -/
theorem preview_isLimited (paneId : Option Nat) :
    (limiter.preview now action paneId).isLimited = limiter.isReached now action paneId := by
  unfold preview isReached paneReached globalReached paneOperations globalOperations
  cases paneId with
  | none =>
    dsimp only
    split_ifs <;> simp_all [RateLimitOutcome.isLimited]
  | some =>
    dsimp only
    split_ifs <;> simp_all [RateLimitOutcome.isLimited]

end RateLimiter

end FrankenTerm.Ports.PolicyRateLimit
