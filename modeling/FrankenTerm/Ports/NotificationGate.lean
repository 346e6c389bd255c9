import Mathlib

/-!
# The notification gate (`NotificationGate::should_notify` in `events.rs`)

An event that passes the filter is looked up twice by its identity key.  The deduplicator drops it
when the last event of the key was seen less than the window ago.  The cooldown drops it when the
last notification of the key was sent less than the cooldown ago, and counts it.  A notification
names the count of the cooldown, so what the deduplicator has dropped is not in it.

The filter is any predicate, and the identity key (a digest in the source) any function.  Instants
are numbers; `duration_since` cuts their difference off at zero.

## Main results

* `run_accounts` — notifications of a key are a cooldown apart and name what the cooldown dropped.
* `gate_accounts_iff` — these are all the dropped ones exactly when in the run no event that comes
  within the window of the last one of its key is followed by a notification of the key.
-/

namespace FrankenTerm.Ports.Notify

open Std List

def u64Max : Nat := 2 ^ 64 - 1

/-! ## Bounded maps -/

/-- The entries of the keys and the order in which the keys were used, as `EventDeduplicator` and
`NotificationCooldown` keep them. -/
structure Tracked (ε : Type) where
  entries : TreeMap String ε := ∅
  insertionOrder : List String := []

namespace Tracked

variable {ε ν : Type} (tracked : Tracked ε) (maxCapacity : Nat) (key : String)

/-- Store the entry of a key.  A known key goes to the back of the order; for a new one the oldest
key makes room. -/
def put (entry : ε) : Tracked ε :=
  if tracked.entries.contains key then
    ⟨tracked.entries.insert key entry, tracked.insertionOrder.erase key ++ [key]⟩
  else
    let evicted : Tracked ε := match tracked.insertionOrder with
      | oldest :: rest =>
        if maxCapacity ≤ tracked.entries.size then ⟨tracked.entries.erase oldest, rest⟩ else tracked
      | [] => tracked
    ⟨evicted.entries.insert key entry, evicted.insertionOrder ++ [key]⟩

/-- Look a key up and store what becomes of its entry; a capacity of zero switches the map off. -/
def check (off : ν) (next : Option ε → ν × ε) : ν × Tracked ε :=
  if maxCapacity = 0 then (off, tracked)
  else ((next tracked.entries[key]?).1, tracked.put maxCapacity key (next tracked.entries[key]?).2)

variable {tracked maxCapacity key} {keys : List String}

/-- Among as many keys as there is room for, none is evicted. -/
theorem check_within (off : ν) (next : Option ε → ν × ε) (hMem : key ∈ keys)
    (hKeys : ∀ other ∈ tracked.entries, other ∈ keys) (hRoom : keys.dedup.length ≤ maxCapacity) :
    ∃ order, tracked.check maxCapacity key off next = ((next tracked.entries[key]?).1,
      ⟨tracked.entries.insert key (next tracked.entries[key]?).2, order⟩) := by
  have hPos : 0 < keys.dedup.length := length_pos_of_mem (mem_dedup.mpr hMem)
  rw [check, if_neg (by omega), put]
  split
  · exact ⟨_, rfl⟩
  · rename_i hNew
    have hNodup : (key :: tracked.entries.keys).Nodup :=
      nodup_cons.mpr ⟨fun hIn => hNew (TreeMap.mem_keys.mp hIn), TreeMap.nodup_keys⟩
    have hSub : key :: tracked.entries.keys ⊆ keys.dedup := by
      intro other hOther
      rcases mem_cons.mp hOther with rfl | hIn
      · exact mem_dedup.mpr hMem
      · exact mem_dedup.mpr (hKeys other (TreeMap.mem_keys.mp hIn))
    have hLength := (hNodup.subperm hSub).length_le
    rw [length_cons, TreeMap.length_keys] at hLength
    cases tracked.insertionOrder with
    | nil => exact ⟨_, rfl⟩
    | cons =>
      simp only [if_neg (show ¬maxCapacity ≤ tracked.entries.size by omega)]
      exact ⟨_, rfl⟩

end Tracked

/-! ## The suppressors -/

structure DedupeEntry where
  count : Nat
  firstSeen : Nat
  lastSeen : Nat

inductive DedupeVerdict where
  | new
  | duplicate (suppressedCount : Nat)

def DedupeVerdict.isDuplicate : DedupeVerdict → Bool
  | .new => false
  | .duplicate _ => true

/-- What `EventDeduplicator::check` makes of the entry of a key. -/
def DedupeEntry.next (window now : Nat) : Option DedupeEntry → DedupeVerdict × DedupeEntry
  | some entry =>
    if now - entry.lastSeen < window then
      let count := min (entry.count + 1) u64Max
      (.duplicate (count - 1), { entry with count, lastSeen := now })
    else (.new, ⟨1, now, now⟩)
  | none => (.new, ⟨1, now, now⟩)

@[simp] theorem DedupeEntry.next_lastSeen (window now : Nat) (found : Option DedupeEntry) :
    (next window now found).2.lastSeen = now := by
  fun_cases next <;> rfl

/-- A duplicate is an event that comes within the window of the last one of its key. -/
theorem DedupeEntry.next_duplicate (window now : Nat) (found : Option DedupeEntry) :
    (next window now found).1.isDuplicate =
      (found.map (·.lastSeen)).any (now - · < window) := by
  fun_cases next <;> simp_all [DedupeVerdict.isDuplicate]

structure CooldownEntry where
  lastNotified : Nat
  suppressedSinceNotify : Nat

inductive CooldownVerdict where
  | send (suppressedSinceLast : Nat)
  | suppress (totalSuppressed : Nat)

def CooldownVerdict.isSend : CooldownVerdict → Bool
  | .send _ => true
  | .suppress _ => false

/-- What `NotificationCooldown::check_at` makes of the entry of a key. -/
def CooldownEntry.next (cooldown now : Nat) : Option CooldownEntry → CooldownVerdict × CooldownEntry
  | some entry =>
    if now - entry.lastNotified < cooldown then
      let total := min (entry.suppressedSinceNotify + 1) u64Max
      (.suppress total, { entry with suppressedSinceNotify := total })
    else (.send entry.suppressedSinceNotify, ⟨now, 0⟩)
  | none => (.send 0, ⟨now, 0⟩)

/-- A notification is sent unless the last one is less than a cooldown ago. -/
theorem CooldownEntry.next_send (cooldown now : Nat) (found : Option CooldownEntry) :
    (next cooldown now found).1.isSend =
      !(found.map (·.lastNotified)).any (now - · < cooldown) := by
  fun_cases next <;> simp_all [CooldownVerdict.isSend]

theorem CooldownEntry.next_lastNotified (cooldown now : Nat) (found : Option CooldownEntry) :
    some (next cooldown now found).2.lastNotified =
      if (found.map (·.lastNotified)).any (now - · < cooldown) then found.map (·.lastNotified)
      else some now := by
  fun_cases next <;> simp_all

/-! ## The gate -/

/-- A call of `should_notify`, with the clock as each suppressor reads it. -/
structure Call (δ : Type) where
  detection : δ
  paneId : UInt64
  paneUuid : Option String
  dedupNow : Nat
  cooldownNow : Nat

/-- What a gate is made with. -/
structure Settings (δ : Type) where
  filter : δ → Bool
  identityKey : δ → UInt64 → Option String → String
  window : Nat
  dedupCapacity : Nat
  cooldown : Nat
  cooldownCapacity : Nat

structure NotificationGate where
  dedup : Tracked DedupeEntry := {}
  cooldown : Tracked CooldownEntry := {}

inductive NotifyDecision where
  | send (suppressedSinceLast : Nat)
  | filtered
  | deduplicated (suppressedCount : Nat)
  | throttled (totalSuppressed : Nat)

variable {δ : Type} (settings : Settings δ)

def Settings.key (call : Call δ) : String :=
  settings.identityKey call.detection call.paneId call.paneUuid

def CooldownVerdict.decision : CooldownVerdict → NotifyDecision
  | .send count => .send count
  | .suppress total => .throttled total

def NotificationGate.shouldNotify (gate : NotificationGate) (call : Call δ) :
    NotifyDecision × NotificationGate :=
  if settings.filter call.detection then
    match gate.dedup.check settings.dedupCapacity (settings.key call) .new
        (DedupeEntry.next settings.window call.dedupNow) with
    | (.duplicate count, dedup) => (.deduplicated count, { gate with dedup })
    | (.new, dedup) =>
      let (verdict, cooldown) := gate.cooldown.check settings.cooldownCapacity (settings.key call)
        (.send 0) (CooldownEntry.next settings.cooldown call.cooldownNow)
      (verdict.decision, ⟨dedup, cooldown⟩)
  else (.filtered, gate)

/-! ## Accounts -/

/-- What was decided on an event that passed the filter, and when. -/
structure Outcome where
  key : String
  time : Nat
  decision : NotifyDecision

/-- The decisions of a run on the events that pass the filter, the last one first. -/
def run (gate : NotificationGate) (past : List Outcome) : List (Call δ) → List Outcome
  | [] => past
  | call :: rest =>
    match gate.shouldNotify settings call with
    | (.filtered, next) => run next past rest
    | (decision, next) => run next (⟨settings.key call, call.cooldownNow, decision⟩ :: past) rest

def Outcome.isSend (outcome : Outcome) : Bool := outcome.decision matches .send _

def Outcome.isDuplicate (outcome : Outcome) : Bool := outcome.decision matches .deduplicated _

/-- What was dropped of a key since its last notification. -/
def sinceSend (key : String) (past : List Outcome) : List Outcome :=
  (past.filter (·.key = key)).takeWhile (!·.isSend)

/-- A notification comes a cooldown after those before it of its key and names the `count` of what
was dropped since; an event is dropped only after one. -/
def Justified (count : List Outcome → Nat) (cooldown : Nat) (outcome : Outcome)
    (past : List Outcome) : Prop :=
  match outcome.decision with
  | .send suppressed => suppressed = count (sinceSend outcome.key past) ∧
      ∀ other ∈ past, other.key = outcome.key → other.isSend → cooldown ≤ outcome.time - other.time
  | _ => ∃ other ∈ past, other.key = outcome.key ∧ other.isSend

def Accounts (count : List Outcome → Nat) (cooldown : Nat) : List Outcome → Prop
  | [] => True
  | outcome :: past => Justified count cooldown outcome past ∧ Accounts count cooldown past

/-- What the cooldown counts of the dropped events. -/
def throttled (dropped : List Outcome) : Nat :=
  min (dropped.countP (!·.isDuplicate)) u64Max

/-- The keys of the events that pass the filter. -/
def keysOf (calls : List (Call δ)) : List String :=
  (calls.filter (settings.filter ·.detection)).map settings.key

/-- The runs in question: no more keys than there is room for, a clock that does not go back, and
no more calls than a counter can count. -/
structure Within (calls : List (Call δ)) : Prop where
  dedup : (keysOf settings calls).dedup.length ≤ settings.dedupCapacity
  cooldown : (keysOf settings calls).dedup.length ≤ settings.cooldownCapacity
  nondecreasing : (calls.flatMap fun call => [call.dedupNow, call.cooldownNow]).Pairwise (· ≤ ·)
  short : calls.length ≤ u64Max

/-! ## What the instants say -/

/-- The calls that passed the filter, the last one first. -/
def heard (calls : List (Call δ)) : List (Call δ) :=
  (calls.filter (settings.filter ·.detection)).reverse

/-- The event comes within the window of the last one of its key. -/
def repeats (call : Call δ) (past : List (Call δ)) : Bool :=
  ((past.find? (settings.key · = settings.key call)).map (·.dedupNow)).any
    (call.dedupNow - · < settings.window)

/-- The event is no repeat, and the last notification is not less than a cooldown ago. -/
def dueAfter (call : Call δ) (past : List (Call δ)) (lastSent : Option Nat) : Bool :=
  !repeats settings call past && !lastSent.any (call.cooldownNow - · < settings.cooldown)

/-- When the last notification of the key is due. -/
def lastSent (key : String) : List (Call δ) → Option Nat
  | [] => none
  | call :: past =>
    if settings.key call = key ∧ dueAfter settings call past (lastSent key past) then
      some call.cooldownNow
    else lastSent key past

def due (call : Call δ) (past : List (Call δ)) : Bool :=
  dueAfter settings call past (lastSent settings (settings.key call) past)

/-- Some event of the key is a repeat. -/
def repeated (key : String) : List (Call δ) → Bool
  | [] => false
  | call :: past => settings.key call = key && repeats settings call past || repeated key past

/-- **A notification is due after a repeat** of its key. -/
def forgets : List (Call δ) → Bool
  | [] => false
  | call :: past =>
    due settings call past && repeated settings (settings.key call) past || forgets past

/-- The outcomes are what the instants of the calls say. -/
inductive Told : List (Call δ) → List Outcome → Prop
  | nil : Told [] []
  | cons {call : Call δ} {outcome : Outcome} {calls : List (Call δ)} {past : List Outcome}
      (told : Told calls past) (key : outcome.key = settings.key call)
      (duplicate : outcome.isDuplicate = repeats settings call calls)
      (send : outcome.isSend = due settings call calls) :
      Told (call :: calls) (outcome :: past)

/-! ## Runs of the gate -/

/-- What the entry of the cooldown knows of the past of its key. -/
def Knows (cooldown : Nat) (key : String) (past : List Outcome) : Option CooldownEntry → Prop
  | none => ∀ other ∈ past, other.key ≠ key
  | some entry => entry.suppressedSinceNotify = throttled (sinceSend key past) ∧
      (∃ other ∈ past, other.key = key ∧ other.isSend) ∧
      ∀ other ∈ past, other.key = key → other.isSend →
        other.time = entry.lastNotified ∨ cooldown ≤ entry.lastNotified - other.time

structure Inv (keys : List String) (gate : NotificationGate) (calls : List (Call δ))
    (past : List Outcome) : Prop where
  keys : ∀ key ∈ gate.cooldown.entries, key ∈ keys
  known : ∀ key ∈ gate.dedup.entries, key ∈ gate.cooldown.entries
  lastSeen : ∀ key, gate.dedup.entries[key]?.map (·.lastSeen) =
    (calls.find? (settings.key · = key)).map (·.dedupNow)
  lastNotified : ∀ key, gate.cooldown.entries[key]?.map (·.lastNotified) =
    lastSent settings key calls
  knows : ∀ key, Knows settings.cooldown key past gate.cooldown.entries[key]?
  accounts : Accounts throttled settings.cooldown past
  told : Told settings calls past

open CooldownVerdict NotificationGate

section Step

variable {settings} {keys : List String} {gate : NotificationGate} {calls : List (Call δ)}
  {past : List Outcome}
  {cooldown : Nat} {key : String} {outcome : Outcome} {found : Option CooldownEntry}

theorem sinceSend_cons : sinceSend key (outcome :: past) =
    if outcome.key ≠ key then sinceSend key past
    else if outcome.isSend then [] else outcome :: sinceSend key past := by
  by_cases hKey : outcome.key = key <;> by_cases hSend : outcome.isSend <;>
    simp [sinceSend, hKey, hSend]

theorem Knows.other (hKnows : Knows cooldown key past found) (hKey : outcome.key ≠ key) :
    Knows cooldown key (outcome :: past) found := by
  cases found <;> simp_all [Knows, sinceSend_cons]

/-- An event that the deduplicator drops leaves the entry as it is. -/
theorem Knows.duplicate {entry : CooldownEntry} {count time : Nat}
    (hKnows : Knows cooldown key past (some entry)) :
    Knows cooldown key (⟨key, time, .deduplicated count⟩ :: past) (some entry) := by
  simp_all [Knows, sinceSend_cons, throttled, Outcome.isSend, Outcome.isDuplicate]

/-- The cooldown decides by what its entry knows, and the entry keeps up. -/
theorem Knows.next {now : Nat} {verdict : CooldownVerdict} {entry : CooldownEntry}
    (hKnows : Knows cooldown key past found)
    (hNext : CooldownEntry.next cooldown now found = (verdict, entry)) :
    Knows cooldown key (⟨key, now, verdict.decision⟩ :: past) (some entry) ∧
      Justified throttled cooldown ⟨key, now, verdict.decision⟩ past := by
  cases found with
  | none =>
    obtain ⟨rfl, rfl⟩ := Prod.mk.inj hNext
    have hNone : past.filter (·.key = key) = [] := by
      simpa [filter_eq_nil_iff, Knows] using hKnows
    have hDropped : sinceSend key past = [] := by
      rw [sinceSend, hNone]
      rfl
    simp_all [Knows, Justified, sinceSend_cons, throttled, Outcome.isSend, decision]
  | some =>
    obtain ⟨hCount, hSent, hSpaced⟩ := hKnows
    rw [CooldownEntry.next] at hNext
    split at hNext
    · obtain ⟨rfl, rfl⟩ := Prod.mk.inj hNext
      refine ⟨⟨?_, ?_, ?_⟩, hSent⟩
      · simp [hCount, sinceSend_cons, throttled, Outcome.isSend, Outcome.isDuplicate,
          decision]
        omega
      · simpa using .inr hSent
      · simpa [Outcome.isSend, decision] using hSpaced
    · rename_i hPast
      obtain ⟨rfl, rfl⟩ := Prod.mk.inj hNext
      have hApart : ∀ other ∈ past, other.key = key → other.isSend →
          cooldown ≤ now - other.time := by
        intro other hIn hKey hSend
        have := hSpaced other hIn hKey hSend
        omega
      refine ⟨⟨?_, ?_, ?_⟩, hCount, hApart⟩
      · simp [sinceSend_cons, throttled, Outcome.isSend, decision]
      · simp [Outcome.isSend, decision]
      · simpa using fun other hIn hKey hSend => .inr (hApart other hIn hKey hSend)

theorem find?_heard (call : Call δ) (key : String) :
    (call :: calls).find? (settings.key · = key) =
      if settings.key call = key then some call else calls.find? (settings.key · = key) := by
  rw [find?_cons]
  split <;> simp_all

theorem lastSent_of_repeats {call : Call δ} (hRepeats : repeats settings call calls) (key : String) :
    lastSent settings key (call :: calls) = lastSent settings key calls := by
  simp [lastSent, dueAfter, hRepeats]

/-- What the deduplicator keeps of a call. -/
theorem Inv.lastSeen_insert (inv : Inv settings keys gate calls past) (call : Call δ)
    (entry : DedupeEntry) (hEntry : entry.lastSeen = call.dedupNow) (key : String) :
    (gate.dedup.entries.insert (settings.key call) entry)[key]?.map (·.lastSeen) =
      ((call :: calls).find? (settings.key · = key)).map (·.dedupNow) := by
  rw [TreeMap.getElem?_insert, find?_heard]
  simp only [Std.compare_eq_iff_eq]
  split
  · simp [hEntry]
  · exact inv.lastSeen key

/-- What the cooldown keeps of a call that is no repeat. -/
theorem Inv.lastNotified_insert (inv : Inv settings keys gate calls past) (call : Call δ)
    (hNew : repeats settings call calls = false) (key : String) :
    (gate.cooldown.entries.insert (settings.key call) (CooldownEntry.next settings.cooldown
        call.cooldownNow gate.cooldown.entries[settings.key call]?).2)[key]?.map (·.lastNotified) =
      lastSent settings key (call :: calls) := by
  rw [TreeMap.getElem?_insert, lastSent]
  simp only [Std.compare_eq_iff_eq, dueAfter, hNew]
  by_cases hKey : settings.key call = key
  · subst hKey
    rw [if_pos rfl, Option.map_some, CooldownEntry.next_lastNotified, inv.lastNotified]
    cases (lastSent settings (settings.key call) calls).any _ <;> simp
  · simp [hKey, inv.lastNotified]

theorem Inv.step (inv : Inv settings keys gate calls past) (call : Call δ)
    (hPass : settings.filter call.detection) (hMem : settings.key call ∈ keys)
    (hDedup : keys.dedup.length ≤ settings.dedupCapacity)
    (hCooldown : keys.dedup.length ≤ settings.cooldownCapacity) :
    ∃ decision next, gate.shouldNotify settings call = (decision, next) ∧ decision ≠ .filtered ∧
      Inv settings keys next (call :: calls)
        (⟨settings.key call, call.cooldownNow, decision⟩ :: past) := by
  obtain ⟨_, hFirst⟩ := Tracked.check_within .new
    (DedupeEntry.next settings.window call.dedupNow) hMem
    (fun other hIn => inv.keys other (inv.known other hIn)) hDedup
  obtain ⟨_, hSecond⟩ := Tracked.check_within (.send 0)
    (CooldownEntry.next settings.cooldown call.cooldownNow) hMem inv.keys hCooldown
  have hKnows := inv.knows (settings.key call)
  have hDuplicate := DedupeEntry.next_duplicate settings.window call.dedupNow
    gate.dedup.entries[settings.key call]?
  have hSeen := inv.lastSeen_insert call _ (DedupeEntry.next_lastSeen settings.window
    call.dedupNow gate.dedup.entries[settings.key call]?)
  rw [inv.lastSeen] at hDuplicate
  change _ = repeats settings call calls at hDuplicate
  rw [shouldNotify, if_pos hPass, hFirst, hSecond]
  cases hVerdict : (DedupeEntry.next settings.window call.dedupNow
      gate.dedup.entries[settings.key call]?).1 with
  | duplicate count =>
    rw [hVerdict] at hDuplicate
    -- A duplicate has been seen before, so the cooldown has an entry of its key.
    have hKnown : settings.key call ∈ gate.dedup.entries := by
      by_contra hNew
      rw [TreeMap.getElem?_eq_none hNew] at hVerdict
      cases hVerdict
    obtain ⟨entry, hEntry⟩ : ∃ entry, gate.cooldown.entries[settings.key call]? = some entry :=
      Option.isSome_iff_exists.mp (TreeMap.mem_iff_isSome_getElem?.mp (inv.known _ hKnown))
    rw [hEntry] at hKnows
    have hDue : due settings call calls = false := by
      simp [due, dueAfter, ← hDuplicate, DedupeVerdict.isDuplicate]
    refine ⟨_, _, rfl, by simp, inv.keys, ?_, hSeen, ?_, ?_, ⟨hKnows.2.1, inv.accounts⟩,
      .cons inv.told rfl hDuplicate hDue.symm⟩
    · grind [inv.known]
    · intro other
      rw [lastSent_of_repeats hDuplicate.symm, inv.lastNotified]
    · intro other
      by_cases hKey : settings.key call = other
      · subst hKey
        exact hEntry ▸ hKnows.duplicate
      · exact (inv.knows other).other hKey
  | new =>
    rw [hVerdict] at hDuplicate
    have hSend := CooldownEntry.next_send settings.cooldown call.cooldownNow
      gate.cooldown.entries[settings.key call]?
    have hNotified := inv.lastNotified_insert call hDuplicate.symm
    generalize hNext : CooldownEntry.next settings.cooldown call.cooldownNow
      gate.cooldown.entries[settings.key call]? = result at hSend hNotified
    obtain ⟨verdict, entry⟩ := result
    rw [inv.lastNotified] at hSend
    obtain ⟨hKept, hJust⟩ := hKnows.next hNext
    have hDue : due settings call calls = verdict.isSend := by
      rw [hSend, due, dueAfter, ← hDuplicate]
      rfl
    refine ⟨_, _, rfl, by cases verdict <;> simp [decision], ?_, ?_, hSeen, hNotified, ?_,
      ⟨hJust, inv.accounts⟩, .cons inv.told rfl ?_ ?_⟩
    · grind [inv.keys]
    · grind [inv.known]
    · intro other
      by_cases hKey : settings.key call = other
      · subst hKey
        rw [TreeMap.getElem?_insert_self]
        exact hKept
      · rw [TreeMap.getElem?_insert, if_neg (by simpa using hKey)]
        exact (inv.knows other).other hKey
    · rw [← hDuplicate]
      cases verdict <;> rfl
    · rw [hDue]
      cases verdict <;> rfl

/-- Whatever is called in whatever order, what the entries know stays true. -/
theorem Inv.run (hDedup : keys.dedup.length ≤ settings.dedupCapacity)
    (hCooldown : keys.dedup.length ≤ settings.cooldownCapacity) {rest : List (Call δ)}
    (hKeys : keysOf settings rest ⊆ keys) (inv : Inv settings keys gate calls past) :
    ∃ final, Inv settings keys final (heard settings rest ++ calls)
      (run settings gate past rest) := by
  induction rest generalizing gate calls past with
  | nil => exact ⟨gate, inv⟩
  | cons call _ ih =>
    rw [Notify.run]
    by_cases hPass : settings.filter call.detection
    · rw [keysOf, filter_cons_of_pos (by exact hPass), map_cons, cons_subset] at hKeys
      obtain ⟨decision, next, hStep, hDecision, hNext⟩ :=
        inv.step call hPass hKeys.1 hDedup hCooldown
      rw [hStep, heard, filter_cons_of_pos (by exact hPass), reverse_cons, append_assoc]
      cases decision with
      | filtered => cases hDecision rfl
      | _ => exact ih hKeys.2 hNext
    · rw [keysOf, filter_cons_of_neg (by exact hPass)] at hKeys
      rw [shouldNotify, if_neg hPass, heard, filter_cons_of_neg (by exact hPass)]
      exact ih hKeys inv

theorem Inv.init : Inv settings keys {} [] [] where
  keys := by simp
  known := by simp
  lastSeen := by simp
  lastNotified := by simp [lastSent]
  knows := by simp [Knows]
  accounts := trivial
  told := .nil

theorem Told.length_eq (told : Told settings calls past) : past.length = calls.length := by
  induction told with
  | nil => rfl
  | cons _ _ _ _ ih => rw [length_cons, length_cons, ih]

/-- If nothing is forgotten, repeats are among the dropped exactly if there are any. -/
theorem Told.sinceSend (told : Told settings calls past) (hForgets : forgets settings calls = false)
    (key : String) :
    (∀ other ∈ sinceSend key past, other.isDuplicate = false) ↔
      repeated settings key calls = false := by
  induction told with
  | nil => simp [Notify.sinceSend, repeated]
  | @cons call outcome calls past _ hKey hDuplicate hSend ih =>
    simp only [forgets, Bool.or_eq_false_iff] at hForgets
    have hRest := ih hForgets.2
    rw [sinceSend_cons, repeated, hSend, hKey]
    by_cases hOther : settings.key call = key
    · by_cases hDue : due settings call calls
      · -- a notification is no repeat, and has none of its key before it
        have hFresh : repeats settings call calls = false := by
          simp_all [due, dueAfter]
        simp_all
      · simp [hOther, hDue, hDuplicate, hRest]
    · simp [hOther, hRest]

/-- The cooldown counts all that was dropped exactly if no repeat is among it. -/
theorem throttled_eq_length {dropped : List Outcome} (hShort : dropped.length ≤ u64Max) :
    throttled dropped = dropped.length ↔ ∀ other ∈ dropped, other.isDuplicate = false := by
  have hLe := dropped.countP_le_length (p := (!·.isDuplicate))
  rw [throttled, min_eq_left (hLe.trans hShort), countP_eq_length]
  simp

theorem Told.accounts_iff (told : Told settings calls past)
    (hAccounts : Accounts throttled cooldown past) (hShort : past.length ≤ u64Max) :
    Accounts length cooldown past ↔ forgets settings calls = false := by
  induction told with
  | nil => simp [Accounts, forgets]
  | @cons call outcome calls past hTold hKey hDuplicate hSend ih =>
    rw [length_cons] at hShort
    have hRest := ih hAccounts.2 (by omega)
    have hHead := hAccounts.1
    rw [Accounts, hRest, forgets, Bool.or_eq_false_iff, and_congr_left_iff]
    intro hForgets
    have hDropped := hTold.sinceSend hForgets (settings.key call)
    have hSub : Notify.sinceSend (settings.key call) past <+ past :=
      (takeWhile_sublist _).trans filter_sublist
    have hCount := throttled_eq_length (hSub.length_le.trans (by omega))
    obtain ⟨key, time, decision⟩ := outcome
    subst hKey
    cases decision with
    | send suppressed =>
      rw [← hSend, ← Bool.not_eq_true, Bool.and_eq_true, not_and, Bool.not_eq_true, ← hDropped,
        ← hCount]
      exact ⟨fun hAll _ => hHead.1.symm.trans hAll.1, fun hAll => ⟨hHead.1.trans (hAll rfl), hHead.2⟩⟩
    | _ =>
      rw [← hSend]
      exact ⟨fun _ => rfl, fun _ => hHead⟩

end Step

theorem Within.inv {settings} {calls : List (Call δ)} (within : Within settings calls) :
    ∃ final, Inv settings (keysOf settings calls) final (heard settings calls)
      (run settings {} [] calls) := by
  obtain ⟨final, inv⟩ := Inv.init.run within.dedup within.cooldown (Subset.refl _)
  exact ⟨final, by simpa using inv⟩

/-- Notifications of a key are a cooldown apart, nothing is dropped before the first one, and each
one names what the cooldown has dropped since the one before. -/
theorem run_accounts {calls : List (Call δ)} (within : Within settings calls) :
    Accounts throttled settings.cooldown (run settings {} [] calls) := by
  obtain ⟨_, inv⟩ := within.inv
  exact inv.accounts

/-- Every detection is of one event; the rest is the default. -/
def oneEvent (window cooldown : Nat) : Settings Unit :=
  ⟨fun _ => true, fun _ _ _ => "evt", window, 2000, cooldown, 2000⟩

def callsAt (instants : List Nat) : List (Call Unit) :=
  instants.map fun now => ⟨(), 0, none, now, now⟩

theorem within_callsAt {window cooldown : Nat} {instants : List Nat}
    (hSorted : (instants.flatMap fun now => [now, now]).Pairwise (· ≤ ·))
    (hShort : instants.length ≤ u64Max) : Within (oneEvent window cooldown) (callsAt instants) := by
  have hKeys : (keysOf (oneEvent window cooldown) (callsAt instants)).dedup.length ≤ 1 := by
    have hOne : (keysOf (oneEvent window cooldown) (callsAt instants)).dedup ⊆ ["evt"] := by
      intro key hIn
      simp_all [keysOf, callsAt, oneEvent, Settings.key]
    exact ((nodup_dedup _).subperm hOne).length_le
  refine ⟨hKeys.trans (by simp [oneEvent]), hKeys.trans (by simp [oneEvent]), ?_,
    by simpa [callsAt] using hShort⟩
  simpa [callsAt, flatMap_map] using hSorted

/-- Of five events the second is a duplicate and the next two come within the cooldown. -/
theorem run_accounts_oneEvent :
    Accounts throttled 30 (run (oneEvent 5 30) {} [] (callsAt [0, 2, 10, 20, 40])) ∧
      (run (oneEvent 5 30) {} [] (callsAt [0, 2, 10, 20, 40])).map (·.decision) =
        [.send 2, .throttled 2, .throttled 1, .deduplicated 1, .send 0] :=
  ⟨run_accounts _ (within_callsAt (by decide) (by decide)), by
    simp [run, callsAt, oneEvent, shouldNotify, Settings.key, Tracked.check, Tracked.put,
      DedupeEntry.next, CooldownEntry.next, decision, u64Max]⟩

/-- **A run of the gate names every dropped event** exactly if in it no notification is due after a
repeat of its key. -/
theorem gate_accounts_iff {calls : List (Call δ)} (within : Within settings calls) :
    Accounts length settings.cooldown (run settings {} [] calls) ↔
      forgets settings (heard settings calls) = false := by
  obtain ⟨_, inv⟩ := within.inv
  have hShort : (run settings {} [] calls).length ≤ u64Max := by
    rw [inv.told.length_eq, heard, length_reverse]
    exact (length_filter_le _ _).trans within.short
  exact inv.told.accounts_iff inv.accounts hShort

/-- With the default window and cooldown, events that come five minutes apart are all sent; a last
one right behind is a duplicate that no notification follows. -/
theorem gate_accounts_oneEvent : Accounts length 30000
    (run (oneEvent 300000 30000) {} [] (callsAt [0, 300000, 600000, 600001])) :=
  (gate_accounts_iff _ (within_callsAt (by decide) (by decide))).mpr (by decide)

/-- With a window of ten and a cooldown of five, of three events at 0, 0 and 15 the second one is
dropped, and the notification of the third names no dropped one. -/
theorem oneEvent_unaccounted : Within (oneEvent 10 5) (callsAt [0, 0, 15]) ∧
    ¬Accounts length 5 (run (oneEvent 10 5) {} [] (callsAt [0, 0, 15])) := by
  refine ⟨within_callsAt (by decide) (by decide), ?_⟩
  simp [run, callsAt, oneEvent, shouldNotify, Settings.key, Tracked.check, Tracked.put,
    DedupeEntry.next, CooldownEntry.next, decision, Accounts, Justified, sinceSend_cons,
    Outcome.isSend]

end FrankenTerm.Ports.Notify
