import Mathlib

/-!
# A bounded window of receipts

A service answers a repeated request from the receipt of the effect that it asked for.  Effects and
requests are kept in two maps; a reverse index lists the requests of every effect.  Both maps are
bounded: when one is full, the oldest entry of its queue makes room.  An effect whose outcome is
still open, with all its requests, stands in no queue, and some settled effects never rotate out
either; everything else joins the queues when it is settled.

`Window.Sound` says that the five parts fit together, and every operation on the window keeps it:
eviction, a new effect, another request for a known effect and the settling of an open one.

## Main results

* `planRotation_cases` — a full map gives up the oldest entry of its queue.
* `Window.Sound.commitCapacity` — eviction keeps the window sound and makes room.
* `Window.Sound.enter`, `Window.Sound.ask`, `Window.Sound.settle` — the other operations.
-/

namespace FrankenTerm.Verified.ReceiptWindow

open Std List

/-- What the window has to know about effects and requests. -/
structure Scheme (κ ε ρ : Type) where
  /-- The effect that a request asked for. -/
  effectId : ρ → κ
  /-- The outcome is still open. -/
  pending : ε → Bool
  /-- The receipt never rotates out. -/
  kept : ε → Bool
  /-- The request repeats the identity and the answer of the effect. -/
  Agrees : ε → ρ → Prop
  kept_of_pending : ∀ effect, pending effect = true → kept effect = true

/-- Receipts by effect and by request, the reverse index, the two queues and the bound. -/
structure Window (κ ε ρ : Type) [Ord κ] where
  requests : TreeMap κ ρ := {}
  effects : TreeMap κ ε := {}
  effectRequestIds : TreeMap κ (TreeSet κ) := {}
  requestOrder : List κ := []
  effectOrder : List κ := []
  capacity : Nat

/-- What has to go before a new receipt can be stored. -/
structure CapacityPlan (κ : Type) where
  requestQueuePops : Nat := 0
  requestIds : List κ := []
  effectQueuePops : Nat := 0
  effectIds : List κ := []

section

variable {κ ε ρ : Type} [Ord κ] [DecidableEq κ]

/-- The first entries of a queue that are retained, as many as are needed, and the number of
entries up to the last of them. -/
def pickOldest (retained : κ → Bool) (needed : Nat) (picked : List κ) (pops : Nat) :
    List κ → Option (Nat × List κ)
  | [] => none
  | id :: rest =>
    if retained id && !picked.contains id then
      if picked.length + 1 = needed then some (pops + 1, picked ++ [id])
      else pickOldest retained needed (picked ++ [id]) (pops + 1) rest
    else pickOldest retained needed picked (pops + 1) rest

namespace Window

/-- What a full map gives up; nothing while there is room. -/
def planRotation (wanted : Bool) (size capacity : Nat) (retained : κ → Bool) (order : List κ) :
    Option (Nat × List κ) :=
  if wanted && decide (capacity ≤ size) then
    pickOldest retained (size - capacity + 1) [] 0 order
  else some (0, [])

/-- The evictions before a new request and, possibly, a new effect. -/
def planCapacity (window : Window κ ε ρ) (newRequest newEffect : Bool) :
    Option (CapacityPlan κ) := do
  let requests ← planRotation newRequest window.requests.size window.capacity
    window.requests.contains window.requestOrder
  let effects ← planRotation newEffect window.effects.size window.capacity
    window.effects.contains window.effectOrder
  return ⟨requests.1, requests.2, effects.1, effects.2⟩

variable (scheme : Scheme κ ε ρ)

section

variable (window : Window κ ε ρ) (effectId : κ)

/-- One request goes. -/
def evictRequest (requestId : κ) : Window κ ε ρ :=
  match window.requests[requestId]? with
  | none => window
  | some request =>
    { window with
      requests := window.requests.erase requestId
      effectRequestIds := window.effectRequestIds.modify (scheme.effectId request)
        (·.erase requestId) }

/-- One effect goes, with its requests. -/
def evictEffect : Window κ ε ρ :=
  match window.effectRequestIds[effectId]? with
  | none => { window with effects := window.effects.erase effectId }
  | some requestIds =>
    { window with
      effects := window.effects.erase effectId
      effectRequestIds := window.effectRequestIds.erase effectId
      requests := requestIds.toList.foldl TreeMap.erase window.requests
      requestOrder := window.requestOrder.filter fun queued => !requestIds.contains queued }

/-- The planned evictions. -/
def commitCapacity (plan : CapacityPlan κ) : Window κ ε ρ :=
  let popped := { window with requestOrder := window.requestOrder.drop plan.requestQueuePops }
  let window := plan.requestIds.foldl (evictRequest scheme) popped
  let popped := { window with effectOrder := window.effectOrder.drop plan.effectQueuePops }
  plan.effectIds.foldl evictEffect popped

/-- A new effect and its first request. -/
def enter (effect : ε) (requestId : κ) (request : ρ) (requestQueued effectQueued : Bool) :
    Window κ ε ρ :=
  { window with
    effects := window.effects.insert effectId effect
    requests := window.requests.insert requestId request
    effectRequestIds := window.effectRequestIds.insert effectId (({} : TreeSet κ).insert requestId)
    requestOrder := if requestQueued then window.requestOrder ++ [requestId]
      else window.requestOrder
    effectOrder := if effectQueued then window.effectOrder ++ [effectId] else window.effectOrder }

/-- Another request for a known effect. -/
def ask (requestId : κ) (request : ρ) (queued : Bool) : Window κ ε ρ :=
  { window with
    requests := window.requests.insert requestId request
    effectRequestIds := window.effectRequestIds.modify effectId (·.insert requestId)
    requestOrder := if queued then window.requestOrder ++ [requestId] else window.requestOrder }

/-- An open effect is settled: its requests get the new answer, and all of them join the queues. -/
def settle (effect : ε) (requestIds : TreeSet κ) (answer : ρ → ρ) : Window κ ε ρ :=
  { window with
    effects := window.effects.insert effectId effect
    requests := window.requests.map fun id request =>
      if requestIds.contains id then answer request else request
    requestOrder := window.requestOrder ++ requestIds.toList
    effectOrder := window.effectOrder ++ [effectId] }

end

end Window

end

variable {κ ε ρ : Type} [Ord κ] [TransOrd κ] [LawfulEqOrd κ] [DecidableEq κ]

/-- The parts of the window fit together. -/
structure Window.Sound (scheme : Scheme κ ε ρ) (window : Window κ ε ρ) : Prop where
  requests_le : window.requests.size ≤ window.capacity
  effects_le : window.effects.size ≤ window.capacity
  effect_of_request : ∀ (id : κ) request, window.requests[id]? = some request →
    ∃ effect, window.effects[scheme.effectId request]? = some effect ∧ scheme.Agrees effect request
  indexed : ∀ id, id ∈ window.effectRequestIds ↔ id ∈ window.effects
  mem_index : ∀ (effectId : κ) ids, window.effectRequestIds[effectId]? = some ids →
    ∀ id : κ, id ∈ ids ↔ ∃ request, window.requests[id]? = some request ∧
      scheme.effectId request = effectId
  asked : ∀ (effectId : κ) effect, window.effects[effectId]? = some effect →
    scheme.pending effect = true →
    ∃ (id : κ) (request : ρ), window.requests[id]? = some request ∧
      scheme.effectId request = effectId
  requestOrder_nodup : window.requestOrder.Nodup
  effectOrder_nodup : window.effectOrder.Nodup
  request_of_queued : ∀ id ∈ window.requestOrder, ∃ request effect,
    window.requests[id]? = some request ∧
      window.effects[scheme.effectId request]? = some effect ∧ scheme.pending effect = false
  effect_of_queued : ∀ id ∈ window.effectOrder, ∃ effect,
    window.effects[id]? = some effect ∧ scheme.kept effect = false

/-! ## Eviction -/

omit [Ord κ] [TransOrd κ] [LawfulEqOrd κ] in
/-- **A full map gives up the oldest entry of its queue**, and a map with room nothing: a sound
window is never over its bound, and its queues hold retained entries only. -/
theorem planRotation_cases {wanted : Bool} {size capacity : Nat} {retained : κ → Bool}
    {order : List κ} {pops : Nat} {ids : List κ}
    (hRetained : ∀ id ∈ order, retained id) (hLe : size ≤ capacity)
    (h : Window.planRotation wanted size capacity retained order = some (pops, ids)) :
    (pops = 0 ∧ ids = [] ∧ (wanted → size < capacity)) ∨
      ∃ id rest, order = id :: rest ∧ pops = 1 ∧ ids = [id] ∧ size = capacity := by
  unfold Window.planRotation at h
  split_ifs at h with hFull
  · simp only [Bool.and_eq_true, decide_eq_true_eq] at hFull
    have hOne : size - capacity + 1 = 1 := by omega
    rw [hOne] at h
    cases order with
    | nil => cases h
    | cons id rest =>
      have hHead : (retained id && !([] : List κ).contains id) = true := by
        simp [hRetained id (by simp)]
      rw [pickOldest, if_pos hHead, if_pos (by simp)] at h
      obtain ⟨rfl, rfl⟩ := Prod.mk.inj (Option.some.inj h)
      exact .inr ⟨id, rest, rfl, rfl, rfl, by omega⟩
  · obtain ⟨rfl, rfl⟩ := Prod.mk.inj (Option.some.inj h)
    refine .inl ⟨rfl, rfl, fun hWanted => ?_⟩
    simp only [hWanted, Bool.true_and, decide_eq_true_eq] at hFull
    omega

variable {α : Type}

theorem getElem?_foldl_erase (ids : List κ) (entries : TreeMap κ α) (a : κ) :
    (ids.foldl TreeMap.erase entries)[a]? = if a ∈ ids then none else entries[a]? := by
  induction ids generalizing entries with
  | nil => simp
  | cons _ _ ih =>
    grind

omit [LawfulEqOrd κ] [DecidableEq κ] in
theorem size_foldl_erase_le (ids : List κ) (entries : TreeMap κ α) :
    (ids.foldl TreeMap.erase entries).size ≤ entries.size := by
  induction ids generalizing entries with
  | nil => exact le_rfl
  | cons _ _ ih => exact (ih _).trans (by grind)

omit [DecidableEq κ] in
theorem size_erase_lt {entries : TreeMap κ α} {id : κ} {value : α} (h : entries[id]? = some value) :
    (entries.erase id).size < entries.size := by
  have hMem : id ∈ entries := by grind
  have hPos : 0 < entries.size := by
    rw [← TreeMap.length_keys]
    exact length_pos_of_mem (TreeMap.mem_keys.mpr hMem)
  grind

namespace Window.Sound

variable {scheme : Scheme κ ε ρ} {window : Window κ ε ρ}

variable {effect : ε} {effectId id : κ} {request : ρ}

omit [LawfulEqOrd κ] [DecidableEq κ] in
/-- A retained effect is in the index. -/
theorem exists_index (h : window.Sound scheme) (hEffect : window.effects[id]? = some effect) :
    ∃ ids, window.effectRequestIds[id]? = some ids := by
  have hMem : id ∈ window.effectRequestIds := (h.indexed id).mpr (by grind)
  exact ⟨_, TreeMap.getElem?_eq_some_getElem hMem⟩

omit [TransOrd κ] [LawfulEqOrd κ] [DecidableEq κ] in
/-- Shorter queues. -/
theorem pop (h : window.Sound scheme) {requestOrder effectOrder : List κ}
    (hRequests : requestOrder.Sublist window.requestOrder)
    (hEffects : effectOrder.Sublist window.effectOrder) :
    ({ window with requestOrder := requestOrder, effectOrder := effectOrder } :
      Window κ ε ρ).Sound scheme :=
  { h with
    requestOrder_nodup := hRequests.nodup h.requestOrder_nodup
    effectOrder_nodup := hEffects.nodup h.effectOrder_nodup
    request_of_queued := fun id hId => h.request_of_queued id (hRequests.subset hId)
    effect_of_queued := fun id hId => h.effect_of_queued id (hEffects.subset hId) }

/-- A request of a settled effect that stands in no queue may go. -/
theorem evictRequest (h : window.Sound scheme) (hQueue : id ∉ window.requestOrder)
    (hRequest : window.requests[id]? = some request)
    (hEffect : window.effects[scheme.effectId request]? = some effect)
    (hSettled : scheme.pending effect = false) : (window.evictRequest scheme id).Sound scheme := by
  have hEq : window.evictRequest scheme id = { window with
      requests := window.requests.erase id
      effectRequestIds := window.effectRequestIds.modify (scheme.effectId request) (·.erase id) } := by
    simp only [Window.evictRequest, hRequest]
  rw [hEq]
  have hRequests : ∀ a : κ, (window.requests.erase id)[a]? =
      if a = id then none else window.requests[a]? := by grind
  constructor
  case requests_le =>
    have := h.requests_le
    grind
  case effects_le => exact h.effects_le
  case effect_of_request =>
    intro a q hq
    have := h.effect_of_request a q
    grind
  case indexed =>
    intro a
    have := h.indexed a
    grind
  case mem_index =>
    intro e ids _ a
    have := h.mem_index e
    grind
  case asked =>
    intro e ef hEf hPending
    obtain ⟨a, q, hq, hqe⟩ := h.asked e ef hEf hPending
    refine ⟨a, q, ?_, hqe⟩
    grind
  case requestOrder_nodup => exact h.requestOrder_nodup
  case effectOrder_nodup => exact h.effectOrder_nodup
  case request_of_queued =>
    intro a ha
    obtain ⟨q, ef, hq, hEf⟩ := h.request_of_queued a ha
    refine ⟨q, ef, ?_, hEf⟩
    grind
  case effect_of_queued => exact h.effect_of_queued

/-- An effect that stands in no queue may go, with its requests. -/
theorem evictEffect (h : window.Sound scheme) (hQueue : id ∉ window.effectOrder)
    (hEffect : window.effects[id]? = some effect) : (window.evictEffect id).Sound scheme := by
  obtain ⟨ids, hIds⟩ := h.exists_index hEffect
  have hMem := h.mem_index id ids hIds
  have hEq : window.evictEffect id = { window with
      effects := window.effects.erase id
      effectRequestIds := window.effectRequestIds.erase id
      requests := ids.toList.foldl TreeMap.erase window.requests
      requestOrder := window.requestOrder.filter fun queued => !ids.contains queued } := by
    simp only [Window.evictEffect, hIds]
  rw [hEq]
  have hRequests : ∀ a : κ, (ids.toList.foldl TreeMap.erase window.requests)[a]? =
      if a ∈ ids then none else window.requests[a]? := by
    intro a
    rw [getElem?_foldl_erase]
    simp only [TreeSet.mem_toList]
  constructor
  case requests_le => exact (size_foldl_erase_le _ _).trans h.requests_le
  case effects_le =>
    have := h.effects_le
    grind
  case effect_of_request =>
    intro a q hq
    have := h.effect_of_request a q
    grind
  case indexed =>
    intro a
    have := h.indexed a
    grind
  case mem_index =>
    intro e ids' _ a
    have := h.mem_index e
    grind
  case asked =>
    intro e ef _ hPending
    obtain ⟨a, q, hq, hqe⟩ := h.asked e ef (by grind) hPending
    refine ⟨a, q, ?_, hqe⟩
    have hNe : e ≠ id := by grind
    grind
  case requestOrder_nodup => exact h.requestOrder_nodup.filter _
  case effectOrder_nodup => exact h.effectOrder_nodup
  case request_of_queued =>
    intro a ha
    simp only [mem_filter, Bool.not_eq_true', ← Bool.not_eq_true, TreeSet.contains_iff_mem]
      at ha
    obtain ⟨q, ef, hq, _, hSettled⟩ := h.request_of_queued a ha.1
    refine ⟨q, ef, ?_, ?_, hSettled⟩
    · grind
    · grind
  case effect_of_queued =>
    intro a ha
    obtain ⟨ef, _, hKept⟩ := h.effect_of_queued a ha
    exact ⟨ef, by grind, hKept⟩

/-- What eviction may do to a window. -/
structure Evicted (scheme : Scheme κ ε ρ) (before after : Window κ ε ρ) : Prop where
  capacity : after.capacity = before.capacity
  requests : ∀ (id : κ) request, after.requests[id]? = some request →
    before.requests[id]? = some request
  effects : ∀ (id : κ) effect, after.effects[id]? = some effect → before.effects[id]? = some effect
  kept : ∀ (id : κ) effect, before.effects[id]? = some effect → scheme.kept effect = true →
    after.effects[id]? = some effect

/-- The oldest request makes room. -/
theorem rotateRequests (h : window.Sound scheme) {wanted : Bool} {pops : Nat} {ids : List κ}
    (hPlan : Window.planRotation wanted window.requests.size window.capacity
      window.requests.contains window.requestOrder = some (pops, ids)) :
    let after := ids.foldl (Window.evictRequest scheme)
      { window with requestOrder := window.requestOrder.drop pops }
    after.Sound scheme ∧ Evicted scheme window after ∧ after.effects = window.effects ∧
      after.effectOrder = window.effectOrder ∧
      (wanted → after.requests.size < window.capacity) := by
  have hRetained : ∀ id ∈ window.requestOrder, window.requests.contains id := by
    intro id hId
    obtain ⟨request, _⟩ := h.request_of_queued id hId
    grind
  rcases planRotation_cases hRetained h.requests_le hPlan with
    ⟨rfl, rfl, hRoom⟩ | ⟨id, rest, hOrder, rfl, rfl, hFull⟩
  · exact ⟨h, ⟨rfl, fun _ _ h => h, fun _ _ h => h, fun _ _ h _ => h⟩, rfl, rfl, hRoom⟩
  · obtain ⟨request, effect, hRequest, hEffect, hSettled⟩ :=
      h.request_of_queued id (by rw [hOrder]; exact mem_cons_self)
    have hNodup := h.requestOrder_nodup
    rw [hOrder, nodup_cons] at hNodup
    have hPop : ({ window with requestOrder := rest } : Window κ ε ρ).Sound scheme :=
      h.pop (by rw [hOrder]; exact sublist_cons_self _ _) (List.Sublist.refl _)
    have hEvict := hPop.evictRequest hNodup.1 hRequest hEffect hSettled
    simp only [hOrder, drop_succ_cons, drop_zero, foldl_cons, foldl_nil]
    refine ⟨hEvict, ?_⟩
    simp only [Window.evictRequest, hRequest]
    refine ⟨⟨rfl, ?_, fun _ _ h => h, fun _ _ h _ => h⟩, trivial, trivial, fun _ => ?_⟩
    · intro a q hq
      grind
    · rw [← hFull]
      exact size_erase_lt hRequest

/-- The oldest effect makes room, with its requests. -/
theorem rotateEffects (h : window.Sound scheme) {wanted : Bool} {pops : Nat} {ids : List κ}
    (hPlan : Window.planRotation wanted window.effects.size window.capacity
      window.effects.contains window.effectOrder = some (pops, ids)) :
    let after := ids.foldl Window.evictEffect
      { window with effectOrder := window.effectOrder.drop pops }
    after.Sound scheme ∧ Evicted scheme window after ∧ after.requests.size ≤ window.requests.size ∧
      (wanted → after.effects.size < window.capacity) ∧
      (wanted = false → after.effects = window.effects) := by
  have hRetained : ∀ id ∈ window.effectOrder, window.effects.contains id := by
    intro id hId
    obtain ⟨effect, _⟩ := h.effect_of_queued id hId
    grind
  rcases planRotation_cases hRetained h.effects_le hPlan with
    ⟨rfl, rfl, hRoom⟩ | ⟨id, rest, hOrder, rfl, rfl, hFull⟩
  · exact ⟨h, ⟨rfl, fun _ _ h => h, fun _ _ h => h, fun _ _ h _ => h⟩, le_rfl, hRoom, fun _ => rfl⟩
  · have hWanted : wanted := by
      cases wanted with
      | true => rfl
      | false => cases hPlan
    obtain ⟨effect, hEffect, _⟩ :=
      h.effect_of_queued id (by rw [hOrder]; exact mem_cons_self)
    have hNodup := h.effectOrder_nodup
    rw [hOrder, nodup_cons] at hNodup
    have hPop : ({ window with effectOrder := rest } : Window κ ε ρ).Sound scheme :=
      h.pop (List.Sublist.refl _) (by rw [hOrder]; exact sublist_cons_self _ _)
    have hEvict := hPop.evictEffect hNodup.1 hEffect
    obtain ⟨requestIds, hIds⟩ := h.exists_index hEffect
    simp only [hOrder, drop_succ_cons, drop_zero, foldl_cons, foldl_nil]
    refine ⟨hEvict, ?_⟩
    simp only [Window.evictEffect, hIds]
    refine ⟨⟨rfl, ?_, ?_, ?_⟩, size_foldl_erase_le _ _, fun _ => ?_, ?_⟩
    · intro a q hq
      rw [getElem?_foldl_erase] at hq
      grind
    · intro a ef _
      grind
    · intro a ef _ _
      grind
    · rw [← hFull]
      exact size_erase_lt hEffect
    · rw [hWanted]
      exact nofun

/-- **Eviction keeps the window sound and makes room.** -/
theorem commitCapacity (h : window.Sound scheme) {newRequest newEffect : Bool}
    {plan : CapacityPlan κ} (hPlan : window.planCapacity newRequest newEffect = some plan) :
    (window.commitCapacity scheme plan).Sound scheme ∧
      Evicted scheme window (window.commitCapacity scheme plan) ∧
      (newRequest → (window.commitCapacity scheme plan).requests.size < window.capacity) ∧
      (newEffect → (window.commitCapacity scheme plan).effects.size < window.capacity) ∧
      (newEffect = false → (window.commitCapacity scheme plan).effects = window.effects) := by
  unfold Window.planCapacity at hPlan
  simp only [Option.bind_eq_bind, Option.bind_eq_some_iff, Option.pure_def, Option.some.injEq]
    at hPlan
  obtain ⟨requests, hRequests, effects, hEffects, rfl⟩ := hPlan
  obtain ⟨hSound, hEvicted, hSame, hOrder, hRoom⟩ := h.rotateRequests hRequests
  unfold Window.commitCapacity
  simp only
  generalize foldl (Window.evictRequest scheme)
    { window with requestOrder := window.requestOrder.drop requests.1 } requests.2 = middle
    at hSound hEvicted hSame hOrder hRoom ⊢
  rw [← hSame, ← hOrder, ← hEvicted.capacity] at hEffects
  obtain ⟨hSound', hEvicted', hLe, hRoom', hSame'⟩ := hSound.rotateEffects hEffects
  refine ⟨hSound', ⟨?_, ?_, ?_, ?_⟩, fun hNew => ?_, fun hNew => ?_, fun hNew => ?_⟩
  · rw [hEvicted'.capacity, hEvicted.capacity]
  · exact fun id q hq => hEvicted.requests id q (hEvicted'.requests id q hq)
  · exact fun id ef hEf => hEvicted.effects id ef (hEvicted'.effects id ef hEf)
  · exact fun id ef hEf hKept => hEvicted'.kept id ef (hEvicted.kept id ef hEf hKept) hKept
  · exact hLe.trans_lt (hRoom hNew)
  · rw [← hEvicted.capacity]
    exact hRoom' hNew
  · rw [hSame' hNew, hSame]

/-! ## New receipts -/

/-- **A new effect keeps the window sound** when there is room for it and for its request. -/
theorem enter (h : window.Sound scheme) (hRequests : window.requests.size < window.capacity)
    (hEffects : window.effects.size < window.capacity) {requestId : κ}
    (hEffect : window.effects[effectId]? = none) (hRequest : window.requests[requestId]? = none)
    (hId : scheme.effectId request = effectId) (hAgrees : scheme.Agrees effect request)
    {requestQueued effectQueued : Bool}
    (hRequestQueued : requestQueued → scheme.pending effect = false)
    (hEffectQueued : effectQueued → scheme.kept effect = false) :
    (window.enter effectId effect requestId request requestQueued effectQueued).Sound scheme := by
  have hNotQueued : requestId ∉ window.requestOrder := by
    intro hMem
    obtain ⟨q, _, hq, _⟩ := h.request_of_queued requestId hMem
    rw [hRequest] at hq
    cases hq
  have hNotQueuedEffect : effectId ∉ window.effectOrder := by
    intro hMem
    obtain ⟨ef, hEf, _⟩ := h.effect_of_queued effectId hMem
    rw [hEffect] at hEf
    cases hEf
  have hOld : ∀ (a : κ) q, window.requests[a]? = some q → scheme.effectId q ≠ effectId := by
    intro a q hq hEq
    obtain ⟨ef, hEf, _⟩ := h.effect_of_request a q hq
    rw [hEq, hEffect] at hEf
    cases hEf
  unfold Window.enter
  constructor
  case requests_le => grind
  case effects_le => grind
  case effect_of_request =>
    intro a q hq
    have := h.effect_of_request a q
    grind
  case indexed =>
    intro a
    have := h.indexed a
    grind
  case mem_index =>
    intro e ids _ a
    have := h.mem_index e
    grind
  case asked =>
    intro e ef _ hPending
    by_cases hNew : e = effectId
    · exact ⟨requestId, request, by grind, by grind⟩
    · obtain ⟨a, q, hq, hqe⟩ := h.asked e ef (by grind) hPending
      exact ⟨a, q, by grind, hqe⟩
  case requestOrder_nodup =>
    have := h.requestOrder_nodup
    grind
  case effectOrder_nodup =>
    have := h.effectOrder_nodup
    grind
  case request_of_queued =>
    intro a ha
    by_cases hNew : a = requestId
    · exact ⟨request, effect, by grind, by grind, by grind⟩
    · obtain ⟨q, ef, hq, _, hSettled⟩ := h.request_of_queued a (by grind)
      exact ⟨q, ef, by grind, by grind, hSettled⟩
  case effect_of_queued =>
    intro a ha
    by_cases hNew : a = effectId
    · exact ⟨effect, by grind, by grind⟩
    · obtain ⟨ef, _, hKept⟩ := h.effect_of_queued a (by grind)
      exact ⟨ef, by grind, hKept⟩

/-- **Another request keeps the window sound** when there is room for it. -/
theorem ask (h : window.Sound scheme) (hRequests : window.requests.size < window.capacity)
    {requestId : κ} (hEffect : window.effects[effectId]? = some effect)
    (hRequest : window.requests[requestId]? = none) (hId : scheme.effectId request = effectId)
    (hAgrees : scheme.Agrees effect request) {queued : Bool}
    (hQueued : queued → scheme.pending effect = false) :
    (window.ask effectId requestId request queued).Sound scheme := by
  have hNotQueued : requestId ∉ window.requestOrder := by
    intro hMem
    obtain ⟨q, _, hq, _⟩ := h.request_of_queued requestId hMem
    rw [hRequest] at hq
    cases hq
  unfold Window.ask
  constructor
  case requests_le => grind
  case effects_le => exact h.effects_le
  case effect_of_request =>
    intro a q hq
    have := h.effect_of_request a q
    grind
  case indexed =>
    intro a
    have := h.indexed a
    grind
  case mem_index =>
    intro e ids _ a
    have := h.mem_index e
    grind
  case asked =>
    intro e ef hEf hPending
    obtain ⟨a, q, hq, hqe⟩ := h.asked e ef hEf hPending
    exact ⟨a, q, by grind, hqe⟩
  case requestOrder_nodup =>
    have := h.requestOrder_nodup
    grind
  case effectOrder_nodup => exact h.effectOrder_nodup
  case request_of_queued =>
    intro a ha
    by_cases hNew : a = requestId
    · exact ⟨request, effect, by grind, by grind, by grind⟩
    · obtain ⟨q, ef, hq, _, hSettled⟩ := h.request_of_queued a (by grind)
      exact ⟨q, ef, by grind, by grind, hSettled⟩
  case effect_of_queued => exact h.effect_of_queued

/-- **Settling an open effect keeps the window sound.** -/
theorem settle (h : window.Sound scheme) {settled : ε} {ids : TreeSet κ} {answer : ρ → ρ}
    (hEffect : window.effects[effectId]? = some effect) (hPending : scheme.pending effect)
    (hIds : window.effectRequestIds[effectId]? = some ids) (hSettled : scheme.kept settled = false)
    (hAnswer : ∀ request, scheme.effectId (answer request) = scheme.effectId request)
    (hAgrees : ∀ request, scheme.Agrees effect request → scheme.Agrees settled (answer request)) :
    (window.settle effectId settled ids answer).Sound scheme := by
  have hMem := h.mem_index effectId ids hIds
  have hOpen : scheme.pending settled = false := by
    have := scheme.kept_of_pending settled
    grind
  have hNotQueued : effectId ∉ window.effectOrder := by
    intro hQueued
    obtain ⟨ef, _⟩ := h.effect_of_queued effectId hQueued
    have := scheme.kept_of_pending effect hPending
    grind
  have hNoneQueued : ∀ id ∈ ids, id ∉ window.requestOrder := by
    intro id _ hQueued
    obtain ⟨q, ef, hq, _⟩ := h.request_of_queued id hQueued
    grind
  have hRequests : ∀ a : κ, (window.requests.map fun id request =>
      if ids.contains id then answer request else request)[a]? =
      window.requests[a]?.map fun request => if a ∈ ids then answer request else request := by
    intro a
    rw [TreeMap.getElem?_map]
    simp only [TreeSet.contains_iff_mem]
  unfold Window.settle
  constructor
  case requests_le =>
    have := h.requests_le
    simpa using this
  case effects_le =>
    have := h.effects_le
    grind
  case effect_of_request =>
    intro a q hq
    simp only [hRequests, Option.map_eq_some_iff] at hq
    obtain ⟨old, hOld, rfl⟩ := hq
    obtain ⟨ef, _, hOldAgrees⟩ := h.effect_of_request a old hOld
    by_cases hIn : a ∈ ids
    · exact ⟨settled, by grind, by grind⟩
    · rw [if_neg hIn]
      exact ⟨ef, by grind, hOldAgrees⟩
  case indexed =>
    intro a
    have := h.indexed a
    grind
  case mem_index =>
    intro e others hOthers a
    rw [h.mem_index e others hOthers a]
    grind
  case asked =>
    intro e ef _ hEfPending
    have hNe : e ≠ effectId := by grind
    obtain ⟨a, q, hq, hqe⟩ := h.asked e ef (by grind) hEfPending
    refine ⟨a, q, ?_, hqe⟩
    grind
  case requestOrder_nodup =>
    refine nodup_append.mpr ⟨h.requestOrder_nodup, ?_, ?_⟩
    · have hDistinct := @TreeSet.distinct_toList _ _ ids _
      exact hDistinct.imp fun hNe hEq => hNe (by rw [hEq]; exact ReflOrd.compare_self)
    · intro a ha b hb hEq
      exact hNoneQueued b (TreeSet.mem_toList.mp hb) (hEq ▸ ha)
  case effectOrder_nodup =>
    have := h.effectOrder_nodup
    grind
  case request_of_queued =>
    intro a ha
    rcases mem_append.mp ha with hOld | hNew
    · obtain ⟨q, ef, hq, _, hNot⟩ := h.request_of_queued a hOld
      have hOut : a ∉ ids := fun hIn => hNoneQueued a hIn hOld
      refine ⟨q, ef, ?_, by grind, hNot⟩
      rw [hRequests, hq, Option.map_some, if_neg hOut]
    · have hIn := TreeSet.mem_toList.mp hNew
      obtain ⟨q, hq, hqe⟩ := (hMem a).mp hIn
      refine ⟨answer q, settled, ?_, by grind, hOpen⟩
      rw [hRequests, hq, Option.map_some, if_pos hIn]
  case effect_of_queued =>
    intro a ha
    rcases mem_append.mp ha with hOld | hNew
    · obtain ⟨ef, _, hKept⟩ := h.effect_of_queued a hOld
      exact ⟨ef, by grind, hKept⟩
    · exact ⟨settled, by grind, hSettled⟩

end Window.Sound

end FrankenTerm.Verified.ReceiptWindow
