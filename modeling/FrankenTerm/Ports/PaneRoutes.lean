import FrankenTerm.Verified.Loop
import FrankenTerm.Verified.RustText

/-!
# Routes of sharded panes (`sharding.rs`)

A sharded client gives every pane a global id that holds the shard and the pane's id there, and keeps
a cache of routes.  A full listing asks one backend after the other and then replaces the cache; in
between, other calls may create, find or kill panes and update single routes.  Each update of the cache
advances a generation under a lock, and a listing publishes only what it began in the generation that
is still the current one.

What the lock protects is one event.  What a call does before it updates the cache does not touch it,
and a call that fails or is cancelled before has no event.

## Main results

* `paneRoutes_never_stale` — no cached route is stale, and no listing that came too late is published.
-/

namespace FrankenTerm.Ports.PaneRoutes

open FrankenTerm.Verified
open FrankenTerm.Verified.RustText (u64Max)
open Std (TreeMap)

/-- `LOCAL_PANE_ID_MASK`, over `LOCAL_PANE_ID_BITS` bits. -/
def localPaneIdMask : Nat := 2 ^ 48 - 1

/-- `MAX_SHARD_ID`, of `SHARD_ID_BITS` bits. -/
def maxShardId : Nat := 2 ^ 15 - 1

/-- `MAX_GLOBAL_PANE_ID`. -/
def maxGlobalPaneId : Nat := 2 ^ 63 - 1

/-- `try_encode_sharded_pane_id`. -/
def tryEncodeShardedPaneId (shardId localPaneId : Nat) : Except String Nat :=
  if shardId > maxShardId then
    .error s!"shard id {shardId} exceeds 15-bit persistence-safe encoded capacity (max={maxShardId})"
  else if localPaneId > localPaneIdMask then
    .error s!"local pane id {localPaneId} exceeds 48-bit encoded capacity (max={localPaneIdMask})"
  else .ok (shardId <<< 48 ||| localPaneId)

/-- `try_decode_sharded_pane_id`. -/
def tryDecodeShardedPaneId (globalPaneId : Nat) : Except String (Nat × Nat) :=
  if globalPaneId > maxGlobalPaneId then
    .error (s!"global pane id {globalPaneId} exceeds persistence-safe signed-64 range " ++
      s!"(max={maxGlobalPaneId})")
  else .ok (globalPaneId >>> 48, globalPaneId &&& localPaneIdMask)

/-- `PaneRoute`. -/
structure PaneRoute where
  shardId : Nat
  localPaneId : Nat

abbrev Routes := TreeMap Nat PaneRoute

/-- `ShardedWeztermClient`, of its backends their ids. -/
structure ShardedWeztermClient where
  backends : List Nat
  paneRoutes : Routes := ∅
  paneRouteGeneration : Nat := 0

namespace ShardedWeztermClient

variable (client : ShardedWeztermClient)

/-- `advance_pane_route_generation_locked`: the last generation has no next. -/
def advancePaneRouteGenerationLocked : ShardedWeztermClient :=
  { client with paneRouteGeneration := min (client.paneRouteGeneration + 1) u64Max }

/-- `insert_pane_route`. -/
def insertPaneRoute (paneId : Nat) (route : PaneRoute) : ShardedWeztermClient :=
  { client with
    paneRoutes := client.paneRoutes.insert paneId route }.advancePaneRouteGenerationLocked

/-- `remove_pane_route`. -/
def removePaneRoute (paneId : Nat) : ShardedWeztermClient :=
  { client with paneRoutes := client.paneRoutes.erase paneId }.advancePaneRouteGenerationLocked

/-- `publish_pane_route_snapshot`. -/
def publishPaneRouteSnapshot (expectedGeneration : Nat) (routes : Routes) : ShardedWeztermClient :=
  if client.paneRouteGeneration = u64Max ∨ client.paneRouteGeneration ≠ expectedGeneration then client
  else { client with paneRoutes := routes }.advancePaneRouteGenerationLocked

/-- The end of the calls that spawn, split or find a pane.  A pane whose id cannot be encoded is rolled
back, or reported as an error. -/
def recordPane (shardId localPaneId : Nat) : ShardedWeztermClient :=
  match tryEncodeShardedPaneId shardId localPaneId with
  | .ok globalPaneId => client.insertPaneRoute globalPaneId ⟨shardId, localPaneId⟩
  | .error _ => client

/-- `collect_panes_with_cx`, with the panes that each backend answers. -/
def collectPanes (answers : Nat → List Nat) : Except String Routes :=
  client.backends.foldlM (fun routes shardId =>
    (answers shardId).foldlM (fun routes localPaneId => do
      let globalPaneId ← tryEncodeShardedPaneId shardId localPaneId
      return routes.insert globalPaneId ⟨shardId, localPaneId⟩) routes) ∅

/-- The end of `list_all_panes_with_cx`. -/
def finishListing (routeGeneration : Nat) (answers : Nat → List Nat) : ShardedWeztermClient :=
  match client.collectPanes answers with
  | .ok routes => client.publishPaneRouteSnapshot routeGeneration routes
  | .error _ => client

end ShardedWeztermClient

/-- A client with the generations that the listings on their way have read. -/
structure Mux where
  client : ShardedWeztermClient
  listings : Nat → Option Nat := fun _ => none

inductive Event where
  | startListing (k : Nat)
  | finishListing (k : Nat) (answers : Nat → List Nat)
  /-- A backend has created a pane, or found one in a direction. -/
  | recordPane (shardId localPaneId : Nat)
  /-- A backend has killed the pane. -/
  | killPane (paneId : Nat)

/-- The event updates one route. -/
def Event.IsPointUpdate : Event → Prop
  | .recordPane shardId localPaneId => ∃ id, tryEncodeShardedPaneId shardId localPaneId = .ok id
  | .killPane _ => True
  | .startListing _ | .finishListing .. => False

namespace Mux

variable (mux : Mux)

def step : Event → Mux
  | .startListing k =>
    { mux with
      listings := Function.update mux.listings k (some mux.client.paneRouteGeneration) }
  | .finishListing k answers =>
    match mux.listings k with
    | some generation =>
      { client := mux.client.finishListing generation answers
        listings := Function.update mux.listings k none }
    | none => mux
  | .recordPane shardId localPaneId =>
    { mux with client := mux.client.recordPane shardId localPaneId }
  | .killPane paneId => { mux with client := mux.client.removePaneRoute paneId }

def run (events : List Event) : Mux := events.foldl step mux

end Mux

/-! ## Routes and ids -/

theorem decode_of_encode {shardId localPaneId id : Nat}
    (h : tryEncodeShardedPaneId shardId localPaneId = .ok id) :
    tryDecodeShardedPaneId id = .ok (shardId, localPaneId) := by
  unfold tryEncodeShardedPaneId at h
  split at h
  · cases h
  split at h
  · cases h
  rename_i hShard hLocal
  have hFits : localPaneId < 2 ^ 48 := by
    unfold localPaneIdMask at hLocal
    omega
  unfold maxShardId at hShard
  cases h
  unfold tryDecodeShardedPaneId localPaneIdMask maxGlobalPaneId
  rw [← Nat.shiftLeft_add_eq_or_of_lt hFits, Nat.and_two_pow_sub_one_eq_mod, Nat.shiftLeft_eq,
    Nat.shiftRight_eq_div_pow, if_neg (by omega)]
  congr 2 <;> omega

/-- Every route is the one its id encodes. -/
def Encoded (routes : Routes) : Prop :=
  ∀ id route, routes[id]? = some route →
    tryDecodeShardedPaneId id = .ok (route.shardId, route.localPaneId)

variable {routes : Routes}

theorem Encoded.insert (h : Encoded routes) {shardId localPaneId id : Nat}
    (hEncode : tryEncodeShardedPaneId shardId localPaneId = .ok id) :
    Encoded (routes.insert id ⟨shardId, localPaneId⟩) := by
  intro other route hRoute
  rw [TreeMap.getElem?_insert] at hRoute
  split at hRoute
  · rename_i hSame
    cases hRoute
    rw [← Std.LawfulEqCmp.eq_of_compare hSame]
    exact decode_of_encode hEncode
  · exact h other route hRoute

theorem Encoded.erase (h : Encoded routes) (id : Nat) : Encoded (routes.erase id) := by
  intro other route hRoute
  rw [TreeMap.getElem?_erase] at hRoute
  split at hRoute
  · cases hRoute
  · exact h other route hRoute

theorem Encoded.collectPanes {client : ShardedWeztermClient} {answers : Nat → List Nat}
    (h : client.collectPanes answers = .ok routes) : Encoded routes := by
  refine Loop.foldlM_ok _ (fun _ routes => Encoded routes) _ h ?_ (fun _ _ hRoute => by simp at hRoute)
  intro _ shardId routes next _ hRoutes hBackend
  refine Loop.foldlM_ok _ (fun _ routes => Encoded routes) _ hBackend ?_ hRoutes
  intro _ localPaneId routes next _ hRoutes hPane
  cases hEncode : tryEncodeShardedPaneId shardId localPaneId with
  | error => simp [hEncode] at hPane
  | ok =>
    simp only [hEncode] at hPane
    cases hPane
    exact hRoutes.insert hEncode

/-! ## Runs -/

variable {mux : Mux} {event : Event} {k generation : Nat}

/-- What an event does to the client: it leaves it alone, or changes routes and the generation. -/
theorem Mux.step_client (h : Encoded mux.client.paneRoutes) (event : Event) :
    (¬event.IsPointUpdate ∧ (mux.step event).client = mux.client) ∨
      ∃ routes, Encoded routes ∧ (mux.step event).client =
        { mux.client with paneRoutes := routes }.advancePaneRouteGenerationLocked := by
  cases event with
  | startListing => exact .inl ⟨id, rfl⟩
  | finishListing k answers =>
    simp only [Mux.step, ShardedWeztermClient.finishListing,
      ShardedWeztermClient.publishPaneRouteSnapshot]
    split
    · cases hCollect : mux.client.collectPanes answers with
      | error => exact .inl ⟨id, rfl⟩
      | ok routes =>
        dsimp only
        split
        · exact .inl ⟨id, rfl⟩
        · exact .inr ⟨routes, .collectPanes hCollect, rfl⟩
    · exact .inl ⟨id, rfl⟩
  | recordPane shardId localPaneId =>
    simp only [Mux.step, ShardedWeztermClient.recordPane, Event.IsPointUpdate]
    cases hEncode : tryEncodeShardedPaneId shardId localPaneId with
    | ok => exact .inr ⟨_, h.insert hEncode, rfl⟩
    | error => exact .inl ⟨nofun, rfl⟩
  | killPane paneId => exact .inr ⟨_, h.erase paneId, rfl⟩

theorem Mux.step_encoded (h : Encoded mux.client.paneRoutes) (event : Event) :
    Encoded (mux.step event).client.paneRoutes := by
  rcases step_client h event with ⟨_, hSame⟩ | ⟨routes, hRoutes, hNext⟩
  · exact hSame ▸ h
  · exact hNext ▸ hRoutes

/-- A listing keeps the generation it has read. -/
theorem Mux.step_listing (hNe : .startListing k ≠ event)
    (h : (mux.step event).listings k = some generation) : mux.listings k = some generation := by
  cases event with
  | startListing j =>
    have hOther : k ≠ j := fun hEq => hNe (congrArg Event.startListing hEq)
    simpa [Mux.step, hOther] using h
  | finishListing j =>
    simp only [Mux.step] at h
    split at h
    · rcases eq_or_ne k j with rfl | hOther
      · simp at h
      · simpa [hOther] using h
    · exact h
  | recordPane | killPane => exact h

/-- What was read before a point update is not published any more. -/
def Outdated (mux : Mux) (generation : Nat) : Prop :=
  mux.client.paneRouteGeneration = u64Max ∨ generation < mux.client.paneRouteGeneration

/-- A listing that began before a point update is outdated at the end. -/
theorem Mux.run_outdated (events : List Event) (h : Encoded mux.client.paneRoutes)
    (hRead : ∀ other, mux.listings k = some other → other = generation)
    (hFence : generation = mux.client.paneRouteGeneration ∨ Outdated mux generation)
    (hStarts : .startListing k ∉ events)
    (hUpdate : Outdated mux generation ∨ ∃ event ∈ events, event.IsPointUpdate) :
    Outdated (mux.run events) generation ∧
      ∀ other, (mux.run events).listings k = some other → other = generation := by
  induction events generalizing mux with
  | nil => exact ⟨hUpdate.resolve_right (by simp), hRead⟩
  | cons event rest ih =>
    rw [List.mem_cons, not_or] at hStarts
    have hStep : (¬event.IsPointUpdate ∧ (mux.step event).client = mux.client) ∨
        Outdated (mux.step event) generation := by
      refine (step_client h event).imp_right ?_
      rintro ⟨routes, _, hNext⟩
      unfold Outdated at hFence ⊢
      rw [hNext]
      dsimp only [ShardedWeztermClient.advancePaneRouteGenerationLocked]
      omega
    have hNext : ∀ other, (mux.step event).listings k = some other → other = generation :=
      fun other hOther => hRead other (step_listing hStarts.1 hOther)
    simp only [List.mem_cons, exists_eq_or_imp] at hUpdate
    rcases hStep with ⟨hNot, hSame⟩ | hOutdated
    · unfold Outdated at hFence hUpdate
      rw [← hSame] at hFence hUpdate
      exact ih (step_encoded h event) hNext hFence hStarts.2
        (hUpdate.imp_right fun hEvent => hEvent.resolve_left hNot)
    · exact ih (step_encoded h event) hNext (.inr hOutdated) hStarts.2 (.inl hOutdated)

theorem encoded_run (backends : List Nat) (events : List Event) :
    Encoded (Mux.run { client := { backends } } events).client.paneRoutes := by
  refine List.foldlRecOn (motive := fun mux => Encoded mux.client.paneRoutes) events Mux.step ?_
    fun _ h event _ => Mux.step_encoded h event
  exact fun _ _ hRoute => by simp at hRoute

/-- **Cached routes are never stale**: each is the one its id encodes, and a listing that began before
a route was inserted or removed leaves the cache as it finds it. -/
theorem paneRoutes_never_stale (backends : List Nat) (events : List Event) :
    Encoded (Mux.run { client := { backends } } events).client.paneRoutes ∧
    ∀ k answers before after, events = before ++ .startListing k :: after →
      .startListing k ∉ after → (∃ event ∈ after, event.IsPointUpdate) →
      (Mux.run { client := { backends } } (events ++ [.finishListing k answers])).client =
        (Mux.run { client := { backends } } events).client := by
  refine ⟨encoded_run backends events, ?_⟩
  rintro k answers before after rfl hStarts hUpdate
  have hEncoded := encoded_run backends before
  simp only [Mux.run, List.foldl_append, List.foldl_cons, List.foldl_nil] at hEncoded ⊢
  generalize List.foldl Mux.step _ before = mux at hEncoded ⊢
  rcases Mux.run_outdated after (Mux.step_encoded hEncoded (.startListing k))
    (by simp [Mux.step]) (.inl rfl) hStarts (.inr hUpdate) with ⟨hOutdated, hRead⟩
  unfold Mux.run at hOutdated hRead
  generalize List.foldl Mux.step _ after = late at hOutdated hRead ⊢
  simp only [Mux.step, ShardedWeztermClient.finishListing]
  split
  · rename_i hListing
    cases hRead _ hListing
    split
    · exact if_pos (hOutdated.imp_right fun hLt => hLt.ne')
    · rfl
  · rfl

/-- A pane is killed while a listing that has seen it is on its way. -/
theorem paneRoutes_never_stale_kill :
    ((Mux.run { client := { backends := [0] } } ([.recordPane 0 1, .startListing 0, .killPane 1] ++
      [.finishListing 0 fun _ => [1]])).client.paneRoutes.contains 1) = false := by
  have hKept := (paneRoutes_never_stale [0] [.recordPane 0 1, .startListing 0, .killPane 1]).2 0
    (fun _ => [1]) [.recordPane 0 1] [.killPane 1] rfl (by simp)
    ⟨_, List.mem_singleton_self _, trivial⟩
  rw [hKept]
  decide +kernel

end FrankenTerm.Ports.PaneRoutes
