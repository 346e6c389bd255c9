import FrankenTerm.Ports.PolicyPipeline
import FrankenTerm.Verified.Check
import FrankenTerm.Verified.Delimited
import FrankenTerm.Verified.RustText

/-!
# The persisted kill switch

`policy_kill_switch_state.rs` keeps the kill switch in two rows of the workspace database: the
document and, separately, its revision.  Operator transitions read the document and write both rows
with the next revision; every injector refreshes its engine from the rows before an effect and
remembers the last document it accepted, so that a rollback is noticed.  Whatever cannot be read,
is not well formed or has gone back arms `HardStop`.

A history is a sequence of transitions, refreshes and foreign writes that leave anything in the two
rows.  The JSON reader and writer belong to another crate and are a parameter; the lock that makes
a transition one step is the exclusive fence.

A refresh that fails installs `HardStop` whatever the level was, so an engine at `EmergencyHalt` comes
down to `HardStop` when a row is damaged.

## Main results

* `transition_revision` — a transition writes a revision above both rows, into both rows.
* `written_le_stored` — without foreign writes the next revision is above all written before.
* `refresh_cases` — a refresh installs a document whose anchor agrees and that has not gone back,
  changes nothing where nothing was ever stored, and fails closed otherwise.
* `kill_switch_state_is_monotone` — histories in which no failing refresh finds an emergency halt.
* `damage_lowers_emergency` — the document of an emergency halt is damaged.
-/

namespace FrankenTerm.Ports.KillSwitchState

open Verified PolicyQuarantine PolicyPipeline List

/-! ## The rows -/

def killSwitchStateSchema : Nat := 1

def failClosedActor : String := "kill_switch_restore"

/-- `PersistedKillSwitch`. -/
structure PersistedKillSwitch where
  schema : Nat
  revision : Nat
  level : KillSwitchLevel
  changedAtMs : Nat
  changedBy : String
  reason : String
  autoDisarmAtMs : Nat
deriving DecidableEq, Repr

namespace PersistedKillSwitch

/-- The numbers fit their machine types. -/
def Fits (document : PersistedKillSwitch) : Prop :=
  document.schema < 2 ^ 32 ∧ document.revision ≤ RustText.u64Max ∧
    document.changedAtMs ≤ RustText.u64Max ∧ document.autoDisarmAtMs ≤ RustText.u64Max

instance (document : PersistedKillSwitch) : Decidable document.Fits :=
  inferInstanceAs (Decidable (_ ∧ _ ∧ _ ∧ _))

/-- `From<&KillSwitch>`. -/
def ofSwitch (switch : KillSwitch) : PersistedKillSwitch where
  schema := killSwitchStateSchema
  revision := 0
  level := switch.level
  changedAtMs := switch.changedAtMs
  changedBy := switch.changedBy
  reason := switch.reason
  autoDisarmAtMs := switch.autoDisarmAtMs

/-- `From<PersistedKillSwitch>`. -/
def toSwitch (document : PersistedKillSwitch) : KillSwitch where
  level := document.level
  changedAtMs := document.changedAtMs
  changedBy := document.changedBy
  reason := document.reason
  autoDisarmAtMs := document.autoDisarmAtMs

end PersistedKillSwitch

/-- `serde_json` on the document: reading takes JSON objects with the fields of the document and no
others, where the revision may be missing and is then zero. -/
structure Codec where
  fromJson : String → Except String PersistedKillSwitch
  toJson : PersistedKillSwitch → String
  fromJson_fits : ∀ raw document, fromJson raw = .ok document → document.Fits
  fromJson_toJson : ∀ document : PersistedKillSwitch, document.Fits →
    fromJson (toJson document) = .ok document

/-- `KillSwitchStateError`. -/
inductive KillSwitchStateError where
  | loadFailed (detail : String)
  | corrupt (detail : String)
  | saveFailed (detail : String)
  | fencePending
  | fenceFailed
deriving DecidableEq, Repr

namespace KillSwitchStateError

def code : KillSwitchStateError → String
  | .loadFailed _ => "robot.kill_switch.state_load_failed"
  | .corrupt _ => "robot.kill_switch.state_corrupt"
  | .saveFailed _ => "robot.kill_switch.state_save_failed"
  | .fencePending => "robot.kill_switch.fence_pending"
  | .fenceFailed => "robot.kill_switch.fence_failed"

def detail : KillSwitchStateError → String
  | .loadFailed d | .corrupt d | .saveFailed d => d
  | .fencePending => "workspace effect or transition still active; transition not applied"
  | .fenceFailed => "workspace effect fence unavailable; transition not applied"

instance : ToString KillSwitchStateError where
  toString error := error.code ++ ": " ++ error.detail

end KillSwitchStateError

/-- The rows `policy.kill_switch_v1` and `policy.kill_switch_revision_v1`. -/
structure Rows where
  state : Option String := none
  anchor : Option String := none
deriving DecidableEq, Repr

open PersistedKillSwitch

section
variable (codec : Codec)

section

variable (rows : Rows)

/-- `decode_kill_switch_document`. -/
def decodeKillSwitchDocument (raw : String) : Except KillSwitchStateError PersistedKillSwitch :=
  match codec.fromJson raw with
  | .error detail => .error (.corrupt detail)
  | .ok document =>
    if document.schema ≠ killSwitchStateSchema then
      let schema := document.schema
      .error (.corrupt s!"schema {schema} is not {killSwitchStateSchema}")
    else .ok document

/-- The revision of the stored document. -/
def stateRevision : Except KillSwitchStateError (Option Nat) :=
  match rows.state with
  | none => .ok none
  | some raw =>
    match decodeKillSwitchDocument codec raw with
    | .ok document => .ok (some document.revision)
    | .error error => .error error

/-- The revision in the row of its own. -/
def anchorRevision : Except KillSwitchStateError (Option Nat) :=
  match rows.anchor with
  | none => .ok none
  | some raw =>
    match RustText.parseU64 raw with
    | some n => .ok (some n)
    | none => .error (.corrupt "revision authority is not an unsigned integer")

/-- `validate_revision_anchor`. -/
def validateRevisionAnchor : Except KillSwitchStateError (Option String) := do
  let revision ← stateRevision codec rows
  let authority ← anchorRevision rows
  if !((revision = none || revision = some 0) && authority = none) && revision ≠ authority then
    .error (.corrupt "state and revision authority disagree")
  else .ok rows.state

/-! ## Refreshes -/

/-- `KillSwitchRestore`. -/
inductive KillSwitchRestore where
  | absent
  | restored (state : KillSwitch) (autoDisarmed : Bool)
  | failedClosed (error : KillSwitchStateError)
deriving DecidableEq, Repr

/-- `PolicyEngine::restore_kill_switch`. -/
def restoreKillSwitch (engine : PolicyEngine) (state : KillSwitch) : PolicyEngine :=
  { engine with quarantineRegistry := engine.quarantineRegistry.restoreKillSwitch state }

/-- The level of the engine's kill switch. -/
def level (engine : PolicyEngine) : KillSwitchLevel := engine.quarantineRegistry.killSwitch.level

/-- `fail_closed`. -/
def failClosed (engine : PolicyEngine) (error : KillSwitchStateError) (nowMs : Nat) :
    PolicyEngine :=
  restoreKillSwitch engine (KillSwitch.disarmed.trip .hardStop failClosedActor
    s!"persisted kill switch unreadable, failing closed ({error})" nowMs)

/-- `apply_persisted_kill_switch`. -/
def applyPersistedKillSwitch (engine : PolicyEngine)
    (loaded : Except KillSwitchStateError (Option String)) (nowMs : Nat) :
    PolicyEngine × KillSwitchRestore :=
  match loaded with
  | .ok none => (engine, .absent)
  | .error error => (failClosed engine error nowMs, .failedClosed error)
  | .ok (some raw) =>
    match decodeKillSwitchDocument codec raw with
    | .ok document =>
      let state := document.toSwitch.tick nowMs
      (restoreKillSwitch engine state, .restored state (document.toSwitch.shouldAutoDisarm nowMs))
    | .error error => (failClosed engine error nowMs, .failedClosed error)

/-- `KillSwitchFreshness`, bound to its workspace. -/
structure Freshness where
  observed : Option PersistedKillSwitch := none
deriving DecidableEq, Repr

/-- The document has gone back, or has changed without going forward. -/
def Freshness.regressed (freshness : Freshness) (document : PersistedKillSwitch) : Bool :=
  freshness.observed.any fun previous =>
    document.revision < previous.revision ||
      (document.revision == previous.revision && document != previous)

/-- The check in `KillSwitchFreshness::apply`, with the watermark that it leaves. -/
def Freshness.check (freshness : Freshness) (loaded : Except KillSwitchStateError (Option String)) :
    Freshness × Except KillSwitchStateError (Option String) :=
  match loaded with
  | .error error => (freshness, .error error)
  | .ok (some raw) =>
    match decodeKillSwitchDocument codec raw with
    | .error error => (freshness, .error error)
    | .ok document =>
      if freshness.regressed document then
        (freshness, .error (.corrupt
          "persisted revision regressed or changed without advancement"))
      else (⟨some document⟩, .ok (some raw))
  | .ok none =>
    if freshness.observed.isSome then
      (freshness, .error (.corrupt "previously observed switch disappeared"))
    else (freshness, .ok none)

/-- `KillSwitchFreshness::apply`. -/
def Freshness.apply (freshness : Freshness) (engine : PolicyEngine)
    (loaded : Except KillSwitchStateError (Option String)) (nowMs : Nat) :
    Freshness × PolicyEngine × KillSwitchRestore :=
  let (freshness, checked) := freshness.check codec loaded
  (freshness, applyPersistedKillSwitch codec engine checked nowMs)

/-! ## Transitions -/

/-- `KillSwitchTransition`. -/
inductive KillSwitchTransition where
  | trip (level : KillSwitchLevel) (by_ reason : String)
  | reset (by_ : String)
deriving DecidableEq, Repr

/-- The revision that `write_revisioned_state` goes on from; `none` when there is none to trust. -/
def priorRevision : Option Nat :=
  match anchorRevision rows with
  | .error _ => none
  | .ok anchor =>
    match stateRevision codec rows with
    | .ok revision => some (max (revision.getD 0) (anchor.getD 0))
    | .error _ => anchor

/-- `write_revisioned_state`: the rows after the transaction and the revision. -/
def writeRevisionedState (switch : KillSwitch) : Except KillSwitchStateError (Rows × Nat) :=
  match priorRevision codec rows with
  | none => .error (.saveFailed "atomic kill-switch revision write failed")
  | some prior =>
    if prior + 1 ≤ RustText.u64Max then
      let document := { PersistedKillSwitch.ofSwitch switch with revision := prior + 1 }
      .ok (⟨some (codec.toJson document), some (toString (prior + 1))⟩, prior + 1)
    else .error (.saveFailed "atomic kill-switch revision write failed")

/-- The switch that a transition starts from.  Only a reset takes a corrupt document for a disarmed
switch. -/
def transitionBase (transition : KillSwitchTransition) : Except KillSwitchStateError KillSwitch :=
  match rows.state with
  | none => .ok .disarmed
  | some raw =>
    match decodeKillSwitchDocument codec raw with
    | .ok document => .ok document.toSwitch
    | .error error =>
      match transition with
      | .reset _ => .ok .disarmed
      | .trip _ _ _ => .error error

/-- The switch after the transition. -/
def transitioned (state : KillSwitch) (transition : KillSwitchTransition) (nowMs : Nat) :
    Except KillSwitchStateError KillSwitch :=
  match transition with
  | .trip level by_ reason =>
    if level ≤ state.level then
      .error (.saveFailed "trip must raise the current persisted tier")
    else .ok (state.trip level by_ reason nowMs)
  | .reset by_ => .ok (state.reset by_ nowMs)

/-- `transition_kill_switch_from_backend` under the fence. -/
def transitionKillSwitch (transition : KillSwitchTransition) (nowMs : Nat) :
    Except KillSwitchStateError (Rows × KillSwitch × Nat) := do
  let base ← transitionBase codec rows transition
  let state ← transitioned (base.tick nowMs) transition nowMs
  Check.refuseIf (2 ^ 63 ≤ nowMs) (.saveFailed "transition timestamp out of range")
  let (rows, revision) ← writeRevisionedState codec rows state
  .ok (rows, state, revision)

/-! ## Histories -/

/-- What happens to the rows and to one injector. -/
inductive Event where
  /-- A foreign write leaves anything in the rows. -/
  | tamper (rows : Rows)
  | transition (transition : KillSwitchTransition) (nowMs : Nat)
  /-- A refresh; with an error when the rows cannot be read. -/
  | refresh (unreadable : Option String) (nowMs : Nat)

/-- The rows, the injector, the documents it has accepted and the revisions written. -/
structure World where
  rows : Rows
  freshness : Freshness := {}
  engine : PolicyEngine
  accepted : List PersistedKillSwitch := []
  written : List Nat := []

/-- What a refresh loads. -/
def loaded (unreadable : Option String) : Except KillSwitchStateError (Option String) :=
  match unreadable with
  | some detail => .error (.loadFailed detail)
  | none => validateRevisionAnchor codec rows

/-- The refresh of a world, with its outcome. -/
def World.refresh (world : World) (unreadable : Option String) (nowMs : Nat) :
    World × KillSwitchRestore :=
  let (freshness, engine, restore) :=
    world.freshness.apply codec world.engine (loaded codec world.rows unreadable) nowMs
  let accepted := match restore with
    | .restored _ _ => freshness.observed.toList ++ world.accepted
    | _ => world.accepted
  ({ world with freshness, engine, accepted }, restore)

def World.step (world : World) : Event → World
  | .tamper rows => { world with rows }
  | .transition transition nowMs =>
    match transitionKillSwitch codec world.rows transition nowMs with
    | .ok (rows, _, revision) => { world with rows, written := world.written ++ [revision] }
    | .error _ => world
  | .refresh unreadable nowMs => (world.refresh codec unreadable nowMs).1

def World.run (world : World) (events : List Event) : World := events.foldl (World.step codec) world

/-! ## What a transition writes -/

/-- The stored document, if there is a well-formed one. -/
def storedDocument : Option PersistedKillSwitch :=
  rows.state.bind fun raw => (decodeKillSwitchDocument codec raw).toOption

/-- The stored revision, if there is a well-formed one. -/
def storedAnchor : Option Nat := rows.anchor.bind RustText.parseU64

/-- The greater of the two stored revisions. -/
def storedRevision : Nat :=
  max (((storedDocument codec rows).map (·.revision)).getD 0) ((storedAnchor rows).getD 0)

end

variable {codec}

theorem decodeKillSwitchDocument_toJson {document : PersistedKillSwitch} (hFits : document.Fits)
    (hSchema : document.schema = killSwitchStateSchema) :
    decodeKillSwitchDocument codec (codec.toJson document) = .ok document := by
  rw [decodeKillSwitchDocument, codec.fromJson_toJson document hFits]
  exact if_neg (not_not_intro hSchema)

variable {rows : Rows} {document : PersistedKillSwitch} {world : World}

theorem storedDocument_eq_some :
    storedDocument codec rows = some document ↔
      ∃ raw, rows.state = some raw ∧ decodeKillSwitchDocument codec raw = .ok document := by
  unfold storedDocument
  rw [Option.bind_eq_some_iff]
  constructor
  · rintro ⟨raw, hRaw, hDecode⟩
    cases hResult : decodeKillSwitchDocument codec raw with
    | error =>
      rw [hResult] at hDecode
      cases hDecode
    | ok =>
      rw [hResult] at hDecode
      cases hDecode
      exact ⟨raw, hRaw, hResult⟩
  · rintro ⟨raw, hRaw, hDecode⟩
    exact ⟨raw, hRaw, by rw [hDecode]; rfl⟩

private theorem stateRevision_of_stored (h : storedDocument codec rows = some document) :
    stateRevision codec rows = .ok (some document.revision) := by
  obtain ⟨raw, hRaw, hDecode⟩ := storedDocument_eq_some.mp h
  unfold stateRevision
  rw [hRaw]
  simp only [hDecode]

private theorem anchorRevision_of_stored {n : Nat} (h : storedAnchor rows = some n) :
    anchorRevision rows = .ok (some n) := by
  obtain ⟨raw, hRaw, hParse⟩ := Option.bind_eq_some_iff.mp h
  unfold anchorRevision
  rw [hRaw]
  simp only [hParse]

private theorem storedRevision_le_prior {prior : Nat} (h : priorRevision codec rows = some prior) :
    storedRevision codec rows ≤ prior := by
  unfold priorRevision at h
  refine max_le ?_ ?_
  · cases hDocument : storedDocument codec rows with
    | none => exact Nat.zero_le _
    | some document =>
      rw [stateRevision_of_stored hDocument] at h
      split at h
      · cases h
      · cases h
        exact le_max_left _ _
  · cases hAnchor : storedAnchor rows with
    | none => exact Nat.zero_le _
    | some n =>
      rw [anchorRevision_of_stored hAnchor] at h
      dsimp only at h
      split at h
      · cases h
        exact le_max_right _ _
      · cases h
        exact le_rfl

private theorem writeRevisionedState_ok {rows' : Rows} {switch : KillSwitch} {revision : Nat}
    (hSwitch : switch.changedAtMs ≤ RustText.u64Max) (hTimeout : switch.autoDisarmAtMs = 0)
    (h : writeRevisionedState codec rows switch = .ok (rows', revision)) :
    storedRevision codec rows < revision ∧
      validateRevisionAnchor codec rows' = .ok rows'.state ∧
      storedDocument codec rows' =
        some { ofSwitch switch with revision := revision } := by
  unfold writeRevisionedState at h
  cases hPrior : priorRevision codec rows with
  | none =>
    rw [hPrior] at h
    cases h
  | some prior =>
    rw [hPrior] at h
    dsimp only at h
    split_ifs at h with hRange
    cases h
    have hFits : ({ ofSwitch switch with
        revision := prior + 1 } : PersistedKillSwitch).Fits := by
      refine ⟨by change 1 < 2 ^ 32; decide, hRange, hSwitch, ?_⟩
      change switch.autoDisarmAtMs ≤ _
      omega
    have hDecode := @decodeKillSwitchDocument_toJson codec _ hFits rfl
    refine ⟨Nat.lt_succ_of_le (storedRevision_le_prior hPrior), ?_,
      storedDocument_eq_some.mpr ⟨_, rfl, hDecode⟩⟩
    unfold validateRevisionAnchor stateRevision anchorRevision
    simp only [hDecode, RustText.parseU64_toString hRange, bind, Except.bind]
    simp [ofSwitch]

/-- **A transition writes a revision above both rows, into both rows**, and the next refresh
accepts what it wrote. -/
theorem transition_revision {rows' : Rows} {transition : KillSwitchTransition} {nowMs : Nat}
    {state : KillSwitch} {revision : Nat}
    (h : transitionKillSwitch codec rows transition nowMs = .ok (rows', state, revision)) :
    storedRevision codec rows < revision ∧
      validateRevisionAnchor codec rows' = .ok rows'.state ∧
      storedDocument codec rows' =
        some { ofSwitch state with revision := revision } := by
  obtain ⟨base, _, h⟩ := Check.bind_eq_ok.mp h
  obtain ⟨next, hNext, h⟩ := Check.bind_eq_ok.mp h
  obtain ⟨_, h⟩ := Check.refuseIf_bind_eq_ok.mp h
  obtain ⟨⟨rows'', revision'⟩, hWrite, h⟩ := Check.bind_eq_ok.mp h
  cases h
  have hNow : nowMs ≤ RustText.u64Max := by
    unfold RustText.u64Max
    omega
  have hFresh : state.changedAtMs = nowMs ∧ state.autoDisarmAtMs = 0 := by
    unfold transitioned at hNext
    cases transition with
    | trip =>
      dsimp only at hNext
      split_ifs at hNext
      cases hNext
      exact ⟨rfl, rfl⟩
    | reset =>
      cases hNext
      exact ⟨rfl, rfl⟩
  exact writeRevisionedState_ok (hFresh.1 ▸ hNow) hFresh.2 hWrite

/-! ## Revisions without foreign writes -/

private theorem step_written_le_stored {event : Event} (hOwn : ∀ rows, event ≠ .tamper rows)
    (h : ∀ r ∈ world.written, r ≤ storedRevision codec world.rows) :
    ∀ r ∈ (world.step codec event).written,
      r ≤ storedRevision codec (world.step codec event).rows := by
  cases event with
  | tamper rows => exact absurd rfl (hOwn rows)
  | refresh => exact h
  | transition transition nowMs =>
    unfold World.step
    dsimp only
    cases hOut : transitionKillSwitch codec world.rows transition nowMs with
    | error => exact h
    | ok result =>
      obtain ⟨rows, state, revision⟩ := result
      obtain ⟨hAbove, _, hStored⟩ := transition_revision hOut
      have hNew : revision ≤ storedRevision codec rows := by
        rw [storedRevision, hStored]
        exact le_max_left _ _
      intro r hr
      rcases mem_append.mp hr with hOld | hLast
      · exact ((h r hOld).trans hAbove.le).trans hNew
      · exact mem_singleton.mp hLast ▸ hNew

/-- **Without foreign writes the stored revisions are not behind the written ones**, so that the
next revision is above them all. -/
theorem written_le_stored (rows : Rows) (engine : PolicyEngine) {events : List Event}
    (hOwn : ∀ event ∈ events, ∀ rows, event ≠ .tamper rows) :
    ∀ r ∈ (World.run codec { rows, engine } events).written,
      r ≤ storedRevision codec (World.run codec { rows, engine } events).rows := by
  refine foldlRecOn
    (motive := fun world : World => ∀ r ∈ world.written, r ≤ storedRevision codec world.rows)
    events (World.step codec) (fun r hr => absurd hr not_mem_nil) ?_
  exact fun world h event hMem => step_written_le_stored (hOwn event hMem) h

/-! ## What the rows say -/

/-- The anchor row goes with a document of this revision. -/
abbrev Rows.Anchors (rows : Rows) (revision : Nat) : Prop :=
  storedAnchor rows = some revision ∨ rows.anchor = none ∧ revision = 0

/-- The rows can be read, hold a document with its anchor, and it is not behind what the injector has
accepted. -/
structure World.Offers (codec : Codec) (world : World) (unreadable : Option String)
    (document : PersistedKillSwitch) : Prop where
  readable : unreadable = none
  stored : storedDocument codec world.rows = some document
  anchored : world.rows.Anchors document.revision
  fresh : world.freshness.regressed document = false

/-- Some document is offered. -/
def World.offers (codec : Codec) (world : World) (unreadable : Option String) : Bool :=
  unreadable = none && (storedDocument codec world.rows).any fun document =>
    world.rows.Anchors document.revision && !world.freshness.regressed document

/-- The rows can be read, both are absent, and the injector has never accepted a document. -/
abbrev World.Unarmed (world : World) (unreadable : Option String) : Prop :=
  unreadable = none ∧ world.rows = {} ∧ world.freshness.observed = none

/-- What `validate_revision_anchor` lets through. -/
theorem validateRevisionAnchor_eq_ok {stored : Option String} :
    validateRevisionAnchor codec rows = .ok stored ↔ stored = rows.state ∧
      (rows = {} ∨ ∃ document, storedDocument codec rows = some document ∧
        rows.Anchors document.revision) := by
  obtain ⟨state, anchor⟩ := rows
  unfold validateRevisionAnchor stateRevision anchorRevision storedDocument Rows.Anchors
    storedAnchor
  cases state with
  | none =>
    cases anchor with
    | none => simp [bind, Except.bind, eq_comm]
    | some text => cases hParse : RustText.parseU64 text <;> simp [bind, Except.bind, hParse]
  | some raw =>
    cases hDecode : decodeKillSwitchDocument codec raw with
    | error => simp [bind, Except.bind, hDecode, Except.toOption]
    | ok document =>
      cases anchor with
      | none =>
        by_cases hZero : document.revision = 0 <;>
          simp [bind, Except.bind, hDecode, Except.toOption, hZero, eq_comm]
      | some text =>
        cases hParse : RustText.parseU64 text with
        | none => simp [bind, Except.bind, hDecode, Except.toOption, hParse]
        | some n =>
          by_cases hSame : n = document.revision <;>
            simp [bind, Except.bind, hDecode, Except.toOption, hParse, hSame, eq_comm]

theorem World.offers_iff {unreadable : Option String} :
    world.offers codec unreadable ↔ ∃ document, world.Offers codec unreadable document := by
  rw [World.offers, Bool.and_eq_true, decide_eq_true_eq, Option.any_eq_true]
  constructor
  · rintro ⟨hRead, document, hStored, hRest⟩
    rw [Bool.and_eq_true, decide_eq_true_eq, Bool.not_eq_true'] at hRest
    exact ⟨document, hRead, hStored, hRest.1, hRest.2⟩
  · rintro ⟨document, hOffers⟩
    exact ⟨hOffers.readable, document, hOffers.stored, by simp [hOffers.anchored, hOffers.fresh]⟩

/-- **A refresh** installs the document that is offered, changes nothing where nothing was ever
stored, and fails closed at `HardStop` in every other case: unreadable rows, a document or an anchor
that is not well formed, rows that disagree, a document that has disappeared or gone back. -/
theorem refresh_cases (world : World) (unreadable : Option String) (nowMs : Nat) :
    (∃ document, world.Offers codec unreadable document ∧
      world.refresh codec unreadable nowMs =
        ({ world with
            freshness := ⟨some document⟩
            engine := restoreKillSwitch world.engine (document.toSwitch.tick nowMs)
            accepted := document :: world.accepted },
          .restored (document.toSwitch.tick nowMs)
            (document.toSwitch.shouldAutoDisarm nowMs))) ∨
    (world.Unarmed unreadable ∧ world.refresh codec unreadable nowMs = (world, .absent)) ∨
    (¬world.Unarmed unreadable ∧ (∀ document, ¬world.Offers codec unreadable document) ∧
      ∃ error, world.refresh codec unreadable nowMs =
        ({ world with engine := failClosed world.engine error nowMs }, .failedClosed error)) := by
  cases unreadable with
  | some detail =>
    refine .inr (.inr ⟨by simp, fun document hOffers => ?_, .loadFailed detail, rfl⟩)
    cases hOffers.readable
  | none =>
    cases hLoad : validateRevisionAnchor codec world.rows with
    | error error =>
      refine .inr (.inr ⟨fun hUnarmed => ?_, fun document hOffers => ?_, error, ?_⟩)
      · rw [validateRevisionAnchor_eq_ok.mpr ⟨rfl, .inl hUnarmed.2.1⟩] at hLoad
        cases hLoad
      · rw [validateRevisionAnchor_eq_ok.mpr
          ⟨rfl, .inr ⟨document, hOffers.stored, hOffers.anchored⟩⟩] at hLoad
        cases hLoad
      · simp only [World.refresh, loaded, hLoad]
        rfl
    | ok stored =>
      obtain ⟨rfl, hEmpty | ⟨document, hDocument, hAnchors⟩⟩ :=
        validateRevisionAnchor_eq_ok.mp hLoad
      · have hState : world.rows.state = none := by rw [hEmpty]
        rw [hState] at hLoad
        by_cases hSeen : world.freshness.observed = none
        · refine .inr (.inl ⟨⟨rfl, hEmpty, hSeen⟩, ?_⟩)
          simp only [World.refresh, loaded, hLoad, Freshness.apply, Freshness.check, hSeen]
          rfl
        · refine .inr (.inr ⟨fun hUnarmed => hSeen hUnarmed.2.2, fun document hOffers => ?_,
            .corrupt "previously observed switch disappeared", ?_⟩)
          · have hStored := hOffers.stored
            rw [hEmpty] at hStored
            cases hStored
          · have hSome : world.freshness.observed.isSome := Option.isSome_iff_ne_none.mpr hSeen
            simp only [World.refresh, loaded, hLoad, Freshness.apply, Freshness.check, hSome]
            rfl
      · obtain ⟨raw, hRaw, hDecode⟩ := storedDocument_eq_some.mp hDocument
        rw [hRaw] at hLoad
        cases hBack : world.freshness.regressed document with
        | false =>
          refine .inl ⟨document, ⟨rfl, hDocument, hAnchors, hBack⟩, ?_⟩
          simp [World.refresh, loaded, hLoad, Freshness.apply, Freshness.check, hDecode, hBack,
            applyPersistedKillSwitch]
        | true =>
          refine .inr (.inr ⟨fun hUnarmed => ?_, fun other hOffers => ?_,
            .corrupt "persisted revision regressed or changed without advancement", ?_⟩)
          · rw [hUnarmed.2.1] at hRaw
            cases hRaw
          · have hSame : document = other := Option.some.inj (hDocument.symm.trans hOffers.stored)
            rw [hSame, hOffers.fresh] at hBack
            cases hBack
          · simp only [World.refresh, loaded, hLoad, Freshness.apply, Freshness.check, hDecode,
              hBack]
            rfl

/-! ## The watermark -/

theorem Freshness.not_regressed {freshness : Freshness} {previous : PersistedKillSwitch}
    (h : freshness.regressed document = false) (hPrevious : freshness.observed = some previous) :
    previous.revision ≤ document.revision ∧
      (previous.revision = document.revision → previous = document) := by
  unfold Freshness.regressed at h
  rw [hPrevious, Option.any_some] at h
  simp only [Bool.or_eq_false_iff, decide_eq_false_iff_not, not_lt, Bool.and_eq_false_iff,
    beq_eq_false_iff_ne, ne_eq, bne_eq_false_iff_eq] at h
  refine ⟨h.1, fun hEq => ?_⟩
  rcases h.2 with hNe | hSame
  · exact absurd hEq.symm hNe
  · exact hSame.symm

/-- The watermark is not behind any document accepted so far. -/
private structure Watermark (world : World) : Prop where
  empty : world.freshness.observed = none → world.accepted = []
  ahead : ∀ document, world.freshness.observed = some document →
    ∀ earlier ∈ world.accepted, earlier.revision ≤ document.revision ∧
      (earlier.revision = document.revision → earlier = document)

/-- An accepted document is not behind any document accepted before. -/
private theorem Watermark.accepts (h : Watermark world)
    (hBack : world.freshness.regressed document = false) :
    ∀ earlier ∈ world.accepted, earlier.revision ≤ document.revision ∧
      (earlier.revision = document.revision → earlier = document) := by
  intro earlier hMem
  cases hObserved : world.freshness.observed with
  | none =>
    rw [h.empty hObserved] at hMem
    cases hMem
  | some previous =>
    obtain ⟨hLe, hSame⟩ := h.ahead previous hObserved earlier hMem
    obtain ⟨hLe', hSame'⟩ := Freshness.not_regressed hBack hObserved
    refine ⟨hLe.trans hLe', fun hEq => ?_⟩
    have hMiddle : previous.revision = document.revision := by omega
    rw [hSame (by omega), hSame' hMiddle]

private theorem Watermark.step (h : Watermark world) (event : Event) :
    Watermark (world.step codec event) := by
  cases event with
  | tamper => exact ⟨h.empty, h.ahead⟩
  | transition =>
    unfold World.step
    dsimp only
    split
    · exact ⟨h.empty, h.ahead⟩
    · exact h
  | refresh unreadable nowMs =>
    show Watermark (world.refresh codec unreadable nowMs).1
    rcases @refresh_cases codec world unreadable nowMs with
      ⟨document, hOffers, hOut⟩ | ⟨_, hOut⟩ | ⟨_, _, error, hOut⟩
    · rw [hOut]
      refine ⟨nofun, ?_⟩
      rintro document' ⟨rfl⟩ earlier hMem
      rcases mem_cons.mp hMem with rfl | hOld
      · exact ⟨le_rfl, fun _ => rfl⟩
      · exact h.accepts hOffers.fresh earlier hOld
    · rw [hOut]
      exact h
    · rw [hOut]
      exact ⟨h.empty, h.ahead⟩

/-! ## Histories in which no emergency halt is lost -/

/-- What has to hold before a step.  A transition finds a revision that is not behind those written
before.  A refresh that will fail finds the engine below `EmergencyHalt`; one that finds nothing ever
stored finds it armed. -/
def Spared (codec : Codec) (world : World) : Event → Prop
  | .tamper _ => True
  | .transition _ _ => ∀ r ∈ world.written, r ≤ storedRevision codec world.rows
  | .refresh unreadable _ =>
      (level world.engine = .emergencyHalt →
        world.Unarmed unreadable ∨ world.offers codec unreadable) ∧
      (world.Unarmed unreadable → .hardStop ≤ level world.engine)

instance decidableSpared (codec : Codec) (world : World) (event : Event) :
    Decidable (Spared codec world event) := by
  cases event <;> unfold Spared <;> infer_instance

/-- What a step keeps.  A transition writes a revision above all written before.  After a refresh the
engine holds a document that is not behind any accepted before, or is armed at `HardStop` or above,
and a refresh that fails has not lowered the level. -/
def Kept (codec : Codec) (world : World) : Event → Prop
  | .tamper _ => True
  | .transition transition nowMs => ∀ rows state revision,
      transitionKillSwitch codec world.rows transition nowMs = .ok (rows, state, revision) →
        ∀ r ∈ world.written, r < revision
  | .refresh unreadable nowMs =>
      ((∃ document, world.Offers codec unreadable document ∧
          (world.refresh codec unreadable nowMs).1.engine.quarantineRegistry.killSwitch =
            document.toSwitch.tick nowMs ∧
          ∀ earlier ∈ world.accepted, earlier.revision ≤ document.revision ∧
            (earlier.revision = document.revision → earlier = document)) ∨
        .hardStop ≤ level (world.refresh codec unreadable nowMs).1.engine) ∧
      ∀ error, (world.refresh codec unreadable nowMs).2 = .failedClosed error →
        level world.engine ≤ level (world.refresh codec unreadable nowMs).1.engine

/-- A property of every step of a history. -/
def Along (codec : Codec) (holds : World → Event → Prop) : World → List Event → Prop
  | _, [] => True
  | world, event :: rest => holds world event ∧ Along codec holds (world.step codec event) rest

instance decidableAlong (codec : Codec) (holds : World → Event → Prop)
    [∀ world event, Decidable (holds world event)] :
    ∀ world events, Decidable (Along codec holds world events)
  | _, [] => isTrue trivial
  | world, event :: rest =>
    have := decidableAlong codec holds (world.step codec event) rest
    inferInstanceAs (Decidable (holds world event ∧ _))

private theorem Watermark.kept (h : Watermark world) {event : Event}
    (hSpared : Spared codec world event) : Kept codec world event := by
  cases event with
  | tamper => trivial
  | transition =>
    intro rows state revision hOut r hr
    exact (hSpared r hr).trans_lt (transition_revision hOut).1
  | refresh unreadable nowMs =>
    obtain ⟨hHalt, hArmed⟩ := hSpared
    rcases @refresh_cases codec world unreadable nowMs with
      ⟨document, hOffers, hOut⟩ | ⟨hUnarmed, hOut⟩ | ⟨hNot, hNone, error, hOut⟩
    · simp only [Kept, hOut]
      exact ⟨.inl ⟨document, hOffers, rfl, h.accepts hOffers.fresh⟩, nofun⟩
    · simp only [Kept, hOut]
      exact ⟨.inr (hArmed hUnarmed), nofun⟩
    · simp only [Kept, hOut]
      refine ⟨.inr le_rfl, fun _ _ => ?_⟩
      have hBelow : level world.engine ≠ .emergencyHalt := by
        intro hLevel
        rcases hHalt hLevel with hUnarmed | hOffers
        · exact hNot hUnarmed
        · obtain ⟨document, hOffers⟩ := World.offers_iff.mp hOffers
          exact hNone document hOffers
      show level world.engine ≤ .hardStop
      cases hLevel : level world.engine with
      | emergencyHalt => exact absurd hLevel hBelow
      | _ => decide

/-- **The persisted kill switch is monotone and fails closed** along every history whose refreshes do
not fail on an emergency halt: written revisions increase, no refresh accepts a document that is
behind, and none that fails lowers the level. -/
theorem kill_switch_state_is_monotone (codec : Codec) (rows : Rows) (engine : PolicyEngine)
    (events : List Event) (h : Along codec (Spared codec) { rows, engine } events) :
    Along codec (Kept codec) { rows, engine } events := by
  have hRun : ∀ world, Watermark world → Along codec (Spared codec) world events →
      Along codec (Kept codec) world events := by
    clear h
    induction events with
    | nil => exact fun _ _ _ => trivial
    | cons event rest ih =>
      intro world hMark hSpared
      exact ⟨hMark.kept hSpared.1, ih _ (hMark.step event) hSpared.2⟩
  exact hRun _ ⟨fun _ => rfl, nofun⟩ h

end

/-! ## A damaged row -/

/-- A document as numbers: the texts as their code points, the first with its length. -/
private def numbers (document : PersistedKillSwitch) : List Nat :=
  document.schema :: document.revision :: document.level.rank :: document.changedAtMs ::
    document.autoDisarmAtMs :: document.changedBy.toList.length ::
    (document.changedBy.toList ++ document.reason.toList).map Char.toNat

private def levels : List KillSwitchLevel := [.disarmed, .softStop, .hardStop, .emergencyHalt]

private def ofNumbers : List Nat → Option PersistedKillSwitch
  | schema :: revision :: rank :: changedAtMs :: autoDisarmAtMs :: length :: chars =>
    levels[rank]?.map fun level =>
      { schema, revision, level, changedAtMs, autoDisarmAtMs
        changedBy := String.ofList ((chars.take length).map Char.ofNat)
        reason := String.ofList ((chars.drop length).map Char.ofNat) }
  | _ => none

private theorem ofNumbers_numbers (document : PersistedKillSwitch) :
    ofNumbers (numbers document) = some document := by
  have hChars : ∀ chars : List Char, (chars.map Char.toNat).map Char.ofNat = chars := by
    intro chars
    simp [Function.comp_def]
  have hLevel : levels[document.level.rank]? = some document.level := by
    cases document.level <;> rfl
  unfold ofNumbers numbers
  simp only [hLevel, Option.map_some, map_append, Option.some.injEq]
  rw [take_left' (by simp), drop_left' (by simp), hChars, hChars,
    String.ofList_toList, String.ofList_toList]

/-- The numbers in decimal, with blanks between them. -/
private def numeralCodec : Codec where
  fromJson raw :=
    match ofNumbers ((raw.toList.splitOn ' ').map (Nat.ofDigitChars 10 · 0)) with
    | some document => if document.Fits then .ok document else .error "shape"
    | none => .error "not JSON"
  toJson document := (String.singleton ' ').intercalate ((numbers document).map toString)
  fromJson_fits raw document h := by
    split at h
    · split_ifs at h with hFits
      cases h
      exact hFits
    · cases h
  fromJson_toJson document hFits := by
    have hSplit : ((String.singleton ' ').intercalate
        ((numbers document).map toString)).toList.splitOn ' ' =
        (numbers document).map (Nat.toDigits 10) := by
      rw [String.toList_intercalate, String.toList_singleton, List.splitOn_intercalate]
      · rw [List.map_map]
        exact List.map_congr_left fun n _ => RustText.toList_toString_nat n
      · intro token hToken hBlank
        obtain ⟨text, hText, rfl⟩ := List.mem_map.mp hToken
        obtain ⟨n, _, rfl⟩ := List.mem_map.mp hText
        exact @Delimited.plain_nat [' '] (by decide) n ' ' hBlank (by simp)
      · exact List.cons_ne_nil _ _
    have hRead : ((numbers document).map (Nat.toDigits 10)).map (Nat.ofDigitChars 10 · 0) =
        numbers document := by
      rw [List.map_map]
      conv_rhs => rw [← List.map_id (numbers document)]
      exact List.map_congr_left fun n _ => Nat.ofDigitChars_ten_toDigits
    rw [hSplit, hRead, ofNumbers_numbers]
    exact if_pos hFits

private def freshWorld : World where
  rows := {}
  engine := PolicyEngine.new .unlimited true .permissive

/-- The switch is tripped to `EmergencyHalt` and the engine follows; the document is damaged and
the engine comes down to `HardStop`.  And after both rows are deleted the next transition writes
the same revision again. -/
theorem damage_lowers_emergency :
    let halt : List Event :=
      [.transition (.trip .emergencyHalt "operator" "incident") 1, .refresh none 2]
    level (freshWorld.run numeralCodec halt).engine = .emergencyHalt ∧
      level (freshWorld.run numeralCodec
        (halt ++ [.tamper ⟨some "", some "1"⟩, .refresh none 3])).engine = .hardStop ∧
      (freshWorld.run numeralCodec (halt ++ [.tamper {},
        .transition (.trip .softStop "operator" "incident") 4])).written = [1, 1] := by
  decide +kernel

/-- The switch is tripped to `HardStop` and taken over; the anchor is altered and the refresh fails;
the rows come back, the switch is reset and disarmed. -/
private def tripAndReset : List Event :=
  [.transition (.trip .hardStop "operator" "incident") 1, .refresh none 2,
    .tamper ⟨some (numeralCodec.toJson ⟨1, 1, .hardStop, 1, "operator", "incident", 0⟩), some "9"⟩,
    .refresh none 3,
    .tamper ⟨some (numeralCodec.toJson ⟨1, 1, .hardStop, 1, "operator", "incident", 0⟩), some "1"⟩,
    .refresh none 4, .transition (.reset "operator") 5, .refresh none 6]

theorem kill_switch_state_is_monotone_reset :
    Along numeralCodec (Kept numeralCodec) freshWorld tripAndReset ∧
      (freshWorld.run numeralCodec tripAndReset).written = [1, 2] ∧
      level (freshWorld.run numeralCodec tripAndReset).engine = .disarmed :=
  ⟨kill_switch_state_is_monotone numeralCodec {} (PolicyEngine.new .unlimited true .permissive)
    tripAndReset (by decide +kernel), by decide +kernel, by decide +kernel⟩

end FrankenTerm.Ports.KillSwitchState
