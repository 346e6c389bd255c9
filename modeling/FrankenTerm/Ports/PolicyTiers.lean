import FrankenTerm.Ports.PolicyPipeline

/-!
# The tiers of the kill switch

The kill switch is meant to be graduated: `SoftStop` pauses new workflow launches and lets work in
flight drain, `HardStop` blocks every action that does not only read, `EmergencyHalt` blocks
everything.  The level is read by the kill-switch gate and once more by the quarantine gate: at
`SoftStop` and above every pane counts as blocked for writes.  So at `SoftStop` a mutating action
against a pane is denied as if the pane were quarantined, although it launches no workflow.

`Quiet` says that no quarantine expiry and no auto-disarm is due, so that the level is the one that
was set.

## Main results

* `decision_atLevel` — the decision at a level: two gates read it, the rest of the pipeline does not.
* `kill_switch_is_graduated` — what each level denies and leaves alone.
* `soft_stop_blocks_pane_writes` — a text sent by a person to a free pane at `SoftStop`.
-/

namespace FrankenTerm.Ports.PolicyTiers

open PolicyTypes PolicyQuarantine PolicyPipeline QuarantinedComponent
open QuarantineRegistry

/-- The engine with the kill switch at a level. -/
def atLevel (engine : PolicyEngine) (level : KillSwitchLevel) : PolicyEngine :=
  { engine with quarantineRegistry := engine.quarantineRegistry.atLevel level }

/-- No auto-disarm and no quarantine expiry is due. -/
structure Quiet (engine : PolicyEngine) (nowMs : Nat) : Prop where
  disarm : engine.quarantineRegistry.killSwitch.autoDisarmAtMs = 0 ∨
    nowMs < engine.quarantineRegistry.killSwitch.autoDisarmAtMs
  expiry : engine.quarantineRegistry.autoExpire = true →
    ∀ id component, engine.quarantineRegistry.components id = some component →
      component.state = .quarantined → component.isExpiredAt nowMs = false

variable {engine : PolicyEngine} {context : DecisionContext} {clock : Clock}

/-- The sweep changes nothing in quiet times. -/
theorem Quiet.seen_atLevel (h : Quiet engine clock.nowMs) (level : KillSwitchLevel)
    (consume : Bool) :
    (atLevel engine level).seen clock consume = atLevel engine level := by
  have hSwitch : ((engine.quarantineRegistry.atLevel level).killSwitch).tick clock.nowMs =
      (engine.quarantineRegistry.atLevel level).killSwitch := by
    have hDue : ((engine.quarantineRegistry.atLevel level).killSwitch).shouldAutoDisarm
        clock.nowMs = false := by
      unfold KillSwitch.shouldAutoDisarm QuarantineRegistry.atLevel
        restoreKillSwitch
      rcases h.disarm with hNone | hLater
      · simp [hNone]
      · simp [Nat.not_le.mpr hLater]
    rw [KillSwitch.tick, hDue]
    rfl
  have hComponents : (engine.quarantineRegistry.atLevel level).maybeExpire clock.nowMs =
      engine.quarantineRegistry.atLevel level := by
    unfold maybeExpire
    split_ifs with hAuto
    · have hSame : (fun id => ((engine.quarantineRegistry.atLevel level).components id).map
          (expireComponent clock.nowMs)) =
          (engine.quarantineRegistry.atLevel level).components := by
        funext id
        cases hFound : (engine.quarantineRegistry.atLevel level).components id with
        | none => rfl
        | some component =>
          have hNot : ¬(component.state = .quarantined ∧
              component.isExpiredAt clock.nowMs) := by
            rintro ⟨hState, hExpired⟩
            rw [h.expiry hAuto id component hFound hState] at hExpired
            cases hExpired
          rw [Option.map_some, expireComponent, if_neg hNot]
      rw [expireQuarantines, hSame]
    · rfl
  cases consume with
  | false => rfl
  | true =>
    change { atLevel engine level with
      quarantineRegistry := ((engine.quarantineRegistry.atLevel level).maybeExpire
        clock.nowMs).tickKillSwitch clock.nowMs } = atLevel engine level
    rw [hComponents, tickKillSwitch, hSwitch]
    rfl

/-! ## The decision at a level -/

/-- The early gates after those that read the level. -/
def restGates (engine : PolicyEngine) (request : Request) (context : DecisionContext) :
    Except PolicyDecision (DecisionContext × Bool) := do
  let context ← revocationGate engine request.input context
  let context ← inferredNamespaceGate engine request.input context
  let context ← explicitNamespaceGate engine request.input context
  let (context, brokerAuthorized) ← credentialBrokerGate engine request context
  let context ← reservationUnknownGate request.input context
  let context ← paneReservedGate request.input context
  return (context, brokerAuthorized)

/-- What the pipeline decides after the gates that read the level. -/
def restDecision (engine : PolicyEngine) (clock : Clock) (request : Request) (consume : Bool) :
    PolicyDecision :=
  match restGates engine request {} with
  | .error decision => decision
  | .ok (context, brokerAuthorized) =>
    decisionFrom engine clock request.input consume context brokerAuthorized

/-- The component of the target pane has the property. -/
def paneHas (engine : PolicyEngine) (input : PolicyInput) (p : QuarantinedComponent → Bool) :
    Bool :=
  input.paneId.any fun paneId => (engine.quarantineRegistry.components s!"pane-{paneId}").any p

/-- The denial of the gates that read the level, if they deny. -/
def levelDenial (engine : PolicyEngine) (input : PolicyInput) : Option PolicyDecision :=
  match killSwitchGate engine input {} with
  | .error decision => some decision
  | .ok context =>
    match quarantineGate engine input context with
    | .error decision => some decision
    | .ok _ => none

variable {level : KillSwitchLevel} {input : PolicyInput} {ruleId : String} {request : Request}
  {β : Type} {q : β → Prop} {next : DecisionContext}

private theorem killSwitchGate_ok (h : killSwitchGate engine input context = .ok next) :
    next = context := by
  unfold killSwitchGate at h
  dsimp only at h
  split_ifs at h
  cases h
  rfl

private theorem quarantineGate_ok (h : quarantineGate engine input context = .ok next) :
    next = context := by
  unfold quarantineGate at h
  cases hPane : input.paneId with
  | none =>
    rw [hPane] at h
    cases h
    rfl
  | some =>
    rw [hPane] at h
    dsimp only at h
    split_ifs at h
    cases h
    rfl

/-! ## What the level denies -/

/-- The gates that read the level deny. -/
def levelDenies (engine : PolicyEngine) (input : PolicyInput) (level : KillSwitchLevel) : Prop :=
  .emergencyHalt ≤ level ∨ (.hardStop ≤ level ∧ input.action.isReadOnly = false) ∨
    (.softStop ≤ level ∧ input.action.isWorkflowLaunch = true) ∨
    (input.paneId.isSome = true ∧ input.action.isMutating = true ∧
      (.softStop ≤ level ∨ paneHas engine input blocksWrites = true)) ∨
    paneHas engine input blocksAll = true

/-- The kill switch itself denies. -/
def switchDenies (level : KillSwitchLevel) (action : ActionKind) : Prop :=
  .emergencyHalt ≤ level ∨ (.hardStop ≤ level ∧ action.isReadOnly = false) ∨
    (.softStop ≤ level ∧ action.isWorkflowLaunch = true)

/-- The quarantine of the target pane denies. -/
def paneDenies (engine : PolicyEngine) (input : PolicyInput) (level : KillSwitchLevel) : Prop :=
  (input.paneId.isSome = true ∧ input.action.isMutating = true ∧
      (.softStop ≤ level ∨ paneHas engine input blocksWrites = true)) ∨
    paneHas engine input blocksAll = true

private theorem levelDenies_iff : levelDenies engine input level ↔
    switchDenies level input.action ∨ paneDenies engine input level := by
  simp only [levelDenies, switchDenies, paneDenies, or_assoc]

/-- A gate that passes passes its trail on, so only the denials are left to tell. -/
private theorem killSwitchGate_cases (engine : PolicyEngine) (level : KillSwitchLevel)
    (input : PolicyInput) :
    (killSwitchGate (atLevel engine level) input {} = .ok {} ∧
      ¬switchDenies level input.action) ∨
    (∃ reason ruleId context,
      killSwitchGate (atLevel engine level) input {} = .error (.deny reason ruleId context)) ∧
      switchDenies level input.action := by
  have hEmergency : ((atLevel engine level).quarantineRegistry.killSwitch).isEmergency =
      decide (.emergencyHalt ≤ level) := rfl
  have hInflight : ((atLevel engine level).quarantineRegistry.killSwitch).allowsInflight =
      decide (level < .hardStop) := rfl
  have hLaunch : ((atLevel engine level).quarantineRegistry.killSwitch).allowsNewWorkflows =
      decide (level < .softStop) := rfl
  unfold killSwitchGate
  simp only [hEmergency, hInflight, hLaunch, decide_eq_true_eq, Bool.and_eq_true,
    Bool.not_eq_true', decide_eq_false_iff_not, not_lt]
  split_ifs with h1 h2 h3
  · exact .inr ⟨⟨_, _, _, rfl⟩, .inl h1⟩
  · exact .inr ⟨⟨_, _, _, rfl⟩, .inr (.inl h2)⟩
  · exact .inr ⟨⟨_, _, _, rfl⟩, .inr (.inr h3)⟩
  · exact .inl ⟨rfl, not_or.mpr ⟨h1, not_or.mpr ⟨h2, h3⟩⟩⟩

/-- Below the emergency only the quarantine of a component blocks everything. -/
private theorem isBlockedForAll_atLevel (engine : PolicyEngine)
    (hLevel : ¬(.emergencyHalt ≤ level)) (id : String) :
    (atLevel engine level).quarantineRegistry.isBlockedForAll id =
      (engine.quarantineRegistry.components id).any blocksAll := by
  have hEmergency : ((atLevel engine level).quarantineRegistry.killSwitch).isEmergency =
      false := decide_eq_false hLevel
  rw [isBlockedForAll, hEmergency]
  rfl

private theorem quarantineGate_cases (engine : PolicyEngine) (hLevel : ¬(.emergencyHalt ≤ level))
    (input : PolicyInput) :
    (quarantineGate (atLevel engine level) input {} = .ok {} ∧ ¬paneDenies engine input level) ∨
    (∃ reason ruleId context,
      quarantineGate (atLevel engine level) input {} = .error (.deny reason ruleId context)) ∧
      paneDenies engine input level := by
  have hWrites : ∀ id, (atLevel engine level).quarantineRegistry.isBlockedForWrites id =
      if !decide (level < .softStop) then true
      else (engine.quarantineRegistry.components id).any blocksWrites :=
    fun _ => rfl
  unfold quarantineGate paneDenies paneHas
  cases hPane : input.paneId with
  | none => simp
  | some =>
    simp only [hWrites, isBlockedForAll_atLevel engine hLevel, Option.any_some,
      Option.isSome_some, true_and]
    by_cases hMutating : input.action.isMutating
    · by_cases hSoft : level < .softStop
      · simp only [hMutating, hSoft, decide_true, Bool.not_true, if_false, Bool.true_and,
          Bool.false_eq_true, true_and, not_le.mpr hSoft, false_or]
        split_ifs with h1 h2
        · exact .inr ⟨⟨_, _, _, rfl⟩, .inl h1⟩
        · exact .inr ⟨⟨_, _, _, rfl⟩, .inr h2⟩
        · exact .inl ⟨rfl, not_or.mpr ⟨h1, h2⟩⟩
      · simp only [hMutating, hSoft, decide_false, Bool.not_false, if_true, Bool.true_and, true_and]
        exact .inr ⟨⟨_, _, _, rfl⟩, .inl (.inl (not_lt.mp hSoft))⟩
    · simp only [hMutating, Bool.false_and, Bool.false_eq_true, if_false, false_and, false_or]
      split_ifs with h2
      · exact .inr ⟨⟨_, _, _, rfl⟩, h2⟩
      · exact .inl ⟨rfl, h2⟩

/-! ## Telling the denial of the quarantine gate from the rest -/

/-- The trail starts with another rule than the quarantine. -/
def Foreign (context : DecisionContext) : Prop :=
  ∃ entry, context.rulesEvaluated.head? = some entry ∧ entry.ruleId ≠ "policy.quarantine"

/-- The trail does not start with the quarantine. -/
def Fresh (context : DecisionContext) : Prop :=
  context.rulesEvaluated = [] ∨ Foreign context

/-- Early decisions have a foreign trail, and what passes has the property. -/
def Outcome {β : Type} (q : β → Prop) : Except PolicyDecision β → Prop
  | .error decision => Foreign decision.context
  | .ok result => q result

theorem Outcome.bind {α : Type} {p : α → Prop} {first : Except PolicyDecision α}
    {next : α → Except PolicyDecision β} (hFirst : Outcome p first)
    (hNext : ∀ a, p a → Outcome q (next a)) : Outcome q (first >>= next) := by
  cases first with
  | error => exact hFirst
  | ok a => exact hNext a hFirst

theorem Foreign.mono (h : Foreign context)
    (hPrefix : context.rulesEvaluated <+: next.rulesEvaluated) : Foreign next := by
  obtain ⟨entry, hHead, hRule⟩ := h
  obtain ⟨more, hMore⟩ := hPrefix
  refine ⟨entry, ?_, hRule⟩
  rw [← hMore, List.head?_append, hHead]
  rfl

section Fresh

variable (h : Fresh context) (hRule : ruleId ≠ "policy.quarantine")
include h hRule

theorem Fresh.recordRule (hit : Bool) (decision reason : Option String) :
    Foreign (context.recordRule ruleId hit decision reason) := by
  rcases h with hEmpty | hForeign
  · refine ⟨⟨ruleId, hit, decision, reason⟩, ?_, hRule⟩
    rw [DecisionContext.recordRule, hEmpty]
    rfl
  · exact hForeign.mono (List.prefix_append _ _)

private theorem Fresh.outcome_deny (note reason : String) : Outcome q (.error (context.denyWith ruleId note reason)) :=
  h.recordRule hRule _ _ _

private theorem Fresh.outcome_record (hit : Bool) (decision reason : Option String) :
    Outcome Fresh (.ok (context.recordRule ruleId hit decision reason)) :=
  .inr (h.recordRule hRule _ _ _)

end Fresh

section

variable (engine : PolicyEngine) (clock : Clock) (request : Request) (input : PolicyInput)
  (h : Fresh context)

section Gates

include h

private theorem revocationGate_outcome : Outcome Fresh (revocationGate engine input context) := by
  unfold revocationGate
  repeat' split
  · exact h
  · exact h.outcome_deny (by decide) _ _
  · exact h

private theorem inferredNamespaceGate_outcome :
    Outcome Fresh (inferredNamespaceGate engine input context) := by
  unfold inferredNamespaceGate
  dsimp only
  repeat' split
  · exact h.outcome_deny (by decide) _ _
  · exact h.outcome_record (by decide) _ _ _
  · exact h.outcome_record (by decide) _ _ _
  · exact h
  · exact h

private theorem explicitNamespaceGate_outcome :
    Outcome Fresh (explicitNamespaceGate engine input context) := by
  unfold explicitNamespaceGate
  dsimp only
  repeat' split
  · exact h
  · exact h
  · exact h.outcome_deny (by decide) _ _
  · exact h.outcome_record (by decide) _ _ _
  · exact h.outcome_record (by decide) _ _ _
  · exact h

private theorem credentialBrokerGate_outcome :
    Outcome (fun passed => Fresh passed.1) (credentialBrokerGate engine request context) := by
  unfold credentialBrokerGate
  dsimp only
  repeat' split
  · exact h.outcome_deny (by decide) _ _
  · exact h.outcome_deny (by decide) _ _
  · exact h.recordRule (by decide) _ _ _
  · exact h.outcome_record (by decide) _ _ _
  · exact h

private theorem reservationUnknownGate_outcome :
    Outcome Fresh (reservationUnknownGate input context) := by
  unfold reservationUnknownGate
  split
  · exact h.outcome_deny (by decide) _ _
  · exact h

private theorem paneReservedGate_outcome : Outcome Foreign (paneReservedGate input context) := by
  unfold paneReservedGate
  repeat' split
  · exact (h.recordRule (by decide) _ _ _).mono (List.prefix_append _ _)
  · exact h.outcome_deny (by decide) _ _
  · exact h.recordRule (by decide) _ _ _

private theorem restGates_outcome :
    Outcome (fun passed => Foreign passed.1) (restGates engine request context) := by
  refine (revocationGate_outcome engine request.input h).bind fun context h => ?_
  refine (inferredNamespaceGate_outcome engine request.input h).bind fun context h => ?_
  refine (explicitNamespaceGate_outcome engine request.input h).bind fun context h => ?_
  refine (credentialBrokerGate_outcome engine request h).bind fun passed h => ?_
  refine (reservationUnknownGate_outcome request.input h).bind fun context h => ?_
  exact (paneReservedGate_outcome request.input h).bind fun context h => h

end Gates

/-- A decision of the rest of the pipeline is never mistaken for the quarantine gate's. -/
theorem restDecision_foreign (consume : Bool) :
    Foreign (restDecision engine clock request consume).context := by
  have hRest := restGates_outcome engine request (.inl rfl : Fresh {})
  unfold restDecision
  cases hOut : restGates engine request {} with
  | error =>
    rw [hOut] at hRest
    exact hRest
  | ok passed =>
    rw [hOut] at hRest
    exact Foreign.mono hRest
      (decisionFrom_extends engine clock request.input consume passed.1 passed.2)

end

/-! ## The tiers -/

/-- Raising the level keeps what the level denies. -/
theorem levelDenies_mono {higher : KillSwitchLevel} (hLe : level ≤ higher)
    (h : levelDenies engine input level) : levelDenies engine input higher := by
  rcases h with h | ⟨h, hRead⟩ | ⟨h, hLaunch⟩ | ⟨hSome, hMutating, h⟩ | h
  · exact .inl (h.trans hLe)
  · exact .inr (.inl ⟨h.trans hLe, hRead⟩)
  · exact .inr (.inr (.inl ⟨h.trans hLe, hLaunch⟩))
  · exact .inr (.inr (.inr (.inl ⟨hSome, hMutating, h.imp_left (·.trans hLe)⟩)))
  · exact .inr (.inr (.inr (.inr h)))

private theorem killSwitchGate_passes (engine : PolicyEngine)
    (hEmergency : ¬(.emergencyHalt ≤ level))
    (hHard : level < .hardStop ∨ input.action.isReadOnly)
    (hSoft : level < .softStop ∨ input.action.isWorkflowLaunch = false) :
    killSwitchGate (atLevel engine level) input {} = .ok {} := by
  rcases killSwitchGate_cases engine level input with ⟨hPass, _⟩ | ⟨_, hWhy⟩
  · exact hPass
  · rcases hWhy with h | ⟨h, hRead⟩ | ⟨h, hLaunch⟩
    · exact absurd h hEmergency
    · rcases hHard with hLess | hTrue
      · exact absurd h (not_le.mpr hLess)
      · rw [hTrue] at hRead
        cases hRead
    · rcases hSoft with hLess | hFalse
      · exact absurd h (not_le.mpr hLess)
      · rw [hFalse] at hLaunch
        cases hLaunch

/-- Below the emergency the quarantine gate reads the level for pane writes only. -/
private theorem quarantineGate_congr (engine : PolicyEngine) (hLevel : ¬(.emergencyHalt ≤ level))
    (h : ¬(input.paneId.isSome ∧ input.action.isMutating ∧ paneHas engine input
      blocksWrites = false)) :
    quarantineGate (atLevel engine level) input {} =
      quarantineGate (atLevel engine .disarmed) input {} := by
  unfold quarantineGate
  cases hPane : input.paneId with
  | none => rfl
  | some paneId =>
    dsimp only
    rw [isBlockedForAll_atLevel engine hLevel, isBlockedForAll_atLevel engine (by decide)]
    cases hMutating : input.action.isMutating with
    | false => rfl
    | true =>
      -- The pane is quarantined on its own account.
      have hBlocks : (engine.quarantineRegistry.components s!"pane-{paneId}").any
          blocksWrites := by
        simpa [hPane, hMutating, paneHas] using h
      have hWrites : ∀ level, (atLevel engine level).quarantineRegistry.isBlockedForWrites
          s!"pane-{paneId}" = true := by
        intro level
        unfold isBlockedForWrites
        split_ifs
        · rfl
        · exact hBlocks
      rw [hWrites, hWrites]

private theorem paneHas_blocksWrites_of_blocksAll (h : paneHas engine input blocksAll) :
    paneHas engine input blocksWrites := by
  unfold paneHas at h ⊢
  rw [Option.any_eq_true_iff_get] at h ⊢
  obtain ⟨hPane, hFound⟩ := h
  refine ⟨hPane, ?_⟩
  rw [Option.any_eq_true_iff_get] at hFound ⊢
  obtain ⟨hSome, hBlocks⟩ := hFound
  exact ⟨hSome, blocksWrites_of_blocksAll hBlocks⟩

private theorem not_mutating_of_readOnly {action : ActionKind} (h : action.isReadOnly) :
    action.isMutating = false ∧ action.isWorkflowLaunch = false := by
  cases action <;> first | exact ⟨rfl, rfl⟩ | cases h

section Quiet

variable {consume : Bool} (hQuiet : Quiet engine clock.nowMs)
include hQuiet

/-- **The decision at a level.** -/
theorem decision_atLevel (level : KillSwitchLevel) :
    decision (atLevel engine level) clock request consume =
      (levelDenial (atLevel engine level) request.input).getD
        (restDecision engine clock request consume) := by
  have hRest : restDecision (atLevel engine level) clock request consume =
      restDecision engine clock request consume := rfl
  rw [decision_eq, hQuiet.seen_atLevel, ← hRest]
  unfold levelDenial earlyGates
  cases hKill : killSwitchGate (atLevel engine level) request.input {} with
  | error => rfl
  | ok context =>
    cases killSwitchGate_ok hKill
    change (match (quarantineGate (atLevel engine level) request.input {} >>= fun context =>
      restGates (atLevel engine level) request context) with
      | .error decision => decision
      | .ok (context, brokerAuthorized) =>
        decisionFrom (atLevel engine level) clock request.input consume context
          brokerAuthorized) = _
    cases hQuarantine : quarantineGate (atLevel engine level) request.input {} with
    | error =>
      dsimp only
      rw [hQuarantine]
      rfl
    | ok =>
      cases quarantineGate_ok hQuarantine
      dsimp only
      rw [hQuarantine]
      rfl

/-- The gates that read the level either deny or leave the rest to decide. -/
theorem decision_atLevel_cases (level : KillSwitchLevel) :
    (decision (atLevel engine level) clock request consume =
        restDecision engine clock request consume ∧ ¬levelDenies engine request.input level) ∨
      (decision (atLevel engine level) clock request consume).isDenied ∧
        levelDenies engine request.input level := by
  rw [decision_atLevel hQuiet, levelDenies_iff]
  unfold levelDenial
  rcases killSwitchGate_cases engine level request.input with
    ⟨hKill, hPasses⟩ | ⟨⟨reason, ruleId, context, hKill⟩, hWhy⟩
  · rw [hKill]
    dsimp only
    rcases quarantineGate_cases engine (fun h => hPasses (.inl h)) request.input with
      ⟨hPane, hClear⟩ | ⟨⟨reason, ruleId, context, hPane⟩, hWhy⟩
    · rw [hPane]
      exact .inl ⟨rfl, not_or.mpr ⟨hPasses, hClear⟩⟩
    · rw [hPane]
      exact .inr ⟨rfl, .inr hWhy⟩
  · rw [hKill]
    exact .inr ⟨rfl, .inl hWhy⟩

private theorem isDenied_of_levelDenies (h : levelDenies engine request.input level) :
    (decision (atLevel engine level) clock request consume).isDenied := by
  rcases decision_atLevel_cases hQuiet level with ⟨_, hNot⟩ | ⟨hDenied, _⟩
  · exact absurd h hNot
  · exact hDenied

private theorem decision_eq_disarmed (hEmergency : ¬(.emergencyHalt ≤ level))
    (hHard : level < .hardStop ∨ request.input.action.isReadOnly)
    (hSoft : level < .softStop ∨ request.input.action.isWorkflowLaunch = false)
    (h : ¬(request.input.paneId.isSome ∧ request.input.action.isMutating ∧ paneHas
      engine request.input blocksWrites = false)) :
    decision (atLevel engine level) clock request consume =
      decision (atLevel engine .disarmed) clock request consume := by
  rw [decision_atLevel hQuiet, decision_atLevel hQuiet, levelDenial, levelDenial,
    killSwitchGate_passes engine hEmergency hHard hSoft,
    killSwitchGate_passes engine (by decide) (.inl (by decide)) (.inl (by decide))]
  dsimp only
  rw [quarantineGate_congr engine hEmergency h]

/-- At `SoftStop` a write to a pane that is not quarantined is not decided as without it. -/
private theorem soft_ne_disarmed (hLaunch : request.input.action.isWorkflowLaunch = false)
    (hSome : request.input.paneId.isSome)
    (hMutating : request.input.action.isMutating)
    (hFree : paneHas engine request.input blocksWrites = false) :
    decision (atLevel engine .softStop) clock request consume ≠
      decision (atLevel engine .disarmed) clock request consume := by
  intro hEq
  have hDisarmed : decision (atLevel engine .disarmed) clock request consume =
      restDecision engine clock request consume := by
    rcases decision_atLevel_cases hQuiet .disarmed with ⟨hRest, _⟩ | ⟨_, hDenies⟩
    · exact hRest
    · exfalso
      rcases hDenies with h | ⟨h, _⟩ | ⟨h, _⟩ | ⟨_, _, h | h⟩ | h
      · exact absurd h (by decide)
      · exact absurd h (by decide)
      · exact absurd h (by decide)
      · exact absurd h (by decide)
      · rw [hFree] at h
        cases h
      · rw [paneHas_blocksWrites_of_blocksAll h] at hFree
        cases hFree
  obtain ⟨paneId, hPane⟩ := Option.isSome_iff_exists.mp hSome
  have hWrites : (atLevel engine .softStop).quarantineRegistry.isBlockedForWrites
      s!"pane-{paneId}" = true := rfl
  have hSoft : ∃ note reason, decision (atLevel engine .softStop) clock request consume =
      DecisionContext.denyWith {} "policy.quarantine" note reason := by
    rw [decision_atLevel hQuiet, levelDenial,
      killSwitchGate_passes engine (by decide) (.inl (by decide)) (.inr hLaunch)]
    unfold quarantineGate
    simp only [hPane, hMutating, hWrites, Bool.and_self, if_true]
    exact ⟨_, _, rfl⟩
  obtain ⟨note, reason, hSoft⟩ := hSoft
  have hForeign := restDecision_foreign engine clock request consume
  rw [← hDisarmed, ← hEq, hSoft] at hForeign
  obtain ⟨entry, hHead, hRule⟩ := hForeign
  cases hHead
  exact hRule rfl

end Quiet

/-- **The kill switch is graduated**, but for pane writes at `SoftStop`: those are left as they
are exactly if the pane is quarantined on its own account. -/
theorem kill_switch_is_graduated (engine : PolicyEngine) (clock : Clock) (request : Request)
    (consume : Bool) (hQuiet : Quiet engine clock.nowMs) :
    (∀ level higher, level ≤ higher →
      (decision (atLevel engine level) clock request consume).isDenied = true →
      (decision (atLevel engine higher) clock request consume).isDenied = true) ∧
    (decision (atLevel engine .emergencyHalt) clock request consume).isDenied = true ∧
    (request.input.action.isReadOnly = false →
      (decision (atLevel engine .hardStop) clock request consume).isDenied = true) ∧
    (request.input.action.isReadOnly = true →
      decision (atLevel engine .hardStop) clock request consume =
        decision (atLevel engine .disarmed) clock request consume) ∧
    (request.input.action.isWorkflowLaunch = true →
      (decision (atLevel engine .softStop) clock request consume).isDenied = true) ∧
    (request.input.action.isWorkflowLaunch = false →
      (decision (atLevel engine .softStop) clock request consume =
          decision (atLevel engine .disarmed) clock request consume ↔
        ¬(request.input.paneId.isSome = true ∧ request.input.action.isMutating = true ∧
          paneHas engine request.input blocksWrites = false))) := by
  refine ⟨fun level higher hLe h => ?_, ?_, ?_, ?_, ?_, ?_⟩
  · rcases decision_atLevel_cases hQuiet higher with ⟨hHigher, hNot⟩ | ⟨hDenied, _⟩
    · rcases decision_atLevel_cases hQuiet level with ⟨hLevel, _⟩ | ⟨_, hDenies⟩
      · rwa [hHigher, ← hLevel]
      · exact absurd (levelDenies_mono hLe hDenies) hNot
    · exact hDenied
  · exact isDenied_of_levelDenies hQuiet (.inl le_rfl)
  · exact fun hRead => isDenied_of_levelDenies hQuiet (.inr (.inl ⟨le_rfl, hRead⟩))
  · intro hRead
    obtain ⟨hMutating, hLaunch⟩ := not_mutating_of_readOnly hRead
    exact decision_eq_disarmed hQuiet (by decide) (.inr hRead) (.inr hLaunch)
      (by simp [hMutating])
  · exact fun hLaunch => isDenied_of_levelDenies hQuiet
      (.inr (.inr (.inl ⟨le_rfl, hLaunch⟩)))
  · intro hLaunch
    constructor
    · rintro hEq ⟨hSome, hMutating, hFree⟩
      exact soft_ne_disarmed hQuiet hLaunch hSome hMutating hFree hEq
    · exact decision_eq_disarmed hQuiet (by decide) (.inl (by decide)) (.inr hLaunch)

/-- A person sends text to pane 1, which is free and at its prompt. -/
private def sendToFreePane : Request where
  input :=
    { PolicyInput.new .sendText .human with
      paneId := some 1
      capabilities := { promptActive := true, altScreen := some false, isReserved := some false } }

theorem kill_switch_is_graduated_send : let engine := PolicyEngine.new .unlimited true .permissive
    decision (atLevel engine .softStop) ⟨0, 0⟩ sendToFreePane true ≠
      decision (atLevel engine .disarmed) ⟨0, 0⟩ sendToFreePane true := by
  intro engine hEq
  have hLast := (kill_switch_is_graduated engine ⟨0, 0⟩ sendToFreePane true
    ⟨.inl rfl, fun _ _ _ hFound => by cases hFound⟩).2.2.2.2.2 rfl
  exact hLast.mp hEq ⟨rfl, rfl, rfl⟩

/-- At `SoftStop` the text is denied, although it launches nothing. -/
theorem soft_stop_blocks_pane_writes : let engine := PolicyEngine.new .unlimited true .permissive
    sendToFreePane.input.action.isWorkflowLaunch = false ∧
      (decision (atLevel engine .disarmed) ⟨0, 0⟩ sendToFreePane true).isAllowed ∧
      (decision (atLevel engine .softStop) ⟨0, 0⟩ sendToFreePane true).isDenied := by
  decide +kernel

end FrankenTerm.Ports.PolicyTiers
