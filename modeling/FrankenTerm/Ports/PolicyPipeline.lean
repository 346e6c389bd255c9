import FrankenTerm.Ports.PolicyQuarantine
import FrankenTerm.Ports.PolicyRateLimit
import FrankenTerm.Ports.PolicyRules

/-!
# The authorisation pipeline

`PolicyEngine::evaluate_authorization` is a sequence of gates.  A gate extends the trail of the
decision or returns early with a decision; the gates are, in order, the kill switch, quarantines,
revocations, the two namespace checks, the credential broker, pane reservations, the rate limit,
then the alternate screen, capture gaps, the prompt, the trauma guard, the command safety gate,
the custom rules and the default for destructive actions.  `earlyGates` are those before the rate
limit, `lateGates` those after it.

What the pipeline asks of command texts is in `TextGates`: the trauma bypass prefix, the two
classifications of build commands and the command safety gate, each with its configuration
applied.  Nothing here depends on how they read a text.  The side effects on the audit chain, the
compliance counters, the broker's denial counter and the namespace audit log are left out; no
gate reads them.

## Main results

* `decision_eq` — the decision as early gates, rate limit and late gates of one engine.
* `lateGates_extends`, `decisionFrom_extends` — no later gate drops an entry of the trail.
-/

namespace FrankenTerm.Ports.PolicyPipeline

open PolicyTypes PolicyNamespace PolicyQuarantine PolicyRateLimit PolicyRules

/-! ## The engine -/

/-- `CredentialSensitivity`. -/
inductive CredentialSensitivity where
  | low
  | medium
  | high
  | critical
deriving DecidableEq, Repr

namespace CredentialSensitivity

def rank : CredentialSensitivity → Nat
  | .low => 0
  | .medium => 1
  | .high => 2
  | .critical => 3

instance : ToString CredentialSensitivity where
  toString
    | .low => "low"
    | .medium => "medium"
    | .high => "high"
    | .critical => "critical"

end CredentialSensitivity

section

variable (engine : PolicyEngine) (input : PolicyInput)

/-- `CredentialScope`. -/
structure CredentialScope where
  provider : String
  resource : String
  operations : List String

/-- `RevocationRecord`. -/
structure RevocationRecord where
  resourceType : String
  resourceId : String
  active : Bool

/-- `RchProofCommandSafety`. -/
inductive RchProofCommandSafety where
  | noCargoWork
  | validRemoteCargo
  | failOpenRemoteCargo
  | missingRch
  | shellWrappedRemoteCargo
deriving DecidableEq, Repr

/-- `CommandGateOutcome`. -/
inductive CommandGateOutcome where
  | allow
  | deny (reason ruleId : String)
  | requireApproval (reason ruleId : String)
deriving DecidableEq, Repr

/-- What the pipeline asks of command texts. -/
structure TextGates where
  hasTraumaBypassPrefix : String → Bool
  classifyRchProofCommandShape : String → RchProofCommandSafety
  requiresRchOffload : String → Bool
  evaluateCommandGate : String → CommandGateOutcome
  commandPatternIsMatch : String → String → Bool
  jsonNames : JsonNames

/-- The parts of `PolicyEngine` that the pipeline reads. -/
structure PolicyEngine where
  rateLimiter : RateLimiter
  requirePromptActive : Bool
  blockAltScreen : Bool
  blockRecentGap : Bool
  traumaGuardEnabled : Bool
  policyRules : PolicyRulesConfig
  quarantineRegistry : QuarantineRegistry
  credentialBrokerEnabled : Bool
  credentialBrokerMaxSensitivity : CredentialSensitivity
  credentialBrokerIsAuthorized : String → CredentialScope → CredentialSensitivity → Bool
  namespaceRegistry : NamespaceRegistry
  namespaceIsolationEnabled : Bool
  revocationRecords : List RevocationRecord
  textGates : TextGates

/-- Text gates that find nothing. -/
def TextGates.permissive : TextGates where
  hasTraumaBypassPrefix _ := false
  classifyRchProofCommandShape _ := .noCargoWork
  requiresRchOffload _ := false
  evaluateCommandGate _ := .allow
  commandPatternIsMatch _ _ := false
  jsonNames := .plain

/-- The engine as `PolicyEngine::new` builds it, without custom rules. -/
def PolicyEngine.new (rateLimiter : RateLimiter) (requirePromptActive : Bool)
    (textGates : TextGates) : PolicyEngine where
  rateLimiter := rateLimiter
  requirePromptActive := requirePromptActive
  blockAltScreen := false
  blockRecentGap := true
  traumaGuardEnabled := true
  policyRules := {}
  quarantineRegistry := {}
  credentialBrokerEnabled := true
  credentialBrokerMaxSensitivity := .high
  credentialBrokerIsAuthorized _ _ _ := false
  namespaceRegistry := .withPolicy .default
  namespaceIsolationEnabled := false
  revocationRecords := []
  textGates := textGates

/-- One request to the pipeline: the input, and what the caller knows of the credential. -/
structure Request where
  input : PolicyInput
  credentialScope : Option CredentialScope := none
  credentialSensitivity : Option CredentialSensitivity := none

/-- The clocks read during one evaluation. -/
structure Clock where
  nowMs : Nat
  instant : Nat

/-- A gate: the extended trail, or an early decision. -/
abbrev Gate := DecisionContext → Except PolicyDecision DecisionContext

/-! ## The gates before the rate limit -/

/-- The global kill switch, whatever the pane.  `HardStop` is checked first because it is the
stricter superset. -/
def killSwitchGate : Gate := fun context =>
  let killSwitch := engine.quarantineRegistry.killSwitch
  let level := killSwitch.level
  if killSwitch.isEmergency then
    .error (context.denyWith "policy.kill_switch" "emergency halt active"
      "System kill switch is in emergency halt")
  else if !killSwitch.allowsInflight && !input.action.isReadOnly then
    .error (context.denyWith "policy.kill_switch" s!"kill switch {level} — new actions blocked"
      s!"System kill switch ({level}) blocks all new actions")
  else if !killSwitch.allowsNewWorkflows && input.action.isWorkflowLaunch then
    .error (context.denyWith "policy.kill_switch"
      s!"kill switch {level} — new workflow launches paused"
      s!"System kill switch ({level}) pauses new workflow launches")
  else .ok context

/-- The quarantine of the target pane. -/
def quarantineGate : Gate := fun context =>
  match input.paneId with
  | none => .ok context
  | some paneId =>
    let componentId := s!"pane-{paneId}"
    if input.action.isMutating && engine.quarantineRegistry.isBlockedForWrites componentId then
      .error (context.denyWith "policy.quarantine" s!"pane {paneId} quarantined (writes blocked)"
        s!"Pane {paneId} is quarantined — writes blocked")
    else if engine.quarantineRegistry.isBlockedForAll componentId then
      .error (context.denyWith "policy.quarantine"
        s!"pane {paneId} quarantined (all actions blocked)"
        s!"Pane {paneId} is quarantined — all actions blocked")
    else .ok context

/-- `RevocationRegistry::is_revoked`. -/
def PolicyEngine.isRevoked (resourceType resourceId : String) : Bool :=
  engine.revocationRecords.any fun record =>
    record.active && record.resourceType == resourceType && record.resourceId == resourceId

/-- The revocation of the target connector. -/
def revocationGate : Gate := fun context =>
  match input.domain with
  | none => .ok context
  | some domain =>
    if input.action.isConnectorAction && engine.isRevoked "connector" domain then
      .error (context.denyWith "policy.revocation" s!"connector '{domain}' has been revoked"
        s!"Connector '{domain}' has been revoked")
    else .ok context

/-- The namespace check for an actor whose namespace is inferred from the domain.  It looks the
pane up by its bare number. -/
def inferredNamespaceGate : Gate := fun context =>
  if engine.namespaceIsolationEnabled && input.actorNamespace.isNone then
    match input.paneId, input.domain.bind TenantNamespace.new with
    | some paneId, some actorNs =>
      let targetNs := engine.namespaceRegistry.lookup .pane (toString paneId)
      let boundary := engine.namespaceRegistry.checkBoundary actorNs targetNs .pane
      if boundary.crossesBoundary then
        if !boundary.isAllowed then
          .error (context.denyWith "policy.namespace_isolation"
            s!"cross-tenant access denied: {actorNs} -> {targetNs} for pane {paneId}"
            s!"Cross-tenant access denied: namespace '{actorNs}' cannot access pane {paneId} in namespace '{targetNs}'")
        else
          let via := boundary.matchedRule.getD "default policy"
          .ok (context.recordRule "policy.namespace_isolation" false none
            (some s!"cross-tenant access allowed: {actorNs} -> {targetNs} ({via})"))
      else
        .ok (context.recordRule "policy.namespace_isolation" false none
          (some "same-namespace access"))
    | _, _ => .ok context
  else .ok context

/-- The resource that the check for an explicit namespace looks up: the pane by its prefixed
number, else the connector, else the workflow. -/
def explicitResource : NamespacedResourceKind × String :=
  match input.paneId with
  | some paneId => (.pane, s!"pane-{paneId}")
  | none =>
    if input.action.isConnectorAction then (.connector, input.domain.getD "unknown")
    else
      match input.workflowId with
      | some workflowId => (.workflow, workflowId)
      | none => (.pane, "")

/-- The namespace check for an actor with an explicit namespace. -/
def explicitNamespaceGate : Gate := fun context =>
  if engine.namespaceIsolationEnabled then
    match input.actorNamespace with
    | none => .ok context
    | some actorNs =>
      let (resourceKind, resourceId) := explicitResource input
      if resourceId.isEmpty then .ok context
      else
        let targetNs := engine.namespaceRegistry.lookup resourceKind resourceId
        let boundary := engine.namespaceRegistry.checkBoundary actorNs targetNs resourceKind
        let kind := resourceKind.asStr
        if boundary.crossesBoundary && !boundary.isAllowed then
          .error (context.denyWith "policy.namespace_isolation"
            s!"cross-tenant access denied: {actorNs} -> {targetNs} for {kind}:'{resourceId}'"
            s!"Cross-tenant access denied: namespace '{actorNs}' cannot access resource in namespace '{targetNs}'")
        else if boundary.crossesBoundary then
          let rule := (boundary.matchedRule.map fun rule => s!" (rule: {rule})").getD ""
          .ok (context.recordRule "policy.namespace_isolation" false none
            (some s!"cross-tenant access allowed: {actorNs} -> {targetNs}{rule}"))
        else
          .ok (context.recordRule "policy.namespace_isolation" false none
            (some "same-namespace access"))
  else .ok context

/-- The credential broker, for credential actions of connectors.  The flag says that the broker
authorised the action, which later exempts it from the default for destructive actions. -/
def credentialBrokerGate (request : Request) (context : DecisionContext) :
    Except PolicyDecision (DecisionContext × Bool) :=
  if engine.credentialBrokerEnabled && request.input.action.isConnectorAction &&
      request.input.action == .connectorCredentialAction then
    let connectorId := request.input.domain.getD "unknown"
    match request.credentialScope with
    | none =>
      .error (context.denyWith "policy.credential_broker"
        "connector credential action missing scope context"
        "connector credential action missing scope context")
    | some scope =>
      let sensitivity := request.credentialSensitivity.getD .medium
      let provider := scope.provider
      let resource := scope.resource
      let ceiling := engine.credentialBrokerMaxSensitivity
      if !engine.credentialBrokerIsAuthorized connectorId scope sensitivity then
        let reason := s!"connector '{connectorId}' not authorized for scope {provider}:{resource} at sensitivity {sensitivity}"
        .error (context.denyWith "policy.credential_broker" reason reason)
      else if sensitivity.rank > ceiling.rank then
        let reason := s!"credential sensitivity {sensitivity} exceeds configured ceiling {ceiling}"
        .error (context.approveWith "policy.credential_broker" reason reason)
      else
        .ok (context.recordRule "policy.credential_broker" false none
          (some s!"credential access authorized for {provider}:{resource} at sensitivity {sensitivity}"),
          true)
  else .ok (context, false)

/-- A missing reservation lookup is no proof that the target is free. -/
def reservationUnknownGate : Gate := fun context =>
  if input.paneId.isSome && input.action.isMutating && input.capabilities.isReserved.isNone then
    .error (context.denyWith "policy.reservation_unknown" "reservation authority unavailable"
      "Pane reservation authority is unknown; retry after a successful lookup")
  else .ok context

/-- The reservation is held by the workflow that asks. -/
def isReservationOwner : Bool :=
  match input.capabilities.reservedBy, input.workflowId with
  | some reservedBy, some workflowId => reservedBy == workflowId
  | _, _ => false

/-- Reservation ownership is a hard boundary, not an approvable safety warning. -/
def paneReservedGate : Gate := fun context =>
  let free : DecisionContext → DecisionContext := fun context =>
    context.recordRule "policy.pane_reserved" false none (some "no reservation conflict")
  if input.action.isMutating && input.capabilities.isReserved == some true then
    if isReservationOwner input then
      .ok (free (context.recordRule "policy.pane_reserved" false none
        (some "reserved by same workflow")))
    else
      let owner := input.capabilities.reservedBy.getD "unknown"
      let reason := s!"Pane is reserved by workflow {owner}"
      .error (context.denyWith "policy.pane_reserved" reason reason)
  else .ok (free context)

/-! ## The rate limit -/

/-- The decision on the outcome of the limiter; `none` when the action is not rate limited. -/
def rateLimitGate (outcome : Option RateLimitOutcome) : Gate := fun context =>
  match outcome with
  | none =>
    .ok (context.recordRule "policy.rate_limit" false none (some "action not rate limited"))
  | some .allowed => .ok (context.recordRule "policy.rate_limit" false none none)
  | some (.limited hit) =>
    .error (context.approveWith "policy.rate_limit" hit.reason hit.reason)

/-! ## The gates after the rate limit -/

/-- The alternate screen, for actions that inject input. -/
def altScreenGate : Gate := fun context =>
  if input.action.isSend then
    match input.capabilities.altScreen with
    | some true =>
      -- The approval for untrusted actors comes before the flat denial.
      if engine.blockAltScreen && !input.actor.isTrusted then
        .error (context.approveWith "policy.block_alt_screen" "pane in alternate screen"
          "Pane is in the alternate screen (fullscreen app) - approval required before sending")
      else
        .error (context.denyWith "policy.alt_screen" "alt screen active"
          "Cannot send text while in alt-screen mode (vim, less, etc.)")
    | some false =>
      .ok (context.recordRule "policy.alt_screen" false none (some "alt screen not active"))
    | none =>
      if !input.actor.isTrusted then
        .error (context.approveWith "policy.alt_screen_unknown" "alt screen state unknown"
          "Alt-screen state unknown - approval required before sending")
      else
        .ok (context.recordRule "policy.alt_screen_unknown" true none
          (some "alt screen state unknown; trusted actor bypassed approval"))
  else .ok context

/-- A recent capture gap, for actions that inject input. -/
def recentGapGate : Gate := fun context =>
  if engine.blockRecentGap && input.action.isSend && input.capabilities.hasRecentGap &&
      !input.actor.isTrusted then
    .error (context.approveWith "policy.recent_gap" "recent capture gap detected"
      "Recent capture gap detected - approval required before sending")
  else .ok (context.recordRule "policy.recent_gap" false none (some "no recent gap"))

/-- The prompt, for actions that inject input. -/
def promptGate : Gate := fun context =>
  if input.action.isSend && engine.requirePromptActive && !input.capabilities.promptActive then
    if input.capabilities.commandRunning then
      .error (context.denyWith "policy.prompt_required" "command running"
        "Refusing to send to running command - wait for prompt")
    else if !input.actor.isTrusted then
      .error (context.approveWith "policy.prompt_unknown" "prompt inactive and actor untrusted"
        "Pane state unknown - approval required before sending (no OSC 133 prompt evidence for this pane; run `ft setup shell` in the pane's shell to publish prompt markers)")
    else .ok context
  else
    .ok (context.recordRule "policy.prompt_required" false none
      (some "prompt gate not applicable"))

/-- The text of a trauma denial. -/
def traumaReason (decision : TraumaDecision) : String :=
  let repeatCount := decision.repeatCount
  match decision.reasonCode with
  | none => s!"Trauma Guard blocked command after {repeatCount} repeated failures"
  | some reasonCode =>
    s!"Trauma Guard blocked command ({reasonCode}) after {repeatCount} repeated failures. Prefix with FT_BYPASS_TRAUMA=1 to override once."

/-- The trauma guard, for texts sent into a pane. -/
def traumaGate : Gate := fun context =>
  let note : String → DecisionContext := fun reason =>
    context.recordRule "policy.trauma_guard" false none (some reason)
  if input.action == .sendText then
    match input.commandText with
    | none => .ok context
    | some text =>
      match input.traumaDecision with
      | none => .ok (note "no trauma decision")
      | some decision =>
        if !engine.traumaGuardEnabled then .ok (note "trauma guard disabled by config")
        else if decision.shouldIntervene then
          if engine.textGates.hasTraumaBypassPrefix text then
            .ok (note "bypass requested via FT_BYPASS_TRAUMA=1")
          else
            .error (context.denyWith "policy.trauma_guard.loop_block" (traumaReason decision)
              (traumaReason decision))
        else .ok (note "trauma guard allow")
  else .ok (note "non-send action")

/-- `RCH_HEAVY_COMPUTE_RULE_ID`. -/
def rchHeavyComputeRuleId : String := "policy.rch.heavy_compute"

/-- `recommended_rch_prefix`. -/
def recommendedRchPrefix : String :=
  "RCH_REQUIRE_REMOTE=1 RCH_NO_SELF_HEALING=1 rch --no-self-healing exec --"

/-- The reason for which a build command of a non-human actor needs approval, if it does. -/
def rchReason (gates : TextGates) (actor : ActorKind) (text : String) : Option String :=
  let who := actor.asStr
  let wrapper := recommendedRchPrefix
  if actor == .human then none
  else
    match gates.classifyRchProofCommandShape text with
    | .shellWrappedRemoteCargo =>
      some s!"Heavy cargo proof commands from {who} actions must pass Cargo directly to `{wrapper}`; shell payloads under `rch exec --` are diagnostic-only because they can fall out of the remote compilation path"
    | .failOpenRemoteCargo =>
      some s!"Heavy cargo proof commands from {who} actions must use fail-closed RCH prefix `{wrapper}` so local fallback or self-healing cannot be counted as proof"
    | _ =>
      if gates.requiresRchOffload text then
        some s!"Heavy cargo commands from {who} actions must be routed through `{wrapper}` to avoid local contention"
      else none

/-- The command safety gate, for actions that carry executable text. -/
def commandGate : Gate := fun context =>
  let note : String → DecisionContext := fun reason =>
    context.recordRule "policy.command_gate" false none (some reason)
  if input.action == .sendText || input.action == .execCommand then
    match input.commandText with
    | none => .ok (note "no command text")
    | some text =>
      match rchReason engine.textGates input.actor text with
      | some reason => .error (context.approveWith rchHeavyComputeRuleId reason reason)
      | none =>
        match engine.textGates.evaluateCommandGate text with
        | .allow => .ok (note "command gate allow")
        | .deny reason ruleId => .error (context.denyWith ruleId reason reason)
        | .requireApproval reason ruleId => .error (context.approveWith ruleId reason reason)
  else .ok (note "non-command action")

/-- `config_rule_trace_reason`. -/
def configRuleTraceReason (rule : PolicyRule) (selected : Bool) (selectedRuleId : Option String) :
    String :=
  let winner := selectedRuleId.getD "unknown"
  let result :=
    if selected then "rule matched and selected"
    else s!"rule matched but '{winner}' won tie-breaking"
  match rule.message with
  | none => result
  | some message => s!"{result}: {message}"

/-- The trail entry of one custom rule. -/
def recordCustomRule (result : RuleEvaluationResult) (context : DecisionContext)
    (rule : PolicyRule) : DecisionContext :=
  let selectedRuleId := result.matchingRule.map (·.id)
  let qualifiedRuleId := "config.rule." ++ rule.id
  if result.matchedRuleIds.contains rule.id then
    context.recordRule qualifiedRuleId true (some rule.decision.asStr)
      (some (configRuleTraceReason rule (selectedRuleId == some rule.id) selectedRuleId))
  else context.recordRule qualifiedRuleId false none (some "rule checked")

/-- The custom rules: the selected one decides. -/
def customRuleGate : Gate := fun context =>
  let result := evaluatePolicyRules engine.textGates.commandPatternIsMatch
    engine.textGates.jsonNames engine.policyRules input
  let context := engine.policyRules.rules.foldl (recordCustomRule result) context
  match result.matchingRule, result.decision with
  | some rule, some decision =>
    let ruleId := "config.rule." ++ rule.id
    let id := rule.id
    let reason := rule.message.getD s!"Rule '{id}' matched"
    let context := context.setDeterminingRule ruleId
    match decision with
    | .deny => .error (.deny reason (some ruleId) context)
    | .requireApproval => .error (.requireApproval reason (some ruleId) context)
    | .allow => .error (.allow (some ruleId) context)
  | _, _ => .ok context

/-- The default for destructive actions of untrusted actors. -/
def destructiveGate (brokerAuthorized : Bool) : Gate := fun context =>
  if input.action.isDestructive && !input.actor.isTrusted && !brokerAuthorized then
    let action := input.action.asStr
    let reason := s!"Destructive action '{action}' requires approval"
    .error (context.approveWith "policy.destructive_action" reason reason)
  else
    .ok (context.recordRule "policy.destructive_action" false none
      (some "non-destructive or trusted actor"))

/-! ## The pipeline -/

/-- The gates before the rate limit, with the broker's flag. -/
def earlyGates (request : Request) (context : DecisionContext) :
    Except PolicyDecision (DecisionContext × Bool) := do
  let context ← killSwitchGate engine request.input context
  let context ← quarantineGate engine request.input context
  let context ← revocationGate engine request.input context
  let context ← inferredNamespaceGate engine request.input context
  let context ← explicitNamespaceGate engine request.input context
  let (context, brokerAuthorized) ← credentialBrokerGate engine request context
  let context ← reservationUnknownGate request.input context
  let context ← paneReservedGate request.input context
  return (context, brokerAuthorized)

/-- The gates after the rate limit. -/
def lateGates (brokerAuthorized : Bool) : Gate :=
  fun context => do
    let context ← altScreenGate engine input context
    let context ← recentGapGate engine input context
    let context ← promptGate engine input context
    let context ← traumaGate engine input context
    let context ← commandGate engine input context
    let context ← customRuleGate engine input context
    destructiveGate input brokerAuthorized context

/-- What passes all gates is allowed. -/
def settle : Except PolicyDecision DecisionContext → PolicyDecision
  | .error decision => decision
  | .ok context => .allow none context

/-- The sweep at the start of a consuming evaluation: quarantines expire and the kill switch
disarms when their time is over. -/
def PolicyEngine.sweep (nowMs : Nat) : PolicyEngine :=
  { engine with
    quarantineRegistry := (engine.quarantineRegistry.maybeExpire nowMs).tickKillSwitch nowMs }

/-- The limiter's answer and its next state; `none` when the action is not rate limited. -/
def PolicyEngine.askLimiter (clock : Clock) (input : PolicyInput) (consume : Bool) :
    Option RateLimitOutcome × RateLimiter :=
  if input.action.isRateLimited then
    if consume then
      let (outcome, limiter) := engine.rateLimiter.check clock.instant input.action input.paneId
      (some outcome, limiter)
    else
      (some (engine.rateLimiter.preview clock.instant input.action input.paneId),
        engine.rateLimiter)
  else (none, engine.rateLimiter)

/-- `PolicyEngine::evaluate_authorization`: the decision and the engine after it. -/
def evaluateAuthorization (clock : Clock) (request : Request) (consume : Bool) :
    PolicyDecision × PolicyEngine :=
  let engine := if consume then engine.sweep clock.nowMs else engine
  match earlyGates engine request {} with
  | .error decision => (decision, engine)
  | .ok (context, brokerAuthorized) =>
    let (outcome, limiter) := engine.askLimiter clock request.input consume
    let engine := { engine with rateLimiter := limiter }
    match rateLimitGate outcome context with
    | .error decision => (decision, engine)
    | .ok context => (settle (lateGates engine request.input brokerAuthorized context), engine)

/-- The decision alone. -/
def decision (clock : Clock) (request : Request) (consume : Bool) : PolicyDecision :=
  (evaluateAuthorization engine clock request consume).1

/-! ## The decision of the pipeline -/

/-- The engine that the gates of one evaluation see. -/
def PolicyEngine.seen (clock : Clock) (consume : Bool) : PolicyEngine :=
  if consume then engine.sweep clock.nowMs else engine

/-- The engine with another limiter. -/
def PolicyEngine.withLimiter (limiter : RateLimiter) : PolicyEngine :=
  { engine with rateLimiter := limiter }

end

variable (engine : PolicyEngine) (input : PolicyInput) (limiter : RateLimiter) (clock : Clock)
  (context : DecisionContext)

/-- The sweep leaves the limiter alone. -/
theorem seen_withLimiter (consume : Bool) : (engine.withLimiter limiter).seen clock consume =
      (engine.seen clock consume).withLimiter limiter := by
  cases consume with
  | false => rfl
  | true => rfl

/-- The decision after the early gates. -/
def decisionFrom (engine : PolicyEngine) (clock : Clock) (input : PolicyInput) (consume : Bool)
    (context : DecisionContext) (brokerAuthorized : Bool) : PolicyDecision :=
  match rateLimitGate (engine.askLimiter clock input consume).1 context with
  | .error decision => decision
  | .ok context => settle (lateGates engine input brokerAuthorized context)

/-- **The decision of the pipeline**, over the one engine that all gates see. -/
theorem decision_eq (request : Request) (consume : Bool) :
    decision engine clock request consume =
      match earlyGates (engine.seen clock consume) request {} with
      | .error decision => decision
      | .ok (context, brokerAuthorized) =>
        decisionFrom (engine.seen clock consume) clock request.input consume context
          brokerAuthorized := by
  have hEngine : (if consume then engine.sweep clock.nowMs else engine) =
      engine.seen clock consume := rfl
  unfold decision evaluateAuthorization
  dsimp only
  rw [hEngine]
  cases earlyGates (engine.seen clock consume) request {} with
  | error => rfl
  | ok passed =>
    unfold decisionFrom
    dsimp only
    cases rateLimitGate
      ((engine.seen clock consume).askLimiter clock request.input consume).1 passed.1 with
    | error => rfl
    | ok => rfl

/-! ## The trail -/

/-- The outcome of a gate keeps the trail it started from. -/
def Extends (context : DecisionContext) : Except PolicyDecision DecisionContext → Prop
  | .error decision => context.rulesEvaluated <+: decision.context.rulesEvaluated
  | .ok next => context.rulesEvaluated <+: next.rulesEvaluated

@[simp] theorem extends_denyWith (ruleId note reason : String) :
    Extends context (.error (context.denyWith ruleId note reason)) :=
  List.prefix_append _ _

@[simp] theorem extends_approveWith (ruleId note reason : String) :
    Extends context (.error (context.approveWith ruleId note reason)) :=
  List.prefix_append _ _

@[simp] theorem extends_recordRule (ruleId : String) (hit : Bool)
    (decision reason : Option String) :
    Extends context (.ok (context.recordRule ruleId hit decision reason)) :=
  List.prefix_append _ _

@[simp] theorem extends_ok : Extends context (.ok context) :=
  List.prefix_refl _

theorem Extends.bind {context : DecisionContext} {first : Except PolicyDecision DecisionContext}
    {next : Gate} (hFirst : Extends context first)
    (hNext : ∀ context, Extends context (next context)) : Extends context (first >>= next) := by
  cases first with
  | error => exact hFirst
  | ok middle =>
    have hStep := hNext middle
    change Extends context (next middle)
    cases hOut : next middle with
    | error | ok =>
      rw [hOut] at hStep
      exact List.IsPrefix.trans hFirst hStep

theorem altScreenGate_extends : Extends context (altScreenGate engine input context) := by
  unfold altScreenGate
  repeat' split
  all_goals simp

theorem recentGapGate_extends : Extends context (recentGapGate engine input context) := by
  unfold recentGapGate
  split
  all_goals simp

theorem promptGate_extends : Extends context (promptGate engine input context) := by
  unfold promptGate
  repeat' split
  all_goals simp

theorem traumaGate_extends : Extends context (traumaGate engine input context) := by
  unfold traumaGate
  repeat' split
  all_goals simp

theorem commandGate_extends : Extends context (commandGate engine input context) := by
  unfold commandGate
  repeat' split
  all_goals simp

private theorem foldl_recordCustomRule (result : RuleEvaluationResult) (rules : List PolicyRule)
    (context : DecisionContext) :
    context.rulesEvaluated <+: (rules.foldl (recordCustomRule result) context).rulesEvaluated := by
  induction rules generalizing context with
  | nil => exact List.prefix_refl _
  | cons _ _ ih =>
    refine List.IsPrefix.trans ?_ (ih _)
    unfold recordCustomRule
    split
    all_goals exact List.prefix_append _ _

theorem customRuleGate_extends : Extends context (customRuleGate engine input context) := by
  unfold customRuleGate
  dsimp only
  repeat' split
  all_goals exact foldl_recordCustomRule _ _ context

theorem destructiveGate_extends (brokerAuthorized : Bool) (context : DecisionContext) :
    Extends context (destructiveGate input brokerAuthorized context) := by
  unfold destructiveGate
  split
  all_goals simp

/-- The late gates keep the trail. -/
theorem lateGates_extends (brokerAuthorized : Bool) (context : DecisionContext) :
    Extends context (lateGates engine input brokerAuthorized context) := by
  refine (altScreenGate_extends engine input context).bind fun context => ?_
  refine (recentGapGate_extends engine input context).bind fun context => ?_
  refine (promptGate_extends engine input context).bind fun context => ?_
  refine (traumaGate_extends engine input context).bind fun context => ?_
  refine (commandGate_extends engine input context).bind fun context => ?_
  refine (customRuleGate_extends engine input context).bind fun context => ?_
  exact destructiveGate_extends input brokerAuthorized context

theorem rateLimitGate_extends (outcome : Option RateLimitOutcome) (context : DecisionContext) :
    Extends context (rateLimitGate outcome context) := by
  unfold rateLimitGate
  split
  all_goals simp

/-- A decision after the early gates keeps their trail. -/
theorem decisionFrom_extends (input : PolicyInput)
    (consume : Bool) (context : DecisionContext) (brokerAuthorized : Bool) :
    context.rulesEvaluated <+:
      (decisionFrom engine clock input consume context
        brokerAuthorized).context.rulesEvaluated := by
  have hRate := rateLimitGate_extends (engine.askLimiter clock input consume).1 context
  unfold decisionFrom
  cases hOut : rateLimitGate (engine.askLimiter clock input consume).1 context with
  | error =>
    rw [hOut] at hRate
    exact hRate
  | ok next =>
    rw [hOut] at hRate
    have hLate := lateGates_extends engine input brokerAuthorized next
    dsimp only
    cases hEnd : lateGates engine input brokerAuthorized next with
    | error | ok =>
      rw [hEnd] at hLate
      exact List.IsPrefix.trans hRate hLate

end FrankenTerm.Ports.PolicyPipeline
