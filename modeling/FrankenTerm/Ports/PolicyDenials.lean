import FrankenTerm.Ports.PolicyPipeline
import FrankenTerm.Verified.Check

/-!
# Denials and approvals

A decision that asks for approval can be turned into an allowed one by an allow-once code, and
the code is consumed without evaluating the gates again.  So an approval must never stand in for
a denial that a later gate would have given.

The rate limit is where it does: an action over its limit asks for approval, and the gates after
the rate limit, which may deny for the alternate screen, a running command, a repeated failure, an
unsafe command or a custom rule, are not reached.

What the gates answer is said by two tables of conditions on the configuration and the input: the
first row that fires is the answer.

## Main results

* `answer_earlyGates`, `answer_lateGates` — the gates answer by the tables.
* `denial_survives_iff` — a denial survives unless the limit is reached, no early row fires and the
  first late row that fires denies.
* `over_limit_send_is_approvable` — a text sent to a running command, over the limit.
-/

namespace FrankenTerm.Ports.PolicyDenials

open Verified PolicyTypes PolicyNamespace PolicyRateLimit PolicyPipeline PolicyRules
open PolicyEngine

/-- `resolve_inline_send_approval`, for a code that was given or not and the answer of the
approval store to it.  Without a code the decision stays, with an approval attached. -/
def resolveInlineSendApproval (decision : PolicyDecision)
    (consumed : Option (Except String Bool)) : Except String PolicyDecision :=
  if !decision.requiresApproval then .ok decision
  else
    match consumed with
    | none => .ok decision
    | some (.ok true) => .ok (.allow (some "approval.allow_once") {})
    | some (.ok false) =>
      .error "Invalid or expired approval code for this action. Use the exact code issued for this retry."
    | some (.error e) => .error s!"Failed to consume approval token: {e}"

/-- The resolution lets the action through. -/
def letsThrough : Except String PolicyDecision → Bool
  | .ok decision => decision.isAllowed
  | .error _ => false

/-- A denial is not up for approval. -/
theorem not_letsThrough_of_isDenied {decision : PolicyDecision} (h : decision.isDenied)
    (consumed : Option (Except String Bool)) :
    letsThrough (resolveInlineSendApproval decision consumed) = false := by
  cases decision with
  | deny => rfl
  | allow => cases h
  | requireApproval => cases h

/-! ## The tables -/

/-- What a gate answers. -/
inductive Answer where
  | allow
  | deny
  | approve
deriving DecidableEq, Repr

/-- The answer of the first row that fires. -/
def firstAnswer : List (Bool × Answer) → Option Answer
  | [] => none
  | (fires, answer) :: rest => if fires then some answer else firstAnswer rest

section

variable (engine : PolicyEngine) (request : Request) (input : PolicyInput)

/-- The boundary of the namespaces is closed for the resource. -/
def crosses (actorNs : TenantNamespace) (kind : NamespacedResourceKind) (id : String) : Bool :=
  let boundary := engine.namespaceRegistry.checkBoundary actorNs
    (engine.namespaceRegistry.lookup kind id) kind
  boundary.crossesBoundary && !boundary.isAllowed

/-- The action is one for the credential broker. -/
def asksBroker : Bool :=
  engine.credentialBrokerEnabled && input.action.isConnectorAction &&
    input.action == .connectorCredentialAction

def killSwitchRows : List (Bool × Answer) :=
  let switch := engine.quarantineRegistry.killSwitch
  [(switch.isEmergency, .deny),
   (!switch.allowsInflight && !input.action.isReadOnly, .deny),
   (!switch.allowsNewWorkflows && input.action.isWorkflowLaunch, .deny)]

def quarantineRows : List (Bool × Answer) :=
  let registry := engine.quarantineRegistry
  [(input.paneId.any fun paneId =>
      input.action.isMutating && registry.isBlockedForWrites s!"pane-{paneId}", .deny),
   (input.paneId.any fun paneId => registry.isBlockedForAll s!"pane-{paneId}", .deny)]

def revocationRows : List (Bool × Answer) :=
  [(input.domain.any fun domain =>
      input.action.isConnectorAction && engine.isRevoked "connector" domain, .deny)]

def inferredNamespaceRows : List (Bool × Answer) :=
  [(engine.namespaceIsolationEnabled && input.actorNamespace.isNone &&
      input.paneId.any fun paneId => (input.domain.bind TenantNamespace.new).any fun actorNs =>
        crosses engine actorNs .pane (toString paneId), .deny)]

def explicitNamespaceRows : List (Bool × Answer) :=
  let (kind, id) := explicitResource input
  [(engine.namespaceIsolationEnabled && input.actorNamespace.any fun actorNs =>
      !id.isEmpty && crosses engine actorNs kind id, .deny)]

def credentialBrokerRows : List (Bool × Answer) :=
  let asks := asksBroker engine request.input
  let connectorId := request.input.domain.getD "unknown"
  let sensitivity := request.credentialSensitivity.getD .medium
  [(asks && request.credentialScope.isNone, .deny),
   (asks && request.credentialScope.any fun scope =>
      !engine.credentialBrokerIsAuthorized connectorId scope sensitivity, .deny),
   (asks && decide (sensitivity.rank > engine.credentialBrokerMaxSensitivity.rank), .approve)]

def reservationUnknownRows : List (Bool × Answer) :=
  [(input.paneId.isSome && input.action.isMutating && input.capabilities.isReserved.isNone, .deny)]

def paneReservedRows : List (Bool × Answer) :=
  [(input.action.isMutating && input.capabilities.isReserved == some true &&
      !isReservationOwner input, .deny)]

/-- When the gates before the rate limit answer, and what. -/
def earlyRows : List (Bool × Answer) :=
  killSwitchRows engine request.input ++ (quarantineRows engine request.input ++
    (revocationRows engine request.input ++ (inferredNamespaceRows engine request.input ++
    (explicitNamespaceRows engine request.input ++ (credentialBrokerRows engine request ++
    (reservationUnknownRows request.input ++ paneReservedRows request.input))))))

/-- The answer of the command safety gate. -/
def commandAnswer : CommandGateOutcome → Option Answer
  | .allow => none
  | .deny _ _ => some .deny
  | .requireApproval _ _ => some .approve

/-- The decision of the selected custom rule. -/
def selectedDecision : Option PolicyRuleDecision :=
  (evaluatePolicyRules engine.textGates.commandPatternIsMatch engine.textGates.jsonNames
    engine.policyRules input).decision

def altScreenRows : List (Bool × Answer) :=
  let screen := input.capabilities.altScreen
  [(input.action.isSend && screen == some true && engine.blockAltScreen && !input.actor.isTrusted,
      .approve),
   (input.action.isSend && screen == some true, .deny),
   (input.action.isSend && screen == none && !input.actor.isTrusted, .approve)]

def recentGapRows : List (Bool × Answer) :=
  [(engine.blockRecentGap && input.action.isSend && input.capabilities.hasRecentGap &&
      !input.actor.isTrusted, .approve)]

def promptRows : List (Bool × Answer) :=
  let pane := input.capabilities
  let noPrompt := input.action.isSend && engine.requirePromptActive && !pane.promptActive
  [(noPrompt && pane.commandRunning, .deny),
   (noPrompt && !input.actor.isTrusted, .approve)]

def traumaRows : List (Bool × Answer) :=
  [(input.action == .sendText && engine.traumaGuardEnabled &&
      input.traumaDecision.any (·.shouldIntervene) &&
      input.commandText.any (!engine.textGates.hasTraumaBypassPrefix ·), .deny)]

def commandRows : List (Bool × Answer) :=
  let command := if input.action == .sendText || input.action == .execCommand then
    input.commandText else none
  let gate := command.bind fun text => commandAnswer (engine.textGates.evaluateCommandGate text)
  [(command.any fun text => (rchReason engine.textGates input.actor text).isSome, .approve),
   (gate == some .deny, .deny),
   (gate == some .approve, .approve)]

def customRuleRows : List (Bool × Answer) :=
  let selected := selectedDecision engine input
  [(selected == some .deny, .deny),
   (selected == some .requireApproval, .approve),
   (selected == some .allow, .allow)]

def destructiveRows (brokerAuthorized : Bool) : List (Bool × Answer) :=
  [(input.action.isDestructive && !input.actor.isTrusted && !brokerAuthorized, .approve)]

/-- When the gates after the rate limit answer, and what. -/
def lateRows (brokerAuthorized : Bool) : List (Bool × Answer) :=
  altScreenRows engine input ++ (recentGapRows engine input ++ (promptRows engine input ++
    (traumaRows engine input ++ (commandRows engine input ++ (customRuleRows engine input ++
    destructiveRows input brokerAuthorized)))))

end

/-! ## The gates answer by the tables -/

/-- The answer in the outcome of gates. -/
def answerOf {α : Type} : Except PolicyDecision α → Option Answer
  | .ok _ => none
  | .error (.allow _ _) => some .allow
  | .error (.deny _ _ _) => some .deny
  | .error (.requireApproval _ _ _) => some .approve

theorem firstAnswer_append (first rest : List (Bool × Answer)) :
    firstAnswer (first ++ rest) = (firstAnswer first).or (firstAnswer rest) := by
  induction first with
  | nil => rfl
  | cons row first ih =>
    rw [List.cons_append, firstAnswer, firstAnswer, ih]
    split <;> rfl

/-- A gate behind others answers if they do not. -/
theorem answerOf_bind {α β : Type} {first : Except PolicyDecision α}
    {next : α → Except PolicyDecision β} {rows more : List (Bool × Answer)}
    (hFirst : answerOf first = firstAnswer rows)
    (hNext : ∀ a, answerOf (next a) = firstAnswer more) :
    answerOf (first >>= next) = firstAnswer (rows ++ more) := by
  rw [firstAnswer_append, ← hFirst]
  cases first with
  | error decision => cases decision <;> rfl
  | ok a => exact hNext a

section

variable (engine : PolicyEngine) (request : Request) (input : PolicyInput)
  (context : DecisionContext)

theorem answer_killSwitchGate :
    answerOf (killSwitchGate engine input context) = firstAnswer (killSwitchRows engine input) := by
  unfold killSwitchGate killSwitchRows
  dsimp only
  split_ifs <;> grind [answerOf, DecisionContext.denyWith, firstAnswer]

theorem answer_quarantineGate :
    answerOf (quarantineGate engine input context) = firstAnswer (quarantineRows engine input) := by
  unfold quarantineGate quarantineRows
  cases input.paneId with
  | none => rfl
  | some =>
    dsimp only
    split_ifs <;> grind [answerOf, DecisionContext.denyWith, firstAnswer]

theorem answer_revocationGate :
    answerOf (revocationGate engine input context) = firstAnswer (revocationRows engine input) := by
  unfold revocationGate revocationRows
  cases input.domain with
  | none => rfl
  | some =>
    dsimp only
    split_ifs <;> grind [answerOf, DecisionContext.denyWith, firstAnswer]

theorem answer_inferredNamespaceGate : answerOf (inferredNamespaceGate engine input context) =
    firstAnswer (inferredNamespaceRows engine input) := by
  unfold inferredNamespaceGate inferredNamespaceRows crosses
  cases input.paneId with
  | none => split_ifs <;> simp [answerOf, firstAnswer]
  | some paneId =>
    cases input.domain.bind TenantNamespace.new with
    | none => split_ifs <;> simp [answerOf, firstAnswer]
    | some actorNs =>
      dsimp only
      split_ifs <;> grind [answerOf, DecisionContext.denyWith, firstAnswer]

theorem answer_explicitNamespaceGate : answerOf (explicitNamespaceGate engine input context) =
    firstAnswer (explicitNamespaceRows engine input) := by
  unfold explicitNamespaceGate explicitNamespaceRows crosses
  cases input.actorNamespace with
  | none => split_ifs <;> simp [answerOf, firstAnswer]
  | some actorNs =>
    dsimp only
    split_ifs <;> grind [answerOf, DecisionContext.denyWith, firstAnswer]

theorem answer_credentialBrokerGate : answerOf (credentialBrokerGate engine request context) =
    firstAnswer (credentialBrokerRows engine request) := by
  unfold credentialBrokerGate credentialBrokerRows asksBroker
  cases request.credentialScope with
  | none =>
    dsimp only
    split_ifs <;> grind [answerOf, DecisionContext.denyWith, firstAnswer]
  | some =>
    dsimp only
    split_ifs <;>
      grind [answerOf, DecisionContext.denyWith, DecisionContext.approveWith, firstAnswer]

theorem answer_reservationUnknownGate : answerOf (reservationUnknownGate input context) =
    firstAnswer (reservationUnknownRows input) := by
  unfold reservationUnknownGate reservationUnknownRows
  split_ifs <;> grind [answerOf, DecisionContext.denyWith, firstAnswer]

theorem answer_paneReservedGate :
    answerOf (paneReservedGate input context) = firstAnswer (paneReservedRows input) := by
  unfold paneReservedGate paneReservedRows
  dsimp only
  split_ifs <;> grind [answerOf, DecisionContext.denyWith, firstAnswer]

theorem answer_altScreenGate :
    answerOf (altScreenGate engine input context) = firstAnswer (altScreenRows engine input) := by
  unfold altScreenGate altScreenRows
  rcases input.capabilities.altScreen with _ | (_ | _) <;> dsimp only <;> split_ifs <;>
    grind [answerOf, DecisionContext.denyWith, DecisionContext.approveWith, firstAnswer]

theorem answer_recentGapGate :
    answerOf (recentGapGate engine input context) = firstAnswer (recentGapRows engine input) := by
  unfold recentGapGate recentGapRows
  split_ifs <;> grind [answerOf, DecisionContext.approveWith, firstAnswer]

theorem answer_promptGate :
    answerOf (promptGate engine input context) = firstAnswer (promptRows engine input) := by
  unfold promptGate promptRows
  split_ifs <;>
    grind [answerOf, DecisionContext.denyWith, DecisionContext.approveWith, firstAnswer]

theorem answer_traumaGate :
    answerOf (traumaGate engine input context) = firstAnswer (traumaRows engine input) := by
  unfold traumaGate traumaRows
  cases input.commandText with
  | none => dsimp only; split_ifs <;> simp [answerOf, firstAnswer]
  | some text =>
    cases input.traumaDecision with
    | none => dsimp only; split_ifs <;> simp [answerOf, firstAnswer]
    | some decision =>
      dsimp only
      split_ifs <;> grind [answerOf, DecisionContext.denyWith, firstAnswer]

theorem answer_commandGate :
    answerOf (commandGate engine input context) = firstAnswer (commandRows engine input) := by
  unfold commandGate commandRows
  dsimp only
  split_ifs with hCommand
  · cases input.commandText with
    | none => rfl
    | some text =>
      dsimp only
      cases hRch : rchReason engine.textGates input.actor text with
      | some => simp [answerOf, DecisionContext.approveWith, firstAnswer, hRch]
      | none =>
        cases hGate : engine.textGates.evaluateCommandGate text <;>
          simp [answerOf, DecisionContext.approveWith, DecisionContext.denyWith, firstAnswer, hRch,
            hGate, commandAnswer]
  · rfl

theorem decision_of_matchingRule_none {isMatch : String → String → Bool} {names : JsonNames}
    {config : PolicyRulesConfig}
    (h : (evaluatePolicyRules isMatch names config input).matchingRule = none) :
    (evaluatePolicyRules isMatch names config input).decision = none := by
  unfold evaluatePolicyRules at h ⊢
  split_ifs at h ⊢
  · rfl
  · dsimp only at h ⊢
    rw [h]
    rfl

theorem answer_customRuleGate :
    answerOf (customRuleGate engine input context) = firstAnswer (customRuleRows engine input) := by
  unfold customRuleGate customRuleRows selectedDecision
  dsimp only
  cases hRule : (evaluatePolicyRules engine.textGates.commandPatternIsMatch
      engine.textGates.jsonNames engine.policyRules input).matchingRule with
  | none =>
    rw [decision_of_matchingRule_none input hRule]
    rfl
  | some rule =>
    cases (evaluatePolicyRules engine.textGates.commandPatternIsMatch
      engine.textGates.jsonNames engine.policyRules input).decision with
    | none => rfl
    | some decision => cases decision <;> rfl

theorem answer_destructiveGate (brokerAuthorized : Bool) :
    answerOf (destructiveGate input brokerAuthorized context) =
      firstAnswer (destructiveRows input brokerAuthorized) := by
  unfold destructiveGate destructiveRows
  split_ifs <;> grind [answerOf, DecisionContext.approveWith, firstAnswer]

/-- **The gates before the rate limit answer by their table.** -/
theorem answer_earlyGates :
    answerOf (earlyGates engine request context) = firstAnswer (earlyRows engine request) := by
  unfold earlyGates
  refine answerOf_bind (answer_killSwitchGate _ _ _) fun context => ?_
  refine answerOf_bind (answer_quarantineGate _ _ _) fun context => ?_
  refine answerOf_bind (answer_revocationGate _ _ _) fun context => ?_
  refine answerOf_bind (answer_inferredNamespaceGate _ _ _) fun context => ?_
  refine answerOf_bind (answer_explicitNamespaceGate _ _ _) fun context => ?_
  refine answerOf_bind (answer_credentialBrokerGate _ _ _) fun passed => ?_
  refine answerOf_bind (answer_reservationUnknownGate _ _) fun context => ?_
  rw [← List.append_nil (paneReservedRows request.input)]
  exact answerOf_bind (answer_paneReservedGate _ _) fun context => rfl

/-- **The gates after the rate limit answer by theirs.** -/
theorem answer_lateGates (brokerAuthorized : Bool) :
    answerOf (lateGates engine input brokerAuthorized context) =
      firstAnswer (lateRows engine input brokerAuthorized) := by
  unfold lateGates
  refine answerOf_bind (answer_altScreenGate _ _ _) fun context => ?_
  refine answerOf_bind (answer_recentGapGate _ _ _) fun context => ?_
  refine answerOf_bind (answer_promptGate _ _ _) fun context => ?_
  refine answerOf_bind (answer_traumaGate _ _ _) fun context => ?_
  refine answerOf_bind (answer_commandGate _ _ _) fun context => ?_
  refine answerOf_bind (answer_customRuleGate _ _ _) fun context => ?_
  exact answer_destructiveGate _ _ _

/-- What passes the early gates is marked if it was one for the broker. -/
theorem brokerAuthorized_of_earlyGates {next : DecisionContext} {brokerAuthorized : Bool}
    (h : earlyGates engine request context = .ok (next, brokerAuthorized)) :
    brokerAuthorized = asksBroker engine request.input := by
  iterate 5 obtain ⟨_, _, h⟩ := Check.bind_eq_ok.mp h
  obtain ⟨passed, hBroker, h⟩ := Check.bind_eq_ok.mp h
  obtain ⟨_, _, h⟩ := Check.bind_eq_ok.mp h
  obtain ⟨_, _, h⟩ := Check.bind_eq_ok.mp h
  cases h
  unfold credentialBrokerGate at hBroker
  split_ifs at hBroker with hAsks
  · dsimp only at hBroker
    split at hBroker
    · cases hBroker
    · split_ifs at hBroker
      cases hBroker
      exact hAsks.symm
  · cases hBroker
    simpa [asksBroker] using hAsks

end

theorem isDenied_settle (outcome : Except PolicyDecision DecisionContext) :
    (settle outcome).isDenied = (answerOf outcome == some .deny) := by
  cases outcome with
  | ok => rfl
  | error decision => cases decision <;> rfl

/-! ## The rate limit -/

variable {engine : PolicyEngine} {clock : Clock} {input : PolicyInput} (consume : Bool)

/-- The limiter refuses the action: it is one that is limited, and the limit is reached. -/
def limits (limiter : RateLimiter) (clock : Clock) (input : PolicyInput) : Bool :=
  input.action.isRateLimited && limiter.isReached clock.instant input.action input.paneId

theorem askLimiter_isLimited (hKeyed : engine.rateLimiter.Keyed) :
    (engine.askLimiter clock input consume).1.any (·.isLimited) =
      limits engine.rateLimiter clock input := by
  unfold askLimiter limits
  split_ifs with hRate
  · simp [hRate, RateLimiter.check_isLimited hKeyed]
  · simp [hRate, RateLimiter.preview_isLimited]
  · simp [hRate]

/-- Over the limit, the rate limit asks for approval. -/
theorem decisionFrom_of_limits (hKeyed : engine.rateLimiter.Keyed)
    (h : limits engine.rateLimiter clock input) (context : DecisionContext)
    (brokerAuthorized : Bool) :
    (decisionFrom engine clock input consume context brokerAuthorized).requiresApproval := by
  rw [← askLimiter_isLimited consume hKeyed] at h
  unfold decisionFrom
  cases hAsk : (engine.askLimiter clock input consume).1 with
  | none => simp [hAsk] at h
  | some outcome =>
    cases outcome with
    | allowed => simp [hAsk, RateLimitOutcome.isLimited] at h
    | limited => rfl

/-- Within the limit the late gates decide by their table, whatever the limiter. -/
theorem decisionFrom_of_allowed (hKeyed : engine.rateLimiter.Keyed)
    (h : limits engine.rateLimiter clock input = false) (context : DecisionContext)
    (brokerAuthorized : Bool) :
    (decisionFrom engine clock input consume context brokerAuthorized).isDenied =
      (firstAnswer (lateRows engine input brokerAuthorized) == some .deny) := by
  rw [← askLimiter_isLimited consume hKeyed] at h
  unfold decisionFrom
  cases hAsk : (engine.askLimiter clock input consume).1 with
  | none =>
    dsimp only [rateLimitGate]
    rw [isDenied_settle, answer_lateGates]
  | some outcome =>
    cases outcome with
    | allowed =>
      dsimp only [rateLimitGate]
      rw [isDenied_settle, answer_lateGates]
    | limited => simp [hAsk, RateLimitOutcome.isLimited] at h

/-- The denials of the tables: by an early row, or within the limit by a late one. -/
def tablesDeny (engine : PolicyEngine) (request : Request) (isLimited : Bool) : Bool :=
  match firstAnswer (earlyRows engine request) with
  | some answer => answer == .deny
  | none => !isLimited &&
      firstAnswer (lateRows engine request.input (asksBroker engine request.input)) == some .deny

/-- **The pipeline denies as the tables do.** -/
theorem isDenied_decision (clock : Clock) (hKeyed : engine.rateLimiter.Keyed) (request : Request) :
    (decision engine clock request consume).isDenied =
      tablesDeny (engine.seen clock consume) request
        (limits engine.rateLimiter clock request.input) := by
  have hSeen : (engine.seen clock consume).rateLimiter = engine.rateLimiter := by
    cases consume <;> rfl
  rw [← hSeen] at hKeyed ⊢
  have hEarly := answer_earlyGates (engine.seen clock consume) request {}
  rw [decision_eq, tablesDeny, ← hEarly]
  cases hOut : earlyGates (engine.seen clock consume) request {} with
  | error decision => cases decision <;> rfl
  | ok passed =>
    obtain ⟨context, brokerAuthorized⟩ := passed
    have hBroker := brokerAuthorized_of_earlyGates _ _ _ hOut
    subst hBroker
    dsimp only [answerOf]
    cases hLimits : limits (engine.seen clock consume).rateLimiter clock request.input with
    | false => exact decisionFrom_of_allowed consume hKeyed hLimits context _
    | true =>
      have hApproval := decisionFrom_of_limits consume hKeyed hLimits context
        (asksBroker (engine.seen clock consume) request.input)
      cases hDecision : decisionFrom (engine.seen clock consume) clock request.input consume context
          (asksBroker (engine.seen clock consume) request.input) <;>
        simp_all [PolicyDecision.requiresApproval, PolicyDecision.isDenied]

theorem keyed_unlimited : RateLimiter.unlimited.Keyed := ⟨List.nodup_nil, List.nodup_nil⟩

theorem limits_unlimited (clock : Clock) (input : PolicyInput) :
    limits .unlimited clock input = false := by
  cases hPane : input.paneId <;>
    simp [limits, hPane, RateLimiter.isReached, RateLimiter.paneReached, RateLimiter.globalReached,
      RateLimiter.unlimited]

/-- **When a denial survives the rate limit.**  That no limiter which allows the action makes a
denial out of what the engine decides otherwise, comes down to this: it is not so that the limit is
reached, no gate before it answers and the first gate after it that answers denies. -/
theorem denial_survives_iff (engine : PolicyEngine) (clock : Clock) (request : Request)
    (consume : Bool) (hKeyed : engine.rateLimiter.Keyed) :
    (∀ limiter : RateLimiter, limiter.Keyed → limits limiter clock request.input = false →
      (decision (engine.withLimiter limiter) clock request consume).isDenied = true →
      (decision engine clock request consume).isDenied = true ∧
        ∀ consumed, letsThrough (resolveInlineSendApproval
          (decision engine clock request consume) consumed) = false) ↔
    ¬(limits engine.rateLimiter clock request.input = true ∧
      firstAnswer (earlyRows (engine.seen clock consume) request) = none ∧
      firstAnswer (lateRows (engine.seen clock consume) request.input
        (asksBroker (engine.seen clock consume) request.input)) = some .deny) := by
  have hOther : ∀ limiter : RateLimiter, limiter.Keyed →
      (decision (engine.withLimiter limiter) clock request consume).isDenied =
        tablesDeny (engine.seen clock consume) request (limits limiter clock request.input) := by
    intro limiter hLimiter
    have hEngine : (engine.withLimiter limiter).rateLimiter.Keyed := hLimiter
    rw [isDenied_decision consume clock hEngine, seen_withLimiter]
    rfl
  have hOwn := isDenied_decision consume clock hKeyed request
  constructor
  · rintro h ⟨hLimits, hEarly, hLate⟩
    have hDenied := (h .unlimited keyed_unlimited (limits_unlimited _ _) (by
      rw [hOther _ keyed_unlimited, tablesDeny, hEarly, hLate, limits_unlimited]
      rfl)).1
    rw [hOwn, tablesDeny, hEarly, hLimits] at hDenied
    cases hDenied
  · intro hNot limiter hLimiter hAllows hDenied
    have hSame : (decision engine clock request consume).isDenied = true := by
      rw [hOther limiter hLimiter, tablesDeny] at hDenied
      rw [hOwn, tablesDeny]
      cases hEarly : firstAnswer (earlyRows (engine.seen clock consume) request) with
      | some answer => simpa [hEarly] using hDenied
      | none => simp_all
    exact ⟨hSame, not_letsThrough_of_isDenied hSame⟩

/-- A text that a robot sends to pane 1 while a command is running there. -/
private def sendToRunning : Request where
  input :=
    { PolicyInput.new .sendText .robot with
      paneId := some 1
      capabilities := { commandRunning := true, altScreen := some false, isReserved := some false } }

/-- An engine that lets one operation for each pane and action through in a minute, and has just
seen one. -/
private def limitReached : PolicyEngine :=
  PolicyEngine.new
    { limitPerPane := 1, limitGlobal := 100, window := 60 * nanosPerSec,
      paneCounts := [((1, .sendText), [99 * nanosPerSec])] } true .permissive

/-- The same engine under an emergency halt. -/
private def halted : PolicyEngine :=
  { limitReached with quarantineRegistry := limitReached.quarantineRegistry.atLevel .emergencyHalt }

/-- Over the limit, too, the text is denied under an emergency halt, and no code lets it through. -/
theorem halt_survives_limit :
    let clock : Clock := ⟨0, 100 * nanosPerSec⟩
    limits halted.rateLimiter clock sendToRunning.input = true ∧
      (decision halted clock sendToRunning true).isDenied = true ∧
      ∀ consumed, letsThrough (resolveInlineSendApproval
        (decision halted clock sendToRunning true) consumed) = false := by
  intro clock
  have hKeyed : halted.rateLimiter.Keyed := ⟨by decide, by decide⟩
  refine ⟨by decide +kernel, (denial_survives_iff halted clock sendToRunning true hKeyed).mpr ?_
    .unlimited keyed_unlimited (limits_unlimited _ _) (by decide +kernel)⟩
  decide +kernel

/-- Within the limit the text is denied, over the limit an allow-once code lets it through. -/
theorem over_limit_send_is_approvable :
    let clock : Clock := ⟨0, 100 * nanosPerSec⟩
    (decision (limitReached.withLimiter .unlimited) clock sendToRunning true).isDenied ∧
      (decision limitReached clock sendToRunning true).requiresApproval ∧
      letsThrough (resolveInlineSendApproval (decision limitReached clock sendToRunning true)
        (some (.ok true))) := by
  decide +kernel

end FrankenTerm.Ports.PolicyDenials
