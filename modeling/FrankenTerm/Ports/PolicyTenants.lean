import FrankenTerm.Ports.PolicyDenials

/-!
# The tenant of a pane

With namespace isolation on, an input that targets a pane meets one of two checks.  An actor with
an explicit namespace is checked against the namespace of the resource `pane-7`; an actor whose
namespace is inferred from the domain is checked against the namespace of the resource `7`.  Both
keys are bound and unbound independently, so one pane can have two tenants, or a tenant for one
kind of actor and none for the other.

`TenantOf` says that a pane has one tenant: whichever way the namespace of the actor was learnt,
and under every cross-tenant policy, the gate denies exactly the crossings into that tenant that
the policy does not let through.

## Main results

* `namespaceDenies_explicit`, `namespaceDenies_inferred` — the two checks as boundary checks.
* `decision_isDenied_of_namespaceDenies` — what the gate denies is denied.
* `one_tenant_iff` — a pane has one tenant exactly if its two keys have one.
* `pane_with_two_tenants` — a pane bound to a tenant that is open to everyone in a domain.
-/

namespace FrankenTerm.Ports.PolicyTenants

open PolicyTypes PolicyNamespace PolicyPipeline PolicyDenials

/-! ## Binding histories -/

/-- A call that changes the bindings of the registry. -/
inductive BindingCall where
  | bind (kind : NamespacedResourceKind) (resourceId : String) (ns : TenantNamespace)
  | unbind (kind : NamespacedResourceKind) (resourceId : String)

def BindingCall.apply (registry : NamespaceRegistry) : BindingCall → NamespaceRegistry
  | .bind kind resourceId ns => registry.bind kind resourceId ns
  | .unbind kind resourceId => registry.unbind kind resourceId

/-- The registry after a history of calls. -/
def after (policy : CrossTenantPolicy) (calls : List BindingCall) : NamespaceRegistry :=
  calls.foldl BindingCall.apply (.withPolicy policy)

variable {engine : PolicyEngine} {input : PolicyInput} (calls : List BindingCall)

/-- The policy is read by the boundary check only, the bindings do not depend on it. -/
private theorem foldl_apply (registry : NamespaceRegistry) (policy : CrossTenantPolicy) :
    calls.foldl BindingCall.apply { registry with policy } =
      { calls.foldl BindingCall.apply registry with policy } ∧
    (calls.foldl BindingCall.apply registry).policy = registry.policy := by
  induction calls generalizing registry with
  | nil => exact ⟨rfl, rfl⟩
  | cons call _ ih =>
    cases call with
    | bind kind resourceId ns => exact ih (registry.bind kind resourceId ns)
    | unbind kind resourceId => exact ih (registry.unbind kind resourceId)

theorem after_policy (policy : CrossTenantPolicy) (calls : List BindingCall) :
    (after policy calls).policy = policy :=
  (foldl_apply calls (.withPolicy policy) policy).2

/-- The namespace of a resource after a history, whatever the policy. -/
def tenant (calls : List BindingCall) (kind : NamespacedResourceKind) (resourceId : String) :
    TenantNamespace :=
  (after .default calls).lookup kind resourceId

theorem lookup_after (policy : CrossTenantPolicy) (calls : List BindingCall)
    (kind : NamespacedResourceKind) (resourceId : String) :
    (after policy calls).lookup kind resourceId = tenant calls kind resourceId := by
  have hPolicy := (foldl_apply calls (.withPolicy .default) policy).1
  change (calls.foldl BindingCall.apply { NamespaceRegistry.withPolicy .default with policy }).lookup
    kind resourceId = _
  rw [hPolicy]
  rfl

/-! ## The namespace gate -/

/-- The two checks in their order. -/
def namespaceGate (engine : PolicyEngine) (input : PolicyInput) : Gate := fun context => do
  let context ← inferredNamespaceGate engine input context
  explicitNamespaceGate engine input context

/-- The namespace gate denies the input. -/
def namespaceDenies (engine : PolicyEngine) (input : PolicyInput) : Bool :=
  match namespaceGate engine input {} with
  | .error _ => true
  | .ok _ => false

/-- The namespace of the actor: the explicit one, else the one inferred from the domain. -/
def actorNs (input : PolicyInput) : Option TenantNamespace :=
  input.actorNamespace <|> input.domain.bind TenantNamespace.new

/-- The rows of the two checks. -/
private def namespaceRows (engine : PolicyEngine) (input : PolicyInput) : List (Bool × Answer) :=
  inferredNamespaceRows engine input ++ explicitNamespaceRows engine input

theorem namespaceDenies_eq (engine : PolicyEngine) (input : PolicyInput) :
    namespaceDenies engine input = (firstAnswer (namespaceRows engine input)).isSome := by
  have hAnswer : answerOf (namespaceGate engine input {}) =
      firstAnswer (namespaceRows engine input) :=
    answerOf_bind (answer_inferredNamespaceGate engine input {})
      (answer_explicitNamespaceGate engine input)
  rw [← hAnswer, namespaceDenies]
  cases namespaceGate engine input {} with
  | ok => rfl
  | error decision => cases decision <;> rfl

private theorem isSome_answer (fires : Bool) :
    (if fires then some Answer.deny else none).isSome = fires := by
  cases fires <;> rfl

theorem namespaceDenies_explicit (hEnabled : engine.namespaceIsolationEnabled) {paneId : Nat}
    (hPane : input.paneId = some paneId) {actor : TenantNamespace}
    (hActor : input.actorNamespace = some actor) :
    namespaceDenies engine input = engine.namespaceRegistry.isDenied actor
      (engine.namespaceRegistry.lookup .pane s!"pane-{paneId}") .pane := by
  have hResource : explicitResource input = (.pane, s!"pane-{paneId}") := by
    unfold explicitResource
    rw [hPane]
  have hSome : (s!"pane-{paneId}").isEmpty = false := by
    simp [String.isEmpty_eq_false_iff]
  rw [namespaceDenies_eq]
  simp only [namespaceRows, inferredNamespaceRows, explicitNamespaceRows, hEnabled, hActor,
    hResource, hSome, firstAnswer, List.cons_append, List.nil_append, Option.isNone_some,
    Option.any_some, Bool.and_false, Bool.false_and, Bool.true_and, Bool.not_false,
    Bool.false_eq_true, if_false]
  exact isSome_answer _

theorem namespaceDenies_inferred (hEnabled : engine.namespaceIsolationEnabled) {paneId : Nat}
    (hPane : input.paneId = some paneId) {actor : TenantNamespace}
    (hActor : input.actorNamespace = none)
    (hDomain : input.domain.bind TenantNamespace.new = some actor) :
    namespaceDenies engine input = engine.namespaceRegistry.isDenied actor
      (engine.namespaceRegistry.lookup .pane (toString paneId)) .pane := by
  rw [namespaceDenies_eq]
  simp only [namespaceRows, inferredNamespaceRows, explicitNamespaceRows, hEnabled, hActor, hPane,
    hDomain, firstAnswer, List.cons_append, List.nil_append, Option.isNone_none, Option.any_some,
    Option.any_none, Bool.and_false, Bool.true_and, Bool.false_eq_true, if_false]
  exact isSome_answer _

/-- A denial behind rows that can only deny. -/
private theorem firstAnswer_behind {first rest : List (Bool × Answer)}
    (h : ∀ row ∈ first, row.2 = .deny) (hRest : firstAnswer rest = some .deny) :
    firstAnswer (first ++ rest) = some .deny := by
  induction first with
  | nil => exact hRest
  | cons row first ih =>
    obtain ⟨fires, answer⟩ := row
    obtain rfl : answer = .deny := h _ List.mem_cons_self
    rw [List.cons_append, firstAnswer, ih fun row hRow => h row (List.mem_cons_of_mem _ hRow),
      ite_self]

/-- **What the namespace gate denies is denied**: the gates before it can only deny. -/
theorem decision_isDenied_of_namespaceDenies (clock : Clock)
    {request : Request} (consume : Bool) (h : namespaceDenies engine request.input) :
    (decision engine clock request consume).isDenied := by
  have hSeen : namespaceDenies (engine.seen clock consume) request.input := by
    cases consume with
    | false => exact h
    | true => exact h
  have hEarly : answerOf (earlyGates (engine.seen clock consume) request {}) = some .deny := by
    rw [answer_earlyGates, earlyRows]
    refine firstAnswer_behind (by simp [killSwitchRows]) ?_
    refine firstAnswer_behind (by simp [quarantineRows]) ?_
    refine firstAnswer_behind (by simp [revocationRows]) ?_
    rw [namespaceDenies_eq] at hSeen
    simp only [namespaceRows, inferredNamespaceRows, explicitNamespaceRows, firstAnswer,
      List.cons_append, List.nil_append] at hSeen ⊢
    split_ifs at hSeen ⊢
    · rfl
    · rfl
    · cases hSeen
  rw [decision_eq]
  cases hOut : earlyGates (engine.seen clock consume) request {} with
  | ok passed =>
    rw [hOut] at hEarly
    cases hEarly
  | error decision =>
    rw [hOut] at hEarly
    cases decision with
    | deny => rfl
    | allow | requireApproval => cases hEarly

/-! ## One pane, one tenant -/

/-- The pane belongs to a tenant: however the namespace of the actor was learnt, the gate denies
the crossings into the tenant's namespace that the policy does not let through, and no others. -/
def TenantOf (calls : List BindingCall) (paneId : Nat) (owner : TenantNamespace) : Prop :=
  ∀ (policy : CrossTenantPolicy) (engine : PolicyEngine) (input : PolicyInput)
    (actor : TenantNamespace),
    engine.namespaceIsolationEnabled = true → engine.namespaceRegistry = after policy calls →
    input.paneId = some paneId → actorNs input = some actor →
    (namespaceDenies engine input = true ↔ actor ≠ owner ∧ ¬policy.lets actor owner .pane)

/-- The policy that lets one crossing through. -/
private def onlyFrom (source target : TenantNamespace) : CrossTenantPolicy where
  defaultDecision := .deny
  allowHierarchical := false
  systemBypass := false
  rules := [⟨source, target, [], .allow, none⟩]

private theorem onlyFrom_lets (source target target' : TenantNamespace) :
    (onlyFrom source target).lets source target' .pane ↔ target = target' := by
  unfold CrossTenantPolicy.lets onlyFrom NamespaceRegistry.firstRule
  by_cases hSame : target = target'
  · simp [hSame, CrossTenantRule.appliesTo, CrossTenantDecision.isAllowed]
  · simp [hSame, CrossTenantRule.appliesTo, CrossTenantDecision.isAllowed]

/-- An engine with the registry and isolation on. -/
def isolating (registry : NamespaceRegistry) : PolicyEngine :=
  { PolicyEngine.new .unlimited true .permissive with
    namespaceRegistry := registry
    namespaceIsolationEnabled := true }

/-- An input to a pane from an actor with an explicit namespace. -/
private def explicitInput (paneId : Nat) (actor : TenantNamespace) : PolicyInput :=
  { PolicyInput.new .sendText .human with
    paneId := some paneId
    actorNamespace := some actor }

/-- An input to a pane from an actor in a domain. -/
private def inferredInput (paneId : Nat) (actor : TenantNamespace) : PolicyInput :=
  { PolicyInput.new .sendText .human with
    paneId := some paneId
    domain := some actor.name }

private theorem inferredInput_actor {actor : TenantNamespace}
    (hValid : TenantNamespace.isValidName actor.name) (paneId : Nat) :
    (inferredInput paneId actor).domain.bind TenantNamespace.new = some actor := by
  change TenantNamespace.new actor.name = some actor
  rw [TenantNamespace.new, if_pos hValid]

/-- There is always someone else in a valid namespace. -/
private theorem exists_valid_ne (ns : TenantNamespace) :
    ∃ other : TenantNamespace, TenantNamespace.isValidName other.name ∧ other ≠ ns := by
  by_cases hDefault : ns = .defaultNs
  · refine ⟨⟨"system"⟩, by decide +kernel, ?_⟩
    rw [hDefault]
    decide
  · exact ⟨.defaultNs, by decide +kernel, Ne.symm hDefault⟩

private theorem tenantOf_of_eq {calls : List BindingCall} {paneId : Nat}
    (h : tenant calls .pane (toString paneId) = tenant calls .pane s!"pane-{paneId}") :
    TenantOf calls paneId (tenant calls .pane (toString paneId)) := by
  intro policy engine input actor hEnabled hRegistry hPane hActor
  have hDenies : namespaceDenies engine input = engine.namespaceRegistry.isDenied actor
      (tenant calls .pane (toString paneId)) .pane := by
    unfold actorNs at hActor
    cases hExplicit : input.actorNamespace with
    | none =>
      rw [hExplicit] at hActor
      rw [namespaceDenies_inferred hEnabled hPane hExplicit hActor, hRegistry, lookup_after]
    | some =>
      rw [hExplicit] at hActor
      cases hActor
      rw [namespaceDenies_explicit hEnabled hPane hExplicit, hRegistry, lookup_after, h]
  rw [hDenies, isDenied_iff, hRegistry, after_policy]

private theorem eq_of_tenantOf {calls : List BindingCall} {paneId : Nat} {owner : TenantNamespace}
    (h : TenantOf calls paneId owner) :
    tenant calls .pane (toString paneId) = tenant calls .pane s!"pane-{paneId}" := by
  -- An explicit actor of the owner's namespace is let through when nobody may cross.
  have hOwner : owner = tenant calls .pane s!"pane-{paneId}" := by
    by_contra hNe
    obtain ⟨other, _, hOther⟩ := exists_valid_ne (tenant calls .pane s!"pane-{paneId}")
    have hExplicit := h (onlyFrom owner other) (isolating (after (onlyFrom owner other) calls))
      (explicitInput paneId owner) owner rfl rfl rfl rfl
    rw [namespaceDenies_explicit rfl rfl rfl, isDenied_iff] at hExplicit
    change _ ≠ (after _ _).lookup _ _ ∧ ¬(after _ _).policy.lets _ ((after _ _).lookup _ _) _ ↔ _
      at hExplicit
    rw [lookup_after, after_policy, onlyFrom_lets] at hExplicit
    exact (hExplicit.mp ⟨hNe, hOther⟩).1 rfl
  -- Someone else who may cross into the prefixed key's tenant only.
  by_contra hNe
  obtain ⟨other, hValid, hOther⟩ := exists_valid_ne (tenant calls .pane (toString paneId))
  have hInferred := h (onlyFrom other owner) (isolating (after (onlyFrom other owner) calls))
    (inferredInput paneId other) other rfl rfl rfl (inferredInput_actor hValid paneId)
  rw [namespaceDenies_inferred rfl rfl rfl (inferredInput_actor hValid paneId), isDenied_iff]
    at hInferred
  change _ ≠ (after _ _).lookup _ _ ∧ ¬(after _ _).policy.lets _ ((after _ _).lookup _ _) _ ↔ _
    at hInferred
  rw [lookup_after, after_policy, onlyFrom_lets, onlyFrom_lets] at hInferred
  have hNeOwner : owner ≠ tenant calls .pane (toString paneId) := fun hEq => hNe (hEq ▸ hOwner)
  exact (hInferred.mp ⟨hOther, hNeOwner⟩).2 rfl

/-- **A pane has one tenant** exactly if its bare and its prefixed number are bound to one; and
what the namespace gate denies is denied. -/
theorem one_tenant_iff (calls : List BindingCall) (paneId : Nat) :
    ((∃ owner, TenantOf calls paneId owner) ↔
      tenant calls .pane (toString paneId) = tenant calls .pane s!"pane-{paneId}") ∧
    ∀ (engine : PolicyEngine) (clock : Clock) (request : Request) (consume : Bool),
      namespaceDenies engine request.input = true →
        (decision engine clock request consume).isDenied = true := by
  refine ⟨⟨?_, ?_⟩, ?_⟩
  · rintro ⟨owner, hOwner⟩
    exact eq_of_tenantOf hOwner
  · intro hSame
    exact ⟨_, tenantOf_of_eq hSame⟩
  · intro engine clock request consume hDenies
    exact decision_isDenied_of_namespaceDenies clock consume hDenies

/-- Pane 7 is bound to tenant `b` under its prefixed key, and nobody may cross. -/
private def boundToB : PolicyEngine :=
  isolating (after .default [.bind .pane "pane-7" ⟨"b"⟩])

/-- A person at the prompt of the free pane 7. -/
private def atPrompt (input : PolicyInput) : PolicyInput :=
  { input with
    capabilities := { promptActive := true, altScreen := some false, isReserved := some false } }

/-- The actor of the namespace `default` is kept out if the namespace is given, and let in if it
is inferred from the domain. -/
theorem pane_with_two_tenants :
    let explicit := atPrompt (explicitInput 7 .defaultNs)
    let inferred := atPrompt (inferredInput 7 .defaultNs)
    actorNs explicit = some .defaultNs ∧ actorNs inferred = some .defaultNs ∧
      namespaceDenies boundToB explicit ∧ namespaceDenies boundToB inferred = false ∧
      (decision boundToB ⟨0, 0⟩ ⟨explicit, none, none⟩ true).isDenied ∧
      (decision boundToB ⟨0, 0⟩ ⟨inferred, none, none⟩ true).isAllowed := by
  decide +kernel

end FrankenTerm.Ports.PolicyTenants
