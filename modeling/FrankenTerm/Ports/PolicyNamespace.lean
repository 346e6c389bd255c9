import FrankenTerm.Verified.Utf8

/-!
# Tenant namespaces

Resources are bound to tenant namespaces, and an access from one namespace to a resource of
another is decided by the cross-tenant policy of `namespace_isolation.rs`: the system namespace
may bypass it, a parent may reach its descendants, the first explicit rule for the pair decides,
and otherwise the default decision does.  A resource without a binding belongs to `default`.

The reverse index of the registry and its audit log are written but read by nothing below, so
the registry is its bindings and its policy.

## Main results

* `isDenied_iff` — a crossing is denied exactly where the policy does not let it cross.
-/

namespace FrankenTerm.Ports.PolicyNamespace

open Verified

/-- A namespace identifier.  Deserialisation does not validate it, so every text can be one. -/
structure TenantNamespace where
  name : String
deriving DecidableEq, Repr

namespace TenantNamespace

def maxDepth : Nat := 8

def maxLen : Nat := 256

/-- A segment between two dots: not empty, at most 64 bytes, of ASCII letters, digits, `_`
and `-`. -/
def isValidSegment (segment : List Char) : Bool :=
  !segment.isEmpty && (segment.map Char.utf8Size).sum ≤ 64 &&
    segment.all fun c => c.isAlphanum || c == '_' || c == '-'

/-- `TenantNamespace::is_valid_name`. -/
def isValidName (name : String) : Bool :=
  if name.isEmpty || name.utf8ByteSize > maxLen then false
  else
    let segments := name.toList.splitOn '.'
    if segments.length > maxDepth then false else segments.all isValidSegment

/-- `TenantNamespace::new`. -/
def new (name : String) : Option TenantNamespace :=
  if isValidName name then some ⟨name⟩ else none

/-- `TenantNamespace::default_ns`. -/
def defaultNs : TenantNamespace := ⟨"default"⟩

/-- `TenantNamespace::is_system`. -/
def isSystem (ns : TenantNamespace) : Bool := ns.name == "system"

/-- `TenantNamespace::is_descendant_of`. -/
def isDescendantOf (ns other : TenantNamespace) : Bool :=
  if (Utf8.bytes ns.name).length ≤ (Utf8.bytes other.name).length then false
  else
    (Utf8.bytes other.name).isPrefixOf (Utf8.bytes ns.name) &&
      (Utf8.bytes ns.name)[(Utf8.bytes other.name).length]? == some 0x2E

instance : ToString TenantNamespace := ⟨name⟩

end TenantNamespace

/-- `NamespacedResourceKind`. -/
inductive NamespacedResourceKind where
  | pane
  | session
  | workflow
  | connector
  | agent
  | credential
deriving DecidableEq, Repr

def NamespacedResourceKind.asStr : NamespacedResourceKind → String
  | .pane => "pane"
  | .session => "session"
  | .workflow => "workflow"
  | .connector => "connector"
  | .agent => "agent"
  | .credential => "credential"

/-- `CrossTenantDecision`. -/
inductive CrossTenantDecision where
  | deny
  | allowWithAudit
  | allow
deriving DecidableEq, Repr

def CrossTenantDecision.isAllowed : CrossTenantDecision → Bool
  | .allow | .allowWithAudit => true
  | .deny => false

/-- `CrossTenantRule`.  No kinds means all kinds. -/
structure CrossTenantRule where
  source : TenantNamespace
  target : TenantNamespace
  resourceKinds : List NamespacedResourceKind
  decision : CrossTenantDecision
  reason : Option String

/-- `CrossTenantRule::applies_to`. -/
def CrossTenantRule.appliesTo (rule : CrossTenantRule) (kind : NamespacedResourceKind) : Bool :=
  rule.resourceKinds.isEmpty || rule.resourceKinds.contains kind

/-- `CrossTenantPolicy`. -/
structure CrossTenantPolicy where
  defaultDecision : CrossTenantDecision
  allowHierarchical : Bool
  systemBypass : Bool
  rules : List CrossTenantRule

/-- `CrossTenantPolicy::default`: isolation is the zero-configuration default. -/
def CrossTenantPolicy.default : CrossTenantPolicy where
  defaultDecision := .deny
  allowHierarchical := false
  systemBypass := true
  rules := []

/-- `BoundaryCheckResult`. -/
structure BoundaryCheckResult where
  crossesBoundary : Bool
  sourceNamespace : TenantNamespace
  targetNamespace : TenantNamespace
  decision : CrossTenantDecision
  matchedRule : Option String
  hierarchicalMatch : Bool

def BoundaryCheckResult.isAllowed (result : BoundaryCheckResult) : Bool :=
  result.decision.isAllowed

/-- `NamespaceRegistry`. -/
structure NamespaceRegistry where
  bindings : NamespacedResourceKind → String → Option TenantNamespace
  policy : CrossTenantPolicy

namespace NamespaceRegistry

section

variable (registry : NamespaceRegistry) (kind : NamespacedResourceKind) (resourceId : String)

/-- `NamespaceRegistry::with_policy`. -/
def withPolicy (policy : CrossTenantPolicy) : NamespaceRegistry := ⟨fun _ _ => none, policy⟩

/-- The table with one entry replaced. -/
def put (entry : Option TenantNamespace) : NamespaceRegistry :=
  { registry with
    bindings := Function.update registry.bindings kind
      (Function.update (registry.bindings kind) resourceId entry) }

/-- `NamespaceRegistry::bind`. -/
def bind (ns : TenantNamespace) : NamespaceRegistry :=
  registry.put kind resourceId (some ns)

/-- `NamespaceRegistry::unbind`. -/
def unbind : NamespaceRegistry :=
  registry.put kind resourceId none

/-- `NamespaceRegistry::lookup`. -/
def lookup : TenantNamespace :=
  (registry.bindings kind resourceId).getD .defaultNs

/-- The index and the rule of the first explicit rule for the pair. -/
def firstRule (policy : CrossTenantPolicy) (source target : TenantNamespace)
    (kind : NamespacedResourceKind) : Option (CrossTenantRule × Nat) :=
  policy.rules.zipIdx.find? fun (rule, _) =>
    rule.source == source && rule.target == target && rule.appliesTo kind

/-- `NamespaceRegistry::check_boundary`. -/
def checkBoundary (source target : TenantNamespace) (kind : NamespacedResourceKind) :
    BoundaryCheckResult :=
  if source = target then
    ⟨false, source, target, .allow, none, false⟩
  else if registry.policy.systemBypass && source.isSystem then
    ⟨true, source, target, .allowWithAudit, some "system_bypass", false⟩
  else if registry.policy.allowHierarchical && target.isDescendantOf source then
    ⟨true, source, target, .allowWithAudit, some "hierarchical_delegation", true⟩
  else
    match firstRule registry.policy source target kind with
    | some (rule, i) =>
      let reason := (rule.reason.map (": " ++ ·)).getD ""
      ⟨true, source, target, rule.decision, some s!"rule[{i}]{reason}", false⟩
    | none => ⟨true, source, target, registry.policy.defaultDecision, none, false⟩

/-- The boundary check stops the access. -/
def isDenied (source target : TenantNamespace) (kind : NamespacedResourceKind) : Bool :=
  (registry.checkBoundary source target kind).crossesBoundary &&
    !(registry.checkBoundary source target kind).isAllowed

end

end NamespaceRegistry

/-- The policy lets the source namespace reach the resources of that kind in the target
namespace. -/
def CrossTenantPolicy.lets (policy : CrossTenantPolicy) (source target : TenantNamespace)
    (kind : NamespacedResourceKind) : Prop :=
  (policy.systemBypass = true ∧ source.isSystem = true) ∨
    (policy.allowHierarchical = true ∧ target.isDescendantOf source = true) ∨
    match NamespaceRegistry.firstRule policy source target kind with
    | some (rule, _) => rule.decision.isAllowed = true
    | none => policy.defaultDecision.isAllowed = true

open NamespaceRegistry

/-- **What the boundary check denies**: crossings that the policy does not let through. -/
theorem isDenied_iff (registry : NamespaceRegistry) (source target : TenantNamespace)
    (kind : NamespacedResourceKind) :
    registry.isDenied source target kind ↔
      source ≠ target ∧ ¬registry.policy.lets source target kind := by
  unfold isDenied checkBoundary CrossTenantPolicy.lets
  by_cases hSame : source = target
  · simp [hSame]
  · rw [if_neg hSame]
    by_cases hSystem : registry.policy.systemBypass ∧ source.isSystem
    · simp [hSystem, BoundaryCheckResult.isAllowed, CrossTenantDecision.isAllowed]
    · rw [if_neg (by simpa using hSystem)]
      by_cases hParent :
          registry.policy.allowHierarchical ∧ target.isDescendantOf source
      · simp [hParent, BoundaryCheckResult.isAllowed, CrossTenantDecision.isAllowed]
      · cases firstRule registry.policy source target kind with
        | none | some => simp [hSame, hSystem, hParent, BoundaryCheckResult.isAllowed]

end FrankenTerm.Ports.PolicyNamespace
