import Mathlib

/-!
# Quarantines and the kill switch

`policy_quarantine.rs`: components are quarantined at a severity, possibly for a limited time,
and a global kill switch stops work at one of four levels, possibly with a timeout.  The two
questions asked of a component combine both: whether its writes and whether all of its actions
are blocked.

The audit log, the telemetry and the descriptive fields of a quarantine are left out: no question
below reads them.
-/

namespace FrankenTerm.Ports.PolicyQuarantine

/-! ## The kill switch -/

/-- `KillSwitchLevel`. -/
inductive KillSwitchLevel where
  | disarmed
  | softStop
  | hardStop
  | emergencyHalt
deriving DecidableEq, Repr

namespace KillSwitchLevel

/-- The position in the order of the declaration, which is the order of the levels. -/
def rank : KillSwitchLevel → Nat
  | .disarmed => 0
  | .softStop => 1
  | .hardStop => 2
  | .emergencyHalt => 3

instance : LinearOrder KillSwitchLevel :=
  LinearOrder.lift' rank fun a b h => by cases a <;> cases b <;> first | rfl | cases h

instance : ToString KillSwitchLevel where
  toString
    | .disarmed => "disarmed"
    | .softStop => "soft_stop"
    | .hardStop => "hard_stop"
    | .emergencyHalt => "emergency_halt"

end KillSwitchLevel

/-- `KillSwitch`.  A timeout of `0` means none. -/
structure KillSwitch where
  level : KillSwitchLevel
  changedAtMs : Nat
  changedBy : String
  reason : String
  autoDisarmAtMs : Nat
deriving DecidableEq, Repr

namespace KillSwitch

/-- `KillSwitch::disarmed`. -/
def disarmed : KillSwitch := ⟨.disarmed, 0, "", "", 0⟩

/-- `KillSwitch::trip`. -/
def trip (_switch : KillSwitch) (level : KillSwitchLevel) (by_ reason : String) (nowMs : Nat) :
    KillSwitch :=
  ⟨level, nowMs, by_, reason, 0⟩

/-- `KillSwitch::reset`. -/
def reset (_switch : KillSwitch) (by_ : String) (nowMs : Nat) : KillSwitch :=
  ⟨.disarmed, nowMs, by_, "manually reset", 0⟩

/-- `KillSwitch::should_auto_disarm`. -/
def shouldAutoDisarm (switch : KillSwitch) (nowMs : Nat) : Bool :=
  switch.autoDisarmAtMs > 0 && nowMs ≥ switch.autoDisarmAtMs && switch.level != .disarmed

/-- `KillSwitch::tick`. -/
def tick (switch : KillSwitch) (nowMs : Nat) : KillSwitch :=
  if switch.shouldAutoDisarm nowMs then ⟨.disarmed, nowMs, "auto_disarm", "timeout elapsed", 0⟩
  else switch

/-- `KillSwitch::allows_new_workflows`. -/
def allowsNewWorkflows (switch : KillSwitch) : Bool := switch.level < .softStop

/-- `KillSwitch::allows_inflight`. -/
def allowsInflight (switch : KillSwitch) : Bool := switch.level < .hardStop

/-- `KillSwitch::is_emergency`. -/
def isEmergency (switch : KillSwitch) : Bool := switch.level ≥ .emergencyHalt

end KillSwitch

/-! ## Quarantines -/

/-- `QuarantineSeverity`. -/
inductive QuarantineSeverity where
  | advisory
  | restricted
  | isolated
  | terminated
deriving DecidableEq, Repr

/-- `QuarantineState`. -/
inductive QuarantineState where
  | clear
  | quarantined
  | probationaryRelease
deriving DecidableEq, Repr

/-- `QuarantinedComponent`.  An expiry of `0` means none. -/
structure QuarantinedComponent where
  state : QuarantineState
  severity : QuarantineSeverity
  expiresAtMs : Nat
  lastReviewedAtMs : Nat
deriving DecidableEq, Repr

namespace QuarantinedComponent

/-- `QuarantinedComponent::is_expired_at`. -/
def isExpiredAt (component : QuarantinedComponent) (nowMs : Nat) : Bool :=
  component.expiresAtMs > 0 && nowMs ≥ component.expiresAtMs

/-- `QuarantinedComponent::blocks_writes`: from the severity `restricted` on. -/
def blocksWrites (component : QuarantinedComponent) : Bool :=
  component.state == .quarantined && component.severity != .advisory

/-- `QuarantinedComponent::blocks_all`: from the severity `isolated` on. -/
def blocksAll (component : QuarantinedComponent) : Bool :=
  component.state == .quarantined &&
    (component.severity == .isolated || component.severity == .terminated)

theorem blocksWrites_of_blocksAll {component : QuarantinedComponent}
    (h : component.blocksAll) : component.blocksWrites := by
  unfold blocksAll at h
  unfold blocksWrites
  cases hSeverity : component.severity <;> simp_all

end QuarantinedComponent

/-- `QuarantineRegistry`. -/
structure QuarantineRegistry where
  components : String → Option QuarantinedComponent := fun _ => none
  killSwitch : KillSwitch := .disarmed
  autoExpire : Bool := true

namespace QuarantineRegistry

section

variable (registry : QuarantineRegistry) (nowMs : Nat)

/-- The component after the expiry sweep. -/
def expireComponent (component : QuarantinedComponent) : QuarantinedComponent :=
  if component.state = .quarantined ∧ component.isExpiredAt nowMs = true then
    { component with state := .clear, lastReviewedAtMs := nowMs }
  else component

/-- `QuarantineRegistry::expire_quarantines`. -/
def expireQuarantines : QuarantineRegistry :=
  { registry with components := fun id => (registry.components id).map (expireComponent nowMs) }

/-- `QuarantineRegistry::maybe_expire`. -/
def maybeExpire : QuarantineRegistry :=
  if registry.autoExpire then registry.expireQuarantines nowMs else registry

/-- `QuarantineRegistry::tick_kill_switch`. -/
def tickKillSwitch : QuarantineRegistry :=
  { registry with killSwitch := registry.killSwitch.tick nowMs }

/-- `QuarantineRegistry::is_blocked_for_writes`. -/
def isBlockedForWrites (componentId : String) : Bool :=
  if !registry.killSwitch.allowsNewWorkflows then true
  else (registry.components componentId).any QuarantinedComponent.blocksWrites

/-- `QuarantineRegistry::is_blocked_for_all`. -/
def isBlockedForAll (componentId : String) : Bool :=
  if registry.killSwitch.isEmergency then true
  else (registry.components componentId).any QuarantinedComponent.blocksAll

/-- `QuarantineRegistry::restore_kill_switch`. -/
def restoreKillSwitch (state : KillSwitch) : QuarantineRegistry :=
  { registry with killSwitch := state }

/-- The switch turned to a level, everything else as it is. -/
def atLevel (level : KillSwitchLevel) : QuarantineRegistry :=
  registry.restoreKillSwitch { registry.killSwitch with level := level }

end

end QuarantineRegistry

end FrankenTerm.Ports.PolicyQuarantine
