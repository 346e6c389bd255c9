import FrankenTerm.Ports.PolicyTypes
import FrankenTerm.Ports.RuleGlob
import FrankenTerm.Verified.Loop

/-!
# Custom policy rules and their compilation

A rule of the configuration lists criteria as texts.  `policy.rs` matches them in two ways.
`matchesRule` reads the texts as they are.  `compileRuleMatch` parses the names of actions,
actors and surfaces into their enumerations, drops the names it cannot parse, and produces a
predicate tree for `evaluatePredicate`.  Decisions use the compiled rules; that both ways agree
is checked by a debug assertion only.

The compilation can widen a criterion or narrow it.  A list of names of which none parses no longer
restricts the rule; JSON escapes, letter case and globs over bytes make up the rest.  `readings`
says by the texts what becomes of each criterion.

The regular expressions are a relation `isMatch` that both sides share, and reading a name as a JSON
string belongs to another crate and is a parameter.  Message texts are not interpolated here:
nothing below reads the interpolated message.

## Main results

* `compiled_iff_consistent` — the compiled predicate is the configured match exactly if a criterion
  refuses the input on both sides, or none is widened or narrowed, or one is widened and another
  narrowed.
* `compiled_rules_mean_config` — that, and the selection among rules that are read so.
-/

namespace FrankenTerm.Ports.PolicyRules

open Verified PolicyTypes RuleGlob List
open Loop

/-! ## The configuration -/

/-- `str::eq_ignore_ascii_case`. -/
def eqIgnoreAsciiCase (s t : String) : Bool :=
  s.toList.map Char.toLower == t.toList.map Char.toLower

/-- `PolicyRuleMatch`: an empty list matches everything, the entries of a list are
alternatives. -/
structure PolicyRuleMatch where
  actions : List String := []
  actors : List String := []
  surfaces : List String := []
  paneIds : List Nat := []
  paneTitles : List String := []
  paneCwds : List String := []
  paneDomains : List String := []
  commandPatterns : List String := []
  agentTypes : List String := []
deriving DecidableEq, Repr

namespace PolicyRuleMatch

/-- `PolicyRuleMatch::specificity`. -/
def specificity (m : PolicyRuleMatch) : Nat :=
  (if m.actions.isEmpty then 0 else 1) + (if m.actors.isEmpty then 0 else 1) +
    (if m.surfaces.isEmpty then 0 else 1) + (if m.paneIds.isEmpty then 0 else 2) +
    (if m.paneTitles.isEmpty then 0 else 1) + (if m.paneCwds.isEmpty then 0 else 1) +
    (if m.paneDomains.isEmpty then 0 else 1) + (if m.commandPatterns.isEmpty then 0 else 2) +
    (if m.agentTypes.isEmpty then 0 else 1)

/-- `PolicyRuleMatch::is_catch_all`. -/
def isCatchAll (m : PolicyRuleMatch) : Bool :=
  m.actions.isEmpty && m.actors.isEmpty && m.surfaces.isEmpty && m.paneIds.isEmpty &&
    m.paneTitles.isEmpty && m.paneCwds.isEmpty && m.paneDomains.isEmpty &&
    m.commandPatterns.isEmpty && m.agentTypes.isEmpty

end PolicyRuleMatch

/-- `PolicyRuleDecision`. -/
inductive PolicyRuleDecision where
  | allow
  | deny
  | requireApproval
deriving DecidableEq, Repr

/-- `PolicyRuleDecision::priority`: the strictest first. -/
def PolicyRuleDecision.priority : PolicyRuleDecision → Nat
  | .deny => 0
  | .requireApproval => 1
  | .allow => 2

def PolicyRuleDecision.asStr : PolicyRuleDecision → String
  | .allow => "allow"
  | .deny => "deny"
  | .requireApproval => "require_approval"

/-- `PolicyRule`. -/
structure PolicyRule where
  id : String
  priority : Nat := 100
  matchOn : PolicyRuleMatch
  decision : PolicyRuleDecision
  message : Option String := none
deriving DecidableEq, Repr

/-- `PolicyRulesConfig`. -/
structure PolicyRulesConfig where
  enabled : Bool := true
  rules : List PolicyRule := []

/-! ## Matching the configuration -/

variable (isMatch : String → String → Bool)

/-- `matches_rule`. -/
def matchesRule (m : PolicyRuleMatch) (input : PolicyInput) : Bool :=
  if m.isCatchAll then true
  else if !m.actions.isEmpty && !m.actions.any (· == input.action.asStr) then false
  else if !m.actors.isEmpty && !m.actors.any (· == input.actor.asStr) then false
  else if !m.surfaces.isEmpty && !m.surfaces.any (eqIgnoreAsciiCase · input.surface.asStr) then
    false
  else if !m.paneIds.isEmpty && !input.paneId.any m.paneIds.contains then false
  else if !m.paneDomains.isEmpty &&
      !input.domain.any (fun domain => m.paneDomains.any (· == domain)) then false
  else if !m.paneTitles.isEmpty &&
      !input.paneTitle.any (fun title => m.paneTitles.any (matchRuleGlob · title)) then false
  else if !m.paneCwds.isEmpty &&
      !input.paneCwd.any (fun cwd => m.paneCwds.any (matchRuleGlob · cwd)) then false
  else if !m.commandPatterns.isEmpty &&
      !input.commandText.any (fun text => m.commandPatterns.any (isMatch · text)) then false
  else if !m.agentTypes.isEmpty &&
      !input.agentType.any (fun agent => m.agentTypes.any (eqIgnoreAsciiCase · agent)) then false
  else true

/-! ## The predicates of the rule language -/

/-- `RulePredicate` of `policy_dsl.rs`. -/
inductive RulePredicate where
  | actionIn (actions : List ActionKind)
  | actorIn (actors : List ActorKind)
  | surfaceIn (surfaces : List PolicySurface)
  | paneIdIn (paneIds : List Nat)
  | paneTitleGlob (patterns : List String)
  | paneCwdGlob (patterns : List String)
  | domainIn (domains : List String)
  | commandRegex (patterns : List String)
  | agentTypeIn (agentTypes : List String)
  | always
  | never
  | and (left right : RulePredicate)
  | or (left right : RulePredicate)
  | not (inner : RulePredicate)

/-- `RulePredicate::specificity`. -/
def RulePredicate.specificity : RulePredicate → Nat
  | .actionIn actions => if !actions.isEmpty then 1 else 0
  | .actorIn actors => if !actors.isEmpty then 1 else 0
  | .surfaceIn surfaces => if !surfaces.isEmpty then 1 else 0
  | .paneIdIn paneIds => if !paneIds.isEmpty then 2 else 0
  | .paneTitleGlob patterns => if !patterns.isEmpty then 1 else 0
  | .paneCwdGlob patterns => if !patterns.isEmpty then 1 else 0
  | .domainIn domains => if !domains.isEmpty then 1 else 0
  | .commandRegex patterns => if !patterns.isEmpty then 2 else 0
  | .agentTypeIn agentTypes => if !agentTypes.isEmpty then 1 else 0
  | .and left right | .or left right => left.specificity + right.specificity
  | .not inner => inner.specificity
  | .always | .never => 0

/-- `evaluate_predicate`. -/
def evaluatePredicate (pred : RulePredicate) (input : PolicyInput) : Bool :=
  match pred with
  | .actionIn actions => if actions.isEmpty then true else actions.contains input.action
  | .actorIn actors => if actors.isEmpty then true else actors.contains input.actor
  | .surfaceIn surfaces => if surfaces.isEmpty then true else surfaces.contains input.surface
  | .paneIdIn paneIds => if paneIds.isEmpty then true else input.paneId.any paneIds.contains
  | .paneTitleGlob patterns =>
    if patterns.isEmpty then true
    else input.paneTitle.any fun title => patterns.any (matchGlob · title)
  | .paneCwdGlob patterns =>
    if patterns.isEmpty then true
    else input.paneCwd.any fun cwd => patterns.any (matchGlob · cwd)
  | .domainIn domains =>
    if domains.isEmpty then true
    else input.domain.any fun domain => domains.any (eqIgnoreAsciiCase · domain)
  | .commandRegex patterns =>
    if patterns.isEmpty then true
    else input.commandText.any fun text => patterns.any (isMatch · text)
  | .agentTypeIn agentTypes =>
    if agentTypes.isEmpty then true
    else input.agentType.any fun agent => agentTypes.any (eqIgnoreAsciiCase · agent)
  | .always => true
  | .never => false
  | .and left right => evaluatePredicate left input && evaluatePredicate right input
  | .or left right => evaluatePredicate left input || evaluatePredicate right input
  | .not inner => !evaluatePredicate inner input

/-- `PredicateTrace`, without the description of the node. -/
inductive PredicateTrace where
  | node (isMatched : Bool) (children : List PredicateTrace)

def PredicateTrace.isMatched : PredicateTrace → Bool
  | .node isMatched _ => isMatched

/-- `evaluate_with_trace`: the second evaluator, which also evaluates the side that a
connective does not need. -/
def evaluateWithTrace (pred : RulePredicate) (input : PolicyInput) : PredicateTrace :=
  match pred with
  | .actionIn actions => .node (if actions.isEmpty then true else actions.contains input.action) []
  | .actorIn actors => .node (if actors.isEmpty then true else actors.contains input.actor) []
  | .surfaceIn surfaces =>
    .node (if surfaces.isEmpty then true else surfaces.contains input.surface) []
  | .paneIdIn paneIds =>
    .node (if paneIds.isEmpty then true else input.paneId.any paneIds.contains) []
  | .paneTitleGlob patterns =>
    .node (if patterns.isEmpty then true
      else input.paneTitle.any fun title => patterns.any (matchGlob · title)) []
  | .paneCwdGlob patterns =>
    .node (if patterns.isEmpty then true
      else input.paneCwd.any fun cwd => patterns.any (matchGlob · cwd)) []
  | .domainIn domains =>
    .node (if domains.isEmpty then true
      else input.domain.any fun domain => domains.any (eqIgnoreAsciiCase · domain)) []
  | .commandRegex patterns =>
    .node (if patterns.isEmpty then true
      else input.commandText.any fun text => patterns.any (isMatch · text)) []
  | .agentTypeIn agentTypes =>
    .node (if agentTypes.isEmpty then true
      else input.agentType.any fun agent => agentTypes.any (eqIgnoreAsciiCase · agent)) []
  | .always => .node true []
  | .never => .node false []
  | .and left right =>
    let leftTrace := evaluateWithTrace left input
    let rightTrace := evaluateWithTrace right input
    .node (leftTrace.isMatched && rightTrace.isMatched) [leftTrace, rightTrace]
  | .or left right =>
    let leftTrace := evaluateWithTrace left input
    let rightTrace := evaluateWithTrace right input
    .node (leftTrace.isMatched || rightTrace.isMatched) [leftTrace, rightTrace]
  | .not inner =>
    let innerTrace := evaluateWithTrace inner input
    .node (!innerTrace.isMatched) [innerTrace]

open PredicateTrace

/-- The two evaluators agree. -/
theorem isMatched_evaluateWithTrace (pred : RulePredicate) (input : PolicyInput) :
    (evaluateWithTrace isMatch pred input).isMatched = evaluatePredicate isMatch pred input := by
  induction pred with
  | and _ _ ihLeft ihRight | or _ _ ihLeft ihRight =>
    simp only [evaluateWithTrace, evaluatePredicate, isMatched] at *
    rw [ihLeft, ihRight]
  | not _ ih =>
    simp only [evaluateWithTrace, evaluatePredicate, isMatched] at *
    rw [ih]
  | _ => simp only [evaluateWithTrace, evaluatePredicate, isMatched]

/-! ## Compilation -/

/-- `serde_json::from_str` of a text in quotes, as far as names go. -/
structure JsonNames where
  read : String → Option String
  /-- A text without quotes, backslashes and control characters is read as it is. -/
  read_plain : ∀ text : String, text.toList.all (fun c => c ≠ '"' && c ≠ '\\' && 32 ≤ c.toNat) →
    read text = some text

/-- A reader that refuses all other texts. -/
def JsonNames.plain : JsonNames where
  read text :=
    if text.toList.all fun c => c ≠ '"' && c ≠ '\\' && 32 ≤ c.toNat then some text else none
  read_plain _ h := if_pos h

variable (names : JsonNames)

/-- A unit variant read by its serialised name. -/
def parseUnit {α : Type} (all : List α) (asStr : α → String) (s : String) : Option α :=
  (names.read s).bind fun text => all.find? fun kind => asStr kind == text

/-- `parse_action_kind`. -/
def parseActionKind : String → Option ActionKind := parseUnit names ActionKind.all ActionKind.asStr

/-- `parse_actor_kind`. -/
def parseActorKind : String → Option ActorKind := parseUnit names ActorKind.all ActorKind.asStr

/-- `parse_policy_surface`. -/
def parsePolicySurface : String → Option PolicySurface :=
  parseUnit names PolicySurface.all PolicySurface.asStr

/-- The clause of a list of names: those that parse, if there are any. -/
def parsedClause {α : Type} (parse : String → Option α) (clause : List α → RulePredicate)
    (names : List String) : List RulePredicate :=
  if names.isEmpty then []
  else
    let parsed := names.filterMap parse
    if parsed.isEmpty then [] else [clause parsed]

/-- The clause of a list that is taken as it is. -/
def listClause {α : Type} (clause : List α → RulePredicate) (entries : List α) :
    List RulePredicate :=
  if entries.isEmpty then [] else [clause entries]

/-- All clauses joined; none of them is `Always`. -/
def joinClauses : List RulePredicate → RulePredicate
  | [] => .always
  | first :: rest => rest.foldl .and first

/-- The clauses that `compile_rule_match` collects. -/
def clausesOf (m : PolicyRuleMatch) : List RulePredicate :=
  parsedClause (parseActionKind names) .actionIn m.actions ++
    parsedClause (parseActorKind names) .actorIn m.actors ++
    parsedClause (parsePolicySurface names) .surfaceIn m.surfaces ++
    listClause .paneIdIn m.paneIds ++ listClause .paneTitleGlob m.paneTitles ++
    listClause .paneCwdGlob m.paneCwds ++ listClause .domainIn m.paneDomains ++
    listClause .commandRegex m.commandPatterns ++ listClause .agentTypeIn m.agentTypes

/-- `compile_rule_match`. -/
def compileRuleMatch (m : PolicyRuleMatch) : RulePredicate := joinClauses (clausesOf names m)

/-- `DslDecision`. -/
inductive DslDecision where
  | allow
  | deny
  | requireApproval
deriving DecidableEq, Repr

/-- `DslDecision::severity`. -/
def DslDecision.severity : DslDecision → Nat
  | .deny => 0
  | .requireApproval => 1
  | .allow => 2

/-- `DslRule`. -/
structure DslRule where
  id : String
  priority : Nat
  predicate : RulePredicate
  decision : DslDecision
  message : Option String

/-- `compile_policy_rule`. -/
def compilePolicyRule (rule : PolicyRule) : DslRule where
  id := rule.id
  priority := rule.priority
  predicate := compileRuleMatch names rule.matchOn
  decision :=
    match rule.decision with
    | .allow => .allow
    | .deny => .deny
    | .requireApproval => .requireApproval
  message := rule.message

/-! ## Evaluation -/

/-- `DslRuleEvaluation`. -/
structure DslRuleEvaluation where
  ruleId : String
  isMatched : Bool
  decision : DslDecision
  priority : Nat

/-- `DslRuleMatch`. -/
structure DslRuleMatch where
  ruleId : String
  decision : DslDecision
  trace : PredicateTrace

/-- `DslEvalResult`. -/
structure DslEvalResult where
  matchedRule : Option DslRuleMatch
  evaluations : List DslRuleEvaluation

/-- The newcomer does not beat the best rule so far. -/
def isDominated (rule best : DslRule) : Bool :=
  if rule.priority ≠ best.priority then rule.priority ≥ best.priority
  else if rule.decision.severity ≠ best.decision.severity then
    rule.decision.severity ≥ best.decision.severity
  else rule.predicate.specificity ≤ best.predicate.specificity

/-- The body of the loop of `evaluate_dsl_rules`. -/
def evaluateDslRule (input : PolicyInput)
    (state : List DslRuleEvaluation × Option (DslRule × PredicateTrace)) (rule : DslRule) :
    List DslRuleEvaluation × Option (DslRule × PredicateTrace) :=
  let trace := evaluateWithTrace isMatch rule.predicate input
  let evaluations := state.1 ++ [⟨rule.id, trace.isMatched, rule.decision, rule.priority⟩]
  if trace.isMatched then
    let dominated :=
      match state.2 with
      | none => false
      | some (best, _) => isDominated rule best
    if !dominated || state.2.isNone then (evaluations, some (rule, trace))
    else (evaluations, state.2)
  else (evaluations, state.2)

/-- `evaluate_dsl_rules`. -/
def evaluateDslRules (rules : List DslRule) (input : PolicyInput) : DslEvalResult :=
  let result := rules.foldl (evaluateDslRule isMatch input) ([], none)
  { matchedRule := result.2.map fun (rule, trace) => ⟨rule.id, rule.decision, trace⟩
    evaluations := result.1 }

/-- `RuleEvaluationResult`. -/
structure RuleEvaluationResult where
  matchingRule : Option PolicyRule
  decision : Option PolicyRuleDecision
  rulesChecked : List String
  matchedRuleIds : List String

/-- `evaluate_policy_rules`. -/
def evaluatePolicyRules (config : PolicyRulesConfig) (input : PolicyInput) :
    RuleEvaluationResult :=
  if !config.enabled || config.rules.isEmpty then ⟨none, none, [], []⟩
  else
    let result := evaluateDslRules isMatch (config.rules.map (compilePolicyRule names)) input
    let matchingRule := result.matchedRule.bind fun found =>
      config.rules.find? fun rule => rule.id == found.ruleId
    { matchingRule := matchingRule
      decision := matchingRule.map (·.decision)
      rulesChecked := config.rules.map (·.id)
      matchedRuleIds := (result.evaluations.filter (·.isMatched)).map (·.ruleId) }

/-! ## What a compiled predicate means -/

theorem evaluatePredicate_joinClauses (clauses : List RulePredicate) (input : PolicyInput) :
    evaluatePredicate isMatch (joinClauses clauses) input =
      clauses.all (evaluatePredicate isMatch · input) := by
  cases clauses with
  | nil => rfl
  | cons first rest =>
    rw [joinClauses, all_cons]
    induction rest generalizing first with
    | nil => simp
    | cons _ _ ih => rw [foldl_cons, ih, evaluatePredicate, all_cons, Bool.and_assoc]

open RulePredicate

theorem specificity_joinClauses (clauses : List RulePredicate) :
    (joinClauses clauses).specificity = (clauses.map specificity).sum := by
  cases clauses with
  | nil => rfl
  | cons first rest =>
    rw [joinClauses, map_cons, sum_cons]
    induction rest generalizing first with
    | nil => rfl
    | cons _ _ ih =>
      rw [foldl_cons, ih, specificity, map_cons, sum_cons]
      omega

variable {α : Type} {input : PolicyInput} {config : PolicyRulesConfig} {m : PolicyRuleMatch}

private theorem all_listClause (holds : RulePredicate → Bool) (clause : List α → RulePredicate)
    (entries : List α) :
    (listClause clause entries).all holds = (entries.isEmpty || holds (clause entries)) := by
  unfold listClause
  split_ifs with hEmpty
  · simp [hEmpty]
  · simp [hEmpty]

private theorem parsedClause_eq (parse : String → Option α) (clause : List α → RulePredicate)
    (names : List String) :
    parsedClause parse clause names = listClause clause (names.filterMap parse) := by
  unfold parsedClause listClause
  cases names with
  | nil => simp
  | cons => simp

/-- A criterion that refuses is a factor of the match. -/
private theorem refuse_eq (isOpen holds rest : Bool) :
    (if !isOpen && !holds then false else rest) = ((isOpen || holds) && rest) := by
  cases isOpen <;> cases holds <;> rfl

/-- The configured match is the conjunction of its criteria. -/
theorem matchesRule_eq (m : PolicyRuleMatch) (input : PolicyInput) :
    matchesRule isMatch m input = ((m.actions.isEmpty || m.actions.any (· == input.action.asStr)) &&
        ((m.actors.isEmpty || m.actors.any (· == input.actor.asStr)) &&
        ((m.surfaces.isEmpty || m.surfaces.any (eqIgnoreAsciiCase · input.surface.asStr)) &&
        ((m.paneIds.isEmpty || input.paneId.any m.paneIds.contains) &&
        ((m.paneDomains.isEmpty ||
            input.domain.any fun domain => m.paneDomains.any (· == domain)) &&
        ((m.paneTitles.isEmpty ||
            input.paneTitle.any fun title => m.paneTitles.any (matchRuleGlob · title)) &&
        ((m.paneCwds.isEmpty ||
            input.paneCwd.any fun cwd => m.paneCwds.any (matchRuleGlob · cwd)) &&
        ((m.commandPatterns.isEmpty ||
            input.commandText.any fun text => m.commandPatterns.any (isMatch · text)) &&
        ((m.agentTypes.isEmpty ||
            input.agentType.any fun agent => m.agentTypes.any (eqIgnoreAsciiCase · agent)) &&
          true))))))))) := by
  unfold matchesRule
  simp only [refuse_eq]
  by_cases hAll : m.isCatchAll
  · rw [if_pos hAll]
    simp only [PolicyRuleMatch.isCatchAll, Bool.and_eq_true] at hAll
    simp only [hAll, Bool.true_or, Bool.and_true]
  · rw [if_neg hAll]

/-! ## What becomes of the criteria -/

/-- What becomes of one criterion on an input: it lets the input pass on both sides, on neither,
only compiled, or only as configured. -/
inductive Reading where
  | both
  | neither
  | widened
  | narrowed
deriving DecidableEq, Repr

/-- Some entry of a list reads as the name of a kind. -/
def someKnown {α : Type} (all : List α) (asStr : α → String) (entries : List String) : Bool :=
  entries.any fun entry => (names.read entry).any fun text => all.any (asStr · == text)

/-- A list of names.  Of those that are known the compiled criterion keeps the kinds; without any it
is dropped.  The configured one goes by the texts. -/
def namesReading {α : Type} (all : List α) (asStr : α → String) (same : String → String → Bool)
    (kind : α) (entries : List String) : Reading :=
  let known := someKnown names all asStr entries
  let spelt := entries.any fun entry => names.read entry == some (asStr kind)
  if entries.any (same · (asStr kind)) then
    if known && !spelt then .narrowed else .both
  else if entries.isEmpty then .both
  else if known && !spelt then .neither else .widened

/-- A list of domains: letter case counts only as configured. -/
def domainsReading (domain : Option String) (entries : List String) : Reading :=
  if entries.isEmpty || domain.any entries.contains then .both
  else if domain.any fun domain => entries.any (eqIgnoreAsciiCase · domain) then .widened
  else .neither

/-- A criterion that is compiled as it is. -/
def plainReading (holds : Bool) : Reading := if holds then .both else .neither

/-- What becomes of the criteria of a rule on an input, those with globs apart. -/
def criteria (m : PolicyRuleMatch) (input : PolicyInput) : List Reading :=
  [namesReading names ActionKind.all ActionKind.asStr (· == ·) input.action m.actions,
   namesReading names ActorKind.all ActorKind.asStr (· == ·) input.actor m.actors,
   namesReading names PolicySurface.all PolicySurface.asStr eqIgnoreAsciiCase input.surface
     m.surfaces,
   plainReading (m.paneIds.isEmpty || input.paneId.any m.paneIds.contains),
   domainsReading input.domain m.paneDomains,
   plainReading (m.commandPatterns.isEmpty ||
     input.commandText.any fun text => m.commandPatterns.any (isMatch · text)),
   plainReading (m.agentTypes.isEmpty ||
     input.agentType.any fun agent => m.agentTypes.any (eqIgnoreAsciiCase · agent))]

/-- The configured globs let the text pass. -/
def globsPass (text : Option String) (patterns : List String) : Bool :=
  patterns.isEmpty || text.any fun text => patterns.any (matchRuleGlob · text)

/-- **What becomes of the criteria** of a rule on an input. -/
def readings (m : PolicyRuleMatch) (input : PolicyInput) : List Reading :=
  plainReading (globsPass input.paneTitle m.paneTitles) ::
    plainReading (globsPass input.paneCwd m.paneCwds) :: criteria isMatch names m input

/-- In no pattern that is tried on the text does `?` meet a character of several bytes.  The
compiled globs go by bytes. -/
def GlobsClear (text : String) : List String → Prop
  | [] => True
  | pattern :: patterns => (∀ c : Char, c.utf8Size ≠ 1 → ¬GlobMeets pattern text '?' c) ∧
      (matchRuleGlob pattern text = false → GlobsClear text patterns)

/-- The globs that the rule comes to try on an input are clear. -/
def Clear (m : PolicyRuleMatch) (input : PolicyInput) : Prop :=
  .neither ∉ criteria isMatch names m input →
    (∀ title ∈ input.paneTitle, GlobsClear title m.paneTitles) ∧
      (globsPass input.paneTitle m.paneTitles → ∀ cwd ∈ input.paneCwd, GlobsClear cwd m.paneCwds)

/-- Some criterion refuses on both sides, or none is misread, or they are misread both ways. -/
def Consistent (rs : List Reading) : Prop :=
  .neither ∈ rs ∨ (.widened ∈ rs ↔ .narrowed ∈ rs)

instance decidableConsistent (rs : List Reading) : Decidable (Consistent rs) :=
  inferInstanceAs (Decidable (_ ∨ _))

def Reading.configured : Reading → Bool
  | .both | .narrowed => true
  | .neither | .widened => false

def Reading.compiled : Reading → Bool
  | .both | .widened => true
  | .neither | .narrowed => false

private theorem all_side_iff {side : Reading → Bool} {misread : Reading}
    (hSide : ∀ r, side r = true ↔ r ≠ .neither ∧ r ≠ misread) (rs : List Reading) :
    rs.all side ↔ .neither ∉ rs ∧ misread ∉ rs := by
  simp only [all_eq_true, hSide]
  constructor
  · intro h
    exact ⟨fun hIn => (h _ hIn).1 rfl, fun hIn => (h _ hIn).2 rfl⟩
  · rintro ⟨hNeither, hMisread⟩ r hr
    exact ⟨fun hEq => hNeither (hEq ▸ hr), fun hEq => hMisread (hEq ▸ hr)⟩

theorem all_compiled_iff (rs : List Reading) :
    rs.all (·.compiled) ↔ .neither ∉ rs ∧ .narrowed ∉ rs :=
  all_side_iff (fun r => by cases r <;> decide) rs

theorem all_configured_iff (rs : List Reading) :
    rs.all (·.configured) ↔ .neither ∉ rs ∧ .widened ∉ rs :=
  all_side_iff (fun r => by cases r <;> decide) rs

/-- Both conjunctions are the same exactly if the readings are consistent. -/
theorem all_compiled_eq_all_configured (rs : List Reading) :
    rs.all (·.compiled) = rs.all (·.configured) ↔ Consistent rs := by
  rw [Bool.eq_iff_iff, all_compiled_iff, all_configured_iff, Consistent]
  tauto

section Names

variable {α : Type} {all : List α} {asStr : α → String}

theorem parseUnit_eq_some
    (hFind : ∀ kind, all.find? (fun other => asStr other == asStr kind) = some kind) {kind : α}
    {entry : String} :
    parseUnit names all asStr entry = some kind ↔ names.read entry = some (asStr kind) := by
  unfold parseUnit
  rw [Option.bind_eq_some_iff]
  constructor
  · rintro ⟨text, hRead, hKind⟩
    have hText : asStr kind = text := by simpa using find?_some hKind
    rw [hRead, hText]
  · intro hRead
    exact ⟨_, hRead, hFind kind⟩

theorem isSome_parseUnit (entry : String) : (parseUnit names all asStr entry).isSome =
    (names.read entry).any fun text => all.any (asStr · == text) := by
  unfold parseUnit
  cases names.read entry with
  | none => rfl
  | some text =>
    rw [Option.bind_some, Option.any_some, Bool.eq_iff_iff, find?_isSome, any_eq_true]

theorem isEmpty_parsed (entries : List String) :
    (entries.filterMap (parseUnit names all asStr)).isEmpty =
      !someKnown names all asStr entries := by
  unfold someKnown
  simp only [← isSome_parseUnit]
  rw [Bool.eq_iff_iff, List.isEmpty_iff, filterMap_eq_nil_iff]
  simp

/-- The compiled criterion of a list of names. -/
theorem compiled_namesReading [DecidableEq α]
    (hFind : ∀ kind, all.find? (fun other => asStr other == asStr kind) = some kind)
    (same : String → String → Bool) (kind : α) (entries : List String) :
    (namesReading names all asStr same kind entries).compiled =
      ((entries.filterMap (parseUnit names all asStr)).isEmpty ||
        (entries.filterMap (parseUnit names all asStr)).contains kind) := by
  have hSpelt : (entries.filterMap (parseUnit names all asStr)).contains kind =
      entries.any fun entry => names.read entry == some (asStr kind) := by
    rw [Bool.eq_iff_iff, contains_iff_mem, mem_filterMap, any_eq_true]
    simp [parseUnit_eq_some names hFind]
  have hNone : entries.isEmpty → someKnown names all asStr entries = false := by
    intro hNil
    rw [List.isEmpty_iff.mp hNil]
    rfl
  rw [isEmpty_parsed, hSpelt, namesReading]
  cases hKnown : someKnown names all asStr entries with
  | false => split_ifs <;> simp_all [Reading.compiled]
  | true => split_ifs <;> simp_all [Reading.compiled]

theorem configured_namesReading (same : String → String → Bool) (kind : α)
    (entries : List String) :
    (namesReading names all asStr same kind entries).configured =
      (entries.isEmpty || entries.any (same · (asStr kind))) := by
  rw [namesReading]
  cases someKnown names all asStr entries with
  | false => split_ifs <;> simp_all [Reading.configured]
  | true => split_ifs <;> simp_all [Reading.configured]

/-- A list that has the name of the kind is kept: the name is read as it is. -/
theorem kept_of_listed (hMem : ∀ kind, kind ∈ all)
    (hPlain : ∀ kind, (asStr kind).toList.all fun c => c ≠ '"' && c ≠ '\\' && 32 ≤ c.toNat)
    {kind : α} {entries : List String}
    (h : (entries.isEmpty || entries.any (· == asStr kind)) = true) :
    entries = [] ∨ someKnown names all asStr entries := by
  rcases (Bool.or_eq_true _ _).mp h with hEmpty | hListed
  · exact .inl (List.isEmpty_iff.mp hEmpty)
  · rcases any_eq_true.mp hListed with ⟨entry, hEntry, hName⟩
    rw [beq_iff_eq] at hName
    refine .inr (any_eq_true.mpr ⟨entry, hEntry, ?_⟩)
    rw [hName, names.read_plain _ (hPlain kind), Option.any_some, any_eq_true]
    exact ⟨kind, hMem kind, beq_self_eq_true _⟩

end Names

theorem mem_actionKind (kind : ActionKind) : kind ∈ ActionKind.all := by
  cases kind <;> decide

theorem mem_actorKind (kind : ActorKind) : kind ∈ ActorKind.all := by
  cases kind <;> decide

theorem plain_actionKind (kind : ActionKind) :
    kind.asStr.toList.all fun c => c ≠ '"' && c ≠ '\\' && 32 ≤ c.toNat := by
  cases kind <;> rfl

theorem plain_actorKind (kind : ActorKind) :
    kind.asStr.toList.all fun c => c ≠ '"' && c ≠ '\\' && 32 ≤ c.toNat := by
  cases kind <;> rfl

theorem compiled_domainsReading (domain : Option String) (entries : List String) :
    (domainsReading domain entries).compiled = (entries.isEmpty ||
      domain.any fun domain => entries.any (eqIgnoreAsciiCase · domain)) := by
  have hExact : domain.any entries.contains →
      domain.any fun domain => entries.any (eqIgnoreAsciiCase · domain) := by
    cases domain with
    | none => exact id
    | some domain =>
      intro hIn
      refine any_eq_true.mpr ⟨domain, by simpa using hIn, ?_⟩
      simp [eqIgnoreAsciiCase]
  unfold domainsReading
  split_ifs with hBoth hWidened
  · rcases (Bool.or_eq_true _ _).mp hBoth with hEmpty | hListed
    · rw [hEmpty]
      rfl
    · rw [hExact hListed, Bool.or_true]
      rfl
  · rw [hWidened, Bool.or_true]
    rfl
  · simp_all [Reading.compiled]

theorem configured_domainsReading (domain : Option String) (entries : List String) :
    (domainsReading domain entries).configured =
      (entries.isEmpty || domain.any entries.contains) := by
  unfold domainsReading
  split_ifs <;> simp_all [Reading.configured]

theorem compiled_plainReading (holds : Bool) : (plainReading holds).compiled = holds := by
  cases holds <;> rfl

theorem configured_plainReading (holds : Bool) : (plainReading holds).configured = holds := by
  cases holds <;> rfl

private theorem any_beq_eq (domain : String) (entries : List String) :
    entries.any (· == domain) = entries.contains domain := by
  rw [Bool.eq_iff_iff, any_eq_true, contains_iff_mem]
  simp

private theorem or_of_isEmpty (isOpen holds : Bool) :
    (isOpen || if isOpen = true then true else holds) = (isOpen || holds) := by
  cases isOpen <;> rfl

private theorem any_matchGlob {text : String} {patterns : List String}
    (h : GlobsClear text patterns) :
    patterns.any (matchGlob · text) = patterns.any (matchRuleGlob · text) := by
  induction patterns with
  | nil => rfl
  | cons pattern patterns ih =>
    obtain ⟨hFirst, hRest⟩ := h
    rw [any_cons, any_cons, matchGlob_eq_matchRuleGlob hFirst]
    cases hMatch : matchRuleGlob pattern text with
    | true => rfl
    | false => rw [ih (hRest hMatch)]

private theorem globs_compiled {text : Option String} {patterns : List String}
    (h : ∀ t ∈ text, GlobsClear t patterns) :
    (patterns.isEmpty || text.any fun text => patterns.any (matchGlob · text)) =
      globsPass text patterns := by
  unfold globsPass
  cases text with
  | none => rfl
  | some text => rw [Option.any_some, Option.any_some, any_matchGlob (h text rfl)]

/-- The compiled predicate is the conjunction of the compiled criteria. -/
theorem evaluatePredicate_criteria (m : PolicyRuleMatch) (input : PolicyInput) :
    evaluatePredicate isMatch (compileRuleMatch names m) input =
      ((criteria isMatch names m input).all (·.compiled) &&
        ((m.paneTitles.isEmpty ||
            input.paneTitle.any fun title => m.paneTitles.any (matchGlob · title)) &&
        (m.paneCwds.isEmpty ||
            input.paneCwd.any fun cwd => m.paneCwds.any (matchGlob · cwd)))) := by
  rw [compileRuleMatch, evaluatePredicate_joinClauses]
  simp only [clausesOf, all_append, parsedClause_eq, all_listClause, evaluatePredicate,
    or_of_isEmpty, criteria, all_cons, all_nil, Bool.and_true, parseActionKind, parseActorKind,
    parsePolicySurface, compiled_namesReading names find?_actionKind,
    compiled_namesReading names find?_actorKind, compiled_namesReading names find?_policySurface,
    compiled_domainsReading, compiled_plainReading]
  ac_rfl

theorem evaluatePredicate_compileRuleMatch {m : PolicyRuleMatch} {input : PolicyInput}
    (h : Clear isMatch names m input) :
    evaluatePredicate isMatch (compileRuleMatch names m) input =
      (readings isMatch names m input).all (·.compiled) := by
  rw [evaluatePredicate_criteria, readings, all_cons, all_cons, compiled_plainReading,
    compiled_plainReading]
  by_cases hNeither : .neither ∈ criteria isMatch names m input
  · have hAll : (criteria isMatch names m input).all (·.compiled) = false := by
      rw [← Bool.not_eq_true, all_compiled_iff]
      exact fun hBoth => hBoth.1 hNeither
    simp [hAll]
  · obtain ⟨hTitle, hCwd⟩ := h hNeither
    rw [globs_compiled hTitle]
    cases hPass : globsPass input.paneTitle m.paneTitles with
    | false => simp
    | true =>
      rw [globs_compiled (hCwd hPass)]
      ac_rfl

/-- The configured match is the conjunction of the configured criteria. -/
theorem matchesRule_eq_readings (m : PolicyRuleMatch) (input : PolicyInput) :
    matchesRule isMatch m input = (readings isMatch names m input).all (·.configured) := by
  rw [matchesRule_eq]
  simp only [readings, criteria, globsPass, all_cons, all_nil, Bool.and_true,
    configured_namesReading, configured_domainsReading, configured_plainReading, any_beq_eq]
  ac_rfl

/-- **The compiled predicate is the configured match** exactly if the readings are consistent. -/
theorem compiled_iff_consistent {m : PolicyRuleMatch} {input : PolicyInput}
    (h : Clear isMatch names m input) :
    evaluatePredicate isMatch (compileRuleMatch names m) input = matchesRule isMatch m input ↔
      Consistent (readings isMatch names m input) := by
  rw [evaluatePredicate_compileRuleMatch isMatch names h, matchesRule_eq_readings isMatch names,
    all_compiled_eq_all_configured]

private theorem sum_listClause {α : Type} (clause : List α → RulePredicate) (weight : Nat)
    (hWeight : ∀ entries : List α, (clause entries).specificity = if !entries.isEmpty then weight
      else 0) (entries : List α) :
    ((listClause clause entries).map specificity).sum =
      if entries.isEmpty then 0 else weight := by
  unfold listClause
  split_ifs with hEmpty
  · rfl
  · simp [hWeight, hEmpty]

/-- No list of names is dropped: each one is empty or has a name that is known. -/
def Kept (m : PolicyRuleMatch) : Prop :=
  (m.actions = [] ∨ someKnown names ActionKind.all ActionKind.asStr m.actions) ∧
    (m.actors = [] ∨ someKnown names ActorKind.all ActorKind.asStr m.actors) ∧
    (m.surfaces = [] ∨ someKnown names PolicySurface.all PolicySurface.asStr m.surfaces)

private theorem isEmpty_of_kept {α : Type} {all : List α} {asStr : α → String}
    {entries : List String} (h : entries = [] ∨ someKnown names all asStr entries) :
    (entries.filterMap (parseUnit names all asStr)).isEmpty = entries.isEmpty := by
  rcases h with rfl | hKnown
  · rfl
  · rw [isEmpty_parsed, hKnown, Bool.not_true, eq_comm, isEmpty_eq_false_iff]
    rintro rfl
    cases hKnown

/-- Compilation keeps the specificity if it drops no list. -/
theorem specificity_compileRuleMatch {m : PolicyRuleMatch} (h : Kept names m) :
    (compileRuleMatch names m).specificity = m.specificity := by
  obtain ⟨hActions, hActors, hSurfaces⟩ := h
  rw [compileRuleMatch, specificity_joinClauses, clausesOf]
  simp only [map_append, sum_append, parsedClause_eq]
  rw [sum_listClause .actionIn 1 (fun _ => rfl), sum_listClause .actorIn 1 (fun _ => rfl),
    sum_listClause .surfaceIn 1 (fun _ => rfl), sum_listClause .paneIdIn 2 (fun _ => rfl),
    sum_listClause .paneTitleGlob 1 (fun _ => rfl), sum_listClause .paneCwdGlob 1 (fun _ => rfl),
    sum_listClause .domainIn 1 (fun _ => rfl), sum_listClause .commandRegex 2 (fun _ => rfl),
    sum_listClause .agentTypeIn 1 (fun _ => rfl), parseActionKind, parseActorKind,
    parsePolicySurface, isEmpty_of_kept names hActions, isEmpty_of_kept names hActors,
    isEmpty_of_kept names hSurfaces]
  rfl

/-! ## Selection -/

/-- The configured rule takes precedence: lower priority number, then the stricter decision,
then the higher specificity. -/
def Precedes (a b : PolicyRule) : Prop :=
  a.priority < b.priority ∨ a.priority = b.priority ∧
    (a.decision.priority < b.decision.priority ∨ a.decision.priority = b.decision.priority ∧
      b.matchOn.specificity < a.matchOn.specificity)

/-- The compiled rule takes precedence. -/
private def Beats (a b : PolicyRule) : Prop :=
  isDominated (compilePolicyRule names a) (compilePolicyRule names b) = false

private instance : DecidableRel (Beats names) := fun a b => by
  unfold Beats
  infer_instance

private theorem severity_compilePolicyRule (rule : PolicyRule) :
    (compilePolicyRule names rule).decision.severity = rule.decision.priority := by
  unfold compilePolicyRule
  cases rule.decision <;> rfl

private theorem beats_iff (a b : PolicyRule) :
    Beats names a b ↔ a.priority < b.priority ∨ a.priority = b.priority ∧
      (a.decision.priority < b.decision.priority ∨ a.decision.priority = b.decision.priority ∧
        (compileRuleMatch names b.matchOn).specificity <
          (compileRuleMatch names a.matchOn).specificity) := by
  have hPriority : ∀ rule, (compilePolicyRule names rule).priority = rule.priority := fun _ => rfl
  have hPredicate : ∀ rule,
      (compilePolicyRule names rule).predicate = compileRuleMatch names rule.matchOn := fun _ => rfl
  unfold Beats isDominated
  simp only [severity_compilePolicyRule, hPriority, hPredicate]
  split_ifs with hEq hSev
  · rw [decide_eq_false_iff_not]
    omega
  · rw [decide_eq_false_iff_not]
    omega
  · rw [decide_eq_false_iff_not]
    omega

/-- The rule matches in its compiled form. -/
private def hits (input : PolicyInput) (rule : PolicyRule) : Bool :=
  evaluatePredicate isMatch (compileRuleMatch names rule.matchOn) input

/-- What the loop keeps of a rule. -/
private def traced (input : PolicyInput) (rule : PolicyRule) : DslRule × PredicateTrace :=
  (compilePolicyRule names rule,
    evaluateWithTrace isMatch (compilePolicyRule names rule).predicate input)

/-- One turn of the loop on the best rule so far. -/
private theorem evaluateDslRule_best (input : PolicyInput)
    (state : List DslRuleEvaluation × Option (DslRule × PredicateTrace)) (rule : PolicyRule)
    {best : Option PolicyRule}
    (hBest : state.2 = best.map (traced isMatch names input)) :
    (evaluateDslRule isMatch input state (compilePolicyRule names rule)).2 =
      (if hits isMatch names input rule then pick (Beats names) best rule else best).map
        (traced isMatch names input) := by
  have hHits :
      (evaluateWithTrace isMatch (compilePolicyRule names rule).predicate input).isMatched =
        hits isMatch names input rule := isMatched_evaluateWithTrace isMatch _ input
  unfold evaluateDslRule
  simp only [hHits]
  cases hits isMatch names input rule with
  | false => simpa using hBest
  | true =>
    cases best with
    | none =>
      simp [hBest, pick, traced]
    | some b =>
      simp only [hBest, pick, Beats, traced, if_true, Option.map_some]
      by_cases hDominated :
          isDominated (compilePolicyRule names rule) (compilePolicyRule names b)
      · simp [hDominated, traced]
      · simp [hDominated, traced]

private theorem foldl_evaluateDslRule (input : PolicyInput) (rules : List PolicyRule) :
    ((rules.map (compilePolicyRule names)).foldl (evaluateDslRule isMatch input) ([], none)).2 =
      ((rules.filter (hits isMatch names input)).foldl (pick (Beats names)) none).map
        (traced isMatch names input) := by
  induction rules using List.reverseRecOn with
  | nil => rfl
  | append_singleton _ rule ih =>
    rw [map_append, foldl_append, map_singleton, foldl_cons, foldl_nil,
      evaluateDslRule_best isMatch names input _ rule ih, filter_append]
    cases hHits : hits isMatch names input rule with
    | false | true => simp [hHits]

private theorem find?_of_mem {rules : List PolicyRule} (hIds : (rules.map (·.id)).Nodup)
    {rule : PolicyRule} (hMem : rule ∈ rules) :
    rules.find? (fun other => other.id == rule.id) = some rule := by
  induction rules with
  | nil => simp at hMem
  | cons first _ ih =>
    rw [map_cons, nodup_cons] at hIds
    rcases mem_cons.mp hMem with rfl | hMem
    · simp
    · have hNe : first.id ≠ rule.id := fun hEq =>
        hIds.1 (mem_map.mpr ⟨rule, hMem, hEq.symm⟩)
      rw [find?_cons_of_neg (by simpa using hNe)]
      exact ih hIds.2 hMem

/-- The evaluation returns the rule that the loop over the matching rules keeps. -/
private theorem matchingRule_eq (hEnabled : config.enabled)
    (hIds : (config.rules.map (·.id)).Nodup) (input : PolicyInput) :
    (evaluatePolicyRules isMatch names config input).matchingRule =
      (config.rules.filter (hits isMatch names input)).foldl (pick (Beats names)) none := by
  unfold evaluatePolicyRules
  by_cases hEmpty : config.rules.isEmpty
  · rw [if_pos (by simp [hEmpty]), isEmpty_iff.mp hEmpty]
    rfl
  · rw [if_neg (by simp [hEnabled, hEmpty])]
    unfold evaluateDslRules
    simp only [foldl_evaluateDslRule, Option.map_map]
    cases hBest :
      (config.rules.filter (hits isMatch names input)).foldl (pick (Beats names)) none with
    | none => rfl
    | some rule =>
      have hMem : rule ∈ config.rules := by
        obtain ⟨before, after, hSplit, _⟩ := foldl_pick_eq_some (Beats names)
          (by intro x y z; simp only [beats_iff]; omega)
          (by intro x y z; simp only [beats_iff]; omega) hBest
        have hIn : rule ∈ config.rules.filter (hits isMatch names input) := by
          rw [hSplit]
          simp
        exact mem_of_mem_filter hIn
      exact find?_of_mem hIds hMem

/-- A rule that matches, and is read consistently, keeps its lists. -/
private theorem kept_of_matches {m : PolicyRuleMatch} {input : PolicyInput}
    (hMatch : matchesRule isMatch m input)
    (hSurfaces : m.surfaces = [] ∨
      someKnown names PolicySurface.all PolicySurface.asStr m.surfaces) : Kept names m := by
  rw [matchesRule_eq] at hMatch
  simp only [Bool.and_eq_true] at hMatch
  exact ⟨kept_of_listed names mem_actionKind plain_actionKind hMatch.1,
    kept_of_listed names mem_actorKind plain_actorKind hMatch.2.1, hSurfaces⟩

/-- **Compiled rules mean what the configuration says.**  Where the globs are clear the compiled
predicate is the configured match exactly if the readings of the criteria are consistent.  Among
rules that are read so, and keep their surfaces, the evaluation selects the one that takes
precedence among the matching ones, the first of several. -/
theorem compiled_rules_mean_config (isMatch : String → String → Bool) (names : JsonNames) :
    (∀ (m : PolicyRuleMatch) (input : PolicyInput), Clear isMatch names m input →
      (evaluatePredicate isMatch (compileRuleMatch names m) input = matchesRule isMatch m input ↔
        Consistent (readings isMatch names m input))) ∧
    (∀ (config : PolicyRulesConfig) (input : PolicyInput), config.enabled = true →
      (config.rules.map (·.id)).Nodup →
      (∀ rule ∈ config.rules, Clear isMatch names rule.matchOn input ∧
        Consistent (readings isMatch names rule.matchOn input) ∧
        (rule.matchOn.surfaces = [] ∨
          someKnown names PolicySurface.all PolicySurface.asStr rule.matchOn.surfaces)) →
      let matching := config.rules.filter fun rule => matchesRule isMatch rule.matchOn input
      ((evaluatePolicyRules isMatch names config input).matchingRule = none ↔ matching = []) ∧
        ∀ rule, (evaluatePolicyRules isMatch names config input).matchingRule = some rule →
          ∃ before after, matching = before ++ rule :: after ∧
            (∀ other ∈ before, Precedes rule other) ∧ ∀ other ∈ after, ¬Precedes other rule) := by
  refine ⟨fun _ _ hClear => compiled_iff_consistent isMatch names hClear,
    fun config input hEnabled hIds hRead => ?_⟩
  have hMatching : config.rules.filter (fun rule => matchesRule isMatch rule.matchOn input) =
      config.rules.filter (hits isMatch names input) :=
    filter_congr fun rule hRule => by
      obtain ⟨hClear, hConsistent, _⟩ := hRead rule hRule
      exact ((compiled_iff_consistent isMatch names hClear).mpr hConsistent).symm
  have hKept : ∀ rule ∈ config.rules.filter fun rule => matchesRule isMatch rule.matchOn input,
      Kept names rule.matchOn := by
    intro rule hRule
    obtain ⟨hMem, hMatch⟩ := mem_filter.mp hRule
    exact kept_of_matches isMatch names hMatch (hRead rule hMem).2.2
  have hBeats : ∀ a b, Kept names a.matchOn → Kept names b.matchOn →
      (Beats names a b ↔ Precedes a b) := by
    intro a b ha hb
    rw [beats_iff, specificity_compileRuleMatch names ha, specificity_compileRuleMatch names hb,
      Precedes]
  rw [hMatching] at hKept ⊢
  rw [matchingRule_eq isMatch names hEnabled hIds]
  refine ⟨foldl_pick_eq_none (Beats names), fun rule hRule => ?_⟩
  obtain ⟨before, after, hSplit, hBefore, hAfter⟩ := foldl_pick_eq_some (Beats names)
    (by intro x y z; simp only [beats_iff]; omega)
    (by intro x y z; simp only [beats_iff]; omega) hRule
  rw [hSplit] at hKept
  have hThis := hKept rule (by simp)
  refine ⟨before, after, hSplit, fun other hOther => ?_, fun other hOther => ?_⟩
  · exact (hBeats rule other hThis (hKept other (by simp [hOther]))).mp (hBefore other hOther)
  · rw [← hBeats other rule (hKept other (by simp [hOther])) hThis]
    exact hAfter other hOther

/-- Two rules for sending text, of which the stricter one wins, though the other says more. -/
private def sendRules : PolicyRulesConfig where
  rules :=
    [{ id := "allow-send", decision := .allow,
       matchOn := { actions := ["send_text"], paneDomains := ["prod", "PROD"],
                    paneTitles := ["café"] } },
     { id := "deny-send", decision := .deny, matchOn := { actions := ["send_text"] } }]

private def sendInput : PolicyInput :=
  { PolicyInput.new .sendText .robot with domain := some "prod", paneTitle := some "café" }

private theorem clear_send : ∀ rule ∈ sendRules.rules,
    Clear (fun _ _ => false) .plain rule.matchOn sendInput := by
  have hTitle : GlobsClear "café" ["café"] :=
    ⟨fun _ _ hMeets => absurd hMeets.mem.1 (by decide), fun _ => trivial⟩
  intro rule hRule _
  simp only [sendRules, mem_cons, not_mem_nil, or_false] at hRule
  rcases hRule with rfl | rfl
  · exact ⟨by simpa [sendInput] using hTitle, by simp [sendInput, PolicyInput.new]⟩
  · exact ⟨by simp [sendInput, GlobsClear], by simp [sendInput, PolicyInput.new]⟩

theorem compiled_rules_mean_config_send :
    (∀ rule ∈ sendRules.rules,
      Consistent (readings (fun _ _ => false) .plain rule.matchOn sendInput)) ∧
    (evaluatePolicyRules (fun _ _ => false) .plain sendRules sendInput).matchingRule.map (·.id) =
      some "deny-send" := by
  have hConsistent : ∀ rule ∈ sendRules.rules,
      Consistent (readings (fun _ _ => false) .plain rule.matchOn sendInput) := by decide +kernel
  refine ⟨hConsistent, ?_⟩
  obtain ⟨hNone, hSome⟩ := (compiled_rules_mean_config (fun _ _ => false) .plain).2 sendRules
    sendInput rfl (by decide) fun rule hRule =>
      ⟨clear_send rule hRule, hConsistent rule hRule, .inl (by revert rule; decide)⟩
  have hMatching : sendRules.rules.filter
      (fun rule => matchesRule (fun _ _ => false) rule.matchOn sendInput) = sendRules.rules := by
    decide +kernel
  rw [hMatching] at hNone hSome
  cases hRule :
    (evaluatePolicyRules (fun _ _ => false) .plain sendRules sendInput).matchingRule with
  | none => exact absurd (hNone.mp hRule) (by decide)
  | some rule =>
    rcases hSome rule hRule with ⟨before, after, hSplit, _, hAfter⟩
    cases before with
    | nil =>
      obtain ⟨rfl, rfl⟩ := List.cons.inj hSplit
      exact absurd (.inr ⟨rfl, .inl (by decide)⟩) (hAfter _ mem_cons_self)
    | cons _ before =>
      obtain ⟨_, hRest⟩ := List.cons.inj hSplit
      cases before with
      | nil =>
        obtain ⟨rfl, _⟩ := List.cons.inj hRest
        rfl
      | cons => simp at hRest

/-- An allow rule for an action that is misspelt: no input matches it as it is written, and
compiled it matches, and allows, every input. -/
theorem misspelt_action_allows_everything :
    let m : PolicyRuleMatch := { actions := ["send_txt"] }
    let config : PolicyRulesConfig :=
      { rules := [{ id := "typo", matchOn := m, decision := .allow }] }
    let input := PolicyInput.new .deleteFile .robot
    matchesRule (fun _ _ => false) m input = false ∧
      evaluatePredicate (fun _ _ => false) (compileRuleMatch .plain m) input ∧
      (evaluatePolicyRules (fun _ _ => false) .plain config input).decision = some .allow := by
  decide +kernel

end FrankenTerm.Ports.PolicyRules
