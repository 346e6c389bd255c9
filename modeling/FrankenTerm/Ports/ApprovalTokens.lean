import FrankenTerm.Ports.PolicyTypes
import FrankenTerm.Verified.Check
import FrankenTerm.Verified.Delimited
import FrankenTerm.Verified.Marked

/-!
# Allow-once approvals

`approval.rs` issues an allow-once code for an input and stores a token with the fingerprint of
the input; a later input consumes the token when it presents the code and has the same
fingerprint.  The fingerprint is the hash of a string that joins ten fields of the input with
`|name=` between them.  The texts among the fields are not escaped, and an absent text is written
like an empty one, so different inputs can have the same fingerprint.

`Separated` and `Complete` say when an input shares its fingerprint with no other one: no text
contains the marker before or after it, and every optional text is there and not empty.

The storage is the table of tokens and the recorded panes.  Cancellation and the audit record,
which can only turn a consumption into an error, are left out, and SHA-256 is a parameter.

## Main results

* `canonical_eq_iff` — what two inputs with one canonical string have in common.
* `fingerprint_binds_iff` — when an input is bound by its fingerprint.
* `consume_granted` — a consumed token was issued for an input with the same fingerprint.
* `approval_is_bound` — the two together, over every history of the store.
* `approval_moves_to_another_input` — an approval of one text used for another.
-/

namespace FrankenTerm.Ports.ApprovalTokens

open Verified Verified.Delimited Verified.Marked PolicyTypes String

/-! ## The fingerprint -/

section

variable (input : PolicyInput)

/-- The string that `fingerprint_for_input` hashes. -/
def canonical : String :=
  "action_kind=" ++ input.action.asStr ++ "|" ++
  "surface=" ++ input.surface.asStr ++ "|" ++
  "pane_id=" ++ (input.paneId.map toString).getD "" ++ "|" ++
  "domain=" ++ input.domain.getD "" ++ "|" ++
  "text_summary=" ++ input.textSummary.getD "" ++ "|" ++
  "workflow_id=" ++ input.workflowId.getD "" ++ "|" ++
  "command_text=" ++ input.commandText.getD "" ++ "|" ++
  "agent_type=" ++ input.agentType.getD "" ++ "|" ++
  "pane_title=" ++ input.paneTitle.getD "" ++ "|" ++
  "pane_cwd=" ++ input.paneCwd.getD ""

/-- `fingerprint_for_input`. -/
def fingerprintForInput (sha256Hex : String → String) (input : PolicyInput) : String :=
  "sha256:" ++ sha256Hex (canonical input)

/-- `hash_allow_once_code`. -/
def hashAllowOnceCode (sha256Hex : String → String) (code : String) : String :=
  "sha256:" ++ sha256Hex code

/-- The fields of an input that an approval is meant to fix. -/
structure ApprovedFields where
  action : ActionKind
  surface : PolicySurface
  paneId : Option Nat
  domain : Option String
  textSummary : Option String
  workflowId : Option String
  commandText : Option String
  agentType : Option String
  paneTitle : Option String
  paneCwd : Option String
deriving DecidableEq, Repr

def approved : ApprovedFields where
  action := input.action
  surface := input.surface
  paneId := input.paneId
  domain := input.domain
  textSummary := input.textSummary
  workflowId := input.workflowId
  commandText := input.commandText
  agentType := input.agentType
  paneTitle := input.paneTitle
  paneCwd := input.paneCwd

/-! ## Reading the string back -/

/-- The texts among the approved fields. -/
def texts : List (Option String) :=
  [input.domain, input.textSummary, input.workflowId, input.commandText, input.agentType,
    input.paneTitle, input.paneCwd]

/-- What the string holds of an optional text. -/
def spelt (text : Option String) : List Char := (text.getD "").toList

/-- The marker of a field. -/
def marker (name : String) : List Char := "|".toList ++ name.toList

/-- The markers and fields after the domain. -/
def markedFields : List (List Char × List Char) :=
  [(marker "text_summary=", spelt input.textSummary),
    (marker "workflow_id=", spelt input.workflowId),
    (marker "command_text=", spelt input.commandText),
    (marker "agent_type=", spelt input.agentType),
    (marker "pane_title=", spelt input.paneTitle),
    (marker "pane_cwd=", spelt input.paneCwd)]

/-- No text contains the marker before or after it. -/
def Separated : Prop := Clear (spelt input.domain) (markedFields input)

/-- Every optional text is there and not empty. -/
def Complete : Prop := ∀ text ∈ texts input, text ≠ none ∧ text ≠ some ""

instance (input : PolicyInput) : Decidable (Separated input) :=
  inferInstanceAs (Decidable (Clear _ _))

instance (input : PolicyInput) : Decidable (Complete input) :=
  inferInstanceAs (Decidable (∀ text ∈ texts input, text ≠ none ∧ text ≠ some ""))

end

private theorem markedFields_barred (input : PolicyInput) :
    ∀ entry ∈ markedFields input, Barred '|' entry.1 := by
  have hMarker : ∀ name : String, '|' ∉ name.toList → Barred '|' (marker name) :=
    fun name hName => ⟨name.toList, rfl, hName⟩
  simp only [markedFields, List.forall_mem_cons, List.not_mem_nil, false_implies, implies_true,
    and_true]
  exact ⟨hMarker _ (by decide), hMarker _ (by decide), hMarker _ (by decide),
    hMarker _ (by decide), hMarker _ (by decide), hMarker _ (by decide)⟩

/-- The string from the domain on. -/
private def fromDomain (input : PolicyInput) : String :=
  String.ofList (marked (spelt input.domain) (markedFields input))

private theorem canonical_eq (input : PolicyInput) :
    canonical input = ("action_kind=" ++ input.action.asStr) ++ (String.singleton '|' ++
      (("surface=" ++ input.surface.asStr) ++ (String.singleton '|' ++
        (("pane_id=" ++ orWord "" toString input.paneId) ++ (String.singleton '|' ++
          ("domain=" ++ fromDomain input)))))) := by
  have hPane : (input.paneId.map toString).getD "" = orWord "" toString input.paneId := by
    cases input.paneId with
    | none => rfl
    | some => rfl
  apply toList_injective
  unfold canonical fromDomain
  rw [hPane]
  simp [marked, markedFields, spelt, marker]

private theorem action_plain (action : ActionKind) :
    Plain ['|'] ("action_kind=" ++ action.asStr) := by
  cases action <;> decide

private theorem surface_plain (surface : PolicySurface) :
    Plain ['|'] ("surface=" ++ surface.asStr) := by
  cases surface <;> decide

private theorem paneId_plain (paneId : Option Nat) :
    Plain ['|'] ("pane_id=" ++ orWord "" toString paneId) := by
  rw [plain_append]
  refine ⟨by decide, ?_⟩
  cases paneId with
  | none => decide
  | some n => exact plain_nat (by decide) n

private theorem injective_of_find? {α : Type} {all : List α} {asStr : α → String}
    (hFind : ∀ kind, all.find? (fun other => asStr other == asStr kind) = some kind) :
    Function.Injective asStr := by
  intro a b h
  have hFound := hFind a
  rw [h, hFind b] at hFound
  exact (Option.some.inj hFound).symm

/-- **What two inputs with one canonical string have in common**: the action, the surface, the
pane and the text from the domain on. -/
theorem canonical_eq_iff (a b : PolicyInput) :
    canonical a = canonical b ↔ a.action = b.action ∧ a.surface = b.surface ∧ a.paneId = b.paneId ∧
      marked (spelt a.domain) (markedFields a) = marked (spelt b.domain) (markedFields b) := by
  rw [canonical_eq, canonical_eq]
  constructor
  · intro h
    obtain ⟨hAction, h⟩ := @keyed_inj ['|'] '|' (by simp) _ _ _ _ (action_plain a.action)
      (action_plain b.action) h
    obtain ⟨hSurface, h⟩ := @keyed_inj ['|'] '|' (by simp) _ _ _ _ (surface_plain a.surface)
      (surface_plain b.surface) h
    obtain ⟨hPane, h⟩ := @keyed_inj ['|'] '|' (by simp) _ _ _ _ (paneId_plain a.paneId)
      (paneId_plain b.paneId) h
    have hText := (append_right_inj _).mp h
    refine ⟨injective_of_find? find?_actionKind ((append_right_inj _).mp hAction),
      injective_of_find? find?_policySurface ((append_right_inj _).mp hSurface),
      orWord_nat_inj (by decide) ((append_right_inj _).mp hPane), ?_⟩
    simpa [fromDomain] using congrArg toList hText
  · rintro ⟨hAction, hSurface, hPane, hText⟩
    rw [hAction, hSurface, hPane, fromDomain, fromDomain, hText]

/-- A text that is there and not empty is told from every other one. -/
private theorem text_eq_of_spelt_eq {a b : Option String} (hNone : b ≠ none) (hEmpty : b ≠ some "")
    (h : spelt a = spelt b) : a = b := by
  have hText : a.getD "" = b.getD "" := toList_injective h
  cases b with
  | none => exact absurd rfl hNone
  | some =>
    cases a with
    | none => exact absurd (congrArg some hText.symm) hEmpty
    | some => exact congrArg some hText

/-- The other way to write a text that is not there, or empty. -/
private def respelt : Option String → Option String
  | none => some ""
  | some text => if text = "" then none else some text

private theorem spelt_respelt (text : Option String) : spelt (respelt text) = spelt text := by
  cases text with
  | none => rfl
  | some =>
    simp only [respelt]
    split_ifs with h
    · rw [h]
      rfl
    · rfl

private theorem respelt_eq_self {text : Option String} (h : respelt text = text) :
    text ≠ none ∧ text ≠ some "" := by
  cases text with
  | none => cases h
  | some =>
    refine ⟨nofun, ?_⟩
    rintro ⟨rfl⟩
    cases h

/-- The input with other texts. -/
private def withTexts (input : PolicyInput)
    (domain text workflow command agent title cwd : Option String) : PolicyInput :=
  { input with
    domain := domain
    textSummary := text
    workflowId := workflow
    commandText := command
    agentType := agent
    paneTitle := title
    paneCwd := cwd }

variable {input other : PolicyInput} {record : Option ApprovalTokenRecord} {db' db : ApprovalDb}
  {now : Int} {sha256Hex : String → String} {store : ApprovalStore} {code : String}

private theorem approved_eq_of_canonical_eq (hSeparated : Separated input)
    (hComplete : Complete input) (h : canonical other = canonical input) :
    approved other = approved input := by
  obtain ⟨hAction, hSurface, hPane, hText⟩ := (canonical_eq_iff other input).mp h
  have hMarkers : (markedFields other).map Prod.fst = (markedFields input).map Prod.fst := rfl
  obtain ⟨hDomain, hFields⟩ :=
    reading_unique (markedFields_barred input) hSeparated hMarkers hText
  simp only [markedFields, List.cons.injEq, Prod.mk.injEq, true_and, and_true] at hFields
  obtain ⟨h1, h2, h3, h4, h5, h6⟩ := hFields
  have hEach : ∀ text ∈ texts input, ∀ text', spelt text' = spelt text → text' = text :=
    fun text hMem text' hEq => text_eq_of_spelt_eq (hComplete text hMem).1 (hComplete text hMem).2 hEq
  unfold approved
  rw [hAction, hSurface, hPane, hEach input.domain (by simp [texts]) _ hDomain,
    hEach input.textSummary (by simp [texts]) _ h1, hEach input.workflowId (by simp [texts]) _ h2,
    hEach input.commandText (by simp [texts]) _ h3, hEach input.agentType (by simp [texts]) _ h4,
    hEach input.paneTitle (by simp [texts]) _ h5, hEach input.paneCwd (by simp [texts]) _ h6]

private theorem separated_of_bound
    (h : ∀ other, canonical other = canonical input → approved other = approved input) :
    Separated input := by
  refine (reading_unique_iff (markedFields_barred input)).mp ?_
  intro domain fields hMarkers hText
  -- The second reading as an input of its own.
  match fields, hMarkers with
  | [(m1, f1), (m2, f2), (m3, f3), (m4, f4), (m5, f5), (m6, f6)], hMarkers =>
    obtain ⟨rfl, rfl, rfl, rfl, rfl, rfl⟩ := hMarkers
    let read : List Char → Option String := fun field => some (ofList field)
    let other := withTexts input (read domain) (read f1) (read f2) (read f3) (read f4) (read f5)
      (read f6)
    have hSpelt : ∀ field, spelt (read field) = field := fun field => toList_ofList
    have hOther : markedFields other = [(marker "text_summary=", f1), (marker "workflow_id=", f2),
        (marker "command_text=", f3), (marker "agent_type=", f4), (marker "pane_title=", f5),
        (marker "pane_cwd=", f6)] := by
      simp only [markedFields, other, withTexts, hSpelt]
    have hDomain : spelt other.domain = domain := hSpelt domain
    have hSame : canonical other = canonical input :=
      (canonical_eq_iff other input).mpr ⟨rfl, rfl, rfl, by rw [hDomain, hOther]; exact hText⟩
    have hApproved := h other hSame
    have hFields : markedFields other = markedFields input := by
      unfold markedFields
      rw [show other.textSummary = input.textSummary from
          congrArg ApprovedFields.textSummary hApproved,
        show other.workflowId = input.workflowId from congrArg ApprovedFields.workflowId hApproved,
        show other.commandText = input.commandText from
          congrArg ApprovedFields.commandText hApproved,
        show other.agentType = input.agentType from congrArg ApprovedFields.agentType hApproved,
        show other.paneTitle = input.paneTitle from congrArg ApprovedFields.paneTitle hApproved,
        show other.paneCwd = input.paneCwd from congrArg ApprovedFields.paneCwd hApproved]
    refine ⟨?_, hOther.symm.trans hFields⟩
    rw [← hDomain, show other.domain = input.domain from congrArg ApprovedFields.domain hApproved]

private theorem complete_of_bound
    (h : ∀ other, canonical other = canonical input → approved other = approved input) :
    Complete input := by
  let other := withTexts input (respelt input.domain) (respelt input.textSummary)
    (respelt input.workflowId) (respelt input.commandText) (respelt input.agentType)
    (respelt input.paneTitle) (respelt input.paneCwd)
  have hSame : canonical other = canonical input := by
    refine (canonical_eq_iff other input).mpr ⟨rfl, rfl, rfl, ?_⟩
    simp only [markedFields, other, withTexts, spelt_respelt]
  have hApproved := h other hSame
  simp only [Complete, texts, List.forall_mem_cons, List.not_mem_nil, false_implies, implies_true,
    and_true]
  exact ⟨respelt_eq_self (congrArg ApprovedFields.domain hApproved),
    respelt_eq_self (congrArg ApprovedFields.textSummary hApproved),
    respelt_eq_self (congrArg ApprovedFields.workflowId hApproved),
    respelt_eq_self (congrArg ApprovedFields.commandText hApproved),
    respelt_eq_self (congrArg ApprovedFields.agentType hApproved),
    respelt_eq_self (congrArg ApprovedFields.paneTitle hApproved),
    respelt_eq_self (congrArg ApprovedFields.paneCwd hApproved)⟩

/-- **An input is bound by its fingerprint** exactly if no text contains the marker before or after
it, and every optional text is there and not empty. -/
theorem fingerprint_binds_iff (hSha : Function.Injective sha256Hex) (input : PolicyInput) :
    (∀ other, fingerprintForInput sha256Hex other = fingerprintForInput sha256Hex input →
      approved other = approved input) ↔ Separated input ∧ Complete input := by
  simp only [fingerprintForInput, append_right_inj, hSha.eq_iff]
  constructor
  · exact fun h => ⟨separated_of_bound h, complete_of_bound h⟩
  · exact fun ⟨hSeparated, hComplete⟩ other h =>
      approved_eq_of_canonical_eq hSeparated hComplete h

/-! ## The store -/

/-- `ApprovalTokenRecord`, a row of `approval_tokens`. -/
structure ApprovalTokenRecord where
  id : Nat
  codeHash : String
  createdAt : Int
  expiresAt : Int
  usedAt : Option Int
  workspaceId : String
  actionKind : String
  paneId : Option Nat
  actionFingerprint : String
  planHash : Option String
  planVersion : Option Int
  riskSummary : Option String
deriving DecidableEq, Repr

/-- The recorded panes and the tokens. -/
structure ApprovalDb where
  panes : List Nat := []
  tokens : List ApprovalTokenRecord := []
deriving DecidableEq, Repr

/-- The token can still be consumed. -/
def ApprovalTokenRecord.isActive (token : ApprovalTokenRecord) (now : Int) : Bool :=
  token.usedAt.isNone && decide (now ≤ token.expiresAt)

namespace ApprovalDb

def i64Max : Nat := 2 ^ 63 - 1

/-- `u64_to_i64` on an optional pane id. -/
def checkPaneId (paneId : Option Nat) : Except String Unit :=
  let value := paneId.getD 0
  Check.refuseIf (i64Max < value) s!"pane_id value {value} exceeds i64 range"

/-- `query_active_approvals_count_backend`. -/
def activeCount (db : ApprovalDb) (workspaceId : String) (now : Int) : Nat :=
  db.tokens.countP fun token => token.workspaceId == workspaceId && token.isActive now

/-- `insert_approval_token_backend`.  The index on the code hash is unique, and the pane has to be
recorded. -/
def insertApprovalToken (db : ApprovalDb) (token : ApprovalTokenRecord) :
    Except String ApprovalDb := do
  checkPaneId token.paneId
  Check.refuseIf (db.tokens.any (·.codeHash == token.codeHash) = true)
    "Failed to insert approval token"
  Check.refuseIf (token.paneId.all db.panes.contains = false) "Failed to insert approval token"
  .ok { db with tokens := db.tokens ++ [{ token with id := db.tokens.length + 1 }] }

/-- `consume_approval_token_backend`.  An input without a pane does not restrict the pane. -/
def consumeApprovalToken (db : ApprovalDb) (now : Int) (codeHash workspaceId actionKind : String)
    (paneId : Option Nat) (actionFingerprint : String) :
    Except String (Option ApprovalTokenRecord × ApprovalDb) := do
  checkPaneId paneId
  let hit := db.tokens.find? fun token =>
    token.codeHash == codeHash && token.workspaceId == workspaceId &&
      token.actionKind == actionKind && token.actionFingerprint == actionFingerprint &&
      token.isActive now && (paneId.isNone || token.paneId == paneId)
  match hit with
  | none => .ok (none, db)
  | some token =>
    let used := { token with usedAt := some now }
    .ok (some used,
      { db with tokens := db.tokens.map fun other => if other.id = token.id then
          { other with usedAt := some now } else other })

end ApprovalDb

/-- `ApprovalStore` with the fields of `ApprovalConfig` that it reads. -/
structure ApprovalStore where
  sha256Hex : String → String
  tokenExpirySecs : Nat
  maxActiveTokens : Nat
  workspaceId : String

/-- What binds a token to a plan. -/
structure PlanBinding where
  planHash : String
  planVersion : Option Int
  riskSummary : Option String
deriving DecidableEq, Repr

namespace ApprovalStore

/-- `expiry_ms`. -/
def expiryMs (secs : Nat) : Int := min (secs * 1000) ApprovalDb.i64Max

/-- `issue` and, with a plan, `issue_for_plan`.  The code is the random one. -/
def issue (store : ApprovalStore) (db : ApprovalDb) (now : Int) (code : String)
    (input : PolicyInput) (plan : Option PlanBinding) : Except String ApprovalDb := do
  let paneId := input.paneId.getD 0
  Check.refuseIf (input.paneId.all db.panes.contains = false)
    s!"pane {paneId} is not recorded in this workspace yet, so no approval code can be scoped to it; start `ft watch` in this workspace, wait for it to observe the pane, then retry"
  let active := db.activeCount store.workspaceId now
  let limit := store.maxActiveTokens
  Check.refuseIf (limit ≤ active) s!"Approval token limit reached ({active}/{limit})"
  db.insertApprovalToken
    { id := 0
      codeHash := hashAllowOnceCode store.sha256Hex code
      createdAt := now
      expiresAt := min (now + expiryMs store.tokenExpirySecs) ApprovalDb.i64Max
      usedAt := none
      workspaceId := store.workspaceId
      actionKind := input.action.asStr
      paneId := input.paneId
      actionFingerprint := fingerprintForInput store.sha256Hex input
      planHash := plan.map PlanBinding.planHash
      planVersion := plan.bind PlanBinding.planVersion
      riskSummary := plan.bind PlanBinding.riskSummary }

/-- `consume`. -/
def consume (store : ApprovalStore) (db : ApprovalDb) (now : Int) (code : String)
    (input : PolicyInput) : Except String (Option ApprovalTokenRecord × ApprovalDb) :=
  db.consumeApprovalToken now (hashAllowOnceCode store.sha256Hex code) store.workspaceId
    input.action.asStr input.paneId (fingerprintForInput store.sha256Hex input)

/-- `consume_for_plan`.  A token for another plan, or for none, is used up and not returned. -/
def consumeForPlan (store : ApprovalStore) (db : ApprovalDb) (now : Int) (code : String)
    (input : PolicyInput) (planHash : String) :
    Except String (Option ApprovalTokenRecord × ApprovalDb) := do
  let (record, db) ← store.consume db now code input
  match record with
  | some token => if token.planHash = some planHash then .ok (some token, db) else .ok (none, db)
  | none => .ok (none, db)

end ApprovalStore

/-! ## Histories -/

/-- What happens to the store. -/
inductive StoreCall where
  | recordPane (paneId : Nat)
  | deletePane (paneId : Nat)
  | issue (now : Int) (code : String) (input : PolicyInput) (plan : Option PlanBinding)
  | consume (now : Int) (code : String) (input : PolicyInput)
  | consumeForPlan (now : Int) (code : String) (input : PolicyInput) (planHash : String)

namespace ApprovalStore

/-- One call; a refused one changes nothing.  Deleting a pane clears it in its tokens. -/
def step (store : ApprovalStore) (db : ApprovalDb) : StoreCall → ApprovalDb
  | .recordPane paneId => { db with panes := paneId :: db.panes }
  | .deletePane paneId =>
    { panes := db.panes.filter (· ≠ paneId)
      tokens := db.tokens.map fun token =>
        if token.paneId = some paneId then { token with paneId := none } else token }
  | .issue now code input plan =>
    match store.issue db now code input plan with
    | .ok db' => db'
    | .error _ => db
  | .consume now code input =>
    match store.consume db now code input with
    | .ok (_, db') => db'
    | .error _ => db
  | .consumeForPlan now code input planHash =>
    match store.consumeForPlan db now code input planHash with
    | .ok (_, db') => db'
    | .error _ => db

/-- The store after a history. -/
def run (store : ApprovalStore) (calls : List StoreCall) : ApprovalDb :=
  calls.foldl store.step {}

end ApprovalStore

/-- The token stems from an issue call for the input with that code. -/
def GrantedFor (store : ApprovalStore) (token : ApprovalTokenRecord) (code : String)
    (input : PolicyInput) : Prop :=
  token.codeHash = hashAllowOnceCode store.sha256Hex code ∧
    token.actionFingerprint = fingerprintForInput store.sha256Hex input

/-- Every token of the second table has the code and the fingerprint of one of the first. -/
private def Stems (tokens tokens' : List ApprovalTokenRecord) : Prop :=
  ∀ token ∈ tokens', ∃ old ∈ tokens, old.codeHash = token.codeHash ∧
    old.actionFingerprint = token.actionFingerprint

private theorem stems_map {tokens : List ApprovalTokenRecord}
    {f : ApprovalTokenRecord → ApprovalTokenRecord} (hCode : ∀ t, (f t).codeHash = t.codeHash)
    (hPrint : ∀ t, (f t).actionFingerprint = t.actionFingerprint) :
    Stems tokens (tokens.map f) := by
  intro token hMem
  obtain ⟨old, hOld, rfl⟩ := List.mem_map.mp hMem
  exact ⟨old, hOld, (hCode old).symm, (hPrint old).symm⟩

/-- A consumption returns a token of the table that fits, and keeps codes and fingerprints. -/
private theorem consumeApprovalToken_ok {codeHash workspaceId actionKind fingerprint : String}
    {paneId : Option Nat}
    (h : db.consumeApprovalToken now codeHash workspaceId actionKind paneId fingerprint = .ok
      (record, db')) :
    Stems db.tokens db'.tokens ∧ ∀ token ∈ record, ∃ old ∈ db.tokens,
      old.codeHash = codeHash ∧ old.actionFingerprint = fingerprint := by
  obtain ⟨_, h⟩ := Check.unit_bind_eq_ok.mp h
  dsimp only at h
  split at h
  · cases h
    exact ⟨fun token hMem => ⟨token, hMem, rfl, rfl⟩, nofun⟩
  · rename_i token hFound
    cases h
    refine ⟨stems_map ?_ ?_, ?_⟩
    · intro t
      split_ifs <;> rfl
    · intro t
      split_ifs <;> rfl
    · intro used _
      have hFits := List.find?_some hFound
      simp only [Bool.and_eq_true, beq_iff_eq] at hFits
      exact ⟨token, List.mem_of_find?_eq_some hFound, hFits.1.1.1.1.1, hFits.1.1.2⟩

private theorem consumeForPlan_ok {planHash : String}
    (h : store.consumeForPlan db now code input planHash = .ok (record, db')) :
    ∃ record', store.consume db now code input = .ok (record', db') ∧
      ∀ token ∈ record, token ∈ record' := by
  obtain ⟨⟨record', db''⟩, hConsume, h⟩ := Check.bind_eq_ok.mp h
  dsimp only at h
  repeat' split at h
  all_goals cases h
  · exact ⟨_, hConsume, fun token hMem => hMem⟩
  · exact ⟨_, hConsume, nofun⟩
  · exact ⟨_, hConsume, nofun⟩

open ApprovalStore

/-- **One call** adds at most the token that it issues. -/
theorem step_tokens (store : ApprovalStore) (db : ApprovalDb) (call : StoreCall) :
    ∀ token ∈ (store.step db call).tokens, (∃ old ∈ db.tokens, old.codeHash = token.codeHash ∧
        old.actionFingerprint = token.actionFingerprint) ∨
      ∃ now code input plan, call = .issue now code input plan ∧
        GrantedFor store token code input := by
  intro token hMem
  cases call with
  | recordPane => exact .inl ⟨token, hMem, rfl, rfl⟩
  | deletePane paneId =>
    left
    refine stems_map (f := fun token =>
      if token.paneId = some paneId then { token with paneId := none } else token) ?_ ?_ token hMem
    · intro t
      split_ifs <;> rfl
    · intro t
      split_ifs <;> rfl
  | issue now code input plan =>
    unfold step at hMem
    dsimp only at hMem
    split at hMem
    · rename_i db' hIssue
      unfold issue ApprovalDb.insertApprovalToken at hIssue
      simp only [Check.unit_bind_eq_ok, Except.ok.injEq] at hIssue
      obtain ⟨_, _, _, _, _, rfl⟩ := hIssue
      rcases List.mem_append.mp hMem with hOld | hNew
      · exact .inl ⟨token, hOld, rfl, rfl⟩
      · rw [List.mem_singleton.mp hNew]
        exact .inr ⟨now, code, input, plan, rfl, rfl, rfl⟩
    · exact .inl ⟨token, hMem, rfl, rfl⟩
  | consume =>
    left
    unfold step at hMem
    dsimp only at hMem
    split at hMem
    · rename_i record db' hConsume
      exact (consumeApprovalToken_ok hConsume).1 token hMem
    · exact ⟨token, hMem, rfl, rfl⟩
  | consumeForPlan =>
    left
    unfold step at hMem
    dsimp only at hMem
    split at hMem
    · rename_i record db' hConsume
      obtain ⟨record', hPlain, _⟩ := consumeForPlan_ok hConsume
      exact (consumeApprovalToken_ok hPlain).1 token hMem
    · exact ⟨token, hMem, rfl, rfl⟩

/-- **Every token was issued.** -/
theorem run_tokens (store : ApprovalStore) (calls : List StoreCall) :
    ∀ token ∈ (store.run calls).tokens, ∃ now code input plan,
      .issue now code input plan ∈ calls ∧ GrantedFor store token code input := by
  induction calls using List.reverseRecOn with
  | nil => exact nofun
  | append_singleton calls call ih =>
    intro token hMem
    rw [run, List.foldl_append] at hMem
    rcases step_tokens store (store.run calls) call token hMem with
      ⟨old, hOld, hCode, hPrint⟩ | ⟨now, code, input, plan, rfl, hGranted⟩
    · obtain ⟨now, code, input, plan, hCall, hGranted⟩ := ih old hOld
      exact ⟨now, code, input, plan, by simp [hCall],
        hCode.symm.trans hGranted.1, hPrint.symm.trans hGranted.2⟩
    · exact ⟨now, code, input, plan, by simp, hGranted⟩

/-- The input consumes a token with the code, on its own or for a plan. -/
def Consumes (store : ApprovalStore) (db : ApprovalDb) (code : String) (input : PolicyInput) :
    Prop :=
  ∃ now token db', store.consume db now code input = .ok (some token, db') ∨
    ∃ planHash, store.consumeForPlan db now code input planHash = .ok (some token, db')

/-- **What is consumed was issued** with the same code for an input with the same fingerprint. -/
theorem consume_granted (hSha : Function.Injective store.sha256Hex) {calls : List StoreCall}
    (h : Consumes store (store.run calls) code other) :
    ∃ now input plan, .issue now code input plan ∈ calls ∧
      fingerprintForInput store.sha256Hex other = fingerprintForInput store.sha256Hex input := by
  obtain ⟨now, token, db', h⟩ := h
  have hPlain : ∃ record', store.consume (store.run calls) now code other = .ok (record', db') ∧
      token ∈ record' := by
    rcases h with h | ⟨planHash, h⟩
    · exact ⟨_, h, rfl⟩
    · obtain ⟨record', hConsume, hSome⟩ := consumeForPlan_ok h
      exact ⟨record', hConsume, hSome token rfl⟩
  obtain ⟨record', hConsume, hToken⟩ := hPlain
  obtain ⟨old, hOld, hCode, hPrint⟩ := (consumeApprovalToken_ok hConsume).2 token hToken
  obtain ⟨now', code', input, plan, hCall, hCode', hPrint'⟩ := run_tokens store calls old hOld
  have hSame : code = code' := by
    rw [hCode'] at hCode
    exact (hSha ((append_right_inj _).mp hCode)).symm
  subst hSame
  exact ⟨now', input, plan, hCall, hPrint.symm.trans hPrint'⟩

/-- **Approvals are bound to their input** exactly as far as the fingerprint is: for separated and
complete inputs. -/
theorem approval_is_bound (store : ApprovalStore) (hSha : Function.Injective store.sha256Hex) :
    (∀ input, (∀ other, fingerprintForInput store.sha256Hex other =
        fingerprintForInput store.sha256Hex input → approved other = approved input) ↔
      Separated input ∧ Complete input) ∧
    ∀ (calls : List StoreCall) (code : String) (other : PolicyInput),
      Consumes store (store.run calls) code other →
      ∃ now input plan, .issue now code input plan ∈ calls ∧
        (Separated input ∧ Complete input → approved other = approved input) := by
  refine ⟨fun input => fingerprint_binds_iff hSha input, ?_⟩
  intro calls code other hConsumes
  obtain ⟨now, input, plan, hCall, hPrint⟩ := consume_granted hSha hConsumes
  exact ⟨now, input, plan, hCall, fun hBound =>
    (fingerprint_binds_iff hSha input).mpr hBound other hPrint⟩

/-- A store whose hash is the text itself. -/
private def plainStore : ApprovalStore := ⟨id, 86400, 10, "ws"⟩

/-- A text to be sent by a robot, with all optional texts there. -/
private def completeInput : PolicyInput :=
  { PolicyInput.new .sendText .robot with
    domain := some "local"
    textSummary := some "list"
    workflowId := some "wf"
    commandText := some "ls"
    agentType := some "agent"
    paneTitle := some "title"
    paneCwd := some "/" }

theorem approval_is_bound_complete :
    (Separated completeInput ∧ Complete completeInput) ∧
      ∀ other, fingerprintForInput id other = fingerprintForInput id completeInput →
        approved other = approved completeInput :=
  have hBound : Separated completeInput ∧ Complete completeInput := by decide +kernel
  ⟨hBound, ((approval_is_bound plainStore Function.injective_id).1 completeInput).mpr hBound⟩

/-- An approved input without text summary, in a domain whose name holds a marker. -/
private def approvedInput : PolicyInput :=
  { PolicyInput.new .sendText .robot with domain := some "local|text_summary=rm" }

/-- Another input, in another domain and with a summary. -/
private def otherInput : PolicyInput :=
  { PolicyInput.new .sendText .robot with
    domain := some "local"
    textSummary := some "rm|text_summary=" }

/-- The approval of one input is used by another one, and by one that has an empty text where the
approved one has none. -/
theorem approval_moves_to_another_input :
    approved otherInput ≠ approved approvedInput ∧ canonical otherInput = canonical approvedInput ∧
      canonical { approvedInput with commandText := some "" } = canonical approvedInput ∧
      ((plainStore.consume (plainStore.run [.issue 0 "CODE" approvedInput none]) 1 "CODE"
        otherInput).toOption.bind Prod.fst).isSome := by
  decide +kernel

end FrankenTerm.Ports.ApprovalTokens
