import FrankenTerm.Ports.IngestCursor
import FrankenTerm.Verified.RustText

/-!
# The pane registry (`PaneRegistry` in `ingest.rs`)

The registry keeps one entry for every pane of the last listing: what identifies its process, and
whether its output is captured.  A listing that repeats a pane's number, or that lacks a domain or a
terminal known before, leaves open which process the pane shows, and its output is withheld.  So it
is when a revision counter of the pane has no next value.

Whether a pane is captured is computed anew at three places: when it is listed, when it is listed
twice, and when the filter rules are applied again.  The third knows the rules only.

Not modelled, because nothing here reads them: the times an entry was seen and decided, the arena
accounting, the trauma states and the telemetry.  The random part of a new pane's UUID is an argument
of the listing, and the regular expressions and the Unicode lowercase of the filter rules are
parameters (`Texts`).  An unknown field of a pane is its JSON text.

## Main results

* `listTracked_shouldObserve_iff` — when a pane that is listed once is captured.
* `discoveryTick_ticked` — what a listing does to one pane depends on the rows of this pane only.
* `setFilter_slot` — new filter rules decide on every pane anew.
-/

namespace FrankenTerm.Ports.IngestRegistry

open Verified List
open FrankenTerm.Verified.RustText (trim toAsciiLowercase)
open FrankenTerm.Ports.IngestCursor (PaneCursor)
open Std (TreeMap TreeSet)

/-! ## Panes as they are listed -/

section

variable (texts : Texts) (entry : PaneEntry) (decision : ObservationDecision)

/-- `PaneSize`. -/
structure PaneSize where
  rows : Nat
  cols : Nat
  pixelWidth : Option Nat
  pixelHeight : Option Nat
  dpi : Option Nat
  deriving Repr, DecidableEq

/-- `CursorVisibility`. -/
inductive CursorVisibility where
  | visible
  | hidden
  deriving Repr, DecidableEq

/-- `PaneInfo`: a row of a listing. -/
structure PaneInfo where
  paneId : UInt64
  tabId : Nat
  windowId : Nat
  domainId : Option Nat := none
  domainName : Option String := none
  workspace : Option String := none
  size : Option PaneSize := none
  rows : Option Nat := none
  cols : Option Nat := none
  title : Option String := none
  cwd : Option String := none
  ttyName : Option String := none
  cursorX : Option Nat := none
  cursorY : Option Nat := none
  cursorVisibility : Option CursorVisibility := none
  leftCol : Option Nat := none
  topRow : Option Int := none
  isActive : Bool := false
  isZoomed : Bool := false
  extra : List (String × String) := []
  deriving Repr, DecidableEq

/-- The part of `CwdInfo` that names a host. -/
structure CwdInfo where
  host : List Char
  isRemote : Bool
  deriving Repr, DecidableEq

/-- `CwdInfo::parse`, without the path. -/
def CwdInfo.parse (uri : String) : CwdInfo :=
  let uri := trim uri.toList
  if toAsciiLowercase (uri.take 7) = "file://".toList then
    let rest := uri.drop 7
    if rest.head? = some '/' then { host := [], isRemote := false }
    else
      -- up to the first slash, or all of it
      let host := rest.takeWhile (· != '/')
      if toAsciiLowercase host = "localhost".toList then { host := [], isRemote := false }
      else { host, isRemote := true }
  else { host := [], isRemote := false }

/-- `PaneInfo::inferred_domain`. -/
def PaneInfo.inferredDomain (info : PaneInfo) : String :=
  match (info.domainName.map fun name => trim name.toList).filter fun name => !name.isEmpty with
  | some name => String.ofList name
  | none =>
    let cwd := (info.cwd.map CwdInfo.parse).getD { host := [], isRemote := false }
    if cwd.isRemote && !cwd.host.isEmpty then "ssh:" ++ String.ofList cwd.host else "local"

/-! ## Filter rules -/

/-- What the rules take from other libraries. -/
structure Texts where
  /-- `fancy_regex`: whether the pattern compiles and matches. -/
  regexIsMatch : String → String → Bool
  /-- `str::to_lowercase`. -/
  toLowercase : String → String

/-- `PaneFilterRule`. -/
structure PaneFilterRule where
  id : String
  domain : Option String
  title : Option String
  cwd : Option String
  deriving Repr, DecidableEq

/-- A character of a glob as it stands in the regular expression. -/
def globChar (c : Char) : List Char :=
  if c = '*' then ['.', '*']
  else if c = '?' then ['.']
  else if c ∈ ['.', '+', '^', '$', '(', ')', '[', ']', '\x7b', '\x7d', '|', '\\'] then ['\\', c]
  else [c]

/-- `PaneFilterRule::match_glob`. -/
def matchGlob (pattern value : String) : Bool :=
  if !pattern.toList.contains '*' && !pattern.toList.contains '?' then
    value == pattern || (pattern.toList ++ ['/']).isPrefixOf value.toList
  else
    texts.regexIsMatch (String.ofList ('^' :: pattern.toList.flatMap globChar ++ ['$'])) value

/-- `PaneFilterRule::match_title`. -/
def matchTitle (pattern title : String) : Bool :=
  match pattern.toList with
  | 'r' :: 'e' :: ':' :: regexPat => texts.regexIsMatch (String.ofList regexPat) title
  | _ => decide ((texts.toLowercase pattern).toList <:+: (texts.toLowercase title).toList)

/-- `PaneFilterRule::matches`. -/
def PaneFilterRule.matchesPane (rule : PaneFilterRule) (domain title cwd : String) : Bool :=
  if rule.domain.isNone && rule.title.isNone && rule.cwd.isNone then false
  else
    rule.domain.all (matchGlob texts · domain) && rule.title.all (matchTitle texts · title) &&
      rule.cwd.all (matchGlob texts · cwd)

/-- `PaneFilterConfig`. -/
structure PaneFilterConfig where
  includeRules : List PaneFilterRule := []
  excludeRules : List PaneFilterRule := []
  deriving Repr, DecidableEq

/-- `PaneFilterConfig::check_pane`: the rule that excludes a pane, if one does. -/
def PaneFilterConfig.checkPane (config : PaneFilterConfig) (domain title cwd : String) :
    Option String :=
  match config.excludeRules.find? (·.matchesPane texts domain title cwd) with
  | some rule => some rule.id
  | none =>
    if !config.includeRules.isEmpty &&
        !config.includeRules.any (·.matchesPane texts domain title cwd) then
      some "no_include_match"
    else none

/-- `ObservationDecision`. -/
inductive ObservationDecision where
  | observed
  | ignored (reason : String)
  deriving Repr, DecidableEq

/-- `ObservationDecision::is_observed`. -/
def ObservationDecision.isObserved : ObservationDecision → Bool
  | observed => true
  | ignored _ => false

/-- `ObservationDecision::ignore_reason`. -/
def ObservationDecision.ignoreReason : ObservationDecision → Option String
  | observed => none
  | ignored reason => some reason

/-- `PaneRegistry::decide_observation`. -/
def decideObservation (config : PaneFilterConfig) (pane : PaneInfo) : ObservationDecision :=
  match config.checkPane texts pane.inferredDomain (pane.title.getD "") (pane.cwd.getD "") with
  | some reason => .ignored reason
  | none => .observed

/-! ## Identity and metadata -/

/-- `PaneLifecycleIdentity`. -/
structure PaneLifecycleIdentity where
  paneId : UInt64
  domainId : Option Nat
  ttyName : Option String
  deriving Repr, DecidableEq

/-- `PaneLifecycleContinuity`. -/
inductive PaneLifecycleContinuity where
  | same
  | replaced
  | ambiguous
  deriving Repr, DecidableEq

/-- `PaneLifecycleIdentity::from_pane_info`. -/
def PaneLifecycleIdentity.fromPaneInfo (info : PaneInfo) : PaneLifecycleIdentity :=
  { paneId := info.paneId, domainId := info.domainId, ttyName := info.ttyName }

/-- Two pieces of evidence are both there and differ. -/
def contradicts {α : Type} [DecidableEq α] : Option α → Option α → Bool
  | some left, some right => left != right
  | _, _ => false

/-- `PaneLifecycleIdentity::continuity_with`. -/
def PaneLifecycleIdentity.continuityWith (identity next : PaneLifecycleIdentity) :
    PaneLifecycleContinuity :=
  if identity.paneId ≠ next.paneId then .replaced
  else if (identity.domainId.isSome && next.domainId.isNone) ||
      (identity.ttyName.isSome && next.ttyName.isNone) then .ambiguous
  else if contradicts identity.domainId next.domainId ||
      contradicts identity.ttyName next.ttyName then .replaced
  else .same

/-- `PaneLifecycleIdentity::merge_available_evidence`. -/
def PaneLifecycleIdentity.mergeAvailableEvidence (identity next : PaneLifecycleIdentity) :
    PaneLifecycleIdentity :=
  { identity with
    domainId := identity.domainId.or next.domainId
    ttyName := identity.ttyName.or next.ttyName }

/-- A bit of a difference. -/
def diffBit (changed : Bool) (bit : Nat) : Nat := if changed then 2 ^ bit else 0

/-- `PaneMetadataDiff::OBSERVATION`. -/
def observationBit : Nat := 2 ^ 10

/-- `PaneMetadataDiff::between`. -/
def metadataDiffBetween (old new : PaneInfo) : Nat :=
  diffBit (old.domainName != new.domainName) 0 |||
  diffBit (old.workspace != new.workspace) 1 |||
  diffBit (old.windowId != new.windowId || old.tabId != new.tabId) 2 |||
  diffBit (old.size != new.size || old.rows != new.rows || old.cols != new.cols) 3 |||
  diffBit (old.title != new.title) 4 |||
  diffBit (old.cwd != new.cwd) 5 |||
  diffBit (old.cursorX != new.cursorX || old.cursorY != new.cursorY ||
    old.cursorVisibility != new.cursorVisibility) 6 |||
  diffBit (old.leftCol != new.leftCol || old.topRow != new.topRow) 7 |||
  diffBit (old.isActive != new.isActive || old.isZoomed != new.isZoomed) 8 |||
  diffBit (old.extra != new.extra) 9 |||
  diffBit (old.domainId != new.domainId || old.ttyName != new.ttyName) 11

/-- `PaneMetadataChange`. -/
structure PaneMetadataChange where
  paneId : UInt64
  lifecycleRevision : Nat
  metadataRevision : Nat
  diff : Nat
  deriving Repr, DecidableEq

/-- `u32::MAX`, the last lifecycle revision. -/
def u32Max : Nat := 2 ^ 32 - 1

/-- `u64::MAX`, the last metadata revision. -/
def u64Max : Nat := 2 ^ 64 - 1

/-- `checked_next` of a revision. -/
def checkedNext (max revision : Nat) : Option Nat :=
  if revision < max then some (revision + 1) else none

/-! ## Entries -/

/-- `PanePriorityOverride`. -/
structure PanePriorityOverride where
  priority : Nat
  setAt : Int
  expiresAt : Option Int
  deriving Repr, DecidableEq

/-- `PaneEntry`. -/
structure PaneEntry where
  info : PaneInfo
  lifecycleIdentity : PaneLifecycleIdentity
  observation : ObservationDecision
  paneUuid : String
  resumeNextSeq : UInt64 := 0
  lifecycleRevision : Nat := 0
  metadataRevision : Nat := 0
  priorityOverride : Option PanePriorityOverride := none
  deriving Repr, DecidableEq

/-- `PaneEntry::should_observe`. -/
def PaneEntry.shouldObserve : Bool := entry.observation.isObserved

/-- `PaneEntry::revision_namespace_is_exhausted`. -/
def PaneEntry.revisionNamespaceIsExhausted : Bool :=
  (entry.observation.ignoreReason == some "lifecycle_revision_exhausted" &&
    entry.lifecycleRevision == u32Max) ||
  (entry.observation.ignoreReason == some "metadata_revision_exhausted" &&
    entry.metadataRevision == u64Max)

/-- `DiscoveryDiff`. -/
structure DiscoveryDiff where
  newPanes : List UInt64 := []
  closedPanes : List UInt64 := []
  metadataChanges : List PaneMetadataChange := []
  lifecycleReplacements : List UInt64 := []
  ambiguousLifecyclePanes : List UInt64 := []
  revisionExhaustedPanes : List UInt64 := []
  reObservedPanes : List UInt64 := []
  deriving Repr, DecidableEq

/-- An entry while it is listed, with the decision that is going to be stored in it. -/
structure Listing where
  entry : PaneEntry
  observation : ObservationDecision
  diff : DiscoveryDiff
  lifecycleReplaced : Bool := false
  lifecycleRevisionExhausted : Bool := false
  deriving Repr, DecidableEq

/-- The first half of `discovery_tick` for a pane it knows: the identity. -/
def continueLifecycle (next : PaneLifecycleIdentity) (decision : ObservationDecision)
    (diff : DiscoveryDiff) : Listing :=
  match entry.lifecycleIdentity.continuityWith next with
  | .same =>
    { entry := { entry with
        lifecycleIdentity := entry.lifecycleIdentity.mergeAvailableEvidence next }
      observation := decision
      diff }
  | .replaced =>
    match checkedNext u32Max entry.lifecycleRevision with
    | some revision =>
      { entry := { entry with
          lifecycleIdentity := next
          lifecycleRevision := revision
          metadataRevision := 0 }
        observation := decision
        diff := { diff with
          lifecycleReplacements := diff.lifecycleReplacements ++ [next.paneId] }
        lifecycleReplaced := true }
    | none =>
      { entry
        observation := .ignored "lifecycle_revision_exhausted"
        diff := { diff with
          revisionExhaustedPanes := diff.revisionExhaustedPanes ++ [next.paneId] }
        lifecycleRevisionExhausted := true }
  | .ambiguous =>
    { entry
      observation := .ignored "lifecycle_identity_ambiguous"
      diff := { diff with
        ambiguousLifecyclePanes := diff.ambiguousLifecyclePanes ++ [next.paneId] } }

/-- The second half: a change of the metadata takes the next revision. -/
def versionMetadata (listing : Listing) (paneId : UInt64) (metadataDiff : Nat) : Listing :=
  if !listing.lifecycleReplaced && !listing.lifecycleRevisionExhausted && metadataDiff != 0 then
    match checkedNext u64Max listing.entry.metadataRevision with
    | some revision =>
      { listing with
        entry := { listing.entry with metadataRevision := revision }
        diff := { listing.diff with
          metadataChanges := listing.diff.metadataChanges ++
            [{ paneId, lifecycleRevision := listing.entry.lifecycleRevision
               metadataRevision := revision, diff := metadataDiff }] } }
    | none =>
      { listing with
        observation := .ignored "metadata_revision_exhausted"
        diff := { listing.diff with
          revisionExhaustedPanes := listing.diff.revisionExhaustedPanes ++ [paneId] } }
  else listing

/-- What the registry has on one pane. -/
structure Slot where
  entry : PaneEntry
  cursor : Option PaneCursor
  deriving Repr, DecidableEq

/-- The cursor of a pane that starts to be captured, goes on, or stops: its number is kept in the
entry while there is no cursor. -/
def moveCursor (wasObserved isObserved : Bool) (paneId : UInt64) (slot : Slot) : Slot :=
  if isObserved && !wasObserved then
    { slot with cursor := some (PaneCursor.fromSeq paneId slot.entry.resumeNextSeq) }
  else if !isObserved && wasObserved then
    match slot.cursor with
    | some cursor =>
      { entry := { slot.entry with resumeNextSeq := cursor.nextSeq }, cursor := none }
    | none => slot
  else slot

/-- Both halves, for a row of a pane. -/
def listEntry (entry : PaneEntry) (pane : PaneInfo) (diff : DiscoveryDiff) : Listing :=
  let next := continueLifecycle entry (.fromPaneInfo pane) decision diff
  versionMetadata next pane.paneId (metadataDiffBetween entry.info pane |||
    (if entry.observation ≠ next.observation then observationBit else 0))

/-- The report on a pane that is captured again. -/
def reportResumed (resumed : Bool) (paneId : UInt64) (diff : DiscoveryDiff) : DiscoveryDiff :=
  { diff with
    reObservedPanes := if resumed then diff.reObservedPanes ++ [paneId] else diff.reObservedPanes }

/-- `discovery_tick` for a pane that it knows and that is listed once. -/
def listTracked (slot : Slot) (pane : PaneInfo) (diff : DiscoveryDiff) : Slot × DiscoveryDiff :=
  if slot.entry.revisionNamespaceIsExhausted then
    ({ slot with entry := { slot.entry with info := pane } }, diff)
  else
    let next := listEntry decision slot.entry pane diff
    let wasObserved := slot.entry.shouldObserve
    let isObserved := next.observation.isObserved
    (moveCursor wasObserved isObserved pane.paneId
      { slot with entry := { next.entry with info := pane, observation := next.observation } },
     reportResumed (isObserved && !wasObserved) pane.paneId next.diff)

/-- A new decision on a pane that is not listed anew: it takes a metadata revision, and without one
the pane is given up. -/
def PaneEntry.redecide : PaneEntry :=
  if entry.observation ≠ decision then
    match checkedNext u64Max entry.metadataRevision with
    | some revision => { entry with metadataRevision := revision, observation := decision }
    | none => { entry with observation := .ignored "metadata_revision_exhausted" }
  else entry

/-- The report on `redecide` for a pane that is listed twice. -/
def reportDuplicate (paneId : UInt64) (diff : DiscoveryDiff) : DiscoveryDiff :=
  if entry.observation ≠ .ignored "duplicate_pane_identity" then
    match checkedNext u64Max entry.metadataRevision with
    | some revision =>
      { diff with
        metadataChanges := diff.metadataChanges ++
          [{ paneId, lifecycleRevision := entry.lifecycleRevision
             metadataRevision := revision, diff := observationBit }] }
    | none => { diff with revisionExhaustedPanes := diff.revisionExhaustedPanes ++ [paneId] }
  else diff

/-- `discovery_tick` for a pane that it knows and that is listed twice. -/
def listDuplicate (slot : Slot) (paneId : UInt64) (diff : DiscoveryDiff) : Slot × DiscoveryDiff :=
  (moveCursor slot.entry.shouldObserve false paneId
    { slot with entry := slot.entry.redecide (.ignored "duplicate_pane_identity") },
   reportDuplicate slot.entry paneId diff)

/-- `ObservationTransition`. -/
inductive ObservationTransition where
  | unchanged
  | resumed
  | retired
  deriving Repr, DecidableEq

/-- `re_evaluate_observation` for a pane it knows, under the decision of the rules. -/
def reEvaluateSlot (slot : Slot) (paneId : UInt64) : Slot × ObservationTransition :=
  if slot.entry.revisionNamespaceIsExhausted then (slot, .unchanged)
  else
    let wasObserved := slot.entry.shouldObserve
    let entry := slot.entry.redecide decision
    let isObserved := entry.shouldObserve
    (moveCursor wasObserved isObserved paneId { slot with entry },
     if isObserved && !wasObserved then .resumed
     else if !isObserved && wasObserved then .retired
     else .unchanged)

/-! ## The registry -/

/-- `PaneRegistry`. -/
structure PaneRegistry where
  entries : TreeMap UInt64 PaneEntry := ∅
  uuidIndex : TreeMap String UInt64 := ∅
  cursors : TreeMap UInt64 PaneCursor := ∅
  filterConfig : PaneFilterConfig := {}

end

namespace PaneRegistry

section

variable (texts : Texts) (registry : PaneRegistry) (paneId : UInt64)

/-- What the registry has on a pane, if it knows it. -/
def slot? : Option Slot :=
  registry.entries[paneId]?.map fun entry => { entry, cursor := registry.cursors[paneId]? }

/-- Store what there is now on a pane. -/
def store (slot : Slot) : PaneRegistry :=
  { registry with
    entries := registry.entries.insert paneId slot.entry
    cursors := match slot.cursor with
      | some cursor => registry.cursors.insert paneId cursor
      | none => registry.cursors.erase paneId }

/-- The entry of a pane that is listed for the first time. -/
def newEntry (uuid : String) (pane : PaneInfo) : PaneEntry :=
  { info := pane
    lifecycleIdentity := .fromPaneInfo pane
    observation := decideObservation texts registry.filterConfig pane
    paneUuid := uuid }

/-- One row of a listing; `uuids` has the new UUIDs, by pane. -/
def listPane (uuids : UInt64 → String) (duplicates : TreeSet UInt64)
    (acc : PaneRegistry × DiscoveryDiff) (pane : PaneInfo) : PaneRegistry × DiscoveryDiff :=
  let (registry, diff) := acc
  if duplicates.contains pane.paneId then acc
  else match registry.slot? pane.paneId with
    | some slot =>
      let decision := decideObservation texts registry.filterConfig pane
      let listed := listTracked decision slot pane diff
      (registry.store pane.paneId listed.1, listed.2)
    | none =>
      let entry := newEntry texts registry (uuids pane.paneId) pane
      let cursor :=
        if entry.shouldObserve then some (PaneCursor.new pane.paneId)
        else registry.cursors[pane.paneId]?
      ({ registry.store pane.paneId { entry, cursor } with
          uuidIndex := registry.uuidIndex.insert entry.paneUuid pane.paneId },
       { diff with newPanes := diff.newPanes ++ [pane.paneId] })

/-- A number that is listed twice; a pane that is not known is not made from either row. -/
def withholdDuplicate (acc : PaneRegistry × DiscoveryDiff) (paneId : UInt64) :
    PaneRegistry × DiscoveryDiff :=
  let (registry, diff) := acc
  let diff := { diff with
    ambiguousLifecyclePanes := diff.ambiguousLifecyclePanes ++ [paneId] }
  match registry.slot? paneId with
  | some slot =>
    let listed := listDuplicate slot paneId diff
    (registry.store paneId listed.1, listed.2)
  | none => (registry, diff)

/-- A pane that is not listed any more. -/
def closePane (acc : PaneRegistry × DiscoveryDiff) (paneId : UInt64) :
    PaneRegistry × DiscoveryDiff :=
  let (registry, diff) := acc
  ({ registry with
      entries := registry.entries.erase paneId
      uuidIndex := match registry.entries[paneId]? with
        | some entry => registry.uuidIndex.erase entry.paneUuid
        | none => registry.uuidIndex
      cursors := registry.cursors.erase paneId },
   { diff with closedPanes := diff.closedPanes ++ [paneId] })

/-- The numbers of a listing, and those that occur more than once. -/
def seenAndDuplicates (panes : List PaneInfo) : TreeSet UInt64 × TreeSet UInt64 :=
  panes.foldl
    (fun (seen, duplicates) pane =>
      (seen.insert pane.paneId,
       if seen.contains pane.paneId then duplicates.insert pane.paneId else duplicates))
    (∅, ∅)

/-- `PaneRegistry::discovery_tick`. -/
def discoveryTick (uuids : UInt64 → String) (registry : PaneRegistry) (panes : List PaneInfo) :
    PaneRegistry × DiscoveryDiff :=
  let (seen, duplicates) := seenAndDuplicates panes
  let acc := panes.foldl (listPane texts uuids duplicates) (registry, {})
  let acc := duplicates.toList.foldl withholdDuplicate acc
  (acc.1.entries.keys.filter (!seen.contains ·)).foldl closePane acc

/-- `PaneRegistry::re_evaluate_observation`. -/
def reEvaluateObservation : PaneRegistry × ObservationTransition :=
  match registry.slot? paneId with
  | none => (registry, .unchanged)
  | some slot =>
    let decision := decideObservation texts registry.filterConfig slot.entry.info
    let decided := reEvaluateSlot decision slot paneId
    (registry.store paneId decided.1, decided.2)

/-- The change that `set_filter` reports for a pane. -/
def filterChange (before after : PaneRegistry) (paneId : UInt64) : Option PaneMetadataChange :=
  match before.entries[paneId]?, after.entries[paneId]? with
  | some old, some new =>
    if old.metadataRevision ≠ new.metadataRevision ∨ old.observation ≠ new.observation then
      some { paneId, lifecycleRevision := new.lifecycleRevision
             metadataRevision := new.metadataRevision, diff := observationBit }
    else none
  | _, _ => none

/-- `PaneRegistry::set_filter`.  The entries are visited in the order of their numbers, in which the
source sorts its report. -/
def setFilter (filterConfig : PaneFilterConfig) : PaneRegistry × List PaneMetadataChange :=
  let registry := { registry with filterConfig }
  registry.entries.keys.foldl
    (fun (current, changes) paneId =>
      let next := (current.reEvaluateObservation texts paneId).1
      (next, changes ++ (filterChange current next paneId).toList))
    (registry, [])

/-- `PaneRegistry::adopt_uuid`. -/
def adoptUuid (uuid : String) : PaneRegistry × Bool :=
  if registry.uuidIndex[uuid]?.any (· ≠ paneId) then (registry, false)
  else match registry.entries[paneId]? with
    | none => (registry, false)
    | some entry =>
      if entry.paneUuid = uuid then (registry, true)
      else
        ({ registry with
            entries := registry.entries.insert paneId { entry with paneUuid := uuid }
            uuidIndex := (registry.uuidIndex.erase entry.paneUuid).insert uuid paneId }, true)

/-- `i64::MAX`. -/
def i64Max : Int := 2 ^ 63 - 1

/-- `PaneRegistry::set_priority_override`; `none` is the error for a pane that is not known. -/
def setPriorityOverride (priority : Nat) (ttlMs : Option Nat) (now : Int) :
    PaneRegistry × Option PanePriorityOverride :=
  match registry.entries[paneId]? with
  | none => (registry, none)
  | some entry =>
    let expiresAt := ttlMs.bind fun ttl =>
      if ttl = 0 ∨ i64Max < (ttl : Int) ∨ i64Max < now + ttl then none else some (now + ttl)
    let override := { priority, setAt := now, expiresAt }
    ({ registry with
        entries := registry.entries.insert paneId
          { entry with priorityOverride := some override } }, some override)

/-- `PaneRegistry::clear_priority_override`. -/
def clearPriorityOverride : PaneRegistry :=
  match registry.entries[paneId]? with
  | none => registry
  | some entry =>
    { registry with
      entries := registry.entries.insert paneId { entry with priorityOverride := none } }

/-- Whether an override has ended. -/
def expired (now : Int) (entry : PaneEntry) : Bool :=
  (entry.priorityOverride.bind (·.expiresAt)).any (· ≤ now)

/-- `PaneRegistry::purge_expired_priority_overrides`, with the number of overrides cleared. -/
def purgeExpiredPriorityOverrides (now : Int) : PaneRegistry × Nat :=
  ({ registry with
      entries := registry.entries.map fun _ entry =>
        if expired now entry then { entry with priorityOverride := none } else entry },
   (registry.entries.filter fun _ entry => expired now entry).size)

/-- `LiveCursorState`. -/
structure LiveCursorState where
  paneId : UInt64
  nextSeq : UInt64
  inGap : Bool
  inAltScreen : Bool
  deriving Repr, DecidableEq

/-- `PaneRegistry::publish_live_cursor_state`. -/
def publishLiveCursorState (snapshot : List LiveCursorState) : PaneRegistry :=
  { registry with
    cursors := snapshot.foldl
      (fun cursors live => match cursors[live.paneId]? with
        | some cursor => cursors.insert live.paneId
            { cursor with
              nextSeq := live.nextSeq
              inGap := live.inGap
              inAltScreen := live.inAltScreen }
        | none => cursors)
      registry.cursors }

end

end PaneRegistry

/-! ## Runs -/

/-- A call of the registry. -/
inductive Event where
  | discoveryTick (uuids : UInt64 → String) (panes : List PaneInfo)
  | setFilter (filterConfig : PaneFilterConfig)
  | reEvaluateObservation (paneId : UInt64)
  | adoptUuid (paneId : UInt64) (uuid : String)
  | setPriorityOverride (paneId : UInt64) (priority : Nat) (ttlMs : Option Nat) (now : Int)
  | clearPriorityOverride (paneId : UInt64)
  | purgeExpiredPriorityOverrides (now : Int)
  | publishLiveCursorState (snapshot : List PaneRegistry.LiveCursorState)

/-- The registry behind a call. -/
def PaneRegistry.apply (texts : Texts) (registry : PaneRegistry) : Event → PaneRegistry
  | .discoveryTick uuids panes => (registry.discoveryTick texts uuids panes).1
  | .setFilter filterConfig => (registry.setFilter texts filterConfig).1
  | .reEvaluateObservation paneId => (registry.reEvaluateObservation texts paneId).1
  | .adoptUuid paneId uuid => (registry.adoptUuid paneId uuid).1
  | .setPriorityOverride paneId priority ttlMs now =>
    (registry.setPriorityOverride paneId priority ttlMs now).1
  | .clearPriorityOverride paneId => registry.clearPriorityOverride paneId
  | .purgeExpiredPriorityOverrides now => (registry.purgeExpiredPriorityOverrides now).1
  | .publishLiveCursorState snapshot => registry.publishLiveCursorState snapshot

/-! ## One pane -/

/-- A cursor is there for a captured pane only. -/
def Slot.Synced (slot : Slot) : Prop := slot.cursor.isSome → slot.entry.shouldObserve

theorem checkedNext_eq_none {max revision : Nat} :
    checkedNext max revision = none ↔ max ≤ revision := by
  unfold checkedNext
  split <;> simp <;> omega

theorem checkedNext_eq_some {max revision next : Nat} :
    checkedNext max revision = some next ↔ revision < max ∧ next = revision + 1 := by
  unfold checkedNext
  split <;> simp <;> omega

theorem checkedNext_le {max revision next : Nat} (h : checkedNext max revision = some next) :
    next ≤ max := by
  rw [checkedNext_eq_some] at h
  omega

theorem eq_of_checkedNext_eq_none {max revision : Nat} (h : checkedNext max revision = none)
    (hLe : revision ≤ max) : revision = max :=
  hLe.antisymm (checkedNext_eq_none.mp h)

variable {decision : ObservationDecision} {slot : Slot} {pane : PaneInfo} {diff : DiscoveryDiff}
  {entry : PaneEntry}

open PaneEntry ObservationDecision

theorem isObserved_eq_false_of_exhausted (h : entry.revisionNamespaceIsExhausted) :
    entry.shouldObserve = false := by
  unfold revisionNamespaceIsExhausted at h
  unfold shouldObserve
  cases hObs : entry.observation with
  | observed => simp [hObs, ignoreReason] at h
  | ignored => rfl

/-- The cursor moves, and the entry keeps all but the number to go on with. -/
theorem moveCursor_entry (wasObserved isObserved : Bool) (paneId : UInt64) (slot : Slot) :
    ∃ seq, (moveCursor wasObserved isObserved paneId slot).entry =
      { slot.entry with resumeNextSeq := seq } := by
  unfold moveCursor
  split
  · exact ⟨_, rfl⟩
  · split
    · split <;> exact ⟨_, rfl⟩
    · exact ⟨_, rfl⟩

variable {paneId : UInt64}

theorem moveCursor_synced {wasObserved isObserved : Bool} (hWas : slot.cursor.isSome → wasObserved)
    (hIs : slot.entry.shouldObserve = isObserved) :
    (moveCursor wasObserved isObserved paneId slot).Synced := by
  obtain ⟨seq, hEntry⟩ := moveCursor_entry wasObserved isObserved paneId slot
  unfold Slot.Synced shouldObserve
  rw [hEntry]
  change _ → slot.entry.shouldObserve
  rw [hIs]
  unfold moveCursor
  cases hCursor : slot.cursor with
  | none => cases wasObserved <;> cases isObserved <;> simp [hCursor]
  | some =>
    have hTrue : wasObserved := hWas (by simp [hCursor])
    cases isObserved <;> simp [hCursor, hTrue]

/-- The revisions of an entry fit their types, and its identity has its number. -/
structure PaneEntry.Fits (entry : PaneEntry) (paneId : UInt64) : Prop where
  identity : entry.lifecycleIdentity.paneId = paneId
  lifecycle : entry.lifecycleRevision ≤ u32Max
  metadata : entry.metadataRevision ≤ u64Max

theorem listTracked_of_exhausted (h : slot.entry.revisionNamespaceIsExhausted) :
    listTracked decision slot pane diff =
      ({ slot with entry := { slot.entry with info := pane } }, diff) :=
  if_pos h

theorem listTracked_entry (h : ¬slot.entry.revisionNamespaceIsExhausted) :
    ∃ seq, (listTracked decision slot pane diff).1.entry =
      { (listEntry decision slot.entry pane diff).entry with
        info := pane
        observation := (listEntry decision slot.entry pane diff).observation
        resumeNextSeq := seq } := by
  unfold listTracked
  rw [if_neg h]
  exact moveCursor_entry _ _ _ _

theorem listTracked_reported (h : ¬slot.entry.revisionNamespaceIsExhausted) :
    (listTracked decision slot pane diff).2.revisionExhaustedPanes =
      (listEntry decision slot.entry pane diff).diff.revisionExhaustedPanes := by
  unfold listTracked
  rw [if_neg h]
  rfl

theorem listTracked_synced (hSynced : slot.Synced) :
    (listTracked decision slot pane diff).1.Synced := by
  unfold listTracked
  split
  · exact hSynced
  · exact moveCursor_synced hSynced rfl

/-- What `versionMetadata` leaves of a decision: nothing is captured without a revision. -/
theorem versionMetadata_isObserved (listing : Listing) (paneId : UInt64) (metadataDiff : Nat) :
    (versionMetadata listing paneId metadataDiff).observation.isObserved ↔
      listing.observation.isObserved ∧
        (listing.lifecycleReplaced = false → listing.lifecycleRevisionExhausted = false →
          metadataDiff ≠ 0 → listing.entry.metadataRevision < u64Max) := by
  unfold versionMetadata
  split
  · split
    · grind [checkedNext_eq_some]
    · simp only [checkedNext_eq_none] at *
      grind [isObserved]
  · grind

theorem metadataDiff_eq_zero {metadataDiff : Nat} {old new : ObservationDecision} :
    metadataDiff ||| (if old ≠ new then observationBit else 0) = 0 ↔
      metadataDiff = 0 ∧ old = new := by
  by_cases h : old = new <;> simp [h, observationBit]

/-- **When a pane that is listed once is captured**: the rules accept it, its evidence is complete,
and the revision it needs exists. -/
theorem listTracked_shouldObserve_iff (h : ¬slot.entry.revisionNamespaceIsExhausted) :
    (listTracked decision slot pane diff).1.entry.shouldObserve ↔ decision.isObserved ∧
      match slot.entry.lifecycleIdentity.continuityWith (.fromPaneInfo pane) with
      | .same => metadataDiffBetween slot.entry.info pane ≠ 0 ∨ slot.entry.observation ≠ decision →
          slot.entry.metadataRevision < u64Max
      | .replaced => slot.entry.lifecycleRevision < u32Max
      | .ambiguous => False := by
  obtain ⟨seq, hEntry⟩ := @listTracked_entry decision slot pane diff h
  unfold shouldObserve
  rw [hEntry]
  unfold listEntry
  rw [versionMetadata_isObserved, ne_eq, metadataDiff_eq_zero]
  unfold continueLifecycle
  split
  · grind
  · split
    · grind [checkedNext_eq_some]
    · grind [checkedNext_eq_none, isObserved]
  · grind [isObserved]

/-- The pane has been given up, or its lifecycle counter is at its end. -/
def PaneEntry.Spent (entry : PaneEntry) : Prop :=
  entry.revisionNamespaceIsExhausted ∨ entry.lifecycleRevision = u32Max

theorem PaneEntry.exhausted_iff : entry.revisionNamespaceIsExhausted ↔
    (entry.observation = .ignored "lifecycle_revision_exhausted" ∧
      entry.lifecycleRevision = u32Max) ∨
    (entry.observation = .ignored "metadata_revision_exhausted" ∧
      entry.metadataRevision = u64Max) := by
  unfold revisionNamespaceIsExhausted
  cases entry.observation <;> simp [ignoreReason]

/-- The revisions behind the first half. -/
theorem continueLifecycle_fits (entry : PaneEntry) (pane : PaneInfo)
    (decision : ObservationDecision) (diff : DiscoveryDiff) (hFits : entry.Fits pane.paneId) :
    let next := continueLifecycle entry (.fromPaneInfo pane) decision diff
    next.entry.Fits pane.paneId ∧
    (entry.lifecycleRevision = u32Max → next.entry.lifecycleRevision = u32Max) := by
  unfold continueLifecycle
  split
  · exact ⟨{ hFits with }, id⟩
  · split
    · rename_i revision hNext
      refine ⟨⟨rfl, checkedNext_le hNext, Nat.zero_le _⟩, fun hMax => ?_⟩
      rw [checkedNext_eq_some] at hNext
      omega
    · exact ⟨{ hFits with }, id⟩
  · exact ⟨{ hFits with }, id⟩

/-- The entry behind the second half. -/
theorem versionMetadata_entry (listing : Listing) (paneId : UInt64) (metadataDiff : Nat)
    (hFits : listing.entry.Fits paneId) :
    let next := (versionMetadata listing paneId metadataDiff).entry
    next.Fits paneId ∧ next.lifecycleRevision = listing.entry.lifecycleRevision := by
  unfold versionMetadata
  split
  · split
    · rename_i revision hNext
      exact ⟨{ hFits with metadata := checkedNext_le hNext }, rfl⟩
    · exact ⟨{ hFits with }, rfl⟩
  · exact ⟨hFits, rfl⟩

/-- A pane that is listed once stays given up. -/
theorem listTracked_spec (decision : ObservationDecision) (slot : Slot) (pane : PaneInfo)
    (diff : DiscoveryDiff) (hFits : slot.entry.Fits pane.paneId) :
    let next := (listTracked decision slot pane diff).1.entry
    next.Fits pane.paneId ∧ (slot.entry.Spent → next.Spent) := by
  by_cases h : slot.entry.revisionNamespaceIsExhausted
  · rw [listTracked_of_exhausted h]
    exact ⟨{ hFits with }, fun _ => .inl h⟩
  · obtain ⟨seq, hEntry⟩ := @listTracked_entry decision slot pane diff h
    obtain ⟨hContinued, hMax⟩ := continueLifecycle_fits slot.entry pane decision diff hFits
    obtain ⟨hListed, hSame⟩ := versionMetadata_entry _ pane.paneId _ hContinued
    simp only [hEntry]
    exact ⟨{ hListed with }, fun hSpent => .inr (hSame.trans (hMax (hSpent.resolve_left h)))⟩

/-- A change that finds no revision is reported and marked. -/
theorem versionMetadata_runsOut (listing : Listing) (paneId : UInt64) (metadataDiff : Nat)
    (hFits : listing.entry.metadataRevision ≤ u64Max) (hReplaced : listing.lifecycleReplaced = false)
    (hExhausted : listing.lifecycleRevisionExhausted = false)
    (hDiff : paneId ∉ listing.diff.revisionExhaustedPanes) :
    let next := versionMetadata listing paneId metadataDiff
    (paneId ∈ next.diff.revisionExhaustedPanes ↔
      listing.entry.metadataRevision = u64Max ∧ metadataDiff ≠ 0) ∧
    (paneId ∈ next.diff.revisionExhaustedPanes →
      next.observation = .ignored "metadata_revision_exhausted" ∧
        next.entry.metadataRevision = u64Max) := by
  unfold versionMetadata
  split
  · split
    · grind [checkedNext_eq_some]
    · grind [checkedNext_eq_none]
  · grind

/-- A row of a pane finds no revision: for another process no lifecycle revision, and for a change no
metadata revision. -/
def PaneEntry.ExhaustedBy (entry : PaneEntry) (decision : ObservationDecision) (pane : PaneInfo) :
    Prop :=
  match entry.lifecycleIdentity.continuityWith (.fromPaneInfo pane) with
  | .same => entry.metadataRevision = u64Max ∧
      (metadataDiffBetween entry.info pane ≠ 0 ∨ entry.observation ≠ decision)
  | .replaced => entry.lifecycleRevision = u32Max
  | .ambiguous => entry.metadataRevision = u64Max ∧
      (metadataDiffBetween entry.info pane ≠ 0 ∨
        entry.observation ≠ .ignored "lifecycle_identity_ambiguous")

/-- **A pane that is listed once is reported as exhausted, and marked, if its row finds no
revision.** -/
theorem listTracked_runsOut (h : ¬slot.entry.revisionNamespaceIsExhausted)
    (hFits : slot.entry.Fits pane.paneId) (hDiff : pane.paneId ∉ diff.revisionExhaustedPanes) :
    let next := listTracked decision slot pane diff
    (pane.paneId ∈ next.2.revisionExhaustedPanes ↔ slot.entry.ExhaustedBy decision pane) ∧
    (slot.entry.ExhaustedBy decision pane → next.1.entry.revisionNamespaceIsExhausted) := by
  obtain ⟨seq, hEntry⟩ := @listTracked_entry decision slot pane diff h
  have hLifecycle := hFits.lifecycle
  have hMetadata := hFits.metadata
  dsimp only
  rw [exhausted_iff, hEntry, listTracked_reported h]
  unfold ExhaustedBy listEntry continueLifecycle
  split
  · obtain ⟨hReported, hMarked⟩ := versionMetadata_runsOut
      { entry := { slot.entry with lifecycleIdentity :=
          slot.entry.lifecycleIdentity.mergeAvailableEvidence (.fromPaneInfo pane) }
        observation := decision
        diff } pane.paneId _ hMetadata rfl rfl hDiff
    rw [ne_eq, metadataDiff_eq_zero, not_and_or] at hReported
    exact ⟨hReported, fun hRuns => .inr (hMarked (hReported.mpr hRuns))⟩
  · grind [versionMetadata, PaneLifecycleIdentity.fromPaneInfo, checkedNext_eq_some,
      checkedNext_eq_none]
  · obtain ⟨hReported, hMarked⟩ := versionMetadata_runsOut
      { entry := slot.entry
        observation := .ignored "lifecycle_identity_ambiguous"
        diff := { diff with
          ambiguousLifecyclePanes := diff.ambiguousLifecyclePanes ++ [pane.paneId] } }
      pane.paneId _ hMetadata rfl rfl hDiff
    rw [ne_eq, metadataDiff_eq_zero, not_and_or] at hReported
    exact ⟨hReported, fun hRuns => .inr (hMarked (hReported.mpr hRuns))⟩

/-- The identity of a pane that is listed once. -/
theorem listTracked_identity (h : ¬slot.entry.revisionNamespaceIsExhausted) :
    (listTracked decision slot pane diff).1.entry.lifecycleIdentity =
      match slot.entry.lifecycleIdentity.continuityWith (.fromPaneInfo pane) with
      | .same => slot.entry.lifecycleIdentity.mergeAvailableEvidence (.fromPaneInfo pane)
      | .replaced => if slot.entry.lifecycleRevision < u32Max then .fromPaneInfo pane
          else slot.entry.lifecycleIdentity
      | .ambiguous => slot.entry.lifecycleIdentity := by
  have hVersioned : ∀ (listing : Listing) (metadataDiff : Nat),
      (versionMetadata listing pane.paneId metadataDiff).entry.lifecycleIdentity =
        listing.entry.lifecycleIdentity := by
    intro listing metadataDiff
    unfold versionMetadata
    split
    · split <;> rfl
    · rfl
  obtain ⟨seq, hEntry⟩ := @listTracked_entry decision slot pane diff h
  rw [hEntry]
  unfold listEntry
  rw [hVersioned]
  unfold continueLifecycle
  split
  · rfl
  · split
    · rename_i hNext
      rw [if_pos (checkedNext_eq_some.mp hNext).1]
    · rename_i hNext
      rw [if_neg (not_lt.mpr (checkedNext_eq_none.mp hNext))]
  · rfl

theorem redecide_shouldObserve_iff (entry : PaneEntry) (decision : ObservationDecision) :
    (entry.redecide decision).shouldObserve ↔
      decision.isObserved ∧ (entry.observation ≠ decision → entry.metadataRevision < u64Max) := by
  unfold redecide shouldObserve
  split
  · split
    · grind [checkedNext_eq_some]
    · grind [checkedNext_eq_none, isObserved]
  · grind

/-- A new decision without a revision gives the pane up. -/
theorem redecide_exhausted (hNe : entry.observation ≠ decision)
    (hMax : entry.metadataRevision = u64Max) :
    (entry.redecide decision).revisionNamespaceIsExhausted := by
  have hNext : checkedNext u64Max entry.metadataRevision = none :=
    checkedNext_eq_none.mpr hMax.ge
  rw [exhausted_iff]
  unfold redecide
  rw [if_pos hNe, hNext]
  exact .inr ⟨rfl, hMax⟩

theorem redecide_fits (hFits : entry.Fits paneId) : (entry.redecide decision).Fits paneId := by
  unfold redecide
  split
  · split
    · rename_i hNext
      exact { hFits with metadata := checkedNext_le hNext }
    · exact { hFits with }
  · exact { hFits with }

theorem redecide_lifecycle (entry : PaneEntry) (decision : ObservationDecision) :
    (entry.redecide decision).lifecycleRevision = entry.lifecycleRevision ∧
      (entry.redecide decision).lifecycleIdentity = entry.lifecycleIdentity := by
  unfold redecide
  split
  · split <;> exact ⟨rfl, rfl⟩
  · exact ⟨rfl, rfl⟩

/-- An entry with a cursor that has moved is the same in all that a decision depends on. -/
theorem moveCursor_spec (wasObserved isObserved : Bool) (paneId other : UInt64) (slot : Slot) :
    let moved := moveCursor wasObserved isObserved paneId slot
    (slot.entry.Fits other → moved.entry.Fits other) ∧
    (moved.entry.Spent ↔ slot.entry.Spent) ∧
    (moved.entry.revisionNamespaceIsExhausted = slot.entry.revisionNamespaceIsExhausted) ∧
    moved.entry.shouldObserve = slot.entry.shouldObserve ∧
    moved.entry.lifecycleIdentity = slot.entry.lifecycleIdentity := by
  obtain ⟨seq, hEntry⟩ := moveCursor_entry wasObserved isObserved paneId slot
  simp only [hEntry]
  exact ⟨fun hFits => { hFits with }, Iff.rfl, rfl, rfl, trivial⟩

/-- A pane that is listed twice is not captured, and it is marked if there is no revision for
that. -/
theorem listDuplicate_spec (slot : Slot) (paneId : UInt64) (diff : DiscoveryDiff)
    (hFits : slot.entry.Fits paneId) (hSynced : slot.Synced) :
    let next := listDuplicate slot paneId diff
    next.1.entry.Fits paneId ∧ (slot.entry.Spent → next.1.entry.Spent) ∧ next.1.Synced ∧
    next.1.entry.shouldObserve = false ∧
    next.1.entry.lifecycleIdentity = slot.entry.lifecycleIdentity ∧
    (slot.entry.observation ≠ .ignored "duplicate_pane_identity" →
      slot.entry.metadataRevision = u64Max → next.1.entry.revisionNamespaceIsExhausted) := by
  have hIgnored : (slot.entry.redecide (.ignored "duplicate_pane_identity")).shouldObserve =
      false := by
    rw [← Bool.not_eq_true, redecide_shouldObserve_iff]
    exact fun h => absurd h.1 (by decide)
  obtain ⟨hMovedFits, hMovedSpent, hMovedMark, hMovedObserve, hMovedIdentity⟩ :=
    moveCursor_spec slot.entry.shouldObserve false paneId paneId
      { slot with entry := slot.entry.redecide (.ignored "duplicate_pane_identity") }
  refine ⟨hMovedFits (redecide_fits hFits), fun hSpent => hMovedSpent.mpr ?_,
    moveCursor_synced hSynced hIgnored, hMovedObserve.trans hIgnored,
    hMovedIdentity.trans (redecide_lifecycle _ _).2, fun hNe hMax => ?_⟩
  · rcases hSpent with hMark | hEnd
    · rcases exhausted_iff.mp hMark with ⟨hReason, hEnd⟩ | ⟨hReason, hEnd⟩
      · exact .inr ((redecide_lifecycle _ _).1.trans hEnd)
      · exact .inl (redecide_exhausted (by rw [hReason]; decide) hEnd)
    · exact .inr ((redecide_lifecycle _ _).1.trans hEnd)
  · exact hMovedMark.trans (redecide_exhausted hNe hMax)

/-- When a pane that is listed twice is reported as exhausted. -/
theorem listDuplicate_reported_iff (hFits : slot.entry.Fits paneId)
    (hDiff : paneId ∉ diff.revisionExhaustedPanes) :
    paneId ∈ (listDuplicate slot paneId diff).2.revisionExhaustedPanes ↔
      slot.entry.metadataRevision = u64Max ∧
        slot.entry.observation ≠ .ignored "duplicate_pane_identity" := by
  have hMetadata := hFits.metadata
  unfold listDuplicate reportDuplicate
  dsimp only
  split
  · split
    · grind [checkedNext_eq_some]
    · grind [checkedNext_eq_none]
  · grind

theorem reEvaluateSlot_of_exhausted (h : slot.entry.revisionNamespaceIsExhausted) :
    (reEvaluateSlot decision slot paneId).1 = slot := by
  unfold reEvaluateSlot
  rw [if_pos h]

/-- New rules decide by themselves: they do not know why a pane was withheld. -/
theorem reEvaluateSlot_shouldObserve_iff
    (h : ¬slot.entry.revisionNamespaceIsExhausted) :
    (reEvaluateSlot decision slot paneId).1.entry.shouldObserve ↔ decision.isObserved ∧
        (slot.entry.observation ≠ decision → slot.entry.metadataRevision < u64Max) := by
  unfold reEvaluateSlot
  rw [if_neg h]
  rw [(moveCursor_spec _ _ _ paneId _).2.2.2.1]
  exact redecide_shouldObserve_iff slot.entry decision

theorem reEvaluateSlot_spec (decision : ObservationDecision) (slot : Slot) (paneId : UInt64)
    (hFits : slot.entry.Fits paneId) (hSynced : slot.Synced) :
    let next := (reEvaluateSlot decision slot paneId).1
    next.entry.Fits paneId ∧ (slot.entry.Spent → next.entry.Spent) ∧ next.Synced ∧
    next.entry.lifecycleIdentity = slot.entry.lifecycleIdentity ∧
    (slot.entry.observation ≠ decision → slot.entry.metadataRevision = u64Max →
      next.entry.revisionNamespaceIsExhausted) := by
  by_cases h : slot.entry.revisionNamespaceIsExhausted
  · rw [reEvaluateSlot_of_exhausted h]
    exact ⟨hFits, id, hSynced, rfl, fun _ _ => h⟩
  · unfold reEvaluateSlot
    rw [if_neg h]
    obtain ⟨hMovedFits, hMovedSpent, hMovedMark, -, hMovedIdentity⟩ :=
      moveCursor_spec slot.entry.shouldObserve (slot.entry.redecide decision).shouldObserve
        paneId paneId { slot with entry := slot.entry.redecide decision }
    refine ⟨hMovedFits (redecide_fits hFits), fun hSpent => hMovedSpent.mpr (.inr ?_),
      moveCursor_synced hSynced rfl, hMovedIdentity.trans (redecide_lifecycle _ _).2,
      fun hNe hMax => ?_⟩
    · exact (redecide_lifecycle _ _).1.trans (hSpent.resolve_left h)
    · exact hMovedMark.trans (redecide_exhausted hNe hMax)

/-! ## One pane among the others -/

namespace PaneRegistry

/-- The registry has the slot for a pane. -/
def Has (registry : PaneRegistry) (paneId : UInt64) (slot : Slot) : Prop :=
  registry.entries[paneId]? = some slot.entry ∧ registry.cursors[paneId]? = slot.cursor

/-- Two registries have the same on a pane, and so have the reports of exhausted panes. -/
def Untouched (paneId : UInt64) (before after : PaneRegistry × DiscoveryDiff) : Prop :=
  after.1.entries[paneId]? = before.1.entries[paneId]? ∧
  after.1.cursors[paneId]? = before.1.cursors[paneId]? ∧
  (paneId ∈ after.2.revisionExhaustedPanes ↔ paneId ∈ before.2.revisionExhaustedPanes)

variable {texts : Texts} {registry : PaneRegistry} {other : UInt64}
  {acc : PaneRegistry × DiscoveryDiff}

theorem Untouched.refl : Untouched paneId acc acc := ⟨rfl, rfl, Iff.rfl⟩

theorem Untouched.trans {first second third : PaneRegistry × DiscoveryDiff}
    (h : Untouched paneId first second) (h' : Untouched paneId second third) :
    Untouched paneId first third :=
  ⟨h'.1.trans h.1, h'.2.1.trans h.2.1, h'.2.2.trans h.2.2⟩

theorem Untouched.has {before after : PaneRegistry × DiscoveryDiff}
    (h : Untouched paneId before after) : after.1.Has paneId slot ↔ before.1.Has paneId slot := by
  unfold Has
  rw [h.1, h.2.1]

theorem Untouched.foldl {α : Type}
    {f : PaneRegistry × DiscoveryDiff → α → PaneRegistry × DiscoveryDiff} {items : List α}
    (h : ∀ acc, ∀ item ∈ items, Untouched paneId acc (f acc item))
    (acc : PaneRegistry × DiscoveryDiff) : Untouched paneId acc (items.foldl f acc) := by
  induction items generalizing acc with
  | nil => exact .refl
  | cons item _ ih =>
    have hFirst := h acc item (by simp)
    exact hFirst.trans (ih (fun acc other hMem => h acc other (by simp [hMem])) (f acc item))

/-- A loop that touches a pane at one item only. -/
theorem Untouched.foldl_around {α : Type} {item : α} {front back : List α}
    {f : PaneRegistry × DiscoveryDiff → α → PaneRegistry × DiscoveryDiff}
    (hFront : ∀ acc, ∀ other ∈ front, Untouched paneId acc (f acc other))
    (hBack : ∀ acc, ∀ other ∈ back, Untouched paneId acc (f acc other))
    (acc : PaneRegistry × DiscoveryDiff) :
    Untouched paneId acc (front.foldl f acc) ∧
      Untouched paneId (f (front.foldl f acc) item) ((front ++ item :: back).foldl f acc) := by
  rw [foldl_append, foldl_cons]
  exact ⟨Untouched.foldl hFront acc, Untouched.foldl hBack _⟩

theorem slot?_eq_some : registry.slot? paneId = some slot ↔ registry.Has paneId slot := by
  unfold slot? Has
  cases registry.entries[paneId]? <;> cases slot <;> simp

theorem slot?_eq_none :
    registry.slot? paneId = none ↔ registry.entries[paneId]? = none := by
  unfold slot?
  rw [Option.map_eq_none_iff]

theorem store_has (registry : PaneRegistry) (paneId : UInt64) (slot : Slot) :
    (registry.store paneId slot).Has paneId slot := by
  unfold store Has
  refine ⟨TreeMap.getElem?_insert_self, ?_⟩
  cases slot.cursor with
  | some => exact TreeMap.getElem?_insert_self
  | none => exact TreeMap.getElem?_erase_self

theorem store_of_ne (h : other ≠ paneId) :
    (registry.store paneId slot).entries[other]? = registry.entries[other]? ∧
    (registry.store paneId slot).cursors[other]? = registry.cursors[other]? := by
  unfold store
  refine ⟨by grind, ?_⟩
  cases slot.cursor with
  | some => grind
  | none => grind

theorem versionMetadata_reported_of_ne {listing : Listing} {metadataDiff : Nat}
    (hNe : other ≠ paneId) :
    other ∈ (versionMetadata listing paneId metadataDiff).diff.revisionExhaustedPanes ↔
      other ∈ listing.diff.revisionExhaustedPanes := by
  unfold versionMetadata
  repeat' split
  all_goals simp [hNe]

theorem listTracked_reported_of_ne (hNe : paneId ≠ pane.paneId) :
    paneId ∈ (listTracked decision slot pane diff).2.revisionExhaustedPanes ↔
      paneId ∈ diff.revisionExhaustedPanes := by
  by_cases h : slot.entry.revisionNamespaceIsExhausted
  · rw [listTracked_of_exhausted h]
  · rw [listTracked_reported h]
    refine (versionMetadata_reported_of_ne hNe).trans ?_
    unfold continueLifecycle
    repeat' split
    all_goals simp [hNe, PaneLifecycleIdentity.fromPaneInfo]

theorem listPane_untouched {uuids : UInt64 → String} {duplicates : TreeSet UInt64}
    (h : pane.paneId = paneId → duplicates.contains paneId) :
    Untouched paneId acc (listPane texts uuids duplicates acc pane) := by
  obtain ⟨registry, diff⟩ := acc
  unfold listPane
  dsimp only
  split
  · exact .refl
  · rename_i hUnique
    have hNe : paneId ≠ pane.paneId := fun hEq => hUnique (hEq ▸ h hEq.symm)
    split
    · exact ⟨(store_of_ne hNe).1, (store_of_ne hNe).2, listTracked_reported_of_ne hNe⟩
    · exact ⟨(store_of_ne hNe).1, (store_of_ne hNe).2, Iff.rfl⟩

theorem withholdDuplicate_untouched (hNe : other ≠ paneId) :
    Untouched other acc (withholdDuplicate acc paneId) := by
  obtain ⟨registry, diff⟩ := acc
  unfold withholdDuplicate
  dsimp only
  split
  · refine ⟨(store_of_ne hNe).1, (store_of_ne hNe).2, ?_⟩
    unfold listDuplicate reportDuplicate
    repeat' split
    all_goals simp [hNe]
  · exact ⟨rfl, rfl, Iff.rfl⟩

theorem closePane_untouched (hNe : other ≠ paneId) :
    Untouched other acc (closePane acc paneId) := by
  refine ⟨?_, ?_, Iff.rfl⟩ <;> simp only [closePane] <;> grind

theorem seenAndDuplicates_spec (panes : List PaneInfo) (paneId : UInt64) :
    ((seenAndDuplicates panes).1.contains paneId ↔ paneId ∈ panes.map (·.paneId)) ∧
    ((seenAndDuplicates panes).2.contains paneId ↔ 1 < (panes.map (·.paneId)).count paneId) := by
  induction panes using List.reverseRecOn with
  | nil => simp [seenAndDuplicates]
  | append_singleton panes pane ih =>
    unfold seenAndDuplicates at ih ⊢
    simp only [map_append, map_cons, map_nil, mem_append, mem_singleton, count_append,
      count_singleton]
    have hPos := count_pos_iff (a := paneId) (l := panes.map (·.paneId))
    constructor
    · grind
    · by_cases hEq : pane.paneId = paneId
      · split <;> grind
      · split <;> grind

theorem listPane_filterConfig {uuids : UInt64 → String}
    {duplicates : TreeSet UInt64} (panes : List PaneInfo) :
    (panes.foldl (listPane texts uuids duplicates) acc).1.filterConfig = acc.1.filterConfig := by
  refine Loop.foldl_keeps _ (·.1.filterConfig) (fun acc pane => ?_) panes acc
  unfold listPane
  dsimp only
  split
  · rfl
  · split <;> rfl

/-- The only row of a pane in a listing. -/
structure OnlyRow (panes : List PaneInfo) (paneId : UInt64) (pane : PaneInfo) : Prop where
  mem : pane ∈ panes
  paneId_eq : pane.paneId = paneId
  count_eq : (panes.map (·.paneId)).count paneId = 1

theorem OnlyRow.split {panes : List PaneInfo} (h : OnlyRow panes paneId pane) :
    ∃ front back, panes = front ++ pane :: back ∧
      (∀ other ∈ front, other.paneId ≠ paneId) ∧ ∀ other ∈ back, other.paneId ≠ paneId := by
  obtain ⟨hMem, hId, hCount⟩ := h
  obtain ⟨front, back, rfl⟩ := append_of_mem hMem
  rw [map_append, map_cons, count_append, hId, count_cons_self] at hCount
  have hFront : paneId ∉ front.map (·.paneId) := count_eq_zero.mp (by omega)
  have hBack : paneId ∉ back.map (·.paneId) := count_eq_zero.mp (by omega)
  exact ⟨front, back, rfl, fun other hOther hEq => hFront (mem_map.mpr ⟨other, hOther, hEq⟩),
    fun other hOther hEq => hBack (mem_map.mpr ⟨other, hOther, hEq⟩)⟩

theorem OnlyRow.eq {panes : List PaneInfo} {other : PaneInfo} (h : OnlyRow panes paneId pane)
    (hMem : other ∈ panes) (hId : other.paneId = paneId) : other = pane := by
  obtain ⟨front, back, rfl, hFront, hBack⟩ := h.split
  rcases mem_append.mp hMem with hIn | hIn
  · exact absurd hId (hFront other hIn)
  · rcases mem_cons.mp hIn with hEq | hIn
    · exact hEq
    · exact absurd hId (hBack other hIn)

/-- What a listing does to a pane. -/
inductive Ticked (texts : Texts) (uuids : UInt64 → String) (registry : PaneRegistry)
    (panes : List PaneInfo) (paneId : UInt64) (next : PaneRegistry × DiscoveryDiff) : Prop where
  /-- A pane that is not listed is forgotten. -/
  | unlisted (hUnlisted : paneId ∉ panes.map (·.paneId)) (hEntry : next.1.entries[paneId]? = none)
      (hCursor : next.1.cursors[paneId]? = none ∨ (registry.entries[paneId]? = none ∧
          next.1.cursors[paneId]? = registry.cursors[paneId]?))
      (hReport : paneId ∉ next.2.revisionExhaustedPanes)
  /-- A pane that is known and listed once. -/
  | listed (pane : PaneInfo) (slot : Slot) (diff : DiscoveryDiff) (hRow : OnlyRow panes paneId pane)
      (hHas : registry.Has paneId slot) (hDiff : paneId ∉ diff.revisionExhaustedPanes)
      (hNext : next.1.Has paneId
        (listTracked (decideObservation texts registry.filterConfig pane) slot pane diff).1)
      (hReport : paneId ∈ next.2.revisionExhaustedPanes ↔ paneId ∈ (listTracked
        (decideObservation texts registry.filterConfig pane) slot pane diff).2.revisionExhaustedPanes)
  /-- A pane that is listed once for the first time. -/
  | opened (pane : PaneInfo) (hRow : OnlyRow panes paneId pane)
      (hNone : registry.entries[paneId]? = none)
      (hEntry : next.1.entries[paneId]? = some (newEntry texts registry (uuids paneId) pane))
      (hCursor : next.1.cursors[paneId]? =
        if (newEntry texts registry (uuids paneId) pane).shouldObserve then
          some (PaneCursor.new paneId)
        else registry.cursors[paneId]?)
      (hReport : paneId ∉ next.2.revisionExhaustedPanes)
  /-- A pane that is known and listed more than once. -/
  | repeated (slot : Slot) (diff : DiscoveryDiff)
      (hTwice : 1 < (panes.map (·.paneId)).count paneId) (hHas : registry.Has paneId slot)
      (hDiff : paneId ∉ diff.revisionExhaustedPanes)
      (hNext : next.1.Has paneId (listDuplicate slot paneId diff).1)
      (hReport : paneId ∈ next.2.revisionExhaustedPanes ↔
        paneId ∈ (listDuplicate slot paneId diff).2.revisionExhaustedPanes)
  /-- A pane that is not known and listed more than once. -/
  | unknown (hTwice : 1 < (panes.map (·.paneId)).count paneId)
      (hNone : registry.entries[paneId]? = none) (hEntry : next.1.entries[paneId]? = none)
      (hCursor : next.1.cursors[paneId]? = registry.cursors[paneId]?)
      (hReport : paneId ∉ next.2.revisionExhaustedPanes)

section Ticked

variable {uuids : UInt64 → String}
  {panes : List PaneInfo}

/-- The rows of a listing leave a pane alone that is not among them, or is repeated. -/
theorem rows_untouched (h : (panes.map (·.paneId)).count paneId ≠ 1)
    (acc : PaneRegistry × DiscoveryDiff) :
    Untouched paneId acc
      (panes.foldl (listPane texts uuids (seenAndDuplicates panes).2) acc) := by
  apply Untouched.foldl
  intro acc pane hMem
  apply listPane_untouched
  intro hId
  have hPos : 0 < (panes.map (·.paneId)).count paneId :=
    count_pos_iff.mpr (mem_map.mpr ⟨pane, hMem, hId⟩)
  rw [(seenAndDuplicates_spec panes paneId).2]
  omega

theorem duplicates_untouched (h : (panes.map (·.paneId)).count paneId ≤ 1)
    (acc : PaneRegistry × DiscoveryDiff) :
    Untouched paneId acc ((seenAndDuplicates panes).2.toList.foldl withholdDuplicate acc) := by
  apply Untouched.foldl
  intro acc other hMem
  apply withholdDuplicate_untouched
  rintro rfl
  have hContains := (seenAndDuplicates_spec panes paneId).2.mp
    (TreeSet.contains_iff_mem.mpr (TreeSet.mem_toList.mp hMem))
  omega

theorem closed_untouched
    (h : paneId ∈ panes.map (·.paneId) ∨ acc.1.entries[paneId]? = none) :
    Untouched paneId acc ((acc.1.entries.keys.filter
      (!(seenAndDuplicates panes).1.contains ·)).foldl closePane acc) := by
  apply Untouched.foldl
  intro acc' other hMem
  apply closePane_untouched
  rintro rfl
  obtain ⟨hKey, hUnseen⟩ := mem_filter.mp hMem
  rcases h with hListed | hNone
  · rw [(seenAndDuplicates_spec panes paneId).1.mpr hListed] at hUnseen
    exact absurd hUnseen (by decide)
  · rw [TreeMap.mem_keys] at hKey
    rw [TreeMap.getElem?_eq_some_getElem hKey] at hNone
    exact absurd hNone (by simp)

theorem closed_forgets
    (hUnlisted : paneId ∉ panes.map (·.paneId)) (hMem : paneId ∈ acc.1.entries) :
    let next := (acc.1.entries.keys.filter
      (!(seenAndDuplicates panes).1.contains ·)).foldl closePane acc
    next.1.entries[paneId]? = none ∧ next.1.cursors[paneId]? = none ∧
      (paneId ∈ next.2.revisionExhaustedPanes ↔ paneId ∈ acc.2.revisionExhaustedPanes) := by
  have hUnseen : (seenAndDuplicates panes).1.contains paneId = false := by
    rw [← Bool.not_eq_true, (seenAndDuplicates_spec panes paneId).1]
    exact hUnlisted
  have hClosed : paneId ∈ acc.1.entries.keys.filter (!(seenAndDuplicates panes).1.contains ·) :=
    mem_filter.mpr ⟨TreeMap.mem_keys.mpr hMem, by rw [hUnseen]; rfl⟩
  -- once closed, the pane stays away
  have hStays : ∀ (ids : List UInt64) (acc : PaneRegistry × DiscoveryDiff),
      acc.1.entries[paneId]? = none ∧ acc.1.cursors[paneId]? = none →
      (ids.foldl closePane acc).1.entries[paneId]? = none ∧
      (ids.foldl closePane acc).1.cursors[paneId]? = none := by
    refine fun ids acc h => List.foldlRecOn (motive := fun acc =>
      acc.1.entries[paneId]? = none ∧ acc.1.cursors[paneId]? = none) ids closePane h ?_
    refine fun acc h id _ => ⟨?_, ?_⟩ <;> simp only [closePane] <;> grind
  have hReport : ∀ ids : List UInt64, (ids.foldl closePane acc).2.revisionExhaustedPanes =
      acc.2.revisionExhaustedPanes :=
    fun ids => Loop.foldl_keeps closePane (·.2.revisionExhaustedPanes) (fun _ _ => rfl) ids acc
  obtain ⟨front, back, hSplit⟩ := append_of_mem hClosed
  intro next
  refine ⟨?_, ?_, by rw [hReport]⟩ <;>
    simp only [next, hSplit, foldl_append, foldl_cons]
  · exact (hStays back _ (by simp [closePane])).1
  · exact (hStays back _ (by simp [closePane])).2

theorem discoveryTick_filterConfig (texts : Texts) (uuids : UInt64 → String)
    (registry : PaneRegistry) (panes : List PaneInfo) :
    (registry.discoveryTick texts uuids panes).1.filterConfig = registry.filterConfig := by
  have hDuplicates : ∀ acc paneId,
      (withholdDuplicate acc paneId).1.filterConfig = acc.1.filterConfig := by
    intro acc paneId
    unfold withholdDuplicate
    dsimp only
    split <;> rfl
  unfold discoveryTick
  rw [Loop.foldl_keeps closePane (·.1.filterConfig) (fun _ _ => rfl),
    Loop.foldl_keeps withholdDuplicate (·.1.filterConfig) hDuplicates, listPane_filterConfig]

theorem ticked_once (hRow : OnlyRow panes paneId pane) :
    Ticked texts uuids registry panes paneId (registry.discoveryTick texts uuids panes) := by
  obtain ⟨front, back, hSplit, hFront, hBack⟩ := hRow.split
  have hListed : paneId ∈ panes.map (·.paneId) :=
    mem_map.mpr ⟨pane, hRow.mem, hRow.paneId_eq⟩
  have hUnique : (seenAndDuplicates panes).2.contains pane.paneId = false := by
    rw [← Bool.not_eq_true, (seenAndDuplicates_spec panes _).2, hRow.paneId_eq, hRow.count_eq]
    decide
  unfold discoveryTick
  dsimp only
  generalize hDup : (seenAndDuplicates panes).2 = duplicates at *
  have hOther : ∀ {rows : List PaneInfo}, (∀ other ∈ rows, other.paneId ≠ paneId) →
      ∀ acc, ∀ other ∈ rows, Untouched paneId acc (listPane texts uuids duplicates acc other) :=
    fun hRows _ other hMem => listPane_untouched fun hEq => absurd hEq (hRows other hMem)
  obtain ⟨hBefore, hAfter⟩ :=
    @Untouched.foldl_around paneId _ pane _ _ _ (hOther hFront) (hOther hBack) (registry, {})
  have hConfig : (front.foldl (listPane texts uuids duplicates) (registry, {})).1.filterConfig =
      registry.filterConfig := listPane_filterConfig front
  have hDuplicates : ∀ acc, Untouched paneId acc (duplicates.toList.foldl withholdDuplicate acc) :=
    hDup ▸ duplicates_untouched hRow.count_eq.le
  rw [← hSplit] at hAfter
  generalize front.foldl (listPane texts uuids duplicates) (registry, {}) = mid at *
  have hKept := hAfter.trans
    ((hDuplicates _).trans (@closed_untouched paneId _ panes (.inl hListed)))
  generalize foldl closePane _ _ = final at *
  obtain rfl := hRow.paneId_eq
  obtain ⟨current, diff⟩ := mid
  change current.filterConfig = registry.filterConfig at hConfig
  have hDiff : pane.paneId ∉ diff.revisionExhaustedPanes := by
    rw [hBefore.2.2]
    simp
  cases hSlot : current.slot? pane.paneId with
  | some slot =>
    simp only [listPane, hUnique, hSlot, hConfig] at hKept
    exact .listed pane slot diff hRow (hBefore.has.mp (slot?_eq_some.mp hSlot)) hDiff
      (hKept.has.mpr (store_has _ _ _)) hKept.2.2
  | none =>
    have hNone := hBefore.1.symm.trans (slot?_eq_none.mp hSlot)
    have hCursor : current.cursors[pane.paneId]? = registry.cursors[pane.paneId]? := hBefore.2.1
    simp only [listPane, hUnique, hSlot, newEntry, hConfig, hCursor] at hKept
    have hHas := hKept.has.mpr (store_has current pane.paneId _)
    exact .opened pane hRow hNone hHas.1 hHas.2 (fun hMem => hDiff (hKept.2.2.mp hMem))

theorem ticked_twice (hTwice : 1 < (panes.map (·.paneId)).count paneId) :
    Ticked texts uuids registry panes paneId (registry.discoveryTick texts uuids panes) := by
  have hListed : paneId ∈ panes.map (·.paneId) := count_pos_iff.mp (by omega)
  have hRows := @rows_untouched paneId texts uuids panes (by omega) (registry, {})
  have hMem : paneId ∈ (seenAndDuplicates panes).2.toList :=
    TreeSet.mem_toList.mpr (TreeSet.contains_iff_mem.mp
      ((seenAndDuplicates_spec panes paneId).2.mpr hTwice))
  obtain ⟨front, back, hSplit⟩ := append_of_mem hMem
  have hDistinct := (seenAndDuplicates panes).2.distinct_toList
  rw [hSplit, pairwise_append, pairwise_cons] at hDistinct
  unfold discoveryTick
  dsimp only
  obtain ⟨hBefore, hAfter⟩ := @Untouched.foldl_around paneId _ paneId front back withholdDuplicate
    (fun _ other hOther => withholdDuplicate_untouched fun hEq =>
      hDistinct.2.2 other hOther paneId (by simp) (by simp [hEq]))
    (fun _ other hOther => withholdDuplicate_untouched fun hEq =>
      hDistinct.2.1.1 other hOther (by simp [hEq])) _
  rw [hSplit]
  have hMid := hRows.trans hBefore
  generalize front.foldl withholdDuplicate _ = mid at *
  have hKept := hAfter.trans (@closed_untouched paneId _ panes (.inl hListed))
  generalize foldl closePane _ _ = final at *
  obtain ⟨current, diff⟩ := mid
  have hDiff : paneId ∉ diff.revisionExhaustedPanes := by
    rw [hMid.2.2]
    simp
  cases hSlot : current.slot? paneId with
  | some slot =>
    simp only [withholdDuplicate, hSlot] at hKept
    refine .repeated slot _ hTwice (hMid.has.mp (slot?_eq_some.mp hSlot)) ?_
      (hKept.has.mpr (store_has _ _ _)) hKept.2.2
    exact hDiff
  | none =>
    have hNone := hMid.1.symm.trans (slot?_eq_none.mp hSlot)
    simp only [withholdDuplicate, hSlot] at hKept
    exact .unknown hTwice hNone (hKept.1.trans (slot?_eq_none.mp hSlot))
      (hKept.2.1.trans hMid.2.1) (fun hMem => hDiff (hKept.2.2.mp hMem))

/-- **A listing decides on every pane by its own rows.** -/
theorem discoveryTick_ticked (texts : Texts) (uuids : UInt64 → String) (registry : PaneRegistry)
    (panes : List PaneInfo) (paneId : UInt64) :
    Ticked texts uuids registry panes paneId (registry.discoveryTick texts uuids panes) := by
  unfold discoveryTick
  rcases Nat.lt_trichotomy ((panes.map (·.paneId)).count paneId) 1 with hNever | hOnce | hTwice
  · have hUnlisted : paneId ∉ panes.map (·.paneId) := count_eq_zero.mp (by omega)
    have hRows := @rows_untouched paneId texts uuids panes (by omega) (registry, {})
    have hKept := hRows.trans (@duplicates_untouched paneId panes (by omega) _)
    by_cases hKnown : paneId ∈ registry.entries
    · obtain ⟨hEntry, hCursor, hReport⟩ := closed_forgets hUnlisted
        (TreeMap.mem_iff_isSome_getElem?.mpr
          (hKept.1.symm ▸ TreeMap.mem_iff_isSome_getElem?.mp hKnown))
      refine .unlisted hUnlisted hEntry (.inl hCursor) ?_
      rw [hReport, hKept.2.2]
      simp
    · have hNone : registry.entries[paneId]? = none := TreeMap.getElem?_eq_none hKnown
      obtain ⟨hEntry, hCursor, hReport⟩ :=
        hKept.trans (@closed_untouched paneId _ panes (.inr (hKept.1.trans hNone)))
      refine .unlisted hUnlisted (hEntry.trans hNone) (.inr ⟨hNone, hCursor⟩) ?_
      rw [hReport]
      simp
  · obtain ⟨pane, hMem, hId⟩ := mem_map.mp (count_pos_iff.mp (by omega :
      0 < (panes.map (·.paneId)).count paneId))
    exact ticked_once ⟨hMem, hId, hOnce⟩
  · exact ticked_twice hTwice

end Ticked

/-! ## New filter rules -/

theorem reEvaluateObservation_of_ne (hNe : other ≠ paneId) :
    (registry.reEvaluateObservation texts paneId).1.entries[other]? = registry.entries[other]? ∧
    (registry.reEvaluateObservation texts paneId).1.cursors[other]? =
      registry.cursors[other]? := by
  unfold reEvaluateObservation
  split
  · exact ⟨rfl, rfl⟩
  · exact store_of_ne hNe

theorem reEvaluateObservation_of_none (h : registry.entries[paneId]? = none) :
    registry.reEvaluateObservation texts paneId = (registry, .unchanged) := by
  unfold reEvaluateObservation
  rw [slot?_eq_none.mpr h]

theorem reEvaluateObservation_has (h : registry.Has paneId slot) :
    (registry.reEvaluateObservation texts paneId).1.Has paneId
      (reEvaluateSlot (decideObservation texts registry.filterConfig slot.entry.info) slot
        paneId).1 := by
  unfold reEvaluateObservation
  rw [slot?_eq_some.mpr h]
  exact store_has _ _ _

theorem reEvaluateObservation_filterConfig (texts : Texts) (registry : PaneRegistry)
    (paneId : UInt64) :
    (registry.reEvaluateObservation texts paneId).1.filterConfig = registry.filterConfig := by
  unfold reEvaluateObservation
  split <;> rfl

/-- Applying the rules to one pane after the other does to each what it does to it alone. -/
theorem setFilter_run (texts : Texts) (paneIds : List UInt64) (hNodup : paneIds.Nodup)
    (registry : PaneRegistry) (changes : List PaneMetadataChange) (paneId : UInt64) :
    let next := (paneIds.foldl
      (fun (current, changes) paneId =>
        let next := (current.reEvaluateObservation texts paneId).1
        (next, changes ++ (filterChange current next paneId).toList))
      (registry, changes)).1
    (paneId ∉ paneIds → next.entries[paneId]? = registry.entries[paneId]? ∧
      next.cursors[paneId]? = registry.cursors[paneId]?) ∧
    (paneId ∈ paneIds → ∀ slot, registry.Has paneId slot → next.Has paneId
      (reEvaluateSlot (decideObservation texts registry.filterConfig slot.entry.info) slot
        paneId).1) := by
  induction paneIds generalizing registry changes with
  | nil => exact ⟨fun _ => ⟨rfl, rfl⟩, nofun⟩
  | cons first _ ih =>
    obtain ⟨hFirst, hRest⟩ := nodup_cons.mp hNodup
    obtain ⟨hOutside, hInside⟩ := ih hRest (registry.reEvaluateObservation texts first).1
      (changes ++ (filterChange registry (registry.reEvaluateObservation texts first).1
        first).toList)
    refine ⟨fun hNot => ?_, fun hMem slot hHas => ?_⟩
    · rw [mem_cons, not_or] at hNot
      obtain ⟨hEntry, hCursor⟩ := hOutside hNot.2
      obtain ⟨hEntry', hCursor'⟩ := @reEvaluateObservation_of_ne first texts registry paneId hNot.1
      exact ⟨hEntry.trans hEntry', hCursor.trans hCursor'⟩
    · by_cases hEq : paneId = first
      · subst hEq
        obtain ⟨hEntry, hCursor⟩ := hOutside hFirst
        obtain ⟨hEntry', hCursor'⟩ := @reEvaluateObservation_has slot paneId texts registry hHas
        exact ⟨hEntry.trans hEntry', hCursor.trans hCursor'⟩
      · obtain ⟨hEntry', hCursor'⟩ := @reEvaluateObservation_of_ne first texts registry paneId hEq
        have hStill : (registry.reEvaluateObservation texts first).1.Has paneId slot :=
          ⟨hEntry'.trans hHas.1, hCursor'.trans hHas.2⟩
        have hNext := hInside ((mem_cons.mp hMem).resolve_left hEq) slot hStill
        rwa [reEvaluateObservation_filterConfig] at hNext

/-- **New filter rules decide on every pane anew**, and on this pane alone. -/
theorem setFilter_slot (texts : Texts) (registry : PaneRegistry) (filterConfig : PaneFilterConfig)
    (paneId : UInt64) :
    let next := (registry.setFilter texts filterConfig).1
    (registry.entries[paneId]? = none → next.entries[paneId]? = none ∧
      next.cursors[paneId]? = registry.cursors[paneId]?) ∧
    (∀ slot, registry.Has paneId slot → next.Has paneId
      (reEvaluateSlot (decideObservation texts filterConfig slot.entry.info) slot paneId).1) := by
  have hNodup : registry.entries.keys.Nodup := TreeMap.nodup_keys
  obtain ⟨hOutside, hInside⟩ :=
    setFilter_run texts registry.entries.keys hNodup { registry with filterConfig } [] paneId
  refine ⟨fun hNone => ?_, fun slot hHas => hInside ?_ slot hHas⟩
  · have hNot : paneId ∉ registry.entries.keys := by
      grind
    exact ⟨(hOutside hNot).1.trans hNone, (hOutside hNot).2⟩
  · have := hHas.1
    grind

end PaneRegistry

end FrankenTerm.Ports.IngestRegistry
