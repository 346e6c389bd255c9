import FrankenTerm.Ports.IngestRegistry

/-!
# Panes of uncertain identity are not captured

A pane is *in doubt* when its last listing repeated its number, or lacked a domain or a terminal
that a listing of the same process has shown.  It is *spent* when a change of it has found no next
revision since it is tracked.  Neither should be captured: no listing has told which process the
pane shows, or the pane's state cannot be numbered any more.

`Watched` follows a registry through its calls.  It keeps the rows that have shown a pane since its
process started, and from these and the calls it says who is in doubt and who is spent.  The
registry keeps of the rows what they agree on, which is enough (`Shows`), and a reason in the entry,
which two calls lose.  New filter rules decide by themselves and take up a pane in doubt.  A listing
that repeats the number of a pane whose lifecycle counter has run out writes another reason over the
mark, and the next listing takes the pane up.  `Careful` says when a call does neither.

## Main results

* `Shows.continuity` — the stored identity continues in a row exactly as the rows shown do.
* `runsOut_iff_reported` — a listing reports the panes whose counter runs out.
* `step_spec` — a call withholds a pane in doubt or spent exactly if it is careful.
* `withheld_iff_careful` — the same for whole runs.
* `withheld_panes_are_captured` — both ways to lose the mark, from an empty registry.
-/

namespace FrankenTerm.Ports.IngestFence

open IngestRegistry IngestRegistry.PaneRegistry List
open PaneEntry PaneLifecycleIdentity

open Std (TreeMap)

/-! ## What listings show of a process -/

section Rows

variable (rows : List PaneInfo) (pane : PaneInfo)

/-- The row lacks a domain or a terminal that the rows have shown. -/
def lacks : Bool :=
  (rows.any (·.domainId.isSome) && pane.domainId.isNone) ||
    (rows.any (·.ttyName.isSome) && pane.ttyName.isNone)

/-- The row has another domain or another terminal than the rows have shown. -/
def differs : Bool :=
  rows.any (fun row => contradicts row.domainId pane.domainId) ||
    rows.any (fun row => contradicts row.ttyName pane.ttyName)

/-- The rows that have shown the process of a pane, behind a listing.  A row in doubt is none of
them, and the rows of a pane that is marked as exhausted are not looked at. -/
def shownBy (marked : Bool) (panes : List PaneInfo) (paneId : UInt64) : List PaneInfo :=
  match panes.filter (·.paneId == paneId) with
  | [] => []
  | [pane] =>
    if marked || lacks rows pane then rows
    else if differs rows pane then [pane]
    else rows ++ [pane]
  | _ => rows

/-- A listing leaves open which process a pane shows. -/
def InDoubt (panes : List PaneInfo) (paneId : UInt64) : Prop :=
  1 < (panes.map (·.paneId)).count paneId ∨
  ∃ pane ∈ panes, pane.paneId = paneId ∧ lacks rows pane

/-- A decision on a pane that has no revision left for it. -/
def NoRevision (entry : PaneEntry) (decision : ObservationDecision) : Prop :=
  entry.metadataRevision = u64Max ∧ entry.observation ≠ decision

/-- A row of a pane finds no revision: no lifecycle revision for another process, or no metadata
revision for a change of the same. -/
def RowRunsOut (entry : PaneEntry) (decision : ObservationDecision) : Prop :=
  if lacks rows pane then entry.metadataRevision = u64Max ∧
    (metadataDiffBetween entry.info pane ≠ 0 ∨
      entry.observation ≠ .ignored "lifecycle_identity_ambiguous")
  else if differs rows pane then entry.lifecycleRevision = u32Max
  else entry.metadataRevision = u64Max ∧
    (metadataDiffBetween entry.info pane ≠ 0 ∨ entry.observation ≠ decision)

end Rows

/-- What the rows have shown in a column, if they agree on it. -/
def Recalls {α : Type} (rows : List PaneInfo) (column : PaneInfo → Option α) (value : Option α) :
    Prop :=
  ∀ a, value = some a ↔ ∃ row ∈ rows, column row = some a

/-- The identity is what the rows have shown. -/
structure Shows (rows : List PaneInfo) (identity : PaneLifecycleIdentity) : Prop where
  domainId : Recalls rows (·.domainId) identity.domainId
  ttyName : Recalls rows (·.ttyName) identity.ttyName

section Evidence

variable {α : Type} {rows : List PaneInfo} {pane : PaneInfo} {column : PaneInfo → Option α}
  {value : Option α} {identity : PaneLifecycleIdentity}

theorem Recalls.any_eq (h : Recalls rows column value) (p : α → Bool) :
    value.any p = rows.any (fun row => (column row).any p) := by
  rw [Bool.eq_iff_iff, Option.any_eq_true, any_eq_true]
  constructor
  · rintro ⟨a, hValue, hp⟩
    obtain ⟨row, hMem, hRow⟩ := (h a).mp hValue
    exact ⟨row, hMem, (Option.any_eq_true _ _).mpr ⟨a, hRow, hp⟩⟩
  · rintro ⟨row, hMem, hAny⟩
    obtain ⟨a, hRow, hp⟩ := (Option.any_eq_true _ _).mp hAny
    exact ⟨a, (h a).mpr ⟨row, hMem, hRow⟩, hp⟩

theorem isSome_eq_any (value : Option α) : value.isSome = value.any (fun _ => true) := by
  cases value <;> rfl

theorem contradicts_eq_any [DecidableEq α] (value next : Option α) :
    contradicts value next = value.any (fun a => next.any (a != ·)) := by
  cases value <;> cases next <;> rfl

theorem recalls_singleton : Recalls [pane] column (column pane) := by
  intro a
  simp

/-- A row that agrees adds what was not shown before. -/
theorem Recalls.merge [DecidableEq α] (h : Recalls rows column value)
    (hAgrees : contradicts value (column pane) = false) :
    Recalls (rows ++ [pane]) column (value.or (column pane)) := by
  intro a
  simp only [mem_append, mem_singleton, or_and_right, exists_or, exists_eq_left, ← h a]
  cases hValue : value with
  | none => simp
  | some b =>
    cases hColumn : column pane with
    | none => simp
    | some c =>
      have hEq : b = c := by simpa [contradicts, hValue, hColumn] using hAgrees
      simp [hEq]

/-- **The identity continues in a row as the rows shown do.** -/
theorem Shows.continuity (h : Shows rows identity) (hId : identity.paneId = pane.paneId) :
    identity.continuityWith (.fromPaneInfo pane) =
      if lacks rows pane then .ambiguous else if differs rows pane then .replaced else .same := by
  have hId : ¬identity.paneId ≠ (fromPaneInfo pane).paneId := not_not.mpr hId
  unfold continuityWith lacks differs
  simp only [if_neg hId, isSome_eq_any, contradicts_eq_any, h.domainId.any_eq, h.ttyName.any_eq]
  rfl

/-- `merge_available_evidence` keeps the identity what the rows have shown. -/
theorem Shows.merge (h : Shows rows identity) (hAgrees : differs rows pane = false) :
    Shows (rows ++ [pane]) (identity.mergeAvailableEvidence (.fromPaneInfo pane)) := by
  unfold differs at hAgrees
  simp only [contradicts_eq_any, ← h.domainId.any_eq, ← h.ttyName.any_eq] at hAgrees
  rw [← contradicts_eq_any, ← contradicts_eq_any, Bool.or_eq_false_iff] at hAgrees
  exact ⟨h.domainId.merge hAgrees.1, h.ttyName.merge hAgrees.2⟩

theorem shows_singleton : Shows [pane] (.fromPaneInfo pane) :=
  ⟨recalls_singleton, recalls_singleton⟩

end Evidence

section Listed

variable {rows panes : List PaneInfo} {pane : PaneInfo} {paneId : UInt64} {marked : Bool}
  {slot : Slot} {diff : DiscoveryDiff} {decision : ObservationDecision}

theorem count_eq_length_filter :
    (panes.map (·.paneId)).count paneId = (panes.filter (·.paneId == paneId)).length := by
  rw [count_eq_countP, countP_map, countP_eq_length_filter]
  rfl

theorem shownBy_of_unlisted (h : paneId ∉ panes.map (·.paneId)) :
    shownBy rows marked panes paneId = [] := by
  have hNone : panes.filter (·.paneId == paneId) = [] := by
    rw [← length_eq_zero_iff, ← count_eq_length_filter, count_eq_zero]
    exact h
  unfold shownBy
  rw [hNone]

theorem shownBy_of_onlyRow (h : OnlyRow panes paneId pane) :
    shownBy rows marked panes paneId = if marked || lacks rows pane then rows
      else if differs rows pane then [pane] else rows ++ [pane] := by
  obtain ⟨row, hRow⟩ := length_eq_one_iff.mp (count_eq_length_filter.symm.trans h.count_eq)
  have hMem : row ∈ panes.filter (·.paneId == paneId) := by
    rw [hRow]
    exact mem_singleton_self row
  obtain ⟨hListed, hId⟩ := mem_filter.mp hMem
  obtain rfl := h.eq hListed (by simpa using hId)
  unfold shownBy
  rw [hRow]

theorem shownBy_of_repeated (h : 1 < (panes.map (·.paneId)).count paneId) :
    shownBy rows marked panes paneId = rows := by
  rw [count_eq_length_filter] at h
  unfold shownBy
  split
  · rename_i hFilter
    rw [hFilter, length_nil] at h
    omega
  · rename_i hFilter
    rw [hFilter, length_singleton] at h
    omega
  · rfl

/-- Whether a row finds a revision is told by the rows shown. -/
theorem Shows.runsOut_iff (hShows : Shows rows slot.entry.lifecycleIdentity)
    (hFits : slot.entry.Fits pane.paneId) :
    RowRunsOut rows pane slot.entry decision ↔ slot.entry.ExhaustedBy decision pane := by
  unfold RowRunsOut ExhaustedBy
  rw [hShows.continuity hFits.identity]
  split_ifs
  · exact Iff.rfl
  · exact Iff.rfl
  · exact Iff.rfl

/-- A pane that is listed once and whose counter does not run out: the identity is still what the
rows have shown. -/
theorem Shows.listed (hShows : Shows rows slot.entry.lifecycleIdentity)
    (hFits : slot.entry.Fits pane.paneId) (hRow : OnlyRow panes pane.paneId pane)
    (hRuns : ¬RowRunsOut rows pane slot.entry decision) :
    Shows (shownBy rows slot.entry.revisionNamespaceIsExhausted panes pane.paneId)
      (listTracked decision slot pane diff).1.entry.lifecycleIdentity := by
  rw [shownBy_of_onlyRow hRow]
  by_cases hMarked : slot.entry.revisionNamespaceIsExhausted
  · rw [listTracked_of_exhausted hMarked, hMarked]
    exact hShows
  · rw [listTracked_identity hMarked, hShows.continuity hFits.identity,
      Bool.eq_false_of_not_eq_true hMarked, Bool.false_or]
    unfold RowRunsOut at hRuns
    by_cases hLacks : lacks rows pane
    · simp only [if_pos hLacks]
      exact hShows
    · rw [if_neg hLacks] at hRuns
      simp only [if_neg hLacks]
      by_cases hDiffers : differs rows pane
      · rw [if_pos hDiffers] at hRuns
        have hNext : slot.entry.lifecycleRevision < u32Max :=
          lt_of_le_of_ne hFits.lifecycle hRuns
        simp only [if_pos hDiffers, if_pos hNext]
        exact shows_singleton
      · simp only [if_neg hDiffers]
        exact hShows.merge (Bool.eq_false_of_not_eq_true hDiffers)

end Listed

/-! ## Who is in doubt, and who is spent -/

/-- A registry, the rows that have shown the process of each pane, the panes in doubt and the panes
spent. -/
structure Watched where
  registry : PaneRegistry
  shown : UInt64 → List PaneInfo
  doubtful : UInt64 → Prop
  spent : UInt64 → Prop

namespace Watched

section

variable (texts : Texts) (watched : Watched)

/-- `PaneRegistry::with_filter`. -/
def start (filterConfig : PaneFilterConfig) : Watched :=
  { registry := { filterConfig }, shown := fun _ => []
    doubtful := fun _ => False, spent := fun _ => False }

/-- The pane is marked as exhausted. -/
def marked (paneId : UInt64) : Bool :=
  watched.registry.entries[paneId]?.any (·.revisionNamespaceIsExhausted)

/-- A counter of the pane runs out in this call. -/
def RunsOut (event : Event) (paneId : UInt64) : Prop :=
  ∃ entry, watched.registry.entries[paneId]? = some entry ∧
    match event with
    | .discoveryTick _ panes =>
      (∃ pane, OnlyRow panes paneId pane ∧ RowRunsOut (watched.shown paneId) pane entry
        (decideObservation texts watched.registry.filterConfig pane)) ∨
      (1 < (panes.map (·.paneId)).count paneId ∧
        NoRevision entry (.ignored "duplicate_pane_identity"))
    | .setFilter filterConfig => NoRevision entry (decideObservation texts filterConfig entry.info)
    | .reEvaluateObservation other => other = paneId ∧
        NoRevision entry (decideObservation texts watched.registry.filterConfig entry.info)
    | _ => False

/-- One call.  A pane is in doubt until it is listed again, and spent while it is tracked. -/
def step (event : Event) : Watched :=
  { registry := watched.registry.apply texts event
    shown := match event with
      | .discoveryTick _ panes => fun paneId =>
        shownBy (watched.shown paneId) (watched.marked paneId) panes paneId
      | _ => watched.shown
    doubtful := match event with
      | .discoveryTick _ panes => fun paneId => InDoubt (watched.shown paneId) panes paneId
      | _ => watched.doubtful
    spent := fun paneId =>
      (watched.spent paneId ∨ watched.RunsOut texts event paneId) ∧
        paneId ∈ (watched.registry.apply texts event).entries }

def run (events : List Event) : Watched :=
  events.foldl (step texts) watched

/-- The pane is not captured and has no cursor. -/
def Withheld (registry : PaneRegistry) (paneId : UInt64) : Prop :=
  (∀ entry, registry.entries[paneId]? = some entry → entry.shouldObserve = false) ∧
    registry.cursors[paneId]? = none

/-- The pane is not captured if it is in doubt or spent. -/
def WithholdsAt (paneId : UInt64) : Prop :=
  watched.doubtful paneId ∨ watched.spent paneId → Withheld watched.registry paneId

/-- No pane in doubt or spent is captured. -/
def Withholds : Prop := ∀ paneId, watched.WithholdsAt paneId

/-- The call does not take up a pane that is to be withheld.  Only a pane that is not marked as
exhausted, and that has a revision left, can be taken up: by filter rules that accept it, and, if it
is spent, by a listing that shows it once, as it was known, and that the rules accept. -/
def CarefulAt (event : Event) (paneId : UInt64) : Prop :=
  ∀ entry, watched.registry.entries[paneId]? = some entry →
    watched.doubtful paneId ∨ watched.spent paneId →
    ¬entry.revisionNamespaceIsExhausted → entry.metadataRevision < u64Max →
    match event with
    | .setFilter filterConfig =>
      (decideObservation texts filterConfig entry.info).isObserved = false
    | .reEvaluateObservation other => other = paneId →
        (decideObservation texts watched.registry.filterConfig entry.info).isObserved = false
    | .discoveryTick _ panes => watched.spent paneId → ∀ pane, OnlyRow panes paneId pane →
        entry.lifecycleIdentity.continuityWith (.fromPaneInfo pane) = .same →
        (decideObservation texts watched.registry.filterConfig pane).isObserved = false
    | _ => True

/-- The call takes up no pane that is to be withheld. -/
def Careful (event : Event) : Prop :=
  ∀ paneId, watched.CarefulAt texts event paneId

/-! ## What the registry keeps -/

/-- The invariant of a pane: revisions fit, a cursor is that of a captured pane, a pane that is
spent is marked or has its lifecycle counter at its end, and the identity of any other is what the
rows have shown. -/
structure KeptAt (watched : Watched) (paneId : UInt64) : Prop where
  unknown : watched.registry.entries[paneId]? = none →
    watched.registry.cursors[paneId]? = none ∧ ¬watched.spent paneId ∧ watched.shown paneId = []
  known : ∀ slot, watched.registry.Has paneId slot →
    slot.entry.Fits paneId ∧ slot.Synced ∧ (watched.spent paneId → slot.entry.Spent) ∧
      (¬watched.spent paneId → Shows (watched.shown paneId) slot.entry.lifecycleIdentity)

/-- The call keeps what is known of a pane, and it keeps a pane in doubt or spent from being captured
exactly if it is careful. -/
def StepsAt (event : Event) (paneId : UInt64) : Prop :=
  (watched.step texts event).KeptAt paneId ∧
    ((watched.step texts event).WithholdsAt paneId ↔ watched.CarefulAt texts event paneId)

end

theorem keptAt_start (filterConfig : PaneFilterConfig) (paneId : UInt64) :
    (start filterConfig).KeptAt paneId :=
  ⟨fun _ => ⟨TreeMap.getElem?_emptyc, id, rfl⟩, fun _ hHas => absurd hHas.1 (by simp [start])⟩

/-- Withheld, for a pane with a slot. -/
theorem withheld_iff {registry : PaneRegistry} {paneId : UInt64} {slot : Slot}
    (hHas : registry.Has paneId slot) (hSynced : slot.Synced) :
    Withheld registry paneId ↔ slot.entry.shouldObserve = false := by
  refine ⟨fun h => h.1 _ hHas.1, fun h => ⟨fun entry hEntry => ?_, ?_⟩⟩
  · rw [hHas.1] at hEntry
    cases hEntry
    exact h
  · rw [hHas.2]
    cases hCursor : slot.cursor with
    | none => rfl
    | some => exact absurd (hSynced (by simp [hCursor])) (by simp [h])

variable {texts : Texts} {watched : Watched} {event : Event} {uuids : UInt64 → String}
  {panes : List PaneInfo} {paneId : UInt64} (registry : PaneRegistry)

/-- A pane that a call leaves unknown. -/
theorem step_of_none (hEntry : (watched.registry.apply texts event).entries[paneId]? = none)
    (hCursor : (watched.registry.apply texts event).cursors[paneId]? = none)
    (hShown : (watched.step texts event).shown paneId = [])
    (hCareful : watched.CarefulAt texts event paneId) : watched.StepsAt texts event paneId := by
  refine ⟨⟨fun _ => ⟨hCursor, fun hSpent => ?_, hShown⟩, fun slot hHas => ?_⟩,
    iff_of_true (fun _ => ⟨fun _ h => (nomatch hEntry.symm.trans h), hCursor⟩) hCareful⟩
  · have hMem := TreeMap.mem_iff_isSome_getElem?.mp hSpent.2
    rw [hEntry] at hMem
    exact absurd hMem (by decide)
  · have hSome := hHas.1
    change (watched.registry.apply texts event).entries[paneId]? = _ at hSome
    rw [hEntry] at hSome
    exact absurd hSome (by simp)

/-- A pane that a call leaves with a slot. -/
theorem step_of_has {slot : Slot} (hHas : (watched.registry.apply texts event).Has paneId slot)
    (hFits : slot.entry.Fits paneId) (hSynced : slot.Synced)
    (hSpent : watched.spent paneId ∨ watched.RunsOut texts event paneId → slot.entry.Spent)
    (hShows : ¬watched.spent paneId → ¬watched.RunsOut texts event paneId →
      Shows ((watched.step texts event).shown paneId) slot.entry.lifecycleIdentity) :
    (watched.step texts event).KeptAt paneId ∧
    ((watched.step texts event).WithholdsAt paneId ↔
      ((watched.step texts event).doubtful paneId ∨ watched.spent paneId ∨
        watched.RunsOut texts event paneId → slot.entry.shouldObserve = false)) := by
  have hMem : paneId ∈ (watched.registry.apply texts event).entries := by
    rw [TreeMap.mem_iff_isSome_getElem?, hHas.1]
    rfl
  refine ⟨⟨fun hNone => ?_, fun other hOther => ?_⟩, ?_⟩
  · exact absurd (hHas.1.symm.trans hNone) (by simp)
  · obtain rfl : other = slot := by
      have hEntry := hOther.1.symm.trans hHas.1
      have hCursor := hOther.2.symm.trans hHas.2
      cases other
      cases slot
      simp_all
    refine ⟨hFits, hSynced, fun h => hSpent h.1, fun hNot => ?_⟩
    have hFresh := not_or.mp fun h => hNot ⟨h, hMem⟩
    exact hShows hFresh.1 hFresh.2
  · unfold WithholdsAt
    rw [show (watched.step texts event).registry = watched.registry.apply texts event from rfl,
      withheld_iff hHas hSynced]
    change (_ ∨ ((_ ∨ _) ∧ _) → _) ↔ _
    simp only [hMem, and_true]

/-! ## Listings -/

/-- A decision that accepts a pane is another one than that on a pane not captured. -/
theorem ne_of_ignored {entry : PaneEntry} {decision : ObservationDecision}
    (hIgnored : entry.shouldObserve = false) (hAccepted : decision.isObserved) :
    entry.observation ≠ decision := by
  rintro rfl
  rw [shouldObserve, hAccepted] at hIgnored
  cases hIgnored

theorem marked_eq {slot : Slot} (hHas : watched.registry.Has paneId slot) :
    watched.marked paneId = slot.entry.revisionNamespaceIsExhausted := by
  unfold marked
  rw [hHas.1, Option.any_some]

/-- A counter of a pane that is listed once runs out if its row finds no revision. -/
theorem runsOut_of_onlyRow {slot : Slot} {pane : PaneInfo} (hHas : watched.registry.Has paneId slot)
    (hRow : OnlyRow panes paneId pane) :
    watched.RunsOut texts (.discoveryTick uuids panes) paneId ↔
      RowRunsOut (watched.shown paneId) pane slot.entry
        (decideObservation texts watched.registry.filterConfig pane) := by
  constructor
  · rintro ⟨entry, hEntry, ⟨other, hOther, hRuns⟩ | ⟨hTwice, -⟩⟩
    · rw [hHas.1] at hEntry
      cases hEntry
      rwa [hRow.eq hOther.mem hOther.paneId_eq] at hRuns
    · exact absurd hRow.count_eq (by omega)
  · intro hRuns
    exact ⟨slot.entry, hHas.1, .inl ⟨pane, hRow, hRuns⟩⟩

/-- A counter of a pane that is listed twice runs out if there is no revision for that. -/
theorem runsOut_of_repeated {slot : Slot} (hHas : watched.registry.Has paneId slot)
    (hTwice : 1 < (panes.map (·.paneId)).count paneId) :
    watched.RunsOut texts (.discoveryTick uuids panes) paneId ↔
      NoRevision slot.entry (.ignored "duplicate_pane_identity") := by
  constructor
  · rintro ⟨entry, hEntry, ⟨other, hOther, -⟩ | ⟨-, hRuns⟩⟩
    · exact absurd hOther.count_eq (by omega)
    · rw [hHas.1] at hEntry
      cases hEntry
      exact hRuns
  · intro hRuns
    exact ⟨slot.entry, hHas.1, .inr ⟨hTwice, hRuns⟩⟩

theorem not_runsOut_of_none (hNone : watched.registry.entries[paneId]? = none) :
    ¬watched.RunsOut texts event paneId :=
  fun ⟨_, hKnown, _⟩ => absurd (hKnown.symm.trans hNone) (by simp)

theorem carefulAt_of_noRow (h : ∀ pane, ¬OnlyRow panes paneId pane) :
    watched.CarefulAt texts (.discoveryTick uuids panes) paneId :=
  fun _ _ _ _ _ _ pane hRow => absurd hRow (h pane)

theorem carefulAt_of_none (h : watched.registry.entries[paneId]? = none) :
    watched.CarefulAt texts event paneId :=
  fun entry hEntry => absurd (hEntry.symm.trans h) (by simp)

theorem exists_slot {registry : PaneRegistry} {entry : PaneEntry}
    (h : registry.entries[paneId]? = some entry) :
    registry.Has paneId { entry, cursor := registry.cursors[paneId]? } := ⟨h, rfl⟩

/-! ## Calls that leave a pane alone -/

/-- What the decisions on a pane depend on. -/
def standing (entry : PaneEntry) : PaneLifecycleIdentity × ObservationDecision × Nat × Nat :=
  (entry.lifecycleIdentity, entry.observation, entry.lifecycleRevision, entry.metadataRevision)

theorem standing_congr {old new : PaneEntry} (h : standing new = standing old) :
    (old.Fits paneId → new.Fits paneId) ∧ (old.Spent → new.Spent) ∧
      new.shouldObserve = old.shouldObserve ∧ new.lifecycleIdentity = old.lifecycleIdentity := by
  simp only [standing, Prod.mk.injEq] at h
  obtain ⟨hIdentity, hObservation, hLifecycle, hMetadata⟩ := h
  refine ⟨fun ⟨hId, hFirst, hSecond⟩ => ⟨?_, ?_, ?_⟩, fun hSpent => ?_, ?_, hIdentity⟩
  · rw [hIdentity]
    exact hId
  · rw [hLifecycle]
    exact hFirst
  · rw [hMetadata]
    exact hSecond
  · unfold PaneEntry.Spent at *
    rw [exhausted_iff] at *
    rw [hObservation, hLifecycle, hMetadata]
    exact hSpent
  · unfold shouldObserve
    rw [hObservation]

/-- A change of the registry that leaves a pane as it is. -/
def LeavesAt (before after : PaneRegistry) (paneId : UInt64) : Prop :=
  after.entries[paneId]?.map standing = before.entries[paneId]?.map standing ∧
  after.cursors[paneId]?.isSome = before.cursors[paneId]?.isSome

section

variable (snapshot : List LiveCursorState) (now : Int) (other paneId : UInt64)

theorem leavesAt_refl :
    LeavesAt registry registry paneId := ⟨rfl, rfl⟩

/-- A changed entry of the same standing. -/
theorem leavesAt_insert {registry : PaneRegistry} {other : UInt64} {old new : PaneEntry}
    (hOld : registry.entries[other]? = some old) (h : standing new = standing old)
    (uuidIndex : TreeMap String UInt64) (paneId : UInt64) :
    LeavesAt registry { registry with entries := registry.entries.insert other new, uuidIndex }
      paneId := by
  refine ⟨?_, rfl⟩
  by_cases hEq : other = paneId
  · subst hEq
    simp [hOld, h]
  · have hNe : compare other paneId ≠ .eq := by simpa using hEq
    simp [TreeMap.getElem?_insert, hNe]

theorem adoptUuid_leaves (uuid : String) :
    LeavesAt registry (registry.adoptUuid other uuid).1 paneId := by
  unfold adoptUuid
  split
  · exact leavesAt_refl registry paneId
  · split
    · exact leavesAt_refl registry paneId
    · rename_i entry hEntry
      split
      · exact leavesAt_refl registry paneId
      · exact leavesAt_insert hEntry (by rfl) _ paneId

theorem setPriorityOverride_leaves (priority : Nat) (ttlMs : Option Nat) (now : Int) :
    LeavesAt registry (registry.setPriorityOverride other priority ttlMs now).1 paneId := by
  unfold setPriorityOverride
  split
  · exact leavesAt_refl registry paneId
  · rename_i entry hEntry
    exact leavesAt_insert hEntry (by rfl) _ paneId

theorem clearPriorityOverride_leaves :
    LeavesAt registry (registry.clearPriorityOverride other) paneId := by
  unfold clearPriorityOverride
  split
  · exact leavesAt_refl registry paneId
  · rename_i entry hEntry
    exact leavesAt_insert hEntry (by rfl) _ paneId

theorem purgeExpiredPriorityOverrides_leaves :
    LeavesAt registry (registry.purgeExpiredPriorityOverrides now).1 paneId := by
  refine ⟨?_, rfl⟩
  simp only [purgeExpiredPriorityOverrides, TreeMap.getElem?_map, Option.map_map]
  congr 1
  funext entry
  simp only [Function.comp_apply]
  split <;> rfl

theorem publishLiveCursorState_leaves :
    LeavesAt registry (registry.publishLiveCursorState snapshot) paneId := by
  refine ⟨rfl, ?_⟩
  simp only [publishLiveCursorState]
  generalize registry.cursors = cursors
  induction snapshot generalizing cursors with
  | nil => rfl
  | cons live _ ih =>
    rw [foldl_cons, ih]
    split
    · by_cases hEq : live.paneId = paneId <;> grind
    · rfl

end

/-! ## Steps -/

section Steps

variable (hKept : watched.KeptAt paneId)
include hKept

/-- A pane that is listed for the first time is not in doubt. -/
theorem step_opened {pane : PaneInfo} (hRow : OnlyRow panes paneId pane)
    (hNone : watched.registry.entries[paneId]? = none)
    (hEntry : (watched.registry.apply texts (.discoveryTick uuids panes)).entries[paneId]? =
      some (newEntry texts watched.registry (uuids paneId) pane))
    (hCursor : (watched.registry.apply texts (.discoveryTick uuids panes)).cursors[paneId]? =
      if (newEntry texts watched.registry (uuids paneId) pane).shouldObserve then
        some (IngestCursor.PaneCursor.new paneId)
      else watched.registry.cursors[paneId]?) :
    watched.StepsAt texts (.discoveryTick uuids panes) paneId := by
  obtain ⟨hNoCursor, hNotSpent, hNothing⟩ := hKept.unknown hNone
  rw [hNoCursor] at hCursor
  have hFresh : ¬(watched.spent paneId ∨ watched.RunsOut texts (.discoveryTick uuids panes) paneId) :=
    not_or.mpr ⟨hNotSpent, not_runsOut_of_none hNone⟩
  have hClear : ¬InDoubt (watched.shown paneId) panes paneId := by
    rintro (hTwice | ⟨other, -, -, hLacks⟩)
    · exact absurd hRow.count_eq (by omega)
    · rw [hNothing] at hLacks
      exact absurd hLacks Bool.false_ne_true
  have hShows : Shows ((watched.step texts (.discoveryTick uuids panes)).shown paneId)
      (newEntry texts watched.registry (uuids paneId) pane).lifecycleIdentity := by
    have hMarked : watched.marked paneId = false := by
      unfold marked
      rw [hNone]
      rfl
    change Shows (shownBy _ _ panes paneId) _
    rw [shownBy_of_onlyRow hRow, hMarked, hNothing]
    exact shows_singleton
  generalize hNew : newEntry texts watched.registry (uuids paneId) pane = entry at *
  have hFits : entry.Fits paneId := by
    rw [← hNew]
    exact ⟨hRow.paneId_eq, Nat.zero_le _, Nat.zero_le _⟩
  have hSynced : Slot.Synced ⟨entry, if entry.shouldObserve then
      some (IngestCursor.PaneCursor.new paneId) else none⟩ := by
    unfold Slot.Synced
    by_cases h : entry.shouldObserve <;> simp [h]
  obtain ⟨hStep, hIff⟩ := @step_of_has texts watched (.discoveryTick uuids panes) paneId _
    ⟨hEntry, hCursor⟩ hFits hSynced (fun h => absurd h hFresh) (fun _ _ => hShows)
  exact ⟨hStep, iff_of_true
    (hIff.mpr fun h => h.elim (fun h => absurd h hClear) fun h => absurd h hFresh)
    (carefulAt_of_none hNone)⟩

/-- **A listing reports the panes whose counter runs out**, if they are not marked or spent. -/
theorem runsOut_iff_reported (hFresh : ¬watched.spent paneId)
    (hMarked : watched.marked paneId = false) :
    watched.RunsOut texts (.discoveryTick uuids panes) paneId ↔
      paneId ∈ (watched.registry.discoveryTick texts uuids panes).2.revisionExhaustedPanes := by
  rcases discoveryTick_ticked texts uuids watched.registry panes paneId with
    ⟨hUnlisted, -, -, hReport⟩ | ⟨pane, slot, diff, hRow, hHas, hDiff, -, hReport⟩ |
    ⟨pane, hRow, hNone, -, -, hReport⟩ | ⟨slot, diff, hTwice, hHas, hDiff, -, hReport⟩ |
    ⟨hTwice, hNone, -, -, hReport⟩
  · refine iff_of_false ?_ hReport
    rintro ⟨entry, -, ⟨pane, hRow, -⟩ | ⟨hTwice, -⟩⟩
    · exact hUnlisted (mem_map.mpr ⟨pane, hRow.mem, hRow.paneId_eq⟩)
    · rw [count_eq_zero.mpr hUnlisted] at hTwice
      omega
  · obtain ⟨hFits, -, -, hShows⟩ := hKept.known slot hHas
    obtain rfl := hRow.paneId_eq
    rw [marked_eq hHas, ← Bool.not_eq_true] at hMarked
    rw [hReport, (listTracked_runsOut hMarked hFits hDiff).1, ← (hShows hFresh).runsOut_iff hFits]
    exact runsOut_of_onlyRow hHas hRow
  · exact iff_of_false (not_runsOut_of_none hNone) hReport
  · rw [hReport, listDuplicate_reported_iff (hKept.known slot hHas).1 hDiff]
    exact runsOut_of_repeated hHas hTwice
  · exact iff_of_false (not_runsOut_of_none hNone) hReport

/-- A pane that is known and listed twice. -/
theorem step_repeated {slot : Slot} {diff : DiscoveryDiff}
    (hTwice : 1 < (panes.map (·.paneId)).count paneId) (hHas : watched.registry.Has paneId slot)
    (hNext : (watched.registry.apply texts (.discoveryTick uuids panes)).Has paneId
      (listDuplicate slot paneId diff).1) :
    watched.StepsAt texts (.discoveryTick uuids panes) paneId := by
  obtain ⟨hFits, hSynced, hSpent, hShows⟩ := hKept.known slot hHas
  obtain ⟨hNextFits, hNextSpent, hNextSynced, hIgnored, hIdentity, hNextMark⟩ :=
    listDuplicate_spec slot paneId diff hFits hSynced
  have hRuns := @runsOut_of_repeated texts watched uuids panes paneId slot hHas hTwice
  obtain ⟨hStep, hIff⟩ := @step_of_has texts watched (.discoveryTick uuids panes) paneId _ hNext
    hNextFits hNextSynced
    (fun h => h.elim (fun h => hNextSpent (hSpent h))
      fun h => .inl (hNextMark (hRuns.mp h).2 (hRuns.mp h).1))
    (fun hFresh _ => by
      change Shows (shownBy _ _ panes paneId) _
      rw [shownBy_of_repeated hTwice, hIdentity]
      exact hShows hFresh)
  refine ⟨hStep, iff_of_true (hIff.mpr fun _ => hIgnored) (carefulAt_of_noRow fun pane hRow => ?_)⟩
  exact absurd hRow.count_eq (by omega)

variable (hWithholds : watched.WithholdsAt paneId)
include hWithholds

/-- A pane that is listed once: it is captured only if it was not to be withheld, or if the listing
shows it as it was known. -/
theorem step_listed {pane : PaneInfo} {slot : Slot} {diff : DiscoveryDiff}
    {decision : ObservationDecision}
    (hDecision : decideObservation texts watched.registry.filterConfig pane = decision)
    (hRow : OnlyRow panes paneId pane)
    (hHas : watched.registry.Has paneId slot) (hDiff : paneId ∉ diff.revisionExhaustedPanes)
    (hNext : (watched.registry.apply texts (.discoveryTick uuids panes)).Has paneId
      (listTracked decision slot pane diff).1) :
    watched.StepsAt texts (.discoveryTick uuids panes) paneId := by
  obtain ⟨hFits, hSynced, hSpent, hShows⟩ := hKept.known slot hHas
  obtain rfl := hRow.paneId_eq
  obtain ⟨hNextFits, hNextSpent⟩ := listTracked_spec decision slot pane diff hFits
  have hRuns : watched.RunsOut texts (.discoveryTick uuids panes) pane.paneId ↔
      RowRunsOut (watched.shown pane.paneId) pane slot.entry decision := by
    rw [← hDecision]
    exact runsOut_of_onlyRow hHas hRow
  have hMarked : ¬watched.spent pane.paneId →
      watched.RunsOut texts (.discoveryTick uuids panes) pane.paneId →
      (listTracked decision slot pane diff).1.entry.revisionNamespaceIsExhausted := by
    intro hFresh h
    by_cases hExhausted : slot.entry.revisionNamespaceIsExhausted
    · rw [listTracked_of_exhausted hExhausted]
      exact hExhausted
    · apply (listTracked_runsOut hExhausted hFits hDiff).2
      exact ((hShows hFresh).runsOut_iff hFits).mp (hRuns.mp h)
  have hNextShows : ¬watched.spent pane.paneId →
      ¬watched.RunsOut texts (.discoveryTick uuids panes) pane.paneId →
      Shows ((watched.step texts (.discoveryTick uuids panes)).shown pane.paneId)
        (listTracked decision slot pane diff).1.entry.lifecycleIdentity := by
    intro hFresh hNot
    change Shows (shownBy _ (watched.marked _) panes _) _
    rw [marked_eq hHas]
    exact (hShows hFresh).listed hFits hRow (mt hRuns.mpr hNot)
  have hSpentNext : watched.spent pane.paneId ∨
      watched.RunsOut texts (.discoveryTick uuids panes) pane.paneId →
      (listTracked decision slot pane diff).1.entry.Spent := by
    intro h
    by_cases hWas : watched.spent pane.paneId
    · exact hNextSpent (hSpent hWas)
    · exact .inl (hMarked hWas (h.resolve_left hWas))
  obtain ⟨hStep, hIff⟩ :=
    step_of_has hNext hNextFits (listTracked_synced hSynced) hSpentNext hNextShows
  refine ⟨hStep, hIff.trans ?_⟩
  by_cases hExhausted : slot.entry.revisionNamespaceIsExhausted
  · -- a marked pane stays as it is
    have hIgnored : (listTracked decision slot pane diff).1.entry.shouldObserve = false := by
      rw [listTracked_of_exhausted hExhausted]
      exact isObserved_eq_false_of_exhausted hExhausted
    refine ⟨fun _ entry hEntry _ hNot => absurd ?_ hNot, fun _ _ => hIgnored⟩
    rw [hHas.1] at hEntry
    cases hEntry
    exact hExhausted
  · have hObserve := @listTracked_shouldObserve_iff decision slot pane diff hExhausted
    constructor
    · intro h entry hEntry _ _ hRevision hWasSpent other hOther hSame
      rw [hHas.1] at hEntry
      cases hEntry
      obtain rfl := hRow.eq hOther.mem hOther.paneId_eq
      have hIgnored := h (.inr (.inl hWasSpent))
      rw [← Bool.not_eq_true, hObserve, hSame] at hIgnored
      rw [hDecision]
      exact Bool.eq_false_of_not_eq_true fun hTrue => hIgnored ⟨hTrue, fun _ => hRevision⟩
    · intro hCareful hCase
      rw [← Bool.not_eq_true]
      intro hCaptured
      obtain ⟨hAccepted, hMatch⟩ := hObserve.mp hCaptured
      by_cases hWasSpent : watched.spent pane.paneId
      · have hEnd := (hSpent hWasSpent).resolve_left hExhausted
        have hIgnored := (withheld_iff hHas hSynced).mp (hWithholds (.inr hWasSpent))
        cases hContinuity : slot.entry.lifecycleIdentity.continuityWith (.fromPaneInfo pane) with
        | same =>
          rw [hContinuity] at hMatch
          have hRefused := hCareful slot.entry hHas.1 (.inr hWasSpent) hExhausted
            (hMatch (.inr (ne_of_ignored hIgnored hAccepted))) hWasSpent pane hRow hContinuity
          rw [hDecision, hAccepted] at hRefused
          exact absurd hRefused (by decide)
        | replaced =>
          rw [hContinuity] at hMatch
          omega
        | ambiguous =>
          rw [hContinuity] at hMatch
          exact hMatch
      · rcases hCase with hDoubt | hWas | hRunsOut
        · rcases hDoubt with hTwice | ⟨other, hMem, hId, hLacks⟩
          · exact absurd hRow.count_eq (by omega)
          · rw [hRow.eq hMem hId] at hLacks
            rw [(hShows hWasSpent).continuity hFits.identity, if_pos hLacks] at hMatch
            exact hMatch
        · exact hWasSpent hWas
        · rw [isObserved_eq_false_of_exhausted (hMarked hWasSpent hRunsOut)] at hCaptured
          exact absurd hCaptured (by decide)

theorem step_discoveryTick : watched.StepsAt texts (.discoveryTick uuids panes) paneId := by
  rcases discoveryTick_ticked texts uuids watched.registry panes paneId with
    ⟨hUnlisted, hEntry, hCursor, -⟩ | ⟨pane, slot, diff, hRow, hHas, hDiff, hNext, -⟩ |
    ⟨pane, hRow, hNone, hEntry, hCursor, -⟩ | ⟨slot, diff, hTwice, hHas, -, hNext, -⟩ |
    ⟨hTwice, hNone, hEntry, hCursor, -⟩
  · exact step_of_none hEntry
      (hCursor.elim id fun ⟨hNone, hSame⟩ => hSame.trans (hKept.unknown hNone).1)
      (shownBy_of_unlisted hUnlisted)
      (carefulAt_of_noRow fun pane hRow =>
        hUnlisted (mem_map.mpr ⟨pane, hRow.mem, hRow.paneId_eq⟩))
  · exact step_listed hKept hWithholds rfl hRow hHas hDiff hNext
  · exact step_opened hKept hRow hNone hEntry hCursor
  · exact step_repeated hKept hTwice hHas hNext
  · obtain ⟨hNoCursor, -, hNothing⟩ := hKept.unknown hNone
    exact step_of_none hEntry (hCursor.trans hNoCursor)
      ((shownBy_of_repeated hTwice).trans hNothing) (carefulAt_of_none hNone)

/-- New rules take up a pane that was withheld exactly if they accept it, it is not marked, and it
has a revision left. -/
theorem step_reEvaluated {slot : Slot} {decision : ObservationDecision}
    (hHas : watched.registry.Has paneId slot)
    (hNext : (watched.registry.apply texts event).Has paneId (reEvaluateSlot decision slot paneId).1)
    (hRunsOut : watched.RunsOut texts event paneId → NoRevision slot.entry decision)
    (hShown : (watched.step texts event).shown paneId = watched.shown paneId)
    (hDoubtful : (watched.step texts event).doubtful paneId ↔ watched.doubtful paneId) :
    (watched.step texts event).KeptAt paneId ∧
    ((watched.step texts event).WithholdsAt paneId ↔
      (watched.doubtful paneId ∨ watched.spent paneId →
        ¬slot.entry.revisionNamespaceIsExhausted → slot.entry.metadataRevision < u64Max →
        decision.isObserved = false)) := by
  obtain ⟨hFits, hSynced, hSpent, hShows⟩ := hKept.known slot hHas
  obtain ⟨hNextFits, hNextSpent, hNextSynced, hIdentity, hNextMark⟩ :=
    reEvaluateSlot_spec decision slot paneId hFits hSynced
  have hMarked : watched.RunsOut texts event paneId →
      (reEvaluateSlot decision slot paneId).1.entry.revisionNamespaceIsExhausted :=
    fun h => hNextMark (hRunsOut h).2 (hRunsOut h).1
  obtain ⟨hStep, hIff⟩ := step_of_has hNext hNextFits hNextSynced
    (fun h => h.elim (fun h => hNextSpent (hSpent h)) fun h => .inl (hMarked h))
    (fun hFresh _ => by
      rw [hShown, hIdentity]
      exact hShows hFresh)
  refine ⟨hStep, hIff.trans ?_⟩
  rw [hDoubtful]
  by_cases hExhausted : slot.entry.revisionNamespaceIsExhausted
  · refine iff_of_true (fun _ => ?_) fun _ hNot => absurd hExhausted hNot
    rw [reEvaluateSlot_of_exhausted hExhausted]
    exact isObserved_eq_false_of_exhausted hExhausted
  · have hObserve := @reEvaluateSlot_shouldObserve_iff decision slot paneId hExhausted
    constructor
    · intro h hWas _ hRevision
      have hIgnored := h (hWas.imp_right .inl)
      rw [← Bool.not_eq_true, hObserve] at hIgnored
      exact Bool.eq_false_of_not_eq_true fun hTrue => hIgnored ⟨hTrue, fun _ => hRevision⟩
    · intro hCareful hCase
      rw [← Bool.not_eq_true]
      intro hCaptured
      obtain ⟨hAccepted, hRevision⟩ := hObserve.mp hCaptured
      rcases or_assoc.mpr hCase with hWas | hRuns
      · have hIgnored := (withheld_iff hHas hSynced).mp (hWithholds hWas)
        have hRefused := hCareful hWas hExhausted (hRevision (ne_of_ignored hIgnored hAccepted))
        rw [hAccepted] at hRefused
        exact absurd hRefused (by decide)
      · rw [isObserved_eq_false_of_exhausted (hMarked hRuns)] at hCaptured
        exact absurd hCaptured (by decide)

theorem step_setFilter (filterConfig : PaneFilterConfig) :
    watched.StepsAt texts (.setFilter filterConfig) paneId := by
  obtain ⟨hOutside, hInside⟩ := setFilter_slot texts watched.registry filterConfig paneId
  cases hEntry : watched.registry.entries[paneId]? with
  | none =>
    obtain ⟨hNone, hCursor⟩ := hOutside hEntry
    obtain ⟨hNoCursor, -, hNothing⟩ := hKept.unknown hEntry
    exact step_of_none hNone (hCursor.trans hNoCursor) hNothing (carefulAt_of_none hEntry)
  | some entry =>
    have hHas := exists_slot hEntry
    obtain ⟨hStep, hIff⟩ := @step_reEvaluated texts watched (.setFilter filterConfig) paneId
      hKept hWithholds _ _ hHas (hInside _ hHas) (fun ⟨other, hOther, hNone⟩ => by
        rw [hEntry] at hOther
        cases hOther
        exact hNone) rfl Iff.rfl
    refine ⟨hStep, hIff.trans ⟨fun h other hOther => ?_, fun h => h entry hEntry⟩⟩
    rw [hEntry] at hOther
    cases hOther
    exact h

theorem step_of_leaves
    (hLeaves : LeavesAt watched.registry (watched.registry.apply texts event) paneId)
    (hRunsOut : ¬watched.RunsOut texts event paneId)
    (hShown : (watched.step texts event).shown paneId = watched.shown paneId)
    (hDoubtful : (watched.step texts event).doubtful paneId → watched.doubtful paneId)
    (hCareful : watched.CarefulAt texts event paneId) : watched.StepsAt texts event paneId := by
  obtain ⟨hEntries, hCursors⟩ := hLeaves
  cases hEntry : watched.registry.entries[paneId]? with
  | none =>
    rw [hEntry, Option.map_none, Option.map_eq_none_iff] at hEntries
    rw [(hKept.unknown hEntry).1, Option.isSome_none, Option.isSome_eq_false_iff,
      Option.isNone_iff_eq_none] at hCursors
    exact step_of_none hEntries hCursors (hShown.trans (hKept.unknown hEntry).2.2) hCareful
  | some entry =>
    have hHas := exists_slot hEntry
    obtain ⟨hFits, hSynced, hSpent, hShows⟩ := hKept.known _ hHas
    rw [hEntry, Option.map_some, Option.map_eq_some_iff] at hEntries
    obtain ⟨next, hNext, hStanding⟩ := hEntries
    obtain ⟨hNextFits, hNextSpent, hNextObserve, hIdentity⟩ :=
      @standing_congr paneId entry next hStanding
    obtain ⟨hStep, hIff⟩ := step_of_has (exists_slot hNext) (hNextFits hFits)
      (fun hSome => hNextObserve.trans (hSynced (hCursors ▸ hSome)))
      (fun h => hNextSpent (hSpent (h.resolve_right hRunsOut)))
      (fun hFresh _ => by
        rw [hShown]
        exact hIdentity ▸ hShows hFresh)
    refine ⟨hStep, iff_of_true (hIff.mpr fun hCase => hNextObserve.trans ?_) hCareful⟩
    apply (withheld_iff hHas hSynced).mp
    apply hWithholds
    rcases hCase with hDoubt | hWas | hRuns
    · exact .inl (hDoubtful hDoubt)
    · exact .inr hWas
    · exact absurd hRuns hRunsOut

theorem step_reEvaluateObservation (other : UInt64) :
    watched.StepsAt texts (.reEvaluateObservation other) paneId := by
  by_cases hNe : paneId ≠ other
  · obtain ⟨hEntry, hCursor⟩ := @reEvaluateObservation_of_ne other texts watched.registry paneId hNe
    exact step_of_leaves hKept hWithholds ⟨congrArg _ hEntry, congrArg _ hCursor⟩
      (fun ⟨_, _, hEq, _⟩ => hNe hEq.symm) rfl id fun _ _ _ _ _ hEq => absurd hEq.symm hNe
  · obtain rfl := not_not.mp hNe
    cases hEntry : watched.registry.entries[paneId]? with
    | none =>
      have hSame := @reEvaluateObservation_of_none paneId texts watched.registry hEntry
      exact step_of_none (by simp only [apply, hSame, hEntry])
        (by simp only [apply, hSame, hKept.unknown hEntry]) (hKept.unknown hEntry).2.2
        (carefulAt_of_none hEntry)
    | some entry =>
      have hHas := exists_slot hEntry
      obtain ⟨hStep, hIff⟩ := @step_reEvaluated texts watched (.reEvaluateObservation paneId)
        paneId hKept hWithholds _ _ hHas (reEvaluateObservation_has hHas)
        (fun ⟨other, hOther, _, hNone⟩ => by
          rw [hEntry] at hOther
          cases hOther
          exact hNone) rfl Iff.rfl
      refine ⟨hStep, hIff.trans ⟨fun h other hOther hWas hNot hRevision _ => ?_,
        fun h hWas hNot hRevision => h entry hEntry hWas hNot hRevision rfl⟩⟩
      rw [hEntry] at hOther
      cases hOther
      exact h hWas hNot hRevision

/-- **One call** keeps what is known of a pane, and keeps it withheld exactly if it is careful. -/
theorem step_spec (texts : Texts) (event : Event) : watched.StepsAt texts event paneId := by
  cases event with
  | discoveryTick => exact step_discoveryTick hKept hWithholds
  | setFilter filterConfig => exact step_setFilter hKept hWithholds filterConfig
  | reEvaluateObservation other => exact step_reEvaluateObservation hKept hWithholds other
  | adoptUuid =>
    exact step_of_leaves hKept hWithholds (adoptUuid_leaves ..)
      (fun ⟨_, _, hNever⟩ => hNever) rfl id fun _ _ _ _ _ => trivial
  | setPriorityOverride =>
    exact step_of_leaves hKept hWithholds (setPriorityOverride_leaves ..)
      (fun ⟨_, _, hNever⟩ => hNever) rfl id fun _ _ _ _ _ => trivial
  | clearPriorityOverride =>
    exact step_of_leaves hKept hWithholds (clearPriorityOverride_leaves ..)
      (fun ⟨_, _, hNever⟩ => hNever) rfl id fun _ _ _ _ _ => trivial
  | purgeExpiredPriorityOverrides =>
    exact step_of_leaves hKept hWithholds (purgeExpiredPriorityOverrides_leaves ..)
      (fun ⟨_, _, hNever⟩ => hNever) rfl id fun _ _ _ _ _ => trivial
  | publishLiveCursorState =>
    exact step_of_leaves hKept hWithholds (publishLiveCursorState_leaves ..)
      (fun ⟨_, _, hNever⟩ => hNever) rfl id fun _ _ _ _ _ => trivial

end Steps

/-! ## Runs -/

theorem run_append (texts : Texts) (watched : Watched) (events : List Event) (event : Event) :
    watched.run texts (events ++ [event]) = (watched.run texts events).step texts event := by
  unfold run
  rw [foldl_append, foldl_cons, foldl_nil]

/-- While the calls are careful, nothing is captured that is to be withheld. -/
theorem run_of_careful (texts : Texts) (filterConfig : PaneFilterConfig) (events : List Event)
    (hCareful : ∀ front event, front ++ [event] <+: events →
      ((start filterConfig).run texts front).Careful texts event) :
    ∀ paneId, ((start filterConfig).run texts events).KeptAt paneId ∧
      ((start filterConfig).run texts events).WithholdsAt paneId := by
  induction events using List.reverseRecOn with
  | nil => exact fun paneId => ⟨keptAt_start filterConfig paneId, fun h => h.elim nofun nofun⟩
  | append_singleton events event ih =>
    intro paneId
    obtain ⟨hKept, hWithholds⟩ := ih
      (fun front other hFront => hCareful front other (hFront.trans (prefix_append _ _))) paneId
    obtain ⟨hStep, hIff⟩ := step_spec hKept hWithholds texts event
    rw [run_append]
    exact ⟨hStep, hIff.mpr (hCareful events event prefix_rfl paneId)⟩

end Watched

open Watched

/-- **Panes in doubt or spent are withheld throughout a run exactly if its calls are careful.** -/
theorem withheld_iff_careful (texts : Texts) (filterConfig : PaneFilterConfig)
    (events : List Event) :
    (∀ front, front <+: events → ((start filterConfig).run texts front).Withholds) ↔
      ∀ front event, front ++ [event] <+: events →
        ((start filterConfig).run texts front).Careful texts event := by
  constructor
  · intro hWithholds front event
    -- Behind a shorter front the registry was careful, so it keeps its invariant there.
    induction hLength : front.length using Nat.strong_induction_on generalizing front event with
    | _ n ih =>
      intro hFront paneId
      have hShorter : front <+: events := (prefix_append front [event]).trans hFront
      have hKept := (run_of_careful texts filterConfig front (fun shorter other h =>
        ih shorter.length (Nat.lt_of_succ_le (by simpa [hLength] using h.length_le)) shorter other
          rfl (h.trans hShorter)) paneId).1
      apply (step_spec hKept (hWithholds front hShorter paneId) texts event).2.mp
      rw [← run_append]
      exact hWithholds (front ++ [event]) hFront paneId
  · intro hCareful front hFront paneId
    exact (run_of_careful texts filterConfig front
      (fun shorter event h => hCareful shorter event (h.trans hFront)) paneId).2

/-! ## Losing the mark -/

/-- Pane 1 in a domain. -/
def paneIn (domainId : Option Nat) : PaneInfo := { paneId := 1, tabId := 1, windowId := 1, domainId }

/-- A listing of pane 1. -/
def listing (domainIds : List (Option Nat)) : Event :=
  .discoveryTick (fun _ => "uuid") (domainIds.map paneIn)

/-- No regular expressions, and ASCII texts. -/
def plainTexts : Texts := { regexIsMatch := fun _ _ => false, toLowercase := id }

variable {watched : Watched} {domainId other : Nat} {entry : PaneEntry}

/-- A listing of pane 1 once, if it is known. -/
theorem listing_once {registry : PaneRegistry} (domainId : Option Nat)
    (hConfig : registry.filterConfig = {})
    (hEntry : registry.entries[(1 : UInt64)]? = some entry) : ∃ cursor diff,
    (registry.apply plainTexts (listing [domainId])).entries[(1 : UInt64)]? =
      some (listTracked .observed ⟨entry, cursor⟩ (paneIn domainId) diff).1.entry := by
  rcases discoveryTick_ticked plainTexts (fun _ => "uuid") registry [paneIn domainId] 1 with
    ⟨hUnlisted, -⟩ | ⟨pane, slot, diff, hRow, hHas, _, hNext, -⟩ | ⟨pane, hRow, hNone, -⟩ |
    ⟨slot, diff, hTwice, -⟩ | ⟨hTwice, -⟩
  · exact absurd (by simp [paneIn]) hUnlisted
  · obtain rfl := mem_singleton.mp hRow.mem
    obtain ⟨slotEntry, cursor⟩ := slot
    obtain rfl : slotEntry = entry := Option.some.inj (hHas.1.symm.trans hEntry)
    rw [hConfig] at hNext
    exact ⟨cursor, diff, hNext.1⟩
  · exact absurd (hEntry.symm.trans hNone) (by simp)
  · exact absurd hTwice (by simp [paneIn])
  · exact absurd hTwice (by simp [paneIn])

/-- A listing of pane 1 twice, if it is known. -/
theorem listing_twice {registry : PaneRegistry} (domainId : Option Nat)
    (hEntry : registry.entries[(1 : UInt64)]? = some entry) : ∃ cursor diff,
    (registry.apply plainTexts (listing [domainId, domainId])).entries[(1 : UInt64)]? =
      some (listDuplicate ⟨entry, cursor⟩ 1 diff).1.entry := by
  rcases discoveryTick_ticked plainTexts (fun _ => "uuid") registry
      [paneIn domainId, paneIn domainId] 1 with
    ⟨hUnlisted, -⟩ | ⟨pane, slot, diff, hRow, -⟩ | ⟨pane, hRow, -⟩ |
    ⟨slot, diff, hTwice, hHas, hDiff, hNext, hReport⟩ | ⟨hTwice, hNone, -⟩
  · exact absurd (by simp [paneIn]) hUnlisted
  · exact absurd hRow.count_eq (by simp [paneIn])
  · exact absurd hRow.count_eq (by simp [paneIn])
  · obtain ⟨slotEntry, cursor⟩ := slot
    obtain rfl : slotEntry = entry := Option.some.inj (hHas.1.symm.trans hEntry)
    exact ⟨cursor, diff, hNext.1⟩
  · exact absurd (hEntry.symm.trans hNone) (by simp)

/-- The pane is known in a domain, under a lifecycle revision. -/
structure Known (registry : PaneRegistry) (domainId revision : Nat) (entry : PaneEntry) : Prop where
  config : registry.filterConfig = {}
  entry_eq : registry.entries[(1 : UInt64)]? = some entry
  identity : entry.lifecycleIdentity = ⟨1, some domainId, none⟩
  lifecycle : entry.lifecycleRevision = revision
  metadata : entry.metadataRevision = 0

theorem lacks_paneIn : lacks [paneIn (some domainId)] (paneIn (some other)) = false := rfl

theorem differs_paneIn (h : domainId ≠ other) :
    differs [paneIn (some domainId)] (paneIn (some other)) = true := by
  simp [differs, paneIn, contradicts, h]

theorem continuity_of_ne (h : domainId ≠ other) :
    continuityWith ⟨1, some domainId, none⟩
      (.fromPaneInfo (paneIn (some other))) = .replaced := by
  have hShown : Shows [paneIn (some domainId)] ⟨1, some domainId, none⟩ := shows_singleton
  rw [hShown.continuity rfl, lacks_paneIn, differs_paneIn h]
  rfl

theorem onlyRow_paneIn (domainId : Option Nat) : OnlyRow [paneIn domainId] 1 (paneIn domainId) :=
  ⟨mem_singleton_self _, rfl, rfl⟩

/-- What a listing of a captured pane leaves of it. -/
theorem Known.listed {registry : PaneRegistry} {revision : Nat}
    (h : Known registry domainId revision entry)
    (hMark : entry.observation = .observed) (other : Option Nat) : ∃ seq diff,
    let next := listEntry .observed entry (paneIn other) diff
    (registry.apply plainTexts (listing [other])).filterConfig = {} ∧
    (registry.apply plainTexts (listing [other])).entries[(1 : UInt64)]? = some { next.entry with
      info := paneIn other, observation := next.observation, resumeNextSeq := seq } := by
  obtain ⟨cursor, diff, hEntry⟩ := listing_once other h.config h.entry_eq
  have hNot : ¬(Slot.mk entry cursor).entry.revisionNamespaceIsExhausted := by
    rw [exhausted_iff]
    simp [hMark]
  obtain ⟨seq, hListed⟩ := @listTracked_entry .observed ⟨entry, cursor⟩ (paneIn other) diff hNot
  rw [hListed] at hEntry
  exact ⟨seq, diff, (discoveryTick_filterConfig _ _ _ _).trans h.config, hEntry⟩

/-- Another domain is another process, while there are revisions. -/
theorem Known.replaced {revision : Nat} (h : Known watched.registry domainId revision entry)
    (hShown : watched.shown 1 = [paneIn (some domainId)])
    (hNe : domainId ≠ other) (hMark : entry.observation = .observed) (hNext : revision < u32Max) :
    (watched.step plainTexts (listing [some other])).shown 1 = [paneIn (some other)] ∧
    ∃ next, Known (watched.step plainTexts (listing [some other])).registry other (revision + 1)
        next ∧
      next.observation = .observed := by
  obtain ⟨seq, diff, hConfig, hEntry⟩ := h.listed hMark (some other)
  have hContinued : listEntry .observed entry (paneIn (some other)) diff =
      { entry := { entry with
          lifecycleIdentity := .fromPaneInfo (paneIn (some other))
          lifecycleRevision := revision + 1
          metadataRevision := 0 }
        observation := .observed
        diff := { diff with
          lifecycleReplacements := diff.lifecycleReplacements ++ [1] }
        lifecycleReplaced := true } := by
    have hRevision : checkedNext u32Max entry.lifecycleRevision = some (revision + 1) := by
      rw [checkedNext_eq_some, h.lifecycle]
      exact ⟨hNext, rfl⟩
    unfold listEntry continueLifecycle
    simp only [h.identity, continuity_of_ne hNe, hRevision]
    rfl
  rw [hContinued] at hEntry
  refine ⟨?_, _, ⟨hConfig, hEntry, rfl, rfl, rfl⟩, rfl⟩
  have hMarked : watched.marked 1 = false := by
    rw [marked_eq (exists_slot h.entry_eq), ← Bool.not_eq_true, exhausted_iff]
    simp [hMark]
  change shownBy _ _ [paneIn (some other)] 1 = _
  rw [shownBy_of_onlyRow (onlyRow_paneIn _), hMarked, hShown, lacks_paneIn, differs_paneIn hNe]
  rfl

/-- Every lifecycle revision is reached by listings alone. -/
theorem known_reached (revision : Nat) (h : revision ≤ u32Max) :
    ∃ events entry, (∀ event ∈ events, ∃ domainIds, event = listing domainIds) ∧
      ((start {}).run plainTexts events).shown 1 = [paneIn (some revision)] ∧
      Known ((start {}).run plainTexts events).registry revision revision entry ∧
      entry.observation = .observed := by
  induction revision with
  | zero =>
    refine ⟨[listing [some 0]], newEntry plainTexts {} "uuid" (paneIn (some 0)), ?_, rfl,
      ⟨rfl, ?_, rfl, rfl, rfl⟩, rfl⟩
    · intro event hMem
      exact ⟨[some 0], mem_singleton.mp hMem⟩
    · decide +kernel
  | succ revision ih =>
    obtain ⟨events, entry, hListings, hShown, hKnown, hObserved⟩ := ih (by omega)
    obtain ⟨hNextShown, next, hNext, hStill⟩ := hKnown.replaced hShown
      (Nat.ne_of_lt (Nat.lt_succ_self revision)) hObserved (by omega)
    refine ⟨events ++ [listing [some (revision + 1)]], next, ?_, ?_⟩
    · intro event hMem
      rcases mem_append.mp hMem with hMem | hMem
      · exact hListings event hMem
      · exact ⟨_, mem_singleton.mp hMem⟩
    · rw [run_append]
      exact ⟨hNextShown, hNext, hStill⟩

/-- A listing of another domain without a revision: the counter runs out, and the pane is marked and
kept. -/
theorem Known.runsOut (h : Known watched.registry domainId u32Max entry)
    (hShown : watched.shown 1 = [paneIn (some domainId)]) (hNe : domainId ≠ other)
    (hMark : entry.observation = .observed) :
    watched.RunsOut plainTexts (listing [some other]) 1 ∧
    ∃ next, Known (watched.registry.apply plainTexts (listing [some other])) domainId u32Max next ∧
      next.observation = .ignored "lifecycle_revision_exhausted" := by
  obtain ⟨seq, diff, hConfig, hEntry⟩ := h.listed hMark (some other)
  have hContinued : listEntry .observed entry (paneIn (some other)) diff =
      { entry
        observation := .ignored "lifecycle_revision_exhausted"
        diff := { diff with
          revisionExhaustedPanes := diff.revisionExhaustedPanes ++ [1] }
        lifecycleRevisionExhausted := true } := by
    have hRevision : checkedNext u32Max entry.lifecycleRevision = none := by
      rw [checkedNext_eq_none, h.lifecycle]
    unfold listEntry continueLifecycle
    simp only [h.identity, continuity_of_ne hNe, hRevision]
    rfl
  rw [hContinued] at hEntry
  refine ⟨⟨entry, h.entry_eq, .inl ⟨_, onlyRow_paneIn _, ?_⟩⟩,
    _, ⟨hConfig, hEntry, h.identity, h.lifecycle, h.metadata⟩, rfl⟩
  unfold RowRunsOut
  rw [hShown, lacks_paneIn, differs_paneIn hNe]
  exact h.lifecycle

/-- A listing that repeats the pane writes over the mark, and the next one takes the pane up. -/
theorem Known.takenUp {registry : PaneRegistry} (h : Known registry domainId u32Max entry)
    (hMark : entry.observation = .ignored "lifecycle_revision_exhausted") :
    ∃ first second,
      (registry.apply plainTexts (listing [some domainId, some domainId])).entries[(1 : UInt64)]? =
        some first ∧
      ((registry.apply plainTexts (listing [some domainId, some domainId])).apply plainTexts
        (listing [some domainId])).entries[(1 : UInt64)]? = some second ∧ second.shouldObserve := by
  obtain ⟨cursor, diff, hFirst⟩ := listing_twice (some domainId) h.entry_eq
  obtain ⟨cursor', diff', hSecond⟩ := listing_once (some domainId)
    ((discoveryTick_filterConfig _ _ _ _).trans h.config) hFirst
  refine ⟨_, _, hFirst, hSecond, ?_⟩
  obtain ⟨seq, hMoved⟩ := moveCursor_entry entry.shouldObserve false 1
    ⟨entry.redecide (.ignored "duplicate_pane_identity"), cursor⟩
  change (listDuplicate ⟨entry, cursor⟩ 1 diff).1.entry = _ at hMoved
  have hRedecided : entry.redecide (.ignored "duplicate_pane_identity") =
      { entry with metadataRevision := 1, observation := .ignored "duplicate_pane_identity" } := by
    have hRevision : checkedNext u64Max entry.metadataRevision = some 1 := by
      rw [checkedNext_eq_some, h.metadata]
      decide
    unfold redecide
    simp only [hMark, hRevision]
    rfl
  rw [hRedecided] at hMoved
  have hNot : ¬(Slot.mk (listDuplicate ⟨entry, cursor⟩ 1 diff).1.entry
      cursor').entry.revisionNamespaceIsExhausted := by
    rw [exhausted_iff, hMoved]
    simp
  rw [listTracked_shouldObserve_iff hNot, hMoved]
  have hSame : entry.lifecycleIdentity.continuityWith
      (.fromPaneInfo (paneIn (some domainId))) = .same := by
    rw [h.identity]
    simp [continuityWith, fromPaneInfo, paneIn, contradicts]
  simp only [hSame]
  exact ⟨rfl, fun _ => by decide⟩

theorem not_withholds {watched : Watched} {paneId : UInt64}
    (hCase : watched.doubtful paneId ∨ watched.spent paneId)
    (hCaptured : watched.registry.entries[paneId]?.map (·.shouldObserve) = some true) :
    ¬watched.Withholds := by
  intro h
  obtain ⟨entry, hEntry, hTrue⟩ := Option.map_eq_some_iff.mp hCaptured
  have hIgnored := (h paneId hCase).1 entry hEntry
  rw [hTrue] at hIgnored
  exact absurd hIgnored (by decide)

/-- **Withheld panes are captured.**  A pane whose domain is gone from the listing is taken up when
the filter rules are applied again, and so is a pane that is listed twice.  A pane whose lifecycle
revisions have run out is taken up by listings alone. -/
theorem withheld_panes_are_captured :
    ¬((start {}).run plainTexts
      [listing [some 1], listing [none], .reEvaluateObservation 1]).Withholds ∧
    ¬((start {}).run plainTexts
      [listing [some 1], listing [some 1, some 1], .setFilter {}]).Withholds ∧
    ∃ events, (∀ event ∈ events, ∃ domainIds, event = listing domainIds) ∧
      ¬((start {}).run plainTexts events).Withholds := by
  refine ⟨?_, ?_, ?_⟩
  · apply @not_withholds _ 1
    · exact .inl (.inr ⟨paneIn none, mem_singleton_self _, rfl, rfl⟩)
    · decide +kernel
  · apply @not_withholds _ 1
    · exact .inl (.inl (by decide))
    · decide +kernel
  · obtain ⟨events, entry, hListings, hShown, hKnown, hObserved⟩ := known_reached u32Max le_rfl
    obtain ⟨hRunsOut, next, hNext, hMark⟩ := hKnown.runsOut hShown
      (Nat.ne_of_lt (Nat.lt_add_one u32Max)) hObserved
    obtain ⟨first, second, hFirst, hSecond, hCaptured⟩ := hNext.takenUp hMark
    refine ⟨events ++ [listing [some (u32Max + 1)]] ++ [listing [some u32Max, some u32Max]] ++
      [listing [some u32Max]], ?_, ?_⟩
    · intro event hMem
      simp only [mem_append, mem_singleton] at hMem
      rcases hMem with ((hMem | hMem) | hMem) | hMem
      · exact hListings event hMem
      all_goals exact ⟨_, hMem⟩
    · have hTracked : ∀ {registry : PaneRegistry} {entry : PaneEntry},
          registry.entries[(1 : UInt64)]? = some entry → (1 : UInt64) ∈ registry.entries := by
        intro registry entry hEntry
        rw [TreeMap.mem_iff_isSome_getElem?, hEntry]
        rfl
      rw [run_append, run_append, run_append]
      apply @not_withholds _ 1 <;> dsimp only [step]
      · exact .inr ⟨.inl ⟨.inl ⟨.inr hRunsOut, hTracked hNext.entry_eq⟩, hTracked hFirst⟩,
          hTracked hSecond⟩
      · rw [Option.map_eq_some_iff]
        exact ⟨second, hSecond, hCaptured⟩

end FrankenTerm.Ports.IngestFence
