import FrankenTerm.Verified.Loop
import FrankenTerm.Ports.ScrollbackList

/-!
# The index of the scrollback never changes an answer

The tier and the place of a line are found by walking over the pages, or by the index of their ends
(`PrefixIndex`), which is built only when it is switched on and is left aside when its check fails.
The ends are counted from the first line ever flushed, so that they stay as they are when a page
moves from the warm tier to the cold one.

## Main results

* `Indexed.apply` — every call keeps the ends of the pages.
* `index_changes_no_answer` — every look-up answers as it does without the index.
-/

/-! ## The ends of the pages, along a run -/

namespace FrankenTerm.Ports.ScrollbackList

open Verified.Loop ScrollbackCdc ScrollbackBlocks ScrollbackTiers List

variable {κ : Type} [Ord κ] {codec : Codec κ} {s s' : TieredScrollback κ}

theorem Indexed.evictLoop (h : Indexed s) (more : TieredScrollback κ → Bool) (fuel : Nat) :
    Indexed (TieredScrollback.evictLoop codec more fuel s).1 := by
  induction fuel generalizing s with
  | zero => exact h
  | succ _ ih =>
    unfold TieredScrollback.evictLoop
    split
    · split
      · exact h
      · rename_i hWarm
        exact ih (h.evictWarmPage hWarm)
    · exact h

/-- The representation of a page leaves the pages as they are. -/
theorem Indexed.buildPage (h : Indexed s) {lines : List String} {data : PageData} {added : Nat}
    (hBuild : s.buildPage codec lines = some (s', data, added)) : Indexed s' := by
  unfold TieredScrollback.buildPage at hBuild
  split at hBuild
  · obtain ⟨_, _, hSame⟩ := Option.map_eq_some_iff.mp hBuild
    cases hSame
    exact h
  · dsimp only at hBuild
    split at hBuild <;> cases hBuild <;> exact ⟨h.coldLines, h.seq, h.ended⟩

theorem Indexed.flushHotPage (h : Indexed s) (hFlush : s.flushHotPage codec = some s') :
    Indexed s' := by
  unfold TieredScrollback.flushHotPage at hFlush
  split at hFlush
  · cases hFlush
    exact h
  · obtain ⟨⟨built, data, added⟩, hBuild, hPushed⟩ := Option.bind_eq_some_iff.mp hFlush
    have hDropped : Indexed { s with hot := s.hot.drop s.config.pageSize } :=
      ⟨h.coldLines, h.seq, h.ended⟩
    have hPage := (hDropped.buildPage hBuild).pushPage (s.hot.take s.config.pageSize) data added
    cases hPushed
    split
    · exact hPage.evictLoop _ _
    · exact hPage

theorem Indexed.pushLine (h : Indexed s) {line : String}
    (hPush : s.pushLine codec line = some s') : Indexed s' := by
  have hAdded : Indexed { s with
      hot := s.hot ++ [line], totalLinesAdded := s.totalLinesAdded + 1
      activityCounter := s.activityCounter + 1 } := ⟨h.coldLines, h.seq, h.ended⟩
  unfold TieredScrollback.pushLine at hPush
  dsimp only at hPush
  split at hPush
  · exact hAdded.flushHotPage hPush
  · cases hPush
    exact hAdded

/-- Every call keeps the counts. -/
theorem Indexed.apply (h : Indexed s) {op : Op} (hApply : apply codec s op = some s') :
    Indexed s' := by
  cases op with
  | pushLine => exact h.pushLine hApply
  | pushLines =>
    exact foldlM_preserves _ Indexed (fun _ _ _ hNow hPush => hNow.pushLine hPush) _ hApply h
  | clear =>
    cases hApply
    exact indexed_clear s
  | _ =>
    cases hApply
    exact h.evictLoop _ _

end FrankenTerm.Ports.ScrollbackList

/-! ## Look-up -/

namespace FrankenTerm.Ports.ScrollbackIndex

open Verified.Pages Verified.Loop ScrollbackCdc ScrollbackTiers ScrollbackList List

/-- `ScrollbackTier`. -/
inductive ScrollbackTier where
  | hot
  | warm
  | cold
  deriving Repr, DecidableEq

/-- `PrefixIndex::warm_lines`. -/
def warmLines (index : PrefixIndex) : Nat := index.flushedTotal - index.coldTotal

variable {κ : Type} [Ord κ]

section Model

variable (s : TieredScrollback κ)

/-- `TieredScrollback::tier_for_offset_indexed`. -/
def tierForOffsetIndexed (offsetFromEnd hotLen : Nat) : Option ScrollbackTier := do
  let index ← s.prefixIndex
  if !index.isConsistent s.warm.length s.cold.length s.prefixSeq then none
  else if offsetFromEnd - hotLen < warmLines index then some .warm
  else some .cold

/-- `TieredScrollback::tier_for_offset`. -/
def tierForOffset (offsetFromEnd : Nat) : ScrollbackTier :=
  if offsetFromEnd < s.hot.length then .hot
  else match tierForOffsetIndexed s offsetFromEnd s.hot.length with
    | some tier => tier
    | none =>
      if offsetFromEnd < s.hot.length + (s.warm.map CompressedPage.lineCount).sum then .warm
      else .cold

/-- The scrollback with its index switched off. -/
def withoutIndex : TieredScrollback κ := { s with prefixIndex := none }

end Model

variable {codec : Codec κ} {s : TieredScrollback κ}

theorem length_ends (base : Nat) (lens : List Nat) : (ends base lens).length = lens.length := by
  induction lens generalizing base with
  | nil => rfl
  | cons _ _ ih => rw [ends, length_cons, length_cons, ih]

theorem isConsistent_of_indexed (h : Indexed s) {index : PrefixIndex}
    (hIndex : s.prefixIndex = some index) :
    index.isConsistent s.warm.length s.cold.length s.prefixSeq = true := by
  obtain ⟨hCold, hWarm⟩ := h.ended index hIndex
  rw [PrefixIndex.isConsistent, h.seq index hIndex, hCold, hWarm, length_ends, length_ends,
    length_map, length_map]
  simp

theorem locateOffset_eq_of_indexed (h : Indexed s) (offset : Nat) :
    s.locateOffset offset = (withoutIndex s).locateOffset offset := by
  refine if_congr Iff.rfl rfl ?_
  change _ = s.locateLinear (offset - s.hot.length)
  split
  · rename_i hLocate
    exact locateIndexed_eq h.ended hLocate
  · rfl

theorem tierForOffset_eq_of_indexed (h : Indexed s) (offset : Nat) :
    tierForOffset s offset = tierForOffset (withoutIndex s) offset := by
  refine if_ctx_congr Iff.rfl (fun _ => rfl) fun hBehind => ?_
  change ¬offset < s.hot.length at hBehind
  change _ = if offset < s.hot.length + (s.warm.map CompressedPage.lineCount).sum then _ else _
  unfold tierForOffsetIndexed
  cases hIndex : s.prefixIndex with
  | none => rfl
  | some index =>
    have hEnds := h.ended index hIndex
    have hSame : offset - s.hot.length < warmLines index ↔
        offset < s.hot.length + (s.warm.map CompressedPage.lineCount).sum := by
      rw [warmLines, hEnds.totals.1, hEnds.totals.2]
      omega
    simp only [bind, Option.bind_some, isConsistent_of_indexed h hIndex, Bool.not_true,
      Bool.false_eq_true, if_false, hSame]
    by_cases hInside : offset < s.hot.length + (s.warm.map CompressedPage.lineCount).sum
    · simp only [if_pos hInside]
    · simp only [if_neg hInside]

/-- **The index never changes an answer**, in any state that a run reaches. -/
theorem index_changes_no_answer {config : ScrollbackConfig} {prefixIndex : Bool}
    {cdcMode : CdcDedupMode} {blockedPageIndex : Bool} {ops : List Op}
    (hRun : run codec (.newWithCdcMode config prefixIndex cdcMode blockedPageIndex) ops = some s) :
    (∀ index, s.prefixIndex = some index →
      index.isConsistent s.warm.length s.cold.length s.prefixSeq = true) ∧
    ∀ offset, s.locateOffset offset = (withoutIndex s).locateOffset offset ∧
      tierForOffset s offset = tierForOffset (withoutIndex s) offset := by
  have h : Indexed s :=
    foldlM_preserves _ Indexed (fun _ _ _ hNow hApply => hNow.apply hApply) _ hRun
      (indexed_new config prefixIndex cdcMode blockedPageIndex)
  exact ⟨fun _ => isConsistent_of_indexed h, fun offset =>
    ⟨locateOffset_eq_of_indexed h offset, tierForOffset_eq_of_indexed h offset⟩⟩

/-- Three lines: the oldest has been evicted, the newest is hot. -/
theorem index_changes_no_answer_threeTiers :
    ∃ s, run plainCodec (.newWithCdcMode { hotLines := 0, pageSize := 1 } true .off false)
        [.pushLines [⟨"a", by decide⟩, ⟨"b", by decide⟩, ⟨"c", by decide⟩], .evictWarmPages 1] =
          some s ∧
      [s.locateOffset 0, s.locateOffset 1, s.locateOffset 2] =
        [some (.hot 0), some (.warm 1 0 0 1), some (.cold 0 0 0 1)] ∧
      ∀ offset, s.locateOffset offset = (withoutIndex s).locateOffset offset := by
  generalize hRun : run plainCodec _ _ = result
  have hSome : result.isSome = true := by
    rw [← hRun]
    decide
  obtain ⟨s, rfl⟩ := Option.isSome_iff_exists.mp hSome
  refine ⟨s, rfl, ?_, fun offset => ((index_changes_no_answer hRun).2 offset).1⟩
  cases hRun
  decide

end FrankenTerm.Ports.ScrollbackIndex
