import FrankenTerm.Ports.ScrollbackBlocks

/-!
# Tiered scrollback (`TieredScrollback` in `scrollback_tiers.rs`)

The lines of a pane are kept in three tiers.  The newest are in memory as they are; older ones are in
compressed pages, as one piece, in blocks or as chunks of a common store; the oldest pages are gone
from memory, and only their sizes and, for pages in blocks, their indexes are kept.

A line is looked up by its distance from the newest one.  The look-up walks back over the pages, or
searches the ends of the pages, which are kept in an index that is turned off if it does not match
the pages.

Counters that grow by one with every line or page are natural numbers here.  Indexing outside of a
vector, which panics, gives no result here.  The pages that are evicted are handed to nobody by the
source; `archive` keeps them for the contract of the storage that has them (`ColdTierRetriever`), and
nothing reads it.

What the tiers hold is shown in `ScrollbackList`.
-/

namespace FrankenTerm.Ports.ScrollbackTiers

open Verified.Pages ScrollbackCdc ScrollbackBlocks
open Std (TransOrd LawfulEqOrd)

/-! ## Data -/

/-- `ScrollbackConfig`; the compression level is the codec's. -/
structure ScrollbackConfig where
  hotLines : Nat := 1000
  pageSize : Nat := 256
  warmMaxBytes : Nat := 50 * 1024 * 1024
  coldEvictionEnabled : Bool := true
  deriving Repr, DecidableEq

/-- `ScrollbackConfig::sanitized`. -/
def ScrollbackConfig.sanitized (config : ScrollbackConfig) : ScrollbackConfig :=
  { config with pageSize := max config.pageSize 1 }

/-- `PageData`. -/
inductive PageData where
  | plain (data : Bytes)
  | blocked (page : BlockedPage)
  | cdc (recipe : List Nat)
  deriving Repr, DecidableEq

/-- `CompressedPage`. -/
structure CompressedPage where
  pageIndex : Nat
  lineCount : Nat
  data : PageData
  uncompressedSize : Nat
  deriving Repr, DecidableEq

/-- `ColdPageMeta`. -/
structure ColdPageMeta where
  pageIndex : Nat
  lineCount : Nat
  blocks : Option LineBlockIndex
  deriving Repr, DecidableEq

/-- `ScrollbackLocationHint`. -/
inductive ScrollbackLocationHint where
  | hot (lineIndex : Nat)
  | warm (pageIndex pageOffsetFromNewest lineIndexInPage pageLineCount : Nat)
  | cold (pageIndex pageOffsetFromNewest lineIndexInPage pageLineCount : Nat)
  deriving Repr, DecidableEq

/-- `PrefixIndex`. -/
structure PrefixIndex where
  warmCum : List Nat := []
  coldCum : List Nat := []
  seq : Nat := 0
  deriving Repr, DecidableEq

/-- `PrefixIndex::cold_total`. -/
def PrefixIndex.coldTotal (index : PrefixIndex) : Nat := index.coldCum.getLast?.getD 0

/-- `PrefixIndex::flushed_total`. -/
def PrefixIndex.flushedTotal (index : PrefixIndex) : Nat :=
  index.warmCum.getLast?.getD index.coldTotal

/-- `PrefixIndex::is_consistent`. -/
def PrefixIndex.isConsistent (index : PrefixIndex) (warmLen coldLen expectedSeq : Nat) : Bool :=
  index.seq == expectedSeq && index.warmCum.length == warmLen && index.coldCum.length == coldLen

/-- `CdcDedupMode`. -/
inductive CdcDedupMode where
  | off
  | always
  | adaptive
  deriving Repr, DecidableEq

/-- `TieredScrollback`, with the pages evicted since it was cleared. -/
structure TieredScrollback (κ : Type) [Ord κ] where
  config : ScrollbackConfig
  hot : List String := []
  warm : List CompressedPage := []
  cold : List ColdPageMeta := []
  warmBytes : Nat := 0
  totalLinesAdded : Nat := 0
  coldLineCount : Nat := 0
  nextPageIndex : Nat := 0
  coldPageCount : Nat := 0
  activityCounter : Nat := 0
  coldUncompressedBytes : Nat := 0
  prefixSeq : Nat := 0
  prefixIndex : Option PrefixIndex
  cdc : Option (CdcStore κ)
  cdcMode : CdcDedupMode
  cdcAdaptive : CdcAdaptiveProbe κ := {}
  blockedPageIndex : Bool
  archive : List (Nat × Option (List String)) := []

section Model

variable {κ : Type} [Ord κ]

namespace TieredScrollback

section

variable (codec : Codec κ) (s : TieredScrollback κ)

/-- `TieredScrollback::new_with_cdc_mode`. -/
def newWithCdcMode (config : ScrollbackConfig) (prefixIndex : Bool) (cdcMode : CdcDedupMode)
    (blockedPageIndex : Bool) : TieredScrollback κ :=
  let cdcMode := if blockedPageIndex then .off else cdcMode
  { config := config.sanitized
    prefixIndex := if prefixIndex then some {} else none
    cdc := if cdcMode = .always then some {} else none
    cdcMode
    blockedPageIndex }

/-- `TieredScrollback::republish_prefix_seq`; the counter is 64 bits wide and wraps. -/
def republishPrefixSeq : TieredScrollback κ :=
  let seq := (s.prefixSeq + 1) % 2 ^ 64
  { s with
    prefixSeq := seq
    prefixIndex := s.prefixIndex.map fun index => { index with seq } }

/-- `TieredScrollback::decode_page`. -/
def decodePage (page : CompressedPage) : Option (List String) := do
  let lines ← match page.data with
    | .plain data => (codec.decompress data).map (bytesToLines codec)
    | .blocked blocked => blocked.decodeAll codec
    | .cdc recipe => (s.cdc.bind (·.reconstruct codec recipe)).map (bytesToLines codec)
  if lines.length ≠ page.lineCount then none else some lines

/-- `TieredScrollback::decode_page_line`. -/
def decodePageLine (page : CompressedPage) (lineIndex : Nat) : Option String :=
  if page.lineCount ≤ lineIndex then none
  else match page.data with
    | .blocked blocked => blocked.decodeLine codec lineIndex
    | _ => (s.decodePage codec page).bind (·[lineIndex]?)

/-- `TieredScrollback::warm_line`, for the fields of a hint that it reads. -/
def warmLine (pageOffsetFromNewest lineIndexInPage : Nat) : Option String :=
  if s.warm.length < 1 + pageOffsetFromNewest then none
  else do
    let page ← s.warm[s.warm.length - (1 + pageOffsetFromNewest)]?
    s.decodePageLine codec page lineIndexInPage

/-- `TieredScrollback::hot_line`. -/
def hotLine (offsetFromEnd : Nat) : Option String :=
  if s.hot.length ≤ offsetFromEnd then none else s.hot[s.hot.length - 1 - offsetFromEnd]?

/-- `TieredScrollback::total_line_count`. -/
def totalLineCount : Nat :=
  s.hot.length + (s.warm.map (·.lineCount)).sum + s.coldLineCount

/-! ## Look-up -/

/-- `IndexedLocate`. -/
inductive IndexedLocate where
  | resolved (hint : Option ScrollbackLocationHint)
  | fallback

/-- `TieredScrollback::locate_warm_cold_indexed`, for what remains behind the hot lines.
`partition_point` on ends in order is the number of those before the first one above the target. -/
def locateWarmColdIndexed (remaining : Nat) : IndexedLocate :=
  match s.prefixIndex with
  | none => .fallback
  | some index =>
    if !index.isConsistent s.warm.length s.cold.length s.prefixSeq then .fallback
    else if index.flushedTotal ≤ remaining then .resolved none
    else
      let target := index.flushedTotal - 1 - remaining
      if index.coldTotal ≤ target then
        let i := (index.warmCum.takeWhile (· ≤ target)).length
        .resolved do
          let page ← s.warm[i]?
          let finish ← index.warmCum[i]?
          some (.warm page.pageIndex (s.warm.length - 1 - i) (target - (finish - page.lineCount))
            page.lineCount)
      else
        let j := (index.coldCum.takeWhile (· ≤ target)).length
        .resolved do
          let page ← s.cold[j]?
          let finish ← index.coldCum[j]?
          some (.cold page.pageIndex (s.cold.length - 1 - j) (target - (finish - page.lineCount))
            page.lineCount)

/-- The walk of `TieredScrollback::locate_offset`. -/
def locateLinear (remaining : Nat) : Option ScrollbackLocationHint :=
  match walkBack CompressedPage.lineCount s.warm.reverse remaining with
  | .inl (passed, page, left) =>
    some (.warm page.pageIndex passed (page.lineCount - 1 - left) page.lineCount)
  | .inr remaining =>
    match walkBack ColdPageMeta.lineCount s.cold.reverse remaining with
    | .inl (passed, page, left) =>
      some (.cold page.pageIndex passed (page.lineCount - 1 - left) page.lineCount)
    | .inr _ => none

/-- `TieredScrollback::locate_offset`. -/
def locateOffset (offsetFromEnd : Nat) : Option ScrollbackLocationHint :=
  if offsetFromEnd < s.hot.length then some (.hot (s.hot.length - 1 - offsetFromEnd))
  else match s.locateWarmColdIndexed (offsetFromEnd - s.hot.length) with
    | .resolved hint => hint
    | .fallback => s.locateLinear (offsetFromEnd - s.hot.length)

/-! ## Eviction -/

/-- `TieredScrollback::evict_warm_page`, for a page that has been taken from the warm tier. -/
def evictWarmPage (page : CompressedPage) : TieredScrollback κ :=
  let blocks := match page.data with
    | .blocked blocked => some blocked.index
    | _ => none
  let released := match page.data with
    | .plain data => (s.cdc, data.length)
    | .blocked blocked => (s.cdc, blocked.compressedLen)
    | .cdc recipe => match s.cdc with
        | some store => (some (store.releaseRecipe recipe).1, (store.releaseRecipe recipe).2)
        | none => (none, 0)
  let coldLineCount := s.coldLineCount + page.lineCount
  republishPrefixSeq
    { s with
      cdc := released.1
      warmBytes := s.warmBytes - released.2
      coldLineCount
      coldUncompressedBytes := s.coldUncompressedBytes + page.uncompressedSize
      coldPageCount := s.coldPageCount + 1
      cold := s.cold ++ [{ pageIndex := page.pageIndex, lineCount := page.lineCount, blocks }]
      prefixIndex := s.prefixIndex.map fun index =>
        { index with
          warmCum := index.warmCum.tail
          coldCum := index.coldCum ++ [coldLineCount] }
      archive := s.archive ++ [(page.pageIndex, s.decodePage codec page)] }

/-- The loop of the evictions: the oldest warm page goes while the condition holds, at most `fuel`
times.  The number of pages evicted is the second component. -/
def evictLoop (codec : Codec κ) (more : TieredScrollback κ → Bool) :
    (fuel : Nat) → TieredScrollback κ → TieredScrollback κ × Nat
  | 0, s => (s, 0)
  | fuel + 1, s =>
    if more s then
      match s.warm with
      | [] => (s, 0)
      | page :: rest =>
        let next := evictLoop codec more fuel (evictWarmPage codec { s with warm := rest } page)
        (next.1, next.2 + 1)
    else (s, 0)

/-- `TieredScrollback::evict_warm_pages`. -/
def evictWarmPages (count : Nat) : TieredScrollback κ × Nat :=
  evictLoop codec (fun _ => true) count s

/-- `TieredScrollback::evict_warm_to_target`; every turn of the loop takes a warm page. -/
def evictWarmToTarget (targetBytes : Nat) : TieredScrollback κ × Nat :=
  evictLoop codec (fun s => targetBytes < s.warmBytes) s.warm.length s

/-- `TieredScrollback::evict_all_warm`. -/
def evictAllWarm : TieredScrollback κ :=
  (evictLoop codec (fun _ => true) s.warm.length s).1

/-- `TieredScrollback::enforce_warm_cap`. -/
def enforceWarmCap : TieredScrollback κ :=
  (evictLoop codec (fun s => s.config.warmMaxBytes < s.warmBytes) s.warm.length s).1

/-! ## New lines -/

/-- `TieredScrollback::should_use_cdc_for_page`, with the probe behind it. -/
def shouldUseCdcForPage (raw : Bytes) : Bool × CdcAdaptiveProbe κ :=
  match s.cdcMode with
  | .off => (false, s.cdcAdaptive)
  | .always => (true, s.cdcAdaptive)
  | .adaptive =>
    let probe := s.cdcAdaptive.observePage codec raw
    (probe.enabled, probe)

/-- The representation of a page, the scrollback behind it, and the bytes added.  A page in blocks
that cannot be built panics. -/
def buildPage (lines : List String) : Option (TieredScrollback κ × PageData × Nat) :=
  let raw := linesToBytes lines
  if s.blockedPageIndex then
    (BlockedPage.fromLines codec lines).map fun blocked =>
      (s, .blocked blocked, blocked.compressedLen)
  else
    let (useCdc, cdcAdaptive) := s.shouldUseCdcForPage codec raw
    if useCdc then
      let interned := (s.cdc.getD {}).internPage codec raw
      some ({ s with cdcAdaptive, cdc := some interned.1 }, .cdc interned.2.1, interned.2.2)
    else
      let compressed := codec.compress raw
      some ({ s with cdcAdaptive }, .plain compressed, compressed.length)

/-- The page at the back of the warm tier. -/
def pushPage (lines : List String) (data : PageData) (added : Nat) : TieredScrollback κ :=
  let page := { pageIndex := s.nextPageIndex, lineCount := lines.length, data
                uncompressedSize := (linesToBytes lines).length }
  republishPrefixSeq
    { s with
      nextPageIndex := s.nextPageIndex + 1
      warmBytes := s.warmBytes + added
      warm := s.warm ++ [page]
      prefixIndex := s.prefixIndex.map fun index =>
        { index with
          warmCum := index.warmCum ++
            [index.warmCum.getLast?.getD s.coldLineCount + lines.length] } }

/-- `TieredScrollback::flush_hot_page`; `none` is the panic. -/
def flushHotPage : Option (TieredScrollback κ) :=
  if s.hot.length ≤ s.config.pageSize then some s
  else do
    let lines := s.hot.take s.config.pageSize
    let (s, data, added) ←
      buildPage codec { s with hot := s.hot.drop s.config.pageSize } lines
    let s := s.pushPage lines data added
    some (if s.config.coldEvictionEnabled then s.enforceWarmCap codec else s)

/-- `TieredScrollback::push_line`.  The sum of the sizes is 64 bits wide and wraps. -/
def pushLine (line : String) : Option (TieredScrollback κ) :=
  let s := { s with
    hot := s.hot ++ [line]
    totalLinesAdded := s.totalLinesAdded + 1
    activityCounter := s.activityCounter + 1 }
  if (s.config.hotLines + s.config.pageSize) % 2 ^ 64 < s.hot.length then s.flushHotPage codec
  else some s

/-- `TieredScrollback::push_lines`. -/
def pushLines (lines : List String) : Option (TieredScrollback κ) :=
  lines.foldlM (pushLine codec) s

/-- `TieredScrollback::clear`. -/
def clear (s : TieredScrollback κ) : TieredScrollback κ :=
  republishPrefixSeq
    { s with
      hot := []
      warm := []
      cold := []
      warmBytes := 0
      coldLineCount := 0
      coldPageCount := 0
      totalLinesAdded := 0
      nextPageIndex := 0
      activityCounter := 0
      coldUncompressedBytes := 0
      prefixIndex := s.prefixIndex.map fun index => { index with warmCum := [], coldCum := [] }
      cdc := s.cdc.map fun _ => CdcStore.clear
      cdcAdaptive := {}
      archive := [] }

end

end TieredScrollback

/-! ## The cold tier -/

/-- `ColdRetrievalError`. -/
inductive ColdRetrievalError where
  | pageNotFound (pageIndex : Nat)
  | storageUnavailable (reason : String)
  | decompressionFailed (pageIndex : Nat) (reason : String)
  deriving Repr, DecidableEq

/-- `ColdPageData`. -/
structure ColdPageData where
  pageIndex : Nat
  lines : List String
  deriving Repr, DecidableEq

/-- `ColdLineBlockData`. -/
structure ColdLineBlockData where
  pageIndex : Nat
  blockIndex : Nat
  firstLine : Nat
  lines : List String
  deriving Repr, DecidableEq

/-- `ColdTierRetriever`. -/
structure ColdTierRetriever where
  retrievePage : (pageIndex : Nat) → Except ColdRetrievalError ColdPageData
  retrieveLineBlock : (pageIndex blockIndex firstLine lineCount : Nat) →
    Except ColdRetrievalError ColdLineBlockData

/-- The contract of the storage: it has the pages that were evicted, as they were, and serves any
part of them. -/
def ColdTierRetriever.Serves (retriever : ColdTierRetriever)
    (archive : List (Nat × Option (List String))) : Prop :=
  ∀ pageIndex lines, (pageIndex, some lines) ∈ archive →
    retriever.retrievePage pageIndex = .ok { pageIndex, lines } ∧
    ∀ blockIndex firstLine lineCount, firstLine + lineCount ≤ lines.length →
      retriever.retrieveLineBlock pageIndex blockIndex firstLine lineCount =
        .ok { pageIndex, blockIndex, firstLine, lines := (lines.drop firstLine).take lineCount }

namespace TieredScrollback

/-- `TieredScrollback::select_cold_line_block`. -/
def selectColdLineBlock (s : TieredScrollback κ)
    (pageIndex pageOffsetFromNewest lineIndexInPage : Nat) : Option LineBlockSelection :=
  if s.cold.length < 1 + pageOffsetFromNewest then none
  else do
    let page ← s.cold[s.cold.length - (1 + pageOffsetFromNewest)]?
    if page.pageIndex ≠ pageIndex then none
    else do
      let blocks ← page.blocks
      select blocks lineIndexInPage

/-- The line of a block that the storage has sent. -/
def lineOfBlock (block : ColdLineBlockData) (selection : LineBlockSelection)
    (pageIndex lineIndexInPage : Nat) : Except ColdRetrievalError String :=
  if block.pageIndex ≠ pageIndex ∨ block.blockIndex ≠ selection.blockIndex ∨
      block.firstLine ≠ selection.firstLine ∨ block.lines.length ≠ selection.lineCount then
    .error (.decompressionFailed pageIndex "cold line block invariant mismatch")
  else match block.lines[lineIndexInPage - selection.firstLine]? with
    | some line => .ok line
    | none => .error (.pageNotFound pageIndex)

/-- `TieredScrollback::cold_line`, for the fields of a hint that it reads. -/
def coldLine (s : TieredScrollback κ) (retriever : ColdTierRetriever)
    (pageIndex pageOffsetFromNewest lineIndexInPage : Nat) : Except ColdRetrievalError String :=
  match s.selectColdLineBlock pageIndex pageOffsetFromNewest lineIndexInPage with
  | some selection => do
    let block ← retriever.retrieveLineBlock pageIndex selection.blockIndex selection.firstLine
      selection.lineCount
    lineOfBlock block selection pageIndex lineIndexInPage
  | none => do
    let data ← retriever.retrievePage pageIndex
    match data.lines[lineIndexInPage]? with
    | some line => .ok line
    | none => .error (.pageNotFound pageIndex)

/-- Follow a hint to its line. -/
def follow (codec : Codec κ) (s : TieredScrollback κ) (retriever : ColdTierRetriever) :
    ScrollbackLocationHint → Option String
  | .hot lineIndex => s.hot[lineIndex]?
  | .warm _ pageOffset lineIndex _ => s.warmLine codec pageOffset lineIndex
  | .cold pageIndex pageOffset lineIndex _ =>
    (s.coldLine retriever pageIndex pageOffset lineIndex).toOption

end TieredScrollback

end Model

end FrankenTerm.Ports.ScrollbackTiers
