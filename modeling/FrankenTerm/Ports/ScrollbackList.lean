import FrankenTerm.Ports.ScrollbackTiers

/-!
# The scrollback is a list

The tiers of a scrollback together hold the lines that were pushed since it was cleared.  `Holds` says
how: the cold and the warm pages, numbered without a gap, stand for parts of the list, and the hot
lines are the rest.  What a warm page stands for is had back by decoding it, what a cold page stands
for was handed over when it was evicted.

## Main results

* `Indexed.evictWarmPage`, `Indexed.pushPage` — the ends fit the pages when a page moves.
* `Holds.evictWarmPage`, `Holds.pushPage` — the invariant is kept when a page moves.
* `Holds.locateOffset` — a look-up finds the line at its distance from the newest one.
* `scrollback_is_list` — whole runs, as long as the pages fit into their formats.
* `blocked_page_can_panic` — a page in blocks that is too long for its index stops the program.
-/

namespace FrankenTerm.Ports.ScrollbackList

open Verified.Pages ScrollbackCdc ScrollbackBlocks ScrollbackTiers List Option
open TieredScrollback

open Std (TransOrd LawfulEqOrd)

section Invariant

variable {κ : Type} [Ord κ]

/-! ## The ends of the pages -/

/-- The index has the ends of the pages. -/
def Ended (s : TieredScrollback κ) (index : PrefixIndex) : Prop :=
  index.coldCum = ends 0 (s.cold.map ColdPageMeta.lineCount) ∧ index.warmCum =
    ends (s.cold.map ColdPageMeta.lineCount).sum (s.warm.map CompressedPage.lineCount)

/-- The counts of the cold lines and of the index are those of the pages. -/
structure Indexed (s : TieredScrollback κ) : Prop where
  coldLines : s.coldLineCount = (s.cold.map ColdPageMeta.lineCount).sum
  seq : ∀ index, s.prefixIndex = some index → index.seq = s.prefixSeq
  ended : ∀ index, s.prefixIndex = some index → Ended s index

section Ends

variable {codec : Codec κ} {s : TieredScrollback κ}

theorem Ended.totals {index : PrefixIndex} (h : Ended s index) :
    index.coldTotal = (s.cold.map ColdPageMeta.lineCount).sum ∧ index.flushedTotal =
      (s.cold.map ColdPageMeta.lineCount).sum + (s.warm.map CompressedPage.lineCount).sum := by
  have hCold : index.coldTotal = (s.cold.map ColdPageMeta.lineCount).sum := by
    rw [PrefixIndex.coldTotal, h.1, getLast?_ends, Nat.zero_add]
  exact ⟨hCold, by rw [PrefixIndex.flushedTotal, hCold, h.2, getLast?_ends]⟩

/-- What is published anew has the number of its publication. -/
theorem seq_republish (index : PrefixIndex) (h : s.republishPrefixSeq.prefixIndex = some index) :
    index.seq = s.republishPrefixSeq.prefixSeq := by
  obtain ⟨_, _, rfl⟩ := Option.map_eq_some_iff.mp h
  rfl

/-- **The oldest warm page goes.** -/
theorem Indexed.evictWarmPage (h : Indexed s) {page : CompressedPage} {rest : List CompressedPage}
    (hWarm : s.warm = page :: rest) :
    Indexed (({ s with warm := rest } : TieredScrollback κ).evictWarmPage codec page) where
  coldLines := by
    change s.coldLineCount + page.lineCount = ((s.cold ++ [_]).map ColdPageMeta.lineCount).sum
    rw [h.coldLines, map_append, sum_append]
    rfl
  seq := seq_republish
  ended index hIndex := by
    change Option.map _ (Option.map _ s.prefixIndex) = some index at hIndex
    rw [Option.map_map, Option.map_eq_some_iff] at hIndex
    obtain ⟨before, hBefore, rfl⟩ := hIndex
    obtain ⟨hCold, hEnds⟩ := h.ended before hBefore
    rw [hWarm] at hEnds
    constructor
    · change before.coldCum ++ [s.coldLineCount + page.lineCount] =
        ends 0 ((s.cold ++ [_]).map ColdPageMeta.lineCount)
      rw [hCold, map_append, map_singleton, ends_append_singleton, Nat.zero_add, h.coldLines]
    · change before.warmCum.tail = ends ((s.cold ++ [_]).map ColdPageMeta.lineCount).sum
        (rest.map CompressedPage.lineCount)
      rw [hEnds, map_append, sum_append]
      rfl

/-- **A page comes to the back of the warm tier.** -/
theorem Indexed.pushPage (h : Indexed s) (lines : List String) (data : PageData) (added : Nat) :
    Indexed (s.pushPage lines data added) where
  coldLines := h.coldLines
  seq := seq_republish
  ended index hIndex := by
    change Option.map _ (Option.map _ s.prefixIndex) = some index at hIndex
    rw [Option.map_map, Option.map_eq_some_iff] at hIndex
    obtain ⟨before, hBefore, rfl⟩ := hIndex
    obtain ⟨hCold, hEnds⟩ := h.ended before hBefore
    refine ⟨hCold, ?_⟩
    change before.warmCum ++ [before.warmCum.getLast?.getD s.coldLineCount + lines.length] =
      ends (s.cold.map ColdPageMeta.lineCount).sum ((s.warm ++ [_]).map CompressedPage.lineCount)
    rw [hEnds, h.coldLines, getLast?_ends, map_append, map_singleton, ends_append_singleton]

theorem indexed_clear (s : TieredScrollback κ) : Indexed s.clear where
  coldLines := rfl
  seq := seq_republish
  ended index hIndex := by
    change Option.map _ (Option.map _ s.prefixIndex) = some index at hIndex
    rw [Option.map_map, Option.map_eq_some_iff] at hIndex
    obtain ⟨_, _, rfl⟩ := hIndex
    exact ⟨rfl, rfl⟩

theorem indexed_new (config : ScrollbackConfig) (prefixIndex : Bool) (cdcMode : CdcDedupMode)
    (blockedPageIndex : Bool) : Indexed (.newWithCdcMode config prefixIndex cdcMode
      blockedPageIndex : TieredScrollback κ) := by
  refine ⟨rfl, fun index hIndex => ?_, fun index hIndex => ?_⟩ <;>
    obtain ⟨-, hIndex⟩ := Option.ite_none_right_eq_some.mp hIndex <;> cases hIndex
  · rfl
  · exact ⟨rfl, rfl⟩

end Ends

/-! ## What the tiers hold -/

/-- The data of a page is an encoding of its lines. -/
def Encodes (codec : Codec κ) (cdc : Option (CdcStore κ)) : PageData → List String → Prop
  | .plain data, lines => data = codec.compress (linesToBytes lines)
  | .blocked page, lines => BlockedPage.fromLines codec lines = some page
  | .cdc recipe, lines =>
    ∃ store, cdc = some store ∧ store.Spells codec recipe (cdcChunks (linesToBytes lines))

/-- The chunks a page refers to. -/
def recipeOf : PageData → List Nat
  | .cdc recipe => recipe
  | _ => []

/-- The chunks the warm pages refer to. -/
def references (warm : List CompressedPage) : List Nat := warm.flatMap (recipeOf ·.data)

/-- A warm page with its number and its lines. -/
def IsWarm (codec : Codec κ) (cdc : Option (CdcStore κ)) (i : Nat) (page : CompressedPage)
    (part : List String) : Prop :=
  page.pageIndex = i ∧ page.lineCount = part.length ∧ Encodes codec cdc page.data part

/-- A cold page with its number and its lines, which have been handed over. -/
def IsCold (archive : List (Nat × Option (List String))) (i : Nat) (page : ColdPageMeta)
    (part : List String) : Prop :=
  page.pageIndex = i ∧ page.lineCount = part.length ∧ (i, some part) ∈ archive ∧
    ∀ index, page.blocks = some index → Describes 0 0 index (cut linesPerBlock part)

/-- **The invariant.**  The cold pages stand for `evicted`, the warm ones for `resident`. -/
structure Holds (codec : Codec κ) (s : TieredScrollback κ) (evicted resident : List (List String)) :
    Prop where
  cold : StandFor (IsCold s.archive) 0 s.cold evicted
  warm : StandFor (IsWarm codec s.cdc) evicted.length s.warm resident
  nextPage : s.nextPageIndex = evicted.length + resident.length
  sized : ∀ line ∈ resident.flatten ++ s.hot, Sized line
  store : ∀ store, s.cdc = some store → store.Sound codec (references s.warm)
  indexed : Indexed s

/-- The scrollback holds these lines. -/
def Held (codec : Codec κ) (s : TieredScrollback κ) (lines : List String) : Prop :=
  ∃ evicted resident, Holds codec s evicted resident ∧
    lines = evicted.flatten ++ resident.flatten ++ s.hot

variable {codec : Codec κ} {s : TieredScrollback κ} {evicted resident : List (List String)}

/-! ## Decoding -/

variable {part : List String} {i j remaining : Nat} {parts : List (List String)}
  {warm : List CompressedPage} {page : CompressedPage}

theorem decodePage_of_encodes (hData : Encodes codec s.cdc page.data part)
    (hCount : page.lineCount = part.length) (hSized : ∀ line ∈ part, Sized line) :
    s.decodePage codec page = some part := by
  have hLines := bytesToLines_linesToBytes codec hSized
  unfold decodePage
  cases hPage : page.data with
  | plain data =>
    rw [hPage] at hData
    simp [show data = _ from hData, codec.decompress_compress, hLines, hCount]
  | blocked =>
    rw [hPage] at hData
    simp [decodeAll_fromLines hData hSized, hCount]
  | cdc =>
    rw [hPage] at hData
    obtain ⟨store, hStore, hSpells⟩ := hData
    simp [hStore, reconstruct_of_spells hSpells, flatten_cdcChunks, hLines, hCount]

/-! ## Following a hint -/

/-- The lines of a block, in the lines of all blocks. -/
theorem flatten_at (hPart : parts[i]? = some part) :
    (parts.take i).flatten.length + part.length ≤ parts.flatten.length ∧
      (parts.flatten.drop (parts.take i).flatten.length).take part.length = part := by
  obtain ⟨hLt, hPart⟩ := List.getElem?_eq_some_iff.mp hPart
  have hSplit : parts.flatten =
      (parts.take i).flatten ++ (part ++ (parts.drop (i + 1)).flatten) := by
    conv_lhs => rw [← List.take_append_drop i parts, List.drop_eq_getElem_cons hLt, hPart]
    rw [flatten_append, flatten_cons]
  constructor
  · rw [hSplit, length_append, length_append]
    omega
  · rw [hSplit, drop_left, take_left]

/-- A block of a cold page, as its index has it, is served and has the line. -/
theorem lineOfBlock_served {retriever : ColdTierRetriever} {index : LineBlockIndex}
    (hIndex : Describes 0 0 index (cut linesPerBlock part))
    (hServes : ∀ blockIndex firstLine lineCount, firstLine + lineCount ≤ part.length →
      retriever.retrieveLineBlock i blockIndex firstLine lineCount = .ok
        { pageIndex := i, blockIndex, firstLine
          lines := (part.drop firstLine).take lineCount }) (hLt : j < part.length) :
    ∃ selection block, select index j = some selection ∧
      retriever.retrieveLineBlock i selection.blockIndex selection.firstLine selection.lineCount =
        .ok block ∧
      lineOfBlock block selection i j = .ok part[j] := by
  have hFlat := flatten_cut linesPerBlock part
  obtain ⟨k, block, row, hSelect, hBlock, -, -, hLines, hFirst, -, _, hElement⟩ :=
    select_spec hIndex (Nat.zero_le j) (by rwa [hFlat, Nat.zero_add])
  obtain ⟨hBound, hTake⟩ := flatten_at hBlock
  rw [hFlat] at hBound hTake hElement
  rw [Nat.zero_add] at hFirst
  rw [← hFirst] at hBound hTake
  rw [Nat.sub_zero, getElem?_eq_getElem hLt] at hElement
  refine ⟨_, _, hSelect, hServes k row.firstLine row.lineCount (by omega), ?_⟩
  unfold lineOfBlock
  rw [hLines, hTake, if_neg (by simp), ← hElement]

/-- A look-up, for a distance from the newest of the lines in pages. -/
def Points (codec : Codec κ) (s : TieredScrollback κ) (lines : List String) (remaining : Nat)
    (hint : Option ScrollbackLocationHint) : Prop :=
  (hint.isSome ↔ remaining < lines.length) ∧
    ∀ found, hint = some found → ∀ retriever : ColdTierRetriever, retriever.Serves s.archive →
      s.follow codec retriever found = lines.reverse[remaining]?

theorem points_none {lines : List String} (h : lines.length ≤ remaining) :
    Points codec s lines remaining none := by
  refine ⟨?_, fun found hFound => by cases hFound⟩
  simp only [isSome_none, Bool.false_eq_true, false_iff]
  omega

theorem points_some {lines : List String} {found : ScrollbackLocationHint} (hLt : j < part.length)
    (hElement : lines.reverse[remaining]? = part[j]?)
    (hFollow : ∀ retriever : ColdTierRetriever, retriever.Serves s.archive →
      s.follow codec retriever found = part[j]?) :
    Points codec s lines remaining (some found) := by
  constructor
  · rw [getElem?_eq_getElem hLt] at hElement
    have hInside := (List.getElem?_eq_some_iff.mp hElement).1
    rw [length_reverse] at hInside
    simpa using hInside
  · intro found hFound retriever hServes
    cases hFound
    rw [hElement]
    exact hFollow retriever hServes

section Holds

variable (h : Holds codec s evicted resident)
include h

theorem Holds.sized_part (hPart : part ∈ resident) : ∀ line ∈ part, Sized line := fun line hLine =>
  h.sized line (mem_append_left _ (mem_flatten.mpr ⟨part, hPart, hLine⟩))

theorem Holds.warmLine (hPart : resident[i]? = some part)
    (hLt : j < part.length) : s.warmLine codec (s.warm.length - 1 - i) j = part[j]? := by
  obtain ⟨page, hPage, -, hCount, hData⟩ := h.warm.getElem? hPart
  have hIndex : i < s.warm.length := (List.getElem?_eq_some_iff.mp hPage).1
  unfold TieredScrollback.warmLine
  rw [if_neg (by omega), show s.warm.length - (1 + (s.warm.length - 1 - i)) = i by omega, hPage]
  have hSized := h.sized_part (List.mem_of_getElem? hPart)
  change s.decodePageLine codec page j = part[j]?
  unfold decodePageLine
  rw [if_neg (by omega)]
  split
  · rename_i blocked hBlocked
    rw [hBlocked] at hData
    exact decodeLine_fromLines hData hSized hLt
  · rw [decodePage_of_encodes hData hCount hSized, bind_some]

theorem Holds.coldLine {retriever : ColdTierRetriever}
    (hServes : retriever.Serves s.archive) (hPart : evicted[i]? = some part) (hLt : j < part.length) :
    (s.coldLine retriever i (s.cold.length - 1 - i) j).toOption = part[j]? := by
  obtain ⟨page, hPage, hNumber, -, hArchive, hBlocks⟩ := h.cold.getElem? hPart
  rw [Nat.zero_add] at hNumber hArchive
  obtain ⟨hWhole, hBlock⟩ := hServes i part hArchive
  have hIndex : i < s.cold.length := (List.getElem?_eq_some_iff.mp hPage).1
  have hSelect : s.selectColdLineBlock i (s.cold.length - 1 - i) j =
      page.blocks.bind (select · j) := by
    unfold selectColdLineBlock
    rw [if_neg (by omega), show s.cold.length - (1 + (s.cold.length - 1 - i)) = i by omega, hPage]
    simp only [bind_some, bind, hNumber, ne_eq, not_true_eq_false, if_false]
  unfold TieredScrollback.coldLine
  rw [hSelect]
  cases hIndexed : page.blocks with
  | none =>
    rw [bind_none, getElem?_eq_getElem hLt]
    simp only [hWhole, bind, Except.bind, getElem?_eq_getElem hLt, Except.toOption]
  | some index =>
    obtain ⟨selection, block, hFound, hRetrieved, hLine⟩ :=
      lineOfBlock_served (hBlocks index hIndexed) hBlock hLt
    rw [bind_some, hFound, getElem?_eq_getElem hLt]
    simp only [hRetrieved, bind, Except.bind, hLine, Except.toOption]

/-! ## Look-up -/

theorem Holds.warm_lengths : s.warm.map (·.lineCount) = resident.map List.length :=
  h.warm.map_length fun _ _ _ hPage => hPage.2.1

theorem Holds.cold_lengths : s.cold.map (·.lineCount) = evicted.map List.length :=
  h.cold.map_length fun _ _ _ hPage => hPage.2.1

/-- A distance that ends in a warm page. -/
theorem Holds.points_warm (hPart : resident[i]? = some part)
    (hLt : j < part.length) (hElement : resident.flatten.reverse[remaining]? = part[j]?)
    (number count : Nat) :
    Points codec s (evicted.flatten ++ resident.flatten) remaining
      (some (.warm number (s.warm.length - 1 - i) j count)) := by
  refine points_some hLt ?_ fun _ _ => h.warmLine hPart hLt
  rw [getElem?_eq_getElem hLt] at hElement
  rw [reverse_append, getElem?_append_left (List.getElem?_eq_some_iff.mp hElement).1, hElement,
    getElem?_eq_getElem hLt]

/-- A distance that ends in a cold page. -/
theorem Holds.points_cold
    (hBehind : resident.flatten.length ≤ remaining) (hPart : evicted[i]? = some part)
    (hLt : j < part.length)
    (hElement : evicted.flatten.reverse[remaining - resident.flatten.length]? = part[j]?)
    (count : Nat) :
    Points codec s (evicted.flatten ++ resident.flatten) remaining
      (some (.cold i (s.cold.length - 1 - i) j count)) := by
  refine points_some hLt ?_ fun _ hServes => h.coldLine hServes hPart hLt
  rw [reverse_append, getElem?_append_right (by simpa using hBehind), length_reverse, hElement]

/-- **The walk finds the line.** -/
theorem Holds.locateLinear (remaining : Nat) :
    Points codec s (evicted.flatten ++ resident.flatten) remaining (s.locateLinear remaining) := by
  have hSum : (s.warm.map (·.lineCount)).sum = resident.flatten.length := by
    rw [h.warm_lengths, length_flatten]
  have hColdSum : (s.cold.map (·.lineCount)).sum = evicted.flatten.length := by
    rw [h.cold_lengths, length_flatten]
  have hWarm := h.warm_lengths
  have hCold := h.cold_lengths
  unfold TieredScrollback.locateLinear
  by_cases hInside : remaining < (s.warm.map (·.lineCount)).sum
  · obtain ⟨front, page, back, hPages, hBack, hPage⟩ := exists_page hInside
    rw [hPages] at hWarm ⊢
    obtain ⟨part, hPart, hCount, hElement⟩ := element_at hWarm hBack hPage
    rw [walkBack_found hBack hPage]
    dsimp only
    rw [show back.length = s.warm.length - 1 - front.length by simp [hPages]]
    exact h.points_warm hPart (by omega) hElement _ _
  · rw [walkBack_left (Nat.le_of_not_lt hInside)]
    dsimp only
    by_cases hBefore : remaining - (s.warm.map (·.lineCount)).sum < (s.cold.map (·.lineCount)).sum
    · obtain ⟨front, page, back, hPages, hBack, hPage⟩ := exists_page hBefore
      rw [hPages] at hCold ⊢
      obtain ⟨part, hPart, hCount, hElement⟩ := element_at hCold hBack hPage
      obtain ⟨same, hSame, hNumber, -⟩ := h.cold.getElem? hPart
      obtain rfl : page = same := by simpa [hPages] using hSame
      rw [walkBack_found hBack hPage, hSum] at *
      dsimp only
      rw [hNumber, Nat.zero_add,
        show back.length = s.cold.length - 1 - front.length by simp [hPages]]
      exact h.points_cold (by omega) hPart (by omega) hElement _
    · rw [walkBack_left (Nat.le_of_not_lt hBefore)]
      apply points_none
      rw [length_append]
      omega

end Holds

/-- **The search by the ends of the pages answers as the walk does.** -/
theorem locateIndexed_eq {hint : Option ScrollbackLocationHint}
    (h : ∀ index, s.prefixIndex = some index → Ended s index)
    (hLocate : s.locateWarmColdIndexed remaining = .resolved hint) :
    hint = s.locateLinear remaining := by
  unfold locateWarmColdIndexed at hLocate
  unfold locateLinear
  split at hLocate
  · cases hLocate
  · rename_i index hIndex
    have hEnds := h index hIndex
    rw [hEnds.totals.1, hEnds.totals.2, hEnds.1, hEnds.2] at hLocate
    split at hLocate
    · cases hLocate
    split at hLocate
    · cases hLocate
      rw [walkBack_left (by omega)]
      dsimp only
      rw [walkBack_left (by omega)]
    · dsimp only at hLocate
      split at hLocate
      · obtain ⟨page, finish, left, hPage, hFinish, hWalk, hLine⟩ :=
          @walkBack_eq_search _ CompressedPage.lineCount s.warm remaining _ _ (by omega) rfl
        rw [hPage, hFinish] at hLocate
        cases hLocate
        rw [hWalk]
        dsimp only
        rw [hLine]
        rfl
      · obtain ⟨page, finish, left, hPage, hFinish, hWalk, hLine⟩ :=
          @walkBack_eq_search _ ColdPageMeta.lineCount s.cold
            (remaining - (s.warm.map CompressedPage.lineCount).sum) 0
            ((s.cold.map ColdPageMeta.lineCount).sum +
              (s.warm.map CompressedPage.lineCount).sum - 1 - remaining) (by omega) (by omega)
        rw [hPage, hFinish] at hLocate
        cases hLocate
        rw [walkBack_left (by omega)]
        dsimp only
        rw [hWalk]
        dsimp only
        rw [hLine]
        rfl

section Lookup

variable (h : Holds codec s evicted resident)
include h

theorem Holds.locatePages (k : Nat) :
    Points codec s (evicted.flatten ++ resident.flatten) k
      (match s.locateWarmColdIndexed k with
        | .resolved hint => hint
        | .fallback => s.locateLinear k) := by
  split
  · rename_i hint hLocate
    rw [locateIndexed_eq h.indexed.ended hLocate]
    exact h.locateLinear _
  · exact h.locateLinear _

/-- **A look-up finds the line at its distance from the newest one.** -/
theorem Holds.locateOffset (k : Nat) :
    Points codec s (evicted.flatten ++ resident.flatten ++ s.hot) k (s.locateOffset k) := by
  unfold TieredScrollback.locateOffset
  split
  · rename_i hHot
    refine ⟨by simp only [isSome_some, true_iff, length_append]; omega, ?_⟩
    intro found hFound retriever _
    cases hFound
    rw [reverse_append, getElem?_append_left (by rwa [length_reverse]), getElem?_reverse hHot]
    rfl
  · have hPages := h.locatePages (k - s.hot.length)
    generalize evicted.flatten ++ resident.flatten = lines at hPages ⊢
    refine ⟨hPages.1.trans ?_, fun found hFound retriever hServes => ?_⟩
    · rw [length_append]
      omega
    · rw [hPages.2 found hFound retriever hServes, reverse_append,
        getElem?_append_right (by rw [length_reverse]; omega), length_reverse]

theorem Holds.totalLineCount :
    s.totalLineCount = (evicted.flatten ++ resident.flatten ++ s.hot).length := by
  rw [TieredScrollback.totalLineCount, h.warm_lengths, h.indexed.coldLines, h.cold_lengths,
    length_append, length_append, length_flatten, @List.length_flatten _ resident]
  omega

end Lookup

/-! ## Moving pages -/

theorem Encodes.congr {cdc : Option (CdcStore κ)} {next : CdcStore κ} {data : PageData}
    (h : Encodes codec cdc data part)
    (hKept : ∀ store, cdc = some store → ∀ id ∈ recipeOf data, next.content codec id =
      store.content codec id) : Encodes codec (some next) data part := by
  cases data with
  | plain => exact h
  | blocked => exact h
  | cdc =>
    obtain ⟨store, hStore, hSpells⟩ := h
    exact ⟨next, rfl, spells_congr hSpells (hKept store hStore)⟩

/-- Warm pages do not notice a change of the store that leaves the chunks they refer to. -/
theorem standFor_congr {cdc : Option (CdcStore κ)} {next : CdcStore κ}
    (h : StandFor (IsWarm codec cdc) i warm parts)
    (hKept : ∀ store, cdc = some store → ∀ id ∈ references warm, next.content codec id =
      store.content codec id) : StandFor (IsWarm codec (some next)) i warm parts :=
  h.imp fun _ _ _ hMem _ hPage => ⟨hPage.1, hPage.2.1, hPage.2.2.congr fun store hStore id hId =>
    hKept store hStore id (mem_flatMap.mpr ⟨_, hMem, hId⟩)⟩

/-- Without a store no page refers to one. -/
theorem references_of_none (h : StandFor (IsWarm codec none) i warm parts) :
    references warm = [] := by
  rw [references, flatMap_eq_nil_iff]
  intro page hPage
  obtain ⟨k, hLt, hAt⟩ := mem_iff_getElem.mp hPage
  obtain ⟨same, hSame, -, -, hData⟩ :=
    h.getElem? (getElem?_eq_getElem (show k < parts.length from h.length_eq ▸ hLt))
  rw [getElem?_eq_getElem hLt, hAt] at hSame
  cases hSame
  cases hCase : page.data with
  | plain => rfl
  | blocked => rfl
  | cdc =>
    rw [hCase] at hData
    obtain ⟨store, hStore, -⟩ := hData
    cases hStore

end Invariant

section Operations

variable {κ : Type} [Ord κ] [TransOrd κ] [LawfulEqOrd κ] {codec : Codec κ}
  {s : TieredScrollback κ} {evicted resident : List (List String)}

/-- The store when a page has been released. -/
def releasedStore (cdc : Option (CdcStore κ)) (data : PageData) : Option (CdcStore κ) :=
  match data with
  | .cdc recipe => cdc.map fun store => (store.releaseRecipe recipe).1
  | _ => cdc

theorem releasedStore_spec {cdc : Option (CdcStore κ)} {data : PageData}
    {rest : List CompressedPage}
    (hSound : ∀ store, cdc = some store → store.Sound codec (recipeOf data ++ references rest)) :
    (∀ store, releasedStore cdc data = some store → store.Sound codec (references rest)) ∧
      ∀ i parts, StandFor (IsWarm codec cdc) i rest parts →
        StandFor (IsWarm codec (releasedStore cdc data)) i rest parts := by
  cases data with
  | plain | blocked => exact ⟨hSound, fun _ _ h => h⟩
  | cdc => cases cdc with
      | none =>
        refine ⟨fun store h => ?_, fun _ _ h => h⟩
        cases h
      | some store =>
        obtain ⟨hNext, hKept⟩ := releaseRecipe_sound _ (hSound store rfl)
        refine ⟨fun next h => ?_, fun i parts h => standFor_congr h fun same hSame => ?_⟩
        · cases h
          exact hNext
        · cases hSame
          exact hKept

omit [TransOrd κ] [LawfulEqOrd κ] in
theorem evictWarmPage_cdc (codec : Codec κ) (s : TieredScrollback κ) (page : CompressedPage) :
    (s.evictWarmPage codec page).cdc = releasedStore s.cdc page.data := by
  unfold TieredScrollback.evictWarmPage republishPrefixSeq releasedStore
  cases page.data <;> cases s.cdc <;> rfl

omit [TransOrd κ] [LawfulEqOrd κ] in
/-- The row of a cold page describes its blocks. -/
theorem blocks_describe {page : CompressedPage} {part : List String}
    (hData : Encodes codec s.cdc page.data part) :
    ∀ index, (match page.data with
      | .blocked blocked => some blocked.index
      | _ => none) = some index → Describes 0 0 index (cut linesPerBlock part) := by
  intro index hIndex
  split at hIndex
  · rename_i hBlocked
    cases hIndex
    rw [hBlocked] at hData
    exact (fromLines_spec hData).1
  · cases hIndex

/-- **The oldest warm page goes.** -/
theorem Holds.evictWarmPage {page : CompressedPage} {rest : List CompressedPage}
    {part : List String} (h : Holds codec s evicted (part :: resident))
    (hWarm : s.warm = page :: rest) :
    Holds codec (({ s with warm := rest } : TieredScrollback κ).evictWarmPage codec page)
      (evicted ++ [part]) resident := by
  have hPages := h.warm
  rw [hWarm] at hPages
  obtain ⟨⟨hNumber, hCount, hData⟩, hRest⟩ := hPages
  have hSized := h.sized_part (mem_cons_self (a := part))
  have hDecode : ({ s with warm := rest } : TieredScrollback κ).decodePage codec page = some part :=
    decodePage_of_encodes hData hCount hSized
  obtain ⟨hStore, hKept⟩ := @releasedStore_spec κ _ _ _ codec s.cdc page.data rest
    (fun store hStore => by
      have := h.store store hStore
      rwa [hWarm] at this)
  have hCold : StandFor (IsCold (s.archive ++ [(page.pageIndex, some part)])) 0 s.cold evicted :=
    h.cold.imp fun _ _ _ _ _ hPage =>
      ⟨hPage.1, hPage.2.1, mem_append_left _ hPage.2.2.1, hPage.2.2.2⟩
  constructor
  · change StandFor (IsCold (s.archive ++ [(page.pageIndex, _)])) 0 (s.cold ++ [_]) _
    rw [hDecode]
    exact hCold.append_singleton ⟨by rw [hNumber, Nat.zero_add], hCount,
      by rw [hNumber, Nat.zero_add]; simp, blocks_describe hData⟩
  · rw [evictWarmPage_cdc, length_append]
    exact hKept _ _ hRest
  · change s.nextPageIndex = _
    rw [h.nextPage, length_append, length_cons, length_singleton]
    omega
  · intro line hLine
    apply h.sized line
    rw [flatten_cons, append_assoc]
    exact mem_append_right _ hLine
  · rw [evictWarmPage_cdc]
    exact hStore
  · exact h.indexed.evictWarmPage hWarm

variable {lines : List String}

omit [TransOrd κ] [LawfulEqOrd κ] in
/-- The page at the back of the warm tier. -/
theorem Holds.pushPage {data : PageData} {before : Option (CdcStore κ)}
    (h : Holds codec { s with cdc := before } evicted resident)
    (hKept : StandFor (IsWarm codec s.cdc) evicted.length s.warm resident)
    (hData : Encodes codec s.cdc data lines)
    (hStore : ∀ store, s.cdc = some store → store.Sound codec (references s.warm ++ recipeOf data))
    (hSized : ∀ line ∈ lines, Sized line) (added : Nat) :
    Holds codec (s.pushPage lines data added) evicted (resident ++ [lines]) := by
  constructor
  · exact h.cold
  · refine hKept.append_singleton ⟨?_, rfl, hData⟩
    exact h.nextPage
  · change s.nextPageIndex + 1 = _
    rw [show s.nextPageIndex = _ from h.nextPage, length_append, length_singleton]
    omega
  · intro line hLine
    rw [flatten_append, flatten_singleton, append_assoc, mem_append, mem_append] at hLine
    rcases hLine with hLine | hLine | hLine
    · exact h.sized line (mem_append_left _ hLine)
    · exact hSized line hLine
    · exact h.sized line (mem_append_right _ hLine)
  · intro store hCdc
    have hSound := hStore store hCdc
    rwa [show references (s.pushPage lines data added).warm = references s.warm ++ recipeOf data by
      simp [references, TieredScrollback.pushPage, republishPrefixSeq]]
  · exact Indexed.pushPage (s := s) { h.indexed with } lines data added

/-! ## Operations -/

/-- An eviction keeps the lines and the hot tier. -/
theorem Holds.evictLoop (more : TieredScrollback κ → Bool) (fuel : Nat)
    (h : Holds codec s evicted resident) :
    ∃ evicted' resident', Holds codec (TieredScrollback.evictLoop codec more fuel s).1 evicted'
        resident' ∧
      evicted'.flatten ++ resident'.flatten = evicted.flatten ++ resident.flatten ∧
      (TieredScrollback.evictLoop codec more fuel s).1.hot = s.hot := by
  induction fuel generalizing s evicted resident with
  | zero => exact ⟨evicted, resident, h, rfl, rfl⟩
  | succ _ ih =>
    unfold TieredScrollback.evictLoop
    split
    · split
      · exact ⟨evicted, resident, h, rfl, rfl⟩
      · rename_i page rest hWarm
        cases resident with
        | nil =>
          have := h.warm.length_eq
          rw [hWarm] at this
          cases this
        | cons =>
          obtain ⟨evicted', resident', hHolds, hSame, hHot⟩ := ih (h.evictWarmPage hWarm)
          refine ⟨evicted', resident', hHolds, hSame.trans ?_, hHot⟩
          simp
    · exact ⟨evicted, resident, h, rfl, rfl⟩

theorem Held.evictLoop (h : Held codec s lines) (more : TieredScrollback κ → Bool) (fuel : Nat) :
    Held codec (TieredScrollback.evictLoop codec more fuel s).1 lines := by
  obtain ⟨evicted, resident, hHolds, rfl⟩ := h
  obtain ⟨evicted', resident', hHolds', hSame, hHot⟩ := hHolds.evictLoop more fuel
  exact ⟨evicted', resident', hHolds', by rw [hSame, hHot]⟩

omit [LawfulEqOrd κ] in
theorem held_clear (codec : Codec κ) (s : TieredScrollback κ) : Held codec s.clear [] := by
  refine ⟨[], [], ?_, rfl⟩
  constructor
  · trivial
  · trivial
  · rfl
  · intro line hLine
    cases hLine
  · intro store hStore
    change Option.map _ s.cdc = some store at hStore
    rw [Option.map_eq_some_iff] at hStore
    obtain ⟨-, -, rfl⟩ := hStore
    exact sound_clear codec
  · exact indexed_clear s

/-! ## New lines -/

/-- A page fits into its format: the index of a page in blocks has 32-bit places and lengths, and
the counts of the chunks that warm pages refer to have 32 bits too. -/
def PageFits (s : TieredScrollback κ) (page : List String) : Prop :=
  if s.blockedPageIndex then BlocksFit (cut linesPerBlock page) 0 0
  else s.cdcMode = .off ∨
    (references s.warm).length + (cdcChunks (linesToBytes page)).length < 2 ^ 32

omit [LawfulEqOrd κ] in
/-- The store a page is cut into, if it is cut. -/
theorem Holds.store_getD (h : Holds codec s evicted resident) :
    (s.cdc.getD {}).Sound codec (references s.warm) := by
  cases hCdc : s.cdc with
  | none =>
    have hWarm := h.warm
    rw [hCdc] at hWarm
    rw [references_of_none hWarm]
    exact sound_clear codec
  | some store => exact h.store store hCdc

/-- What the representation of a page is to the rest. -/
theorem Holds.buildPage (h : Holds codec s evicted resident) {page : List String}
    (hFits : PageFits s page) :
    ∃ cdc cdcAdaptive data added,
      s.buildPage codec page = some ({ s with cdc, cdcAdaptive }, data, added) ∧
      StandFor (IsWarm codec cdc) evicted.length s.warm resident ∧ Encodes codec cdc data page ∧
      ∀ store, cdc = some store → store.Sound codec (references s.warm ++ recipeOf data) := by
  have hPlain : ∀ data, recipeOf data = [] → ∀ store, s.cdc = some store →
      store.Sound codec (references s.warm ++ recipeOf data) := by
    intro data hNone store hStore
    rw [hNone, append_nil]
    exact h.store store hStore
  unfold TieredScrollback.buildPage
  by_cases hBlocked : s.blockedPageIndex
  · rw [PageFits, if_pos hBlocked] at hFits
    obtain ⟨blocked, hPage⟩ := isSome_iff_exists.mp ((@fromLines_isSome κ codec page).mpr hFits)
    refine ⟨s.cdc, s.cdcAdaptive, .blocked blocked, blocked.compressedLen, ?_, h.warm, hPage,
      hPlain _ rfl⟩
    rw [if_pos hBlocked, hPage]
    rfl
  · rw [PageFits, if_neg hBlocked] at hFits
    rw [if_neg hBlocked]
    dsimp only
    split
    · rename_i hUse
      have hCount : (references s.warm).length + (cdcChunks (linesToBytes page)).length < 2 ^ 32 := by
        rcases hFits with hOff | hCount
        · simp [shouldUseCdcForPage, hOff] at hUse
        · exact hCount
      obtain ⟨hSound, hSpells, hKept⟩ := internPage_sound h.store_getD _ hCount
      refine ⟨_, _, .cdc _, _, rfl, standFor_congr h.warm ?_, ⟨_, rfl, hSpells⟩, ?_⟩
      · intro store hStore
        rw [hStore] at hKept
        rw [hStore]
        exact hKept
      · intro store hStore
        cases hStore
        exact hSound
    · exact ⟨s.cdc, _, .plain _, _, rfl, h.warm, rfl, hPlain _ rfl⟩

/-- A line makes the hot tier overflow. -/
def Flushes (s : TieredScrollback κ) : Prop :=
  (s.config.hotLines + s.config.pageSize) % 2 ^ 64 < s.hot.length + 1 ∧
    s.config.pageSize < s.hot.length + 1

/-- A line that makes the hot tier overflow makes a page that fits. -/
def PushFits (s : TieredScrollback κ) (line : String) : Prop :=
  Flushes s → PageFits s ((s.hot ++ [line]).take s.config.pageSize)

/-- A page of the hot lines moves. -/
theorem Holds.flushHotPage (h : Holds codec s evicted resident)
    (hFits : s.config.pageSize < s.hot.length → PageFits s (s.hot.take s.config.pageSize)) :
    ∃ s', s.flushHotPage codec = some s' ∧
      Held codec s' (evicted.flatten ++ resident.flatten ++ s.hot) := by
  unfold TieredScrollback.flushHotPage
  by_cases hFew : s.hot.length ≤ s.config.pageSize
  · exact ⟨s, if_pos hFew, evicted, resident, h, rfl⟩
  · have hRest : ∀ line ∈ resident.flatten ++ s.hot.drop s.config.pageSize, Sized line := by
      intro line hLine
      apply h.sized line
      rw [mem_append] at hLine ⊢
      exact hLine.imp_right mem_of_mem_drop
    have hDropped : Holds codec { s with hot := s.hot.drop s.config.pageSize } evicted resident :=
      { h with sized := hRest, indexed := { h.indexed with } }
    obtain ⟨cdc, cdcAdaptive, data, added, hBuild, hKept, hData, hStore⟩ :=
      hDropped.buildPage (hFits (by omega))
    have hPushed : Held codec _ (evicted.flatten ++ resident.flatten ++ s.hot) :=
      ⟨evicted, _, Holds.pushPage (s := { s with
          hot := s.hot.drop s.config.pageSize, cdc, cdcAdaptive })
        { hDropped with indexed := { h.indexed with } } hKept hData hStore
        (fun line hLine => h.sized line (mem_append_right _ (mem_of_mem_take hLine)))
        added, by
          change _ = _ ++ s.hot.drop s.config.pageSize
          simp⟩
    rw [if_neg hFew]
    simp only [hBuild, bind, bind_some]
    split
    · exact ⟨_, rfl, hPushed.evictLoop _ _⟩
    · exact ⟨_, rfl, hPushed⟩

/-- **A pushed line is at the back of the list.** -/
theorem Held.pushLine (h : Held codec s lines) {line : String} (hSized : Sized line)
    (hFits : PushFits s line) :
    ∃ s', s.pushLine codec line = some s' ∧ Held codec s' (lines ++ [line]) := by
  obtain ⟨evicted, resident, hHolds, rfl⟩ := h
  have hAll : ∀ other ∈ resident.flatten ++ (s.hot ++ [line]), Sized other := by
    intro other hOther
    rw [← append_assoc, mem_append, mem_singleton] at hOther
    rcases hOther with hOther | rfl
    · exact hHolds.sized other hOther
    · exact hSized
  have hAdded : Holds codec { s with
      hot := s.hot ++ [line], totalLinesAdded := s.totalLinesAdded + 1
      activityCounter := s.activityCounter + 1 } evicted resident :=
    { hHolds with sized := hAll, indexed := { hHolds.indexed with } }
  unfold TieredScrollback.pushLine
  rw [append_assoc]
  dsimp only
  split
  · rename_i hMany
    apply hAdded.flushHotPage
    intro hLong
    rw [length_append, length_singleton] at hMany hLong
    exact hFits ⟨hMany, hLong⟩
  · exact ⟨_, rfl, evicted, resident, hAdded, rfl⟩

/-! ## Runs -/

/-- A text as long as a string can be. -/
abbrev Line := { line : String // Sized line }

/-- The calls that change a scrollback. -/
inductive Op where
  | pushLine (line : Line)
  | pushLines (lines : List Line)
  | evictWarmPages (count : Nat)
  | evictWarmToTarget (targetBytes : Nat)
  | evictAllWarm
  | enforceWarmCap
  | clear

/-- A call; `none` is a panic. -/
def apply (codec : Codec κ) (s : TieredScrollback κ) : Op → Option (TieredScrollback κ)
  | .pushLine line => s.pushLine codec line.1
  | .pushLines lines => s.pushLines codec (lines.map Subtype.val)
  | .evictWarmPages count => some (s.evictWarmPages codec count).1
  | .evictWarmToTarget targetBytes => some (s.evictWarmToTarget codec targetBytes).1
  | .evictAllWarm => some (s.evictAllWarm codec)
  | .enforceWarmCap => some (s.enforceWarmCap codec)
  | .clear => some s.clear

def run (codec : Codec κ) (s : TieredScrollback κ) (ops : List Op) : Option (TieredScrollback κ) :=
  ops.foldlM (apply codec) s

/-- The lines that are there after a call. -/
def linesAfter (lines : List String) : Op → List String
  | .pushLine line => lines ++ [line.1]
  | .pushLines more => lines ++ more.map Subtype.val
  | .clear => []
  | _ => lines

/-- The lines pushed since the last time the scrollback was cleared. -/
def pushed (ops : List Op) : List String := ops.foldl linesAfter []

/-- Every page that the lines make fits. -/
def LinesFit (codec : Codec κ) : TieredScrollback κ → List String → Prop
  | _, [] => True
  | s, line :: rest => PushFits s line ∧ ∀ s', s.pushLine codec line = some s' → LinesFit codec s' rest

/-- Every page that a call makes fits. -/
def OpFits (codec : Codec κ) (s : TieredScrollback κ) : Op → Prop
  | .pushLine line => PushFits s line.1
  | .pushLines lines => LinesFit codec s (lines.map Subtype.val)
  | _ => True

/-- Every page that a run makes fits. -/
def RunFits (codec : Codec κ) : TieredScrollback κ → List Op → Prop
  | _, [] => True
  | s, op :: rest => OpFits codec s op ∧ ∀ s', apply codec s op = some s' → RunFits codec s' rest

theorem Held.pushLines {more : List String} (h : Held codec s lines)
    (hSized : ∀ line ∈ more, Sized line) (hFits : LinesFit codec s more) :
    ∃ s', s.pushLines codec more = some s' ∧ Held codec s' (lines ++ more) := by
  induction more generalizing s lines with
  | nil => exact ⟨s, rfl, by rwa [append_nil]⟩
  | cons line _ ih =>
    obtain ⟨next, hPush, hNext⟩ := h.pushLine (hSized line mem_cons_self) hFits.1
    obtain ⟨last, hRest, hLast⟩ :=
      ih hNext (fun other hOther => hSized other (mem_cons_of_mem _ hOther))
        (hFits.2 next hPush)
    refine ⟨last, ?_, by rwa [append_assoc, singleton_append] at hLast⟩
    rw [TieredScrollback.pushLines, foldlM_cons, hPush]
    exact hRest

/-- **A call does to the tiers what it does to the list.** -/
theorem Held.apply (h : Held codec s lines) {op : Op}
    (hFits : OpFits codec s op) :
    ∃ s', apply codec s op = some s' ∧ Held codec s' (linesAfter lines op) := by
  cases op with
  | pushLine line => exact h.pushLine line.2 hFits
  | pushLines =>
    apply h.pushLines _ hFits
    intro line hLine
    obtain ⟨source, -, rfl⟩ := mem_map.mp hLine
    exact source.2
  | clear => exact ⟨_, rfl, held_clear codec s⟩
  | _ => exact ⟨_, rfl, h.evictLoop _ _⟩

theorem Held.run (h : Held codec s lines) {ops : List Op} (hFits : RunFits codec s ops) :
    ∃ s', run codec s ops = some s' ∧ Held codec s' (ops.foldl linesAfter lines) := by
  induction ops generalizing s lines with
  | nil => exact ⟨s, rfl, h⟩
  | cons _ _ ih =>
    obtain ⟨next, hOp, hNext⟩ := h.apply hFits.1
    obtain ⟨last, hRest, hLast⟩ := ih hNext (hFits.2 next hOp)
    refine ⟨last, ?_, hLast⟩
    rw [ScrollbackList.run, foldlM_cons, hOp]
    exact hRest

omit [LawfulEqOrd κ] in
theorem held_new (codec : Codec κ) (config : ScrollbackConfig) (prefixIndex : Bool)
    (cdcMode : CdcDedupMode) (blockedPageIndex : Bool) :
    Held codec (.newWithCdcMode config prefixIndex cdcMode blockedPageIndex) [] := by
  refine ⟨[], [], ?_, rfl⟩
  constructor
  · trivial
  · trivial
  · rfl
  · intro line hLine
    cases hLine
  · intro store hStore
    obtain ⟨-, hStore⟩ := ite_none_right_eq_some.mp hStore
    cases hStore
    exact sound_clear codec
  · exact indexed_new config prefixIndex cdcMode blockedPageIndex

/-- What it is for a scrollback to be a list: its size, and the line at every distance from the
newest one, for any storage that has the evicted pages. -/
structure Lists (codec : Codec κ) (s : TieredScrollback κ) (lines : List String) : Prop where
  size : s.totalLineCount = lines.length
  located : ∀ k, (s.locateOffset k).isSome ↔ k < lines.length
  line : ∀ k hint, s.locateOffset k = some hint →
    ∀ retriever : ColdTierRetriever, retriever.Serves s.archive →
      s.follow codec retriever hint = lines.reverse[k]?
  hotLine : ∀ k line, s.hotLine k = some line → lines.reverse[k]? = some line

omit [TransOrd κ] [LawfulEqOrd κ] in
theorem Held.lists (h : Held codec s lines) : Lists codec s lines := by
  obtain ⟨evicted, resident, hHolds, rfl⟩ := h
  have hPoints := hHolds.locateOffset
  refine ⟨hHolds.totalLineCount, fun k => (hPoints k).1, fun k => (hPoints k).2, ?_⟩
  intro k line hLine
  unfold hotLine at hLine
  split at hLine
  · cases hLine
  · rw [reverse_append, getElem?_append_left (by rw [length_reverse]; omega),
      getElem?_reverse (by omega), hLine]

/-- **The scrollback is the list of the lines pushed**, after every run whose pages fit. -/
theorem scrollback_is_list (codec : Codec κ) (config : ScrollbackConfig) (prefixIndex : Bool)
    (cdcMode : CdcDedupMode) (blockedPageIndex : Bool) (ops : List Op)
    (hFits : RunFits codec (.newWithCdcMode config prefixIndex cdcMode blockedPageIndex) ops) :
    ∃ s, run codec (.newWithCdcMode config prefixIndex cdcMode blockedPageIndex) ops = some s ∧
      Lists codec s (pushed ops) := by
  obtain ⟨s, hRun, hHeld⟩ :=
    (held_new codec config prefixIndex cdcMode blockedPageIndex).run hFits
  exact ⟨s, hRun, hHeld.lists⟩

end Operations

/-! ## A page that is too long -/

/-- Compression and keys at their simplest. -/
def plainCodec : Codec Bytes :=
  { compress := id
    decompress := some
    contentKey := id
    replaceInvalid := fun _ => ""
    decompress_compress := fun _ => rfl
    contentKey_injective := fun _ _ h => h }

theorem cut_singleton (line : String) : cut linesPerBlock [line] = [[line]] := by
  simp [cut]

theorem scrollback_is_list_blocked : ∃ s,
    run plainCodec (.newWithCdcMode { hotLines := 0, pageSize := 1 } true .adaptive true)
      [.pushLine ⟨"a", by decide⟩, .pushLine ⟨"b", by decide⟩, .evictAllWarm] = some s ∧
    Lists plainCodec s ["a", "b"] := by
  refine scrollback_is_list plainCodec { hotLines := 0, pageSize := 1 } true .adaptive true _
    ⟨?_, ?_⟩
  · intro hFlush
    exact absurd hFlush.1 (by decide)
  · intro s hFirst
    cases hFirst
    refine ⟨fun _ => ?_, fun s _ => ⟨trivial, fun _ _ => trivial⟩⟩
    change BlocksFit (cut linesPerBlock ["a"]) 0 0
    rw [cut_singleton]
    exact ⟨⟨by decide, by decide, by decide⟩, trivial⟩

/-- A line of many characters of one byte. -/
def longLine (n : Nat) : String := String.ofList (List.replicate n 'a')

theorem length_longLine (n : Nat) : (Verified.Utf8.bytes (longLine n)).length = n := by
  have hChar : (String.utf8EncodeChar 'a').length = 1 := by decide
  rw [Verified.Utf8.bytes_eq_flatMap, longLine, String.toList_ofList, length_flatMap,
    map_replicate, hChar, sum_replicate_nat, Nat.mul_one]

theorem newline_not_mem_longLine (n : Nat) : '\n' ∉ (longLine n).toList := by
  rw [longLine, String.toList_ofList]
  intro hMem
  exact absurd (eq_of_mem_replicate hMem) (by decide)

theorem sized_longLine {n : Nat} (h : n ≤ isizeMax) : Sized (longLine n) := by
  rwa [Sized, length_longLine]

theorem fromLines_longLine {κ : Type} (codec : Codec κ) {n : Nat} (h : u32Max < n) :
    BlockedPage.fromLines codec [longLine n] = none := by
  rw [← Option.not_isSome_iff_eq_none, fromLines_isSome, cut_singleton]
  rintro ⟨⟨_, _, hLength⟩, _⟩
  rw [length_linesToBytes, map_singleton, sum_singleton, length_longLine] at hLength
  omega

/-- The line fills a page of its own, which the next line moves. -/
theorem run_longLine {κ : Type} [Ord κ] (codec : Codec κ) (prefixIndex : Bool) (n : Nat)
    (h : u32Max < n) (hSized : n ≤ isizeMax) :
    run codec (.newWithCdcMode { hotLines := 0, pageSize := 1 } prefixIndex .off true)
      [.pushLine ⟨longLine n, sized_longLine hSized⟩, .pushLine ⟨"", by decide⟩] = none := by
  simp [run, apply, pushLine, flushHotPage,
    buildPage, newWithCdcMode, ScrollbackConfig.sanitized,
    fromLines_longLine codec h]

/-- **A page in blocks that is too long for its index stops the program**, although the page is not
empty and no line has a newline. -/
theorem blocked_page_can_panic : ∃ ops : List Op, (∀ line ∈ pushed ops, '\n' ∉ line.toList) ∧
      run plainCodec (.newWithCdcMode { hotLines := 0, pageSize := 1 } true .off true) ops = none := by
  refine ⟨_, ?_, run_longLine plainCodec true (2 ^ 32) (by decide) (by decide)⟩
  intro line hLine
  rcases mem_cons.mp hLine with rfl | hLine
  · exact newline_not_mem_longLine _
  · obtain rfl := mem_singleton.mp hLine
    decide

end FrankenTerm.Ports.ScrollbackList
