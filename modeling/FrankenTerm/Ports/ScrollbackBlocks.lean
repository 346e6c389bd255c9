import FrankenTerm.Ports.ScrollbackCdc
import FrankenTerm.Verified.Pages

/-!
# Scrollback pages in blocks

A page can be stored as blocks of sixteen lines, each compressed by itself, with an index of the
blocks: the first line of each, its place and its length in the bytes of the page, and its number of
lines (`LineBlockIndex` and `BlockedPage` in `scrollback_tiers.rs`).  A line is then found and
decompressed with its block alone.

The numbers of the index are 32 bits wide.  A page with a block whose place or length does not fit
is refused, and `flush_hot_page`, which expects none to be, panics.

The source keeps four vectors of the same length; here a block is a row of one list.

## Main results

* `fromLines_isSome` — a page is stored exactly if the numbers of its blocks fit 32 bits.
* `decodeLine_fromLines`, `decodeAll_fromLines` — it is read back, by line and as a whole.
* `select_spec` — the index finds the block of a line.
-/

namespace FrankenTerm.Ports.ScrollbackBlocks

open Verified.Pages ScrollbackCdc List

/-- `u32::MAX`. -/
def u32Max : Nat := 2 ^ 32 - 1

/-- `u16::MAX`. -/
def u16Max : Nat := 2 ^ 16 - 1

/-- `u32::try_from(n).ok()`. -/
def toU32 (n : Nat) : Option Nat := if n ≤ u32Max then some n else none

/-- A row of `LineBlockIndex`. -/
structure LineBlock where
  firstLine : Nat
  rawOffset : Nat
  rawLen : Nat
  lineCount : Nat
  deriving Repr, DecidableEq

/-- `LineBlockIndex`. -/
abbrev LineBlockIndex := List LineBlock

/-- The loop of `LineBlockIndex::from_block_raws`, over the bytes and the number of lines of each
block. -/
def fromBlockRaws : List (Bytes × Nat) → (nextLine nextRawOffset : Nat) → Option LineBlockIndex
  | [], _, _ => some []
  | (raw, lineCount) :: rest, nextLine, nextRawOffset =>
    if lineCount = 0 ∨ u16Max < lineCount then none
    else do
      let firstLine ← toU32 nextLine
      let rawOffset ← toU32 nextRawOffset
      let rawLen ← toU32 raw.length
      let rows ← fromBlockRaws rest (nextLine + lineCount) (nextRawOffset + raw.length)
      some ({ firstLine, rawOffset, rawLen, lineCount } :: rows)

/-- `LineBlockSelection`. -/
structure LineBlockSelection where
  blockIndex : Nat
  firstLine : Nat
  lineCount : Nat
  deriving Repr, DecidableEq

/-- `LineBlockIndex::select`. -/
def select (index : LineBlockIndex) (lineIndex : Nat) : Option LineBlockSelection :=
  match (index.takeWhile (·.firstLine ≤ lineIndex)).length with
  | 0 => none
  | i + 1 => do
    let row ← index[i]?
    if lineIndex < row.firstLine + row.lineCount then
      some { blockIndex := i, firstLine := row.firstLine, lineCount := row.lineCount }
    else none

/-- The loop of `LineBlockIndex::is_tight_for_raw_len`. -/
def isTightFrom : LineBlockIndex → (expectedLine expectedRaw rawLen : Nat) → Bool
  | [], _, expectedRaw, rawLen => expectedRaw == rawLen
  | row :: rest, expectedLine, expectedRaw, rawLen =>
    if row.lineCount = 0 ∨ row.firstLine ≠ expectedLine ∨ row.rawOffset ≠ expectedRaw then false
    else isTightFrom rest (expectedLine + row.lineCount) (expectedRaw + row.rawLen) rawLen

/-- `LineBlockIndex::is_tight_for_raw_len`. -/
def isTightForRawLen (index : LineBlockIndex) (rawLen : Nat) : Bool := isTightFrom index 0 0 rawLen

/-- `BlockedPage`. -/
structure BlockedPage where
  index : LineBlockIndex
  blocks : List Bytes
  deriving Repr, DecidableEq

section Pages

variable {κ : Type} (codec : Codec κ)

/-- `BLOCKED_PAGE_LINES_PER_BLOCK`, less one. -/
def linesPerBlock : Nat := 15

/-- `BlockedPage::from_lines`. -/
def BlockedPage.fromLines (lines : List String) : Option BlockedPage := do
  let parts := cut linesPerBlock lines
  let index ← fromBlockRaws (parts.map fun part => (linesToBytes part, part.length)) 0 0
  some { index, blocks := parts.map fun part => codec.compress (linesToBytes part) }

/-- `BlockedPage::compressed_len`. -/
def BlockedPage.compressedLen (page : BlockedPage) : Nat := (page.blocks.map List.length).sum

/-- The lines of a block, if they are as many as its row says, and its length in bytes. -/
def decodeBlock (block : Bytes) (row : LineBlock) : Option (List String × Nat) := do
  let raw ← codec.decompress block
  if raw.length ≠ row.rawLen then none
  else
    let lines := bytesToLines codec raw
    if lines.length ≠ row.lineCount then none else some (lines, raw.length)

/-- The loop of `BlockedPage::decode_all`. -/
def decodeBlocks : List Bytes → LineBlockIndex → Option (List String × Nat)
  | [], _ => some ([], 0)
  | _ :: _, [] => none
  | block :: blocks, row :: rows => do
    let (lines, rawLen) ← decodeBlock codec block row
    let (rest, restLen) ← decodeBlocks blocks rows
    some (lines ++ rest, rawLen + restLen)

/-- `BlockedPage::decode_all`. -/
def BlockedPage.decodeAll (page : BlockedPage) : Option (List String) := do
  let (lines, rawLen) ← decodeBlocks codec page.blocks page.index
  if isTightForRawLen page.index rawLen then some lines else none

/-- `BlockedPage::decode_line`. -/
def BlockedPage.decodeLine (page : BlockedPage) (lineIndex : Nat) : Option String := do
  let selection ← select page.index lineIndex
  let block ← page.blocks[selection.blockIndex]?
  let row ← page.index[selection.blockIndex]?
  let (lines, _) ← decodeBlock codec block row
  lines[lineIndex - selection.firstLine]?

end Pages

/-! ## What an index describes -/

/-- The rows describe the parts of a page from a line and a byte on. -/
def Describes : (nextLine nextRawOffset : Nat) → LineBlockIndex → List (List String) → Prop
  | _, _, [], [] => True
  | nextLine, nextRawOffset, row :: rows, part :: parts =>
    row = ⟨nextLine, nextRawOffset, (linesToBytes part).length, part.length⟩ ∧
    0 < part.length ∧
    Describes (nextLine + part.length) (nextRawOffset + (linesToBytes part).length) rows parts
  | _, _, _, _ => False

theorem toU32_eq_some {n m : Nat} : toU32 n = some m ↔ n ≤ u32Max ∧ m = n := by
  unfold toU32
  split <;> simp_all [eq_comm]

variable {line nextRawOffset nextLine : Nat} {rows index : LineBlockIndex} {row : LineBlock}
  {parts : List (List String)}

theorem describes_fromBlockRaws
    (h : fromBlockRaws (parts.map fun part => (linesToBytes part, part.length)) nextLine
      nextRawOffset = some index) : Describes nextLine nextRawOffset index parts := by
  induction parts generalizing nextLine nextRawOffset index with
  | nil =>
    cases h
    trivial
  | cons _ _ ih =>
    rw [map_cons, fromBlockRaws] at h
    split at h
    · cases h
    · simp only [bind, Option.bind_eq_some_iff, toU32_eq_some] at h
      obtain ⟨_, ⟨-, rfl⟩, _, ⟨-, rfl⟩, _, ⟨-, rfl⟩, rows, hRows, hIndex⟩ := h
      cases hIndex
      exact ⟨rfl, by omega, ih hRows⟩

theorem select_cons {selection : LineBlockSelection} (hRow : row.firstLine ≤ line)
    (h : select rows line = some selection) :
    select (row :: rows) line = some { selection with blockIndex := selection.blockIndex + 1 } := by
  unfold select at *
  rw [takeWhile_cons_of_pos (by simpa using hRow), length_cons]
  split at h
  · cases h
  · rename_i i hLength
    rw [hLength]
    simp only [bind, Option.bind_eq_some_iff] at h ⊢
    obtain ⟨found, hFound, hSelection⟩ := h
    refine ⟨found, hFound, ?_⟩
    split at hSelection
    · rename_i hLt
      cases hSelection
      rw [if_pos hLt]
    · cases hSelection

theorem select_head (hRow : row.firstLine ≤ line) (hEnd : line < row.firstLine + row.lineCount)
    (hRows : ∀ next ∈ rows.head?, line < next.firstLine) :
    select (row :: rows) line = some ⟨0, row.firstLine, row.lineCount⟩ := by
  have hStop : rows.takeWhile (·.firstLine ≤ line) = [] := by
    cases rows with
    | nil => rfl
    | cons next =>
      rw [takeWhile_cons_of_neg]
      simpa using hRows next rfl
  unfold select
  rw [takeWhile_cons_of_pos (by simpa using hRow), hStop]
  simp [hEnd]

/-- **The index finds the block of a line.** -/
theorem select_spec (h : Describes nextLine nextRawOffset index parts) (hFirst : nextLine ≤ line)
    (hLast : line < nextLine + parts.flatten.length) :
    ∃ i part row, select index line = some ⟨i, row.firstLine, row.lineCount⟩ ∧
      parts[i]? = some part ∧ index[i]? = some row ∧
      row.rawLen = (linesToBytes part).length ∧ row.lineCount = part.length ∧
      row.firstLine = nextLine + (parts.take i).flatten.length ∧
      row.firstLine ≤ line ∧ line - row.firstLine < part.length ∧
      parts.flatten[line - nextLine]? = part[line - row.firstLine]? := by
  induction parts generalizing nextLine nextRawOffset index with
  | nil =>
    rw [flatten_nil, length_nil] at hLast
    omega
  | cons part parts ih =>
    cases index with
    | nil => exact h.elim
    | cons _ rows =>
      obtain ⟨rfl, _, hRest⟩ := h
      rw [flatten_cons, length_append] at hLast
      by_cases hHere : line < nextLine + part.length
      · have hInside : line - nextLine < part.length := by omega
        refine ⟨0, part, _, select_head hFirst hHere ?_, rfl, rfl, rfl, rfl, by simp, hFirst,
          hInside, ?_⟩
        · intro next hNext
          cases rows with
          | nil => cases hNext
          | cons =>
            cases hNext
            cases parts with
            | nil => exact hRest.elim
            | cons =>
              rw [hRest.1]
              exact hHere
        · rw [flatten_cons, getElem?_append_left (by omega)]
      · obtain ⟨i, found, foundRow, hSelect, hPart, hRow, hRaw, hLines, hStart, hLe, hLt, hElement⟩ :=
          ih hRest (by omega) (by omega)
        refine ⟨i + 1, found, foundRow, select_cons hFirst hSelect, hPart, hRow, hRaw, hLines, ?_,
          hLe, hLt, ?_⟩
        · rw [take_succ_cons, flatten_cons, length_append, hStart]
          omega
        · rw [flatten_cons, getElem?_append_right (by omega), ← hElement]
          congr 1
          omega

/-! ## Reading back -/

open BlockedPage

section Pages

variable {κ : Type} {codec : Codec κ}

theorem decodeBlock_part {part : List String} (hSized : ∀ line ∈ part, Sized line)
    (hRaw : row.rawLen = (linesToBytes part).length) (hLines : row.lineCount = part.length) :
    decodeBlock codec (codec.compress (linesToBytes part)) row =
      some (part, (linesToBytes part).length) := by
  simp [decodeBlock, codec.decompress_compress, hRaw, hLines, bytesToLines_linesToBytes codec hSized]

variable {lines : List String} {page : BlockedPage}

theorem decodeBlocks_parts
    (h : Describes nextLine nextRawOffset index parts)
    (hSized : ∀ line ∈ parts.flatten, Sized line) :
    decodeBlocks codec (parts.map fun part => codec.compress (linesToBytes part)) index =
      some (parts.flatten, (parts.map fun part => (linesToBytes part).length).sum) := by
  induction parts generalizing nextLine nextRawOffset index with
  | nil => rfl
  | cons part parts ih =>
    cases index with
    | nil => exact h.elim
    | cons =>
      obtain ⟨rfl, _, hRest⟩ := h
      have hPart : ∀ line ∈ part, Sized line :=
        fun line hMem => hSized line (by simp [hMem])
      have hParts : ∀ line ∈ parts.flatten, Sized line := fun line hMem =>
        hSized line (by rw [flatten_cons]; exact mem_append_right _ hMem)
      simp only [map_cons, decodeBlocks, decodeBlock_part hPart, ih hRest hParts, bind,
        Option.bind_some, flatten_cons, sum_cons]

theorem isTightFrom_of_describes
    (h : Describes nextLine nextRawOffset index parts) {rawLen : Nat}
    (hRaw : rawLen = nextRawOffset + (parts.map fun part => (linesToBytes part).length).sum) :
    isTightFrom index nextLine nextRawOffset rawLen := by
  induction parts generalizing nextLine nextRawOffset index with
  | nil => cases index with
      | nil => simp [isTightFrom, hRaw]
      | cons => exact h.elim
  | cons part _ ih =>
    cases index with
    | nil => exact h.elim
    | cons =>
      obtain ⟨rfl, _, hRest⟩ := h
      have hTight : ¬(part.length = 0 ∨ nextLine ≠ nextLine ∨ nextRawOffset ≠ nextRawOffset) := by
        omega
      rw [isTightFrom, if_neg hTight]
      apply ih hRest
      rw [map_cons, sum_cons] at hRaw
      omega

/-- The page that is stored, and its index. -/
theorem fromLines_spec (h : fromLines codec lines = some page) :
    Describes 0 0 page.index (cut linesPerBlock lines) ∧
      page.blocks = (cut linesPerBlock lines).map fun part => codec.compress (linesToBytes part) := by
  simp only [fromLines, bind, Option.bind_eq_some_iff] at h
  obtain ⟨index, hIndex, hPage⟩ := h
  cases hPage
  exact ⟨describes_fromBlockRaws hIndex, rfl⟩

/-- **A page in blocks is read back.** -/
theorem decodeAll_fromLines (h : fromLines codec lines = some page)
    (hSized : ∀ line ∈ lines, Sized line) :
    page.decodeAll codec = some lines := by
  obtain ⟨hIndex, hBlocks⟩ := fromLines_spec h
  have hFlat := flatten_cut linesPerBlock lines
  have hAll := @decodeBlocks_parts 0 0 page.index _ κ codec hIndex (by rwa [hFlat])
  rw [← hBlocks, hFlat] at hAll
  simp only [decodeAll, hAll, bind, Option.bind_some, isTightForRawLen,
    isTightFrom_of_describes hIndex (Nat.zero_add _).symm, if_true]

/-- **A line of a page in blocks is read back.** -/
theorem decodeLine_fromLines (h : fromLines codec lines = some page)
    (hSized : ∀ line ∈ lines, Sized line)
    {i : Nat} (hLt : i < lines.length) : page.decodeLine codec i = lines[i]? := by
  obtain ⟨hIndex, hBlocks⟩ := fromLines_spec h
  have hFlat := flatten_cut linesPerBlock lines
  obtain ⟨block, part, row, hSelect, hPart, hRow, hRaw, hLines, -, -, -, hElement⟩ :=
    select_spec hIndex (Nat.zero_le i) (by rwa [hFlat, Nat.zero_add])
  rw [hFlat, Nat.sub_zero] at hElement
  have hMem : part ∈ cut linesPerBlock lines := mem_of_getElem? hPart
  have hPartSized : ∀ line ∈ part, Sized line := by
    intro line hLine
    apply hSized
    rw [← hFlat]
    exact mem_flatten.mpr ⟨part, hMem, hLine⟩
  simp only [decodeLine, hSelect, hBlocks, getElem?_map, hPart, hRow,
    decodeBlock_part hPartSized hRaw hLines, bind, Option.bind_some, Option.map_some, hElement]

/-! ## What fits -/

theorem length_linesToBytes (lines : List String) : (linesToBytes lines).length =
    (lines.map fun line => 8 + (Verified.Utf8.bytes line).length).sum := by
  rw [linesToBytes, Verified.Records.length_writeRecords, map_map]
  rfl

/-- The blocks fit into an index behind other blocks: the first line of each, its place and its
length. -/
def BlocksFit : List (List String) → (nextLine nextRawOffset : Nat) → Prop
  | [], _, _ => True
  | part :: rest, nextLine, nextRawOffset =>
    (nextLine ≤ u32Max ∧ nextRawOffset ≤ u32Max ∧ (linesToBytes part).length ≤ u32Max) ∧
      BlocksFit rest (nextLine + part.length) (nextRawOffset + (linesToBytes part).length)

theorem toU32_isSome {n : Nat} : (toU32 n).isSome ↔ n ≤ u32Max := by
  unfold toU32
  split_ifs with h
  · simp [h]
  · simp [h]

private theorem isSome_bind_some {α β : Type} (x : Option α) (f : α → β) :
    (x.bind fun a => some (f a)).isSome = x.isSome := by
  cases x <;> rfl

theorem fromBlockRaws_isSome
    (hParts : ∀ part ∈ parts, 0 < part.length ∧ part.length ≤ linesPerBlock + 1) :
    (fromBlockRaws (parts.map fun part => (linesToBytes part, part.length)) nextLine
      nextRawOffset).isSome ↔ BlocksFit parts nextLine nextRawOffset := by
  induction parts generalizing nextLine nextRawOffset with
  | nil => exact iff_of_true rfl trivial
  | cons part _ ih =>
    obtain ⟨hSome, hShort⟩ := hParts part mem_cons_self
    have hCount : ¬(part.length = 0 ∨ u16Max < part.length) := by
      unfold linesPerBlock at hShort
      unfold u16Max
      omega
    have hRest := @ih (nextRawOffset + (linesToBytes part).length) (nextLine + part.length)
      fun other hOther => hParts other (mem_cons_of_mem _ hOther)
    rw [map_cons, fromBlockRaws, if_neg hCount, BlocksFit, ← hRest, ← toU32_isSome, ← toU32_isSome,
      ← toU32_isSome]
    cases toU32 nextLine with
    | none => simp
    | some =>
      cases toU32 nextRawOffset with
      | none => simp
      | some =>
        cases toU32 (linesToBytes part).length with
        | none => simp
        | some => simp [isSome_bind_some]

/-- **A page is stored exactly if its blocks fit.** -/
theorem fromLines_isSome :
    (fromLines codec lines).isSome ↔ BlocksFit (cut linesPerBlock lines) 0 0 := by
  have hIndex := @fromBlockRaws_isSome 0 0 (cut linesPerBlock lines)
    fun part hMem => length_of_mem_cut hMem
  rw [← hIndex, fromLines]
  simp only [bind, isSome_bind_some]

end Pages

end FrankenTerm.Ports.ScrollbackBlocks
