import FrankenTerm.Verified.Records
import FrankenTerm.Verified.Utf8

/-!
# Chunks of scrollback pages

A page of scrollback that is not in use any more is compressed (`scrollback_tiers.rs`).  Pages with
much in common are cut into chunks first, at places that depend on the bytes around them only, and a
chunk that is stored already is stored once: the store finds it by a key of its content and counts
how often the pages refer to it.

The compression and the key come from other libraries.  They are parameters with what is expected of
them (`Codec`): what is compressed can be had back, and different chunks have different keys.  The
count of a chunk is 32 bits wide and wraps.

## Main results

* `flatten_cdcChunks` — the chunks of a page are the page.
* `internPage_sound` — storing a page leaves the others as they are, and its recipe spells it.
* `releaseRecipe_sound` — releasing a page leaves the others as they are.
-/

namespace FrankenTerm.Ports.ScrollbackCdc

open Std (TreeMap TreeSet TransOrd LawfulEqOrd)
open Verified.Utf8

open List

abbrev Bytes := List UInt8

/-- What the scrollback takes from other libraries; `κ` are the keys of chunks. -/
structure Codec (κ : Type) where
  /-- `ByteCompressor::compress`. -/
  compress : Bytes → Bytes
  /-- `ByteCompressor::decompress`. -/
  decompress : Bytes → Option Bytes
  /-- `content_key_128`. -/
  contentKey : Bytes → κ
  /-- The text that `String::from_utf8_lossy` makes of bytes that are none. -/
  replaceInvalid : Bytes → String
  decompress_compress : ∀ raw, decompress (compress raw) = some raw
  contentKey_injective : ∀ left right, contentKey left = contentKey right → left = right

/-! ## Lines in bytes -/

/-- `String::from_utf8_lossy`. -/
def fromUtf8Lossy {κ : Type} (codec : Codec κ) (data : Bytes) : String :=
  (String.fromUTF8? ⟨data.toArray⟩).getD (codec.replaceInvalid data)

variable {κ : Type}

theorem fromUtf8Lossy_bytes (codec : Codec κ) (text : String) :
    fromUtf8Lossy codec (bytes text) = text := by
  have hBytes : (⟨(bytes text).toArray⟩ : ByteArray) = text.toByteArray := by
    simp [bytes]
  have hRead : String.fromUTF8? text.toByteArray = some text := by
    unfold String.fromUTF8?
    rw [dif_pos text.isValidUTF8]
    rfl
  rw [fromUtf8Lossy, hBytes, hRead, Option.getD_some]

/-- `lines_to_bytes`. -/
def linesToBytes (lines : List String) : Bytes :=
  Verified.Records.writeRecords (lines.map Verified.Utf8.bytes)

/-- `bytes_to_lines`. -/
def bytesToLines {κ : Type} (codec : Codec κ) (data : Bytes) : List String :=
  (Verified.Records.readRecords data).map (fromUtf8Lossy codec)

/-- `isize::MAX`, the bound of every allocation. -/
def isizeMax : Nat := 2 ^ 63 - 1

/-- Every string of the source is in memory. -/
def Sized (line : String) : Prop := (Verified.Utf8.bytes line).length ≤ isizeMax

instance (line : String) : Decidable (Sized line) :=
  inferInstanceAs (Decidable ((Verified.Utf8.bytes line).length ≤ isizeMax))

theorem bytesToLines_linesToBytes (codec : Codec κ) {lines : List String}
    (h : ∀ line ∈ lines, Sized line) : bytesToLines codec (linesToBytes lines) = lines := by
  have hShort : ∀ record ∈ lines.map bytes, record.length < 256 ^ 8 := by
    intro record hMem
    obtain ⟨line, hLine, rfl⟩ := mem_map.mp hMem
    exact Nat.lt_of_le_of_lt (h line hLine) (by decide)
  rw [bytesToLines, linesToBytes, Verified.Records.readRecords_writeRecords hShort, map_map]
  exact map_id'' (fromUtf8Lossy_bytes codec) lines

/-! ## Where a page is cut -/

/-- The numbers of `gear_table`, from a state on. -/
def gearFrom : Nat → UInt64 → List UInt64
  | 0, _ => []
  | count + 1, state =>
    let state := state ^^^ (state <<< 13)
    let state := state ^^^ (state >>> 7)
    let state := state ^^^ (state <<< 17)
    state :: gearFrom count state

/-- `gear_table`. -/
def gearTable : Array UInt64 := (gearFrom 256 0x2545F4914F6CDD1D).toArray

/-- `CDC_MIN`. -/
def cdcMin : Nat := 64

/-- `CDC_MASK`. -/
def cdcMask : UInt64 := 511

/-- `CDC_MAX`. -/
def cdcMax : Nat := 4096

/-- The loop of `cdc_chunk_bounds`: the bytes from place `i` on, in a chunk that starts at `start`
and has the rolling hash `h`. -/
def boundsFrom : Bytes → (start i : Nat) → (h : UInt64) → List (Nat × Nat)
  | [], start, i, _ => if start < i then [(start, i)] else []
  | b :: rest, start, i, h =>
    let h := (h <<< 1) + gearTable.getD b.toNat 0
    let len := i - start + 1
    if (cdcMin ≤ len ∧ h &&& cdcMask = 0) ∨ cdcMax ≤ len then
      (start, i + 1) :: boundsFrom rest (i + 1) (i + 1) 0
    else boundsFrom rest start (i + 1) h

/-- `cdc_chunk_bounds`. -/
def cdcChunkBounds (raw : Bytes) : List (Nat × Nat) := boundsFrom raw 0 0 0

/-- The bytes between two places. -/
def slice (raw : Bytes) (bounds : Nat × Nat) : Bytes :=
  (raw.drop bounds.1).take (bounds.2 - bounds.1)

/-- The chunks of a page. -/
def cdcChunks (raw : Bytes) : List Bytes := (cdcChunkBounds raw).map (slice raw)

theorem slice_append_drop {raw : Bytes} {start finish : Nat} (h : start ≤ finish) :
    slice raw (start, finish) ++ raw.drop finish = raw.drop start := by
  have hDrop : raw.drop finish = (raw.drop start).drop (finish - start) := by
    rw [drop_drop]
    congr 1
    omega
  rw [slice, hDrop, take_append_drop]

theorem flatten_boundsFrom (raw : Bytes) {rest : Bytes} {start i : Nat} (h : UInt64)
    (hRest : raw.drop i = rest) (hStart : start ≤ i) :
    ((boundsFrom rest start i h).map (slice raw)).flatten = raw.drop start := by
  induction rest generalizing start i h with
  | nil =>
    have hWhole := @slice_append_drop raw start i hStart
    rw [hRest, append_nil] at hWhole
    unfold boundsFrom
    split
    · simpa using hWhole
    · obtain rfl : start = i := by omega
      simpa using hRest.symm
  | cons _ rest ih =>
    have hNext : raw.drop (i + 1) = rest := by
      rw [← drop_drop, hRest]
      rfl
    unfold boundsFrom
    simp only
    split
    · rw [map_cons, flatten_cons, ih 0 hNext le_rfl]
      exact slice_append_drop (by omega)
    · exact ih _ hNext (by omega)

/-- **The chunks of a page are the page.** -/
theorem flatten_cdcChunks (raw : Bytes) : (cdcChunks raw).flatten = raw :=
  flatten_boundsFrom raw 0 rfl le_rfl

/-! ## The store -/

/-- `CdcChunk`. -/
structure CdcChunk (κ : Type) where
  data : Bytes
  rawLen : Nat
  key : κ
  refs : Nat

section Store

variable {κ : Type} [Ord κ]

/-- `CdcStore`. -/
structure CdcStore (κ : Type) [Ord κ] where
  chunks : TreeMap Nat (CdcChunk κ) := ∅
  index : TreeMap κ Nat := ∅
  nextId : Nat := 0
  totalCompressed : Nat := 0

/-- A 32-bit count, one higher. -/
def bump (refs : Nat) : Nat := (refs + 1) % 2 ^ 32

section

variable (codec : Codec κ) (store : CdcStore κ)

/-- A new chunk. -/
def addChunk (chunk : Bytes) : CdcStore κ × Nat :=
  let compressed := codec.compress chunk
  ({ chunks := store.chunks.insert store.nextId
       { data := compressed, rawLen := chunk.length, key := codec.contentKey chunk, refs := 1 }
     index := store.index.insert (codec.contentKey chunk) store.nextId
     nextId := store.nextId + 1
     totalCompressed := store.totalCompressed + compressed.length }, compressed.length)

/-- One turn of the loop of `CdcStore::intern_page`, with the recipe and the bytes added so far. -/
def internChunk (acc : CdcStore κ × List Nat × Nat) (chunk : Bytes) : CdcStore κ × List Nat × Nat :=
  let (store, recipe, added) := acc
  match store.index[codec.contentKey chunk]? with
  | some existing =>
    let chunks := match store.chunks[existing]? with
      | some c => store.chunks.insert existing { c with refs := bump c.refs }
      | none => store.chunks
    ({ store with chunks }, recipe ++ [existing], added)
  | none =>
    let (next, length) := addChunk codec store chunk
    (next, recipe ++ [store.nextId], added + length)

/-- `CdcStore::intern_page`: the store, the recipe of the page and the compressed bytes added. -/
def CdcStore.internPage (raw : Bytes) : CdcStore κ × List Nat × Nat :=
  (cdcChunks raw).foldl (internChunk codec) (store, [], 0)

/-- One turn of the loop of `CdcStore::release_recipe`, with the bytes freed so far. -/
def releaseChunk (acc : CdcStore κ × Nat) (id : Nat) : CdcStore κ × Nat :=
  let (store, freed) := acc
  match store.chunks[id]? with
  | none => acc
  | some c =>
    if c.refs - 1 = 0 then
      ({ store with
          chunks := store.chunks.erase id
          index := store.index.erase c.key
          totalCompressed := store.totalCompressed - c.data.length }, freed + c.data.length)
    else
      ({ store with chunks := store.chunks.insert id { c with refs := c.refs - 1 } }, freed)

/-- `CdcStore::release_recipe`: the store and the compressed bytes freed. -/
def CdcStore.releaseRecipe (recipe : List Nat) : CdcStore κ × Nat :=
  recipe.foldl releaseChunk (store, 0)

/-- The bytes of a chunk. -/
def CdcStore.content (id : Nat) : Option Bytes := do
  let chunk ← store.chunks[id]?
  let part ← codec.decompress chunk.data
  if part.length ≠ chunk.rawLen then none else some part

/-- `CdcStore::reconstruct`. -/
def CdcStore.reconstruct (recipe : List Nat) : Option Bytes :=
  recipe.foldlM (fun raw id => (store.content codec id).map (raw ++ ·)) []

/-- `CdcStore::clear`. -/
def CdcStore.clear : CdcStore κ := {}

/-! ## The adaptive probe -/

/-- `CDC_ADAPTIVE_PROBE_PAGES`. -/
def cdcAdaptiveProbePages : Nat := 8

/-- `CDC_ADAPTIVE_RATIO_THRESHOLD_X100`. -/
def cdcAdaptiveRatioThresholdX100 : Nat := 150

/-- `usize::saturating_add`. -/
def saturatingAdd (n m : Nat) : Nat := min (n + m) (2 ^ 64 - 1)

/-- `CdcAdaptiveProbe`. -/
structure CdcAdaptiveProbe (κ : Type) [Ord κ] where
  sampledPages : Nat := 0
  rawBytes : Nat := 0
  uniqueChunkBytes : Nat := 0
  seenChunks : TreeSet κ := ∅
  decisionMade : Bool := false
  enabled : Bool := false

/-- `CdcAdaptiveProbe::ratio_x100`. -/
def CdcAdaptiveProbe.ratioX100 (probe : CdcAdaptiveProbe κ) : Nat :=
  if probe.uniqueChunkBytes = 0 then 0
  else min (probe.rawBytes * 100 / probe.uniqueChunkBytes) (2 ^ 64 - 1)

/-- A chunk of a sampled page. -/
def CdcAdaptiveProbe.observeChunk (probe : CdcAdaptiveProbe κ) (chunk : Bytes) :
    CdcAdaptiveProbe κ :=
  if probe.seenChunks.contains (codec.contentKey chunk) then probe
  else
    { probe with
      seenChunks := probe.seenChunks.insert (codec.contentKey chunk)
      uniqueChunkBytes := saturatingAdd probe.uniqueChunkBytes chunk.length }

/-- `CdcAdaptiveProbe::observe_page`; the probe says afterwards whether pages are cut
(`enabled`). -/
def CdcAdaptiveProbe.observePage (probe : CdcAdaptiveProbe κ) (raw : Bytes) : CdcAdaptiveProbe κ :=
  if probe.decisionMade then probe
  else
    let probe := { probe with
      sampledPages := saturatingAdd probe.sampledPages 1
      rawBytes := saturatingAdd probe.rawBytes raw.length }
    let probe := (cdcChunks raw).foldl (CdcAdaptiveProbe.observeChunk codec) probe
    if cdcAdaptiveProbePages ≤ probe.sampledPages then
      { probe with
        decisionMade := true
        enabled := cdcAdaptiveRatioThresholdX100 ≤ probe.ratioX100
        seenChunks := ∅ }
    else probe

end

end Store

/-! ## Pages of a store -/

open CdcStore

section Sound

variable {κ : Type} [Ord κ]

/-- The invariant of a store whose chunks are referred to by `refs`: every chunk counts its
references, has at least one, and is found by the key of its content. -/
structure CdcStore.Sound (codec : Codec κ) (store : CdcStore κ) (refs : List Nat) : Prop where
  chunk : ∀ (id : Nat) c, store.chunks[id]? = some c → c.refs = refs.count id ∧ id ∈ refs ∧
    id < store.nextId ∧ store.index[c.key]? = some id ∧
    ∃ raw, c.data = codec.compress raw ∧ c.rawLen = raw.length ∧ c.key = codec.contentKey raw
  known : ∀ id ∈ refs, id ∈ store.chunks
  indexed : ∀ (key : κ) id, store.index[key]? = some id →
    ∃ c, store.chunks[id]? = some c ∧ c.key = key

variable {codec : Codec κ} {store : CdcStore κ} {refs : List Nat}

theorem sound_clear [TransOrd κ] (codec : Codec κ) : (clear : CdcStore κ).Sound codec [] := by
  constructor <;> simp [clear]

variable {id : Nat} {recipe : List Nat} {other : CdcStore κ} {parts : List Bytes} {chunk : Bytes}

theorem content_of_chunk {c : CdcChunk κ} {raw : Bytes} (hChunk : store.chunks[id]? = some c)
    (hData : c.data = codec.compress raw) (hLen : c.rawLen = raw.length) :
    store.content codec id = some raw := by
  simp [content, hChunk, hData, hLen, codec.decompress_compress]

/-- What is stored under an id depends on its chunk only. -/
theorem content_congr
    (h : (other.chunks[id]?.map fun c => (c.data, c.rawLen)) = store.chunks[id]?.map fun c =>
      (c.data, c.rawLen)) : other.content codec id = store.content codec id := by
  unfold content
  cases hOther : other.chunks[id]? with
  | none =>
    rw [hOther, Option.map_none, eq_comm, Option.map_eq_none_iff] at h
    rw [h]
  | some =>
    rw [hOther, Option.map_some, eq_comm, Option.map_eq_some_iff] at h
    obtain ⟨c', hStore, hSame⟩ := h
    simp only [Prod.mk.injEq] at hSame
    simp only [hStore, Option.bind_some, bind, hSame.1, hSame.2]

/-- **Counting anew**: a chunk whose references are not the same any more. -/
theorem CdcStore.Sound.recount (hSound : store.Sound codec refs) {c : CdcChunk κ} {now : List Nat}
    (hChunk : store.chunks[id]? = some c) (hUsed : id ∈ now)
    (hOthers : ∀ other ≠ id, now.count other = refs.count other) :
    ({ store with chunks := store.chunks.insert id { c with refs := now.count id } } :
      CdcStore κ).Sound codec now ∧
      ∀ other, ({ store with chunks := store.chunks.insert id { c with refs := now.count id } } :
        CdcStore κ).content codec other = store.content codec other := by
  have hInsert : ∀ other ≠ id, (store.chunks.insert id { c with refs := now.count id })[other]? =
      store.chunks[other]? := by
    intro other hNe
    rw [TreeMap.getElem?_insert, if_neg (by simpa using Ne.symm hNe)]
  have hMem : ∀ other ≠ id, other ∈ now ↔ other ∈ refs := by
    intro other hNe
    rw [← count_pos_iff, hOthers other hNe, count_pos_iff]
  refine ⟨⟨fun other c' hOther => ?_, fun other hOther => ?_, fun key other hKeyed => ?_⟩,
    fun other => content_congr ?_⟩
  · by_cases hEq : other = id
    · subst hEq
      obtain rfl : { c with refs := now.count other } = c' := by simpa using hOther
      exact ⟨rfl, hUsed, (hSound.chunk other c hChunk).2.2⟩
    · obtain ⟨hCount, hIn, hRest⟩ := hSound.chunk other c' ((hInsert other hEq).symm.trans hOther)
      exact ⟨hCount.trans (hOthers other hEq).symm, (hMem other hEq).mpr hIn, hRest⟩
  · by_cases hEq : other = id
    · exact TreeMap.mem_insert.mpr (.inl (by simp [hEq]))
    · exact TreeMap.mem_insert.mpr (.inr (hSound.known other ((hMem other hEq).mp hOther)))
  · obtain ⟨c', hOther, hSame⟩ := hSound.indexed key other hKeyed
    by_cases hEq : other = id
    · subst hEq
      obtain rfl : c' = c := Option.some.inj (hOther.symm.trans hChunk)
      exact ⟨{ c' with refs := now.count other }, by simp, hSame⟩
    · exact ⟨c', (hInsert other hEq).trans hOther, hSame⟩
  · by_cases hEq : other = id
    · subst hEq
      simp [hChunk]
    · rw [hInsert other hEq]

/-- A chunk that is stored already. -/
theorem internChunk_existing (hSound : store.Sound codec refs)
    (hIndex : store.index[codec.contentKey chunk]? = some id) (hFits : refs.length + 1 < 2 ^ 32)
    (recipe : List Nat) (added : Nat) :
    ∃ next, internChunk codec (store, recipe, added) chunk = (next, recipe ++ [id], added) ∧
      next.Sound codec (refs ++ [id]) ∧ next.content codec id = some chunk ∧
      ∀ other, next.content codec other = store.content codec other := by
  obtain ⟨c, hChunk, hKey⟩ := hSound.indexed _ id hIndex
  obtain ⟨hRefs, _, _, _, raw, hData, hLen, hRaw⟩ := hSound.chunk id c hChunk
  obtain rfl : raw = chunk := codec.contentKey_injective raw chunk (hRaw.symm.trans hKey)
  have hBump : bump c.refs = (refs ++ [id]).count id := by
    have hLe : refs.count id ≤ refs.length := count_le_length
    rw [bump, hRefs, count_append, count_singleton_self, Nat.mod_eq_of_lt (by omega)]
  obtain ⟨hNext, hContent⟩ := hSound.recount hChunk (show id ∈ refs ++ [id] by simp)
    fun other hNe => by simp [count_append, Ne.symm hNe]
  refine ⟨_, ?_, hNext, (hContent id).trans (content_of_chunk hChunk hData hLen), hContent⟩
  simp [internChunk, hIndex, hChunk, hBump]

variable [TransOrd κ] [LawfulEqOrd κ]

/-- A chunk that is new. -/
theorem internChunk_new (hSound : store.Sound codec refs)
    (hIndex : store.index[codec.contentKey chunk]? = none) (recipe : List Nat) (added : Nat) :
    ∃ next, internChunk codec (store, recipe, added) chunk =
        (next, recipe ++ [store.nextId], added + (codec.compress chunk).length) ∧
      next.Sound codec (refs ++ [store.nextId]) ∧
      next.content codec store.nextId = some chunk ∧
      ∀ other ∈ store.chunks, next.content codec other = store.content codec other := by
  have hFresh : store.nextId ∉ store.chunks := by
    intro hMem
    have hLt := (hSound.chunk store.nextId _ (TreeMap.getElem?_eq_some_getElem hMem)).2.2.1
    omega
  have hUnused : store.nextId ∉ refs := fun hMem => hFresh (hSound.known _ hMem)
  refine ⟨(addChunk codec store chunk).1, by simp [internChunk, hIndex, addChunk], ?_,
    content_of_chunk TreeMap.getElem?_insert_self rfl rfl, ?_⟩
  · constructor
    · intro id c hChunk
      by_cases hEq : id = store.nextId
      · subst hEq
        obtain rfl : c = ⟨codec.compress chunk, chunk.length, codec.contentKey chunk, 1⟩ := by
          simpa [addChunk, eq_comm] using hChunk
        refine ⟨?_, by simp, by simp [addChunk], by simp [addChunk], chunk, rfl, rfl, rfl⟩
        rw [count_append, count_singleton_self, count_eq_zero.mpr hUnused]
      · have hNe : compare store.nextId id ≠ .eq := by simpa using Ne.symm hEq
        simp only [addChunk, TreeMap.getElem?_insert, if_neg hNe] at hChunk
        obtain ⟨hCount, hIn, hLt, hFound, hRest⟩ := hSound.chunk id c hChunk
        refine ⟨?_, mem_append_left _ hIn, Nat.lt_succ_of_lt hLt, ?_, hRest⟩
        · rw [count_append, hCount, count_singleton, if_neg (by simpa using Ne.symm hEq),
            Nat.add_zero]
        · have hOther : compare (codec.contentKey chunk) c.key ≠ .eq := by
            intro hSame
            rw [LawfulEqOrd.compare_eq_iff_eq] at hSame
            rw [hSame, hFound] at hIndex
            exact absurd hIndex (by simp)
          simp only [addChunk, TreeMap.getElem?_insert, if_neg hOther, hFound]
    · intro id hMem
      rcases mem_append.mp hMem with hIn | hIn
      · exact TreeMap.mem_insert.mpr (.inr (hSound.known id hIn))
      · exact TreeMap.mem_insert.mpr (.inl (by simp [mem_singleton.mp hIn]))
    · intro key id hKeyed
      by_cases hEq : compare (codec.contentKey chunk) key = .eq
      · simp only [addChunk, TreeMap.getElem?_insert, if_pos hEq, Option.some.injEq] at hKeyed
        subst hKeyed
        rw [LawfulEqOrd.compare_eq_iff_eq] at hEq
        exact ⟨_, TreeMap.getElem?_insert_self, hEq⟩
      · simp only [addChunk, TreeMap.getElem?_insert, if_neg hEq] at hKeyed
        obtain ⟨c, hChunk, hSame⟩ := hSound.indexed key id hKeyed
        have hNe : compare store.nextId id ≠ .eq := by
          have hLt := (hSound.chunk id c hChunk).2.2.1
          simpa using Nat.ne_of_gt hLt
        exact ⟨c, by simp only [addChunk, TreeMap.getElem?_insert, if_neg hNe, hChunk], hSame⟩
  · intro other hMem
    apply content_congr
    have hNe : compare store.nextId other ≠ .eq := by
      rw [ne_eq, LawfulEqOrd.compare_eq_iff_eq]
      rintro rfl
      exact hFresh hMem
    simp only [addChunk, TreeMap.getElem?_insert, if_neg hNe]

/-- One chunk. -/
theorem internChunk_sound (hSound : store.Sound codec refs) (chunk : Bytes)
    (hFits : refs.length + 1 < 2 ^ 32) (recipe : List Nat) (added : Nat) :
    ∃ next id total, internChunk codec (store, recipe, added) chunk = (next, recipe ++ [id], total) ∧
      next.Sound codec (refs ++ [id]) ∧ next.content codec id = some chunk ∧
      ∀ other ∈ refs, next.content codec other = store.content codec other := by
  cases hIndex : store.index[codec.contentKey chunk]? with
  | some id =>
    obtain ⟨next, hStep, hNext, hContent, hSame⟩ :=
      internChunk_existing hSound hIndex hFits recipe added
    exact ⟨next, id, added, hStep, hNext, hContent, fun other _ => hSame other⟩
  | none =>
    obtain ⟨next, hStep, hNext, hContent, hSame⟩ := internChunk_new hSound hIndex recipe added
    exact ⟨next, _, _, hStep, hNext, hContent, fun other hMem => hSame other (hSound.known other hMem)⟩

/-- A recipe spells some parts. -/
def CdcStore.Spells (codec : Codec κ) (store : CdcStore κ) (recipe : List Nat)
    (parts : List Bytes) : Prop :=
  List.Forall₂ (fun id part => store.content codec id = some part) recipe parts

omit [TransOrd κ] [LawfulEqOrd κ] in
theorem reconstruct_of_spells (h : store.Spells codec recipe parts) :
    store.reconstruct codec recipe = some parts.flatten := by
  have hFrom : ∀ raw : Bytes, recipe.foldlM
      (fun raw id => (store.content codec id).map (raw ++ ·)) raw = some (raw ++ parts.flatten) := by
    induction h with
    | nil => intro raw; simp
    | cons hContent _ ih =>
      intro raw
      rw [foldlM_cons, hContent]
      simp [ih]
  exact hFrom []

omit [TransOrd κ] [LawfulEqOrd κ] in
theorem spells_congr (h : store.Spells codec recipe parts)
    (hSame : ∀ id ∈ recipe, other.content codec id = store.content codec id) :
    other.Spells codec recipe parts := by
  induction h with
  | nil => exact .nil
  | cons hContent _ ih =>
    exact .cons ((hSame _ (by simp)).trans hContent)
      (ih fun id hMem => hSame id (mem_cons_of_mem _ hMem))

theorem internChunks_sound (chunks : List Bytes) (hSound : store.Sound codec refs)
    (hFits : refs.length + chunks.length < 2 ^ 32) (recipe : List Nat) (added : Nat) :
    ∃ next ids total, chunks.foldl (internChunk codec) (store, recipe, added) =
        (next, recipe ++ ids, total) ∧
      next.Sound codec (refs ++ ids) ∧ next.Spells codec ids chunks ∧
      ∀ other ∈ refs, next.content codec other = store.content codec other := by
  induction chunks generalizing store refs recipe added with
  | nil => exact ⟨store, [], added, by simp, by simpa using hSound, .nil, fun _ _ => rfl⟩
  | cons chunk _ ih =>
    rw [length_cons] at hFits
    obtain ⟨first, id, total, hStep, hFirst, hContent, hKept⟩ :=
      internChunk_sound hSound chunk (by omega) recipe added
    obtain ⟨next, ids, total', hRest, hNext, hSpells, hLater⟩ :=
      ih hFirst (by simp only [length_append, length_singleton]; omega)
        (recipe ++ [id]) total
    refine ⟨next, id :: ids, total', ?_, ?_, ?_, ?_⟩
    · rw [foldl_cons, hStep, hRest, append_assoc, singleton_append]
    · rwa [append_assoc, singleton_append] at hNext
    · exact .cons ((hLater id (by simp)).trans hContent) hSpells
    · intro other hMem
      exact (hLater other (mem_append_left _ hMem)).trans (hKept other hMem)

/-- **Storing a page**: its recipe spells it, and the other pages stay as they are. -/
theorem internPage_sound (hSound : store.Sound codec refs) (raw : Bytes)
    (hFits : refs.length + (cdcChunks raw).length < 2 ^ 32) :
    let (next, recipe, _) := store.internPage codec raw
    next.Sound codec (refs ++ recipe) ∧ next.Spells codec recipe (cdcChunks raw) ∧
      ∀ other ∈ refs, next.content codec other = store.content codec other := by
  obtain ⟨next, ids, total, hStep, hNext, hSpells, hKept⟩ :=
    internChunks_sound (cdcChunks raw) hSound hFits [] 0
  rw [internPage, hStep]
  exact ⟨hNext, hSpells, hKept⟩

/-- Releasing one reference. -/
theorem releaseChunk_sound (hSound : store.Sound codec (id :: refs)) (freed : Nat) :
    (releaseChunk (store, freed) id).1.Sound codec refs ∧
      ∀ other ∈ refs, (releaseChunk (store, freed) id).1.content codec other =
        store.content codec other := by
  have hKnown := hSound.known id mem_cons_self
  obtain ⟨c, hChunk⟩ : ∃ c, store.chunks[id]? = some c :=
    ⟨_, TreeMap.getElem?_eq_some_getElem hKnown⟩
  obtain ⟨hRefs, _, _, hFound, _⟩ := hSound.chunk id c hChunk
  rw [count_cons_self] at hRefs
  have hOthers : ∀ (other : Nat) c', store.chunks[other]? = some c' → other ≠ id →
      c'.refs = refs.count other ∧ other ∈ refs := by
    intro other c' hOther hNe
    obtain ⟨hCount, hMem, -⟩ := hSound.chunk other c' hOther
    rw [count_cons_of_ne (Ne.symm hNe)] at hCount
    exact ⟨hCount, (mem_cons.mp hMem).resolve_left hNe⟩
  by_cases hLast : c.refs - 1 = 0
  · have hUnused : id ∉ refs := count_eq_zero.mp (by omega)
    have hStep : (releaseChunk (store, freed) id).1 =
        { store with
          chunks := store.chunks.erase id
          index := store.index.erase c.key
          totalCompressed := store.totalCompressed - c.data.length } := by
      simp [releaseChunk, hChunk, hLast]
    rw [hStep]
    refine ⟨⟨?_, ?_, ?_⟩, ?_⟩
    · intro other c' hOther
      have hNe : other ≠ id := by
        rintro rfl
        exact absurd hOther (by simp)
      rw [TreeMap.getElem?_erase, if_neg (by simpa using Ne.symm hNe)] at hOther
      obtain ⟨-, -, hLt, hOtherFound, hRest⟩ := hSound.chunk other c' hOther
      refine ⟨(hOthers other c' hOther hNe).1, (hOthers other c' hOther hNe).2, hLt, ?_, hRest⟩
      have hKeys : compare c.key c'.key ≠ .eq := by
        rw [ne_eq, LawfulEqOrd.compare_eq_iff_eq]
        intro hSame
        rw [← hSame, hFound] at hOtherFound
        exact hNe (Option.some.inj hOtherFound).symm
      rw [TreeMap.getElem?_erase, if_neg hKeys, hOtherFound]
    · intro other hMem
      refine TreeMap.mem_erase.mpr ⟨?_, hSound.known other (mem_cons_of_mem _ hMem)⟩
      rw [ne_eq, LawfulEqOrd.compare_eq_iff_eq]
      rintro rfl
      exact hUnused hMem
    · intro key other hKeyed
      by_cases hSame : compare c.key key = .eq
      · rw [TreeMap.getElem?_erase, if_pos hSame] at hKeyed
        exact absurd hKeyed (by simp)
      · rw [TreeMap.getElem?_erase, if_neg hSame] at hKeyed
        obtain ⟨c', hOther, hKey⟩ := hSound.indexed key other hKeyed
        refine ⟨c', ?_, hKey⟩
        have hNe : compare id other ≠ .eq := by
          rw [ne_eq, LawfulEqOrd.compare_eq_iff_eq]
          rintro rfl
          obtain rfl : c' = c := Option.some.inj (hOther.symm.trans hChunk)
          exact hSame (LawfulEqOrd.compare_eq_iff_eq.mpr hKey)
        rw [TreeMap.getElem?_erase, if_neg hNe, hOther]
    · intro other hMem
      apply content_congr
      have hNe : compare id other ≠ .eq := by
        rw [ne_eq, LawfulEqOrd.compare_eq_iff_eq]
        rintro rfl
        exact hUnused hMem
      rw [TreeMap.getElem?_erase, if_neg hNe]
  · have hCount : c.refs - 1 = refs.count id := by omega
    have hStep : (releaseChunk (store, freed) id).1 =
        { store with chunks := store.chunks.insert id { c with refs := refs.count id } } := by
      simp [releaseChunk, hChunk, hLast, ← hCount]
    obtain ⟨hNext, hContent⟩ := hSound.recount hChunk (count_pos_iff.mp (by omega))
      fun other hNe => (count_cons_of_ne (Ne.symm hNe)).symm
    rw [hStep]
    exact ⟨hNext, fun other _ => hContent other⟩

/-- **Releasing a page**: the other pages stay as they are. -/
theorem releaseRecipe_sound (recipe : List Nat) (hSound : store.Sound codec (recipe ++ refs)) :
    (store.releaseRecipe recipe).1.Sound codec refs ∧
      ∀ other ∈ refs, (store.releaseRecipe recipe).1.content codec other =
        store.content codec other := by
  have hRun : ∀ freed, (recipe.foldl releaseChunk (store, freed)).1.Sound codec refs ∧
      ∀ other ∈ refs, (recipe.foldl releaseChunk (store, freed)).1.content codec other =
        store.content codec other := by
    induction recipe generalizing store with
    | nil => exact fun freed => ⟨hSound, fun _ _ => rfl⟩
    | cons id rest ih =>
      intro freed
      obtain ⟨hFirst, hKept⟩ := releaseChunk_sound hSound freed
      obtain ⟨hRest, hLater⟩ := ih hFirst (releaseChunk (store, freed) id).2
      refine ⟨hRest, fun other hMem => ?_⟩
      exact (hLater other hMem).trans (hKept other (mem_append_right rest hMem))
  exact hRun 0

end Sound

end FrankenTerm.Ports.ScrollbackCdc
