import FrankenTerm.Verified.Loop
import FrankenTerm.Verified.Utf8

/-!
# Delta extraction between two pane snapshots (`ingest.rs`)

A poller sees a pane as a sequence of whole snapshots and has to turn them
into appended text.  `extractDelta` compares two successive snapshots; its
hard part is the overlap search, which exists twice in the source: a nested
`memchr` scan with character-boundary guards, and a Knuth–Morris–Pratt pass
that is chosen for large windows.

Both passes are modelled instruction by instruction.  A computation that
panics — an index out of range, a slice off a character boundary — is `none`,
and so is a `while` loop that has not ended within its fuel, so
`= some result` says that the code returns.

Each pass is shown to select the longest byte border of `current` in the
search window (`kmpLongestOverlap_spec`, `memchrScan_spec`).

## Main results

* `extractDelta_linear_eq_nested` — the two arms return, and return the same.
* `extractDelta_spec` — what a returned delta says about the two snapshots.
* `extractDelta_maximal_border` — the longest border of the window decides.
-/

namespace FrankenTerm.Ports.IngestDelta

open Verified.Border Verified.Loop Verified.Utf8 List

/-! ## The program -/

/-- `DeltaResult`. -/
inductive DeltaResult where
  | content (text : String)
  | noChange
  | gap (reason : String) (content : String)
  deriving Repr, DecidableEq

/-- `memchr::memchr_iter`, which is not part of the repository: its contract
is that it yields, from left to right, exactly the offsets of the needle. -/
structure MemchrIter where
  iter : UInt8 → List UInt8 → List Nat
  mem_iter : ∀ needle haystack pos, pos ∈ iter needle haystack ↔ haystack[pos]? = some needle
  sorted_iter : ∀ needle haystack, (iter needle haystack).Pairwise (· < ·)

/-- A left-to-right scan meets the contract. -/
def MemchrIter.scan : MemchrIter where
  iter needle haystack :=
    (List.range haystack.length).filter fun pos => haystack[pos]? == some needle
  mem_iter needle haystack pos := by
    simp only [List.mem_filter, List.mem_range, beq_iff_eq, and_iff_right_iff_imp]
    intro h
    exact (List.getElem?_eq_some_iff.mp h).1
  sorted_iter needle haystack := List.pairwise_lt_range.filter _

/-- `MIN_PLAUSIBLE_OVERLAP_BYTES`. -/
def minPlausibleOverlapBytes : Nat := 8

/-- `u8::is_ascii_whitespace`. -/
def isAsciiWhitespace (b : UInt8) : Bool :=
  b == 0x20 || b == 0x09 || b == 0x0A || b == 0x0C || b == 0x0D

/-- `overlap_is_plausible`: a long border is taken on faith, a short one must
carry something other than whitespace. -/
def overlapIsPlausible (overlap : String) : Bool :=
  decide (minPlausibleOverlapBytes ≤ (bytes overlap).length) ||
    (decide (2 ≤ (bytes overlap).length) && (bytes overlap).any fun b => !isAsciiWhitespace b)

/-- `while k > 0 && miss(k) { k = fail[k - 1]; }`.  The links of a well-formed
table decrease, so `k + 1` is fuel enough. -/
def fallBack (fail : List Nat) (miss : Nat → Option Bool) : Nat → Nat → Option Nat
  | 0, _ => none
  | fuel + 1, k =>
    if k = 0 then some 0
    else do
      if ← miss k then
        let k' ← fail[k - 1]?
        fallBack fail miss fuel k'
      else
        some k

/-- One iteration of the loop that fills the failure table, on the table so
far and the running `k`. -/
def failStep (pat : List UInt8) (st : List Nat × Nat) (i : Nat) :
    Option (List Nat × Nat) := do
  let b ← pat[i]?
  let k ← fallBack st.1 (fun k => (pat[k]?).map (b != ·)) (st.2 + 1) st.2
  let pk ← pat[k]?
  let k := if b == pk then k + 1 else k
  return (st.1.set i k, k)

/-- One iteration of the loop that streams the text through the automaton.
`state == cap` short-circuits before `pat[cap]`, which is out of range. -/
def scanStep (pat : List UInt8) (fail : List Nat) (state : Nat) (b : UInt8) :
    Option Nat := do
  let cap := pat.length
  let state ← fallBack fail
    (fun k => if k = cap then some true else (pat[k]?).map (· != b))
    (state + 1) state
  if state < cap then
    let ps ← pat[state]?
    return if ps == b then state + 1 else state
  else
    return state

/-- `kmp_longest_overlap`. -/
def kmpLongestOverlap (text pattern : List UInt8) : Option (Option Nat) := do
  let cap := min text.length pattern.length
  if cap = 0 then return none
  let pat := pattern.take cap
  let (fail, _) ← (List.range' 1 (cap - 1)).foldlM (failStep pat)
    (List.replicate cap 0, 0)
  let state ← text.foldlM (scanStep pat fail) 0
  return if state = 0 then none else some state

/-- What both arms do with the longest border they found: reject boundary
noise, then emit what follows the border. -/
def acceptOverlap (current : String) (overlapLen : Nat) : Option DeltaResult := do
  let overlap ← sliceTo? current overlapLen
  if !overlapIsPlausible overlap then
    return .gap "overlap_implausible" current
  let delta ← sliceFrom? current overlapLen
  if delta = "" then
    return .gap "content_changed_without_append" current
  return .content delta

/-- The `for pos in memchr_iter(..)` loop of the nested search. -/
def memchrScan (searchWindow current : String) (noBorderReason : String) :
    List Nat → Option DeltaResult
  | [] => some (.gap noBorderReason current)
  | pos :: rest =>
    if !isCharBoundary searchWindow pos then
      memchrScan searchWindow current noBorderReason rest
    else
      let overlapLen := (bytes searchWindow).length - pos
      if overlapLen > (bytes current).length || !isCharBoundary current overlapLen then
        memchrScan searchWindow current noBorderReason rest
      else do
        let tail ← sliceFrom? searchWindow pos
        let head ← sliceTo? current overlapLen
        if tail = head then
          acceptOverlap current overlapLen
        else
          memchrScan searchWindow current noBorderReason rest

/-- `while start < s.len() && !s.is_char_boundary(start) { start += 1; }`; the
first argument is the distance to the end. -/
def snapForward (s : String) : Nat → Nat → Nat
  | 0, start => start
  | left + 1, start =>
    if isCharBoundary s start then start else snapForward s left (start + 1)

/-- `extract_delta_with_overlap_mode`. -/
def extractDeltaWithOverlapMode (memchr : MemchrIter) (previous current : String)
    (overlapSize : Nat) (linear : Bool) : Option DeltaResult :=
  let previousLen := (bytes previous).length
  let currentLen := (bytes current).length
  if previous = current then some .noChange
  else if previous = "" then some (.content current)
  else if currentLen > previousLen && (bytes previous).isPrefixOf (bytes current) &&
      isCharBoundary current previousLen then do
    return .content (← sliceFrom? current previousLen)
  else if current = "" then some (.gap "current_empty" "")
  else if overlapSize = 0 then some (.gap "overlap_size_zero" current)
  else do
    let maxOverlap := min (min overlapSize previousLen) currentLen
    let noBorderReason :=
      if maxOverlap < min previousLen currentLen then "overlap_window_exhausted"
      else "overlap_not_found"
    let searchStart := snapForward previous maxOverlap (previousLen - maxOverlap)
    let searchWindow ← sliceFrom? previous searchStart
    if linear then
      match ← kmpLongestOverlap (bytes searchWindow) (bytes current) with
      | some overlapLen => acceptOverlap current overlapLen
      | none => return .gap noBorderReason current
    else
      let firstChar ← (bytes current)[0]?
      memchrScan searchWindow current noBorderReason
        (memchr.iter firstChar (bytes searchWindow))

/-- `LINEAR_OVERLAP_SEARCH_THRESHOLD_BYTES`. -/
def linearOverlapSearchThresholdBytes : Nat := 64 * 1024

/-- `extract_delta`; `linearEnabled` is the process-wide
`delta_linear_overlap_enabled()`. -/
def extractDelta (memchr : MemchrIter) (linearEnabled : Bool)
    (previous current : String) (overlapSize : Nat) : Option DeltaResult :=
  let window := min (min overlapSize (bytes previous).length) (bytes current).length
  let linear := linearEnabled || decide (linearOverlapSearchThresholdBytes ≤ window)
  extractDeltaWithOverlapMode memchr previous current overlapSize linear

/-! ## The automaton pass finds the longest border -/

/-- The first `n` entries of the table are the failure links of `pat`. -/
structure TableOk (pat : List UInt8) (fail : List Nat) (n : Nat) : Prop where
  length_eq : fail.length = pat.length
  link : ∀ j, j < n → ∃ l, fail[j]? = some l ∧ IsMaxBorder pat (linkText pat (j + 1)) l

variable {pat text : List UInt8} {fail : List Nat} (memchr : MemchrIter)

variable {window current reason : String} {k : Nat} {b : UInt8}

/-- The inner `while` loop returns, on a candidate that `b` extends or on the
empty one. -/
theorem fallBack_spec {n : Nat} {miss : Nat → Option Bool} (htable : TableOk pat fail n) :
    ∀ (fuel k : Nat), k < fuel → k ≤ n → Candidate pat text b k →
      (∀ j, 0 < j → j ≤ k → miss j = some (decide (pat[j]? ≠ some b))) →
      ∃ k', fallBack fail miss fuel k = some k' ∧ k' ≤ k ∧
        Candidate pat text b k' ∧ (k' = 0 ∨ pat[k']? = some b) := by
  intro fuel
  induction fuel with
  | zero => intro k hfuel; omega
  | succ _ ih =>
    intro k hfuel hn hcand hmiss
    by_cases hk : k = 0
    · subst hk
      exact ⟨0, by simp [fallBack], le_rfl, hcand, .inl rfl⟩
    · have hpos : 0 < k := Nat.pos_of_ne_zero hk
      by_cases hhit : pat[k]? = some b
      · refine ⟨k, ?_, le_rfl, hcand, .inr hhit⟩
        simp [fallBack, hk, hmiss k hpos le_rfl, hhit]
      · obtain ⟨l, hget, hlink⟩ := htable.link (k - 1) (by omega)
        obtain ⟨hcand', hlt⟩ := hcand.fallBack hpos hhit hlink
        obtain ⟨k', hrun, hle, hcand'', hend⟩ :=
          ih l (by omega) (by omega) hcand'
            (fun j hj hjl => hmiss j hj (by omega))
        refine ⟨k', ?_, by omega, hcand'', hend⟩
        simp [fallBack, hk, hmiss k hpos le_rfl, hhit, hget, hrun]

/-- Where the inner loop ended, consuming `b` is one comparison. -/
theorem Candidate.settle (hcand : Candidate pat text b k) (hend : k = 0 ∨ pat[k]? = some b) :
    IsMaxBorder pat (text ++ [b]) (if pat[k]? = some b then k + 1 else k) := by
  by_cases hhit : pat[k]? = some b
  · rw [if_pos hhit]
    exact hcand.hit hhit
  · rw [if_neg hhit]
    rcases hend with rfl | h
    · exact hcand.miss hhit
    · exact absurd h hhit

private theorem map_bne_getElem? {j : Nat} (b : UInt8) (hj : j < pat.length) :
    (pat[j]?).map (· != b) = some (decide (pat[j]? ≠ some b)) := by
  rw [getElem?_eq_getElem hj]
  by_cases hjb : pat[j] = b
  · simp [hjb]
  · simp [hjb]

private theorem linkText_snoc {i : Nat} (hi : 0 < i) (hget : pat[i]? = some b) :
    linkText pat (i + 1) = linkText pat i ++ [b] := by
  obtain ⟨j, rfl⟩ : ∃ j, i = j + 1 := ⟨i - 1, by omega⟩
  have htail : pat.tail[j]? = some b := by
    rw [getElem?_tail]
    exact hget
  simp only [linkText, Nat.add_sub_cancel]
  rw [take_add_one, htail, Option.toList_some]

/-- One iteration of the table loop adds one correct link. -/
theorem failStep_spec {i : Nat} (hi : 0 < i) (hlt : i < pat.length) (htable : TableOk pat fail i)
    (hk : IsMaxBorder pat (linkText pat i) k) :
    ∃ fail' k', failStep pat (fail, k) i = some (fail', k') ∧
      TableOk pat fail' (i + 1) ∧ IsMaxBorder pat (linkText pat (i + 1)) k' := by
  have hki : k ≤ i - 1 := by
    have := hk.border.le_text
    rwa [length_linkText (Nat.le_of_lt hlt)] at this
  obtain ⟨b, hb⟩ : ∃ b, pat[i]? = some b :=
    ⟨_, getElem?_eq_getElem hlt⟩
  have hmiss : ∀ j, 0 < j → j ≤ k →
      (pat[j]?).map (b != ·) = some (decide (pat[j]? ≠ some b)) := by
    intro j _ hj
    rw [← map_bne_getElem? b (show j < pat.length by omega)]
    simp only [bne_comm]
  obtain ⟨m, hrun, hle, hcand, hend⟩ :=
    fallBack_spec htable (k + 1) k (by omega) (by omega)
      (Candidate.of_max (b := b) hk) hmiss
  have hm : m < pat.length := by omega
  have hnext := Candidate.settle hcand hend
  rw [← linkText_snoc hi hb, getElem?_eq_getElem hm] at hnext
  refine ⟨fail.set i (if b = pat[m] then m + 1 else m),
    if b = pat[m] then m + 1 else m, ?_, ⟨?_, ?_⟩, ?_⟩
  · simp [failStep, hb, hrun, getElem?_eq_getElem hm]
  · rw [length_set]
    exact htable.length_eq
  · intro j hj
    by_cases hji : j = i
    · subst hji
      refine ⟨_, getElem?_set_self (by rw [htable.length_eq]; exact hlt), ?_⟩
      simpa [eq_comm] using hnext
    · rw [getElem?_set_ne (Ne.symm hji)]
      exact htable.link j (by omega)
  · simpa [eq_comm] using hnext

/-- The table loop returns a complete table. -/
theorem failTable_spec (pat : List UInt8) (hpos : 0 < pat.length) :
    ∃ fail k, (List.range' 1 (pat.length - 1)).foldlM (failStep pat)
          (List.replicate pat.length 0, 0) = some (fail, k) ∧
        TableOk pat fail pat.length := by
  -- After the indices `pre`, the loop has filled `pre.length + 1` entries.
  have hrun := foldlM_inv (failStep pat)
    (fun pre st => TableOk pat st.1 (pre.length + 1) ∧
      IsMaxBorder pat (linkText pat (pre.length + 1)) st.2)
    (range' 1 (pat.length - 1)) (replicate pat.length 0, 0) ?_ ?_
  · obtain ⟨⟨fail, k⟩, hfold, htable, _⟩ := hrun
    refine ⟨fail, k, hfold, ?_⟩
    rwa [length_range', Nat.sub_add_cancel hpos] at htable
  · rintro pre i ⟨fail, k⟩ hpre ⟨htable, hk⟩
    have hlen : pre.length < pat.length - 1 := by
      have := hpre.length_le
      simp only [length_append, length_range', length_cons, length_nil] at this
      omega
    have hi : i = pre.length + 1 := by
      obtain ⟨rest, hrest⟩ := hpre
      have hget := congrArg (fun l : List Nat => l[pre.length]?) hrest
      rw [getElem?_range' hlen] at hget
      simp at hget
      omega
    subst hi
    obtain ⟨fail', k', hstep, htable', hk'⟩ :=
      failStep_spec (Nat.succ_pos _) (by omega) htable hk
    refine ⟨(fail', k'), hstep, ?_, ?_⟩
    · simpa using htable'
    · simpa using hk'
  · refine ⟨⟨length_replicate, ?_⟩, ?_⟩
    · intro j hj
      have hj0 : j = 0 := by
        simp only [length_nil] at hj
        omega
      subst hj0
      refine ⟨0, by simp [hpos], ?_⟩
      simpa [linkText] using isMaxBorder_nil pat
    · simpa [linkText] using isMaxBorder_nil pat

/-- One byte through the automaton. -/
theorem scanStep_spec {state : Nat} (htable : TableOk pat fail pat.length) (b : UInt8)
    (hstate : IsMaxBorder pat text state) :
    ∃ state', scanStep pat fail state b = some state' ∧
      IsMaxBorder pat (text ++ [b]) state' := by
  have hle : state ≤ pat.length := hstate.border.le_pattern
  have hmiss : ∀ j, 0 < j → j ≤ state →
      (if j = pat.length then some true else (pat[j]?).map (· != b)) =
        some (decide (pat[j]? ≠ some b)) := by
    intro j _ hj
    by_cases hcap : j = pat.length
    · simp [hcap]
    · rw [if_neg hcap, map_bne_getElem? b (show j < pat.length by omega)]
  obtain ⟨m, hrun, _, hcand, hend⟩ :=
    fallBack_spec htable (state + 1) state (by omega) hle
      (Candidate.of_max (b := b) hstate) hmiss
  have hnext := Candidate.settle hcand hend
  by_cases hcap : m < pat.length
  · refine ⟨if pat[m] = b then m + 1 else m, ?_, ?_⟩
    · simp [scanStep, hrun, hcap]
    · simpa [getElem?_eq_getElem hcap] using hnext
  · refine ⟨m, ?_, ?_⟩
    · simp [scanStep, hrun, hcap]
    · simpa [getElem?_eq_none (Nat.le_of_not_lt hcap)] using hnext

/-- **The automaton pass.**  `kmp_longest_overlap` returns the longest border
of the pattern in the text, and `None` exactly when only the empty one is
left. -/
theorem kmpLongestOverlap_spec (text pattern : List UInt8) :
    ∃ k, IsMaxBorder pattern text k ∧
      kmpLongestOverlap text pattern = some (if k = 0 then none else some k) := by
  by_cases hcap : min text.length pattern.length = 0
  · refine ⟨0, ⟨isBorder_zero _ _, ?_⟩, ?_⟩
    · intro l hl
      have := hl.le_text
      have := hl.le_pattern
      omega
    · simp [kmpLongestOverlap, hcap]
  · have hlen : (pattern.take (min text.length pattern.length)).length =
        min text.length pattern.length := by
      rw [length_take]
      omega
    obtain ⟨fail, k0, hfail, htable⟩ :=
      failTable_spec (pattern.take (min text.length pattern.length))
        (by omega)
    have hscan := foldlM_inv
      (scanStep (pattern.take (min text.length pattern.length)) fail)
      (fun pre state =>
        IsMaxBorder (pattern.take (min text.length pattern.length)) pre state)
      text 0
      (fun pre b state _ hstate => scanStep_spec htable b hstate)
      (isMaxBorder_nil _)
    obtain ⟨state, hrun, hstate⟩ := hscan
    refine ⟨state, ⟨?_, ?_⟩, ?_⟩
    · exact (isBorder_take le_rfl).mp hstate.border
    · intro l hl
      exact hstate.max l ((isBorder_take le_rfl).mpr hl)
    · rw [hlen] at hfail
      simp only [kmpLongestOverlap, hcap, if_false, hfail, hrun, Option.bind_eq_bind,
        Option.bind_some, pure]

/-! ## The nested scan finds the same border -/

/-- What either arm returns, as a function of the longest border alone. -/
def borderVerdict (current noBorderReason : String) (k : Nat) :
    Option DeltaResult :=
  if k = 0 then some (.gap noBorderReason current) else acceptOverlap current k

/-- A candidate position is accepted exactly when it starts a border: the
guards never reject a border, and nothing else survives the comparison. -/
theorem memchrScan_cons {pos : Nat} {rest : List Nat} (hpos : pos < (bytes window).length) :
    memchrScan window current reason (pos :: rest) = open Classical in
      if IsBorder (bytes current) (bytes window) ((bytes window).length - pos) then
        acceptOverlap current ((bytes window).length - pos)
      else memchrScan window current reason rest := by
  have hback : (bytes window).length - ((bytes window).length - pos) = pos := by
    omega
  rw [memchrScan]
  by_cases hb : IsBorder (bytes current) (bytes window) ((bytes window).length - pos)
  · obtain ⟨hwin, hcur⟩ := isCharBoundary_of_isBorder (by omega) hb
    rw [hback] at hwin
    obtain ⟨tail, htail, htb⟩ := exists_sliceFrom? hwin
    obtain ⟨head, hhead, hhb⟩ := exists_sliceTo? hcur
    have hsame : tail = head := by
      apply bytes_injective
      rw [htb, hhb, ← (isBorder_iff_drop.mp hb).2.2, hback]
    have hle : ¬ (bytes current).length < (bytes window).length - pos := by
      have := hb.le_pattern
      omega
    simp [hb, hwin, hcur, hle, htail, hhead, hsame]
  · rw [if_neg hb]
    by_cases hwin : isCharBoundary window pos
    · by_cases hcur : (bytes current).length < (bytes window).length - pos ∨
          isCharBoundary current ((bytes window).length - pos) = false
      · simp only [hwin, gt_iff_lt, Bool.or_eq_true, decide_eq_true_eq,
          Bool.not_eq_true', Bool.not_true, Bool.false_eq_true, if_false, hcur,
          if_true]
      · rw [not_or, Bool.not_eq_false] at hcur
        obtain ⟨tail, htail, htb⟩ := exists_sliceFrom? hwin
        obtain ⟨head, hhead, hhb⟩ := exists_sliceTo? hcur.2
        have hdiff : tail ≠ head := by
          rintro rfl
          apply hb
          refine isBorder_iff_drop.mpr ⟨by omega, by omega, ?_⟩
          rw [hback, ← htb, hhb]
        simp [hwin, hcur, htail, hhead, hdiff]
    · simp [hwin]

/-- **The nested pass.**  Scanning ascending positions that include the start
of every border returns the verdict on the longest one. -/
theorem memchrScan_spec (hk : IsMaxBorder (bytes current) (bytes window) k) :
    ∀ positions : List Nat, positions.Pairwise (· < ·) →
      (∀ pos ∈ positions, pos < (bytes window).length) →
      (∀ l, 0 < l → IsBorder (bytes current) (bytes window) l →
        (bytes window).length - l ∈ positions) →
      memchrScan window current reason positions =
        borderVerdict current reason k := by
  intro positions
  induction positions with
  | nil =>
    intro _ _ hall
    have hk0 : k = 0 := by
      by_contra hne
      exact absurd (hall k (Nat.pos_of_ne_zero hne) hk.border) not_mem_nil
    simp [memchrScan, borderVerdict, hk0]
  | cons pos _ ih =>
    intro hsorted hlt hall
    have hpos : pos < (bytes window).length := hlt pos (by simp)
    rw [memchrScan_cons hpos]
    by_cases hb : IsBorder (bytes current) (bytes window)
        ((bytes window).length - pos)
    · -- positions ascend, so the first border met is the longest
      have hge := hk.max _ hb
      have hmem := hall k (by omega) hk.border
      have hle : pos ≤ (bytes window).length - k := by
        rcases mem_cons.mp hmem with h | h
        · omega
        · exact Nat.le_of_lt ((pairwise_cons.mp hsorted).1 _ h)
      have hkl := hk.border.le_text
      have hkeq : (bytes window).length - pos = k := by omega
      rw [if_pos hb, borderVerdict, if_neg (by omega), hkeq]
    · rw [if_neg hb]
      refine ih (pairwise_cons.mp hsorted).2
        (fun p hp => hlt p (by simp [hp])) ?_
      intro l hl hborder
      rcases mem_cons.mp (hall l hl hborder) with h | h
      · have hle := hborder.le_text
        have heq : (bytes window).length - pos = l := by omega
        exact absurd (heq ▸ hborder) hb
      · exact h

/-! ## The two arms agree -/

/-- Snapping forward ends on the first boundary from `start` on; there is one, because the end of
the string is one. -/
theorem snapForward_isLeast (s : String) (left start : Nat) (h : start + left = (bytes s).length) :
    IsLeast {i | start ≤ i ∧ isCharBoundary s i = true} (snapForward s left start) := by
  induction left generalizing start with
  | zero =>
    refine ⟨⟨le_rfl, ?_⟩, fun i hi => hi.1⟩
    rw [show start = (bytes s).length by simpa using h]
    exact isCharBoundary_length s
  | succ _ ih =>
    rw [snapForward]
    by_cases hb : isCharBoundary s start
    · rw [if_pos hb]
      exact ⟨⟨le_rfl, hb⟩, fun i hi => hi.1⟩
    · rw [if_neg hb]
      obtain ⟨⟨hle, hbound⟩, hleast⟩ := ih (start + 1) (by omega)
      refine ⟨⟨by omega, hbound⟩, fun i hi => hleast ⟨?_, hi.2⟩⟩
      have hne : i ≠ start := fun heq => hb (heq ▸ hi.2)
      have := hi.1
      omega

/-- The border of `current` in the search window decides the outcome of the
search, in both modes. -/
theorem search_spec (window current : String) (hcurrent : current ≠ "") :
    ∃ k, IsMaxBorder (bytes current) (bytes window) k ∧ ∀ (reason : String) (linear : Bool),
      (if linear then do
          match ← kmpLongestOverlap (bytes window) (bytes current) with
          | some overlapLen => acceptOverlap current overlapLen
          | none => return .gap reason current
        else do
          let firstChar ← (bytes current)[0]?
          memchrScan window current reason
            (memchr.iter firstChar (bytes window))) =
        borderVerdict current reason k := by
  obtain ⟨k, hk, hrun⟩ := kmpLongestOverlap_spec (bytes window) (bytes current)
  refine ⟨k, hk, fun reason linear => ?_⟩
  cases linear with
  | true =>
    by_cases hk0 : k = 0
    · simp [hrun, hk0, borderVerdict]
    · simp [hrun, hk0, borderVerdict]
  | false =>
    have hne : bytes current ≠ [] := by simpa using hcurrent
    obtain ⟨b, hb⟩ : ∃ b, (bytes current)[0]? = some b :=
      ⟨_, getElem?_eq_getElem (length_pos_iff.mpr hne)⟩
    simp only [Bool.false_eq_true, if_false, hb, Option.bind_eq_bind, Option.bind_some]
    refine memchrScan_spec hk _ (memchr.sorted_iter _ _) ?_ ?_
    · intro pos hpos
      rw [memchr.mem_iter] at hpos
      exact (List.getElem?_eq_some_iff.mp hpos).1
    · -- The positions of the first byte include every border.
      intro l hl hborder
      rw [memchr.mem_iter, ← hb]
      have hdrop := (isBorder_iff_drop.mp hborder).2.2
      have := congrArg (fun bs : List UInt8 => bs[0]?) hdrop
      simpa [getElem?_take, hl] using this

/-- What a returned delta says about the two snapshots it was extracted from.
A gap always carries the whole current snapshot. -/
def DeltaResult.Explains (previous current : String) : DeltaResult → Prop
  | .noChange => previous = current
  | .content delta =>
    ∃ front overlap, previous = front ++ overlap ∧ current = overlap ++ delta
  | .gap _ text => text = current

/-- **The verdict on a border**: what follows it is returned if the border is plausible and something
follows it. -/
theorem borderVerdict_spec (reason : String)
    (hk : IsBorder (bytes current) (bytes window) k) :
    ∃ overlap delta why, current = overlap ++ delta ∧ bytes overlap = (bytes current).take k ∧
      borderVerdict current reason k =
        some (if overlapIsPlausible overlap ∧ delta ≠ "" then .content delta
          else .gap why current) := by
  by_cases hk0 : k = 0
  · have hnone : overlapIsPlausible "" = false := by decide
    exact ⟨"", current, reason, by simp, by simp [hk0], by simp [borderVerdict, hk0, hnone]⟩
  · obtain ⟨_, hcur⟩ := isCharBoundary_of_isBorder (Nat.pos_of_ne_zero hk0) hk
    obtain ⟨overlap, hto, hob⟩ := exists_sliceTo? hcur
    obtain ⟨delta, hfrom, _⟩ := exists_sliceFrom? hcur
    have hsplit := sliceTo?_append_sliceFrom? hto hfrom
    rw [borderVerdict, if_neg hk0, acceptOverlap]
    by_cases hplaus : overlapIsPlausible overlap
    · by_cases hdelta : delta = ""
      · exact ⟨overlap, delta, "content_changed_without_append", hsplit, hob,
          by simp [hto, hfrom, hplaus, hdelta]⟩
      · exact ⟨overlap, delta, reason, hsplit, hob, by simp [hto, hfrom, hplaus, hdelta]⟩
    · exact ⟨overlap, delta, "overlap_implausible", hsplit, hob, by simp [hto, hplaus]⟩

section Search

variable {previous : String} {overlapSize : Nat}

/-- **The search**, where it is reached: the longest border of `current` in the window decides, in
both modes. -/
theorem extractDeltaWithOverlapMode_search (heq : previous ≠ current) (hprev : previous ≠ "")
    (happ : ¬((bytes current).length > (bytes previous).length &&
      (bytes previous).isPrefixOf (bytes current) &&
      isCharBoundary current (bytes previous).length))
    (hcur : current ≠ "") (hsize : overlapSize ≠ 0) :
    ∃ reason start window k, IsLeast {i | (bytes previous).length -
        min (min overlapSize (bytes previous).length) (bytes current).length ≤ i ∧
          isCharBoundary previous i = true} start ∧
      bytes window = (bytes previous).drop start ∧
      IsMaxBorder (bytes current) (bytes window) k ∧ ∀ linear,
        extractDeltaWithOverlapMode memchr previous current overlapSize linear =
          borderVerdict current reason k := by
  have hsnap := snapForward_isLeast previous
    (min (min overlapSize (bytes previous).length) (bytes current).length)
    ((bytes previous).length -
      min (min overlapSize (bytes previous).length) (bytes current).length)
    (by omega)
  obtain ⟨window, hwin, hwb⟩ := exists_sliceFrom? hsnap.1.2
  obtain ⟨k, hk, hrun⟩ := search_spec memchr window current hcur
  refine ⟨if min (min overlapSize (bytes previous).length) (bytes current).length <
        min (bytes previous).length (bytes current).length then
      "overlap_window_exhausted" else "overlap_not_found",
    _, window, k, hsnap, hwb, hk, fun linear => ?_⟩
  unfold extractDeltaWithOverlapMode
  simp only [if_neg heq, if_neg hprev, if_neg happ, if_neg hcur, if_neg hsize, hwin,
    Option.bind_eq_bind, Option.bind_some]
  exact hrun _ linear

/-- A border of the window ends `previous`. -/
theorem exists_front {overlap : String} {start : Nat}
    (hwindow : bytes window = (bytes previous).drop start)
    (hk : IsBorder (bytes current) (bytes window) k)
    (hoverlap : bytes overlap = (bytes current).take k) : ∃ front, previous = front ++ overlap := by
  apply exists_eq_append_of_suffix
  rw [hoverlap]
  exact hk.2.trans (hwindow ▸ drop_suffix _ _)

end Search

/-- One pass over the branches of the extraction: a result that does not
depend on the mode, and what it says. -/
theorem extractDeltaWithOverlapMode_spec (previous current : String) (overlapSize : Nat) :
    ∃ r, r.Explains previous current ∧ ∀ linear,
      extractDeltaWithOverlapMode memchr previous current overlapSize linear =
        some r := by
  by_cases heq : previous = current
  · exact ⟨.noChange, heq, fun _ => by simp [extractDeltaWithOverlapMode, heq]⟩
  by_cases hprev : previous = ""
  · subst hprev
    exact ⟨.content current, ⟨"", "", by simp, by simp⟩,
      fun _ => by simp [extractDeltaWithOverlapMode, heq]⟩
  by_cases happ : ((bytes current).length > (bytes previous).length &&
      (bytes previous).isPrefixOf (bytes current) &&
      isCharBoundary current (bytes previous).length)
  · simp only [Bool.and_eq_true, decide_eq_true_eq, isPrefixOf_iff_prefix] at happ
    obtain ⟨⟨hlen, hpre⟩, hbound⟩ := happ
    obtain ⟨delta, hdelta, hdb⟩ := exists_sliceFrom? hbound
    refine ⟨.content delta, ⟨"", previous, by simp, ?_⟩, ?_⟩
    · apply bytes_injective
      rw [bytes_append, hdb]
      exact (prefix_iff_eq_append.mp hpre).symm
    · intro linear
      simp only [extractDeltaWithOverlapMode, heq, hprev, if_false]
      rw [if_pos (by simp [hlen, hpre, hbound]), hdelta]
      rfl
  by_cases hcur : current = ""
  · refine ⟨.gap "current_empty" "", hcur.symm, fun _ => ?_⟩
    unfold extractDeltaWithOverlapMode
    rw [if_neg heq, if_neg hprev, if_neg happ, if_pos hcur]
  by_cases hsize : overlapSize = 0
  · refine ⟨.gap "overlap_size_zero" current, rfl, fun _ => ?_⟩
    unfold extractDeltaWithOverlapMode
    rw [if_neg heq, if_neg hprev, if_neg happ, if_neg hcur, if_pos hsize]
  obtain ⟨reason, start, window, k, _, hwindow, hk, hrun⟩ :=
    extractDeltaWithOverlapMode_search memchr heq hprev happ hcur hsize
  obtain ⟨overlap, delta, why, hsplit, hoverlap, hverdict⟩ := borderVerdict_spec reason hk.border
  rw [hverdict] at hrun
  refine ⟨_, ?_, hrun⟩
  split_ifs
  · obtain ⟨front, hfront⟩ := exists_front hwindow hk.border hoverlap
    exact ⟨front, overlap, hfront, hsplit⟩
  · rfl

/-- **Fast path equals slow path.**  For every pair of snapshots and every
window both arms return, and they return the same result. -/
theorem extractDelta_linear_eq_nested (memchr : MemchrIter)
    (previous current : String) (overlapSize : Nat) :
    ∃ r, extractDeltaWithOverlapMode memchr previous current overlapSize true = some r ∧
      extractDeltaWithOverlapMode memchr previous current overlapSize false = some r := by
  obtain ⟨r, _, hrun⟩ :=
    extractDeltaWithOverlapMode_spec memchr previous current overlapSize
  exact ⟨r, hrun true, hrun false⟩

/-- `extract_delta` returns, and its result explains the two snapshots. -/
theorem extractDelta_spec (linearEnabled : Bool) (previous current : String) (overlapSize : Nat) :
    ∃ r, extractDelta memchr linearEnabled previous current overlapSize = some r ∧
      r.Explains previous current := by
  obtain ⟨r, hsays, hrun⟩ :=
    extractDeltaWithOverlapMode_spec memchr previous current overlapSize
  exact ⟨r, hrun _, hsays⟩

/-- **The longest border decides.**  Where neither snapshot is empty and the new one does not extend
the old one, let the window be the end of `previous` from the first character boundary that leaves at
most `overlapSize` bytes and as many as `current` has, and `L` its longest border.  What follows the
border is returned if something does and the border is plausible, and then the old snapshot ends
with the border; otherwise all of `current` is a gap. -/
theorem extractDelta_maximal_border (memchr : MemchrIter) (linearEnabled : Bool)
    {previous current : String} {overlapSize : Nat} (hne : previous ≠ current)
    (hprevious : previous ≠ "") (hcurrent : current ≠ "")
    (hextends : ¬bytes previous <+: bytes current) (hsize : 0 < overlapSize) :
    ∃ start L overlap delta, IsLeast {i | (bytes previous).length -
        min (min overlapSize (bytes previous).length) (bytes current).length ≤ i ∧
          isCharBoundary previous i = true} start ∧
      IsMaxBorder (bytes current) ((bytes previous).drop start) L ∧
      current = overlap ++ delta ∧ (bytes overlap).length = L ∧
      let admissible := L < (bytes current).length ∧
        (8 ≤ L ∨ 2 ≤ L ∧ ∃ b ∈ bytes overlap, isAsciiWhitespace b = false)
      (admissible → extractDelta memchr linearEnabled previous current overlapSize =
        some (.content delta) ∧ bytes current <:+ bytes (previous ++ delta)) ∧
      (¬admissible → ∃ reason, extractDelta memchr linearEnabled previous current overlapSize =
        some (.gap reason current)) := by
  have happ : ¬((bytes current).length > (bytes previous).length &&
      (bytes previous).isPrefixOf (bytes current) &&
      isCharBoundary current (bytes previous).length) := by
    simp only [Bool.and_eq_true, isPrefixOf_iff_prefix]
    exact fun h => hextends h.1.2
  obtain ⟨reason, start, window, k, hstart, hwindow, hk, hrun⟩ :=
    extractDeltaWithOverlapMode_search memchr hne hprevious happ hcurrent (Nat.pos_iff_ne_zero.mp hsize)
  obtain ⟨overlap, delta, why, hsplit, hoverlap, hverdict⟩ := borderVerdict_spec reason hk.border
  have hlength : (bytes overlap).length = k := by
    rw [hoverlap, length_take, Nat.min_eq_left hk.border.le_pattern]
  have hdelta : delta ≠ "" ↔ k < (bytes current).length := by
    have hsum := congrArg (fun s => (bytes s).length) hsplit
    simp only [bytes_append, length_append, hlength] at hsum
    rw [ne_eq, ← bytes_eq_nil, ← length_eq_zero_iff]
    omega
  have hplausibleIff : overlapIsPlausible overlap ↔
      8 ≤ k ∨ 2 ≤ k ∧ ∃ b ∈ bytes overlap, isAsciiWhitespace b = false := by
    simp [overlapIsPlausible, minPlausibleOverlapBytes, hlength]
  rw [hverdict] at hrun
  rw [hwindow] at hk
  refine ⟨start, k, overlap, delta, hstart, hk, hsplit, hlength, fun hyes => ?_, fun hno => ?_⟩
  · obtain ⟨front, hfront⟩ := exists_front hwindow (hwindow ▸ hk.border) hoverlap
    refine ⟨(hrun _).trans ?_, ?_⟩
    · rw [if_pos ⟨hplausibleIff.mpr hyes.2, hdelta.mpr hyes.1⟩]
    · rw [hfront, hsplit]
      simp only [bytes_append, append_assoc]
      exact suffix_append _ _
  · refine ⟨why, (hrun _).trans ?_⟩
    rw [if_neg fun h => hno ⟨hdelta.mp h.2, hplausibleIff.mp h.1⟩]

theorem scrolled_line_has_border :
    IsMaxBorder (bytes "two three") (bytes "one two") 3 ∧
      extractDelta MemchrIter.scan false "one two" "two three" 4096 = some (.content " three") := by
  obtain ⟨start, L, overlap, delta, hstart, hL, hsplit, hlength, hyes, _⟩ :=
    extractDelta_maximal_border MemchrIter.scan false (by decide : "one two" ≠ "two three")
      (by decide) (by decide) (by decide +kernel) (Nat.succ_pos 4095)
  -- All of the old snapshot is in the window.
  have hzero : start = 0 :=
    Nat.le_zero.mp (hstart.2 ⟨by decide +kernel, by decide +kernel⟩)
  rw [hzero, drop_zero] at hL
  have hthree : L = 3 := by
    have hle : L ≤ 7 := hL.border.le_text
    have hge : 3 ≤ L := hL.max 3 (isBorder_iff_drop.mpr (by decide +kernel))
    have hborder := isBorder_iff_drop.mp hL.border
    interval_cases L <;> first | rfl | exact absurd hborder (by decide +kernel)
  subst hthree
  have hbytes : bytes overlap ++ bytes delta = bytes "two" ++ bytes " three" := by
    rw [← bytes_append, ← hsplit]
    decide +kernel
  obtain ⟨hoverlap, hdelta⟩ := append_inj hbytes (hlength.trans (by decide +kernel))
  rw [bytes_injective hdelta, bytes_injective hoverlap] at hyes
  exact ⟨hL, (hyes ⟨by decide +kernel, .inr ⟨by decide, by decide +kernel⟩⟩).1⟩

end FrankenTerm.Ports.IngestDelta
