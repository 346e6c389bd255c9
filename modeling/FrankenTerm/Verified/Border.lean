import Mathlib

/-!
# Borders: prefixes of a pattern that end a text

A *border* of `pat` in `text` is a length `k` such that the first `k`
elements of `pat` are the last `k` elements of `text`.  The overlap search of
a sliding-window capture asks for the longest one.

The module carries the combinatorics of the Knuth–Morris–Pratt automaton and
no algorithm: which borders survive when one element is appended to the text
(`isBorder_snoc_succ`), and why following failure links enumerates the
candidates from the longest down (`Candidate.fallBack`).

The failure link of a pattern prefix is a border as well.  A *proper* border
of `pat.take k` is a border of `pat` in `pat.tail.take (k - 1)`, so the table
that drives the automaton is the automaton's own run over `pat.tail`, and one
set of lemmas serves both passes.

## Main results

* `Candidate.of_max`, `Candidate.fallBack`, `Candidate.hit`,
  `Candidate.miss` — the invariant of the inner loop.
-/

namespace FrankenTerm.Verified.Border

open List

variable {α : Type*}

/-- The first `k` elements of `pat` are the last `k` elements of `text`. -/
def IsBorder (pat text : List α) (k : Nat) : Prop :=
  k ≤ pat.length ∧ pat.take k <:+ text

/-- `k` is the longest border of `pat` in `text`. -/
structure IsMaxBorder (pat text : List α) (k : Nat) : Prop where
  border : IsBorder pat text k
  max : ∀ l, IsBorder pat text l → l ≤ k

theorem isBorder_zero (pat text : List α) : IsBorder pat text 0 :=
  ⟨Nat.zero_le _, by simp⟩

variable {pat text : List α} {b : α} {k l : Nat}

theorem IsBorder.le_pattern (h : IsBorder pat text k) : k ≤ pat.length := h.1

theorem IsBorder.le_text (h : IsBorder pat text k) : k ≤ text.length := by
  have hlen := h.2.length_le
  rw [length_take, Nat.min_eq_left h.1] at hlen
  exact hlen

/-- Only the empty border fits in the empty text. -/
theorem isMaxBorder_nil (pat : List α) : IsMaxBorder pat [] 0 :=
  ⟨isBorder_zero pat [], fun _ h => h.le_text⟩

/-- A border of length `k` is where the tail of the text from
`text.length - k` on and the head of the pattern coincide. -/
theorem isBorder_iff_drop :
    IsBorder pat text k ↔ k ≤ pat.length ∧ k ≤ text.length ∧
        text.drop (text.length - k) = pat.take k := by
  constructor
  · intro h
    refine ⟨h.le_pattern, h.le_text, ?_⟩
    have hdrop := suffix_iff_eq_drop.mp h.2
    rw [length_take, Nat.min_eq_left h.le_pattern] at hdrop
    exact hdrop.symm
  · rintro ⟨hpat, _, hdrop⟩
    exact ⟨hpat, hdrop ▸ drop_suffix _ _⟩

/-- A pattern cut at a bound that no border of the text exceeds has the same
borders. -/
theorem isBorder_take {cap : Nat} (hcap : min text.length pat.length ≤ cap) :
    IsBorder (pat.take cap) text k ↔ IsBorder pat text k := by
  have hmin : k ≤ pat.length → k ≤ text.length → min k cap = k := by
    intro hp ht
    omega
  constructor
  · intro h
    have hp : k ≤ pat.length := by
      have := h.le_pattern
      rw [length_take] at this
      omega
    refine ⟨hp, ?_⟩
    have := h.2
    rwa [take_take, hmin hp h.le_text] at this
  · intro h
    refine ⟨?_, ?_⟩
    · rw [length_take]
      have := h.le_text
      have := h.le_pattern
      omega
    · rw [take_take, hmin h.le_pattern h.le_text]
      exact h.2

/-! ## One more element of text -/

/-- The non-empty borders after one more element are the old borders that
this element extends. -/
theorem isBorder_snoc_succ :
    IsBorder pat (text ++ [b]) (k + 1) ↔
      IsBorder pat text k ∧ pat[k]? = some b := by
  constructor
  · rintro ⟨hle, hsuf⟩
    have hk : k < pat.length := hle
    rw [take_add_one, getElem?_eq_getElem hk] at hsuf
    obtain ⟨front, hfront⟩ := hsuf
    rw [Option.toList_some, ← append_assoc] at hfront
    obtain ⟨hsame, hlast⟩ := append_inj' hfront rfl
    refine ⟨⟨Nat.le_of_lt hk, front, hsame⟩, ?_⟩
    rw [getElem?_eq_getElem hk]
    simpa using hlast
  · rintro ⟨⟨_, front, hfront⟩, hget⟩
    obtain ⟨hk, _⟩ := List.getElem?_eq_some_iff.mp hget
    refine ⟨hk, front, ?_⟩
    rw [List.take_add_one, hget, Option.toList_some, ← List.append_assoc, hfront]

/-- The text whose borders are the proper borders of `pat.take k`. -/
def linkText (pat : List α) (k : Nat) : List α := pat.tail.take (k - 1)

theorem linkText_eq :
    linkText pat k = (pat.take k).tail := by
  cases pat with
  | nil => simp [linkText]
  | cons =>
    cases k with
    | zero | succ => simp [linkText]

theorem length_linkText (hk : k ≤ pat.length) : (linkText pat k).length = k - 1 := by
  rw [linkText, length_take, length_tail]
  omega

/-- Of two borders in one text, the shorter is a proper border of the longer
prefix. -/
theorem IsBorder.link (hl : IsBorder pat text l) (hk : IsBorder pat text k) (hlt : l < k) :
    IsBorder pat (linkText pat k) l := by
  have hlen : (pat.take l).length ≤ (linkText pat k).length := by
    rw [length_linkText hk.le_pattern, length_take, Nat.min_eq_left hl.le_pattern]
    omega
  have htail : linkText pat k <:+ text := by
    rw [linkText_eq]
    exact (tail_suffix _).trans hk.2
  exact ⟨hl.le_pattern, suffix_of_suffix_length_le hl.2 htail hlen⟩

/-- A proper border of a border is a border. -/
theorem IsBorder.of_link (hk : IsBorder pat text k) (hl : IsBorder pat (linkText pat k) l) :
    IsBorder pat text l := by
  refine ⟨hl.le_pattern, hl.2.trans ?_⟩
  rw [linkText_eq]
  exact (tail_suffix _).trans hk.2

/-! ## The inner loop of the automaton -/

/-- While element `b` is being consumed, `k` is a border of the text before
it and no border after it exceeds `k + 1`. -/
structure Candidate (pat text : List α) (b : α) (k : Nat) : Prop where
  border : IsBorder pat text k
  bound : ∀ l, IsBorder pat (text ++ [b]) l → l ≤ k + 1

theorem Candidate.of_max (h : IsMaxBorder pat text k) : Candidate pat text b k := by
  refine ⟨h.border, ?_⟩
  intro l hl
  cases l with
  | zero => omega
  | succ l =>
    have := h.max l (isBorder_snoc_succ.mp hl).1
    omega

/-- A candidate that `b` does not extend is replaced by its failure link,
which is shorter. -/
theorem Candidate.fallBack {k' : Nat}
    (h : Candidate pat text b k) (hpos : 0 < k) (hmiss : pat[k]? ≠ some b)
    (hlink : IsMaxBorder pat (linkText pat k) k') :
    Candidate pat text b k' ∧ k' < k := by
  have hlt : k' < k := by
    have := hlink.border.le_text
    rw [length_linkText h.border.le_pattern] at this
    omega
  refine ⟨⟨h.border.of_link hlink.border, ?_⟩, hlt⟩
  intro l hl
  cases l with
  | zero => omega
  | succ l =>
    obtain ⟨hborder, hget⟩ := isBorder_snoc_succ.mp hl
    have hne : l ≠ k := by
      rintro rfl
      exact hmiss hget
    have hle : l < k := by
      have := h.bound (l + 1) hl
      omega
    have := hlink.max l (hborder.link h.border hle)
    omega

/-- A candidate that `b` extends is the longest border after `b`. -/
theorem Candidate.hit (h : Candidate pat text b k) (hget : pat[k]? = some b) :
    IsMaxBorder pat (text ++ [b]) (k + 1) :=
  ⟨isBorder_snoc_succ.mpr ⟨h.border, hget⟩, h.bound⟩

/-- When even the empty candidate is not extended, nothing is. -/
theorem Candidate.miss (h : Candidate pat text b 0) (hmiss : pat[0]? ≠ some b) :
    IsMaxBorder pat (text ++ [b]) 0 := by
  refine ⟨isBorder_zero _ _, ?_⟩
  intro l hl
  cases l with
  | zero => exact Nat.le_refl 0
  | succ l =>
    have hle := h.bound (l + 1) hl
    have hl0 : l = 0 := by omega
    subst hl0
    exact absurd (isBorder_snoc_succ.mp hl).2 hmiss

end FrankenTerm.Verified.Border
