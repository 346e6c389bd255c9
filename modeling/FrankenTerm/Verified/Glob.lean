import Mathlib

/-!
# Glob patterns and the single-retry matcher

A glob pattern is a word over the alphabet of the values, with two letters set aside: `star`
stands for any word, `any` for any one letter, and every other letter for itself.  `Matches`
is that language, read off a cut of the value into one piece for each letter of the pattern.

`loop` is the usual linear matcher.  It walks both words, keeps one retry point, the last star
it met, and on a mismatch lets that star take one more letter.  It compares letters before it
looks for a star, so a star of the pattern that faces a star of the value is taken as a plain
letter and sets no retry point.

Which letters face each other in a walk is a matter of the two words: `Faces` says it by the
language, of the first match of what comes before.

## Main results

* `matches_of_loop` — the matcher accepts only words of the language.
* `loop_iff_matches` — it accepts all of them where no star faces a star.
* `loop_encoded` — it walks code words as it walks the letters, where `any` meets no long word.
-/

namespace FrankenTerm.Verified.Glob

open List

variable {α : Type} [DecidableEq α] (star any : α)

/-! ## The language -/

/-- A piece of the value that a letter of the pattern stands for. -/
def PieceOf (letter : α) (piece : List α) : Prop :=
  if letter = star then True else if letter = any then piece.length = 1 else piece = [letter]

/-- The value can be cut into pieces that the letters of the pattern stand for, in order. -/
def Matches (pattern value : List α) : Prop :=
  ∃ pieces, List.Forall₂ (PieceOf star any) pattern pieces ∧ pieces.flatten = value

variable {star any} {p v : List α}

@[simp] theorem matches_nil : Matches star any [] v ↔ v = [] := by
  constructor
  · rintro ⟨pieces, hPieces, rfl⟩
    cases hPieces
    rfl
  · rintro rfl
    exact ⟨[], .nil, rfl⟩

theorem matches_star : Matches star any (star :: p) v ↔ ∃ k, Matches star any p (v.drop k) := by
  constructor
  · rintro ⟨pieces, hPieces, rfl⟩
    rcases forall₂_cons_left_iff.mp hPieces with ⟨piece, rest, _, hRest, rfl⟩
    refine ⟨piece.length, rest, hRest, ?_⟩
    rw [flatten_cons, drop_left]
  · rintro ⟨k, pieces, hPieces, hFlat⟩
    have hStar : PieceOf star any star (v.take k) := by
      rw [PieceOf, if_pos rfl]
      trivial
    refine ⟨v.take k :: pieces, .cons hStar hPieces, ?_⟩
    rw [flatten_cons, hFlat, take_append_drop]

theorem matches_letter {letter : α} (hStar : letter ≠ star) :
    Matches star any (letter :: p) v ↔
      ∃ a rest, v = a :: rest ∧ (letter = any ∨ letter = a) ∧ Matches star any p rest := by
  constructor
  · rintro ⟨pieces, hPieces, rfl⟩
    rcases forall₂_cons_left_iff.mp hPieces with ⟨piece, rest, hPiece, hRest, rfl⟩
    rw [PieceOf, if_neg hStar] at hPiece
    by_cases hAny : letter = any
    · rw [if_pos hAny] at hPiece
      rcases length_eq_one_iff.mp hPiece with ⟨a, rfl⟩
      exact ⟨a, rest.flatten, rfl, .inl hAny, rest, hRest, rfl⟩
    · rw [if_neg hAny] at hPiece
      subst hPiece
      exact ⟨letter, rest.flatten, rfl, .inr rfl, rest, hRest, rfl⟩
  · rintro ⟨a, rest, rfl, hLetter, pieces, hPieces, rfl⟩
    refine ⟨[a] :: pieces, .cons ?_ hPieces, rfl⟩
    rw [PieceOf, if_neg hStar]
    by_cases hAny : letter = any
    · rw [if_pos hAny]
      rfl
    · rw [if_neg hAny]
      rcases hLetter with hEq | rfl
      · exact absurd hEq hAny
      · rfl

/-- A star takes one letter more. -/
theorem matches_star_of_drop {k : Nat} (h : Matches star any (star :: p) (v.drop k)) :
    Matches star any (star :: p) v := by
  rcases matches_star.mp h with ⟨j, hj⟩
  refine matches_star.mpr ⟨k + j, ?_⟩
  rw [← drop_drop]
  exact hj

/-- The empty value is matched by stars only. -/
theorem matches_empty : Matches star any p [] ↔ (p.dropWhile (· == star)).isEmpty := by
  induction p with
  | nil => simp
  | cons letter _ ih =>
    by_cases hStar : letter = star
    · subst hStar
      simp [matches_star, ih]
    · rw [matches_letter hStar]
      simp [hStar]

/-- Letters that are no wildcards have to be met as they are. -/
theorem matches_literal {q mid : List α}
    (hMid : ∀ b ∈ mid, b ≠ star ∧ b ≠ any) :
    Matches star any (mid ++ q) v ↔ ∃ r, v = mid ++ r ∧ Matches star any q r := by
  induction mid generalizing v with
  | nil => simp
  | cons b mid ih =>
    rcases hMid b (by simp) with ⟨hStar, hAny⟩
    rw [cons_append, matches_letter hStar]
    constructor
    · rintro ⟨a, rest, rfl, hEq, hRest⟩
      rcases (ih fun x hx => hMid x (by simp [hx])).mp hRest with ⟨r, rfl, hr⟩
      rcases hEq with hEq | rfl
      · exact absurd hEq hAny
      · exact ⟨r, rfl, hr⟩
    · rintro ⟨r, rfl, hr⟩
      exact ⟨b, mid ++ r, rfl, .inr rfl, (ih fun x hx => hMid x (by simp [hx])).mpr ⟨r, rfl, hr⟩⟩

theorem matches_append {q : List α} : Matches star any (p ++ q) v ↔
    ∃ v₁ v₂, v = v₁ ++ v₂ ∧ Matches star any p v₁ ∧ Matches star any q v₂ := by
  constructor
  · rintro ⟨pieces, hPieces, rfl⟩
    induction p generalizing pieces with
    | nil => exact ⟨[], pieces.flatten, rfl, matches_nil.mpr rfl, pieces, hPieces, rfl⟩
    | cons letter p ih =>
      rcases forall₂_cons_left_iff.mp hPieces with ⟨piece, rest, hPiece, hRest, rfl⟩
      rcases ih rest hRest with ⟨v₁, v₂, hFlat, ⟨first, hFirst, rfl⟩, hSecond⟩
      refine ⟨piece ++ first.flatten, v₂, ?_, ⟨piece :: first, .cons hPiece hFirst, rfl⟩, hSecond⟩
      rw [flatten_cons, hFlat, append_assoc]
  · rintro ⟨_, _, rfl, ⟨first, hFirst, rfl⟩, ⟨second, hSecond, rfl⟩⟩
    exact ⟨first ++ second, rel_append hFirst hSecond, flatten_append⟩

/-- A star takes letters at its end. -/
theorem matches_concat_star {u : List α} (h : Matches star any (p ++ [star]) u) (a : α) :
    Matches star any (p ++ [star]) (u ++ [a]) := by
  rcases matches_append.mp h with ⟨v₁, v₂, rfl, hFirst, _⟩
  rw [append_assoc]
  refine matches_append.mpr ⟨v₁, v₂ ++ [a], rfl, hFirst, matches_star.mpr ⟨(v₂ ++ [a]).length, ?_⟩⟩
  rw [drop_length, matches_nil]

/-- Without stars every letter takes one letter. -/
theorem length_of_matches (hp : star ∉ p) (h : Matches star any p v) : v.length = p.length := by
  induction p generalizing v with
  | nil => rw [matches_nil.mp h]
  | cons letter _ ih =>
    have hLetter : letter ≠ star := fun hEq => hp (by simp [hEq])
    rcases (matches_letter hLetter).mp h with ⟨_, rest, rfl, _, hRest⟩
    rw [length_cons, length_cons, ih (fun hMem => hp (by simp [hMem])) hRest]

/-- Letters without stars that match here match as much there. -/
theorem matches_drop_of_append {mid seen : List α} {k : Nat} (hMid : star ∉ mid)
    (hSeen : Matches star any mid seen) (h : Matches star any (mid ++ p) ((seen ++ v).drop k)) :
    Matches star any p (v.drop k) := by
  rcases matches_append.mp h with ⟨v₁, v₂, hSplit, hFirst, hSecond⟩
  have hLength := (length_of_matches hMid hFirst).trans (length_of_matches hMid hSeen).symm
  have hDrop := congrArg (drop seen.length) hSplit
  rw [drop_drop, Nat.add_comm, ← drop_drop, drop_left, ← hLength, drop_left] at hDrop
  rwa [hDrop]

/-! ## The matcher -/

/-- A retry point: the pattern after the last star, and the value it was met at. -/
abbrev Retry (α : Type) := Option (List α × List α)

/-- Goes back to the retry point and lets its star take one letter more. -/
def resume : Retry α → Option (List α × List α × Retry α)
  | none => none
  | some (ps, vs) => some (ps, vs.tail, some (ps, vs.tail))

variable (star any)

/-- One turn at a value that is not used up; `none` when the matcher gives up. -/
def turn (p : List α) (c : α) (v : List α) (back : Retry α) :
    Option (List α × List α × Retry α) :=
  match p with
  | letter :: p =>
    -- Letters are compared before the star is looked for.
    if letter = any ∨ letter = c then some (p, v, back)
    else if letter = star then some (p, c :: v, some (p, c :: v))
    else resume back
  | [] => resume back

/-- How much value is left to try, with the retry point. -/
def budget (v : List α) : Retry α → Nat
  | none => v.length + 1
  | some (_, vs) => max vs.length v.length

omit [DecidableEq α] in
private theorem budget_resume {c : α} {p' v' : List α} {back back' : Retry α}
    (h : resume back = some (p', v', back')) : budget v' back' < budget (c :: v) back := by
  cases back with
  | none => cases h
  | some =>
    cases h
    simp only [budget, length_tail, length_cons]
    omega

theorem turn_decreases {p' v' : List α} {c : α} {back back' : Retry α}
    (h : turn star any p c v back = some (p', v', back')) :
    budget v' back' < budget (c :: v) back ∨
      budget v' back' = budget (c :: v) back ∧ p'.length + v'.length < p.length + (v.length + 1) := by
  cases p with
  | nil => exact .inl (budget_resume h)
  | cons =>
    simp only [turn] at h
    split_ifs at h with hLetter hStar
    · cases h
      cases back with
      | none => exact .inl (by simp [budget])
      | some =>
        simp only [budget, length_cons]
        omega
    · cases h
      cases back with
      | none => exact .inl (by simp [budget])
      | some =>
        simp only [budget, length_cons]
        omega
    · exact .inl (budget_resume h)

/-- The matcher, from a state with an optional retry point. -/
def loop (p : List α) (v : List α) (back : Retry α) : Bool :=
  match v with
  | [] => (p.dropWhile (· == star)).isEmpty
  | c :: v =>
    match _hTurn : turn star any p c v back with
    | none => false
    | some (p', v', back') => loop p' v' back'
termination_by (budget v back, p.length + v.length)
decreasing_by
  rcases turn_decreases star any _hTurn with hLess | ⟨hEq, hLess⟩
  · exact Prod.Lex.left _ _ hLess
  · rw [hEq]
    exact Prod.Lex.right _ hLess

variable {star any} {back : Retry α}

/-- What the matcher accepts: a match from here, or one with more letters for the last star. -/
private def Accepts (star any : α) (p v : List α) (back : Retry α) : Prop :=
  Matches star any p v ∨ ∃ ps vs k, back = some (ps, vs) ∧ Matches star any ps (vs.drop (k + 1))

private theorem accepts_of_resume {p' v' : List α} {back' : Retry α}
    (hResume : resume back = some (p', v', back')) (h : Accepts star any p' v' back')
    (p v : List α) : Accepts star any p v back := by
  cases back with
  | none => cases hResume
  | some =>
    cases hResume
    rcases h with hHere | ⟨ps, vs, k, hBack, hLater⟩
    · exact .inr ⟨_, _, 0, rfl, by rwa [drop_one]⟩
    · cases hBack
      refine .inr ⟨_, _, k + 1, rfl, ?_⟩
      rwa [← drop_one, drop_drop, Nat.add_comm] at hLater

/-- One turn accepts no more than the state it starts from. -/
private theorem accepts_of_turn {p' v' : List α} {c : α} {back' : Retry α}
    (hTurn : turn star any p c v back = some (p', v', back'))
    (h : Accepts star any p' v' back') : Accepts star any p (c :: v) back := by
  cases p with
  | nil => exact accepts_of_resume hTurn h _ _
  | cons letter =>
    simp only [turn] at hTurn
    split_ifs at hTurn with hLetter hStar
    · cases hTurn
      rcases h with hHere | hLater
      · refine .inl ?_
        -- A star that faces a star takes this one letter.
        by_cases hStar : letter = star
        · rw [hStar]
          exact matches_star.mpr ⟨1, hHere⟩
        · exact (matches_letter hStar).mpr ⟨c, v, rfl, hLetter, hHere⟩
      · exact .inr hLater
    · cases hTurn
      rw [hStar]
      refine .inl (matches_star.mpr ?_)
      rcases h with hHere | ⟨ps, vs, k, hBack, hLater⟩
      · exact ⟨0, hHere⟩
      · cases hBack
        exact ⟨k + 1, hLater⟩
    · exact accepts_of_resume hTurn h _ _

private theorem accepts_of_loop (h : loop star any p v back) :
    Accepts star any p v back := by
  fun_induction loop star any p v back with
  | case1 => exact .inl (matches_empty.mpr h)
  | case2 => cases h
  | case3 _ _ _ _ _ _ _ hTurn ih => exact accepts_of_turn hTurn (ih h)

/-- **The matcher accepts only words of the language.** -/
theorem matches_of_loop (h : loop star any p v none) : Matches star any p v := by
  rcases accepts_of_loop h with hHere | ⟨_, _, _, hBack, _⟩
  · exact hHere
  · cases hBack

/-! ## The states of the walk -/

/-- The states that the matcher comes through. -/
inductive Walks (star any : α) (pattern value : List α) : List α → List α → Retry α → Prop
  | start : Walks star any pattern value pattern value none
  | turn {p v p' v' : List α} {c : α} {back back' : Retry α}
      (hWalks : Walks star any pattern value p (c :: v) back)
      (hTurn : turn star any p c v back = some (p', v', back')) :
      Walks star any pattern value p' v' back'

/-- **A letter of the pattern meets a letter of the value**: the matcher compares them. -/
def Meets (star any : α) (pattern value : List α) (letter c : α) : Prop :=
  ∃ p v back, Walks star any pattern value (letter :: p) (c :: v) back

section States

variable {pattern value ps vs p' v' : List α} {c letter : α} {back' : Retry α}

/-- What a turn does: the letters are passed, a star sets the retry point, or the walk goes back. -/
theorem turn_cases (hTurn : turn star any p c v back = some (p', v', back')) :
    (∃ letter, p = letter :: p' ∧ (letter = any ∨ letter = c) ∧ v' = v ∧ back' = back) ∨
    (p = star :: p' ∧ star ≠ any ∧ star ≠ c ∧ v' = c :: v ∧ back' = some (p', c :: v)) ∨
    ((∀ l rest, p = l :: rest → l ≠ star ∧ l ≠ any ∧ l ≠ c) ∧
      resume back = some (p', v', back')) := by
  cases p with
  | nil => exact .inr (.inr ⟨by simp, hTurn⟩)
  | cons letter p =>
    simp only [Glob.turn] at hTurn
    split_ifs at hTurn with hLetter hStar
    · cases hTurn
      exact .inl ⟨letter, rfl, hLetter, rfl, rfl⟩
    · cases hTurn
      subst hStar
      obtain ⟨hAny, hNe⟩ := not_or.mp hLetter
      exact .inr (.inl ⟨rfl, hAny, hNe, rfl, rfl⟩)
    · refine .inr (.inr ⟨?_, hTurn⟩)
      rintro l rest hEq
      cases hEq
      exact ⟨hStar, not_or.mp hLetter⟩

omit [DecidableEq α] in
theorem resume_eq_some (h : resume back = some (p', v', back')) :
    ∃ vs, back = some (p', vs) ∧ v' = vs.tail ∧ back' = some (p', v') := by
  cases back with
  | none => cases h
  | some retry =>
    cases h
    exact ⟨_, rfl, rfl, rfl⟩

/-- The walk went through its retry point, and what is left there is no less than what is left. -/
theorem Walks.retry (h : Walks star any pattern value p v back) (hBack : back = some (ps, vs)) :
    Walks star any pattern value ps vs (some (ps, vs)) ∧ v.length ≤ vs.length := by
  induction h with
  | start => cases hBack
  | turn hWalks hTurn ih =>
    have hNext := Walks.turn hWalks hTurn
    rcases turn_cases hTurn with ⟨_, _, _, rfl, rfl⟩ | ⟨_, _, _, rfl, rfl⟩ | ⟨_, hResume⟩
    · obtain ⟨hRetry, hLength⟩ := ih hBack
      exact ⟨hRetry, (Nat.le_succ _).trans hLength⟩
    · cases hBack
      exact ⟨hNext, le_rfl⟩
    · rcases resume_eq_some hResume with ⟨_, _, _, rfl⟩
      cases hBack
      exact ⟨hNext, le_rfl⟩

/-- A retry point before a star has only just been set, before another letter. -/
theorem Walks.fresh (hAny : any ≠ star) (h : Walks star any pattern value p v back)
    (hBack : back = some (star :: ps, vs)) : p = star :: ps ∧ v.head? ≠ some star := by
  induction h generalizing vs with
  | start => cases hBack
  | turn _ hTurn ih =>
    rcases turn_cases hTurn with ⟨letter, rfl, hLetter, rfl, rfl⟩ | ⟨rfl, _, hNe, rfl, rfl⟩ |
      ⟨hMismatch, hResume⟩
    · obtain ⟨hHead, hNe⟩ := ih hBack
      cases hHead
      rcases hLetter with hEq | hEq
      · exact absurd hEq.symm hAny
      · exact absurd (congrArg some hEq.symm) hNe
    · cases hBack
      exact ⟨rfl, by simpa using hNe.symm⟩
    · rcases resume_eq_some hResume with ⟨_, rfl, _, rfl⟩
      cases hBack
      exact absurd rfl (hMismatch star ps (ih rfl).1).1

theorem Walks.mem (h : Walks star any pattern value p v back) : (∀ l ∈ p, l ∈ pattern) ∧
    (∀ a ∈ v, a ∈ value) ∧ ∀ ps vs, back = some (ps, vs) →
      (∀ l ∈ ps, l ∈ pattern) ∧ ∀ a ∈ vs, a ∈ value := by
  induction h with
  | start => exact ⟨fun _ => id, fun _ => id, by simp⟩
  | turn _ hTurn ih =>
    obtain ⟨hPattern, hValue, hRetry⟩ := ih
    rcases turn_cases hTurn with ⟨_, rfl, _, rfl, rfl⟩ | ⟨rfl, _, _, rfl, rfl⟩ | ⟨_, hResume⟩
    · exact ⟨fun l hl => hPattern l (mem_cons_of_mem _ hl),
        fun a ha => hValue a (mem_cons_of_mem _ ha), hRetry⟩
    · have hRest := fun l hl => hPattern l (mem_cons_of_mem _ hl)
      refine ⟨hRest, hValue, ?_⟩
      rintro _ _ ⟨⟩
      exact ⟨hRest, hValue⟩
    · rcases resume_eq_some hResume with ⟨_, rfl, rfl, rfl⟩
      obtain ⟨hPs, hVs⟩ := hRetry _ _ rfl
      have hTail := fun a ha => hVs a (mem_of_mem_tail ha)
      refine ⟨hPs, hTail, ?_⟩
      rintro _ _ ⟨⟩
      exact ⟨hPs, hTail⟩

theorem Meets.mem (h : Meets star any pattern value letter c) : letter ∈ pattern ∧ c ∈ value := by
  rcases h with ⟨_, _, _, hWalks⟩
  obtain ⟨hPattern, hValue, _⟩ := hWalks.mem
  exact ⟨hPattern letter mem_cons_self, hValue c mem_cons_self⟩

end States

/-! ## Where the walk gets to -/

/-- Where letters with this rest of the pattern behind them may end: anywhere before a star, with
the value before the end of the pattern. -/
def Stops (star : α) (value rest w : List α) : Prop :=
  rest.head? = some star ∧ w <+: value ∨ rest = [] ∧ w = value

/-- The letters of `p` up to its next star end no earlier after a match of `q` than they do after
`u`. -/
def Leftmost (star any : α) (value q u p : List α) : Prop :=
  ∀ seg rest w, p = seg ++ rest → star ∉ seg → Stops star value rest w →
    Matches star any (q ++ seg) w → u.length + seg.length ≤ w.length

/-- **A letter of the pattern faces a letter of the value**: what comes before the one matches what
comes before the other, and it is the first match that goes on to the next star. -/
def Faces (star any : α) (pattern value : List α) (letter c : α) : Prop :=
  ∃ q p u v, pattern = q ++ letter :: p ∧ value = u ++ c :: v ∧ Matches star any q u ∧
    Leftmost star any value q u (letter :: p)

/-- The states of the walk: what was read since the retry point matches, and no earlier point would
have done. -/
inductive At (star any : α) (pattern value : List α) : List α → List α → Retry α → Prop
  | plain {q p u v : List α} (hPattern : pattern = q ++ p) (hValue : value = u ++ v)
      (hq : star ∉ q) (hMatch : Matches star any q u) : At star any pattern value p v none
  | retry {q mid p u seen v : List α} (hPattern : pattern = q ++ star :: (mid ++ p))
      (hValue : value = u ++ (seen ++ v)) (hStar : Matches star any (q ++ [star]) u)
      (hMid : star ∉ mid) (hMatch : Matches star any mid seen)
      (hFirst : Leftmost star any value (q ++ [star]) u (mid ++ p)) :
      At star any pattern value p v (some (mid ++ p, seen ++ v))

section Walk

variable {pattern value q u mid seen : List α} {c letter : α}

omit [DecidableEq α] in
theorem Stops.isPrefix {rest w : List α} (h : Stops star value rest w) : w <+: value := by
  rcases h with ⟨_, hPrefix⟩ | ⟨_, rfl⟩
  · exact hPrefix
  · exact prefix_rfl

theorem leftmost_of_starless (hq : star ∉ q) (hMatch : Matches star any q u) :
    Leftmost star any value q u p := by
  intro seg _ w _ hSeg _ hw
  rw [length_of_matches hq hMatch, length_of_matches (by simp [hq, hSeg]) hw, length_append]

theorem Leftmost.letters (h : Leftmost star any value q u (mid ++ p)) (hMid : star ∉ mid)
    (hMatch : Matches star any mid seen) : Leftmost star any value (q ++ mid) (u ++ seen) p := by
  intro seg rest w hSplit hSeg hStops hw
  have hLength := h (mid ++ seg) rest w (by rw [hSplit, append_assoc]) (by simp [hMid, hSeg]) hStops
    (by rwa [← append_assoc])
  have hSeen := length_of_matches hMid hMatch
  simp only [length_append] at hLength ⊢
  omega

theorem Leftmost.of_star (h : Leftmost star any value q u (star :: p)) :
    Leftmost star any value (q ++ [star]) u p := by
  intro seg rest w _ hSeg hStops hw
  rcases matches_append.mp hw with ⟨w₁, w₂, rfl, hStar, hw₂⟩
  rcases matches_append.mp hStar with ⟨w₀, w₁, rfl, hw₀, _⟩
  have hPrefix : w₀ <+: value := by
    refine IsPrefix.trans ?_ hStops.isPrefix
    rw [append_assoc]
    exact prefix_append _ _
  have hLength := h [] (star :: p) w₀ rfl (by simp) (.inl ⟨rfl, hPrefix⟩) (by simpa using hw₀)
  have hSeg' := length_of_matches hSeg hw₂
  simp only [length_append, length_nil] at hLength ⊢
  omega

/-- When the letters of a segment do not fit here, they end later. -/
theorem Leftmost.next {a : α} {v : List α}
    (h : Leftmost star any value (q ++ [star]) u (mid ++ p)) (hMid : star ∉ mid)
    (hMatch : Matches star any mid seen) (hValue : value = u ++ (seen ++ c :: v))
    (hMismatch : ∀ l rest, p = l :: rest → l ≠ star ∧ l ≠ any ∧ l ≠ c) :
    Leftmost star any value (q ++ [star]) (u ++ [a]) (mid ++ p) := by
  intro seg rest w hSplit hSeg hStops hw
  have hLe := h seg rest w hSplit hSeg hStops hw
  rw [length_append, length_singleton]
  by_contra hShort
  -- The segment would match right here.
  rcases matches_append.mp hw with ⟨w₁, w₂, rfl, _, hw₂⟩
  have hSegLength := length_of_matches hSeg hw₂
  have hSeen := length_of_matches hMid hMatch
  rw [length_append] at hLe hShort
  have hFirst : w₁ = u := by
    have hBoth : w₁ <+: u ++ (seen ++ c :: v) :=
      hValue ▸ (prefix_append w₁ w₂).trans hStops.isPrefix
    exact (prefix_of_prefix_length_le hBoth (prefix_append _ _) (by omega)).eq_of_length (by omega)
  subst hFirst
  have hSecond : w₂ <+: seen ++ c :: v := by
    have hBoth := hStops.isPrefix
    rw [hValue] at hBoth
    exact (prefix_append_right_inj w₁).mp hBoth
  -- There is value left behind the letters that were read.
  have hEnds : seg = mid → p ≠ rest := by
    rintro rfl rfl
    rcases hStops with ⟨hHead, _⟩ | ⟨_, hWhole⟩
    · rcases head?_eq_some_iff.mp hHead with ⟨_, hp⟩
      exact (hMismatch _ _ hp).1 rfl
    · have hLength := congrArg length (hWhole.trans hValue)
      simp only [length_append, length_cons] at hLength
      omega
  rcases append_eq_append_iff.mp hSplit with ⟨more, rfl, hp⟩ | ⟨more, rfl, hRest⟩
  · cases more with
    | nil => exact hEnds (append_nil _) (by simpa using hp)
    | cons l more =>
      obtain ⟨hStar, hNe⟩ := hMismatch l _ hp
      rcases matches_append.mp hw₂ with ⟨x, _, rfl, hx, hy⟩
      rcases (matches_letter hStar).mp hy with ⟨b, y, rfl, hEq, _⟩
      have hSame : x = seen :=
        (prefix_of_prefix_length_le ((prefix_append _ _).trans hSecond) (prefix_append _ _)
          (by rw [length_of_matches hMid hx, hSeen])).eq_of_length
          (by rw [length_of_matches hMid hx, hSeen])
      subst hSame
      rw [prefix_append_right_inj, cons_prefix_cons] at hSecond
      exact not_or.mpr hNe (hSecond.1 ▸ hEq)
  · cases more with
    | nil => exact hEnds (by simp) (by simpa using hRest.symm)
    | cons l =>
      rcases hStops with ⟨hHead, _⟩ | ⟨hNil, _⟩
      · rw [hRest, cons_append, head?_cons, Option.some.injEq] at hHead
        exact hMid (by simp [hHead])
      · simp [hNil] at hRest

theorem At.leftmost {v : List α} (h : At star any pattern value p v back) :
    ∃ q u, pattern = q ++ p ∧ value = u ++ v ∧ Matches star any q u ∧
      Leftmost star any value q u p := by
  cases h with
  | plain hPattern hValue hq hMatch =>
    exact ⟨_, _, hPattern, hValue, hMatch, leftmost_of_starless hq hMatch⟩
  | @retry q mid _ u seen _ hPattern hValue hStar hMid hMatch hFirst =>
    refine ⟨q ++ [star] ++ mid, u ++ seen, ?_, ?_, ?_, hFirst.letters hMid hMatch⟩
    · simp [hPattern]
    · rw [hValue, append_assoc]
    · exact matches_append.mpr ⟨u, seen, rfl, hStar, hMatch⟩

/-- What the walk compares face each other. -/
theorem At.faces {v : List α} (h : At star any pattern value (letter :: p) (c :: v) back) :
    Faces star any pattern value letter c := by
  rcases h.leftmost with ⟨q, u, hPattern, hValue, hMatch, hFirst⟩
  exact ⟨q, p, u, v, hPattern, hValue, hMatch, hFirst⟩

/-- At the retry point nothing has been read since. -/
theorem At.fresh {v : List α} (hPattern : pattern = q ++ star :: p) (hValue : value = u ++ v)
    (hStar : Matches star any (q ++ [star]) u)
    (hFirst : Leftmost star any value (q ++ [star]) u p) :
    At star any pattern value p v (some (p, v)) :=
  @At.retry _ _ star any pattern value q [] p u [] v hPattern hValue hStar not_mem_nil
    (matches_nil.mpr rfl) hFirst

theorem At.of_letter {v : List α} (hLetter : letter ≠ star) (hEq : letter = any ∨ letter = c)
    (h : At star any pattern value (letter :: p) (c :: v) back) :
    At star any pattern value p v back := by
  have hOne : Matches star any [letter] [c] :=
    (matches_letter hLetter).mpr ⟨c, [], rfl, hEq, matches_nil.mpr rfl⟩
  have hJoin : ∀ {q u : List α}, Matches star any q u → Matches star any (q ++ [letter]) (u ++ [c]) :=
    fun hMatch => matches_append.mpr ⟨_, _, rfl, hMatch, hOne⟩
  generalize hp : letter :: p = p₀ at h
  generalize hv : c :: v = v₀ at h
  cases h with
  | @plain q _ u _ hPattern hValue hq hMatch =>
    subst hp hv
    exact .plain (by simp [hPattern]) (by simp [hValue]) (by simp [hq, hLetter.symm]) (hJoin hMatch)
  | @retry q mid _ u seen _ hPattern hValue hStar hMid hMatch hFirst =>
    subst hp hv
    have hp : mid ++ letter :: p = (mid ++ [letter]) ++ p := by simp
    have hv : seen ++ c :: v = (seen ++ [c]) ++ v := by simp
    rw [hp] at hPattern hFirst ⊢
    rw [hv] at hValue ⊢
    exact .retry hPattern hValue hStar (by simp [hMid, hLetter.symm]) (hJoin hMatch) hFirst

theorem At.of_star {v : List α} (h : At star any pattern value (star :: p) v back) :
    At star any pattern value p v (some (p, v)) := by
  rcases h.leftmost with ⟨q, u, hPattern, hValue, hMatch, hFirst⟩
  have hStar : Matches star any (q ++ [star]) u :=
    matches_append.mpr ⟨u, [], by simp, hMatch, matches_star.mpr ⟨0, matches_nil.mpr rfl⟩⟩
  exact .fresh hPattern hValue hStar hFirst.of_star

theorem At.resume {p' v v' : List α} {back' : Retry α}
    (h : At star any pattern value p (c :: v) back)
    (hMismatch : ∀ l rest, p = l :: rest → l ≠ star ∧ l ≠ any ∧ l ≠ c)
    (hResume : resume back = some (p', v', back')) : At star any pattern value p' v' back' := by
  generalize hv : c :: v = v₀ at h
  cases h with
  | plain => cases hResume
  | @retry q mid _ u seen _ hPattern hValue hStar hMid hMatch hFirst =>
    subst hv
    cases hResume
    obtain ⟨a, rest, hCut⟩ : ∃ a rest, seen ++ c :: v = a :: rest := by cases seen <;> simp
    have hNext := hFirst.next (a := a) hMid hMatch hValue hMismatch
    rw [hCut] at hValue ⊢
    exact .fresh hPattern (by simpa using hValue) (matches_concat_star hStar a) hNext

/-- One turn of a walk in which no star faces a star. -/
theorem At.turn {v p' v' : List α} {back' : Retry α} (hAny : any ≠ star)
    (hClash : ¬Faces star any pattern value star star)
    (h : At star any pattern value p (c :: v) back)
    (hTurn : turn star any p c v back = some (p', v', back')) :
    At star any pattern value p' v' back' := by
  rcases turn_cases hTurn with ⟨letter, rfl, hLetter, rfl, rfl⟩ | ⟨rfl, _, _, rfl, rfl⟩ |
    ⟨hMismatch, hResume⟩
  · refine h.of_letter ?_ hLetter
    rintro rfl
    rcases hLetter with rfl | rfl
    · exact hAny rfl
    · exact hClash h.faces
  · exact h.of_star
  · exact h.resume hMismatch hResume

theorem At.start : At star any pattern value pattern value none :=
  .plain (q := []) (u := []) rfl rfl (by simp) (matches_nil.mpr rfl)

/-- Where no star faces a star the matcher comes to such states only. -/
theorem Walks.at {v : List α} (hAny : any ≠ star)
    (hClash : ¬Faces star any pattern value star star)
    (h : Walks star any pattern value p v back) : At star any pattern value p v back := by
  induction h with
  | start => exact At.start
  | turn _ hTurn ih => exact ih.turn hAny hClash hTurn

theorem Meets.faces (hAny : any ≠ star) (hClash : ¬Faces star any pattern value star star)
    (h : Meets star any pattern value letter c) : Faces star any pattern value letter c := by
  rcases h with ⟨_, _, _, hWalks⟩
  exact (hWalks.at hAny hClash).faces

end Walk

/-! ## Completeness -/

/-- A match with more letters for the last star goes on from here with as many more. -/
private theorem At.accepts {pattern value : List α} (hAt : At star any pattern value p v back)
    (h : Accepts star any p v back) : ∃ k, Matches star any p (v.drop k) := by
  rcases h with hHere | ⟨ps, vs, k, rfl, hLater⟩
  · exact ⟨0, hHere⟩
  · generalize hBack : some (ps, vs) = back at hAt
    cases hAt with
    | plain => cases hBack
    | retry _ _ _ hMid hMatch _ =>
      cases hBack
      exact ⟨k + 1, matches_drop_of_append hMid hMatch hLater⟩

private theorem resume_accepts (hHere : ¬Matches star any p v) (h : Accepts star any p v back) :
    ∃ p' v' back', resume back = some (p', v', back') ∧ Accepts star any p' v' back' := by
  rcases h with hMatch | ⟨ps, vs, k, rfl, hLater⟩
  · exact absurd hMatch hHere
  · refine ⟨ps, vs.tail, some (ps, vs.tail), rfl, ?_⟩
    cases k with
    | zero => exact .inl (by rwa [← drop_one])
    | succ k =>
      refine .inr ⟨ps, vs.tail, k, rfl, ?_⟩
      rwa [← drop_one, drop_drop, Nat.add_comm]

/-- One turn loses nothing of what the state accepts. -/
private theorem turn_accepts {pattern value : List α} {c : α} (hAny : any ≠ star)
    (hClash : ¬Faces star any pattern value star star)
    (hAt : At star any pattern value p (c :: v) back) (h : Accepts star any p (c :: v) back) :
    ∃ p' v' back', turn star any p c v back = some (p', v', back') ∧
      Accepts star any p' v' back' := by
  cases p with
  | nil => exact resume_accepts (by simp) h
  | cons letter p =>
    unfold turn
    dsimp only
    split_ifs with hLetter hStar
    · have hNe : letter ≠ star := by
        rintro rfl
        rcases hLetter with rfl | rfl
        · exact hAny rfl
        · exact hClash hAt.faces
      refine ⟨p, v, back, rfl, ?_⟩
      rcases h with hMatch | hLater
      · rcases (matches_letter hNe).mp hMatch with ⟨_, _, hEq, _, hRest⟩
        cases hEq
        exact .inl hRest
      · exact .inr hLater
    · subst hStar
      refine ⟨p, c :: v, some (p, c :: v), rfl, ?_⟩
      -- Only the last star has to be retried.
      rcases hAt.accepts h with ⟨j, hj⟩
      rcases matches_star.mp (matches_star_of_drop hj) with ⟨k, hk⟩
      cases k with
      | zero => exact .inl hk
      | succ k => exact .inr ⟨p, c :: v, k, rfl, hk⟩
    · refine resume_accepts (fun hMatch => hLetter ?_) h
      rcases (matches_letter hStar).mp hMatch with ⟨_, _, hEq, hOr, _⟩
      cases hEq
      exact hOr

private theorem loop_of_accepts {pattern value : List α} (hAny : any ≠ star)
    (hClash : ¬Faces star any pattern value star star)
    (hAt : At star any pattern value p v back) (h : Accepts star any p v back) :
    loop star any p v back := by
  fun_induction loop star any p v back with
  | case1 =>
    rcases hAt.accepts h with ⟨_, hEnd⟩
    exact matches_empty.mp (by simpa using hEnd)
  | case2 _ _ _ _ hTurn =>
    rcases turn_accepts hAny hClash hAt h with ⟨_, _, _, hSome, _⟩
    rw [hTurn] at hSome
    cases hSome
  | case3 _ _ _ _ _ _ _ hTurn ih =>
    rcases turn_accepts hAny hClash hAt h with ⟨_, _, _, hSome, hAccepts⟩
    rw [hTurn] at hSome
    cases hSome
    exact ih (hAt.turn hAny hClash hTurn) hAccepts

/-- **The matcher decides the language** where no star faces a star. -/
theorem loop_iff_matches (hAny : any ≠ star) (hClash : ¬Faces star any p v star star) :
    loop star any p v none ↔ Matches star any p v :=
  ⟨matches_of_loop, fun h => loop_of_accepts hAny hClash At.start (.inl h)⟩

/-! ## Walking code words -/

section Encoded

variable {β : Type} [DecidableEq β] {star' any' : β} {enc : α → List β} {cont : β → Prop}

/-- Code words start with a symbol that continues none and go on with symbols that do; no word
starts another. -/
structure SelfSynchronising (enc : α → List β) (cont : β → Prop) : Prop where
  shape : ∀ a, ∃ b bs, enc a = b :: bs ∧ ¬cont b ∧ ∀ x ∈ bs, cont x
  unique : ∀ a b r s, enc a ++ r = enc b ++ s → a = b

/-- The wildcards are coded by one symbol each, which occurs in no other code word. -/
structure CodesWildcards (enc : α → List β) (star any : α) (star' any' : β) : Prop where
  star_word : enc star = [star']
  any_word : enc any = [any']
  of_star_mem : ∀ a, star' ∈ enc a → a = star
  of_any_mem : ∀ a, any' ∈ enc a → a = any

omit [DecidableEq α] [DecidableEq β] in
private theorem literal_word (hWild : CodesWildcards enc star any star' any') {a : α}
    (hStar : a ≠ star) (hAny : a ≠ any) : ∀ b ∈ enc a, b ≠ star' ∧ b ≠ any' := by
  intro b hb
  constructor
  · rintro rfl
    exact hStar (hWild.of_star_mem a hb)
  · rintro rfl
    exact hAny (hWild.of_any_mem a hb)

theorem loop_of_turn {c : β} {p v p' v' : List β} {back back' : Retry β}
    (h : turn star' any' p c v back = some (p', v', back')) :
    loop star' any' p (c :: v) back = loop star' any' p' v' back' := by
  rw [loop]
  split
  · rename_i hNone
    rw [h] at hNone
    cases hNone
  · rename_i hSome
    rw [h] at hSome
    cases hSome
    rfl

/-- Equal letters are passed. -/
theorem loop_cons (b : β) (p v : List β) (back : Retry β) :
    loop star' any' (b :: p) (b :: v) back = loop star' any' p v back :=
  loop_of_turn (by rw [turn, if_pos (.inr rfl)])

/-- The walk from the retry point on. -/
def after (star' any' : β) (back : Retry β) : Bool :=
  (resume back).elim false fun next => loop star' any' next.1 next.2.1 next.2.2

theorem loop_of_resume {c : β} {p v : List β} {back : Retry β}
    (h : turn star' any' p c v back = resume back) :
    loop star' any' p (c :: v) back = after star' any' back := by
  cases hResume : resume back with
  | none =>
    rw [loop, after, hResume]
    split
    · rfl
    · rename_i hSome
      rw [h, hResume] at hSome
      cases hSome
  | some next =>
    rw [loop_of_turn (h.trans hResume), after, hResume]
    rfl

/-- Equal words are walked through. -/
theorem loop_append (w p v : List β) (back : Retry β) :
    loop star' any' (w ++ p) (w ++ v) back = loop star' any' p v back := by
  induction w with
  | nil => rfl
  | cons b w ih =>
    rw [cons_append, cons_append, loop_cons, ih]

/-- Words that part send the walk back. -/
theorem loop_of_part {w x : List β} (hLiteral : ∀ b ∈ w, b ≠ star' ∧ b ≠ any')
    (hPart : ∀ r s, w ++ r ≠ x ++ s) (p v : List β) (back : Retry β) :
    loop star' any' (w ++ p) (x ++ v) back = after star' any' back := by
  induction w generalizing x with
  | nil => exact absurd (append_nil x).symm (hPart x [])
  | cons b w ih =>
    cases x with
    | nil => exact absurd (append_nil _) (hPart [] (b :: w))
    | cons d x =>
      obtain ⟨hStar, hAny⟩ := hLiteral b mem_cons_self
      by_cases hSame : b = d
      · subst hSame
        rw [cons_append, cons_append, loop_cons]
        refine ih (fun y hy => hLiteral y (mem_cons_of_mem _ hy)) fun r s hEq => hPart r s ?_
        rw [cons_append, cons_append, hEq]
      · refine loop_of_resume ?_
        rw [cons_append, turn, if_neg (by simp [hAny, hSame]), if_neg hStar]

omit [DecidableEq α] in
/-- A retry point inside a code word moves on to the next one. -/
theorem after_cont (hSync : SelfSynchronising enc cont)
    (hWild : CodesWildcards enc star any star' any') {ps : List α} {bs : List β}
    (hCont : ∀ x ∈ bs, cont x)
    (hHead : ∀ l rest, ps = l :: rest → l ≠ star ∧ (l = any → bs = [])) (w : List β) :
    loop star' any' (ps.flatMap enc) (bs ++ w) (some (ps.flatMap enc, bs ++ w)) =
      loop star' any' (ps.flatMap enc) w (some (ps.flatMap enc, w)) := by
  induction bs with
  | nil => rfl
  | cons x bs ih =>
    have hBack : turn star' any' (ps.flatMap enc) x (bs ++ w) (some (ps.flatMap enc, x :: (bs ++ w)))
        = some (ps.flatMap enc, bs ++ w, some (ps.flatMap enc, bs ++ w)) := by
      cases ps with
      | nil => rfl
      | cons l rest =>
        obtain ⟨hStar, hOne⟩ := hHead l rest rfl
        have hAny : l ≠ any := fun hEq => cons_ne_nil _ _ (hOne hEq)
        rcases hSync.shape l with ⟨b, tail, hWord, hLead, _⟩
        obtain ⟨hStar', hAny'⟩ := literal_word hWild hStar hAny b (by simp [hWord])
        have hNe : b ≠ x := fun hEq => hLead (hEq ▸ hCont x mem_cons_self)
        rw [flatMap_cons, hWord, cons_append, turn, if_neg (by simp [hAny', hNe]), if_neg hStar']
        rfl
    rw [cons_append, loop_of_turn hBack]
    refine ih (fun y hy => hCont y (mem_cons_of_mem _ hy)) fun l rest hEq => ?_
    obtain ⟨hStar, hOne⟩ := hHead l rest hEq
    exact ⟨hStar, fun hAny => absurd (hOne hAny) (cons_ne_nil _ _)⟩

theorem dropWhile_coded (hSync : SelfSynchronising enc cont)
    (hWild : CodesWildcards enc star any star' any') (p : List α) :
    ((p.flatMap enc).dropWhile (· == star')).isEmpty = (p.dropWhile (· == star)).isEmpty := by
  induction p with
  | nil => rfl
  | cons letter p ih =>
    rw [flatMap_cons]
    by_cases hStar : letter = star
    · subst hStar
      simp [hWild.star_word, ih]
    · rcases hSync.shape letter with ⟨b, bs, hWord, _⟩
      have hNe : b ≠ star' := by
        rintro rfl
        exact hStar (hWild.of_star_mem letter (by simp [hWord]))
      simp [hWord, hNe, hStar]

/-- The retry point over code words. -/
def coded (enc : α → List β) : Retry α → Retry β :=
  Option.map fun back => (back.1.flatMap enc, back.2.flatMap enc)

section Coded

variable {pattern value : List α} (hSync : SelfSynchronising enc cont)
  (hWild : CodesWildcards enc star any star' any') (hAny : any ≠ star)
  (hWide : ∀ c, (enc c).length ≠ 1 → ¬Meets star any pattern value any c)

include hSync hWild hAny hWide in
private theorem after_coded {c : α} (hWalks : Walks star any pattern value p (c :: v) back)
    (hMismatch : ∀ l rest, p = l :: rest → l ≠ star)
    (hNext : ∀ p' v' back', resume back = some (p', v', back') →
      loop star' any' (p'.flatMap enc) (v'.flatMap enc) (coded enc back') = loop star any p' v' back') :
    after star' any' (coded enc back) = after star any back := by
  cases back with
  | none => rfl
  | some retry =>
    obtain ⟨ps, vs⟩ := retry
    obtain ⟨hRetry, hLength⟩ := hWalks.retry rfl
    cases vs with
    | nil => simp at hLength
    | cons a rest =>
    rcases hSync.shape a with ⟨b, bs, hWord, _, hCont⟩
    have hHead : ∀ l tail, ps = l :: tail → l ≠ star ∧ (l = any → bs = []) := by
      rintro l tail rfl
      constructor
      · rintro rfl
        exact hMismatch l tail (hWalks.fresh hAny rfl).1 rfl
      · rintro rfl
        by_contra hLong
        exact hWide a (by simpa [hWord] using hLong) ⟨_, _, _, hRetry⟩
    have hSkip := after_cont hSync hWild hCont hHead (rest.flatMap enc)
    have hThen := hNext ps rest (some (ps, rest)) rfl
    simp only [after, coded, resume, Option.map_some, Option.elim_some, flatMap_cons, hWord,
      cons_append, tail_cons] at hSkip hThen ⊢
    rw [hSkip, hThen]

include hSync hWild hAny hWide in
private theorem turn_coded {c : α} (hWalks : Walks star any pattern value p (c :: v) back)
    (hNext : ∀ p' v' back', turn star any p c v back = some (p', v', back') →
      loop star' any' (p'.flatMap enc) (v'.flatMap enc) (coded enc back') = loop star any p' v' back') :
    loop star' any' (p.flatMap enc) ((c :: v).flatMap enc) (coded enc back) =
      loop star any p (c :: v) back := by
  rcases hSync.shape c with ⟨b, bs, hWord, _⟩
  rw [flatMap_cons]
  cases p with
  | nil =>
    rw [loop_of_resume rfl, hWord, flatMap_nil, cons_append, loop_of_resume rfl]
    exact after_coded hSync hWild hAny hWide hWalks (by simp) hNext
  | cons letter p =>
    rw [flatMap_cons]
    by_cases hLetter : letter = any ∨ letter = c
    · have hTurn : turn star any (letter :: p) c v back = some (p, v, back) := by
        rw [turn, if_pos hLetter]
      rw [loop_of_turn hTurn, ← hNext _ _ _ hTurn]
      rcases hLetter with rfl | rfl
      · have hOne : bs = [] := by
          by_contra hLong
          exact hWide c (by simpa [hWord] using hLong) ⟨_, _, _, hWalks⟩
        rw [hWild.any_word, hWord, hOne, singleton_append, singleton_append]
        exact loop_of_turn (by rw [turn, if_pos (.inl rfl)])
      · exact loop_append _ _ _ _
    · by_cases hStar : letter = star
      · subst hStar
        have hTurn : turn letter any (letter :: p) c v back =
            some (p, c :: v, some (p, c :: v)) := by
          rw [turn, if_neg hLetter, if_pos rfl]
        rw [loop_of_turn hTurn, ← hNext _ _ _ hTurn]
        have hFirst : star' ≠ b := by
          rintro rfl
          exact hLetter (.inr (hWild.of_star_mem c (by simp [hWord])).symm)
        have hNe : star' ≠ any' := by
          rintro rfl
          exact hAny (hWild.of_star_mem any (by simp [hWild.any_word]))
        rw [hWild.star_word, flatMap_cons, hWord, singleton_append, cons_append]
        exact loop_of_turn (by
          rw [turn, if_neg (by simp [hFirst, hNe]), if_pos rfl, coded, Option.map_some,
            flatMap_cons, hWord, cons_append])
      · obtain ⟨hNotAny, hNe⟩ := not_or.mp hLetter
        have hTurn : turn star any (letter :: p) c v back = resume back := by
          rw [turn, if_neg hLetter, if_neg hStar]
        rw [hTurn] at hNext
        rw [loop_of_resume hTurn, loop_of_part (literal_word hWild hStar hNotAny)
          fun r s hEq => hNe (hSync.unique _ _ r s hEq)]
        refine after_coded hSync hWild hAny hWide hWalks ?_ hNext
        rintro _ _ ⟨⟩
        exact hStar

include hSync hWild hAny hWide in
private theorem loop_coded (hWalks : Walks star any pattern value p v back) :
    loop star' any' (p.flatMap enc) (v.flatMap enc) (coded enc back) = loop star any p v back := by
  fun_induction loop star any p v back with
  | case1 => rw [flatMap_nil, loop, dropWhile_coded hSync hWild]
  | case2 p back c v hTurn =>
    have hStep := turn_coded hSync hWild hAny hWide hWalks (by simp [hTurn])
    rw [hStep, loop]
    split <;> simp_all
  | case3 p back c v p' v' back' hTurn ih =>
    have hRest := ih (hWalks.turn hTurn)
    rw [turn_coded hSync hWild hAny hWide hWalks, loop_of_turn hTurn]
    intro _ _ _ hSome
    rw [hTurn] at hSome
    cases hSome
    exact hRest

end Coded

/-- **Code words are walked as the letters are** where `any` meets no word of several symbols. -/
theorem loop_encoded (hSync : SelfSynchronising enc cont)
    (hWild : CodesWildcards enc star any star' any') (hAny : any ≠ star)
    (hWide : ∀ c, (enc c).length ≠ 1 → ¬Meets star any p v any c) :
    loop star' any' (p.flatMap enc) (v.flatMap enc) none = loop star any p v none :=
  loop_coded hSync hWild hAny hWide Walks.start

end Encoded

end FrankenTerm.Verified.Glob
