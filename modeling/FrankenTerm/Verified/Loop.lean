import Mathlib

/-!
# Loops that may fail

A `for` loop whose body may panic is a fold in `Option`.  The rule here is
the usual loop invariant, indexed by the part of the list already consumed:
when every body run from a state with the invariant succeeds and restores it
for one more element, the whole loop succeeds and ends with the invariant for
the whole list.  A loop that is known to have succeeded needs less: its body
only has to keep the invariant when it succeeds.

A loop that keeps the best element so far ends with the first of the best ones
(`foldl_pick_eq_some`).
-/

namespace FrankenTerm.Verified.Loop

variable {α β : Type*}

/-- What no turn of a loop changes, the loop does not change. -/
theorem foldl_keeps {γ : Type*} (body : β → α → β) (view : β → γ)
    (h : ∀ s x, view (body s x) = view s) (xs : List α) (s : β) :
    view (xs.foldl body s) = view s := by
  induction xs generalizing s with
  | nil => rfl
  | cons x _ ih => exact (ih (body s x)).trans (h s x)

/-- Loop rule with a split point: `inv pre s` holds after the prefix `pre` of
the list, and the body is asked to advance it over the next element only. -/
theorem foldlM_split {body : β → α → Option β} (inv : List α → β → Prop)
    (xs : List α) (pre : List α) (s : β)
    (hstep : ∀ (p : List α) (x : α) (t : β), p ++ [x] <+: pre ++ xs →
      inv p t → ∃ t', body t x = some t' ∧ inv (p ++ [x]) t')
    (hinv : inv pre s) :
    ∃ s', xs.foldlM body s = some s' ∧ inv (pre ++ xs) s' := by
  induction xs generalizing pre s with
  | nil => exact ⟨s, rfl, by simpa using hinv⟩
  | cons x xs ih =>
    have hpre : pre ++ [x] <+: pre ++ x :: xs := ⟨xs, by simp⟩
    obtain ⟨t, ht, hinv'⟩ := hstep pre x s hpre hinv
    have happ : (pre ++ [x]) ++ xs = pre ++ x :: xs := by simp
    obtain ⟨s', hs', hend⟩ := ih (pre ++ [x]) t (by rwa [happ]) hinv'
    refine ⟨s', ?_, happ ▸ hend⟩
    rw [List.foldlM_cons, ht]
    exact hs'

/-- Loop rule from the start of the list. -/
theorem foldlM_inv (body : β → α → Option β) (inv : List α → β → Prop) (xs : List α) (s : β)
    (hstep : ∀ (p : List α) (x : α) (t : β), p ++ [x] <+: xs →
      inv p t → ∃ t', body t x = some t' ∧ inv (p ++ [x]) t')
    (hinv : inv [] s) :
    ∃ s', xs.foldlM body s = some s' ∧ inv xs s' :=
  foldlM_split inv xs [] s hstep hinv

/-- Loop rule for a run that succeeded. -/
theorem foldlM_preserves (body : β → α → Option β) (inv : β → Prop)
    (hstep : ∀ (s : β) (x : α) (t : β), inv s → body s x = some t → inv t)
    (xs : List α) {s s' : β} (hrun : xs.foldlM body s = some s') (hinv : inv s) : inv s' := by
  induction xs generalizing s with
  | nil =>
    cases hrun
    exact hinv
  | cons x _ ih =>
    rw [List.foldlM_cons, Option.bind_eq_bind, Option.bind_eq_some_iff] at hrun
    rcases hrun with ⟨t, hbody, hrest⟩
    exact ih hrest (hstep s x t hinv hbody)

/-- Loop rule for a run of a refusing body that succeeded, indexed by the part of the
list already consumed. -/
theorem foldlM_ok {ε : Type*} (body : β → α → Except ε β) (inv : List α → β → Prop)
    (xs : List α) {s s' : β} (hrun : xs.foldlM body s = .ok s')
    (hstep : ∀ (p : List α) (x : α) (t t' : β), p ++ [x] <+: xs →
      inv p t → body t x = .ok t' → inv (p ++ [x]) t')
    (hinv : inv [] s) : inv xs s' := by
  suffices hAll : ∀ (pre rest : List α) (t : β), pre ++ rest = xs →
      rest.foldlM body t = .ok s' → inv pre t → inv xs s' from hAll [] xs s rfl hrun hinv
  intro pre rest
  induction rest generalizing pre with
  | nil =>
    intro t happ hrest hpre
    cases hrest
    rw [List.append_nil] at happ
    exact happ ▸ hpre
  | cons x rest ih =>
    intro t happ hrest hpre
    rw [List.foldlM_cons] at hrest
    cases hbody : body t x with
    | error =>
      rw [hbody] at hrest
      cases hrest
    | ok u =>
      rw [hbody] at hrest
      have hnext : (pre ++ [x]) ++ rest = xs := by rw [← happ]; simp
      exact ih (pre ++ [x]) u hnext hrest (hstep pre x t u ⟨rest, hnext⟩ hpre hbody)

/-! ## Keeping the best -/

section Best

variable (better : α → α → Prop) [DecidableRel better]

/-- One turn of a loop that keeps the best element so far: a newcomer has to be better. -/
def pick (best : Option α) (x : α) : Option α :=
  match best with
  | none => some x
  | some b => if better x b then some x else some b

theorem foldl_pick_eq_none {xs : List α} : xs.foldl (pick better) none = none ↔ xs = [] := by
  induction xs using List.reverseRecOn with
  | nil => simp
  | append_singleton xs =>
    rw [List.foldl_concat]
    constructor
    · intro h
      cases hBest : xs.foldl (pick better) none with
      | none => simp [hBest, pick] at h
      | some =>
        simp only [hBest, pick] at h
        split_ifs at h
    · intro h
      simp at h

/-- **The loop keeps the first of the best**: it is better than everything before it, and
nothing after it is better. -/
theorem foldl_pick_eq_some (hTrans : ∀ {x y z}, better x y → better y z → better x z)
    (hNeg : ∀ {x y z}, better x y → ¬better z y → better x z) {xs : List α} {x : α}
    (h : xs.foldl (pick better) none = some x) :
    ∃ before after, xs = before ++ x :: after ∧ (∀ y ∈ before, better x y) ∧
      ∀ y ∈ after, ¬better y x := by
  induction xs using List.reverseRecOn generalizing x with
  | nil => simp at h
  | append_singleton xs last ih =>
    rw [List.foldl_concat] at h
    cases hBest : xs.foldl (pick better) none with
    | none =>
      rw [hBest] at h
      cases h
      rw [(foldl_pick_eq_none better).mp hBest]
      exact ⟨[], [], rfl, by simp, by simp⟩
    | some best =>
      obtain ⟨before, after, rfl, hBefore, hAfter⟩ := ih hBest
      rw [hBest] at h
      simp only [pick] at h
      split_ifs at h with hBetter
      · cases h
        refine ⟨before ++ best :: after, [], by simp, ?_, by simp⟩
        intro y hy
        rcases List.mem_append.mp hy with hy | hy
        · exact hTrans hBetter (hBefore y hy)
        · rcases List.mem_cons.mp hy with rfl | hy
          · exact hBetter
          · exact hNeg hBetter (hAfter y hy)
      · cases h
        refine ⟨before, after ++ [last], by simp, hBefore, ?_⟩
        intro y hy
        rcases List.mem_append.mp hy with hy | hy
        · exact hAfter y hy
        · rw [List.mem_singleton.mp hy]
          exact hBetter

end Best

end FrankenTerm.Verified.Loop
