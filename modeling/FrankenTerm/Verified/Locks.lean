import Mathlib

/-!
# Exclusive locks

The locks that a list of owners hold, one list of names for each owner.  A lock is
exclusive: two owners never hold the same name.  The owners change one at a time, and an
owner may keep, release, or take names that nobody holds.

## Main results

* `Exclusive.set` — the table stays exclusive when one owner takes free locks.
* `Exclusive.notMem` — what one owner holds, no other owner holds.
-/

namespace FrankenTerm.Verified.Locks

variable {κ : Type}

/-- No name is held by two owners. -/
def Exclusive (held : List (List κ)) : Prop :=
  ∀ (i j : Nat) (a b : List κ), held[i]? = some a → held[j]? = some b → i ≠ j → ∀ name ∈ a, name ∉ b

variable {held : List (List κ)}

theorem exclusive_nil : Exclusive ([] : List (List κ)) := by
  intro i j a b ha
  simp at ha

theorem Exclusive.notMem (h : Exclusive held) {i j : Nat} {a b : List κ}
    (ha : held[i]? = some a) (hb : held[j]? = some b) (hne : i ≠ j) {name : κ}
    (hName : name ∈ a) : name ∉ b :=
  h i j a b ha hb hne name hName

/-- An owner that holds nothing may join. -/
theorem Exclusive.snoc_nil (h : Exclusive held) : Exclusive (held ++ [[]]) := by
  -- the new owner is the only one past the old length, and it holds nothing
  have hOld : ∀ (i : Nat) (a : List κ), (held ++ [[]])[i]? = some a →
      ∀ name ∈ a, held[i]? = some a := by
    intro i a ha name hName
    by_cases hi : i < held.length
    · rwa [List.getElem?_append_left hi] at ha
    · rw [List.getElem?_append_right (Nat.le_of_not_lt hi), List.getElem?_singleton] at ha
      split at ha
      · cases ha
        simp at hName
      · cases ha
  intro i j a b ha hb hne name hName hMem
  exact h i j a b (hOld i a ha name hName) (hOld j b hb name hMem) hne name hName hMem

/-- One owner may keep what it holds and take what nobody holds. -/
theorem Exclusive.set (h : Exclusive held) {p : Nat} {old new : List κ} (hOld : held[p]? = some old)
    (hNew : ∀ name ∈ new, name ∈ old ∨ ∀ other ∈ held, name ∉ other) :
    Exclusive (held.set p new) := by
  have hOther : ∀ (j : Nat) (b : List κ), p ≠ j → held[j]? = some b → ∀ name ∈ new, name ∉ b := by
    intro j b hne hb name hName
    rcases hNew name hName with hKeep | hFree
    · exact h.notMem hOld hb hne hKeep
    · exact hFree b (List.mem_of_getElem? hb)
  intro i j a b ha hb hne name hName hMem
  rw [List.getElem?_set] at ha hb
  by_cases hi : p = i
  · subst hi
    have hLt : p < held.length := (List.getElem?_eq_some_iff.mp hOld).1
    rw [if_pos rfl, if_pos hLt] at ha
    rw [if_neg hne] at hb
    cases ha
    exact hOther j b hne hb name hName hMem
  · rw [if_neg hi] at ha
    by_cases hj : p = j
    · subst hj
      have hLt : p < held.length := (List.getElem?_eq_some_iff.mp hOld).1
      rw [if_pos rfl, if_pos hLt] at hb
      cases hb
      exact hOther i a hi ha name hMem hName
    · rw [if_neg hj] at hb
      exact h.notMem ha hb hne hName hMem

/-- The same for owners of which the locks are a part. -/
theorem Exclusive.map_set {σ : Type*} {owners : List σ} {locks : σ → List κ}
    (h : Exclusive (owners.map locks)) {p : Nat} {old new : σ} (hOld : owners[p]? = some old)
    (hNew : ∀ name ∈ locks new, name ∈ locks old ∨ ∀ owner ∈ owners, name ∉ locks owner) :
    Exclusive ((owners.set p new).map locks) := by
  rw [List.map_set]
  refine h.set (by rw [List.getElem?_map, hOld]; rfl) fun name hName => ?_
  exact (hNew name hName).imp_right List.forall_mem_map.mpr

end FrankenTerm.Verified.Locks
