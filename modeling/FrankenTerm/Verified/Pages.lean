import Mathlib

/-!
# Lists that are kept in pages

A long list is kept as a list of pages.  A place in it is found in two ways: by walking back from
the last page with the number of elements still to be skipped (`walkBack`), or by the ends of the
pages, counted from a base (`ends`), among which the first one above the place is looked for.

## Main results

* `flatten_cut` — a list that is cut into pages is the pages.
* `StandFor` — pages, numbered from a start, that stand for the parts of a list.
* `walkBack_found`, `walkBack_left` — the walk ends at the page of the place, or behind the front.
* `element_at` — the element at a place, in the part that its page stands for.
* `walkBack_eq_search` — the search by ends finds the same page, and the same place in it.
* `ends_append_singleton` — the ends of the pages when one is added at the back.
-/

namespace FrankenTerm.Verified.Pages

open List

variable {α : Type*}

/-! ## Cutting -/

/-- Cut a list into parts of `size + 1` elements; the last one may be shorter. -/
def cut (size : Nat) : List α → List (List α)
  | [] => []
  | a :: rest => (a :: rest.take size) :: cut size (rest.drop size)
termination_by items => items.length
decreasing_by simp only [List.length_drop, List.length_cons]; omega

theorem flatten_cut (size : Nat) (items : List α) : (cut size items).flatten = items := by
  fun_induction cut size items with
  | case1 => rfl
  | case2 _ _ ih =>
    rw [flatten_cons, ih, cons_append, take_append_drop]

theorem length_of_mem_cut {size : Nat} {items part : List α} (h : part ∈ cut size items) :
    0 < part.length ∧ part.length ≤ size + 1 := by
  fun_induction cut size items with
  | case1 => cases h
  | case2 _ _ ih =>
    rcases mem_cons.mp h with rfl | h
    · simp only [length_cons, length_take]
      omega
    · exact ih h

/-! ## Walking back -/

/-- Skip `remaining` elements from the back of some pages, the last page first: the number of pages
passed, the page, and what remains in it, or what remains behind all of them. -/
def walkBack {π : Type*} (length : π → Nat) : List π → Nat → (Nat × π × Nat) ⊕ Nat
  | [], remaining => .inr remaining
  | page :: rest, remaining =>
    if remaining < length page then .inl (0, page, remaining)
    else match walkBack length rest (remaining - length page) with
      | .inl (passed, found, left) => .inl (passed + 1, found, left)
      | .inr left => .inr left

/-! ## Pages and what they stand for -/

/-- The pages from number `i` on stand for the given parts, each by its number. -/
def StandFor {π : Type*} (P : Nat → π → List α → Prop) : Nat → List π → List (List α) → Prop
  | _, [], [] => True
  | i, page :: pages, part :: parts => P i page part ∧ StandFor P (i + 1) pages parts
  | _, _, _ => False

section StandFor

variable {π : Type*} {P Q : Nat → π → List α → Prop} {i : Nat} {pages : List π}
  {parts : List (List α)}

theorem StandFor.length_eq (h : StandFor P i pages parts) : pages.length = parts.length := by
  revert h
  fun_induction StandFor P i pages parts with
  | case1 => exact fun _ => rfl
  | case2 _ _ _ _ _ ih =>
    intro h
    rw [length_cons, length_cons, ih h.2]
  | case3 => exact False.elim

theorem StandFor.imp (h : StandFor P i pages parts)
    (hImp : ∀ j page part, page ∈ pages → part ∈ parts → P j page part → Q j page part) :
    StandFor Q i pages parts := by
  revert h
  fun_induction StandFor P i pages parts with
  | case1 => exact id
  | case2 i page _ part _ ih =>
    exact fun h => ⟨hImp i page part (by simp) (by simp) h.1,
      ih (fun j other otherPart hPage hPart =>
        hImp j other otherPart (mem_cons_of_mem _ hPage) (mem_cons_of_mem _ hPart)) h.2⟩
  | case3 => exact False.elim

theorem StandFor.append_singleton (h : StandFor P i pages parts) {page : π} {part : List α}
    (hLast : P (i + parts.length) page part) :
    StandFor P i (pages ++ [page]) (parts ++ [part]) := by
  revert h
  fun_induction StandFor P i pages parts with
  | case1 => exact fun _ => ⟨hLast, trivial⟩
  | case2 _ _ _ _ _ ih => exact fun h => ⟨h.1, ih (by rwa [Nat.add_right_comm]) h.2⟩
  | case3 => exact False.elim

theorem StandFor.getElem? (h : StandFor P i pages parts) {k : Nat} {part : List α}
    (hPart : parts[k]? = some part) : ∃ page, pages[k]? = some page ∧ P (i + k) page part := by
  revert h
  fun_induction StandFor P i pages parts generalizing k with
  | case1 => cases hPart
  | case2 _ page _ _ _ ih =>
    intro h
    cases k with
    | zero =>
      cases hPart
      exact ⟨page, rfl, h.1⟩
    | succ =>
      obtain ⟨found, hFound, hP⟩ := ih hPart h.2
      exact ⟨found, hFound, by rwa [Nat.add_assoc, Nat.add_comm 1] at hP⟩
  | case3 => exact False.elim

theorem StandFor.map_length (h : StandFor P i pages parts) {length : π → Nat}
    (hLength : ∀ j page part, P j page part → length page = part.length) :
    pages.map length = parts.map List.length := by
  revert h
  fun_induction StandFor P i pages parts with
  | case1 => exact fun _ => rfl
  | case2 i page _ part _ ih =>
    intro h
    rw [map_cons, map_cons, hLength i page part h.1, ih h.2]
  | case3 => exact False.elim

end StandFor

section Search

variable {π : Type*} {length : π → Nat} {front back pages : List π} {page : π} {remaining : Nat}

/-- The page of a place, counted from the back. -/
theorem exists_page (h : remaining < (pages.map length).sum) :
    ∃ front page back, pages = front ++ page :: back ∧ (back.map length).sum ≤ remaining ∧
      remaining < (back.map length).sum + length page := by
  induction pages with
  | nil => cases h
  | cons page rest ih =>
    rw [map_cons, sum_cons] at h
    by_cases hRest : remaining < (rest.map length).sum
    · obtain ⟨front, found, back, rfl, hFound⟩ := ih hRest
      exact ⟨page :: front, found, back, rfl, hFound⟩
    · exact ⟨[], page, rest, rfl, by omega, by omega⟩

/-- The walk passes the pages behind the place. -/
theorem walkBack_append {skipped : List π} (rest : List π)
    (h : (skipped.map length).sum ≤ remaining) :
    walkBack length (skipped ++ rest) remaining =
      (walkBack length rest (remaining - (skipped.map length).sum)).map
        (fun found => (found.1 + skipped.length, found.2)) id := by
  induction skipped generalizing remaining with
  | nil => cases hWalk : walkBack length rest remaining <;> simp [hWalk]
  | cons page skipped ih =>
    rw [map_cons, sum_cons] at h
    rw [cons_append, walkBack, if_neg (by omega), ih (by omega), map_cons, sum_cons, Nat.sub_sub]
    cases walkBack length rest _ <;> rfl

theorem walkBack_left (h : (pages.map length).sum ≤ remaining) :
    walkBack length pages.reverse remaining = .inr (remaining - (pages.map length).sum) := by
  have hSum : (pages.reverse.map length).sum = (pages.map length).sum := by
    rw [map_reverse, sum_reverse]
  rw [← append_nil pages.reverse, walkBack_append [] (by rwa [hSum]), hSum]
  rfl

theorem walkBack_found (hBack : (back.map length).sum ≤ remaining)
    (hPage : remaining < (back.map length).sum + length page) :
    walkBack length (front ++ page :: back).reverse remaining =
      .inl (back.length, page, remaining - (back.map length).sum) := by
  have hSum : (back.reverse.map length).sum = (back.map length).sum := by
    rw [map_reverse, sum_reverse]
  rw [reverse_append, reverse_cons, append_assoc, walkBack_append _ (by rwa [hSum]), hSum,
    singleton_append, walkBack, if_pos (by omega)]
  simp

/-- The element at a place, in the part that its page stands for. -/
theorem element_at {parts : List (List α)} (hLengths : (front ++ page :: back).map length =
      parts.map List.length) (hBack : (back.map length).sum ≤ remaining)
    (hPage : remaining < (back.map length).sum + length page) :
    ∃ part, parts[front.length]? = some part ∧ length page = part.length ∧
      parts.flatten.reverse[remaining]? =
        part[length page - 1 - (remaining - (back.map length).sum)]? := by
  rw [map_append, map_cons] at hLengths
  obtain ⟨before, rest, rfl, hBefore, hRest⟩ := map_eq_append_iff.mp hLengths.symm
  obtain ⟨part, after, rfl, hPart, hAfter⟩ := map_eq_cons_iff.mp hRest
  rw [← hAfter, ← length_flatten] at hBack hPage ⊢
  have hSame : before.length = front.length := by simpa using congrArg List.length hBefore
  refine ⟨part, by simp [← hSame], hPart.symm, ?_⟩
  rw [← hPart] at hPage ⊢
  rw [flatten_append, flatten_cons, reverse_append, reverse_append, append_assoc,
    getElem?_append_right (by rwa [length_reverse]), length_reverse,
    getElem?_append_left (by rw [length_reverse]; omega), getElem?_reverse (by omega)]

end Search

/-! ## Ends of pages -/

/-- The ends of pages of the given lengths, the first one starting at `base`. -/
def ends : Nat → List Nat → List Nat
  | _, [] => []
  | base, len :: rest => (base + len) :: ends (base + len) rest

theorem ends_append_singleton (base : Nat) (lens : List Nat) (len : Nat) :
    ends base (lens ++ [len]) = ends base lens ++ [base + lens.sum + len] := by
  induction lens generalizing base with
  | nil => simp [ends]
  | cons first _ ih =>
    simp only [cons_append, ends, ih, sum_cons]
    rw [Nat.add_assoc base first]

theorem getLast?_ends (base : Nat) (lens : List Nat) :
    (ends base lens).getLast?.getD base = base + lens.sum := by
  induction lens using List.reverseRecOn with
  | nil => simp [ends]
  | append_singleton =>
    rw [ends_append_singleton, getLast?_append, sum_append]
    simp
    omega

/-- The search by ends stops at the page of the place. -/
theorem ends_found {front back : List Nat} {base len target : Nat}
    (hFront : base + front.sum ≤ target) (hTarget : target < base + front.sum + len) :
    ((ends base (front ++ len :: back)).takeWhile (· ≤ target)).length = front.length ∧
      (ends base (front ++ len :: back))[front.length]? = some (base + front.sum + len) := by
  induction front generalizing base with
  | nil =>
    rw [sum_nil, Nat.add_zero] at hTarget ⊢
    rw [nil_append, ends, takeWhile_cons_of_neg (by simpa using hTarget)]
    exact ⟨rfl, rfl⟩
  | cons first front ih =>
    rw [sum_cons, ← Nat.add_assoc] at hFront hTarget ⊢
    rw [cons_append, ends, takeWhile_cons_of_pos (by simp; omega), length_cons]
    have hRest := ih hFront hTarget
    exact ⟨congrArg (· + 1) hRest.1, hRest.2⟩

/-- **The search by ends and the walk find the same page, and the same place in it.** -/
theorem walkBack_eq_search {π : Type*} {length : π → Nat} {pages : List π}
    {remaining base target : Nat} (hInside : remaining < (pages.map length).sum)
    (hTarget : target = base + (pages.map length).sum - 1 - remaining) :
    let i := ((ends base (pages.map length)).takeWhile (· ≤ target)).length
    ∃ page finish left, pages[i]? = some page ∧ (ends base (pages.map length))[i]? = some finish ∧
      walkBack length pages.reverse remaining = .inl (pages.length - 1 - i, page, left) ∧
      length page - 1 - left = target - (finish - length page) := by
  obtain ⟨front, page, back, rfl, hBack, hPage⟩ := exists_page hInside
  rw [map_append, map_cons, sum_append, sum_cons] at hTarget
  obtain ⟨hFound, hFinish⟩ := @ends_found (front.map length) (back.map length) base (length page)
    target (by omega) (by omega)
  rw [map_append, map_cons, hFound, List.length_map]
  rw [List.length_map] at hFinish
  refine ⟨page, _, remaining - (back.map length).sum, by simp, hFinish, ?_, ?_⟩
  · rw [walkBack_found hBack hPage]
    simp
  · omega

end FrankenTerm.Verified.Pages
