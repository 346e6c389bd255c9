import Mathlib

/-!
# Records of many sizes in a ring

A ring of `capacity` bytes holds records of different lengths, each in one piece.  The oldest starts
at `head`, the next one goes to `tail`, and behind `wrap` there is nothing up to the end of the ring.
`Layout` lists the three ways in which the retained records may lie: there are none, they lie between
`head` and `tail`, or they lie between `head` and `wrap` and then from the front up to `tail`.  In
the last case `head` and `tail` may coincide, and then the ring is full.

The records are listed with their offsets, the oldest first.

## Main results

* `Layout.evict` — the layout without its oldest record.
* `Layout.turn` — the layout of a ring whose next record goes to the front.
* `Layout.push` — the layout with one more record, where there is room for it.
* `Room.disjoint`, `Room.span_le` — where there is room, no record lies, and the sizes fit.
-/

namespace FrankenTerm.Verified.RingLayout

open List

variable {ρ : Type} (len : ρ → Nat)

/-- Records one after the other, from an offset on. -/
def place : Nat → List ρ → List (Nat × ρ)
  | _, [] => []
  | start, record :: rest => (start, record) :: place (start + len record) rest

/-- The length of some records. -/
def span (records : List ρ) : Nat := (records.map len).sum

/-- **How the records lie in a ring.** -/
inductive Layout (capacity : Nat) : (head tail wrap : Nat) → List (Nat × ρ) → Prop where
  | empty {tail : Nat} (hTail : tail < capacity) : Layout capacity tail tail capacity []
  | linear {head : Nat} {records : List ρ} (hSome : records ≠ [])
      (hTail : head + span len records < capacity) :
      Layout capacity head (head + span len records) capacity (place len head records)
  | wrapped {head : Nat} {upper lower : List ρ} (hSome : upper ≠ [])
      (hWrap : head + span len upper ≤ capacity) (hTail : span len lower ≤ head) :
      Layout capacity head (span len lower) (head + span len upper)
        (place len head upper ++ place len 0 lower)

/-- There is room for a record at the tail. -/
structure Room (capacity head tail : Nat) (placed : List (Nat × ρ)) (total : Nat) : Prop where
  before_end : placed = [] ∨ head < tail → tail + total ≤ capacity
  before_head : placed ≠ [] → tail ≤ head → tail + total ≤ head

variable {len}

/-! ## Placed records -/

section Place

@[simp] theorem span_nil : span len ([] : List ρ) = 0 := rfl

@[simp] theorem span_cons (record : ρ) (rest : List ρ) :
    span len (record :: rest) = len record + span len rest := rfl

theorem span_append (front back : List ρ) :
    span len (front ++ back) = span len front + span len back := by
  simp [span]

theorem place_append (start : Nat) (front back : List ρ) :
    place len start (front ++ back) =
      place len start front ++ place len (start + span len front) back := by
  induction front generalizing start with
  | nil => rfl
  | cons _ _ ih => simp [place, ih, Nat.add_assoc]

@[simp] theorem map_snd_place (start : Nat) (records : List ρ) :
    (place len start records).map Prod.snd = records := by
  induction records generalizing start with
  | nil => rfl
  | cons _ _ ih => simp [place, ih]

@[simp] theorem length_place (start : Nat) (records : List ρ) :
    (place len start records).length = records.length := by
  rw [← length_map (f := Prod.snd), map_snd_place]

variable {records : List ρ}

theorem place_eq_nil {start : Nat} : place len start records = [] ↔ records = [] := by
  cases records with
  | nil | cons => simp [place]

/-- Placed records lie behind their start and before their end. -/
theorem bounds_of_mem_place {start offset : Nat} {record : ρ}
    (h : (offset, record) ∈ place len start records) :
    start ≤ offset ∧ offset + len record ≤ start + span len records := by
  induction records generalizing start with
  | nil => cases h
  | cons _ _ ih =>
    rw [span_cons]
    rcases mem_cons.mp h with h | h
    · cases h
      omega
    · have := ih h
      omega

theorem span_pos (hLen : ∀ record : ρ, 0 < len record) (h : records ≠ []) :
    0 < span len records := by
  cases records with
  | nil => exact absurd rfl h
  | cons record =>
    have := hLen record
    rw [span_cons]
    omega

end Place

/-! ## Layouts -/

section Layout

variable {capacity head tail wrap : Nat} {placed : List (Nat × ρ)}

/-- A ring that holds nothing. -/
theorem Layout.of_nil (h : Layout len capacity head tail wrap ([] : List (Nat × ρ))) :
    head = tail ∧ wrap = capacity := by
  generalize hNil : ([] : List (Nat × ρ)) = placed at h
  cases h with
  | empty => exact ⟨rfl, rfl⟩
  | linear hSome => exact absurd (place_eq_nil.mp hNil.symm) hSome
  | wrapped hSome =>
    exact absurd (place_eq_nil.mp (append_eq_nil_iff.mp hNil.symm).1) hSome

variable (hLen : ∀ record : ρ, 0 < len record) (h : Layout len capacity head tail wrap placed)

include h

theorem Layout.wrap_le : wrap ≤ capacity := by
  cases h with
  | empty | linear => exact Nat.le_refl _
  | wrapped _ hWrap => exact hWrap

include hLen in
/-- A ring that holds something has its head before the wrap. -/
theorem Layout.head_lt_wrap (hSome : placed ≠ []) : head < wrap := by
  cases h with
  | empty => exact absurd rfl hSome
  | linear => omega
  | wrapped hUpper =>
    have := span_pos hLen hUpper
    omega

/-- Records in one piece leave nothing behind the wrap. -/
theorem Layout.wrap_eq (hLt : head < tail) : wrap = capacity := by
  cases h with
  | empty => rfl
  | linear => rfl
  | wrapped => omega

include hLen in
theorem Layout.tail_lt : tail < capacity := by
  cases h with
  | empty hTail | linear _ hTail => exact hTail
  | wrapped hSome =>
    have := span_pos hLen hSome
    omega

include hLen in
theorem Layout.head_lt : head < capacity := by
  cases h with
  | empty hTail => exact hTail
  | linear => omega
  | wrapped hSome =>
    have := span_pos hLen hSome
    omega

/-- The retained records fit the ring. -/
theorem Layout.span_le : span len (placed.map Prod.snd) ≤ capacity := by
  cases h with
  | empty => exact Nat.zero_le _
  | linear =>
    rw [map_snd_place]
    omega
  | wrapped =>
    rw [map_append, map_snd_place, map_snd_place, span_append]
    omega

variable {record : ρ} {offset total : Nat}

theorem Layout.mem_bounds (hMem : (offset, record) ∈ placed) : offset + len record ≤ capacity := by
  cases h with
  | empty => cases hMem
  | linear =>
    have := bounds_of_mem_place hMem
    omega
  | wrapped =>
    rcases mem_append.mp hMem with hMem | hMem
    all_goals
      have := bounds_of_mem_place hMem
      omega

/-- Records in one piece lie between the head and the tail. -/
theorem Layout.mem_of_lt (hLt : head < tail) (hMem : (offset, record) ∈ placed) :
    head ≤ offset ∧ offset + len record ≤ tail := by
  cases h with
  | empty => cases hMem
  | linear => exact bounds_of_mem_place hMem
  | wrapped => omega

include hLen in
/-- The length of records in two pieces. -/
theorem Layout.span_of_le (hSome : placed ≠ []) (hLe : tail ≤ head) :
    span len (placed.map Prod.snd) = (wrap - head) + tail := by
  cases h with
  | empty => exact absurd rfl hSome
  | linear hRecords =>
    have := span_pos hLen hRecords
    omega
  | wrapped =>
    rw [map_append, map_snd_place, map_snd_place, span_append]
    omega

omit h in
include hLen in
/-- **The layout without its oldest record**, which starts at the head.  Such a ring is not full. -/
theorem Layout.evict {rest : List (Nat × ρ)}
    (h : Layout len capacity head tail wrap ((offset, record) :: rest)) :
    offset = head ∧ (rest = [] → Layout len capacity tail tail capacity rest) ∧
      (rest ≠ [] → head + len record = wrap → 0 < tail ∧ Layout len capacity 0 tail capacity rest) ∧
      (rest ≠ [] → head + len record ≠ wrap →
        head + len record ≠ tail ∧ Layout len capacity (head + len record) tail wrap rest) := by
  have hTail := h.tail_lt hLen
  have hEmpty : rest = [] → Layout len capacity tail tail capacity rest := by
    rintro rfl
    exact .empty hTail
  generalize hPlaced : (offset, record) :: rest = placed at h
  cases h with
  | empty => cases hPlaced
  | @linear records hSome hEnd =>
    cases records with
    | nil => exact absurd rfl hSome
    | cons _ others =>
      cases hPlaced
      rw [span_cons] at *
      refine ⟨rfl, hEmpty, fun _ hWrap => ?_, fun hRest _ => ?_⟩
      · omega
      · have hOthers : others ≠ [] := fun hNil => hRest (place_eq_nil.mpr hNil)
        have := span_pos hLen hOthers
        refine ⟨by omega, ?_⟩
        rw [← Nat.add_assoc] at hEnd ⊢
        exact .linear hOthers hEnd
  | @wrapped upper lower hSome hWrap =>
    cases upper with
    | nil => exact absurd rfl hSome
    | cons _ others =>
      cases hPlaced
      rw [span_cons] at *
      refine ⟨rfl, hEmpty, fun hRest hEnd => ?_, fun hRest hEnd => ?_⟩
      · have hOthers : others = [] := by
          by_contra hNe
          have := span_pos hLen hNe
          omega
        subst hOthers
        have hLowerSome : lower ≠ [] := by
          rintro rfl
          exact hRest rfl
        have := hLen record
        have hLinear := @Layout.linear ρ len capacity 0 lower hLowerSome
          (by rw [span_nil] at hWrap; omega)
        rw [Nat.zero_add] at hLinear
        exact ⟨span_pos hLen hLowerSome, hLinear⟩
      · have hOthers : others ≠ [] := by
          rintro rfl
          exact hEnd rfl
        have := hLen record
        refine ⟨by omega, ?_⟩
        rw [← Nat.add_assoc] at hWrap ⊢
        exact .wrapped hOthers hWrap (by omega)

/-- **The next record goes to the front** of a ring whose records lie in one piece. -/
theorem Layout.turn (hLt : head < tail) : Layout len capacity head 0 tail placed := by
  cases h with
  | empty => omega
  | linear hSome hTail =>
    have hWrapped := @Layout.wrapped ρ len capacity head _ [] hSome (Nat.le_of_lt hTail)
      (Nat.zero_le head)
    rw [place, append_nil] at hWrapped
    exact hWrapped
  | wrapped => omega

include hLen in
/-- **The layout with one more record**, which goes to the tail. -/
theorem Layout.push (hRoom : Room capacity head tail placed (len record)) :
    Layout len capacity (if placed = [] then tail else head)
      (if tail + len record = capacity then 0 else tail + len record)
      (if tail + len record = capacity then capacity else wrap) (placed ++ [(tail, record)]) := by
  have hOne : ∀ start, place len start [record] = [(start, record)] := fun _ => rfl
  have hSpan : span len [record] = len record := by rw [span_cons, span_nil, Nat.add_zero]
  have hPos := hLen record
  cases h with
  | empty =>
    have hEnd := hRoom.before_end (.inl rfl)
    rw [if_pos rfl, nil_append, ← hOne]
    split_ifs with hFull
    · have hWrapped := @Layout.wrapped ρ len capacity head [record] [] (cons_ne_nil _ _)
        (by rw [hSpan]; exact hEnd) (Nat.zero_le head)
      rw [hSpan, hFull, place, append_nil] at hWrapped
      exact hWrapped
    · have hLinear := @Layout.linear ρ len capacity head [record] (cons_ne_nil _ _)
        (by rw [hSpan]; omega)
      exact hLinear
  | @linear records hSome =>
    have hLt : head < head + span len records := by
      have := span_pos hLen hSome
      omega
    have hEnd := hRoom.before_end (.inr hLt)
    rw [if_neg (fun hNil => hSome (place_eq_nil.mp hNil)), ← hOne, ← place_append]
    have hSum : head + span len records + len record = head + span len (records ++ [record]) := by
      rw [span_append, hSpan, Nat.add_assoc]
    rw [hSum] at hEnd ⊢
    split_ifs with hFull
    · have hWrapped := @Layout.wrapped ρ len capacity head (records ++ [record]) [] (by simp)
        hEnd (Nat.zero_le head)
      rw [hFull, place, append_nil] at hWrapped
      exact hWrapped
    · exact .linear (by simp) (by omega)
  | @wrapped upper lower hSome hWrap hTail =>
    have hPlaced : place len head upper ++ place len 0 lower ≠ [] := by
      intro hNil
      exact hSome (place_eq_nil.mp (append_eq_nil_iff.mp hNil).1)
    have hEnd := hRoom.before_head hPlaced hTail
    have := span_pos hLen hSome
    rw [if_neg hPlaced, if_neg (by omega), if_neg (by omega), append_assoc, ← hOne]
    have hWrapped := @Layout.wrapped ρ len capacity head upper (lower ++ [record]) hSome hWrap
      (by rw [span_append, hSpan]; exact hEnd)
    rw [place_append, span_append, hSpan, Nat.zero_add] at hWrapped
    exact hWrapped

/-- **Where there is room, no record lies.** -/
theorem Room.disjoint (hRoom : Room capacity head tail placed total)
    (hMem : (offset, record) ∈ placed) :
    offset + len record ≤ tail ∨ tail + total ≤ offset := by
  cases h with
  | empty => cases hMem
  | linear =>
    have := bounds_of_mem_place hMem
    omega
  | wrapped _ _ hTail =>
    have hEnd := hRoom.before_head (ne_nil_of_mem hMem) hTail
    rcases mem_append.mp hMem with hMem | hMem
    all_goals
      have := bounds_of_mem_place hMem
      omega

include hLen

/-- **Where there is room, the sizes fit.** -/
theorem Room.span_le (hRoom : Room capacity head tail placed total) :
    span len (placed.map Prod.snd) + total ≤ capacity := by
  cases h with
  | empty =>
    have := hRoom.before_end (.inl rfl)
    rw [map_nil, span_nil]
    omega
  | linear hSome =>
    have hPos := span_pos hLen hSome
    have := hRoom.before_end (.inr (by omega))
    rw [map_snd_place]
    omega
  | wrapped hSome _ hTail =>
    have hPlaced := hRoom.before_head (fun hNil =>
      hSome (place_eq_nil.mp (append_eq_nil_iff.mp hNil).1)) hTail
    rw [map_append, map_snd_place, map_snd_place, span_append]
    omega

theorem Room.end_le (hRoom : Room capacity head tail placed total) : tail + total ≤ capacity := by
  have hHead := h.head_lt hLen
  rcases Nat.lt_or_ge head tail with hLt | hGe
  · exact hRoom.before_end (.inr hLt)
  · rcases eq_or_ne placed [] with hNil | hSome
    · exact hRoom.before_end (.inl hNil)
    · have := hRoom.before_head hSome hGe
      omega

end Layout

end FrankenTerm.Verified.RingLayout
