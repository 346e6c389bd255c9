import Mathlib

/-!
# Fields between markers

A record is sometimes written as a text by putting a fixed marker in front of each field but the
first, without escaping the fields.  A field that contains a marker can then be read in another
way: as a shorter field, the marker, and the start of the next field.  This file says exactly when
there is only one way to read the fields.

The markers start with a letter that they do not contain again, so two markers in one text never
overlap.

## Main results

* `occurrence_cases` — two places of one marker in a text are the same or do not overlap.
* `reading_unique_iff` — when the fields are determined by the text and the markers.
-/

namespace FrankenTerm.Verified.Marked

open List

variable {α : Type*}

/-- A first field, then a marker and a field for each entry. -/
def marked (first : List α) : List (List α × List α) → List α
  | [] => first
  | (marker, field) :: rest => first ++ (marker ++ marked field rest)

/-- The marker starts with the bar and does not contain it again. -/
def Barred (bar : α) (marker : List α) : Prop := ∃ tail, marker = bar :: tail ∧ bar ∉ tail

/-- No field contains the marker before or after it. -/
def Clear (first : List α) : List (List α × List α) → Prop
  | [] => True
  | (marker, field) :: rest => ¬marker <:+: first ∧ ¬marker <:+: field ∧ Clear field rest

instance decidableClear [DecidableEq α] (first : List α) (fields : List (List α × List α)) :
    Decidable (Clear first fields) :=
  match fields with
  | [] => .isTrue trivial
  | (marker, field) :: rest =>
    have := decidableClear field rest
    inferInstanceAs (Decidable (¬marker <:+: first ∧ ¬marker <:+: field ∧ Clear field rest))

theorem marked_append (more first : List α) (fields : List (List α × List α)) :
    marked (more ++ first) fields = more ++ marked first fields := by
  cases fields with
  | nil => rfl
  | cons => simp [marked]

variable {bar : α} {first : List α} {fields : List (List α × List α)}

/-- A later place of the marker starts after the end of the earlier one. -/
private theorem later_occurrence {marker : List α} (hBar : Barred bar marker) {gap r s : List α}
    (hGap : gap ≠ []) (h : marker ++ r = gap ++ (marker ++ s)) :
    ∃ t, gap = marker ++ t ∧ r = t ++ (marker ++ s) := by
  rcases append_eq_append_iff.mp h with ⟨t, hFront, hBack⟩ | ⟨overlap, hFront, hBack⟩
  · exact ⟨t, hFront, hBack⟩
  · obtain ⟨tail, rfl, hTail⟩ := hBar
    cases overlap with
    | nil =>
      refine ⟨[], ?_, ?_⟩
      · simpa using hFront.symm
      · simpa using hBack.symm
    | cons c overlap =>
      -- The overlap would start with the bar, in the middle of the earlier marker.
      exfalso
      obtain ⟨d, gap, rfl⟩ := exists_cons_of_ne_nil hGap
      have hBarEq : bar = c := by simpa using (cons.inj hBack).1
      have hTailEq : tail = gap ++ c :: overlap := by simpa using (cons.inj hFront).2
      exact hTail (by simp [hTailEq, hBarEq])

/-- **Two places of one marker** are the same, or one ends before the other starts. -/
theorem occurrence_cases {marker : List α} (hBar : Barred bar marker) {f g r s : List α}
    (h : f ++ (marker ++ r) = g ++ (marker ++ s)) :
    (f = g ∧ r = s) ∨ (∃ t, f = g ++ (marker ++ t) ∧ s = t ++ (marker ++ r)) ∨
      ∃ t, g = f ++ (marker ++ t) ∧ r = t ++ (marker ++ s) := by
  rcases append_eq_append_iff.mp h with ⟨gap, hFront, hBack⟩ | ⟨gap, hFront, hBack⟩
  · by_cases hGap : gap = []
    · subst hGap
      exact .inl ⟨by simpa using hFront.symm, by simpa using hBack⟩
    · obtain ⟨t, rfl, hRest⟩ := later_occurrence hBar hGap hBack
      exact .inr (.inr ⟨t, hFront, hRest⟩)
  · by_cases hGap : gap = []
    · subst hGap
      exact .inl ⟨by simpa using hFront, by simpa using hBack.symm⟩
    · obtain ⟨t, rfl, hRest⟩ := later_occurrence hBar hGap hBack
      exact .inr (.inl ⟨t, hFront, hRest⟩)

/-- A clear text has no second reading. -/
theorem reading_unique {other : List α} {others : List (List α × List α)}
    (hBar : ∀ entry ∈ fields, Barred bar entry.1) (hClear : Clear first fields)
    (hMarkers : others.map Prod.fst = fields.map Prod.fst)
    (h : marked other others = marked first fields) : other = first ∧ others = fields := by
  induction fields generalizing first other others with
  | nil =>
    rw [map_nil, map_eq_nil_iff] at hMarkers
    subst hMarkers
    exact ⟨h, rfl⟩
  | cons entry rest ih =>
    obtain ⟨marker, field⟩ := entry
    obtain ⟨hBefore, hAfter, hRest⟩ := hClear
    cases others with
    | nil => cases hMarkers
    | cons entry' =>
      obtain ⟨marker', field'⟩ := entry'
      obtain ⟨rfl, hMarkersRest⟩ := cons.inj hMarkers
      have hBarRest : ∀ entry ∈ rest, Barred bar entry.1 := fun e he => hBar e (by simp [he])
      have hHead : Barred bar marker' := hBar (marker', field) (by simp)
      rcases occurrence_cases hHead h with
        ⟨rfl, hTail⟩ | ⟨t, rfl, hTail⟩ | ⟨t, rfl, _⟩
      · obtain ⟨rfl, rfl⟩ := ih hBarRest hRest hMarkersRest hTail
        exact ⟨rfl, rfl⟩
      · -- The other reading takes the marker from the field after it.
        rw [← marked_append, ← marked_append] at hTail
        obtain ⟨hField, _⟩ := ih hBarRest hRest hMarkersRest hTail.symm
        exact absurd ⟨t, field', by simpa using hField⟩ hAfter
      · exact absurd ⟨other, t, by simp⟩ hBefore

/-- A text that is not clear has a second reading. -/
theorem second_reading (hBar : ∀ entry ∈ fields, Barred bar entry.1) (hClear : ¬Clear first fields) :
    ∃ other others, others.map Prod.fst = fields.map Prod.fst ∧
      marked other others = marked first fields ∧ ¬(other = first ∧ others = fields) := by
  induction fields generalizing first with
  | nil => exact absurd trivial hClear
  | cons entry rest ih =>
    obtain ⟨marker, field⟩ := entry
    have hLength : 0 < marker.length := by
      obtain ⟨tail, hTail, _⟩ := hBar (marker, field) (by simp)
      rw [show marker = bar :: tail from hTail]
      simp
    by_cases hBefore : marker <:+: first
    · obtain ⟨a, b, rfl⟩ := hBefore
      refine ⟨a, (marker, b ++ (marker ++ field)) :: rest, rfl, ?_, ?_⟩
      · simp [marked, marked_append]
      · rintro ⟨hFirst, _⟩
        have := congrArg length hFirst
        simp only [length_append] at this
        omega
    · by_cases hAfter : marker <:+: field
      · obtain ⟨a, b, rfl⟩ := hAfter
        refine ⟨first ++ (marker ++ a), (marker, b) :: rest, rfl, ?_, ?_⟩
        · simp [marked, marked_append]
        · rintro ⟨hFirst, _⟩
          have := congrArg length hFirst
          simp only [length_append] at this
          omega
      · have hRest : ¬Clear field rest := fun h => hClear ⟨hBefore, hAfter, h⟩
        obtain ⟨other, others, hMarkers, hText, hNe⟩ :=
          ih (fun e he => hBar e (by simp [he])) hRest
        refine ⟨first, (marker, other) :: others, by simp [hMarkers], ?_, ?_⟩
        · rw [marked, marked, hText]
        · rintro ⟨_, hFields⟩
          obtain ⟨hEntry, hOthers⟩ := cons.inj hFields
          exact hNe ⟨(Prod.mk.inj hEntry).2, hOthers⟩

/-- **The fields are determined by the text and the markers** exactly if no field contains the
marker before or after it. -/
theorem reading_unique_iff (hBar : ∀ entry ∈ fields, Barred bar entry.1) :
    (∀ other others, others.map Prod.fst = fields.map Prod.fst →
      marked other others = marked first fields → other = first ∧ others = fields) ↔
      Clear first fields := by
  constructor
  · intro h
    by_contra hClear
    obtain ⟨other, others, hMarkers, hText, hNe⟩ := second_reading hBar hClear
    exact hNe (h other others hMarkers hText)
  · intro hClear other others hMarkers hText
    exact reading_unique hBar hClear hMarkers hText

end FrankenTerm.Verified.Marked
