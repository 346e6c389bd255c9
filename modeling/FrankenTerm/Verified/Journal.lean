import Mathlib

/-!
# Journals

A journal is a list of entries that only grows at its end.  Whether an entry may be
written depends on the entries before it: `Admitted admits past entries` says that every
entry is admitted by those before it, starting after `past`.

A checker does not look at the whole past.  It reads raw items one by one, some of which
are no entries at all, and keeps a summary of the entries read so far.  `Checks` is what
one step of it has to do, and from it follows that the checker accepts exactly the items
that are legible and whose entries are admitted.

The usual summary is a map from keys to the latest entry with that key: `latest` is that
entry, and `Indexes` says that an association list is such a map.

## Main results

* `admitted_append` — a journal grows by entries that its own past admits.
* `Checks.foldlM_ok`, `Checks.foldlM_of_admitted` — soundness and completeness of a
  checker.
* `Indexes.insert`, `Indexes.skip` — the map after one more entry.
-/

namespace FrankenTerm.Verified.Journal

open List

variable {α β σ ε κ : Type}

/-! ## Admission -/

/-- Every entry is admitted by `past` and the entries before it. -/
def Admitted (admits : List α → α → Prop) : List α → List α → Prop
  | _, [] => True
  | past, a :: rest => admits past a ∧ Admitted admits (past ++ [a]) rest

variable {admits : List α → α → Prop}

theorem admitted_append {past front back : List α} :
    Admitted admits past (front ++ back) ↔
      Admitted admits past front ∧ Admitted admits (past ++ front) back := by
  induction front generalizing past with
  | nil => simp [Admitted]
  | cons _ _ ih => simp [Admitted, ih, and_assoc]

/-- An entry is admitted by those before it. -/
theorem Admitted.admits_of_split {past front back : List α} {a : α}
    (h : Admitted admits past (front ++ a :: back)) : admits (past ++ front) a :=
  (admitted_append.mp h).2.1

/-- What admission says about one earlier entry holds of any two entries, one way round. -/
theorem Admitted.related (R : α → α → Prop) {entries : List α}
    (hRel : ∀ past a, admits past a → ∀ b ∈ past, R b a) (h : Admitted admits [] entries)
    {a b : α} (ha : a ∈ entries) (hb : b ∈ entries) (hne : a ≠ b) : R a b ∨ R b a := by
  rcases append_of_mem ha with ⟨front, back, rfl⟩
  rcases mem_append.mp hb with hFront | hRest
  · exact .inr (hRel _ _ h.admits_of_split b (by simpa using hFront))
  · rcases mem_cons.mp hRest with hEq | hBack
    · exact absurd hEq.symm hne
    · rcases append_of_mem hBack with ⟨middle, last, rfl⟩
      have hSplit : Admitted admits [] ((front ++ a :: middle) ++ b :: last) := by
        simpa using h
      exact .inl (hRel _ _ hSplit.admits_of_split a (by simp))

/-! ## Checkers -/

/-- One step of a checker: it succeeds on the items that are legible and whose entry the
past admits, and it keeps the summary. -/
structure Checks (admits : List α → α → Prop) (legible : β → Prop) (read : β → Option α)
    (Summary : List α → σ → Prop) (step : σ → β → Except ε σ) : Prop where
  sound : ∀ {past s b s'}, Summary past s → step s b = .ok s' →
    legible b ∧ (∀ a ∈ read b, admits past a) ∧ Summary (past ++ (read b).toList) s'
  complete : ∀ {past s b}, Summary past s → legible b → (∀ a ∈ read b, admits past a) →
    ∃ s', step s b = .ok s'

variable {legible : β → Prop} {read : β → Option α} {Summary : List α → σ → Prop}
  {step : σ → β → Except ε σ}

private theorem filterMap_cons_toList (b : β) (items : List β) :
    (b :: items).filterMap read = (read b).toList ++ items.filterMap read := by
  rw [filterMap_cons]
  cases read b <;> rfl

private theorem admitted_toList {past : List α} {b : β} :
    Admitted admits past (read b).toList ↔ ∀ a ∈ read b, admits past a := by
  cases read b with
  | none | some => simp [Admitted]

/-- What a checker accepted is legible and admitted. -/
theorem Checks.foldlM_ok (h : Checks admits legible read Summary step) {past : List α}
    {s s' : σ} (hSummary : Summary past s) (items : List β)
    (hRun : items.foldlM step s = .ok s') :
    (∀ b ∈ items, legible b) ∧ Admitted admits past (items.filterMap read) ∧
      Summary (past ++ items.filterMap read) s' := by
  induction items generalizing past s with
  | nil =>
    cases hRun
    exact ⟨nofun, trivial, by simpa using hSummary⟩
  | cons b _ ih =>
    rw [foldlM_cons] at hRun
    cases hStep : step s b with
    | error =>
      rw [hStep] at hRun
      cases hRun
    | ok =>
      rw [hStep] at hRun
      rcases h.sound hSummary hStep with ⟨hLegible, hAdmits, hNext⟩
      rcases ih hNext hRun with ⟨hRest, hTail, hEnd⟩
      rw [filterMap_cons_toList, admitted_append, ← append_assoc]
      exact ⟨forall_mem_cons.mpr ⟨hLegible, hRest⟩, ⟨admitted_toList.mpr hAdmits, hTail⟩, hEnd⟩

/-- A checker accepts what is legible and admitted. -/
theorem Checks.foldlM_of_admitted (h : Checks admits legible read Summary step)
    {past : List α} {s : σ} (hSummary : Summary past s) (items : List β)
    (hLegible : ∀ b ∈ items, legible b)
    (hAdmitted : Admitted admits past (items.filterMap read)) :
    ∃ s', items.foldlM step s = .ok s' := by
  induction items generalizing past s with
  | nil => exact ⟨s, rfl⟩
  | cons b _ ih =>
    rw [filterMap_cons_toList, admitted_append] at hAdmitted
    have hHead : legible b := hLegible b (by simp)
    rcases h.complete hSummary hHead (admitted_toList.mp hAdmitted.1) with ⟨t, hStep⟩
    rcases ih (h.sound hSummary hStep).2.2 (fun b hb => hLegible b (by simp [hb]))
      hAdmitted.2 with ⟨s', hRun⟩
    refine ⟨s', ?_⟩
    rw [foldlM_cons, hStep]
    exact hRun

/-! ## The latest entry of each key -/

variable [DecidableEq κ]

/-- The latest entry with the key `k`; entries without a key are passed over. -/
def latest (key : α → Option κ) (entries : List α) (k : κ) : Option α :=
  (entries.filter fun a => key a = some k).getLast?

variable {key : α → Option κ} {entries : List α} {k : κ} {a : α}

theorem latest_snoc :
    latest key (entries ++ [a]) k = if key a = some k then some a else latest key entries k := by
  unfold latest
  split <;> simp [*]

theorem latest_eq_none : latest key entries k = none ↔ ∀ a ∈ entries, key a ≠ some k := by
  simp [latest]

theorem mem_of_latest (h : latest key entries k = some a) : a ∈ entries ∧ key a = some k := by
  have hMem := mem_of_getLast? h
  rw [mem_filter] at hMem
  exact ⟨hMem.1, by simpa using hMem.2⟩

/-- Some entry has the key exactly when there is a latest one. -/
theorem exists_latest : (∃ a, latest key entries k = some a) ↔ ∃ a ∈ entries, key a = some k := by
  rw [← Option.ne_none_iff_exists', ne_eq, latest_eq_none]
  push Not
  rfl

/-- An association list that maps every key to its latest entry. -/
def Indexes (key : α → Option κ) (map : List (κ × α)) (entries : List α) : Prop :=
  ∀ k, map.lookup k = latest key entries k

variable {map : List (κ × α)}

theorem indexes_nil : Indexes key [] [] := fun _ => rfl

theorem Indexes.insert (h : Indexes key map entries) (hKey : key a = some k) :
    Indexes key ((k, a) :: map) (entries ++ [a]) := by
  intro other
  rw [latest_snoc, hKey, lookup_cons, h other]
  by_cases hEq : other = k
  · simp [hEq]
  · have hNe : k ≠ other := fun hSame => hEq hSame.symm
    have hTest : (other == k) = false := beq_eq_false_iff_ne.mpr hEq
    simp [hTest, hNe]

theorem Indexes.skip (h : Indexes key map entries) (hKey : key a = none) :
    Indexes key map (entries ++ [a]) := by
  intro other
  rw [latest_snoc, hKey]
  exact h other

end FrankenTerm.Verified.Journal
