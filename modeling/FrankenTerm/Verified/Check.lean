import Mathlib

/-!
# Sequences of checks

A function that refuses its input with an error does so in a fixed order: the first check
that fails decides.  `refuseIf` is one check, `okOr` reads a value that has to be there, and
a sequence of checks is a `do` block in `Except`.

## Main results

* `bind_eq_ok` — a sequence succeeds when its parts do.
* `refuseIf_bind_eq_ok` — behind a check its condition is known.
* `bind_eq_error`, `refuseIf_bind_eq_error` — the first part that fails decides.
* `FailsOnly.bind`, `FailsOnly.refuseIf_bind`, `FailsOnly.okOr_bind`, `FailsOnly.forM` — what a
  sequence can be refused with.
-/

namespace FrankenTerm.Verified.Check

variable {ε α β : Type}

/-- Refuse with `err` when the input is bad. -/
def refuseIf (bad : Prop) [Decidable bad] (err : ε) : Except ε Unit :=
  if bad then .error err else .ok ()

/-- The value, or `err` when there is none. -/
def okOr (value : Option α) (err : ε) : Except ε α :=
  match value with
  | some a => .ok a
  | none => .error err

variable {err other : ε} {bad : Prop} {result : Except ε α} {next : Unit → Except ε β} {b : β}

theorem bind_eq_ok {next : α → Except ε β} :
    (result >>= next) = .ok b ↔ ∃ a, result = .ok a ∧ next a = .ok b := by
  cases result with
  | error => exact ⟨nofun, fun ⟨_, h, _⟩ => nomatch h⟩
  | ok a => exact ⟨fun h => ⟨a, rfl, h⟩, fun ⟨_, hResult, hNext⟩ => by cases hResult; exact hNext⟩

theorem ok_bind (a : α) (next : α → Except ε β) : (Except.ok a >>= next) = next a := rfl

theorem refuseIf_neg [Decidable bad] (h : ¬bad) :
    refuseIf bad err = .ok () := if_neg h

theorem refuseIf_pos [Decidable bad] (h : bad) : refuseIf bad err = .error err := if_pos h

theorem unit_bind_eq_ok {check : Except ε Unit} :
    (check >>= next) = .ok b ↔ check = .ok () ∧ next () = .ok b := by
  rw [bind_eq_ok]
  exact ⟨fun ⟨_, hCheck, hNext⟩ => ⟨hCheck, hNext⟩, fun ⟨hCheck, hNext⟩ => ⟨(), hCheck, hNext⟩⟩

theorem refuseIf_eq_ok [Decidable bad] : refuseIf bad err = .ok () ↔ ¬bad := by
  by_cases h : bad <;> simp [refuseIf, h]

/-- Behind a check its condition is known. -/
theorem refuseIf_bind_eq_ok [Decidable bad] :
    (refuseIf bad err >>= next) = .ok b ↔ ¬bad ∧ next () = .ok b := by
  rw [unit_bind_eq_ok, refuseIf_eq_ok]

theorem okOr_eq_ok {value : Option α} {a : α} : okOr value err = .ok a ↔ value = some a := by
  cases value <;> simp [okOr]

/-- A sequence fails where the first of its parts does. -/
theorem bind_eq_error {next : α → Except ε β} : (result >>= next) = .error err ↔
      result = .error err ∨ ∃ a, result = .ok a ∧ next a = .error err := by
  cases result with
  | error other =>
    change (Except.error other : Except ε β) = .error err ↔ _
    simp
  | ok a =>
    exact ⟨fun h => .inr ⟨a, rfl, h⟩,
      fun h => h.elim nofun fun ⟨_, hOk, hNext⟩ => by cases hOk; exact hNext⟩

theorem refuseIf_eq_error [Decidable bad] :
    refuseIf bad err = .error other ↔ bad ∧ err = other := by
  by_cases h : bad <;> simp [refuseIf, h]

theorem refuseIf_bind_eq_error [Decidable bad] : (refuseIf bad err >>= next) = .error other ↔
      (bad ∧ err = other) ∨ (¬bad ∧ next () = .error other) := by
  rw [bind_eq_error, refuseIf_eq_error]
  exact or_congr_right ⟨fun ⟨_, hOk, h⟩ => ⟨refuseIf_eq_ok.mp hOk, h⟩,
    fun ⟨hNot, h⟩ => ⟨(), refuseIf_eq_ok.mpr hNot, h⟩⟩

theorem okOr_eq_error {value : Option α} :
    okOr value err = .error other ↔ value = none ∧ err = other := by
  cases value <;> simp [okOr]

theorem toOption_eq_some {a : α} : result.toOption = some a ↔ result = .ok a := by
  cases result with
  | error => exact ⟨nofun, nofun⟩
  | ok => simp [Except.toOption]

/-! ## What a sequence can be refused with -/

/-- Every error of the result satisfies `P`. -/
def FailsOnly (P : ε → Prop) (result : Except ε α) : Prop := ∀ err, result = .error err → P err

namespace FailsOnly

variable {P : ε → Prop}

theorem ok {a : α} : FailsOnly P (.ok a) := nofun

theorem error (h : P err) : FailsOnly P (.error err : Except ε α) := by
  rintro _ ⟨⟩
  exact h

theorem bind {next : α → Except ε β} (hResult : FailsOnly P result)
    (hNext : ∀ a, result = .ok a → FailsOnly P (next a)) : FailsOnly P (result >>= next) := by
  intro err h
  rcases bind_eq_error.mp h with h | ⟨a, ha, h⟩
  · exact hResult err h
  · exact hNext a ha err h

theorem of_refuseIf [Decidable bad] (hErr : bad → P err) :
    FailsOnly P (refuseIf bad err) := by
  intro other h
  obtain ⟨hBad, rfl⟩ := refuseIf_eq_error.mp h
  exact hErr hBad

theorem refuseIf_bind [Decidable bad] (hErr : bad → P err)
    (hNext : ¬bad → FailsOnly P (next ())) : FailsOnly P (refuseIf bad err >>= next) :=
  bind (of_refuseIf hErr) fun _ hOk => hNext (refuseIf_eq_ok.mp hOk)

/-- The rule for a check whose condition nothing behind it needs. -/
theorem past [Decidable bad] (hErr : P err)
    (hNext : FailsOnly P (next ())) : FailsOnly P (refuseIf bad err >>= next) :=
  refuseIf_bind (fun _ => hErr) fun _ => hNext

theorem okOr_bind {value : Option α} {next : α → Except ε β} (hErr : value = none → P err)
    (hNext : ∀ a, value = some a → FailsOnly P (next a)) :
    FailsOnly P (okOr value err >>= next) := by
  refine bind (fun other h => ?_) fun a hOk => hNext a (okOr_eq_ok.mp hOk)
  obtain ⟨hNone, rfl⟩ := okOr_eq_error.mp h
  exact hErr hNone

/-- The rule for a value that is known to be there. -/
theorem some_bind {value : Option α} {a : α} {next : α → Except ε β} (h : value = some a)
    (hNext : FailsOnly P (next a)) : FailsOnly P (okOr value err >>= next) := by
  rw [h]
  exact hNext

theorem map {f : α → β} (h : FailsOnly P result) :
    FailsOnly P (f <$> result) := by
  cases result with
  | ok => exact ok
  | error => exact error (h _ rfl)

theorem forM {γ : Type} {check : γ → Except ε PUnit} {items : List γ}
    (h : ∀ item ∈ items, FailsOnly P (check item)) : FailsOnly P (items.forM check) := by
  induction items with
  | nil => exact ok
  | cons item _ ih =>
    refine bind (h item List.mem_cons_self) fun _ _ => ?_
    exact ih fun other hOther => h other (List.mem_cons_of_mem _ hOther)

end FailsOnly

end FrankenTerm.Verified.Check
