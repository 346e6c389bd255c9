import Mathlib

/-!
# Delimited text

A record is often written as text by joining its fields with a separator, without any
escaping.  Such a text determines the record only when the separator does not occur in the
fields, and when a field that is absent is not written like one that is present.

* `Plain seps s` — none of the separators occurs in the text.
* `keyed_inj` — a plain field is read back from the front of a joined text.
* `orWord` — an optional field, with a word for its absence.
-/

namespace FrankenTerm.Verified.Delimited

open List

/-! ## Plain text -/

/-- None of the separators occurs in the text. -/
def Plain (seps : List Char) (s : String) : Prop := ∀ c ∈ s.toList, c ∉ seps

variable {seps : List Char}

instance (s : String) : Decidable (Plain seps s) :=
  List.decidableBAll (fun c => c ∉ seps) s.toList

@[simp] theorem plain_append {s t : String} :
    Plain seps (s ++ t) ↔ Plain seps s ∧ Plain seps t := by
  simp only [Plain, String.toList_append, forall_mem_append]

theorem plain_nat (h : seps.any Char.isDigit = false) (n : Nat) : Plain seps (toString n) := by
  intro c hc hSep
  rw [Nat.toString_eq_repr, Nat.repr_eq_ofList_toDigits, String.toList_ofList] at hc
  have hDigit := Nat.isDigit_of_mem_toDigits (by decide) (by decide) hc
  exact absurd hDigit (any_eq_false.mp h c hSep)

/-! ## Optional fields -/

variable {α : Type}

/-- An optional field, with a word for its absence. -/
def orWord (word : String) (text : α → String) : Option α → String
  | none => word
  | some a => text a

/-- An optional field is determined when no value is written like the word. -/
theorem orWord_inj (word : String) (text : α → String) (hText : Function.Injective text)
    {a b : Option α} (ha : ∀ x ∈ a, text x ≠ word) (hb : ∀ x ∈ b, text x ≠ word)
    (h : orWord word text a = orWord word text b) : a = b := by
  cases a with
  | none =>
    cases b with
    | none => rfl
    | some y => exact absurd h.symm (hb y rfl)
  | some x =>
    cases b with
    | none => exact absurd h (ha x rfl)
    | some => exact congrArg some (hText h)

/-- A number is never written like a word. -/
theorem toString_nat_ne {word : String} (hWord : word.toList.any Char.isDigit = false) (n : Nat) :
    toString n ≠ word := by
  intro h
  have hDigits : (toString n).toList = Nat.toDigits 10 n := by
    rw [Nat.toString_eq_repr, Nat.repr_eq_ofList_toDigits, String.toList_ofList]
  rcases exists_mem_of_ne_nil _ (Nat.toDigits_ne_nil (b := 10) (n := n)) with ⟨c, hc⟩
  have hAny : word.toList.any Char.isDigit := by
    rw [← h, hDigits]
    exact any_eq_true.mpr ⟨c, hc, Nat.isDigit_of_mem_toDigits (by decide) (by decide) hc⟩
  rw [hWord] at hAny
  cases hAny

theorem orWord_nat_inj {word : String} (hWord : word.toList.any Char.isDigit = false)
    {a b : Option Nat} (h : orWord word toString a = orWord word toString b) : a = b :=
  orWord_inj word toString (fun _ _ hEq => Nat.repr_injective hEq) (fun n _ => toString_nat_ne hWord n)
    (fun n _ => toString_nat_ne hWord n) h

/-- A key, a separator that does not occur in it, and a text. -/
theorem keyed_inj (sep : Char) (hSep : sep ∈ seps) {a b x y : String} (ha : Plain seps a)
    (hb : Plain seps b)
    (h : a ++ (String.singleton sep ++ x) = b ++ (String.singleton sep ++ y)) :
    a = b ∧ x = y := by
  have hLists : a.toList ++ sep :: x.toList = b.toList ++ sep :: y.toList := by
    simpa using congrArg String.toList h
  -- The first separator ends the key on both sides.
  have hSplit : ∀ {key : List Char}, sep ∉ key → ∀ rest,
      (key ++ sep :: rest).takeWhile (· ≠ sep) = key := by
    intro key hKey rest
    have hNe : ∀ c ∈ key, decide (c ≠ sep) :=
      fun c hc => decide_eq_true fun hEq => hKey (hEq ▸ hc)
    rw [takeWhile_append_of_pos hNe]
    simp
  have hKey : a.toList = b.toList := by
    rw [← hSplit (fun hc => ha sep hc hSep) x.toList, hLists,
      hSplit (fun hc => hb sep hc hSep) y.toList]
  rw [hKey] at hLists
  exact ⟨String.toList_injective hKey,
    String.toList_injective (cons.inj (append_cancel_left hLists)).2⟩

end FrankenTerm.Verified.Delimited
