import Mathlib

/-!
# Files and what is written to them

A file is a function from offsets to bytes.  What a program does to it is a list of writes and
syncs, and `replay` is what a reader sees afterwards.

## Main results

* `readAt_writeAt` — what is read behind a write.
-/

namespace FrankenTerm.Verified.TornFile

open List

/-- The bytes of a file. -/
abbrev Bytes := Nat → UInt8

/-- The bytes from an offset on. -/
def readAt (file : Bytes) (offset len : Nat) : List UInt8 :=
  (List.range len).map fun i => file (offset + i)

/-- The file behind a write. -/
def writeAt (file : Bytes) (offset : Nat) (data : List UInt8) : Bytes := fun i =>
  if offset ≤ i ∧ i < offset + data.length then data.getD (i - offset) 0 else file i

/-- What is done to a file; each write is tagged with what it is for. -/
inductive FileOp (τ : Type) where
  | write (tag : τ) (offset : Nat) (data : List UInt8)
  | sync
deriving DecidableEq, Repr

variable {τ : Type}

/-- The file behind an operation. -/
def FileOp.apply (file : Bytes) : FileOp τ → Bytes
  | .write _ offset data => writeAt file offset data
  | .sync => file

/-- The file behind some operations. -/
def replay (file : Bytes) (ops : List (FileOp τ)) : Bytes := ops.foldl FileOp.apply file

/-- Two files agree on a range. -/
def Agree (a b : Bytes) (start stop : Nat) : Prop := ∀ i, start ≤ i → i < stop → a i = b i

/-! ## Reads -/

section Reads

variable {file other : Bytes} {offset len : Nat} {data : List UInt8}

@[simp] theorem length_readAt (file : Bytes) (offset len : Nat) :
    (readAt file offset len).length = len := by
  simp [readAt]

theorem readAt_congr (h : Agree file other offset (offset + len)) :
    readAt file offset len = readAt other offset len := by
  apply map_congr_left
  intro i hi
  rw [mem_range] at hi
  exact h (offset + i) (by omega) (by omega)

/-- What has been written is read back. -/
theorem readAt_writeAt (file : Bytes) (offset : Nat) (data : List UInt8) :
    readAt (writeAt file offset data) offset data.length = data := by
  apply ext_getElem
  · simp
  · intro i hi hData
    simp only [readAt, getElem_map, getElem_range, writeAt]
    rw [if_pos (by omega), Nat.add_sub_cancel_left, getD_eq_getElem?_getD,
      getElem?_eq_getElem hData, Option.getD_some]

theorem agree_writeAt {start stop : Nat} (h : offset + data.length ≤ start ∨ stop ≤ offset) :
    Agree (writeAt file offset data) file start stop := by
  intro i _ _
  exact if_neg (by omega)

/-- A part of what is read. -/
theorem readAt_slice {start width : Nat} (h : start + width ≤ len) :
    ((readAt file offset len).drop start).take width = readAt file (offset + start) width := by
  apply ext_getElem
  · simp only [length_take, length_drop, length_readAt]
    omega
  · intro i hi _
    simp [readAt, Nat.add_assoc]

/-- Reading on where another read ends. -/
theorem readAt_add (file : Bytes) (offset first second : Nat) :
    readAt file offset (first + second) =
      readAt file offset first ++ readAt file (offset + first) second := by
  unfold readAt
  rw [range_add, map_append, map_map]
  congr 1
  apply map_congr_left
  intro i _
  simp [Nat.add_assoc]

theorem Agree.mono {start stop start' stop' : Nat} (h : Agree file other start stop)
    (hStart : start ≤ start') (hStop : stop' ≤ stop) : Agree file other start' stop' :=
  fun i hi hi' => h i (by omega) (by omega)

end Reads

theorem replay_append (file : Bytes) (first second : List (FileOp τ)) :
    replay file (first ++ second) = replay (replay file first) second := foldl_append

end FrankenTerm.Verified.TornFile
