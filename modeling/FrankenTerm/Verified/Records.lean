import Mathlib

/-!
# Numbers and records in bytes

A number is written in a fixed number of bytes, the lowest first.  A record is its length in eight
bytes, and then its bytes; a buffer of records is read from the front until a record is cut short.

## Main results

* `leNat_leBytes` — a number that fits is read back.
* `readRecords_writeRecords` — so is a buffer of records.
-/

namespace FrankenTerm.Verified.Records

open List

/-- A number in `width` bytes, the lowest first. -/
def leBytes : (width : Nat) → (n : Nat) → List UInt8
  | 0, _ => []
  | width + 1, n => UInt8.ofNat (n % 256) :: leBytes width (n / 256)

/-- The number that is written in some bytes. -/
def leNat : List UInt8 → Nat
  | [] => 0
  | b :: rest => b.toNat + 256 * leNat rest

theorem length_leBytes (width n : Nat) : (leBytes width n).length = width := by
  induction width generalizing n with
  | zero => rfl
  | succ _ ih => simp [leBytes, ih]

/-- **A number that fits is read back.** -/
theorem leNat_leBytes {width n : Nat} (h : n < 256 ^ width) : leNat (leBytes width n) = n := by
  induction width generalizing n with
  | zero =>
    have : n = 0 := by simpa using h
    simp [leBytes, leNat, this]
  | succ width ih =>
    have hRest : n / 256 < 256 ^ width := by
      rw [Nat.div_lt_iff_lt_mul (by decide), ← Nat.pow_succ]
      exact h
    have hByte : (UInt8.ofNat (n % 256)).toNat = n % 256 := by
      exact Nat.mod_eq_of_lt (Nat.mod_lt n (by decide))
    rw [leBytes, leNat, ih hRest, hByte]
    exact Nat.mod_add_div n 256

/-- Records one after the other, each behind its length. -/
def writeRecords (records : List (List UInt8)) : List UInt8 :=
  records.flatMap fun record => leBytes 8 record.length ++ record

/-- The records of a buffer; it ends where a length or a record is cut short. -/
def readRecords (data : List UInt8) : List (List UInt8) :=
  if 8 ≤ data.length then
    let len := leNat (data.take 8)
    if len ≤ (data.drop 8).length then
      (data.drop 8).take len :: readRecords ((data.drop 8).drop len)
    else []
  else []
termination_by data.length
decreasing_by simp only [List.length_drop]; omega

theorem length_writeRecords (records : List (List UInt8)) :
    (writeRecords records).length = (records.map fun record => 8 + record.length).sum := by
  induction records with
  | nil => rfl
  | cons _ _ ih =>
    rw [writeRecords, flatMap_cons, length_append, length_append, length_leBytes,
      map_cons, sum_cons, ← ih, writeRecords]

/-- **A buffer of records is read back.** -/
theorem readRecords_writeRecords {records : List (List UInt8)}
    (h : ∀ record ∈ records, record.length < 256 ^ 8) :
    readRecords (writeRecords records) = records := by
  induction records with
  | nil => simp [writeRecords, readRecords]
  | cons record rest ih =>
    have hLength : (leBytes 8 record.length).length = 8 := length_leBytes 8 _
    have hSplit : writeRecords (record :: rest) =
        leBytes 8 record.length ++ (record ++ writeRecords rest) := by
      rw [writeRecords, flatMap_cons, append_assoc, writeRecords]
    have hTake : (writeRecords (record :: rest)).take 8 = leBytes 8 record.length := by
      rw [hSplit, take_append_of_le_length (by omega), take_of_length_le (by omega)]
    have hDrop : (writeRecords (record :: rest)).drop 8 = record ++ writeRecords rest := by
      rw [hSplit, drop_append_of_le_length (by omega), drop_of_length_le (by omega), nil_append]
    have hLong : 8 ≤ (writeRecords (record :: rest)).length := by
      rw [hSplit, length_append, hLength]
      omega
    rw [readRecords, if_pos hLong]
    simp only [hTake, hDrop, leNat_leBytes (h record mem_cons_self)]
    rw [if_pos (by rw [length_append]; omega), take_left, drop_left,
      ih fun other hOther => h other (mem_cons_of_mem record hOther)]

end FrankenTerm.Verified.Records
