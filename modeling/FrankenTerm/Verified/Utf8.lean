import FrankenTerm.Verified.Border

/-!
# UTF-8 strings as byte strings

A Rust `str` is a byte string that is valid UTF-8, and so is a Lean `String`;
its byte-level operations count bytes and panic off a character boundary.
This module gives `String` that byte-level interface: `bytes` is `as_bytes`,
`isCharBoundary` tests the byte the way the standard library does, and the
slices `sliceTo?` and `sliceFrom?` are `none` where the Rust index panics.

The link to validity is `isCharBoundary_iff_take` and
`isCharBoundary_iff_drop`: a boundary is exactly a cut with a valid half on
the left, and exactly a cut with a valid half on the right.

## Main results

* `sliceTo?_eq_some_iff`, `sliceFrom?_eq_some_iff` — when a slice exists.
* `isCharBoundary_of_isBorder` — a non-empty byte border ends on a boundary.
-/

namespace FrankenTerm.Verified.Utf8

open Verified.Border List

/-! ## Bytes -/

/-- `str::as_bytes`. -/
def bytes (s : String) : List UInt8 := s.toByteArray.data.toList

theorem length_bytes (s : String) : (bytes s).length = s.utf8ByteSize :=
  rfl

@[simp] theorem bytes_empty : bytes "" = [] := rfl

@[simp] theorem bytes_append (s t : String) :
    bytes (s ++ t) = bytes s ++ bytes t := by
  simp [bytes]

variable {s t : String} {i : Nat}

theorem bytes_injective (h : bytes s = bytes t) : s = t := by
  apply String.toByteArray_inj.mp
  exact ByteArray.ext (Array.toList_inj.mp h)

theorem bytes_inj : bytes s = bytes t ↔ s = t :=
  ⟨bytes_injective, congrArg bytes⟩

@[simp] theorem bytes_eq_nil : bytes s = [] ↔ s = "" := by
  rw [← bytes_empty, bytes_inj]

theorem bytes_eq_flatMap (s : String) :
    bytes s = s.toList.flatMap String.utf8EncodeChar := by
  rw [bytes, ← String.utf8Encode_toList, utf8Encode, data_toByteArray]

/-! ## Character boundaries -/

/-- The byte does not continue a character: `(b as i8) >= -0x40`. -/
def isUtf8CharBoundary (b : UInt8) : Bool := b < 0x80 || 0xC0 ≤ b

/-- `str::is_char_boundary`. -/
def isCharBoundary (s : String) (index : Nat) : Bool :=
  if index = 0 then true
  else
    match (bytes s)[index]? with
    | none => index == (bytes s).length
    | some b => isUtf8CharBoundary b

private theorem isUtf8CharBoundary_iff (b : UInt8) :
    isUtf8CharBoundary b ↔ b.toNat < 128 ∨ 192 ≤ b.toNat := by
  simp [isUtf8CharBoundary, UInt8.lt_iff_toNat_lt, UInt8.le_iff_toNat_le]

private theorem isUtf8CharBoundary_of_first (b : UInt8) (h : b.IsUTF8FirstByte) :
    isUtf8CharBoundary b := by
  have hMasked : ∀ {mask value : UInt8}, b &&& mask = value → value.toNat ≤ b.toNat := by
    rintro mask _ rfl
    rw [UInt8.toNat_and]
    exact Nat.and_le_left
  rw [isUtf8CharBoundary_iff]
  rcases h with h | h | h | h
  · have hBit := congrArg UInt8.toNat h
    rw [UInt8.toNat_and, show (128 : UInt8).toNat = 2 ^ 7 from rfl, Nat.and_two_pow,
      Nat.testBit_eq_decide_div_mod_eq] at hBit
    simp at hBit
    have hLt := b.toNat_lt
    omega
  · exact .inr (hMasked h)
  · exact .inr (Nat.le_trans (by decide) (hMasked h))
  · exact .inr (Nat.le_trans (by decide) (hMasked h))

private theorem isUtf8CharBoundary_cont (b : UInt8) :
    isUtf8CharBoundary (b &&& 0x3f ||| 0x80) = false := by
  have hLow : b.toNat &&& 63 < 2 ^ 6 := Nat.lt_of_le_of_lt Nat.and_le_right (by decide)
  have hSum : (b &&& 0x3f ||| 0x80).toNat = 2 ^ 6 * 2 + (b.toNat &&& 63) := by
    rw [Nat.two_pow_add_eq_or_of_lt hLow, Nat.or_comm, UInt8.toNat_or, UInt8.toNat_and]
    rfl
  rw [← Bool.not_eq_true, isUtf8CharBoundary_iff, hSum]
  omega

/-- Every byte of an encoded character after the first continues it. -/
private theorem isUtf8CharBoundary_of_mem_tail (c : Char) :
    ∀ x ∈ (String.utf8EncodeChar c).tail, isUtf8CharBoundary x = false := by
  rcases c.utf8Size_eq with hc | hc | hc | hc
  · simp [String.utf8EncodeChar_eq_singleton hc]
  · simp [String.utf8EncodeChar_eq_cons_cons hc, isUtf8CharBoundary_cont]
  · simp [String.utf8EncodeChar_eq_cons_cons_cons hc, isUtf8CharBoundary_cont]
  · simp [String.utf8EncodeChar_eq_cons_cons_cons_cons hc, isUtf8CharBoundary_cont]

/-- An encoded character is a first byte and the bytes that continue it. -/
theorem utf8EncodeChar_shape (c : Char) :
    ∃ b bs, String.utf8EncodeChar c = b :: bs ∧ isUtf8CharBoundary b ∧
      ∀ x ∈ bs, isUtf8CharBoundary x = false := by
  have hLen : 0 < (String.utf8EncodeChar c).length := by
    rw [String.length_utf8EncodeChar]
    exact c.utf8Size_pos
  have hFirst : isUtf8CharBoundary (String.utf8EncodeChar c)[0] := by
    apply isUtf8CharBoundary_of_first
    rw [UInt8.isUTF8FirstByte_getElem_utf8EncodeChar]
  have hRest := isUtf8CharBoundary_of_mem_tail c
  generalize String.utf8EncodeChar c = word at hLen hFirst hRest ⊢
  cases word with
  | nil => simp at hLen
  | cons b bs => exact ⟨b, bs, rfl, hFirst, hRest⟩

/-- No encoded character starts another. -/
theorem utf8EncodeChar_unique {c d : Char} {r s : List UInt8}
    (h : String.utf8EncodeChar c ++ r = String.utf8EncodeChar d ++ s) : c = d := by
  have hDecode : ∀ (a : Char) (t : List UInt8),
      ByteArray.utf8DecodeChar? (String.utf8EncodeChar a ++ t).toByteArray 0 = some a := by
    intro a t
    rw [toByteArray_append]
    exact ByteArray.utf8DecodeChar?_utf8EncodeChar_append
  have hc := hDecode c r
  rw [h, hDecode d s] at hc
  exact (Option.some.inj hc).symm

/-- A byte below `0x80` is a character of its own. -/
theorem utf8EncodeChar_of_mem {c : Char} {b : UInt8} (hb : b < 0x80)
    (h : b ∈ String.utf8EncodeChar c) : String.utf8EncodeChar c = [b] := by
  -- the bytes of a longer encoding all have the highest bit
  have hOr : ∀ byte mark : UInt8, 0x80 ≤ mark → ¬byte ||| mark < 0x80 := by
    intro byte mark hMark
    rw [UInt8.not_lt, UInt8.le_iff_toNat_le, UInt8.toNat_or]
    exact (UInt8.le_iff_toNat_le.mp hMark).trans Nat.right_le_or
  rcases c.utf8Size_eq with hc | hc | hc | hc
  · rw [String.utf8EncodeChar_eq_singleton hc, mem_singleton] at h
    rw [String.utf8EncodeChar_eq_singleton hc, h]
  · simp only [String.utf8EncodeChar_eq_cons_cons hc, mem_cons, not_mem_nil, or_false] at h
    rcases h with rfl | rfl <;> exact absurd hb (hOr _ _ (by decide))
  · simp only [String.utf8EncodeChar_eq_cons_cons_cons hc, mem_cons, not_mem_nil, or_false] at h
    rcases h with rfl | rfl | rfl <;> exact absurd hb (hOr _ _ (by decide))
  · simp only [String.utf8EncodeChar_eq_cons_cons_cons_cons hc, mem_cons, not_mem_nil,
      or_false] at h
    rcases h with rfl | rfl | rfl | rfl <;> exact absurd hb (hOr _ _ (by decide))

/-- In a valid string the one-byte test finds exactly the first bytes of
characters.  It would also accept `0xF8` to `0xFF`, which never occur. -/
private theorem isUTF8FirstByte_iff (s : String) (i : Nat) (hi : i < (bytes s).length) :
    (bytes s)[i].IsUTF8FirstByte ↔ isUtf8CharBoundary (bytes s)[i] := by
  have hmem : (bytes s)[i] ∈ s.toList.flatMap String.utf8EncodeChar := by
    rw [← bytes_eq_flatMap]
    exact getElem_mem hi
  obtain ⟨c, _, hc⟩ := mem_flatMap.mp hmem
  obtain ⟨j, hj, hget⟩ := getElem_of_mem hc
  refine ⟨isUtf8CharBoundary_of_first _, ?_⟩
  rw [← hget, UInt8.isUTF8FirstByte_getElem_utf8EncodeChar]
  intro h
  by_contra hpos
  have hTail : (String.utf8EncodeChar c)[j] ∈ (String.utf8EncodeChar c).tail := by
    rw [← drop_one, mem_drop_iff_getElem]
    exact ⟨j - 1, by omega, by congr 1; omega⟩
  rw [isUtf8CharBoundary_of_mem_tail c _ hTail] at h
  cases h

theorem isCharBoundary_iff_isValid (s : String) (i : Nat) :
    isCharBoundary s i ↔ String.Pos.Raw.IsValid s ⟨i⟩ := by
  rw [isCharBoundary]
  split
  case isTrue h0 =>
    subst h0
    simp
  case isFalse h0 =>
    rw [String.Pos.Raw.isValid_iff_isUTF8FirstByte]
    split
    case h_1 hnone =>
      have hlen := getElem?_eq_none_iff.mp hnone
      simp only [length_bytes] at hlen
      simp [String.Pos.Raw.ext_iff, String.Pos.Raw.lt_iff, length_bytes]
      omega
    case h_2 b hsome =>
      obtain ⟨hlt, rfl⟩ := List.getElem?_eq_some_iff.mp hsome
      rw [← isUTF8FirstByte_iff]
      simp only [length_bytes] at hlt
      constructor
      · intro h
        exact .inr ⟨hlt, h⟩
      · rintro (h | ⟨_, h⟩)
        · simp only [String.Pos.Raw.ext_iff, String.byteIdx_rawEndPos] at h
          omega
        · exact h

/-- Valid bytes are the bytes of a string. -/
private theorem isValidUTF8_iff {b : ByteArray} :
    b.IsValidUTF8 ↔ ∃ t : String, bytes t = b.data.toList := by
  constructor
  · intro h
    exact ⟨⟨b, h⟩, rfl⟩
  · rintro ⟨t, ht⟩
    have heq : b = t.toByteArray := ByteArray.ext (Array.toList_inj.mp ht.symm)
    rw [heq]
    exact t.isValidUTF8

/-- A boundary is a cut whose left half is valid. -/
theorem isCharBoundary_iff_take (s : String) (i : Nat) :
    isCharBoundary s i ↔
      i ≤ (bytes s).length ∧ ∃ t : String, bytes t = (bytes s).take i := by
  rw [isCharBoundary_iff_isValid, String.Pos.Raw.isValid_iff_isValidUTF8_extract_zero,
    isValidUTF8_iff]
  apply and_congr
  · simp [String.Pos.Raw.le_iff, length_bytes]
  · simp [bytes]

private theorem toList_extract_tail (s : String) (i : Nat) :
    (s.toByteArray.extract i s.utf8ByteSize).data.toList = (bytes s).drop i := by
  have hlen : ((bytes s).drop i).length ≤ s.utf8ByteSize - i := by
    rw [length_drop, length_bytes]
  rw [ByteArray.data_extract, Array.toList_extract, extract_eq_take_drop]
  exact take_of_length_le hlen

/-- A boundary is a cut whose right half is valid. -/
theorem isCharBoundary_iff_drop (s : String) (i : Nat) :
    isCharBoundary s i ↔
      i ≤ (bytes s).length ∧ ∃ t : String, bytes t = (bytes s).drop i := by
  rw [isCharBoundary_iff_isValid, String.Pos.Raw.isValid_iff_isValidUTF8_extract_utf8ByteSize,
    isValidUTF8_iff]
  apply and_congr
  · simp [String.Pos.Raw.le_iff, length_bytes]
  · rw [toList_extract_tail]

@[simp] theorem isCharBoundary_length (s : String) :
    isCharBoundary s (bytes s).length := by
  rw [isCharBoundary_iff_take]
  exact ⟨le_rfl, s, take_length.symm⟩

/-! ## Slices -/

/-- `&s[..index]`, or `none` where it panics. -/
def sliceTo? (s : String) (index : Nat) : Option String :=
  if h : isCharBoundary s index then
    some ⟨s.toByteArray.extract 0 index,
      ((isCharBoundary_iff_isValid s index).mp h).isValidUTF8_extract_zero⟩
  else none

/-- `&s[index..]`, or `none` where it panics. -/
def sliceFrom? (s : String) (index : Nat) : Option String :=
  if h : isCharBoundary s index then
    some ⟨s.toByteArray.extract index s.utf8ByteSize,
      ((isCharBoundary_iff_isValid s index).mp h).isValidUTF8_extract_utf8ByteSize⟩
  else none

theorem sliceTo?_eq_some_iff :
    sliceTo? s i = some t ↔
      isCharBoundary s i ∧ bytes t = (bytes s).take i := by
  by_cases h : isCharBoundary s i
  · rw [sliceTo?, dif_pos h, Option.some.injEq, ← bytes_inj]
    simp [bytes, h, eq_comm]
  · simp [sliceTo?, h]

theorem sliceFrom?_eq_some_iff :
    sliceFrom? s i = some t ↔
      isCharBoundary s i ∧ bytes t = (bytes s).drop i := by
  by_cases h : isCharBoundary s i
  · rw [sliceFrom?, dif_pos h, Option.some.injEq, ← bytes_inj, bytes, toList_extract_tail]
    simp [h, eq_comm]
  · simp [sliceFrom?, h]

theorem exists_sliceTo? (h : isCharBoundary s i) :
    ∃ t, sliceTo? s i = some t ∧ bytes t = (bytes s).take i := by
  obtain ⟨_, t, ht⟩ := (isCharBoundary_iff_take s i).mp h
  exact ⟨t, sliceTo?_eq_some_iff.mpr ⟨h, ht⟩, ht⟩

theorem exists_sliceFrom? (h : isCharBoundary s i) :
    ∃ t, sliceFrom? s i = some t ∧ bytes t = (bytes s).drop i := by
  obtain ⟨_, t, ht⟩ := (isCharBoundary_iff_drop s i).mp h
  exact ⟨t, sliceFrom?_eq_some_iff.mpr ⟨h, ht⟩, ht⟩

/-- A string whose bytes end another string is cut off it between
characters. -/
theorem exists_eq_append_of_suffix (h : bytes t <:+ bytes s) : ∃ front, s = front ++ t := by
  have hdrop := suffix_iff_eq_drop.mp h
  have hcut : isCharBoundary s ((bytes s).length - (bytes t).length) :=
    (isCharBoundary_iff_drop _ _).mpr ⟨Nat.sub_le _ _, t, hdrop⟩
  obtain ⟨_, front, hfront⟩ := (isCharBoundary_iff_take _ _).mp hcut
  have hsplit := take_append_drop
    ((bytes s).length - (bytes t).length) (bytes s)
  rw [← hfront, ← hdrop, ← bytes_append] at hsplit
  exact ⟨front, bytes_injective hsplit.symm⟩

/-- The two slices at one index make up the string. -/
theorem sliceTo?_append_sliceFrom? {u : String} (ht : sliceTo? s i = some t)
    (hu : sliceFrom? s i = some u) : s = t ++ u := by
  apply bytes_injective
  rw [bytes_append, (sliceTo?_eq_some_iff.mp ht).2, (sliceFrom?_eq_some_iff.mp hu).2,
    take_append_drop]

/-! ## Borders of strings -/

/-- A non-empty byte border ends on a boundary in the pattern and starts on
one in the text.  The text side holds because the first byte of the pattern
starts a character; the border is then a valid suffix of the text, so it cuts
the pattern between characters too. -/
theorem isCharBoundary_of_isBorder {pattern text : String} {k : Nat}
    (hpos : 0 < k) (h : IsBorder (bytes pattern) (bytes text) k) :
    isCharBoundary text ((bytes text).length - k) ∧
      isCharBoundary pattern k := by
  obtain ⟨hpat, htext, hdrop⟩ := isBorder_iff_drop.mp h
  have hfirst : (bytes text)[(bytes text).length - k]? = (bytes pattern)[0]? := by
    have := congrArg (fun l : List UInt8 => l[0]?) hdrop
    simpa [getElem?_take, hpos] using this
  have hbound : isCharBoundary text ((bytes text).length - k) := by
    rw [isCharBoundary]
    split
    · rfl
    · have hget : (bytes pattern)[0]? = some (bytes pattern)[0] :=
        getElem?_eq_getElem (by omega)
      rw [hfirst, hget]
      apply isUtf8CharBoundary_of_first
      exact pattern.isValidUTF8.isUTF8FirstByte_getElem_zero (by
        have : 0 < (bytes pattern).length := by omega
        exact this)
  refine ⟨hbound, (isCharBoundary_iff_take _ _).mpr ⟨hpat, ?_⟩⟩
  obtain ⟨_, t, ht⟩ := (isCharBoundary_iff_drop _ _).mp hbound
  exact ⟨t, ht.trans hdrop⟩

end FrankenTerm.Verified.Utf8
