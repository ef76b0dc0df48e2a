/-!
# Blank Characters

The characters with the Unicode property `White_Space`, and trimming by them.
A remedy name or a header name that consists of blank characters counts as
empty, and blanks may stand between the parts of a written instant.

## Main definitions

* `Text.isBlank`: Whether a character has the property.
* `Text.skipBlank`: A text without the blank characters it begins with.
* `Text.allBlank`: Whether a text holds blank characters only.

## Theorems

* `isBlank_of_isWhitespace`: The ASCII white space is blank.
-/

namespace Turnstile

namespace Text

/-- Whether a character has the property `White_Space`. -/
def isBlank (c : Char) : Bool :=
  let n := c.toNat
  (9 ≤ n && n ≤ 13) || n == 0x20 || n == 0x85 || n == 0xa0 || n == 0x1680 ||
    (0x2000 ≤ n && n ≤ 0x200a) || n == 0x2028 || n == 0x2029 || n == 0x202f ||
    n == 0x205f || n == 0x3000

/-- A text without the blank characters it begins with. -/
def skipBlank (cs : List Char) : List Char :=
  cs.dropWhile isBlank

/-- Whether a text holds blank characters only. -/
def allBlank (s : String) : Bool :=
  s.toList.all isBlank

/-- The ASCII white space is blank. -/
theorem isBlank_of_isWhitespace (c : Char) (h : c.isWhitespace = true) : isBlank c = true := by
  simp only [Char.isWhitespace, Bool.or_eq_true, decide_eq_true_eq] at h
  rcases h with ((rfl | rfl) | rfl) | rfl <;> rfl

end Text

end Turnstile
