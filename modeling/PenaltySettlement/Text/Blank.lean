/-!
# Blank text

White space is the Unicode property White_Space. A text is blank when nothing of it is left after
white space is trimmed from both ends, that is, when all its characters are white space.

## Main definitions

* `Text.isSpace` — the property.
* `Text.trim`, `Text.isBlank` — trimming and blankness.
-/

set_option autoImplicit false

namespace PenaltySettlement.Text

/-- Whether a character has the property White_Space. -/
def isSpace (c : Char) : Bool :=
  let n := c.toNat
  (0x09 ≤ n && n ≤ 0x0d) || n == 0x20 || n == 0x85 || n == 0xa0 || n == 0x1680 ||
    (0x2000 ≤ n && n ≤ 0x200a) || n == 0x2028 || n == 0x2029 || n == 0x202f || n == 0x205f ||
    n == 0x3000

/-- Whether a text is empty after trimming. -/
def isBlank (s : String) : Bool := s.toList.all isSpace

/-- The characters without the white space at their start. -/
def trimStart (cs : List Char) : List Char := cs.dropWhile isSpace

/-- The characters without the white space at their end. -/
def trimEnd (cs : List Char) : List Char := (trimStart cs.reverse).reverse

/-- A text without the white space at its ends. -/
def trim (s : String) : String := String.ofList (trimEnd (trimStart s.toList))

end PenaltySettlement.Text
