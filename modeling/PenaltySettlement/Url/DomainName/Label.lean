import PenaltySettlement.Text.Composition
import PenaltySettlement.Text.Direction
import PenaltySettlement.Text.Joining
import PenaltySettlement.Url.DomainName.Mapping
import PenaltySettlement.Url.Punycode

/-!
# Labels of domain names

The labels of a domain name are the texts between its dots. A label with characters beyond ASCII is
written in ASCII behind `xn--`, and one that is found so written counts as the label that it stands
for. A label does not start with a mark, has invisible joiners only where they change how letters
are drawn, and has a bounded length. Where letters of a name run from right to left, every label of
the name has to run in one direction.

## Main definitions

* `DomainName.Label` — a label as it counts and as it is written.
* `DomainName.Label.read?` — the label of a text.
* `DomainName.isDirected` — whether a label runs in one direction.
-/

set_option autoImplicit false

namespace PenaltySettlement.DomainName

open Text

/-! ## Joiners -/

/-- The mark class of the signs that take the vowel from a consonant. -/
def vowelKiller : Nat := 9

/-- Whether the first character that is not joined across joins to the given side or to both. -/
def joins (side : Joining) (text : List Char) : Bool :=
  match (text.map Joining.ofChar).find? (· != .transparent) with
  | some joining => joining == side || joining == .both
  | none => false

/-- Whether a character may stand between the text before it, held in reverse, and the text behind
it. A joiner follows a sign that takes a vowel away; a non-joiner may also part two letters that
would join. -/
def fits (before : List Char) (c : Char) (behind : List Char) : Bool :=
  if c = '\u200c' ∨ c = '\u200d' then
    (before.head?.any fun mark => combiningClass mark == vowelKiller) ||
      (c == '\u200c' && joins .behind before && joins .before behind)
  else true

/-- Whether every character fits where it is; `before` is the text before them, in reverse. -/
def allFit (before : List Char) : List Char → Bool
  | [] => true
  | c :: behind => fits before c behind && allFit (c :: before) behind

/-! ## Direction -/

/-- The parts of characters that a text from left to right is made of. -/
def leftToRightParts : List Direction :=
  [.leftToRight, .number, .numberSeparator, .commonSeparator, .numberTerminator, .neutral,
    .boundary, .mark]

/-- The parts of characters that a text from right to left is made of. -/
def rightToLeftParts : List Direction :=
  [.rightToLeft, .arabicLetter, .arabicNumber, .number, .numberSeparator, .commonSeparator,
    .numberTerminator, .neutral, .boundary, .mark]

/-- The parts that make a name one with letters from right to left. -/
def turning : List Direction := [.rightToLeft, .arabicLetter, .arabicNumber]

/-- Whether a label runs in one direction: it starts with a letter, ends with a letter or a number
of the same direction, marks apart, and all its characters go with that direction. From right to
left there are numbers of one kind only. -/
def isDirected (label : List Char) : Bool :=
  let parts := label.map Direction.ofChar
  let last := parts.reverse.find? (· != .mark)
  match parts.head? with
  | none => true
  | some .leftToRight =>
    parts.all leftToRightParts.contains && last.any [.leftToRight, .number].contains
  | some .rightToLeft | some .arabicLetter =>
    parts.all rightToLeftParts.contains &&
      last.any [.rightToLeft, .arabicLetter, .number, .arabicNumber].contains &&
      !(parts.contains .number && parts.contains .arabicNumber)
  | some _ => false

/-! ## Labels -/

/-- A label as it counts and as it is written in ASCII. -/
structure Label where
  text : List Char
  written : List Char
  deriving DecidableEq, Repr

namespace Label

/-- The start of labels that stand for others. -/
def start : List Char := ['x', 'n', '-', '-']

/-- Whether all characters are ASCII. -/
def isAscii (text : List Char) : Bool := text.all fun c => c.toNat < 128

/-- The greatest length of a label beyond ASCII. -/
def greatestLength : Nat := 1000

/-- The greatest length of a written label behind its start. -/
def greatestWrittenLength : Nat := 2000

/-- The text that a written label stands for, the start left out: one that stands for itself in a
name and is composed. -/
def unwritten? (code : List Char) : Option (List Char) :=
  if isAscii code ∧ code.length ≤ greatestWrittenLength ∧ (code.getLast?.any (· != '-')) then
    (Punycode.decode? code).filter fun text =>
      (text.all fun c => mapped? c == some [c]) && composed text == text
  else none

/-- Whether a text can be a label. -/
def isSound (text : List Char) : Bool :=
  !text.head?.any isMark && allFit [] text && (isAscii text || text.length ≤ greatestLength)

/-- The label of a text that has been mapped and composed. -/
def read? (text : List Char) : Option Label :=
  let label? :=
    if start.isPrefixOf text then
      (unwritten? (text.drop start.length)).map fun plain => { text := plain, written := text }
    else
      some { text, written := if isAscii text then text else start ++ Punycode.encode text }
  label?.filter fun label => isSound label.text

end Label

end PenaltySettlement.DomainName
