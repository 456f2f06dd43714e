/-!
# Tables of code points

A property of characters is given by runs of code points. A table of them is written as a text: the
ends of each run in hexadecimal with a hyphen between them, or one code point alone, and blanks and
line breaks between the runs.

## Main definitions

* `Text.Run` — a run of code points.
* `Text.runs` — the runs that a text stands for.
-/

set_option autoImplicit false

namespace PenaltySettlement.Text

/-- The value of a hexadecimal digit, lower case. -/
def hexDigitValue (c : Char) : Nat := if c.isDigit then c.toNat - 48 else c.toNat - 87

/-- The value of a hexadecimal numeral, lower case. -/
def hexValue (digits : List Char) : Nat := digits.foldl (fun n c => 16 * n + hexDigitValue c) 0

/-- The words of a text, which blanks and line breaks divide. -/
def words (text : String) : List (List Char) :=
  (text.toList.splitOnP Char.isWhitespace).filter (!·.isEmpty)

/-- A run of code points, both ends included. -/
structure Run where
  first : Nat
  last : Nat
  deriving DecidableEq, Repr

namespace Run

/-- Whether a character is in the run. -/
def contains (run : Run) (c : Char) : Bool := run.first ≤ c.toNat && c.toNat ≤ run.last

/-- The run that a text such as `300-36f` or `5bf` stands for. -/
def ofChars (cs : List Char) : Run :=
  let first := cs.takeWhile (· != '-')
  let last := (cs.dropWhile (· != '-')).drop 1
  { first := hexValue first, last := hexValue (if last.isEmpty then first else last) }

end Run

/-- The runs that a text stands for. -/
def runs (text : String) : List Run := (words text).map Run.ofChars

end PenaltySettlement.Text
