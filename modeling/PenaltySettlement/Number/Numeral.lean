import PenaltySettlement.Number.Digits
import PenaltySettlement.Number.Shortest

/-!
# Numbers as they are written

A numeral holds the parts of a number in decimal notation: sign, digits before and behind the point
and a power of ten. Floating point values are written with the fewest digits that read back, either
all positional or, when very large or very small, with a power of ten.

## Main definitions

* `Numeral` — a number as written.
* `Numeral.chars` — its characters.
* `Binary64.positional`, `Binary64.compact` — the two ways of writing a floating point value.
-/

set_option autoImplicit false

namespace PenaltySettlement

/-- A power of ten as written: whether it carries a minus sign, and its digits. -/
structure PowerOfTen where
  negative : Bool
  digits : List Digit
  deriving DecidableEq, Repr

/-- A number in decimal notation. A numeral without fraction digits has no point. -/
structure Numeral where
  negative : Bool := false
  whole : List Digit
  fraction : List Digit := []
  power : Option PowerOfTen := none
  deriving DecidableEq, Repr

namespace Numeral

/-- The characters of a numeral; a power of ten is written with its sign. -/
def chars (n : Numeral) : List Char :=
  (if n.negative then ['-'] else []) ++ n.whole.map Digit.char ++
    (if n.fraction.isEmpty then [] else '.' :: n.fraction.map Digit.char) ++
    match n.power with
    | none => []
    | some p => 'e' :: (if p.negative then '-' else '+') :: p.digits.map Digit.char

/-- A numeral as text. -/
def text (n : Numeral) : String := String.ofList n.chars

/-- The numeral of an integer. -/
def ofInt (n : Int) : Numeral where
  negative := n < 0
  whole := Digits.ofNat n.natAbs

end Numeral

namespace Binary64

/-- The digits of a decimal placed around the point: `digits · 10 ^ power` in positional notation
without a zero fraction. -/
def place (negative : Bool) (digits : List Digit) (power : Int) : Numeral :=
  if 0 ≤ power then
    { negative, whole := digits ++ List.replicate power.natAbs Digit.zero }
  else
    let count := power.natAbs
    if count < digits.length then
      { negative
        whole := digits.take (digits.length - count)
        fraction := digits.drop (digits.length - count) }
    else
      { negative, whole := [.zero]
        fraction := List.replicate (count - digits.length) Digit.zero ++ digits }

/-- **Positional notation.** The shortest digits without a power of ten, and without a point when
the value is whole; a tie goes away from zero. An infinity, which has no digits, is written as
zero. -/
def positional : Binary64 → Numeral
  | .finite negative 0 _ => { negative, whole := [.zero] }
  | .finite negative significand exponent =>
    let d := shortest .away significand exponent
    place negative (Digits.ofNat d.digits) d.power
  | .infinite negative => { negative, whole := [.zero] }

/-- **Compact notation.** Positional with at least one fraction digit for values from `1e-5` up to
under `1e16`, and one digit before the point with a power of ten for the others; a tie goes to the
even digits. -/
def compact (x : Binary64) : Numeral :=
  match x with
  | .finite negative 0 _ => { negative, whole := [.zero], fraction := [.zero] }
  | .finite negative significand exponent =>
    let d := shortest .toEven significand exponent
    let digits := Digits.ofNat d.digits
    let leading : Int := digits.length + d.power - 1
    if -5 ≤ leading ∧ leading < 16 then
      let plain := place negative digits d.power
      if plain.fraction.isEmpty then { plain with fraction := [.zero] } else plain
    else
      { negative
        whole := digits.take 1
        fraction := digits.drop 1
        power := some ⟨leading < 0, Digits.ofNat leading.natAbs⟩ }
  | .infinite negative => { negative, whole := [.zero], fraction := [.zero] }

end Binary64

end PenaltySettlement
