import PenaltySettlement.Number.Decimal

/-!
# Reading decimal amounts

An amount is read from plain notation, digits with an optional sign and an optional point, or else
from scientific notation, a plain amount with a power of ten behind `e`. Underscores may group the
digits. Fraction digits beyond what an amount can hold are rounded away at the first of them;
whole digits beyond it are refused. A zero in plain notation carries no sign, while an amount that
a negative power of ten rounds to zero keeps the one it had.

## Main definitions

* `Decimal.ofPlain?` — plain notation.
* `Decimal.ofScientific?` — scientific notation.
* `Decimal.ofText?` — either.
-/

set_option autoImplicit false

namespace PenaltySettlement.Decimal

/-- What has been read of an amount: its digits so far as a natural, how many of them stand behind
the point, and whether a point and whether a digit has been read. -/
structure Progress where
  mantissa : Nat := 0
  scale : Nat := 0
  point : Bool := false
  started : Bool := false
  deriving DecidableEq, Repr

namespace Progress

/-- The mantissa from which on digits are read one by one into ninety-six bits. Below it another
digit is sure to fit sixty-four. -/
def wideMantissa : Nat := twoPow 64 / 10 - 255

/-- The amount when nothing more is read; there has to be a digit. A zero carries no sign. -/
def finish? (negative : Bool) (p : Progress) : Option Decimal :=
  if p.started then ofParts? (negative && p.mantissa != 0) p.mantissa p.scale else none

/-- The progress with one more digit. -/
def push (p : Progress) (d : Digit) : Progress where
  mantissa := p.mantissa * 10 + d.val
  scale := if p.point then p.scale + 1 else 0
  point := p.point
  started := true

/-- The amount rounded by the first digit that it has no room for: from five on it is rounded up.
A mantissa that outgrows its room by that gives up its last digit. Only digits and underscores may
follow, and they count for nothing. -/
def round? (negative : Bool) (p : Progress) (next : Digit) (rest : List Char) : Option Decimal :=
  if !rest.all fun c => c.isDigit || c == '_' then none
  else if next.val < 5 then p.finish? negative
  else if p.mantissa + 1 < twoPow 96 then { p with mantissa := p.mantissa + 1 }.finish? negative
  else if p.scale = 0 then none
  else { p with mantissa := (p.mantissa + 5) / 10, scale := p.scale - 1 }.finish? negative

/-- The amount at the greatest scale, rounded by what follows it. A wide mantissa is rounded by the
next digit, whatever underscores stand before it; any other counts an underscore as a zero. -/
def roundBy? (negative wide : Bool) (p : Progress) : List Char → Option Decimal
  | [] => p.finish? negative
  | c :: rest =>
    match Digit.ofChar? c with
    | some d => p.round? negative d rest
    | none =>
      if c != '_' then none
      else if wide then p.roundBy? negative wide rest
      else p.round? negative .zero rest

/-- Reads digits, one point and underscores to the end of the text. At the greatest scale the rest
of the text only rounds the amount. -/
def read? (negative : Bool) (p : Progress) : List Char → Option Decimal
  | [] => p.finish? negative
  | c :: rest =>
    match Digit.ofChar? c with
    | some d =>
      let next := p.push d
      if twoPow 96 ≤ next.mantissa then if p.point then p.round? negative d rest else none
      else if p.point && greatestScale ≤ next.scale then
        next.roundBy? negative (wideMantissa ≤ p.mantissa) rest
      else next.read? negative rest
    | none =>
      if c = '.' && !p.point then { p with point := true }.read? negative rest
      else if c = '_' && p.started then p.read? negative rest
      else none

end Progress

/-- **Plain notation.** An optional sign, then digits with at most one point among them. -/
def ofPlain? : List Char → Option Decimal
  | '-' :: rest => ({} : Progress).read? true rest
  | '+' :: rest => ({} : Progress).read? false rest
  | text => ({} : Progress).read? false text

/-! ## Scientific notation -/

/-- The amount with fewer digits behind the point; the dropped digits are rounded half up. -/
def rescaled (d : Decimal) (scale : Nat) : Decimal :=
  if h : scale < d.scale then
    let unit := tenPow (d.scale - scale)
    let mantissa := d.mantissa / unit + if d.mantissa % unit * 10 / unit < 5 then 0 else 1
    if h' : mantissa < twoPow 96 then
      { d with mantissa, scale, mantissa_lt := h',
               scale_le := Nat.le_trans (Nat.le_of_lt h) d.scale_le }
    else d
  else d

/-- The natural that a text of digits stands for, a plus sign allowed in front. -/
def exponent? (text : List Char) : Option Nat :=
  let digits := if text.head? = some '+' then text.tail else text
  match Digits.span digits with
  | (d :: ds, []) => some (Digits.toNat (d :: ds))
  | _ => none

/-- The amount divided by a power of ten. -/
def shiftedDown? (d : Decimal) (power : Nat) : Option Decimal :=
  if power ≤ greatestScale then
    let base := if d.scale + power > greatestScale then d.rescaled (greatestScale - power) else d
    ofParts? base.negative base.mantissa (base.scale + power)
  else none

/-- The amount multiplied by a power of ten: the point moves, and zeros follow where it runs out of
digits. -/
def shiftedUp? (d : Decimal) (power : Nat) : Option Decimal :=
  if power ≤ greatestScale then
    if power ≤ d.scale then ofParts? d.negative d.mantissa (d.scale - power)
    else ofParts? d.negative (d.mantissa * tenPow (power - d.scale)) 0
  else none

/-- **Scientific notation.** A plain amount, `e` or `E`, and a power of ten of at most twenty-eight
in size. -/
def ofScientific? (text : List Char) : Option Decimal :=
  let isMark := fun c : Char => c == 'e' || c == 'E'
  match text.dropWhile (!isMark ·) with
  | [] => none
  | _ :: power =>
    (ofPlain? (text.takeWhile (!isMark ·))).bind fun base =>
      match power with
      | '-' :: size => (exponent? size).bind base.shiftedDown?
      | size => (exponent? size).bind base.shiftedUp?

/-- **Reading an amount.** Plain notation is tried first. -/
def ofText? (text : String) : Option Decimal :=
  (ofPlain? text.toList).or (ofScientific? text.toList)

end PenaltySettlement.Decimal
