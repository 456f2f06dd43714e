import PenaltySettlement.Number.Binary64

/-!
# The shortest decimal of a binary floating point value

A finite value is the nearest one for a whole interval of rationals. Among the decimals in that
interval the shortest one has the fewest digits, and among those of the same length it is the one
nearest to the value. Two can be equally near, so a format says which of them it takes. The search
runs over the decimal grids from coarse to fine and tests on each grid the two neighbours of the
value, in exact arithmetic.

## Main definitions

* `Tie` — which of two equally near decimals is taken.
* `ShortDecimal` — the digits of a decimal, as a natural, and the power of ten behind them.
* `Binary64.shortest` — the shortest decimal that reads back as the value.
-/

set_option autoImplicit false

namespace PenaltySettlement

/-- Which of two equally near decimals is taken: the one with the even last digit, or the one
farther from zero. -/
inductive Tie where
  | toEven
  | away
  deriving DecidableEq, Repr

/-- Whether the lower one of two equally near decimals is taken, `floor` being its digits. -/
def Tie.takesLower (tie : Tie) (floor : Nat) : Bool :=
  match tie with
  | .toEven => floor % 2 == 0
  | .away => false

/-- The decimal `digits · 10 ^ power`. -/
structure ShortDecimal where
  digits : Nat
  power : Int
  deriving DecidableEq, Repr

namespace ShortDecimal

/-- Whether `digits · 10 ^ power` lies in the interval from `low / den` to `high / den`, whose ends
belong to it when `closed` holds. -/
def within (closed : Bool) (low high den : Nat) (d : ShortDecimal) : Bool :=
  let (n, m) :=
    if d.power < 0 then (d.digits * den, tenPow d.power.natAbs)
    else (d.digits * tenPow d.power.natAbs * den, 1)
  if closed then decide (low * m ≤ n ∧ n ≤ high * m) else decide (low * m < n ∧ n < high * m)

/-- The decimal without the zeros at the end of its digits. -/
def trimmed (d : ShortDecimal) : ShortDecimal :=
  if _ : d.digits ≠ 0 ∧ d.digits % 10 = 0 then
    trimmed { digits := d.digits / 10, power := d.power + 1 }
  else d
termination_by d.digits
decreasing_by omega

end ShortDecimal

namespace Binary64

/-- The better of the two grid points around `value / den` at `10 ^ power` that lie in the
interval, if one does: the nearer one, of two equally near ones the one that `tie` says. -/
def gridPoint? (tie : Tie) (closed : Bool) (low value high den : Nat) (power : Int) :
    Option ShortDecimal :=
  let (n, m) :=
    if power < 0 then (value * tenPow power.natAbs, den) else (value, den * tenPow power.natAbs)
  let floor := n / m
  let below : ShortDecimal := ⟨floor, power⟩
  let above : ShortDecimal := ⟨floor + 1, power⟩
  match below.within closed low high den, above.within closed low high den with
  | true, true =>
    let rest := 2 * (n % m)
    some (if rest < m ∨ (rest = m ∧ tie.takesLower floor) then below else above)
  | true, false => some below
  | false, true => some above
  | false, false => none

/-- The first grid with a point in the interval, from `10 ^ power` downwards; `count` bounds the
number of grids tried. -/
def firstGrid (tie : Tie) (closed : Bool) (low value high den : Nat) : Nat → Int → ShortDecimal
  | 0, power => ⟨value / den, power⟩
  | count + 1, power =>
    match gridPoint? tie closed low value high den power with
    | some d => d
    | none => firstGrid tie closed low value high den count (power - 1)

/-- **Shortest decimal.** The shortest decimal that reads back as the value `significand ·
2 ^ exponent`, which is not zero. Twenty grids below the leading digit are enough, because
seventeen digits always tell two values apart. -/
def shortest (tie : Tie) (significand : Nat) (exponent : Int) : ShortDecimal :=
  -- The ends of the interval lie half a unit away, a quarter below a power of two.
  let narrow := significand = twoPow 52 ∧ exponent > leastExponent
  let low := 4 * significand - (if narrow then 1 else 2)
  let value := 4 * significand
  let high := 4 * significand + 2
  let scale := exponent - 2
  let factor := if scale < 0 then 1 else twoPow scale.natAbs
  let den := if scale < 0 then twoPow scale.natAbs else 1
  let (low, value, high) := (low * factor, value * factor, high * factor)
  -- The decimal exponent of the value, at most one too large.
  let bits : Int := (value.log2 : Int) - (den.log2 : Int)
  let leading := (bits * 30103).fdiv 100000 + 1
  (firstGrid tie (significand % 2 == 0) low value high den 20 leading).trimmed

end Binary64

end PenaltySettlement
