import PenaltySettlement.Number.Power

/-!
# Binary floating point, sixty-four bits

Exact arithmetic on the values of the sixty-four bit binary format: a value is a sign, a
significand and a power of two, or an infinity. Every operation computes the exact rational
result and rounds it once, to the nearest representable value, a tie going to the even
significand. There is no value that is not a number: no operation used here produces one.

## Main definitions

* `Binary64` — the values.
* `Binary64.ofRatio` — the representable value nearest to a quotient of naturals.
* `Binary64.mul`, `Binary64.div`, `Binary64.add` — correctly rounded arithmetic.
* `Binary64.nearestInteger` — rounding to an integer, halves away from zero.
-/

set_option autoImplicit false

namespace PenaltySettlement

/-- A value of the format. `finite negative significand exponent` stands for
`± significand · 2 ^ exponent`; the constructors below keep the significand under `2 ^ 53`, and at
least `2 ^ 52` unless the exponent is the least one, `-1074`. -/
inductive Binary64 where
  | finite (negative : Bool) (significand : Nat) (exponent : Int)
  | infinite (negative : Bool)
  deriving DecidableEq, Repr, Inhabited

namespace Binary64

/-- The least exponent of a finite value. -/
def leastExponent : Int := -1074

/-- The greatest exponent of a finite value. -/
def greatestExponent : Int := 971

/-- Zero, with a sign. -/
def zero (negative : Bool) : Binary64 := .finite negative 0 leastExponent

/-! ## Rounding -/

/-- The quotient `num / den` scaled by `2 ^ -exponent`, as a numerator and a denominator. -/
def scaled (num den : Nat) (exponent : Int) : Nat × Nat :=
  if exponent < 0 then (num * twoPow exponent.natAbs, den) else (num, den * twoPow exponent.natAbs)

/-- The exponent whose significands of fifty-three bits reach `num / den`: the quotient scaled by
it is under `2 ^ 53`, and at least `2 ^ 52` where the least exponent allows that. -/
def exponentFor (num den : Nat) : Int :=
  let estimate := max leastExponent ((num.log2 : Int) - (den.log2 : Int) - 53)
  let (n, d) := scaled num den estimate
  if n / d < twoPow 53 then estimate else estimate + 1

/-- The natural nearest to `num / den`; a tie goes to the even one. -/
def roundHalfEven (num den : Nat) : Nat :=
  let floor := num / den
  let rest := 2 * (num % den)
  if rest < den then floor
  else if rest > den then floor + 1
  else if floor % 2 = 0 then floor else floor + 1

/-- **Nearest value.** The representable value nearest to `± num / den`, or an infinity when the
quotient rounds beyond the greatest finite value. -/
def ofRatio (negative : Bool) (num den : Nat) : Binary64 :=
  if num = 0 then zero negative
  else
    let exponent := exponentFor num den
    let (n, d) := scaled num den exponent
    let significand := roundHalfEven n d
    let (significand, exponent) :=
      if significand = twoPow 53 then (twoPow 52, exponent + 1) else (significand, exponent)
    if exponent > greatestExponent then .infinite negative
    else .finite negative significand exponent

/-- The representable value nearest to a natural. -/
def ofNat (n : Nat) : Binary64 := ofRatio false n 1

/-! ## Arithmetic -/

/-- Whether the value is an infinity. -/
def isInfinite : Binary64 → Bool
  | .finite .. => false
  | .infinite _ => true

/-- Whether the value is a zero of either sign. -/
def isZero : Binary64 → Bool
  | .finite _ m _ => m == 0
  | .infinite _ => false

/-- Whether the value carries a minus sign. -/
def isNegative : Binary64 → Bool
  | .finite s _ _ => s
  | .infinite s => s

/-- The value with its sign turned. -/
def neg : Binary64 → Binary64
  | .finite s m e => .finite (!s) m e
  | .infinite s => .infinite (!s)

/-- The size of a finite value as a numerator and a denominator; an infinity has none. -/
def ratio? : Binary64 → Option (Nat × Nat)
  | .finite _ m e => some (if e < 0 then (m, twoPow e.natAbs) else (m * twoPow e.natAbs, 1))
  | .infinite _ => none

/-- The product, rounded once. -/
def mul (a b : Binary64) : Binary64 :=
  let negative := a.isNegative != b.isNegative
  match a.ratio?, b.ratio? with
  | some (n, d), some (n', d') => ofRatio negative (n * n') (d * d')
  | _, _ => .infinite negative

/-- The quotient, rounded once; the divisor is a finite value other than zero. -/
def div (a b : Binary64) : Binary64 :=
  let negative := a.isNegative != b.isNegative
  match a.ratio?, b.ratio? with
  | some (n, d), some (n', d') => ofRatio negative (n * d') (d * n')
  | _, _ => .infinite negative

/-- The sum of two values that carry no minus sign, rounded once. -/
def add (a b : Binary64) : Binary64 :=
  match a.ratio?, b.ratio? with
  | some (n, d), some (n', d') => ofRatio false (n * d' + n' * d) (d * d')
  | _, _ => .infinite false

/-- The integer nearest to the value, a half going away from zero. -/
def nearestInteger (a : Binary64) : Binary64 :=
  match a.ratio? with
  | some (n, d) => ofRatio a.isNegative ((2 * n + d) / (2 * d)) 1
  | none => a

/-- The power `base ^ n` by repeated squaring, each product rounded. -/
def pow (base : Binary64) (n : Nat) : Binary64 :=
  go base n (ofNat 1)
where
  /-- Multiplies `result` by the remaining power of `base`. -/
  go (base : Binary64) (n : Nat) (result : Binary64) : Binary64 :=
    let result := if n % 2 = 1 then result.mul base else result
    if h : n / 2 = 0 then result else go (base.mul base) (n / 2) result
  termination_by n
  decreasing_by omega

end Binary64

end PenaltySettlement
