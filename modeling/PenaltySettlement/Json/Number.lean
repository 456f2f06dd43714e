import PenaltySettlement.Json.Fault

/-!
# The value of a JSON number

A numeral without fraction and power of ten is an integer as long as it fits sixty-four bits, with
a sign or without; `-0` is none. Every other numeral is a floating point value. Its digits
accumulate in a sixty-four bit significand until the next one would not fit; from there on the
remaining digits of the same part only count. The significand is then multiplied or divided once
by a rounded power of ten, so that the result need not be the value nearest to the numeral.

## Main definitions

* `Json.Number` — an integer or a floating point value.
* `Json.Number.ofNumeral` — the value of a numeral.
* `Json.Number.numeral` — the numeral that is written for a value.
-/

set_option autoImplicit false

namespace PenaltySettlement.Json

/-- A number as a reader sees it. -/
inductive Number where
  | integer (value : Int)
  | float (value : Binary64)
  deriving DecidableEq, Repr

namespace Number

/-- The numeral that is written for a number. -/
def numeral : Number → Numeral
  | .integer value => .ofInt value
  | .float value => value.compact

/-- The number as a fault names it. -/
def found : Number → Found
  | .integer value => .integer value
  | .float value => .float value

/-- The significand after the digits that fit, and the digits that no longer do. -/
def accumulate (significand : Nat) : List Digit → Nat × List Digit
  | [] => (significand, [])
  | d :: ds =>
    if significand * 10 + d.val < twoPow 64 then accumulate (significand * 10 + d.val) ds
    else (significand, d :: ds)

/-- The greatest power of ten that a floating point value comes near. -/
def greatestPower : Nat := 308

/-- A value divided by `10 ^ power`: by the greatest power of ten again and again while the power
is beyond it and the value is not zero, and then by the rest. -/
def scaledDown (value : Binary64) (power : Nat) : Binary64 :=
  let divisor := fun n => Binary64.ofNat (tenPow n)
  if _ : power ≤ greatestPower then value.div (divisor power)
  else if value.isZero then value
  else scaledDown (value.div (divisor greatestPower)) (power - greatestPower)
termination_by power
decreasing_by
  simp only [greatestPower] at *
  omega

/-- The floating point value `significand · 10 ^ power`. -/
def ofParts (significand : Nat) (power : Int) : Except Fault Binary64 :=
  let value := Binary64.ofNat significand
  if power < 0 then .ok (scaledDown value power.natAbs)
  else if power.natAbs ≤ greatestPower then
    let value := value.mul (Binary64.ofNat (tenPow power.natAbs))
    if value.isInfinite then .error .numberOutOfRange else .ok value
  else if significand = 0 then .ok value
  else .error .numberOutOfRange

/-- The value with the sign of a numeral. -/
def signed (negative : Bool) (value : Binary64) : Number :=
  .float (if negative then value.neg else value)

/-- **Value of a numeral.** A power of ten of more than thirty-one bits is refused, or makes the
value zero, without a look at the rest. -/
def ofNumeral (n : Numeral) : Except Fault Number :=
  let (significand, excess) := accumulate 0 n.whole
  if n.fraction.isEmpty ∧ n.power.isNone ∧ excess.isEmpty then
    if !n.negative then .ok (.integer significand)
    else if 0 < significand ∧ significand ≤ twoPow 63 then .ok (.integer (-(significand : Int)))
    else .ok (signed true (Binary64.ofNat significand))
  else
    let (significand, dropped) := accumulate significand n.fraction
    let power : Int := excess.length - (n.fraction.length - dropped.length : Nat)
    match n.power with
    | none => (ofParts significand power).map (signed n.negative)
    | some p =>
      let size := Digits.toNat p.digits
      if size < twoPow 31 then
        (ofParts significand (if p.negative then power - size else power + size)).map
          (signed n.negative)
      else if significand ≠ 0 ∧ !p.negative then .error .numberOutOfRange
      else .ok (signed n.negative (Binary64.zero false))

end Number

end PenaltySettlement.Json
