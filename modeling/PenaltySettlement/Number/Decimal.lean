import PenaltySettlement.Number.Power
import PenaltySettlement.Number.Digits
import PenaltySettlement.Number.Binary64

/-!
# Decimal amounts

An amount is a whole number of ninety-six bits with a sign and with up to twenty-eight of its
digits behind the point. The scale and the sign are part of the amount: `1.50` and `1.5` have the
same value and different texts, and so do `-0.0` and `0.0`.

## Main definitions

* `Decimal` — the amounts.
* `Decimal.text` — the amount as text, scale kept.
* `Decimal.toBinary64` — the amount as a binary floating point value.
-/

set_option autoImplicit false

namespace PenaltySettlement

/-- A decimal amount, `± mantissa / 10 ^ scale`. -/
structure Decimal where
  negative : Bool
  mantissa : Nat
  scale : Nat
  mantissa_lt : mantissa < twoPow 96
  scale_le : scale ≤ 28
  deriving DecidableEq, Repr

namespace Decimal

/-- The greatest number of digits behind the point. -/
def greatestScale : Nat := 28

/-- The amount with the given parts, where they are in range. -/
def ofParts? (negative : Bool) (mantissa scale : Nat) : Option Decimal :=
  if h : mantissa < twoPow 96 ∧ scale ≤ 28 then
    some ⟨negative, mantissa, scale, h.1, h.2⟩
  else none

/-- The whole amount of a sixty-four bit natural. -/
def ofUInt64 (negative : Bool) (n : UInt64) : Decimal where
  negative := negative && n != 0
  mantissa := n.toNat
  scale := 0
  mantissa_lt := Nat.lt_trans n.toNat_lt (by decide)
  scale_le := by decide

instance : Inhabited Decimal := ⟨ofUInt64 false 0⟩

/-- Whether the amount is zero, of either sign and at any scale. -/
def isZero (d : Decimal) : Bool := d.mantissa == 0

/-- The digits before and behind the point. -/
def digits (d : Decimal) : List Digit × List Digit :=
  let all := Digits.padded (d.scale + 1) (Digits.ofNat d.mantissa)
  (all.take (all.length - d.scale), all.drop (all.length - d.scale))

/-- The characters of the amount: a minus sign on a negative amount, the digits before the point
and, at a scale other than zero, the point and the digits behind it. -/
def chars (d : Decimal) : List Char :=
  let (whole, fraction) := d.digits
  (if d.negative then ['-'] else []) ++ whole.map Digit.char ++
    (if d.scale = 0 then [] else '.' :: fraction.map Digit.char)

/-- The amount as text. -/
def text (d : Decimal) : String := String.ofList d.chars

/-! ## As binary floating point -/

/-- **Floating point form.** A whole amount goes to the nearest value, a zero without its sign.
Otherwise the whole and the fractional part are converted apart and added, and the sum is rounded
to the scale by multiplying, rounding to an integer and dividing, each step in floating point. -/
def toBinary64 (d : Decimal) : Binary64 :=
  if d.scale = 0 then Binary64.ofRatio (d.negative && d.mantissa != 0) d.mantissa 1
  else
    let unit := tenPow d.scale
    let whole := Binary64.ofNat (d.mantissa / unit)
    let fraction := (Binary64.ofNat (d.mantissa % unit)).div (Binary64.ofNat unit)
    let size :=
      if fraction.isZero then whole
      else
        let factor := (Binary64.ofNat 10).pow d.scale
        (((whole.add fraction).mul factor).nearestInteger).div factor
    if d.negative then size.neg else size

end Decimal

end PenaltySettlement
