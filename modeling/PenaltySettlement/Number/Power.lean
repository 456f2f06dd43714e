/-!
# Powers of two and ten

The powers that scale binary and decimal numbers and that bound the words of a machine.

## Main definitions

* `twoPow`, `tenPow` — the powers of two and of ten.
-/

set_option autoImplicit false

namespace PenaltySettlement

/-- A power of two. -/
def twoPow (n : Nat) : Nat := Nat.pow 2 n

/-- A power of ten. -/
def tenPow (n : Nat) : Nat := Nat.pow 10 n

end PenaltySettlement
