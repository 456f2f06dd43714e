/-!
# Decimal digits

Naturals written in base ten, as lists of digits with the most significant one first.

## Main definitions

* `Digit` — a decimal digit.
* `Digits.ofNat`, `Digits.toNat` — the numeral of a natural and the value of a numeral.
* `Digits.text` — a numeral as text.
-/

set_option autoImplicit false

namespace PenaltySettlement

/-- A decimal digit. -/
abbrev Digit := Fin 10

/-- The digit zero. -/
def Digit.zero : Digit := ⟨0, by decide⟩

/-- The digit that a character stands for. -/
def Digit.ofChar? (c : Char) : Option Digit :=
  if h : 48 ≤ c.toNat ∧ c.toNat ≤ 57 then some ⟨c.toNat - 48, by omega⟩ else none

/-- The character of a digit. -/
def Digit.char (d : Digit) : Char := Char.ofNat (48 + d.val)

namespace Digits

/-- The numeral of a natural, without leading zeros. -/
def ofNat (n : Nat) : List Digit :=
  if n < 10 then [⟨n % 10, by omega⟩] else ofNat (n / 10) ++ [⟨n % 10, by omega⟩]
termination_by n
decreasing_by omega

/-- The value of a numeral. -/
def toNat (ds : List Digit) : Nat := ds.foldl (fun n d => 10 * n + d.val) 0

/-- A numeral as text. -/
def text (ds : List Digit) : String := String.ofList (ds.map Digit.char)

/-- The numeral with zeros in front up to a width. -/
def padded (width : Nat) (ds : List Digit) : List Digit :=
  List.replicate (width - ds.length) Digit.zero ++ ds

/-- The digits at the start of a text, and the text behind them. -/
def span : List Char → List Digit × List Char
  | [] => ([], [])
  | c :: rest =>
    match Digit.ofChar? c with
    | some d => ((d :: (span rest).1), (span rest).2)
    | none => ([], c :: rest)

/-! ## Lemmas -/

@[simp]
theorem toNat_append (ds : List Digit) (d : Digit) : toNat (ds ++ [d]) = 10 * toNat ds + d := by
  simp [toNat, List.foldl_append]

/-- **Round trip.** The value of the numeral of a natural is that natural. -/
@[simp]
theorem toNat_ofNat (n : Nat) : toNat (ofNat n) = n := by
  induction n using Nat.strongRecOn with
  | _ n ih =>
    rw [ofNat]
    split
    · simp [toNat]; omega
    · rw [toNat_append, ih (n / 10) (by omega)]
      exact Nat.div_add_mod n 10

end Digits

end PenaltySettlement
