import Mathlib.Algebra.Group.Nat.Defs
import Mathlib.Tactic.Common
import PenaltySettlement.Number.Decimal.Reader

/-!
# Amounts and their texts

The text of an amount stands for the amount, with its mantissa and its scale. Only a zero may come
back without its sign, as plain notation has no negative zero.

## Main definitions

* `Digits.onto` — a number with further digits behind its own.
* `Decimal.unsignedZero` — an amount, without its sign if it is zero.

## Main results

* `Digits.length_ofNat_le` — a number below a power of ten has no more digits than its exponent.
* `Decimal.ofText?_text` — the text of an amount is read as the amount.
-/

set_option autoImplicit false

namespace PenaltySettlement

/-! ## Digits -/

/-- A digit is read back from its character. -/
@[simp]
lemma Digit.ofChar?_char (d : Digit) : Digit.ofChar? d.char = some d := by
  have hall : ∀ d : Digit, Digit.ofChar? d.char = some d := by decide
  exact hall d

/-- A digit is no sign. -/
lemma Digit.char_ne_sign (d : Digit) : d.char ≠ '-' ∧ d.char ≠ '+' := by
  have hall : ∀ d : Digit, d.char ≠ '-' ∧ d.char ≠ '+' := by decide
  exact hall d

namespace Digits

/-- **A number with further digits** behind its own. -/
def onto (n : Nat) (ds : List Digit) : Nat := ds.foldl (fun n d => 10 * n + d.val) n

@[simp]
lemma onto_nil (n : Nat) : onto n [] = n := rfl

@[simp]
lemma onto_cons (n : Nat) (d : Digit) (ds : List Digit) :
    onto n (d :: ds) = onto (10 * n + d.val) ds := rfl

lemma onto_append (n : Nat) (ds more : List Digit) :
    onto n (ds ++ more) = onto (onto n ds) more := List.foldl_append

/-- Digits by themselves are digits behind nothing. -/
lemma toNat_eq_onto (ds : List Digit) : toNat ds = onto 0 ds := rfl

/-- Further digits do not make a number less. -/
lemma le_onto (n : Nat) (ds : List Digit) : n ≤ onto n ds := by
  induction ds generalizing n with
  | nil => exact Nat.le_refl n
  | cons d ds ih =>
    have := ih (10 * n + d.val)
    rw [onto_cons]
    omega

/-- Zeros in front do not change the value of digits. -/
lemma toNat_padded (width : Nat) (ds : List Digit) : toNat (padded width ds) = toNat ds := by
  have hzeros : ∀ count, onto 0 (List.replicate count Digit.zero) = 0 := by
    intro count
    induction count with
    | zero => rfl
    | succ count ih => exact ih
  rw [padded, toNat_eq_onto, onto_append, hzeros, toNat_eq_onto]

/-- Digits with zeros in front fill their width. -/
lemma length_padded (width : Nat) (ds : List Digit) :
    (padded width ds).length = max width ds.length := by
  simp only [padded, List.length_append, List.length_replicate]
  omega

/-- A number has a digit. -/
lemma ofNat_ne_nil (n : Nat) : ofNat n ≠ [] := by
  rw [ofNat]
  split <;> simp

/-- **A number below a power of ten** has no more digits than its exponent. -/
lemma length_ofNat_le {n width : Nat} (hwidth : 0 < width) (h : n < 10 ^ width) :
    (ofNat n).length ≤ width := by
  induction width generalizing n with
  | zero => omega
  | succ width ih =>
    rw [ofNat]
    split
    · simp
    · rename_i hlarge
      have hbound : n / 10 < 10 ^ width := by
        rw [Nat.pow_succ] at h
        omega
      have hpos : 0 < width := by
        by_contra hzero
        obtain rfl : width = 0 := by omega
        rw [Nat.pow_zero] at hbound
        omega
      have := ih hpos hbound
      simp only [List.length_append, List.length_singleton]
      omega

/-- A number below a power of ten fills the width of its exponent with zeros in front. -/
lemma length_padded_ofNat {n width : Nat} (hwidth : 0 < width) (h : n < 10 ^ width) :
    (padded width (ofNat n)).length = width := by
  have := length_ofNat_le hwidth h
  rw [length_padded]
  omega

end Digits

/-! ## Amounts -/

namespace Decimal

/-- **An amount, without its sign if it is zero.** -/
def unsignedZero (d : Decimal) : Decimal := { d with negative := d.negative && d.mantissa != 0 }

namespace Progress

/-- The digits before the point are read one after the other. -/
lemma read?_whole {negative started : Bool} {mantissa : Nat} {ds : List Digit}
    (h : Digits.onto mantissa ds < twoPow 96) (rest : List Char) :
    Progress.read? negative { mantissa, started } (ds.map Digit.char ++ rest) =
      Progress.read? negative
        { mantissa := Digits.onto mantissa ds, started := started || !ds.isEmpty } rest := by
  induction ds generalizing mantissa started with
  | nil => simp
  | cons d ds ih =>
    have hpush : ({ mantissa, started } : Progress).push d =
        { mantissa := 10 * mantissa + d.val, started := true } := by
      simp [push, Nat.mul_comm]
    have hle := Digits.le_onto (10 * mantissa + d.val) ds
    rw [Digits.onto_cons] at h
    rw [List.map_cons, List.cons_append, read?, Digit.ofChar?_char]
    dsimp only
    rw [hpush, if_neg (by dsimp only; omega)]
    simp only [Bool.false_and, Bool.false_eq_true, if_false]
    rw [ih h]
    simp

/-- The digits behind the point are read to the end, if the amount has room for them. -/
lemma read?_fraction {negative : Bool} {mantissa scale : Nat} {ds : List Digit}
    (h : Digits.onto mantissa ds < twoPow 96) (hscale : scale + ds.length ≤ greatestScale) :
    Progress.read? negative { mantissa, scale, point := true, started := true }
        (ds.map Digit.char) =
      finish? negative
        { mantissa := Digits.onto mantissa ds, scale := scale + ds.length, point := true,
          started := true } := by
  induction ds generalizing mantissa scale with
  | nil => rfl
  | cons d ds ih =>
    have hpush : ({ mantissa, scale, point := true, started := true } : Progress).push d =
        { mantissa := 10 * mantissa + d.val, scale := scale + 1, point := true,
          started := true } := by
      simp [push, Nat.mul_comm]
    have hle := Digits.le_onto (10 * mantissa + d.val) ds
    rw [Digits.onto_cons] at h
    rw [List.length_cons] at hscale ⊢
    rw [List.map_cons, read?, Digit.ofChar?_char]
    dsimp only
    rw [hpush, if_neg (by dsimp only; omega)]
    by_cases hfull : greatestScale ≤ scale + 1
    · -- There is no room for more digits, and there are none.
      obtain rfl : ds = [] := by
        rw [← List.length_eq_zero_iff]
        omega
      simp [hfull, roundBy?]
    · simp only [Bool.true_and, decide_eq_true_eq, hfull, if_false]
      rw [ih h (by omega), Digits.onto_cons, Nat.add_assoc, Nat.add_comm 1]

end Progress

/-! ### The text of an amount -/

/-- The digits of an amount: there is one before the point, as many behind it as the scale says, and
all of them are those of the mantissa. -/
lemma digits_spec (d : Decimal) : d.digits.1 ≠ [] ∧ d.digits.2.length = d.scale ∧
    Digits.onto 0 (d.digits.1 ++ d.digits.2) = d.mantissa := by
  have hlength := Digits.length_padded (d.scale + 1) (Digits.ofNat d.mantissa)
  have hvalue := Digits.toNat_padded (d.scale + 1) (Digits.ofNat d.mantissa)
  rw [Digits.toNat_ofNat, Digits.toNat_eq_onto] at hvalue
  unfold digits
  generalize Digits.padded (d.scale + 1) (Digits.ofNat d.mantissa) = all at hlength hvalue
  refine ⟨?_, ?_, ?_⟩
  · intro hnil
    have htake := congrArg List.length hnil
    simp only [List.length_take, List.length_nil] at htake
    omega
  · simp only [List.length_drop]
    omega
  · simp only [List.take_append_drop]
    exact hvalue

/-- What is written behind the sign of an amount is read with a sign. -/
lemma read?_digits (d : Decimal) (negative : Bool) :
    Progress.read? negative {} (d.digits.1.map Digit.char ++
        if d.scale = 0 then [] else '.' :: d.digits.2.map Digit.char) =
      some { d with negative := negative && d.mantissa != 0 } := by
  obtain ⟨hwhole, hfraction, hvalue⟩ := d.digits_spec
  have hbound := d.mantissa_lt
  have hscale := d.scale_le
  have hparts : ofParts? (negative && d.mantissa != 0) d.mantissa d.scale =
      some { d with negative := negative && d.mantissa != 0 } := dif_pos ⟨hbound, hscale⟩
  have hstarted : (false || !d.digits.1.isEmpty) = true := by
    cases hdigits : d.digits.1 with
    | nil => exact absurd hdigits hwhole
    | cons first others => rfl
  rw [Digits.onto_append] at hvalue
  have hle := Digits.le_onto (Digits.onto 0 d.digits.1) d.digits.2
  have hread : ∀ rest, Progress.read? negative {} (d.digits.1.map Digit.char ++ rest) =
      Progress.read? negative
        { mantissa := Digits.onto 0 d.digits.1, started := true } rest := by
    intro rest
    rw [← hstarted]
    exact Progress.read?_whole (by omega) rest
  rw [hread]
  split
  · rename_i hzero
    have hnil : d.digits.2 = [] := by rw [← List.length_eq_zero_iff, hfraction, hzero]
    rw [hnil, Digits.onto_nil] at hvalue
    rw [Progress.read?, Progress.finish?, if_pos rfl, hvalue, ← hparts, hzero]
  · have hpoint : Digit.ofChar? '.' = none := by decide
    rw [Progress.read?, hpoint]
    simp only [Bool.not_false, Bool.and_true, decide_true, if_true]
    rw [Progress.read?_fraction (by omega) (by unfold greatestScale; omega), Progress.finish?,
      if_pos rfl, hvalue, hfraction, Nat.zero_add]
    exact hparts

/-- A text that starts with a digit has no sign. -/
lemma ofPlain?_char (first : Digit) (rest : List Char) :
    ofPlain? (first.char :: rest) = Progress.read? false {} (first.char :: rest) := by
  obtain ⟨hminus, hplus⟩ := first.char_ne_sign
  unfold ofPlain?
  split
  · rename_i heq
    exact absurd (List.cons.inj heq).1 hminus
  · rename_i heq
    exact absurd (List.cons.inj heq).1 hplus
  · rfl

/-- **The text of an amount is read as the amount**, a zero without its sign.

**Proof sketch.** The digits before the point are read into the mantissa (`Progress.read?_whole`),
and those behind it as well, while the scale counts them (`Progress.read?_fraction`). There is room
for all of them since the amount has it. -/
theorem ofText?_text (d : Decimal) : ofText? d.text = some d.unsignedZero := by
  have hplain : ofPlain? d.chars = some d.unsignedZero := by
    unfold chars
    cases hsign : d.negative with
    | true =>
      have hunsigned : d.unsignedZero = { d with negative := true && d.mantissa != 0 } := by
        rw [unsignedZero, hsign]
      rw [hunsigned]
      exact d.read?_digits true
    | false =>
      have hunsigned : d.unsignedZero = { d with negative := false && d.mantissa != 0 } := by
        rw [unsignedZero, hsign]
      rw [hunsigned, ← d.read?_digits false]
      -- The text starts with a digit, which is not a sign.
      obtain ⟨hwhole, -, -⟩ := d.digits_spec
      obtain ⟨first, others, hdigits⟩ := List.exists_cons_of_ne_nil hwhole
      show ofPlain? (d.digits.1.map Digit.char ++
        if d.scale = 0 then [] else '.' :: d.digits.2.map Digit.char) = _
      rw [hdigits]
      exact ofPlain?_char first _
  rw [ofText?, text, String.toList_ofList, hplain]
  rfl

end Decimal

end PenaltySettlement
