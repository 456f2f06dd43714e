import PenaltySettlement.Json.Codec
import PenaltySettlement.Proofs.AmountText

/-!
# Numbers in a JSON text

A number of a JSON text has at least one digit before the point, none of them a needless zero, and
at least one behind a point or a sign of power. It is read as the numeral of its parts in front of
whatever does not go on with it. What is written for a numeral is such a number exactly when the
parts of the numeral are proper, and an integer of sixty-four bits is read from its numeral again.

## Main definitions

* `Json.NumberText` — how a numeral may stand in a text, its sign apart.
* `Json.NumberEnds` — what follows does not go on with a number.
* `Numeral.Proper` — a numeral that can be written.

## Main results

* `Json.lexNumber_append` — a number is read in front of what does not go on with it.
* `Json.numberText_magnitude`, `Json.proper_of_lexNumber` — what is written for a numeral is a
  number if the numeral is proper, and no other one is read.
* `Json.Number.bounds_of_ofNumeral`, `Json.Number.ofNumeral_ofInt` — the integers that are read, and
  that they are read back from their numerals.
-/

set_option autoImplicit false

namespace PenaltySettlement

/-- **A numeral that can be written**: there is a digit before the point, a zero only if it is the
only one, and a digit behind the sign of a power. -/
structure Numeral.Proper (n : Numeral) : Prop where
  whole_ne_nil : n.whole ≠ []
  length_of_zero : n.whole.head? = some Digit.zero → n.whole.length = 1
  power_ne_nil : ∀ p ∈ n.power, p.digits ≠ []

namespace Json

/-! ## The parts of a number -/

/-- The bytes of digits. -/
def digitBytes (ds : List Digit) : List UInt8 := ds.map fun d => ascii d.char

/-- The digits behind the point, which stands there only if there are any. -/
inductive FractionText : List Digit → List UInt8 → Prop
  | absent : FractionText [] []
  | present {ds : List Digit} : ds ≠ [] → FractionText ds (ascii '.' :: digitBytes ds)

/-- The sign of a power of ten, a plus or none if it is not negative. -/
inductive SignText : Bool → List UInt8 → Prop
  | absent : SignText false []
  | plus : SignText false [ascii '+']
  | minus : SignText true [ascii '-']

/-- A power of ten, behind a small or a capital letter. -/
inductive PowerText : Option PowerOfTen → List UInt8 → Prop
  | absent : PowerText none []
  | present {p : PowerOfTen} {mark : UInt8} {sign : List UInt8} :
      mark = ascii 'e' ∨ mark = ascii 'E' → SignText p.negative sign → p.digits ≠ [] →
      PowerText (some p) (mark :: (sign ++ digitBytes p.digits))

/-- **How a numeral stands in a text**, its sign apart. -/
inductive NumberText (n : Numeral) : List UInt8 → Prop
  | intro {fraction power : List UInt8} : n.whole ≠ [] →
      (n.whole.head? = some Digit.zero → n.whole.length = 1) → FractionText n.fraction fraction →
      PowerText n.power power → NumberText n (digitBytes n.whole ++ (fraction ++ power))

/-- Whether a number goes on with a byte. -/
def goesOn (b : UInt8) : Bool :=
  (digit? b).isSome || b == ascii '.' || b == ascii 'e' || b == ascii 'E'

/-- **What follows does not go on with a number.** -/
def NumberEnds (rest : List UInt8) : Prop := ∀ b ∈ rest.head?, goesOn b = false

/-- What follows digits is no digit. -/
def DigitsEnd (rest : List UInt8) : Prop := ∀ b ∈ rest.head?, digit? b = none

/-- A digit by its byte: it is the digit, and nothing else starts with it. -/
lemma digit?_ascii (d : Digit) :
    digit? (ascii d.char) = some d ∧ mark? (ascii d.char) = none ∧ word? (ascii d.char) = none ∧
      ascii d.char ≠ ascii '"' ∧ ascii d.char ≠ ascii '-' ∧ ascii d.char ≠ ascii '+' ∧
      isBlank (ascii d.char) = false := by
  have hall : ∀ d : Digit, digit? (ascii d.char) = some d ∧ mark? (ascii d.char) = none ∧
      word? (ascii d.char) = none ∧ ascii d.char ≠ ascii '"' ∧ ascii d.char ≠ ascii '-' ∧
      ascii d.char ≠ ascii '+' ∧ isBlank (ascii d.char) = false := by
    decide
  exact hall d

/-- A byte with which a number does not go on is none of those with which it would. -/
lemma of_goesOn_eq_false {b : UInt8} (h : goesOn b = false) :
    digit? b = none ∧ b ≠ ascii '.' ∧ b ≠ ascii 'e' ∧ b ≠ ascii 'E' := by
  simpa [goesOn, and_assoc] using h

lemma NumberEnds.digitsEnd {rest : List UInt8} (h : NumberEnds rest) : DigitsEnd rest :=
  fun b hb => (of_goesOn_eq_false (h b hb)).1

/-! ## Reading the parts -/

/-- Digits are read up to what is none. -/
lemma digits_append (ds : List Digit) {rest : List UInt8} (h : DigitsEnd rest) :
    digits (digitBytes ds ++ rest) = (ds, rest) := by
  induction ds with
  | nil =>
    cases rest with
    | nil => rfl
    | cons b rest =>
      show digits (b :: rest) = _
      rw [digits, h b rfl]
  | cons d ds ih =>
    show digits (ascii d.char :: (digitBytes ds ++ rest)) = _
    rw [digits, (digit?_ascii d).1, ih]

/-- Digits are read where there have to be some. -/
lemma lexDigits_append {ds : List Digit} (hds : ds ≠ []) {rest : List UInt8} (h : DigitsEnd rest) :
    lexDigits (digitBytes ds ++ rest) = .ok (ds, rest) := by
  cases ds with
  | nil => exact absurd rfl hds
  | cons d ds => rw [lexDigits, digits_append _ h, List.isEmpty_cons, if_neg Bool.false_ne_true]

/-- A fraction is read in front of what does not go on with it. -/
lemma FractionText.lexFraction {ds : List Digit} {bytes rest : List UInt8}
    (h : FractionText ds bytes) (hdigits : DigitsEnd rest)
    (hpoint : ∀ b ∈ rest.head?, b ≠ ascii '.') :
    lexFraction (bytes ++ rest) = .ok (ds, rest) := by
  cases h with
  | absent =>
    cases rest with
    | nil => rfl
    | cons b rest => exact if_neg (hpoint b rfl)
  | present hds =>
    rw [List.cons_append, Json.lexFraction, if_pos rfl]
    exact lexDigits_append hds hdigits

/-- The sign of a power is read in front of its digits. -/
lemma SignText.lexSign {negative : Bool} {sign : List UInt8} (h : SignText negative sign)
    {ds : List Digit} (hds : ds ≠ []) (rest : List UInt8) :
    lexSign (sign ++ (digitBytes ds ++ rest)) = (negative, digitBytes ds ++ rest) := by
  obtain ⟨d, ds, rfl⟩ := List.exists_cons_of_ne_nil hds
  obtain ⟨-, -, -, -, hminus, hplus, -⟩ := digit?_ascii d
  cases h with
  | absent =>
    show Json.lexSign (ascii d.char :: (digitBytes ds ++ rest)) = _
    rw [Json.lexSign, if_neg hminus, if_neg hplus]
    rfl
  | plus => rfl
  | minus => rfl

/-- A power of ten is read in front of what does not go on with it. -/
lemma PowerText.lexPower {power : Option PowerOfTen} {bytes rest : List UInt8}
    (h : PowerText power bytes) (hrest : NumberEnds rest) :
    lexPower (bytes ++ rest) = .ok (power, rest) := by
  cases h with
  | absent =>
    cases rest with
    | nil => rfl
    | cons b rest =>
      obtain ⟨-, -, hsmall, hcapital⟩ := of_goesOn_eq_false (hrest b rfl)
      exact if_neg (not_or.2 ⟨hsmall, hcapital⟩)
  | @present p mark sign hmark hsign hdigits =>
    rw [List.cons_append, List.append_assoc, Json.lexPower, if_pos hmark,
      hsign.lexSign hdigits rest]
    dsimp only
    rw [lexDigits_append hdigits hrest.digitsEnd]
    rfl

/-- A power of ten starts with neither a digit nor a point. -/
lemma PowerText.head {power : Option PowerOfTen} {bytes rest : List UInt8}
    (h : PowerText power bytes) (hrest : NumberEnds rest) :
    DigitsEnd (bytes ++ rest) ∧ ∀ b ∈ (bytes ++ rest).head?, b ≠ ascii '.' := by
  cases h with
  | absent => exact ⟨hrest.digitsEnd, fun b hb => (of_goesOn_eq_false (hrest b hb)).2.1⟩
  | @present p mark sign hmark =>
    have hfirst : digit? mark = none ∧ mark ≠ ascii '.' := by
      rcases hmark with rfl | rfl <;> decide
    refine ⟨fun b hb => ?_, fun b hb => ?_⟩ <;> obtain rfl := Option.some.inj hb
    · exact hfirst.1
    · exact hfirst.2

/-- A fraction does not start with a digit. -/
lemma FractionText.digitsEnd {ds : List Digit} {bytes rest : List UInt8}
    (h : FractionText ds bytes) (hrest : DigitsEnd rest) : DigitsEnd (bytes ++ rest) := by
  cases h with
  | absent => exact hrest
  | present hds =>
    intro b hb
    obtain rfl := Option.some.inj hb
    decide

/-- **A number is read in front of what does not go on with it.** -/
theorem lexNumber_append {n : Numeral} {bytes rest : List UInt8} (h : NumberText n bytes)
    (hrest : NumberEnds rest) : lexNumber n.negative (bytes ++ rest) = .ok (n, rest) := by
  obtain ⟨hwhole, hzero, hfraction, hpower⟩ := h
  rename_i fraction power
  obtain ⟨hdigits, hpoint⟩ := hpower.head hrest
  have hzero' : ¬(n.whole.head? = some Digit.zero ∧ 1 < n.whole.length) := by
    rintro ⟨hhead, hlength⟩
    have := hzero hhead
    omega
  rw [List.append_assoc, List.append_assoc, lexNumber,
    lexDigits_append hwhole (hfraction.digitsEnd hdigits)]
  show (if _ then _ else _) = _
  rw [if_neg hzero', hfraction.lexFraction hdigits hpoint]
  show (lexPower _).map _ = _
  rw [hpower.lexPower hrest]
  rfl

/-! ## What is written for a numeral -/

/-- The point and the digits behind it, as they are written. -/
def fractionBytes (ds : List Digit) : List UInt8 :=
  if ds.isEmpty then [] else ascii '.' :: digitBytes ds

/-- A power of ten, as it is written. -/
def powerBytes : Option PowerOfTen → List UInt8
  | none => []
  | some p => ascii 'e' :: ascii (if p.negative then '-' else '+') :: digitBytes p.digits

/-- What is written for a numeral, its sign apart. -/
def magnitude (n : Numeral) : List UInt8 :=
  digitBytes n.whole ++ (fractionBytes n.fraction ++ powerBytes n.power)

/-- A number is written with its sign in front. -/
lemma bytes_number (n : Numeral) :
    (Token.number n).bytes = (if n.negative then [ascii '-'] else []) ++ magnitude n := by
  obtain ⟨negative, whole, fraction, power⟩ := n
  have hsign : (if negative then ['-'] else []).map ascii =
      if negative then [ascii '-'] else [] := by
    split <;> rfl
  have hfraction : (if fraction.isEmpty then [] else '.' :: fraction.map Digit.char).map ascii =
      fractionBytes fraction := by
    rw [fractionBytes]
    split
    · rfl
    · rw [List.map_cons, List.map_map]
      rfl
  show (Numeral.chars _).map ascii = _
  cases power with
  | none =>
    simp only [Numeral.chars, List.map_append, List.map_map, hsign, hfraction, magnitude,
      List.append_assoc]
    rfl
  | some p =>
    simp only [Numeral.chars, List.map_append, List.map_cons, List.map_map, hsign, hfraction,
      magnitude, List.append_assoc]
    rfl

/-- The fraction of a numeral is one of a text. -/
lemma fractionText_fractionBytes (ds : List Digit) : FractionText ds (fractionBytes ds) := by
  cases ds with
  | nil => exact .absent
  | cons d ds => exact .present (List.cons_ne_nil d ds)

/-- The power of a proper numeral is one of a text. -/
lemma powerText_powerBytes {power : Option PowerOfTen} (h : ∀ p ∈ power, p.digits ≠ []) :
    PowerText power (powerBytes power) := by
  cases power with
  | none => exact .absent
  | some p =>
    have hsign : SignText p.negative [ascii (if p.negative then '-' else '+')] := by
      cases p.negative with
      | false => exact .plus
      | true => exact .minus
    exact .present (.inl rfl) hsign (h p rfl)

/-- **A proper numeral is written as a number.** -/
theorem numberText_magnitude {n : Numeral} (h : n.Proper) : NumberText n (magnitude n) :=
  .intro h.whole_ne_nil h.length_of_zero (fractionText_fractionBytes n.fraction)
    (powerText_powerBytes h.power_ne_nil)

/-- What is written for a power of ten starts with neither a digit nor a point. -/
lemma head_powerBytes (power : Option PowerOfTen) :
    DigitsEnd (powerBytes power) ∧ ∀ b ∈ (powerBytes power).head?, b ≠ ascii '.' := by
  cases power with
  | none => exact ⟨nofun, nofun⟩
  | some p =>
    have hletter : digit? (ascii 'e') = none ∧ ascii 'e' ≠ ascii '.' := by decide
    refine ⟨fun b hb => ?_, fun b hb => ?_⟩ <;> obtain rfl := Option.some.inj hb
    · exact hletter.1
    · exact hletter.2

/-- What is written behind the digits before the point starts with none. -/
lemma digitsEnd_written (fraction : List Digit) (power : Option PowerOfTen) :
    DigitsEnd (fractionBytes fraction ++ powerBytes power) :=
  (fractionText_fractionBytes fraction).digitsEnd (head_powerBytes power).1

/-- **No other numeral is read** from what is written for it. -/
theorem proper_of_lexNumber {negative : Bool} {n : Numeral} {read : Numeral × List UInt8}
    (h : lexNumber negative (magnitude n) = .ok read) : n.Proper := by
  obtain ⟨_, whole, fraction, power⟩ := n
  have hpower : ∀ {ds rest}, lexPower (powerBytes power) = .ok (ds, rest) →
      ∀ p ∈ power, p.digits ≠ [] := by
    rintro ds rest hread p rfl hdigits
    rw [powerBytes, hdigits] at hread
    cases hsign : p.negative <;> rw [hsign] at hread <;> cases hread
  cases whole with
  | nil =>
    rw [magnitude, lexNumber, lexDigits] at h
    dsimp only at h
    rw [digits_append [] (digitsEnd_written fraction power)] at h
    cases h
  | cons d ds =>
    rw [magnitude, lexNumber,
      lexDigits_append (List.cons_ne_nil d ds) (digitsEnd_written fraction power)] at h
    simp only [Except.bind] at h
    split at h
    · cases h
    · rename_i hzero
      refine ⟨List.cons_ne_nil d ds, fun hhead => ?_, ?_⟩
      · have hlength : ¬1 < (d :: ds).length := fun hlength => hzero ⟨hhead, hlength⟩
        rw [List.length_cons] at hlength ⊢
        omega
      · -- The fraction is read as it is, so that the power is read from what is written for it.
        obtain ⟨hdigits, hpoint⟩ := head_powerBytes power
        have hfraction := (fractionText_fractionBytes fraction).lexFraction hdigits hpoint
        rw [hfraction] at h
        cases hread : lexPower (powerBytes power) with
        | error what =>
          simp only [hread] at h
          cases h
        | ok found => exact hpower hread

/-! ## The token of a number -/

/-- **A number is read as its token**, from its first byte on and in front of what does not go on
with it. -/
theorem NumberText.exists_lexToken {n : Numeral} {bytes : List UInt8} (h : NumberText n bytes) :
    ∃ b tail, (if n.negative then [ascii '-'] else []) ++ bytes = b :: tail ∧
      isBlank b = false ∧
      ∀ rest, NumberEnds rest → lexToken b (tail ++ rest) = .ok (.number n, rest) := by
  have hread : ∀ rest, NumberEnds rest → lexNumber n.negative (bytes ++ rest) = .ok (n, rest) :=
    fun rest hrest => lexNumber_append h hrest
  cases hnegative : n.negative with
  | true =>
    rw [hnegative] at hread
    refine ⟨ascii '-', bytes, rfl, by decide, fun rest hrest => ?_⟩
    have hmark : mark? (ascii '-') = none ∧ word? (ascii '-') = none := by decide
    simp only [lexToken, hmark.1, hmark.2, if_neg (by decide : ascii '-' ≠ ascii '"'), if_true,
      hread rest hrest]
    rfl
  | false =>
    rw [hnegative] at hread
    obtain ⟨hwhole, -, -, -⟩ := h
    rename_i fraction power
    obtain ⟨d, ds, hds⟩ := List.exists_cons_of_ne_nil hwhole
    obtain ⟨hdigit, hmark, hword, hquote, hminus, -, hblank⟩ := digit?_ascii d
    rw [hds] at hread ⊢
    refine ⟨ascii d.char, digitBytes ds ++ (fraction ++ power), rfl, hblank, fun rest hrest => ?_⟩
    have hlex : lexNumber false (ascii d.char :: (digitBytes ds ++ (fraction ++ power) ++ rest)) =
        .ok (n, rest) := hread rest hrest
    simp only [lexToken, hmark, hword, if_neg hquote, if_neg hminus, hdigit, Option.isSome_some,
      if_true, hlex]
    rfl

end Json

/-! ## Integers -/

/-- A number whose digits start with a zero is zero. -/
lemma Digits.eq_zero_of_head? {n : Nat} (h : (ofNat n).head? = some Digit.zero) : n = 0 := by
  induction n using Nat.strongRecOn with
  | _ n ih =>
    rw [ofNat] at h
    split at h
    · have hdigit : n % 10 = 0 := congrArg Fin.val (Option.some.inj h)
      omega
    · rename_i hlarge
      rw [List.head?_append, Option.or_of_isSome (List.isSome_head?.2 (ofNat_ne_nil (n / 10)))] at h
      have := ih (n / 10) (by omega) h
      omega

/-- The numeral of an integer is proper. -/
lemma Numeral.proper_ofInt (k : Int) : (ofInt k).Proper where
  whole_ne_nil := Digits.ofNat_ne_nil k.natAbs
  length_of_zero := by
    intro hzero
    have hnat := Digits.eq_zero_of_head? hzero
    rw [ofInt, hnat, Digits.ofNat, if_pos (by decide), List.length_singleton]
  power_ne_nil := nofun

namespace Json.Number

/-- Digits that fit are accumulated to the end. -/
lemma accumulate_of_lt {significand : Nat} {ds : List Digit}
    (h : Digits.onto significand ds < twoPow 64) :
    accumulate significand ds = (Digits.onto significand ds, []) := by
  induction ds generalizing significand with
  | nil => rfl
  | cons d ds ih =>
    rw [Digits.onto_cons] at h
    have hle := Digits.le_onto (10 * significand + d.val) ds
    rw [Nat.mul_comm] at h hle
    rw [accumulate, if_pos (Nat.lt_of_le_of_lt hle h), ih h, Digits.onto_cons, Nat.mul_comm]

/-- What is accumulated fits sixty-four bits. -/
lemma accumulate_lt {significand : Nat} (ds : List Digit) (h : significand < twoPow 64) :
    (accumulate significand ds).1 < twoPow 64 := by
  induction ds generalizing significand with
  | nil => exact h
  | cons d ds ih =>
    rw [accumulate]
    split
    · rename_i hfits
      exact ih hfits
    · exact h

/-- **An integer that is read has sixty-four bits**, with a sign or without. -/
theorem bounds_of_ofNumeral {n : Numeral} {k : Int} (h : ofNumeral n = .ok (.integer k)) :
    -(twoPow 63 : Int) ≤ k ∧ k < twoPow 64 := by
  have hlt := accumulate_lt n.whole (by decide : 0 < twoPow 64)
  have hfloat : ∀ outcome : Except Fault Binary64,
      outcome.map (signed n.negative) ≠ .ok (.integer k) := by
    intro outcome heq
    cases outcome <;> cases heq
  unfold ofNumeral at h
  dsimp only at h
  split at h
  · split at h
    · cases h
      omega
    · split at h
      · cases h
        omega
      · cases h
  · split at h
    · exact absurd h (hfloat _)
    · split at h
      · exact absurd h (hfloat _)
      · split at h <;> cases h

/-- **An integer of sixty-four bits is read from its numeral**, with a sign or without. -/
theorem ofNumeral_ofInt {k : Int} (hleast : -(twoPow 63 : Int) ≤ k) (hgreatest : k < twoPow 64) :
    ofNumeral (.ofInt k) = .ok (.integer k) := by
  have hpow : twoPow 63 < twoPow 64 := by decide
  have hdigits : accumulate 0 (Numeral.ofInt k).whole = (k.natAbs, []) := by
    have hvalue : Digits.onto 0 (Digits.ofNat k.natAbs) = k.natAbs := Digits.toNat_ofNat k.natAbs
    rw [Numeral.ofInt, accumulate_of_lt (by rw [hvalue]; omega), hvalue]
  have hinteger : (Numeral.ofInt k).fraction.isEmpty ∧ (Numeral.ofInt k).power.isNone ∧
      ([] : List Digit).isEmpty := ⟨rfl, rfl, rfl⟩
  rw [ofNumeral, hdigits]
  dsimp only
  rw [if_pos hinteger]
  rcases Int.lt_or_le k 0 with hsign | hsign
  · have hnegative : (Numeral.ofInt k).negative = true := decide_eq_true hsign
    have hsize : 0 < k.natAbs ∧ k.natAbs ≤ twoPow 63 := by omega
    rw [hnegative, if_neg (by decide), if_pos hsize,
      Int.ofNat_natAbs_of_nonpos (Int.le_of_lt hsign), Int.neg_neg]
  · have hnegative : (Numeral.ofInt k).negative = false := decide_eq_false (Int.not_lt.2 hsign)
    rw [hnegative, if_pos (by decide), Int.natAbs_of_nonneg hsign]

end Json.Number

end PenaltySettlement
