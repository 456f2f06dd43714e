import Mathlib.Data.Rat.Defs
import Mathlib.Tactic.NormNum
import PenaltySettlement.Proofs.EventMembers
import PenaltySettlement.Proofs.Restoration

/-!
# Payment events and their texts

A payment event comes back from its JSON text as it was written, if its amounts do: all texts
whatever is in them, the number of the attempt, and the settled penalties in their order. An amount
is written as a floating point number, so it need not come back with its scale, nor with its value
if it has too many digits.

## Main definitions

* `Decimal.value` — the number that an amount is.
* `Decimal.Survives` — an amount that comes back with its value when it is written alone.
* `PenaltyPaymentEvent.amounts` — all amounts of an event.

## Main results

* `Decimal.restores_float` — an amount that comes back when it is written alone comes back anywhere.
* `PenaltyPaymentEvent.decode_encode_of_survives` — an event comes back if its amounts do.
-/

set_option autoImplicit false

namespace PenaltySettlement

open Json (Codec)

/-! ## Amounts -/

namespace Decimal

/-- **The number that an amount is.** -/
def value (d : Decimal) : ℚ := (if d.negative then -1 else 1) * d.mantissa / 10 ^ d.scale

/-- **An amount that comes back with its value** when it is written alone as a floating point
number. -/
def Survives (d : Decimal) : Prop :=
  ∃ d', floatCodec.decode (floatCodec.encode d) = .ok d' ∧ d'.value = d.value

/-- An amount that comes back when it is written alone is written as a number that can be. -/
lemma proper_of_decode {d d' : Decimal} (h : floatCodec.decode (floatCodec.encode d) = .ok d') :
    d.toBinary64.compact.Proper := by
  by_contra hproper
  have hencode : floatCodec.encode d = Json.render [.number d.toBinary64.compact] := rfl
  rw [hencode, Codec.decode] at h
  rcases Json.lex_number_of_not_proper hproper with hlex | ⟨what, hlex⟩
  · rw [hlex] at h
    cases h
  · rw [hlex] at h
    cases h

/-- **An amount that comes back when it is written alone comes back anywhere.** -/
lemma restores_float {depth : Nat} {d d' : Decimal}
    (h : floatCodec.decode (floatCodec.encode d) = .ok d') : floatCodec.Restores depth d d' := by
  have hlegible := Json.legibleAhead_number (proper_of_decode h)
  have hread : floatCodec.read Json.levels [.number d.toBinary64.compact] = .ok (d', []) := by
    have hencode : floatCodec.encode d = Json.render [.number d.toBinary64.compact] := rfl
    rw [hencode, Codec.decode, Json.lex_render hlegible.legible] at h
    have hends := floatCodec_local Json.levels (.number d.toBinary64.compact) []
    rw [List.append_nil] at hends
    cases hread : floatCodec.read Json.levels [.number d.toBinary64.compact] with
    | error fault =>
      rw [hread] at h
      cases h
    | ok read =>
      obtain ⟨x, rest⟩ := read
      rw [hread] at h hends
      obtain rfl : rest = [] := (Prod.mk.inj (Except.ok.inj hends)).2
      cases h
      rfl
  constructor
  · intro n _ rest
    have hrest := floatCodec_local n (.number d.toBinary64.compact) rest
    show floatCodec.read n ([.number d.toBinary64.compact] ++ rest) = _
    rw [hrest]
    show (floatCodec.read Json.levels [.number d.toBinary64.compact]).map _ = _
    rw [hread]
    rfl
  · exact ⟨_, [], rfl, Json.Token.noConfusion⟩
  · exact hlegible

/-- An amount comes back alone if its number can be written and is read as one of its value. -/
lemma survives_of_read {d d' : Decimal} (hproper : d.toBinary64.compact.Proper)
    (hread : floatCodec.read Json.levels [.number d.toBinary64.compact] = .ok (d', []))
    (hvalue : d'.value = d.value) : d.Survives := by
  refine ⟨d', ?_, hvalue⟩
  show Codec.decode floatCodec (Json.render [.number d.toBinary64.compact]) = _
  rw [Codec.decode, Json.lex_render (Json.legibleAhead_number hproper).legible, hread]

end Decimal

/-! ## Events -/

/-- A settled penalty comes back if its amount does. -/
lemma TransactionPayment.restores {p : TransactionPayment} {d : Decimal}
    (h : Decimal.floatCodec.decode (Decimal.floatCodec.encode p.value) = .ok d) :
    TransactionPayment.codec.Restores 1 p { p with value := d } :=
  .record (p.transactionReference, d, ()) (by decide)
    ⟨.text p.transactionReference, Decimal.restores_float h, trivial⟩

/-- Settled penalties come back in their order if their amounts do. -/
lemma TransactionPayment.exists_restores {payments : List TransactionPayment}
    (h : ∀ p ∈ payments, p.value.Survives) :
    ∃ found, List.Forall₂ (TransactionPayment.codec.Restores 1) payments found ∧
      List.Forall₂ (fun p p' => p'.transactionReference = p.transactionReference ∧
        p'.value.value = p.value.value) payments found := by
  induction payments with
  | nil => exact ⟨[], .nil, .nil⟩
  | cons p payments ih =>
    obtain ⟨⟨d, hdecode, hvalue⟩, hpayments⟩ := List.forall_mem_cons.1 h
    obtain ⟨found, hrestores, hsame⟩ := ih hpayments
    exact ⟨{ p with value := d } :: found, .cons (TransactionPayment.restores hdecode) hrestores,
      .cons ⟨rfl, hvalue⟩ hsame⟩

namespace PenaltyPaymentEvent

/-- **All amounts of an event.** -/
def amounts (e : PenaltyPaymentEvent) : List Decimal :=
  e.totalValue :: e.transactionPayments.map TransactionPayment.value

/-- **An event comes back if its amounts do.** Take any event whose number of attempts has
thirty-two bits and each of whose amounts comes back with its value when it is written alone. A text
is written for it, and it is read as an event that is the same in all its members, with the same
settled penalties in the same order, and with amounts of the same values. -/
theorem decode_encode_of_survives (e : PenaltyPaymentEvent)
    (hattempt : -(twoPow 31 : Int) ≤ e.attempt ∧ e.attempt ≤ twoPow 31 - 1)
    (hamounts : ∀ d ∈ e.amounts, d.Survives) :
    ∃ (text : String) (total : Decimal) (payments : List TransactionPayment),
      Utf8.encode text = codec.encode e ∧
      decode (Utf8.encode text) =
        .ok { e with totalValue := total, transactionPayments := payments } ∧
      total.value = e.totalValue.value ∧
      List.Forall₂ (fun p p' => p'.transactionReference = p.transactionReference ∧
        p'.value.value = p.value.value) e.transactionPayments payments := by
  obtain ⟨⟨total, htotal, hvalue⟩, hothers⟩ := List.forall_mem_cons.1 hamounts
  obtain ⟨payments, hpayments, hsame⟩ :=
    TransactionPayment.exists_restores (List.forall_mem_map.1 hothers)
  have hbits : twoPow 31 - 1 < twoPow 64 ∧ twoPow 31 ≤ twoPow 63 := by decide
  have hrestores : codec.Restores 3 e
      { e with totalValue := total, transactionPayments := payments } := by
    refine .record (e.attempt, e.companyCode, e.customerCode, e.paymentId, e.externalPaymentId,
      e.paymentReference, e.paymentAmount, total, payments, e.cardType, e.email, e.payableRef, ())
      (by decide) ?_
    exact ⟨.integer hattempt (by omega) (by omega), .text _, .text _, .text _, .text _, .text _,
      .text _, Decimal.restores_float htotal, .list hpayments, .text _, .text _, .text _, trivial⟩
  obtain ⟨text, htext, hread⟩ := hrestores.exists_text (by decide)
  exact ⟨text, total, payments, htext, hread, hvalue, hsame⟩

/-! ### An event of two penalties -/

namespace TwoPenalties

/-- Twelve and thirty-four hundredths. -/
def cents : Decimal := ⟨false, 1234, 2, by decide, by decide⟩

/-- Fifty. -/
def whole : Decimal := .ofUInt64 false 50

/-- An event with quotes, backslashes, controls and characters beyond ASCII in its texts. -/
def event : PenaltyPaymentEvent where
  attempt := -3
  companyCode := "L\"P"
  customerCode := "C\\1\n"
  paymentId := "\x00\x1f"
  externalPaymentId := "é€𝄞"
  paymentReference := ""
  paymentAmount := "62.34"
  totalValue := cents
  transactionPayments := [⟨"B", cents⟩, ⟨"A", whole⟩]
  cardType := "visa"
  email := "a/b@c"
  payableRef := "\x7f"

/-- An amount with a fraction comes back. -/
lemma survives_cents : cents.Survives := by
  have hcompact : cents.toBinary64.compact = ⟨false, [1, 2], [3, 4], none⟩ := by decide +kernel
  have hread : Decimal.floatCodec.read Json.levels [.number ⟨false, [1, 2], [3, 4], none⟩] =
      .ok (cents, []) := by decide +kernel
  refine Decimal.survives_of_read (hcompact ▸ ⟨by decide, by decide, nofun⟩) ?_ rfl
  rw [hcompact, hread]

/-- A whole amount comes back, with a digit behind its point. -/
lemma survives_whole : whole.Survives := by
  have hcompact : whole.toBinary64.compact = ⟨false, [5, 0], [0], none⟩ := by decide +kernel
  have hread : Decimal.floatCodec.read Json.levels [.number ⟨false, [5, 0], [0], none⟩] =
      .ok (whole, []) := by decide +kernel
  refine Decimal.survives_of_read (hcompact ▸ ⟨by decide, by decide, nofun⟩) ?_ rfl
  rw [hcompact, hread]

end TwoPenalties

/-- The event comes back, its amounts being ones that do. -/
theorem decode_encode_twoPenalties :
    (∀ d ∈ TwoPenalties.event.amounts, d.Survives) ∧
      ∃ (text : String) (total : Decimal) (payments : List TransactionPayment),
        Utf8.encode text = codec.encode TwoPenalties.event ∧
        decode (Utf8.encode text) =
          .ok { TwoPenalties.event with totalValue := total, transactionPayments := payments } ∧
        total.value = TwoPenalties.event.totalValue.value ∧
        List.Forall₂ (fun p p' => p'.transactionReference = p.transactionReference ∧
          p'.value.value = p.value.value) TwoPenalties.event.transactionPayments payments := by
  have hamounts : ∀ d ∈ TwoPenalties.event.amounts, d.Survives := by
    intro d hd
    simp only [amounts, TwoPenalties.event, List.map_cons, List.map_nil, List.mem_cons,
      List.not_mem_nil, or_false] at hd
    rcases hd with rfl | rfl | rfl
    · exact TwoPenalties.survives_cents
    · exact TwoPenalties.survives_cents
    · exact TwoPenalties.survives_whole
  exact ⟨hamounts, decode_encode_of_survives TwoPenalties.event (by decide) hamounts⟩

end PenaltyPaymentEvent

end PenaltySettlement
