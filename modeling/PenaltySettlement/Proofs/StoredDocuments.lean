import Mathlib.Data.List.Forall2
import PenaltySettlement.AccountPenalties
import PenaltySettlement.PayableResource
import PenaltySettlement.Proofs.AmountText
import PenaltySettlement.Proofs.CalendarText
import PenaltySettlement.Proofs.Restoration

/-!
# Documents that are stored as JSON

A payment session and the penalties of an account come back from their JSON text as they were
written, whatever their texts, amounts, dates and instants are. Only an amount that is zero loses
its sign, which plain notation does not keep.

## Main definitions

* `PayableResource.unsignedZeros`, `AccountPenalties.unsignedZeros` — a document, its amounts
  without their sign where they are zero.

## Main results

* `storedDocuments_restored` — stored documents are read back from their texts.
-/

set_option autoImplicit false

namespace PenaltySettlement

open Json (Codec)

/-! ## Parts of documents -/

section

variable {depth : Nat}

/-- An amount is restored, a zero without its sign. -/
lemma Decimal.restores (d : Decimal) : Decimal.textCodec.Restores depth d d.unsignedZero where
  reads := by
    intro levels _ rest
    simp only [Decimal.textCodec, List.singleton_append, Decimal.read, Json.Token.ofText,
      Json.readText_ofText, Decimal.ofText?_text]
  starts := ⟨_, [], rfl, nofun⟩
  legible := Codec.Restores.legible_ofText d.text

/-- A date is restored. -/
lemma Date.restores (d : Date) : Date.codec.Restores depth d d := by
  refine .ofText ?_
  rw [Date.parse_text]
  rfl

/-- An instant is restored. -/
lemma Instant.restores (t : Instant) : Instant.codec.Restores depth t t := by
  refine .ofText ?_
  rw [Instant.parse_text]
  rfl

/-- The status of a payment is restored. -/
lemma PaymentStatus.restores (status : PaymentStatus) :
    PaymentStatus.codec.Restores depth status status := by
  cases status <;> exact .choice rfl rfl

/-- A ledger action is restored. -/
lemma LedgerAction.restores (action : LedgerAction) :
    LedgerAction.codec.Restores depth action action := by
  cases action <;> exact .choice rfl rfl

/-- An optional date is restored. -/
lemma Date.restores? (d : Option Date) : Date.codec.option.Restores depth d d :=
  .option Date.restores (fun d => ⟨d.text, rfl⟩) d

/-- An optional instant is restored. -/
lemma Instant.restores? (t : Option Instant) : Instant.codec.option.Restores depth t t :=
  .option Instant.restores (fun t => ⟨t.text, rfl⟩) t

/-- An optional action is restored. -/
lemma LedgerAction.restores? (action : Option LedgerAction) :
    LedgerAction.codec.option.Restores depth action action := by
  refine .option LedgerAction.restores ?_ action
  intro action
  exact ⟨action.name, by cases action <;> rfl⟩

end

/-! ## Payment sessions -/

/-- **A payment session**, its amount without a sign if it is zero. -/
def PayableResource.unsignedZeros (r : PayableResource) : PayableResource :=
  { r with payment := { r.payment with amount := r.payment.amount.unsignedZero } }

/-- A card payment is restored. -/
lemma PaymentDetails.restores (p : PaymentDetails) :
    PaymentDetails.codec.Restores 1 p { p with amount := p.amount.unsignedZero } := by
  refine .record (p.status, p.reference, p.paidAt, p.amount.unsignedZero, ()) (by decide) ?_
  exact ⟨p.status.restores, Codec.Restores.text? p.reference, Instant.restores? p.paidAt,
    p.amount.restores, trivial⟩

/-- A payment session is restored. The failed action is not written while there is none. -/
lemma PayableResource.restores (r : PayableResource) :
    PayableResource.codec.Restores 3 r r.unsignedZeros := by
  have hdata : dataCodec.Restores 2 r.payment r.unsignedZeros.payment :=
    .record (r.unsignedZeros.payment, ()) (by decide) ⟨r.payment.restores, trivial⟩
  have hfailed : if r.e5CommandError.isNone then some none = some r.e5CommandError
      else LedgerAction.codec.option.Restores 2 r.e5CommandError r.e5CommandError := by
    split
    · rename_i hnone
      rw [Option.isNone_iff_eq_none.1 hnone]
    · exact LedgerAction.restores? r.e5CommandError
  refine .record (r.id, r.customerCode, r.payableRef, r.e5CommandError, r.createdAt,
    r.unsignedZeros.payment, ()) (by decide) ?_
  exact ⟨.text r.id, .text r.customerCode, .text r.payableRef, hfailed, r.createdAt.restores,
    hdata, trivial⟩

/-! ## Penalties of accounts -/

/-- **A penalty**, its amounts without a sign where they are zero. -/
def PenaltyItem.unsignedZeros (i : PenaltyItem) : PenaltyItem :=
  { i with amount := i.amount.unsignedZero, outstandingAmount := i.outstandingAmount.unsignedZero }

/-- **The penalties of an account**, their amounts without a sign where they are zero. -/
def AccountPenalties.unsignedZeros (a : AccountPenalties) : AccountPenalties :=
  { a with data := a.data.map PenaltyItem.unsignedZeros }

/-- A penalty is restored. -/
lemma PenaltyItem.restores (i : PenaltyItem) :
    PenaltyItem.codec.Restores 1 i i.unsignedZeros := by
  refine .record (i.transactionReference, i.transactionDate, i.madeUpDate, i.isPaid,
    i.amount.unsignedZero, i.outstandingAmount.unsignedZero, i.transactionType,
    i.transactionSubType, i.description, i.dueDate, i.accountStatus, i.dunningStatus, ())
    (by decide) ?_
  exact ⟨.text i.transactionReference, Date.restores? i.transactionDate,
    Date.restores? i.madeUpDate, .boolean i.isPaid, i.amount.restores,
    i.outstandingAmount.restores, .text i.transactionType, .text i.transactionSubType,
    .text i.description, Date.restores? i.dueDate, .text i.accountStatus, .text i.dunningStatus,
    trivial⟩

/-- The penalties of an account are restored. -/
lemma AccountPenalties.restores (a : AccountPenalties) :
    AccountPenalties.codec.Restores 3 a a.unsignedZeros := by
  have hdata : PenaltyItem.codec.list.Restores 2 a.data a.unsignedZeros.data := by
    refine .list ?_
    show List.Forall₂ _ a.data (a.data.map PenaltyItem.unsignedZeros)
    rw [List.forall₂_map_right_iff, List.forall₂_same]
    exact fun item _ => item.restores
  refine .record (a.customerCode, a.companyCode, a.createdAt, a.closedAt, a.unsignedZeros.data, ())
    (by decide) ?_
  exact ⟨.text a.customerCode, .text a.companyCode, a.createdAt.restores,
    Instant.restores? a.closedAt, hdata, trivial⟩

/-- **Stored documents are read back.** For a payment session and for the penalties of an account a
text is written, and it is read as what it was written for: all texts, the amounts with their
mantissas and scales, the dates and the instants, and whatever is absent. Only an amount of zero
comes back without its sign. -/
theorem storedDocuments_restored :
    (∀ r : PayableResource, ∃ text : String,
      Utf8.encode text = PayableResource.codec.encode r ∧
      PayableResource.codec.decodeText text = .ok r.unsignedZeros) ∧
    ∀ a : AccountPenalties, ∃ text : String,
      Utf8.encode text = AccountPenalties.codec.encode a ∧
      AccountPenalties.codec.decodeText text = .ok a.unsignedZeros := by
  have hdepth : 3 < Json.levels := by decide
  exact ⟨fun r => r.restores.exists_text hdepth, fun a => a.restores.exists_text hdepth⟩

end PenaltySettlement
