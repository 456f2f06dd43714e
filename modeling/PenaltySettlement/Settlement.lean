import PenaltySettlement.Activity
import PenaltySettlement.PaymentEvent

/-!
# Settling a payment

A payment that is complete has to be confirmed with the ledger. After that each penalty that it
pays is marked paid in the document of the account. A payment that the ledger does not confirm
leaves all documents as they are, and the failure is noted on the payable resource.

## Main definitions

* `SettlementError` — why a payment could not be settled.
* `Settlement.noteFailure` — the note on a payable resource.
* `Settlement.settle` — the work on one event.
-/

set_option autoImplicit false

namespace PenaltySettlement

/-- Why a payment could not be settled. -/
inductive SettlementError where
  | ledger (action : LedgerAction) (source : LedgerError)
  | store (source : StoreError)
  deriving Repr

/-- The wording of an error. -/
def SettlementError.message : SettlementError → String
  | .ledger action source => "ledger " ++ action.name ++ " action failed: " ++ source.message
  | .store source => "failed to update account penalties: " ++ source.message

/-- The account of an event. -/
def PenaltyPaymentEvent.account (e : PenaltyPaymentEvent) : AccountKey :=
  ⟨e.customerCode, e.companyCode⟩

/-- The payable resource of an event, by its name. -/
def PenaltyPaymentEvent.payable (e : PenaltyPaymentEvent) : PayableKey :=
  ⟨e.customerCode, e.payableRef⟩

/-- What the ledger is asked to confirm for an event. -/
def PenaltyPaymentEvent.confirmation (e : PenaltyPaymentEvent) : PaymentActionInput :=
  ⟨e.companyCode, e.paymentId⟩

namespace Settlement

/-- **The note of a failed action** on the resource that a name stands for. The resource is found
in one step and changed in another one, by its identifier; in between the name may come to stand
for another resource. -/
def noteFailure (key : PayableKey) (action : LedgerAction) :
    Activity (Except StoreError Unit) := do
  match ← Activity.step (.payables (.payable key)) with
  | .error e => pure (.error e)
  | .ok none =>
    Activity.report {
      source := .store, level := .debug
      message := "no payable resource to record e5 error on"
      fields := [("customer_code", .quoted key.customerCode),
        ("payable_ref", .quoted key.payableRef)] }
    pure (.ok ())
  | .ok (some resource) => Activity.step (.payables (.noteFailure resource.id action))

/-- Notes that the ledger failed for an event. It is only reported if that fails too. -/
def recordLedgerFailure (e : PenaltyPaymentEvent) (action : LedgerAction) : Activity Unit := do
  match ← noteFailure e.payable action with
  | .ok () => pure ()
  | .error source =>
    Activity.report {
      source := .handler, level := .error
      message := "failed to record ledger failure on payable resource"
      fields := [("customer_code", .plain e.customerCode), ("payable_ref", .plain e.payableRef),
        ("action", .plain action.name), ("error", .plain source.message)] }

/-- Marks penalties of an account paid, in their order, up to the first step that fails. -/
def markPaid (key : AccountKey) : List String → Activity (Except StoreError Unit)
  | [] => pure (.ok ())
  | reference :: references => do
    let time ← Activity.step .time
    match ← Activity.step (.accounts (.markPaid key reference time.toMillis)) with
    | .error source => pure (.error source)
    | .ok () => markPaid key references

/-- **The work on an event**: the ledger's confirmation first, then the penalties. -/
def settle (e : PenaltyPaymentEvent) : Activity (Except SettlementError Unit) := do
  match ← Activity.step (.confirm e.confirmation) with
  | .error source =>
    Activity.report {
      source := .handler, level := .error, message := "ledger confirm failed"
      fields := [("customer_code", .plain e.customerCode), ("company_code", .plain e.companyCode),
        ("payment_id", .plain e.paymentId), ("error", .plain source.message)] }
    recordLedgerFailure e .confirm
    pure (.error (.ledger .confirm source))
  | .ok () =>
    match ← markPaid e.account e.references with
    | .error source => pure (.error (.store source))
    | .ok () =>
      Activity.report {
        source := .handler, level := .info, message := "penalty payment finalized"
        fields := [("customer_code", .plain e.customerCode),
          ("company_code", .plain e.companyCode), ("payment_id", .plain e.paymentId),
          ("penalties", .nat e.transactionPayments.length)] }
      pure (.ok ())

end Settlement

end PenaltySettlement
