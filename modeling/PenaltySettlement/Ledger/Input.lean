import PenaltySettlement.Number.Decimal.Json
import PenaltySettlement.Ledger.Action

/-!
# What the ledger is asked with

Each ledger action and query has an input. The inputs of actions are sent as JSON.

## Main definitions

* `CreatePaymentInput`, `AuthorisePaymentInput`, `PaymentActionInput` — the inputs of actions.
* `TransactionsQuery` — the input of the query for the transactions of an account.
-/

set_option autoImplicit false

namespace PenaltySettlement

open Json (Codec)

/-- A penalty that a payment session is to pay. -/
structure CreatePaymentTransaction where
  transactionReference : String
  value : Decimal
  deriving DecidableEq, Repr

/-- The input of the create action. -/
structure CreatePaymentInput where
  customerCode : String
  companyCode : String
  paymentId : String
  totalValue : Decimal
  transactions : List CreatePaymentTransaction
  deriving DecidableEq, Repr

/-- The input of the authorise action. -/
structure AuthorisePaymentInput where
  companyCode : String
  paymentId : String
  authorisationId : Option String
  email : String
  deriving DecidableEq, Repr

/-- The input of the confirm, timeout and reject actions. -/
structure PaymentActionInput where
  companyCode : String
  paymentId : String
  deriving DecidableEq, Repr

/-- The input of the query for the transactions of an account. -/
structure TransactionsQuery where
  customerCode : String
  companyCode : String
  deriving DecidableEq, Repr

/-- The codec of the penalties of a payment session. -/
def CreatePaymentTransaction.codec : Codec CreatePaymentTransaction :=
  .record "CreatePaymentTransaction"
    (.cons (.required "transactionReference" .text) <|
      .cons (.required "value" Decimal.floatCodec) .nil)
    (fun (transactionReference, value, ()) => { transactionReference, value })
    (fun t => (t.transactionReference, t.value, ()))

/-- The codec of the input of the create action. -/
def CreatePaymentInput.codec : Codec CreatePaymentInput :=
  .record "CreatePaymentInput"
    (.cons (.required "customerCode" .text) <|
      .cons (.required "companyCode" .text) <|
      .cons (.required "paymentId" .text) <|
      .cons (.required "totalValue" Decimal.floatCodec) <|
      .cons (.required "transactions" (.list CreatePaymentTransaction.codec)) .nil)
    (fun (customerCode, companyCode, paymentId, totalValue, transactions, ()) =>
      { customerCode, companyCode, paymentId, totalValue, transactions })
    (fun i => (i.customerCode, i.companyCode, i.paymentId, i.totalValue, i.transactions, ()))

/-- The codec of the input of the authorise action. A missing authorisation is not written. -/
def AuthorisePaymentInput.codec : Codec AuthorisePaymentInput :=
  .record "AuthorisePaymentInput"
    (.cons (.required "companyCode" .text) <|
      .cons (.required "paymentId" .text) <|
      .cons { Json.Member.defaulted "authorisationId" (Codec.option .text) none with
        omitted := Option.isNone } <|
      .cons (.required "email" .text) .nil)
    (fun (companyCode, paymentId, authorisationId, email, ()) =>
      { companyCode, paymentId, authorisationId, email })
    (fun i => (i.companyCode, i.paymentId, i.authorisationId, i.email, ()))

/-- The codec of the input of the confirm, timeout and reject actions. -/
def PaymentActionInput.codec : Codec PaymentActionInput :=
  .record "PaymentActionInput"
    (.cons (.required "companyCode" .text) <| .cons (.required "paymentId" .text) .nil)
    (fun (companyCode, paymentId, ()) => { companyCode, paymentId })
    (fun i => (i.companyCode, i.paymentId, ()))

end PenaltySettlement
