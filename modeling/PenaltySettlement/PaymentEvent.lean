import PenaltySettlement.Number.Decimal.Json

/-!
# Payment events

A payment event says that a card payment for penalties has been completed. It names the account,
the payment and the penalties that were paid with it.

## Main definitions

* `PenaltyPaymentEvent` — the events.
* `PenaltyPaymentEvent.decode` — reading an event from the payload of a message.
-/

set_option autoImplicit false

namespace PenaltySettlement

open Json (Codec Member Members)

/-- One penalty that a payment settles. -/
structure TransactionPayment where
  transactionReference : String
  value : Decimal
  deriving DecidableEq, Repr

/-- A completed card payment for penalties. -/
structure PenaltyPaymentEvent where
  attempt : Int
  companyCode : String
  customerCode : String
  paymentId : String
  externalPaymentId : String
  paymentReference : String
  paymentAmount : String
  totalValue : Decimal
  transactionPayments : List TransactionPayment
  cardType : String
  email : String
  payableRef : String
  deriving DecidableEq, Repr

namespace TransactionPayment

/-- The codec of the settled penalties. -/
def codec : Codec TransactionPayment :=
  .record "TransactionPayment"
    (.cons (.required "transaction_reference" .text) <|
      .cons (.required "value" Decimal.floatCodec) .nil)
    (fun (transactionReference, value, ()) => { transactionReference, value })
    (fun p => (p.transactionReference, p.value, ()))

end TransactionPayment

namespace PenaltyPaymentEvent

/-- The codec of payment events. -/
def codec : Codec PenaltyPaymentEvent :=
  .record "PenaltyPaymentEvent"
    (.cons (.defaulted "attempt" (.integer "i32" (-(twoPow 31 : Int)) (twoPow 31 - 1)) 0) <|
      .cons (.required "company_code" .text) <|
      .cons (.required "customer_code" .text) <|
      .cons (.required "payment_id" .text) <|
      .cons (.defaulted "external_payment_id" .text "") <|
      .cons (.defaulted "payment_reference" .text "") <|
      .cons (.defaulted "payment_amount" .text "") <|
      .cons (.required "total_value" Decimal.floatCodec) <|
      .cons (.defaulted "transaction_payments" (.list TransactionPayment.codec) []) <|
      .cons (.defaulted "card_type" .text "") <|
      .cons (.defaulted "email" .text "") <|
      .cons (.required "payable_ref" .text) .nil)
    (fun (attempt, companyCode, customerCode, paymentId, externalPaymentId, paymentReference,
        paymentAmount, totalValue, transactionPayments, cardType, email, payableRef, ()) =>
      { attempt, companyCode, customerCode, paymentId, externalPaymentId, paymentReference,
        paymentAmount, totalValue, transactionPayments, cardType, email, payableRef })
    (fun e =>
      (e.attempt, e.companyCode, e.customerCode, e.paymentId, e.externalPaymentId,
        e.paymentReference, e.paymentAmount, e.totalValue, e.transactionPayments, e.cardType,
        e.email, e.payableRef, ()))

/-- **Reading a payload.** -/
def decode (payload : List UInt8) : Except Json.Fault PenaltyPaymentEvent := codec.decode payload

/-- The references of the penalties that the payment settles, in their order. -/
def references (e : PenaltyPaymentEvent) : List String :=
  e.transactionPayments.map TransactionPayment.transactionReference

end PenaltyPaymentEvent

end PenaltySettlement
