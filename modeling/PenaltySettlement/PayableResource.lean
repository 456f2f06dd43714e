import PenaltySettlement.Number.Decimal.Json
import PenaltySettlement.Calendar.Json
import PenaltySettlement.Ledger.Action

/-!
# Payable resources

A payable resource is one payment session of a customer and what has come of it. It also keeps the
last ledger action that failed for the session; nothing clears that.

## Main definitions

* `PaymentDetails` — the card payment of a session.
* `PayableResource` — the session.
-/

set_option autoImplicit false

namespace PenaltySettlement

open Json (Codec)

/-- How far a card payment has come. -/
inductive PaymentStatus where
  | pending
  | paid
  | failed
  | cancelled
  deriving DecidableEq, Repr

/-- A card payment. -/
structure PaymentDetails where
  status : PaymentStatus
  reference : Option String
  paidAt : Option Instant
  amount : Decimal
  deriving DecidableEq, Repr

/-- What a customer calls a payment session. -/
structure PayableKey where
  customerCode : String
  payableRef : String
  deriving DecidableEq, Repr

/-- A payment session. -/
structure PayableResource where
  id : String
  customerCode : String
  payableRef : String
  e5CommandError : Option LedgerAction
  createdAt : Instant
  payment : PaymentDetails
  deriving DecidableEq, Repr

namespace PayableResource

/-- The name of the session. -/
def key (r : PayableResource) : PayableKey := ⟨r.customerCode, r.payableRef⟩

/-- A new session with a pending payment. It has no identifier until it is stored. -/
def new (now : Instant) (key : PayableKey) (amount : Decimal) : PayableResource where
  id := ""
  customerCode := key.customerCode
  payableRef := key.payableRef
  e5CommandError := none
  createdAt := now.toMillis
  payment := { status := .pending, reference := none, paidAt := none, amount }

end PayableResource

/-! ## JSON -/

namespace PaymentStatus

/-- The name of a status. -/
def name : PaymentStatus → String
  | .pending => "pending"
  | .paid => "paid"
  | .failed => "failed"
  | .cancelled => "cancelled"

/-- The codec of statuses. -/
def codec : Codec PaymentStatus :=
  .choice ([.pending, .paid, .failed, .cancelled].map fun status => (status.name, status))

end PaymentStatus

/-- The codec of card payments. -/
def PaymentDetails.codec : Codec PaymentDetails :=
  .record "PaymentDetails"
    (.cons (.required "status" PaymentStatus.codec) <|
      .cons (.defaulted "reference" (.option .text) none) <|
      .cons (.defaulted "paid_at" (.option Instant.codec) none) <|
      .cons (.required "amount" Decimal.textCodec) .nil)
    (fun (status, reference, paidAt, amount, ()) => { status, reference, paidAt, amount })
    (fun p => (p.status, p.reference, p.paidAt, p.amount, ()))

/-- The codec of what has come of a session: an object that holds the card payment. -/
def PayableResource.dataCodec : Codec PaymentDetails :=
  .record "PayableData" (.cons (.required "payment" PaymentDetails.codec) .nil)
    (fun (payment, ()) => payment) (fun payment => (payment, ()))

/-- The codec of sessions. The failed action is not written while there is none. -/
def PayableResource.codec : Codec PayableResource :=
  .record "PayableResource"
    (.cons (.required "_id" .text) <|
      .cons (.required "customer_code" .text) <|
      .cons (.required "payable_ref" .text) <|
      .cons { Json.Member.defaulted "e5_command_error" (Codec.option LedgerAction.codec) none with
        omitted := Option.isNone } <|
      .cons (.required "created_at" Instant.codec) <|
      .cons (.required "data" dataCodec) .nil)
    (fun (id, customerCode, payableRef, e5CommandError, createdAt, payment, ()) =>
      { id, customerCode, payableRef, e5CommandError, createdAt, payment })
    (fun r =>
      (r.id, r.customerCode, r.payableRef, r.e5CommandError, r.createdAt, r.payment, ()))

end PenaltySettlement
