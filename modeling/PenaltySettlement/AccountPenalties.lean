import PenaltySettlement.Ledger.Transaction

/-!
# The penalties of an account

What is known of an account's penalties: a list of items as the ledger reported them, and which of
them have been paid since. An account is a customer in a company.

## Main definitions

* `PenaltyItem` — one penalty.
* `AccountPenalties` — the penalties of one account.
* `AccountPenalties.item?` — the item with a reference.
* `AccountPenalties.markPaid?` — the document with that item paid.
-/

set_option autoImplicit false

namespace PenaltySettlement

open Json (Codec)

/-- An account: a customer in a company. -/
structure AccountKey where
  customerCode : String
  companyCode : String
  deriving DecidableEq, Repr

/-- A penalty of an account. -/
structure PenaltyItem where
  transactionReference : String
  transactionDate : Option Date
  madeUpDate : Option Date
  isPaid : Bool
  amount : Decimal
  outstandingAmount : Decimal
  transactionType : String
  transactionSubType : String
  description : String
  dueDate : Option Date
  accountStatus : String
  dunningStatus : String
  deriving DecidableEq, Repr

/-- The penalties of an account, as they were when the document was created, and when the last of
them was paid. -/
structure AccountPenalties where
  customerCode : String
  companyCode : String
  createdAt : Instant
  closedAt : Option Instant
  data : List PenaltyItem
  deriving DecidableEq, Repr

/-- The penalty that a transaction of the ledger is. -/
def PenaltyItem.ofTransaction (t : LedgerTransaction) : PenaltyItem where
  transactionReference := t.transactionReference
  transactionDate := t.transactionDate
  madeUpDate := t.madeUpDate
  isPaid := t.isPaid
  amount := t.amount
  outstandingAmount := t.outstandingAmount
  transactionType := t.transactionType
  transactionSubType := t.transactionSubType
  description := t.description
  dueDate := t.dueDate
  accountStatus := t.accountStatus
  dunningStatus := t.dunningStatus

namespace AccountPenalties

/-- The account of a document. -/
def key (a : AccountPenalties) : AccountKey := ⟨a.customerCode, a.companyCode⟩

/-- A new document; its creation time is kept in milliseconds. -/
def new (now : Instant) (key : AccountKey) (data : List PenaltyItem) : AccountPenalties where
  customerCode := key.customerCode
  companyCode := key.companyCode
  createdAt := now.toMillis
  closedAt := none
  data := data

/-- A new document of the transactions that the ledger reports for an account. -/
def ofTransactions (now : Instant) (key : AccountKey) (transactions : List LedgerTransaction) :
    AccountPenalties :=
  new now key (transactions.map PenaltyItem.ofTransaction)

/-- The first item with a reference. -/
def item? (a : AccountPenalties) (reference : String) : Option PenaltyItem :=
  a.data.find? fun item => item.transactionReference == reference

/-- The items with the first one that has a reference paid, if there is one. -/
def payFirst? (reference : String) : List PenaltyItem → Option (List PenaltyItem)
  | [] => none
  | item :: items =>
    if item.transactionReference = reference then some ({ item with isPaid := true } :: items)
    else (payFirst? reference items).map (item :: ·)

/-- **Paying an item.** The document with the first item that has a reference paid, and closed at
the given time; none when no item has the reference. -/
def markPaid? (a : AccountPenalties) (reference : String) (time : Instant) :
    Option AccountPenalties :=
  (payFirst? reference a.data).map fun data => { a with data, closedAt := some time }

/-- The document after an attempt to pay an item. -/
def markPaid (a : AccountPenalties) (reference : String) (time : Instant) : AccountPenalties :=
  (a.markPaid? reference time).getD a

end AccountPenalties

/-! ## JSON -/

/-- The codec of penalties. -/
def PenaltyItem.codec : Codec PenaltyItem :=
  .record "PenaltyItem"
    (.cons (.required "transaction_reference" .text) <|
      .cons (.optional "transaction_date" Date.codec) <|
      .cons (.optional "made_up_date" Date.codec) <|
      .cons (.required "is_paid" .boolean) <|
      .cons (.required "amount" Decimal.textCodec) <|
      .cons (.required "outstanding_amount" Decimal.textCodec) <|
      .cons (.required "transaction_type" .text) <|
      .cons (.required "transaction_sub_type" .text) <|
      .cons (.required "description" .text) <|
      .cons (.optional "due_date" Date.codec) <|
      .cons (.required "account_status" .text) <|
      .cons (.required "dunning_status" .text) .nil)
    (fun (transactionReference, transactionDate, madeUpDate, isPaid, amount, outstandingAmount,
        transactionType, transactionSubType, description, dueDate, accountStatus, dunningStatus,
        ()) =>
      { transactionReference, transactionDate, madeUpDate, isPaid, amount, outstandingAmount,
        transactionType, transactionSubType, description, dueDate, accountStatus, dunningStatus })
    (fun i =>
      (i.transactionReference, i.transactionDate, i.madeUpDate, i.isPaid, i.amount,
        i.outstandingAmount, i.transactionType, i.transactionSubType, i.description, i.dueDate,
        i.accountStatus, i.dunningStatus, ()))

/-- The codec of documents. -/
def AccountPenalties.codec : Codec AccountPenalties :=
  .record "AccountPenalties"
    (.cons (.required "customer_code" .text) <|
      .cons (.required "company_code" .text) <|
      .cons (.required "created_at" Instant.codec) <|
      .cons (.optional "closed_at" Instant.codec) <|
      .cons (.required "data" (.list PenaltyItem.codec)) .nil)
    (fun (customerCode, companyCode, createdAt, closedAt, data, ()) =>
      { customerCode, companyCode, createdAt, closedAt, data })
    (fun a => (a.customerCode, a.companyCode, a.createdAt, a.closedAt, a.data, ()))

end PenaltySettlement
