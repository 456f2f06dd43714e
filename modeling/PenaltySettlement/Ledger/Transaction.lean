import PenaltySettlement.Number.Decimal.Json
import PenaltySettlement.Calendar.Json

/-!
# Transactions of an account

What the ledger answers to the query for the transactions of an account: one page of transactions.

## Main definitions

* `LedgerTransaction` — a transaction as the ledger reports it.
* `TransactionsResponse` — the answer.
-/

set_option autoImplicit false

namespace PenaltySettlement

open Json (Codec)

/-- A transaction of an account. -/
structure LedgerTransaction where
  companyCode : String
  ledgerCode : String
  customerCode : String
  transactionReference : String
  transactionDate : Option Date
  madeUpDate : Option Date
  amount : Decimal
  outstandingAmount : Decimal
  isPaid : Bool
  transactionType : String
  transactionSubType : String
  description : String
  dueDate : Option Date
  accountStatus : String
  dunningStatus : String
  deriving DecidableEq, Repr

/-- Where the answer stands among all pages. -/
structure Page where
  size : Nat
  totalElements : Nat
  totalPages : Nat
  number : Nat
  deriving DecidableEq, Repr

/-- The answer to a query for transactions. -/
structure TransactionsResponse where
  page : Page
  data : List LedgerTransaction
  deriving DecidableEq, Repr

/-- The page of an empty ledger. -/
def Page.empty : Page := ⟨0, 0, 0, 0⟩

/-- The answer of an empty ledger. -/
def TransactionsResponse.empty : TransactionsResponse := ⟨.empty, []⟩

/-- The codec of transactions. The ledger may call the description by another name. -/
def LedgerTransaction.codec : Codec LedgerTransaction :=
  .record "LedgerTransaction"
    (.cons (.required "companyCode" .text) <|
      .cons (.defaulted "ledgerCode" .text "") <|
      .cons (.required "customerCode" .text) <|
      .cons (.required "transactionReference" .text) <|
      .cons (.defaulted "transactionDate" (.option Date.codec) none) <|
      .cons (.defaulted "madeUpDate" (.option Date.codec) none) <|
      .cons (.required "amount" Decimal.floatCodec) <|
      .cons (.required "outstandingAmount" Decimal.floatCodec) <|
      .cons (.required "isPaid" .boolean) <|
      .cons (.defaulted "transactionType" .text "") <|
      .cons (.defaulted "transactionSubType" .text "") <|
      .cons { Json.Member.defaulted "description" Codec.text "" with
        aliasKey := some "typeDescription" } <|
      .cons (.defaulted "dueDate" (.option Date.codec) none) <|
      .cons (.defaulted "accountStatus" .text "") <|
      .cons (.defaulted "dunningStatus" .text "") .nil)
    (fun (companyCode, ledgerCode, customerCode, transactionReference, transactionDate, madeUpDate,
        amount, outstandingAmount, isPaid, transactionType, transactionSubType, description,
        dueDate, accountStatus, dunningStatus, ()) =>
      { companyCode, ledgerCode, customerCode, transactionReference, transactionDate, madeUpDate,
        amount, outstandingAmount, isPaid, transactionType, transactionSubType, description,
        dueDate, accountStatus, dunningStatus })
    (fun t =>
      (t.companyCode, t.ledgerCode, t.customerCode, t.transactionReference, t.transactionDate,
        t.madeUpDate, t.amount, t.outstandingAmount, t.isPaid, t.transactionType,
        t.transactionSubType, t.description, t.dueDate, t.accountStatus, t.dunningStatus, ()))

/-- Counts of sixty-four bits. -/
def Page.countCodec : Codec Nat := .natural "u64" (twoPow 64 - 1)

/-- The codec of pages. -/
def Page.codec : Codec Page :=
  .record "Page"
    (.cons (.required "size" countCodec) <|
      .cons (.required "totalElements" countCodec) <|
      .cons (.required "totalPages" countCodec) <|
      .cons (.required "number" countCodec) .nil)
    (fun (size, totalElements, totalPages, number, ()) =>
      { size, totalElements, totalPages, number })
    (fun p => (p.size, p.totalElements, p.totalPages, p.number, ()))

/-- The codec of answers. A part that is missing or `null` is that of an empty ledger. -/
def TransactionsResponse.codec : Codec TransactionsResponse :=
  .record "TransactionsResponse"
    (.cons (.defaulted "page" (.nullAs .empty Page.codec) .empty) <|
      .cons (.defaulted "data" (.nullAs [] (.list LedgerTransaction.codec)) []) .nil)
    (fun (page, data, ()) => { page, data })
    (fun r => (r.page, r.data, ()))

end PenaltySettlement
