import PenaltySettlement.Table
import PenaltySettlement.AccountPenalties
import PenaltySettlement.PayableResource
import PenaltySettlement.Log

/-!
# The store

The store holds two families of records: the penalties of accounts, one document for each account,
and payable resources, by their identifiers. The resource that was created last under a name is the
one that the name stands for.

A store is connected until it is shut down. Each action checks the connection before it does
anything, except for the note of a failed ledger action: that is the second half of an action whose
first half, finding the resource, has checked it.

## Main definitions

* `Store` — the records and the connection.
* `StoreAction` — what can be asked of a store in one step.
* `Store.perform` — the step.
-/

set_option autoImplicit false

namespace PenaltySettlement

/-- An error of a store. That a record is missing is none. -/
inductive StoreError where
  | disconnected
  | serialization (reason : String)
  | backend (reason : String)
  deriving DecidableEq, Repr

/-- The wording of an error. -/
def StoreError.message : StoreError → String
  | .disconnected => "store connection has been shut down"
  | .serialization reason => "serialization error: " ++ reason
  | .backend reason => "store backend error: " ++ reason

/-- The records of a store and whether it is connected. -/
structure Store where
  connected : Bool := true
  accounts : Table AccountKey AccountPenalties := .empty
  payables : Table String PayableResource := .empty
  latest : Table PayableKey String := .empty
  deriving DecidableEq

/-- What comes of a step: its outcome, the store afterwards and the log. -/
structure StoreStep (α : Type) where
  outcome : Except StoreError α
  store : Store
  log : Log := []

/-- What can be asked of a store in one step. Identifiers and times come from outside. -/
inductive StoreAction where
  | createAccount (document : AccountPenalties)
  | account (key : AccountKey)
  | markPaid (key : AccountKey) (reference : String) (time : Instant)
  | deleteAccount (key : AccountKey)
  | createPayable (id : String) (resource : PayableResource)
  | payable (key : PayableKey)
  | updatePayment (id : String) (payment : PaymentDetails)
  | noteFailure (id : String) (action : LedgerAction)
  | ping
  | shutDown
  deriving DecidableEq, Repr

/-- What a step gives when it succeeds. -/
def StoreAction.Result : StoreAction → Type
  | .account _ => Option AccountPenalties
  | .createPayable _ _ => PayableResource
  | .payable _ => Option PayableResource
  | .createAccount _ | .markPaid _ _ _ | .deleteAccount _ | .updatePayment _ _ | .noteFailure _ _
  | .ping | .shutDown => Unit

namespace Store

/-- A step of a store that is connected; another one refuses it and stays as it is. -/
def whenConnected {α : Type} (s : Store) (step : StoreStep α) : StoreStep α :=
  if s.connected then step else { outcome := .error .disconnected, store := s }

/-! ## Penalties of accounts -/

/-- The log entry about a new document. -/
def creationEntry (message : String) (key : AccountKey) : LogEntry :=
  { source := .store, level := .info, message
    fields := [("customer_code", .plain key.customerCode),
      ("company_code", .plain key.companyCode)] }

/-- **Creation of a document.** An account that has a document keeps it. -/
def createAccount (s : Store) (document : AccountPenalties) : StoreStep Unit :=
  s.whenConnected <|
    match s.accounts.find? document.key with
    | some _ =>
      { outcome := .ok (), store := s
        log := [creationEntry "account penalties already exist, nothing inserted" document.key] }
    | none =>
      { outcome := .ok ()
        store := { s with accounts := s.accounts.insert document.key document }
        log := [creationEntry "account penalties inserted" document.key] }

/-- The document of an account. -/
def account (s : Store) (key : AccountKey) : StoreStep (Option AccountPenalties) :=
  s.whenConnected { outcome := .ok (s.accounts.find? key), store := s }

/-- **Payment of a penalty.** Nothing happens when there is no such document or item. -/
def markPaid (s : Store) (key : AccountKey) (reference : String) (time : Instant) :
    StoreStep Unit :=
  s.whenConnected <|
    match (s.accounts.find? key).bind fun document => document.markPaid? reference time with
    | some document =>
      { outcome := .ok ()
        store := { s with accounts := s.accounts.modify key fun _ => document } }
    | none =>
      { outcome := .ok (), store := s
        log := [{
          source := .store, level := .debug, message := "no penalty matched, nothing marked paid"
          fields := [("customer_code", .quoted key.customerCode),
            ("company_code", .quoted key.companyCode),
            ("transaction_reference", .quoted reference)] }] }

/-- Removal of a document. -/
def deleteAccount (s : Store) (key : AccountKey) : StoreStep Unit :=
  s.whenConnected { outcome := .ok (), store := { s with accounts := s.accounts.erase key } }

/-- The number of documents, which a store tells also after it has been shut down. -/
def accountCount (s : Store) : Nat := s.accounts.size

/-! ## Payable resources -/

/-- **Creation of a resource** under a new identifier. Its name stands for it from now on. -/
def createPayable (s : Store) (id : String) (resource : PayableResource) :
    StoreStep PayableResource :=
  let resource := { resource with id }
  s.whenConnected
    { outcome := .ok resource
      store := { s with
        payables := s.payables.insert id resource
        latest := s.latest.insert resource.key id } }

/-- The resource that a name stands for. -/
def latestPayable? (s : Store) (key : PayableKey) : Option PayableResource :=
  (s.latest.find? key).bind s.payables.find?

/-- The resource that a name stands for, if the store is connected. -/
def payable (s : Store) (key : PayableKey) : StoreStep (Option PayableResource) :=
  s.whenConnected { outcome := .ok (s.latestPayable? key), store := s }

/-- Replacement of the card payment of a resource. -/
def updatePayment (s : Store) (id : String) (payment : PaymentDetails) : StoreStep Unit :=
  s.whenConnected
    { outcome := .ok ()
      store := { s with payables := s.payables.modify id fun r => { r with payment } } }

/-- A note of the ledger action that failed for a resource, whether or not the store is still
connected. -/
def noteFailure (s : Store) (id : String) (action : LedgerAction) : StoreStep Unit :=
  { outcome := .ok ()
    store := { s with
      payables := s.payables.modify id fun r => { r with e5CommandError := some action } } }

/-! ## The connection -/

/-- Asks whether the store is connected. -/
def ping (s : Store) : StoreStep Unit := s.whenConnected { outcome := .ok (), store := s }

/-- The end of the connection. It ends only once. -/
def shutDown (s : Store) : StoreStep Unit :=
  { outcome := .ok (), store := { s with connected := false }
    log := if s.connected then
        [{ source := .store, level := .info, message := "in-memory store shut down" }]
      else [] }

/-- **A step of a store.** -/
def perform : (action : StoreAction) → Store → StoreStep action.Result
  | .createAccount document, s => s.createAccount document
  | .account key, s => s.account key
  | .markPaid key reference time, s => s.markPaid key reference time
  | .deleteAccount key, s => s.deleteAccount key
  | .createPayable id resource, s => s.createPayable id resource
  | .payable key, s => s.payable key
  | .updatePayment id payment, s => s.updatePayment id payment
  | .noteFailure id action, s => s.noteFailure id action
  | .ping, s => s.ping
  | .shutDown, s => s.shutDown

end Store

end PenaltySettlement
