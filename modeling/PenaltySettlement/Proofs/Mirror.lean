import PenaltySettlement.PenaltyLookup
import PenaltySettlement.Proofs.Desk
import PenaltySettlement.Proofs.Interleaving

/-!
# Documents that mirror the ledger

The ledger keeps a book of the transactions of each account, and pays transactions in it only when
it accepts an event. As long as one errand is done after the other, the documents in the store show
the same payments as the book does, whenever they have been made and whatever has happened since:
an accepted event is marked in the document of its account at once, a rejected one nowhere, and a
document that has been removed is made anew from the book.

## Main definitions

* `LedgerBook` — the transactions of each account; `LedgerBook.accept` — the book after an event has
  been accepted.
* `Office` — a desk with the book of the ledger; `Office.take` — a step that is taken there.
* `Errand` — what is done at an office; `Office.performAll` — one errand after the other.
* `Office.Mirrored` — the documents show what the book does.

## Main results

* `Office.Mirrored.perform` — each errand keeps the documents as they should be.
* `Office.isPaid_performAll` — whether a penalty is paid is answered from the store as the ledger
  would answer it.
-/

set_option autoImplicit false

namespace PenaltySettlement

/-! ## The first item with a reference -/

/-- Whether the first transaction with a reference is paid. -/
def LedgerTransaction.paid? (transactions : List LedgerTransaction) (reference : String) :
    Option Bool :=
  (transactions.find? fun t => t.transactionReference == reference).map LedgerTransaction.isPaid

/-- The transaction as it is when some references have been paid for. -/
def LedgerTransaction.paidFor (references : List String) (t : LedgerTransaction) :
    LedgerTransaction :=
  if t.transactionReference ∈ references then { t with isPaid := true } else t

namespace AccountPenalties

/-- A new document shows what the transactions do. -/
lemma paid?_ofTransactions (now : Instant) (key : AccountKey)
    (transactions : List LedgerTransaction) (reference : String) :
    (ofTransactions now key transactions).paid? reference =
      LedgerTransaction.paid? transactions reference := by
  rw [paid?, item?, ofTransactions, new, List.find?_map, Option.map_map]
  rfl

end AccountPenalties

/-- Paying for references shows at each of them, and at no other one. -/
lemma LedgerTransaction.paid?_paidFor (references : List String)
    (transactions : List LedgerTransaction) (reference : String) :
    paid? (transactions.map (paidFor references)) reference =
      (paid? transactions reference).map (· || references.contains reference) := by
  have hreference : ∀ t : LedgerTransaction,
      (t.paidFor references).transactionReference = t.transactionReference := by
    intro t
    unfold paidFor
    split <;> rfl
  induction transactions with
  | nil => rfl
  | cons t transactions ih =>
    unfold paid? at ih ⊢
    by_cases h : t.transactionReference = reference
    · rw [List.map_cons, List.find?_cons_of_pos (by simp [hreference, h]),
        List.find?_cons_of_pos (by simp [h])]
      by_cases hmem : reference ∈ references <;> simp [paidFor, h, hmem]
    · simpa [hreference, h] using ih

/-! ## The book of the ledger -/

/-- **The book of the ledger**: the transactions of each account. -/
def LedgerBook : Type := AccountKey → List LedgerTransaction

namespace LedgerBook

/-- **The book after an event has been accepted**: every transaction of its account that has one of
its references is paid. -/
def accept (book : LedgerBook) (e : PenaltyPaymentEvent) : LedgerBook := fun key =>
  if key = e.account then (book key).map (LedgerTransaction.paidFor e.references) else book key

/-- Whether the first transaction of an account with a reference is paid. -/
def paid? (book : LedgerBook) (key : AccountKey) (reference : String) : Option Bool :=
  LedgerTransaction.paid? (book key) reference

end LedgerBook

/-- How the ledger acts during an errand: the event that it may be asked to confirm, its answer to
that, and whether it reports transactions. -/
structure LedgerConduct where
  event : Option PenaltyPaymentEvent := none
  verdict : Except LedgerError Unit := .ok ()
  reporting : Except LedgerError Page := .ok .empty

namespace LedgerConduct

/-- The event that is accepted when a confirmation is asked for. -/
def accepted? (conduct : LedgerConduct) (input : PaymentActionInput) :
    Option PenaltyPaymentEvent :=
  match conduct.verdict with
  | .ok () => conduct.event.filter fun e => e.confirmation = input
  | .error _ => none

/-- The book after a confirmation has been asked for. -/
def bookAfter (conduct : LedgerConduct) (input : PaymentActionInput) (book : LedgerBook) :
    LedgerBook :=
  (conduct.accepted? input).elim book book.accept

/-- The report of the transactions of an account. -/
def report (conduct : LedgerConduct) (book : LedgerBook) (query : TransactionsQuery) :
    Except LedgerError TransactionsResponse :=
  conduct.reporting.map fun page => ⟨page, book ⟨query.customerCode, query.companyCode⟩⟩

end LedgerConduct

/-! ## Errands at an office -/

/-- **An office**: a desk, and the book from which the ledger answers there. -/
structure Office where
  desk : Desk
  book : LedgerBook

namespace Office

/-- The answer to a step that does not concern the ledger. -/
def atDesk (o : Office) (question : Ask) : question.Answer × Office :=
  let (answer, desk, _) := o.desk.answer question
  (answer, { o with desk })

/-- **The answer to a step**, which the ledger gives from its book and according to its conduct. -/
def answer (conduct : LedgerConduct) (o : Office) : (question : Ask) → question.Answer × Office
  | .accounts action => o.atDesk (.accounts action)
  | .payables action => o.atDesk (.payables action)
  | .confirm input => (conduct.verdict, { o with book := conduct.bookAfter input o.book })
  | .transactions query => (conduct.report o.book query, o)
  | .time => o.atDesk .time

/-- A step that is taken at the office. -/
def take (conduct : LedgerConduct) (question : Ask) : StateM Office question.Answer :=
  fun o => o.answer conduct question

end Office

/-- **What is done at an office**: an event is settled, penalties are looked up or one of them, the
ledger is asked for transactions, or a document is removed. The answers of the ledger are part of
it. -/
inductive Errand where
  | settle (event : PenaltyPaymentEvent) (verdict : Except LedgerError Unit)
  | penalties (key : AccountKey) (reporting : Except LedgerError Page)
  | isPaid (key : AccountKey) (reference : String) (reporting : Except LedgerError Page)
  | transactions (query : TransactionsQuery) (reporting : Except LedgerError Page)
  | delete (key : AccountKey)

namespace Errand

/-- How the ledger acts during the errand. -/
def conduct : Errand → LedgerConduct
  | .settle event verdict => { event := some event, verdict }
  | .penalties _ reporting | .isPaid _ _ reporting | .transactions _ reporting => { reporting }
  | .delete _ => {}

/-- The work of the errand, whatever comes of it. -/
def work : Errand → Activity Unit
  | .settle event _ => do let _ ← Settlement.settle event
  | .penalties key _ => do let _ ← PenaltyLookup.penalties key
  | .isPaid key reference _ => do let _ ← PenaltyLookup.isPaid key reference
  | .transactions query _ => do let _ ← Activity.step (.transactions query)
  | .delete key => do let _ ← Activity.step (.accounts (.deleteAccount key))

/-- The event that the ledger accepts with the errand. -/
def accepted? : Errand → Option PenaltyPaymentEvent
  | .settle event (.ok ()) => some event
  | _ => none

end Errand

namespace Office

/-- The office after an errand. -/
def perform (o : Office) (errand : Errand) : Office :=
  (Activity.run (take errand.conduct) Activity.unlogged errand.work o).2

/-- **The office after errands**, one after the other. -/
def performAll (o : Office) (errands : List Errand) : Office := errands.foldl perform o

/-- **Whether a penalty is paid**, as it is answered at the office. -/
def isPaid (o : Office) (key : AccountKey) (reference : String)
    (reporting : Except LedgerError Page) : Except LookupError (Option Bool) :=
  (Activity.run (take { reporting }) Activity.unlogged (PenaltyLookup.isPaid key reference) o).1

/-! ## Once the ledger has answered -/

variable {conduct : LedgerConduct}

/-- What is done once the ledger has answered goes as it does at the desk. -/
lemma run_of_recording {α : Type} {x : Activity α} {past : List Reply}
    (h : Activity.Asks Ask.Recording past x) (o : Office) (log : Log) :
    Activity.run (take conduct) Activity.unlogged x o =
      ((Activity.run Desk.take Desk.write x (o.desk, log)).1,
        { o with desk := (Activity.run Desk.take Desk.write x (o.desk, log)).2.1 }) := by
  induction x generalizing past o log with
  | done result => rfl
  | note entry rest ih => exact ih h o (log ++ [entry])
  | ask question next ih =>
    have hanswer : o.answer conduct question = o.atDesk question := by
      cases question with
      | confirm input => exact absurd h.1 id
      | transactions query => exact absurd h.1 id
      | accounts action => rfl
      | payables action => rfl
      | time => rfl
    rw [Activity.run_ask, take, hanswer, Activity.run_ask]
    exact ih _ (h.2 _) _ _

/-! ## Each errand -/

/-- **The office after an event has been settled**: it is as the desk is, and the book shows the
event when it has been accepted. -/
lemma perform_settle (o : Office) (e : PenaltyPaymentEvent) (verdict : Except LedgerError Unit) :
    o.perform (.settle e verdict) =
      match verdict with
      | .error _ => { o with desk := o.desk.noted e.payable .confirm }
      | .ok () => ⟨o.desk.markAll e.account e.references, o.book.accept e⟩ := by
  rw [perform, Errand.work, Activity.run_discard, Settlement.settle, Activity.run_bind_state]
  simp only [Activity.step, Activity.run_ask, take, answer]
  cases verdict with
  | error source =>
    show (Activity.run (take _) Activity.unlogged
      (Settlement.recordLedgerFailure e .confirm >>= _) o).2 = _
    rw [Activity.run_bind_state,
      run_of_recording (Settlement.recordLedgerFailure_asks [] e .confirm) o []]
    simp only [Desk.recordLedgerFailure_desk]
    rfl
  | ok done =>
    have hbook : ({ event := some e, verdict := .ok done } : LedgerConduct).bookAfter
        e.confirmation o.book = o.book.accept e := by
      rw [LedgerConduct.bookAfter, LedgerConduct.accepted?, Option.filter_some,
        if_pos (decide_eq_true rfl)]
      rfl
    show (Activity.run (take _) Activity.unlogged (Settlement.markPaid e.account e.references >>= _)
      { o with book := LedgerConduct.bookAfter _ _ _ }).2 = _
    rw [Errand.conduct, hbook, Activity.run_bind_state,
      run_of_recording (Settlement.markPaid_asks [] e.account e.references) _ []]
    simp only [Desk.markPaid_desk]
    split <;> rfl

/-- The document of an account in the store. -/
def document? (o : Office) (key : AccountKey) : Option AccountPenalties :=
  o.desk.store.accounts.find? key

/-- The office with another document in the store. -/
def keeping (o : Office) (document : AccountPenalties) : Office :=
  { o with
    desk := { o.desk with
      store := { o.desk.store with
        accounts := o.desk.store.accounts.insert document.key document } } }

/-- A document that is made for an account at the next look at the clock. -/
def made (o : Office) (key : AccountKey) : AccountPenalties :=
  .ofTransactions (o.desk.clock o.desk.looks) key (o.book key)

/-- The office after that document has been made and kept. -/
def fetched (o : Office) (key : AccountKey) : Office :=
  ({ o with desk := { o.desk with looks := o.desk.looks + 1 } } : Office).keeping (o.made key)

/-- A document is kept for an account that has none. -/
lemma run_keep (o : Office) (document : AccountPenalties)
    (hconnected : o.desk.store.connected = true) (hnone : o.document? document.key = none) :
    Activity.run (take conduct) Activity.unlogged (PenaltyLookup.keep document.key document) o =
      (.ok document, o.keeping document) := by
  have hcreate := Store.createAccount_of_none hconnected hnone
  simp only [PenaltyLookup.keep, Activity.step, Activity.ask_bind, Activity.done_bind,
    Activity.run_ask, take, answer, atDesk, Desk.answer, Desk.atAccounts, Store.perform, hcreate]
  simp [Store.account, Store.whenConnected, hconnected, keeping]

/-- A document is made from the book, if the ledger reports. -/
lemma run_fetch {o : Office} (hconnected : o.desk.store.connected = true) {key : AccountKey}
    (hnone : o.document? key = none) (reporting : Except LedgerError Page) :
    Activity.run (take { reporting }) Activity.unlogged (PenaltyLookup.fetch key) o =
      match reporting with
      | .error e => (.error (.ledger e), o)
      | .ok _ => (.ok (o.made key), o.fetched key) := by
  simp only [PenaltyLookup.fetch, Activity.step, Activity.report, Activity.ask_bind,
    Activity.done_bind, Activity.run_ask, take, answer, LedgerConduct.report]
  cases reporting with
  | error e => rfl
  | ok page =>
    exact run_keep { o with desk := { o.desk with looks := o.desk.looks + 1 } } (o.made key)
      hconnected hnone

/-- **A look at the penalties of an account** gives the document that the store has, or else one
that is made from the book, if the ledger reports. -/
lemma run_penalties {o : Office} (hconnected : o.desk.store.connected = true) (key : AccountKey)
    (reporting : Except LedgerError Page) :
    Activity.run (take { reporting }) Activity.unlogged (PenaltyLookup.penalties key) o =
      match o.document? key, reporting with
      | some document, _ => (.ok document, o)
      | none, .error e => (.error (.ledger e), o)
      | none, .ok _ => (.ok (o.made key), o.fetched key) := by
  simp only [PenaltyLookup.penalties, Activity.step, Activity.report, Activity.ask_bind,
    Activity.done_bind, Activity.run_ask, take, answer, atDesk, Desk.answer, Desk.atAccounts,
    Store.perform, Store.account, Store.whenConnected, hconnected, if_true]
  cases hdocument : o.document? key with
  | some document =>
    rw [document?] at hdocument
    rw [hdocument]
    rfl
  | none =>
    have hfetch := run_fetch hconnected hdocument reporting
    rw [document?] at hdocument
    rw [hdocument]
    refine hfetch.trans ?_
    cases reporting <;> rfl

/-! ## The documents and the book -/

/-- **The documents show what the book does**: the store is connected, and the first item with a
reference in a document is paid exactly when the first such transaction is. -/
structure Mirrored (o : Office) : Prop where
  connected : o.desk.store.connected = true
  paid? : ∀ {key : AccountKey} {document : AccountPenalties}, o.document? key = some document →
    ∀ reference, document.paid? reference = o.book.paid? key reference

namespace Mirrored

variable {o : Office}

/-- An accepted event is marked in the document of its account. -/
lemma accept (h : o.Mirrored) (e : PenaltyPaymentEvent) :
    Mirrored ⟨o.desk.markAll e.account e.references, o.book.accept e⟩ where
  connected := by
    simp only [Desk.markAll, h.connected, if_true]
  paid? := by
    intro key document hdocument reference
    simp only [document?, Desk.markAll, h.connected, if_true, Table.find?_modify] at hdocument
    simp only [LedgerBook.paid?, LedgerBook.accept]
    by_cases hkey : key = e.account
    · rw [if_pos hkey, Option.map_eq_some_iff] at hdocument
      obtain ⟨before, hbefore, rfl⟩ := hdocument
      have hmarks : ((o.desk.marks e.references).any fun mark => mark.1 == reference) =
          e.references.contains reference := by
        rw [Bool.eq_iff_iff, List.any_eq_true, List.contains_iff_mem, ← o.desk.mem_marks]
        simp
      rw [if_pos hkey, AccountPenalties.paid?_payAll, hmarks, h.paid? hbefore reference,
        LedgerTransaction.paid?_paidFor]
      rfl
    · rw [if_neg hkey] at hdocument ⊢
      exact h.paid? hdocument reference

/-- A rejected event is marked nowhere. -/
lemma reject (h : o.Mirrored) (key : PayableKey) (action : LedgerAction) :
    Mirrored { o with desk := o.desk.noted key action } := by
  obtain ⟨hconnected, haccounts⟩ := o.desk.noted_accounts key action
  refine ⟨hconnected.trans h.connected, fun {other document} hdocument => ?_⟩
  rw [document?, haccounts] at hdocument
  exact h.paid? hdocument

/-- A document that is made from the book shows what the book does. -/
lemma fetched (h : o.Mirrored) (key : AccountKey) : (o.fetched key).Mirrored where
  connected := h.connected
  paid? := by
    intro other document hdocument reference
    have hfind : (if other = key then some (o.made key) else o.document? other) =
        some document := by
      rw [← hdocument]
      exact (Table.find?_insert _ _ _ _).symm
    split at hfind
    · rename_i hkey
      obtain rfl := Option.some.inj hfind
      rw [hkey]
      exact AccountPenalties.paid?_ofTransactions _ _ _ _
    · exact h.paid? hfind reference

/-- The removal of a document leaves the others. -/
lemma delete (h : o.Mirrored) (key : AccountKey) : (o.perform (.delete key)).Mirrored := by
  have hstep : o.perform (.delete key) = { o with
      desk := { o.desk with
        store := { o.desk.store with accounts := o.desk.store.accounts.erase key } } } := by
    rw [perform, Errand.work, Activity.run_discard]
    simp only [Activity.step, Activity.run_ask, take, answer, atDesk, Desk.answer, Desk.atAccounts,
      Store.perform, Store.deleteAccount, Store.whenConnected, h.connected, if_true]
    rfl
  rw [hstep]
  refine ⟨h.connected, fun {other document} hdocument reference => ?_⟩
  have hfind : (if other = key then none else o.document? other) = some document := by
    rw [← hdocument]
    exact (Table.find?_erase _ _ _).symm
  split at hfind
  · cases hfind
  · exact h.paid? hfind reference

/-- A look at penalties makes no other documents than those from the book. -/
lemma looked (h : o.Mirrored) (key : AccountKey) (reporting : Except LedgerError Page) :
    (Activity.run (take { reporting }) Activity.unlogged
      (PenaltyLookup.penalties key) o).2.Mirrored := by
  rw [run_penalties h.connected]
  split
  · exact h
  · exact h
  · exact h.fetched key

/-- **Each errand keeps the documents as they should be.** -/
theorem perform (h : o.Mirrored) (errand : Errand) : (o.perform errand).Mirrored := by
  cases errand with
  | settle event verdict =>
    rw [perform_settle]
    split
    · exact h.reject event.payable .confirm
    · exact h.accept event
  | penalties key reporting =>
    rw [Office.perform, Errand.work, Activity.run_discard]
    exact h.looked key reporting
  | isPaid key reference reporting =>
    rw [Office.perform, Errand.work, Activity.run_discard, PenaltyLookup.run_isPaid]
    exact h.looked key reporting
  | transactions query reporting => exact h
  | delete key => exact h.delete key

end Mirrored

/-- A look at penalties leaves the book. -/
lemma book_looked {o : Office} (hconnected : o.desk.store.connected = true) (key : AccountKey)
    (reporting : Except LedgerError Page) :
    (Activity.run (take { reporting }) Activity.unlogged
      (PenaltyLookup.penalties key) o).2.book = o.book := by
  rw [run_penalties hconnected]
  split <;> rfl

/-- The book after an errand shows the event that has been accepted with it. -/
lemma book_perform {o : Office} (hconnected : o.desk.store.connected = true) (errand : Errand) :
    (o.perform errand).book = errand.accepted?.elim o.book o.book.accept := by
  cases errand with
  | settle event verdict =>
    rw [perform_settle]
    cases verdict <;> rfl
  | penalties key reporting =>
    rw [perform, Errand.work, Activity.run_discard]
    exact book_looked hconnected key reporting
  | isPaid key reference reporting =>
    rw [perform, Errand.work, Activity.run_discard, PenaltyLookup.run_isPaid]
    exact book_looked hconnected key reporting
  | transactions query reporting => rfl
  | delete key => rfl

/-- **An office at the beginning**: its store is connected and has no documents. -/
def opening (desk : Desk) (book : LedgerBook) : Office where
  desk := { desk with store := { desk.store with connected := true, accounts := .empty } }
  book := book

lemma mirrored_opening (desk : Desk) (book : LedgerBook) : (opening desk book).Mirrored where
  connected := rfl
  paid? := by
    intro key document hdocument
    cases hdocument

/-- After errands the documents still show what the book does, and the book shows the events that
have been accepted.

**Proof sketch.** Induction on the errands. -/
lemma mirrored_performAll {o : Office} (h : o.Mirrored) (errands : List Errand) :
    (o.performAll errands).Mirrored ∧
      (o.performAll errands).book =
        (errands.filterMap Errand.accepted?).foldl LedgerBook.accept o.book := by
  induction errands generalizing o with
  | nil => exact ⟨h, rfl⟩
  | cons errand errands ih =>
    obtain ⟨hmirrored, hbook⟩ := ih (h.perform errand)
    refine ⟨hmirrored, hbook.trans ?_⟩
    rw [book_perform h.connected, List.filterMap_cons]
    cases errand.accepted? <;> rfl

/-- **The store answers as the ledger would.** After any errands, one after the other, the question
whether a penalty is paid gets the answer that the first transaction with its reference has in the
book at that time, whether or not the store has a document for the account; only when it has none
and the ledger does not report either, there is no answer. The book itself is the one at the
beginning with the events that have been accepted.

**Proof sketch.** Each errand keeps the documents as they should be (`Mirrored.perform`): an
accepted event pays all transactions with its references in the book and the first item with each of
them in the document, which comes to the same for the first ones; a document is made from the book
and shows what that does. So the answer is the same from a document as from the book. -/
theorem isPaid_performAll (desk : Desk) (book : LedgerBook) (errands : List Errand) :
    let o := (opening desk book).performAll errands
    o.book = (errands.filterMap Errand.accepted?).foldl LedgerBook.accept book ∧
      ∀ (key : AccountKey) (reference : String) (reporting : Except LedgerError Page),
        o.isPaid key reference reporting =
          match o.document? key, reporting with
          | none, .error e => .error (.ledger e)
          | _, _ => .ok (o.book.paid? key reference) := by
  obtain ⟨hmirrored, hbook⟩ := mirrored_performAll (mirrored_opening desk book) errands
  refine ⟨hbook, fun key reference reporting => ?_⟩
  rw [isPaid, PenaltyLookup.run_isPaid, run_penalties hmirrored.connected]
  cases hdocument : ((opening desk book).performAll errands).document? key with
  | some document => exact congrArg Except.ok (hmirrored.paid? hdocument reference)
  | none =>
    cases reporting with
    | error e => rfl
    | ok page => exact congrArg Except.ok (AccountPenalties.paid?_ofTransactions _ _ _ _)

end Office

end PenaltySettlement
