import Mathlib.Data.Option.Basic
import PenaltySettlement.PenaltyLookup
import PenaltySettlement.Settlement
import PenaltySettlement.Proofs.Marking

/-!
# Settling events at a desk

A desk is where events are settled one after the other: it has the stores, the answers that the
ledger is going to give, one for each call, and the readings of the clock. Nothing else touches
the stores meanwhile, so what the work on an event leaves can be written down at once: one call of
the ledger, and then either the marks of the event in the document of its account or the note of
the failure.

## Main definitions

* `Desk` — the stores, the ledger and the clock.
* `Desk.settle` — the work on an event with all its steps taken at a desk.
* `Desk.processAll` — the work on payloads, one after the other.
* `Desk.Accepts`, `Desk.Pays` — the events among payloads that the ledger confirms, and what they
  pay for.
* `Desk.Alike` — desks that differ only in their clocks.

## Main results

* `Desk.settle_desk` — the desk after the work on an event.
* `Desk.marked_processAll` — the documents after the work on payloads.
* `Desk.Alike.processAll` — the clock has no influence but on closing times.
-/

set_option autoImplicit false

namespace PenaltySettlement

open AccountPenalties (Mark)

/-- Where events are settled: the store of the penalties of accounts, the one of the payable
resources if that is another one, the answers of the ledger and the readings of the clock, each in
the order in which they are going to be asked for. What the ledger has been asked is kept. -/
structure Desk where
  store : Store
  payables : Option Store := none
  confirms : Nat → Except LedgerError Unit
  reports : Nat → Except LedgerError TransactionsResponse
  clock : Nat → Instant
  confirmCalls : List PaymentActionInput := []
  queries : List TransactionsQuery := []
  looks : Nat := 0

namespace Desk

/-! ## Steps at a desk -/

/-- An action on the store of the penalties of accounts. -/
def atAccounts (d : Desk) (action : StoreAction) : Except StoreError action.Result × Desk × Log :=
  let step := d.store.perform action
  (step.outcome, { d with store := step.store }, step.log)

/-- The store of the payable resources. -/
def payablesStore (d : Desk) : Store := d.payables.getD d.store

/-- The desk with another state of the store of the payable resources. -/
def withPayables (d : Desk) (s : Store) : Desk :=
  match d.payables with
  | none => { d with store := s }
  | some _ => { d with payables := some s }

/-- An action on the store of the payable resources. -/
def atPayables (d : Desk) (action : StoreAction) : Except StoreError action.Result × Desk × Log :=
  let step := d.payablesStore.perform action
  (step.outcome, d.withPayables step.store, step.log)

/-- **The answer to a step.** -/
def answer (d : Desk) : (question : Ask) → question.Answer × Desk × Log
  | .accounts action => d.atAccounts action
  | .payables action => d.atPayables action
  | .confirm input =>
    (d.confirms d.confirmCalls.length, { d with confirmCalls := d.confirmCalls ++ [input] }, [])
  | .transactions query =>
    (d.reports d.queries.length, { d with queries := d.queries ++ [query] }, [])
  | .time => (d.clock d.looks, { d with looks := d.looks + 1 }, [])

/-- A step that is taken at the desk. -/
def take (question : Ask) : StateM (Desk × Log) question.Answer := fun s =>
  let (answer, d, log) := s.1.answer question
  (answer, d, s.2 ++ log)

/-- What is reported at the desk goes to the log. -/
def write (entry : LogEntry) : StateM (Desk × Log) Unit := fun s => ((), s.1, s.2 ++ [entry])

/-- **The work on an event** at the desk, with all its steps taken there. -/
def settle (d : Desk) (e : PenaltyPaymentEvent) : Except SettlementError Unit × Desk × Log :=
  Activity.run take write (Settlement.settle e) (d, [])

/-- The work on a payload, whatever comes of it. One that is no event is dropped. -/
def process (d : Desk) (payload : List UInt8) : Desk :=
  match PenaltyPaymentEvent.decode payload with
  | .error _ => d
  | .ok event => (d.settle event).2.1

/-- **The work on payloads**, one after the other. -/
def processAll (d : Desk) (payloads : List (List UInt8)) : Desk := payloads.foldl process d

end Desk

/-- Whether a penalty is paid is read off the document that a look at the penalties gives, wherever
the steps are taken. -/
lemma PenaltyLookup.run_isPaid {σ : Type} (take : (question : Ask) → StateM σ question.Answer)
    (write : LogEntry → StateM σ Unit) (key : AccountKey) (reference : String) (s : σ) :
    Activity.run take write (isPaid key reference) s =
      let looked := Activity.run take write (penalties key) s
      (looked.1.map fun document => document.paid? reference, looked.2) := by
  rw [isPaid, Activity.run_bind_state]
  rcases Activity.run take write (penalties key) s with ⟨e | document, after⟩ <;> rfl

namespace Desk

/-! ## The desk after the work on an event -/

/-- The marks of references, each with the reading of the clock at its turn. -/
def marks (d : Desk) (references : List String) : List Mark :=
  (references.zipIdx d.looks).map fun place => (place.1, (d.clock place.2).toMillis)

/-- The desk after references of an account have been marked paid. A store that is not connected
refuses the first mark. -/
def markAll (d : Desk) (key : AccountKey) (references : List String) : Desk :=
  if d.store.connected then
    { d with
      store := { d.store with
        accounts := d.store.accounts.modify key fun a => a.payAll (d.marks references) }
      looks := d.looks + references.length }
  else { d with looks := d.looks + min references.length 1 }

end Desk

/-- A store after the note of a failed action on the resource that a name stands for. -/
def Store.noted (s : Store) (key : PayableKey) (action : LedgerAction) : Store :=
  { s with
    payables :=
      if s.connected then
        match s.latestPayable? key with
        | none => s.payables
        | some resource => (s.noteFailure resource.id action).store.payables
      else s.payables }

namespace Store

variable {s s' : Store} {key : PayableKey} (action : LedgerAction)

/-- A store that is not connected finds no resource to note a failure on. -/
lemma noted_of_not_connected (h : s.connected = false) : s.noted key action = s := by
  rw [noted, h]
  exact congrArg (fun connected => { s with connected }) h.symm

/-- Without a resource there is nothing to note a failure on. -/
lemma noted_of_none (h : s.latestPayable? key = none) : s.noted key action = s := by
  simp [noted, h]

/-- The failure is noted on the resource that is found. -/
lemma noted_of_some (hconnected : s.connected = true) {resource : PayableResource}
    (h : s.latestPayable? key = some resource) :
    s.noted key action = (s.noteFailure resource.id action).store := by
  simp [noted, noteFailure, hconnected, h]

/-- The note depends on nothing but the resources and their names. -/
lemma noted_payables_congr (hconnected : s'.connected = s.connected)
    (hpayables : s'.payables = s.payables) (hlatest : s'.latest = s.latest) :
    (s'.noted key action).payables = (s.noted key action).payables := by
  have hresource : s'.latestPayable? key = s.latestPayable? key := by
    rw [latestPayable?, latestPayable?, hlatest, hpayables]
  simp only [noted, noteFailure, hconnected, hresource, hpayables]

end Store

namespace Desk

/-- The desk after the note of a failed action. -/
def noted (d : Desk) (key : PayableKey) (action : LedgerAction) : Desk :=
  d.withPayables (d.payablesStore.noted key action)

/-- The desk after a call for confirmation. -/
def called (d : Desk) (e : PenaltyPaymentEvent) : Desk :=
  { d with confirmCalls := d.confirmCalls ++ [e.confirmation] }

/-- The desk after the work on an event: the ledger is asked, and its answer decides. -/
def settled (d : Desk) (e : PenaltyPaymentEvent) : Desk :=
  match d.confirms d.confirmCalls.length with
  | .error _ => (d.called e).noted e.payable .confirm
  | .ok () => (d.called e).markAll e.account e.references

/-- Without references there is nothing to mark. -/
lemma markAll_nil (d : Desk) (key : AccountKey) : d.markAll key [] = d := by
  unfold markAll
  split
  · have hsame : (d.store.accounts.modify key fun a => a.payAll (d.marks [])) =
        d.store.accounts := Table.modify_eq_self fun _ _ => rfl
    rw [hsame]
    rfl
  · rfl

/-- The first reference is marked first, at the first look at the clock. -/
lemma markAll_cons {d : Desk} (h : d.store.connected = true) (key : AccountKey) (reference : String)
    (references : List String) :
    d.markAll key (reference :: references) =
      ({ d with
        store := (d.store.markPaid key reference (d.clock d.looks).toMillis).store
        looks := d.looks + 1 } : Desk).markAll key references := by
  rw [(Store.markPaid_of_connected h key reference _).2]
  simp only [markAll, h, if_true, Table.modify_modify, List.length_cons]
  rw [Nat.add_right_comm, Nat.add_assoc]
  rfl

/-- Marking references one after the other leaves the desk with all of them marked.

**Proof sketch.** Induction on the references. In a connected store each mark succeeds and the
others follow; a store that is not connected refuses the first one, and the work is over. -/
lemma markPaid_desk (key : AccountKey) (references : List String) (d : Desk) (log : Log) :
    (Activity.run take write (Settlement.markPaid key references) (d, log)).2.1 =
      d.markAll key references := by
  induction references generalizing d log with
  | nil => exact (d.markAll_nil key).symm
  | cons reference references ih =>
    simp only [Settlement.markPaid, Activity.step, Activity.ask_bind, Activity.done_bind,
      Activity.pure_eq, Activity.run_ask, take, answer, atAccounts, Store.perform]
    cases h : d.store.connected with
    | true =>
      rw [markAll_cons h]
      rw [(Store.markPaid_of_connected h key reference _).1]
      exact ih _ _
    | false =>
      rw [Store.markPaid_of_not_connected h]
      simp [markAll, h]

/-- Putting back the store of the payable resources changes nothing. -/
@[simp]
lemma withPayables_self (d : Desk) : d.withPayables d.payablesStore = d := by
  obtain ⟨store, payables, _⟩ := d
  cases payables <;> rfl

/-- Noting a failure leaves the desk with its note: finding the resource changes nothing, and the
note is made at the same desk. -/
lemma noteFailure_desk (key : PayableKey) (action : LedgerAction) (d : Desk) (log : Log) :
    (Activity.run take write (Settlement.noteFailure key action) (d, log)).2.1 =
      d.noted key action := by
  simp only [Settlement.noteFailure, Activity.step, Activity.ask_bind, Activity.done_bind,
    Activity.run_ask, take, answer, atPayables, noted, Store.perform, Store.payable,
    Store.whenConnected]
  cases h : d.payablesStore.connected with
  | false =>
    rw [Store.noted_of_not_connected _ h]
    simp
  | true =>
    cases hlatest : d.payablesStore.latestPayable? key with
    | none =>
      rw [Store.noted_of_none _ hlatest]
      simp [Activity.report, write]
    | some resource =>
      rw [Store.noted_of_some _ h hlatest]
      simp only [if_true, withPayables_self]
      rfl

/-- So does recording the failure of the ledger for an event. -/
lemma recordLedgerFailure_desk (e : PenaltyPaymentEvent) (action : LedgerAction) (d : Desk)
    (log : Log) :
    (Activity.run take write (Settlement.recordLedgerFailure e action) (d, log)).2.1 =
      d.noted e.payable action := by
  rw [Settlement.recordLedgerFailure, Activity.run_bind_state]
  rw [← noteFailure_desk e.payable action d log]
  cases (Activity.run take write (Settlement.noteFailure e.payable action) (d, log)).1 <;> rfl

/-- **The desk after the work on an event.** -/
theorem settle_desk (d : Desk) (e : PenaltyPaymentEvent) : (d.settle e).2.1 = d.settled e := by
  rw [settle, Settlement.settle, Activity.run_bind_state, settled]
  simp only [Activity.step, Activity.run_ask, take, answer]
  cases d.confirms d.confirmCalls.length with
  | error source =>
    show (Activity.run take write (Settlement.recordLedgerFailure e .confirm >>= _)
      (d.called e, _)).2.1 = _
    rw [Activity.run_bind_state]
    exact recordLedgerFailure_desk e .confirm (d.called e) _
  | ok done =>
    show (Activity.run take write (Settlement.markPaid e.account e.references >>= _)
      (d.called e, _)).2.1 = _
    rw [Activity.run_bind_state, ← markPaid_desk e.account e.references (d.called e)]
    cases (Activity.run take write (Settlement.markPaid e.account e.references)
      (d.called e, _)).1 <;> rfl

/-! ## Payloads one after the other -/

/-- The events among payloads, in their order. -/
def events (payloads : List (List UInt8)) : List PenaltyPaymentEvent :=
  payloads.filterMap fun payload => (PenaltyPaymentEvent.decode payload).toOption

/-- **An event whose confirmation is accepted.** Each event among the payloads makes one call, so
the answer to it is found by its place. -/
def Accepts (d : Desk) (payloads : List (List UInt8)) (e : PenaltyPaymentEvent) : Prop :=
  ∃ n, (events payloads)[n]? = some e ∧ d.confirms (d.confirmCalls.length + n) = .ok ()

/-- What the accepted events among payloads pay for. -/
def Pays (d : Desk) (payloads : List (List UInt8)) (key : AccountKey) (reference : String) : Prop :=
  ∃ e, d.Accepts payloads e ∧ e.account = key ∧ reference ∈ e.references

@[simp]
lemma processAll_nil (d : Desk) : d.processAll [] = d := rfl

@[simp]
lemma processAll_cons (d : Desk) (payload : List UInt8) (payloads : List (List UInt8)) :
    d.processAll (payload :: payloads) = (d.process payload).processAll payloads := rfl

/-- A payload that is no event is dropped. -/
lemma process_of_undecodable {payload : List UInt8} {fault : Json.Fault}
    (h : PenaltyPaymentEvent.decode payload = .error fault) (d : Desk) : d.process payload = d := by
  rw [process, h]

/-- An event is settled. -/
lemma process_of_event {payload : List UInt8} {event : PenaltyPaymentEvent}
    (h : PenaltyPaymentEvent.decode payload = .ok event) (d : Desk) :
    d.process payload = d.settled event := by
  rw [process, h]
  exact d.settle_desk event

/-- A payload that is no event adds none. -/
lemma events_of_undecodable {payload : List UInt8} {fault : Json.Fault}
    (h : PenaltyPaymentEvent.decode payload = .error fault) (payloads : List (List UInt8)) :
    events (payload :: payloads) = events payloads := by
  simp [events, h, Except.toOption]

/-- An event comes first among the events of its payload and the others. -/
lemma events_of_event {payload : List UInt8} {event : PenaltyPaymentEvent}
    (h : PenaltyPaymentEvent.decode payload = .ok event) (payloads : List (List UInt8)) :
    events (payload :: payloads) = event :: events payloads := by
  simp [events, h, Except.toOption]

/-- The work on an event makes one call for confirmation, and no answer is lost by it. -/
lemma settled_calls (d : Desk) (e : PenaltyPaymentEvent) :
    (d.settled e).confirmCalls = d.confirmCalls ++ [e.confirmation] ∧
      (d.settled e).confirms = d.confirms := by
  unfold settled
  split
  · unfold noted withPayables
    split <;> exact ⟨rfl, rfl⟩
  · unfold markAll
    split <;> exact ⟨rfl, rfl⟩

/-- **The calls for confirmation** are those of the events, in their order. -/
theorem confirmCalls_processAll (d : Desk) (payloads : List (List UInt8)) :
    (d.processAll payloads).confirmCalls =
      d.confirmCalls ++ (events payloads).map PenaltyPaymentEvent.confirmation := by
  induction payloads generalizing d with
  | nil => simp [events]
  | cons payload payloads ih =>
    rw [processAll_cons, ih]
    cases h : PenaltyPaymentEvent.decode payload with
    | error fault => rw [process_of_undecodable h, events_of_undecodable h]
    | ok event =>
      rw [process_of_event h, events_of_event h, (d.settled_calls event).1, List.map_cons,
        List.append_assoc]
      rfl

/-- The first event is accepted by the next answer, and each further one behind it. -/
lemma accepts_cons {payload : List UInt8} {event : PenaltyPaymentEvent}
    (h : PenaltyPaymentEvent.decode payload = .ok event) (d : Desk) (payloads : List (List UInt8))
    (e : PenaltyPaymentEvent) :
    d.Accepts (payload :: payloads) e ↔
      (e = event ∧ d.confirms d.confirmCalls.length = .ok ()) ∨
        (d.settled event).Accepts payloads e := by
  obtain ⟨hcalls, hconfirms⟩ := d.settled_calls event
  unfold Accepts
  rw [events_of_event h, hcalls, hconfirms, List.length_append, List.length_singleton]
  constructor
  · rintro ⟨n, hn, hok⟩
    cases n with
    | zero => exact .inl ⟨(Option.some.inj hn).symm, hok⟩
    | succ n => exact .inr ⟨n, hn, by rwa [Nat.add_assoc, Nat.add_comm 1 n]⟩
  · rintro (⟨rfl, hok⟩ | ⟨n, hn, hok⟩)
    · exact ⟨0, rfl, hok⟩
    · exact ⟨n + 1, hn, by rwa [Nat.add_assoc, Nat.add_comm 1 n] at hok⟩

/-- A note on a payable resource is none on an account. -/
lemma noted_accounts (d : Desk) (key : PayableKey) (action : LedgerAction) :
    (d.noted key action).store.connected = d.store.connected ∧
      (d.noted key action).store.accounts = d.store.accounts := by
  obtain ⟨store, payables, _⟩ := d
  cases payables <;> exact ⟨rfl, rfl⟩

/-- The references of marks are those that were to be marked. -/
lemma mem_marks (d : Desk) (references : List String) (reference : String) :
    (∃ time, (reference, time) ∈ d.marks references) ↔ reference ∈ references := by
  constructor
  · rintro ⟨time, h⟩
    obtain ⟨⟨r, n⟩, hr, heq⟩ := List.mem_map.1 h
    obtain ⟨rfl, -⟩ := Prod.mk.injEq _ _ _ _ ▸ heq
    exact List.fst_mem_of_mem_zipIdx hr
  · intro h
    obtain ⟨i, hi, rfl⟩ := List.getElem_of_mem h
    exact ⟨_, List.mem_map.2 ⟨(references[i], d.looks + i),
      List.mk_add_mem_zipIdx_iff_getElem?.2 (List.getElem?_eq_getElem hi), rfl⟩⟩

/-- The work on an event in a connected store: the document of its account is marked with its
references if the ledger confirms it, and no other document is touched. -/
lemma settled_marked {d : Desk} (hconnected : d.store.connected = true) (e : PenaltyPaymentEvent) :
    d.store.Marked (d.settled e).store fun key reference =>
      d.confirms d.confirmCalls.length = .ok () ∧ e.account = key ∧ reference ∈ e.references := by
  unfold settled
  cases d.confirms d.confirmCalls.length with
  | error source =>
    obtain ⟨hkept, haccounts⟩ := (d.called e).noted_accounts e.payable .confirm
    exact (Store.Marked.of_accounts_eq hkept haccounts).congr (by simp)
  | ok done =>
    have hcalled : (d.called e).store.connected = true := hconnected
    simp only [markAll, hcalled, if_true]
    refine Store.Marked.congr (Store.Marked.of_modify (d.marks e.references) hconnected.symm rfl)
      fun key reference => ?_
    rw [mem_marks]
    exact ⟨fun h => ⟨trivial, h⟩, And.right⟩

/-- **The documents after the work on payloads**: the document of each account has been marked with
the references of the accepted events of that account, and with no others.

**Proof sketch.** Induction on the payloads. What is no event leaves the documents, and an event
puts its marks, if it is accepted, on the document of its account before those of the events
behind it. -/
theorem marked_processAll {d : Desk} (hconnected : d.store.connected = true)
    (payloads : List (List UInt8)) :
    d.store.Marked (d.processAll payloads).store (d.Pays payloads) := by
  induction payloads generalizing d with
  | nil => exact (Store.Marked.of_accounts_eq rfl rfl).congr (by simp [Pays, Accepts, events])
  | cons payload payloads ih =>
    rw [processAll_cons]
    cases h : PenaltyPaymentEvent.decode payload with
    | error fault =>
      rw [process_of_undecodable h]
      refine (ih hconnected).congr fun key reference => ?_
      simp only [Pays, Accepts, events_of_undecodable h]
    | ok event =>
      rw [process_of_event h]
      have hfirst := settled_marked hconnected event
      refine (hfirst.trans (ih (hfirst.connected.trans hconnected))).congr fun key reference => ?_
      simp only [Pays, accepts_cons h, or_and_right, exists_or]
      refine or_congr ?_ Iff.rfl
      constructor
      · rintro ⟨hok, hkey, hreference⟩
        exact ⟨event, ⟨rfl, hok⟩, hkey, hreference⟩
      · rintro ⟨e, ⟨rfl, hok⟩, hkey, hreference⟩
        exact ⟨hok, hkey, hreference⟩

end Desk

/-! ## Two clocks -/

/-- Documents that differ at most in their closing times, and there only by what two clocks show
at the same look. -/
structure AccountPenalties.Alike (clock other : Nat → Instant) (a b : AccountPenalties) : Prop where
  kept : { a with closedAt := b.closedAt } = b
  closedAt : a.closedAt = b.closedAt ∨
    ∃ n, a.closedAt = some (clock n).toMillis ∧ b.closedAt = some (other n).toMillis

namespace AccountPenalties.Alike

variable {clock other : Nat → Instant} {a b : AccountPenalties}

/-- A document is like itself. -/
lemma refl (clock other : Nat → Instant) (a : AccountPenalties) : a.Alike clock other a where
  kept := rfl
  closedAt := .inl rfl

/-- Documents that are alike have the same items. -/
lemma data (h : a.Alike clock other b) : b.data = a.data := by
  rw [← h.kept]

/-- A mark at the same look keeps documents alike. -/
lemma markPaid (h : a.Alike clock other b) (reference : String) (n : Nat) :
    (a.markPaid reference (clock n).toMillis).Alike clock other
      (b.markPaid reference (other n).toMillis) := by
  have hplace : b.place? reference = a.place? reference := by
    rw [place?, place?, references, references, h.data]
  cases hi : a.place? reference with
  | none =>
    rw [markPaid_of_place_none hi, markPaid_of_place_none (hplace.trans hi)]
    exact h
  | some i =>
    rw [markPaid_of_place hi, markPaid_of_place (hplace.trans hi)]
    refine ⟨?_, .inr ⟨n, rfl, rfl⟩⟩
    rw [← h.kept]

/-- So do several marks. -/
lemma payAll (h : a.Alike clock other b) (places : List (String × Nat)) :
    (a.payAll (places.map fun place => (place.1, (clock place.2).toMillis))).Alike clock other
      (b.payAll (places.map fun place => (place.1, (other place.2).toMillis))) := by
  induction places generalizing a b with
  | nil => exact h
  | cons place places ih => exact ih (h.markPaid place.1 place.2)

end AccountPenalties.Alike

namespace Desk

/-- **Desks that differ at most in their clocks** and in the closing times that have been read from
them. -/
structure Alike (d d' : Desk) : Prop where
  confirms : d'.confirms = d.confirms
  reports : d'.reports = d.reports
  confirmCalls : d'.confirmCalls = d.confirmCalls
  queries : d'.queries = d.queries
  looks : d'.looks = d.looks
  payablesApart : d'.payables = d.payables
  connected : d'.store.connected = d.store.connected
  payables : d'.store.payables = d.store.payables
  latest : d'.store.latest = d.store.latest
  keys : d'.store.accounts.keys = d.store.accounts.keys
  documents : ∀ key, Option.Rel (AccountPenalties.Alike d.clock d'.clock)
    (d.store.accounts.find? key) (d'.store.accounts.find? key)

/-- Another clock makes no other difference. -/
lemma alike_clock (d : Desk) (clock : Nat → Instant) : d.Alike { d with clock } := by
  refine ⟨rfl, rfl, rfl, rfl, rfl, rfl, rfl, rfl, rfl, rfl, fun key => ?_⟩
  show Option.Rel _ (d.store.accounts.find? key) (d.store.accounts.find? key)
  cases d.store.accounts.find? key with
  | none => exact .none
  | some a => exact .some (.refl _ _ a)

namespace Alike

variable {d d' : Desk}

/-- The same note on a payable resource. -/
lemma noted (h : d.Alike d') (key : PayableKey) (action : LedgerAction) :
    (d.noted key action).Alike (d'.noted key action) := by
  unfold Desk.noted withPayables payablesStore
  rw [h.payablesApart]
  cases d.payables with
  | some s => exact { h with payablesApart := rfl }
  | none =>
    have hnoted := @Store.noted_payables_congr _ _ key action h.connected h.payables h.latest
    exact { h with payablesApart := rfl, payables := hnoted }

/-- The same marks, each at the same look. -/
lemma markAll (h : d.Alike d') (key : AccountKey) (references : List String) :
    (d.markAll key references).Alike (d'.markAll key references) := by
  unfold Desk.markAll
  rw [h.connected]
  split
  · refine { h with looks := ?_, keys := ?_, documents := fun other => ?_ }
    · show d'.looks + _ = d.looks + _
      rw [h.looks]
    · show Table.keys (Table.modify _ _ _) = Table.keys (Table.modify _ _ _)
      rw [Table.keys_modify, Table.keys_modify, h.keys]
    · show Option.Rel _ (Table.find? (Table.modify _ _ _) other)
        (Table.find? (Table.modify _ _ _) other)
      rw [Table.find?_modify, Table.find?_modify]
      have hother := h.documents other
      split
      · cases hfind : d.store.accounts.find? other <;>
          cases hfind' : d'.store.accounts.find? other <;> rw [hfind, hfind'] at hother
        · exact .none
        · cases hother
        · cases hother
        · obtain hother := Option.rel_some_some.1 hother
          refine .some ?_
          unfold marks
          rw [h.looks]
          exact hother.payAll (references.zipIdx d.looks)
      · exact hother
  · refine { h with looks := ?_ }
    show d'.looks + _ = d.looks + _
    rw [h.looks]

/-- The same call for confirmation. -/
lemma called (h : d.Alike d') (e : PenaltyPaymentEvent) : (d.called e).Alike (d'.called e) where
  __ := h
  confirmCalls := congrArg (· ++ [e.confirmation]) h.confirmCalls

/-- The work on an event keeps desks alike: the answer of the ledger is the same at both. -/
lemma settled (h : d.Alike d') (e : PenaltyPaymentEvent) : (d.settled e).Alike (d'.settled e) := by
  unfold Desk.settled
  rw [h.confirms, h.confirmCalls]
  split
  · exact (h.called e).noted e.payable .confirm
  · exact (h.called e).markAll e.account e.references

/-- **The work on payloads keeps desks alike.** -/
theorem processAll (h : d.Alike d') (payloads : List (List UInt8)) :
    (d.processAll payloads).Alike (d'.processAll payloads) := by
  induction payloads generalizing d d' with
  | nil => exact h
  | cons payload payloads ih =>
    rw [processAll_cons, processAll_cons]
    cases hdecode : PenaltyPaymentEvent.decode payload with
    | error fault =>
      rw [process_of_undecodable hdecode, process_of_undecodable hdecode]
      exact ih h
    | ok event =>
      rw [process_of_event hdecode, process_of_event hdecode]
      exact ih (h.settled event)

end Alike

end Desk

end PenaltySettlement
