import PenaltySettlement.Proofs.Desk
import PenaltySettlement.Proofs.Interleaving

/-!
# What the work on an event comes to

The work on an event asks the ledger once. If the ledger refuses the payment, its error is what the
work comes to, whatever becomes of the note of the failure, and the note is all that changes in the
stores. If the ledger confirms the payment, only the documents of accounts may change, and the work
fails only when there is something to mark and the store has been shut down.

## Main definitions

* `Store.Filed` — resources that are found under their own identifiers.
* `Ask.OfLedger`, `Ask.Notes` — the steps that the ledger answers, and those of a note.
* `Desk.stocked` — a desk whose stores have been through some actions.
* `Desk.Refused`, `Desk.Confirmed` — a desk before and after the work on an event, by the answer of
  the ledger.

## Main results

* `Settlement.settle_follows` — the work on an event, whatever the stores answer.
* `Store.Filed.noted_find?` — the resources after the note of a failure.
* `Desk.settle_result` — what the work on an event returns.
* `Desk.settle_ends` — the work on an event at a desk, with stores of any history.
-/

set_option autoImplicit false

namespace PenaltySettlement

/-! ## Resources and their identifiers -/

namespace Store

/-- **Every payable resource is found under its own identifier.** -/
structure Filed (s : Store) : Prop where
  own : ∀ {id resource}, s.payables.find? id = some resource → resource.id = id

namespace Filed

/-- A new store has no resource. -/
lemma new : ({} : Store).Filed where
  own := nofun

/-- Whether resources are found so depends on nothing else. -/
lemma congr {s s' : Store} (filed : s.Filed) (hpayables : s'.payables = s.payables) :
    s'.Filed where
  own := by
    rw [hpayables]
    exact filed.own

/-- A change of a resource that leaves its identifier leaves it where it is found. -/
lemma modify {s s' : Store} (filed : s.Filed) {id : String}
    (change : PayableResource → PayableResource) (hchange : ∀ r, (change r).id = r.id)
    (hpayables : s'.payables = s.payables.modify id change) : s'.Filed where
  own := by
    intro other resource hresource
    rw [hpayables, Table.find?_modify] at hresource
    split at hresource
    · obtain ⟨before, hbefore, rfl⟩ := Option.map_eq_some_iff.1 hresource
      exact (hchange before).trans (filed.own hbefore)
    · exact filed.own hresource

/-- A new resource is found under the identifier that it is given. -/
lemma insert {s s' : Store} (filed : s.Filed) {id : String} {resource : PayableResource}
    (hpayables : s'.payables = s.payables.insert id { resource with id }) : s'.Filed where
  own := by
    intro other r hr
    rw [hpayables, Table.find?_insert] at hr
    split at hr
    · rename_i hother
      obtain rfl := Option.some.inj hr
      exact hother.symm
    · exact filed.own hr

/-- **Every action keeps resources under their identifiers.** -/
lemma perform {s : Store} (filed : s.Filed) (action : StoreAction) :
    (s.perform action).store.Filed := by
  have whenConnected : ∀ {α : Type} {step : StoreStep α}, step.store.Filed →
      (s.whenConnected step).store.Filed := by
    intro α step hstep
    rw [Store.whenConnected]
    split
    · exact hstep
    · exact filed
  cases action with
  | createPayable id resource => exact whenConnected (filed.insert rfl)
  | updatePayment id payment =>
    exact whenConnected (filed.modify (fun r => { r with payment }) (fun _ => rfl) rfl)
  | noteFailure id action =>
    exact filed.modify (fun r => { r with e5CommandError := some action }) (fun _ => rfl) rfl
  | createAccount document =>
    refine whenConnected ?_
    split <;> exact filed.congr rfl
  | markPaid key reference time =>
    refine whenConnected ?_
    split <;> exact filed.congr rfl
  | account key => exact whenConnected filed
  | deleteAccount key => exact whenConnected (filed.congr rfl)
  | payable key => exact whenConnected filed
  | ping => exact whenConnected filed
  | shutDown => exact filed.congr rfl

/-- So do any number of actions. -/
lemma performAll {s : Store} (filed : s.Filed) (actions : List StoreAction) :
    (s.performAll actions).Filed := by
  induction actions generalizing s with
  | nil => exact filed
  | cons action actions ih => exact ih (filed.perform action)

/-- **The resources after the note of a failure.** Only the one that the name stands for changes,
and only if the store is connected. -/
lemma noted_find? {s : Store} (filed : s.Filed) (key : PayableKey) (action : LedgerAction)
    (id : String) :
    (s.noted key action).payables.find? id = (s.payables.find? id).map fun r =>
      if s.connected = true ∧ s.latest.find? key = some id then
        { r with e5CommandError := some action }
      else r := by
  cases hconnected : s.connected with
  | false => simp [noted_of_not_connected action hconnected]
  | true =>
    cases hresource : s.latestPayable? key with
    | none =>
      rw [noted_of_none action hresource]
      by_cases hid : s.latest.find? key = some id
      · rw [latestPayable?, hid, Option.bind_some] at hresource
        rw [hresource]
        rfl
      · simp [hid]
    | some resource =>
      obtain ⟨latest, hlatest, hfind⟩ := Option.bind_eq_some_iff.1 hresource
      rw [noted_of_some action hconnected hresource, filed.own hfind]
      show (s.payables.modify latest _).find? id = _
      rw [Table.find?_modify, hlatest]
      by_cases hid : id = latest
      · simp [hid]
      · simp [hid, Ne.symm hid]

/-- The resource that the name stands for has the failure noted if the store is connected. -/
lemma noted_latestPayable? {s : Store} (filed : s.Filed) (key : PayableKey)
    (action : LedgerAction) :
    (s.noted key action).latestPayable? key = (s.latestPayable? key).map fun r =>
      if s.connected = true then { r with e5CommandError := some action } else r := by
  show (s.latest.find? key).bind (s.noted key action).payables.find? = _
  rw [latestPayable?]
  cases hlatest : s.latest.find? key with
  | none => rfl
  | some id => simp [filed.noted_find?, hlatest]

end Filed

/-- The note of a failure keeps which resources there are. -/
lemma keys_noted (s : Store) (key : PayableKey) (action : LedgerAction) :
    (s.noted key action).payables.keys = s.payables.keys := by
  unfold noted
  split
  · cases s.latestPayable? key with
    | none => rfl
    | some resource => exact Table.keys_modify _ _ _
  · rfl

end Store

/-! ## Whatever the stores answer -/

/-- The steps that the ledger answers. -/
def Ask.OfLedger : Ask → Prop
  | .confirm _ | .transactions _ => True
  | .accounts _ | .payables _ | .time => False

/-- **The steps of a note** of a failed action: the resource that a name stands for is looked up,
and the failure is noted on a resource. -/
def Ask.Notes (key : PayableKey) (action : LedgerAction) : Ask → Prop
  | .payables (.payable other) => other = key
  | .payables (.noteFailure _ other) => other = action
  | _ => False

/-- Once the ledger has answered, it is asked no more. -/
lemma Ask.Recording.not_ofLedger {past : List Reply} {question : Ask}
    (h : question.Recording past) : ¬ question.OfLedger := by
  cases question with
  | confirm input => exact h.elim
  | transactions query => exact h.elim
  | accounts action => exact id
  | payables action => exact id
  | time => exact id

namespace Settlement

/-- Recording a failure of the ledger takes the steps of its note. -/
lemma recordLedgerFailure_notes (past : List Reply) (event : PenaltyPaymentEvent)
    (action : LedgerAction) :
    Activity.Asks (fun _ => Ask.Notes event.payable action) past
      (recordLedgerFailure event action) := by
  refine .bind (x := noteFailure event.payable action) ⟨rfl, fun answer => ?_⟩ fun past noted => ?_
  · rcases answer with e | _ | resource
    · trivial
    · trivial
    · exact ⟨rfl, fun _ => trivial⟩
  · cases noted <;> trivial

/-- **The work on an event, whatever the stores answer.** The ledger is asked first, and only once.
If it refuses the payment, the work comes to its error, and only steps of the note are taken.

**Proof sketch.** Behind the answer of the ledger only marks and notes are asked for. When that is
an error, what is left is the note, and behind it, whatever it has come to, the error of the
ledger. -/
theorem settle_follows {event : PenaltyPaymentEvent} {replies : List Reply}
    {result : Except SettlementError Unit} (h : (settle event).Follows replies (.done result)) :
    ∃ answer more, replies = ⟨.confirm event.confirmation, answer⟩ :: more ∧
      (∀ reply ∈ more, ¬ reply.question.OfLedger) ∧
      ∀ source, answer = .error source → result = .error (.ledger .confirm source) ∧
        ∀ reply ∈ more, reply.question.Notes event.payable .confirm := by
  obtain ⟨next, hsettle, hasks⟩ := settle_eq_ask event
  rw [hsettle, Activity.follows_ask_done] at h
  obtain ⟨answer, more, rfl, hmore⟩ := h
  refine ⟨answer, more, rfl, fun reply hreply => ?_, ?_⟩
  · obtain ⟨earlier, later, rfl⟩ := List.append_of_mem hreply
    exact ((hasks [] answer).of_follows hmore).not_ofLedger
  · rintro source rfl
    have hnext : next (.error source) = .note _ (recordLedgerFailure event .confirm >>= fun _ =>
        .done (.error (.ledger .confirm source))) :=
      congrFun (eq_of_heq (Activity.ask.inj hsettle.symm).2) (.error source)
    rw [hnext, Activity.follows_note_done] at hmore
    obtain ⟨first, last, noted, rfl, hfirst, hlast⟩ := Activity.follows_bind_done.1 hmore
    obtain ⟨rfl, rfl⟩ := Activity.follows_done.1 hlast
    refine ⟨rfl, fun reply hreply => ?_⟩
    rw [List.append_nil] at hreply
    obtain ⟨earlier, later, rfl⟩ := List.append_of_mem hreply
    exact (recordLedgerFailure_notes [] event .confirm).of_follows hfirst

end Settlement

/-! ## At a desk -/

namespace Desk

/-- Marking references succeeds in a connected store, and without references in any. -/
lemma markPaid_result (key : AccountKey) (references : List String) (d : Desk) (log : Log) :
    (Activity.run take write (Settlement.markPaid key references) (d, log)).1 =
      if d.store.connected = true ∨ references = [] then .ok () else .error .disconnected := by
  induction references generalizing d log with
  | nil => simp [Settlement.markPaid]
  | cons reference references ih =>
    simp only [Settlement.markPaid, Activity.step, Activity.ask_bind, Activity.done_bind,
      Activity.pure_eq, Activity.run_ask, take, answer, atAccounts, Store.perform]
    cases h : d.store.connected with
    | true =>
      obtain ⟨houtcome, hstore⟩ := Store.markPaid_of_connected h key reference
        (d.clock d.looks).toMillis
      rw [houtcome]
      simp only [ih, hstore, h, true_or, if_true]
    | false =>
      rw [Store.markPaid_of_not_connected h]
      simp

/-- **What the work on an event returns**: the error of the ledger, or what marking the references
has come to. -/
theorem settle_result (d : Desk) (e : PenaltyPaymentEvent) :
    (d.settle e).1 =
      match d.confirms d.confirmCalls.length with
      | .error source => .error (.ledger .confirm source)
      | .ok () =>
        if d.store.connected = true ∨ e.references = [] then .ok ()
        else .error (.store .disconnected) := by
  rw [settle, Settlement.settle, Activity.run_bind_state]
  simp only [Activity.step, Activity.run_ask, take, answer]
  cases d.confirms d.confirmCalls.length with
  | error source =>
    show (Activity.run take write (Settlement.recordLedgerFailure e .confirm >>= _)
      (d.called e, _)).1 = _
    rw [Activity.run_bind_state]
    rfl
  | ok done =>
    show (Activity.run take write (Settlement.markPaid e.account e.references >>= _)
      (d.called e, _)).1 = _
    rw [Activity.run_bind_state, markPaid_result]
    by_cases h : d.store.connected = true ∨ e.references = []
    · have hcalled : (d.called e).store.connected = true ∨ e.references = [] := h
      rw [if_pos hcalled, if_pos h]
      rfl
    · have hcalled : ¬ ((d.called e).store.connected = true ∨ e.references = []) := h
      rw [if_neg hcalled, if_neg h]
      rfl

/-- The desk when its stores have been through some actions. Without actions of its own, the store
of the payable resources is the one of the accounts. -/
def stocked (d : Desk) (actions : List StoreAction) (others : Option (List StoreAction)) : Desk :=
  { d with
    store := ({} : Store).performAll actions
    payables := others.map ({} : Store).performAll }

/-- The resources at such a desk are found under their identifiers. -/
lemma filed_stocked (d : Desk) (actions : List StoreAction) (others : Option (List StoreAction)) :
    (d.stocked actions others).payablesStore.Filed := by
  cases others with
  | none => exact Store.Filed.new.performAll actions
  | some others => exact Store.Filed.new.performAll others

/-- **The work on an event that the ledger refuses.** -/
structure Refused (before : Desk) (e : PenaltyPaymentEvent) (source : LedgerError)
    (result : Except SettlementError Unit) (after : Desk) : Prop where
  /-- It comes to the error of the ledger. -/
  result : result = .error (.ledger .confirm source)
  /-- No document changes, at either store, and a store apart for the accounts not at all. -/
  accounts : after.store.accounts = before.store.accounts
  accountsApart : after.payablesStore.accounts = before.payablesStore.accounts
  storeApart : before.payables.isSome → after.store = before.store
  /-- No connection changes, and no name. -/
  connected : after.store.connected = before.store.connected
  connectedApart : after.payablesStore.connected = before.payablesStore.connected
  latest : after.payablesStore.latest = before.payablesStore.latest
  /-- The resources are the same, and at most one shows another failure: in a connected store, the
  one that the name of the event stands for. -/
  keys : after.payablesStore.payables.keys = before.payablesStore.payables.keys
  resources : ∀ id, after.payablesStore.payables.find? id =
    (before.payablesStore.payables.find? id).map fun r =>
      if before.payablesStore.connected = true ∧
        before.payablesStore.latest.find? e.payable = some id then
        { r with e5CommandError := some .confirm }
      else r
  /-- That one shows the failure to confirm if the store is connected. -/
  latestPayable : after.payablesStore.latestPayable? e.payable =
    (before.payablesStore.latestPayable? e.payable).map fun r =>
      if before.payablesStore.connected = true then { r with e5CommandError := some .confirm }
      else r

/-- **The work on an event that the ledger confirms.** -/
structure Confirmed (before : Desk) (e : PenaltyPaymentEvent)
    (result : Except SettlementError Unit) (after : Desk) : Prop where
  /-- No payable resource changes, and no name. -/
  payables : after.payablesStore.payables = before.payablesStore.payables
  latest : after.payablesStore.latest = before.payablesStore.latest
  /-- It succeeds in a connected store, and if there is nothing to mark in any. -/
  result_iff : result = .ok () ↔ before.store.connected = true ∨ e.transactionPayments = []
  /-- Otherwise it comes to the error of the store, and both stores stay as they are. -/
  otherwise : result ≠ .ok () → result = .error (.store .disconnected) ∧
    after.store = before.store ∧ after.payables = before.payables

/-- The work on an event asks for no transactions. -/
lemma settled_queries (d : Desk) (e : PenaltyPaymentEvent) :
    (d.settled e).queries = d.queries := by
  unfold settled
  split
  · unfold noted withPayables
    split <;> rfl
  · unfold markAll
    split <;> rfl

/-- The store of the payable resources after a note. -/
lemma payablesStore_noted (d : Desk) (key : PayableKey) (action : LedgerAction) :
    (d.noted key action).payablesStore = d.payablesStore.noted key action := by
  obtain ⟨store, payables, _⟩ := d
  cases payables <;> rfl

/-- The desk after a note is one after an event that the ledger has refused. -/
lemma refused_noted {d : Desk} (filed : d.payablesStore.Filed) (e : PenaltyPaymentEvent)
    (source : LedgerError) :
    d.Refused e source (.error (.ledger .confirm source)) ((d.called e).noted e.payable .confirm)
    where
  result := rfl
  accounts := ((d.called e).noted_accounts e.payable .confirm).2
  accountsApart := by
    rw [payablesStore_noted]
    rfl
  storeApart := by
    obtain ⟨store, payables, _⟩ := d
    cases payables with
    | none => exact nofun
    | some s => exact fun _ => rfl
  connected := ((d.called e).noted_accounts e.payable .confirm).1
  connectedApart := by
    rw [payablesStore_noted]
    rfl
  latest := by
    rw [payablesStore_noted]
    rfl
  keys := by
    rw [payablesStore_noted]
    exact Store.keys_noted _ _ _
  resources := by
    rw [payablesStore_noted]
    exact filed.noted_find? e.payable .confirm
  latestPayable := by
    rw [payablesStore_noted]
    exact filed.noted_latestPayable? e.payable .confirm

/-- Marks are none on a payable resource. -/
lemma markAll_payables (d : Desk) (key : AccountKey) (references : List String) :
    (d.markAll key references).payables = d.payables ∧
      (d.markAll key references).payablesStore.payables = d.payablesStore.payables ∧
      (d.markAll key references).payablesStore.latest = d.payablesStore.latest := by
  obtain ⟨store, payables, _⟩ := d
  unfold markAll
  cases payables <;> split <;> exact ⟨rfl, rfl, rfl⟩

/-- The desk after marks is one after an event that the ledger has confirmed. -/
lemma confirmed_markAll (d : Desk) (e : PenaltyPaymentEvent) :
    d.Confirmed e
      (if d.store.connected = true ∨ e.references = [] then .ok ()
        else .error (.store .disconnected))
      ((d.called e).markAll e.account e.references) := by
  have hreferences : e.references = [] ↔ e.transactionPayments = [] := List.map_eq_nil_iff
  obtain ⟨hapart, hpayables, hlatest⟩ := (d.called e).markAll_payables e.account e.references
  refine ⟨hpayables, hlatest, ?_, ?_⟩
  · rw [← hreferences]
    split <;> simp_all
  · intro h
    have hrefused : ¬ (d.store.connected = true ∨ e.references = []) := fun hor => h (if_pos hor)
    have hconnected : ¬ (d.called e).store.connected = true := fun h => hrefused (.inl h)
    refine ⟨if_neg hrefused, ?_, hapart⟩
    rw [markAll, if_neg hconnected]
    rfl

/-- **The work on an event at a desk**, with stores of any history. The ledger is asked for one
confirmation and for nothing else, and its answer decides what the work comes to. A refusal is what
it comes to whatever the stores answer, so also when the note of it fails.

**Proof sketch.** The answer of the ledger decides between the desk after a note and the one after
marks, and both are known. -/
theorem settle_ends (d : Desk) (actions : List StoreAction) (others : Option (List StoreAction))
    (e : PenaltyPaymentEvent) :
    let before := d.stocked actions others
    let settled := before.settle e
    settled.2.1.confirmCalls = before.confirmCalls ++ [e.confirmation] ∧
      settled.2.1.queries = before.queries ∧
      (match before.confirms before.confirmCalls.length with
        | .error source => before.Refused e source settled.1 settled.2.1
        | .ok () => before.Confirmed e settled.1 settled.2.1) ∧
      ∀ {replies result}, (Settlement.settle e).Follows replies (.done result) →
        ∃ answer more, replies = ⟨.confirm e.confirmation, answer⟩ :: more ∧
          (∀ reply ∈ more, ¬ reply.question.OfLedger) ∧
          ∀ source, answer = .error source → result = .error (.ledger .confirm source) ∧
            ∀ reply ∈ more, reply.question.Notes e.payable .confirm := by
  intro before settled
  have hsettled : settled.2.1 = before.settled e := before.settle_desk e
  rw [hsettled]
  refine ⟨(before.settled_calls e).1, before.settled_queries e, ?_, Settlement.settle_follows⟩
  have hresult : settled.1 = _ := before.settle_result e
  rw [hresult, Desk.settled]
  cases before.confirms before.confirmCalls.length with
  | error source => exact refused_noted (d.filed_stocked actions others) e source
  | ok done => exact before.confirmed_markAll e

end Desk

end PenaltySettlement
