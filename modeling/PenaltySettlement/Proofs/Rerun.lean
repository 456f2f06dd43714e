import Mathlib.Logic.Function.Iterate
import PenaltySettlement.Proofs.Delivery
import PenaltySettlement.Proofs.Desk

/-!
# Running the consumer again

A consumer that is cancelled stops between two messages, and a further run goes on behind the last
one. So with a handler that never breaks down, any number of runs hand over a prefix of what has
been published, each message once and in its order, wherever the runs were cut. What they leave at
a desk is what the work on these payloads leaves there, one after the other.

## Main definitions

* `Handler.Steady` — handlers that do not break down.
* `Course.rerun` — a further run of the consumer.
* `Desk.work` — a desk as a handler.

## Main results

* `Course.paid_iff_confirmed` — an item is paid by the runs exactly when an event with its
  reference has been confirmed.
* `Course.rerun_transparent` — where the runs were cut makes no difference.
-/

set_option autoImplicit false

namespace PenaltySettlement

/-! ## Handlers that do not break down -/

/-- A handler that always comes to the end of its work. -/
def Handler.Steady {η : Type} (work : Handler η) : Prop :=
  ∀ event handler, ∃ outcome, (work event handler).1 = .ok outcome

/-- The handling of a payload by a steady handler does not break down. -/
lemma Handler.Steady.handle {η : Type} {work : Handler η} (steady : work.Steady)
    (payload : List UInt8) (handler : η) : (work.handle payload handler).1 = false := by
  cases h : PenaltyPaymentEvent.decode payload with
  | error fault => rw [work.handle_of_undecodable h]
  | ok event =>
    obtain ⟨outcome, houtcome⟩ := steady event handler
    rw [work.handle_of_event h, houtcome]
    rfl

namespace Deliveries

variable {η : Type} {work : Handler η} {first : Nat} {start handler : η} {hs : List Handling}

/-- The handler has handled the payloads in their order. -/
lemma handler_eq (h : Deliveries work first start hs handler) :
    handler = (hs.reverse.map (·.message.payload)).foldl
      (fun handler payload => (work.handle payload handler).2) start := by
  induction h with
  | nil => rfl
  | cons payload h ih =>
    rw [List.reverse_cons, List.map_append, List.foldl_append, ← ih]
    rfl

/-- No handling by a steady handler broke down. -/
lemma not_brokeDown (h : Deliveries work first start hs handler) (steady : work.Steady) :
    ∀ x ∈ hs, x.brokeDown = false := by
  induction h with
  | nil => simp
  | cons payload h ih =>
    intro x hx
    rcases List.mem_cons.1 hx with rfl | hx
    · exact steady.handle payload _
    · exact ih x hx

/-- **What has been handed over to a steady handler** is a stretch of the messages.

**Proof sketch.** Induction on the deliveries. Each offset is one more than the one before, so the
last message extends the stretch by one. -/
lemma payloads_eq (h : Deliveries work first start hs handler) (steady : work.Steady)
    {messages : Array (List UInt8)}
    (published : ∀ x ∈ hs, messages[x.message.offset]? = some x.message.payload) :
    hs.reverse.map (·.message.payload) =
      (messages.toList.take (successor first hs)).drop first := by
  induction h with
  | nil => simp [successor]
  | @cons hs handler payload h ih =>
    have hrest := ih fun x hx => published x (List.mem_cons_of_mem _ hx)
    have hlast : messages.toList[successor first hs]? = some payload := by
      rw [Array.getElem?_toList]
      exact published _ List.mem_cons_self
    have hfirst := h.first_le_successor
    have hnext : successor first ({ message := ⟨successor first hs, payload⟩
                                    brokeDown := (work.handle payload handler).1 } :: hs) =
        successor first hs + 1 := by
      simp [successor, steady.handle payload handler]
    have hlength : first ≤ (messages.toList.take (successor first hs)).length := by
      have hlt := (List.getElem?_eq_some_iff.1 hlast).1
      rw [List.length_take]
      omega
    rw [hnext, List.take_add_one, hlast, Option.toList_some, List.drop_append_of_le_length hlength,
      ← hrest, List.reverse_cons, List.map_append]
    rfl

end Deliveries

/-! ## Further runs -/

namespace Course

variable {η : Type}

/-- **A further run of the consumer.** It has a cancellation of its own, which has not come yet. -/
def rerun (work : Handler η) (w : Course η) : Course η :=
  (consume work { w with cancelled := false }).2.1

section

variable {work : Handler η} {p : Partition} {start : η}

/-- A consumer at rest may start, whether or not it has been cancelled before. -/
lemma AtRest.again {w : Course η} (h : w.AtRest work p start) :
    ({ w with cancelled := false } : Course η).AtRest work p start where
  standing := ⟨h.standing.subscription, h.standing.subscribed, h.standing.committed,
    h.standing.published⟩
  deliveries := h.deliveries

/-- A further run starts and ends at rest. -/
lemma AtRest.rerun {w : Course η} (h : w.AtRest work p start) :
    (w.rerun work).AtRest work p start := (consume_spec h.again).1

/-- So does any number of runs. -/
lemma atRest_reruns (work : Handler η) (p : Partition) (coming : List (List Happening))
    (start : η) (n : Nat) :
    ((rerun work)^[n] (opened p coming start)).AtRest work p start := by
  induction n with
  | zero => exact atRest_opened work p coming start
  | succ n ih =>
    rw [Function.iterate_succ_apply']
    exact ih.rerun

/-- Once nothing is to come, a further run with a steady handler leaves nothing uncommitted. -/
lemma AtRest.drained_rerun {w : Course η} (h : w.AtRest work p start) (steady : work.Steady)
    (hcoming : w.coming = []) : (w.rerun work).Drained := by
  rcases (consume_spec h.again).2 ⟨hcoming, rfl⟩ with ⟨x, hx, hbroke⟩ | hdrained
  · have hnot := h.rerun.deliveries.not_brokeDown steady x hx
    rw [hnot] at hbroke
    cases hbroke
  · exact hdrained

/-- At rest, what has been handed over to a steady handler is what is committed beyond the start. -/
lemma AtRest.payloads_eq {w : Course η} (h : w.AtRest work p start) (steady : work.Steady) :
    w.handled.reverse.map (·.message.payload) =
      (w.partition.messages.toList.take w.partition.resumption).drop p.resumption := by
  rw [h.deliveries.resumption_eq h.standing.committed]
  exact h.deliveries.payloads_eq steady h.standing.published

end

end Course

/-! ## A desk as a handler -/

namespace Desk

/-- **A desk as a handler of events.** -/
def work : Handler Desk := fun event d => (.ok (d.settle event).1, (d.settle event).2)

/-- The work at a desk does not break down. -/
lemma steady_work : Handler.Steady work := fun event d => ⟨(d.settle event).1, rfl⟩

/-- The handling of a payload at a desk is the work on it. -/
lemma handle_work (payload : List UInt8) (d : Desk) :
    (Handler.handle work payload d).2 = d.process payload := by
  unfold process
  cases h : PenaltyPaymentEvent.decode payload with
  | error fault => rw [Handler.handle_of_undecodable work h]
  | ok event => rw [Handler.handle_of_event work h]; rfl

end Desk

namespace Course

/-- At rest, the desk is as the work on the handed over payloads leaves it. -/
lemma AtRest.desk_eq {p : Partition} {desk : Desk} {w : Course Desk}
    (h : w.AtRest Desk.work p desk) :
    w.handler = desk.processAll (w.handled.reverse.map (·.message.payload)) := by
  rw [h.deliveries.handler_eq, Desk.processAll]
  congr 1
  funext d payload
  exact Desk.handle_work payload d

/-- **Paid exactly when confirmed.** Take any number of runs of the consumer, cut anywhere, with a
connected store of any documents and a ledger of any answers. What they have handled is a stretch
of the messages, and the ledger has been called once for each event in it. The accounts with a
document are the same; each document has been paid for the references of the events of its account
that have been confirmed, and for no others.

**Proof sketch.** At rest the desk is as the work on the handed over payloads leaves it, and that
marks the documents with what the accepted events pay for (`Desk.marked_processAll`). -/
theorem paid_iff_confirmed (p : Partition) (coming : List (List Happening)) (desk : Desk)
    (hconnected : desk.store.connected = true) (n : Nat) :
    let w := (rerun Desk.work)^[n] (opened p coming desk)
    let payloads := w.handled.reverse.map (·.message.payload)
    payloads = (w.partition.messages.toList.take w.partition.resumption).drop p.resumption ∧
      w.handler.confirmCalls = desk.confirmCalls ++
        (Desk.events payloads).map PenaltyPaymentEvent.confirmation ∧
      w.handler.store.accounts.keys = desk.store.accounts.keys ∧
      ∀ key before, desk.store.accounts.find? key = some before →
        ∃ after, w.handler.store.accounts.find? key = some after ∧
          before.PaidFor (desk.Pays payloads key) after := by
  intro w payloads
  have hrest := atRest_reruns Desk.work p coming desk n
  have hmarked := Desk.marked_processAll hconnected payloads
  rw [← hrest.desk_eq] at hmarked
  refine ⟨hrest.payloads_eq Desk.steady_work, ?_, hmarked.keys,
    fun key before hbefore => hmarked.paidFor hbefore⟩
  rw [hrest.desk_eq]
  exact desk.confirmCalls_processAll payloads

/-- One run over one event that the ledger confirms pays the item that the event names. -/
theorem paid_of_one_event :
    let payload :=
      "[0,\"LP\",\"C\",\"P\",\"\",\"\",\"\",150,[[\"A\",150]],\"\",\"\",\"R\"]".toUTF8.toList
    let before : AccountPenalties := {
      customerCode := "C", companyCode := "LP", createdAt := default, closedAt := none
      data := [{
        transactionReference := "A", transactionDate := none, madeUpDate := none, isPaid := false
        amount := .ofUInt64 false 150, outstandingAmount := .ofUInt64 false 150
        transactionType := "1", transactionSubType := "EU", description := "Late filing penalty"
        dueDate := none, accountStatus := "CHS", dunningStatus := "PEN1" }] }
    let desk : Desk := {
      store := { accounts := Table.empty.insert before.key before }
      confirms := fun _ => .ok (), reports := fun _ => .ok .empty, clock := default }
    let w := (rerun Desk.work)^[1] (opened { number := 0, messages := #[payload] } [] desk)
    ∃ after item, w.handler.store.accounts.find? before.key = some after ∧
      after.data[0]? = some item ∧ item.transactionReference = "A" ∧ item.isPaid = true := by
  intro payload before desk w
  obtain ⟨-, -, -, hdocuments⟩ := paid_iff_confirmed { number := 0, messages := #[payload] } []
    desk rfl 1
  obtain ⟨after, hfind, hpaid⟩ := hdocuments before.key before (by decide +kernel)
  obtain ⟨isPaid, hitem, hiff⟩ := hpaid.items (i := 0) rfl
  have hevent : ((Desk.events (w.handled.reverse.map (·.message.payload)))[0]?).any
      (fun e => e.account = before.key ∧ "A" ∈ e.references) = true := by decide +kernel
  obtain ⟨e, he, hnames⟩ := (Option.any_eq_true _ _).1 hevent
  refine ⟨after, _, hfind, hitem, rfl, hiff.2 (.inr ⟨by decide, e, ⟨0, he, rfl⟩, ?_⟩)⟩
  exact of_decide_eq_true hnames

/-- **Where the runs were cut makes no difference.** Take any number of runs of the consumer over a
partition of which nothing is committed, each cancelled at any moment. Then the desk, with the calls
that the ledger has received and with its store, is as the plain work on the committed messages
leaves it, one after the other; the clock may be another one there and shows in closing times only.
Once everything is committed these are all messages, and a run during which nothing happens commits
everything. -/
theorem rerun_transparent (number : Int) (messages : Array (List UInt8)) (closed : Bool)
    (coming : List (List Happening)) (desk : Desk) (clock : Nat → Instant) (n : Nat) :
    let w := (rerun Desk.work)^[n] (opened { number, messages, closed } coming desk)
    let sequential := fun payloads => Desk.processAll { desk with clock } payloads
    w.handler.Alike (sequential (w.partition.messages.toList.take w.partition.resumption)) ∧
      (w.Drained → w.handler.Alike (sequential w.partition.messages.toList)) ∧
      (w.coming = [] → (w.rerun Desk.work).Drained) := by
  intro w sequential
  have hrest := atRest_reruns Desk.work { number, messages, closed } coming desk n
  have hpayloads := hrest.payloads_eq Desk.steady_work
  have halike : w.handler.Alike
      (sequential (w.partition.messages.toList.take w.partition.resumption)) := by
    rw [hrest.desk_eq, hpayloads]
    exact (desk.alike_clock clock).processAll _
  refine ⟨halike, fun hdrained => ?_, hrest.drained_rerun Desk.steady_work⟩
  rwa [List.take_of_length_le hdrained] at halike

end Course

end PenaltySettlement
