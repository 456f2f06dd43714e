import Mathlib.Data.List.MinMax
import PenaltySettlement.Proofs.ConsumerRun

/-!
# Delivery to the consumer

A consumer reads a partition that others write to. What the others do, and when they do it, is
given beforehand as a course of happenings: before each step of the consumer any number of payloads
may be published, the partition may be closed, and the work may be cancelled. Events are handed to
a handler of any kind, which keeps a state of its own and may break down.

The offsets that are handed over follow one another. Only a message whose handling broke down is
handed over again, and what is committed is the last offset whose handling came to its end.

## Main definitions

* `Course` — a partition with its consumer, the handler, and what others are going to do.
* `Course.surroundings`, `Course.supervision` — what the consumer and its supervisor work in.
* `Deliveries` — handlings that follow one another.

## Main results

* `Course.consume_spec` — what a run of the consumer leaves, and how it ends.
* `Course.supervised_deliveries` — the deliveries of all runs under a supervisor.
-/

set_option autoImplicit false

namespace PenaltySettlement

/-- What others may do between two steps of the consumer. -/
inductive Happening where
  | publish (payload : List UInt8)
  | close
  | cancel
  deriving DecidableEq, Repr

/-- A message that has been handed over, and whether its handling broke down. -/
structure Handling where
  message : Message
  brokeDown : Bool := false
  deriving DecidableEq, Repr

/-- The settling of events by something that has a state of its own. -/
abbrev Handler (η : Type) :=
  PenaltyPaymentEvent → η → Except Breakdown (Except SettlementError Unit) × η × Log

/-- A partition with its consumer. `coming` is what happens before each of the next steps, and
`handled` is what has been handed over so far, the last message first. -/
structure Course (η : Type) where
  connection : Partition.Connection
  handler : η
  coming : List (List Happening)
  cancelled : Bool := false
  handled : List Handling := []

namespace Course

variable {η : Type}

/-- The partition. -/
def partition (w : Course η) : Partition := w.connection.partition

/-- A course that starts at a partition without a subscription. -/
def opened (p : Partition) (coming : List (List Happening)) (handler : η) : Course η where
  connection := { partition := { p with subscribed := false } }
  handler := handler
  coming := coming

/-- One thing that others do. -/
def befall (w : Course η) : Happening → Course η
  | .publish payload =>
    { w with connection := { w.connection with partition := w.partition.publish payload } }
  | .close => { w with connection := { w.connection with partition := w.partition.close } }
  | .cancel => { w with cancelled := true }

/-- All that happens before the next step. -/
def elapse (w : Course η) : Course η :=
  match w.coming with
  | [] => w
  | happenings :: coming => happenings.foldl befall { w with coming }

/-- The course with another connection. -/
def reconnect (w : Course η) (connection : Partition.Connection) : Course η :=
  { w with connection }

/-- Keeps in mind which message has been handed over. -/
def handOver (w : Course η) : Receipt → Course η
  | .message m => { w with handled := { message := m } :: w.handled }
  | .pending | .ended | .failed _ => w

/-- Keeps in mind that the handling of the last message broke down. -/
def breakDown (w : Course η) : Course η :=
  match w.handled with
  | [] => w
  | h :: hs => { w with handled := { h with brokeDown := true } :: hs }

/-- The partition as the consumer reads it, with everything that happens meanwhile. -/
def source : MessageSource (Course η) where
  subscribe w :=
    let (outcome, connection, log) := w.elapse.connection.subscribe
    (outcome, w.elapse.reconnect connection, log)
  next w :=
    let (receipt, connection) := w.elapse.connection.next
    (receipt, (w.elapse.reconnect connection).handOver receipt)
  commit offset w :=
    let (outcome, connection) := w.elapse.connection.commit offset
    (outcome, w.elapse.reconnect connection)
  close w :=
    let (connection, log) := w.elapse.connection.close
    (w.elapse.reconnect connection, log)
  release w := w.elapse.reconnect w.elapse.connection.release

/-- The handling of an event. -/
def settle (work : Handler η) (event : PenaltyPaymentEvent) (w : Course η) :
    Except Breakdown (Except SettlementError Unit) × Course η × Log :=
  let w := w.elapse
  match work event w.handler with
  | (.ok outcome, handler, log) => (.ok outcome, { w with handler }, log)
  | (.error breakdown, handler, log) => (.error breakdown, { w with handler }.breakDown, log)

/-- What the consumer works in. It waits as long as something is still going to happen. -/
def surroundings (work : Handler η) : Consumer.Surroundings (Course η) where
  source := source
  cancelled := cancelled
  settle := settle work
  await w := if w.coming = [] then none else some w.elapse

/-- The number of payloads that others are going to publish. -/
def publications (coming : List (List Happening)) : Nat :=
  coming.flatten.countP fun
    | .publish _ => true
    | .close | .cancel => false

/-- The number of messages there will ever be. -/
def supply (w : Course η) : Nat := w.partition.size + publications w.coming

/-- The position of the subscription, if there is one. -/
def position (w : Course η) : Nat := (w.connection.subscription.map Subscription.position).getD 0

/-- Steps enough for one run. -/
def stepBound (w : Course η) : Nat := 3 * w.supply + w.coming.length + 3

/-- **A run of the consumer.** -/
def consume (work : Handler η) (w : Course η) : RunEnd DeliveryError × Course η × Log :=
  Consumer.run (surroundings work) w.stepBound .starting w

/-- What the supervisor of the consumer works in. -/
def supervision (work : Handler η) : Supervisor.Surroundings (Course η) where
  cancelled := cancelled
  runTask w :=
    let (ending, w, log) := w.consume work
    (ending.guarded DeliveryError.message, w, log)
  rest _ w := (!w.elapse.cancelled, w.elapse)

end Course

/-! ## The connection of a single subscriber -/

namespace Partition.Connection

/-- A partition without a subscription grants one behind what is committed. -/
lemma subscribe_of_free {c : Connection} (h : c.partition.subscribed = false) :
    ∃ c' log, c.subscribe = (.ok (), c', log) ∧
      c'.subscription = some { position := c.partition.resumption } ∧
      c'.partition = { c.partition with subscribed := true } := by
  simp [subscribe, Partition.subscribe, h]

/-- An open subscription gives the message at its position and moves behind it. -/
lemma next_of_open {c : Connection} {position : Nat} {payload : List UInt8}
    (h : c.subscription = some { position })
    (hpayload : c.partition.messages[position]? = some payload) :
    ∃ c', c.next = (.message ⟨position, payload⟩, c') ∧
      c'.subscription = some { position := position + 1 } ∧ c'.partition = c.partition := by
  simp [next, Partition.next, h, hpayload]

/-- Behind the last message an open subscription stays where it is. -/
lemma next_of_open_at_end {c : Connection} {position : Nat} (h : c.subscription = some { position })
    (hend : c.partition.messages[position]? = none) :
    c.next = (if c.partition.closed then .ended else .pending, c) := by
  obtain ⟨partition, subscription⟩ := c
  obtain rfl : subscription = some { position } := h
  simp_all [next, Partition.next]

/-- An open subscription commits what it has delivered. -/
lemma commit_of_open {c : Connection} {position offset : Nat}
    (h : c.subscription = some { position }) (hlt : offset < position) :
    ∃ c', c.commit offset = (.ok (), c') ∧ c'.subscription = some { position } ∧
      c'.partition = { c.partition with
        committed := some (max offset (c.partition.committed.getD 0)) } := by
  simp [commit, Partition.commit, commitRefusal, h, Nat.not_le.2 hlt]

/-- Closing an open subscription frees the partition. -/
lemma close_of_open {c : Connection} {position : Nat} (h : c.subscription = some { position }) :
    c.close.1.subscription = none ∧
      c.close.1.partition = { c.partition with subscribed := false } := by
  simp [close, Partition.closeSubscription, dropSubscription, h]

/-- Giving up an open subscription frees the partition. -/
lemma release_of_open {c : Connection} {position : Nat} (h : c.subscription = some { position }) :
    c.release.subscription = none ∧
      c.release.partition = { c.partition with subscribed := false } := by
  simp [release, dropSubscription, h]

end Partition.Connection

/-! ## Deliveries -/

namespace Handler

variable {η : Type}

/-- The handling of a payload: whether it broke down, and the state of the handler behind it. A
payload that is no event does not reach the handler. -/
def handle (work : Handler η) (payload : List UInt8) (handler : η) : Bool × η :=
  match PenaltyPaymentEvent.decode payload with
  | .error _ => (false, handler)
  | .ok event =>
    match work event handler with
    | (.ok _, handler, _) => (false, handler)
    | (.error _, handler, _) => (true, handler)

/-- A payload that is no event leaves the handler as it is. -/
lemma handle_of_undecodable (work : Handler η) {payload : List UInt8} {fault : Json.Fault}
    (h : PenaltyPaymentEvent.decode payload = .error fault) (handler : η) :
    work.handle payload handler = (false, handler) := by
  simp [handle, h]

/-- An event is handled as the handler settles it. -/
lemma handle_of_event (work : Handler η) {payload : List UInt8} {event : PenaltyPaymentEvent}
    (h : PenaltyPaymentEvent.decode payload = .ok event) (handler : η) :
    work.handle payload handler =
      ((work event handler).1.toBool.not, (work event handler).2.1) := by
  rcases hwork : work event handler with ⟨outcome | outcome, after, log⟩ <;>
    simp [handle, h, hwork, Except.toBool]

end Handler

/-- The offset to be handed over behind some handlings, the last one first. -/
def successor (first : Nat) : List Handling → Nat
  | [] => first
  | h :: _ => if h.brokeDown then h.message.offset else h.message.offset + 1

/-- One more delivery never lets the offset to be handed over fall back. -/
lemma successor_le_successor_cons (first : Nat) (hs : List Handling) (payload : List UInt8)
    (brokeDown : Bool) :
    successor first hs ≤
      successor first ({ message := ⟨successor first hs, payload⟩, brokeDown } :: hs) := by
  show successor first hs ≤ if brokeDown then successor first hs else successor first hs + 1
  split <;> omega

/-- The last offset whose handling came to its end, among some handlings, the last one first. -/
def lastFinished (committed : Option Nat) : List Handling → Option Nat
  | [] => committed
  | h :: hs => if h.brokeDown then lastFinished committed hs else some h.message.offset

/-- **Handlings that follow one another**, the last one first, with the state of the handler behind
them. Each breaks down exactly when the handler does. -/
inductive Deliveries {η : Type} (work : Handler η) (first : Nat) (start : η) :
    List Handling → η → Prop
  | nil : Deliveries work first start [] start
  | cons {hs : List Handling} {handler : η} (payload : List UInt8) :
    Deliveries work first start hs handler →
    Deliveries work first start
      ({ message := ⟨successor first hs, payload⟩
         brokeDown := (work.handle payload handler).1 } :: hs)
      (work.handle payload handler).2

/-- The offset to be handed over is the one behind what is committed.

**Proof sketch.** Induction on the deliveries. A handling that broke down changes neither side; one
that came to its end has the offset before the next one. -/
lemma Deliveries.resumption_eq {η : Type} {work : Handler η} {p q : Partition} {start handler : η}
    {hs : List Handling} (h : Deliveries work p.resumption start hs handler)
    (hq : q.committed = lastFinished p.committed hs) :
    q.resumption = successor p.resumption hs := by
  induction h with
  | nil =>
    unfold Partition.resumption
    rw [hq]
    rfl
  | @cons hs handler payload h ih =>
    cases hbroke : (work.handle payload handler).1 with
    | true =>
      simp only [lastFinished, hbroke, if_true] at hq
      simpa [successor, hbroke] using ih hq
    | false =>
      simp only [lastFinished, hbroke, Bool.false_eq_true, if_false] at hq
      simp [Partition.resumption, hq, successor]

/-- Nothing beyond the offset to be handed over is committed. -/
lemma Deliveries.lastFinished_le {η : Type} {work : Handler η} {p : Partition} {start handler : η}
    {hs : List Handling} (h : Deliveries work p.resumption start hs handler) :
    (lastFinished p.committed hs).getD 0 ≤ successor p.resumption hs := by
  have hq : ({ p with committed := lastFinished p.committed hs } : Partition).resumption =
      successor p.resumption hs := h.resumption_eq rfl
  rw [← hq]
  cases lastFinished p.committed hs with
  | none => exact Nat.zero_le _
  | some offset => exact Nat.le_succ offset

/-- The last of some deliveries has the offset to be handed over behind the others. -/
lemma Deliveries.offset_eq {η : Type} {work : Handler η} {first : Nat} {start handler : η}
    {h : Handling} {hs : List Handling}
    (deliveries : Deliveries work first start (h :: hs) handler) :
    h.message.offset = successor first hs ∧ ∃ before, Deliveries work first start hs before := by
  cases deliveries with
  | cons payload rest => exact ⟨rfl, _, rest⟩

namespace Course

variable {η : Type}

/-! ## What others do -/

/-- A course later on, when only others have done something. -/
structure Grows (w w' : Course η) : Prop where
  subscription : w'.connection.subscription = w.connection.subscription
  subscribed : w'.partition.subscribed = w.partition.subscribed
  committed : w'.partition.committed = w.partition.committed
  handler : w'.handler = w.handler
  handled : w'.handled = w.handled
  published : ∀ {offset : Nat} {payload : List UInt8},
    w.partition.messages[offset]? = some payload → w'.partition.messages[offset]? = some payload

/-- Whatever others do, it leaves what the consumer has done. -/
lemma grows_befall (w : Course η) (happening : Happening) : w.Grows (w.befall happening) := by
  cases happening with
  | publish payload =>
    refine ⟨rfl, rfl, rfl, rfl, rfl, fun {offset old} h => ?_⟩
    obtain ⟨hlt, -⟩ := Array.getElem?_eq_some_iff.1 h
    show (w.partition.messages.push payload)[offset]? = some old
    rw [Array.getElem?_push, if_neg (by omega), h]
  | close => exact ⟨rfl, rfl, rfl, rfl, rfl, id⟩
  | cancel => exact ⟨rfl, rfl, rfl, rfl, rfl, id⟩

/-- Others may do several things in a row. -/
lemma grows_foldl_befall (happenings : List Happening) (w : Course η) :
    w.Grows (happenings.foldl befall w) := by
  induction happenings generalizing w with
  | nil => exact ⟨rfl, rfl, rfl, rfl, rfl, id⟩
  | cons happening happenings ih =>
    have first := w.grows_befall happening
    have rest := ih (w.befall happening)
    exact ⟨rest.subscription.trans first.subscription, rest.subscribed.trans first.subscribed,
      rest.committed.trans first.committed, rest.handler.trans first.handler,
      rest.handled.trans first.handled, fun h => rest.published (first.published h)⟩

/-- What happens before a step leaves what the consumer has done. -/
lemma grows_elapse (w : Course η) : w.Grows w.elapse := by
  unfold elapse
  split
  · exact ⟨rfl, rfl, rfl, rfl, rfl, id⟩
  · rename_i happenings coming hcoming
    have h := grows_foldl_befall happenings { w with coming }
    exact ⟨h.subscription, h.subscribed, h.committed, h.handler, h.handled, h.published⟩

/-- Publishing moves a message from those to come to those that are there. -/
lemma supply_foldl_befall (happenings : List Happening) (w : Course η) :
    (happenings.foldl befall w).coming = w.coming ∧
      (happenings.foldl befall w).partition.size =
        w.partition.size + publications [happenings] := by
  induction happenings generalizing w with
  | nil => simp [publications]
  | cons happening happenings ih =>
    obtain ⟨hcoming, hsize⟩ := ih (w.befall happening)
    rw [List.foldl_cons, hcoming, hsize]
    cases happening with
    | publish payload =>
      refine ⟨rfl, ?_⟩
      simp [publications, befall, partition, Partition.size, Partition.publish]
      omega
    | close =>
      exact ⟨rfl, by simp [publications, befall, partition, Partition.size, Partition.close]⟩
    | cancel => exact ⟨rfl, by simp [publications, befall, partition]⟩

/-- There will be as many messages as there were to be. -/
lemma supply_elapse (w : Course η) : w.elapse.supply = w.supply := by
  unfold elapse
  split
  · rfl
  · rename_i happenings coming hcoming
    obtain ⟨hrest, hsize⟩ := supply_foldl_befall happenings { w with coming }
    rw [supply, hrest, hsize, supply, hcoming]
    simp [publications, partition]
    omega

/-- Less is to come after each step. -/
lemma length_coming_elapse (w : Course η) : w.elapse.coming.length = w.coming.length - 1 := by
  unfold elapse
  split
  · rename_i hcoming
    simp [hcoming]
  · rename_i happenings coming hcoming
    rw [(supply_foldl_befall happenings { w with coming }).1, hcoming]
    simp

/-- Once nothing is to come, nothing happens. -/
lemma elapse_of_coming_eq_nil {w : Course η} (h : w.coming = []) : w.elapse = w := by
  unfold elapse
  rw [h]

/-! ## What a run keeps -/

/-- Where the consumer stands: its position, if it has a subscription, and the handlings that are
behind it. What has been handed over is in the partition. -/
structure Standing (p : Partition) (w : Course η) (position : Option Nat)
    (done : List Handling) : Prop where
  subscription : w.connection.subscription = position.map ({ position := · })
  subscribed : w.partition.subscribed = position.isSome
  committed : w.partition.committed = lastFinished p.committed done
  published : ∀ h ∈ w.handled, w.partition.messages[h.message.offset]? = some h.message.payload

/-- What others do does not move the consumer. -/
lemma Standing.grow {p : Partition} {w w' : Course η} {position : Option Nat}
    {done : List Handling} (h : w.Standing p position done) (grows : w.Grows w') :
    w'.Standing p position done where
  subscription := grows.subscription.trans h.subscription
  subscribed := grows.subscribed.trans h.subscribed
  committed := grows.committed.trans h.committed
  published := fun x hx => grows.published (h.published x (grows.handled ▸ hx))

/-- The consumer moves by what it does with its connection. -/
lemma Standing.reconnect {p : Partition} {w : Course η} {position position' : Option Nat}
    {done done' : List Handling} (h : w.Standing p position done) {c : Partition.Connection}
    (hmessages : c.partition.messages = w.partition.messages)
    (hsubscription : c.subscription = position'.map ({ position := · }))
    (hsubscribed : c.partition.subscribed = position'.isSome)
    (hcommitted : c.partition.committed = lastFinished p.committed done') :
    (w.reconnect c).Standing p position' done' where
  subscription := hsubscription
  subscribed := hsubscribed
  committed := hcommitted
  published := by
    intro x hx
    rw [← h.published x hx, ← hmessages]
    rfl

/-- **At rest**: there is no subscription, and all handlings are behind the consumer. -/
structure AtRest (work : Handler η) (p : Partition) (start : η) (w : Course η) : Prop where
  standing : w.Standing p none w.handled
  deliveries : Deliveries work p.resumption start w.handled w.handler

/-- Nothing more is going to happen, and the work is not cancelled. -/
def Quiet (w : Course η) : Prop := w.coming = [] ∧ w.cancelled = false

/-- Everything that has been published is committed. -/
def Drained (w : Course η) : Prop := w.partition.size ≤ w.partition.resumption

/-- What holds in each phase of a run. A message that is being handled is the last one that has
been handed over, and is not yet committed. -/
def Stands (work : Handler η) (p : Partition) (start : η) (quiet : Prop) :
    ConsumerPhase → Course η → Prop
  | .starting, w => w.AtRest work p start
  | .receiving, w =>
    w.Standing p (some (successor p.resumption w.handled)) w.handled ∧
      Deliveries work p.resumption start w.handled w.handler
  | .settling offset event, w => ∃ payload done,
    w.handled = { message := ⟨offset, payload⟩ } :: done ∧
      PenaltyPaymentEvent.decode payload = .ok event ∧
      offset = successor p.resumption done ∧ w.Standing p (some (offset + 1)) done ∧
      Deliveries work p.resumption start done w.handler
  | .committing offset, w => ∃ payload done,
    w.handled = { message := ⟨offset, payload⟩ } :: done ∧
      w.Standing p (some (offset + 1)) done ∧
      Deliveries work p.resumption start w.handled w.handler
  | .ended _, w => w.AtRest work p start ∧ (quiet → w.Drained)

/-- The steps that a run may still take. -/
def stepsLeft : ConsumerPhase → Course η → Nat
  | .starting, w => w.stepBound
  | .receiving, w => 3 * (w.supply - w.position) + w.coming.length + 2
  | .settling _ _, w => 3 * (w.supply - w.position) + w.coming.length + 4
  | .committing _, w => 3 * (w.supply - w.position) + w.coming.length + 3
  | .ended _, _ => 1

/-! ## The steps of a run -/

section Steps

variable {work : Handler η} {p : Partition} {start : η} {quiet : Prop}

/-- Nothing happens to a course that is quiet. -/
lemma Quiet.elapse {w : Course η} (h : w.Quiet) : w.elapse = w := elapse_of_coming_eq_nil h.1

/-- A connection to the same messages does not change the supply. -/
lemma supply_reconnect {w : Course η} {c : Partition.Connection}
    (h : c.partition.messages = w.partition.messages) : (w.reconnect c).supply = w.supply := by
  unfold supply Partition.size
  rw [← h]
  rfl

/-- What the measure of a run counts, after a use of the connection that leaves the messages. -/
lemma counts_reconnect {w : Course η} {c : Partition.Connection} {position : Nat}
    (hmessages : c.partition.messages = w.elapse.partition.messages)
    (hc : c.subscription = some { position }) :
    (w.elapse.reconnect c).supply = w.supply ∧
      (w.elapse.reconnect c).coming.length = w.coming.length - 1 ∧
      (w.elapse.reconnect c).position = position := by
  refine ⟨?_, w.length_coming_elapse, by simp [Course.position, reconnect, hc]⟩
  rw [supply_reconnect hmessages, supply_elapse]

/-- The position of a consumer that has a subscription. -/
lemma Standing.position_eq {w : Course η} {position : Nat} {done : List Handling}
    (h : w.Standing p (some position) done) : w.position = position := by
  simp [Course.position, h.subscription]

/-- What others do moves neither the consumer nor its deliveries. -/
lemma Standing.elapse {w : Course η} {position : Option Nat}
    (standing : w.Standing p position w.handled)
    (deliveries : Deliveries work p.resumption start w.handled w.handler) :
    w.elapse.Standing p position w.elapse.handled ∧
      Deliveries work p.resumption start w.elapse.handled w.elapse.handler := by
  rw [w.grows_elapse.handled, w.grows_elapse.handler]
  exact ⟨standing.grow w.grows_elapse, deliveries⟩

/-- Nor do they change how a consumer stands that has nothing in hand. -/
lemma stands_elapse {w : Course η} (h : w.Stands work p start quiet .receiving) :
    w.elapse.Stands work p start quiet .receiving := by
  obtain ⟨standing, deliveries⟩ := h.1.elapse h.2
  rw [← w.grows_elapse.handled] at standing
  exact ⟨standing, deliveries⟩

/-- A subscription starts behind what is committed. -/
lemma stands_subscribe {w : Course η} (h : w.AtRest work p start) :
    ∃ w' log, source.subscribe w = (.ok (), w', log) ∧ w'.Stands work p start quiet .receiving ∧
      stepsLeft .receiving w' < stepsLeft .starting w := by
  obtain ⟨standing, deliveries⟩ := h.standing.elapse h.deliveries
  obtain ⟨c, log, hsubscribe, hc, hpartition⟩ :=
    Partition.Connection.subscribe_of_free standing.subscribed
  have hposition := deliveries.resumption_eq standing.committed
  have hmessages : c.partition.messages = w.elapse.partition.messages := by
    rw [hpartition]
    rfl
  obtain ⟨hsupply, hcoming, -⟩ := counts_reconnect hmessages hc
  refine ⟨w.elapse.reconnect c, log, by simp only [source, hsubscribe],
    ⟨standing.reconnect hmessages ?_ (by rw [hpartition]; rfl) ?_, deliveries⟩, ?_⟩
  · rw [hc]
    exact congrArg (fun n : Nat => some ({ position := n } : Subscription)) hposition
  · rw [hpartition]
    exact standing.committed
  · simp only [stepsLeft, stepBound]
    omega

/-- Without its subscription a consumer that has nothing in hand is at rest. -/
lemma atRest_of_free {w : Course η} {position : Nat}
    (standing : w.Standing p (some position) w.handled)
    (deliveries : Deliveries work p.resumption start w.handled w.handler)
    {c : Partition.Connection} (hc : c.subscription = none)
    (hpartition : c.partition = { w.elapse.partition with subscribed := false }) :
    (w.elapse.reconnect c).AtRest work p start ∧
      (w.Quiet → w.Drained → (w.elapse.reconnect c).Drained) := by
  obtain ⟨grown, grownDeliveries⟩ := standing.elapse deliveries
  refine ⟨⟨grown.reconnect (by rw [hpartition]) hc (by rw [hpartition]; rfl) ?_,
    grownDeliveries⟩, ?_⟩
  · rw [hpartition]
    exact grown.committed
  · intro hquiet hdrained
    rw [hquiet.elapse] at hpartition ⊢
    show c.partition.size ≤ c.partition.resumption
    rw [hpartition]
    exact hdrained

/-- Closing ends a consumer that has nothing in hand. -/
lemma atRest_close {w : Course η} (h : w.Stands work p start quiet .receiving) :
    (source.close w).1.AtRest work p start ∧
      (w.Quiet → w.Drained → (source.close w).1.Drained) := by
  obtain ⟨hc, hpartition⟩ :=
    Partition.Connection.close_of_open (h.1.grow w.grows_elapse).subscription
  exact atRest_of_free h.1 h.2 hc hpartition

/-- So does giving up the subscription. -/
lemma atRest_release {w : Course η} {position : Nat}
    (standing : w.Standing p (some position) w.handled)
    (deliveries : Deliveries work p.resumption start w.handled w.handler) :
    (source.release w).AtRest work p start ∧
      (w.Quiet → w.Drained → (source.release w).Drained) := by
  obtain ⟨hc, hpartition⟩ :=
    Partition.Connection.release_of_open (standing.grow w.grows_elapse).subscription
  exact atRest_of_free standing deliveries hc hpartition

/-- A message that is received is the one at the position, and it is the last one that has been
handed over. The consumer moves behind it. -/
lemma receive_message {w : Course η} {offset : Nat}
    (standing : w.Standing p (some offset) w.handled) {payload : List UInt8}
    (hpayload : w.elapse.partition.messages[offset]? = some payload) :
    ∃ w', source.next w = (.message ⟨offset, payload⟩, w') ∧
      w'.handled = { message := ⟨offset, payload⟩ } :: w.handled ∧ w'.handler = w.handler ∧
      w'.Standing p (some (offset + 1)) w.handled ∧
      3 * (w'.supply - w'.position) + w'.coming.length + 4 < stepsLeft .receiving w := by
  have grown := standing.grow w.grows_elapse
  obtain ⟨c, hnext, hc, hpartition⟩ :=
    Partition.Connection.next_of_open grown.subscription hpayload
  obtain ⟨hsupply, hcoming, hposition⟩ :=
    counts_reconnect (congrArg Partition.messages hpartition) hc
  refine ⟨(w.elapse.reconnect c).handOver (.message ⟨offset, payload⟩),
    by simp only [source, hnext], congrArg (List.cons _) w.grows_elapse.handled,
    w.grows_elapse.handler, ⟨hc, ?_, ?_, ?_⟩, ?_⟩
  · exact (congrArg Partition.subscribed hpartition).trans grown.subscribed
  · exact (congrArg Partition.committed hpartition).trans grown.committed
  · intro x hx
    show c.partition.messages[x.message.offset]? = _
    rw [hpartition]
    rcases List.mem_cons.1 hx with rfl | hx
    · exact hpayload
    · exact grown.published x hx
  · -- there is room for the message, so that the position stays within the supply
    have hroom : offset < w.elapse.supply :=
      Nat.lt_add_right _ (Array.getElem?_eq_some_iff.1 hpayload).1
    rw [supply_elapse] at hroom
    show 3 * ((w.elapse.reconnect c).supply - (w.elapse.reconnect c).position) +
      (w.elapse.reconnect c).coming.length + 4 < _
    rw [hsupply, hcoming, hposition]
    simp only [stepsLeft, standing.position_eq]
    omega

/-- A message that is received is the one behind all that are committed, and it is in hand until
it is committed.

**Proof sketch.** The position is the successor of the handlings so far, so the message extends
them. If it is an event the handler has not seen it yet; otherwise its handling is over, and it
follows the others. -/
lemma stands_message {w : Course η} (h : w.Stands work p start quiet .receiving)
    {payload : List UInt8}
    (hpayload : w.elapse.partition.messages[successor p.resumption w.handled]? = some payload) :
    ∃ w', source.next w = (.message ⟨successor p.resumption w.handled, payload⟩, w') ∧
      w'.Stands work p start quiet
        (Consumer.take ⟨successor p.resumption w.handled, payload⟩).1 ∧
      stepsLeft (Consumer.take ⟨successor p.resumption w.handled, payload⟩).1 w' <
        stepsLeft .receiving w := by
  obtain ⟨standing, deliveries⟩ := h
  obtain ⟨w', hnext, hhandled, hhandler, standing', hmeasure⟩ :=
    receive_message standing hpayload
  refine ⟨w', hnext, ?_⟩
  cases hdecode : PenaltyPaymentEvent.decode payload with
  | ok event =>
    simp only [Consumer.take, hdecode]
    exact ⟨⟨payload, w.handled, hhandled, hdecode, rfl, standing', hhandler ▸ deliveries⟩,
      hmeasure⟩
  | error fault =>
    simp only [Consumer.take, hdecode]
    refine ⟨⟨payload, w.handled, hhandled, standing', ?_⟩, ?_⟩
    · have := deliveries.cons payload
      rwa [work.handle_of_undecodable hdecode, ← hhandler, ← hhandled] at this
    · simp only [stepsLeft] at hmeasure ⊢
      omega

/-- Behind the last message the consumer stays where it is. If nothing is going to happen, it has
then committed everything. -/
lemma stands_at_end {w : Course η} (h : w.Stands work p start quiet .receiving)
    (hend : w.elapse.partition.messages[successor p.resumption w.handled]? = none) :
    source.next w = (if w.elapse.partition.closed then .ended else .pending, w.elapse) ∧
      w.elapse.Stands work p start quiet .receiving ∧ (w.Quiet → w.Drained) := by
  obtain ⟨standing, deliveries⟩ := h
  have grown := standing.grow w.grows_elapse
  have hnext := Partition.Connection.next_of_open_at_end grown.subscription hend
  refine ⟨?_, ?_, ?_⟩
  · simp only [source, hnext]
    show (_, (w.elapse.reconnect w.elapse.connection).handOver _) = _
    cases hclosed : w.elapse.connection.partition.closed <;>
      simp [partition, hclosed, handOver, reconnect]
  · exact stands_elapse ⟨standing, deliveries⟩
  · intro hquiet
    rw [hquiet.elapse] at hend
    have hresumption := deliveries.resumption_eq standing.committed
    rw [← hresumption] at hend
    exact Array.getElem?_eq_none_iff.1 hend

/-- The message in hand is committed, and the consumer is ready for the next one. -/
lemma stands_commit {w : Course η} {offset : Nat}
    (h : w.Stands work p start quiet (.committing offset)) :
    ∃ w', source.commit offset w = (.ok (), w') ∧ w'.Stands work p start quiet .receiving ∧
      stepsLeft .receiving w' < stepsLeft (.committing offset) w := by
  obtain ⟨payload, done, hhandled, standing, deliveries⟩ := h
  have grown := standing.grow w.grows_elapse
  obtain ⟨c, hcommit, hc, hpartition⟩ :=
    Partition.Connection.commit_of_open grown.subscription (Nat.lt_succ_self offset)
  have hnext : successor p.resumption w.handled = offset + 1 := by rw [hhandled]; rfl
  have hcommitted : c.partition.committed = lastFinished p.committed w.handled := by
    rw [hhandled] at deliveries
    obtain ⟨hoffset, _, before⟩ := deliveries.offset_eq
    have hle := before.lastFinished_le
    rw [← hoffset] at hle
    rw [hpartition, hhandled]
    show some (max offset (w.elapse.partition.committed.getD 0)) = some offset
    rw [grown.committed, Nat.max_eq_left hle]
  refine ⟨w.elapse.reconnect c, by simp only [source, hcommit], ⟨?_, ?_⟩, ?_⟩
  · show (w.elapse.reconnect c).Standing p (some (successor p.resumption w.elapse.handled))
      w.elapse.handled
    rw [w.grows_elapse.handled, hnext]
    refine grown.reconnect (by rw [hpartition]; rfl) hc ?_ hcommitted
    rw [hpartition]
    exact grown.subscribed
  · show Deliveries work p.resumption start w.elapse.handled w.elapse.handler
    rw [w.grows_elapse.handled, w.grows_elapse.handler]
    exact deliveries
  · obtain ⟨hsupply, hcoming, hposition⟩ := counts_reconnect (by rw [hpartition]; rfl) hc
    simp only [stepsLeft, standing.position_eq]
    omega

/-- An event that is settled, whatever the outcome, is committed next. -/
lemma stands_settle_ok {w w' : Course η} {offset : Nat} {event : PenaltyPaymentEvent}
    {outcome : Except SettlementError Unit} {log : Log}
    (h : w.Stands work p start quiet (.settling offset event))
    (hsettle : settle work event w = (.ok outcome, w', log)) :
    w'.Stands work p start quiet (.committing offset) ∧
      stepsLeft (.committing offset) w' < stepsLeft (.settling offset event) w := by
  obtain ⟨payload, done, hhandled, hdecode, hoffset, standing, deliveries⟩ := h
  have grown := standing.grow w.grows_elapse
  rcases hwork : work event w.elapse.handler with ⟨result | result, after, more⟩
  · simp [settle, hwork] at hsettle
  obtain ⟨-, rfl, -⟩ : result = outcome ∧ { w.elapse with handler := after } = w' ∧ more = log := by
    simpa [settle, hwork] using hsettle
  refine ⟨⟨payload, done, w.grows_elapse.handled.trans hhandled, ?_, ?_⟩, ?_⟩
  · exact ⟨grown.subscription, grown.subscribed, grown.committed, grown.published⟩
  · have := deliveries.cons payload
    rw [work.handle_of_event hdecode, ← w.grows_elapse.handler, hwork, ← hoffset] at this
    show Deliveries work p.resumption start w.elapse.handled after
    rw [w.grows_elapse.handled, hhandled]
    exact this
  · have hsupply := w.supply_elapse
    have hcoming := w.length_coming_elapse
    have hposition : w.elapse.position = w.position := by
      simp [position, w.grows_elapse.subscription]
    simp only [stepsLeft]
    show 3 * (w.elapse.supply - w.elapse.position) + w.elapse.coming.length + 3 < _
    omega

/-- A handler that breaks down leaves the message uncommitted, and the consumer at rest once its
subscription is given up. -/
lemma atRest_settle_brokeDown {w w' : Course η} {offset : Nat} {event : PenaltyPaymentEvent}
    {breakdown : Breakdown} {log : Log}
    (h : w.Stands work p start quiet (.settling offset event))
    (hsettle : settle work event w = (.error breakdown, w', log)) :
    (source.release w').AtRest work p start ∧
      ∃ h ∈ (source.release w').handled, h.brokeDown = true := by
  obtain ⟨payload, done, hhandled, hdecode, hoffset, standing, deliveries⟩ := h
  have grown := standing.grow w.grows_elapse
  rcases hwork : work event w.elapse.handler with ⟨result | result, after, more⟩
  swap
  · simp [settle, hwork] at hsettle
  have hlast : w.elapse.handled = { message := ⟨offset, payload⟩ } :: done :=
    w.grows_elapse.handled.trans hhandled
  obtain rfl : { w.elapse with
      handler := after
      handled := { message := ⟨offset, payload⟩, brokeDown := true } :: done } = w' := by
    simp only [settle, hwork, Prod.mk.injEq] at hsettle
    rw [← hsettle.2.1]
    simp [breakDown, hlast]
  have hpublished := grown.published
  rw [hlast] at hpublished
  have standing' : Standing p { w.elapse with
      handler := after
      handled := { message := ⟨offset, payload⟩, brokeDown := true } :: done } (some (offset + 1))
      ({ message := ⟨offset, payload⟩, brokeDown := true } :: done) := by
    refine ⟨grown.subscription, grown.subscribed, grown.committed, fun x hx => ?_⟩
    rcases List.mem_cons.1 hx with rfl | hx
    · exact hpublished { message := ⟨offset, payload⟩ } List.mem_cons_self
    · exact hpublished x (List.mem_cons_of_mem _ hx)
  refine ⟨(atRest_release standing' ?_).1, ?_⟩
  · have := deliveries.cons payload
    rw [work.handle_of_event hdecode, ← w.grows_elapse.handler, hwork, ← hoffset] at this
    exact this
  · refine ⟨{ message := ⟨offset, payload⟩, brokeDown := true }, ?_, rfl⟩
    have := (grows_elapse { w.elapse with
      handler := after
      handled := { message := ⟨offset, payload⟩, brokeDown := true } :: done }).handled
    show _ ∈ Course.handled (elapse _)
    rw [this]
    exact List.mem_cons_self

/-- Closing the subscription ends the run. -/
lemma stands_finish {w : Course η} (h : w.Stands work p start quiet .receiving)
    (hquiet : quiet → w.Quiet ∧ w.Drained) (outcome : Except DeliveryError Unit) (more : Log) :
    (Consumer.finish source w outcome more).source.Stands work p start quiet (.ended outcome) := by
  obtain ⟨hrest, hdrained⟩ := atRest_close h
  exact ⟨hrest, fun hq => hdrained (hquiet hq).1 (hquiet hq).2⟩

/-- A step between two messages: the consumer ends, takes the next message, or waits. -/
lemma stands_advance_receiving {w : Course η} {step : ConsumerStep (Course η)}
    (h : w.Stands work p start quiet .receiving) (hquiet : quiet → w.Quiet)
    (hstep : Consumer.advance source w.cancelled w .receiving = some step) :
    step.source.Stands work p start quiet step.phase ∧
      stepsLeft step.phase step.source < stepsLeft .receiving w := by
  cases hcancelled : w.cancelled with
  | true =>
    simp only [Consumer.advance, hcancelled, if_true, Option.some.injEq] at hstep
    subst hstep
    refine ⟨stands_finish h (fun hq => ?_) _ _, by simp [Consumer.finish, stepsLeft]⟩
    exact absurd hcancelled (by simp [(hquiet hq).2])
  | false =>
    simp only [Consumer.advance, hcancelled, Bool.false_eq_true, if_false] at hstep
    cases hmessage : w.elapse.partition.messages[successor p.resumption w.handled]? with
    | some payload =>
      obtain ⟨w', hnext, hstands, hsteps⟩ := stands_message h hmessage
      rw [hnext] at hstep
      obtain rfl : _ = step := Option.some.inj hstep
      exact ⟨hstands, hsteps⟩
    | none =>
      obtain ⟨hnext, hstands, hdrained⟩ := stands_at_end h hmessage
      rw [hnext] at hstep
      cases hclosed : w.elapse.partition.closed with
      | false => simp [hclosed] at hstep
      | true =>
        simp only [hclosed, if_true, Option.some.injEq] at hstep
        subst hstep
        refine ⟨stands_finish hstands (fun hq => ?_) _ _, by simp [Consumer.finish, stepsLeft]⟩
        rw [(hquiet hq).elapse]
        exact ⟨hquiet hq, hdrained (hquiet hq)⟩

/-- The consumer's own steps make nothing happen. -/
lemma quiet_advance {phase : ConsumerPhase} {w : Course η} {step : ConsumerStep (Course η)}
    (hstep : Consumer.advance source w.cancelled w phase = some step) (h : w.Quiet) :
    step.source.Quiet := by
  have keep : ∀ {w : Course η} (c : Partition.Connection), w.Quiet →
      (w.elapse.reconnect c).Quiet := by
    intro w c hw
    rw [hw.elapse]
    exact hw
  refine Consumer.advance_keeps Quiet (fun hw => keep _ hw) (fun {w} hw => ?_)
    (fun offset hw => keep _ hw) (fun hw => keep _ hw) (fun hw => keep _ hw) hstep h
  have := keep w.elapse.connection.next.2 hw
  show ((w.elapse.reconnect w.elapse.connection.next.2).handOver w.elapse.connection.next.1).Quiet
  cases w.elapse.connection.next.1 <;> exact this

/-- Each step of the consumer's own leads to the next phase as it stands there. -/
lemma stands_advance {phase : ConsumerPhase} {w : Course η} {step : ConsumerStep (Course η)}
    (h : w.Stands work p start quiet phase) (hquiet : quiet → w.Quiet)
    (hstep : Consumer.advance source w.cancelled w phase = some step) :
    step.source.Stands work p start quiet step.phase ∧
      stepsLeft step.phase step.source < stepsLeft phase w := by
  cases phase with
  | settling offset event => simp [Consumer.advance] at hstep
  | ended outcome => simp [Consumer.advance] at hstep
  | receiving => exact stands_advance_receiving h hquiet hstep
  | starting =>
    obtain ⟨w', log, hsubscribe, hstands, hsteps⟩ := stands_subscribe h
    simp only [Consumer.advance, hsubscribe, Option.some.injEq] at hstep
    subst hstep
    exact ⟨hstands, hsteps⟩
  | committing offset =>
    obtain ⟨w', hcommit, hstands, hsteps⟩ := stands_commit h
    simp only [Consumer.advance, hcommit, Option.some.injEq] at hstep
    subst hstep
    exact ⟨hstands, hsteps⟩

/-- A consumer that goes on waiting waits while something happens. -/
lemma stands_await {w : Course η} (h : w.Stands work p start quiet .receiving)
    (hcoming : w.coming ≠ []) :
    w.elapse.Stands work p start quiet .receiving ∧
      stepsLeft .receiving w.elapse < stepsLeft .receiving w := by
  refine ⟨stands_elapse h, ?_⟩
  have hlength := List.length_pos_iff.2 hcoming
  have hposition : w.elapse.position = w.position := by
    simp [position, w.grows_elapse.subscription]
  simp only [stepsLeft, w.supply_elapse, w.length_coming_elapse, hposition]
  omega

/-- A consumer that waits although nothing is going to happen has committed everything. -/
lemma drained_of_waiting {w : Course η} (h : w.Stands work p start quiet .receiving)
    (hquiet : w.Quiet) (hwaiting : Consumer.advance source w.cancelled w .receiving = none) :
    w.Drained := by
  cases hmessage : w.elapse.partition.messages[successor p.resumption w.handled]? with
  | none => exact (stands_at_end h hmessage).2.2 hquiet
  | some payload =>
    obtain ⟨w', hnext, -⟩ := stands_message h hmessage
    simp [Consumer.advance, hquiet.2, hnext] at hwaiting

end Steps

/-- **The invariant of a run**, for ends at rest. If nothing is going to happen, the end also
leaves nothing uncommitted, unless a handling broke down. -/
def runInvariant (work : Handler η) (p : Partition) (start : η) (quiet : Prop) :
    Consumer.RunInvariant (surroundings work) fun _ w _ =>
      w.AtRest work p start ∧ (quiet → (∃ h ∈ w.handled, h.brokeDown = true) ∨ w.Drained) where
  Holds phase w _ := w.Stands work p start quiet phase ∧ (quiet → w.Quiet)
  steps := stepsLeft
  steps_pos := by
    intro phase w _ _
    cases phase <;> simp [stepsLeft, stepBound]
  ended := fun ⟨⟨hrest, hdrained⟩, _⟩ => ⟨hrest, fun hq => .inr (hdrained hq)⟩
  settle_brokeDown := fun ⟨h, _⟩ hsettle =>
    let ⟨hrest, hbroke⟩ := atRest_settle_brokeDown h hsettle
    ⟨hrest, fun _ => .inl hbroke⟩
  settle_ok := by
    intro offset event w _ outcome w' log ⟨h, hquiet⟩ hsettle
    obtain ⟨hstands, hsteps⟩ := stands_settle_ok h hsettle
    refine ⟨⟨hstands, fun hq => ?_⟩, hsteps⟩
    rcases hwork : work event w.elapse.handler with ⟨result | result, after, more⟩
    · simp [surroundings, settle, hwork] at hsettle
    · simp only [surroundings, settle, hwork, Prod.mk.injEq] at hsettle
      rw [← hsettle.2.1, (hquiet hq).elapse]
      exact hquiet hq
  advance := by
    intro phase w _ step ⟨h, hquiet⟩ hstep
    obtain ⟨hstands, hsteps⟩ := stands_advance h hquiet hstep
    exact ⟨⟨hstands, fun hq => quiet_advance hstep (hquiet hq)⟩, hsteps⟩
  await_some := by
    intro w w' _ ⟨h, hquiet⟩ _ hawait
    obtain ⟨hcoming, rfl⟩ : w.coming ≠ [] ∧ w.elapse = w' := by
      simpa [surroundings] using hawait
    obtain ⟨hstands, hsteps⟩ := stands_await h hcoming
    exact ⟨⟨hstands, fun hq => absurd (hquiet hq).1 hcoming⟩, hsteps⟩
  await_none := by
    intro w _ ⟨h, hquiet⟩ hwaiting _
    obtain ⟨hrest, hdrained⟩ := atRest_release h.1 h.2
    exact ⟨hrest, fun hq => .inr (hdrained (hquiet hq) (drained_of_waiting h (hquiet hq) hwaiting))⟩

/-- **A run of the consumer** starts and ends at rest. If nothing happens during the run it leaves
nothing uncommitted, unless a handling broke down.

**Proof sketch.** The rule for runs, with the invariant that each phase stands as it should. The
steps of a run are bounded by the messages there will be, three for each, and by what others are
going to do. -/
theorem consume_spec {work : Handler η} {p : Partition} {start : η} {w : Course η}
    (h : w.AtRest work p start) :
    (w.consume work).2.1.AtRest work p start ∧ (w.Quiet →
      (∃ h ∈ (w.consume work).2.1.handled, h.brokeDown = true) ∨
        (w.consume work).2.1.Drained) :=
  have holds : (runInvariant work p start w.Quiet).Holds .starting w [] := ⟨h, id⟩
  (runInvariant work p start w.Quiet).run w.stepBound holds le_rfl

/-! ## Runs under a supervisor -/

section Supervision

variable {work : Handler η} {p : Partition} {start : η}

/-- A course is at rest when it is opened. -/
lemma atRest_opened (work : Handler η) (p : Partition) (coming : List (List Happening))
    (start : η) : (opened p coming start).AtRest work p start where
  standing := ⟨rfl, rfl, rfl, by simp [opened]⟩
  deliveries := .nil

/-- Whatever others do, a consumer at rest stays so. -/
lemma AtRest.elapse {w : Course η} (h : w.AtRest work p start) :
    w.elapse.AtRest work p start :=
  have ⟨standing, deliveries⟩ := h.standing.elapse h.deliveries
  ⟨standing, deliveries⟩

/-- The supervisor leaves the consumer at rest after each of its steps. -/
lemma atRest_supervised (fuel : Nat) (s : Supervisor) {w : Course η}
    (h : w.AtRest work p start) :
    (Supervisor.run (supervision work) fuel s w).2.1.AtRest work p start := by
  induction fuel generalizing s w with
  | zero => exact h
  | succ fuel ih =>
    rw [Supervisor.run]
    cases s.phase with
    | stopped => exact h
    | ready => exact ih _ h
    | running => exact ih _ (consume_spec h).1
    | resting => exact ih _ h.elapse

end Supervision

end Course

namespace Deliveries

variable {η : Type} {work : Handler η} {first : Nat} {start handler : η} {hs : List Handling}

/-- The first delivery has the first offset. -/
lemma offset_first (h : Deliveries work first start hs handler) {x : Handling}
    (hx : hs.reverse[0]? = some x) : x.message.offset = first := by
  induction h with
  | nil => simp at hx
  | @cons hs handler payload h ih =>
    rw [List.reverse_cons] at hx
    cases hs with
    | nil =>
      obtain rfl : _ = x := Option.some.inj hx
      rfl
    | cons y hs =>
      rw [List.getElem?_append_left (by simp)] at hx
      exact ih hx

/-- Each delivery has the offset behind the one before, or the same if that broke down. -/
lemma offset_next (h : Deliveries work first start hs handler) {n : Nat} {x y : Handling}
    (hx : hs.reverse[n]? = some x) (hy : hs.reverse[n + 1]? = some y) :
    y.message.offset = if x.brokeDown then x.message.offset else x.message.offset + 1 := by
  induction h with
  | nil => simp at hx
  | @cons hs handler payload h ih =>
    rw [List.reverse_cons] at hx hy
    have hn := (List.getElem?_eq_some_iff.1 hy).1
    simp only [List.length_append, List.length_reverse, List.length_singleton] at hn
    rw [List.getElem?_append_left (by rw [List.length_reverse]; omega)] at hx
    by_cases hlast : n + 1 < hs.length
    · rw [List.getElem?_append_left (by rwa [List.length_reverse])] at hy
      exact ih hx hy
    · -- the newest delivery follows the one that was the newest before it
      cases hs with
      | nil => simp at hx
      | cons z hs =>
        simp only [List.length_cons] at hn hlast
        obtain rfl : n = hs.length := by omega
        obtain rfl : z = x := by simpa using hx
        obtain rfl : _ = y := by simpa using hy
        rfl

/-- The offset to be handed over is never before the first one. -/
lemma first_le_successor (h : Deliveries work first start hs handler) :
    first ≤ successor first hs := by
  induction h with
  | nil => exact le_rfl
  | cons payload h ih => exact ih.trans (successor_le_successor_cons _ _ _ _)

/-- No delivery is ahead of the offset to be handed over. -/
lemma offset_le_successor (h : Deliveries work first start hs handler) :
    ∀ x ∈ hs, x.message.offset ≤ successor first hs := by
  induction h with
  | nil => simp
  | @cons hs handler payload h ih =>
    have hstep := successor_le_successor_cons first hs payload (work.handle payload handler).1
    intro x hx
    rcases List.mem_cons.1 hx with rfl | hx
    · exact hstep
    · exact (ih x hx).trans hstep

/-- The last offset whose handling came to its end is the greatest one. -/
lemma lastFinished_eq (h : Deliveries work first start hs handler) (committed : Option Nat) :
    lastFinished committed hs =
      ((hs.filter (!·.brokeDown)).map (·.message.offset)).max?.or committed := by
  induction h with
  | nil => rfl
  | @cons hs handler payload h ih =>
    cases hbroke : (work.handle payload handler).1 with
    | true => simpa [lastFinished] using ih
    | false =>
      have hmax : (successor first hs ::
          (hs.filter (!·.brokeDown)).map (·.message.offset)).max? = some (successor first hs) := by
        rw [List.max?_eq_some_iff]
        refine ⟨List.mem_cons_self, ?_⟩
        intro offset hoffset
        rcases List.mem_cons.1 hoffset with rfl | hoffset
        · exact le_rfl
        · obtain ⟨x, hx, rfl⟩ := List.mem_map.1 hoffset
          exact h.offset_le_successor x (List.mem_of_mem_filter hx)
      simp [lastFinished, hmax]

end Deliveries

namespace Course

/-- **Delivery under a supervisor.** Whatever others do between any two steps, whatever the handler
does with each event, and however often the consumer is started again: the first offset handed over
is the one behind what was committed at the start; each further one is the next offset, or the same
once more if its handling broke down; what is handed over at an offset is the message that was
published there. At the end of each run the committed offset is the greatest one whose handling came
to its end, and the one committed at the start while there is none.

**Proof sketch.** The consumer is at rest before and after each run (`consume_spec`), and pauses and
restarts do not touch its connection, so the supervisor leaves it at rest. There the deliveries
follow one another, and the last finished one, which is committed, is the greatest. -/
theorem supervised_deliveries {η : Type} (work : Handler η) (p : Partition)
    (coming : List (List Happening)) (start : η) (s : Supervisor) (fuel : Nat) :
    let w := (Supervisor.run (supervision work) fuel s (opened p coming start)).2.1
    let handed := w.handled.reverse
    Deliveries work p.resumption start w.handled w.handler ∧
      (∀ x, handed[0]? = some x → x.message.offset = p.resumption) ∧
      (∀ n x y, handed[n]? = some x → handed[n + 1]? = some y →
        y.message.offset = if x.brokeDown then x.message.offset else x.message.offset + 1) ∧
      (∀ x ∈ handed, w.partition.messages[x.message.offset]? = some x.message.payload) ∧
      w.partition.committed =
        ((w.handled.filter (!·.brokeDown)).map (·.message.offset)).max?.or p.committed := by
  intro w handed
  obtain ⟨standing, deliveries⟩ := atRest_supervised fuel s (atRest_opened work p coming start)
  refine ⟨deliveries, fun x hx => deliveries.offset_first hx,
    fun n x y hx hy => deliveries.offset_next hx hy,
    fun x hx => standing.published x (List.mem_reverse.1 hx), ?_⟩
  rw [← deliveries.lastFinished_eq]
  exact standing.committed

end Course

end PenaltySettlement
