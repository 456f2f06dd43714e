import PenaltySettlement.Proofs.Shift

/-!
# The cancellation of the consumer

Cancellation is graceful. The consumer asks for no message once the work is cancelled, brings the
message in hand to its end and commits it, and gives its subscription back with everything
committed that has been delivered. It returns at once if it has been cancelled before, at the end of
the handling that the cancellation falls into, and otherwise with the cancellation, however many
messages are left.

## Main definitions

* `ReturnsAt` — the time of the return of a consumer that is cancelled.
* `Shift.EndsAs` — the ends of a run, each with its reason.
* `Shift.Attended` — a shift at the end of a run.
* `Shift.attendance` — the invariant of a run.

## Main results

* `Shift.holds_settled`, `Shift.holds_occur` — a cancellation during a handling, and one that the
  consumer has been waiting for.
* `Shift.attend_graceful` — the end of every run.
-/

set_option autoImplicit false

namespace PenaltySettlement

/-- **The time of the return** of a consumer that starts at a time, when the work is cancelled at
another one: at once if it has been cancelled before, with the cancellation if all messages are
done by then, and otherwise at the end of the handling that cancellation falls into. -/
inductive ReturnsAt (origin : Nat) (before : Bool) (cancellation : Nat) (served : List Service) :
    Nat → Prop
  | atOnce (early : before = true) (none : served = []) :
    ReturnsAt origin before cancellation served origin
  | waiting (later : before = false) (done : freeFrom origin served ≤ cancellation) :
    ReturnsAt origin before cancellation served cancellation
  | handling (later : before = false) {last : Service} {others : List Service}
    (eq : served = last :: others) (taken : last.takenAt ≤ cancellation)
    (going : cancellation ≤ last.doneAt) :
    ReturnsAt origin before cancellation served last.doneAt

namespace Shift

variable {η : Type}

/-! ## What a run keeps -/

/-- Where the consumer stands: its position, if it has a subscription, and the messages that are
committed. What has been delivered is in the partition. -/
structure Standing (p : Partition) (w : Shift η) (position : Option Nat) (done : List Service) :
    Prop where
  subscription : w.connection.subscription = position.map ({ position := · })
  subscribed : w.partition.subscribed = position.isSome
  committed : w.partition.committed = lastServed p.committed done
  published : ∀ s ∈ w.served, w.partition.messages[s.message.offset]? = some s.message.payload

/-- How a shift goes on from its beginning. Once the work is cancelled, it is time to return. -/
structure Since (before w : Shift η) : Prop where
  cancellation : w.cancellation? = before.cancellation?
  closing : w.Closing ↔ before.Closing
  uncancelled : w.cancelledAt = none → before.cancelledAt = none
  due : ∀ time ∈ w.cancelledAt,
    ReturnsAt before.now before.cancelledAt.isSome time w.served w.now

/-- What the consumer reports when it gives a subscription back. -/
def farewell (p : Partition) (position : Nat) : Log :=
  (p.closeSubscription { position }).2.2 ++
    [Consumer.entry .info "payment consumer shutting down" []]

/-- **The end of a run, with its reason.** It returns because the work is cancelled, in time and
with its subscription right behind what is committed; or because the partition is closed; or it is
taken off because it waits for something that never comes. -/
def EndsAs (before : Shift η) (ending : RunEnd DeliveryError) (after : Shift η) (log : Log) :
    Prop :=
  match ending with
  | .returned (.ok ()) =>
    (∃ time, before.cancellation? = some time ∧
      ReturnsAt before.now before.cancelledAt.isSome time after.served after.now) ∧
    ∃ earlier, log = earlier ++ farewell after.partition after.partition.resumption
  | .returned (.error e) =>
    e = .subscriptionClosed ∧ before.Closing ∧ after.cancelledAt = none
  | .takenOff => before.cancellation? = none
  | .brokeDown _ => False

/-- **A shift at the end of a run.** -/
structure Attended (work : TimedHandler η) (p : Partition) (start : η) (before : Shift η)
    (ending : RunEnd DeliveryError) (after : Shift η) (log : Log) : Prop where
  /-- The messages follow one another from the first one that had not been committed. -/
  services : Services work p.resumption before.now start after.served after.handler
  published : ∀ s ∈ after.served,
    after.partition.messages[s.message.offset]? = some s.message.payload
  /-- Each has been asked for when the work was not cancelled, and is done and committed. -/
  done : ∀ s ∈ after.served,
    s.cancelled = false ∧ s.doneAt ≤ after.now ∧ s.message.offset < after.partition.resumption
  committed : after.partition.committed = lastServed p.committed after.served
  resumption : after.partition.resumption = p.resumption + after.served.length
  /-- The subscription is given back. -/
  subscription : after.connection.subscription = none
  subscribed : after.partition.subscribed = false
  endsAs : before.EndsAs ending after log

/-- What holds in each phase of a run. A message that is being handled is the last one that has been
delivered, and is not yet committed. -/
def Holds (work : TimedHandler η) (p : Partition) (start : η) (before : Shift η) :
    ConsumerPhase → Shift η → Log → Prop
  | .starting, w, _ =>
    w.Standing p none [] ∧ w.served = [] ∧ w.handler = start ∧ w.now = before.now ∧
      before.Since w
  | .receiving, w, _ =>
    w.Standing p (some (p.resumption + w.served.length)) w.served ∧
      Services work p.resumption before.now start w.served w.handler ∧
      freeFrom before.now w.served ≤ w.now ∧ before.Since w
  | .settling offset event, w, _ => ∃ payload done,
    w.served = { message := ⟨offset, payload⟩, takenAt := w.now, doneAt := w.now
                 cancelled := false } :: done ∧
      PenaltyPaymentEvent.decode payload = .ok event ∧ offset = p.resumption + done.length ∧
      w.Standing p (some (offset + 1)) done ∧
      Services work p.resumption before.now start done w.handler ∧
      freeFrom before.now done ≤ w.now ∧ w.cancelledAt = none ∧ before.Since w
  | .committing offset, w, _ => ∃ s done,
    w.served = s :: done ∧ s.message.offset = offset ∧ w.Standing p (some (offset + 1)) done ∧
      Services work p.resumption before.now start w.served w.handler ∧
      freeFrom before.now w.served ≤ w.now ∧ before.Since w
  | .ended outcome, w, log => before.Attended work p start (.returned outcome) w log

/-- The steps that a run may still take. -/
def stepsLeft : ConsumerPhase → Shift η → Nat
  | .starting, w => w.stepBound
  | .receiving, w => 3 * (w.supply - w.position) + w.coming.length + 2
  | .settling _ _, w => 3 * (w.supply - w.position) + w.coming.length + 4
  | .committing _, w => 3 * (w.supply - w.position) + w.coming.length + 3
  | .ended _, _ => 1

/-! ## The steps of a run -/

section Steps

variable {work : TimedHandler η} {p : Partition} {start : η} {before w : Shift η} {log : Log}

/-- Time that passes does not move the consumer. -/
lemma Standing.later {w' : Shift η} {position : Option Nat} {done : List Service}
    (h : w.Standing p position done) (later : w.Later w') : w'.Standing p position done where
  subscription := later.subscription.trans h.subscription
  subscribed := later.subscribed.trans h.subscribed
  committed := later.committed.trans h.committed
  published := fun s hs => later.published (h.published s (later.served ▸ hs))

/-- The consumer moves by what it does with its connection. -/
lemma Standing.reconnect {position position' : Option Nat} {done done' : List Service}
    (h : w.Standing p position done) {c : Partition.Connection}
    (hmessages : c.partition.messages = w.partition.messages)
    (hsubscription : c.subscription = position'.map ({ position := · }))
    (hsubscribed : c.partition.subscribed = position'.isSome)
    (hcommitted : c.partition.committed = lastServed p.committed done') :
    (w.reconnect c).Standing p position' done' where
  subscription := hsubscription
  subscribed := hsubscribed
  committed := hcommitted
  published := by
    intro s hs
    rw [← h.published s hs, ← hmessages]
    rfl

/-- Nor is the course of time moved by it. -/
lemma Since.reconnect (h : before.Since w) {c : Partition.Connection}
    (hclosed : c.partition.closed = w.partition.closed) : before.Since (w.reconnect c) where
  cancellation := h.cancellation
  closing := by
    rw [← h.closing, Closing, Closing, ← hclosed]
    rfl
  uncancelled := h.uncancelled
  due := h.due

/-- The measure after a use of the connection that leaves the messages. -/
lemma counts_reconnect {c : Partition.Connection} {position : Nat}
    (hmessages : c.partition.messages = w.partition.messages)
    (hc : c.subscription = some { position }) :
    (w.reconnect c).supply = w.supply ∧ (w.reconnect c).coming = w.coming ∧
      (w.reconnect c).position = position := by
  refine ⟨?_, rfl, by simp [Shift.position, Shift.reconnect, hc]⟩
  unfold supply Partition.size
  rw [← hmessages]
  rfl

/-- The position of a consumer that has a subscription. -/
lemma Standing.position_eq {position : Nat} {done : List Service}
    (h : w.Standing p (some position) done) : w.position = position := by
  simp [Shift.position, h.subscription]

/-- A subscription starts behind what is committed. -/
lemma holds_subscribe (h : Holds work p start before .starting w log) :
    ∃ w' more, source.subscribe w = (.ok (), w', more) ∧
      Holds work p start before .receiving w' (log ++ more) ∧
      stepsLeft .receiving w' < stepsLeft .starting w := by
  obtain ⟨standing, hserved, hhandler, hnow, since⟩ := h
  obtain ⟨c, more, hsubscribe, hc, hpartition⟩ :=
    Partition.Connection.subscribe_of_free standing.subscribed
  have hmessages : c.partition.messages = w.partition.messages := by
    rw [hpartition]
    rfl
  have hnone : Services work p.resumption before.now start [] start := .nil
  have hresumption : w.partition.resumption = p.resumption :=
    hnone.resumption_eq standing.committed
  obtain ⟨hsupply, hcoming, -⟩ := counts_reconnect hmessages hc
  refine ⟨w.reconnect c, more, by simp only [source, hsubscribe], ⟨?_, ?_, ?_, ?_⟩, ?_⟩
  · show (w.reconnect c).Standing p (some (p.resumption + w.served.length)) w.served
    rw [hserved]
    refine standing.reconnect hmessages ?_ (by rw [hpartition]; rfl) ?_
    · rw [hc]
      exact congrArg (fun n : Nat => some ({ position := n } : Subscription)) hresumption
    · rw [hpartition]
      exact standing.committed
  · show Services work p.resumption before.now start w.served w.handler
    rw [hserved, hhandler]
    exact .nil
  · show freeFrom before.now w.served ≤ w.now
    rw [hserved, hnow]
    exact Nat.le_refl _
  · exact since.reconnect (by rw [hpartition]; rfl)
  · simp only [stepsLeft, stepBound, hsupply, hcoming]
    omega

/-- A message that is received is the one at the position, and it is the last one that has been
delivered. The consumer moves behind it. -/
lemma receive_message {offset : Nat} (standing : w.Standing p (some offset) w.served)
    (since : before.Since w) (uncancelled : w.cancelledAt = none) {payload : List UInt8}
    (hpayload : w.partition.messages[offset]? = some payload) :
    ∃ w', source.next w = (.message ⟨offset, payload⟩, w') ∧
      w'.served = { message := ⟨offset, payload⟩, takenAt := w'.now, doneAt := w'.now
                    cancelled := false } :: w.served ∧
      w'.handler = w.handler ∧ w'.now = w.now ∧ w'.cancelledAt = none ∧
      w'.Standing p (some (offset + 1)) w.served ∧ before.Since w' ∧
      3 * (w'.supply - w'.position) + w'.coming.length + 4 < stepsLeft .receiving w := by
  obtain ⟨c, hnext, hc, hpartition⟩ :=
    Partition.Connection.next_of_open standing.subscription hpayload
  have hmessages : c.partition.messages = w.partition.messages :=
    congrArg Partition.messages hpartition
  obtain ⟨hsupply, hcoming, hposition⟩ := counts_reconnect hmessages hc
  have hsince := since.reconnect (congrArg Partition.closed hpartition)
  refine ⟨(w.reconnect c).deliver (.message ⟨offset, payload⟩), by simp only [source, hnext],
    ?_, rfl, rfl, uncancelled, ⟨hc, ?_, ?_, ?_⟩, ⟨hsince.cancellation, hsince.closing,
      hsince.uncancelled, ?_⟩, ?_⟩
  · show { message := ⟨offset, payload⟩, takenAt := w.now, doneAt := w.now
           cancelled := w.cancelledAt.isSome } :: w.served = _
    rw [uncancelled]
    rfl
  · exact (congrArg Partition.subscribed hpartition).trans standing.subscribed
  · exact (congrArg Partition.committed hpartition).trans standing.committed
  · intro s hs
    show c.partition.messages[s.message.offset]? = _
    rw [hmessages]
    rcases List.mem_cons.1 hs with rfl | hs
    · exact hpayload
    · exact standing.published s hs
  · intro time htime
    have : w.cancelledAt = some time := htime
    rw [uncancelled] at this
    cases this
  · -- there is room for the message, so that the position stays within the supply
    have hroom : offset < w.supply :=
      Nat.lt_add_right _ (Array.getElem?_eq_some_iff.1 hpayload).1
    show 3 * ((w.reconnect c).supply - (w.reconnect c).position) +
      (w.reconnect c).coming.length + 4 < _
    rw [hsupply, hcoming, hposition]
    simp only [stepsLeft, standing.position_eq]
    omega

/-- A message that is received is handled if it is an event, and otherwise it is done. -/
lemma holds_message (h : Holds work p start before .receiving w log)
    (uncancelled : w.cancelledAt = none) {payload : List UInt8}
    (hpayload : w.partition.messages[p.resumption + w.served.length]? = some payload) :
    ∃ w', source.next w = (.message ⟨p.resumption + w.served.length, payload⟩, w') ∧
      Holds work p start before
        (Consumer.take ⟨p.resumption + w.served.length, payload⟩).1 w'
        (log ++ (Consumer.take ⟨p.resumption + w.served.length, payload⟩).2) ∧
      stepsLeft (Consumer.take ⟨p.resumption + w.served.length, payload⟩).1 w' <
        stepsLeft .receiving w := by
  obtain ⟨standing, services, hfree, since⟩ := h
  obtain ⟨w', hnext, hserved, hhandler, hnow, huncancelled, standing', since', hmeasure⟩ :=
    receive_message standing since uncancelled hpayload
  rw [← hhandler] at services
  rw [← hnow] at hfree
  refine ⟨w', hnext, ?_⟩
  cases hdecode : PenaltyPaymentEvent.decode payload with
  | ok event =>
    simp only [Consumer.take, hdecode]
    exact ⟨⟨payload, w.served, hserved, hdecode, rfl, standing', services, hfree, huncancelled,
      since'⟩, hmeasure⟩
  | error fault =>
    have hhandle : ∀ handler, work.handle payload handler = (0, handler) := by
      intro handler
      simp [TimedHandler.handle, hdecode]
    simp only [Consumer.take, hdecode]
    refine ⟨⟨_, w.served, hserved, rfl, standing', ?_, ?_, since'⟩, ?_⟩
    · have := services.cons payload hfree
      rw [hhandle] at this
      rwa [hserved]
    · rw [hserved]
      exact Nat.le_refl _
    · simp only [stepsLeft] at hmeasure ⊢
      omega

/-- The end of the handling of the last message. -/
lemma dismiss_of_served {s : Service} {done : List Service} (h : w.served = s :: done)
    (handler : η) :
    w.dismiss handler = { w with handler, served := { s with doneAt := w.now } :: done } := by
  simp only [dismiss, h]

/-- The consumer stays where it is at the end of a handling. -/
lemma Standing.dismiss {position : Option Nat} {done : List Service}
    (h : w.Standing p position done) (handler : η) :
    (w.dismiss handler).Standing p position done := by
  cases hserved : w.served with
  | nil =>
    have hdismiss : w.dismiss handler = { w with handler } := by simp only [Shift.dismiss, hserved]
    rw [hdismiss]
    exact ⟨h.subscription, h.subscribed, h.committed, h.published⟩
  | cons s others =>
    rw [dismiss_of_served hserved]
    refine ⟨h.subscription, h.subscribed, h.committed, fun x hx => ?_⟩
    rcases List.mem_cons.1 hx with rfl | hx
    · exact h.published s (hserved ▸ List.mem_cons_self)
    · exact h.published x (hserved ▸ List.mem_cons_of_mem s hx)

/-- An event that has been handled is done, and its handler has taken its time. A cancellation
meanwhile is one that the handling falls into.

**Proof sketch.** The message in hand is the last one that has been delivered, and it was taken at
the beginning of the handling. So it extends the messages that are done, and a cancellation since
then lies between its beginning and its end. -/
lemma holds_settled {offset : Nat} {event : PenaltyPaymentEvent}
    (h : Holds work p start before (.settling offset event) w log) (more : Log) :
    Holds work p start before (.committing offset)
        ((w.pass (work event w.handler).1).dismiss (work event w.handler).2.2.1) more ∧
      stepsLeft (.committing offset)
          ((w.pass (work event w.handler).1).dismiss (work event w.handler).2.2.1) <
        stepsLeft (.settling offset event) w := by
  obtain ⟨payload, done, hserved, hdecode, rfl, standing, services, hfree, huncancelled, since⟩ := h
  obtain ⟨later, hnow⟩ := w.later_pass (work event w.handler).1
  have hhandle : work.handle payload w.handler =
      ((work event w.handler).1, (work event w.handler).2.2.1) := by
    simp [TimedHandler.handle, hdecode]
  have hdone := services.cons payload hfree
  rw [hhandle, ← hnow] at hdone
  have hstanding := (standing.later later).dismiss (work event w.handler).2.2.1
  have hdismiss := dismiss_of_served (later.served.trans hserved) (work event w.handler).2.2.1
  rw [hdismiss] at hstanding ⊢
  have hbefore : before.cancelledAt.isSome = false := by
    rw [since.uncancelled huncancelled]
    rfl
  refine ⟨⟨_, done, rfl, rfl, hstanding, hdone, Nat.le_refl _, later.cancellation.trans
    since.cancellation, later.closing.trans since.closing,
    fun _ => since.uncancelled huncancelled, fun time htime => ?_⟩, ?_⟩
  · rcases later.cancelledAt with hsame | ⟨-, time', htime', hle, hle'⟩
    · have hnone := hsame.symm.trans htime
      rw [huncancelled] at hnone
      cases hnone
    · obtain rfl : time = time' := Option.some.inj (htime.symm.trans htime')
      exact .handling hbefore rfl hle hle'
  · have hposition := hstanding.position_eq
    have hcoming := later.coming
    have hsupply := later.supply
    simp only [stepsLeft, hposition, standing.position_eq]
    show 3 * ((w.pass _).supply - _) + (w.pass _).coming.length + 3 < _
    rw [hsupply]
    omega

/-- The message in hand is committed, and the consumer is ready for the next one. -/
lemma holds_commit {offset : Nat} (h : Holds work p start before (.committing offset) w log)
    (more : Log) :
    ∃ w', source.commit offset w = (.ok (), w') ∧
      Holds work p start before .receiving w' more ∧
      stepsLeft .receiving w' < stepsLeft (.committing offset) w := by
  obtain ⟨s, done, hserved, rfl, standing, services, hfree, since⟩ := h
  obtain ⟨c, hcommit, hc, hpartition⟩ :=
    Partition.Connection.commit_of_open standing.subscription (Nat.lt_succ_self s.message.offset)
  have hmessages : c.partition.messages = w.partition.messages := by
    rw [hpartition]
    rfl
  obtain ⟨hoffset, _, earlier⟩ := (hserved ▸ services).offset_eq
  have hle : w.partition.committed.getD 0 ≤ s.message.offset := by
    rw [hoffset, ← earlier.resumption_eq standing.committed]
    exact w.partition.committed_le_resumption
  obtain ⟨hsupply, hcoming, hposition⟩ := counts_reconnect hmessages hc
  refine ⟨w.reconnect c, by simp only [source, hcommit], ⟨?_, services, hfree,
    since.reconnect (by rw [hpartition]; rfl)⟩, ?_⟩
  · show (w.reconnect c).Standing p (some (p.resumption + w.served.length)) w.served
    have hnext : p.resumption + w.served.length = s.message.offset + 1 := by
      rw [hserved, List.length_cons, hoffset]
      omega
    rw [hnext]
    refine standing.reconnect hmessages hc ?_ ?_
    · rw [hpartition]
      exact standing.subscribed
    · rw [hpartition, hserved]
      exact congrArg some (Nat.max_eq_left hle)
  · simp only [stepsLeft, hsupply, hcoming, hposition, standing.position_eq]
    omega

/-! ## The ends of a run -/

/-- Without its subscription a consumer that has nothing in hand has come to its end. -/
lemma attended_of_free (h : Holds work p start before .receiving w log) {c : Partition.Connection}
    (hc : c.subscription = none)
    (hpartition : c.partition = { w.partition with subscribed := false })
    {ending : RunEnd DeliveryError} {more : Log}
    (endsAs : before.EndsAs ending (w.reconnect c) more) :
    before.Attended work p start ending (w.reconnect c) more := by
  obtain ⟨standing, services, hfree, -⟩ := h
  have hcommitted : c.partition.committed = lastServed p.committed w.served := by
    rw [hpartition]
    exact standing.committed
  have hresumption := services.resumption_eq hcommitted
  refine ⟨services, fun s hs => ?_, fun s hs => ?_, hcommitted, hresumption, hc, ?_, endsAs⟩
  · show c.partition.messages[s.message.offset]? = _
    rw [hpartition]
    exact standing.published s hs
  · obtain ⟨huncancelled, hoffset, hdone⟩ := services.of_mem s hs
    exact ⟨huncancelled, hdone.trans hfree, hoffset.trans_eq hresumption.symm⟩
  · show c.partition.subscribed = false
    rw [hpartition]

/-- A consumer that is cancelled between two messages gives its subscription back and returns. -/
lemma holds_cancelled (h : Holds work p start before .receiving w log) {time : Nat}
    (cancelled : w.cancelledAt = some time) :
    before.Attended work p start (.returned (.ok ())) (source.close w).1
      (log ++ ((source.close w).2 ++
        [Consumer.entry .info "payment consumer shutting down" []])) := by
  have ⟨standing, services, _, since⟩ := h
  obtain ⟨hc, hpartition⟩ := Partition.Connection.close_of_open standing.subscription
  have hcancellation : before.cancellation? = some time := by
    rw [← since.cancellation, cancellation?, cancelled]
    rfl
  have hresumption : w.connection.close.1.partition.resumption =
      p.resumption + w.served.length := services.resumption_eq (by
    rw [hpartition]
    exact standing.committed)
  have hfarewell : (source.close w).2 ++
      [Consumer.entry .info "payment consumer shutting down" []] =
      farewell w.connection.close.1.partition w.connection.close.1.partition.resumption := by
    rw [hresumption]
    simp only [source, Partition.Connection.close, standing.subscription]
    rfl
  refine attended_of_free h hc hpartition
    ⟨⟨time, hcancellation, since.due time cancelled⟩, log, ?_⟩
  rw [hfarewell]
  rfl

/-- Behind the last message the consumer stays where it is. -/
lemma next_at_end {position : Nat} {done : List Service}
    (standing : w.Standing p (some position) done)
    (hend : w.partition.messages[position]? = none) :
    source.next w = (if w.partition.closed then .ended else .pending, w) := by
  have hnext := Partition.Connection.next_of_open_at_end standing.subscription hend
  simp only [source, hnext]
  show (_, (w.reconnect w.connection).deliver _) = _
  cases hclosed : w.connection.partition.closed <;> simp [partition, hclosed, deliver, reconnect]

/-- A consumer that finds the partition at its end gives its subscription back and reports it. -/
lemma holds_closed (h : Holds work p start before .receiving w log)
    (uncancelled : w.cancelledAt = none) (closed : w.partition.closed = true) (more : Log) :
    before.Attended work p start (.returned (.error .subscriptionClosed)) (source.close w).1
      more := by
  obtain ⟨hc, hpartition⟩ := Partition.Connection.close_of_open h.1.subscription
  exact attended_of_free h hc hpartition
    ⟨rfl, h.2.2.2.closing.1 (.inl closed), uncancelled⟩

/-- A consumer that waits for nothing is taken off. -/
lemma holds_takenOff (h : Holds work p start before .receiving w log)
    (uncancelled : w.cancelledAt = none) (hcoming : w.coming = []) (more : Log) :
    before.Attended work p start .takenOff (source.release w) more := by
  obtain ⟨hc, hpartition⟩ := Partition.Connection.release_of_open h.1.subscription
  refine attended_of_free h hc hpartition ?_
  show before.cancellation? = none
  rw [← h.2.2.2.cancellation, cancellation?, uncancelled, hcoming]
  rfl

/-- A consumer that waits goes on with the next occasion. A cancellation then is one that it has
been waiting for. -/
lemma holds_occur (h : Holds work p start before .receiving w log)
    (uncancelled : w.cancelledAt = none) {o : Occasion} {coming : List Occasion}
    (hcoming : w.coming = o :: coming) (more : Log) :
    Holds work p start before .receiving (w.occur o coming) more ∧
      stepsLeft .receiving (w.occur o coming) < stepsLeft .receiving w := by
  obtain ⟨standing, services, hfree, since⟩ := h
  have later := later_occur hcoming
  have hstanding := standing.later later
  have hbefore : before.cancelledAt.isSome = false := by
    rw [since.uncancelled uncancelled]
    rfl
  refine ⟨⟨hstanding, services, hfree.trans later.now, later.cancellation.trans since.cancellation,
    later.closing.trans since.closing, fun _ => since.uncancelled uncancelled,
    fun time htime => ?_⟩, ?_⟩
  · have hcancelled : (if .cancel ∈ o.happenings then some (w.now + o.delayMs) else none) =
        some time := by
      rw [← htime, occur, uncancelled]
      rfl
    obtain ⟨-, hnow⟩ := Option.ite_none_right_eq_some.1 hcancelled
    obtain rfl : w.now + o.delayMs = time := Option.some.inj hnow
    exact .waiting hbefore (hfree.trans later.now)
  · have hposition := hstanding.position_eq
    have hsupply := later.supply
    simp only [stepsLeft, hsupply, hposition, standing.position_eq, hcoming, List.length_cons]
    show 3 * _ + coming.length + 2 < _
    omega

end Steps

/-! ## Runs -/

section

variable {work : TimedHandler η} {p : Partition} {start : η} {before : Shift η}

/-- A step between two messages: the consumer ends or takes the next message. -/
lemma holds_advance_receiving {w : Shift η} {log : Log} {step : ConsumerStep (Shift η)}
    (h : Holds work p start before .receiving w log)
    (hstep : Consumer.advance source w.cancelledAt.isSome w .receiving = some step) :
    Holds work p start before step.phase step.source (log ++ step.log) ∧
      stepsLeft step.phase step.source < stepsLeft .receiving w := by
  cases hcancelled : w.cancelledAt with
  | some time =>
    have hended := holds_cancelled h hcancelled
    simp only [Consumer.advance, hcancelled, Option.isSome_some, if_true,
      Option.some.injEq] at hstep
    subst hstep
    exact ⟨hended, by simp [Consumer.finish, stepsLeft]⟩
  | none =>
    simp only [Consumer.advance, hcancelled, Option.isSome_none, Bool.false_eq_true,
      if_false] at hstep
    cases hmessage : w.partition.messages[p.resumption + w.served.length]? with
    | some payload =>
      obtain ⟨w', hnext, hholds, hsteps⟩ := holds_message h hcancelled hmessage
      rw [hnext] at hstep
      obtain rfl : _ = step := Option.some.inj hstep
      exact ⟨hholds, hsteps⟩
    | none =>
      rw [next_at_end h.1 hmessage] at hstep
      cases hclosed : w.partition.closed with
      | false => simp [hclosed] at hstep
      | true =>
        simp only [hclosed, if_true, Option.some.injEq] at hstep
        subst hstep
        exact ⟨holds_closed h hcancelled hclosed _, by simp [Consumer.finish, stepsLeft]⟩

/-- Each step of the consumer's own keeps the invariant, and there is one step less. -/
lemma holds_advance {phase : ConsumerPhase} {w : Shift η} {log : Log}
    {step : ConsumerStep (Shift η)} (h : Holds work p start before phase w log)
    (hstep : Consumer.advance source w.cancelledAt.isSome w phase = some step) :
    Holds work p start before step.phase step.source (log ++ step.log) ∧
      stepsLeft step.phase step.source < stepsLeft phase w := by
  cases phase with
  | settling offset event => simp [Consumer.advance] at hstep
  | ended outcome => simp [Consumer.advance] at hstep
  | receiving => exact holds_advance_receiving h hstep
  | starting =>
    obtain ⟨w', more, hsubscribe, hholds, hsteps⟩ := holds_subscribe h
    simp only [Consumer.advance, hsubscribe, Option.some.injEq] at hstep
    subst hstep
    exact ⟨hholds, hsteps⟩
  | committing offset =>
    obtain ⟨w', hcommit, hholds, hsteps⟩ := holds_commit h (log ++ [])
    simp only [Consumer.advance, hcommit, Option.some.injEq] at hstep
    subst hstep
    exact ⟨hholds, hsteps⟩

/-- A consumer without a step between two messages is not cancelled. -/
lemma uncancelled_of_advance {w : Shift η}
    (h : Consumer.advance source w.cancelledAt.isSome w .receiving = none) :
    w.cancelledAt = none := by
  cases hcancelled : w.cancelledAt with
  | none => rfl
  | some time => simp [Consumer.advance, hcancelled] at h

/-- **The invariant of a run**, for the ends that it may come to. -/
def attendance (work : TimedHandler η) (p : Partition) (start : η) (before : Shift η) :
    Consumer.RunInvariant (surroundings work) (before.Attended work p start) where
  Holds := Holds work p start before
  steps := stepsLeft
  steps_pos := by
    intro phase w log _
    cases phase <;> simp [stepsLeft, stepBound]
  ended := id
  settle_brokeDown := by
    intro offset event w log breakdown after more _ hsettle
    simp [surroundings] at hsettle
  settle_ok := by
    intro offset event w log outcome after more h hsettle
    obtain ⟨-, rfl, -⟩ : _ ∧ (w.pass (work event w.handler).1).dismiss
        (work event w.handler).2.2.1 = after ∧ _ := by
      simpa only [surroundings, Prod.mk.injEq] using hsettle
    exact holds_settled h _
  advance := holds_advance
  await_some := by
    intro w after log h hstep hawait
    cases hcoming : w.coming with
    | nil => simp [surroundings, hcoming] at hawait
    | cons o coming =>
      obtain rfl : w.occur o coming = after := by simpa [surroundings, hcoming] using hawait
      exact holds_occur h (uncancelled_of_advance hstep) hcoming log
  await_none := by
    intro w log h hstep hawait
    have hcoming : w.coming = [] := by
      cases hcoming : w.coming with
      | nil => rfl
      | cons o coming => simp [surroundings, hcoming] at hawait
    exact holds_takenOff h (uncancelled_of_advance hstep) hcoming log

end

/-- **The end of every run**, with a partition of any history, whatever others do, and when. The
consumer asks for messages only while the work is not cancelled, and all that have been delivered
are committed. If the work is cancelled, and the partition is not closed, the run returns: at once
if the work was cancelled before, at the end of the handling that the cancellation falls into, or
else with the cancellation.

**Proof sketch.** The invariant (`attendance`) holds at the beginning, so that the run comes to one
of its ends. With a cancellation it does not wait for ever, and without a closed partition it does
not end for want of one. -/
theorem attend_graceful (work : TimedHandler η) (p : Partition) (coming : List Occasion)
    (start : η) (origin : Nat) (cancelled : Bool) :
    let before := opened p coming start origin cancelled
    let run := attend work before
    before.Attended work p start run.1 run.2.1 run.2.2 ∧
      (before.cancellation?.isSome → ¬before.Closing → run.1 = .returned (.ok ())) := by
  intro before run
  have hbefore : (attendance work p start before).Holds .starting before [] := by
    refine ⟨⟨rfl, rfl, rfl, by simp [before, opened]⟩, rfl, rfl, rfl, rfl, Iff.rfl, id, ?_⟩
    cases cancelled with
    | true => exact fun time _ => .atOnce rfl rfl
    | false => exact nofun
  have hattended : before.Attended work p start run.1 run.2.1 run.2.2 :=
    (attendance work p start before).run before.stepBound hbefore (Nat.le_refl _)
  refine ⟨hattended, fun hcancelled hopen => ?_⟩
  have hends := hattended.endsAs
  rcases hending : run.1 with outcome | breakdown | _ <;> rw [hending] at hends
  · rcases outcome with e | _
    · exact absurd hends.2.1 hopen
    · rfl
  · exact hends.elim
  · have hnone : before.cancellation? = none := hends
    rw [hnone] at hcancelled
    cases hcancelled

/-- The work is cancelled in the first of two handlings of 300 milliseconds. -/
example :
    let payload := "[0, \"LP\", \"10000024\", \"P1\", \"\", \"\", \"1\", 1, [], \"\", \"\", \"\"]".toUTF8.toList
    let p : Partition := { number := 0, messages := #[payload, payload] }
    let after := (attend (fun _ handled => (300, .ok (), handled + 1, []))
      (opened p [⟨200, [.cancel], false⟩] 0 0 false)).2.1
    after.now = 300 ∧ after.handler = 1 ∧ after.partition.committed = some 0 := by
  decide +kernel

end Shift

end PenaltySettlement
