import PenaltySettlement.Proofs.Delivery

/-!
# Shifts of the consumer

A shift of the consumer passes in virtual time, which moves on only while the consumer waits for a
message or has one handled. What others do meanwhile is known beforehand: at some times payloads
are published, the partition is closed, or the work is cancelled. Of things at the same time it is
known which comes first.

## Main definitions

* `Occasion` — what others do at one time.
* `Shift` — a partition with its consumer in virtual time.
* `Shift.surroundings`, `Shift.attend` — what the consumer works in, and its run.
* `Shift.cancellation?` — the time of the cancellation.
* `Services` — messages that are delivered and handled one after the other.

## Main results

* `Shift.later_pass` — what time brings.
* `Services.of_mem`, `Services.resumption_eq` — what is known of messages one after the other.
-/

set_option autoImplicit false

namespace PenaltySettlement

/-! ## Shifts -/

/-- **What others do at one time**, so long after what they did before that. If the handling of a
message ends at the same time, `first` tells whether this is done before. -/
structure Occasion where
  delayMs : Nat
  happenings : List Happening
  first : Bool := false
  deriving DecidableEq, Repr

/-- What others do to a partition. Cancellation is none of its business. -/
def Happening.on (p : Partition) : Happening → Partition
  | .publish payload => p.publish payload
  | .close => p.close
  | .cancel => p

/-- A message that has been delivered: when it was taken, and when its handling ended. It is known
whether the work was cancelled when the message was asked for. -/
structure Service where
  message : Message
  takenAt : Nat
  doneAt : Nat
  cancelled : Bool
  deriving DecidableEq, Repr

/-- The settling of events by something that has a state of its own, takes some milliseconds for
each, and does not break down. -/
abbrev TimedHandler (η : Type) :=
  PenaltyPaymentEvent → η → Nat × Except SettlementError Unit × η × Log

/-- The handling of a payload: how long it takes, and the state of the handler behind it. A payload
that is no event does not reach the handler. -/
def TimedHandler.handle {η : Type} (work : TimedHandler η) (payload : List UInt8) (handler : η) :
    Nat × η :=
  match PenaltyPaymentEvent.decode payload with
  | .error _ => (0, handler)
  | .ok event => ((work event handler).1, (work event handler).2.2.1)

/-- **A partition with its consumer in virtual time.** `coming` is what others are going to do, and
`served` is what has been delivered so far, the last message first. -/
structure Shift (η : Type) where
  connection : Partition.Connection
  handler : η
  coming : List Occasion
  now : Nat
  cancelledAt : Option Nat
  served : List Service := []

namespace Shift

variable {η : Type}

/-- The partition. -/
def partition (w : Shift η) : Partition := w.connection.partition

/-- A shift that starts at a time with a partition without a subscription, and with the work
cancelled before or not. -/
def opened (p : Partition) (coming : List Occasion) (handler : η) (now : Nat) (cancelled : Bool) :
    Shift η where
  connection := { partition := { p with subscribed := false } }
  handler := handler
  coming := coming
  now := now
  cancelledAt := if cancelled then some now else none

/-- **An occasion comes**, with others behind it. Only the first cancellation counts. -/
def occur (w : Shift η) (o : Occasion) (coming : List Occasion) : Shift η :=
  { w with
    connection := { w.connection with partition := o.happenings.foldl Happening.on w.partition }
    coming := coming
    now := w.now + o.delayMs
    cancelledAt := w.cancelledAt.or
      (if .cancel ∈ o.happenings then some (w.now + o.delayMs) else none) }

/-- Some milliseconds pass, with the occasions that fall into them. -/
def passing (w : Shift η) : List Occasion → Nat → Shift η
  | [], duration => { w with coming := [], now := w.now + duration }
  | o :: coming, duration =>
    if o.delayMs < duration ∨ o.delayMs = duration ∧ o.first = true then
      (w.occur o coming).passing coming (duration - o.delayMs)
    else
      { w with
        coming := { o with delayMs := o.delayMs - duration } :: coming
        now := w.now + duration }

/-- **Some milliseconds pass.** -/
def pass (w : Shift η) (duration : Nat) : Shift η := w.passing w.coming duration

/-- The shift with another connection. -/
def reconnect (w : Shift η) (connection : Partition.Connection) : Shift η := { w with connection }

/-- Keeps in mind that a message has been delivered. -/
def deliver (w : Shift η) : Receipt → Shift η
  | .message message =>
    { w with
      served :=
        { message, takenAt := w.now, doneAt := w.now, cancelled := w.cancelledAt.isSome } ::
          w.served }
  | .pending | .ended | .failed _ => w

/-- Keeps in mind that the handling of the last message has ended, with a handler behind it. -/
def dismiss (w : Shift η) (handler : η) : Shift η :=
  match w.served with
  | [] => { w with handler }
  | s :: served => { w with handler, served := { s with doneAt := w.now } :: served }

/-- The partition as the consumer reads it. No time passes meanwhile. -/
def source : MessageSource (Shift η) where
  subscribe w :=
    let (outcome, connection, log) := w.connection.subscribe
    (outcome, w.reconnect connection, log)
  next w :=
    let (receipt, connection) := w.connection.next
    (receipt, (w.reconnect connection).deliver receipt)
  commit offset w :=
    let (outcome, connection) := w.connection.commit offset
    (outcome, w.reconnect connection)
  close w :=
    let (connection, log) := w.connection.close
    (w.reconnect connection, log)
  release w := w.reconnect w.connection.release

/-- **What the consumer works in.** The handling of an event takes its time, and the consumer waits
for the next occasion. -/
def surroundings (work : TimedHandler η) : Consumer.Surroundings (Shift η) where
  source := source
  cancelled w := w.cancelledAt.isSome
  settle event w :=
    let (duration, outcome, handler, log) := work event w.handler
    (.ok outcome, (w.pass duration).dismiss handler, log)
  await w :=
    match w.coming with
    | [] => none
    | o :: coming => some (w.occur o coming)

/-- The number of messages there will ever be. -/
def supply (w : Shift η) : Nat :=
  w.partition.size + Course.publications (w.coming.map Occasion.happenings)

/-- The position of the subscription, if there is one. -/
def position (w : Shift η) : Nat := (w.connection.subscription.map Subscription.position).getD 0

/-- Steps enough for one run. -/
def stepBound (w : Shift η) : Nat := 3 * w.supply + w.coming.length + 3

/-- **A run of the consumer.** -/
def attend (work : TimedHandler η) (w : Shift η) : RunEnd DeliveryError × Shift η × Log :=
  Consumer.run (surroundings work) w.stepBound .starting w

/-- The time of the first cancellation among occasions. -/
def cancelTime? (now : Nat) : List Occasion → Option Nat
  | [] => none
  | o :: coming =>
    (if .cancel ∈ o.happenings then some (now + o.delayMs) else none).or
      (cancelTime? (now + o.delayMs) coming)

/-- **The time of the cancellation**, if the work has been cancelled or is going to be. -/
def cancellation? (w : Shift η) : Option Nat := w.cancelledAt.or (cancelTime? w.now w.coming)

/-- The partition has been closed or is going to be. -/
def Closing (w : Shift η) : Prop :=
  w.partition.closed = true ∨ ∃ o ∈ w.coming, .close ∈ o.happenings

end Shift

/-! ## What others do -/

/-- A partition after others have done something. -/
structure Partition.Grown (p : Partition) (happenings : List Happening) (p' : Partition) :
    Prop where
  subscribed : p'.subscribed = p.subscribed
  committed : p'.committed = p.committed
  published : ∀ {offset : Nat} {payload : List UInt8},
    p.messages[offset]? = some payload → p'.messages[offset]? = some payload
  size : p'.size = p.size + Course.publications [happenings]
  closed_iff : p'.closed = true ↔ p.closed = true ∨ .close ∈ happenings

/-- Others may do several things in a row. -/
lemma Partition.grown_foldl (happenings : List Happening) (p : Partition) :
    p.Grown happenings (happenings.foldl Happening.on p) := by
  induction happenings generalizing p with
  | nil => exact ⟨rfl, rfl, id, by simp [Course.publications], by simp⟩
  | cons happening happenings ih =>
    have rest := ih (happening.on p)
    rw [List.foldl_cons]
    cases happening with
    | publish payload =>
      refine ⟨rest.subscribed, rest.committed, fun {offset old} h => rest.published ?_, ?_, ?_⟩
      · obtain ⟨hlt, -⟩ := Array.getElem?_eq_some_iff.1 h
        show (p.messages.push payload)[offset]? = some old
        rw [Array.getElem?_push, if_neg (by omega), h]
      · rw [rest.size]
        simp [Course.publications, Happening.on, Partition.size, Partition.publish]
        omega
      · rw [rest.closed_iff]
        simp [Happening.on, Partition.publish]
    | close =>
      refine ⟨rest.subscribed, rest.committed, rest.published, ?_, ?_⟩
      · rw [rest.size]
        simp [Course.publications, Happening.on, Partition.size, Partition.close]
      · rw [rest.closed_iff]
        simp [Happening.on, Partition.close]
    | cancel =>
      refine ⟨rest.subscribed, rest.committed, rest.published, ?_, ?_⟩
      · rw [rest.size]
        simp [Course.publications, Happening.on]
      · rw [rest.closed_iff]
        simp [Happening.on]

namespace Shift

variable {η : Type}

/-- **A shift later on**, when only time has passed. The work may have been cancelled meanwhile. -/
structure Later (w w' : Shift η) : Prop where
  subscription : w'.connection.subscription = w.connection.subscription
  subscribed : w'.partition.subscribed = w.partition.subscribed
  committed : w'.partition.committed = w.partition.committed
  handler : w'.handler = w.handler
  served : w'.served = w.served
  published : ∀ {offset : Nat} {payload : List UInt8},
    w.partition.messages[offset]? = some payload → w'.partition.messages[offset]? = some payload
  supply : w'.supply = w.supply
  coming : w'.coming.length ≤ w.coming.length
  now : w.now ≤ w'.now
  cancellation : w'.cancellation? = w.cancellation?
  closing : w'.Closing ↔ w.Closing
  cancelledAt : w'.cancelledAt = w.cancelledAt ∨ w.cancelledAt = none ∧
    ∃ time, w'.cancelledAt = some time ∧ w.now ≤ time ∧ time ≤ w'.now

/-- Time may pass in several parts. -/
lemma Later.trans {w w' w'' : Shift η} (h : w.Later w') (h' : w'.Later w'') : w.Later w'' where
  subscription := h'.subscription.trans h.subscription
  subscribed := h'.subscribed.trans h.subscribed
  committed := h'.committed.trans h.committed
  handler := h'.handler.trans h.handler
  served := h'.served.trans h.served
  published := fun hpayload => h'.published (h.published hpayload)
  supply := h'.supply.trans h.supply
  coming := h'.coming.trans h.coming
  now := h.now.trans h'.now
  cancellation := h'.cancellation.trans h.cancellation
  closing := h'.closing.trans h.closing
  cancelledAt := by
    rcases h.cancelledAt with hsame | ⟨hnone, time, htime, hle, hle'⟩
    · rw [← hsame]
      rcases h'.cancelledAt with hsame' | ⟨hnone, time, htime, hle, hle'⟩
      · exact .inl hsame'
      · exact .inr ⟨hnone, time, htime, h.now.trans hle, hle'⟩
    · rcases h'.cancelledAt with hsame' | ⟨hnone', -⟩
      · exact .inr ⟨hnone, time, hsame'.trans htime, hle, hle'.trans h'.now⟩
      · rw [htime] at hnone'
        cases hnone'

/-- An occasion is one of those that were to come. -/
lemma later_occur {w : Shift η} {o : Occasion} {coming : List Occasion}
    (h : w.coming = o :: coming) : w.Later (w.occur o coming) := by
  have grown := Partition.grown_foldl o.happenings w.partition
  refine ⟨rfl, grown.subscribed, grown.committed, rfl, rfl, grown.published, ?_, ?_,
    Nat.le_add_right .., ?_, ?_, ?_⟩
  · show (o.happenings.foldl Happening.on w.partition).size + _ = _
    rw [grown.size, supply, h]
    simp [Course.publications, occur]
    omega
  · rw [h]
    exact Nat.le_succ _
  · rw [cancellation?, cancellation?, h, cancelTime?, ← Option.or_assoc]
    rfl
  · rw [Closing, Closing, h]
    show (o.happenings.foldl Happening.on w.partition).closed = true ∨ _ ↔ _
    rw [grown.closed_iff, List.exists_mem_cons_iff, or_assoc]
    rfl
  · show w.cancelledAt.or _ = w.cancelledAt ∨ _
    cases hcancelled : w.cancelledAt with
    | some time => exact .inl rfl
    | none =>
      by_cases hcancel : .cancel ∈ o.happenings
      · refine .inr ⟨rfl, w.now + o.delayMs, ?_, Nat.le_add_right .., Nat.le_refl _⟩
        simp [occur, hcancelled, hcancel]
      · exact .inl (by simp [hcancel])

/-- Time that passes before the next occasion brings nothing. -/
lemma later_wait {w : Shift η} {o : Occasion} {coming : List Occasion} {duration : Nat}
    (h : w.coming = o :: coming) (hle : duration ≤ o.delayMs) :
    w.Later { w with
      coming := { o with delayMs := o.delayMs - duration } :: coming
      now := w.now + duration } := by
  have htime : w.now + duration + (o.delayMs - duration) = w.now + o.delayMs := by omega
  refine ⟨rfl, rfl, rfl, rfl, rfl, id, ?_, ?_, Nat.le_add_right .., ?_, ?_, .inl rfl⟩
  · rw [supply, supply, h]
    rfl
  · rw [h]
    rfl
  · rw [cancellation?, cancellation?, h]
    simp only [cancelTime?, htime]
  · rw [Closing, Closing, h]
    simp [partition]

/-- **What time brings**: occasions, and nothing that the consumer does. -/
lemma later_passing {w : Shift η} (coming : List Occasion) (duration : Nat)
    (h : w.coming = coming) :
    w.Later (w.passing coming duration) ∧ (w.passing coming duration).now = w.now + duration := by
  induction coming generalizing w duration with
  | nil =>
    refine ⟨⟨rfl, rfl, rfl, rfl, rfl, id, ?_, ?_, Nat.le_add_right .., ?_, ?_, .inl rfl⟩, rfl⟩
    · rw [supply, supply, h]
      rfl
    · rw [h]
      exact Nat.le_refl _
    · rw [cancellation?, cancellation?, h]
      rfl
    · rw [Closing, Closing, h]
      rfl
  | cons o coming ih =>
    rw [passing]
    split
    · rename_i hdue
      obtain ⟨hlater, hnow⟩ := ih (w := w.occur o coming) (duration - o.delayMs) rfl
      refine ⟨(later_occur h).trans hlater, ?_⟩
      rw [hnow]
      show w.now + o.delayMs + (duration - o.delayMs) = w.now + duration
      omega
    · rename_i hnot
      exact ⟨later_wait h (by omega), rfl⟩

/-- **What time brings**, at the time that it takes. -/
lemma later_pass (w : Shift η) (duration : Nat) :
    w.Later (w.pass duration) ∧ (w.pass duration).now = w.now + duration :=
  later_passing w.coming duration rfl

end Shift

/-! ## Deliveries in time -/

/-- The time from which on the consumer is free, when it has been so from a time on before it was
handed some messages, the last one first. -/
def freeFrom (origin : Nat) : List Service → Nat
  | [] => origin
  | s :: _ => s.doneAt

/-- The last offset that is committed behind some messages, the last one first. -/
def lastServed (committed : Option Nat) : List Service → Option Nat
  | [] => committed
  | s :: _ => some s.message.offset

/-- **Messages that are delivered and handled one after the other**, the last one first, with the
state of the handler behind them. The offsets follow one another. Each message is asked for when
the work is not cancelled and the one before is done, and is done after the time that its handling
takes. -/
inductive Services {η : Type} (work : TimedHandler η) (first origin : Nat) (start : η) :
    List Service → η → Prop
  | nil : Services work first origin start [] start
  | cons {ss : List Service} {handler : η} (payload : List UInt8) {takenAt : Nat} :
    Services work first origin start ss handler → freeFrom origin ss ≤ takenAt →
    Services work first origin start
      ({ message := ⟨first + ss.length, payload⟩
         takenAt
         doneAt := takenAt + (work.handle payload handler).1
         cancelled := false } :: ss)
      (work.handle payload handler).2

/-- What is committed is behind no offset that is to be delivered. -/
lemma Partition.committed_le_resumption (p : Partition) : p.committed.getD 0 ≤ p.resumption := by
  rw [resumption]
  cases p.committed with
  | none => exact Nat.zero_le _
  | some offset => exact Nat.le_succ offset

namespace Services

variable {η : Type} {work : TimedHandler η} {p : Partition} {origin : Nat} {start handler : η}
  {ss : List Service}

/-- The offset to be delivered next is the one behind what is committed. -/
lemma resumption_eq (h : Services work p.resumption origin start ss handler) {q : Partition}
    (hq : q.committed = lastServed p.committed ss) :
    q.resumption = p.resumption + ss.length := by
  cases h with
  | nil =>
    rw [Partition.resumption, hq]
    rfl
  | cons payload h hfree =>
    rw [Partition.resumption, hq]
    rfl

/-- The last of some messages is the one behind the others. -/
lemma offset_eq {s : Service} {first : Nat}
    (h : Services work first origin start (s :: ss) handler) :
    s.message.offset = first + ss.length ∧
      ∃ before, Services work first origin start ss before := by
  cases h with
  | cons payload h hfree => exact ⟨rfl, _, h⟩

/-- Each message has been asked for when the work was not cancelled, has an offset before the next
one, and is done by the time from which on the consumer is free. -/
lemma of_mem {first : Nat} (h : Services work first origin start ss handler) :
    ∀ s ∈ ss, s.cancelled = false ∧ s.message.offset < first + ss.length ∧
      s.doneAt ≤ freeFrom origin ss := by
  induction h with
  | nil => simp
  | @cons ss handler payload takenAt h hfree ih =>
    intro s hs
    rcases List.mem_cons.1 hs with rfl | hs
    · exact ⟨rfl, Nat.lt_succ_self _, Nat.le_refl _⟩
    · obtain ⟨huncancelled, hoffset, hdone⟩ := ih s hs
      exact ⟨huncancelled, Nat.lt_succ_of_lt hoffset,
        (hdone.trans hfree).trans (Nat.le_add_right ..)⟩

end Services

end PenaltySettlement
