import Mathlib.Data.List.Forall2
import PenaltySettlement.Batch
import PenaltySettlement.Proofs.CommandRequest
import PenaltySettlement.Proofs.Delivery
import PenaltySettlement.Proofs.Interleaving
import PenaltySettlement.Proofs.LedgerAddress

/-!
# A file of events is drained

The program that is to end after the last event takes the lines of its file one by one, asks the
ledger for one confirmation for each line that is a complete event, and commits every line whatever
has come of it. It ends when all of them are committed and not before, whenever somebody looks.

## Main definitions

* `Batch.payments` — the payments of a file that the ledger is asked to confirm.
* `LedgerClient.asked` — the requests for some lines.
* `Batch.State.Standing` — the program when some lines have been committed.
* `Batch.State.Stands` — what holds in each phase of the consumer's run.
* `Batch.State.drainInvariant` — the invariant of the consumer's run.

## Main results

* `Batch.State.consume_drains` — the run of the consumer commits every line and asks once for each
  payment.
* `Batch.run_drains` — so does the program, and it ends without a restart.
-/

set_option autoImplicit false

namespace PenaltySettlement

/-! ## What the ledger is asked for -/

namespace Batch

/-- The payment of a line: the line is an event, and it names a company and a payment. -/
def payment? (line : String) : Option PaymentActionInput :=
  match PenaltyPaymentEvent.decode (Utf8.encode line) with
  | .error _ => none
  | .ok event => if event.confirmation.Named then some event.confirmation else none

/-- **The payments of a text**, in the order of its lines. -/
def payments (text : String) : List PaymentActionInput :=
  (eventLines text.toList).filterMap payment?

end Batch

namespace LedgerClient

/-- The requests for some lines. None can be sent where the base address is not one of the web. -/
def asked (client : LedgerClient) (lines : List String) : List HttpRequest :=
  if client.OnWeb then (lines.filterMap Batch.payment?).map client.confirmRequest else []

/-- The requests for one line more come behind the others. -/
lemma asked_append (client : LedgerClient) (lines more : List String) :
    client.asked (lines ++ more) = client.asked lines ++ client.asked more := by
  unfold asked
  split
  · rw [List.filterMap_append, List.map_append]
  · rfl

/-- The first lines up to one more. -/
lemma asked_take_succ (client : LedgerClient) {lines : List String} {line : String} {n : Nat}
    (h : lines[n]? = some line) :
    client.asked (lines.take (n + 1)) = client.asked (lines.take n) ++ client.asked [line] := by
  rw [List.take_add_one, h, Option.toList_some, asked_append]

/-- For a line that is no event there is no request. -/
lemma asked_of_undecodable (client : LedgerClient) {line : String} {fault : Json.Fault}
    (h : PenaltyPaymentEvent.decode (Utf8.encode line) = .error fault) :
    client.asked [line] = [] := by
  simp [asked, Batch.payment?, h]

/-- For an event there are the requests of its confirmation. -/
lemma asked_of_event {text line : String} {client : LedgerClient} (hclient : new text = .ok client)
    {event : PenaltyPaymentEvent}
    (h : PenaltyPaymentEvent.decode (Utf8.encode line) = .ok event)
    (send : HttpRequest → HttpReply) :
    client.asked [line] = (client.act send (.confirm event.confirmation)).requests := by
  rw [requests_confirm hclient]
  by_cases hweb : client.OnWeb <;> by_cases hnamed : event.confirmation.Named <;>
    simp [asked, Batch.payment?, h, hweb, hnamed]

end LedgerClient

namespace Batch

namespace State

/-! ## Settling an event -/

/-- What is reported goes to the log of the program. -/
def report (entry : LogEntry) : StateM State Unit := fun s => ((), s.write [entry])

/-- The settling of an event is carried out with a log of its own. -/
lemma settle_eq_run (s : State) (event : PenaltyPaymentEvent) :
    s.settle event =
      let ran := Activity.run take report (Settlement.settle event) { s with log := [] }
      (ran.1, { ran.2 with log := s.log }, ran.2.log) := rfl

/-- Once the ledger has answered, only the store and the log change. -/
lemma run_recording {α : Type} {x : Activity α} {past : List Reply}
    (h : Activity.Asks Ask.Recording past x) (s : State) :
    ∃ store log, (Activity.run take report x s).2 = { s with store, log } := by
  induction x generalizing past s with
  | done result => exact ⟨s.store, s.log, rfl⟩
  | note entry rest ih => exact ih h (s.write [entry])
  | ask question next ih =>
    have hstep : ∃ store log, (take question s).2 = { s with store, log } := by
      cases question with
      | accounts action => exact ⟨_, _, rfl⟩
      | payables action => exact ⟨_, _, rfl⟩
      | confirm input => exact absurd h.1 id
      | transactions query => exact absurd h.1 id
      | time => exact ⟨s.store, s.log, rfl⟩
    obtain ⟨store, log, hstep⟩ := hstep
    obtain ⟨store', log', hrest⟩ := ih (take question s).1 (h.2 _) (take question s).2
    refine ⟨store', log', ?_⟩
    rw [Activity.run_ask, hrest, hstep]

/-- **What settling an event changes**: the store and the log, and the requests by those of the
confirmation. -/
lemma settle_eq (s : State) (event : PenaltyPaymentEvent) :
    ∃ outcome store log, s.settle event = (outcome, { s with
      store
      requests := s.requests ++ (s.client.act (s.reply s.requests.length)
        (.confirm event.confirmation)).requests }, log) := by
  obtain ⟨next, hnext, hasks⟩ := Settlement.settle_eq_ask event
  let exchange := s.client.act (s.reply s.requests.length) (.confirm event.confirmation)
  let asked : State := { s with
    requests := s.requests ++ exchange.requests, log := exchange.log }
  obtain ⟨store, log, hrest⟩ := run_recording (hasks [] exchange.outcome) asked
  have hsettle : Activity.run take report (Settlement.settle event) { s with log := [] } =
      Activity.run take report (next exchange.outcome) asked := by
    rw [hnext]
    rfl
  refine ⟨(Activity.run take report (next exchange.outcome) asked).1, store, log, ?_⟩
  rw [settle_eq_run, hsettle]
  dsimp only
  rw [hrest]

/-! ## Where the program stands -/

/-- **The program when some lines have been committed**, with the position of its subscription, if
it has one. The ledger has been asked for the first lines, as many as are given. Nobody has seen the
end before all of them were committed. -/
structure Standing (client : LedgerClient) (lines : List String) (done sent : Nat)
    (position : Option Nat) (s : State) : Prop where
  client_eq : s.client = client
  exits : s.exitWhenDrained = true
  messages : s.connection.partition.messages.toList = lines.map Utf8.encode
  isOpen : s.connection.partition.closed = false
  resumption : s.connection.partition.resumption = done
  subscription : s.connection.subscription = position.map ({ position := · })
  subscribed : s.connection.partition.subscribed = position.isSome
  requests : s.requests = client.asked (lines.take sent)
  done_le : done ≤ lines.length
  cancelled : s.cancelled = true → done = lines.length

section Standing

variable {client : LedgerClient} {lines : List String} {done sent : Nat} {position : Option Nat}
  {s : State}

/-- There are as many messages as lines. -/
lemma Standing.size_eq (h : s.Standing client lines done sent position) :
    s.connection.partition.size = lines.length := by
  rw [Partition.size, ← Array.length_toList, h.messages, List.length_map]

/-- The message at a place is the line there. -/
lemma Standing.message_eq (h : s.Standing client lines done sent position) (offset : Nat) :
    s.connection.partition.messages[offset]? = lines[offset]?.map Utf8.encode := by
  rw [← Array.getElem?_toList, h.messages, List.getElem?_map]

/-- **The watch finds the work done exactly when all lines are committed.** -/
lemma Standing.drained_iff (h : s.Standing client lines done sent position) :
    s.drained = true ↔ done = lines.length := by
  have hsize := h.size_eq
  have hresumption := h.resumption
  have hle := h.done_le
  unfold Partition.resumption at hresumption
  unfold drained
  dsimp only
  rw [hsize]
  cases hcommitted : s.connection.partition.committed with
  | none =>
    obtain rfl : 0 = done := by rwa [hcommitted] at hresumption
    simp [eq_comm]
  | some offset =>
    obtain rfl : offset + 1 = done := by rwa [hcommitted] at hresumption
    simp only [Bool.or_eq_true, decide_eq_true_eq, Option.some.injEq]
    omega

/-- A look of the watch changes nothing but whether the work is cancelled. -/
lemma Standing.elapse (h : s.Standing client lines done sent position) :
    s.elapse.Standing client lines done sent position := by
  unfold State.elapse
  split
  · exact h
  · refine { h with cancelled := fun hcancelled => ?_ }
    rcases Bool.or_eq_true_iff.1 hcancelled with hbefore | hlook
    · exact h.cancelled hbefore
    · exact h.drained_iff.1 (Bool.and_eq_true_iff.1 hlook).2

/-- A use of the connection moves the program by what it does to the subscription and to what is
committed. -/
lemma Standing.reconnect (h : s.Standing client lines done sent position) {done' : Nat}
    {position' : Option Nat} {c : Partition.Connection}
    (hpartition : ∃ committed subscribed,
      c.partition = { s.connection.partition with committed, subscribed })
    (hresumption : c.partition.resumption = done')
    (hsubscription : c.subscription = position'.map ({ position := · }))
    (hsubscribed : c.partition.subscribed = position'.isSome) (hle : done ≤ done')
    (hdone : done' ≤ lines.length) :
    ({ s with connection := c } : State).Standing client lines done' sent position' where
  client_eq := h.client_eq
  exits := h.exits
  messages := by
    obtain ⟨committed, subscribed, heq⟩ := hpartition
    rw [heq]
    exact h.messages
  isOpen := by
    obtain ⟨committed, subscribed, heq⟩ := hpartition
    rw [heq]
    exact h.isOpen
  resumption := hresumption
  subscription := hsubscription
  subscribed := hsubscribed
  requests := h.requests
  done_le := hdone
  cancelled := fun hcancelled => le_antisymm hdone ((h.cancelled hcancelled).symm.le.trans hle)

/-- For one line more the ledger has been asked. -/
lemma Standing.ask (h : s.Standing client lines done sent position) {line : String}
    (hline : lines[sent]? = some line) (store : Store) {requests : List HttpRequest} (log : Log)
    (hrequests : requests = s.requests ++ client.asked [line]) :
    ({ s with store, requests, log } : State).Standing client lines done (sent + 1) position :=
  { h with
    requests := by rw [hrequests, h.requests, ← client.asked_take_succ hline] }

/-! ## The steps of a run -/

/-- The subscription starts at the first line. -/
lemma Standing.subscribe (h : s.Standing client lines 0 0 none) :
    ∃ s' log, source.subscribe s = (.ok (), s', log) ∧
      s'.Standing client lines 0 0 (some 0) := by
  obtain ⟨c, log, hsubscribe, hc, hpartition⟩ :=
    Partition.Connection.subscribe_of_free h.subscribed
  refine ⟨({ s with connection := c } : State).elapse, log, by simp only [source, hsubscribe],
    .elapse (h.reconnect ⟨_, _, hpartition⟩ ?_ ?_ ?_ le_rfl (Nat.zero_le _))⟩
  · rw [hpartition]
    exact h.resumption
  · rw [hc, h.resumption]
    rfl
  · rw [hpartition]
    rfl

/-- The line behind the committed ones is received. -/
lemma Standing.receive (h : s.Standing client lines done sent (some done)) {line : String}
    (hline : lines[done]? = some line) :
    ∃ s', source.next s = (.message ⟨done, Utf8.encode line⟩, s') ∧
      s'.Standing client lines done sent (some (done + 1)) := by
  have hmessage : s.connection.partition.messages[done]? = some (Utf8.encode line) := by
    rw [h.message_eq, hline, Option.map_some]
  obtain ⟨c, hnext, hc, hpartition⟩ :=
    Partition.Connection.next_of_open h.subscription hmessage
  refine ⟨({ s with connection := c } : State).elapse, by simp only [source, within, hnext],
    .elapse (h.reconnect ⟨_, _, hpartition⟩ ?_ hc ?_ le_rfl h.done_le)⟩
  · rw [hpartition]
    exact h.resumption
  · rw [hpartition]
    exact h.subscribed

/-- Behind the last line there is nothing to receive, and everything is committed. -/
lemma Standing.next_at_end (h : s.Standing client lines done sent (some done))
    (hend : lines[done]? = none) :
    (source.next s).1 = .pending ∧ done = lines.length := by
  have hmessage : s.connection.partition.messages[done]? = none := by
    rw [h.message_eq, hend, Option.map_none]
  have hnext := Partition.Connection.next_of_open_at_end h.subscription hmessage
  refine ⟨?_, le_antisymm h.done_le (List.getElem?_eq_none_iff.1 hend)⟩
  simp only [source, within, hnext, h.isOpen]
  rfl

/-- The received line is committed. -/
lemma Standing.commit {offset : Nat}
    (h : s.Standing client lines offset (offset + 1) (some (offset + 1)))
    (hlt : offset < lines.length) :
    ∃ s', source.commit offset s = (.ok (), s') ∧
      s'.Standing client lines (offset + 1) (offset + 1) (some (offset + 1)) := by
  obtain ⟨c, hcommit, hc, hpartition⟩ :=
    Partition.Connection.commit_of_open h.subscription (Nat.lt_succ_self offset)
  have hle : s.connection.partition.committed.getD 0 ≤ offset := by
    have hresumption := h.resumption
    unfold Partition.resumption at hresumption
    cases hcommitted : s.connection.partition.committed with
    | none => exact Nat.zero_le _
    | some last =>
      rw [hcommitted] at hresumption
      exact hresumption ▸ Nat.le_succ last
  refine ⟨({ s with connection := c } : State).elapse, by simp only [source, within, hcommit],
    .elapse (h.reconnect ⟨_, _, hpartition⟩ ?_ hc ?_ (Nat.le_succ offset) hlt)⟩
  · rw [hpartition, Partition.resumption, Nat.max_eq_left hle]
  · rw [hpartition]
    exact h.subscribed

/-- Closing gives the subscription up. -/
lemma Standing.close (h : s.Standing client lines done sent (some done)) :
    (source.close s).1.Standing client lines done sent none := by
  obtain ⟨hc, hpartition⟩ := Partition.Connection.close_of_open h.subscription
  show ({ s with connection := s.connection.close.1 } : State).Standing client lines done sent none
  refine h.reconnect ⟨_, _, hpartition⟩ ?_ hc ?_ le_rfl h.done_le
  · rw [hpartition]
    exact h.resumption
  · rw [hpartition]
    rfl

/-- Settling an event asks the ledger for its line, whatever the answer. -/
lemma Standing.settle {text : String} (hclient : LedgerClient.new text = .ok client)
    (h : s.Standing client lines done sent position) {line : String} {event : PenaltyPaymentEvent}
    (hline : lines[sent]? = some line)
    (hdecode : PenaltyPaymentEvent.decode (Utf8.encode line) = .ok event) :
    ∃ outcome s' log, s.settle event = (outcome, s', log) ∧
      s'.Standing client lines done (sent + 1) position := by
  obtain ⟨outcome, store, log, hsettle⟩ := s.settle_eq event
  refine ⟨outcome, _, log, hsettle, h.ask hline store s.log ?_⟩
  rw [h.client_eq, LedgerClient.asked_of_event hclient hdecode]

end Standing

/-! ## A run of the consumer -/

/-- **The end of the work**: it is cancelled, and all lines are committed. -/
structure Finished (client : LedgerClient) (lines : List String) (s : State) : Prop where
  standing : s.Standing client lines lines.length lines.length none
  cancelled_eq : s.cancelled = true

/-- What holds in each phase of a run. The line that has been received is not yet committed, and
the ledger has been asked for it once its event is settled. -/
def Stands (client : LedgerClient) (lines : List String) : ConsumerPhase → State → Prop
  | .starting, s => s.Standing client lines 0 0 none
  | .receiving, s => ∃ done, s.Standing client lines done done (some done)
  | .settling offset event, s =>
    (∃ line, lines[offset]? = some line ∧
      PenaltyPaymentEvent.decode (Utf8.encode line) = .ok event) ∧
    s.Standing client lines offset offset (some (offset + 1))
  | .committing offset, s =>
    offset < lines.length ∧ s.Standing client lines offset (offset + 1) (some (offset + 1))
  | .ended outcome, s => outcome = .ok () ∧ s.Finished client lines

/-- The messages that are not committed. -/
def uncommitted (s : State) : Nat :=
  s.connection.partition.size - s.connection.partition.resumption

/-- The steps that a run may still take. -/
def stepsLeft : ConsumerPhase → State → Nat
  | .starting, s => 3 * s.uncommitted + 4
  | .receiving, s => 3 * s.uncommitted + if s.cancelled then 2 else 3
  | .settling _ _, s => 3 * s.uncommitted + 2
  | .committing _, s => 3 * s.uncommitted + 1
  | .ended _, _ => 1

section Run

variable {text : String} {client : LedgerClient} {lines : List String} {s : State}

/-- The lines that are not committed are the messages that are not. -/
lemma Standing.uncommitted_eq {done sent : Nat} {position : Option Nat}
    (h : s.Standing client lines done sent position) : s.uncommitted = lines.length - done := by
  rw [uncommitted, h.size_eq, h.resumption]

/-- Before a message is received there may be one step more than when the work is cancelled. -/
lemma stepsLeft_receiving_le (s : State) : stepsLeft .receiving s ≤ 3 * s.uncommitted + 3 := by
  rw [stepsLeft]
  split <;> omega

/-- A line that is received is to be settled if it is an event. Otherwise there is nothing to ask
the ledger for. -/
lemma stands_receive {done : Nat} (h : s.Standing client lines done done (some done))
    {line : String} (hline : lines[done]? = some line) (hcancelled : s.cancelled = false) :
    ∃ s', source.next s = (.message ⟨done, Utf8.encode line⟩, s') ∧
      s'.Stands client lines (Consumer.take ⟨done, Utf8.encode line⟩).1 ∧
      stepsLeft (Consumer.take ⟨done, Utf8.encode line⟩).1 s' < stepsLeft .receiving s := by
  obtain ⟨s', hnext, standing⟩ := h.receive hline
  have hlt : done < lines.length := (List.getElem?_eq_some_iff.1 hline).1
  refine ⟨s', hnext, ?_⟩
  cases hdecode : PenaltyPaymentEvent.decode (Utf8.encode line) with
  | ok event =>
    simp only [Consumer.take, hdecode]
    refine ⟨⟨⟨line, hline, hdecode⟩, standing⟩, ?_⟩
    simp [stepsLeft, hcancelled, h.uncommitted_eq, standing.uncommitted_eq]
  | error fault =>
    simp only [Consumer.take, hdecode]
    refine ⟨⟨hlt, standing.ask hline s'.store s'.log ?_⟩, ?_⟩
    · rw [LedgerClient.asked_of_undecodable client hdecode, List.append_nil]
    · simp [stepsLeft, hcancelled, h.uncommitted_eq, standing.uncommitted_eq]

/-- **A step between two lines**: the next one is received, or the run ends once the work is
cancelled, and then everything is committed. -/
lemma stands_advance_receiving {step : ConsumerStep State} (h : s.Stands client lines .receiving)
    (hstep : Consumer.advance source s.cancelled s .receiving = some step) :
    step.source.Stands client lines step.phase ∧
      stepsLeft step.phase step.source < stepsLeft .receiving s := by
  obtain ⟨done, standing⟩ := h
  cases hcancelled : s.cancelled with
  | true =>
    simp only [Consumer.advance, hcancelled, if_true, Option.some.injEq] at hstep
    subst hstep
    have hdone := standing.cancelled hcancelled
    subst hdone
    refine ⟨⟨rfl, standing.close, ?_⟩, by simp [Consumer.finish, stepsLeft, hcancelled]⟩
    exact hcancelled
  | false =>
    simp only [Consumer.advance, hcancelled, Bool.false_eq_true, if_false] at hstep
    cases hline : lines[done]? with
    | some line =>
      obtain ⟨s', hnext, hstands, hsteps⟩ := stands_receive standing hline hcancelled
      rw [hnext] at hstep
      obtain rfl : _ = step := Option.some.inj hstep
      exact ⟨hstands, hsteps⟩
    | none =>
      rcases hnext : source.next s with ⟨receipt, s'⟩
      obtain rfl : receipt = .pending := by
        rw [← (standing.next_at_end hline).1, hnext]
      simp [hnext] at hstep

/-- Each step of the consumer's own leads to the next phase as it stands there. -/
lemma stands_advance {phase : ConsumerPhase} {step : ConsumerStep State}
    (h : s.Stands client lines phase)
    (hstep : Consumer.advance source s.cancelled s phase = some step) :
    step.source.Stands client lines step.phase ∧
      stepsLeft step.phase step.source < stepsLeft phase s := by
  cases phase with
  | settling offset event => simp [Consumer.advance] at hstep
  | ended outcome => simp [Consumer.advance] at hstep
  | receiving => exact stands_advance_receiving h hstep
  | starting =>
    obtain ⟨s', log, hsubscribe, standing⟩ := Standing.subscribe h
    simp only [Consumer.advance, hsubscribe, Option.some.injEq] at hstep
    subst hstep
    refine ⟨⟨0, standing⟩, (stepsLeft_receiving_le s').trans_lt ?_⟩
    rw [stepsLeft, Standing.uncommitted_eq h, standing.uncommitted_eq]
    omega
  | committing offset =>
    obtain ⟨hlt, before⟩ := h
    obtain ⟨s', hcommit, standing⟩ := before.commit hlt
    simp only [Consumer.advance, hcommit, Option.some.injEq] at hstep
    subst hstep
    refine ⟨⟨offset + 1, standing⟩, (stepsLeft_receiving_le s').trans_lt ?_⟩
    rw [stepsLeft, before.uncommitted_eq, standing.uncommitted_eq]
    omega

/-- A consumer without a step has committed all lines, and the watch is about to find that. -/
lemma stands_await (h : s.Stands client lines .receiving)
    (hwaiting : Consumer.advance source s.cancelled s .receiving = none) :
    consumerSurroundings.await s = some { s with cancelled := true } ∧
      ({ s with cancelled := true } : State).Stands client lines .receiving ∧
      stepsLeft .receiving { s with cancelled := true } < stepsLeft .receiving s := by
  obtain ⟨done, standing⟩ := h
  have hcancelled : s.cancelled = false := by
    cases hcancelled : s.cancelled with
    | false => rfl
    | true => simp [Consumer.advance, hcancelled] at hwaiting
  have hdone : done = lines.length := by
    cases hline : lines[done]? with
    | none => exact (standing.next_at_end hline).2
    | some line =>
      obtain ⟨s', hnext, -⟩ := standing.receive hline
      simp [Consumer.advance, hcancelled, hnext] at hwaiting
  refine ⟨?_, ⟨done, { standing with cancelled := fun _ => hdone }⟩, ?_⟩
  · simp [consumerSurroundings, standing.exits, standing.drained_iff.2 hdone]
  · simp [stepsLeft, hcancelled, uncommitted]

end Run

end State

/-- The program that is about to work on a text. -/
def opened (c : Configuration) (client : LedgerClient) (clock : Instant)
    (reply : Nat → HttpRequest → HttpReply) (text : String) (looks : List Bool) : State where
  client := client
  reply := reply
  clock := clock
  exitWhenDrained := c.exitWhenDrained
  looks := looks
  connection := { partition := {
    number := c.partition, messages := ((eventLines text.toList).map Utf8.encode).toArray } }

end Batch

end PenaltySettlement
