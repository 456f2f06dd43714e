import Mathlib.Data.List.Nodup
import PenaltySettlement.Proofs.Rerun

/-!
# Records of outcomes

What has come of the handling of a message shows in the log only. Each handling that comes to its
end leaves one record there, of one of three kinds, with the offset of the message; one that breaks
down leaves none. So the offsets in the records are those that have been committed, one after the
other, whatever the handler does and however often the consumer is started again.

## Main definitions

* `outcomes` — the records of outcomes in a log.
* `Handler.Leaves` — the record that the handling of a message leaves.
* `Recorded` — handlings that follow one another, with their records.
* `Course.Runs` — runs of the consumer, one after the other, with their log.

## Main results

* `Course.recorded_consume` — the records of a run follow those that were there before.
* `Course.Runs.supervised` — the runs under a supervisor are runs one after the other.
* `Course.outcome_records` — the records of any runs.
-/

set_option autoImplicit false

namespace PenaltySettlement

/-! ## Records -/

/-- Different numbers are shown differently. -/
lemma LogValue.nat_injective : Function.Injective LogValue.nat := by
  have hchar : ∀ a b : Digit, a.char = b.char → a = b := by decide
  intro m n h
  have htext := String.ofList_injective (LogValue.plain.inj h)
  have hdigits := List.map_injective_iff.2 hchar htext
  rw [← Digits.toNat_ofNat m, hdigits, Digits.toNat_ofNat]

/-- The messages of the records that the consumer makes of handlings. -/
def outcomeMessages : List String :=
  ["dropping undecodable message", "payment event processed", "failed to process payment event"]

/-- Whether an entry of the log is the record of an outcome. -/
def LogEntry.isOutcome (e : LogEntry) : Bool :=
  e.source == .consumer && outcomeMessages.contains e.message

/-- **The records of outcomes** in a log, in their order. -/
def outcomes (log : Log) : Log := log.filter LogEntry.isOutcome

@[simp]
lemma outcomes_append (log more : Log) : outcomes (log ++ more) = outcomes log ++ outcomes more :=
  List.filter_append log more

/-- What others than the consumer log holds no record of an outcome. -/
lemma outcomes_eq_nil {log : Log} (h : ∀ e ∈ log, e.source ≠ .consumer) : outcomes log = [] := by
  refine List.filter_eq_nil_iff.2 fun e he => ?_
  rw [LogEntry.isOutcome, Bool.and_eq_true, beq_iff_eq]
  exact fun hboth => h e he hboth.1

/-- Other entries of the consumer are no such records. -/
lemma outcomes_entry {level : LogLevel} {message : String} {fields : List (String × LogValue)}
    (h : message ∉ outcomeMessages) : outcomes [Consumer.entry level message fields] = [] := by
  refine List.filter_eq_nil_iff.2 fun e he => ?_
  obtain rfl := List.mem_singleton.1 he
  rw [LogEntry.isOutcome, Bool.and_eq_true, List.contains_iff_mem]
  exact fun hboth => h hboth.2

namespace Handler

variable {η : Type}

/-- **A handler that does not log in the name of the consumer.** -/
def Discreet (work : Handler η) : Prop :=
  ∀ event handler, ∀ e ∈ (work event handler).2.2, e.source ≠ .consumer

/-- Such a handler makes no record of an outcome. -/
lemma Discreet.outcomes_eq {work : Handler η} (discreet : work.Discreet)
    (event : PenaltyPaymentEvent) (handler : η) : outcomes (work event handler).2.2 = [] :=
  outcomes_eq_nil (discreet event handler)

/-- **The outcomes that a handler is told to have**, one for each event, and success when there are
no more of them. -/
def scripted : Handler (List (Except Breakdown (Except SettlementError Unit)))
  | _, [] => (.ok (.ok ()), [], [])
  | _, outcome :: rest => (outcome, rest, [])

/-- Such a handler logs nothing. -/
lemma discreet_scripted : scripted.Discreet := by
  intro event handler
  cases handler <;> exact fun _ he => absurd he List.not_mem_nil

/-- **The record that the handling of a message leaves**: of a message that is no event, of an event
that has been settled, of one that could not be settled, or none if the handling broke down. -/
inductive Leaves (work : Handler η) (m : Message) (handler : η) : Option LogEntry → Prop
  | dropped {fault : Json.Fault} : PenaltyPaymentEvent.decode m.payload = .error fault →
    Leaves work m handler (some (Consumer.entry .warn "dropping undecodable message"
      [("offset", .nat m.offset), ("error", .plain (Consumer.undecodable fault))]))
  | processed {event : PenaltyPaymentEvent} :
    PenaltyPaymentEvent.decode m.payload = .ok event → (work event handler).1 = .ok (.ok ()) →
    Leaves work m handler (some (Consumer.entry .info "payment event processed"
      [("offset", .nat m.offset), ("payment_id", .plain event.paymentId)]))
  | failed {event : PenaltyPaymentEvent} {e : SettlementError} :
    PenaltyPaymentEvent.decode m.payload = .ok event → (work event handler).1 = .ok (.error e) →
    Leaves work m handler (some (Consumer.entry .error "failed to process payment event"
      [("offset", .nat m.offset), ("customer_code", .plain event.customerCode),
        ("company_code", .plain event.companyCode), ("payment_id", .plain event.paymentId),
        ("error", .plain e.message)]))
  | brokeDown {event : PenaltyPaymentEvent} {breakdown : Breakdown} :
    PenaltyPaymentEvent.decode m.payload = .ok event → (work event handler).1 = .error breakdown →
    Leaves work m handler none

/-- What the consumer logs when an event has been settled is the record of its outcome. -/
lemma exists_leaves_settled {work : Handler η} {m : Message} {event : PenaltyPaymentEvent}
    {handler : η} {outcome : Except SettlementError Unit}
    (hdecode : PenaltyPaymentEvent.decode m.payload = .ok event)
    (hwork : (work event handler).1 = .ok outcome) :
    ∃ record, work.Leaves m handler record ∧
      record.toList = (Consumer.settled m.offset event outcome).2 := by
  cases outcome with
  | ok done => exact ⟨_, .processed hdecode hwork, rfl⟩
  | error e => exact ⟨_, .failed hdecode hwork, rfl⟩

/-- What is left is the record of an outcome. -/
lemma Leaves.outcomes_eq {work : Handler η} {m : Message} {handler : η} {record : Option LogEntry}
    (h : work.Leaves m handler record) : outcomes record.toList = record.toList := by
  cases h <;> rfl

/-- The offset of the message is in its record, and there is a record unless the handling broke
down. -/
lemma Leaves.offsets {work : Handler η} {m : Message} {handler : η} {record : Option LogEntry}
    (h : work.Leaves m handler record) :
    record.toList.map (·.fields.lookup "offset") =
      if (work.handle m.payload handler).1 then [] else [some (.nat m.offset)] := by
  cases h with
  | dropped hdecode =>
    rw [work.handle_of_undecodable hdecode]
    rfl
  | processed hdecode hwork =>
    rw [work.handle_of_event hdecode, hwork]
    rfl
  | failed hdecode hwork =>
    rw [work.handle_of_event hdecode, hwork]
    rfl
  | brokeDown hdecode hwork =>
    rw [work.handle_of_event hdecode, hwork]
    rfl

end Handler

/-! ## Activities and their reports -/

/-- All that an activity reports is of a kind, whatever its steps give. -/
def Activity.Reports (kind : LogEntry → Prop) {α : Type} : Activity α → Prop
  | .done _ => True
  | .note entry rest => kind entry ∧ rest.Reports kind
  | .ask _ next => ∀ answer, (next answer).Reports kind

/-- Two activities in a row report what each of them does. -/
lemma Activity.Reports.bind {kind : LogEntry → Prop} {α β : Type} {x : Activity α}
    {next : α → Activity β} (hx : x.Reports kind) (hnext : ∀ a, (next a).Reports kind) :
    (x >>= next).Reports kind := by
  induction x with
  | done result => exact hnext result
  | note entry rest ih => exact ⟨hx.1, ih hx.2⟩
  | ask question rest ih => exact fun answer => ih answer (hx answer)

/-- What a step of a store logs, it logs only while the store is connected. -/
lemma Store.mem_log_whenConnected {α : Type} {s : Store} {step : StoreStep α} {e : LogEntry}
    (h : e ∈ (s.whenConnected step).log) : e ∈ step.log := by
  unfold whenConnected at h
  split at h
  · exact h
  · cases h

/-- A store logs in its own name. -/
lemma Store.source_perform (action : StoreAction) (s : Store) :
    ∀ e ∈ (perform action s).log, e.source = .store := by
  intro e he
  cases action with
  | createAccount document =>
    have hlog := mem_log_whenConnected he
    split at hlog <;>
    · obtain rfl := List.mem_singleton.1 hlog
      rfl
  | markPaid key reference time =>
    have hlog := mem_log_whenConnected he
    split at hlog
    · cases hlog
    · obtain rfl := List.mem_singleton.1 hlog
      rfl
  | shutDown =>
    simp only [perform, shutDown] at he
    split at he
    · obtain rfl := List.mem_singleton.1 he
      rfl
    · cases he
  | noteFailure id action => cases he
  | _ => cases mem_log_whenConnected he

namespace Desk

/-- Nothing is logged at a desk in the name of the consumer but what an activity reports so. -/
lemma source_run {α : Type} {x : Activity α} (hx : x.Reports (·.source ≠ .consumer)) (d : Desk)
    {log : Log} (hlog : ∀ e ∈ log, e.source ≠ .consumer) :
    ∀ e ∈ (Activity.run take write x (d, log)).2.2, e.source ≠ .consumer := by
  induction x generalizing d log with
  | done result => exact hlog
  | note entry rest ih =>
    rw [Activity.run_note]
    exact ih hx.2 d (List.forall_mem_append.2 ⟨hlog, List.forall_mem_singleton.2 hx.1⟩)
  | ask question next ih =>
    rw [Activity.run_ask]
    refine ih _ (hx _) _ (List.forall_mem_append.2 ⟨hlog, fun e he => ?_⟩)
    have hstore : ∀ action s, e ∈ (Store.perform action s).log → e.source ≠ .consumer := by
      intro action s hmem
      rw [Store.source_perform action s e hmem]
      decide
    cases question with
    | accounts action => exact hstore _ _ he
    | payables action => exact hstore _ _ he
    | confirm input => cases he
    | transactions query => cases he
    | time => cases he

/-- The note of a failure reports nothing in the name of the consumer. -/
lemma reports_recordLedgerFailure (e : PenaltyPaymentEvent) (action : LedgerAction) :
    (Settlement.recordLedgerFailure e action).Reports (·.source ≠ .consumer) := by
  have hnote : (Settlement.noteFailure e.payable action).Reports (·.source ≠ .consumer) := by
    intro found
    rcases found with error | _ | resource
    · trivial
    · exact ⟨nofun, trivial⟩
    · exact fun _ => trivial
  refine hnote.bind fun noted => ?_
  cases noted with
  | ok done => trivial
  | error source => exact ⟨nofun, trivial⟩

/-- Marking penalties paid reports nothing at all. -/
lemma reports_markPaid {kind : LogEntry → Prop} (key : AccountKey) (references : List String) :
    (Settlement.markPaid key references).Reports kind := by
  induction references with
  | nil => trivial
  | cons reference references ih =>
    intro time marked
    cases marked with
    | error source => trivial
    | ok done => exact ih

/-- The work on an event reports nothing in the name of the consumer. -/
lemma reports_settle (e : PenaltyPaymentEvent) :
    (Settlement.settle e).Reports (·.source ≠ .consumer) := by
  intro confirmed
  cases confirmed with
  | error source =>
    exact ⟨nofun, (reports_recordLedgerFailure e .confirm).bind fun _ => trivial⟩
  | ok done =>
    refine (reports_markPaid e.account e.references).bind fun marked => ?_
    cases marked with
    | error source => trivial
    | ok done => exact ⟨nofun, trivial⟩

/-- **A desk is discreet**, whatever is in its stores and whatever its ledger answers. -/
theorem discreet_work : Handler.Discreet Desk.work := by
  intro event d
  exact source_run (reports_settle event) d fun _ he => absurd he List.not_mem_nil

end Desk

/-! ## The supervisor -/

/-- A supervisor that begins logs in its own name. -/
lemma Supervisor.source_begin (s : Supervisor) (cancelled : Bool) :
    ∀ e ∈ (s.begin cancelled).2, e.source ≠ .consumer := by
  cases cancelled <;> simp [begin, entry]

/-- So does one whose run has ended. -/
lemma Supervisor.source_runEnded (s : Supervisor) (cancelled : Bool)
    (outcome : Except Fault Unit) :
    ∀ e ∈ (s.runEnded cancelled outcome).2, e.source ≠ .consumer := by
  cases outcome <;> cases cancelled <;> simp [runEnded, entry]

/-! ## Handlings with their records -/

/-- **Handlings that follow one another, with their records**: the handlings last one first, the
state of the handler behind them, and the records in the order in which they were made. -/
inductive Recorded {η : Type} (work : Handler η) (first : Nat) (start : η) :
    List Handling → η → Log → Prop
  | nil : Recorded work first start [] start []
  | cons {hs : List Handling} {handler : η} {log : Log} {record : Option LogEntry}
    (payload : List UInt8) : Recorded work first start hs handler log →
    work.Leaves ⟨successor first hs, payload⟩ handler record →
    Recorded work first start
      ({ message := ⟨successor first hs, payload⟩
         brokeDown := (work.handle payload handler).1 } :: hs)
      (work.handle payload handler).2 (log ++ record.toList)

/-- The offsets of handlings that came to their end follow one another. -/
lemma Deliveries.finished_eq {η : Type} {work : Handler η} {first : Nat} {start handler : η}
    {hs : List Handling} (h : Deliveries work first start hs handler) :
    (hs.filter (!·.brokeDown)).reverse.map (·.message.offset) =
      List.range' first (successor first hs - first) := by
  induction h with
  | nil => simp [successor]
  | @cons hs handler payload h ih =>
    have hfirst := h.first_le_successor
    cases hbroke : (work.handle payload handler).1 with
    | true => simpa [successor] using ih
    | false =>
      have hnext : successor first ({ message := ⟨successor first hs, payload⟩ } :: hs) - first =
          successor first hs - first + 1 := by
        show successor first hs + 1 - first = _
        omega
      rw [hnext, List.range'_1_concat, ← ih, List.filter_cons_of_pos (by simp), List.reverse_cons,
        List.map_append, List.map_singleton, Nat.add_sub_cancel' hfirst]

namespace Recorded

variable {η : Type} {work : Handler η} {first : Nat} {start handler : η} {hs : List Handling}
  {log : Log}

/-- One more handling adds its record. -/
lemma handled (h : Recorded work first start hs handler log) {payload : List UInt8}
    {brokeDown : Bool} {after : η} (hafter : work.handle payload handler = (brokeDown, after))
    {record : Option LogEntry} (leaves : work.Leaves ⟨successor first hs, payload⟩ handler record) :
    Recorded work first start ({ message := ⟨successor first hs, payload⟩, brokeDown } :: hs) after
      (log ++ record.toList) := by
  have hrecorded := h.cons payload leaves
  rwa [hafter] at hrecorded

/-- The records have the offsets of the handlings that came to their end. -/
lemma offsets_eq (h : Recorded work first start hs handler log) :
    log.map (·.fields.lookup "offset") =
      ((hs.filter (!·.brokeDown)).reverse.map (·.message.offset)).map fun o => some (.nat o) := by
  induction h with
  | nil => rfl
  | @cons hs handler log record payload _ leaves ih =>
    rw [List.map_append, ih, leaves.offsets]
    cases hbroke : (work.handle payload handler).1 <;> simp

end Recorded

namespace Course

variable {η : Type}

/-! ## The records of a run -/

/-- Courses with the same handlings and the handler in the same state. -/
structure SameWork (w w' : Course η) : Prop where
  handled : w'.handled = w.handled
  handler : w'.handler = w.handler

/-- What others do leaves the work as it is. -/
lemma sameWork_elapse (w : Course η) : w.SameWork w.elapse :=
  ⟨w.grows_elapse.handled, w.grows_elapse.handler⟩

/-- So does what the consumer does with its connection. -/
lemma sameWork_reconnect (w : Course η) (c : Partition.Connection) :
    w.SameWork (w.elapse.reconnect c) := ⟨w.sameWork_elapse.handled, w.sameWork_elapse.handler⟩

/-- **The records so far** are those of the handlings; an event that is being settled has none. -/
def Noted (work : Handler η) (first : Nat) (start : η) (log : Log) :
    ConsumerPhase → Course η → Prop
  | .settling _ _, w => Recorded work first start w.handled.tail w.handler (outcomes log)
  | _, w => Recorded work first start w.handled w.handler (outcomes log)

section

variable {work : Handler η} {p : Partition} {start : η} {quiet : Prop} {log : Log}

/-- The same handlings have the same records. -/
lemma SameWork.recorded {w w' : Course η} (same : w.SameWork w')
    (h : Recorded work p.resumption start w.handled w.handler (outcomes log)) :
    Recorded work p.resumption start w'.handled w'.handler (outcomes log) := by
  rwa [same.handled, same.handler]

/-- So they do when something has been logged that is no record of an outcome. -/
lemma SameWork.recorded_append {w w' : Course η} (same : w.SameWork w')
    (h : Recorded work p.resumption start w.handled w.handler (outcomes log)) {more : Log}
    (hmore : outcomes more = []) :
    Recorded work p.resumption start w'.handled w'.handler (outcomes (log ++ more)) := by
  rw [outcomes_append, hmore, List.append_nil]
  exact same.recorded h

/-- While an event is being settled, the records are those of the handlings before it. -/
lemma Noted.before {w : Course η} {offset : Nat} {event : PenaltyPaymentEvent} {last : Handling}
    {done : List Handling} (h : w.Noted work p.resumption start log (.settling offset event))
    (hhandled : w.handled = last :: done) :
    Recorded work p.resumption start done w.elapse.handler (outcomes log) := by
  rw [Noted, hhandled, ← w.grows_elapse.handler] at h
  exact h

/-- The partition makes no record of an outcome when it is subscribed to. -/
lemma outcomes_subscribe (w : Course η) : outcomes (source.subscribe w).2.2 = [] := by
  refine outcomes_eq_nil ?_
  show ∀ e ∈ w.elapse.connection.subscribe.2.2, e.source ≠ .consumer
  cases h : w.elapse.connection.partition.subscribed <;>
    simp [Partition.Connection.subscribe, Partition.subscribe, h]

/-- It makes none when a subscription is closed. -/
lemma outcomes_close (w : Course η) : outcomes (source.close w).2 = [] := by
  refine outcomes_eq_nil ?_
  show ∀ e ∈ w.elapse.connection.close.2, e.source ≠ .consumer
  cases h : w.elapse.connection.subscription <;>
    simp [Partition.Connection.close, Partition.closeSubscription, h]

/-- The consumer makes no record of an outcome when it ends. -/
lemma recorded_finish {w : Course η}
    (h : Recorded work p.resumption start w.handled w.handler (outcomes log))
    (outcome : Except DeliveryError Unit) {more : Log} (hmore : outcomes more = []) :
    (Consumer.finish source w outcome more).source.Noted work p.resumption start
      (log ++ (Consumer.finish source w outcome more).log) (.ended outcome) := by
  have hclose : outcomes ((source.close w).2 ++ more) = [] := by
    rw [outcomes_append, outcomes_close, hmore, List.append_nil]
  exact (w.sameWork_reconnect _).recorded_append h hclose

/-- A step between two messages keeps the records: one is made of a message that is no event, and
none of an event that is going to be settled. -/
lemma noted_advance_receiving {w : Course η} {step : ConsumerStep (Course η)}
    (h : w.Stands work p start quiet .receiving)
    (hlog : w.Noted work p.resumption start log .receiving)
    (hstep : Consumer.advance source w.cancelled w .receiving = some step) :
    step.source.Noted work p.resumption start (log ++ step.log) step.phase := by
  cases hcancelled : w.cancelled with
  | true =>
    simp only [Consumer.advance, hcancelled, if_true, Option.some.injEq] at hstep
    subst hstep
    exact recorded_finish hlog _ (outcomes_entry (by decide))
  | false =>
    simp only [Consumer.advance, hcancelled, Bool.false_eq_true, if_false] at hstep
    cases hmessage : w.elapse.partition.messages[successor p.resumption w.handled]? with
    | some payload =>
      obtain ⟨w', hnext, hhandled, hhandler, -⟩ := receive_message h.1 hmessage
      rw [hnext] at hstep
      obtain rfl : _ = step := Option.some.inj hstep
      cases hdecode : PenaltyPaymentEvent.decode payload with
      | ok event =>
        -- the event that is in hand now is the last one handed over, and has no record yet
        simp only [Consumer.take, hdecode]
        show Recorded work p.resumption start w'.handled.tail w'.handler (outcomes (log ++ []))
        rw [hhandled, hhandler, List.append_nil]
        exact hlog
      | error fault =>
        simp only [Consumer.take, hdecode]
        have hrecorded := Recorded.handled hlog (work.handle_of_undecodable hdecode w.handler)
          (.dropped hdecode)
        show Recorded work p.resumption start w'.handled w'.handler (outcomes (log ++ _))
        rw [hhandled, hhandler, outcomes_append]
        exact hrecorded
    | none =>
      obtain ⟨hnext, -⟩ := stands_at_end h hmessage
      rw [hnext] at hstep
      cases hclosed : w.elapse.partition.closed with
      | false => simp [hclosed] at hstep
      | true =>
        simp only [hclosed, if_true, Option.some.injEq] at hstep
        subst hstep
        exact recorded_finish (w.sameWork_elapse.recorded hlog) _ rfl

/-- **Each step of the consumer's own keeps the records.** -/
lemma noted_advance {phase : ConsumerPhase} {w : Course η} {step : ConsumerStep (Course η)}
    (h : w.Stands work p start quiet phase) (hlog : w.Noted work p.resumption start log phase)
    (hstep : Consumer.advance source w.cancelled w phase = some step) :
    step.source.Noted work p.resumption start (log ++ step.log) step.phase := by
  cases phase with
  | settling offset event => simp [Consumer.advance] at hstep
  | ended outcome => simp [Consumer.advance] at hstep
  | receiving => exact noted_advance_receiving h hlog hstep
  | starting =>
    have hsubscribe := w.outcomes_subscribe
    have hsame : w.SameWork (source.subscribe w).2.1 := w.sameWork_reconnect _
    rcases hs : source.subscribe w with ⟨outcome | outcome, after, more⟩ <;>
    · rw [hs] at hsubscribe hsame
      simp only [Consumer.advance, hs, Option.some.injEq] at hstep
      subst hstep
      refine hsame.recorded_append hlog ?_
      simp [hsubscribe, outcomes_entry, outcomeMessages]
  | committing offset =>
    have hsame : w.SameWork (source.commit offset w).2 := w.sameWork_reconnect _
    rcases hc : source.commit offset w with ⟨outcome | outcome, after⟩
    · rw [hc] at hsame
      simp only [Consumer.advance, hc, Option.some.injEq] at hstep
      subst hstep
      have hrelease := after.sameWork_reconnect after.elapse.connection.release
      exact hrelease.recorded_append (hsame.recorded hlog) rfl
    · rw [hc] at hsame
      simp only [Consumer.advance, hc, Option.some.injEq] at hstep
      subst hstep
      exact hsame.recorded_append hlog rfl

/-- **An event that has been settled leaves the record of its outcome.** -/
lemma noted_settle_ok (discreet : work.Discreet) {w w' : Course η} {offset : Nat}
    {event : PenaltyPaymentEvent} {outcome : Except SettlementError Unit} {more : Log}
    (h : w.Stands work p start quiet (.settling offset event))
    (hlog : w.Noted work p.resumption start log (.settling offset event))
    (hsettle : settle work event w = (.ok outcome, w', more)) :
    w'.Noted work p.resumption start (log ++ more ++ (Consumer.settled offset event outcome).2)
      (.committing offset) := by
  obtain ⟨payload, done, hhandled, hdecode, hoffset, -⟩ := h
  rcases hwork : work event w.elapse.handler with ⟨result | result, after, made⟩
  · simp [settle, hwork] at hsettle
  obtain ⟨rfl, rfl, rfl⟩ : result = outcome ∧ { w.elapse with handler := after } = w' ∧
      made = more := by simpa [settle, hwork] using hsettle
  have hmade := discreet.outcomes_eq event w.elapse.handler
  rw [hwork] at hmade
  have hafter : work.handle payload w.elapse.handler = (false, after) := by
    rw [work.handle_of_event hdecode, hwork]
    rfl
  subst hoffset
  obtain ⟨record, leaves, hrecord⟩ := Handler.exists_leaves_settled
    (m := ⟨successor p.resumption done, payload⟩) hdecode (congrArg Prod.fst hwork)
  show Recorded work p.resumption start w.elapse.handled after _
  rw [w.grows_elapse.handled, hhandled, outcomes_append, outcomes_append, hmade, List.append_nil,
    ← hrecord, leaves.outcomes_eq]
  exact (hlog.before hhandled).handled hafter leaves

/-- **A handling that breaks down leaves no record.** -/
lemma recorded_settle_brokeDown (discreet : work.Discreet) {w w' : Course η} {offset : Nat}
    {event : PenaltyPaymentEvent} {breakdown : Breakdown} {more : Log}
    (h : w.Stands work p start quiet (.settling offset event))
    (hlog : w.Noted work p.resumption start log (.settling offset event))
    (hsettle : settle work event w = (.error breakdown, w', more)) :
    Recorded work p.resumption start (source.release w').handled (source.release w').handler
      (outcomes (log ++ more)) := by
  obtain ⟨payload, done, hhandled, hdecode, hoffset, -⟩ := h
  rcases hwork : work event w.elapse.handler with ⟨result | result, after, made⟩
  swap
  · simp [settle, hwork] at hsettle
  have hlast : w.elapse.handled = { message := ⟨offset, payload⟩ } :: done :=
    w.grows_elapse.handled.trans hhandled
  obtain ⟨hbroke, hhandler, rfl⟩ :
      w'.handled = { message := ⟨offset, payload⟩, brokeDown := true } :: done ∧
        w'.handler = after ∧ made = more := by
    simp only [settle, hwork, Prod.mk.injEq] at hsettle
    rw [← hsettle.2.1]
    simp [breakDown, hlast, hsettle.2.2]
  have hmade := discreet.outcomes_eq event w.elapse.handler
  rw [hwork] at hmade
  have hafter : work.handle payload w.elapse.handler = (true, after) := by
    rw [work.handle_of_event hdecode, hwork]
    rfl
  have hrecorded := (hlog.before hhandled).handled hafter
    (.brokeDown hdecode (congrArg Prod.fst hwork))
  rw [← hoffset, Option.toList_none, List.append_nil, ← hbroke, ← hhandler] at hrecorded
  exact (w'.sameWork_reconnect _).recorded_append hrecorded hmade

/-- **The invariant of a run for its records**: each phase stands as it should, and the records so
far are those of the handlings. -/
def recordInvariant (discreet : work.Discreet) (p : Partition) (start : η) :
    Consumer.RunInvariant (surroundings work) fun _ w log =>
      w.AtRest work p start ∧
        Recorded work p.resumption start w.handled w.handler (outcomes log) where
  Holds phase w log := w.Stands work p start False phase ∧
    w.Noted work p.resumption start log phase
  steps := stepsLeft
  steps_pos := by
    intro phase w _ _
    cases phase <;> simp [stepsLeft, stepBound]
  ended := fun ⟨⟨hrest, _⟩, hlog⟩ => ⟨hrest, hlog⟩
  settle_brokeDown := fun ⟨h, hlog⟩ hsettle =>
    ⟨(atRest_settle_brokeDown h hsettle).1, recorded_settle_brokeDown discreet h hlog hsettle⟩
  settle_ok := fun ⟨h, hlog⟩ hsettle =>
    let ⟨hstands, hsteps⟩ := stands_settle_ok h hsettle
    ⟨⟨hstands, noted_settle_ok discreet h hlog hsettle⟩, hsteps⟩
  advance := fun ⟨h, hlog⟩ hstep =>
    let ⟨hstands, hsteps⟩ := stands_advance h False.elim hstep
    ⟨⟨hstands, noted_advance h hlog hstep⟩, hsteps⟩
  await_some := by
    intro w w' log ⟨h, hlog⟩ _ hawait
    obtain ⟨hcoming, rfl⟩ : w.coming ≠ [] ∧ w.elapse = w' := by
      simpa [surroundings] using hawait
    obtain ⟨hstands, hsteps⟩ := stands_await h hcoming
    exact ⟨⟨hstands, w.sameWork_elapse.recorded hlog⟩, hsteps⟩
  await_none := by
    intro w log ⟨h, hlog⟩ _ _
    exact ⟨(atRest_release h.1 h.2).1, (w.sameWork_reconnect _).recorded hlog⟩

/-- **The records of a run** follow those that were there before. -/
theorem recorded_consume (discreet : work.Discreet) {w : Course η} (h : w.AtRest work p start)
    (hlog : Recorded work p.resumption start w.handled w.handler (outcomes log)) :
    (w.consume work).2.1.AtRest work p start ∧
      Recorded work p.resumption start (w.consume work).2.1.handled (w.consume work).2.1.handler
        (outcomes (log ++ (w.consume work).2.2)) :=
  have holds : (recordInvariant discreet p start).Holds .starting w log := ⟨h, hlog⟩
  (recordInvariant discreet p start).run w.stepBound holds le_rfl

/-! ## Any number of runs -/

/-- **Runs of the consumer**, one after the other, with what has been logged meanwhile. Between two
runs others may do anything: go on with what they were going to do, take back a cancellation or make
other plans, and log in their own names. -/
inductive Runs (work : Handler η) (p : Partition) (start : η) : Course η → Log → Prop
  | opened (coming : List (List Happening)) : Runs work p start (opened p coming start) []
  | consume {w : Course η} {log : Log} : Runs work p start w log →
    Runs work p start (w.consume work).2.1 (log ++ (w.consume work).2.2)
  | elapse {w : Course η} {log : Log} : Runs work p start w log → Runs work p start w.elapse log
  | plan {w : Course η} {log : Log} (coming : List (List Happening)) (cancelled : Bool) :
    Runs work p start w log → Runs work p start { w with coming, cancelled } log
  | others {w : Course η} {log more : Log} : (∀ e ∈ more, e.source ≠ .consumer) →
    Runs work p start w log → Runs work p start w (log ++ more)

/-- **The records of any runs** are those of the handlings, and the consumer is at rest. -/
lemma Runs.recorded (discreet : work.Discreet) {w : Course η} (h : Runs work p start w log) :
    w.AtRest work p start ∧
      Recorded work p.resumption start w.handled w.handler (outcomes log) := by
  induction h with
  | opened coming => exact ⟨atRest_opened work p coming start, .nil⟩
  | consume _ ih => exact recorded_consume discreet ih.1 ih.2
  | @elapse w log _ ih =>
    exact ⟨ih.1.elapse, w.sameWork_elapse.recorded ih.2⟩
  | plan coming cancelled _ ih =>
    obtain ⟨⟨standing, deliveries⟩, hrecorded⟩ := ih
    exact ⟨⟨⟨standing.subscription, standing.subscribed, standing.committed, standing.published⟩,
      deliveries⟩, hrecorded⟩
  | others hmore _ ih =>
    rw [outcomes_append, outcomes_eq_nil hmore, List.append_nil]
    exact ih

/-- **The runs under a supervisor** are such runs. -/
theorem Runs.supervised (fuel : Nat) (s : Supervisor) {w : Course η}
    (h : Runs work p start w log) :
    Runs work p start (Supervisor.run (supervision work) fuel s w).2.1
      (log ++ (Supervisor.run (supervision work) fuel s w).2.2) := by
  induction fuel generalizing s w log with
  | zero =>
    rw [Supervisor.run, List.append_nil]
    exact h
  | succ fuel ih =>
    rw [Supervisor.run]
    cases s.phase with
    | stopped =>
      rw [List.append_nil]
      exact h
    | ready =>
      have hrun := ih (s.begin w.cancelled).1 (h.others (s.source_begin w.cancelled))
      rw [List.append_assoc] at hrun
      exact hrun
    | running =>
      have hended := s.source_runEnded (w.consume work).2.1.cancelled
        ((w.consume work).1.guarded DeliveryError.message)
      have hrun := ih (s.runEnded (w.consume work).2.1.cancelled
        ((w.consume work).1.guarded DeliveryError.message)).1 (h.consume.others hended)
      simp only [List.append_assoc] at hrun ⊢
      exact hrun
    | resting => exact ih _ h.elapse

end

/-- **Every handled message leaves one record of its outcome.** Take any number of runs of the
consumer over a partition, with a handler that does anything with each event but log in the name of
the consumer, and whatever others do during the runs and between them. Among the entries of the
consumer, each handling that came to its end has left one record, of the kind that its outcome calls
for, and one that broke down has left none; what has been handled at an offset is the message that
was published there. So the records have the offsets from the first one that was handed over up to
the committed one, each once and in their order, and all offsets up to it if nothing was committed
at the start.

**Proof sketch.** Each step of a run keeps the records those of the handlings so far
(`noted_advance`, `noted_settle_ok`, `recorded_settle_brokeDown`), so each run does
(`recorded_consume`), and so do any number of them (`Runs.recorded`). The offsets of the handlings
that came to their end follow one another up to the committed one (`Deliveries.finished_eq`). -/
theorem outcome_records {work : Handler η} (discreet : work.Discreet) {p : Partition} {start : η}
    {w : Course η} {log : Log} (runs : Runs work p start w log) :
    Recorded work p.resumption start w.handled w.handler (outcomes log) ∧
      (∀ h ∈ w.handled, w.partition.messages[h.message.offset]? = some h.message.payload) ∧
      (outcomes log).map (·.fields.lookup "offset") =
        (List.range' p.resumption (w.partition.resumption - p.resumption)).map
          (fun o => some (.nat o)) ∧
      ((outcomes log).map (·.fields.lookup "offset")).Nodup ∧
      (p.committed = none → (outcomes log).map (·.fields.lookup "offset") =
        (List.range w.partition.resumption).map fun o => some (.nat o)) := by
  obtain ⟨hrest, hrecorded⟩ := runs.recorded discreet
  have hoffsets := hrecorded.offsets_eq
  rw [hrest.deliveries.finished_eq, ← hrest.deliveries.resumption_eq hrest.standing.committed]
    at hoffsets
  refine ⟨hrecorded, hrest.standing.published, hoffsets, ?_, fun hnone => ?_⟩
  · rw [hoffsets]
    exact List.Nodup.map (fun a b hab => LogValue.nat_injective (Option.some.inj hab))
      (List.nodup_range' ..)
  · have hfirst : p.resumption = 0 := by rw [Partition.resumption, hnone]
    rw [hoffsets, hfirst, Nat.sub_zero, List.range_eq_range']

/-- A message that is no event, an event whose handling breaks down and fails when it is handed over
again, and one that is settled leave three records in two runs. -/
theorem outcome_records_scripted :
    let payload :=
      "[0,\"LP\",\"C\",\"P\",\"\",\"\",\"\",150,[[\"A\",150]],\"\",\"\",\"R\"]".toUTF8.toList
    let p : Partition := { number := 0, messages := #[[0], payload, payload] }
    let start := [.error .other, .ok (.error (.store .disconnected)), .ok (.ok ())]
    let first := consume Handler.scripted (opened p [] start)
    let second := consume Handler.scripted first.2.1
    (outcomes (first.2.2 ++ second.2.2)).map (·.fields.lookup "offset") =
      [some (.nat 0), some (.nat 1), some (.nat 2)] := by
  intro payload p start first second
  have hcommitted : second.2.1.partition.resumption = 3 := by decide +kernel
  have runs : Runs Handler.scripted p start second.2.1 (first.2.2 ++ second.2.2) :=
    .consume (.consume (.opened []))
  obtain ⟨-, -, -, -, hall⟩ := outcome_records Handler.discreet_scripted runs
  exact (hall rfl).trans (by rw [hcommitted]; rfl)

end Course

end PenaltySettlement
