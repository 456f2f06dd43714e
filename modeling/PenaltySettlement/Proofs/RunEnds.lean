import PenaltySettlement.Proofs.ActiveSubscription
import PenaltySettlement.Proofs.Rerun

/-!
# How runs of the consumer end

A run of the consumer ends because it is cancelled, because the partition is closed, or because a
handling breaks down. Its subscription is given up in each of these ways, by closing it or by
dropping it, so that the next run finds the partition free. Hence runs that are the only
subscribers, one after the other, are never refused a subscription, a message or a commit.

## Main definitions

* `Course.EndsAs` — the ends of a run, each with its reason.
* `Course.endInvariant` — the invariant of a run for these ends.

## Main results

* `Course.consume_ends` — every run from a free partition ends for its reason, and leaves the
  partition free.
* `Course.subscription_sole_and_released` — the laws of the active subscription, and what they mean
  for runs of the consumer.
-/

set_option autoImplicit false

namespace PenaltySettlement

namespace Course

variable {η : Type}

/-- **The end of a run, with its reason.** A run that is taken off has been waiting for something
that never comes. -/
inductive EndsAs (w : Course η) : RunEnd DeliveryError → Prop
  | cancelled (cancelled : w.cancelled = true) : EndsAs w (.returned (.ok ()))
  | closed (closed : w.partition.closed = true) :
    EndsAs w (.returned (.error .subscriptionClosed))
  | brokeDown (breakdown : Breakdown) {last : Handling} {others : List Handling}
    (handled : w.handled = last :: others) (brokeDown : last.brokeDown = true) :
    EndsAs w (.brokeDown breakdown)
  | waiting (coming : w.coming = []) (cancelled : w.cancelled = false)
    (closed : w.partition.closed = false) : EndsAs w .takenOff

/-- There is no subscription, and the partition is free. -/
structure Free (w : Course η) : Prop where
  subscription : w.connection.subscription = none
  subscribed : w.partition.subscribed = false

/-! ## What others do -/

/-- Cancellation is final, and so is the end of a partition. -/
lemma final_befall (w : Course η) (happening : Happening) :
    (w.cancelled = true → (w.befall happening).cancelled = true) ∧
      (w.partition.closed = true → (w.befall happening).partition.closed = true) := by
  cases happening with
  | publish payload => exact ⟨id, id⟩
  | close => exact ⟨id, fun _ => rfl⟩
  | cancel => exact ⟨fun _ => rfl, id⟩

lemma final_foldl_befall (happenings : List Happening) (w : Course η) :
    (w.cancelled = true → (happenings.foldl befall w).cancelled = true) ∧
      (w.partition.closed = true → (happenings.foldl befall w).partition.closed = true) := by
  induction happenings generalizing w with
  | nil => exact ⟨id, id⟩
  | cons happening happenings ih =>
    obtain ⟨hcancelled, hclosed⟩ := w.final_befall happening
    obtain ⟨hcancelled', hclosed'⟩ := ih (w.befall happening)
    exact ⟨hcancelled' ∘ hcancelled, hclosed' ∘ hclosed⟩

/-- So it is for all that happens before a step. -/
lemma final_elapse (w : Course η) :
    (w.cancelled = true → w.elapse.cancelled = true) ∧
      (w.partition.closed = true → w.elapse.partition.closed = true) := by
  unfold elapse
  split
  · exact ⟨id, id⟩
  · rename_i happenings coming hcoming
    exact final_foldl_befall happenings { w with coming }

/-! ## The ends -/

section

variable {work : Handler η} {p : Partition} {start : η} {quiet : Prop}

/-- Closing the subscription changes neither whether the work is cancelled nor whether the partition
is closed. -/
lemma final_close {w : Course η} (h : w.Stands work p start quiet .receiving) :
    (w.cancelled = true → (source.close w).1.cancelled = true) ∧
      (w.partition.closed = true → (source.close w).1.partition.closed = true) := by
  obtain ⟨-, hpartition⟩ :=
    Partition.Connection.close_of_open (h.1.grow w.grows_elapse).subscription
  refine ⟨w.final_elapse.1, fun hclosed => ?_⟩
  show (w.elapse.connection.close.1.partition).closed = true
  rw [hpartition]
  exact w.final_elapse.2 hclosed

/-- A consumer between two messages ends because the work is cancelled or the partition closed. -/
lemma endsAs_receiving {w : Course η} {step : ConsumerStep (Course η)}
    (h : w.Stands work p start quiet .receiving)
    (hstep : Consumer.advance source w.cancelled w .receiving = some step)
    {outcome : Except DeliveryError Unit} (hended : step.phase = .ended outcome) :
    step.source.EndsAs (.returned outcome) := by
  cases hcancelled : w.cancelled with
  | true =>
    simp only [Consumer.advance, hcancelled, if_true, Option.some.injEq] at hstep
    subst hstep
    cases hended
    exact .cancelled ((final_close h).1 hcancelled)
  | false =>
    simp only [Consumer.advance, hcancelled, Bool.false_eq_true, if_false] at hstep
    cases hmessage : w.elapse.partition.messages[successor p.resumption w.handled]? with
    | some payload =>
      obtain ⟨w', hnext, -⟩ := stands_message h hmessage
      rw [hnext] at hstep
      obtain rfl : _ = step := Option.some.inj hstep
      simp only [Consumer.take] at hended
      split at hended <;> cases hended
    | none =>
      obtain ⟨hnext, hstands, -⟩ := stands_at_end h hmessage
      rw [hnext] at hstep
      cases hclosed : w.elapse.partition.closed with
      | false => simp [hclosed] at hstep
      | true =>
        simp only [hclosed, if_true, Option.some.injEq] at hstep
        subst hstep
        cases hended
        exact .closed ((final_close hstands).2 hclosed)

/-- A step of the consumer's own ends it for one of these two reasons. -/
lemma endsAs_advance {phase : ConsumerPhase} {w : Course η} {step : ConsumerStep (Course η)}
    (h : w.Stands work p start quiet phase)
    (hstep : Consumer.advance source w.cancelled w phase = some step)
    {outcome : Except DeliveryError Unit} (hended : step.phase = .ended outcome) :
    step.source.EndsAs (.returned outcome) := by
  cases phase with
  | settling offset event => simp [Consumer.advance] at hstep
  | ended outcome => simp [Consumer.advance] at hstep
  | receiving => exact endsAs_receiving h hstep hended
  | starting =>
    obtain ⟨w', log, hsubscribe, -⟩ : ∃ w' log, source.subscribe w = (.ok (), w', log) ∧
        w'.Stands work p start quiet .receiving ∧ _ := stands_subscribe h
    simp only [Consumer.advance, hsubscribe, Option.some.injEq] at hstep
    subst hstep
    cases hended
  | committing offset =>
    obtain ⟨w', hcommit, -⟩ := stands_commit h
    simp only [Consumer.advance, hcommit, Option.some.injEq] at hstep
    subst hstep
    cases hended

/-- A handler that breaks down breaks down in the last handling. -/
lemma endsAs_brokeDown {w w' : Course η} {offset : Nat} {event : PenaltyPaymentEvent}
    {breakdown : Breakdown} {log : Log}
    (h : w.Stands work p start quiet (.settling offset event))
    (hsettle : settle work event w = (.error breakdown, w', log)) :
    (source.release w').EndsAs (.brokeDown breakdown) := by
  obtain ⟨payload, done, hhandled, -⟩ := h
  have hlast := w.grows_elapse.handled.trans hhandled
  have hbroke : w'.handled = { message := ⟨offset, payload⟩, brokeDown := true } :: done := by
    rcases hwork : work event w.elapse.handler with ⟨result | result, after, more⟩
    · simp only [settle, hwork, Prod.mk.injEq] at hsettle
      rw [← hsettle.2.1]
      simp [breakDown, hlast]
    · simp [settle, hwork] at hsettle
  exact .brokeDown breakdown (w'.grows_elapse.handled.trans hbroke) rfl

/-- A consumer that is taken off is waiting at the end of an open partition. -/
lemma endsAs_waiting {w : Course η} (h : w.Stands work p start quiet .receiving)
    (hwaiting : Consumer.advance source w.cancelled w .receiving = none) (hcoming : w.coming = []) :
    (source.release w).EndsAs .takenOff := by
  have hsame := elapse_of_coming_eq_nil hcoming
  have hcancelled : w.cancelled = false := by
    by_contra hne
    simp [Consumer.advance, Bool.eq_false_iff.not_left.mp hne] at hwaiting
  have hclosed : w.partition.closed = false := by
    cases hmessage : w.elapse.partition.messages[successor p.resumption w.handled]? with
    | some payload =>
      obtain ⟨w', hnext, -⟩ := stands_message h hmessage
      simp [Consumer.advance, hcancelled, hnext] at hwaiting
    | none =>
      obtain ⟨hnext, -⟩ := stands_at_end h hmessage
      rw [hsame] at hnext
      cases hclosed : w.partition.closed with
      | false => rfl
      | true => simp [Consumer.advance, hcancelled, hnext, hclosed] at hwaiting
  obtain ⟨-, hpartition⟩ :=
    Partition.Connection.release_of_open (h.1.grow w.grows_elapse).subscription
  rw [hsame] at hpartition
  refine .waiting ?_ ?_ ?_
  · show w.elapse.coming = []
    rw [hsame, hcoming]
  · show w.elapse.cancelled = false
    rw [hsame, hcancelled]
  · show w.elapse.connection.release.partition.closed = false
    rw [hsame, hpartition]
    exact hclosed

/-- **The invariant of a run for its ends**: each phase stands as it should, and an end has come
for its reason. -/
def endInvariant (work : Handler η) (p : Partition) (start : η) :
    Consumer.RunInvariant (surroundings work) fun ending w _ =>
      w.AtRest work p start ∧ w.EndsAs ending where
  Holds phase w _ := w.Stands work p start False phase ∧
    ∀ outcome, phase = .ended outcome → w.EndsAs (.returned outcome)
  steps := stepsLeft
  steps_pos := by
    intro phase w _ _
    cases phase <;> simp [stepsLeft, stepBound]
  ended := fun ⟨⟨hrest, _⟩, hends⟩ => ⟨hrest, hends _ rfl⟩
  settle_brokeDown := fun ⟨h, _⟩ hsettle =>
    ⟨(atRest_settle_brokeDown h hsettle).1, endsAs_brokeDown h hsettle⟩
  settle_ok := fun ⟨h, _⟩ hsettle =>
    let ⟨hstands, hsteps⟩ := stands_settle_ok h hsettle
    ⟨⟨hstands, nofun⟩, hsteps⟩
  advance := fun ⟨h, _⟩ hstep =>
    let ⟨hstands, hsteps⟩ := stands_advance h False.elim hstep
    ⟨⟨hstands, fun _ hended => endsAs_advance h hstep hended⟩, hsteps⟩
  await_some := by
    intro w w' _ ⟨h, _⟩ _ hawait
    obtain ⟨hcoming, rfl⟩ : w.coming ≠ [] ∧ w.elapse = w' := by
      simpa [surroundings] using hawait
    obtain ⟨hstands, hsteps⟩ := stands_await h hcoming
    exact ⟨⟨hstands, nofun⟩, hsteps⟩
  await_none := by
    intro w _ ⟨h, _⟩ hwaiting hawait
    have hcoming : w.coming = [] := by simpa [surroundings] using hawait
    exact ⟨(atRest_release h.1 h.2).1, endsAs_waiting h hwaiting hcoming⟩

/-- A consumer at rest has given its subscription up. -/
lemma AtRest.free {w : Course η} (h : w.AtRest work p start) : w.Free :=
  ⟨h.standing.subscription, h.standing.subscribed⟩

/-- **Every run** of a consumer at rest ends for its reason, at rest. -/
theorem consume_ends {w : Course η} (h : w.AtRest work p start) :
    (w.consume work).2.1.AtRest work p start ∧ (w.consume work).2.1.EndsAs (w.consume work).1 :=
  have holds : (endInvariant work p start).Holds .starting w [] := ⟨h, nofun⟩
  (endInvariant work p start).run w.stepBound holds le_rfl

end

/-- **One subscription at most, and always released.** Whatever is done with a partition and its
subscriptions, it is claimed exactly while there is one that is neither closed nor dropped, and
there are never two; an attempt to subscribe fails exactly then and changes nothing; and one that
was closed or dropped before takes no claim away from one that has been made since. Hence runs of
the consumer, one after the other, each find the partition free and leave it so, whatever others
publish, close or cancel meanwhile and whatever the handler does with each event: a run ends because
it is cancelled, because the partition is closed or because a handling has broken down, unless it
waits for ever.

**Proof sketch.** The first part are the laws after any acts (`Readership.soleSubscription`). For
the second part, the consumer is at rest before and after every run (`atRest_reruns`), and from
there a run comes to one of these ends (`consume_ends`). -/
theorem subscription_sole_and_released :
    (∀ number acts, Readership.SoleSubscription number acts) ∧
    ∀ {η : Type} (work : Handler η) (p : Partition) (coming : List (List Happening)) (start : η)
      (n : Nat),
      let w := (rerun work)^[n] (opened p coming start)
      let run := consume work { w with cancelled := false }
      w.Free ∧ run.2.1.Free ∧ run.2.1.EndsAs run.1 := by
  refine ⟨Readership.soleSubscription, fun work p coming start n => ?_⟩
  have hrest := atRest_reruns work p coming start n
  obtain ⟨hafter, hends⟩ := consume_ends hrest.again
  exact ⟨hrest.free, hafter.free, hends⟩

end Course

end PenaltySettlement
