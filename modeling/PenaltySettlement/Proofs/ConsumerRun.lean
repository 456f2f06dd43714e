import Mathlib.Tactic.Common
import PenaltySettlement.Consumer

/-!
# Invariants of a run of the consumer

A run of the consumer takes steps until it ends. What holds before each step, with a number that
every step lowers, gives what holds at the end, as long as the run has at least that many steps to
spend.

## Main definitions

* `Consumer.RunInvariant` — an invariant of a run with its measure.

## Main results

* `Consumer.RunInvariant.run` — the end of a run with enough fuel is one of the expected ends.
-/

set_option autoImplicit false

namespace PenaltySettlement

namespace Consumer

/-- **An invariant of the consumer's runs** in some surroundings, for ends of a certain kind. It
speaks of the phase, the world and the log so far. Each step keeps it and lowers the number of
steps that are left, or comes to such an end. -/
structure RunInvariant {ω : Type} (around : Surroundings ω)
    (Ends : RunEnd DeliveryError → ω → Log → Prop) where
  Holds : ConsumerPhase → ω → Log → Prop
  steps : ConsumerPhase → ω → Nat
  steps_pos : ∀ {phase world log}, Holds phase world log → 0 < steps phase world
  ended : ∀ {outcome world log}, Holds (.ended outcome) world log →
    Ends (.returned outcome) world log
  settle_brokeDown : ∀ {offset event world log breakdown after more},
    Holds (.settling offset event) world log →
    around.settle event world = (.error breakdown, after, more) →
    Ends (.brokeDown breakdown) (around.source.release after) (log ++ more)
  settle_ok : ∀ {offset event world log outcome after more},
    Holds (.settling offset event) world log →
    around.settle event world = (.ok outcome, after, more) →
    Holds (.committing offset) after (log ++ more ++ (settled offset event outcome).2) ∧
      steps (.committing offset) after < steps (.settling offset event) world
  advance : ∀ {phase world log step}, Holds phase world log →
    Consumer.advance around.source (around.cancelled world) world phase = some step →
    Holds step.phase step.source (log ++ step.log) ∧
      steps step.phase step.source < steps phase world
  await_some : ∀ {world after log}, Holds .receiving world log →
    Consumer.advance around.source (around.cancelled world) world .receiving = none →
    around.await world = some after →
    Holds .receiving after log ∧ steps .receiving after < steps .receiving world
  await_none : ∀ {world log}, Holds .receiving world log →
    Consumer.advance around.source (around.cancelled world) world .receiving = none →
    around.await world = none → Ends .takenOff (around.source.release world) log

/-- A consumer that neither settles an event nor has ended takes a step of its own. -/
lemma run_succ_of_advance {ω : Type} (around : Surroundings ω) (fuel : Nat)
    {phase : ConsumerPhase} {world : ω} {step : ConsumerStep ω}
    (h : advance around.source (around.cancelled world) world phase = some step) :
    run around (fuel + 1) phase world =
      ((run around fuel step.phase step.source).1, (run around fuel step.phase step.source).2.1,
        step.log ++ (run around fuel step.phase step.source).2.2) := by
  cases phase with
  | settling offset event => simp [advance] at h
  | ended outcome => simp [advance] at h
  | starting => simp [run, h]
  | receiving => simp [run, h]
  | committing offset => simp [run, h]

/-- A consumer that starts or that commits always has a step of its own. -/
lemma advance_isSome {ω : Type} (source : MessageSource ω) (cancelled : Bool) (world : ω)
    {phase : ConsumerPhase} (h : phase = .starting ∨ ∃ offset, phase = .committing offset) :
    ∃ step, advance source cancelled world phase = some step := by
  rcases h with rfl | ⟨offset, rfl⟩
  · simp only [advance]
    split <;> exact ⟨_, rfl⟩
  · simp only [advance]
    split <;> exact ⟨_, rfl⟩

/-- What every use of the source keeps, a step of the consumer's own keeps. -/
lemma advance_keeps {ω : Type} {source : MessageSource ω} (Kept : ω → Prop)
    (hsubscribe : ∀ {world}, Kept world → Kept (source.subscribe world).2.1)
    (hnext : ∀ {world}, Kept world → Kept (source.next world).2)
    (hcommit : ∀ {world} offset, Kept world → Kept (source.commit offset world).2)
    (hclose : ∀ {world}, Kept world → Kept (source.close world).1)
    (hrelease : ∀ {world}, Kept world → Kept (source.release world))
    {cancelled : Bool} {world : ω} {phase : ConsumerPhase} {step : ConsumerStep ω}
    (hstep : advance source cancelled world phase = some step) (h : Kept world) :
    Kept step.source := by
  cases phase with
  | settling offset event => simp [advance] at hstep
  | ended outcome => simp [advance] at hstep
  | starting =>
    have := hsubscribe h
    rcases hs : source.subscribe world with ⟨outcome | outcome, after, log⟩ <;>
    · simp only [advance, hs, Option.some.injEq] at hstep
      subst hstep
      rwa [hs] at this
  | committing offset =>
    have := hcommit offset h
    rcases hc : source.commit offset world with ⟨outcome | outcome, after⟩
    · simp only [advance, hc, Option.some.injEq] at hstep
      subst hstep
      rw [hc] at this
      exact hrelease this
    · simp only [advance, hc, Option.some.injEq] at hstep
      subst hstep
      rwa [hc] at this
  | receiving =>
    have := hnext h
    cases cancelled with
    | true =>
      obtain rfl : _ = step := Option.some.inj hstep
      exact hclose h
    | false =>
      rcases hn : source.next world with ⟨receipt, after⟩
      rw [hn] at this
      simp only [advance, Bool.false_eq_true, if_false, hn] at hstep
      cases receipt with
      | pending => cases hstep
      | message m =>
        obtain rfl : _ = step := Option.some.inj hstep
        exact this
      | ended =>
        obtain rfl : _ = step := Option.some.inj hstep
        exact hclose this
      | failed e =>
        obtain rfl : _ = step := Option.some.inj hstep
        exact hclose this

/-- **The rule for runs**: a run that starts where an invariant holds, with as much fuel as the
invariant counts steps, comes to one of the ends of the invariant.

**Proof sketch.** Induction on the fuel. It is never used up, since the number of steps is positive
wherever the invariant holds. An event that is being settled and a step of the consumer's own leave
the invariant with a smaller number; a consumer without a step is waiting, and goes on in the world
that it has waited for or is taken off. -/
theorem RunInvariant.run {ω : Type} {around : Surroundings ω}
    {Ends : RunEnd DeliveryError → ω → Log → Prop} (inv : RunInvariant around Ends) (fuel : Nat) :
    ∀ {phase : ConsumerPhase} {world : ω} {log : Log}, inv.Holds phase world log →
      inv.steps phase world ≤ fuel →
      Ends (Consumer.run around fuel phase world).1 (Consumer.run around fuel phase world).2.1
        (log ++ (Consumer.run around fuel phase world).2.2) := by
  induction fuel with
  | zero =>
    intro phase world log holds hfuel
    have := inv.steps_pos holds
    omega
  | succ fuel ih =>
    intro phase world log holds hfuel
    have onward : ∀ step, Consumer.advance around.source (around.cancelled world) world phase =
        some step → Ends (Consumer.run around (fuel + 1) phase world).1
          (Consumer.run around (fuel + 1) phase world).2.1
          (log ++ (Consumer.run around (fuel + 1) phase world).2.2) := by
      intro step hstep
      obtain ⟨holds', hsteps⟩ := inv.advance holds hstep
      rw [run_succ_of_advance around fuel hstep, ← List.append_assoc]
      exact ih holds' (by omega)
    cases phase with
    | ended outcome => simpa [Consumer.run] using inv.ended holds
    | starting =>
      obtain ⟨step, hstep⟩ := advance_isSome around.source (around.cancelled world) world (.inl rfl)
      exact onward step hstep
    | committing offset =>
      obtain ⟨step, hstep⟩ :=
        advance_isSome around.source (around.cancelled world) world (.inr ⟨offset, rfl⟩)
      exact onward step hstep
    | settling offset event =>
      rcases hsettle : around.settle event world with ⟨outcome | outcome, after, more⟩
      · simpa [Consumer.run, hsettle] using inv.settle_brokeDown holds hsettle
      · obtain ⟨holds', hsteps⟩ := inv.settle_ok holds hsettle
        have := ih holds' (by omega)
        simpa [Consumer.run, hsettle, settled, List.append_assoc] using this
    | receiving =>
      cases hstep : Consumer.advance around.source (around.cancelled world) world .receiving with
      | some step => exact onward step hstep
      | none =>
        cases hawait : around.await world with
        | some after =>
          obtain ⟨holds', hsteps⟩ := inv.await_some holds hstep hawait
          simpa [Consumer.run, hstep, hawait] using ih holds' (by omega)
        | none => simpa [Consumer.run, hstep, hawait] using inv.await_none holds hstep hawait

end Consumer

end PenaltySettlement
