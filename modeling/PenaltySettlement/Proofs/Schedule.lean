import Mathlib.Data.Nat.Basic
import Mathlib.Logic.Function.Iterate
import Mathlib.Tactic.Common
import PenaltySettlement.Simulation.Timetable

/-!
# The schedule of supervised runs

The supervisor starts its first run at once and each further one a pause after the end of the one
before, until the work is cancelled. Cancellation lets a run come to its end and cuts a pause short.
How the runs end does not matter to any of these times.

## Main definitions

* `Supervisor.stepIn` — one step of the supervisor in its surroundings.
* `Agenda` — runs without end, of known lengths and endings, with a pause and a time of
  cancellation.
* `Agenda.startOf`, `Agenda.endOf` — the times of the runs, as the durations and the pause give
  them.
* `Agenda.after` — the supervisor of these runs after some of its steps.
* `Agenda.Makes`, `Agenda.Returns` — the runs that are made, and the time of the return.
* `Agenda.Law` — the law of the schedule.

## Main results

* `Supervisor.run_eq_iterate` — the supervisor takes one step after the other.
* `Agenda.stage_after` — where the supervisor can be after any number of steps.
* `Agenda.schedule` — the law holds for every agenda, and the endings do not matter to it.
-/

set_option autoImplicit false

namespace PenaltySettlement

/-! ## The steps of a supervisor -/

namespace Supervisor

variable {ω : Type}

/-- **One step of the supervisor** in its surroundings, apart from what it logs. -/
def stepIn (around : Surroundings ω) (x : Supervisor × ω) : Supervisor × ω :=
  match x.1.phase with
  | .stopped => x
  | .ready => ((x.1.begin (around.cancelled x.2)).1, x.2)
  | .running =>
    let (outcome, world, _) := around.runTask x.2
    ((x.1.runEnded (around.cancelled world) outcome).1, world)
  | .resting =>
    let (elapsed, world) := around.rest x.1.backoffMs x.2
    (x.1.rested elapsed, world)

lemma stepIn_of_stopped (around : Surroundings ω) {x : Supervisor × ω}
    (h : x.1.phase = .stopped) : stepIn around x = x := by
  simp only [stepIn, h]

/-- A supervisor that has stopped takes no more steps. -/
lemma iterate_stepIn_of_stopped (around : Surroundings ω) (steps : Nat) {x : Supervisor × ω}
    (h : x.1.phase = .stopped) : (stepIn around)^[steps] x = x :=
  Function.iterate_fixed (stepIn_of_stopped around h) steps

/-- **The supervisor takes one step after the other**, as many as it has fuel for.

**Proof sketch.** Induction on the fuel: in each phase the rest of the run starts where one step
leads, and once the supervisor has stopped no step leads anywhere. -/
theorem run_eq_iterate (around : Surroundings ω) (fuel : Nat) (x : Supervisor × ω) :
    ((run around fuel x.1 x.2).1, (run around fuel x.1 x.2).2.1) =
      (stepIn around)^[fuel] x := by
  induction fuel generalizing x with
  | zero => rfl
  | succ fuel ih =>
    rw [Function.iterate_succ_apply, ← ih]
    cases hphase : x.1.phase with
    | stopped =>
      have hstep := ih x
      rw [iterate_stepIn_of_stopped around fuel hphase] at hstep
      rw [stepIn_of_stopped around hphase, hstep]
      simp only [run, hphase]
    | ready => simp only [run, stepIn, hphase]
    | running => simp only [run, stepIn, hphase]
    | resting => simp only [run, stepIn, hphase]

/-- Every other step of the supervisor takes it to another phase. -/
lemma phase_stepIn_ne (around : Surroundings ω) {x : Supervisor × ω}
    (h : x.1.phase ≠ .stopped) : (stepIn around x).1.phase ≠ x.1.phase := by
  cases hphase : x.1.phase with
  | stopped => exact absurd hphase h
  | ready =>
    simp only [stepIn, hphase, begin]
    split <;> exact SupervisorPhase.noConfusion
  | running =>
    simp only [stepIn, hphase, runEnded]
    split
    · split <;> exact SupervisorPhase.noConfusion
    · exact SupervisorPhase.noConfusion
  | resting =>
    simp only [stepIn, hphase, rested]
    exact SupervisorPhase.noConfusion

/-- The supervisor has stopped exactly when a step changes nothing any more. -/
lemma stepIn_eq_self_iff (around : Surroundings ω) (x : Supervisor × ω) :
    stepIn around x = x ↔ x.1.phase = .stopped := by
  refine ⟨fun h => ?_, stepIn_of_stopped around⟩
  by_contra hphase
  exact phase_stepIn_ne around hphase (by rw [h])

end Supervisor

/-! ## Runs without end -/

/-- Runs of known lengths, each with an ending, one after the other without end. They begin at a
time, with a pause between them, and the work is cancelled at a time, if at all. -/
structure Agenda where
  durations : Nat → Nat
  endings : Nat → RunEnd String
  backoffMs : Nat
  origin : Nat
  cancelAt : Option Nat

/-- The timetable at hand, with the start and the end of every run that has been made. -/
structure Diary where
  table : Timetable
  spans : List (Nat × Nat) := []

namespace Agenda

/-- One of the runs. -/
def planned (a : Agenda) (i : Nat) : PlannedRun :=
  { delayMs := a.durations i, ending := some (a.endings i) }

/-- What the supervisor of the runs works in: the next run is the only one on its timetable. -/
def surroundings (a : Agenda) : Supervisor.Surroundings Diary where
  cancelled d := d.table.cancelled
  runTask d :=
    let (outcome, table, log) :=
      ({ d.table with runs := [a.planned d.spans.length] } : Timetable).runTask
    (outcome, { table, spans := d.spans ++ [(d.table.now, table.now)] }, log)
  rest pause d :=
    let (elapsed, table) := d.table.rest pause
    (elapsed, { d with table })

/-- The diary at the beginning. -/
def opening (a : Agenda) : Diary :=
  { table := ({ runs := [], cancelAt := a.cancelAt, now := a.origin } : Timetable).passTo a.origin }

/-- **A fresh supervisor of the runs, after some steps**, with its diary. -/
def after (a : Agenda) (name : String) (steps : Nat) : Supervisor × Diary :=
  let (s, d, _) :=
    Supervisor.run a.surroundings steps { name, backoffMs := a.backoffMs } a.opening
  (s, d)

/-- The supervisor has returned: there is no step left for it to take. -/
def Returned (a : Agenda) (name : String) (steps : Nat) : Prop :=
  a.after name (steps + 1) = a.after name steps

/-- **A run is made** from one time to another. -/
def Makes (a : Agenda) (name : String) (i : Nat) (span : Nat × Nat) : Prop :=
  ∃ steps, (a.after name steps).2.spans[i]? = some span

/-- **The supervisor returns** at a time. -/
def Returns (a : Agenda) (name : String) (time : Nat) : Prop :=
  ∃ steps, a.Returned name steps ∧ (a.after name steps).2.table.now = time

/-- **The start of a run**: the first one is at the beginning, and each further one a pause after
the end of the one before. -/
def startOf (a : Agenda) : Nat → Nat
  | 0 => a.origin
  | i + 1 => a.startOf i + a.durations i + a.backoffMs

/-- **The end of a run.** -/
def endOf (a : Agenda) (i : Nat) : Nat := a.startOf i + a.durations i

/-- The time at which the supervisor has to return when the work is cancelled at a time: at once, at
the end of the run that cancellation falls into, or at the cancellation when it falls into a
pause. -/
inductive ReturnAt (a : Agenda) (cancellation : Nat) : Nat → Prop
  | atOnce (early : cancellation ≤ a.origin) : ReturnAt a cancellation a.origin
  | afterRun (i : Nat) (started : a.startOf i < cancellation)
    (running : cancellation ≤ a.endOf i) : ReturnAt a cancellation (a.endOf i)
  | inPause (i : Nat) (ended : a.endOf i < cancellation)
    (pausing : cancellation < a.startOf (i + 1)) : ReturnAt a cancellation cancellation

/-- **The law of the schedule.** -/
structure Law (a : Agenda) (name : String) : Prop where
  /-- The runs that are made are those that start before the cancellation, at their times. -/
  makes_iff : ∀ i span, a.Makes name i span ↔
    (∀ cancellation ∈ a.cancelAt, a.startOf i < cancellation) ∧ span = (a.startOf i, a.endOf i)
  /-- Between two runs lies a pause at least. -/
  apart : ∀ {i j : Nat} {earlier later : Nat × Nat}, i < j → a.Makes name i earlier →
    a.Makes name j later → earlier.2 + a.backoffMs ≤ later.1
  /-- The supervisor returns once the work is cancelled, at its time, and not without. -/
  returns_iff : ∀ time, a.Returns name time ↔
    ∃ cancellation ∈ a.cancelAt, a.ReturnAt cancellation time
  /-- When it has returned, the work is cancelled and its state shows that it has stopped. -/
  returned : ∀ steps, a.Returned name steps → (a.after name steps).1.state = "Stopped" ∧
    ∃ cancellation ∈ a.cancelAt, cancellation ≤ (a.after name steps).2.table.now
  /-- Until then its state shows that it is running. -/
  running : ∀ steps, ¬ a.Returned name steps → (a.after name steps).1.state = "Running"

/-! ## The times of the runs -/

lemma startOf_succ (a : Agenda) (i : Nat) : a.startOf (i + 1) = a.endOf i + a.backoffMs := rfl

/-- A run starts after the end of every run before it. -/
lemma endOf_add_le_startOf (a : Agenda) {i j : Nat} (h : i < j) :
    a.endOf i + a.backoffMs ≤ a.startOf j := by
  induction j, h using Nat.le_induction with
  | base => exact le_rfl
  | succ j _ ih =>
    have : a.startOf (j + 1) = a.startOf j + a.durations j + a.backoffMs := rfl
    omega

lemma startOf_le_startOf (a : Agenda) {i j : Nat} (h : i ≤ j) : a.startOf i ≤ a.startOf j := by
  rcases Nat.lt_or_eq_of_le h with hlt | rfl
  · have := a.endOf_add_le_startOf hlt
    unfold endOf at this
    omega
  · exact le_rfl

/-- The work is cancelled at a time. -/
def cancelledAt (a : Agenda) (time : Nat) : Bool := a.cancelAt.any (· ≤ time)

lemma cancelledAt_iff (a : Agenda) (time : Nat) :
    a.cancelledAt time = true ↔ ∃ cancellation ∈ a.cancelAt, cancellation ≤ time := by
  simp [cancelledAt, Option.any_eq_true]

lemma cancelledAt_eq_false_iff (a : Agenda) (time : Nat) :
    a.cancelledAt time = false ↔ ∀ cancellation ∈ a.cancelAt, time < cancellation := by
  rw [← Bool.not_eq_true, cancelledAt_iff]
  simp only [not_exists, not_and, not_le]

/-- Cancellation is final. -/
lemma cancelledAt_mono (a : Agenda) {earlier later : Nat} (h : earlier ≤ later)
    (hcancelled : a.cancelledAt earlier = true) : a.cancelledAt later = true := by
  rw [cancelledAt_iff] at hcancelled ⊢
  obtain ⟨cancellation, hmem, hle⟩ := hcancelled
  exact ⟨cancellation, hmem, Nat.le_trans hle h⟩

/-- A run is due when the work is not cancelled at its start. -/
def Due (a : Agenda) (i : Nat) : Prop := a.cancelledAt (a.startOf i) = false

lemma Due.earlier {a : Agenda} {i j : Nat} (h : i ≤ j) (due : a.Due j) : a.Due i := by
  have := a.cancelledAt_mono (a.startOf_le_startOf h)
  unfold Due at due ⊢
  by_contra hcancelled
  rw [Bool.not_eq_false] at hcancelled
  rw [this hcancelled] at due
  exact Bool.noConfusion due

/-! ## One step of the supervisor of the runs -/

section

variable {a : Agenda} {s : Supervisor} {d : Diary} {runs time : Nat}

/-- The start and the end of a run. -/
def span (a : Agenda) (i : Nat) : Nat × Nat := (a.startOf i, a.endOf i)

/-- **The diary at a time**, when some runs have been made. -/
structure Kept (a : Agenda) (runs time : Nat) (d : Diary) : Prop where
  spans : d.spans = (List.range runs).map a.span
  cancelAt : d.table.cancelAt = a.cancelAt
  cancelled : d.table.cancelled = a.cancelledAt time
  now : d.table.now = time

lemma kept_opening (a : Agenda) : a.Kept 0 a.origin a.opening where
  spans := rfl
  cancelAt := rfl
  cancelled := rfl
  now := rfl

/-- A run that starts at its time ends at its time, with its ending. -/
lemma Kept.runTask (h : a.Kept runs (a.startOf runs) d) :
    (a.surroundings.runTask d).1 = (a.endings runs).guarded id ∧
      a.Kept (runs + 1) (a.endOf runs) (a.surroundings.runTask d).2.1 := by
  have hlength : d.spans.length = runs := by rw [h.spans]; simp
  have hnow : d.table.now + a.durations runs = a.endOf runs := by rw [h.now]; rfl
  have hmono : a.cancelledAt (a.startOf runs) = true → a.cancelledAt (a.endOf runs) = true :=
    a.cancelledAt_mono (Nat.le_add_right _ _)
  refine ⟨?_, ?_, h.cancelAt, ?_, ?_⟩
  · simp [surroundings, Timetable.runTask, Timetable.nextRun, planned, PlannedRun.guarded,
      hlength]
  · simp only [surroundings, Timetable.runTask, Timetable.nextRun, planned, Timetable.passTo,
      hlength, Bool.false_and, Bool.false_eq_true, if_false, hnow]
    rw [List.range_succ, List.map_append, h.spans, h.now]
    rfl
  · simp only [surroundings, Timetable.runTask, Timetable.nextRun, planned, Timetable.passTo,
      hlength, Bool.false_and, Bool.false_eq_true, if_false, h.cancelAt, h.cancelled, h.now,
      Bool.or_false]
    show ((a.cancelledAt _ || a.cancelledAt _) || a.cancelledAt _) = a.cancelledAt _
    cases hcancelled : a.cancelledAt (a.startOf runs) with
    | true => rw [hmono hcancelled]; rfl
    | false => rfl
  · simp only [surroundings, Timetable.runTask, Timetable.nextRun, planned, Timetable.passTo,
      hlength, Bool.false_and, Bool.false_eq_true, if_false, hnow]

/-- A pause that ends before the work is cancelled ends at the start of the next run. -/
lemma Kept.rest_elapsed (h : a.Kept (runs + 1) (a.endOf runs) d) (due : a.Due (runs + 1)) :
    (a.surroundings.rest a.backoffMs d).1 = true ∧
      a.Kept (runs + 1) (a.startOf (runs + 1)) (a.surroundings.rest a.backoffMs d).2 := by
  have hbefore : a.cancelledAt (a.endOf runs) = false := by
    by_contra hcancelled
    rw [Bool.not_eq_false] at hcancelled
    have := a.cancelledAt_mono (Nat.le_add_right _ a.backoffMs) hcancelled
    rw [← a.startOf_succ, due] at this
    exact Bool.noConfusion this
  have hnone : a.cancelAt.filter (· < a.startOf (runs + 1)) = none := by
    rw [Option.filter_eq_none_iff]
    intro cancellation hmem
    have := (a.cancelledAt_eq_false_iff _).1 due cancellation hmem
    simp only [decide_eq_true_eq]
    omega
  have hrest : d.table.rest a.backoffMs =
      (true, { d.table with now := a.startOf (runs + 1) }) := by
    simp only [Timetable.rest, h.cancelled, hbefore, h.cancelAt, h.now, ← a.startOf_succ, hnone,
      Bool.false_eq_true, if_false]
  have hcancelled : d.table.cancelled = a.cancelledAt (a.startOf (runs + 1)) := by
    rw [h.cancelled, hbefore, due]
  simp only [surroundings, hrest, true_and]
  exact ⟨h.spans, h.cancelAt, hcancelled, rfl⟩

/-- A pause in which the work is cancelled, or before which it has been, ends with the
cancellation, or at once. -/
lemma Kept.rest_cut (h : a.Kept (runs + 1) (a.endOf runs) d) {cancellation : Nat}
    (hat : a.cancelAt = some cancellation) (hcut : cancellation < a.startOf (runs + 1)) :
    a.Kept (runs + 1) (max (a.endOf runs) cancellation)
      (a.surroundings.rest a.backoffMs d).2 := by
  have hcancelled : ∀ time, a.cancelledAt time = decide (cancellation ≤ time) := by
    intro time
    simp only [cancelledAt, hat, Option.any_some]
  have hrest : (d.table.rest a.backoffMs).2.cancelled = true ∧
      (d.table.rest a.backoffMs).2.cancelAt = some cancellation ∧
      (d.table.rest a.backoffMs).2.now = max (a.endOf runs) cancellation := by
    simp only [Timetable.rest, h.cancelled, hcancelled, h.cancelAt, hat, h.now, ← a.startOf_succ]
    by_cases hended : cancellation ≤ a.endOf runs
    · -- a pause of no time is not cut
      by_cases hpause : a.endOf runs < a.startOf (runs + 1)
      · simp [hended, hpause, Option.filter, Timetable.passTo, h.cancelAt, hat]
      · have hsame : a.startOf (runs + 1) = a.endOf runs :=
          Nat.le_antisymm (Nat.le_of_not_lt hpause) (Nat.le_add_right _ _)
        simp [hended, hsame, Option.filter]
    · have hmax : max (a.endOf runs) cancellation = cancellation :=
        Nat.max_eq_right (Nat.le_of_not_le hended)
      simp [hended, Option.filter, hcut, hmax, Timetable.passTo, h.cancelAt, hat]
  obtain ⟨hended, hcancelAt, hnow⟩ := hrest
  refine ⟨h.spans, hcancelAt.trans hat.symm, ?_, hnow⟩
  rw [hcancelled, decide_eq_true (Nat.le_max_right (a.endOf runs) cancellation)]
  exact hended

/-- The supervisor is in a phase, with its pause and the diary as they should be. -/
structure Stands (a : Agenda) (phase : SupervisorPhase) (runs time : Nat)
    (x : Supervisor × Diary) : Prop where
  phase : x.1.phase = phase
  backoffMs : x.1.backoffMs = a.backoffMs
  kept : a.Kept runs time x.2

variable {x : Supervisor × Diary}

/-- A run that is due is begun. -/
lemma Stands.begins (h : a.Stands .ready runs time x) (hdue : a.cancelledAt time = false) :
    a.Stands .running runs time (Supervisor.stepIn a.surroundings x) := by
  have hcancelled : a.surroundings.cancelled x.2 = false := h.kept.cancelled.trans hdue
  simp only [Supervisor.stepIn, h.phase, hcancelled]
  exact ⟨rfl, h.backoffMs, h.kept⟩

/-- Once the work is cancelled, the supervisor stops. -/
lemma Stands.stops (h : a.Stands .ready runs time x) (hcancelled : a.cancelledAt time = true) :
    a.Stands .stopped runs time (Supervisor.stepIn a.surroundings x) := by
  have hcancelled : a.surroundings.cancelled x.2 = true := h.kept.cancelled.trans hcancelled
  simp only [Supervisor.stepIn, h.phase, hcancelled]
  exact ⟨rfl, h.backoffMs, h.kept⟩

/-- A run comes to its end. Whether a pause follows depends on its ending only when the work is
cancelled by then. -/
lemma Stands.ends (h : a.Stands .running runs (a.startOf runs) x) :
    a.Stands .resting (runs + 1) (a.endOf runs) (Supervisor.stepIn a.surroundings x) ∨
      a.cancelledAt (a.endOf runs) = true ∧
        a.Stands .ready (runs + 1) (a.endOf runs) (Supervisor.stepIn a.surroundings x) := by
  obtain ⟨-, hkept⟩ := h.kept.runTask
  rcases hrun : a.surroundings.runTask x.2 with ⟨outcome, d, log⟩
  rw [hrun] at hkept
  simp only [Supervisor.stepIn, h.phase, hrun]
  cases outcome with
  | error fault => exact .inl ⟨rfl, h.backoffMs, hkept⟩
  | ok =>
    cases hcancelled : a.surroundings.cancelled d with
    | false => exact .inl ⟨rfl, h.backoffMs, hkept⟩
    | true => exact .inr ⟨hkept.cancelled.symm.trans hcancelled, rfl, h.backoffMs, hkept⟩

/-- A pause goes on until the next run when that one is due. -/
lemma Stands.rested (h : a.Stands .resting (runs + 1) (a.endOf runs) x) (due : a.Due (runs + 1)) :
    a.Stands .ready (runs + 1) (a.startOf (runs + 1)) (Supervisor.stepIn a.surroundings x) := by
  obtain ⟨-, hkept⟩ := h.kept.rest_elapsed due
  simp only [Supervisor.stepIn, h.phase, h.backoffMs]
  exact ⟨rfl, h.backoffMs, hkept⟩

/-- Otherwise it is cut short. -/
lemma Stands.cut (h : a.Stands .resting (runs + 1) (a.endOf runs) x) {cancellation : Nat}
    (hat : a.cancelAt = some cancellation) (hcut : cancellation < a.startOf (runs + 1)) :
    a.Stands .ready (runs + 1) (max (a.endOf runs) cancellation)
      (Supervisor.stepIn a.surroundings x) := by
  have hkept := h.kept.rest_cut hat hcut
  simp only [Supervisor.stepIn, h.phase, h.backoffMs]
  exact ⟨rfl, h.backoffMs, hkept⟩

/-! ## Where the supervisor is -/

/-- **The stages of the supervisor.** Between two runs it waits for one that is due, and the first
one it waits for in any case; when the work is cancelled it is on its way out, or has stopped. -/
inductive Stage (a : Agenda) (x : Supervisor × Diary) : Prop
  | waiting (runs : Nat) (due : runs = 0 ∨ a.Due runs)
    (stands : a.Stands .ready runs (a.startOf runs) x)
  | making (runs : Nat) (due : a.Due runs) (stands : a.Stands .running runs (a.startOf runs) x)
  | pausing (runs : Nat) (due : a.Due runs)
    (stands : a.Stands .resting (runs + 1) (a.endOf runs) x)
  | leaving (phase : SupervisorPhase) (runs time : Nat) (due : ∀ i < runs, a.Due i)
    (out : phase = .ready ∨ phase = .stopped)
    (late : ∃ cancellation ∈ a.cancelAt, cancellation ≤ time ∧ a.ReturnAt cancellation time)
    (stands : a.Stands phase runs time x)

/-- The end of a run that cancellation falls into, or a cancellation in the pause behind it, is the
time of the return. -/
lemma returnAt_max (a : Agenda) {i cancellation : Nat} (hstart : a.startOf i < cancellation)
    (hpause : cancellation < a.startOf (i + 1)) :
    a.ReturnAt cancellation (max (a.endOf i) cancellation) := by
  rcases Nat.lt_or_ge (a.endOf i) cancellation with hended | hrunning
  · rw [Nat.max_eq_right (Nat.le_of_lt hended)]
    exact .inPause i hended hpause
  · rw [Nat.max_eq_left hrunning]
    exact .afterRun i hstart hrunning

/-- **A step leads from stage to stage**, as long as the work is not cancelled at the very end of a
pause. -/
lemma Stage.stepIn (apart : ∀ i, a.cancelAt ≠ some (a.startOf (i + 1))) (h : a.Stage x) :
    a.Stage (Supervisor.stepIn a.surroundings x) := by
  cases h with
  | waiting runs due stands =>
    cases hcancelled : a.cancelledAt (a.startOf runs) with
    | false => exact .making runs hcancelled (stands.begins hcancelled)
    | true =>
      obtain rfl : runs = 0 := due.resolve_right (by simp [Due, hcancelled])
      obtain ⟨cancellation, hmem, hle⟩ := (a.cancelledAt_iff _).1 hcancelled
      exact .leaving .stopped 0 _ (by simp) (.inr rfl) ⟨cancellation, hmem, hle, .atOnce hle⟩
        (stands.stops hcancelled)
  | making runs due stands =>
    rcases stands.ends with hpause | ⟨hcancelled, hready⟩
    · exact .pausing runs due hpause
    · obtain ⟨cancellation, hmem, hle⟩ := (a.cancelledAt_iff _).1 hcancelled
      have hstart := (a.cancelledAt_eq_false_iff _).1 due cancellation hmem
      exact .leaving .ready (runs + 1) _ (fun i hi => due.earlier (Nat.le_of_lt_succ hi)) (.inl rfl)
        ⟨cancellation, hmem, hle, .afterRun runs hstart hle⟩ hready
  | pausing runs due stands =>
    by_cases hnext : a.Due (runs + 1)
    · exact .waiting (runs + 1) (.inr hnext) (stands.rested hnext)
    · rw [Due, Bool.not_eq_false, cancelledAt_iff] at hnext
      obtain ⟨cancellation, hmem, hle⟩ := hnext
      have hstart := (a.cancelledAt_eq_false_iff _).1 due cancellation hmem
      have hcut : cancellation < a.startOf (runs + 1) :=
        Nat.lt_of_le_of_ne hle fun heq => apart runs (heq ▸ hmem)
      exact .leaving .ready (runs + 1) _ (fun i hi => due.earlier (Nat.le_of_lt_succ hi)) (.inl rfl)
        ⟨cancellation, hmem, Nat.le_max_right _ _, a.returnAt_max hstart hcut⟩
        (stands.cut hmem hcut)
  | leaving phase runs time due out late stands =>
    rcases out with rfl | rfl
    · obtain ⟨cancellation, hmem, hle, hreturn⟩ := late
      exact .leaving .stopped runs time due (.inr rfl) ⟨cancellation, hmem, hle, hreturn⟩
        (stands.stops ((a.cancelledAt_iff _).2 ⟨cancellation, hmem, hle⟩))
    · rw [Supervisor.stepIn_of_stopped a.surroundings stands.phase]
      exact .leaving .stopped runs time due (.inr rfl) late stands

end

/-- The supervisor after some steps is what its steps make of a fresh one. -/
lemma after_eq_iterate (a : Agenda) (name : String) (steps : Nat) :
    a.after name steps = (Supervisor.stepIn a.surroundings)^[steps]
      ({ name, backoffMs := a.backoffMs }, a.opening) :=
  Supervisor.run_eq_iterate a.surroundings steps
    ({ name, backoffMs := a.backoffMs }, a.opening)

lemma after_succ (a : Agenda) (name : String) (steps : Nat) :
    a.after name (steps + 1) = Supervisor.stepIn a.surroundings (a.after name steps) := by
  rw [after_eq_iterate, after_eq_iterate, Function.iterate_succ_apply']

lemma stands_zero (a : Agenda) (name : String) :
    a.Stands .ready 0 (a.startOf 0) (a.after name 0) :=
  ⟨rfl, rfl, a.kept_opening⟩

/-- **The supervisor is at one of the stages**, after however many steps.

**Proof sketch.** Induction on the steps. A fresh supervisor waits for the first run, and a step
leads from stage to stage. -/
theorem stage_after (a : Agenda) (name : String)
    (apart : ∀ i, a.cancelAt ≠ some (a.startOf (i + 1))) (steps : Nat) :
    a.Stage (a.after name steps) := by
  induction steps with
  | zero => exact .waiting 0 (.inl rfl) (a.stands_zero name)
  | succ steps ih =>
    rw [after_succ]
    exact ih.stepIn apart

/-- The supervisor has returned exactly when its phase is the last one. -/
lemma returned_iff (a : Agenda) (name : String) (steps : Nat) :
    a.Returned name steps ↔ (a.after name steps).1.phase = .stopped := by
  rw [Returned, after_succ, Supervisor.stepIn_eq_self_iff]

/-! ## What the supervisor comes to -/

section

variable {a : Agenda} {x : Supervisor × Diary}

/-- At each stage the runs that have been made were due. -/
lemma Stage.kept (h : a.Stage x) :
    ∃ runs time, (∀ i < runs, a.Due i) ∧ a.Kept runs time x.2 := by
  cases h with
  | waiting runs due stands =>
    refine ⟨runs, _, fun i hi => ?_, stands.kept⟩
    exact (due.resolve_left (Nat.ne_of_gt (Nat.zero_lt_of_lt hi))).earlier (Nat.le_of_lt hi)
  | making runs due stands =>
    exact ⟨runs, _, fun i hi => due.earlier (Nat.le_of_lt hi), stands.kept⟩
  | pausing runs due stands =>
    exact ⟨runs + 1, _, fun i hi => due.earlier (Nat.le_of_lt_succ hi), stands.kept⟩
  | leaving phase runs time due out late stands => exact ⟨runs, time, due, stands.kept⟩

/-- A supervisor that has stopped did so at its time. -/
lemma Stage.late (h : a.Stage x) (hphase : x.1.phase = .stopped) :
    ∃ cancellation ∈ a.cancelAt,
      cancellation ≤ x.2.table.now ∧ a.ReturnAt cancellation x.2.table.now := by
  cases h with
  | waiting runs due stands => exact absurd (stands.phase.symm.trans hphase) (by decide)
  | making runs due stands => exact absurd (stands.phase.symm.trans hphase) (by decide)
  | pausing runs due stands => exact absurd (stands.phase.symm.trans hphase) (by decide)
  | leaving phase runs time due out late stands => rwa [stands.kept.now]

end

/-- A run that is due finds the supervisor ready for it, after three steps for each run before. -/
lemma stands_of_due (a : Agenda) (name : String) {i : Nat} (due : i = 0 ∨ a.Due i) :
    a.Stands .ready i (a.startOf i) (a.after name (3 * i)) := by
  induction i with
  | zero => exact a.stands_zero name
  | succ i ih =>
    have hdue : a.Due (i + 1) := due.resolve_left (Nat.succ_ne_zero i)
    have hbefore : a.Due i := hdue.earlier (Nat.le_succ i)
    have hpausing := ((ih (.inr hbefore)).begins hbefore).ends.resolve_right (by
      rintro ⟨hcancelled, -⟩
      have := a.cancelledAt_mono (Nat.le_add_right _ a.backoffMs) hcancelled
      rw [← a.startOf_succ, hdue] at this
      exact Bool.noConfusion this)
    rw [show 3 * (i + 1) = 3 * i + 1 + 1 + 1 by omega, after_succ, after_succ, after_succ]
    exact hpausing.rested hdue

/-- It comes to its end in two more steps. -/
lemma ends_of_due (a : Agenda) (name : String) {i : Nat} (due : a.Due i) :
    a.Stands .resting (i + 1) (a.endOf i) (a.after name (3 * i + 1 + 1)) ∨
      a.cancelledAt (a.endOf i) = true ∧
        a.Stands .ready (i + 1) (a.endOf i) (a.after name (3 * i + 1 + 1)) := by
  rw [after_succ, after_succ]
  exact ((a.stands_of_due name (.inr due)).begins due).ends

/-- A supervisor that is cancelled during a run or the pause behind it stops at the end of the run
or with the cancellation, whichever is later. -/
lemma exists_stopped (a : Agenda) (name : String) {i cancellation : Nat}
    (hat : a.cancelAt = some cancellation) (hstart : a.startOf i < cancellation)
    (hpause : cancellation < a.startOf (i + 1)) :
    ∃ steps, a.Stands .stopped (i + 1) (max (a.endOf i) cancellation) (a.after name steps) := by
  have hcancelled : ∀ {time}, cancellation ≤ time → a.cancelledAt time = true :=
    fun hle => (a.cancelledAt_iff _).2 ⟨cancellation, hat, hle⟩
  have due : a.Due i := by
    rw [Due, cancelledAt_eq_false_iff]
    intro other hother
    rwa [← Option.some.inj (hat.symm.trans hother)]
  rcases a.ends_of_due name due with hpausing | ⟨hended, hready⟩
  · refine ⟨3 * i + 1 + 1 + 1 + 1, ?_⟩
    rw [after_succ, after_succ]
    exact (hpausing.cut hat hpause).stops (hcancelled (Nat.le_max_right _ _))
  · obtain ⟨other, hother, hle⟩ := (a.cancelledAt_iff _).1 hended
    rw [← Option.some.inj (hat.symm.trans hother)] at hle
    refine ⟨3 * i + 1 + 1 + 1, ?_⟩
    rw [after_succ, Nat.max_eq_left hle]
    exact hready.stops hended

/-- The runs that are made. -/
lemma makes_iff (a : Agenda) (name : String)
    (apart : ∀ i, a.cancelAt ≠ some (a.startOf (i + 1))) (i : Nat) (span : Nat × Nat) :
    a.Makes name i span ↔ a.Due i ∧ span = a.span i := by
  constructor
  · rintro ⟨steps, hspan⟩
    obtain ⟨runs, time, hdue, hkept⟩ := (a.stage_after name apart steps).kept
    rw [hkept.spans, List.getElem?_map, Option.map_eq_some_iff] at hspan
    obtain ⟨j, hj, rfl⟩ := hspan
    obtain ⟨hruns, rfl⟩ := List.getElem?_eq_some_iff.1 hj
    simp only [List.length_range] at hruns
    simp only [List.getElem_range]
    exact ⟨hdue i hruns, trivial⟩
  · rintro ⟨hdue, rfl⟩
    have hkept : ∃ time, a.Kept (i + 1) time (a.after name (3 * i + 1 + 1)).2 := by
      rcases a.ends_of_due name hdue with h | ⟨-, h⟩
      · exact ⟨_, h.kept⟩
      · exact ⟨_, h.kept⟩
    obtain ⟨time, hkept⟩ := hkept
    refine ⟨3 * i + 1 + 1, ?_⟩
    rw [hkept.spans]
    simp

/-- The time of the return. -/
lemma returns_iff (a : Agenda) (name : String) (pause : 1 ≤ a.backoffMs)
    (apart : ∀ i, a.cancelAt ≠ some (a.startOf (i + 1))) (time : Nat) :
    a.Returns name time ↔ ∃ cancellation ∈ a.cancelAt, a.ReturnAt cancellation time := by
  have returns : ∀ {runs time steps}, a.Stands .stopped runs time (a.after name steps) →
      a.Returns name time :=
    fun stands => ⟨_, (a.returned_iff name _).2 stands.phase, stands.kept.now⟩
  constructor
  · rintro ⟨steps, hreturned, rfl⟩
    obtain ⟨cancellation, hmem, -, hreturn⟩ :=
      (a.stage_after name apart steps).late ((a.returned_iff name steps).1 hreturned)
    exact ⟨cancellation, hmem, hreturn⟩
  · rintro ⟨cancellation, hat, hreturn⟩
    cases hreturn with
    | atOnce early =>
      have hstopped := (a.stands_zero name).stops
        ((a.cancelledAt_iff _).2 ⟨cancellation, hat, early⟩)
      rw [← after_succ] at hstopped
      exact returns hstopped
    | afterRun i started running =>
      have hpause := Nat.lt_of_le_of_lt running (Nat.lt_add_of_pos_right pause)
      rw [← startOf_succ] at hpause
      obtain ⟨steps, hstopped⟩ := a.exists_stopped name hat started hpause
      rw [Nat.max_eq_left running] at hstopped
      exact returns hstopped
    | inPause i ended pausing =>
      have hstart := Nat.lt_of_le_of_lt (Nat.le_add_right (a.startOf i) _) ended
      obtain ⟨steps, hstopped⟩ := a.exists_stopped name hat hstart pausing
      rw [Nat.max_eq_right (Nat.le_of_lt ended)] at hstopped
      exact returns hstopped

/-- The law of the schedule holds as long as there is a pause and the work is not cancelled at the
very end of one. -/
lemma law (a : Agenda) (name : String) (pause : 1 ≤ a.backoffMs)
    (apart : ∀ i, a.cancelAt ≠ some (a.startOf (i + 1))) : a.Law name where
  makes_iff i span := by
    rw [a.makes_iff name apart, Due, cancelledAt_eq_false_iff]
    rfl
  apart hij hearlier hlater := by
    obtain ⟨-, rfl⟩ := (a.makes_iff name apart _ _).1 hearlier
    obtain ⟨-, rfl⟩ := (a.makes_iff name apart _ _).1 hlater
    exact a.endOf_add_le_startOf hij
  returns_iff := a.returns_iff name pause apart
  returned steps hreturned := by
    have hphase := (a.returned_iff name steps).1 hreturned
    obtain ⟨cancellation, hmem, hle, -⟩ := (a.stage_after name apart steps).late hphase
    refine ⟨?_, cancellation, hmem, hle⟩
    rw [Supervisor.state, hphase]
  running steps hrunning := by
    rw [returned_iff] at hrunning
    unfold Supervisor.state
    split
    · exact absurd ‹_› hrunning
    all_goals rfl

/-- The endings of the runs do not enter into their times. -/
lemma startOf_endings (a : Agenda) (endings : Nat → RunEnd String) (i : Nat) :
    ({ a with endings } : Agenda).startOf i = a.startOf i := by
  induction i with
  | zero => rfl
  | succ i ih => simp only [startOf, ih]

/-- Nor do they enter into the times of the return. -/
lemma ReturnAt.endings {a : Agenda} (endings : Nat → RunEnd String) {cancellation time : Nat}
    (h : a.ReturnAt cancellation time) :
    ({ a with endings } : Agenda).ReturnAt cancellation time := by
  have hend : ∀ i, ({ a with endings } : Agenda).endOf i = a.endOf i :=
    fun i => congrArg (· + a.durations i) (a.startOf_endings endings i)
  cases h with
  | atOnce early => exact .atOnce early
  | afterRun i started running =>
    rw [← a.startOf_endings endings] at started
    rw [← hend] at running ⊢
    exact .afterRun i started running
  | inPause i ended pausing =>
    rw [← hend] at ended
    rw [← a.startOf_endings endings] at pausing
    exact .inPause i ended pausing

/-- **The schedule.** Whatever the lengths and the endings of the runs, the supervisor makes those
that start before the cancellation, the first at once and each further one exactly a pause after
the end of the one before; it returns at the end of the run that cancellation falls into, or with
the cancellation when that falls into a pause, and shows that it is running until then. With other
endings it would make the same runs at the same times and return at the same time.

**Proof sketch.** The supervisor is at one of a few stages (`stage_after`), each with its time, so
that no run is made and no return comes at any other time. Conversely three steps lead from one run
to the next that is due, and from the last run that is due a few more lead out. Neither the starts
nor the ends of the runs mention how they end. -/
theorem schedule (a : Agenda) (name : String) (pause : 1 ≤ a.backoffMs)
    (apart : ∀ i, a.cancelAt ≠ some (a.startOf (i + 1))) :
    a.Law name ∧ ∀ endings : Nat → RunEnd String,
      (∀ i span, ({ a with endings } : Agenda).Makes name i span ↔ a.Makes name i span) ∧
        ∀ time, ({ a with endings } : Agenda).Returns name time ↔ a.Returns name time := by
  refine ⟨a.law name pause apart, fun endings => ?_⟩
  let b : Agenda := { a with endings }
  have hstart : ∀ i, b.startOf i = a.startOf i := a.startOf_endings endings
  have other : b.Law name := b.law name pause (by simpa only [hstart] using apart)
  refine ⟨fun i span => ?_, fun time => ?_⟩
  · rw [other.makes_iff, (a.law name pause apart).makes_iff]
    unfold endOf
    rw [hstart]
  · rw [other.returns_iff, (a.law name pause apart).returns_iff]
    have back : ∀ {cancellation}, b.ReturnAt cancellation time → a.ReturnAt cancellation time :=
      ReturnAt.endings a.endings
    exact ⟨fun ⟨cancellation, hmem, h⟩ => ⟨cancellation, hmem, back h⟩,
      fun ⟨cancellation, hmem, h⟩ => ⟨cancellation, hmem, h.endings endings⟩⟩

/-- Runs of 300 milliseconds that fail, break down and succeed in turn, with the usual pause, and
with a cancellation in the second pause. -/
def failing : Agenda where
  durations _ := 300
  endings i :=
    match i % 3 with
    | 0 => .returned (.error "always fails")
    | 1 => .brokeDown (.text "handler exploded")
    | _ => .returned (.ok ())
  backoffMs := defaultBackoffMs
  origin := 0
  cancelAt := some 2500

lemma startOf_failing (i : Nat) : failing.startOf i = 1300 * i := by
  induction i with
  | zero => rfl
  | succ i ih =>
    have : failing.startOf (i + 1) = failing.startOf i + 300 + 1000 := rfl
    omega

/-- The second of these runs starts a pause after the first one has failed, there is no third, and
the supervisor returns with the cancellation. -/
theorem schedule_failing :
    (1 ≤ failing.backoffMs ∧ ∀ i, failing.cancelAt ≠ some (failing.startOf (i + 1))) ∧
      failing.Makes "consumer" 1 (1300, 1600) ∧ (∀ span, ¬ failing.Makes "consumer" 2 span) ∧
      failing.Returns "consumer" 2500 := by
  have pause : 1 ≤ failing.backoffMs := by decide
  have apart : ∀ i, failing.cancelAt ≠ some (failing.startOf (i + 1)) := by
    intro i h
    have := Option.some.inj h
    rw [startOf_failing] at this
    omega
  obtain ⟨law, -⟩ := schedule failing "consumer" pause apart
  refine ⟨⟨pause, apart⟩, ?_, fun span h => ?_, ?_⟩
  · exact (law.makes_iff 1 _).2 ⟨by rintro _ ⟨⟩; decide, rfl⟩
  · have := ((law.makes_iff 2 span).1 h).1 2500 rfl
    exact absurd this (by decide)
  · exact (law.returns_iff 2500).2 ⟨2500, rfl, .inPause 1 (by decide) (by decide)⟩

end Agenda

end PenaltySettlement
