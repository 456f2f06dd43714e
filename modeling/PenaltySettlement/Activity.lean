import PenaltySettlement.Store
import PenaltySettlement.Ledger.Input
import PenaltySettlement.Ledger.Error
import PenaltySettlement.Ledger.Transaction

/-!
# Activities

An activity is work that asks its surroundings for single steps: a step of a store, a call of the
ledger, a look at the clock. What happens elsewhere between two steps is left open, so that one
definition tells how an activity goes on its own and how it goes among others.

The penalties of accounts and the payable resources may be in one store or in two.

## Main definitions

* `Ask`, `Ask.Answer` — the steps and what they give.
* `Activity` — work in such steps.
* `Activity.run` — the activity with all its steps taken.

## Main results

* `Activity.run_bind` — two activities in a row.
* `Activity.run_bind_state` — two activities whose steps act on a state.
-/

set_option autoImplicit false

namespace PenaltySettlement

/-- A step that an activity asks for. -/
inductive Ask where
  | accounts (action : StoreAction)
  | payables (action : StoreAction)
  | confirm (input : PaymentActionInput)
  | transactions (query : TransactionsQuery)
  | time
  deriving DecidableEq, Repr

/-- What a step gives. -/
def Ask.Answer : Ask → Type
  | .accounts action | .payables action => Except StoreError action.Result
  | .confirm _ => Except LedgerError Unit
  | .transactions _ => Except LedgerError TransactionsResponse
  | .time => Instant

/-- Work that ends with a result: nothing is left to do, there is something to report, or a step
has to be taken before the work goes on. -/
inductive Activity (α : Type) where
  | done (result : α)
  | note (entry : LogEntry) (rest : Activity α)
  | ask (question : Ask) (next : question.Answer → Activity α)

namespace Activity

/-- One activity and then another one, which knows the result of the first. -/
def bind {α β : Type} : Activity α → (α → Activity β) → Activity β
  | .done result, next => next result
  | .note entry rest, next => .note entry (rest.bind next)
  | .ask question rest, next => .ask question fun answer => (rest answer).bind next

instance : Monad Activity where
  pure := done
  bind := bind

/-- A single step. -/
def step (question : Ask) : Activity question.Answer := .ask question done

/-- A single report. -/
def report (entry : LogEntry) : Activity Unit := .note entry (.done ())

/-- **The activity with all its steps taken**, one after the other, in surroundings that take
them. -/
def run {m : Type → Type} [Monad m] {α : Type} (take : (question : Ask) → m question.Answer)
    (write : LogEntry → m Unit) : Activity α → m α
  | .done result => pure result
  | .note entry rest => do
    write entry
    run take write rest
  | .ask question next => do
    run take write (next (← take question))

/-! ## Laws -/

@[simp]
theorem pure_eq {α : Type} (result : α) : (pure result : Activity α) = .done result := rfl

@[simp]
theorem done_bind {α β : Type} (result : α) (next : α → Activity β) :
    (Activity.done result) >>= next = next result := rfl

@[simp]
theorem note_bind {α β : Type} (entry : LogEntry) (rest : Activity α) (next : α → Activity β) :
    (Activity.note entry rest) >>= next = .note entry (rest >>= next) := rfl

@[simp]
theorem ask_bind {α β : Type} (question : Ask) (rest : question.Answer → Activity α)
    (next : α → Activity β) :
    (Activity.ask question rest) >>= next = .ask question fun answer => rest answer >>= next :=
  rfl

instance : LawfulMonad Activity :=
  LawfulMonad.mk' Activity
    (by
      intro α x
      induction x with
      | done result => rfl
      | note entry rest ih => exact congrArg (Activity.note entry) ih
      | ask question next ih => exact congrArg (Activity.ask question) (funext ih))
    (by intros; rfl)
    (by
      intro α β γ x f g
      induction x with
      | done result => rfl
      | note entry rest ih => exact congrArg (Activity.note entry) ih
      | ask question next ih => exact congrArg (Activity.ask question) (funext ih))

/-- Two activities in a row are taken in a row. -/
theorem run_bind {m : Type → Type} [Monad m] [LawfulMonad m] {α β : Type}
    (take : (question : Ask) → m question.Answer) (write : LogEntry → m Unit) (x : Activity α)
    (next : α → Activity β) :
    run take write (x >>= next) = run take write x >>= fun a => run take write (next a) := by
  induction x with
  | done result => simp [run]
  | note entry rest ih => simp [run, ih]
  | ask question rest ih => simp [run, ih]

/-! ### Steps that act on a state -/

/-- A way to report where nobody keeps what is reported. -/
def unlogged {σ : Type} : LogEntry → StateM σ Unit := fun _ s => ((), s)

section State

variable {σ α β : Type} (take : (question : Ask) → StateM σ question.Answer)
  (write : LogEntry → StateM σ Unit)

/-- An activity that is over leaves the state. -/
@[simp]
theorem run_done (result : α) (s : σ) : run take write (.done result) s = (result, s) := rfl

/-- What is reported is written before the activity goes on. -/
@[simp]
theorem run_note (entry : LogEntry) (rest : Activity α) (s : σ) :
    run take write (.note entry rest) s = run take write rest (write entry s).2 := rfl

/-- The answer to a step decides how the activity goes on. -/
@[simp]
theorem run_ask (question : Ask) (next : question.Answer → Activity α) (s : σ) :
    run take write (.ask question next) s =
      run take write (next (take question s).1) (take question s).2 := rfl

/-- Two activities in a row are taken in a row, the second one in the state that the first one
leaves. -/
theorem run_bind_state (x : Activity α) (next : α → Activity β) (s : σ) :
    run take write (x >>= next) s =
      run take write (next (run take write x s).1) (run take write x s).2 := by
  rw [run_bind]
  rfl

/-- Without its result, an activity leaves what it leaves with it. -/
theorem run_discard (x : Activity α) (s : σ) :
    (run take write (do let _ ← x) s).2 = (run take write x s).2 := by
  rw [run_bind_state]
  rfl

end State

end Activity

end PenaltySettlement
