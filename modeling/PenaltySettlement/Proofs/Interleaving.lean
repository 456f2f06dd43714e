import Mathlib.Tactic.Common
import PenaltySettlement.PenaltyLookup
import PenaltySettlement.Settlement
import PenaltySettlement.Proofs.StoreSteps

/-!
# Calls at the same time

Any number of calls work on one store at the same time: penalties are looked up, events are
settled, and penalties are marked paid from elsewhere. A call goes on by single steps, and between
two steps of a call the others may take any number of theirs. What the ledger and the clock answer
is left open.

The steps that have been taken are recorded. The record tells everything about a state that has
been reached: the store is what the recorded steps make of the first one, each step has been
answered by the store as it was then, and each call is as far in its activity as its own steps
bring it.

## Main definitions

* `Activity.Follows` — an activity that has got some replies.
* `Call`, `Call.activity` — the calls.
* `Traffic`, `Move` — a store with calls, and how it goes on.
* `Exchange` — a recorded step.
* `Traffic.Recorded` — what a record tells about a state.
* `Ask.Proper`, `ProperSteps` — the steps that calls may ask for; `Ask.Recording` — those of them
  that are taken once the ledger has answered.

## Main results

* `Traffic.Recorded.run` — every state that is reached is as its record tells.
* `Store.find?_after` — the document of an account after recorded steps.
* `Traffic.Recorded.proper` — every recorded step is one that calls may ask for.
-/

set_option autoImplicit false

namespace PenaltySettlement

/-! ## Activities and their replies -/

/-- A step that has been asked for, with its answer. -/
structure Reply where
  question : Ask
  answer : question.Answer

namespace Activity

variable {α β : Type}

/-- **Following an activity.** The activity has asked for certain steps and got these replies, and
something is left to do. -/
def Follows : Activity α → List Reply → Activity α → Prop
  | .done result, replies, rest => replies = [] ∧ rest = .done result
  | .note entry x, replies, rest =>
    replies = [] ∧ rest = .note entry x ∨ x.Follows replies rest
  | .ask question next, replies, rest =>
    replies = [] ∧ rest = .ask question next ∨
      ∃ answer more, replies = ⟨question, answer⟩ :: more ∧ (next answer).Follows more rest

/-- The steps that an activity may ask for are of a certain kind, which may depend on the replies
that it has got before. -/
def Asks (kind : List Reply → Ask → Prop) : List Reply → Activity α → Prop
  | _, .done _ => True
  | past, .note _ rest => Asks kind past rest
  | past, .ask question next =>
    kind past question ∧ ∀ answer, Asks kind (past ++ [⟨question, answer⟩]) (next answer)

/-- Without a reply all of the activity is left. -/
lemma follows_nil (x : Activity α) : x.Follows [] x := by
  cases x with
  | done result => exact ⟨rfl, rfl⟩
  | note entry rest => exact .inl ⟨rfl, rfl⟩
  | ask question next => exact .inl ⟨rfl, rfl⟩

/-- A report needs no reply. -/
lemma Follows.note {x rest : Activity α} {replies : List Reply} {entry : LogEntry}
    (h : x.Follows replies (.note entry rest)) : x.Follows replies rest := by
  induction x generalizing replies with
  | done result => cases h.2
  | note entry' x ih =>
    rcases h with ⟨rfl, h⟩ | h
    · cases h
      exact .inr (follows_nil _)
    · exact .inr (ih h)
  | ask question next ih =>
    rcases h with ⟨-, h⟩ | ⟨answer, more, rfl, h⟩
    · cases h
    · exact .inr ⟨answer, more, rfl, ih answer h⟩

/-- A further reply leaves what comes behind it. -/
lemma Follows.ask {x : Activity α} {replies : List Reply} {question : Ask}
    {next : question.Answer → Activity α} (h : x.Follows replies (.ask question next))
    (answer : question.Answer) :
    x.Follows (replies ++ [⟨question, answer⟩]) (next answer) := by
  induction x generalizing replies with
  | done result => cases h.2
  | note entry x ih =>
    rcases h with ⟨-, h⟩ | h
    · cases h
    · exact .inr (ih h)
  | ask question' next' ih =>
    rcases h with ⟨rfl, h⟩ | ⟨answer', more, rfl, h⟩
    · cases h
      exact .inr ⟨answer, [], rfl, follows_nil _⟩
    · exact .inr ⟨answer', _, rfl, ih answer' h⟩

/-- An activity that is over needs no reply. -/
@[simp]
lemma follows_done {result result' : α} {replies : List Reply} :
    (Activity.done result).Follows replies (.done result') ↔ replies = [] ∧ result' = result := by
  simp [Follows]

/-- An activity with a report is over when the rest of it is. -/
@[simp]
lemma follows_note_done {entry : LogEntry} {x : Activity α} {replies : List Reply} {result : α} :
    (Activity.note entry x).Follows replies (.done result) ↔ x.Follows replies (.done result) := by
  simp [Follows]

/-- An activity that asks for a step is over when what comes behind the reply is. -/
@[simp]
lemma follows_ask_done {question : Ask} {next : question.Answer → Activity α}
    {replies : List Reply} {result : α} :
    (Activity.ask question next).Follows replies (.done result) ↔
      ∃ answer more, replies = ⟨question, answer⟩ :: more ∧
        (next answer).Follows more (.done result) := by
  simp [Follows]

/-- Two activities in a row are over when both are, one after the other. -/
lemma follows_bind_done {x : Activity α} {next : α → Activity β} {replies : List Reply}
    {result : β} :
    (x >>= next).Follows replies (.done result) ↔
      ∃ first more between, replies = first ++ more ∧ x.Follows first (.done between) ∧
        (next between).Follows more (.done result) := by
  induction x generalizing replies with
  | done between =>
    constructor
    · intro h
      exact ⟨[], replies, between, rfl, ⟨rfl, rfl⟩, h⟩
    · rintro ⟨first, more, _, rfl, ⟨rfl, h⟩, hmore⟩
      cases h
      exact hmore
  | note entry x ih =>
    simp only [note_bind, follows_note_done]
    exact ih
  | ask question rest ih =>
    simp only [ask_bind, follows_ask_done]
    constructor
    · rintro ⟨answer, others, rfl, h⟩
      obtain ⟨first, more, between, rfl, hfirst, hmore⟩ := (ih answer).1 h
      exact ⟨⟨question, answer⟩ :: first, more, between, rfl, ⟨answer, first, rfl, hfirst⟩, hmore⟩
    · rintro ⟨_, more, between, rfl, ⟨answer, first, rfl, hfirst⟩, hmore⟩
      exact ⟨answer, first ++ more, rfl, (ih answer).2 ⟨first, more, between, rfl, hfirst, hmore⟩⟩

/-- Two activities in a row ask for what each of them asks for. -/
lemma Asks.bind {kind : List Reply → Ask → Prop} {past : List Reply} {x : Activity α}
    {next : α → Activity β} (hx : Asks kind past x) (hnext : ∀ past a, Asks kind past (next a)) :
    Asks kind past (x >>= next) := by
  induction x generalizing past with
  | done result => exact hnext past result
  | note entry x ih => exact ih hx
  | ask question rest ih => exact ⟨hx.1, fun answer => ih answer (hx.2 answer)⟩

/-- What is of one kind may be of another kind as well. -/
lemma Asks.mono {kind other : List Reply → Ask → Prop} {past : List Reply} {x : Activity α}
    (h : ∀ past question, kind past question → other past question) (hx : Asks kind past x) :
    Asks other past x := by
  induction x generalizing past with
  | done result => trivial
  | note entry x ih => exact ih hx
  | ask question rest ih => exact ⟨h past question hx.1, fun answer => ih answer (hx.2 answer)⟩

/-- What an activity has got replies to is what it may ask for after the earlier ones.

**Proof sketch.** Induction on the activity, with the replies that it has already got as its past:
the first reply is to the step that it asks for, and the others are to what comes behind it. -/
lemma Asks.of_follows {kind : List Reply → Ask → Prop} {past : List Reply} {x rest : Activity α}
    {earlier more : List Reply} {reply : Reply} (hx : Asks kind past x)
    (h : x.Follows (earlier ++ reply :: more) rest) : kind (past ++ earlier) reply.question := by
  induction x generalizing past earlier with
  | done result =>
    have hnil := h.1
    simp at hnil
  | note entry x ih =>
    rcases h with ⟨hnil, -⟩ | h
    · simp at hnil
    · exact ih hx h
  | ask question next ih =>
    rcases h with ⟨hnil, -⟩ | ⟨answer, others, hcons, h⟩
    · simp at hnil
    · cases earlier with
      | nil =>
        obtain ⟨rfl, rfl⟩ := List.cons.inj hcons
        rw [List.append_nil]
        exact hx.1
      | cons first earlier =>
        obtain ⟨rfl, rfl⟩ := List.cons.inj hcons
        have := ih answer (hx.2 answer) h
        rwa [List.append_assoc] at this

end Activity

/-! ## Calls -/

/-- A call: a look at the penalties of an account or at one of them, an event to be settled, or a
penalty to be marked paid. -/
inductive Call where
  | penalties (key : AccountKey)
  | isPaid (key : AccountKey) (reference : String)
  | settle (event : PenaltyPaymentEvent)
  | markPaid (key : AccountKey) (reference : String)
  deriving DecidableEq, Repr

/-- What a call returns. -/
inductive Outcome where
  | penalties (result : Except LookupError AccountPenalties)
  | isPaid (result : Except LookupError (Option Bool))
  | settled (result : Except SettlementError Unit)
  | marked (result : Except StoreError Unit)

/-- **The activity of a call.** -/
def Call.activity : Call → Activity Outcome
  | .penalties key => do return .penalties (← PenaltyLookup.penalties key)
  | .isPaid key reference => do return .isPaid (← PenaltyLookup.isPaid key reference)
  | .settle event => do return .settled (← Settlement.settle event)
  | .markPaid key reference => do return .marked (← Settlement.markPaid key [reference])

/-- A call and what is left of it. -/
structure Ongoing where
  call : Call
  rest : Activity Outcome

/-- **A recorded step** of a call, which is known by its place among the calls. -/
structure Exchange extends Reply where
  caller : Nat
  call : Call

/-- The replies that a caller has got. -/
def repliesOf (caller : Nat) (history : List Exchange) : List Reply :=
  (history.filter (·.caller = caller)).map Exchange.toReply

/-! ## Stores and recorded steps -/

/-- What comes from outside the store, for whoever asks for it. -/
structure Outside where
  confirm : Except LedgerError Unit := .ok ()
  transactions : Except LedgerError TransactionsResponse := .ok .empty
  time : Instant := default

/-- The answer to a step, by a store or from outside. -/
def Outside.answer (outside : Outside) (s : Store) : (question : Ask) → question.Answer
  | .accounts action | .payables action => (s.perform action).outcome
  | .confirm _ => outside.confirm
  | .transactions _ => outside.transactions
  | .time => outside.time

/-- A store after a step. -/
def Ask.effect : Ask → Store → Store
  | .accounts action, s | .payables action, s => (s.perform action).store
  | .confirm _, s | .transactions _, s | .time, s => s

/-- A reply that a store gives, or that comes from outside. -/
def Reply.AnsweredBy (s : Store) (reply : Reply) : Prop :=
  ∃ outside : Outside, reply.answer = outside.answer s reply.question

namespace Store

/-- **A store after recorded steps.** -/
def after (s : Store) (history : List Exchange) : Store :=
  history.foldl (fun s x => x.question.effect s) s

/-- Each recorded step has been answered by the store as it was then. -/
def Served (s : Store) : List Exchange → Prop
  | [] => True
  | x :: history => x.AnsweredBy s ∧ (x.question.effect s).Served history

lemma after_append (s : Store) (history more : List Exchange) :
    s.after (history ++ more) = (s.after history).after more := List.foldl_append

/-- Steps and more steps have been answered one after the other. -/
lemma served_append {s : Store} {history more : List Exchange} :
    s.Served (history ++ more) ↔ s.Served history ∧ (s.after history).Served more := by
  induction history generalizing s with
  | nil => simp [Served, after]
  | cons x history ih =>
    rw [List.cons_append, Served, Served, ih, and_assoc]
    rfl

end Store

/-! ## Traffic -/

/-- **A store with calls**, in the order in which they have come. -/
structure Traffic where
  store : Store
  calls : List Ongoing := []

/-- How it goes on: another call comes, or a call goes on. What that call asks for may have to come
from outside. -/
inductive Move where
  | enter (call : Call)
  | go (caller : Nat) (outside : Outside)

namespace Traffic

/-- The traffic after a move, with the step that has been taken. A call that is over does not go
on. -/
def move (t : Traffic) : Move → Traffic × List Exchange
  | .enter call => ({ t with calls := t.calls ++ [⟨call, call.activity⟩] }, [])
  | .go caller outside =>
    match t.calls[caller]? with
    | none | some ⟨_, .done _⟩ => (t, [])
    | some ⟨call, .note _ rest⟩ => ({ t with calls := t.calls.set caller ⟨call, rest⟩ }, [])
    | some ⟨call, .ask question next⟩ =>
      let answer := outside.answer t.store question
      ({ store := question.effect t.store
         calls := t.calls.set caller ⟨call, next answer⟩ },
        [{ question, answer, caller, call }])

/-- **The traffic after moves**, with the record of all steps. -/
def run (t : Traffic) : List Move → Traffic × List Exchange
  | [] => (t, [])
  | move :: moves =>
    let (t, first) := t.move move
    let (t, others) := t.run moves
    (t, first ++ others)

/-- Moves and then more moves. -/
lemma run_append (t : Traffic) (moves more : List Move) :
    t.run (moves ++ more) =
      (((t.run moves).1.run more).1, (t.run moves).2 ++ ((t.run moves).1.run more).2) := by
  induction moves generalizing t with
  | nil => rfl
  | cons move moves ih => simp [run, ih]

/-- **What a record tells** about a state, if it began with a store and without calls. -/
structure Recorded (start : Store) (history : List Exchange) (t : Traffic) : Prop where
  store : t.store = start.after history
  served : start.Served history
  callers : ∀ x ∈ history, ∃ o, t.calls[x.caller]? = some o ∧ o.call = x.call
  follows : ∀ {i : Nat} {o : Ongoing}, t.calls[i]? = some o →
    o.call.activity.Follows (repliesOf i history) o.rest

/-- At the beginning nothing has been recorded. -/
lemma recorded_nil (start : Store) : Recorded start [] { store := start } where
  store := rfl
  served := trivial
  callers := by simp
  follows := by simp

namespace Recorded

variable {start : Store} {history : List Exchange} {t : Traffic}

/-- A call that has just come has no replies. -/
lemma repliesOf_length (h : Recorded start history t) {i : Nat} (hi : t.calls.length ≤ i) :
    repliesOf i history = [] := by
  rw [repliesOf, List.map_eq_nil_iff, List.filter_eq_nil_iff]
  intro x hx hcaller
  obtain ⟨o, ho, -⟩ := h.callers x hx
  have hlt := (List.getElem?_eq_some_iff.1 ho).1
  have : x.caller = i := of_decide_eq_true hcaller
  omega

/-- Another call changes nothing about the others. -/
lemma enter (h : Recorded start history t) (call : Call) :
    Recorded start history { t with calls := t.calls ++ [⟨call, call.activity⟩] } where
  store := h.store
  served := h.served
  callers := by
    intro x hx
    obtain ⟨o, ho, hcall⟩ := h.callers x hx
    exact ⟨o, by rw [List.getElem?_append_left (List.getElem?_eq_some_iff.1 ho).1, ho], hcall⟩
  follows := by
    intro i o ho
    rcases Nat.lt_or_ge i t.calls.length with hi | hi
    · rw [List.getElem?_append_left hi] at ho
      exact h.follows ho
    · rw [h.repliesOf_length hi]
      rw [List.getElem?_append_right hi, List.getElem?_singleton] at ho
      split at ho
      · cases ho
        exact Activity.follows_nil _
      · cases ho

/-- The callers are known also after one of them has gone on. -/
lemma callers_set (h : Recorded start history t) {caller : Nat} {call : Call}
    {rest next : Activity Outcome} (ho : t.calls[caller]? = some ⟨call, rest⟩) :
    ∀ x ∈ history, ∃ o, (t.calls.set caller ⟨call, next⟩)[x.caller]? = some o ∧
      o.call = x.call := by
  intro x hx
  obtain ⟨o, hx, hcall⟩ := h.callers x hx
  rw [List.getElem?_set]
  split
  · rename_i heq
    subst heq
    rw [ho] at hx
    cases hx
    exact ⟨⟨call, next⟩, by rw [if_pos (List.getElem?_eq_some_iff.1 ho).1], hcall⟩
  · exact ⟨o, hx, hcall⟩

/-- A report leaves the record. -/
lemma note (h : Recorded start history t) {caller : Nat} {call : Call} {entry : LogEntry}
    {rest : Activity Outcome} (ho : t.calls[caller]? = some ⟨call, .note entry rest⟩) :
    Recorded start history { t with calls := t.calls.set caller ⟨call, rest⟩ } where
  store := h.store
  served := h.served
  callers := h.callers_set ho
  follows := by
    intro i o hi
    rw [List.getElem?_set] at hi
    split at hi
    · rename_i heq
      subst heq
      split at hi
      · cases hi
        exact (h.follows ho).note
      · cases hi
    · exact h.follows hi

/-- A step is recorded behind the others. -/
lemma ask (h : Recorded start history t) {caller : Nat} {call : Call} {question : Ask}
    {next : question.Answer → Activity Outcome}
    (ho : t.calls[caller]? = some ⟨call, .ask question next⟩) (outside : Outside) :
    Recorded start
      (history ++ [{ question, answer := outside.answer t.store question, caller, call }])
      { store := question.effect t.store
        calls := t.calls.set caller ⟨call, next (outside.answer t.store question)⟩ } where
  store := by
    rw [Store.after_append, ← h.store]
    rfl
  served := by
    rw [Store.served_append, ← h.store]
    exact ⟨h.served, ⟨outside, rfl⟩, trivial⟩
  callers := by
    intro x hx
    rcases List.mem_append.1 hx with hx | hx
    · exact h.callers_set ho x hx
    · obtain rfl := List.mem_singleton.1 hx
      exact ⟨_, List.getElem?_set_self (List.getElem?_eq_some_iff.1 ho).1, rfl⟩
  follows := by
    intro i o hi
    rw [List.getElem?_set] at hi
    rw [repliesOf, List.filter_append, List.map_append]
    split at hi
    · rename_i heq
      subst heq
      split at hi
      · cases hi
        have := (h.follows ho).ask (outside.answer t.store question)
        simpa [repliesOf] using this
      · cases hi
    · rename_i hne
      have := h.follows hi
      simpa [repliesOf, hne] using this

/-- Every move keeps the record. -/
lemma move (h : Recorded start history t) (move : Move) :
    Recorded start (history ++ (t.move move).2) (t.move move).1 := by
  cases move with
  | enter call =>
    rw [Traffic.move, List.append_nil]
    exact h.enter call
  | go caller outside =>
    rw [Traffic.move]
    rcases ho : t.calls[caller]? with _ | ⟨call, _ | ⟨entry, rest⟩ | ⟨question, next⟩⟩
    · simpa using h
    · simpa using h
    · simpa using h.note ho
    · exact h.ask ho outside

/-- **Every state that is reached is as its record tells.** -/
theorem run (h : Recorded start history t) (moves : List Move) :
    Recorded start (history ++ (t.run moves).2) (t.run moves).1 := by
  induction moves generalizing history t with
  | nil => simpa [Traffic.run] using h
  | cons move moves ih =>
    have := ih (h.move move)
    rwa [List.append_assoc] at this

end Recorded

end Traffic

/-! ## The document of an account -/

/-- What a step makes of the document of an account. -/
def Ask.onAccount (key : AccountKey) : Ask → Option AccountPenalties → Option AccountPenalties
  | .accounts action, kept | .payables action, kept => action.onAccount key kept
  | .confirm _, kept | .transactions _, kept | .time, kept => kept

/-- The document of an account after recorded steps. -/
def documentAfter (key : AccountKey) (kept : Option AccountPenalties) (history : List Exchange) :
    Option AccountPenalties :=
  history.foldl (fun kept x => x.question.onAccount key kept) kept

/-- A step that neither deletes a document nor ends the connection. At the payable resources it
leaves all documents. -/
def Ask.Harmless : Ask → Prop
  | .accounts action => action ≠ .shutDown ∧ ∀ key, action ≠ .deleteAccount key
  | .payables action => action ≠ .shutDown ∧ ∀ key kept, action.onAccount key kept = kept
  | .confirm _ | .transactions _ | .time => True

namespace Store

/-- A harmless step keeps the connection. -/
lemma effect_connected (s : Store) {question : Ask} (h : question.Harmless) :
    (question.effect s).connected = s.connected := by
  cases question with
  | accounts action => exact s.perform_connected h.1
  | payables action => exact s.perform_connected h.1
  | confirm input => rfl
  | transactions query => rfl
  | time => rfl

/-- Harmless steps keep the connection. -/
lemma connected_after {s : Store} {history : List Exchange}
    (harmless : ∀ x ∈ history, x.question.Harmless) :
    (s.after history).connected = s.connected := by
  induction history generalizing s with
  | nil => rfl
  | cons x history ih =>
    have hrest : ∀ y ∈ history, y.question.Harmless := fun y hy =>
      harmless y (List.mem_cons_of_mem x hy)
    show ((x.question.effect s).after history).connected = s.connected
    rw [ih hrest, effect_connected s (harmless x List.mem_cons_self)]

/-- A step has the effect on each account that it should have. -/
lemma effect_find? {s : Store} (h : s.connected = true) {question : Ask} (key : AccountKey) :
    (question.effect s).accounts.find? key = question.onAccount key (s.accounts.find? key) := by
  cases question with
  | accounts action => exact perform_find? h action key
  | payables action => exact perform_find? h action key
  | confirm input => rfl
  | transactions query => rfl
  | time => rfl

/-- **The document of an account** after harmless steps on a connected store. -/
theorem find?_after {s : Store} (h : s.connected = true) {history : List Exchange}
    (harmless : ∀ x ∈ history, x.question.Harmless) (key : AccountKey) :
    (s.after history).accounts.find? key = documentAfter key (s.accounts.find? key) history := by
  induction history generalizing s with
  | nil => rfl
  | cons x history ih =>
    have hrest : ∀ y ∈ history, y.question.Harmless := fun y hy =>
      harmless y (List.mem_cons_of_mem x hy)
    have hconnected := effect_connected s (harmless x List.mem_cons_self)
    show ((x.question.effect s).after history).accounts.find? key = _
    rw [ih (hconnected.trans h) hrest, effect_find? h]
    rfl

end Store

/-! ## What calls ask for -/

/-- The reply of the ledger with the transactions of an account. -/
def Reply.reported (key : AccountKey) (response : TransactionsResponse) : Reply where
  question := .transactions ⟨key.customerCode, key.companyCode⟩
  answer := .ok response

/-- **A step that a call may ask for** after some replies. A document is created only from what the
ledger has reported, and none is deleted. -/
def Ask.Proper (past : List Reply) : Ask → Prop
  | .accounts (.createAccount document) => ∃ key response now,
    .reported key response ∈ past ∧ document = .ofTransactions now key response.data
  | .accounts (.account _) | .accounts (.markPaid _ _ _) => True
  | .payables (.payable _) | .payables (.noteFailure _ _) => True
  | .confirm _ | .transactions _ | .time => True
  | .accounts _ | .payables _ => False

/-- **A step that is taken once the ledger has answered**: penalties are marked, or a failure is
noted. -/
def Ask.Recording : List Reply → Ask → Prop
  | _, .accounts (.markPaid _ _ _) => True
  | _, .payables (.payable _) | _, .payables (.noteFailure _ _) => True
  | _, .time => True
  | _, _ => False

/-- Calls may ask for such steps. -/
lemma Ask.Recording.proper (past : List Reply) (question : Ask) (h : question.Recording past) :
    question.Proper past := by
  cases question with
  | accounts action => cases action <;> trivial
  | payables action => cases action <;> trivial
  | confirm input => trivial
  | transactions query => trivial
  | time => trivial

/-- A step that a call may ask for is harmless. -/
lemma Ask.Proper.harmless {past : List Reply} {question : Ask} (h : question.Proper past) :
    question.Harmless := by
  cases question with
  | accounts action => cases action <;> simp_all [Ask.Proper, Ask.Harmless]
  | payables action =>
    cases action <;> simp_all [Ask.Proper, Ask.Harmless, StoreAction.onAccount]
  | confirm input => trivial
  | transactions query => trivial
  | time => trivial

section

variable (past : List Reply)

/-- Noting a failure asks for such steps. -/
lemma Settlement.noteFailure_asks (key : PayableKey) (action : LedgerAction) :
    Activity.Asks Ask.Recording past (noteFailure key action) := by
  refine ⟨trivial, fun answer => ?_⟩
  rcases answer with e | _ | resource
  · trivial
  · trivial
  · exact ⟨trivial, fun _ => trivial⟩

/-- So does recording a failure of the ledger. -/
lemma Settlement.recordLedgerFailure_asks (event : PenaltyPaymentEvent) (action : LedgerAction) :
    Activity.Asks Ask.Recording past (recordLedgerFailure event action) := by
  refine .bind (noteFailure_asks past event.payable action) fun past noted => ?_
  cases noted <;> trivial

/-- So does marking references. -/
lemma Settlement.markPaid_asks (key : AccountKey) (references : List String) :
    Activity.Asks Ask.Recording past (markPaid key references) := by
  induction references generalizing past with
  | nil => trivial
  | cons reference references ih =>
    refine ⟨trivial, fun time => ⟨trivial, fun answer => ?_⟩⟩
    cases answer with
    | error e => trivial
    | ok done => exact ih _

/-- Settling an event asks for the confirmation of the ledger first, and for such steps then. -/
lemma Settlement.settle_eq_ask (event : PenaltyPaymentEvent) :
    ∃ next, settle event = .ask (.confirm event.confirmation) next ∧
      ∀ past answer, Activity.Asks Ask.Recording past (next answer) := by
  simp only [settle, Activity.step, Activity.ask_bind, Activity.done_bind]
  refine ⟨_, rfl, fun past answer => ?_⟩
  cases answer with
  | error source =>
    exact .bind (x := Activity.report _) trivial fun past _ =>
      .bind (recordLedgerFailure_asks past event .confirm) fun _ _ => trivial
  | ok done =>
    refine .bind (markPaid_asks past event.account event.references) fun past marked => ?_
    cases marked <;> trivial

/-- Settling an event asks for proper steps. -/
lemma Settlement.settle_asks (event : PenaltyPaymentEvent) :
    Activity.Asks Ask.Proper past (settle event) := by
  obtain ⟨next, hnext, hasks⟩ := settle_eq_ask event
  rw [hnext]
  exact ⟨trivial, fun answer => (hasks _ answer).mono Ask.Recording.proper⟩

/-- So does looking up penalties: the document is created from the answer of the ledger. -/
lemma PenaltyLookup.penalties_asks (key : AccountKey) :
    Activity.Asks Ask.Proper past (penalties key) := by
  refine ⟨trivial, fun found => ?_⟩
  rcases found with e | _ | document
  · trivial
  · refine ⟨trivial, fun response => ?_⟩
    cases response with
    | error e => trivial
    | ok response =>
      refine ⟨trivial, fun now => ⟨⟨key, response, now, ?_, rfl⟩, fun kept => ?_⟩⟩
      · simp [Reply.reported]
      · cases kept with
        | error e => trivial
        | ok done =>
          refine ⟨trivial, fun found => ?_⟩
          cases found <;> trivial
  · trivial

/-- **Every call asks for proper steps.** -/
lemma Call.asks (call : Call) : Activity.Asks Ask.Proper past call.activity := by
  cases call with
  | penalties key => exact .bind (PenaltyLookup.penalties_asks past key) fun _ _ => trivial
  | isPaid key reference =>
    refine .bind (.bind (PenaltyLookup.penalties_asks past key) fun past found => ?_)
      fun _ _ => trivial
    cases found <;> trivial
  | settle event => exact .bind (Settlement.settle_asks past event) fun _ _ => trivial
  | markPaid key reference =>
    exact .bind ((Settlement.markPaid_asks past key _).mono Ask.Recording.proper)
      fun _ _ => trivial

end

/-! ## Recorded steps of one caller -/

/-- Where the replies of a caller stand in the record. -/
lemma exists_of_repliesOf_eq {caller : Nat} {history : List Exchange} {earlier more : List Reply}
    {reply : Reply} (h : repliesOf caller history = earlier ++ reply :: more) :
    ∃ before x after, history = before ++ x :: after ∧ x.caller = caller ∧ x.toReply = reply ∧
      repliesOf caller before = earlier ∧ repliesOf caller after = more := by
  obtain ⟨first, others, hfilter, rfl, hothers⟩ := List.map_eq_append_iff.1 h
  obtain ⟨x, rest, rfl, rfl, rfl⟩ := List.map_eq_cons_iff.1 hothers
  obtain ⟨before, tail, rfl, rfl, htail⟩ := List.filter_eq_append_iff.1 hfilter
  obtain ⟨skipped, after, rfl, hskipped, hx, rfl⟩ := List.filter_eq_cons_iff.1 htail
  have hnone : skipped.filter (·.caller = caller) = [] := List.filter_eq_nil_iff.2 hskipped
  refine ⟨before ++ skipped, x, after, by simp, of_decide_eq_true hx, rfl, ?_, rfl⟩
  rw [repliesOf, List.filter_append, hnone, List.append_nil]

/-- A reply of a caller is in the record. -/
lemma exists_of_mem_repliesOf {caller : Nat} {history : List Exchange} {reply : Reply}
    (h : reply ∈ repliesOf caller history) :
    ∃ x ∈ history, x.caller = caller ∧ x.toReply = reply := by
  obtain ⟨x, hx, rfl⟩ := List.mem_map.1 h
  obtain ⟨hx, hcaller⟩ := List.mem_filter.1 hx
  exact ⟨x, hx, of_decide_eq_true hcaller, rfl⟩

/-- **A record of proper steps**: each is proper after the earlier ones of its caller. -/
def ProperSteps (history : List Exchange) : Prop :=
  ∀ before x after, history = before ++ x :: after →
    x.question.Proper (repliesOf x.caller before)

namespace ProperSteps

variable {history more : List Exchange}

/-- The steps are harmless. -/
lemma harmless (h : ProperSteps history) : ∀ x ∈ history, x.question.Harmless := by
  intro x hx
  obtain ⟨before, after, heq⟩ := List.append_of_mem hx
  exact (h before x after heq).harmless

/-- The first steps are proper without the others. -/
lemma of_append (h : ProperSteps (history ++ more)) : ProperSteps history := by
  intro before x after heq
  exact h before x (after ++ more) (by simp [heq])

end ProperSteps

/-- **Every recorded step is proper.** -/
theorem Traffic.Recorded.proper {start : Store} {history : List Exchange} {t : Traffic}
    (h : Recorded start history t) : ProperSteps history := by
  intro before x after heq
  obtain ⟨o, ho, -⟩ := h.callers x (by simp [heq])
  have hfollows := h.follows ho
  have hreplies : repliesOf x.caller history =
      repliesOf x.caller before ++ x.toReply :: repliesOf x.caller after := by
    simp [heq, repliesOf]
  rw [hreplies] at hfollows
  exact (o.call.asks []).of_follows hfollows

end PenaltySettlement
