import PenaltySettlement.Proofs.Interleaving
import PenaltySettlement.Proofs.PayableHistory

/-!
# Notes of failures among other operations

A failure is noted on a payable resource in two steps: the resource is found by its name, and then
it is changed by its identifier. Between the two steps the payment of the resource may be replaced,
and its name may come to stand for another resource. Any number of notes are under way at the same
time, and between their steps the store carries out other operations, each of them in one step.

The steps that have been taken are recorded. No operation is lost to a note: names and identifiers
are what they would be without the notes, a resource has the last payment that was given for it,
and it shows the failure of the last note that was written among those that have found it.

## Main definitions

* `NotedStore`, `NoteMove` — a store with notes that are under way, and how it goes on.
* `NoteStep`, `Store.afterSteps` — a recorded step, and a store after such steps.
* `NotedStore.Recorded` — what a record tells about a state.
* `NoteSteps` — the steps that a note has taken.
* `NotedStore.Kept` — a state that no operation has been lost in.

## Main results

* `NotedStore.Recorded.run` — every state that is reached is as its record tells.
* `Store.find?_afterSteps` — a resource after recorded steps.
* `NotedStore.kept_run` — no operation is lost, whatever the order of the steps is.
-/

set_option autoImplicit false

namespace PenaltySettlement

/-! ## Stores with the same names -/

namespace Store

/-- Stores that agree on everything but the resources themselves. -/
structure SameNames (s s' : Store) : Prop where
  connected : s.connected = s'.connected
  accounts : s.accounts = s'.accounts
  latest : s.latest = s'.latest

/-- An operation makes the same of stores that agree. -/
lemma SameNames.perform {s s' : Store} (h : SameNames s s') (action : StoreAction) :
    SameNames (s.perform action).store (s'.perform action).store := by
  obtain ⟨connected, accounts, payables, latest⟩ := s
  obtain ⟨connected', accounts', payables', latest'⟩ := s'
  obtain ⟨rfl, rfl, rfl⟩ : connected = connected' ∧ accounts = accounts' ∧ latest = latest' :=
    ⟨h.connected, h.accounts, h.latest⟩
  cases connected with
  | false => cases action <;> exact ⟨rfl, rfl, rfl⟩
  | true =>
    cases action with
    | createAccount document =>
      simp only [Store.perform, createAccount, whenConnected, if_true]
      cases accounts.find? document.key <;> exact ⟨rfl, rfl, rfl⟩
    | markPaid key reference time =>
      simp only [Store.perform, markPaid, whenConnected, if_true]
      cases (accounts.find? key).bind fun document => document.markPaid? reference time <;>
        exact ⟨rfl, rfl, rfl⟩
    | _ => exact ⟨rfl, rfl, rfl⟩

end Store

/-! ## Recorded steps -/

/-- **A recorded step**: an operation, or a step of a note, which is known by its place among the
notes. -/
inductive NoteStep where
  | operation (action : StoreAction)
  | step (note : Nat) (reply : Reply)

namespace NoteStep

/-- A store after a step. -/
def effect : NoteStep → Store → Store
  | .operation action, s => (s.perform action).store
  | .step _ reply, s => reply.question.effect s

/-- The operation of a step that is one. -/
def operation? : NoteStep → Option StoreAction
  | .operation action => some action
  | .step _ _ => none

/-- The reply that a note has got. -/
def reply? (note : Nat) : NoteStep → Option Reply
  | .operation _ => none
  | .step other reply => if other = note then some reply else none

/-- The identifier that a step assigns. -/
def assigned? (x : NoteStep) : Option String := x.operation?.bind StoreAction.assigned?

/-- The identifier of the resource that a step creates under a name. -/
def named? (key : PayableKey) (x : NoteStep) : Option String :=
  x.operation?.bind (StoreAction.named? key)

/-- The payment that a step has for an identifier. -/
def payment? (id : String) (x : NoteStep) : Option PaymentDetails :=
  x.operation?.bind (StoreAction.payment? id)

/-- The failure that a step of a note writes on the resource with an identifier. -/
def failure? (id : String) : NoteStep → Option LedgerAction
  | .step _ ⟨.payables (.noteFailure other action), _⟩ => if other = id then some action else none
  | _ => none

/-- A step that is an operation, or a look or a change of a note. -/
inductive Proper : NoteStep → Prop where
  | operation {action : StoreAction} : action.Single → Proper (.operation action)
  | look {note : Nat} {key : PayableKey} {found : Ask.Answer (.payables (.payable key))} :
      Proper (.step note ⟨.payables (.payable key), found⟩)
  | write {note : Nat} {id : String} {action : LedgerAction}
      {done : Ask.Answer (.payables (.noteFailure id action))} :
      Proper (.step note ⟨.payables (.noteFailure id action), done⟩)

/-- Only a creation assigns an identifier. -/
lemma assigned?_eq_some {x : NoteStep} {id : String} :
    x.assigned? = some id ↔ ∃ resource, x = .operation (.createPayable id resource) := by
  cases x with
  | operation action => simp [assigned?, operation?, StoreAction.assigned?_eq_some]
  | step note reply => simp [assigned?, operation?]

/-- A note gets the replies to its own steps. -/
lemma reply?_eq_some {x : NoteStep} {note : Nat} {reply : Reply} :
    x.reply? note = some reply ↔ x = .step note reply := by
  cases x with
  | operation action => simp [reply?]
  | step other reply' => simp [reply?]

/-- What is created under a name gets an identifier. -/
lemma assigned?_of_named? {x : NoteStep} {key : PayableKey} {id : String}
    (h : x.named? key = some id) : x.assigned? = some id := by
  obtain ⟨action, haction, hid⟩ := Option.bind_eq_some_iff.1 h
  rw [assigned?, haction]
  exact StoreAction.assigned?_of_named? hid

/-- A failure is written by a step of a note. -/
lemma failure?_eq_some {x : NoteStep} {id : String} {action : LedgerAction} :
    x.failure? id = some action ↔
      ∃ note done, x = .step note ⟨.payables (.noteFailure id action), done⟩ := by
  constructor
  · intro h
    unfold failure? at h
    split at h
    · obtain ⟨rfl, hother⟩ := Option.ite_none_right_eq_some.1 h
      cases hother
      exact ⟨_, _, rfl⟩
    · cases h
  · rintro ⟨note, done, rfl⟩
    exact if_pos rfl

end NoteStep

namespace Store

/-- **A store after recorded steps.** -/
def afterSteps (s : Store) (record : List NoteStep) : Store :=
  record.foldl (fun s x => x.effect s) s

/-- Each recorded step of a note has been answered by the store as it was then. -/
def Answered (s : Store) : List NoteStep → Prop
  | [] => True
  | x :: record =>
    (∀ note reply, x = .step note reply → reply.answer = Outside.answer {} s reply.question) ∧
      (x.effect s).Answered record

lemma afterSteps_append (s : Store) (record more : List NoteStep) :
    s.afterSteps (record ++ more) = (s.afterSteps record).afterSteps more := List.foldl_append

/-- Steps and more steps have been answered one after the other. -/
lemma answered_append {s : Store} {record more : List NoteStep} :
    s.Answered (record ++ more) ↔ s.Answered record ∧ (s.afterSteps record).Answered more := by
  induction record generalizing s with
  | nil => simp [Answered, afterSteps]
  | cons x record ih =>
    rw [List.cons_append, Answered, Answered, ih, and_assoc]
    rfl

/-! ### Single steps -/

section

variable {s : Store} {x : NoteStep}

/-- A step keeps the connection. -/
lemma connected_effect (proper : x.Proper) : (x.effect s).connected = s.connected := by
  cases proper with
  | @operation action single =>
    have hne : action ≠ .shutDown := by
      rintro rfl
      exact single
    exact s.perform_connected hne
  | look => exact s.perform_connected nofun
  | write => rfl

/-- A step of a note leaves all names. -/
lemma sameNames_step {note : Nat} {reply : Reply} (proper : (NoteStep.step note reply).Proper) :
    SameNames ((NoteStep.step note reply).effect s) s := by
  cases proper with
  | look =>
    simp only [NoteStep.effect, Ask.effect, perform, payable, whenConnected]
    split <;> exact ⟨rfl, rfl, rfl⟩
  | write => exact ⟨rfl, rfl, rfl⟩

/-- **A change by a note** is one of the resource with the identifier and of nothing else. -/
lemma find?_write (id other : String) (action : LedgerAction) :
    (s.noteFailure id action).store.payables.find? other =
      if other = id then (s.payables.find? other).map fun r =>
        { r with e5CommandError := some action }
      else s.payables.find? other :=
  Table.find?_modify _ _ _ _

variable (connected : s.connected = true)

include connected

/-- The names after a step: a new resource takes its name over. -/
lemma latest_effect (proper : x.Proper) (key : PayableKey) :
    (x.effect s).latest.find? key = (x.named? key).or (s.latest.find? key) := by
  cases x with
  | operation action => exact latest_perform connected action key
  | step note reply => rw [(sameNames_step proper).latest]; rfl

/-- A new resource is found under its identifier. -/
lemma find?_effect_create (id : String) (resource : PayableResource) :
    ((NoteStep.operation (.createPayable id resource)).effect s).payables.find? id =
      some { resource with id } := find?_perform_create connected id resource

/-- **A resource after a step** that does not create it. -/
lemma find?_effect (proper : x.Proper) {id : String} (h : x.assigned? ≠ some id) :
    (x.effect s).payables.find? id = (s.payables.find? id).map fun r =>
      { r with
        payment := (x.payment? id).getD r.payment
        e5CommandError := (x.failure? id).or r.e5CommandError } := by
  cases proper with
  | operation single => exact payables_perform connected single h
  | look =>
    simp [NoteStep.effect, Ask.effect, perform, payable, whenConnected, connected,
      NoteStep.payment?, NoteStep.operation?, NoteStep.failure?]
  | @write _ other action =>
    show (s.noteFailure other action).store.payables.find? id = _
    rw [find?_write]
    by_cases hid : id = other
    · simp [NoteStep.payment?, NoteStep.operation?, NoteStep.failure?, hid]
    · simp [NoteStep.payment?, NoteStep.operation?, NoteStep.failure?, hid, Ne.symm hid]

end

/-! ### Steps in a row -/

/-- **Names that resolve**: each name stands for a resource, and each resource is found under its
own identifier. -/
structure Resolves (s : Store) : Prop where
  own : ∀ {id r}, s.payables.find? id = some r → r.id = id
  named : ∀ {key id}, s.latest.find? key = some id → ∃ r, s.payables.find? id = some r

/-- Without resources there is nothing to resolve. -/
lemma resolves_new {accounts : Table AccountKey AccountPenalties} :
    ({ accounts } : Store).Resolves where
  own := nofun
  named := nofun

section

variable {s : Store} (connected : s.connected = true)

include connected

/-- After a step the names still resolve. -/
lemma Resolves.effect (resolves : s.Resolves) {x : NoteStep} (proper : x.Proper) :
    (x.effect s).Resolves where
  own := by
    intro id r hfind
    by_cases h : x.assigned? = some id
    · obtain ⟨created, rfl⟩ := NoteStep.assigned?_eq_some.1 h
      rw [find?_effect_create connected] at hfind
      exact congrArg PayableResource.id (Option.some.inj hfind).symm
    · rw [find?_effect connected proper h] at hfind
      obtain ⟨before, hbefore, rfl⟩ := Option.map_eq_some_iff.1 hfind
      exact resolves.own (r := before) hbefore
  named := by
    intro key id hlatest
    by_cases h : x.assigned? = some id
    · obtain ⟨created, rfl⟩ := NoteStep.assigned?_eq_some.1 h
      exact ⟨_, find?_effect_create connected id created⟩
    · rw [latest_effect connected proper] at hlatest
      cases hnamed : x.named? key with
      | some new =>
        rw [hnamed] at hlatest
        exact absurd ((NoteStep.assigned?_of_named? hnamed).trans hlatest) h
      | none =>
        rw [hnamed] at hlatest
        obtain ⟨r, hr⟩ := resolves.named hlatest
        rw [find?_effect connected proper h, hr]
        exact ⟨_, rfl⟩

variable {record : List NoteStep} (proper : ∀ x ∈ record, x.Proper)

include proper

/-- Steps keep the connection. -/
lemma connected_afterSteps : (s.afterSteps record).connected = true := by
  induction record generalizing s with
  | nil => exact connected
  | cons x record ih =>
    obtain ⟨hx, hrecord⟩ := List.forall_mem_cons.1 proper
    exact ih ((connected_effect hx).trans connected) hrecord

/-- After steps the names still resolve. -/
lemma Resolves.afterSteps (resolves : s.Resolves) : (s.afterSteps record).Resolves := by
  induction record generalizing s with
  | nil => exact resolves
  | cons x record ih =>
    obtain ⟨hx, hrecord⟩ := List.forall_mem_cons.1 proper
    exact ih ((connected_effect hx).trans connected) hrecord (resolves.effect connected hx)

/-- **The names after steps**: each stands for the resource that was created last under it. -/
lemma latest_afterSteps (key : PayableKey) :
    (s.afterSteps record).latest.find? key =
      (record.filterMap (NoteStep.named? key)).getLast?.or (s.latest.find? key) := by
  induction record generalizing s with
  | nil => rfl
  | cons x record ih =>
    obtain ⟨hx, hrecord⟩ := List.forall_mem_cons.1 proper
    show ((x.effect s).afterSteps record).latest.find? key = _
    rw [ih ((connected_effect hx).trans connected) hrecord, latest_effect connected hx,
      getLast?_filterMap_cons, Option.or_assoc]

omit connected in
/-- The notes leave the names and the penalties to the operations. -/
lemma sameNames_afterSteps :
    SameNames (s.afterSteps record) (s.performAll (record.filterMap NoteStep.operation?)) := by
  suffices ∀ s', SameNames s s' →
      SameNames (s.afterSteps record) (s'.performAll (record.filterMap NoteStep.operation?)) from
    this s ⟨rfl, rfl, rfl⟩
  induction record generalizing s with
  | nil => exact fun _ h => h
  | cons x record ih =>
    intro s' h
    obtain ⟨hx, hrecord⟩ := List.forall_mem_cons.1 proper
    cases x with
    | operation action => exact ih hrecord _ (h.perform action)
    | step note reply =>
      have hstep := sameNames_step (s := s) hx
      exact ih hrecord _ ⟨hstep.connected.trans h.connected, hstep.accounts.trans h.accounts,
        hstep.latest.trans h.latest⟩

/-- An identifier that no step assigns has no new resource. -/
lemma find?_afterSteps_none {id : String} (h : ∀ x ∈ record, x.assigned? ≠ some id)
    (hfind : s.payables.find? id = none) : (s.afterSteps record).payables.find? id = none := by
  induction record generalizing s with
  | nil => exact hfind
  | cons x record ih =>
    obtain ⟨hx, hrecord⟩ := List.forall_mem_cons.1 proper
    obtain ⟨hid, hlater⟩ := List.forall_mem_cons.1 h
    refine ih ((connected_effect hx).trans connected) hrecord hlater ?_
    rw [find?_effect connected hx hid, hfind]
    rfl

/-- **A resource after steps** that do not create it again: it has the last payment for its
identifier and the last failure that was written on it. -/
theorem find?_afterSteps {id : String} {r : PayableResource}
    (h : ∀ x ∈ record, x.assigned? ≠ some id) (hfind : s.payables.find? id = some r) :
    (s.afterSteps record).payables.find? id = some { r with
      payment := (record.filterMap (NoteStep.payment? id)).getLast?.getD r.payment
      e5CommandError :=
        (record.filterMap (NoteStep.failure? id)).getLast?.or r.e5CommandError } := by
  induction record generalizing s r with
  | nil => exact hfind
  | cons x record ih =>
    obtain ⟨hx, hrecord⟩ := List.forall_mem_cons.1 proper
    obtain ⟨hid, hlater⟩ := List.forall_mem_cons.1 h
    have hnext := find?_effect connected hx hid
    rw [hfind] at hnext
    have hrest := ih ((connected_effect hx).trans connected) hrecord hlater hnext
    show ((x.effect s).afterSteps record).payables.find? id = _
    rw [hrest, getLast?_filterMap_cons, getLast?_filterMap_cons, Option.getD_or, Option.or_assoc]

end

end Store

/-! ## Notes -/

/-- **The steps that a note has taken**: none, a look for the resource, or the change of the
resource that it has found as well. -/
inductive NoteSteps (key : PayableKey) (action : LedgerAction) : List Reply → Prop where
  | none : NoteSteps key action []
  | look (found : Ask.Answer (.payables (.payable key))) :
      NoteSteps key action [⟨.payables (.payable key), found⟩]
  | write (resource : PayableResource)
      (done : Ask.Answer (.payables (.noteFailure resource.id action))) :
      NoteSteps key action [⟨.payables (.payable key), .ok (some resource)⟩,
        ⟨.payables (.noteFailure resource.id action), done⟩]

/-- The note of a failure takes such steps. -/
lemma NoteSteps.of_follows {key : PayableKey} {action : LedgerAction} {replies : List Reply}
    {rest : Activity (Except StoreError Unit)}
    (h : (Settlement.noteFailure key action).Follows replies rest) :
    NoteSteps key action replies := by
  rcases h with ⟨rfl, -⟩ | ⟨found, more, rfl, h⟩
  · exact .none
  rcases found with e | _ | resource
  · obtain ⟨rfl, -⟩ := h
    exact .look _
  · rcases h with ⟨rfl, -⟩ | ⟨rfl, -⟩ <;> exact .look _
  · rcases h with ⟨rfl, -⟩ | ⟨done, more, rfl, rfl, -⟩
    · exact .look _
    · exact .write resource done

/-- Each step of a note is a look or a change. -/
lemma NoteSteps.proper {key : PayableKey} {action : LedgerAction} {replies : List Reply}
    (h : NoteSteps key action replies) (note : Nat) :
    ∀ reply ∈ replies, (NoteStep.step note reply).Proper := by
  cases h with
  | none => exact fun _ hmem => absurd hmem List.not_mem_nil
  | look found => exact fun _ hmem => List.mem_singleton.1 hmem ▸ .look
  | write resource done =>
    intro reply hmem
    rcases List.mem_cons.1 hmem with rfl | hmem
    · exact .look
    · exact List.mem_singleton.1 hmem ▸ .write

/-- Before the change there is a look that has found the resource. -/
lemma NoteSteps.look_of_change {key : PayableKey} {action changed : LedgerAction} {id : String}
    {done : Ask.Answer (.payables (.noteFailure id changed))} {earlier later : List Reply}
    (h : NoteSteps key action
      (earlier ++ ⟨.payables (.noteFailure id changed), done⟩ :: later)) :
    ∃ resource : PayableResource, resource.id = id ∧
      (⟨.payables (.payable key), .ok (some resource)⟩ : Reply) ∈ earlier := by
  generalize hsteps : earlier ++ (⟨.payables (.noteFailure id changed), done⟩ : Reply) :: later =
    steps at h
  cases h with
  | none => simp at hsteps
  | look found =>
    cases earlier with
    | nil => cases (List.cons.inj hsteps).1
    | cons first earlier => simp at hsteps
  | write resource done' =>
    cases earlier with
    | nil => cases (List.cons.inj hsteps).1
    | cons first earlier =>
      obtain ⟨rfl, hothers⟩ := List.cons.inj hsteps
      cases earlier with
      | nil =>
        cases (List.cons.inj hothers).1
        exact ⟨resource, rfl, List.mem_cons_self⟩
      | cons second earlier => simp at hothers

/-- A note that is under way, and what is left of it. -/
structure PendingNote where
  key : PayableKey
  action : LedgerAction
  rest : Activity (Except StoreError Unit)

/-- **A store with notes** that are under way, in the order in which they were begun. -/
structure NotedStore where
  store : Store
  notes : List PendingNote := []

/-- How it goes on: an operation is carried out, another note is begun, or a note goes on. -/
inductive NoteMove where
  | operate (action : StoreAction)
  | begin (key : PayableKey) (action : LedgerAction)
  | go (note : Nat)

/-- The operation of a move that is one. -/
def NoteMove.operation? : NoteMove → Option StoreAction
  | .operate action => some action
  | .begin _ _ | .go _ => none

/-- An operation is carried out by the move that asks for it. -/
lemma NoteMove.operation?_eq_some {move : NoteMove} {action : StoreAction} :
    move.operation? = some action ↔ move = .operate action := by
  cases move <;> simp [operation?]

namespace NotedStore

/-- The state after a move, with the step that has been taken. A note that is over does not go
on. -/
def move (t : NotedStore) : NoteMove → NotedStore × List NoteStep
  | .operate action =>
    ({ t with store := (t.store.perform action).store }, [.operation action])
  | .begin key action =>
    ({ t with notes := t.notes ++ [⟨key, action, Settlement.noteFailure key action⟩] }, [])
  | .go note =>
    match t.notes[note]? with
    | none | some ⟨_, _, .done _⟩ => (t, [])
    | some ⟨key, action, .note _ rest⟩ =>
      ({ t with notes := t.notes.set note ⟨key, action, rest⟩ }, [])
    | some ⟨key, action, .ask question next⟩ =>
      let answer := Outside.answer {} t.store question
      ({ store := question.effect t.store
         notes := t.notes.set note ⟨key, action, next answer⟩ },
        [.step note ⟨question, answer⟩])

/-- **The state after moves**, with the record of all steps. -/
def run (t : NotedStore) : List NoteMove → NotedStore × List NoteStep
  | [] => (t, [])
  | move :: moves =>
    let (t, first) := t.move move
    let (t, others) := t.run moves
    (t, first ++ others)

/-- **What a record tells** about a state, if it began with a store and without notes. -/
structure Recorded (start : Store) (record : List NoteStep) (t : NotedStore) : Prop where
  store : t.store = start.afterSteps record
  answered : start.Answered record
  known : ∀ {note reply}, .step note reply ∈ record → note < t.notes.length
  follows : ∀ {note p}, t.notes[note]? = some p →
    (Settlement.noteFailure p.key p.action).Follows (record.filterMap (NoteStep.reply? note)) p.rest

/-- At the beginning nothing has been recorded. -/
lemma recorded_nil (start : Store) : Recorded start [] { store := start } where
  store := rfl
  answered := trivial
  known := by simp
  follows := by simp

namespace Recorded

variable {start : Store} {record : List NoteStep} {t : NotedStore}

/-- An operation is recorded behind the other steps. -/
lemma operate (h : Recorded start record t) (action : StoreAction) :
    Recorded start (record ++ [.operation action])
      { t with store := (t.store.perform action).store } where
  store := by
    rw [Store.afterSteps_append, ← h.store]
    rfl
  answered := by
    rw [Store.answered_append]
    exact ⟨h.answered, fun _ _ heq => (nomatch heq), trivial⟩
  known := by
    intro note reply hmem
    rcases List.mem_append.1 hmem with hmem | hmem
    · exact h.known hmem
    · cases List.mem_singleton.1 hmem
  follows := by
    intro note p hp
    have hnone : [NoteStep.operation action].filterMap (NoteStep.reply? note) = [] := rfl
    rw [List.filterMap_append, hnone, List.append_nil]
    exact h.follows hp

/-- A note that has just been begun has taken no steps. -/
lemma begin (h : Recorded start record t) (key : PayableKey) (action : LedgerAction) :
    Recorded start record
      { t with notes := t.notes ++ [⟨key, action, Settlement.noteFailure key action⟩] } where
  store := h.store
  answered := h.answered
  known := by
    intro note reply hmem
    have := h.known hmem
    simp only [List.length_append, List.length_singleton]
    omega
  follows := by
    intro note p hp
    rcases Nat.lt_or_ge note t.notes.length with hlt | hge
    · rw [List.getElem?_append_left hlt] at hp
      exact h.follows hp
    · have hnone : record.filterMap (NoteStep.reply? note) = [] := by
        rw [List.filterMap_eq_nil_iff]
        rintro (_ | ⟨other, reply⟩) hmem
        · rfl
        · have := h.known hmem
          exact if_neg (by omega)
      rw [List.getElem?_append_right hge, List.getElem?_singleton] at hp
      split at hp
      · cases hp
        rw [hnone]
        exact Activity.follows_nil _
      · cases hp

/-- After the move of a note all the others are as they were. -/
lemma follows_set (h : Recorded start record t) {note : Nat} {p : PendingNote}
    {replies : List Reply} {rest : Activity (Except StoreError Unit)} (taken : List NoteStep)
    (own : taken.filterMap (NoteStep.reply? note) = replies)
    (others : ∀ other ≠ note, taken.filterMap (NoteStep.reply? other) = [])
    (hrest : (Settlement.noteFailure p.key p.action).Follows
      (record.filterMap (NoteStep.reply? note) ++ replies) rest)
    {other : Nat} {q : PendingNote}
    (hq : (t.notes.set note ⟨p.key, p.action, rest⟩)[other]? = some q) :
    (Settlement.noteFailure q.key q.action).Follows
      ((record ++ taken).filterMap (NoteStep.reply? other)) q.rest := by
  rw [List.filterMap_append]
  rw [List.getElem?_set] at hq
  split at hq
  · rename_i heq
    subst heq
    split at hq
    · cases hq
      rw [own]
      exact hrest
    · cases hq
  · rename_i hne
    rw [others other (Ne.symm hne), List.append_nil]
    exact h.follows hq

/-- A report leaves the record. -/
lemma note (h : Recorded start record t) {note : Nat} {key : PayableKey} {action : LedgerAction}
    {entry : LogEntry} {rest : Activity (Except StoreError Unit)}
    (hp : t.notes[note]? = some ⟨key, action, .note entry rest⟩) :
    Recorded start record { t with notes := t.notes.set note ⟨key, action, rest⟩ } where
  store := h.store
  answered := h.answered
  known := fun hmem => by simpa using h.known hmem
  follows := by
    intro other q hq
    have hrest : (Settlement.noteFailure key action).Follows
        (record.filterMap (NoteStep.reply? note) ++ []) rest := by
      rw [List.append_nil]
      exact (h.follows hp).note
    have hfollows := h.follows_set (p := ⟨key, action, .note entry rest⟩) [] rfl
      (fun _ _ => rfl) hrest hq
    rwa [List.append_nil] at hfollows

/-- A step of a note is recorded behind the other steps. -/
lemma ask (h : Recorded start record t) {note : Nat} {key : PayableKey} {action : LedgerAction}
    {question : Ask} {next : question.Answer → Activity (Except StoreError Unit)}
    (hp : t.notes[note]? = some ⟨key, action, .ask question next⟩) :
    Recorded start
      (record ++ [.step note ⟨question, Outside.answer {} t.store question⟩])
      { store := question.effect t.store
        notes := t.notes.set note ⟨key, action, next (Outside.answer {} t.store question)⟩ } where
  store := by
    rw [Store.afterSteps_append, ← h.store]
    rfl
  answered := by
    rw [Store.answered_append, ← h.store]
    refine ⟨h.answered, ?_, trivial⟩
    rintro other reply heq
    cases heq
    rfl
  known := by
    intro other reply hmem
    rw [List.length_set]
    rcases List.mem_append.1 hmem with hmem | hmem
    · exact h.known hmem
    · cases List.mem_singleton.1 hmem
      exact (List.getElem?_eq_some_iff.1 hp).1
  follows := by
    intro other q hq
    refine h.follows_set (p := ⟨key, action, .ask question next⟩) _ ?_ ?_
      ((h.follows hp).ask _) hq
    · simp [NoteStep.reply?]
    · intro other hne
      simp [NoteStep.reply?, Ne.symm hne]

/-- Every move keeps the record. -/
lemma move (h : Recorded start record t) (move : NoteMove) :
    Recorded start (record ++ (t.move move).2) (t.move move).1 := by
  cases move with
  | operate action => exact h.operate action
  | begin key action =>
    rw [NotedStore.move, List.append_nil]
    exact h.begin key action
  | go note =>
    rw [NotedStore.move]
    rcases hp : t.notes[note]? with _ | ⟨key, action, _ | ⟨entry, rest⟩ | ⟨question, next⟩⟩
    · simpa using h
    · simpa using h
    · simpa using h.note hp
    · exact h.ask hp

/-- **Every state that is reached is as its record tells.** -/
theorem run (h : Recorded start record t) (moves : List NoteMove) :
    Recorded start (record ++ (t.run moves).2) (t.run moves).1 := by
  induction moves generalizing record t with
  | nil => simpa [NotedStore.run] using h
  | cons move moves ih =>
    have := ih (h.move move)
    rwa [List.append_assoc] at this

end Recorded

/-- The operations that are recorded are those of the moves, in their order. -/
lemma operations_run (t : NotedStore) (moves : List NoteMove) :
    (t.run moves).2.filterMap NoteStep.operation? = moves.filterMap NoteMove.operation? := by
  induction moves generalizing t with
  | nil => rfl
  | cons move moves ih =>
    have hmove : (t.move move).2.filterMap NoteStep.operation? = move.operation?.toList := by
      cases move with
      | operate action => rfl
      | begin key action => rfl
      | go note =>
        rw [NotedStore.move]
        rcases t.notes[note]? with _ | ⟨key, action, _ | ⟨entry, rest⟩ | ⟨question, next⟩⟩ <;> rfl
    show ((t.move move).2 ++ ((t.move move).1.run moves).2).filterMap NoteStep.operation? = _
    rw [List.filterMap_append, hmove, ih]
    cases hoperation : move.operation? with
    | none => rw [List.filterMap_cons_none hoperation]; rfl
    | some action => rw [List.filterMap_cons_some hoperation]; rfl

/-! ## No operation is lost -/

end NotedStore

/-- **A change by a note**: a store has got a failure on the resource with an identifier and is
otherwise as it was. -/
structure Store.GetsNote (id : String) (action : LedgerAction) (s s' : Store) : Prop where
  names : Store.SameNames s' s
  resource : s'.payables.find? id = (s.payables.find? id).map fun r =>
    { r with e5CommandError := some action }
  others : ∀ other ≠ id, s'.payables.find? other = s.payables.find? other

namespace NotedStore

/-- **A state that no operation has been lost in.** Each recorded step of a note is one of its look
and its change. The look finds the resource that was created last under the name, and the change is
one of the failure of that resource.

Names, identifiers and penalties are what the operations alone would make them. A resource has the
last payment for its identifier, and the failure of the last change by a note that has found it. -/
structure Kept (start : Store) (record : List NoteStep) (t : NotedStore) : Prop where
  known : ∀ {note reply}, .step note reply ∈ record → ∃ p, t.notes[note]? = some p
  notes : ∀ {note p}, t.notes[note]? = some p →
    NoteSteps p.key p.action (record.filterMap (NoteStep.reply? note))
  looks : ∀ {before note key answer later},
    record = before ++ .step note ⟨.payables (.payable key), answer⟩ :: later →
    ∃ found, answer = .ok found ∧
      found.map PayableResource.id = (before.filterMap (NoteStep.named? key)).getLast?
  changes : ∀ {before note id action done later},
    record = before ++ .step note ⟨.payables (.noteFailure id action), done⟩ :: later →
    Store.GetsNote id action (start.afterSteps before)
      (start.afterSteps (before ++ [.step note ⟨.payables (.noteFailure id action), done⟩]))
  alone : Store.SameNames t.store (start.performAll (record.filterMap NoteStep.operation?))
  names : ∀ key, t.store.latest.find? key = (record.filterMap (NoteStep.named? key)).getLast?
  answers : ∀ key, (t.store.payable key).outcome = .ok
    ((record.filterMap (NoteStep.named? key)).getLast?.bind t.store.payables.find?)
  identifiers : ∀ {id}, (t.store.payables.find? id).isSome ↔
    ∃ resource, .operation (.createPayable id resource) ∈ record
  resources : ∀ {before id resource later},
    record = before ++ .operation (.createPayable id resource) :: later →
    t.store.payables.find? id = some { resource with
      id
      payment := (later.filterMap (NoteStep.payment? id)).getLast?.getD resource.payment
      e5CommandError :=
        (record.filterMap (NoteStep.failure? id)).getLast?.or resource.e5CommandError }

namespace Recorded

variable {start : Store} {record : List NoteStep} {t : NotedStore}

/-- A note has taken the steps of a note. -/
lemma noteSteps (h : Recorded start record t) {note : Nat} {p : PendingNote}
    (hp : t.notes[note]? = some p) :
    NoteSteps p.key p.action (record.filterMap (NoteStep.reply? note)) :=
  .of_follows (h.follows hp)

/-- Each step of a note is one of a note that is known. -/
lemma exists_note (h : Recorded start record t) {note : Nat} {reply : Reply}
    (hmem : .step note reply ∈ record) : ∃ p, t.notes[note]? = some p :=
  ⟨_, List.getElem?_eq_getElem (h.known hmem)⟩

/-- Each step of a note is a look or a change. -/
lemma proper_step (h : Recorded start record t) {note : Nat} {reply : Reply}
    (hmem : .step note reply ∈ record) : (NoteStep.step note reply).Proper := by
  obtain ⟨p, hp⟩ := h.exists_note hmem
  exact (h.noteSteps hp).proper note reply (List.mem_filterMap.2 ⟨_, hmem, if_pos rfl⟩)

/-- Where the operations take one step each, every recorded step is one of them or one of a note. -/
lemma proper (h : Recorded start record t)
    (single : ∀ action, .operation action ∈ record → action.Single) :
    ∀ x ∈ record, x.Proper := by
  rintro (action | ⟨note, reply⟩) hmem
  · exact .operation (single action hmem)
  · exact h.proper_step hmem

/-- Before a change by a note there is a look that has found the resource. -/
lemma look_of_change (h : Recorded start record t) {before later : List NoteStep} {note : Nat}
    {id : String} {action : LedgerAction} {done : Ask.Answer (.payables (.noteFailure id action))}
    (hrecord : record = before ++ .step note ⟨.payables (.noteFailure id action), done⟩ :: later) :
    ∃ key resource first between, resource.id = id ∧
      before = first ++ .step note ⟨.payables (.payable key), .ok (some resource)⟩ :: between := by
  obtain ⟨p, hp⟩ := h.exists_note (hrecord ▸ List.mem_append_right _ List.mem_cons_self)
  have hsteps := h.noteSteps hp
  rw [hrecord, List.filterMap_append,
    List.filterMap_cons_some (NoteStep.reply?_eq_some.2 rfl)] at hsteps
  obtain ⟨resource, hid, hlook⟩ := hsteps.look_of_change
  obtain ⟨look, hlook, hreply⟩ := List.mem_filterMap.1 hlook
  obtain rfl := NoteStep.reply?_eq_some.1 hreply
  obtain ⟨first, between, rfl⟩ := List.append_of_mem hlook
  exact ⟨p.key, resource, first, between, hid, rfl⟩

/-- **What a look finds**: the resource that was created last under the name. -/
lemma looks (h : Recorded start record t) (proper : ∀ x ∈ record, x.Proper)
    (connected : start.connected = true) (resolves : start.Resolves) {before later : List NoteStep}
    {note : Nat} {key : PayableKey} {answer : Ask.Answer (.payables (.payable key))}
    (hrecord : record = before ++ .step note ⟨.payables (.payable key), answer⟩ :: later) :
    ∃ found : Option PayableResource, answer = .ok found ∧ found.map PayableResource.id =
      ((before.filterMap (NoteStep.named? key)).getLast?.or (start.latest.find? key)) := by
  subst hrecord
  have hbefore : ∀ x ∈ before, x.Proper := fun x hx => proper x (List.mem_append_left _ hx)
  have hconnected := Store.connected_afterSteps connected hbefore
  have hresolves := resolves.afterSteps connected hbefore
  have hanswer : answer = ((start.afterSteps before).payable key).outcome :=
    (Store.answered_append.1 h.answered).2.1 note _ rfl
  rw [Store.payable, Store.whenConnected, if_pos hconnected] at hanswer
  refine ⟨_, hanswer, ?_⟩
  rw [← Store.latest_afterSteps connected hbefore, Store.latestPayable?]
  cases hlatest : (start.afterSteps before).latest.find? key with
  | none => rfl
  | some id =>
    obtain ⟨r, hr⟩ := hresolves.named hlatest
    rw [Option.bind_some, hr, Option.map_some, hresolves.own hr]

/-- **A change comes after the creation** of its resource, if there were no resources at first.

**Proof sketch.** Before its change a note has looked for the resource and found it, and a look
finds nothing but what has been created. -/
lemma created_of_change {accounts : Table AccountKey AccountPenalties}
    (h : Recorded { accounts } record t) (proper : ∀ x ∈ record, x.Proper)
    {before later : List NoteStep} {x : NoteStep} (hrecord : record = before ++ x :: later)
    {id : String} (hx : (x.failure? id).isSome) :
    ∃ created ∈ before, created.assigned? = some id := by
  obtain ⟨action, haction⟩ := Option.isSome_iff_exists.1 hx
  obtain ⟨note, done, rfl⟩ := NoteStep.failure?_eq_some.1 haction
  obtain ⟨key, resource, first, between, rfl, rfl⟩ := h.look_of_change hrecord
  have hsplit := hrecord.trans (List.append_assoc first _ _)
  obtain ⟨found, hanswer, hid⟩ := h.looks proper rfl Store.resolves_new hsplit
  cases hanswer
  rw [Table.find?_empty, Option.or_none] at hid
  obtain ⟨created, hcreated, hnamed⟩ := List.mem_filterMap.1 (List.mem_of_getLast? hid.symm)
  exact ⟨created, List.mem_append_left _ hcreated, NoteStep.assigned?_of_named? hnamed⟩

/-- Where a resource is created, no other step assigns its identifier. -/
lemma assigned_once {before later : List NoteStep} {id : String} {resource : PayableResource}
    (fresh : ((before ++ .operation (.createPayable id resource) :: later).filterMap
      NoteStep.assigned?).Nodup) :
    (∀ x ∈ before, x.assigned? ≠ some id) ∧ ∀ x ∈ later, x.assigned? ≠ some id := by
  have hid : (NoteStep.operation (.createPayable id resource)).assigned? = some id := rfl
  rw [List.filterMap_append, List.filterMap_cons_some hid, List.nodup_append] at fresh
  obtain ⟨-, hlater, hapart⟩ := fresh
  constructor
  · intro x hx hassigned
    exact hapart id (List.mem_filterMap.2 ⟨x, hx, hassigned⟩) id List.mem_cons_self rfl
  · intro x hx hassigned
    exact (List.nodup_cons.1 hlater).1 (List.mem_filterMap.2 ⟨x, hx, hassigned⟩)

section

variable {accounts : Table AccountKey AccountPenalties}
  (h : Recorded { accounts } record t) (proper : ∀ x ∈ record, x.Proper)
  (fresh : (record.filterMap NoteStep.assigned?).Nodup)

include h proper fresh

/-- **A resource** is what its creation, the later payments and all changes by notes make it. -/
lemma resource {before later : List NoteStep} {id : String} {resource : PayableResource}
    (hrecord : record = before ++ .operation (.createPayable id resource) :: later) :
    t.store.payables.find? id = some { resource with
      id
      payment := (later.filterMap (NoteStep.payment? id)).getLast?.getD resource.payment
      e5CommandError :=
        (record.filterMap (NoteStep.failure? id)).getLast?.or resource.e5CommandError } := by
  have hproper := proper
  rw [hrecord] at fresh hproper
  obtain ⟨hbefore, hlater⟩ := assigned_once fresh
  obtain ⟨properBefore, properRest⟩ := List.forall_mem_append.1 hproper
  obtain ⟨properCreation, properLater⟩ := List.forall_mem_cons.1 properRest
  -- what has not been created has not been changed
  have hchanges : record.filterMap (NoteStep.failure? id) =
      later.filterMap (NoteStep.failure? id) := by
    have hnone : before.filterMap (NoteStep.failure? id) = [] := by
      rw [List.filterMap_eq_nil_iff]
      intro x hx
      by_contra hchange
      obtain ⟨first, between, rfl⟩ := List.append_of_mem hx
      obtain ⟨created, hcreated, hassigned⟩ := h.created_of_change proper
        (hrecord.trans (List.append_assoc first _ _)) (Option.isSome_iff_ne_none.2 hchange)
      exact hbefore created (List.mem_append_left _ hcreated) hassigned
    rw [hrecord, List.filterMap_append, hnone]
    rfl
  have hconnected := Store.connected_afterSteps (s := { accounts }) rfl properBefore
  have hfind := Store.find?_afterSteps ((Store.connected_effect properCreation).trans hconnected)
    properLater hlater (Store.find?_effect_create hconnected id resource)
  rw [h.store, hchanges, hrecord, Store.afterSteps_append]
  exact hfind

/-- **No operation is lost** in a state that is as its record tells. -/
lemma kept : Kept { accounts } record t where
  known := h.exists_note
  notes := h.noteSteps
  looks := by
    intro before note key answer later hrecord
    obtain ⟨found, hanswer, hid⟩ := h.looks proper rfl Store.resolves_new hrecord
    rw [Table.find?_empty, Option.or_none] at hid
    exact ⟨found, hanswer, hid⟩
  changes := by
    intro before note id action done later hrecord
    have hwrite : (NoteStep.step note ⟨.payables (.noteFailure id action), done⟩).Proper := .write
    rw [Store.afterSteps_append]
    exact {
      names := Store.sameNames_step hwrite
      resource := (Store.find?_write id id action).trans (if_pos rfl)
      others := fun other hne => (Store.find?_write id other action).trans (if_neg hne) }
  alone := h.store ▸ Store.sameNames_afterSteps proper
  names := by
    intro key
    rw [h.store, Store.latest_afterSteps rfl proper]
    exact Option.or_none
  answers := by
    intro key
    have hconnected := Store.connected_afterSteps (s := { accounts }) rfl proper
    rw [h.store, Store.payable, Store.whenConnected, if_pos hconnected, Store.latestPayable?,
      Store.latest_afterSteps rfl proper]
    exact congrArg (fun latest => Except.ok (Option.bind latest _)) Option.or_none
  identifiers := by
    intro id
    constructor
    · intro hsome
      by_contra hnone
      have hunassigned : ∀ x ∈ record, x.assigned? ≠ some id := by
        intro x hx hassigned
        obtain ⟨resource, rfl⟩ := NoteStep.assigned?_eq_some.1 hassigned
        exact hnone ⟨resource, hx⟩
      rw [h.store, Store.find?_afterSteps_none rfl proper hunassigned rfl] at hsome
      cases hsome
    · rintro ⟨resource, hmem⟩
      obtain ⟨before, later, hrecord⟩ := List.append_of_mem hmem
      rw [h.resource proper fresh hrecord]
      rfl
  resources := h.resource proper fresh

end

end Recorded

/-- **No operation is lost**, whatever the order of the steps is, if no operation ends the
connection and the identifiers that are assigned differ from each other.

**Proof sketch.** The record tells what each note has done (`Recorded.run`). The names follow the
creations (`Store.latest_afterSteps`), and each resource is told by what follows its creation
(`Store.find?_afterSteps`). A note changes nothing that has not been created before
(`Recorded.created_of_change`), so that all changes of a resource follow its creation. -/
theorem kept_run (accounts : Table AccountKey AccountPenalties) {moves : List NoteMove}
    (single : ∀ action, .operate action ∈ moves → action.Single)
    (fresh : ((moves.filterMap NoteMove.operation?).filterMap StoreAction.assigned?).Nodup) :
    let reached := ({ store := { accounts } } : NotedStore).run moves
    reached.2.filterMap NoteStep.operation? = moves.filterMap NoteMove.operation? ∧
      Kept { accounts } reached.2 reached.1 := by
  intro reached
  have hoperations : reached.2.filterMap NoteStep.operation? =
      moves.filterMap NoteMove.operation? := operations_run _ moves
  have recorded : Recorded { accounts } reached.2 reached.1 := (recorded_nil _).run moves
  generalize reached.2 = record at hoperations recorded
  generalize reached.1 = t at recorded
  refine ⟨hoperations, recorded.kept (recorded.proper ?_) ?_⟩
  · intro action hrecorded
    have hmem : action ∈ record.filterMap NoteStep.operation? :=
      List.mem_filterMap.2 ⟨_, hrecorded, rfl⟩
    rw [hoperations] at hmem
    obtain ⟨move, hmove, haction⟩ := List.mem_filterMap.1 hmem
    cases move with
    | operate other =>
      obtain rfl := Option.some.inj haction
      exact single other hmove
    | begin key noted => cases haction
    | go note => cases haction
  · rwa [← hoperations, List.filterMap_filterMap] at fresh

/-! ### A note that is overtaken -/

/-- A failure is noted on a session while another session takes its name over and its payment is
made. The note reaches the session that it has found. -/
def overtaken : List NoteMove :=
  [.operate (.createPayable "a" Store.Takeover.session), .begin Store.Takeover.key .authorise,
    .go 0, .operate (.createPayable "b" Store.Takeover.session),
    .operate (.updatePayment "a" Store.Takeover.payment), .go 0]

/-- **The session that was overtaken** has its payment and its failure, and the other one is as it
was created. -/
theorem kept_run_overtaken :
    let reached := (({ store := {} } : NotedStore).run overtaken).1.store
    reached.payables.find? "a" = some { Store.Takeover.session with
      id := "a", payment := Store.Takeover.payment, e5CommandError := some .authorise } ∧
    reached.payables.find? "b" = some { Store.Takeover.session with id := "b" } ∧
    reached.latest.find? Store.Takeover.key = some "b" := by
  have single : ∀ action, .operate action ∈ overtaken → action.Single := by
    intro action hmem
    simp only [overtaken, List.mem_cons, NoteMove.operate.injEq, List.not_mem_nil, reduceCtorEq,
      false_or, or_false] at hmem
    rcases hmem with rfl | rfl | rfl <;> trivial
  have fresh : ((overtaken.filterMap NoteMove.operation?).filterMap
      StoreAction.assigned?).Nodup := by decide
  obtain ⟨-, kept⟩ := kept_run .empty single fresh
  have hrecord : (({ store := {} } : NotedStore).run overtaken).2 =
      [.operation (.createPayable "a" Store.Takeover.session),
        .step 0 ⟨.payables (.payable Store.Takeover.key),
          .ok (some { Store.Takeover.session with id := "a" })⟩] ++
      .operation (.createPayable "b" Store.Takeover.session) ::
      [.operation (.updatePayment "a" Store.Takeover.payment),
        .step 0 ⟨.payables (.noteFailure "a" .authorise), .ok ()⟩] := rfl
  exact ⟨kept.resources (List.nil_append _).symm, kept.resources hrecord, kept.names _⟩

end NotedStore

end PenaltySettlement
