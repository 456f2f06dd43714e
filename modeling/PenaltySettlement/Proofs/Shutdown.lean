import Mathlib.Data.List.Induction
import PenaltySettlement.Proofs.FailureNotes
import PenaltySettlement.Proofs.SettlementOutcome

/-!
# The end of a connection

Whoever holds a store may shut it down, and all who hold it share what becomes of it. From then on
every operation fails at its first step and leaves the records as they are, so that no record ever
changes again. Before that, no operation fails.

An operation that takes two steps may have taken the first one when the store is shut down. This is
the note of a failure, and it is carried out all the same: it did not begin after the shutdown. No
other operation changes a record behind one.

## Main definitions

* `Activity.Refused` — work that is over after one step, because the store has refused it.
* `Activity.Within` — work that is over within a number of moves.
* `NoteStep.Regular` — a recorded step of an operation.
* `NoteStep.Apart` — two parts of a record with no operation in both of them.
* `NoteStep.Overtaken` — the last step of a note, behind a shutdown that came between its steps.
* `TellsShutdown` — a result that is an error exactly behind a shutdown.
* `NotedStore.Final` — a state in which every shutdown has been final.

## Main results

* `Store.perform_of_not_connected` — an operation on a store that has been shut down.
* `Store.connected_afterSteps_iff` — a store is connected until it is shut down.
* `NotedStore.Recorded.effect_after_shutDown` — a step behind a shutdown.
* `NotedStore.ends_of_within` — a note comes to its end.
* `NotedStore.shutDown_final` — every shutdown is final, whatever the order of the steps is.
-/

set_option autoImplicit false

namespace PenaltySettlement

/-! ## A store that has been shut down -/

namespace Store

variable {s : Store}

/-- **An operation on a store that has been shut down** fails, and nothing comes of it. -/
theorem perform_of_not_connected (h : s.connected = false) (action : StoreAction)
    (single : action.Single) :
    s.perform action = { outcome := .error .disconnected, store := s } := by
  have refused : ∀ {α : Type} (step : StoreStep α),
      s.whenConnected step = { outcome := .error .disconnected, store := s } := by
    intro α step
    simp [whenConnected, h]
  cases action with
  | noteFailure id action => exact single.elim
  | shutDown => exact single.elim
  | _ => exact refused _

/-- A look at a payable resource changes nothing. -/
lemma perform_payable (s : Store) (key : PayableKey) :
    (s.perform (.payable key)).store = s := by
  simp only [perform, payable, whenConnected]
  split <;> rfl

end Store

/-- **Work that a store refuses.** It asks for one step, which is none of the ledger and leaves the
store as it is. With the answer of the store it is over. -/
def Activity.Refused {α : Type} (x : Activity α) (s : Store) (result : α) : Prop :=
  ∃ question next, x = .ask question next ∧ ¬ question.OfLedger ∧ question.effect s = s ∧
    ∀ outside : Outside, next (outside.answer s question) = .done result

namespace Activity

variable {α β : Type} {s : Store}

/-- Work that goes on behind one that is refused is over if there is nothing to do after that. -/
lemma Refused.bind {x : Activity α} {result : α} (h : x.Refused s result) {next : α → Activity β}
    {last : β} (hnext : next result = .done last) : (x >>= next).Refused s last := by
  obtain ⟨question, rest, rfl, hledger, heffect, hrest⟩ := h
  refine ⟨question, fun answer => rest answer >>= next, rfl, hledger, heffect, fun outside => ?_⟩
  show rest (outside.answer s question) >>= next = .done last
  rw [hrest]
  exact hnext

/-- An operation of one step is refused, in the store of the accounts and in that of the payable
resources. -/
lemma refused_step (h : s.connected = false) (action : StoreAction) (single : action.Single) :
    (step (.accounts action)).Refused s (.error .disconnected) ∧
      (step (.payables action)).Refused s (.error .disconnected) := by
  have hrefused := Store.perform_of_not_connected h action single
  have heffect : (s.perform action).store = s := congrArg StoreStep.store hrefused
  have houtcome : (s.perform action).outcome = .error .disconnected :=
    congrArg StoreStep.outcome hrefused
  constructor
  · exact ⟨.accounts action, done, rfl, id, heffect, fun _ => congrArg done houtcome⟩
  · exact ⟨.payables action, done, rfl, id, heffect, fun _ => congrArg done houtcome⟩

end Activity

section

variable {s : Store} (h : s.connected = false)

include h

/-- A look at the penalties of an account is refused. -/
lemma PenaltyLookup.refused_penalties (key : AccountKey) :
    (penalties key).Refused s (.error (.store .disconnected)) :=
  (Activity.refused_step h (.account key) trivial).1.bind rfl

/-- So is a look at one of them. -/
lemma PenaltyLookup.refused_isPaid (key : AccountKey) (reference : String) :
    (isPaid key reference).Refused s (.error (.store .disconnected)) :=
  (refused_penalties h key).bind rfl

/-- The note of a failure is refused. -/
lemma Settlement.refused_noteFailure (key : PayableKey) (action : LedgerAction) :
    (noteFailure key action).Refused s (.error .disconnected) :=
  (Activity.refused_step h (.payable key) trivial).2.bind rfl

end

/-! ## Recorded steps -/

/-- **A recorded step of an operation**: the end of the connection, another operation of one step,
or a step of a note. -/
def NoteStep.Regular (x : NoteStep) : Prop := x = .operation .shutDown ∨ x.Proper

/-- **Two parts of a record with no operation in both of them.** A note has taken all its steps in
the first part, or it takes all of them in the second one. -/
def NoteStep.Apart (before later : List NoteStep) : Prop :=
  ∀ note, before.filterMap (NoteStep.reply? note) = [] ∨ later.filterMap (NoteStep.reply? note) = []

/-- **A result that tells of a shutdown.** It is an error if and only if the store was shut down
before. Then it is that of the connection, and nothing has changed. -/
structure TellsShutdown {α : Type} (result : Except StoreError α) (before : List NoteStep)
    (unchanged : Prop) : Prop where
  failed_iff : (∃ e, result = .error e) ↔ .operation .shutDown ∈ before
  reason : ∀ {e}, result = .error e → e = .disconnected ∧ unchanged

namespace TellsShutdown

variable {α : Type} {before : List NoteStep} {unchanged : Prop}

/-- Before a shutdown an operation succeeds. -/
lemma of_ok (h : .operation .shutDown ∉ before) (a : α) :
    TellsShutdown (.ok a) before unchanged where
  failed_iff := ⟨fun ⟨_, he⟩ => (nomatch he), fun shut => absurd shut h⟩
  reason := nofun

/-- After a shutdown it is refused. -/
lemma of_refused (shut : .operation .shutDown ∈ before) (h : unchanged) :
    TellsShutdown (.error .disconnected : Except StoreError α) before unchanged where
  failed_iff := ⟨fun _ => shut, fun _ => ⟨_, rfl⟩⟩
  reason := by
    rintro e ⟨⟩
    exact ⟨rfl, h⟩

end TellsShutdown

namespace Store

variable {s : Store} {x : NoteStep}

/-- A step ends the connection if it is a shutdown. -/
lemma connected_effect_iff (regular : x.Regular) :
    (x.effect s).connected = true ↔ s.connected = true ∧ x ≠ .operation .shutDown := by
  rcases regular with rfl | proper
  · simp [NoteStep.effect, perform, shutDown]
  · have hne : x ≠ .operation .shutDown := by
      rintro rfl
      cases proper
      assumption
    rw [connected_effect proper]
    exact ⟨fun h => ⟨h, hne⟩, And.left⟩

/-- **A store is connected until it is shut down.** -/
theorem connected_afterSteps_iff {record : List NoteStep} (regular : ∀ x ∈ record, x.Regular) :
    (s.afterSteps record).connected = true ↔
      s.connected = true ∧ .operation .shutDown ∉ record := by
  induction record generalizing s with
  | nil => simp [afterSteps]
  | cons x record ih =>
    obtain ⟨hx, hrecord⟩ := List.forall_mem_cons.1 regular
    show ((x.effect s).afterSteps record).connected = true ↔ _
    rw [ih hrecord, connected_effect_iff hx, List.mem_cons, not_or, and_assoc, ne_comm]

/-- A step of a store that has been shut down leaves it, unless it is a change by a note. -/
lemma effect_of_not_connected (h : s.connected = false) (regular : x.Regular) :
    x.effect s = s ∨
      ∃ note id action done, x = .step note ⟨.payables (.noteFailure id action), done⟩ := by
  rcases regular with rfl | proper
  · exact .inl (congrArg (fun connected => { s with connected }) h.symm)
  · cases proper with
    | operation single =>
      exact .inl (congrArg StoreStep.store (perform_of_not_connected h _ single))
    | look => exact .inl (s.perform_payable _)
    | write => exact .inr ⟨_, _, _, _, rfl⟩

/-- Names and penalties of a store that has been shut down do not change. -/
lemma sameNames_afterSteps_of_not_connected {record : List NoteStep} (h : s.connected = false)
    (regular : ∀ x ∈ record, x.Regular) : SameNames (s.afterSteps record) s := by
  induction record generalizing s with
  | nil => exact ⟨rfl, rfl, rfl⟩
  | cons x record ih =>
    obtain ⟨hx, hrecord⟩ := List.forall_mem_cons.1 regular
    have hfirst : SameNames (x.effect s) s := by
      rcases effect_of_not_connected h hx with heq | ⟨note, id, action, done, rfl⟩
      · rw [heq]
        exact ⟨rfl, rfl, rfl⟩
      · exact sameNames_step .write
    have hrest := ih (hfirst.connected.trans h) hrecord
    exact ⟨hrest.connected.trans hfirst.connected, hrest.accounts.trans hfirst.accounts,
      hrest.latest.trans hfirst.latest⟩

end Store

/-! ## Notes -/

/-- **A note that is over** has looked for the resource. If the look has failed, it has come to the
error; if no resource was found, it has succeeded; and otherwise it has come to what became of the
change. -/
lemma Settlement.noteFailure_done {key : PayableKey} {action : LedgerAction} {replies : List Reply}
    {result : Except StoreError Unit}
    (h : (noteFailure key action).Follows replies (.done result)) :
    (∃ e, replies = [⟨.payables (.payable key), .error e⟩] ∧ result = .error e) ∨
      (replies = [⟨.payables (.payable key), .ok none⟩] ∧ result = .ok ()) ∨
      ∃ resource : PayableResource, replies = [⟨.payables (.payable key), .ok (some resource)⟩,
        ⟨.payables (.noteFailure resource.id action), result⟩] := by
  simp only [noteFailure, Activity.step, Activity.ask_bind, Activity.done_bind,
    Activity.follows_ask_done] at h
  obtain ⟨found, more, rfl, hfound⟩ := h
  rcases found with e | _ | resource
  · obtain ⟨rfl, rfl⟩ := Activity.follows_done.1 hfound
    exact .inl ⟨e, rfl, rfl⟩
  · obtain ⟨rfl, rfl⟩ := Activity.follows_done.1 (Activity.follows_note_done.1 hfound)
    exact .inr (.inl ⟨rfl, rfl⟩)
  · obtain ⟨done, more, rfl, hdone⟩ := Activity.follows_ask_done.1 hfound
    obtain ⟨rfl, rfl⟩ := Activity.follows_done.1 hdone
    exact .inr (.inr ⟨resource, rfl⟩)

/-- **A change that a shutdown has overtaken**: the note has found its resource before the store was
shut down. -/
inductive NoteStep.Overtaken (before : List NoteStep) : NoteStep → Prop where
  | change {note : Nat} {key : PayableKey} {resource : PayableResource} {action : LedgerAction}
      {done : Ask.Answer (.payables (.noteFailure resource.id action))}
      {first between : List NoteStep} :
      before = first ++ .step note ⟨.payables (.payable key), .ok (some resource)⟩ :: between →
      .operation .shutDown ∉ first →
      Overtaken before (.step note ⟨.payables (.noteFailure resource.id action), done⟩)

/-- A note that a shutdown has overtaken has taken a step before it. -/
lemma NoteStep.Overtaken.exists_reply {before between : List NoteStep} {x : NoteStep}
    (h : x.Overtaken (before ++ between)) (shut : .operation .shutDown ∈ before) :
    ∃ note reply, x = .step note reply ∧ before.filterMap (NoteStep.reply? note) ≠ [] := by
  cases h with
  | @change note key resource action done first rest hsplit hfirst =>
    have hlook : .step note ⟨.payables (.payable key), .ok (some resource)⟩ ∈ before := by
      rcases List.append_eq_append_iff.1 hsplit with ⟨more, rfl, -⟩ | ⟨more, rfl, hmore⟩
      · exact absurd (List.mem_append_left _ shut) hfirst
      · cases more with
        | nil => exact absurd (by simpa using shut) hfirst
        | cons look more =>
          obtain ⟨rfl, -⟩ := List.cons.inj hmore
          exact List.mem_append_right _ List.mem_cons_self
    have hreply : (⟨.payables (.payable key), .ok (some resource)⟩ : Reply) ∈
        before.filterMap (NoteStep.reply? note) :=
      List.mem_filterMap.2 ⟨_, hlook, if_pos rfl⟩
    exact ⟨note, _, rfl, List.ne_nil_of_mem hreply⟩

namespace NotedStore

namespace Recorded

variable {start : Store} {record : List NoteStep} {t : NotedStore}
  (h : Recorded start record t)

include h

/-- The answer to a step of a note is that of the store as it was then. -/
lemma answer_step {before later : List NoteStep} {note : Nat} {reply : Reply}
    (hrecord : record = before ++ .step note reply :: later) :
    reply.answer = Outside.answer {} (start.afterSteps before) reply.question := by
  have hanswered := h.answered
  rw [hrecord] at hanswered
  exact (Store.answered_append.1 hanswered).2.1 note reply rfl

/-- A change by a note does not fail. -/
lemma change_succeeds {note : Nat} {id : String} {action : LedgerAction}
    {done : Ask.Answer (.payables (.noteFailure id action))}
    (hmem : .step note ⟨.payables (.noteFailure id action), done⟩ ∈ record) : done = .ok () := by
  obtain ⟨before, later, hrecord⟩ := List.append_of_mem hmem
  exact h.answer_step hrecord

/-- The steps of the operations are recorded. -/
lemma regular
    (whole : ∀ action, .operation action ∈ record → action = .shutDown ∨ action.Single) :
    ∀ x ∈ record, x.Regular := by
  rintro (action | ⟨note, reply⟩) hmem
  · rcases whole action hmem with rfl | single
    · exact .inl rfl
    · exact .inr (.operation single)
  · exact .inr (h.proper_step hmem)

variable (connected : start.connected = true) (regular : ∀ x ∈ record, x.Regular)

include connected regular

omit h in
/-- At each moment the store is connected unless it has been shut down before. -/
lemma connected_iff {before later : List NoteStep} (hrecord : record = before ++ later) :
    (start.afterSteps before).connected = true ↔ .operation .shutDown ∉ before := by
  have hbefore : ∀ x ∈ before, x.Regular := fun x hx =>
    regular x (hrecord ▸ List.mem_append_left _ hx)
  rw [Store.connected_afterSteps_iff hbefore, and_iff_right connected]

omit h in
/-- After a shutdown the store is not connected. -/
lemma not_connected {before later : List NoteStep} (hrecord : record = before ++ later)
    (shut : .operation .shutDown ∈ before) : (start.afterSteps before).connected = false := by
  rw [← Bool.not_eq_true, connected_iff connected regular hrecord]
  exact not_not_intro shut

/-- A note that looks for its resource after a shutdown is refused, and before that it is not. -/
lemma look_cases {before later : List NoteStep} {note : Nat} {key : PayableKey}
    {found : Ask.Answer (.payables (.payable key))}
    (hrecord : record = before ++ .step note ⟨.payables (.payable key), found⟩ :: later) :
    (.operation .shutDown ∈ before ∧ found = .error .disconnected) ∨
      .operation .shutDown ∉ before ∧ ∃ resource?, found = .ok resource? := by
  have hanswer : found = ((start.afterSteps before).perform (.payable key)).outcome :=
    h.answer_step hrecord
  by_cases shut : .operation .shutDown ∈ before
  · have hrefused := Store.perform_of_not_connected
      (not_connected connected regular hrecord shut) (.payable key) trivial
    exact .inl ⟨shut, hanswer.trans (congrArg StoreStep.outcome hrefused)⟩
  · obtain ⟨resource?, hfound⟩ := Store.perform_outcome
      ((connected_iff connected regular hrecord).2 shut) (.payable key)
    exact .inr ⟨shut, resource?, hanswer.trans hfound⟩

/-- **A step behind a shutdown** leaves the store as it is, unless it is a change that the shutdown
has overtaken.

**Proof sketch.** Only a change by a note does something to a store that is not connected. The note
has found its resource, and nothing is found behind a shutdown. -/
theorem effect_after_shutDown {before later : List NoteStep} {x : NoteStep}
    (hrecord : record = before ++ x :: later) (shut : .operation .shutDown ∈ before) :
    x.effect (start.afterSteps before) = start.afterSteps before ∨ x.Overtaken before := by
  have hx : x.Regular := regular x (hrecord ▸ List.mem_append_right _ List.mem_cons_self)
  rcases Store.effect_of_not_connected (not_connected connected regular hrecord shut) hx with
    heq | ⟨note, id, action, done, rfl⟩
  · exact .inl heq
  · obtain ⟨key, resource, first, between, rfl, hbefore⟩ := h.look_of_change hrecord
    have hsplit := hrecord
    rw [hbefore, List.append_assoc, List.cons_append] at hsplit
    rcases h.look_cases connected regular hsplit with ⟨-, hrefused⟩ | ⟨hfirst, -⟩
    · cases hrefused
    · exact .inr (.change hbefore hfirst)

/-- **Behind a shutdown nothing changes** if no operation has been begun before and goes on.

**Proof sketch.** Induction on the steps behind the shutdown, from their end. A step that changes
the store has been overtaken, and then its note has taken steps on both sides. -/
lemma afterSteps_kept {before later : List NoteStep} (hrecord : record = before ++ later)
    (shut : .operation .shutDown ∈ before) (apart : NoteStep.Apart before later)
    {done rest : List NoteStep} (hlater : later = done ++ rest) :
    start.afterSteps (before ++ done) = start.afterSteps before := by
  induction done using List.reverseRecOn generalizing rest with
  | nil => rw [List.append_nil]
  | append_singleton done x ih =>
    have hsame := ih (show later = done ++ x :: rest by simpa using hlater)
    have hsplit : record = (before ++ done) ++ x :: rest := by simp [hrecord, hlater]
    rcases h.effect_after_shutDown connected regular hsplit (List.mem_append_left _ shut) with
      heq | overtaken
    · rw [← List.append_assoc, Store.afterSteps_append, ← hsame]
      exact heq
    · obtain ⟨note, reply, rfl, hbefore⟩ := overtaken.exists_reply shut
      have hreply : reply ∈ later.filterMap (NoteStep.reply? note) :=
        List.mem_filterMap.2 ⟨.step note reply, by simp [hlater], if_pos rfl⟩
      rcases apart note with hnone | hnone
      · exact absurd hnone hbefore
      · rw [hnone] at hreply
        cases hreply

/-- **A note that is over** has failed if and only if the store was shut down before its first step.
Then that is its only step, and it changes nothing. -/
lemma note_tells {note : Nat} {p : PendingNote} {result : Except StoreError Unit}
    (hp : t.notes[note]? = some p) (hresult : p.rest = .done result) :
    ∃ before found later,
      record = before ++ .step note ⟨.payables (.payable p.key), found⟩ :: later ∧
      TellsShutdown result before
        (∀ reply, .step note reply ∈ record → ∀ s, reply.question.effect s = s) := by
  have hfollows := h.follows hp
  rw [hresult] at hfollows
  have hreplies := Settlement.noteFailure_done hfollows
  have hlook : ∃ found more, record.filterMap (NoteStep.reply? note) =
      ⟨.payables (.payable p.key), found⟩ :: more := by
    rcases hreplies with ⟨e, heq, -⟩ | ⟨heq, -⟩ | ⟨resource, heq⟩ <;> exact ⟨_, _, heq⟩
  obtain ⟨found, more, hlook⟩ := hlook
  obtain ⟨before, x, later, hrecord, -, hx, -⟩ := List.filterMap_eq_cons_iff.1 hlook
  obtain rfl := NoteStep.reply?_eq_some.1 hx
  refine ⟨before, found, later, hrecord, ?_⟩
  rw [hlook] at hreplies
  rcases h.look_cases connected regular hrecord with ⟨shut, rfl⟩ | ⟨shut, resource?, rfl⟩
  · -- the look was refused, and the note was over
    rcases hreplies with ⟨e, heq, rfl⟩ | ⟨heq, -⟩ | ⟨resource, heq⟩ <;> cases heq
    refine .of_refused shut fun reply hreply s => ?_
    have honly : reply ∈ record.filterMap (NoteStep.reply? note) :=
      List.mem_filterMap.2 ⟨_, hreply, if_pos rfl⟩
    rw [hlook] at honly
    rw [List.mem_singleton.1 honly]
    exact s.perform_payable p.key
  · -- nothing fails any more, whether or not there is a change to be made
    suffices result = .ok () from this ▸ .of_ok shut ()
    rcases hreplies with ⟨e, heq, -⟩ | ⟨-, rfl⟩ | ⟨resource, heq⟩
    · cases heq
    · rfl
    · cases heq
      have hchange : ⟨.payables (.noteFailure resource.id p.action), result⟩ ∈
          record.filterMap (NoteStep.reply? note) := by
        rw [hlook]
        exact List.mem_cons_of_mem _ List.mem_cons_self
      obtain ⟨x, hmem, hreply⟩ := List.mem_filterMap.1 hchange
      rw [NoteStep.reply?_eq_some.1 hreply] at hmem
      exact h.change_succeeds hmem

end Recorded

end NotedStore

/-! ## Notes come to their end -/

/-- **Work that is over within a number of moves**, whatever it is answered. -/
def Activity.Within {α : Type} : Activity α → Nat → Prop
  | .done _, _ => True
  | .note _ _, 0 | .ask _ _, 0 => False
  | .note _ rest, n + 1 => rest.Within n
  | .ask _ next, n + 1 => ∀ answer, (next answer).Within n

namespace Activity

variable {α : Type}

/-- More moves are enough, too. -/
lemma Within.succ {x : Activity α} {n : Nat} (h : x.Within n) : x.Within (n + 1) := by
  induction x generalizing n with
  | done result => trivial
  | note entry rest ih =>
    cases n with
    | zero => exact h.elim
    | succ n => exact ih h
  | ask question next ih =>
    cases n with
    | zero => exact h.elim
    | succ n => exact fun answer => ih answer (h answer)

/-- What is left of the work needs no more moves than all of it. -/
lemma Within.of_follows {x rest : Activity α} {n : Nat} {replies : List Reply} (h : x.Within n)
    (hrest : x.Follows replies rest) : rest.Within n := by
  induction x generalizing n replies with
  | done result =>
    obtain ⟨-, rfl⟩ := hrest
    trivial
  | note entry x ih =>
    rcases hrest with ⟨-, rfl⟩ | hrest
    · exact h
    · cases n with
      | zero => exact h.elim
      | succ n => exact (ih h hrest).succ
  | ask question next ih =>
    rcases hrest with ⟨-, rfl⟩ | ⟨answer, more, -, hrest⟩
    · exact h
    · cases n with
      | zero => exact h.elim
      | succ n => exact (ih answer (h answer) hrest).succ

end Activity

/-- **The note of a failure** is over within two moves. -/
lemma Settlement.noteFailure_within (key : PayableKey) (action : LedgerAction) :
    (noteFailure key action).Within 2 := by
  rintro (e | _ | resource)
  · trivial
  · trivial
  · exact fun _ => trivial

namespace NotedStore

section

variable {t : NotedStore} {note n : Nat} {key : PayableKey} {action : LedgerAction}
  {x : Activity (Except StoreError Unit)} (hp : t.notes[note]? = some ⟨key, action, x⟩)

include hp

/-- A move of its own brings a note nearer to its end. -/
lemma within_go (h : x.Within (n + 1)) :
    ∃ rest, (t.move (.go note)).1.notes[note]? = some ⟨key, action, rest⟩ ∧ rest.Within n := by
  have hlt : note < t.notes.length := (List.getElem?_eq_some_iff.1 hp).1
  cases x with
  | done result =>
    refine ⟨.done result, ?_, trivial⟩
    rw [move, hp]
    exact hp
  | note entry rest =>
    refine ⟨rest, ?_, h⟩
    rw [move, hp]
    exact List.getElem?_set_self hlt
  | ask question next =>
    refine ⟨next (Outside.answer {} t.store question), ?_, h _⟩
    rw [move, hp]
    exact List.getElem?_set_self hlt

/-- No move takes it further away. -/
lemma within_move (h : x.Within n) (move : NoteMove) :
    ∃ rest, (t.move move).1.notes[note]? = some ⟨key, action, rest⟩ ∧ rest.Within n := by
  have hlt : note < t.notes.length := (List.getElem?_eq_some_iff.1 hp).1
  cases move with
  | operate action => exact ⟨x, hp, h⟩
  | begin key action => exact ⟨x, (List.getElem?_append_left hlt).trans hp, h⟩
  | go other =>
    by_cases hother : other = note
    · subst hother
      exact within_go hp h.succ
    · refine ⟨x, ?_, h⟩
      rw [NotedStore.move]
      rcases t.notes[other]? with _ | ⟨key, action, _ | ⟨entry, rest⟩ | ⟨question, next⟩⟩
      · exact hp
      · exact hp
      · exact (List.getElem?_set_ne hother).trans hp
      · exact (List.getElem?_set_ne hother).trans hp

/-- **A note comes to its end** if it makes the moves that it needs, whatever happens between
them. -/
lemma ends_of_within {moves : List NoteMove} (h : x.Within n)
    (hmoves : (List.replicate n (NoteMove.go note)).Sublist moves) :
    ∃ result, (t.run moves).1.notes[note]? = some ⟨key, action, .done result⟩ := by
  induction moves generalizing t x n with
  | nil =>
    obtain rfl : n = 0 := by simpa using hmoves
    cases x with
    | done result => exact ⟨result, hp⟩
    | note entry rest => exact h.elim
    | ask question next => exact h.elim
  | cons move moves ih =>
    show ∃ result, ((t.move move).1.run moves).1.notes[note]? = some ⟨key, action, .done result⟩
    cases n with
    | zero =>
      obtain ⟨rest, hrest, hwithin⟩ := within_move hp h move
      exact ih hrest hwithin (List.nil_sublist moves)
    | succ n =>
      rw [List.replicate_succ] at hmoves
      cases hmoves with
      | cons _ hmoves =>
        obtain ⟨rest, hrest, hwithin⟩ := within_move hp h move
        exact ih hrest hwithin hmoves
      | cons_cons _ hmoves =>
        obtain ⟨rest, hrest, hwithin⟩ := within_go hp h
        exact ih hrest hwithin hmoves

end

/-! ## Every shutdown is final -/

/-- **A state in which every shutdown has been final.** -/
structure Final (start : Store) (record : List NoteStep) (t : NotedStore) : Prop where
  store : t.store = start.afterSteps record
  /-- At each moment the store is connected unless it has been shut down before. -/
  connected : ∀ {before later}, record = before ++ later →
    ((start.afterSteps before).connected = true ↔ .operation .shutDown ∉ before)
  /-- An operation of one step fails if and only if a shutdown came before it, and then the store is
  as it was. -/
  operations : ∀ {before action later}, record = before ++ .operation action :: later →
    action.Single →
    TellsShutdown ((start.afterSteps before).perform action).outcome before
      (((start.afterSteps before).perform action).store = start.afterSteps before)
  /-- So does the note of a failure, by what came before its first step. -/
  notes : ∀ {note p result}, t.notes[note]? = some p → p.rest = .done result →
    ∃ before found later,
      record = before ++ .step note ⟨.payables (.payable p.key), found⟩ :: later ∧
      TellsShutdown result before
        (∀ reply, .step note reply ∈ record → ∀ s, reply.question.effect s = s)
  /-- A note is over after two moves of its own, whatever happens between them. -/
  ends : ∀ {note p more}, t.notes[note]? = some p →
    (List.replicate 2 (NoteMove.go note)).Sublist more →
    ∃ result, (t.run more).1.notes[note]? = some { p with rest := .done result }
  /-- What begins after a shutdown is over with its first step, a look at penalties with the error
  of the store and without a query to the ledger. -/
  refused : ∀ {before later}, record = before ++ later → .operation .shutDown ∈ before →
    (∀ key, (PenaltyLookup.penalties key).Refused (start.afterSteps before)
      (.error (.store .disconnected))) ∧
    (∀ key reference, (PenaltyLookup.isPaid key reference).Refused (start.afterSteps before)
      (.error (.store .disconnected))) ∧
    ∀ key action, (Settlement.noteFailure key action).Refused (start.afterSteps before)
      (.error .disconnected)
  /-- A step behind a shutdown changes nothing, unless it is the last one of a note that found its
  resource before. -/
  steps : ∀ {before x later}, record = before ++ x :: later → .operation .shutDown ∈ before →
    x.effect (start.afterSteps before) = start.afterSteps before ∨ x.Overtaken before
  /-- So the documents and the names do not change any more, and no resource does so by an operation
  that is begun later. -/
  kept : ∀ {before later}, record = before ++ later → .operation .shutDown ∈ before →
    Store.SameNames t.store (start.afterSteps before) ∧
    (NoteStep.Apart before later → t.store = start.afterSteps before)

/-- **Every shutdown is final**, whatever is done with a store that was connected at first, in
whatever order, and however often it is shut down.

**Proof sketch.** The record tells what each note has done (`Recorded.run`), and it shows a shutdown
exactly when the store is not connected (`Store.connected_afterSteps_iff`). Such a store refuses
every operation at its first step, and all changes by notes come behind a look that has been
answered before (`Recorded.effect_after_shutDown`). -/
theorem shutDown_final {start : Store} (connected : start.connected = true)
    {moves : List NoteMove}
    (whole : ∀ action, .operate action ∈ moves → action = .shutDown ∨ action.Single) :
    let reached := ({ store := start } : NotedStore).run moves
    reached.2.filterMap NoteStep.operation? = moves.filterMap NoteMove.operation? ∧
      Final start reached.2 reached.1 := by
  intro reached
  have hoperations : reached.2.filterMap NoteStep.operation? =
      moves.filterMap NoteMove.operation? := operations_run _ moves
  have h : Recorded start reached.2 reached.1 := (recorded_nil _).run moves
  generalize reached.2 = record at hoperations h
  generalize reached.1 = t at h
  refine ⟨hoperations, ?_⟩
  have regular : ∀ x ∈ record, x.Regular := by
    refine h.regular fun action hrecorded => ?_
    have hmem : action ∈ record.filterMap NoteStep.operation? :=
      List.mem_filterMap.2 ⟨_, hrecorded, rfl⟩
    rw [hoperations] at hmem
    obtain ⟨move, hmove, haction⟩ := List.mem_filterMap.1 hmem
    obtain rfl := NoteMove.operation?_eq_some.1 haction
    exact whole action hmove
  exact {
    store := h.store
    connected := Recorded.connected_iff connected regular
    operations := by
      intro before action later hrecord single
      by_cases shut : .operation .shutDown ∈ before
      · rw [Store.perform_of_not_connected
          (Recorded.not_connected connected regular hrecord shut) action single]
        exact .of_refused shut rfl
      · obtain ⟨result, hresult⟩ := Store.perform_outcome
          ((Recorded.connected_iff connected regular hrecord).2 shut) action
        rw [hresult]
        exact .of_ok shut result
    notes := h.note_tells connected regular
    ends := by
      intro note p more hp hmoves
      have hwithin := Settlement.noteFailure_within p.key p.action
      exact ends_of_within hp (hwithin.of_follows (h.follows hp)) hmoves
    refused := by
      intro before later hrecord shut
      have hclosed := Recorded.not_connected connected regular hrecord shut
      exact ⟨PenaltyLookup.refused_penalties hclosed, PenaltyLookup.refused_isPaid hclosed,
        Settlement.refused_noteFailure hclosed⟩
    steps := h.effect_after_shutDown connected regular
    kept := by
      intro before later hrecord shut
      constructor
      · rw [h.store, hrecord, Store.afterSteps_append]
        exact Store.sameNames_afterSteps_of_not_connected
          (Recorded.not_connected connected regular hrecord shut)
          fun x hx => regular x (hrecord ▸ List.mem_append_right _ hx)
      · intro apart
        rw [h.store, hrecord]
        exact h.afterSteps_kept connected regular hrecord shut apart (List.append_nil later).symm }

/-! ### A shutdown between the steps of a note -/

/-- A store is shut down, twice, while a failure is being noted. Another note and a payment come too
late. -/
def closing : List NoteMove :=
  [.operate (.createPayable "a" Store.Takeover.session), .begin Store.Takeover.key .confirm, .go 0,
    .operate .shutDown, .begin Store.Takeover.key .authorise, .go 1,
    .operate (.updatePayment "a" Store.Takeover.payment), .operate .shutDown, .go 0]

/-- **The note that came too late** has failed without a change, and nobody can look up a penalty
any more. -/
theorem shutDown_final_closing :
    let reached := ({ store := {} } : NotedStore).run closing
    (∃ p, reached.1.notes[1]? = some p ∧ p.rest = .done (.error .disconnected) ∧
      ∀ reply, .step 1 reply ∈ reached.2 → ∀ s, reply.question.effect s = s) ∧
    ∀ key, (PenaltyLookup.penalties key).Refused reached.1.store
      (.error (.store .disconnected)) := by
  intro reached
  have whole : ∀ action, .operate action ∈ closing → action = .shutDown ∨ action.Single := by
    intro action hmem
    simp only [closing, List.mem_cons, NoteMove.operate.injEq, List.not_mem_nil, reduceCtorEq,
      false_or, or_false] at hmem
    rcases hmem with rfl | rfl | rfl | rfl
    · exact .inr trivial
    · exact .inl rfl
    · exact .inr trivial
    · exact .inl rfl
  have connected : ({} : Store).connected = true := rfl
  obtain ⟨-, final⟩ := shutDown_final connected whole
  have shut : .operation .shutDown ∈ reached.2 := by
    have hthird : reached.2[2]? = some (.operation .shutDown) := rfl
    exact List.mem_of_getElem? hthird
  constructor
  · have hnote : reached.1.notes[1]? = some ⟨Store.Takeover.key, .authorise,
        .done (.error .disconnected)⟩ := rfl
    obtain ⟨before, found, later, -, htells⟩ := final.notes hnote rfl
    exact ⟨_, hnote, rfl, (htells.reason rfl).2⟩
  · rw [final.store]
    exact (final.refused (List.append_nil _).symm shut).1

end NotedStore

end PenaltySettlement
