import Mathlib.Data.Option.Basic
import PenaltySettlement.Proofs.Interleaving

/-!
# Stale documents

The ledger is asked for the penalties of an account only while the store has no document for it,
and the document is created some steps later. In between an event of the account may be settled
from its beginning to its end: then its marks find no document, and the document that is created
afterwards shows the penalties as they were before. From then on they are reported unpaid, although
the event has been settled.

This is the only way in which that can happen. It is described by the order of five steps: the
report of the ledger, the acceptance of the event, a mark in vain, the creation of the first
document of the account from the old report, and the look at it, without another mark in between.

## Main definitions

* `AccountPenalties.Owes` — a penalty of a document is unpaid.
* `Truthful` — the ledger reports what it has accepted as paid.
* `Overtaken` — the order of steps that makes a document stale.

## Main results

* `owes_documentAfter_none` — what an account owes after recorded steps.
* `Traffic.reported_unpaid_iff_overtaken` — a settled penalty is reported unpaid exactly when the
  document is stale.
* `Traffic.not_never_reported_unpaid` — this does happen.
-/

set_option autoImplicit false

namespace PenaltySettlement

/-! ## Unpaid penalties -/

namespace AccountPenalties

/-- The penalty with a reference is unpaid. -/
def Owes (a : AccountPenalties) (reference : String) : Prop :=
  (a.item? reference).map PenaltyItem.isPaid = some false

/-- A mark pays for its reference and for no other one. -/
lemma owes_markPaid (a : AccountPenalties) (reference other : String) (time : Instant) :
    (a.markPaid other time).Owes reference ↔ a.Owes reference ∧ other ≠ reference := by
  have hpaid := a.paid?_markPaid reference other time
  unfold paid? at hpaid
  rw [Owes, hpaid, Owes]
  cases (a.item? reference).map PenaltyItem.isPaid with
  | none => simp
  | some isPaid => simp

end AccountPenalties

/-! ## What an account owes after recorded steps -/

/-- A step that creates a document for an account, if it has none. -/
def Ask.Creates (question : Ask) (key : AccountKey) : Prop :=
  ∃ document, question = .accounts (.createAccount document) ∧ document.key = key

/-- A step that marks a penalty paid. -/
def Ask.Marks (question : Ask) (key : AccountKey) (reference : String) : Prop :=
  ∃ time, question = .accounts (.markPaid key reference time)

/-- An account that has a document keeps it, and what it owes changes by marks only. -/
lemma Ask.Harmless.onAccount_some {question : Ask} (h : question.Harmless) (key : AccountKey)
    (a : AccountPenalties) : ∃ b, question.onAccount key (some a) = some b ∧
      ∀ reference, b.Owes reference ↔ a.Owes reference ∧ ¬ question.Marks key reference := by
  rcases question with action | action | input | query | _
  · cases action with
    | markPaid other marked time =>
      by_cases hkey : other = key
      · subst hkey
        refine ⟨a.markPaid marked time, by simp [Ask.onAccount, StoreAction.onAccount],
          fun reference => ?_⟩
        rw [AccountPenalties.owes_markPaid]
        simp [Ask.Marks]
      · exact ⟨a, by simp [Ask.onAccount, StoreAction.onAccount, hkey], by simp [Ask.Marks, hkey]⟩
    | deleteAccount other => exact absurd rfl (h.2 other)
    | createAccount document =>
      refine ⟨a, ?_, by simp [Ask.Marks]⟩
      simp [Ask.onAccount, StoreAction.onAccount]
    | _ => exact ⟨a, rfl, by simp [Ask.Marks]⟩
  · exact ⟨a, h.2 key (some a), by simp [Ask.Marks]⟩
  · exact ⟨a, rfl, by simp [Ask.Marks]⟩
  · exact ⟨a, rfl, by simp [Ask.Marks]⟩
  · exact ⟨a, rfl, by simp [Ask.Marks]⟩

/-- An account without a document gets one only by its creation. -/
lemma Ask.Harmless.onAccount_none {question : Ask} (h : question.Harmless) (key : AccountKey) :
    ¬ question.Creates key ∧ question.onAccount key none = none ∨
      ∃ document, question = .accounts (.createAccount document) ∧ document.key = key ∧
        question.onAccount key none = some document := by
  rcases question with action | action | input | query | _
  · cases action with
    | createAccount document =>
      by_cases hkey : document.key = key
      · exact .inr ⟨document, rfl, hkey, by simp [Ask.onAccount, StoreAction.onAccount, hkey]⟩
      · refine .inl ⟨?_, by simp [Ask.onAccount, StoreAction.onAccount, hkey]⟩
        rintro ⟨_, heq, hother⟩
        cases heq
        exact hkey hother
    | _ => exact .inl ⟨by simp [Ask.Creates], by simp [Ask.onAccount, StoreAction.onAccount]⟩
  · exact .inl ⟨by simp [Ask.Creates], h.2 key none⟩
  · exact .inl ⟨by simp [Ask.Creates], rfl⟩
  · exact .inl ⟨by simp [Ask.Creates], rfl⟩
  · exact .inl ⟨by simp [Ask.Creates], rfl⟩

section

variable {history : List Exchange} (key : AccountKey)

/-- **What an account with a document owes** after harmless steps: what it owed before, without what
has been marked paid. -/
theorem owes_documentAfter_some (harmless : ∀ x ∈ history, x.question.Harmless)
    (a : AccountPenalties) : ∃ b, documentAfter key (some a) history = some b ∧
      ∀ reference, b.Owes reference ↔
        a.Owes reference ∧ ∀ x ∈ history, ¬ x.question.Marks key reference := by
  induction history generalizing a with
  | nil => exact ⟨a, rfl, by simp⟩
  | cons x history ih =>
    obtain ⟨b, hb, hfirst⟩ := (harmless x List.mem_cons_self).onAccount_some key a
    obtain ⟨c, hc, hrest⟩ := ih (fun y hy => harmless y (List.mem_cons_of_mem x hy)) b
    refine ⟨c, ?_, fun reference => ?_⟩
    · rw [documentAfter, List.foldl_cons, hb]
      exact hc
    · rw [hrest, hfirst, and_assoc, List.forall_mem_cons]

/-- **What an account without a document owes** after harmless steps: what its first document shows,
without what has been marked paid since.

**Proof sketch.** Induction on the steps. Until the creation there is no document, and from then on
what is owed changes by marks only. -/
theorem owes_documentAfter_none (harmless : ∀ x ∈ history, x.question.Harmless)
    (reference : String) :
    (∃ b, documentAfter key none history = some b ∧ b.Owes reference) ↔
      ∃ before x after document, history = before ++ x :: after ∧
        x.question = .accounts (.createAccount document) ∧ document.key = key ∧
        (∀ y ∈ before, ¬ y.question.Creates key) ∧ document.Owes reference ∧
        ∀ y ∈ after, ¬ y.question.Marks key reference := by
  induction history with
  | nil => simp [documentAfter]
  | cons x history ih =>
    have hrest : ∀ y ∈ history, y.question.Harmless := fun y hy =>
      harmless y (List.mem_cons_of_mem x hy)
    rw [documentAfter, List.foldl_cons]
    rcases (harmless x List.mem_cons_self).onAccount_none key with
      ⟨hnot, hnone⟩ | ⟨document, hquestion, hkey, hsome⟩
    · rw [hnone, ← documentAfter, ih hrest]
      constructor
      · rintro ⟨before, y, after, document, rfl, hy, hkey, hbefore, howes, hafter⟩
        refine ⟨x :: before, y, after, document, rfl, hy, hkey, ?_, howes, hafter⟩
        exact List.forall_mem_cons.2 ⟨hnot, hbefore⟩
      · rintro ⟨before, y, after, document, heq, hy, hkey, hbefore, howes, hafter⟩
        cases before with
        | nil =>
          cases heq
          exact absurd ⟨document, hy, hkey⟩ hnot
        | cons z before =>
          cases heq
          exact ⟨before, y, after, document, rfl, hy, hkey,
            (List.forall_mem_cons.1 hbefore).2, howes, hafter⟩
    · obtain ⟨b, hb, hafterwards⟩ := owes_documentAfter_some key hrest document
      rw [hsome, ← documentAfter, hb]
      constructor
      · rintro ⟨c, hc, howes⟩
        obtain rfl := Option.some.inj hc
        obtain ⟨howes, hmarks⟩ := (hafterwards reference).1 howes
        exact ⟨[], x, history, document, rfl, hquestion, hkey, by simp, howes, hmarks⟩
      · rintro ⟨before, y, after, document', heq, hy, hkey', hbefore, howes, hafter⟩
        cases before with
        | nil =>
          cases heq
          rw [hquestion] at hy
          cases hy
          exact ⟨b, rfl, (hafterwards reference).2 ⟨howes, hafter⟩⟩
        | cons z before =>
          cases heq
          exact absurd ⟨document, hquestion, hkey⟩ (hbefore x List.mem_cons_self)

/-- An account has a document once one has been created for it. -/
lemma documentAfter_ne_none (harmless : ∀ x ∈ history, x.question.Harmless)
    (kept : Option AccountPenalties) (h : ∃ x ∈ history, x.question.Creates key) :
    documentAfter key kept history ≠ none := by
  induction history generalizing kept with
  | nil => simp at h
  | cons x history ih =>
    have hrest : ∀ y ∈ history, y.question.Harmless := fun y hy =>
      harmless y (List.mem_cons_of_mem x hy)
    rw [documentAfter, List.foldl_cons]
    cases hfirst : x.question.onAccount key kept with
    | some a =>
      obtain ⟨b, hb, -⟩ := owes_documentAfter_some key hrest a
      rw [← documentAfter, hb]
      exact Option.some_ne_none b
    | none =>
      obtain ⟨y, hy, hcreates⟩ := h
      rcases List.mem_cons.1 hy with rfl | hy
      · obtain ⟨document, hquestion, hkey⟩ := hcreates
        simp [hquestion, Ask.onAccount, StoreAction.onAccount, hkey] at hfirst
      · exact ih hrest none ⟨y, hy, hcreates⟩

end

/-! ## What calls have been told -/

namespace PenaltyLookup

variable {key : AccountKey} {replies : List Reply} {document : AccountPenalties}

/-- Keeping a document is creating it and looking into the store. -/
lemma keep_replies {made : AccountPenalties}
    (h : (keep key made).Follows replies (.done (.ok document))) :
    ∃ found : Option AccountPenalties, document = found.getD made ∧ replies =
      [⟨.accounts (.createAccount made), .ok ()⟩, ⟨.accounts (.account key), .ok found⟩] := by
  simp only [keep, Activity.step, Activity.ask_bind, Activity.done_bind,
    Activity.follows_ask_done] at h
  obtain ⟨answer, more, rfl, h⟩ := h
  cases answer with
  | error e => simp at h
  | ok done =>
    obtain ⟨found, more, rfl, hlast⟩ := Activity.follows_ask_done.1 h
    cases found with
    | error e => cases (Activity.follows_done.1 hlast).2
    | ok found =>
      obtain ⟨rfl, hdocument⟩ := Activity.follows_done.1 hlast
      exact ⟨found, Except.ok.inj hdocument, rfl⟩

/-- Fetching a document is asking the ledger and keeping what it reports. -/
lemma fetch_replies (h : (fetch key).Follows replies (.done (.ok document))) :
    ∃ earlier made, made.key = key ∧ ∃ found : Option AccountPenalties,
      document = found.getD made ∧ replies = earlier ++
        [⟨.accounts (.createAccount made), .ok ()⟩, ⟨.accounts (.account key), .ok found⟩] := by
  simp only [fetch, Activity.step, Activity.report, Activity.ask_bind, Activity.done_bind,
    Activity.follows_ask_done] at h
  obtain ⟨answer, more, rfl, h⟩ := h
  cases answer with
  | error e => simp at h
  | ok response =>
    obtain ⟨now, more, rfl, hkeep⟩ :=
      Activity.follows_ask_done.1 (Activity.follows_note_done.1 h)
    obtain ⟨found, hdocument, rfl⟩ := keep_replies hkeep
    exact ⟨[_, _], _, rfl, found, hdocument, rfl⟩

/-- A look at the penalties of an account ends with a look into the store. It finds the document
that is returned, or none although one has been created. -/
lemma penalties_replies (h : (penalties key).Follows replies (.done (.ok document))) :
    ∃ earlier found, replies = earlier ++ [⟨.accounts (.account key), .ok found⟩] ∧
      (found = some document ∨
        found = none ∧ ∃ reply ∈ earlier, reply.question.Creates key) := by
  simp only [penalties, Activity.step, Activity.report, Activity.ask_bind, Activity.done_bind,
    Activity.follows_ask_done] at h
  obtain ⟨answer, more, rfl, h⟩ := h
  rcases answer with e | _ | kept
  · simp at h
  · obtain ⟨earlier, made, hkey, found, hdocument, rfl⟩ := fetch_replies h
    refine ⟨⟨.accounts (.account key), .ok none⟩ :: earlier ++
      [⟨.accounts (.createAccount made), .ok ()⟩], found, by simp, ?_⟩
    cases found with
    | some kept => exact .inl (congrArg some hdocument.symm)
    | none =>
      refine .inr ⟨rfl, ⟨.accounts (.createAccount made), .ok ()⟩, ?_, made, rfl, hkey⟩
      exact List.mem_append_right _ List.mem_cons_self
  · obtain ⟨rfl, hdocument⟩ := Activity.follows_done.1 (Activity.follows_note_done.1 h)
    obtain rfl := Except.ok.inj hdocument
    exact ⟨[], _, rfl, .inl rfl⟩

end PenaltyLookup

/-- Marks that have all succeeded have been made for every reference. -/
lemma Settlement.markPaid_replies {key : AccountKey} {references : List String}
    {replies : List Reply} (h : (markPaid key references).Follows replies (.done (.ok ()))) :
    ∀ reference ∈ references, ∃ reply ∈ replies, reply.question.Marks key reference := by
  induction references generalizing replies with
  | nil => simp
  | cons first references ih =>
    simp only [markPaid, Activity.step, Activity.ask_bind, Activity.done_bind,
      Activity.follows_ask_done] at h
    obtain ⟨time, more, rfl, answer, more, rfl, h⟩ := h
    cases answer with
    | error e => simp at h
    | ok done =>
      intro reference hreference
      rcases List.mem_cons.1 hreference with rfl | hreference
      · exact ⟨_, List.mem_cons_of_mem _ List.mem_cons_self, Instant.toMillis time, rfl⟩
      · obtain ⟨reply, hreply, hmarks⟩ := ih h reference hreference
        exact ⟨reply, by simp [hreply], hmarks⟩

/-- An event that has been settled has been accepted first and then marked. -/
lemma Settlement.settle_replies {event : PenaltyPaymentEvent} {replies : List Reply}
    (h : (settle event).Follows replies (.done (.ok ()))) :
    ∃ more, replies = ⟨.confirm event.confirmation, .ok ()⟩ :: more ∧
      ∀ reference ∈ event.references,
        ∃ reply ∈ more, reply.question.Marks event.account reference := by
  simp only [settle, Activity.step, Activity.ask_bind, Activity.done_bind,
    Activity.follows_ask_done] at h
  obtain ⟨answer, more, rfl, hmore⟩ := h
  cases answer with
  | error source =>
    obtain ⟨_, _, _, _, _, hrest⟩ := Activity.follows_bind_done.1 hmore
    obtain ⟨_, _, _, _, _, hlast⟩ := Activity.follows_bind_done.1 hrest
    cases (Activity.follows_done.1 hlast).2
  | ok done =>
    obtain ⟨first, last, marked, rfl, hmarked, hlast⟩ := Activity.follows_bind_done.1 hmore
    cases marked with
    | error source => cases (Activity.follows_done.1 hlast).2
    | ok done =>
      refine ⟨first ++ last, rfl, fun reference hreference => ?_⟩
      obtain ⟨reply, hreply, hmarks⟩ := markPaid_replies hmarked reference hreference
      exact ⟨reply, List.mem_append_left _ hreply, hmarks⟩

namespace Call

/-- So has one that a call has settled. -/
lemma settle_replies {event : PenaltyPaymentEvent} {replies : List Reply}
    (h : (settle event).activity.Follows replies (.done (.settled (.ok ())))) :
    ∃ more, replies = ⟨.confirm event.confirmation, .ok ()⟩ :: more ∧
      ∀ reference ∈ event.references,
        ∃ reply ∈ more, reply.question.Marks event.account reference := by
  obtain ⟨first, last, result, rfl, hfirst, hlast⟩ := Activity.follows_bind_done.1 h
  obtain ⟨rfl, hresult⟩ := Activity.follows_done.1 hlast
  obtain rfl := Outcome.settled.inj hresult
  rw [List.append_nil]
  exact Settlement.settle_replies hfirst

/-- A look at a penalty is answered from the document that is found last. None may be found
although one has been created. -/
lemma isPaid_replies {key : AccountKey} {reference : String} {replies : List Reply}
    {answer : Option Bool}
    (h : (isPaid key reference).activity.Follows replies (.done (.isPaid (.ok answer)))) :
    ∃ earlier found, replies = earlier ++ [⟨.accounts (.account key), .ok found⟩] ∧
      ((∃ document, found = some document ∧
          answer = (document.item? reference).map PenaltyItem.isPaid) ∨
        found = none ∧ ∃ reply ∈ earlier, reply.question.Creates key) := by
  obtain ⟨all, last, result, rfl, hall, hlast⟩ := Activity.follows_bind_done.1 h
  obtain ⟨rfl, hresult⟩ := Activity.follows_done.1 hlast
  obtain rfl := Outcome.isPaid.inj hresult
  obtain ⟨looked, last, result, rfl, hlooked, hend⟩ := Activity.follows_bind_done.1 hall
  cases result with
  | error e => cases (Activity.follows_done.1 hend).2
  | ok document =>
    obtain ⟨rfl, hanswer⟩ := Activity.follows_done.1 hend
    obtain ⟨earlier, found, rfl, hfound⟩ := PenaltyLookup.penalties_replies hlooked
    refine ⟨earlier, found, by simp, ?_⟩
    rcases hfound with rfl | hnone
    · exact .inl ⟨document, rfl, Except.ok.inj hanswer⟩
    · exact .inr hnone

end Call

/-! ## Stale documents -/

namespace Exchange

/-- The ledger has accepted an event that is being settled. -/
def Accepts (x : Exchange) (event : PenaltyPaymentEvent) : Prop :=
  x.call = .settle event ∧ x.toReply = ⟨.confirm event.confirmation, .ok ()⟩

/-- The ledger has reported the transactions of an account. -/
def Reports (x : Exchange) (key : AccountKey) (response : TransactionsResponse) : Prop :=
  x.toReply = .reported key response

end Exchange

/-- **A ledger that tells the truth**: once it has accepted an event, it reports the penalties of
the event as paid. -/
def Truthful (history : List Exchange) : Prop :=
  history.Pairwise fun earlier later => ∀ event response, earlier.Accepts event →
    later.Reports event.account response → ∀ transaction ∈ response.data,
      transaction.transactionReference ∈ event.references → transaction.isPaid = true

/-- A ledger that reports nothing after it has accepted something tells the truth. -/
lemma truthful_append {history more : List Exchange}
    (hhistory : ∀ x ∈ history, ∀ event, ¬ x.Accepts event)
    (hmore : ∀ x ∈ more, ∀ key response, ¬ x.Reports key response) :
    Truthful (history ++ more) := by
  refine List.pairwise_append.2 ⟨?_, ?_, ?_⟩
  · exact List.pairwise_of_forall_mem_list fun x hx _ _ event _ haccepts =>
      absurd haccepts (hhistory x hx event)
  · exact List.pairwise_of_forall_mem_list fun _ _ y hy event response _ hreports =>
      absurd hreports (hmore y hy event.account response)
  · exact fun x hx _ _ event _ haccepts => absurd haccepts (hhistory x hx event)

/-- **An event that has been overtaken.** The account had no document. A call fetched the
transactions of the account while the penalty was unpaid. Then the ledger accepted the event and
the penalty was marked in vain. Then the call created the first document of the account from what it
had fetched, and the penalty has not been marked since. -/
def Overtaken (start : Store) (history : List Exchange) (event : PenaltyPaymentEvent)
    (reference : String) : Prop :=
  start.accounts.find? event.account = none ∧
    ∃ before fetch between creation after response now,
      history = before ++ fetch :: (between ++ creation :: after) ∧
      fetch.caller = creation.caller ∧
      fetch.Reports event.account response ∧
      creation.question =
        .accounts (.createAccount (.ofTransactions now event.account response.data)) ∧
      (AccountPenalties.ofTransactions now event.account response.data).Owes reference ∧
      (∃ x ∈ between, x.Accepts event) ∧
      (∃ x ∈ between, x.question.Marks event.account reference) ∧
      (∀ x ∈ before ++ fetch :: between, ¬ x.question.Creates event.account) ∧
      ∀ x ∈ after, ¬ x.question.Marks event.account reference

/-- Between two members of a list are those that come after the first one and before the second
one. -/
lemma mem_between {α : Type} {front back before between after : List α} {x m y z : α}
    (h : front ++ x :: back = before ++ y :: (between ++ z :: after)) (hm : m ∈ back)
    (hbefore : x ∉ before) (hxy : x ≠ y) (hxz : x ≠ z) (hmz : m ≠ z) (hafter : m ∉ after) :
    x ∈ between ∧ m ∈ between := by
  rcases List.append_eq_append_iff.1 h with ⟨gap, rfl, hgap⟩ | ⟨gap, rfl, hgap⟩
  · cases gap with
    | nil => exact absurd (List.cons.inj hgap).1 hxy
    | cons first gap =>
      obtain ⟨rfl, -⟩ := List.cons.inj hgap
      exact absurd (List.mem_append_right _ List.mem_cons_self) hbefore
  · cases gap with
    | nil => exact absurd (List.cons.inj hgap).1.symm hxy
    | cons first gap =>
      obtain ⟨rfl, hrest⟩ := List.cons.inj hgap
      rcases List.append_eq_append_iff.1 hrest with ⟨tail, rfl, htail⟩ | ⟨tail, rfl, htail⟩
      · cases tail with
        | nil => exact absurd (List.cons.inj htail).1.symm hxz
        | cons last tail =>
          obtain ⟨rfl, rfl⟩ := List.cons.inj htail
          exact absurd (List.mem_append_right _ (List.mem_cons_of_mem x hm)) hafter
      · cases tail with
        | nil => exact absurd (List.cons.inj htail).1 hxz
        | cons last tail =>
          obtain ⟨rfl, rfl⟩ := List.cons.inj htail
          refine ⟨List.mem_append_right _ List.mem_cons_self, ?_⟩
          rcases List.mem_append.1 hm with hm | hm
          · exact List.mem_append_right _ (List.mem_cons_of_mem x hm)
          · rcases List.mem_cons.1 hm with rfl | hm
            · exact absurd rfl hmz
            · exact absurd hm hafter

namespace Traffic

section

variable {start : Store} {history : List Exchange} {t : Traffic}

/-- A look into the store that succeeds finds the document that the account has then, and the store
is connected. -/
lemma Recorded.read (h : Recorded start history t) {before after : List Exchange} {x : Exchange}
    (heq : history = before ++ x :: after) {key : AccountKey} {found : Option AccountPenalties}
    (hreply : x.toReply = ⟨.accounts (.account key), .ok found⟩) :
    found = documentAfter key (start.accounts.find? key) before := by
  have harmless : ∀ y ∈ before, y.question.Harmless := fun y hy =>
    h.proper.harmless y (by simp [heq, hy])
  have hserved := h.served
  rw [heq, Store.served_append] at hserved
  obtain ⟨-, ⟨outside, hanswer⟩, -⟩ := hserved
  rw [hreply] at hanswer
  have hconnected : (start.after before).connected = true := by
    cases hc : (start.after before).connected with
    | true => rfl
    | false =>
      simp [Outside.answer, Store.perform, Store.account, Store.whenConnected, hc] at hanswer
  simp only [Outside.answer, Store.perform, Store.account, Store.whenConnected, hconnected,
    if_true] at hanswer
  rw [Store.connected_after harmless] at hconnected
  rw [← Store.find?_after hconnected harmless]
  exact Except.ok.inj hanswer

/-- A caller that has come later has not taken part in what was recorded before. -/
lemma Recorded.split (h : Recorded start history t) {more before after : List Exchange}
    {x : Exchange} (heq : history ++ more = before ++ x :: after)
    (hlater : t.calls.length ≤ x.caller) : ∃ between, before = history ++ between := by
  rcases List.append_eq_append_iff.1 heq with ⟨between, hbefore, -⟩ | ⟨others, hhistory, hrest⟩
  · exact ⟨between, hbefore⟩
  · cases others with
    | nil => exact ⟨[], by rw [hhistory]; simp⟩
    | cons first others =>
      obtain ⟨rfl, -⟩ := List.cons.inj hrest
      obtain ⟨o, ho, -⟩ := h.callers x (by simp [hhistory])
      have hlt := (List.getElem?_eq_some_iff.1 ho).1
      omega

/-- Once an event has been settled, its acceptance is recorded, with marks of all its penalties
behind it. -/
lemma Recorded.settled (h : Recorded start history t) {i : Nat} {event : PenaltyPaymentEvent}
    (hi : t.calls[i]? = some ⟨.settle event, .done (.settled (.ok ()))⟩) {reference : String}
    (hreference : reference ∈ event.references) :
    ∃ front x back, history = front ++ x :: back ∧ x.Accepts event ∧
      ∃ m ∈ back, m.question.Marks event.account reference := by
  obtain ⟨more, hreplies, hmarks⟩ := Call.settle_replies (h.follows hi)
  rw [← List.nil_append (_ :: more)] at hreplies
  obtain ⟨front, x, back, heq, hcaller, hreply, -, hback⟩ := exists_of_repliesOf_eq hreplies
  obtain ⟨reply, hmem, hmark⟩ := hmarks reference hreference
  rw [← hback] at hmem
  obtain ⟨m, hm, -, rfl⟩ := exists_of_mem_repliesOf hmem
  refine ⟨front, x, back, heq, ⟨?_, hreply⟩, m, hm, hmark⟩
  obtain ⟨o, ho, hcall⟩ := h.callers x (by simp [heq])
  rw [hcaller, hi] at ho
  cases ho
  exact hcall.symm

end

end Traffic

/-- A document that was made when the event was reported as paid does not owe its penalties. -/
lemma not_owes_ofTransactions {event : PenaltyPaymentEvent} {response : List LedgerTransaction}
    (hpaid : ∀ transaction ∈ response, transaction.transactionReference ∈ event.references →
      transaction.isPaid = true) {reference : String} (hreference : reference ∈ event.references)
    (now : Instant) (key : AccountKey) :
    ¬ (AccountPenalties.ofTransactions now key response).Owes reference := by
  intro howes
  obtain ⟨item, hitem, hunpaid⟩ := Option.map_eq_some_iff.1 howes
  obtain ⟨transaction, hmem, rfl⟩ := List.mem_map.1 (List.mem_of_find?_eq_some hitem)
  have hfound := List.find?_some hitem
  have hsame : transaction.transactionReference = reference := eq_of_beq hfound
  rw [← hsame] at hreference
  have := hpaid transaction hmem hreference
  exact Bool.noConfusion (hunpaid.symm.trans this)

/-- If a document owes a penalty of an event that has been settled, and has not been marked since,
then the event was settled between the report of the ledger and the creation of the document from
it.

**Proof sketch.** The acceptance is not before the report, since the ledger tells the truth, and the
mark is not behind the creation. -/
lemma mem_between_of_owes {history : List Exchange} (truthful : Truthful history)
    {front back before between after : List Exchange} {x m fetch creation : Exchange}
    (heq : history = front ++ x :: back)
    (hsplit : history = before ++ fetch :: (between ++ creation :: after))
    {event : PenaltyPaymentEvent} (hx : x.Accepts event) (hm : m ∈ back) {reference : String}
    (hreference : reference ∈ event.references)
    (hmark : m.question.Marks event.account reference) {response : TransactionsResponse}
    {now : Instant} (hreports : fetch.Reports event.account response)
    (hquestion : creation.question =
      .accounts (.createAccount (.ofTransactions now event.account response.data)))
    (howes : (AccountPenalties.ofTransactions now event.account response.data).Owes reference)
    (hafter : ∀ y ∈ after, ¬ y.question.Marks event.account reference) :
    x ∈ between ∧ m ∈ between := by
  have hearly : x ∉ before := by
    intro hearly
    rw [Truthful, hsplit, List.pairwise_append] at truthful
    have hpaid := truthful.2.2 x hearly fetch List.mem_cons_self event response hx hreports
    exact not_owes_ofTransactions hpaid hreference now event.account howes
  have hxfetch : x ≠ fetch := by
    rintro rfl
    cases hx.2.symm.trans hreports
  have hxcreation : x ≠ creation := by
    rintro rfl
    cases (congrArg Reply.question hx.2).symm.trans hquestion
  have hmcreation : m ≠ creation := by
    rintro rfl
    obtain ⟨time, hmark⟩ := hmark
    cases hmark.symm.trans hquestion
  have hmafter : m ∉ after := fun hm => hafter m hm hmark
  exact mem_between (heq.symm.trans hsplit) hm hearly hxfetch hxcreation hmcreation hmafter

/-- **What an account owes after an event has been settled** is what the event has been overtaken
with.

**Proof sketch.** A document that was there before the mark does not owe the penalty any more
(`owes_documentAfter_some`). So the account had none, and its first document owes the penalty and
has not been marked since (`owes_documentAfter_none`). A call has created it from a report of the
ledger, and the event was settled in between (`mem_between_of_owes`). -/
lemma owes_iff_overtaken (start : Store) {history : List Exchange} (proper : ProperSteps history)
    (truthful : Truthful history) {front back : List Exchange} {x m : Exchange}
    (heq : history = front ++ x :: back)
    {event : PenaltyPaymentEvent} (hx : x.Accepts event) (hm : m ∈ back) {reference : String}
    (hreference : reference ∈ event.references)
    (hmark : m.question.Marks event.account reference) :
    (∃ b, documentAfter event.account (start.accounts.find? event.account) history = some b ∧
      b.Owes reference) ↔ Overtaken start history event reference := by
  have hmem : m ∈ history := by simp [heq, hm]
  constructor
  · rintro ⟨b, hb, howes⟩
    cases hfind : start.accounts.find? event.account with
    | some a =>
      obtain ⟨c, hc, hafterwards⟩ := owes_documentAfter_some event.account proper.harmless a
      rw [hfind, hc] at hb
      obtain rfl := Option.some.inj hb
      exact absurd hmark (((hafterwards reference).1 howes).2 m hmem)
    | none =>
      rw [hfind] at hb
      obtain ⟨before, creation, after, document, hsplit, hquestion, hkey, hbefore, howes, hafter⟩ :=
        (owes_documentAfter_none event.account proper.harmless reference).1 ⟨b, hb, howes⟩
      have hproper := proper _ _ _ hsplit
      rw [hquestion] at hproper
      obtain ⟨key, response, now, hreported, rfl⟩ := hproper
      obtain rfl : key = event.account := hkey
      obtain ⟨fetch, hfetch, hcaller, hreply⟩ := exists_of_mem_repliesOf hreported
      obtain ⟨before, between, rfl⟩ := List.append_of_mem hfetch
      rw [List.append_assoc, List.cons_append] at hsplit
      obtain ⟨hxbetween, hmbetween⟩ := mem_between_of_owes truthful heq hsplit hx hm hreference
        hmark hreply hquestion howes hafter
      exact ⟨hfind, before, fetch, between, creation, after, response, now, hsplit, hcaller, hreply,
        hquestion, howes, ⟨x, hxbetween, hx⟩, ⟨m, hmbetween, hmark⟩, hbefore, hafter⟩
  · rintro ⟨hfind, before, fetch, between, creation, after, response, now, hsplit, -, -, hquestion,
      howes, -, -, hbefore, hafter⟩
    rw [hfind]
    refine (owes_documentAfter_none event.account proper.harmless reference).2
      ⟨before ++ fetch :: between, creation, after, _, ?_, hquestion, rfl, hbefore, howes, hafter⟩
    simp [hsplit]

namespace Traffic

/-- **A settled penalty is reported unpaid exactly when its event has been overtaken.** Take any
calls at the same time, with a ledger that tells the truth, and an event that one of them has
settled. A look at one of its penalties that starts later and succeeds is answered from what it
finds last, and the answer is that the penalty is unpaid if and only if the event had been overtaken
by then.

**Proof sketch.** The last step of the look finds the document of the account (`Recorded.read`);
there is one, since otherwise the call would have created it. All steps of the settlement are
before that (`Recorded.split`), so that the document owes the penalty exactly when the event has
been overtaken (`owes_iff_overtaken`). -/
theorem reported_unpaid_iff_overtaken (store : Store) (moves more : List Move)
    (truthful : Truthful (run { store } (moves ++ more)).2) {event : PenaltyPaymentEvent} {i : Nat}
    (hsettled : (run { store } moves).1.calls[i]? =
      some ⟨.settle event, .done (.settled (.ok ()))⟩)
    {reference : String} (hreference : reference ∈ event.references) {j : Nat}
    {answer : Option Bool} (hlater : (run { store } moves).1.calls.length ≤ j)
    (hasked : (run { store } (moves ++ more)).1.calls[j]? =
      some ⟨.isPaid event.account reference, .done (.isPaid (.ok answer))⟩) :
    ∃ past look rest, (run { store } (moves ++ more)).2 = past ++ look :: rest ∧
      look.caller = j ∧ (∀ x ∈ rest, x.caller ≠ j) ∧
      (answer = some false ↔ Overtaken store past event reference) := by
  have first := (recorded_nil store).run moves
  have whole := (recorded_nil store).run (moves ++ more)
  rw [List.nil_append] at first whole
  obtain ⟨earlier, found, hreplies, hfound⟩ := Call.isPaid_replies (whole.follows hasked)
  obtain ⟨past, look, rest, heq, hcaller, hlook, hpast, hrest⟩ := exists_of_repliesOf_eq hreplies
  have hread := whole.read heq hlook
  have proper : ProperSteps past := ProperSteps.of_append (heq ▸ whole.proper)
  refine ⟨past, look, rest, heq, hcaller, fun x hx hx' => ?_, ?_⟩
  · have hnone := List.map_eq_nil_iff.1 hrest
    exact List.filter_eq_nil_iff.1 hnone x hx (by simpa using hx')
  have hdocument : ∃ document, found = some document ∧
      answer = (document.item? reference).map PenaltyItem.isPaid := by
    rcases hfound with hfound | ⟨rfl, reply, hreply, hcreates⟩
    · exact hfound
    · -- the caller has created a document itself
      rw [← hpast] at hreply
      obtain ⟨x, hx, -, rfl⟩ := exists_of_mem_repliesOf hreply
      exact absurd hread.symm (documentAfter_ne_none _ proper.harmless _ ⟨x, hx, hcreates⟩)
  obtain ⟨document, rfl, hanswer⟩ := hdocument
  obtain ⟨front, x, back, hfirst, hx, m, hm, hmark⟩ := first.settled hsettled hreference
  have heq' := heq
  rw [run_append] at heq'
  obtain ⟨between, rfl⟩ := first.split heq' (hcaller ▸ hlater)
  rw [heq, Truthful, List.pairwise_append] at truthful
  have hsplit : (run { store } moves).2 ++ between = front ++ x :: (back ++ between) := by
    rw [hfirst, List.append_assoc, List.cons_append]
  rw [← owes_iff_overtaken store proper truthful.1 hsplit hx (List.mem_append_left _ hm)
    hreference hmark, ← hread, hanswer]
  simp [AccountPenalties.Owes]

/-! ### A race -/

namespace Race

/-- The payment of one penalty. -/
def event : PenaltyPaymentEvent where
  attempt := 0
  companyCode := "LP"
  customerCode := "10000024"
  paymentId := "P1"
  externalPaymentId := ""
  paymentReference := ""
  paymentAmount := "150"
  totalValue := .ofUInt64 false 150
  transactionPayments := [⟨"A0000001", .ofUInt64 false 150⟩]
  cardType := ""
  email := ""
  payableRef := "XYZ"

/-- What the ledger reports before the payment. -/
def report : TransactionsResponse where
  page := .empty
  data := [{
    companyCode := "LP", ledgerCode := "EW", customerCode := "10000024"
    transactionReference := "A0000001", transactionDate := none, madeUpDate := none
    amount := .ofUInt64 false 150, outstandingAmount := .ofUInt64 false 150, isPaid := false
    transactionType := "1", transactionSubType := "EU", description := "Late filing penalty"
    dueDate := none, accountStatus := "CHS", dunningStatus := "PEN1" }]

/-- The penalties are looked up and fetched, and before they are kept the event is settled. -/
def settling : List Move :=
  [.enter (.penalties event.account), .go 0 {}, .go 0 { transactions := .ok report },
    .enter (.settle event), .go 1 {}, .go 1 {}, .go 1 {}, .go 1 {}]

/-- The penalties that were fetched are kept, and after that the penalty is looked at. -/
def looking : List Move :=
  [.go 0 {}, .go 0 {}, .go 0 {}, .go 0 {}, .enter (.isPaid event.account "A0000001"), .go 2 {},
    .go 2 {}]

/-- Before the look at the penalty, the event has been settled. -/
lemma settled : (run { store := {} } settling).1.calls[1]? =
    some ⟨.settle event, .done (.settled (.ok ()))⟩ := rfl

/-- The look at the penalty finds it unpaid. -/
lemma asked : (run { store := {} } (settling ++ looking)).1.calls[2]? =
    some ⟨.isPaid event.account "A0000001", .done (.isPaid (.ok (some false)))⟩ := rfl

/-- The steps of the race. The look at the penalties begins and ends them, and the settlement is in
between. -/
lemma questions : (run { store := {} } (settling ++ looking)).2.map (·.question) =
    [.accounts (.account event.account), .transactions ⟨"10000024", "LP"⟩,
      .confirm event.confirmation, .time,
      .accounts (.markPaid event.account "A0000001" (Instant.toMillis default)), .time,
      .accounts (.createAccount (.ofTransactions default event.account report.data)),
      .accounts (.account event.account), .accounts (.account event.account)] := rfl

/-- The ledger tells the truth: it reports nothing after it has accepted the event. -/
lemma truthful : Truthful (run { store := {} } (settling ++ looking)).2 := by
  have hreport : ∀ x ∈ (run { store := {} } (settling ++ looking)).2.take 2,
      ∀ event, ¬ x.Accepts event := by
    intro x hx event haccepts
    have hmem := List.mem_map_of_mem (f := fun x : Exchange => x.question) hx
    rw [List.map_take, questions, congrArg Reply.question haccepts.2] at hmem
    simp at hmem
  have hlater : ∀ x ∈ (run { store := {} } (settling ++ looking)).2.drop 2,
      ∀ key response, ¬ x.Reports key response := by
    intro x hx key response hreports
    have hmem := List.mem_map_of_mem (f := fun x : Exchange => x.question) hx
    rw [List.map_drop, questions, congrArg Reply.question hreports] at hmem
    simp [Reply.reported] at hmem
  rw [← List.take_append_drop 2 (run { store := {} } (settling ++ looking)).2]
  exact truthful_append hreport hlater

end Race

/-- **It is not so that a settled penalty is never reported unpaid.** In the race, the penalties are
fetched before the event is settled, and the first document is made of them after that. -/
theorem not_never_reported_unpaid :
    ¬ ∀ (store : Store) (moves more : List Move) (event : PenaltyPaymentEvent) (i : Nat),
      Truthful (run { store } (moves ++ more)).2 →
      (run { store } moves).1.calls[i]? = some ⟨.settle event, .done (.settled (.ok ()))⟩ →
      ∀ reference ∈ event.references, ∀ (j : Nat) (answer : Option Bool),
        (run { store } moves).1.calls.length ≤ j →
        (run { store } (moves ++ more)).1.calls[j]? =
          some ⟨.isPaid event.account reference, .done (.isPaid (.ok answer))⟩ →
        answer ≠ some false := by
  intro never
  have hne : some false ≠ some false := never {} Race.settling Race.looking Race.event 1
    Race.truthful Race.settled "A0000001" (by decide) 2 _ (by decide) Race.asked
  exact hne rfl

/-- **An event is overtaken in the race.** -/
theorem race_overtaken : ∃ past, Overtaken {} past Race.event "A0000001" := by
  obtain ⟨past, look, rest, -, -, -, h⟩ := reported_unpaid_iff_overtaken {} Race.settling
    Race.looking Race.truthful Race.settled (by decide) (by decide) Race.asked
  exact ⟨past, h.1 rfl⟩

end Traffic

end PenaltySettlement
