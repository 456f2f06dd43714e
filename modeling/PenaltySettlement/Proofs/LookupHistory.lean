import Mathlib.Data.List.Forall2
import Mathlib.Data.Set.Subsingleton
import PenaltySettlement.Proofs.Desk
import PenaltySettlement.Proofs.StoreSteps

/-!
# Looking up penalties, one look after the other

A look at the penalties of an account asks the ledger exactly when the store is connected and has
no document for the account, and then once and for that account. What comes of it leaves the store
such that the next look is right again: an answer becomes the document of the account and is found
from then on, and an error leaves everything as it was, so that the ledger is asked again. So
between two removals of a document the ledger answers at most one query for the account.

## Main definitions

* `CacheUse` — what is done with the documents that are kept; `Desk.use`, `Desk.useAll` — a desk
  afterwards.
* `AccountPenalties.Shows` — a document shows the transactions that the ledger reports.
* `Desk.LookedUp` — what a look at the penalties of an account comes to.
* `Desk.AnsweredQuery` — a query for an account that the ledger has answered.

## Main results

* `Desk.lookedUp_look` — a look at a desk in any state.
* `Desk.answeredQuery_unique` — the ledger answers at most one query for an account until the
  document of the account is removed.
* `Desk.lookups_over_history` — looks after any history.
-/

set_option autoImplicit false

namespace PenaltySettlement

/-! ## Documents and transactions -/

/-- The query for the transactions of an account. -/
def AccountKey.query (key : AccountKey) : TransactionsQuery := ⟨key.customerCode, key.companyCode⟩

/-- Different accounts have different queries. -/
lemma AccountKey.query_injective : Function.Injective AccountKey.query := by
  rintro ⟨customerCode, companyCode⟩ ⟨customerCode', companyCode'⟩ h
  cases h
  rfl

/-- **A penalty copies a transaction**: all that it tells, paid or not, is what the transaction
tells. -/
structure PenaltyItem.Copies (item : PenaltyItem) (t : LedgerTransaction) : Prop where
  transactionReference : item.transactionReference = t.transactionReference
  transactionDate : item.transactionDate = t.transactionDate
  madeUpDate : item.madeUpDate = t.madeUpDate
  isPaid : item.isPaid = t.isPaid
  amount : item.amount = t.amount
  outstandingAmount : item.outstandingAmount = t.outstandingAmount
  transactionType : item.transactionType = t.transactionType
  transactionSubType : item.transactionSubType = t.transactionSubType
  description : item.description = t.description
  dueDate : item.dueDate = t.dueDate
  accountStatus : item.accountStatus = t.accountStatus
  dunningStatus : item.dunningStatus = t.dunningStatus

/-- **A document shows transactions** of an account: it is the account's, whatever account the
transactions name, it is not closed, and it has one item for each of them, in their order. -/
structure AccountPenalties.Shows (document : AccountPenalties) (key : AccountKey)
    (transactions : List LedgerTransaction) : Prop where
  key : document.key = key
  closedAt : document.closedAt = none
  items : List.Forall₂ PenaltyItem.Copies document.data transactions

/-- A document that is made of transactions shows them. -/
lemma AccountPenalties.shows_ofTransactions (now : Instant) (key : AccountKey)
    (transactions : List LedgerTransaction) :
    (ofTransactions now key transactions).Shows key transactions where
  key := rfl
  closedAt := rfl
  items := by
    show List.Forall₂ _ (transactions.map PenaltyItem.ofTransaction) transactions
    rw [List.forall₂_map_left_iff, List.forall₂_same]
    exact fun t _ => ⟨rfl, rfl, rfl, rfl, rfl, rfl, rfl, rfl, rfl, rfl, rfl, rfl⟩

/-! ## Looks at a desk -/

/-- **What is done with the documents that are kept**: the penalties of an account are looked up or
one of them, a penalty is marked paid, a document is removed, or the store is shut down. -/
inductive CacheUse where
  | penalties (key : AccountKey)
  | isPaid (key : AccountKey) (reference : String)
  | markPaid (key : AccountKey) (reference : String)
  | delete (key : AccountKey)
  | shutDown
  deriving DecidableEq

/-- The work of a use, whatever comes of it. -/
def CacheUse.work : CacheUse → Activity Unit
  | .penalties key => do let _ ← PenaltyLookup.penalties key
  | .isPaid key reference => do let _ ← PenaltyLookup.isPaid key reference
  | .markPaid key reference => do let _ ← Settlement.markPaid key [reference]
  | .delete key => do let _ ← Activity.step (.accounts (.deleteAccount key))
  | .shutDown => do let _ ← Activity.step (.accounts .shutDown)

namespace Desk

/-- A step that is taken at the desk, apart from what it logs. -/
def serve (question : Ask) : StateM Desk question.Answer := fun d =>
  ((d.answer question).1, (d.answer question).2.1)

/-- An activity comes to the same at a desk whether or not there is a log. -/
lemma run_serve {α : Type} (x : Activity α) (d : Desk) (log : Log) :
    Activity.run serve Activity.unlogged x d =
      ((Activity.run take write x (d, log)).1, (Activity.run take write x (d, log)).2.1) := by
  induction x generalizing d log with
  | done result => rfl
  | note entry rest ih => exact ih d _
  | ask question next ih => exact ih _ _ _

/-- The desk after a use. -/
def use (d : Desk) (use : CacheUse) : Desk := (Activity.run serve Activity.unlogged use.work d).2

/-- **The desk after uses**, one after the other. -/
def useAll (d : Desk) (uses : List CacheUse) : Desk := uses.foldl Desk.use d

/-- **A look at the penalties of an account**: what it returns, and the desk afterwards. -/
def look (d : Desk) (key : AccountKey) : Except LookupError AccountPenalties × Desk :=
  Activity.run serve Activity.unlogged (PenaltyLookup.penalties key) d

/-- **A look at one of the penalties** of an account. -/
def lookPaid (d : Desk) (key : AccountKey) (reference : String) :
    Except LookupError (Option Bool) × Desk :=
  Activity.run serve Activity.unlogged (PenaltyLookup.isPaid key reference) d

/-- The document that the store has for an account. -/
def document? (d : Desk) (key : AccountKey) : Option AccountPenalties :=
  d.store.accounts.find? key

/-- The desk after the ledger has been asked for the transactions of an account. -/
def asked (d : Desk) (key : AccountKey) : Desk := { d with queries := d.queries ++ [key.query] }

/-- The desk after a document has been made, at a look at the clock, and kept. -/
def keeping (d : Desk) (document : AccountPenalties) : Desk :=
  { d with
    store := { d.store with accounts := d.store.accounts.insert document.key document }
    looks := d.looks + 1 }

/-- **What a look at the penalties of an account comes to.** When the ledger is asked, its answer to
the next query decides. -/
inductive LookedUp (d : Desk) (key : AccountKey) : Except LookupError AccountPenalties × Desk → Prop
  /-- A store that has been shut down refuses. -/
  | disconnected : d.store.connected = false → LookedUp d key (.error (.store .disconnected), d)
  /-- A document that is there is returned, and nothing changes. -/
  | hit {document : AccountPenalties} : d.store.connected = true →
      d.document? key = some document → LookedUp d key (.ok document, d)
  /-- An error of the ledger is returned, and the store stays as it is. -/
  | unreported {source : LedgerError} : d.store.connected = true → d.document? key = none →
      d.reports d.queries.length = .error source →
      LookedUp d key (.error (.ledger source), d.asked key)
  /-- A document that shows the transactions is kept and returned. -/
  | reported {response : TransactionsResponse} {document : AccountPenalties} :
      d.store.connected = true → d.document? key = none →
      d.reports d.queries.length = .ok response → document.Shows key response.data →
      LookedUp d key (.ok document, (d.asked key).keeping document)

/-- A document is kept for an account that has none. -/
lemma run_keep {d : Desk} (hconnected : d.store.connected = true) (document : AccountPenalties)
    (hnone : d.document? document.key = none) :
    Activity.run serve Activity.unlogged (PenaltyLookup.keep document.key document)
        { d with looks := d.looks + 1 } =
      (.ok document, d.keeping document) := by
  have hcreate := Store.createAccount_of_none hconnected hnone
  simp only [PenaltyLookup.keep, Activity.step, Activity.ask_bind, Activity.done_bind,
    Activity.run_ask, serve, answer, atAccounts, Store.perform, hcreate]
  simp [Store.account, Store.whenConnected, hconnected, keeping]

/-- An account without a document is asked for at the ledger, and the answer decides. -/
lemma lookedUp_fetch {d : Desk} (hconnected : d.store.connected = true) {key : AccountKey}
    (hnone : d.document? key = none) :
    d.LookedUp key (Activity.run serve Activity.unlogged (PenaltyLookup.fetch key) d) := by
  simp only [PenaltyLookup.fetch, Activity.step, Activity.report, Activity.ask_bind,
    Activity.done_bind, Activity.run_ask, serve, answer]
  cases hreport : d.reports d.queries.length with
  | error source => exact .unreported hconnected hnone hreport
  | ok response =>
    let document : AccountPenalties := .ofTransactions (d.clock d.looks) key response.data
    have hkept : Activity.run serve Activity.unlogged (PenaltyLookup.keep key document)
        { d.asked key with looks := d.looks + 1 } =
          (.ok document, (d.asked key).keeping document) :=
      run_keep (d := d.asked key) hconnected document hnone
    show d.LookedUp key (Activity.run serve Activity.unlogged (PenaltyLookup.keep key document)
      { d.asked key with looks := d.looks + 1 })
    rw [hkept]
    exact .reported hconnected hnone hreport (AccountPenalties.shows_ofTransactions _ key _)

/-- **A look at the penalties of an account**, at a desk in any state. -/
theorem lookedUp_look (d : Desk) (key : AccountKey) : d.LookedUp key (d.look key) := by
  simp only [look, PenaltyLookup.penalties, Activity.step, Activity.report, Activity.ask_bind,
    Activity.done_bind, Activity.note_bind, Activity.pure_eq, Activity.run_ask, serve, answer,
    atAccounts, Store.perform, Store.account, Store.whenConnected]
  cases hconnected : d.store.connected with
  | false => exact .disconnected hconnected
  | true =>
    rw [if_pos rfl]
    cases hdocument : d.store.accounts.find? key with
    | some document => exact .hit hconnected hdocument
    | none => exact lookedUp_fetch hconnected hdocument

/-- Whether a penalty is paid is read off the document that a look at the penalties gives. -/
lemma lookPaid_eq (d : Desk) (key : AccountKey) (reference : String) :
    d.lookPaid key reference =
      ((d.look key).1.map fun document => document.paid? reference, (d.look key).2) := by
  rw [lookPaid, PenaltyLookup.run_isPaid]
  rfl

/-! ## The queries of a history -/

/-- **A look at an account needs no query**: the store has a document for it or answers no more. -/
def Held (d : Desk) (key : AccountKey) : Prop :=
  d.store.connected = false ∨ (d.document? key).isSome

/-- A use does what its work does, whatever comes of that. -/
lemma use_eq {α : Type} {u : CacheUse} {x : Activity α} (h : u.work = do let _ ← x) (d : Desk) :
    d.use u = (Activity.run serve Activity.unlogged x d).2 := by
  rw [use, h, Activity.run_discard]

/-- A look at one of the penalties of an account leaves what a look at all of them leaves. -/
lemma use_look (d : Desk) (key : AccountKey) (reference : String) :
    d.use (.penalties key) = (d.look key).2 ∧ d.use (.isPaid key reference) = (d.look key).2 := by
  refine ⟨use_eq rfl d, ?_⟩
  rw [use_eq (x := PenaltyLookup.isPaid key reference) rfl, ← lookPaid, lookPaid_eq]

/-- A mark is made in the document of its account. -/
lemma use_markPaid (d : Desk) (key : AccountKey) (reference : String) :
    d.use (.markPaid key reference) = d.markAll key [reference] := by
  rw [use_eq (x := Settlement.markPaid key [reference]) rfl, ← markPaid_desk _ _ _ [],
    run_serve _ _ []]

/-- **One use and the ledger**: it asks nothing, or it asks once for an account that needs a query,
which needs none any more if the ledger answers. The answers to come stay the same. -/
lemma use_queries (d : Desk) (u : CacheUse) :
    (d.use u).reports = d.reports ∧
      ((d.use u).queries = d.queries ∨
        ∃ key, ¬ d.Held key ∧ (d.use u).queries = d.queries ++ [key.query] ∧
          ∀ response, d.reports d.queries.length = .ok response → (d.use u).Held key) := by
  have hlook : ∀ key, (d.look key).2.reports = d.reports ∧
      ((d.look key).2.queries = d.queries ∨
        ∃ key', ¬ d.Held key' ∧ (d.look key).2.queries = d.queries ++ [key'.query] ∧
          ∀ response, d.reports d.queries.length = .ok response → (d.look key).2.Held key') := by
    intro key
    have hlooked := d.lookedUp_look key
    generalize d.look key = looked at hlooked
    cases hlooked with
    | disconnected => exact ⟨rfl, .inl rfl⟩
    | hit => exact ⟨rfl, .inl rfl⟩
    | unreported hconnected hnone hreport =>
      refine ⟨rfl, .inr ⟨key, by simp [Held, hconnected, hnone], rfl, ?_⟩⟩
      rw [hreport]
      exact nofun
    | @reported response document hconnected hnone hreport hshows =>
      refine ⟨rfl, .inr ⟨key, by simp [Held, hconnected, hnone], rfl, fun _ _ => .inr ?_⟩⟩
      simp [document?, keeping, hshows.key]
  cases u with
  | penalties key =>
    rw [(d.use_look key "").1]
    exact hlook key
  | isPaid key reference =>
    rw [(d.use_look key reference).2]
    exact hlook key
  | markPaid key reference =>
    rw [use_markPaid, markAll]
    split <;> exact ⟨rfl, .inl rfl⟩
  | delete key => exact ⟨rfl, .inl rfl⟩
  | shutDown => exact ⟨rfl, .inl rfl⟩

/-- **An account that needs no query** goes on needing none until its document is removed. -/
lemma Held.use {d : Desk} {key : AccountKey} (h : d.Held key) {u : CacheUse}
    (hu : u ≠ .delete key) : (d.use u).Held key := by
  have hlook : ∀ other, (d.look other).2.Held key := by
    intro other
    have hlooked := d.lookedUp_look other
    generalize d.look other = looked at hlooked
    cases hlooked with
    | disconnected => exact h
    | hit => exact h
    | unreported => exact h
    | @reported response document hconnected hnone hreport hshows =>
      refine h.imp id fun hsome => ?_
      show ((d.store.accounts.insert document.key document).find? key).isSome
      rw [Table.find?_insert]
      split
      · rfl
      · exact hsome
  cases u with
  | penalties other =>
    rw [(d.use_look other "").1]
    exact hlook other
  | isPaid other reference =>
    rw [(d.use_look other reference).2]
    exact hlook other
  | markPaid other reference =>
    rw [use_markPaid, markAll]
    split
    · refine h.imp id fun hsome => ?_
      show ((d.store.accounts.modify other _).find? key).isSome
      rw [Table.find?_modify]
      split
      · rw [Option.isSome_map]
        exact hsome
      · exact hsome
    · exact h
  | delete other =>
    have hother : key ≠ other := fun hkey => hu (hkey ▸ rfl)
    show Held { d with store := (d.store.deleteAccount other).store } key
    rw [Store.deleteAccount, Store.whenConnected]
    split
    · refine h.imp id fun hsome => ?_
      show ((d.store.accounts.erase other).find? key).isSome
      rw [Table.find?_erase, if_neg hother]
      exact hsome
    · exact h
  | shutDown => exact .inl rfl

@[simp]
lemma useAll_nil (d : Desk) : d.useAll [] = d := rfl

@[simp]
lemma useAll_cons (d : Desk) (u : CacheUse) (uses : List CacheUse) :
    d.useAll (u :: uses) = (d.use u).useAll uses := rfl

/-- Uses in a row are made in a row. -/
lemma useAll_append (d : Desk) (uses more : List CacheUse) :
    d.useAll (uses ++ more) = (d.useAll uses).useAll more := List.foldl_append

/-- Queries stay recorded, and the answers to come stay the same. -/
lemma useAll_queries (d : Desk) (uses : List CacheUse) :
    (d.useAll uses).reports = d.reports ∧ d.queries <+: (d.useAll uses).queries := by
  induction uses generalizing d with
  | nil => exact ⟨rfl, List.prefix_rfl⟩
  | cons u uses ih =>
    obtain ⟨hreports, hqueries⟩ := ih (d.use u)
    obtain ⟨hreports', hqueries'⟩ := d.use_queries u
    refine ⟨hreports.trans hreports', List.IsPrefix.trans ?_ hqueries⟩
    rcases hqueries' with hsame | ⟨key, -, hmore, -⟩
    · exact hsame ▸ List.prefix_rfl
    · exact hmore ▸ List.prefix_append _ _

/-- An account that needs no query is not asked for until its document is removed. -/
lemma Held.not_queried {d : Desk} {key : AccountKey} (h : d.Held key) {uses : List CacheUse}
    (huses : .delete key ∉ uses) {n : Nat} (hn : d.queries.length ≤ n) :
    (d.useAll uses).queries[n]? ≠ some key.query := by
  induction uses generalizing d with
  | nil =>
    rw [useAll_nil, List.getElem?_eq_none hn]
    exact nofun
  | cons u uses ih =>
    obtain ⟨hfirst, hrest⟩ := List.ne_and_not_mem_of_not_mem_cons huses
    have hheld := h.use hfirst.symm
    rw [useAll_cons]
    rcases (d.use_queries u).2 with hsame | ⟨other, hother, hmore, -⟩
    · exact ih hheld hrest (hsame ▸ hn)
    · rcases Nat.eq_or_lt_of_le hn with rfl | hlater
      · -- The query of this use is for another account.
        intro hquery
        obtain ⟨more, hprefix⟩ := ((d.use u).useAll_queries uses).2
        rw [← hprefix, hmore, List.append_assoc, List.getElem?_append_right (Nat.le_refl _),
          Nat.sub_self] at hquery
        exact hother (AccountKey.query_injective (Option.some.inj hquery) ▸ h)
      · refine ih hheld hrest ?_
        rw [hmore, List.length_append, List.length_singleton]
        exact hlater

/-- **A query for an account that the ledger has answered**, by its place among all queries. -/
def AnsweredQuery (d : Desk) (key : AccountKey) (n : Nat) : Prop :=
  d.queries[n]? = some key.query ∧ ∃ response, d.reports n = .ok response

/-- **The ledger answers at most one query** for an account until the document of the account is
removed.

**Proof sketch.** Induction on the uses. A use that asks for the account and is answered leaves the
account without need of a query (`use_queries`), so that none follows (`Held.not_queried`); any
other use adds no answered query for the account. -/
theorem answeredQuery_unique (d : Desk) {key : AccountKey} {uses : List CacheUse}
    (h : .delete key ∉ uses) :
    {n | d.queries.length ≤ n ∧ (d.useAll uses).AnsweredQuery key n}.Subsingleton := by
  induction uses generalizing d with
  | nil =>
    rintro n ⟨hn, hquery, -⟩
    rw [useAll_nil, List.getElem?_eq_none hn] at hquery
    cases hquery
  | cons u uses ih =>
    obtain ⟨hfirst, hrest⟩ := List.ne_and_not_mem_of_not_mem_cons h
    obtain ⟨hreports, hqueries⟩ := d.use_queries u
    have hlater := ih (d.use u) hrest
    rw [useAll_cons]
    rcases hqueries with hsame | ⟨other, -, hmore, hheld⟩
    · rwa [hsame] at hlater
    · obtain ⟨hkept, more, hprefix⟩ := (d.use u).useAll_queries uses
      have hhere : ((d.use u).useAll uses).queries[d.queries.length]? = some other.query := by
        rw [← hprefix, hmore, List.append_assoc, List.getElem?_append_right (Nat.le_refl _),
          Nat.sub_self]
        rfl
      have hlength : (d.use u).queries.length = d.queries.length + 1 := by
        rw [hmore, List.length_append, List.length_singleton]
      rw [hlength] at hlater
      by_cases hanswered : other = key ∧ ∃ response, d.reports d.queries.length = .ok response
      · obtain ⟨rfl, response, hresponse⟩ := hanswered
        -- Nothing is asked for the account behind this query.
        have hlast : ∀ n, d.queries.length ≤ n →
            ((d.use u).useAll uses).AnsweredQuery other n → n = d.queries.length := by
          rintro n hn ⟨hquery, -⟩
          by_contra hne
          exact (hheld response hresponse).not_queried hrest (by omega) hquery
        rintro m ⟨hm, hm'⟩ n ⟨hn, hn'⟩
        rw [hlast m hm hm', hlast n hn hn']
      · -- The query of this use is none of those that count.
        have hskip : ∀ n, d.queries.length ≤ n →
            ((d.use u).useAll uses).AnsweredQuery key n → d.queries.length + 1 ≤ n := by
          rintro n hn ⟨hquery, hresponse⟩
          rcases Nat.eq_or_lt_of_le hn with rfl | hlt
          · rw [hhere] at hquery
            rw [hkept, hreports] at hresponse
            exact absurd ⟨AccountKey.query_injective (Option.some.inj hquery), hresponse⟩ hanswered
          · exact hlt
        rintro m ⟨hm, hm'⟩ n ⟨hn, hn'⟩
        exact hlater ⟨hskip m hm hm', hm'⟩ ⟨hskip n hn hn', hn'⟩

/-- The ledger is asked exactly for an account that needs a query. -/
lemma queries_look (d : Desk) (key : AccountKey) :
    (d.look key).2.queries =
      if d.store.connected = true ∧ d.document? key = none then d.queries ++ [key.query]
      else d.queries := by
  have hlooked := d.lookedUp_look key
  generalize d.look key = looked at hlooked
  cases hlooked with
  | disconnected hconnected => simp [hconnected]
  | hit _ hdocument => simp [hdocument]
  | unreported hconnected hnone => rw [if_pos ⟨hconnected, hnone⟩]; rfl
  | reported hconnected hnone => rw [if_pos ⟨hconnected, hnone⟩]; rfl

/-- After an error of the ledger, the next look at the account asks it again. -/
lemma queries_look_again {d : Desk} {key : AccountKey} {source : LedgerError}
    (h : (d.look key).1 = .error (.ledger source)) :
    ((d.look key).2.look key).2.queries = d.queries ++ [key.query, key.query] := by
  rw [queries_look]
  have hlooked := d.lookedUp_look key
  generalize d.look key = looked at h hlooked
  cases hlooked with
  | disconnected => cases h
  | hit => cases h
  | unreported hconnected hnone =>
    have hagain : (d.asked key).store.connected = true ∧ (d.asked key).document? key = none :=
      ⟨hconnected, hnone⟩
    rw [if_pos hagain, asked, List.append_assoc]
    rfl
  | reported => cases h

/-- **Looks at penalties over any history.** Whatever has been done at a desk, a look at the
penalties of an account asks the ledger exactly when the store is connected and has no document for
the account, and then once. What it comes to is one of four cases (`LookedUp`), and a look at a
single penalty comes to the same; after an error of the ledger the next look asks again. From any
moment on, the ledger answers at most one query for an account until the document of the account is
removed. -/
theorem lookups_over_history (start : Desk) (uses : List CacheUse) :
    let d := start.useAll uses
    (∀ key, d.LookedUp key (d.look key) ∧ (d.look key).2.queries =
      if d.store.connected = true ∧ d.document? key = none then d.queries ++ [key.query]
      else d.queries) ∧
    (∀ key reference, d.lookPaid key reference =
      ((d.look key).1.map fun document => document.paid? reference, (d.look key).2)) ∧
    (∀ {key source}, (d.look key).1 = .error (.ledger source) →
      ((d.look key).2.look key).2.queries = d.queries ++ [key.query, key.query]) ∧
    ∀ {before during key}, uses = before ++ during → .delete key ∉ during →
      {n | (start.useAll before).queries.length ≤ n ∧ d.AnsweredQuery key n}.Subsingleton := by
  intro d
  refine ⟨fun key => ⟨d.lookedUp_look key, d.queries_look key⟩, d.lookPaid_eq,
    queries_look_again, ?_⟩
  rintro before during key rfl hduring
  have hd : d = (start.useAll before).useAll during := start.useAll_append before during
  rw [hd]
  exact answeredQuery_unique _ hduring

end Desk

end PenaltySettlement
