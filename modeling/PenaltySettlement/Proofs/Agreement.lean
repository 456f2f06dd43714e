import Mathlib.Data.List.Basic
import PenaltySettlement.Proofs.Staleness

/-!
# Calls that miss at the same time

Any number of calls may look up the penalties of one account while the store has no document for
it. Each of them asks the ledger, and the ledger may tell each of them something else. The document
of the first one that comes back to the store is inserted, and that is the only one: all calls that
succeed return it, with the marks that have been made meanwhile.

A call that the ledger refuses returns the refusal, and has not changed the store.

## Main definitions

* `Store.insertions` — the documents that recorded steps insert for an account.
* `Agreement` — what the calls for an account return.

## Main results

* `Store.insertions_of_none` — one document at most is inserted, and only marks come after it.
* `Traffic.misses_agree` — calls that miss at the same time agree.
-/

set_option autoImplicit false

namespace PenaltySettlement

/-! ## Insertions -/

/-- The document that a recorded step inserts for an account: the store had none before the step,
and has this one after it. -/
def Exchange.insertion? (x : Exchange) (key : AccountKey) (s : Store) : Option AccountPenalties :=
  match s.accounts.find? key with
  | some _ => none
  | none => (x.question.effect s).accounts.find? key

/-- **The documents that recorded steps insert** for an account, in their order. -/
def Store.insertions (key : AccountKey) : Store → List Exchange → List AccountPenalties
  | _, [] => []
  | s, x :: history =>
    (x.insertion? key s).toList ++ (x.question.effect s).insertions key history

/-- A harmless step lets a document go on. -/
lemma Ask.Harmless.onAccount_advances {question : Ask} (h : question.Harmless) (key : AccountKey)
    (a : AccountPenalties) : ∃ b, question.onAccount key (some a) = some b ∧ a.Advances b := by
  cases question with
  | accounts action => exact ⟨_, StoreAction.onAccount_some key (h.2 key) a, a.advances_payAll _⟩
  | payables action => exact ⟨a, h.2 key (some a), .refl a⟩
  | confirm input => exact ⟨a, rfl, .refl a⟩
  | transactions query => exact ⟨a, rfl, .refl a⟩
  | time => exact ⟨a, rfl, .refl a⟩

namespace Store

variable {key : AccountKey} {s : Store} {history : List Exchange}

lemma insertions_append (s : Store) (history more : List Exchange) :
    s.insertions key (history ++ more) =
      s.insertions key history ++ (s.after history).insertions key more := by
  induction history generalizing s with
  | nil => rfl
  | cons x history ih =>
    rw [List.cons_append, insertions, insertions, ih, List.append_assoc]
    rfl

/-- Nothing is inserted for an account that has a document, and the document goes on. -/
lemma insertions_of_some (connected : s.connected = true)
    (harmless : ∀ x ∈ history, x.question.Harmless) {a : AccountPenalties}
    (hfind : s.accounts.find? key = some a) :
    s.insertions key history = [] ∧
      ∃ b, (s.after history).accounts.find? key = some b ∧ a.Advances b := by
  induction history generalizing s a with
  | nil => exact ⟨rfl, a, hfind, .refl a⟩
  | cons x history ih =>
    have hx := harmless x List.mem_cons_self
    have hconnected := (effect_connected s hx).trans connected
    obtain ⟨b, hb, hfirst⟩ := hx.onAccount_advances key a
    rw [← hfind, ← effect_find? connected] at hb
    obtain ⟨hnone, c, hc, hrest⟩ :=
      ih hconnected (fun y hy => harmless y (List.mem_cons_of_mem x hy)) hb
    refine ⟨?_, c, hc, hfirst.trans hrest⟩
    rw [insertions, Exchange.insertion?, hfind, hnone]
    rfl

/-- **One document at most is inserted** for an account that has none, and from then on that
document goes on.

**Proof sketch.** Induction on the steps: until the first insertion there is no document, and after
it nothing is inserted (`insertions_of_some`). -/
theorem insertions_of_none (connected : s.connected = true)
    (harmless : ∀ x ∈ history, x.question.Harmless) (hfind : s.accounts.find? key = none) :
    s.insertions key history = [] ∧ (s.after history).accounts.find? key = none ∨
      ∃ first b, s.insertions key history = [first] ∧
        (s.after history).accounts.find? key = some b ∧ first.Advances b := by
  induction history generalizing s with
  | nil => exact .inl ⟨rfl, hfind⟩
  | cons x history ih =>
    have hconnected := (effect_connected s (harmless x List.mem_cons_self)).trans connected
    have hrest : ∀ y ∈ history, y.question.Harmless :=
      fun y hy => harmless y (List.mem_cons_of_mem x hy)
    rw [insertions, Exchange.insertion?, hfind]
    cases hfirst : (x.question.effect s).accounts.find? key with
    | none => exact ih hconnected hrest hfirst
    | some first =>
      obtain ⟨hnone, b, hb, hadvances⟩ := insertions_of_some hconnected hrest hfirst
      refine .inr ⟨first, b, ?_, hb, hadvances⟩
      rw [hnone]
      rfl

end Store

/-! ## What a look at the penalties returns -/

namespace Exchange

/-- The ledger has refused to report the transactions of an account. -/
def Fails (x : Exchange) (key : AccountKey) (source : LedgerError) : Prop :=
  x.toReply = ⟨.transactions ⟨key.customerCode, key.companyCode⟩, .error source⟩

end Exchange

/-- The store has refused a step. -/
def Reply.Refused (reply : Reply) : Prop :=
  ∃ action source, reply = ⟨.accounts action, .error source⟩

namespace PenaltyLookup

variable {key : AccountKey} {replies : List Reply} {result : Except LookupError AccountPenalties}

/-- The replies of a look that the ledger has refused. -/
def refusal (key : AccountKey) (source : LedgerError) : List Reply :=
  [⟨.accounts (.account key), .ok none⟩,
    ⟨.transactions ⟨key.customerCode, key.companyCode⟩, .error source⟩]

/-- Keeping a document ends with a document, unless the store has refused a step. -/
lemma keep_done {made : AccountPenalties} (h : (keep key made).Follows replies (.done result)) :
    (∃ document, result = .ok document) ∨ ∃ reply ∈ replies, reply.Refused := by
  simp only [keep, Activity.step, Activity.ask_bind, Activity.done_bind,
    Activity.follows_ask_done] at h
  obtain ⟨answer, more, rfl, h⟩ := h
  cases answer with
  | error source => exact .inr ⟨_, List.mem_cons_self, _, source, rfl⟩
  | ok done =>
    obtain ⟨found, more, rfl, hlast⟩ := Activity.follows_ask_done.1 h
    cases found with
    | error source =>
      exact .inr ⟨_, List.mem_cons_of_mem _ List.mem_cons_self, _, source, rfl⟩
    | ok found => exact .inl ⟨_, (Activity.follows_done.1 hlast).2⟩

/-- A look at the penalties of an account returns a document, unless the ledger or the store has
refused a step. -/
lemma penalties_done (h : (penalties key).Follows replies (.done result)) :
    (∃ document, result = .ok document) ∨
      (∃ source, result = .error (.ledger source) ∧ replies = refusal key source) ∨
      ∃ reply ∈ replies, reply.Refused := by
  simp only [penalties, fetch, Activity.step, Activity.report, Activity.ask_bind,
    Activity.done_bind, Activity.follows_ask_done] at h
  obtain ⟨answer, more, rfl, h⟩ := h
  rcases answer with source | _ | document
  · exact .inr (.inr ⟨_, List.mem_cons_self, _, source, rfl⟩)
  · obtain ⟨answer, more, rfl, hledger⟩ := Activity.follows_ask_done.1 h
    cases answer with
    | error source =>
      obtain ⟨rfl, rfl⟩ := Activity.follows_done.1 hledger
      exact .inr (.inl ⟨source, rfl, rfl⟩)
    | ok response =>
      obtain ⟨now, more, rfl, hkeep⟩ :=
        Activity.follows_ask_done.1 (Activity.follows_note_done.1 hledger)
      rcases keep_done hkeep with hdocument | ⟨reply, hreply, hrefused⟩
      · exact .inl hdocument
      · exact .inr (.inr ⟨reply, by simp [hreply], hrefused⟩)
  · exact .inl ⟨_, (Activity.follows_done.1 (Activity.follows_note_done.1 h)).2⟩

/-- Keeping a document does not ask for transactions. -/
lemma keep_asks (past : List Reply) (key : AccountKey) (made : AccountPenalties) :
    Activity.Asks (fun _ question => ∀ query, question ≠ .transactions query) past
      (keep key made) := by
  refine ⟨fun query => Ask.noConfusion, fun created => ?_⟩
  cases created with
  | error source => trivial
  | ok done =>
    refine ⟨fun query => Ask.noConfusion, fun found => ?_⟩
    cases found <;> trivial

end PenaltyLookup

/-- **A look that the ledger has refused** is over: it returns the refusal.

**Proof sketch.** The ledger is asked once, right after the store; what comes behind its answer does
not ask it again (`PenaltyLookup.keep_asks`). -/
lemma Call.penalties_refused {key : AccountKey} {replies : List Reply} {rest : Activity Outcome}
    {query : TransactionsQuery} {source : LedgerError}
    (h : (Call.penalties key).activity.Follows replies rest)
    (hmem : ⟨.transactions query, .error source⟩ ∈ replies) :
    replies = PenaltyLookup.refusal key source ∧
      rest = .done (.penalties (.error (.ledger source))) := by
  rcases h with ⟨rfl, -⟩ | ⟨found, others, rfl, hfound⟩
  · simp at hmem
  rcases List.mem_cons.1 hmem with hstore | hothers
  · cases hstore
  rcases found with e | _ | document
  · obtain ⟨rfl, -⟩ := hfound
    simp at hothers
  · rcases hfound with ⟨rfl, -⟩ | ⟨response, more, rfl, hresponse⟩
    · simp at hothers
    rcases List.mem_cons.1 hothers with hledger | hmore
    · cases hledger
      obtain ⟨rfl, rfl⟩ := hresponse
      exact ⟨rfl, rfl⟩
    · cases response with
      | error e =>
        obtain ⟨rfl, -⟩ := hresponse
        simp at hmore
      | ok response =>
        -- behind the report of the ledger there is no other question for one
        have hkeep : Activity.Asks (fun _ question => ∀ query, question ≠ .transactions query) []
            (do
              let now ← Activity.step .time
              let kept ← PenaltyLookup.keep key (.ofTransactions now key response.data)
              return Outcome.penalties kept) :=
          .bind (x := Activity.step .time) ⟨fun query => Ask.noConfusion, fun _ => trivial⟩
            fun past now => .bind (PenaltyLookup.keep_asks past key _) fun _ _ => trivial
        obtain ⟨earlier, last, rfl⟩ := List.append_of_mem hmore
        rcases hresponse with ⟨hnil, -⟩ | hresponse
        · simp at hnil
        · exact absurd rfl (hkeep.of_follows hresponse query)
  · rcases hfound with ⟨rfl, -⟩ | ⟨rfl, -⟩ <;> simp at hothers

/-! ## Agreement -/

/-- **Calls that agree.** One document at most is inserted for the account, and exactly one if a
call has come to its end after a report of the ledger. A call that has come to its end has returned
that document, as it has gone on since, or the refusal of the ledger. A call that the ledger has
refused has come to its end, and none of its steps changes a store. -/
structure Agreement (start : Store) (key : AccountKey) (history : List Exchange) (t : Traffic) :
    Prop where
  once : (start.insertions key history).length ≤ 1
  inserted : ∀ {i outcome x response},
    t.calls[i]? = some ⟨.penalties key, .done outcome⟩ → x ∈ history → x.caller = i →
    x.Reports key response → (start.insertions key history).length = 1
  returned : ∀ {i outcome}, t.calls[i]? = some ⟨.penalties key, .done outcome⟩ →
    (∃ first document, start.insertions key history = [first] ∧
      outcome = .penalties (.ok document) ∧ first.Advances document) ∨
    ∃ x source, x ∈ history ∧ x.caller = i ∧ x.Fails key source ∧
      outcome = .penalties (.error (.ledger source))
  refused : ∀ {x source}, x ∈ history → x.call = .penalties key → x.Fails key source →
    t.calls[x.caller]? = some ⟨.penalties key, .done (.penalties (.error (.ledger source)))⟩ ∧
    ∀ y ∈ history, y.caller = x.caller → ∀ s, y.question.effect s = s

namespace Traffic

section

variable {start : Store} {history : List Exchange} {t : Traffic}

/-- A recorded step is among the replies of its caller. -/
lemma mem_repliesOf {x : Exchange} (hx : x ∈ history) :
    x.toReply ∈ repliesOf x.caller history :=
  List.mem_map_of_mem (List.mem_filter.2 ⟨hx, by simp⟩)

/-- A store that is connected at first refuses no step. -/
lemma Recorded.not_refused (h : Recorded start history t) (connected : start.connected = true)
    {x : Exchange} (hx : x ∈ history) : ¬ x.toReply.Refused := by
  rintro ⟨action, source, hreply⟩
  obtain ⟨before, after, heq⟩ := List.append_of_mem hx
  have harmless : ∀ y ∈ before, y.question.Harmless := fun y hy =>
    h.proper.harmless y (by simp [heq, hy])
  have hserved := h.served
  rw [heq, Store.served_append] at hserved
  obtain ⟨-, ⟨outside, hanswer⟩, -⟩ := hserved
  rw [hreply] at hanswer
  obtain ⟨result, hresult⟩ :=
    Store.perform_outcome ((Store.connected_after harmless).trans connected) action
  cases hanswer.trans hresult

/-- A document that is found in the store is the one that was inserted, as it has gone on since. -/
lemma Recorded.inserted_of_read (h : Recorded start history t)
    (connected : start.connected = true) {key : AccountKey}
    (absent : start.accounts.find? key = none) {x : Exchange} (hx : x ∈ history)
    {document : AccountPenalties}
    (hreply : x.toReply = ⟨.accounts (.account key), .ok (some document)⟩) :
    ∃ first, start.insertions key history = [first] ∧ first.Advances document := by
  obtain ⟨before, after, heq⟩ := List.append_of_mem hx
  have harmless : ∀ y ∈ before, y.question.Harmless := fun y hy =>
    h.proper.harmless y (by simp [heq, hy])
  have hread := h.read heq hreply
  rw [← Store.find?_after connected harmless key] at hread
  rcases Store.insertions_of_none connected harmless absent with
    ⟨-, hnone⟩ | ⟨first, b, hfirst, hb, hadvances⟩
  · cases hread.trans hnone
  · obtain rfl := Option.some.inj (hread.trans hb)
    have hconnected := (Store.connected_after harmless).trans connected
    have hrest : ∀ y ∈ x :: after, y.question.Harmless := fun y hy =>
      h.proper.harmless y (by rw [heq]; exact List.mem_append_right _ hy)
    refine ⟨first, ?_, hadvances⟩
    rw [heq, Store.insertions_append, hfirst, (Store.insertions_of_some hconnected hrest hb).1]
    rfl

/-- A call that has created a document finds one afterwards. -/
lemma Recorded.found_ne_none (h : Recorded start history t) {i : Nat} {earlier : List Reply}
    {key : AccountKey} {found : Option AccountPenalties}
    (hreplies : repliesOf i history = earlier ++ [⟨.accounts (.account key), .ok found⟩])
    (hcreated : ∃ reply ∈ earlier, reply.question.Creates key) : found ≠ none := by
  obtain ⟨reply, hreply, hcreates⟩ := hcreated
  obtain ⟨before, look, after, heq, -, hlook, hbefore, -⟩ := exists_of_repliesOf_eq hreplies
  rw [← hbefore] at hreply
  obtain ⟨x, hx, -, rfl⟩ := exists_of_mem_repliesOf hreply
  have harmless : ∀ y ∈ before, y.question.Harmless := fun y hy =>
    h.proper.harmless y (by simp [heq, hy])
  rw [h.read heq hlook]
  exact documentAfter_ne_none key harmless _ ⟨x, hx, hcreates⟩

/-- A call that has come to its end has returned the document that was inserted, or the refusal of
the ledger. -/
lemma Recorded.returned (h : Recorded start history t) (connected : start.connected = true)
    {key : AccountKey} (absent : start.accounts.find? key = none) {i : Nat} {outcome : Outcome}
    (hi : t.calls[i]? = some ⟨.penalties key, .done outcome⟩) :
    (∃ first document, start.insertions key history = [first] ∧
      outcome = .penalties (.ok document) ∧ first.Advances document) ∨
    ∃ source, repliesOf i history = PenaltyLookup.refusal key source ∧
      outcome = .penalties (.error (.ledger source)) := by
  obtain ⟨looked, last, result, hreplies, hlooked, hlast⟩ :=
    Activity.follows_bind_done.1 (h.follows hi)
  obtain ⟨rfl, rfl⟩ := Activity.follows_done.1 hlast
  rw [List.append_nil] at hreplies
  rcases PenaltyLookup.penalties_done hlooked with
    ⟨document, rfl⟩ | ⟨source, rfl, rfl⟩ | ⟨reply, hreply, hrefused⟩
  · left
    obtain ⟨earlier, found, rfl, hfound⟩ := PenaltyLookup.penalties_replies hlooked
    obtain rfl : found = some document := by
      rcases hfound with hfound | ⟨hnone, hcreated⟩
      · exact hfound
      · exact absurd hnone (h.found_ne_none hreplies hcreated)
    obtain ⟨before, x, after, heq, -, hlook, -, -⟩ := exists_of_repliesOf_eq hreplies
    have hx : x ∈ history := by simp [heq]
    obtain ⟨first, hfirst, hadvances⟩ := h.inserted_of_read connected absent hx hlook
    exact ⟨first, document, hfirst, rfl, hadvances⟩
  · exact .inr ⟨source, hreplies, rfl⟩
  · rw [← hreplies] at hreply
    obtain ⟨x, hx, -, rfl⟩ := exists_of_mem_repliesOf hreply
    exact absurd hrefused (h.not_refused connected hx)

/-- A call that the ledger has refused has come to its end. -/
lemma Recorded.refused (h : Recorded start history t) {key : AccountKey} {x : Exchange}
    (hx : x ∈ history) (hcall : x.call = .penalties key) {source : LedgerError}
    (hfails : x.Fails key source) :
    t.calls[x.caller]? = some ⟨.penalties key, .done (.penalties (.error (.ledger source)))⟩ ∧
      repliesOf x.caller history = PenaltyLookup.refusal key source := by
  obtain ⟨⟨call, rest⟩, ho, hsame⟩ := h.callers x hx
  obtain rfl : call = .penalties key := hsame.trans hcall
  have hmem := mem_repliesOf hx
  rw [hfails] at hmem
  obtain ⟨hreplies, rfl⟩ := Call.penalties_refused (h.follows ho) hmem
  exact ⟨ho, hreplies⟩

/-- The steps of such a call change nothing. -/
lemma effect_of_mem_refusal {key : AccountKey} {source : LedgerError} {reply : Reply}
    (h : reply ∈ PenaltyLookup.refusal key source) (s : Store) : reply.question.effect s = s := by
  rcases List.mem_pair.1 h with rfl | rfl
  · exact s.perform_account key
  · rfl

end

/-- **Calls that miss at the same time agree.** Take a connected store that has no document for an
account, and any calls on it, in any order of their steps and with any answers of the ledger.

**Proof sketch.** What a call returns is what it finds last (`PenaltyLookup.penalties_replies`), and
what is found is the document that was inserted (`Recorded.inserted_of_read`); a connected store
refuses no step (`Recorded.not_refused`). A call that the ledger refuses asks for nothing more
(`Call.penalties_refused`). -/
theorem misses_agree {store : Store} (connected : store.connected = true) {key : AccountKey}
    (absent : store.accounts.find? key = none) (moves : List Move) :
    Agreement store key (run { store } moves).2 (run { store } moves).1 := by
  have h := (recorded_nil store).run moves
  rw [List.nil_append] at h
  exact {
    once := by
      rcases Store.insertions_of_none connected h.proper.harmless absent with
        ⟨hnone, -⟩ | ⟨first, -, hfirst, -, -⟩
      · simp [hnone]
      · simp [hfirst]
    inserted := by
      rintro i outcome x response hi hx rfl hreports
      rcases h.returned connected absent hi with ⟨first, -, hfirst, -⟩ | ⟨source, hreplies, -⟩
      · simp [hfirst]
      · have hmem := mem_repliesOf hx
        rw [hreplies, hreports] at hmem
        rcases List.mem_pair.1 hmem with heq | heq <;> cases heq
    returned := by
      intro i outcome hi
      rcases h.returned connected absent hi with hreturned | ⟨source, hreplies, houtcome⟩
      · exact .inl hreturned
      · have hmem : ⟨.transactions ⟨key.customerCode, key.companyCode⟩, .error source⟩ ∈
            repliesOf i (run { store } moves).2 := by
          rw [hreplies]
          exact List.mem_pair.2 (.inr rfl)
        obtain ⟨x, hx, hcaller, hfails⟩ := exists_of_mem_repliesOf hmem
        exact .inr ⟨x, source, hx, hcaller, hfails, houtcome⟩
    refused := by
      intro x source hx hcall hfails
      obtain ⟨hover, hreplies⟩ := h.refused hx hcall hfails
      refine ⟨hover, fun y hy hcaller s => ?_⟩
      have hmem := mem_repliesOf hy
      rw [hcaller, hreplies] at hmem
      exact effect_of_mem_refusal hmem s
  }

/-! ### Three misses -/

namespace Misses

/-- The account that is looked up. -/
def key : AccountKey := ⟨"10000024", "LP"⟩

/-- Three calls find no document. The ledger reports a penalty to the second call, nothing to the
first one, and refuses the third one. The second call comes back first, and its document is marked
before the first call comes back. -/
def moves : List Move :=
  [.enter (.penalties key), .enter (.penalties key), .enter (.penalties key),
    .enter (.markPaid key "A0000001"), .go 0 {}, .go 1 {}, .go 2 {},
    .go 1 { transactions := .ok Race.report }, .go 0 {},
    .go 2 { transactions := .error (.bodyRead "connection reset") }, .go 1 {}, .go 1 {}, .go 1 {},
    .go 3 {}, .go 3 {}, .go 0 {}, .go 0 {}, .go 0 {}, .go 0 {}, .go 1 {}]

/-- The document that comes of the report, with the penalty marked. -/
def marked : AccountPenalties :=
  (AccountPenalties.ofTransactions default key Race.report.data).markPaid "A0000001"
    (Instant.toMillis default)

/-- The first call returns the marked document, although the ledger has reported nothing to it. -/
lemma first_returned : (run { store := {} } moves).1.calls[0]? =
    some ⟨.penalties key, .done (.penalties (.ok marked))⟩ := rfl

end Misses

/-- **The call that comes back later** returns the document of the other one, with its mark. -/
theorem misses_agree_on_first : (run { store := {} } Misses.moves).1.calls[0]? =
      some ⟨.penalties Misses.key, .done (.penalties (.ok Misses.marked))⟩ ∧
    ∃ first, ({} : Store).insertions Misses.key (run { store := {} } Misses.moves).2 = [first] ∧
      first.Advances Misses.marked := by
  have agreement : Agreement {} Misses.key _ _ := misses_agree rfl rfl Misses.moves
  refine ⟨Misses.first_returned, ?_⟩
  rcases agreement.returned Misses.first_returned with
    ⟨first, document, hfirst, houtcome, hadvances⟩ | ⟨-, source, -, -, -, houtcome⟩
  · cases houtcome
    exact ⟨first, hfirst, hadvances⟩
  · cases houtcome

end Traffic

end PenaltySettlement
