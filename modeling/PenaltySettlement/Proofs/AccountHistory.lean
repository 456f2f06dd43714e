import Mathlib.Data.List.DropRight
import Mathlib.Data.Set.Card
import PenaltySettlement.Proofs.StoreSteps

/-!
# Documents and their history

A store tells the document of an account from what has been done for that account: the first
document that was created for it since its last deletion, with all marks since. What was done for
other accounts has no part in it. The store has one document at most for each account, under the
account that the document names.

## Main definitions

* `StoreAction.Addresses` — the actions for an account.
* `sinceDeletion` — the actions since the last deletion of a document.
* `documentOf` — the first document that actions create, with the later marks.
* `Store.KeepsHistory` — what a store tells after actions.

## Main results

* `foldl_onAccount_eq` — the effect of actions on a document is what `documentOf` tells.
* `Table.encard_keys` — the number of entries is the number of keys.
* `Store.keepsHistory` — the documents of a store against its history.
-/

set_option autoImplicit false

namespace PenaltySettlement

/-! ## The history of an account -/

/-- An action for an account. -/
def StoreAction.Addresses (key : AccountKey) : StoreAction → Prop
  | .createAccount document => document.key = key
  | .account other | .markPaid other _ _ | .deleteAccount other => other = key
  | .createPayable _ _ | .payable _ | .updatePayment _ _ | .noteFailure _ _ | .ping
  | .shutDown => False

instance (key : AccountKey) : DecidablePred (StoreAction.Addresses key) := fun action => by
  cases action <;> unfold StoreAction.Addresses <;> infer_instance

section

variable (key : AccountKey)

/-- The actions since the last deletion of the document of an account. -/
def sinceDeletion (actions : List StoreAction) : List StoreAction :=
  actions.rtakeWhile (· ≠ .deleteAccount key)

/-- **The document that actions make** for an account, if none of them deletes it: the first one
that is created, with the marks that come after it. -/
def documentOf : List StoreAction → Option AccountPenalties
  | [] => none
  | action :: later =>
    match action.creation? key with
    | some document => some (document.payAll (later.filterMap (StoreAction.mark? key)))
    | none => documentOf later

/-- One more action takes the document further. -/
lemma documentOf_concat {action : StoreAction} (h : action ≠ .deleteAccount key)
    (actions : List StoreAction) :
    documentOf key (actions ++ [action]) = action.onAccount key (documentOf key actions) := by
  induction actions with
  | nil =>
    rw [List.nil_append, documentOf, documentOf, StoreAction.onAccount_none]
    cases action.creation? key <;> rfl
  | cons first actions ih =>
    rw [List.cons_append, documentOf, documentOf]
    cases first.creation? key with
    | none => exact ih
    | some document =>
      show some (document.payAll ((actions ++ [action]).filterMap (StoreAction.mark? key))) = _
      rw [StoreAction.onAccount_some key h, List.filterMap_append, AccountPenalties.payAll_append]
      cases hmark : action.mark? key <;> simp [hmark]

/-- **What actions make of an account without a document** is told by the actions since the last
deletion.

**Proof sketch.** Induction on the actions from their end. A deletion leaves nothing, and the
history begins anew; any other action takes the document further (`documentOf_concat`). -/
theorem foldl_onAccount_eq (actions : List StoreAction) :
    actions.foldl (fun kept action => action.onAccount key kept) none =
      documentOf key (sinceDeletion key actions) := by
  induction actions using List.reverseRecOn with
  | nil => simp [sinceDeletion, documentOf]
  | append_singleton actions action ih =>
    rw [List.foldl_append, List.foldl_cons, List.foldl_nil, ih]
    by_cases h : action = .deleteAccount key
    · rw [sinceDeletion, sinceDeletion, List.rtakeWhile_concat_neg _ _ _ (by simp [h]), h]
      simp [StoreAction.onAccount, documentOf]
    · rw [sinceDeletion, sinceDeletion, List.rtakeWhile_concat_pos _ _ _ (by simp [h]),
        documentOf_concat key h]

/-- A document that is not deleted meanwhile has the marks of all actions. -/
lemma foldl_onAccount_some {actions : List StoreAction} (h : .deleteAccount key ∉ actions)
    (a : AccountPenalties) :
    actions.foldl (fun kept action => action.onAccount key kept) (some a) =
      some (a.payAll (actions.filterMap (StoreAction.mark? key))) := by
  induction actions generalizing a with
  | nil => rfl
  | cons action actions ih =>
    obtain ⟨hfirst, hrest⟩ := List.ne_and_not_mem_of_not_mem_cons h
    rw [List.foldl_cons, StoreAction.onAccount_some key hfirst.symm, ih hrest,
      ← AccountPenalties.payAll_append, List.filterMap_cons]
    cases action.mark? key <;> rfl

/-- Further actions without a deletion only mark the document. -/
lemma documentOf_append {before after : List StoreAction} {document : AccountPenalties}
    (hbefore : documentOf key (sinceDeletion key before) = some document)
    (hafter : .deleteAccount key ∉ after) :
    documentOf key (sinceDeletion key (before ++ after)) =
      some (document.payAll (after.filterMap (StoreAction.mark? key))) := by
  rw [← foldl_onAccount_eq, List.foldl_append, foldl_onAccount_eq, hbefore,
    foldl_onAccount_some key hafter]

/-- An action for another account has no effect. -/
lemma StoreAction.onAccount_of_not_addresses {action : StoreAction} (h : ¬ action.Addresses key)
    (kept : Option AccountPenalties) : action.onAccount key kept = kept := by
  cases action <;> simp_all [StoreAction.Addresses, StoreAction.onAccount]

/-- The actions for an account make of it what all actions make. -/
lemma foldl_onAccount_filter (actions : List StoreAction) (kept : Option AccountPenalties) :
    (actions.filter (·.Addresses key)).foldl (fun kept action => action.onAccount key kept) kept =
      actions.foldl (fun kept action => action.onAccount key kept) kept := by
  induction actions generalizing kept with
  | nil => rfl
  | cons action actions ih =>
    by_cases h : action.Addresses key
    · rw [List.filter_cons_of_pos (by simpa using h), List.foldl_cons, List.foldl_cons, ih]
    · rw [List.filter_cons_of_neg (by simpa using h), List.foldl_cons,
        StoreAction.onAccount_of_not_addresses key h, ih]

/-- The document of an account names the account. -/
lemma key_of_documentOf {actions : List StoreAction} {document : AccountPenalties}
    (h : documentOf key actions = some document) : document.key = key := by
  induction actions with
  | nil => cases h
  | cons action actions ih =>
    rw [documentOf] at h
    cases hcreated : action.creation? key with
    | none =>
      rw [hcreated] at h
      exact ih h
    | some created =>
      rw [hcreated] at h
      obtain rfl := Option.some.inj h
      rw [AccountPenalties.key_payAll, StoreAction.key_of_creation key hcreated]

end

/-! ## The number of keys -/

namespace Table

variable {κ α : Type} [DecidableEq κ]

/-- The keys are those that have a value. -/
lemma mem_keys_iff (t : Table κ α) (key : κ) : key ∈ t.keys ↔ (t.find? key).isSome := by
  rw [Option.isSome_iff_ne_none, Ne, find?_eq_none_iff, not_not]

/-- An entry is found by its key. -/
lemma find?_of_mem (t : Table κ α) {e : κ × α} (h : e ∈ t.entries) : t.find? e.1 = some e.2 :=
  valueIn?_of_mem t.nodup_keys h

/-- **The size of a table** is the number of keys that have a value. -/
theorem encard_keys (t : Table κ α) : {key | (t.find? key).isSome}.encard = t.size := by
  have hset : {key | (t.find? key).isSome} = (t.keys.toFinset : Set κ) := by
    ext key
    simp [mem_keys_iff]
  have hnodup : t.keys.Nodup := t.nodup_keys
  have hlength : t.keys.length = t.size := List.length_map _
  rw [hset, Set.encard_coe_eq_coe_finsetCard, List.toFinset_card_of_nodup hnodup, hlength]

end Table

/-! ## The documents of a store -/

namespace Store

/-- The document of an account after actions that keep the connection. -/
lemma find?_performAll {s : Store} (h : s.connected = true) {actions : List StoreAction}
    (hactions : .shutDown ∉ actions) (key : AccountKey) :
    (s.performAll actions).accounts.find? key =
      actions.foldl (fun kept action => action.onAccount key kept) (s.accounts.find? key) := by
  induction actions generalizing s with
  | nil => rfl
  | cons action actions ih =>
    obtain ⟨hfirst, hrest⟩ := List.ne_and_not_mem_of_not_mem_cons hactions
    have hconnected : (s.perform action).store.connected = true :=
      (s.perform_connected hfirst.symm).trans h
    rw [List.foldl_cons, ← perform_find? h action key]
    exact ih hconnected hrest

/-- The document of an account in a store that had none at first. -/
lemma find?_performAll_new (payables : Table String PayableResource)
    (latest : Table PayableKey String) {actions : List StoreAction} (h : .shutDown ∉ actions)
    (key : AccountKey) :
    (({ payables, latest } : Store).performAll actions).accounts.find? key =
      documentOf key (sinceDeletion key actions) := by
  rw [find?_performAll rfl h, Table.find?_empty, foldl_onAccount_eq]

/-- The answer of such a store. -/
lemma account_performAll (payables : Table String PayableResource)
    (latest : Table PayableKey String) {actions : List StoreAction} (h : .shutDown ∉ actions)
    (key : AccountKey) :
    ((({ payables, latest } : Store).performAll actions).account key).outcome =
      .ok (documentOf key (sinceDeletion key actions)) := by
  have hconnected := connected_performAll { payables, latest } h
  rw [account, whenConnected, if_pos hconnected, find?_performAll_new payables latest h]

/-- In a store where each document is found under the account that it names, no two documents name
the same account. -/
lemma nodup_of_own {s : Store}
    (own : ∀ {key document}, s.accounts.find? key = some document → document.key = key) :
    (s.accounts.entries.map (·.2.key)).Nodup := by
  have hkeys : s.accounts.entries.map (·.2.key) = s.accounts.keys :=
    List.map_congr_left fun e he => own (s.accounts.find?_of_mem he)
  rw [hkeys]
  exact s.accounts.nodup_keys

/-- **A store that keeps its history.** After the actions, the document of an account is what has
been done for the account since its last deletion, and nothing else has a part in it. There is one
document for an account at most, it is found under the account that it names, and the documents are
counted. Until it is deleted, a document only goes on. -/
structure KeepsHistory (start : Store) (actions : List StoreAction) : Prop where
  documents : ∀ key, ((start.performAll actions).account key).outcome =
    .ok (documentOf key (sinceDeletion key actions))
  addressed : ∀ key, ((start.performAll actions).account key).outcome =
    ((start.performAll (actions.filter (·.Addresses key))).account key).outcome
  own : ∀ {key document}, ((start.performAll actions).account key).outcome = .ok (some document) →
    document.key = key
  distinct : ((start.performAll actions).accounts.entries.map (·.2.key)).Nodup
  count : {key | ∃ document, ((start.performAll actions).account key).outcome =
    .ok (some document)}.encard = (start.performAll actions).accountCount
  advances : ∀ {before after key document}, actions = before ++ after →
    .deleteAccount key ∉ after →
    ((start.performAll before).account key).outcome = .ok (some document) →
    ∃ later, ((start.performAll actions).account key).outcome = .ok (some later) ∧
      document.Advances later

/-- **The documents of a store against its history**, for any actions that keep the connection of a
store which had no documents at first.

**Proof sketch.** Each action acts on the document of an account by itself (`find?_performAll`), so
the document is told by its history (`foldl_onAccount_eq`), the actions for other accounts may be
left out (`foldl_onAccount_filter`), and from one moment to a later one without a deletion there
have been marks only (`foldl_onAccount_some`). -/
theorem keepsHistory (payables : Table String PayableResource) (latest : Table PayableKey String)
    {actions : List StoreAction} (h : .shutDown ∉ actions) :
    KeepsHistory { payables, latest } actions where
  documents := account_performAll payables latest h
  addressed := by
    intro key
    have hfilter : .shutDown ∉ actions.filter (·.Addresses key) :=
      fun hmem => h (List.mem_of_mem_filter hmem)
    rw [account_performAll payables latest h, account_performAll payables latest hfilter,
      ← foldl_onAccount_eq, ← foldl_onAccount_eq, foldl_onAccount_filter]
  own := by
    intro key document hfind
    rw [account_performAll payables latest h] at hfind
    exact key_of_documentOf key (Except.ok.inj hfind)
  distinct := nodup_of_own fun hfind => key_of_documentOf _
    ((find?_performAll_new payables latest h _).symm.trans hfind)
  count := by
    rw [accountCount, ← Table.encard_keys]
    congr 1
    ext key
    simp [account_performAll payables latest h, find?_performAll_new payables latest h,
      Option.isSome_iff_exists]
  advances := by
    rintro before after key document rfl hkept hfind
    have hbefore : .shutDown ∉ before := fun hmem => h (List.mem_append_left _ hmem)
    rw [account_performAll payables latest hbefore] at hfind
    refine ⟨_, ?_, document.advances_payAll (after.filterMap (StoreAction.mark? key))⟩
    rw [account_performAll payables latest h, documentOf_append key (Except.ok.inj hfind) hkept]

/-! ### An account that is opened again -/

namespace Reopening

/-- An account with a document. -/
def key : AccountKey := ⟨"10000024", "LP"⟩

/-- A document with unpaid penalties. -/
def document (customerCode : String) (references : List String) : AccountPenalties :=
  .new default ⟨customerCode, "LP"⟩ <| references.map fun transactionReference =>
    { transactionReference, transactionDate := none, madeUpDate := none, isPaid := false
      amount := .ofUInt64 false 150, outstandingAmount := .ofUInt64 false 150
      transactionType := "1", transactionSubType := "EU", description := "Late filing penalty"
      dueDate := none, accountStatus := "CHS", dunningStatus := "PEN1" }

/-- The first document is marked and deleted. Of the next two only the first one is kept, and one
of its penalties is paid. -/
def actions : List StoreAction :=
  [.createAccount (document "10000024" ["A0000001"]), .markPaid key "A0000001" default,
    .createAccount (document "10000025" ["A0000001"]), .deleteAccount key,
    .createAccount (document "10000024" ["B0000002", "C0000003"]),
    .createAccount (document "10000024" ["D0000004"]), .markPaid key "D0000004" default,
    .markPaid key "C0000003" default, .account key]

end Reopening

/-- **The account that is opened again** has the first document since the deletion, with the mark
that names one of its penalties. -/
theorem document_reopened : StoreAction.shutDown ∉ Reopening.actions ∧
    ((({} : Store).performAll Reopening.actions).account Reopening.key).outcome =
      .ok (some ((Reopening.document "10000024" ["B0000002", "C0000003"]).markPaid
        "C0000003" default)) :=
  ⟨by decide, (keepsHistory .empty .empty (by decide)).documents Reopening.key⟩

end Store

end PenaltySettlement
