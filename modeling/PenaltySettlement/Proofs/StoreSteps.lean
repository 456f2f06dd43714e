import PenaltySettlement.Proofs.Marking

/-!
# Steps of a store

A connected store carries out every action, and an action is about one record at most: what it
does to the document of an account is a function of that document alone, and so it is with a payable
resource. Actions in a row are taken one after the other.

## Main definitions

* `StoreAction.onAccount` — what an action makes of the document of an account.
* `StoreAction.creation?`, `StoreAction.mark?` — the document and the mark that an action brings.
* `StoreAction.Single` — an operation that takes one step.
* `StoreAction.assigned?`, `StoreAction.named?`, `StoreAction.payment?` — what an operation brings
  to the payable resources.
* `Store.performAll` — a store after actions.

## Main results

* `Store.perform_outcome` — a connected store carries out every action.
* `Store.perform_find?` — the document of an account after an action.
* `Store.latest_perform`, `Store.payables_perform` — the names and a payable resource after an
  operation.
* `StoreAction.onAccount_some` — a document that is not deleted is only marked.
-/

set_option autoImplicit false

namespace PenaltySettlement

/-- What an action on a connected store makes of the document of an account. -/
def StoreAction.onAccount (key : AccountKey) :
    StoreAction → Option AccountPenalties → Option AccountPenalties
  | .createAccount document, kept => if document.key = key then kept.or (some document) else kept
  | .markPaid other reference time, kept =>
    if other = key then kept.map fun a => a.markPaid reference time else kept
  | .deleteAccount other, kept => if other = key then none else kept
  | .account _, kept | .createPayable _ _, kept | .payable _, kept | .updatePayment _ _, kept
  | .noteFailure _ _, kept | .ping, kept | .shutDown, kept => kept

namespace StoreAction

variable (key : AccountKey)

/-- The document that an action creates for an account, if there is none yet. -/
def creation? : StoreAction → Option AccountPenalties
  | .createAccount document => if document.key = key then some document else none
  | _ => none

/-- The mark that an action makes in the document of an account. -/
def mark? : StoreAction → Option AccountPenalties.Mark
  | .markPaid other reference time => if other = key then some (reference, time) else none
  | _ => none

/-- A document is created for the account that it names. -/
lemma key_of_creation {action : StoreAction} {document : AccountPenalties}
    (h : action.creation? key = some document) : document.key = key := by
  cases action with
  | createAccount created =>
    obtain ⟨hkey, hcreated⟩ := Option.ite_none_right_eq_some.1 h
    exact Option.some.inj hcreated ▸ hkey
  | _ => cases h

/-- An account without a document gets one by its creation only. -/
lemma onAccount_none (action : StoreAction) : action.onAccount key none = action.creation? key := by
  cases action <;> simp [onAccount, creation?]

/-- A document that is not deleted is only marked. -/
lemma onAccount_some {action : StoreAction} (h : action ≠ .deleteAccount key)
    (a : AccountPenalties) :
    action.onAccount key (some a) = some (a.payAll (action.mark? key).toList) := by
  cases action with
  | markPaid other reference time =>
    by_cases hkey : other = key <;> simp [onAccount, mark?, hkey]
  | deleteAccount other =>
    have hkey : other ≠ key := fun hkey => h (hkey ▸ rfl)
    simp [onAccount, mark?, hkey]
  | createAccount document => simp [onAccount, mark?]
  | _ => rfl

/-! ### Payable resources -/

/-- **An operation** that takes one step. The end of the connection is none, and the note of a
failure is only a part of one. -/
def Single : StoreAction → Prop
  | .shutDown | .noteFailure _ _ => False
  | _ => True

/-- The identifier that an operation assigns. -/
def assigned? : StoreAction → Option String
  | .createPayable id _ => some id
  | _ => none

/-- The identifier of the resource that an operation creates under a name. -/
def named? (key : PayableKey) : StoreAction → Option String
  | .createPayable id resource => if resource.key = key then some id else none
  | _ => none

/-- The payment that an operation has for an identifier. -/
def payment? (id : String) : StoreAction → Option PaymentDetails
  | .updatePayment other payment => if other = id then some payment else none
  | _ => none

/-- Only a creation assigns an identifier. -/
lemma assigned?_eq_some {action : StoreAction} {id : String} :
    action.assigned? = some id ↔ ∃ resource, action = .createPayable id resource := by
  cases action <;> simp [assigned?]

/-- What is created under a name has the name. -/
lemma named?_eq_some {action : StoreAction} {key : PayableKey} {id : String} :
    action.named? key = some id ↔
      ∃ resource, action = .createPayable id resource ∧ resource.key = key := by
  cases action with
  | createPayable other resource =>
    rw [named?, Option.ite_none_right_eq_some, Option.some.injEq]
    constructor
    · rintro ⟨hkey, rfl⟩
      exact ⟨resource, rfl, hkey⟩
    · rintro ⟨_, heq, hkey⟩
      cases heq
      exact ⟨hkey, rfl⟩
  | _ => simp [named?]

/-- What is created under a name gets an identifier. -/
lemma assigned?_of_named? {action : StoreAction} {key : PayableKey} {id : String}
    (h : action.named? key = some id) : action.assigned? = some id := by
  obtain ⟨resource, rfl, -⟩ := named?_eq_some.1 h
  rfl

end StoreAction

namespace Store

/-! ## Single actions -/

/-- **A connected store carries out every action.** -/
theorem perform_outcome {s : Store} (h : s.connected = true) (action : StoreAction) :
    ∃ result, (s.perform action).outcome = .ok result := by
  cases action with
  | createAccount document =>
    rw [perform, createAccount, whenConnected, if_pos h]
    cases s.accounts.find? document.key <;> exact ⟨(), rfl⟩
  | markPaid key reference time => exact ⟨(), (markPaid_of_connected h key reference time).1⟩
  | noteFailure id action => exact ⟨(), rfl⟩
  | shutDown => exact ⟨(), rfl⟩
  | account key => exact ⟨_, congrArg StoreStep.outcome (if_pos h)⟩
  | deleteAccount key => exact ⟨_, congrArg StoreStep.outcome (if_pos h)⟩
  | createPayable id resource => exact ⟨_, congrArg StoreStep.outcome (if_pos h)⟩
  | payable key => exact ⟨_, congrArg StoreStep.outcome (if_pos h)⟩
  | updatePayment id payment => exact ⟨_, congrArg StoreStep.outcome (if_pos h)⟩
  | ping => exact ⟨_, congrArg StoreStep.outcome (if_pos h)⟩

/-- A look at the document of an account changes nothing. -/
lemma perform_account (s : Store) (key : AccountKey) :
    (s.perform (.account key)).store = s := by
  show (s.whenConnected { outcome := .ok (s.accounts.find? key), store := s }).store = s
  rw [whenConnected]
  split <;> rfl

/-- A document is inserted for an account that has none. -/
lemma createAccount_of_none {s : Store} (h : s.connected = true) {document : AccountPenalties}
    (hnone : s.accounts.find? document.key = none) :
    s.createAccount document =
      { outcome := .ok ()
        store := { s with accounts := s.accounts.insert document.key document }
        log := [creationEntry "account penalties inserted" document.key] } := by
  rw [createAccount, whenConnected, if_pos h, hnone]

/-- A creation keeps the document that an account has. -/
lemma createAccount_find? {s : Store} (h : s.connected = true) (document : AccountPenalties)
    (key : AccountKey) :
    (s.createAccount document).store.accounts.find? key =
      if document.key = key then (s.accounts.find? key).or (some document)
      else s.accounts.find? key := by
  rw [createAccount, whenConnected, if_pos h]
  by_cases hkey : document.key = key
  · subst hkey
    cases hfind : s.accounts.find? document.key <;> simp [hfind]
  · cases hfind : s.accounts.find? document.key <;> simp [hkey, Ne.symm hkey]

/-- An action has the effect on each account that it should have. -/
lemma perform_find? {s : Store} (h : s.connected = true) (action : StoreAction)
    (key : AccountKey) :
    (s.perform action).store.accounts.find? key = action.onAccount key (s.accounts.find? key) := by
  cases action with
  | createAccount document => exact createAccount_find? h document key
  | markPaid other reference time =>
    rw [perform, (markPaid_of_connected h other reference time).2]
    show (s.accounts.modify other _).find? key = _
    rw [Table.find?_modify]
    by_cases hkey : other = key <;> simp [StoreAction.onAccount, hkey, Ne.symm]
  | deleteAccount other =>
    simp only [perform, deleteAccount, whenConnected, h, if_true, Table.find?_erase]
    by_cases hkey : other = key <;> simp [StoreAction.onAccount, hkey, Ne.symm]
  | account other => simp [perform, account, whenConnected, h, StoreAction.onAccount]
  | createPayable id resource =>
    simp [perform, createPayable, whenConnected, h, StoreAction.onAccount]
  | payable other => simp [perform, payable, whenConnected, h, StoreAction.onAccount]
  | updatePayment id payment =>
    simp [perform, updatePayment, whenConnected, h, StoreAction.onAccount]
  | noteFailure id action => rfl
  | ping => simp [perform, ping, whenConnected, h, StoreAction.onAccount]
  | shutDown => rfl

/-- A new resource is found under its identifier. -/
lemma find?_perform_create {s : Store} (h : s.connected = true) (id : String)
    (resource : PayableResource) :
    (s.perform (.createPayable id resource)).store.payables.find? id =
      some { resource with id } := by
  simp [perform, createPayable, whenConnected, h]

/-- The names after an operation: a new resource takes its name over. -/
lemma latest_perform {s : Store} (h : s.connected = true) (action : StoreAction)
    (key : PayableKey) :
    (s.perform action).store.latest.find? key =
      (action.named? key).or (s.latest.find? key) := by
  cases action with
  | createPayable id resource =>
    have hlatest : (s.perform (.createPayable id resource)).store.latest =
        s.latest.insert resource.key id := by
      simp [perform, createPayable, whenConnected, h, PayableResource.key]
    rw [hlatest, Table.find?_insert, StoreAction.named?]
    by_cases hkey : key = resource.key
    · rw [if_pos hkey, if_pos hkey.symm]
      rfl
    · rw [if_neg hkey, if_neg (Ne.symm hkey)]
      rfl
  | createAccount document =>
    simp only [perform, createAccount, whenConnected, h, if_true]
    cases s.accounts.find? document.key <;> rfl
  | markPaid other reference time =>
    rw [perform, (markPaid_of_connected h other reference time).2]
    rfl
  | noteFailure id action => rfl
  | shutDown => rfl
  | _ => simp [perform, account, deleteAccount, payable, updatePayment, ping, whenConnected, h,
      StoreAction.named?]

/-- **A resource after an operation** that does not create it: its payment may be replaced. -/
lemma payables_perform {s : Store} (h : s.connected = true) {action : StoreAction}
    (single : action.Single) {id : String} (hid : action.assigned? ≠ some id) :
    (s.perform action).store.payables.find? id = (s.payables.find? id).map fun r =>
      { r with payment := (action.payment? id).getD r.payment } := by
  cases action with
  | createPayable other resource =>
    have hne : id ≠ other := fun heq => hid (congrArg some heq.symm)
    simp [perform, createPayable, whenConnected, h, hne, StoreAction.payment?]
  | updatePayment other payment =>
    simp only [perform, updatePayment, whenConnected, h, if_true, Table.find?_modify]
    by_cases hother : other = id
    · simp [StoreAction.payment?, hother]
    · simp [StoreAction.payment?, hother, Ne.symm hother]
  | createAccount document =>
    simp only [perform, createAccount, whenConnected, h, if_true]
    cases s.accounts.find? document.key <;> simp [StoreAction.payment?]
  | markPaid key reference time =>
    rw [perform, (markPaid_of_connected h key reference time).2]
    simp [StoreAction.payment?]
  | noteFailure id action => exact single.elim
  | shutDown => exact single.elim
  | _ => simp [perform, account, deleteAccount, payable, ping, whenConnected, h,
      StoreAction.payment?]

/-- A step that depends on the connection keeps it if it keeps it when there is one. -/
lemma connected_whenConnected {α : Type} {s : Store} {step : StoreStep α}
    (h : step.store.connected = s.connected) :
    (s.whenConnected step).store.connected = s.connected := by
  rw [whenConnected]
  split
  · exact h
  · rfl

/-- Only the end of the connection ends it. -/
lemma perform_connected (s : Store) {action : StoreAction} (h : action ≠ .shutDown) :
    (s.perform action).store.connected = s.connected := by
  cases action with
  | shutDown => exact absurd rfl h
  | noteFailure id action => rfl
  | createAccount document =>
    refine connected_whenConnected ?_
    split <;> rfl
  | markPaid key reference time =>
    refine connected_whenConnected ?_
    split <;> rfl
  | account key => exact connected_whenConnected rfl
  | deleteAccount key => exact connected_whenConnected rfl
  | createPayable id resource => exact connected_whenConnected rfl
  | payable key => exact connected_whenConnected rfl
  | updatePayment id payment => exact connected_whenConnected rfl
  | ping => exact connected_whenConnected rfl

/-! ## Actions in a row -/

/-- **A store after actions**, one after the other. -/
def performAll (s : Store) (actions : List StoreAction) : Store :=
  actions.foldl (fun s action => (s.perform action).store) s

/-- Actions keep the connection unless they end it. -/
lemma connected_performAll (s : Store) {actions : List StoreAction}
    (h : .shutDown ∉ actions) : (s.performAll actions).connected = s.connected := by
  induction actions generalizing s with
  | nil => rfl
  | cons action actions ih =>
    obtain ⟨hfirst, hrest⟩ := List.ne_and_not_mem_of_not_mem_cons h
    exact (ih (s.perform action).store hrest).trans (s.perform_connected hfirst.symm)

end Store

end PenaltySettlement
