import Mathlib.Tactic.Common
import PenaltySettlement.Store

/-!
# Marking penalties paid

Marking a reference pays the first item that carries it, and closes the document. The references
of a document never change, so the place of a reference is the same before and after any number of
marks, and what many marks do to an item depends only on whether one of them names its place.

## Main definitions

* `AccountPenalties.place?` — the place of the first item with a reference.
* `AccountPenalties.payAll` — a document after several marks.
* `AccountPenalties.paid?` — whether the first item with a reference is paid.
* `AccountPenalties.PaidFor` — a document after the payment of some references.
* `AccountPenalties.Advances` — how a document may go on.
* `Store.Marked` — a store after marks.

## Main results

* `AccountPenalties.data_payAll`, `AccountPenalties.closedAt_payAll` — the items of a document and
  its closing time after several marks.
* `AccountPenalties.item?_markPaid`, `AccountPenalties.paid?_payAll` — what marks show at a
  reference.
* `AccountPenalties.paidFor_payAll` — a document with marks has been paid for their references.
* `AccountPenalties.advances_payAll` — marks take nothing back.
* `Store.markPaid_of_connected` — a mark in a connected store.
-/

set_option autoImplicit false

namespace PenaltySettlement

/-- The item when it is paid. -/
def PenaltyItem.pay (item : PenaltyItem) : PenaltyItem := { item with isPaid := true }

namespace AccountPenalties

/-- A reference that is marked paid, and when. -/
abbrev Mark := String × Instant

/-- The references of the items, in their order. -/
def references (a : AccountPenalties) : List String := a.data.map PenaltyItem.transactionReference

/-- The place of the first item with a reference. -/
def place? (a : AccountPenalties) (reference : String) : Option Nat :=
  a.references.idxOf? reference

/-- The document after marks, one after the other. -/
def payAll (a : AccountPenalties) (marks : List Mark) : AccountPenalties :=
  marks.foldl (fun a mark => a.markPaid mark.1 mark.2) a

/-! ## One mark -/

/-- Paying the first item with a reference changes the item at the place of the reference. -/
lemma payFirst?_eq (reference : String) (items : List PenaltyItem) :
    payFirst? reference items =
      ((items.map PenaltyItem.transactionReference).idxOf? reference).map fun i =>
        items.modify i PenaltyItem.pay := by
  induction items with
  | nil => rfl
  | cons item items ih =>
    rw [payFirst?, List.map_cons, List.idxOf?_cons]
    by_cases h : item.transactionReference = reference
    · rw [if_pos h, if_pos (by simpa using h)]
      rfl
    · rw [if_neg h, if_neg (by simpa using h), ih, Option.map_map, Option.map_map]
      rfl

/-- A mark changes the item at the place of its reference and the closing time. -/
lemma markPaid?_eq (a : AccountPenalties) (reference : String) (time : Instant) :
    a.markPaid? reference time = (a.place? reference).map fun i =>
      { a with data := a.data.modify i PenaltyItem.pay, closedAt := some time } := by
  rw [markPaid?, payFirst?_eq, Option.map_map]
  rfl

/-- A mark at a place. -/
lemma markPaid_of_place {a : AccountPenalties} {reference : String} {i : Nat}
    (h : a.place? reference = some i) (time : Instant) :
    a.markPaid reference time =
      { a with data := a.data.modify i PenaltyItem.pay, closedAt := some time } := by
  rw [markPaid, markPaid?_eq, h]
  rfl

/-- A mark of a reference that no item has does nothing. -/
lemma markPaid_of_place_none {a : AccountPenalties} {reference : String}
    (h : a.place? reference = none) (time : Instant) : a.markPaid reference time = a := by
  rw [markPaid, markPaid?_eq, h]
  rfl

/-- Paying an item keeps the references. -/
lemma map_reference_modify (items : List PenaltyItem) (i : Nat) :
    (items.modify i PenaltyItem.pay).map PenaltyItem.transactionReference =
      items.map PenaltyItem.transactionReference := by
  refine List.ext_getElem? fun j => ?_
  rw [List.getElem?_map, List.getElem?_map, List.getElem?_modify]
  cases items[j]? with
  | none => rfl
  | some item =>
    by_cases h : i = j
    · simp [h, PenaltyItem.pay]
    · simp [h]

/-- A mark keeps the references. -/
@[simp]
lemma references_markPaid (a : AccountPenalties) (reference : String) (time : Instant) :
    (a.markPaid reference time).references = a.references := by
  cases h : a.place? reference with
  | none => rw [markPaid_of_place_none h]
  | some i =>
    rw [markPaid_of_place h]
    exact map_reference_modify a.data i

/-- A mark keeps the place of every reference. -/
@[simp]
lemma place?_markPaid (a : AccountPenalties) (reference other : String) (time : Instant) :
    (a.markPaid reference time).place? other = a.place? other := by
  rw [place?, references_markPaid, place?]

/-- A mark pays the item at the place of its reference. -/
lemma data_markPaid (a : AccountPenalties) (reference : String) (time : Instant) (i : Nat) :
    (a.markPaid reference time).data[i]? = a.data[i]?.map fun item =>
      if a.place? reference = some i then item.pay else item := by
  cases h : a.place? reference with
  | none =>
    rw [markPaid_of_place_none h]
    simp
  | some j =>
    rw [markPaid_of_place h, List.getElem?_modify]
    simp

/-- A mark that names an item closes the document. -/
lemma closedAt_markPaid (a : AccountPenalties) (reference : String) (time : Instant) :
    (a.markPaid reference time).closedAt =
      if (a.place? reference).isSome then some time else a.closedAt := by
  cases h : a.place? reference with
  | none => simp [markPaid_of_place_none h]
  | some i => simp [markPaid_of_place h]

/-! ## Several marks -/

@[simp]
lemma payAll_nil (a : AccountPenalties) : a.payAll [] = a := rfl

@[simp]
lemma payAll_cons (a : AccountPenalties) (mark : Mark) (marks : List Mark) :
    a.payAll (mark :: marks) = (a.markPaid mark.1 mark.2).payAll marks := rfl

lemma payAll_append (a : AccountPenalties) (marks more : List Mark) :
    a.payAll (marks ++ more) = (a.payAll marks).payAll more := List.foldl_append

/-- Marks keep everything of the document but its items and its closing time. -/
lemma payAll_keeps (a : AccountPenalties) (marks : List Mark) :
    (a.payAll marks).customerCode = a.customerCode ∧
      (a.payAll marks).companyCode = a.companyCode ∧
      (a.payAll marks).createdAt = a.createdAt := by
  induction marks generalizing a with
  | nil => exact ⟨rfl, rfl, rfl⟩
  | cons mark marks ih =>
    rw [payAll_cons]
    obtain ⟨hcustomer, hcompany, hcreated⟩ := ih (a.markPaid mark.1 mark.2)
    rw [hcustomer, hcompany, hcreated]
    cases h : a.place? mark.1 with
    | none => rw [markPaid_of_place_none h]; exact ⟨rfl, rfl, rfl⟩
    | some i => rw [markPaid_of_place h]; exact ⟨rfl, rfl, rfl⟩

/-- Marks keep the account of the document. -/
@[simp]
lemma key_payAll (a : AccountPenalties) (marks : List Mark) : (a.payAll marks).key = a.key := by
  obtain ⟨hcustomer, hcompany, -⟩ := a.payAll_keeps marks
  rw [key, key, hcustomer, hcompany]

/-- **The items after marks**: each is as before, but paid if a mark names its place.

**Proof sketch.** Induction on the marks. The places do not change, so the first mark and the
others speak of the same ones, and paying an item twice is paying it once. -/
theorem data_payAll (a : AccountPenalties) (marks : List Mark) (i : Nat) :
    (a.payAll marks).data[i]? = a.data[i]?.map fun item =>
      if ∃ mark ∈ marks, a.place? mark.1 = some i then item.pay else item := by
  induction marks generalizing a with
  | nil => simp
  | cons mark marks ih =>
    rw [payAll_cons, ih, data_markPaid, Option.map_map]
    simp only [place?_markPaid]
    congr 1
    funext item
    by_cases hfirst : a.place? mark.1 = some i <;>
      by_cases hothers : ∃ mark ∈ marks, a.place? mark.1 = some i <;>
      simp [hfirst, hothers, PenaltyItem.pay]

/-- Marks keep the references. -/
@[simp]
lemma references_payAll (a : AccountPenalties) (marks : List Mark) :
    (a.payAll marks).references = a.references := by
  induction marks generalizing a with
  | nil => rfl
  | cons mark marks ih => rw [payAll_cons, ih, references_markPaid]

/-- Marks keep the number of the items. -/
@[simp]
lemma length_payAll (a : AccountPenalties) (marks : List Mark) :
    (a.payAll marks).data.length = a.data.length := by
  have h := congrArg List.length (references_payAll a marks)
  simpa only [references, List.length_map] using h

/-- **The closing time after marks** is that of the last mark that names an item. -/
theorem closedAt_payAll (a : AccountPenalties) (marks : List Mark) :
    (a.payAll marks).closedAt =
      ((marks.filter fun mark => (a.place? mark.1).isSome).getLast?.map Prod.snd).or
        a.closedAt := by
  induction marks generalizing a with
  | nil => rfl
  | cons mark marks ih =>
    rw [payAll_cons, ih, closedAt_markPaid]
    simp only [place?_markPaid, List.filter_cons]
    cases (a.place? mark.1).isSome with
    | false => rfl
    | true =>
      simp only [if_true, List.getLast?_cons]
      cases (marks.filter fun mark => (a.place? mark.1).isSome).getLast? <;> rfl

/-- The item at the place of a reference carries it. -/
lemma reference_of_place {a : AccountPenalties} {reference : String} {i : Nat} {item : PenaltyItem}
    (h : a.place? reference = some i) (hitem : a.data[i]? = some item) :
    item.transactionReference = reference := by
  obtain ⟨hlt, hreference, -⟩ := List.idxOf?_eq_some_iff.1 h
  have : a.references[i]? = some item.transactionReference := by
    rw [references, List.getElem?_map, hitem]
    rfl
  rw [List.getElem?_eq_getElem hlt, hreference] at this
  exact (Option.some.inj this).symm

/-- A place has one reference only. -/
lemma reference_unique {a : AccountPenalties} {reference other : String} {i : Nat}
    (h : a.place? reference = some i) (hother : a.place? other = some i) : other = reference := by
  obtain ⟨_, hreference, -⟩ := List.idxOf?_eq_some_iff.1 h
  obtain ⟨_, hsame, -⟩ := List.idxOf?_eq_some_iff.1 hother
  exact hsame.symm.trans hreference

/-- **A look at an item** finds the one at the place of its reference. -/
lemma item?_eq (a : AccountPenalties) (reference : String) :
    a.item? reference = (a.place? reference).bind fun i => a.data[i]? := by
  obtain ⟨_, _, _, _, data⟩ := a
  show data.find? _ = ((data.map PenaltyItem.transactionReference).idxOf? reference).bind _
  induction data with
  | nil => rfl
  | cons item items ih =>
    rw [List.map_cons, List.idxOf?_cons, List.find?_cons]
    cases h : item.transactionReference == reference with
    | true => rfl
    | false =>
      rw [if_neg Bool.false_ne_true, ih, Option.bind_map]
      rfl

/-- **A look at an item after a mark**: the item is paid if the mark has its reference. -/
lemma item?_markPaid (a : AccountPenalties) (reference other : String) (time : Instant) :
    (a.markPaid reference time).item? other =
      (a.item? other).map fun item => if other = reference then item.pay else item := by
  rw [item?_eq, item?_eq, place?_markPaid]
  cases hother : a.place? other with
  | none => rfl
  | some i =>
    have hplace : a.place? reference = some i ↔ other = reference :=
      ⟨fun h => reference_unique h hother, fun h => h ▸ hother⟩
    simp only [Option.bind_some, data_markPaid, hplace]

/-- Whether the first item with a reference is paid. -/
def paid? (a : AccountPenalties) (reference : String) : Option Bool :=
  (a.item? reference).map PenaltyItem.isPaid

/-- A mark shows at its reference only. -/
lemma paid?_markPaid (a : AccountPenalties) (reference other : String) (time : Instant) :
    (a.markPaid other time).paid? reference = (a.paid? reference).map (· || other == reference) := by
  rw [paid?, item?_markPaid, paid?, Option.map_map, Option.map_map]
  congr 1
  funext item
  by_cases h : reference = other <;> simp [PenaltyItem.pay, h, Ne.symm]

/-- So do several marks. -/
lemma paid?_payAll (a : AccountPenalties) (marks : List Mark) (reference : String) :
    (a.payAll marks).paid? reference =
      (a.paid? reference).map (· || marks.any fun mark => mark.1 == reference) := by
  induction marks generalizing a with
  | nil => simp
  | cons mark marks ih =>
    rw [payAll_cons, ih, paid?_markPaid, Option.map_map]
    congr 1
    funext isPaid
    simp [Bool.or_assoc]

/-- **A document after the payment of some references.** An item is paid if it was paid before, or
if it is the first one with its reference and that has been paid; nothing else of an item changes.
Only the closing time may be another one, and it is so only if an item was found. -/
structure PaidFor (before : AccountPenalties) (paid : String → Prop) (after : AccountPenalties) :
    Prop where
  kept : { after with data := before.data, closedAt := before.closedAt } = before
  length : after.data.length = before.data.length
  items : ∀ {i : Nat} {item : PenaltyItem}, before.data[i]? = some item →
    ∃ isPaid, after.data[i]? = some { item with isPaid } ∧
      (isPaid = true ↔ item.isPaid = true ∨
        before.place? item.transactionReference = some i ∧ paid item.transactionReference)
  closedAt : after.closedAt ≠ before.closedAt → after.closedAt.isSome ∧
    ∃ reference, paid reference ∧ (before.place? reference).isSome

/-- Marks pay for the references that they name. -/
theorem paidFor_payAll (a : AccountPenalties) (marks : List Mark) :
    a.PaidFor (fun reference => ∃ time, (reference, time) ∈ marks) (a.payAll marks) where
  kept := by
    obtain ⟨hcustomer, hcompany, hcreated⟩ := a.payAll_keeps marks
    rw [hcustomer, hcompany, hcreated]
  length := length_payAll a marks
  items := by
    intro i item hitem
    refine ⟨item.isPaid || decide (∃ mark ∈ marks, a.place? mark.1 = some i), ?_, ?_⟩
    · rw [data_payAll, hitem, Option.map_some]
      by_cases h : ∃ mark ∈ marks, a.place? mark.1 = some i <;> simp [h, PenaltyItem.pay]
    · rw [Bool.or_eq_true, decide_eq_true_iff]
      refine or_congr Iff.rfl ⟨?_, ?_⟩
      · rintro ⟨mark, hmark, hplace⟩
        rw [reference_of_place hplace hitem]
        exact ⟨hplace, mark.2, hmark⟩
      · rintro ⟨hplace, time, hmark⟩
        exact ⟨_, hmark, hplace⟩
  closedAt := by
    intro h
    rw [closedAt_payAll] at h ⊢
    cases hlast : (marks.filter fun mark => (a.place? mark.1).isSome).getLast? with
    | none => exact absurd (by rw [hlast]; rfl) h
    | some mark =>
      obtain ⟨hmark, hplace⟩ := List.mem_filter.1 (List.mem_of_getLast? hlast)
      exact ⟨rfl, mark.1, ⟨mark.2, hmark⟩, hplace⟩

/-- **How a document may go on.** Each item is as before or has been paid, and a document that was
closed is so still. Nothing else changes. -/
structure Advances (before after : AccountPenalties) : Prop where
  kept : { after with data := before.data, closedAt := before.closedAt } = before
  items : ∀ i : Nat, after.data[i]? = before.data[i]? ∨
    after.data[i]? = before.data[i]?.map PenaltyItem.pay
  closedAt : before.closedAt.isSome → after.closedAt.isSome

namespace Advances

variable {a b c : AccountPenalties}

/-- A document may stay as it is. -/
lemma refl (a : AccountPenalties) : a.Advances a where
  kept := rfl
  items := fun _ => .inl rfl
  closedAt := id

/-- A document may go on in several steps. -/
lemma trans (h : a.Advances b) (h' : b.Advances c) : a.Advances c where
  kept := by
    have hlast := congrArg (fun d : AccountPenalties =>
      { d with data := a.data, closedAt := a.closedAt }) h'.kept
    exact hlast.trans h.kept
  items := by
    intro i
    rcases h.items i with hi | hi <;> rcases h'.items i with hi' | hi'
    · exact .inl (hi'.trans hi)
    · exact .inr (hi' ▸ hi ▸ rfl)
    · exact .inr (hi'.trans hi)
    · -- an item that is paid twice is paid
      refine .inr ?_
      rw [hi', hi, Option.map_map]
      rfl
  closedAt := h'.closedAt ∘ h.closedAt

end Advances

/-- A mark lets a document go on. -/
lemma advances_markPaid (a : AccountPenalties) (reference : String) (time : Instant) :
    a.Advances (a.markPaid reference time) where
  kept := by
    cases h : a.place? reference with
    | none => rw [markPaid_of_place_none h]
    | some i => rw [markPaid_of_place h]
  items := by
    intro i
    rw [data_markPaid]
    by_cases h : a.place? reference = some i
    · exact .inr (by simp [h])
    · exact .inl (by simp [h])
  closedAt := by
    intro h
    rw [closedAt_markPaid]
    cases (a.place? reference).isSome with
    | false => exact h
    | true => rfl

/-- So do any number of marks. -/
theorem advances_payAll (a : AccountPenalties) (marks : List Mark) :
    a.Advances (a.payAll marks) := by
  induction marks generalizing a with
  | nil => exact .refl a
  | cons mark marks ih => exact (a.advances_markPaid mark.1 mark.2).trans (ih _)

end AccountPenalties

/-! ## Marks in a store -/

namespace Table

variable {κ α : Type} [DecidableEq κ]

/-- A change of a value keeps the keys. -/
@[simp]
lemma keys_modify (t : Table κ α) (key : κ) (change : α → α) :
    (t.modify key change).keys = t.keys := by
  show (t.entries.map (changeEntry key change)).map Prod.fst = t.entries.map Prod.fst
  rw [List.map_map]
  rfl

/-- In a list of entries with different keys, a key that has an entry has its value. -/
lemma valueIn?_of_mem {key : κ} {value : α} {entries : List (κ × α)}
    (hnodup : (entries.map Prod.fst).Nodup) (h : (key, value) ∈ entries) :
    valueIn? key entries = some value := by
  induction entries with
  | nil => simp at h
  | cons e entries ih =>
    rw [List.map_cons, List.nodup_cons] at hnodup
    rw [valueIn?]
    rcases List.mem_cons.1 h with rfl | h
    · exact if_pos rfl
    · rw [if_neg]
      · exact ih hnodup.2 h
      · rintro rfl
        exact hnodup.1 (List.mem_map.2 ⟨_, h, rfl⟩)

/-- Two changes are the same if they are for the value of the key. -/
lemma modify_congr {t : Table κ α} {key : κ} {change other : α → α}
    (h : ∀ value, t.find? key = some value → change value = other value) :
    t.modify key change = t.modify key other := by
  refine Table.ext (List.map_congr_left fun e he => ?_)
  obtain ⟨k, value⟩ := e
  by_cases hk : k = key
  · subst hk
    simp [changeEntry, h value (valueIn?_of_mem t.nodup_keys he)]
  · simp [changeEntry, hk]

/-- A change that leaves the value of the key leaves the table. -/
lemma modify_eq_self {t : Table κ α} {key : κ} {change : α → α}
    (h : ∀ value, t.find? key = some value → change value = value) : t.modify key change = t := by
  have hid : t.modify key change = t.modify key id := modify_congr h
  rw [hid]
  refine Table.ext ?_
  show t.entries.map (changeEntry key id) = t.entries
  rw [List.map_congr_left, List.map_id]
  intro e _
  simp [changeEntry]

/-- Two changes of the value of a key are one. -/
lemma modify_modify (t : Table κ α) (key : κ) (change next : α → α) :
    (t.modify key change).modify key next = t.modify key fun value => next (change value) := by
  refine Table.ext ?_
  show (t.entries.map (changeEntry key change)).map (changeEntry key next) = t.entries.map _
  rw [List.map_map]
  refine List.map_congr_left fun e _ => ?_
  by_cases h : e.1 = key <;> simp [changeEntry, h]

end Table

namespace Store

/-- **A mark in a connected store** succeeds, and changes nothing but the document of its account,
if there is one. -/
theorem markPaid_of_connected {s : Store} (h : s.connected = true) (key : AccountKey)
    (reference : String) (time : Instant) :
    (s.markPaid key reference time).outcome = .ok () ∧
      (s.markPaid key reference time).store =
        { s with accounts := s.accounts.modify key fun a => a.markPaid reference time } := by
  rw [markPaid, whenConnected, if_pos h]
  cases hpaid : (s.accounts.find? key).bind fun a => a.markPaid? reference time with
  | none =>
    have hsame : (s.accounts.modify key fun a => a.markPaid reference time) = s.accounts :=
      Table.modify_eq_self fun a ha => by
        rw [ha] at hpaid
        exact congrArg (·.getD a) hpaid
    simp [hsame]
  | some paid =>
    refine ⟨rfl, ?_⟩
    have hsame : (s.accounts.modify key fun _ => paid) =
        s.accounts.modify key fun a => a.markPaid reference time :=
      Table.modify_congr fun a ha => by
        rw [ha] at hpaid
        exact (congrArg (·.getD a) hpaid).symm
    exact congrArg (fun accounts => { s with accounts }) hsame

/-- A store that is not connected refuses a mark. -/
lemma markPaid_of_not_connected {s : Store} (h : s.connected = false) (key : AccountKey)
    (reference : String) (time : Instant) :
    s.markPaid key reference time = { outcome := .error .disconnected, store := s } := by
  simp [markPaid, whenConnected, h]

/-- **A store after marks.** The accounts are the same, and the document of each is as before but
for marks, of which it is known which references they name. -/
structure Marked (s s' : Store) (named : AccountKey → String → Prop) : Prop where
  connected : s'.connected = s.connected
  keys : s'.accounts.keys = s.accounts.keys
  documents : ∀ key, ∃ marks : List AccountPenalties.Mark,
    s'.accounts.find? key = (s.accounts.find? key).map (fun a => a.payAll marks) ∧
      ∀ reference, (∃ time, (reference, time) ∈ marks) ↔ named key reference

namespace Marked

variable {s s' s'' : Store} {named others : AccountKey → String → Prop}

/-- Marks that name the same references. -/
lemma congr (h : s.Marked s' named) (hiff : ∀ key reference, named key reference ↔
    others key reference) : s.Marked s' others where
  connected := h.connected
  keys := h.keys
  documents := fun key =>
    let ⟨marks, hfind, hmarks⟩ := h.documents key
    ⟨marks, hfind, fun reference => (hmarks reference).trans (hiff key reference)⟩

/-- Without marks the accounts stay as they are. -/
lemma of_accounts_eq (hconnected : s'.connected = s.connected)
    (haccounts : s'.accounts = s.accounts) : s.Marked s' fun _ _ => False where
  connected := hconnected
  keys := by rw [haccounts]
  documents := fun key => ⟨[], by simp [haccounts], by simp⟩

/-- Marks on the document of one account. -/
lemma of_modify {key : AccountKey} (marks : List AccountPenalties.Mark)
    (hconnected : s'.connected = s.connected)
    (haccounts : s'.accounts = s.accounts.modify key fun a => a.payAll marks) :
    s.Marked s' fun other reference => key = other ∧ ∃ time, (reference, time) ∈ marks where
  connected := hconnected
  keys := by rw [haccounts, Table.keys_modify]
  documents := by
    intro other
    rw [haccounts, Table.find?_modify]
    by_cases h : other = key
    · exact ⟨marks, by rw [if_pos h], fun reference => by simp [h]⟩
    · exact ⟨[], by simp [h], fun reference => by simp [Ne.symm h]⟩

/-- Marks and then more marks. -/
lemma trans (h : s.Marked s' named) (h' : s'.Marked s'' others) :
    s.Marked s'' fun key reference => named key reference ∨ others key reference where
  connected := h'.connected.trans h.connected
  keys := h'.keys.trans h.keys
  documents := by
    intro key
    obtain ⟨marks, hfind, hmarks⟩ := h.documents key
    obtain ⟨more, hfind', hmore⟩ := h'.documents key
    refine ⟨marks ++ more, ?_, fun reference => ?_⟩
    · rw [hfind', hfind, Option.map_map]
      simp only [AccountPenalties.payAll_append]
      rfl
    · rw [← hmarks, ← hmore, ← exists_or]
      simp only [List.mem_append]

/-- Every document has been paid for the references that are named for its account. -/
theorem paidFor (h : s.Marked s' named) {key : AccountKey} {before : AccountPenalties}
    (hbefore : s.accounts.find? key = some before) :
    ∃ after, s'.accounts.find? key = some after ∧ before.PaidFor (named key) after := by
  obtain ⟨marks, hfind, hmarks⟩ := h.documents key
  rw [hbefore] at hfind
  refine ⟨before.payAll marks, hfind, ?_⟩
  have hnamed : named key = fun reference => ∃ time, (reference, time) ∈ marks :=
    funext fun reference => propext (hmarks reference).symm
  rw [hnamed]
  exact before.paidFor_payAll marks

end Marked

end Store

end PenaltySettlement
