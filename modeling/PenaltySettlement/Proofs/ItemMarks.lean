import Mathlib.Data.List.Basic
import PenaltySettlement.Proofs.Marking

/-!
# Marks and looks at items

A look at an item and a mark search the items of a document for a reference, each in its own way.
Both come to the first item that carries it: a mark succeeds exactly when a look finds an item, and
the item that is paid is the one that is found. All other items are found as they were, also those
further on that carry the same reference.

Marks of one time only depend on which references are named. Their order has no influence, and to
name a reference again has none.

## Main definitions

* `AccountPenalties.MarkedAt` — a document before and after a mark.
* `AccountPenalties.payAt` — a document after marks of one time.

## Main results

* `AccountPenalties.markedAt_markPaid` — a mark of an item that is found.
* `AccountPenalties.payAt_congr` — marks of one time and of the same references.
* `AccountPenalties.mark_meets_item` — marks and looks at items in any document.
-/

set_option autoImplicit false

namespace PenaltySettlement

namespace AccountPenalties

variable {a : AccountPenalties} {reference : String} {item : PenaltyItem}

/-! ## One mark -/

/-- An item that is found is at the place of its reference. -/
lemma exists_place (h : a.item? reference = some item) :
    ∃ i, a.place? reference = some i ∧ a.data[i]? = some item := by
  rw [item?_eq] at h
  exact Option.bind_eq_some_iff.1 h

/-- A reference has a place if an item is found. -/
lemma isSome_place? (a : AccountPenalties) (reference : String) :
    (a.place? reference).isSome = (a.item? reference).isSome := by
  rw [item?_eq]
  cases h : a.place? reference with
  | none => rfl
  | some i =>
    obtain ⟨hlt, -, -⟩ := List.idxOf?_eq_some_iff.1 h
    have hitem : i < a.data.length := by simpa [references] using hlt
    rw [Option.bind_some, List.getElem?_eq_getElem hitem]
    rfl

/-- **A document before and after a mark** of an item. The item is the first one with the reference.
Its line is the only one that is written, the item is paid there, and nothing else of it changes.
Other references find what they found before. -/
structure MarkedAt (before : AccountPenalties) (reference : String) (time : Instant)
    (item : PenaltyItem) (after : AccountPenalties) : Prop where
  found : after.item? reference = some { item with isPaid := true }
  others : ∀ other ≠ reference, after.item? other = before.item? other
  line : ∃ i, before.data[i]? = some item ∧
    (∀ j < i, ∀ earlier ∈ before.data[j]?, earlier.transactionReference ≠ reference) ∧
    after.data = before.data.set i { item with isPaid := true }
  closedAt : after.closedAt = some time
  kept : { after with data := before.data, closedAt := before.closedAt } = before

/-- Before the place of a reference no item carries it. -/
lemma reference_ne_of_lt {i j : Nat} (h : a.place? reference = some i) (hlt : j < i)
    {earlier : PenaltyItem} (hearlier : a.data[j]? = some earlier) :
    earlier.transactionReference ≠ reference := by
  obtain ⟨_, -, hfirst⟩ := List.idxOf?_eq_some_iff.1 h
  have hreference := hfirst j hlt
  obtain ⟨_, rfl⟩ := List.getElem?_eq_some_iff.1 hearlier
  simpa [references] using hreference

/-- **A mark of an item that is found** pays that item. -/
theorem markedAt_markPaid (h : a.item? reference = some item) (time : Instant) :
    a.MarkedAt reference time item (a.markPaid reference time) where
  found := by
    rw [item?_markPaid, h]
    simp [PenaltyItem.pay]
  others := by
    intro other hother
    simp [item?_markPaid, hother]
  line := by
    obtain ⟨i, hplace, hitem⟩ := exists_place h
    refine ⟨i, hitem, fun j hlt earlier hearlier => reference_ne_of_lt hplace hlt hearlier, ?_⟩
    rw [markPaid_of_place hplace]
    show a.data.modify i PenaltyItem.pay = a.data.set i item.pay
    rw [List.modify_eq_set_getElem?, hitem]
    rfl
  closedAt := by rw [closedAt_markPaid, isSome_place?, h]; rfl
  kept := (a.advances_markPaid reference time).kept

/-- A mark of a reference that finds no item does nothing. -/
lemma markPaid_of_item_none (h : a.item? reference = none) (time : Instant) :
    a.markPaid reference time = a := by
  refine markPaid_of_place_none ?_ time
  rw [← Option.isNone_iff_eq_none, ← Option.not_isSome, isSome_place?, h]
  rfl

/-- A mark succeeds when its reference finds an item. -/
lemma isSome_markPaid? (a : AccountPenalties) (reference : String) (time : Instant) :
    (a.markPaid? reference time).isSome = (a.item? reference).isSome := by
  rw [markPaid?_eq, Option.isSome_map, isSome_place?]

/-! ## Marks of one time -/

/-- **A document after marks of one time**, one after the other. -/
def payAt (a : AccountPenalties) (time : Instant) (references : List String) : AccountPenalties :=
  references.foldl (fun a reference => a.markPaid reference time) a

/-- They are marks with that time. -/
lemma payAt_eq_payAll (a : AccountPenalties) (time : Instant) (references : List String) :
    a.payAt time references = a.payAll (references.map fun reference => (reference, time)) := by
  rw [payAt, payAll, List.foldl_map]

/-- The items after marks of one time: each is paid if its place is the one of a reference. -/
lemma data_payAt (a : AccountPenalties) (time : Instant) (references : List String) (i : Nat) :
    (a.payAt time references).data[i]? = a.data[i]?.map fun item =>
      if ∃ reference ∈ references, a.place? reference = some i then item.pay else item := by
  rw [payAt_eq_payAll, data_payAll]
  simp

/-- The document is closed at that time if one of the references has an item. -/
lemma closedAt_payAt (a : AccountPenalties) (time : Instant) (references : List String) :
    (a.payAt time references).closedAt =
      if ∃ reference ∈ references, (a.place? reference).isSome then some time else a.closedAt := by
  induction references generalizing a with
  | nil => simp [payAt]
  | cons reference references ih =>
    show ((a.markPaid reference time).payAt time references).closedAt = _
    rw [ih, closedAt_markPaid]
    simp only [place?_markPaid, List.exists_mem_cons_iff]
    by_cases hfirst : (a.place? reference).isSome = true <;> simp [hfirst]

/-- What a document may become is told by its items and the time when it was closed. -/
lemma Advances.unique {b c : AccountPenalties} (hb : a.Advances b) (hc : a.Advances c)
    (data : b.data = c.data) (closedAt : b.closedAt = c.closedAt) : b = c := by
  have hkept := hb.kept.trans hc.kept.symm
  obtain ⟨customerCode, companyCode, createdAt, closedAt', data'⟩ := b
  cases data
  cases closedAt
  obtain ⟨rfl, rfl, rfl⟩ : customerCode = c.customerCode ∧ companyCode = c.companyCode ∧
      createdAt = c.createdAt := by
    simpa using hkept
  rfl

/-- **Marks of one time and of the same references** make the same document.

**Proof sketch.** What is paid at a place, and whether the document is closed, only depends on which
references are named (`data_payAt`, `closedAt_payAt`); everything else of the document is kept. -/
theorem payAt_congr {references others : List String}
    (h : ∀ reference, reference ∈ references ↔ reference ∈ others) (a : AccountPenalties)
    (time : Instant) : a.payAt time references = a.payAt time others := by
  have hadvances : ∀ references, a.Advances (a.payAt time references) := by
    intro references
    rw [payAt_eq_payAll]
    exact a.advances_payAll _
  apply (hadvances references).unique (hadvances others)
  · refine List.ext_getElem? fun i => ?_
    simp only [data_payAt, h]
  · simp only [closedAt_payAt, h]

/-- **Marks and looks at items in any document.** A mark succeeds exactly when its reference finds
an item, and then it pays that item; otherwise the document is as it was. After marks of one time
the document is the same for all lists that name the same references, in whatever order and however
often. -/
theorem mark_meets_item (a : AccountPenalties) (time : Instant) :
    (∀ reference,
      ((a.markPaid? reference time).isSome ↔ (a.item? reference).isSome) ∧
      (∀ item, a.item? reference = some item →
        a.MarkedAt reference time item (a.markPaid reference time)) ∧
      (a.item? reference = none → a.markPaid reference time = a)) ∧
    ∀ references others : List String,
      (∀ reference, reference ∈ references ↔ reference ∈ others) →
        a.payAt time references = a.payAt time others := by
  refine ⟨fun reference => ⟨?_, ?_, ?_⟩, fun references others h => payAt_congr h a time⟩
  · rw [isSome_markPaid?]
  · exact fun item h => markedAt_markPaid h time
  · exact fun h => markPaid_of_item_none h time

end AccountPenalties

end PenaltySettlement
