import PenaltySettlement.Proofs.SettlementOutcome

/-!
# An event that is settled twice

An event that is delivered again is settled again. The items that it pays are paid already, so they
stay as they are, but a mark closes the document each time: the closing time becomes that of the
last mark that names an item. All else in the store stays, so nothing changes exactly when the
clock shows the same millisecond at both of the last marks.

## Main definitions

* `AccountPenalties.reclose` — a document with a later closing time.
* `AccountPenalties.lastNamed?` — the place of the last reference that an item has.
* `Desk.closing` — the closing time that marks of references set.

## Main results

* `AccountPenalties.payAll_of_paid` — marks on items that are paid.
* `Store.markPaid_of_paid` — a mark on an item that is paid, in a store.
* `Desk.settle_settle` — the work on an event that has been settled.
-/

set_option autoImplicit false

namespace PenaltySettlement

open AccountPenalties (Mark)

namespace AccountPenalties

/-! ## Marks on items that are paid -/

/-- The document with another closing time, if there is one. -/
def reclose (a : AccountPenalties) (time : Option Instant) : AccountPenalties :=
  { a with closedAt := time.or a.closedAt }

@[simp]
lemma reclose_reclose (a : AccountPenalties) (time later : Option Instant) :
    (a.reclose time).reclose later = a.reclose (later.or time) := by
  simp [reclose, Option.or_assoc]

/-- A document is the same with the closing time that it has, or without another one. -/
lemma reclose_eq_self_iff (a : AccountPenalties) (time : Option Instant) :
    a.reclose time = a ↔ ∀ t ∈ time, a.closedAt = some t := by
  constructor
  · rintro h t rfl
    exact (congrArg closedAt h).symm
  · intro h
    cases time with
    | none => rfl
    | some t =>
      show { a with closedAt := some t } = a
      rw [← h t rfl]

/-- Paying an item that is paid changes nothing. -/
lemma modify_pay_of_paid {items : List PenaltyItem} {i : Nat}
    (h : items[i]?.map PenaltyItem.isPaid ≠ some false) :
    items.modify i PenaltyItem.pay = items := by
  refine List.ext_getElem? fun j => ?_
  rw [List.getElem?_modify]
  cases hitem : items[j]? with
  | none => rfl
  | some item =>
    by_cases hj : i = j
    · subst hj
      have hpaid : item.isPaid = true := by simpa [hitem] using h
      have hsame : item.pay = item := by rw [PenaltyItem.pay, ← hpaid]
      simp [hsame]
    · simp [hj]

/-- A mark whose item is paid changes nothing but the closing time. -/
lemma markPaid_of_paid {a : AccountPenalties} {reference : String}
    (h : a.paid? reference ≠ some false) (time : Instant) :
    a.markPaid reference time = a.reclose ((a.place? reference).map fun _ => time) := by
  cases hplace : a.place? reference with
  | none =>
    rw [markPaid_of_place_none hplace]
    rfl
  | some i =>
    rw [paid?, item?_eq, hplace, Option.bind_some] at h
    rw [markPaid_of_place hplace, modify_pay_of_paid h]
    rfl

/-- **Marks whose items are paid** change nothing but the closing time, which becomes that of the
last of them that names an item.

**Proof sketch.** Induction on the marks: a mark that only closes the document again leaves the
items, so those of the other marks are paid still. -/
theorem payAll_of_paid {a : AccountPenalties} {marks : List Mark}
    (h : ∀ mark ∈ marks, a.paid? mark.1 ≠ some false) :
    a.payAll marks =
      a.reclose ((marks.filter fun mark => (a.place? mark.1).isSome).getLast?.map Prod.snd) := by
  have hkept : ∃ time, a.payAll marks = a.reclose time := by
    induction marks generalizing a with
    | nil => exact ⟨none, rfl⟩
    | cons mark marks ih =>
      rw [payAll_cons, markPaid_of_paid (h mark List.mem_cons_self)]
      obtain ⟨time, htime⟩ := ih (a := a.reclose _) fun other hother =>
        h other (List.mem_cons_of_mem mark hother)
      exact ⟨_, htime.trans (reclose_reclose ..)⟩
  obtain ⟨time, htime⟩ := hkept
  have hclosed := a.closedAt_payAll marks
  rw [htime] at hclosed ⊢
  exact congrArg (fun closedAt => { a with closedAt }) hclosed

/-- The place, among references, of the last one that an item has. -/
def lastNamed? (a : AccountPenalties) (references : List String) : Option Nat :=
  (references.zipIdx.filter fun place => (a.place? place.1).isSome).getLast?.map Prod.snd

/-- Marks keep it. -/
@[simp]
lemma lastNamed?_payAll (a : AccountPenalties) (marks : List Mark) (references : List String) :
    (a.payAll marks).lastNamed? references = a.lastNamed? references := by
  simp only [lastNamed?, place?, references_payAll]

end AccountPenalties

namespace Store

/-- A store whose document of an account is closed again is the same exactly when that is the
closing time that the document has, or none. -/
lemma reclosed_eq_self_iff (s : Store) (key : AccountKey)
    (time : AccountPenalties → Option Instant) :
    { s with accounts := s.accounts.modify key fun a => a.reclose (time a) } = s ↔
      ∀ a, s.accounts.find? key = some a → ∀ t ∈ time a, a.closedAt = some t := by
  simp only [← AccountPenalties.reclose_eq_self_iff]
  constructor
  · intro h a hfind
    have hsame := congrArg (fun s : Store => s.accounts.find? key) h
    simp only [Table.find?_modify, if_true, hfind, Option.map_some] at hsame
    exact Option.some.inj hsame
  · intro h
    exact congrArg (fun accounts => { s with accounts }) (Table.modify_eq_self h)

/-- **A mark on an item that is paid**, in a connected store, changes nothing but the closing time
of the document, and not even that if it is the same. -/
theorem markPaid_of_paid {s : Store} (connected : s.connected = true) {key : AccountKey}
    {reference : String} {a : AccountPenalties} (hfind : s.accounts.find? key = some a)
    (hpaid : a.paid? reference = some true) (time : Instant) :
    (s.markPaid key reference time).store =
        { s with accounts := s.accounts.modify key fun a => a.reclose (some time) } ∧
      ((s.markPaid key reference time).store = s ↔ a.closedAt = some time) := by
  have hnamed : ∃ i, a.place? reference = some i := by
    rw [AccountPenalties.paid?, a.item?_eq] at hpaid
    obtain ⟨item, hitem, -⟩ := Option.map_eq_some_iff.1 hpaid
    obtain ⟨i, hi, -⟩ := Option.bind_eq_some_iff.1 hitem
    exact ⟨i, hi⟩
  have hsame : (s.accounts.modify key fun a => a.markPaid reference time) =
      s.accounts.modify key fun a => a.reclose (some time) := Table.modify_congr fun b hb => by
    obtain rfl : a = b := Option.some.inj (hfind.symm.trans hb)
    obtain ⟨i, hi⟩ := hnamed
    rw [AccountPenalties.markPaid_of_paid (by simp [hpaid]), hi]
    rfl
  rw [(markPaid_of_connected connected key reference time).2, hsame]
  refine ⟨rfl, ?_⟩
  rw [reclosed_eq_self_iff s key fun _ => some time]
  constructor
  · exact fun h => h a hfind time rfl
  · intro h b hb t ht
    obtain rfl : time = t := Option.some.inj ht
    rwa [← Option.some.inj (hfind.symm.trans hb)]

end Store

namespace Desk

/-! ## The second time -/

/-- The closing time that the marks of references set in a document, with the clock from a look
on. -/
def closing (d : Desk) (look : Nat) (references : List String) (a : AccountPenalties) :
    Option Instant :=
  (a.lastNamed? references).map fun i => (d.clock (look + i)).toMillis

/-- It is the time of the last mark that names an item. -/
lemma last_marks (d : Desk) (references : List String) (a : AccountPenalties) :
    ((d.marks references).filter fun mark => (a.place? mark.1).isSome).getLast?.map Prod.snd =
      d.closing d.looks references a := by
  rw [marks, List.zipIdx_eq_map_add, List.map_map, List.filter_map, List.getLast?_map,
    Option.map_map, closing, AccountPenalties.lastNamed?, Option.map_map]
  rfl

variable {d : Desk} {e : PenaltyPaymentEvent}

/-- The desk after an event that is confirmed, with a connected store. -/
lemma settled_of_confirmed (connected : d.store.connected = true)
    (confirmed : d.confirms d.confirmCalls.length = .ok ()) :
    d.settled e = { d with
      store := { d.store with
        accounts := d.store.accounts.modify e.account fun a => a.payAll (d.marks e.references) }
      confirmCalls := d.confirmCalls ++ [e.confirmation]
      looks := d.looks + e.references.length } := by
  rw [settled, confirmed]
  exact if_pos connected

/-- An event that is confirmed leaves the store connected and the next answer the same. -/
lemma confirmed_again (connected : d.store.connected = true)
    (first : d.confirms d.confirmCalls.length = .ok ())
    (second : d.confirms (d.confirmCalls.length + 1) = .ok ()) :
    (d.settled e).store.connected = true ∧
      (d.settled e).confirms (d.settled e).confirmCalls.length = .ok () := by
  rw [settled_of_confirmed connected first]
  exact ⟨connected, by simpa using second⟩

/-- The document of the account after the work on an event has been marked with its references. -/
lemma find?_settled (connected : d.store.connected = true)
    (confirmed : d.confirms d.confirmCalls.length = .ok ()) {a : AccountPenalties}
    (h : (d.settled e).store.accounts.find? e.account = some a) :
    ∃ before : AccountPenalties, a = before.payAll (d.marks e.references) := by
  rw [settled_of_confirmed connected confirmed] at h
  simp only [Table.find?_modify, if_true] at h
  obtain ⟨before, -, rfl⟩ := Option.map_eq_some_iff.1 h
  exact ⟨before, rfl⟩

/-- Items that marks of the same references name have been paid. -/
lemma paid?_payAll_marks (d d' : Desk) (references : List String) (a : AccountPenalties)
    {mark : Mark} (h : mark ∈ d'.marks references) :
    (a.payAll (d.marks references)).paid? mark.1 ≠ some false := by
  have hreference : mark.1 ∈ references := (d'.mem_marks references mark.1).1 ⟨mark.2, h⟩
  obtain ⟨time, htime⟩ := (d.mem_marks references mark.1).2 hreference
  have hany : (d.marks references).any (fun other => other.1 == mark.1) = true :=
    List.any_eq_true.2 ⟨_, htime, beq_self_eq_true _⟩
  rw [AccountPenalties.paid?_payAll, hany]
  cases a.paid? mark.1 <;> simp

/-- The store after an event that is settled again. -/
lemma settled_settled_store (connected : d.store.connected = true)
    (first : d.confirms d.confirmCalls.length = .ok ())
    (second : d.confirms (d.confirmCalls.length + 1) = .ok ()) :
    ((d.settled e).settled e).store = { (d.settled e).store with
      accounts := (d.settled e).store.accounts.modify e.account fun a =>
        a.reclose (d.closing (d.looks + e.references.length) e.references a) } := by
  obtain ⟨hconnected, hagain⟩ := confirmed_again (e := e) connected first second
  have hclosing : (d.settled e).closing (d.settled e).looks =
      d.closing (d.looks + e.references.length) := by
    rw [settled_of_confirmed connected first]
    rfl
  rw [settled_of_confirmed hconnected hagain]
  refine congrArg (fun accounts => { (d.settled e).store with accounts })
    (Table.modify_congr fun a ha => ?_)
  obtain ⟨before, rfl⟩ := find?_settled connected first ha
  rw [AccountPenalties.payAll_of_paid fun mark hmark =>
    d.paid?_payAll_marks (d.settled e) e.references before hmark, last_marks, hclosing]

/-- The closing time of the document after the work on an event. -/
lemma closedAt_settled (connected : d.store.connected = true)
    (confirmed : d.confirms d.confirmCalls.length = .ok ()) {a : AccountPenalties}
    (h : (d.settled e).store.accounts.find? e.account = some a) :
    ∀ t ∈ d.closing d.looks e.references a, a.closedAt = some t := by
  obtain ⟨before, rfl⟩ := find?_settled connected confirmed h
  rintro t ht
  have hlast : d.closing d.looks e.references before = some t := by
    rw [closing, AccountPenalties.lastNamed?_payAll] at ht
    exact ht
  rw [AccountPenalties.closedAt_payAll, last_marks, hlast]
  rfl

/-- The store is the same exactly if the last mark that names an item is made at the same time. -/
lemma settled_settled_eq_iff (connected : d.store.connected = true)
    (first : d.confirms d.confirmCalls.length = .ok ())
    (second : d.confirms (d.confirmCalls.length + 1) = .ok ()) :
    ((d.settled e).settled e).store = (d.settled e).store ↔
      ∀ a, (d.settled e).store.accounts.find? e.account = some a →
        d.closing (d.looks + e.references.length) e.references a =
          d.closing d.looks e.references a := by
  rw [settled_settled_store connected first second, Store.reclosed_eq_self_iff]
  refine forall₂_congr fun a ha => ?_
  have hclosed := closedAt_settled connected first ha
  simp only [closing] at hclosed ⊢
  cases hlast : a.lastNamed? e.references with
  | none => simp
  | some i =>
    rw [hlast] at hclosed
    simp [hclosed _ rfl, eq_comm]

/-- **The work on an event that has been settled**, in a connected store, when the ledger confirms
it both times. It changes nothing but the closing time of the document of the account, which
becomes that of the last mark that names an item. So the store is the same exactly if the clock
shows the same at that mark both times, or no reference names an item. So it is with a single mark
on an item that is paid.

**Proof sketch.** After the first time every item that is named is paid. Marks on such items leave
all but the closing time, and the place of the last reference that names an item is the same both
times. -/
theorem settle_settle {d : Desk} (connected : d.store.connected = true) (e : PenaltyPaymentEvent)
    (first : d.confirms d.confirmCalls.length = .ok ())
    (second : d.confirms (d.confirmCalls.length + 1) = .ok ()) :
    let once := d.settle e
    let twice := once.2.1.settle e
    let again := d.closing (d.looks + e.references.length) e.references
    (once.1 = .ok () ∧ twice.1 = .ok ()) ∧
    twice.2.1.payables = once.2.1.payables ∧
    twice.2.1.store = { once.2.1.store with
      accounts := once.2.1.store.accounts.modify e.account fun a => a.reclose (again a) } ∧
    (twice.2.1.store = once.2.1.store ↔
      ∀ a, once.2.1.store.accounts.find? e.account = some a →
        again a = d.closing d.looks e.references a) ∧
    ∀ {key reference a}, d.store.accounts.find? key = some a → a.paid? reference = some true →
      ∀ time,
        (d.store.markPaid key reference time).store = { d.store with
          accounts := d.store.accounts.modify key fun a => a.reclose (some time) } ∧
        ((d.store.markPaid key reference time).store = d.store ↔ a.closedAt = some time) := by
  intro once twice again
  have honce : once.2.1 = d.settled e := d.settle_desk e
  have htwice : twice.2.1 = (d.settled e).settled e := by
    rw [← honce]
    exact once.2.1.settle_desk e
  obtain ⟨hconnected, hsecond⟩ := confirmed_again (e := e) connected first second
  rw [← honce] at hconnected hsecond
  refine ⟨⟨?_, ?_⟩, ?_, ?_, ?_, Store.markPaid_of_paid connected⟩
  · have hresult : once.1 = _ := d.settle_result e
    rw [hresult, first, if_pos (.inl connected)]
  · have hresult : twice.1 = _ := once.2.1.settle_result e
    rw [hresult, hsecond, if_pos (.inl hconnected)]
  · rw [htwice, ← honce, settled, hsecond]
    exact ((once.2.1.called e).markAll_payables e.account e.references).1
  · rw [htwice, honce]
    exact settled_settled_store connected first second
  · rw [htwice, honce]
    exact settled_settled_eq_iff connected first second

/-! ### A penalty that is paid twice -/

namespace Twice

/-- A penalty and one that is left open. -/
def items : List PenaltyItem :=
  let item : PenaltyItem := {
    transactionReference := "A0000001", transactionDate := none, madeUpDate := none
    isPaid := false, amount := .ofUInt64 false 150, outstandingAmount := .ofUInt64 false 150
    transactionType := "1", transactionSubType := "EU", description := "Late filing penalty"
    dueDate := none, accountStatus := "CHS", dunningStatus := "PEN1" }
  [item, { item with transactionReference := "A0000002" }]

/-- The payment of the penalty, which is listed twice, with one that nobody knows. -/
def event : PenaltyPaymentEvent where
  attempt := 0
  companyCode := "LP"
  customerCode := "10000024"
  paymentId := "P1"
  externalPaymentId := ""
  paymentReference := ""
  paymentAmount := "150"
  totalValue := .ofUInt64 false 150
  transactionPayments := ["A0000001", "A0000001", "A0000009"].map fun reference =>
    ⟨reference, .ofUInt64 false 150⟩
  cardType := ""
  email := ""
  payableRef := "XYZ"

/-- A clock that shows the minutes of a day, one at each look. -/
def clock (n : Nat) : Instant :=
  { (default : Instant) with minute := n % 1440, minute_lt := Nat.mod_lt n (by decide) }

/-- A desk whose ledger confirms all. -/
def desk : Desk where
  store := { accounts := Table.empty.insert event.account (.new default event.account items) }
  confirms := fun _ => .ok ()
  reports := fun _ => .error (.bodyRead "no connection")
  clock := clock

/-- The document after the first time. -/
def document : AccountPenalties :=
  (AccountPenalties.new default event.account items).payAll (desk.marks event.references)

end Twice

/-- **The payment of a penalty that is settled twice** does not leave the store as it was after the
first time: the last mark that names the penalty is made at the second look and then at the
fifth. -/
theorem settle_settle_twice :
    let once := Twice.desk.settle Twice.event
    let twice := once.2.1.settle Twice.event
    once.1 = .ok () ∧ twice.1 = .ok () ∧ twice.2.1.store ≠ once.2.1.store := by
  obtain ⟨hresults, -, -, hiff, -⟩ := settle_settle (d := Twice.desk) rfl Twice.event rfl rfl
  refine ⟨hresults.1, hresults.2, fun h => ?_⟩
  have hdocument : (Twice.desk.settle Twice.event).2.1.store.accounts.find? Twice.event.account =
      some Twice.document := by decide +kernel
  have htimes : Twice.desk.closing (0 + 3) Twice.event.references Twice.document ≠
      Twice.desk.closing 0 Twice.event.references Twice.document := by decide +kernel
  exact htimes (hiff.1 h Twice.document hdocument)

/-- **Settling an event that has been settled may change the store.** -/
theorem not_settle_settle_eq :
    ¬∀ (d : Desk) (e : PenaltyPaymentEvent), d.store.connected = true →
      d.confirms d.confirmCalls.length = .ok () →
      d.confirms (d.confirmCalls.length + 1) = .ok () →
      (d.settle e).1 = .ok () →
      ((d.settle e).2.1.settle e).2.1.store = (d.settle e).2.1.store := by
  intro hsame
  have hresult : (Twice.desk.settle Twice.event).1 = .ok () := Twice.desk.settle_result _
  have hne : ((Twice.desk.settle Twice.event).2.1.settle Twice.event).2.1.store ≠
      (Twice.desk.settle Twice.event).2.1.store := by decide +kernel
  exact hne (hsame Twice.desk Twice.event rfl rfl rfl hresult)

end Desk

end PenaltySettlement
