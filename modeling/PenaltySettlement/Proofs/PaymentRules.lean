import Mathlib.Data.List.TakeWhile
import PenaltySettlement.Proofs.EventText
import PenaltySettlement.Proofs.LedgerReplies

/-!
# The rules on a payment to be created

The places of an input at which something is required have an order and names of their own: the
codes and the identifier, the total and the list, and then the reference and the value of each
penalty in the list, which is told by its index. The violations of an input are the places where
something is missing, each of them once and in that order.

## Main definitions

* `CreatePaymentInput.Place` — the places, with their order and their names.
* `CreatePaymentInput.MissingAt` — what is required at a place is missing.

## Main results

* `CreatePaymentInput.Place.field_injective` — different places have different names.
* `CreatePaymentInput.report_violations` — the violations are the places where something is missing.
-/

set_option autoImplicit false

namespace PenaltySettlement

/-! ## Blank texts and zeros -/

namespace Text

/-- Nothing is left of a text after trimming exactly when it is blank. -/
lemma trim_eq_empty_iff (s : String) : trim s = "" ↔ isBlank s = true := by
  have hblank : ∀ cs : List Char, trimStart cs = [] ↔ cs.all isSpace = true := by
    intro cs
    rw [trimStart, List.dropWhile_eq_nil_iff, List.all_eq_true]
  have hends : trimEnd (trimStart s.toList) = [] ↔ trimStart s.toList = [] := by
    rw [trimEnd, List.reverse_eq_nil_iff, hblank, List.all_reverse]
    constructor
    · intro hall
      by_contra hne
      have hfirst := List.head_dropWhile_not isSpace (l := s.toList) hne
      exact Bool.false_ne_true (hfirst.symm.trans (List.all_eq_true.1 hall _ (List.head_mem hne)))
    · intro hnil
      rw [hnil]
      rfl
  rw [trim, ← String.toList_inj, String.toList_ofList, isBlank, ← hblank]
  exact hends

end Text

/-- An amount is zero exactly when its number is, at any scale and with either sign. -/
lemma Decimal.value_eq_zero_iff (d : Decimal) : d.value = 0 ↔ d.isZero = true := by
  have hsign : (if d.negative then -1 else 1 : ℚ) ≠ 0 := by split <;> norm_num
  have hscale : (10 : ℚ) ^ d.scale ≠ 0 := pow_ne_zero _ (by norm_num)
  rw [value, div_eq_zero_iff, or_iff_left hscale, mul_eq_zero, or_iff_right hsign, Nat.cast_eq_zero,
    isZero, beq_iff_eq]

namespace CreatePaymentInput

/-! ## Places -/

/-- **A place of an input** at which something is required. A penalty in the list is told by its
index. -/
inductive Place where
  | customerCode
  | companyCode
  | paymentId
  | totalValue
  | transactions
  | reference (index : Nat)
  | value (index : Nat)
  deriving DecidableEq, Repr

/-- **What is required at a place is missing**: the text there is empty after trimming, the number
is zero, or the list is empty. There is no place at an index behind the list. -/
def MissingAt (i : CreatePaymentInput) : Place → Prop
  | .customerCode => Text.trim i.customerCode = ""
  | .companyCode => Text.trim i.companyCode = ""
  | .paymentId => Text.trim i.paymentId = ""
  | .totalValue => i.totalValue.value = 0
  | .transactions => i.transactions = []
  | .reference index =>
    ∃ t, i.transactions[index]? = some t ∧ Text.trim t.transactionReference = ""
  | .value index => ∃ t, i.transactions[index]? = some t ∧ t.value.value = 0

namespace Place

/-- **The order of the places.** The penalties come by their index, and each with its reference
before its value. -/
def rank : Place → Nat
  | .customerCode => 0
  | .companyCode => 1
  | .paymentId => 2
  | .totalValue => 3
  | .transactions => 4
  | .reference index => 5 + 2 * index
  | .value index => 6 + 2 * index

/-- **The name of a place**, with the index in decimal digits. -/
def field : Place → String
  | .customerCode => "CustomerCode"
  | .companyCode => "CompanyCode"
  | .paymentId => "PaymentID"
  | .totalValue => "TotalValue"
  | .transactions => "Transactions"
  | .reference index => "Transactions[" ++ index.repr ++ "].TransactionReference"
  | .value index => "Transactions[" ++ index.repr ++ "].Value"

/-- The violation at a place. -/
def violation (place : Place) : Violation := ⟨place.field, Violation.requiredRule⟩

/-- The places apart from the penalties, in their order. -/
def ahead : List Place := [.customerCode, .companyCode, .paymentId, .totalValue, .transactions]

/-- The places of some penalties, in their order. -/
def penalties (start count : Nat) : List Place :=
  (List.range' start count).flatMap fun index => [.reference index, .value index]

/-! ## Their names -/

/-- The name of a penalty tells the index, whose digits end at the bracket, and what stands behind
them. -/
lemma penalty_inj {m n : Nat} {part part' : String}
    (hpart : part.toList.takeWhile Char.isDigit = [])
    (hpart' : part'.toList.takeWhile Char.isDigit = [])
    (h : "Transactions[" ++ m.repr ++ part = "Transactions[" ++ n.repr ++ part') :
    m = n ∧ part = part' := by
  have hdigits : ∀ {index : Nat} {part : String}, part.toList.takeWhile Char.isDigit = [] →
      (Nat.toDigits 10 index ++ part.toList).takeWhile Char.isDigit = Nat.toDigits 10 index := by
    intro index part hpart
    have hall : ∀ c ∈ Nat.toDigits 10 index, c.isDigit = true := fun c hc =>
      Nat.isDigit_of_mem_toDigits (by decide) le_rfl hc
    rw [List.takeWhile_append_of_pos hall, hpart, List.append_nil]
  have hlist : Nat.toDigits 10 m ++ part.toList = Nat.toDigits 10 n ++ part'.toList := by
    rw [String.append_assoc, String.append_assoc, String.append_right_inj] at h
    simpa only [String.toList_append, Nat.repr_eq_ofList_toDigits, String.toList_ofList] using
      congrArg String.toList h
  have hsame : Nat.toDigits 10 m = Nat.toDigits 10 n := by
    rw [← hdigits hpart, hlist, hdigits hpart']
  constructor
  · rw [← Nat.ofDigitChars_ten_toDigits (n := m), hsame, Nat.ofDigitChars_ten_toDigits]
  · rw [hsame] at hlist
    exact String.toList_inj.1 (List.append_cancel_left hlist)

/-- No other place has the name of a penalty. -/
lemma field_ne_penalty {place : Place} (h : place ∈ ahead) (digits part : String) :
    place.field ≠ "Transactions[" ++ digits ++ part := by
  have hplain : ∀ place ∈ ahead, '[' ∉ place.field.toList := by decide +kernel
  have hbracket : '[' ∈ ("Transactions[" ++ digits ++ part).toList := by simp
  intro heq
  rw [← heq] at hbracket
  exact hplain place h hbracket

/-- **Different places have different names.** -/
theorem field_injective : Function.Injective field := by
  have hahead : ∀ place ∈ ahead, ∀ place' ∈ ahead, place.field = place'.field → place = place' := by
    decide
  have hpenalty : ∀ place : Place, place ∈ ahead ∨
      ∃ index, place = .reference index ∨ place = .value index := by
    intro place
    cases place <;> simp [ahead]
  intro place place' h
  rcases hpenalty place with hplace | ⟨m, rfl | rfl⟩ <;>
    rcases hpenalty place' with hplace' | ⟨n, rfl | rfl⟩
  · exact hahead place hplace place' hplace' h
  · exact absurd h (field_ne_penalty hplace _ _)
  · exact absurd h (field_ne_penalty hplace _ _)
  · exact absurd h.symm (field_ne_penalty hplace' _ _)
  · exact congrArg reference (penalty_inj (by simp) (by simp) h).1
  · exact absurd (penalty_inj (by simp) (by simp) h).2 (by decide)
  · exact absurd h.symm (field_ne_penalty hplace' _ _)
  · exact absurd (penalty_inj (by simp) (by simp) h).2 (by decide)
  · exact congrArg value (penalty_inj (by simp) (by simp) h).1

end Place

/-! ## The report -/

/-- Whether something is missing at a place, as the rules tell it. -/
def misses (i : CreatePaymentInput) : Place → Bool
  | .customerCode => Text.isBlank i.customerCode
  | .companyCode => Text.isBlank i.companyCode
  | .paymentId => Text.isBlank i.paymentId
  | .totalValue => i.totalValue.isZero
  | .transactions => i.transactions.isEmpty
  | .reference index => i.transactions[index]?.any fun t => Text.isBlank t.transactionReference
  | .value index => i.transactions[index]?.any fun t => t.value.isZero

/-- The rules tell what is missing. -/
lemma misses_iff (i : CreatePaymentInput) (place : Place) :
    i.misses place = true ↔ i.MissingAt place := by
  cases place <;>
    simp only [misses, MissingAt, Text.trim_eq_empty_iff, Decimal.value_eq_zero_iff,
      List.isEmpty_iff, Option.any_eq_true]

/-- The places of an input where something is missing, in their order. -/
def missingPlaces (i : CreatePaymentInput) : List Place :=
  (Place.ahead ++ Place.penalties 0 i.transactions.length).filter i.misses

/-- The violation at a place, if something is missing there. -/
lemma requiredIf_misses (i : CreatePaymentInput) (place : Place) :
    Violation.requiredIf (i.misses place) place.field =
      ([place].filter i.misses).map Place.violation := by
  rw [List.filter_singleton]
  cases i.misses place <;> rfl

/-- The violations of a penalty are those at its two places. -/
lemma violations_penalty {i : CreatePaymentInput} {index : Nat} {t : CreatePaymentTransaction}
    (h : i.transactions[index]? = some t) :
    t.violations index =
      ([.reference index, .value index].filter i.misses).map Place.violation := by
  have hreference : i.misses (.reference index) = Text.isBlank t.transactionReference := by
    simp only [misses, h, Option.any_some]
  have hvalue : i.misses (.value index) = t.value.isZero := by
    simp only [misses, h, Option.any_some]
  have hname : ∀ part : String, s!"Transactions[{index}]" ++ part =
      "Transactions[" ++ index.repr ++ ("]" ++ part) := fun part => String.append_assoc
  have hfront := i.requiredIf_misses (.reference index)
  have hback := i.requiredIf_misses (.value index)
  rw [hreference] at hfront
  rw [hvalue] at hback
  rw [← List.singleton_append, List.filter_append, List.map_append, ← hfront, ← hback]
  simp only [CreatePaymentTransaction.violations, Violation.required, hname]
  rfl

/-- The violations of the penalties from an index on are those at their places.

**Proof sketch.** Induction on the penalties that are left, whose first one is at the index. -/
lemma violationsFrom_eq {i : CreatePaymentInput} {start : Nat}
    {left : List CreatePaymentTransaction}
    (h : ∀ place, left[place]? = i.transactions[start + place]?) :
    CreatePaymentTransaction.violationsFrom start left =
      ((Place.penalties start left.length).filter i.misses).map Place.violation := by
  induction left generalizing start with
  | nil => rfl
  | cons t left ih =>
    have hfirst : i.transactions[start]? = some t := (h 0).symm
    have hothers : ∀ place, left[place]? = i.transactions[start + 1 + place]? := by
      intro place
      rw [Nat.add_right_comm]
      exact h (place + 1)
    have hpenalties : Place.penalties start (t :: left).length =
        [.reference start, .value start] ++ Place.penalties (start + 1) left.length := rfl
    rw [CreatePaymentTransaction.violationsFrom, violations_penalty hfirst, ih hothers, hpenalties,
      List.filter_append, List.map_append]

/-- The violations of an input are those at the places where something is missing. -/
lemma violations_eq (i : CreatePaymentInput) :
    i.violations = i.missingPlaces.map Place.violation := by
  have hplaces : ∀ place, i.transactions[place]? = i.transactions[0 + place]? := by
    intro place
    rw [Nat.zero_add]
  have hpenalties := violationsFrom_eq hplaces
  have hahead : Place.ahead = [.customerCode] ++ [.companyCode] ++ [.paymentId] ++ [.totalValue] ++
    [.transactions] := rfl
  rw [violations, hpenalties, missingPlaces, hahead]
  simp only [List.filter_append, List.map_append, ← requiredIf_misses]
  rfl

/-- The places are in their order, each of them once. -/
lemma pairwise_rank (count : Nat) :
    (Place.ahead ++ Place.penalties 0 count).Pairwise
      (fun place later => place.rank < later.rank) := by
  have hrank : ∀ {index : Nat} {place : Place}, place ∈ [Place.reference index, .value index] →
      5 + 2 * index ≤ place.rank ∧ place.rank ≤ 6 + 2 * index := by
    intro index place hplace
    simp only [List.mem_cons, List.not_mem_nil, or_false] at hplace
    rcases hplace with rfl | rfl <;> simp only [Place.rank] <;> omega
  rw [List.pairwise_append, Place.penalties, List.pairwise_flatMap]
  refine ⟨by decide, ⟨fun index _ => by simp [Place.rank], ?_⟩, ?_⟩
  · refine List.Pairwise.imp ?_ (List.pairwise_lt_range' (s := 0) (n := count) 1)
    intro m n hlt place hplace later hlater
    have hplace := hrank hplace
    have hlater := hrank hlater
    omega
  · intro place hplace later hlater
    have hfirst : ∀ place ∈ Place.ahead, place.rank < 5 := by decide
    obtain ⟨index, -, hlater⟩ := List.mem_flatMap.1 hlater
    have hplace := hfirst place hplace
    have hlater := hrank hlater
    omega

/-- Something is missing at exactly these places. -/
lemma mem_missingPlaces (i : CreatePaymentInput) (place : Place) :
    place ∈ i.missingPlaces ↔ i.MissingAt place := by
  rw [missingPlaces, List.mem_filter, misses_iff, and_iff_right_iff_imp]
  have hpenalty : ∀ index t, i.transactions[index]? = some t →
      index ∈ List.range' 0 i.transactions.length := by
    intro index t ht
    have hlt := (List.getElem?_eq_some_iff.1 ht).1
    rw [List.mem_range']
    exact ⟨index, hlt, by omega⟩
  intro hmissing
  cases place with
  | reference index =>
    obtain ⟨t, ht, -⟩ := hmissing
    exact List.mem_append_right _ (List.mem_flatMap.2 ⟨index, hpenalty index t ht, by simp⟩)
  | value index =>
    obtain ⟨t, ht, -⟩ := hmissing
    exact List.mem_append_right _ (List.mem_flatMap.2 ⟨index, hpenalty index t ht, by simp⟩)
  | _ => exact List.mem_append_left _ (by decide)

/-- **The violations of a payment to be created** are the places where something is missing: each of
them, no others, each once and in their order, under names that tell the places apart. An input may
be sent exactly when there is none; otherwise all of them are told.

**Proof sketch.** The rules go through the places in their order (`violations_eq`), the loop over
the penalties by induction with its running index (`violationsFrom_eq`). The order is strict
(`pairwise_rank`), and the names are different (`Place.field_injective`), since the digits of an
index end at the bracket behind them. -/
theorem report_violations (i : CreatePaymentInput) :
    Function.Injective Place.field ∧
    ∃ places : List Place,
      (∀ place, place ∈ places ↔ i.MissingAt place) ∧
      places.Pairwise (fun place later => place.rank < later.rank) ∧
      i.violations = places.map (fun place => ⟨place.field, "required"⟩) ∧
      (i.violations.map Violation.field).Nodup ∧
      (checked i.violations = .ok () ↔ ∀ place, ¬i.MissingAt place) ∧
      ∀ violations, checked i.violations = .error violations → violations = i.violations := by
  have hsorted : i.missingPlaces.Pairwise (fun place later => place.rank < later.rank) :=
    (pairwise_rank i.transactions.length).filter i.misses
  have hnone : i.violations = [] ↔ ∀ place, ¬i.MissingAt place := by
    rw [violations_eq, List.map_eq_nil_iff, List.eq_nil_iff_forall_not_mem]
    exact forall_congr' fun place => not_congr (i.mem_missingPlaces place)
  refine ⟨Place.field_injective, i.missingPlaces, i.mem_missingPlaces, hsorted, i.violations_eq,
    ?_, ?_, ?_⟩
  · rw [violations_eq, List.map_map, List.Nodup, List.pairwise_map]
    refine hsorted.imp fun hlt heq => ?_
    rw [Place.field_injective heq] at hlt
    exact lt_irrefl _ hlt
  · rw [← hnone]
    cases h : i.violations <;> simp [checked]
  · intro violations h
    cases hviolations : i.violations with
    | nil =>
      rw [hviolations] at h
      cases h
    | cons v others =>
      rw [hviolations] at h
      cases h
      rfl

/-- The second of two penalties lacks both its reference and its value. -/
example :
    let i : CreatePaymentInput := {
      customerCode := "C1", companyCode := "LP", paymentId := "P1"
      totalValue := .ofUInt64 false 150
      transactions := [⟨"A1", .ofUInt64 false 150⟩, ⟨" ", .ofUInt64 true 0⟩] }
    i.violations.map Violation.field =
      ["Transactions[1].TransactionReference", "Transactions[1].Value"] := by decide +kernel

end CreatePaymentInput

end PenaltySettlement
