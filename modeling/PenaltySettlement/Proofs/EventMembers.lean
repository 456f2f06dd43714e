import PenaltySettlement.PaymentEvent
import PenaltySettlement.Proofs.MemberOrder

/-!
# The members of a payment event

Reading a payment event depends on the members that an event has, in any order: neither on white
space nor on any other member of the object, whatever its value is and however deep it nests.

## Main definitions

* `PenaltyPaymentEvent.memberNames` — the names of the members that an event has.

## Main results

* `PenaltyPaymentEvent.decode_of_members` — from two objects with the same of these members the same
  event is read, or none from either.
-/

set_option autoImplicit false

namespace PenaltySettlement

open Json (Codec Entry Member Members)

/-- Amounts are read looking at their value only. -/
lemma Decimal.floatCodec_local : Decimal.floatCodec.Local := by
  refine .of_token ?_ ⟨_, rfl⟩ ⟨_, rfl⟩
  intro n first others hstarts
  cases first with
  | number numeral =>
    dsimp only [floatCodec, read]
    cases Json.Number.ofNumeral numeral with
    | error fault => rfl
    | ok number =>
      dsimp only
      cases ofNumber? number <;> rfl
  | text raw =>
    dsimp only [floatCodec, read]
    cases Json.readText true raw with
    | error fault => rfl
    | ok text =>
      dsimp only
      cases ofText? text <;> rfl
  | _ => rfl

/-- Settled penalties are read looking at their value only. -/
lemma TransactionPayment.codec_local : TransactionPayment.codec.Local :=
  .record ⟨.text, Decimal.floatCodec_local, trivial⟩

namespace PenaltyPaymentEvent

/-- The names of the members that an event has. -/
def memberNames : List String :=
  ["attempt", "company_code", "customer_code", "payment_id", "external_payment_id",
    "payment_reference", "payment_amount", "total_value", "transaction_payments", "card_type",
    "email", "payable_ref"]

/-- **Reading an event depends on its own members only.** Take two objects all of whose keys can be
read, with any white space between their tokens. If the members whose keys are those of an event are
the same ones with the same values, in any order, then the same event is read from both, or none
from either. The other members may be any, and no key has to be unlike the others. -/
theorem decode_of_members {first second : List UInt8} {entries entries' : List Entry}
    (h : Json.IsObject entries first) (h' : Json.IsObject entries' second)
    (hkeys : ∀ e ∈ entries, ∃ key, e.key = .ok key)
    (hkeys' : ∀ e ∈ entries', ∃ key, e.key = .ok key)
    (hperm : (Json.membersAmong memberNames.contains entries).Perm
      (Json.membersAmong memberNames.contains entries')) :
    (∃ e, decode first = .ok e ∧ decode second = .ok e) ∨
      ((∃ fault, decode first = .error fault) ∧ ∃ fault, decode second = .error fault) := by
  have hsame : (decode first).toOption = (decode second).toOption := by
    unfold decode codec
    refine Codec.decode_perm ?_ ?_ h h' hkeys hkeys' hperm
    · exact ⟨.integer _ _ _, .text, .text, .text, .text, .text, .text, Decimal.floatCodec_local,
        .list TransactionPayment.codec_local, .text, .text, .text, trivial⟩
    · intro key
      have halias : ((none : Option String) == some key) = false := rfl
      simp only [Members.hasKey, Member.hasKey, Member.required, Member.defaulted, memberNames,
        halias, List.contains_cons, List.contains_nil, Bool.or_false]
  cases hfirst : decode first with
  | error fault =>
    cases hsecond : decode second with
    | error fault' => exact .inr ⟨⟨fault, rfl⟩, fault', rfl⟩
    | ok e =>
      rw [hfirst, hsecond] at hsame
      cases hsame
  | ok e =>
    cases hsecond : decode second with
    | error fault =>
      rw [hfirst, hsecond] at hsame
      cases hsame
    | ok e' =>
      rw [hfirst, hsecond] at hsame
      cases hsame
      exact .inl ⟨e, rfl, rfl⟩

/-! ### Two payloads of one event -/

namespace TwoPayloads

open Json (IsValue LegibleAhead)

/-- A member with a text. -/
def textMember (key s : String) : Entry := .ofText key [.ofText s] (.text _)

/-- The members that an event has to have. -/
def required : List Entry :=
  [textMember "company_code" "LP", textMember "customer_code" "C1", textMember "payment_id" "P\n1",
    .ofText "total_value" [.number (.ofInt 50)] (.number _), textMember "payable_ref" "R1"]

/-- A list in a list. -/
lemma isValue_nested : IsValue [.openList, .openList, .null, .closeList, .closeList] := by
  have hinner : ∀ part ∈ [[Json.Token.null]], IsValue part := List.forall_mem_singleton.2 .null
  have houter : ∀ part ∈ [[Json.Token.openList, .null, .closeList]], IsValue part :=
    List.forall_mem_singleton.2 (.list hinner)
  exact .list houter

/-- A member that no event has. -/
def other : Entry := .ofText "note" _ isValue_nested

/-- The payload with the required members only. -/
def first : List UInt8 :=
  Json.render (.openObject :: (Json.separated true (required.map Entry.tokens) ++ [.closeObject]))

/-- The payload with another member in front and the required ones in reverse, behind a blank. -/
def second : List UInt8 :=
  Json.ascii ' ' :: Json.render (.openObject ::
    (Json.separated true ((other :: required.reverse).map Entry.tokens) ++ [.closeObject]))

/-- A member with a text is legible. -/
lemma legibleAhead_textMember (key s : String) : LegibleAhead (textMember key s).tokens :=
  Json.legibleAhead_member key (Codec.Restores.legible_ofText s)

/-- The required members are legible. -/
lemma legibleAhead_required : ∀ e ∈ required, LegibleAhead e.tokens := by
  have htotal := Json.legibleAhead_member "total_value"
    (Json.legibleAhead_number (Numeral.proper_ofInt 50))
  intro e he
  simp only [required, List.mem_cons, List.not_mem_nil, or_false] at he
  rcases he with rfl | rfl | rfl | rfl | rfl
  · exact legibleAhead_textMember _ _
  · exact legibleAhead_textMember _ _
  · exact legibleAhead_textMember _ _
  · exact htotal
  · exact legibleAhead_textMember _ _

/-- The other member is legible. -/
lemma legibleAhead_other : LegibleAhead other.tokens := by
  refine Json.legibleAhead_member "note" fun rest _ hrest => ?_
  exact .fixed (by decide) (.fixed (by decide) (.fixed (by decide) (.fixed (by decide)
    (.fixed (by decide) hrest))))

/-- The keys of the required members can be read. -/
lemma key_required : ∀ e ∈ required, ∃ key, e.key = .ok key := by
  intro e he
  simp only [required, List.mem_cons, List.not_mem_nil, or_false] at he
  rcases he with rfl | rfl | rfl | rfl | rfl <;> exact ⟨_, Entry.key_ofText _ _ _⟩

/-- An event is read from the required members. -/
lemma isOk_decode_first : (decode first).isOk = true := by
  unfold decode codec
  rw [first, Codec.decode_record ?_ (Json.isObject_render legibleAhead_required)]
  · decide +kernel
  · exact ⟨.integer _ _ _, .text, .text, .text, .text, .text, .text, Decimal.floatCodec_local,
      .list TransactionPayment.codec_local, .text, .text, .text, trivial⟩

/-- All members of the second payload are legible. -/
lemma legibleAhead_second : ∀ e ∈ other :: required.reverse, LegibleAhead e.tokens :=
  List.forall_mem_cons.2
    ⟨legibleAhead_other, fun e he => legibleAhead_required e (List.mem_reverse.1 he)⟩

/-- The key of the other member. -/
lemma key_other : other.key = .ok "note" := Entry.key_ofText _ _ _

/-- All keys of the second payload can be read. -/
lemma key_second : ∀ e ∈ other :: required.reverse, ∃ key, e.key = .ok key :=
  List.forall_mem_cons.2
    ⟨⟨_, key_other⟩, fun e he => key_required e (List.mem_reverse.1 he)⟩

/-- The second payload is an object behind a blank. -/
lemma isObject_second : Json.IsObject (other :: required.reverse) second := by
  have hblank : Json.isBlank (Json.ascii ' ') = true := by decide
  exact .blank hblank (Json.isObject_render legibleAhead_second)

/-- Both payloads have the same members of an event. -/
lemma perm_members : (Json.membersAmong memberNames.contains required).Perm
    (Json.membersAmong memberNames.contains (other :: required.reverse)) := by
  rw [Json.membersAmong, Json.membersAmong, List.filterMap_cons, Entry.among?_of_key key_other,
    if_neg (by decide)]
  exact (List.reverse_perm required).symm.filterMap _

end TwoPayloads

/-- The same event is read from both payloads. -/
theorem decode_of_members_reverse :
    ∃ e, decode TwoPayloads.first = .ok e ∧ decode TwoPayloads.second = .ok e := by
  have hfirst := Json.isObject_render TwoPayloads.legibleAhead_required
  rcases decode_of_members hfirst TwoPayloads.isObject_second TwoPayloads.key_required
    TwoPayloads.key_second TwoPayloads.perm_members with hok | ⟨⟨fault, hfault⟩, -⟩
  · exact hok
  · have hok := TwoPayloads.isOk_decode_first
    rw [TwoPayloads.first, hfault] at hok
    cases hok

end PenaltyPaymentEvent

end PenaltySettlement
