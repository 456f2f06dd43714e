import PenaltySettlement.Ledger.Envelope
import PenaltySettlement.Ledger.Transaction
import PenaltySettlement.Proofs.EventMembers

/-!
# How the ledger's answers are read

All that the ledger answers is read looking at one value at a time: dates and counts, values of any
shape, and the records that are made of them. So its answers are read member by member.

## Main results

* `Json.Value.codec_local` — a value of any shape is read whatever follows it.
* `LedgerTransaction.codec_local`, `Page.codec_local`, `SubError.codec_local` — so are the parts of
  the ledger's answers.
-/

set_option autoImplicit false

namespace PenaltySettlement

namespace Json

/-! ## Plain values -/

namespace Codec.Local

variable {α β : Type} {c : Codec α}

/-- What is read and then changed. -/
lemma of_map {d : Codec β} (h : c.Local) (f : α → β)
    (hread : ∀ n tokens, d.read n tokens = (c.read n tokens).map fun (x, rest) => (f x, rest)) :
    d.Local := by
  intro n value hvalue rest
  rw [hread, hread, h n hvalue]
  cases c.read n value <;> rfl

/-- Truth values. -/
lemma boolean : Codec.boolean.Local := by
  refine .of_token ?_ ⟨_, rfl⟩ ⟨_, rfl⟩
  intro n first others hstarts
  cases first <;> rfl

/-- Naturals. -/
lemma natural (name : String) (greatest : Nat) : (Codec.natural name greatest).Local :=
  .of_map (.integer name 0 greatest) Int.toNat fun _ _ => rfl

/-- Texts that stand for values. -/
lemma ofText (expected : String) (parse : String → Except Fault α) (print : α → String) :
    (Codec.ofText expected parse print).Local := by
  refine .of_token ?_ ⟨_, rfl⟩ ⟨_, rfl⟩
  intro n first others hstarts
  cases first with
  | text raw =>
    show (readText true raw).bind _ = ((readText true raw).bind _).map _
    cases readText true raw with
    | error fault => rfl
    | ok s =>
      show (parse s).bind _ = ((parse s).bind _).map _
      cases parse s <;> rfl
  | _ => rfl

/-- Values or `null`: of the tokens that a value starts with, only `null` itself is one. -/
lemma option (h : c.Local) : c.option.Local := by
  intro n value hvalue rest
  have hsome : (c.read n (value ++ rest)).map (fun read => (some read.1, read.2)) =
      ((c.read n value).map fun read => (some read.1, read.2)).map fun read => (read.1, rest) := by
    rw [h n hvalue]
    cases c.read n value <;> rfl
  cases hvalue with
  | null => rfl
  | _ => exact hsome

/-- Values for one of which `null` stands. -/
lemma nullAs (h : c.Local) (default : α) : (Codec.nullAs default c).Local :=
  .of_map h.option (·.getD default) fun _ _ => rfl

end Codec.Local

/-! ## Values of any shape -/

namespace Value

/-- The members of an object are read whatever follows the object, with fuel enough for them, if
their values are. -/
lemma readMembers_append {item : TokenReader Value} {members : List (List UInt8 × List Token)}
    (hlocal : ∀ m ∈ members, ∀ rest, item (m.2 ++ rest) = (item m.2).map fun (x, _) => (x, rest))
    (first : Bool) (found : List (String × Value)) {fuel fuel' : Nat}
    (hfuel : members.length < fuel) (hfuel' : members.length < fuel') (rest : List Token) :
    readMembers item fuel first found
        (separated first (members.map fun m => memberTokens m.1 m.2) ++ .closeObject :: rest) =
      (readMembers item fuel' first found
          (separated first (members.map fun m => memberTokens m.1 m.2) ++ [.closeObject])).map
        fun (found, _) => (found, rest) := by
  induction members generalizing first found fuel fuel' with
  | nil =>
    obtain ⟨fuel, rfl⟩ : ∃ m, fuel = m + 1 := ⟨fuel - 1, by omega⟩
    obtain ⟨fuel', rfl⟩ : ∃ m, fuel' = m + 1 := ⟨fuel' - 1, by omega⟩
    rfl
  | cons m members ih =>
    obtain ⟨fuel, rfl⟩ : ∃ m, fuel = m + 1 := ⟨fuel - 1, by omega⟩
    obtain ⟨fuel', rfl⟩ : ∃ m, fuel' = m + 1 := ⟨fuel' - 1, by omega⟩
    obtain ⟨hitem, hitems⟩ := List.forall_mem_cons.1 hlocal
    rw [List.length_cons] at hfuel hfuel'
    simp only [List.map_cons, separated, memberTokens, List.append_assoc, List.cons_append]
    rw [readMembers, readMembers, Members.nextKey_text, Members.nextKey_text]
    cases readText true m.1 with
    | error fault => rfl
    | ok key =>
      dsimp only [Except.map, behindColon, Except.bind]
      rw [hitem, hitem]
      cases item m.2 with
      | error fault => rfl
      | ok read => exact ih hitems false (insert key read.1 found) (by omega) (by omega)

/-- **A value of any shape is read whatever follows it.**

**Proof sketch.** Induction on the value. The parts of a list or of an object are read with one
level less. -/
theorem codec_local : codec.Local := by
  intro n value h rest
  show read n (value ++ rest) = (read n value).map _
  induction h generalizing n rest with
  | null => cases n <;> rfl
  | boolean b => cases n <;> rfl
  | number k =>
    cases n with
    | zero => rfl
    | succ n =>
      show (Number.ofNumeral k).map _ = ((Number.ofNumeral k).map _).map _
      cases Number.ofNumeral k <;> rfl
  | text raw =>
    cases n with
    | zero => rfl
    | succ n =>
      show (readText true raw).map _ = ((readText true raw).map _).map _
      cases readText true raw <;> rfl
  | @list parts hparts ih =>
    have hne : ∀ part ∈ parts, part ≠ [] := by
      intro part hpart
      obtain ⟨first, others, rfl, -⟩ := (hparts part hpart).starts
      exact List.cons_ne_nil first others
    have hfuel := length_lt_fuel true hne .closeList rest
    have hfuel' := length_lt_fuel true hne .closeList []
    cases n with
    | zero => rfl
    | succ n =>
      rw [List.cons_append, List.append_assoc, List.singleton_append, read, read]
      split
      · rfl
      · rw [readElements_append hparts (fun part hpart => ih part hpart n) true [] hfuel hfuel']
        cases readElements (read n) _ true [] (separated true parts ++ [.closeList]) <;> rfl
  | @object members hmembers ih =>
    have hne : ∀ part ∈ members.map fun m => memberTokens m.1 m.2, part ≠ [] :=
      List.forall_mem_map.2 fun _ _ => List.cons_ne_nil _ _
    have hfuel := length_lt_fuel true hne .closeObject rest
    have hfuel' := length_lt_fuel true hne .closeObject []
    rw [List.length_map] at hfuel hfuel'
    cases n with
    | zero => rfl
    | succ n =>
      rw [List.cons_append, List.append_assoc, List.singleton_append, read, read]
      split
      · rfl
      · rw [readMembers_append (fun m hm => ih m hm n) true [] hfuel hfuel']
        cases readMembers (read n) _ true []
          (separated true (members.map fun m => memberTokens m.1 m.2) ++ [.closeObject]) <;> rfl

end Value

end Json

open Json (Codec)

/-! ## Parts of the ledger's answers -/

/-- Dates are read looking at their value only. -/
lemma Date.codec_local : Date.codec.Local := .ofText _ _ _

/-- Transactions are read looking at their value only. -/
theorem LedgerTransaction.codec_local : LedgerTransaction.codec.Local :=
  .record ⟨.text, .text, .text, .text, Date.codec_local.option, Date.codec_local.option,
    Decimal.floatCodec_local, Decimal.floatCodec_local, .boolean, .text, .text, .text,
    Date.codec_local.option, .text, .text, trivial⟩

/-- Pages are read looking at their value only. -/
theorem Page.codec_local : Page.codec.Local :=
  .record ⟨.natural _ _, .natural _ _, .natural _ _, .natural _ _, trivial⟩

/-- Errors on fields are read looking at their value only. -/
theorem SubError.codec_local : SubError.codec.Local :=
  .record ⟨.text, .text, Json.Value.codec_local.option, .text, trivial⟩

end PenaltySettlement
