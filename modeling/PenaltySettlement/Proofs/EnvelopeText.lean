import PenaltySettlement.Ledger.Envelope
import PenaltySettlement.Proofs.ValueText

/-!
# Error envelopes and their texts

An error envelope that has been read comes back from the text that is written for it, whatever text
it was read from: an object or a list, its members in any order, absent, `null` or present. Only the
values that were rejected may hold floating point numbers, which need not come back as they were.

## Main results

* `SubError.restores`, `ErrorEnvelope.restores` — what has been read is restored.
* `ErrorEnvelope.reread` — an envelope that has been read is written as a text that is read as the
  same envelope and written for it again.
-/

set_option autoImplicit false

namespace PenaltySettlement

open Json (Codec Value)

/-- An error on a field is restored if it has been read. -/
lemma SubError.restores {n : Nat} {e : SubError} (h : SubError.codec.Yields (n + 2) e)
    (hintegral : ∀ v ∈ e.rejectedValue, v.integral = true) :
    SubError.codec.Restores (n + 1) e e := by
  obtain ⟨⟨object, field, rejectedValue, message, ⟨⟩⟩, rfl, hobject, hfield, hrejected, hmessage,
    -⟩ := h.record
  have hvalue : (Codec.option Value.codec).Restores n rejectedValue rejectedValue := by
    rcases hrejected with hread | habsent | hshort
    · exact Value.option_restores hread hintegral
    · cases habsent
      exact .absent
    · cases hshort
      exact .absent
  refine .record (object, field, rejectedValue, message, ()) (by decide) ?_
  exact ⟨.text object, .text field, hvalue, .text message, trivial⟩

namespace ErrorEnvelope

/-- **An envelope is restored** if it has been read. -/
lemma restores {n : Nat} {env : ErrorEnvelope} (h : codec.Yields (n + 4) env)
    (hintegral : ∀ e ∈ env.subErrors, ∀ v ∈ e.rejectedValue, v.integral = true) :
    codec.Restores (n + 3) env env := by
  obtain ⟨⟨httpStatusCode, status, timestamp, messageCode, message, debugMessage, subErrors, ⟨⟩⟩,
    rfl, hcode, -, -, -, -, -, hsubErrors, -⟩ := h.record
  have hgreatest : httpStatusCode ≤ twoPow 16 - 1 := by
    rcases hcode with hread | habsent | hshort
    · exact hread.natural
    · cases habsent
      exact Nat.zero_le _
    · cases hshort
      exact Nat.zero_le _
  have hbits : twoPow 16 - 1 < twoPow 64 := by decide
  have hread : ∀ e ∈ subErrors, SubError.codec.Yields (n + 2) e := by
    have hnone : ∀ e ∈ ([] : List SubError), SubError.codec.Yields (n + 2) e := nofun
    rcases hsubErrors with hread | habsent | hshort
    · rcases hread.nullAs with rfl | hlist
      · exact hnone
      · exact hlist.list
    · cases habsent
      exact hnone
    · cases hshort
      exact hnone
  have hlist : (Codec.nullAs [] (Codec.list SubError.codec)).Restores (n + 2) subErrors
      subErrors := by
    refine .nullAs (.list (List.forall₂_same.2 fun e he => ?_)) fun _ => nofun
    exact SubError.restores (hread e he) (hintegral e he)
  refine .record (httpStatusCode, status, timestamp, messageCode, message, debugMessage, subErrors,
    ()) (by decide) ?_
  exact ⟨.natural hgreatest (Nat.lt_of_le_of_lt hgreatest hbits), .text status, .text? timestamp,
    .text? messageCode, .text message, .text? debugMessage, hlist, trivial⟩

/-- **Error envelopes are stable.** For every envelope that is read from a body, none of whose
rejected values holds a floating point number, a text is written; it is read as the same envelope,
and so it is written again for what is read. -/
theorem reread {body : List UInt8} {env : ErrorEnvelope} (h : codec.decode body = .ok env)
    (hintegral : ∀ e ∈ env.subErrors, ∀ v ∈ e.rejectedValue, v.integral = true) :
    ∃ text : String, Utf8.encode text = codec.encode env ∧
      ∃ again, codec.decodeText text = .ok again ∧ again = env ∧
        codec.encode again = Utf8.encode text := by
  have hyields : codec.Yields (124 + 4) env := Codec.Yields.of_decode h
  obtain ⟨text, htext, hread⟩ := (restores hyields hintegral).exists_text (by decide)
  exact ⟨text, htext, env, hread, rfl, htext.symm⟩

/-! ### An envelope with a repeated key -/

namespace RepeatedKey

open Json (LegibleAhead Token)

/-- The tokens of an object. -/
def object (members : List (List Token)) : List Token :=
  .openObject :: (Json.separated true members ++ [.closeObject])

/-- An object is legible if its members are. -/
lemma legibleAhead_object {members : List (List Token)} (h : ∀ m ∈ members, LegibleAhead m) :
    LegibleAhead (object members) := Json.legibleAhead_bracketed (by decide) (by decide) h

/-- A rejected value with a key that comes twice. -/
def rejected : List Token :=
  object [.ofText "b" :: .colon :: [.number (.ofInt 1)], .ofText "a" :: .colon :: [.null],
    .ofText "b" :: .colon :: [.number (.ofInt (-7))]]

/-- An envelope with a member that it does not know, one that is `null` and an error with the
rejected value. -/
def tokens : List Token :=
  object [.ofText "x" :: .colon :: [.boolean true], .ofText "debugMessage" :: .colon :: [.null],
    .ofText "subErrors" :: .colon :: (.openList :: (Json.separated true
      [object [.ofText "rejectedValue" :: .colon :: rejected]] ++ [.closeList])),
    .ofText "status" :: .colon :: [.ofText "BAD"]]

/-- The rejected value is legible. -/
lemma legibleAhead_rejected : LegibleAhead rejected := by
  refine legibleAhead_object (List.forall_mem_cons.2 ⟨?_, List.forall_mem_cons.2 ⟨?_,
    List.forall_mem_singleton.2 ?_⟩⟩)
  · exact Json.legibleAhead_member _ (Json.legibleAhead_number (Numeral.proper_ofInt 1))
  · exact Json.legibleAhead_member _ (Json.legibleAhead_fixed (by decide))
  · exact Json.legibleAhead_member _ (Json.legibleAhead_number (Numeral.proper_ofInt (-7)))

/-- The envelope is legible. -/
lemma legibleAhead_tokens : LegibleAhead tokens := by
  refine legibleAhead_object (List.forall_mem_cons.2 ⟨?_, List.forall_mem_cons.2 ⟨?_,
    List.forall_mem_cons.2 ⟨?_, List.forall_mem_singleton.2 ?_⟩⟩⟩)
  · exact Json.legibleAhead_member _ (Json.legibleAhead_fixed (by decide))
  · exact Json.legibleAhead_member _ (Json.legibleAhead_fixed (by decide))
  · refine Json.legibleAhead_member _ (Json.legibleAhead_bracketed (by decide) (by decide)
      (List.forall_mem_singleton.2 (legibleAhead_object (List.forall_mem_singleton.2 ?_))))
    exact Json.legibleAhead_member _ legibleAhead_rejected
  · exact Json.legibleAhead_member _ (Codec.Restores.legible_ofText "BAD")

/-- The envelope is read, and the rejected value holds no floating point number. -/
lemma decode_tokens : ∃ env, codec.decode (Json.render tokens) = .ok env ∧
    env.subErrors.length = 1 ∧ ∀ e ∈ env.subErrors, ∀ v ∈ e.rejectedValue, v.integral = true := by
  have hread : (codec.read Json.levels tokens).toOption.map (fun read =>
      (read.2, read.1.subErrors.length,
        read.1.subErrors.all fun e => e.rejectedValue.all Value.integral)) =
      some ([], 1, true) := by decide +kernel
  rw [Codec.decode, Json.lex_render legibleAhead_tokens.legible]
  cases hfound : codec.read Json.levels tokens with
  | error fault =>
    rw [hfound] at hread
    cases hread
  | ok read =>
    obtain ⟨env, rest⟩ := read
    rw [hfound] at hread
    simp only [Except.toOption, Option.map_some, Option.some.injEq, Prod.mk.injEq] at hread
    obtain ⟨rfl, hlength, hintegral⟩ := hread
    refine ⟨env, rfl, hlength, fun e he v hv => ?_⟩
    have hall := List.all_eq_true.1 hintegral e he
    rw [hv] at hall
    exact hall

end RepeatedKey

/-- The envelope comes back, with its rejected value. -/
theorem reread_repeatedKey :
    ∃ env : ErrorEnvelope, codec.decode (Json.render RepeatedKey.tokens) = .ok env ∧
      env.subErrors.length = 1 ∧
      ∃ text : String, Utf8.encode text = codec.encode env ∧
        ∃ again, codec.decodeText text = .ok again ∧ again = env ∧
          codec.encode again = Utf8.encode text := by
  obtain ⟨env, hdecode, hlength, hintegral⟩ := RepeatedKey.decode_tokens
  exact ⟨env, hdecode, hlength, reread hdecode hintegral⟩

end ErrorEnvelope

end PenaltySettlement
