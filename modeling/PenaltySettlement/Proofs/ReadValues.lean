import Mathlib.Tactic.Common
import PenaltySettlement.Json.Record

/-!
# Values that are read

Whatever tokens a codec reads a value from, the value has parts that are read as well: the elements
of a list, the value of an option, the members of a record. A member of a record that is not read
has the value that stands for its absence.

## Main definitions

* `Json.Codec.Yields` — some tokens are read as a value.
* `Json.Members.Yields` — all members of a record have such values or those of their absence.

## Main results

* `Json.Codec.Yields.list`, `Json.Codec.Yields.option`, `Json.Codec.Yields.record` — what is read
  has parts that are read.
-/

set_option autoImplicit false

namespace PenaltySettlement.Json

/-- What is changed after it has been read has been read. -/
lemma exists_of_map_eq_ok {α β : Type} {outcome : Except Fault α} {f : α → β} {result : β}
    (h : outcome.map f = .ok result) : ∃ value, outcome = .ok value ∧ f value = result := by
  cases outcome with
  | error fault => cases h
  | ok value =>
    cases h
    exact ⟨value, rfl, rfl⟩

/-- **A codec yields a value**: some tokens are read as it, with a number of levels left. -/
def Codec.Yields {α : Type} (c : Codec α) (levels : Nat) (value : α) : Prop :=
  ∃ tokens rest, c.read levels tokens = .ok (value, rest)

namespace Codec.Yields

variable {α : Type} {c : Codec α} {n : Nat}

/-- What is read from a text is yielded. -/
lemma of_decode {bytes : List UInt8} {value : α} (h : c.decode bytes = .ok value) :
    c.Yields levels value := by
  unfold Codec.decode at h
  split at h
  · cases h
  · rename_i hread
    cases h
    exact ⟨_, _, hread⟩
  · cases h

/-- An integer is in the range of its type. -/
lemma integer {name : String} {least greatest k : Int}
    (h : (Codec.integer name least greatest).Yields n k) : least ≤ k ∧ k ≤ greatest := by
  obtain ⟨tokens, rest, hread⟩ := h
  unfold Codec.integer at hread
  dsimp only at hread
  split at hread
  · split at hread
    · cases hread
    · split at hread
      · rename_i hrange
        cases hread
        exact hrange
      · cases hread
    · cases hread
  · cases hread

/-- A natural is in the range of its type. -/
lemma natural {name : String} {greatest value : Nat}
    (h : (Codec.natural name greatest).Yields n value) : value ≤ greatest := by
  obtain ⟨tokens, rest, hread⟩ := h
  obtain ⟨⟨k, behind⟩, hinteger, hvalue⟩ := exists_of_map_eq_ok hread
  cases hvalue
  have hrange := integer ⟨tokens, _, hinteger⟩
  omega

/-! ## Options and lists -/

/-- **The value of an option is read**, from tokens that do not start with `null`. -/
lemma option {value : α} (h : c.option.Yields n (some value)) :
    ∃ tokens rest, (∀ others, tokens ≠ .null :: others) ∧ c.read n tokens = .ok (value, rest) := by
  obtain ⟨tokens, rest, hread⟩ := h
  unfold Codec.option at hread
  dsimp only at hread
  split at hread
  · cases hread
  · cases hread
  · rename_i hnull _
    obtain ⟨_, hvalue, hsome⟩ := exists_of_map_eq_ok hread
    cases hsome
    exact ⟨tokens, _, hnull, hvalue⟩

/-- A value that `null` may stand for as well is the default or is read. -/
lemma nullAs {default value : α} (h : (Codec.nullAs default c).Yields n value) :
    value = default ∨ c.Yields n value := by
  obtain ⟨tokens, rest, hread⟩ := h
  obtain ⟨⟨found, behind⟩, hoption, hvalue⟩ := exists_of_map_eq_ok hread
  cases hvalue
  cases found with
  | none => exact .inl rfl
  | some value =>
    obtain ⟨tokens, rest, -, hvalue⟩ := option ⟨tokens, _, hoption⟩
    exact .inr ⟨tokens, rest, hvalue⟩

end Codec.Yields

/-- Each element that is added to a list is read. -/
lemma readElements_yields {α : Type} {item : TokenReader α} {fuel : Nat} {first : Bool}
    {done values : List α} {tokens rest : List Token}
    (h : readElements item fuel first done tokens = .ok (values, rest)) :
    ∀ value ∈ values, value ∈ done ∨ ∃ tokens rest, item tokens = .ok (value, rest) := by
  induction fuel generalizing first done tokens with
  | zero => cases h
  | succ fuel ih =>
    rw [readElements] at h
    split at h
    · cases h
    · obtain ⟨_, -, hvalues⟩ := exists_of_map_eq_ok h
      cases hvalues
      exact fun value hvalue => .inl (List.mem_reverse.1 hvalue)
    · rename_i behind _
      split at h
      · cases h
      · rename_i element rest' helement
        intro value hvalue
        rcases ih h value hvalue with hdone | hread
        · rcases List.mem_cons.1 hdone with rfl | hdone
          · exact .inr ⟨behind, rest', helement⟩
          · exact .inl hdone
        · exact .inr hread

/-- **The elements of a list are read**, with one level less. -/
theorem Codec.Yields.list {α : Type} {c : Codec α} {n : Nat} {values : List α}
    (h : c.list.Yields n values) : ∀ value ∈ values, c.Yields (n - 1) value := by
  obtain ⟨tokens, rest, hread⟩ := h
  unfold Codec.list at hread
  dsimp only at hread
  split at hread
  · split at hread
    · cases hread
    · intro value hvalue
      exact (readElements_yields hread value hvalue).resolve_left List.not_mem_nil
  · cases hread

/-! ## Records -/

namespace Members

/-- **All members have values that are read** or that stand for their absence. -/
def Yields (levels : Nat) {ρ δ : Type} : Members ρ δ → (values : ρ) → Prop
  | .nil, _ => True
  | .cons member others, (value, values) =>
    (member.codec.Yields levels value ∨ member.whenAbsent = some value ∨
      member.whenShort = some value) ∧ others.Yields levels values

/-- All values that have been found are read. -/
def FoundYields (levels : Nat) {ρ δ : Type} : Members ρ δ → (found : δ) → Prop
  | .nil, _ => True
  | .cons member others, (value, found) =>
    (∀ v ∈ value, member.codec.Yields levels v) ∧ others.FoundYields levels found

section

variable {ρ δ : Type} {members : Members ρ δ} {n : Nat}

/-- Nothing has been found at first. -/
lemma foundYields_blank : members.FoundYields n members.blank := by
  induction members with
  | nil => trivial
  | cons member others ih => exact ⟨nofun, ih⟩

/-- One more member has been read. -/
lemma foundYields_readMember {key : String} {tokens rest : List Token} {found found' : δ}
    (h : members.readMember key n tokens found = some (.ok (found', rest)))
    (hfound : members.FoundYields n found) : members.FoundYields n found' := by
  induction members generalizing rest with
  | nil => cases h
  | cons member others ih =>
    obtain ⟨value, found⟩ := found
    obtain ⟨hvalue, hothers⟩ := hfound
    unfold readMember at h
    split at h
    · split at h
      · cases h
      · split at h
        · cases h
        · rename_i tokens
          obtain ⟨_, hread, hpair⟩ := exists_of_map_eq_ok (Option.some.inj h)
          cases hpair
          refine ⟨fun v hv => ?_, hothers⟩
          cases hv
          exact ⟨tokens, _, hread⟩
        · cases h
    · obtain ⟨result, hresult, hmap⟩ := Option.map_eq_some_iff.1 h
      obtain ⟨_, hread, hpair⟩ := exists_of_map_eq_ok hmap
      cases hpair
      rw [hread] at hresult
      exact ⟨hvalue, ih hresult hothers⟩

/-- The members of an object have been read. -/
lemma foundYields_readObject {fuel : Nat} {first : Bool} {tokens rest : List Token}
    {found found' : δ} (h : members.readObject n fuel first found tokens = .ok (found', rest))
    (hfound : members.FoundYields n found) : members.FoundYields n found' := by
  induction fuel generalizing first found tokens with
  | zero => cases h
  | succ fuel ih =>
    rw [readObject] at h
    split at h
    · cases h
    · cases h
      exact hfound
    · split at h
      · cases h
      · rename_i hmember
        exact ih h (foundYields_readMember hmember hfound)
      · split at h
        · cases h
        · exact ih h hfound

/-- What is completed has been read or stands for what is absent. -/
lemma yields_complete {found : δ} {values : ρ} (h : members.complete found = .ok values)
    (hfound : members.FoundYields n found) : members.Yields n values := by
  induction members with
  | nil => trivial
  | cons member others ih =>
    obtain ⟨value, found⟩ := found
    obtain ⟨hvalue, hothers⟩ := hfound
    rw [complete] at h
    split at h
    · rename_i result hresult
      obtain ⟨results, hcomplete, hpair⟩ := exists_of_map_eq_ok h
      cases hpair
      refine ⟨?_, ih hcomplete hothers⟩
      cases value with
      | none => exact .inr (.inl hresult)
      | some value =>
        cases hresult
        exact .inl (hvalue _ rfl)
    · cases h

/-- The members of a record in a list have been read or stand for what is short. -/
lemma yields_readElements {expected : String} {index : Nat} {tokens rest : List Token}
    {values : ρ} (h : members.readElements expected n index tokens = .ok (values, rest)) :
    members.Yields n values := by
  induction members generalizing index tokens rest with
  | nil => trivial
  | cons member others ih =>
    rw [readElements] at h
    split at h
    · cases h
    · split at h
      · rename_i hshort
        obtain ⟨_, hothers, hpair⟩ := exists_of_map_eq_ok h
        cases hpair
        exact ⟨.inr (.inr hshort), ih hothers⟩
      · cases h
    · split at h
      · cases h
      · rename_i hvalue
        obtain ⟨_, hothers, hpair⟩ := exists_of_map_eq_ok h
        cases hpair
        exact ⟨.inl ⟨_, _, hvalue⟩, ih hothers⟩

end

end Members

/-- **The members of a record are read**, with one level less, or stand for what is absent. -/
theorem Codec.Yields.record {ρ δ σ : Type} {name : String} {members : Members ρ δ}
    {build : ρ → σ} {parts : σ → ρ} {n : Nat} {value : σ}
    (h : (Codec.record name members build parts).Yields n value) :
    ∃ values, value = build values ∧ members.Yields (n - 1) values := by
  obtain ⟨tokens, rest, hread⟩ := h
  unfold Codec.record at hread
  dsimp only at hread
  split at hread
  · split at hread
    · cases hread
    · split at hread
      · cases hread
      · rename_i found behind hobject
        have hfound := Members.foundYields_readObject hobject Members.foundYields_blank
        obtain ⟨values, hcomplete, hpair⟩ := exists_of_map_eq_ok hread
        cases hpair
        exact ⟨values, rfl, Members.yields_complete hcomplete hfound⟩
  · split at hread
    · cases hread
    · split at hread
      · cases hread
      · rename_i values behind helements
        obtain ⟨_, -, hpair⟩ := exists_of_map_eq_ok hread
        cases hpair
        exact ⟨values, rfl, Members.yields_readElements helements⟩
  · cases hread

end PenaltySettlement.Json
