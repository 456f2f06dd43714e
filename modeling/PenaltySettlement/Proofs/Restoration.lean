import PenaltySettlement.Json.Record
import PenaltySettlement.Proofs.WrittenTokens

/-!
# Values that are restored

A value is restored when what a codec writes for it is read again as a value: as the same one, or
as one that stands in its place. Parts that are restored make lists, options and records that are
restored, as long as no two members of a record have a key in common and the nesting is not too
deep.

## Main definitions

* `Json.Codec.Restores` — the codec restores a value.
* `Json.Members.Restores`, `Json.Members.Apart` — all members of a record restore their values, and
  no two of them have a key in common.
* `Json.separated` — parts of a list or of an object with commas between them.

## Main results

* `Json.Codec.Restores.exists_text` — a text is written for a value and read as the restored one.
* `Json.Codec.Restores.list`, `Json.Codec.Restores.record` — lists and records are restored.
-/

set_option autoImplicit false

namespace PenaltySettlement.Json

/-! ## Parts between commas -/

/-- **Parts with commas between them**, and another one in front unless they come first. -/
def separated : (first : Bool) → List (List Token) → List Token
  | _, [] => []
  | first, part :: parts => (if first then [] else [.comma]) ++ part ++ separated false parts

/-- Parts that are joined with commas are parts with commas between them. -/
lemma intercalate_eq_separated (parts : List (List Token)) :
    List.intercalate [.comma] parts = separated true parts := by
  cases parts with
  | nil => rfl
  | cons part parts =>
    induction parts generalizing part with
    | nil => simp [separated]
    | cons next parts ih =>
      rw [List.intercalate_cons_cons, ih]
      simp [separated]

/-- There are no more parts than tokens. -/
lemma length_le_length_separated (first : Bool) {parts : List (List Token)}
    (h : ∀ part ∈ parts, part ≠ []) : parts.length ≤ (separated first parts).length := by
  induction parts generalizing first with
  | nil => exact Nat.zero_le _
  | cons part parts ih =>
    obtain ⟨hpart, hparts⟩ := List.forall_mem_cons.1 h
    have hlength := List.length_pos_iff.2 hpart
    have := ih false hparts
    simp only [separated, List.length_append, List.length_cons]
    omega

/-- Fuel for all tokens is more than the parts take. -/
lemma length_lt_fuel (first : Bool) {parts : List (List Token)} (h : ∀ part ∈ parts, part ≠ [])
    (closing : Token) (rest : List Token) :
    parts.length < (separated first parts ++ closing :: rest).length + 1 := by
  have hlength := length_le_length_separated first h
  rw [List.length_append]
  omega

/-- **A part that is legible** in front of other tokens that do not start with a number. -/
def LegibleAhead (part : List Token) : Prop :=
  ∀ rest, (∀ n, rest.head? ≠ some (.number n)) → Legible rest → Legible (part ++ rest)

/-- A part that is legible in front of others is so in front of none. -/
lemma LegibleAhead.legible {part : List Token} (h : LegibleAhead part) : Legible part := by
  have hlegible := h [] nofun .nil
  rwa [List.append_nil] at hlegible

/-- No mark or word is a number. -/
lemma ne_number_of_fixed {token : Token} (h : token ∈ Token.fixed) (n : Numeral) :
    token ≠ .number n := by
  rintro rfl
  simp [Token.fixed] at h

/-- A mark or a word is legible. -/
lemma legibleAhead_fixed {token : Token} (h : token ∈ Token.fixed) : LegibleAhead [token] :=
  fun _ _ hrest => .fixed h hrest

/-- A number that can be written is legible. -/
lemma legibleAhead_number {n : Numeral} (h : n.Proper) : LegibleAhead [.number n] :=
  fun _ hfirst hrest => .number h hfirst hrest

/-- A text with its value behind a colon is legible if the value is. -/
lemma legibleAhead_member (name : String) {value : List Token} (h : LegibleAhead value) :
    LegibleAhead (.ofText name :: .colon :: value) :=
  fun rest hfirst hrest => .text name (.fixed (by decide) (h rest hfirst hrest))

/-- Parts that are legible are so with commas between them. -/
lemma legible_separated {parts : List (List Token)} (h : ∀ part ∈ parts, LegibleAhead part)
    (first : Bool) {rest : List Token} (hfirst : ∀ n, rest.head? ≠ some (.number n))
    (hrest : Legible rest) : Legible (separated first parts ++ rest) := by
  induction parts generalizing first with
  | nil => exact hrest
  | cons part parts ih =>
    obtain ⟨hpart, hparts⟩ := List.forall_mem_cons.1 h
    have hbehind : ∀ n, (separated false parts ++ rest).head? ≠ some (.number n) := by
      cases parts with
      | nil => exact hfirst
      | cons => exact nofun
    have hpart := hpart _ hbehind (ih hparts false)
    rw [separated, List.append_assoc, List.append_assoc]
    cases first with
    | true => exact hpart
    | false => exact .fixed (by decide) hpart

/-- Parts between brackets are legible if each of them is. -/
lemma legibleAhead_bracketed {opening closing : Token} (hopening : opening ∈ Token.fixed)
    (hclosing : closing ∈ Token.fixed) {parts : List (List Token)}
    (h : ∀ part ∈ parts, LegibleAhead part) :
    LegibleAhead (opening :: (separated true parts ++ [closing])) := by
  intro rest _ hrest
  rw [List.cons_append, List.append_assoc]
  refine .fixed hopening (legible_separated h true ?_ (.fixed hclosing hrest))
  exact fun n hn => ne_number_of_fixed hclosing n (Option.some.inj hn)

/-! ## Values -/

/-- **A codec restores a value** as a result, where the value nests to a depth. What is written for
the value may be followed by anything. It is not empty, does not start like the end of a list and
is legible. -/
structure Codec.Restores {α : Type} (c : Codec α) (depth : Nat) (value result : α) : Prop where
  reads : ∀ {levels}, depth < levels → ∀ rest,
    c.read levels (c.write value ++ rest) = .ok (result, rest)
  starts : ∃ first others, c.write value = first :: others ∧ first ≠ .closeList
  legible : LegibleAhead (c.write value)

namespace Codec.Restores

variable {α : Type} {c : Codec α} {depth : Nat} {value result : α}

/-- **A text is written for a value**, and it is read as the restored one. -/
theorem exists_text (h : c.Restores depth value result) (hdepth : depth < levels) :
    ∃ text : String, Utf8.encode text = c.encode value ∧ c.decodeText text = .ok result := by
  have hlegible := h.legible.legible
  obtain ⟨text, htext⟩ := isText_render hlegible
  refine ⟨text, htext, ?_⟩
  have hreads := h.reads hdepth []
  rw [List.append_nil] at hreads
  rw [Codec.decodeText, htext, Codec.decode, lex_render hlegible, hreads]

/-! ## Plain values -/

/-- A text token is legible. -/
lemma legible_ofText (s : String) : LegibleAhead [Token.ofText s] :=
  fun _ _ hrest => .text s hrest

/-- Texts are restored. -/
lemma text (s : String) : Codec.text.Restores depth s s where
  reads := by
    intro levels _ rest
    show (readText true _).map (fun s => (s, rest)) = _
    rw [readText_ofText]
    rfl
  starts := ⟨_, [], rfl, nofun⟩
  legible := legible_ofText s

/-- Truth values are restored. -/
lemma boolean (b : Bool) : Codec.boolean.Restores depth b b where
  reads := fun _ _ => rfl
  starts := ⟨_, [], rfl, nofun⟩
  legible := by
    cases b with
    | false => exact legibleAhead_fixed (by decide)
    | true => exact legibleAhead_fixed (by decide)

/-- What is printed as a text is restored as the text is parsed. -/
lemma ofText {expected : String} {parse : String → Except Fault α} {print : α → String}
    (h : parse (print value) = .ok result) :
    (Codec.ofText expected parse print).Restores depth value result where
  reads := by
    intro levels _ rest
    show (readText true _ >>= fun s => parse s >>= fun v => pure (v, rest)) = _
    rw [readText_ofText]
    show (parse (print value) >>= fun v => pure (v, rest)) = _
    rw [h]
    rfl
  starts := ⟨_, [], rfl, nofun⟩
  legible := legible_ofText (print value)

/-- An integer of sixty-four bits in the range of its type is restored. -/
lemma integer {name : String} {least greatest k : Int} (hrange : least ≤ k ∧ k ≤ greatest)
    (hleast : -(twoPow 63 : Int) ≤ k) (hgreatest : k < twoPow 64) :
    (Codec.integer name least greatest).Restores depth k k where
  reads := by
    intro levels _ rest
    show (Codec.integer name least greatest).read levels (.number (.ofInt k) :: rest) = _
    simp only [Codec.integer, Number.ofNumeral_ofInt hleast hgreatest, if_pos hrange]
  starts := ⟨_, [], rfl, nofun⟩
  legible := legibleAhead_number (Numeral.proper_ofInt k)

/-- A natural of sixty-four bits in the range of its type is restored. -/
lemma natural {name : String} {greatest n : Nat} (hrange : n ≤ greatest)
    (hbits : n < twoPow 64) : (Codec.natural name greatest).Restores depth n n where
  reads := by
    intro levels hlevels rest
    have hinteger : (Codec.integer name 0 greatest).Restores depth (n : Int) n :=
      .integer (by omega) (by omega) (by omega)
    have hread : (Codec.integer name 0 greatest).read levels (.number (.ofInt n) :: rest) =
        .ok ((n : Int), rest) := hinteger.reads hlevels rest
    show ((Codec.integer name 0 greatest).read levels (.number (.ofInt n) :: rest)).map _ = _
    rw [hread]
    rfl
  starts := ⟨_, [], rfl, nofun⟩
  legible := legibleAhead_number (Numeral.proper_ofInt n)

/-- A value that is known by name is restored. -/
lemma choice [BEq α] {choices : List (String × α)} {name : String} {found : α}
    (hfind : choices.find? (fun choice => choice.2 == value) = some (name, found))
    (hlookup : choices.lookup name = some result) :
    (Codec.choice choices).Restores depth value result := by
  have hwrite : (Codec.choice choices).write value = [.ofText name] := by
    simp only [Codec.choice, hfind]
  constructor
  · intro levels _ rest
    rw [hwrite]
    show (readText true _ >>= fun s => named? choices s >>= fun v => pure (v, rest)) = _
    rw [readText_ofText]
    show (named? choices name >>= fun v => pure (v, rest)) = _
    rw [named?, hlookup]
    rfl
  · exact ⟨_, [], hwrite, nofun⟩
  · rw [hwrite]
    exact legible_ofText name

/-! ## Options -/

/-- The absence of a value is restored. -/
lemma absent : c.option.Restores depth none none where
  reads := fun _ _ => rfl
  starts := ⟨_, [], rfl, nofun⟩
  legible := legibleAhead_fixed (by decide)

/-- The presence of a value is restored, if what is written for it does not read as its absence. -/
lemma present (h : c.Restores depth value result)
    (hnull : ∀ others, c.write value ≠ .null :: others) :
    c.option.Restores depth (some value) (some result) where
  reads := by
    intro levels hlevels rest
    have hreads := h.reads hlevels rest
    obtain ⟨first, others, hwrite, -⟩ := h.starts
    have hlegible := h.legible.legible
    rw [hwrite] at hlegible
    show c.option.read levels (c.write value ++ rest) = _
    rw [hwrite, List.cons_append] at hreads ⊢
    have hoption : c.option.read levels (first :: (others ++ rest)) =
        (c.read levels (first :: (others ++ rest))).map fun read =>
          (some read.1, read.2) := by
      cases first with
      | null => exact absurd hwrite (hnull others)
      | broken what => exact absurd hlegible not_legible_broken
      | _ => rfl
    rw [hoption, hreads]
    rfl
  starts := h.starts
  legible := h.legible

/-- **An option is restored** where the values are, if each of them is written as a text. -/
lemma option (h : ∀ value, c.Restores depth value value)
    (htext : ∀ value, ∃ s, c.write value = [.ofText s]) (value : Option α) :
    c.option.Restores depth value value := by
  cases value with
  | none => exact .absent
  | some value =>
    obtain ⟨s, hs⟩ := htext value
    refine .present (h value) ?_
    intro others hnull
    rw [hs] at hnull
    cases hnull

/-- An optional text is restored. -/
lemma text? (s : Option String) : Codec.text.option.Restores depth s s :=
  .option .text (fun s => ⟨s, rfl⟩) s

/-- A value that stands for `null` as well is restored, if what is written for it is not that. -/
lemma nullAs {default : α} (h : c.Restores depth value result)
    (hnull : ∀ others, c.write value ≠ .null :: others) :
    (Codec.nullAs default c).Restores depth value result where
  reads := by
    intro levels hlevels rest
    have hread := (present h hnull).reads hlevels rest
    show (c.option.read levels (c.option.write (some value) ++ rest)).map _ = _
    rw [hread]
    rfl
  starts := h.starts
  legible := h.legible

end Codec.Restores

/-! ## Lists -/

section

variable {α : Type} {c : Codec α} {depth : Nat}

/-- The next element of a list is found behind the comma, or at once when it is the first one. -/
lemma nextElement_cons (first : Bool) {token : Token} (h : token ≠ .closeList)
    (others : List Token) :
    nextElement first ((if first then [] else [.comma]) ++ token :: others) =
      .ok (some (token :: others)) := by
  cases first with
  | true =>
    cases token with
    | closeList => exact absurd rfl h
    | _ => rfl
  | false =>
    cases token with
    | closeList => exact absurd rfl h
    | _ => rfl

/-- What is written for an element is found as the next element. -/
lemma nextElement_append {first : Bool} {value result : α} (h : c.Restores depth value result)
    (rest : List Token) :
    nextElement first ((if first then [] else [.comma]) ++ c.write value ++ rest) =
      .ok (some (c.write value ++ rest)) := by
  obtain ⟨token, others, hwrite, hclose⟩ := h.starts
  rw [hwrite, List.append_assoc, List.cons_append]
  exact nextElement_cons first hclose (others ++ rest)

/-- The elements of a list are restored one after the other.

**Proof sketch.** Induction on the elements. Each of them takes one unit of fuel, and the closing
bracket takes the last one. -/
lemma readElements_separated {levels fuel : Nat} (hlevels : depth < levels) {first : Bool}
    {values results done : List α} (h : List.Forall₂ (c.Restores depth) values results)
    (hfuel : values.length < fuel) (rest : List Token) :
    readElements (c.read levels) fuel first done
        (separated first (values.map c.write) ++ .closeList :: rest) =
      .ok (done.reverse ++ results, rest) := by
  induction h generalizing first done fuel with
  | nil =>
    obtain ⟨fuel, rfl⟩ : ∃ n, fuel = n + 1 := ⟨fuel - 1, by omega⟩
    rw [List.append_nil]
    rfl
  | @cons value result values results hvalue hvalues ih =>
    obtain ⟨fuel, rfl⟩ : ∃ n, fuel = n + 1 := ⟨fuel - 1, by omega⟩
    rw [List.length_cons] at hfuel
    rw [List.map_cons, separated, List.append_assoc, readElements, nextElement_append hvalue]
    dsimp only
    rw [hvalue.reads hlevels]
    dsimp only
    rw [ih (by omega), List.reverse_cons, List.append_assoc]
    rfl

/-- Elements that are restored have something written for them that is legible. -/
lemma forall_mem_of_restores {values results : List α}
    (h : List.Forall₂ (c.Restores depth) values results) :
    ∀ part ∈ values.map c.write, part ≠ [] ∧ LegibleAhead part := by
  induction h with
  | nil => exact fun _ hmem => absurd hmem List.not_mem_nil
  | cons hvalue _ ih =>
    refine List.forall_mem_cons.2 ⟨⟨?_, hvalue.legible⟩, ih⟩
    obtain ⟨first, others, hwrite, -⟩ := hvalue.starts
    exact hwrite ▸ List.cons_ne_nil first others

/-- **A list is restored** if its elements are. -/
theorem Codec.Restores.list {values results : List α}
    (h : List.Forall₂ (c.Restores depth) values results) :
    c.list.Restores (depth + 1) values results := by
  have hparts := forall_mem_of_restores h
  have hwrite : c.list.write values =
      .openList :: (separated true (values.map c.write) ++ [.closeList]) := by
    rw [← intercalate_eq_separated]
    rfl
  constructor
  · intro levels hlevels rest
    rw [hwrite, List.cons_append, List.append_assoc, List.singleton_append]
    have hfuel := length_lt_fuel true (fun part hpart => (hparts part hpart).1) .closeList rest
    rw [List.length_map] at hfuel
    show (if levels ≤ 1 then Except.error Fault.tooDeep
      else readElements (c.read (levels - 1)) _ true [] _) = _
    rw [if_neg (by omega)]
    exact readElements_separated (by omega) h hfuel rest
  · exact ⟨_, _, hwrite, nofun⟩
  · rw [hwrite]
    exact legibleAhead_bracketed (by decide) (by decide) fun part hpart => (hparts part hpart).2

end

/-! ## Records -/

namespace Members

/-- The names of the members. -/
def names {ρ δ : Type} : Members ρ δ → List String
  | .nil => []
  | .cons member others => member.name :: others.names

/-- **No two members have a key in common**: none is read under the name of a later one. -/
def Apart {ρ δ : Type} : Members ρ δ → Prop
  | .nil => True
  | .cons member others =>
    (∀ name ∈ others.names, member.hasKey name = false) ∧ others.Apart

/-- Whether two members have a key in common. -/
instance decidableApart {ρ δ : Type} : (members : Members ρ δ) → Decidable members.Apart
  | .nil => .isTrue trivial
  | .cons _ others =>
    have := decidableApart others
    inferInstanceAs (Decidable (_ ∧ _))

/-- **All members restore their values.** A member that is not written is restored by the value
that it has when it is absent. -/
def Restores (depth : Nat) {ρ δ : Type} : Members ρ δ → (values results : ρ) → Prop
  | .nil, _, _ => True
  | .cons member others, (value, values), (result, results) =>
    (if member.omitted value then member.whenAbsent = some result
      else member.codec.Restores depth value result) ∧ others.Restores depth values results

/-- What is found when the members that were written have been read. -/
def found {ρ δ : Type} : Members ρ δ → (values results : ρ) → δ
  | .nil, _, _ => ()
  | .cons member others, (value, values), (result, results) =>
    (if member.omitted value then none else some result, others.found values results)

section

variable {ρ δ : Type} {members : Members ρ δ} {depth : Nat} {values results : ρ}

/-- What is not found is completed. -/
lemma complete_found (h : members.Restores depth values results) :
    members.complete (members.found values results) = .ok results := by
  induction members with
  | nil => rfl
  | cons member others ih =>
    obtain ⟨value, values⟩ := values
    obtain ⟨result, results⟩ := results
    obtain ⟨hvalue, hvalues⟩ := h
    have hor : (if member.omitted value then none else some result).or member.whenAbsent =
        some result := by
      split
      · rename_i homitted
        rw [if_pos homitted] at hvalue
        exact hvalue
      · rfl
    rw [found, complete, hor]
    dsimp only
    rw [ih hvalues]
    rfl

/-- What is written for the members is legible. -/
lemma forall_mem_write (h : members.Restores depth values results) :
    ∀ part ∈ members.write values, part ≠ [] ∧ LegibleAhead part := by
  induction members with
  | nil => exact fun _ hmem => absurd hmem List.not_mem_nil
  | cons member others ih =>
    obtain ⟨value, values⟩ := values
    obtain ⟨result, results⟩ := results
    obtain ⟨hvalue, hvalues⟩ := h
    rw [write]
    split
    · exact ih hvalues
    · rename_i homitted
      rw [if_neg homitted] at hvalue
      have hpart := legibleAhead_member member.name hvalue.legible
      exact List.forall_mem_cons.2 ⟨⟨List.cons_ne_nil _ _, hpart⟩, ih hvalues⟩

end

/-- **Some members stand behind others**, so that they are read among them. `embed` puts what has
been found of them behind what has been found of the others. -/
def Behind {ρ δ ρ' δ' : Type} (all : Members ρ δ) (members : Members ρ' δ') (embed : δ' → δ) :
    Prop :=
  ∀ key ∈ members.names, ∀ levels tokens found,
    all.readMember key levels tokens (embed found) =
      (members.readMember key levels tokens found).map fun result =>
        result.map fun (found, rest) => (embed found, rest)

section

variable {ρ δ ρ' δ' α : Type} {all : Members ρ δ} {member : Member α} {others : Members ρ' δ'}
  {embed : Option α × δ' → δ}

omit embed in
/-- A key that a member does not have is one of the others. -/
lemma readMember_of_hasKey_eq_false {key : String} (h : member.hasKey key = false) (levels : Nat)
    (tokens : List Token) (value : Option α) (found : δ') :
    (Members.cons member others).readMember key levels tokens (value, found) =
      (others.readMember key levels tokens found).map fun result =>
        result.map fun (found, rest) => ((value, found), rest) := by
  conv_lhs => unfold readMember
  rw [h, if_neg Bool.false_ne_true]

/-- Members that stand behind another one, which has none of their keys. -/
lemma Behind.tail (h : all.Behind (.cons member others) embed)
    (hapart : ∀ name ∈ others.names, member.hasKey name = false) (value : Option α) :
    all.Behind others fun found => embed (value, found) := by
  intro key hkey levels tokens found
  rw [h key (List.mem_cons_of_mem _ hkey) levels tokens (value, found),
    readMember_of_hasKey_eq_false (hapart key hkey)]
  cases others.readMember key levels tokens found with
  | none => rfl
  | some result => cases result <;> rfl

/-- A member is read under its name. -/
lemma Behind.readMember (h : all.Behind (.cons member others) embed) {depth levels : Nat}
    {value result : α} (hvalue : member.codec.Restores depth value result)
    (hlevels : depth < levels) (found : δ') (rest : List Token) :
    all.readMember member.name levels (.colon :: (member.codec.write value ++ rest))
        (embed (none, found)) =
      some (.ok (embed (some result, found), rest)) := by
  have hkey : member.hasKey member.name = true := by simp [Member.hasKey]
  rw [h member.name List.mem_cons_self, Members.readMember, hkey, if_pos rfl]
  simp only [Option.isSome_none, Bool.false_eq_true, if_false, hvalue.reads hlevels]
  rfl

end

/-- The next key of an object is read behind the comma, or at once when it is the first one. -/
lemma nextKey_text (first : Bool) (raw : List UInt8) (rest : List Token) :
    nextKey first ((if first then [] else [.comma]) ++ .text raw :: rest) =
      (readText true raw).map fun key => (some key, rest) := by
  cases first with
  | true =>
    show ((readText true raw).map fun key => (key, rest)).map _ = _
    cases readText true raw <;> rfl
  | false =>
    show ((readText true raw).map fun key => (key, rest)).map _ = _
    cases readText true raw <;> rfl

/-- A key is read back from what is written for it. -/
lemma nextKey_append (first : Bool) (name : String) (rest : List Token) :
    nextKey first ((if first then [] else [.comma]) ++ .ofText name :: rest) =
      .ok (some name, rest) := by
  rw [Token.ofText, nextKey_text, readText_ofText]
  rfl

/-- The members of an object are restored one after the other.

**Proof sketch.** Induction on the members. A member that is not written is left behind as it is
found, none at all, and any other one takes a unit of fuel and is found under its name. The closing
bracket takes the last unit. -/
lemma readObject_separated {ρ δ ρ' δ' : Type} {all : Members ρ δ} {members : Members ρ' δ'}
    {embed : δ' → δ} (hbehind : all.Behind members embed) (hapart : members.Apart)
    {depth levels fuel : Nat} (hlevels : depth < levels) {values results : ρ'}
    (h : members.Restores depth values results) (first : Bool)
    (hfuel : (members.write values).length < fuel) (rest : List Token) :
    all.readObject levels fuel first (embed members.blank)
        (separated first (members.write values) ++ .closeObject :: rest) =
      .ok (embed (members.found values results), rest) := by
  induction members generalizing first fuel with
  | nil =>
    obtain ⟨fuel, rfl⟩ : ∃ n, fuel = n + 1 := ⟨fuel - 1, by omega⟩
    rfl
  | cons member others ih =>
    obtain ⟨value, values⟩ := values
    obtain ⟨result, results⟩ := results
    obtain ⟨hvalue, hvalues⟩ := h
    obtain ⟨hfirst, hothers⟩ := hapart
    rw [write] at hfuel ⊢
    rw [found, blank]
    split at hfuel
    · rename_i homitted
      rw [if_pos homitted, if_pos homitted]
      exact ih (hbehind.tail hfirst none) hothers hvalues first hfuel
    · rename_i homitted
      rw [if_neg homitted] at hvalue
      rw [if_neg homitted, if_neg homitted]
      obtain ⟨fuel, rfl⟩ : ∃ n, fuel = n + 1 := ⟨fuel - 1, by omega⟩
      rw [List.length_cons] at hfuel
      rw [separated, List.append_assoc, List.append_assoc, List.cons_append, List.cons_append,
        readObject, nextKey_append]
      dsimp only
      rw [hbehind.readMember hvalue hlevels]
      exact ih (hbehind.tail hfirst (some result)) hothers hvalues false (by omega)

end Members

/-- A record is read from an object by reading its members and completing them. -/
lemma Codec.read_record_openObject {ρ δ σ : Type} {name : String} {members : Members ρ δ}
    {build : ρ → σ} {parts : σ → ρ} (n : Nat) (tokens : List Token) :
    (Codec.record name members build parts).read n (.openObject :: tokens) =
      if n ≤ 1 then .error .tooDeep
      else (members.readObject (n - 1) (tokens.length + 1) true members.blank tokens).bind
        fun read => (members.complete read.1).map fun values => (build values, read.2) := by
  unfold Codec.record
  dsimp only
  cases members.readObject (n - 1) (tokens.length + 1) true members.blank tokens <;> rfl

/-- **A record is restored** if its members are and no two of them have a key in common. -/
theorem Codec.Restores.record {ρ δ σ : Type} {name : String} {members : Members ρ δ}
    {build : ρ → σ} {parts : σ → ρ} {depth : Nat} {value : σ} (results : ρ)
    (hapart : members.Apart) (h : members.Restores depth (parts value) results) :
    (Codec.record name members build parts).Restores (depth + 1) value (build results) := by
  have hparts := Members.forall_mem_write h
  have hwrite : (Codec.record name members build parts).write value =
      .openObject :: (separated true (members.write (parts value)) ++ [.closeObject]) := by
    rw [← intercalate_eq_separated]
    rfl
  have hbehind : members.Behind members id := by
    intro key _ levels tokens found
    show members.readMember key levels tokens found = _
    cases members.readMember key levels tokens found with
    | none => rfl
    | some result => cases result <;> rfl
  constructor
  · intro levels hlevels rest
    rw [hwrite, List.cons_append, List.append_assoc, List.singleton_append]
    have hfuel := length_lt_fuel true (fun part hpart => (hparts part hpart).1) .closeObject rest
    have hinner : depth < levels - 1 := by omega
    have hread := Members.readObject_separated hbehind hapart hinner h true hfuel rest
    simp only [id] at hread
    rw [Codec.read_record_openObject, if_neg (by omega), hread]
    dsimp only [Except.bind]
    rw [Members.complete_found h]
    rfl
  · exact ⟨_, _, hwrite, nofun⟩
  · rw [hwrite]
    exact legibleAhead_bracketed (by decide) (by decide) fun part hpart => (hparts part hpart).2

end PenaltySettlement.Json
