import PenaltySettlement.Proofs.Restoration

/-!
# The grammar of JSON values

Which tokens make a value: one of them by itself, or values with commas between them in brackets,
those of an object behind their keys. A check of the syntax passes over every value, whatever the
depth of its brackets and whatever follows it.

## Main definitions

* `Json.IsValue` — tokens that make a value.
* `Json.Entry` — a member of an object as it stands in a text.
* `Json.membersAmong` — the members of an object whose keys are some keys.
* `Json.IsObject` — a text that is an object with the given members.

## Main results

* `Json.skipValue_append` — a check of the syntax passes over a value.
-/

set_option autoImplicit false

namespace PenaltySettlement.Json

/-! ## Values -/

/-- A member of an object as tokens, what stands between the quotes of its key first. -/
def memberTokens (raw : List UInt8) (value : List Token) : List Token :=
  .text raw :: .colon :: value

/-- **Tokens that make a value.** -/
inductive IsValue : List Token → Prop
  | null : IsValue [.null]
  | boolean (b : Bool) : IsValue [.boolean b]
  | number (n : Numeral) : IsValue [.number n]
  | text (raw : List UInt8) : IsValue [.text raw]
  | list {parts : List (List Token)} : (∀ part ∈ parts, IsValue part) →
      IsValue (.openList :: (separated true parts ++ [.closeList]))
  | object {members : List (List UInt8 × List Token)} : (∀ m ∈ members, IsValue m.2) →
      IsValue (.openObject ::
        (separated true (members.map fun m => memberTokens m.1 m.2) ++ [.closeObject]))

/-- The tokens with which a value can start. -/
def Token.StartsValue : Token → Prop
  | .null | .boolean _ | .number _ | .text _ | .openList | .openObject => True
  | _ => False

/-- A value starts with one of these tokens. -/
lemma IsValue.starts {value : List Token} (h : IsValue value) :
    ∃ first others, value = first :: others ∧ first.StartsValue := by
  cases h <;> exact ⟨_, _, rfl, trivial⟩

/-! ## A check of the syntax -/

namespace Skip

/-- The machine behind a value. -/
def resume (opened : List Bracket) (rest : List Token) : Except Fault (List Token) :=
  match afterValue opened with
  | none => .ok rest
  | some s => run s rest

/-- **The machine passes over a value** where one is awaited. -/
def Passes (value : List Token) : Prop :=
  ∀ opened rest, run ⟨.value, opened⟩ (value ++ rest) = resume opened rest

/-- A token that completes a value leaves the machine behind the value. -/
lemma run_of_step {s : State} {token : Token} {opened : List Bracket}
    (h : step s token = .ok (afterValue opened)) (rest : List Token) :
    run s (token :: rest) = resume opened rest := by
  rw [run, h, resume]
  cases afterValue opened <;> rfl

/-- The elements behind the first one are passed over with the end of their list. -/
lemma run_elements {parts : List (List Token)} (h : ∀ part ∈ parts, Passes part)
    (opened : List Bracket) (rest : List Token) :
    run ⟨.separator, .list :: opened⟩ (separated false parts ++ .closeList :: rest) =
      resume opened rest := by
  induction parts with
  | nil =>
    exact run_of_step rfl rest
  | cons part parts ih =>
    obtain ⟨hpart, hparts⟩ := List.forall_mem_cons.1 h
    rw [separated, List.append_assoc, List.append_assoc]
    show run ⟨.value, .list :: opened⟩ (part ++ (separated false parts ++ .closeList :: rest)) = _
    rw [hpart]
    exact ih hparts

/-- The members behind the first one are passed over with the end of their object. -/
lemma run_members {members : List (List UInt8 × List Token)} (h : ∀ m ∈ members, Passes m.2)
    (opened : List Bracket) (rest : List Token) :
    run ⟨.separator, .object :: opened⟩
        (separated false (members.map fun m => memberTokens m.1 m.2) ++ .closeObject :: rest) =
      resume opened rest := by
  induction members with
  | nil =>
    exact run_of_step rfl rest
  | cons m members ih =>
    obtain ⟨hm, hmembers⟩ := List.forall_mem_cons.1 h
    rw [List.map_cons, separated, List.append_assoc, List.append_assoc]
    show run ⟨.value, .object :: opened⟩ (m.2 ++
      (separated false (members.map fun m => memberTokens m.1 m.2) ++ .closeObject :: rest)) = _
    rw [hm]
    exact ih hmembers

/-- The first element of a list is passed over like any other value. -/
lemma run_firstValue {first : Token} (h : first.StartsValue) (opened : List Bracket)
    (rest : List Token) :
    run ⟨.firstValue, opened⟩ (first :: rest) = run ⟨.value, opened⟩ (first :: rest) := by
  cases first with
  | closeList => cases h
  | _ => rfl

end Skip

/-- **The machine passes over every value.**

**Proof sketch.** Induction on the value. What is open around it does not matter until it is over,
so that its parts are passed over with its own bracket open. -/
lemma IsValue.passes {value : List Token} (h : IsValue value) : Skip.Passes value := by
  induction h with
  | null => exact fun opened rest => Skip.run_of_step rfl rest
  | boolean b => exact fun opened rest => Skip.run_of_step rfl rest
  | number n => exact fun opened rest => Skip.run_of_step rfl rest
  | text raw => exact fun opened rest => Skip.run_of_step rfl rest
  | @list parts hvalues ih =>
    intro opened rest
    rw [List.cons_append, List.append_assoc, List.singleton_append]
    show Skip.run ⟨.firstValue, .list :: opened⟩ (separated true parts ++ .closeList :: rest) = _
    cases parts with
    | nil =>
      exact Skip.run_of_step rfl rest
    | cons part parts =>
      obtain ⟨hpart, hparts⟩ := List.forall_mem_cons.1 ih
      obtain ⟨first, others, hfirst, hstarts⟩ := (hvalues part List.mem_cons_self).starts
      have hrun := hpart (.list :: opened) (separated false parts ++ .closeList :: rest)
      rw [separated, if_pos rfl, List.nil_append, List.append_assoc]
      rw [hfirst, List.cons_append] at hrun ⊢
      rw [Skip.run_firstValue hstarts, hrun]
      exact Skip.run_elements hparts opened rest
  | @object members hvalues ih =>
    intro opened rest
    rw [List.cons_append, List.append_assoc, List.singleton_append]
    show Skip.run ⟨.firstKey, .object :: opened⟩
      (separated true (members.map fun m => memberTokens m.1 m.2) ++ .closeObject :: rest) = _
    cases members with
    | nil => exact Skip.run_of_step rfl rest
    | cons m members =>
      obtain ⟨hm, hmembers⟩ := List.forall_mem_cons.1 ih
      rw [List.map_cons, separated, if_pos rfl, List.nil_append, List.append_assoc]
      show Skip.run ⟨.value, .object :: opened⟩ (m.2 ++
        (separated false (members.map fun m => memberTokens m.1 m.2) ++ .closeObject :: rest)) = _
      rw [hm]
      exact Skip.run_members hmembers opened rest

/-- **A check of the syntax passes over a value**, whatever follows it. -/
theorem skipValue_append {value : List Token} (h : IsValue value) (rest : List Token) :
    skipValue (value ++ rest) = .ok rest := h.passes [] rest

/-! ## Objects -/

/-- **A member of an object as it stands in a text**: what stands between the quotes of its key, and
its value. -/
structure Entry where
  raw : List UInt8
  value : List Token
  isValue : IsValue value

namespace Entry

/-- The key of a member, if what stands between its quotes can be read. -/
def key (e : Entry) : Except Fault String := readText true e.raw

/-- The key and the value of a member, if the key is one of some keys. -/
def among? (keys : String → Bool) (e : Entry) : Option (String × List Token) :=
  match e.key with
  | .error _ => none
  | .ok key => if keys key then some (key, e.value) else none

/-- A member whose key can be read. -/
lemma among?_of_key {e : Entry} {key : String} (h : e.key = .ok key) (keys : String → Bool) :
    e.among? keys = if keys key then some (key, e.value) else none := by
  rw [among?, h]

/-- A member as tokens. -/
def tokens (e : Entry) : List Token := memberTokens e.raw e.value

/-- The member that is written for a key and a value. -/
def ofText (key : String) (value : List Token) (h : IsValue value) : Entry :=
  ⟨(Utf8.encode key).flatMap escapeByte, value, h⟩

/-- The key of a member is read back from what is written for it. -/
lemma key_ofText (key : String) (value : List Token) (h : IsValue value) :
    (ofText key value h).key = .ok key := readText_ofText key

end Entry

/-- **The members of an object whose keys are some keys**, with their values and in their order. -/
def membersAmong (keys : String → Bool) (entries : List Entry) : List (String × List Token) :=
  entries.filterMap (Entry.among? keys)

/-- **A text that is an object** with the given members in their order, with white space between its
tokens. -/
def IsObject (entries : List Entry) (bytes : List UInt8) : Prop :=
  Spelled (.openObject :: (separated true (entries.map Entry.tokens) ++ [.closeObject])) bytes

/-- What is written for members is an object, if they are legible. -/
lemma isObject_render {entries : List Entry} (h : ∀ e ∈ entries, LegibleAhead e.tokens) :
    IsObject entries
      (render (.openObject :: (separated true (entries.map Entry.tokens) ++ [.closeObject]))) := by
  have hahead : LegibleAhead
      (.openObject :: (separated true (entries.map Entry.tokens) ++ [.closeObject])) :=
    legibleAhead_bracketed (by decide) (by decide) (List.forall_mem_map.2 h)
  exact hahead.legible.spelled

end PenaltySettlement.Json
