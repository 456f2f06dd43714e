import Mathlib.Data.List.Forall2
import PenaltySettlement.Json.Value
import PenaltySettlement.Proofs.ReadValues
import PenaltySettlement.Proofs.Restoration

/-!
# Values of any shape and their texts

A value that is read has integers of sixty-four bits, or floating point numbers, and the members of
its objects stand in the order of their keys, each key once; it nests no deeper than the levels that
were left. A value of that kind without floating point numbers is restored from its text.

## Main definitions

* `Json.Value.integral` — whether no number of a value is floating point.
* `Json.Value.Sound` — a value that can be read, nesting to a depth.

## Main results

* `Json.Value.sound_of_yields` — what is read without floating point numbers is sound.
* `Json.Value.Sound.restores` — a sound value is restored.
-/

set_option autoImplicit false

namespace PenaltySettlement.Json.Value

mutual

/-- **No number of the value is floating point.** -/
def integral : Value → Bool
  | .null | .boolean _ | .text _ | .number (.integer _) => true
  | .number (.float _) => false
  | .list elements => integralElements elements
  | .object members => integralMembers members

/-- No number of the elements is floating point. -/
def integralElements : List Value → Bool
  | [] => true
  | value :: values => integral value && integralElements values

/-- No number of the members is floating point. -/
def integralMembers : List (String × Value) → Bool
  | [] => true
  | (_, value) :: members => integral value && integralMembers members

end

/-- No number of an element is floating point. -/
lemma integral_of_mem_elements {elements : List Value} (h : integralElements elements = true) :
    ∀ e ∈ elements, e.integral = true := by
  induction elements with
  | nil => exact nofun
  | cons value values ih =>
    rw [integralElements, Bool.and_eq_true] at h
    exact List.forall_mem_cons.2 ⟨h.1, ih h.2⟩

/-- No number of the value of a member is floating point. -/
lemma integral_of_mem_members {members : List (String × Value)}
    (h : integralMembers members = true) : ∀ m ∈ members, m.2.integral = true := by
  induction members with
  | nil => exact nofun
  | cons m members ih =>
    rw [integralMembers, Bool.and_eq_true] at h
    exact List.forall_mem_cons.2 ⟨h.1, ih h.2⟩

/-- The members of an object in the order of their keys, each key once. -/
def Ordered (members : List (String × Value)) : Prop := members.Pairwise fun m m' => m.1 < m'.1

/-- **A value that can be read**, without floating point numbers and nesting to a depth. -/
inductive Sound : Nat → Value → Prop
  | null {depth : Nat} : Sound depth .null
  | boolean {depth : Nat} (b : Bool) : Sound depth (.boolean b)
  | integer {depth : Nat} {k : Int} : -(twoPow 63 : Int) ≤ k → k < twoPow 64 →
      Sound depth (.number (.integer k))
  | text {depth : Nat} (s : String) : Sound depth (.text s)
  | list {depth : Nat} {elements : List Value} : (∀ e ∈ elements, Sound depth e) →
      Sound (depth + 1) (.list elements)
  | object {depth : Nat} {members : List (String × Value)} : Ordered members →
      (∀ m ∈ members, Sound depth m.2) → Sound (depth + 1) (.object members)

/-! ## Members of objects -/

/-- A member of an object with one more is that one or was there before. -/
lemma mem_insert {key : String} {value : Value} {members : List (String × Value)}
    {m : String × Value} (h : m ∈ insert key value members) : m = (key, value) ∨ m ∈ members := by
  induction members with
  | nil => exact .inl (List.mem_singleton.1 h)
  | cons other members ih =>
    rw [insert] at h
    split at h
    · exact List.mem_cons.1 h
    · split at h
      · exact (List.mem_cons.1 h).imp_right (List.mem_cons_of_mem _)
      · rcases List.mem_cons.1 h with rfl | h
        · exact .inr List.mem_cons_self
        · exact (ih h).imp_right (List.mem_cons_of_mem _)

/-- **The members stay in the order of their keys** when there is one more. -/
lemma ordered_insert (key : String) (value : Value) {members : List (String × Value)}
    (h : Ordered members) : Ordered (insert key value members) := by
  induction members with
  | nil => exact List.pairwise_singleton _ _
  | cons other members ih =>
    obtain ⟨hother, hmembers⟩ := List.pairwise_cons.1 h
    rw [insert]
    split
    · rename_i hlt
      refine List.pairwise_cons.2 ⟨fun m hm => ?_, h⟩
      rcases List.mem_cons.1 hm with rfl | hm
      · exact hlt
      · exact String.lt_trans hlt (hother m hm)
    · rename_i hnot
      split
      · rename_i heq
        exact List.pairwise_cons.2 ⟨fun m hm => heq ▸ hother m hm, hmembers⟩
      · rename_i hne
        have hlt : other.1 < key := by
          by_contra hge
          exact hne (String.le_antisymm (String.not_lt.1 hge) (String.not_lt.1 hnot))
        refine List.pairwise_cons.2 ⟨fun m hm => ?_, ih hmembers⟩
        rcases mem_insert hm with rfl | hm
        · exact hlt
        · exact hother m hm

/-- A member whose key is greater than all the others goes to the end. -/
lemma insert_of_forall_lt {key : String} (value : Value) {members : List (String × Value)}
    (h : ∀ m ∈ members, m.1 < key) : insert key value members = members ++ [(key, value)] := by
  induction members with
  | nil => rfl
  | cons other members ih =>
    obtain ⟨hother, hmembers⟩ := List.forall_mem_cons.1 h
    have hne : key ≠ other.1 := by
      rintro rfl
      exact String.lt_irrefl _ hother
    rw [insert, if_neg (String.lt_asymm hother), if_neg hne, ih hmembers]
    rfl

/-! ## What is read -/

/-- The members of an object that is read: they stay in order and their values are read. -/
lemma ordered_readMembers {item : TokenReader Value} {P : Value → Prop}
    (hitem : ∀ tokens value rest, item tokens = .ok (value, rest) → P value) {fuel : Nat}
    {first : Bool} {found members : List (String × Value)} {tokens rest : List Token}
    (h : readMembers item fuel first found tokens = .ok (members, rest)) (hfound : Ordered found)
    (hvalues : ∀ m ∈ found, P m.2) : Ordered members ∧ ∀ m ∈ members, P m.2 := by
  induction fuel generalizing first found tokens with
  | zero => cases h
  | succ fuel ih =>
    rw [readMembers] at h
    split at h
    · cases h
    · cases h
      exact ⟨hfound, hvalues⟩
    · rename_i key behind _
      split at h
      · cases h
      · rename_i value rest' hread
        have hvalue : P value := by
          cases hcolon : behindColon behind with
          | error fault =>
            rw [hcolon] at hread
            cases hread
          | ok tokens =>
            rw [hcolon] at hread
            exact hitem tokens value rest' hread
        refine ih h (ordered_insert key value hfound) fun m hm => ?_
        rcases mem_insert hm with rfl | hm
        · exact hvalue
        · exact hvalues m hm

/-- **What is read without floating point numbers is sound**, with a depth below the levels that
were left.

**Proof sketch.** Induction on the levels. The elements of a list and the values of the members are
read with one level less, and the members are put in order one after the other
(`ordered_readMembers`). -/
theorem sound_of_yields {n : Nat} {value : Value} (h : Value.codec.Yields (n + 1) value)
    (hintegral : value.integral = true) : value.Sound n := by
  induction n using Nat.strongRecOn generalizing value with
  | _ n ih =>
    obtain ⟨tokens, rest, hread⟩ := h
    have hread : Value.read (n + 1) tokens = .ok (value, rest) := hread
    have hinner : n ≠ 0 → ∀ element, element.integral = true → ∀ tokens rest,
        Value.read n tokens = .ok (element, rest) → element.Sound (n - 1) := by
      intro hn element helement tokens rest hread
      obtain ⟨m, rfl⟩ := Nat.exists_eq_succ_of_ne_zero hn
      exact ih m (Nat.lt_succ_self m) ⟨tokens, rest, hread⟩ helement
    have hdepth : n ≠ 0 → n - 1 + 1 = n := by omega
    unfold Value.read at hread
    dsimp only at hread
    split at hread
    · cases hread
      exact .null
    · cases hread
      exact .boolean _
    · obtain ⟨number, hnumber, hpair⟩ := exists_of_map_eq_ok hread
      cases hpair
      cases number with
      | float x => cases hintegral
      | integer k =>
        obtain ⟨hleast, hgreatest⟩ := Number.bounds_of_ofNumeral hnumber
        exact .integer hleast hgreatest
    · obtain ⟨s, -, hpair⟩ := exists_of_map_eq_ok hread
      cases hpair
      exact .text s
    · split at hread
      · cases hread
      · rename_i hn
        obtain ⟨_, helements, hpair⟩ := exists_of_map_eq_ok hread
        cases hpair
        have hintegral := integral_of_mem_elements hintegral
        rw [← hdepth hn]
        refine .list fun e he => ?_
        obtain hnil | ⟨tokens, rest, he'⟩ := readElements_yields helements e he
        · exact absurd hnil List.not_mem_nil
        · exact hinner hn e (hintegral e he) tokens rest he'
    · split at hread
      · cases hread
      · rename_i hn
        obtain ⟨_, hmembers, hpair⟩ := exists_of_map_eq_ok hread
        cases hpair
        have hintegral := integral_of_mem_members hintegral
        obtain ⟨hordered, hvalues⟩ := ordered_readMembers
          (P := fun v => v.integral = true → v.Sound (n - 1))
          (fun tokens v rest hv hv' => hinner hn v hv' tokens rest hv) hmembers .nil nofun
        rw [← hdepth hn]
        exact .object hordered fun m hm => hvalues m hm (hintegral m hm)
    · cases hread

/-- Only `null` is read as no value. -/
lemma exists_of_read_null {n : Nat} {tokens rest : List Token}
    (h : Value.read (n + 1) tokens = .ok (.null, rest)) : tokens = .null :: rest := by
  unfold Value.read at h
  dsimp only at h
  split at h
  · cases h
    rfl
  · cases h
  · obtain ⟨_, -, hpair⟩ := exists_of_map_eq_ok h
    cases hpair
  · obtain ⟨_, -, hpair⟩ := exists_of_map_eq_ok h
    cases hpair
  · split at h
    · cases h
    · obtain ⟨_, -, hpair⟩ := exists_of_map_eq_ok h
      cases hpair
  · split at h
    · cases h
    · obtain ⟨_, -, hpair⟩ := exists_of_map_eq_ok h
      cases hpair
  · cases h

/-! ## What is written -/

/-- The elements of a list are written one after the other. -/
lemma writeElements_eq_map (elements : List Value) :
    writeElements elements = elements.map Value.codec.write := by
  induction elements with
  | nil => rfl
  | cons e elements ih =>
    rw [writeElements, ih]
    rfl

/-- The members of an object are written one after the other, each with its key. -/
lemma writeMembers_eq_map (members : List (String × Value)) :
    writeMembers members =
      members.map fun m => .ofText m.1 :: .colon :: Value.codec.write m.2 := by
  induction members with
  | nil => rfl
  | cons m members ih =>
    rw [writeMembers, ih]
    rfl

/-- A list is read as one of values. -/
lemma read_openList (n : Nat) (tokens : List Token) :
    Value.read (n + 1) (.openList :: tokens) =
      ((Codec.list Value.codec).read (n + 1) (.openList :: tokens)).map
        fun (elements, rest) => (.list elements, rest) := by
  show (if n = 0 then Except.error Fault.tooDeep
      else (Json.readElements (Value.read n) (tokens.length + 1) true [] tokens).map _) =
    (if n + 1 ≤ 1 then Except.error Fault.tooDeep
      else Json.readElements (Value.read n) (tokens.length + 1) true [] tokens).map _
  by_cases hn : n = 0
  · rw [if_pos hn, if_pos (by omega)]
    rfl
  · rw [if_neg hn, if_neg (by omega)]

/-- A list is restored if its elements are. -/
lemma list_restores {depth : Nat} {elements : List Value}
    (h : ∀ e ∈ elements, Value.codec.Restores depth e e) :
    Value.codec.Restores (depth + 1) (.list elements) (.list elements) := by
  have hlist : (Codec.list Value.codec).Restores (depth + 1) elements elements :=
    .list (List.forall₂_same.2 h)
  have hwrite : Value.codec.write (.list elements) = (Codec.list Value.codec).write elements := by
    show Value.write (.list elements) = _
    rw [Value.write, writeElements_eq_map]
    rfl
  constructor
  · intro n hn rest
    have hread := hlist.reads hn rest
    obtain ⟨n, rfl⟩ : ∃ m, n = m + 1 := ⟨n - 1, by omega⟩
    obtain ⟨tokens, htokens⟩ : ∃ tokens,
        (Codec.list Value.codec).write elements ++ rest = .openList :: tokens := ⟨_, rfl⟩
    rw [htokens] at hread
    rw [hwrite, htokens]
    show Value.read (n + 1) (.openList :: tokens) = _
    rw [read_openList, hread]
    rfl
  · exact hwrite ▸ hlist.starts
  · exact hwrite ▸ hlist.legible

/-- The members of an object are restored one after the other.

**Proof sketch.** Induction on the members. Each of them has a greater key than all that were found
before, so that it goes to the end. -/
lemma readMembers_separated {depth n fuel : Nat} (hn : depth < n) (first : Bool)
    (found : List (String × Value)) {members : List (String × Value)}
    (hordered : Ordered (found ++ members))
    (h : ∀ m ∈ members, Value.codec.Restores depth m.2 m.2) (hfuel : members.length < fuel)
    (rest : List Token) :
    readMembers (Value.read n) fuel first found
        (separated first (members.map fun m => .ofText m.1 :: .colon :: Value.codec.write m.2) ++
          .closeObject :: rest) =
      .ok (found ++ members, rest) := by
  induction members generalizing first found fuel with
  | nil =>
    obtain ⟨fuel, rfl⟩ : ∃ n, fuel = n + 1 := ⟨fuel - 1, by omega⟩
    rw [List.append_nil]
    rfl
  | cons m members ih =>
    obtain ⟨fuel, rfl⟩ : ∃ n, fuel = n + 1 := ⟨fuel - 1, by omega⟩
    obtain ⟨hm, hmembers⟩ := List.forall_mem_cons.1 h
    have hgreater : ∀ m' ∈ found, m'.1 < m.1 := fun m' hm' =>
      (List.pairwise_append.1 hordered).2.2 m' hm' m List.mem_cons_self
    rw [List.length_cons] at hfuel
    rw [List.map_cons, separated, List.append_assoc, List.append_assoc, List.cons_append,
      List.cons_append, readMembers, Members.nextKey_append]
    have hread : (behindColon (.colon :: (Value.codec.write m.2 ++
        (separated false (members.map fun m => .ofText m.1 :: .colon :: Value.codec.write m.2) ++
          .closeObject :: rest)))).bind (Value.read n) = .ok (m.2, _) := hm.reads hn _
    dsimp only
    rw [hread]
    dsimp only
    rw [insert_of_forall_lt m.2 hgreater]
    have hordered' : Ordered (found ++ [m] ++ members) := by
      rw [List.append_assoc]
      exact hordered
    rw [ih false _ hordered' hmembers (by omega), List.append_assoc]
    rfl

/-- **An object is restored** if its members are in order and their values are restored. -/
lemma object_restores {depth : Nat} {members : List (String × Value)} (hordered : Ordered members)
    (h : ∀ m ∈ members, Value.codec.Restores depth m.2 m.2) :
    Value.codec.Restores (depth + 1) (.object members) (.object members) := by
  have hwrite : Value.codec.write (.object members) = .openObject :: (separated true
      (members.map fun m => .ofText m.1 :: .colon :: Value.codec.write m.2) ++ [.closeObject]) := by
    show Value.write (.object members) = _
    rw [Value.write, writeMembers_eq_map, intercalate_eq_separated]
    rfl
  have hparts : ∀ part ∈ members.map fun m =>
      Token.ofText m.1 :: .colon :: Value.codec.write m.2, part ≠ [] ∧ LegibleAhead part := by
    intro part hpart
    obtain ⟨m, hm, rfl⟩ := List.mem_map.1 hpart
    exact ⟨List.cons_ne_nil _ _, legibleAhead_member m.1 (h m hm).legible⟩
  constructor
  · intro n hn rest
    obtain ⟨n, rfl⟩ : ∃ m, n = m + 1 := ⟨n - 1, by omega⟩
    rw [hwrite, List.cons_append, List.append_assoc, List.singleton_append]
    have hfuel := length_lt_fuel true (fun part hpart => (hparts part hpart).1) .closeObject rest
    rw [List.length_map] at hfuel
    have hread : readMembers (Value.read n) _ true [] _ = .ok ([] ++ members, rest) :=
      readMembers_separated (by omega) true [] hordered h hfuel rest
    show (if n = 0 then Except.error Fault.tooDeep
      else (readMembers (Value.read n) _ true [] _).map _) = _
    rw [if_neg (by omega), hread]
    rfl
  · exact ⟨_, _, hwrite, nofun⟩
  · rw [hwrite]
    exact legibleAhead_bracketed (by decide) (by decide) fun part hpart => (hparts part hpart).2

/-- A value that takes one token is restored. -/
lemma restores_singleton {depth : Nat} {value : Value} {token : Token}
    (hwrite : value.write = [token]) (hclose : token ≠ .closeList)
    (hlegible : LegibleAhead [token])
    (hreads : ∀ n rest, Value.read (n + 1) (token :: rest) = .ok (value, rest)) :
    Value.codec.Restores depth value value where
  reads := by
    intro n hn rest
    obtain ⟨n, rfl⟩ : ∃ m, n = m + 1 := ⟨n - 1, by omega⟩
    show Value.read (n + 1) (value.write ++ rest) = _
    rw [hwrite]
    exact hreads n rest
  starts := ⟨token, [], hwrite, hclose⟩
  legible := by
    show LegibleAhead value.write
    rw [hwrite]
    exact hlegible

/-- **A sound value is restored.** -/
theorem Sound.restores {depth : Nat} {value : Value} (h : value.Sound depth) :
    Value.codec.Restores depth value value := by
  induction h with
  | null =>
    exact restores_singleton rfl nofun (legibleAhead_fixed (by decide)) fun _ _ => rfl
  | boolean b =>
    refine restores_singleton rfl nofun (legibleAhead_fixed ?_) fun _ _ => rfl
    cases b <;> decide
  | @integer _ k hleast hgreatest =>
    refine restores_singleton rfl nofun (legibleAhead_number (Numeral.proper_ofInt k)) ?_
    intro n rest
    show (Number.ofNumeral (.ofInt k)).map _ = _
    rw [Number.ofNumeral_ofInt hleast hgreatest]
    rfl
  | text s =>
    refine restores_singleton rfl nofun (Codec.Restores.legible_ofText s) ?_
    intro n rest
    show (readText true _).map _ = _
    rw [readText_ofText]
    rfl
  | list _ ih => exact list_restores ih
  | object hordered _ ih => exact object_restores hordered ih

/-- Only no value is written as `null`. -/
lemma write_ne_null {value : Value} (h : value ≠ .null) (others : List Token) :
    value.write ≠ .null :: others := by
  intro hwrite
  cases value with
  | null => exact h rfl
  | _ =>
    rw [Value.write] at hwrite
    cases hwrite

/-- **A value that may be absent is restored** if it is read and has no floating point numbers.
Since `null` is read as its absence, it is not written for its presence. -/
theorem option_restores {n : Nat} {value : Option Value}
    (h : (Codec.option Value.codec).Yields (n + 1) value)
    (hintegral : ∀ v ∈ value, v.integral = true) :
    (Codec.option Value.codec).Restores n value value := by
  cases value with
  | none => exact .absent
  | some v =>
    obtain ⟨tokens, rest, hnull, hread⟩ := h.option
    have hsound := sound_of_yields ⟨tokens, rest, hread⟩ (hintegral v rfl)
    refine .present hsound.restores fun others => write_ne_null ?_ others
    rintro rfl
    exact hnull rest (exists_of_read_null hread)

end PenaltySettlement.Json.Value
