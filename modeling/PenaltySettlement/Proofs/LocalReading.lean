import PenaltySettlement.Proofs.ReadValues
import PenaltySettlement.Proofs.ValueGrammar

/-!
# Reading looks at one value at a time

Of tokens that start with a value, a codec looks at that value only. So an object is read member by
member: each of them adds its value to what has been found or is passed over, depending on nothing
but its key, its value and what has been found before.

## Main definitions

* `Json.Codec.Local`, `Json.Members.Local` — reading looks at the value only.
* `Json.Members.meet` — what has been found when one more member has been read.

## Main results

* `Json.Codec.Local.list`, `Json.Codec.Local.record` — lists and records are read so if their parts
  are.
* `Json.Codec.decode_record` — a record is read from an object by meeting its members in turn.
-/

set_option autoImplicit false

namespace PenaltySettlement.Json

/-- **A codec looks at one value only**: what follows the value is left as it is, and it makes no
difference. -/
def Codec.Local {α : Type} (c : Codec α) : Prop :=
  ∀ n {value : List Token}, IsValue value → ∀ rest,
    c.read n (value ++ rest) = (c.read n value).map fun (x, _) => (x, rest)

/-! ## Plain values -/

/-- A codec that reads single tokens only looks at one value. -/
lemma Codec.Local.of_token {α : Type} {c : Codec α}
    (hread : ∀ n first others, first.StartsValue →
      c.read n (first :: others) = (c.read levels [first]).map fun (x, _) => (x, others))
    (hlist : ∃ fault, c.read levels [.openList] = .error fault)
    (hobject : ∃ fault, c.read levels [.openObject] = .error fault) : c.Local := by
  have hsingle : ∀ n token, token.StartsValue → ∀ rest,
      c.read n ([token] ++ rest) = (c.read n [token]).map fun read => (read.1, rest) := by
    intro n token hstarts rest
    rw [List.singleton_append, hread n token rest hstarts, hread n token [] hstarts]
    cases c.read levels [token] <;> rfl
  have hbracket : ∀ n token others rest, token.StartsValue →
      (∃ fault, c.read levels [token] = .error fault) →
      c.read n (token :: others ++ rest) =
        (c.read n (token :: others)).map fun read => (read.1, rest) := by
    rintro n token others rest hstarts ⟨fault, hfault⟩
    rw [List.cons_append, hread n token _ hstarts, hread n token _ hstarts, hfault]
    rfl
  intro n value h rest
  cases h with
  | null => exact hsingle n .null trivial rest
  | boolean b => exact hsingle n (.boolean b) trivial rest
  | number k => exact hsingle n (.number k) trivial rest
  | text raw => exact hsingle n (.text raw) trivial rest
  | list => exact hbracket n _ _ rest trivial hlist
  | object => exact hbracket n _ _ rest trivial hobject

/-- Texts. -/
lemma Codec.Local.text : Codec.text.Local := by
  refine .of_token ?_ ⟨_, rfl⟩ ⟨_, rfl⟩
  intro n first others hstarts
  cases first with
  | text raw =>
    dsimp only [Codec.text]
    cases readText true raw <;> rfl
  | _ => rfl

/-- Integers. -/
lemma Codec.Local.integer (name : String) (least greatest : Int) :
    (Codec.integer name least greatest).Local := by
  refine .of_token ?_ ⟨_, rfl⟩ ⟨_, rfl⟩
  intro n first others hstarts
  cases first with
  | number numeral =>
    dsimp only [Codec.integer]
    cases Number.ofNumeral numeral with
    | error fault => rfl
    | ok number =>
      cases number with
      | float value => rfl
      | integer value =>
        dsimp only
        split <;> rfl
  | _ => rfl

/-! ## Lists -/

/-- A value is found as the next element of a list. -/
lemma nextElement_value {first : Bool} {value : List Token} (h : IsValue value)
    (rest : List Token) :
    nextElement first ((if first then [] else [.comma]) ++ (value ++ rest)) =
      .ok (some (value ++ rest)) := by
  obtain ⟨token, others, rfl, hstarts⟩ := h.starts
  refine nextElement_cons first ?_ (others ++ rest)
  rintro rfl
  exact hstarts

/-- The elements of a list are read whatever follows the list, with fuel enough for them, if each of
them is. -/
lemma readElements_append {α : Type} {item : TokenReader α} {parts : List (List Token)}
    (h : ∀ part ∈ parts, IsValue part)
    (hlocal : ∀ part ∈ parts, ∀ rest, item (part ++ rest) = (item part).map fun (x, _) => (x, rest))
    (first : Bool) (done : List α) {fuel fuel' : Nat} (hfuel : parts.length < fuel)
    (hfuel' : parts.length < fuel') (rest : List Token) :
    readElements item fuel first done (separated first parts ++ .closeList :: rest) =
      (readElements item fuel' first done (separated first parts ++ [.closeList])).map
        fun (values, _) => (values, rest) := by
  induction parts generalizing first done fuel fuel' with
  | nil =>
    obtain ⟨fuel, rfl⟩ : ∃ m, fuel = m + 1 := ⟨fuel - 1, by omega⟩
    obtain ⟨fuel', rfl⟩ : ∃ m, fuel' = m + 1 := ⟨fuel' - 1, by omega⟩
    rfl
  | cons part parts ih =>
    obtain ⟨fuel, rfl⟩ : ∃ m, fuel = m + 1 := ⟨fuel - 1, by omega⟩
    obtain ⟨fuel', rfl⟩ : ∃ m, fuel' = m + 1 := ⟨fuel' - 1, by omega⟩
    obtain ⟨hpart, hparts⟩ := List.forall_mem_cons.1 h
    obtain ⟨hitem, hitems⟩ := List.forall_mem_cons.1 hlocal
    rw [List.length_cons] at hfuel hfuel'
    simp only [separated, List.append_assoc]
    rw [readElements, readElements, nextElement_value hpart, nextElement_value hpart]
    dsimp only
    rw [hitem, hitem]
    cases item part with
    | error fault => rfl
    | ok read => exact ih hparts hitems false (read.1 :: done) (by omega) (by omega)

/-- **Lists**, if their elements are read so. -/
lemma Codec.Local.list {α : Type} {c : Codec α} (h : c.Local) : c.list.Local := by
  intro n value hvalue rest
  cases hvalue with
  | @list parts hparts =>
    have hne : ∀ part ∈ parts, part ≠ [] := by
      intro part hpart
      obtain ⟨first, others, rfl, -⟩ := (hparts part hpart).starts
      exact List.cons_ne_nil first others
    have hfuel := length_lt_fuel true hne .closeList rest
    have hfuel' := length_lt_fuel true hne .closeList []
    rw [List.cons_append, List.append_assoc, List.singleton_append]
    show (if n ≤ 1 then Except.error Fault.tooDeep
        else readElements (c.read (n - 1)) _ true [] _) =
      (if n ≤ 1 then Except.error Fault.tooDeep
        else readElements (c.read (n - 1)) _ true [] _).map _
    split
    · rfl
    · exact readElements_append hparts (fun part hpart => h (n - 1) (hparts part hpart)) true []
        hfuel hfuel' rest
  | null => rfl
  | boolean b => rfl
  | number k => rfl
  | text raw => rfl
  | object => rfl

/-! ## Members -/

/-- What has been found of a member when its value has been met, once more if it has been before. -/
def Member.meet {α : Type} (n : Nat) (value : List Token) (member : Member α) (old : Option α) :
    Except Fault (Option α) :=
  if old.isSome then .error (.repeatedMember member.name)
  else (member.codec.read n value).map fun (x, _) => some x

namespace Members

/-- All members look at their values only. -/
def Local {ρ δ : Type} : Members ρ δ → Prop
  | .nil => True
  | .cons member others => member.codec.Local ∧ others.Local

/-- Whether one of the members is read under a key. -/
def hasKey {ρ δ : Type} (key : String) : Members ρ δ → Bool
  | .nil => false
  | .cons member others => member.hasKey key || others.hasKey key

/-- **What has been found when one more member has been met**, with its key and its value: its value
is found, unless no member is read under the key. -/
def meet {ρ δ : Type} (key : String) (n : Nat) (value : List Token) :
    (members : Members ρ δ) → (found : δ) → Except Fault δ
  | .nil, _ => .ok ()
  | .cons member others, (old, found) =>
    if member.hasKey key then (member.meet n value old).map fun new => (new, found)
    else (others.meet key n value found).map fun found => (old, found)

/-- What has been found when one more member of a text has been met. -/
def meetEntry {ρ δ : Type} (members : Members ρ δ) (n : Nat) (found : δ) (e : Entry) :
    Except Fault δ :=
  e.key.bind fun key => members.meet key n e.value found

section

variable {ρ δ : Type} {members : Members ρ δ} {n : Nat}

/-- A member that is not known adds nothing. -/
lemma meet_of_hasKey_eq_false {key : String} (h : members.hasKey key = false)
    (value : List Token) (found : δ) : members.meet key n value found = .ok found := by
  induction members with
  | nil => rfl
  | cons member others ih =>
    obtain ⟨old, found⟩ := found
    obtain ⟨hmember, hothers⟩ := Bool.or_eq_false_iff.1 h
    rw [meet, hmember, if_neg Bool.false_ne_true, ih hothers]
    rfl

/-- A known member is read from its colon on, whatever follows it. -/
lemma readMember_value (hlocal : members.Local) {value : List Token} (hvalue : IsValue value)
    (key : String) (found : δ) (rest : List Token) :
    members.readMember key n (.colon :: (value ++ rest)) found =
      if members.hasKey key then
        some ((members.meet key n value found).map fun found => (found, rest))
      else none := by
  induction members with
  | nil => rfl
  | cons member others ih =>
    obtain ⟨old, found⟩ := found
    obtain ⟨hmember, hothers⟩ := hlocal
    unfold readMember
    rw [hasKey, meet]
    by_cases hkey : member.hasKey key = true
    · rw [if_pos hkey, if_pos hkey, hkey, Bool.true_or, if_pos rfl, Member.meet]
      split
      · rfl
      · dsimp only
        rw [hmember n hvalue]
        cases member.codec.read n value <;> rfl
    · rw [if_neg hkey, if_neg hkey, Bool.eq_false_iff.2 hkey, Bool.false_or, ih hothers]
      split
      · cases others.meet key n value found <;> rfl
      · rfl

/-- The key of the next member is read, behind the comma or at once when it is the first one. -/
lemma nextKey_entry (first : Bool) (e : Entry) (rest : List Token) :
    nextKey first ((if first then [] else [.comma]) ++ e.tokens ++ rest) =
      e.key.map fun key => (some key, .colon :: (e.value ++ rest)) := by
  rw [List.append_assoc]
  exact nextKey_text first e.raw (.colon :: (e.value ++ rest))

/-- **An object is read by meeting its members in turn**, those that are not known being passed
over.

**Proof sketch.** Induction on the members. Each of them takes a unit of fuel, and the closing
bracket takes the last one. -/
theorem readObject_entries (hlocal : members.Local) (entries : List Entry) (first : Bool)
    (found : δ) {fuel : Nat} (hfuel : entries.length < fuel) (rest : List Token) :
    members.readObject n fuel first found
        (separated first (entries.map Entry.tokens) ++ .closeObject :: rest) =
      (entries.foldlM (members.meetEntry n) found).map fun found => (found, rest) := by
  induction entries generalizing first found fuel with
  | nil =>
    obtain ⟨fuel, rfl⟩ : ∃ m, fuel = m + 1 := ⟨fuel - 1, by omega⟩
    rfl
  | cons e entries ih =>
    obtain ⟨fuel, rfl⟩ : ∃ m, fuel = m + 1 := ⟨fuel - 1, by omega⟩
    rw [List.length_cons] at hfuel
    rw [List.map_cons, separated, List.append_assoc, List.append_assoc, ← List.append_assoc,
      readObject, nextKey_entry, List.foldlM_cons, meetEntry]
    cases e.key with
    | error fault => rfl
    | ok key =>
      dsimp only [Except.map, Except.bind]
      rw [readMember_value hlocal e.isValue]
      by_cases hkey : members.hasKey key = true
      · rw [if_pos hkey]
        cases members.meet key n e.value found with
        | error fault => rfl
        | ok found => exact ih false found (by omega)
      · rw [if_neg hkey, meet_of_hasKey_eq_false (by simpa using hkey)]
        dsimp only [behindColon, Except.bind]
        rw [skipValue_append e.isValue]
        exact ih false found (by omega)

/-- The members of a record in a list are read whatever follows the list; some of the values may be
left.

**Proof sketch.** Induction on the members. Each of them takes a value, or there is none left and it
takes none. -/
lemma readElements_parts (hlocal : members.Local) {parts : List (List Token)}
    (h : ∀ part ∈ parts, IsValue part) (expected : String) (index : Nat) :
    ∃ outcome : Except Fault (ρ × Bool × List (List Token)),
      (∀ read, outcome = .ok read → ∀ part ∈ read.2.2, IsValue part) ∧
      ∀ rest, members.readElements expected n index
          (separated (index == 0) parts ++ .closeList :: rest) =
        outcome.map fun read =>
          (read.1, separated read.2.1 read.2.2 ++ .closeList :: rest) := by
  induction members generalizing index parts with
  | nil =>
    refine ⟨.ok ((), index == 0, parts), ?_, fun _ => rfl⟩
    rintro read ⟨⟩
    exact h
  | cons member others ih =>
    obtain ⟨hmember, hothers⟩ := hlocal
    cases parts with
    | nil =>
      cases hshort : member.whenShort with
      | none =>
        refine ⟨.error (.wrongLength index expected), ?_, fun rest => ?_⟩
        · rintro read ⟨⟩
        · show readElements expected n index _ (.closeList :: rest) = _
          rw [readElements]
          dsimp only [nextElement]
          rw [hshort]
          rfl
      | some value =>
        have hnone : ∀ part ∈ ([] : List (List Token)), IsValue part :=
          fun _ hpart => absurd hpart List.not_mem_nil
        obtain ⟨outcome, hleft, hread⟩ := ih hothers hnone (index + 1)
        refine ⟨outcome.map fun read => ((value, read.1), read.2), ?_, fun rest => ?_⟩
        · rintro read hok
          obtain ⟨read, hread, rfl⟩ := exists_of_map_eq_ok hok
          exact hleft read hread
        · have hothers : others.readElements expected n (index + 1) (.closeList :: rest) = _ :=
            hread rest
          show readElements expected n index _ (.closeList :: rest) = _
          rw [readElements]
          dsimp only [nextElement]
          rw [hshort]
          dsimp only
          rw [hothers]
          cases outcome <;> rfl
    | cons part parts =>
      obtain ⟨hpart, hparts⟩ := List.forall_mem_cons.1 h
      cases hvalue : member.codec.read n part with
      | error fault =>
        refine ⟨.error fault, ?_, fun rest => ?_⟩
        · rintro read ⟨⟩
        · simp only [separated, List.append_assoc]
          rw [readElements, nextElement_value hpart]
          dsimp only
          rw [hmember n hpart, hvalue]
          rfl
      | ok found =>
        obtain ⟨outcome, hleft, hread⟩ := ih hothers hparts (index + 1)
        refine ⟨outcome.map fun read => ((found.1, read.1), read.2), ?_, fun rest => ?_⟩
        · rintro read hok
          obtain ⟨read, hread, rfl⟩ := exists_of_map_eq_ok hok
          exact hleft read hread
        · have hothers : others.readElements expected n (index + 1)
              (separated false parts ++ .closeList :: rest) = _ := hread rest
          simp only [separated, List.append_assoc]
          rw [readElements, nextElement_value hpart]
          dsimp only
          rw [hmember n hpart, hvalue]
          dsimp only [Except.map]
          rw [hothers]
          cases outcome <;> rfl

end

end Members

/-! ## Records -/

/-- A list whose values have been read ends there, unless some of them are left. -/
lemma endList_separated {left : List (List Token)} (h : ∀ part ∈ left, IsValue part)
    (first : Bool) (rest : List Token) :
    endList (separated first left ++ .closeList :: rest) =
      if left.isEmpty then .ok rest else .error .trailingCharacters := by
  cases left with
  | nil => rfl
  | cons part left =>
    obtain ⟨token, others, rfl, hstarts⟩ := (h part List.mem_cons_self).starts
    cases first with
    | true =>
      cases token with
      | closeList => cases hstarts
      | comma => cases hstarts
      | _ => rfl
    | false =>
      cases token with
      | closeList => cases hstarts
      | _ => rfl

/-- Members of an object whose values are ones are entries. -/
lemma exists_entries {members : List (List UInt8 × List Token)} (h : ∀ m ∈ members, IsValue m.2) :
    ∃ entries : List Entry,
      entries.map Entry.tokens = members.map fun m => memberTokens m.1 m.2 := by
  induction members with
  | nil => exact ⟨[], rfl⟩
  | cons m members ih =>
    obtain ⟨hm, hmembers⟩ := List.forall_mem_cons.1 h
    obtain ⟨entries, hentries⟩ := ih hmembers
    exact ⟨⟨m.1, m.2, hm⟩ :: entries, by rw [List.map_cons, hentries]; rfl⟩

section

variable {ρ δ σ : Type} {name : String} {members : Members ρ δ} {build : ρ → σ} {parts : σ → ρ}

/-- **The record that an object is read as**, or the first fault. -/
def Members.ofEntries (members : Members ρ δ) (build : ρ → σ) (n : Nat) (entries : List Entry) :
    Except Fault σ :=
  ((entries.foldlM (members.meetEntry n) members.blank).bind members.complete).map build

/-- A record is read from a list by reading the values of its members up to the end of the list. -/
lemma read_record_openList (n : Nat) (tokens : List Token) :
    (Codec.record name members build parts).read n (.openList :: tokens) =
      if n ≤ 1 then .error .tooDeep
      else (members.readElements (recordLength name members.length) (n - 1) 0 tokens).bind
        fun read => (endList read.2).map fun rest => (build read.1, rest) := by
  unfold Codec.record
  dsimp only
  cases members.readElements (recordLength name members.length) (n - 1) 0 tokens <;> rfl

/-- A record is read from an object by meeting its members in turn. -/
lemma read_record_object (hlocal : members.Local) (n : Nat) (entries : List Entry)
    (rest : List Token) :
    (Codec.record name members build parts).read n
        (.openObject :: (separated true (entries.map Entry.tokens) ++ .closeObject :: rest)) =
      (if n ≤ 1 then .error .tooDeep else members.ofEntries build (n - 1) entries).map
        fun x => (x, rest) := by
  have hne : ∀ part ∈ entries.map Entry.tokens, part ≠ [] := by
    intro part hpart
    obtain ⟨e, -, rfl⟩ := List.mem_map.1 hpart
    exact List.cons_ne_nil _ _
  have hfuel := length_lt_fuel true hne .closeObject rest
  rw [List.length_map] at hfuel
  have hread := Members.readObject_entries hlocal (n := n - 1) entries true members.blank hfuel rest
  rw [Codec.read_record_openObject]
  split
  · rfl
  · rw [hread, Members.ofEntries]
    cases entries.foldlM (members.meetEntry (n - 1)) members.blank with
    | error fault => rfl
    | ok found =>
      dsimp only [Except.map, Except.bind]
      cases members.complete found <;> rfl

/-- **Records**, if their members are read so. -/
lemma Codec.Local.record (hlocal : members.Local) :
    (Codec.record name members build parts).Local := by
  intro n value hvalue rest
  cases hvalue with
  | @list values hparts =>
    obtain ⟨outcome, hleft, hread⟩ :=
      Members.readElements_parts hlocal (n := n - 1) hparts (recordLength name members.length) 0
    have hends : ∀ rest, (Codec.record name members build parts).read n
        (.openList :: (separated true values ++ .closeList :: rest)) =
        (if n ≤ 1 then .error .tooDeep
          else outcome.bind fun read =>
            if read.2.2.isEmpty then .ok (build read.1) else .error .trailingCharacters).map
          fun x => (x, rest) := by
      intro rest
      have helements : members.readElements (recordLength name members.length) (n - 1) 0
          (separated true values ++ .closeList :: rest) = _ := hread rest
      rw [read_record_openList]
      split
      · rfl
      · rw [helements]
        cases outcome with
        | error fault => rfl
        | ok read =>
          obtain ⟨found, first, left⟩ := read
          dsimp only [Except.map, Except.bind]
          rw [endList_separated (hleft _ rfl)]
          cases left <;> rfl
    rw [List.cons_append, List.append_assoc, List.singleton_append, hends, hends]
    cases (if n ≤ 1 then Except.error Fault.tooDeep else _ : Except Fault σ) <;> rfl
  | object hmembers =>
    obtain ⟨entries, hentries⟩ := exists_entries hmembers
    rw [List.cons_append, List.append_assoc, List.singleton_append, ← hentries,
      read_record_object hlocal, read_record_object hlocal]
    cases (if n ≤ 1 then Except.error Fault.tooDeep else _ : Except Fault σ) <;> rfl
  | _ => rfl

/-- **A record is read from an object by meeting its members in turn**, whatever white space stands
between the tokens. -/
theorem Codec.decode_record (hlocal : members.Local) {entries : List Entry} {bytes : List UInt8}
    (h : IsObject entries bytes) :
    (Codec.record name members build parts).decode bytes =
      members.ofEntries build (levels - 1) entries := by
  rw [Codec.decode, lex_of_spelled h, read_record_object hlocal, if_neg (by decide)]
  cases members.ofEntries build (levels - 1) entries <;> rfl

end

end PenaltySettlement.Json
