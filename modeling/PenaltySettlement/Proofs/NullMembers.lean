import PenaltySettlement.Proofs.LedgerReading

/-!
# Members that are `null`

The ledger writes `null` for what it has none of. Where that stands for the absence of a member, an
object is read the same with the member being `null`, at any place among the others, and without it:
as the same value or with the same fault, whatever the other members are.

## Main definitions

* `Json.NullAdded` — two objects, the second one with a member more that is `null`.
* `Json.Members.NullIsAbsence` — `null` under a key stands for the absence of the member.
* `Json.Members.fill` — what has been found, the absent value in the place of one member.

## Main results

* `Json.Codec.decode_nullAdded` — a record is read the same from two such objects.
* `null_reads_as_absent` — so are the two parts of a page of transactions and the errors of an
  envelope.
-/

set_option autoImplicit false

namespace PenaltySettlement

namespace Json

/-- **Two objects of which the second has one member more**, whose key is the given one and whose
value is `null`, at some place among the others. None of the others has this key. White space may
stand between the tokens of either text. -/
def NullAdded (key : String) (without added : List UInt8) : Prop :=
  ∃ before null after, null.key = .ok key ∧ null.value = [.null] ∧
    (∀ e ∈ before ++ after, e.key ≠ .ok key) ∧
    IsObject (before ++ after) without ∧ IsObject (before ++ null :: after) added

namespace Members

/-- **`null` stands for the absence of a member**: the member that is read under the key is read
under no other one, may be absent, and is read from `null` as if it were. -/
def NullIsAbsence {ρ δ : Type} (key : String) : Members ρ δ → Prop
  | .nil => True
  | .cons member others =>
    if member.hasKey key then
      (∀ other, member.hasKey other = true → other = key) ∧
        ∃ x, member.whenAbsent = some x ∧ ∀ n, member.codec.read n [.null] = .ok (x, [])
    else others.NullIsAbsence key

/-- No value has been found of the member that is read under a key. -/
def Unmet {ρ δ : Type} (key : String) : (members : Members ρ δ) → (found : δ) → Prop
  | .nil, _ => True
  | .cons member others, (old, found) =>
    if member.hasKey key then old = none else others.Unmet key found

/-- **What has been found, the absent value in the place of the member** that is read under a key,
unless a value of it has been found. -/
def fill {ρ δ : Type} (key : String) : (members : Members ρ δ) → (found : δ) → δ
  | .nil, _ => ()
  | .cons member others, (old, found) =>
    if member.hasKey key then (old.or member.whenAbsent, found) else (old, others.fill key found)

/-- The value of the member that is read under a key is the one of its absence. -/
def IsAbsent {ρ δ : Type} (key : String) : (members : Members ρ δ) → (values : ρ) → Prop
  | .nil, _ => True
  | .cons member others, (value, values) =>
    if member.hasKey key then member.whenAbsent = some value else others.IsAbsent key values

section

variable {ρ δ : Type} {members : Members ρ δ} {key : String} {n : Nat}

/-! ## The member itself -/

/-- At first no value has been found of it. -/
lemma unmet_blank : members.Unmet key members.blank := by
  induction members with
  | nil => trivial
  | cons member others ih =>
    rw [Unmet, blank]
    split
    · rfl
    · exact ih

/-- **Where none of its values has been found, `null` puts the absent value in its place.** -/
lemma meet_null (h : members.NullIsAbsence key) {found : δ} (hunmet : members.Unmet key found) :
    members.meet key n [.null] found = .ok (members.fill key found) := by
  induction members with
  | nil => rfl
  | cons member others ih =>
    obtain ⟨old, found⟩ := found
    rw [NullIsAbsence] at h
    rw [Unmet] at hunmet
    rw [meet, fill]
    by_cases hkey : member.hasKey key = true
    · rw [if_pos hkey] at h hunmet
      obtain ⟨-, x, habsent, hread⟩ := h
      rw [if_pos hkey, if_pos hkey, hunmet, Member.meet, hread, habsent]
      rfl
    · rw [if_neg hkey] at h hunmet
      rw [if_neg hkey, if_neg hkey, ih h hunmet]
      rfl

/-- The absent value in its place or none of its values: the members have the same values. -/
lemma complete_fill (found : δ) : members.complete (members.fill key found) =
    members.complete found := by
  induction members with
  | nil => rfl
  | cons member others ih =>
    obtain ⟨old, found⟩ := found
    rw [fill]
    split
    · rw [complete, complete, Option.or_assoc, Option.or_self]
    · rw [complete, complete, ih]

/-- A member that is read under one key, `null` standing for the value of its absence. -/
lemma NullIsAbsence.of_first {α : Type} (name : String) (codec : Codec α) (default : α)
    (others : Members ρ δ) :
    (Members.cons (.defaulted name (.nullAs default codec) default) others).NullIsAbsence name := by
  have hkeys : ∀ other,
      (Member.defaulted name (Codec.nullAs default codec) default).hasKey other = (other == name) :=
    fun other => Bool.or_false (other == name)
  rw [NullIsAbsence, if_pos ((hkeys name).trans (beq_self_eq_true name))]
  exact ⟨fun other h => eq_of_beq ((hkeys other).symm.trans h), default, rfl, fun _ => rfl⟩

/-- A member that is one of the others. -/
lemma NullIsAbsence.of_others {α : Type} {member : Member α} (hkey : member.hasKey key = false)
    (h : members.NullIsAbsence key) : (Members.cons member members).NullIsAbsence key := by
  rwa [NullIsAbsence, hkey, if_neg Bool.false_ne_true]

/-- Where none of its values has been found, the member has the absent one in the end. -/
lemma isAbsent_of_complete {found : δ} (hunmet : members.Unmet key found) {values : ρ}
    (h : members.complete found = .ok values) : members.IsAbsent key values := by
  induction members with
  | nil => trivial
  | cons member others ih =>
    obtain ⟨old, found⟩ := found
    rw [Unmet] at hunmet
    rw [complete] at h
    cases hvalue : old.or member.whenAbsent with
    | none =>
      rw [hvalue] at h
      cases h
    | some value =>
      rw [hvalue] at h
      obtain ⟨behind, hothers, rfl⟩ := exists_of_map_eq_ok h
      rw [IsAbsent]
      by_cases hkey : member.hasKey key = true
      · rw [if_pos hkey] at hunmet ⊢
        rwa [hunmet] at hvalue
      · rw [if_neg hkey] at hunmet ⊢
        exact ih hunmet hothers

/-! ## The other members -/

/-- A value under another key finds the same, whether the absent value is in the place of the member
or not. -/
lemma meet_fill (h : members.NullIsAbsence key) {other : String} (hother : other ≠ key)
    (value : List Token) (found : δ) :
    members.meet other n value (members.fill key found) =
      (members.meet other n value found).map (members.fill key) := by
  induction members with
  | nil => rfl
  | cons member others ih =>
    obtain ⟨old, found⟩ := found
    rw [NullIsAbsence] at h
    by_cases hkey : member.hasKey key = true
    · rw [if_pos hkey] at h
      -- the member is read under no other key, so one of the others is met or none
      have hmember : ¬ member.hasKey other = true := fun hhas => hother (h.1 other hhas)
      rw [fill, if_pos hkey, meet, meet, if_neg hmember, if_neg hmember]
      cases others.meet other n value found with
      | error fault => rfl
      | ok found =>
        simp only [Except.map]
        rw [fill, if_pos hkey]
    · rw [if_neg hkey] at h
      rw [fill, if_neg hkey, meet, meet]
      split
      · cases member.meet n value old with
        | error fault => rfl
        | ok new =>
          simp only [Except.map]
          rw [fill, if_neg hkey]
      · rw [ih h]
        cases others.meet other n value found with
        | error fault => rfl
        | ok found =>
          simp only [Except.map]
          rw [fill, if_neg hkey]

/-- A value under another key is none of the member. -/
lemma Unmet.meet (h : members.NullIsAbsence key) {other : String} (hother : other ≠ key)
    {value : List Token} {found found' : δ} (hunmet : members.Unmet key found)
    (hmeet : members.meet other n value found = .ok found') : members.Unmet key found' := by
  induction members with
  | nil => trivial
  | cons member others ih =>
    obtain ⟨old, found⟩ := found
    rw [NullIsAbsence] at h
    rw [Unmet] at hunmet
    rw [Members.meet] at hmeet
    by_cases hkey : member.hasKey key = true
    · rw [if_pos hkey] at h hunmet
      rw [if_neg fun hhas => hother (h.1 other hhas)] at hmeet
      obtain ⟨_, -, rfl⟩ := exists_of_map_eq_ok hmeet
      rw [Unmet, if_pos hkey]
      exact hunmet
    · rw [if_neg hkey] at h hunmet
      split at hmeet
      · obtain ⟨_, -, rfl⟩ := exists_of_map_eq_ok hmeet
        rw [Unmet, if_neg hkey]
        exact hunmet
      · obtain ⟨_, hothers, rfl⟩ := exists_of_map_eq_ok hmeet
        rw [Unmet, if_neg hkey]
        exact ih h hunmet hothers

/-! ## All members of an object -/

/-- A member of an object with another key has a fault in its key or is met under it. -/
lemma meetEntry_of_ne (members : Members ρ δ) (n : Nat) {e : Entry} (he : e.key ≠ .ok key) :
    (∃ fault, ∀ found, members.meetEntry n found e = .error fault) ∨
      ∃ other, other ≠ key ∧
        ∀ found, members.meetEntry n found e = members.meet other n e.value found := by
  cases hkey : e.key with
  | error fault => exact .inl ⟨fault, fun _ => by rw [meetEntry, hkey]; rfl⟩
  | ok other =>
    refine .inr ⟨other, ?_, fun _ => by rw [meetEntry, hkey]; rfl⟩
    rintro rfl
    exact he hkey

/-- Members with other keys find the same, whether the absent value is in the place of the member or
not. -/
lemma foldlM_fill (h : members.NullIsAbsence key) {entries : List Entry}
    (hothers : ∀ e ∈ entries, e.key ≠ .ok key) (found : δ) :
    entries.foldlM (members.meetEntry n) (members.fill key found) =
      (entries.foldlM (members.meetEntry n) found).map (members.fill key) := by
  induction entries generalizing found with
  | nil => rfl
  | cons e entries ih =>
    obtain ⟨he, hentries⟩ := List.forall_mem_cons.1 hothers
    rw [List.foldlM_cons, List.foldlM_cons]
    rcases members.meetEntry_of_ne n he with ⟨fault, hfault⟩ | ⟨other, hother, hmeet⟩
    · rw [hfault, hfault]
      rfl
    · rw [hmeet, hmeet, meet_fill h hother]
      cases members.meet other n e.value found with
      | error fault => rfl
      | ok found => exact ih hentries found

/-- Members with other keys leave the member without a value. -/
lemma Unmet.foldlM (h : members.NullIsAbsence key) {entries : List Entry}
    (hothers : ∀ e ∈ entries, e.key ≠ .ok key) {found found' : δ}
    (hunmet : members.Unmet key found)
    (hfold : entries.foldlM (members.meetEntry n) found = .ok found') :
    members.Unmet key found' := by
  induction entries generalizing found with
  | nil =>
    cases hfold
    exact hunmet
  | cons e entries ih =>
    obtain ⟨he, hentries⟩ := List.forall_mem_cons.1 hothers
    rw [List.foldlM_cons] at hfold
    rcases members.meetEntry_of_ne n he with ⟨fault, hfault⟩ | ⟨other, hother, hmeet⟩
    · rw [hfault] at hfold
      cases hfold
    · rw [hmeet] at hfold
      cases hnew : members.meet other n e.value found with
      | error fault =>
        rw [hnew] at hfold
        cases hfold
      | ok new =>
        rw [hnew] at hfold
        exact ih hentries (hunmet.meet h hother hnew) hfold

end

end Members

section

variable {ρ δ σ : Type} {name : String} {members : Members ρ δ} {build : ρ → σ} {parts : σ → ρ}
  {key : String}

/-- **The same record is read with a member that is `null` and without it**, or there is the same
fault.

**Proof sketch.** The members in front of the added one leave its place empty, so that `null` puts
the absent value there. This makes no difference to the members behind it, and none in the end,
where a place that is still empty takes the absent value. -/
lemma Members.ofEntries_null (h : members.NullIsAbsence key) {n : Nat} {before after : List Entry}
    {null : Entry} (hkey : null.key = .ok key) (hnull : null.value = [.null])
    (hothers : ∀ e ∈ before ++ after, e.key ≠ .ok key) :
    members.ofEntries build n (before ++ null :: after) =
      members.ofEntries build n (before ++ after) := by
  obtain ⟨hbefore, hafter⟩ := List.forall_mem_append.1 hothers
  rw [ofEntries, ofEntries, List.foldlM_append, List.foldlM_append]
  cases hfold : before.foldlM (members.meetEntry n) members.blank with
  | error fault => rfl
  | ok found =>
    have hfound : members.meetEntry n found null = .ok (members.fill key found) := by
      rw [meetEntry, hkey, hnull]
      exact meet_null h (unmet_blank.foldlM h hbefore hfold)
    show (((null :: after).foldlM (members.meetEntry n) found).bind members.complete).map build =
      ((after.foldlM (members.meetEntry n) found).bind members.complete).map build
    rw [List.foldlM_cons, hfound]
    show ((after.foldlM (members.meetEntry n) (members.fill key found)).bind
      members.complete).map build = _
    rw [foldlM_fill h hafter]
    cases after.foldlM (members.meetEntry n) found with
    | error fault => rfl
    | ok found =>
      dsimp only [Except.map, Except.bind]
      rw [complete_fill]

/-- **A record is read the same from two objects of which the second has one member more that is
`null`**, if that stands for the absence of the member. Its value is that of the absence. -/
theorem Codec.decode_nullAdded (hlocal : members.Local) (hnull : members.NullIsAbsence key)
    {without added : List UInt8} (h : NullAdded key without added) :
    (Codec.record name members build parts).decode added =
        (Codec.record name members build parts).decode without ∧
      ∀ r, (Codec.record name members build parts).decode without = .ok r →
        ∃ values, members.IsAbsent key values ∧ build values = r := by
  obtain ⟨before, null, after, hkey, hvalue, hothers, hwithout, hadded⟩ := h
  rw [decode_record hlocal hwithout, decode_record hlocal hadded]
  refine ⟨Members.ofEntries_null hnull hkey hvalue hothers, fun r hr => ?_⟩
  rw [Members.ofEntries] at hr
  obtain ⟨values, hvalues, hbuild⟩ := exists_of_map_eq_ok hr
  cases hfold : (before ++ after).foldlM (members.meetEntry (levels - 1)) members.blank with
  | error fault =>
    rw [hfold] at hvalues
    cases hvalues
  | ok found =>
    rw [hfold] at hvalues
    have hunmet := Members.unmet_blank.foldlM hnull hothers hfold
    exact ⟨values, Members.isAbsent_of_complete hunmet hvalues, hbuild⟩

end

end Json

open Json (Codec NullAdded)

/-! ## The ledger's answers -/

/-- **In the ledger's answers `null` stands for what is missing.** Take an object without one of the
members `data` and `page` of a page of transactions, or without the member `subErrors` of an
envelope, whatever its other members are: unknown, of another type, repeated or deeply nested. With
the member added at any place, and `null`, the same value is read or there is the same fault. In
either case there are no transactions, or all counts of the page are zero, or there are no errors on
fields. -/
theorem null_reads_as_absent (without added : List UInt8) :
    (NullAdded "data" without added →
      TransactionsResponse.codec.decode added = TransactionsResponse.codec.decode without ∧
        ∀ r, TransactionsResponse.codec.decode without = .ok r → r.data = []) ∧
    (NullAdded "page" without added →
      TransactionsResponse.codec.decode added = TransactionsResponse.codec.decode without ∧
        ∀ r, TransactionsResponse.codec.decode without = .ok r → r.page = ⟨0, 0, 0, 0⟩) ∧
    (NullAdded "subErrors" without added →
      ErrorEnvelope.codec.decode added = ErrorEnvelope.codec.decode without ∧
        ∀ e, ErrorEnvelope.codec.decode without = .ok e → e.subErrors = []) := by
  refine ⟨fun h => ?_, fun h => ?_, fun h => ?_⟩
  · unfold TransactionsResponse.codec
    refine (Codec.decode_nullAdded ?_ ?_ h).imp_right fun habsent r hr => ?_
    · exact ⟨Page.codec_local.nullAs _, (Codec.Local.list LedgerTransaction.codec_local).nullAs _,
        trivial⟩
    · exact .of_others (by decide) (.of_first _ _ _ _)
    · obtain ⟨⟨page, data, ⟨⟩⟩, hdata, rfl⟩ := habsent r hr
      cases hdata
      rfl
  · unfold TransactionsResponse.codec
    refine (Codec.decode_nullAdded ?_ ?_ h).imp_right fun habsent r hr => ?_
    · exact ⟨Page.codec_local.nullAs _, (Codec.Local.list LedgerTransaction.codec_local).nullAs _,
        trivial⟩
    · exact .of_first _ _ _ _
    · obtain ⟨⟨page, data, ⟨⟩⟩, hpage, rfl⟩ := habsent r hr
      cases hpage
      rfl
  · unfold ErrorEnvelope.codec
    refine (Codec.decode_nullAdded ?_ ?_ h).imp_right fun habsent e he => ?_
    · exact ⟨.natural _ _, .text, .option .text, .option .text, .text, .option .text,
        (Codec.Local.list SubError.codec_local).nullAs _, trivial⟩
    · exact .of_others (by decide) <| .of_others (by decide) <| .of_others (by decide) <|
        .of_others (by decide) <| .of_others (by decide) <| .of_others (by decide) <|
        .of_first _ _ _ _
    · obtain ⟨⟨_, _, _, _, _, _, subErrors, ⟨⟩⟩, herrors, rfl⟩ := habsent e he
      cases herrors
      rfl

/-! ### A body with a member more -/

namespace NullBody

open Json (Entry IsObject IsValue)

/-- A list of one value. -/
lemma isValue_list : IsValue [.openList, .null, .closeList] := by
  have hnull : ∀ part ∈ [[Json.Token.null]], IsValue part := List.forall_mem_singleton.2 .null
  exact .list hnull

/-- A member that no answer has, with a list. -/
def note : Entry := .ofText "note" _ isValue_list

/-- The status. -/
def status : Entry := .ofText "httpStatusCode" [.number (.ofInt 404)] (.number _)

/-- A member that is `null`. -/
def null (key : String) : Entry := .ofText key [.null] .null

/-- Members as a text. -/
def text (entries : List Entry) : List UInt8 :=
  Json.render (.openObject :: (Json.separated true (entries.map Entry.tokens) ++ [.closeObject]))

/-- Such members as a text are an object. -/
lemma isObject_text {entries : List Entry}
    (h : ∀ e ∈ entries, e = note ∨ e = status ∨ ∃ key, e = null key) :
    IsObject entries (text entries) := by
  refine Json.isObject_render fun e he => ?_
  rcases h e he with rfl | rfl | ⟨key, rfl⟩
  · exact Json.legibleAhead_member "note" fun rest _ hrest =>
      .fixed (by decide) (.fixed (by decide) (.fixed (by decide) hrest))
  · exact Json.legibleAhead_member "httpStatusCode"
      (Json.legibleAhead_number (Numeral.proper_ofInt 404))
  · exact Json.legibleAhead_member key (Json.legibleAhead_fixed (by decide))

/-- The text with the member that is `null` between the two others. -/
lemma nullAdded {key : String} (hnote : "note" ≠ key) (hstatus : "httpStatusCode" ≠ key) :
    NullAdded key (text [note, status]) (text [note, null key, status]) := by
  have hkeys : ∀ e ∈ [note] ++ [status], e.key ≠ .ok key := by
    refine List.forall_mem_cons.2 ⟨?_, List.forall_mem_singleton.2 ?_⟩
    · exact fun h => hnote (Except.ok.inj ((Entry.key_ofText _ _ _).symm.trans h))
    · exact fun h => hstatus (Except.ok.inj ((Entry.key_ofText _ _ _).symm.trans h))
  exact ⟨[note], null key, [status], Entry.key_ofText _ _ _, rfl, hkeys,
    isObject_text (by simp), isObject_text (by simp)⟩

/-- What is read from both texts, if something is from the shorter one. -/
lemma exists_of_isOk {α : Type} {shorter longer : Except Json.Fault α} {p : α → Prop}
    (h : shorter.isOk = true) (hsame : longer = shorter ∧ ∀ x, shorter = .ok x → p x) :
    ∃ x, longer = .ok x ∧ p x := by
  obtain ⟨rfl, hp⟩ := hsame
  cases longer with
  | error fault => cases h
  | ok x => exact ⟨x, rfl, hp x rfl⟩

end NullBody

/-- Answers with another member, a member that is `null` and a status are read. -/
theorem null_reads_as_absent_status :
    (∃ r, TransactionsResponse.codec.decode
        (NullBody.text [NullBody.note, NullBody.null "data", NullBody.status]) = .ok r ∧
      r.data = []) ∧
    (∃ r, TransactionsResponse.codec.decode
        (NullBody.text [NullBody.note, NullBody.null "page", NullBody.status]) = .ok r ∧
      r.page = ⟨0, 0, 0, 0⟩) ∧
    ∃ e, ErrorEnvelope.codec.decode
        (NullBody.text [NullBody.note, NullBody.null "subErrors", NullBody.status]) = .ok e ∧
      e.subErrors = [] := by
  have hresponse : (TransactionsResponse.codec.decode
      (NullBody.text [NullBody.note, NullBody.status])).isOk = true := by decide +kernel
  have henvelope : (ErrorEnvelope.codec.decode
      (NullBody.text [NullBody.note, NullBody.status])).isOk = true := by decide +kernel
  refine ⟨NullBody.exists_of_isOk hresponse ?_, NullBody.exists_of_isOk hresponse ?_,
    NullBody.exists_of_isOk henvelope ?_⟩
  · exact (null_reads_as_absent _ _).1 (NullBody.nullAdded (by decide) (by decide))
  · exact (null_reads_as_absent _ _).2.1 (NullBody.nullAdded (by decide) (by decide))
  · exact (null_reads_as_absent _ _).2.2 (NullBody.nullAdded (by decide) (by decide))

end PenaltySettlement
