import PenaltySettlement.Proofs.LocalReading

/-!
# The order of members

Two members of an object can be met in either order: both orders fail, or both find the same. So it
depends on the known members of an object only, in any order, whether a record is read from it and
which one.

## Main definitions

* `Json.Members.meetAll` — what has been found when members have been met in turn.

## Main results

* `Json.Members.meet_comm` — two members are met in either order.
* `Json.Codec.decode_perm` — a record depends on the known members in any order.
-/

set_option autoImplicit false

namespace PenaltySettlement.Json

namespace Members

variable {ρ δ : Type} {members : Members ρ δ} {n : Nat}

/-! ## Two members -/

section

variable {α : Type} {member : Member α} {others : Members ρ δ} {key : String}

/-- The first member is met under its key. -/
lemma meet_of_member (h : member.hasKey key = true) (value : List Token) (old : Option α)
    (found : δ) :
    (Members.cons member others).meet key n value (old, found) =
      (member.meet n value old).map fun new => (new, found) := by
  rw [meet, if_pos h]

/-- Under any other key one of the others is met. -/
lemma meet_of_others (h : member.hasKey key = false) (value : List Token) (old : Option α)
    (found : δ) :
    (Members.cons member others).meet key n value (old, found) =
      (others.meet key n value found).map fun found => (old, found) := by
  rw [meet, h, if_neg Bool.false_ne_true]

/-- A member is not met twice. -/
lemma not_meet_twice {value : List Token} {old new : Option α}
    (h : member.meet n value old = .ok new) (value' : List Token) :
    member.meet n value' new = .error (.repeatedMember member.name) := by
  unfold Member.meet at h
  split at h
  · cases h
  · cases hread : member.codec.read n value with
    | error fault =>
      rw [hread] at h
      cases h
    | ok read =>
      rw [hread] at h
      cases h
      rfl

/-- A member and one of the others are met in either order. -/
lemma meet_comm_others {key' : String} (hkey : member.hasKey key = true)
    (hkey' : member.hasKey key' = false) (value value' : List Token) (old : Option α) (found : δ) :
    (((Members.cons member others).meet key n value (old, found)).bind
        ((Members.cons member others).meet key' n value')).toOption =
      (((Members.cons member others).meet key' n value' (old, found)).bind
        ((Members.cons member others).meet key n value)).toOption := by
  rw [meet_of_member hkey, meet_of_others hkey']
  cases hmember : member.meet n value old with
  | error fault =>
    cases others.meet key' n value' found with
    | error fault' => rfl
    | ok found' =>
      simp only [Except.map, Except.bind, meet_of_member hkey, hmember]
  | ok new =>
    cases hothers : others.meet key' n value' found with
    | error fault' =>
      simp only [Except.map, Except.bind, meet_of_others hkey', hothers]
    | ok found' =>
      simp only [Except.map, Except.bind, meet_of_others hkey', hothers, meet_of_member hkey,
        hmember]

end

/-- **Two members are met in either order**: both orders fail, or both find the same.

**Proof sketch.** Induction on the known members. Where both keys are those of one known member, it
is met twice and both orders fail. Where one of them is, the other one adds to what is found of the
others. -/
theorem meet_comm (key key' : String) (value value' : List Token) (found : δ) :
    ((members.meet key n value found).bind (members.meet key' n value')).toOption =
      ((members.meet key' n value' found).bind (members.meet key n value)).toOption := by
  induction members with
  | nil => rfl
  | cons member others ih =>
    obtain ⟨old, found⟩ := found
    cases hkey : member.hasKey key with
    | true =>
      cases hkey' : member.hasKey key' with
      | false => exact meet_comm_others hkey hkey' value value' old found
      | true =>
        have htwice : ∀ {key key' : String} {value value' : List Token},
            member.hasKey key = true → member.hasKey key' = true →
            (((Members.cons member others).meet key n value (old, found)).bind
              ((Members.cons member others).meet key' n value')).toOption = none := by
          intro key key' value value' hkey hkey'
          rw [meet_of_member hkey]
          cases hmember : member.meet n value old with
          | error fault => rfl
          | ok new =>
            simp only [Except.map, Except.bind, meet_of_member hkey', not_meet_twice hmember]
            rfl
        rw [htwice hkey hkey', htwice hkey' hkey]
    | false =>
      cases hkey' : member.hasKey key' with
      | true => exact (meet_comm_others hkey' hkey value' value old found).symm
      | false =>
        have hboth : ∀ {key key' : String} {value value' : List Token},
            member.hasKey key = false → member.hasKey key' = false →
            (((Members.cons member others).meet key n value (old, found)).bind
              ((Members.cons member others).meet key' n value')).toOption =
            ((others.meet key n value found).bind (others.meet key' n value')).toOption.map
              fun found => (old, found) := by
          intro key key' value value' hkey hkey'
          rw [meet_of_others hkey]
          cases others.meet key n value found with
          | error fault => rfl
          | ok found' =>
            simp only [Except.map, Except.bind, meet_of_others hkey']
            cases others.meet key' n value' found' <;> rfl
        rw [hboth hkey hkey', hboth hkey' hkey, ih]

/-! ## All members of an object -/

/-- What has been found when members have been met in turn, by their keys and values. -/
def meetAll (members : Members ρ δ) (n : Nat) (ms : List (String × List Token)) (found : δ) :
    Except Fault δ :=
  ms.foldlM (fun found m => members.meet m.1 n m.2 found) found

lemma meetAll_cons (m : String × List Token) (ms : List (String × List Token)) (found : δ) :
    members.meetAll n (m :: ms) found =
      (members.meet m.1 n m.2 found).bind (members.meetAll n ms) := List.foldlM_cons

/-- Members that are not known add nothing to what is found. -/
lemma foldlM_meetEntry {entries : List Entry} (h : ∀ e ∈ entries, ∃ key, e.key = .ok key)
    (found : δ) :
    entries.foldlM (members.meetEntry n) found =
      members.meetAll n (membersAmong (hasKey · members) entries) found := by
  induction entries generalizing found with
  | nil => rfl
  | cons e entries ih =>
    obtain ⟨⟨key, hkey⟩, hentries⟩ := List.forall_mem_cons.1 h
    have hmeet : members.meetEntry n found e = members.meet key n e.value found := by
      rw [meetEntry, hkey]
      rfl
    rw [List.foldlM_cons, hmeet, membersAmong, List.filterMap_cons, Entry.among?_of_key hkey]
    cases hknown : members.hasKey key with
    | false =>
      rw [if_neg Bool.false_ne_true, meet_of_hasKey_eq_false hknown]
      exact ih hentries found
    | true =>
      rw [if_pos rfl]
      dsimp only
      rw [meetAll_cons]
      cases members.meet key n e.value found with
      | error fault => rfl
      | ok found => exact ih hentries found

/-- **Members in any order find the same**, or fail in any order.

**Proof sketch.** Induction on the exchanges of neighbours that lead from one order to the other. -/
theorem toOption_meetAll_perm {ms ms' : List (String × List Token)} (h : ms.Perm ms') (found : δ) :
    (members.meetAll n ms found).toOption = (members.meetAll n ms' found).toOption := by
  induction h generalizing found with
  | nil => rfl
  | cons m _ ih =>
    rw [meetAll_cons, meetAll_cons]
    cases members.meet m.1 n m.2 found with
    | error fault => rfl
    | ok found => exact ih found
  | swap m m' ms =>
    have hpair : ∀ m m' : String × List Token,
        (members.meetAll n (m :: m' :: ms) found).toOption =
          ((members.meet m.1 n m.2 found).bind (members.meet m'.1 n m'.2)).toOption.bind
            fun found => (members.meetAll n ms found).toOption := by
      intro m m'
      rw [meetAll_cons]
      cases members.meet m.1 n m.2 found with
      | error fault => rfl
      | ok found =>
        dsimp only [Except.bind]
        rw [meetAll_cons]
        cases members.meet m'.1 n m'.2 found <;> rfl
    rw [hpair, hpair, meet_comm]
  | trans _ _ ih ih' => exact (ih found).trans (ih' found)

end Members

/-- **A record depends on the known members only**, in any order: from two objects that have the
same of them the same record is read, or none from either. -/
theorem Codec.decode_perm {ρ δ σ : Type} {name : String} {members : Members ρ δ} {build : ρ → σ}
    {parts : σ → ρ} (hlocal : members.Local) {keys : String → Bool}
    (hknown : ∀ key, members.hasKey key = keys key) {entries entries' : List Entry}
    {bytes bytes' : List UInt8} (h : IsObject entries bytes) (h' : IsObject entries' bytes')
    (hkeys : ∀ e ∈ entries, ∃ key, e.key = .ok key)
    (hkeys' : ∀ e ∈ entries', ∃ key, e.key = .ok key)
    (hperm : (membersAmong keys entries).Perm (membersAmong keys entries')) :
    ((Codec.record name members build parts).decode bytes).toOption =
      ((Codec.record name members build parts).decode bytes').toOption := by
  obtain rfl : (Members.hasKey · members) = keys := funext hknown
  have hoption : ∀ entries : List Entry,
      (members.ofEntries build (levels - 1) entries).toOption =
        ((entries.foldlM (members.meetEntry (levels - 1)) members.blank).toOption.bind
          fun found => (members.complete found).toOption).map build := by
    intro entries
    rw [Members.ofEntries]
    cases entries.foldlM (members.meetEntry (levels - 1)) members.blank with
    | error fault => rfl
    | ok found =>
      dsimp only [Except.bind, Except.toOption, Option.bind]
      cases members.complete found <;> rfl
  rw [decode_record hlocal h, decode_record hlocal h', hoption, hoption,
    Members.foldlM_meetEntry hkeys, Members.foldlM_meetEntry hkeys',
    Members.toOption_meetAll_perm hperm]

end PenaltySettlement.Json
