import PenaltySettlement.Proofs.Readership

/-!
# The active subscription

A partition is claimed by a subscription when it is made, and free again once that subscription is
closed or dropped. The claim is a flag that all subscriptions share, while each knows only of
itself whether it has given up its claim. So what has to be kept out is that one which was closed
long ago frees the partition from another one that has been made since.

## Main definitions

* `Readership.Active` — the subscriptions that are neither closed nor dropped.
* `Readership.Shift` — a step, by what it means for the claim.
* `Readership.Claimed` — the flag and the active subscription go together.
* `Readership.SoleSubscription` — the laws of the claim.

## Main results

* `Readership.shift_act` — everything that can be done is such a step.
* `Readership.claimed_after` — after any acts the flag tells of the active subscription.
* `Readership.soleSubscription` — the laws hold after any sequence of acts.
-/

set_option autoImplicit false

namespace PenaltySettlement

namespace Partition

variable {p : Partition} {s : Subscription}

/-- A partition that is claimed refuses another subscription, and stays as it is. -/
lemma subscribe_of_subscribed (h : p.subscribed = true) :
    ∃ reason, p.subscribe = (.error (.subscribe p.number reason), p, []) :=
  ⟨_, if_pos h⟩

/-- A partition that is free is claimed by the subscription that it makes. -/
lemma subscribe_of_not_subscribed (h : p.subscribed = false) :
    p.subscribe.1 = .ok { position := p.resumption } ∧
      p.subscribe.2.1 = { p with subscribed := true } := by
  rw [subscribe, h]
  exact ⟨rfl, rfl⟩

/-- An attempt to subscribe fails exactly while the partition is claimed. -/
lemma subscribe_eq_error : (∃ e, p.subscribe.1 = .error e) ↔ p.subscribed = true := by
  cases h : p.subscribed with
  | true =>
    obtain ⟨reason, hrefused⟩ := subscribe_of_subscribed h
    rw [hrefused]
    exact iff_of_true ⟨_, rfl⟩ rfl
  | false =>
    rw [(subscribe_of_not_subscribed h).1]
    exact iff_of_false nofun nofun

/-- A subscription that is open frees the partition when it is given up. -/
lemma dropSubscription_of_open (h : s.closed = false) :
    p.dropSubscription s = { p with subscribed := false } := by
  rw [dropSubscription, h]
  rfl

/-- A subscription that was closed before has nothing to give up. -/
lemma dropSubscription_of_closed (h : s.closed = true) : p.dropSubscription s = p := if_pos h

/-- A subscription does not close or open by reading. -/
lemma closed_next : (p.next s).2.closed = s.closed := by
  unfold next
  split
  · rfl
  · split <;> rfl

/-- A subscription that is closed is closed. -/
@[simp]
lemma closed_closeSubscription : (p.closeSubscription s).1.closed = true := rfl

@[simp]
lemma subscribed_commit (offset : Nat) : (p.commit s offset).2.subscribed = p.subscribed := by
  unfold commit
  split <;> rfl

@[simp]
lemma number_commit (offset : Nat) : (p.commit s offset).2.number = p.number := by
  unfold commit
  split <;> rfl

@[simp]
lemma number_subscribe : p.subscribe.2.1.number = p.number := by
  unfold subscribe
  split <;> rfl

@[simp]
lemma number_dropSubscription : (p.dropSubscription s).number = p.number := by
  unfold dropSubscription
  split <;> rfl

end Partition

namespace Readership

/-- A subscription that is neither closed nor dropped. -/
def Active (r : Readership) (i : Nat) : Prop := ∃ s, r.held i = some s ∧ s.closed = false

/-- A reader whose subscription has been closed or dropped. -/
def Retired (r : Readership) (i : Nat) : Prop :=
  i < r.readers.length ∧ ∀ s, r.held i = some s → s.closed = true

/-- The partition and its active subscriptions are as before. -/
structure Undisturbed (r r' : Readership) : Prop where
  partition : r'.partition = r.partition
  active : ∀ j, r'.Active j ↔ r.Active j

/-- An act by which a reader gives its subscription up. -/
def Act.GivesUp (i : Nat) : Act → Prop
  | .closeReader j | .dropReader j => j = i
  | .publish _ | .close | .subscribe | .next _ | .commit _ _ => False

section

variable {r r' : Readership} {i : Nat} {s : Subscription}

/-! ## One step -/

/-- The active subscriptions after one reader has another subscription, or none. -/
lemma active_of_set (hheld : r.held i = some s) {x : Option Subscription}
    (h : r'.readers = r.readers.set i x) (j : Nat) :
    r'.Active j ↔ if j = i then ∃ s' ∈ x, s'.closed = false else r.Active j := by
  rw [Active, held_of_set hheld h]
  by_cases hj : j = i
  · rw [if_pos hj, if_pos hj]
    rfl
  · rw [if_neg hj, if_neg hj]
    rfl

/-- The active subscriptions after another reader has come. -/
lemma active_of_append {x : Option Subscription} (h : r'.readers = r.readers ++ [x]) (j : Nat) :
    r'.Active j ↔ if j = r.readers.length then ∃ s ∈ x, s.closed = false else r.Active j := by
  rw [Active, held_of_append h]
  by_cases hj : j = r.readers.length
  · rw [if_pos hj, if_pos hj]
    rfl
  · rw [if_neg hj, if_neg hj]
    rfl

/-- A reader with an active subscription is one of the readers. -/
lemma Active.lt (h : r.Active i) : i < r.readers.length :=
  let ⟨_, hheld, _⟩ := h
  lt_of_held hheld

/-- Only subscriptions of readers that have come are active. -/
lemma active_congr (h : r'.readers = r.readers) (j : Nat) : r'.Active j ↔ r.Active j := by
  rw [Active, held, h]
  rfl

/-- A subscription that changes without closing or opening leaves the others and itself active or
not. -/
lemma active_of_set_same (hheld : r.held i = some s) {s' : Subscription}
    (h : r'.readers = r.readers.set i (some s')) (hclosed : s'.closed = s.closed) (j : Nat) :
    r'.Active j ↔ r.Active j := by
  rw [active_of_set hheld h]
  by_cases hj : j = i
  · subst hj
    simp [Active, hheld, hclosed]
  · rw [if_neg hj]

/-- A subscription that is given up is no longer active, and all others are as before. -/
lemma active_of_set_closed (hheld : r.held i = some s) {x : Option Subscription}
    (h : r'.readers = r.readers.set i x) (hx : ∀ s' ∈ x, s'.closed = true) (j : Nat) :
    r'.Active j ↔ r.Active j ∧ j ≠ i := by
  rw [active_of_set hheld h]
  by_cases hj : j = i
  · have hnone : ¬∃ s' ∈ x, s'.closed = false := by
      rintro ⟨s', hs', hopen⟩
      rw [hx s' hs'] at hopen
      cases hopen
    rw [if_pos hj]
    exact iff_of_false hnone fun h => h.2 hj
  · rw [if_neg hj, and_iff_left hj]

/-- A subscription that was closed before disturbs nothing when it is given up. -/
lemma undisturbed_giveUp (hheld : r.held i = some s)
    (hclosed : s.closed = true) {x : Option Subscription}
    (hpartition : r'.partition = r.partition.dropSubscription s)
    (hreaders : r'.readers = r.readers.set i x) (hx : ∀ s' ∈ x, s'.closed = true) :
    Undisturbed r r' := by
  refine ⟨hpartition.trans (Partition.dropSubscription_of_closed hclosed), fun j => ?_⟩
  rw [active_of_set_closed hheld hreaders hx, and_iff_left_of_imp]
  rintro ⟨s', hs', hopen⟩ rfl
  rw [hheld] at hs'
  cases hs'
  rw [hclosed] at hopen
  cases hopen

/-- An attempt to subscribe to a partition that is claimed disturbs nothing. -/
lemma undisturbed_subscribe (h : r.partition.subscribed = true) :
    Undisturbed r (r.act .subscribe) := by
  obtain ⟨reason, hrefused⟩ := Partition.subscribe_of_subscribed h
  refine ⟨by rw [act, hrefused], fun j => ?_⟩
  rw [active_of_append (readers_subscribe r), hrefused]
  by_cases hj : j = r.readers.length
  · rw [if_pos hj, hj]
    refine iff_of_false ?_ fun hactive => hactive.lt.ne rfl
    rintro ⟨s', hs', -⟩
    cases hs'
  · rw [if_neg hj]

/-- An attempt to subscribe to a partition that is free makes an active subscription. -/
lemma active_subscribe (h : r.partition.subscribed = false) (j : Nat) :
    (r.act .subscribe).Active j ↔ j = r.readers.length ∨ r.Active j := by
  rw [active_of_append (readers_subscribe r), (Partition.subscribe_of_not_subscribed h).1]
  by_cases hj : j = r.readers.length
  · rw [if_pos hj]
    exact iff_of_true ⟨_, rfl, rfl⟩ (.inl hj)
  · rw [if_neg hj, or_iff_right hj]

end

/-- **A step of a readership, by what it means for the claim**: it stays where it is, a new reader
takes it while the partition is free, or a reader who has it gives it up. -/
inductive Shift (r r' : Readership) : Prop where
  | keep (subscribed : r'.partition.subscribed = r.partition.subscribed)
    (active : ∀ j, r'.Active j ↔ r.Active j)
  | take (free : r.partition.subscribed = false) (subscribed : r'.partition.subscribed = true)
    (active : ∀ j, r'.Active j ↔ j = r.readers.length ∨ r.Active j)
  | giveUp (i : Nat) (held : r.Active i) (subscribed : r'.partition.subscribed = false)
    (active : ∀ j, r'.Active j ↔ r.Active j ∧ j ≠ i)

/-- Asking for the next message leaves the claim. -/
lemma shift_read {r : Readership} {i : Nat} {s : Subscription} (hheld : r.held i = some s) :
    Shift r (r.read i s) := by
  have hclosed := Partition.closed_next (p := r.partition) (s := s)
  rw [read]
  cases hnext : r.partition.next s with
  | mk receipt s' =>
    rw [hnext] at hclosed
    cases receipt <;> exact .keep rfl (active_of_set_same hheld rfl hclosed)

/-- A subscription that is given up frees the partition if it was active, and otherwise leaves the
claim. -/
lemma shift_giveUp {r r' : Readership} {i : Nat} {s : Subscription} (hheld : r.held i = some s)
    {x : Option Subscription} (hpartition : r'.partition = r.partition.dropSubscription s)
    (hreaders : r'.readers = r.readers.set i x) (hx : ∀ s' ∈ x, s'.closed = true) :
    Shift r r' := by
  have hactive := active_of_set_closed hheld hreaders hx
  cases hclosed : s.closed with
  | false =>
    rw [Partition.dropSubscription_of_open hclosed] at hpartition
    exact .giveUp i ⟨s, hheld, hclosed⟩ (congrArg Partition.subscribed hpartition) hactive
  | true =>
    have same := undisturbed_giveUp hheld hclosed hpartition hreaders hx
    exact .keep (congrArg Partition.subscribed same.partition) same.active

/-- **Everything that can be done** keeps, takes or gives up the claim. -/
lemma shift_act (r : Readership) (a : Act) : Shift r (r.act a) := by
  have idle : Shift r r := .keep rfl fun _ => .rfl
  cases a with
  | publish payload => exact .keep rfl (active_congr rfl)
  | close => exact .keep rfl (active_congr rfl)
  | subscribe =>
    cases hfree : r.partition.subscribed with
    | true =>
      have same := undisturbed_subscribe hfree
      exact .keep (congrArg Partition.subscribed same.partition) same.active
    | false =>
      obtain ⟨-, hclaimed⟩ := Partition.subscribe_of_not_subscribed hfree
      exact .take hfree (congrArg Partition.subscribed hclaimed) (active_subscribe hfree)
  | next i => exact visit_cases idle fun s hheld => shift_read hheld
  | commit i offset =>
    exact visit_cases idle fun s _ => .keep (Partition.subscribed_commit offset) (active_congr rfl)
  | closeReader i =>
    exact visit_cases idle fun s hheld => shift_giveUp hheld rfl rfl (by simp)
  | dropReader i =>
    exact visit_cases idle fun s hheld => shift_giveUp hheld rfl rfl (by simp)

/-! ## The claim -/

/-- **The flag and the active subscription go together**, and there is one at most. -/
structure Claimed (r : Readership) : Prop where
  subscribed : r.partition.subscribed = true ↔ ∃ i, r.Active i
  sole : ∀ {i j}, r.Active i → r.Active j → i = j

namespace Claimed

variable {r r' : Readership}

/-- A partition that is free has no active subscription. -/
lemma not_active (h : r.Claimed) (free : r.partition.subscribed = false) (i : Nat) :
    ¬r.Active i := fun hi => by
  have := h.subscribed.mpr ⟨i, hi⟩
  rw [free] at this
  cases this

/-- A new partition is free. -/
lemma new (number : Int) : Claimed { partition := { number } } where
  subscribed := ⟨nofun, fun ⟨_, h⟩ => absurd h.lt (Nat.not_lt_zero _)⟩
  sole h := absurd h.lt (Nat.not_lt_zero _)

/-- **Every step keeps the flag and the active subscription together.** -/
lemma shift (h : r.Claimed) (shift : Shift r r') : r'.Claimed := by
  cases shift with
  | keep subscribed active =>
    refine ⟨?_, fun {i j} hi hj => h.sole ((active i).mp hi) ((active j).mp hj)⟩
    rw [subscribed, h.subscribed, exists_congr active]
  | take free subscribed active =>
    have new : ∀ {j}, r'.Active j → j = r.readers.length := fun {j} hj =>
      ((active j).mp hj).resolve_right (h.not_active free j)
    refine ⟨⟨fun _ => ⟨_, (active _).mpr (.inl rfl)⟩, fun _ => subscribed⟩, fun hi hj => ?_⟩
    rw [new hi, new hj]
  | giveUp i held subscribed active =>
    have none : ∀ j, ¬r'.Active j := fun j hj =>
      let ⟨hj, hne⟩ := (active j).mp hj
      hne (h.sole hj held)
    refine ⟨?_, fun {j _} hj => absurd hj (none j)⟩
    rw [subscribed]
    exact ⟨nofun, fun ⟨j, hj⟩ => absurd hj (none j)⟩

/-- So do several steps. -/
lemma foldl (h : r.Claimed) (later : List Act) : (later.foldl act r).Claimed := by
  induction later generalizing r with
  | nil => exact h
  | cons a later ih => exact ih (h.shift (r.shift_act a))

end Claimed

/-- **After any acts** the flag tells of the active subscription. -/
lemma claimed_after (number : Int) (acts : List Act) : (after number acts).Claimed :=
  (Claimed.new number).foldl acts

/-! ## Subscriptions that have been given up -/

section

variable {r : Readership} {i : Nat}

/-- A reader that has retired is not active. -/
lemma Retired.not_active (h : r.Retired i) : ¬r.Active i := fun ⟨s, hheld, hopen⟩ => by
  rw [h.2 s hheld] at hopen
  cases hopen

/-- Whatever is done, a reader that has retired does not come back. -/
lemma Retired.act (h : r.Retired i) (a : Act) : (r.act a).Retired i := by
  have hnot : ¬(r.act a).Active i := by
    cases r.shift_act a with
    | keep _ active =>
      rw [active]
      exact h.not_active
    | take _ _ active =>
      rw [active]
      exact not_or.mpr ⟨h.1.ne, h.not_active⟩
    | giveUp _ _ _ active =>
      rw [active]
      exact fun ⟨hactive, _⟩ => h.not_active hactive
  refine ⟨h.1.trans_le (r.step_act a).grows.readers, fun s hheld => ?_⟩
  by_contra hopen
  exact hnot ⟨s, hheld, Bool.eq_false_iff.mpr hopen⟩

lemma Retired.foldl (h : r.Retired i) (later : List Act) :
    (later.foldl Readership.act r).Retired i := by
  induction later generalizing r with
  | nil => exact h
  | cons a later ih => exact ih (h.act a)

/-- A reader retires when it gives its subscription up. -/
lemma retired_of_givesUp {a : Act} {s : Subscription} (hheld : r.held i = some s)
    (ha : a.GivesUp i) : (r.act a).Retired i := by
  have retired : ∀ {r' : Readership} {x : Option Subscription}, r'.readers = r.readers.set i x →
      (∀ s' ∈ x, s'.closed = true) → r'.Retired i := by
    intro r' x hreaders hx
    refine ⟨by simpa [hreaders] using lt_of_held hheld, fun s' hs' => ?_⟩
    rw [held_of_set hheld hreaders, if_pos rfl] at hs'
    exact hx s' hs'
  cases a with
  | closeReader j =>
    obtain rfl : j = i := ha
    rw [act, visit, hheld]
    exact retired rfl (by simp)
  | dropReader j =>
    obtain rfl : j = i := ha
    rw [act, visit, hheld]
    exact retired rfl (by simp)
  | _ => exact absurd ha id

/-- **A reader that has retired has nothing to give up**: the partition stays as it is, and with it
the claim of whoever has it now. -/
lemma Retired.givesUp (h : r.Retired i) {b : Act} (hb : b.GivesUp i) :
    Undisturbed r (r.act b) := by
  have idle : Undisturbed r r := ⟨rfl, fun _ => .rfl⟩
  cases b with
  | closeReader j =>
    obtain rfl : j = i := hb
    exact visit_cases idle fun s hheld =>
      undisturbed_giveUp hheld (h.2 s hheld) rfl rfl (by simp)
  | dropReader j =>
    obtain rfl : j = i := hb
    exact visit_cases idle fun s hheld =>
      undisturbed_giveUp hheld (h.2 s hheld) rfl rfl (by simp)
  | _ => exact absurd hb id

/-- An active subscription that is given up leaves the partition free and none active. -/
lemma Claimed.givesUp (h : r.Claimed) (hi : r.Active i) {a : Act} (ha : a.GivesUp i) :
    (r.act a).partition.subscribed = false ∧ ∀ j, ¬(r.act a).Active j := by
  obtain ⟨s, hheld, -⟩ := id hi
  have retired := retired_of_givesUp hheld ha
  cases r.shift_act a with
  | keep _ active => exact absurd ((active i).mpr hi) retired.not_active
  | take free _ _ => exact absurd hi (h.not_active free i)
  | giveUp k held subscribed active =>
    refine ⟨subscribed, fun j hj => ?_⟩
    obtain ⟨hactive, hne⟩ := (active j).mp hj
    exact hne (h.sole hactive held)

end

/-! ## The laws -/

/-- A partition keeps its number. -/
lemma number_act (r : Readership) (a : Act) : (r.act a).partition.number = r.partition.number := by
  have visited : ∀ (j : Nat) (f : Subscription → Readership),
      (∀ s, (f s).partition.number = r.partition.number) →
        (r.visit j f).partition.number = r.partition.number :=
    fun j f hf => visit_cases (motive := fun r' => r'.partition.number = r.partition.number) rfl
      fun s _ => hf s
  cases a with
  | publish payload => rfl
  | close => rfl
  | subscribe => exact Partition.number_subscribe
  | next j =>
    refine visited j _ fun s => ?_
    unfold read
    split <;> rfl
  | commit j offset => exact visited j _ fun _ => Partition.number_commit offset
  | closeReader j => exact visited j _ fun _ => Partition.number_dropSubscription
  | dropReader j => exact visited j _ fun _ => Partition.number_dropSubscription

lemma after_concat (number : Int) (acts : List Act) (a : Act) :
    after number (acts ++ [a]) = (after number acts).act a := after_append number acts [a]

lemma number_after (number : Int) (acts : List Act) :
    (after number acts).partition.number = number := by
  induction acts using List.reverseRecOn with
  | nil => rfl
  | append_singleton acts a ih => rw [after_concat, number_act, ih]

/-- **The laws of the active subscription** for a new partition after `acts`. -/
structure SoleSubscription (number : Int) (acts : List Act) : Prop where
  /-- There are never two active subscriptions. -/
  sole : ∀ {i j}, (after number acts).Active i → (after number acts).Active j → i = j
  /-- The partition is claimed exactly while there is one. -/
  claimed : (after number acts).partition.subscribed = true ↔ ∃! i, (after number acts).Active i
  /-- An attempt to subscribe fails exactly while there is one. -/
  fails : (∃ e, (after number acts).partition.subscribe.1 = .error e) ↔
    ∃ i, (after number acts).Active i
  /-- An attempt that fails names the partition and changes nothing. -/
  refused : ∀ {i}, (after number acts).Active i →
    (∃ reason, (after number acts).partition.subscribe =
      (.error (.subscribe number reason), (after number acts).partition, [])) ∧
    (after number acts).Undisturbed (after number (acts ++ [.subscribe]))
  /-- An attempt that succeeds makes the one that is active then. -/
  granted : (∀ i, ¬(after number acts).Active i) →
    ∀ j, (after number (acts ++ [.subscribe])).Active j ↔ j = (after number acts).readers.length
  /-- Once the active subscription is closed or dropped, the partition is free. -/
  released : ∀ {i a}, (after number acts).Active i → a.GivesUp i →
    (after number (acts ++ [a])).partition.subscribed = false ∧
      ∀ j, ¬(after number (acts ++ [a])).Active j
  /-- A subscription that was closed or dropped before takes no claim away by being closed or
  dropped once more. -/
  spent : ∀ {before later i s a b}, acts = before ++ a :: later →
    (after number before).held i = some s → a.GivesUp i → b.GivesUp i →
    (after number acts).Undisturbed (after number (acts ++ [b]))

/-- **The laws of the active subscription hold** after any acts on a partition and its
subscriptions.

**Proof sketch.** After any acts the flag tells of the active subscription (`claimed_after`),
because everything that can be done keeps, takes or gives up the claim (`shift_act`). A reader that
has given its subscription up has retired for good (`Retired.foldl`), and has nothing to give up a
second time (`Retired.givesUp`). -/
theorem soleSubscription (number : Int) (acts : List Act) : SoleSubscription number acts where
  sole := (claimed_after number acts).sole
  claimed := by
    have claimed := claimed_after number acts
    rw [claimed.subscribed]
    exact ⟨fun ⟨i, hi⟩ => ⟨i, hi, fun j hj => claimed.sole hj hi⟩, fun ⟨i, hi, _⟩ => ⟨i, hi⟩⟩
  fails := by
    rw [← (claimed_after number acts).subscribed]
    exact Partition.subscribe_eq_error
  refused := by
    intro i hi
    have hclaimed := (claimed_after number acts).subscribed.mpr ⟨i, hi⟩
    obtain ⟨reason, hrefused⟩ := Partition.subscribe_of_subscribed hclaimed
    rw [number_after] at hrefused
    refine ⟨⟨reason, hrefused⟩, ?_⟩
    rw [after_concat]
    exact undisturbed_subscribe hclaimed
  granted := by
    intro hnone j
    have hfree : (after number acts).partition.subscribed = false := by
      rw [Bool.eq_false_iff, ne_eq, (claimed_after number acts).subscribed]
      exact fun ⟨i, hi⟩ => hnone i hi
    rw [after_concat, active_subscribe hfree, or_iff_left (hnone j)]
  released := by
    intro i a hi ha
    rw [after_concat]
    exact (claimed_after number acts).givesUp hi ha
  spent := by
    rintro before later i s a b rfl hheld ha hb
    rw [after_concat]
    refine Retired.givesUp ?_ hb
    rw [after_append, List.foldl_cons]
    exact (retired_of_givesUp hheld ha).foldl later

end Readership

end PenaltySettlement
