import Mathlib.Data.List.Infix
import PenaltySettlement.Partition

/-!
# A partition and its readers

Payloads are published to a partition, which is closed at some time, and meanwhile subscriptions
are made, read, committed, closed and dropped in any order.

The invariant ties the counters together: below the position of a subscription, and below the place
where a new one would start, everything has been published and delivered (`Readership.Covers`).

## Main definitions

* `Readership` — a partition, its subscriptions and what they have delivered.
* `Readership.Act`, `Readership.act` — what can be done, and its effect.
* `Readership.Step` — a step, by what it means for offsets.
* `Readership.Grows`, `Readership.Sound` — what a step keeps.

## Main results

* `Readership.step_act` — everything that can be done is a step.
* `Readership.Step.grows`, `Readership.Sound.step` — a step only adds, and keeps a readership sound.
* `Readership.sound_after` — a readership is sound after any acts.
-/

set_option autoImplicit false

namespace PenaltySettlement

/-! ## Payloads with their offsets -/

namespace Message

/-- Payloads with their offsets. -/
def numbered (payloads : List (List UInt8)) : List Message := payloads.mapIdx mk

lemma getElem?_numbered (payloads : List (List UInt8)) (n : Nat) :
    (numbered payloads)[n]? = payloads[n]?.map (mk n) := List.getElem?_mapIdx

lemma mem_numbered {payloads : List (List UInt8)} {m : Message} :
    m ∈ numbered payloads ↔ payloads[m.offset]? = some m.payload := by
  rw [List.mem_iff_getElem?]
  simp only [getElem?_numbered, Option.map_eq_some_iff]
  constructor
  · rintro ⟨n, payload, hpayload, rfl⟩
    exact hpayload
  · intro h
    exact ⟨m.offset, m.payload, h, rfl⟩

lemma numbered_append (payloads more : List (List UInt8)) :
    numbered payloads <+: numbered (payloads ++ more) := by
  rw [numbered, numbered, List.mapIdx_append]
  exact List.prefix_append _ _

end Message

/-! ## The partition and one subscription -/

namespace Partition

variable {p : Partition} {s : Subscription}

/-- An open subscription gets the payload at its position, if there is one. -/
lemma next_of_open (hopen : s.closed = false) :
    p.next s =
      match p.messages.toList[s.position]? with
      | some payload => (.message ⟨s.position, payload⟩, { s with position := s.position + 1 })
      | none => (if p.closed then .ended else .pending, s) := by
  rw [Array.getElem?_toList]
  exact if_neg (by simp [hopen])

lemma next_of_closed (hclosed : s.closed = true) :
    p.next s = (.failed (.receive closedReason), s) := if_pos hclosed

/-- An offset is refused unless the subscription is open and stands behind the offset. -/
lemma commitRefusal_eq_none {offset : Nat} :
    commitRefusal s offset = none ↔ s.closed = false ∧ offset < s.position := by
  unfold commitRefusal
  cases s.closed with
  | true => simp
  | false => simp

/-- A commit that is accepted. -/
lemma commit_of_delivered {offset : Nat} (hopen : s.closed = false) (hlt : offset < s.position) :
    p.commit s offset =
      (.ok (), { p with committed := some (max offset (p.committed.getD 0)) }) := by
  rw [commit, commitRefusal_eq_none.mpr ⟨hopen, hlt⟩]

/-- A commit that is refused names the offset and changes nothing. -/
lemma commit_of_refused {offset : Nat} (h : ¬(s.closed = false ∧ offset < s.position)) :
    ∃ reason, p.commit s offset = (.error (.commit offset reason), p) := by
  obtain ⟨reason, hreason⟩ := Option.ne_none_iff_exists'.mp (mt commitRefusal_eq_none.mp h)
  exact ⟨reason, by rw [commit, hreason]⟩

@[simp]
lemma closed_commit (offset : Nat) : (p.commit s offset).2.closed = p.closed := by
  unfold commit
  split <;> rfl

@[simp]
lemma closed_subscribe : p.subscribe.2.1.closed = p.closed := by
  unfold subscribe
  split <;> rfl

@[simp]
lemma closed_dropSubscription : (p.dropSubscription s).closed = p.closed := by
  unfold dropSubscription
  split <;> rfl

@[simp]
lemma messages_dropSubscription : (p.dropSubscription s).messages = p.messages := by
  unfold dropSubscription
  split <;> rfl

@[simp]
lemma committed_dropSubscription : (p.dropSubscription s).committed = p.committed := by
  unfold dropSubscription
  split <;> rfl

@[simp]
lemma position_closeSubscription : (p.closeSubscription s).1.position = s.position := rfl

/-- The place to resume is behind what is committed. -/
lemma resumption_of_committed {offset : Nat} (h : p.committed = some offset) :
    p.resumption = offset + 1 := by
  rw [resumption, h]

lemma resumption_congr {q : Partition} (h : q.committed = p.committed) :
    q.resumption = p.resumption := by
  rw [resumption, h, resumption]

/-- A commit moves the place to resume behind the offset, but never back. -/
lemma resumption_commit (offset : Nat) :
    ({ p with committed := some (max offset (p.committed.getD 0)) } : Partition).resumption =
      max (offset + 1) p.resumption := by
  rw [resumption, resumption]
  cases p.committed with
  | none => simp
  | some committed => simp

end Partition

/-! ## Readers -/

/-- A message that a reader got. -/
structure Reading where
  reader : Nat
  message : Message
  deriving DecidableEq, Repr

/-- **A partition with its readers.** Every attempt to subscribe makes a reader, which has no
subscription if the attempt was refused or the subscription has been dropped. The messages that
were delivered are kept in their order. -/
structure Readership where
  partition : Partition
  readers : List (Option Subscription) := []
  delivered : List Reading := []

namespace Readership

/-- What can be done with a partition and its subscriptions. -/
inductive Act where
  | publish (payload : List UInt8)
  | close
  | subscribe
  | next (reader : Nat)
  | commit (reader : Nat) (offset : Nat)
  | closeReader (reader : Nat)
  | dropReader (reader : Nat)
  deriving DecidableEq, Repr

/-- The payload that an act publishes. -/
def Act.payload? : Act → Option (List UInt8)
  | .publish payload => some payload
  | _ => none

/-- The reader that an act needs. -/
def Act.reader? : Act → Option Nat
  | .publish _ | .close | .subscribe => none
  | .next reader | .commit reader _ | .closeReader reader | .dropReader reader => some reader

/-- An act that publishes nothing leaves payloads as they are. -/
lemma Act.payloads_of_none {a : Act} (h : a.payload? = none) (payloads : List (List UInt8)) :
    payloads ++ a.payload?.toList = payloads := by
  rw [h, Option.toList_none, List.append_nil]

/-- The payloads that acts publish. -/
def published (acts : List Act) : List (List UInt8) := acts.filterMap Act.payload?

/-- The subscription of a reader. -/
def held (r : Readership) (i : Nat) : Option Subscription := r.readers[i]?.join

/-- The messages that a reader got. -/
def received (r : Readership) (i : Nat) : List Message :=
  (r.delivered.filter (·.reader = i)).map Reading.message

/-- What a reader does with its subscription, if it has one. -/
def visit (r : Readership) (i : Nat) (f : Subscription → Readership) : Readership :=
  match r.held i with
  | some s => f s
  | none => r

/-- A reader asks for the next message, and keeps it. -/
def read (r : Readership) (i : Nat) (s : Subscription) : Readership :=
  match r.partition.next s with
  | (.message m, s) =>
    { r with readers := r.readers.set i (some s), delivered := r.delivered ++ [⟨i, m⟩] }
  | (_, s) => { r with readers := r.readers.set i (some s) }

/-- **The effect of an act.** -/
def act (r : Readership) : Act → Readership
  | .publish payload => { r with partition := r.partition.publish payload }
  | .close => { r with partition := r.partition.close }
  | .subscribe =>
    let (outcome, partition, _) := r.partition.subscribe
    { r with partition, readers := r.readers ++ [outcome.toOption] }
  | .next i => r.visit i (r.read i)
  | .commit i offset =>
    r.visit i fun s => { r with partition := (r.partition.commit s offset).2 }
  | .closeReader i =>
    r.visit i fun s =>
      let (s, partition, _) := r.partition.closeSubscription s
      { r with partition, readers := r.readers.set i (some s) }
  | .dropReader i =>
    r.visit i fun s =>
      { r with partition := r.partition.dropSubscription s, readers := r.readers.set i none }

/-- A new partition after acts, one after the other. -/
def after (number : Int) (acts : List Act) : Readership :=
  acts.foldl act { partition := { number } }

/-! ## Steps -/

section

variable {r r' : Readership}

/-- What holds of a readership, and of what a reader makes of it, holds after a visit. -/
lemma visit_cases {motive : Readership → Prop} {i : Nat} {f : Subscription → Readership}
    (absent : motive r) (present : ∀ s, r.held i = some s → motive (f s)) :
    motive (r.visit i f) := by
  rw [visit]
  cases hheld : r.held i with
  | none => exact absent
  | some s => exact present s hheld

/-- A reader with a subscription is one of the readers. -/
lemma lt_of_held {i : Nat} {s : Subscription} (h : r.held i = some s) : i < r.readers.length := by
  by_contra hge
  rw [held, List.getElem?_eq_none (by omega)] at h
  cases h

/-- The subscriptions after that of one reader has changed. -/
lemma held_of_set {i : Nat} {s : Subscription} (hheld : r.held i = some s)
    {x : Option Subscription} (h : r'.readers = r.readers.set i x) (j : Nat) :
    r'.held j = if j = i then x else r.held j := by
  have hlt : i < r.readers.length := lt_of_held hheld
  rw [held, h]
  by_cases hj : j = i
  · rw [hj, List.getElem?_set_self hlt, if_pos rfl]
    rfl
  · rw [List.getElem?_set_ne (Ne.symm hj), if_neg hj]
    rfl

/-- An attempt to subscribe makes a reader. -/
lemma readers_subscribe (r : Readership) :
    (r.act .subscribe).readers = r.readers ++ [r.partition.subscribe.1.toOption] := rfl

/-- The subscriptions after another reader has come. -/
lemma held_of_append {x : Option Subscription} (h : r'.readers = r.readers ++ [x]) (j : Nat) :
    r'.held j = if j = r.readers.length then x else r.held j := by
  rw [held, h]
  by_cases hj : j = r.readers.length
  · rw [hj, List.getElem?_concat_length, if_pos rfl]
    rfl
  · rw [if_neg hj, held]
    by_cases hlt : j < r.readers.length
    · rw [List.getElem?_append_left hlt]
    · rw [List.getElem?_eq_none (by simp; omega), List.getElem?_eq_none (by omega)]

end

/-- A subscription has been made. -/
def enroll (r : Readership) : Readership :=
  { r with
    partition := { r.partition with subscribed := true }
    readers := r.readers ++ [some { position := r.partition.resumption }] }

/-- The payload at its position has been delivered to a subscription. -/
def deliver (r : Readership) (i : Nat) (s : Subscription) (payload : List UInt8) : Readership :=
  { r with
    readers := r.readers.set i (some { s with position := s.position + 1 })
    delivered := r.delivered ++ [⟨i, s.position, payload⟩] }

/-- An offset has been committed. -/
def settle (r : Readership) (offset : Nat) : Readership :=
  { r with
    partition :=
      { r.partition with committed := some (max offset (r.partition.committed.getD 0)) } }

/-- **A step of a readership, by what it means for offsets**: a payload is added, a subscription is
made, a message is delivered, an offset is committed, or there is at most a subscription less. -/
inductive Step (r : Readership) : Act → Readership → Prop where
  | publish (payload : List UInt8) :
    Step r (.publish payload) { r with partition := r.partition.publish payload }
  | enroll : Step r .subscribe r.enroll
  | deliver {i : Nat} {s : Subscription} {payload : List UInt8} (hheld : r.held i = some s)
    (hpayload : r.partition.messages.toList[s.position]? = some payload) :
    Step r (.next i) (r.deliver i s payload)
  | settle {i offset : Nat} {s : Subscription} (hheld : r.held i = some s)
    (hlt : offset < s.position) : Step r (.commit i offset) (r.settle offset)
  | other {a : Act} {r' : Readership} (hnone : a.payload? = none)
    (messages : r'.partition.messages = r.partition.messages)
    (committed : r'.partition.committed = r.partition.committed)
    (delivered : r'.delivered = r.delivered)
    (readers : r.readers.length ≤ r'.readers.length)
    (kept : ∀ {i s'}, r'.held i = some s' → ∃ s, r.held i = some s ∧ s'.position = s.position) :
    Step r a r'

/-- Nothing has happened. -/
lemma Step.idle {r : Readership} {a : Act} (hnone : a.payload? = none) : Step r a r :=
  .other hnone rfl rfl rfl le_rfl fun {_ s'} h => ⟨s', h, rfl⟩

/-- A reader that has a subscription in the same position, or none now. -/
lemma Step.resign {r r' : Readership} {a : Act} {i : Nat} {s : Subscription}
    {x : Option Subscription} (hnone : a.payload? = none) (hheld : r.held i = some s)
    (messages : r'.partition.messages = r.partition.messages)
    (committed : r'.partition.committed = r.partition.committed)
    (delivered : r'.delivered = r.delivered) (readers : r'.readers = r.readers.set i x)
    (hx : ∀ s' ∈ x, s'.position = s.position) : Step r a r' := by
  refine .other hnone messages committed delivered (by simp [readers]) fun {j s'} h => ?_
  rw [held_of_set hheld readers] at h
  by_cases hj : j = i
  · rw [if_pos hj] at h
    exact ⟨s, hj ▸ hheld, hx s' h⟩
  · rw [if_neg hj] at h
    exact ⟨s', h, rfl⟩

/-- Asking for the next message is a step. -/
lemma step_read {r : Readership} {i : Nat} {s : Subscription} (hheld : r.held i = some s) :
    Step r (.next i) (r.read i s) := by
  have unread : Step r (.next i) { r with readers := r.readers.set i (some s) } :=
    .resign rfl hheld rfl rfl rfl rfl (by simp)
  cases hclosed : s.closed with
  | true =>
    rw [read, Partition.next_of_closed hclosed]
    exact unread
  | false =>
    rw [read, Partition.next_of_open hclosed]
    cases hpayload : r.partition.messages.toList[s.position]? with
    | some payload => exact .deliver hheld hpayload
    | none =>
      cases r.partition.closed with
      | true => exact unread
      | false => exact unread

/-- **Everything that can be done is a step.** -/
lemma step_act (r : Readership) (a : Act) : Step r a (r.act a) := by
  cases a with
  | publish payload => exact .publish payload
  | close => exact .other rfl rfl rfl rfl le_rfl fun {_ s'} h => ⟨s', h, rfl⟩
  | subscribe =>
    rw [act, Partition.subscribe]
    cases r.partition.subscribed with
    | false => exact .enroll
    | true =>
      refine .other rfl rfl rfl rfl (by simp) fun {i s'} h => ?_
      rw [held_of_append rfl] at h
      by_cases hi : i = r.readers.length
      · rw [if_pos hi] at h
        cases h
      · rw [if_neg hi] at h
        exact ⟨s', h, rfl⟩
  | next i => exact visit_cases (.idle rfl) fun s hheld => step_read hheld
  | commit i offset =>
    refine visit_cases (.idle rfl) fun s hheld => ?_
    by_cases h : s.closed = false ∧ offset < s.position
    · rw [Partition.commit_of_delivered h.1 h.2]
      exact .settle hheld h.2
    · obtain ⟨reason, hrefused⟩ := Partition.commit_of_refused (p := r.partition) h
      rw [hrefused]
      exact .idle rfl
  | closeReader i =>
    refine visit_cases (.idle rfl) fun s hheld => ?_
    exact .resign rfl hheld Partition.messages_dropSubscription
      Partition.committed_dropSubscription rfl rfl (by simp)
  | dropReader i =>
    refine visit_cases (.idle rfl) fun s hheld => ?_
    exact .resign rfl hheld Partition.messages_dropSubscription
      Partition.committed_dropSubscription rfl rfl (by simp)

/-! ## What holds of all subscriptions -/

/-- Some subscription delivered the payload at an offset. -/
def Delivered (r : Readership) (offset : Nat) : Prop :=
  ∃ reading ∈ r.delivered, reading.message.offset = offset

/-- Everything below a position has been published and delivered. -/
def Covers (r : Readership) (position : Nat) : Prop :=
  position ≤ r.partition.size ∧ ∀ n < position, r.Delivered n

/-- **A readership that only grows**: nothing that was published, delivered or committed is taken
back. -/
structure Grows (r r' : Readership) : Prop where
  size : r.partition.size ≤ r'.partition.size
  resumption : r.partition.resumption ≤ r'.partition.resumption
  readers : r.readers.length ≤ r'.readers.length
  delivered : r.delivered <+: r'.delivered

section

variable {r r' : Readership}

@[refl]
lemma Grows.refl (r : Readership) : r.Grows r := ⟨le_rfl, le_rfl, le_rfl, List.prefix_rfl⟩

lemma Grows.trans {r'' : Readership} (first : r.Grows r') (rest : r'.Grows r'') : r.Grows r'' where
  size := first.size.trans rest.size
  resumption := first.resumption.trans rest.resumption
  readers := first.readers.trans rest.readers
  delivered := first.delivered.trans rest.delivered

/-- Every step lets a readership grow. -/
lemma Step.grows {a : Act} (step : Step r a r') : r.Grows r' := by
  cases step with
  | publish payload =>
    exact ⟨by simp [Partition.size, Partition.publish], le_rfl, le_rfl, List.prefix_rfl⟩
  | enroll => exact ⟨le_rfl, le_rfl, by simp [Readership.enroll], List.prefix_rfl⟩
  | deliver _ _ => exact ⟨le_rfl, le_rfl, by simp [Readership.deliver], List.prefix_append _ _⟩
  | settle _ _ =>
    refine ⟨le_rfl, ?_, le_rfl, List.prefix_rfl⟩
    rw [Readership.settle, Partition.resumption_commit]
    exact Nat.le_max_right _ _
  | other _ messages committed delivered readers _ =>
    refine ⟨(congrArg Array.size messages).ge, ?_, readers, delivered ▸ List.prefix_rfl⟩
    rw [Partition.resumption_congr committed]

lemma Covers.grows {position : Nat} (h : r.Covers position) (grows : r.Grows r') :
    r'.Covers position := by
  refine ⟨h.1.trans grows.size, fun n hn => ?_⟩
  obtain ⟨reading, hmem, hoffset⟩ := h.2 n hn
  exact ⟨reading, grows.delivered.subset hmem, hoffset⟩

lemma Covers.of_le {position other : Nat} (h : r.Covers position) (hle : other ≤ position) :
    r.Covers other :=
  ⟨hle.trans h.1, fun n hn => h.2 n (hn.trans_le hle)⟩

end

/-- **What holds of a readership** to which `payloads` have been published. -/
structure Sound (payloads : List (List UInt8)) (r : Readership) : Prop where
  messages : r.partition.messages.toList = payloads
  resumption : r.Covers r.partition.resumption
  position : ∀ {i s}, r.held i = some s → r.Covers s.position
  known : ∀ reading ∈ r.delivered, reading.reader < r.readers.length
  genuine : ∀ reading ∈ r.delivered, reading.message ∈ Message.numbered payloads

namespace Sound

variable {payloads : List (List UInt8)} {r r' : Readership}

lemma size (h : r.Sound payloads) : r.partition.size = payloads.length := by
  rw [← h.messages, Array.length_toList, Partition.size]

lemma new (number : Int) : Sound [] { partition := { number } } where
  messages := rfl
  resumption := ⟨Nat.zero_le _, fun _ hn => absurd hn (Nat.not_lt_zero _)⟩
  position h := by simp [held] at h
  known _ h := by simp at h
  genuine _ h := by simp at h

/-- A new subscription starts where the last one would resume. -/
lemma enroll (h : r.Sound payloads) : r.enroll.Sound payloads := by
  have grows : r.Grows r.enroll := Step.enroll.grows
  refine ⟨h.messages, h.resumption.grows grows, fun {j s'} hheld => ?_, ?_, h.genuine⟩
  · rw [held_of_append rfl] at hheld
    by_cases hj : j = r.readers.length
    · rw [if_pos hj] at hheld
      cases hheld
      exact h.resumption.grows grows
    · rw [if_neg hj] at hheld
      exact (h.position hheld).grows grows
  · intro reading hmem
    exact (h.known reading hmem).trans_le grows.readers

section

variable {i : Nat} {s : Subscription} {payload : List UInt8} (h : r.Sound payloads)
  (hheld : r.held i = some s)

include h hheld

/-- A message that is delivered covers one more place. -/
lemma covers_deliver (hpayload : r.partition.messages.toList[s.position]? = some payload) :
    (r.deliver i s payload).Covers (s.position + 1) := by
  have grows : r.Grows (r.deliver i s payload) := (Step.deliver hheld hpayload).grows
  have covers := (h.position hheld).grows grows
  obtain ⟨hlt, -⟩ := List.getElem?_eq_some_iff.mp hpayload
  rw [Array.length_toList] at hlt
  refine ⟨hlt, fun n hn => ?_⟩
  by_cases hlast : n = s.position
  · exact ⟨⟨i, s.position, payload⟩, List.mem_append_right _ List.mem_cons_self, hlast.symm⟩
  · exact covers.2 n (by omega)

/-- The reader has then covered what its subscription has behind it, and the message is the one
that was published. -/
lemma deliver (hpayload : r.partition.messages.toList[s.position]? = some payload) :
    (r.deliver i s payload).Sound payloads := by
  have grows : r.Grows (r.deliver i s payload) := (Step.deliver hheld hpayload).grows
  have split : ∀ reading ∈ (r.deliver i s payload).delivered,
      reading ∈ r.delivered ∨ reading = ⟨i, s.position, payload⟩ := fun reading hmem =>
    (List.mem_append.mp hmem).imp_right List.mem_singleton.mp
  refine ⟨h.messages, h.resumption.grows grows, fun {j s'} hheld' => ?_, ?_, ?_⟩
  · rw [held_of_set hheld rfl] at hheld'
    by_cases hj : j = i
    · rw [if_pos hj] at hheld'
      cases hheld'
      exact h.covers_deliver hheld hpayload
    · rw [if_neg hj] at hheld'
      exact (h.position hheld').grows grows
  · intro reading hmem
    rcases split reading hmem with hold | rfl
    · exact (h.known reading hold).trans_le grows.readers
    · exact (lt_of_held hheld).trans_le grows.readers
  · intro reading hmem
    rcases split reading hmem with hold | rfl
    · exact h.genuine reading hold
    · rw [Message.mem_numbered, ← h.messages]
      exact hpayload

/-- A commit moves the place to resume to one that its reader has covered, or leaves it. -/
lemma settle {offset : Nat} (hlt : offset < s.position) : (r.settle offset).Sound payloads := by
  have grows : r.Grows (r.settle offset) := (Step.settle hheld hlt).grows
  have reached : (r.settle offset).Covers (offset + 1) :=
    ((h.position hheld).of_le hlt).grows grows
  have resumed : (r.settle offset).Covers r.partition.resumption := h.resumption.grows grows
  refine ⟨h.messages, ?_, fun hheld' => (h.position hheld').grows grows, h.known, h.genuine⟩
  rw [Readership.settle, Partition.resumption_commit]
  rcases Nat.le_total (offset + 1) r.partition.resumption with hle | hle
  · rw [Nat.max_eq_right hle]
    exact resumed
  · rw [Nat.max_eq_left hle]
    exact reached

end

/-- **Every step keeps a readership sound.**

**Proof sketch.** What was covered stays covered, because a step lets the readership grow. What a
step adds is covered, too: at the start of a subscription (`Sound.enroll`), behind a message that is
delivered (`Sound.deliver`) and behind an offset that is committed (`Sound.settle`). -/
lemma step {a : Act} (h : r.Sound payloads) (step : Step r a r') :
    r'.Sound (payloads ++ a.payload?.toList) := by
  have grows := step.grows
  cases step with
  | publish payload =>
    refine ⟨?_, h.resumption.grows grows, fun hheld => (h.position hheld).grows grows, h.known, ?_⟩
    · simp [Partition.publish, Act.payload?, h.messages]
    · intro reading hmem
      exact (Message.numbered_append _ _).subset (h.genuine reading hmem)
  | enroll =>
    rw [Act.payloads_of_none rfl]
    exact h.enroll
  | deliver hheld hpayload =>
    rw [Act.payloads_of_none rfl]
    exact h.deliver hheld hpayload
  | settle hheld hlt =>
    rw [Act.payloads_of_none rfl]
    exact h.settle hheld hlt
  | other hnone messages committed delivered readers kept =>
    rw [Act.payloads_of_none hnone]
    refine ⟨messages ▸ h.messages, ?_, fun hheld => ?_, ?_, delivered ▸ h.genuine⟩
    · rw [Partition.resumption_congr committed]
      exact h.resumption.grows grows
    · obtain ⟨s, hold, hposition⟩ := kept hheld
      rw [hposition]
      exact (h.position hold).grows grows
    · intro reading hmem
      rw [delivered] at hmem
      exact (h.known reading hmem).trans_le readers

end Sound

/-! ## Runs -/

section

variable {payloads : List (List UInt8)} {r : Readership}

lemma published_append (acts later : List Act) :
    published (acts ++ later) = published acts ++ published later := List.filterMap_append

lemma published_singleton (a : Act) : published [a] = a.payload?.toList := by
  rw [published, List.filterMap_cons]
  cases a.payload? <;> rfl

lemma after_append (number : Int) (acts later : List Act) :
    after number (acts ++ later) = later.foldl act (after number acts) := List.foldl_append

/-- A readership only grows. -/
lemma grows_foldl (r : Readership) (later : List Act) : r.Grows (later.foldl act r) := by
  induction later generalizing r with
  | nil => exact .refl r
  | cons a later ih => exact (r.step_act a).grows.trans (ih (r.act a))

/-- A readership stays sound. -/
lemma Sound.foldl (h : r.Sound payloads) (later : List Act) :
    (later.foldl act r).Sound (payloads ++ published later) := by
  induction later generalizing r payloads with
  | nil => simpa [published] using h
  | cons a later ih =>
    have hrest := ih (h.step (r.step_act a))
    rwa [List.append_assoc, ← published_singleton, ← published_append] at hrest

/-- **A readership is sound** after any acts. -/
lemma sound_after (number : Int) (acts : List Act) : (after number acts).Sound (published acts) :=
  (Sound.new number).foldl acts

end

end Readership

end PenaltySettlement
