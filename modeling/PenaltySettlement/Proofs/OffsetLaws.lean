import PenaltySettlement.Proofs.Readership

/-!
# The laws of offsets

The offset of a payload is its place among all that were published. A subscription delivers what
lies behind the last commit before it was made, in order, without gap and without repetition; it
waits only at the end of a partition that is open, and misses nothing that happens then. What is
committed never goes back, and everything up to it has been delivered.

## Main definitions

* `Readership.Follows` — what holds of one subscription.
* `Readership.awaited` — what a subscription that waits is told.
* `Readership.OffsetLaws` — the laws.

## Main results

* `Readership.Follows.step` — every step lets a reader follow.
* `Readership.Sound.next_cases`, `Readership.Sound.next_awaited` — what a subscription is told.
* `Readership.offsetLaws` — the laws hold after any sequence of acts.
-/

set_option autoImplicit false

namespace PenaltySettlement

/-! ## Reading and committing -/

namespace Partition

variable {p : Partition} {s : Subscription}

/-- A subscription that has something before it gets the next payload. -/
lemma next_of_lt (hopen : s.closed = false) (hlt : s.position < p.size) :
    ∃ payload, p.messages.toList[s.position]? = some payload ∧
      p.next s = (.message ⟨s.position, payload⟩, { s with position := s.position + 1 }) := by
  have hlength : s.position < p.messages.toList.length := by
    rw [Array.length_toList]
    exact hlt
  have hpayload := List.getElem?_eq_getElem hlength
  exact ⟨_, hpayload, by rw [next_of_open hopen, hpayload]⟩

/-- A subscription that has nothing before it learns whether the partition is closed. -/
lemma next_of_ge (hopen : s.closed = false) (hge : p.size ≤ s.position) :
    p.next s = (if p.closed then .ended else .pending, s) := by
  have hlength : p.messages.toList.length ≤ s.position := by
    rw [Array.length_toList]
    exact hge
  rw [next_of_open hopen, List.getElem?_eq_none hlength]

/-- A commit is accepted from an open subscription that stands behind the offset. -/
lemma commit_eq_ok {offset : Nat} :
    (p.commit s offset).1 = .ok () ↔ s.closed = false ∧ offset < s.position := by
  constructor
  · intro h
    by_contra hrefused
    obtain ⟨reason, hreason⟩ := commit_of_refused (p := p) hrefused
    rw [hreason] at h
    cases h
  · rintro ⟨hopen, hlt⟩
    rw [commit_of_delivered hopen hlt]

end Partition

namespace Readership

/-! ## What holds of one subscription -/

/-- **A reader that leaves nothing out**: it got what was published from `origin` on, as far as it
has come, and its subscription stands behind that. -/
structure Follows (i origin : Nat) (payloads : List (List UInt8)) (r : Readership) : Prop where
  known : i < r.readers.length
  received : r.received i <+: (Message.numbered payloads).drop origin
  position : ∀ {s}, r.held i = some s → s.position = origin + (r.received i).length

/-- What readers got once a message has been delivered. -/
lemma received_deliver (r : Readership) (i j : Nat) (s : Subscription) (payload : List UInt8) :
    (r.deliver i s payload).received j =
      if j = i then r.received j ++ [⟨s.position, payload⟩] else r.received j := by
  rw [received, deliver, List.filter_append, List.map_append]
  by_cases hj : j = i
  · simp [hj, received]
  · simp [hj, Ne.symm hj, received]

lemma received_congr {r r' : Readership} (h : r'.delivered = r.delivered) (i : Nat) :
    r'.received i = r.received i := by
  rw [received, h, received]

namespace Follows

variable {i origin : Nat} {payloads : List (List UInt8)} {r r' : Readership}

/-- A reader that has just come follows from the place to resume. -/
lemma subscribe (h : r.Sound payloads) :
    Follows r.readers.length r.partition.resumption payloads (r.act .subscribe) := by
  have fresh : (r.act .subscribe).received r.readers.length = [] := by
    rw [Readership.received, List.map_eq_nil_iff, List.filter_eq_nil_iff]
    intro reading hmem
    have hlt := h.known reading hmem
    simp only [decide_eq_true_eq]
    omega
  refine ⟨by simp [act], fresh ▸ List.nil_prefix, fun {s} hheld => ?_⟩
  rw [held_of_append (readers_subscribe r), if_pos rfl, Partition.subscribe] at hheld
  rw [fresh, List.length_nil, Nat.add_zero]
  cases hsubscribed : r.partition.subscribed with
  | true =>
    rw [hsubscribed] at hheld
    cases hheld
  | false =>
    rw [hsubscribed] at hheld
    cases hheld
    rfl

/-- The message at its position is the next one for a reader. -/
lemma received_next {s : Subscription} {payload : List UInt8} (h : Follows i origin payloads r)
    (sound : r.Sound payloads) (hheld : r.held i = some s)
    (hpayload : r.partition.messages.toList[s.position]? = some payload) :
    r.received i ++ [⟨s.position, payload⟩] <+: (Message.numbered payloads).drop origin := by
  have hnext : ((Message.numbered payloads).drop origin)[(r.received i).length]? =
      some ⟨s.position, payload⟩ := by
    rw [List.getElem?_drop, ← h.position hheld, Message.getElem?_numbered, ← sound.messages,
      hpayload]
    rfl
  obtain ⟨hlt, hget⟩ := List.getElem?_eq_some_iff.mp hnext
  rw [← hget]
  exact List.concat_get_prefix h.received hlt

/-- A reader follows whether the next message is for itself or for another one. -/
lemma deliver {j : Nat} {s : Subscription} {payload : List UInt8} (h : Follows i origin payloads r)
    (sound : r.Sound payloads) (hheld : r.held j = some s)
    (hpayload : r.partition.messages.toList[s.position]? = some payload) :
    Follows i origin payloads (r.deliver j s payload) := by
  have known := h.known.trans_le (Step.deliver hheld hpayload).grows.readers
  by_cases hi : i = j
  · subst hi
    refine ⟨known, ?_, fun {s'} hheld' => ?_⟩
    · rw [received_deliver, if_pos rfl]
      exact h.received_next sound hheld hpayload
    · rw [held_of_set hheld rfl, if_pos rfl] at hheld'
      cases hheld'
      rw [received_deliver, if_pos rfl, List.length_append, List.length_singleton,
        ← Nat.add_assoc, ← h.position hheld]
  · refine ⟨known, ?_, fun {s'} hheld' => ?_⟩
    · rw [received_deliver, if_neg hi]
      exact h.received
    · rw [held_of_set hheld rfl, if_neg hi] at hheld'
      rw [received_deliver, if_neg hi]
      exact h.position hheld'

/-- **Every step lets a reader follow.** -/
lemma step {a : Act} (h : Follows i origin payloads r) (sound : r.Sound payloads)
    (step : Step r a r') : Follows i origin (payloads ++ a.payload?.toList) r' := by
  have known : i < r'.readers.length := h.known.trans_le step.grows.readers
  cases step with
  | publish payload =>
    refine ⟨known, h.received.trans ?_, h.position⟩
    exact (Message.numbered_append _ _).drop origin
  | enroll =>
    rw [Act.payloads_of_none rfl]
    refine ⟨known, h.received, fun hheld => ?_⟩
    rw [held_of_append rfl, if_neg h.known.ne] at hheld
    exact h.position hheld
  | deliver hheld hpayload =>
    rw [Act.payloads_of_none rfl]
    exact h.deliver sound hheld hpayload
  | settle hheld hlt =>
    rw [Act.payloads_of_none rfl]
    exact ⟨known, h.received, h.position⟩
  | other hnone messages committed delivered readers kept =>
    rw [Act.payloads_of_none hnone]
    have hreceived := received_congr delivered i
    refine ⟨known, hreceived ▸ h.received, fun {s'} hheld => ?_⟩
    obtain ⟨s, hold, hposition⟩ := kept hheld
    rw [hposition, hreceived]
    exact h.position hold

end Follows

/-- A reader goes on following. -/
lemma Follows.foldl {i origin : Nat} {payloads : List (List UInt8)} {r : Readership}
    (h : Follows i origin payloads r) (sound : r.Sound payloads) (later : List Act) :
    Follows i origin (payloads ++ published later) (later.foldl act r) := by
  induction later generalizing r payloads with
  | nil => simpa [published] using h
  | cons a later ih =>
    have step := r.step_act a
    have hrest := ih (h.step sound step) (sound.step step)
    rwa [List.append_assoc, ← published_singleton, ← published_append] at hrest

/-! ## Waiting -/

section

variable {r : Readership} {i : Nat}

/-- Reading leaves the partition alone. -/
@[simp]
lemma partition_read (s : Subscription) : (r.read i s).partition = r.partition := by
  unfold read
  split <;> rfl

/-- Only a close closes the partition. -/
lemma closed_act (r : Readership) (a : Act) :
    (r.act a).partition.closed = true ↔ r.partition.closed = true ∨ a = .close := by
  have visited : ∀ (j : Nat) (f : Subscription → Readership),
      (∀ s, (f s).partition.closed = r.partition.closed) →
        (r.visit j f).partition.closed = r.partition.closed :=
    fun j f hf => visit_cases (motive := fun r' => r'.partition.closed = r.partition.closed) rfl
      fun s _ => hf s
  cases a with
  | publish payload => simp [act, Partition.publish]
  | close => simp [act, Partition.close]
  | subscribe => simp [act]
  | next j => simp [act, visited]
  | commit j offset => simp [act, visited]
  | closeReader j => simp [act, visited, Partition.closeSubscription]
  | dropReader j => simp [act, visited]

lemma closed_foldl (r : Readership) (later : List Act) :
    (later.foldl act r).partition.closed = true ↔
      r.partition.closed = true ∨ .close ∈ later := by
  induction later generalizing r with
  | nil => simp
  | cons a later ih =>
    rw [List.foldl_cons, ih, closed_act, List.mem_cons, or_assoc, eq_comm (a := a)]

/-- A partition is closed once it has been closed. -/
lemma closed_after (number : Int) (acts : List Act) :
    (after number acts).partition.closed = true ↔ .close ∈ acts := by
  rw [after, closed_foldl]
  simp

/-- Asking for the next message changes the subscription of the reader only. -/
lemma readers_read (r : Readership) (i : Nat) (s : Subscription) :
    ∃ x, (r.read i s).readers = r.readers.set i x := by
  unfold read
  split
  · exact ⟨_, rfl⟩
  · exact ⟨_, rfl⟩

/-- A reader keeps its subscription as long as nothing is done with it. -/
lemma held_act {a : Act} {s : Subscription} (hheld : r.held i = some s) (ha : a.reader? ≠ some i) :
    (r.act a).held i = some s := by
  have elsewhere : ∀ {j s' x} {r' : Readership}, j ≠ i → r.held j = some s' →
      r'.readers = r.readers.set j x → r'.held i = some s := by
    intro j s' x r' hne hheld' hreaders
    rw [held_of_set hheld' hreaders, if_neg hne.symm]
    exact hheld
  have hne : ∀ {j}, a.reader? = some j → j ≠ i := fun hj heq => ha (heq ▸ hj)
  cases a with
  | publish payload => exact hheld
  | close => exact hheld
  | subscribe =>
    rw [held_of_append (readers_subscribe r), if_neg (lt_of_held hheld).ne]
    exact hheld
  | next j =>
    refine visit_cases (motive := (held · i = some s)) hheld fun s' hheld' => ?_
    obtain ⟨x, hx⟩ := r.readers_read j s'
    exact elsewhere (hne rfl) hheld' hx
  | commit j offset => exact visit_cases (motive := (held · i = some s)) hheld fun _ _ => hheld
  | closeReader j =>
    exact visit_cases (motive := (held · i = some s)) hheld fun s' hheld' =>
      elsewhere (hne rfl) hheld' rfl
  | dropReader j =>
    exact visit_cases (motive := (held · i = some s)) hheld fun s' hheld' =>
      elsewhere (hne rfl) hheld' rfl

lemma held_foldl {later : List Act} {s : Subscription} (hheld : r.held i = some s)
    (apart : ∀ a ∈ later, a.reader? ≠ some i) : (later.foldl act r).held i = some s := by
  induction later generalizing r with
  | nil => exact hheld
  | cons a later ih =>
    have hfirst := held_act hheld (apart a List.mem_cons_self)
    exact ih hfirst fun b hb => apart b (List.mem_cons_of_mem a hb)

end

/-- What a subscription that waits at a position is told when the read goes on after `later`: the
first payload that was published meanwhile, or else the end if the partition was closed. -/
def awaited (position : Nat) (later : List Act) : Receipt :=
  match published later with
  | payload :: _ => .message ⟨position, payload⟩
  | [] => if .close ∈ later then .ended else .pending

section

variable {payloads : List (List UInt8)} {r : Readership} {i : Nat} {s : Subscription}
  (h : r.Sound payloads) (hheld : r.held i = some s) (hopen : s.closed = false)

include h hheld hopen

/-- What an open subscription is told: the next payload, or that there is none. -/
lemma Sound.next_cases :
    (∃ payload, s.position < payloads.length ∧ payloads[s.position]? = some payload ∧
      r.partition.next s =
        (.message ⟨s.position, payload⟩, { s with position := s.position + 1 })) ∨
    (s.position = payloads.length ∧
      r.partition.next s = (if r.partition.closed then .ended else .pending, s)) := by
  have hle : s.position ≤ r.partition.size := (h.position hheld).1
  rcases Nat.lt_or_ge s.position r.partition.size with hlt | hge
  · obtain ⟨payload, hpayload, hnext⟩ := Partition.next_of_lt hopen hlt
    rw [h.messages] at hpayload
    exact .inl ⟨payload, h.size ▸ hlt, hpayload, hnext⟩
  · exact .inr ⟨h.size ▸ Nat.le_antisymm hle hge, Partition.next_of_ge hopen hge⟩

/-- An open subscription sees the end only behind the last payload of a closed partition. -/
lemma Sound.next_eq_ended :
    (r.partition.next s).1 = .ended ↔
      r.partition.closed = true ∧ s.position = payloads.length := by
  rcases h.next_cases hheld hopen with ⟨payload, hlt, -, hnext⟩ | ⟨hend, hnext⟩
  · rw [hnext]
    exact ⟨nofun, fun ⟨_, hend⟩ => absurd hend hlt.ne⟩
  · rw [hnext]
    cases r.partition.closed with
    | true => exact ⟨fun _ => ⟨rfl, hend⟩, fun _ => rfl⟩
    | false => exact ⟨nofun, nofun⟩

/-- An open subscription waits only behind the last payload of an open partition. -/
lemma Sound.next_eq_pending :
    (r.partition.next s).1 = .pending ↔
      ¬r.partition.closed = true ∧ s.position = payloads.length := by
  rcases h.next_cases hheld hopen with ⟨payload, hlt, -, hnext⟩ | ⟨hend, hnext⟩
  · rw [hnext]
    exact ⟨nofun, fun ⟨_, hend⟩ => absurd hend hlt.ne⟩
  · rw [hnext]
    cases r.partition.closed with
    | true => exact ⟨nofun, fun ⟨hclosed, _⟩ => absurd rfl hclosed⟩
    | false => exact ⟨fun _ => ⟨nofun, hend⟩, fun _ => rfl⟩

/-- **A subscription that waits** is told what happens first.

**Proof sketch.** It waits at the end of what had been published, so the first payload published
since is the one at its position. If there is none, it is still at the end, and the partition is
closed only if it has been closed since. -/
lemma Sound.next_awaited (hpending : (r.partition.next s).1 = .pending) {later : List Act}
    (apart : ∀ a ∈ later, a.reader? ≠ some i) :
    ((later.foldl act r).partition.next s).1 = awaited s.position later := by
  obtain ⟨hunclosed, hposition⟩ := (h.next_eq_pending hheld hopen).mp hpending
  have hclosed : (later.foldl act r).partition.closed = true ↔ .close ∈ later := by
    rw [closed_foldl, or_iff_right hunclosed]
  have hheld' := held_foldl hheld apart
  rcases (h.foldl later).next_cases hheld' hopen with
    ⟨payload, -, hpayload, hnext⟩ | ⟨hend, hnext⟩
  · rw [hposition, List.getElem?_append_right le_rfl, Nat.sub_self] at hpayload
    rw [hnext, awaited]
    cases hpublished : published later with
    | nil =>
      rw [hpublished] at hpayload
      cases hpayload
    | cons first rest =>
      rw [hpublished] at hpayload
      cases hpayload
      rfl
  · have hnone : published later = [] := by
      rw [List.length_append] at hend
      exact List.length_eq_zero_iff.mp (by omega)
    rw [hnext, awaited, hnone]
    simp only [hclosed]

end

/-! ## The laws -/

/-- **The laws of offsets** for a new partition after `acts`. -/
structure OffsetLaws (number : Int) (acts : List Act) : Prop where
  /-- The payloads are kept in the order in which they were published, so the `n`-th has offset
  `n`. -/
  messages : (after number acts).partition.messages.toList = published acts
  /-- The offset that a payload gets when it is published is its place for good. -/
  offset : ∀ {before later payload}, acts = before ++ .publish payload :: later →
    (published acts)[(after number before).partition.size]? = some payload
  /-- A message that is delivered has the payload that was published at its offset. -/
  genuine : ∀ reading ∈ (after number acts).delivered,
    (published acts)[reading.message.offset]? = some reading.message.payload
  /-- If no subscription is active, an attempt to subscribe makes one, behind the last commit. -/
  made : (after number acts).partition.subscribed = false →
    (after number (acts ++ [.subscribe])).held (after number acts).readers.length =
      some { position := (after number acts).partition.resumption }
  /-- A subscription delivers what has been published behind the last commit before it was made,
  in order, without gap and without repetition. -/
  consecutive : ∀ {before later}, acts = before ++ .subscribe :: later →
    (after number acts).received (after number before).readers.length <+:
      (Message.numbered (published acts)).drop (after number before).partition.resumption
  /-- The position of a subscription is behind the last message that it delivered. -/
  position : ∀ {before later s}, acts = before ++ .subscribe :: later →
    (after number acts).held (after number before).readers.length = some s →
      s.position = (after number before).partition.resumption +
        ((after number acts).received (after number before).readers.length).length
  /-- No subscription is further than the end. -/
  bounded : ∀ {i s}, (after number acts).held i = some s → s.position ≤ (published acts).length
  /-- An open subscription with something before it gets the next payload. -/
  next : ∀ {i s}, (after number acts).held i = some s → s.closed = false →
    s.position < (published acts).length → ∃ payload,
      (published acts)[s.position]? = some payload ∧
        (after number acts).partition.next s =
          (.message ⟨s.position, payload⟩, { s with position := s.position + 1 })
  /-- An open subscription sees the end only behind the last payload of a closed partition. -/
  ended : ∀ {i s}, (after number acts).held i = some s → s.closed = false →
    (((after number acts).partition.next s).1 = .ended ↔
      .close ∈ acts ∧ s.position = (published acts).length)
  /-- An open subscription waits only behind the last payload of an open partition. -/
  pending : ∀ {i s}, (after number acts).held i = some s → s.closed = false →
    (((after number acts).partition.next s).1 = .pending ↔
      .close ∉ acts ∧ s.position = (published acts).length)
  /-- A subscription that waits misses neither a payload nor the end. -/
  awaited : ∀ {before later i s}, acts = before ++ later →
    (after number before).held i = some s → s.closed = false →
    ((after number before).partition.next s).1 = .pending →
    (∀ a ∈ later, a.reader? ≠ some i) →
      (after number acts).held i = some s ∧
        ((after number acts).partition.next s).1 = awaited s.position later
  /-- What is committed never goes back. -/
  advances : ∀ {before later committed}, acts = before ++ later →
    (after number before).partition.committed = some committed →
      ∃ committed', (after number acts).partition.committed = some committed' ∧
        committed ≤ committed'
  /-- What is committed has been published, and has been delivered with all before it. -/
  committed : ∀ {committed}, (after number acts).partition.committed = some committed →
    committed < (published acts).length ∧
      ∀ n ≤ committed, (after number acts).Delivered n
  /-- An offset can be committed exactly by an open subscription that stands behind it. -/
  accepted : ∀ {i s} (offset : Nat), (after number acts).held i = some s →
    (((after number acts).partition.commit s offset).1 = .ok () ↔
      s.closed = false ∧ offset < s.position)
  /-- Only what has been delivered can be committed. -/
  earned : ∀ {i s} (offset : Nat), (after number acts).held i = some s →
    ((after number acts).partition.commit s offset).1 = .ok () →
      (after number acts).Delivered offset
  /-- A commit that is accepted changes only what is committed, and never moves it back. -/
  moved : ∀ {i s} (offset : Nat), (after number acts).held i = some s →
    ((after number acts).partition.commit s offset).1 = .ok () →
      ((after number acts).partition.commit s offset).2 =
        { (after number acts).partition with
          committed := some (max offset ((after number acts).partition.committed.getD 0)) }
  /-- A commit that is refused names the offset and changes nothing. -/
  refused : ∀ {i s} (offset : Nat), (after number acts).held i = some s →
    ((after number acts).partition.commit s offset).1 ≠ .ok () → ∃ reason,
      (after number acts).partition.commit s offset =
        (.error (.commit offset reason), (after number acts).partition)

/-- What is committed never goes back, and lies below the place to resume. -/
lemma Grows.committed {r r' : Readership} (grows : r.Grows r') {committed : Nat}
    (h : r.partition.committed = some committed) :
    ∃ committed', r'.partition.committed = some committed' ∧ committed ≤ committed' := by
  have hle := grows.resumption
  rw [Partition.resumption_of_committed h] at hle
  cases hcommitted : r'.partition.committed with
  | none =>
    rw [Partition.resumption, hcommitted] at hle
    exact absurd hle (Nat.not_succ_le_zero _)
  | some committed' =>
    rw [Partition.resumption_of_committed hcommitted] at hle
    exact ⟨committed', rfl, by omega⟩

/-- The reader that comes after `before` follows from the place to resume. -/
lemma follows_after (number : Int) (before later : List Act) :
    Follows (after number before).readers.length (after number before).partition.resumption
      (published (before ++ .subscribe :: later))
      (after number (before ++ .subscribe :: later)) := by
  have sound := sound_after number before
  have hnew := sound.step (step_act _ .subscribe)
  rw [Act.payloads_of_none rfl] at hnew
  have hrest := (Follows.subscribe sound).foldl hnew later
  rw [published_append, after_append]
  exact hrest

/-- **The laws of offsets hold** after any acts on a partition and its subscriptions.

**Proof sketch.** After any acts the readership is sound (`sound_after`) and has only grown
(`grows_foldl`), because everything that can be done is a step (`step_act`) and every step keeps
both. A subscription follows from where it was made (`follows_after`), so what it delivered is a
beginning of what lies behind the last commit before it. That it stands at most at the end gives
what it is told (`Sound.next_cases`), and that a waiting one is told what happens first
(`Sound.next_awaited`). -/
theorem offsetLaws (number : Int) (acts : List Act) : OffsetLaws number acts where
  messages := (sound_after number acts).messages
  offset := by
    rintro before later payload rfl
    rw [(sound_after number before).size, published_append,
      List.getElem?_append_right le_rfl, Nat.sub_self]
    rfl
  genuine := by
    intro reading hmem
    exact Message.mem_numbered.mp ((sound_after number acts).genuine reading hmem)
  made := by
    intro hfree
    rw [after_append, List.foldl_cons, List.foldl_nil, held_of_append (readers_subscribe _),
      if_pos rfl, Partition.subscribe, hfree]
    rfl
  consecutive := by
    rintro before later rfl
    exact (follows_after number before later).received
  position := by
    rintro before later s rfl hheld
    exact (follows_after number before later).position hheld
  bounded := by
    intro i s hheld
    have sound := sound_after number acts
    exact sound.size ▸ (sound.position hheld).1
  next := by
    intro i s hheld hopen hlt
    rcases (sound_after number acts).next_cases hheld hopen with
      ⟨payload, -, hpayload, hnext⟩ | ⟨hend, -⟩
    · exact ⟨payload, hpayload, hnext⟩
    · exact absurd hend hlt.ne
  ended := by
    intro i s hheld hopen
    rw [(sound_after number acts).next_eq_ended hheld hopen, closed_after]
  pending := by
    intro i s hheld hopen
    rw [(sound_after number acts).next_eq_pending hheld hopen, closed_after]
  awaited := by
    rintro before later i s rfl hheld hopen hpending apart
    rw [after_append]
    exact ⟨held_foldl hheld apart,
      (sound_after number before).next_awaited hheld hopen hpending apart⟩
  advances := by
    rintro before later committed rfl hcommitted
    rw [after_append]
    exact (grows_foldl _ later).committed hcommitted
  committed := by
    intro committed hcommitted
    have sound := sound_after number acts
    have hcovers := sound.resumption
    rw [Partition.resumption_of_committed hcommitted] at hcovers
    exact ⟨sound.size ▸ hcovers.1, fun n hn => hcovers.2 n (Nat.lt_succ_of_le hn)⟩
  accepted := fun _ _ => Partition.commit_eq_ok
  earned := by
    intro i s offset hheld hok
    obtain ⟨-, hlt⟩ := Partition.commit_eq_ok.mp hok
    exact ((sound_after number acts).position hheld).2 offset hlt
  moved := by
    intro i s offset _ hok
    obtain ⟨hopen, hlt⟩ := Partition.commit_eq_ok.mp hok
    rw [Partition.commit_of_delivered hopen hlt]
  refused := by
    intro i s offset _ hrefused
    exact Partition.commit_of_refused (mt Partition.commit_eq_ok.mpr hrefused)

/-- What was read but not committed is delivered again to the next subscription. -/
example :
    (after 0
      [.publish [97], .publish [98], .subscribe, .next 0, .commit 0 0, .next 0, .closeReader 0,
        .subscribe, .next 1]).received 1 = [⟨1, [98]⟩] := by
  decide

end Readership

end PenaltySettlement
