import Mathlib.Data.List.Nodup
import PenaltySettlement.Proofs.Desk
import PenaltySettlement.Proofs.StoreSteps

/-!
# Payable resources and their history

A store has every payable resource that was ever created, under the identifier that it got, and
for each name the identifier of the resource that was created last under it. A payment is replaced
by identifier and a failure is noted by name. So a resource shows the last payment that was given
for its identifier, and the last failure that was noted for its name before another resource took
the name over.

Identifiers come from outside and are taken to be different from each other.

## Main definitions

* `PayableRequest`, `Store.serve` — what can be asked about payable resources, and its effect.
* `Store.Indexed` — resources and names that fit together.
* `PayableResource.afterwards` — a resource after the requests that follow its creation.

## Main results

* `Store.Indexed.serve` — every request keeps resources and names together.
* `Store.serveAll_find?` — a resource after requests.
* `Store.keepsResources` — the resources and names of a store against its history.
-/

set_option autoImplicit false

namespace PenaltySettlement

/-! ## Requests -/

/-- What can be asked about payable resources. The identifier of a new resource comes from
outside. -/
inductive PayableRequest where
  | create (id : String) (resource : PayableResource)
  | look (key : PayableKey)
  | updatePayment (resource : PayableResource)
  | noteFailure (key : PayableKey) (action : LedgerAction)
  deriving DecidableEq, Repr

namespace PayableRequest

/-- The single operation that a request is. Only the note of a failure takes more than one step. -/
def action? : PayableRequest → Option StoreAction
  | .create id resource => some (.createPayable id resource)
  | .look key => some (.payable key)
  | .updatePayment resource => some (.updatePayment resource.id resource.payment)
  | .noteFailure _ _ => none

/-- The identifier that a request assigns. -/
def assigned? (request : PayableRequest) : Option String :=
  request.action?.bind StoreAction.assigned?

/-- The identifier of the resource that a request creates under a name. -/
def named? (key : PayableKey) (request : PayableRequest) : Option String :=
  request.action?.bind (StoreAction.named? key)

/-- The payment that a request has for an identifier. -/
def payment? (id : String) (request : PayableRequest) : Option PaymentDetails :=
  request.action?.bind (StoreAction.payment? id)

/-- The failure that a request notes for a name. -/
def failure? (key : PayableKey) : PayableRequest → Option LedgerAction
  | .noteFailure other action => if other = key then some action else none
  | .create _ _ | .look _ | .updatePayment _ => none

/-- Only the note of a failure is no single operation. -/
lemma action?_eq_none {request : PayableRequest} :
    request.action? = none ↔ ∃ key action, request = .noteFailure key action := by
  cases request <;> simp [action?]

/-- The operation of a request takes one step. -/
lemma single (request : PayableRequest) {action : StoreAction} (h : request.action? = some action) :
    action.Single := by
  cases request <;> cases h <;> trivial

/-- A creation is the operation of a request to create. -/
lemma action?_eq_create {request : PayableRequest} {id : String} {resource : PayableResource} :
    request.action? = some (.createPayable id resource) ↔ request = .create id resource := by
  cases request <;> simp [action?]

/-- A request that is a single operation notes no failure. -/
lemma failure?_of_action {request : PayableRequest} {action : StoreAction}
    (h : request.action? = some action) (key : PayableKey) : request.failure? key = none := by
  cases request with
  | noteFailure other action => cases h
  | _ => rfl

/-- Only a creation assigns an identifier. -/
lemma assigned?_eq_some {request : PayableRequest} {id : String} :
    request.assigned? = some id ↔ ∃ resource, request = .create id resource := by
  simp [assigned?, Option.bind_eq_some_iff, StoreAction.assigned?_eq_some, action?_eq_create]

/-- What is created under a name has the name. -/
lemma named?_eq_some {request : PayableRequest} {key : PayableKey} {id : String} :
    request.named? key = some id ↔
      ∃ resource, request = .create id resource ∧ resource.key = key := by
  simp [named?, Option.bind_eq_some_iff, StoreAction.named?_eq_some, action?_eq_create]

end PayableRequest

/-- The requests until another resource is created under a name. -/
def untilCreation (key : PayableKey) (requests : List PayableRequest) : List PayableRequest :=
  requests.takeWhile fun request => (request.named? key).isNone

/-- **A resource after the requests that follow its creation.** It has the last payment for its
identifier, and the last failure noted for its name while the name stood for it. -/
def PayableResource.afterwards (r : PayableResource) (later : List PayableRequest) :
    PayableResource :=
  { r with
    payment := (later.filterMap (PayableRequest.payment? r.id)).getLast?.getD r.payment
    e5CommandError :=
      ((untilCreation r.key later).filterMap (PayableRequest.failure? r.key)).getLast?.or
        r.e5CommandError }

/-- A desk with one store, where nothing but the store is asked. -/
def Desk.ofStore (s : Store) : Desk where
  store := s
  confirms := fun _ => .ok ()
  reports := fun _ => .ok .empty
  clock := fun _ => default

namespace Store

/-- **A store after a request.** -/
def serve (s : Store) : PayableRequest → Store
  | .create id resource => (s.createPayable id resource).store
  | .look key => (s.payable key).store
  | .updatePayment resource => (s.updatePayment resource.id resource.payment).store
  | .noteFailure key action =>
    (Activity.run Desk.take Desk.write (Settlement.noteFailure key action)
      (Desk.ofStore s, [])).2.1.store

/-- A store after requests, one after the other. -/
def serveAll (s : Store) (requests : List PayableRequest) : Store := requests.foldl serve s

/-- Noting a failure leaves the store with the note. -/
lemma serve_noteFailure (s : Store) (key : PayableKey) (action : LedgerAction) :
    s.serve (.noteFailure key action) = s.noted key action := by
  rw [serve, Desk.noteFailure_desk]
  rfl

/-- A request that is a single operation is carried out as such. -/
lemma serve_of_action {request : PayableRequest} {action : StoreAction}
    (h : request.action? = some action) (s : Store) :
    s.serve request = (s.perform action).store := by
  cases request <;> cases h <;> rfl

/-- A request keeps the connection. -/
@[simp]
lemma connected_serve (s : Store) (request : PayableRequest) :
    (s.serve request).connected = s.connected := by
  cases haction : request.action? with
  | some action =>
    have hne : action ≠ .shutDown := by
      rintro rfl
      exact request.single haction
    rw [serve_of_action haction, s.perform_connected hne]
  | none =>
    obtain ⟨key, action, rfl⟩ := PayableRequest.action?_eq_none.1 haction
    rw [serve_noteFailure, noted]

/-! ## Resources and names -/

/-- **Resources and names that fit together**: each resource is found under its own identifier, and
each name stands for a resource with that name. -/
structure Indexed (s : Store) : Prop where
  own : ∀ {id resource}, s.payables.find? id = some resource → resource.id = id
  named : ∀ {key id}, s.latest.find? key = some id →
    ∃ resource, s.payables.find? id = some resource ∧ resource.key = key

/-- The note of a failure changes the resource that its name stands for. -/
lemma noted_find? {s : Store} (connected : s.connected = true) (indexed : s.Indexed)
    (key : PayableKey) (action : LedgerAction) (id : String) :
    (s.noted key action).payables.find? id =
      if s.latest.find? key = some id then
        (s.payables.find? id).map fun r => { r with e5CommandError := some action }
      else s.payables.find? id := by
  cases hlatest : s.latest.find? key with
  | none =>
    rw [noted_of_none action (by rw [latestPayable?, hlatest]; rfl),
      if_neg (Option.some_ne_none id).symm]
  | some latest =>
    obtain ⟨resource, hresource, -⟩ := indexed.named hlatest
    have hfound : s.latestPayable? key = some resource := by
      rw [latestPayable?, hlatest]
      exact hresource
    rw [noted_of_some action connected hfound, indexed.own hresource]
    show (s.payables.modify latest _).find? id = _
    rw [Table.find?_modify]
    simp only [Option.some.injEq, eq_comm]

section

variable {s : Store} (connected : s.connected = true)

include connected

/-- The names after a request: a new resource takes its name over. -/
lemma latest_serve (request : PayableRequest) (key : PayableKey) :
    (s.serve request).latest.find? key = (request.named? key).or (s.latest.find? key) := by
  cases haction : request.action? with
  | some action =>
    rw [serve_of_action haction, latest_perform connected, PayableRequest.named?, haction]
    rfl
  | none =>
    obtain ⟨other, action, rfl⟩ := PayableRequest.action?_eq_none.1 haction
    rw [serve_noteFailure]
    rfl

/-- A new resource is found under its identifier. -/
lemma find?_serve_create (id : String) (resource : PayableResource) :
    (s.serve (.create id resource)).payables.find? id = some { resource with id } :=
  find?_perform_create connected id resource

/-- **A resource after a request** that does not create it: a payment is replaced by identifier, and
a failure is noted if the name stands for the resource. -/
lemma find?_serve (indexed : s.Indexed) {request : PayableRequest} {id : String}
    (h : request.assigned? ≠ some id) :
    (s.serve request).payables.find? id = (s.payables.find? id).map fun r =>
      { r with
        payment := (request.payment? id).getD r.payment
        e5CommandError := (if s.latest.find? r.key = some id then request.failure? r.key
          else none).or r.e5CommandError } := by
  cases haction : request.action? with
  | some action =>
    rw [PayableRequest.assigned?, haction] at h
    rw [serve_of_action haction, payables_perform connected (request.single haction) h,
      PayableRequest.payment?, haction]
    simp [PayableRequest.failure?_of_action haction]
  | none =>
    obtain ⟨key, action, rfl⟩ := PayableRequest.action?_eq_none.1 haction
    rw [serve_noteFailure, noted_find? connected indexed]
    cases hfind : s.payables.find? id with
    | none => simp
    | some r =>
      by_cases hlatest : s.latest.find? key = some id
      · obtain ⟨resource, hresource, hkey⟩ := indexed.named hlatest
        obtain rfl := Option.some.inj (hfind.symm.trans hresource)
        simp [PayableRequest.payment?, PayableRequest.action?, PayableRequest.failure?, hkey,
          hlatest]
      · by_cases hkey : key = r.key
        · subst hkey
          simp [PayableRequest.payment?, PayableRequest.action?, hlatest]
        · simp [PayableRequest.payment?, PayableRequest.action?, PayableRequest.failure?, hkey,
            hlatest]

/-- **Every request keeps resources and names together**, if a new resource has a new identifier.

**Proof sketch.** A new resource is found under its identifier and takes its name over. All others
keep their identifiers and names, and the identifiers of the other names are not the new one. -/
theorem Indexed.serve (indexed : s.Indexed) {request : PayableRequest}
    (fresh : ∀ {id}, request.assigned? = some id → s.payables.find? id = none) :
    (s.serve request).Indexed where
  own := by
    intro id resource hfind
    by_cases h : request.assigned? = some id
    · obtain ⟨created, rfl⟩ := PayableRequest.assigned?_eq_some.1 h
      rw [find?_serve_create connected] at hfind
      exact congrArg PayableResource.id (Option.some.inj hfind).symm
    · rw [find?_serve connected indexed h] at hfind
      obtain ⟨r, hr, rfl⟩ := Option.map_eq_some_iff.1 hfind
      have hid : r.id = id := indexed.own hr
      exact hid
  named := by
    intro key id hlatest
    rw [latest_serve connected] at hlatest
    cases hcreated : request.named? key with
    | some new =>
      rw [hcreated] at hlatest
      obtain rfl := Option.some.inj hlatest
      obtain ⟨resource, rfl, hkey⟩ := PayableRequest.named?_eq_some.1 hcreated
      exact ⟨_, find?_serve_create connected _ resource, hkey⟩
    | none =>
      rw [hcreated] at hlatest
      obtain ⟨resource, hresource, hkey⟩ := indexed.named hlatest
      have h : request.assigned? ≠ some id := by
        intro h
        cases hresource.symm.trans (fresh h)
      have hfind := find?_serve connected indexed h
      rw [hresource] at hfind
      exact ⟨_, hfind, hkey⟩

end

/-! ## Requests in a row -/

@[simp]
lemma serveAll_nil (s : Store) : s.serveAll [] = s := rfl

@[simp]
lemma serveAll_cons (s : Store) (request : PayableRequest) (requests : List PayableRequest) :
    s.serveAll (request :: requests) = (s.serve request).serveAll requests := rfl

lemma serveAll_append (s : Store) (requests more : List PayableRequest) :
    s.serveAll (requests ++ more) = (s.serveAll requests).serveAll more := List.foldl_append

/-- Requests keep the connection. -/
@[simp]
lemma connected_serveAll (s : Store) (requests : List PayableRequest) :
    (s.serveAll requests).connected = s.connected := by
  induction requests generalizing s with
  | nil => rfl
  | cons request requests ih => rw [serveAll_cons, ih, connected_serve]

/-- **Requests that may be served**: the identifiers that they assign differ from each other, and
none of them is in use. -/
structure Unused (s : Store) (requests : List PayableRequest) : Prop where
  nodup : (requests.filterMap PayableRequest.assigned?).Nodup
  absent : ∀ {id resource}, .create id resource ∈ requests → s.payables.find? id = none

section

variable {s : Store} {request : PayableRequest} {requests : List PayableRequest}

/-- The first request assigns an identifier that is not in use. -/
lemma Unused.head (h : s.Unused (request :: requests)) {id : String}
    (hid : request.assigned? = some id) : s.payables.find? id = none := by
  obtain ⟨resource, rfl⟩ := PayableRequest.assigned?_eq_some.1 hid
  exact h.absent List.mem_cons_self

/-- After the first request the others may still be served. -/
lemma Unused.tail (h : s.Unused (request :: requests)) (connected : s.connected = true)
    (indexed : s.Indexed) : (s.serve request).Unused requests where
  nodup := h.nodup.sublist ((List.sublist_cons_self _ _).filterMap _)
  absent := by
    intro id resource hcreate
    have hne : request.assigned? ≠ some id := by
      intro hid
      have hnodup := h.nodup
      rw [List.filterMap_cons_some hid, List.nodup_cons] at hnodup
      exact hnodup.1 (List.mem_filterMap.2 ⟨_, hcreate, rfl⟩)
    rw [find?_serve connected indexed hne, h.absent (List.mem_cons_of_mem _ hcreate)]
    rfl

/-- **Requests keep resources and names together**, and what they leave over may be served. -/
theorem Indexed.serveAll {more : List PayableRequest} (indexed : s.Indexed)
    (connected : s.connected = true) (h : s.Unused (requests ++ more)) :
    (s.serveAll requests).Indexed ∧ (s.serveAll requests).Unused more := by
  induction requests generalizing s with
  | nil => exact ⟨indexed, h⟩
  | cons request requests ih =>
    exact ih (indexed.serve connected h.head) ((s.connected_serve request).trans connected)
      (h.tail connected indexed)

/-- The last of what members of a list give is what the others give, or else the first one. -/
lemma getLast?_filterMap_cons {α β : Type} (f : α → Option β) (x : α) (l : List α) :
    ((x :: l).filterMap f).getLast? = (l.filterMap f).getLast?.or (f x) := by
  cases hx : f x with
  | none => rw [List.filterMap_cons_none hx, Option.or_none]
  | some y =>
    rw [List.filterMap_cons_some hx, List.getLast?_cons]
    cases (l.filterMap f).getLast? <;> rfl

/-- **The names after requests**: each stands for the resource that was created last under it. -/
theorem latest_serveAll (connected : s.connected = true) (key : PayableKey) :
    (s.serveAll requests).latest.find? key =
      (requests.filterMap (PayableRequest.named? key)).getLast?.or (s.latest.find? key) := by
  induction requests generalizing s with
  | nil => rfl
  | cons request requests ih =>
    rw [serveAll_cons, ih ((s.connected_serve request).trans connected), latest_serve connected,
      getLast?_filterMap_cons, Option.or_assoc]

/-- An identifier that is not in use and that no request assigns has no resource. -/
lemma find?_serveAll_none (connected : s.connected = true) (indexed : s.Indexed)
    (h : s.Unused requests) {id : String} (hid : ∀ resource, .create id resource ∉ requests)
    (hfind : s.payables.find? id = none) : (s.serveAll requests).payables.find? id = none := by
  induction requests generalizing s with
  | nil => exact hfind
  | cons request requests ih =>
    have hne : request.assigned? ≠ some id := by
      intro hassigned
      obtain ⟨resource, rfl⟩ := PayableRequest.assigned?_eq_some.1 hassigned
      exact hid resource List.mem_cons_self
    have hlater : ∀ resource, .create id resource ∉ requests := fun resource hmem =>
      hid resource (List.mem_cons_of_mem _ hmem)
    refine ih ((s.connected_serve request).trans connected) (indexed.serve connected h.head)
      (h.tail connected indexed) hlater ?_
    rw [find?_serve connected indexed hne, hfind]
    rfl

/-- The failures that are noted for a resource by the first request and by the others, which follow
it while the name stands for the resource. -/
lemma getLast?_failures (request : PayableRequest) (requests : List PayableRequest)
    {key : PayableKey} {id : String} {latest : Option String}
    (hne : request.assigned? ≠ some id) :
    ((if (request.named? key).or latest = some id then untilCreation key requests
        else []).filterMap (PayableRequest.failure? key)).getLast?.or
        (if latest = some id then request.failure? key else none) =
      ((if latest = some id then untilCreation key (request :: requests) else []).filterMap
        (PayableRequest.failure? key)).getLast? := by
  cases hcreated : request.named? key with
  | none =>
    have huntil : untilCreation key (request :: requests) = request :: untilCreation key requests :=
      List.takeWhile_cons_of_pos (by simp [hcreated])
    by_cases hlatest : latest = some id
    · simp only [Option.none_or, hlatest, if_true, huntil, getLast?_filterMap_cons]
    · simp [hlatest]
  | some new =>
    -- another resource takes the name over
    obtain ⟨resource, rfl, -⟩ := PayableRequest.named?_eq_some.1 hcreated
    have hnew : some new ≠ some id := hne
    have huntil : untilCreation key (.create new resource :: requests) = [] :=
      List.takeWhile_cons_of_neg (by simp [hcreated])
    simp [huntil, hnew, PayableRequest.failure?]

/-- **A resource after requests.** It has the last payment for its identifier, and the last failure
that is noted for its name while the name stands for it; if the name already stands for another
resource, it gets no failure any more.

**Proof sketch.** Induction on the requests with the effect of a single one (`find?_serve`). When
another resource takes the name over, what is noted from then on is not for this one
(`getLast?_failures`). -/
theorem serveAll_find? (connected : s.connected = true) (indexed : s.Indexed)
    (h : s.Unused requests) {id : String} {r : PayableResource}
    (hfind : s.payables.find? id = some r) :
    (s.serveAll requests).payables.find? id = some { r with
      payment := (requests.filterMap (PayableRequest.payment? id)).getLast?.getD r.payment
      e5CommandError :=
        ((if s.latest.find? r.key = some id then untilCreation r.key requests else []).filterMap
          (PayableRequest.failure? r.key)).getLast?.or r.e5CommandError } := by
  induction requests generalizing s r with
  | nil =>
    rw [serveAll_nil, hfind]
    split <;> rfl
  | cons request requests ih =>
    have hne : request.assigned? ≠ some id := fun hid => by cases hfind.symm.trans (h.head hid)
    have hnext := find?_serve connected indexed hne
    rw [hfind] at hnext
    have hrest := ih ((s.connected_serve request).trans connected)
      (indexed.serve connected h.head) (h.tail connected indexed) hnext
    rw [serveAll_cons, hrest, getLast?_filterMap_cons, Option.getD_or,
      ← getLast?_failures request requests hne, Option.or_assoc, ← latest_serve connected]
    rfl

end

/-! ## The history of a store -/

/-- **A store that keeps its resources.** It has exactly the resources that were ever created, each
under its own identifier. A name stands for the resource that was created last under it, and that
resource has the name. Of a resource nothing changes but its payment and its failure. -/
structure KeepsResources (s : Store) (requests : List PayableRequest) : Prop where
  identifiers : ∀ {id}, (s.payables.find? id).isSome ↔ ∃ resource, .create id resource ∈ requests
  own : ∀ {id resource}, s.payables.find? id = some resource → resource.id = id
  latest : ∀ key, s.latest.find? key =
    (requests.filterMap (PayableRequest.named? key)).getLast?
  named : ∀ {key id}, s.latest.find? key = some id →
    ∃ resource, s.payables.find? id = some resource ∧ resource.key = key
  answers : ∀ key, (s.payable key).outcome = .ok
    ((requests.filterMap (PayableRequest.named? key)).getLast?.bind s.payables.find?)
  resources : ∀ {before id resource later}, requests = before ++ .create id resource :: later →
    s.payables.find? id = some (PayableResource.afterwards { resource with id } later)

/-- A store without resources is in order. -/
lemma indexed_new (accounts : Table AccountKey AccountPenalties) :
    ({ accounts } : Store).Indexed where
  own := fun h => by cases h
  named := fun h => by cases h

section

variable {s : Store} {before later : List PayableRequest} {id : String}
  {resource : PayableResource}

/-- A resource is what its creation and the later requests make it.

**Proof sketch.** Right after the creation its name stands for the resource, so all failures until
the next creation under the name are noted for it (`serveAll_find?`). -/
lemma find?_serveAll_of_created (connected : s.connected = true) (indexed : s.Indexed)
    (h : s.Unused (before ++ .create id resource :: later)) :
    (s.serveAll (before ++ .create id resource :: later)).payables.find? id =
      some (PayableResource.afterwards { resource with id } later) := by
  obtain ⟨hindexed, hunused⟩ := indexed.serveAll connected h
  have hconnected : (s.serveAll before).connected = true :=
    (s.connected_serveAll before).trans connected
  have hcreated := find?_serve_create hconnected id resource
  have hlatest : ((s.serveAll before).serve (.create id resource)).latest.find? resource.key =
      some id := by
    rw [latest_serve hconnected, PayableRequest.named?_eq_some.2 ⟨resource, rfl, rfl⟩]
    rfl
  have hfind := serveAll_find? ((connected_serve _ _).trans hconnected)
    (hindexed.serve hconnected hunused.head) (hunused.tail hconnected hindexed) hcreated
  rw [serveAll_append, serveAll_cons, hfind]
  simp only [PayableResource.key] at hlatest
  simp only [PayableResource.afterwards, PayableResource.key, hlatest, if_true]

end

/-- **The resources and names of a store against its history**, for any requests to a store which
had no resources at first, if the identifiers that are assigned differ from each other.

**Proof sketch.** The names stand for the last creations (`latest_serveAll`), resources and names
fit together after any requests (`Indexed.serveAll`), and each resource is told by what follows its
creation (`find?_serveAll_of_created`). -/
theorem keepsResources (accounts : Table AccountKey AccountPenalties)
    {requests : List PayableRequest}
    (fresh : (requests.filterMap PayableRequest.assigned?).Nodup) :
    (({ accounts } : Store).serveAll requests).KeepsResources requests := by
  set start : Store := { accounts }
  have unused : start.Unused requests := ⟨fresh, fun _ => rfl⟩
  have connected : (start.serveAll requests).connected = true := start.connected_serveAll requests
  have indexed : (start.serveAll requests).Indexed :=
    ((indexed_new accounts).serveAll rfl ((List.append_nil requests).symm ▸ unused)).1
  have latest : ∀ key, (start.serveAll requests).latest.find? key =
      (requests.filterMap (PayableRequest.named? key)).getLast? := fun key =>
    (latest_serveAll rfl key).trans (Option.or_none)
  have resources : ∀ {before id resource later},
      requests = before ++ .create id resource :: later →
      (start.serveAll requests).payables.find? id =
        some (PayableResource.afterwards { resource with id } later) := by
    rintro before id resource later rfl
    exact find?_serveAll_of_created rfl (indexed_new accounts) unused
  exact {
    identifiers := by
      intro id
      constructor
      · intro hsome
        by_contra hnone
        have habsent := find?_serveAll_none rfl (indexed_new accounts) unused
          (not_exists.1 hnone) rfl
        rw [habsent] at hsome
        cases hsome
      · rintro ⟨resource, hcreate⟩
        obtain ⟨before, later, heq⟩ := List.append_of_mem hcreate
        rw [resources heq]
        rfl
    own := indexed.own
    latest := latest
    named := indexed.named
    answers := by
      intro key
      rw [payable, whenConnected, if_pos connected, latestPayable?, latest]
    resources := resources }

/-! ### A name that is taken over -/

namespace Takeover

/-- A name. -/
def key : PayableKey := ⟨"10000024", "XYZ"⟩

/-- A session under the name. -/
def session : PayableResource := .new default key (.ofUInt64 false 150)

/-- A payment that has been made. -/
def payment : PaymentDetails := { session.payment with status := .paid, reference := some "R1" }

/-- A failure is noted before another session takes the name over, and one after it. The payment of
the first session comes in a record that shows another name. -/
def requests : List PayableRequest :=
  [.create "a" session, .noteFailure key .authorise, .create "b" session,
    .noteFailure key .confirm,
    .updatePayment { session with id := "a", customerCode := "10000025", payment }]

end Takeover

/-- **The session that lost its name** keeps the failure that was noted before, and gets its
payment. -/
theorem keepsResources_takeover :
    (Takeover.requests.filterMap PayableRequest.assigned?).Nodup ∧
    (({} : Store).serveAll Takeover.requests).payables.find? "a" =
      some { Takeover.session with
        id := "a", payment := Takeover.payment, e5CommandError := some .authorise } := by
  have fresh : (Takeover.requests.filterMap PayableRequest.assigned?).Nodup := by decide
  exact ⟨fresh, (keepsResources .empty fresh).resources (List.nil_append _).symm⟩

end Store

end PenaltySettlement
