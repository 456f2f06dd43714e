import PenaltySettlement.Proofs.CustomerPath
import PenaltySettlement.Proofs.LenientReading

/-!
# The parameters of a query

Reading the pairs of a query undoes writing them, whatever characters the names and the values have:
what divides pairs, names and values does not occur in them as they are written. So the query for
the transactions of an account has the three parameters that it should have, and the company is the
one that is asked for.

## Main definitions

* `Query.isWritten` — the characters that names and values are written with.

## Main results

* `Query.decodeText_encodeText` — a name or value is read back.
* `Query.decodePairs_encodePairs` — pairs are read back.
* `LedgerClient.query_parameters` — the parameters of a query.
-/

set_option autoImplicit false

namespace PenaltySettlement

namespace Query

/-! ## Names and values -/

/-- Bytes are as many as there are numbers of eight bits. -/
lemma forall_byte {p : UInt8 → Prop} (h : ∀ n < 256, p (UInt8.ofNat n)) (b : UInt8) : p b := by
  have hb := h b.toNat b.toNat_lt
  rwa [UInt8.ofNat_toNat] at hb

/-- The bytes that do not stand for themselves once a plus sign has been read as a space. -/
def isEncoded (b : UInt8) : Bool := !(b == 0x20 || isPlain b)

/-- **The characters that names and values are written with.** -/
def isWritten (c : Char) : Bool := c.isAlphanum || ['*', '-', '.', '_', '+', '%'].contains c

/-- A byte as it is written, a plus sign read as a space. -/
lemma map_encodeByte : ∀ b, (encodeByte b).map (fun c => if c = '+' then ' ' else c) =
    if isEncoded b then Percent.encodeByte b else [Char.ofNat b.toNat] :=
  forall_byte (by decide +kernel)

/-- The coding of a name or value can be undone. -/
lemma safe_isEncoded : Percent.Safe isEncoded where
  percent := by decide
  beyond := forall_byte (by decide +kernel)

/-- A byte is written with these characters. -/
lemma isWritten_encodeByte : ∀ b, (encodeByte b).all isWritten = true :=
  forall_byte (by decide +kernel)

/-- So are names and values. -/
lemma isWritten_encodeText {s : String} {c : Char} (h : c ∈ encodeText s) : isWritten c = true := by
  obtain ⟨b, -, hc⟩ := List.mem_flatMap.1 h
  exact List.all_eq_true.1 (isWritten_encodeByte b) c hc

/-- **A name or value is read back.** Once its plus signs are read as spaces, it is in a percent
coding that can be undone. -/
theorem decodeText_encodeText (s : String) : decodeText (encodeText s) = s := by
  -- a plus sign of the text itself is written as a code, so none but the spaces is changed
  have hspaces : (encodeText s).map (fun c => if c = '+' then ' ' else c) =
      Percent.encode isEncoded (Utf8.encode s) := by
    rw [encodeText, List.map_flatMap, Percent.encode]
    exact congrArg (List.flatMap · (Utf8.encode s)) (funext map_encodeByte)
  rw [decodeText, hspaces, Percent.decode_encode safe_isEncoded, Utf8.decodeLenient_encode]

/-! ## Pairs -/

/-- **A pair is read back**: there is no equality sign in the name. -/
lemma decodePair_encodePair (pair : String × String) : decodePair (encodePair pair) = pair := by
  have hname : ∀ c ∈ encodeText pair.1, (c != '=') = true := by
    intro c hc
    have hwritten := isWritten_encodeText hc
    rw [bne_iff_ne]
    rintro rfl
    exact absurd hwritten (by decide)
  rw [decodePair, encodePair, List.takeWhile_append_of_pos hname,
    List.dropWhile_append_of_pos hname]
  simp [decodeText_encodeText]

/-- A pair is written with the characters of its name and value and an equality sign. -/
lemma mem_encodePair {pair : String × String} {c : Char} (h : c ∈ encodePair pair) :
    isWritten c = true ∨ c = '=' := by
  rcases List.mem_append.1 h with hname | hvalue
  · exact .inl (isWritten_encodeText hname)
  · rcases List.mem_cons.1 hvalue with rfl | hvalue
    · exact .inr rfl
    · exact .inl (isWritten_encodeText hvalue)

/-- Pairs are written with the characters of each of them and the mark between them. -/
lemma mem_encodePairs {pairs : List (String × String)} {c : Char} (h : c ∈ encodePairs pairs) :
    isWritten c = true ∨ c = '=' ∨ c = '&' := by
  unfold encodePairs at h
  induction pairs with
  | nil => cases h
  | cons pair pairs ih =>
    have hpair : c ∈ encodePair pair → isWritten c = true ∨ c = '=' ∨ c = '&' :=
      fun hc => (mem_encodePair hc).imp_right .inl
    cases pairs with
    | nil => exact hpair (by simpa using h)
    | cons next pairs =>
      rw [List.map_cons, List.map_cons, List.intercalate_cons_cons, List.append_assoc] at h
      rcases List.mem_append.1 h with hc | hc
      · exact hpair hc
      · rcases List.mem_append.1 hc with hmark | hc
        · exact .inr (.inr (List.mem_singleton.1 hmark))
        · exact ih hc

/-- **Pairs are read back.** -/
theorem decodePairs_encodePairs (pairs : List (String × String)) :
    decodePairs (encodePairs pairs) = pairs := by
  cases pairs with
  | nil => rfl
  | cons pair pairs =>
    have hmark : ∀ part ∈ (pair :: pairs).map encodePair, '&' ∉ part := by
      intro part hpart hmem
      obtain ⟨_, -, rfl⟩ := List.mem_map.1 hpart
      rcases mem_encodePair hmem with hwritten | heq
      · exact absurd hwritten (by decide)
      · exact absurd heq (by decide)
    have hparts : ∀ part ∈ (pair :: pairs).map encodePair, (!part.isEmpty) = true := by
      intro part hpart
      obtain ⟨_, -, rfl⟩ := List.mem_map.1 hpart
      simp [encodePair]
    rw [decodePairs, encodePairs, List.splitOn_intercalate _ hmark (List.cons_ne_nil _ _),
      List.filter_eq_self.2 hparts, List.map_map]
    exact (List.map_congr_left fun pair _ => decodePair_encodePair pair).trans (List.map_id _)

/-- Behind no query, or an empty one, there are only the pairs. -/
lemma append_of_empty {query : Option String} (h : query.getD "" = "")
    (pairs : List (String × String)) : append query pairs = String.ofList (encodePairs pairs) := by
  cases query with
  | none => rfl
  | some query =>
    obtain rfl : query = "" := h
    rfl

end Query

namespace LedgerClient

/-- The query of a request is that of its address with the parameters behind it. -/
lemma query_request (method : HttpMethod) (u : Url) (parameters : List (String × String))
    (body : Option (List UInt8)) :
    (request method u parameters body).url.query = some (Query.append u.query parameters) := by
  unfold request
  dsimp only
  split <;> rfl

/-- A resource has the query of the base address. -/
lemma query_endpoint (c : LedgerClient) (segments : List String) :
    (c.endpoint segments).query = c.base.query := by
  obtain ⟨path, hpath⟩ := c.endpoint_eq segments
  rw [hpath]

/-- The request of a query has its parameters only, if the base address has no query. -/
lemma query_queryRequest {c : LedgerClient} (h : c.base.query.getD "" = "")
    (q : TransactionsQuery) :
    (c.queryRequest q).url.query =
      some (String.ofList (Query.encodePairs (queryParameters q))) := by
  rw [queryRequest, query_request, query_endpoint, Query.append_of_empty h]

/-- A query that names a customer and a company lacks nothing. -/
lemma not_lacks {q : TransactionsQuery} (hcustomer : Text.isBlank q.customerCode = false)
    (hcompany : Text.isBlank q.companyCode = false) : ∀ field, ¬q.Lacks field := by
  rintro field (hblank | hblank)
  · rw [hcustomer] at hblank
    cases hblank
  · rw [hcompany] at hblank
    cases hblank

/-- The query of an address reaches up to its fragment, if there is no number sign in it. -/
lemma takeWhile_tailText {u : Url} {query : String} (h : u.query = some query)
    (hmark : '#' ∉ query.toList) :
    u.tailText.toList.takeWhile (· != '#') = '?' :: query.toList := by
  have hquery : ∀ c ∈ '?' :: query.toList, (c != '#') = true := by
    refine List.forall_mem_cons.2 ⟨by decide, fun c hc => ?_⟩
    rw [bne_iff_ne]
    rintro rfl
    exact hmark hc
  have hrest : ∀ rest : String, rest.toList.takeWhile (· != '#') = [] →
      ("?" ++ query ++ rest).toList.takeWhile (· != '#') = '?' :: query.toList := by
    intro rest hrest
    rw [String.toList_append, String.toList_append]
    show ('?' :: query.toList ++ rest.toList).takeWhile _ = _
    rw [List.takeWhile_append_of_pos hquery, hrest, List.append_nil]
  unfold Url.tailText
  rw [h]
  dsimp only
  cases u.fragment with
  | none => exact hrest "" rfl
  | some fragment =>
    refine hrest ("#" ++ fragment) ?_
    rw [String.toList_append]
    rfl

section

variable {text : String} {client : LedgerClient} (h : new text = .ok client) (web : client.OnWeb)
  (hquery : client.base.query.getD "" = "")

include h web hquery

/-- **The parameters of a query.** Take a client whose base address is one of the web and has no
query. A query of it that names a customer and a company, with any characters in their codes, is
sent as one request, and the pairs that are read back from the query of its address are the company,
the day from which on and who is asking, and nothing else. In the text of the address the query is
all that stands between the path and the fragment; it has letters, digits and some marks in it.
Queries for different companies are different.

**Proof sketch.** Reading pairs undoes writing them (`Query.decodePairs_encodePairs`), and there is
no number sign among the characters that they are written with. -/
theorem query_parameters (send : HttpRequest → HttpReply) :
    (∀ q : TransactionsQuery, Text.isBlank q.customerCode = false →
      Text.isBlank q.companyCode = false →
      (client.transactions send q).requests = [client.queryRequest q] ∧
      ∃ query, (client.queryRequest q).url.query = some query ∧
        Query.decodePairs query.toList =
          [("companyCode", q.companyCode), ("fromDate", "1990-01-01"),
            ("ADV_userName", "SYSTEM")] ∧
        (∀ c ∈ query.toList, Query.isWritten c = true ∨ c = '=' ∨ c = '&') ∧
        (client.queryRequest q).url.tailText.toList.takeWhile (· != '#') = '?' :: query.toList) ∧
    ∀ q q' : TransactionsQuery, q.companyCode ≠ q'.companyCode →
      (client.queryRequest q).url.query ≠ (client.queryRequest q').url.query := by
  have hread : ∀ q : TransactionsQuery,
      Query.decodePairs (Query.encodePairs (queryParameters q)) = queryParameters q :=
    fun q => Query.decodePairs_encodePairs _
  constructor
  · intro q hcustomer hcompany
    have hurl := query_queryRequest hquery q
    have hmark : '#' ∉ (String.ofList (Query.encodePairs (queryParameters q))).toList := by
      intro hmem
      rw [String.toList_ofList] at hmem
      rcases Query.mem_encodePairs hmem with hwritten | heq | heq
      · exact absurd hwritten (by decide)
      · exact absurd heq (by decide)
      · exact absurd heq (by decide)
    refine ⟨((transactions_lawful h send q).sent (not_lacks hcustomer hcompany) web).1, _, hurl,
      ?_, ?_, takeWhile_tailText hurl hmark⟩
    · rw [String.toList_ofList, hread]
      rfl
    · rw [String.toList_ofList]
      exact fun c hc => Query.mem_encodePairs hc
  · intro q q' hne heq
    rw [query_queryRequest hquery, query_queryRequest hquery] at heq
    have hpairs := String.ofList_injective (Option.some.inj heq)
    have hsame := congrArg Query.decodePairs hpairs
    rw [hread, hread] at hsame
    exact hne (congrArg Prod.snd (List.cons.inj hsame).1)

end

/-- A company whose code is written like further parameters, with a fragment and a line break behind
them, is the company that is asked for. -/
theorem query_parameters_marked :
    let client : LedgerClient := ⟨{
      scheme := "http", host := some (.ipv6 [0, 0, 0, 0, 0, 0, 0, 1]), path := .segments [""] }⟩
    let q : TransactionsQuery := ⟨"C1", "LP&fromDate=2020-01-01+x%26y#z \né"⟩
    ∃ query, (client.queryRequest q).url.query = some query ∧
      Query.decodePairs query.toList =
        [("companyCode", "LP&fromDate=2020-01-01+x%26y#z \né"), ("fromDate", "1990-01-01"),
          ("ADV_userName", "SYSTEM")] := by
  intro client q
  have hclient : new "http://[::1]" = .ok client := by decide +kernel
  have hweb : client.OnWeb := by decide
  have hparameters := (query_parameters hclient hweb rfl fun _ => .failed "no connection").1 q
    (by decide) (by decide)
  obtain ⟨-, query, hurl, hpairs, -⟩ := hparameters
  exact ⟨query, hurl, hpairs⟩

end LedgerClient

end PenaltySettlement
