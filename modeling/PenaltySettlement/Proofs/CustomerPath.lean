import PenaltySettlement.Proofs.LedgerReplies
import PenaltySettlement.Proofs.PercentCoding

/-!
# The path of a query

The customer of a query is a segment of the path, behind the collection of the ledger. Most codes of
customers are kept in it: the segment holds nothing that divides an address, and percent coding
undone it is the code. But a segment that is one or two dots is a step in the path and not a name,
and tabs and line breaks are passed over. So a code of dots is left out, one that becomes dots
without its breaks is taken as a step, and two codes with the same characters between their breaks
share a path.

## Main definitions

* `LedgerClient.stem` — the segments below which the collections of the ledger are.
* `LedgerClient.KeepsCustomer` — the path of a query holds the code of its customer.
* `Url.Proper` — the codes that are kept.
* `Url.Plain` — the segments that stand in a path as they are.
* `LedgerClient.CustomerPath` — the path of a query, case by case.

## Main results

* `LedgerClient.path_queryRequest` — every query has such a path.
* `LedgerClient.keepsCustomer_iff` — the codes that are kept are the proper ones.
* `LedgerClient.not_keepsCustomer` — there is one that is not.
-/

set_option autoImplicit false

namespace PenaltySettlement

/-! ## Segments -/

namespace Percent

/-- Segments can be read back. -/
lemma safe_inSpecialSegment : Safe inSpecialSegment where
  percent := by decide
  beyond := by
    intro b hb
    have hcontrol : isControl b = true := by
      simp only [isControl, Bool.or_eq_true, decide_eq_true_eq]
      omega
    simp [inSpecialSegment, inSegment, inPath, inFragment, hcontrol]

/-- The characters that divide an address. -/
def dividers : List UInt8 := ['/', '?', '#', '\\'].map fun c => c.toNat.toUInt8

/-- No segment holds a character that divides an address. -/
lemma divider_not_mem {mark : UInt8} (h : mark ∈ dividers) (text : List Char) :
    Char.ofNat mark.toNat ∉ (encodeText inSpecialSegment text).toList := by
  rw [encodeText, String.toList_ofList]
  obtain ⟨hmark, hpercent, hdigit⟩ : inSpecialSegment mark = true ∧
      Char.ofNat mark.toNat ≠ '%' ∧ ∀ n < 16, Char.ofNat mark.toNat ≠ hexDigit n := by
    simp only [dividers, List.map_cons, List.map_nil, List.mem_cons, List.not_mem_nil,
      or_false] at h
    rcases h with rfl | rfl | rfl | rfl <;> decide
  exact not_mem_encode hmark hpercent hdigit _

end Percent

namespace Url

/-- **A code that is kept as a segment**: it has no tabs and no line breaks and is not one or two
dots. -/
def Proper (code : String) : Prop :=
  (∀ c ∈ code.toList, isBreak c = false) ∧ code ≠ "." ∧ code ≠ ".."

instance (code : String) : Decidable (Proper code) :=
  have := List.decidableBAll (fun c => isBreak c = false) code.toList
  inferInstanceAs (Decidable (_ ∧ _))

/-- A text without breaks is as it is without them. -/
lemma withoutBreaks_eq_self_iff {text : List Char} :
    withoutBreaks text = text ↔ ∀ c ∈ text, isBreak c = false := by
  simp [withoutBreaks, List.filter_eq_self]

/-- **A plain segment** stands in a path as it is. -/
def Plain (segment : String) : Prop :=
  segment ≠ "" ∧ segment ≠ "." ∧ segment ≠ ".." ∧
    Percent.encodeText Percent.inSpecialSegment (withoutBreaks segment.toList) = segment

instance (segment : String) : Decidable (Plain segment) := inferInstanceAs (Decidable (_ ∧ _))

/-- A plain segment is put behind the others. -/
lemma appendSegment_of_plain {segment : String} (h : Plain segment) (segments : List String) :
    appendSegment Percent.inSpecialSegment segments segment = push segments segment := by
  obtain ⟨-, hone, htwo, hcode⟩ := h
  unfold appendSegment
  rw [if_neg (not_or.2 ⟨hone, htwo⟩), hcode]
  dsimp only
  rw [if_neg hone, if_neg htwo]

/-- The segments with one more behind others. -/
lemma push_append {segments : List String} (h : segments ≠ [""]) (segment : String) :
    push segments segment = segments ++ [segment] := if_neg h

/-- A text whose code is dots is these dots. -/
lemma encodeText_eq_iff {dots : String}
    (h : Percent.encodeText Percent.inSpecialSegment dots.toList = dots) {text : List Char} :
    Percent.encodeText Percent.inSpecialSegment text = dots ↔ text = dots.toList := by
  constructor
  · intro heq
    exact Percent.encodeText_injective Percent.safe_inSpecialSegment (heq.trans h.symm)
  · rintro rfl
    exact h

end Url

namespace LedgerClient

open Url (withoutBreaks)

/-- **The segments of the base address** below which the collections of the ledger are: an empty one
at the end gives way, and so does a single empty one, which is only the slash of the root. -/
def stem (c : LedgerClient) : List String :=
  match c.base.path with
  | .undivided _ => []
  | .segments path =>
    if Url.dropEmptyLast path = [""] then [] else Url.dropEmptyLast path

/-- **The path of a query holds the code of its customer**: behind the stem there are two more
segments, the collection and one that stands for the code. -/
def KeepsCustomer (c : LedgerClient) (q : TransactionsQuery) : Prop :=
  ∃ segment, (c.queryRequest q).url.path =
      .segments (c.stem ++ [LedgerAction.collection, segment]) ∧
    Percent.decode segment.toList = Utf8.encode q.customerCode

/-- **The path of a query**, by the code of its customer. -/
inductive CustomerPath (stem : List String) (code : String) : List String → Prop where
  | dots : code = "." ∨ code = ".." → CustomerPath stem code (stem ++ [LedgerAction.collection])
  | here : code ≠ "." → withoutBreaks code.toList = ['.'] →
      CustomerPath stem code (stem ++ [LedgerAction.collection, ""])
  | above : code ≠ ".." → withoutBreaks code.toList = ['.', '.'] →
      CustomerPath stem code (stem ++ [""])
  | segment {segment : String} : withoutBreaks code.toList ≠ ['.'] →
      withoutBreaks code.toList ≠ ['.', '.'] →
      (∀ mark ∈ Percent.dividers, Char.ofNat mark.toNat ∉ segment.toList) →
      Percent.decode segment.toList = Utf8.encode (String.ofList (withoutBreaks code.toList)) →
      CustomerPath stem code (stem ++ [LedgerAction.collection, segment])

/-- The path of a base address is divided into segments. -/
lemma exists_segments_of_new {text : String} {client : LedgerClient} (h : new text = .ok client) :
    ∃ path, client.base.path = .segments path := by
  unfold new at h
  split at h
  · cases h
  · split at h
    · cases h
    · rename_i hpath
      obtain rfl := Except.ok.inj h
      exact ⟨_, hpath⟩

/-- The scheme of an address of the web is well known. -/
lemma OnWeb.special {c : LedgerClient} (web : c.OnWeb) :
    Url.isSpecialScheme c.base.scheme = true := by
  rcases web with hweb | hweb <;> rw [hweb] <;> decide

/-- A stem is never a single empty segment. -/
lemma stem_ne (c : LedgerClient) : c.stem ≠ [""] := by
  unfold stem
  split
  · exact nofun
  · split
    · exact nofun
    · assumption

/-- The first segment behind the path of the base address. -/
lemma push_dropEmptyLast {c : LedgerClient} {path : List String}
    (h : c.base.path = .segments path) (segment : String) :
    Url.push (Url.dropEmptyLast path) segment = c.stem ++ [segment] := by
  unfold stem Url.push
  rw [h]
  dsimp only
  split <;> rfl

/-- The collection is a plain segment. -/
lemma plain_collection : Url.Plain LedgerAction.collection := by decide +kernel

/-- Above the collection is the stem. -/
lemma above_collection (stem : List String) :
    Url.above (stem ++ [LedgerAction.collection]) = stem := by
  have hdrive : Url.isDrive (LedgerAction.collection.toList.takeWhile (· != '\\')) = false := by
    decide +kernel
  unfold Url.above
  rw [List.getLast?_concat]
  dsimp only
  rw [hdrive, if_neg Bool.false_ne_true, List.dropLast_concat]

/-- The segment of a customer behind the collection. -/
lemma customerPath_appendSegment {stem : List String} (hstem : stem ≠ [""]) (code : String) :
    CustomerPath stem code (Url.appendSegment Percent.inSpecialSegment
      (stem ++ [LedgerAction.collection]) code) := by
  have hone : Percent.encodeText Percent.inSpecialSegment ".".toList = "." := by decide +kernel
  have htwo : Percent.encodeText Percent.inSpecialSegment "..".toList = ".." := by decide +kernel
  have hbehind : stem ++ [LedgerAction.collection] ≠ [""] := by
    cases stem <;> simp [LedgerAction.collection]
  unfold Url.appendSegment
  split
  · exact .dots ‹_›
  · rename_i hdots
    obtain ⟨hnotOne, hnotTwo⟩ := not_or.1 hdots
    dsimp only
    split
    · rename_i hcode
      rw [Url.push_append hbehind, List.append_assoc]
      exact .here hnotOne ((Url.encodeText_eq_iff hone).1 hcode)
    · rename_i hnotHere
      split
      · rename_i hcode
        have habove : (if (stem ++ [LedgerAction.collection]).length ≤ 1 then [""]
            else Url.push (Url.above (stem ++ [LedgerAction.collection])) "") = stem ++ [""] := by
          rw [above_collection, Url.push_append hstem]
          split
          · rename_i hlength
            cases stem with
            | nil => rfl
            | cons first others => simp at hlength
          · rfl
        rw [habove]
        exact .above hnotTwo ((Url.encodeText_eq_iff htwo).1 hcode)
      · rename_i hnotAbove
        rw [Url.push_append hbehind, List.append_assoc]
        refine .segment ?_ ?_ ?_ ?_
        · exact fun heq => hnotHere ((Url.encodeText_eq_iff hone).2 heq)
        · exact fun heq => hnotAbove ((Url.encodeText_eq_iff htwo).2 heq)
        · exact fun mark hmark => Percent.divider_not_mem hmark _
        · exact Percent.decode_encodeText Percent.safe_inSpecialSegment _

/-- The path of a request is that of its address. -/
lemma path_request (method : HttpMethod) (u : Url) (parameters : List (String × String))
    (body : Option (List UInt8)) : (request method u parameters body).url.path = u.path := by
  unfold request
  dsimp only
  split <;> rfl

/-- **Every query has such a path.**

**Proof sketch.** The collection is put behind the stem as it is (`Url.appendSegment_of_plain`). The
code of the customer is left out, is taken as a step, or is a segment that can be read back
(`customerPath_appendSegment`). -/
theorem path_queryRequest {text : String} {client : LedgerClient} (h : new text = .ok client)
    (web : client.OnWeb) (q : TransactionsQuery) :
    ∃ path, (client.queryRequest q).url.path = .segments path ∧
      CustomerPath client.stem q.customerCode path := by
  obtain ⟨base, hbase⟩ := exists_segments_of_new h
  have hspecial := web.special
  refine ⟨_, ?_, customerPath_appendSegment client.stem_ne q.customerCode⟩
  rw [queryRequest, path_request, endpoint, Url.appendSegments, hbase]
  simp only [hspecial, if_true, List.foldl_cons, List.foldl_nil]
  rw [Url.appendSegment_of_plain plain_collection, push_dropEmptyLast hbase]

/-- A path with two segments behind the stem that stand for the code is that of a proper code. -/
lemma CustomerPath.proper {stem : List String} {code segment : String}
    (h : CustomerPath stem code (stem ++ [LedgerAction.collection, segment]))
    (hdecode : Percent.decode segment.toList = Utf8.encode code) : Url.Proper code := by
  generalize hpath : stem ++ [LedgerAction.collection, segment] = path at h
  cases h with
  | dots => simp at hpath
  | here hne hcode =>
    obtain rfl : segment = "" := by simpa using hpath
    have hempty : "" = code := Utf8.encode_injective hdecode
    rw [← hempty] at hcode
    cases hcode
  | above => simp at hpath
  | @segment other hone htwo _ hother =>
    obtain rfl : segment = other := by simpa using hpath
    have hsame : String.ofList (withoutBreaks code.toList) = code :=
      Utf8.encode_injective (hother.symm.trans hdecode)
    have hself : withoutBreaks code.toList = code.toList := by
      rw [← String.toList_ofList (l := withoutBreaks code.toList), hsame]
    rw [hself] at hone htwo
    refine ⟨Url.withoutBreaks_eq_self_iff.1 hself, ?_, ?_⟩
    · rintro rfl
      exact hone rfl
    · rintro rfl
      exact htwo rfl

/-- The path of a proper code has two segments behind the stem. -/
lemma CustomerPath.exists_segment {stem : List String} {code : String} {path : List String}
    (h : CustomerPath stem code path) (proper : Url.Proper code) :
    ∃ segment, path = stem ++ [LedgerAction.collection, segment] ∧
      Percent.decode segment.toList = Utf8.encode code := by
  obtain ⟨hbreaks, hone, htwo⟩ := proper
  have hself : withoutBreaks code.toList = code.toList := Url.withoutBreaks_eq_self_iff.2 hbreaks
  have hdots : ∀ {dots : String}, code ≠ dots → withoutBreaks code.toList ≠ dots.toList := by
    intro dots hne heq
    exact hne (String.toList_inj.1 (hself.symm.trans heq))
  cases h with
  | dots hdot => exact absurd hdot (not_or.2 ⟨hone, htwo⟩)
  | here _ hcode => exact absurd hcode (hdots hone)
  | above _ hcode => exact absurd hcode (hdots htwo)
  | @segment segment _ _ _ hdecode =>
    rw [hself, String.ofList_toList] at hdecode
    exact ⟨segment, rfl, hdecode⟩

section

variable {text : String} {client : LedgerClient} (h : new text = .ok client)
  (web : client.OnWeb)

include h web

/-- **The codes that are kept** are the proper ones. -/
lemma keepsCustomer_iff (q : TransactionsQuery) :
    client.KeepsCustomer q ↔ Url.Proper q.customerCode := by
  obtain ⟨path, hpath, hcases⟩ := path_queryRequest h web q
  constructor
  · rintro ⟨segment, hsegment, hdecode⟩
    obtain rfl : path = client.stem ++ [LedgerAction.collection, segment] :=
      UrlPath.segments.inj (hpath.symm.trans hsegment)
    exact hcases.proper hdecode
  · intro proper
    obtain ⟨segment, rfl, hdecode⟩ := hcases.exists_segment proper
    exact ⟨segment, hpath, hdecode⟩

/-- Different customers with proper codes have different paths. -/
lemma customerCode_of_path {q q' : TransactionsQuery} (proper : Url.Proper q.customerCode)
    (proper' : Url.Proper q'.customerCode)
    (hpath : (client.queryRequest q).url.path = (client.queryRequest q').url.path) :
    q.customerCode = q'.customerCode := by
  obtain ⟨segment, hsegment, hdecode⟩ := (keepsCustomer_iff h web q).2 proper
  obtain ⟨segment', hsegment', hdecode'⟩ := (keepsCustomer_iff h web q').2 proper'
  rw [hsegment, hsegment'] at hpath
  obtain rfl : segment = segment' := by simpa using UrlPath.segments.inj hpath
  exact Utf8.encode_injective (hdecode.symm.trans hdecode')

/-- **The customers in the paths of queries.** A query that lacks nothing is sent with its path,
which depends on the code of the customer as it should; the codes that a path keeps are the proper
ones, and different proper codes have different paths.

**Proof sketch.** A code that is no step is put behind the collection in percent coding, which can
be undone and leaves nothing that divides an address (`path_queryRequest`). What it undoes to is
the code without its breaks. -/
theorem customer_paths (send : HttpRequest → HttpReply) :
    (∀ q : TransactionsQuery, (∀ field, ¬q.Lacks field) →
      (client.transactions send q).requests = [client.queryRequest q]) ∧
    (∀ q : TransactionsQuery, ∃ path, (client.queryRequest q).url.path = .segments path ∧
      CustomerPath client.stem q.customerCode path) ∧
    (∀ q : TransactionsQuery, client.KeepsCustomer q ↔ Url.Proper q.customerCode) ∧
    ∀ q q' : TransactionsQuery, Url.Proper q.customerCode → Url.Proper q'.customerCode →
      (client.queryRequest q).url.path = (client.queryRequest q').url.path →
      q.customerCode = q'.customerCode := by
  refine ⟨?_, path_queryRequest h web, keepsCustomer_iff h web, ?_⟩
  · intro q hnone
    exact ((transactions_lawful h send q).sent hnone web).1
  · intro q q' proper proper'
    exact customerCode_of_path h web proper proper'

end

/-- The path of a customer with marks, dots and blanks in the code holds the code, and the path of a
customer with a tab does not. -/
theorem customer_paths_marked :
    let client : LedgerClient := ⟨{
      scheme := "http", host := some (.ipv6 [0, 0, 0, 0, 0, 0, 0, 1]), path := .segments [""] }⟩
    client.KeepsCustomer ⟨"../a b?c#d%2e\\é", "LP"⟩ ∧ ¬client.KeepsCustomer ⟨"a\tb", "LP"⟩ := by
  intro client
  have hclient : new "http://[::1]" = .ok client := by decide +kernel
  have hweb : client.OnWeb := by decide
  obtain ⟨-, -, hkeeps, -⟩ := customer_paths hclient hweb fun _ => .failed "no connection"
  rw [hkeeps, hkeeps]
  exact ⟨by decide +kernel, by decide +kernel⟩

/-- **Not every path holds the code of its customer**: one of two dots is left out. -/
theorem not_keepsCustomer :
    ¬∀ {text : String} {client : LedgerClient}, new text = .ok client → client.OnWeb →
      ∀ q : TransactionsQuery, (∀ field, ¬q.Lacks field) → client.KeepsCustomer q := by
  intro hkeeps
  set client : LedgerClient := ⟨{
    scheme := "http", host := some (.ipv6 [0, 0, 0, 0, 0, 0, 0, 1]), path := .segments [""] }⟩
  have hclient : new "http://[::1]" = .ok client := by decide +kernel
  have hnone : ∀ field, ¬TransactionsQuery.Lacks ⟨"..", "LP"⟩ field := by
    rintro field (hcustomer | hcompany)
    · exact absurd hcustomer (by decide)
    · exact absurd hcompany (by decide)
  have hpath : (client.queryRequest ⟨"..", "LP"⟩).url.path = .segments ["arTransactions"] := by
    decide +kernel
  obtain ⟨segment, hsegment, -⟩ := hkeeps hclient (by decide) ⟨"..", "LP"⟩ hnone
  have hlength := congrArg List.length (UrlPath.segments.inj (hpath.symm.trans hsegment))
  simp at hlength

end LedgerClient

end PenaltySettlement
