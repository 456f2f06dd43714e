import Mathlib.Tactic.Common
import PenaltySettlement.Ledger.Client

/-!
# Requests of the ledger client

An address of the web names a host, since the reader refuses one that does not. Hence a client with
such a base address can send each of its requests, and a client with another one can send none. A
confirmation is sent as a single request, unless its input breaks a rule.

## Main definitions

* `PaymentActionInput.Named` — the input of a confirmation names a company and a payment.
* `LedgerClient.OnWeb` — the base address is one of the web.
* `LedgerClient.commandRequest` — the request of a command; `LedgerClient.confirmRequest` — that of
  a confirmation.

## Main results

* `Url.hasHost_of_web` — an address of the web names a host.
* `LedgerClient.requests_confirm` — the requests of a confirmation.
-/

set_option autoImplicit false

namespace PenaltySettlement

/-- What comes of two readings in a row comes of both. -/
lemma Except.exists_of_bind_eq_ok {ε α β : Type} {x : Except ε α} {next : α → Except ε β} {b : β}
    (h : x >>= next = .ok b) : ∃ a, x = .ok a ∧ next a = .ok b := by
  cases x with
  | error e => cases h
  | ok a => exact ⟨a, rfl, h⟩

/-! ## Hosts -/

namespace Host

/-- A number of the sixth version is read as such. -/
lemma ipv6?_eq_some {text : List Char} {host : Host} (h : ipv6? text = some host) :
    ∃ pieces, host = .ipv6 pieces := by
  unfold ipv6? at h
  split at h
  · obtain ⟨pieces, -, hpieces⟩ := Option.bind_eq_some_iff.1 h
    split at hpieces
    · exact ⟨_, (Option.some.inj hpieces).symm⟩
    · cases hpieces
  · obtain ⟨before, -, hbefore⟩ := Option.bind_eq_some_iff.1 h
    obtain ⟨behind, -, hbehind⟩ := Option.bind_eq_some_iff.1 hbefore
    dsimp only at hbehind
    split at hbehind
    · cases hbehind
    · exact ⟨_, (Option.some.inj hbehind).symm⟩

/-- A number of the fourth version is read as such. -/
lemma ipv4?_eq_some {name : List Char} {host : Host} (h : ipv4? name = some host) :
    ∃ number, host = .ipv4 number := by
  obtain ⟨parts, -, hparts⟩ := Option.bind_eq_some_iff.1 h
  obtain ⟨last, -, hlast⟩ := Option.bind_eq_some_iff.1 hparts
  dsimp only at hlast
  split at hlast
  · cases hlast
  · exact ⟨_, (Option.some.inj hlast).symm⟩

/-- A host that has been read with a well known scheme is not the empty name. -/
lemma parse_ne {text : List Char} {host : Host} (h : parse text = .ok host) :
    host ≠ .domain "" := by
  unfold parse parseBrackets at h
  split at h
  · split at h
    · split at h
      · rename_i found hipv6
        obtain rfl := Except.ok.inj h
        obtain ⟨pieces, rfl⟩ := ipv6?_eq_some hipv6
        exact Host.noConfusion
      · cases h
    · cases h
  · split at h
    · cases h
    · rename_i name hname
      split at h
      · cases h
      · rename_i hnonempty
        split at h
        · split at h
          · rename_i found hipv4
            obtain rfl := Except.ok.inj h
            obtain ⟨number, rfl⟩ := ipv4?_eq_some hipv4
            exact Host.noConfusion
          · cases h
        · obtain rfl := Except.ok.inj h
          exact fun heq => hnonempty (Host.domain.inj heq)

end Host

/-! ## Addresses -/

namespace Url

/-- An address names a host when it has one that is not the empty name. -/
lemma hasHost_of_ne {u : Url} {host : Host} (h : u.host = some host) (hne : host ≠ .domain "") :
    u.hasHost = true := by
  unfold hasHost
  rw [h]
  cases host with
  | domain name => simpa using fun hname => hne (congrArg Host.domain hname)
  | ipv4 number => rfl
  | ipv6 pieces => rfl

/-- **What has been read of an address**: the scheme is the one that was found, and where it is well
known there is a host, unless it is that of files. -/
structure Hosted (scheme : String) (u : Url) : Prop where
  scheme_eq : u.scheme = scheme
  hasHost : isSpecialScheme scheme = true → u.hasHost = true

/-- The path, the query and the fragment of an address do not change its host. -/
lemma Hosted.withPath {scheme : String} {u : Url} (h : u.Hosted scheme) (text : List Char) :
    (u.withPath text).Hosted scheme := ⟨h.scheme_eq, h.hasHost⟩

/-- Where the scheme is well known a host is read. -/
lemma hosted_withHost {u u' : Url} {text rest : List Char}
    (h : u.withHost text = .ok (u', rest)) : u'.Hosted u.scheme := by
  unfold withHost at h
  dsimp only at h
  split at h
  · cases h
  · split at h
    · obtain ⟨host, hhost, h⟩ := Except.exists_of_bind_eq_ok h
      split at h
      · cases h
      · obtain ⟨port, -, h⟩ := Except.exists_of_bind_eq_ok h
        cases h
        exact ⟨rfl, fun _ => hasHost_of_ne rfl (Host.parse_ne hhost)⟩
    · rename_i hplain
      obtain ⟨host, -, h⟩ := Except.exists_of_bind_eq_ok h
      split at h
      · cases h
      · obtain ⟨port, -, h⟩ := Except.exists_of_bind_eq_ok h
        cases h
        exact ⟨rfl, fun hspecial => absurd hspecial hplain⟩

/-- A user does not change the scheme. -/
lemma scheme_withUser (u : Url) (text : List Char) : (u.withUser text).scheme = u.scheme := rfl

/-- So it is with what else stands behind two slashes. -/
lemma hosted_withAuthority {u u' : Url} {text : List Char} (h : u.withAuthority text = .ok u') :
    u'.Hosted u.scheme := by
  unfold withAuthority at h
  dsimp only at h
  split at h
  · cases h
  · obtain ⟨⟨found, behind⟩, hfound, h⟩ := Except.exists_of_bind_eq_ok h
    have hosted := hosted_withHost hfound
    rw [scheme_withUser] at hosted
    dsimp only at h
    split at h
    · cases h
    · cases h
      exact hosted.withPath _

/-- The path of a file does not change the scheme. -/
lemma scheme_withFilePath (u : Url) (done : List String) (text : List Char) :
    (u.withFilePath done text).scheme = u.scheme := rfl

/-- The address of a file is one of a file. -/
lemma scheme_parseFile {text : List Char} {u : Url} (h : parseFile text = .ok u) :
    u.scheme = "file" := by
  unfold parseFile at h
  dsimp only at h
  split at h
  · obtain rfl := Except.ok.inj h
    rw [scheme_withFilePath]
  · split at h
    · obtain rfl := Except.ok.inj h
      rw [scheme_withFilePath]
    · split at h <;>
      · obtain ⟨host, -, h⟩ := Except.exists_of_bind_eq_ok h
        split at h <;>
        · obtain rfl := Except.ok.inj h
          rw [scheme_withFilePath]

/-- **An address is one of a file, or else has a host where its scheme is well known.** -/
lemma hosted_parse {text : String} {u : Url} (h : parse text = .ok u) :
    u.scheme = "file" ∨ ∃ scheme, u.Hosted scheme := by
  unfold parse at h
  dsimp only at h
  split at h
  · cases h
  · rename_i scheme rest hsplit
    split at h
    · exact .inl (scheme_parseFile h)
    · refine .inr ⟨scheme, ?_⟩
      split at h
      · exact hosted_withAuthority h
      · rename_i hplain
        have plain : ∀ {u : Url}, u.scheme = scheme → u.Hosted scheme :=
          fun hscheme => ⟨hscheme, fun hspecial => absurd hspecial hplain⟩
        split at h
        · exact hosted_withAuthority h
        · obtain rfl := Except.ok.inj h
          exact plain rfl
        · obtain rfl := Except.ok.inj h
          exact plain rfl

/-- **An address of the web names a host.** -/
theorem hasHost_of_web {text : String} {u : Url} (h : parse text = .ok u)
    (web : u.scheme = "http" ∨ u.scheme = "https") : u.hasHost = true := by
  rcases hosted_parse h with hfile | ⟨scheme, hosted⟩
  · rw [hfile] at web
    exact absurd web (by decide)
  · refine hosted.hasHost ?_
    rw [← hosted.scheme_eq]
    rcases web with hweb | hweb <;> rw [hweb] <;> decide

end Url

/-! ## Requests -/

/-- A confirmation names a company and a payment. -/
def PaymentActionInput.Named (input : PaymentActionInput) : Prop :=
  Text.isBlank input.companyCode = false ∧ Text.isBlank input.paymentId = false

instance (input : PaymentActionInput) : Decidable input.Named :=
  inferInstanceAs (Decidable (_ ∧ _))

namespace LedgerClient

/-- The base address is one of the web. -/
def OnWeb (c : LedgerClient) : Prop := c.base.scheme = "http" ∨ c.base.scheme = "https"

instance (c : LedgerClient) : Decidable c.OnWeb := inferInstanceAs (Decidable (_ ∨ _))

/-- **The request of a command**: its input goes to the path of its action. -/
def commandRequest (c : LedgerClient) (command : LedgerCommand) : HttpRequest :=
  request .post (c.endpoint command.action.segments) [identity] (some command.body)

/-- **The request of a confirmation**: it names the company and the payment in its body. -/
def confirmRequest (c : LedgerClient) (input : PaymentActionInput) : HttpRequest :=
  c.commandRequest (.confirm input)

/-- The base address of a client has been read. -/
lemma parse_of_new {text : String} {client : LedgerClient} (h : new text = .ok client) :
    Url.parse text = .ok client.base := by
  unfold new at h
  split at h
  · cases h
  · rename_i url hparse
    split at h
    · cases h
    · obtain rfl := Except.ok.inj h
      exact hparse

/-- A resource has the base address but for the path. -/
lemma endpoint_eq (c : LedgerClient) (segments : List String) :
    ∃ path, c.endpoint segments = { c.base with path } := by
  unfold endpoint Url.appendSegments
  split <;> exact ⟨_, rfl⟩

/-- A resource has the scheme and the host of the base address. -/
lemma endpoint_kept (c : LedgerClient) (segments : List String) :
    (c.endpoint segments).scheme = c.base.scheme ∧
      (c.endpoint segments).hasHost = c.base.hasHost := by
  obtain ⟨path, hpath⟩ := c.endpoint_eq segments
  rw [hpath]
  exact ⟨rfl, rfl⟩

/-- Requests can be sent exactly when the base address is one of the web. -/
lemma unsendable_eq_none_iff {text : String} {client : LedgerClient} (h : new text = .ok client)
    (segments : List String) (r : HttpRequest) :
    unsendable (client.endpoint segments) r = none ↔ client.OnWeb := by
  obtain ⟨hscheme, hhost⟩ := client.endpoint_kept segments
  unfold unsendable
  rw [hscheme, hhost]
  constructor
  · intro hnone
    by_contra hweb
    unfold OnWeb at hweb
    rw [if_neg hweb] at hnone
    split at hnone <;> cases hnone
  · intro hweb
    have : client.base.hasHost = true := Url.hasHost_of_web (parse_of_new h) hweb
    rw [this, if_neg (by decide)]
    exact if_pos hweb

/-- At most one request is sent. -/
lemma requests_exchange {α : Type} (send : HttpRequest → HttpReply) (u : Url) (r : HttpRequest)
    (log : Log) (receive : Nat → Except String (List UInt8) → Except LedgerError α × Log) :
    (exchange send u r log receive).requests = if unsendable u r = none then [r] else [] := by
  unfold exchange
  cases unsendable u r with
  | some reason => rfl
  | none => cases send r <;> rfl

/-- A confirmation breaks no rule when it names a company and a payment. -/
lemma violations_eq_nil_iff (input : PaymentActionInput) :
    input.violations = [] ↔ input.Named := by
  unfold PaymentActionInput.violations PaymentActionInput.Named Violation.required
    Violation.requiredIf
  cases Text.isBlank input.companyCode <;> cases Text.isBlank input.paymentId <;> simp

/-- **The requests of a confirmation**: a single one when it names a company and a payment. -/
theorem requests_confirm {text : String} {client : LedgerClient} (h : new text = .ok client)
    (send : HttpRequest → HttpReply) (input : PaymentActionInput) :
    (client.act send (.confirm input)).requests =
      if client.OnWeb ∧ input.Named then [client.confirmRequest input] else [] := by
  have hrules : (LedgerCommand.confirm input).violations = input.violations := rfl
  have hnamed := violations_eq_nil_iff input
  rw [act, hrules, checked]
  cases hviolations : input.violations with
  | cons violation others =>
    rw [hviolations] at hnamed
    have hunnamed : ¬(client.OnWeb ∧ input.Named) :=
      fun hsent => List.cons_ne_nil _ _ (hnamed.2 hsent.2)
    simp only [if_neg hunnamed]
    rfl
  | nil =>
    have hsendable := unsendable_eq_none_iff h LedgerAction.confirm.segments
      (client.confirmRequest input)
    simp only [List.isEmpty_nil, if_true, hnamed.1 hviolations, and_true]
    rw [← if_congr hsendable rfl rfl]
    exact requests_exchange _ _ _ _ _

end LedgerClient

end PenaltySettlement
