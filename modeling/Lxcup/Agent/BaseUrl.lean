import Lxcup.Agent.Client
import Lxcup.Apt.Texts

/-!
# Where an agent's token is sent

The token of an agent goes with every request, in clear text unless the scheme is `https`.  The
client is therefore only configured for URLs that are encrypted or lead to the machine itself.  That
is decided by how the text of the URL begins, while the host is what the text says when it is split
into its parts: the scheme up to the first colon, the authority up to the next slash, question mark
or hash, and of the authority what is left without the user information, which ends at an at sign,
and without the port behind a colon.

The HTTP client splits the URL of a request in its own way: it drops tabs and line breaks wherever
they stand, takes any number of slashes and backslashes between the scheme and the authority, and
ends the authority at a backslash as well.  So the text of the base URL and the destination of a
request can differ, and both are looked at.

A text that begins with `http://127.0.0.1` may go on within the host, or turn what it began with
into user information.  How it may go on is described exactly.

## Main definitions

* `splitUrl`, `clientSplit`, `authorityHost` — the parts of a URL, by its grammar and for the
  client.
* `SecureDestination` — encrypted, or on the machine itself.
* `StaysOnHost` — how a text may go on after the accepted beginning.
* `Strays` — an accepted URL that leads elsewhere.

## Main results

* `secureDestination_http` — the destination of an authority that begins with a loopback host.
* `clientSplit_request` — what the client splits the URL of a request into.
* `new_secureDestination_iff` — the accepted URLs that, with all their requests, are secure.
-/

namespace Lxcup.Agent

open Lxcup.Lib Lxcup.Core Lxcup.Apt

/-! ### The parts of a URL -/

/-- What ends the authority of a URL by its grammar. -/
def authorityEnds : List Char := ['/', '?', '#']

/-- The scheme and the authority of a URL that has both. -/
def splitUrl (url : List Char) : Option (List Char × List Char) :=
  let scheme := before [':', '/', '?', '#'] url
  match url.drop scheme.length with
  | ':' :: '/' :: '/' :: rest => some (scheme, before authorityEnds rest)
  | _ => none

/-- What ends it for the client. -/
def clientAuthorityEnds : List Char := ['/', '\\', '?', '#']

/-- The text of a URL as the client reads it: tabs and line breaks are dropped. -/
def clientText (url : List Char) : List Char :=
  url.filter fun c => c ≠ '\t' && c ≠ '\n' && c ≠ '\r'

/-- The scheme and the authority of a URL for the client. -/
def clientSplit (url : List Char) : Option (List Char × List Char) :=
  let scheme := before [':', '/', '?', '#'] (clientText url)
  match (clientText url).drop scheme.length with
  | ':' :: rest =>
    some (scheme, before clientAuthorityEnds (rest.dropWhile fun c => c = '/' || c = '\\'))
  | _ => none

/-- The part of a text behind its last at sign. -/
def behindUserinfo (authority : List Char) : List Char :=
  (before ['@'] authority.reverse).reverse

/-- The host in an authority: without user information and without a port.  An address in brackets
has colons of its own. -/
def authorityHost (authority : List Char) : List Char :=
  match behindUserinfo authority with
  | '[' :: address => '[' :: before [']'] address ++ [']']
  | hostAndPort => before [':'] hostAndPort

/-- The hosts that are the machine itself. -/
def loopbackHosts : List (List Char) := ["127.0.0.1".toList, "localhost".toList]

/-- What a URL is split into is encrypted, or the host is the machine itself. -/
def SecureDestination (parts : Option (List Char × List Char)) : Prop :=
  ∃ scheme authority, parts = some (scheme, authority) ∧
    (scheme = "https".toList ∨ scheme = "http".toList ∧ authorityHost authority ∈ loopbackHosts)

/-- How an authority that begins with a loopback host may go on: with nothing or a port, or with
user information behind which a loopback host stands. -/
def StaysOnHost (rest : List Char) : Prop :=
  if '@' ∈ rest then authorityHost rest ∈ loopbackHosts else rest = [] ∨ rest.head? = some ':'

/-- A URL that is accepted for what it begins with, and goes on to another host: by its grammar, or
in the eyes of the client. -/
structure Strays (baseUrl token : String) : Prop where
  token : trim token.toList ≠ []
  leaves : ∃ host ∈ loopbackHosts, ∃ rest, baseUrl.toList = "http://".toList ++ (host ++ rest) ∧
    ¬(StaysOnHost (before authorityEnds rest) ∧
      StaysOnHost (before clientAuthorityEnds (clientText rest)))

/-! ### Loopback hosts -/

/-- The characters that end a part of a URL, or open an address in brackets, and those the client
drops. -/
def urlMarks : List Char := [':', '/', '\\', '?', '#', '@', '[', '\t', '\n', '\r']

/-- A loopback host has nine characters, and none that ends a part of a URL. -/
theorem loopbackHost_plain {host : List Char} (h : host ∈ loopbackHosts) :
    host.length = 9 ∧ ∀ c ∈ host, c ∉ urlMarks := by
  have hmarks : ∀ host ∈ loopbackHosts, host.length = 9 ∧ host.any urlMarks.contains = false := by
    decide
  obtain ⟨hlength, hany⟩ := hmarks host h
  refine ⟨hlength, fun c hc hmark => ?_⟩
  rw [List.any_eq_false] at hany
  exact hany c hc (List.contains_iff_mem.mpr hmark)

variable {host : List Char}

/-- No part of a URL ends within a loopback host. -/
theorem loopbackHost_notMem (h : host ∈ loopbackHosts) {ends : List Char}
    (hends : ends ⊆ urlMarks) : ∀ c ∈ host, c ∉ ends :=
  fun c hc hmem => (loopbackHost_plain h).2 c hc (hends hmem)

/-- What the text of a URL with an accepted beginning is split into. -/
theorem splitUrl_loopback (h : host ∈ loopbackHosts) (rest : List Char) :
    splitUrl ("http://".toList ++ (host ++ rest)) =
      some ("http".toList, host ++ before authorityEnds rest) := by
  have hscheme : ∀ tail : List Char,
      before [':', '/', '?', '#'] ("http://".toList ++ tail) = "http".toList := fun tail => by
    simp [before]
  rw [splitUrl]
  simp only [hscheme]
  rw [← before_append_of_all (loopbackHost_notMem h (by decide)) rest]
  simp

/-- Without an at sign behind it, the host goes on to the next colon. -/
theorem authorityHost_of_notMem (h : host ∈ loopbackHosts) {rest : List Char} (hat : '@' ∉ rest) :
    authorityHost (host ++ rest) = host ++ before [':'] rest := by
  obtain ⟨hlength, hplain⟩ := loopbackHost_plain h
  have hall : behindUserinfo (host ++ rest) = host ++ rest := by
    rw [behindUserinfo, before_eq_self, List.reverse_reverse]
    intro c hc hmem
    obtain rfl := List.mem_singleton.mp hmem
    obtain hhost | hrest := List.mem_append.mp (List.mem_reverse.mp hc)
    · exact hplain '@' hhost (by decide)
    · exact hat hrest
  obtain ⟨first, tail, rfl⟩ : ∃ first tail, host = first :: tail :=
    List.exists_cons_of_length_pos (by omega)
  have hfirst : first ≠ '[' := by
    rintro rfl
    exact hplain '[' List.mem_cons_self (by decide)
  have hcolon : ∀ c ∈ first :: tail, c ∉ [':'] := by
    intro c hc hmem
    exact hplain c hc (List.mem_singleton.mp hmem ▸ by decide)
  rw [authorityHost, hall, ← before_append_of_all hcolon]
  split
  · rename_i heq
    exact absurd (List.cons.inj heq).1 hfirst
  · rfl

/-- With one, what the text began with is user information. -/
theorem authorityHost_of_mem {rest : List Char} (hat : '@' ∈ rest) (host : List Char) :
    authorityHost (host ++ rest) = authorityHost rest := by
  have hbehind : behindUserinfo (host ++ rest) = behindUserinfo rest := by
    rw [behindUserinfo, List.reverse_append, before_append_of_mem
      ⟨'@', List.mem_reverse.mpr hat, List.mem_singleton_self _⟩, behindUserinfo]
  rw [authorityHost, authorityHost, hbehind]

/-- An authority that begins with a loopback host leads to the machine itself where it stays on the
host. -/
theorem secureDestination_http (h : host ∈ loopbackHosts) (authority : List Char) :
    SecureDestination (some ("http".toList, host ++ authority)) ↔ StaysOnHost authority := by
  have hlocal : SecureDestination (some ("http".toList, host ++ authority)) ↔
      authorityHost (host ++ authority) ∈ loopbackHosts := by
    constructor
    · rintro ⟨scheme, other, heq, hscheme⟩
      obtain ⟨rfl, rfl⟩ := Prod.mk.inj (Option.some_inj.mp heq)
      exact (hscheme.resolve_left (by decide)).2
    · intro hhost
      exact ⟨_, _, rfl, .inr ⟨rfl, hhost⟩⟩
  rw [hlocal, StaysOnHost]
  by_cases hat : '@' ∈ authority
  · rw [if_pos hat, authorityHost_of_mem hat]
  · rw [if_neg hat, authorityHost_of_notMem h hat]
    have hnil : before [':'] authority = [] ↔ authority = [] ∨ authority.head? = some ':' := by
      rw [before_eq_nil]
      cases authority <;> simp
    rw [← hnil]
    constructor
    · -- both hosts have the same length, so nothing can be added to one
      intro hmem
      have hlength := (loopbackHost_plain hmem).1
      rw [List.length_append, (loopbackHost_plain h).1] at hlength
      exact List.length_eq_zero_iff.mp (by omega)
    · intro hempty
      rw [hempty, List.append_nil]
      exact h

/-! ### The URLs of requests -/

/-- The slashes at the end of a URL stand behind a part that does not end with one. -/
theorem trimEndSlashes_append {baseUrl : String} {start rest : List Char}
    (hurl : baseUrl.toList = start ++ rest) (hstart : start ≠ [])
    (hlast : start.getLast? ≠ some '/') :
    ∃ kept slashes, rest = kept ++ slashes ∧ (∀ c ∈ slashes, c = '/') ∧
      (trimEndSlashes baseUrl).toList = start ++ kept := by
  have hkept : start.reverse.dropWhile (· = '/') = start.reverse := by
    obtain ⟨last, tail, hreverse⟩ : ∃ last tail, start.reverse = last :: tail :=
      List.exists_cons_of_ne_nil (by simpa using hstart)
    have hne : last ≠ '/' := by
      rintro rfl
      rw [← List.head?_reverse, hreverse] at hlast
      exact hlast rfl
    rw [hreverse, List.dropWhile_cons_of_neg (by simpa using hne)]
  refine ⟨(rest.reverse.dropWhile (· = '/')).reverse, (rest.reverse.takeWhile (· = '/')).reverse,
    ?_, ?_, ?_⟩
  · rw [← List.reverse_append, List.takeWhile_append_dropWhile, List.reverse_reverse]
  · intro c hc
    simpa using List.mem_takeWhile_imp (List.mem_reverse.mp hc)
  · rw [trimEndSlashes, String.toList_ofList, hurl, List.reverse_append, List.dropWhile_append,
      hkept]
    split
    · rename_i hempty
      rw [List.isEmpty_iff.mp hempty]
      simp
    · simp

@[simp] theorem clientText_nil : clientText [] = [] := rfl

@[simp] theorem clientText_slash (rest : List Char) :
    clientText ('/' :: rest) = '/' :: clientText rest := rfl

theorem clientText_append (start rest : List Char) :
    clientText (start ++ rest) = clientText start ++ clientText rest :=
  List.filter_append ..

/-- A text without tabs and line breaks is read as it is. -/
theorem clientText_append_of_all {start : List Char}
    (h : ∀ c ∈ start, c ∉ ['\t', '\n', '\r']) (rest : List Char) :
    clientText (start ++ rest) = start ++ clientText rest := by
  have hstart : clientText start = start := by
    refine List.filter_eq_self.mpr fun c hc => ?_
    have hnot := h c hc
    simp only [List.mem_cons, List.not_mem_nil, or_false, not_or] at hnot
    simp [hnot]
  rw [clientText_append, hstart]

/-- What the client splits a text with an accepted beginning into. -/
theorem clientSplit_loopback (h : host ∈ loopbackHosts) (rest : List Char) :
    clientSplit ("http://".toList ++ (host ++ rest)) =
      some ("http".toList, host ++ before clientAuthorityEnds (clientText rest)) := by
  have htext : clientText ("http://".toList ++ (host ++ rest)) =
      "http://".toList ++ (host ++ clientText rest) := by
    rw [clientText_append_of_all (by simp),
      clientText_append_of_all (loopbackHost_notMem h (by decide))]
  have hscheme : ∀ tail : List Char,
      before [':', '/', '?', '#'] ("http://".toList ++ tail) = "http".toList := fun tail => by
    simp [before]
  -- the host begins where the slashes end
  have hslashes : ∀ tail : List Char,
      ('/' :: '/' :: (host ++ tail)).dropWhile (fun c => c = '/' || c = '\\') = host ++ tail := by
    intro tail
    obtain ⟨first, others, hcons⟩ : ∃ first others, host = first :: others :=
      List.exists_cons_of_length_pos (by rw [(loopbackHost_plain h).1]; decide)
    have hfirst : first ∉ ['/', '\\'] :=
      loopbackHost_notMem h (by decide) first (hcons ▸ List.mem_cons_self)
    simp only [List.mem_cons, List.not_mem_nil, or_false, not_or] at hfirst
    rw [hcons]
    simp [List.dropWhile, hfirst]
  have hdrop : ∀ tail : List Char,
      ("http://".toList ++ tail).drop "http".toList.length = ':' :: '/' :: '/' :: tail :=
    fun _ => rfl
  rw [clientSplit, htext]
  simp only [hscheme, hdrop]
  rw [hslashes, before_append_of_all (loopbackHost_notMem h (by decide))]

/-- **The destination of a request** is the one the client sees in the base URL: the path behind it
does not change it. -/
theorem clientSplit_request (h : host ∈ loopbackHosts) {baseUrl : String} {rest : List Char}
    (hurl : baseUrl.toList = "http://".toList ++ (host ++ rest)) (path : List Char) :
    clientSplit ((trimEndSlashes baseUrl).toList ++ '/' :: path) =
      some ("http".toList, host ++ before clientAuthorityEnds (clientText rest)) := by
  have hlast : ("http://".toList ++ host).getLast? ≠ some '/' := by
    have hhosts : ∀ host ∈ loopbackHosts, ("http://".toList ++ host).getLast? ≠ some '/' := by
      decide
    exact hhosts host h
  obtain ⟨kept, slashes, rfl, hslashes, htrim⟩ :=
    trimEndSlashes_append (by rw [hurl, List.append_assoc]) (by simp) hlast
  rw [htrim, List.append_assoc, List.append_assoc, clientSplit_loopback h]
  have hkept : before clientAuthorityEnds (clientText (kept ++ slashes)) =
      before clientAuthorityEnds (clientText kept) := by
    rw [clientText_append]
    cases slashes with
    | nil => rw [clientText_nil, List.append_nil]
    | cons c slashes =>
      obtain rfl := hslashes c List.mem_cons_self
      rw [clientText_slash, before_append_cons (by decide)]
  rw [hkept, clientText_append, clientText_slash, before_append_cons (by decide)]

/-- A request below an encrypted URL is encrypted. -/
theorem clientSplit_https {baseUrl : String} {rest : List Char}
    (hurl : baseUrl.toList = "https://".toList ++ rest) (path : List Char) :
    SecureDestination (clientSplit ((trimEndSlashes baseUrl).toList ++ '/' :: path)) := by
  -- all slashes may go, the colon stays
  have hstart : baseUrl.toList = "https:".toList ++ ("//".toList ++ rest) := by
    rw [hurl]
    rfl
  obtain ⟨kept, -, -, -, htrim⟩ := trimEndSlashes_append hstart (by simp) (by decide)
  rw [htrim, List.append_assoc, clientSplit, clientText_append_of_all (by simp)]
  have hscheme : ∀ tail : List Char,
      before [':', '/', '?', '#'] ("https:".toList ++ tail) = "https".toList := fun tail => by
    simp [before]
  have hdrop : ∀ tail : List Char,
      ("https:".toList ++ tail).drop "https".toList.length = ':' :: tail := fun _ => rfl
  simp only [hscheme, hdrop]
  exact ⟨_, _, rfl, .inl rfl⟩

/-! ### The accepted URLs -/

/-- How an accepted URL begins. -/
theorem secureEndpoint_iff {baseUrl : String} : secureEndpoint baseUrl = true ↔
    (∃ rest, baseUrl.toList = "https://".toList ++ rest) ∨
      ∃ host ∈ loopbackHosts, ∃ rest, baseUrl.toList = "http://".toList ++ (host ++ rest) := by
  have haddress : "http://127.0.0.1".toList = "http://".toList ++ "127.0.0.1".toList := by decide
  have hname : "http://localhost".toList = "http://".toList ++ "localhost".toList := by decide
  have hbegins : ∀ start cs : List Char, start <+: cs ↔ ∃ rest, cs = start ++ rest := fun _ _ =>
    List.prefix_iff_exists_eq_append
  simp only [secureEndpoint, Bool.or_eq_true, List.isPrefixOf_iff_prefix, hbegins, haddress, hname,
    List.append_assoc, or_assoc]
  simp only [loopbackHosts, List.exists_mem_cons_iff, List.not_mem_nil, false_and, exists_false,
    or_false]

theorem secureDestination_https (rest : List Char) :
    SecureDestination (splitUrl ("https://".toList ++ rest)) := by
  have hscheme : before [':', '/', '?', '#'] ("https://".toList ++ rest) = "https".toList := by
    simp [before]
  refine ⟨"https".toList, before authorityEnds rest, ?_, .inl rfl⟩
  rw [splitUrl]
  simp only [hscheme]
  simp

theorem new_ok_iff {baseUrl token : String} :
    (∃ config, AgentClientConfig.new baseUrl token = .ok config) ↔
      secureEndpoint baseUrl = true ∧ trim token.toList ≠ [] := by
  rw [AgentClientConfig.new]
  by_cases hurl : secureEndpoint baseUrl = true
  · by_cases htoken : trim token.toList = [] <;> simp [hurl, htoken]
  · simp [hurl]

/-- The configuration has the base URL without the slashes at its end. -/
theorem baseUrl_of_new {baseUrl token : String} {config : AgentClientConfig}
    (h : AgentClientConfig.new baseUrl token = .ok config) :
    config.baseUrl = trimEndSlashes baseUrl := by
  rw [AgentClientConfig.new] at h
  split at h
  · cases h
  · split at h
    · cases h
    · exact (Except.ok.inj h) ▸ rfl

/-- **An accepted URL and all its requests lead to the machine itself or are encrypted, for every
URL that does not stray.** -/
theorem new_secureDestination_iff (baseUrl token : String) :
    (∀ config, AgentClientConfig.new baseUrl token = .ok config →
      SecureDestination (splitUrl baseUrl.toList) ∧
        ∀ path, path.toList.head? = some '/' →
          SecureDestination (clientSplit (config.requestUrl path).toList)) ↔
      ¬Strays baseUrl token := by
  have hrequest : ∀ {config : AgentClientConfig} {path : String} {tail : List Char},
      AgentClientConfig.new baseUrl token = .ok config → path.toList = '/' :: tail →
        (config.requestUrl path).toList = (trimEndSlashes baseUrl).toList ++ '/' :: tail := by
    intro config path tail hok hpath
    rw [AgentClientConfig.requestUrl, baseUrl_of_new hok, String.toList_append, hpath]
  constructor
  · rintro hsecure ⟨htoken, host, hhost, rest, hurl, hleaves⟩
    obtain ⟨config, hok⟩ := new_ok_iff.mpr
      ⟨secureEndpoint_iff.mpr (.inr ⟨host, hhost, rest, hurl⟩), htoken⟩
    obtain ⟨hbase, hrequests⟩ := hsecure config hok
    have hhealth := hrequests "/health" rfl
    have hurlHealth : (config.requestUrl "/health").toList
        = (trimEndSlashes baseUrl).toList ++ '/' :: "health".toList := hrequest hok rfl
    rw [hurlHealth, clientSplit_request hhost hurl, secureDestination_http hhost] at hhealth
    rw [hurl, splitUrl_loopback hhost, secureDestination_http hhost] at hbase
    exact hleaves ⟨hbase, hhealth⟩
  · intro hnot config hok
    obtain ⟨hendpoint, htoken⟩ := new_ok_iff.mp ⟨config, hok⟩
    obtain ⟨rest, hurl⟩ | ⟨host, hhost, rest, hurl⟩ := secureEndpoint_iff.mp hendpoint
    · refine ⟨hurl ▸ secureDestination_https rest, fun path hpath => ?_⟩
      obtain ⟨tail, htail⟩ := List.head?_eq_some_iff.mp hpath
      rw [hrequest hok htail]
      exact clientSplit_https hurl tail
    · have hstays : StaysOnHost (before authorityEnds rest) ∧
          StaysOnHost (before clientAuthorityEnds (clientText rest)) := by
        by_contra hleaves
        exact hnot ⟨htoken, host, hhost, rest, hurl, hleaves⟩
      refine ⟨?_, fun path hpath => ?_⟩
      · rw [hurl, splitUrl_loopback hhost, secureDestination_http hhost]
        exact hstays.1
      · obtain ⟨tail, htail⟩ := List.head?_eq_some_iff.mp hpath
        rw [hrequest hok htail, clientSplit_request hhost hurl, secureDestination_http hhost]
        exact hstays.2

/-- A name that only begins like an address of the machine itself is accepted, and the request goes
there. -/
theorem new_evil_host :
    ∃ config, AgentClientConfig.new "http://127.0.0.1.evil.example" "token" = .ok config ∧
      ¬SecureDestination (splitUrl "http://127.0.0.1.evil.example".toList) ∧
      ¬SecureDestination (clientSplit (config.requestUrl "/health").toList) := by
  have hurl : "http://127.0.0.1.evil.example".toList =
      "http://".toList ++ ("127.0.0.1".toList ++ ".evil.example".toList) := by decide
  have hhost : "127.0.0.1".toList ∈ loopbackHosts := by decide
  obtain ⟨config, hok⟩ := new_ok_iff.mpr
    (⟨by decide, by decide⟩ : secureEndpoint "http://127.0.0.1.evil.example" = true ∧
      trim "token".toList ≠ [])
  refine ⟨config, hok, ?_, ?_⟩
  · rw [hurl, splitUrl_loopback hhost, secureDestination_http hhost]
    unfold StaysOnHost
    decide
  · rw [AgentClientConfig.requestUrl, baseUrl_of_new hok, String.toList_append]
    rw [show "/health".toList = '/' :: "health".toList from rfl, clientSplit_request hhost hurl,
      secureDestination_http hhost]
    unfold StaysOnHost
    decide

/-- User information behind a backslash names the machine itself by the grammar only: the client
ends the authority before it. -/
example : StaysOnHost (before authorityEnds ".evil.example\\@localhost".toList) ∧
    ¬StaysOnHost (before clientAuthorityEnds (clientText ".evil.example\\@localhost".toList)) := by
  unfold StaysOnHost
  decide

end Lxcup.Agent
