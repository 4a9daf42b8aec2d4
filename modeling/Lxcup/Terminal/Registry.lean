import Lxcup.Lib.Counts
import Lxcup.Lib.Pool
import Lxcup.Terminal.Guarded

/-!
# One terminal for a machine

Any number of requests for terminals side by side, over the registry of the active sessions.  A
request may stop being answered at any time, and the registry is emptied only with the server.  When
a client goes away before its web socket is there, the handler is abandoned where it waits, and its
lease is dropped with it.

The registry has an entry for every lease that is held, and no other.  So there is at most one
session for a machine and there are at most two of an admin, at any time, although the registry is
asked before the session is written to the audit log and long before a connection is made.

## Main definitions

* `TerminalShared`, `terminalSystem` — the registry, and the requests over it.
* `leaseOf`, `abandonedTerminal` — what is left to do for a handler that is abandoned.
* `Registered` — the invariant: the leases that are held are those in the registry.
* `Exclusive` — who holds a lease at the same time.
* `TerminalGuarded` — what a request has done so far.

## Main results

* `registered_of_reach` — the invariant holds of every run.
* `exclusive_of_reach`, `terminalGuarded_of_reach` — so do the limits, and the rules for requests.
-/

namespace Lxcup.Terminal

open Lxcup.Lib Lxcup.Core Lxcup.Server Lxcup.Access Lxcup.Secrets

/-! ### The system -/

/-- The registry, and the ids that were given to sessions. -/
structure TerminalShared where
  registry : TerminalSessionRegistry
  issued : List Uuid

/-- What the registry answers; ids are new. -/
def respondsTerminal (shared : TerminalShared) :
    (call : TerminalCall) → call.Answer → TerminalShared → Prop
  | .newSessionId, sessionId, shared' =>
    sessionId ∉ shared.issued ∧ shared' = { shared with issued := sessionId :: shared.issued }
  | .reserve sessionId userId targetId, answer, shared' =>
    match reserveTerminalSession shared.registry sessionId userId targetId with
    | .ok registry => answer = .ok () ∧ shared' = { shared with registry }
    | .error e => answer = .error e ∧ shared' = shared
  | .release sessionId, _, shared' =>
    shared' = { shared with registry := shared.registry.remove sessionId }
  | _, _, shared' => shared' = shared

/-- A result of a request. -/
abbrev TerminalOutcome : Type := Except ApiError (Option (Except String Unit)) × Unit

/-- The handler has no lease of its own any more. -/
def TerminalCall.endsHandler : TerminalCall → Bool
  | .upgrade | .release _ => true
  | _ => false

/-- The lease that was given. -/
def givenLease : TerminalExchange → Option Uuid
  | ⟨.reserve sessionId _ _, .ok ()⟩ => some sessionId
  | _ => none

/-- The lease of a handler, before the web socket is there. -/
def leaseOf (seen : List TerminalExchange) : Option Uuid :=
  if seen.any fun exchange => exchange.1.endsHandler then none else seen.findSome? givenLease

/-- `drop`, of `TerminalSessionLease`, for a handler that is abandoned. -/
def abandonedTerminal (seen : List TerminalExchange) :
    Option (Program TerminalCall TerminalCall.Answer TerminalOutcome) :=
  (leaseOf seen).map fun sessionId =>
    (do
      perform (.release sessionId)
      return none : Respond (Option (Except String Unit))) ()

/-- Requests for terminals over the registry. -/
def terminalSystem (server : TerminalServer) :
    System TerminalShared TerminalRequest TerminalCall TerminalCall.Answer TerminalOutcome where
  start request := terminalSession server request ()
  responds := respondsTerminal
  changes _ _ := False
  abandoned _ seen := abandonedTerminal seen

/-- The server has just been started. -/
def NoTerminals (shared : TerminalShared) : Prop := shared.registry = ∅

/-- What holds when a request is done. -/
def terminalPost (server : TerminalServer) (request : TerminalRequest)
    (seen : List TerminalExchange) : TerminalOutcome → Prop
  | (.ok outcome, _) => TerminalEnds server request seen outcome
  | (.error _, _) => Released seen

theorem ensures_start (server : TerminalServer) (request : TerminalRequest) :
    ((terminalSystem server).start request).Ensures record (TerminalPermits server request)
      (terminalPost server request) [] := by
  refine Program.Ensures.mono ?_ (ensures_terminalSession server request)
  rintro seen ⟨_ | _, _⟩ h <;> exact h

/-! ### Handlers that are abandoned -/

section Abandoned

variable {server : TerminalServer} {seen : List TerminalExchange}

theorem givenLease_eq_some {exchange : TerminalExchange} {sessionId : Uuid}
    (h : givenLease exchange = some sessionId) :
    ∃ userId targetId, exchange = ⟨.reserve sessionId userId targetId, .ok ()⟩ := by
  unfold givenLease at h
  split at h
  case h_1 sessionId' userId targetId =>
    cases h
    exact ⟨userId, targetId, rfl⟩
  case h_2 => cases h

/-- **A handler that has a lease of its own** holds it, for an admin who may open a terminal. -/
theorem leased_of_leaseOf {request : TerminalRequest} {thread : Thread TerminalRequest TerminalCall
      TerminalCall.Answer TerminalOutcome} {sessionId : Uuid}
    {post : List TerminalExchange → TerminalOutcome → Prop}
    (hkeeps : thread.Keeps (TerminalPermits server request) post)
    (h : leaseOf thread.seen = some sessionId) :
    ⟨.upgrade, true⟩ ∉ thread.seen ∧ ∃ session, session.sessionId = sessionId
      ∧ Leased server request session thread.seen := by
  unfold leaseOf at h
  split at h
  case isTrue => cases h
  case isFalse hopen =>
    have hends : ∀ exchange ∈ thread.seen, exchange.1.endsHandler ≠ true :=
      fun exchange hmem hends => hopen (List.any_eq_true.mpr ⟨exchange, hmem, hends⟩)
    obtain ⟨exchange, hmem, hgiven⟩ := List.exists_of_findSome?_eq_some h
    obtain ⟨userId, targetId, rfl⟩ := givenLease_eq_some hgiven
    obtain ⟨before, hprefix, hpermits⟩ := hkeeps.of_mem hmem
    obtain ⟨-, -, actor, connection, rfl, hadmitted⟩ := hpermits
    refine ⟨fun hupgraded => hends _ hupgraded rfl, ⟨actor, targetId, connection, sessionId⟩, rfl,
      hadmitted.mono hprefix.subset, hmem, ?_, ?_⟩
    · intro sessionId' userId' targetId' answer hother
      have honce : ∀ (seen : List TerminalExchange) (e : TerminalCall),
          TerminalPermits server request seen e → e.IsReserve →
          All (fun e => ¬e.IsReserve) seen := by
        intro seen e hpermits hreserve
        cases e with
        | reserve => exact fun exchange hmem => (hpermits.2.1 exchange hmem).1
        | _ => exact hreserve.elim
      have heq := hkeeps.unique honce hother hmem trivial trivial
      exact (TerminalCall.reserve.inj (Sigma.mk.inj heq).1).1
    · intro exchange hmem hrelease
      refine hends exchange hmem ?_
      obtain ⟨call, answer⟩ := exchange
      cases call with
      | release => rfl
      | _ => exact hrelease.elim

/-- **The lease is dropped with the handler.** -/
theorem ensures_abandonedTerminal {thread : Thread TerminalRequest TerminalCall TerminalCall.Answer
      TerminalOutcome} {p : Program TerminalCall TerminalCall.Answer TerminalOutcome}
    (hp : abandonedTerminal thread.seen = some p)
    (hkeeps : thread.Keeps (TerminalPermits server thread.label)
      (terminalPost server thread.label)) :
    p.Ensures record (TerminalPermits server thread.label) (terminalPost server thread.label)
      thread.seen := by
  obtain ⟨sessionId, hlease, rfl⟩ := Option.map_eq_some_iff.mp hp
  obtain ⟨hupgraded, session, rfl, hleased⟩ := leased_of_leaseOf hkeeps hlease
  exact ⟨⟨session, rfl, hleased, fun hmem => absurd hmem hupgraded⟩,
    fun _ => ⟨released_concat hleased, nofun⟩⟩

/-- **What requests for terminals ensure** holds of all threads. -/
theorem keeps_of_reach {init : TerminalShared → Prop} {n : Nat} {thread : Thread TerminalRequest
      TerminalCall TerminalCall.Answer TerminalOutcome}
    {pool : Pool TerminalShared TerminalRequest TerminalCall TerminalCall.Answer TerminalOutcome}
    (h : (terminalSystem server).Reach init pool) (hget : pool.threads.get n = some thread) :
    thread.Keeps (TerminalPermits server thread.label) (terminalPost server thread.label) :=
  h.keeps (ensures_start server) (fun _ _ hp hkeeps => ensures_abandonedTerminal hp hkeeps) hget

end Abandoned

/-! ### The invariant -/

/-- What the threads have exchanged. -/
abbrev TerminalHistories := Nat → List TerminalExchange

/-- The leases that are held are those in the registry, and there are not too many of them. -/
structure Registered (shared : TerminalShared) (histories : TerminalHistories) : Prop where
  holders : ∀ sessionId userId targetId,
    shared.registry.get sessionId = some ⟨userId, targetId⟩
      ↔ ∃ n, Holds (histories n) sessionId userId targetId
  issued : ∀ n sessionId, ⟨.newSessionId, sessionId⟩ ∈ histories n → sessionId ∈ shared.issued
  unique : ∀ n m sessionId, ⟨.newSessionId, sessionId⟩ ∈ histories n →
    ⟨.newSessionId, sessionId⟩ ∈ histories m → n = m
  /-- A lease is asked for with the id of the session. -/
  own : ∀ n sessionId userId targetId answer,
    ⟨.reserve sessionId userId targetId, answer⟩ ∈ histories n →
      ⟨.newSessionId, sessionId⟩ ∈ histories n
  perTarget : ∀ targetId,
    shared.registry.values.countP (fun session => session.targetId = targetId)
      ≤ maxSessionsPerTarget
  perUser : ∀ userId,
    shared.registry.values.countP (fun session => session.userId = userId) ≤ maxSessionsPerUser

section Invariant

variable {shared shared' : TerminalShared} {histories : TerminalHistories} {n : Nat}
  {seen : List TerminalExchange}

/-- A call that has nothing to do with leases. -/
theorem holds_concat_iff {sessionId userId : Uuid} {targetId : TargetId} {e : TerminalCall}
    (he : e.KeepsLease) (r : e.Answer) :
    Holds (seen ++ [⟨e, r⟩]) sessionId userId targetId ↔ Holds seen sessionId userId targetId := by
  refine ⟨fun h => ⟨?_, ?_, ?_⟩, fun h => h.concat he r⟩
  · obtain hmem | hmem := List.mem_append.mp h.reserved
    · exact hmem
    · obtain rfl := (Sigma.mk.inj (List.mem_singleton.mp hmem)).1
      exact absurd trivial he.1
  · exact fun _ _ _ _ hmem => h.only _ _ _ _ (List.mem_append_left _ hmem)
  · exact fun exchange hmem => h.kept exchange (List.mem_append_left _ hmem)

theorem holds_goOn_iff {m : Nat} {sessionId userId : Uuid} {targetId : TargetId} {e : TerminalCall}
    (he : e.KeepsLease) (r : e.Answer) :
    Holds (goOn histories n ⟨e, r⟩ m) sessionId userId targetId
      ↔ Holds (histories m) sessionId userId targetId := by
  by_cases h : m = n
  · subst h
    rw [goOn_self, holds_concat_iff he]
  · rw [goOn_of_ne h]

/-- An exchange of one kind that is there was there before another. -/
theorem mem_of_mem_goOn {m : Nat} {e e' : TerminalCall} {r : e.Answer} {r' : e'.Answer}
    (hmem : ⟨e', r'⟩ ∈ goOn histories n ⟨e, r⟩ m) (hne : e' ≠ e) : ⟨e', r'⟩ ∈ histories m := by
  obtain hmem | ⟨-, heq⟩ := mem_goOn.mp hmem
  · exact hmem
  · exact absurd (Sigma.mk.inj heq).1 hne

/-- A call that has nothing to do with the registry. -/
theorem Registered.other {e : TerminalCall} (h : Registered shared histories) (he : e.KeepsLease)
    (hnew : e ≠ .newSessionId) (r : e.Answer) : Registered shared (goOn histories n ⟨e, r⟩) where
  holders sessionId userId targetId := by
    simp only [h.holders, holds_goOn_iff he]
  issued m sessionId hmem := h.issued m sessionId (mem_of_mem_goOn hmem hnew.symm)
  unique m m' sessionId hmem hmem' :=
    h.unique m m' sessionId (mem_of_mem_goOn hmem hnew.symm) (mem_of_mem_goOn hmem' hnew.symm)
  own m sessionId userId targetId answer hmem := by
    refine subset_goOn histories n m _ (h.own m sessionId userId targetId answer ?_)
    refine mem_of_mem_goOn hmem ?_
    rintro rfl
    exact he.1 trivial
  perTarget := h.perTarget
  perUser := h.perUser

/-- An id is given to a session. -/
theorem Registered.issue {sessionId : Uuid} (h : Registered shared histories)
    (hfresh : sessionId ∉ shared.issued) :
    Registered { shared with issued := sessionId :: shared.issued }
      (goOn histories n ⟨.newSessionId, sessionId⟩) where
  holders sessionId' userId targetId := by
    simp only [h.holders, holds_goOn_iff (e := .newSessionId) ⟨False.elim, False.elim⟩]
  issued m sessionId' hmem := by
    obtain hmem | ⟨-, heq⟩ := mem_goOn.mp hmem
    · exact List.mem_cons_of_mem _ (h.issued m sessionId' hmem)
    · cases heq
      exact List.mem_cons_self
  unique m m' sessionId' hmem hmem' := by
    obtain hold | ⟨rfl, heq⟩ := mem_goOn.mp hmem
    · obtain hold' | ⟨rfl, heq'⟩ := mem_goOn.mp hmem'
      · exact h.unique m m' sessionId' hold hold'
      · cases heq'
        exact absurd (h.issued m sessionId hold) hfresh
    · obtain hold' | ⟨rfl, -⟩ := mem_goOn.mp hmem'
      · cases heq
        exact absurd (h.issued m' sessionId hold') hfresh
      · rfl
  own m sessionId' userId targetId answer hmem :=
    subset_goOn histories n m _ (h.own m sessionId' userId targetId answer
      (mem_of_mem_goOn hmem nofun))
  perTarget := h.perTarget
  perUser := h.perUser

/-- Another thread neither has the lease nor asks for one. -/
theorem Registered.eq_of_holds {m : Nat} {sessionId userId : Uuid} {targetId : TargetId}
    (h : Registered shared histories) (hid : ⟨.newSessionId, sessionId⟩ ∈ histories n)
    (hholds : Holds (histories m) sessionId userId targetId) : m = n :=
  h.unique m n sessionId (h.own m sessionId userId targetId _ hholds.reserved) hid

/-- A lease is not given. -/
theorem Registered.refuse {sessionId userId : Uuid} {targetId : TargetId} {e : ApiError}
    (h : Registered shared histories) (hid : ⟨.newSessionId, sessionId⟩ ∈ histories n)
    (hkeeps : All TerminalCall.KeepsLease (histories n)) :
    Registered shared (goOn histories n ⟨.reserve sessionId userId targetId, .error e⟩) := by
  -- the thread holds no lease, neither before nor after
  have hnone : ∀ sessionId' userId' targetId',
      ¬Holds (histories n) sessionId' userId' targetId' := fun _ _ _ hholds =>
    absurd trivial (hkeeps _ hholds.reserved).1
  have hnone' : ∀ sessionId' userId' targetId',
      ¬Holds (goOn histories n ⟨.reserve sessionId userId targetId, .error e⟩ n) sessionId' userId'
        targetId' := by
    intro sessionId' userId' targetId' hholds
    obtain hmem | ⟨-, heq⟩ := mem_goOn.mp hholds.reserved
    · exact absurd trivial (hkeeps _ hmem).1
    · cases heq
  refine ⟨fun sessionId' userId' targetId' => ?_, fun m sessionId' hmem => ?_,
    fun m m' sessionId' hmem hmem' => ?_, fun m sessionId' userId' targetId' answer hmem => ?_,
    h.perTarget, h.perUser⟩
  · rw [h.holders]
    refine exists_congr fun m => ?_
    by_cases hm : m = n
    · subst hm
      exact iff_of_false (hnone _ _ _) (hnone' _ _ _)
    · rw [goOn_of_ne hm]
  · exact h.issued m sessionId' (mem_of_mem_goOn hmem nofun)
  · exact h.unique m m' sessionId' (mem_of_mem_goOn hmem nofun) (mem_of_mem_goOn hmem' nofun)
  · obtain hmem | ⟨rfl, heq⟩ := mem_goOn.mp hmem
    · exact subset_goOn histories n m _ (h.own m sessionId' userId' targetId' answer hmem)
    · cases heq
      exact subset_goOn histories m m _ hid

/-- **A lease is given**, for a target that has none and a user who may have one more. -/
theorem Registered.reserve {sessionId userId : Uuid} {targetId : TargetId}
    {registry : TerminalSessionRegistry} (h : Registered shared histories)
    (hid : ⟨.newSessionId, sessionId⟩ ∈ histories n)
    (hkeeps : All TerminalCall.KeepsLease (histories n))
    (hreserve : reserveTerminalSession shared.registry sessionId userId targetId = .ok registry) :
    Registered { shared with registry }
      (goOn histories n ⟨.reserve sessionId userId targetId, .ok ()⟩) := by
  rw [reserveTerminalSession] at hreserve
  split at hreserve
  case isTrue => cases hreserve
  case isFalse htarget =>
    split at hreserve
    case isTrue => cases hreserve
    case isFalse huser =>
      cases hreserve
      have hnone : ∀ sessionId' userId' targetId',
          ¬Holds (histories n) sessionId' userId' targetId' := fun _ _ _ hholds =>
        absurd trivial (hkeeps _ hholds.reserved).1
      have hfresh : shared.registry.get sessionId = none := by
        by_contra hfound
        obtain ⟨⟨userId', targetId'⟩, hfound⟩ := Option.ne_none_iff_exists'.mp hfound
        obtain ⟨m, hholds⟩ := (h.holders _ _ _).mp hfound
        obtain rfl := h.eq_of_holds hid hholds
        exact hnone _ _ _ hholds
      have hself : Holds (goOn histories n ⟨.reserve sessionId userId targetId, .ok ()⟩ n) sessionId
          userId targetId := by
        refine ⟨self_mem_goOn, fun sessionId' userId' targetId' answer hmem => ?_,
          fun exchange hmem => ?_⟩
        · obtain hmem | ⟨-, heq⟩ := mem_goOn.mp hmem
          · exact absurd trivial (hkeeps _ hmem).1
          · cases heq
            rfl
        · obtain hmem | ⟨-, rfl⟩ := mem_goOn.mp hmem
          · exact (hkeeps _ hmem).2
          · exact False.elim
      refine ⟨fun sessionId' userId' targetId' => ?_, fun m sessionId' hmem => ?_,
        fun m m' sessionId' hmem hmem' => ?_,
        fun m sessionId' userId' targetId' answer hmem => ?_, fun targetId' => ?_,
        fun userId' => ?_⟩
      · rw [Table.get_put]
        split
        case isTrue heq =>
          subst heq
          constructor
          · rintro ⟨⟩
            exact ⟨n, hself⟩
          · rintro ⟨m, hholds⟩
            obtain hmem | ⟨-, heq⟩ := mem_goOn.mp hholds.reserved
            · have hm : m = n := h.unique m n _ (h.own m _ _ _ _ hmem) hid
              subst hm
              exact absurd trivial (hkeeps _ hmem).1
            · cases heq
              rfl
        case isFalse hne =>
          rw [h.holders]
          refine exists_congr fun m => ?_
          by_cases hm : m = n
          · subst hm
            refine iff_of_false (hnone _ _ _) fun hholds => hne ?_
            exact (hholds.only _ _ _ _ self_mem_goOn).symm
          · rw [goOn_of_ne hm]
      · exact h.issued m sessionId' (mem_of_mem_goOn hmem nofun)
      · exact h.unique m m' sessionId' (mem_of_mem_goOn hmem nofun) (mem_of_mem_goOn hmem' nofun)
      · obtain hmem | ⟨rfl, heq⟩ := mem_goOn.mp hmem
        · exact subset_goOn histories n m _ (h.own m sessionId' userId' targetId' answer hmem)
        · cases heq
          exact subset_goOn histories m m _ hid
      · rw [Table.countP_values_put hfresh]
        split
        case isTrue heq =>
          obtain rfl := of_decide_eq_true heq
          exact Nat.lt_of_not_le htarget
        case isFalse => exact h.perTarget targetId'
      · rw [Table.countP_values_put hfresh]
        split
        case isTrue heq =>
          obtain rfl := of_decide_eq_true heq
          exact Nat.lt_of_not_le huser
        case isFalse => exact h.perUser userId'

/-- **A lease is dropped.** -/
theorem Registered.release {sessionId userId : Uuid} {targetId : TargetId}
    (h : Registered shared histories) (hholds : Holds (histories n) sessionId userId targetId) :
    Registered { shared with registry := shared.registry.remove sessionId }
      (goOn histories n ⟨.release sessionId, ()⟩) := by
  have hid : ⟨.newSessionId, sessionId⟩ ∈ histories n := h.own n _ _ _ _ hholds.reserved
  have hdropped : ∀ sessionId' userId' targetId',
      ¬Holds (goOn histories n ⟨.release sessionId, ()⟩ n) sessionId' userId' targetId' :=
    fun _ _ _ hholds' => hholds'.kept _ self_mem_goOn trivial
  refine ⟨fun sessionId' userId' targetId' => ?_, fun m sessionId' hmem => ?_,
    fun m m' sessionId' hmem hmem' => ?_, fun m sessionId' userId' targetId' answer hmem => ?_,
    fun targetId' => ?_, fun userId' => ?_⟩
  · rw [Table.get_remove]
    split
    case isTrue heq =>
      subst heq
      refine iff_of_false nofun ?_
      rintro ⟨m, hholds'⟩
      by_cases hm : m = n
      · subst hm
        exact hdropped _ _ _ hholds'
      · rw [goOn_of_ne hm] at hholds'
        exact hm (h.eq_of_holds hid hholds')
    case isFalse hne =>
      rw [h.holders]
      refine exists_congr fun m => ?_
      by_cases hm : m = n
      · subst hm
        exact iff_of_false (fun hholds' => hne (hholds.only _ _ _ _ hholds'.reserved))
          (hdropped _ _ _)
      · rw [goOn_of_ne hm]
  · exact h.issued m sessionId' (mem_of_mem_goOn hmem nofun)
  · exact h.unique m m' sessionId' (mem_of_mem_goOn hmem nofun) (mem_of_mem_goOn hmem' nofun)
  · exact subset_goOn histories n m _ (h.own m sessionId' userId' targetId' answer
      (mem_of_mem_goOn hmem nofun))
  · exact (Table.countP_values_remove_le sessionId).trans (h.perTarget targetId')
  · exact (Table.countP_values_remove_le sessionId).trans (h.perUser userId')

end Invariant

section Reach

variable {server : TerminalServer}
  {pool : Pool TerminalShared TerminalRequest TerminalCall TerminalCall.Answer TerminalOutcome}

/-- **The leases that are held are those in the registry**, in every run. -/
theorem registered_of_reach (h : (terminalSystem server).Reach NoTerminals pool) :
    Registered pool.shared pool.history := by
  induction h with
  | @init shared hshared =>
    have hregistry : shared.registry = ∅ := hshared
    refine ⟨fun sessionId userId targetId => ?_, nofun, nofun, nofun, fun _ => ?_, fun _ => ?_⟩
    · rw [hregistry, Table.get_empty]
      exact iff_of_false nofun fun ⟨n, hholds⟩ => nomatch hholds.reserved
    · rw [hregistry]
      exact Nat.zero_le _
    · rw [hregistry]
      exact Nat.zero_le _
  | @step pool pool' hreach hs ih =>
    obtain ⟨hhistory, hsame | hchange⟩
      | ⟨n, request, call, k, answer, hthread, hresponds, hhistory⟩ := hs.history
    · rw [hhistory, hsame]
      exact ih
    · exact hchange.elim
    · have hpermits := (keeps_of_reach hreach hthread).rest.1
      rw [hhistory]
      cases call with
      | newSessionId =>
        obtain ⟨hfresh, hshared⟩ := hresponds
        rw [hshared]
        exact ih.issue hfresh
      | reserve sessionId userId targetId =>
        obtain ⟨hid, hkeeps, -⟩ := hpermits
        simp only [terminalSystem, respondsTerminal] at hresponds
        split at hresponds
        case h_1 registry hreserve =>
          obtain ⟨rfl, hshared⟩ := hresponds
          rw [hshared]
          exact ih.reserve hid hkeeps hreserve
        case h_2 e hrefuse =>
          obtain ⟨rfl, hshared⟩ := hresponds
          rw [hshared]
          exact ih.refuse hid hkeeps
      | release sessionId =>
        obtain ⟨session, rfl, hleased, -⟩ := hpermits
        have hshared : pool'.shared = _ := hresponds
        rw [hshared]
        exact ih.release hleased.holds
      | _ =>
        have hshared : pool'.shared = pool.shared := hresponds
        rw [hshared]
        refine ih.other ?_ ?_ answer
        · exact ⟨False.elim, False.elim⟩
        · nofun

end Reach

/-! ### The limits -/

/-- The call is one to the machine. -/
def TerminalCall.IsHost : TerminalCall → Prop
  | .connect .. | .authenticatePassword .. | .bestRsaHash | .authenticatePublickey .. | .shell _
  | .data _ | .windowChange .. | .closeChannel | .disconnect _ => True
  | _ => False

/-- Who holds a lease at the same time. -/
structure Exclusive
    (pool : Pool TerminalShared TerminalRequest TerminalCall TerminalCall.Answer TerminalOutcome) :
    Prop where
  /-- There is one session for a target at most. -/
  targets : ∀ n m sessionId sessionId' userId userId' targetId,
    Holds (pool.history n) sessionId userId targetId →
    Holds (pool.history m) sessionId' userId' targetId → n = m
  /-- There are two sessions of a user at most. -/
  users : ∀ userId (threads : Finset Nat),
    (∀ n ∈ threads, ∃ sessionId targetId, Holds (pool.history n) sessionId userId targetId) →
    threads.card ≤ maxSessionsPerUser
  /-- One thread at most waits for an answer of a machine. -/
  talks : ∀ n m thread thread' e e' k k', pool.threads.get n = some thread →
    pool.threads.get m = some thread' → thread.program = .call e k → thread'.program = .call e' k' →
    e.IsHost → e'.IsHost →
    Uuid.parseStr thread.label.targetId.toList = Uuid.parseStr thread'.label.targetId.toList → n = m
  /-- What is in the way of another session is one that has not ended. -/
  busy : ∀ sessionId entry, pool.shared.registry.get sessionId = some entry →
    ∃ n thread, pool.threads.get n = some thread
      ∧ Holds thread.seen sessionId entry.userId entry.targetId
      ∧ ∀ result, thread.program ≠ .ret result

/-- There are as many entries as threads that hold a lease. -/
theorem Registered.card_le {shared : TerminalShared} {histories : TerminalHistories}
    {threads : Finset Nat} {p : ActiveTerminalSession → Bool} (h : Registered shared histories)
    (hholds : ∀ n, n ∈ threads → ∃ sessionId userId targetId,
      Holds (histories n) sessionId userId targetId ∧ p ⟨userId, targetId⟩ = true) :
    threads.card ≤ shared.registry.values.countP p := by
  choose! sessionId userId targetId hall using hholds
  refine Table.card_le_countP_values (f := sessionId) ?_ fun n hn =>
    ⟨_, (h.holders _ _ _).mpr ⟨n, (hall n hn).1⟩, (hall n hn).2⟩
  intro n hn m hm heq
  have hm' := (hall m hm).1
  rw [← heq] at hm'
  exact (h.eq_of_holds (h.own n _ _ _ _ (hall n hn).1.reserved) hm').symm

theorem exists_inSession_of_isHost {server : TerminalServer} {request : TerminalRequest}
    {seen : List TerminalExchange} {call : TerminalCall}
    (h : TerminalPermits server request seen call) (hhost : call.IsHost) :
    ∃ session, InSession server request session seen := by
  cases call with
  | connect | authenticatePassword | authenticatePublickey =>
    obtain ⟨session, hsession, -⟩ := h
    exact ⟨session, hsession⟩
  | data | windowChange =>
    obtain ⟨session, -, hsession, -⟩ := h
    exact ⟨session, hsession⟩
  | bestRsaHash | shell | closeChannel | disconnect => exact h
  | _ => exact hhost.elim

/-- A request that is done holds no lease. -/
theorem not_holds_of_terminalPost {server : TerminalServer} {request : TerminalRequest}
    {seen : List TerminalExchange} {result : TerminalOutcome} {sessionId userId : Uuid}
    {targetId : TargetId} (h : terminalPost server request seen result) :
    ¬Holds seen sessionId userId targetId := by
  intro hholds
  have hreleased : Released seen := by
    obtain ⟨_ | _, _⟩ := result
    · exact h
    · exact h.1
  exact hholds.kept _ (hreleased _ _ _ hholds.reserved) trivial

/-- **There is one terminal for a machine, and two of an admin, at most**, at any time. -/
theorem exclusive_of_reach {server : TerminalServer}
    {pool : Pool TerminalShared TerminalRequest TerminalCall TerminalCall.Answer TerminalOutcome}
    (h : (terminalSystem server).Reach NoTerminals pool) : Exclusive pool := by
  have hregistered := registered_of_reach h
  have htargets : ∀ n m sessionId sessionId' userId userId' targetId,
      Holds (pool.history n) sessionId userId targetId →
      Holds (pool.history m) sessionId' userId' targetId → n = m := by
    intro n m sessionId sessionId' userId userId' targetId hn hm
    by_contra hne
    have hcard : ({n, m} : Finset Nat).card ≤ _ :=
      hregistered.card_le (p := fun entry => entry.targetId = targetId) fun i hi => by
        obtain rfl | hi := Finset.mem_insert.mp hi
        · exact ⟨sessionId, userId, targetId, hn, by simp⟩
        · obtain rfl := Finset.mem_singleton.mp hi
          exact ⟨sessionId', userId', targetId, hm, by simp⟩
    rw [Finset.card_pair hne] at hcard
    exact absurd (hcard.trans (hregistered.perTarget targetId)) (by decide)
  refine ⟨htargets, fun userId threads hall => ?_, ?_, fun sessionId entry hentry => ?_⟩
  · refine (hregistered.card_le fun n hn => ?_).trans (hregistered.perUser userId)
    obtain ⟨sessionId, targetId, hholds⟩ := hall n hn
    exact ⟨sessionId, userId, targetId, hholds, by simp⟩
  · intro n m thread thread' e e' k k' hn hm hcall hcall' hhost hhost' hparse
    have hkeeps := (keeps_of_reach h hn).rest
    have hkeeps' := (keeps_of_reach h hm).rest
    rw [hcall] at hkeeps
    rw [hcall'] at hkeeps'
    obtain ⟨session, hsession⟩ := exists_inSession_of_isHost hkeeps.1 hhost
    obtain ⟨session', hsession'⟩ := exists_inSession_of_isHost hkeeps'.1 hhost'
    rw [hsession.admitted.parsed, hsession'.admitted.parsed] at hparse
    have htarget : session.targetId = session'.targetId :=
      congrArg TargetId.mk (Option.some.inj hparse)
    have hholds := hsession.holds
    have hholds' := hsession'.holds
    rw [← Pool.history_of_get hn, htarget] at hholds
    rw [← Pool.history_of_get hm] at hholds'
    exact htargets _ _ _ _ _ _ _ hholds hholds'
  · obtain ⟨n, hholds⟩ := (hregistered.holders _ _ _).mp hentry
    obtain ⟨thread, hget, hseen⟩ := Pool.exists_of_mem_history hholds.reserved
    rw [← hseen] at hholds
    refine ⟨n, thread, hget, hholds, fun result hret => ?_⟩
    have hkeeps := (keeps_of_reach h hget).rest
    rw [hret] at hkeeps
    exact not_holds_of_terminalPost hkeeps hholds

/-- A server whose pages are on `https://host`. -/
def hostServer : TerminalServer where
  accountAuthEnabled := true
  repositories := true
  parseUrl _ := some ⟨"https", "/", none, none, some "host", some 443⟩
  parseAuthority _ := some ⟨"host", none⟩
  parseMessage _ := none
  checkKnownHosts _ _ _ _ := some true
  decodesSecretKey _ := true

/-- A request of an admin for a terminal. -/
def adminRequest (targetId : Uuid) : TerminalRequest where
  targetId := String.ofList targetId.toText
  actor := some ⟨⟨1⟩, "admin", .admin, false, "hash", 100⟩
  requestId := ⟨3⟩
  headers := [("host", some "host"), ("origin", some "https://host")]
  rounds := 2

/-- A container that is managed over SSH. -/
def managedContainer (id : Uuid) : Target where
  id := ⟨id⟩
  name := "web"
  kind := .lxc
  address := "10.0.0.5"
  transport := .ssh
  sshUser := some "root"
  credentialSecretRef := some ⟨⟨4⟩⟩
  sshKnownHostsSecretRef := some ⟨⟨5⟩⟩
  agentSecretRef := ⟨⟨6⟩⟩
  state := .managed
  createdAt := 0
  updatedAt := 0

/-- An admin takes a lease on each of two machines. -/
theorem reach_twoTerminals :
    ∃ pool : Pool TerminalShared TerminalRequest TerminalCall TerminalCall.Answer TerminalOutcome,
      (terminalSystem hostServer).Reach NoTerminals pool
        ∧ pool.shared.registry.values.length = 2 := by
  have hinit : (terminalSystem hostServer).Reach NoTerminals ⟨⟨∅, []⟩, ∅⟩ := .init rfl
  have h := hinit.step (.spawn (n := 0) (adminRequest ⟨2⟩) rfl)
  replace h := h.answered (some (some (managedContainer ⟨2⟩))) rfl
  replace h := h.answered
    (.ok ⟨⟨⟨⟨4⟩⟩, "password", .sshPassword, .global, 0, 0⟩, .active⟩) rfl
  replace h := h.answered (.ok ⟨⟨⟨⟨5⟩⟩, "hosts", .sshKnownHosts, .global, 0, 0⟩, .active⟩) rfl
  replace h := h.answered (.ok ⟨"secret", by decide, by decide⟩) rfl
  replace h := h.answered (.ok ⟨"10.0.0.5 ssh-ed25519 AAAA", by decide, by decide⟩) rfl
  replace h := h.answered ⟨7⟩ ⟨by decide, rfl⟩
  replace h := h.answered (.ok ()) ⟨rfl, rfl⟩
  replace h := h.step (.spawn (n := 1) (adminRequest ⟨12⟩) rfl)
  replace h := h.answered (some (some (managedContainer ⟨12⟩))) rfl
  replace h := h.answered
    (.ok ⟨⟨⟨⟨4⟩⟩, "password", .sshPassword, .global, 0, 0⟩, .active⟩) rfl
  replace h := h.answered (.ok ⟨⟨⟨⟨5⟩⟩, "hosts", .sshKnownHosts, .global, 0, 0⟩, .active⟩) rfl
  replace h := h.answered (.ok ⟨"secret", by decide, by decide⟩) rfl
  replace h := h.answered (.ok ⟨"10.0.0.5 ssh-ed25519 AAAA", by decide, by decide⟩) rfl
  replace h := h.answered ⟨8⟩ ⟨by decide, rfl⟩
  replace h := h.answered (.ok ()) ⟨rfl, rfl⟩
  exact ⟨_, h, rfl⟩

theorem exclusive_twoTerminals :
    ∃ pool, Exclusive pool ∧ pool.shared.registry.values.length = 2 := by
  obtain ⟨pool, h, hlength⟩ := reach_twoTerminals
  exact ⟨pool, exclusive_of_reach h, hlength⟩

end Lxcup.Terminal
