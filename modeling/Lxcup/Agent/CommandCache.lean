import Lxcup.Agent.Host
import Lxcup.Lib.Machine

/-!
# Repeated commands

`agent_command` looks for a kept response under the idempotency key of a request, runs the
command when there is none, and keeps its response afterwards.  The lookup and the store are
two critical sections with the command in between: requests of one key that are handled at
the same time are both executed.  The response of a command is lost when its request is
dropped before the store, as it is when the client closes the connection, and when the kept
responses have grown to their bound.

The steps of the machine are the critical sections of the handlers, and the end of a command
in between.  Handlers stay in the state when they are done, so that the state tells what
has been executed and answered.

## Main definitions

* `Handler`, `CommandAgent`, `CommandAction`, `CommandAgent.step`, `commandMachine`.
* `OncePerKey` — an `apply` command is executed once for a key, which gives all its answers.
* `OneAtATime` — the condition on steps.
* `Remembered` — the invariant.

## Main results

* `remembered_step` — one step keeps the invariant.
* `oncePerKey_of_oneAtATime` — every run.
* `concurrent_apply_twice` — without the condition a command is executed twice.
-/

namespace Lxcup.Agent

open Lxcup.Lib Lxcup.Core

/-! ### Handlers -/

/-- An error answer: the status code and the text of `error`. -/
structure CommandRejection where
  status : Nat
  error : String
  deriving DecidableEq, Repr, Inhabited

/-- A request for a command, from its lookup on. -/
inductive Handler
  /-- Answered with an error. -/
  | rejected (request : AgentCommandRequest) (rejection : CommandRejection)
  /-- Answered with a kept response. -/
  | cached (request : AgentCommandRequest) (response : AgentCommandResponse)
  /-- The command runs. -/
  | running (request : AgentCommandRequest)
  /-- The command has ended and its response is not kept yet. -/
  | finished (request : AgentCommandRequest) (response : AgentCommandResponse)
  /-- The response was kept and is the answer. -/
  | stored (request : AgentCommandRequest) (response : AgentCommandResponse)
  /-- Dropped by the server while its command was under way; there is no answer. -/
  | dropped (request : AgentCommandRequest)
  deriving DecidableEq, Repr

namespace Handler

/-- The request whose command was started on the host by this handler. -/
def executed : Handler → Option AgentCommandRequest
  | running request | finished request _ | stored request _ | dropped request => some request
  | rejected _ _ | cached _ _ => none

/-- The command of this request is under way. -/
def underWay : Handler → Option AgentCommandRequest
  | running request | finished request _ => some request
  | _ => none

/-- The request and the response it was answered with. -/
def answered : Handler → Option (AgentCommandRequest × AgentCommandResponse)
  | cached request response | stored request response => some (request, response)
  | _ => none

/-- The response of the command this handler has executed. -/
def outcome : Handler → Option AgentCommandResponse
  | finished _ response | stored _ response => some response
  | _ => none

end Handler

/-- The checks of `agent_command` before the lookup. -/
def admitCommand (platform : AgentPlatform) (authorized : Bool) (request : AgentCommandRequest) :
    Except CommandRejection Unit :=
  if !authorized then .error ⟨401, "unauthorized"⟩
  else if platform = .windows ∧ request.action = .apply then
    .error ⟨409, "windows_apply_requires_approved_workflow"⟩
  else if request.action = .updateAgent then
    .error ⟨409, "agent_update_requires_approved_workflow"⟩
  else if trim request.idempotencyKey.toList = [] ∨
      (request.packages.any fun package => !safePackage package) then
    .error ⟨400, "invalid_request"⟩
  else .ok ()

/-- `agent_command` up to the point where its command is started. -/
def beginCommand (platform : AgentPlatform) (authorized : Bool) (request : AgentCommandRequest)
    (results : Results) : Handler :=
  match admitCommand platform authorized request with
  | .error rejection => .rejected request rejection
  | .ok () =>
    -- the lock on the results is given up after the lookup
    match results.get request.idempotencyKey with
    | some response => .cached request response
    | none => .running request

/-- An agent: the kept responses and the requests it has got, by their number. -/
structure CommandAgent where
  results : Results
  handlers : Table Nat Handler

/-- The steps of the handlers. -/
inductive CommandAction
  /-- A request is checked and looked up. -/
  | receive (number : Nat) (authorized : Bool) (request : AgentCommandRequest)
  /-- Its command has ended. -/
  | complete (number : Nat) (round : Round)
  /-- The response is kept and sent. -/
  | store (number : Nat)
  /-- The handler is dropped while its command is under way. -/
  | drop (number : Nat)
  deriving DecidableEq, Repr

/-- The state after a step. -/
def CommandAgent.step (platform : AgentPlatform) (s : CommandAgent) :
    CommandAction → Option CommandAgent
  | .receive number authorized request =>
    match s.handlers.get number with
    | none =>
      let handler := beginCommand platform authorized request s.results
      some { s with handlers := s.handlers.put number handler }
    | some _ => none
  | .complete number round =>
    match s.handlers.get number with
    | some (.running request) =>
      let output := runLocalCommand platform request.action request.packages round.outcome
      let handler := Handler.finished request (commandResponse round output)
      some { s with handlers := s.handlers.put number handler }
    | _ => none
  | .store number =>
    match s.handlers.get number with
    | some (.finished request response) =>
      some ⟨storeResult s.results request.idempotencyKey response,
        s.handlers.put number (.stored request response)⟩
    | _ => none
  | .drop number =>
    match s.handlers.get number with
    | some (.running request) | some (.finished request _) =>
      some { s with handlers := s.handlers.put number (.dropped request) }
    | _ => none

/-- A running agent that has not been asked for anything. -/
def CommandAgent.initial : CommandAgent := ⟨∅, ∅⟩

/-- The runs of the agent of a platform. -/
def commandMachine (platform : AgentPlatform) : Machine CommandAgent CommandAction where
  init s := s = .initial
  step := CommandAgent.step platform

/-! ### The property -/

/-- For every key an `apply` command is executed at most once, and every answer for the key is
the response of that execution. -/
structure OncePerKey (s : CommandAgent) : Prop where
  once : ∀ n n' h h' request request', s.handlers.get n = some h → s.handlers.get n' = some h' →
    h.executed = some request → h'.executed = some request' →
    request.action = .apply → request'.action = .apply →
    request.idempotencyKey = request'.idempotencyKey → n = n'
  answers : ∀ n n' h h' request request' response, s.handlers.get n = some h →
    s.handlers.get n' = some h' → h.executed = some request → request.action = .apply →
    h'.answered = some (request', response) →
    request'.idempotencyKey = request.idempotencyKey → h.outcome = some response

/-- A command of this key is under way. -/
def CommandAgent.underWay (s : CommandAgent) (key : String) : Bool :=
  s.handlers.any fun _ h => h.underWay.any fun request => request.idempotencyKey = key

/-- No command is started while one of the same key is under way, the kept responses are below
their bound at every store, and no request is dropped while its command is under way. -/
def OneAtATime (platform : AgentPlatform) (s : CommandAgent) : CommandAction → Prop
  | .receive _ authorized request =>
    (beginCommand platform authorized request s.results).underWay.isSome →
      s.underWay request.idempotencyKey = false
  | .store _ => s.results.entries.length < 512
  | .drop _ => False
  | .complete _ _ => True

instance (platform : AgentPlatform) (s : CommandAgent) (a : CommandAction) :
    Decidable (OneAtATime platform s a) := by
  unfold OneAtATime
  split <;> infer_instance

/-! ### The invariant -/

/-- Every key was executed at most once, its response is kept under it from then on, and nothing
else is. -/
structure Remembered (s : CommandAgent) : Prop where
  once : ∀ n n' h h' request request', s.handlers.get n = some h → s.handlers.get n' = some h' →
    h.executed = some request → h'.executed = some request' →
    request.idempotencyKey = request'.idempotencyKey → n = n'
  kept : ∀ key response, s.results.get key = some response →
    ∃ n request, s.handlers.get n = some (.stored request response) ∧
      request.idempotencyKey = key
  stored : ∀ n request response, s.handlers.get n = some (.stored request response) →
    s.results.get request.idempotencyKey = some response
  cached : ∀ n request response, s.handlers.get n = some (.cached request response) →
    s.results.get request.idempotencyKey = some response
  notDropped : ∀ n request, s.handlers.get n ≠ some (.dropped request)

section

variable {platform : AgentPlatform} {s s' : CommandAgent}

/-- A handler goes on that has executed its command before, or did not execute any. -/
private theorem once_put {number : Nat} {h : Handler} (hinv : Remembered s)
    (hnew : ∀ request, h.executed = some request → ∀ n' h' request', n' ≠ number →
      s.handlers.get n' = some h' → h'.executed = some request' →
      request.idempotencyKey ≠ request'.idempotencyKey) :
    ∀ n n' x x' request request', (s.handlers.put number h).get n = some x →
      (s.handlers.put number h).get n' = some x' → x.executed = some request →
      x'.executed = some request' → request.idempotencyKey = request'.idempotencyKey → n = n' := by
  intro n n' x x' request request' hx hx' hexec hexec' hkey
  rcases Table.get_put_cases hx with ⟨hn, rfl⟩ | ⟨hn, hold⟩
  · rcases Table.get_put_cases hx' with ⟨hn', -⟩ | ⟨hn', hold'⟩
    · rw [hn, hn']
    · exact absurd hkey (hnew request hexec n' x' request' hn' hold' hexec')
  · rcases Table.get_put_cases hx' with ⟨-, rfl⟩ | ⟨-, hold'⟩
    · exact absurd hkey.symm (hnew request' hexec' n x request hn hold hexec)
    · exact hinv.once n n' x x' request request' hold hold' hexec hexec' hkey

/-- Nobody has executed a key that has no kept response and is not under way. -/
private theorem not_executed (hinv : Remembered s) {key : String}
    (hnone : s.results.get key = none) (hidle : s.underWay key = false) {n : Nat} {h : Handler}
    {request : AgentCommandRequest} (hn : s.handlers.get n = some h)
    (hexec : h.executed = some request) : key ≠ request.idempotencyKey := by
  rintro rfl
  have hnot := Table.any_eq_false.mp hidle n h hn
  cases h with
  | running other | finished other =>
    obtain rfl := Option.some.inj hexec
    simp [Handler.underWay] at hnot
  | stored other response =>
    obtain rfl := Option.some.inj hexec
    rw [hinv.stored n other response hn] at hnone
    cases hnone
  | dropped other => exact hinv.notDropped n other hn
  | rejected | cached => cases hexec

/-- A handler that has not kept its response yet goes on, and the kept responses stay. -/
private theorem remembered_put {number : Nat} {h : Handler} (hinv : Remembered s)
    (hbefore : ∀ request response, s.handlers.get number ≠ some (.stored request response))
    (hnew : ∀ request, h.executed = some request → ∀ n' h' request', n' ≠ number →
      s.handlers.get n' = some h' → h'.executed = some request' →
      request.idempotencyKey ≠ request'.idempotencyKey)
    (hstored : ∀ request response, h ≠ .stored request response)
    (hcached : ∀ request response, h = .cached request response →
      s.results.get request.idempotencyKey = some response)
    (hdropped : ∀ request, h ≠ .dropped request) :
    Remembered { s with handlers := s.handlers.put number h } where
  once := once_put hinv hnew
  kept key response hkept := by
    obtain ⟨n, request, hn, hkey⟩ := hinv.kept key response hkept
    have hne : n ≠ number := by
      rintro rfl
      exact hbefore request response hn
    exact ⟨n, request, (Table.get_put_ne _ _ hne).trans hn, hkey⟩
  stored n request response hn := by
    rcases Table.get_put_cases hn with ⟨-, heq⟩ | ⟨-, hold⟩
    · exact absurd heq.symm (hstored request response)
    · exact hinv.stored n request response hold
  cached n request response hn := by
    rcases Table.get_put_cases hn with ⟨-, heq⟩ | ⟨-, hold⟩
    · exact hcached request response heq.symm
    · exact hinv.cached n request response hold
  notDropped n request hn := by
    rcases Table.get_put_cases hn with ⟨-, heq⟩ | ⟨-, hold⟩
    · exact absurd heq.symm (hdropped request)
    · exact hinv.notDropped n request hold

/-- What the checks and the lookup come to. -/
theorem beginCommand_cases (platform : AgentPlatform) (authorized : Bool)
    (request : AgentCommandRequest) (results : Results) :
    (∃ rejection, beginCommand platform authorized request results
      = .rejected request rejection) ∨
    (∃ response, beginCommand platform authorized request results = .cached request response ∧
      results.get request.idempotencyKey = some response) ∨
    beginCommand platform authorized request results = .running request ∧
      results.get request.idempotencyKey = none := by
  unfold beginCommand
  split
  · rename_i rejection _
    exact .inl ⟨rejection, rfl⟩
  · cases hlookup : results.get request.idempotencyKey with
    | some response => exact .inr (.inl ⟨response, rfl, rfl⟩)
    | none => exact .inr (.inr ⟨rfl, rfl⟩)

/-- A request is received. -/
private theorem remembered_receive {number : Nat} {authorized : Bool}
    {request : AgentCommandRequest} (hinv : Remembered s)
    (hok : OneAtATime platform s (.receive number authorized request))
    (hfresh : s.handlers.get number = none) :
    Remembered { s with
      handlers := s.handlers.put number (beginCommand platform authorized request s.results) } := by
  have hbefore : ∀ request response, s.handlers.get number ≠ some (.stored request response) := by
    simp [hfresh]
  simp only [OneAtATime] at hok
  rcases beginCommand_cases platform authorized request s.results with
    ⟨rejection, hbegin⟩ | ⟨response, hbegin, hlookup⟩ | ⟨hbegin, hlookup⟩
  · rw [hbegin]
    exact remembered_put hinv hbefore (by simp [Handler.executed]) (by simp) (by simp) (by simp)
  · rw [hbegin]
    refine remembered_put hinv hbefore (by simp [Handler.executed]) (by simp) ?_ (by simp)
    rintro _ _ ⟨⟩
    exact hlookup
  · rw [hbegin] at hok ⊢
    refine remembered_put hinv hbefore ?_ (by simp) (by simp) (by simp)
    rintro _ ⟨⟩ n h other _ hn hexec
    exact not_executed hinv hlookup (hok rfl) hn hexec

/-- A command ends. -/
private theorem remembered_complete {number : Nat} {request : AgentCommandRequest}
    {response : AgentCommandResponse} (hinv : Remembered s)
    (hrunning : s.handlers.get number = some (.running request)) :
    Remembered { s with handlers := s.handlers.put number (.finished request response) } := by
  refine remembered_put hinv (by simp [hrunning]) ?_ (by simp) (by simp) (by simp)
  rintro _ ⟨⟩ n h other hne hn hexec hkey
  exact hne (hinv.once n number h _ other request hn hrunning hexec rfl hkey.symm)

/-- A response is kept, below the bound. -/
private theorem remembered_store {number : Nat} {request : AgentCommandRequest}
    {response : AgentCommandResponse} (hinv : Remembered s)
    (hroom : s.results.entries.length < 512)
    (hfinished : s.handlers.get number = some (.finished request response)) :
    Remembered ⟨storeResult s.results request.idempotencyKey response,
      s.handlers.put number (.stored request response)⟩ := by
  -- the key was executed here and nowhere else, so nothing was kept under it
  have hnew : s.results.get request.idempotencyKey = none := by
    by_contra hsome
    obtain ⟨old, hold⟩ := Option.ne_none_iff_exists'.mp hsome
    obtain ⟨n, other, hn, hkey⟩ := hinv.kept _ old hold
    obtain rfl := hinv.once n number _ _ other request hn hfinished rfl rfl hkey
    rw [hfinished] at hn
    cases hn
  have hother : ∀ {key old}, s.results.get key = some old → key ≠ request.idempotencyKey := by
    rintro key old hold rfl
    rw [hnew] at hold
    cases hold
  refine ⟨once_put hinv ?_, ?_, ?_, ?_, ?_⟩
  · rintro _ ⟨⟩ n h other hne hn hexec hkey
    exact hne (hinv.once n number h _ other request hn hfinished hexec rfl hkey.symm)
  · intro key kept hkept
    rw [get_storeResult hroom] at hkept
    split at hkept
    · rename_i hkey
      obtain rfl := Option.some.inj hkept
      exact ⟨number, request, Table.get_put_self _ _ _, hkey.symm⟩
    · obtain ⟨n, other, hn, hkey⟩ := hinv.kept key kept hkept
      have hne : n ≠ number := by
        rintro rfl
        rw [hfinished] at hn
        cases hn
      exact ⟨n, other, (Table.get_put_ne _ _ hne).trans hn, hkey⟩
  · intro n other kept hn
    rw [Table.get_put] at hn
    rw [get_storeResult hroom]
    split at hn
    · obtain ⟨rfl, rfl⟩ := Handler.stored.inj (Option.some.inj hn)
      rw [if_pos rfl]
    · have hkept := hinv.stored n other kept hn
      rw [if_neg (hother hkept)]
      exact hkept
  · intro n other kept hn
    rw [Table.get_put] at hn
    rw [get_storeResult hroom]
    split at hn
    · cases hn
    · have hkept := hinv.cached n other kept hn
      rw [if_neg (hother hkept)]
      exact hkept
  · intro n other hn
    rw [Table.get_put] at hn
    split at hn
    · cases hn
    · exact hinv.notDropped n other hn

/-- **One step** keeps every executed key remembered. -/
theorem remembered_step {a : CommandAction} (hinv : Remembered s) (hok : OneAtATime platform s a)
    (hs : s.step platform a = some s') : Remembered s' := by
  cases a with
  | receive number authorized request =>
    simp only [CommandAgent.step] at hs
    split at hs
    · rename_i hfresh
      obtain rfl := Option.some.inj hs
      exact remembered_receive hinv hok hfresh
    · cases hs
  | complete number round =>
    simp only [CommandAgent.step] at hs
    split at hs
    · rename_i hrunning
      obtain rfl := Option.some.inj hs
      exact remembered_complete hinv hrunning
    · cases hs
  | store number =>
    simp only [CommandAgent.step] at hs
    split at hs
    · rename_i hfinished
      obtain rfl := Option.some.inj hs
      exact remembered_store hinv hok hfinished
    · cases hs
  | drop number => exact hok.elim

end

/-- A remembered key answers with its one execution. -/
theorem Remembered.oncePerKey {s : CommandAgent} (hinv : Remembered s) : OncePerKey s where
  once n n' h h' request request' hn hn' hexec hexec' _ _ hkey :=
    hinv.once n n' h h' request request' hn hn' hexec hexec' hkey
  answers n n' h h' request request' response hn hn' hexec _ hanswered hkey := by
    have hkept : s.results.get request.idempotencyKey = some response := by
      rw [← hkey]
      cases h' with
      | cached other kept =>
        obtain ⟨rfl, rfl⟩ := Prod.mk.inj (Option.some.inj hanswered)
        exact hinv.cached n' _ _ hn'
      | stored other kept =>
        obtain ⟨rfl, rfl⟩ := Prod.mk.inj (Option.some.inj hanswered)
        exact hinv.stored n' _ _ hn'
      | _ => cases hanswered
    obtain ⟨m, other, hm, hother⟩ := hinv.kept _ response hkept
    obtain rfl := hinv.once n m h _ request other hn hm hexec rfl hother.symm
    obtain rfl := Option.some.inj (hn.symm.trans hm)
    rfl

/-- **Every run** of a Linux agent.  Where the commands of each key come one at a time, the kept
responses stay below their bound and no request is dropped, every key is executed once. -/
theorem oncePerKey_of_oneAtATime {s : CommandAgent}
    (h : (commandMachine .linux).Reach (OneAtATime .linux) s) : OncePerKey s := by
  refine Remembered.oncePerKey (h.invariant ?_ fun s a s' _ hinv hok hs => ?_)
  · rintro s rfl
    constructor <;> simp [CommandAgent.initial]
  · exact remembered_step hinv hok hs

/-! ### Fixed runs -/

/-- An upgrade of one package. -/
def upgradeRequest : AgentCommandRequest := ⟨.apply, ["curl"], "upgrade-curl"⟩

/-- The first upgrade ends and is kept; the second, with the same key, is answered from it. -/
theorem repeated_apply_once :
    ∃ s, (commandMachine .linux).Reach (OneAtATime .linux) s ∧
      s.handlers.get 1 = some (.stored upgradeRequest
        (commandResponse ⟨.exited (some 0) "done" "", ⟨5⟩, 40⟩ (0, "done", ""))) ∧
      s.handlers.get 2 = some (.cached upgradeRequest
        (commandResponse ⟨.exited (some 0) "done" "", ⟨5⟩, 40⟩ (0, "done", ""))) ∧
      OncePerKey s := by
  have hrun : ∃ s ∈ (commandMachine .linux).exec (OneAtATime .linux) .initial
      [.receive 1 true upgradeRequest, .complete 1 ⟨.exited (some 0) "done" "", ⟨5⟩, 40⟩, .store 1,
        .receive 2 true upgradeRequest],
      s.handlers.get 1 = some (.stored upgradeRequest
        (commandResponse ⟨.exited (some 0) "done" "", ⟨5⟩, 40⟩ (0, "done", ""))) ∧
      s.handlers.get 2 = some (.cached upgradeRequest
        (commandResponse ⟨.exited (some 0) "done" "", ⟨5⟩, 40⟩ (0, "done", ""))) := by
    decide +kernel
  obtain ⟨s, hexec, hfirst, hsecond⟩ := hrun
  have hreach : (commandMachine .linux).Reach (OneAtATime .linux) s := .exec (.init rfl) _ hexec
  exact ⟨s, hreach, hfirst, hsecond, oncePerKey_of_oneAtATime hreach⟩

/-- The client repeats its request while the first is still running: both are executed. -/
theorem concurrent_apply_twice :
    ¬ ∀ s, (commandMachine .linux).Reach Machine.Any s → OncePerKey s := by
  intro hall
  have hrun : ∃ s ∈ (commandMachine .linux).exec Machine.Any .initial
      [.receive 1 true upgradeRequest, .receive 2 true upgradeRequest],
      s.handlers.get 1 = some (.running upgradeRequest) ∧
      s.handlers.get 2 = some (.running upgradeRequest) := by
    decide +kernel
  obtain ⟨s, hexec, hfirst, hsecond⟩ := hrun
  have htwice := (hall s (.exec (.init rfl) _ hexec)).once 1 2 _ _ _ _ hfirst hsecond rfl rfl rfl
    rfl rfl
  cases htwice

end Lxcup.Agent
