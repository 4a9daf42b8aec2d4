import Lxcup.Agent.Command
import Lxcup.Core.Agent

/-!
# The controller's client of an agent

A command is checked before it is sent, and sent again after a failed attempt as long as the
configuration allows.  What each attempt meets is an argument.

## Main definitions

* `AgentClientConfig` — how an agent is reached.
* `AgentError` — how a call can end without a response of the agent.
* `Attempt` — what one HTTP request meets.
* `AgentClient.request`, `AgentClient.command`.
* `AgentClient.sends` — the checks that decide whether anything is sent at all.

## Main results

* `AgentClient.command_of_not_sends` — a refused command has no response.
-/

namespace Lxcup.Agent

open Lxcup.Lib Lxcup.Core

/-- Why a client cannot be configured. -/
inductive AgentConfigError
  | insecureBaseUrl | emptyToken
  deriving DecidableEq, Repr, Inhabited

/-- How an agent is reached: where, with which token, and how long it is waited for. -/
structure AgentClientConfig where
  baseUrl : String
  token : String
  timeoutSeconds : Nat
  maxRetries : UInt8
  backoffMillis : Nat
  rootCertificatePem : Option String
  privateNetworkHttp : Bool
  deriving DecidableEq, Repr, Inhabited

/-- `AgentClientConfig::new`. -/
def AgentClientConfig.new (baseUrl token : String) : Except AgentConfigError AgentClientConfig :=
  if !secureEndpoint baseUrl then .error .insecureBaseUrl
  else if trim token.toList = [] then .error .emptyToken
  else .ok ⟨trimEndSlashes baseUrl, token, 20, 2, 150, none, false⟩

/-- The URL that `request` sends to: the base URL with the path of the call behind it.  The path
of every call begins with a slash. -/
def AgentClientConfig.requestUrl (config : AgentClientConfig) (path : String) : String :=
  config.baseUrl ++ path

/-- The configuration with a certificate that the agent is trusted by. -/
def AgentClientConfig.withRootCertificatePem (config : AgentClientConfig) (pem : String) :
    AgentClientConfig :=
  { config with rootCertificatePem := some pem }

/-- How a call can end without a response of the agent. -/
inductive AgentError
  | transport
  | unauthorized
  | invalidRequest (reason : String)
  /-- Any other HTTP status, as it is displayed, with what the body tells. -/
  | api (status message : String)
  | decode
  deriving DecidableEq, Repr, Inhabited

/-- The text of an error. -/
def AgentError.text : AgentError → String
  | transport => "agent transport failed"
  | unauthorized => "agent authentication failed"
  | invalidRequest reason => "agent request was invalid: " ++ reason
  | api status message => "agent returned HTTP " ++ status ++ ": " ++ message
  | decode => "agent returned invalid JSON"

/-- What one HTTP request meets. -/
inductive Attempt
  /-- The status is 401 or 403. -/
  | refused
  /-- The status is a success; the body may not be a response. -/
  | success (response : Option AgentCommandResponse)
  /-- Any other status, as it is displayed. -/
  | status (code : Nat) (displayed body : String)
  | transport

namespace AgentClient

/-- The loop of `request`: the attempts that are left after this one, and its number. -/
def request (attempts : Nat → Attempt) : Nat → Nat → Except AgentError AgentCommandResponse
  | left, attempt =>
    match attempts attempt with
    | .refused => .error .unauthorized
    | .success (some response) => .ok response
    | .success none => .error .decode
    | .status code displayed body =>
      match left with
      | 0 => .error (.api displayed (safeDetail body))
      | left + 1 =>
        if 500 ≤ code ∧ code < 600 then request attempts left (attempt + 1)
        else .error (.api displayed (safeDetail body))
    | .transport =>
      match left with
      | 0 => .error .transport
      | left + 1 => request attempts left (attempt + 1)

/-- The checks that a command passes before it is sent. -/
def sends (command : AgentCommandRequest) : Bool :=
  trim command.idempotencyKey.toList ≠ [] && command.packages.all safePackage

/-- Send a command, with at most `maxRetries` further attempts. -/
def command (maxRetries : UInt8) (request_ : AgentCommandRequest) (attempts : Nat → Attempt) :
    Except AgentError AgentCommandResponse :=
  if trim request_.idempotencyKey.toList = [] then
    .error (.invalidRequest "idempotency key is required")
  else if request_.packages.any fun package => !safePackage package then
    .error (.invalidRequest "package argument is not safe")
  else request attempts maxRetries.toNat 0

/-- A command that is not sent has no response. -/
theorem command_of_not_sends {maxRetries : UInt8} {request_ : AgentCommandRequest}
    {attempts : Nat → Attempt} (h : sends request_ = false) :
    ∃ error, command maxRetries request_ attempts = .error error := by
  unfold command
  by_cases hkey : trim request_.idempotencyKey.toList = []
  · exact ⟨_, if_pos hkey⟩
  · rw [if_neg hkey]
    by_cases hunsafe : (request_.packages.any fun package => !safePackage package) = true
    · exact ⟨_, if_pos hunsafe⟩
    · simp_all [sends]

end AgentClient

end Lxcup.Agent
