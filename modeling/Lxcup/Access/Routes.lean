import Lxcup.Lib.Routes

/-!
# The routes of the API

Which function handles a request, by its method and its path.  A path that no pattern fits is not
found, and neither of these is the case for a path that is there with other methods.

## Main definitions

* `Method`, `Handler` — methods, and the functions that handle requests.
* `router` — the patterns with the functions for their methods.
* `serve` — what a request comes to.
-/

namespace Lxcup.Access

open Lxcup.Lib

/-- The method of a request. -/
inductive Method
  | get | head | options | post | put | patch | delete
  | other (name : String)
  deriving DecidableEq, Repr

/-- `as_str`. -/
def Method.asStr : Method → String
  | get => "GET"
  | head => "HEAD"
  | options => "OPTIONS"
  | post => "POST"
  | put => "PUT"
  | patch => "PATCH"
  | delete => "DELETE"
  | other name => name

/-- The functions that handle requests. -/
inductive Handler
  | liveHealth | readyHealth | metrics
  | authSession | logout | authStatus | authLogin | changePassword | listUserAudit
  | listUsers | createUser | updateUser | deleteUser | resetUserPassword
  | listTargets | createTarget | getPackageInventory | terminalSession | getTargetTelemetry
  | getTargetDockerTelemetry | listTelemetryAlerts | getTargetDockerInventory
  | discoverTargetDocker | operateTargetDockerContainer | checkTargetDockerImageUpdate
  | applyTargetDockerImageUpdate | getTarget | deleteTarget
  | listSchedules | createSchedule | setScheduleEnabled
  | listUpdatePolicies | createUpdatePolicy | deleteUpdatePolicy
  | receiveAgentHeartbeat | claimWindowsAgentWorkflow | reportWindowsAgentWorkflow
  | listSecrets | createSecret | listSecretAudit | getSecret | deleteSecret | rotateSecret
  | revokeSecret
  | createEnrollment | getEnrollment
  | listAnsibleJobs | createAnsibleJob | getAnsibleJob | retryAnsibleJob | reconcileAnsibleJob
  | getAnsibleJobEvents | getWorkerAvailability
  | getSupportDiagnostics | listBackups | createBackup | downloadBackup
  | listContainers | listScans | startScan | runScan | listContainerPlans | createPlan | getPlan
  | confirmPlan
  | abortExecution | runExecution | reconcileExecution | getExecution | getExecutionResult
  | getSafety
  | registerAgent | getAgentHealth | getAgentMetrics | listDockerContainers | getDockerDiscovery
  | discoverDockerContainers | adoptDockerContainer | removeDockerContainer | revokeAgent
  | openapiDocument | streamEvents
  deriving DecidableEq, Repr

/-- A pattern, and the functions for its methods. -/
structure Route where
  pattern : Pattern
  handlers : List (Method × Handler)
  deriving DecidableEq, Repr

/-- A route below `/api/v1`. -/
def api (pattern : Pattern) (handlers : List (Method × Handler)) : Route :=
  ⟨some "api" :: some "v1" :: pattern, handlers⟩

/-- `router`.  Where two patterns fit, the one without a parameter comes first. -/
def router : List Route := [
  ⟨[some "health", some "live"], [(.get, .liveHealth)]⟩,
  ⟨[some "health", some "ready"], [(.get, .readyHealth)]⟩,
  ⟨[some "metrics"], [(.get, .metrics)]⟩,
  api [some "auth", some "session"] [(.get, .authSession)],
  api [some "auth", some "logout"] [(.post, .logout)],
  api [some "auth", some "status"] [(.get, .authStatus)],
  api [some "auth", some "login"] [(.post, .authLogin)],
  api [some "auth", some "password"] [(.post, .changePassword)],
  api [some "auth", some "audit"] [(.get, .listUserAudit)],
  api [some "users"] [(.get, .listUsers), (.post, .createUser)],
  api [some "users", none] [(.patch, .updateUser), (.delete, .deleteUser)],
  api [some "users", none, some "password-reset"] [(.post, .resetUserPassword)],
  api [some "targets"] [(.get, .listTargets), (.post, .createTarget)],
  api [some "targets", none, some "package-inventory"] [(.get, .getPackageInventory)],
  api [some "targets", none, some "terminal"] [(.get, .terminalSession)],
  api [some "targets", none, some "telemetry"] [(.get, .getTargetTelemetry)],
  api [some "targets", none, some "docker", some "telemetry"] [(.get, .getTargetDockerTelemetry)],
  api [some "telemetry-alerts"] [(.get, .listTelemetryAlerts)],
  api [some "targets", none, some "docker", some "discovery"]
    [(.get, .getTargetDockerInventory), (.post, .discoverTargetDocker)],
  api [some "targets", none, some "docker", some "containers", none, some "action"]
    [(.post, .operateTargetDockerContainer)],
  api [some "targets", none, some "docker", some "containers", none, some "image-update-check"]
    [(.post, .checkTargetDockerImageUpdate)],
  api [some "targets", none, some "docker", some "containers", none, some "image-update-apply"]
    [(.post, .applyTargetDockerImageUpdate)],
  api [some "targets", none] [(.get, .getTarget), (.delete, .deleteTarget)],
  api [some "schedules"] [(.get, .listSchedules), (.post, .createSchedule)],
  api [some "schedules", none] [(.patch, .setScheduleEnabled)],
  api [some "update-policies"] [(.get, .listUpdatePolicies), (.post, .createUpdatePolicy)],
  api [some "update-policies", none] [(.delete, .deleteUpdatePolicy)],
  api [some "agents", some "heartbeat"] [(.post, .receiveAgentHeartbeat)],
  api [some "agents", some "workflows", some "claim"] [(.post, .claimWindowsAgentWorkflow)],
  api [some "agents", some "workflows", none, some "result"]
    [(.post, .reportWindowsAgentWorkflow)],
  api [some "secrets"] [(.get, .listSecrets), (.post, .createSecret)],
  api [some "secrets", some "audit"] [(.get, .listSecretAudit)],
  api [some "secrets", none] [(.get, .getSecret), (.delete, .deleteSecret)],
  api [some "secrets", none, some "rotate"] [(.post, .rotateSecret)],
  api [some "secrets", none, some "revoke"] [(.post, .revokeSecret)],
  api [some "enrollments"] [(.post, .createEnrollment)],
  api [some "enrollments", none] [(.get, .getEnrollment)],
  api [some "ansible", some "jobs"] [(.get, .listAnsibleJobs), (.post, .createAnsibleJob)],
  api [some "ansible", some "jobs", none] [(.get, .getAnsibleJob)],
  api [some "ansible", some "jobs", none, some "retry"] [(.post, .retryAnsibleJob)],
  api [some "ansible", some "jobs", none, some "reconcile"] [(.post, .reconcileAnsibleJob)],
  api [some "ansible", some "jobs", none, some "events"] [(.get, .getAnsibleJobEvents)],
  api [some "ansible", some "worker-availability"] [(.get, .getWorkerAvailability)],
  api [some "admin", some "support-diagnostics"] [(.get, .getSupportDiagnostics)],
  api [some "admin", some "backups"] [(.get, .listBackups), (.post, .createBackup)],
  api [some "admin", some "backups", none] [(.get, .downloadBackup)],
  api [some "containers"] [(.get, .listContainers)],
  api [some "containers", none, some "scans"] [(.get, .listScans), (.post, .startScan)],
  api [some "scans", none, some "run"] [(.post, .runScan)],
  api [some "containers", none, some "plans"] [(.get, .listContainerPlans), (.post, .createPlan)],
  api [some "plans", none] [(.get, .getPlan)],
  api [some "plans", none, some "confirm"] [(.post, .confirmPlan)],
  api [some "executions", none, some "abort"] [(.post, .abortExecution)],
  api [some "executions", none, some "run"] [(.post, .runExecution)],
  api [some "executions", none, some "reconcile"] [(.post, .reconcileExecution)],
  api [some "executions", none] [(.get, .getExecution)],
  api [some "executions", none, some "result"] [(.get, .getExecutionResult)],
  api [some "executions", none, some "safety"] [(.get, .getSafety)],
  api [some "containers", none, some "agent"] [(.post, .registerAgent)],
  api [some "containers", none, some "agent", some "health"] [(.get, .getAgentHealth)],
  api [some "containers", none, some "agent", some "metrics"] [(.get, .getAgentMetrics)],
  api [some "containers", none, some "docker", some "containers"] [(.get, .listDockerContainers)],
  api [some "containers", none, some "docker", some "discovery"] [(.get, .getDockerDiscovery)],
  api [some "containers", none, some "docker", some "discover"]
    [(.post, .discoverDockerContainers)],
  api [some "containers", none, some "docker", some "containers", none, some "adopt"]
    [(.post, .adoptDockerContainer)],
  api [some "containers", none, some "docker", some "containers", none]
    [(.delete, .removeDockerContainer)],
  api [some "containers", none, some "agent", some "revoke"] [(.post, .revokeAgent)],
  api [some "openapi.json"] [(.get, .openapiDocument)],
  api [some "events"] [(.get, .streamEvents)]]

/-- What a request comes to. -/
inductive Served
  | handler (handler : Handler)
  | methodNotAllowed
  | notFound
  deriving DecidableEq, Repr

/-- The method under which a request is looked up; `get` serves `HEAD` as well. -/
def Method.served (method : Method) : Method := if method = .head then .get else method

/-- The function for a method. -/
def Route.serve (route : Route) (method : Method) : Served :=
  match route.handlers.lookup method.served with
  | some handler => .handler handler
  | none => .methodNotAllowed

/-- The route of a path. -/
def routeOf (segments : List String) : Option Route :=
  router.find? fun route => route.pattern.fits segments

/-- What a request comes to, by its method and its path. -/
def serve (method : Method) (path : String) : Served :=
  match (segmentsOf path.toList).bind routeOf with
  | some route => route.serve method
  | none => .notFound

variable {method : Method} {path : String} {handler : Handler}

/-- **A request that is handled fits a route.** -/
theorem exists_of_serve (h : serve method path = .handler handler) :
    ∃ segments, pathText segments = path.toList ∧ Segments segments ∧
      ∃ route ∈ router, route.pattern.fits segments = true
        ∧ (method.served, handler) ∈ route.handlers := by
  unfold serve at h
  split at h
  case h_2 => cases h
  case h_1 route hroute =>
    obtain ⟨segments, hsegments, hfind⟩ := Option.bind_eq_some_iff.mp hroute
    obtain ⟨htext, hslashes⟩ := pathText_of_segmentsOf hsegments
    have hfits := List.find?_some hfind
    refine ⟨segments, htext, hslashes, route, List.mem_of_find?_eq_some hfind, hfits, ?_⟩
    unfold Route.serve at h
    split at h
    case h_2 => cases h
    case h_1 found hlookup =>
      cases h
      obtain ⟨front, back, hsplit, -⟩ := List.lookup_eq_some_iff.mp hlookup
      rw [hsplit]
      exact List.mem_append_right _ List.mem_cons_self

end Lxcup.Access
