import Lxcup.Access.Rules

/-!
# What the audit log says about a request

An entry of the audit log names who has sent a request, what the request is about and what for.  It
is written before the request is handled, as one that is pending, and told what came of it
afterwards.

## Main definitions

* `AuthenticatedUser`, `AuthAuditEvent` — a user who is signed in, and an entry of the log.
* `auditAction`, `requestAuditEvent` — what is written about a request.
-/

namespace Lxcup.Access

open Lxcup.Lib Lxcup.Core Lxcup.Auth

/-- A user who is signed in. -/
structure AuthenticatedUser where
  id : Uuid
  username : String
  role : AuthUserRole
  mustChangePassword : Bool
  tokenHash : String
  expiresAt : Timestamp
  deriving DecidableEq, Repr

/-- The `details` of an entry. -/
structure AuditDetails where
  path : Option String
  state : Option String
  targetName : Option String
  deriving DecidableEq, Repr

/-- A row of `user_audit_events`. -/
structure AuthAuditEvent where
  id : Uuid
  actorUserId : Option Uuid
  actorUsername : String
  actorRole : AuthUserRole
  action : String
  resourceType : String
  resourceId : Option String
  requestId : Option Uuid
  statusCode : Nat
  details : AuditDetails
  createdAt : Timestamp
  deriving DecidableEq, Repr

/-- `is_success`. -/
def isSuccess (status : Nat) : Bool := 200 ≤ status && status < 300

/-- `is_action_segment`. -/
def isActionSegment (segment : String) : Bool :=
  segment ∈ ["password", "password-reset", "revoke", "rotate", "disable", "abort", "retry",
    "reconcile", "action", "image-update-check", "image-update-apply", "discovery", "discover",
    "events", "audit", "confirm", "run"]

/-- The segments of a path that are not empty. -/
def pathParts (path : String) : List String :=
  ((path.toList.splitOn '/').filter (· ≠ [])).map String.ofList

/-- `audit_action`. -/
def auditAction (method : Method) (path : String) : String :=
  match method, pathParts path with
  | .post, ["api", "v1", "auth", "logout"] => "auth.logout"
  | .post, ["api", "v1", "auth", "password"] => "auth.password_changed"
  | .post, ["api", "v1", "admin", "backups"] => "admin.backup_created"
  | .post, ["api", "v1", "targets"] => "target.created"
  | .delete, ["api", "v1", "targets", _] => "target.deleted"
  | .post, ["api", "v1", "targets", _, "docker", "discovery"] => "docker.discovery_requested"
  | .post, ["api", "v1", "targets", _, "docker", "containers", _, "action"] =>
    "docker.lifecycle_action"
  | .post, ["api", "v1", "targets", _, "docker", "containers", _, "image-update-check"] =>
    "docker.image_update_checked"
  | .post, ["api", "v1", "targets", _, "docker", "containers", _, "image-update-apply"] =>
    "docker.image_update_applied"
  | .post, ["api", "v1", "secrets"] => "secret.created"
  | .delete, ["api", "v1", "secrets", _] => "secret.deleted"
  | .post, ["api", "v1", "secrets", _, "rotate"] => "secret.rotated"
  | .post, ["api", "v1", "secrets", _, "revoke"] => "secret.revoked"
  | .post, ["api", "v1", "ansible", "jobs"] => "workflow.queued"
  | .post, ["api", "v1", "ansible", "jobs", _, "retry"] => "workflow.retried"
  | .post, ["api", "v1", "ansible", "jobs", _, "reconcile"] => "workflow.reconciled"
  | .post, ["api", "v1", "schedules"] => "schedule.created"
  | .patch, ["api", "v1", "schedules", _] => "schedule.updated"
  | .post, ["api", "v1", "update-policies"] => "update_policy.created"
  | .delete, ["api", "v1", "update-policies", _] => "update_policy.deleted"
  | .post, ["api", "v1", "enrollments"] => "enrollment.created"
  | .post, ["api", "v1", "containers", _, "scans"] => "scan.started"
  | .post, ["api", "v1", "scans", _, "run"] => "scan.executed"
  | .post, ["api", "v1", "containers", _, "plans"] => "plan.created"
  | .post, ["api", "v1", "plans", _, "confirm"] => "plan.confirmed"
  | .post, ["api", "v1", "executions", _, "abort"] => "execution.aborted"
  | .post, ["api", "v1", "executions", _, "run"] => "execution.started"
  | .post, ["api", "v1", "executions", _, "reconcile"] => "execution.reconciled"
  | .post, ["api", "v1", "users"] => "user.created"
  | .patch, ["api", "v1", "users", _] => "user.updated"
  | .delete, ["api", "v1", "users", _] => "user.deleted"
  | .post, ["api", "v1", "users", _, "password-reset"] => "user.password_reset"
  | .post, ["api", "v1", "containers", _, "agent"] => "agent.registered"
  | .post, ["api", "v1", "containers", _, "agent", "revoke"] => "agent.revoked"
  | .post, ["api", "v1", "containers", _, "docker", "discover"] => "docker.discovery_requested"
  | .post, ["api", "v1", "containers", _, "docker", "containers", _, "adopt"] =>
    "docker.container_adopted"
  | .delete, ["api", "v1", "containers", _, "docker", "containers", _] =>
    "docker.container_removed"
  | _, _ => "http." ++ String.ofList (toAsciiLowercase method.asStr.toList)

/-- The state of an entry that is written with a status. -/
def auditState (status : Nat) : String :=
  if status = 102 then "pending" else if isSuccess status then "completed" else "failed"

/-- `request_audit_event`, with an id and a time. -/
def requestAuditEvent (actor : AuthenticatedUser) (method : Method) (path : String)
    (requestId : Uuid) (status : Nat) (id : Uuid) (createdAt : Timestamp) : AuthAuditEvent where
  id
  actorUserId := some actor.id
  actorUsername := actor.username
  actorRole := actor.role
  action := auditAction method path
  resourceType := (pathParts path)[2]?.getD "api"
  resourceId := (pathParts path)[3]?.filter fun segment => !isActionSegment segment
  requestId := some requestId
  statusCode := status
  details := ⟨some path, some (auditState status), none⟩
  createdAt

end Lxcup.Access
