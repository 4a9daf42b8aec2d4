import Lxcup.Core.Resource
import Lxcup.Persistence.Database

/-!
# The state behind the API

The store that the server keeps in memory, the coordinator of the Ansible jobs next to
it, and the database when the server runs in persistent mode.  Only the collections
that schedules, policies and the deletion of targets work on are modelled; what the
agents send is a parameter, since none of these operations looks into it.

## Main definitions

* `ApiError` with the constructors of the source.
* `ApiStore`, `ApiState`.
* `requirePermission`, `parseUuid`.
-/

namespace Lxcup.Server

open Lxcup.Lib Lxcup.Core Lxcup.Ansible Lxcup.Persistence

/-- The job that is in the way of a request. -/
structure BlockingJobInfo where
  id : Uuid
  status : String
  deriving DecidableEq, Repr, Inhabited

/-- An error answer: the HTTP status, a stable code and a message. -/
structure ApiError where
  status : Nat
  code : String
  message : String
  blockingJob : Option BlockingJobInfo := none
  deriving DecidableEq, Repr, Inhabited

namespace ApiError

def badRequest (code message : String) : ApiError := ⟨400, code, message, none⟩

def unauthorized : ApiError := ⟨401, "unauthorized", "authentication is required", none⟩

def forbidden (code message : String) : ApiError := ⟨403, code, message, none⟩

def notFound (resource : String) : ApiError := ⟨404, "not_found", resource, none⟩

def conflict (code message : String) : ApiError := ⟨409, code, message, none⟩

def dependency (code message : String) : ApiError := ⟨502, code, message, none⟩

def conflictWithBlockingJob (code message : String) (id : Uuid) (status : String) : ApiError :=
  ⟨409, code, message, some ⟨id, status⟩⟩

def storage : ApiError := ⟨500, "storage_error", "the operation could not be persisted", none⟩

end ApiError

/-- The store in memory, with heartbeats `H`, package inventories `P` and Docker
inventories `D` of the targets. -/
structure ApiStore (H P D : Type) where
  targets : List Target
  agentReports : Table TargetId H
  packageInventories : Table TargetId P
  targetDockerInventories : Table TargetId D
  enrollments : List Enrollment
  enrollmentKeys : Table String EnrollmentId
  schedules : List JobSchedule
  updatePolicies : List UpdatePolicy

/-- What a request handler works on; `repositories` is there in persistent mode. -/
structure ApiState (H P D : Type) where
  store : ApiStore H P D
  ansible : AnsibleJobCoordinator
  repositories : Option Database

/-- The role must grant the permission. -/
def requirePermission (role : ActorRole) (permission : Permission) : Except ApiError Unit :=
  if role.grants permission then .ok ()
  else .error (.forbidden "permission_denied" "the role cannot change this resource")

/-- An id in the path of a request. -/
def parseUuid (value : String) (label : String) : Except ApiError Uuid :=
  match Uuid.parseStr value.toList with
  | some uuid => .ok uuid
  | none => .error (.badRequest "invalid_id" label)

end Lxcup.Server
