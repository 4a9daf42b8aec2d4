import Lxcup.Core.Ids

/-!
# Resources and the rules on actions

The resources that can be managed, the roles and permissions of the actors, and the
safety rules that are checked before any worker or adapter is called.

## Main definitions

* `ResourceTarget`, `ResourceLifecycle` — what is managed and in which phase it is.
* `Permission`, `ActorRole`, `ActorRole.grants` — who may do what.
* `ResourceAction` with `permission`, `isDestructive`, `supports`.
* `validateAction` — the rules in the order in which they are checked.

## Main results

* `validateAction_ok` — exactly what an accepted action satisfies.
-/

namespace Lxcup.Core

open Lxcup.Lib

/-- What a job, an API call or an audit event is about. -/
inductive ResourceTarget
  /-- A registered machine. -/
  | target (id : TargetId)
  /-- A node. -/
  | node (id : NodeId)
  /-- An LXC record. -/
  | container (id : ContainerId)
  deriving DecidableEq, Repr, Inhabited

/-- The lifecycle shared by the managed resources. -/
inductive ResourceLifecycle
  | pending | discovered | managed | failed | disabled
  deriving DecidableEq, Repr, Inhabited

/-- Coarse-grained permissions at the API boundary. -/
inductive Permission
  | read | configure | deployAgent | update | destructive
  deriving DecidableEq, Repr, Inhabited

/-- Roles, ordered by capability. -/
inductive ActorRole
  | viewer | operator | admin
  deriving DecidableEq, Repr, Inhabited

/-- Whether a role grants a permission. -/
def ActorRole.grants : ActorRole → Permission → Bool
  | .viewer, .read => true
  | .viewer, _ => false
  | .operator, .destructive => false
  | .operator, _ => true
  | .admin, _ => true

/-- The operations on a resource.  There is no free-form shell or playbook action. -/
inductive ResourceAction
  | discover | healthCheck | configureTarget | deployAgent | updateAgent | repairAgent
  | updatePackages | collectPackageInventory | disableResource | deleteResource
  deriving DecidableEq, Repr, Inhabited

namespace ResourceAction

/-- The permission an action needs. -/
def permission : ResourceAction → Permission
  | discover | healthCheck | collectPackageInventory => .read
  | configureTarget => .configure
  | deployAgent => .deployAgent
  | updateAgent | repairAgent | updatePackages => .update
  | disableResource | deleteResource => .destructive

/-- Actions that need an explicit confirmation whatever the mode. -/
def isDestructive : ResourceAction → Bool
  | disableResource | deleteResource => true
  | _ => false

/-- Whether an action exists for a kind of resource. -/
def supports : ResourceAction → ResourceTarget → Bool
  | _, .target _ => true
  | discover, .node _ | healthCheck, .node _ | configureTarget, .node _
  | disableResource, .node _ | deleteResource, .node _ => true
  | _, .node _ => false
  | _, .container _ => true

end ResourceAction

/-- The errors of the domain. -/
inductive DomainError
  /-- A required value is empty; the field is named. -/
  | emptyValue (field : String)
  /-- The name of a package has white space in it. -/
  | invalidPackageName
  /-- The requested change of state is not allowed, with the reason. -/
  | invalidStateTransition (reason : String)
  /-- The role may not carry out the operation. -/
  | permissionDenied
  /-- A changing or destructive action needs a confirmation. -/
  | confirmationRequired
  deriving DecidableEq, Repr, Inhabited

/-- The server-side rules, checked before any worker or adapter is called. -/
def validateAction (role : ActorRole) (target : ResourceTarget) (lifecycle : ResourceLifecycle)
    (action : ResourceAction) (confirmed : Bool) (idempotencyKey : String) :
    Except DomainError Unit :=
  if !action.supports target then
    .error (.invalidStateTransition "action is not supported for resource target")
  else if !role.grants action.permission then
    .error .permissionDenied
  else if lifecycle = .disabled ∧ action ≠ .discover ∧ action ≠ .healthCheck then
    .error (.invalidStateTransition "disabled resource cannot run this action")
  else if action.isDestructive ∧ !confirmed then
    .error .confirmationRequired
  else if trim idempotencyKey.toList = [] then
    .error (.emptyValue "idempotency key")
  else if idempotencyKey.toList.length > 200 then
    .error (.invalidStateTransition "idempotency key is too long")
  else .ok ()

/-- **Exactly what an accepted action satisfies.** -/
theorem validateAction_ok {role : ActorRole} {target : ResourceTarget}
    {lifecycle : ResourceLifecycle} {action : ResourceAction} {confirmed : Bool} {key : String} :
    validateAction role target lifecycle action confirmed key = .ok () ↔
      action.supports target = true ∧ role.grants action.permission = true ∧
      (lifecycle = .disabled → action = .discover ∨ action = .healthCheck) ∧
      (action.isDestructive = true → confirmed = true) ∧
      trim key.toList ≠ [] ∧ key.toList.length ≤ 200 := by
  unfold validateAction
  repeat' split
  all_goals grind

end Lxcup.Core
