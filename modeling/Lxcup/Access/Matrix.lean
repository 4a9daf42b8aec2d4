import Lxcup.Access.Rules

/-!
# What the rules come to for every function

The rules look at the text of a path and at its method, the routes at its segments.  For a request
that is handled, the rules are those of a table with a line for every function: whether everybody
may call it, whether only admins may, whether it may be called before the first password is changed,
and which permission it needs.

There is one exception.  A request to change a schedule or a user needs the permission to destroy
when `revoke`, `disable` or `abort` stands in the place of the id.

## Main definitions

* `Handler.isPublic`, `Handler.adminOnly`, `Handler.changesPassword`, `Handler.needs` — the table.

## Main results

* `isPublicRequest_of_serve`, `isAdminOnlyRoute_of_serve`,
  `isPasswordChangeAllowedPath_of_serve`, `allows_of_serve` — the rules are those of the table.
-/

namespace Lxcup.Access

open Lxcup.Lib Lxcup.Core

/-! ### The table -/

/-- Functions that check the requests on their own, or tell nothing. -/
def Handler.isPublic (accountAuthEnabled : Bool) : Handler → Bool
  | .liveHealth | .readyHealth | .metrics | .receiveAgentHeartbeat | .claimWindowsAgentWorkflow
  | .reportWindowsAgentWorkflow => true
  | .authStatus | .authLogin => accountAuthEnabled
  | _ => false

/-- Functions for accounts of admins only. -/
def Handler.adminOnly : Handler → Bool
  | .listUserAudit | .listUsers | .createUser | .updateUser | .deleteUser | .resetUserPassword
  | .listSecrets | .createSecret | .listSecretAudit | .getSecret | .deleteSecret | .rotateSecret
  | .revokeSecret | .getSupportDiagnostics | .listBackups | .createBackup | .downloadBackup => true
  | _ => false

/-- Functions that may be called before the first password is changed. -/
def Handler.changesPassword : Handler → Bool
  | .authSession | .logout | .changePassword => true
  | _ => false

/-- The permission that a function needs, if its call does not depend on the role. -/
def Handler.needs : Handler → Option Permission
  | .logout | .createAnsibleJob | .startScan | .runScan => none
  | .deleteUser | .deleteTarget | .deleteUpdatePolicy | .createSecret | .deleteSecret
  | .rotateSecret | .revokeSecret | .abortExecution | .removeDockerContainer | .revokeAgent =>
    some .destructive
  | .authLogin | .changePassword | .createUser | .updateUser | .resetUserPassword | .createTarget
  | .discoverTargetDocker | .operateTargetDockerContainer | .checkTargetDockerImageUpdate
  | .applyTargetDockerImageUpdate | .createSchedule | .setScheduleEnabled | .createUpdatePolicy
  | .receiveAgentHeartbeat | .claimWindowsAgentWorkflow | .reportWindowsAgentWorkflow
  | .createEnrollment | .retryAnsibleJob | .reconcileAnsibleJob | .createBackup | .createPlan
  | .confirmPlan | .runExecution | .reconcileExecution | .registerAgent | .discoverDockerContainers
  | .adoptDockerContainer => some .configure
  | _ => some .read

/-! ### The rules as tests -/

variable {method : Method} {path : String} {handler : Handler}

theorem holds_is (text : String) {segments : List String} (h : text.toList = pathText segments) :
    (PathTest.is segments).holds path.toList = decide (path = text) := by
  rw [PathTest.holds, ← h]
  exact decide_eq_decide.mpr String.toList_inj

theorem holds_starts (text : String) {segments : List String}
    (h : text.toList = pathText segments) :
    (PathTest.starts segments).holds path.toList = startsWith path text := by
  rw [PathTest.holds, ← h]
  rfl

theorem holds_ends (text : String) {segment : String} (h : text.toList = pathText [segment]) :
    (PathTest.ends segment).holds path.toList = endsWith path text := by
  rw [PathTest.holds, ← h]
  rfl

/-- What holds of all functions in the routes. -/
theorem entry_of_serve {p : Method → Handler → Bool}
    (hroutes : ∀ route ∈ router, ∀ entry ∈ route.handlers, p entry.1 entry.2 = true)
    (h : serve method path = .handler handler) : p method.served handler = true := by
  obtain ⟨segments, -, -, route, hroute, -, hentry⟩ := exists_of_serve h
  exact hroutes route hroute _ hentry

/-- **A test whose result can be read off the routes** has the same result for all requests that
are handled by a function. -/
theorem holds_of_serve (test : PathTest) (result : Handler → Bool) (htest : test.wellFormed = true)
    (hroutes : ∀ route ∈ router, ∀ entry ∈ route.handlers, entry.1 = method.served →
      test.on route.pattern = some (result entry.2))
    (h : serve method path = .handler handler) : test.holds path.toList = result handler := by
  obtain ⟨segments, htext, hslashes, route, hroute, hfits, hentry⟩ := exists_of_serve h
  rw [← htext]
  exact PathTest.holds_of_on htest hslashes hfits (hroutes route hroute _ hentry rfl)

/-- The same, for every method. -/
theorem holds_of_serve_any (test : PathTest) (result : Handler → Bool)
    (htest : test.wellFormed = true)
    (hroutes : ∀ route ∈ router, ∀ entry ∈ route.handlers,
      test.on route.pattern = some (result entry.2))
    (h : serve method path = .handler handler) : test.holds path.toList = result handler :=
  holds_of_serve test result htest
    (fun route hroute entry hentry _ => hroutes route hroute entry hentry) h

/-- `is_admin_only_route` as a test. -/
def adminOnlyTest : PathTest :=
  .either (.either (.either (.starts ["api", "v1", "users"]) (.starts ["api", "v1", "secrets"]))
    (.is ["api", "v1", "auth", "audit"])) (.starts ["api", "v1", "admin", ""])

/-- `is_password_change_allowed_path` as a test. -/
def passwordChangeTest : PathTest :=
  .either (.is ["api", "v1", "auth", "session"])
    (.either (.is ["api", "v1", "auth", "logout"]) (.is ["api", "v1", "auth", "password"]))

/-- The paths that are public without accounts, as a test. -/
def publicTest : PathTest :=
  .either (.either (.is ["health", "live"]) (.either (.is ["health", "ready"])
      (.either (.is ["metrics"]) (.either (.is ["api", "v1", "agents", "heartbeat"])
        (.is ["api", "v1", "agents", "workflows", "claim"])))))
    (.both (.starts ["api", "v1", "agents", "workflows", ""]) (.ends "result"))

/-- The paths that are public with accounts only, as a test. -/
def loginTest : PathTest :=
  .either (.is ["api", "v1", "auth", "status"]) (.is ["api", "v1", "auth", "login"])

/-- The paths of jobs and scans, as a test. -/
def workflowTest : PathTest :=
  .either (.either (.is ["api", "v1", "ansible", "jobs"]) (.ends "scans"))
    (.starts ["api", "v1", "scans", ""])

/-- The paths of things that are destroyed, as a test. -/
def destructiveTest : PathTest :=
  .either (.either (.either (.ends "revoke") (.ends "disable")) (.ends "abort"))
    (.starts ["api", "v1", "secrets"])

/-- The path of the logout, and the paths of secrets, as tests. -/
def logoutTest : PathTest := .is ["api", "v1", "auth", "logout"]

def secretsTest : PathTest := .starts ["api", "v1", "secrets"]

/-- The functions for the methods of the routes. -/
def fitsMethod (method : Method) (handler : Handler) : Bool :=
  match method with
  | .get => handler.needs = some .read
  | .post => handler.needs ≠ some .read
  | .patch => handler.needs = some .configure && handler ≠ .logout
  | .delete => handler.needs = some .destructive && handler ≠ .logout
  | _ => false

/-- **What can be read off a line of the routes**: the results of the tests, and that the function
is one for the method. -/
theorem tests_of_router : ∀ route ∈ router, ∀ entry ∈ route.handlers,
    (adminOnlyTest.on route.pattern = some entry.2.adminOnly
        ∧ passwordChangeTest.on route.pattern = some entry.2.changesPassword
        ∧ publicTest.on route.pattern = some (entry.2.isPublic false)
        ∧ loginTest.on route.pattern
          = some (decide (entry.2 = .authStatus ∨ entry.2 = .authLogin)))
      ∧ (fitsMethod entry.1 entry.2 = true
        ∧ logoutTest.on route.pattern = some (decide (entry.2 = .logout)))
      ∧ (entry.1 = .post →
        workflowTest.on route.pattern = some (decide
            (entry.2 = .createAnsibleJob ∨ entry.2 = .startScan ∨ entry.2 = .runScan))
          ∧ destructiveTest.on route.pattern = some (decide (entry.2.needs = some .destructive)))
      ∧ (entry.1 = .patch → secretsTest.on route.pattern = some false) := by
  decide +kernel

theorem isAdminOnlyRoute_of_serve (h : serve method path = .handler handler) :
    isAdminOnlyRoute path = handler.adminOnly := by
  have htest : adminOnlyTest.holds path.toList = isAdminOnlyRoute path := by
    simp only [adminOnlyTest, PathTest.holds_either]
    rw [holds_starts "/api/v1/users" (by decide), holds_starts "/api/v1/secrets" (by decide),
      holds_is "/api/v1/auth/audit" (by decide), holds_starts "/api/v1/admin/" (by decide)]
    rfl
  rw [← htest]
  exact holds_of_serve_any _ Handler.adminOnly (by decide)
    (fun route hroute entry hentry => (tests_of_router route hroute entry hentry).1.1) h

theorem isPasswordChangeAllowedPath_of_serve (h : serve method path = .handler handler) :
    isPasswordChangeAllowedPath path = handler.changesPassword := by
  have htest : passwordChangeTest.holds path.toList = isPasswordChangeAllowedPath path := by
    simp only [passwordChangeTest, PathTest.holds_either]
    rw [holds_is "/api/v1/auth/session" (by decide), holds_is "/api/v1/auth/logout" (by decide),
      holds_is "/api/v1/auth/password" (by decide)]
    simp [isPasswordChangeAllowedPath]
  rw [← htest]
  exact holds_of_serve_any _ Handler.changesPassword (by decide)
    (fun route hroute entry hentry => (tests_of_router route hroute entry hentry).1.2.1) h

theorem isPublicRequest_of_serve (accountAuthEnabled : Bool)
    (h : serve method path = .handler handler) :
    isPublicRequest accountAuthEnabled path = handler.isPublic accountAuthEnabled := by
  have htest : (publicTest.holds path.toList || accountAuthEnabled && loginTest.holds path.toList)
      = isPublicRequest accountAuthEnabled path := by
    simp only [publicTest, loginTest, PathTest.holds_either, PathTest.holds_both]
    rw [holds_is "/health/live" (by decide), holds_is "/health/ready" (by decide),
      holds_is "/metrics" (by decide), holds_is "/api/v1/agents/heartbeat" (by decide),
      holds_is "/api/v1/agents/workflows/claim" (by decide),
      holds_starts "/api/v1/agents/workflows/" (by decide), holds_ends "/result" (by decide),
      holds_is "/api/v1/auth/status" (by decide), holds_is "/api/v1/auth/login" (by decide)]
    simp [isPublicRequest, Bool.or_assoc, Bool.or_comm, Bool.or_left_comm]
  have hpublic := holds_of_serve_any publicTest (Handler.isPublic false) (by decide)
    (fun route hroute entry hentry => (tests_of_router route hroute entry hentry).1.2.2.1) h
  have hlogin := holds_of_serve_any loginTest
    (fun handler => handler = .authStatus ∨ handler = .authLogin) (by decide)
    (fun route hroute entry hentry => (tests_of_router route hroute entry hentry).1.2.2.2) h
  rw [← htest, hpublic, hlogin]
  cases accountAuthEnabled <;> cases handler <;> rfl

/-! ### Permissions -/

/-- A word for destruction stands at the end of the path. -/
def endsDestructive (path : String) : Bool :=
  endsWith path "/revoke" || endsWith path "/disable" || endsWith path "/abort"

theorem eq_logout_of_serve (h : serve method path = .handler handler) :
    path = "/api/v1/auth/logout" ↔ handler = .logout := by
  have htest := holds_of_serve_any logoutTest (fun handler => handler = .logout) (by decide)
    (fun route hroute entry hentry => (tests_of_router route hroute entry hentry).2.1.2) h
  rw [logoutTest, holds_is "/api/v1/auth/logout" (by decide)] at htest
  exact decide_eq_decide.mp htest

theorem fitsMethod_of_serve (h : serve method path = .handler handler) :
    fitsMethod method.served handler = true :=
  entry_of_serve
    (fun route hroute entry hentry => (tests_of_router route hroute entry hentry).2.1.1) h

theorem workflow_of_serve (h : serve .post path = .handler handler) :
    (path = "/api/v1/ansible/jobs" || endsWith path "/scans" || startsWith path "/api/v1/scans/")
      = decide (handler = .createAnsibleJob ∨ handler = .startScan ∨ handler = .runScan) := by
  have htest := holds_of_serve workflowTest
    (fun handler => handler = .createAnsibleJob ∨ handler = .startScan ∨ handler = .runScan)
    (by decide)
    (by
      intro route hroute entry hentry hpost
      exact ((tests_of_router route hroute entry hentry).2.2.1 hpost).1) h
  rw [← htest]
  simp only [workflowTest, PathTest.holds_either]
  rw [holds_is "/api/v1/ansible/jobs" (by decide), holds_ends "/scans" (by decide),
    holds_starts "/api/v1/scans/" (by decide)]

theorem destructive_of_serve (h : serve .post path = .handler handler) :
    (endsDestructive path || startsWith path "/api/v1/secrets")
      = decide (handler.needs = some .destructive) := by
  have htest := holds_of_serve destructiveTest (fun handler => handler.needs = some .destructive)
    (by decide)
    (by
      intro route hroute entry hentry hpost
      exact ((tests_of_router route hroute entry hentry).2.2.1 hpost).2) h
  rw [← htest]
  simp only [destructiveTest, PathTest.holds_either]
  rw [holds_ends "/revoke" (by decide), holds_ends "/disable" (by decide),
    holds_ends "/abort" (by decide), holds_starts "/api/v1/secrets" (by decide)]
  rfl

theorem not_secrets_of_serve_patch (h : serve .patch path = .handler handler) :
    startsWith path "/api/v1/secrets" = false := by
  have htest := holds_of_serve secretsTest (fun _ => false) (by decide)
    (by
      intro route hroute entry hentry hpatch
      exact (tests_of_router route hroute entry hentry).2.2.2 hpatch) h
  rwa [secretsTest, holds_starts "/api/v1/secrets" (by decide)] at htest

theorem grants_of_destructive {role : ActorRole} (h : role.grants .destructive = true)
    (permission : Permission) : role.grants permission = true := by
  cases role <;> first | rfl | cases h

/-- What a function needs that is called by `POST`. -/
theorem needs_of_post (h : fitsMethod .post handler = true) (hlogout : handler ≠ .logout)
    (hworkflow : ¬(handler = .createAnsibleJob ∨ handler = .startScan ∨ handler = .runScan)) :
    handler.needs = some .destructive ∨ handler.needs = some .configure := by
  revert handler
  intro handler
  cases handler <;> decide

section Methods

variable {role : ActorRole} (hlogout : path ≠ "/api/v1/auth/logout")

/-- What is needed to write, by the path. -/
theorem neededPermission_eq (hget : method ≠ .get) (hdelete : method ≠ .delete) :
    neededPermission path method =
      if endsDestructive path || startsWith path "/api/v1/secrets" then .destructive
      else .configure := by
  simp [neededPermission, endsDestructive, hget, hdelete]

include hlogout in
theorem allows_post : allows path .post role =
    ((path = "/api/v1/ansible/jobs" || endsWith path "/scans" || startsWith path "/api/v1/scans/")
      || role.grants (if endsDestructive path || startsWith path "/api/v1/secrets"
          then .destructive else .configure)) := by
  rw [allows, if_neg hlogout, neededPermission_eq (by decide) (by decide)]
  simp

include hlogout in
theorem allows_patch : allows path .patch role =
    role.grants (if endsDestructive path || startsWith path "/api/v1/secrets"
      then .destructive else .configure) := by
  rw [allows, if_neg hlogout, neededPermission_eq (by decide) (by decide)]
  simp

include hlogout in
theorem allows_delete : allows path .delete role = role.grants .destructive := by
  simp [allows, neededPermission, hlogout]

end Methods

/-- **What the role has to grant for a request that is handled**: the permission that the function
needs, and in one case another one. -/
theorem allows_of_serve (role : ActorRole) (h : serve method path = .handler handler) :
    allows path method role = true ↔
      (∀ permission ∈ handler.needs, role.grants permission = true)
        ∧ (method = .patch → endsDestructive path = true → role.grants .destructive = true) := by
  have hfits := fitsMethod_of_serve h
  by_cases hlogout : handler = .logout
  · have hpath := (eq_logout_of_serve h).mpr hlogout
    subst hlogout hpath
    cases method with
    | post => simp [allows, Handler.needs]
    | _ => cases hfits
  have hpath : path ≠ "/api/v1/auth/logout" :=
    fun hpath => hlogout ((eq_logout_of_serve h).mp hpath)
  cases method with
  | options | put | other => cases hfits
  | get | head =>
    have hneeds : handler.needs = some .read := of_decide_eq_true hfits
    simp [allows, hpath, hneeds]
  | post =>
    rw [allows_post hpath, workflow_of_serve h, destructive_of_serve h]
    by_cases hworkflow : handler = .createAnsibleJob ∨ handler = .startScan ∨ handler = .runScan
    · obtain rfl | rfl | rfl := hworkflow <;> simp [Handler.needs]
    · obtain hneeds | hneeds := needs_of_post hfits hlogout hworkflow <;> simp [hneeds, hworkflow]
  | patch =>
    have hneeds : handler.needs = some .configure :=
      of_decide_eq_true (Bool.and_eq_true_iff.mp hfits).1
    rw [allows_patch hpath, not_secrets_of_serve_patch h, Bool.or_false]
    split
    case isTrue hends =>
      simp only [hneeds, hends, Option.mem_def, Option.some_inj, forall_eq', true_implies]
      exact ⟨fun hrole => ⟨grants_of_destructive hrole _, hrole⟩, fun hrole => hrole.2⟩
    case isFalse hends => simp [hneeds, hends]
  | delete =>
    have hneeds : handler.needs = some .destructive :=
      of_decide_eq_true (Bool.and_eq_true_iff.mp hfits).1
    simp [allows_delete hpath, hneeds]

end Lxcup.Access
