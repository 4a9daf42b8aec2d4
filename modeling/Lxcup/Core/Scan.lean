import Lxcup.Core.Ids

/-!
# Scans and available updates

The updates that a scan of a container finds, and the lifecycle of the scan.

## Main definitions

* `PackageName`, `PackageVersion` — texts that can be names and versions of packages.
* `UpdateClassification`, `AvailableUpdate`.
* `ScanStatus`, `Scan` with `Scan.new` and `Scan.transitionTo`.
-/

namespace Lxcup.Core

open Lxcup.Lib

/-- The canonical name of a package: not blank and without white space. -/
structure PackageName where
  value : String
  notBlank : trim value.toList ≠ []
  noWhitespace : value.toList.any isWhitespace = false
  deriving DecidableEq

/-- `PackageName::new`; the callers do not look at the reason of a refusal. -/
def PackageName.new (value : String) : Option PackageName :=
  if h : trim value.toList ≠ [] ∧ value.toList.any isWhitespace = false then
    some ⟨value, h.1, h.2⟩
  else none

/-- The version a package manager reports: not blank. -/
structure PackageVersion where
  value : String
  notBlank : trim value.toList ≠ []
  deriving DecidableEq

/-- `PackageVersion::new`. -/
def PackageVersion.new (value : String) : Option PackageVersion :=
  if h : trim value.toList ≠ [] then some ⟨value, h⟩ else none

/-- The classification of an update. -/
inductive UpdateClassification
  | security | normal | unknown
  deriving DecidableEq, Repr, Inhabited

/-- An update that a scan has found. -/
structure AvailableUpdate where
  package : PackageName
  installedVersion : PackageVersion
  candidateVersion : PackageVersion
  classification : UpdateClassification
  held : Bool
  deriving DecidableEq

/-- The lifecycle of a scan. -/
inductive ScanStatus
  | pending | running | succeeded | failed
  deriving DecidableEq, Repr, Inhabited

/-- The edges of the lifecycle. -/
def ScanStatus.canTransitionTo : ScanStatus → ScanStatus → Bool
  | pending, running | running, succeeded | running, failed => true
  | _, _ => false

/-- The id of a scan. -/
structure ScanId where
  uuid : Uuid
  deriving DecidableEq, Repr, Inhabited

/-- The scan of a container. -/
structure Scan where
  id : ScanId
  containerId : ContainerId
  status : ScanStatus
  updates : List AvailableUpdate
  createdAt : Timestamp
  completedAt : Option Timestamp
  deriving DecidableEq

namespace Scan

/-- `Scan::new`, with the fresh id and the time of the call. -/
def new (containerId : ContainerId) (id : ScanId) (now : Timestamp) : Scan :=
  ⟨id, containerId, .pending, [], now, none⟩

/-- Take an edge of the lifecycle; a finished scan has the time of its end. -/
def transitionTo (scan : Scan) (next : ScanStatus) (now : Timestamp) : Option Scan :=
  if scan.status.canTransitionTo next then
    some { scan with
      status := next
      completedAt := if next = .succeeded ∨ next = .failed then some now else scan.completedAt }
  else none

end Scan

end Lxcup.Core
