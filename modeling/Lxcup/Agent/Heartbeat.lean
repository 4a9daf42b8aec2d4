import Lxcup.Agent.PackageInventory
import Lxcup.Core.Schedule

/-!
# Heartbeats of agents

What an agent reports of its host every half minute: the telemetry samples of the last minute, and
the package inventory that waits for the controller.  The samples come from a buffer that is bounded
in number and in age, and every sample is reported in more than one heartbeat, so that a report
that is lost leaves no hole.

Of a heartbeat only the parts are here that the controller looks at before it stores them.

## Main definitions

* `SystemTelemetrySample`, `SystemTelemetryWindow`, `AgentPackageInventory`, `AgentHeartbeat`.
* `TelemetryBuffer` with `record`, `removeExpired` and `window`.
-/

namespace Lxcup.Agent

open Lxcup.Lib Lxcup.Core

/-- A second in nanoseconds. -/
def second : Int := 1000000000

/-- A measurement of the host.  What no collector could measure is missing. -/
structure SystemTelemetrySample where
  collectedAt : Timestamp
  cpuBasisPoints : Option UInt16
  memoryBasisPoints : Option UInt16
  storageBasisPoints : Option UInt16
  load1Milli : Option UInt32
  networkRxBytes : Option UInt64
  networkTxBytes : Option UInt64
  processCount : Option UInt32
  deriving DecidableEq, Repr, Inhabited

/-- The samples of a heartbeat, and whether some are known to be missing or incomplete. -/
structure SystemTelemetryWindow where
  samples : List SystemTelemetrySample
  isPartial : Bool
  deriving DecidableEq, Repr, Inhabited

/-- The packages of a host, and when they were listed. -/
structure AgentPackageInventory where
  collectedAt : Timestamp
  packages : List AgentInstalledPackage
  deriving DecidableEq, Repr, Inhabited

/-- Who the agent is. -/
structure AgentInfo where
  agentId : String
  platform : AgentPlatform
  hostname : String
  version : String
  protocolVersion : String
  deriving DecidableEq, Repr, Inhabited

/-- The message of an agent to its controller. -/
structure AgentHeartbeat where
  targetId : Uuid
  info : AgentInfo
  sentAt : Timestamp
  telemetry : SystemTelemetryWindow
  packageInventory : Option AgentPackageInventory
  deriving DecidableEq, Repr, Inhabited

/-! ### The buffer of the agent -/

/-- The samples that the agent keeps, the oldest first. -/
structure TelemetryBuffer where
  samples : List SystemTelemetrySample
  deriving DecidableEq, Repr, Inhabited

namespace TelemetryBuffer

/-- `WINDOW_SECONDS`. -/
def windowSeconds : Int := 60

/-- `MAX_SAMPLES`. -/
def maxSamples : Nat := 32

/-- `remove_expired`: from the front, up to the first sample that has not expired. -/
def removeExpired (buffer : TelemetryBuffer) (now : Timestamp) : TelemetryBuffer :=
  ⟨buffer.samples.dropWhile fun sample => sample.collectedAt < now - windowSeconds * second⟩

/-- `record`. -/
def record (buffer : TelemetryBuffer) (sample : SystemTelemetrySample) (now : Timestamp) :
    TelemetryBuffer :=
  let samples := buffer.samples ++ [sample]
  -- `pop_front` until there are no more than allowed
  removeExpired ⟨samples.drop (samples.length - maxSamples)⟩ now

/-- A collector was not available. -/
def isIncomplete (sample : SystemTelemetrySample) : Bool :=
  sample.cpuBasisPoints.isNone || sample.memoryBasisPoints.isNone
    || sample.storageBasisPoints.isNone

/-- `window`: the buffer afterwards, and what is reported. -/
def window (buffer : TelemetryBuffer) (now : Timestamp) :
    TelemetryBuffer × SystemTelemetryWindow :=
  let buffer := buffer.removeExpired now
  (buffer, ⟨buffer.samples, buffer.samples.any isIncomplete⟩)

end TelemetryBuffer

end Lxcup.Agent
