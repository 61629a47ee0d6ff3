import Mathlib.Data.UInt

/-!
# The statistics of the agent

The counters of `agent_core/src/stats.rs` that the clients and the pipes keep. The counters wrap.
-/

namespace PlayitAgent

/-- The counters of `AgentStats`, without the one of the TCP connections. -/
structure AgentStats where
  bytes_in : UInt64
  bytes_out : UInt64
  active_udp : UInt32
  deriving DecidableEq

/-- `add_bytes_in`. -/
def AgentStats.addBytesIn (stats : AgentStats) (bytes : UInt64) : AgentStats :=
  { stats with bytes_in := stats.bytes_in + bytes }

/-- `add_bytes_out`. -/
def AgentStats.addBytesOut (stats : AgentStats) (bytes : UInt64) : AgentStats :=
  { stats with bytes_out := stats.bytes_out + bytes }

end PlayitAgent
