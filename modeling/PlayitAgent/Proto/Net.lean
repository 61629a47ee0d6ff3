import PlayitAgent.Lib.Stream

/-!
# Addresses

The address types of `std::net` and the non-zero integers of `std::num`, as the agent uses them. An
IPv4 address is its 32-bit word and an IPv6 address its 128-bit word, most significant byte first.
-/

namespace PlayitAgent

/-- An IPv4 address. -/
abbrev Ipv4Addr := UInt32

/-- An IPv6 address. -/
abbrev Ipv6Addr := BitVec 128

/-- `Ipv4Addr::is_loopback`: the address is in `127.0.0.0/8`. -/
def Ipv4Addr.isLoopback (ip : Ipv4Addr) : Bool := ip >>> 24 == 127

/-- An IP address of either family. -/
inductive IpAddr where
  | v4 (ip : Ipv4Addr)
  | v6 (ip : Ipv6Addr)
  deriving DecidableEq

/-- An IPv4 socket address. -/
structure SocketAddrV4 where
  /-- The address. -/
  ip : Ipv4Addr
  /-- The port. -/
  port : UInt16
  deriving DecidableEq

/-- An IPv6 socket address, with its flow information and scope. -/
structure SocketAddrV6 where
  /-- The address. -/
  ip : Ipv6Addr
  /-- The port. -/
  port : UInt16
  /-- The flow information. -/
  flowinfo : UInt32
  /-- The scope. -/
  scope_id : UInt32
  deriving DecidableEq

/-- A socket address of either family. -/
inductive SocketAddr where
  | v4 (addr : SocketAddrV4)
  | v6 (addr : SocketAddrV6)
  deriving DecidableEq

/-- `SocketAddr::new`: an address and a port, without flow information or scope. -/
def SocketAddr.new : IpAddr → UInt16 → SocketAddr
  | .v4 ip, port => .v4 ⟨ip, port⟩
  | .v6 ip, port => .v6 ⟨ip, port, 0, 0⟩

/-- The address has no flow information and no scope. -/
def SocketAddr.Plain : SocketAddr → Prop
  | .v4 _ => True
  | .v6 addr => addr.flowinfo = 0 ∧ addr.scope_id = 0

/-- A non-zero 16-bit integer. -/
structure NonZeroU16 where
  /-- The integer. -/
  val : UInt16
  /-- It is not zero. -/
  ne_zero : val ≠ 0
  deriving DecidableEq

/-- A non-zero 64-bit integer. -/
structure NonZeroU64 where
  /-- The integer. -/
  val : UInt64
  /-- It is not zero. -/
  ne_zero : val ≠ 0
  deriving DecidableEq

/-- `NonZeroU16::new`. -/
def NonZeroU16.new (n : UInt16) : Option NonZeroU16 := if h : n = 0 then none else some ⟨n, h⟩

/-- `NonZeroU64::new`. -/
def NonZeroU64.new (n : UInt64) : Option NonZeroU64 := if h : n = 0 then none else some ⟨n, h⟩

/-- A non-zero integer is made from its value. -/
@[simp]
theorem NonZeroU16.new_val (n : NonZeroU16) : NonZeroU16.new n.val = some n := by
  simp [NonZeroU16.new, n.ne_zero]

/-- A non-zero integer is made from its value. -/
@[simp]
theorem NonZeroU64.new_val (n : NonZeroU64) : NonZeroU64.new n.val = some n := by
  simp [NonZeroU64.new, n.ne_zero]

end PlayitAgent
