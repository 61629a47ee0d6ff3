import PlayitAgent.Lib.Stream

/-!
# Packet buffers

`Packet` of `agent_core/src/network/udp/packets.rs`: a buffer of 2048 bytes, of which the first
`len` are in use. The buffer's length and the bound on `len` are fields, so that every packet has
them.
-/

namespace PlayitAgent

/-- `PACKET_LEN`: the size of a packet's buffer. -/
def packetLen : ℕ := 2048

/-- A packet: its whole buffer, and how much of it is in use. -/
structure Packet where
  /-- The whole buffer, `full_slice`. -/
  buffer : List UInt8
  /-- How much of the buffer is in use. -/
  len : ℕ
  /-- The buffer has its fixed size. -/
  length_buffer : buffer.length = packetLen
  /-- What is in use lies in the buffer. -/
  len_le : len ≤ packetLen

namespace Packet

/-- `as_ref`: the bytes in use. -/
def asRef (packet : Packet) : List UInt8 := packet.buffer.take packet.len

/-- `set_len`, which refuses a length beyond the buffer. -/
def setLen (packet : Packet) (len : ℕ) : Except IoError Packet :=
  if h : packetLen < len then .error ⟨.invalidInput, "packet len too large"⟩
  else .ok { packet with len, len_le := Nat.le_of_not_lt h }

/-- A packet whose buffer from `i` on has been overwritten by `bytes`. -/
def overwrite (packet : Packet) (i : ℕ) (bytes : List UInt8) (h : i + bytes.length = packetLen) :
    Packet :=
  { packet with
    buffer := packet.buffer.take i ++ bytes
    length_buffer := by
      have := packet.length_buffer
      rw [List.length_append, List.length_take]
      omega }

/-- A packet whose buffer a datagram has been received into; what does not fit is cut off. -/
def receive (packet : Packet) (datagram : List UInt8) : Packet :=
  { packet with
    buffer := datagram.take packetLen ++ packet.buffer.drop datagram.length
    length_buffer := by
      have := packet.length_buffer
      rw [List.length_append, List.length_take, List.length_drop]
      omega }

/-- As many bytes are in use as `len` says. -/
@[simp]
theorem length_asRef (packet : Packet) : packet.asRef.length = packet.len := by
  have := packet.length_buffer
  have := packet.len_le
  rw [asRef, List.length_take]
  omega

/-- A length within the buffer is accepted. -/
theorem setLen_of_le (packet : Packet) {len : ℕ} (h : len ≤ packetLen) :
    packet.setLen len = .ok { packet with len, len_le := h } := by
  rw [setLen, dif_neg (by omega)]

end Packet

end PlayitAgent
