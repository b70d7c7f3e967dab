import NhpSba.Rust.Panic
import NhpSba.Rust.BigEndian
/-!
# The NHP packet, as the access controller writes and reads it

One byte of type, four of sequence number, four of payload length, both
big-endian, and the payload. The length is written as a `u32`, whatever
the payload's own length.
-/

namespace NhpSba

namespace Wire

open Rust

/-- NHP packet types. -/
inductive NhpPacketType
  | knkRequest
  | knkResponse
  | sessionData
  | sessionTeardown
  | heartbeat
  | error
  deriving DecidableEq, Repr

/-- `packet_type as u8`. -/
def NhpPacketType.toByte : NhpPacketType → UInt8
  | .knkRequest => 0x01
  | .knkResponse => 0x02
  | .sessionData => 0x03
  | .sessionTeardown => 0x04
  | .heartbeat => 0x05
  | .error => 0xFF

/-- The match on the first byte of `from_bytes`. -/
def NhpPacketType.ofByte (b : UInt8) : Option NhpPacketType :=
  if b = 0x01 then some .knkRequest
  else if b = 0x02 then some .knkResponse
  else if b = 0x03 then some .sessionData
  else if b = 0x04 then some .sessionTeardown
  else if b = 0x05 then some .heartbeat
  else if b = 0xFF then some .error
  else none

/-- NHP protocol packet structure. -/
structure NhpPacket where
  packetType : NhpPacketType
  payload : List UInt8
  sequence : UInt32
  deriving DecidableEq, Repr

/-- A hexadecimal digit in upper case. -/
def hexDigit (n : ℕ) : Char :=
  if n < 10 then Char.ofNat (48 + n) else Char.ofNat (55 + n)

/-- `{:02X}` of a byte. -/
def hexByte (b : UInt8) : String :=
  String.ofList [hexDigit (b.toNat / 16), hexDigit (b.toNat % 16)]

namespace NhpPacket

/-- `to_bytes`. -/
def toBytes (p : NhpPacket) : List UInt8 :=
  [p.packetType.toByte] ++ toBeBytes p.sequence ++
    toBeBytes (UInt32.ofNat p.payload.length) ++ p.payload

/-- `from_bytes`, on a machine whose `usize` has the given width. -/
def fromBytes (bits : ℕ) (data : List UInt8) : Checked (Except String NhpPacket) :=
  if data.length < 9 then
    pure (.error ("Packet too short: " ++ toString data.length ++ " bytes (minimum 9)"))
  else do
    match NhpPacketType.ofByte (← index data 0) with
    | none => pure (.error ("Unknown packet type: 0x" ++ hexByte (← index data 0)))
    | some packetType =>
      let sequence := fromBeBytes (← index data 1) (← index data 2) (← index data 3)
        (← index data 4)
      let length := asUsize bits <| fromBeBytes (← index data 5) (← index data 6)
        (← index data 7) (← index data 8)
      if data.length < (← usizeAdd bits 9 length) then
        pure (.error ("Packet payload truncated: expected " ++ toString length ++
          " bytes, got " ++ toString (← usizeSub data.length 9)))
      else do
        let payload ← slice data 9 (← usizeAdd bits 9 length)
        pure (.ok { packetType, payload, sequence })

end NhpPacket

/-! ## The transport over the codec -/

namespace NhpTransport

/-- `encode_packet`. -/
def encodePacket (packet : NhpPacket) : List UInt8 := packet.toBytes

/-- `decode_packet`. -/
def decodePacket (bits : ℕ) (data : List UInt8) : Checked (Except String NhpPacket) :=
  NhpPacket.fromBytes bits data

/-- `create_knk_request`. -/
def createKnkRequest (payload : List UInt8) (sequence : UInt32) : NhpPacket :=
  { packetType := .knkRequest, payload, sequence }

/-- `create_session_data`. -/
def createSessionData (payload : List UInt8) (sequence : UInt32) : NhpPacket :=
  { packetType := .sessionData, payload, sequence }

/-- `create_heartbeat`. -/
def createHeartbeat (sequence : UInt32) : NhpPacket :=
  { packetType := .heartbeat, payload := [], sequence }

/-- `create_teardown`. -/
def createTeardown (sequence : UInt32) : NhpPacket :=
  { packetType := .sessionTeardown, payload := [], sequence }

end NhpTransport

end Wire

end NhpSba
