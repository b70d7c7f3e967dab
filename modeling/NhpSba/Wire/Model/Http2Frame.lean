import NhpSba.Wire.Model.Packet
/-!
# The HTTP/2 extension frame

Three bytes of payload length, one of type, one of flags, four of stream
identifier, and the payload. The length goes through a `u32` and then
through shifts and masks, and no step of the writer can fail.
-/

namespace NhpSba

namespace Wire

open Rust

/-- HTTP/2 custom frame extension for SAT tokens. -/
structure NhpSbaHttp2Frame where
  payload : List UInt8
  streamId : UInt32
  deriving DecidableEq, Repr

namespace NhpSbaHttp2Frame

/-- `new`. -/
def new (streamId : UInt32) (payload : List UInt8) : NhpSbaHttp2Frame := { payload, streamId }

/-- The 24-bit length, as it is written. -/
def lengthBytes (length : UInt32) : List UInt8 :=
  [((length >>> 16) &&& 0xFF).toUInt8, ((length >>> 8) &&& 0xFF).toUInt8,
    (length &&& 0xFF).toUInt8]

/-- The 24-bit length, as it is read. -/
def readLength (a b c : UInt8) : UInt32 :=
  (a.toUInt32 <<< 16) ||| (b.toUInt32 <<< 8) ||| c.toUInt32

/-- `to_bytes`. -/
def toBytes (frame : NhpSbaHttp2Frame) : List UInt8 :=
  lengthBytes (UInt32.ofNat frame.payload.length) ++ [0x1A] ++ [0x00] ++
    toBeBytes (frame.streamId &&& 0x7FFFFFFF) ++ frame.payload

/-- `from_bytes`, on a machine whose `usize` has the given width. -/
def fromBytes (bits : ℕ) (data : List UInt8) : Checked (Except String NhpSbaHttp2Frame) :=
  if data.length < 9 then
    pure (.error "Frame too short")
  else do
    let length := readLength (← index data 0) (← index data 1) (← index data 2)
    let frameType ← index data 3
    if frameType ≠ 0x1A then
      pure (.error ("Expected frame type 0x1A, got 0x" ++ hexByte frameType))
    else do
      let streamId := fromBeBytes (← index data 5) (← index data 6) (← index data 7)
        (← index data 8) &&& 0x7FFFFFFF
      if data.length < (← usizeAdd bits 9 (asUsize bits length)) then
        pure (.error "Frame payload truncated")
      else do
        let payload ← slice data 9 (← usizeAdd bits 9 (asUsize bits length))
        pure (.ok { payload, streamId })

end NhpSbaHttp2Frame

end Wire

end NhpSba
