import Mathlib.Algebra.GroupWithZero.Nat
import EsphomeVoip.ForStd.Bytes
import EsphomeVoip.Video.AnnexB

/-! # RTP packets of the video session (`video_rtp.cpp`)

The fields of the fixed header, the bounds of the payload behind the variable parts of the header
and before the padding, and what `send_rtp_payload_` writes. -/

namespace EsphomeVoip

/-! ## Reading -/

/-- `(data[i] << 8) | data[i + 1]`. -/
def readBe16 (data : ByteSpan) (i : Nat) : UInt16 :=
  ((byteAt data i).toUInt16 <<< 8) ||| (byteAt data (i + 1)).toUInt16

/-- `read_be32`. -/
def readBe32 (data : ByteSpan) (i : Nat) : UInt32 :=
  ((byteAt data i).toUInt32 <<< 24) ||| ((byteAt data (i + 1)).toUInt32 <<< 16) |||
    ((byteAt data (i + 2)).toUInt32 <<< 8) ||| (byteAt data (i + 3)).toUInt32

/-- `packet[0] >> 6`. -/
def rtpVersion (packet : ByteSpan) : UInt8 := byteAt packet 0 >>> 6

/-- `(packet[1] & 0x80) != 0`. -/
def rtpMarker (packet : ByteSpan) : Bool := byteAt packet 1 &&& 0x80 != 0

/-- `packet[1] & 0x7F`. -/
def rtpPayloadType (packet : ByteSpan) : UInt8 := byteAt packet 1 &&& 0x7F

def rtpSequence (packet : ByteSpan) : UInt16 := readBe16 packet 2

def rtpTimestamp (packet : ByteSpan) : UInt32 := readBe32 packet 4

def rtpSsrc (packet : ByteSpan) : UInt32 := readBe32 packet 8

/-- The size of a packet without its padding, which counts itself in its last byte. -/
def sizeBeforePadding (packet : ByteSpan) : Option Nat :=
  if byteAt packet 0 &&& 0x20 = 0 then some packet.length
  else
    let padding := (byteAt packet (packet.length - 1)).toNat
    if padding = 0 ∨ packet.length - 12 < padding then none else some (packet.length - padding)

/-- Where the header extension that may begin at `offset` ends. -/
def endOfExtension (packet : ByteSpan) (size offset : Nat) : Option Nat :=
  if byteAt packet 0 &&& 0x10 = 0 then some offset
  else if size < offset + 4 then none
  else
    let words := (readBe16 packet (offset + 2)).toNat
    if size < offset + 4 + words * 4 then none else some (offset + 4 + words * 4)

/-- `rtp_payload_bounds`: where the payload begins and how long it is. -/
def rtpPayloadBounds (packet : ByteSpan) : Option (Nat × Nat) :=
  if packet.length < 12 ∨ rtpVersion packet ≠ 2 then none
  else
    match sizeBeforePadding packet with
    | none => none
    | some size =>
      let offset := 12 + (byteAt packet 0 &&& 0x0F).toNat * 4
      if size < offset then none
      else (endOfExtension packet size offset).map fun offset => (offset, size - offset)

/-- The payload of a packet. -/
def rtpPayload (packet : ByteSpan) : Option ByteSpan :=
  (rtpPayloadBounds packet).map fun (offset, size) => (packet.drop offset).take size

/-! ## Writing -/

/-- `write_be16`. -/
def writeBe16 (value : UInt16) : ByteSpan := [(value >>> 8).toUInt8, value.toUInt8]

/-- `write_be32`. -/
def writeBe32 (value : UInt32) : ByteSpan :=
  [(value >>> 24).toUInt8, (value >>> 16).toUInt8, (value >>> 8).toUInt8, value.toUInt8]

/-- The packet that `send_rtp_payload_` builds. -/
def rtpPacket (payloadType : UInt8) (marker : Bool) (sequence : UInt16)
    (timestamp ssrc : UInt32) (payload : ByteSpan) : ByteSpan :=
  [0x80, payloadType ||| if marker then 0x80 else 0] ++ writeBe16 sequence ++
    writeBe32 timestamp ++ writeBe32 ssrc ++ payload

/-! ## What is written is read back -/

private theorem mul_or (x : Nat) {k y : Nat} (h : y < 2 ^ k) :
    x * 2 ^ k ||| y = x * 2 ^ k + y := by
  rw [← Nat.shiftLeft_eq, Nat.shiftLeft_add_eq_or_of_lt h]

theorem readBe16_writeBe16 (value : UInt16) (rest : ByteSpan) :
    readBe16 (writeBe16 value ++ rest) 0 = value := by
  show ((value >>> 8).toUInt8.toUInt16 <<< 8) ||| value.toUInt8.toUInt16 = value
  have hv := value.toNat_lt
  apply UInt16.toNat_inj.mp
  simp only [UInt16.toNat_or, UInt16.toNat_shiftLeft, UInt8.toNat_toUInt16, UInt16.toNat_toUInt8,
    UInt16.toNat_shiftRight, Nat.shiftRight_eq_div_pow, Nat.shiftLeft_eq]
  generalize value.toNat = n at *
  simp only [UInt16.reduceToNat, Nat.reduceMod, Nat.reducePow] at hv ⊢
  rw [show n / 256 % 256 * 256 % 65536 = n / 256 * 2 ^ 8 by omega, mul_or _ (by omega)]
  omega

theorem readBe32_writeBe32 (value : UInt32) (rest : ByteSpan) :
    readBe32 (writeBe32 value ++ rest) 0 = value := by
  show ((value >>> 24).toUInt8.toUInt32 <<< 24) ||| ((value >>> 16).toUInt8.toUInt32 <<< 16) |||
    ((value >>> 8).toUInt8.toUInt32 <<< 8) ||| value.toUInt8.toUInt32 = value
  have hv := value.toNat_lt
  apply UInt32.toNat_inj.mp
  simp only [UInt32.toNat_or, UInt32.toNat_shiftLeft, UInt8.toNat_toUInt32, UInt32.toNat_toUInt8,
    UInt32.toNat_shiftRight, Nat.shiftRight_eq_div_pow, Nat.shiftLeft_eq]
  generalize value.toNat = n at *
  simp only [UInt32.reduceToNat, Nat.reduceMod, Nat.reducePow] at hv ⊢
  rw [show n / 16777216 % 256 * 16777216 % 4294967296 = n / 16777216 * 2 ^ 24 by omega,
    show n / 65536 % 256 * 65536 % 4294967296 = n / 65536 % 256 * 65536 by omega,
    show n / 256 % 256 * 256 % 4294967296 = n / 256 % 256 * 256 by omega, mul_or _ (by omega),
    show n / 16777216 * 2 ^ 24 + n / 65536 % 256 * 65536 = n / 65536 * 2 ^ 16 by omega,
    mul_or _ (by omega),
    show n / 65536 * 2 ^ 16 + n / 256 % 256 * 256 = n / 256 * 2 ^ 8 by omega,
    mul_or _ (by omega)]
  omega

section Written

variable (payloadType : UInt8) (marker : Bool) (sequence : UInt16) (timestamp ssrc : UInt32)
  (payload : ByteSpan)

@[simp] theorem rtpVersion_rtpPacket :
    rtpVersion (rtpPacket payloadType marker sequence timestamp ssrc payload) = 2 := by
  show (0x80 : UInt8) >>> 6 = 2
  decide

@[simp] theorem rtpSequence_rtpPacket :
    rtpSequence (rtpPacket payloadType marker sequence timestamp ssrc payload) = sequence :=
  readBe16_writeBe16 sequence []

@[simp] theorem rtpTimestamp_rtpPacket :
    rtpTimestamp (rtpPacket payloadType marker sequence timestamp ssrc payload) = timestamp :=
  readBe32_writeBe32 timestamp []

@[simp] theorem rtpSsrc_rtpPacket :
    rtpSsrc (rtpPacket payloadType marker sequence timestamp ssrc payload) = ssrc :=
  readBe32_writeBe32 ssrc []

@[simp] theorem length_rtpPacket :
    (rtpPacket payloadType marker sequence timestamp ssrc payload).length =
      payload.length + 12 := by
  simp [rtpPacket, writeBe16, writeBe32]

/-- The header has no padding, no contributing sources and no extension. -/
@[simp] theorem rtpPayload_rtpPacket :
    rtpPayload (rtpPacket payloadType marker sequence timestamp ssrc payload) =
      some payload := by
  have hlen := length_rtpPacket payloadType marker sequence timestamp ssrc payload
  have hbounds : rtpPayloadBounds (rtpPacket payloadType marker sequence timestamp ssrc payload) =
      some (12, payload.length) := by
    have h0 : byteAt (rtpPacket payloadType marker sequence timestamp ssrc payload) 0 = 0x80 := rfl
    rw [rtpPayloadBounds, rtpVersion_rtpPacket, hlen, if_neg (by simp), sizeBeforePadding, h0,
      if_pos (by decide)]
    simp only [hlen, endOfExtension, h0]
    rw [if_neg (by simp), if_pos (by decide)]
    simp
  rw [rtpPayload, hbounds]
  simp [rtpPacket, writeBe16, writeBe32]

/-- The payload type and the marker share a byte. -/
theorem rtpPayloadType_rtpPacket (h : payloadType < 128) :
    rtpPayloadType (rtpPacket payloadType marker sequence timestamp ssrc payload) =
      payloadType := by
  show (payloadType ||| if marker then 0x80 else 0) &&& 0x7F = payloadType
  revert h
  revert payloadType
  apply forall_byte
  cases marker <;> decide

theorem rtpMarker_rtpPacket (h : payloadType < 128) :
    rtpMarker (rtpPacket payloadType marker sequence timestamp ssrc payload) = marker := by
  show ((payloadType ||| if marker then 0x80 else 0) &&& 0x80 != 0) = marker
  revert h
  revert payloadType
  apply forall_byte
  cases marker <;> decide

end Written

end EsphomeVoip
