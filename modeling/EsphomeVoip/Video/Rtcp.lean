import EsphomeVoip.SipStream
import EsphomeVoip.Video.VideoRtpSession

/-! # RTCP of the video session (`video_rtp.cpp`)

`handle_rtcp_packet_` walks over the records of a compound packet, whose lengths come from the
network; `packet + offset` is the rest of the packet here, and a byte that is read behind its end
would be seen as `outside`.  The packets that the session sends itself are built at the end. -/

namespace EsphomeVoip

open SipStream (ascii)

/-- A session with the fields that RTCP is about. -/
structure RtcpSession extends VideoRtpSession where
  /-- `capability_.is_h264()`. -/
  isH264 : Bool := true
  acceptRemotePli : Bool := false
  acceptRemoteFir : Bool := false
  sendRemotePli : Bool := false
  txPackets : UInt32 := 0
  txOctets : UInt32 := 0
  lastTxRtpTimestamp : UInt32 := 0
  lastTxRtpMs : UInt32 := 0
  lastPliMs : UInt32 := 0

/-! ## Reading -/

/-- How reading ends. -/
inductive RtcpRead (α : Type) where
  /-- A byte was read that is not in the packet. -/
  | outside
  | rejected
  | ok (value : α)
  deriving DecidableEq, Repr

def RtcpRead.isOk {α : Type} : RtcpRead α → Bool
  | ok _ => true
  | _ => false

/-- `read_be32`, where the bytes may be missing. -/
def withBe32 {β : Type} (data : ByteSpan) (i : Nat) (outside : β) (k : UInt32 → β) : β :=
  withByte data i outside fun a =>
  withByte data (i + 1) outside fun b =>
  withByte data (i + 2) outside fun c =>
  withByte data (i + 3) outside fun d =>
    k ((a.toUInt32 <<< 24) ||| (b.toUInt32 <<< 16) ||| (c.toUInt32 <<< 8) ||| d.toUInt32)

/-- What the loop knows of a record before it looks at its type. -/
structure RtcpHeader where
  count : UInt8
  type : UInt8
  words : UInt16
  contentSize : Nat
  deriving DecidableEq, Repr

/-- `subpacket_size`. -/
def RtcpHeader.size (h : RtcpHeader) : Nat := (h.words.toNat + 1) * 4

/-- The header of the next record, and its padding. -/
def rtcpHeader (rest : ByteSpan) : RtcpRead RtcpHeader :=
  if rest.length < 4 then .rejected
  else
    withByte rest 0 .outside fun first =>
    if first >>> 6 ≠ 2 then .rejected
    else
      withByte rest 1 .outside fun type =>
      withByte rest 2 .outside fun high =>
      withByte rest 3 .outside fun low =>
        let words := (high.toUInt16 <<< 8) ||| low.toUInt16
        let subpacketSize := (words.toNat + 1) * 4
        if subpacketSize < 4 ∨ rest.length < subpacketSize then .rejected
        else if first &&& 0x20 = 0 then .ok ⟨first &&& 0x1F, type, words, subpacketSize⟩
        else if subpacketSize ≠ rest.length then .rejected
        else
          withByte rest (subpacketSize - 1) .outside fun paddingSize =>
            if paddingSize.toNat = 0 ∨ subpacketSize - 4 < paddingSize.toNat then .rejected
            else .ok ⟨first &&& 0x1F, type, words, subpacketSize - paddingSize.toNat⟩

/-- The loop over the entries of a full intra request. -/
def firTargets (subpacket : ByteSpan) (txSsrc : UInt32) (contentSize fir : Nat) : RtcpRead Bool :=
  if fir + 8 ≤ contentSize then
    withBe32 subpacket fir .outside fun ssrc =>
      if ssrc = txSsrc then .ok true else firTargets subpacket txSsrc contentSize (fir + 8)
  else .ok false
termination_by contentSize - fir

/-- What the loop has seen. -/
structure RtcpSeen where
  report : Bool := false
  sdes : Bool := false
  requestKeyFrame : Bool := false
  deriving DecidableEq, Repr

namespace RtcpSession

/-- `targets_local_stream` of a feedback record. -/
def targetsLocalStream (s : RtcpSession) (subpacket : ByteSpan) (h : RtcpHeader) : RtcpRead Bool :=
  if h.count = 1 ∧ s.acceptRemotePli = true then
    withBe32 subpacket 8 .outside fun ssrc => .ok (ssrc == s.txSsrc)
  else if h.count = 4 ∧ s.acceptRemoteFir = true then
    firTargets subpacket s.txSsrc h.contentSize 12
  else .ok false

/-- The branches for the type of a record; `first` is `offset == 0`. -/
def handleRecord (s : RtcpSession) (first : Bool) (subpacket : ByteSpan) (h : RtcpHeader)
    (seen : RtcpSeen) : RtcpRead RtcpSeen :=
  if first = true ∧ h.type ≠ 200 ∧ h.type ≠ 201 then .rejected
  else if h.type = 200 then
    if h.contentSize < 28 + h.count.toNat * 24 then .rejected else .ok { seen with report := true }
  else if h.type = 201 then
    if h.contentSize < 8 + h.count.toNat * 24 then .rejected else .ok { seen with report := true }
  else if h.type = 202 then
    if h.contentSize < 8 then .rejected else .ok { seen with sdes := true }
  else if h.type = 203 then
    if h.contentSize < 4 + h.count.toNat * 4 then .rejected else .ok seen
  else if h.type = 206 then
    if h.contentSize < 12 then .rejected
    else
      match s.targetsLocalStream subpacket h with
      | .outside => .outside
      | .rejected => .rejected
      | .ok targets => .ok { seen with requestKeyFrame := seen.requestKeyFrame || targets }
  else .ok seen

/-- The loop over the records. -/
def walkRtcp (s : RtcpSession) (first : Bool) (rest : ByteSpan) (seen : RtcpSeen) : RtcpRead Bool :=
  if _hrest : rest = [] then
    if seen.report = true ∧ seen.sdes = true then .ok seen.requestKeyFrame else .rejected
  else
    match rtcpHeader rest with
    | .outside => .outside
    | .rejected => .rejected
    | .ok h =>
      match s.handleRecord first rest h seen with
      | .outside => .outside
      | .rejected => .rejected
      | .ok seen => s.walkRtcp false (rest.drop h.size) seen
termination_by rest.length
decreasing_by
  have := List.length_pos_iff.mpr _hrest
  rw [List.length_drop, RtcpHeader.size]
  omega

/-- `handle_rtcp_packet_`, with `request_key_frame` where the packet is accepted. -/
def handleRtcpPacket (s : RtcpSession) (packet : ByteSpan) : RtcpRead Bool :=
  if packet.length < 8 then .rejected else s.walkRtcp true packet {}

/-! ## Building -/

/-- What `gettimeofday` and `millis` return. -/
structure Clock where
  tvSec : Int64
  tvUsec : Int64
  millis : UInt32

end RtcpSession

/-- A digit of `%x`. -/
def lowerHexDigit (digit : UInt8) : UInt8 := if digit < 10 then 48 + digit else 87 + digit

/-- `%08x`. -/
def lowerHex8 (value : UInt32) : ByteSpan :=
  ([28, 24, 20, 16, 12, 8, 4, 0] : List UInt32).map fun shift =>
    lowerHexDigit (value >>> shift &&& 0x0F).toUInt8

namespace RtcpSession

/-- `cname`. -/
def cname (s : RtcpSession) : ByteSpan := ascii "esp-video-" ++ lowerHex8 s.txSsrc

/-- The report at the beginning of a packet: of a sender, once it has sent, or of a receiver. -/
def rtcpReport (s : RtcpSession) (c : Clock) : ByteSpan :=
  if 0 < s.txPackets then
    let unixSeconds := if 0 < c.tvSec then c.tvSec.toUInt64 else 0
    let ntpSeconds := unixSeconds + 2208988800
    let ntpFraction := (c.tvUsec.toUInt64 <<< 32) / 1000000
    let elapsedMs := if s.lastTxRtpMs = 0 then 0 else c.millis - s.lastTxRtpMs
    [0x80, 200] ++ writeBe16 6 ++ writeBe32 s.txSsrc ++ writeBe32 ntpSeconds.toUInt32 ++
      writeBe32 ntpFraction.toUInt32 ++ writeBe32 (s.lastTxRtpTimestamp + elapsedMs * 90) ++
      writeBe32 s.txPackets ++ writeBe32 s.txOctets
  else [0x80, 201] ++ writeBe16 1 ++ writeBe32 s.txSsrc

/-- The description of the source, padded to whole words. -/
def rtcpSdes (s : RtcpSession) : ByteSpan :=
  let cnameLength := s.cname.length
  let padding := (4 - (11 + cnameLength) % 4) % 4
  let sdesSize := 11 + cnameLength + padding
  [0x81, 202] ++ writeBe16 (UInt16.ofNat (sdesSize / 4 - 1)) ++ writeBe32 s.txSsrc ++
    [1, UInt8.ofNat cnameLength] ++ s.cname ++ 0 :: List.replicate padding 0

/-- `build_rtcp_report_sdes_`: empty where it returns zero. -/
def buildRtcpReportSdes (s : RtcpSession) (c : Clock) (capacity : Nat) : ByteSpan :=
  if capacity < 64 then []
  else if 24 ≤ s.cname.length then []
  else s.rtcpReport c ++ s.rtcpSdes

/-- `send_rtcp_report_`: the packet that is handed to `send_rtcp_packet_`. -/
def sendRtcpReport (s : RtcpSession) (c : Clock) : Option ByteSpan :=
  let packet := s.buildRtcpReportSdes c 96
  if packet = [] then none else some packet

/-- `send_rtcp_pli_`. -/
def sendRtcpPli (s : RtcpSession) (c : Clock) : Option ByteSpan × RtcpSession :=
  if s.sendRemotePli = false ∨ s.isH264 = false then (none, s)
  else if s.remoteSsrc = 0 ∨ c.millis - s.lastPliMs < 500 then (none, s)
  else
    let packet := s.buildRtcpReportSdes c 112
    let sent := if packet = [] ∨ 112 < packet.length + 12 then none
      else some (packet ++ ([0x81, 206] ++ writeBe16 2 ++ writeBe32 s.txSsrc ++
        writeBe32 s.remoteSsrc))
    (sent, { s with lastPliMs := c.millis })

/-- `send_rtcp_bye_`. -/
def sendRtcpBye (s : RtcpSession) (c : Clock) : Option ByteSpan :=
  let packet := s.buildRtcpReportSdes c 104
  if packet = [] ∨ 104 < packet.length + 8 then none
  else some (packet ++ ([0x81, 203] ++ writeBe16 1 ++ writeBe32 s.txSsrc))

/-- The packets that the three paths may send. -/
def rtcpPackets (s : RtcpSession) (c : Clock) : List ByteSpan :=
  (s.sendRtcpReport c).toList ++ (s.sendRtcpPli c).1.toList ++ (s.sendRtcpBye c).toList

end RtcpSession

end EsphomeVoip
