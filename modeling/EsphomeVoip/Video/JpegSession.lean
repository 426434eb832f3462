import EsphomeVoip.Video.RtpJpegDepacketizer
import EsphomeVoip.Video.VideoRtpSession

/-! # The video RTP session of a JPEG build (`video_rtp.cpp`)

A JPEG build has the fields of `VideoRtpSession` and the depacketizer with its tables.  The slot
that frames are put together in is never handed on: the sink is given the unit and is done with it
when it answers, so one buffer does for a session.  Its answer is only counted. -/

namespace EsphomeVoip

/-- The fields of a JPEG build.  `slot` is the buffer that `reassembly_` points to.
    `jpeg_quantization_cache_` is the cache of the depacketizer. -/
structure JpegSession extends VideoRtpSession where
  slot : ByteSpan
  jpegDepacketizer : RtpJpegDepacketizer := {}
  jpegQuantizationCacheAllocationFailed : Bool := false

/-- `set_quantization_cache`, with storage that is large enough. -/
def RtpJpegDepacketizer.setQuantizationCache (storage : QuantizationCache)
    (d : RtpJpegDepacketizer) : RtpJpegDepacketizer :=
  { d with quantizationCache := some storage }.resetSession

namespace JpegSession

open VideoRtpSession (Datagram)

/-! ## Resets -/

/-- `this->reassembly_damaged_ = damaged`. -/
def setDamaged (damaged : Bool) (s : JpegSession) : JpegSession :=
  { s with reassemblyDamaged := damaged }

/-- `reset_reassembly_`. -/
def resetReassembly (s : JpegSession) : JpegSession :=
  { s with
    toVideoRtpSession := s.toVideoRtpSession.resetReassembly
    jpegDepacketizer := s.jpegDepacketizer.reset }

/-- A reset of the session: the unit, the tables and the number that is expected are forgotten. -/
def forget (s : JpegSession) : JpegSession :=
  { s.resetReassembly with
    jpegDepacketizer := s.resetReassembly.jpegDepacketizer.resetSession
    sequenceValid := false }

/-! ## A packet of the stream -/

/-- `ensure_jpeg_quantization_cache_`.  `malloc` is what `heap_caps_malloc` finds. -/
def ensureJpegQuantizationCache (malloc : Option QuantizationCache) (s : JpegSession) :
    Bool × JpegSession :=
  if s.jpegDepacketizer.quantizationCache.isSome then (true, s)
  else if s.jpegQuantizationCacheAllocationFailed then (false, s)
  else
    match malloc with
    | none => (false, { s with jpegQuantizationCacheAllocationFailed := true })
    | some storage =>
      (true, { s with jpegDepacketizer := s.jpegDepacketizer.setQuantizationCache storage })

/-- The three bytes of the fragment offset are zero. -/
def beginsFrame (payload : ByteSpan) : Bool :=
  byteAt payload 1 == 0 && byteAt payload 2 == 0 && byteAt payload 3 == 0

/-- The Q value is one whose tables are kept. -/
def keepsTables (payload : ByteSpan) : Bool :=
  kFirstCachedQuality ≤ byteAt payload 5 && byteAt payload 5 ≤ kLastCachedQuality

/-- The end of `handle_jpeg_payload_`, behind `push`. -/
def finishJpegPayload (timestamp : UInt32) (pushed : RtpJpegDepacketizer.Pushed)
    (s : JpegSession) : Bool × JpegSession :=
  let s := { s with jpegDepacketizer := pushed.depacketizer, slot := pushed.output }
  match pushed.result with
  | .dropped => (false, s.setDamaged false)
  | .incomplete => (true, s)
  | .complete =>
    if s.reassemblyDamaged = true ∨ pushed.outputSize = 0 ∨ s.hasSink = false then
      (true, s.setDamaged false)
    else
      let accessUnit : EncodedVideoAccessUnit :=
        { data := s.slot.take pushed.outputSize, timestamp90khz := timestamp, keyFrame := true }
      (true, { s.setDamaged false with handedOver := s.handedOver ++ [accessUnit] })

/-- The part of `handle_jpeg_payload_` behind the check for the tables. -/
def takeJpegPayload (payload : ByteSpan) (marker : Bool) (timestamp : UInt32) (s : JpegSession) :
    Bool × JpegSession :=
  -- every frame can be decoded on its own, so a gap in front of it does no harm
  let s := if 4 ≤ payload.length ∧ beginsFrame payload = true then s.setDamaged false else s
  s.finishJpegPayload timestamp (s.jpegDepacketizer.push payload marker timestamp s.slot)

/-- `handle_jpeg_payload_`. -/
def handleJpegPayload (malloc : Option QuantizationCache) (payload : ByteSpan) (marker : Bool)
    (timestamp : UInt32) (s : JpegSession) : Bool × JpegSession :=
  let ensured :=
    if 8 ≤ payload.length ∧ beginsFrame payload = true ∧ keepsTables payload = true then
      s.ensureJpegQuantizationCache malloc
    else (true, s)
  match ensured with
  | (false, s) =>
    (false, { s.setDamaged false with jpegDepacketizer := s.jpegDepacketizer.reset })
  | (true, s) => s.takeJpegPayload payload marker timestamp

/-- A number that is not the expected one damages the frame. -/
def noteGap (sequence : UInt16) (s : JpegSession) : JpegSession :=
  if s.sequenceValid ∧ sequence ≠ s.expectedSequence then s.setDamaged true else s

/-- `handle_rtp_packet_`. -/
def handleRtpPacket (malloc : Option QuantizationCache) (packet : ByteSpan) (s : JpegSession) :
    Bool × JpegSession :=
  if s.receiveEnabled = false ∨ packet.length < 12 ∨ rtpVersion packet ≠ 2 then (false, s)
  else
    match rtpPayload packet with
    | none => (false, s)
    | some payload =>
      if rtpPayloadType packet ≠ s.payloadType ∨ payload = [] then (false, s)
      else
        match s.acquireReassemblySlot with
        | (false, base) => (false, { s with toVideoRtpSession := base })
        | (true, base) =>
          let sequence := rtpSequence packet
          let s := { s with toVideoRtpSession := base }.noteGap sequence
          match s.handleJpegPayload malloc payload (rtpMarker packet) (rtpTimestamp packet) with
          | (false, s) => (false, s.resetReassembly)
          | (true, s) => (true, { s with expectedSequence := sequence + 1, sequenceValid := true })

/-! ## The receive worker -/

/-- What another SSRC does before its packet is looked at. -/
def followSource (packet : ByteSpan) (s : JpegSession) : JpegSession :=
  if s.sourceChanges packet then s.forget else s

/-- A packet of the negotiated payload type, with the rules about its SSRC and its port; and
    whether it has been accepted. -/
def receiveMedia (malloc : Option QuantizationCache) (d : Datagram) (packet : ByteSpan)
    (s : JpegSession) : Bool × JpegSession :=
  if s.sourceChanges packet = true ∧ d.sourcePort ≠ s.latchedRemoteRtpPort then (false, s)
  else
    match (s.followSource packet).handleRtpPacket malloc packet with
    | (false, s') => (false, s')
    | (true, s') =>
      let s' := if s.remoteSsrcLatched = false ∨ s.sourceChanges packet = true then
        { s' with remoteSsrc := rtpSsrc packet, remoteSsrcLatched := true } else s'
      (true, { s' with latchedRemoteRtpPort := d.sourcePort })

/-- `handle_rtp_keepalive_`, and whether it has consumed a number. -/
def receiveKeepalive (packet : ByteSpan) (sourcePort : UInt16) (s : JpegSession) :
    Bool × JpegSession :=
  let base := s.handleRtpKeepalive packet sourcePort (rtpSsrc packet)
  (base.expectedSequence != s.expectedSequence, { s with toVideoRtpSession := base })

/-- One round of the receive loop of `task_`, and whether the datagram has taken a number. -/
def receive (malloc : Option QuantizationCache) (d : Datagram) (s : JpegSession) :
    Bool × JpegSession :=
  let packet := d.bytes.take kMaxRtpPacketBytes
  if packet.length < 12 ∨ rtpVersion packet ≠ 2 then (false, s)
  else if d.sourceIp ≠ s.remoteIpV4 then (false, s)
  else if rtpPayloadType packet ≠ s.payloadType then s.receiveKeepalive packet d.sourcePort
  else s.receiveMedia malloc d packet

/-- The part of `task_` that takes `rx_reset_requested_` up. -/
def takeReset (s : JpegSession) : JpegSession :=
  if s.rxResetRequested then { s.forget with rxResetRequested := false } else s

/-- What reaches the receive worker. -/
inductive Event where
  /-- a datagram is received, and `malloc` is what the heap has for the tables -/
  | datagram (d : Datagram) (malloc : Option QuantizationCache)
  /-- a pass of the worker takes a requested reset up -/
  | reset
  /-- the receive direction is switched -/
  | direction (enabled : Bool)

/-- One event. -/
def step : Event → JpegSession → JpegSession
  | .datagram d malloc, s => (s.receive malloc d).2
  | .reset, s => s.takeReset
  | .direction enabled, s => { s with toVideoRtpSession := s.requestReceive enabled }

end JpegSession

end EsphomeVoip
