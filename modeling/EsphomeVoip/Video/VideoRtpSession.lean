import EsphomeVoip.ForStd.EventRun
import EsphomeVoip.Video.RtpPacket

/-! # The video RTP session (`video_rtp.cpp`, H.264 build)

The sender cuts an access unit into packets, the receiver puts packets together into an access
unit in one of its slots and hands the slot to the sink.  The functions below are those of
`VideoRtpSession` on the path of a packet.  `sendto` is a parameter: whether the two attempts at
`sendto` get a datagram out.  What the sink answers comes with the datagram. -/

namespace EsphomeVoip

/-- `VideoRtpSession::kMaxAccessUnitBytes`. -/
def kMaxAccessUnitBytes : Nat := 128 * 1024

/-- `VideoRtpSession::kMaxRtpPacketBytes`. -/
def kMaxRtpPacketBytes : Nat := 1500

/-- `VideoRtpSession::kH264ParameterSetBytes`. -/
def kH264ParameterSetBytes : Nat := 1024

/-- `ReceiveAccessUnitSlot`, with whether its buffer has been allocated.  The state is 0 for free,
    1 for filling and 2 for the consumer. -/
structure ReceiveAccessUnitSlot where
  allocated : Bool := true
  state : UInt8 := 0
  deriving DecidableEq, Repr

/-- `EncodedVideoAccessUnit`. -/
structure EncodedVideoAccessUnit where
  data : ByteSpan
  timestamp90khz : UInt32
  keyFrame : Bool := false
  deriving DecidableEq, Repr

/-- The fields of `VideoRtpSession` that decide about a packet.  `reassembly` holds the first
    `reassembly_size_` bytes of the slot that is being filled; `handedOver` lists every unit that
    the sink has been given, and nothing reads it. -/
structure VideoRtpSession where
  payloadType : UInt8
  maxPayload : Nat := 1200
  running : Bool := true
  sendEnabled : Bool := true
  receiveEnabled : Bool := true
  rtpSocket : Bool := true
  hasSink : Bool := true
  txSequence : UInt16 := 0
  txTimestampOffset : UInt32 := 0
  txSsrc : UInt32 := 0
  remoteIpV4 : UInt32
  remoteSsrc : UInt32 := 0
  remoteSsrcLatched : Bool := false
  latchedRemoteRtpPort : UInt16 := 0
  rxResetRequested : Bool := false
  receiveAccessUnits : List ReceiveAccessUnitSlot := [{}, {}, {}]
  reassemblySlot : Option Nat := none
  reassembly : ByteSpan := []
  reassemblyTimestamp : UInt32 := 0
  reassemblyActive : Bool := false
  reassemblyDamaged : Bool := false
  fuActive : Bool := false
  fuNalType : UInt8 := 0
  expectedSequence : UInt16 := 0
  sequenceValid : Bool := false
  h264Sps : ByteSpan := []
  h264Pps : ByteSpan := []
  handedOver : List EncodedVideoAccessUnit := []
  deriving DecidableEq, Repr

namespace VideoRtpSession

/-! ## Sending -/

/-- `send_rtp_payload_`: the datagram that went out. -/
def sendRtpPayload (sendto : ByteSpan → Bool) (payload : ByteSpan) (marker : Bool)
    (timestamp : UInt32) (s : VideoRtpSession) : Option ByteSpan × VideoRtpSession :=
  if payload = [] ∨ s.maxPayload < payload.length ∨ s.sendEnabled = false then (none, s)
  else if kMaxRtpPacketBytes < payload.length + 12 then (none, s)
  else
    let packet := rtpPacket s.payloadType marker s.txSequence (timestamp + s.txTimestampOffset)
      s.txSsrc payload
    let s := { s with txSequence := s.txSequence + 1 }
    if s.running = false ∨ s.sendEnabled = false ∨ s.rtpSocket = false then (none, s)
    else if sendto packet = true then (some packet, s)
    else (none, s)

/-- What a part of `send_h264_access_unit_` leaves: the datagrams that went out, and whether it
    goes on. -/
structure Sent where
  packets : List ByteSpan
  ok : Bool
  session : VideoRtpSession
  deriving DecidableEq, Repr

/-- The FU indicator and the FU header of a fragment. -/
def fuPrefix (nal : ByteSpan) (first final : Bool) : ByteSpan :=
  [(byteAt nal 0 &&& 0xE0) ||| 28,
    nalType nal ||| (if first then 0x80 else 0) ||| (if final then 0x40 else 0)]

/-- The loop that cuts a NAL unit into fragments, from `offset` on.  A fragment has a byte at
    least, so the size of the unit bounds the rounds. -/
def sendFragments (sendto : ByteSpan → Bool) (nal : ByteSpan) (last : Bool) (timestamp : UInt32) :
    Nat → Nat → Bool → VideoRtpSession → Sent
  | 0, _, _, s => ⟨[], true, s⟩
  | fuel + 1, offset, first, s =>
    if offset < nal.length then
      let chunk := min (s.maxPayload - 2) (nal.length - offset)
      let final := offset + chunk == nal.length
      let packet := fuPrefix nal first final ++ (nal.drop offset).take chunk
      match s.sendRtpPayload sendto packet (last && final) timestamp with
      | (none, s) => ⟨[], false, s⟩
      | (some datagram, s) =>
        let rest := sendFragments sendto nal last timestamp fuel (offset + chunk) false s
        { rest with packets := datagram :: rest.packets }
    else ⟨[], true, s⟩

/-- One round of the loop of `send_h264_access_unit_`: a NAL unit goes out in one packet where it
    fits, and in fragments where it does not. -/
def sendNal (sendto : ByteSpan → Bool) (nal : ByteSpan) (last : Bool) (timestamp : UInt32)
    (s : VideoRtpSession) : Sent :=
  if nal.length ≤ s.maxPayload then
    match s.sendRtpPayload sendto nal last timestamp with
    | (none, s) => ⟨[], false, s⟩
    | (some datagram, s) => ⟨[datagram], true, s⟩
  else if nal.length < 2 ∨ s.maxPayload ≤ 2 then ⟨[], false, s⟩
  else sendFragments sendto nal last timestamp nal.length 1 true s

/-- The loop of `send_h264_access_unit_`.  A unit is the last one if there is no other behind
    it. -/
def sendNals (sendto : ByteSpan → Bool) (data : ByteSpan) (timestamp : UInt32) :
    Nat → Nat → Bool → VideoRtpSession → Sent
  | 0, _, sentAny, s => ⟨[], sentAny, s⟩
  | fuel + 1, cursor, sentAny, s =>
    match nextAnnexBNal data cursor with
    | none => ⟨[], sentAny, s⟩
    | some (nal, next) =>
      let sent := s.sendNal sendto nal (nextAnnexBNal data next).isNone timestamp
      if sent.ok = true then
        let rest := sendNals sendto data timestamp fuel next true sent.session
        { rest with packets := sent.packets ++ rest.packets }
      else sent

/-- `send_h264_access_unit_`. -/
def sendH264AccessUnit (sendto : ByteSpan → Bool) (accessUnit : EncodedVideoAccessUnit)
    (s : VideoRtpSession) : Sent :=
  sendNals sendto accessUnit.data accessUnit.timestamp90khz (accessUnit.data.length + 1) 0 false s

/-! ## Slots -/

/-- Set the state of a slot. -/
def setSlotState (slot : Nat) (state : UInt8) (s : VideoRtpSession) : VideoRtpSession :=
  { s with receiveAccessUnits := s.receiveAccessUnits.modify slot fun r => { r with state } }

/-- `acquire_reassembly_slot_`. -/
def acquireReassemblySlot (s : VideoRtpSession) : Bool × VideoRtpSession :=
  if s.reassemblySlot.isSome = true then (true, s)
  else
    match s.receiveAccessUnits.findIdx? fun r => r.allocated && r.state == 0 with
    | some slot => (true, { s.setSlotState slot 1 with reassemblySlot := some slot })
    | none => (false, s)

/-- `release_reassembly_slot_`. -/
def releaseReassemblySlot (slot : Nat) (s : VideoRtpSession) : VideoRtpSession :=
  s.setSlotState slot 0

/-- `reset_reassembly_`. -/
def resetReassembly (s : VideoRtpSession) : VideoRtpSession :=
  { s with
    reassembly := []
    reassemblyTimestamp := 0
    reassemblyActive := false
    reassemblyDamaged := false
    fuActive := false
    fuNalType := 0 }

/-- `this->reassembly_damaged_ = true`. -/
def damage (s : VideoRtpSession) : VideoRtpSession := { s with reassemblyDamaged := true }

/-! ## The end of an access unit -/

/-- What the loop of `finish_access_unit_` finds out about the units put together. -/
structure ParameterSets where
  keyFrame : Bool := false
  hasSps : Bool := false
  hasPps : Bool := false
  sps : ByteSpan
  pps : ByteSpan
  deriving DecidableEq, Repr

/-- One round of that loop. -/
def ParameterSets.look (p : ParameterSets) (nal : ByteSpan) : ParameterSets :=
  let p := { p with keyFrame := p.keyFrame || nalType nal == 5 }
  if nalType nal = 7 then
    { p with
      hasSps := true
      sps := if nal.length ≤ kH264ParameterSetBytes then nal else p.sps }
  else if nalType nal = 8 then
    { p with
      hasPps := true
      pps := if nal.length ≤ kH264ParameterSetBytes then nal else p.pps }
  else p

/-- The cached sets that go before a key frame without its own, each behind a start code. -/
def ParameterSets.prefixBytes (p : ParameterSets) : ByteSpan :=
  (if p.keyFrame && !p.hasSps && p.sps != [] then startCode 3 ++ p.sps else []) ++
    if p.keyFrame && !p.hasPps && p.pps != [] then startCode 3 ++ p.pps else []

/-- `finish_access_unit_`.  `accepts` is the answer of the sink. -/
def finishAccessUnit (accepts : Bool) (timestamp : UInt32) (s : VideoRtpSession) :
    VideoRtpSession :=
  if s.reassemblyDamaged = false ∧ s.reassembly ≠ [] ∧ s.hasSink = true then
    let p := (annexBNals s.reassembly).foldl ParameterSets.look
      { sps := s.h264Sps, pps := s.h264Pps }
    let s := { s with h264Sps := p.sps, h264Pps := p.pps }
    if p.prefixBytes ≠ [] ∧
        kMaxAccessUnitBytes < s.reassembly.length + p.prefixBytes.length then
      s.resetReassembly
    else
      let slot := s.reassemblySlot.getD 0
      let accessUnit : EncodedVideoAccessUnit :=
        { data := p.prefixBytes ++ s.reassembly
          timestamp90khz := timestamp
          keyFrame := p.keyFrame }
      let s := { s.setSlotState slot 2 with
        reassemblySlot := none
        handedOver := s.handedOver ++ [accessUnit] }
      let s := if accepts then s else s.releaseReassemblySlot slot
      s.resetReassembly.acquireReassemblySlot.2
  else s.resetReassembly.acquireReassemblySlot.2

/-! ## A packet of the stream -/

/-- `append_annex_b_nal_`. -/
def appendAnnexBNal (nal : ByteSpan) (s : VideoRtpSession) : Bool × VideoRtpSession :=
  if nal = [] ∨ kMaxAccessUnitBytes < s.reassembly.length + 4 + nal.length then (false, s)
  else (true, { s with reassembly := s.reassembly ++ startCode 3 ++ nal })

/-- The loop that validates a STAP-A from `pos` on.  A round consumes two bytes at least. -/
def stapIsValid (payload : ByteSpan) : Nat → Nat → Bool → Bool
  | 0, _, _ => false
  | fuel + 1, pos, sawNal =>
    if pos + 2 ≤ payload.length then
      let nalSize := (readBe16 payload pos).toNat
      if nalSize = 0 ∨ payload.length < pos + 2 + nalSize then false
      else
        let aggregatedType := byteAt payload (pos + 2) &&& 0x1F
        if aggregatedType = 0 ∨ 23 < aggregatedType then false
        else stapIsValid payload fuel (pos + 2 + nalSize) true
    else sawNal && pos == payload.length

/-- The first part of `handle_h264_payload_`: whether it returns before it changes anything. -/
def refusesH264Payload (payload : ByteSpan) (timestamp : UInt32) (s : VideoRtpSession) : Bool :=
  if nalType payload = 24 then !stapIsValid payload payload.length 1 false
  else if nalType payload = 28 then
    let start := byteAt payload 1 &&& 0x80 != 0
    let final := byteAt payload 1 &&& 0x40 != 0
    let fragmentType := byteAt payload 1 &&& 0x1F
    payload.length < 2 || (start && final) || fragmentType == 0 || 23 < fragmentType ||
      (!start && (!s.reassemblyActive || timestamp != s.reassemblyTimestamp || !s.fuActive ||
        s.fuNalType != fragmentType))
  else nalType payload == 0 || 23 < nalType payload

/-- A packet with another timestamp begins another access unit. -/
def openAccessUnit (timestamp : UInt32) (sequenceGap : Bool) (s : VideoRtpSession) :
    VideoRtpSession :=
  if s.reassemblyActive = false ∨ timestamp ≠ s.reassemblyTimestamp then
    let s := if s.reassemblyActive then s.resetReassembly else s
    { s with
      reassemblyActive := true
      reassemblyTimestamp := timestamp
      reassemblyDamaged := sequenceGap }
  else if sequenceGap then s.damage
  else s

/-- The loop that appends the units of a STAP-A. -/
def appendStap (payload : ByteSpan) : Nat → Nat → VideoRtpSession → VideoRtpSession
  | 0, _, s => s
  | fuel + 1, pos, s =>
    if pos + 2 ≤ payload.length then
      let nalSize := (readBe16 payload pos).toNat
      let pos := pos + 2
      if nalSize = 0 ∨ payload.length < pos + nalSize then s.damage
      else
        match s.appendAnnexBNal ((payload.drop pos).take nalSize) with
        | (false, s) => s.damage
        | (true, s) => appendStap payload fuel (pos + nalSize) s
    else if pos ≠ payload.length then s.damage
    else s

/-- The start code and the header that the first fragment of a NAL unit brings. -/
def beginFragments (fragmentType reconstructed : UInt8) (s : VideoRtpSession) :
    VideoRtpSession :=
  let s := if s.fuActive then s.damage else s
  let s := { s with fuActive := true, fuNalType := fragmentType }
  if kMaxAccessUnitBytes < s.reassembly.length + 5 then s.damage
  else { s with reassembly := s.reassembly ++ startCode 3 ++ [reconstructed] }

/-- The bytes of a fragment, which are left out once the unit is damaged. -/
def appendFragment (fragment : ByteSpan) (s : VideoRtpSession) : VideoRtpSession :=
  if s.reassemblyDamaged then s
  else if kMaxAccessUnitBytes < s.reassembly.length + fragment.length then s.damage
  else { s with reassembly := s.reassembly ++ fragment }

/-- The last fragment of a NAL unit. -/
def endFragments (s : VideoRtpSession) : VideoRtpSession :=
  let s := if s.fuActive then s else s.damage
  { s with fuActive := false, fuNalType := 0 }

/-- The branch of `handle_h264_payload_` for FU-A. -/
def appendFu (payload : ByteSpan) (s : VideoRtpSession) : VideoRtpSession :=
  let start := byteAt payload 1 &&& 0x80 != 0
  let final := byteAt payload 1 &&& 0x40 != 0
  let fragmentType := byteAt payload 1 &&& 0x1F
  let reconstructed := (byteAt payload 0 &&& 0xE0) ||| fragmentType
  let s := if start then s.beginFragments fragmentType reconstructed else s
  let s := s.appendFragment (payload.drop 2)
  if final then s.endFragments else s

/-- The branches of `handle_h264_payload_` that take a payload up. -/
def appendPayload (payload : ByteSpan) (s : VideoRtpSession) : VideoRtpSession :=
  if 1 ≤ nalType payload ∧ nalType payload ≤ 23 then
    let s := if s.fuActive then s.damage else s
    match s.appendAnnexBNal payload with
    | (true, s) => s
    | (false, s) => s.damage
  else if nalType payload = 24 then
    let s := if s.fuActive then s.damage else s
    s.appendStap payload payload.length 1
  else if nalType payload = 28 then s.appendFu payload
  else s

/-- `handle_h264_payload_`. -/
def handleH264Payload (accepts : Bool) (payload : ByteSpan) (marker : Bool) (timestamp : UInt32)
    (sequenceGap : Bool) (s : VideoRtpSession) : Bool × VideoRtpSession :=
  if payload = [] ∨ s.refusesH264Payload payload timestamp = true then (false, s)
  else
    let s := (s.openAccessUnit timestamp sequenceGap).appendPayload payload
    if marker then
      if s.fuActive then (false, s.damage.finishAccessUnit accepts timestamp)
      else (true, s.finishAccessUnit accepts timestamp)
    else (true, s)

/-- `handle_rtp_packet_`. -/
def handleRtpPacket (accepts : Bool) (packet : ByteSpan) (s : VideoRtpSession) :
    Bool × VideoRtpSession :=
  if s.receiveEnabled = false ∨ packet.length < 12 ∨ rtpVersion packet ≠ 2 then (false, s)
  else
    match rtpPayload packet with
    | none => (false, s)
    | some payload =>
      if rtpPayloadType packet ≠ s.payloadType ∨ payload = [] then (false, s)
      else
        match s.acquireReassemblySlot with
        | (false, s) => (false, s)
        | (true, s) =>
          let sequence := rtpSequence packet
          let sequenceGap := s.sequenceValid && sequence != s.expectedSequence
          match s.handleH264Payload accepts payload (rtpMarker packet) (rtpTimestamp packet)
              sequenceGap with
          | (false, s) => (false, s.resetReassembly)
          | (true, s) => (true, { s with expectedSequence := sequence + 1, sequenceValid := true })

/-- `handle_rtp_keepalive_`. -/
def handleRtpKeepalive (packet : ByteSpan) (sourcePort : UInt16) (sourceSsrc : UInt32)
    (s : VideoRtpSession) : VideoRtpSession :=
  let payloadType := rtpPayloadType packet
  if payloadType < 96 ∨ payloadType = s.payloadType ∨ rtpMarker packet = true ∨
      s.remoteSsrcLatched = false ∨ sourceSsrc ≠ s.remoteSsrc ∨
      sourcePort ≠ s.latchedRemoteRtpPort then s
  else if rtpPayload packet ≠ some [] ∨ s.sequenceValid = false then s
  else if rtpSequence packet ≠ s.expectedSequence then s
  else { s with expectedSequence := rtpSequence packet + 1 }

/-! ## The receive worker -/

/-- A datagram at the RTP socket, and what the sink answers if the datagram completes a unit. -/
structure Datagram where
  sourceIp : UInt32
  sourcePort : UInt16
  bytes : ByteSpan
  accepts : Bool := true
  deriving DecidableEq, Repr

/-- Whether a packet has another SSRC than the source that is followed. -/
def sourceChanges (packet : ByteSpan) (s : VideoRtpSession) : Bool :=
  s.remoteSsrcLatched && rtpSsrc packet != s.remoteSsrc

/-- What another SSRC does before its packet is looked at. -/
def followSource (packet : ByteSpan) (s : VideoRtpSession) : VideoRtpSession :=
  if s.sourceChanges packet then { s.resetReassembly with sequenceValid := false } else s

/-- A packet of the negotiated payload type, with the rules about its SSRC and its port. -/
def receiveMedia (d : Datagram) (packet : ByteSpan) (s : VideoRtpSession) : VideoRtpSession :=
  if s.sourceChanges packet = true ∧ d.sourcePort ≠ s.latchedRemoteRtpPort then s
  else
    match (s.followSource packet).handleRtpPacket d.accepts packet with
    | (false, s') => s'
    | (true, s') =>
      let s' := if s.remoteSsrcLatched = false ∨ s.sourceChanges packet = true then
        { s' with remoteSsrc := rtpSsrc packet, remoteSsrcLatched := true } else s'
      { s' with latchedRemoteRtpPort := d.sourcePort }

/-- One round of the receive loop of `task_`: `recvfrom` cuts a datagram off at the size of the
    buffer. -/
def receive (d : Datagram) (s : VideoRtpSession) : VideoRtpSession :=
  let packet := d.bytes.take kMaxRtpPacketBytes
  if packet.length < 12 ∨ rtpVersion packet ≠ 2 then s
  else if d.sourceIp ≠ s.remoteIpV4 then s
  else if rtpPayloadType packet ≠ s.payloadType then
    s.handleRtpKeepalive packet d.sourcePort (rtpSsrc packet)
  else s.receiveMedia d packet

/-- The part of `task_` that takes `rx_reset_requested_` up. -/
def takeReset (s : VideoRtpSession) : VideoRtpSession :=
  if s.rxResetRequested then
    { s.resetReassembly with rxResetRequested := false, sequenceValid := false }
  else s

/-- What `request_media_direction` stores for the receive worker when it succeeds. -/
def requestReceive (enabled : Bool) (s : VideoRtpSession) : VideoRtpSession :=
  { s with
    receiveEnabled := enabled
    rxResetRequested := s.rxResetRequested || (!enabled && s.receiveEnabled) }

/-- What reaches the receive worker. -/
inductive Event where
  /-- a datagram is received -/
  | datagram (d : Datagram)
  /-- a pass of the worker takes a requested reset up -/
  | reset
  /-- the receive direction is switched -/
  | direction (enabled : Bool)
  /-- the sink gives a slot back -/
  | release (slot : Nat)
  deriving DecidableEq, Repr

/-- One event. -/
def step : Event → VideoRtpSession → VideoRtpSession
  | .datagram d, s => s.receive d
  | .reset, s => s.takeReset
  | .direction enabled, s => s.requestReceive enabled
  | .release slot, s => s.releaseReassemblySlot slot

/-- A run. -/
def run (s : VideoRtpSession) (events : List Event) : VideoRtpSession :=
  EventRun.after step s events

end VideoRtpSession

end EsphomeVoip
