import EsphomeVoip.Sdp.MediaLine
import EsphomeVoip.Sdp.RtpFormat

/-! # Writing an SDP (`sip_sdp.cpp`)

`SdpEndpoint` is what the build and the configuration fix, `SdpContext` what a dialog changes.  The
offer names the local formats, the answer what has been negotiated, and an answer has the media
lines of the offer. -/

namespace EsphomeVoip

/-- `VideoCodec`. -/
inductive VideoCodec where
  | jpeg
  | h264
  deriving DecidableEq, Repr

namespace VideoCapability

/-- `is_h264`. -/
def isH264 (c : VideoCapability) : Bool := c.encoding == "H264"

/-- `is_jpeg`. -/
def isJpeg (c : VideoCapability) : Bool := c.encoding == "JPEG"

/-- `valid`, in a build with that codec. -/
def valid (codec : VideoCodec) (c : VideoCapability) : Bool :=
  if 127 < c.payloadType ∨ c.clockRate ≠ 90000 ∨ c.width = 0 ∨ c.height = 0 ∨ c.maxFps = 0 then
    false
  else
    match codec with
    | .jpeg => c.isJpeg && c.payloadType == 26
    | .h264 =>
      c.isH264 && 96 ≤ c.payloadType && c.packetizationMode == 1 && c.profileLevelId.length == 6

end VideoCapability

/-- What the build and the configuration fix of a `SipTransport`. -/
structure SdpEndpoint where
  /-- `USE_ESPHOME_VOIP_STACK_SPEAKER`. -/
  speaker : Bool := true
  /-- `USE_ESPHOME_VOIP_STACK_OPUS`. -/
  opus : Bool := false
  /-- The codec of a build with `USE_ESPHOME_VOIP_STACK_VIDEO`. -/
  videoCodec : Option VideoCodec := none
  udpMaxPayload : Nat := 1200
  rtpPort : UInt16 := 40000
  videoRtpPort : UInt16 := 40002
  videoOfferPayloadType : Nat := 103
  /-- The capability of `video_source_`. -/
  videoSource : Option VideoCapability := none
  /-- The capability of `video_sink_`. -/
  videoSink : Option VideoCapability := none
  /-- `local_ip_for_peer_`, 0 when there is none. -/
  localIp : UInt32 → UInt32 := fun _ => 0
  /-- `inet_aton` of a text, 0 when it is no address. -/
  parseIp : List Char → UInt32 := fun _ => 0

namespace Sdp

/-- `inet_ntoa_r`. -/
def ipText (ip : UInt32) : Text :=
  decimal (ip >>> 24).toNat ++ ".".toList ++ decimal (ip >>> 16 &&& 0xFF).toNat ++ ".".toList ++
    decimal (ip >>> 8 &&& 0xFF).toNat ++ ".".toList ++ decimal (ip &&& 0xFF).toNat

/-- Payload types with blanks between them. -/
def payloadList (payloads : List Nat) : Text := [' '].intercalate (payloads.map decimal)

/-- The `a=rtpmap` line of an audio format. -/
def audioRtpmap (pt : Nat) (encoding : String) (format : AudioFormat) : Text :=
  "a=rtpmap:".toList ++ decimal pt ++ " ".toList ++ encoding.toList ++ "/".toList ++
    decimal (audioFormatRtpClockRate format) ++ "/".toList ++
    decimal (audioFormatRtpChannels format)

/-- The `a=rtpmap` line, and the `a=fmtp` line of Opus. -/
def audioMaps (pt : Nat) (encoding : String) (format : AudioFormat) : List Text :=
  audioRtpmap pt encoding format ::
    if format.codec = .opus then
      ["a=fmtp:".toList ++ decimal pt ++
        " stereo=0;sprop-stereo=0;maxaveragebitrate=28000".toList]
    else []

/-- The line of the directional extension. -/
def audioFlow (pt : Nat) (flow : String) : Text :=
  "a=x-voip-stack-flow:".toList ++ decimal pt ++ " ".toList ++ flow.toList

/-- What an offer or an answer says about audio: the payload types and the lines about them. -/
structure AudioLines where
  payloads : List Nat := []
  maps : List Text := []
  flows : List Text := []
  deriving DecidableEq, Repr

/-- Add a payload type.  `directional` says that its flow is given. -/
def AudioLines.add (pt : Nat) (encoding : String) (format : AudioFormat) (directional : Bool)
    (flow : String) (lines : AudioLines) : AudioLines where
  payloads := lines.payloads ++ [pt]
  maps := lines.maps ++ audioMaps pt encoding format
  flows := if directional then lines.flows ++ [audioFlow pt flow] else lines.flows

/-- The lines before the first media line. -/
def sessionLines (c : SdpContext) (localIp : Text) : List Text :=
  ["v=0".toList,
    "o=- ".toList ++ decimal c.sdpSessionId.toNat ++ " ".toList ++
      decimal c.sdpSessionVersion.toNat ++ " IN IP4 ".toList ++ localIp,
    "s=VoIP Stack".toList,
    "c=IN IP4 ".toList ++ localIp,
    "t=0 0".toList]

/-- The audio section. -/
def audioSection (e : SdpEndpoint) (lines : AudioLines) (ptime : Nat) (direction : String) :
    List Text :=
  ("m=audio ".toList ++ decimal e.rtpPort.toNat ++ " RTP/AVP ".toList ++
      payloadList lines.payloads) ::
    (lines.maps ++ lines.flows ++
      ["a=ptime:".toList ++ decimal ptime, "a=maxptime:".toList ++ decimal ptime,
        "a=".toList ++ direction.toList])

/-- `wrap_sdp_envelope_`. -/
def wrapSdpEnvelope (e : SdpEndpoint) (c : SdpContext) (localIp : Text) (lines : AudioLines)
    (ptime : Nat) (direction : String) : Text :=
  sdpText (sessionLines c localIp ++ audioSection e lines ptime direction)

/-! ## Video -/

/-- The common part of `local_video_send_capability_` and `local_video_receive_capability_`. -/
def localVideoCapability (e : SdpEndpoint) (codec : VideoCodec) :
    Option VideoCapability → VideoCapability
  | none => {}
  | some capability =>
    if codec = .jpeg ∧ capability.isJpeg = false ∨ codec = .h264 ∧ capability.isH264 = false then
      {}
    else
      { capability with
        payloadType := if capability.isJpeg then 26 else e.videoOfferPayloadType
        packetizationMode := if capability.isH264 then 1 else 0
        rtcpFeedbackPli := capability.isH264
        rtcpFeedbackFir := capability.isH264
        clockRate := 90000 }

/-- `local_video_send_capability_`. -/
def localVideoSendCapability (e : SdpEndpoint) (codec : VideoCodec) : VideoCapability :=
  localVideoCapability e codec e.videoSource

/-- `local_video_receive_capability_`. -/
def localVideoReceiveCapability (e : SdpEndpoint) (codec : VideoCodec) : VideoCapability :=
  localVideoCapability e codec e.videoSink

/-- The direction of a video section. -/
def videoDirection (send receive : Bool) : String :=
  if send && receive then "sendrecv"
  else if send then "sendonly"
  else if receive then "recvonly"
  else "inactive"

/-- The lines about the codec. -/
def videoCodecLines (codec : VideoCodec) (capability : VideoCapability) : List Text :=
  if codec = .h264 ∧ capability.isH264 = true then
    ("a=fmtp:".toList ++ decimal capability.payloadType ++
        " packetization-mode=1;profile-level-id=".toList ++ capability.profileLevelId.toList ++
        if capability.levelAsymmetryAllowed then ";level-asymmetry-allowed=1".toList else []) ::
      ((if capability.rtcpFeedbackPli then
          ["a=rtcp-fb:".toList ++ decimal capability.payloadType ++ " nack pli".toList] else []) ++
        if capability.rtcpFeedbackFir then
          ["a=rtcp-fb:".toList ++ decimal capability.payloadType ++ " ccm fir".toList] else [])
  else []

/-- The video section, but for its direction. -/
def videoLines (e : SdpEndpoint) (codec : VideoCodec) (localIp : Text)
    (capability : VideoCapability) : List Text :=
  ["m=video ".toList ++ decimal e.videoRtpPort.toNat ++ " RTP/AVP ".toList ++
      decimal capability.payloadType,
    "c=IN IP4 ".toList ++ localIp] ++
  (if capability.maxBitrateBps ≠ 0 then
    ["b=TIAS:".toList ++ decimal capability.maxBitrateBps] else []) ++
  ["a=rtcp:".toList ++ decimal (e.videoRtpPort + 1).toNat ++ " IN IP4 ".toList ++ localIp,
    "a=rtpmap:".toList ++ decimal capability.payloadType ++ " ".toList ++
      capability.encoding.toList ++ "/90000".toList] ++
  videoCodecLines codec capability ++
  ["a=framerate:".toList ++ decimal capability.maxFps]

/-- The lines that `append_video_sdp_` adds, in a build with that codec. -/
def videoSection (e : SdpEndpoint) (codec : VideoCodec) (c : SdpContext) (localIp : Text)
    (answer : Bool) : List Text :=
  if c.referContextActive = true ∨ e.videoSource = none ∧ e.videoSink = none then []
  else if answer = true ∧ c.video.offered = true ∧ c.video.negotiated = false then
    ["m=video 0 RTP/AVP ".toList ++ decimal c.video.capability.payloadType]
  else
    let localSend := localVideoSendCapability e codec
    let localReceive := localVideoReceiveCapability e codec
    let offerSend := c.videoSendRequested && e.videoSource.isSome && localSend.valid codec
    let offerReceive := e.videoSink.isSome && localReceive.valid codec
    let capability := if answer then c.video.capability
      else if offerReceive then localReceive else localSend
    if capability.valid codec = false then []
    else
      let send := if answer then c.video.sendEnabled
        else offerSend && localSend.encoding == capability.encoding
      let receive := if answer then c.video.receiveEnabled
        else offerReceive && localReceive.encoding == capability.encoding
      if send = false ∧ receive = false ∧ answer = false then []
      else videoLines e codec localIp capability ++
        ["a=".toList ++ (videoDirection send receive).toList]

/-- `append_video_sdp_`, which a build without video leaves out. -/
def appendVideoSdp (e : SdpEndpoint) (c : SdpContext) (sdp localIp : Text) (answer : Bool) :
    Text :=
  match e.videoCodec with
  | some codec => sdp ++ sdpText (videoSection e codec c localIp answer)
  | none => sdp

/-! ## The offer -/

/-- What the lambda of `build_sdp_offer_` writes. -/
structure Offered where
  pt : Nat := 96
  lines : AudioLines := {}
  rxPayloads : RtpAudioPayloads := []
  txFormats : AudioFormatList := []
  deriving DecidableEq, Repr

/-- The transmit format that an offer must keep. -/
def retainedTx (c : SdpContext) : Option AudioFormat :=
  if c.offerTxFormats ≠ [] ∧ c.referContextActive = true then c.retainedTx else none

/-- `selected_ptime` of an offer. -/
def offerPtime (e : SdpEndpoint) (c : SdpContext) : Nat :=
  match retainedTx c with
  | some format => format.frameMs
  | none => chooseCommonAudioPtime c.offerTxFormats c.offerRxFormats e.udpMaxPayload

/-- `append_format`. -/
def appendFormat (e : SdpEndpoint) (c : SdpContext) (format : AudioFormat) (flow : String)
    (o : Offered) : Offered :=
  if 120 ≤ o.pt ∨ format.frameMs ≠ offerPtime e c ∨
      (retainedTx c).any (fun tx => !audioFormatsShareWireEncoding format tx) = true then o
  else
    match audioFormatRtpEncoding format e.udpMaxPayload with
    | none => o
    | some encoding =>
      { pt := o.pt + 1
        lines := o.lines.add o.pt encoding format c.peerDirectionalAudioV1 flow
        rxPayloads :=
          match audioFormatListMatchUdpSafe c.offerRxFormats format e.udpMaxPayload with
          | some localFormat => (RtpAudioPayloads.add o.pt localFormat o.rxPayloads).getD
              o.rxPayloads
          | none => o.rxPayloads
        txFormats :=
          match audioFormatListMatchUdpSafe c.offerTxFormats format e.udpMaxPayload with
          | some localFormat =>
            if o.txFormats.length < voipStackMaxAudioFormats then o.txFormats ++ [localFormat]
            else o.txFormats
          | none => o.txFormats }

/-- `standard_receive`: a speaker build offers other sample rates of what it transmits. -/
def standardReceive (e : SdpEndpoint) (c : SdpContext) (rx : AudioFormat) : Bool :=
  e.speaker && c.offerTxFormats.any fun tx =>
    rx.pcmFormat == .s16le && tx.pcmFormat == .s16le && rx.channels == tx.channels &&
      rx.frameMs == tx.frameMs

/-- One round of the loop over the receive formats. -/
def offerRx (e : SdpEndpoint) (c : SdpContext) (o : Offered) (rx : AudioFormat) : Offered :=
  let shared := c.offerTxFormats.any fun tx => audioFormatsShareWireEncoding tx rx
  if shared || c.offerTxFormats == [] || c.peerDirectionalAudioV1 || standardReceive e c rx then
    appendFormat e c rx (if shared then "sendrecv" else "recv") o
  else o

/-- One round of the loop over the transmit formats. -/
def offerTx (e : SdpEndpoint) (c : SdpContext) (o : Offered) (tx : AudioFormat) : Offered :=
  if c.offerRxFormats.any fun rx => audioFormatsShareWireEncoding rx tx then o
  else appendFormat e c tx "send" o

/-- The two loops of `build_sdp_offer_`. -/
def offered (e : SdpEndpoint) (c : SdpContext) : Offered :=
  let o := c.offerRxFormats.foldl (offerRx e c) {}
  if c.peerDirectionalAudioV1 || c.offerRxFormats == [] then
    c.offerTxFormats.foldl (offerTx e c) o
  else o

/-- The local offer that is remembered. -/
def rememberOffer (c : SdpContext) (o : Offered) : Negotiation :=
  { c.negotiation with
    localOfferedRxPayloads := o.rxPayloads
    localOfferedTxFormats := o.txFormats
    localOfferedDirectionalAudioV1 := c.peerDirectionalAudioV1 }

/-- `build_sdp_offer_` to a peer, with the local offer that it remembers.  No text stands for the
    failure. -/
def buildSdpOffer (e : SdpEndpoint) (c : SdpContext) (remoteIp : UInt32) : Text × Negotiation :=
  if offerPtime e c = 0 then ([], rememberOffer c {})
  else
    let o := offered e c
    if o.lines.payloads = [] ∨ c.offerTxFormats ≠ [] ∧ o.txFormats = [] then
      ([], rememberOffer c o)
    else
      let localIp := ipText (e.localIp remoteIp)
      let sdp := wrapSdpEnvelope e c localIp o.lines (offerPtime e c)
        (audioDirectionAttribute (c.offerTxFormats != []) (c.offerRxFormats != []))
      (appendVideoSdp e c sdp localIp false, rememberOffer c o)

/-! ## The answer -/

/-- `append` of `build_sdp_answer_`. -/
def appendAnswer (e : SdpEndpoint) (c : SdpContext) (pt : Nat) (format : AudioFormat)
    (flow : String) (lines : AudioLines) : Option AudioLines :=
  match audioFormatRtpEncoding format e.udpMaxPayload with
  | none => none
  | some encoding =>
    some (lines.add pt encoding format c.negotiation.remoteDirectionalAudioV1 flow)

/-- The selected receive format. -/
def answerSelected (e : SdpEndpoint) (c : SdpContext) : Option AudioLines :=
  let n := c.negotiation
  if n.selectedRx.isValid then
    appendAnswer e c n.rxPayloadType n.selectedRx
      (if n.selectedTx.isValid && n.txPayloadType == n.rxPayloadType then "sendrecv" else "recv")
      {}
  else some {}

/-- The other accepted payload types. -/
def answerAccepted (e : SdpEndpoint) (c : SdpContext) (lines : AudioLines) : Option AudioLines :=
  let n := c.negotiation
  if n.selectedRx.isValid then
    n.rxPayloads.foldlM (fun lines entry =>
      if entry.1 = n.rxPayloadType ∨ n.selectedTx.isValid = true ∧ entry.1 = n.txPayloadType then
        some lines
      else appendAnswer e c entry.1 entry.2 "recv" lines) lines
  else some lines

/-- The transmit format, where it has another payload type. -/
def answerTransmit (e : SdpEndpoint) (c : SdpContext) (lines : AudioLines) : Option AudioLines :=
  let n := c.negotiation
  if n.selectedTx.isValid &&
      (!n.selectedRx.isValid || n.txPayloadType != n.rxPayloadType) then
    appendAnswer e c n.txPayloadType n.selectedTx "send" lines
  else some lines

/-- The payload types of an answer. -/
def answerLines (e : SdpEndpoint) (c : SdpContext) : Option AudioLines :=
  (answerSelected e c).bind fun lines =>
    (answerAccepted e c lines).bind (answerTransmit e c)

/-- The section of an answer for the media line `index` of the offer. -/
def answerSection (shape : RemoteMediaShape) (audio video : Text) (index : Nat) (line : Text) :
    Text :=
  if shape.audioIndex = some index then audio
  else if shape.videoIndex = some index ∧ video ≠ [] then video
  else rejectedMediaAnswer line

/-- The loop that repeats the media lines of the offer. -/
def answerSections (shape : RemoteMediaShape) (audio video : Text) :
    Nat → List String → Option Text
  | _, [] => some []
  | index, line :: rest =>
    let part := answerSection shape audio video index line.toList
    if part = [] then none
    else (answerSections shape audio video (index + 1) rest).map (part ++ ·)

/-- `build_sdp_answer_` to a peer.  No text stands for the failure. -/
def buildSdpAnswer (e : SdpEndpoint) (c : SdpContext) (remoteIp : UInt32) : Text :=
  let n := c.negotiation
  let send := n.selectedTx.isValid
  let receive := n.selectedRx.isValid
  if send = false ∧ receive = false then []
  else
    match answerLines e c with
    | none => []
    | some lines =>
      let localIp := ipText (e.localIp remoteIp)
      let audioSdp := wrapSdpEnvelope e c localIp lines
        (if receive then n.selectedRx.frameMs else n.selectedTx.frameMs)
        (audioDirectionAttribute send receive)
      match Search.find "m=audio ".toList audioSdp with
      | none => []
      | some audioMedia =>
        let session := audioSdp.take audioMedia
        let audio := audioSdp.drop audioMedia
        let video := appendVideoSdp e c [] localIp true
        if n.mediaShape.lines = [] then audioSdp ++ video
        else if n.mediaShape.overflow then []
        else
          match answerSections n.mediaShape audio video 0 n.mediaShape.lines with
          | none => []
          | some sections => session ++ sections

end Sdp

end EsphomeVoip
