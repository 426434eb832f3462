import EsphomeVoip.Sdp.Audio

/-! # Reading the video of an SDP (`learn_remote_video_from_sdp_`)

A pass over the lines collects the first video section, and the payload types of it are tried in
its order against the local source and sink.  Nothing is written down before one of them fits, but
that video was offered and with which payload type. -/

namespace EsphomeVoip

namespace Sdp

/-! ## H.264 profiles (`video_rtp.cpp`) -/

/-- `hex_nibble`. -/
def hexNibble (c : Char) : Option Nat :=
  if '0' ≤ c ∧ c ≤ '9' then some (c.toNat - '0'.toNat)
  else if 'a' ≤ c ∧ c ≤ 'f' then some (c.toNat - 'a'.toNat + 10)
  else if 'A' ≤ c ∧ c ≤ 'F' then some (c.toNat - 'A'.toNat + 10)
  else none

/-- Two hexadecimal digits. -/
def hexByte (high low : Char) : Option Nat := do
  let high ← hexNibble high
  let low ← hexNibble low
  return high * 16 + low

/-- `parse_profile_level_id`: the profile, the constraint flags and the level. -/
def parseProfileLevelId : Text → Option (Nat × Nat × Nat)
  | [a, b, c, d, e, f] => do
    let profile ← hexByte a b
    let iop ← hexByte c d
    let level ← hexByte e f
    return (profile, iop, level)
  | _ => none

/-- `h264_level_value`. -/
def h264LevelValue (profile iop level : Nat) : Nat :=
  let baseline := profile = 0x42 ∨ profile = 0x4D ∨ profile = 0x58
  if baseline ∧ level = 11 ∧ iop &&& 0x10 ≠ 0 ∨ ¬baseline ∧ level = 9 then 105 else level * 10

/-- `h264_same_subprofile`. -/
def h264SameSubprofile (left right : Text) : Bool :=
  match parseProfileLevelId left, parseProfileLevelId right with
  | some (leftProfile, leftIop, _), some (rightProfile, rightIop, _) =>
    leftProfile == 0x42 && rightProfile == 0x42 &&
      (leftIop &&& 0x40 != 0) == (rightIop &&& 0x40 != 0)
  | _, _ => false

/-- `h264_level_fits`. -/
def h264LevelFits (source receiver : Text) : Bool :=
  h264SameSubprofile source receiver &&
    match parseProfileLevelId source, parseProfileLevelId receiver with
    | some (profile, iop, level), some (profile', iop', level') =>
      h264LevelValue profile iop level ≤ h264LevelValue profile' iop' level'
    | _, _ => false

/-! ## Lines (`sip_message.cpp`) -/

/-- `parse_video_rtpmap`: the payload type and the encoding in capitals. -/
def parseVideoRtpmap (line : Text) : Option (Nat × Text) := do
  let (number, rest) ← cut ' ' (line.drop "a=rtpmap:".toList.length)
  let pt ← parseDecimalU32 number 127
  return (pt, (trimCopy rest).map Char.toUpper)

/-- What `parse_video_rtcp_feedback` reads: the payload type, none of them for all, and whether it
    is picture loss (or else a full intra request). -/
def parseVideoRtcpFeedback (line : Text) : Option (Option Nat × Bool) := do
  let (selector, rest) ← cut ' ' (line.drop "a=rtcp-fb:".toList.length)
  let selector := trimCopy selector
  let pt ← if selector = "*".toList then some none else (parseDecimalU32 selector 127).map some
  let feedback := (trimCopy rest).map Char.toLower
  if feedback = "nack pli".toList then some (pt, true)
  else if feedback = "ccm fir".toList then some (pt, false)
  else none

/-- `parse_rtcp_attribute`: the port, and the address where one is given. -/
def parseRtcpAttribute (e : SdpEndpoint) (line : Text) : Option (Nat × Option UInt32) :=
  let value := trimCopy (line.drop "a=rtcp:".toList.length)
  let number := value.takeWhile fun c => !isSpace c
  let address := (value.dropWhile fun c => !isSpace c).dropWhile isSpace
  match parseDecimalU32 number 65535 with
  | none | some 0 => none
  | some port =>
    if address = [] then some (port, none)
    else if startsWith address "IN IP4 " = false then none
    else
      let ip := e.parseIp (address.drop "IN IP4 ".toList.length)
      if ip = 0 then none else some (port, some ip)

/-- The parameters of an `a=fmtp` line.  An empty one has no name and is left out. -/
def fmtpItems (params : Text) : List Text := Search.fields (· == ';') params

/-- `fmtp_parameter`: the payload type, and the value of the first parameter of that name. -/
def fmtpParameter (line : Text) (name : String) : Option (Nat × Text) := do
  let (number, params) ← cut ' ' (line.drop "a=fmtp:".toList.length)
  let pt ← parseDecimalU32 number 127
  let value ← (fmtpItems params).findSome? fun item => do
    let (key, value) ← cut '=' (trimCopy item)
    if (trimCopy key).map Char.toLower = name.toList then some (trimCopy value) else none
  return (pt, value)

/-- The direction that a line of a video SDP begins with. -/
def directionPrefix (line : Text) : Option Flow :=
  if startsWith line "a=sendonly" then some ⟨true, false⟩
  else if startsWith line "a=recvonly" then some ⟨false, true⟩
  else if startsWith line "a=inactive" then some Flow.none
  else if startsWith line "a=sendrecv" then some Flow.both
  else none

/-! ## The lines of the video section -/

/-- What the section says about a payload type. -/
structure VideoPayload where
  rtpmapSeen : Bool := false
  h264 : Bool := false
  jpeg : Bool := false
  profile : Option Text := none
  packetizationMode : Bool := false
  levelAsymmetryAllowed : Bool := false
  rtcpFeedbackPli : Bool := false
  rtcpFeedbackFir : Bool := false
  deriving DecidableEq, Repr

/-- What the loop collects. -/
structure VideoScan where
  offered : Bool := false
  payloads : List Nat := []
  attributes : Nat → VideoPayload := fun _ => {}
  maxFps : Nat := 0
  maxBitrateBps : Nat := 0
  port : Nat := 0
  ip : UInt32
  sessionIp : UInt32
  rtcpPort : Nat := 0
  rtcpIp : UInt32
  rtcpAddressExplicit : Bool := false
  rtcpAttributeInvalid : Bool := false
  rtcpMuxOnly : Bool := false
  direction : Flow := Flow.both
  sessionDirection : Flow := Flow.both
  seenMedia : Bool := false
  inVideo : Bool := false

namespace VideoScan

/-- Change what is known about a payload type of the section. -/
def update (pt : Nat) (f : VideoPayload → VideoPayload) (s : VideoScan) : VideoScan :=
  if pt ∈ s.payloads then
    { s with attributes := fun q => if q = pt then f (s.attributes q) else s.attributes q }
  else s

/-- A media line.  The first video line that can be read is the one that counts. -/
def media (line : Text) (s : VideoScan) : VideoScan :=
  let s := { s with seenMedia := true, inVideo := false }
  if s.offered then s
  else
    match parseVideoMediaLine line with
    | none => s
    | some (port, payloads) =>
      { s with
        offered := true
        port := port
        payloads := payloads
        ip := s.sessionIp
        rtcpIp := s.sessionIp
        rtcpPort := if port = 65535 then 0 else port + 1
        rtcpAddressExplicit := false
        direction := s.sessionDirection
        inVideo := true }

/-- A `c=` line of the session or of the section. -/
def address (ip : UInt32) (s : VideoScan) : VideoScan :=
  if ip = 0 then s
  else if s.seenMedia = false then { s with sessionIp := ip, ip := ip, rtcpIp := ip }
  else { s with ip := ip, rtcpIp := if s.rtcpAddressExplicit then s.rtcpIp else ip }

/-- An `a=rtcp` line. -/
def rtcp (e : SdpEndpoint) (line : Text) (s : VideoScan) : VideoScan :=
  match parseRtcpAttribute e line with
  | some (port, address) =>
    { s with
      rtcpPort := port
      rtcpIp := address.getD s.ip
      rtcpAddressExplicit := address.isSome }
  | none => { s with rtcpAttributeInvalid := true }

/-- An `a=rtpmap` line. -/
def rtpmap (codec : VideoCodec) (line : Text) (s : VideoScan) : VideoScan :=
  match parseVideoRtpmap line with
  | some (pt, encoding) =>
    s.update pt fun p =>
      { p with
        rtpmapSeen := true
        h264 := if codec = .h264 then decide (encoding = "H264/90000".toList) else p.h264
        jpeg := if codec = .jpeg then decide (encoding = "JPEG/90000".toList) else p.jpeg }
  | none => s

/-- A parameter of an `a=fmtp` line. -/
def parameter (line : Text) (name : String) (f : Text → VideoPayload → VideoPayload)
    (s : VideoScan) : VideoScan :=
  match fmtpParameter line name with
  | some (pt, value) => s.update pt (f value)
  | none => s

/-- An `a=fmtp` line. -/
def fmtp (line : Text) (s : VideoScan) : VideoScan :=
  let s := s.parameter line "profile-level-id" fun value p =>
    if value.length = 6 then { p with profile := some value } else p
  let s := s.parameter line "packetization-mode" fun value p =>
    if value = "1".toList then { p with packetizationMode := true } else p
  s.parameter line "level-asymmetry-allowed" fun value p =>
    if value = "1".toList then { p with levelAsymmetryAllowed := true } else p

/-- An `a=rtcp-fb` line. -/
def rtcpFeedback (line : Text) (s : VideoScan) : VideoScan :=
  match parseVideoRtcpFeedback line with
  | some (pt, pli) =>
    s.payloads.foldl (fun s q =>
      if pt.elim true (q == ·) then
        s.update q fun p =>
          if pli then { p with rtcpFeedbackPli := true } else { p with rtcpFeedbackFir := true }
      else s) s
  | none => s

/-- A positive number behind the first characters of a line. -/
def positive (line : Text) (start : Nat) (maxValue : Nat) : Option Nat :=
  (parseDecimalU32 (trimCopy (line.drop start)) maxValue).filter fun n => 0 < n

/-- One round of the loop. -/
def line (e : SdpEndpoint) (codec : VideoCodec) (s : VideoScan) (line : Text) : VideoScan :=
  if startsWith line "m=" then s.media line
  else if s.seenMedia = false ∧ startsWith line "c=IN IP4 " = true then
    s.address (e.parseIp (line.drop 9))
  else if (directionPrefix line).isSome = true ∧ (s.seenMedia = false ∨ s.inVideo = true) then
    let flow := (directionPrefix line).getD Flow.both
    { s with
      sessionDirection := if s.seenMedia then s.sessionDirection else flow
      direction := if s.inVideo then flow else s.direction }
  else if s.inVideo = false then s
  else if startsWith line "c=IN IP4 " then s.address (e.parseIp (line.drop 9))
  else if startsWith line "a=rtcp:" then s.rtcp e line
  else if line = "a=rtcp-mux-only".toList then { s with rtcpMuxOnly := true }
  else if startsWith line "a=rtpmap:" then s.rtpmap codec line
  else if codec = .h264 ∧ startsWith line "a=fmtp:" = true then s.fmtp line
  else if codec = .h264 ∧ startsWith line "a=rtcp-fb:" = true then s.rtcpFeedback line
  else if startsWith line "b=TIAS:" then
    { s with maxBitrateBps := (positive line 7 4294967295).getD s.maxBitrateBps }
  else if startsWith line "a=framerate:" then
    { s with maxFps := (positive line 12 255).getD s.maxFps }
  else s

end VideoScan

/-- The loop. -/
def scanVideo (e : SdpEndpoint) (codec : VideoCodec) (lines : List Text) (defaultIp : UInt32) :
    VideoScan :=
  lines.foldl (VideoScan.line e codec)
    { ip := defaultIp, sessionIp := defaultIp, rtcpIp := defaultIp }

/-! ## The payload types -/

/-- What a round of the loop over the payload types reads. -/
structure VideoTerms where
  e : SdpEndpoint
  codec : VideoCodec
  /-- `video_send_requested_`. -/
  sendRequested : Bool
  scan : VideoScan

namespace VideoTerms

/-- `local_send`. -/
def localSend (v : VideoTerms) : VideoCapability := localVideoSendCapability v.e v.codec

/-- `local_receive`. -/
def localReceive (v : VideoTerms) : VideoCapability := localVideoReceiveCapability v.e v.codec

/-- What the section says, where PT 26 is JPEG if no `rtpmap` gives it away. -/
def attributes (v : VideoTerms) (pt : Nat) : VideoPayload :=
  let p := v.scan.attributes pt
  if v.codec = .jpeg ∧ pt = 26 ∧ p.rtpmapSeen = false then { p with jpeg := true } else p

/-- Whether a payload type is video of the codec of this build. -/
def isVideo (v : VideoTerms) (pt : Nat) : Bool :=
  let p := v.attributes pt
  match v.codec with
  | .jpeg => p.jpeg && pt == 26
  | .h264 => p.h264 && p.packetizationMode && p.profile.isSome

/-- `peer_profile`. -/
def peerProfile (v : VideoTerms) (pt : Nat) : Text := ((v.attributes pt).profile).getD []

/-- `bilateral_asymmetry`. -/
def bilateralAsymmetry (v : VideoTerms) (pt : Nat) : Bool :=
  v.codec == .h264 && (v.attributes pt).levelAsymmetryAllowed &&
    (!v.scan.direction.send || v.localReceive.levelAsymmetryAllowed) &&
    (!v.scan.direction.recv || v.localSend.levelAsymmetryAllowed)

/-- `send_compatible`. -/
def sendCompatible (v : VideoTerms) (pt : Nat) : Bool :=
  v.e.videoSource.isSome && v.localSend.valid v.codec &&
    match v.codec with
    | .jpeg => v.localSend.isJpeg
    | .h264 => v.localSend.isH264 &&
        h264LevelFits v.localSend.profileLevelId.toList (v.peerProfile pt)

/-- `receive_compatible`. -/
def receiveCompatible (v : VideoTerms) (pt : Nat) : Bool :=
  v.e.videoSink.isSome && v.localReceive.valid v.codec &&
    match v.codec with
    | .jpeg => v.localReceive.isJpeg
    | .h264 => v.localReceive.isH264 &&
        h264SameSubprofile v.localReceive.profileLevelId.toList (v.peerProfile pt)

/-- `local_receives`. -/
def localReceives (v : VideoTerms) (pt : Nat) : Bool :=
  v.scan.direction.send && v.receiveCompatible pt

/-- `local_sends`. -/
def localSends (v : VideoTerms) (pt : Nat) : Bool :=
  v.sendRequested && v.scan.direction.recv && v.sendCompatible pt &&
    !(v.codec == .h264 && !v.bilateralAsymmetry pt && v.localReceives pt &&
      !h264LevelFits v.localSend.profileLevelId.toList v.localReceive.profileLevelId.toList)

/-- Whether a payload type is taken. -/
def takes (v : VideoTerms) (pt : Nat) : Bool :=
  v.isVideo pt &&
    (v.localSends pt || v.localReceives pt ||
      (v.scan.direction == Flow.none && (v.sendCompatible pt || v.receiveCompatible pt)))

/-- The smaller one of two limits, where zero is none. -/
def limit (own other : Nat) : Nat := if other ≠ 0 ∧ (own = 0 ∨ other < own) then other else own

/-- The local capability that `negotiated` starts from. -/
def own (v : VideoTerms) (pt : Nat) : VideoCapability :=
  if v.receiveCompatible pt then v.localReceive else v.localSend

/-- The limits of both directions, where both are possible. -/
def shared (v : VideoTerms) (pt : Nat) : VideoCapability :=
  if v.sendCompatible pt && v.receiveCompatible pt then
    { v.own pt with
      maxFps := min v.localSend.maxFps v.localReceive.maxFps
      maxBitrateBps := limit (v.own pt).maxBitrateBps v.localSend.maxBitrateBps }
  else v.own pt

/-- `negotiated`. -/
def negotiated (v : VideoTerms) (pt : Nat) : VideoCapability :=
  let own := v.shared pt
  let p := v.attributes pt
  { own with
    maxFps := if 0 < v.scan.maxFps then min own.maxFps v.scan.maxFps else own.maxFps
    payloadType := pt
    levelAsymmetryAllowed := v.bilateralAsymmetry pt
    rtcpFeedbackPli := v.codec == .h264 && p.rtcpFeedbackPli
    rtcpFeedbackFir := v.codec == .h264 && p.rtcpFeedbackFir
    maxBitrateBps := limit own.maxBitrateBps v.scan.maxBitrateBps
    profileLevelId :=
      if v.codec = .h264 ∧ v.bilateralAsymmetry pt = false ∧
          h264LevelFits (v.peerProfile pt) own.profileLevelId.toList = true then
        String.ofList (own.profileLevelId.toList.take 4 ++ ((v.peerProfile pt).drop 4).take 2)
      else own.profileLevelId }

/-- Whether the section is refused as a whole. -/
def refused (v : VideoTerms) : Bool :=
  v.scan.rtcpMuxOnly || v.scan.rtcpAttributeInvalid || v.scan.rtcpPort == 0 || v.scan.rtcpIp == 0

/-- The payload type that is taken, of an offer or of the answer to one. -/
def taken (v : VideoTerms) (isAnswer : Bool) : Option Nat :=
  v.scan.payloads.find? fun pt =>
    (!isAnswer || pt == v.e.videoOfferPayloadType) && v.takes pt

/-- What is agreed with that payload type. -/
def agreement (v : VideoTerms) (pt : Nat) : VideoNegotiation where
  offered := true
  negotiated := true
  sendEnabled := v.localSends pt
  receiveEnabled := v.localReceives pt
  remoteIp := v.scan.ip
  remoteRtpPort := .ofNat v.scan.port
  remoteRtcpIp := v.scan.rtcpIp
  remoteRtcpPort := .ofNat v.scan.rtcpPort
  capability := v.negotiated pt

/-- What is known of a section that is not taken: the first payload type goes into the answer. -/
def unagreed (v : VideoTerms) : VideoNegotiation where
  offered := v.scan.offered
  capability := { payloadType := v.scan.payloads.headD 0 }

end VideoTerms

/-- `learn_remote_video_from_sdp_`, and whether it refuses the section. -/
def learnVideo (e : SdpEndpoint) (codec : VideoCodec) (sendRequested : Bool) (lines : List Text)
    (defaultIp : UInt32) (isAnswer : Bool) : Bool × VideoNegotiation :=
  let v : VideoTerms := ⟨e, codec, sendRequested, scanVideo e codec lines defaultIp⟩
  if v.scan.offered = false ∨ v.scan.port = 0 then (true, v.unagreed)
  else if v.refused then (false, v.unagreed)
  else
    match v.taken isAnswer with
    | some pt => (true, v.agreement pt)
    | none => (false, v.unagreed)

end Sdp

end EsphomeVoip
