import EsphomeVoip.Sdp.Endpoint

/-! # Reading the audio of an SDP (`learn_remote_rtp_from_sdp_`)

One pass over the lines finds the audio section and its attributes, a second one matches the
payload types against the local formats, and what has matched is reduced to one format for each
direction and to the payload types that may be received. -/

namespace EsphomeVoip

namespace Sdp

/-- The flags of a direction, as seen from the peer: 1 stands for sending and 2 for receiving. -/
structure Flow where
  send : Bool
  recv : Bool
  deriving DecidableEq, Repr

namespace Flow

def both : Flow := ⟨true, true⟩

def none : Flow := ⟨false, false⟩

end Flow

/-- The direction that a line gives. -/
def directionLine (line : Text) : Option Flow :=
  if line = "a=sendonly".toList then some ⟨true, false⟩
  else if line = "a=recvonly".toList then some ⟨false, true⟩
  else if line = "a=inactive".toList then some Flow.none
  else if line = "a=sendrecv".toList then some Flow.both
  else none

/-- What the first loop finds out. -/
structure AudioScan where
  mediaPort : Nat := 0
  mediaPtime : Nat := 20
  payloadFlow : Nat → Flow := fun _ => Flow.none
  offeredPayloads : List Nat := []
  /-- The payload types of the audio line again, in its order. -/
  rankedPayloads : List Nat := []
  sessionFlow : Flow := Flow.both
  mediaFlow : Flow := Flow.both
  /-- The number of the audio line. -/
  selectedLine : Option Nat := none
  seenAnyMedia : Bool := false
  inAudio : Bool := false

/-- `payload_rank`: the place of a payload type in the audio line. -/
def AudioScan.payloadRank (s : AudioScan) (pt : Nat) : Nat :=
  if pt ∈ s.rankedPayloads then s.rankedPayloads.eraseDups.idxOf pt else 255

/-- The loop over the payload types of an audio line. -/
def rankPayloads (line : Text) : Option (List Nat) :=
  let cursor := (Search.find "RTP/AVP".toList line).getD 0 + 7
  (fields (line.drop cursor)).mapM fun p => parseDecimalU32 p 127

/-- The value of an `a=ptime` line. -/
def ptimeLine (line : Text) : Option Nat :=
  (parseDecimalU32 (line.drop 8) 255).filter fun parsed =>
    parsed == 10 || parsed == 16 || parsed == 20 || parsed == 32

/-- The payload type and the flow of an `a=x-voip-stack-flow` line. -/
def flowLine (line : Text) : Option (Nat × Flow) := do
  let (number, rest) ← cut ' ' (line.drop "a=x-voip-stack-flow:".toList.length)
  let pt ← parseDecimalU32 number 127
  let flow := trimCopy rest
  return (pt,
    ⟨decide (flow = "send".toList ∨ flow = "sendrecv".toList),
      decide (flow = "recv".toList ∨ flow = "sendrecv".toList)⟩)

/-- One round of the first loop, for the line of that number.  A payload type that is no number
    ends it. -/
def scanAudioLine (s : AudioScan) (line : Text × Nat) : Option AudioScan :=
  let (line, index) := line
  if startsWith line "m=" then
    let s := { s with seenAnyMedia := true, inAudio := false }
    if s.selectedLine.isSome then some s
    else
      match parseAudioMediaLine line with
      | none => some s
      | some (port, payloads) =>
        match rankPayloads line with
        | none => none
        | some ranked =>
          some { s with
            mediaPort := port
            offeredPayloads := payloads
            rankedPayloads := ranked
            selectedLine := some index
            mediaFlow := s.sessionFlow
            inAudio := true }
  else if s.inAudio = true ∧ startsWith line "a=ptime:" = true then
    some { s with mediaPtime := (ptimeLine line).getD s.mediaPtime }
  else if s.inAudio = true ∧ startsWith line "a=x-voip-stack-flow:" = true then
    match flowLine line with
    | none => some s
    | some (pt, flow) =>
      some { s with payloadFlow := fun q => if q = pt then flow else s.payloadFlow q }
  else if s.seenAnyMedia = false ∨ s.inAudio = true then
    match directionLine line with
    | none => some s
    | some flow =>
      some { s with
        sessionFlow := if s.seenAnyMedia then s.sessionFlow else flow
        mediaFlow := if s.inAudio then flow else s.mediaFlow }
  else some s

/-- The first loop. -/
def scanAudio (lines : List Text) : Option AudioScan :=
  lines.zipIdx.foldlM scanAudioLine {}

/-! ## The second loop -/

/-- A selected transmit format. -/
structure SelectedTx where
  format : AudioFormat
  payloadType : Nat
  rank : Nat
  deriving DecidableEq, Repr

/-- What the second loop selects. -/
structure AudioChoice where
  mediaIp : UInt32
  seenMedia : Bool := false
  inAudio : Bool := false
  seenMapping : Nat → Nat := fun _ => 0
  received : RtpAudioPayloads := []
  selectedTx : Option SelectedTx := none
  selectedRx : Option (AudioFormat × Nat) := none
  sharedFormat : Bool := false

/-- What both loops read of the endpoint and the dialog. -/
structure AudioTerms where
  e : SdpEndpoint
  c : SdpContext
  /-- `remote_directional_audio_v1_`. -/
  directional : Bool
  /-- `remote_is_answer`. -/
  isAnswer : Bool

/-- How a payload type of the peer matches the local formats. -/
structure PayloadMatch where
  localTx : Option AudioFormat
  localRx : Option AudioFormat
  receivePt : Nat
  deriving DecidableEq, Repr

/-- Match a format of the peer, whose payload type has that flow.  What an answer names must have
    been offered. -/
def matchPayload (a : AudioTerms) (flow : Flow) (pt : Nat) (format : AudioFormat) :
    PayloadMatch :=
  let localTx := if flow.recv
    then audioFormatListMatchUdpSafe a.c.offerTxFormats format a.e.udpMaxPayload else none
  let localRx := if flow.send
    then audioFormatListMatchUdpSafe a.c.offerRxFormats format a.e.udpMaxPayload else none
  if a.isAnswer then
    let n := a.c.negotiation
    let entry := n.localOfferedRxPayloads.find? fun entry =>
      audioFormatsShareWireEncoding entry.2 format
    { localTx := if (audioFormatListMatchUdpSafe n.localOfferedTxFormats format
          a.e.udpMaxPayload).isSome then localTx else none
      localRx := if entry.isSome then localRx else none
      receivePt := (entry.map (·.1)).getD pt }
  else { localTx, localRx, receivePt := pt }

/-- `alternate_pcm`, of the local receive format.  One that does not match has the default
    format. -/
def alternatePcm (e : SdpEndpoint) (localRx : Option AudioFormat) : Bool :=
  e.speaker && (localRx.getD {}).codec == .pcm && (localRx.getD {}).pcmFormat == .s16le

/-- `unidirectional`. -/
def unidirectional (c : SdpContext) : Bool := c.offerTxFormats == [] || c.offerRxFormats == []

/-- Whether a format is selected for receiving, before or instead of the one that is. -/
def prefersRx (a : AudioTerms) (localRx : AudioFormat) : Option (AudioFormat × Nat) → Bool
  | none => true
  | some (selected, _) =>
    !a.directional && alternatePcm a.e (some localRx) && localRx.codec == .pcm &&
      localRx.pcmFormat == .s16le && selected.pcmFormat == .s16le &&
      localRx.channels == selected.channels && selected.sampleRate < localRx.sampleRate

/-- What a payload type with a format does to the selection. -/
def choosePayload (a : AudioTerms) (scan : AudioScan) (pt : Nat) (m : PayloadMatch)
    (s : AudioChoice) : Option AudioChoice :=
  let txOk := m.localTx.isSome
  let rxOk := m.localRx.isSome
  let free := unidirectional a.c || a.directional || scan.mediaFlow != Flow.both
  let eligible := free || (txOk && rxOk) || alternatePcm a.e m.localRx
  let s := { s with sharedFormat := s.sharedFormat || (txOk && rxOk) }
  let received :=
    match m.localRx with
    | some localRx => if eligible then RtpAudioPayloads.add m.receivePt localRx s.received
      else some s.received
    | none => some s.received
  match received with
  | none => none
  | some received =>
    some { s with
      received
      selectedRx :=
        match m.localRx with
        | some localRx =>
          if eligible && prefersRx a localRx s.selectedRx then some (localRx, m.receivePt)
          else s.selectedRx
        | none => s.selectedRx
      selectedTx :=
        match m.localTx with
        | some localTx =>
          if eligible && (free || rxOk) &&
              (s.selectedTx.elim true fun tx => scan.payloadRank pt < tx.rank) then
            some ⟨localTx, pt, scan.payloadRank pt⟩
          else s.selectedTx
        | none => s.selectedTx }

/-- An `a=rtpmap` line of the audio section. -/
def chooseRtpmap (a : AudioTerms) (scan : AudioScan) (line : Text) (s : AudioChoice) :
    Option AudioChoice :=
  match parseRtpmapFormat line with
  | none => some s
  | some (format, pt) =>
    if pt ∈ scan.offeredPayloads then
      let format := { format with frameMs := scan.mediaPtime }
      let packed := packAudioFormat format
      if s.seenMapping pt ≠ 0 ∧ s.seenMapping pt ≠ packed then none
      else
        let s := { s with seenMapping := fun q => if q = pt then packed else s.seenMapping q }
        let flow := if !a.directional || scan.payloadFlow pt == Flow.none then scan.mediaFlow
          else scan.payloadFlow pt
        choosePayload a scan pt (matchPayload a flow pt format) s
    else some s

/-- One round of the second loop. -/
def chooseLine (a : AudioTerms) (scan : AudioScan) (s : AudioChoice) (line : Text × Nat) :
    Option AudioChoice :=
  let (line, index) := line
  if startsWith line "m=" then
    some { s with seenMedia := true, inAudio := scan.selectedLine == some index }
  else if startsWith line "c=IN IP4 " = true ∧ (s.seenMedia = false ∨ s.inAudio = true) then
    let ip := a.e.parseIp (line.drop 9)
    some { s with mediaIp := if ip ≠ 0 then ip else s.mediaIp }
  else if s.inAudio = true ∧ startsWith line "a=rtpmap:" = true then chooseRtpmap a scan line s
  else some s

/-- The second loop. -/
def chooseAudio (a : AudioTerms) (scan : AudioScan) (lines : List Text) (defaultIp : UInt32) :
    Option AudioChoice :=
  lines.zipIdx.foldlM (chooseLine a scan) { mediaIp := defaultIp }

/-! ## The result -/

/-- Whether the selection is refused. -/
def refusesChoice (a : AudioTerms) (scan : AudioScan) (s : AudioChoice) : Bool :=
  let wantTx := a.c.offerTxFormats != [] && scan.mediaFlow.recv
  let wantRx := a.c.offerRxFormats != [] && scan.mediaFlow.send
  scan.mediaPort == 0 || s.mediaIp == 0 || (!wantTx && !wantRx) ||
    (wantTx && s.selectedTx.isNone) || (wantRx && s.selectedRx.isNone) ||
    (wantTx && wantRx && !a.directional && scan.mediaFlow == Flow.both && !s.sharedFormat)

/-- The first payload type whose format is what is transmitted. -/
def sharedRx (tx : AudioFormat) (rx : AudioFormat × Nat) (received : RtpAudioPayloads) :
    AudioFormat × Nat :=
  match received.find? fun entry => audioFormatsShareWireEncoding entry.2 tx with
  | some entry => (entry.2, entry.1)
  | none => rx

/-- A higher sample rate that the selected one can be converted to. -/
def raiseRx (rx : AudioFormat × Nat) (entry : Nat × AudioFormat) : AudioFormat × Nat :=
  if rx.1.sampleRate < entry.2.sampleRate ∧ pcmReceiveConversionSupported rx.1 entry.2 = true then
    (entry.2, entry.1)
  else rx

/-- The part that a speaker build without Opus adds: start from the shared format, then take the
    highest rate. -/
def settleRx (a : AudioTerms) (scan : AudioScan) (tx : Option AudioFormat)
    (rx : Option (AudioFormat × Nat)) (received : RtpAudioPayloads) :
    Option (AudioFormat × Nat) :=
  match tx, rx with
  | some tx, some rx =>
    if a.e.speaker = true ∧ a.e.opus = false ∧ a.directional = false ∧
        scan.mediaFlow = Flow.both then
      some (received.foldl raiseRx (sharedRx tx rx received))
    else some rx
  | _, rx => rx

/-- Whether what arrives in a format can be played while another one is selected. -/
def usableRx (a : AudioTerms) (selected format : AudioFormat) : Bool :=
  format == selected ||
    (a.e.speaker && !a.directional && pcmReceiveConversionSupported format selected) ||
    (a.e.opus && !a.directional && sameDecodedAudioGeometry format selected)

/-- `accepted_rx`. -/
def acceptedRx (a : AudioTerms) (selected : AudioFormat) (received : RtpAudioPayloads) :
    Option RtpAudioPayloads :=
  received.foldlM (fun accepted entry =>
    if usableRx a selected entry.2 then RtpAudioPayloads.add entry.1 entry.2 accepted
    else some accepted) []

/-- What is agreed on audio. -/
structure AudioAgreement where
  tx : Option (AudioFormat × Nat)
  rx : Option (AudioFormat × Nat)
  accepted : RtpAudioPayloads
  ip : UInt32
  port : Nat
  deriving DecidableEq, Repr

/-- What the two loops and the part behind them come to. -/
def agreeAudio (a : AudioTerms) (lines : List Text) (defaultIp : UInt32) :
    Option AudioAgreement := do
  let scan ← scanAudio lines
  let s ← chooseAudio a scan lines defaultIp
  if refusesChoice a scan s = true then none
  else
    let tx := s.selectedTx.map fun tx => (tx.format, tx.payloadType)
    let rx := settleRx a scan (tx.map (·.1)) s.selectedRx s.received
    if tx.any (fun tx => rx.any fun rx => tx.1.frameMs != rx.1.frameMs) = true then none
    else
      let accepted ← acceptedRx a ((rx.map (·.1)).getD disabledAudioFormat) s.received
      return { tx, rx, accepted, ip := s.mediaIp, port := scan.mediaPort }

/-- `set_media_config_` and the address of the media. -/
def AudioAgreement.apply (g : AudioAgreement) (n : Negotiation) : Negotiation :=
  { n with
    selectedTx := (g.tx.map (·.1)).getD disabledAudioFormat
    selectedRx := (g.rx.map (·.1)).getD disabledAudioFormat
    txPayloadType := (g.tx.map (·.2)).getD 0
    rxPayloadType := (g.rx.map (·.2)).getD 0
    rxPayloads := g.accepted
    remoteRtpIp := g.ip
    remoteRtpPort := .ofNat g.port }

/-- Whether the SDP has the attribute of the directional extension. -/
def hasFlow (sdp : Text) : Bool := (Search.find "a=x-voip-stack-flow:".toList sdp).isSome

/-- What is written down before the first loop: the extension and the media lines. -/
def openSdp (e : SdpEndpoint) (c : SdpContext) (sdp : Text) (isAnswer : Bool) : SdpContext :=
  { c with negotiation := { c.negotiation with
    remoteDirectionalAudioV1 :=
      hasFlow sdp && (!isAnswer || c.negotiation.localOfferedDirectionalAudioV1)
    mediaShape := captureRemoteMediaShape e.videoCodec.isSome sdp } }

/-- The audio part of `learn_remote_rtp_from_sdp_`. -/
def learnAudio (e : SdpEndpoint) (c : SdpContext) (sdp : Text) (defaultIp : UInt32)
    (isAnswer : Bool) : Bool × Negotiation :=
  let c := openSdp e c sdp isAnswer
  if c.negotiation.mediaShape.overflow then (false, c.negotiation)
  else
    match agreeAudio ⟨e, c, c.negotiation.remoteDirectionalAudioV1, isAnswer⟩ (sdpLines sdp)
        defaultIp with
    | none => (false, c.negotiation)
    | some g => (true, g.apply c.negotiation)

end Sdp

end EsphomeVoip
