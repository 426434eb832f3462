import EsphomeVoip.Rtp.AudioPayload
import EsphomeVoip.Transport.Step
import EsphomeVoip.Video.RtpPacket

/-! # Receiving audio (`sip_transport.cpp`)

The receive loop checks a packet byte by byte before it lets it move the latch, the source that the
session listens to and the port that it sends to. -/

namespace EsphomeVoip

/-! ## The bytes of a packet -/

/-- A datagram as `recvfrom` gives it. -/
structure AudioDatagram where
  src : Peer
  bytes : ByteSpan
  deriving Repr

/-- What fits into `buf`. -/
def AudioDatagram.buf (d : AudioDatagram) : ByteSpan := d.bytes.take 1600

/-- An audio packet that has passed the checks. -/
structure AudioPacket where
  ssrc : UInt32
  rxFormat : AudioFormat
  /-- What is between the header and the padding. -/
  payload : ByteSpan
  audio : ByteSpan
  deriving Repr

/-- The size of the header with its contributing sources and its extension. -/
def audioHeader (buf : ByteSpan) : Option Nat :=
  let header := 12 + (byteAt buf 0 &&& 0x0F).toNat * 4
  if buf.length ≤ header then none
  else if byteAt buf 0 &&& 0x10 = 0 then some header
  else if buf.length < header + 4 then none
  else
    let header := header + 4 + (readBe16 buf (header + 2)).toNat * 4
    if buf.length ≤ header then none else some header

/-- The payload behind a header, without the padding. -/
def audioPayload (buf : ByteSpan) (header : Nat) : Option ByteSpan :=
  let payloadLen := buf.length - header
  if byteAt buf 0 &&& 0x20 ≠ 0 ∧ 0 < payloadLen then
    let pad := (byteAt buf (buf.length - 1)).toNat
    if pad = 0 ∨ payloadLen < pad then none
    else some ((buf.drop header).take (payloadLen - pad))
  else some (buf.drop header)

/-- The payload of a packet: the checks of the loop that look at the bytes alone. -/
def strippedPayload (buf : ByteSpan) : Option ByteSpan :=
  if buf.length ≤ 12 ∨ byteAt buf 0 &&& 0xC0 ≠ 0x80 then none
  else (audioHeader buf).bind (audioPayload buf)

/-- The audio of a payload, and `none` where the loop goes on with the next packet. -/
def decodeAudio (rxFormat : AudioFormat) (payload : ByteSpan) : Option ByteSpan :=
  if rxFormat.codec = .pcm then
    let pcm := rtpPayloadToPcm payload rxFormat 2048
    if pcm = [] ∨ pcm.length ≠ rxFormat.nominalFrameBytes then none else some pcm
  else some payload

/-- The audio packet in a datagram. -/
def readAudio (payloads : RtpAudioPayloads) (buf : ByteSpan) : Option AudioPacket :=
  (strippedPayload buf).bind fun payload =>
  (RtpAudioPayloads.format? payloads (rtpPayloadType buf).toNat).bind fun rxFormat =>
  (decodeAudio rxFormat payload).map fun audio =>
    { ssrc := rtpSsrc buf, rxFormat, payload, audio }

namespace Transport

/-! ## The receive loop -/

/-- The loop looks at packets of this address: `epochDecoded` is `media_proposal_epoch_` when it is
    read again behind the decoder. -/
def listensTo (epochDecoded : UInt32) (src : Peer) (t : Transport) : Bool :=
  t.rtpRunning && t.mediaActive && t.mediaProposalEpoch % 2 == 0 &&
    (t.negotiation.remoteRtpIp == 0 || src.ip == t.negotiation.remoteRtpIp) &&
    epochDecoded == t.mediaProposalEpoch

/-- The packet of a datagram that has passed the checks in front of the latch. -/
def heardAudio (epochDecoded : UInt32) (d : AudioDatagram) (t : Transport) : Option AudioPacket :=
  if t.listensTo epochDecoded d.src then readAudio t.negotiation.rxPayloads d.buf else none

/-- The latch for a packet of this source: `none` where the packet is not taken. -/
def latchSource (src : Peer) (ssrc : UInt32) (t : Transport) : Option Transport :=
  let followed : Transport := { t with
    rtpLatch := some { ip := src.ip, port := src.port, ssrc }
    negotiation := { t.negotiation with remoteRtpPort := src.port } }
  match t.rtpLatch with
  | none => some followed
  | some l =>
    if l.ip ≠ src.ip then none
    else if l.ssrc ≠ ssrc then
      if l.port ≠ src.port then none else some { t with rtpLatch := some { l with ssrc } }
    else if l.port ≠ src.port then some followed
    else some t

/-- A turn of the receive loop: what it hands on, and the transport behind it. -/
def receiveDatagram (epochDecoded : UInt32) (d : AudioDatagram) (t : Transport) :
    Option AudioPacket × Transport :=
  match t.heardAudio epochDecoded d with
  | none => (none, t)
  | some packet =>
    match t.latchSource d.src packet.ssrc with
    | none => (none, t)
    | some t => (some packet, { t with rtpRxPackets := t.rtpRxPackets + 1 })

/-- What the step of the transport reads of a datagram. -/
def rtpPacketOf (d : AudioDatagram) (t : Transport) : RtpPacket where
  payloadType := (rtpPayloadType d.buf).toNat
  ssrc := rtpSsrc d.buf
  wellFormed := (readAudio t.negotiation.rxPayloads d.buf).isSome

theorem ssrc_of_readAudio {payloads : RtpAudioPayloads} {buf : ByteSpan} {packet : AudioPacket}
    (h : readAudio payloads buf = some packet) :
    packet.ssrc = rtpSsrc buf ∧ strippedPayload buf = some packet.payload ∧
      RtpAudioPayloads.format? payloads (rtpPayloadType buf).toNat = some packet.rxFormat ∧
      decodeAudio packet.rxFormat packet.payload = some packet.audio := by
  obtain ⟨payload, hpayload, h⟩ := Option.bind_eq_some_iff.mp h
  obtain ⟨rxFormat, hformat, h⟩ := Option.bind_eq_some_iff.mp h
  obtain ⟨audio, haudio, rfl⟩ := Option.map_eq_some_iff.mp h
  exact ⟨rfl, hpayload, hformat, haudio⟩

/-- The receive loop is the step of the transport, on what it reads of the bytes. -/
theorem receiveDatagram_eq (d : AudioDatagram) (t : Transport) :
    (t.receiveDatagram t.mediaProposalEpoch d).2 = t.receiveRtp (t.rtpPacketOf d) d.src := by
  have hhears : t.hearsRtp (t.rtpPacketOf d) d.src =
      (t.heardAudio t.mediaProposalEpoch d).isSome := by
    rw [hearsRtp, heardAudio, listensTo, rtpPacketOf, beq_self_eq_true, Bool.and_true]
    cases hread : readAudio t.negotiation.rxPayloads d.buf with
    | none => simp
    | some packet =>
      -- a packet that is read has a payload type of the session
      have hany : (t.negotiation.rxPayloads.any fun p =>
          p.1 == (rtpPayloadType d.buf).toNat) = true := by
        obtain ⟨entry, hfind, _⟩ := Option.map_eq_some_iff.mp (ssrc_of_readAudio hread).2.2.1
        exact List.any_eq_true.mpr ⟨entry, List.mem_of_find?_eq_some hfind,
          by simpa using List.find?_some hfind⟩
      rw [hany, Option.isSome_some, Bool.and_true, Bool.and_true]
      split
      · rename_i h
        rw [h, Option.isSome_some]
      · rename_i h
        rw [Bool.not_eq_true] at h
        rw [h, Option.isSome_none]
  rw [receiveDatagram, receiveRtp, hhears]
  cases hheard : t.heardAudio t.mediaProposalEpoch d with
  | none => rfl
  | some packet =>
    have hssrc : packet.ssrc = (t.rtpPacketOf d).ssrc := by
      rw [heardAudio] at hheard
      split at hheard
      · exact (ssrc_of_readAudio hheard).1
      · cases hheard
    simp only [Option.isSome_some, Bool.true_eq_false, if_false]
    rw [latchSource, hssrc]
    cases hlatch : t.rtpLatch with
    | none => rfl
    | some l =>
      dsimp only
      by_cases hip : l.ip ≠ d.src.ip
      · rw [if_pos hip, if_pos hip]
      · rw [if_neg hip, if_neg hip]
        by_cases hsource : l.ssrc ≠ (t.rtpPacketOf d).ssrc
        · rw [if_pos hsource, if_pos hsource]
          by_cases hport : l.port ≠ d.src.port
          · rw [if_pos hport, if_pos hport]
          · rw [if_neg hport, if_neg hport]
        · rw [if_neg hsource, if_neg hsource]
          by_cases hport : l.port ≠ d.src.port
          · rw [if_pos hport, if_pos hport]
            rfl
          · rw [if_neg hport, if_neg hport]
            simp only [hlatch]

end Transport

/-! ## The payload -/

theorem version_of_byte (b : UInt8) (h : b &&& 0xC0 = 0x80) : b >>> 6 = 2 := by
  revert b
  apply forall_byte
  decide

theorem audioHeader_cases {buf : ByteSpan} {header : Nat} (h : audioHeader buf = some header) :
    12 + (byteAt buf 0 &&& 0x0F).toNat * 4 ≤ header ∧ header < buf.length ∧
      ∀ size, header ≤ size → endOfExtension buf size (12 + (byteAt buf 0 &&& 0x0F).toNat * 4) =
        some header := by
  rw [audioHeader] at h
  dsimp only at h
  generalize hoffset : 12 + (byteAt buf 0 &&& 0x0F).toNat * 4 = offset at h ⊢
  by_cases hshort : buf.length ≤ offset
  · rw [if_pos hshort] at h
    cases h
  rw [if_neg hshort] at h
  by_cases hext : byteAt buf 0 &&& 0x10 = 0
  · rw [if_pos hext] at h
    cases h
    exact ⟨Nat.le_refl _, by omega, fun size _ => by rw [endOfExtension, if_pos hext]⟩
  rw [if_neg hext] at h
  by_cases hwords : buf.length < offset + 4
  · rw [if_pos hwords] at h
    cases h
  rw [if_neg hwords] at h
  by_cases hlong : buf.length ≤ offset + 4 + (readBe16 buf (offset + 2)).toNat * 4
  · rw [if_pos hlong] at h
    cases h
  rw [if_neg hlong] at h
  cases h
  refine ⟨by omega, by omega, fun size hsize => ?_⟩
  rw [endOfExtension, if_neg hext, if_neg (by omega)]
  dsimp only
  rw [if_neg (by omega)]

/-- What the loop takes for the payload is the payload of the packet. -/
theorem rtpPayload_of_strippedPayload {buf payload : ByteSpan}
    (h : strippedPayload buf = some payload) : rtpPayload buf = some payload := by
  rw [strippedPayload] at h
  by_cases hhead : buf.length ≤ 12 ∨ byteAt buf 0 &&& 0xC0 ≠ 0x80
  · rw [if_pos hhead] at h
    cases h
  rw [if_neg hhead] at h
  obtain ⟨hlength, hversion⟩ := not_or.mp hhead
  have hversion := version_of_byte _ (Decidable.not_not.mp hversion)
  -- The loop has found the end of the header, and cuts the padding off behind it.
  obtain ⟨header, hheader, hpayload⟩ := Option.bind_eq_some_iff.mp h
  obtain ⟨hoffset, hlt, hend⟩ := audioHeader_cases hheader
  rw [rtpPayload, rtpPayloadBounds, if_neg (not_or.mpr ⟨by omega, fun h => h hversion⟩),
    sizeBeforePadding]
  rw [audioPayload] at hpayload
  -- The parse of the video session cuts first, which comes to the same.
  by_cases hpadded : byteAt buf 0 &&& 0x20 = 0
  · rw [if_neg (fun h => h.1 hpadded)] at hpayload
    cases hpayload
    rw [if_pos hpadded]
    dsimp only
    rw [if_neg (by omega), hend _ (by omega)]
    simp only [Option.map_some]
    rw [List.take_of_length_le (Nat.le_of_eq List.length_drop)]
  · rw [if_pos ⟨hpadded, by omega⟩] at hpayload
    dsimp only at hpayload
    rw [if_neg hpadded]
    dsimp only
    generalize (byteAt buf (buf.length - 1)).toNat = pad at hpayload ⊢
    by_cases hpad : pad = 0 ∨ buf.length - header < pad
    · rw [if_pos hpad] at hpayload
      cases hpayload
    · rw [if_neg hpad] at hpayload
      cases hpayload
      rw [if_neg (by omega)]
      dsimp only
      rw [if_neg (by omega), hend _ (by omega)]
      simp only [Option.map_some]
      congr 2
      omega

/-! ## What may move the latch -/

/-- A packet of the negotiated media: it comes from the negotiated address, and its payload is not
    empty and, of PCM, one frame. -/
structure NegotiatedMedia (d : AudioDatagram) (n : Negotiation) : Prop where
  address : n.remoteRtpIp ≠ 0 ∧ d.src.ip = n.remoteRtpIp
  media : ∃ format payload,
    RtpAudioPayloads.format? n.rxPayloads (rtpPayloadType d.buf).toNat = some format ∧
      rtpPayload d.buf = some payload ∧ payload ≠ [] ∧
      (format.codec = .pcm → payload.length = format.nominalRtpPayloadBytes)

namespace Transport

/-- The transport answers to another source, or sends to another port. -/
def LatchMoved (t t' : Transport) : Prop :=
  t'.rtpLatch.map (·.ssrc) ≠ t.rtpLatch.map (·.ssrc) ∨
    t'.negotiation.remoteRtpPort ≠ t.negotiation.remoteRtpPort

/-- What the session may do with a datagram: only negotiated media move the latch, and another
    source counts for something only behind the port that is latched. -/
structure LatchSafe (epochDecoded : UInt32) (d : AudioDatagram) (t : Transport) : Prop where
  media : t.LatchMoved (t.receiveDatagram epochDecoded d).2 → NegotiatedMedia d t.negotiation
  source : ∀ l, t.rtpLatch = some l → rtpSsrc d.buf ≠ l.ssrc →
    t.receiveDatagram epochDecoded d ≠ (none, t) → d.src.port = l.port

/-- The same session with another latch. -/
def latchedAs (latch : Option RtpLatch) (port : UInt16) (t : Transport) : Transport :=
  { t with
    rtpLatch := latch
    negotiation := { t.negotiation with remoteRtpPort := port } }

/-- Another source is taken only behind the port that is latched. -/
theorem port_of_latchSource {src : Peer} {ssrc : UInt32} {t t' : Transport} {l : RtpLatch}
    (h : t.latchSource src ssrc = some t') (hlatch : t.rtpLatch = some l) (hne : ssrc ≠ l.ssrc) :
    src.port = l.port := by
  rw [latchSource, hlatch] at h
  dsimp only at h
  by_cases hip : l.ip ≠ src.ip
  · rw [if_pos hip] at h
    cases h
  rw [if_neg hip, if_pos (Ne.symm hne)] at h
  by_cases hport : l.port ≠ src.port
  · rw [if_pos hport] at h
    cases h
  · exact (Decidable.not_not.mp hport).symm

theorem heardAudio_cases {epochDecoded : UInt32} {d : AudioDatagram} {t : Transport}
    {packet : AudioPacket} (h : t.heardAudio epochDecoded d = some packet) :
    t.listensTo epochDecoded d.src = true ∧
      readAudio t.negotiation.rxPayloads d.buf = some packet := by
  rw [heardAudio] at h
  cases hlistens : t.listensTo epochDecoded d.src with
  | true =>
    rw [hlistens, if_pos rfl] at h
    exact ⟨rfl, h⟩
  | false =>
    rw [hlistens, if_neg (by decide)] at h
    cases h

/-- A packet that is heard is of the negotiated media, if there is an address and a payload. -/
theorem negotiatedMedia_of_heardAudio {epochDecoded : UInt32} {d : AudioDatagram} {t : Transport}
    {packet : AudioPacket} (h : t.heardAudio epochDecoded d = some packet)
    (hip : t.negotiation.remoteRtpIp ≠ 0) (hpayload : packet.payload ≠ []) :
    NegotiatedMedia d t.negotiation := by
  obtain ⟨hlistens, hread⟩ := heardAudio_cases h
  obtain ⟨_, hstripped, hformat, haudio⟩ := ssrc_of_readAudio hread
  constructor
  · simp only [listensTo, Bool.and_eq_true, Bool.or_eq_true, beq_iff_eq] at hlistens
    exact ⟨hip, hlistens.1.2.resolve_left hip⟩
  · refine ⟨packet.rxFormat, packet.payload, hformat, rtpPayload_of_strippedPayload hstripped,
      hpayload, fun hpcm => ?_⟩
    rw [decodeAudio, if_pos hpcm] at haudio
    dsimp only at haudio
    by_cases hframe : rtpPayloadToPcm packet.payload packet.rxFormat 2048 = [] ∨
        (rtpPayloadToPcm packet.payload packet.rxFormat 2048).length ≠
          packet.rxFormat.nominalFrameBytes
    · rw [if_pos hframe] at haudio
      cases haudio
    · obtain ⟨hne, hlength⟩ := not_or.mp hframe
      exact (length_of_rtpPayloadToPcm hne (Decidable.not_not.mp hlength)).2

theorem heardAudio_latchedAs (epochDecoded : UInt32) (d : AudioDatagram) (latch : Option RtpLatch)
    (port : UInt16) (t : Transport) :
    (t.latchedAs latch port).heardAudio epochDecoded d = t.heardAudio epochDecoded d := rfl

theorem latchSafe_of_media {epochDecoded : UInt32} {d : AudioDatagram} {t : Transport}
    (h : ∀ packet, t.heardAudio epochDecoded d = some packet →
      t.negotiation.remoteRtpIp ≠ 0 ∧ packet.payload ≠ []) : LatchSafe epochDecoded d t := by
  constructor
  · intro hmoved
    cases hheard : t.heardAudio epochDecoded d with
    | none =>
      rw [receiveDatagram, hheard] at hmoved
      rcases hmoved with h | h <;> exact absurd rfl h
    | some packet =>
      obtain ⟨hip, hpayload⟩ := h packet hheard
      exact negotiatedMedia_of_heardAudio hheard hip hpayload
  · intro l hlatch hssrc htaken
    cases hheard : t.heardAudio epochDecoded d with
    | none =>
      rw [receiveDatagram, hheard] at htaken
      exact absurd rfl htaken
    | some packet =>
      have hpacket := (ssrc_of_readAudio (heardAudio_cases hheard).2).1
      rw [receiveDatagram, hheard] at htaken
      dsimp only at htaken
      cases htake : t.latchSource d.src packet.ssrc with
      | none =>
        rw [htake] at htaken
        exact absurd rfl htaken
      | some t' => exact port_of_latchSource htake hlatch (by rw [hpacket]; exact hssrc)

/-- Whatever the latch is, a datagram moves it only as negotiated media: just where, if the loop
    takes the datagram for audio, there is an address for the session and a payload in the
    packet. -/
theorem latchSafe_iff (epochDecoded : UInt32) (d : AudioDatagram) (t : Transport) :
    (∀ latch port, LatchSafe epochDecoded d (t.latchedAs latch port)) ↔
      (t.listensTo epochDecoded d.src = true →
        ∀ payload format, strippedPayload d.buf = some payload →
          RtpAudioPayloads.format? t.negotiation.rxPayloads (rtpPayloadType d.buf).toNat =
            some format →
          (decodeAudio format payload).isSome →
          t.negotiation.remoteRtpIp ≠ 0 ∧ payload ≠ []) := by
  constructor
  · intro h hlistens payload format hpayload hformat haudio
    obtain ⟨audio, haudio⟩ := Option.isSome_iff_exists.mp haudio
    -- the first packet of a session always moves the latch
    have hheard : (t.latchedAs none 0).heardAudio epochDecoded d =
        some { ssrc := rtpSsrc d.buf, rxFormat := format, payload, audio } := by
      rw [heardAudio_latchedAs, heardAudio, hlistens, if_pos rfl, readAudio, hpayload,
        Option.bind_some, hformat, Option.bind_some, haudio, Option.map_some]
    have hmoved : (t.latchedAs none 0).LatchMoved
        ((t.latchedAs none 0).receiveDatagram epochDecoded d).2 := by
      refine .inl ?_
      rw [receiveDatagram, hheard]
      exact fun h => nomatch h
    obtain ⟨⟨hip, _⟩, _, payload', _, hpayload', hne, _⟩ := (h none 0).media hmoved
    rw [rtpPayload_of_strippedPayload hpayload] at hpayload'
    cases hpayload'
    exact ⟨hip, hne⟩
  · intro h latch port
    refine latchSafe_of_media fun packet hheard => ?_
    rw [heardAudio_latchedAs] at hheard
    obtain ⟨hlistens, hread⟩ := heardAudio_cases hheard
    obtain ⟨_, hstripped, hformat, haudio⟩ := ssrc_of_readAudio hread
    exact h hlistens packet.payload packet.rxFormat hstripped hformat (by rw [haudio]; rfl)

namespace PaddedOpus

/-- A session that has agreed on Opus. -/
def session : Transport where
  rtpRunning := true
  mediaActive := true
  rtpLatch := some { ip := 0x0A000001, port := 40000, ssrc := 1 }
  negotiation :=
    { remoteRtpIp := 0x0A000001
      remoteRtpPort := 40000
      rxPayloads := [(97, { sampleRate := 48000, frameMs := 20, codec := .opus })] }

/-- A packet of the latched source, from another port, in which all is padding. -/
def datagram : AudioDatagram where
  src := { ip := 0x0A000001, port := 50000 }
  bytes := [0xA0, 97, 0, 1, 0, 0, 0, 0, 0, 0, 0, 1, 1]

/-- A packet without a payload moves the port that audio is sent to. -/
theorem padding_moves_latch :
    (session.receiveDatagram 0 datagram).2.negotiation.remoteRtpPort = 50000 ∧
      rtpPayload datagram.buf = some [] ∧ ¬LatchSafe 0 datagram session := by
  have hport : (session.receiveDatagram 0 datagram).2.negotiation.remoteRtpPort = 50000 := by
    decide
  have hempty : rtpPayload datagram.buf = some [] := by decide
  refine ⟨hport, hempty, fun h => ?_⟩
  obtain ⟨_, _, payload, _, hpayload, hne, _⟩ := h.media (.inr (by rw [hport]; decide))
  rw [hempty] at hpayload
  cases hpayload
  exact hne rfl

end PaddedOpus

end Transport

end EsphomeVoip
