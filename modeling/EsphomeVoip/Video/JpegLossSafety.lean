import EsphomeVoip.ForStd.EventRun
import EsphomeVoip.Video.JpegArrival

/-! # What the sink of a JPEG session is given

Over whole runs: whatever is lost, repeated or overtaken on the way, and whatever comes from
elsewhere, each unit that the sink is given is a frame that has been sent, from its first packet to
its last. -/

namespace EsphomeVoip

open VideoRtpSession (Datagram)

/-! ## Runs -/

/-- The session, and the packet behind the one that it has taken last: the SSRC and the place in
    the stream. -/
structure TrackedJpeg where
  session : JpegSession
  next : Option (UInt32 × Nat) := none

/-- An event, with the packet that a datagram is, if a sender has sent it. -/
structure JpegArrival where
  event : JpegSession.Event
  origin : Option (UInt32 × Nat) := none

/-- One event, and what has been taken. -/
def TrackedJpeg.step (a : JpegArrival) (t : TrackedJpeg) : TrackedJpeg where
  session := t.session.step a.event
  next :=
    match a.event, a.origin with
    | .datagram d malloc, some (ssrc, i) =>
      if (t.session.receive malloc d).1 then some (ssrc, i + 1) else t.next
    | _, _ => t.next

/-- The invariant of a run. -/
def TrackedJpeg.Inv (σ : UInt32 → JpegStream) (t : TrackedJpeg) : Prop :=
  Reception.Inv σ t.next t.session.reception

namespace JpegSession

/-- `d` is the packet `i` of the stream `σ`, which `ssrc` sends. -/
def SentAs (σ : JpegStream) (ssrc : UInt32) (i : Nat) (payloadType : UInt8) (d : Datagram) :
    Prop :=
  d.bytes.length ≤ kMaxRtpPacketBytes ∧ rtpSsrc d.bytes = ssrc ∧
    rtpSequence d.bytes = σ.sequence i ∧
    ((∃ u k, σ.entries[i]? = some (.media u k) ∧ rtpPayloadType d.bytes = payloadType ∧
        (∃ payload, u.payloads[k]? = some payload ∧ rtpPayload d.bytes = some payload) ∧
        rtpMarker d.bytes = (k + 1 == u.payloads.length) ∧
        rtpTimestamp d.bytes = u.timestamp) ∨
      σ.entries[i]? = some .keepalive ∧ rtpPayloadType d.bytes ≠ payloadType ∧
        rtpPayload d.bytes = some [])

/-- A datagram that is no packet of any stream: it comes from elsewhere or it is not valid.  One of
    another payload type must not pass for the keepalive that is due. -/
def Unsent (d : Datagram) (s : JpegSession) : Prop :=
  let packet := d.bytes.take kMaxRtpPacketBytes
  d.sourceIp ≠ s.remoteIpV4 ∨ rtpPayload packet = none ∨
    rtpPayloadType packet = s.payloadType ∧
        (s.sourceChanges packet = true ∧ d.sourcePort ≠ s.latchedRemoteRtpPort ∨
          ∃ payload, rtpPayload packet = some payload ∧ readRtpJpegFragment payload = none) ∨
      rtpPayloadType packet ≠ s.payloadType ∧
        (rtpPayload packet ≠ some [] ∨ rtpSsrc packet ≠ s.remoteSsrc ∨
          d.sourcePort ≠ s.latchedRemoteRtpPort ∨ rtpPayloadType packet < 96 ∨
          rtpMarker packet = true ∨ rtpSequence packet ≠ s.expectedSequence)

/-- What may reach the session: packets of the senders, and datagrams that are not valid.  A
    packet whose number is the expected one modulo 65536 is the packet that is expected. -/
def Admissible (σ : UInt32 → JpegStream) (a : JpegArrival) (t : TrackedJpeg) : Prop :=
  match a.event, a.origin with
  | .datagram d _, some (ssrc, i) =>
    SentAs (σ ssrc) ssrc i t.session.payloadType d ∧
      ∀ n, t.next = some (ssrc, n) → i % 65536 = n % 65536 → i = n
  | .datagram d _, none => Unsent d t.session
  | _, _ => True

/-- Nothing is under construction, no number is expected, and nothing has been handed over. -/
structure Fresh (s : JpegSession) : Prop where
  idle : s.jpegDepacketizer.active = false
  sequenceValid : s.sequenceValid = false
  handedOver : s.handedOver = []

variable {σ : UInt32 → JpegStream} {s : JpegSession} {next : Option (UInt32 × Nat)}
  {malloc : Option QuantizationCache} {d : Datagram}

theorem Fresh.inv (h : Fresh s) : Reception.Inv σ none s.reception := by
  refine ⟨?_, ?_, ?_⟩
  · intro sequence hsequence
    rw [reception, h.sequenceValid] at hsequence
    cases hsequence
  · intro hactive
    exact absurd (hactive.symm.trans h.idle) (by decide)
  · intro unit hunit
    have hnil : s.reception.handedOver = [] := h.handedOver
    rw [hnil] at hunit
    exact absurd hunit List.not_mem_nil

/-- A fragment that cannot be read is dropped. -/
theorem push_of_not_read {payload : ByteSpan} (h : readRtpJpegFragment payload = none)
    (d : RtpJpegDepacketizer) (marker : Bool) (timestamp : UInt32) (output : ByteSpan) :
    (d.push payload marker timestamp output).result = .dropped := by
  rw [RtpJpegDepacketizer.push, h]
  rfl

/-- What is taken up has been read. -/
theorem read_of_takesUp {r r' : Reception} {p : HeardPacket} (h : r.TakesUp p r') :
    readRtpJpegFragment p.payload ≠ none := by
  intro hnone
  cases h with
  | goOn d damaged hlater hresult =>
    rw [push_of_not_read hnone] at hresult
    cases hresult
  | complete d damaged units hlater hresult hunits =>
    rw [push_of_not_read hnone] at hresult
    cases hresult

/-- **What nobody has sent** is not taken. -/
theorem not_taken_of_unsent (malloc : Option QuantizationCache) (h : Unsent d s) :
    (s.receive malloc d).1 = false := by
  rcases receive_step malloc d s with ⟨hfalse, -⟩ | ⟨-, hip, hkind⟩
  · exact hfalse
  · rcases h with h | h | ⟨hpt, h⟩ | ⟨hpt, h⟩
    · exact absurd hip h
    · rcases hkind with ⟨-, hpayload, -⟩ | ⟨-, -, payload, hpayload, -⟩
      · cases h.symm.trans hpayload
      · cases h.symm.trans hpayload
    · rcases hkind with ⟨hother, -⟩ | ⟨-, hport, payload, hpayload, hstep⟩
      · exact absurd hpt hother
      · rcases h with h | ⟨payload', hpayload', hnone⟩
        · exact absurd h hport
        · obtain rfl := Option.some.inj (hpayload.symm.trans hpayload')
          generalize (s.receive malloc d).2.reception = r' at hstep
          cases hstep with
          | media _ r' htakes => exact absurd hnone (read_of_takesUp htakes)
    · rcases hkind with ⟨-, hpayload, hssrc, hport, hdynamic, hmarker, hseq, -⟩ | ⟨hsame, -⟩
      · rcases h with h | h | h | h | h | h
        · exact absurd hpayload h
        · exact absurd hssrc h
        · exact absurd hport h
        · exact absurd h hdynamic
        · exact absurd h hmarker
        · exact absurd hseq h
      · exact absurd hsame hpt

/-- **A datagram of a sender** keeps the invariant. -/
theorem inv_sent {ssrc : UInt32} {i : Nat} (h : Reception.Inv σ next s.reception)
    (hsent : SentAs (σ ssrc) ssrc i s.payloadType d)
    (hnumber : ∀ n, next = some (ssrc, n) → i % 65536 = n % 65536 → i = n) :
    Reception.Inv σ (if (s.receive malloc d).1 then some (ssrc, i + 1) else next)
      (s.receive malloc d).2.reception := by
  obtain ⟨hlen, rfl, hseq, hsent⟩ := hsent
  have hstep := receive_step malloc d s
  dsimp only at hstep
  rw [List.take_of_length_le hlen] at hstep
  rcases hstep with ⟨hfalse, hstep⟩ | ⟨htrue, -, hkind⟩
  · rw [hfalse]
    exact h.untaken hstep
  · rw [htrue, if_pos rfl]
    rcases hsent with ⟨u, k, hentry, hpt, ⟨payload, hget, hpayload⟩, hmarker, hts⟩ |
      ⟨hentry, hpt, hpayload⟩
    · rcases hkind with ⟨hother, -⟩ | ⟨-, -, payload', hpayload', hstep⟩
      · exact absurd hpt hother
      · obtain rfl := Option.some.inj (hpayload.symm.trans hpayload')
        generalize (s.receive malloc d).2.reception = r' at hstep ⊢
        cases hstep with
        | media _ r' htakes =>
          exact h.takesUp ⟨hentry, hget, hseq, hmarker, hts⟩ hnumber htakes
    · rcases hkind with ⟨-, -, -, -, -, -, -, hstep⟩ | ⟨hsame, -⟩
      · generalize (s.receive malloc d).2.reception = r' at hstep
        cases hstep with
        | keepalive _ _ hsource hexpected =>
          exact h.keepalive hentry hseq hnumber hsource hexpected
      · exact absurd hsame hpt

/-- **One event** keeps the invariant. -/
theorem inv_step {t : TrackedJpeg} (a : JpegArrival) (hadmissible : Admissible σ a t)
    (h : t.Inv σ) : (t.step a).Inv σ := by
  obtain ⟨event, origin⟩ := a
  cases event with
  | datagram d malloc =>
    cases origin with
    | none =>
      have hfalse := not_taken_of_unsent malloc hadmissible
      rcases receive_step malloc d t.session with ⟨-, hstep⟩ | ⟨htrue, -⟩
      · exact h.untaken hstep
      · exact absurd (htrue.symm.trans hfalse) (by decide)
    | some origin => exact inv_sent h hadmissible.1 hadmissible.2
  | reset => exact h.untaken (takeReset_step t.session)
  | direction enabled => exact ⟨h.number, h.part, h.handed⟩

end JpegSession

/-- **What is handed over has been sent.**  Packets of JPEG senders come in any order, with losses
    and repetitions, between datagrams that nobody sent, resets and switches of the direction; a
    sender may give frames up in their middle.  Each unit that the sink is given is read as one of
    the frames, with the whole scan. -/
theorem delivered_jpegs_were_sent (σ : UInt32 → JpegStream) (s : JpegSession)
    (hs : JpegSession.Fresh s) (arrivals : List JpegArrival)
    (h : EventRun.Along TrackedJpeg.step (JpegSession.Admissible σ) ⟨s, none⟩ arrivals) :
    ∀ unit ∈ (EventRun.after TrackedJpeg.step ⟨s, none⟩ arrivals).session.handedOver,
      ∃ ssrc u k, .media u k ∈ (σ ssrc).entries ∧ unit.timestamp90khz = u.timestamp ∧
        parseJpegForRtp unit.data = .ok u.frame.inBlocks := by
  have hrun : TrackedJpeg.Inv σ (EventRun.after TrackedJpeg.step ⟨s, none⟩ arrivals) := by
    apply EventRun.invariant TrackedJpeg.step (fun a t ha hinv => JpegSession.inv_step a ha hinv) h
    exact hs.inv
  exact hrun.handed

/-- A packet as `send_rtp_payload_` writes it is one of its stream. -/
theorem sentAs_rtpPacket {σ : JpegStream} {i : Nat} {u : SentJpeg} {k : Nat} {payload : ByteSpan}
    (hentry : σ.entries[i]? = some (.media u k)) (hget : u.payloads[k]? = some payload)
    (hlen : payload.length + 12 ≤ kMaxRtpPacketBytes) {payloadType : UInt8}
    (hpt : payloadType < 128) (ssrc ip : UInt32) (port : UInt16) :
    JpegSession.SentAs σ ssrc i payloadType
      { sourceIp := ip
        sourcePort := port
        bytes := rtpPacket payloadType (k + 1 == u.payloads.length) (σ.sequence i) u.timestamp ssrc
          payload } := by
  refine ⟨?_, rtpSsrc_rtpPacket .., rtpSequence_rtpPacket .., .inl ⟨u, k, hentry, ?_, ?_, ?_, ?_⟩⟩
  · rw [length_rtpPacket]
    exact hlen
  · exact rtpPayloadType_rtpPacket _ _ _ _ _ _ hpt
  · exact ⟨payload, hget, rtpPayload_rtpPacket ..⟩
  · exact rtpMarker_rtpPacket _ _ _ _ _ _ hpt
  · exact rtpTimestamp_rtpPacket ..

namespace OneFrame

/-- A frame of one block, in one packet. -/
def frame : SentJpeg where
  frame := { scan := [0x2A], quantizers := List.replicate 128 1, width := 8, height := 8 }
  sendable := ⟨by decide, List.length_replicate, by decide, by decide, by decide⟩
  maxPayload := 1200
  headerFits := by decide +kernel
  scanFits := by decide
  timestamp := 90000

/-- One sender sends it. -/
def senders (ssrc : UInt32) : JpegStream :=
  if ssrc = 9 then
    { base := 7
      entries := [.media frame 0]
      inOrder := by
        intro i u k h
        cases i with
        | zero => cases h
        | succ i => simp at h }
  else .silent

def payload : ByteSpan := frame.frame.fragmentAt 1200 0

/-- Its packet. -/
def datagram : Datagram where
  sourceIp := 7
  sourcePort := 5004
  bytes := rtpPacket 26 (0 + 1 == frame.payloads.length) ((senders 9).sequence 0) 90000 9 payload

def packet : JpegArrival where
  event := .datagram datagram none
  origin := some (9, 0)

/-- The session that listens to it. -/
def start : JpegSession := { payloadType := 26, remoteIpV4 := 7, slot := List.replicate 2048 0 }

theorem payload_eq : frame.payloads[0]? = some payload := by
  rw [SentJpeg.payloads_eq, if_pos (by decide)]
  rfl

/-- The packet comes twice, and so does the frame. -/
theorem repeated_jpeg_was_sent :
    let t := EventRun.after TrackedJpeg.step ⟨start, none⟩ [packet, packet]
    t.session.handedOver.length = 2 ∧ ∀ unit ∈ t.session.handedOver,
      ∃ ssrc u k, .media u k ∈ (senders ssrc).entries ∧ unit.timestamp90khz = u.timestamp ∧
        parseJpegForRtp unit.data = .ok u.frame.inBlocks := by
  have hsent : JpegSession.SentAs (senders 9) 9 0 26 datagram :=
    sentAs_rtpPacket (u := frame) rfl payload_eq (by decide +kernel) (by decide) 9 7 5004
  have htype : (TrackedJpeg.step packet ⟨start, none⟩).session.payloadType = 26 := by
    decide +kernel
  have hnext : (TrackedJpeg.step packet ⟨start, none⟩).next = some (9, 1) := by
    decide +kernel
  have htwice : (EventRun.after TrackedJpeg.step ⟨start, none⟩
      [packet, packet]).session.handedOver.length = 2 := by
    decide +kernel
  refine ⟨htwice, delivered_jpegs_were_sent senders start ⟨rfl, rfl, rfl⟩ [packet, packet] ?_⟩
  refine ⟨⟨hsent, fun n hn => ?_⟩, ⟨?_, fun n hn hmod => ?_⟩, trivial⟩
  · cases hn
  · rw [htype]
    exact hsent
  · rw [hnext] at hn
    cases hn
    exact absurd hmod (by decide)

end OneFrame

end EsphomeVoip
