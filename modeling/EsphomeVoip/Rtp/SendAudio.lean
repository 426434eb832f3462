import EsphomeVoip.Rtp.AudioPayload
import EsphomeVoip.Video.RtpPacket

/-! # Sending audio (`sip_transport.cpp`)

A frame of the microphone leaves `send_audio_frame` as a packet or not at all.  The sequence number
counts what is handed to the socket, and the timestamp the samples; where a frame that is dropped
leaves the clock behind, the packets after it carry the wrong time. -/

namespace EsphomeVoip

/-! ## One frame -/

/-- What a sender has that does not change within a session. -/
structure AudioSender where
  /-- `USE_ESPHOME_VOIP_STACK_OPUS`. -/
  opus : Bool := false
  udpMaxPayload : Nat := 1200
  rtpSsrc : UInt32 := 0
  deriving Repr

/-- `rtp_sequence_` and `rtp_timestamp_`. -/
structure RtpTimeline where
  rtpSequence : UInt16
  rtpTimestamp : UInt32
  deriving DecidableEq, Repr

/-- A call of `send_audio_frame`: the frame, and what the call reads of the session as it goes on,
    which other tasks may change between any two reads. -/
structure AudioCall where
  /-- Empty for a null pointer. -/
  pcm : ByteSpan
  /-- `rtp_running_`, when the call begins. -/
  rtpRunning : Bool := true
  /-- `media_proposal_epoch_`, when the call begins. -/
  proposalEpoch : UInt32 := 0
  txFormat : AudioFormat := {}
  txPayloadType : UInt8 := 96
  /-- What the Opus codec makes of the frame. -/
  encoded : ByteSpan := []
  /-- `media_proposal_epoch_`, behind the encoder. -/
  epochEncoded : UInt32 := 0
  /-- `rtp_running_` and an open `rtp_socket_`, under the lock. -/
  socketOpen : Bool := true
  remoteIp : UInt32 := 0
  remotePort : UInt16 := 0
  /-- `media_proposal_epoch_`, under the lock. -/
  epochLocked : UInt32 := 0
  /-- `rtp_running_`, right before `sendto`. -/
  stillRunning : Bool := true
  /-- `sendto` takes the packet. -/
  accepted : Bool := true
  deriving Repr

/-- `timestamp_samples`: the samples of a frame on the clock of its format. -/
def AudioCall.timestampSamples (c : AudioCall) : UInt32 :=
  if c.txFormat.codec = .opus then UInt32.ofNat (48000 * c.txFormat.frameMs / 1000)
  else if c.txFormat.channels = 0 then 0
  else UInt32.ofNat (c.pcm.length / c.txFormat.containerBytesPerSample / c.txFormat.channels)

/-- The payload of a frame. -/
def AudioCall.payload (b : AudioSender) (c : AudioCall) : ByteSpan :=
  if b.opus = true ∧ c.txFormat.codec = .opus then c.encoded
  else pcmToRtpPayload c.pcm c.txFormat 1488

/-- The clock goes on. -/
def RtpTimeline.advance (t : RtpTimeline) (samples : UInt32) : RtpTimeline :=
  { t with rtpTimestamp := t.rtpTimestamp + samples }

/-- `send_audio_frame`: the timeline behind it and the packet that is sent. -/
def sendAudioFrame (b : AudioSender) (t : RtpTimeline) (c : AudioCall) :
    RtpTimeline × Option ByteSpan :=
  if c.rtpRunning = false ∨ c.pcm = [] then (t, none)
  else if c.proposalEpoch &&& 1 ≠ 0 then (t, none)
  else if c.txFormat.isValid = false then (t, none)
  else
    let payload := c.payload b
    if payload = [] ∨ b.udpMaxPayload < payload.length then (t.advance c.timestampSamples, none)
    else if c.epochEncoded ≠ c.proposalEpoch then (t.advance c.timestampSamples, none)
    else if c.socketOpen = false then (t, none)
    else if c.remoteIp = 0 ∨ c.remotePort = 0 then (t, none)
    else if c.epochLocked ≠ c.proposalEpoch then (t.advance c.timestampSamples, none)
    else
      let next : RtpTimeline :=
        { rtpSequence := t.rtpSequence + 1, rtpTimestamp := t.rtpTimestamp + c.timestampSamples }
      if c.stillRunning = false then (next, none)
      else if c.accepted = false then (next, none)
      else (next, some (rtpPacket (c.txPayloadType &&& 0x7F) false t.rtpSequence t.rtpTimestamp
        b.rtpSsrc payload))

/-! ## What becomes of a frame -/

/-- The frame is one of the session. -/
def AudioCall.submitted (c : AudioCall) : Bool := c.rtpRunning && c.pcm != []

/-- The payload can be sent. -/
def AudioCall.fits (b : AudioSender) (c : AudioCall) : Bool :=
  c.payload b != [] && decide ((c.payload b).length ≤ b.udpMaxPayload)

/-- There is a socket, and an address to send to. -/
def AudioCall.reachable (c : AudioCall) : Bool :=
  c.socketOpen && c.remoteIp != 0 && c.remotePort != 0

/-- The frame is encoded, and no proposal has begun or ended since. -/
def AudioCall.prepared (b : AudioSender) (c : AudioCall) : Bool :=
  c.submitted && c.proposalEpoch &&& 1 == 0 && c.txFormat.isValid && c.fits b &&
    c.epochEncoded == c.proposalEpoch

/-- The frame has a sequence number. -/
def AudioCall.numbered (b : AudioSender) (c : AudioCall) : Bool :=
  c.prepared b && c.reachable && c.epochLocked == c.proposalEpoch

/-- The frame is sent. -/
def AudioCall.sent (b : AudioSender) (c : AudioCall) : Bool :=
  c.numbered b && c.stillRunning && c.accepted

/-- The frame has a sequence number and is not sent. -/
def AudioCall.refused (b : AudioSender) (c : AudioCall) : Bool := c.numbered b && !c.sent b

/-- The frame leaves the clock as it is: a proposal is open, there is no format, or there is nowhere
    to send it. -/
def AudioCall.stalls (b : AudioSender) (c : AudioCall) : Bool :=
  c.submitted && (c.proposalEpoch &&& 1 != 0 || !c.txFormat.isValid ||
    (c.prepared b && !c.reachable))

/-- The samples of a frame of the session. -/
def AudioCall.submittedSamples (c : AudioCall) : UInt32 :=
  if c.submitted then c.timestampSamples else 0

/-- The samples by which the clock stays behind. -/
def AudioCall.stalledSamples (b : AudioSender) (c : AudioCall) : UInt32 :=
  if c.stalls b then c.timestampSamples else 0

/-- The samples by which the clock goes on. -/
def AudioCall.clockedSamples (b : AudioSender) (c : AudioCall) : UInt32 :=
  if c.submitted && !c.stalls b then c.timestampSamples else 0

theorem AudioCall.sent_of_not_numbered {b : AudioSender} {c : AudioCall}
    (h : c.numbered b = false) : c.sent b = false := by
  rw [sent, h, Bool.false_and, Bool.false_and]

theorem AudioCall.numbered_of_not_prepared {b : AudioSender} {c : AudioCall}
    (h : c.prepared b = false) : c.numbered b = false := by
  rw [numbered, h, Bool.false_and, Bool.false_and]

theorem AudioCall.clocked_of_stalls {b : AudioSender} {c : AudioCall} (h : c.stalls b = true) :
    c.clockedSamples b = 0 := by
  rw [clockedSamples, h, Bool.not_true, Bool.and_false, if_neg (by decide)]

theorem AudioCall.clocked_of_not_stalls {b : AudioSender} {c : AudioCall}
    (hsubmitted : c.submitted = true) (h : c.stalls b = false) :
    c.clockedSamples b = c.timestampSamples := by
  rw [clockedSamples, hsubmitted, h, if_pos (by decide)]

/-- A frame without a sequence number. -/
theorem sendAudioFrame_unnumbered {b : AudioSender} {t : RtpTimeline} {c : AudioCall}
    {samples : UInt32} (hnumbered : c.numbered b = false)
    (hsamples : c.clockedSamples b = samples) :
    (t.advance samples, none) =
      (({ rtpSequence := t.rtpSequence + if c.numbered b then 1 else 0
          rtpTimestamp := t.rtpTimestamp + c.clockedSamples b } : RtpTimeline),
        if c.sent b then some (rtpPacket (c.txPayloadType &&& 0x7F) false t.rtpSequence
          t.rtpTimestamp b.rtpSsrc (c.payload b)) else none) := by
  rw [AudioCall.sent_of_not_numbered hnumbered, hnumbered, hsamples]
  simp [RtpTimeline.advance]

/-- What becomes of a frame. -/
theorem sendAudioFrame_eq (b : AudioSender) (t : RtpTimeline) (c : AudioCall) :
    sendAudioFrame b t c =
      ({ rtpSequence := t.rtpSequence + if c.numbered b then 1 else 0
         rtpTimestamp := t.rtpTimestamp + c.clockedSamples b },
        if c.sent b then some (rtpPacket (c.txPayloadType &&& 0x7F) false t.rtpSequence
          t.rtpTimestamp b.rtpSsrc (c.payload b)) else none) := by
  have hstay : (t, (none : Option ByteSpan)) = (t.advance 0, none) := by
    simp [RtpTimeline.advance]
  rw [sendAudioFrame]
  cases hsubmitted : c.submitted with
  | false =>
    have hidle : c.rtpRunning = false ∨ c.pcm = [] := by
      simpa [AudioCall.submitted, Decidable.imp_iff_not_or] using hsubmitted
    rw [if_pos hidle, hstay]
    exact sendAudioFrame_unnumbered (AudioCall.numbered_of_not_prepared
      (by simp [AudioCall.prepared, hsubmitted])) (by simp [AudioCall.clockedSamples, hsubmitted])
  | true =>
  have hbusy : ¬(c.rtpRunning = false ∨ c.pcm = []) := by
    simpa [AudioCall.submitted] using hsubmitted
  rw [if_neg hbusy]
  by_cases hodd : c.proposalEpoch &&& 1 ≠ 0
  · rw [if_pos hodd, hstay]
    exact sendAudioFrame_unnumbered
      (AudioCall.numbered_of_not_prepared (by simp [AudioCall.prepared, hodd]))
      (AudioCall.clocked_of_stalls (by simp [AudioCall.stalls, hsubmitted, hodd]))
  rw [if_neg hodd]
  have heven := Decidable.not_not.mp hodd
  by_cases hinvalid : c.txFormat.isValid = false
  · rw [if_pos hinvalid, hstay]
    exact sendAudioFrame_unnumbered
      (AudioCall.numbered_of_not_prepared (by simp [AudioCall.prepared, hinvalid]))
      (AudioCall.clocked_of_stalls (by simp [AudioCall.stalls, hsubmitted, hinvalid]))
  rw [if_neg hinvalid]
  -- from here on the clock goes on, but for want of an address
  have hstalls : c.stalls b = (c.prepared b && !c.reachable) := by
    rw [Bool.not_eq_false] at hinvalid
    simp [AudioCall.stalls, hsubmitted, heven, hinvalid]
  dsimp only
  by_cases hlong : c.payload b = [] ∨ b.udpMaxPayload < (c.payload b).length
  · have hfits : c.fits b = false := by
      rcases hlong with h | h <;> simp [AudioCall.fits, h]
    have hprepared : c.prepared b = false := by simp [AudioCall.prepared, hfits]
    rw [if_pos hlong]
    exact sendAudioFrame_unnumbered (AudioCall.numbered_of_not_prepared hprepared)
      (AudioCall.clocked_of_not_stalls hsubmitted (by rw [hstalls, hprepared, Bool.false_and]))
  rw [if_neg hlong]
  have hfits : c.fits b = true := by simpa [AudioCall.fits] using hlong
  by_cases hencoded : c.epochEncoded ≠ c.proposalEpoch
  · have hprepared : c.prepared b = false := by simp [AudioCall.prepared, hencoded]
    rw [if_pos hencoded]
    exact sendAudioFrame_unnumbered (AudioCall.numbered_of_not_prepared hprepared)
      (AudioCall.clocked_of_not_stalls hsubmitted (by rw [hstalls, hprepared, Bool.false_and]))
  rw [if_neg hencoded]
  have hprepared : c.prepared b = true := by
    simpa [AudioCall.prepared, hsubmitted, heven, hinvalid, hfits] using hencoded
  rw [hprepared, Bool.true_and] at hstalls
  by_cases hsocket : c.socketOpen = false
  · have hreach : c.reachable = false := by simp [AudioCall.reachable, hsocket]
    rw [if_pos hsocket, hstay]
    exact sendAudioFrame_unnumbered (by simp [AudioCall.numbered, hreach])
      (AudioCall.clocked_of_stalls (by rw [hstalls, hreach, Bool.not_false]))
  rw [if_neg hsocket]
  by_cases haddress : c.remoteIp = 0 ∨ c.remotePort = 0
  · have hreach : c.reachable = false := by
      rcases haddress with h | h <;> simp [AudioCall.reachable, h]
    rw [if_pos haddress, hstay]
    exact sendAudioFrame_unnumbered (by simp [AudioCall.numbered, hreach])
      (AudioCall.clocked_of_stalls (by rw [hstalls, hreach, Bool.not_false]))
  rw [if_neg haddress]
  have hreach : c.reachable = true := by
    simp only [Bool.not_eq_false, not_or] at hsocket haddress
    simp [AudioCall.reachable, hsocket, haddress]
  rw [hreach, Bool.not_true] at hstalls
  have hclocked := AudioCall.clocked_of_not_stalls hsubmitted hstalls
  by_cases hlocked : c.epochLocked ≠ c.proposalEpoch
  · rw [if_pos hlocked]
    exact sendAudioFrame_unnumbered (by simp [AudioCall.numbered, hlocked]) hclocked
  rw [if_neg hlocked]
  have hnumbered : c.numbered b = true := by
    simpa [AudioCall.numbered, hprepared, hreach] using hlocked
  rw [hnumbered, hclocked, if_pos rfl, AudioCall.sent, hnumbered, Bool.true_and]
  cases c.stillRunning <;> cases c.accepted <;> rfl

/-! ## Sessions -/

/-- The timeline behind some calls. -/
def RtpTimeline.after (b : AudioSender) (t : RtpTimeline) (calls : List AudioCall) : RtpTimeline :=
  calls.foldl (fun t c => (sendAudioFrame b t c).1) t

/-- The packet of a call that is made behind others. -/
def packetAfter (b : AudioSender) (t : RtpTimeline) (before : List AudioCall) (c : AudioCall) :
    Option ByteSpan :=
  (sendAudioFrame b (t.after b before) c).2

/-- Samples of several frames. -/
def total (samples : AudioCall → UInt32) : List AudioCall → UInt32
  | [] => 0
  | c :: calls => samples c + total samples calls

/-- The timestamp of each packet is that of the start and the samples of all frames before. -/
def OnClock (b : AudioSender) (t : RtpTimeline) (calls : List AudioCall) : Prop :=
  ∀ before c packet, before ++ [c] <+: calls → packetAfter b t before c = some packet →
    rtpTimestamp packet = t.rtpTimestamp + total AudioCall.submittedSamples before

/-- The sequence number of each packet is one more than that of the packet before. -/
def InSequence (b : AudioSender) (t : RtpTimeline) (calls : List AudioCall) : Prop :=
  ∀ before c between c' packet packet', before ++ c :: between ++ [c'] <+: calls →
    packetAfter b t before c = some packet →
    packetAfter b t (before ++ c :: between) c' = some packet' →
    (∀ skipped d, skipped ++ [d] <+: between →
      packetAfter b t (before ++ c :: skipped) d = none) →
    rtpSequence packet' = rtpSequence packet + 1

theorem packetAfter_eq (b : AudioSender) (t : RtpTimeline) (before : List AudioCall)
    (c : AudioCall) : packetAfter b t before c =
      if c.sent b then some (rtpPacket (c.txPayloadType &&& 0x7F) false
        (t.after b before).rtpSequence (t.after b before).rtpTimestamp b.rtpSsrc (c.payload b))
      else none := by
  rw [packetAfter, sendAudioFrame_eq]

theorem submittedSamples_eq (b : AudioSender) (c : AudioCall) :
    c.submittedSamples = c.clockedSamples b + c.stalledSamples b := by
  rw [AudioCall.submittedSamples, AudioCall.clockedSamples, AudioCall.stalledSamples]
  cases hsubmitted : c.submitted with
  | false => simp [AudioCall.stalls, hsubmitted]
  | true => cases c.stalls b <;> simp

/-- The clock is behind by the samples of the frames that left it as it was. -/
theorem rtpTimestamp_after (b : AudioSender) (t : RtpTimeline) (calls : List AudioCall) :
    (t.after b calls).rtpTimestamp + total (·.stalledSamples b) calls =
      t.rtpTimestamp + total AudioCall.submittedSamples calls := by
  induction calls generalizing t with
  | nil => rfl
  | cons c calls ih =>
    have hstep : (t.after b (c :: calls)) = (sendAudioFrame b t c).1.after b calls := rfl
    have hnext : (sendAudioFrame b t c).1.rtpTimestamp = t.rtpTimestamp + c.clockedSamples b := by
      rw [sendAudioFrame_eq]
    have htail := ih (sendAudioFrame b t c).1
    rw [hnext] at htail
    rw [hstep, total, total, submittedSamples_eq b c]
    calc _ = c.stalledSamples b + (((sendAudioFrame b t c).1.after b calls).rtpTimestamp +
          total (·.stalledSamples b) calls) := by ac_rfl
      _ = _ := by rw [htail]; ac_rfl

/-- The sequence number counts the frames that have one. -/
theorem rtpSequence_after (b : AudioSender) (t : RtpTimeline) (calls : List AudioCall) :
    (t.after b calls).rtpSequence =
      t.rtpSequence + UInt16.ofNat (calls.countP (·.numbered b)) := by
  induction calls generalizing t with
  | nil => simp [RtpTimeline.after]
  | cons c calls ih =>
    have hstep : (t.after b (c :: calls)) = (sendAudioFrame b t c).1.after b calls := rfl
    have hnext : (sendAudioFrame b t c).1.rtpSequence =
        t.rtpSequence + if c.numbered b then 1 else 0 := by
      rw [sendAudioFrame_eq]
    rw [hstep, ih, hnext, List.countP_cons]
    cases c.numbered b with
    | false => simp
    | true =>
      simp only [if_true, UInt16.ofNat_add]
      ac_rfl

theorem onClock_iff (b : AudioSender) (t : RtpTimeline) (calls : List AudioCall) :
    OnClock b t calls ↔ ∀ before c, before ++ [c] <+: calls → c.sent b = true →
      total (·.stalledSamples b) before = 0 := by
  have hclock : ∀ before, (t.after b before).rtpTimestamp =
      t.rtpTimestamp + total AudioCall.submittedSamples before ↔
        total (·.stalledSamples b) before = 0 := by
    intro before
    rw [← rtpTimestamp_after]
    exact UInt32.left_eq_add
  constructor
  · intro h before c hcalls hsent
    refine (hclock before).mp ?_
    have := h before c _ hcalls (by rw [packetAfter_eq, if_pos hsent])
    rwa [rtpTimestamp_rtpPacket] at this
  · intro h before c packet hcalls hpacket
    rw [packetAfter_eq] at hpacket
    split at hpacket
    · rename_i hsent
      cases hpacket
      rw [rtpTimestamp_rtpPacket]
      exact (hclock before).mpr (h before c hcalls hsent)
    · cases hpacket

theorem packetAfter_eq_none {b : AudioSender} {t : RtpTimeline} {before : List AudioCall}
    {c : AudioCall} : packetAfter b t before c = none ↔ c.sent b = false := by
  rw [packetAfter_eq]
  cases c.sent b <;> simp

theorem inSequence_iff (b : AudioSender) (t : RtpTimeline) (calls : List AudioCall) :
    InSequence b t calls ↔ ∀ before c between c', before ++ c :: between ++ [c'] <+: calls →
      c.sent b = true → c'.sent b = true → (∀ d ∈ between, d.sent b = false) →
      UInt16.ofNat (between.countP (·.refused b)) = 0 := by
  -- Between two packets that are sent, only the refused ones take a number.
  have hsequence : ∀ before c between, c.sent b = true → (∀ d ∈ between, d.sent b = false) →
      ((t.after b (before ++ c :: between)).rtpSequence = (t.after b before).rtpSequence + 1 ↔
        UInt16.ofNat (between.countP (·.refused b)) = 0) := by
    intro before c between hsent hsilent
    have hnumbered : c.numbered b = true := by
      simp only [AudioCall.sent, Bool.and_eq_true] at hsent
      exact hsent.1.1
    have hcount : between.countP (·.refused b) = between.countP (·.numbered b) := by
      refine List.countP_congr fun d hd => ?_
      rw [AudioCall.refused, hsilent d hd, Bool.not_false, Bool.and_true]
    -- the first packet itself takes one number
    rw [rtpSequence_after, rtpSequence_after, List.countP_append, List.countP_cons, hnumbered,
      if_pos rfl, hcount, UInt16.ofNat_add, UInt16.ofNat_add]
    constructor
    · intro h
      grind
    · intro h
      rw [h]
      ac_rfl
  constructor
  · -- From packets to calls: what is sent is a packet with the number of its call.
    intro h before c between c' hcalls hsent hsent' hsilent
    refine (hsequence before c between hsent hsilent).mp ?_
    have := h before c between c' _ _ hcalls (by rw [packetAfter_eq, if_pos hsent])
      (by rw [packetAfter_eq, if_pos hsent'])
      (fun skipped d hd => packetAfter_eq_none.mpr (hsilent d (hd.subset (by simp))))
    rwa [rtpSequence_rtpPacket, rtpSequence_rtpPacket] at this
  · -- From calls to packets: a packet comes only from a call that is sent.
    intro h before c between c' packet packet' hcalls hpacket hpacket' hsilent
    have hnone : ∀ d ∈ between, d.sent b = false := by
      intro d hd
      obtain ⟨skipped, rest, rfl⟩ := List.append_of_mem hd
      exact packetAfter_eq_none.mp (hsilent skipped d ⟨rest, by simp⟩)
    rw [packetAfter_eq] at hpacket hpacket'
    split at hpacket
    · rename_i hsent
      split at hpacket'
      · rename_i hsent'
        cases hpacket
        cases hpacket'
        rw [rtpSequence_rtpPacket, rtpSequence_rtpPacket]
        exact (hsequence before c between hsent hnone).mpr
          (h before c between c' hcalls hsent hsent' hnone)
      · cases hpacket'
    · cases hpacket

/-- The packets of a session are on the clock and in sequence just where the frames that left the
    clock as it was, in front of a packet that is sent, have no samples together, and no frame
    between two packets was given a sequence number and refused. -/
theorem send_timeline_iff (b : AudioSender) (t : RtpTimeline) (calls : List AudioCall) :
    OnClock b t calls ∧ InSequence b t calls ↔
      (∀ before c, before ++ [c] <+: calls → c.sent b = true →
        total (·.stalledSamples b) before = 0) ∧
      ∀ before c between c', before ++ c :: between ++ [c'] <+: calls →
        c.sent b = true → c'.sent b = true → (∀ d ∈ between, d.sent b = false) →
        UInt16.ofNat (between.countP (·.refused b)) = 0 := by
  rw [onClock_iff, inSequence_iff]

namespace OpenProposal

/-- A frame of 20 ms at 8 kHz. -/
def frame : AudioCall where
  pcm := List.replicate 320 0
  txFormat := { sampleRate := 8000, frameMs := 20 }
  remoteIp := 0x0A000001
  remotePort := 40000

/-- A frame that comes while the epoch does not change. -/
def frameIn (epoch : UInt32) : AudioCall :=
  { frame with proposalEpoch := epoch, epochEncoded := epoch, epochLocked := epoch }

/-- The first frame comes while a proposal is open, the second when it is closed. -/
def calls : List AudioCall := [frameIn 1, frameIn 2]

/-- The second frame is sent with the timestamp of the start, 160 samples behind it. -/
theorem clock_stands_still :
    (packetAfter {} ⟨7, 1000⟩ [frameIn 1] (frameIn 2)).map rtpTimestamp = some 1000 ∧
      total AudioCall.submittedSamples [frameIn 1] = 160 ∧ ¬OnClock {} ⟨7, 1000⟩ calls := by
  have hsent : (frameIn 2).sent {} = true := by decide +kernel
  have hsamples : total AudioCall.submittedSamples [frameIn 1] = 160 := by decide +kernel
  refine ⟨by decide +kernel, hsamples, fun h => ?_⟩
  have hbehind := h [frameIn 1] (frameIn 2) _ (List.prefix_refl _)
    (by rw [packetAfter_eq, if_pos hsent])
  rw [rtpTimestamp_rtpPacket, hsamples] at hbehind
  exact absurd hbehind (by decide)

end OpenProposal

end EsphomeVoip
