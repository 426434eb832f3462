import EsphomeVoip.Video.JpegSession
import EsphomeVoip.Video.Reassembly

/-! # What a JPEG session makes of a datagram

`Reception` is what is left of a session when the addresses, the slots and the heap are put aside:
the source, the number that is expected and the frame that is put together.  Every event of a
session is one of a few steps of it (`step_refines`). -/

namespace EsphomeVoip

/-- The source that is followed, the number that is expected, and the frame under construction. -/
structure Reception where
  source : Option UInt32
  expected : Option UInt16
  damaged : Bool
  depacketizer : RtpJpegDepacketizer
  slot : ByteSpan
  handedOver : List EncodedVideoAccessUnit

/-- A packet of the negotiated payload type, as it is heard. -/
structure HeardPacket where
  ssrc : UInt32
  sequence : UInt16
  payload : ByteSpan
  marker : Bool
  timestamp : UInt32

/-- What takes a number at the receiver. -/
inductive Heard where
  | media (p : HeardPacket)
  | keepalive (ssrc : UInt32) (sequence : UInt16)

namespace Reception

/-- Another source: the frame and the number are forgotten. -/
def follow (ssrc : UInt32) (r : Reception) : Reception :=
  if r.source.any (· != ssrc) then
    { r with
      expected := none
      damaged := false
      depacketizer := r.depacketizer.reset.resetSession }
  else r

/-- The number is not the one that is expected. -/
def gap (sequence : UInt16) (r : Reception) : Bool := r.expected.any (· != sequence)

/-- What is left when a packet has been pushed. -/
def takeUp (p : HeardPacket) (pushed : RtpJpegDepacketizer.Pushed) (damaged : Bool)
    (units : List EncodedVideoAccessUnit) (r : Reception) : Reception :=
  { r with
    expected := some (p.sequence + 1)
    damaged := damaged
    depacketizer := pushed.depacketizer
    slot := pushed.output
    handedOver := r.handedOver ++ units }

/-- What a completed frame is handed over as. -/
def completedUnit (p : HeardPacket) (pushed : RtpJpegDepacketizer.Pushed) :
    EncodedVideoAccessUnit where
  data := pushed.output.take pushed.outputSize
  timestamp90khz := p.timestamp
  keyFrame := true

/-- A payload that is accepted.  One that begins a frame may find any tables and no damage; one
    that does not finds what there is. -/
inductive TakesUp (r : Reception) (p : HeardPacket) : Reception → Prop where
  | goOn (d : RtpJpegDepacketizer) (damaged : Bool)
      (hlater : JpegSession.beginsFrame p.payload = false →
        d = r.depacketizer ∧ damaged = (r.damaged || r.gap p.sequence))
      (hresult : (d.push p.payload p.marker p.timestamp r.slot).result = .incomplete) :
      TakesUp r p (r.takeUp p (d.push p.payload p.marker p.timestamp r.slot) damaged [])
  | complete (d : RtpJpegDepacketizer) (damaged : Bool) (units : List EncodedVideoAccessUnit)
      (hlater : JpegSession.beginsFrame p.payload = false →
        d = r.depacketizer ∧ damaged = (r.damaged || r.gap p.sequence))
      (hresult : (d.push p.payload p.marker p.timestamp r.slot).result = .complete)
      (hunits : units = [] ∨ damaged = false ∧
        units = [completedUnit p (d.push p.payload p.marker p.timestamp r.slot)]) :
      TakesUp r p (r.takeUp p (d.push p.payload p.marker p.timestamp r.slot) false units)

/-- **The steps of a reception.** -/
inductive Step (r : Reception) : Option Heard → Reception → Prop where
  | stay : Step r none r
  | giveUp (r' : Reception) (hsource : r'.source = r.source)
      (hexpected : r'.expected = r.expected ∨ r'.expected = none)
      (hidle : r'.depacketizer.active = false) (hover : r'.handedOver = r.handedOver) :
      Step r none r'
  | keepalive (ssrc : UInt32) (sequence : UInt16) (hsource : r.source = some ssrc)
      (hexpected : r.expected = some sequence) :
      Step r (some (.keepalive ssrc sequence)) { r with expected := some (sequence + 1) }
  | media (p : HeardPacket) (r' : Reception) (htakes : TakesUp (r.follow p.ssrc) p r') :
      Step r (some (.media p)) { r' with source := some p.ssrc }

/-- Following another source leaves no frame. -/
theorem follow_cases (ssrc : UInt32) (r : Reception) :
    (r.follow ssrc).source = r.source ∧ (r.follow ssrc).handedOver = r.handedOver ∧
      ((r.follow ssrc).expected = r.expected ∨ (r.follow ssrc).expected = none) ∧
      (r.follow ssrc = r ∨ (r.follow ssrc).depacketizer.active = false) := by
  rw [follow]
  split
  · exact ⟨rfl, rfl, .inr rfl, .inr rfl⟩
  · exact ⟨rfl, rfl, .inl rfl, .inl rfl⟩

end Reception

namespace JpegSession

open VideoRtpSession (Datagram)

/-- The reception of a session. -/
def reception (s : JpegSession) : Reception where
  source := if s.remoteSsrcLatched then some s.remoteSsrc else none
  expected := if s.sequenceValid then some s.expectedSequence else none
  damaged := s.reassemblyDamaged
  depacketizer := s.jpegDepacketizer
  slot := s.slot
  handedOver := s.handedOver

/-- A packet that `handle_rtp_packet_` looks at. -/
def heard (packet payload : ByteSpan) : HeardPacket where
  ssrc := rtpSsrc packet
  sequence := rtpSequence packet
  payload := payload
  marker := rtpMarker packet
  timestamp := rtpTimestamp packet

/-! ## A payload -/

/-- What a payload that is accepted leaves. -/
inductive Accepted (s : JpegSession) (timestamp : UInt32) (damaged : Bool)
    (pushed : RtpJpegDepacketizer.Pushed) : JpegSession → Prop where
  | goesOn (hresult : pushed.result = .incomplete) :
      Accepted s timestamp damaged pushed
        { s with
          jpegDepacketizer := pushed.depacketizer
          slot := pushed.output
          reassemblyDamaged := damaged }
  | completes (units : List EncodedVideoAccessUnit) (hresult : pushed.result = .complete)
      (hunits : units = [] ∨ damaged = false ∧ units =
        [{ data := pushed.output.take pushed.outputSize, timestamp90khz := timestamp,
           keyFrame := true }]) :
      Accepted s timestamp damaged pushed
        { s with
          jpegDepacketizer := pushed.depacketizer
          slot := pushed.output
          reassemblyDamaged := false
          handedOver := s.handedOver ++ units }

/-- What the source and the numbers are, and what has been handed over, is the same. -/
structure Keeps (s s' : JpegSession) : Prop where
  source : s'.reception.source = s.reception.source
  expected : s'.reception.expected = s.reception.expected
  handedOver : s'.handedOver = s.handedOver

theorem finishJpegPayload_cases (timestamp : UInt32) (pushed : RtpJpegDepacketizer.Pushed)
    (s : JpegSession) :
    (∃ s', s.finishJpegPayload timestamp pushed = (false, s') ∧ Keeps s s') ∨
      ∃ s', s.finishJpegPayload timestamp pushed = (true, s') ∧
        Accepted s timestamp s.reassemblyDamaged pushed s' := by
  rw [finishJpegPayload]
  cases hresult : pushed.result with
  | dropped => exact .inl ⟨_, rfl, rfl, rfl, rfl⟩
  | incomplete => exact .inr ⟨_, rfl, .goesOn hresult⟩
  | complete =>
    right
    dsimp only
    split
    · refine ⟨_, rfl, ?_⟩
      have h : Accepted s timestamp s.reassemblyDamaged pushed _ :=
        .completes [] hresult (.inl rfl)
      rw [List.append_nil] at h
      exact h
    · rename_i hhands
      simp only [not_or, Bool.not_eq_true] at hhands
      exact ⟨_, rfl, .completes _ hresult (.inr ⟨hhands.1, rfl⟩)⟩

theorem ensureJpegQuantizationCache_cases (malloc : Option QuantizationCache) (s : JpegSession) :
    (∃ s', s.ensureJpegQuantizationCache malloc = (false, s') ∧ Keeps s s') ∨
      ∃ d, s.ensureJpegQuantizationCache malloc = (true, { s with jpegDepacketizer := d }) := by
  unfold ensureJpegQuantizationCache
  split
  · exact .inr ⟨_, rfl⟩
  · split
    · exact .inl ⟨_, rfl, rfl, rfl, rfl⟩
    · cases malloc with
      | none => exact .inl ⟨_, rfl, rfl, rfl, rfl⟩
      | some storage => exact .inr ⟨_, rfl⟩

theorem takeJpegPayload_cases (payload : ByteSpan) (marker : Bool) (timestamp : UInt32)
    (s : JpegSession) :
    (∃ s', s.takeJpegPayload payload marker timestamp = (false, s') ∧ Keeps s s') ∨
      ∃ s' damaged, s.takeJpegPayload payload marker timestamp = (true, s') ∧
        (beginsFrame payload = false → damaged = s.reassemblyDamaged) ∧
        Accepted s timestamp damaged (s.jpegDepacketizer.push payload marker timestamp s.slot)
          s' := by
  rw [takeJpegPayload]
  obtain ⟨damaged, hdamaged, heq⟩ : ∃ damaged,
      (beginsFrame payload = false → damaged = s.reassemblyDamaged) ∧
        (if 4 ≤ payload.length ∧ beginsFrame payload = true then s.setDamaged false else s) =
          s.setDamaged damaged := by
    split
    · rename_i hbegins
      exact ⟨false, fun h => absurd (hbegins.2.symm.trans h) (by decide), rfl⟩
    · exact ⟨s.reassemblyDamaged, fun _ => rfl, rfl⟩
  rw [heq]
  rcases finishJpegPayload_cases timestamp (s.jpegDepacketizer.push payload marker timestamp s.slot)
    (s.setDamaged damaged) with ⟨s', hfinish, hkeeps⟩ | ⟨s', hfinish, haccepted⟩
  · exact .inl ⟨s', hfinish, hkeeps.source, hkeeps.expected, hkeeps.handedOver⟩
  · refine .inr ⟨s', damaged, hfinish, hdamaged, ?_⟩
    cases haccepted with
    | goesOn hresult => exact .goesOn hresult
    | completes units hresult hunits => exact .completes units hresult hunits

/-- The two ways in which `handle_jpeg_payload_` ends. -/
theorem handleJpegPayload_cases (malloc : Option QuantizationCache) (payload : ByteSpan)
    (marker : Bool) (timestamp : UInt32) (s : JpegSession) :
    (∃ s', s.handleJpegPayload malloc payload marker timestamp = (false, s') ∧ Keeps s s') ∨
      ∃ s' d damaged, s.handleJpegPayload malloc payload marker timestamp = (true, s') ∧
        (beginsFrame payload = false → d = s.jpegDepacketizer ∧ damaged = s.reassemblyDamaged) ∧
        Accepted s timestamp damaged (d.push payload marker timestamp s.slot) s' := by
  -- once the tables are there, the payload is pushed
  have htake : ∀ d, (beginsFrame payload = false → d = s.jpegDepacketizer) →
      let s₁ : JpegSession := { s with jpegDepacketizer := d }
      (∃ s', s₁.takeJpegPayload payload marker timestamp = (false, s') ∧ Keeps s s') ∨
      ∃ s' d damaged, s₁.takeJpegPayload payload marker timestamp = (true, s') ∧
        (beginsFrame payload = false → d = s.jpegDepacketizer ∧ damaged = s.reassemblyDamaged) ∧
        Accepted s timestamp damaged (d.push payload marker timestamp s.slot) s' := by
    intro d hd s₁
    rcases takeJpegPayload_cases payload marker timestamp s₁ with
      ⟨s', heq, hkeeps⟩ | ⟨s', damaged, heq, hdamaged, haccepted⟩
    · exact .inl ⟨s', heq, hkeeps.source, hkeeps.expected, hkeeps.handedOver⟩
    · refine .inr ⟨s', d, damaged, heq, fun h => ⟨hd h, hdamaged h⟩, ?_⟩
      cases haccepted with
      | goesOn hresult => exact .goesOn hresult
      | completes units hresult hunits => exact .completes units hresult hunits
  rw [handleJpegPayload]
  by_cases hkept : 8 ≤ payload.length ∧ beginsFrame payload = true ∧ keepsTables payload = true
  · rcases ensureJpegQuantizationCache_cases malloc s with ⟨s', heq, hkeeps⟩ | ⟨d, heq⟩
    · simp only [if_pos hkept, heq]
      exact .inl ⟨_, rfl, hkeeps.source, hkeeps.expected, hkeeps.handedOver⟩
    · simp only [if_pos hkept, heq]
      exact htake d fun h => absurd (hkept.2.1.symm.trans h) (by decide)
  · simp only [if_neg hkept]
    exact htake s.jpegDepacketizer fun _ => rfl

/-! ## A packet -/

theorem acquireReassemblySlot_base (s : VideoRtpSession) :
    ∃ slots slot, s.acquireReassemblySlot.2 =
      { s with receiveAccessUnits := slots, reassemblySlot := slot } :=
  VideoRtpSession.acquireReassemblySlot_eq s

theorem noteGap_eq (sequence : UInt16) (s : JpegSession) :
    s.noteGap sequence =
      s.setDamaged (s.reassemblyDamaged || s.reception.gap sequence) := by
  have hgap : s.reception.gap sequence =
      (s.sequenceValid && (s.expectedSequence != sequence)) := by
    rw [Reception.gap, reception]
    cases s.sequenceValid <;> rfl
  rw [noteGap, hgap]
  split
  · rename_i h
    rw [h.1, bne_iff_ne.mpr h.2.symm, Bool.true_and, Bool.or_true]
  · rename_i h
    have hsame : (s.sequenceValid && (s.expectedSequence != sequence)) = false := by
      cases hvalid : s.sequenceValid with
      | false => rfl
      | true =>
        rw [hvalid] at h
        simp only [true_and, ne_eq, Decidable.not_not] at h
        rw [h, bne_self_eq_false, Bool.and_false]
    rw [hsame, Bool.or_false]
    rfl

/-- A payload that is accepted is taken up. -/
theorem Accepted.takesUp {s s' : JpegSession} {packet payload : ByteSpan}
    {d : RtpJpegDepacketizer} {damaged : Bool}
    (hlater : beginsFrame payload = false →
      d = s.jpegDepacketizer ∧ damaged =
        (s.reassemblyDamaged || s.reception.gap (rtpSequence packet)))
    (h : Accepted (s.noteGap (rtpSequence packet)) (rtpTimestamp packet) damaged
      (d.push payload (rtpMarker packet) (rtpTimestamp packet) s.slot) s') :
    s'.remoteSsrcLatched = s.remoteSsrcLatched ∧ s'.remoteSsrc = s.remoteSsrc ∧
      s.reception.TakesUp (heard packet payload) ({ s' with
        expectedSequence := rtpSequence packet + 1, sequenceValid := true } :
          JpegSession).reception := by
  rw [noteGap_eq] at h
  cases h with
  | goesOn hresult =>
    refine ⟨rfl, rfl, ?_⟩
    have htakes := Reception.TakesUp.goOn (r := s.reception) (p := heard packet payload) d damaged
      hlater hresult
    rw [Reception.takeUp, List.append_nil] at htakes
    exact htakes
  | completes units hresult hunits =>
    exact ⟨rfl, rfl, .complete d damaged units hlater hresult hunits⟩

/-- The two ways in which `handle_rtp_packet_` ends. -/
theorem handleRtpPacket_cases (malloc : Option QuantizationCache) (packet : ByteSpan)
    (s : JpegSession) :
    (∃ s', s.handleRtpPacket malloc packet = (false, s') ∧ Keeps s s' ∧
        (s'.reception = s.reception ∨ s'.jpegDepacketizer.active = false)) ∨
      ∃ s' payload, s.handleRtpPacket malloc packet = (true, s') ∧
        s.receiveEnabled = true ∧ rtpPayload packet = some payload ∧
        s'.remoteSsrcLatched = s.remoteSsrcLatched ∧ s'.remoteSsrc = s.remoteSsrc ∧
        s.reception.TakesUp (heard packet payload) s'.reception := by
  have hsame : ∀ s', s'.reception = s.reception → Keeps s s' := fun s' h =>
    ⟨congrArg Reception.source h, congrArg Reception.expected h, congrArg Reception.handedOver h⟩
  rw [handleRtpPacket]
  split
  · exact .inl ⟨s, rfl, hsame s rfl, .inl rfl⟩
  · rename_i hgood
    rw [not_or, Bool.not_eq_false] at hgood
    split
    · exact .inl ⟨s, rfl, hsame s rfl, .inl rfl⟩
    · rename_i payload hpayload
      split
      · exact .inl ⟨s, rfl, hsame s rfl, .inl rfl⟩
      · obtain ⟨slots, slot, hacquire⟩ := acquireReassemblySlot_base s.toVideoRtpSession
        rcases hr : s.acquireReassemblySlot with ⟨ok, base⟩
        rw [hr] at hacquire
        dsimp only at hacquire
        subst hacquire
        cases ok with
        | false => exact .inl ⟨_, rfl, hsame _ rfl, .inl rfl⟩
        | true =>
          -- the slot changes nothing that the packet meets
          dsimp only
          generalize hslot : ({ s with receiveAccessUnits := slots, reassemblySlot := slot } :
            JpegSession) = s₁
          have hreception : s₁.reception = s.reception := by
            rw [← hslot]
            rfl
          have hbase : s₁.remoteSsrcLatched = s.remoteSsrcLatched ∧
              s₁.remoteSsrc = s.remoteSsrc := by
            rw [← hslot]
            exact ⟨rfl, rfl⟩
          have hkeeps : Keeps s (s₁.noteGap (rtpSequence packet)) := by
            rw [noteGap_eq]
            have hsame₁ := hsame s₁ hreception
            exact ⟨hsame₁.source, hsame₁.expected, hsame₁.handedOver⟩
          have hgap := noteGap_eq (rtpSequence packet) s₁
          rcases handleJpegPayload_cases malloc payload (rtpMarker packet) (rtpTimestamp packet)
            (s₁.noteGap (rtpSequence packet)) with
            ⟨s', heq, hkept⟩ | ⟨s', d, damaged, heq, hlater, haccepted⟩
          · rw [heq]
            left
            refine ⟨_, rfl, ⟨?_, ?_, ?_⟩, .inr rfl⟩
            · exact hkept.source.trans hkeeps.source
            · exact hkept.expected.trans hkeeps.expected
            · exact hkept.handedOver.trans hkeeps.handedOver
          · rw [heq]
            right
            have hslot' : (s₁.noteGap (rtpSequence packet)).slot = s₁.slot := by
              rw [hgap]
              rfl
            have hlater' : beginsFrame payload = false → d = s₁.jpegDepacketizer ∧
                damaged = (s₁.reassemblyDamaged || s₁.reception.gap (rtpSequence packet)) := by
              rw [hgap] at hlater
              exact hlater
            rw [hslot'] at haccepted
            obtain ⟨hlatched, hssrc, htakes⟩ := haccepted.takesUp hlater'
            rw [hreception] at htakes
            exact ⟨_, payload, rfl, hgood.1, hpayload, hlatched.trans hbase.1,
              hssrc.trans hbase.2, htakes⟩

/-! ## A datagram -/

theorem reception_followSource (packet : ByteSpan) (s : JpegSession) :
    (s.followSource packet).reception = s.reception.follow (rtpSsrc packet) := by
  have hchanges : s.sourceChanges packet = s.reception.source.any (· != rtpSsrc packet) := by
    rw [VideoRtpSession.sourceChanges, reception]
    cases s.remoteSsrcLatched with
    | false => rfl
    | true => exact bne_comm
  rw [followSource, Reception.follow, ← hchanges]
  split <;> rfl

/-- Writing down the source of a packet that has been accepted. -/
theorem reception_latch {s s' : JpegSession} (packet : ByteSpan) (port : UInt16)
    (hlatched : s'.remoteSsrcLatched = s.remoteSsrcLatched) (hssrc : s'.remoteSsrc = s.remoteSsrc) :
    ({ (if s.remoteSsrcLatched = false ∨ s.sourceChanges packet = true then
        { s' with remoteSsrc := rtpSsrc packet, remoteSsrcLatched := true } else s') with
      latchedRemoteRtpPort := port } : JpegSession).reception =
      { s'.reception with source := some (rtpSsrc packet) } := by
  split
  · rfl
  · rename_i hsame
    rw [not_or, Bool.not_eq_false, Bool.not_eq_true, VideoRtpSession.sourceChanges] at hsame
    have heq : rtpSsrc packet = s'.remoteSsrc := by
      rw [hsame.1, Bool.true_and, bne_eq_false_iff_eq] at hsame
      rw [hsame.2, hssrc]
    have hsource : s'.reception.source = some (rtpSsrc packet) := by
      rw [reception, hlatched, hsame.1, heq]
      rfl
    rw [← hsource]
    rfl

/-- A datagram of the negotiated payload type. -/
theorem receiveMedia_step (malloc : Option QuantizationCache) (d : Datagram) (packet : ByteSpan)
    (s : JpegSession) :
    ((s.receiveMedia malloc d packet).1 = false ∧
        s.reception.Step none (s.receiveMedia malloc d packet).2.reception) ∨
      (s.receiveMedia malloc d packet).1 = true ∧ ∃ payload, rtpPayload packet = some payload ∧
        s.reception.Step (some (.media (heard packet payload)))
          (s.receiveMedia malloc d packet).2.reception := by
  have hfollow := reception_followSource packet s
  obtain ⟨hsource, hover, hexpected, hidle⟩ := s.reception.follow_cases (rtpSsrc packet)
  rw [← hfollow] at hsource hover hexpected hidle
  rw [receiveMedia]
  split
  · exact .inl ⟨rfl, .stay⟩
  · rcases handleRtpPacket_cases malloc packet (s.followSource packet) with
      ⟨s', heq, hkeeps, hsame⟩ | ⟨s', payload, heq, -, hpayload, hlatched, hssrc, htakes⟩
    · rw [heq]
      refine .inl ⟨rfl, ?_⟩
      -- A packet that is refused may give up the frame, and nothing else.
      have hgiveUp : s'.jpegDepacketizer.active = false → s.reception.Step none s'.reception := by
        intro h
        refine .giveUp _ (hkeeps.source.trans hsource) ?_ h (hkeeps.handedOver.trans hover)
        rw [hkeeps.expected]
        exact hexpected
      rcases hsame with hsame | hsame
      · rcases hidle with hidle | hidle
        · dsimp only
          rw [hsame, hidle]
          exact .stay
        · exact hgiveUp ((congrArg (·.depacketizer.active) hsame).trans hidle)
      · exact hgiveUp hsame
    · rw [heq]
      refine .inr ⟨rfl, payload, hpayload, ?_⟩
      -- One that is taken latches its source.
      have hbase : (s.followSource packet).remoteSsrcLatched = s.remoteSsrcLatched ∧
          (s.followSource packet).remoteSsrc = s.remoteSsrc := by
        rw [followSource]
        split <;> exact ⟨rfl, rfl⟩
      rw [hfollow] at htakes
      have hstep := Reception.Step.media (r := s.reception) (heard packet payload) s'.reception
        htakes
      have hlatch := reception_latch packet d.sourcePort (hlatched.trans hbase.1)
        (hssrc.trans hbase.2)
      exact hlatch ▸ hstep

/-- A datagram of another payload type. -/
theorem receiveKeepalive_step (packet : ByteSpan) (port : UInt16) (s : JpegSession) :
    ((s.receiveKeepalive packet port).1 = false ∧ (s.receiveKeepalive packet port).2 = s) ∨
      (s.receiveKeepalive packet port).1 = true ∧ rtpPayload packet = some [] ∧
        rtpSsrc packet = s.remoteSsrc ∧ port = s.latchedRemoteRtpPort ∧
        ¬rtpPayloadType packet < 96 ∧ rtpMarker packet ≠ true ∧
        rtpSequence packet = s.expectedSequence ∧
        s.reception.Step (some (.keepalive (rtpSsrc packet) (rtpSequence packet)))
          (s.receiveKeepalive packet port).2.reception := by
  rw [receiveKeepalive, VideoRtpSession.handleRtpKeepalive]
  dsimp only
  split
  · exact .inl ⟨bne_self_eq_false _, rfl⟩
  · rename_i hsource
    simp only [not_or, Decidable.not_not, Bool.not_eq_false] at hsource
    obtain ⟨hdynamic, -, hmarker, hlatched, hssrc, hport⟩ := hsource
    split
    · exact .inl ⟨bne_self_eq_false _, rfl⟩
    · rename_i hvalid
      rw [not_or, Decidable.not_not, Bool.not_eq_false] at hvalid
      split
      · exact .inl ⟨bne_self_eq_false _, rfl⟩
      · rename_i hseq
        rw [Decidable.not_not] at hseq
        refine .inr ⟨?_, hvalid.1, hssrc, hport, hdynamic, hmarker, hseq, ?_⟩
        · rw [hseq]
          simp
        · have hstep := Reception.Step.keepalive (r := s.reception) (rtpSsrc packet)
            (rtpSequence packet) (by rw [reception, hlatched, hssrc]; rfl)
            (by rw [reception, hvalid.2, hseq]; rfl)
          have heq : ({ s with expectedSequence := rtpSequence packet + 1 } :
              JpegSession).reception =
                { s.reception with expected := some (rtpSequence packet + 1) } := by
            rw [reception, reception, hvalid.2]
            rfl
          exact heq ▸ hstep

/-- **One datagram** is a step of the reception. -/
theorem receive_step (malloc : Option QuantizationCache) (d : Datagram) (s : JpegSession) :
    let packet := d.bytes.take kMaxRtpPacketBytes
    ((s.receive malloc d).1 = false ∧ s.reception.Step none (s.receive malloc d).2.reception) ∨
      (s.receive malloc d).1 = true ∧ d.sourceIp = s.remoteIpV4 ∧
        ((rtpPayloadType packet ≠ s.payloadType ∧ rtpPayload packet = some [] ∧
            rtpSsrc packet = s.remoteSsrc ∧ d.sourcePort = s.latchedRemoteRtpPort ∧
            ¬rtpPayloadType packet < 96 ∧ rtpMarker packet ≠ true ∧
            rtpSequence packet = s.expectedSequence ∧
            s.reception.Step (some (.keepalive (rtpSsrc packet) (rtpSequence packet)))
              (s.receive malloc d).2.reception) ∨
          rtpPayloadType packet = s.payloadType ∧
            ¬(s.sourceChanges packet = true ∧ d.sourcePort ≠ s.latchedRemoteRtpPort) ∧
            ∃ payload, rtpPayload packet = some payload ∧
              s.reception.Step (some (.media (heard packet payload)))
                (s.receive malloc d).2.reception) := by
  intro packet
  rw [receive]
  simp only [show d.bytes.take kMaxRtpPacketBytes = packet from rfl]
  split
  · exact .inl ⟨rfl, .stay⟩
  · split
    · exact .inl ⟨rfl, .stay⟩
    · rename_i hip
      rw [Decidable.not_not] at hip
      split
      · -- another payload type: a keepalive
        rename_i hpt
        rcases receiveKeepalive_step packet d.sourcePort s with
          ⟨hfalse, hsame⟩ | ⟨htrue, hpayload, hssrc, hport, hdynamic, hmarker, hseq, hstep⟩
        · rw [hsame]
          exact .inl ⟨hfalse, .stay⟩
        · exact .inr ⟨htrue, hip, .inl ⟨hpt, hpayload, hssrc, hport, hdynamic, hmarker, hseq,
            hstep⟩⟩
      · -- the payload type of the session
        rename_i hpt
        rw [Decidable.not_not] at hpt
        rcases receiveMedia_step malloc d packet s with h | ⟨htrue, payload, hpayload, hstep⟩
        · exact .inl h
        · refine .inr ⟨htrue, hip, .inr ⟨hpt, ?_, payload, hpayload, hstep⟩⟩
          intro hport
          rw [receiveMedia, if_pos hport] at htrue
          cases htrue

/-- The events that are no datagrams. -/
theorem takeReset_step (s : JpegSession) : s.reception.Step none s.takeReset.reception := by
  rw [takeReset]
  split
  · exact .giveUp _ rfl (.inr rfl) rfl rfl
  · exact .stay

end JpegSession

end EsphomeVoip
