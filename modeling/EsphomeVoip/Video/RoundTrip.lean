import EsphomeVoip.Video.Packetizer
import EsphomeVoip.Video.Reassembly

/-! # Packets in order are put together again

A receiver that gets the packets of an access unit in order, and has room for it, hands over what
was packetized. -/

namespace EsphomeVoip

/-! ## Payloads that continue a byte stream -/

/-- `p` may come next: no NAL unit is open unless `p` is a further fragment of it. -/
inductive Follows : Assembly → ByteSpan → Prop where
  | single (bytes : ByteSpan) (n : NalUnit) : Follows ⟨bytes, none⟩ n.bytes
  | first (bytes : ByteSpan) (n : NalUnit) (rest : ByteSpan) :
      Follows ⟨bytes, none⟩ (VideoRtpSession.fuPrefix n.bytes true false ++ rest)
  | later (bytes : ByteSpan) (n : NalUnit) (final : Bool) (rest : ByteSpan) :
      Follows ⟨bytes, some (nalType n.bytes)⟩
        (VideoRtpSession.fuPrefix n.bytes false final ++ rest)

/-- Each of some payloads may come next. -/
def FollowsAll : Assembly → List ByteSpan → Prop
  | _, [] => True
  | a, p :: ps => Follows a p ∧ FollowsAll (a.take p) ps

theorem followsAll_append {a : Assembly} {ps qs : List ByteSpan} (h : FollowsAll a ps)
    (h' : FollowsAll (a.takeAll ps) qs) : FollowsAll a (ps ++ qs) := by
  induction ps generalizing a with
  | nil => exact h'
  | cons p ps ih => exact ⟨h.1, ih h.2 h'⟩

theorem followsAll_middle (bytes : ByteSpan) (n : NalUnit) (middle : List ByteSpan) :
    FollowsAll ⟨bytes, some (nalType n.bytes)⟩
      (middle.map (VideoRtpSession.fuPrefix n.bytes false false ++ ·)) := by
  induction middle generalizing bytes with
  | nil => exact trivial
  | cons m middle ih =>
    refine ⟨.later bytes n false m, ?_⟩
    rw [Assembly.take_middle]
    exact ih (bytes ++ m)

/-- The payloads of a piece that is not an aggregate follow each other. -/
theorem followsAll_piece (bytes : ByteSpan) {p : Piece} (h : p.isAggregate = false) :
    FollowsAll ⟨bytes, none⟩ p.payloads := by
  cases p with
  | single n => exact ⟨.single bytes n, trivial⟩
  | aggregate indicator ns isStap nonempty fits => cases h
  | fragments n first middle final whole =>
    refine ⟨.first bytes n first, ?_⟩
    rw [Assembly.take_first]
    apply followsAll_append (followsAll_middle _ n middle)
    rw [Assembly.takeAll_middle]
    exact ⟨.later _ n true final, trivial⟩

theorem followsAll_pieces (bytes : ByteSpan) {ps : List Piece}
    (h : ∀ p ∈ ps, p.isAggregate = false) :
    FollowsAll ⟨bytes, none⟩ (ps.flatMap Piece.payloads) := by
  induction ps generalizing bytes with
  | nil => exact trivial
  | cons p ps ih =>
    rw [List.flatMap_cons]
    apply followsAll_append (followsAll_piece bytes (h p List.mem_cons_self))
    rw [Assembly.takeAll_piece]
    exact ih _ fun q hq => h q (List.mem_cons_of_mem p hq)

/-- Putting a payload behind makes the byte stream no shorter. -/
theorem Assembly.length_le_take (a : Assembly) (p : ByteSpan) :
    a.bytes.length ≤ (a.take p).bytes.length := by
  rw [take]
  split
  · simp
  · split
    · simp only [List.length_append]
      omega
    · simp only [List.length_append]
      omega

theorem Assembly.length_le_takeAll (a : Assembly) (ps : List ByteSpan) :
    a.bytes.length ≤ (a.takeAll ps).bytes.length := by
  induction ps generalizing a with
  | nil => exact Nat.le_refl _
  | cons p ps ih => exact Nat.le_trans (a.length_le_take p) (ih (a.take p))

open VideoRtpSession

section TakeUp

variable {s : VideoRtpSession} {a : Assembly} {p : ByteSpan}

/-! ## A payload that may come next is taken up -/

theorem fuActive_of_assembly (h : s.assembly = a) : s.fuActive = a.openType.isSome := by
  rw [← h, assembly]
  cases s.fuActive <;> rfl

theorem fuNalType_of_assembly {t : UInt8} (h : s.assembly = a) (ht : a.openType = some t) :
    s.fuActive = true ∧ s.fuNalType = t := by
  subst h
  rw [assembly] at ht
  cases hf : s.fuActive
  · simp [hf] at ht
  · exact ⟨rfl, by simpa [hf] using ht⟩

theorem nalType_pos (n : NalUnit) : (nalType n.bytes == 0) = false := by
  have := n.typePos
  rw [beq_eq_false_iff_ne]
  intro h
  rw [h] at this
  exact absurd this (by decide)

theorem not_lt_nalType (n : NalUnit) : ¬23 < nalType n.bytes := UInt8.not_lt.mpr n.typeLe

/-- It is not refused. -/
theorem Follows.not_refused (h : Follows a p) (ha : s.assembly = a) {timestamp : UInt32}
    (hactive : a.openType.isSome = true →
      s.reassemblyActive = true ∧ s.reassemblyTimestamp = timestamp) :
    p ≠ [] ∧ s.refusesH264Payload p timestamp = false := by
  cases h with
  | single bytes n =>
    refine ⟨n.bytes_ne_nil, ?_⟩
    rw [refusesH264Payload, if_neg (NalUnit.nalType_ne (by decide)),
      if_neg (NalUnit.nalType_ne (by decide)), nalType_pos]
    simpa using n.typeLe
  | first bytes n rest =>
    refine ⟨by simp [fuPrefix], ?_⟩
    have hstart := fuStart_fuPrefix true false rest n.bytes
    have hend := fuEnd_fuPrefix true false rest n.bytes
    have htype := fragmentType_fuPrefix true false rest n.bytes
    rw [fuStart] at hstart
    rw [fuEnd] at hend
    rw [fragmentType] at htype
    rw [refusesH264Payload, nalType_fuPrefix, if_neg (by decide), if_pos rfl]
    simp only [hstart, hend, htype, nalType_pos, not_lt_nalType]
    simp [fuPrefix]
  | later bytes n final rest =>
    refine ⟨by simp [fuPrefix], ?_⟩
    have hstart := fuStart_fuPrefix false final rest n.bytes
    have htype := fragmentType_fuPrefix false final rest n.bytes
    rw [fuStart] at hstart
    rw [fragmentType] at htype
    obtain ⟨hfu, hnal⟩ := fuNalType_of_assembly ha rfl
    obtain ⟨hact, hts⟩ := hactive rfl
    rw [refusesH264Payload, nalType_fuPrefix, if_neg (by decide), if_pos rfl]
    simp only [hstart, htype, nalType_pos, not_lt_nalType, hfu, hnal, hact, hts]
    simp [fuPrefix]

theorem Follows.type (h : Follows a p) : 1 ≤ nalType p ∧ nalType p ≤ 23 ∨ nalType p = 24 ∨
    nalType p = 28 := by
  cases h with
  | single bytes n =>
    have := n.typePos
    have := n.typeLe
    left
    constructor
    · rw [UInt8.le_iff_toNat_le]
      rw [UInt8.lt_iff_toNat_lt] at *
      assumption
    · assumption
  | first bytes n rest => exact .inr (.inr (nalType_fuPrefix true false rest n.bytes))
  | later bytes n final rest => exact .inr (.inr (nalType_fuPrefix false final rest n.bytes))

/-- It does not damage the unit, if there is room for it. -/
theorem Follows.undamaged (h : Follows a p) (ha : s.assembly = a)
    (hs : s.reassemblyDamaged = false) (hfits : (a.take p).bytes.length ≤ kMaxAccessUnitBytes) :
    (s.appendPayload p).reassemblyDamaged = false := by
  have hbytes : s.reassembly = a.bytes := by rw [← ha, assembly]
  have hfu := fuActive_of_assembly ha
  cases h with
  -- A whole unit is appended behind a start code.
  | single bytes n =>
    rw [Assembly.take_single] at hfits
    simp only [longForm_cons, longForm_nil, List.length_append, length_startCode,
      List.length_nil] at hfits
    have htype := (Follows.single bytes n).type
    have hsingle : 1 ≤ nalType n.bytes ∧ nalType n.bytes ≤ 23 := by
      rcases htype with h | h | h
      · exact h
      · exact absurd h (NalUnit.nalType_ne (by decide))
      · exact absurd h (NalUnit.nalType_ne (by decide))
    have happend : s.appendAnnexBNal n.bytes =
        (true, { s with reassembly := s.reassembly ++ startCode 3 ++ n.bytes }) := by
      rw [appendAnnexBNal, if_neg]
      rw [hbytes]
      simp only [n.bytes_ne_nil, false_or]
      omega
    rw [appendPayload, if_pos hsingle]
    simp [hfu, happend, hs]
  -- The first fragment opens the fragmented unit with its rebuilt header.
  | first bytes n rest =>
    rw [Assembly.take_first] at hfits
    simp only [List.length_append, length_startCode, List.length_cons, List.length_nil] at hfits
    have hstart := fuStart_fuPrefix true false rest n.bytes
    have hend := fuEnd_fuPrefix true false rest n.bytes
    rw [fuStart] at hstart
    rw [fuEnd] at hend
    rw [appendPayload, nalType_fuPrefix, if_neg (by decide), if_neg (by decide), if_pos rfl,
      appendFu]
    simp only [hstart, hend, drop_fuPrefix, beginFragments, hfu, Option.isSome_none,
      Bool.false_eq_true, ↓reduceIte]
    rw [if_neg (by rw [hbytes]; simp only; omega), appendFragment]
    simp only [hs, Bool.false_eq_true, ↓reduceIte, List.length_append, length_startCode, hbytes,
      List.length_cons, List.length_nil]
    rw [if_neg (by omega)]
  -- A later one is appended as it is.
  | later bytes n final rest =>
    have hlen : bytes.length + rest.length ≤ kMaxAccessUnitBytes := by
      cases final
      · rw [Assembly.take_middle] at hfits
        simpa using hfits
      · rw [Assembly.take_final] at hfits
        simpa using hfits
    have hstart := fuStart_fuPrefix false final rest n.bytes
    have hend := fuEnd_fuPrefix false final rest n.bytes
    rw [fuStart] at hstart
    rw [fuEnd] at hend
    have hfragment : s.appendFragment rest =
        { s with reassembly := s.reassembly ++ rest } := by
      rw [appendFragment, hs, hbytes, if_neg (by decide), if_neg (by simp only; omega)]
    rw [appendPayload, nalType_fuPrefix, if_neg (by decide), if_neg (by decide), if_pos rfl,
      appendFu]
    simp only [hstart, hend, drop_fuPrefix, Bool.false_eq_true, ↓reduceIte, hfragment]
    cases final
    · exact hs
    · simp only [↓reduceIte, endFragments, hfu, Option.isSome_some]
      exact hs

end TakeUp

/-! ## A receiver that nothing disturbs -/

/-- Where the packets of a stream come from and what they look like. -/
structure Source where
  ip : UInt32
  port : UInt16
  ssrc : UInt32
  payloadType : UInt8

/-- A datagram of a source. -/
def Source.datagram (o : Source) (packet : ByteSpan) : Datagram where
  sourceIp := o.ip
  sourcePort := o.port
  bytes := packet

/-- The session takes media from `o`: it receives, it has a sink, it follows no other source, and
    it fills a slot or there is a free one. -/
structure Listening (o : Source) (r : VideoRtpSession) : Prop where
  receiveEnabled : r.receiveEnabled = true
  hasSink : r.hasSink = true
  remoteIpV4 : r.remoteIpV4 = o.ip
  payloadType : r.payloadType = o.payloadType
  remoteSsrc : r.remoteSsrcLatched = true → r.remoteSsrc = o.ssrc
  slot : r.acquireReassemblySlot.1 = true

/-- The next packet is the one that the session expects, if it expects one. -/
def InStep (sequence : UInt16) (r : VideoRtpSession) : Prop :=
  r.sequenceValid = true → r.expectedSequence = sequence

/-- The session is putting an access unit together and has `a` of it; or it is about to begin. -/
def Holds (timestamp : UInt32) (a : Assembly) (r : VideoRtpSession) : Prop :=
  r.reassemblyActive = true ∧ r.reassemblyTimestamp = timestamp ∧ r.reassemblyDamaged = false ∧
      r.assembly = a ∨
    Idle r ∧ a = .empty

section Receive

variable {o : Source} {r : VideoRtpSession}

/-- Without a gap the unit under construction goes on, or a new one begins undamaged. -/
theorem Holds.openAccessUnit {timestamp : UInt32} {a : Assembly} (h : Holds timestamp a r) :
    let r' := r.openAccessUnit timestamp false
    r'.reassemblyActive = true ∧ r'.reassemblyTimestamp = timestamp ∧
      r'.reassemblyDamaged = false ∧ r'.assembly = a := by
  rcases h with ⟨hactive, hts, hdamaged, ha⟩ | ⟨hidle, rfl⟩
  · dsimp only
    rw [VideoRtpSession.openAccessUnit, if_neg (by simp [hactive, hts])]
    exact ⟨hactive, hts, hdamaged, ha⟩
  · dsimp only
    rw [VideoRtpSession.openAccessUnit, if_pos (.inl hidle.reassemblyActive),
      hidle.reassemblyActive]
    exact ⟨rfl, rfl, rfl, hidle.assembly⟩

/-- A payload that may come next and has room is taken up, behind an undamaged unit. -/
theorem Holds.appendPayload {timestamp : UInt32} {a : Assembly} {p : ByteSpan}
    (h : Holds timestamp a r) (hp : Follows a p)
    (hfits : (a.take p).bytes.length ≤ kMaxAccessUnitBytes) :
    let r' := (r.openAccessUnit timestamp false).appendPayload p
    r.refusesH264Payload p timestamp = false ∧ p ≠ [] ∧ Keeps r r' ∧ Quiet r r' ∧
      r'.reassemblySlot = r.reassemblySlot ∧ r'.reassemblyActive = true ∧
      r'.reassemblyTimestamp = timestamp ∧ r'.reassemblyDamaged = false ∧
      r'.assembly = a.take p := by
  dsimp only
  obtain ⟨hactive, hts, hdamaged, ha⟩ := h.openAccessUnit
  obtain ⟨hkeeps, hquiet, hslot⟩ := keeps_openAccessUnit timestamp false r
  have hundamaged := hp.undamaged ha hdamaged hfits
  have happend := appendPayload_reassembles p (r.openAccessUnit timestamp false) hp.type
  have htake := (happend.2 hundamaged).2
  rw [ha] at htake
  have hrefused : p ≠ [] ∧ r.refusesH264Payload p timestamp = false := by
    rcases h with ⟨hactive, hts, -, ha⟩ | ⟨hidle, rfl⟩
    · exact hp.not_refused ha fun _ => ⟨hactive, hts⟩
    · exact hp.not_refused hidle.assembly fun h => nomatch h
  refine ⟨hrefused.2, hrefused.1, hkeeps.trans happend.keeps, hquiet.trans happend.quiet, ?_, ?_,
    ?_, hundamaged, htake⟩
  · obtain ⟨⟨_, _, _, _, heq⟩, -⟩ := happend
    rw [heq]
    exact hslot
  · obtain ⟨⟨_, _, _, _, heq⟩, -⟩ := happend
    rw [heq]
    exact hactive
  · obtain ⟨⟨_, _, _, _, heq⟩, -⟩ := happend
    rw [heq]
    exact hts

/-- With a slot to fill, a packet of the stream is handed to the depacketizer. -/
theorem handleRtpPacket_rtpPacket (h : Listening o r) (hpt : o.payloadType < 128)
    {payload : ByteSpan} (hne : payload ≠ []) (marker : Bool) {sequence : UInt16}
    (hstep : InStep sequence r) (timestamp : UInt32) :
    r.handleRtpPacket true
        (rtpPacket o.payloadType marker sequence timestamp o.ssrc payload) =
      match r.acquireReassemblySlot.2.handleH264Payload true payload marker timestamp false with
      | (false, r) => (false, r.resetReassembly)
      | (true, r) =>
        (true, { r with expectedSequence := sequence + 1, sequenceValid := true }) := by
  obtain ⟨slots, slot, hacquire⟩ := acquireReassemblySlot_eq r
  have hslot := h.slot
  rw [handleRtpPacket, if_neg (by simp [h.receiveEnabled]), rtpPayload_rtpPacket]
  dsimp only
  rw [if_neg (by simp [rtpPayloadType_rtpPacket _ _ _ _ _ _ hpt, h.payloadType, hne])]
  rcases hr : r.acquireReassemblySlot with ⟨ok, r'⟩
  rw [hr] at hslot hacquire
  subst hslot
  replace hacquire : r' = { r with receiveAccessUnits := slots, reassemblySlot := slot } := hacquire
  have hvalid : r'.sequenceValid = r.sequenceValid := by rw [hacquire]
  have hexpected : r'.expectedSequence = r.expectedSequence := by rw [hacquire]
  have hgap : (r'.sequenceValid && sequence != r'.expectedSequence) = false := by
    rw [hvalid, hexpected]
    cases hv : r.sequenceValid
    · rfl
    · simp [hstep hv]
  rcases hresult : r'.handleH264Payload true payload marker timestamp false with ⟨taken, r₂⟩
  cases taken with
  | false =>
    simp only [rtpSequence_rtpPacket, rtpTimestamp_rtpPacket, rtpMarker_rtpPacket _ _ _ _ _ _ hpt,
      hgap, hresult]
  | true =>
    simp only [rtpSequence_rtpPacket, rtpTimestamp_rtpPacket, rtpMarker_rtpPacket _ _ _ _ _ _ hpt,
      hgap, hresult]

/-- A session that has a slot, and what it then holds and knows. -/
structure Ready (o : Source) (sequence : UInt16) (timestamp : UInt32) (a : Assembly)
    (r : VideoRtpSession) : Prop extends Listening o r where
  inStep : InStep sequence r
  holds : Holds timestamp a r

/-- The rules about addresses let a packet of the source through. -/
theorem receive_rtpPacket (h : Listening o r) (hpt : o.payloadType < 128) {payload : ByteSpan}
    (hlen : payload.length + 12 ≤ kMaxRtpPacketBytes) {marker : Bool} {sequence : UInt16}
    {timestamp : UInt32} {r' : VideoRtpSession}
    (haccepted : r.handleRtpPacket true
      (rtpPacket o.payloadType marker sequence timestamp o.ssrc payload) = (true, r')) :
    r.receive (o.datagram (rtpPacket o.payloadType marker sequence timestamp o.ssrc payload)) =
      { (if r.remoteSsrcLatched = false then
          { r' with remoteSsrc := o.ssrc, remoteSsrcLatched := true } else r') with
        latchedRemoteRtpPort := o.port } := by
  have htake : (rtpPacket o.payloadType marker sequence timestamp o.ssrc payload).take
      kMaxRtpPacketBytes = rtpPacket o.payloadType marker sequence timestamp o.ssrc payload :=
    List.take_of_length_le (by simpa using hlen)
  have hsame : r.sourceChanges
      (rtpPacket o.payloadType marker sequence timestamp o.ssrc payload) = false := by
    rw [sourceChanges, rtpSsrc_rtpPacket]
    cases hl : r.remoteSsrcLatched
    · rfl
    · simp [h.remoteSsrc hl]
  simp only [receive, Source.datagram, htake]
  rw [if_neg (by simp), if_neg (by simp [h.remoteIpV4]),
    if_neg (by simp [rtpPayloadType_rtpPacket _ _ _ _ _ _ hpt, h.payloadType])]
  simp only [receiveMedia, followSource, rtpSsrc_rtpPacket, hsame, haccepted, Bool.false_eq_true,
    false_and, ↓reduceIte, or_false]

theorem acquireReassemblySlot_isSome (h : r.acquireReassemblySlot.1 = true) :
    r.acquireReassemblySlot.2.reassemblySlot.isSome = true := by
  rw [acquireReassemblySlot] at h ⊢
  split
  · assumption
  · split
    · rfl
    · simp_all

/-- What acquiring a slot leaves alone. -/
theorem Ready.acquire {sequence : UInt16} {timestamp : UInt32} {a : Assembly}
    (h : Ready o sequence timestamp a r) :
    Keeps r r.acquireReassemblySlot.2 ∧ Quiet r r.acquireReassemblySlot.2 ∧
      Holds timestamp a r.acquireReassemblySlot.2 ∧
      r.acquireReassemblySlot.2.reassemblySlot.isSome = true := by
  have hsome := acquireReassemblySlot_isSome h.slot
  have hholds := h.holds
  obtain ⟨slots, slot, heq⟩ := acquireReassemblySlot_eq r
  rw [heq] at hsome ⊢
  refine ⟨⟨rfl, rfl, rfl, rfl, rfl, rfl, rfl, rfl, rfl⟩, ⟨rfl, rfl, rfl⟩, ?_, hsome⟩
  rcases hholds with h | ⟨h, ha⟩
  · exact .inl h
  · exact .inr ⟨⟨h.reassemblyActive, h.reassembly, h.fuActive⟩, ha⟩

/-- A packet in the middle of an access unit: the session goes on with it. -/
theorem Ready.receive_middle {sequence : UInt16} {timestamp : UInt32} {a : Assembly}
    {p : ByteSpan} (h : Ready o sequence timestamp a r) (hpt : o.payloadType < 128)
    (hp : Follows a p) (hlen : p.length + 12 ≤ kMaxRtpPacketBytes)
    (hfits : (a.take p).bytes.length ≤ kMaxAccessUnitBytes) :
    let r' := r.receive (o.datagram (rtpPacket o.payloadType false sequence timestamp o.ssrc p))
    Ready o (sequence + 1) timestamp (a.take p) r' ∧ Quiet r r' := by
  dsimp only
  obtain ⟨hkeeps₀, hquiet₀, hholds, hslot⟩ := h.acquire
  obtain ⟨hrefused, hne, hkeeps₁, hquiet₁, hslot₁, hactive, hts, hdamaged, ha⟩ :=
    hholds.appendPayload hp hfits
  have hkeeps := hkeeps₀.trans hkeeps₁
  have hquiet := hquiet₀.trans hquiet₁
  have haccepted := handleRtpPacket_rtpPacket h.toListening hpt hne false h.inStep timestamp
  rw [handleH264Payload, if_neg (by simp [hne, hrefused])] at haccepted
  rw [← hslot₁] at hslot
  generalize (r.acquireReassemblySlot.2.openAccessUnit timestamp false).appendPayload p = r₂ at *
  rw [receive_rtpPacket h.toListening hpt hlen haccepted]
  constructor
  · cases hl : r.remoteSsrcLatched
    · exact ⟨⟨hkeeps.receiveEnabled.trans h.receiveEnabled, hkeeps.hasSink.trans h.hasSink,
        hkeeps.remoteIpV4.trans h.remoteIpV4, hkeeps.payloadType.trans h.payloadType,
        fun _ => rfl, by simp [acquireReassemblySlot, hslot]⟩, fun _ => rfl,
        .inl ⟨hactive, hts, hdamaged, ha⟩⟩
    · exact ⟨⟨hkeeps.receiveEnabled.trans h.receiveEnabled, hkeeps.hasSink.trans h.hasSink,
        hkeeps.remoteIpV4.trans h.remoteIpV4, hkeeps.payloadType.trans h.payloadType,
        fun _ => hkeeps.remoteSsrc.trans (h.remoteSsrc hl),
        by simp [acquireReassemblySlot, hslot]⟩, fun _ => rfl,
        .inl ⟨hactive, hts, hdamaged, ha⟩⟩
  · cases r.remoteSsrcLatched
    · exact ⟨hquiet.handedOver, hquiet.h264Sps, hquiet.h264Pps⟩
    · exact ⟨hquiet.handedOver, hquiet.h264Sps, hquiet.h264Pps⟩

/-- The last packet of an access unit: the session hands it over. -/
theorem Ready.receive_last {sequence : UInt16} {timestamp : UInt32} {a : Assembly}
    {p : ByteSpan} {ns : List NalUnit} (h : Ready o sequence timestamp a r)
    (hpt : o.payloadType < 128) (hp : Follows a p) (hlen : p.length + 12 ≤ kMaxRtpPacketBytes)
    (hwhole : a.take p = ⟨longForm ns, none⟩) (hns : ns ≠ [])
    (hfits : ((r.cachedSets ns).flatMap (startCode 3 ++ ·) ++ longForm ns).length ≤
      kMaxAccessUnitBytes) :
    let r' := r.receive (o.datagram (rtpPacket o.payloadType true sequence timestamp o.ssrc p))
    r'.handedOver = r.handedOver ++
      [{ data := (r.cachedSets ns).flatMap (startCode 3 ++ ·) ++ longForm ns
         timestamp90khz := timestamp
         keyFrame := ns.any (nalType ·.bytes == 5) }] := by
  dsimp only
  -- The packet finds its slot, and is appended.
  obtain ⟨hkeeps₀, hquiet₀, hholds, hslot⟩ := h.acquire
  have hroom : (a.take p).bytes.length ≤ kMaxAccessUnitBytes := by
    rw [hwhole]
    rw [List.length_append] at hfits
    exact Nat.le_trans (Nat.le_add_left _ _) hfits
  obtain ⟨hrefused, hne, hkeeps₁, hquiet₁, hslot₁, hactive, hts, hdamaged, ha⟩ :=
    hholds.appendPayload hp hroom
  have hkeeps := hkeeps₀.trans hkeeps₁
  have hquiet := hquiet₀.trans hquiet₁
  have haccepted := handleRtpPacket_rtpPacket h.toListening hpt hne true h.inStep timestamp
  rw [handleH264Payload, if_neg (by simp [hne, hrefused])] at haccepted
  generalize (r.acquireReassemblySlot.2.openAccessUnit timestamp false).appendPayload p = r₂ at *
  rw [hwhole] at ha
  -- With it the unit is whole, and no fragment is left open,
  have hfu : r₂.fuActive = false := fuActive_of_assembly ha
  have hbytes : r₂.reassembly = longForm ns := congrArg Assembly.bytes ha
  have hcached := cachedSets_quiet hquiet ns
  have hcompleted : r₂.completed timestamp =
      { data := (r.cachedSets ns).flatMap (startCode 3 ++ ·) ++ longForm ns
        timestamp90khz := timestamp
        keyFrame := ns.any (nalType ·.bytes == 5) } := by
    rw [completed, prefixBytes_eq hbytes, keyFrame_eq hbytes, hcached, hbytes]
  have hsome : r₂.reassembly ≠ [] := by
    rw [hbytes]
    obtain ⟨n, ns, rfl⟩ := List.exists_cons_of_ne_nil hns
    simp [startCode]
  -- so that it is handed over behind the cached sets.
  have hover : (r₂.finishAccessUnit true timestamp).handedOver =
      r₂.handedOver ++ [r₂.completed timestamp] :=
    finishAccessUnit_handedOver hdamaged hsome (hkeeps.hasSink.trans h.hasSink)
      (by rw [hcompleted]; exact hfits)
  simp only [hfu, Bool.false_eq_true, ↓reduceIte] at haccepted
  rw [receive_rtpPacket h.toListening hpt hlen haccepted, ← hcompleted, ← hquiet.handedOver,
    ← hover]
  cases r.remoteSsrcLatched <;> rfl

/-- Packets in order, the last of which completes the access unit. -/
theorem Ready.receive_all {snd : VideoRtpSession} (hpt : snd.payloadType < 128)
    (hssrc : o.ssrc = snd.txSsrc) (hpayload : o.payloadType = snd.payloadType)
    {sequence : UInt16} {timestamp : UInt32} {a : Assembly} {ps : List ByteSpan}
    {ns : List NalUnit} (h : Ready o sequence (timestamp + snd.txTimestampOffset) a r)
    (hps : ps ≠ []) (hfollows : FollowsAll a ps)
    (hlen : ∀ p ∈ ps, p.length + 12 ≤ kMaxRtpPacketBytes)
    (hwhole : a.takeAll ps = ⟨longForm ns, none⟩) (hns : ns ≠ [])
    (hfits : ((r.cachedSets ns).flatMap (startCode 3 ++ ·) ++ longForm ns).length ≤
      kMaxAccessUnitBytes) :
    (r.run ((snd.rtpPackets timestamp true sequence ps).map
        fun packet => .datagram (o.datagram packet))).handedOver = r.handedOver ++
      [{ data := (r.cachedSets ns).flatMap (startCode 3 ++ ·) ++ longForm ns
         timestamp90khz := timestamp + snd.txTimestampOffset
         keyFrame := ns.any (nalType ·.bytes == 5) }] := by
  rw [← hpayload] at hpt
  induction ps generalizing a sequence r with
  | nil => exact absurd rfl hps
  | cons p ps ih =>
    rw [rtpPackets, ← hpayload, ← hssrc, List.map_cons, run, EventRun.after_cons]
    have hp := hlen p List.mem_cons_self
    cases ps with
    | nil => exact h.receive_last hpt hfollows.1 hp hwhole hns hfits
    | cons q qs =>
      have hroom : (a.take p).bytes.length ≤ kMaxAccessUnitBytes := by
        have := (a.take p).length_le_takeAll (q :: qs)
        rw [Assembly.takeAll_cons] at hwhole
        rw [hwhole] at this
        rw [List.length_append] at hfits
        exact Nat.le_trans this (Nat.le_trans (Nat.le_add_left _ _) hfits)
      obtain ⟨hready, hquiet⟩ := h.receive_middle hpt hfollows.1 hp hroom
      have hcached := cachedSets_quiet hquiet ns
      have hrest := ih hready (List.cons_ne_nil q qs) hfollows.2
        (fun p hp => hlen p (List.mem_cons_of_mem _ hp)) hwhole (by rw [hcached]; exact hfits)
      rw [hcached, hquiet.handedOver] at hrest
      exact hrest

end Receive

/-! ## The round trip -/

/-- **An access unit survives the wire.**  The sender sends all of it, with the marker on the last
    packet only, and a receiver that gets the packets in order hands over the same NAL units,
    behind the cached parameter sets that a key frame comes without. -/
theorem accessUnit_survives_the_wire {sendto : ByteSpan → Bool} {s r : VideoRtpSession}
    {units : List (Nat × NalUnit)} (ip : UInt32) (port : UInt16) (timestamp : UInt32)
    (keyFrame : Bool) (hsend : CanSend sendto s) (hpt : s.payloadType < 128)
    (hunits : units ≠ []) (hcodes : ∀ u ∈ units, 2 ≤ u.1)
    (hlisten : Listening ⟨ip, port, s.txSsrc, s.payloadType⟩ r) (hidle : Idle r)
    (hstep : InStep s.txSequence r)
    (hfits : ((r.cachedSets (units.map (·.2))).flatMap (startCode 3 ++ ·) ++
      longForm (units.map (·.2))).length ≤ kMaxAccessUnitBytes) :
    let sent := s.sendH264AccessUnit sendto ⟨annexB units, timestamp, keyFrame⟩
    let ns := units.map (·.2)
    sent.ok = true ∧
      sent.packets.map rtpMarker = List.replicate (sent.packets.length - 1) false ++ [true] ∧
      (r.run (sent.packets.map fun packet =>
          .datagram (Source.datagram ⟨ip, port, s.txSsrc, s.payloadType⟩ packet))).handedOver =
        r.handedOver ++
          [{ data := (r.cachedSets ns).flatMap (startCode 3 ++ ·) ++ longForm ns
             timestamp90khz := timestamp + s.txTimestampOffset
             keyFrame := ns.any (nalType ·.bytes == 5) }] ∧
      annexBNals (longForm ns) = units.map (·.2.bytes) := by
  dsimp only
  have hroom := hsend.room
  have hmax := hsend.fits
  have hne : unitPayloads s.maxPayload units ≠ [] := by
    obtain ⟨u, rest, rfl⟩ := List.exists_cons_of_ne_nil hunits
    rw [unitPayloads_cons]
    exact fun h => nalPayloads_ne_nil _ hroom u.2 (List.append_eq_nil_iff.mp h).1
  -- The payloads are pieces of units, and put together they are the units.
  obtain ⟨ps, hplain, hnals, hpayloads⟩ := unitPayloads_pieces hroom units
  rw [sendH264AccessUnit_eq hsend hcodes]
  refine ⟨by simpa using hunits, ?_, ?_, ?_⟩
  · rw [markers_rtpPackets hpt _ _ hne, length_rtpPackets]
  · -- Every packet is received in its turn.
    apply Ready.receive_all hpt rfl rfl (a := .empty) ⟨hlisten, hstep, .inr ⟨hidle, rfl⟩⟩ hne
    · rw [← hpayloads]
      exact followsAll_pieces [] hplain
    · intro p hp
      have := length_of_mem_unitPayloads hroom hp
      omega
    · rw [← hpayloads, ← hnals]
      exact Assembly.takeAll_pieces [] ps
    · simpa using hunits
    · exact hfits
  · rw [annexBNals_longForm, List.map_map]
    rfl

/-- An IDR slice of four bytes. -/
def idrSlice : NalUnit where
  bytes := [0x65, 0x88, 0, 0x84]
  typePos := by decide
  typeLe := by decide
  noStartCode := by decide
  noTrailingZero := by decide

/-- A key frame in two fragments, to a receiver that knows the parameter sets. -/
theorem key_frame_survives_the_wire :
    let s : VideoRtpSession := { payloadType := 96, remoteIpV4 := 0, maxPayload := 3 }
    let r : VideoRtpSession :=
      { payloadType := 96, remoteIpV4 := 7, h264Sps := [0x67, 1], h264Pps := [0x68, 2] }
    let sent := s.sendH264AccessUnit (fun _ => true) ⟨annexB [(2, idrSlice)], 90, true⟩
    (r.run (sent.packets.map fun packet =>
      .datagram (Source.datagram ⟨7, 5004, 0, 96⟩ packet))).handedOver =
        [{ data := [0, 0, 0, 1, 0x67, 1, 0, 0, 0, 1, 0x68, 2, 0, 0, 0, 1, 0x65, 0x88, 0, 0x84]
           timestamp90khz := 90
           keyFrame := true }] := by
  have hsend : CanSend (fun _ => true)
      ({ payloadType := 96, remoteIpV4 := 0, maxPayload := 3 } : VideoRtpSession) :=
    ⟨rfl, rfl, rfl, fun _ => rfl, by decide, by decide⟩
  have hlisten : Listening ⟨7, 5004, 0, 96⟩
      ({ payloadType := 96, remoteIpV4 := 7, h264Sps := [0x67, 1], h264Pps := [0x68, 2] } :
        VideoRtpSession) :=
    ⟨rfl, rfl, rfl, rfl, by decide, rfl⟩
  have hcodes : ∀ u ∈ [(2, idrSlice)], 2 ≤ u.1 := by decide
  have h := (accessUnit_survives_the_wire 7 5004 90 true hsend (by decide) (by decide) hcodes
    hlisten ⟨rfl, rfl, rfl⟩ (by unfold InStep; decide) (by decide)).2.2.1
  exact h.trans (by decide)

/-- The packet buffer bounds the payload too: a NAL unit that `max_payload_` admits and the buffer
    does not is not sent at all. -/
theorem sendH264AccessUnit_tooLong {sendto : ByteSpan → Bool} {s : VideoRtpSession} {n : NalUnit}
    (hmax : n.bytes.length ≤ s.maxPayload) (hlong : kMaxRtpPacketBytes < n.bytes.length + 12)
    (timestamp : UInt32) (keyFrame : Bool) :
    s.sendH264AccessUnit sendto ⟨annexB [(3, n)], timestamp, keyFrame⟩ = ⟨[], false, s⟩ := by
  have hnone : ∀ u ∈ ([] : List (Nat × NalUnit)), 2 ≤ u.1 := fun u hu => nomatch hu
  have hnext : nextAnnexBNal (annexB [(3, n)]) 0 =
      some (n.bytes, 0 + (3 + 1) + n.bytes.length) :=
    nextAnnexBNal_eq (by decide) hnone (annexB_cons (3, n) [])
  have hsend : ∀ last, s.sendNal sendto n.bytes last timestamp = ⟨[], false, s⟩ := by
    intro last
    rw [sendNal, if_pos hmax, sendRtpPayload, if_pos hlong, ite_self]
  rw [sendH264AccessUnit, sendNals, hnext]
  simp only [hsend, Bool.false_eq_true, ↓reduceIte]

/-- A slice of one byte more than a packet has room for. -/
def longSlice : NalUnit where
  bytes := List.replicate 1489 0x41
  typePos := by decide
  typeLe := by decide
  noStartCode := by
    intro h
    have hmem : (0 : UInt8) ∈ List.replicate 1489 (0x41 : UInt8) :=
      h.subset List.mem_cons_self
    exact absurd (List.eq_of_mem_replicate hmem) (by decide)
  noTrailingZero := by
    rw [List.getLast?_replicate]
    decide

theorem length_longSlice : longSlice.bytes.length = 1489 := List.length_replicate

/-- A session with a `max_payload_` of 1489 does not send it. -/
theorem long_slice_is_not_sent :
    let s : VideoRtpSession := { payloadType := 96, remoteIpV4 := 0, maxPayload := 1489 }
    2 < s.maxPayload ∧ (longForm [longSlice]).length ≤ kMaxAccessUnitBytes ∧
      s.sendH264AccessUnit (fun _ => true) ⟨annexB [(3, longSlice)], 90, false⟩ =
        ⟨[], false, s⟩ := by
  refine ⟨by decide, ?_, ?_⟩
  · simp only [longForm_cons, longForm_nil, List.length_append, length_startCode,
      length_longSlice]
    decide
  · apply sendH264AccessUnit_tooLong
    · exact Nat.le_of_eq length_longSlice
    · exact Nat.lt_of_lt_of_eq (by decide) (congrArg (· + 12) length_longSlice.symm)

end EsphomeVoip
