import EsphomeVoip.Video.Reassembly
import EsphomeVoip.Video.SentStream

/-! # Lost, repeated and foreign packets: what one of them does

Each SSRC stands for a sender, and a run brings packets of these senders in any order, any number
of times or not at all, between datagrams that nobody sent.  `Tracked` adds to the session which
packet it has taken last. -/

namespace EsphomeVoip

open VideoRtpSession

/-! ## Runs -/

/-- The session, and the packet behind the one that it has taken last: the SSRC and the place in
    the stream. -/
structure Tracked where
  session : VideoRtpSession
  next : Option (UInt32 × Nat) := none

/-- An event, with the packet that a datagram is, if a sender has sent it. -/
structure Arrival where
  event : VideoRtpSession.Event
  origin : Option (UInt32 × Nat) := none

/-- Whether a datagram takes a sequence number at the receiver. -/
def takes (d : Datagram) (s : VideoRtpSession) : Bool :=
  let packet := d.bytes.take kMaxRtpPacketBytes
  if packet.length < 12 ∨ rtpVersion packet ≠ 2 ∨ d.sourceIp ≠ s.remoteIpV4 then false
  else if rtpPayloadType packet ≠ s.payloadType then
    (s.handleRtpKeepalive packet d.sourcePort (rtpSsrc packet)).expectedSequence !=
      s.expectedSequence
  else if s.sourceChanges packet = true ∧ d.sourcePort ≠ s.latchedRemoteRtpPort then false
  else ((s.followSource packet).handleRtpPacket d.accepts packet).1

/-- One event, and what has been taken. -/
def Tracked.step (a : Arrival) (t : Tracked) : Tracked where
  session := VideoRtpSession.step a.event t.session
  next :=
    match a.event, a.origin with
    | .datagram d, some (ssrc, i) => if takes d t.session then some (ssrc, i + 1) else t.next
    | _, _ => t.next

/-- `d` is the packet `i` of the stream `σ`, which `ssrc` sends. -/
def SentAs (σ : SentStream) (ssrc : UInt32) (i : Nat) (payloadType : UInt8) (d : Datagram) :
    Prop :=
  d.bytes.length ≤ kMaxRtpPacketBytes ∧ rtpSsrc d.bytes = ssrc ∧
    rtpSequence d.bytes = σ.sequence i ∧
    ((∃ p, σ.entries[i]? = some (.media p) ∧ rtpPayloadType d.bytes = payloadType ∧
        rtpPayload d.bytes = p.payload ∧ rtpMarker d.bytes = p.last ∧
        rtpTimestamp d.bytes = p.unit.timestamp) ∨
      σ.entries[i]? = some .keepalive ∧ rtpPayloadType d.bytes ≠ payloadType ∧
        rtpPayload d.bytes = some [])

/-- A payload that no sender may send. -/
def malformed (payload : ByteSpan) : Bool :=
  if nalType payload = 24 then !stapIsValid payload payload.length 1 false
  else if nalType payload = 28 then
    payload.length < 2 || (fuStart payload && fuEnd payload) || fragmentType payload == 0 ||
      23 < fragmentType payload
  else nalType payload == 0 || 23 < nalType payload

/-- A datagram that is no packet of any stream: it comes from elsewhere or it is not valid.  One of
    another payload type must not pass for the keepalive that is due. -/
def Unsent (d : Datagram) (s : VideoRtpSession) : Prop :=
  let packet := d.bytes.take kMaxRtpPacketBytes
  d.sourceIp ≠ s.remoteIpV4 ∨ rtpPayload packet = none ∨
    rtpPayloadType packet = s.payloadType ∧
        (s.sourceChanges packet = true ∧ d.sourcePort ≠ s.latchedRemoteRtpPort ∨
          ∃ payload, rtpPayload packet = some payload ∧
            (payload = [] ∨ malformed payload = true)) ∨
      rtpPayloadType packet ≠ s.payloadType ∧
        (rtpPayload packet ≠ some [] ∨ rtpSsrc packet ≠ s.remoteSsrc ∨
          d.sourcePort ≠ s.latchedRemoteRtpPort ∨ rtpPayloadType packet < 96 ∨
          rtpMarker packet = true ∨ rtpSequence packet ≠ s.expectedSequence)

variable (σ : UInt32 → SentStream)

/-- What may reach the session: packets of the senders, and datagrams that are not valid.  A
    packet whose number is the expected one modulo 65536 is the packet that is expected. -/
def Admissible (a : Arrival) (t : Tracked) : Prop :=
  match a.event, a.origin with
  | .datagram d, some (ssrc, i) =>
    SentAs (σ ssrc) ssrc i t.session.payloadType d ∧
      ∀ n, t.next = some (ssrc, n) → i % 65536 = n % 65536 → i = n
  | .datagram d, none => Unsent d t.session
  | _, _ => True

/-- The session looks at the payload of a packet: it receives, the address rules let the packet
    through, and it has a slot to fill. -/
def Hears (d : Datagram) (s : VideoRtpSession) : Prop :=
  d.sourceIp = s.remoteIpV4 ∧ s.receiveEnabled = true ∧
    ¬(s.sourceChanges d.bytes = true ∧ d.sourcePort ≠ s.latchedRemoteRtpPort) ∧
    (s.followSource d.bytes).acquireReassemblySlot.1 = true

/-- The packet ends an access unit, with the marker bit, and the session looks at it. -/
def Marks (a : Arrival) (t : Tracked) : Prop :=
  ∃ d ssrc i p, a.event = .datagram d ∧ a.origin = some (ssrc, i) ∧
    (σ ssrc).entries[i]? = some (.media p) ∧ p.last = true ∧ Hears d t.session

/-- **The way into the middle of an access unit.**  A packet from inside a unit comes to a session
    that is not putting this unit together, and the session sees no gap before it: it expects
    this very number, or it has forgotten what to expect.  A fragment behind the first one is
    refused there. -/
def OpensInside (a : Arrival) (t : Tracked) : Prop :=
  ∃ d ssrc i p payload, a.event = .datagram d ∧ a.origin = some (ssrc, i) ∧
    (σ ssrc).entries[i]? = some (.media p) ∧ p.place ≠ 0 ∧ p.payload = some payload ∧
    isContinuation payload = false ∧ Hears d t.session ∧
    let s := t.session.followSource d.bytes
    (s.reassemblyActive = false ∨ p.unit.timestamp ≠ s.reassemblyTimestamp) ∧
      (s.sequenceValid = true → s.expectedSequence = rtpSequence d.bytes)

/-! ## What the session hands over -/

/-- A NAL unit of an access unit that one of the senders has sent. -/
def SentNal (n : NalUnit) : Prop := ∃ ssrc, ∃ u ∈ (σ ssrc).units, n ∈ u.nals

/-- An access unit that has been sent, behind parameter sets that have been sent. -/
def Complete (unit : EncodedVideoAccessUnit) : Prop :=
  ∃ ssrc, ∃ u ∈ (σ ssrc).units, ∃ sets : List NalUnit,
    (∀ n ∈ sets, SentNal σ n ∧ (nalType n.bytes = 7 ∨ nalType n.bytes = 8)) ∧
      unit.timestamp90khz = u.timestamp ∧ unit.data = longForm (sets ++ u.nals)

/-- What a cached parameter set is. -/
def Cached (type : UInt8) (set : ByteSpan) : Prop :=
  set = [] ∨ ∃ n : NalUnit, n.bytes = set ∧ nalType n.bytes = type ∧ SentNal σ n

/-- The unit under construction has the packets of `u` up to the place `k`, from the first one on
    or, unless `whole` holds, from the beginning of a later piece on. -/
def PartOf (whole : Bool) (u : SentUnit) (k : Nat) (s : VideoRtpSession) : Prop :=
  ∃ before after taken, u.pieces = before ++ after ∧ (whole = true → before = []) ∧
    u.payloads.take (k + 1) = before.flatMap Piece.payloads ++ taken ∧
    s.assembly = Assembly.takeAll .empty taken ∧ s.reassemblyTimestamp = u.timestamp

/-- The invariant of a run.  With `whole` it says that no unit has been begun in its middle. -/
structure Inv (whole : Bool) (t : Tracked) : Prop where
  idle : t.session.reassemblyActive = false → Idle t.session
  next : t.session.sequenceValid = true → t.session.remoteSsrcLatched = true ∧
    ∃ n, t.next = some (t.session.remoteSsrc, n) ∧
      t.session.expectedSequence = (σ t.session.remoteSsrc).sequence n
  part : t.session.reassemblyActive = true → t.session.reassemblyDamaged = false →
    t.session.sequenceValid = true ∧
      ∃ n u k, t.next = some (t.session.remoteSsrc, n) ∧
        (σ t.session.remoteSsrc).EndsInside n u k ∧ PartOf whole u k t.session
  sps : Cached σ 7 t.session.h264Sps
  pps : Cached σ 8 t.session.h264Pps

variable {σ} {whole : Bool}

/-! ## Parameter sets -/

/-- The sets that go before a unit have been sent. -/
theorem cachedSets_sent {s : VideoRtpSession} (hsps : Cached σ 7 s.h264Sps)
    (hpps : Cached σ 8 s.h264Pps) (ns : List NalUnit) :
    ∃ sets : List NalUnit,
      (∀ n ∈ sets, SentNal σ n ∧ (nalType n.bytes = 7 ∨ nalType n.bytes = 8)) ∧
        (s.cachedSets ns).flatMap (startCode 3 ++ ·) = longForm sets := by
  have hone : ∀ (set : ByteSpan) (type : UInt8) (b : Bool), Cached σ type set →
      type = 7 ∨ type = 8 → ∃ sets : List NalUnit,
        (∀ n ∈ sets, SentNal σ n ∧ (nalType n.bytes = 7 ∨ nalType n.bytes = 8)) ∧
          (if b || set == [] then [] else [set]).flatMap (startCode 3 ++ ·) = longForm sets := by
    intro set type b hset htype
    rcases hset with rfl | ⟨n, rfl, hn, hsent⟩
    · exact ⟨[], by simp, by simp⟩
    · cases b
      · refine ⟨[n], ?_, ?_⟩
        · intro m hm
          rw [List.mem_singleton.mp hm, hn]
          exact ⟨hsent, htype⟩
        · simp [n.bytes_ne_nil]
      · exact ⟨[], by simp, by simp⟩
  rw [cachedSets]
  split
  · obtain ⟨sets, hsets, heq⟩ := hone s.h264Sps 7 (ns.any (nalType ·.bytes == 7)) hsps (.inl rfl)
    obtain ⟨sets', hsets', heq'⟩ :=
      hone s.h264Pps 8 (ns.any (nalType ·.bytes == 8)) hpps (.inr rfl)
    refine ⟨sets ++ sets', ?_, ?_⟩
    · intro n hn
      rcases List.mem_append.mp hn with hn | hn
      · exact hsets n hn
      · exact hsets' n hn
    · rw [List.flatMap_append, heq, heq', longForm_append]
  · exact ⟨[], by simp, rfl⟩

/-- The sets that are kept after a unit have been sent, if the unit is of NAL units that have. -/
theorem parameterSets_cached {s : VideoRtpSession} {ns : List NalUnit}
    (h : s.reassembly = longForm ns) (hns : ∀ n ∈ ns, SentNal σ n) :
    (Cached σ 7 s.h264Sps → Cached σ 7 s.parameterSets.sps) ∧
      (Cached σ 8 s.h264Pps → Cached σ 8 s.parameterSets.pps) := by
  have hscan : annexBNals s.reassembly = ns.map NalUnit.bytes := by
    rw [h, annexBNals_longForm]
  rw [parameterSets, hscan]
  constructor
  · intro hsps
    rcases ParameterSets.foldl_look_sps (ns.map NalUnit.bytes)
      { sps := s.h264Sps, pps := s.h264Pps } with heq | ⟨hmem, htype⟩
    · rw [heq]
      exact hsps
    · obtain ⟨n, hn, heq⟩ := List.mem_map.mp hmem
      exact .inr ⟨n, heq, by rw [heq]; exact htype, hns n hn⟩
  · intro hpps
    rcases ParameterSets.foldl_look_pps (ns.map NalUnit.bytes)
      { sps := s.h264Sps, pps := s.h264Pps } with heq | ⟨hmem, htype⟩
    · rw [heq]
      exact hpps
    · obtain ⟨n, hn, heq⟩ := List.mem_map.mp hmem
      exact .inr ⟨n, heq, by rw [heq]; exact htype, hns n hn⟩

/-- A part that has the last packet of the unit is some of its pieces, completely. -/
theorem PartOf.complete {u : SentUnit} {k : Nat} {s : VideoRtpSession}
    (h : PartOf whole u k s) (hlast : k + 1 = u.payloads.length) :
    ∃ before after, u.pieces = before ++ after ∧ (whole = true → before = []) ∧
      s.assembly = ⟨longForm (after.flatMap Piece.nals), none⟩ := by
  obtain ⟨before, after, taken, hpieces, hwhole, htake, hassembly, -⟩ := h
  refine ⟨before, after, hpieces, hwhole, ?_⟩
  rw [hlast, List.take_length, SentUnit.payloads, hpieces, List.flatMap_append,
    List.append_cancel_left_eq] at htake
  rw [hassembly, ← htake]
  exact Assembly.takeAll_pieces [] after

/-! ## A packet that is accepted -/

section Accepted

variable {s : VideoRtpSession} {next : Option (UInt32 × Nat)} {ssrc : UInt32} {i : Nat}
  {p : SentPacket} {payload : ByteSpan}

/-- **What an accepted packet does to the unit under construction.**  If there is no damage after
    it then it has either begun a unit, where the condition keeps it from doing so in the middle,
    or it is the next packet of the unit. -/
theorem partOf_taken (hinv : Inv σ whole ⟨s, next⟩)
    (hssrc : s.sequenceValid = true → s.remoteSsrc = ssrc)
    (hentry : (σ ssrc).entries[i]? = some (.media p)) (hpayload : p.payload = some payload)
    (hnumber : ∀ n, next = some (ssrc, n) → i % 65536 = n % 65536 → i = n)
    (hinside : whole = true → p.place ≠ 0 → isContinuation payload = false →
      (s.reassemblyActive = false ∨ p.unit.timestamp ≠ s.reassemblyTimestamp) →
      ¬(s.sequenceValid = true → s.expectedSequence = (σ ssrc).sequence i))
    (hrefused : s.refusesH264Payload payload p.unit.timestamp = false) :
    let s' := (s.openAccessUnit p.unit.timestamp
      (s.sequenceValid && (σ ssrc).sequence i != s.expectedSequence)).appendPayload payload
    s'.reassemblyDamaged = false → PartOf whole p.unit p.place s' := by
  intro s' hdamaged
  have hreassembles := appendPayload_reassembles payload (s.openAccessUnit p.unit.timestamp
    (s.sequenceValid && (σ ssrc).sequence i != s.expectedSequence)) (type_of_not_refused hrefused)
  obtain ⟨hopen, htake⟩ := hreassembles.2 hdamaged
  have hts : s'.reassemblyTimestamp = p.unit.timestamp := by
    obtain ⟨_, _, _, _, heq⟩ := hreassembles.1
    show (appendPayload payload _).reassemblyTimestamp = _
    rw [heq]
    exact (openAccessUnit_active _ _ s).2
  have hsucc : p.unit.payloads.take (p.place + 1) = p.unit.payloads.take p.place ++ [payload] := by
    obtain ⟨hlt, hget⟩ := List.getElem?_eq_some_iff.mp hpayload
    rw [List.take_succ_eq_append_getElem hlt, hget]
  -- Without damage there was no gap, and the packet either opens a unit or continues one.
  obtain ⟨hgap, ⟨hopens, hassembly⟩ | ⟨hactive, hsame, hundamaged, hassembly⟩⟩ :=
    openAccessUnit_undamaged hinv.idle hopen
  · -- the packet begins a unit, so it is no continuation
    have hcont := not_continuation hrefused hopens
    have hexpected : s.sequenceValid = true → s.expectedSequence = (σ ssrc).sequence i := by
      intro hvalid
      rw [hvalid, Bool.true_and, bne_eq_false_iff_eq] at hgap
      exact hgap.symm
    rw [hassembly] at htake
    by_cases hplace : p.place = 0
    · refine ⟨[], p.unit.pieces, [payload], rfl, fun _ => rfl, ?_, htake, hts⟩
      rw [hsucc, hplace]
      rfl
    · obtain ⟨before, after, hpieces, hbefore⟩ := boundary_of_not_continuation hpayload hcont
      refine ⟨before, after, [payload], hpieces, ?_, ?_, htake, hts⟩
      · intro hwhole
        exact absurd hexpected (hinside hwhole hplace hcont hopens)
      · rw [hsucc]
        exact congrArg (· ++ [payload]) hbefore
  · -- the packet continues the unit, so it is the one that is expected
    obtain ⟨hvalid, n, u, k, hnext, hends, before, after, taken, hpieces, hwhole, htaken, hpart,
      hts'⟩ := hinv.part hactive hundamaged
    dsimp only at hvalid hnext hends hpart hts'
    obtain ⟨-, m, hm, hexpected⟩ := hinv.next hvalid
    dsimp only at hm hexpected
    rw [hssrc hvalid] at hnext hends hm hexpected
    -- the next packet of the unit and the next number are those of one place
    obtain rfl : n = m := by
      have := hnext.symm.trans hm
      simpa using this
    have hseq : (σ ssrc).sequence i = (σ ssrc).sequence n := by
      rw [← hexpected]
      simpa [hvalid] using hgap
    obtain rfl := hnumber n hnext ((σ ssrc).sequence_inj hseq)
    obtain rfl := hends.next hentry
    refine ⟨before, after, taken ++ [payload], hpieces, hwhole, ?_, ?_, hts⟩
    · rw [hsucc, htaken, List.append_assoc]
    · rw [htake, hassembly, hpart, Assembly.takeAll_append]
      rfl

/-- The session behind an accepted packet. -/
def accepted (ssrc : UInt32) (port : UInt16) (sequence : UInt16) (s : VideoRtpSession) :
    VideoRtpSession :=
  { s with
    expectedSequence := sequence + 1
    sequenceValid := true
    remoteSsrc := ssrc
    remoteSsrcLatched := true
    latchedRemoteRtpPort := port }

/-- What is handed over in a step: nothing, or one unit, which is a whole one unless units may
    have been begun in their middle. -/
def HandsOver (σ : UInt32 → SentStream) (whole : Bool) (s s' : VideoRtpSession) : Prop :=
  s'.handedOver = s.handedOver ∨
    ∃ unit, s'.handedOver = s.handedOver ++ [unit] ∧ (whole = true → Complete σ unit)

/-- Behind a packet in the middle the unit stays under construction. -/
theorem inv_middle (hentry : (σ ssrc).entries[i]? = some (.media p)) (hlast : p.last = false)
    (hactive : s.reassemblyActive = true)
    (hpart : s.reassemblyDamaged = false → PartOf whole p.unit p.place s)
    (hsps : Cached σ 7 s.h264Sps) (hpps : Cached σ 8 s.h264Pps) (port : UInt16) :
    Inv σ whole ⟨accepted ssrc port ((σ ssrc).sequence i) s, some (ssrc, i + 1)⟩ where
  idle h := absurd (hactive.symm.trans h) (by decide)
  next _ := ⟨rfl, i + 1, rfl, (σ ssrc).sequence_succ i⟩
  part _ hdamaged :=
    ⟨rfl, i + 1, p.unit, p.place, rfl, SentStream.endsInside_of_media hentry hlast, hpart hdamaged⟩
  sps := hsps
  pps := hpps

/-- Behind the last packet no unit is under construction. -/
theorem inv_idle (hidle : Idle s) (hsps : Cached σ 7 s.h264Sps) (hpps : Cached σ 8 s.h264Pps)
    (port : UInt16) :
    Inv σ whole ⟨accepted ssrc port ((σ ssrc).sequence i) s, some (ssrc, i + 1)⟩ where
  idle _ := ⟨hidle.reassemblyActive, hidle.reassembly, hidle.fuActive⟩
  next _ := ⟨rfl, i + 1, rfl, (σ ssrc).sequence_succ i⟩
  part h := absurd (h.symm.trans hidle.reassemblyActive) (by decide)
  sps := hsps
  pps := hpps

/-- With the last packet the unit is handed over, if it is undamaged, and it has been sent. -/
theorem inv_last (hentry : (σ ssrc).entries[i]? = some (.media p)) (hlast : p.last = true)
    (hpart : s.reassemblyDamaged = false → PartOf whole p.unit p.place s)
    (hsps : Cached σ 7 s.h264Sps) (hpps : Cached σ 8 s.h264Pps) (accepts : Bool) (port : UInt16) :
    let s' := s.finishAccessUnit accepts p.unit.timestamp
    Inv σ whole ⟨accepted ssrc port ((σ ssrc).sequence i) s', some (ssrc, i + 1)⟩ ∧
      HandsOver σ whole s s' := by
  obtain ⟨-, hidle, hover⟩ := finishAccessUnit_cases accepts p.unit.timestamp s
  dsimp only
  generalize s.finishAccessUnit accepts p.unit.timestamp = s' at hidle hover ⊢
  rcases hover with hover | ⟨hdamaged, hsps', hpps', hover⟩
  · -- a damaged unit is dropped
    refine ⟨inv_idle hidle ?_ ?_ port, .inl hover.handedOver⟩
    · rw [hover.h264Sps]
      exact hsps
    · rw [hover.h264Pps]
      exact hpps
  · -- the unit is all of its pieces, or those behind the place where it was begun
    have hplace : p.place + 1 = p.unit.payloads.length := by simpa [SentPacket.last] using hlast
    obtain ⟨before, after, hpieces, hwhole, hassembly⟩ := (hpart hdamaged).complete hplace
    have hbytes : s.reassembly = longForm (after.flatMap Piece.nals) :=
      congrArg Assembly.bytes hassembly
    have hunit : p.unit ∈ (σ ssrc).units :=
      (SentStream.mem_of_packet ((σ ssrc).media_eq hentry).1).1
    have hsent : ∀ n ∈ after.flatMap Piece.nals, SentNal σ n := by
      intro n hn
      refine ⟨ssrc, p.unit, hunit, ?_⟩
      rw [SentUnit.nals, hpieces, List.flatMap_append]
      exact List.mem_append_right _ hn
    obtain ⟨hkeptSps, hkeptPps⟩ := parameterSets_cached hbytes hsent
    refine ⟨inv_idle hidle (hsps' ▸ hkeptSps hsps) (hpps' ▸ hkeptPps hpps) port, ?_⟩
    refine hover.imp id fun hover => ⟨_, hover, fun hw => ?_⟩
    rw [hwhole hw, List.nil_append] at hpieces
    obtain ⟨sets, hsets, hprefix⟩ := cachedSets_sent hsps hpps (after.flatMap Piece.nals)
    refine ⟨ssrc, p.unit, hunit, sets, hsets, rfl, ?_⟩
    rw [completed, prefixBytes_eq hbytes, hprefix, hbytes, ← longForm_append,
      SentUnit.nals, hpieces]

/-- **An accepted packet keeps the invariant**, and what it completes is complete. -/
theorem inv_accepted (hinv : Inv σ whole ⟨s, next⟩)
    (hssrc : s.sequenceValid = true → s.remoteSsrc = ssrc)
    (hentry : (σ ssrc).entries[i]? = some (.media p)) (hpayload : p.payload = some payload)
    (hnumber : ∀ n, next = some (ssrc, n) → i % 65536 = n % 65536 → i = n)
    (hinside : whole = true → p.place ≠ 0 → isContinuation payload = false →
      (s.reassemblyActive = false ∨ p.unit.timestamp ≠ s.reassemblyTimestamp) →
      ¬(s.sequenceValid = true → s.expectedSequence = (σ ssrc).sequence i))
    (hrefused : s.refusesH264Payload payload p.unit.timestamp = false) (accepts : Bool)
    (port : UInt16) :
    let s' := accepted ssrc port ((σ ssrc).sequence i) (s.takenUp accepts payload p.last
      p.unit.timestamp (s.sequenceValid && (σ ssrc).sequence i != s.expectedSequence))
    Inv σ whole ⟨s', some (ssrc, i + 1)⟩ ∧ HandsOver σ whole s s' := by
  have hpart := partOf_taken hinv hssrc hentry hpayload hnumber hinside hrefused
  have hreassembles := appendPayload_reassembles payload (s.openAccessUnit p.unit.timestamp
    (s.sequenceValid && (σ ssrc).sequence i != s.expectedSequence)) (type_of_not_refused hrefused)
  obtain ⟨-, hopened, -⟩ := keeps_openAccessUnit p.unit.timestamp
    (s.sequenceValid && (σ ssrc).sequence i != s.expectedSequence) s
  have hactive : ((s.openAccessUnit p.unit.timestamp (s.sequenceValid &&
      (σ ssrc).sequence i != s.expectedSequence)).appendPayload payload).reassemblyActive =
        true := by
    obtain ⟨_, _, _, _, heq⟩ := hreassembles.1
    rw [heq]
    exact (openAccessUnit_active _ _ s).1
  -- Neither opening a unit nor appending to it hands anything over or looks at parameter sets.
  have hquiet := hopened.trans hreassembles.quiet
  dsimp only at hpart
  rw [takenUp]
  generalize (s.openAccessUnit p.unit.timestamp (s.sequenceValid && (σ ssrc).sequence i !=
    s.expectedSequence)).appendPayload payload = s₂ at *
  have hsps : Cached σ 7 s₂.h264Sps := by
    rw [hquiet.h264Sps]
    exact hinv.sps
  have hpps : Cached σ 8 s₂.h264Pps := by
    rw [hquiet.h264Pps]
    exact hinv.pps
  cases hlast : p.last with
  | false => exact ⟨inv_middle hentry hlast hactive hpart hsps hpps port, .inl hquiet.handedOver⟩
  | true =>
    obtain ⟨hinv', hover⟩ := inv_last hentry hlast hpart hsps hpps accepts port
    refine ⟨hinv', ?_⟩
    unfold HandsOver at hover ⊢
    rw [hquiet.handedOver] at hover
    exact hover

end Accepted

/-! ## One step -/

section Step

variable {s s' : VideoRtpSession} {next : Option (UInt32 × Nat)}

/-- A change that keeps the numbers and what has been handed over, and the unit under construction
    or none of it, keeps the invariant. -/
theorem Inv.keeps (h : Inv σ whole ⟨s, next⟩) (hkeeps : Keeps s s') (hquiet : Quiet s s')
    (hsame : s' = s ∨ Idle s') : Inv σ whole ⟨s', next⟩ := by
  rcases hsame with rfl | hidle
  · exact h
  · refine ⟨fun _ => hidle, ?_, ?_, ?_, ?_⟩
    · show s'.sequenceValid = true → s'.remoteSsrcLatched = true ∧
        ∃ n, next = some (s'.remoteSsrc, n) ∧ s'.expectedSequence = (σ s'.remoteSsrc).sequence n
      rw [hkeeps.sequenceValid, hkeeps.remoteSsrcLatched, hkeeps.remoteSsrc,
        hkeeps.expectedSequence]
      exact h.next
    · intro hactive
      exact absurd (hactive.symm.trans hidle.reassemblyActive) (by decide)
    · show Cached σ 7 s'.h264Sps
      rw [hquiet.h264Sps]
      exact h.sps
    · show Cached σ 8 s'.h264Pps
      rw [hquiet.h264Pps]
      exact h.pps

/-- The invariant says nothing about slots. -/
theorem Inv.slotted (h : Inv σ whole ⟨s, next⟩) (hs : Slotted s s') : Inv σ whole ⟨s', next⟩ := by
  obtain ⟨_, _, rfl⟩ := hs
  exact ⟨fun h' => ⟨(h.idle h').reassemblyActive, (h.idle h').reassembly, (h.idle h').fuActive⟩,
    h.next, h.part, h.sps, h.pps⟩

/-- A session that has forgotten its unit and its number meets the invariant. -/
theorem Inv.forget (h : Inv σ whole ⟨s, next⟩) (hidle : Idle s') (hvalid : s'.sequenceValid = false)
    (hquiet : Quiet s s') (next' : Option (UInt32 × Nat)) : Inv σ whole ⟨s', next'⟩ := by
  refine ⟨fun _ => hidle, ?_, ?_, ?_, ?_⟩
  · intro hv
    exact absurd (hv.symm.trans hvalid) (by decide)
  · intro hactive
    exact absurd (hactive.symm.trans hidle.reassemblyActive) (by decide)
  · show Cached σ 7 s'.h264Sps
    rw [hquiet.h264Sps]
    exact h.sps
  · show Cached σ 8 s'.h264Pps
    rw [hquiet.h264Pps]
    exact h.pps

theorem Inv.followSource (h : Inv σ whole ⟨s, next⟩) (packet : ByteSpan) :
    Inv σ whole ⟨s.followSource packet, next⟩ := by
  rw [VideoRtpSession.followSource]
  split
  · apply h.forget
    · exact ⟨rfl, rfl, rfl⟩
    · rfl
    · exact ⟨rfl, rfl, rfl⟩
  · exact h

theorem quiet_followSource (packet : ByteSpan) (s : VideoRtpSession) :
    Quiet s (s.followSource packet) := by
  rw [VideoRtpSession.followSource]
  split
  · exact ⟨rfl, rfl, rfl⟩
  · exact .refl s

/-- A session that still expects a number follows the source of the packet. -/
theorem Inv.remoteSsrc_followSource (h : Inv σ whole ⟨s, next⟩) (packet : ByteSpan) :
    (s.followSource packet).sequenceValid = true →
      (s.followSource packet).remoteSsrc = rtpSsrc packet := by
  rw [VideoRtpSession.followSource]
  split
  · exact fun h => nomatch h
  · rename_i hsame
    intro hvalid
    have hlatched : s.remoteSsrcLatched = true := (h.next hvalid).1
    rw [sourceChanges, hlatched, Bool.true_and, Bool.not_eq_true, bne_eq_false_iff_eq] at hsame
    exact hsame.symm

/-- Taking a payload up keeps the source and the numbers. -/
theorem keeps_takenUp {payload : ByteSpan} {timestamp : UInt32}
    (h : s.refusesH264Payload payload timestamp = false) (accepts marker gap : Bool) :
    Keeps s (s.takenUp accepts payload marker timestamp gap) := by
  obtain ⟨hopen, -, -⟩ := keeps_openAccessUnit timestamp gap s
  have happend := (appendPayload_reassembles payload (s.openAccessUnit timestamp gap)
    (type_of_not_refused h)).keeps
  rw [takenUp]
  cases marker
  · exact hopen.trans happend
  · exact (hopen.trans happend).trans (finishAccessUnit_cases accepts timestamp _).1

theorem receiveEnabled_followSource (packet : ByteSpan) (s : VideoRtpSession) :
    (s.followSource packet).receiveEnabled = s.receiveEnabled ∧
      (s.followSource packet).payloadType = s.payloadType := by
  rw [VideoRtpSession.followSource]
  split <;> exact ⟨rfl, rfl⟩

/-- Writing down the source of a session that follows it changes nothing else. -/
theorem latch_eq (s' : VideoRtpSession) {packet : ByteSpan} {port : UInt16}
    (h : (s.remoteSsrcLatched = false ∨ s.sourceChanges packet = true) ∨
      s'.remoteSsrcLatched = s.remoteSsrcLatched ∧ s'.remoteSsrc = s.remoteSsrc) :
    { (if s.remoteSsrcLatched = false ∨ s.sourceChanges packet = true then
        { s' with remoteSsrc := rtpSsrc packet, remoteSsrcLatched := true } else s') with
      latchedRemoteRtpPort := port } =
      { s' with
        remoteSsrc := rtpSsrc packet
        remoteSsrcLatched := true
        latchedRemoteRtpPort := port } := by
  split
  · rfl
  · rename_i hsame
    rcases h with h | ⟨hlatched, hssrc⟩
    · exact absurd h hsame
    · rw [not_or, Bool.not_eq_false, Bool.not_eq_true, sourceChanges] at hsame
      have heq : rtpSsrc packet = s'.remoteSsrc := by
        rw [hsame.1, Bool.true_and, bne_eq_false_iff_eq] at hsame
        rw [hsame.2, hssrc]
      rw [heq, ← hsame.1, ← hlatched]

/-- **What becomes of a packet of the negotiated payload type.**  It is ignored, or not accepted,
    or its payload is taken up. -/
theorem receive_media {d : Datagram} (hlen : d.bytes.length ≤ kMaxRtpPacketBytes)
    (hpt : rtpPayloadType d.bytes = s.payloadType) :
    (s.receive d = s ∧ takes d s = false ∧
        ¬(Hears d s ∧ Reaches d.bytes (s.followSource d.bytes))) ∨
      (takes d s = false ∧ Keeps (s.followSource d.bytes) (s.receive d) ∧
        Quiet (s.followSource d.bytes) (s.receive d) ∧
        (s.receive d = s.followSource d.bytes ∧ ¬Reaches d.bytes (s.followSource d.bytes) ∨
          Idle (s.receive d))) ∨
      (takes d s = true ∧ Hears d s ∧ ∃ payload s₁, rtpPayload d.bytes = some payload ∧
        Slotted (s.followSource d.bytes) s₁ ∧
        s₁.refusesH264Payload payload (rtpTimestamp d.bytes) = false ∧
        s.receive d = accepted (rtpSsrc d.bytes) d.sourcePort (rtpSequence d.bytes)
          (s₁.takenUp d.accepts payload (rtpMarker d.bytes) (rtpTimestamp d.bytes)
            (s₁.sequenceValid && rtpSequence d.bytes != s₁.expectedSequence))) := by
  have htake : d.bytes.take kMaxRtpPacketBytes = d.bytes := List.take_of_length_le hlen
  simp only [receive, takes, htake]
  -- The exits before the handler leave the session alone.
  by_cases hheader : d.bytes.length < 12 ∨ rtpVersion d.bytes ≠ 2
  · rw [if_pos hheader, if_pos (by rw [← or_assoc]; exact .inl hheader)]
    refine .inl ⟨rfl, rfl, ?_⟩
    rintro ⟨-, -, -, -, payload, hpayload, -⟩
    exact header_of_payload hpayload hheader
  rw [if_neg hheader]
  by_cases hip : d.sourceIp = s.remoteIpV4
  · rw [if_neg (not_not_intro hip), if_neg (not_not_intro hpt), if_neg,
      if_neg (not_not_intro hpt), receiveMedia]
    · by_cases hport : s.sourceChanges d.bytes = true ∧ d.sourcePort ≠ s.latchedRemoteRtpPort
      · rw [if_pos hport, if_pos hport]
        exact .inl ⟨rfl, rfl, fun h => h.1.2.2.1 hport⟩
      · rw [if_neg hport, if_neg hport]
        -- The handler refuses the packet, or takes its payload up.
        rcases handleRtpPacket_cases d.accepts d.bytes (s.followSource d.bytes) with
          ⟨s', h, hkeeps, hquiet, hsame⟩ | ⟨hreaches, payload, s₁, hpayload, hslot, hrefused, h⟩
        · rw [h]
          exact .inr (.inl ⟨rfl, hkeeps, hquiet, hsame⟩)
        · have hreceives := hreaches.1
          rw [(receiveEnabled_followSource d.bytes s).1] at hreceives
          rw [h]
          refine .inr (.inr ⟨rfl, ⟨hip, hreceives, hport, hreaches.2.1⟩, payload, s₁, hpayload,
            hslot, hrefused, ?_⟩)
          have hkeeps := keeps_takenUp hrefused d.accepts (rtpMarker d.bytes)
            (s₁.sequenceValid && rtpSequence d.bytes != s₁.expectedSequence)
          -- The source is latched anew, or it is the one from before.
          have hsource : (s.remoteSsrcLatched = false ∨ s.sourceChanges d.bytes = true) ∨
              s₁.remoteSsrcLatched = s.remoteSsrcLatched ∧ s₁.remoteSsrc = s.remoteSsrc := by
            obtain ⟨_, _, rfl⟩ := hslot
            by_cases hchanges : s.sourceChanges d.bytes = true
            · exact .inl (.inr hchanges)
            · rw [followSource, if_neg hchanges]
              exact .inr ⟨rfl, rfl⟩
          exact latch_eq { s₁.takenUp d.accepts payload (rtpMarker d.bytes) (rtpTimestamp d.bytes)
              (s₁.sequenceValid && rtpSequence d.bytes != s₁.expectedSequence) with
            expectedSequence := rtpSequence d.bytes + 1
            sequenceValid := true } (hsource.imp id fun h =>
            ⟨hkeeps.remoteSsrcLatched.trans h.1, hkeeps.remoteSsrc.trans h.2⟩)
    · rw [← or_assoc]
      rintro (h | h)
      · exact hheader h
      · exact h hip
  · rw [if_pos hip, if_pos (.inr (.inr hip))]
    exact .inl ⟨rfl, rfl, fun h => hip h.1.1⟩

/-- A media packet of a sender keeps the invariant. -/
theorem inv_media {d : Datagram} {ssrc : UInt32} {i : Nat} {p : SentPacket} {payload : ByteSpan}
    (hinv : Inv σ whole ⟨s, next⟩) (hlen : d.bytes.length ≤ kMaxRtpPacketBytes)
    (hssrc : rtpSsrc d.bytes = ssrc) (hseq : rtpSequence d.bytes = (σ ssrc).sequence i)
    (hentry : (σ ssrc).entries[i]? = some (.media p))
    (hpt : rtpPayloadType d.bytes = s.payloadType) (hpayload : rtpPayload d.bytes = some payload)
    (hsent : p.payload = some payload) (hmarker : rtpMarker d.bytes = p.last)
    (hts : rtpTimestamp d.bytes = p.unit.timestamp)
    (hnumber : ∀ n, next = some (ssrc, n) → i % 65536 = n % 65536 → i = n)
    (hinside : whole = true →
      ¬OpensInside σ ⟨.datagram d, some (ssrc, i)⟩ ⟨s, next⟩) :
    Inv σ whole ⟨s.receive d, if takes d s then some (ssrc, i + 1) else next⟩ ∧
      HandsOver σ whole s (s.receive d) := by
  have hfollow := hinv.followSource d.bytes
  have hquiet := quiet_followSource d.bytes s
  rcases receive_media (s := s) hlen hpt with
    ⟨hsame, htakes, -⟩ | ⟨htakes, hkeeps, hquiet', hsame⟩ |
      ⟨htakes, hhears, payload', s₁, hpayload', hslot, hrefused, heq⟩
  · rw [hsame, htakes]
    exact ⟨hinv, .inl rfl⟩
  · rw [htakes]
    exact ⟨hfollow.keeps hkeeps hquiet' (hsame.imp And.left id),
      .inl (hquiet.trans hquiet').handedOver⟩
  · obtain rfl : payload = payload' := Option.some.inj (hpayload.symm.trans hpayload')
    rw [htakes, heq, hssrc, hseq, hmarker, hts]
    rw [hts] at hrefused
    have hremote : s₁.sequenceValid = true → s₁.remoteSsrc = ssrc := by
      have h := hinv.remoteSsrc_followSource d.bytes
      rw [hssrc] at h
      obtain ⟨_, _, rfl⟩ := hslot
      exact h
    have hhanded : s₁.handedOver = s.handedOver := by
      obtain ⟨_, _, rfl⟩ := hslot
      exact hquiet.handedOver
    obtain ⟨hinv', hover⟩ := inv_accepted (hfollow.slotted hslot) hremote hentry hsent hnumber
      (by
        intro hw hplace hcont hopens hexpected
        apply hinside hw
        obtain ⟨_, _, rfl⟩ := hslot
        exact ⟨d, ssrc, i, p, payload, rfl, rfl, hentry, hplace, hsent, hcont, hhears, hopens,
          by rw [hseq]; exact hexpected⟩)
      hrefused d.accepts d.sourcePort
    refine ⟨hinv', ?_⟩
    rw [HandsOver, hhanded] at hover
    exact hover

/-- What a packet of another payload type does: nothing, or it takes the expected number. -/
theorem receive_keepalive {d : Datagram} (hlen : d.bytes.length ≤ kMaxRtpPacketBytes)
    (hpt : rtpPayloadType d.bytes ≠ s.payloadType) :
    (s.receive d = s ∧ takes d s = false) ∨
      (takes d s = true ∧ rtpPayload d.bytes = some [] ∧ rtpSsrc d.bytes = s.remoteSsrc ∧
        s.sequenceValid = true ∧ d.sourceIp = s.remoteIpV4 ∧
        d.sourcePort = s.latchedRemoteRtpPort ∧ ¬rtpPayloadType d.bytes < 96 ∧
        rtpMarker d.bytes ≠ true ∧ rtpSequence d.bytes = s.expectedSequence ∧
        s.receive d = { s with expectedSequence := rtpSequence d.bytes + 1 }) := by
  have htake : d.bytes.take kMaxRtpPacketBytes = d.bytes := List.take_of_length_le hlen
  simp only [receive, takes, htake]
  -- The exits of the loop come first.
  by_cases hheader : d.bytes.length < 12 ∨ rtpVersion d.bytes ≠ 2
  · rw [if_pos hheader, if_pos (by rw [← or_assoc]; exact .inl hheader)]
    exact .inl ⟨rfl, rfl⟩
  rw [if_neg hheader]
  by_cases hip : d.sourceIp = s.remoteIpV4
  · rw [if_neg (not_not_intro hip), if_pos hpt, if_neg, if_pos hpt, handleRtpKeepalive]
    · split
      · exact .inl ⟨rfl, by simp⟩
      · -- Source, validity and number are what the keepalive is known by.
        rename_i hsource
        simp only [not_or, Decidable.not_not] at hsource
        split
        · exact .inl ⟨rfl, by simp⟩
        · rename_i hvalid
          rw [not_or, Decidable.not_not, Bool.not_eq_false] at hvalid
          split
          · exact .inl ⟨rfl, by simp⟩
          · rename_i hseq
            rw [Decidable.not_not] at hseq
            obtain ⟨hdynamic, -, hmarker, -, hssrc, hport⟩ := hsource
            refine .inr ⟨?_, hvalid.1, hssrc, hvalid.2, hip, hport, hdynamic, hmarker, hseq, rfl⟩
            rw [hseq]
            simp
    · rw [← or_assoc]
      rintro (h | h)
      · exact hheader h
      · exact h hip
  · rw [if_pos hip, if_pos (.inr (.inr hip))]
    exact .inl ⟨rfl, rfl⟩

/-- A keepalive of a sender keeps the invariant. -/
theorem inv_keepalive {d : Datagram} {ssrc : UInt32} {i : Nat} (hinv : Inv σ whole ⟨s, next⟩)
    (hlen : d.bytes.length ≤ kMaxRtpPacketBytes) (hssrc : rtpSsrc d.bytes = ssrc)
    (hseq : rtpSequence d.bytes = (σ ssrc).sequence i)
    (hentry : (σ ssrc).entries[i]? = some .keepalive)
    (hpt : rtpPayloadType d.bytes ≠ s.payloadType)
    (hnumber : ∀ n, next = some (ssrc, n) → i % 65536 = n % 65536 → i = n) :
    Inv σ whole ⟨s.receive d, if takes d s then some (ssrc, i + 1) else next⟩ ∧
      (s.receive d).handedOver = s.handedOver := by
  rcases receive_keepalive (s := s) hlen hpt with
    ⟨hsame, htakes⟩ | ⟨htakes, -, hremote, hvalid, -, -, -, -, hexpected, heq⟩
  · rw [hsame, htakes]
    exact ⟨hinv, rfl⟩
  · rw [htakes, heq]
    refine ⟨?_, rfl⟩
    obtain ⟨hlatched, n, hnext, hn⟩ := hinv.next hvalid
    dsimp only at hlatched hnext hn
    rw [← hremote, hssrc] at hnext hn
    -- the keepalive is the packet that is expected
    obtain rfl : i = n := by
      apply hnumber n hnext
      apply (σ ssrc).sequence_inj
      rw [← hseq, hexpected, hn]
    have hsucc : rtpSequence d.bytes + 1 = (σ ssrc).sequence (i + 1) := by
      rw [hseq, SentStream.sequence_succ]
    rw [hsucc]
    refine ⟨fun h => ⟨(hinv.idle h).reassemblyActive, (hinv.idle h).reassembly,
      (hinv.idle h).fuActive⟩, ?_, ?_, hinv.sps, hinv.pps⟩
    · intro _
      refine ⟨hlatched, i + 1, ?_, ?_⟩
      · show some (ssrc, i + 1) = some (s.remoteSsrc, i + 1)
        rw [← hremote, hssrc]
      · show (σ ssrc).sequence (i + 1) = (σ s.remoteSsrc).sequence (i + 1)
        rw [← hremote, hssrc]
    · intro hactive hdamaged
      obtain ⟨-, m, u, k, hm, hends, hpart⟩ := hinv.part hactive hdamaged
      dsimp only at hm hends hpart
      rw [← hremote, hssrc] at hm hends
      obtain rfl : i = m := by
        have := hnext.symm.trans hm
        simpa using this
      refine ⟨hvalid, i + 1, u, k, ?_, ?_, hpart⟩
      · show some (ssrc, i + 1) = some (s.remoteSsrc, i + 1)
        rw [← hremote, hssrc]
      · show (σ s.remoteSsrc).EndsInside (i + 1) u k
        rw [← hremote, hssrc]
        exact hends.keepalive hentry

/-- A malformed payload is refused. -/
theorem refuses_of_malformed {payload : ByteSpan} (h : malformed payload = true)
    (timestamp : UInt32) : s.refusesH264Payload payload timestamp = true := by
  rw [malformed] at h
  rw [refusesH264Payload]
  split at h
  · rename_i h24
    rw [if_pos h24]
    exact h
  · rename_i h24
    rw [if_neg h24]
    split at h
    · rename_i h28
      rw [if_pos h28]
      rw [fuStart, fuEnd, fragmentType] at h
      simp only [h, Bool.true_or]
    · rename_i h28
      rw [if_neg h28]
      exact h

/-- `recvfrom` cuts a datagram off. -/
theorem receive_take (d : Datagram) (s : VideoRtpSession) :
    s.receive { d with bytes := d.bytes.take kMaxRtpPacketBytes } = s.receive d := by
  simp only [receive, List.take_take, Nat.min_self]
  rfl

/-- A datagram that is no packet of any stream keeps the invariant. -/
theorem inv_unsent {d : Datagram} (hinv : Inv σ whole ⟨s, next⟩) (h : Unsent d s) :
    Inv σ whole ⟨s.receive d, next⟩ ∧ (s.receive d).handedOver = s.handedOver := by
  rw [← receive_take]
  have hlen : (d.bytes.take kMaxRtpPacketBytes).length ≤ kMaxRtpPacketBytes :=
    List.length_take_le _ _
  rw [Unsent] at h
  generalize d.bytes.take kMaxRtpPacketBytes = packet at *
  by_cases hpt : rtpPayloadType packet = s.payloadType
  · rcases receive_media (s := s) (d := { d with bytes := packet }) hlen hpt with
      ⟨hsame, -⟩ | ⟨-, hkeeps, hquiet, hsame⟩ |
        ⟨-, ⟨hip, -, hport, -⟩, payload, s₁, hpayload, -, hrefused, -⟩
    · rw [hsame]
      exact ⟨hinv, rfl⟩
    · exact ⟨(hinv.followSource packet).keeps hkeeps hquiet (hsame.imp And.left id),
        ((quiet_followSource packet s).trans hquiet).handedOver⟩
    · -- a packet that is accepted comes from the source and is valid
      exfalso
      rcases h with h | h | ⟨-, h | ⟨payload', h, hbad⟩⟩ | ⟨h, -⟩
      · exact h hip
      · exact nomatch hpayload.symm.trans h
      · exact hport h
      · obtain rfl : payload = payload' := Option.some.inj (hpayload.symm.trans h)
        have hmalformed : malformed payload = true := by
          rcases hbad with rfl | hbad
          · rfl
          · exact hbad
        rw [refuses_of_malformed hmalformed] at hrefused
        cases hrefused
      · exact h hpt
  · rcases receive_keepalive (s := s) (d := { d with bytes := packet }) hlen hpt with
      ⟨hsame, -⟩ | ⟨-, hpayload, hssrc, -, hip, hport, hdynamic, hmarker, hseq, -⟩
    · rw [hsame]
      exact ⟨hinv, rfl⟩
    · exfalso
      -- a keepalive that is taken is the one that was due
      rcases h with h | h | ⟨h, -⟩ | ⟨-, h | h | h | h | h | h⟩
      · exact h hip
      · exact nomatch hpayload.symm.trans h
      · exact hpt h
      · exact h hpayload
      · exact h hssrc
      · exact h hport
      · exact hdynamic h
      · exact hmarker h
      · exact h hseq

/-- A reset that the worker takes up makes the session forget. -/
theorem inv_takeReset (hinv : Inv σ whole ⟨s, next⟩) : Inv σ whole ⟨s.takeReset, next⟩ := by
  rw [takeReset]
  split
  · apply hinv.forget
    · exact ⟨rfl, rfl, rfl⟩
    · rfl
    · exact ⟨rfl, rfl, rfl⟩
  · exact hinv

/-- **One event keeps the invariant.**  While no unit is begun in its middle, what is handed over
    is complete. -/
theorem inv_step {a : Arrival} {t : Tracked} (hinv : Inv σ whole t) (h : Admissible σ a t)
    (hinside : whole = true → ¬OpensInside σ a t) :
    Inv σ whole (t.step a) ∧ HandsOver σ whole t.session (t.step a).session := by
  obtain ⟨s, next⟩ := t
  obtain ⟨event, origin⟩ := a
  rw [Admissible] at h
  cases event with
  | datagram d =>
    cases origin with
    | none =>
      obtain ⟨hinv', hover⟩ := inv_unsent hinv h
      exact ⟨hinv', .inl hover⟩
    | some origin =>
      obtain ⟨ssrc, i⟩ := origin
      obtain ⟨⟨hlen, hssrc, hseq, hsent⟩, hnumber⟩ := h
      rcases hsent with ⟨p, hentry, hpt, hpayload, hmarker, hts⟩ | ⟨hentry, hpt, -⟩
      · have hplace := (SentStream.mem_of_packet ((σ ssrc).media_eq hentry).1).2
        have hsent : p.payload = some p.unit.payloads[p.place] := List.getElem?_eq_getElem hplace
        rw [hsent] at hpayload
        exact inv_media hinv hlen hssrc hseq hentry hpt hpayload hsent hmarker hts hnumber hinside
      · obtain ⟨hinv', hover⟩ := inv_keepalive hinv hlen hssrc hseq hentry hpt hnumber
        exact ⟨hinv', .inl hover⟩
  | reset =>
    refine ⟨inv_takeReset hinv, .inl ?_⟩
    show s.takeReset.handedOver = s.handedOver
    rw [takeReset]
    split <;> rfl
  | direction enabled =>
    refine ⟨?_, .inl rfl⟩
    exact ⟨fun h => ⟨(hinv.idle h).reassemblyActive, (hinv.idle h).reassembly,
      (hinv.idle h).fuActive⟩, hinv.next, hinv.part, hinv.sps, hinv.pps⟩
  | release slot =>
    refine ⟨?_, .inl rfl⟩
    exact ⟨fun h => ⟨(hinv.idle h).reassemblyActive, (hinv.idle h).reassembly,
      (hinv.idle h).fuActive⟩, hinv.next, hinv.part, hinv.sps, hinv.pps⟩

/-- **A packet that ends a unit leaves none under construction.** -/
theorem idle_of_marks {a : Arrival} {t : Tracked} (h : Admissible σ a t) (hmarks : Marks σ a t) :
    Idle (t.step a).session := by
  obtain ⟨d, ssrc, i, p, hevent, horigin, hentry, hlast, hhears⟩ := hmarks
  obtain ⟨s, next⟩ := t
  obtain ⟨event, origin⟩ := a
  dsimp only at hevent horigin hhears
  subst hevent horigin
  rw [Admissible] at h
  obtain ⟨⟨hlen, hssrc, hseq, hsent⟩, -⟩ := h
  show Idle (s.receive d)
  rcases hsent with ⟨p', hentry', hpt, hpayload, hmarker, -⟩ | ⟨hentry', -⟩
  · obtain rfl : p = p' := by
      have heq := hentry.symm.trans hentry'
      simpa using heq
    have hplace := (SentStream.mem_of_packet ((σ ssrc).media_eq hentry).1).2
    have hsent : p.payload = some p.unit.payloads[p.place] := List.getElem?_eq_getElem hplace
    have hreaches : Reaches d.bytes (s.followSource d.bytes) := by
      obtain ⟨hreceives, hsame⟩ := receiveEnabled_followSource d.bytes s
      exact ⟨hreceives.trans hhears.2.1, hhears.2.2.2, hpt.trans hsame.symm, _,
        hpayload.trans hsent, SentPacket.payload_ne_nil hsent⟩
    rcases receive_media (s := s) hlen hpt with
      ⟨-, -, hnot⟩ | ⟨-, -, -, ⟨-, hnot⟩ | hidle⟩ | ⟨-, -, payload, s₁, -, -, -, heq⟩
    · exact absurd ⟨hhears, hreaches⟩ hnot
    · exact absurd hreaches hnot
    · exact hidle
    · rw [heq, hmarker, hlast, takenUp, if_pos rfl]
      obtain ⟨-, hidle, -⟩ := finishAccessUnit_cases d.accepts (rtpTimestamp d.bytes)
        ((s₁.openAccessUnit (rtpTimestamp d.bytes)
          (s₁.sequenceValid && rtpSequence d.bytes != s₁.expectedSequence)).appendPayload payload)
      exact ⟨hidle.reassemblyActive, hidle.reassembly, hidle.fuActive⟩
  · cases hentry.symm.trans hentry'

/-- Where no unit is under construction, none has been begun in its middle. -/
theorem Inv.whole_of_idle {t : Tracked} (h : Inv σ false t) (hidle : Idle t.session) :
    Inv σ true t := by
  refine ⟨h.idle, h.next, ?_, h.sps, h.pps⟩
  intro hactive
  exact absurd (hactive.symm.trans hidle.reassemblyActive) (by decide)

/-- A session that has not received anything. -/
structure Fresh (s : VideoRtpSession) : Prop where
  idle : Idle s
  sequenceValid : s.sequenceValid = false
  h264Sps : s.h264Sps = []
  h264Pps : s.h264Pps = []

theorem Fresh.inv (h : Fresh s) (whole : Bool) : Inv σ whole ⟨s, none⟩ := by
  refine ⟨fun _ => h.idle, ?_, ?_, .inl h.h264Sps, .inl h.h264Pps⟩
  · intro hvalid
    exact absurd (hvalid.symm.trans h.sequenceValid) (by decide)
  · intro hactive
    exact absurd (hactive.symm.trans h.idle.reassemblyActive) (by decide)

end Step

end EsphomeVoip
