import EsphomeVoip.Video.JpegReception
import EsphomeVoip.Video.JpegStream

/-! # Lost, repeated and foreign packets of JPEG frames

Each SSRC stands for a sender, and a run brings packets of these senders in any order, any number
of times or not at all, between datagrams that nobody sent.  What the sink is given is always a
frame that one of the senders has sent. -/

namespace EsphomeVoip

open RtpJpegFrameView

namespace RtpJpegDepacketizer

variable {frame : RtpJpegFrameView} {timestamp : UInt32} {offset : Nat}
  {d : RtpJpegDepacketizer} {output : ByteSpan}

/-! ## Fragments -/

/-- Only a frame that goes on stays under construction. -/
theorem appendFragment_idle (fragmentOffset : UInt32) (fragment : ByteSpan) (marker : Bool)
    (h : (d.appendFragment fragmentOffset fragment marker output).result ≠ .incomplete) :
    (d.appendFragment fragmentOffset fragment marker output).depacketizer.active = false := by
  rw [appendFragment] at h ⊢
  split
  · rfl
  · rename_i hfits
    rw [if_neg hfits] at h
    cases marker with
    | false => exact absurd rfl h
    | true => rfl

theorem push_idle (payload : ByteSpan) (marker : Bool)
    (h : (d.push payload marker timestamp output).result ≠ .incomplete) :
    (d.push payload marker timestamp output).depacketizer.active = false := by
  rw [push] at h ⊢
  split
  · rfl
  · rename_i f hread
    rw [hread] at h
    dsimp only at h
    by_cases hoffset : f.fragmentOffset = 0
    · rw [if_pos hoffset] at h ⊢
      rcases hquantizers : d.frameQuantizers payload f with ⟨_ | ⟨quantizers, cursor⟩, d₁⟩
      · rfl
      · rw [hquantizers] at h
        dsimp only at h ⊢
        rcases hstart : d₁.reset.startFrame f quantizers timestamp output with ⟨ok, output', d₂⟩
        rw [hstart] at h
        cases ok with
        | true => exact appendFragment_idle _ _ _ h
        | false =>
          -- the frame has not been started
          rw [startFrame] at hstart
          split at hstart
          · cases hstart
            rfl
          · split at hstart
            · cases hstart
              rfl
            · cases hstart
    · rw [if_neg hoffset] at h ⊢
      split
      · rfl
      · rename_i hsame
        rw [if_neg hsame] at h
        exact appendFragment_idle _ _ _ h

/-- The next part of the scan is dropped, or put behind what is there. -/
theorem Assembling.append_cases (h : Assembling frame timestamp offset d output) {size : Nat}
    (hsize : 0 < size) (hle : offset + size ≤ frame.scan.length) (hoffset : offset < 2 ^ 24) :
    let pushed := d.appendFragment (UInt32.ofNat offset) ((frame.scan.drop offset).take size)
      (offset + size == frame.scan.length) output
    pushed.result = .dropped ∨
      (pushed.result = .incomplete ∧ offset + size < frame.scan.length ∧
        Assembling frame timestamp (offset + size) pushed.depacketizer pushed.output) ∨
      Complete frame pushed := by
  intro pushed
  by_cases hroom : frame.jpegHeader.length + offset + size + 2 ≤ output.length
  · obtain ⟨hlast, hresult, -, hnext⟩ := h.append hsize hle (by omega) hroom
    by_cases hend : offset + size = frame.scan.length
    · have hmarker : (offset + size == frame.scan.length) = true := beq_iff_eq.mpr hend
      refine .inr (.inr ?_)
      show Complete frame (d.appendFragment _ _ (offset + size == frame.scan.length) output)
      rw [hmarker]
      exact hlast hend
    · have hmarker : (offset + size == frame.scan.length) = false := beq_eq_false_iff_ne.mpr hend
      refine .inr (.inl ?_)
      have hpushed : pushed = d.appendFragment (UInt32.ofNat offset)
          ((frame.scan.drop offset).take size) false output := by
        show d.appendFragment _ _ (offset + size == frame.scan.length) output = _
        rw [hmarker]
      rw [hpushed]
      exact ⟨hresult, by omega, hnext⟩
  · left
    have hfragment : ((frame.scan.drop offset).take size).length = size := by
      rw [List.length_take, List.length_drop]
      omega
    show (d.appendFragment _ _ _ output).result = .dropped
    rw [appendFragment, if_pos]
    · rfl
    · rw [h.headerSize, h.scanSize, hfragment]
      omega

/-- Without room for the headers no frame is started. -/
theorem startFrame_of_no_room (hroom : ¬frame.jpegHeader.length ≤ output.length)
    (d : RtpJpegDepacketizer) (timestamp : UInt32) :
    (d.startFrame (frame.fragment 0) frame.quantizers timestamp output).1 = false := by
  rw [startFrame]
  split
  · rfl
  · split
    · rfl
    · rename_i size output' hwrite
      obtain ⟨hlength, hle, htake⟩ := writeInterchangeHeader_some hwrite
      have hheader : size = frame.jpegHeader.length := by
        rw [jpegHeader]
        have hlen := congrArg List.length htake
        rw [List.length_take, hlength, Nat.min_eq_left hle] at hlen
        exact hlen
      omega

/-- The first fragment is dropped, or it begins the frame. -/
theorem push_first_cases (h : frame.Sendable) (d : RtpJpegDepacketizer) (data : ByteSpan)
    (marker : Bool) (timestamp : UInt32) (output : ByteSpan) :
    (d.push (frame.fragmentHeader 0 ++ data) marker timestamp output).result = .dropped ∨
      ∃ d' output', Assembling frame timestamp 0 d' output' ∧
        d.push (frame.fragmentHeader 0 ++ data) marker timestamp output =
          d'.appendFragment (UInt32.ofNat 0) data marker output' := by
  cases hvalid : validQuantizers frame.quantizers with
  | false =>
    left
    rw [push_first_invalid h hvalid]
    rfl
  | true =>
    by_cases hroom : frame.jpegHeader.length ≤ output.length
    · obtain ⟨d', output', hassembling, -, hpush⟩ :=
        push_first h hvalid hroom d data marker timestamp
      exact .inr ⟨d', output', hassembling, hpush⟩
    · left
      have hnone := startFrame_of_no_room hroom d.reset timestamp
      rw [push, readRtpJpegFragment_eq h (by decide)]
      simp only
      rw [if_pos (show (frame.fragment 0).fragmentOffset = 0 from rfl), frameQuantizers_eq h,
        if_neg (by rw [hvalid]; decide)]
      rcases hstart : d.reset.startFrame (frame.fragment 0) frame.quantizers timestamp output with
        ⟨ok, output', d'⟩
      rw [hstart] at hnone
      simp only at hnone
      simp only [hstart, hnone]

/-- Only the first fragment begins a frame. -/
theorem offset_of_beginsFrame (hoffset : offset < 2 ^ 24) (data : ByteSpan)
    (h : JpegSession.beginsFrame (frame.fragmentHeader offset ++ data) = true) : offset = 0 := by
  have hread := readOffset_eq hoffset
    (frame.wireType :: 255 :: blocks frame.width :: blocks frame.height :: (frame.restartHeader ++
      ((if offset = 0 then [0, 0] ++ writeBe16 128 ++ frame.quantizers else []) ++ data)))
  rw [← fragmentHeader_append] at hread
  rw [JpegSession.beginsFrame] at h
  simp only [Bool.and_eq_true, beq_iff_eq] at h
  obtain ⟨⟨hfirst, hsecond⟩, hthird⟩ := h
  rw [hfirst, hsecond, hthird] at hread
  apply (ofNat_eq_zero hoffset).mp
  rw [← hread]
  decide

/-- **A packet of a frame**, pushed in its place, is dropped, goes on with the frame, or completes
    it. -/
theorem push_sent {u : SentJpeg} {k : Nat} (hk : u.offset k < u.frame.scan.length)
    (hplace : k ≠ 0 → Assembling u.frame u.timestamp (u.offset k) d output) :
    let pushed := d.push (u.frame.fragmentAt u.maxPayload (u.offset k))
      (k + 1 == u.payloads.length) u.timestamp output
    pushed.result = .dropped ∨
      (pushed.result = .incomplete ∧ u.offset (k + 1) < u.frame.scan.length ∧
        Assembling u.frame u.timestamp (u.offset (k + 1)) pushed.depacketizer pushed.output) ∨
      Complete u.frame pushed := by
  have hsize := SentJpeg.fragmentSize_pos hk
  have hend := u.offset_le (k + 1)
  have hlt := SentJpeg.offset_lt hk
  rw [SentJpeg.offset_succ] at hend
  rw [SentJpeg.last_iff hk, SentJpeg.offset_succ, fragmentAt]
  by_cases hzero : k = 0
  · subst hzero
    rcases push_first_cases u.sendable d ((u.frame.scan.drop (u.offset 0)).take
      (u.frame.fragmentSize u.maxPayload (u.offset 0)))
        (u.offset 0 + u.frame.fragmentSize u.maxPayload (u.offset 0) == u.frame.scan.length)
        u.timestamp output with hdropped | ⟨d', output', hassembling, hpush⟩
    · exact .inl hdropped
    · have hstart : u.offset 0 = 0 := rfl
      rw [hstart] at hpush hsize hend ⊢
      rw [hpush]
      exact hassembling.append_cases hsize hend (by decide)
  · have hassembling := hplace hzero
    obtain ⟨j, rfl⟩ : ∃ j, k = j + 1 := ⟨k - 1, by omega⟩
    have hpos : u.offset (j + 1) ≠ 0 := by
      apply SentJpeg.offset_ne_zero
      have hle := u.offset_succ j
      omega
    rw [hassembling.push_later u.sendable hpos hlt]
    exact hassembling.append_cases hsize hend hlt

end RtpJpegDepacketizer

open RtpJpegDepacketizer

/-! ## The invariant -/

namespace Reception

/-- A unit is the JPEG of a frame that one of the senders has sent, its size in whole blocks. -/
def IsSent (σ : UInt32 → JpegStream) (unit : EncodedVideoAccessUnit) : Prop :=
  ∃ ssrc u k, .media u k ∈ (σ ssrc).entries ∧ unit.timestamp90khz = u.timestamp ∧
    parseJpegForRtp unit.data = .ok u.frame.inBlocks

/-- The expected number is that of the packet behind the one taken last, and what is under
    construction without damage are the packets of a frame up to that one. -/
structure Inv (σ : UInt32 → JpegStream) (next : Option (UInt32 × Nat)) (r : Reception) : Prop where
  number : ∀ sequence, r.expected = some sequence → ∃ ssrc n, r.source = some ssrc ∧
    next = some (ssrc, n) ∧ sequence = (σ ssrc).sequence n
  part : r.depacketizer.active = true → r.damaged = false → ∃ ssrc n u k, r.source = some ssrc ∧
    next = some (ssrc, n) ∧ r.expected = some ((σ ssrc).sequence n) ∧
    (σ ssrc).before n = some (u, k) ∧ u.offset (k + 1) < u.frame.scan.length ∧
    Assembling u.frame u.timestamp (u.offset (k + 1)) r.depacketizer r.slot
  handed : ∀ unit ∈ r.handedOver, IsSent σ unit

variable {σ : UInt32 → JpegStream} {next : Option (UInt32 × Nat)} {r r' : Reception}

theorem Inv.follow (h : Inv σ next r) (ssrc : UInt32) : Inv σ next (r.follow ssrc) := by
  rw [Reception.follow]
  split
  · refine ⟨fun _ h => ?_, fun h => ?_, h.handed⟩
    · cases h
    · cases h
  · exact h

/-- A number that is expected of the source of a packet is that of the packet behind the last
    one. -/
theorem Inv.number_follow (h : Inv σ next r) {ssrc : UInt32} {sequence : UInt16}
    (hexpected : (r.follow ssrc).expected = some sequence) :
    r.source = some ssrc ∧ r.follow ssrc = r ∧
      ∃ n, next = some (ssrc, n) ∧ sequence = (σ ssrc).sequence n := by
  rw [Reception.follow] at hexpected ⊢
  split at hexpected
  · cases hexpected
  · rename_i hsame
    rw [if_neg hsame]
    obtain ⟨ssrc', n, hsource, hnext, rfl⟩ := h.number sequence hexpected
    rw [hsource] at hsame
    simp only [Option.any_some, bne_iff_ne, ne_eq, Decidable.not_not] at hsame
    subst hsame
    exact ⟨hsource, rfl, n, hnext, rfl⟩

/-- What is known of a packet of a stream. -/
structure IsPacket (σ : UInt32 → JpegStream) (i : Nat) (u : SentJpeg) (k : Nat) (p : HeardPacket) :
    Prop where
  entry : (σ p.ssrc).entries[i]? = some (.media u k)
  payload : u.payloads[k]? = some p.payload
  sequence : p.sequence = (σ p.ssrc).sequence i
  marker : p.marker = (k + 1 == u.payloads.length)
  timestamp : p.timestamp = u.timestamp

/-- **The place of a packet that is taken up.**  Without damage, a packet behind the first one finds
    the packets before it. -/
theorem Inv.place (h : Inv σ next r) {i : Nat} {u : SentJpeg} {k : Nat} {p : HeardPacket}
    (hp : IsPacket σ i u k p)
    (hnumber : ∀ n, next = some (p.ssrc, n) → i % 65536 = n % 65536 → i = n)
    {d : RtpJpegDepacketizer} {damaged : Bool}
    (hlater : JpegSession.beginsFrame p.payload = false →
      d = (r.follow p.ssrc).depacketizer ∧
        damaged = ((r.follow p.ssrc).damaged || (r.follow p.ssrc).gap p.sequence))
    (hactive : k ≠ 0 → d.active = true) (hdamaged : damaged = false) (hk : k ≠ 0) :
    Assembling u.frame u.timestamp (u.offset k) d r.slot := by
  obtain ⟨j, rfl⟩ : ∃ j, k = j + 1 := ⟨k - 1, by omega⟩
  obtain ⟨hlt, hpayload⟩ := SentJpeg.eq_of_payload hp.payload
  have hpos : u.offset (j + 1) ≠ 0 := by
    apply SentJpeg.offset_ne_zero
    have hle := u.offset_succ j
    omega
  have hbegins : JpegSession.beginsFrame p.payload = false := by
    cases hb : JpegSession.beginsFrame p.payload with
    | false => rfl
    | true =>
      rw [hpayload, fragmentAt] at hb
      exact absurd (offset_of_beginsFrame (SentJpeg.offset_lt hlt) _ hb) hpos
  obtain ⟨rfl, rfl⟩ := hlater hbegins
  rw [Bool.or_eq_false_iff] at hdamaged
  obtain ⟨ssrc, n, u', k', hsource, hnext, hexpected, hbefore, -, hassembling⟩ :=
    (h.follow p.ssrc).part (hactive hk) hdamaged.1
  -- the number is the expected one, so the packet is the next one
  obtain ⟨hsource', hsame, m, hm, hseq⟩ := h.number_follow hexpected
  obtain ⟨rfl, rfl⟩ := Prod.mk.inj (Option.some.inj (hnext.symm.trans hm))
  have hgap := hdamaged.2
  rw [Reception.gap, hexpected, Option.any_some, bne_eq_false_iff_eq, hp.sequence] at hgap
  obtain rfl := hnumber n hm ((σ p.ssrc).sequence_inj hgap.symm)
  have hbefore' := JpegStream.before_of_later hp.entry
  obtain ⟨rfl, rfl⟩ := Prod.mk.inj (Option.some.inj (hbefore.symm.trans hbefore'))
  rw [hsame] at hassembling ⊢
  exact hassembling

/-- A packet behind the first one is dropped where no frame is under construction. -/
theorem active_of_pushed {u : SentJpeg} {k : Nat} {payload output : ByteSpan}
    (hpayload : u.payloads[k]? = some payload) {d : RtpJpegDepacketizer} {marker : Bool}
    (hresult : (d.push payload marker u.timestamp output).result ≠ .dropped) (hk : k ≠ 0) :
    d.active = true := by
  obtain ⟨hlt, rfl⟩ := SentJpeg.eq_of_payload hpayload
  obtain ⟨j, rfl⟩ : ∃ j, k = j + 1 := ⟨k - 1, by omega⟩
  have hpos : u.offset (j + 1) ≠ 0 := by
    apply SentJpeg.offset_ne_zero
    have hle := u.offset_succ j
    omega
  cases hactive : d.active with
  | true => rfl
  | false =>
    rw [fragmentAt, push_later_inactive u.sendable hpos (SentJpeg.offset_lt hlt) hactive] at hresult
    exact absurd rfl hresult

/-- **A packet that is taken up** keeps the invariant. -/
theorem Inv.takesUp (h : Inv σ next r) {i : Nat} {u : SentJpeg} {k : Nat} {p : HeardPacket}
    (hp : IsPacket σ i u k p)
    (hnumber : ∀ n, next = some (p.ssrc, n) → i % 65536 = n % 65536 → i = n)
    (htakes : (r.follow p.ssrc).TakesUp p r') :
    Inv σ (some (p.ssrc, i + 1)) { r' with source := some p.ssrc } := by
  have hfollow := h.follow p.ssrc
  have hslot : (r.follow p.ssrc).slot = r.slot := by
    rw [Reception.follow]
    split <;> rfl
  obtain ⟨hlt, hpayload⟩ := SentJpeg.eq_of_payload hp.payload
  have hsucc : p.sequence + 1 = (σ p.ssrc).sequence (i + 1) := by
    rw [hp.sequence]
    exact (σ p.ssrc).sequence_succ i
  cases htakes with
  -- The frame is not complete yet: it holds one packet more.
  | goOn d damaged hlater hresult =>
    refine ⟨?_, ?_, ?_⟩
    · intro sequence hsequence
      cases hsequence
      exact ⟨p.ssrc, i + 1, rfl, rfl, hsucc⟩
    · intro _ hdamaged
      have hnotDropped : (d.push p.payload p.marker u.timestamp
          (r.follow p.ssrc).slot).result ≠ .dropped := by
        rw [← hp.timestamp, hresult]
        decide
      have hplace := h.place hp hnumber hlater (active_of_pushed hp.payload hnotDropped) hdamaged
      rw [← hslot] at hplace
      have hsent := push_sent (u := u) (k := k) hlt hplace
      rw [← hpayload, ← hp.marker, ← hp.timestamp] at hsent
      -- of the three outcomes only the middle one has this result
      rcases hsent with hdropped | ⟨-, hmore, hassembling⟩ | hcomplete
      · rw [hresult] at hdropped
        cases hdropped
      · refine ⟨p.ssrc, i + 1, u, k, rfl, rfl, congrArg some hsucc,
          JpegStream.before_media hp.entry,
          hmore, ?_⟩
        rw [← hp.timestamp]
        exact hassembling
      · have hdone := hcomplete.result
        rw [hresult] at hdone
        cases hdone
    · intro unit hunit
      rw [Reception.takeUp, List.append_nil] at hunit
      exact hfollow.handed unit hunit
  -- The frame is complete: what is handed on is a sent frame.
  | complete d damaged units hlater hresult hunits =>
    refine ⟨?_, ?_, ?_⟩
    · intro sequence hsequence
      cases hsequence
      exact ⟨p.ssrc, i + 1, rfl, rfl, hsucc⟩
    · intro hactive
      -- nothing is left under construction
      have hidle : (d.push p.payload p.marker p.timestamp
          (r.follow p.ssrc).slot).depacketizer.active = false := by
        apply push_idle
        rw [hresult]
        decide
      exact absurd (hactive.symm.trans hidle) (by decide)
    · intro unit hunit
      rcases List.mem_append.mp hunit with hunit | hunit
      · exact hfollow.handed unit hunit
      · rcases hunits with rfl | ⟨hdamaged, rfl⟩
        · exact absurd hunit List.not_mem_nil
        · obtain rfl := List.mem_singleton.mp hunit
          have hnotDropped : (d.push p.payload p.marker u.timestamp
              (r.follow p.ssrc).slot).result ≠ .dropped := by
            rw [← hp.timestamp, hresult]
            decide
          have hplace := h.place hp hnumber hlater (active_of_pushed hp.payload hnotDropped)
            hdamaged
          rw [← hslot] at hplace
          have hsent := push_sent (u := u) (k := k) hlt hplace
          rw [← hpayload, ← hp.marker, ← hp.timestamp] at hsent
          rcases hsent with hdropped | ⟨hgoesOn, -⟩ | hcomplete
          · rw [hresult] at hdropped
            cases hdropped
          · rw [hresult] at hgoesOn
            cases hgoesOn
          · refine ⟨p.ssrc, u, k, List.mem_of_getElem? hp.entry, hp.timestamp, ?_⟩
            rw [completedUnit, hcomplete.output, parse_jpegHeader u.sendable]

/-- A keepalive takes the number that is expected. -/
theorem Inv.keepalive (h : Inv σ next r) {ssrc : UInt32} {sequence : UInt16} {i : Nat}
    (hentry : (σ ssrc).entries[i]? = some .keepalive) (hseq : sequence = (σ ssrc).sequence i)
    (hnumber : ∀ n, next = some (ssrc, n) → i % 65536 = n % 65536 → i = n)
    (hsource : r.source = some ssrc) (hexpected : r.expected = some sequence) :
    Inv σ (some (ssrc, i + 1)) { r with expected := some (sequence + 1) } := by
  have hsucc : sequence + 1 = (σ ssrc).sequence (i + 1) := by
    rw [hseq]
    exact (σ ssrc).sequence_succ i
  obtain ⟨ssrc', n, hsource', hnext, hsame⟩ := h.number sequence hexpected
  obtain rfl := Option.some.inj (hsource.symm.trans hsource')
  obtain rfl := hnumber n hnext ((σ ssrc).sequence_inj (hseq.symm.trans hsame))
  refine ⟨?_, ?_, h.handed⟩
  · intro sequence' hsequence
    cases hsequence
    exact ⟨ssrc, i + 1, hsource, rfl, hsucc⟩
  · intro hactive hdamaged
    obtain ⟨ssrc', m, u, k, hsource', hnext', -, hbefore, hmore, hassembling⟩ :=
      h.part hactive hdamaged
    obtain ⟨rfl, rfl⟩ := Prod.mk.inj (Option.some.inj (hnext.symm.trans hnext'))
    refine ⟨ssrc, i + 1, u, k, hsource, rfl, congrArg some hsucc, ?_, hmore, hassembling⟩
    rw [JpegStream.before_keepalive hentry]
    exact hbefore

/-- What takes no number keeps the invariant. -/
theorem Inv.untaken (h : Inv σ next r) (hstep : r.Step none r') : Inv σ next r' := by
  cases hstep with
  | stay => exact h
  | giveUp _ hsource hexpected hidle hover =>
    refine ⟨?_, ?_, ?_⟩
    · intro sequence hsequence
      rcases hexpected with hexpected | hexpected
      · rw [hexpected] at hsequence
        rw [hsource]
        exact h.number sequence hsequence
      · rw [hexpected] at hsequence
        cases hsequence
    · intro hactive
      exact absurd (hactive.symm.trans hidle) (by decide)
    · rw [hover]
      exact h.handed

end Reception

end EsphomeVoip
