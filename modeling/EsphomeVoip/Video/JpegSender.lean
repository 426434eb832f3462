import EsphomeVoip.Video.JpegHeaders
import EsphomeVoip.Video.Packetizer
import EsphomeVoip.Video.RtpJpegDepacketizer

/-! # JPEG frames that are sent (`send_jpeg_access_unit_` of `video_rtp.cpp`)

What `parse_jpeg_for_rtp` accepts has the bounds that the header of a fragment needs, and it goes
out in fragments that follow each other in the scan. -/

namespace EsphomeVoip

namespace VideoRtpSession

/-! ## The sender -/

/-- The loop of `send_jpeg_access_unit_`, from `scanOffset` on.  A fragment has a byte at least, so
    the size of the scan bounds the rounds. -/
def sendJpegFragments (sendto : ByteSpan → Bool) (frame : RtpJpegFrameView) (timestamp : UInt32) :
    Nat → Nat → VideoRtpSession → Sent
  | 0, _, s => ⟨[], true, s⟩
  | fuel + 1, scanOffset, s =>
    if scanOffset < frame.scan.length then
      let header := buildRtpJpegFragmentHeader frame (UInt32.ofNat scanOffset)
        (min kMaxRtpPacketBytes s.maxPayload)
      if header = [] ∨ s.maxPayload ≤ header.length then ⟨[], false, s⟩
      else
        let fragmentSize := min (s.maxPayload - header.length) (frame.scan.length - scanOffset)
        let payload := header ++ (frame.scan.drop scanOffset).take fragmentSize
        let marker := scanOffset + fragmentSize == frame.scan.length
        match s.sendRtpPayload sendto payload marker timestamp with
        | (none, s) => ⟨[], false, s⟩
        | (some datagram, s) =>
          let rest := sendJpegFragments sendto frame timestamp fuel (scanOffset + fragmentSize) s
          { rest with packets := datagram :: rest.packets }
    else ⟨[], true, s⟩

/-- `send_jpeg_access_unit_`. -/
def sendJpegAccessUnit (sendto : ByteSpan → Bool) (accessUnit : EncodedVideoAccessUnit)
    (s : VideoRtpSession) : Sent :=
  match parseJpegForRtp accessUnit.data with
  | .error _ => ⟨[], false, s⟩
  | .ok frame => sendJpegFragments sendto frame accessUnit.timestamp90khz frame.scan.length 0 s

end VideoRtpSession

/-! ## What the parser accepts -/

/-- What `parse_jpeg_for_rtp` accepts. -/
structure RtpJpegFrameView.Sendable (frame : RtpJpegFrameView) : Prop where
  scan : frame.scan ≠ []
  quantizers : frame.quantizers.length = 128
  type : frame.type ≤ 1
  width : frame.width ≠ 0 ∧ frame.width ≤ 2040
  height : frame.height ≠ 0 ∧ frame.height ≤ 2040

namespace JpegMarkers

/-- What the segments leave. -/
structure Bounded (p : JpegMarkers) : Prop where
  quantizers : p.frame.quantizers.length = 128
  type : p.frame.type ≤ 1
  width : p.sawSof = true → p.frame.width ≠ 0 ∧ p.frame.width ≤ 2040
  height : p.sawSof = true → p.frame.height ≠ 0 ∧ p.frame.height ≤ 2040

theorem bounded_init : Bounded {} :=
  ⟨rfl, by decide, fun h => Bool.noConfusion h, fun h => Bool.noConfusion h⟩

variable {p p' : JpegMarkers}

theorem Bounded.quantizationTables (h : Bounded p) {fuel : Nat} {segment : ByteSpan}
    (hp : p.quantizationTables fuel segment = .ok p') : Bounded p' := by
  induction fuel generalizing segment p with
  | zero =>
    cases segment with
    | nil =>
      rw [JpegMarkers.quantizationTables] at hp
      cases hp
      exact h
    | cons descriptor segment => cases hp
  | succ fuel ih =>
    cases segment with
    | nil =>
      rw [JpegMarkers.quantizationTables] at hp
      cases hp
      exact h
    | cons descriptor segment =>
      rw [JpegMarkers.quantizationTables] at hp
      dsimp only at hp
      split at hp
      · cases hp
      · split at hp
        · cases hp
        · rename_i hfits
          simp only [not_or, Nat.not_lt] at hfits
          obtain ⟨htable, -, hlen⟩ := hfits
          refine ih ?_ hp
          refine ⟨?_, h.type, h.width, h.height⟩
          have hlow : (segment.take 64).length = 64 := by
            rw [List.length_take]
            omega
          show (memcpyAt p.frame.quantizers _ _).length = 128
          rw [length_memcpyAt, h.quantizers]
          rw [h.quantizers, hlow]
          omega

theorem Bounded.startOfFrame (h : Bounded p) {segment : ByteSpan}
    (hp : p.startOfFrame segment = .ok p') : Bounded p' := by
  rw [JpegMarkers.startOfFrame] at hp
  dsimp only at hp
  split at hp
  · cases hp
  · split at hp
    · cases hp
    · split at hp
      · cases hp
      · rename_i hsize
        simp only [not_or, UInt16.not_lt] at hsize
        obtain ⟨hw, hh, hw', hh'⟩ := hsize
        split at hp
        · cases hp
        · split at hp
          · cases hp
            exact ⟨h.quantizers, UInt8.zero_le, fun _ => ⟨hw, hw'⟩, fun _ => ⟨hh, hh'⟩⟩
          · split at hp
            · cases hp
              exact ⟨h.quantizers, UInt8.le_refl 1, fun _ => ⟨hw, hw'⟩, fun _ => ⟨hh, hh'⟩⟩
            · cases hp

/-- **One segment.** -/
theorem Bounded.segment (h : Bounded p) {marker : UInt8} {payload : ByteSpan}
    (hp : p.segment marker payload = .ok p') : Bounded p' := by
  rw [JpegMarkers.segment] at hp
  split at hp
  · exact h.quantizationTables hp
  · split at hp
    · rw [huffmanTables] at hp
      split at hp
      · cases hp
      · cases hp
        exact ⟨h.quantizers, h.type, h.width, h.height⟩
    · split at hp
      · exact h.startOfFrame hp
      · split at hp
        · rw [JpegMarkers.restartInterval] at hp
          split at hp
          · cases hp
          · cases hp
            exact ⟨h.quantizers, h.type, h.width, h.height⟩
        · split at hp
          · cases hp
          · cases hp
            exact h

theorem findEoi_le {data : ByteSpan} {n k : Nat} (h : findEoi data n = some k) : k + 2 ≤ n := by
  induction n with
  | zero => simp [findEoi] at h
  | succ n ih =>
    cases n with
    | zero => simp [findEoi] at h
    | succ n =>
      rw [findEoi] at h
      split at h
      · cases h
        exact Nat.le_refl _
      · exact Nat.le_succ_of_le (ih h)

theorem Bounded.startOfScan (h : Bounded p) {segment data : ByteSpan} {frame : RtpJpegFrameView}
    (hp : p.startOfScan segment data = .ok frame) : frame.Sendable := by
  rw [JpegMarkers.startOfScan] at hp
  split at hp
  · cases hp
  · rename_i hseen
    simp only [not_or, Bool.not_eq_false] at hseen
    split at hp
    · cases hp
    · split at hp
      · cases hp
      · rename_i scanSize heoi
        split at hp
        · cases hp
        · rename_i hpos
          cases hp
          have hle := findEoi_le heoi
          refine ⟨?_, h.quantizers, h.type, h.width hseen.1, h.height hseen.1⟩
          intro hnil
          have hlen := congrArg List.length hnil
          simp only [List.length_take, List.length_nil] at hlen
          omega

theorem Bounded.parse (h : Bounded p) {fuel : Nat} {data : ByteSpan} {frame : RtpJpegFrameView}
    (hp : JpegMarkers.parse fuel data p = .ok frame) : frame.Sendable := by
  induction fuel generalizing data p with
  | zero => cases hp
  | succ fuel ih =>
    rw [JpegMarkers.parse] at hp
    split at hp
    · cases hp
    · split at hp
      · cases hp
      · dsimp only at hp
        split at hp
        · cases hp
        · split at hp
          · exact ih h hp
          · split at hp
            · cases hp
            · split at hp
              · cases hp
              · split at hp
                · exact h.startOfScan hp
                · split at hp
                  · cases hp
                  · rename_i hsegment
                    exact ih (h.segment hsegment) hp

end JpegMarkers

/-- A frame that is accepted can be sent. -/
theorem sendable_of_parse {data : ByteSpan} {frame : RtpJpegFrameView}
    (h : parseJpegForRtp data = .ok frame) : frame.Sendable := by
  rw [parseJpegForRtp] at h
  split at h
  · cases h
  · exact JpegMarkers.bounded_init.parse h

namespace RtpJpegFrameView

/-! ## The header of a fragment -/

/-- The number of blocks that a size takes. -/
def blocks (size : UInt16) : UInt8 := UInt8.ofNat ((size.toNat + 7) / 8)

/-- The type on the wire. -/
def wireType (frame : RtpJpegFrameView) : UInt8 :=
  frame.type ||| (if frame.restartInterval ≠ 0 then 0x40 else 0)

/-- The restart header, where there is one. -/
def restartHeader (frame : RtpJpegFrameView) : ByteSpan :=
  if frame.restartInterval ≠ 0 then writeBe16 frame.restartInterval ++ writeBe16 0xFFFF else []

/-- The header of the fragment at `offset`. -/
def fragmentHeader (frame : RtpJpegFrameView) (offset : Nat) : ByteSpan :=
  writeBe32 (UInt32.ofNat offset) ++
    [frame.wireType, 255, blocks frame.width, blocks frame.height] ++ frame.restartHeader ++
    if offset = 0 then [0, 0] ++ writeBe16 128 ++ frame.quantizers else []

variable {frame : RtpJpegFrameView} {offset : Nat}

theorem length_restartHeader (frame : RtpJpegFrameView) :
    frame.restartHeader.length = if frame.restartInterval ≠ 0 then 4 else 0 := by
  rw [restartHeader]
  split <;> rfl

theorem length_fragmentHeader (h : frame.Sendable) (offset : Nat) :
    (frame.fragmentHeader offset).length =
      8 + frame.restartHeader.length + if offset = 0 then 132 else 0 := by
  rw [fragmentHeader, List.length_append, List.length_append]
  congr 1
  split
  · simp [writeBe16, h.quantizers]
  · rfl

/-- The first header is the longest one. -/
theorem length_fragmentHeader_le (h : frame.Sendable) (offset : Nat) :
    (frame.fragmentHeader offset).length ≤ (frame.fragmentHeader 0).length := by
  rw [length_fragmentHeader h, length_fragmentHeader h, if_pos rfl]
  split <;> omega

theorem length_fragmentHeader_zero_le (h : frame.Sendable) :
    (frame.fragmentHeader 0).length ≤ 144 := by
  rw [length_fragmentHeader h, length_restartHeader, if_pos rfl]
  split <;> omega

theorem ofNat_eq_zero (h : offset < 2 ^ 24) : UInt32.ofNat offset = 0 ↔ offset = 0 := by
  rw [← UInt32.toNat_inj, UInt32.toNat_ofNat_of_lt' (by show offset < 2 ^ 32; omega)]
  rfl

/-- An offset takes three bytes. -/
theorem top_byte_eq (h : offset < 2 ^ 24) : (UInt32.ofNat offset >>> 24).toUInt8 = 0 := by
  apply UInt8.toNat_inj.mp
  rw [UInt32.toNat_toUInt8, UInt32.toNat_shiftRight,
    UInt32.toNat_ofNat_of_lt' (by show offset < 2 ^ 32; omega)]
  show offset >>> 24 % 256 = 0
  rw [Nat.shiftRight_eq_div_pow]
  omega

/-- The header that is built. -/
theorem buildHeader_eq (h : frame.Sendable) (hoffset : offset < 2 ^ 24) {capacity : Nat}
    (hcapacity : (frame.fragmentHeader offset).length ≤ capacity) :
    buildRtpJpegFragmentHeader frame (UInt32.ofNat offset) capacity =
      frame.fragmentHeader offset := by
  have hnat : (UInt32.ofNat offset).toNat = offset :=
    UInt32.toNat_ofNat_of_lt' (by show offset < 2 ^ 32; omega)
  have hzero := ofNat_eq_zero hoffset
  have hrange : ¬0xFFFFFF < UInt32.ofNat offset := by
    rw [UInt32.lt_iff_toNat_lt, hnat]
    show ¬0xFFFFFF < offset
    omega
  have hneeded : ¬capacity < 8 + (if frame.restartInterval ≠ 0 then 4 else 0) +
      (if UInt32.ofNat offset = 0 then 132 else 0) := by
    rw [length_fragmentHeader h, length_restartHeader] at hcapacity
    simp only [hzero]
    omega
  have hfits := And.intro h.width h.height
  rw [buildRtpJpegFragmentHeader]
  simp only
  rw [if_neg]
  · rw [fragmentHeader, restartHeader, writeBe32, top_byte_eq hoffset, wireType, blocks, blocks]
    simp only [hzero]
    rfl
  · simp only [not_or, UInt16.not_lt, UInt8.not_lt]
    exact ⟨hneeded, h.scan, h.type, h.width.1, h.height.1, h.width.2, h.height.2, hrange⟩

end RtpJpegFrameView

namespace VideoRtpSession

open RtpJpegFrameView

/-! ## The payloads of a frame -/

/-- The payloads of the fragments from `offset` on. -/
def jpegPayloads (maxPayload : Nat) (frame : RtpJpegFrameView) : Nat → Nat → List ByteSpan
  | 0, _ => []
  | fuel + 1, offset =>
    if offset < frame.scan.length then
      let header := frame.fragmentHeader offset
      let size := min (maxPayload - header.length) (frame.scan.length - offset)
      (header ++ (frame.scan.drop offset).take size) ::
        jpegPayloads maxPayload frame fuel (offset + size)
    else []

/-- Nothing is left exactly behind the scan. -/
theorem isEmpty_jpegPayloads (maxPayload : Nat) {frame : RtpJpegFrameView} {fuel offset : Nat}
    (hfuel : frame.scan.length - offset ≤ fuel) (hoffset : offset ≤ frame.scan.length) :
    (jpegPayloads maxPayload frame fuel offset).isEmpty = (offset == frame.scan.length) := by
  by_cases hend : offset = frame.scan.length
  · cases fuel with
    | zero => simp [jpegPayloads, hend]
    | succ fuel => simp [jpegPayloads, hend]
  · obtain ⟨fuel, rfl⟩ : ∃ k, fuel = k + 1 := ⟨fuel - 1, by omega⟩
    rw [jpegPayloads, if_pos (by omega)]
    simp [hend]

/-! ## A sender that nothing stops -/

/-- The session may send, and the network takes every datagram. -/
structure MaySend (sendto : ByteSpan → Bool) (s : VideoRtpSession) : Prop where
  sendEnabled : s.sendEnabled = true
  running : s.running = true
  rtpSocket : s.rtpSocket = true
  sendto : ∀ packet, sendto packet = true

variable {sendto : ByteSpan → Bool} {s : VideoRtpSession} {frame : RtpJpegFrameView}

theorem MaySend.advance (h : MaySend sendto s) (k : Nat) : MaySend sendto (s.advance k) :=
  ⟨h.sendEnabled, h.running, h.rtpSocket, h.sendto⟩

/-- A payload within the limits goes out. -/
theorem MaySend.sendRtpPayload_eq (h : MaySend sendto s) {payload : ByteSpan}
    (hne : payload ≠ []) (hlen : payload.length ≤ s.maxPayload)
    (hfits : payload.length + 12 ≤ kMaxRtpPacketBytes) (marker : Bool) (timestamp : UInt32) :
    s.sendRtpPayload sendto payload marker timestamp =
      (some (rtpPacket s.payloadType marker s.txSequence (timestamp + s.txTimestampOffset)
        s.txSsrc payload), s.advance 1) := by
  rw [sendRtpPayload, if_neg (by simp [hne, h.sendEnabled, hlen]), if_neg (by omega)]
  simp only
  rw [if_neg (by simp [h.sendEnabled, h.running, h.rtpSocket]), if_pos (h.sendto _)]
  rfl

/-- One that the packet buffer has no room for does not go out. -/
theorem sendRtpPayload_too_large {payload : ByteSpan}
    (h : kMaxRtpPacketBytes < payload.length + 12) (marker : Bool) (timestamp : UInt32) :
    s.sendRtpPayload sendto payload marker timestamp = (none, s) := by
  rw [sendRtpPayload, if_pos h, ite_self]

/-- The first packet of the frame fits the packet buffer. -/
def FirstFits (maxPayload : Nat) (frame : RtpJpegFrameView) : Prop :=
  min maxPayload ((frame.fragmentHeader 0).length + frame.scan.length) + 12 ≤ kMaxRtpPacketBytes

instance (maxPayload : Nat) (frame : RtpJpegFrameView) : Decidable (FirstFits maxPayload frame) :=
  inferInstanceAs (Decidable (_ ≤ _))

section Fragments

variable (hframe : frame.Sendable) (hscan : frame.scan.length ≤ 2 ^ 24)
  (hmax : (frame.fragmentHeader 0).length < s.maxPayload)
include hframe hscan hmax

/-- The header that the loop builds. -/
theorem sentHeader_eq {offset : Nat} (hoffset : offset < frame.scan.length) :
    buildRtpJpegFragmentHeader frame (UInt32.ofNat offset)
      (min kMaxRtpPacketBytes s.maxPayload) = frame.fragmentHeader offset := by
  have hle := length_fragmentHeader_le hframe offset
  have hfirst := length_fragmentHeader_zero_le hframe
  have hbuffer : 144 ≤ kMaxRtpPacketBytes := by decide
  exact buildHeader_eq hframe (by omega) (by omega)

/-- The loop sends all of the fragments. -/
theorem sendJpegFragments_eq (h : MaySend sendto s) (hfits : FirstFits s.maxPayload frame)
    (timestamp : UInt32) {fuel offset : Nat} (hoffset : offset ≤ frame.scan.length)
    (hfuel : frame.scan.length - offset ≤ fuel) :
    s.sendJpegFragments sendto frame timestamp fuel offset =
      ⟨rtpPackets s timestamp true s.txSequence (jpegPayloads s.maxPayload frame fuel offset),
        true, s.advance (jpegPayloads s.maxPayload frame fuel offset).length⟩ := by
  induction fuel generalizing s offset with
  | zero => rw [sendJpegFragments, jpegPayloads, rtpPackets, List.length_nil, advance_zero]
  | succ fuel ih =>
    rw [sendJpegFragments, jpegPayloads]
    by_cases hmore : offset < frame.scan.length
    · simp only [if_pos hmore, sentHeader_eq hframe hscan hmax hmore]
      have hle := length_fragmentHeader_le hframe offset
      have hpos : 0 < (frame.fragmentHeader offset).length := by
        rw [length_fragmentHeader hframe]
        omega
      generalize hsize : min (s.maxPayload - (frame.fragmentHeader offset).length)
        (frame.scan.length - offset) = size
      have hnil : frame.fragmentHeader offset ≠ [] := List.ne_nil_of_length_pos hpos
      have hlength : (frame.fragmentHeader offset ++ (frame.scan.drop offset).take size).length =
          (frame.fragmentHeader offset).length + size := by
        rw [List.length_append, List.length_take, List.length_drop]
        omega
      have hpacket := hfits
      rw [FirstFits] at hpacket
      rw [if_neg (by simp only [hnil, false_or]; omega),
        h.sendRtpPayload_eq (by simp [hnil]) (by omega) (by omega)]
      simp only
      rw [ih (s := s.advance 1) hmax (h.advance 1) hfits (by omega) (by omega), advance_advance,
        rtpPackets_advance,
        List.length_cons, rtpPackets, Nat.add_comm _ 1]
      -- the marker is on the fragment behind which there is none
      have hlast := isEmpty_jpegPayloads (s.maxPayload)
        (show frame.scan.length - (offset + size) ≤ fuel by omega)
        (show offset + size ≤ frame.scan.length by omega)
      rw [hlast]
      rfl
    · simp only [if_neg hmore]
      rw [rtpPackets, List.length_nil, advance_zero]

/-- Nothing of a frame goes out whose first packet does not fit. -/
theorem sendJpegFragments_of_not_fits (hfits : ¬FirstFits s.maxPayload frame)
    (timestamp : UInt32) (fuel : Nat) :
    (s.sendJpegFragments sendto frame timestamp fuel 0).packets = [] := by
  cases fuel with
  | zero => rfl
  | succ fuel =>
    have hmore : 0 < frame.scan.length := List.length_pos_iff.mpr hframe.scan
    rw [sendJpegFragments]
    simp only [if_pos hmore, sentHeader_eq hframe hscan hmax hmore]
    split
    · rfl
    · rw [FirstFits] at hfits
      rw [sendRtpPayload_too_large]
      rw [List.length_append, List.length_take, List.length_drop]
      omega

end Fragments

end VideoRtpSession

end EsphomeVoip
