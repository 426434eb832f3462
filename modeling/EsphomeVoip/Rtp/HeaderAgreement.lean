import EsphomeVoip.Rtp.ReceiveAudio

/-! # Two parsers of the RTP header

The receive loop of the audio (`sip_transport.cpp`) and `rtp_payload_bounds` of the video
(`video_rtp.cpp`) check the same header in another order: one strips the padding behind the
header, the other in front of it.  Here every byte is read with its place, so that a read outside of
the datagram would be seen. -/

namespace EsphomeVoip

/-- How the parse of a header ends. -/
inductive HeaderParse where
  /-- A byte was read that is not in the datagram. -/
  | outside
  | rejected
  | payload (offset size : Nat)
  deriving DecidableEq, Repr

namespace HeaderParse

/-- The payload, if there is any. -/
def nonEmpty : HeaderParse → Option (Nat × Nat)
  | payload offset size => if 0 < size then some (offset, size) else none
  | _ => none

/-- The payload, empty or not. -/
def accepted : HeaderParse → Option (Nat × Nat)
  | payload offset size => some (offset, size)
  | _ => none

/-! ## The audio path -/

/-- The padding that the receive loop takes off behind the header. -/
def audioPadding (buf : ByteSpan) (first : UInt8) (header : Nat) : HeaderParse :=
  let payloadLen := buf.length - header
  if first &&& 0x20 ≠ 0 ∧ 0 < payloadLen then
    withByte buf (buf.length - 1) outside fun pad =>
      if pad.toNat = 0 ∨ payloadLen < pad.toNat then rejected
      else payload header (payloadLen - pad.toNat)
  else payload header payloadLen

/-- The extension of the header. -/
def audioExtension (buf : ByteSpan) (first : UInt8) (header : Nat) : HeaderParse :=
  if first &&& 0x10 ≠ 0 then
    if buf.length < header + 4 then rejected
    else
      withByte buf (header + 2) outside fun high =>
        withByte buf (header + 3) outside fun low =>
          let extLen := high.toUInt16 <<< 8 ||| low.toUInt16
          let header := header + (4 + extLen.toNat * 4)
          if buf.length ≤ header then rejected else audioPadding buf first header
  else audioPadding buf first header

/-- The parse of the receive loop. -/
def audio (buf : ByteSpan) : HeaderParse :=
  if buf.length ≤ 12 then rejected
  else
    withByte buf 0 outside fun first =>
      if first &&& 0xC0 ≠ 0x80 then rejected
      else
        let header := 12 + (first &&& 0x0F).toNat * 4
        if buf.length ≤ header then rejected else audioExtension buf first header

/-! ## The video path -/

/-- The contributing sources and the extension of the header, in front of `size`. -/
def videoHeader (packet : ByteSpan) (first : UInt8) (size : Nat) : HeaderParse :=
  let payloadOffset := 12 + (first &&& 0x0F).toNat * 4
  if size < payloadOffset then rejected
  else if first &&& 0x10 ≠ 0 then
    if size < payloadOffset + 4 then rejected
    else
      withByte packet (payloadOffset + 2) outside fun high =>
        withByte packet (payloadOffset + 3) outside fun low =>
          let words := high.toUInt16 <<< 8 ||| low.toUInt16
          let payloadOffset := payloadOffset + (4 + words.toNat * 4)
          if size < payloadOffset then rejected else payload payloadOffset (size - payloadOffset)
  else payload payloadOffset (size - payloadOffset)

/-- The parse of `rtp_payload_bounds`. -/
def video (packet : ByteSpan) : HeaderParse :=
  if packet.length < 12 then rejected
  else
    withByte packet 0 outside fun first =>
      if first >>> 6 ≠ 2 then rejected
      else if first &&& 0x20 ≠ 0 then
        withByte packet (packet.length - 1) outside fun padding =>
          if padding.toNat = 0 ∨ packet.length - 12 < padding.toNat then rejected
          else videoHeader packet first (packet.length - padding.toNat)
      else videoHeader packet first packet.length

/-! ## What both decide -/

/-- Where the header ends. -/
def headerEnd (packet : ByteSpan) : Nat :=
  let header := 12 + (byteAt packet 0 &&& 0x0F).toNat * 4
  if byteAt packet 0 &&& 0x10 ≠ 0 then header + (4 + (readBe16 packet (header + 2)).toNat * 4)
  else header

/-- The length of the padding. -/
def paddingLength (packet : ByteSpan) : Nat :=
  if byteAt packet 0 &&& 0x20 ≠ 0 then (byteAt packet (packet.length - 1)).toNat else 0

/-- The payload of a packet with a header, a padding that counts itself and something between
    them. -/
def bounds (packet : ByteSpan) : Option (Nat × Nat) :=
  if byteAt packet 0 >>> 6 = 2 ∧ headerEnd packet + paddingLength packet < packet.length ∧
      (byteAt packet 0 &&& 0x20 ≠ 0 → paddingLength packet ≠ 0) then
    some (headerEnd packet, packet.length - paddingLength packet - headerEnd packet)
  else none

theorem le_headerEnd (packet : ByteSpan) : 12 ≤ headerEnd packet := by
  rw [headerEnd]
  split <;> omega

theorem version_iff (b : UInt8) : b &&& 0xC0 ≠ 0x80 ↔ b >>> 6 ≠ 2 := by
  have hall : ∀ b : UInt8, b &&& 0xC0 ≠ 0x80 ↔ b >>> 6 ≠ 2 := forall_byte (by decide)
  exact hall b

theorem bounds_eq {packet : ByteSpan} {padding : Nat} (hversion : byteAt packet 0 >>> 6 = 2)
    (hpadding : paddingLength packet = padding)
    (hcounted : byteAt packet 0 &&& 0x20 ≠ 0 → padding ≠ 0) :
    bounds packet = (payload (headerEnd packet)
      (packet.length - padding - headerEnd packet)).nonEmpty := by
  rw [bounds, hpadding, nonEmpty]
  by_cases h : headerEnd packet + padding < packet.length
  · rw [if_pos ⟨hversion, h, hcounted⟩, if_pos (by omega)]
  · rw [if_neg fun hand => h hand.2.1, if_neg (by omega)]

/-- Where the header or the padding does not fit, neither path has a payload. -/
theorem bounds_eq_none {packet : ByteSpan}
    (h : byteAt packet 0 >>> 6 = 2 → headerEnd packet + paddingLength packet < packet.length →
      byteAt packet 0 &&& 0x20 ≠ 0 ∧ paddingLength packet = 0) : bounds packet = none := by
  rw [bounds, if_neg]
  rintro ⟨hversion, hfits, hcounted⟩
  exact hcounted (h hversion hfits).1 (h hversion hfits).2

/-- The padding is taken off within the datagram. -/
theorem audioPadding_spec {buf : ByteSpan} (hversion : byteAt buf 0 >>> 6 = 2)
    (h : headerEnd buf < buf.length) :
    audioPadding buf (byteAt buf 0) (headerEnd buf) ≠ outside ∧
      (audioPadding buf (byteAt buf 0) (headerEnd buf)).nonEmpty = bounds buf := by
  rw [audioPadding]
  by_cases hpadding : byteAt buf 0 &&& 0x20 ≠ 0
  · have hlength : paddingLength buf = (byteAt buf (buf.length - 1)).toNat := by
      rw [paddingLength, if_pos hpadding]
    rw [if_pos ⟨hpadding, by omega⟩, withByte_of_lt (by omega), ← byteAt, ← hlength]
    split
    · refine ⟨HeaderParse.noConfusion, (bounds_eq_none fun _ hfits => ⟨hpadding, ?_⟩).symm⟩
      omega
    · refine ⟨HeaderParse.noConfusion, ?_⟩
      rw [bounds_eq hversion rfl (by omega), Nat.sub_right_comm]
  · rw [if_neg fun hand => hpadding hand.1]
    have hlength : paddingLength buf = 0 := if_neg hpadding
    refine ⟨HeaderParse.noConfusion, ?_⟩
    rw [bounds_eq hversion hlength fun hnot => absurd hnot hpadding, Nat.sub_zero]

theorem headerEnd_of_extension {packet : ByteSpan} (h : byteAt packet 0 &&& 0x10 ≠ 0) :
    headerEnd packet = 12 + (byteAt packet 0 &&& 0x0F).toNat * 4 +
      (4 + (readBe16 packet (12 + (byteAt packet 0 &&& 0x0F).toNat * 4 + 2)).toNat * 4) := by
  rw [headerEnd, if_pos h]

theorem headerEnd_of_no_extension {packet : ByteSpan} (h : ¬byteAt packet 0 &&& 0x10 ≠ 0) :
    headerEnd packet = 12 + (byteAt packet 0 &&& 0x0F).toNat * 4 := by
  rw [headerEnd, if_neg h]

theorem csrc_le_headerEnd (packet : ByteSpan) :
    12 + (byteAt packet 0 &&& 0x0F).toNat * 4 ≤ headerEnd packet := by
  rw [headerEnd]
  split <;> omega

/-- The extension is read within the datagram. -/
theorem audioExtension_spec {buf : ByteSpan} (hversion : byteAt buf 0 >>> 6 = 2)
    (h : 12 + (byteAt buf 0 &&& 0x0F).toNat * 4 < buf.length) :
    audioExtension buf (byteAt buf 0) (12 + (byteAt buf 0 &&& 0x0F).toNat * 4) ≠ outside ∧
      (audioExtension buf (byteAt buf 0) (12 + (byteAt buf 0 &&& 0x0F).toNat * 4)).nonEmpty =
        bounds buf := by
  rw [audioExtension]
  by_cases hextension : byteAt buf 0 &&& 0x10 ≠ 0
  · have hend := headerEnd_of_extension hextension
    rw [if_pos hextension]
    split
    · exact ⟨nofun, (bounds_eq_none fun _ hfits => by omega).symm⟩
    · rw [withByte_of_lt (by omega), withByte_of_lt (by omega), ← byteAt, ← byteAt]
      have hwords : ∀ i, (byteAt buf (i + 2)).toUInt16 <<< 8 ||| (byteAt buf (i + 3)).toUInt16 =
          readBe16 buf (i + 2) := fun _ => rfl
      dsimp only
      rw [hwords, ← hend]
      split
      · exact ⟨nofun, (bounds_eq_none fun _ hfits => by omega).symm⟩
      · exact audioPadding_spec hversion (by omega)
  · have hend := headerEnd_of_no_extension hextension
    rw [if_neg hextension, ← hend]
    exact audioPadding_spec hversion (by omega)

theorem audio_spec (buf : ByteSpan) : audio buf ≠ outside ∧ (audio buf).nonEmpty = bounds buf := by
  have hleast := le_headerEnd buf
  rw [audio]
  split
  · exact ⟨nofun, (bounds_eq_none fun _ _ => by omega).symm⟩
  · rw [withByte_of_lt (by omega), ← byteAt]
    by_cases hversion : byteAt buf 0 >>> 6 = 2
    · rw [if_neg fun h => (version_iff _).mp h hversion]
      dsimp only
      split
      · rename_i hshort
        refine ⟨nofun, (bounds_eq_none fun _ hfits => ?_).symm⟩
        have := csrc_le_headerEnd buf
        omega
      · exact audioExtension_spec hversion (by omega)
    · rw [if_pos ((version_iff _).mpr hversion)]
      exact ⟨nofun, (bounds_eq_none fun h => absurd h hversion).symm⟩

/-- The header is read within what is in front of the padding. -/
theorem videoHeader_spec {packet : ByteSpan} {size : Nat} (hversion : byteAt packet 0 >>> 6 = 2)
    (hsize : packet.length - paddingLength packet = size)
    (hcounted : byteAt packet 0 &&& 0x20 ≠ 0 → paddingLength packet ≠ 0) :
    videoHeader packet (byteAt packet 0) size ≠ outside ∧
      (videoHeader packet (byteAt packet 0) size).nonEmpty = bounds packet := by
  have hleast := csrc_le_headerEnd packet
  have hbounds := bounds_eq hversion rfl hcounted
  rw [videoHeader]
  split
  · exact ⟨HeaderParse.noConfusion, (bounds_eq_none fun _ hfits => by omega).symm⟩
  · by_cases hextension : byteAt packet 0 &&& 0x10 ≠ 0
    · have hend := headerEnd_of_extension hextension
      rw [if_pos hextension]
      split
      · exact ⟨HeaderParse.noConfusion, (bounds_eq_none fun _ hfits => by omega).symm⟩
      · rw [withByte_of_lt (by omega), withByte_of_lt (by omega), ← byteAt, ← byteAt]
        have hwords : ∀ i, (byteAt packet (i + 2)).toUInt16 <<< 8 |||
            (byteAt packet (i + 3)).toUInt16 = readBe16 packet (i + 2) := fun _ => rfl
        dsimp only
        rw [hwords, ← hend]
        split
        · exact ⟨HeaderParse.noConfusion, (bounds_eq_none fun _ hfits => by omega).symm⟩
        · rw [hbounds, hsize]
          exact ⟨HeaderParse.noConfusion, rfl⟩
    · have hend := headerEnd_of_no_extension hextension
      rw [if_neg hextension, ← hend, hbounds, hsize]
      exact ⟨HeaderParse.noConfusion, rfl⟩

theorem video_spec (packet : ByteSpan) :
    video packet ≠ outside ∧ (video packet).nonEmpty = bounds packet := by
  have hleast := le_headerEnd packet
  rw [video]
  split
  · exact ⟨nofun, (bounds_eq_none fun _ _ => by omega).symm⟩
  · rw [withByte_of_lt (by omega), ← byteAt]
    split
    · rename_i hversion
      exact ⟨nofun, (bounds_eq_none fun h => absurd h hversion).symm⟩
    · rename_i hversion
      rw [Decidable.not_not] at hversion
      by_cases hpadding : byteAt packet 0 &&& 0x20 ≠ 0
      · have hlength : paddingLength packet = (byteAt packet (packet.length - 1)).toNat := by
          rw [paddingLength, if_pos hpadding]
        rw [if_pos hpadding, withByte_of_lt (by omega), ← byteAt, ← hlength]
        split
        · exact ⟨nofun, (bounds_eq_none fun _ hfits => ⟨hpadding, by omega⟩).symm⟩
        · exact videoHeader_spec hversion rfl fun _ => by omega
      · have hlength : paddingLength packet = 0 := if_neg hpadding
        rw [if_neg hpadding]
        refine videoHeader_spec hversion ?_ fun h => absurd h hpadding
        rw [hlength, Nat.sub_zero]

/-! ## The parsers of the two sessions -/

/-- The bounds of the video session are those of the parse. -/
theorem accepted_video (packet : ByteSpan) : (video packet).accepted = rtpPayloadBounds packet := by
  -- The two walks over sources and extension agree.
  have hheader (size : Nat) (hsize : size ≤ packet.length) (h : 0 < packet.length) :
      (videoHeader packet (byteAt packet 0) size).accepted =
        if size < 12 + (byteAt packet 0 &&& 0x0F).toNat * 4 then none
        else (endOfExtension packet size (12 + (byteAt packet 0 &&& 0x0F).toNat * 4)).map
          fun offset => (offset, size - offset) := by
    rw [videoHeader, endOfExtension]
    dsimp only
    generalize 12 + (byteAt packet 0 &&& 0x0F).toNat * 4 = header
    split
    · rfl
    · by_cases hextension : byteAt packet 0 &&& 0x10 = 0
      · rw [if_neg (by simpa using hextension), if_pos hextension]
        rfl
      · rw [if_pos hextension, if_neg hextension]
        split
        · rfl
        · have hwords : ∀ i, (byteAt packet (i + 2)).toUInt16 <<< 8 |||
              (byteAt packet (i + 3)).toUInt16 = readBe16 packet (i + 2) := fun _ => rfl
          rw [withByte_of_lt (by omega), withByte_of_lt (by omega), ← byteAt, ← byteAt, hwords,
            Nat.add_assoc header 4]
          split <;> rfl
  rw [video, rtpPayloadBounds]
  split
  · rename_i hshort
    rw [if_pos (.inl hshort)]
    rfl
  · rename_i hshort
    rw [withByte_of_lt (by omega), ← byteAt, rtpVersion]
    -- The version and the padding are looked at in the same way.
    by_cases hversion : byteAt packet 0 >>> 6 = 2
    · have hlong : ¬(packet.length < 12 ∨ byteAt packet 0 >>> 6 ≠ 2) := by
        rw [not_or, Decidable.not_not]
        exact ⟨hshort, hversion⟩
      rw [if_neg fun h => h hversion, if_neg hlong, sizeBeforePadding]
      by_cases hpadding : byteAt packet 0 &&& 0x20 = 0
      · rw [if_neg (by simpa using hpadding), if_pos hpadding, hheader _ (Nat.le_refl _) (by omega)]
      · rw [if_pos hpadding, if_neg hpadding, withByte_of_lt (by omega), ← byteAt]
        dsimp only
        split
        · rfl
        · rw [hheader _ (Nat.sub_le _ _) (by omega)]
    · rw [if_pos hversion, if_pos (.inr hversion)]
      rfl

/-- What the receive loop hands to the decoder is the payload of the parse. -/
theorem strippedPayload_eq (buf : ByteSpan) :
    strippedPayload buf = (audio buf).accepted.map fun (offset, size) =>
      (buf.drop offset).take size := by
  -- The two readers of the padding agree behind every header that fits.
  have hpadding (header : Nat) (hheader : header < buf.length) : audioPayload buf header =
      (audioPadding buf (byteAt buf 0) header).accepted.map fun (offset, size) =>
        (buf.drop offset).take size := by
    rw [audioPayload, audioPadding]
    dsimp only
    split
    · rw [withByte_of_lt (by omega), ← byteAt]
      split <;> rfl
    · have hall : (buf.drop header).take (buf.length - header) = buf.drop header :=
        List.take_of_length_le (Nat.le_of_eq List.length_drop)
      simp [accepted, hall]
  rw [strippedPayload, audio]
  -- The fixed header comes first, then the sources, then the extension.
  by_cases hshort : buf.length ≤ 12
  · rw [if_pos (.inl hshort), if_pos hshort]
    rfl
  · rw [if_neg hshort, withByte_of_lt (by omega), ← byteAt]
    by_cases hversion : byteAt buf 0 &&& 0xC0 ≠ 0x80
    · rw [if_pos (.inr hversion), if_pos hversion]
      rfl
    · have hlong : ¬(buf.length ≤ 12 ∨ byteAt buf 0 &&& 0xC0 ≠ 0x80) := by
        rw [not_or]
        exact ⟨hshort, hversion⟩
      rw [if_neg hlong, if_neg hversion, audioHeader]
      dsimp only
      -- from here on only the length of header and sources matters
      generalize 12 + (byteAt buf 0 &&& 0x0F).toNat * 4 = header
      split
      · rfl
      · rw [audioExtension]
        by_cases hextension : byteAt buf 0 &&& 0x10 = 0
        · rw [if_pos hextension, if_neg (by simpa using hextension), Option.bind_some]
          exact hpadding _ (by omega)
        · rw [if_neg hextension, if_pos hextension]
          split
          · rfl
          · have hwords : ∀ i, (byteAt buf (i + 2)).toUInt16 <<< 8 |||
                (byteAt buf (i + 3)).toUInt16 = readBe16 buf (i + 2) := fun _ => rfl
            rw [withByte_of_lt (by omega), withByte_of_lt (by omega), ← byteAt, ← byteAt, hwords]
            dsimp only
            rw [← Nat.add_assoc header 4]
            split
            · rfl
            · rw [Option.bind_some]
              exact hpadding _ (by omega)

/-! ## Agreement -/

theorem bounds_within (packet : ByteSpan) :
    (bounds packet).all (fun (offset, size) => offset + size ≤ packet.length) = true := by
  rw [bounds]
  split
  · rename_i h
    rw [Option.all_some, decide_eq_true_iff]
    omega
  · rfl

/-- Both paths find the same payload in a datagram, if it is not empty, it is within the datagram,
    and neither path reads a byte outside of it. -/
theorem agree (packet : ByteSpan) :
    audio packet ≠ outside ∧ video packet ≠ outside ∧
      (audio packet).nonEmpty = (video packet).nonEmpty ∧
      (audio packet).nonEmpty.all (fun (offset, size) => offset + size ≤ packet.length) = true := by
  obtain ⟨haudio, hsame⟩ := audio_spec packet
  obtain ⟨hvideo, hsame'⟩ := video_spec packet
  rw [hsame, hsame']
  exact ⟨haudio, hvideo, rfl, bounds_within packet⟩

end HeaderParse

end EsphomeVoip
