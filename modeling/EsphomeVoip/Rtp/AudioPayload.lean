import EsphomeVoip.ForStd.Bytes
import EsphomeVoip.Sdp.RtpFormat
import EsphomeVoip.Video.AnnexB

/-! # PCM on the wire (`sip_message.cpp`)

PCM is little endian in memory and big endian in a payload, and 24 bits that lie in 32 in memory
lose the upper byte on the wire. -/

namespace EsphomeVoip

/-- Two bytes turned round, one sample after the other. -/
def swap16 : ByteSpan → ByteSpan
  | a :: b :: rest => b :: a :: swap16 rest
  | _ => []

/-- Three bytes turned round. -/
def swap24 : ByteSpan → ByteSpan
  | a :: b :: c :: rest => c :: b :: a :: swap24 rest
  | _ => []

/-- The lower three of four bytes turned round. -/
def narrow32 : ByteSpan → ByteSpan
  | a :: b :: c :: _ :: rest => c :: b :: a :: narrow32 rest
  | _ => []

/-- Three bytes turned round, and a fourth with their sign. -/
def widen24 : ByteSpan → ByteSpan
  | a :: b :: c :: rest => c :: b :: a :: (if a &&& 0x80 != 0 then 0xFF else 0) :: widen24 rest
  | _ => []

/-- `pcm_to_rtp_payload`: what is written, nothing for zero. -/
def pcmToRtpPayload (pcm : ByteSpan) (format : AudioFormat) (cap : Nat) : ByteSpan :=
  match format.pcmFormat with
  | .s16le => if pcm.length % 2 ≠ 0 ∨ cap < pcm.length then [] else swap16 pcm
  | .s24le => if pcm.length % 3 ≠ 0 ∨ cap < pcm.length then [] else swap24 pcm
  | .s24leInS32 => if pcm.length % 4 ≠ 0 ∨ cap < pcm.length / 4 * 3 then [] else narrow32 pcm
  | .s32le => []

/-- `rtp_payload_to_pcm`: what is written, nothing for zero. -/
def rtpPayloadToPcm (payload : ByteSpan) (format : AudioFormat) (cap : Nat) : ByteSpan :=
  match format.pcmFormat with
  | .s16le => if payload.length % 2 ≠ 0 ∨ cap < payload.length then [] else swap16 payload
  | .s24le => if payload.length % 3 ≠ 0 ∨ cap < payload.length then [] else swap24 payload
  | .s24leInS32 =>
    if payload.length % 3 ≠ 0 ∨ cap < payload.length / 3 * 4 then [] else widen24 payload
  | .s32le => []

theorem AudioFormat.containerBytesPerSample_pos (f : AudioFormat) :
    0 < f.containerBytesPerSample := by
  rw [containerBytesPerSample]
  split <;> decide

theorem AudioFormat.rtpBytesPerSample_pos (f : AudioFormat) : 0 < f.rtpBytesPerSample := by
  rw [rtpBytesPerSample]
  split
  · decide
  · exact f.containerBytesPerSample_pos

theorem length_swap16 (bytes : ByteSpan) : (swap16 bytes).length = bytes.length / 2 * 2 := by
  fun_induction swap16 bytes with
  | case1 a b rest ih =>
    simp only [List.length_cons, ih]
    omega
  | case2 bytes h =>
    match bytes, h with
    | [], _ => rfl
    | [_], _ => simp
    | a :: b :: rest, h => exact (h a b rest rfl).elim

theorem length_swap24 (bytes : ByteSpan) : (swap24 bytes).length = bytes.length / 3 * 3 := by
  fun_induction swap24 bytes with
  | case1 a b c rest ih =>
    simp only [List.length_cons, ih]
    omega
  | case2 bytes h =>
    match bytes, h with
    | [], _ => rfl
    | [_], _ => simp
    | [_, _], _ => simp
    | a :: b :: c :: rest, h => exact (h a b c rest rfl).elim

theorem length_narrow32 (bytes : ByteSpan) : (narrow32 bytes).length = bytes.length / 4 * 3 := by
  fun_induction narrow32 bytes with
  | case1 a b c d rest ih =>
    simp only [List.length_cons, ih]
    omega
  | case2 bytes h =>
    match bytes, h with
    | [], _ => rfl
    | [_], _ => simp
    | [_, _], _ => simp
    | [_, _, _], _ => simp
    | a :: b :: c :: d :: rest, h => exact (h a b c d rest rfl).elim

theorem length_widen24 (bytes : ByteSpan) : (widen24 bytes).length = bytes.length / 3 * 4 := by
  fun_induction widen24 bytes with
  | case1 a b c rest ih =>
    simp only [List.length_cons, ih]
    omega
  | case2 bytes h =>
    match bytes, h with
    | [], _ => rfl
    | [_], _ => simp
    | [_, _], _ => simp
    | a :: b :: c :: rest, h => exact (h a b c rest rfl).elim

/-- A payload that is read as the bytes of one frame is as long as one frame is on the wire. -/
theorem length_of_rtpPayloadToPcm {payload : ByteSpan} {format : AudioFormat} {cap : Nat}
    (hne : rtpPayloadToPcm payload format cap ≠ [])
    (hlength : (rtpPayloadToPcm payload format cap).length = format.nominalFrameBytes) :
    payload ≠ [] ∧ payload.length = format.nominalRtpPayloadBytes := by
  rw [rtpPayloadToPcm] at hne hlength
  rw [AudioFormat.nominalFrameBytes, AudioFormat.containerBytesPerSample] at hlength
  rw [AudioFormat.nominalRtpPayloadBytes, AudioFormat.rtpBytesPerSample,
    AudioFormat.containerBytesPerSample]
  cases hformat : format.pcmFormat <;> simp only [hformat] at hne hlength ⊢
  case s32le => exact absurd rfl hne
  all_goals
    split at hne
    · exact absurd rfl hne
    · rename_i hcap
      rw [if_neg hcap] at hlength
      have hwhole := Decidable.not_not.mp (not_or.mp hcap).1
      refine ⟨fun hnil => hne (by rw [hnil]; rfl), ?_⟩
      generalize format.nominalFrameSamples * format.channels = n at hlength
      simp only [length_swap16, length_swap24, length_widen24] at hlength
      simp only [reduceCtorEq, if_false, if_true]
      omega

/-! ## Round trips -/

/-- Samples of 24 bits in words: the upper byte of each is the sign of the lower three. -/
def signExtendLow24 : ByteSpan → ByteSpan
  | a :: b :: c :: d :: rest =>
    leBytes32 (((leWord32 a b c d).setWidth 24).signExtend 32) ++ signExtendLow24 rest
  | _ => []

/-- What becomes of samples that are sent and read back. -/
def AudioFormat.readBack (f : AudioFormat) (pcm : ByteSpan) : ByteSpan :=
  if f.pcmFormat = .s24leInS32 then signExtendLow24 pcm else pcm

theorem swap16_swap16 {bytes : ByteSpan} (h : bytes.length % 2 = 0) :
    swap16 (swap16 bytes) = bytes := by
  fun_induction swap16 bytes with
  | case1 a b rest ih =>
    simp only [List.length_cons] at h
    rw [swap16, ih (by omega)]
  | case2 bytes hshort =>
    match bytes, hshort with
    | [], _ => rfl
    | [_], _ => simp at h
    | a :: b :: rest, hshort => exact (hshort a b rest rfl).elim

theorem swap24_swap24 {bytes : ByteSpan} (h : bytes.length % 3 = 0) :
    swap24 (swap24 bytes) = bytes := by
  fun_induction swap24 bytes with
  | case1 a b c rest ih =>
    simp only [List.length_cons] at h
    rw [swap24, ih (by omega)]
  | case2 bytes hshort =>
    match bytes, hshort with
    | [], _ => rfl
    | [_], _ => simp at h
    | [_, _], _ => simp at h
    | a :: b :: c :: rest, hshort => exact (hshort a b c rest rfl).elim

theorem narrow32_widen24 {bytes : ByteSpan} (h : bytes.length % 3 = 0) :
    narrow32 (widen24 bytes) = bytes := by
  fun_induction widen24 bytes with
  | case1 a b c rest ih =>
    simp only [List.length_cons] at h
    rw [narrow32, ih (by omega)]
  | case2 bytes hshort =>
    match bytes, hshort with
    | [], _ => rfl
    | [_], _ => simp at h
    | [_, _], _ => simp at h
    | a :: b :: c :: rest, hshort => exact (hshort a b c rest rfl).elim

theorem widen24_narrow32 (bytes : ByteSpan) : widen24 (narrow32 bytes) = signExtendLow24 bytes := by
  fun_induction narrow32 bytes with
  | case1 a b c d rest ih =>
    rw [widen24, ih, signExtendLow24, signExtend_leWord32, leBytes32_leWord32]
    rfl
  | case2 bytes hshort =>
    match bytes, hshort with
    | [], _ => rfl
    | [_], _ => rfl
    | [_, _], _ => rfl
    | [_, _, _], _ => rfl
    | a :: b :: c :: d :: rest, hshort => exact (hshort a b c d rest rfl).elim

/-- A whole buffer in the order of the wire. -/
def AudioFormat.wireBytes (f : AudioFormat) (pcm : ByteSpan) : ByteSpan :=
  match f.pcmFormat with
  | .s16le => swap16 pcm
  | .s24le => swap24 pcm
  | .s24leInS32 => narrow32 pcm
  | .s32le => []

/-- A whole payload in the order of memory. -/
def AudioFormat.memoryBytes (f : AudioFormat) (payload : ByteSpan) : ByteSpan :=
  match f.pcmFormat with
  | .s16le => swap16 payload
  | .s24le => swap24 payload
  | .s24leInS32 => widen24 payload
  | .s32le => []

section

variable {format : AudioFormat} {pcm payload : ByteSpan} {cap : Nat}

theorem pcmToRtpPayload_whole (hwhole : pcm.length % format.containerBytesPerSample = 0)
    (hcap : pcm.length / format.containerBytesPerSample * format.rtpBytesPerSample ≤ cap) :
    pcmToRtpPayload pcm format cap = format.wireBytes pcm := by
  rw [pcmToRtpPayload, AudioFormat.wireBytes]
  rw [AudioFormat.rtpBytesPerSample] at hcap
  rw [AudioFormat.containerBytesPerSample] at hwhole hcap
  cases hpcm : format.pcmFormat <;>
    simp only [hpcm, reduceCtorEq, if_false, if_true] at hwhole hcap ⊢
  all_goals exact if_neg (by omega)

theorem rtpPayloadToPcm_whole (hwhole : payload.length % format.rtpBytesPerSample = 0)
    (hcap : payload.length / format.rtpBytesPerSample * format.containerBytesPerSample ≤ cap) :
    rtpPayloadToPcm payload format cap = format.memoryBytes payload := by
  rw [rtpPayloadToPcm, AudioFormat.memoryBytes]
  rw [AudioFormat.rtpBytesPerSample] at hwhole hcap
  rw [AudioFormat.containerBytesPerSample] at hwhole hcap
  cases hpcm : format.pcmFormat <;>
    simp only [hpcm, reduceCtorEq, if_false, if_true] at hwhole hcap ⊢
  all_goals exact if_neg (by omega)

theorem length_wireBytes (hformat : format.pcmFormat ≠ .s32le) (pcm : ByteSpan) :
    (format.wireBytes pcm).length =
      pcm.length / format.containerBytesPerSample * format.rtpBytesPerSample := by
  rw [AudioFormat.wireBytes, AudioFormat.rtpBytesPerSample, AudioFormat.containerBytesPerSample]
  cases hpcm : format.pcmFormat <;> simp only [reduceCtorEq, if_false, if_true]
  case s32le => exact absurd hpcm hformat
  case s24leInS32 => exact length_narrow32 pcm
  case s16le => exact length_swap16 pcm
  case s24le => exact length_swap24 pcm

theorem length_memoryBytes (hformat : format.pcmFormat ≠ .s32le) (payload : ByteSpan) :
    (format.memoryBytes payload).length =
      payload.length / format.rtpBytesPerSample * format.containerBytesPerSample := by
  rw [AudioFormat.memoryBytes, AudioFormat.rtpBytesPerSample, AudioFormat.containerBytesPerSample]
  cases hpcm : format.pcmFormat <;> simp only [reduceCtorEq, if_false, if_true]
  case s32le => exact absurd hpcm hformat
  case s24leInS32 => exact length_widen24 payload
  case s16le => exact length_swap16 payload
  case s24le => exact length_swap24 payload

theorem memoryBytes_wireBytes (hformat : format.pcmFormat ≠ .s32le)
    (hwhole : pcm.length % format.containerBytesPerSample = 0) :
    format.memoryBytes (format.wireBytes pcm) = format.readBack pcm := by
  rw [AudioFormat.memoryBytes, AudioFormat.wireBytes, AudioFormat.readBack]
  rw [AudioFormat.containerBytesPerSample] at hwhole
  cases hpcm : format.pcmFormat <;> simp only [hpcm, reduceCtorEq, if_false, if_true] at hwhole ⊢
  case s32le => exact absurd hpcm hformat
  case s24leInS32 => exact widen24_narrow32 pcm
  case s16le => exact swap16_swap16 hwhole
  case s24le => exact swap24_swap24 hwhole

theorem wireBytes_memoryBytes (hformat : format.pcmFormat ≠ .s32le)
    (hwhole : payload.length % format.rtpBytesPerSample = 0) :
    format.wireBytes (format.memoryBytes payload) = payload := by
  rw [AudioFormat.wireBytes, AudioFormat.memoryBytes]
  rw [AudioFormat.rtpBytesPerSample, AudioFormat.containerBytesPerSample] at hwhole
  cases hpcm : format.pcmFormat <;> simp only [hpcm, reduceCtorEq, if_false, if_true] at hwhole ⊢
  case s32le => exact absurd hpcm hformat
  case s24leInS32 => exact narrow32_widen24 hwhole
  case s16le => exact swap16_swap16 hwhole
  case s24le => exact swap24_swap24 hwhole

end

/-- What is written stays within the capacity. -/
theorem length_pcmToRtpPayload_le (pcm : ByteSpan) (format : AudioFormat) (cap : Nat) :
    (pcmToRtpPayload pcm format cap).length ≤ cap := by
  rw [pcmToRtpPayload]
  cases format.pcmFormat <;> dsimp only
  case s32le => exact Nat.zero_le _
  all_goals
    split
    · exact Nat.zero_le _
    · simp only [length_swap16, length_swap24, length_narrow32]
      omega

/-- What is read stays within the capacity. -/
theorem length_rtpPayloadToPcm_le (payload : ByteSpan) (format : AudioFormat) (cap : Nat) :
    (rtpPayloadToPcm payload format cap).length ≤ cap := by
  rw [rtpPayloadToPcm]
  cases format.pcmFormat <;> dsimp only
  case s32le => exact Nat.zero_le _
  all_goals
    split
    · exact Nat.zero_le _
    · simp only [length_swap16, length_swap24, length_widen24]
      omega

/-- The samples of a whole buffer that fits are sent and read back, and a whole payload is read and
    sent again as it was. -/
theorem pcm_payload_round_trip (format : AudioFormat) (hformat : format.pcmFormat ≠ .s32le) :
    (∀ pcm cap, pcm.length % format.containerBytesPerSample = 0 →
      pcm.length / format.containerBytesPerSample * format.rtpBytesPerSample ≤ cap →
      (pcmToRtpPayload pcm format cap).length =
          pcm.length / format.containerBytesPerSample * format.rtpBytesPerSample ∧
        ∀ pcmCap, pcm.length ≤ pcmCap →
          rtpPayloadToPcm (pcmToRtpPayload pcm format cap) format pcmCap = format.readBack pcm) ∧
    (∀ payload cap, payload.length % format.rtpBytesPerSample = 0 →
      payload.length / format.rtpBytesPerSample * format.containerBytesPerSample ≤ cap →
      (rtpPayloadToPcm payload format cap).length =
          payload.length / format.rtpBytesPerSample * format.containerBytesPerSample ∧
        ∀ payloadCap, payload.length ≤ payloadCap →
          pcmToRtpPayload (rtpPayloadToPcm payload format cap) format payloadCap = payload) ∧
    ∀ bytes cap, (pcmToRtpPayload bytes format cap).length ≤ cap ∧
      (rtpPayloadToPcm bytes format cap).length ≤ cap := by
  have hcontainer : 0 < format.containerBytesPerSample := format.containerBytesPerSample_pos
  have hrtp : 0 < format.rtpBytesPerSample := format.rtpBytesPerSample_pos
  refine ⟨fun pcm cap hwhole hcap => ?_, fun payload cap hwhole hcap => ?_,
    fun bytes cap => ⟨length_pcmToRtpPayload_le bytes format cap,
      length_rtpPayloadToPcm_le bytes format cap⟩⟩
  · have hlength := length_wireBytes hformat pcm
    rw [pcmToRtpPayload_whole hwhole hcap]
    refine ⟨hlength, fun pcmCap hpcmCap => ?_⟩
    rw [rtpPayloadToPcm_whole, memoryBytes_wireBytes hformat hwhole]
    · rw [hlength, Nat.mul_mod_left]
    · rw [hlength, Nat.mul_div_cancel _ hrtp,
        Nat.div_mul_cancel (Nat.dvd_of_mod_eq_zero hwhole)]
      exact hpcmCap
  · have hlength := length_memoryBytes hformat payload
    rw [rtpPayloadToPcm_whole hwhole hcap]
    refine ⟨hlength, fun payloadCap hpayloadCap => ?_⟩
    rw [pcmToRtpPayload_whole, wireBytes_memoryBytes hformat hwhole]
    · rw [hlength, Nat.mul_mod_left]
    · rw [hlength, Nat.mul_div_cancel _ hcontainer,
        Nat.div_mul_cancel (Nat.dvd_of_mod_eq_zero hwhole)]
      exact hpayloadCap

/-- Two samples in words, one below zero. -/
theorem words_round_trip :
    pcmToRtpPayload [1, 2, 0x83, 0, 4, 5, 6, 0xFF] { pcmFormat := .s24leInS32 } 6 =
        [0x83, 2, 1, 6, 5, 4] ∧
      rtpPayloadToPcm (pcmToRtpPayload [1, 2, 0x83, 0, 4, 5, 6, 0xFF]
        { pcmFormat := .s24leInS32 } 6) { pcmFormat := .s24leInS32 } 8 =
        [1, 2, 0x83, 0xFF, 4, 5, 6, 0] := by
  have htrip := pcm_payload_round_trip { pcmFormat := .s24leInS32 } (by decide)
  refine ⟨by decide, ?_⟩
  rw [(htrip.1 [1, 2, 0x83, 0, 4, 5, 6, 0xFF] 6 (by decide) (by decide)).2 8 (by decide)]
  decide

end EsphomeVoip
