import EsphomeVoip.Sdp.AudioEntries

/-! # Reading the entries of a written SDP (`learn_remote_rtp_from_sdp_`)

The loops that read an SDP find in a text of this program what has been written: the payload types
in their order, each with its format as it is on the wire and with its flow. -/

namespace EsphomeVoip

namespace Sdp

/-! ## Fields -/

theorem isDigit_of_getLast_payloadList {payloads : List Nat} :
    ∀ c ∈ (payloadList payloads).getLast?, c.isDigit = true := by
  cases payloads with
  | nil => exact fun _ h => nomatch h
  | cons pt payloads =>
    rw [payloadList_cons]
    apply Search.getLast_behind
    intro field hfield
    rw [← List.map_cons] at hfield
    obtain ⟨n, -, rfl⟩ := List.mem_map.mp hfield
    exact ⟨decimal_ne_nil n, fun c hc => isDigit_of_mem_decimal (List.mem_of_getLast? hc)⟩

/-- A number in front and a last character that is no blank. -/
theorem trimCopy_number {n : Nat} {rest : Text} (hrest : ∀ c ∈ rest.getLast?, isBlank c = false) :
    trimCopy (decimal n ++ rest) = decimal n ++ rest := by
  apply trimCopy_eq_self
  · intro c hc
    cases hdigits : decimal n with
    | nil => exact absurd hdigits (decimal_ne_nil n)
    | cons d digits =>
      rw [hdigits, List.cons_append, List.head?_cons] at hc
      cases hc
      exact not_isBlank_of_isDigit (isDigit_of_mem_decimal (hdigits ▸ List.mem_cons_self))
  · intro c hc
    rw [List.getLast?_append] at hc
    cases hlast : rest.getLast? with
    | some d =>
      rw [hlast] at hc
      cases hc
      exact hrest _ hlast
    | none =>
      rw [hlast, Option.none_or] at hc
      exact not_isBlank_of_isDigit (isDigit_of_mem_decimal (List.mem_of_getLast? hc))

theorem isSpace_of_mem_decimal {n : Nat} : ∀ c ∈ decimal n, isSpace c = false := fun _ hc =>
  isSpace_of_isBlank (not_isBlank_of_isDigit (isDigit_of_mem_decimal hc))

/-- Payload types are read back. -/
theorem mapM_decimal {payloads : List Nat} (h : ∀ pt ∈ payloads, pt ≤ 127) :
    (payloads.map decimal).mapM (fun p => parseDecimalU32 p 127) = some payloads := by
  induction payloads with
  | nil => rfl
  | cons pt payloads ih =>
    rw [List.forall_mem_cons] at h
    rw [List.map_cons, List.mapM_cons, parseDecimalU32_decimal h.1, ih h.2]
    rfl

/-- The media line of an audio section. -/
theorem mediaHead_audio (port : Nat) (payloads : List Nat) :
    mediaHead "audio" port (payloadList payloads) = "m=audio ".toList ++ (decimal port ++
      Search.behind ' ' ["RTP/AVP".toList] ++ ' ' :: payloadList payloads) := by
  unfold mediaHead
  simp [Search.behind]

theorem parseAudioMediaLine_mediaHead {port : Nat} {payloads : List Nat} (hport : port ≤ 65535)
    (hpayloads : ∀ pt ∈ payloads, pt ≤ 127) (hne : payloads ≠ []) :
    parseAudioMediaLine (mediaHead "audio" port (payloadList payloads)) =
      if port = 0 then none else some (port, payloads) := by
  cases payloads with
  | nil => exact absurd rfl hne
  | cons pt rest =>
    -- The line is a port, the protocol and the payload types, each behind a blank,
    have hbehind : decimal port ++ Search.behind ' ' ["RTP/AVP".toList] ++
        ' ' :: payloadList (pt :: rest) =
        decimal port ++ Search.behind ' ' ("RTP/AVP".toList :: (pt :: rest).map decimal) := by
      rw [payloadList_cons]
      simp [Search.behind]
    -- so its fields are these,
    have hfields : fields (decimal port ++
        Search.behind ' ' ("RTP/AVP".toList :: (pt :: rest).map decimal)) =
        decimal port :: "RTP/AVP".toList :: (pt :: rest).map decimal := by
      apply Search.fields_behind (by decide)
      rw [List.forall_mem_cons, List.forall_mem_cons, List.forall_mem_map]
      exact ⟨⟨decimal_ne_nil port, isSpace_of_mem_decimal⟩, by simp [isSpace],
        fun n _ => ⟨decimal_ne_nil n, isSpace_of_mem_decimal⟩⟩
    -- and trimming takes nothing from its end.
    have hlast : ∀ c ∈ (Search.behind ' ' ["RTP/AVP".toList] ++
        ' ' :: payloadList (pt :: rest)).getLast?, isBlank c = false := by
      intro c hc
      rw [List.getLast?_append, List.getLast?_cons] at hc
      cases hlast : (payloadList (pt :: rest)).getLast? with
      | none =>
        rw [List.getLast?_eq_none_iff, payloadList_cons] at hlast
        exact absurd (List.append_eq_nil_iff.mp hlast).1 (decimal_ne_nil pt)
      | some d =>
        rw [hlast] at hc
        cases hc
        exact not_isBlank_of_isDigit (isDigit_of_getLast_payloadList d hlast)
    have hstart : startsWith ("m=audio ".toList ++ (decimal port ++
        Search.behind ' ' ["RTP/AVP".toList] ++ ' ' :: payloadList (pt :: rest))) "m=audio " =
          true := by
      rw [startsWith, List.isPrefixOf_iff_prefix]
      exact List.prefix_append _ _
    rw [mediaHead_audio, parseAudioMediaLine, parseMediaLine, if_neg (by rw [hstart]; decide),
      List.drop_left, List.append_assoc, trimCopy_number hlast, ← List.append_assoc,
        hbehind, hfields]
    simp only [ne_eq, not_true_eq_false, if_false, parseDecimalU32_decimal hport,
      mapM_decimal hpayloads, hne]
    -- the parser takes port 0 for a refusal
    by_cases hzero : port = 0
    · rw [if_pos hzero, Option.filter_eq_none_iff]
      rintro _ ⟨⟩
      simp [hzero]
    · rw [if_neg hzero, Option.filter_eq_some_iff]
      simp [hzero]

theorem rankPayloads_mediaHead (port : Nat) {payloads : List Nat}
    (hpayloads : ∀ pt ∈ payloads, pt ≤ 127) (hne : payloads ≠ []) :
    rankPayloads (mediaHead "audio" port (payloadList payloads)) = some payloads := by
  have hline : mediaHead "audio" port (payloadList payloads) =
      ("m=audio ".toList ++ decimal port ++ [' ']) ++
        ("RTP/AVP".toList ++ ' ' :: payloadList payloads) := by
    unfold mediaHead
    simp
  have hfind : Search.find "RTP/AVP".toList (("m=audio ".toList ++ decimal port ++ [' ']) ++
      ("RTP/AVP".toList ++ ' ' :: payloadList payloads)) =
      some ("m=audio ".toList ++ decimal port ++ [' ']).length := by
    apply Search.find_eq _ (List.prefix_append _ _)
    apply Search.clear_of_not_mem
    simp only [List.mem_append, not_or]
    exact ⟨⟨by decide, fun h => absurd (isDigit_of_mem_decimal h) (by decide)⟩, by decide⟩
  have hlen : ("RTP/AVP".toList).length = 7 := rfl
  rw [hline, rankPayloads, hfind]
  simp only [Option.getD_some]
  rw [← List.drop_drop, List.drop_left, ← hlen, List.drop_left, fields,
    Search.fields_sep (by decide)]
  cases payloads with
  | nil => exact absurd rfl hne
  | cons pt rest =>
    rw [payloadList_cons, Search.fields_behind (by decide), ← List.map_cons, mapM_decimal hpayloads]
    rw [← List.map_cons, List.forall_mem_map]
    exact fun n _ => ⟨decimal_ne_nil n, isSpace_of_mem_decimal⟩

/-! ## The lines of an entry -/

/-- What is read of a valid format is valid, also before its packet time is known. -/
theorem isValid_wireFormat {format : AudioFormat} (hpcm : format.codec = .pcm)
    (h : format.isValid = true) :
    (wireFormat format).isValid = true ∧
      ({ wireFormat format with frameMs := 20 } : AudioFormat).isValid = true := by
  obtain ⟨rate, pcmFormat, channels, frameMs, codec⟩ := format
  simp only at hpcm
  subst hpcm
  simp only [AudioFormat.isValid, Bool.and_eq_true, beq_self_eq_true, Bool.true_or, and_true] at h
  obtain ⟨⟨⟨⟨hrate, hchannels⟩, hframe⟩, hwhole⟩, hbytes⟩ := h
  have hcontainer : ∀ f : AudioFormat, (f.containerBytesPerSample != 0) = true := by
    intro f
    obtain ⟨_, pcmFormat, _, _, _⟩ := f
    cases pcmFormat <;> rfl
  have hpacket : (rate * 20 % 1000 == 0) = true := by
    simp only [Bool.or_eq_true, beq_iff_eq] at hrate ⊢
    omega
  simp only [AudioFormat.isValid, wireFormat, hrate, hchannels, hframe, hwhole, hpacket,
    hcontainer, beq_self_eq_true, Bool.true_or, Bool.and_true, Bool.or_true, and_self]

theorem bounds_of_isValid {format : AudioFormat} (h : format.isValid = true) :
    format.sampleRate ≤ 48000 ∧ format.channels ≤ 2 := by
  simp only [AudioFormat.isValid, Bool.and_eq_true, Bool.or_eq_true, beq_iff_eq] at h
  omega

/-- The encoding stands for the samples on the wire. -/
theorem exists_encoding {format : AudioFormat} {maxPayload : Nat} (hpcm : format.codec = .pcm)
    (hvalid : format.isValid = true)
    (hencoding : (audioFormatRtpEncoding format maxPayload).isSome = true) :
    ∃ digits : Text, (∀ c ∈ digits, c.isDigit = true) ∧
      (if format.pcmFormat = .s16le then "L16" else "L24" : String).toList = 'L' :: digits ∧
      rtpmapFormat ('L' :: digits) format.sampleRate format.channels =
        some { wireFormat format with frameMs := 20 } := by
  have hread := (isValid_wireFormat hpcm hvalid).2
  obtain ⟨rate, pcmFormat, channels, frameMs, codec⟩ := format
  simp only at hpcm
  subst hpcm
  cases pcmFormat with
  | s16le =>
    refine ⟨['1', '6'], by simp, by simp, ?_⟩
    rw [rtpmapFormat, if_pos (by simp)]
    exact Option.filter_eq_some_iff.mpr ⟨rfl, hread⟩
  | s24le =>
    refine ⟨['2', '4'], by simp, by simp, ?_⟩
    rw [rtpmapFormat, if_neg (by simp), if_pos (by simp)]
    exact Option.filter_eq_some_iff.mpr ⟨rfl, hread⟩
  | s24leInS32 =>
    refine ⟨['2', '4'], by simp, by simp, ?_⟩
    rw [rtpmapFormat, if_neg (by simp), if_pos (by simp)]
    exact Option.filter_eq_some_iff.mpr ⟨rfl, hread⟩
  | s32le =>
    simp only [audioFormatRtpEncoding, reduceCtorEq, if_false] at hencoding
    split at hencoding <;> cases hencoding

theorem not_mem_decimal {n : Nat} {c : Char} (hc : c.isDigit = false) : c ∉ decimal n := fun hmem =>
  absurd ((isDigit_of_mem_decimal hmem).symm.trans hc) (by decide)

/-- A format is read with the packet time of its section still open. -/
theorem parseRtpmapFormat_rtpmap {entry : AudioEntry} {maxPayload : Nat}
    (h : entry.Writable maxPayload) :
    parseRtpmapFormat entry.rtpmap =
      some ({ wireFormat entry.format with frameMs := 20 }, entry.pt) := by
  have hopus : ¬entry.format.codec = .opus := by simp [h.pcm]
  obtain ⟨hrate, hchannels⟩ := bounds_of_isValid h.valid
  obtain ⟨digits, hdigits, hname, hformat⟩ := exists_encoding h.pcm h.valid h.encoding
  have hline : entry.rtpmap = "a=rtpmap".toList ++ ':' :: (decimal entry.pt ++
      ' ' :: ('L' :: digits ++ '/' :: (decimal entry.format.sampleRate ++ '/' ::
        decimal entry.format.channels))) := by
    have hrate : audioFormatRtpClockRate entry.format = entry.format.sampleRate := if_neg hopus
    have hchannels : audioFormatRtpChannels entry.format = entry.format.channels := if_neg hopus
    unfold AudioEntry.rtpmap audioRtpmap
    simp only [hname, hrate, hchannels]
    -- the numbers stay as they are
    generalize decimal entry.pt = pt
    generalize decimal entry.format.sampleRate = rate
    generalize decimal entry.format.channels = channels
    simp
  generalize hrest : 'L' :: digits ++ '/' :: (decimal entry.format.sampleRate ++ '/' ::
    decimal entry.format.channels) = rest at hline
  have htrim : trimCopy rest = rest := by
    rw [← hrest]
    apply trimCopy_eq_self
    · rintro c ⟨⟩
      decide
    · intro c hc
      rw [List.getLast?_append, List.getLast?_cons, List.getLast?_append, List.getLast?_cons] at hc
      cases hlast : (decimal entry.format.channels).getLast? with
      | none => exact absurd (List.getLast?_eq_none_iff.mp hlast) (decimal_ne_nil _)
      | some d =>
        simp only [hlast, Option.getD_some, Option.some_or] at hc
        cases hc
        exact not_isBlank_of_isDigit (isDigit_of_mem_decimal (List.mem_of_getLast? hlast))
  have hslash : '/' ∉ 'L' :: digits := by
    rw [List.mem_cons, not_or]
    exact ⟨by decide, fun hmem => absurd (hdigits _ hmem) (by decide)⟩
  have hcut := cut_eq hslash (decimal entry.format.sampleRate ++ '/' ::
    decimal entry.format.channels)
  rw [hrest] at hcut
  rw [hline, parseRtpmapFormat, cut_eq (by decide)]
  simp only [Option.bind_eq_bind, Option.bind_some]
  rw [cut_eq (not_mem_decimal (by decide))]
  simp only [Option.bind_some, parseDecimalU32_decimal h.pt, htrim, hcut]
  rw [cut_eq (not_mem_decimal (by decide))]
  simp only [Option.bind_some, hformat, Option.pure_def,
    parseDecimalU32_decimal (show entry.format.sampleRate ≤ 4294967295 by omega),
    parseDecimalU32_decimal (show entry.format.channels ≤ 255 by omega)]

/-- A flow as it is read. -/
def flowOf (flow : String) : Flow :=
  ⟨decide (flow = "send" ∨ flow = "sendrecv"), decide (flow = "recv" ∨ flow = "sendrecv")⟩

theorem flowOf_ne_none {entry : AudioEntry} {maxPayload : Nat} (h : entry.Writable maxPayload) :
    flowOf entry.flow ≠ Flow.none := by
  rcases h.flow with h | h | h <;> rw [h] <;> decide

/-- A flow is read with its payload type. -/
theorem flowLine_flowText {entry : AudioEntry} {maxPayload : Nat} (h : entry.Writable maxPayload) :
    flowLine entry.flowText = some (entry.pt, flowOf entry.flow) := by
  have hline : entry.flowText = "a=x-voip-stack-flow:".toList ++
      (decimal entry.pt ++ ' ' :: entry.flow.toList) := by
    unfold AudioEntry.flowText audioFlow
    simp only [List.append_assoc]
    rfl
  have htrim : trimCopy entry.flow.toList = entry.flow.toList := by
    rcases h.flow with h | h | h <;> rw [h] <;> decide
  rw [hline, flowLine, List.drop_left, cut_eq (not_mem_decimal (by decide))]
  simp only [Option.bind_eq_bind, Option.bind_some, parseDecimalU32_decimal h.pt, htrim,
    Option.pure_def, flowOf, String.toList_inj]

/-- The packet time of a section. -/
theorem ptimeLine_decimal {ptime : Nat} (h : ptime ∈ [10, 16, 20, 32]) :
    ptimeLine ("a=ptime:".toList ++ decimal ptime) = some ptime := by
  have hlen : "a=ptime:".toList.length = 8 := rfl
  have hsmall : ptime ≤ 255 ∧
      (ptime == 10 || ptime == 16 || ptime == 20 || ptime == 32) = true := by
    simp only [List.mem_cons, List.not_mem_nil, or_false] at h
    rcases h with rfl | rfl | rfl | rfl <;> decide
  rw [ptimeLine, ← hlen, List.drop_left, parseDecimalU32_decimal hsmall.1,
    Option.filter_eq_some_iff]
  exact ⟨rfl, hsmall.2⟩

/-! ## The first loop -/

section Scan

variable {s : AudioScan} {entry : AudioEntry} {maxPayload : Nat}

theorem startsWith_rtpmap (entry : AudioEntry) :
    startsWith entry.rtpmap "m=" = false ∧ startsWith entry.rtpmap "a=ptime:" = false ∧
      startsWith entry.rtpmap "a=x-voip-stack-flow:" = false ∧
      startsWith entry.rtpmap "c=IN IP4 " = false ∧ startsWith entry.rtpmap "a=rtpmap:" = true ∧
      directionLine entry.rtpmap = none := by
  unfold AudioEntry.rtpmap audioRtpmap
  simp [startsWith, directionLine, List.isPrefixOf]

theorem startsWith_flowText (entry : AudioEntry) :
    startsWith entry.flowText "m=" = false ∧ startsWith entry.flowText "a=ptime:" = false ∧
      startsWith entry.flowText "a=x-voip-stack-flow:" = true ∧
      startsWith entry.flowText "c=IN IP4 " = false ∧
      startsWith entry.flowText "a=rtpmap:" = false := by
  unfold AudioEntry.flowText audioFlow
  simp [startsWith, List.isPrefixOf]

theorem startsWith_ptime (n : Nat) :
    startsWith ("a=ptime:".toList ++ decimal n) "m=" = false ∧
      startsWith ("a=ptime:".toList ++ decimal n) "a=ptime:" = true ∧
      startsWith ("a=ptime:".toList ++ decimal n) "c=IN IP4 " = false ∧
      startsWith ("a=ptime:".toList ++ decimal n) "a=rtpmap:" = false := by
  simp [startsWith, List.isPrefixOf]

theorem startsWith_maxptime (n : Nat) :
    startsWith ("a=maxptime:".toList ++ decimal n) "m=" = false ∧
      startsWith ("a=maxptime:".toList ++ decimal n) "a=ptime:" = false ∧
      startsWith ("a=maxptime:".toList ++ decimal n) "a=x-voip-stack-flow:" = false ∧
      startsWith ("a=maxptime:".toList ++ decimal n) "c=IN IP4 " = false ∧
      startsWith ("a=maxptime:".toList ++ decimal n) "a=rtpmap:" = false ∧
      directionLine ("a=maxptime:".toList ++ decimal n) = none := by
  simp [startsWith, directionLine, List.isPrefixOf]

/-- A line that is no attribute of the audio section changes nothing. -/
theorem scanAudioLine_outside {line : Text} (hmedia : startsWith line "m=" = false)
    (hs : s.inAudio = false) (h : s.seenAnyMedia = true ∨ directionLine line = none) (i : Nat) :
    scanAudioLine s (line, i) = some s := by
  simp only [scanAudioLine, hmedia, hs, Bool.false_eq_true, if_false, false_and, or_false]
  rcases h with h | h
  · simp only [h, Bool.true_eq_false, if_false]
  · rw [h]
    split <;> rfl

theorem scanAudioLine_rtpmap (hs : s.inAudio = true) (entry : AudioEntry) (i : Nat) :
    scanAudioLine s (entry.rtpmap, i) = some s := by
  obtain ⟨hmedia, hptime, hflow, -, -, hdirection⟩ := startsWith_rtpmap entry
  simp only [scanAudioLine, hmedia, hptime, hflow, hdirection, Bool.false_eq_true, if_false,
    and_false, hs, or_true, if_true]

theorem scanAudioLine_flowText (hs : s.inAudio = true) (h : entry.Writable maxPayload) (i : Nat) :
    scanAudioLine s (entry.flowText, i) = some { s with
      payloadFlow := fun q => if q = entry.pt then flowOf entry.flow else s.payloadFlow q } := by
  obtain ⟨hmedia, hptime, hflow, -⟩ := startsWith_flowText entry
  simp only [scanAudioLine, hmedia, hptime, hflow, flowLine_flowText h, Bool.false_eq_true,
    if_false, and_false, hs, and_self, if_true]

theorem scanAudioLine_ptime (hs : s.inAudio = true) {ptime : Nat} (h : ptime ∈ [10, 16, 20, 32])
    (i : Nat) : scanAudioLine s ("a=ptime:".toList ++ decimal ptime, i) =
      some { s with mediaPtime := ptime } := by
  obtain ⟨hmedia, hptime, -⟩ := startsWith_ptime ptime
  simp only [scanAudioLine, hmedia, hptime, ptimeLine_decimal h, Bool.false_eq_true, if_false, hs,
    and_self, if_true, Option.getD_some]

theorem scanAudioLine_maxptime (hs : s.inAudio = true) (n i : Nat) :
    scanAudioLine s ("a=maxptime:".toList ++ decimal n, i) = some s := by
  obtain ⟨hmedia, hptime, hflow, -, -, hdirection⟩ := startsWith_maxptime n
  simp only [scanAudioLine, hmedia, hptime, hflow, hdirection, Bool.false_eq_true, if_false,
    and_false, hs, or_true, if_true]

theorem scanAudioLine_sendrecv (hs : s.inAudio = true) (hseen : s.seenAnyMedia = true) (i : Nat) :
    scanAudioLine s ("a=sendrecv".toList, i) = some { s with mediaFlow := Flow.both } := by
  have hline : startsWith "a=sendrecv".toList "m=" = false ∧
      startsWith "a=sendrecv".toList "a=ptime:" = false ∧
      startsWith "a=sendrecv".toList "a=x-voip-stack-flow:" = false ∧
      directionLine "a=sendrecv".toList = some Flow.both := by decide
  simp only [scanAudioLine, hline, hs, hseen, Bool.false_eq_true, if_false, and_false, or_true,
    if_true]

/-- The media line of another section ends the audio section. -/
theorem scanAudioLine_media {line : Text} (hmedia : startsWith line "m=" = true)
    (hs : s.selectedLine.isSome = true) (i : Nat) :
    scanAudioLine s (line, i) = some { s with seenAnyMedia := true, inAudio := false } := by
  simp only [scanAudioLine, hmedia, hs, if_true]

/-- Lines that change nothing. -/
theorem foldlM_const {α σ : Type} {f : σ → α → Option σ} {s : σ} {xs : List α}
    (h : ∀ x ∈ xs, f s x = some s) : xs.foldlM f s = some s := by
  induction xs with
  | nil => rfl
  | cons x xs ih =>
    rw [List.forall_mem_cons] at h
    rw [List.foldlM_cons, h.1]
    exact ih h.2

/-- The flows that have been read. -/
def flowsOf (entries : List AudioEntry) (flows : Nat → Flow) : Nat → Flow :=
  entries.foldl (fun flows entry q => if q = entry.pt then flowOf entry.flow else flows q) flows

theorem flowsOf_of_not_mem {entries : List AudioEntry} {pt : Nat} (h : pt ∉ entries.map (·.pt))
    (flows : Nat → Flow) : flowsOf entries flows pt = flows pt := by
  induction entries generalizing flows with
  | nil => rfl
  | cons entry entries ih =>
    rw [List.map_cons, List.mem_cons, not_or] at h
    rw [flowsOf, List.foldl_cons, ← flowsOf, ih h.2, if_neg h.1]

theorem flowsOf_of_mem {entries : List AudioEntry} (hnodup : (entries.map (·.pt)).Nodup)
    (flows : Nat → Flow) : ∀ entry ∈ entries, flowsOf entries flows entry.pt =
    flowOf entry.flow := by
  induction entries generalizing flows with
  | nil => exact fun _ h => nomatch h
  | cons first entries ih =>
    rw [List.map_cons, List.nodup_cons] at hnodup
    intro entry hentry
    rw [flowsOf, List.foldl_cons, ← flowsOf]
    rcases List.mem_cons.mp hentry with rfl | hentry
    · rw [flowsOf_of_not_mem hnodup.1, if_pos rfl]
    · exact ih hnodup.2 _ entry hentry

theorem foldlM_flowText {entries : List AudioEntry}
    (h : ∀ entry ∈ entries, entry.Writable maxPayload)
    (hs : s.inAudio = true) (k : Nat) :
    ((entries.map AudioEntry.flowText).zipIdx k).foldlM scanAudioLine s =
      some { s with payloadFlow := flowsOf entries s.payloadFlow } := by
  induction entries generalizing s k with
  | nil => rfl
  | cons entry entries ih =>
    rw [List.forall_mem_cons] at h
    rw [List.map_cons, List.zipIdx_cons, List.foldlM_cons, scanAudioLine_flowText hs h.1,
      Option.bind_eq_bind, Option.bind_some, ih h.2 (by exact hs)]
    rfl

/-- Behind the audio section nothing is read any more. -/
theorem foldlM_outside (lines : List Text) (hs : s.selectedLine.isSome = true)
    (hseen : s.seenAnyMedia = true) (hin : s.inAudio = false) (k : Nat) :
    (lines.zipIdx k).foldlM scanAudioLine s = some s := by
  apply foldlM_const
  rintro ⟨line, i⟩ -
  cases hmedia : startsWith line "m=" with
  | true =>
    rw [scanAudioLine_media hmedia hs]
    obtain ⟨⟩ := s
    simp only at hseen hin
    rw [hseen, hin]
  | false => exact scanAudioLine_outside hmedia hin (.inl hseen) i

theorem foldlM_tail {tail : List Text} (htail : ∀ line ∈ tail.head?, startsWith line "m=" = true)
    (hs : s.selectedLine.isSome = true) (hseen : s.seenAnyMedia = true) (k : Nat) :
    ∃ inAudio, (tail.zipIdx k).foldlM scanAudioLine s = some { s with inAudio } := by
  cases tail with
  | nil => exact ⟨s.inAudio, rfl⟩
  | cons line tail =>
    refine ⟨false, ?_⟩
    rw [List.zipIdx_cons, List.foldlM_cons, scanAudioLine_media (htail line rfl) hs, ← hseen,
      Option.bind_eq_bind, Option.bind_some]
    exact foldlM_outside (s := { s with inAudio := false }) tail hs hseen rfl (k + 1)

/-- The end of the audio section and what is behind it. -/
theorem foldlM_end {ptime : Nat} {tail : List Text} (hs : s.inAudio = true)
    (hseen : s.seenAnyMedia = true) (hsel : s.selectedLine.isSome = true)
    (hptime : ptime ∈ [10, 16, 20, 32])
    (htail : ∀ line ∈ tail.head?, startsWith line "m=" = true) (k : Nat) :
    ∃ inAudio, ((["a=ptime:".toList ++ decimal ptime, "a=maxptime:".toList ++ decimal ptime,
      "a=sendrecv".toList] ++ tail).zipIdx k).foldlM scanAudioLine s =
        some { s with mediaPtime := ptime, mediaFlow := Flow.both, inAudio } := by
  obtain ⟨inAudio, h⟩ := foldlM_tail (s := { s with mediaPtime := ptime, mediaFlow := Flow.both })
    htail hsel hseen (k + 1 + 1 + 1)
  refine ⟨inAudio, ?_⟩
  simp only [List.cons_append, List.nil_append, List.zipIdx_cons, List.foldlM_cons]
  simp only [Option.bind_eq_bind]
  rw [scanAudioLine_ptime hs hptime, Option.bind_some, scanAudioLine_maxptime (by exact hs),
    Option.bind_some, scanAudioLine_sendrecv (by exact hs) (by exact hseen), Option.bind_some]
  exact h

end Scan

/-! ## A text of this program -/

/-- The lines of an SDP whose audio section is the first one, in both directions. -/
def audioText (e : SdpEndpoint) (c : SdpContext) (localIp : Text) (lines : AudioLines)
    (ptime : Nat) (tail : List Text) : List Text :=
  sessionLines c localIp ++ (audioSection e lines ptime "sendrecv" ++ tail)

/-- What the first loop finds in such a text. -/
structure Scanned (directional : Bool) (entries : List AudioEntry) (ptime : Nat)
    (scan : AudioScan) : Prop where
  ptime : scan.mediaPtime = ptime
  offered : scan.offeredPayloads = entries.map (·.pt)
  ranked : scan.rankedPayloads = entries.map (·.pt)
  both : scan.mediaFlow = Flow.both
  flows : directional = true → ∀ entry ∈ entries, scan.payloadFlow entry.pt = flowOf entry.flow
  selected : scan.selectedLine = some 5

theorem directionLine_of_head {line : Text} (h : line.head? ≠ some 'a') :
    directionLine line = none := by
  have hne : ∀ rest : Text, line ≠ 'a' :: rest := by
    rintro rest rfl
    exact h rfl
  have hliteral : ∀ dir ∈ ["a=sendonly", "a=recvonly", "a=inactive", "a=sendrecv"],
      ∃ rest, dir.toList = 'a' :: rest := by
    simp only [List.mem_cons, List.not_mem_nil, or_false]
    rintro dir (rfl | rfl | rfl | rfl) <;> exact ⟨_, rfl⟩
  have hdir : ∀ dir ∈ ["a=sendonly", "a=recvonly", "a=inactive", "a=sendrecv"],
      ¬line = dir.toList := by
    intro dir hdir heq
    obtain ⟨rest, hrest⟩ := hliteral dir hdir
    exact hne rest (heq.trans hrest)
  rw [directionLine, if_neg (hdir _ (by simp)), if_neg (hdir _ (by simp)),
    if_neg (hdir _ (by simp)), if_neg (hdir _ (by simp))]

/-- The lines in front of the audio section. -/
theorem head_sessionLines (c : SdpContext) (localIp : Text) :
    ∀ line ∈ sessionLines c localIp, line.head? ≠ some 'a' := by
  unfold sessionLines
  simp only [List.forall_mem_cons, List.append_assoc]
  refine ⟨?_, ?_, ?_, ?_, ?_, fun _ h => absurd h List.not_mem_nil⟩ <;>
    · intro h
      cases h

section Text

variable {e : SdpEndpoint} {c : SdpContext} {localIp : Text} {lines : AudioLines}
  {directional : Bool} {entries : List AudioEntry} {ptime maxPayload : Nat} {tail : List Text}

/-- Its lines, with the entries. -/
theorem audioText_eq (hnames : lines.Names directional entries) :
    audioText e c localIp lines ptime tail = sessionLines c localIp ++
      mediaHead "audio" e.rtpPort.toNat (payloadList (entries.map (·.pt))) ::
        (entries.map AudioEntry.rtpmap ++ (lines.flows ++ (["a=ptime:".toList ++ decimal ptime,
          "a=maxptime:".toList ++ decimal ptime, "a=sendrecv".toList] ++ tail))) := by
  have hdirection : "a=".toList ++ "sendrecv".toList = "a=sendrecv".toList := by decide
  rw [audioText, audioSection, hnames.payloads, hnames.maps, hdirection, mediaHead]
  simp only [List.append_assoc, List.cons_append, List.nil_append]
  rfl

/-- The first loop finds the entries. -/
theorem scanned_audioText (hip : Free localIp) (hnames : lines.Names directional entries)
    (hentries : ∀ entry ∈ entries, entry.Writable maxPayload) (hne : entries ≠ [])
    (hnodup : (entries.map (·.pt)).Nodup) (hport : e.rtpPort ≠ 0)
    (hptime : ptime ∈ [10, 16, 20, 32])
    (htail : ∀ line ∈ tail.head?, startsWith line "m=" = true) :
    ∃ scan, scanAudio (audioText e c localIp lines ptime tail) = some scan ∧
      Scanned directional entries ptime scan := by
  have hpts : ∀ pt ∈ entries.map (·.pt), pt ≤ 127 := by
    rw [List.forall_mem_map]
    exact fun entry hentry => (hentries entry hentry).pt
  have hsome : entries.map (·.pt) ≠ [] := by simpa using hne
  have hzero : ¬e.rtpPort.toNat = 0 := fun h => hport (UInt16.toNat_inj.mp h)
  have hread := parseAudioMediaLine_mediaHead (Nat.le_of_lt_succ e.rtpPort.toNat_lt) hpts hsome
  have hranked := rankPayloads_mediaHead e.rtpPort.toNat hpts hsome
  rw [if_neg hzero] at hread
  have hmedia : startsWith (mediaHead "audio" e.rtpPort.toNat (payloadList (entries.map (·.pt))))
      "m=" = true := media_of_parseAudioMediaLine (by rw [hread]; rfl)
  have hsession : (sessionLines c localIp).zipIdx.foldlM scanAudioLine {} = some {} := by
    apply foldlM_const
    rintro ⟨line, i⟩ hl
    have hline := List.fst_mem_of_mem_zipIdx hl
    exact scanAudioLine_outside (plain_sessionLines c hip line hline).not_media rfl
      (.inr (directionLine_of_head (head_sessionLines c localIp line hline))) i
  -- the state behind the media line
  obtain ⟨s, hs⟩ : ∃ s : AudioScan, s =
      { mediaPort := e.rtpPort.toNat
        offeredPayloads := entries.map (·.pt)
        rankedPayloads := entries.map (·.pt)
        selectedLine := some 5
        seenAnyMedia := true
        inAudio := true } := ⟨_, rfl⟩
  have hhead : scanAudioLine {} (mediaHead "audio" e.rtpPort.toNat
      (payloadList (entries.map (·.pt))), 5) = some s := by
    simp only [scanAudioLine, hmedia, if_true, Option.isSome_none, Bool.false_eq_true, if_false,
      hread, hranked, hs]
  have hin : s.inAudio = true := by rw [hs]
  have hmaps : ∀ k, ((entries.map AudioEntry.rtpmap).zipIdx k).foldlM scanAudioLine s = some s := by
    intro k
    apply foldlM_const
    rintro ⟨line, i⟩ hl
    obtain ⟨entry, -, rfl⟩ := List.mem_map.mp (List.fst_mem_of_mem_zipIdx hl)
    exact scanAudioLine_rtpmap hin entry i
  obtain ⟨flows, hflows, hof⟩ : ∃ flows : Nat → Flow,
      (∀ k, (lines.flows.zipIdx k).foldlM scanAudioLine s =
        some { s with payloadFlow := flows }) ∧
      (directional = true → ∀ entry ∈ entries, flows entry.pt = flowOf entry.flow) := by
    cases directional with
    | false => exact ⟨s.payloadFlow, fun k => by rw [hnames.flows]; rfl, fun h =>
      absurd h (by decide)⟩
    | true =>
      refine ⟨flowsOf entries s.payloadFlow, fun k => ?_, fun _ => flowsOf_of_mem hnodup _⟩
      rw [hnames.flows, if_pos rfl]
      exact foldlM_flowText hentries hin k
  have hlen : (sessionLines c localIp).length = 5 := rfl
  obtain ⟨inAudio, hend⟩ := foldlM_end (s := { s with payloadFlow := flows }) hin (by rw [hs])
    (by rw [hs]; rfl) hptime htail
    (5 + 1 + (entries.map AudioEntry.rtpmap).length + lines.flows.length)
  refine ⟨{ s with payloadFlow := flows, mediaPtime := ptime, mediaFlow := Flow.both, inAudio },
    ?_, ⟨rfl, ?_, ?_, rfl, hof, ?_⟩⟩
  · rw [scanAudio, audioText_eq hnames, List.zipIdx_append, List.foldlM_append, hsession,
      Option.bind_eq_bind, Option.bind_some, hlen, List.zipIdx_cons, List.foldlM_cons, Nat.zero_add,
      hhead, Option.bind_eq_bind, Option.bind_some, List.zipIdx_append, List.foldlM_append, hmaps,
      Option.bind_eq_bind, Option.bind_some, List.zipIdx_append, List.foldlM_append, hflows,
      Option.bind_eq_bind, Option.bind_some]
    exact hend
  · rw [hs]
  · rw [hs]
  · rw [hs]

end Text

end Sdp

end EsphomeVoip
