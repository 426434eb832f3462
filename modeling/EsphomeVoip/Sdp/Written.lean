import EsphomeVoip.Sdp.Endpoint

/-! # What is in a written SDP (`sip_sdp.cpp`)

The writers put numbers, addresses and a few fixed texts between fixed keys.  So no line that they
write has a line end in it, and none but the first one of a section can be taken for a media
line. -/

namespace EsphomeVoip

namespace Sdp

/-! ## Texts -/

/-- A text without line ends and without keys. -/
def Free (t : Text) : Prop := ∀ c ∈ t, c ≠ '\r' ∧ c ≠ '='

instance (t : Text) : Decidable (Free t) := List.decidableBAll _ t

@[simp] theorem free_append {a b : Text} : Free (a ++ b) ↔ Free a ∧ Free b :=
  List.forall_mem_append

@[simp] theorem free_nil : Free [] := fun _ hc => nomatch hc

@[simp] theorem free_decimal (n : Nat) : Free (decimal n) := fun _ hc =>
  have hdigit := isDigit_of_mem_decimal hc
  ⟨ne_of_isDigit hdigit (by decide), ne_of_isDigit hdigit (by decide)⟩

@[simp] theorem free_ipText (ip : UInt32) : Free (ipText ip) := by
  simp only [ipText, free_append, free_decimal, true_and, and_true]
  decide

/-- The payload types, each behind a blank but the first one. -/
theorem payloadList_cons (pt : Nat) (payloads : List Nat) :
    payloadList (pt :: payloads) = decimal pt ++ Search.behind ' ' (payloads.map decimal) :=
  Search.intercalate_cons ' ' _ _

@[simp] theorem free_payloadList (payloads : List Nat) : Free (payloadList payloads) := by
  cases payloads with
  | nil => exact free_nil
  | cons pt payloads =>
    rw [payloadList_cons, free_append]
    refine ⟨free_decimal pt, fun c hc => ?_⟩
    simp only [Search.behind, List.mem_flatMap, List.mem_map] at hc
    obtain ⟨_, ⟨n, _, rfl⟩, hc⟩ := hc
    rcases List.mem_cons.mp hc with rfl | hc
    · decide
    · exact free_decimal n c hc

theorem Free.cr {t : Text} (h : Free t) : '\r' ∉ t := fun hc => (h _ hc).1 rfl

theorem Free.key {t : Text} (h : Free t) : '=' ∉ t := fun hc => (h _ hc).2 rfl

/-! ## Lines -/

/-- A line without line ends in which nothing begins a media line. -/
structure Plain (line : Text) : Prop where
  cr : '\r' ∉ line
  key : ¬['m', '='] <:+: line

theorem Plain.join {a b : Text} (ha : Plain a) (hb : Plain b) (h : b.head? ≠ some '=') :
    Plain (a ++ b) where
  cr := by
    rw [List.mem_append, not_or]
    exact ⟨ha.cr, hb.cr⟩
  key := Search.not_pair_append ha.key hb.key h

theorem Free.plain {t : Text} (h : Free t) : Plain t :=
  ⟨h.cr, Search.not_pair_of_not_mem h.key⟩

theorem Plain.append {a b : Text} (ha : Plain a) (hb : Free b) : Plain (a ++ b) :=
  ha.join hb.plain fun h => hb.key (List.mem_of_head? h)

/-- A line that is no media line. -/
theorem Plain.not_media {line : Text} (h : Plain line) : startsWith line "m=" = false := by
  rw [Bool.eq_false_iff]
  exact fun hm => h.key (List.isPrefixOf_iff_prefix.mp hm).isInfix

/-- A line has no end mark in it. -/
theorem Plain.closed {line : Text} (h : Plain line) : ¬['\r', '\n'] <:+: line := fun hin =>
  h.cr (hin.subset (by simp))

/-! ## Audio -/

/-- The names of the encodings are free. -/
theorem free_encoding {format : AudioFormat} {maxPayload : Nat} {encoding : String}
    (h : audioFormatRtpEncoding format maxPayload = some encoding) : Free encoding.toList := by
  rw [audioFormatRtpEncoding] at h
  split at h
  · cases h
    decide
  · split at h
    · cases h
    · split at h <;> cases h <;> decide

theorem plain_audioRtpmap {pt : Nat} {encoding : String} (h : Free encoding.toList)
    (format : AudioFormat) : Plain (audioRtpmap pt encoding format) := by
  unfold audioRtpmap
  simp only [List.append_assoc]
  refine Plain.append ⟨by decide, by simp [List.infix_cons_iff]⟩ ?_
  simp only [free_append, free_decimal, true_and, and_true]
  exact ⟨by decide, h, by decide, by decide⟩

theorem plain_audioMaps {pt : Nat} {encoding : String} (h : Free encoding.toList)
    (format : AudioFormat) : ∀ line ∈ audioMaps pt encoding format, Plain line := by
  intro line hline
  rw [audioMaps] at hline
  rcases List.mem_cons.mp hline with rfl | hline
  · exact plain_audioRtpmap h format
  · split at hline
    · rw [List.mem_singleton.mp hline]
      have hfmtp : Plain ("a=fmtp:".toList ++ decimal pt) :=
        Plain.append ⟨by decide, by simp [List.infix_cons_iff]⟩ (free_decimal pt)
      exact hfmtp.join ⟨by decide, by simp [List.infix_cons_iff]⟩ (by simp)
    · exact nomatch hline

theorem plain_audioFlow (pt : Nat) {flow : String} (h : Free flow.toList) :
    Plain (audioFlow pt flow) := by
  unfold audioFlow
  rw [List.append_assoc, List.append_assoc]
  refine Plain.append ⟨by decide, by simp [List.infix_cons_iff]⟩ ?_
  simp only [free_append, free_decimal, true_and]
  exact ⟨by decide, h⟩

/-- The lines about the payload types are plain. -/
def AudioLines.Plain (lines : AudioLines) : Prop := ∀ line ∈ lines.maps ++ lines.flows,
    Sdp.Plain line

theorem AudioLines.plain_empty : AudioLines.Plain {} := fun _ h => nomatch h

theorem AudioLines.Plain.add {lines : AudioLines} (hlines : lines.Plain) (pt : Nat)
    {encoding : String} (h : Free encoding.toList) (format : AudioFormat) (directional : Bool)
    {flow : String} (hflow : Free flow.toList) :
    (lines.add pt encoding format directional flow).Plain := by
  intro line hline
  rw [List.mem_append] at hline
  rcases hline with hline | hline
  · rcases List.mem_append.mp hline with hline | hline
    · exact hlines line (List.mem_append_left _ hline)
    · exact plain_audioMaps h format line hline
  · rw [AudioLines.add] at hline
    split at hline
    · rcases List.mem_append.mp hline with hline | hline
      · exact hlines line (List.mem_append_right _ hline)
      · rw [List.mem_singleton.mp hline]
        exact plain_audioFlow pt hflow
    · exact hlines line (List.mem_append_right _ hline)

theorem AudioLines.Plain.appendAnswer {e : SdpEndpoint} {c : SdpContext} {pt : Nat}
    {format : AudioFormat} {flow : String} {lines lines' : AudioLines} (hlines : lines.Plain)
    (hflow : Free flow.toList) (h : appendAnswer e c pt format flow lines = some lines') :
    lines'.Plain := by
  rw [Sdp.appendAnswer] at h
  split at h
  · cases h
  · rename_i encoding hencoding
    cases h
    exact hlines.add pt (free_encoding hencoding) format _ hflow

theorem plain_answerSelected {e : SdpEndpoint} {c : SdpContext} {lines : AudioLines}
    (h : answerSelected e c = some lines) : lines.Plain := by
  rw [answerSelected] at h
  split at h
  · exact AudioLines.plain_empty.appendAnswer (by split <;> decide) h
  · cases h
    exact AudioLines.plain_empty

theorem plain_answerAccepted {e : SdpEndpoint} {c : SdpContext} {lines lines' : AudioLines}
    (hlines : lines.Plain) (h : answerAccepted e c lines = some lines') : lines'.Plain := by
  rw [answerAccepted] at h
  split at h
  · -- one entry after the other
    generalize c.negotiation.rxPayloads = entries at h
    induction entries generalizing lines with
    | nil =>
      cases h
      exact hlines
    | cons entry entries ih =>
      rw [List.foldlM_cons, Option.bind_eq_bind, Option.bind_eq_some_iff] at h
      obtain ⟨next, hnext, h⟩ := h
      refine ih ?_ h
      split at hnext
      · cases hnext
        exact hlines
      · exact hlines.appendAnswer (by decide) hnext
  · cases h
    exact hlines

/-- The lines of an answer are plain. -/
theorem plain_answerLines {e : SdpEndpoint} {c : SdpContext} {lines : AudioLines}
    (h : answerLines e c = some lines) : lines.Plain := by
  rw [answerLines, Option.bind_eq_some_iff] at h
  obtain ⟨selected, hselected, h⟩ := h
  rw [Option.bind_eq_some_iff] at h
  obtain ⟨accepted, haccepted, h⟩ := h
  have hplain := plain_answerAccepted (plain_answerSelected hselected) haccepted
  rw [answerTransmit] at h
  split at h
  · exact hplain.appendAnswer (by decide) h
  · cases h
    exact hplain

theorem plain_appendFormat {e : SdpEndpoint} {c : SdpContext} (format : AudioFormat)
    {flow : String} (hflow : Free flow.toList) {o : Offered} (h : o.lines.Plain) :
    (appendFormat e c format flow o).lines.Plain := by
  rw [appendFormat]
  split
  · exact h
  · split
    · exact h
    · rename_i encoding hencoding
      exact h.add o.pt (free_encoding hencoding) format _ hflow

theorem plain_offerRx {e : SdpEndpoint} {c : SdpContext} (rx : AudioFormat) {o : Offered}
    (h : o.lines.Plain) : (offerRx e c o rx).lines.Plain := by
  rw [offerRx]
  split
  · exact plain_appendFormat rx (by split <;> decide) h
  · exact h

theorem plain_offerTx {e : SdpEndpoint} {c : SdpContext} (tx : AudioFormat) {o : Offered}
    (h : o.lines.Plain) : (offerTx e c o tx).lines.Plain := by
  rw [offerTx]
  split
  · exact h
  · exact plain_appendFormat tx (by decide) h

/-- The lines of an offer are plain. -/
theorem plain_offered (e : SdpEndpoint) (c : SdpContext) : (offered e c).lines.Plain := by
  have hrx : (c.offerRxFormats.foldl (offerRx e c) {}).lines.Plain :=
    List.foldlRecOn (motive := fun o => o.lines.Plain) c.offerRxFormats (offerRx e c)
      AudioLines.plain_empty fun _ h rx _ => plain_offerRx rx h
  rw [offered]
  split
  · exact List.foldlRecOn (motive := fun o => o.lines.Plain) c.offerTxFormats (offerTx e c)
      hrx fun _ h tx _ => plain_offerTx tx h
  · exact hrx

/-! ## Sections -/

theorem plain_sessionLines (c : SdpContext) {localIp : Text} (h : Free localIp) :
    ∀ line ∈ sessionLines c localIp, Plain line := by
  unfold sessionLines
  simp only [List.forall_mem_cons, List.append_assoc]
  refine ⟨⟨by decide, by simp [List.infix_cons_iff]⟩, ?_,
    ⟨by decide, by simp [List.infix_cons_iff]⟩, ?_,
    ⟨by decide, by simp [List.infix_cons_iff]⟩, fun _ h => nomatch h⟩
  · refine Plain.append ⟨by decide, by simp [List.infix_cons_iff]⟩ ?_
    simp only [free_append, free_decimal, true_and]
    exact ⟨by decide, by decide, h⟩
  · exact Plain.append ⟨by decide, by simp [List.infix_cons_iff]⟩ h

/-- The first line of a section that is not rejected. -/
def mediaHead (kind : String) (port : Nat) (payloads : Text) : Text :=
  "m=".toList ++ kind.toList ++ " ".toList ++ decimal port ++ " RTP/AVP ".toList ++ payloads

/-- A section: its media line, and lines that are none. -/
def Section (head : Text) (lines : List Text) : Prop :=
  ∃ rest, lines = head :: rest ∧ ∀ line ∈ rest, Plain line

/-- A media line of this endpoint ends where it is meant to. -/
theorem closed_mediaHead {kind : String} (hkind : Free kind.toList) (port : Nat) {payloads : Text}
    (hpayloads : Free payloads) : ¬['\r', '\n'] <:+: mediaHead kind port payloads := by
  intro hin
  have hcr : '\r' ∉ mediaHead kind port payloads := by
    unfold mediaHead
    simp only [List.mem_append, not_or]
    exact ⟨⟨⟨⟨⟨by decide, hkind.cr⟩, by decide⟩, (free_decimal port).cr⟩, by decide⟩, hpayloads.cr⟩
  exact hcr (hin.subset (by simp))

/-- The line of a direction. -/
theorem plain_direction {direction : String} (h : Free direction.toList) :
    Plain ("a=".toList ++ direction.toList) :=
  Plain.append ⟨by decide, by simp [List.infix_cons_iff]⟩ h

theorem free_audioDirectionAttribute (send receive : Bool) :
    Free (audioDirectionAttribute send receive).toList := by
  cases send <;> cases receive <;> decide

theorem section_audioSection (e : SdpEndpoint) {lines : AudioLines} (h : lines.Plain)
    (ptime : Nat) {direction : String} (hdir : Free direction.toList) :
    Section (mediaHead "audio" e.rtpPort.toNat (payloadList lines.payloads))
      (audioSection e lines ptime direction) := by
  refine ⟨_, rfl, ?_⟩
  intro line hline
  rcases List.mem_append.mp hline with hline | hline
  · exact h line hline
  · simp only [List.mem_cons, List.not_mem_nil, or_false] at hline
    rcases hline with rfl | rfl | rfl
    · exact Plain.append ⟨by decide, by simp [List.infix_cons_iff]⟩ (free_decimal ptime)
    · exact Plain.append ⟨by decide, by simp [List.infix_cons_iff]⟩ (free_decimal ptime)
    · exact plain_direction hdir

theorem plain_videoCodecLines {codec : VideoCodec} {capability : VideoCapability}
    (hprofile : codec = .h264 → Free capability.profileLevelId.toList) :
    ∀ line ∈ videoCodecLines codec capability, Plain line := by
  unfold videoCodecLines
  split
  · rename_i hcodec
    rw [List.forall_mem_cons, List.forall_mem_append]
    refine ⟨?_, ?_, ?_⟩
    · -- the parameters begin with a blank, so nothing before them is a key
      have hpt : Plain ("a=fmtp:".toList ++ decimal capability.payloadType) :=
        Plain.append ⟨by decide, by simp [List.infix_cons_iff]⟩ (free_decimal _)
      have hparams : Plain " packetization-mode=1;profile-level-id=".toList :=
        ⟨by decide, by simp [List.infix_cons_iff]⟩
      have hprofile := (hpt.join hparams (by simp)).append (hprofile hcodec.1)
      split
      · exact hprofile.join ⟨by decide, by simp [List.infix_cons_iff]⟩ (by simp)
      · rw [List.append_nil]
        exact hprofile
    · split
      · simp only [List.forall_mem_singleton, List.append_assoc]
        refine Plain.append ⟨by decide, by simp [List.infix_cons_iff]⟩ ?_
        exact free_append.mpr ⟨free_decimal _, by decide⟩
      · exact fun _ h => nomatch h
    · split
      · simp only [List.forall_mem_singleton, List.append_assoc]
        refine Plain.append ⟨by decide, by simp [List.infix_cons_iff]⟩ ?_
        exact free_append.mpr ⟨free_decimal _, by decide⟩
      · exact fun _ h => nomatch h
  · exact fun _ h => nomatch h

theorem free_videoDirection (send receive : Bool) : Free (videoDirection send receive).toList := by
  cases send <;> cases receive <;> decide

theorem section_videoLines (e : SdpEndpoint) (codec : VideoCodec) {localIp : Text}
    (hip : Free localIp) {capability : VideoCapability}
    (hencoding : Free capability.encoding.toList)
    (hprofile : codec = .h264 → Free capability.profileLevelId.toList) (send receive : Bool) :
    Section (mediaHead "video" e.videoRtpPort.toNat (decimal capability.payloadType))
      (videoLines e codec localIp capability ++
        ["a=".toList ++ (videoDirection send receive).toList]) := by
  refine ⟨_, rfl, ?_⟩
  simp only [List.append_eq, List.append_assoc, List.forall_mem_append, List.forall_mem_cons]
  have none : ∀ line ∈ ([] : List Text), Plain line := fun _ h => nomatch h
  refine ⟨⟨?_, none⟩, ?_, ⟨?_, ?_, none⟩, plain_videoCodecLines hprofile, ⟨?_, none⟩,
    plain_direction (free_videoDirection send receive), none⟩
  · exact Plain.append ⟨by decide, by simp [List.infix_cons_iff]⟩ hip
  · split
    · rw [List.forall_mem_singleton]
      exact Plain.append ⟨by decide, by simp [List.infix_cons_iff]⟩ (free_decimal _)
    · exact none
  · refine Plain.append ⟨by decide, by simp [List.infix_cons_iff]⟩ ?_
    simp only [free_append, free_decimal, true_and]
    exact ⟨by decide, hip⟩
  · refine Plain.append ⟨by decide, by simp [List.infix_cons_iff]⟩ ?_
    simp only [free_append, free_decimal, true_and]
    exact ⟨by decide, hencoding, by decide⟩
  · exact Plain.append ⟨by decide, by simp [List.infix_cons_iff]⟩ (free_decimal _)

/-- The encoding of a capability of this build is free. -/
theorem free_encoding_of_valid {codec : VideoCodec} {capability : VideoCapability}
    (h : capability.valid codec = true) : Free capability.encoding.toList := by
  unfold VideoCapability.valid at h
  split at h
  · cases h
  · split at h
    · rw [Bool.and_eq_true, VideoCapability.isJpeg, beq_iff_eq] at h
      rw [h.1]
      decide
    · simp only [Bool.and_eq_true, VideoCapability.isH264, beq_iff_eq] at h
      rw [h.1.1.1]
      decide

/-- The video section of an answer is left out, is rejected, or is a section of this endpoint. -/
theorem videoSection_answer (e : SdpEndpoint) (codec : VideoCodec) (c : SdpContext) {localIp : Text}
    (hip : Free localIp)
    (hprofile : codec = .h264 → Free c.video.capability.profileLevelId.toList) :
    videoSection e codec c localIp true = [] ∨
      ∃ port, Section (mediaHead "video" port (decimal c.video.capability.payloadType))
        (videoSection e codec c localIp true) ∧
        (c.video.offered = true → c.video.negotiated = false → port = 0) := by
  unfold videoSection
  split
  · exact .inl rfl
  · split
    · exact .inr ⟨0, ⟨[], rfl, fun _ h => nomatch h⟩, fun _ _ => rfl⟩
    · rename_i hrejected
      simp only [if_true]
      split
      · exact .inl rfl
      · rename_i hvalid
        rw [Bool.not_eq_false] at hvalid
        rw [if_neg (by simp)]
        refine .inr ⟨e.videoRtpPort.toNat, section_videoLines e codec hip
          (free_encoding_of_valid hvalid) hprofile _ _, fun hoff hneg => ?_⟩
        exact absurd ⟨rfl, hoff, hneg⟩ hrejected

end Sdp

end EsphomeVoip
