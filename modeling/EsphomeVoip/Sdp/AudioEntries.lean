import EsphomeVoip.Sdp.Agreement
import EsphomeVoip.Sdp.Written

/-! # The payload types that an SDP names (`build_sdp_offer_`, `build_sdp_answer_`)

The two writers add one payload type after the other.  An entry is such a payload type with its
format and its flow, and the entries of an offer or of an answer are all that its audio section
says. -/

namespace EsphomeVoip

namespace Sdp

/-! ## PCM formats -/

/-- A list of PCM formats that can be configured. -/
def PcmFormats (formats : AudioFormatList) : Prop :=
  ∀ format ∈ formats, format.codec = .pcm ∧ format.isValid = true

instance (formats : AudioFormatList) : Decidable (PcmFormats formats) :=
  List.decidableBAll _ formats

/-- What a peer reads of a PCM format: the samples of both 24-bit formats are `L24`. -/
def wireFormat (format : AudioFormat) : AudioFormat :=
  { format with
    pcmFormat := if format.pcmFormat = .s24leInS32 then .s24le else format.pcmFormat }

/-- PCM formats share their encoding only if they are the same. -/
theorem shareWire_iff {left right : AudioFormat} (hleft : left.codec = .pcm)
    (hright : right.codec = .pcm) :
    audioFormatsShareWireEncoding left right = true ↔ left = right := by
  obtain ⟨_, _, _, _, _⟩ := left
  obtain ⟨_, _, _, _, _⟩ := right
  simp only at hleft hright
  subst hleft hright
  simp only [audioFormatsShareWireEncoding]
  constructor
  · intro h
    split at h
    · cases h
    · rename_i hsame
      simp only [ne_eq, not_true_eq_false, false_or, Decidable.not_not] at hsame
      simp only [reduceCtorEq, if_false, Bool.and_eq_true, beq_iff_eq] at h
      rw [hsame, h.1.1, h.1.2, h.2]
  · intro h
    simp only [AudioFormat.mk.injEq] at h
    simp [h]

/-- A PCM format is matched by itself. -/
theorem match_pcm {formats : AudioFormatList} {remote : AudioFormat} (maxPayload : Nat)
    (hformats : ∀ format ∈ formats, format.codec = .pcm) (hremote : remote.codec = .pcm) :
    audioFormatListMatchUdpSafe formats remote maxPayload =
      if remote ∈ formats ∧ (audioFormatRtpEncoding remote maxPayload).isSome = true
      then some remote else none := by
  have hbig : maxPayload < remote.nominalRtpPayloadBytes →
      audioFormatRtpEncoding remote maxPayload = none := by
    intro h
    rw [audioFormatRtpEncoding, if_neg (by simp [hremote]), if_pos h]
  rw [audioFormatListMatchUdpSafe]
  split
  · rename_i h
    rw [hbig h.2, if_neg (by simp)]
  · cases hencoding : audioFormatRtpEncoding remote maxPayload with
    | none => rw [if_neg (by simp)]
    | some encoding =>
      simp only [Option.isSome_some, and_true]
      split
      · rename_i hmem
        -- what is found has the format of the peer
        cases hfind : formats.find? fun candidate =>
            audioFormatsShareWireEncoding candidate remote &&
              audioFormatRtpEncoding candidate maxPayload == some encoding with
        | none =>
          have := List.find?_eq_none.mp hfind remote hmem
          rw [(shareWire_iff hremote hremote).mpr rfl, hencoding] at this
          exact absurd (by simp) this
        | some found =>
          have hfound := List.find?_some hfind
          rw [Bool.and_eq_true] at hfound
          rw [(shareWire_iff (hformats _ (List.mem_of_find?_eq_some hfind)) hremote).mp hfound.1]
      · rename_i hmem
        rw [List.find?_eq_none]
        intro candidate hcandidate h
        rw [Bool.and_eq_true] at h
        exact hmem ((shareWire_iff (hformats _ hcandidate) hremote).mp h.1 ▸ hcandidate)

/-! ## Entries -/

/-- A payload type that an SDP names. -/
structure AudioEntry where
  pt : Nat
  format : AudioFormat
  flow : String
  deriving DecidableEq, Repr

namespace AudioEntry

/-- The `a=rtpmap` line of a PCM entry. -/
def rtpmap (entry : AudioEntry) : Text :=
  audioRtpmap entry.pt (if entry.format.pcmFormat = .s16le then "L16" else "L24") entry.format

/-- The line of the directional extension. -/
def flowText (entry : AudioEntry) : Text := audioFlow entry.pt entry.flow

/-- An entry that the writers produce: its format is PCM and fits into a packet. -/
structure Writable (maxPayload : Nat) (entry : AudioEntry) : Prop where
  pt : entry.pt ≤ 127
  pcm : entry.format.codec = .pcm
  valid : entry.format.isValid = true
  encoding : (audioFormatRtpEncoding entry.format maxPayload).isSome = true
  flow : entry.flow = "sendrecv" ∨ entry.flow = "recv" ∨ entry.flow = "send"

end AudioEntry

/-- The lines name these entries, in this order. -/
structure AudioLines.Names (directional : Bool) (entries : List AudioEntry)
    (lines : AudioLines) : Prop where
  payloads : lines.payloads = entries.map (·.pt)
  maps : lines.maps = entries.map AudioEntry.rtpmap
  flows : lines.flows = if directional then entries.map AudioEntry.flowText else []

namespace AudioLines.Names

variable {directional : Bool} {entries : List AudioEntry} {lines : AudioLines}

theorem nil (directional : Bool) : AudioLines.Names directional [] {} where
  payloads := rfl
  maps := rfl
  flows := by cases directional <;> rfl

/-- A payload type that is added is the last entry. -/
theorem add (h : lines.Names directional entries) {maxPayload pt : Nat} {format : AudioFormat}
    {encoding : String} (hpcm : format.codec = .pcm)
    (hencoding : audioFormatRtpEncoding format maxPayload = some encoding) (flow : String) :
    (lines.add pt encoding format directional flow).Names directional
      (entries ++ [⟨pt, format, flow⟩]) := by
  have hname : encoding = if format.pcmFormat = .s16le then "L16" else "L24" := by
    rw [audioFormatRtpEncoding, if_neg (by simp [hpcm])] at hencoding
    split at hencoding
    · cases hencoding
    · split at hencoding <;> rename_i hformat
      all_goals simp only [Option.some.injEq, reduceCtorEq] at hencoding
      all_goals rw [← hencoding, hformat]; rfl
  constructor
  · simp only [AudioLines.add, h.payloads, List.map_append, List.map_cons, List.map_nil]
  · have hopus : ¬format.codec = .opus := by simp [hpcm]
    simp only [AudioLines.add, h.maps, audioMaps, if_neg hopus, List.map_append, List.map_cons,
      List.map_nil, AudioEntry.rtpmap, hname]
  · simp only [AudioLines.add, h.flows]
    cases directional with
    | true => simp [AudioEntry.flowText]
    | false => rfl

end AudioLines.Names

/-! ## The entries of an offer -/

/-- An entry of an offer to a peer that takes both directions. -/
structure OfferEntry (e : SdpEndpoint) (c : SdpContext) (entry : AudioEntry) : Prop
    extends entry.Writable e.udpMaxPayload where
  ptime : entry.format.frameMs = offerPtime e c
  /-- What is only sent is no receive format. -/
  receives : entry.flow = "send" ↔ entry.format ∉ c.offerRxFormats
  /-- Without the extension a format is offered in both directions, or at another sample rate. -/
  plain : c.peerDirectionalAudioV1 = false → entry.format ∈ c.offerRxFormats ∧
    (entry.format ∈ c.offerTxFormats ∨ entry.format.pcmFormat = .s16le)

/-- What the loops of `build_sdp_offer_` have named so far. -/
structure OfferedEntries (e : SdpEndpoint) (c : SdpContext) (entries : List AudioEntry)
    (o : Offered) : Prop where
  names : o.lines.Names c.peerDirectionalAudioV1 entries
  pt : o.pt = 96 + entries.length
  /-- The payload types are consecutive. -/
  place : ∀ (i : Nat) (entry : AudioEntry), entries[i]? = some entry → entry.pt = 96 + i
  entry : ∀ entry ∈ entries, OfferEntry e c entry
  rx : o.rxPayloads = (entries.filter fun entry => entry.format ∈ c.offerRxFormats).map
    fun entry => (entry.pt, entry.format)
  tx : o.txFormats.length ≤ entries.length
  pcm : ∀ format ∈ o.txFormats, format.codec = .pcm
  sent : c.peerDirectionalAudioV1 = false → ∀ entry ∈ entries,
    entry.format ∈ c.offerTxFormats → entry.format ∈ o.txFormats

theorem offeredEntries_nil (e : SdpEndpoint) (c : SdpContext) : OfferedEntries e c [] {} where
  names := .nil _
  pt := rfl
  place := fun _ _ h => by simp at h
  entry := fun _ h => absurd h List.not_mem_nil
  rx := rfl
  tx := Nat.le_refl _
  pcm := fun _ h => nomatch h
  sent := fun _ _ h => nomatch h

/-- A new payload type is added where there is room. -/
theorem RtpAudioPayloads.add_new {pt : Nat} {format : AudioFormat} {payloads : RtpAudioPayloads}
    (hvalid : format.isValid = true) (hpt : pt ≤ 127) (hnew : ∀ entry ∈ payloads, entry.1 ≠ pt)
    (hroom : payloads.length < voipStackMaxAudioFormats) :
    EsphomeVoip.RtpAudioPayloads.add pt format payloads = some (payloads ++ [(pt, format)]) := by
  have hnone : payloads.find? (fun entry => entry.1 == pt) = none := by
    rw [List.find?_eq_none]
    intro entry hentry
    simpa using hnew entry hentry
  rw [EsphomeVoip.RtpAudioPayloads.add, if_neg (by simp [hvalid]; omega), hnone]
  simp only
  rw [if_neg (by omega)]

section Offer

variable {e : SdpEndpoint} {c : SdpContext} {entries : List AudioEntry} {o : Offered}

/-- The next payload type has not been used. -/
theorem OfferedEntries.pt_new (h : OfferedEntries e c entries o) :
    ∀ entry ∈ o.rxPayloads, entry.1 ≠ o.pt := by
  intro entry hentry heq
  rw [h.rx, List.mem_map] at hentry
  obtain ⟨old, hold, rfl⟩ := hentry
  obtain ⟨i, hi⟩ := List.mem_iff_getElem?.mp (List.mem_filter.mp hold).1
  have hplace := h.place i old hi
  have hlt := (List.getElem?_eq_some_iff.mp hi).1
  have hpt := h.pt
  simp only at heq
  omega

/-- The next entry has the next payload type. -/
theorem OfferedEntries.place_add (h : OfferedEntries e c entries o) (format : AudioFormat)
    (flow : String) (i : Nat) (entry : AudioEntry)
    (hentry : (entries ++ [⟨o.pt, format, flow⟩])[i]? = some entry) : entry.pt = 96 + i := by
  have hpt := h.pt
  rw [List.getElem?_append] at hentry
  split at hentry
  · exact h.place i entry hentry
  · rename_i hi
    rw [List.getElem?_singleton] at hentry
    split at hentry
    · cases hentry
      simp only
      omega
    · cases hentry

/-- What the offer receives has one more payload type, where the format is one that it receives. -/
theorem OfferedEntries.rx_add (h : OfferedEntries e c entries o) {format : AudioFormat}
    (flow : String) (hvalid : format.isValid = true) (hpt : o.pt < 120)
    (hroom : format ∈ c.offerRxFormats → entries.length < voipStackMaxAudioFormats) :
    (if format ∈ c.offerRxFormats then (RtpAudioPayloads.add o.pt format o.rxPayloads).getD
        o.rxPayloads else o.rxPayloads) =
      ((entries ++ [AudioEntry.mk o.pt format flow]).filter
        fun entry => entry.format ∈ c.offerRxFormats).map fun entry =>
          (entry.pt, entry.format) := by
  rw [List.filter_append, List.map_append, ← h.rx]
  by_cases hmem : format ∈ c.offerRxFormats
  · -- the payload type is new, and there is room for it
    have hfree := hroom hmem
    have hlen : o.rxPayloads.length ≤ entries.length := by
      rw [h.rx, List.length_map]
      exact List.length_filter_le ..
    have hplace : o.rxPayloads.length < voipStackMaxAudioFormats := Nat.lt_of_le_of_lt hlen hfree
    have hseven : o.pt ≤ 127 := by omega
    rw [if_pos hmem, RtpAudioPayloads.add_new hvalid hseven h.pt_new hplace,
      List.filter_cons_of_pos (by simpa using hmem)]
    rfl
  · rw [if_neg hmem, List.filter_cons_of_neg (by simpa using hmem)]
    simp

/-- What the offer transmits has the format as well, where it is one that it transmits and there is
    room for it. -/
theorem OfferedEntries.sent_add (h : OfferedEntries e c entries o) {format : AudioFormat}
    {flow : String} (hdirectional : c.peerDirectionalAudioV1 = false)
    (hroom : entries.length < voipStackMaxAudioFormats) {entry : AudioEntry}
    (hentry : entry ∈ entries ++ [⟨o.pt, format, flow⟩]) (hsend : entry.format ∈ c.offerTxFormats) :
    entry.format ∈ if format ∈ c.offerTxFormats then
      if o.txFormats.length < voipStackMaxAudioFormats then o.txFormats ++ [format] else o.txFormats
      else o.txFormats := by
  have hold (hmem : entry ∈ entries) : entry.format ∈ o.txFormats :=
    h.sent hdirectional entry hmem hsend
  have hplace : o.txFormats.length < voipStackMaxAudioFormats := Nat.lt_of_le_of_lt h.tx hroom
  rw [if_pos hplace]
  split
  · rcases List.mem_append.mp hentry with hentry | hentry
    · exact List.mem_append_left _ (hold hentry)
    · rw [List.mem_singleton.mp hentry]
      exact List.mem_append_right _ List.mem_cons_self
  · rename_i hmem
    rcases List.mem_append.mp hentry with hentry | hentry
    · exact hold hentry
    · rw [List.mem_singleton.mp hentry] at hsend
      exact absurd hsend hmem

/-- `append_format` leaves the offer or adds an entry. -/
theorem OfferedEntries.append (h : OfferedEntries e c entries o)
    (hrefer : c.referContextActive = false)
    (htx : PcmFormats c.offerTxFormats) (hrx : PcmFormats c.offerRxFormats)
    {format : AudioFormat} (flow : String) (hpcm : format.codec = .pcm)
    (hvalid : format.isValid = true)
    (hflow : flow = "sendrecv" ∨ flow = "recv" ∨ flow = "send")
    (hreceives : flow = "send" ↔ format ∉ c.offerRxFormats)
    (hplain : c.peerDirectionalAudioV1 = false → format ∈ c.offerRxFormats ∧
      (format ∈ c.offerTxFormats ∨ format.pcmFormat = .s16le))
    (hroom : format ∈ c.offerRxFormats → entries.length < voipStackMaxAudioFormats) :
    ∃ entries', OfferedEntries e c entries' (appendFormat e c format flow o) ∧
      entries'.length ≤ entries.length + 1 := by
  have hretained : retainedTx c = none := by
    rw [retainedTx, if_neg (by simp [hrefer])]
  rw [appendFormat, hretained]
  split
  · exact ⟨entries, h, Nat.le_succ _⟩
  rename_i hptime
  simp only [Option.any_none, Bool.false_eq_true, or_false, not_or, Nat.not_le, ne_eq,
    Decidable.not_not] at hptime
  split
  · exact ⟨entries, h, Nat.le_succ _⟩
  rename_i encoding hencoding
  have hsome : (audioFormatRtpEncoding format e.udpMaxPayload).isSome = true := by
    rw [hencoding]
    rfl
  refine ⟨entries ++ [⟨o.pt, format, flow⟩], ?_, by simp⟩
  -- A PCM format finds itself, or nothing, in a list of PCM formats.
  rw [match_pcm _ (fun f hf => (htx f hf).1) hpcm, match_pcm _ (fun f hf => (hrx f hf).1) hpcm]
  simp only [hsome, and_true]
  have hpt := h.pt
  have htxlen := h.tx
  refine { names := h.names.add hpcm hencoding flow, pt := ?pt, place := h.place_add format flow,
           entry := ?entry, rx := ?rx, tx := ?tx, pcm := ?pcm, sent := ?sent }
  case pt =>
    simp only [List.length_append, List.length_singleton]
    omega
  case entry =>
    intro entry hentry
    rcases List.mem_append.mp hentry with hentry | hentry
    · exact h.entry entry hentry
    · rw [List.mem_singleton.mp hentry]
      exact ⟨⟨by simp only; omega, hpcm, hvalid, hsome, hflow⟩, hptime.2, hreceives, hplain⟩
  case rx =>
    rw [← h.rx_add flow hvalid hptime.1 hroom]
    by_cases hmem : format ∈ c.offerRxFormats
    · simp only [if_pos hmem]
    · simp only [if_neg hmem]
  case tx =>
    simp only [List.length_append, List.length_singleton]
    by_cases hmem : format ∈ c.offerTxFormats
    · simp only [if_pos hmem]
      split
      · rw [List.length_append, List.length_singleton]
        omega
      · omega
    · simp only [if_neg hmem]
      omega
  case pcm =>
    intro format' hformat'
    have hold : format' ∈ o.txFormats ++ [format] → format'.codec = .pcm := by
      intro hmem
      rcases List.mem_append.mp hmem with hmem | hmem
      · exact h.pcm format' hmem
      · rw [List.mem_singleton.mp hmem]
        exact hpcm
    grind
  case sent =>
    intro hdirectional entry hentry hsend
    have hsent := h.sent_add hdirectional (hroom (hplain hdirectional).1) hentry hsend
    by_cases hmem : format ∈ c.offerTxFormats
    · simp only [if_pos hmem] at hsent ⊢
      exact hsent
    · simp only [if_neg hmem] at hsent ⊢
      exact hsent

/-- The loop over the receive formats. -/
theorem OfferedEntries.offerRx (hrefer : c.referContextActive = false)
    (htx : PcmFormats c.offerTxFormats) (hrx : PcmFormats c.offerRxFormats)
    (hne : c.offerTxFormats ≠ []) {formats : AudioFormatList}
    (hformats : ∀ format ∈ formats, format ∈ c.offerRxFormats) {entries : List AudioEntry}
    {o : Offered} (h : OfferedEntries e c entries o)
    (hroom : entries.length + formats.length ≤ voipStackMaxAudioFormats) :
    ∃ entries', OfferedEntries e c entries' (formats.foldl (Sdp.offerRx e c) o) := by
  induction formats generalizing entries o with
  | nil => exact ⟨entries, h⟩
  | cons format formats ih =>
    rw [List.forall_mem_cons] at hformats
    rw [List.length_cons] at hroom
    rw [List.foldl_cons, Sdp.offerRx]
    have hpcm := hrx format hformats.1
    -- A format that shares its wire encoding with an offered one is that one.
    have hshared : (c.offerTxFormats.any fun tx => audioFormatsShareWireEncoding tx format) = true →
        format ∈ c.offerTxFormats := by
      intro hany
      obtain ⟨tx, hmem, hsame⟩ := List.any_eq_true.mp hany
      exact (shareWire_iff (htx tx hmem).1 hpcm.1).mp hsame ▸ hmem
    generalize (c.offerTxFormats.any fun tx => audioFormatsShareWireEncoding tx format) = shared
      at hshared ⊢
    split
    · rename_i hoffer
      -- Without the extension only such a format is offered, or a standard rate.
      have hplain : c.peerDirectionalAudioV1 = false → format ∈ c.offerRxFormats ∧
          (format ∈ c.offerTxFormats ∨ format.pcmFormat = .s16le) := by
        intro hdirectional
        refine ⟨hformats.1, ?_⟩
        simp only [hdirectional, Bool.or_false, Bool.or_eq_true, beq_iff_eq, hne,
          or_false] at hoffer
        rcases hoffer with hoffer | hoffer
        · exact .inl (hshared hoffer)
        · -- a standard rate
          simp only [standardReceive, Bool.and_eq_true, List.any_eq_true, beq_iff_eq] at hoffer
          obtain ⟨-, tx, -, hsame⟩ := hoffer
          exact .inr hsame.1.1.1
      obtain ⟨entries', hentries', hlen⟩ := h.append hrefer htx hrx
        (if shared then "sendrecv" else "recv") hpcm.1 hpcm.2 (by cases shared <;> simp)
        (by cases shared <;> simp [hformats.1]) hplain (fun _ => by omega)
      exact ih hformats.2 hentries' (by omega)
    · exact ih hformats.2 h (by omega)

/-- The loop over the transmit formats, which only the extension runs. -/
theorem OfferedEntries.offerTx (hrefer : c.referContextActive = false)
    (htx : PcmFormats c.offerTxFormats) (hrx : PcmFormats c.offerRxFormats)
    (hdirectional : c.peerDirectionalAudioV1 = true) {formats : AudioFormatList}
    (hformats : ∀ format ∈ formats, format ∈ c.offerTxFormats) {entries : List AudioEntry}
    {o : Offered} (h : OfferedEntries e c entries o) :
    ∃ entries', OfferedEntries e c entries' (formats.foldl (Sdp.offerTx e c) o) := by
  induction formats generalizing entries o with
  | nil => exact ⟨entries, h⟩
  | cons format formats ih =>
    rw [List.forall_mem_cons] at hformats
    rw [List.foldl_cons, Sdp.offerTx]
    have hpcm := htx format hformats.1
    split
    · exact ih hformats.2 h
    · rename_i hnew
      have hmem : format ∉ c.offerRxFormats := fun hmem =>
        hnew (List.any_eq_true.mpr ⟨format, hmem, (shareWire_iff hpcm.1 hpcm.1).mpr rfl⟩)
      obtain ⟨entries', hentries', -⟩ := h.append hrefer htx hrx "send" hpcm.1 hpcm.2
        (.inr (.inr rfl)) (by simp [hmem])
        (fun hno => absurd (hdirectional.symm.trans hno) (by decide)) fun hin => absurd hin hmem
      exact ih hformats.2 hentries'

/-- What an offer in both directions names. -/
theorem exists_offeredEntries (hrefer : c.referContextActive = false)
    (htx : PcmFormats c.offerTxFormats) (hrx : PcmFormats c.offerRxFormats)
    (hsends : c.offerTxFormats ≠ []) (hreceives : c.offerRxFormats ≠ [])
    (hroom : c.offerRxFormats.length ≤ voipStackMaxAudioFormats) :
    ∃ entries, OfferedEntries e c entries (offered e c) := by
  obtain ⟨entries, hentries⟩ := (offeredEntries_nil e c).offerRx hrefer htx hrx hsends
    (fun _ h => h) (by simpa using hroom)
  rw [offered]
  split
  · rename_i hdirectional
    simp only [Bool.or_eq_true, beq_iff_eq, hreceives, or_false] at hdirectional
    exact hentries.offerTx hrefer htx hrx hdirectional fun _ h => h
  · exact ⟨entries, hentries⟩

end Offer

/-! ## The entries of an answer -/

/-- What an answer in both directions names. -/
def answerEntries (n : Negotiation) : List AudioEntry :=
  ⟨n.rxPayloadType, n.selectedRx,
      if n.txPayloadType == n.rxPayloadType then "sendrecv" else "recv"⟩ ::
    ((n.rxPayloads.filter fun entry =>
        entry.1 ≠ n.rxPayloadType ∧ entry.1 ≠ n.txPayloadType).map fun entry =>
      ⟨entry.1, entry.2, "recv"⟩) ++
    if n.txPayloadType = n.rxPayloadType then [] else [⟨n.txPayloadType, n.selectedTx, "send"⟩]

section Answer

variable {e : SdpEndpoint} {c : SdpContext} {entries : List AudioEntry} {lines lines' : AudioLines}

/-- The entries that have been written fit into a packet. -/
def Fitting (e : SdpEndpoint) (entries : List AudioEntry) : Prop :=
  ∀ entry ∈ entries, (audioFormatRtpEncoding entry.format e.udpMaxPayload).isSome = true

theorem Names.appendAnswer (h : lines.Names c.negotiation.remoteDirectionalAudioV1 entries)
    (hfit : Fitting e entries) {pt : Nat} {format : AudioFormat} {flow : String}
    (hpcm : format.codec = .pcm) (happend : appendAnswer e c pt format flow lines = some lines') :
    lines'.Names c.negotiation.remoteDirectionalAudioV1 (entries ++ [⟨pt, format, flow⟩]) ∧
      Fitting e (entries ++ [⟨pt, format, flow⟩]) := by
  rw [Sdp.appendAnswer] at happend
  split at happend
  · cases happend
  · rename_i encoding hencoding
    cases happend
    refine ⟨h.add hpcm hencoding flow, ?_⟩
    intro entry hentry
    rcases List.mem_append.mp hentry with hentry | hentry
    · exact hfit entry hentry
    · rw [List.mem_singleton.mp hentry]
      simp only [hencoding, Option.isSome_some]

/-- The lines of an answer in both directions name its entries. -/
theorem names_answerLines (hsends : c.negotiation.selectedTx.isValid = true)
    (hreceives : c.negotiation.selectedRx.isValid = true)
    (htx : c.negotiation.selectedTx.codec = .pcm) (hrx : c.negotiation.selectedRx.codec = .pcm)
    (haccepted : ∀ entry ∈ c.negotiation.rxPayloads, entry.2.codec = .pcm)
    (h : answerLines e c = some lines) :
    lines.Names c.negotiation.remoteDirectionalAudioV1 (answerEntries c.negotiation) ∧
      Fitting e (answerEntries c.negotiation) := by
  rw [answerLines, Option.bind_eq_some_iff] at h
  obtain ⟨selected, hselected, h⟩ := h
  rw [Option.bind_eq_some_iff] at h
  obtain ⟨accepted, hothers, htransmit⟩ := h
  rw [answerSelected, if_pos hreceives, hsends, Bool.true_and] at hselected
  have hfirst := Names.appendAnswer (.nil _) (fun _ h => absurd h List.not_mem_nil) hrx hselected
  rw [List.nil_append] at hfirst
  rw [answerAccepted, if_pos hreceives] at hothers
  -- the loop over the other accepted payload types
  have hloop : ∀ (rest : RtpAudioPayloads) (entries : List AudioEntry) (lines : AudioLines),
      (∀ entry ∈ rest, entry.2.codec = .pcm) →
      lines.Names c.negotiation.remoteDirectionalAudioV1 entries ∧ Fitting e entries →
      rest.foldlM (fun lines entry =>
        if entry.1 = c.negotiation.rxPayloadType ∨
          c.negotiation.selectedTx.isValid = true ∧ entry.1 = c.negotiation.txPayloadType then
          some lines
        else appendAnswer e c entry.1 entry.2 "recv" lines) lines = some accepted →
      let named := entries ++ (rest.filter fun entry => entry.1 ≠ c.negotiation.rxPayloadType ∧
        entry.1 ≠ c.negotiation.txPayloadType).map fun entry => ⟨entry.1, entry.2, "recv"⟩
      accepted.Names c.negotiation.remoteDirectionalAudioV1 named ∧ Fitting e named := by
    intro rest
    induction rest with
    | nil =>
      intro entries lines _ hnames h
      cases h
      simpa using hnames
    | cons entry rest ih =>
      intro entries lines hpcm hnames h
      rw [List.forall_mem_cons] at hpcm
      rw [List.foldlM_cons, Option.bind_eq_bind, Option.bind_eq_some_iff] at h
      obtain ⟨next, hnext, h⟩ := h
      split at hnext
      · rename_i hskip
        cases hnext
        rw [List.filter_cons_of_neg (by simp; grind)]
        exact ih entries lines hpcm.2 hnames h
      · rename_i hkeep
        rw [hsends] at hkeep
        have hnext := Names.appendAnswer hnames.1 hnames.2 hpcm.1 hnext
        have := ih _ _ hpcm.2 hnext h
        rw [List.filter_cons_of_pos (by simp; grind), List.map_cons]
        simpa using this
  have hmiddle := hloop _ _ _ haccepted hfirst hothers
  rw [answerTransmit, hsends, hreceives, Bool.true_and, Bool.not_true, Bool.false_or] at htransmit
  rw [answerEntries]
  split at htransmit
  · rename_i hother
    rw [bne_iff_ne] at hother
    rw [if_neg hother]
    exact Names.appendAnswer hmiddle.1 hmiddle.2 htx htransmit
  · rename_i hsame
    cases htransmit
    rw [bne_iff_ne, ne_eq, Decidable.not_not] at hsame
    rw [if_pos hsame, List.append_nil]
    exact hmiddle

end Answer

end Sdp

end EsphomeVoip
