import EsphomeVoip.Sdp.ReadBack

/-! # What is selected from the entries of an SDP (`learn_remote_rtp_from_sdp_`)

The second loop takes the entries one after the other.  What may be received are the matched
entries, and what is transmitted is the first one that is matched for it: a later payload type has
a higher rank. -/

namespace EsphomeVoip

namespace Sdp

/-! ## PCM in both directions -/

/-- An endpoint with PCM formats for both directions reads an SDP. -/
structure PcmTerms (a : AudioTerms) : Prop where
  speaker : a.e.speaker = true
  opus : a.e.opus = false
  tx : PcmFormats a.c.offerTxFormats
  rx : PcmFormats a.c.offerRxFormats
  sends : a.c.offerTxFormats ≠ []
  receives : a.c.offerRxFormats ≠ []
  offeredTx : a.isAnswer = true →
    ∀ format ∈ a.c.negotiation.localOfferedTxFormats, format.codec = .pcm
  offeredRx : a.isAnswer = true →
    ∀ entry ∈ a.c.negotiation.localOfferedRxPayloads, entry.2.codec = .pcm

/-- The flow of an entry, as seen from the peer. -/
def entryFlow (a : AudioTerms) (scan : AudioScan) (entry : AudioEntry) : Flow :=
  if !a.directional || scan.payloadFlow entry.pt == Flow.none then scan.mediaFlow
  else scan.payloadFlow entry.pt

/-- How an entry matches the local formats. -/
def entryMatch (a : AudioTerms) (scan : AudioScan) (entry : AudioEntry) : PayloadMatch :=
  matchPayload a (entryFlow a scan entry) entry.pt (wireFormat entry.format)

/-- `eligible`, of a payload type with that match. -/
def eligible (a : AudioTerms) (m : PayloadMatch) : Bool :=
  a.directional || (m.localTx.isSome && m.localRx.isSome) || alternatePcm a.e m.localRx

/-- The entry may be received. -/
def receives (a : AudioTerms) (scan : AudioScan) (entry : AudioEntry) : Bool :=
  (entryMatch a scan entry).localRx.isSome && eligible a (entryMatch a scan entry)

/-- The entry may be transmitted. -/
def transmits (a : AudioTerms) (scan : AudioScan) (entry : AudioEntry) : Bool :=
  (entryMatch a scan entry).localTx.isSome && eligible a (entryMatch a scan entry) &&
    (a.directional || (entryMatch a scan entry).localRx.isSome)

section Match

variable {a : AudioTerms} {scan : AudioScan} {entry : AudioEntry}

/-- The entry is matched for transmission. -/
def SendMatch (a : AudioTerms) (scan : AudioScan) (entry : AudioEntry) : Prop :=
  (entryFlow a scan entry).recv = true ∧ wireFormat entry.format ∈ a.c.offerTxFormats ∧
    (audioFormatRtpEncoding (wireFormat entry.format) a.e.udpMaxPayload).isSome = true ∧
    (a.isAnswer = true → wireFormat entry.format ∈ a.c.negotiation.localOfferedTxFormats)

/-- The entry is matched for reception. -/
def ReceiveMatch (a : AudioTerms) (scan : AudioScan) (entry : AudioEntry) : Prop :=
  (entryFlow a scan entry).send = true ∧ wireFormat entry.format ∈ a.c.offerRxFormats ∧
    (audioFormatRtpEncoding (wireFormat entry.format) a.e.udpMaxPayload).isSome = true ∧
    (a.isAnswer = true → ∃ offered ∈ a.c.negotiation.localOfferedRxPayloads,
      offered.2 = wireFormat entry.format)

/-- A match for transmission has the format on the wire. -/
theorem localTx_entryMatch (scan : AudioScan) (ha : PcmTerms a) (hpcm : entry.format.codec = .pcm) :
    ((entryMatch a scan entry).localTx.isSome = true ↔ SendMatch a scan entry) ∧
      ∀ format ∈ (entryMatch a scan entry).localTx, format = wireFormat entry.format := by
  have hwire : (wireFormat entry.format).codec = .pcm := hpcm
  have hmatch := match_pcm a.e.udpMaxPayload (fun f hf => (ha.tx f hf).1) hwire
  simp only [entryMatch, matchPayload, hmatch, SendMatch]
  cases hanswer : a.isAnswer with
  | false => grind
  | true =>
    simp only [match_pcm a.e.udpMaxPayload (ha.offeredTx hanswer) hwire]
    grind

/-- A match for reception has the format on the wire. -/
theorem localRx_entryMatch (scan : AudioScan) (ha : PcmTerms a) (hpcm : entry.format.codec = .pcm) :
    ((entryMatch a scan entry).localRx.isSome = true ↔ ReceiveMatch a scan entry) ∧
      ∀ format ∈ (entryMatch a scan entry).localRx, format = wireFormat entry.format := by
  have hwire : (wireFormat entry.format).codec = .pcm := hpcm
  have hmatch := match_pcm a.e.udpMaxPayload (fun f hf => (ha.rx f hf).1) hwire
  simp only [entryMatch, matchPayload, hmatch, ReceiveMatch]
  cases hanswer : a.isAnswer with
  | false => grind
  | true =>
    have hoffered : (a.c.negotiation.localOfferedRxPayloads.find? fun entry' =>
          audioFormatsShareWireEncoding entry'.2 (wireFormat entry.format)).isSome = true ↔
        ∃ offered ∈ a.c.negotiation.localOfferedRxPayloads,
          offered.2 = wireFormat entry.format := by
      rw [List.find?_isSome]
      constructor
      · rintro ⟨offered, hmem, hsame⟩
        exact ⟨offered, hmem, (shareWire_iff (ha.offeredRx hanswer _ hmem) hwire).mp hsame⟩
      · rintro ⟨offered, hmem, hsame⟩
        exact ⟨offered, hmem, (shareWire_iff (ha.offeredRx hanswer _ hmem) hwire).mpr hsame⟩
    simp only [if_true, hoffered]
    grind

/-- The payload type that the peer is told: its own one, or in an answer the first offered one of
    that format. -/
theorem receivePt_entryMatch (hanswer : a.isAnswer = false) :
    (entryMatch a scan entry).receivePt = entry.pt := by
  simp only [entryMatch, matchPayload, hanswer, Bool.false_eq_true, if_false]

end Match

/-! ## The second loop -/

/-- What has been selected from these entries. -/
structure Chosen (a : AudioTerms) (scan : AudioScan) (done : List AudioEntry)
    (s : AudioChoice) : Prop where
  received : ∀ (pt : Nat) (format : AudioFormat), (pt, format) ∈ s.received ↔
    ∃ entry ∈ done, receives a scan entry = true ∧
      pt = (entryMatch a scan entry).receivePt ∧ format = wireFormat entry.format
  tx : s.selectedTx = (done.find? (transmits a scan)).map fun entry =>
    ⟨wireFormat entry.format, entry.pt, scan.payloadRank entry.pt⟩

theorem chosen_nil (a : AudioTerms) (scan : AudioScan) (ip : UInt32) :
    Chosen a scan [] { mediaIp := ip } where
  received := fun _ _ => ⟨fun h => absurd h List.not_mem_nil, fun ⟨_, h, _⟩ =>
    absurd h List.not_mem_nil⟩
  tx := rfl

section Choose

variable {a : AudioTerms} {scan : AudioScan} {done : List AudioEntry} {entry : AudioEntry}
  {s s' : AudioChoice}

/-- What another state has selected. -/
theorem Chosen.congr (h : Chosen a scan done s) (hreceived : s'.received = s.received)
    (htx : s'.selectedTx = s.selectedTx) : Chosen a scan done s' := by
  constructor
  · rw [hreceived]
    exact h.received
  · rw [htx]
    exact h.tx

/-- What an entry adds to what may be received. -/
theorem mem_received (ha : PcmTerms a) (hpcm : entry.format.codec = .pcm)
    {received received' : RtpAudioPayloads}
    (h : (match (entryMatch a scan entry).localRx with
      | some localRx =>
        if eligible a (entryMatch a scan entry) = true then
          RtpAudioPayloads.add (entryMatch a scan entry).receivePt localRx received
        else some received
      | none => some received) = some received') (p : Nat × AudioFormat) :
    p ∈ received' ↔ p ∈ received ∨ receives a scan entry = true ∧
      p = ((entryMatch a scan entry).receivePt, wireFormat entry.format) := by
  have hformat := (localRx_entryMatch scan ha hpcm).2
  rw [receives]
  cases hlocal : (entryMatch a scan entry).localRx with
  | none =>
    rw [hlocal] at h
    cases h
    simp
  | some localRx =>
    rw [hlocal] at h
    simp only at h
    split at h
    · rename_i heligible
      rw [hformat localRx hlocal] at h
      rw [heligible]
      rcases (RtpAudioPayloads.add_eq h).2.2 with ⟨rfl, hmem⟩ | ⟨rfl, -⟩
      · simp only [Option.isSome_some, Bool.and_self, true_and]
        exact ⟨.inl, fun hp => hp.elim id fun hp => hp ▸ hmem⟩
      · simp
    · rename_i heligible
      cases h
      simp [heligible]

/-- An entry is added to the selection. -/
theorem Chosen.choosePayload (ha : PcmTerms a) (hscan : scan.mediaFlow = Flow.both)
    (hpcm : entry.format.codec = .pcm) (h : Chosen a scan done s)
    (hrank : ∀ old ∈ done, scan.payloadRank old.pt ≤ scan.payloadRank entry.pt)
    (hchoose : choosePayload a scan entry.pt (entryMatch a scan entry) s = some s') :
    Chosen a scan (done ++ [entry]) s' ∧ s'.inAudio = s.inAudio := by
  have htxEq := (localTx_entryMatch scan ha hpcm).2
  have hfree : (unidirectional a.c || a.directional || scan.mediaFlow != Flow.both) =
      a.directional := by
    simp [unidirectional, ha.sends, ha.receives, hscan]
  have heligible : (a.directional || ((entryMatch a scan entry).localTx.isSome &&
      (entryMatch a scan entry).localRx.isSome) ||
      alternatePcm a.e (entryMatch a scan entry).localRx) = eligible a (entryMatch a scan entry) :=
    rfl
  simp only [Sdp.choosePayload, hfree, heligible] at hchoose
  -- the entry can be received, or the SDP is refused
  split at hchoose
  · cases hchoose
  rename_i received hreceived
  cases hchoose
  refine ⟨⟨?_, ?_⟩, rfl⟩
  · -- The received entries are those from before and this one.
    intro pt format
    simp only [mem_received ha hpcm hreceived, h.received, List.mem_append, List.mem_singleton,
      or_and_right, exists_or, exists_eq_left, Prod.mk.injEq]
  · -- the first entry stays selected, as its rank is not higher
    rw [List.find?_append, h.tx]
    cases hfirst : done.find? (transmits a scan) with
    | some first =>
      have hle := hrank first (List.mem_of_find?_eq_some hfirst)
      cases (entryMatch a scan entry).localTx with
      | none => rfl
      | some localTx => simp [Nat.not_lt.mpr hle]
    | none =>
      rw [Option.none_or, List.find?_singleton, transmits]
      cases hlocal : (entryMatch a scan entry).localTx with
      | none => simp
      | some localTx =>
        rw [htxEq localTx hlocal]
        simp only [Option.map_none, Option.elim_none, Bool.and_true, Option.isSome_some,
          Bool.true_and]
        split <;> rfl

/-- A line without a format leaves the selection. -/
theorem chooseLine_other {line : Text} (hmedia : startsWith line "m=" = false)
    (hmap : s.inAudio = false ∨ startsWith line "a=rtpmap:" = false) {i : Nat}
    (h : chooseLine a scan s (line, i) = some s') :
    s'.received = s.received ∧ s'.selectedTx = s.selectedTx ∧ s'.inAudio = s.inAudio := by
  simp only [chooseLine, hmedia, Bool.false_eq_true, if_false] at h
  split at h
  · cases h
    exact ⟨rfl, rfl, rfl⟩
  · rw [if_neg (by rcases hmap with hmap | hmap <;> simp [hmap])] at h
    cases h
    exact ⟨rfl, rfl, rfl⟩

/-- So do lines without formats. -/
theorem foldlM_other {lines : List Text}
    (hlines : ∀ line ∈ lines, startsWith line "m=" = false ∧
      (s.inAudio = false ∨ startsWith line "a=rtpmap:" = false)) {k : Nat}
    (h : (lines.zipIdx k).foldlM (chooseLine a scan) s = some s') :
    s'.received = s.received ∧ s'.selectedTx = s.selectedTx ∧ s'.inAudio = s.inAudio := by
  induction lines generalizing s k with
  | nil =>
    cases h
    exact ⟨rfl, rfl, rfl⟩
  | cons line lines ih =>
    rw [List.forall_mem_cons] at hlines
    rw [List.zipIdx_cons, List.foldlM_cons, Option.bind_eq_bind, Option.bind_eq_some_iff] at h
    obtain ⟨next, hnext, h⟩ := h
    obtain ⟨hreceived, htx, hin⟩ := chooseLine_other hlines.1.1 hlines.1.2 hnext
    obtain ⟨hreceived', htx', hin'⟩ := ih (by rw [hin]; exact hlines.2) h
    exact ⟨hreceived'.trans hreceived, htx'.trans htx, hin'.trans hin⟩

/-- Behind the audio section nothing is selected any more. -/
theorem foldlM_behind {lines : List Text} {selected k : Nat}
    (hsel : scan.selectedLine = some selected) (hk : selected < k) (hs : s.inAudio = false)
    (h : (lines.zipIdx k).foldlM (chooseLine a scan) s = some s') :
    s'.received = s.received ∧ s'.selectedTx = s.selectedTx := by
  induction lines generalizing s k with
  | nil =>
    cases h
    exact ⟨rfl, rfl⟩
  | cons line lines ih =>
    rw [List.zipIdx_cons, List.foldlM_cons, Option.bind_eq_bind, Option.bind_eq_some_iff] at h
    obtain ⟨next, hnext, h⟩ := h
    cases hmedia : startsWith line "m=" with
    | true =>
      simp only [chooseLine, hmedia, if_true] at hnext
      cases hnext
      have hin : (scan.selectedLine == some k) = false := by
        rw [hsel]
        simpa using by omega
      exact ih (s := { s with seenMedia := true, inAudio := scan.selectedLine == some k })
        (by omega) hin h
    | false =>
      obtain ⟨hreceived, htx, hin⟩ := chooseLine_other hmedia (.inl hs) hnext
      obtain ⟨hreceived', htx'⟩ := ih (by omega) (hin.trans hs) h
      exact ⟨hreceived'.trans hreceived, htx'.trans htx⟩

/-- The line of an entry offers the entry. -/
theorem chooseLine_rtpmap {directional : Bool} {entries : List AudioEntry} {ptime maxPayload : Nat}
    (hscan : Scanned directional entries ptime scan) (hs : s.inAudio = true)
    (hmem : entry ∈ entries) (hentry : entry.Writable maxPayload)
    (hptime : entry.format.frameMs = ptime) {i : Nat}
    (h : chooseLine a scan s (entry.rtpmap, i) = some s') :
    ∃ t, t.received = s.received ∧ t.selectedTx = s.selectedTx ∧ t.inAudio = s.inAudio ∧
      choosePayload a scan entry.pt (entryMatch a scan entry) t = some s' := by
  obtain ⟨hmedia, -, -, haddress, hmap, -⟩ := startsWith_rtpmap entry
  have hpt : entry.pt ∈ scan.offeredPayloads := by
    rw [hscan.offered]
    exact List.mem_map_of_mem hmem
  have hwire : ({ wireFormat entry.format with frameMs := scan.mediaPtime } : AudioFormat) =
      wireFormat entry.format := by
    rw [hscan.ptime, ← hptime]
    rfl
  simp only [chooseLine, hmedia, haddress, hmap, hs, Bool.false_eq_true, if_false, false_and,
    and_self, if_true, chooseRtpmap, parseRtpmapFormat_rtpmap hentry, hpt, hwire] at h
  split at h
  · cases h
  · exact ⟨{ s with inAudio := true, seenMapping := _ }, rfl, rfl, hs.symm, h⟩

/-- A list without repetitions has none to erase. -/
theorem eraseDups_eq_self {xs : List Nat} (h : xs.Nodup) : xs.eraseDups = xs := by
  induction xs with
  | nil => rfl
  | cons x xs ih =>
    rw [List.nodup_cons] at h
    have hfilter : xs.filter (fun y => !y == x) = xs := by
      rw [List.filter_eq_self]
      intro y hy
      simpa using fun heq : y = x => h.1 (heq ▸ hy)
    rw [List.eraseDups_cons, hfilter, ih h.2]

/-- The ranks are in the order of the entries. -/
theorem Scanned.rank_le {directional : Bool} {done rest : List AudioEntry} {ptime : Nat}
    (hscan : Scanned directional (done ++ entry :: rest) ptime scan)
    (hnodup : ((done ++ entry :: rest).map (·.pt)).Nodup) :
    ∀ old ∈ done, scan.payloadRank old.pt ≤ scan.payloadRank entry.pt := by
  intro old hold
  have hmap : (done ++ entry :: rest).map (·.pt) =
      done.map (·.pt) ++ entry.pt :: rest.map (·.pt) := by
    rw [List.map_append, List.map_cons]
  have hnew : entry.pt ∉ done.map (·.pt) := by
    rw [hmap, List.nodup_append] at hnodup
    exact fun hmem => hnodup.2.2 _ hmem _ List.mem_cons_self rfl
  have hmem : old.pt ∈ done.map (·.pt) := List.mem_map_of_mem hold
  rw [AudioScan.payloadRank, AudioScan.payloadRank, hscan.ranked, eraseDups_eq_self hnodup, hmap,
    if_pos (List.mem_append_left _ hmem), if_pos (List.mem_append_right _ List.mem_cons_self),
    List.idxOf_append, List.idxOf_append, if_pos hmem, if_neg hnew, List.idxOf_cons_self]
  have := List.idxOf_lt_length_of_mem hmem
  omega

/-- The entries of a section, one after the other. -/
theorem Chosen.run (ha : PcmTerms a) {directional : Bool} {done rest : List AudioEntry}
    {ptime maxPayload : Nat} (hscan : Scanned directional (done ++ rest) ptime scan)
    (hnodup : ((done ++ rest).map (·.pt)).Nodup)
    (hrest : ∀ entry ∈ rest, entry.Writable maxPayload ∧ entry.format.frameMs = ptime)
    (hs : s.inAudio = true) (h : Chosen a scan done s) {k : Nat}
    (hrun : ((rest.map AudioEntry.rtpmap).zipIdx k).foldlM (chooseLine a scan) s = some s') :
    Chosen a scan (done ++ rest) s' ∧ s'.inAudio = true := by
  induction rest generalizing done s k with
  | nil =>
    cases hrun
    rw [List.append_nil]
    exact ⟨h, hs⟩
  | cons entry rest ih =>
    rw [List.forall_mem_cons] at hrest
    rw [List.map_cons, List.zipIdx_cons, List.foldlM_cons, Option.bind_eq_bind,
      Option.bind_eq_some_iff] at hrun
    obtain ⟨next, hnext, hrun⟩ := hrun
    obtain ⟨t, hreceived, htx, hin, hchoose⟩ := chooseLine_rtpmap hscan hs
      (List.mem_append_right _ List.mem_cons_self) hrest.1.1 hrest.1.2 hnext
    obtain ⟨hchosen, hin'⟩ := (h.congr hreceived htx).choosePayload ha hscan.both hrest.1.1.pcm
      (hscan.rank_le hnodup) hchoose
    have happend : done ++ entry :: rest = (done ++ [entry]) ++ rest := by
      rw [List.append_assoc, List.singleton_append]
    rw [happend] at hscan hnodup ⊢
    exact ih hscan hnodup hrest.2 (hin'.trans (hin.trans hs)) hchosen hrun

end Choose

/-- What the second loop selects from a text of this program. -/
theorem chosen_audioText {e : SdpEndpoint} {c : SdpContext} {localIp : Text} {lines : AudioLines}
    {a : AudioTerms} {scan : AudioScan} {s : AudioChoice} {directional : Bool}
    {entries : List AudioEntry} {ptime maxPayload : Nat} {tail : List Text} {ip : UInt32}
    (ha : PcmTerms a) (hip : Free localIp) (hnames : lines.Names directional entries)
    (hentries : ∀ entry ∈ entries, entry.Writable maxPayload ∧ entry.format.frameMs = ptime)
    (hnodup : (entries.map (·.pt)).Nodup)
    (htail : ∀ line ∈ tail.head?, startsWith line "m=" = true)
    (hscan : Scanned directional entries ptime scan)
    (h : chooseAudio a scan (audioText e c localIp lines ptime tail) ip = some s) :
    Chosen a scan entries s := by
  have hlen : (sessionLines c localIp).length = 5 := rfl
  have hmedia : startsWith (mediaHead "audio" e.rtpPort.toNat (payloadList (entries.map (·.pt))))
      "m=" = true := by
    rw [mediaHead_audio, startsWith, List.isPrefixOf_iff_prefix]
    exact ⟨_, rfl⟩
  rw [chooseAudio, audioText_eq hnames, List.zipIdx_append, List.foldlM_append,
    Option.bind_eq_bind, Option.bind_eq_some_iff] at h
  obtain ⟨s₁, hsession, h⟩ := h
  -- the session part
  obtain ⟨hreceived₁, htx₁, -⟩ := foldlM_other (fun line hline =>
    ⟨(plain_sessionLines c hip line hline).not_media, .inl rfl⟩) hsession
  rw [hlen, Nat.zero_add, List.zipIdx_cons, List.foldlM_cons, Option.bind_eq_bind,
    Option.bind_eq_some_iff] at h
  obtain ⟨s₂, hhead, h⟩ := h
  have hin : (scan.selectedLine == some 5) = true := by rw [hscan.selected]; rfl
  simp only [chooseLine, hmedia, if_true, hin] at hhead
  cases hhead
  rw [List.zipIdx_append, List.foldlM_append, Option.bind_eq_bind, Option.bind_eq_some_iff] at h
  obtain ⟨s₃, hmaps, h⟩ := h
  have hstart : Chosen a scan [] { s₁ with seenMedia := true, inAudio := true } :=
    (chosen_nil a scan ip).congr hreceived₁ htx₁
  obtain ⟨hchosen, hin₃⟩ := hstart.run ha (by rwa [List.nil_append]) (by rwa [List.nil_append])
    hentries rfl hmaps
  rw [List.nil_append] at hchosen
  -- the lines behind the formats
  rw [← List.append_assoc, List.zipIdx_append, List.foldlM_append, Option.bind_eq_bind,
    Option.bind_eq_some_iff] at h
  obtain ⟨s₄, hlast, h⟩ := h
  have hrest : ∀ line ∈ lines.flows ++ ["a=ptime:".toList ++ decimal ptime,
      "a=maxptime:".toList ++ decimal ptime, "a=sendrecv".toList],
      startsWith line "m=" = false ∧
        (s₃.inAudio = false ∨ startsWith line "a=rtpmap:" = false) := by
    intro line hline
    rcases List.mem_append.mp hline with hline | hline
    · rw [hnames.flows] at hline
      split at hline
      · obtain ⟨entry, -, rfl⟩ := List.mem_map.mp hline
        exact ⟨(startsWith_flowText entry).1, .inr (startsWith_flowText entry).2.2.2.2⟩
      · exact absurd hline List.not_mem_nil
    · simp only [List.mem_cons, List.not_mem_nil, or_false] at hline
      rcases hline with rfl | rfl | rfl
      · exact ⟨(startsWith_ptime ptime).1, .inr (startsWith_ptime ptime).2.2.2⟩
      · exact ⟨(startsWith_maxptime ptime).1, .inr (startsWith_maxptime ptime).2.2.2.2.1⟩
      · exact ⟨by decide, .inr (by decide)⟩
  obtain ⟨hreceived₄, htx₄, -⟩ := foldlM_other hrest hlast
  have hchosen₄ := hchosen.congr hreceived₄ htx₄
  cases tail with
  | nil =>
    cases h
    exact hchosen₄
  | cons line tail =>
    rw [List.zipIdx_cons, List.foldlM_cons, Option.bind_eq_bind, Option.bind_eq_some_iff] at h
    obtain ⟨s₅, hnext, h⟩ := h
    generalize hk : 5 + 1 + (entries.map AudioEntry.rtpmap).length + _ = k at hnext h
    have hout : (scan.selectedLine == some k) = false := by
      rw [hscan.selected]
      simpa using by omega
    simp only [chooseLine, htail line rfl, if_true, hout] at hnext
    cases hnext
    obtain ⟨hreceived₅, htx₅⟩ := foldlM_behind hscan.selected (by omega) rfl h
    exact hchosen₄.congr hreceived₅ htx₅

end Sdp

end EsphomeVoip
