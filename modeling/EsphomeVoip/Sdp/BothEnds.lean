import EsphomeVoip.Sdp.AnswerEntries

/-! # Both ends of an offer and its answer

The answering end settles on formats from the entries of the offer, and the offering end on formats
from the entries of the answer.  What one end transmits is then what the other end has accepted,
with the same payload type and the same format. -/

namespace EsphomeVoip

namespace Sdp

/-- The receive formats of an endpoint are different on the wire. -/
def WireDistinct (formats : AudioFormatList) : Prop :=
  ∀ f ∈ formats, ∀ g ∈ formats, wireFormat f = wireFormat g → f = g

instance (formats : AudioFormatList) : Decidable (WireDistinct formats) :=
  List.decidableBAll _ formats

/-- What the offering end remembers of its offer when it reads the answer. -/
structure Remembers (a : AudioTerms) (c : SdpContext) (o : Offered) : Prop where
  answer : a.isAnswer = true
  tx : a.c.offerTxFormats = c.offerTxFormats
  rx : a.c.offerRxFormats = c.offerRxFormats
  offeredTx : a.c.negotiation.localOfferedTxFormats = o.txFormats
  offeredRx : a.c.negotiation.localOfferedRxPayloads = o.rxPayloads

/-- An offer that `b` has accepted, and its answer that `a` has accepted. -/
structure Exchange where
  /-- The dialog of the offering end when it makes the offer, and what it offers. -/
  c : SdpContext
  o : Offered
  entries : List AudioEntry
  /-- How the offering end reads the answer, and how the answering end reads the offer. -/
  a : AudioTerms
  b : AudioTerms
  scanA : AudioScan
  scanB : AudioScan
  gA : AudioAgreement
  gB : AudioAgreement
  sentA : AudioEntry
  sentB : AudioEntry
  bestA : AudioFormat × Nat
  bestB : AudioFormat × Nat
  /-- The negotiation of the answering end before the offer. -/
  n : Negotiation
  ptimeA : Nat
  ptimeB : Nat
  maxA : Nat
  pcmA : PcmTerms a
  pcmB : PcmTerms b
  offered : OfferedEntries a.e c entries o
  nodup : (entries.map (·.pt)).Nodup
  scannedB : Scanned c.peerDirectionalAudioV1 entries ptimeB scanB
  agreedB : Agreed b scanB entries gB sentB bestB
  isOffer : b.isAnswer = false
  directionalB : b.directional = c.peerDirectionalAudioV1
  remembers : Remembers a c o
  writable : ∀ entry ∈ answerEntries (gB.apply n), entry.Writable maxA
  scannedA : Scanned b.directional (answerEntries (gB.apply n)) ptimeA scanA
  agreedA : Agreed a scanA (answerEntries (gB.apply n)) gA sentA bestA
  directionalA : a.directional = b.directional

namespace Exchange

variable {x : Exchange}

/-! ## The answer -/

/-- The entries of the answer. -/
def answer (x : Exchange) : List AudioEntry := answerEntries (x.gB.apply x.n)

/-- An entry of the answer is accepted, or it is only sent. -/
theorem answer_cases {entry : AudioEntry} (h : entry ∈ x.answer) :
    (entry.flow ≠ "send" → (entry.pt, entry.format) ∈ x.gB.accepted) ∧
      (entry.flow ≠ "recv" → entry.pt = x.sentB.pt ∧ entry.format = wireFormat x.sentB.format) :=
  (x.agreedB.answerEntries x.isOffer x.nodup entry h).2

theorem flow_offer {entry : AudioEntry} (h : entry ∈ x.entries) :
    entryFlow x.b x.scanB entry =
      if x.c.peerDirectionalAudioV1 then flowOf entry.flow else Flow.both := by
  rw [entryFlow_eq x.scannedB (fun h => x.directionalB ▸ h) h (x.offered.entry entry h).toWritable,
    x.directionalB]

theorem flow_answer {entry : AudioEntry} (h : entry ∈ x.answer) :
    entryFlow x.a x.scanA entry =
      if x.c.peerDirectionalAudioV1 then flowOf entry.flow else Flow.both := by
  rw [entryFlow_eq x.scannedA (fun h => x.directionalA ▸ h) h (x.writable entry h),
    x.directionalA, x.directionalB]

/-- The formats of the answer are as they are on the wire. -/
theorem wireFormat_answer {entry : AudioEntry} (h : entry ∈ x.answer) :
    wireFormat entry.format = entry.format := by
  obtain ⟨haccepted, hsent⟩ := answer_cases h
  by_cases hflow : entry.flow = "send"
  · rw [(hsent (by rw [hflow]; simp)).2, wireFormat_wireFormat]
  · obtain ⟨old, -, -, -, hformat⟩ := x.agreedB.entry_of_accepted x.isOffer (haccepted hflow)
    rw [hformat, wireFormat_wireFormat]

/-- Without the extension the answering end accepts what it transmits. -/
theorem sent_accepted (hplain : x.b.directional = false) :
    (x.sentB.pt, wireFormat x.sentB.format) ∈ x.gB.accepted := by
  have hheard : Heard x.b x.scanB x.entries x.sentB.pt (wireFormat x.sentB.format) :=
    ⟨x.sentB, x.agreedB.sent_mem, receives_of_transmits hplain (List.find?_some x.agreedB.first),
      (receivePt_entryMatch x.isOffer).symm, rfl⟩
  obtain ⟨hfamily, hrate⟩ := x.agreedB.settled hplain _ hheard
  rw [x.agreedB.accepted]
  exact ⟨hheard, usableRx_of_sameFamily x.pcmB.speaker hplain hfamily hrate⟩

/-- Without the extension the formats of the answer are of one family. -/
theorem sameFamily_answer (hplain : x.b.directional = false) {entry : AudioEntry}
    (h : entry ∈ x.answer) : SameFamily entry.format (wireFormat x.sentB.format) := by
  obtain ⟨hfamily, -⟩ := x.agreedB.settled hplain _
    ((x.agreedB.accepted _ _).mp (sent_accepted hplain)).1
  obtain ⟨haccepted, hsent⟩ := answer_cases h
  by_cases hflow : entry.flow = "send"
  · rw [(hsent (by rw [hflow]; simp)).2]
    exact .refl _
  · have husable := ((x.agreedB.accepted _ _).mp (haccepted hflow)).2
    exact (sameFamily_of_usableRx x.pcmB.opus husable).trans hfamily.symm

/-! ## From the offering end to the answering end -/

/-- What the offering end transmits has been accepted by the answering end. -/
theorem heard_by_answerer (x : Exchange) :
    (x.sentA.pt, wireFormat x.sentA.format) ∈ x.gB.accepted := by
  have hmem : x.sentA ∈ x.answer := x.agreedA.sent_mem
  rw [wireFormat_answer hmem]
  obtain ⟨haccepted, hsent⟩ := answer_cases hmem
  by_cases hflow : x.sentA.flow = "send"
  · cases hplain : x.b.directional with
    | false =>
      obtain ⟨hpt, hformat⟩ := hsent (by rw [hflow]; simp)
      rw [hpt, hformat]
      exact sent_accepted hplain
    | true =>
      -- what is only sent is not transmitted back
      exfalso
      have htransmits := List.find?_some x.agreedA.first
      rw [transmits, Bool.and_eq_true, Bool.and_eq_true] at htransmits
      have hmatch := (localTx_entryMatch x.scanA x.pcmA (x.writable _ hmem).pcm).1.mp
        htransmits.1.1
      have hrecv := hmatch.1
      rw [flow_answer hmem, ← x.directionalB, hplain, if_pos rfl, hflow] at hrecv
      exact absurd hrecv (by decide)
  · exact haccepted hflow

/-! ## From the answering end to the offering end -/

/-- What the answering end transmits is a receive format of the offering end. -/
theorem format_of_sent (x : Exchange) : x.sentB.format ∈ x.c.offerRxFormats := by
  have hmem := x.agreedB.sent_mem
  have hentry := x.offered.entry x.sentB hmem
  cases hplain : x.c.peerDirectionalAudioV1 with
  | false => exact (hentry.plain hplain).1
  | true =>
    have htransmits := List.find?_some x.agreedB.first
    rw [transmits, Bool.and_eq_true, Bool.and_eq_true] at htransmits
    have hmatch := (localTx_entryMatch x.scanB x.pcmB hentry.pcm).1.mp htransmits.1.1
    have hrecv := hmatch.1
    rw [flow_offer hmem, hplain, if_pos rfl] at hrecv
    refine Classical.byContradiction fun hnot => ?_
    rw [hentry.receives.mpr hnot] at hrecv
    exact absurd hrecv (by decide)

/-- What the offering end hears from the answer is a receive format of it. -/
theorem local_of_receives {entry : AudioEntry} (h : entry ∈ x.answer)
    (hreceives : receives x.a x.scanA entry = true) :
    (entryFlow x.a x.scanA entry).send = true ∧ entry.format ∈ x.c.offerRxFormats := by
  rw [receives, Bool.and_eq_true] at hreceives
  have hmatch := (localRx_entryMatch x.scanA x.pcmA (x.writable entry h).pcm).1.mp hreceives.1
  rw [ReceiveMatch, wireFormat_answer h, x.remembers.rx] at hmatch
  exact ⟨hmatch.1, hmatch.2.1⟩

/-- With the extension the offering end hears only what the answering end transmits. -/
theorem sent_of_receives (hdirectional : x.b.directional = true) {entry : AudioEntry}
    (h : entry ∈ x.answer) (hreceives : receives x.a x.scanA entry = true) :
    entry.pt = x.sentB.pt ∧ entry.format = wireFormat x.sentB.format := by
  have hsend := (local_of_receives h hreceives).1
  rw [flow_answer h, ← x.directionalB, hdirectional, if_pos rfl] at hsend
  refine (answer_cases h).2 fun hflow => ?_
  rw [hflow] at hsend
  exact absurd hsend (by decide)

/-- What the answering end transmits is the same format on the wire. -/
theorem wireFormat_sent (hdistinct : WireDistinct x.c.offerRxFormats) :
    wireFormat x.sentB.format = x.sentB.format := by
  have hformat := x.format_of_sent
  cases hplain : x.b.directional with
  | false =>
    have hmem : x.sentA ∈ x.answer := x.agreedA.sent_mem
    have hlocal := (local_of_receives hmem (receives_of_transmits
      (x.directionalA.trans hplain) (List.find?_some x.agreedA.first))).2
    by_cases hs16 : (wireFormat x.sentB.format).pcmFormat = .s16le
    · -- nothing is lost of 16-bit samples
      generalize x.sentB.format = f at hs16
      obtain ⟨_, pcmFormat, _, _, _⟩ := f
      cases pcmFormat <;> first | rfl | cases hs16
    · rw [(sameFamily_answer hplain hmem).eq_of_not_s16le hs16] at hlocal
      exact (hdistinct _ hformat _ hlocal (wireFormat_wireFormat _).symm).symm
  | true =>
    obtain ⟨entry, hentry, hreceives, -, -⟩ := x.agreedA.heard
    have hlocal := (local_of_receives hentry hreceives).2
    rw [(sent_of_receives hplain hentry hreceives).2] at hlocal
    exact (hdistinct _ hformat _ hlocal (wireFormat_wireFormat _).symm).symm

/-- An entry with the format that is transmitted could be transmitted as well. -/
theorem transmits_of_format {entry : AudioEntry} (h : entry ∈ x.entries)
    (hlocal : entry.format ∈ x.c.offerRxFormats) (hformat : entry.format = x.sentB.format) :
    transmits x.b x.scanB entry = true := by
  have hsent := x.agreedB.sent_mem
  have htransmits := List.find?_some x.agreedB.first
  cases hplain : x.b.directional with
  | false =>
    -- the flow is that of the section, so both entries have one match
    have hflow : entryFlow x.b x.scanB entry = entryFlow x.b x.scanB x.sentB := by
      rw [flow_offer h, flow_offer hsent, ← x.directionalB, hplain]
      rfl
    have hmatch : (entryMatch x.b x.scanB entry).localTx =
          (entryMatch x.b x.scanB x.sentB).localTx ∧
        (entryMatch x.b x.scanB entry).localRx = (entryMatch x.b x.scanB x.sentB).localRx := by
      simp only [entryMatch, matchPayload, hflow, hformat, x.isOffer, Bool.false_eq_true, if_false,
        and_self]
    rw [transmits, eligible] at htransmits ⊢
    rw [hmatch.1, hmatch.2]
    exact htransmits
  | true =>
    -- a receive format is offered for reception
    have hpcm := (x.offered.entry _ hsent).pcm
    rw [transmits, Bool.and_eq_true, Bool.and_eq_true] at htransmits
    obtain ⟨-, hmem, hencoding, hanswer⟩ := (localTx_entryMatch x.scanB x.pcmB hpcm).1.mp
      htransmits.1.1
    have hentry := x.offered.entry entry h
    have hsend : SendMatch x.b x.scanB entry := by
      rw [SendMatch, hformat, flow_offer h, ← x.directionalB, hplain, if_pos rfl]
      refine ⟨?_, hmem, hencoding, hanswer⟩
      rcases hentry.flow with hflow | hflow | hflow
      · rw [hflow]
        decide
      · rw [hflow]
        decide
      · exact absurd hlocal (hentry.receives.mp hflow)
    rw [transmits, eligible, hplain,
      (localTx_entryMatch x.scanB x.pcmB hentry.pcm).1.mpr hsend]
    rfl

/-- The first offered receive format that is transmitted has the payload type of what is. -/
theorem find_sent {q : AudioEntry → Bool}
    (hq : ∀ entry ∈ x.entries, q entry = true ↔
      entry.format ∈ x.c.offerRxFormats ∧ entry.format = x.sentB.format) :
    x.entries.find? q = some x.sentB := by
  have hsent := x.agreedB.sent_mem
  have hqsent : q x.sentB = true := (hq _ hsent).mpr ⟨x.format_of_sent, rfl⟩
  obtain ⟨entry, hfind⟩ : ∃ entry, x.entries.find? q = some entry :=
    Option.isSome_iff_exists.mp (List.find?_isSome.mpr ⟨x.sentB, hsent, hqsent⟩)
  have hmem := List.mem_of_find?_eq_some hfind
  obtain ⟨hlocal, hformat⟩ := (hq entry hmem).mp (List.find?_some hfind)
  have hsame := find?_unique x.agreedB.first hfind hqsent (transmits_of_format hmem hlocal hformat)
  rw [hfind, hsame]

/-- The offering end has offered it with the payload type that the answering end transmits. -/
theorem find_offered :
    (x.a.c.negotiation.localOfferedRxPayloads.find? fun entry =>
      audioFormatsShareWireEncoding entry.2 x.sentB.format) =
        some (x.sentB.pt, x.sentB.format) := by
  have hsentPcm := (x.offered.entry _ x.agreedB.sent_mem).pcm
  rw [x.remembers.offeredRx, x.offered.rx, List.find?_map, List.find?_filter, find_sent]
  · rfl
  · intro entry hentry
    simp only [Function.comp_apply, decide_eq_true_eq,
      shareWire_iff (x.offered.entry entry hentry).pcm hsentPcm]

/-- The offering end hears what the answering end transmits. -/
theorem heard_sent (hdistinct : WireDistinct x.c.offerRxFormats) :
    Heard x.a x.scanA x.answer x.sentB.pt x.sentB.format := by
  have hwire := wireFormat_sent hdistinct
  -- The answering end transmits one of the entries that it answers with.
  obtain ⟨entry, hmem, hpt, hformat, hflow⟩ :=
    (x.agreedB.exists_sent (n := x.n)) x.isOffer x.nodup
  have hmem : entry ∈ x.answer := hmem
  have hsent := x.offered.entry _ x.agreedB.sent_mem
  have hwritable := x.writable entry hmem
  rw [hwire] at hformat
  have hsame : wireFormat entry.format = x.sentB.format := by rw [hformat, hwire]
  -- The offering end matches that entry with a format that it has offered,
  have hreceive : ReceiveMatch x.a x.scanA entry := by
    rw [ReceiveMatch, hsame, flow_answer hmem, x.remembers.rx]
    refine ⟨?_, x.format_of_sent, hsent.encoding, fun _ => ?_⟩
    · split
      · rcases hwritable.flow with h | h | h
        · rw [h]
          decide
        · exact absurd h hflow
        · rw [h]
          decide
      · rfl
    · exact ⟨_, List.mem_of_find?_eq_some find_offered, rfl⟩
  have hlocal := (localRx_entryMatch x.scanA x.pcmA hwritable.pcm).1.mpr hreceive
  -- and may select it.
  have heligible : eligible x.a (entryMatch x.a x.scanA entry) = true := by
    rw [eligible]
    cases hplain : x.c.peerDirectionalAudioV1 with
    | true => rw [x.directionalA.trans (x.directionalB.trans hplain), Bool.true_or, Bool.true_or]
    | false =>
      rcases (hsent.plain hplain).2 with htx | hs16
      · -- the format is offered in both directions
        have hsend : SendMatch x.a x.scanA entry := by
          rw [SendMatch, hsame, flow_answer hmem, hplain, x.remembers.tx, x.remembers.offeredTx]
          exact ⟨rfl, htx, hsent.encoding,
            fun _ => x.offered.sent hplain _ x.agreedB.sent_mem htx⟩
        rw [(localTx_entryMatch x.scanA x.pcmA hwritable.pcm).1.mpr hsend, hlocal]
        simp
      · -- or its samples can be converted
        obtain ⟨format, hsome⟩ := Option.isSome_iff_exists.mp hlocal
        have hformat := (localRx_entryMatch x.scanA x.pcmA hwritable.pcm).2 format hsome
        rw [hsame] at hformat
        rw [hsome, hformat]
        simp [alternatePcm, x.pcmA.speaker, hsent.pcm, hs16]
  refine ⟨entry, hmem, ?_, ?_, hsame.symm⟩
  · rw [receives, hlocal, heligible]
    rfl
  · simp only [entryMatch, matchPayload, x.remembers.answer, if_true, hsame, find_offered,
      Option.map_some, Option.getD_some]

/-- What the answering end transmits has been accepted by the offering end. -/
theorem heard_by_offerer (hdistinct : WireDistinct x.c.offerRxFormats) :
    (x.sentB.pt, wireFormat x.sentB.format) ∈ x.gA.accepted := by
  have hheard := heard_sent hdistinct
  have hwire := wireFormat_sent hdistinct
  rw [hwire, x.agreedA.accepted]
  refine ⟨hheard, ?_⟩
  cases hplain : x.b.directional with
  | false =>
    have hfamily : ∀ pt format, Heard x.a x.scanA x.answer pt format →
        SameFamily format x.sentB.format := by
      rintro pt format ⟨entry, hentry, -, -, rfl⟩
      rw [wireFormat_answer hentry]
      have := sameFamily_answer hplain hentry
      rwa [hwire] at this
    have hdirectional := x.directionalA.trans hplain
    have hsentA : Heard x.a x.scanA x.answer (entryMatch x.a x.scanA x.sentA).receivePt
        (wireFormat x.sentA.format) :=
      ⟨x.sentA, x.agreedA.sent_mem, receives_of_transmits hdirectional
        (List.find?_some x.agreedA.first), rfl, rfl⟩
    have hhighest := x.agreedA.highest hdirectional fun pt format h =>
      (hfamily _ _ hsentA).trans (hfamily pt format h).symm
    exact usableRx_of_sameFamily x.pcmA.speaker hdirectional (hfamily _ _ x.agreedA.heard).symm
      (hhighest _ _ hheard)
  | true =>
    -- nothing else is heard
    obtain ⟨entry, hentry, hreceives, -, hbest⟩ := x.agreedA.heard
    rw [hbest, wireFormat_answer hentry, (sent_of_receives hplain hentry hreceives).2, hwire]
    simp [usableRx]

end Exchange

end Sdp

end EsphomeVoip
