import EsphomeVoip.Sdp.BothEnds

/-! # Offer and answer between two endpoints (`sip_sdp.cpp`)

One endpoint builds an offer, another one reads it and builds the answer, and the first one reads
the answer.  Where both readings succeed, both ends agree on audio. -/

namespace EsphomeVoip

namespace Sdp

/-- An endpoint that takes PCM in both directions, and a dialog of it that is not a transfer. -/
structure Duplex (e : SdpEndpoint) (c : SdpContext) : Prop where
  speaker : e.speaker = true
  opus : e.opus = false
  port : e.rtpPort ≠ 0
  profiles : FreeProfiles e
  tx : PcmFormats c.offerTxFormats
  rx : PcmFormats c.offerRxFormats
  sends : c.offerTxFormats ≠ []
  receives : c.offerRxFormats ≠ []
  refer : c.referContextActive = false

theorem Duplex.pcmTerms {e : SdpEndpoint} {c : SdpContext} (h : Duplex e c) {sdp : Text}
    {isAnswer : Bool}
    (htx : isAnswer = true → ∀ format ∈ c.negotiation.localOfferedTxFormats, format.codec = .pcm)
    (hrx : isAnswer = true →
      ∀ entry ∈ c.negotiation.localOfferedRxPayloads, entry.2.codec = .pcm) :
    PcmTerms (audioTerms e c sdp isAnswer) :=
  ⟨h.speaker, h.opus, h.tx, h.rx, h.sends, h.receives, htx, hrx⟩

/-- No text is not accepted. -/
theorem sdp_ne_nil {e : SdpEndpoint} {c : SdpContext} {sdp : Text} {ip : UInt32}
    {isAnswer : Bool} {n : Negotiation} {v : VideoNegotiation}
    (h : learn e c sdp ip isAnswer = (true, n, v)) : sdp ≠ [] := by
  rintro rfl
  obtain ⟨-, ⟨g, hg, -⟩, -⟩ := learn_iff.mp h
  have := audioIndex_of_agreeAudio hg
  cases this

section Exchange

variable {eA eB : SdpEndpoint} {cA cB : SdpContext} {remoteA remoteB defaultA defaultB : UInt32}
  {nA nB : Negotiation} {vA vB : VideoNegotiation}

/-- The answer to an accepted offer with the audio line in front. -/
theorem answerWritten_of_learn {sdp head : Text} {rest : List Text}
    (hmedia : mediaLines sdp = head :: rest)
    (hgrammatical : ∀ line ∈ mediaLines sdp, grammatical line = true)
    (hread : (parseAudioMediaLine head).isSome = true) (hB : Duplex eB cB)
    (hvalid : nB.selectedTx.isValid = true ∧ nB.selectedRx.isValid = true)
    (h : learn eB cB sdp defaultB false = (true, nB, vB)) (remoteIp : UInt32) :
    ∃ lines tail, answerLines eB { cB with negotiation := nB, video := vB } = some lines ∧
      AnswerWritten eB { cB with negotiation := nB, video := vB } remoteIp lines tail := by
  obtain ⟨lines, haccepted⟩ :=
    accepted_of_learn (fun format h => (hB.tx format h).2) hgrammatical h remoteIp
  obtain ⟨tail, hwritten⟩ :=
    answerWritten haccepted hmedia hread hB.refer hvalid.1 hvalid.2
  exact ⟨lines, tail, haccepted.answered, hwritten⟩

/-- An offer that has been built, and what the answering end has made of it. -/
structure OfferRead (eA : SdpEndpoint) (cA : SdpContext) (remoteB : UInt32) (eB : SdpEndpoint)
    (cB : SdpContext) where
  entries : List AudioEntry
  scan : AudioScan
  g : AudioAgreement
  sent : AudioEntry
  best : AudioFormat × Nat
  written : OfferWritten eA cA remoteB
  offered : OfferedEntries eA cA entries (offered eA cA)
  ne : entries ≠ []
  directional : (audioTerms eB cB (buildSdpOffer eA cA remoteB).1 false).directional =
    cA.peerDirectionalAudioV1
  scanned : Scanned cA.peerDirectionalAudioV1 entries (offerPtime eA cA) scan
  agreed : Agreed (audioTerms eB cB (buildSdpOffer eA cA remoteB).1 false) scan entries g sent best

/-- The negotiation of the answering end. -/
def OfferRead.negotiation (r : OfferRead eA cA remoteB eB cB) : Negotiation :=
  r.g.apply (openSdp eB cB (buildSdpOffer eA cA remoteB).1 false).negotiation

theorem exists_offerRead (hA : Duplex eA cA) (hB : Duplex eB cB)
    (hroom : cA.offerRxFormats.length ≤ voipStackMaxAudioFormats)
    (hoffer : learn eB cB (buildSdpOffer eA cA remoteB).1 defaultB false = (true, nB, vB)) :
    ∃ r : OfferRead eA cA remoteB eB cB, nB = r.negotiation := by
  have hwritten := offerWritten hA.profiles hA.refer hA.sends hA.receives (sdp_ne_nil hoffer)
  obtain ⟨entries, hoffered⟩ :=
    exists_offeredEntries hA.refer hA.tx hA.rx hA.sends hA.receives hroom
  have hne : entries ≠ [] := by
    rintro rfl
    exact hwritten.payloads hoffered.names.payloads
  have hflow := hasFlow_offer hA.profiles hwritten hne hoffered.names
  obtain ⟨-, ⟨g, hg, hnB⟩, -⟩ := learn_iff.mp hoffer
  have hdirectional : (audioTerms eB cB (buildSdpOffer eA cA remoteB).1 false).directional =
      cA.peerDirectionalAudioV1 := by
    simp only [audioTerms, openSdp, hflow, Bool.not_false, Bool.true_or, Bool.and_true]
  rw [hwritten.lines] at hg
  have hpcm : PcmTerms (audioTerms eB cB (buildSdpOffer eA cA remoteB).1 false) :=
    hB.pcmTerms (fun h => by cases h) (fun h => by cases h)
  obtain ⟨scan, sent, best, hscan, hagreed⟩ := agreed hpcm (free_ipText _) hoffered.names
    (fun entry hentry =>
      ⟨(hoffered.entry entry hentry).toWritable, (hoffered.entry entry hentry).ptime⟩)
    hne (nodup_of_place hoffered.place) hA.port hwritten.ptime
    (head_videoPart_offer hA.profiles (free_ipText _)) hg
  exact ⟨⟨entries, scan, g, sent, best, hwritten, hoffered, hne, hdirectional, hscan, hagreed⟩, hnB⟩

namespace OfferRead

variable {r : OfferRead eA cA remoteB eB cB}

theorem writable (r : OfferRead eA cA remoteB eB cB) : ∀ entry ∈ r.entries,
    entry.Writable eA.udpMaxPayload ∧ entry.format.frameMs = offerPtime eA cA :=
  fun entry hentry =>
    ⟨(r.offered.entry entry hentry).toWritable, (r.offered.entry entry hentry).ptime⟩

theorem nodup (r : OfferRead eA cA remoteB eB cB) : (r.entries.map (·.pt)).Nodup :=
  nodup_of_place r.offered.place

theorem pcm_accepted (r : OfferRead eA cA remoteB eB cB) :
    ∀ entry ∈ r.g.accepted, entry.2.codec = .pcm := by
  rintro ⟨pt, format⟩ hmem
  obtain ⟨entry, hentry, -, -, rfl⟩ := r.agreed.entry_of_accepted rfl hmem
  exact (r.writable entry hentry).1.pcm

theorem selectedTx (r : OfferRead eA cA remoteB eB cB) :
    r.negotiation.selectedTx = wireFormat r.sent.format ∧
      r.negotiation.txPayloadType = r.sent.pt := by
  simp only [negotiation, AudioAgreement.apply, r.agreed.tx, Option.map_some, Option.getD_some,
    and_self]

theorem selectedRx (r : OfferRead eA cA remoteB eB cB) :
    r.negotiation.selectedRx = r.best.1 := by
  simp only [negotiation, AudioAgreement.apply, r.agreed.rx, Option.map_some, Option.getD_some]

theorem isValid_selected (r : OfferRead eA cA remoteB eB cB) :
    r.negotiation.selectedTx.isValid = true ∧ r.negotiation.selectedRx.isValid = true := by
  have hsent := (r.writable _ r.agreed.sent_mem).1
  rw [r.selectedTx.1, r.selectedRx]
  exact ⟨(isValid_wireFormat hsent.pcm hsent.valid).1, (r.agreed.bounds _ r.agreed.best_mem).2⟩

/-- The lines of the answer name its entries. -/
theorem names (r : OfferRead eA cA remoteB eB cB) {c : SdpContext} {lines : AudioLines}
    (hc : c.negotiation = r.negotiation) (h : answerLines eB c = some lines) :
    lines.Names cA.peerDirectionalAudioV1 (answerEntries r.negotiation) ∧
      Fitting eB (answerEntries r.negotiation) := by
  have hdirectional : r.negotiation.remoteDirectionalAudioV1 = cA.peerDirectionalAudioV1 :=
    r.directional
  obtain ⟨hsends, hreceives⟩ := r.isValid_selected
  have hpcm : r.negotiation.selectedTx.codec = .pcm := by
    rw [r.selectedTx.1]
    exact (r.writable _ r.agreed.sent_mem).1.pcm
  have hpcm' : r.negotiation.selectedRx.codec = .pcm := by
    rw [r.selectedRx]
    exact r.pcm_accepted _ r.agreed.best_mem
  rw [← hc] at hsends hreceives hpcm hpcm' hdirectional ⊢
  have haccepted : ∀ entry ∈ c.negotiation.rxPayloads, entry.2.codec = .pcm := by
    rw [hc]
    exact r.pcm_accepted
  have := names_answerLines hsends hreceives hpcm hpcm' haccepted h
  rwa [hdirectional] at this

/-- The audio line of the offer can be read. -/
theorem read_audio (r : OfferRead eA cA remoteB eB cB) (hport : eA.rtpPort ≠ 0) :
    (parseAudioMediaLine (mediaHead "audio" eA.rtpPort.toNat
      (payloadList (Sdp.offered eA cA).lines.payloads))).isSome = true := by
  have hzero : ¬eA.rtpPort.toNat = 0 := fun h => hport (UInt16.toNat_inj.mp h)
  have hpts : ∀ pt ∈ r.entries.map (·.pt), pt ≤ 127 := by
    rw [List.forall_mem_map]
    exact fun entry hentry => (r.writable entry hentry).1.pt
  have hne : r.entries.map (·.pt) ≠ [] := by
    rw [Ne, List.map_eq_nil_iff]
    exact r.ne
  rw [r.offered.names.payloads,
    parseAudioMediaLine_mediaHead (Nat.le_of_lt_succ eA.rtpPort.toNat_lt) hpts hne, if_neg hzero]
  rfl

/-- The answer, as it is written. -/
theorem exists_answer (r : OfferRead eA cA remoteB eB cB) (hA : Duplex eA cA) (hB : Duplex eB cB)
    (hoffer : learn eB cB (buildSdpOffer eA cA remoteB).1 defaultB false =
      (true, r.negotiation, vB)) :
    ∃ lines tail,
      AnswerWritten eB { cB with negotiation := r.negotiation, video := vB } remoteA lines tail ∧
      lines.Names cA.peerDirectionalAudioV1 (answerEntries r.negotiation) ∧
      Fitting eB (answerEntries r.negotiation) := by
  obtain ⟨rest, hmedia, hgrammatical⟩ := mediaLines_offer hA.profiles r.written
  obtain ⟨lines, tail, hlines, hwritten⟩ := answerWritten_of_learn hmedia hgrammatical
    (r.read_audio hA.port) hB r.isValid_selected hoffer remoteA
  exact ⟨lines, tail, hwritten, r.names rfl hlines⟩

end OfferRead

/-- The dialog of the offering end when the answer comes. -/
def awaitingAnswer (e : SdpEndpoint) (c : SdpContext) : SdpContext :=
  { c with negotiation := rememberOffer c (offered e c) }

theorem Duplex.awaitingAnswer {e : SdpEndpoint} {c : SdpContext} (h : Duplex e c) :
    Duplex e (awaitingAnswer e c) :=
  ⟨h.speaker, h.opus, h.port, h.profiles, h.tx, h.rx, h.sends, h.receives, h.refer⟩

/-- How the offering end reads the answer. -/
def OfferRead.terms (_r : OfferRead eA cA remoteB eB cB) (answer : Text) : AudioTerms :=
  audioTerms eA (awaitingAnswer eA cA) answer true

namespace OfferRead

variable {r : OfferRead eA cA remoteB eB cB}

theorem remembers (r : OfferRead eA cA remoteB eB cB) (answer : Text) :
    Remembers (r.terms answer) cA (Sdp.offered eA cA) :=
  ⟨rfl, rfl, rfl, rfl, rfl⟩

theorem pcmTerms (r : OfferRead eA cA remoteB eB cB) (hA : Duplex eA cA) (answer : Text) :
    PcmTerms (r.terms answer) := by
  apply hA.awaitingAnswer.pcmTerms
  · exact fun _ => r.offered.pcm
  · intro _ entry hentry
    have hmem : entry ∈ (Sdp.offered eA cA).rxPayloads := hentry
    rw [r.offered.rx] at hmem
    obtain ⟨named, hnamed, rfl⟩ := List.mem_map.mp hmem
    exact (r.writable named (List.mem_filter.mp hnamed).1).1.pcm

/-- The offering end finds the extension in the answer if it has offered it. -/
theorem directional_answer {c : SdpContext} {lines : AudioLines} {tail : List Text}
    (r : OfferRead eA cA remoteB eB cB) (h : AnswerWritten eB c remoteA lines tail)
    (hnames : lines.Names cA.peerDirectionalAudioV1 (answerEntries r.negotiation)) :
    (r.terms (buildSdpAnswer eB c remoteA)).directional = cA.peerDirectionalAudioV1 := by
  have hterms : (r.terms (buildSdpAnswer eB c remoteA)).directional =
      (hasFlow (buildSdpAnswer eB c remoteA) && (!true || cA.peerDirectionalAudioV1)) := rfl
  rw [hterms]
  cases hdirectional : cA.peerDirectionalAudioV1 with
  | false => simp
  | true =>
    rw [hdirectional] at hnames
    rw [hasFlow_answer h (by simp [answerEntries]) hnames]
    rfl

/-- What is agreed on over the answer. -/
theorem agreed_answer {c : SdpContext} {lines : AudioLines} {tail : List Text} {ip : UInt32}
    {g : AudioAgreement} (r : OfferRead eA cA remoteB eB cB) (hA : Duplex eA cA)
    (hport : eB.rtpPort ≠ 0) (h : AnswerWritten eB c remoteA lines tail)
    (hc : c.negotiation = r.negotiation)
    (hnames : lines.Names cA.peerDirectionalAudioV1 (answerEntries r.negotiation))
    (hentries : ∀ entry ∈ answerEntries r.negotiation,
      entry.Writable eB.udpMaxPayload ∧ entry.format.frameMs = r.best.1.frameMs)
    (hptime : r.best.1.frameMs ∈ [10, 16, 20, 32])
    (hg : agreeAudio (r.terms (buildSdpAnswer eB c remoteA))
      (sdpLines (buildSdpAnswer eB c remoteA)) ip = some g) :
    ∃ scan sent best,
      Scanned cA.peerDirectionalAudioV1 (answerEntries r.negotiation) r.best.1.frameMs scan ∧
      Agreed (r.terms (buildSdpAnswer eB c remoteA)) scan (answerEntries r.negotiation) g sent
        best := by
  have hframe : c.negotiation.selectedRx.frameMs = r.best.1.frameMs := by
    rw [hc, r.selectedRx]
  rw [h.written, hframe] at hg
  exact Sdp.agreed (r.pcmTerms hA _) (free_ipText _) hnames hentries (by simp [answerEntries])
    r.agreed.nodup_answerEntries hport hptime h.head hg

/-- The entries of the answer can be written. -/
theorem writable_answer (r : OfferRead eA cA remoteB eB cB)
    (hfit : Fitting eB (answerEntries r.negotiation)) :
    ∀ entry ∈ answerEntries r.negotiation,
      entry.Writable eB.udpMaxPayload ∧ entry.format.frameMs = r.best.1.frameMs :=
  r.agreed.writable_answerEntries rfl r.nodup r.writable hfit

theorem ptime_answer (r : OfferRead eA cA remoteB eB cB) :
    r.best.1.frameMs ∈ [10, 16, 20, 32] := by
  obtain ⟨entry, hentry, -, -, hformat⟩ := r.agreed.entry_of_accepted rfl r.agreed.best_mem
  have hframe : r.best.1.frameMs = offerPtime eA cA := by
    rw [hformat, ← (r.writable entry hentry).2]
    rfl
  rw [hframe]
  exact r.written.ptime

/-- An accepted answer completes the exchange. -/
theorem exists_exchange {nA : Negotiation} {vA : VideoNegotiation}
    (r : OfferRead eA cA remoteB eB cB) (hA : Duplex eA cA) (hB : Duplex eB cB)
    (hoffer : learn eB cB (buildSdpOffer eA cA remoteB).1 defaultB false =
      (true, r.negotiation, vB))
    (hanswer : learn eA (Sdp.awaitingAnswer eA cA)
      (buildSdpAnswer eB { cB with negotiation := r.negotiation, video := vB } remoteA) defaultA
      true = (true, nA, vA)) :
    ∃ x : Exchange, x.c = cA ∧ x.gB = r.g ∧ x.sentB = r.sent ∧
      nA.selectedTx = wireFormat x.sentA.format ∧ nA.txPayloadType = x.sentA.pt ∧
      nA.rxPayloads = x.gA.accepted := by
  -- The answer can be written, and it was accepted.
  obtain ⟨lines, tail, hwritten, hnames, hfit⟩ := r.exists_answer hA hB hoffer
  obtain ⟨-, ⟨g, hg, rfl⟩, -⟩ := learn_iff.mp hanswer
  have hentries := r.writable_answer hfit
  -- What the offering end reads in it is what was written.
  obtain ⟨scan, sent, best, hscanned, hagreed⟩ :=
    r.agreed_answer hA hB.port hwritten rfl hnames hentries r.ptime_answer hg
  have hdirectionalB := r.directional
  refine ⟨{
    c := cA
    o := Sdp.offered eA cA
    entries := r.entries
    a := r.terms _
    b := audioTerms eB cB (buildSdpOffer eA cA remoteB).1 false
    scanA := scan
    scanB := r.scan
    gA := g
    gB := r.g
    sentA := sent
    sentB := r.sent
    bestA := best
    bestB := r.best
    n := _
    ptimeA := _
    ptimeB := _
    maxA := _
    pcmA := r.pcmTerms hA _
    pcmB := hB.pcmTerms (fun h => by cases h) (fun h => by cases h)
    offered := r.offered
    nodup := r.nodup
    scannedB := r.scanned
    agreedB := r.agreed
    isOffer := rfl
    directionalB := r.directional
    remembers := r.remembers _
    writable := fun entry hentry => (hentries entry hentry).1
    scannedA := hdirectionalB ▸ hscanned
    agreedA := hagreed
    directionalA := (r.directional_answer hwritten hnames).trans hdirectionalB.symm },
    rfl, rfl, rfl, ?_, ?_, rfl⟩
  · simp only [AudioAgreement.apply, hagreed.tx, Option.map_some, Option.getD_some]
  · simp only [AudioAgreement.apply, hagreed.tx, Option.map_some, Option.getD_some]

end OfferRead

/-- Where an endpoint takes the offer of another one, and that one takes the answer, each end has
    accepted what the other one transmits, with its payload type and its format. -/
theorem both_ends_agree (hA : Duplex eA cA) (hB : Duplex eB cB)
    (hroom : cA.offerRxFormats.length ≤ voipStackMaxAudioFormats)
    (hdistinct : WireDistinct cA.offerRxFormats)
    (hoffer : learn eB cB (buildSdpOffer eA cA remoteB).1 defaultB false = (true, nB, vB))
    (hanswer : learn eA { cA with negotiation := (buildSdpOffer eA cA remoteB).2 }
      (buildSdpAnswer eB { cB with negotiation := nB, video := vB } remoteA) defaultA true =
        (true, nA, vA)) :
    (nA.txPayloadType, nA.selectedTx) ∈ nB.rxPayloads ∧
      (nB.txPayloadType, nB.selectedTx) ∈ nA.rxPayloads := by
  obtain ⟨r, rfl⟩ := exists_offerRead hA hB hroom hoffer
  rw [r.written.remembered] at hanswer
  obtain ⟨x, hc, hg, hsent, htx, hpt, hrx⟩ := r.exists_exchange hA hB hoffer hanswer
  have hrxB : r.negotiation.rxPayloads = x.gB.accepted := by
    rw [hg]
    rfl
  obtain ⟨htxB, hptB⟩ := r.selectedTx
  constructor
  · rw [htx, hpt, hrxB]
    exact x.heard_by_answerer
  · rw [htxB, hptB, hrx, ← hsent]
    exact x.heard_by_offerer (hc ▸ hdistinct)

end Exchange

namespace TwoRates

def hallIp : UInt32 := 0x0A000001

def doorIp : UInt32 := 0x0A000002

/-- The texts of the two addresses. -/
def parseIp (text : Text) : UInt32 :=
  if text = ipText hallIp then hallIp else if text = ipText doorIp then doorIp else 0

def endpoint (ip : UInt32) : SdpEndpoint := { localIp := fun _ => ip, parseIp := parseIp }

/-- An endpoint that sends one rate and plays another one. -/
def dialog (sendRate receiveRate : Nat) : SdpContext where
  negotiation := {}
  video := {}
  offerTxFormats := [{ sampleRate := sendRate, frameMs := 10 }]
  offerRxFormats := [{ sampleRate := receiveRate, frameMs := 10 }]
  peerDirectionalAudioV1 := true
  sdpSessionId := 1
  sdpSessionVersion := 1
  videoSendRequested := false
  retainedTx := none

/-- The offer of the hall, and what the door makes of it. -/
def offer : Text := (buildSdpOffer (endpoint hallIp) (dialog 16000 48000) doorIp).1

def atDoor : Bool × Negotiation × VideoNegotiation :=
  learn (endpoint doorIp) (dialog 48000 16000) offer hallIp false

/-- The answer of the door, and what the hall makes of it. -/
def answer : Text :=
  buildSdpAnswer (endpoint doorIp)
    { dialog 48000 16000 with negotiation := atDoor.2.1, video := atDoor.2.2 } hallIp

def atHall : Bool × Negotiation × VideoNegotiation :=
  learn (endpoint hallIp) { dialog 16000 48000 with
    negotiation := (buildSdpOffer (endpoint hallIp) (dialog 16000 48000) doorIp).2 } answer doorIp
    true

theorem duplex (ip : UInt32) {sendRate receiveRate : Nat}
    (hsend : PcmFormats (dialog sendRate receiveRate).offerTxFormats)
    (hreceive : PcmFormats (dialog sendRate receiveRate).offerRxFormats) :
    Duplex (endpoint ip) (dialog sendRate receiveRate) where
  speaker := rfl
  opus := rfl
  port := by
    change (40000 : UInt16) ≠ 0
    decide
  profiles :=
    { source := fun _ h => by cases h
      sink := fun _ h => by cases h }
  tx := hsend
  rx := hreceive
  sends := by simp [dialog]
  receives := by simp [dialog]
  refer := rfl

/-- The hall sends 16 kHz to the door, and the door sends 48 kHz to the hall. -/
theorem both_ends_agree_on_two_rates :
    (atDoor.1 = true ∧ atDoor.2.1.selectedTx.sampleRate = 48000) ∧
      (atHall.1 = true ∧ atHall.2.1.selectedTx.sampleRate = 16000) ∧
      (atHall.2.1.txPayloadType, atHall.2.1.selectedTx) ∈ atDoor.2.1.rxPayloads ∧
      (atDoor.2.1.txPayloadType, atDoor.2.1.selectedTx) ∈ atHall.2.1.rxPayloads := by
  have hdoor : atDoor.1 = true ∧ atDoor.2.1.selectedTx.sampleRate = 48000 := by decide +kernel
  have hhall : atHall.1 = true ∧ atHall.2.1.selectedTx.sampleRate = 16000 := by decide +kernel
  generalize hanswer : atHall = hall at hhall ⊢
  rw [atHall, answer] at hanswer
  generalize hoffer : atDoor = door at hdoor hanswer ⊢
  obtain ⟨ok, nB, vB⟩ := door
  obtain ⟨ok', nA, vA⟩ := hall
  obtain rfl : ok = true := hdoor.1
  obtain rfl : ok' = true := hhall.1
  exact ⟨hdoor, hhall, both_ends_agree (duplex hallIp (by decide) (by decide))
    (duplex doorIp (by decide) (by decide)) (by decide) (by decide) hoffer hanswer⟩

end TwoRates

end Sdp

end EsphomeVoip
