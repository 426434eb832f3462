import EsphomeVoip.Sdp.Selection

/-! # What two ends agree on (`learn_remote_rtp_from_sdp_`)

The selection is reduced to one receive format and to what can be played with it.  Without the
directional extension the receive format is the one with the highest rate of its family, so that
every format of the family can be converted to it. -/

namespace EsphomeVoip

namespace Sdp

/-! ## Conversion -/

/-- Formats that differ at most in their sample rate: PCM with 16 bits, or the same format. -/
def SameFamily (left right : AudioFormat) : Prop :=
  left = right ∨ left.codec = .pcm ∧ right.codec = .pcm ∧ left.pcmFormat = .s16le ∧
    right.pcmFormat = .s16le ∧ left.channels = right.channels ∧ left.frameMs = right.frameMs

namespace SameFamily

variable {f g h : AudioFormat}

theorem refl (f : AudioFormat) : SameFamily f f := .inl rfl

theorem symm (hfg : SameFamily f g) : SameFamily g f := by
  rcases hfg with rfl | ⟨hf, hg, hf', hg', hch, hms⟩
  · exact .inl rfl
  · exact .inr ⟨hg, hf, hg', hf', hch.symm, hms.symm⟩

theorem trans (hfg : SameFamily f g) (hgh : SameFamily g h) : SameFamily f h := by
  rcases hfg with rfl | ⟨hf, hg, hf', hg', hch, hms⟩
  · exact hgh
  · rcases hgh with rfl | ⟨-, hh, -, hh', hch', hms'⟩
    · exact .inr ⟨hf, hg, hf', hg', hch, hms⟩
    · exact .inr ⟨hf, hh, hf', hh', hch.trans hch', hms.trans hms'⟩

/-- A family of another sample format has one member. -/
theorem eq_of_not_s16le (hfg : SameFamily f g) (hg : g.pcmFormat ≠ .s16le) : f = g := by
  rcases hfg with rfl | ⟨-, -, -, hg', -⟩
  · rfl
  · exact absurd hg' hg

/-- Within a family a format is converted to a higher rate. -/
theorem conversion (hfg : SameFamily f g) (hrate : f.sampleRate ≤ g.sampleRate) :
    pcmReceiveConversionSupported f g = true := by
  rcases hfg with rfl | ⟨hf, hg, hf', hg', hch, hms⟩
  · simp [pcmReceiveConversionSupported]
  · simp [pcmReceiveConversionSupported, hf, hg, hf', hg', hch, hms, hrate]

end SameFamily

/-- What can be converted is of the family, with a rate that is not higher. -/
theorem sameFamily_of_conversion {f g : AudioFormat}
    (h : pcmReceiveConversionSupported f g = true) :
    SameFamily f g ∧ f.sampleRate ≤ g.sampleRate := by
  simp only [pcmReceiveConversionSupported, Bool.or_eq_true, Bool.and_eq_true, beq_iff_eq,
    decide_eq_true_eq] at h
  rcases h with rfl | ⟨⟨⟨⟨⟨⟨hf, hg⟩, hf'⟩, hg'⟩, hch⟩, hms⟩, hrate⟩
  · exact ⟨.refl f, Nat.le_refl _⟩
  · exact ⟨.inr ⟨hf, hg, hf', hg', hch, hms⟩, hrate⟩

/-- Raising the rate stays in the family. -/
theorem sameFamily_raiseRx (rx : AudioFormat × Nat) (entry : Nat × AudioFormat) :
    SameFamily rx.1 (raiseRx rx entry).1 ∧ rx.1.sampleRate ≤ (raiseRx rx entry).1.sampleRate := by
  rw [raiseRx]
  split
  · rename_i h
    exact sameFamily_of_conversion h.2
  · exact ⟨.refl _, Nat.le_refl _⟩

theorem sameFamily_foldl_raiseRx (received : RtpAudioPayloads) (rx : AudioFormat × Nat) :
    SameFamily rx.1 (received.foldl raiseRx rx).1 ∧
      rx.1.sampleRate ≤ (received.foldl raiseRx rx).1.sampleRate := by
  induction received generalizing rx with
  | nil => exact ⟨.refl _, Nat.le_refl _⟩
  | cons entry received ih =>
    obtain ⟨hfamily, hrate⟩ := sameFamily_raiseRx rx entry
    obtain ⟨hfamily', hrate'⟩ := ih (raiseRx rx entry)
    exact ⟨hfamily.trans hfamily', Nat.le_trans hrate hrate'⟩

/-- The highest rate of a family is reached. -/
theorem sampleRate_le_foldl_raiseRx {received : RtpAudioPayloads} {rx : AudioFormat × Nat}
    (h : ∀ entry ∈ received, SameFamily rx.1 entry.2) :
    ∀ entry ∈ received, entry.2.sampleRate ≤ (received.foldl raiseRx rx).1.sampleRate := by
  induction received generalizing rx with
  | nil => exact fun _ hentry => absurd hentry List.not_mem_nil
  | cons first received ih =>
    rw [List.forall_mem_cons] at h
    obtain ⟨hfamily, -⟩ := sameFamily_raiseRx rx first
    have hfirst : first.2.sampleRate ≤ (raiseRx rx first).1.sampleRate := by
      rw [raiseRx]
      split
      · exact Nat.le_refl _
      · rename_i hnot
        by_cases hlt : rx.1.sampleRate < first.2.sampleRate
        · exact absurd ⟨hlt, h.1.conversion (Nat.le_of_lt hlt)⟩ hnot
        · exact Nat.le_of_not_lt hlt
    intro entry hentry
    rw [List.foldl_cons]
    rcases List.mem_cons.mp hentry with rfl | hentry
    · exact Nat.le_trans hfirst (sameFamily_foldl_raiseRx received _).2
    · exact ih (fun entry hentry => hfamily.symm.trans (h.2 entry hentry)) entry hentry

/-! ## What is accepted -/

/-- What is accepted is what may be received and can be played, with one format for a payload
    type. -/
theorem acceptedRx_iff {a : AudioTerms} {selected : AudioFormat}
    {received accepted : RtpAudioPayloads} (h : acceptedRx a selected received = some accepted) :
    (∀ entry, entry ∈ accepted ↔ entry ∈ received ∧ usableRx a selected entry.2 = true) ∧
      (accepted.map (·.1)).Nodup ∧ ∀ entry ∈ accepted, entry.1 ≤ 127 ∧ entry.2.isValid = true := by
  rw [acceptedRx] at h
  -- The fold is followed from any accumulator.
  suffices hall : ∀ (rest start : RtpAudioPayloads), (start.map (·.1)).Nodup →
      (∀ entry ∈ start, entry.1 ≤ 127 ∧ entry.2.isValid = true) →
      rest.foldlM (fun accepted entry =>
        if usableRx a selected entry.2 then EsphomeVoip.RtpAudioPayloads.add entry.1
          entry.2 accepted
        else some accepted) start = some accepted →
      (∀ entry, entry ∈ accepted ↔
        entry ∈ start ∨ entry ∈ rest ∧ usableRx a selected entry.2 = true) ∧
      (accepted.map (·.1)).Nodup ∧
      ∀ entry ∈ accepted, entry.1 ≤ 127 ∧ entry.2.isValid = true by
    have := hall received [] List.nodup_nil (fun _ h => absurd h List.not_mem_nil) h
    simpa using this
  clear h
  intro rest
  induction rest with
  | nil =>
    intro start hnodup hvalid h
    cases h
    exact ⟨by simp, hnodup, hvalid⟩
  | cons first rest ih =>
    intro start hnodup hvalid h
    rw [List.foldlM_cons, Option.bind_eq_bind, Option.bind_eq_some_iff] at h
    obtain ⟨next, hnext, h⟩ := h
    split at hnext
    · -- The entry can be played: it is known already, or it is added.
      rename_i husable
      obtain ⟨hfirst, hpt, hadd⟩ := RtpAudioPayloads.add_eq hnext
      rcases hadd with ⟨rfl, hmem⟩ | ⟨rfl, hnew⟩
      · obtain ⟨hiff, hrest⟩ := ih next hnodup hvalid h
        refine ⟨fun entry => ?_, hrest⟩
        rw [hiff]
        grind
      · obtain ⟨hiff, hrest⟩ := ih (start ++ [(first.1, first.2)]) (by
            rw [List.map_append, List.nodup_append]
            refine ⟨hnodup, by simp, ?_⟩
            simpa using fun pt format hmem heq => hnew (pt, format) hmem heq) (by
            intro entry hentry
            rcases List.mem_append.mp hentry with hentry | hentry
            · exact hvalid entry hentry
            · rw [List.mem_singleton.mp hentry]
              exact ⟨hpt, hfirst⟩) h
        refine ⟨fun entry => ?_, hrest⟩
        rw [hiff]
        grind
    · -- The entry cannot be played: it is left out.
      rename_i husable
      cases hnext
      obtain ⟨hiff, hrest⟩ := ih start hnodup hvalid h
      refine ⟨fun entry => ?_, hrest⟩
      rw [hiff]
      grind

/-! ## What is agreed on -/

/-- A payload type and a format that may be received according to these entries. -/
def Heard (a : AudioTerms) (scan : AudioScan) (entries : List AudioEntry) (pt : Nat)
    (format : AudioFormat) : Prop :=
  ∃ entry ∈ entries, receives a scan entry = true ∧
    pt = (entryMatch a scan entry).receivePt ∧ format = wireFormat entry.format

/-- What is agreed on: the entry `sent` is transmitted, and reception is settled on
    `best`. -/
structure Agreed (a : AudioTerms) (scan : AudioScan) (entries : List AudioEntry)
    (g : AudioAgreement) (sent : AudioEntry) (best : AudioFormat × Nat) : Prop where
  first : entries.find? (transmits a scan) = some sent
  tx : g.tx = some (wireFormat sent.format, sent.pt)
  rx : g.rx = some best
  heard : Heard a scan entries best.2 best.1
  accepted : ∀ (pt : Nat) (format : AudioFormat), (pt, format) ∈ g.accepted ↔
    Heard a scan entries pt format ∧ usableRx a best.1 format = true
  nodup : (g.accepted.map (·.1)).Nodup
  bounds : ∀ entry ∈ g.accepted, entry.1 ≤ 127 ∧ entry.2.isValid = true
  /-- The settled format is of the family of what is transmitted, if that may be received. -/
  settled : a.directional = false → ∀ pt, Heard a scan entries pt (wireFormat sent.format) →
    SameFamily (wireFormat sent.format) best.1 ∧
      (wireFormat sent.format).sampleRate ≤ best.1.sampleRate
  /-- In one family it has the highest rate. -/
  highest : a.directional = false →
    (∀ pt format, Heard a scan entries pt format → SameFamily (wireFormat sent.format) format) →
    ∀ pt format, Heard a scan entries pt format → format.sampleRate ≤ best.1.sampleRate

/-- Settling starts from what is transmitted or from what may be received. -/
theorem sharedRx_cases (tx : AudioFormat) (rx : AudioFormat × Nat) (received : RtpAudioPayloads)
    (htx : tx.codec = .pcm) (hpcm : ∀ entry ∈ received, entry.2.codec = .pcm) :
    (sharedRx tx rx received).1 = tx ∨
      sharedRx tx rx received = rx ∧ ∀ entry ∈ received, entry.2 ≠ tx := by
  rw [sharedRx]
  split
  · rename_i entry hentry
    have hsame := List.find?_some hentry
    exact .inl ((shareWire_iff (hpcm _ (List.mem_of_find?_eq_some hentry)) htx).mp hsame)
  · rename_i hnone
    refine .inr ⟨rfl, fun entry hentry heq => ?_⟩
    have := List.find?_eq_none.mp hnone entry hentry
    exact this ((shareWire_iff (hpcm entry hentry) htx).mpr heq)

section Agree

variable {e : SdpEndpoint} {c : SdpContext} {localIp : Text} {lines : AudioLines}
  {a : AudioTerms} {directional : Bool} {entries : List AudioEntry} {ptime maxPayload : Nat}
  {tail : List Text} {ip : UInt32} {g : AudioAgreement}

/-- An agreement over a text of this program. -/
theorem agreed (ha : PcmTerms a) (hip : Free localIp) (hnames : lines.Names directional entries)
    (hentries : ∀ entry ∈ entries, entry.Writable maxPayload ∧ entry.format.frameMs = ptime)
    (hne : entries ≠ []) (hnodup : (entries.map (·.pt)).Nodup) (hport : e.rtpPort ≠ 0)
    (hptime : ptime ∈ [10, 16, 20, 32])
    (htail : ∀ line ∈ tail.head?, startsWith line "m=" = true)
    (h : agreeAudio a (audioText e c localIp lines ptime tail) ip = some g) :
    ∃ scan sent best, Scanned directional entries ptime scan ∧
      Agreed a scan entries g sent best := by
  obtain ⟨scan', hscan', hscanned⟩ := scanned_audioText (c := c) hip hnames
    (fun entry hentry => (hentries entry hentry).1) hne hnodup hport hptime htail
  obtain ⟨scan, s, hscan, hs, hrefuses, htx, hrx, haccepted, -⟩ := agreeAudio_eq h
  obtain rfl : scan' = scan := Option.some.inj (hscan'.symm.trans hscan)
  have hchosen := chosen_audioText ha hip hnames hentries hnodup htail hscanned hs
  have hsound : s.Sound a := (AudioChoice.sound_start a ip).run hs
  have hheard : ∀ pt format, (pt, format) ∈ s.received ↔ Heard a scan' entries pt format :=
    hchosen.received
  have hsettledMem := settleRx_mem a scan' (g.tx.map (·.1)) hsound.rx
  rw [← hrx] at hsettledMem
  have hpcm : ∀ entry ∈ s.received, entry.2.codec = .pcm := by
    rintro ⟨pt, format⟩ hmem
    obtain ⟨entry, hentry, -, -, rfl⟩ := (hheard pt format).mp hmem
    exact (hentries entry hentry).1.pcm
  -- both directions are wanted, so both have been selected
  have hsends : (a.c.offerTxFormats != []) = true := bne_iff_ne.mpr ha.sends
  have hreceives : (a.c.offerRxFormats != []) = true := bne_iff_ne.mpr ha.receives
  simp only [refusesChoice, hscanned.both, Flow.both, hsends, hreceives, Bool.and_true,
    Bool.true_and, Bool.or_eq_false_iff, Option.isNone_eq_false_iff] at hrefuses
  obtain ⟨⟨⟨-, hsome⟩, hsome'⟩, -⟩ := hrefuses
  obtain ⟨tx, hselected⟩ := Option.isSome_iff_exists.mp hsome
  obtain ⟨rx, hselected'⟩ := Option.isSome_iff_exists.mp hsome'
  obtain ⟨sent, hfirst, rfl⟩ := Option.map_eq_some_iff.mp (hchosen.tx.symm.trans hselected)
  have hmem : (rx.2, rx.1) ∈ s.received := hsound.rx rx hselected'
  rw [hselected, Option.map_some] at htx
  simp only [htx, hselected', Option.map_some, settleRx, ha.speaker, ha.opus, hscanned.both,
    and_true, true_and] at hrx
  have hwire : (wireFormat sent.format).codec = .pcm :=
    (hentries sent (List.mem_of_find?_eq_some hfirst)).1.pcm
  generalize hstart : sharedRx (wireFormat sent.format) rx s.received = start at hrx
  obtain ⟨best, hbest⟩ : ∃ best, g.rx = some best := by
    rw [hrx]
    split <;> exact ⟨_, rfl⟩
  have hsettled : a.directional = false → best = s.received.foldl raiseRx start := by
    intro hdirectional
    rw [hbest, if_pos hdirectional] at hrx
    exact Option.some.inj hrx
  have hbestMem : (best.2, best.1) ∈ s.received := hsettledMem best hbest
  obtain ⟨hiff, hnodup', hbounds⟩ := acceptedRx_iff haccepted
  rw [hbest] at hiff
  refine ⟨scan', sent, best, hscanned, hfirst, htx, hbest, (hheard _ _).mp hbestMem,
    fun pt format => ?_, hnodup', hbounds, ?_, ?_⟩
  · rw [hiff, hheard]
    rfl
  · intro hdirectional pt hpt
    rw [hsettled hdirectional]
    obtain hshared | ⟨-, hnone⟩ := sharedRx_cases (wireFormat sent.format) rx s.received hwire hpcm
    · have := sameFamily_foldl_raiseRx s.received start
      rw [hstart] at hshared
      rwa [hshared] at this
    · exact absurd rfl (hnone _ ((hheard _ _).mpr hpt))
  · intro hdirectional hfamily pt format hformat
    rw [hsettled hdirectional]
    have hall : ∀ entry ∈ s.received, SameFamily start.1 entry.2 := by
      intro entry hentry
      have hto := hfamily _ _ ((hheard _ _).mp hentry)
      obtain hshared | ⟨hshared, -⟩ :=
        sharedRx_cases (wireFormat sent.format) rx s.received hwire hpcm
      · rw [← hstart, hshared]
        exact hto
      · rw [← hstart, hshared]
        exact (hfamily _ _ ((hheard _ _).mp hmem)).symm.trans hto
    exact sampleRate_le_foldl_raiseRx hall _ ((hheard _ _).mpr hformat)

end Agree

end Sdp

end EsphomeVoip
