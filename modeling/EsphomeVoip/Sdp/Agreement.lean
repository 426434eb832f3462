import EsphomeVoip.Sdp.MediaShape

/-! # What is agreed on audio (`learn_remote_rtp_from_sdp_`)

Whatever the SDP of the peer is, the formats that come out of it are local ones that can be sent
as RTP, and at least one direction has a format. -/

namespace EsphomeVoip

namespace Sdp

/-- A format of a list that fits into the packets of the endpoint. -/
structure Sendable (e : SdpEndpoint) (formats : AudioFormatList) (format : AudioFormat) : Prop where
  mem : format ∈ formats
  encoding : (audioFormatRtpEncoding format e.udpMaxPayload).isSome = true

/-- What is matched is a format of the list that can be sent. -/
theorem sendable_of_match {e : SdpEndpoint} {formats : AudioFormatList}
    {remote format : AudioFormat}
    (h : audioFormatListMatchUdpSafe formats remote e.udpMaxPayload = some format) :
    Sendable e formats format := by
  rw [audioFormatListMatchUdpSafe] at h
  split at h
  · cases h
  · split at h
    · cases h
    · rename_i encoding _
      have hfound := List.find?_some h
      rw [Bool.and_eq_true, beq_iff_eq] at hfound
      exact ⟨List.mem_of_find?_eq_some h, by rw [hfound.2]; rfl⟩

/-- What an added payload type changes. -/
theorem RtpAudioPayloads.add_eq {pt : Nat} {format : AudioFormat}
    {payloads payloads' : RtpAudioPayloads}
    (h : RtpAudioPayloads.add pt format payloads = some payloads') :
    format.isValid = true ∧ pt ≤ 127 ∧
      (payloads' = payloads ∧ (pt, format) ∈ payloads ∨
        payloads' = payloads ++ [(pt, format)] ∧ ∀ entry ∈ payloads, entry.1 ≠ pt) := by
  rw [EsphomeVoip.RtpAudioPayloads.add] at h
  split at h
  · cases h
  · rename_i hok
    rw [not_or, Bool.not_eq_false] at hok
    refine ⟨hok.2, by omega, ?_⟩
    split at h
    · rename_i entry hentry
      split at h
      · rename_i hsame
        cases h
        have hpt := List.find?_some hentry
        rw [beq_iff_eq] at hpt
        exact .inl ⟨rfl, hpt ▸ hsame ▸ List.mem_of_find?_eq_some hentry⟩
      · cases h
    · rename_i hnew
      split at h
      · cases h
      · cases h
        refine .inr ⟨rfl, fun entry hentry hpt => ?_⟩
        have := List.find?_eq_none.mp hnew entry hentry
        rw [hpt] at this
        exact this (beq_self_eq_true pt)

/-- A format that may be received. -/
structure Receivable (a : AudioTerms) (format : AudioFormat) : Prop
    extends Sendable a.e a.c.offerRxFormats format where
  valid : format.isValid = true

/-- What the second loop has selected so far. -/
structure AudioChoice.Sound (a : AudioTerms) (s : AudioChoice) : Prop where
  received : ∀ entry ∈ s.received, Receivable a entry.2
  rx : ∀ rx ∈ s.selectedRx, (rx.2, rx.1) ∈ s.received
  tx : ∀ tx ∈ s.selectedTx, Sendable a.e a.c.offerTxFormats tx.format

theorem AudioChoice.sound_start (a : AudioTerms) (ip : UInt32) :
    AudioChoice.Sound a { mediaIp := ip } where
  received := fun _ h => nomatch h
  rx := fun _ h => nomatch h
  tx := fun _ h => nomatch h

/-- A match names local formats. -/
theorem sendable_of_matchPayload (a : AudioTerms) (flow : Flow) (pt : Nat) (format : AudioFormat) :
    (∀ tx ∈ (matchPayload a flow pt format).localTx, Sendable a.e a.c.offerTxFormats tx) ∧
      ∀ rx ∈ (matchPayload a flow pt format).localRx, Sendable a.e a.c.offerRxFormats rx := by
  have htx : ∀ tx ∈ (if flow.recv = true
      then audioFormatListMatchUdpSafe a.c.offerTxFormats format a.e.udpMaxPayload else none),
      Sendable a.e a.c.offerTxFormats tx := by
    intro tx h
    split at h
    · exact sendable_of_match h
    · cases h
  have hrx : ∀ rx ∈ (if flow.send = true
      then audioFormatListMatchUdpSafe a.c.offerRxFormats format a.e.udpMaxPayload else none),
      Sendable a.e a.c.offerRxFormats rx := by
    intro rx h
    split at h
    · exact sendable_of_match h
    · cases h
  rw [matchPayload]
  split
  · refine ⟨fun tx h => htx tx ?_, fun rx h => hrx rx ?_⟩
    · simp only at h
      split at h
      · exact h
      · cases h
    · simp only at h
      split at h
      · exact h
      · cases h
  · exact ⟨htx, hrx⟩

/-- A payload type with a match keeps what has been selected sound. -/
theorem AudioChoice.Sound.choosePayload {a : AudioTerms} {scan : AudioScan} {pt : Nat}
    {m : PayloadMatch} {s s' : AudioChoice} (hs : s.Sound a)
    (htx : ∀ tx ∈ m.localTx, Sendable a.e a.c.offerTxFormats tx)
    (hrx : ∀ rx ∈ m.localRx, Sendable a.e a.c.offerRxFormats rx)
    (h : choosePayload a scan pt m s = some s') : s'.Sound a := by
  simp only [Sdp.choosePayload] at h
  split at h
  · cases h
  rename_i received hreceived
  -- the transmit format is the old one or the matched one
  have hsel : ∀ tx ∈ s'.selectedTx, Sendable a.e a.c.offerTxFormats tx.format := by
    cases h
    intro tx h
    simp only at h
    split at h
    · rename_i localTx hlocal
      split at h
      · cases h
        exact htx localTx hlocal
      · exact hs.tx tx h
    · exact hs.tx tx h
  cases h
  revert hsel
  cases hlocal : m.localRx with
  | none =>
    intro hsel
    rw [hlocal] at hreceived
    cases hreceived
    exact ⟨hs.received, hs.rx, hsel⟩
  | some localRx =>
    intro hsel
    rw [hlocal] at hreceived
    simp only at hreceived
    split at hreceived
    · -- the receive format is remembered with its payload type
      obtain ⟨hvalid, _, hadd⟩ := RtpAudioPayloads.add_eq hreceived
      have hlocalRx : Receivable a localRx := ⟨hrx localRx hlocal, hvalid⟩
      have hmem : (m.receivePt, localRx) ∈ received := by
        rcases hadd with ⟨rfl, h⟩ | ⟨rfl, _⟩
        · exact h
        · simp
      have hsub : ∀ entry ∈ s.received, entry ∈ received := by
        rcases hadd with ⟨rfl, _⟩ | ⟨rfl, _⟩
        · exact fun _ h => h
        · exact fun _ h => List.mem_append_left _ h
      refine ⟨?_, ?_, hsel⟩
      · intro entry hentry
        rcases hadd with ⟨rfl, _⟩ | ⟨rfl, _⟩
        · exact hs.received entry hentry
        · rcases List.mem_append.mp hentry with h | h
          · exact hs.received entry h
          · rw [List.mem_singleton.mp h]
            exact hlocalRx
      · intro rx h
        simp only at h
        split at h
        · cases h
          exact hmem
        · exact hsub _ (hs.rx rx h)
    · rename_i hineligible
      cases hreceived
      refine ⟨hs.received, ?_, hsel⟩
      intro rx h
      simp only [Bool.eq_false_iff.mpr hineligible, Bool.false_and] at h
      exact hs.rx rx h

theorem AudioChoice.Sound.chooseRtpmap {a : AudioTerms} {scan : AudioScan} {line : Text}
    {s s' : AudioChoice} (hs : s.Sound a) (h : chooseRtpmap a scan line s = some s') :
    s'.Sound a := by
  rw [Sdp.chooseRtpmap] at h
  split at h
  · cases h
    exact hs
  · split at h
    · simp only at h
      split at h
      · cases h
      · have hmatch := sendable_of_matchPayload a
        refine AudioChoice.Sound.choosePayload ?_ (hmatch _ _ _).1 (hmatch _ _ _).2 h
        exact ⟨hs.received, hs.rx, hs.tx⟩
    · cases h
      exact hs

theorem AudioChoice.Sound.chooseLine {a : AudioTerms} {scan : AudioScan} {line : Text × Nat}
    {s s' : AudioChoice} (hs : s.Sound a) (h : chooseLine a scan s line = some s') :
    s'.Sound a := by
  rw [Sdp.chooseLine] at h
  split at h
  · cases h
    exact ⟨hs.received, hs.rx, hs.tx⟩
  · split at h
    · cases h
      exact ⟨hs.received, hs.rx, hs.tx⟩
    · split at h
      · exact hs.chooseRtpmap h
      · cases h
        exact hs

/-- The second loop keeps what has been selected sound. -/
theorem AudioChoice.Sound.run {a : AudioTerms} {scan : AudioScan} {lines : List (Text × Nat)}
    {s s' : AudioChoice} (hs : s.Sound a) (h : lines.foldlM (Sdp.chooseLine a scan) s = some s') :
    s'.Sound a := by
  induction lines generalizing s with
  | nil =>
    cases h
    exact hs
  | cons line lines ih =>
    rw [List.foldlM_cons, Option.bind_eq_bind, Option.bind_eq_some_iff] at h
    obtain ⟨next, hnext, h⟩ := h
    exact ih (hs.chooseLine hnext) h

/-! ## The result -/

/-- Settling takes a format with a payload type that has been received. -/
theorem settleRx_mem (a : AudioTerms) (scan : AudioScan) (tx : Option AudioFormat)
    {rx : Option (AudioFormat × Nat)} {received : RtpAudioPayloads}
    (hrx : ∀ rx' ∈ rx, (rx'.2, rx'.1) ∈ received) :
    ∀ rx' ∈ settleRx a scan tx rx received, (rx'.2, rx'.1) ∈ received := by
  have hshared : ∀ tx (rx' : AudioFormat × Nat), (rx'.2, rx'.1) ∈ received →
      ((sharedRx tx rx' received).2, (sharedRx tx rx' received).1) ∈ received := by
    intro tx rx' h
    rw [sharedRx]
    split
    · rename_i entry hentry
      exact List.mem_of_find?_eq_some hentry
    · exact h
  unfold settleRx
  split
  · rename_i tx' rx'
    split
    · intro r hr
      cases hr
      refine List.foldlRecOn (motive := fun r : AudioFormat × Nat => (r.2, r.1) ∈ received)
        received raiseRx
        (hshared tx' rx' (hrx rx' rfl)) fun r hr entry hentry => ?_
      rw [raiseRx]
      split
      · exact hentry
      · exact hr
    · exact hrx
  · exact hrx

@[simp] theorem settleRx_isSome (a : AudioTerms) (scan : AudioScan) (tx : Option AudioFormat)
    (rx : Option (AudioFormat × Nat)) (received : RtpAudioPayloads) :
    (settleRx a scan tx rx received).isSome = rx.isSome := by
  unfold settleRx
  split
  · split <;> rfl
  · rfl

/-- The accepted payload types are among those that have been received. -/
theorem acceptedRx_mem {a : AudioTerms} {selected : AudioFormat}
    {received accepted : RtpAudioPayloads} (h : acceptedRx a selected received = some accepted) :
    ∀ entry ∈ accepted, entry ∈ received := by
  rw [acceptedRx] at h
  suffices hall : ∀ entries : RtpAudioPayloads, (∀ entry ∈ entries, entry ∈ received) →
      ∀ start : RtpAudioPayloads, (∀ entry ∈ start, entry ∈ received) →
      entries.foldlM (fun accepted entry =>
        if usableRx a selected entry.2 then EsphomeVoip.RtpAudioPayloads.add entry.1
          entry.2 accepted
        else some accepted) start = some accepted → ∀ entry ∈ accepted, entry ∈ received from
    hall received (fun _ h => h) [] (fun _ h => nomatch h) h
  intro entries
  induction entries with
  | nil =>
    intro _ start hstart h
    cases h
    exact hstart
  | cons entry entries ih =>
    intro hentries start hstart h
    rw [List.forall_mem_cons] at hentries
    rw [List.foldlM_cons, Option.bind_eq_bind, Option.bind_eq_some_iff] at h
    obtain ⟨next, hnext, h⟩ := h
    refine ih hentries.2 next ?_ h
    split at hnext
    · rcases (RtpAudioPayloads.add_eq hnext).2.2 with ⟨rfl, _⟩ | ⟨rfl, _⟩
      · exact hstart
      · intro entry' h'
        rcases List.mem_append.mp h' with h' | h'
        · exact hstart entry' h'
        · rw [List.mem_singleton.mp h']
          exact hentries.1
    · cases hnext
      exact hstart

/-- What is agreed on is local, can be sent, and is more than nothing. -/
structure AudioAgreement.Sound (a : AudioTerms) (g : AudioAgreement) : Prop where
  tx : ∀ tx ∈ g.tx, Sendable a.e a.c.offerTxFormats tx.1
  rx : ∀ rx ∈ g.rx, Receivable a rx.1
  accepted : ∀ entry ∈ g.accepted, Receivable a entry.2
  some_direction : g.tx.isSome = true ∨ g.rx.isSome = true

/-- What an agreement is made of. -/
theorem agreeAudio_eq {a : AudioTerms} {lines : List Text} {ip : UInt32} {g : AudioAgreement}
    (h : agreeAudio a lines ip = some g) :
    ∃ scan s, scanAudio lines = some scan ∧ chooseAudio a scan lines ip = some s ∧
      refusesChoice a scan s = false ∧
      g.tx = s.selectedTx.map (fun tx => (tx.format, tx.payloadType)) ∧
      g.rx = settleRx a scan (g.tx.map (·.1)) s.selectedRx s.received ∧
      acceptedRx a ((g.rx.map (·.1)).getD disabledAudioFormat) s.received = some g.accepted ∧
      g.tx.any (fun tx => g.rx.any fun rx => tx.1.frameMs != rx.1.frameMs) = false ∧
      g.ip = s.mediaIp ∧ g.port = scan.mediaPort := by
  simp only [agreeAudio, Option.bind_eq_bind, Option.bind_eq_some_iff] at h
  obtain ⟨scan, hscan, s, hs, h⟩ := h
  split at h
  · cases h
  rename_i hrefuses
  split at h
  · cases h
  rename_i hptime
  obtain ⟨accepted, haccepted, h⟩ := Option.bind_eq_some_iff.mp h
  cases h
  exact ⟨scan, s, hscan, hs, Bool.eq_false_iff.mpr hrefuses, rfl, rfl, haccepted,
    Bool.eq_false_iff.mpr hptime, rfl, rfl⟩

theorem AudioAgreement.sound {a : AudioTerms} {lines : List Text} {ip : UInt32}
    {g : AudioAgreement} (h : agreeAudio a lines ip = some g) : g.Sound a := by
  obtain ⟨scan, s, _, hs, hrefuses, htx, hrx, haccepted, _⟩ := agreeAudio_eq h
  have hsound : s.Sound a := (AudioChoice.sound_start a ip).run hs
  have hsettled := settleRx_mem a scan (g.tx.map (·.1)) hsound.rx
  rw [← hrx] at hsettled
  refine ⟨?_, fun rx h => hsound.received _ (hsettled rx h), fun entry h =>
    hsound.received entry (acceptedRx_mem haccepted entry h), ?_⟩
  · intro tx h
    rw [htx] at h
    obtain ⟨selected, hselected, rfl⟩ := Option.map_eq_some_iff.mp h
    exact hsound.tx selected hselected
  · -- a direction that is wanted has a format
    simp only [refusesChoice, Bool.or_eq_false_iff] at hrefuses
    obtain ⟨⟨⟨⟨_, hwant⟩, hwantTx⟩, hwantRx⟩, _⟩ := hrefuses
    rw [htx, Option.isSome_map, hrx, settleRx_isSome]
    cases htx : (a.c.offerTxFormats != [] && scan.mediaFlow.recv) with
    | true =>
      rw [htx, Bool.true_and] at hwantTx
      exact .inl (by simpa using hwantTx)
    | false =>
      rw [htx] at hwant
      cases hrx : (a.c.offerRxFormats != [] && scan.mediaFlow.send) with
      | true =>
        rw [hrx, Bool.true_and] at hwantRx
        exact .inr (by simpa using hwantRx)
      | false =>
        rw [hrx] at hwant
        cases hwant

/-! ## The audio line -/

/-- A port has been read from an audio line. -/
theorem port_of_scanAudioLine {s s' : AudioScan} {line : Text × Nat}
    (hs : s.mediaPort ≠ 0 → s.selectedLine.isSome = true)
    (h : scanAudioLine s line = some s') : s'.mediaPort ≠ 0 → s'.selectedLine.isSome = true := by
  obtain ⟨line, index⟩ := line
  simp only [scanAudioLine] at h
  split at h
  · split at h
    · cases h
      exact hs
    · split at h
      · cases h
        exact hs
      · split at h
        · cases h
        · cases h
          exact fun _ => rfl
  · repeat' split at h
    all_goals cases h; exact hs

theorem port_of_scanAudio {lines : List Text} {scan : AudioScan}
    (h : scanAudio lines = some scan) : scan.mediaPort ≠ 0 → scan.selectedLine.isSome = true := by
  rw [scanAudio] at h
  suffices hall : ∀ (lines : List (Text × Nat)) (s : AudioScan),
      (s.mediaPort ≠ 0 → s.selectedLine.isSome = true) →
      lines.foldlM scanAudioLine s = some scan →
      scan.mediaPort ≠ 0 → scan.selectedLine.isSome = true from
    hall lines.zipIdx {} (fun h => absurd rfl h) h
  intro lines
  induction lines with
  | nil =>
    intro s hs h
    cases h
    exact hs
  | cons line lines ih =>
    intro s hs h
    rw [List.foldlM_cons, Option.bind_eq_bind, Option.bind_eq_some_iff] at h
    obtain ⟨next, hnext, h⟩ := h
    exact ih next (port_of_scanAudioLine hs hnext) h

/-- An accepted SDP has an audio line. -/
theorem audioIndex_of_agreeAudio {a : AudioTerms} {sdp : Text} {ip : UInt32}
    {g : AudioAgreement} (h : agreeAudio a (sdpLines sdp) ip = some g) :
    (audioIndex (mediaLines sdp)).isSome = true := by
  obtain ⟨scan, s, hscan, _, hrefuses, _⟩ := agreeAudio_eq h
  simp only [refusesChoice, Bool.or_eq_false_iff, beq_eq_false_iff_ne] at hrefuses
  have hsel := port_of_scanAudio hscan hrefuses.1.1.1.1.1
  rw [mediaLines, audioIndex_mediaOf, ← selectedLine_of_scanAudio hscan, Option.isSome_map]
  exact hsel

end Sdp

end EsphomeVoip
