import EsphomeVoip.Sdp.Agreement
import EsphomeVoip.Sdp.DirectionOffer

/-! # The SDP module of a transport (`sip_sdp.cpp`)

Audio and video are read together, and with the writers of the two kinds of SDP this is the module
that the transport of an endpoint runs on. -/

namespace EsphomeVoip

namespace Sdp

/-- `learn_remote_rtp_from_sdp_`: whether the SDP is accepted, and the media it leaves.  A transfer
    has no video. -/
def learn (e : SdpEndpoint) (c : SdpContext) (sdp : Text) (defaultIp : UInt32)
    (isAnswer : Bool) : Bool × Negotiation × VideoNegotiation :=
  match learnAudio e c sdp defaultIp isAnswer with
  | (false, n) => (false, n, c.video)
  | (true, n) =>
    match e.videoCodec with
    | some codec =>
      if c.referContextActive then (true, n, c.video)
      else (true, n, (learnVideo e codec c.videoSendRequested (sdpLines sdp) defaultIp isAnswer).2)
    | none => (true, n, c.video)

/-- How an endpoint reads an SDP. -/
def audioTerms (e : SdpEndpoint) (c : SdpContext) (sdp : Text) (isAnswer : Bool) : AudioTerms where
  e := e
  c := openSdp e c sdp isAnswer
  directional := (openSdp e c sdp isAnswer).negotiation.remoteDirectionalAudioV1
  isAnswer := isAnswer

/-- What an accepted SDP leaves of video. -/
def learntVideo (e : SdpEndpoint) (c : SdpContext) (sdp : Text) (defaultIp : UInt32)
    (isAnswer : Bool) : VideoNegotiation :=
  match e.videoCodec with
  | some codec =>
    if c.referContextActive then c.video
    else (learnVideo e codec c.videoSendRequested (sdpLines sdp) defaultIp isAnswer).2
  | none => c.video

/-- What it takes that an SDP is accepted, and what it leaves. -/
theorem learn_iff {e : SdpEndpoint} {c : SdpContext} {sdp : Text} {ip : UInt32} {isAnswer : Bool}
    {n : Negotiation} {v : VideoNegotiation} :
    learn e c sdp ip isAnswer = (true, n, v) ↔
      (captureRemoteMediaShape e.videoCodec.isSome sdp).overflow = false ∧
      (∃ g, agreeAudio (audioTerms e c sdp isAnswer) (sdpLines sdp) ip = some g ∧
        n = g.apply (openSdp e c sdp isAnswer).negotiation) ∧
      v = learntVideo e c sdp ip isAnswer := by
  -- Video is only looked at when audio is accepted.
  have hlearn : learn e c sdp ip isAnswer =
      ((learnAudio e c sdp ip isAnswer).1, (learnAudio e c sdp ip isAnswer).2,
        if (learnAudio e c sdp ip isAnswer).1 then learntVideo e c sdp ip isAnswer
        else c.video) := by
    unfold learn learntVideo
    rcases learnAudio e c sdp ip isAnswer with ⟨_ | _, n'⟩
    · rfl
    · cases e.videoCodec with
      | none => rfl
      | some codec => simp only [if_true]; split <;> rfl
  -- Audio is accepted when the shape fits and there is an agreement.
  have haudio : learnAudio e c sdp ip isAnswer =
      if (captureRemoteMediaShape e.videoCodec.isSome sdp).overflow then
        (false, (openSdp e c sdp isAnswer).negotiation)
      else (agreeAudio (audioTerms e c sdp isAnswer) (sdpLines sdp) ip).elim
        (false, (openSdp e c sdp isAnswer).negotiation)
        fun g => (true, g.apply (openSdp e c sdp isAnswer).negotiation) := by
    have hover : (openSdp e c sdp isAnswer).negotiation.mediaShape =
        captureRemoteMediaShape e.videoCodec.isSome sdp := rfl
    unfold learnAudio
    dsimp only
    rw [hover]
    split
    · rfl
    · show _ = Option.elim (agreeAudio ⟨e, openSdp e c sdp isAnswer,
        (openSdp e c sdp isAnswer).negotiation.remoteDirectionalAudioV1, isAnswer⟩ _ _) _ _
      split
      · rename_i hnone
        rw [hnone]
        rfl
      · rename_i hsome
        rw [hsome]
        rfl
  rw [hlearn, haudio]
  cases (captureRemoteMediaShape e.videoCodec.isSome sdp).overflow with
  | true => simp
  | false =>
    cases agreeAudio (audioTerms e c sdp isAnswer) (sdpLines sdp) ip with
    | none => simp
    | some g => simp [eq_comm]

/-! ## The RTP port -/

variable {e : SdpEndpoint} {c d : SdpContext} {sdp : Text} {ip : UInt32} {isAnswer : Bool}

/-- The port that the audio section of an SDP names, 0 when there is none. -/
def audioPort (sdp : Text) : Nat := ((scanAudio (sdpLines sdp)).map (·.mediaPort)).getD 0

/-- An accepted SDP leaves the port that its audio section names. -/
theorem remoteRtpPort_of_learn {n : Negotiation} {v : VideoNegotiation}
    (h : learn e c sdp ip isAnswer = (true, n, v)) :
    n.remoteRtpPort = .ofNat (audioPort sdp) := by
  obtain ⟨-, ⟨g, hg, rfl⟩, -⟩ := learn_iff.mp h
  obtain ⟨scan, s, hscan, -, -, -, -, -, -, -, hport⟩ := agreeAudio_eq hg
  show UInt16.ofNat g.port = .ofNat (audioPort sdp)
  rw [audioPort, hscan, hport]
  rfl

/-! ## The same offer again -/

/-- Of an offer the two loops read nothing but the local formats. -/
theorem agreeAudio_offer {directional : Bool} {lines : List Text}
    (htx : c.offerTxFormats = d.offerTxFormats) (hrx : c.offerRxFormats = d.offerRxFormats) :
    agreeAudio ⟨e, c, directional, false⟩ lines ip = agreeAudio ⟨e, d, directional, false⟩
      lines ip := by
  obtain ⟨cn, cv, ctx, crx, _, _, _, _, _, _⟩ := c
  obtain ⟨dn, dv, dtx, drx, _, _, _, _, _, _⟩ := d
  cases htx
  cases hrx
  rfl

/-- An offer that was accepted once leaves the same audio again, but for the memory of our own
    offers, as long as the local formats are the same. -/
theorem learn_offer_again {n : Negotiation} {v : VideoNegotiation}
    (htx : c.offerTxFormats = d.offerTxFormats) (hrx : c.offerRxFormats = d.offerRxFormats)
    (h : learn e c sdp ip false = (true, n, v)) :
    learn e d sdp ip false = (true, { n with
      localOfferedRxPayloads := d.negotiation.localOfferedRxPayloads
      localOfferedTxFormats := d.negotiation.localOfferedTxFormats
      localOfferedDirectionalAudioV1 := d.negotiation.localOfferedDirectionalAudioV1 },
      learntVideo e d sdp ip false) := by
  obtain ⟨hroom, ⟨g, hg, rfl⟩, rfl⟩ := learn_iff.mp h
  refine learn_iff.mpr ⟨hroom, ⟨g, ?_, rfl⟩, rfl⟩
  rw [← hg]
  exact (agreeAudio_offer htx hrx).symm

/-- So does its video, in a build that has video. -/
theorem learntVideo_again (hsend : c.videoSendRequested = d.videoSendRequested)
    (hc : c.referContextActive = false) (hd : d.referContextActive = false) (sdp : Text)
    (ip : UInt32) (isAnswer : Bool) :
    learntVideo e d sdp ip isAnswer = learntVideo e c sdp ip isAnswer ∨
      learntVideo e d sdp ip isAnswer = d.video := by
  unfold learntVideo
  rw [hc, hd, hsend]
  cases e.videoCodec with
  | none => exact .inr rfl
  | some codec => exact .inl rfl

/-! ## The module -/

/-- The SDP module of an endpoint. -/
def sdpModule (e : SdpEndpoint) : SdpModule where
  learn := fun c sdp defaultIp isAnswer => learn e c sdp.toList defaultIp isAnswer
  offer := fun c ip => (String.ofList (buildSdpOffer e c ip).1, (buildSdpOffer e c ip).2)
  answer := fun c ip => String.ofList (buildSdpAnswer e c ip)
  directionOffer := fun c sdp enabled version =>
    String.ofList (buildVideoDirectionOffer c sdp.toList enabled version)
  hasFlow := fun sdp => hasFlow sdp.toList

end Sdp

end EsphomeVoip
