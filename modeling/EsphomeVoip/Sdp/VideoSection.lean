import EsphomeVoip.Sdp.MediaShape
import EsphomeVoip.Sdp.Video
import EsphomeVoip.Sdp.Written

/-! # What is agreed on video (`learn_remote_video_from_sdp_`) -/

namespace EsphomeVoip

namespace Sdp

/-! ## The video line -/

namespace VideoScan

@[simp] theorem update_offered (pt : Nat) (f : VideoPayload → VideoPayload) (s : VideoScan) :
    (s.update pt f).offered = s.offered := by
  rw [update]
  split <;> rfl

@[simp] theorem address_offered (ip : UInt32) (s : VideoScan) :
    (s.address ip).offered = s.offered := by
  rw [address]
  repeat' split
  all_goals rfl

@[simp] theorem rtcp_offered (e : SdpEndpoint) (line : Text) (s : VideoScan) :
    (s.rtcp e line).offered = s.offered := by
  rw [rtcp]
  split <;> rfl

@[simp] theorem rtpmap_offered (codec : VideoCodec) (line : Text) (s : VideoScan) :
    (s.rtpmap codec line).offered = s.offered := by
  rw [rtpmap]
  split
  · exact update_offered ..
  · rfl

@[simp] theorem parameter_offered (line : Text) (name : String)
    (f : Text → VideoPayload → VideoPayload) (s : VideoScan) :
    (s.parameter line name f).offered = s.offered := by
  rw [parameter]
  split
  · simp
  · rfl

@[simp] theorem fmtp_offered (line : Text) (s : VideoScan) :
    (s.fmtp line).offered = s.offered := by
  simp [fmtp]

@[simp] theorem rtcpFeedback_offered (line : Text) (s : VideoScan) :
    (s.rtcpFeedback line).offered = s.offered := by
  rw [rtcpFeedback]
  split
  · refine List.foldlRecOn (motive := fun t : VideoScan => t.offered = s.offered) s.payloads _ rfl
      fun t ht q _ => ?_
    split
    · simpa using ht
    · exact ht
  · rfl

/-- A line that can be read as a video line is one from then on. -/
theorem offered_of_line (e : SdpEndpoint) (codec : VideoCodec) (s : VideoScan) (line : Text) :
    (VideoScan.line e codec s line).offered =
      (s.offered || (parseVideoMediaLine line).isSome) := by
  by_cases hmedia : startsWith line "m=" = true
  · rw [VideoScan.line, if_pos hmedia, media]
    simp only
    split
    · rename_i hoffered
      simp [hoffered]
    · rename_i hoffered
      split
      · rename_i hparse
        simp [hparse]
      · rename_i hparse
        simp [hparse]
  · have hparse : (parseVideoMediaLine line).isSome = false :=
      Bool.eq_false_iff.mpr fun hp => hmedia (media_of_parseVideoMediaLine hp)
    rw [hparse, Bool.or_false, VideoScan.line, if_neg hmedia]
    simp only [apply_ite VideoScan.offered, address_offered, rtcp_offered, rtpmap_offered,
      fmtp_offered, rtcpFeedback_offered, ite_self]

end VideoScan

/-- Video is offered if a video line can be read. -/
theorem offered_scanVideo (e : SdpEndpoint) (codec : VideoCodec) (lines : List Text)
    (ip : UInt32) :
    (scanVideo e codec lines ip).offered =
      lines.any fun line => (parseVideoMediaLine line).isSome := by
  suffices hall : ∀ s : VideoScan, (lines.foldl (VideoScan.line e codec) s).offered =
      (s.offered || lines.any fun line => (parseVideoMediaLine line).isSome) by
    rw [scanVideo, hall]
    rfl
  induction lines with
  | nil => simp
  | cons line lines ih =>
    intro s
    rw [List.foldl_cons, ih, VideoScan.offered_of_line, List.any_cons, Bool.or_assoc]

/-- The remembered place of the video line is the one of a line that can be read. -/
theorem isSome_videoIndex_mediaOf (lines : List Text) :
    (videoIndex (mediaOf lines)).isSome =
      lines.any fun line => (parseVideoMediaLine line).isSome := by
  rw [videoIndex, List.findIdx?_isSome, mediaOf, List.any_filter]
  congr 1
  funext line
  by_cases hparse : (parseVideoMediaLine line).isSome = true
  · rw [hparse, media_of_parseVideoMediaLine hparse]
    rfl
  · rw [Bool.not_eq_true] at hparse
    rw [hparse, Bool.and_false]

/-! ## The profile -/

theorem free_of_hexByte {high low : Char} {n : Nat} (h : hexByte high low = some n) :
    Free [high, low] := by
  have hnibble : ∀ c n, hexNibble c = some n → c ≠ '\r' ∧ c ≠ '=' := by
    rintro c n hc
    constructor
    · rintro rfl
      exact absurd hc (by simp [hexNibble])
    · rintro rfl
      exact absurd hc (by simp [hexNibble])
  simp only [hexByte, Option.bind_eq_bind, Option.bind_eq_some_iff] at h
  obtain ⟨a, ha, b, hb, _⟩ := h
  intro c hc
  simp only [List.mem_cons, List.not_mem_nil, or_false] at hc
  rcases hc with rfl | rfl
  · exact hnibble c a ha
  · exact hnibble c b hb

/-- A profile that can be read consists of hexadecimal digits. -/
theorem free_of_parseProfileLevelId {profile : Text} {p : Nat × Nat × Nat}
    (h : parseProfileLevelId profile = some p) : Free profile := by
  unfold parseProfileLevelId at h
  split at h
  · rename_i a b c d e f
    simp only [Option.bind_eq_bind, Option.bind_eq_some_iff] at h
    obtain ⟨_, h₁, _, h₂, _, h₃, _⟩ := h
    rw [show [a, b, c, d, e, f] = [a, b] ++ [c, d] ++ [e, f] from rfl, free_append, free_append]
    exact ⟨⟨free_of_hexByte h₁, free_of_hexByte h₂⟩, free_of_hexByte h₃⟩
  · cases h

theorem free_of_h264SameSubprofile {left right : Text}
    (h : h264SameSubprofile left right = true) : Free left ∧ Free right := by
  rw [h264SameSubprofile] at h
  split at h
  · rename_i hleft hright
    exact ⟨free_of_parseProfileLevelId hleft, free_of_parseProfileLevelId hright⟩
  · cases h

theorem h264SameSubprofile_of_levelFits {source receiver : Text}
    (h : h264LevelFits source receiver = true) : h264SameSubprofile source receiver = true := by
  rw [h264LevelFits, Bool.and_eq_true] at h
  exact h.1

theorem free_take {t : Text} (h : Free t) (n : Nat) : Free (t.take n) := fun c hc =>
  h c (List.mem_of_mem_take hc)

theorem free_drop {t : Text} (h : Free t) (n : Nat) : Free (t.drop n) := fun c hc =>
  h c (List.mem_of_mem_drop hc)

namespace VideoTerms

/-- A payload type that is taken can be sent or received. -/
theorem compatible_of_takes {v : VideoTerms} {pt : Nat} (h : v.takes pt = true) :
    v.sendCompatible pt = true ∨ v.receiveCompatible pt = true := by
  simp only [takes, localSends, localReceives, Bool.and_eq_true, Bool.or_eq_true] at h
  rcases h.2 with (h | h) | h
  · exact .inl h.1.2
  · exact .inr h.2
  · exact h.2

/-- What fits the profile of the peer has a profile, and the peer has one. -/
theorem free_of_sendCompatible {v : VideoTerms} {pt : Nat} (hcodec : v.codec = .h264)
    (h : v.sendCompatible pt = true) :
    Free v.localSend.profileLevelId.toList ∧ Free (v.peerProfile pt) := by
  simp only [sendCompatible, hcodec, Bool.and_eq_true] at h
  exact free_of_h264SameSubprofile (h264SameSubprofile_of_levelFits h.2.2)

theorem free_of_receiveCompatible {v : VideoTerms} {pt : Nat} (hcodec : v.codec = .h264)
    (h : v.receiveCompatible pt = true) :
    Free v.localReceive.profileLevelId.toList ∧ Free (v.peerProfile pt) := by
  simp only [receiveCompatible, hcodec, Bool.and_eq_true] at h
  exact free_of_h264SameSubprofile h.2.2

@[simp] theorem shared_profileLevelId (v : VideoTerms) (pt : Nat) :
    (v.shared pt).profileLevelId = (v.own pt).profileLevelId := by
  rw [shared]
  split <;> rfl

/-- The profile that is negotiated consists of hexadecimal digits. -/
theorem free_profile_of_takes {v : VideoTerms} {pt : Nat} (hcodec : v.codec = .h264)
    (h : v.takes pt = true) : Free (v.negotiated pt).profileLevelId.toList := by
  have hpeer : Free (v.peerProfile pt) := by
    rcases compatible_of_takes h with h | h
    · exact (free_of_sendCompatible hcodec h).2
    · exact (free_of_receiveCompatible hcodec h).2
  have hown : Free (v.shared pt).profileLevelId.toList := by
    rw [shared_profileLevelId, own]
    split
    · rename_i hreceive
      exact (free_of_receiveCompatible hcodec hreceive).1
    · rename_i hreceive
      exact (free_of_sendCompatible hcodec ((compatible_of_takes h).resolve_right hreceive)).1
  simp only [negotiated]
  split
  · rw [String.toList_ofList, free_append]
    exact ⟨free_take hown 4, free_take (free_drop hpeer 4) 2⟩
  · exact hown

end VideoTerms

/-! ## The result -/

/-- Video is agreed with a payload type that is taken, or not at all. -/
theorem learnVideo_cases (e : SdpEndpoint) (codec : VideoCodec) (sendRequested : Bool)
    (lines : List Text) (ip : UInt32) (isAnswer : Bool) :
    ∃ v : VideoTerms, v = ⟨e, codec, sendRequested, scanVideo e codec lines ip⟩ ∧
      ((learnVideo e codec sendRequested lines ip isAnswer).2 = v.unagreed ∨
        ∃ pt, v.taken isAnswer = some pt ∧
          learnVideo e codec sendRequested lines ip isAnswer = (true, v.agreement pt)) := by
  refine ⟨_, rfl, ?_⟩
  rw [learnVideo]
  simp only
  split
  · exact .inl rfl
  · split
    · exact .inl rfl
    · split
      · rename_i pt hpt
        exact .inr ⟨pt, hpt, rfl⟩
      · exact .inl rfl

theorem takes_of_taken {v : VideoTerms} {isAnswer : Bool} {pt : Nat}
    (h : v.taken isAnswer = some pt) : v.takes pt = true := by
  have := List.find?_some h
  rw [Bool.and_eq_true] at this
  exact this.2

/-- Video that can be read is remembered as offered. -/
theorem offered_learnVideo {e : SdpEndpoint} {codec : VideoCodec} {sendRequested : Bool}
    {lines : List Text} {ip : UInt32} {isAnswer : Bool}
    (h : (videoIndex (mediaOf lines)).isSome = true) :
    (learnVideo e codec sendRequested lines ip isAnswer).2.offered = true := by
  rw [isSome_videoIndex_mediaOf] at h
  obtain ⟨v, hv, hlearnt | ⟨pt, _, hlearnt⟩⟩ :=
    learnVideo_cases e codec sendRequested lines ip isAnswer
  · rw [hlearnt, hv]
    exact (offered_scanVideo e codec lines ip).trans h
  · rw [hlearnt]
    rfl

/-- What is learnt has a profile of hexadecimal digits, or none. -/
theorem free_profile_learnVideo (e : SdpEndpoint) (sendRequested : Bool) (lines : List Text)
    (ip : UInt32) (isAnswer : Bool) :
    Free (learnVideo e .h264 sendRequested lines ip
      isAnswer).2.capability.profileLevelId.toList := by
  obtain ⟨v, hv, hlearnt | ⟨pt, hpt, hlearnt⟩⟩ :=
    learnVideo_cases e .h264 sendRequested lines ip isAnswer
  · rw [hlearnt]
    exact free_nil
  · rw [hlearnt]
    exact VideoTerms.free_profile_of_takes (by rw [hv]) (takes_of_taken hpt)

end Sdp

end EsphomeVoip
