import EsphomeVoip.Sdp.DirectionEdit

/-! # What the offer of another direction changes (`build_video_direction_offer_`)

In a text that this endpoint has written the edit is made in the negotiated section, unless the key
of a video line is in a line in front of it: a rejected section keeps the media line of the peer. -/

namespace EsphomeVoip

namespace Sdp

/-! ## Local SDPs -/

/-- A section that is not the negotiated video section: audio, or rejected. -/
inductive OtherSection : List Text → Prop where
  | audio {port : Nat} {payloads : Text} {lines : List Text} (free : Free payloads)
      (part : Section (mediaHead "audio" port payloads) lines) : OtherSection lines
  | rejected {line : Text} (media : startsWith line "m=" = true)
      (grammatical : grammatical line = true) (closed : ¬['\r', '\n'] <:+: line) :
      OtherSection [rejectedHead line, "a=inactive".toList]

theorem OtherSection.media_head {part : List Text} (h : OtherSection part) :
    ∃ head rest, part = head :: rest ∧ startsWith head "m=" = true := by
  cases h with
  | audio _ hpart =>
    obtain ⟨rest, rfl, -⟩ := hpart
    exact ⟨_, rest, rfl, rfl⟩
  | rejected hmedia hgrammatical _ => 
    exact ⟨_, _, rfl, (mediaType_rejectedHead hmedia hgrammatical).1⟩

theorem OtherSection.mediaSection {part : List Text} (h : OtherSection part) :
    ∃ head, MediaSection head part := by
  cases h with
  | audio hpayloads hpart => exact ⟨_, hpart.mediaSection (by decide) hpayloads⟩
  | rejected hmedia hgrammatical hclosed =>
    exact ⟨_, mediaSection_rejected hmedia hgrammatical hclosed⟩

theorem media_flatten {parts : List (List Text)} (h : ∀ part ∈ parts, OtherSection part) :
    ∀ line ∈ parts.flatten.head?, startsWith line "m=" = true := by
  cases parts with
  | nil => exact fun _ h => nomatch h
  | cons part parts =>
    obtain ⟨head, rest, rfl, hhead⟩ := (h part List.mem_cons_self).media_head
    rintro line ⟨⟩
    exact hhead

theorem Plain.not_key {line : Text} (h : Plain line) : ¬"m=video ".toList <:+: line := fun hin =>
  h.key (List.IsInfix.trans ⟨[], "video ".toList, rfl⟩ hin)

theorem key_mediaHead (port : Nat) (payloads : Text) :
    "m=video ".toList <+: mediaHead "video" port payloads := by
  simp only [mediaHead, List.append_assoc]
  exact ⟨_, rfl⟩

theorem not_zero_mediaHead {port : UInt16} (h : port ≠ 0) (payloads : Text) :
    ¬startsWith ((mediaHead "video" port.toNat payloads).drop 0) "m=video 0" = true := by
  have hhead := decimal_head (n := port.toNat) fun hzero => h (UInt16.toNat_inj.mp hzero)
  rw [List.drop_zero, startsWith, List.isPrefixOf_iff_prefix]
  simp only [mediaHead, List.append_assoc]
  intro hpre
  have hport : ['0'] <+: decimal port.toNat ++ (" RTP/AVP ".toList ++ payloads) :=
    (List.prefix_append_right_inj "m=video ".toList).mp hpre
  cases hdigits : decimal port.toNat with
  | nil => exact decimal_ne_nil _ hdigits
  | cons d digits =>
    rw [hdigits] at hport hhead
    obtain ⟨rfl, -⟩ := List.cons_prefix_cons.mp hport
    exact hhead rfl

/-- The media line of the audio section does not have the key. -/
theorem not_key_mediaHead (port : Nat) {payloads : Text} (h : Free payloads) :
    ¬"m=video ".toList <:+: mediaHead "audio" port payloads := by
  have htail : '=' ∉ decimal port ++ (" RTP/AVP ".toList ++ payloads) := by
    simp only [List.mem_append, not_or]
    exact ⟨(free_decimal port).key, by decide, h.key⟩
  have hline : mediaHead "audio" port payloads =
      'm' :: ("=audio ".toList ++ (decimal port ++ (" RTP/AVP ".toList ++ payloads))) := by
    unfold mediaHead
    simp only [List.append_assoc]
    rfl
  rw [hline, List.infix_cons_iff, not_or]
  refine ⟨fun hpre => ?_, fun hin => ?_⟩
  · rw [← List.cons_append] at hpre
    rcases List.prefix_or_prefix_of_prefix hpre (List.prefix_append _ _) with h | h
    · exact absurd h (by simp)
    · exact absurd h (by simp)
  · have hpair : ['m', '='] <:+: "m=video ".toList := ⟨[], "video ".toList, rfl⟩
    exact Search.not_pair_append_of_not_mem (by simp [List.infix_cons_iff]) htail (hpair.trans hin)

/-- A local SDP of a dialog in which video is negotiated: the sections in front of the video
    section and behind it are audio or rejected. -/
structure LocalSdp (e : SdpEndpoint) (c : SdpContext) (codec : VideoCodec) where
  version : UInt32
  localIp : Text
  front : List (List Text)
  capability : VideoCapability
  send : Bool
  receive : Bool
  behind : List (List Text)
  free : Free localIp
  others : ∀ part ∈ front ++ behind, OtherSection part
  valid : capability.valid codec = true
  profile : codec = .h264 → Free capability.profileLevelId.toList
  port : e.videoRtpPort ≠ 0

namespace LocalSdp

variable {e : SdpEndpoint} {c : SdpContext} {codec : VideoCodec}

/-- Its lines, with the direction of the video section. -/
def lines (s : LocalSdp e c codec) : List Text :=
  sessionLines { c with sdpSessionVersion := s.version } s.localIp ++ s.front.flatten ++
    videoLines e codec s.localIp s.capability ++
    ("a=".toList ++ (videoDirection s.send s.receive).toList) :: s.behind.flatten

def text (s : LocalSdp e c codec) : Text := sdpText s.lines

/-- The same SDP with another version and another direction of the video section. -/
def redirect (version : UInt32) (send receive : Bool) (s : LocalSdp e c codec) :
    LocalSdp e c codec :=
  { s with version, send, receive }

/-- No line in front of the video section has the key of one in it. -/
def Unambiguous (s : LocalSdp e c codec) : Prop :=
  ∀ part ∈ s.front, ∀ line ∈ part, ¬"m=video ".toList <:+: line

theorem text_ne_nil (s : LocalSdp e c codec) : s.text ≠ [] := by
  rw [text, Ne, sdpText_eq_nil]
  exact List.cons_ne_nil _ _

/-- The lines of the video section but for its media line and its direction. -/
def videoRest (s : LocalSdp e c codec) : List Text :=
  (videoLines e codec s.localIp s.capability).tail

theorem videoLines_eq (s : LocalSdp e c codec) : videoLines e codec s.localIp s.capability =
    mediaHead "video" e.videoRtpPort.toNat (decimal s.capability.payloadType) :: s.videoRest := rfl

theorem videoRest_plain (s : LocalSdp e c codec) :
    ∀ line ∈ s.videoRest, Plain line ∧ NoDirection line := by
  intro line hline
  obtain ⟨rest, hrest, hplain⟩ := section_videoLines e codec s.free
    (free_encoding_of_valid s.valid) s.profile s.send s.receive
  rw [videoLines_eq, List.cons_append, List.cons.injEq] at hrest
  rw [← hrest.2] at hplain
  exact ⟨hplain line (List.mem_append_left _ hline),
    noDirection_videoLines e s.free s.valid s.profile line hline⟩

/-- The text, taken apart at the version. -/
theorem replaceOrigin_text (s : LocalSdp e c codec) (version : UInt32) :
    replaceOrigin c version s.text = some (s.redirect version s.send s.receive).text := by
  have hlines : ∀ t : LocalSdp e c codec, t.lines =
      sessionLines { c with sdpSessionVersion := t.version } t.localIp ++ (t.front.flatten ++
        videoLines e codec t.localIp t.capability ++
          ("a=".toList ++ (videoDirection t.send t.receive).toList) :: t.behind.flatten) := by
    intro t
    simp only [lines, List.append_assoc]
  rw [text, text, hlines, hlines]
  exact replaceOrigin_eq c s.version version s.free _

theorem buildVideoDirectionOffer_eq (s : LocalSdp e c codec) (enabled : Bool) (version : UInt32) :
    buildVideoDirectionOffer c s.text enabled version =
      (replaceDirection (requestedDirection enabled c.video.receiveEnabled)
        (s.redirect version s.send s.receive).text).getD [] := by
  rw [buildVideoDirectionOffer, if_neg s.text_ne_nil, s.replaceOrigin_text]
  rfl

/-- The first direction attribute behind the key is the one of the video section. -/
theorem reoffer_eq {s : LocalSdp e c codec} (h : s.Unambiguous) (enabled : Bool)
    (version : UInt32) :
    buildVideoDirectionOffer c s.text enabled version =
      (s.redirect version enabled c.video.receiveEnabled).text := by
  obtain ⟨dir, hdir, hdirection, -⟩ := requestedDirection_eq s.send s.receive
  have hlines : ∀ send receive, (s.redirect version send receive).text =
      sdpText (sessionLines { c with sdpSessionVersion := version } s.localIp ++ s.front.flatten ++
        mediaHead "video" e.videoRtpPort.toNat (decimal s.capability.payloadType) ::
          (s.videoRest ++ requestedDirection send receive :: s.behind.flatten)) := by
    intro send receive
    simp only [text, lines, redirect, videoLines_eq, requestedDirection, List.append_assoc,
      List.cons_append]
  have hbefore : ∀ line ∈ sessionLines { c with sdpSessionVersion := version } s.localIp ++
      s.front.flatten, ¬"m=video ".toList <:+: line := by
    intro line hline
    rcases List.mem_append.mp hline with hline | hline
    · exact (plain_sessionLines _ s.free line hline).not_key
    · obtain ⟨part, hpart, hline⟩ := List.mem_flatten.mp hline
      exact h part hpart line hline
  have hbehind := media_flatten fun part hpart => s.others part (List.mem_append_right _ hpart)
  have hkey : Search.find "m=video ".toList (mediaHead "video" e.videoRtpPort.toNat
      (decimal s.capability.payloadType)) = some 0 := Search.find_prefix (key_mediaHead _ _)
  rw [buildVideoDirectionOffer_eq, hlines, hlines, hdirection,
    replaceDirection_eq hbefore hkey (closed_mediaHead (by decide) _ (free_decimal _))
      s.videoRest_plain hdir hbehind, if_neg (not_zero_mediaHead s.port _)]
  rfl

/-- A section with the key that is not the video section is a rejected one. -/
theorem exists_first_of_not_unambiguous {s : LocalSdp e c codec} (h : ¬s.Unambiguous) :
    ∃ front head rest, s.front = front ++ [head, "a=inactive".toList] :: rest ∧
      (∀ part ∈ front, ∀ line ∈ part, ¬"m=video ".toList <:+: line) ∧
      "m=video ".toList <:+: head ∧ ¬['\r', '\n'] <:+: head := by
  classical
  have hsome : (s.front.find? fun part =>
      decide (∃ line ∈ part, "m=video ".toList <:+: line)).isSome = true := by
    rw [List.find?_isSome]
    simp only [Unambiguous, not_forall, not_not] at h
    obtain ⟨part, hpart, line, hline, hkey⟩ := h
    exact ⟨part, hpart, decide_eq_true ⟨line, hline, hkey⟩⟩
  obtain ⟨part, hpart⟩ := Option.isSome_iff_exists.mp hsome
  obtain ⟨hin, front, rest, hfront, hnone⟩ := List.find?_eq_some_iff_append.mp hpart
  obtain ⟨line, hline, hkey⟩ := of_decide_eq_true hin
  clear hin
  have hother := s.others part (List.mem_append_left _ (by rw [hfront]; simp))
  cases hother with
  | audio hpayloads hsection =>
    obtain ⟨_, rfl, hplain⟩ := hsection
    rcases List.mem_cons.mp hline with rfl | hline
    · exact absurd hkey (not_key_mediaHead _ hpayloads)
    · exact absurd hkey (hplain line hline).not_key
  | rejected hmedia hgrammatical hclosed =>
    refine ⟨front, _, rest, hfront, ?_, ?_, closed_rejectedHead hgrammatical hclosed⟩
    · intro part hpart line hline hkey
      have := hnone part hpart
      simp only [Bool.not_eq_true', decide_eq_false_iff_not] at this
      exact this ⟨line, hline, hkey⟩
    · rcases List.mem_cons.mp hline with rfl | hline
      · exact hkey
      · rw [List.mem_singleton.mp hline] at hkey
        exact absurd hkey (by simp [List.infix_cons_iff])

/-- Otherwise the edit is made in the first section with the key in it, or there is none. -/
theorem reoffer_ne {s : LocalSdp e c codec} (h : ¬s.Unambiguous) (version : UInt32)
    (send receive : Bool) :
    buildVideoDirectionOffer c s.text true version ≠ (s.redirect version send receive).text := by
  -- The first section with the key in it is not the video section.
  obtain ⟨front, head, rest, hfront, hnone, hkey, hclosed⟩ := exists_first_of_not_unambiguous h
  obtain ⟨n, hn⟩ : ∃ n, Search.find "m=video ".toList head = some n := by
    rw [← Option.isSome_iff_exists, Option.isSome_iff_ne_none, Ne,
      Search.find_eq_none_iff (by decide)]
    exact not_not.mpr hkey
  let behind : Bool → Bool → List Text := fun send receive => rest.flatten ++
    videoLines e codec s.localIp s.capability ++ requestedDirection send receive ::
      s.behind.flatten
  -- Both texts start with the same lines up to that section.
  have hlines : ∀ send receive, (s.redirect version send receive).text =
      sdpText (sessionLines { c with sdpSessionVersion := version } s.localIp ++ front.flatten ++
        head :: ([] ++ "a=inactive".toList :: behind send receive)) := by
    intro send receive
    simp only [text, lines, redirect, hfront, behind, requestedDirection, List.append_assoc,
      List.cons_append, List.flatten_append, List.flatten_cons, List.nil_append]
  have hbefore : ∀ line ∈ sessionLines { c with sdpSessionVersion := version } s.localIp ++
      front.flatten, ¬"m=video ".toList <:+: line := by
    intro line hline
    rcases List.mem_append.mp hline with hline | hline
    · exact (plain_sessionLines _ s.free line hline).not_key
    · obtain ⟨part, hpart, hline⟩ := List.mem_flatten.mp hline
      exact hnone part hpart line hline
  have hbehind : ∀ line ∈ (behind s.send s.receive).head?, startsWith line "m=" = true := by
    have hrest := @media_flatten rest fun part hpart =>
      s.others part (List.mem_append_left _ (by rw [hfront]; simp [hpart]))
    intro line hline
    simp only [behind, List.append_assoc] at hline
    cases hflat : rest.flatten with
    | nil =>
      rw [hflat, videoLines_eq] at hline
      rw [← Option.some.inj hline]
      rfl
    | cons first more =>
      rw [hflat] at hline hrest
      exact hrest line hline
  -- The edit is made in there, or not at all.
  rw [buildVideoDirectionOffer_eq, hlines, replaceDirection_eq hbefore hn hclosed
    (List.forall_mem_nil _) (by decide) hbehind]
  split
  · exact fun heq => (s.redirect version send receive).text_ne_nil heq.symm
  · rw [hlines, Option.getD_some]
    intro heq
    simp only [sdpText, Search.unlines_append, List.append_cancel_left_eq, Search.unlines_cons,
      List.nil_append] at heq
    -- so the line behind it is a=inactive on one side and another direction on the other
    obtain ⟨t, ht⟩ : ∃ t, requestedDirection true c.video.receiveEnabled = "a=s".toList ++ t := by
      cases c.video.receiveEnabled <;> exact ⟨_, rfl⟩
    rw [ht] at heq
    simp at heq

/-- Another direction does not change the media lines. -/
theorem mediaLines_text (s : LocalSdp e c codec) : mediaLines s.text =
    mediaOf s.front.flatten ++ mediaOf (videoLines e codec s.localIp s.capability) ++
      mediaOf s.behind.flatten := by
  obtain ⟨dir, hdir, hdirection, -⟩ := requestedDirection_eq s.send s.receive
  have hplain := plain_of_mem_directions hdir
  rw [← hdirection] at hplain
  have hsession := plain_sessionLines { c with sdpSessionVersion := s.version } s.free
  have hother : ∀ line ∈ (s.front ++ s.behind).flatten, ¬['\r', '\n'] <:+: line := by
    intro line hline
    obtain ⟨part, hpart, hline⟩ := List.mem_flatten.mp hline
    obtain ⟨head, hsection⟩ := (s.others part hpart).mediaSection
    exact hsection.closed line hline
  rw [List.flatten_append, List.forall_mem_append] at hother
  have hclosed : ∀ line ∈ s.lines, ¬['\r', '\n'] <:+: line := by
    simp only [lines, videoLines_eq, List.forall_mem_append, List.forall_mem_cons]
    exact ⟨⟨⟨fun line hline => (hsession line hline).closed, hother.1⟩,
      closed_mediaHead (by decide) _ (free_decimal _), fun line hline =>
        (s.videoRest_plain line hline).1.closed⟩, hplain.closed, hother.2⟩
  rw [mediaLines, text, sdpLines, sdpText, Search.lines_unlines (by decide) hclosed, lines,
    mediaOf_append, mediaOf_append, mediaOf_append, mediaOf_plain hsession, List.nil_append,
    mediaOf, mediaOf, mediaOf, mediaOf, List.filter_cons_of_neg]
  rw [← requestedDirection, hplain.not_media]
  decide

/-- A re-offer is the confirmed SDP but for its version and for the direction of the video section,
    with the same media lines, just if no line in front of the video section has the key of one in
    it. -/
theorem reoffer_changes_only_iff (s : LocalSdp e c codec) :
    (∀ (enabled : Bool) (version : UInt32),
      let offer := buildVideoDirectionOffer c s.text enabled version
      offer ≠ [] ∧ mediaLines offer = mediaLines s.text ∧
        ∃ send receive, offer = (s.redirect version send receive).text) ↔ s.Unambiguous := by
  constructor
  · intro hall
    refine Classical.byContradiction fun h => ?_
    obtain ⟨-, -, send, receive, heq⟩ := hall true 0
    exact reoffer_ne h 0 send receive heq
  · intro h enabled version
    have heq := reoffer_eq h enabled version
    refine ⟨?_, ?_, enabled, _, heq⟩
    · rw [heq]
      exact text_ne_nil _
    · rw [heq, mediaLines_text, mediaLines_text]
      rfl

end LocalSdp

/-! ## The SDPs that are confirmed -/

variable {e : SdpEndpoint} {c : SdpContext} {codec : VideoCodec}

/-- No line is both an audio line and a video line. -/
theorem audioIndex_ne_videoIndex {media : List Text} {k : Nat} (h : videoIndex media = some k) :
    audioIndex media ≠ some k := by
  intro haudio
  have hvideo := List.of_findIdx?_eq_some h
  have haudio := List.of_findIdx?_eq_some haudio
  cases hline : media[k]? with
  | none =>
    rw [hline] at hvideo
    exact Bool.false_ne_true hvideo
  | some line =>
    rw [hline] at hvideo haudio
    have hv := List.isPrefixOf_iff_prefix.mp (startsWith_of_parseVideoMediaLine hvideo)
    have ha := List.isPrefixOf_iff_prefix.mp (startsWith_of_parseAudioMediaLine haudio)
    rcases List.prefix_or_prefix_of_prefix hv ha with h | h
    · exact absurd h (by simp)
    · exact absurd h (by simp)

/-- The section for a media line that is not the video line. -/
theorem otherSection_answerPart {lines : AudioLines} (hlines : lines.Plain)
    {shape : RemoteMediaShape} (video : List Text) {line : Text} {i : Nat}
    (hi : shape.videoIndex ≠ some i) (hmedia : startsWith line "m=" = true)
    (hgrammatical : grammatical line = true) (hclosed : ¬['\r', '\n'] <:+: line) :
    OtherSection (answerPart shape (answerAudio e c lines) video i line) := by
  rw [answerPart]
  split
  · exact .audio (free_payloadList _) (section_answerAudio e c hlines)
  · rw [if_neg fun h => hi h.1]
    exact .rejected hmedia hgrammatical hclosed

/-- An answer in which video is agreed. -/
theorem exists_localSdp_of_accepted {sdp : Text} {remoteIp : UInt32} {lines : AudioLines} {k : Nat}
    (h : Accepted e c sdp remoteIp lines) (hcodec : e.videoCodec = some codec)
    (hport : e.videoRtpPort ≠ 0) (hrefer : c.referContextActive = false)
    (hsource : ¬(e.videoSource = none ∧ e.videoSink = none))
    (hnegotiated : c.video.negotiated = true) (hvalid : c.video.capability.valid codec = true)
    (hk : videoIndex (mediaLines sdp) = some k) :
    ∃ s : LocalSdp e c codec, s.text = buildSdpAnswer e c remoteIp ∧ s.front =
      ((mediaLines sdp).take k).zipIdx.map fun l => answerPart c.negotiation.mediaShape
        (answerAudio e c lines) (videoPart e c (ipText (e.localIp remoteIp)) true) l.2 l.1 := by
  -- The video part is the agreed section with its direction.
  have hpart : videoPart e c (ipText (e.localIp remoteIp)) true =
      videoLines e codec (ipText (e.localIp remoteIp)) c.video.capability ++
        ["a=".toList ++ (videoDirection c.video.sendEnabled c.video.receiveEnabled).toList] := by
    simp only [videoPart, hcodec, videoSection]
    rw [if_neg fun hnot => hnot.elim (by simp [hrefer]) hsource, if_neg (by simp [hnegotiated])]
    simp [hvalid]
  generalize hvideo : videoPart e c (ipText (e.localIp remoteIp)) true = video at hpart ⊢
  have hne : video ≠ [] := by
    rw [hpart]
    exact List.cons_ne_nil _ _
  have hindex : c.negotiation.mediaShape.videoIndex = some k := by
    rw [h.shape.video, hcodec]
    exact hk
  have hlt : k < (mediaLines sdp).length := (List.findIdx?_eq_some_iff_getElem.mp hk).1
  -- Every other section of the answer stays clear of the key.
  have hothers : ∀ i line, line ∈ mediaLines sdp → i ≠ k →
      OtherSection (answerPart c.negotiation.mediaShape (answerAudio e c lines) video i line) := by
    intro i line hline hi
    obtain ⟨hmedia, hgrammatical⟩ := h.media line hline
    refine otherSection_answerPart (plain_answerLines h.answered) video ?_ hmedia hgrammatical
      (Search.not_infix_of_mem_lines (List.mem_filter.mp hline).1)
    rw [hindex]
    exact fun heq => hi (Option.some.inj heq).symm
  have hkth : answerPart c.negotiation.mediaShape (answerAudio e c lines) video k
      ((mediaLines sdp)[k]) = video := by
    rw [answerPart, if_neg (by rw [h.shape.audio]; exact audioIndex_ne_videoIndex hk),
      if_pos ⟨hindex, hne⟩]
  -- The answer splits at the video section.
  have hsplit : (mediaLines sdp).zipIdx = ((mediaLines sdp).take k).zipIdx ++
      ((mediaLines sdp)[k], k) :: ((mediaLines sdp).drop (k + 1)).zipIdx (k + 1) := by
    have hwhole : mediaLines sdp = (mediaLines sdp).take k ++
        (mediaLines sdp)[k] :: (mediaLines sdp).drop (k + 1) := by
      rw [← List.drop_eq_getElem_cons hlt, List.take_append_drop]
    have hzip := congrArg (fun l => List.zipIdx l) hwhole
    simp only [List.zipIdx_append, List.zipIdx_cons, List.length_take,
      Nat.min_eq_left (Nat.le_of_lt hlt), Nat.zero_add] at hzip
    exact hzip
  refine ⟨{
    version := c.sdpSessionVersion
    localIp := ipText (e.localIp remoteIp)
    front := ((mediaLines sdp).take k).zipIdx.map fun l => answerPart c.negotiation.mediaShape
      (answerAudio e c lines) video l.2 l.1
    capability := c.video.capability
    send := c.video.sendEnabled
    receive := c.video.receiveEnabled
    behind := (((mediaLines sdp).drop (k + 1)).zipIdx (k + 1)).map fun l =>
      answerPart c.negotiation.mediaShape (answerAudio e c lines) video l.2 l.1
    free := free_ipText _
    others := ?_
    valid := hvalid
    profile := fun h264 => h.profile hrefer (by rw [hcodec, h264])
    port := hport }, ?_, rfl⟩
  · simp only [List.forall_mem_append, List.forall_mem_map]
    constructor
    · rintro ⟨line, i⟩ hl
      have hline := List.mk_mem_zipIdx_iff_getElem?.mp hl
      have hi := (List.getElem?_eq_some_iff.mp hline).1
      rw [List.length_take] at hi
      exact hothers i line (List.mem_of_mem_take (List.mem_of_getElem? hline)) (by omega)
    · rintro ⟨line, i⟩ hl
      obtain ⟨hi, hline⟩ := List.mk_mem_zipIdx_iff_le_and_getElem?_sub.mp hl
      exact hothers i line (List.mem_of_mem_drop (List.mem_of_getElem? hline)) (by omega)
  · have hmiddle : ∀ rest, video ++ rest =
        videoLines e codec (ipText (e.localIp remoteIp)) c.video.capability ++
          ("a=".toList ++ (videoDirection c.video.sendEnabled c.video.receiveEnabled).toList) ::
            rest := by
      intro rest
      rw [hpart, List.append_assoc, List.singleton_append]
    rw [h.text, hvideo, hsplit, List.flatMap_append, List.flatMap_cons, hkth, hmiddle]
    simp only [LocalSdp.text, LocalSdp.lines, List.flatMap_def, List.append_assoc]

/-- Video that has been agreed is in the section of the first video line. -/
theorem video_of_learn {sdp : Text} {defaultIp : UInt32} {n : Negotiation} {v : VideoNegotiation}
    (hcodec : e.videoCodec = some codec) (hrefer : c.referContextActive = false)
    (hnegotiated : v.negotiated = true) (h : learn e c sdp defaultIp false = (true, n, v)) :
    (∃ k, videoIndex (mediaLines sdp) = some k) ∧
      ¬(e.videoSource = none ∧ e.videoSink = none) := by
  obtain ⟨-, -, hv⟩ := learn_iff.mp h
  rw [learntVideo, hcodec, hrefer] at hv
  simp only [Bool.false_eq_true, if_false] at hv
  obtain ⟨terms, hterms, hlearnt | ⟨pt, hpt, hlearnt⟩⟩ :=
    learnVideo_cases e codec c.videoSendRequested (sdpLines sdp) defaultIp false
  · rw [hlearnt] at hv
    rw [hv] at hnegotiated
    cases hnegotiated
  · constructor
    · have hoffered : (scanVideo e codec (sdpLines sdp) defaultIp).offered = true := by
        rw [← Bool.not_eq_false]
        intro hno
        rw [learnVideo] at hlearnt
        simp only [hno, true_or, if_true] at hlearnt
        cases congrArg (fun r => r.2.negotiated) hlearnt
      rwa [← Option.isSome_iff_exists, mediaLines, isSome_videoIndex_mediaOf,
        ← offered_scanVideo e codec _ defaultIp]
    · rintro ⟨hsource, hsink⟩
      rcases terms.compatible_of_takes (takes_of_taken hpt) with hs | hs
      · simp [VideoTerms.sendCompatible, hterms, hsource] at hs
      · simp [VideoTerms.receiveCompatible, hterms, hsink] at hs

/-- The answer to an accepted offer, if video has been agreed. -/
theorem exists_localSdp_answer {sdp : Text} {defaultIp remoteIp : UInt32} {n : Negotiation}
    {v : VideoNegotiation} (hformats : ∀ format ∈ c.offerTxFormats, format.isValid = true)
    (hgrammatical : ∀ line ∈ mediaLines sdp, grammatical line = true)
    (hcodec : e.videoCodec = some codec) (hport : e.videoRtpPort ≠ 0)
    (hrefer : c.referContextActive = false) (hnegotiated : v.negotiated = true)
    (hvalid : v.capability.valid codec = true)
    (h : learn e c sdp defaultIp false = (true, n, v)) :
    ∃ s : LocalSdp e { c with negotiation := n, video := v } codec,
      s.text = buildSdpAnswer e { c with negotiation := n, video := v } remoteIp := by
  obtain ⟨lines, haccepted⟩ := accepted_of_learn hformats hgrammatical h remoteIp
  obtain ⟨⟨k, hk⟩, hsource⟩ := video_of_learn hcodec hrefer hnegotiated h
  obtain ⟨s, htext, -⟩ := exists_localSdp_of_accepted haccepted hcodec hport hrefer hsource
    hnegotiated hvalid hk
  exact ⟨s, htext⟩

theorem free_profile_localVideoCapability (e : SdpEndpoint) {source : Option VideoCapability}
    (h : ∀ capability ∈ source, Free capability.profileLevelId.toList) :
    Free (localVideoCapability e codec source).profileLevelId.toList := by
  cases source with
  | none => exact free_nil
  | some capability =>
    rw [localVideoCapability]
    split
    · exact free_nil
    · exact h capability rfl

/-- The video section of an offer has one of the local capabilities. -/
theorem videoSection_offer {localIp : Text} (h : videoSection e codec c localIp false ≠ []) :
    ∃ capability send receive, capability.valid codec = true ∧
      (capability = localVideoReceiveCapability e codec ∨
        capability = localVideoSendCapability e codec) ∧
      videoSection e codec c localIp false = videoLines e codec localIp capability ++
        ["a=".toList ++ (videoDirection send receive).toList] := by
  unfold videoSection at h ⊢
  simp only [Bool.false_eq_true, false_and, if_false] at h ⊢
  split at h
  · exact absurd rfl h
  · rename_i hsource
    rw [if_neg hsource]
    have hlocal : ∀ receives : Bool,
        (if receives = true then localVideoReceiveCapability e codec
          else localVideoSendCapability e codec) = localVideoReceiveCapability e codec ∨
        (if receives = true then localVideoReceiveCapability e codec
          else localVideoSendCapability e codec) = localVideoSendCapability e codec := by
      intro receives
      cases receives
      · exact .inr rfl
      · exact .inl rfl
    have hlocal := hlocal (e.videoSink.isSome && (localVideoReceiveCapability e codec).valid codec)
    generalize (if (e.videoSink.isSome && (localVideoReceiveCapability e codec).valid codec) = true
      then localVideoReceiveCapability e codec
      else localVideoSendCapability e codec) = capability at h hlocal ⊢
    split at h
    · exact absurd rfl h
    · rename_i hvalid
      rw [if_neg hvalid]
      split at h
      · exact absurd rfl h
      · rename_i hsome
        rw [if_neg hsome]
        exact ⟨_, _, _, eq_true_of_ne_false hvalid, hlocal, rfl⟩

/-- An offer with video has no other section but the audio section. -/
theorem exists_localSdp_offer {remoteIp : UInt32} (hcodec : e.videoCodec = some codec)
    (hport : e.videoRtpPort ≠ 0)
    (hsource : ∀ capability ∈ e.videoSource, Free capability.profileLevelId.toList)
    (hsink : ∀ capability ∈ e.videoSink, Free capability.profileLevelId.toList)
    (hvideo : videoSection e codec c (ipText (e.localIp remoteIp)) false ≠ [])
    (hoffer : (buildSdpOffer e c remoteIp).1 ≠ []) :
    ∃ s : LocalSdp e c codec, s.text = (buildSdpOffer e c remoteIp).1 ∧ s.Unambiguous := by
  -- The one section before the video section is the audio section of an offer.
  have haudio := section_audioSection e (plain_offered e c) (offerPtime e c)
    (free_audioDirectionAttribute (c.offerTxFormats != []) (c.offerRxFormats != []))
  obtain ⟨capability, send, receive, hvalid, hlocal, hlines⟩ := videoSection_offer hvideo
  have hprofile : Free capability.profileLevelId.toList := by
    rcases hlocal with rfl | rfl
    · exact free_profile_localVideoCapability e hsink
    · exact free_profile_localVideoCapability e hsource
  refine ⟨{
    version := c.sdpSessionVersion
    localIp := ipText (e.localIp remoteIp)
    front := [audioSection e (offered e c).lines (offerPtime e c)
      (audioDirectionAttribute (c.offerTxFormats != []) (c.offerRxFormats != []))]
    capability, send, receive
    behind := []
    free := free_ipText _
    others := ?_
    valid := hvalid
    profile := fun _ => hprofile
    port := hport }, ?_, ?_⟩
  · -- It is an audio section.
    intro part hpart
    rw [List.append_nil, List.mem_singleton] at hpart
    rw [hpart]
    exact .audio (free_payloadList _) haudio
  · -- The text is that of the offer, past its two exits.
    rw [buildSdpOffer] at hoffer ⊢
    split at hoffer
    · exact absurd rfl hoffer
    · rename_i hptime
      rw [if_neg hptime]
      dsimp only at hoffer ⊢
      split at hoffer
      · exact absurd rfl hoffer
      · rename_i hsome
        rw [if_neg hsome, appendVideoSdp, hcodec]
        simp only [hlines, LocalSdp.text, LocalSdp.lines, wrapSdpEnvelope, sdpText,
          Search.unlines_append, List.flatten_cons, List.flatten_nil, List.append_nil,
          List.append_assoc]
  · -- None of its lines holds the key.
    intro part hpart
    rw [List.mem_singleton.mp hpart]
    intro line hline hkey
    obtain ⟨_, hsection, hplain⟩ := haudio
    rw [hsection] at hline
    rcases List.mem_cons.mp hline with rfl | hline
    · exact not_key_mediaHead _ (free_payloadList _) hkey
    · exact (hplain line hline).not_key hkey

namespace SecondVideo

def capability : VideoCapability where
  width := 320
  height := 240
  maxFps := 15
  encoding := "H264"
  profileLevelId := "42e01f"

/-- A camera and a display with H.264. -/
def endpoint : SdpEndpoint where
  videoCodec := some .h264
  videoSource := some capability
  videoSink := some capability

/-- An offer with a video section that is not supported in front of one that is. -/
def offer : Text :=
  "v=0\r\nm=audio 4000 RTP/AVP 96\r\na=rtpmap:96 L16/16000/1\r\n".toList ++
    "m=video 5000 RTP/SAVP 97\r\nm=video 5002 RTP/AVP 103\r\n".toList ++
    "a=rtpmap:103 H264/90000\r\n".toList ++
    "a=fmtp:103 packetization-mode=1;profile-level-id=42e01f\r\na=sendonly\r\n".toList

/-- The dialog once the offer has been accepted. -/
def context : SdpContext :=
  { ThreeSections.context with
    negotiation := (learn endpoint ThreeSections.context offer 1 false).2.1
    video := (learn endpoint ThreeSections.context offer 1 false).2.2 }

/-- Video is agreed and the answer is written, but no offer of another direction can be. -/
theorem reoffer_is_empty :
    (learn endpoint ThreeSections.context offer 1 false).1 = true ∧
      context.video.negotiated = true ∧ buildSdpAnswer endpoint context 1 ≠ [] ∧
      buildVideoDirectionOffer context (buildSdpAnswer endpoint context 1) true 2 = [] := by
  decide +kernel

end SecondVideo

end Sdp

end EsphomeVoip
