import EsphomeVoip.Sdp.Agreed
import EsphomeVoip.Sdp.Reoffer

/-! # The texts of an offer and of its answer (`build_sdp_offer_`, `build_sdp_answer_`)

The audio section is the first one of an offer, and so it is of the answer.  The attribute of the
directional extension is in a text only if an entry has it. -/

namespace EsphomeVoip

namespace Sdp

/-! ## The attribute of the extension -/

/-- What the key of a flow begins with is not in the line. -/
def NoFlow (line : Text) : Prop := ¬['a', '=', 'x'] <:+: line

/-- Only the first two characters of these lines can begin the key. -/
theorem noFlow_of_head {key t : Text} (hkey : ¬['a', '='] <:+: key.tail) (hne : key ≠ [])
    (hhead : ¬['a', '=', 'x'] <+: key ++ t) (ht : ¬['a', '='] <:+: t)
    (hjoin : t.head? ≠ some '=') : NoFlow (key ++ t) := by
  intro hin
  have hpair : ['a', '='] <+: ['a', '=', 'x'] := ⟨_, rfl⟩
  cases key with
  | nil => exact hne rfl
  | cons c key =>
    rw [List.cons_append, List.infix_cons_iff] at hin
    rcases hin with hin | hin
    · exact hhead hin
    · exact Search.not_pair_append hkey ht hjoin (hpair.isInfix.trans hin)

theorem noFlow_of_free {key t : Text} (hkey : ¬['a', '='] <:+: key.tail) (hne : key ≠ [])
    (hhead : ¬['a', '=', 'x'] <+: key ++ t) (ht : Free t) : NoFlow (key ++ t) :=
  noFlow_of_head hkey hne hhead (Search.not_pair_of_not_mem ht.key) fun h =>
    ht.key (List.mem_of_head? h)

theorem noFlow_sessionLines (c : SdpContext) {localIp : Text} (hip : Free localIp) :
    ∀ line ∈ sessionLines c localIp, NoFlow line := by
  unfold sessionLines
  simp only [List.forall_mem_cons, List.append_assoc]
  refine ⟨by simp [NoFlow, List.infix_cons_iff], ?_, by simp [NoFlow, List.infix_cons_iff], ?_,
    by simp [NoFlow, List.infix_cons_iff], fun _ h => absurd h List.not_mem_nil⟩
  · refine noFlow_of_free (by simp [List.infix_cons_iff]) (by simp) (by simp) ?_
    simp only [free_append, free_decimal, true_and]
    exact ⟨by decide, by decide, hip⟩
  · exact noFlow_of_free (by simp [List.infix_cons_iff]) (by simp) (by simp) hip

theorem noFlow_mediaHead {kind : String} (hkind : Free kind.toList) (port : Nat)
    {payloads : Text} (h : Free payloads) : NoFlow (mediaHead kind port payloads) := by
  unfold mediaHead
  simp only [List.append_assoc]
  refine noFlow_of_free (by simp [List.infix_cons_iff]) (by simp) (by simp) ?_
  simp only [free_append, free_decimal, true_and]
  exact ⟨hkind, by decide, by decide, h⟩

theorem noFlow_rtpmap (entry : AudioEntry) : NoFlow entry.rtpmap := by
  unfold AudioEntry.rtpmap audioRtpmap
  simp only [List.append_assoc]
  refine noFlow_of_free (by simp [List.infix_cons_iff]) (by simp) (by simp) ?_
  simp only [free_append, free_decimal, true_and, and_true]
  exact ⟨by decide, by split <;> decide, by decide, by decide⟩

/-- The parameters have keys of their own, none of which ends in the letter of the key. -/
theorem noFlow_fmtp (pt : Nat) {profile extra : Text} (h : Free profile)
    (hextra : ¬['a', '='] <:+: extra) (hjoin : extra.head? ≠ some '=') :
    NoFlow ("a=fmtp:".toList ++ (decimal pt ++
      (" packetization-mode=1;profile-level-id=".toList ++ (profile ++ extra)))) := by
  have hprofile : ¬['a', '='] <:+: profile ++ extra :=
    Search.not_pair_append (Search.not_pair_of_not_mem h.key) hextra hjoin
  have hparams : ¬['a', '='] <:+:
      " packetization-mode=1;profile-level-id=".toList ++ (profile ++ extra) :=
    Search.not_pair_append (by simp [List.infix_cons_iff]) hprofile (head_append h hjoin)
  refine noFlow_of_head (by simp [List.infix_cons_iff]) (by simp) (by simp) ?_ ?_
  · exact Search.not_pair_append (Search.not_pair_of_not_mem (free_decimal _).key) hparams (by simp)
  · exact head_append (free_decimal _) (by simp)

theorem noFlow_videoCodecLines {codec : VideoCodec} {capability : VideoCapability}
    (hprofile : codec = .h264 → Free capability.profileLevelId.toList) :
    ∀ line ∈ videoCodecLines codec capability, NoFlow line := by
  unfold videoCodecLines
  split
  · rename_i hcodec
    rw [List.forall_mem_cons, List.forall_mem_append]
    have hfeedback : ∀ t : Text, Free t → NoFlow ("a=rtcp-fb:".toList ++
        decimal capability.payloadType ++ t) := by
      intro t ht
      rw [List.append_assoc]
      exact noFlow_of_free (by simp [List.infix_cons_iff]) (by simp) (by simp)
        (free_append.mpr ⟨free_decimal _, ht⟩)
    refine ⟨?_, ?_, ?_⟩
    · simp only [List.append_assoc]
      refine noFlow_fmtp _ (hprofile hcodec.1) ?_ ?_ <;> split <;>
        simp [List.infix_cons_iff]
    · split
      · rw [List.forall_mem_singleton]
        exact hfeedback _ (by decide)
      · exact fun _ h => absurd h List.not_mem_nil
    · split
      · rw [List.forall_mem_singleton]
        exact hfeedback _ (by decide)
      · exact fun _ h => absurd h List.not_mem_nil
  · exact fun _ h => absurd h List.not_mem_nil

theorem noFlow_videoLines (e : SdpEndpoint) {codec : VideoCodec} {localIp : Text}
    (hip : Free localIp) {capability : VideoCapability} (hvalid : capability.valid codec = true)
    (hprofile : codec = .h264 → Free capability.profileLevelId.toList) :
    ∀ line ∈ videoLines e codec localIp capability, NoFlow line := by
  have hencoding := free_encoding_of_valid hvalid
  have hhead : NoFlow (mediaHead "video" e.videoRtpPort.toNat
      (decimal capability.payloadType)) :=
    noFlow_mediaHead (by decide) _ (free_decimal _)
  have none : ∀ line ∈ ([] : List Text), NoFlow line := fun _ h => absurd h List.not_mem_nil
  unfold videoLines
  simp only [List.cons_append, List.nil_append, List.forall_mem_cons, List.forall_mem_append]
  refine ⟨hhead, ?_, ⟨⟨?_, ?_, ?_, none⟩, noFlow_videoCodecLines hprofile⟩, ?_, none⟩
  · exact noFlow_of_free (by simp [List.infix_cons_iff]) (by simp) (by simp) hip
  · split
    · rw [List.forall_mem_singleton]
      exact noFlow_of_free (by simp [List.infix_cons_iff]) (by simp) (by simp) (free_decimal _)
    · exact none
  · simp only [List.append_assoc]
    refine noFlow_of_free (by simp [List.infix_cons_iff]) (by simp) (by simp) ?_
    simp only [free_append, free_decimal, true_and]
    exact ⟨by decide, hip⟩
  · simp only [List.append_assoc]
    refine noFlow_of_free (by simp [List.infix_cons_iff]) (by simp) (by simp) ?_
    simp only [free_append, free_decimal, true_and]
    exact ⟨by decide, hencoding, by decide⟩
  · exact noFlow_of_free (by simp [List.infix_cons_iff]) (by simp) (by simp) (free_decimal _)

theorem noFlow_videoDirection (send receive : Bool) :
    NoFlow ("a=".toList ++ (videoDirection send receive).toList) := by
  cases send <;> cases receive <;> simp [NoFlow, videoDirection, List.infix_cons_iff]

/-- The attribute is in no text whose lines do not have it. -/
theorem hasFlow_of_noFlow {lines : List Text} (h : ∀ line ∈ lines, NoFlow line) :
    hasFlow (sdpText lines) = false := by
  have hkey : ['a', '=', 'x'] <+: "a=x-voip-stack-flow:".toList :=
    ⟨"-voip-stack-flow:".toList, by simp⟩
  have hnone : Search.find "a=x-voip-stack-flow:".toList (sdpText lines) = none := by
    apply Search.find_none (by simp)
    exact Search.clear_unlines_of_absent (by simp)
      (fun line hline hin => h line hline (hkey.isInfix.trans hin)) []
  rw [hasFlow, hnone, Option.isSome_none]

/-- It is in every text that has the flow of an entry. -/
theorem hasFlow_of_entry {lines : List Text} (entry : AudioEntry) (h : entry.flowText ∈ lines) :
    hasFlow (sdpText lines) = true := by
  have hin : "a=x-voip-stack-flow:".toList <:+: sdpText lines := by
    obtain ⟨front, behind, rfl⟩ := List.append_of_mem h
    rw [sdpText, Search.unlines_append, Search.unlines_cons]
    refine List.IsInfix.trans ?_ (List.suffix_append _ _).isInfix
    refine List.IsInfix.trans ?_ (List.prefix_append _ _).isInfix
    unfold AudioEntry.flowText audioFlow
    simp only [List.append_assoc]
    exact (List.prefix_append _ _).isInfix
  rw [hasFlow, Option.isSome_iff_ne_none, Ne, Search.find_eq_none_iff (by simp)]
  exact fun hno => hno hin

/-! ## The offer -/

section Offer

variable {e : SdpEndpoint} {c : SdpContext} {remoteIp : UInt32}

/-- The video capabilities of an endpoint name profiles without line ends and keys. -/
structure FreeProfiles (e : SdpEndpoint) : Prop where
  source : ∀ capability ∈ e.videoSource, Free capability.profileLevelId.toList
  sink : ∀ capability ∈ e.videoSink, Free capability.profileLevelId.toList

/-- The video section of an offer, if there is one. -/
theorem videoPart_offer (h : FreeProfiles e) {localIp : Text} (hip : Free localIp) :
    videoPart e c localIp false = [] ∨
      ∃ payloads, Free payloads ∧
        Section (mediaHead "video" e.videoRtpPort.toNat payloads) (videoPart e c localIp false) ∧
        ∀ line ∈ videoPart e c localIp false, NoFlow line := by
  rw [videoPart]
  split
  · rename_i codec hcodec
    by_cases hnone : videoSection e codec c localIp false = []
    · exact .inl hnone
    · obtain ⟨capability, send, receive, hvalid, hlocal, hlines⟩ := videoSection_offer hnone
      have hprofile : Free capability.profileLevelId.toList := by
        rcases hlocal with rfl | rfl
        · exact free_profile_localVideoCapability e h.sink
        · exact free_profile_localVideoCapability e h.source
      refine .inr ⟨_, free_decimal capability.payloadType, ?_, ?_⟩
      · rw [hlines]
        exact section_videoLines e codec hip (free_encoding_of_valid hvalid) (fun _ => hprofile)
          send receive
      · rw [hlines]
        intro line hline
        rcases List.mem_append.mp hline with hline | hline
        · exact noFlow_videoLines e hip hvalid (fun _ => hprofile) line hline
        · rw [List.mem_singleton.mp hline]
          exact noFlow_videoDirection send receive
  · exact .inl rfl

/-- What an offer that can be built looks like. -/
structure OfferWritten (e : SdpEndpoint) (c : SdpContext) (remoteIp : UInt32) : Prop where
  ptime : offerPtime e c ∈ [10, 16, 20, 32]
  payloads : (offered e c).lines.payloads ≠ []
  remembered : (buildSdpOffer e c remoteIp).2 = rememberOffer c (offered e c)
  lines : sdpLines (buildSdpOffer e c remoteIp).1 =
    audioText e c (ipText (e.localIp remoteIp)) (offered e c).lines (offerPtime e c)
      (videoPart e c (ipText (e.localIp remoteIp)) false)
  text : (buildSdpOffer e c remoteIp).1 =
    sdpText (audioText e c (ipText (e.localIp remoteIp)) (offered e c).lines (offerPtime e c)
      (videoPart e c (ipText (e.localIp remoteIp)) false))

theorem offerPtime_mem (hrefer : c.referContextActive = false) (h : offerPtime e c ≠ 0) :
    offerPtime e c ∈ [10, 16, 20, 32] := by
  have hretained : retainedTx c = none := by
    rw [retainedTx, if_neg (by simp [hrefer])]
  rw [offerPtime, hretained] at h ⊢
  simp only [chooseCommonAudioPtime] at h ⊢
  generalize hfind : List.find? _ [10, 16, 20, 32] = found at h ⊢
  cases found with
  | none => exact absurd rfl h
  | some ptime => exact List.mem_of_find?_eq_some hfind

theorem offerWritten (hvideo : FreeProfiles e) (hrefer : c.referContextActive = false)
    (hsends : c.offerTxFormats ≠ []) (hreceives : c.offerRxFormats ≠ [])
    (h : (buildSdpOffer e c remoteIp).1 ≠ []) : OfferWritten e c remoteIp := by
  have hip := free_ipText (e.localIp remoteIp)
  -- The offer has come through both of its exits: a common ptime, and a payload type.
  have htext : offerPtime e c ≠ 0 ∧ (offered e c).lines.payloads ≠ [] ∧
      (buildSdpOffer e c remoteIp).2 = rememberOffer c (offered e c) ∧
      (buildSdpOffer e c remoteIp).1 = sdpText (audioText e c (ipText (e.localIp remoteIp))
        (offered e c).lines (offerPtime e c)
        (videoPart e c (ipText (e.localIp remoteIp)) false)) := by
    rw [buildSdpOffer] at h ⊢
    split at h
    · exact absurd rfl h
    · rename_i hptime
      rw [if_neg hptime]
      dsimp only at h ⊢
      split at h
      · exact absurd rfl h
      · rename_i hsome
        rw [if_neg hsome, not_or] at *
        have hdirection : audioDirectionAttribute (c.offerTxFormats != [])
          (c.offerRxFormats != []) =
            "sendrecv" := by
          rw [bne_iff_ne.mpr hsends, bne_iff_ne.mpr hreceives]
          rfl
        refine ⟨hptime, hsome.1, rfl, ?_⟩
        rw [appendVideoSdp_eq, hdirection, wrapSdpEnvelope]
        simp only [audioText, sdpText, Search.unlines_append, List.append_assoc]
  obtain ⟨hptime, hpayloads, hremembered, htext⟩ := htext
  -- No line holds a line end, so that the lines can be read back.
  have haudio : ∀ line ∈ audioSection e (offered e c).lines (offerPtime e c) "sendrecv",
      ¬['\r', '\n'] <:+: line :=
    ((section_audioSection e (plain_offered e c) _ (by decide)).mediaSection (by decide)
      (free_payloadList _)).closed
  have hclosed : ∀ line ∈ audioText e c (ipText (e.localIp remoteIp)) (offered e c).lines
      (offerPtime e c) (videoPart e c (ipText (e.localIp remoteIp)) false),
      ¬['\r', '\n'] <:+: line := by
    intro line hline
    rw [audioText] at hline
    rcases List.mem_append.mp hline with hline | hline
    · exact (plain_sessionLines c hip line hline).closed
    · rcases List.mem_append.mp hline with hline | hline
      · exact haudio line hline
      · -- the video part is empty or one section
        rcases videoPart_offer hvideo hip with hnil | ⟨payloads, hfree, hsection, -⟩
        · rw [hnil] at hline
          exact absurd hline List.not_mem_nil
        · exact (hsection.mediaSection (by decide) hfree).closed line hline
  refine ⟨offerPtime_mem hrefer hptime, hpayloads, hremembered, ?_, htext⟩
  rw [htext, sdpLines, sdpText, Search.lines_unlines (by decide) hclosed]

/-- What is behind the audio section of an offer begins with a media line. -/
theorem head_videoPart_offer (h : FreeProfiles e) {localIp : Text} (hip : Free localIp) :
    ∀ line ∈ (videoPart e c localIp false).head?, startsWith line "m=" = true := by
  rcases videoPart_offer (c := c) h hip with hnil | ⟨payloads, -, ⟨rest, hlines, -⟩, -⟩
  · rw [hnil]
    exact fun _ h => by cases h
  · rw [hlines]
    rintro line ⟨⟩
    simp [mediaHead, startsWith, List.isPrefixOf]

/-- An offer has the attribute of the extension if it is made for a peer with the extension. -/
theorem hasFlow_offer {entries : List AudioEntry} (hvideo : FreeProfiles e)
    (hwritten : OfferWritten e c remoteIp) (hne : entries ≠ [])
    (hnames : (offered e c).lines.Names c.peerDirectionalAudioV1 entries) :
    hasFlow (buildSdpOffer e c remoteIp).1 = c.peerDirectionalAudioV1 := by
  have hip := free_ipText (e.localIp remoteIp)
  rw [hwritten.text, audioText_eq hnames]
  cases hdirectional : c.peerDirectionalAudioV1 with
  | true =>
    cases entries with
    | nil => exact absurd rfl hne
    | cons entry entries =>
      apply hasFlow_of_entry entry
      rw [hnames.flows, hdirectional, if_pos rfl]
      simp
  | false =>
    apply hasFlow_of_noFlow
    rw [hnames.flows, hdirectional, if_neg (by decide)]
    intro line hline
    simp only [List.nil_append, List.mem_append, List.mem_cons, List.mem_map, List.not_mem_nil,
      or_false] at hline
    rcases hline with hline | rfl | ⟨entry, -, rfl⟩ | (rfl | rfl | rfl) | hline
    · exact noFlow_sessionLines c hip line hline
    · exact noFlow_mediaHead (by decide) _ (free_payloadList _)
    · exact noFlow_rtpmap entry
    · exact noFlow_of_free (by simp [List.infix_cons_iff]) (by simp) (by simp) (free_decimal _)
    · exact noFlow_of_free (by simp [List.infix_cons_iff]) (by simp) (by simp) (free_decimal _)
    · simp [NoFlow, List.infix_cons_iff]
    · rcases videoPart_offer hvideo hip with hnil | ⟨-, -, -, hflows⟩
      · rw [hnil] at hline
        exact absurd hline List.not_mem_nil
      · exact hflows line hline

/-- A media line of this program has all its fields. -/
theorem grammatical_mediaHead {kind : String} (hkind : ' ' ∉ kind.toList) (port : Nat)
    (payloads : Text) : grammatical (mediaHead kind port payloads) = true := by
  have hline : mediaHead kind port payloads =
      ("m=".toList ++ kind.toList) ++ ' ' ::
        (decimal port ++ (" RTP/AVP ".toList ++ payloads)) := by
    unfold mediaHead
    simp
  rw [grammatical, hline, cut_eq (by simpa using hkind)]
  simp [isSpace]

/-- The media lines of an offer: audio first. -/
theorem mediaLines_offer (hvideo : FreeProfiles e) (hwritten : OfferWritten e c remoteIp) :
    ∃ rest, mediaLines (buildSdpOffer e c remoteIp).1 =
        mediaHead "audio" e.rtpPort.toNat (payloadList (offered e c).lines.payloads) :: rest ∧
      ∀ line ∈ mediaLines (buildSdpOffer e c remoteIp).1, grammatical line = true := by
  have hip := free_ipText (e.localIp remoteIp)
  have haudio : mediaOf (audioSection e (offered e c).lines (offerPtime e c) "sendrecv") =
      [mediaHead "audio" e.rtpPort.toNat (payloadList (offered e c).lines.payloads)] :=
    ((section_audioSection e (plain_offered e c) _ (by decide)).mediaSection (by decide)
      (free_payloadList _)).media
  rw [mediaLines, hwritten.lines, audioText, mediaOf_append, mediaOf_append,
    mediaOf_plain (plain_sessionLines c hip), haudio]
  refine ⟨_, rfl, ?_⟩
  intro line hline
  rcases List.mem_cons.mp hline with rfl | hline
  · exact grammatical_mediaHead (by decide) _ _
  · rcases videoPart_offer (c := c) hvideo hip with hnil | ⟨payloads, hfree, hsection, -⟩
    · rw [hnil] at hline
      exact absurd hline List.not_mem_nil
    · have hmedia := (hsection.mediaSection (by decide) hfree).media
      have hsame : line = mediaHead "video" e.videoRtpPort.toNat payloads := by
        simpa [hmedia] using hline
      rw [hsame]
      exact grammatical_mediaHead (by decide) _ _

end Offer

/-! ## The answer -/

/-- What the answer to such an offer looks like. -/
structure AnswerWritten (e : SdpEndpoint) (c : SdpContext) (remoteIp : UInt32)
    (lines : AudioLines) (tail : List Text) : Prop where
  head : ∀ line ∈ tail.head?, startsWith line "m=" = true
  written : sdpLines (buildSdpAnswer e c remoteIp) =
    audioText e c (ipText (e.localIp remoteIp)) lines c.negotiation.selectedRx.frameMs tail
  text : buildSdpAnswer e c remoteIp = sdpText
    (audioText e c (ipText (e.localIp remoteIp)) lines c.negotiation.selectedRx.frameMs tail)

section Answer

variable {e : SdpEndpoint} {c : SdpContext} {remoteIp : UInt32} {sdp : Text} {lines : AudioLines}

/-- A rejected section and a section of this endpoint begin with their media lines. -/
theorem head_answerPart {localIp : Text} (hip : Free localIp) {shape : RemoteMediaShape}
    (hprofile : e.videoCodec = some .h264 → Free c.video.capability.profileLevelId.toList)
    (audio : List Text) {line : Text} {i : Nat} (hi : shape.audioIndex ≠ some i)
    (hmedia : startsWith line "m=" = true) (hgrammatical : grammatical line = true) :
    ∃ head rest, answerPart shape audio (videoPart e c localIp true) i line = head :: rest ∧
      startsWith head "m=" = true := by
  rw [answerPart, if_neg hi]
  split
  · rename_i hvideo
    obtain ⟨-, hne⟩ := hvideo
    rw [videoPart] at hne ⊢
    split at hne
    · rename_i codec hcodec
      rcases videoSection_answer e codec c hip (fun h => hprofile (h ▸ hcodec)) with
        h | ⟨port, ⟨rest, hlines, -⟩, -⟩
      · exact absurd h hne
      · refine ⟨_, rest, hlines, ?_⟩
        simp [mediaHead, startsWith, List.isPrefixOf]
    · exact absurd rfl hne
  · exact ⟨_, _, rfl, (mediaType_rejectedHead hmedia hgrammatical).1⟩

/-- The answer to an offer whose first media line is the audio line. -/
theorem answerWritten {head : Text} {rest : List Text} (h : Accepted e c sdp remoteIp lines)
    (hmedia : mediaLines sdp = head :: rest) (hread : (parseAudioMediaLine head).isSome = true)
    (hrefer : c.referContextActive = false)
    (hsends : c.negotiation.selectedTx.isValid = true)
    (hreceives : c.negotiation.selectedRx.isValid = true) :
    ∃ tail, AnswerWritten e c remoteIp lines tail := by
  have hip := free_ipText (e.localIp remoteIp)
  have haudio : audioIndex (mediaLines sdp) = some 0 := by
    rw [hmedia, audioIndex, List.findIdx?_cons, hread, if_pos rfl]
  have hindex := h.shape.audio.trans haudio
  have hanswer : answerAudio e c lines =
      audioSection e lines c.negotiation.selectedRx.frameMs "sendrecv" := by
    rw [answerAudio]
    simp only [hsends, hreceives, if_true]
    rfl
  have hfirst : ∀ audio video, answerPart c.negotiation.mediaShape audio video 0 head = audio := by
    intro audio video
    rw [answerPart, if_pos hindex]
  obtain ⟨tail, htail⟩ : ∃ tail, tail = (rest.zipIdx 1).flatMap fun l =>
      answerPart c.negotiation.mediaShape (answerAudio e c lines)
        (videoPart e c (ipText (e.localIp remoteIp)) true) l.2 l.1 := ⟨_, rfl⟩
  have htext : buildSdpAnswer e c remoteIp = sdpText
      (audioText e c (ipText (e.localIp remoteIp)) lines c.negotiation.selectedRx.frameMs
        tail) := by
    rw [h.text, hmedia, List.zipIdx_cons, List.flatMap_cons, hfirst, audioText, htail, hanswer]
  have hgrammatical : ∀ line ∈ rest, startsWith line "m=" = true ∧ grammatical line = true := by
    have := h.media
    rw [hmedia, List.forall_mem_cons] at this
    exact this.2
  have hhead : ∀ line ∈ tail.head?, startsWith line "m=" = true := by
    rw [htail]
    cases hrest : rest with
    | nil => exact fun _ h => by cases h
    | cons line rest =>
      obtain ⟨hline, hlineGrammatical⟩ :=
        hgrammatical line (by rw [hrest]; exact List.mem_cons_self)
      obtain ⟨first, others, hpart, hfirst⟩ := head_answerPart hip (h.profile hrefer)
        (answerAudio e c lines) (show c.negotiation.mediaShape.audioIndex ≠ some 1 by
          rw [hindex]; simp) hline hlineGrammatical
      rw [List.zipIdx_cons, List.flatMap_cons, hpart]
      rintro line ⟨⟩
      exact hfirst
  -- every line of the text ends where it is meant to
  have hclosed : ∀ line ∈ audioText e c (ipText (e.localIp remoteIp)) lines
      c.negotiation.selectedRx.frameMs tail, ¬['\r', '\n'] <:+: line := by
    intro line hline
    have hparts : sessionLines c (ipText (e.localIp remoteIp)) ++
        (mediaLines sdp).zipIdx.flatMap (fun l => answerPart c.negotiation.mediaShape
          (answerAudio e c lines) (videoPart e c (ipText (e.localIp remoteIp)) true) l.2 l.1) =
        audioText e c (ipText (e.localIp remoteIp)) lines c.negotiation.selectedRx.frameMs
          tail := by
      rw [hmedia, List.zipIdx_cons, List.flatMap_cons, hfirst, audioText, htail, hanswer]
    rw [← hparts] at hline
    rcases List.mem_append.mp hline with hline | hline
    · exact (plain_sessionLines c hip line hline).closed
    · obtain ⟨⟨media, i⟩, hl, hline⟩ := List.mem_flatMap.mp hline
      have hget := List.mk_mem_zipIdx_iff_getElem?.mp hl
      have hmem := List.mem_of_getElem? hget
      obtain ⟨head, hsection, -⟩ := answerPart_mirrors hip (plain_answerLines h.answered) h.shape
        h.profile h.offered hget (h.media _ hmem).1 (h.media _ hmem).2
        (Search.not_infix_of_mem_lines (List.mem_filter.mp hmem).1)
      exact hsection.closed line hline
  refine ⟨tail, hhead, ?_, htext⟩
  rw [htext, sdpLines, sdpText, Search.lines_unlines (by decide) hclosed]

/-- An answer to a peer with the extension has its attribute. -/
theorem hasFlow_answer {tail : List Text} {entries : List AudioEntry}
    (h : AnswerWritten e c remoteIp lines tail) (hne : entries ≠ [])
    (hnames : lines.Names true entries) : hasFlow (buildSdpAnswer e c remoteIp) = true := by
  rw [h.text, audioText_eq hnames, hnames.flows, if_pos rfl]
  cases entries with
  | nil => exact absurd rfl hne
  | cons entry entries =>
    apply hasFlow_of_entry entry
    simp

end Answer

end Sdp

end EsphomeVoip
