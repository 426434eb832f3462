import EsphomeVoip.Sdp.Agreement
import EsphomeVoip.Sdp.Answer
import EsphomeVoip.Sdp.Learn
import EsphomeVoip.Sdp.VideoSection

/-! # Answers that mirror the media lines of the offer (`build_sdp_answer_`)

The lines are selected while an offer is read, and the answer is written later from the lines that
are remembered.  The answer has a section for every media line of the offer, and only the selected
ones are not rejected. -/

namespace EsphomeVoip

namespace Sdp

/-! ## Media lines -/

/-- The media type of an `m=` line. -/
def mediaType (line : Text) : Text := (line.drop 2).takeWhile (· != ' ')

/-- The port of an `m=` line. -/
def mediaPort (line : Text) : Text :=
  ((line.dropWhile (· != ' ')).drop 1).takeWhile fun c => !isSpace c

/-- The first characters of a media line. -/
theorem mediaType_of_kind (kind : Text) {line : Text} (hkind : ' ' ∉ kind)
    (h : 'm' :: '=' :: (kind ++ [' ']) <+: line) : mediaType line = kind := by
  obtain ⟨rest, rfl⟩ := h
  have hpos : ∀ c ∈ kind, (c != ' ') = true := fun c hc =>
    bne_iff_ne.mpr fun heq => hkind (heq ▸ hc)
  rw [mediaType, List.cons_append, List.cons_append, List.drop_succ_cons, List.drop_succ_cons,
    List.drop_zero, List.append_assoc, List.takeWhile_append_of_pos hpos]
  simp

/-- It is a media line of the same type, -/
theorem mediaType_rejectedHead {line : Text} (hmedia : startsWith line "m=" = true)
    (h : grammatical line = true) :
    startsWith (rejectedHead line) "m=" = true ∧
      mediaType (rejectedHead line) = mediaType line := by
  obtain ⟨kind, port, sep, rest, rfl, hkind, hport, hsep⟩ := grammatical_eq h
  rw [rejectedHead_eq rest hkind hport hsep]
  -- the two characters are in front of the first blank
  match kind, hkind, hmedia with
  | [], _, hmedia => exact absurd hmedia (by simp [startsWith])
  | [_], _, hmedia => exact absurd hmedia (by simp [startsWith])
  | a :: b :: kind, hkind, hmedia =>
    have hkind' : ∀ c ∈ kind, (c != ' ') = true := fun c hc =>
      bne_iff_ne.mpr fun heq => hkind (heq ▸ List.mem_cons_of_mem _ (List.mem_cons_of_mem _ hc))
    refine ⟨by simpa [startsWith] using hmedia, ?_⟩
    simp only [mediaType, List.cons_append, List.drop_succ_cons, List.drop_zero,
      List.takeWhile_append_of_pos hkind']
    simp

/-- it has port zero, -/
theorem mediaPort_rejectedHead {line : Text} (h : grammatical line = true) :
    mediaPort (rejectedHead line) = "0".toList := by
  obtain ⟨kind, port, sep, rest, rfl, hkind, hport, hsep⟩ := grammatical_eq h
  rw [rejectedHead_eq rest hkind hport hsep]
  have hport : ∀ c ∈ "0".toList, isSpace c = false := by
    intro c hc
    obtain rfl := List.mem_singleton.mp hc
    decide
  obtain ⟨_, h₂, h₃, _⟩ := @parts_of_grammatical kind "0".toList sep rest hkind hport hsep
  rw [mediaPort, h₂, h₃]

/-! ## Sections -/

/-- A section with one media line, whose lines end where they are meant to. -/
structure MediaSection (head : Text) (lines : List Text) : Prop where
  media : mediaOf lines = [head]
  closed : ∀ line ∈ lines, ¬['\r', '\n'] <:+: line

theorem mediaOf_plain {lines : List Text} (h : ∀ line ∈ lines, Plain line) :
    mediaOf lines = [] := by
  rw [mediaOf, List.filter_eq_nil_iff]
  intro line hline
  rw [(h line hline).not_media]
  decide

/-- A section of this endpoint. -/
theorem Section.mediaSection {kind : String} {port : Nat} {payloads : Text} {lines : List Text}
    (hkind : Free kind.toList) (hpayloads : Free payloads)
    (h : Section (mediaHead kind port payloads) lines) :
    MediaSection (mediaHead kind port payloads) lines := by
  obtain ⟨rest, rfl, hrest⟩ := h
  have hhead : startsWith (mediaHead kind port payloads) "m=" = true := by
    unfold mediaHead
    simp [startsWith]
  constructor
  · rw [mediaOf, List.filter_cons_of_pos (by exact hhead), ← mediaOf, mediaOf_plain hrest]
  · rw [List.forall_mem_cons]
    exact ⟨closed_mediaHead hkind port hpayloads, fun line hline => (hrest line hline).closed⟩

/-- A rejected section. -/
theorem mediaSection_rejected {line : Text} (hmedia : startsWith line "m=" = true)
    (h : grammatical line = true) (hline : ¬['\r', '\n'] <:+: line) :
    MediaSection (rejectedHead line) [rejectedHead line, "a=inactive".toList] where
  media := by
    rw [mediaOf, List.filter_cons_of_pos (by exact (mediaType_rejectedHead hmedia h).1),
      List.filter_cons_of_neg (by decide), List.filter_nil]
  closed := by
    simp only [List.forall_mem_cons]
    exact ⟨closed_rejectedHead h hline, by simp [List.infix_cons_iff], List.forall_mem_nil _⟩

/-- The type and the port of a section of this endpoint. -/
theorem mediaType_mediaHead {kind : String} (hkind : ' ' ∉ kind.toList) (port : Nat)
    (payloads : Text) : mediaType (mediaHead kind port payloads) = kind.toList := by
  refine mediaType_of_kind kind.toList hkind ?_
  unfold mediaHead
  simp [List.cons_prefix_cons]

theorem mediaPort_mediaHead {kind : String} (hkind : ' ' ∉ kind.toList) (port : Nat)
    (payloads : Text) : mediaPort (mediaHead kind port payloads) = decimal port := by
  have hline : mediaHead kind port payloads =
      ("m=".toList ++ kind.toList) ++ ' ' ::
        (decimal port ++ ' ' :: ("RTP/AVP ".toList ++ payloads)) := by
    unfold mediaHead
    simp
  obtain ⟨_, h₂, h₃, _⟩ := @parts_of_grammatical ("m=".toList ++ kind.toList) (decimal port) ' '
    ("RTP/AVP ".toList ++ payloads) (by simpa using hkind) (fun c hc =>
      isSpace_of_isBlank (not_isBlank_of_isDigit (isDigit_of_mem_decimal hc))) (by decide)
  rw [hline, mediaPort, h₂, h₃]

/-- Sections one after the other have their media lines one after the other. -/
theorem mediaOf_sections {α : Type} {f : α → List Text} {P : α → Text → Prop} {xs : List α}
    (h : ∀ x ∈ xs, ∃ head, MediaSection head (f x) ∧ P x head) :
    (∀ line ∈ xs.flatMap f, ¬['\r', '\n'] <:+: line) ∧
      (mediaOf (xs.flatMap f)).length = xs.length ∧
      ∀ (i : Nat) (x : α) (head : Text), xs[i]? = some x →
        (mediaOf (xs.flatMap f))[i]? = some head → P x head := by
  induction xs with
  | nil => exact ⟨(fun _ h => nomatch h), rfl, fun i x head hx => by simp at hx⟩
  | cons x xs ih =>
    rw [List.forall_mem_cons] at h
    obtain ⟨head, hsection, hP⟩ := h.1
    obtain ⟨hclosed, hlength, hall⟩ := ih h.2
    rw [List.flatMap_cons, mediaOf_append, hsection.media]
    refine ⟨?_, by simp [hlength], ?_⟩
    · intro line hline
      rcases List.mem_append.mp hline with hline | hline
      · exact hsection.closed line hline
      · exact hclosed line hline
    · intro i y head' hy hhead'
      cases i with
      | zero =>
        simp only [List.getElem?_cons_zero, Option.some.injEq, List.cons_append] at hy hhead'
        subst hy hhead'
        exact hP
      | succ i =>
        exact hall i y head' (by simpa using hy) (by simpa using hhead')

/-! ## The answer to an accepted offer -/

/-- What an agreement allows to write. -/
theorem answerLines_isSome {e : SdpEndpoint} {c : SdpContext} {a : AudioTerms}
    {g : AudioAgreement} {n : Negotiation} (hg : g.Sound a) (he : a.e = e)
    (hn : c.negotiation = g.apply n) : ∃ lines, answerLines e c = some lines := by
  subst he
  -- An entry can be written when its format has a name on the wire.
  have happend : ∀ pt (format : AudioFormat) flow lines,
      (audioFormatRtpEncoding format a.e.udpMaxPayload).isSome = true →
      ∃ lines', appendAnswer a.e c pt format flow lines = some lines' := by
    intro pt format flow lines hencoding
    obtain ⟨encoding, hencoding⟩ := Option.isSome_iff_exists.mp hencoding
    rw [appendAnswer, hencoding]
    exact ⟨_, rfl⟩
  -- The formats that the agreement has chosen have one,
  have hrx : c.negotiation.selectedRx.isValid = true →
      (audioFormatRtpEncoding c.negotiation.selectedRx a.e.udpMaxPayload).isSome = true := by
    rw [hn]
    intro hvalid
    cases hrx : g.rx with
    | none => simp [AudioAgreement.apply, hrx] at hvalid
    | some rx =>
      simp only [AudioAgreement.apply, hrx]
      exact (hg.rx rx hrx).encoding
  have htx : c.negotiation.selectedTx.isValid = true →
      (audioFormatRtpEncoding c.negotiation.selectedTx a.e.udpMaxPayload).isSome = true := by
    rw [hn]
    intro hvalid
    cases htx : g.tx with
    | none => simp [AudioAgreement.apply, htx] at hvalid
    | some tx =>
      simp only [AudioAgreement.apply, htx]
      exact (hg.tx tx htx).encoding
  -- so the selected entry can be written,
  have hselected : ∃ lines, answerSelected a.e c = some lines := by
    rw [answerSelected]
    split
    · rename_i hvalid
      exact happend _ _ _ _ (hrx hvalid)
    · exact ⟨_, rfl⟩
  -- the accepted entries can, one after the other,
  have haccepted : ∀ lines, ∃ lines', answerAccepted a.e c lines = some lines' := by
    intro lines
    rw [answerAccepted]
    split
    · have hentries : ∀ entry ∈ c.negotiation.rxPayloads,
          (audioFormatRtpEncoding entry.2 a.e.udpMaxPayload).isSome = true := by
        rw [hn]
        exact fun entry h => (hg.accepted entry h).encoding
      generalize c.negotiation.rxPayloads = entries at hentries
      induction entries generalizing lines with
      | nil => exact ⟨lines, rfl⟩
      | cons entry entries ih =>
        rw [List.forall_mem_cons] at hentries
        rw [List.foldlM_cons]
        split
        · exact ih lines hentries.2
        · obtain ⟨next, hnext⟩ := happend entry.1 entry.2 "recv" lines hentries.1
          rw [hnext]
          exact ih next hentries.2
    · exact ⟨_, rfl⟩
  -- and the entry of a transmit format of its own can be, too.
  obtain ⟨selected, hselected⟩ := hselected
  obtain ⟨accepted, haccepted⟩ := haccepted selected
  rw [answerLines, hselected, Option.bind_some, haccepted, Option.bind_some, answerTransmit]
  split
  · rename_i hvalid
    simp only [Bool.and_eq_true] at hvalid
    exact happend _ _ _ _ (htx hvalid.1)
  · exact ⟨_, rfl⟩

/-- The media line that video is taken from, if video has been agreed. -/
def selectedVideo (e : SdpEndpoint) (c : SdpContext) (v : VideoNegotiation) (sdp : Text) :
    Option Nat :=
  if e.videoCodec.isSome && !c.referContextActive && v.negotiated then
    videoIndex (mediaLines sdp)
  else none

/-- The section for a media line: its type is that of the line, and its port is zero unless the line
    has been selected. -/
theorem answerPart_mirrors {e : SdpEndpoint} {c : SdpContext} {sdp localIp : Text}
    {lines : AudioLines} {shape : RemoteMediaShape} (hip : Free localIp) (hlines : lines.Plain)
    (hshape : Captured e.videoCodec.isSome (mediaLines sdp) shape)
    (hprofile : c.referContextActive = false → e.videoCodec = some .h264 →
      Free c.video.capability.profileLevelId.toList)
    (hoffered : c.referContextActive = false → e.videoCodec.isSome = true →
      (videoIndex (mediaLines sdp)).isSome = true → c.video.offered = true)
    {line : Text} {i : Nat} (hline : (mediaLines sdp)[i]? = some line)
    (hmedia : startsWith line "m=" = true) (hgrammatical : grammatical line = true)
    (hclosed : ¬['\r', '\n'] <:+: line) :
    ∃ head, MediaSection head
        (answerPart shape (answerAudio e c lines) (videoPart e c localIp true) i line) ∧
      mediaType head = mediaType line ∧
      (audioIndex (mediaLines sdp) ≠ some i → selectedVideo e c c.video sdp ≠ some i →
        mediaPort head = "0".toList) := by
  -- a line that is found at an index can be read
  have hread : ∀ p : Text → Bool, (mediaLines sdp).findIdx? p = some i → p line = true := by
    intro p h
    have := List.of_findIdx?_eq_some h
    rw [hline] at this
    exact this
  have hrejected : ∃ head, MediaSection head [rejectedHead line, "a=inactive".toList] ∧
      mediaType head = mediaType line ∧ mediaPort head = "0".toList :=
    ⟨_, mediaSection_rejected hmedia hgrammatical hclosed,
      (mediaType_rejectedHead hmedia hgrammatical).2, mediaPort_rejectedHead hgrammatical⟩
  rw [answerPart]
  split
  · rename_i haudio
    rw [hshape.audio] at haudio
    refine ⟨_, (section_answerAudio e c hlines).mediaSection (by decide) (free_payloadList _), ?_,
      fun h => absurd haudio h⟩
    rw [mediaType_mediaHead (by decide)]
    have := List.isPrefixOf_iff_prefix.mp (startsWith_of_parseAudioMediaLine (hread _ haudio))
    exact (mediaType_of_kind "audio".toList (by decide) this).symm
  · split
    · rename_i hvideo
      obtain ⟨hindex, hne⟩ := hvideo
      rw [hshape.video] at hindex
      cases hcodec : e.videoCodec with
      | none =>
        rw [hcodec] at hindex
        cases hindex
      | some codec =>
        rw [hcodec, Option.isSome_some, if_pos rfl] at hindex
        have hrefer : c.referContextActive = false := by
          rw [Bool.eq_false_iff]
          intro hrefer
          simp [videoPart, hcodec, videoSection, hrefer] at hne
        have hpart : videoPart e c localIp true = videoSection e codec c localIp true := by
          rw [videoPart, hcodec]
        rw [hpart] at hne ⊢
        rcases videoSection_answer e codec c hip (fun h => hprofile hrefer (h ▸ hcodec)) with
          h | ⟨port, hsection, hport⟩
        · exact absurd h hne
        · refine ⟨_, hsection.mediaSection (by decide) (free_decimal _), ?_, ?_⟩
          · rw [mediaType_mediaHead (by decide)]
            have := List.isPrefixOf_iff_prefix.mp
              (startsWith_of_parseVideoMediaLine (hread _ hindex))
            exact (mediaType_of_kind "video".toList (by decide) this).symm
          · -- the section is ours, so it has port zero only when video is not agreed
            intro _ hselected
            rw [selectedVideo, hcodec, hrefer] at hselected
            have hnegotiated : c.video.negotiated = false := by
              rw [Bool.eq_false_iff]
              intro h
              rw [h] at hselected
              exact hselected hindex
            rw [mediaPort_mediaHead (by decide),
              hport (hoffered hrefer (by rw [hcodec]; rfl) (by rw [hindex]; rfl)) hnegotiated]
            decide
    · obtain ⟨head, hsection, htype, hport⟩ := hrejected
      exact ⟨head, hsection, htype, fun _ _ => hport⟩

/-- What the answer to an accepted offer is written from. -/
structure Accepted (e : SdpEndpoint) (c : SdpContext) (sdp : Text) (remoteIp : UInt32)
    (lines : AudioLines) : Prop where
  answered : answerLines e c = some lines
  shape : Captured e.videoCodec.isSome (mediaLines sdp) c.negotiation.mediaShape
  media : ∀ line ∈ mediaLines sdp, startsWith line "m=" = true ∧ grammatical line = true
  profile : c.referContextActive = false → e.videoCodec = some .h264 →
    Free c.video.capability.profileLevelId.toList
  offered : c.referContextActive = false → e.videoCodec.isSome = true →
    (videoIndex (mediaLines sdp)).isSome = true → c.video.offered = true
  text : buildSdpAnswer e c remoteIp = sdpText (sessionLines c (ipText (e.localIp remoteIp)) ++
    (mediaLines sdp).zipIdx.flatMap fun l => answerPart c.negotiation.mediaShape
      (answerAudio e c lines) (videoPart e c (ipText (e.localIp remoteIp)) true) l.2 l.1)

theorem accepted_of_learn {e : SdpEndpoint} {c : SdpContext} {sdp : Text} {defaultIp : UInt32}
    {n : Negotiation} {v : VideoNegotiation}
    (hformats : ∀ format ∈ c.offerTxFormats, format.isValid = true)
    (hgrammatical : ∀ line ∈ mediaLines sdp, grammatical line = true)
    (h : learn e c sdp defaultIp false = (true, n, v)) (remoteIp : UInt32) :
    ∃ lines, Accepted e { c with negotiation := n, video := v } sdp remoteIp lines := by
  obtain ⟨hroom, ⟨g, hg, rfl⟩, hv⟩ := learn_iff.mp h
  have hsound := AudioAgreement.sound hg
  have hshape := captured_of_overflow hroom
  generalize hc' : ({ c with
    negotiation := g.apply (openSdp e c sdp false).negotiation, video := v } : SdpContext) = c'
  have hnegotiation : c'.negotiation = g.apply (openSdp e c sdp false).negotiation := by
    rw [← hc']
  have hvideo : c'.video = v := by rw [← hc']
  have hrefer : c'.referContextActive = c.referContextActive := by rw [← hc']
  have hmediaShape : c'.negotiation.mediaShape =
      captureRemoteMediaShape e.videoCodec.isSome sdp := by
    rw [hnegotiation]
    rfl
  -- the answer can be written
  obtain ⟨lines, hlines⟩ := answerLines_isSome hsound rfl hnegotiation
  have hdirection : c'.negotiation.selectedTx.isValid = true ∨
      c'.negotiation.selectedRx.isValid = true := by
    rw [hnegotiation]
    rcases hsound.some_direction with h | h
    · obtain ⟨tx, htx⟩ := Option.isSome_iff_exists.mp h
      exact .inl (by simpa [AudioAgreement.apply, htx] using hformats tx.1 (hsound.tx tx htx).mem)
    · obtain ⟨rx, hrx⟩ := Option.isSome_iff_exists.mp h
      exact .inr (by simpa [AudioAgreement.apply, hrx] using (hsound.rx rx hrx).valid)
  have hne : mediaLines sdp ≠ [] := by
    intro hnil
    have := audioIndex_of_agreeAudio hg
    rw [hnil] at this
    cases this
  have hmedia : ∀ line ∈ mediaLines sdp,
      startsWith line "m=" = true ∧ grammatical line = true := fun line hline =>
    ⟨(List.mem_filter.mp hline).2, hgrammatical line hline⟩
  have hanswer := buildSdpAnswer_eq remoteIp hdirection hlines
    (by rw [hmediaShape]; exact hshape.lines) hne (by rw [hmediaShape]; exact hroom) hmedia
  simp only at hanswer
  -- its video is what has been learnt of the offer
  have hprofile : c'.referContextActive = false → e.videoCodec = some .h264 →
      Free c'.video.capability.profileLevelId.toList := by
    intro hno hcodec
    rw [hrefer] at hno
    rw [hvideo, hv, learntVideo, hcodec]
    simp only [hno, Bool.false_eq_true, if_false]
    exact free_profile_learnVideo e _ _ _ _
  have hoffered : c'.referContextActive = false → e.videoCodec.isSome = true →
      (videoIndex (mediaLines sdp)).isSome = true → c'.video.offered = true := by
    intro hno hcodec hindex
    rw [hrefer] at hno
    obtain ⟨codec, hcodec⟩ := Option.isSome_iff_exists.mp hcodec
    rw [hvideo, hv, learntVideo, hcodec]
    simp only [hno, Bool.false_eq_true, if_false]
    exact offered_learnVideo hindex
  exact ⟨lines, hlines, by rw [hmediaShape]; exact hshape, hmedia, hprofile, hoffered, hanswer⟩

/-- Every media line of an accepted offer has its section in the answer, in the same place and of
    the same type, and every section but the selected ones has port zero. -/
theorem answer_mirrors_offer {e : SdpEndpoint} {c : SdpContext} {sdp : Text}
    {defaultIp remoteIp : UInt32} {n : Negotiation} {v : VideoNegotiation}
    (hformats : ∀ format ∈ c.offerTxFormats, format.isValid = true)
    (hgrammatical : ∀ line ∈ mediaLines sdp, grammatical line = true)
    (h : learn e c sdp defaultIp false = (true, n, v)) :
    let answer := buildSdpAnswer e { c with negotiation := n, video := v } remoteIp
    (mediaLines answer).map mediaType = (mediaLines sdp).map mediaType ∧
      ∀ (i : Nat) (line : Text), (mediaLines answer)[i]? = some line →
        audioIndex (mediaLines sdp) ≠ some i → selectedVideo e c v sdp ≠ some i →
        mediaPort line = "0".toList := by
  obtain ⟨lines, haccepted⟩ := accepted_of_learn hformats hgrammatical h remoteIp
  have hselected : selectedVideo e c v sdp = selectedVideo e
      { c with negotiation := n, video := v } v sdp := rfl
  simp only [hselected]
  generalize hc' : ({ c with negotiation := n, video := v } : SdpContext) = c' at haccepted ⊢
  obtain rfl : c'.video = v := by rw [← hc']
  have hparts : ∀ l ∈ (mediaLines sdp).zipIdx, ∃ head,
      MediaSection head (answerPart c'.negotiation.mediaShape (answerAudio e c' lines)
        (videoPart e c' (ipText (e.localIp remoteIp)) true) l.2 l.1) ∧
      (mediaType head = mediaType l.1 ∧
        (audioIndex (mediaLines sdp) ≠ some l.2 → selectedVideo e c' c'.video sdp ≠ some l.2 →
          mediaPort head = "0".toList)) := by
    intro l hl
    have hline := List.mk_mem_zipIdx_iff_getElem?.mp hl
    have hmem := List.mem_of_getElem? hline
    exact answerPart_mirrors (free_ipText _) (plain_answerLines haccepted.answered)
      haccepted.shape haccepted.profile haccepted.offered hline (haccepted.media _ hmem).1
      (haccepted.media _ hmem).2 (Search.not_infix_of_mem_lines (List.mem_filter.mp hmem).1)
  obtain ⟨hclosed, hlength, hall⟩ := mediaOf_sections hparts
  have hsession := plain_sessionLines c' (free_ipText (e.localIp remoteIp))
  have hread : mediaLines (buildSdpAnswer e c' remoteIp) =
      mediaOf ((mediaLines sdp).zipIdx.flatMap fun l =>
        answerPart c'.negotiation.mediaShape (answerAudio e c' lines)
          (videoPart e c' (ipText (e.localIp remoteIp)) true) l.2 l.1) := by
    rw [haccepted.text, mediaLines, sdpLines, sdpText, Search.lines_unlines (by decide),
      mediaOf_append,
      mediaOf_plain hsession, List.nil_append]
    intro line hline
    rcases List.mem_append.mp hline with hline | hline
    · exact (hsession line hline).closed
    · exact hclosed line hline
  rw [hread]
  rw [List.length_zipIdx] at hlength
  -- a media line of the answer is at the place of one of the offer
  have hplace : ∀ (i : Nat) (line : Text), (mediaLines sdp)[i]? = some line →
      (mediaLines sdp).zipIdx[i]? = some (line, i) := by
    intro i line hline
    simpa using hline
  constructor
  · refine List.ext_getElem? fun i => ?_
    rw [List.getElem?_map, List.getElem?_map]
    cases hline : (mediaLines sdp)[i]? with
    | none =>
      rw [List.getElem?_eq_none_iff] at hline
      rw [List.getElem?_eq_none_iff.mpr (by omega)]
    | some line =>
      have hi : i < (mediaLines sdp).length := (List.getElem?_eq_some_iff.mp hline).1
      rw [← hlength] at hi
      have hhead := List.getElem?_eq_getElem hi
      rw [hhead, Option.map_some, Option.map_some,
        (hall i _ _ (hplace i line hline) hhead).1]
  · intro i head hhead haudio hselected
    have hi : i < (mediaLines sdp).length := by
      rw [← hlength]
      exact (List.getElem?_eq_some_iff.mp hhead).1
    have hline := List.getElem?_eq_getElem hi
    exact (hall i _ _ (hplace i _ hline) hhead).2 haudio hselected

namespace ThreeSections

/-- An offer whose second section is the audio section. -/
def offer : Text :=
  "v=0\r\nm=image 9 udptl t38\r\nm=audio 4000 RTP/AVP 96\r\na=rtpmap:96 L16/16000/1\r\n".toList ++
    "m=audio 0 RTP/AVP 8\r\n".toList

/-- A dialog with one format in both directions. -/
def context : SdpContext where
  negotiation := {}
  video := {}
  offerTxFormats := [{ frameMs := 20 }]
  offerRxFormats := [{ frameMs := 20 }]
  peerDirectionalAudioV1 := false
  sdpSessionId := 1
  sdpSessionVersion := 1
  videoSendRequested := false
  retainedTx := none

/-- The offer is accepted, and the answer has three sections of the same types. -/
theorem answer_mirrors_three_sections :
    (learn {} context offer 1 false).1 = true ∧
      (mediaLines (buildSdpAnswer {} { context with
        negotiation := (learn {} context offer 1 false).2.1
        video := (learn {} context offer 1 false).2.2 } 1)).map mediaType =
      ["image".toList, "audio".toList, "audio".toList] := by
  have haccepted : (learn {} context offer 1 false).1 = true := by decide +kernel
  have htypes : (mediaLines offer).map mediaType =
      ["image".toList, "audio".toList, "audio".toList] := by decide +kernel
  have hgrammatical : ∀ line ∈ mediaLines offer, grammatical line = true := by decide +kernel
  refine ⟨haccepted, ?_⟩
  generalize hlearn : learn {} context offer 1 false = learnt at haccepted ⊢
  obtain ⟨accepted, n, v⟩ := learnt
  obtain rfl : accepted = true := haccepted
  rw [← htypes]
  exact (answer_mirrors_offer (by decide) hgrammatical hlearn).1

end ThreeSections

end Sdp

end EsphomeVoip
