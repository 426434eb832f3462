import EsphomeVoip.Sdp.MediaShape
import EsphomeVoip.Sdp.Written

/-! # The text of an answer (`build_sdp_answer_`)

An answer is the session part and a section for each media line that is remembered: the audio
section, the video section, or the line again with port zero. -/

namespace EsphomeVoip

namespace Sdp

/-! ## Rejected sections -/

/-- What an `m=` line has at least: a type, a port and something behind it. -/
def grammatical (line : Text) : Bool :=
  match cut ' ' line with
  | some (_, rest) => rest.any isSpace
  | none => false

/-- A grammatical line, taken apart. -/
theorem grammatical_eq {line : Text} (h : grammatical line = true) :
    ∃ kind port sep rest, line = kind ++ ' ' :: (port ++ sep :: rest) ∧ ' ' ∉ kind ∧
      (∀ c ∈ port, isSpace c = false) ∧ isSpace sep = true := by
  rw [grammatical] at h
  split at h
  · rename_i kind behind hcut
    obtain ⟨hline, hkind⟩ := cut_some hcut
    obtain ⟨port, sep, rest, rfl, hport, hsep⟩ := exists_of_any h
    exact ⟨kind, port, sep, rest, hline, hkind, hport, hsep⟩
  · cases h

/-- The media line of a rejected section. -/
def rejectedHead (line : Text) : Text :=
  line.takeWhile (· != ' ') ++ " 0".toList ++
    ((line.dropWhile (· != ' ')).drop 1).dropWhile fun c => !isSpace c

/-- The parts of a grammatical line. -/
theorem parts_of_grammatical {kind port : Text} {sep : Char} (rest : Text) (hkind : ' ' ∉ kind)
    (hport : ∀ c ∈ port, isSpace c = false) (hsep : isSpace sep = true) :
    (kind ++ ' ' :: (port ++ sep :: rest)).takeWhile (· != ' ') = kind ∧
      ((kind ++ ' ' :: (port ++ sep :: rest)).dropWhile (· != ' ')).drop 1 = port ++ sep :: rest ∧
      (port ++ sep :: rest).takeWhile (fun c => !isSpace c) = port ∧
      (port ++ sep :: rest).dropWhile (fun c => !isSpace c) = sep :: rest := by
  have hkind' : ∀ c ∈ kind, (c != ' ') = true := fun c hc =>
    bne_iff_ne.mpr fun heq => hkind (heq ▸ hc)
  have hport' : ∀ c ∈ port, (!isSpace c) = true := fun c hc => by rw [hport c hc]; rfl
  rw [List.takeWhile_append_of_pos hkind', List.dropWhile_append_of_pos hkind',
    List.takeWhile_append_of_pos hport', List.dropWhile_append_of_pos hport']
  simp [hsep]

/-- A grammatical media line is repeated with port zero. -/
theorem rejectedMediaAnswer_eq {line : Text} (hmedia : startsWith line "m=" = true)
    (h : grammatical line = true) :
    rejectedMediaAnswer line = sdpText [rejectedHead line, "a=inactive".toList] := by
  obtain ⟨kind, port, sep, rest, rfl, hkind, hport, hsep⟩ := grammatical_eq h
  obtain ⟨h₁, h₂, _, h₄⟩ := parts_of_grammatical rest hkind hport hsep
  have hfind : Search.find [' '] (kind ++ ' ' :: (port ++ sep :: rest)) = some kind.length :=
    Search.find_eq (Search.clear_of_not_mem hkind _) ⟨_, rfl⟩
  have hlength : (kind ++ [' ']).length = kind.length + 1 := by simp
  have hline : kind ++ ' ' :: (port ++ sep :: rest) =
      kind ++ [' '] ++ (port ++ sep :: rest) := by simp
  have hend : (port ++ sep :: rest).findIdx? isSpace = some port.length := by
    rw [List.findIdx?_append, List.findIdx?_eq_none_iff.mpr hport, List.findIdx?_cons, hsep]
    simp
  rw [rejectedMediaAnswer, hmedia, if_neg (by decide), hfind]
  simp only [rejectedHead, h₁, h₂, h₄]
  rw [hline, ← hlength, List.drop_left, hend]
  simp only [List.take_left]
  rw [← List.drop_drop, List.drop_left, List.drop_left]
  simp [sdpText]

theorem rejectedHead_eq {kind port : Text} {sep : Char} (rest : Text) (hkind : ' ' ∉ kind)
    (hport : ∀ c ∈ port, isSpace c = false) (hsep : isSpace sep = true) :
    rejectedHead (kind ++ ' ' :: (port ++ sep :: rest)) =
      kind ++ ' ' :: ("0".toList ++ sep :: rest) := by
  obtain ⟨h₁, h₂, _, h₄⟩ := parts_of_grammatical rest hkind hport hsep
  simp only [rejectedHead, h₁, h₂, h₄]
  simp

/-- The line of a rejected section does not end before the section does. -/
theorem closed_rejectedHead {line : Text} (h : grammatical line = true)
    (hline : ¬['\r', '\n'] <:+: line) : ¬['\r', '\n'] <:+: rejectedHead line := by
  obtain ⟨kind, port, sep, rest, rfl, hkind, hport, hsep⟩ := grammatical_eq h
  rw [rejectedHead_eq rest hkind hport hsep]
  have hkindOf : ¬['\r', '\n'] <:+: kind := fun hin =>
    hline (hin.trans (List.prefix_append _ _).isInfix)
  have hrestOf : ¬['\r', '\n'] <:+: sep :: rest := fun hin =>
    hline (hin.trans ⟨kind ++ ' ' :: port, [], by simp⟩)
  refine Search.not_pair_append hkindOf ?_ (by simp)
  refine Search.not_pair_append (a := [' ', '0']) (by simp [List.infix_cons_iff]) hrestOf ?_
  rw [List.head?_cons]
  rintro ⟨⟩
  exact absurd hsep (by decide)

/-! ## The sections -/

/-- The lines for the media line `index` of the offer. -/
def answerPart (shape : RemoteMediaShape) (audio video : List Text) (index : Nat) (line : Text) :
    List Text :=
  if shape.audioIndex = some index then audio
  else if shape.videoIndex = some index ∧ video ≠ [] then video
  else [rejectedHead line, "a=inactive".toList]

theorem sdpText_eq_nil {lines : List Text} : sdpText lines = [] ↔ lines = [] := by
  cases lines with
  | nil => exact ⟨fun _ => rfl, fun _ => rfl⟩
  | cons line lines => simp [sdpText]

theorem answerSection_eq (shape : RemoteMediaShape) (audio video : List Text) (index : Nat)
    {line : Text} (hmedia : startsWith line "m=" = true) (h : grammatical line = true) :
    answerSection shape (sdpText audio) (sdpText video) index line =
      sdpText (answerPart shape audio video index line) := by
  rw [answerSection, answerPart]
  simp only [ne_eq, sdpText_eq_nil, rejectedMediaAnswer_eq hmedia h]
  split
  · rfl
  · split <;> rfl

/-- The sections of an answer are those for the lines of the offer. -/
theorem answerSections_eq (shape : RemoteMediaShape) {audio : List Text} (video : List Text)
    (haudio : audio ≠ []) {media : List Text}
    (h : ∀ line ∈ media, startsWith line "m=" = true ∧ grammatical line = true) (k : Nat) :
    answerSections shape (sdpText audio) (sdpText video) k (media.map String.ofList) =
      some (sdpText ((media.zipIdx k).flatMap fun l => answerPart shape audio video l.2 l.1)) := by
  induction media generalizing k with
  | nil => rfl
  | cons line media ih =>
    rw [List.forall_mem_cons] at h
    have hpart : answerPart shape audio video k line ≠ [] := by
      rw [answerPart]
      split
      · exact haudio
      · split
        · rename_i hvideo
          exact hvideo.2
        · exact List.cons_ne_nil _ _
    rw [List.map_cons, answerSections, String.toList_ofList,
      answerSection_eq shape audio video k h.1.1 h.1.2, if_neg (by rwa [sdpText_eq_nil]),
      ih h.2, List.zipIdx_cons, List.flatMap_cons, sdpText, sdpText, sdpText,
      Search.unlines_append]
    rfl

/-! ## The whole text -/

/-- The lines of the video section, none in a build without video. -/
def videoPart (e : SdpEndpoint) (c : SdpContext) (localIp : Text) (answer : Bool) : List Text :=
  match e.videoCodec with
  | some codec => videoSection e codec c localIp answer
  | none => []

theorem appendVideoSdp_eq (e : SdpEndpoint) (c : SdpContext) (sdp localIp : Text)
    (answer : Bool) :
    appendVideoSdp e c sdp localIp answer = sdp ++ sdpText (videoPart e c localIp answer) := by
  rw [appendVideoSdp, videoPart]
  cases e.videoCodec with
  | some codec => rfl
  | none => simp [sdpText]

/-- The lines of the audio section of an answer. -/
def answerAudio (e : SdpEndpoint) (c : SdpContext) (lines : AudioLines) : List Text :=
  let n := c.negotiation
  audioSection e lines (if n.selectedRx.isValid then n.selectedRx.frameMs else n.selectedTx.frameMs)
    (audioDirectionAttribute n.selectedTx.isValid n.selectedRx.isValid)

theorem section_answerAudio (e : SdpEndpoint) (c : SdpContext) {lines : AudioLines}
    (h : lines.Plain) :
    Section (mediaHead "audio" e.rtpPort.toNat (payloadList lines.payloads))
      (answerAudio e c lines) :=
  section_audioSection e h _ (free_audioDirectionAttribute _ _)

/-- The first media line is behind the session part. -/
theorem find_audio (e : SdpEndpoint) (c : SdpContext) {localIp : Text} (hip : Free localIp)
    (lines : AudioLines) (ptime : Nat) (direction : String) :
    Search.find "m=audio ".toList (wrapSdpEnvelope e c localIp lines ptime direction) =
      some (sdpText (sessionLines c localIp)).length := by
  rw [wrapSdpEnvelope, sdpText, Search.unlines_append]
  refine Search.find_eq ?_ ?_
  · exact Search.clear_unlines (by decide) (by decide) (by decide)
      (fun line hline => (plain_sessionLines c hip line hline).key) _
  · unfold audioSection
    rw [Search.unlines_cons]
    simp only [List.append_assoc]
    exact List.prefix_append _ _

/-- The text of an answer to an offer with grammatical media lines. -/
theorem buildSdpAnswer_eq {e : SdpEndpoint} {c : SdpContext} (remoteIp : UInt32)
    {media : List Text}
    (hdirection : c.negotiation.selectedTx.isValid = true ∨
      c.negotiation.selectedRx.isValid = true)
    {lines : AudioLines} (hlines : answerLines e c = some lines)
    (hmedia : c.negotiation.mediaShape.lines = media.map String.ofList) (hne : media ≠ [])
    (hroom : c.negotiation.mediaShape.overflow = false)
    (h : ∀ line ∈ media, startsWith line "m=" = true ∧ grammatical line = true) :
    let localIp := ipText (e.localIp remoteIp)
    buildSdpAnswer e c remoteIp = sdpText (sessionLines c localIp ++
      media.zipIdx.flatMap fun l => answerPart c.negotiation.mediaShape (answerAudio e c lines)
        (videoPart e c localIp true) l.2 l.1) := by
  have haudio : answerAudio e c lines ≠ [] := List.cons_ne_nil _ _
  have hnone : ¬media.map String.ofList = [] := by simpa using hne
  rw [buildSdpAnswer]
  simp only [hlines, find_audio e c (free_ipText (e.localIp remoteIp)), hmedia, hnone, if_false,
    hroom, appendVideoSdp_eq, List.nil_append]
  rw [if_neg fun hnot => by rcases hdirection with h | h <;> simp [h] at hnot,
    if_neg Bool.false_ne_true]
  simp only [wrapSdpEnvelope, sdpText, Search.unlines_append, List.drop_left, List.take_left]
  simp only [← sdpText.eq_1]
  have hsections := answerSections_eq c.negotiation.mediaShape
    (videoPart e c (ipText (e.localIp remoteIp)) true) haudio h 0
  rw [answerAudio] at hsections
  simp only [hsections, answerAudio]

end Sdp

end EsphomeVoip
