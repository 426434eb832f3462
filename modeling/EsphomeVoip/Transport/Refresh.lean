import EsphomeVoip.Transport.Reinvite

/-! # Session refresh

A re-INVITE of the peer, or its 200 to our own, may repeat the SDP that the dialog was negotiated
with.  Two things decide whether that is accepted without effect on the media.  The RTP receive path
follows the peer's source port in the field that the SDP is compared with, and the SDP is read in
the role that it has in this message: what was the answer to our own offer is an offer now. -/

namespace EsphomeVoip

namespace Transport

/-! ## The message -/

/-- A message that refreshes the session: a re-INVITE of the peer, or its 200 to our own. -/
inductive Refresh where
  | reinvite (m : SipMessage) (src : Peer)
  | answer (m : SipMessage) (src : Peer)
  deriving DecidableEq, Repr

/-- The SDP that the message carries. -/
def Refresh.sdp : Refresh → String
  | .reinvite m _ => m.body
  | .answer m _ => m.body

variable {w : World} {t u : Transport} {m msg : SipMessage} {src : Peer} {r : Refresh}

/-- The SDP was accepted when it was read, as an offer or as an answer, and the peer's RTP port is
    the one that was learnt from it. -/
def NegotiatedWith (w : World) (sdp : String) (t : Transport) : Prop :=
  ∃ (before : Transport) (ip : UInt32) (isAnswer : Bool),
    (before.learnRemoteRtp w sdp ip isAnswer).1 = true ∧
      t.negotiation.remoteRtpPort =
        (before.learnRemoteRtp w sdp ip isAnswer).2.negotiation.remoteRtpPort

/-- The message reaches an established session in which nothing else is going on. -/
def Refreshes (r : Refresh) (t : Transport) : Prop :=
  match r with
  | .reinvite m src =>
    (t.referRetiring = true ∨ t.referDialog = none) ∧ t.mediaActive = true ∧
      src.ip = t.dialog.remoteIp ∧ m.fromTag = t.dialog.remoteTag ∧ m.toTag = t.dialog.localTag ∧
      awaitsAnyAck t.dialog = false ∧ t.video.pendingDirection = none ∧
      t.dialog.remoteDialogCseq < m.cseqNumber ∧ m.contentType = "application/sdp" ∧
      m.body ≠ "" ∧ ¬(t.phase = .cleaning ∨ t.phase = .shuttingDown) ∧
      t.dialog.callId ≠ "" ∧ src.ip ≠ 0 ∧ src.port ≠ 0 ∧ m.via ≠ []
  | .answer m _ => m.body ≠ ""

instance (r : Refresh) (t : Transport) : Decidable (Refreshes r t) := by
  cases r with
  | reinvite m src => exact inferInstanceAs (Decidable (_ ∧ _))
  | answer m src => exact inferInstanceAs (Decidable (¬_))

/-- What the transport does with the message, and whether it accepts it. -/
def takeRefresh (w : World) (r : Refresh) (t : Transport) : Bool × Transport :=
  match r with
  | .reinvite m src => t.handleReinvite w m src
  | .answer m src => t.applyVideoDirectionAnswer w m.body src.ip

/-- Formats, payload types and RTP destination, and the state of the media task. -/
def mediaState (t : Transport) :
    Negotiation × VideoNegotiation × Bool × MediaLifecyclePhase × Bool × Bool × Bool :=
  (t.session.negotiation, t.video.negotiation, t.mediaActive, t.phase, t.rtpRunning,
    t.rtpTaskQuiesced, t.rtpSocketOpen)

/-- The message is accepted, a re-INVITE with a 200, and changes no media. -/
def Neutral (w : World) (r : Refresh) (t : Transport) : Prop :=
  (t.takeRefresh w r).1 = true ∧ (t.takeRefresh w r).2.mediaState = t.mediaState ∧
    match r with
    | .reinvite .. => AnsweredWith 200 t (t.takeRefresh w r).2
    | .answer .. => True

/-! ## Reading the SDP again -/

/-- The SDP of the message, read in the role that it has there. -/
def readAgain (w : World) (r : Refresh) (t : Transport) : Bool × Transport :=
  match r with
  | .reinvite m src => t.openProposal.learnRemoteRtp w m.body src.ip false
  | .answer m src => t.openProposal.learnRemoteRtp w m.body src.ip true

/-- `same_audio`, but for the RTP port. -/
def sameBesidesPort (old new : Negotiation) : Bool :=
  sameAudio { old with remoteRtpPort := new.remoteRtpPort } new

/-- Read in its role the SDP tells what is in force, whatever RTP port that has.  A re-INVITE can be
    answered, too; of video the answer to our own says the same stream in the same directions. -/
def ReadsAgain (w : World) (r : Refresh) (t : Transport) : Prop :=
  (t.readAgain w r).1 = true ∧
    sameBesidesPort t.negotiation (t.readAgain w r).2.negotiation = true ∧
    match r with
    | .reinvite .. =>
      (t.readAgain w r).2.buildReinviteAnswer w ≠ "" ∧
        (t.video.enabled = true →
          (t.readAgain w r).2.video.negotiation = t.video.negotiation)
    | .answer .. =>
      (t.readAgain w r).2.video.negotiation.negotiated = true ∧
        sameVideoMedia t.video.negotiation (t.readAgain w r).2.video.negotiation = true ∧
        (t.readAgain w r).2.video.negotiation.receiveEnabled =
          t.video.negotiation.receiveEnabled ∧
        (t.readAgain w r).2.video.negotiation.sendEnabled = t.video.negotiation.sendEnabled

instance (w : World) (r : Refresh) (t : Transport) : Decidable (ReadsAgain w r t) := by
  cases r <;> exact inferInstanceAs (Decidable (_ ∧ _ ∧ _))

/-- The comparison of the audio is that of the port and of the rest. -/
theorem sameAudio_iff (old new : Negotiation) :
    sameAudio old new = true ↔
      old.remoteRtpPort = new.remoteRtpPort ∧ sameBesidesPort old new = true := by
  unfold sameBesidesPort sameAudio
  simp only [Bool.and_eq_true, beq_iff_eq, and_true]
  constructor
  · rintro ⟨h, hport⟩
    exact ⟨hport.symm, h⟩
  · rintro ⟨hport, h⟩
    exact ⟨h, hport.symm⟩

/-! ## A re-INVITE of the peer -/

theorem sameVideoMedia_refl (v : VideoNegotiation) : sameVideoMedia v v = true := by
  simp [sameVideoMedia]

/-- Video that stays as it is takes no resources. -/
theorem admitVideo_same {new : VideoNegotiation}
    (h : t.video.enabled = true → new = t.video.negotiation) :
    t.admitVideo w new = (.ok {}, t) := by
  unfold admitVideo
  dsimp only
  split
  · rfl
  · rename_i henabled
    rw [h (by simpa using henabled)]
    simp only [sameVideoMedia_refl, beq_self_eq_true, Bool.and_self, Bool.not_true, Bool.and_false,
      Bool.not_and_self, Bool.and_not_self, Bool.or_self, Bool.false_eq_true, if_false]

/-- A re-INVITE that every gate lets through is weighed. -/
theorem handleReinvite_open (h : Refreshes (.reinvite m src) t) :
    t.handleReinvite w m src = t.weighReinvite w m src := by
  obtain ⟨hrefer, hmedia, hip, hfrom, hto, hidle, hdirection, hcseq, htype, hbody, hphase, _⟩ := h
  have hnew : ¬m.cseqNumber ≤ t.dialog.remoteDialogCseq := UInt32.not_le.2 hcseq
  unfold handleReinvite
  rw [if_neg (by rcases hrefer with h | h <;> simp [h]),
    if_neg (by rcases hrefer with h | h <;> simp [h]),
    if_neg (by simp [hmedia, hip, hfrom, hto]), if_neg (by simp [hidle]),
    if_neg (by simp [hdirection]), if_neg hnew, if_neg (by simp [htype, hbody]),
    if_neg (by simp only [hmedia, Bool.true_eq_false, or_false]; exact hphase)]

/-- A refusal is no 200. -/
theorem not_answered_refuse {status : Nat} (hformed : u.formed = t.formed) (hstatus : status ≠ 200)
    (phrase reason : String) : ¬((u.refuse w m src status phrase reason).1 = true ∧
      AnsweredWith 200 t (u.refuse w m src status phrase reason).2) := by
  rintro ⟨hok, msg, h200, hmsg⟩
  rcases sendStatelessResponse_cases w m src u status phrase reason true none with
    he | ⟨msg', hsent, hr⟩
  · have hfalse : (false, _).1 = true := (congrArg Prod.fst he).symm.trans hok
    cases hfalse
  · have hsame := hmsg.symm.trans (hr.formed.trans (congrArg _ hformed))
    rw [← (List.cons.inj hsame).1, h200] at hsent
    exact hstatus hsent.symm

theorem cseqNumber_ne_zero {a b : UInt32} (h : a < b) : b ≠ 0 := by
  rintro rfl
  exact absurd h (UInt32.not_lt.2 (UInt32.zero_le))

/-- Accepting an offer that leaves video alone changes no media. -/
theorem answerReinvite_same {new : VideoNegotiation} (hidle : awaitsAnyAck t.dialog = false)
    (hsrc : src.ip ≠ 0 ∧ src.port ≠ 0) (hcall : t.dialog.callId ≠ "") (hnumber : m.cseqNumber ≠ 0)
    (hvia : m.via ≠ []) (hnew : t.video.enabled = true → new = t.video.negotiation)
    (answer : String) :
    let r := t.answerReinvite w m src {} new answer
    r.1 = true ∧ AnsweredWith 200 t r.2 ∧ r.2.mediaState = t.mediaState := by
  intro r
  have hsent : ((t.recordReinvite m src).sendResponse w 200 "OK" answer "").1 = true :=
    sendResponse_accepted (t := t.recordReinvite m src) hidle hsrc hvia hcall hnumber "OK" answer ""
  have hr : r = (true, ((((t.recordReinvite m src).sendResponse w 200 "OK" answer ""
      ).2.noteAccepted m.cseqNumber).applyVideoPlan w {} new answer)) := by
    show t.answerReinvite w m src {} new answer = _
    unfold answerReinvite
    dsimp only
    rw [if_pos hsent]
  rcases sendResponse_cases w (t.recordReinvite m src) 200 "OK" answer "" with
    he | ⟨msg, hstatus, hresp⟩
  · rw [he] at hsent
    cases hsent
  · rw [hr]
    have hformed : ((((t.recordReinvite m src).sendResponse w 200 "OK" answer "").2.noteAccepted
        m.cseqNumber).applyVideoPlan w {} new answer).formed = msg :: t.formed :=
      (formed_applyVideoPlan _ _ _).trans hresp.formed
    refine ⟨rfl, ⟨msg, hstatus, hformed⟩, ?_⟩
    obtain ⟨tag, flow, response, path, invite, provisional, io, log, event, status, he, _⟩ := hresp
    rw [he]
    unfold applyVideoPlan commitReinvite noteAccepted
    simp only [Bool.false_eq_true, if_false]
    split
    · rename_i henabled
      rw [hnew henabled]
      rfl
    · rfl

/-- An accepted offer of other video takes effect, or ends the session. -/
theorem applyVideoPlan_moves (henabled : t.video.enabled = true)
    (hscope : t.referContextActive = false) (plan : VideoPlan) (new : VideoNegotiation)
    (answer : String) :
    (t.applyVideoPlan w plan new answer).video.negotiation = new ∨
      (t.applyVideoPlan w plan new answer).mediaActive = false := by
  have hcommit (u : Transport) (hu : u.video.enabled = true) :
      (u.commitReinvite new answer).video.negotiation = new := by
    unfold commitReinvite
    dsimp only
    rw [if_pos hu]
  have hstop (u : Transport) (hu : u.referContextActive = false) :
      u.failVideoActivation.mediaActive = false := by
    have hstopped : u.requestAudioPathStop.mediaActive = false :=
      mediaActive_requestAudioPathStop hu
    unfold failVideoActivation emitSipSignal
    dsimp only
    split <;> exact hstopped
  unfold applyVideoPlan
  split
  · exact .inl (hcommit _ henabled)
  · split
    · dsimp only
      split
      · exact .inl (hcommit _ henabled)
      · exact .inr (hstop _ hscope)
    · exact .inl (hcommit _ henabled)

/-- A re-INVITE that was accepted without effect on the media has said nothing new of video. -/
theorem video_of_answered {new : VideoNegotiation} (hmedia : t.mediaActive = true)
    (henabled : t.video.enabled = true) (hscope : t.referContextActive = false)
    (plan : VideoPlan) (answer : String)
    (hok : (t.answerReinvite w m src plan new answer).1 = true)
    (hsame : (t.answerReinvite w m src plan new answer).2.mediaState = t.mediaState) :
    new = t.video.negotiation := by
  unfold answerReinvite at hok hsame
  dsimp only at hok hsame
  split at hok
  · rename_i hsent
    rw [if_pos hsent] at hsame
    have hkept : ∃ u : Transport, ((t.recordReinvite m src).sendResponse w 200 "OK" answer ""
        ).2.noteAccepted m.cseqNumber = u ∧ u.video.enabled = true ∧
          u.referContextActive = false := by
      refine ⟨_, rfl, ?_⟩
      rcases sendResponse_cases w (t.recordReinvite m src) 200 "OK" answer "" with
        he | ⟨msg, _, hresp⟩
      · rw [he]
        exact ⟨henabled, hscope⟩
      · obtain ⟨tag, flow, response, path, invite, provisional, io, log, event, status, he, _⟩ :=
          hresp
        rw [he]
        exact ⟨henabled, hscope⟩
    obtain ⟨u, hu, huenabled, huscope⟩ := hkept
    rw [hu] at hsame
    rcases applyVideoPlan_moves (w := w) huenabled huscope plan new answer with h | h
    · exact h.symm.trans (congrArg (·.2.1) hsame)
    · have hactive : (u.applyVideoPlan w plan new answer).mediaActive = t.mediaActive :=
        congrArg (·.2.2.1) hsame
      rw [h, hmedia] at hactive
      cases hactive
  · cases hok

/-- What is restored of a weighed proposal. -/
theorem restored_proposal (sdp : String) (ip : UInt32) (isAnswer : Bool) :
    let u := (t.restoreMedia (t.openProposal.learnRemoteRtp w sdp ip isAnswer).2).closeProposal
    u.mediaState = t.mediaState ∧ u.formed = t.formed ∧ u.dialog = t.dialog ∧
      u.video.enabled = t.video.enabled ∧ u.referContextActive = t.referContextActive := by
  refine ⟨rfl, rfl, rfl, ?_, rfl⟩
  obtain ⟨n, v, he⟩ := learnRemoteRtp_shape w sdp ip isAnswer t.openProposal
  rw [he]
  rfl

/-- In the scope of a transfer an SDP says nothing of video. -/
theorem scope_of_video (sdp : String) (ip : UInt32) (isAnswer : Bool)
    (h : (t.openProposal.learnRemoteRtp w sdp ip isAnswer).2.video.negotiation ≠
      t.video.negotiation) : t.referContextActive = false := by
  rw [← Bool.not_eq_true]
  intro hactive
  refine h ?_
  have hactive' : t.openProposal.referContextActive = true := hactive
  unfold learnRemoteRtp
  dsimp only
  rw [if_pos hactive']
  rfl

/-- Exactly when a re-INVITE is accepted without effect on the media. -/
theorem neutral_reinvite_iff (h : Refreshes (.reinvite m src) t) :
    Neutral w (.reinvite m src) t ↔
      (t.readAgain w (.reinvite m src)).1 = true ∧
      sameAudio t.negotiation (t.readAgain w (.reinvite m src)).2.negotiation = true ∧
      (t.readAgain w (.reinvite m src)).2.buildReinviteAnswer w ≠ "" ∧
      (t.video.enabled = true →
        (t.readAgain w (.reinvite m src)).2.video.negotiation = t.video.negotiation) := by
  have hopen := handleReinvite_open (w := w) h
  obtain ⟨_, hmedia, _, _, _, hidle, _, hcseq, _, _, _, hcall, hip, hport, hvia⟩ := h
  unfold Neutral takeRefresh readAgain
  dsimp only
  rw [hopen]
  unfold weighReinvite
  dsimp only
  -- A proposal that is put back leaves what it found.
  obtain ⟨hkept, hformed, hdialog, henabled, hscope⟩ :=
    restored_proposal (w := w) (t := t) m.body src.ip false
  have hother := scope_of_video (w := w) (t := t) m.body src.ip false
  generalize t.openProposal.learnRemoteRtp w m.body src.ip false = learnt at *
  generalize (t.restoreMedia learnt.2).closeProposal = u at *
  have hold : u.video.negotiation = t.video.negotiation := congrArg (·.2.1) hkept
  by_cases hread : learnt.1 = false ∨ learnt.2.buildReinviteAnswer w = ""
  · -- the SDP is refused, or no answer to it can be written
    rw [if_pos hread]
    constructor
    · rintro ⟨hok, -, h200⟩
      exact absurd ⟨hok, h200⟩ (not_answered_refuse hformed (by decide) _ _)
    · rintro ⟨hok, -, hanswer, -⟩
      rcases hread with hno | hno
      · rw [hok] at hno
        cases hno
      · exact absurd hno hanswer
  rw [if_neg hread]
  rw [not_or, Bool.not_eq_false] at hread
  by_cases haudio : sameAudio t.negotiation learnt.2.negotiation = false
  · -- it changes the audio
    rw [if_pos haudio]
    constructor
    · rintro ⟨hok, -, h200⟩
      exact absurd ⟨hok, h200⟩ (not_answered_refuse hformed (by decide) _ _)
    · rintro ⟨-, hsame, -⟩
      rw [haudio] at hsame
      cases hsame
  rw [if_neg haudio]
  rw [Bool.not_eq_false] at haudio
  by_cases hvideo : t.video.enabled = true → learnt.2.video.negotiation = t.video.negotiation
  · -- nothing changes
    rw [← henabled, ← hold] at hvideo
    rw [admitVideo_same hvideo]
    obtain ⟨hok, ⟨msg, hstatus, hmsg⟩, hsame⟩ := answerReinvite_same (w := w) (t := u) (m := m)
      (by rw [hdialog]; exact hidle) ⟨hip, hport⟩ (by rw [hdialog]; exact hcall)
      (cseqNumber_ne_zero hcseq) hvia hvideo (learnt.2.buildReinviteAnswer w)
    rw [hformed] at hmsg
    rw [henabled, hold] at hvideo
    exact ⟨fun _ => ⟨hread.1, haudio, hread.2, hvideo⟩,
      fun _ => ⟨hok, hsame.trans hkept, msg, hstatus, hmsg⟩⟩
  · -- it changes the video
    refine ⟨fun hneutral => ?_, fun h => absurd h.2.2.2 hvideo⟩
    obtain ⟨hok, hsame, h200⟩ := hneutral
    rw [Classical.not_imp] at hvideo
    obtain ⟨io, running, hadmitted⟩ :=
      admitVideo_shape (w := w) (t := u) learnt.2.video.negotiation
    generalize (u.admitVideo w learnt.2.video.negotiation).1 = plan at *
    generalize (u.admitVideo w learnt.2.video.negotiation).2 = v at *
    have hvkept : v.mediaState = t.mediaState := by
      rw [hadmitted]
      exact hkept
    cases plan with
    | error reason =>
      have hvformed : v.formed = t.formed := by
        rw [hadmitted]
        exact hformed
      exact absurd ⟨hok, h200⟩ (not_answered_refuse hvformed (by decide) _ _)
    | ok plan =>
      have hvenabled : v.video.enabled = true := by
        rw [hadmitted]
        exact henabled.trans hvideo.1
      have hvscope : v.referContextActive = false := by
        rw [hadmitted]
        exact hscope.trans (hother hvideo.2)
      have hvmedia : v.mediaActive = t.mediaActive := congrArg (·.2.2.1) hvkept
      have hvvideo : v.video.negotiation = t.video.negotiation := congrArg (·.2.1) hvkept
      exact absurd ((video_of_answered (hvmedia.trans hmedia) hvenabled hvscope plan _ hok
        (hsame.trans hvkept.symm)).trans hvvideo) hvideo.2

/-! ## A 200 to our own re-INVITE -/

/-- Exactly when a 200 to our own re-INVITE is accepted without effect on the media. -/
theorem neutral_answer_iff (h : Refreshes (.answer m src) t) :
    Neutral w (.answer m src) t ↔
      (t.readAgain w (.answer m src)).1 = true ∧
      sameAudio t.negotiation (t.readAgain w (.answer m src)).2.negotiation = true ∧
      (t.readAgain w (.answer m src)).2.video.negotiation.negotiated = true ∧
      sameVideoMedia t.video.negotiation
        (t.readAgain w (.answer m src)).2.video.negotiation = true ∧
      (t.readAgain w (.answer m src)).2.video.negotiation.receiveEnabled =
        t.video.negotiation.receiveEnabled ∧
      (t.readAgain w (.answer m src)).2.video.negotiation.sendEnabled =
        t.video.negotiation.sendEnabled := by
  have hbody : m.body ≠ "" := h
  unfold Neutral takeRefresh readAgain applyVideoDirectionAnswer
  dsimp only
  rw [if_neg hbody]
  -- A proposal that is put back leaves what it found.
  obtain ⟨hkept, -⟩ := restored_proposal (w := w) (t := t) m.body src.ip true
  generalize t.openProposal.learnRemoteRtp w m.body src.ip true = learnt at *
  generalize (t.restoreMedia learnt.2).closeProposal = u at *
  have hvideo : u.video.negotiation = t.video.negotiation := congrArg (·.2.1) hkept
  unfold answeredDirection
  split
  · -- the answer is refused
    rename_i hnone
    refine ⟨fun h => absurd h.1 (by simp), fun ⟨hread, haudio, hnegotiated, hmedia, hrecv, _⟩ => ?_⟩
    rw [if_pos (by simp [hread, haudio, hnegotiated, hmedia, hrecv])] at hnone
    cases hnone
  · rename_i send hsend
    split at hsend
    · rename_i hsame
      cases hsend
      simp only [Bool.and_eq_true, beq_iff_eq] at hsame
      obtain ⟨⟨⟨⟨hread, haudio⟩, hnegotiated⟩, hmedia⟩, hrecv⟩ := hsame
      by_cases hdirection : learnt.2.video.negotiation.sendEnabled =
          t.video.negotiation.sendEnabled
      · have hgranted : u.requestSendDirection w learnt.2.video.negotiation.sendEnabled =
            (true, u) := by
          unfold requestSendDirection
          rw [if_pos (by rw [hdirection, hvideo])]
        rw [hgranted, hdirection, ← hkept, ← hvideo]
        exact ⟨fun _ => ⟨hread, haudio, hnegotiated, hvideo ▸ hmedia, hvideo ▸ hrecv, rfl⟩,
          fun _ => ⟨rfl, rfl, trivial⟩⟩
      · -- the direction changes with the answer
        refine ⟨fun ⟨hok, hstate, _⟩ => ?_, fun h => absurd h.2.2.2.2.2 hdirection⟩
        split at hok
        · rename_i hgranted
          rw [if_pos hgranted] at hstate
          have hsendEnabled := congrArg (·.2.1.sendEnabled) hstate
          exact absurd hsendEnabled hdirection
        · rename_i hgranted
          exact absurd hok hgranted
    · cases hsend

/-! ## The result -/

/-- The transport reads an SDP with the SDP module of its endpoint. -/
theorem learnRemoteRtp_eq {e : SdpEndpoint} (hw : w.sdp = Sdp.sdpModule e) {sdp : String}
    {ip : UInt32} {isAnswer ok : Bool} {n : Negotiation} {v : VideoNegotiation}
    (h : Sdp.learn e t.sdpContext sdp.toList ip isAnswer = (ok, n, v)) :
    t.learnRemoteRtp w sdp ip isAnswer = (ok, { t with
      negotiation := n
      video := if t.referContextActive then t.video else { t.video with negotiation := v } }) := by
  have hlearn : w.sdp.learn t.sdpContext sdp ip isAnswer = (ok, n, v) := by
    rw [hw]
    exact h
  unfold learnRemoteRtp
  rw [hlearn]

theorem learnRemoteRtp_port {e : SdpEndpoint} (hw : w.sdp = Sdp.sdpModule e) {sdp : String}
    {ip : UInt32} {isAnswer : Bool} (h : (t.learnRemoteRtp w sdp ip isAnswer).1 = true) :
    (t.learnRemoteRtp w sdp ip isAnswer).2.negotiation.remoteRtpPort =
      .ofNat (Sdp.audioPort sdp.toList) := by
  rcases hl : Sdp.learn e t.sdpContext sdp.toList ip isAnswer with ⟨ok, n, v⟩
  rw [learnRemoteRtp_eq hw hl] at h ⊢
  cases h
  exact Sdp.remoteRtpPort_of_learn hl

/-- Accepting a message that repeats an SDP comes down to the port and the rest. -/
theorem neutral_iff (hsdp : NegotiatedWith w r.sdp u) {e : SdpEndpoint}
    (hw : w.sdp = Sdp.sdpModule e) (h : Refreshes r t) :
    Neutral w r t ↔
      t.negotiation.remoteRtpPort = u.negotiation.remoteRtpPort ∧ ReadsAgain w r t := by
  obtain ⟨before, ip, isAnswer, hbefore, hport⟩ := hsdp
  rw [hport, learnRemoteRtp_port hw hbefore]
  cases r with
  | reinvite m src =>
    have hread (h : (t.readAgain w (.reinvite m src)).1 = true) :
        (t.readAgain w (.reinvite m src)).2.negotiation.remoteRtpPort =
          .ofNat (Sdp.audioPort m.body.toList) := learnRemoteRtp_port hw h
    rw [neutral_reinvite_iff h, sameAudio_iff]
    unfold ReadsAgain Refresh.sdp
    constructor
    · rintro ⟨hok, ⟨hport, haudio⟩, hrest⟩
      exact ⟨hport.trans (hread hok), hok, haudio, hrest⟩
    · rintro ⟨hport, hok, haudio, hrest⟩
      exact ⟨hok, ⟨hport.trans (hread hok).symm, haudio⟩, hrest⟩
  | answer m src =>
    have hread (h : (t.readAgain w (.answer m src)).1 = true) :
        (t.readAgain w (.answer m src)).2.negotiation.remoteRtpPort =
          .ofNat (Sdp.audioPort m.body.toList) := learnRemoteRtp_port hw h
    rw [neutral_answer_iff h, sameAudio_iff]
    unfold ReadsAgain Refresh.sdp
    constructor
    · rintro ⟨hok, ⟨hport, haudio⟩, hrest⟩
      exact ⟨hport.trans (hread hok), hok, haudio, hrest⟩
    · rintro ⟨hport, hok, haudio, hrest⟩
      exact ⟨hok, ⟨hport.trans (hread hok).symm, haudio⟩, hrest⟩

/-- Receive these packets. -/
def receiveAll (packets : List (RtpPacket × Peer)) (t : Transport) : Transport :=
  packets.foldl (fun t p => t.receiveRtp p.1 p.2) t

theorem receiveRtp_shape (packet : RtpPacket) (src : Peer) : ∃ port latch count,
    t.receiveRtp packet src = { t with
      negotiation := { t.negotiation with remoteRtpPort := port }
      rtpLatch := latch
      rtpRxPackets := count } := by
  unfold receiveRtp followRtpSource
  dsimp only
  repeat' split
  all_goals exact ⟨_, _, _, rfl⟩

/-- RTP packets move the peer's RTP port and nothing else that is negotiated. -/
theorem receiveAll_shape (packets : List (RtpPacket × Peer)) (t : Transport) :
    ∃ port latch count, t.receiveAll packets = { t with
      negotiation := { t.negotiation with remoteRtpPort := port }
      rtpLatch := latch
      rtpRxPackets := count } := by
  induction packets generalizing t with
  | nil => exact ⟨_, _, _, rfl⟩
  | cons p packets ih =>
    obtain ⟨port, latch, count, hp⟩ := receiveRtp_shape (t := t) p.1 p.2
    obtain ⟨port', latch', count', hps⟩ := ih (t.receiveRtp p.1 p.2)
    refine ⟨port', latch', count', ?_⟩
    show (t.receiveRtp p.1 p.2).receiveAll packets = _
    rw [hps, hp]

/-- The SDP was read as an offer, with the formats that are offered here now, and what it told is in
    force. -/
structure OfferInForce (w : World) (m : SipMessage) (src : Peer) (before t : Transport) :
    Prop where
  accepted : (before.learnRemoteRtp w m.body src.ip false).1 = true
  audio : sameAudio t.negotiation
    (before.learnRemoteRtp w m.body src.ip false).2.negotiation = true
  video : t.video.enabled = true →
    (before.learnRemoteRtp w m.body src.ip false).2.video.negotiation = t.video.negotiation
  txFormats : t.offerTxFormats = before.offerTxFormats
  rxFormats : t.offerRxFormats = before.offerRxFormats
  sendRequested : t.video.sendRequested = before.video.sendRequested
  outside : before.referContextActive = false ∧ t.referContextActive = false

/-- Such an SDP tells the same as an offer again. -/
theorem OfferInForce.readsAgain {e : SdpEndpoint} (hw : w.sdp = Sdp.sdpModule e)
    {before : Transport} (h : OfferInForce w m src before t) (packets : List (RtpPacket × Peer))
    (hanswer : ((t.receiveAll packets).readAgain w (.reinvite m src)).2.buildReinviteAnswer w ≠
      "") : ReadsAgain w (.reinvite m src) (t.receiveAll packets) := by
  obtain ⟨port, latch, count, hmoved⟩ := receiveAll_shape packets t
  generalize t.receiveAll packets = now at *
  obtain ⟨haccepted, haudio, hvideo, htx, hrx, hsend, hscope, hscope'⟩ := h
  rcases hl : Sdp.learn e before.sdpContext m.body.toList src.ip false with ⟨ok, n, v⟩
  rw [learnRemoteRtp_eq hw hl] at haccepted haudio hvideo
  cases haccepted
  have hagain := Sdp.learn_offer_again (d := now.openProposal.sdpContext)
    (by rw [hmoved]; exact htx.symm) (by rw [hmoved]; exact hrx.symm) hl
  have hread := learnRemoteRtp_eq (t := now.openProposal) hw hagain
  unfold ReadsAgain readAgain at *
  dsimp only at *
  rw [hread] at hanswer ⊢
  refine ⟨rfl, ?_, hanswer, fun henabled => ?_⟩
  · rw [hmoved]
    exact ((sameAudio_iff _ _).mp haudio).2
  · have hnow : now.openProposal.referContextActive = false := by
      rw [hmoved]
      exact hscope'
    have hkept : now.video = t.video := by rw [hmoved]
    rw [hnow, hkept]
    have hagain := Sdp.learntVideo_again (e := e) (c := before.sdpContext)
      (d := now.openProposal.sdpContext) (by rw [hmoved]; exact hsend.symm) hscope hnow
      m.body.toList src.ip false
    rcases hagain with h | h
    · have hv := (Sdp.learn_iff.mp hl).2.2
      rw [← hv] at h
      have hold := hvideo (by rw [← hkept]; exact henabled)
      rw [hscope] at hold
      exact h.trans hold
    · rw [← hkept]
      exact h

/-- In a call that the peer made, its re-INVITE that repeats its offer is accepted without effect on
    the media exactly when the packets left its RTP port what it was. -/
theorem OfferInForce.neutral_iff {e : SdpEndpoint} (hw : w.sdp = Sdp.sdpModule e)
    {before : Transport} (h : OfferInForce w m src before t) (packets : List (RtpPacket × Peer))
    (hopen : Refreshes (.reinvite m src) (t.receiveAll packets))
    (hanswer : ((t.receiveAll packets).readAgain w (.reinvite m src)).2.buildReinviteAnswer w ≠
      "") :
    Neutral w (.reinvite m src) (t.receiveAll packets) ↔
      (t.receiveAll packets).negotiation.remoteRtpPort = t.negotiation.remoteRtpPort := by
  have hsdp : NegotiatedWith w (Refresh.sdp (.reinvite m src)) t :=
    ⟨before, src.ip, false, h.accepted, ((sameAudio_iff _ _).mp h.audio).1⟩
  rw [Transport.neutral_iff hsdp hw hopen]
  exact and_iff_left (h.readsAgain hw packets hanswer)

/-! ## Calls with Hall -/

/-- An RTP packet of Hall's, from this port. -/
def packetFromHall (port : UInt16) : RtpPacket × Peer :=
  ({ payloadType := 96, ssrc := 7, wellFormed := true }, { ip := 2, port := port })

/-- Hall's SDP when it was called: it sends the format that was offered with payload type 96 as
    payload type 97. -/
def remappedSdp : String :=
  "v=0\r\nm=audio 4000 RTP/AVP 97\r\na=rtpmap:97 L16/16000/1\r\na=ptime:16\r\n"

/-- Hall answers the call. -/
def okFromHall : SipMessage :=
  { start := .response 200 "OK"
    via := [{ branch := some "z9hG4bK1" }]
    fromAddr := some { uri := { user := "kitchen" }, tag := "tag1" }
    toAddr := some { uri := { user := "hall" }, tag := "hall" }
    callId := "hall"
    cseq := some { number := 1, method := .invite }
    contentType := "application/sdp"
    body := remappedSdp }

/-- Hall is called and its media runs. -/
def callingHall : List Event :=
  [.command (.setRemote "10.0.0.2" 5060 0),
    .command (.sendInvite "hall" "kitchen" "" "hall" ""),
    .udp okFromHall hall,
    .command .prepareMediaPath,
    .command .commitMediaPath]

end Transport

end EsphomeVoip
