import EsphomeVoip.Sdp.Learn
import EsphomeVoip.Transport.Bye
import EsphomeVoip.Transport.Run

/-! # The re-INVITE of an established dialog

`handle_reinvite_` parses the proposal into the live fields and brings the old values back before it
answers.  Whatever it answers but 200, the session is what it was, and no proposal is left open. -/

namespace EsphomeVoip

namespace Transport

variable {w : World} {t u : Transport} {m msg : SipMessage} {src : Peer}

/-! ## The session -/

/-- The negotiated media without the memory of our own offers, and what a re-INVITE moves. -/
structure Session where
  negotiation : Negotiation
  video : VideoNegotiation
  sdpSessionVersion : UInt32
  lastInviteVia : List Via
  lastInviteFrom : Option NameAddr
  lastInviteTo : Option NameAddr
  lastInviteCseq : Option CSeq
  lastInviteResponse : Option SipMessage
  lastInviteCseqNumber : UInt32
  lastInvitePeerIp : UInt32
  lastInvitePeerPort : UInt16
  remoteDialogCseq : UInt32
  remoteTargetUri : SipUri
  deriving DecidableEq

/-- The session of the owned dialog. -/
def session (t : Transport) : Session :=
  { negotiation := { t.negotiation with
      localOfferedRxPayloads := []
      localOfferedTxFormats := []
      localOfferedDirectionalAudioV1 := false }
    video := t.video.negotiation
    sdpSessionVersion := t.dialog.sdpSessionVersion
    lastInviteVia := t.dialog.lastInviteVia
    lastInviteFrom := t.dialog.lastInviteFrom
    lastInviteTo := t.dialog.lastInviteTo
    lastInviteCseq := t.dialog.lastInviteCseq
    lastInviteResponse := t.dialog.lastInviteResponse
    lastInviteCseqNumber := t.dialog.lastInviteCseqNumber
    lastInvitePeerIp := t.dialog.lastInvitePeerIp
    lastInvitePeerPort := t.dialog.lastInvitePeerPort
    remoteDialogCseq := t.dialog.remoteDialogCseq
    remoteTargetUri := t.dialog.remoteTargetUri }

/-- The session and the parity of the proposal epoch are those of `t`. -/
def KeepsSession (t t' : Transport) : Prop :=
  t'.session = t.session ∧ t'.mediaProposalEpoch % 2 = t.mediaProposalEpoch % 2

theorem KeepsSession.refl (t : Transport) : KeepsSession t t := ⟨rfl, rfl⟩

theorem KeepsSession.trans {a b c : Transport} (hab : KeepsSession a b)
    (hbc : KeepsSession b c) : KeepsSession a c :=
  ⟨hbc.1.trans hab.1, hbc.2.trans hab.2⟩

theorem Refused.keepsSession (h : Refused msg t u) : KeepsSession t u := by
  obtain ⟨flow, invite, control, io, log, event, status, rfl, _⟩ := h
  exact ⟨rfl, rfl⟩

theorem keepsSession_stateless (status : Nat) (phrase reason : String) (cache : Bool)
    (retryAfter : Option UInt32) : KeepsSession t
      (t.sendStatelessResponse w m src status phrase reason cache retryAfter).2 := by
  rcases sendStatelessResponse_cases w m src t status phrase reason cache retryAfter with
    he | ⟨msg, _, hr⟩
  · rw [he]
    exact .refl t
  · exact hr.keepsSession

theorem keepsSession_refuseForNow (reason : String) (cache : Bool) :
    KeepsSession t (t.refuseForNow w m src reason cache).2 := by
  have hrandom : KeepsSession t (t.espRandom w).2 := ⟨rfl, rfl⟩
  exact hrandom.trans (keepsSession_stateless _ _ _ _ _)

/-! ## Weighing a proposal -/

/-- A proposal that is taken back leaves the session alone, and closes its epoch. -/
theorem keepsSession_restored (sdp : String) (ip : UInt32) (answer : Bool) :
    KeepsSession t
      (t.restoreMedia (t.openProposal.learnRemoteRtp w sdp ip answer).2).closeProposal := by
  obtain ⟨n, v, he⟩ := learnRemoteRtp_shape w sdp ip answer t.openProposal
  rw [he]
  refine ⟨rfl, ?_⟩
  show (t.mediaProposalEpoch + 1 + 1) % 2 = t.mediaProposalEpoch % 2
  have h1 : (1 : UInt32).toNat = 1 := rfl
  have h2 : (2 : UInt32).toNat = 2 := rfl
  apply UInt32.toNat_inj.1
  rw [UInt32.toNat_mod, UInt32.toNat_mod, UInt32.toNat_add, UInt32.toNat_add, h1, h2]
  omega

/-- Admitting video takes resources, and may start the session or stop it. -/
theorem admitVideo_shape (new : VideoNegotiation) : ∃ io running,
    (t.admitVideo w new).2 = { t with
      io := io
      video := { t.video with sessionRunning := running } } := by
  unfold admitVideo admitNewVideo resource videoRequestStop
  dsimp only
  repeat' split
  all_goals exact ⟨_, _, rfl⟩

theorem keepsSession_admitVideo (new : VideoNegotiation) :
    KeepsSession t (t.admitVideo w new).2 := by
  obtain ⟨io, running, he⟩ := admitVideo_shape (w := w) (t := t) new
  rw [he]
  exact ⟨rfl, rfl⟩

theorem formed_requestAudioPathStop : t.requestAudioPathStop.formed = t.formed := by
  unfold requestAudioPathStop closeMediaSession videoRequestStop
  dsimp only
  repeat' split
  all_goals rfl

theorem formed_applyVideoPlan (plan : VideoPlan) (new : VideoNegotiation) (answer : String) :
    (t.applyVideoPlan w plan new answer).formed = t.formed := by
  have hcommit (u : Transport) : (u.commitReinvite new answer).formed = u.formed := by
    unfold commitReinvite
    dsimp only
    split <;> rfl
  unfold applyVideoPlan
  split
  · exact hcommit _
  · split
    · dsimp only
      split
      · exact hcommit _
      · unfold failVideoActivation
        exact (formed_emitSipSignal _).trans formed_requestAudioPathStop
    · exact hcommit _

/-- The re-INVITE is answered 200, or all that it had moved is brought back. -/
theorem answerReinvite_cases (w : World) (t : Transport) (m : SipMessage) (src : Peer)
    (plan : VideoPlan) (new : VideoNegotiation) (answer : String) :
    ((t.answerReinvite w m src plan new answer).1 = true ∧
      AnsweredWith 200 t (t.answerReinvite w m src plan new answer).2) ∨
    ((t.answerReinvite w m src plan new answer).1 = false ∧
      KeepsSession t (t.answerReinvite w m src plan new answer).2) := by
  unfold answerReinvite
  have hformed : (t.recordReinvite m src).formed = t.formed := rfl
  dsimp only
  split
  · rename_i hsent
    refine .inl ⟨rfl, ?_⟩
    rcases sendResponse_cases w (t.recordReinvite m src) 200 "OK" answer "" with
      he | ⟨msg, hstatus, hr⟩
    · rw [he] at hsent
      cases hsent
    · have hnoted (u : Transport) : (u.noteAccepted m.cseqNumber).formed = u.formed := rfl
      refine ⟨msg, hstatus, (formed_applyVideoPlan plan new answer).trans ?_⟩
      rw [hnoted, hr.formed, hformed]
  · refine .inr ⟨rfl, ?_⟩
    have hback (v : Transport) (hv : v.dialog.sdpSessionVersion = t.dialog.sdpSessionVersion)
        (hepoch : v.mediaProposalEpoch = t.mediaProposalEpoch) :
        KeepsSession t ((t.restoreMedia v).restoreLastInvite t.dialog) := by
      refine ⟨?_, congrArg (· % 2) hepoch⟩
      unfold session restoreLastInvite restoreMedia
      dsimp only
      rw [hv]
    rcases sendResponse_cases w (t.recordReinvite m src) 200 "OK" answer "" with
      he | ⟨msg, _, hr⟩
    · rw [he]
      split <;> exact hback _ rfl rfl
    · obtain ⟨tag, flow, response, path, invite, provisional, io, log, event, status, he, _⟩ := hr
      rw [he]
      split <;> exact hback _ rfl rfl

/-- What `weigh` does with a proposal is to answer 200 or to keep the session. -/
theorem weighReinvite_cases :
    ((t.weighReinvite w m src).1 = true ∧ AnsweredWith 200 t (t.weighReinvite w m src).2) ∨
      KeepsSession t (t.weighReinvite w m src).2 := by
  have hrestored := keepsSession_restored (w := w) (t := t) m.body src.ip false
  unfold weighReinvite
  dsimp only
  split
  · exact .inr (hrestored.trans (keepsSession_stateless _ _ _ _ _))
  · split
    · exact .inr (hrestored.trans (keepsSession_stateless _ _ _ _ _))
    · generalize hu : (t.restoreMedia (t.openProposal.learnRemoteRtp w m.body src.ip false).2
        ).closeProposal = u at hrestored
      have hformed : u.formed = t.formed := hu ▸ rfl
      have hallowed := hrestored.trans (keepsSession_admitVideo (w := w)
        (t.openProposal.learnRemoteRtp w m.body src.ip false).2.video.negotiation)
      have hallowedFormed : (u.admitVideo w
          (t.openProposal.learnRemoteRtp w m.body src.ip false).2.video.negotiation).2.formed =
          t.formed := by
        obtain ⟨io, running, he⟩ := admitVideo_shape (w := w) (t := u)
          (t.openProposal.learnRemoteRtp w m.body src.ip false).2.video.negotiation
        rw [he]
        exact hformed
      split
      · exact .inr (hallowed.trans (keepsSession_stateless _ _ _ _ _))
      · rename_i plan _
        rcases answerReinvite_cases w _ m src plan
          (t.openProposal.learnRemoteRtp w m.body src.ip false).2.video.negotiation
          ((t.openProposal.learnRemoteRtp w m.body src.ip false).2.buildReinviteAnswer w) with
          ⟨hok, msg, hstatus, hf⟩ | ⟨_, hkeep⟩
        · exact .inl ⟨hok, msg, hstatus, hf.trans (congrArg _ hallowedFormed)⟩
        · exact .inr (hallowed.trans hkeep)

theorem handleReinvite_cases :
    ((t.handleReinvite w m src).1 = true ∧ AnsweredWith 200 t (t.handleReinvite w m src).2) ∨
      KeepsSession t (t.handleReinvite w m src).2 := by
  unfold handleReinvite
  split
  · exact .inr (keepsSession_stateless _ _ _ _ _)
  split
  · exact .inr (keepsSession_stateless _ _ _ _ _)
  split
  · exact .inr (keepsSession_stateless _ _ _ _ _)
  split
  · exact .inr (keepsSession_refuseForNow _ _)
  split
  · exact .inr (keepsSession_stateless _ _ _ _ _)
  split
  · exact .inr (keepsSession_refuseForNow _ _)
  split
  · exact .inr (keepsSession_stateless _ _ _ _ _)
  split
  · exact .inr (keepsSession_stateless _ _ _ _ _)
  · exact weighReinvite_cases

/-- A re-INVITE that is not answered 200 leaves the session as it was.  The proposal epoch keeps its
    parity, and outside the scope of a transfer, where it is that of a state between two events, it
    is even: no proposal is left open. -/
theorem reinvite_atomic (w : World) (t : Transport) (m : SipMessage) (src : Peer)
    (h : ¬((t.handleReinvite w m src).1 = true ∧
      AnsweredWith 200 t (t.handleReinvite w m src).2)) :
    KeepsSession t (t.handleReinvite w m src).2 ∧
      ∀ (c : Setup) (es : List Event),
        t.mediaProposalEpoch = (runFrom w c es).mediaProposalEpoch →
        (t.handleReinvite w m src).2.mediaProposalEpoch % 2 = 0 := by
  have hkeeps := handleReinvite_cases.resolve_left h
  refine ⟨hkeeps, fun c es hepoch => ?_⟩
  rw [hkeeps.2, hepoch]
  exact even_epoch_runFrom w c es

/-! ## A call from Hall -/

/-- A world in which every request succeeds, and an endpoint that reads and writes SDP. -/
def speakingWorld : World := { grantingWorld with sdp := Sdp.sdpModule {} }

/-- Hall's SDP. -/
def hallSdp : String :=
  "v=0\r\nm=audio 4000 RTP/AVP 96\r\na=rtpmap:96 L16/16000/1\r\na=ptime:16\r\n"

/-- Hall's call is answered here and its media runs. -/
def talkingWithHall : List Event :=
  [.udp (inviteFromHall "hall" "b1" 1 hallSdp) hall,
    .command .prepareMediaPath,
    .command (.sendAnswer "hall" defaultAudioFormat defaultAudioFormat),
    .command .commitMediaPath,
    .udp { byeFromHall with
      start := .request .ack {}, cseq := some { number := 1, method := .ack } } hall]

/-- Hall offers this within the call. -/
def reinviteFromHall (sdp : String) : SipMessage :=
  { inviteFromHall "hall" "b3" 2 sdp with
    toAddr := some { uri := { user := "kitchen" }, tag := "tag1" } }

/-- An offer of Hall's without a format that is known here is answered 488 once it was weighed. -/
theorem incompatible_reinvite_keeps_session :
    let t := runFrom speakingWorld plainSetup talkingWithHall
    let m := reinviteFromHall "v=0\r\nm=audio 4000 RTP/AVP 0\r\na=rtpmap:0 PCMU/8000\r\n"
    KeepsSession t (t.handleReinvite speakingWorld m hall).2 ∧
      (t.handleReinvite speakingWorld m hall).2.mediaProposalEpoch = t.mediaProposalEpoch + 2 ∧
      (t.handleReinvite speakingWorld m hall).2.mediaProposalEpoch % 2 = 0 := by
  intro t m
  have hstatus : (t.handleReinvite speakingWorld m hall).2.formed.head?.map SipMessage.status =
      some 488 := by decide +kernel
  have h := reinvite_atomic speakingWorld t m hall (by
    rintro ⟨_, msg, hok, hformed⟩
    rw [hformed] at hstatus
    simp [hok] at hstatus)
  exact ⟨h.1, by decide +kernel, h.2 plainSetup talkingWithHall rfl⟩

end Transport

end EsphomeVoip
