import EsphomeVoip.Transport.Refine.Dialog

/-! # The moves of a direction change of video

The re-INVITE is formed, kept while its response is outstanding, and acknowledged.  It ends the
dialog when the peer does not know it, does not answer, or answers with other media. -/

namespace EsphomeVoip

open Wire (Sends Notified)

namespace Transport

variable {o : Mode} {b : Bool} {w : World} {t u : Transport} {m msg : SipMessage} {src : Peer}
  {p : PendingVideoDirectionInvite}

/-! ## The re-INVITE -/

/-- A direction change without an outstanding transaction. -/
theorem evolves_setPendingDirection_idle (h : p.transaction = none) :
    Evolves o t (t.setPendingDirection (some p)) := by
  apply Evolves.of_move
  have hmove := Move.dropDirection (b := o.ordered) t.wire
  have hwire : (t.setPendingDirection (some p)).wire = { t.wire with direction := none } := by
    unfold setPendingDirection wire
    dsimp only [Option.bind]
    rw [h]
    rfl
  rw [hwire]
  exact hmove

theorem evolves_clearPendingDirection : Evolves o t (t.setPendingDirection none) :=
  .of_move (.dropDirection t.wire)

theorem evolves_setVideoSendRequested (enabled : Bool) :
    Evolves o t (t.setVideoSendRequested enabled) := .of_eq rfl

theorem evolves_abandonDirection : Evolves o t (t.abandonDirection p) :=
  evolves_clearPendingDirection.trans (evolves_setVideoSendRequested _)

/-- The re-INVITE that was formed is kept. -/
theorem evolves_setPendingDirection_sent {request : Option SipMessage}
    (h : ∀ msg, request = some msg → msg ∈ made t.log) (proposal : PendingVideoDirectionInvite)
    (branch : String) (cseq : UInt32) :
    Evolves o t (t.setPendingDirection
      (some (t.pendingDirectionOf proposal branch cseq request))) := by
  cases request with
  | none => exact evolves_setPendingDirection_idle rfl
  | some msg => exact .of_move (.keepDirection t.wire msg (h msg rfl))

theorem evolves_offerDirection (proposal : PendingVideoDirectionInvite) :
    Evolves o t (t.offerDirection w proposal).2 := by
  unfold offerDirection
  dsimp only
  generalize hu : (setVideoSendRequested proposal.targetSend (makeToken w ""
    { t.rememberDirectionOffer w proposal.offeredSdp with
      dialog := { (t.rememberDirectionOffer w proposal.offeredSdp).dialog with
        cseq := (t.rememberDirectionOffer w proposal.offeredSdp).dialog.cseq + 1 } }).2) = u
  have hset : Evolves o t u := .of_eq (by rw [← hu]; rfl)
  generalize ("z9hG4bK" ++ (makeToken w "" { t.rememberDirectionOffer w proposal.offeredSdp with
    dialog := { (t.rememberDirectionOffer w proposal.offeredSdp).dialog with
      cseq := (t.rememberDirectionOffer w proposal.offeredSdp).dialog.cseq + 1 } }).1) = branch
  have hmay (options : SipRequestOptions) : MayRequest .invite options u :=
    .of_free options (by decide) u
  split
  · refine (hset.trans (evolves_sendRequestFormatted (hmay _) proposal.offeredSdp)).trans
      (evolves_setPendingDirection_sent ?_ _ _ _)
    intro msg hmsg
    exact made_sendRequestFormatted hmsg
  · exact (hset.trans (evolves_sendRequestFormatted (hmay _) proposal.offeredSdp)).trans
      (evolves_setVideoSendRequested _)

theorem evolves_sendVideoDirectionReinvite (enabled retry : Bool) :
    Evolves o t (t.sendVideoDirectionReinvite w enabled retry).2 := by
  unfold sendVideoDirectionReinvite
  split
  · exact .refl t
  · dsimp only
    split
    · exact .refl t
    · exact evolves_offerDirection _

theorem evolves_requestVideoSend (enabled : Bool) :
    Evolves o t (t.requestVideoSend w enabled).2 := by
  unfold requestVideoSend
  split
  · exact evolves_setVideoSendRequested enabled
  · split
    · exact .refl t
    · split
      · exact .refl t
      · split
        · exact evolves_setVideoSendRequested enabled
        · exact evolves_sendVideoDirectionReinvite enabled false

/-! ## Its response -/

/-- Media is weighed and restored. -/
theorem evolves_weigh (learnt : Transport) (h : learnt.wire = t.openProposal.wire) :
    Evolves o t (t.restoreMedia learnt).closeProposal := by
  apply Evolves.of_move
  have hepoch : learnt.mediaProposalEpoch = t.mediaProposalEpoch + 1 := congrArg Wire.epoch h
  have hwire : (t.restoreMedia learnt).closeProposal.wire =
      { learnt.wire with epoch := learnt.mediaProposalEpoch + 1 } := rfl
  have hsum : t.mediaProposalEpoch + 1 + 1 = t.mediaProposalEpoch + 2 := by
    rw [UInt32.add_assoc]
    rfl
  rw [hwire, h, hepoch, hsum]
  exact .weigh t.wire

theorem wire_requestSendDirection (send : Bool) :
    (t.requestSendDirection w send).2.wire = t.wire := by
  unfold requestSendDirection
  repeat' split
  all_goals rfl

theorem evolves_applyVideoDirectionAnswer (sdp : String) (defaultIp : UInt32) :
    Evolves o t (t.applyVideoDirectionAnswer w sdp defaultIp).2 := by
  unfold applyVideoDirectionAnswer
  split
  · exact .refl t
  · have hweighed : Evolves o t (t.restoreMedia
        (t.openProposal.learnRemoteRtp w sdp defaultIp true).2).closeProposal :=
      evolves_weigh _ (wire_learnRemoteRtp _ _ _)
    dsimp only
    split
    · exact hweighed
    · rename_i send _
      have hgranted := hweighed.trans (.of_eq (wire_requestSendDirection (w := w) send))
      split
      · exact hgranted.trans (.of_eq rfl)
      · exact hgranted

theorem evolves_replayCompletedVideoDirectionAck :
    Evolves o t (t.replayCompletedVideoDirectionAck w m src).2 := by
  unfold replayCompletedVideoDirectionAck
  cases hc : t.video.completedDirection with
  | none => exact .refl t
  | some c =>
    dsimp only
    split
    · exact .of_move (.dropDirectionAck t.wire)
    · split
      · refine evolves_sendAgain ?_ _ _ _
        have hack : t.wire.directionAck = some c.ack := congrArg (Option.map _) hc
        unfold Wire.kept
        simp [hack]
      · exact .refl t

theorem evolves_ackDirection : Evolves o t (t.ackDirection w m src p) := by
  unfold ackDirection
  dsimp only
  generalize hu : (if m.status < 300 then t.makeToken w "" else ("", t)).2 = u
  have htoken : Evolves o t u := by
    refine .of_eq ?_
    rw [← hu]
    split <;> rfl
  have hmay (options : SipRequestOptions) : MayRequest .ack options u :=
    .of_free options (by decide) u
  split
  · exact htoken.trans (evolves_sendRequestFormatted (hmay _) "")
  · rename_i ack hack
    have hmade := made_sendRequestFormatted hack
    have hmove := Move.keepDirectionAck (b := o.ordered) (wire _) ack hmade
    exact (htoken.trans (evolves_sendRequestFormatted (w := w) (hmay _) "")).trans (.of_move hmove)

theorem wire_retarget (contact : SipUri) : (t.retarget contact).wire = t.wire := by
  unfold retarget
  split <;> rfl

theorem evolves_endDialog {type : SipSignalType} (htype : type ≠ .mediaReady) (status : Nat)
    (callId reason : String) (ho : Outer o t) :
    Evolves o t (t.endDialog w type status callId reason) := by
  have hbye := evolves_sendBye (w := w) callId ho
  unfold endDialog
  dsimp only
  split
  · exact hbye.trans (evolves_emitSipSignal _ htype)
  · exact (hbye.trans evolves_resetDialog).trans (evolves_emitSipSignal _ htype)

theorem evolves_concludeDirection (ho : Outer o t) :
    Evolves o t (t.concludeDirection w m src p) := by
  have happlied := evolves_applyVideoDirectionAnswer (o := o) (w := w) (t := t) m.body src.ip
  unfold concludeDirection
  dsimp only
  split
  · exact (happlied.trans evolves_clearPendingDirection).trans (.of_eq rfl)
  · have habandoned := happlied.trans (evolves_abandonDirection (p := p))
    have hbye := habandoned.trans (evolves_sendBye (w := w)
      ((t.applyVideoDirectionAnswer w m.body src.ip).2.abandonDirection p).dialog.callId
      (ho.evolves habandoned))
    split
    · exact hbye.trans (evolves_emitSipSignal _ (by intro h; cases h))
    · exact (hbye.trans evolves_resetDialog).trans
        (evolves_emitSipSignal _ (by intro h; cases h))

theorem evolves_scheduleDirectionRetry : Evolves o t (t.scheduleDirectionRetry w p) := by
  have hrandom : Evolves o t (t.espRandom w).2 := .of_eq rfl
  exact hrandom.trans (evolves_setPendingDirection_idle rfl)

theorem evolves_refuseDirection (status : Nat) (ho : Outer o t) :
    Evolves o t (t.refuseDirection w status p) := by
  unfold refuseDirection
  split
  · exact evolves_scheduleDirectionRetry
  · have habandoned : Evolves o t (t.abandonDirection p) := evolves_abandonDirection
    dsimp only
    split
    · exact habandoned.trans (evolves_endDialog (by intro h; cases h) _ _ _
        (ho.evolves habandoned))
    · exact habandoned

theorem evolves_directionResponse (hp : t.video.pendingDirection = some p) (ho : Outer o t) :
    Evolves o t (t.directionResponse w m src p) := by
  have hmarked : Evolves o t (t.markSipEvent .response m.status) := evolves_markSipEvent _ _
  unfold directionResponse
  dsimp only
  split
  · -- The transaction is the one there was, without its retransmissions.
    refine hmarked.trans (.of_eq ?_)
    unfold setPendingDirection markSipEvent wire
    dsimp only
    rw [hp]
    dsimp only [Option.bind]
    cases p.transaction <;> rfl
  · split
    · have hack : Evolves o t (((t.markSipEvent .response m.status).retarget
          m.contactUri).ackDirection w m src p) :=
        (hmarked.trans (.of_eq (wire_retarget m.contactUri))).trans evolves_ackDirection
      exact hack.trans (evolves_concludeDirection (ho.evolves hack))
    · have hack : Evolves o t ((t.markSipEvent .response m.status).ackDirection w m src p) :=
        hmarked.trans evolves_ackDirection
      exact hack.trans (evolves_refuseDirection _ (ho.evolves hack))

theorem evolves_handleVideoDirectionResponse (ho : Outer o t) :
    Evolves o t (t.handleVideoDirectionResponse w m src).2 := by
  unfold handleVideoDirectionResponse
  cases hp : t.video.pendingDirection with
  | none => exact .refl t
  | some p =>
    dsimp only
    split
    · exact .refl t
    · split
      · exact evolves_directionResponse hp ho
      · exact .refl t

/-! ## Its timers -/

theorem evolves_retransmitDirection (hp : t.video.pendingDirection = some p) :
    Evolves o t (t.retransmitDirection w p) := by
  unfold retransmitDirection
  cases hx : p.transaction with
  | none => exact .refl t
  | some x =>
    dsimp only
    split
    · exact .refl t
    · have hdirection : t.wire.direction = some x.request := by
        unfold wire
        dsimp only
        rw [hp]
        dsimp only [Option.bind]
        rw [hx]
        rfl
      have hheld : x.request ∈ t.wire.kept := by
        unfold Wire.kept
        simp [hdirection]
      refine (evolves_sendAgain (w := w) hheld (.udp x.ip x.port) x.ip x.port).trans (.of_eq ?_)
      have hkept : (t.sendAgain w (.udp x.ip x.port) x.request x.ip x.port).2.wire.direction =
          some x.request := by
        obtain ⟨queued, log, _, he⟩ := (repeats_sendAgain (w := w) (t := t) (.udp x.ip x.port)
          x.ip x.port).shape
        rw [he]
        exact hdirection
      generalize (t.sendAgain w (.udp x.ip x.port) x.request x.ip x.port).2 = v at hkept
      show { v.wire with direction := some x.request } = v.wire
      rw [← hkept]

theorem evolves_pumpVideoDirection (ho : Outer o t) : Evolves o t (t.pumpVideoDirection w) := by
  unfold pumpVideoDirection
  cases hp : t.video.pendingDirection with
  | none => exact .refl t
  | some p =>
    dsimp only
    split
    · split
      · have hsent := evolves_sendVideoDirectionReinvite (o := o) (w := w)
          (t := t) p.targetSend true
        split
        · exact hsent
        · exact hsent.trans evolves_abandonDirection
      · exact .refl t
    · split
      · have habandoned : Evolves o t (t.abandonDirection p) := evolves_abandonDirection
        exact habandoned.trans (evolves_endDialog (by intro h; cases h) _ _ _
          (ho.evolves habandoned))
      · exact evolves_retransmitDirection hp

end Transport

end EsphomeVoip
