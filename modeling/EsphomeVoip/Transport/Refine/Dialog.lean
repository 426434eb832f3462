import EsphomeVoip.Transport.Refine.Respond

/-! # The moves of ending and placing a call

A BYE, a CANCEL and the end of a transfer are moves of the line that they end.  What the owner does
may end its transfer, with a scoped run of the second dialog. -/

namespace EsphomeVoip

open Wire (Sends Notified)

namespace Transport

variable {o : Mode} {b : Bool} {w : World} {t u : Transport} {m msg : SipMessage} {src : Peer}

/-! ## Media -/

theorem wire_openMediaSession : t.openMediaSession.wire = t.wire := by
  unfold openMediaSession
  split <;> rfl

theorem wire_closeMediaSession : t.closeMediaSession.wire = t.wire := by
  unfold closeMediaSession
  split <;> rfl

theorem wire_prepareVideoSession : (t.prepareVideoSession w).2.wire = t.wire := by
  unfold prepareVideoSession
  dsimp only
  repeat' split
  all_goals rfl

theorem wire_bindMediaPath : (t.bindMediaPath w).2.wire = t.wire := by
  unfold bindMediaPath
  dsimp only
  split
  · rfl
  · have hvideo := wire_prepareVideoSession (w := w)
      (t := ({ t with rtpLatch := none }.resource w).2)
    split
    · exact hvideo
    · exact hvideo

theorem wire_prepareMediaPathLocked : (t.prepareMediaPathLocked w).2.wire = t.wire := by
  unfold prepareMediaPathLocked
  split
  · rfl
  · split
    · rfl
    · exact wire_bindMediaPath

theorem wire_commitMediaPathLocked : (t.commitMediaPathLocked w).2.wire = t.wire := by
  unfold commitMediaPathLocked
  dsimp only
  repeat' split
  all_goals rfl

theorem wire_startAudioPath : (t.startAudioPath w).2.wire = t.wire := by
  unfold startAudioPath
  split
  · rfl
  · dsimp only
    split
    · exact wire_commitMediaPathLocked.trans wire_prepareMediaPathLocked
    · exact wire_prepareMediaPathLocked

theorem wire_confirmLocalSdp (sdp : String) : (t.confirmLocalSdp sdp).wire = t.wire := by
  unfold confirmLocalSdp
  split <;> rfl

/-! ## The scope of the second dialog -/

theorem wire_swapRefer : t.swapRefer.wire = t.wire.swap := by
  unfold swapRefer Wire.swap
  cases hr : t.referDialog with
  | none =>
    have hs : t.wire.second = none := congrArg (Option.map secondOf) hr
    rw [hs]
  | some r =>
    have hs : t.wire.second = some (secondOf r) := congrArg (Option.map secondOf) hr
    rw [hs]
    rfl

theorem swap_epoch (s : Wire) (n : UInt32) :
    ({ s with epoch := n } : Wire).swap = { s.swap with epoch := n } := by
  unfold Wire.swap
  cases hr : s.second with
  | none => simp only [hr]
  | some r => rfl

theorem wire_enterRefer : t.enterRefer.wire = t.wire.enterScope := by
  have hwire : t.enterRefer.wire = { t.openProposal.swapRefer.wire with scope := true } := rfl
  rw [hwire, wire_swapRefer]
  have hopen : t.openProposal.wire = { t.wire with epoch := t.wire.epoch + 1 } := rfl
  rw [hopen, swap_epoch]
  rfl

theorem wire_leaveRefer : t.leaveRefer.wire = t.wire.leaveScope := by
  have hepoch : t.swapRefer.mediaProposalEpoch = t.mediaProposalEpoch := by
    unfold swapRefer
    split <;> rfl
  have hwire : t.leaveRefer.wire = { t.swapRefer.wire with
      scope := false, epoch := t.swapRefer.mediaProposalEpoch + 1 } := rfl
  rw [hwire, wire_swapRefer, hepoch]
  rfl

theorem scope_enterRefer : t.enterRefer.referContextActive = true := rfl

/-- What the second dialog does in place of the owner. -/
theorem evolves_inRefer {f : Transport → Transport} (hscope : t.referContextActive = false)
    (hsome : t.referDialog.isSome = true)
    (hf : Evolves ⟨false, b⟩ t.enterRefer (f t.enterRefer)) : Evolves ⟨true, b⟩ t
    (t.inRefer f) := by
  refine Relation.ReflTransGen.single (.inr ⟨rfl, hscope, ?_, (f t.enterRefer).wire, ?_, ?_⟩)
  · show (t.referDialog.map secondOf).isSome = true
    rw [Option.isSome_map]
    exact hsome
  · rw [← wire_enterRefer]
    exact moves_of_evolves hf
  · exact wire_leaveRefer

/-! ## Ending a dialog -/

/-- The dialog ends with the ACK that is outstanding. -/
theorem evolves_setTerminateAfterAck (h : t.wire.Deferrable) :
    Evolves o t t.setTerminateAfterAck :=
  .of_move (.defer t.wire h)

theorem deferrable_of_awaitsUasAck (h : awaitsUasAck t.dialog = true) : t.wire.Deferrable :=
  .inl ((awaitsUasAck_eq t.dialog).symm.trans h)

theorem evolves_stopOwnAudioPath : Evolves o t t.stopOwnAudioPath := .of_eq wire_stopOwnAudioPath

theorem evolves_finishEndedInvite : Evolves o t t.finishEndedInvite :=
  evolves_resetDialog.trans (evolves_emitSipSignal _ fun h => nomatch h)

theorem evolves_sendConfirmedBye (h : awaitsUasAck t.dialog = false) :
    Evolves o t (t.sendConfirmedBye w).2 := by
  unfold sendConfirmedBye
  have hunpend : Evolves o t { t with dialog := { t.dialog with pendingUpdate := none } } :=
    .of_move (.unpend t.wire .update)
  have hmay : MayRequest .bye {} { t with dialog := { t.dialog with pendingUpdate := none } } :=
    ⟨by decide, fun _ => h, fun hc => (nomatch hc)⟩
  exact (hunpend.trans (evolves_sendRequest hmay "")).trans evolves_stopOwnAudioPath

theorem evolves_sendByeWith {f : Transport → Transport} (hf : Proceeds o f) (callId : String)
    (ho : Outer o t) : Evolves o t (t.sendByeWith w f callId).2 := by
  unfold sendByeWith
  split
  · exact .refl t
  · have hended := hf t ho
    dsimp only
    split
    · exact hended.trans evolves_finishEndedInvite
    · split
      · rename_i hawaits
        exact (hended.trans (evolves_setTerminateAfterAck
          (deferrable_of_awaitsUasAck hawaits))).trans evolves_stopOwnAudioPath
      · rename_i hawaits
        exact hended.trans (evolves_sendConfirmedBye (Bool.eq_false_iff.2 hawaits))

theorem evolves_adoptCallId (callId : String) : Evolves o t (t.adoptCallId callId) := by
  unfold adoptCallId
  split
  · by_cases hsame : callId = t.dialog.callId
    · rw [if_pos hsame, hsame]
      exact .of_eq rfl
    · rw [if_neg hsame]
      exact .of_move (.rename t.wire callId)
  · exact .refl t

theorem evolves_retractInvite : Evolves o t t.retractInvite := by
  have hdequeued : Evolves o t (t.setTcpFlow { t.dialog.tcpFlow with
      pending := none, connectRequested := false, closeRequested := true }) :=
    .of_move (.dequeue t.wire)
  exact hdequeued.trans evolves_resetDialog

theorem evolves_sendCancelRequest : Evolves o t (t.sendCancelRequest w).2 := by
  unfold sendCancelRequest
  dsimp only
  generalize hu : ({ t.record (.cancelling (t.dialog.cancelRequested ||
    t.dialog.pendingInvite.elim false fun x => x.completed)) with
      dialog := { (t.record (.cancelling (t.dialog.cancelRequested ||
        t.dialog.pendingInvite.elim false fun x => x.completed))).dialog with
          cancelRequested := true } } : Transport) = u
  have hstart : Evolves o t u := by
    apply Evolves.of_move
    rw [← hu]
    exact .startCancel t.wire
  have hmay (options : SipRequestOptions) (hb : options.branchOverride = "") :
      MayRequest .cancel options u := by
    rw [← hu]
    exact ⟨by decide, fun hbye => (nomatch hbye), fun _ => ⟨rfl, hb⟩⟩
  have hsent := hstart.trans (evolves_sendRequest (o := o) (w := w)
    (hmay { cseqNumber := (t.record (.cancelling (t.dialog.cancelRequested ||
        t.dialog.pendingInvite.elim false fun x => x.completed))).dialog.inviteCseq } rfl) "")
  split
  · exact hsent.trans (.of_move (.unpend _ .invite))
  · exact hsent.trans (.of_move (.stopCancel _))

theorem evolves_sendCancelWith {f : Transport → Transport} (hf : Proceeds o f)
    (callId : String) (ho : Outer o t) : Evolves o t (t.sendCancelWith w f callId).2 := by
  have hadopted := evolves_adoptCallId (o := o) (t := t) callId
  unfold sendCancelWith
  dsimp only
  split
  · exact hadopted.trans (evolves_sendByeWith hf callId (ho.evolves hadopted))
  · split
    · exact hadopted.trans evolves_retractInvite
    · exact hadopted.trans evolves_sendCancelRequest

/-! ## The end of a transfer -/

/-- The second dialog, in place of the owner, is ended. -/
theorem evolves_endCandidate (hscope : t.referContextActive = true) :
    Evolves o t (endCandidate w t) := by
  unfold endCandidate
  split
  · exact evolves_sendCancelWith proceeds_id _ (.inr hscope)
  · split
    · exact evolves_sendByeWith proceeds_id _ (.inr hscope)
    · exact .refl t

/-- A transfer in progress ends with a failure. -/
theorem evolves_failRefer (referCseq : UInt32) {status : Nat} (phrase : String)
    (hstatus : 200 ≤ status) (hscope : t.referContextActive = false)
    (hsome : t.referDialog.isSome = true) (hretiring : t.referRetiring = false) :
    Evolves o t { t.notifyRefer w referCseq status phrase with referRetiring := true } := by
  have hnotified := notified_notifyRefer (w := w) (t := t) referCseq status phrase
  rw [decide_eq_true hstatus] at hnotified
  apply Evolves.of_move
  refine Move.fail _ hscope ?_ hretiring hnotified
  show (t.referDialog.map secondOf).isSome = true
  rw [Option.isSome_map]
  exact hsome

theorem isSome_second (t : Transport) : t.wire.second.isSome = t.referDialog.isSome :=
  Option.isSome_map

/-- A NOTIFY does not end the transfer itself. -/
theorem isSome_notifyRefer (referCseq : UInt32) (status : Nat) (phrase : String) :
    (t.notifyRefer w referCseq status phrase).referDialog.isSome = t.referDialog.isSome := by
  rw [← isSome_second, ← isSome_second]
  exact (notified_notifyRefer referCseq status phrase).isSome_second

theorem evolves_cancelRefer : Proceeds o (cancelRefer w) := by
  intro t ho
  unfold cancelRefer
  split
  · exact .refl t
  · rename_i hgoes
    simp only [not_or] at hgoes
    obtain ⟨hscope, hnone, hretiring⟩ := hgoes
    have hsome : t.referDialog.isSome = true := Option.isSome_iff_ne_none.2 hnone
    obtain ⟨b, rfl⟩ := exists_mode (ho.resolve_right hscope)
    have hfail := evolves_failRefer (o := ⟨true, b⟩) (w := w) t.referCseq
      "Request Terminated" (show 200 ≤ 487 by omega) (Bool.eq_false_iff.2 hscope) hsome
      (Bool.eq_false_iff.2 hretiring)
    refine hfail.trans (evolves_inRefer ?_ ?_ (evolves_endCandidate rfl))
    · exact hfail.scope.trans (Bool.eq_false_iff.2 hscope)
    · exact (isSome_notifyRefer _ _ _).trans hsome

theorem evolves_sendBye (callId : String) (ho : Outer o t) :
    Evolves o t (t.sendBye w callId).2 :=
  evolves_sendByeWith evolves_cancelRefer callId ho

theorem evolves_sendCancel (callId : String) (ho : Outer o t) :
    Evolves o t (t.sendCancel w callId).2 :=
  evolves_sendCancelWith evolves_cancelRefer callId ho

theorem evolves_endReferInviteUsage (reporterAvailable : Bool) :
    Evolves o t (t.endReferInviteUsage reporterAvailable).2 := by
  unfold endReferInviteUsage
  split
  · exact .refl t
  · rename_i r hr
    split
    · exact .refl t
    · refine Evolves.trans (b := { t with dialog := { t.dialog with pendingUpdate := none } })
        (.of_move (.unpend t.wire .update)) (.of_eq ?_)
      rw [wire_closeMediaSession]
      unfold wire
      dsimp only
      rw [hr]
      rfl

theorem evolves_finishFailedRefer {status : Nat} (phrase : String) (hstatus : 200 ≤ status)
    (hscope : t.referContextActive = false) (hsome : t.referDialog.isSome = true)
    (hretiring : t.referRetiring = false) :
    Evolves o t (t.finishFailedRefer w status phrase) := by
  unfold finishFailedRefer
  have hfail := evolves_failRefer (o := o) (w := w) t.referCseq phrase hstatus hscope hsome
    hretiring
  dsimp only
  split
  · exact (hfail.trans (evolves_emitSipSignal _ (by intro h; cases h))).trans evolves_resetDialog
  · exact hfail

/-! ## Commands of the call component -/

theorem evolves_sendRinging (callId : String) : Evolves o t (t.sendRinging w callId).2 :=
  (evolves_adoptCallId callId).trans (evolves_sendResponse _ _ _ _)

theorem wire_learnRemoteRtp (sdp : String) (defaultIp : UInt32) (remoteIsAnswer : Bool) :
    (t.learnRemoteRtp w sdp defaultIp remoteIsAnswer).2.wire = t.wire := by
  obtain ⟨n, v, he⟩ := learnRemoteRtp_shape w sdp defaultIp remoteIsAnswer t
  rw [he]
  rfl

theorem evolves_buildSdpOffer : Evolves o t (t.buildSdpOffer w).2 := .of_eq rfl

theorem evolves_sendBuiltAnswer (answer : String) : Evolves o t (t.sendBuiltAnswer w answer).2 := by
  unfold sendBuiltAnswer
  split
  · exact (evolves_sendResponse _ _ _ _).trans evolves_resetDialog
  · have hsent : Evolves o t (t.sendResponse w 200 "OK" answer "").2 := evolves_sendResponse _ _ _ _
    dsimp only
    split
    · have hconfirmed := hsent.trans (.of_eq (wire_confirmLocalSdp answer))
      split
      · exact hconfirmed
      · exact hconfirmed.trans (.of_eq wire_openMediaSession)
    · exact hsent

theorem evolves_sendAnswer (callId : String) (callerToDest destToCaller : AudioFormat) :
    Evolves o t (t.sendAnswer w callId callerToDest destToCaller).2 := by
  unfold sendAnswer
  split
  · exact .refl t
  · have hadopted := evolves_adoptCallId (o := o) (t := t) callId
    dsimp only
    generalize t.adoptCallId callId = u at hadopted
    have hset : Evolves o t { setMediaConfig destToCaller callerToDest u.negotiation.txPayloadType
        u.negotiation.rxPayloadType u.negotiation.rxPayloads u with
          dialog := { (setMediaConfig destToCaller callerToDest u.negotiation.txPayloadType
            u.negotiation.rxPayloadType u.negotiation.rxPayloads u).dialog with
              outgoingInvitePending := false } } := hadopted.trans (.of_eq rfl)
    split
    · exact hset
    · split
      · exact (hset.trans evolves_buildSdpOffer).trans (evolves_sendBuiltAnswer _)
      · exact hset.trans (evolves_sendBuiltAnswer _)

theorem evolves_setConnectedIdentity (route name : String) :
    Evolves o t (t.setConnectedIdentity route name) := by
  unfold setConnectedIdentity
  split
  · exact .refl t
  · exact .of_eq rfl

theorem evolves_sendFinalResponse (callId : String) (status : Nat) (reason : String)
    (ho : Outer o t) : Evolves o t (t.sendFinalResponse w callId status reason).2 := by
  have hadopted := evolves_adoptCallId (o := o) (t := t) callId
  unfold sendFinalResponse
  dsimp only
  split
  · exact hadopted.trans (evolves_sendCancel callId (ho.evolves hadopted))
  · exact (hadopted.trans (evolves_sendResponse _ _ _ _)).trans evolves_resetDialog

theorem evolves_terminateAfterCommitFailure (ho : Outer o t) :
    Evolves o t (t.terminateAfterCommitFailure w) := by
  unfold terminateAfterCommitFailure
  dsimp only
  split
  · exact .refl t
  · split
    · rename_i hawaits
      exact evolves_setTerminateAfterAck (deferrable_of_awaitsUasAck hawaits)
    · exact evolves_sendBye _ ho

theorem evolves_commitMediaPath (ho : Outer o t) : Evolves o t (t.commitMediaPath w).2 := by
  unfold commitMediaPath
  dsimp only
  generalize hc : (if t.running = false ∨ t.stopping = true then (false, t)
    else t.commitMediaPathLocked w) = committed
  have hcommitted : Evolves o t committed.2 := by
    rw [← hc]
    split
    · exact .refl t
    · exact .of_eq wire_commitMediaPathLocked
  split
  · exact hcommitted
  · exact hcommitted.trans (evolves_terminateAfterCommitFailure (ho.evolves hcommitted))

/-! ## Placing a call -/

theorem evolves_requestTcpClientClose : Evolves o t t.requestTcpClientClose :=
  .of_move (.dequeue t.wire)

theorem evolves_originate (host : String) (port : UInt16) :
    Evolves o t (t.originate w host port).2 := by
  unfold originate
  dsimp only
  have hparsed : Evolves o t (t.parseRemote w host).2 := .of_eq rfl
  split
  · exact hparsed
  · split
    · refine (hparsed.trans (.of_eq rfl)).trans
        ((evolves_requestTcpClientClose (t := { (t.parseRemote w host).2 with
          dialog := { (t.parseRemote w host).2.dialog with
            remoteSipPort := if port = 0 then 5060 else port } })).trans (.of_eq rfl))
    · exact hparsed.trans (.of_eq rfl)

theorem evolves_setSipSignalingTransport (tcp : Bool) :
    Evolves o t (t.setSipSignalingTransport tcp) := by
  unfold setSipSignalingTransport
  have hswitched : Evolves o t { t with dialog := { t.dialog with remoteSipTcp := tcp } } :=
    .of_eq rfl
  dsimp only
  split
  · exact hswitched.trans evolves_requestTcpClientClose
  · exact hswitched

/-- The dialog of a call of ours is fresh. -/
theorem evolves_beginOwnDialog (callId : String) (caller destination : SipIdentity) :
    Evolves o t (t.beginOwnDialog w callId caller destination) := by
  unfold beginOwnDialog
  dsimp only
  generalize hu : (if t.referContextActive = true then t
    else { t with logicalCallId := "", logicalWireId := "" }) = u
  have hwire : u.wire = t.wire := by
    rw [← hu]
    split <;> rfl
  refine Evolves.trans ((Evolves.of_eq hwire).trans evolves_resetDialog) (.of_move ?_)
  have hempty : u.resetDialog.wire.own.callId = "" := by
    rw [wire_resetDialog]
    rfl
  exact Move.name u.resetDialog.wire callId (u.clashes callId) hempty

/-- The INVITE of a fresh dialog gets its branch and its number. -/
theorem evolves_identifyOwnDialog (h : t.wire.own.invite = none ∧ t.wire.own.cancel = none ∧
    t.wire.own.cancelRequested = false) : Evolves o t (t.identifyOwnDialog w) :=
  .of_move (.identify t.wire _ _ h)

theorem evolves_offerInvite : Evolves o t (t.offerInvite w).2 := by
  unfold offerInvite
  have hoffer : Evolves o t (t.buildSdpOffer w).2 := evolves_buildSdpOffer
  dsimp only
  split
  · exact hoffer.trans evolves_resetDialog
  · generalize hu : (if (t.buildSdpOffer w).2.referContextActive = true then (t.buildSdpOffer w).2
      else (t.buildSdpOffer w).2.confirmLocalSdp (t.buildSdpOffer w).1) = u
    have hconfirmed : Evolves o t u := by
      rw [← hu]
      split
      · exact hoffer
      · exact hoffer.trans (.of_eq (wire_confirmLocalSdp _))
    have hmay : MayRequest .invite { cseqNumber := u.dialog.inviteCseq } u :=
      .of_free _ (by decide) u
    have hsent := hconfirmed.trans (evolves_sendRequest (o := o) (w := w) hmay
      (t.buildSdpOffer w).1)
    split
    · exact hsent.trans (.of_eq rfl)
    · exact hsent.trans evolves_resetDialog

theorem evolves_sendInvite (callId : String) (caller destination : SipIdentity) :
    Evolves o t (t.sendInvite w callId caller destination).2 := by
  unfold sendInvite
  split
  · exact .refl t
  · split
    · exact .refl t
    · have hbegun := evolves_beginOwnDialog (o := o) (w := w) (t := t) callId caller destination
      have hfresh : (t.beginOwnDialog w callId caller destination).wire.own.invite = none ∧
          (t.beginOwnDialog w callId caller destination).wire.own.cancel = none ∧
          (t.beginOwnDialog w callId caller destination).wire.own.cancelRequested = false :=
        ⟨rfl, rfl, rfl⟩
      dsimp only
      split
      · exact hbegun.trans evolves_resetDialog
      · exact (hbegun.trans (evolves_identifyOwnDialog hfresh)).trans evolves_offerInvite

end Transport

end EsphomeVoip
