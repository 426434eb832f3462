import EsphomeVoip.Transport.Timely.Dialog

/-! # Timers while calls are placed, answered and ended

A BYE or a CANCEL is remembered with new timers.  An INVITE of ours is remembered by a dialog that
was reset, which is how an outstanding one excludes media and an INVITE of the peer. -/

namespace EsphomeVoip

open WrapClock (millis timeReached)

namespace Transport

variable {k : Watch} {w : World} {t u : Transport} {m msg : SipMessage} {src : Peer}

/-! ## Ending a dialog -/

theorem Timely.finishEndedInvite (h : Timely k t) : Timely k t.finishEndedInvite :=
  h.resetDialog.emitOther fun he => nomatch he

theorem Timely.sendConfirmedBye (hk : k.Closed) (h : Timely k t) :
    Timely k (t.sendConfirmedBye w).2 := by
  have hcleared : Timely k { t with dialog := { t.dialog with pendingUpdate := none } } :=
    h.withDialog ⟨h.own.invite, h.own.cancel, h.own.bye, fun _ hx => (nomatch hx), h.own.final,
      h.own.calling⟩
  exact (hcleared.sendRequest hk (by decide) "" {}).stopOwnAudioPath

theorem Timely.sendByeWith (hk : k.Closed) {f : Transport → Transport}
    (hf : ∀ t, Timely k t → Timely k (f t)) (h : Timely k t) (callId : String) :
    Timely k (t.sendByeWith w f callId).2 := by
  have hcancelled := hf t h
  unfold Transport.sendByeWith
  split
  · exact h
  · dsimp only
    split
    · exact hcancelled.finishEndedInvite
    · split
      · exact Timely.stopOwnAudioPath (hcancelled.congr rfl)
      · exact hcancelled.sendConfirmedBye hk

theorem Timely.adoptCallId (h : Timely k t) (callId : String) :
    Timely k (t.adoptCallId callId) := by
  unfold Transport.adoptCallId
  split
  · rename_i hcall
    have hown : LineTimely k.own (k.scope || k.orderly) (t.blocked k.scope)
        { t.dialog with callId := callId } := by
      refine ⟨h.own.invite, h.own.cancel, h.own.bye, h.own.update, h.own.final, fun hsome => ?_⟩
      obtain ⟨_, hrest⟩ := h.own.calling hsome
      exact ⟨hcall.1, hrest⟩
    exact Timely.congr (h.withDialog hown) rfl
  · exact h

theorem Timely.retractInvite (h : Timely k t) : Timely k t.retractInvite := by
  have hclosed : Timely k (t.setTcpFlow { t.dialog.tcpFlow with
      pending := none, connectRequested := false, closeRequested := true }) := h.congr rfl
  exact hclosed.resetDialog

theorem Timely.sendCancelRequest (hk : k.Closed) (h : Timely k t) :
    Timely k (t.sendCancelRequest w).2 := by
  unfold Transport.sendCancelRequest
  dsimp only
  generalize hu : ({ t.record (.cancelling _) with dialog := _ } : Transport) = u
  have hu' : Timely k u := hu ▸ h.congr rfl
  have hsent : Timely k (u.sendRequest w .cancel ""
      { cseqNumber := (t.record (.cancelling (t.dialog.cancelRequested ||
        t.dialog.pendingInvite.elim false fun x => x.completed))).dialog.inviteCseq }).2 :=
    hu'.sendRequest hk (by decide) "" _
  split
  · exact hsent.withDialog ⟨fun _ _ hx => (nomatch hx), hsent.own.cancel, hsent.own.bye,
      hsent.own.update, hsent.own.final, fun hsome => (nomatch hsome)⟩
  · exact hsent.congr rfl

theorem Timely.sendCancelWith (hk : k.Closed) {f : Transport → Transport}
    (hf : ∀ t, Timely k t → Timely k (f t)) (h : Timely k t) (callId : String) :
    Timely k (t.sendCancelWith w f callId).2 := by
  have hadopted := h.adoptCallId callId
  unfold Transport.sendCancelWith
  dsimp only
  split
  · exact hadopted.sendByeWith hk hf callId
  · split
    · exact hadopted.retractInvite
    · exact hadopted.sendCancelRequest hk

/-! ## The transfer of a dialog that ends -/

theorem Timely.notifyRefer (hk : k.Closed) (h : Timely k t) (cseq : UInt32) (status : Nat)
    (phrase : String) : Timely k (t.notifyRefer w cseq status phrase) := by
  unfold Transport.notifyRefer
  split
  · exact h
  · exact h.sendRequest hk (by decide) _ _

theorem Timely.endCandidate (hk : k.Closed) (h : Timely k t) : Timely k (endCandidate w t) := by
  unfold Transport.endCandidate
  split
  · exact h.sendCancelWith hk (fun _ ht => ht) _
  · split
    · exact h.sendByeWith hk (fun _ ht => ht) _
    · exact h

/-- Ending the second dialog leaves the transfer to be released. -/
theorem keeps_endCandidate :
    (t.inRefer (endCandidate w)).referDialog.isSome = t.referDialog.isSome :=
  (keepsTransfer_inRefer (b := false) (evolves_endCandidate scope_enterRefer)).1

theorem Timely.cancelRefer (hk : k.Closed) (h : Timely k t) : Timely k (t.cancelRefer w) := by
  unfold Transport.cancelRefer
  split
  · exact h
  · rename_i hgoes
    simp only [not_or, Bool.not_eq_true] at hgoes
    obtain ⟨hscope, hsome, _⟩ := hgoes
    have hs : k.scope = false := h.scope.symm.trans hscope
    have hnotified : Timely k { t.notifyRefer w t.referCseq 487 "Request Terminated" with
        referRetiring := true } := (h.notifyRefer hk _ _ _).unsettle.retire
    have hsome' : (t.notifyRefer w t.referCseq 487 "Request Terminated").referDialog.isSome =
      true :=
      (isSome_notifyRefer _ _ _).trans (Option.isSome_iff_ne_none.2 hsome)
    exact hnotified.inRefer hs hsome' (fun he => he.endCandidate hk.entered) keeps_endCandidate

theorem Timely.sendBye (hk : k.Closed) (h : Timely k t) (callId : String) :
    Timely k (t.sendBye w callId).2 :=
  h.sendByeWith hk (fun _ ht => ht.cancelRefer hk) callId

theorem Timely.sendCancel (hk : k.Closed) (h : Timely k t) (callId : String) :
    Timely k (t.sendCancel w callId).2 :=
  h.sendCancelWith hk (fun _ ht => ht.cancelRefer hk) callId

theorem Timely.endReferInviteUsage (h : Timely k t) (reporter : Bool) :
    Timely k (t.endReferInviteUsage reporter).2 := by
  unfold Transport.endReferInviteUsage
  split
  · exact h
  · rename_i r hr
    split
    · exact h
    · have hended : Timely k { t with
          referDialog := some { r with
            ownerInviteEnded := true
            reporterAvailable := r.reporterAvailable && reporter }
          dialog := { t.dialog with pendingUpdate := none } } := by
        refine { h with own := ?_, other := ?_, notify := ?_ }
        · exact ⟨h.own.invite, h.own.cancel, h.own.bye, fun _ hx => (nomatch hx), h.own.final,
            h.own.calling⟩
        · rintro r' ⟨rfl⟩
          exact h.other r hr
        · rintro r' ⟨rfl⟩
          exact h.notify r hr
      exact Timely.closeMediaSession (hended.congr rfl)

theorem Timely.finishFailedRefer (hk : k.Closed) (h : Timely k.unsettled t) (status : Nat)
    (phrase : String) : Timely k (t.finishFailedRefer w status phrase) := by
  have hretired := (h.notifyRefer (w := w) hk.unsettled t.referCseq status phrase).retire
  unfold Transport.finishFailedRefer
  dsimp only
  split
  · exact Timely.resetDialog (hretired.emitOther fun he => nomatch he)
  · exact hretired

/-- End the dialog with a BYE, or locally when it cannot be sent. -/
theorem Timely.endedBy {b : Bool × Transport} (h : Timely k b.2) :
    Timely k (if b.1 = true then b.2 else b.2.resetDialog) := by
  split
  · exact h
  · exact h.resetDialog

theorem Timely.endDialog (hk : k.Closed) (h : Timely k t) {type : SipSignalType}
    (htype : type ≠ .status200Ok) (status : Nat) (callId reason : String) :
    Timely k (t.endDialog w type status callId reason) :=
  (h.sendBye hk callId).endedBy.emitOther htype

/-! ## Commands -/

theorem agenda_buildSdpOffer : (t.buildSdpOffer w).2.agenda = t.agenda := rfl

theorem agenda_learnRemoteRtp (sdp : String) (ip : UInt32) (answer : Bool) :
    (t.learnRemoteRtp w sdp ip answer).2.agenda = t.agenda := by
  obtain ⟨n, v, he⟩ := learnRemoteRtp_shape w sdp ip answer t
  rw [he]
  rfl

theorem agenda_confirmLocalSdp (sdp : String) : (t.confirmLocalSdp sdp).agenda = t.agenda := by
  unfold confirmLocalSdp
  split <;> rfl

/-- A sent answer belongs to an INVITE of the peer, so that none of ours is outstanding. -/
theorem Timely.sendBuiltAnswer (h : Timely k t) (answer : String) :
    Timely k (t.sendBuiltAnswer w answer).2 := by
  unfold Transport.sendBuiltAnswer
  split
  · exact (h.sendResponse _ _ _ _).resetDialog
  · have hsent : Timely k (t.sendResponse w 200 "OK" answer "").2 := h.sendResponse _ _ _ _
    dsimp only
    split
    · rename_i hok
      have hnone : t.dialog.pendingInvite = none :=
        h.own.not_calling (.inr (.inr (.inl (lastInvitePeerIp_of_sendResponse hok))))
      have hkept : (t.sendResponse w 200 "OK" answer "").2.dialog.pendingInvite = none := by
        rcases sendResponse_cases w t 200 "OK" answer "" with he | ⟨_, _, _, _, _, _, _, _, _, _, _,
          _, he, _⟩
        · rw [he]
          exact hnone
        · rw [he]
          exact hnone
      have hconfirmed := hsent.congr (agenda_confirmLocalSdp answer)
      dsimp only
      split
      · exact hconfirmed
      · refine hconfirmed.openMediaSession fun _ => ?_
        have hd : ((t.sendResponse w 200 "OK" answer "").2.confirmLocalSdp answer).dialog =
            (t.sendResponse w 200 "OK" answer "").2.dialog := by
          unfold confirmLocalSdp
          split <;> rfl
        rw [hd]
        exact hkept
    · exact hsent

theorem pendingInvite_adoptCallId (callId : String) :
    (t.adoptCallId callId).dialog.pendingInvite = t.dialog.pendingInvite := by
  unfold adoptCallId
  split <;> rfl

/-- The call component answers, and has no INVITE of its own outstanding if it is orderly. -/
theorem Timely.sendAnswer (h : Timely k t) (hscope : k.scope = false)
    (horderly : k.orderly = true → t.dialog.pendingInvite = none) (callId : String)
    (callerToDest destToCaller : AudioFormat) :
    Timely k (t.sendAnswer w callId callerToDest destToCaller).2 := by
  unfold Transport.sendAnswer
  split
  · exact h
  · have hadopted := h.adoptCallId callId
    have hown := hadopted.own
    have hanswering : Timely k { t.adoptCallId callId with
        dialog := { (t.adoptCallId callId).dialog with outgoingInvitePending := false } } := by
      refine hadopted.withDialog ⟨fun ho => (nomatch ho), hadopted.own.cancel, hadopted.own.bye,
        hadopted.own.update, hadopted.own.final, fun hsome => ?_⟩
      obtain ⟨hcall, hnumber, hip, hb, _⟩ := hown.calling hsome
      refine ⟨hcall, hnumber, hip, hb, fun hc => ?_⟩
      rw [hscope, Bool.false_or] at hc
      have hsome' : (t.adoptCallId callId).dialog.pendingInvite.isSome = true := hsome
      rw [pendingInvite_adoptCallId, horderly hc] at hsome'
      cases hsome'
    have hsend (u : Transport) (hu : Timely k u) : Timely k
        (if u.phase = .cleaning ∨ u.phase = .shuttingDown then (false, u)
          else if u.dialog.delayedOfferPending then
            (u.buildSdpOffer w).2.sendBuiltAnswer w (u.buildSdpOffer w).1
          else u.sendBuiltAnswer w (u.buildSdpAnswer w)).2 := by
      split
      · exact hu
      · split
        · exact Timely.sendBuiltAnswer (hu.congr agenda_buildSdpOffer) _
        · exact hu.sendBuiltAnswer _
    exact hsend _ (hanswering.congr rfl)

theorem Timely.sendFinalResponse (hk : k.Closed) (h : Timely k t) (callId : String) (status : Nat)
    (reason : String) : Timely k (t.sendFinalResponse w callId status reason).2 := by
  have hadopted := h.adoptCallId callId
  unfold Transport.sendFinalResponse
  dsimp only
  split
  · exact hadopted.sendCancel hk callId
  · exact (hadopted.sendResponse _ _ _ _).resetDialog

theorem agenda_setConnectedIdentity (route name : String) :
    (t.setConnectedIdentity route name).agenda = t.agenda := by
  unfold setConnectedIdentity
  split <;> rfl

theorem Timely.terminateAfterCommitFailure (hk : k.Closed) (h : Timely k t) :
    Timely k (t.terminateAfterCommitFailure w) := by
  unfold Transport.terminateAfterCommitFailure
  dsimp only
  split
  · exact h
  · split
    · exact h.congr rfl
    · exact h.sendBye hk _

theorem Timely.commitMediaPath (hk : k.Closed) (h : Timely k t) :
    Timely k (t.commitMediaPath w).2 := by
  unfold Transport.commitMediaPath
  dsimp only
  generalize hc : (if t.running = false ∨ t.stopping = true then (false, t)
    else t.commitMediaPathLocked w) = committed
  have hcommitted : Timely k committed.2 := by
    rw [← hc]
    split
    · exact h
    · exact h.congr agenda_commitMediaPathLocked
  split
  · exact hcommitted
  · exact hcommitted.terminateAfterCommitFailure hk

theorem agenda_originate (host : String) (port : UInt16) :
    (t.originate w host port).2.agenda = t.agenda := by
  unfold originate parseRemote requestTcpClientClose setTcpFlow agenda Dialog.agenda
  dsimp only
  repeat' split
  all_goals rfl

theorem agenda_setSipSignalingTransport (tcp : Bool) :
    (t.setSipSignalingTransport tcp).agenda = t.agenda := by
  unfold setSipSignalingTransport
  dsimp only
  split <;> rfl

/-! ## Placing a call -/

/-- The dialog can remember an INVITE of ours. -/
structure Free (k : Watch) (t : Transport) : Prop where
  timely : Timely k t
  pending : t.dialog.pendingInvite = none
  number : t.dialog.lastInviteCseqNumber = 0
  peer : t.dialog.lastInvitePeerIp = 0
  blocked : t.blocked k.scope = false

theorem Free.congr (h : Free k t) (he : u.agenda = t.agenda) : Free k u := by
  have hfree : Free k t.agenda :=
    ⟨timely_agenda h.timely, h.pending, h.number, h.peer, h.blocked⟩
  rw [← he] at hfree
  exact ⟨hfree.timely.of_agenda, hfree.pending, hfree.number, hfree.peer, hfree.blocked⟩

theorem answered_requestAudioPathStop : t.requestAudioPathStop.answered = t.answered := by
  have hclosed : t.closeMediaSession.answered = t.answered := by
    unfold closeMediaSession
    split <;> rfl
  unfold requestAudioPathStop
  dsimp only
  repeat' split
  all_goals exact hclosed

theorem mediaActive_resetDialog (h : t.referContextActive = false) :
    t.resetDialog.mediaActive = false := by
  have hclosed : (t.record (.closed t.dialog.callId t.dialog.terminateAfterInviteAck)
    ).requestAudioPathStop.mediaActive = false := mediaActive_requestAudioPathStop h
  unfold resetDialog
  dsimp only
  split
  · rename_i hscope
    have hscope' : t.referContextActive = true := hscope
    rw [h] at hscope'
    cases hscope'
  · exact hclosed

theorem answered_resetDialog : t.resetDialog.answered = t.answered := by
  have hstopped : (t.record (.closed t.dialog.callId t.dialog.terminateAfterInviteAck)
    ).requestAudioPathStop.answered = t.answered := answered_requestAudioPathStop
  unfold resetDialog
  dsimp only
  split
  · rfl
  · exact hstopped

/-- A reset frees the dialog of the owner, and of a second dialog that has not answered. -/
theorem Timely.free_resetDialog (h : Timely k t)
    (hanswered : k.scope = true → t.answered = false) : Free k t.resetDialog := by
  refine ⟨h.resetDialog, rfl, rfl, rfl, ?_⟩
  cases hs : k.scope
  · exact mediaActive_resetDialog (h.scope.trans hs)
  · exact answered_resetDialog.trans (hanswered hs)

theorem Free.beginOwnDialog (h : Timely k t) (hanswered : k.scope = true → t.answered = false)
    (callId : String) (caller destination : SipIdentity) :
    Free k (t.beginOwnDialog w callId caller destination) := by
  unfold Transport.beginOwnDialog
  dsimp only
  generalize hv : (if t.referContextActive = true then t
    else { t with logicalCallId := "", logicalWireId := "" }) = v
  have hv' : Timely k v ∧ v.answered = t.answered := by
    rw [← hv]
    split
    · exact ⟨h, rfl⟩
    · exact ⟨h.congr rfl, rfl⟩
  have hfree : Free k v.resetDialog := hv'.1.free_resetDialog fun hs => hv'.2.trans (hanswered hs)
  have hnamed : LineTimely k.own (k.scope || k.orderly) (v.resetDialog.blocked k.scope)
      { v.resetDialog.dialog with callId := callId } :=
    ⟨fun _ _ hx => (nomatch hx), hfree.timely.own.cancel, hfree.timely.own.bye,
      hfree.timely.own.update, hfree.timely.own.final, fun hsome => (nomatch hsome)⟩
  have hbegun : Free k { v.resetDialog with
      dialog := { v.resetDialog.dialog with callId := callId } } :=
    ⟨hfree.timely.withDialog hnamed, rfl, rfl, rfl, hfree.blocked⟩
  exact hbegun.congr rfl

theorem agenda_identifyOwnDialog : (t.identifyOwnDialog w).agenda = t.agenda := rfl

/-- An INVITE of ours is remembered with new timers. -/
theorem Free.rememberInvite (hk : k.Closed) (h : Free k t) (hcall : t.dialog.callId ≠ "")
    (ip : UInt32) (port : UInt16) (cseq : UInt32) :
    Timely k { t.rememberUdpTransaction .invite msg ip port with
      dialog := { (t.rememberUdpTransaction .invite msg ip port).dialog with
        outgoingInvitePending := true
        cseq := cseq } } := by
  unfold Transport.rememberUdpTransaction
  have hown := h.timely.own
  split
  · refine h.timely.withDialog ⟨fun _ x hx => ?_, hown.cancel, hown.bye, hown.update, hown.final,
      fun hsome => ?_⟩
    · have hx' : x ∈ t.dialog.pendingInvite := hx
      rw [h.pending] at hx'
      cases hx'
    · have hsome' : t.dialog.pendingInvite.isSome = true := hsome
      rw [h.pending] at hsome'
      cases hsome'
  · rename_i hends
    rw [not_or] at hends
    dsimp only
    refine h.timely.withDialog ⟨fun _ x hx => ?_, hown.cancel, hown.bye, hown.update, hown.final,
      fun _ => ⟨hcall, h.number, h.peer, h.blocked, fun _ => rfl⟩⟩
    rw [← Option.mem_some.1 hx, newTransaction_eq h.timely]
    exact hk.own.fresh _ _ _ _ hends.1 hends.2

theorem callId_of_agenda (he : u.agenda = t.agenda) : u.dialog.callId = t.dialog.callId :=
  congrArg (fun t => t.dialog.callId) he

theorem Free.offerInvite (hk : k.Closed) (h : Free k t) : Timely k (t.offerInvite w).2 := by
  unfold Transport.offerInvite
  dsimp only
  have hoffered : Free k (t.buildSdpOffer w).2 := h.congr agenda_buildSdpOffer
  split
  · exact hoffered.timely.resetDialog
  · generalize hu : (if (t.buildSdpOffer w).2.referContextActive = true then (t.buildSdpOffer w).2
      else (t.buildSdpOffer w).2.confirmLocalSdp (t.buildSdpOffer w).1) = u
    have hu' : Free k u := by
      rw [← hu]
      split
      · exact hoffered
      · exact hoffered.congr (agenda_confirmLocalSdp _)
    obtain ⟨v, hv, ⟨_, he⟩ | ⟨msg, ip, port, hcall, he⟩⟩ := sendRequestFormatted_cases (w := w)
      (t := u) .invite (t.buildSdpOffer w).1 { cseqNumber := u.dialog.inviteCseq }
    · unfold Transport.sendRequest
      dsimp only
      rw [he]
      exact (hu'.timely.congr hv).resetDialog
    · unfold Transport.sendRequest
      dsimp only
      rw [he]
      exact (hu'.congr hv).rememberInvite hk ((callId_of_agenda hv) ▸ hcall) ip port _

theorem Timely.sendInvite (hk : k.Closed) (h : Timely k t)
    (hanswered : k.scope = true → t.answered = false) (callId : String)
    (caller destination : SipIdentity) : Timely k (t.sendInvite w callId caller destination).2 := by
  unfold Transport.sendInvite
  have hbegun : Free k (t.beginOwnDialog w callId caller destination) :=
    .beginOwnDialog h hanswered _ _ _
  split
  · exact h
  · split
    · exact h
    · dsimp only
      split
      · exact hbegun.timely.resetDialog
      · exact (hbegun.congr agenda_identifyOwnDialog).offerInvite hk

end Transport

end EsphomeVoip
