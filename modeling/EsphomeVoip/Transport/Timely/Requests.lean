import EsphomeVoip.Transport.Timely.Ending

/-! # Timers while requests and responses are handled

A provisional response to our INVITE completes its transaction, a final one takes it away.  The
re-INVITE that changes the direction of video has timers of its own. -/

namespace EsphomeVoip

open WrapClock (millis timeReached)

namespace Transport

variable {k : Watch} {w : World} {t u : Transport} {m msg : SipMessage} {src : Peer}

/-! ## The direction of video -/

theorem Timely.setPendingDirection (h : Timely k t) {p : Option PendingVideoDirectionInvite}
    (hp : ∀ p' ∈ p, p'.waitingRetry = false → ∃ x, p'.transaction = some x ∧ 0 < x.intervalMs) :
    Timely k (t.setPendingDirection p) :=
  { h with direction := hp }

theorem Timely.abandonDirection (h : Timely k t) (p : PendingVideoDirectionInvite) :
    Timely k (t.abandonDirection p) := by
  have hcleared : Timely k (t.setPendingDirection none) :=
    h.setPendingDirection fun p hp => nomatch hp
  exact hcleared.congr rfl

/-- The re-INVITE is sent with a transaction of its own. -/
theorem Timely.offerDirection (h : Timely k t) (proposal : PendingVideoDirectionInvite) :
    Timely k (t.offerDirection w proposal).2 := by
  unfold Transport.offerDirection
  dsimp only
  generalize hu : ({ t.rememberDirectionOffer w proposal.offeredSdp with
    dialog := _ } : Transport).makeToken w "" = token
  have hu' : Timely k (token.2.setVideoSendRequested proposal.targetSend) := by
    rw [← hu]
    exact h.congr rfl
  obtain ⟨v, hv, ⟨_, he⟩ | ⟨msg, ip, port, _, he⟩⟩ := sendRequestFormatted_cases (w := w)
    (t := token.2.setVideoSendRequested proposal.targetSend) .invite proposal.offeredSdp
    { cseqNumber := (t.rememberDirectionOffer w proposal.offeredSdp).dialog.cseq
      branchOverride := "z9hG4bK" ++ token.1
      rememberTransaction := false
      rememberInviteAck := false }
  · rw [he]
    exact (hu'.congr hv).congr rfl
  · rw [he]
    refine (hu'.congr hv).setPendingDirection ?_
    rintro p ⟨rfl⟩ _
    exact ⟨_, rfl, Nat.succ_pos 499⟩

theorem Timely.sendVideoDirectionReinvite (h : Timely k t) (enabled retry : Bool) :
    Timely k (t.sendVideoDirectionReinvite w enabled retry).2 := by
  unfold Transport.sendVideoDirectionReinvite
  split
  · exact h
  · dsimp only
    split
    · exact h
    · exact h.offerDirection _

theorem Timely.requestVideoSend (h : Timely k t) (enabled : Bool) :
    Timely k (t.requestVideoSend w enabled).2 := by
  unfold Transport.requestVideoSend
  split
  · exact h.congr rfl
  · split
    · exact h
    · split
      · exact h
      · split
        · exact h.congr rfl
        · exact h.sendVideoDirectionReinvite _ _

theorem agenda_requestSendDirection (send : Bool) :
    (t.requestSendDirection w send).2.agenda = t.agenda := by
  unfold requestSendDirection
  split
  · rfl
  · split <;> rfl

theorem Timely.applyVideoDirectionAnswer (h : Timely k t) (sdp : String) (ip : UInt32) :
    Timely k (t.applyVideoDirectionAnswer w sdp ip).2 := by
  unfold Transport.applyVideoDirectionAnswer
  split
  · exact h
  · dsimp only
    generalize hl : t.openProposal.learnRemoteRtp w sdp ip true = learnt
    have hlearnt : Timely k learnt.2 := by
      rw [← hl]
      exact Timely.congr (h.congr (u := t.openProposal) rfl) (agenda_learnRemoteRtp sdp ip true)
    have hrestored : Timely k (t.restoreMedia learnt.2).closeProposal := hlearnt.congr rfl
    split
    · exact hrestored
    · rename_i send _
      have hgranted : Timely k ((t.restoreMedia learnt.2).closeProposal.requestSendDirection w
          send).2 := hrestored.congr (agenda_requestSendDirection send)
      split
      · exact hgranted.congr rfl
      · exact hgranted

theorem Timely.ackDirection (hk : k.Closed) (h : Timely k t) (p : PendingVideoDirectionInvite) :
    Timely k (t.ackDirection w m src p) := by
  unfold Transport.ackDirection
  dsimp only
  generalize hu : (if m.status < 300 then t.makeToken w "" else ("", t)) = token
  have htoken : Timely k token.2 := by
    rw [← hu]
    split
    · exact h.congr rfl
    · exact h
  have hsent : Timely k (token.2.sendRequestFormatted w .ack ""
      { cseqNumber := p.cseq
        cseqMethod := some .ack
        branchOverride := if m.status < 300 then "z9hG4bK" ++ token.1 else p.branch
        rememberTransaction := false
        rememberInviteAck := false }).2.2 := htoken.sendRequestFormatted hk (by decide) "" _
  split
  · exact hsent
  · exact hsent.congr rfl

theorem agenda_retarget (contact : SipUri) : (t.retarget contact).agenda = t.agenda := by
  unfold retarget
  split <;> rfl

theorem Timely.concludeDirection (hk : k.Closed) (h : Timely k t)
    (p : PendingVideoDirectionInvite) : Timely k (t.concludeDirection w m src p) := by
  have happlied := h.applyVideoDirectionAnswer (w := w) m.body src.ip
  unfold Transport.concludeDirection
  dsimp only
  split
  · have hcleared : Timely k
        ((t.applyVideoDirectionAnswer w m.body src.ip).2.setPendingDirection none) :=
      happlied.setPendingDirection fun p hp => nomatch hp
    exact hcleared.congr rfl
  · exact ((happlied.abandonDirection p).sendBye hk _).endedBy.emitOther (by intro he; cases he)

theorem Timely.refuseDirection (hk : k.Closed) (h : Timely k t) (status : Nat)
    (p : PendingVideoDirectionInvite) : Timely k (t.refuseDirection w status p) := by
  unfold Transport.refuseDirection
  split
  · have hrandom : Timely k (t.espRandom w).2 := h.congr rfl
    refine hrandom.setPendingDirection ?_
    rintro p ⟨rfl⟩ hwaiting
    cases hwaiting
  · dsimp only
    split
    · exact (h.abandonDirection p).endDialog hk (by decide) _ _ _
    · exact h.abandonDirection p

theorem Timely.directionResponse (hk : k.Closed) (h : Timely k t) {p : PendingVideoDirectionInvite}
    (hp : t.video.pendingDirection = some p) : Timely k (t.directionResponse w m src p) := by
  have hmarked : Timely k (t.markSipEvent .response m.status) := h.congr (agenda_markSipEvent _ _)
  unfold Transport.directionResponse
  dsimp only
  split
  · refine hmarked.setPendingDirection ?_
    rintro p' ⟨rfl⟩ hwaiting
    obtain ⟨x, hx, hpos⟩ := h.direction p hp hwaiting
    exact ⟨{ x with completed := true, nextMs := p.responseDeadlineMs }, by rw [hx]; rfl, hpos⟩
  · split
    · exact (Timely.ackDirection hk (hmarked.congr (agenda_retarget _)) p).concludeDirection hk p
    · exact (hmarked.ackDirection hk p).refuseDirection hk _ p

theorem Timely.handleVideoDirectionResponse (hk : k.Closed) (h : Timely k t) :
    Timely k (t.handleVideoDirectionResponse w m src).2 := by
  unfold Transport.handleVideoDirectionResponse
  split
  · exact h
  · rename_i p hp
    split
    · exact h
    · split
      · exact h.directionResponse hk hp
      · exact h

/-! ## INVITE -/

/-- An INVITE of the peer is taken on by a dialog without a Call-ID, and so without one of ours. -/
theorem Timely.adoptInvite (h : Timely k t) (hcall : t.dialog.callId = "") :
    Timely k (t.adoptInvite w m src) := by
  have hnone : t.dialog.pendingInvite = none := h.own.not_calling (.inl hcall)
  unfold Transport.adoptInvite
  dsimp only
  refine Timely.congr ?_ agenda_ensureLocalTag
  generalize hsession : ((t.record (.invited m.callId m.cseqNumber m.topBranch)).record
    (.named m.callId (t.clashes m.callId))).espRandom w = session
  have hs : session.2.dialog = t.dialog := by rw [← hsession]; rfl
  have hagenda : session.2.agenda = t.agenda := by
    rw [← hsession]
    exact agenda_espRandom.trans ((agenda_record _).trans (agenda_record _))
  have hs' := h.congr hagenda
  have hadopted : Timely k { session.2 with
      dialog := { session.2.invitedDialog w m src with
        sdpSessionId := if session.1 = 0 then 1 else session.1 } } := by
    refine hs'.withDialog ?_
    rw [blocked_of_agenda hagenda]
    unfold invitedDialog
    rw [hs]
    exact h.own.withoutInvite hnone rfl rfl rfl rfl
  exact hadopted.congr rfl

theorem Timely.inviteMedia (h : Timely k t) : Timely k (t.inviteMedia w m src).2 := by
  unfold Transport.inviteMedia
  split
  · dsimp only
    split
    · exact h
    · exact h.congr rfl
  · exact Timely.congr (h.congr (u := { t with dialog := { t.dialog with
      delayedOfferPending := false } }) rfl) (agenda_learnRemoteRtp _ _ _)

theorem Timely.failInvite (h : Timely k t) (status : Nat) (phrase : String) :
    Timely k (t.failInvite w status phrase).2 :=
  (h.sendResponse _ _ _ _).resetDialog

theorem Timely.announceInvite (h : Timely k t) : Timely k (t.announceInvite w m).2 := by
  have htrying := h.sendResponse (w := w) 100 "Trying" "" ""
  unfold Transport.announceInvite
  dsimp only
  split
  · exact htrying.failInvite _ _
  · have hparties : Timely k ((t.sendResponse w 100 "Trying" "" "").2.identifyParties m) :=
      htrying.congr rfl
    exact hparties.emitOther (by intro he; cases he)

theorem Timely.acceptInvite (h : Timely k t) (hcall : t.dialog.callId = "") :
    Timely k (t.acceptInvite w m src).2 := by
  have hmedia : Timely k ((t.adoptInvite w m src).inviteMedia w m src).2 :=
    (h.adoptInvite hcall).inviteMedia
  unfold Transport.acceptInvite
  dsimp only
  split
  · exact hmedia.announceInvite
  · exact hmedia.failInvite _ _

/-! ## The re-INVITE -/

theorem agenda_admitNewVideo : (t.admitNewVideo w).2.agenda = t.agenda := by
  unfold admitNewVideo
  dsimp only
  repeat' split
  all_goals rfl

theorem agenda_admitVideo (new : VideoNegotiation) : (t.admitVideo w new).2.agenda = t.agenda := by
  unfold admitVideo
  dsimp only
  repeat' split
  all_goals first | rfl | exact agenda_admitNewVideo

theorem agenda_commitReinvite (new : VideoNegotiation) (answer : String) :
    (t.commitReinvite new answer).agenda = t.agenda := by
  unfold commitReinvite
  dsimp only
  split <;> rfl

theorem Timely.applyVideoPlan (h : Timely k t) (plan : VideoPlan) (new : VideoNegotiation)
    (answer : String) : Timely k (t.applyVideoPlan w plan new answer) := by
  unfold Transport.applyVideoPlan
  split
  · exact Timely.congr (h.congr (u := t.videoRequestStop) rfl) (agenda_commitReinvite _ _)
  · have hgranted : Timely k (t.resource w).2 := h.congr rfl
    split
    · dsimp only
      split
      · exact hgranted.congr (agenda_commitReinvite _ _)
      · have hfailed : Timely k (t.resource w).2.requestAudioPathStop.setTerminateAfterAck :=
          hgranted.requestAudioPathStop.congr rfl
        exact hfailed.emitOther (by intro he; cases he)
    · exact h.congr (agenda_commitReinvite _ _)

theorem Timely.recordReinvite (h : Timely k t) (hnone : t.dialog.pendingInvite = none) :
    Timely k (t.recordReinvite m src) := by
  have hrecorded : Timely k { t with dialog := { t.dialog with
      lastInviteCseqNumber := m.cseqNumber
      lastInvitePeerIp := src.ip } } :=
    h.withDialog (h.own.withoutInvite hnone rfl rfl rfl rfl)
  exact hrecorded.congr rfl

theorem pendingInvite_sendResponse (status : Nat) (phrase body reason : String) :
    (t.sendResponse w status phrase body reason).2.dialog.pendingInvite =
      t.dialog.pendingInvite := by
  rcases sendResponse_cases w t status phrase body reason with
    he | ⟨_, _, _, _, _, _, _, _, _, _, _, _, he, _⟩
  · rw [he]
  · rw [he]

theorem Timely.answerReinvite (h : Timely k t) (hnone : t.dialog.pendingInvite = none)
    (plan : VideoPlan) (new : VideoNegotiation) (answer : String) :
    Timely k (t.answerReinvite w m src plan new answer).2 := by
  have hrecorded : Timely k (t.recordReinvite m src) := h.recordReinvite hnone
  have hsent : Timely k ((t.recordReinvite m src).sendResponse w 200 "OK" answer "").2 :=
    hrecorded.sendResponse _ _ _ _
  have hkept : ((t.recordReinvite m src).sendResponse w 200 "OK" answer "").2.dialog.pendingInvite =
      none := (pendingInvite_sendResponse _ _ _ _).trans hnone
  unfold Transport.answerReinvite
  dsimp only
  split
  · have hnoted : Timely k
      (((t.recordReinvite m src).sendResponse w 200 "OK" answer "").2.noteAccepted
        m.cseqNumber) := hsent.congr (agenda_noteAccepted _)
    exact hnoted.applyVideoPlan _ _ _
  · generalize hu : (if plan.prepared = true then
      ((t.recordReinvite m src).sendResponse w 200 "OK" answer "").2.videoRequestStop
      else ((t.recordReinvite m src).sendResponse w 200 "OK" answer "").2) = u
    have hu' : Timely k u ∧ u.dialog.pendingInvite = none := by
      rw [← hu]
      split
      · exact ⟨hsent.congr rfl, hkept⟩
      · exact ⟨hsent, hkept⟩
    have hrestored : Timely k { u with dialog := { u.dialog with
        lastInviteCseqNumber := t.dialog.lastInviteCseqNumber
        lastInvitePeerIp := t.dialog.lastInvitePeerIp } } :=
      hu'.1.withDialog (hu'.1.own.withoutInvite hu'.2 rfl rfl rfl rfl)
    exact hrestored.congr rfl

theorem Timely.weighReinvite (h : Timely k t) (hnone : t.dialog.pendingInvite = none) :
    Timely k (t.weighReinvite w m src).2 := by
  unfold Transport.weighReinvite
  dsimp only
  generalize hl : t.openProposal.learnRemoteRtp w m.body src.ip false = learnt
  have hlearnt : learnt.2.agenda = t.agenda := by
    rw [← hl]
    exact (agenda_learnRemoteRtp _ _ _).trans rfl
  have hrestored : ((t.restoreMedia learnt.2).closeProposal).agenda = t.agenda := hlearnt
  generalize (t.restoreMedia learnt.2).closeProposal = restored at hrestored
  split
  · exact (h.congr hrestored).refuse _ _ _
  · split
    · exact (h.congr hrestored).refuse _ _ _
    · have hadmitted := (agenda_admitVideo (w := w) (t := restored)
        learnt.2.video.negotiation).trans hrestored
      split
      · exact (h.congr hadmitted).refuse _ _ _
      · exact (h.congr hadmitted).answerReinvite
          ((congrArg (fun t => t.dialog.pendingInvite) hadmitted).trans hnone) _ _ _

/-- A re-INVITE is weighed only where there is media, and so no INVITE of the owner. -/
theorem Timely.handleReinvite (h : Timely k t) (hscope : k.scope = false) :
    Timely k (t.handleReinvite w m src).2 := by
  unfold Transport.handleReinvite
  split
  · exact h.reject _ _
  · split
    · exact h.reject _ _
    · split
      · exact h.refuse _ _ _
      · rename_i hactive
        simp only [not_or, Bool.not_eq_false] at hactive
        have hown := h.own
        rw [hscope] at hown
        have hnone : t.dialog.pendingInvite = none :=
          hown.not_calling (.inr (.inr (.inr hactive.1)))
        split
        · exact h.refuseForNow _ _
        · split
          · exact h.reject _ _
          · split
            · exact h.refuseForNow _ _
            · split
              · exact h.refuse _ _ _
              · split
                · exact h.reject _ _
                · exact h.weighReinvite hnone

theorem Timely.repeatInvite (h : Timely k t) : Timely k (t.repeatInvite w m src).2 := by
  unfold Transport.repeatInvite
  dsimp only
  split
  · exact h.reject _ _
  · split
    · split
      · exact h
      · exact h.congr (agenda_sendAgain _ _ _)
    · split
      · exact h.sendStatelessResponse _ _ _ _ _
      · rename_i hcall
        rw [ne_eq, Decidable.not_not] at hcall
        unfold Transport.admitInvite
        split
        · exact h.sendStatelessResponse _ _ _ _ _
        · exact h.acceptInvite hcall

theorem Timely.handleInvite (h : Timely k t) (hscope : k.scope = false) :
    Timely k (t.handleInvite w m src).2 := by
  unfold Transport.handleInvite
  split
  · exact h.reject _ _
  · have hreplayed : Timely k
        (t.replayCompletedResponse w m src .invite (!t.dialog.remoteSipTcp)).2 :=
      h.replayCompletedResponse _ _
    dsimp only
    split
    · exact hreplayed
    · unfold Transport.freshInvite Transport.routeInvite
      dsimp only
      split
      · exact hreplayed.reject _ _
      · split
        · exact hreplayed.sendStatelessResponse _ _ _ _ _
        · split
          · exact hreplayed.refuseForeignInvite
          · split
            · exact hreplayed.reject _ _
            · split
              · split
                · exact hreplayed.reject _ _
                · exact hreplayed.handleReinvite hscope
              · exact hreplayed.repeatInvite

/-! ## UPDATE -/

theorem Timely.applyUpdate (h : Timely k t) : Timely k (t.applyUpdate m) := by
  unfold Transport.applyUpdate
  dsimp only
  refine Timely.emitOther ?_ (by intro he; cases he)
  exact h.congr rfl

theorem Timely.handleUpdate (h : Timely k t) : Timely k (t.handleUpdate w m src).2 := by
  have hreplayed : Timely k
      (t.replayCompletedResponse w m src .update (!t.dialog.remoteSipTcp)).2 :=
    h.replayCompletedResponse _ _
  unfold Transport.handleUpdate
  dsimp only
  split
  · exact hreplayed
  · unfold Transport.freshUpdate
    dsimp only
    repeat' split
    · exact hreplayed.refuse _ _ _
    · exact hreplayed.refuseForNow _ _
    · exact hreplayed.refuse _ _ _
    · exact hreplayed.refuse _ _ _
    · exact Timely.applyUpdate (hreplayed.refuse _ _ _)
    · exact hreplayed.refuse _ _ _

end Transport

end EsphomeVoip
