import EsphomeVoip.Transport.Timely.Requests

/-! # Timers while responses and ACKs are handled

The answer to an INVITE of ours ends its transaction before media is opened, and before the second
dialog of a transfer reports it.  An ACK opens media only for an INVITE of the peer. -/

namespace EsphomeVoip

open WrapClock (millis timeReached)

namespace Transport

variable {k : Watch} {w : World} {t u : Transport} {m msg : SipMessage} {src : Peer}

/-! ## Transactions that a response ends or completes -/

theorem Timely.handleNotifyResponse (h : Timely k t) {r : ReferDialog}
    (hr : t.referDialog = some r) :
    Timely k (t.handleNotifyResponse m src r).2 := by
  have hother := h.other r hr
  obtain ⟨hfirst, hfinal⟩ := h.notify r hr
  unfold Transport.handleNotifyResponse
  split
  · dsimp only
    split
    · refine { h with other := ?_, notify := ?_ }
      · rintro r' ⟨rfl⟩
        exact hother
      · rintro r' ⟨rfl⟩
        exact ⟨fun _ hx => (nomatch hx), hfinal⟩
    · exact h
  · split
    · dsimp only
      split
      · refine { h with other := ?_, notify := ?_ }
        · rintro r' ⟨rfl⟩
          exact hother
        · rintro r' ⟨rfl⟩
          exact ⟨hfirst, fun _ hx => (nomatch hx)⟩
      · exact h
    · exact h

theorem agenda_learnPeer : (t.learnPeer m src).agenda = t.agenda := rfl

theorem mem_map_done {P : UdpTransaction → Prop} {x : Option UdpTransaction}
    (hdone : ∀ y, P y → P y.done) (hx : ∀ y ∈ x, P y) : ∀ y ∈ x.map UdpTransaction.done, P y := by
  intro y hy
  obtain ⟨z, hz, rfl⟩ := Option.map_eq_some_iff.1 hy
  exact hdone z (hx z hz)

/-- A provisional response completes the INVITE, a final one takes it away. -/
theorem Timely.settleInvite (hk : k.Closed) (h : Timely k t) (status : Nat) :
    Timely k (t.settleInvite status) := by
  refine h.withDialog ⟨fun ho x hx => ?_, h.own.cancel, h.own.bye, h.own.update, h.own.final,
    fun hsome => ?_⟩
  · dsimp only at hx
    split at hx
    · exact mem_map_done hk.own.done (h.own.invite ho) x hx
    · cases hx
  · dsimp only at hsome
    split at hsome
    · rw [Option.isSome_map] at hsome
      exact h.own.calling hsome
    · cases hsome

theorem pendingInvite_settleInvite {status : Nat} (hstatus : ¬status < 200) :
    (t.settleInvite status).dialog.pendingInvite = none :=
  if_neg hstatus

theorem Timely.completeCancel (hk : k.Closed) (h : Timely k t) : Timely k t.completeCancel :=
  h.withDialog ⟨h.own.invite, mem_map_done hk.own.done h.own.cancel, h.own.bye, h.own.update,
    h.own.final, h.own.calling⟩

theorem Timely.completeBye (h : Timely k t) (status : Nat) : Timely k (t.completeBye status) := by
  have hcleared : Timely k { t with dialog := { t.dialog with pendingBye := none } } :=
    h.withDialog ⟨h.own.invite, h.own.cancel, fun _ hx => (nomatch hx), h.own.update, h.own.final,
      h.own.calling⟩
  exact hcleared.resetDialog.emitOther (by intro he; cases he)

/-! ## The answer to an INVITE of ours -/

/-- Without an outstanding INVITE the dialog does not await a response to it. -/
theorem Timely.answeredInvite (h : Timely k t) (hnone : t.dialog.pendingInvite = none) :
    Timely k { t with dialog := { t.dialog with outgoingInvitePending := false } } :=
  h.withDialog (h.own.withoutInvite hnone rfl rfl rfl rfl)

/-- An ACK is not remembered as a transaction. -/
theorem agenda_sendAck (body : String) (options : SipRequestOptions) :
    (t.sendRequest w .ack body options).2.agenda = t.agenda := by
  unfold sendRequest
  obtain ⟨u, hu, ⟨_, he⟩ | ⟨msg, ip, port, _, he⟩⟩ :=
    sendRequestFormatted_cases (w := w) (t := t) .ack body options
  · rw [he]
    exact hu
  · rw [he]
    dsimp only
    rw [if_neg (by simp [isTransactionRequest])]
    exact hu

theorem pendingInvite_of_agenda (he : u.agenda = t.agenda) :
    u.dialog.pendingInvite = t.dialog.pendingInvite :=
  congrArg (fun t => t.dialog.pendingInvite) he

theorem Timely.acknowledgeAnswer (h : Timely k t) (hnone : t.dialog.pendingInvite = none) :
    Timely k (t.acknowledgeAnswer w m) ∧
      (t.acknowledgeAnswer w m).dialog.pendingInvite = none := by
  unfold Transport.acknowledgeAnswer
  dsimp only
  have hanswered : Timely k { t with dialog := { t.dialog with outgoingInvitePending := false } } ∧
      ({ t with dialog := { t.dialog with outgoingInvitePending := false } } :
        Transport).dialog.pendingInvite = none := ⟨h.answeredInvite hnone, hnone⟩
  generalize ({ t with dialog := { t.dialog with outgoingInvitePending := false } } : Transport) = u
    at hanswered
  have he := (agenda_sendAck (w := w) (t := u.retarget m.contactUri) ""
    { cseqNumber := (u.retarget m.contactUri).dialog.inviteCseq }).trans (agenda_retarget _)
  exact ⟨hanswered.1.congr he, (pendingInvite_of_agenda he).trans hanswered.2⟩

theorem agenda_learnAnswer : (t.learnAnswer w m src).2.agenda = t.agenda := by
  have hlearnt := agenda_learnRemoteRtp (w := w) (t := t) m.body src.ip true
  unfold learnAnswer
  dsimp only
  split
  · exact agenda_prepareVideoSession.trans hlearnt
  · exact hlearnt

theorem Timely.rejectAnswer (hk : k.Closed) (h : Timely k t) : Timely k (t.rejectAnswer w) :=
  (h.sendBye hk _).endedBy.emitOther (by intro he; cases he)

/-- The answer is reported once the INVITE is not outstanding any longer. -/
theorem Timely.inviteAnswered (hk : k.Closed) (hcalm : k.scope = true → k.calm = false)
    (h : Timely k t) (hnone : t.dialog.pendingInvite = none) :
    Timely k (t.inviteAnswered w m src) := by
  obtain ⟨hacked, hnone'⟩ := h.acknowledgeAnswer (w := w) (m := m) hnone
  unfold Transport.inviteAnswered
  dsimp only
  split
  · exact hacked.resetDialog.emitOther (by intro he; cases he)
  · have he : ((t.acknowledgeAnswer w m).learnAnswer w m src).2.agenda =
        (t.acknowledgeAnswer w m).agenda := agenda_learnAnswer
    have hlearnt := hacked.congr he
    have hnone'' := (pendingInvite_of_agenda he).trans hnone'
    split
    · exact (hlearnt.sendBye hk _).endedBy
    · split
      · exact hlearnt.rejectAnswer hk
      · refine (hlearnt.openMediaSession fun _ => hnone'').emitSipSignal _ fun hs _ =>
          ⟨hcalm hs, ?_⟩
        have hd (v : Transport) : v.openMediaSession.dialog = v.dialog := by
          unfold Transport.openMediaSession
          split <;> rfl
        rw [hd]
        exact hnone''

theorem Timely.inviteRefused (hk : k.Closed) (h : Timely k t)
    (hnone : t.dialog.pendingInvite = none) : Timely k (t.inviteRefused w m) := by
  have hanswered := (h.answeredInvite hnone).sendInviteErrorAck (w := w) hk
  unfold Transport.inviteRefused
  refine (hanswered.emitOther ?_).resetDialog
  show failureSignal m.status ≠ .status200Ok
  unfold failureSignal
  repeat' split
  all_goals decide

theorem Timely.inviteResponse (hk : k.Closed) (hcalm : k.scope = true → k.calm = false)
    (h : Timely k t) : Timely k (t.inviteResponse w m src) := by
  have hsettled := h.settleInvite hk m.status
  unfold Transport.inviteResponse
  dsimp only
  split
  · split
    · exact hsettled.emitOther (by intro he; cases he)
    · exact hsettled
  · rename_i hfinal
    split
    · exact hsettled.inviteAnswered hk hcalm (pendingInvite_settleInvite hfinal)
    · exact hsettled.inviteRefused hk (pendingInvite_settleInvite hfinal)

theorem Timely.matchedResponse (hk : k.Closed) (hcalm : k.scope = true → k.calm = false)
    (h : Timely k t) : Timely k (t.matchedResponse w m src) := by
  have hlearnt : Timely k (t.learnPeer m src) := h.congr agenda_learnPeer
  unfold Transport.matchedResponse
  dsimp only
  split
  · exact hlearnt.inviteResponse hk hcalm
  · split
    · exact hlearnt.completeBye _
    · exact hlearnt
  · split
    · exact hlearnt.completeCancel hk
    · exact hlearnt
  · split
    · exact hlearnt.withDialog ⟨hlearnt.own.invite, hlearnt.own.cancel, hlearnt.own.bye,
        fun _ hx => (nomatch hx), hlearnt.own.final, hlearnt.own.calling⟩
    · exact hlearnt
  · exact hlearnt

theorem Timely.dialogResponse (hk : k.Closed) (hcalm : k.scope = true → k.calm = false)
    (h : Timely k t) : Timely k (t.dialogResponse w m src).2 := by
  unfold Transport.dialogResponse
  split
  · exact h
  · dsimp only
    generalize hd : (if m.cseqMethod = .invite then t.handleVideoDirectionResponse w m src
      else (false, t)) = direction
    have hdirection : Timely k direction.2 := by
      rw [← hd]
      split
      · exact h.handleVideoDirectionResponse hk
      · exact h
    split
    · exact hdirection
    · split
      · exact h.matchedResponse hk hcalm
      · exact h

theorem Timely.handleResponse (hk : k.Closed) (hcalm : k.scope = true → k.calm = false)
    (h : Timely k t) : Timely k (t.handleResponse w m src).2 := by
  unfold Transport.handleResponse
  split
  · exact h
  · have hvideo : Timely k (t.replayCompletedVideoDirectionAck w m src).2 :=
      h.replayCompletedVideoDirectionAck
    dsimp only
    split
    · exact hvideo
    · have hack : Timely k ((t.replayCompletedVideoDirectionAck w m src).2.replayCompletedInviteAck
        w
          m src (!t.dialog.remoteSipTcp)).2 := hvideo.replayCompletedInviteAck _
      split
      · exact hack
      · split
        · rename_i hr
          exact hack.handleNotifyResponse hr
        · exact hack.dialogResponse hk hcalm

/-! ## ACK -/

/-- An ACK of the last INVITE of the peer opens media, which excludes an INVITE of ours. -/
theorem Timely.confirmDialog (hk : k.Closed) (h : Timely k t)
    (hnone : t.dialog.pendingInvite = none) : Timely k (t.confirmDialog w) := by
  have hanswered := h.answeredInvite hnone
  exact (hanswered.openMediaSession fun _ => hnone).sendConnectedIdentityUpdate hk

theorem Timely.refuseDelayedAnswer (hk : k.Closed) (h : Timely k t) :
    Timely k (t.refuseDelayedAnswer w) :=
  (h.sendBye hk _).endedBy.emitOther (by intro he; cases he)

theorem Timely.takeDelayedAnswer (hk : k.Closed) (h : Timely k t)
    (hnone : t.dialog.pendingInvite = none) : Timely k (t.takeDelayedAnswer w m src) := by
  unfold Transport.takeDelayedAnswer
  dsimp only
  generalize hl : (if m.body = "" then (false, t) else t.learnRemoteRtp w m.body src.ip true) =
    learnt
  have he : learnt.2.agenda = t.agenda := by
    rw [← hl]
    split
    · rfl
    · exact agenda_learnRemoteRtp _ _ _
  have hlearnt : Timely k { learnt.2 with
      dialog := { learnt.2.dialog with delayedOfferPending := false } } := (h.congr he).congr rfl
  have hnone' := (pendingInvite_of_agenda he).trans hnone
  split
  · have hconfirmed := hlearnt.confirmDialog (w := w) hk hnone'
    exact Timely.emitOther (hconfirmed.congr (agenda_record _)) (by intro he; cases he)
  · exact hlearnt.refuseDelayedAnswer hk

theorem Timely.confirmAck (hk : k.Closed) (h : Timely k t) : Timely k (t.confirmAck w m src) := by
  unfold Transport.confirmAck
  split
  · exact h
  · rename_i hack
    have hnumber : t.dialog.lastInviteCseqNumber ≠ 0 := by
      unfold ackInDialog at hack
      simp only [Bool.not_eq_false, Bool.and_eq_true, bne_iff_ne] at hack
      exact hack.1.1.1.1.2
    have hnone := h.own.not_calling (.inr (.inl hnumber))
    split
    · exact h
    · split
      · exact h.takeDelayedAnswer hk hnone
      · exact h.confirmDialog hk hnone

theorem Timely.handleAck (hk : k.Closed) (h : Timely k t) : Timely k (t.handleAck w m src) := by
  have hacked : Timely k (t.acknowledgeCompletedInvite m src).2 := h.acknowledgeCompletedInvite
  unfold Transport.handleAck
  dsimp only
  split
  · exact (hacked.sendBye hk _).endedBy
  · split
    · exact hacked.emitOther (by intro he; cases he)
    · split
      · exact hacked.confirmAck hk
      · exact hacked

/-! ## BYE and CANCEL -/

theorem Timely.rejectIfStaleDialog (h : Timely k t) (method : Method) :
    Timely k (t.rejectIfStaleDialog w m src method).2 := by
  unfold Transport.rejectIfStaleDialog
  split
  · exact h
  · exact h.reject _ _

theorem agenda_crossBye (number : UInt32) : (t.crossBye number).agenda = t.agenda := rfl

theorem Timely.acceptBye (h : Timely k t) : Timely k (t.acceptBye w m src) := by
  have hrefused : Timely k (t.refuse w m src 200 "OK" "").2 := h.refuse _ _ _
  unfold Transport.acceptBye
  dsimp only
  generalize he : (if t.dialog.pendingBye.isSome =
    true then (false, (t.refuse w m src 200 "OK" "").2)
    else (t.refuse w m src 200 "OK" "").2.endReferInviteUsage true) = ended
  have hended : Timely k ended.2 := by
    rw [← he]
    split
    · exact hrefused
    · exact hrefused.endReferInviteUsage _
  split
  · exact hended.congr rfl
  · generalize hv : (if t.dialog.pendingBye.isSome = true
      then (t.refuse w m src 200 "OK" "").2.crossBye m.cseqNumber
      else (t.refuse w m src 200 "OK" "").2.noteAccepted m.cseqNumber) = v
    have hv' : Timely k v := by
      rw [← hv]
      split
      · exact hrefused.congr (agenda_crossBye _)
      · exact hrefused.congr (agenda_noteAccepted _)
    split
    · exact hv'.emitOther (by intro he; cases he)
    · exact (hv'.emitOther (by intro he; cases he)).resetDialog

theorem Timely.handleBye (h : Timely k t) : Timely k (t.handleBye w m src) := by
  have hstale : Timely k (t.rejectIfStaleDialog w m src .bye).2 := h.rejectIfStaleDialog _
  unfold Transport.handleBye
  dsimp only
  split
  · exact hstale
  · split
    · exact h.reject _ _
    · exact h.acceptBye

theorem Timely.handleCancel (h : Timely k t) : Timely k (t.handleCancel w m src) := by
  have hstale : Timely k (t.rejectIfStaleDialog w m src .cancel).2 := h.rejectIfStaleDialog _
  unfold Transport.handleCancel
  dsimp only
  split
  · exact hstale
  · split
    · exact h.reject _ _
    · have hanswered : Timely k ((t.refuse w m src 200 "OK" "").2.sendResponse w 487
          "Request Terminated" "" "").2 := (h.refuse _ _ _).sendResponse _ _ _ _
      exact (hanswered.emitOther (by intro he; cases he)).resetDialog

end Transport

end EsphomeVoip
