import EsphomeVoip.Transport.Timely.Step

/-! # The records that the pump leaves

Besides the client transactions the transport keeps what it has answered, a provisional response
that was not sent, the direction change of video and the transfers that are done.  Ending a dialog
adds nothing to these: `Sheds` says that a state has of them what another one has, or less. -/

namespace EsphomeVoip

open WrapClock (millis timeReached)

/-- The records of a dialog that answer retransmissions. -/
def Dialog.shelf (d : Dialog) : Dialog :=
  { completedInvite := d.completedInvite
    completedControl := d.completedControl
    completedInviteClient := d.completedInviteClient }

namespace Transport

variable {w : World} {t u v : Transport} {m msg : SipMessage} {src : Peer}

/-- A state that has the records of this one, and at most its provisional response and its
    direction change. -/
structure Sheds (t u : Transport) : Prop where
  clock : u.clock = t.clock
  own : u.dialog.shelf = t.dialog.shelf
  other : u.referDialog.map (fun r => r.dialog.shelf) = t.referDialog.map fun r => r.dialog.shelf
  refers : u.completedRefers = t.completedRefers
  expires : u.referExpires = t.referExpires
  completedDirection : u.video.completedDirection = t.video.completedDirection
  provisional : ∀ p ∈ u.pendingProvisionalResponse, p ∈ t.pendingProvisionalResponse
  direction : ∀ p ∈ u.video.pendingDirection, p ∈ t.video.pendingDirection

theorem Sheds.refl (t : Transport) : Sheds t t :=
  ⟨rfl, rfl, rfl, rfl, rfl, rfl, fun _ hp => hp, fun _ hp => hp⟩

theorem Sheds.trans (h : Sheds t u) (h' : Sheds u v) : Sheds t v :=
  ⟨h'.clock.trans h.clock, h'.own.trans h.own, h'.other.trans h.other, h'.refers.trans h.refers,
    h'.expires.trans h.expires, h'.completedDirection.trans h.completedDirection,
    fun p hp => h.provisional p (h'.provisional p hp),
    fun p hp => h.direction p (h'.direction p hp)⟩

/-- All that `Sheds` looks at. -/
def shelf (t : Transport) : Transport :=
  { dialog := t.dialog.shelf
    referDialog := t.referDialog.map fun r => { dialog := r.dialog.shelf }
    completedRefers := t.completedRefers
    referExpires := t.referExpires
    pendingProvisionalResponse := t.pendingProvisionalResponse
    video :=
      { pendingDirection := t.video.pendingDirection
        completedDirection := t.video.completedDirection }
    clock := t.clock }

theorem Sheds.of_shelf (h : u.shelf = t.shelf) : Sheds t u := by
  have hother (t : Transport) : t.shelf.referDialog.map (fun r => r.dialog.shelf) =
      t.referDialog.map fun r => r.dialog.shelf := by
    unfold shelf
    cases t.referDialog <;> rfl
  have hput (t : Transport) : Sheds t t.shelf :=
    ⟨rfl, rfl, hother t, rfl, rfl, rfl, fun _ hp => hp, fun _ hp => hp⟩
  have htaken (t : Transport) : Sheds t.shelf t :=
    ⟨rfl, rfl, (hother t).symm, rfl, rfl, rfl, fun _ hp => hp, fun _ hp => hp⟩
  have hput' := hput t
  rw [← h] at hput'
  exact hput'.trans (htaken u)

theorem Sheds.congr (h : Sheds t u) (he : v.shelf = u.shelf) : Sheds t v := h.trans (.of_shelf he)

theorem Sheds.now (h : Sheds t u) : u.now = t.now := congrArg millis h.clock

/-! ## Requests -/

theorem Sent.shelf (h : Sent t u) : u.shelf = t.shelf := by
  obtain ⟨flow, io, log, event, status, rfl, _⟩ := h
  rfl

theorem shelf_rememberUdpTransaction (method : Method) (ip : UInt32) (port : UInt16) :
    (t.rememberUdpTransaction method msg ip port).shelf = t.shelf := by
  unfold rememberUdpTransaction
  split
  · rfl
  · dsimp only
    split
    · unfold rememberNotify
      split
      · rfl
      · rename_i r hr
        split
        all_goals
          unfold Transport.shelf
          rw [hr]
          rfl
    all_goals rfl

theorem shelf_formatRequest (method : Method) (body : String) (options : SipRequestOptions) :
    (t.formatRequest w method body options).2.shelf = t.shelf := by
  have hbranch : (t.requestBranch w method options).2.shelf = t.shelf := by
    unfold requestBranch
    dsimp only
    repeat' split
    all_goals rfl
  exact hbranch

/-- A request other than an ACK leaves the records. -/
theorem shelf_transmitRequest {method : Method} (hmethod : method ≠ .ack)
    (options : SipRequestOptions) (ip : UInt32) (port : UInt16) :
    (t.transmitRequest w method options msg ip port).2.shelf = t.shelf := by
  have hsent : (t.sendSip w msg ip port).2.shelf = t.shelf := (sent_sendSip ip port).shelf
  have hack : ¬(method = .ack ∧ options.rememberInviteAck = true) := fun hack => hmethod hack.1
  unfold transmitRequest
  dsimp only
  rw [if_neg hack]
  split
  · generalize hu : (if sipEventFromMethod method = .none then (t.sendSip w msg ip port).2
      else (t.sendSip w msg ip port).2.markSipEvent (sipEventFromMethod method) 0) = u
    have hu' : u.shelf = t.shelf := by
      rw [← hu]
      split
      · exact hsent
      · exact hsent
    dsimp only
    split
    · exact (shelf_rememberUdpTransaction method ip port).trans hu'
    · exact hu'
  · exact hsent

theorem shelf_sendRequestFormatted {method : Method} (hmethod : method ≠ .ack) (body : String)
    (options : SipRequestOptions) :
    (t.sendRequestFormatted w method body options).2.2.shelf = t.shelf := by
  unfold sendRequestFormatted
  split
  · rfl
  · exact (shelf_transmitRequest hmethod options _ _).trans
      (shelf_formatRequest method body options)

theorem shelf_sendRequest {method : Method} (hmethod : method ≠ .ack) (body : String)
    (options : SipRequestOptions) : (t.sendRequest w method body options).2.shelf = t.shelf :=
  shelf_sendRequestFormatted hmethod body options

/-! ## The end of a dialog -/

theorem shelf_requestAudioPathStop : t.requestAudioPathStop.shelf = t.shelf := by
  have hclosed : t.closeMediaSession.shelf = t.shelf := by
    unfold closeMediaSession
    split <;> rfl
  unfold requestAudioPathStop
  dsimp only
  repeat' split
  all_goals exact hclosed

theorem shelf_stopOwnAudioPath : t.stopOwnAudioPath.shelf = t.shelf := by
  unfold stopOwnAudioPath
  split
  · rfl
  · exact shelf_requestAudioPathStop

theorem shelf_emitSipSignal (signal : SipSignal) : (t.emitSipSignal signal).shelf = t.shelf := by
  unfold emitSipSignal
  split <;> rfl

/-- A reset drops the provisional response and the direction change. -/
theorem sheds_resetDialog : Sheds t t.resetDialog := by
  have hclosed : Sheds t (t.record (.closed t.dialog.callId t.dialog.terminateAfterInviteAck)) :=
    .of_shelf rfl
  have hmedia (u : Transport) : Sheds u u.resetOwnerMedia := by
    have hstopped := Sheds.of_shelf (shelf_requestAudioPathStop (t := u))
    exact { hstopped with direction := fun p hp => (nomatch hp) }
  unfold resetDialog
  dsimp only
  generalize hu : (if (t.record (.closed t.dialog.callId t.dialog.terminateAfterInviteAck)
    ).referContextActive = true then _ else _) = u
  have hu' : Sheds t u := by
    rw [← hu]
    split
    · exact hclosed
    · exact hclosed.trans (hmedia _)
  exact { hu' with provisional := fun p hp => (nomatch hp) }

theorem sheds_sendByeWith {f : Transport → Transport} (hf : ∀ t, Sheds t (f t)) (callId : String) :
    Sheds t (t.sendByeWith w f callId).2 := by
  have hcancelled := hf t
  unfold sendByeWith
  split
  · exact .refl t
  · dsimp only
    split
    · exact (hcancelled.trans sheds_resetDialog).congr (shelf_emitSipSignal _)
    · split
      · have hdeferred : (f t).setTerminateAfterAck.shelf = (f t).shelf := rfl
        exact hcancelled.congr (shelf_stopOwnAudioPath.trans hdeferred)
      · have hcleared : ({ f t with dialog := { (f t).dialog with pendingUpdate := none } } :
            Transport).shelf = (f t).shelf := rfl
        exact hcancelled.congr ((shelf_stopOwnAudioPath.trans
          (shelf_sendRequest (by decide) "" {})).trans hcleared)

theorem sheds_sendCancelWith {f : Transport → Transport} (hf : ∀ t, Sheds t (f t))
    (callId : String) : Sheds t (t.sendCancelWith w f callId).2 := by
  have hadopted : Sheds t (t.adoptCallId callId) := by
    refine .of_shelf ?_
    unfold adoptCallId
    split <;> rfl
  unfold sendCancelWith
  dsimp only
  generalize t.adoptCallId callId = u at hadopted
  split
  · exact hadopted.trans (sheds_sendByeWith hf callId)
  · split
    · exact (hadopted.congr (v := u.setTcpFlow { u.dialog.tcpFlow with
        pending := none, connectRequested := false, closeRequested := true }) rfl).trans
        sheds_resetDialog
    · unfold sendCancelRequest
      dsimp only
      generalize hv : ({ u.record (.cancelling _) with dialog := _ } : Transport) = v
      have hv' : v.shelf = u.shelf := hv ▸ rfl
      have hcancel : (v.sendRequest w .cancel "" { cseqNumber := u.dialog.inviteCseq }).2.shelf =
          v.shelf := shelf_sendRequest (by decide) "" _
      have hsent := hcancel.trans hv'
      split
      · exact hadopted.congr hsent
      · exact hadopted.congr hsent

theorem sheds_id (t : Transport) : Sheds t (id t) := .refl t

theorem sheds_endCandidate : Sheds t (endCandidate w t) := by
  unfold endCandidate
  split
  · exact sheds_sendCancelWith sheds_id _
  · split
    · exact sheds_sendByeWith sheds_id _
    · exact .refl t

/-! ## The second dialog -/

/-- The two dialogs are exchanged in both states. -/
theorem Sheds.swapRefer (h : Sheds t u) : Sheds t.swapRefer u.swapRefer := by
  have hother := h.other
  unfold Transport.swapRefer
  cases ht : t.referDialog with
  | none =>
    rw [ht] at hother
    have hu : u.referDialog = none := Option.map_eq_none_iff.1 hother
    rw [hu]
    exact h
  | some r =>
    rw [ht] at hother
    obtain ⟨r', hu, he⟩ := Option.map_eq_some_iff.1 hother
    rw [hu]
    exact { h with own := he, other := congrArg some h.own }

theorem Sheds.inRefer {f : Transport → Transport} (h : Sheds t.enterRefer (f t.enterRefer)) :
    Sheds t (t.inRefer f) := by
  have hback : (t.enterRefer.swapRefer).shelf = t.shelf := by
    have hentered : t.enterRefer.swapRefer =
      { t.openProposal with referContextActive := true } := by
      unfold enterRefer
      have hout (u : Transport) : ({ u.swapRefer with referContextActive := true } :
          Transport).swapRefer = { u.swapRefer.swapRefer with referContextActive := true } := by
        unfold Transport.swapRefer
        cases hr : u.referDialog with
        | none => simp only [hr]
        | some r => rfl
      rw [hout, swapRefer_swapRefer]
    rw [hentered]
    rfl
  exact ((Sheds.of_shelf hback).trans h.swapRefer).congr rfl

theorem sheds_notifyRefer (referCseq : UInt32) (status : Nat) (phrase : String) :
    Sheds t (t.notifyRefer w referCseq status phrase) := by
  unfold notifyRefer
  split
  · exact .refl t
  · exact .of_shelf (shelf_sendRequest (by decide) _ _)

theorem sheds_cancelRefer (t : Transport) : Sheds t (cancelRefer w t) := by
  unfold cancelRefer
  split
  · exact .refl t
  · have hnotified : Sheds t { t.notifyRefer w t.referCseq 487 "Request Terminated" with
        referRetiring := true } := (sheds_notifyRefer _ _ _).congr rfl
    exact hnotified.trans (Sheds.inRefer sheds_endCandidate)

theorem sheds_endDialog (type : SipSignalType) (status : Nat) (callId reason : String) :
    Sheds t (t.endDialog w type status callId reason) := by
  have hbye : Sheds t (t.sendBye w callId).2 := sheds_sendByeWith sheds_cancelRefer callId
  unfold endDialog
  dsimp only
  refine Sheds.congr ?_ (shelf_emitSipSignal _)
  split
  · exact hbye
  · exact hbye.trans sheds_resetDialog

theorem sheds_finishFailedRefer (status : Nat) (phrase : String) :
    Sheds t (t.finishFailedRefer w status phrase) := by
  have hretired : Sheds t { t.notifyRefer w t.referCseq status phrase with
      referRetiring := true } := (sheds_notifyRefer _ _ _).congr rfl
  unfold finishFailedRefer
  dsimp only
  split
  · exact (hretired.congr (shelf_emitSipSignal _)).trans sheds_resetDialog
  · exact hretired

theorem sheds_retireOrphan : Sheds t (t.retireOrphan w) := by
  unfold retireOrphan
  split
  · exact .refl t
  · split
    · exact (Sheds.inRefer sheds_endCandidate).congr rfl
    · exact .refl t

theorem sheds_settleTimeouts (o : PumpOutcome) : Sheds t (settleTimeouts w (o, t)) := by
  have hreset (u : Transport) (signal : SipSignal) : Sheds u (u.resetDialog.emitSipSignal signal) :=
    sheds_resetDialog.congr (shelf_emitSipSignal signal)
  unfold settleTimeouts
  dsimp only
  generalize hu : (if o.resetTerminalDialog = true then t.finishTerminalTimeout o.timedOutCallId
    else t) = u
  have hu' : Sheds t u := by
    rw [← hu]
    split
    · exact hreset t _
    · exact .refl t
  generalize hv : (if o.inviteTimedOut = true then u.finishInviteTimeout o.timedOutCallId
    else u) = v
  have hv' : Sheds t v := by
    rw [← hv]
    split
    · exact hu'.trans (hreset u _)
    · exact hu'
  split
  · exact hv'.trans (sheds_endDialog _ _ _ _)
  · exact hv'

end Transport

end EsphomeVoip
