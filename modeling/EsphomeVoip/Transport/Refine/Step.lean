import EsphomeVoip.Transport.Refine.Refer

/-! # Every step is a sequence of moves

The dispatcher, the stream connections and the commands, and with them `step`. -/

namespace EsphomeVoip

open Wire (Sends Notified)

namespace Transport

variable {o : Mode} {b : Bool} {w : World} {t u : Transport} {m msg : SipMessage} {src : Peer}

/-! ## Requests -/

theorem evolves_confirmDialog : Evolves o t (t.confirmDialog w) := by
  have hset : Evolves o t { t with dialog := { t.dialog with outgoingInvitePending := false } } :=
    .of_eq rfl
  exact (hset.trans (.of_eq wire_openMediaSession)).trans evolves_sendConnectedIdentityUpdate

theorem evolves_refuseDelayedAnswer (ho : Outer o t) : Evolves o t (t.refuseDelayedAnswer w) :=
  (evolves_byeOrReset _ ho).trans (evolves_emitSipSignal _ (by intro h; cases h))

/-- The answer of a delayed offer is noted and reported. -/
theorem evolves_reportAnswer (sdp : String) :
    Evolves o t ((t.record (.acceptedAnswer (t.upwardId t.dialog.callId) sdp)).emitSipSignal
      t.mediaReadySignal) := by
  have htaken : Evolves o t (t.record (.acceptedAnswer (t.upwardId t.dialog.callId) sdp)) :=
    .of_move (.takeAnswer t.wire _ sdp)
  refine htaken.trans ?_
  unfold emitSipSignal
  split
  · exact .of_eq rfl
  · refine .of_move (.callback _ _ ?_)
    intro signal hs _
    cases hs
    exact ⟨sdp, List.mem_cons_self⟩

theorem evolves_takeDelayedAnswer (ho : Outer o t) :
    Evolves o t (t.takeDelayedAnswer w m src) := by
  unfold takeDelayedAnswer
  dsimp only
  generalize hl : (if m.body = "" then (false, t) else t.learnRemoteRtp w m.body src.ip true)
    = learnt
  have hlearnt : Evolves o t { learnt.2 with
      dialog := { learnt.2.dialog with delayedOfferPending := false } } := by
    have hwire : learnt.2.wire = t.wire := by
      rw [← hl]
      split
      · rfl
      · exact wire_learnRemoteRtp _ _ _
    exact (Evolves.of_eq hwire).trans (.of_eq rfl)
  split
  · exact (hlearnt.trans evolves_confirmDialog).trans (evolves_reportAnswer m.body)
  · exact hlearnt.trans (evolves_refuseDelayedAnswer (ho.evolves hlearnt))

theorem evolves_confirmAck (ho : Outer o t) : Evolves o t (t.confirmAck w m src) := by
  unfold confirmAck
  repeat' split
  · exact .refl t
  · exact .refl t
  · exact evolves_takeDelayedAnswer ho
  · exact evolves_confirmDialog

theorem evolves_handleAck {time : Nat} (hm : .received m src time ∈ t.log) (ho : Outer o t) :
    Evolves o t (t.handleAck w m src) := by
  have hacked : Evolves o t (t.acknowledgeCompletedInvite m src).2 :=
    evolves_acknowledgeCompletedInvite hm
  have ho' := ho.evolves hacked
  unfold handleAck
  dsimp only
  split
  · exact hacked.trans (evolves_byeOrReset _ ho')
  · split
    · exact hacked.trans (evolves_emitSipSignal _ (by intro h; cases h))
    · split
      · exact hacked.trans (evolves_confirmAck ho')
      · exact hacked

theorem turn_endReferInviteUsage (reporterAvailable : Bool) :
    turnOf (t.endReferInviteUsage reporterAvailable).2.dialog = turnOf t.dialog := by
  unfold endReferInviteUsage closeMediaSession
  dsimp only
  repeat' split
  all_goals rfl

/-- A BYE that ends the INVITE usage only. -/
theorem evolves_noteEnded (h : (lineOf t.dialog).MayTake o.ordered m.cseqNumber) :
    Evolves o t ({ t with dialog := { t.dialog with
      remoteDialogCseq := m.cseqNumber } }.noteAccepted m.cseqNumber) :=
  .of_move (.accept t.wire m.cseqNumber h)

theorem evolves_crossBye (h : (lineOf t.dialog).MayTake o.ordered m.cseqNumber) :
    Evolves o t (t.crossBye m.cseqNumber) :=
  .of_move (.cross t.wire m.cseqNumber h)

/-- In a dialog that is over it does not matter whether BYEs have crossed. -/
theorem wire_noteAccepted_reset (number : UInt32) (signal : SipSignal) :
    ((t.noteAccepted number).emitSipSignal signal).resetDialog.wire =
      ((t.crossBye number).emitSipSignal signal).resetDialog.wire := by
  rw [wire_resetDialog, wire_resetDialog]
  unfold emitSipSignal
  cases hscope : t.referContextActive with
  | true =>
    rw [if_pos (show (t.noteAccepted number).referContextActive = true from hscope),
      if_pos (show (t.crossBye number).referContextActive = true from hscope)]
    rfl
  | false =>
    rw [if_neg (show ¬(t.noteAccepted number).referContextActive = true by
        rw [show (t.noteAccepted number).referContextActive = false from hscope]; decide),
      if_neg (show ¬(t.crossBye number).referContextActive = true by
        rw [show (t.crossBye number).referContextActive = false from hscope]; decide)]
    rfl

theorem evolves_acceptBye (h : (lineOf t.dialog).MayTake o.ordered m.cseqNumber) :
    Evolves o t (t.acceptBye w m src) := by
  have hsent : Evolves o t (t.refuse w m src 200 "OK" "").2 := evolves_refuse _ _ _
  have htake : (lineOf (t.refuse w m src 200 "OK" "").2.dialog).MayTake o.ordered m.cseqNumber :=
    mayTake_of_turn h (frame_refuse w m src t 200 "OK" "").2.2
  unfold acceptBye
  dsimp only
  generalize (t.refuse w m src 200 "OK" "").2 = u at hsent htake
  cases t.dialog.pendingBye.isSome with
  | true =>
    simp only [if_true, Bool.false_eq_true, if_false]
    refine (hsent.trans (evolves_crossBye htake)).trans (evolves_emitSipSignal _ ?_)
    intro h
    cases h
  | false =>
    simp only [Bool.false_eq_true, if_false]
    have hended := hsent.trans (evolves_endReferInviteUsage true)
    split
    · exact hended.trans (evolves_noteEnded (mayTake_of_turn htake (turn_endReferInviteUsage true)))
    · have hreported (signal : SipSignal) (hs : signal.type ≠ .mediaReady) :
          Evolves o t ((u.crossBye m.cseqNumber).emitSipSignal signal).resetDialog :=
        ((hsent.trans (evolves_crossBye htake)).trans (evolves_emitSipSignal signal hs)).trans
          evolves_resetDialog
      refine (hreported _ ?_).trans (.of_eq (wire_noteAccepted_reset m.cseqNumber _))
      intro h
      cases h

theorem evolves_handleBye (hord : InOrder o.ordered m t.dialog) :
    Evolves o t (t.handleBye w m src) := by
  unfold handleBye rejectIfStaleDialog
  dsimp only
  by_cases hin : currentDialog m src .bye t.dialog = true
  · rw [if_pos hin]
    simp only [Bool.false_eq_true, if_false]
    split
    · exact evolves_reject _ _
    · exact evolves_acceptBye (mayTake_of_inOrder hord (addresses_of_currentDialog (.inl rfl) hin))
  · rw [if_neg hin]
    exact evolves_reject _ _

theorem evolves_acceptCancel : Evolves o t (t.acceptCancel w m src) := by
  have hsent : Evolves o t (t.refuse w m src 200 "OK" "").2 := evolves_refuse _ _ _
  unfold acceptCancel
  dsimp only
  generalize (t.refuse w m src 200 "OK" "").2 = u at hsent
  have hanswered := hsent.trans (evolves_sendResponse (w := w) 487 "Request Terminated" "" "")
  generalize (u.sendResponse w 487 "Request Terminated" "" "").2 = v at hanswered
  refine (hanswered.trans (evolves_emitSipSignal _ ?_)).trans evolves_resetDialog
  intro h
  cases h

theorem evolves_handleCancel : Evolves o t (t.handleCancel w m src) := by
  have hstale : Evolves o t (t.rejectIfStaleDialog w m src .cancel).2 :=
    evolves_rejectIfStaleDialog _
  unfold handleCancel
  dsimp only
  split
  · exact hstale
  · split
    · exact evolves_reject _ _
    · exact evolves_acceptCancel

theorem evolves_routeRequest {time : Nat} (hm : .received m src time ∈ t.log)
    (hord : if isReplayedMethod m.method = true then InOrder o.ordered m t.dialog
      else t.Orderly o.ordered m src) (ho : Outer o t) : Evolves o t (t.routeRequest w m src) := by
  unfold routeRequest
  split
  · exact evolves_reject _ _
  · generalize hmethod : m.method = method at hord
    unfold Orderly at hord
    rw [hmethod] at hord
    split
    · exact evolves_handleRefer hord ho
    · exact evolves_handleInvite hord
    · exact evolves_handleAck hm ho
    · exact evolves_handleBye hord
    · exact evolves_handleCancel
    · exact evolves_handleUpdate hord
    · exact evolves_reject _ _
    · split
      · exact evolves_reject _ _
      · exact evolves_reject _ _

theorem evolves_handleRequest {time : Nat} (hm : .received m src time ∈ t.log)
    (hord : t.Orderly o.ordered m src) (ho : Outer o t) :
    Evolves o t (t.handleRequest w m src) := by
  have hreplayed : Evolves o t (t.replayCompletedResponse w m src m.method
      (!t.dialog.remoteSipTcp)).2 := evolves_replayCompletedResponse _ _
  have hroute (u : Transport) (hu : Evolves o t u)
      (hord : if isReplayedMethod m.method = true then InOrder o.ordered m u.dialog
        else u.Orderly o.ordered m src) :
      Evolves o t ((if sipEventFromMethod m.method = .none then u
        else u.markSipEvent (sipEventFromMethod m.method) 0).routeRequest w m src) := by
    split
    · exact hu.trans (evolves_routeRequest (hu.mem_log hm) hord (ho.evolves hu))
    · have hmarked : Evolves o t (u.markSipEvent (sipEventFromMethod m.method) 0) :=
        hu.trans (evolves_markSipEvent _ _)
      exact hmarked.trans (evolves_routeRequest (hmarked.mem_log hm) hord (ho.evolves hmarked))
  unfold handleRequest
  dsimp only
  by_cases hmethod : isReplayedMethod m.method = true
  · rw [if_pos hmethod]
    split
    · exact hreplayed
    · rename_i hmissed
      refine hroute _ hreplayed ?_
      rw [if_pos hmethod]
      exact inOrder_missed hord hmissed
  · rw [if_neg hmethod]
    refine hroute t (.refl t) ?_
    rw [if_neg hmethod]
    exact hord

/-! ## The dispatcher -/

theorem evolves_dispatch {time : Nat} (hm : .received m src time ∈ t.log)
    (hord : t.Orderly o.ordered m src) (ho : Outer o t) : Evolves o t (dispatch w m src t) := by
  unfold dispatch
  split
  · have hhandled : Evolves o t (t.handleResponse w m src).2 :=
      evolves_handleResponse ⟨src, time, hm⟩ ho
    exact hhandled.trans (proceeds_pumpRefer _ (ho.evolves hhandled))
  · exact evolves_handleRequest hm hord ho

theorem log_swapRefer : t.swapRefer.log = t.log := by
  unfold swapRefer
  split <;> rfl

/-- The transport in which the dispatcher deals with a message. -/
def served (m : SipMessage) (t : Transport) : Transport :=
  if t.referContextActive = false ∧ t.referDialog.isSome = true ∧ m.callId = t.referWireId then
    t.enterRefer
  else t

/-- What is recorded changes neither what is kept nor whose turn it is. -/
theorem orderly_record (e : WireEntry) (h : (t.served m).Orderly b m src) :
    ((t.record e).served m).Orderly b m src := by
  unfold served at h ⊢
  have hsame : (t.record e).enterRefer = t.enterRefer.record e := by
    unfold enterRefer openProposal swapRefer record
    cases hr : t.referDialog with
    | none => rfl
    | some r => rfl
  by_cases hrefer : t.referContextActive = false ∧ t.referDialog.isSome = true ∧
      m.callId = t.referWireId
  · rw [if_pos hrefer] at h
    rw [if_pos (show (t.record e).referContextActive = false ∧
      (t.record e).referDialog.isSome = true ∧ m.callId = (t.record e).referWireId from hrefer),
      hsame]
    exact h
  · rw [if_neg hrefer] at h
    rw [if_neg (show ¬((t.record e).referContextActive = false ∧
      (t.record e).referDialog.isSome = true ∧ m.callId = (t.record e).referWireId) from hrefer)]
    exact h

theorem evolves_handleSipDatagram (hord : (t.served m).Orderly b m src) :
    Evolves ⟨true, b⟩ t (t.handleSipDatagram w m src) := by
  have hheard : Evolves ⟨true, b⟩ t (t.record (.received m src t.clock)) :=
    .of_move (.hear t.wire m src)
  have hm : .received m src t.clock ∈ (t.record (.received m src t.clock)).log :=
    List.mem_cons_self
  have hord' := orderly_record (.received m src t.clock) hord
  unfold handleSipDatagram
  dsimp only
  generalize t.record (.received m src t.clock) = u at hheard hm hord'
  unfold served at hord'
  split
  · split
    · exact hheard
    · exact hheard.trans (evolves_reject _ _)
  · split
    · rename_i hrefer
      rw [if_pos hrefer] at hord'
      have hentered : .received m src t.clock ∈ u.enterRefer.log := by
        have hlog : u.enterRefer.log = u.log := log_swapRefer (t := u.openProposal)
        rw [hlog]
        exact hm
      have hrun := hheard.trans (evolves_inRefer hrefer.1 hrefer.2.1
        (evolves_dispatch (o := ⟨false, b⟩) (w := w) hentered hord' (.inr scope_enterRefer)))
      exact hrun.trans (proceeds_pumpRefer _ (.inl rfl))
    · rename_i hown
      rw [if_neg hown] at hord'
      exact hheard.trans (evolves_dispatch hm hord' (.inl rfl))

/-! ## Datagrams -/

theorem wire_adoptUdp : t.adoptUdp.wire = t.wire := by
  unfold adoptUdp
  dsimp only
  split <;> rfl

/-- Both dialogs have the same turn. -/
def SameTurn (t t' : Transport) : Prop :=
  t'.referContextActive = t.referContextActive ∧ t'.referWireId = t.referWireId ∧
    turnOf t'.dialog = turnOf t.dialog ∧
    t'.referDialog.map (fun r => turnOf r.dialog) = t.referDialog.map fun r => turnOf r.dialog

theorem SameTurn.refl (t : Transport) : SameTurn t t := ⟨rfl, rfl, rfl, rfl⟩

theorem SameTurn.trans {a b c : Transport} (hab : SameTurn a b) (hbc : SameTurn b c) :
    SameTurn a c := by
  obtain ⟨h1, h2, h3, h4⟩ := hab
  obtain ⟨h1', h2', h3', h4'⟩ := hbc
  exact ⟨h1'.trans h1, h2'.trans h2, h3'.trans h3, h4'.trans h4⟩

theorem sameTurn_of_sent (h : Sent t u) : SameTurn t u := by
  obtain ⟨flow, io, log, event, status, rfl, _⟩ := h
  exact ⟨rfl, rfl, rfl, rfl⟩

theorem sameTurn_replayCompletedResponse (method : Method) (udp : Bool) :
    SameTurn t (t.replayCompletedResponse w m src method udp).2 := by
  rcases replayCompletedResponse_cases (w := w) m src method udp t with
    ⟨_, c, _, _, he⟩ | ⟨_, _, he⟩ | ⟨_, _, he⟩
  · rw [he]
    exact sameTurn_of_sent (sent_resend _ _ _ _)
  · rw [he]
    cases t.replaySlot m method with
    | acceptedRefer =>
      refine ⟨rfl, rfl, rfl, ?_⟩
      show Option.map _ (t.referDialog.map _) = _
      rw [Option.map_map]
      rfl
    | _ => exact ⟨rfl, rfl, rfl, rfl⟩
  · rw [he]
    exact .refl t

theorem sameTurn_replayCompletedInviteAck (udp : Bool) :
    SameTurn t (t.replayCompletedInviteAck w m src udp).2 := by
  unfold replayCompletedInviteAck
  dsimp only
  split
  · exact .refl t
  · split
    · exact .refl t
    · split
      · split <;> exact ⟨rfl, rfl, rfl, rfl⟩
      · split
        · exact sameTurn_of_sent (sent_resend _ _ _ _)
        · exact .refl t

theorem sameTurn_adoptUdp : SameTurn t t.adoptUdp := by
  unfold adoptUdp
  dsimp only
  split <;> exact ⟨rfl, rfl, rfl, rfl⟩

theorem turn_served (h : SameTurn t u) :
    turnOf (u.served m).dialog = turnOf (t.served m).dialog := by
  obtain ⟨hscope, hid, hdialog, hrefer⟩ := h
  have hentered (v : Transport) : turnOf v.enterRefer.dialog =
      (v.referDialog.map fun r => turnOf r.dialog).getD (turnOf v.dialog) := by
    unfold enterRefer swapRefer openProposal
    cases hr : v.referDialog with
    | none => rfl
    | some r => rfl
  have hsome : u.referDialog.isSome = t.referDialog.isSome := by
    have hmapped := congrArg Option.isSome hrefer
    rwa [Option.isSome_map, Option.isSome_map] at hmapped
  unfold served
  rw [hscope, hid, hsome]
  split
  · rw [hentered, hentered, hrefer, hdialog]
  · exact hdialog

/-- A datagram is answered from what is kept, or its request is in order. -/
theorem evolves_handleSipUdpDatagram (hord : t.replayable m src m.method true = true ∨
    InOrder b m (t.served m).dialog) : Evolves ⟨true, b⟩ t (t.handleSipUdpDatagram w m src) := by
  have hreplayed : Evolves ⟨true, b⟩ t (t.replayCompletedResponse w m src m.method true).2 :=
    evolves_replayCompletedResponse _ _
  have hacked : Evolves ⟨true, b⟩ t ((t.replayCompletedResponse w m src m.method
      true).2.replayCompletedInviteAck w m src true).2 :=
    hreplayed.trans (evolves_replayCompletedInviteAck true)
  have hturn : SameTurn t ((t.replayCompletedResponse w m src m.method
      true).2.replayCompletedInviteAck w m src true).2 :=
    (sameTurn_replayCompletedResponse m.method true).trans (sameTurn_replayCompletedInviteAck true)
  have hmissed (h : ¬(t.replayCompletedResponse w m src m.method true).1 = true) :
      InOrder b m (t.served m).dialog := by
    refine hord.resolve_left fun hr => h ?_
    rcases replayCompletedResponse_cases (w := w) m src m.method true t with
      ⟨_, c, _, _, he⟩ | ⟨hr', _, _⟩ | ⟨hr', _, _⟩
    · rw [he]
    · rw [hr] at hr'
      cases hr'
    · rw [hr] at hr'
      cases hr'
  unfold handleSipUdpDatagram
  dsimp only
  split
  · exact hreplayed
  · rename_i hunanswered
    have hin := hmissed hunanswered
    split
    · exact hacked
    · split
      · exact hacked
      · split
        · exact hacked.trans (evolves_handleSipDatagram
            (.inr (hin.of_turn (turn_served hturn))))
        · exact (hacked.trans (.of_eq wire_adoptUdp)).trans (evolves_handleSipDatagram
            (.inr (hin.of_turn (turn_served (hturn.trans sameTurn_adoptUdp)))))

/-! ## Stream connections -/

/-- The kept response to the last INVITE is lost with its connection, or not. -/
def dropTcpInvite (t : Transport) : Transport :=
  let lost := t.dialog.completedInvite.elim false fun c => !c.udp
  let t := if lost then t.record (.recordLost false
    (t.dialog.completedInvite.elim false fun c => c.awaitingAck) false) else t
  { t with dialog := { t.dialog with
    completedInvite := t.dialog.completedInvite.filter fun c => c.udp
    terminateAfterInviteAck := if lost then false else t.dialog.terminateAfterInviteAck } }

theorem evolves_dropTcpInvite : Evolves o t t.dropTcpInvite := by
  unfold dropTcpInvite
  cases hc : t.dialog.completedInvite with
  | none =>
    refine .of_eq ?_
    simp only [Option.elim_none, Bool.false_eq_true, if_false, hc, Option.filter_none]
    unfold wire lineOf
    simp only [hc]
  | some c =>
    cases hx : c.udp with
    | true =>
      refine .of_eq ?_
      simp only [Option.elim_some, hx, Bool.not_true, Bool.false_eq_true, if_false, hc]
      unfold wire lineOf
      simp only [hc, Option.filter_some, hx, if_true]
    | false =>
      have hrecord : t.wire.own.record = some c.untimed := congrArg (Option.map _) hc
      have hmove := Move.loseRecord (b := o.ordered) t.wire false false (fun h => nomatch h)
      have hawaits : t.wire.own.awaitsAnyAck = c.awaitingAck := by
        unfold Line.awaitsAnyAck
        rw [hrecord]
        rfl
      rw [hawaits, Bool.and_false] at hmove
      apply Evolves.of_move
      simp only [Option.elim_some, hx, Bool.not_false, if_true]
      have hgone : (t.dialog.completedInvite.filter fun c => c.udp) = none := by
        rw [hc, Option.filter_some, hx]
        rfl
      show Move o.ordered t.wire (wire { t.record (.recordLost false c.awaitingAck false) with
        dialog := { t.dialog with
          completedInvite := t.dialog.completedInvite.filter fun c => c.udp
          terminateAfterInviteAck := false } })
      rw [hgone]
      exact hmove

/-- The stream connection is gone, and with it what waited for it. -/
theorem evolves_dropFlow (flow : TcpFlow) (h : flow.pending = none) :
    Evolves o t (t.setTcpFlow flow) := by
  have hmove := Move.dequeue (b := o.ordered) t.wire
  have hwire : (t.setTcpFlow flow).wire =
    { t.wire with own := { t.wire.own with queued := none } } := by
    unfold setTcpFlow wire lineOf
    simp only [h]
  exact .of_move (hwire ▸ hmove)

theorem evolves_dropTcpRecords : Evolves o t t.dropTcpRecords := by
  have hdropped := ((((evolves_dropTcpInvite (o := o) (t := t)).trans (evolves_dropFlow
    { closeTcpFlow t.dialog.tcpFlow with connectRequested := false, pending := none } rfl)).trans
    (evolves_filterControl fun c => c.udp)).trans (evolves_filterAck fun c => c.udp)).trans
    (evolves_filterDirectionAck fun c => c.udp)
  refine hdropped.trans (.of_eq ?_)
  unfold dropTcpInvite dropTcpRecords
  dsimp only
  split <;> rfl

theorem evolves_closeTcpDialog : Evolves o t t.closeTcpDialog.2 := by
  have hdropped : Evolves o t t.dropTcpRecords := evolves_dropTcpRecords
  unfold closeTcpDialog
  dsimp only
  generalize (t.dialog.remoteSipTcp && (t.dialog.callId != "" ||
    t.dialog.outgoingInvitePending || t.mediaActive || t.terminalTransactionPending)) = dialogLost
  generalize he : (if dialogLost = true then t.dropTcpRecords.endReferInviteUsage false
    else (false, t.dropTcpRecords)) = ended
  have hended : Evolves o t ended.2 := by
    rw [← he]
    split
    · exact hdropped.trans (evolves_endReferInviteUsage false)
    · exact hdropped
  split
  · exact hended
  · have hset : Evolves o t { t.dropTcpRecords with
        dialog := { t.dropTcpRecords.dialog with remoteSipTcp := false } } :=
      hdropped.trans (.of_eq rfl)
    dsimp only
    split
    · exact hset.trans evolves_resetDialog
    · exact hset

theorem evolves_ownerTcpLoss : Evolves o t t.ownerTcpLoss := by
  have hclosed : Evolves o t t.closeTcpDialog.2 := evolves_closeTcpDialog
  unfold ownerTcpLoss
  dsimp only
  split
  · refine hclosed.trans (.of_move (.callback _ (.connectionChange false) ?_))
    intro signal hs
    cases hs
  · exact hclosed

theorem evolves_candidateTcpLoss : Evolves o t t.candidateTcpLoss := by
  have hclosed : Evolves o t t.closeTcpDialog.2 := evolves_closeTcpDialog
  unfold candidateTcpLoss
  dsimp only
  split
  · refine hclosed.trans (evolves_emitSipSignal _ ?_)
    intro h
    cases h
  · exact hclosed

theorem evolves_handleTcpPeerLoss (refer : Bool) (hscope : t.referContextActive = false) :
    Evolves ⟨true, b⟩ t (t.handleTcpPeerLoss w refer) := by
  unfold handleTcpPeerLoss
  split
  · rename_i hrefer
    have hlost : Evolves ⟨true, b⟩ t (t.inRefer candidateTcpLoss) :=
      evolves_inRefer hscope hrefer.2 evolves_candidateTcpLoss
    exact hlost.trans (proceeds_pumpRefer _ (.inl rfl))
  · split
    · exact .refl t
    · exact evolves_ownerTcpLoss

/-- What was queued is sent on the connection that is there now, or lost. -/
theorem wire_promoteOwnFlow (w : World) (t : Transport) :
    (t.promoteOwnFlow w).2.wire = { t.wire with own := { t.wire.own with queued := none } } ∨
    ∃ msg connection, t.wire.own.queued = some msg ∧ (t.promoteOwnFlow w).2.wire =
      { t.wire.enter (.sent msg (.tcp connection) t.wire.clock) with
        own := { t.wire.own with queued := none } } := by
  unfold promoteOwnFlow
  dsimp only
  cases hq : t.dialog.tcpFlow.pending with
  | none => exact .inl rfl
  | some msg =>
    have hqueued : t.wire.own.queued = some msg := hq
    unfold sendSipTcpRecord
    dsimp only
    split
    · exact .inr ⟨msg, _, hqueued, rfl⟩
    · exact .inl rfl

theorem evolves_promoteOwnFlow : Evolves o t (t.promoteOwnFlow w).2 := by
  rcases wire_promoteOwnFlow w t with he | ⟨msg, connection, hqueued, he⟩
  · exact .of_move (he ▸ .dequeue t.wire)
  · have hheld : t.wire.Holds msg := by
      refine .inl ?_
      unfold Wire.kept Line.kept
      simp [hqueued]
    have hsent := Move.send (b := o.ordered) msg hheld (.sent (.tcp connection))
    unfold Evolves
    rw [he]
    exact (Relation.ReflTransGen.single (.inl hsent)).tail (.inl (.dequeue _))

theorem swap_swap (s : Wire) : s.swap.swap = s := by
  unfold Wire.swap
  cases hr : s.second with
  | none => simp only [hr]
  | some r =>
    cases s
    cases hr
    rfl

/-- The connection of the second dialog is there. -/
theorem evolves_promoteSecondFlow : Evolves o t (t.onFlow true (promoteOwnFlow w)).2 := by
  unfold onFlow
  rw [if_pos rfl]
  dsimp only
  cases hr : t.wire.second with
  | none =>
    -- Without a second dialog entering and leaving it changes nothing.
    have hself (u : Transport) (hu : u.wire.second = none) : u.swapRefer.wire = u.wire := by
      rw [wire_swapRefer]
      unfold Wire.swap
      rw [hu]
    have hsame : t.swapRefer.wire = t.wire := hself t hr
    have hpromoted := (Evolves.of_eq hsame).trans (evolves_promoteOwnFlow (o := o) (w := w))
    refine hpromoted.trans (.of_eq (hself _ ?_))
    rcases wire_promoteOwnFlow w t.swapRefer with he | ⟨msg, connection, _, he⟩
    · rw [he, hsame]
      exact hr
    · rw [he, hsame]
      exact hr
  | some r =>
    -- With one, its line is on top while its connection sends what was queued.
    have hswap : t.swapRefer.wire =
        { t.wire with own := r.line, second := some { r with line := t.wire.own } } := by
      rw [wire_swapRefer]
      unfold Wire.swap
      rw [hr]
    have hqueue (u : Transport) (hu : t.wire.second = some r) (log : List WireEntry)
        (hwire : u.wire = { t.wire with
          own := { r.line with queued := none }
          second := some { r with line := t.wire.own }
          log := log }) : u.swapRefer.wire = { t.wire with
            second := some { r with line := { r.line with queued := none } }
            log := log } := by
      rw [wire_swapRefer, hwire]
      rfl
    apply Evolves.of_move
    rcases wire_promoteOwnFlow w t.swapRefer with he | ⟨msg, connection, hqueued, he⟩
    · rw [hswap] at he
      rw [hqueue _ hr t.wire.log he]
      have hmove := Move.dequeueSecond (b := o.ordered) t.wire
      rw [hr] at hmove
      exact hmove
    · rw [hswap] at he hqueued
      rw [hqueue _ hr _ he]
      exact .sendSecond t.wire r msg connection hr hqueued

/-- Work on a connection that the moves do not see. -/
theorem wire_onFlow {α : Type} (refer : Bool) {f : Transport → α × Transport}
    (hf : ∀ t, (f t).2.wire = t.wire) : (t.onFlow refer f).2.wire = t.wire := by
  unfold onFlow
  split
  · dsimp only
    rw [wire_swapRefer, hf, wire_swapRefer, swap_swap]
  · exact hf t

theorem evolves_promoteTcpFlow (refer : Bool) (hscope : t.referContextActive = false) :
    Evolves ⟨true, b⟩ t (t.promoteTcpFlow w refer) := by
  have hpromoted : Evolves ⟨true, b⟩ t (t.onFlow refer (promoteOwnFlow w)).2 := by
    cases refer with
    | true => exact evolves_promoteSecondFlow
    | false => exact evolves_promoteOwnFlow
  unfold promoteTcpFlow
  dsimp only
  split
  · exact hpromoted
  · exact hpromoted.trans (evolves_handleTcpPeerLoss refer (hpromoted.scope.trans hscope))

theorem wire_prepareOwnFlow (t : Transport) : t.prepareOwnFlow.2.wire = t.wire := by
  unfold prepareOwnFlow
  dsimp only
  have hflow : (if t.dialog.tcpFlow.closeRequested = true then closeTcpFlow t.dialog.tcpFlow
      else t.dialog.tcpFlow).pending = t.dialog.tcpFlow.pending := by
    split <;> rfl
  generalize (if t.dialog.tcpFlow.closeRequested = true then closeTcpFlow t.dialog.tcpFlow
    else t.dialog.tcpFlow) = flow at hflow
  have hset (flow' : TcpFlow) (h : flow'.pending = t.dialog.tcpFlow.pending) :
      (t.setTcpFlow flow').wire = t.wire := by
    unfold setTcpFlow wire lineOf
    simp only [h]
  split
  · exact hset flow hflow
  · exact hset _ hflow

theorem evolves_prepareTcpFlow (refer : Bool) (result : ConnectResult)
    (hscope : t.referContextActive = false) :
    Evolves ⟨true, b⟩ t (t.prepareTcpFlow w refer result) := by
  have hprepared : Evolves ⟨true, b⟩ t (t.onFlow refer prepareOwnFlow).2 :=
    .of_eq (wire_onFlow refer wire_prepareOwnFlow)
  have hscope' := hprepared.scope.trans hscope
  unfold prepareTcpFlow
  dsimp only
  split
  · exact .refl t
  · split
    · exact hprepared
    · split
      · exact hprepared.trans (evolves_handleTcpPeerLoss refer hscope')
      · split
        · exact hprepared.trans (evolves_promoteTcpFlow refer hscope')
        · exact hprepared.trans (.of_eq (wire_onFlow refer fun _ => rfl))
        · exact hprepared.trans (evolves_handleTcpPeerLoss refer hscope')

theorem evolves_finishConnection (refer connected : Bool)
    (hscope : t.referContextActive = false) :
    Evolves ⟨true, b⟩ t (t.finishConnection w refer connected) := by
  unfold finishConnection
  dsimp only
  repeat' split
  all_goals first
    | exact .refl t
    | exact evolves_promoteTcpFlow _ hscope
    | exact evolves_handleTcpPeerLoss _ hscope

theorem wire_acceptTcp (ip : UInt32) (dialogActive shouldAccept : Bool) :
    (t.acceptTcp ip dialogActive shouldAccept).wire = t.wire := by
  unfold acceptTcp
  dsimp only
  repeat' split
  all_goals rfl

/-! ## The RTP task -/

theorem evolves_rtpTaskQuiesce : Evolves o t t.rtpTaskQuiesce := by
  refine .of_move (.callback t.wire .mediaQuiesced ?_)
  intro signal hs
  cases hs

theorem evolves_rtpWorkerFailed (ho : Outer o t) : Evolves o t (t.rtpWorkerFailed w) := by
  unfold rtpWorkerFailed
  split
  · exact .refl t
  · dsimp only
    generalize hu : videoRequestStop _ = u
    have hstopped : Evolves o t u := by
      refine .of_eq ?_
      rw [← hu]
      exact wire_closeMediaSession
    have hquiet := hstopped.trans evolves_rtpTaskQuiesce
    split
    · exact hquiet
    · refine hquiet.trans (evolves_endDialog ?_ _ _ _ (ho.evolves hquiet))
      intro h
      cases h

theorem wire_receiveRtp (packet : RtpPacket) : (t.receiveRtp packet src).wire = t.wire := by
  unfold receiveRtp
  dsimp only
  repeat' split
  all_goals rfl

/-! ## Steps -/

theorem evolves_disconnect : Evolves o t t.disconnect := by
  unfold disconnect
  split
  · exact .refl t
  · exact evolves_resetDialog

theorem wire_prepareMediaPath : (t.prepareMediaPath w).2.wire = t.wire := by
  unfold prepareMediaPath
  split
  · rfl
  · exact wire_prepareMediaPathLocked

theorem evolves_exec (c : Command) (ho : Outer o t) : Evolves o t (t.exec w c).2 := by
  cases c with
  | sendInvite callId callerRoute callerName destRoute destName => exact evolves_sendInvite _ _ _
  | sendRinging callId => exact evolves_sendRinging callId
  | sendAnswer callId callerToDest destToCaller => exact evolves_sendAnswer _ _ _
  | setConnectedIdentity route name => exact evolves_setConnectedIdentity route name
  | sendCancel callId => exact evolves_sendCancel callId ho
  | sendBye callId => exact evolves_sendBye callId ho
  | sendFinalResponse callId status reason => exact evolves_sendFinalResponse _ _ _ ho
  | setRemote ip port rtpPort => exact .of_eq rfl
  | setSipSignalingTransport tcp => exact evolves_setSipSignalingTransport tcp
  | setPeerDirectionalAudioV1 enabled => exact .of_eq rfl
  | originate host port => exact evolves_originate host port
  | prepareMediaPath => exact .of_eq wire_prepareMediaPath
  | commitMediaPath => exact evolves_commitMediaPath ho
  | abortMediaPath => exact .of_eq wire_requestAudioPathStop
  | startAudioPath => exact .of_eq wire_startAudioPath
  | stopAudioPath => exact .of_eq wire_requestAudioPathStop
  | disconnect => exact evolves_disconnect

/-- The request of an event is answered from what is kept, or is in order. -/
def OrderlyEvent (b : Bool) (e : Event) (t : Transport) : Prop :=
  match e with
  | .udp m src => t.replayable m src m.method true = true ∨ InOrder b m (t.served m).dialog
  | .tcp m src => (t.served m).Orderly b m src
  | _ => True

/-- Every step is a sequence of moves. -/
theorem evolves_orderly_step (w : World) (e : Event) (t : Transport)
    (hscope : t.referContextActive = false) (hord : t.OrderlyEvent b e) :
    Evolves ⟨true, b⟩ t (step w e t) := by
  have ho : Outer ⟨true, b⟩ t := .inl rfl
  cases e with
  | udp m src => exact evolves_handleSipUdpDatagram hord
  | tcp m src => exact evolves_handleSipDatagram hord
  | pump => exact evolves_pumpUdpRetransmits ho
  | elapse ms => exact .of_move (.elapse t.wire ms)
  | prepareTcp refer result => exact evolves_prepareTcpFlow refer result hscope
  | finishConnection refer connected => exact evolves_finishConnection refer connected hscope
  | acceptTcp ip dialogActive shouldAccept => exact .of_eq (wire_acceptTcp _ _ _)
  | tcpPeerLoss refer => exact evolves_handleTcpPeerLoss refer hscope
  | rtpWorkerFailed => exact evolves_rtpWorkerFailed ho
  | rtpTaskQuiesced => exact evolves_rtpTaskQuiesce
  | rtpReceived packet src => exact .of_eq (wire_receiveRtp packet)
  | requestVideoSend enabled =>
    unfold step
    dsimp only
    split
    · exact evolves_requestVideoSend enabled
    · exact .refl t
  | command c => exact evolves_exec c ho
  | takeCallbacks => exact .of_move (.takeCallbacks t.wire)

theorem orderlyEvent_false (e : Event) (t : Transport) : t.OrderlyEvent false e := by
  have hin (m : SipMessage) (d : Dialog) : InOrder false m d := fun h => nomatch h
  cases e with
  | udp m src => exact .inr (hin m _)
  | tcp m src => exact .inr (hin m _)
  | _ => trivial

/-- Every step is a sequence of moves, in whatever order the peer numbers its requests. -/
theorem evolves_step (w : World) (e : Event) (t : Transport)
    (hscope : t.referContextActive = false) : Evolves ⟨true, false⟩ t (step w e t) :=
  evolves_orderly_step w e t hscope (orderlyEvent_false e t)

end Transport

end EsphomeVoip
