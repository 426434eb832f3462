import EsphomeVoip.Transport.Timely.Transfer

/-! # Timers in every state of every run

Between events the owner is in its place and no answer of a second dialog waits, and the same is
known of the transactions of both dialogs.  Every event but the passage of time and the pump keeps
that, and the pump turns it into what is known of transactions that were just pumped. -/

namespace EsphomeVoip

open WrapClock (millis timeReached)

namespace Transport

variable {k : Watch} {w : World} {t u v : Transport} {m msg : SipMessage} {src : Peer}

/-! ## A transfer begins -/

/-- The second dialog of a transfer that begins has nothing outstanding. -/
theorem Timely.beginRefer (h : Timely k t) (ip : UInt32) (port : UInt16) :
    Timely k (t.beginRefer w m ip port) := by
  have hidle : ({ t with referRetiring := false, referSignalPending := false } :
      Transport).answered = false := rfl
  have hbegun : Timely k { t with referRetiring := false, referSignalPending := false } :=
    h.unsettle.withAnswered rfl hidle
  have hcandidate : Timely k { t with
      referDialog := some (t.referCandidate m ip port)
      referRetiring := false
      referSignalPending := false } := by
    refine { hbegun with other := ?_, notify := ?_ }
    · rintro r ⟨rfl⟩
      exact ⟨fun _ _ hx => (nomatch hx), fun _ hx => (nomatch hx), fun _ hx => (nomatch hx),
        fun _ hx => (nomatch hx), fun _ hx => (nomatch hx), fun hsome => (nomatch hsome)⟩
    · rintro r ⟨rfl⟩
      exact ⟨fun _ hx => (nomatch hx), fun _ hx => (nomatch hx)⟩
  exact hcandidate.congr rfl

theorem Timely.callCandidate (hk : k.Closed) (h : Timely k t)
    (hanswered : k.scope = true → t.answered = false) (caller destination : SipIdentity) :
    Timely k (t.callCandidate w caller destination).2 := by
  unfold Transport.callCandidate
  dsimp only
  generalize hu : (if t.dialog.remoteSipTcp = true then t.setTcpFlow _ else t) = u
  have hu' : Timely k u ∧ u.answered = t.answered := by
    rw [← hu]
    split
    · exact ⟨h.congr rfl, rfl⟩
    · exact ⟨h, rfl⟩
  exact hu'.1.sendInvite hk (fun hs => hu'.2.trans (hanswered hs)) _ _ _

theorem answered_enterRefer : t.enterRefer.answered = t.answered := by
  unfold enterRefer swapRefer openProposal
  dsimp only
  split <;> rfl

theorem Timely.startRefer (hk : k.Closed) (h : Timely k t) (hscope : k.scope = false)
    (hcalm : k.calm = true) (ip : UInt32) (port : UInt16) :
    Timely k (t.startRefer w m ip port) := by
  have hnotified : Timely k ((t.beginRefer w m ip port).notifyRefer w m.cseqNumber 100 "Trying") :=
    (h.beginRefer ip port).notifyRefer hk _ _ _
  have hsome : ((t.beginRefer w m ip port).notifyRefer w m.cseqNumber 100
      "Trying").referDialog.isSome = true := isSome_notifyRefer _ _ _
  unfold Transport.startRefer
  dsimp only
  generalize (t.beginRefer w m ip port).notifyRefer w m.cseqNumber 100 "Trying" = u
    at hnotified hsome
  generalize SipIdentity.mk u.dialog.localUri.uri.user u.dialog.localUri.displayName = caller
  generalize SipIdentity.mk m.referTo.uri.user m.referTo.uri.user = destination
  have hcalled : Timely k (u.enterRefer.callCandidate w caller destination).2.leaveRefer := by
    refine hnotified.inRefer (f := fun t => (t.callCandidate w caller destination).2) hscope hsome
      (fun he => ?_) ?_
    · exact he.callCandidate hk.entered (fun _ => answered_enterRefer.trans (hnotified.calm hcalm))
        _ _
    · exact (keepsTransfer_inRefer (b := false)
        (f := fun t => (t.callCandidate w caller destination).2)
        (evolves_callCandidate caller destination)).1
  split
  · exact hcalled
  · exact (hcalled.notifyRefer hk _ _ _).unsettle.retire

theorem Timely.acceptRefer (hk : k.Closed) (h : Timely k t) (hscope : k.scope = false)
    (hcalm : k.calm = true) (ip : UInt32) (port : UInt16) :
    Timely k (t.acceptRefer w m src ip port) := by
  have hmemory : Timely k (t.resource w).2 := h.congr rfl
  have hnoted : Timely k { (t.resource w).2 with referCseq := m.cseqNumber } := h.congr rfl
  have hrefused : Timely k
      ({ (t.resource w).2 with referCseq := m.cseqNumber }.refuse w m src 200 "OK" "").2 :=
    hnoted.refuse _ _ _
  unfold Transport.acceptRefer
  dsimp only
  split
  · exact hmemory.reject _ _
  · split
    · exact hrefused.startRefer hk hscope hcalm ip port
    · exact hrefused

theorem Timely.handleRefer (hk : k.Closed) (h : Timely k t)
    (hcalm : k.scope = false → k.calm = true) : Timely k (t.handleRefer w m src) := by
  have hstale : Timely k (t.rejectIfStaleDialog w m src .refer).2 := h.rejectIfStaleDialog _
  unfold Transport.handleRefer
  dsimp only
  split
  · exact hstale
  · split
    · exact h.reject _ _
    · rename_i hfree
      simp only [not_or, Bool.not_eq_true] at hfree
      have hscope : k.scope = false := h.scope.symm.trans hfree.2.1
      repeat' split
      all_goals first | exact h.reject _ _ | exact h.acceptRefer hk hscope (hcalm hscope) _ _

/-! ## The dispatcher -/

theorem Timely.routeRequest (hk : k.Closed) (h : Timely k t)
    (hcalm : k.scope = false → k.calm = true) : Timely k (t.routeRequest w m src) := by
  unfold Transport.routeRequest
  split
  · exact h.reject _ _
  · rename_i hroute
    split
    · exact h.handleRefer hk hcalm
    · rename_i hinvite
      have hscope : k.scope = false := by
        rw [← h.scope]
        exact Bool.eq_false_iff.2 fun hs => hroute ⟨hs, .inl hinvite⟩
      exact h.handleInvite hscope
    · exact h.handleAck hk
    · exact h.handleBye
    · exact h.handleCancel
    · exact h.handleUpdate
    · exact h.reject _ _
    · split <;> exact h.reject _ _

theorem Timely.handleRequest (hk : k.Closed) (h : Timely k t)
    (hcalm : k.scope = false → k.calm = true) : Timely k (t.handleRequest w m src) := by
  unfold Transport.handleRequest
  dsimp only
  generalize hr : (if isReplayedMethod m.method = true then
    t.replayCompletedResponse w m src m.method (!t.dialog.remoteSipTcp) else (false, t)) = replayed
  have hreplayed : Timely k replayed.2 := by
    rw [← hr]
    split
    · exact h.replayCompletedResponse _ _
    · exact h
  split
  · exact hreplayed
  · split
    · exact hreplayed.routeRequest hk hcalm
    · exact Timely.routeRequest hk (hreplayed.congr (agenda_markSipEvent _ _)) hcalm

/-- The second dialog takes a message in place of the owner. -/
theorem Timely.dispatchOther (hk : k.Closed) (h : Timely k t) (hscope : k.scope = true)
    (hcalm : k.calm = false) : Timely k (dispatch w m src t) := by
  have hresponse : Timely k (t.handleResponse w m src).2 := h.handleResponse hk fun _ => hcalm
  unfold Transport.dispatch
  split
  · unfold Transport.pumpRefer
    rw [hresponse.scope, hscope]
    exact hresponse
  · refine h.handleRequest hk fun hs => ?_
    rw [hscope] at hs
    cases hs

/-- What is known between events. -/
structure Idle (k : Watch) : Prop where
  closed : k.Closed
  pumps : Pumps k.clock k.other k.other
  scope : k.scope = false
  calm : k.calm = true
  same : k.other = k.own

/-- What a transfer does with what the second dialog has reported. -/
theorem Timely.settleRefer (hi : Idle k) (h : Timely k.unsettled t)
    (hcalm : t.referDialog = none → t.answered = false) : Timely k (t.pumpRefer w) :=
  h.pumpRefer hi.closed hi.closed.other hi.pumps hi.scope hi.same hcalm

theorem Timely.dispatch (hi : Idle k) (h : Timely k t) : Timely k (dispatch w m src t) := by
  have hresponse : Timely k (t.handleResponse w m src).2 := by
    refine h.handleResponse hi.closed fun hs => ?_
    rw [hi.scope] at hs
    cases hs
  unfold Transport.dispatch
  split
  · exact hresponse.unsettle.settleRefer hi fun _ => hresponse.calm hi.calm
  · exact h.handleRequest hi.closed fun _ => hi.calm

theorem keeps_dispatch {time : Nat} (hm : .received m src time ∈ t.log) :
    (t.inRefer (dispatch w m src)).referDialog.isSome = t.referDialog.isSome := by
  have hlog : t.enterRefer.log = t.log := log_swapRefer (t := t.openProposal)
  have hm' : .received m src time ∈ t.enterRefer.log := by
    rw [hlog]
    exact hm
  have hserved : Evolves ⟨false, false⟩ t.enterRefer (Transport.dispatch w m src t.enterRefer) :=
    evolves_dispatch hm' (.inr fun h => nomatch h) (.inr scope_enterRefer)
  exact (keepsTransfer_inRefer hserved).1

theorem Timely.handleSipDatagram (hi : Idle k) (h : Timely k t) :
    Timely k (t.handleSipDatagram w m src) := by
  have hheard : Timely k (t.record (.received m src t.clock)) := h.congr (agenda_record _)
  have hm : .received m src t.clock ∈ (t.record (.received m src t.clock)).log :=
    List.mem_cons_self
  unfold Transport.handleSipDatagram
  dsimp only
  generalize t.record (.received m src t.clock) = u at hheard hm
  split
  · split
    · exact hheard
    · exact hheard.reject _ _
  · split
    · rename_i hrefer
      have hserved : Timely k.unsettled (u.inRefer (Transport.dispatch w m src)) := by
        refine hheard.unsettle.inRefer hi.scope hrefer.2.1 (fun he => ?_) (keeps_dispatch hm)
        exact he.dispatchOther hi.closed.unsettled.entered rfl rfl
      refine hserved.settleRefer hi fun hnone => ?_
      have hsome := (keeps_dispatch (w := w) hm).trans hrefer.2.1
      rw [hnone] at hsome
      cases hsome
    · exact hheard.dispatch hi

theorem agenda_adoptUdp : t.adoptUdp.agenda = t.agenda := by
  unfold adoptUdp
  dsimp only
  split <;> rfl

theorem Timely.handleSipUdpDatagram (hi : Idle k) (h : Timely k t) :
    Timely k (t.handleSipUdpDatagram w m src) := by
  have hreplayed : Timely k (t.replayCompletedResponse w m src m.method true).2 :=
    h.replayCompletedResponse _ _
  have hacked : Timely k ((t.replayCompletedResponse w m src m.method
      true).2.replayCompletedInviteAck w m src true).2 := hreplayed.replayCompletedInviteAck _
  unfold Transport.handleSipUdpDatagram
  dsimp only
  split
  · exact hreplayed
  · split
    · exact hacked
    · split
      · exact hacked
      · split
        · exact hacked.handleSipDatagram hi
        · exact Timely.handleSipDatagram hi (hacked.congr agenda_adoptUdp)

/-! ## Stream connections -/

theorem agenda_swapRefer_congr (h : u.agenda = v.agenda) :
    u.swapRefer.agenda = v.swapRefer.agenda := by
  have hsome (t : Transport) {r : ReferDialog} (hr : t.referDialog = some r) :
      t.swapRefer.agenda = { t.agenda with
        dialog := r.agenda.dialog
        referDialog := some { r.agenda with dialog := t.agenda.dialog } } := by
    unfold swapRefer
    rw [hr]
    rfl
  have hnone (t : Transport) (hr : t.referDialog = none) : t.swapRefer = t := by
    unfold swapRefer
    rw [hr]
  have hrefer : u.referDialog.map ReferDialog.agenda = v.referDialog.map ReferDialog.agenda :=
    congrArg referDialog h
  cases hu : u.referDialog with
  | none =>
    have hv : v.referDialog = none := by simpa [hu] using hrefer.symm
    rw [hnone u hu, hnone v hv, h]
  | some r =>
    obtain ⟨r', hv, he⟩ : ∃ r', v.referDialog = some r' ∧ r'.agenda = r.agenda := by
      simpa [hu] using hrefer.symm
    rw [hsome u hu, hsome v hv, he, h]

/-- Work on a connection leaves the timers of both dialogs as they are. -/
theorem agenda_onFlow {α : Type} (refer : Bool) {f : Transport → α × Transport}
    (hf : ∀ t, (f t).2.agenda = t.agenda) : (t.onFlow refer f).2.agenda = t.agenda := by
  unfold onFlow
  split
  · dsimp only
    rw [agenda_swapRefer_congr (hf t.swapRefer), swapRefer_swapRefer]
  · exact hf t

theorem agenda_setTcpFlow (flow : TcpFlow) : (t.setTcpFlow flow).agenda = t.agenda := rfl

theorem agenda_promoteOwnFlow : (t.promoteOwnFlow w).2.agenda = t.agenda := by
  unfold promoteOwnFlow
  dsimp only
  split
  · rfl
  · unfold sendSipTcpRecord
    split <;> rfl

theorem agenda_prepareOwnFlow : t.prepareOwnFlow.2.agenda = t.agenda := by
  unfold prepareOwnFlow
  dsimp only
  generalize (if t.dialog.tcpFlow.closeRequested = true then closeTcpFlow t.dialog.tcpFlow
    else t.dialog.tcpFlow) = flow
  split
  · exact agenda_setTcpFlow _
  · exact agenda_setTcpFlow _

theorem Timely.dropTcpRecords (h : Timely k t) : Timely k t.dropTcpRecords := by
  have hdialog : Timely k { t with dialog := { t.dialog with
      completedInvite := t.dialog.completedInvite.filter fun c => c.udp } } :=
    h.withDialog (h.own.withFinal fun c hc => h.own.final c (Option.filter_eq_some_iff.1 hc).1)
  unfold Transport.dropTcpRecords
  dsimp only
  split
  · exact hdialog.congr rfl
  · exact hdialog.congr rfl

theorem Timely.closeTcpDialog (h : Timely k t) : Timely k t.closeTcpDialog.2 := by
  have hdropped := h.dropTcpRecords
  unfold Transport.closeTcpDialog
  dsimp only
  generalize (t.dialog.remoteSipTcp && (t.dialog.callId != "" ||
    t.dialog.outgoingInvitePending || t.mediaActive || t.terminalTransactionPending)) = dialogLost
  generalize he : (if dialogLost = true then t.dropTcpRecords.endReferInviteUsage false
    else (false, t.dropTcpRecords)) = ended
  have hended : Timely k ended.2 := by
    rw [← he]
    split
    · exact hdropped.endReferInviteUsage false
    · exact hdropped
  have hset : Timely k { ended.2 with dialog := { ended.2.dialog with remoteSipTcp := false } } :=
    hended.congr rfl
  split
  · exact hended
  · have hlost : Timely k { t.dropTcpRecords with
        dialog := { t.dropTcpRecords.dialog with remoteSipTcp := false } } := hdropped.congr rfl
    dsimp only
    split
    · exact hlost.resetDialog
    · exact hlost

theorem Timely.ownerTcpLoss (h : Timely k t) : Timely k t.ownerTcpLoss := by
  have hclosed := h.closeTcpDialog
  unfold Transport.ownerTcpLoss
  dsimp only
  split
  · exact hclosed.congr rfl
  · exact hclosed

theorem Timely.candidateTcpLoss (h : Timely k t) : Timely k t.candidateTcpLoss := by
  have hclosed := h.closeTcpDialog
  unfold Transport.candidateTcpLoss
  dsimp only
  split
  · exact hclosed.emitOther fun he => nomatch he
  · exact hclosed

theorem Timely.handleTcpPeerLoss (hi : Idle k) (h : Timely k t) (refer : Bool) :
    Timely k (t.handleTcpPeerLoss w refer) := by
  have hkeeps : (t.inRefer Transport.candidateTcpLoss).referDialog.isSome = t.referDialog.isSome :=
    (keepsTransfer_inRefer (b := false) evolves_candidateTcpLoss).1
  unfold Transport.handleTcpPeerLoss
  split
  · rename_i hrefer
    have hlost : Timely k.unsettled (t.inRefer Transport.candidateTcpLoss) :=
      h.unsettle.inRefer hi.scope hrefer.2 (fun he => he.candidateTcpLoss) hkeeps
    refine hlost.settleRefer hi fun hnone => ?_
    have hsome := hkeeps.trans hrefer.2
    rw [hnone] at hsome
    cases hsome
  · split
    · exact h
    · exact h.ownerTcpLoss

theorem Timely.promoteTcpFlow (hi : Idle k) (h : Timely k t) (refer : Bool) :
    Timely k (t.promoteTcpFlow w refer) := by
  have hpromoted : Timely k (t.onFlow refer (promoteOwnFlow w)).2 :=
    h.congr (agenda_onFlow refer fun _ => agenda_promoteOwnFlow)
  unfold Transport.promoteTcpFlow
  dsimp only
  split
  · exact hpromoted
  · exact hpromoted.handleTcpPeerLoss hi refer

theorem Timely.prepareTcpFlow (hi : Idle k) (h : Timely k t) (refer : Bool)
    (result : ConnectResult) : Timely k (t.prepareTcpFlow w refer result) := by
  have hprepared : Timely k (t.onFlow refer prepareOwnFlow).2 :=
    h.congr (agenda_onFlow refer fun _ => agenda_prepareOwnFlow)
  unfold Transport.prepareTcpFlow
  dsimp only
  split
  · exact h
  · split
    · exact hprepared
    · split
      · exact hprepared.handleTcpPeerLoss hi refer
      · split
        · exact hprepared.promoteTcpFlow hi refer
        · exact hprepared.congr (agenda_onFlow refer fun _ => rfl)
        · exact hprepared.handleTcpPeerLoss hi refer

theorem Timely.finishConnection (hi : Idle k) (h : Timely k t) (refer connected : Bool) :
    Timely k (t.finishConnection w refer connected) := by
  unfold Transport.finishConnection
  dsimp only
  repeat' split
  all_goals first
    | exact h
    | exact h.promoteTcpFlow hi refer
    | exact h.handleTcpPeerLoss hi refer

theorem agenda_acceptTcp (ip : UInt32) (dialogActive shouldAccept : Bool) :
    (t.acceptTcp ip dialogActive shouldAccept).agenda = t.agenda := by
  unfold acceptTcp
  dsimp only
  repeat' split
  all_goals rfl

/-! ## The RTP task -/

theorem agenda_rtpTaskQuiesce : t.rtpTaskQuiesce.agenda = t.agenda := rfl

theorem Timely.rtpWorkerFailed (hk : k.Closed) (h : Timely k t) :
    Timely k (t.rtpWorkerFailed w) := by
  unfold Transport.rtpWorkerFailed
  split
  · exact h
  · dsimp only
    generalize hu : videoRequestStop _ = u
    have hstopped : Timely k u := hu ▸ h.closeMediaSession.congr rfl
    have hquiet : Timely k u.rtpTaskQuiesce := hstopped.congr agenda_rtpTaskQuiesce
    split
    · exact hquiet
    · exact hquiet.endDialog hk (by decide) _ _ _

theorem agenda_receiveRtp (packet : RtpPacket) : (t.receiveRtp packet src).agenda = t.agenda := by
  unfold receiveRtp
  dsimp only
  repeat' split
  all_goals rfl

/-! ## Commands -/

theorem Timely.disconnect (h : Timely k t) : Timely k t.disconnect := by
  unfold Transport.disconnect
  split
  · exact h
  · exact h.resetDialog

theorem agenda_prepareMediaPath : (t.prepareMediaPath w).2.agenda = t.agenda := by
  unfold prepareMediaPath
  split
  · rfl
  · exact agenda_prepareMediaPathLocked

theorem agenda_startAudioPath : (t.startAudioPath w).2.agenda = t.agenda := by
  unfold startAudioPath
  split
  · rfl
  · dsimp only
    split
    · exact agenda_commitMediaPathLocked.trans agenda_prepareMediaPathLocked
    · exact agenda_prepareMediaPathLocked

/-- The call component answers only when no INVITE of ours is outstanding. -/
def AnswersPeer (c : Command) (t : Transport) : Prop :=
  match c with
  | .sendAnswer .. => t.dialog.pendingInvite = none
  | _ => True

theorem Timely.exec (hi : Idle k) (h : Timely k t) (c : Command)
    (horderly : k.orderly = true → AnswersPeer c t) : Timely k (t.exec w c).2 := by
  cases c with
  | sendInvite callId callerRoute callerName destRoute destName =>
    refine h.sendInvite hi.closed (fun hs => ?_) _ _ _
    rw [hi.scope] at hs
    cases hs
  | sendRinging callId => exact (h.adoptCallId callId).sendResponse _ _ _ _
  | sendAnswer callId callerToDest destToCaller => exact h.sendAnswer hi.scope horderly _ _ _
  | setConnectedIdentity route name => exact h.congr (agenda_setConnectedIdentity route name)
  | sendCancel callId => exact h.sendCancel hi.closed callId
  | sendBye callId => exact h.sendBye hi.closed callId
  | sendFinalResponse callId status reason => exact h.sendFinalResponse hi.closed _ _ _
  | setRemote ip port rtpPort => exact h.congr rfl
  | setSipSignalingTransport tcp => exact h.congr (agenda_setSipSignalingTransport tcp)
  | setPeerDirectionalAudioV1 enabled => exact h.congr rfl
  | originate host port => exact h.congr (agenda_originate host port)
  | prepareMediaPath => exact h.congr agenda_prepareMediaPath
  | commitMediaPath => exact h.commitMediaPath hi.closed
  | abortMediaPath => exact h.requestAudioPathStop
  | startAudioPath => exact h.congr agenda_startAudioPath
  | stopAudioPath => exact h.requestAudioPathStop
  | disconnect => exact h.disconnect

/-! ## Steps -/

/-- Every answer among the events is for a call of the peer. -/
def AnswersOrderly (e : Event) (t : Transport) : Prop := ∀ c, e = .command c → AnswersPeer c t

/-- Every step keeps what is known, but the passage of time and the pump. -/
theorem Timely.step (hi : Idle k) (h : Timely k t) (e : Event) (hpump : e ≠ .pump)
    (helapse : ∀ ms, e ≠ .elapse ms) (horderly : k.orderly = true → AnswersOrderly e t) :
    Timely k (step w e t) := by
  cases e with
  | udp m src => exact h.handleSipUdpDatagram hi
  | tcp m src => exact h.handleSipDatagram hi
  | pump => exact absurd rfl hpump
  | elapse ms => exact absurd rfl (helapse ms)
  | prepareTcp refer result => exact h.prepareTcpFlow hi refer result
  | finishConnection refer connected => exact h.finishConnection hi refer connected
  | acceptTcp ip dialogActive shouldAccept => exact h.congr (agenda_acceptTcp _ _ _)
  | tcpPeerLoss refer => exact h.handleTcpPeerLoss hi refer
  | rtpWorkerFailed => exact h.rtpWorkerFailed hi.closed
  | rtpTaskQuiesced => exact h.congr agenda_rtpTaskQuiesce
  | rtpReceived packet src => exact h.congr (agenda_receiveRtp packet)
  | requestVideoSend enabled =>
    unfold Transport.step
    dsimp only
    split
    · exact h.requestVideoSend enabled
    · exact h
  | command c => exact h.exec hi c fun ho => horderly ho c rfl
  | takeCallbacks => exact h.congr rfl

/-- One predicate is known of every client transaction between events. -/
def idleWatch (clock : Nat) (orderly : Bool) (P : UdpTransaction → Prop) : Watch :=
  { clock := clock
    scope := false
    own := P
    other := P
    notify := P
    calm := true
    orderly := orderly }

variable {clock : Nat} {orderly : Bool} {P Q : UdpTransaction → Prop}

theorem idle_idleWatch (hclosed : EsphomeVoip.Closed clock P) (hpump : Pumps clock P P) :
    Idle (idleWatch clock orderly P) :=
  ⟨⟨hclosed, hclosed, hclosed⟩, hpump, rfl, rfl, rfl⟩

/-- The pump turns what is known of the client transactions into what it makes of them. -/
theorem Timely.pumpUdpRetransmits (h : Timely (idleWatch clock orderly P) t)
    (hP : EsphomeVoip.Closed clock P) (hQ : EsphomeVoip.Closed clock Q) (hpump : Pumps clock P Q) :
    Timely (idleWatch clock orderly Q) (t.pumpUdpRetransmits w) := by
  have hidle : (idleWatch clock orderly Q).Closed := ⟨hQ, hQ, hQ⟩
  have hclients := h.pumpClients (w := w) hpump hpump
  have hunsettled : Timely { (idleWatch clock orderly Q).unsettled with other := P }
    (t.pumpClients w).2 :=
    hclients.unsettle
  have hrefer : Timely (idleWatch clock orderly Q) ((t.pumpClients w).2.pumpRefer w) :=
    hunsettled.pumpRefer hidle hP hpump rfl rfl fun _ => hclients.calm rfl
  exact hrefer.pumpServers hidle _

/-- Time passes. -/
theorem Timely.elapse (h : Timely (idleWatch clock orderly P) t) (ms : Nat)
    (hpq : ∀ x, P x → Q x) :
    Timely (idleWatch (clock + ms) orderly Q) { t with clock := t.clock + ms } := by
  refine ⟨congrArg (· + ms) h.clock, h.scope, h.own.mono hpq,
    fun r hr => (h.other r hr).mono hpq, fun r hr => ?_, h.provisional, h.direction, h.calm⟩
  obtain ⟨hfirst, hfinal⟩ := h.notify r hr
  exact ⟨fun x hx => hpq x (hfirst x hx), fun x hx => hpq x (hfinal x hx)⟩

theorem timely_boot (c : Setup) (orderly : Bool) (P : UdpTransaction → Prop) :
    Timely (idleWatch c.clock orderly P) (boot c) := by
  have hown : LineTimely P orderly ((boot c).blocked false) (boot c).dialog :=
    ⟨fun ho => (nomatch ho), fun _ hx => (nomatch hx), fun _ hx => (nomatch hx),
      fun _ hx => (nomatch hx), fun _ hx => (nomatch hx), fun hsome => (nomatch hsome)⟩
  exact ⟨rfl, rfl, hown, fun _ hr => (nomatch hr), fun _ hr => (nomatch hr),
    fun _ hp => (nomatch hp), fun _ hp => (nomatch hp), fun _ => rfl⟩

end Transport

end EsphomeVoip
