import EsphomeVoip.Transport.Pump

/-! # Transfers (`sip_refer.cpp`)

A REFER makes the transport call a second peer while the first dialog stays up.  When the second
peer answers, its dialog becomes the owner and the first one is ended. -/

namespace EsphomeVoip

open WrapClock (timeReached)

namespace Transport

/-! ## Requests outside the owned dialog -/

/-- The tags and the sequence number of a BYE or a REFER are those of the dialog. -/
def inDialogRequest (m : SipMessage) (method : Method) (d : Dialog) : Bool :=
  d.remoteTag != "" && d.localTag != "" && m.fromTag == d.remoteTag && m.toTag == d.localTag &&
    m.cseqMethod == method && decide (d.remoteDialogCseq < m.cseqNumber)

/-- The request belongs to the owned dialog. -/
def currentDialog (m : SipMessage) (src : Peer) (method : Method) (d : Dialog) : Bool :=
  m.callId != "" && d.callId != "" && m.callId == d.callId &&
    (d.remoteIp == 0 || src.ip == d.remoteIp) &&
    ((method != .bye && method != .refer) || inDialogRequest m method d)

/-- `reject_if_stale_dialog_`. -/
def rejectIfStaleDialog (w : World) (m : SipMessage) (src : Peer) (method : Method)
    (t : Transport) : Bool × Transport :=
  if currentDialog m src method t.dialog then (false, t)
  else (true, (t.reject w m src 481 "Call/Transaction Does Not Exist").2)

/-! ## Accepting a REFER -/

/-- The second dialog before its INVITE. -/
def referCandidate (m : SipMessage) (ip : UInt32) (port : UInt16) (t : Transport) : ReferDialog :=
  { dialog :=
      { remoteSipTcp := m.referTo.tcp
        remoteIp := ip
        remoteSipPort := port }
    ownerCallId := t.dialog.callId
    targetUri := m.referTo.uri
    acceptedRefer := t.dialog.completedControl }

/-- Call the second peer, under a `ReferScope`. -/
def callCandidate (w : World) (caller destination : SipIdentity) (t : Transport) :
    Bool × Transport :=
  let flow := t.dialog.tcpFlow
  let t := if t.dialog.remoteSipTcp then t.setTcpFlow
      { flow with
        targetIp := t.dialog.remoteIp
        targetPort := t.dialog.remoteSipPort
        connectRequested := true }
    else t
  t.sendInvite w t.referWireId caller destination

/-- The transfer begins: it takes over the record of its own acceptance. -/
def beginRefer (w : World) (m : SipMessage) (ip : UInt32) (port : UInt16) (t : Transport) :
    Transport :=
  let wire := t.makeToken w "refer-"
  let t := (wire.2.noteAccepted m.cseqNumber).record .transferBegun
  { t with
    referDialog := some (t.referCandidate m ip port)
    dialog := { t.dialog with
      completedControl := none
      remoteDialogCseq := m.cseqNumber }
    referCseq := m.cseqNumber
    referWireId := wire.1
    referExpires := t.now + UInt32.ofNat (2 * sipTransactionTimeoutMs)
    referRetiring := false
    referSignalPending := false }

/-- The part of `handle_refer_` after the REFER was accepted. -/
def startRefer (w : World) (m : SipMessage) (ip : UInt32) (port : UInt16) (t : Transport) :
    Transport :=
  let t := (t.beginRefer w m ip port).notifyRefer w m.cseqNumber 100 "Trying"
  let caller : SipIdentity :=
    { route := t.dialog.localUri.uri.user, name := t.dialog.localUri.displayName }
  let user := m.referTo.uri.user
  let sent := t.enterRefer.callCandidate w caller { route := user, name := user }
  let t := sent.2.leaveRefer
  if sent.1 then t
  else { t.notifyRefer w t.referCseq 503 "Service Unavailable" with referRetiring := true }

/-- The part of `handle_refer_` for a REFER with a target that can be called. -/
def acceptRefer (w : World) (m : SipMessage) (src : Peer) (ip : UInt32) (port : UInt16)
    (t : Transport) : Transport :=
  let memory := t.resource w
  if memory.1 = false then (memory.2.reject w m src 503 "Service Unavailable").2
  else
    let sent := { memory.2 with referCseq := m.cseqNumber }.refuse w m src 200 "OK" ""
    if sent.1 then sent.2.startRefer w m ip port else sent.2

/-- `handle_refer_`. -/
def handleRefer (w : World) (m : SipMessage) (src : Peer) (t : Transport) : Transport :=
  let stale := t.rejectIfStaleDialog w m src .refer
  if stale.1 then stale.2
  else if t.mediaActive = false ∨ t.referContextActive = true ∨ t.referDialog.isSome = true ∨
      awaitsAnyAck t.dialog = true then (t.reject w m src 491 "Request Pending").2
  else if m.referTo.ambiguous = true ∨ m.referTo.uri = {} then
    (t.reject w m src 400 "Bad Request").2
  else match m.referTo.supported, m.referTo.uri.target with
    | true, some (ip, port) =>
      if t.video.enabled && t.video.negotiation.negotiated then
        (t.reject w m src 488 "Not Acceptable Here").2
      else if m.referTo.uri.user = "" then (t.reject w m src 400 "Bad Request").2
      else t.acceptRefer w m src ip port
    | _, _ => (t.reject w m src 416 "Unsupported URI Scheme").2

/-! ## Carrying a transfer on -/

/-- Forget the transfers whose records have expired. -/
def expireRefers (t : Transport) : Transport :=
  { t with completedRefers := t.completedRefers.map fun c =>
      c.filter fun c => !timeReached t.now c.expiresMs }

/-- `release_refer_dialog_`. -/
def releaseReferDialog (t : Transport) : Transport :=
  match t.referDialog with
  | none => t
  | some r =>
    { t with referDialog := none, referMediaWaiting := false }.record
      (.closed r.dialog.callId r.dialog.terminateAfterInviteAck)

/-- The owner has gone: end the second dialog too. -/
def retireOrphan (w : World) (t : Transport) : Transport :=
  match t.referDialog with
  | none => t
  | some r =>
    if t.referRetiring = false ∧ t.dialog.callId ≠ r.ownerCallId then
      { t.inRefer (endCandidate w) with referRetiring := true }
    else t

/-- `prepare_refer_media_`. -/
def prepareReferMedia (w : World) (t : Transport) : Bool × Transport :=
  match t.referDialog with
  | none => (false, t)
  | some r =>
    let rx := t.negotiation.selectedRx
    if t.negotiation.selectedTx ≠ r.negotiation.selectedTx then (false, t)
    else if w.opus = true ∧ (rx.codec = .opus ∨ r.negotiation.selectedRx.codec = .opus) then
      (rx == r.negotiation.selectedRx, t)
    else if w.speaker = false then (rx == r.negotiation.selectedRx, t)
    else if rx.isValid = false then (!r.negotiation.selectedRx.isValid, t)
    else
      let granted := t.resource w
      (granted.1, if granted.1 then
        { granted.2 with referDialog := some { r with
          negotiation := { r.negotiation with selectedRx := rx } } }
      else granted.2)

/-- End the dialog that the transfer has replaced, under a `ReferScope`. -/
def endReplaced (w : World) (ended : Bool) (t : Transport) : Transport :=
  if ended then t.resetDialog else (t.sendBye w t.dialog.callId).2

/-- The second dialog becomes the owner. -/
def takeOver (original : String) (t : Transport) : Transport :=
  let t := t.commitRefer.openMediaSession.record .committed
  { t with
    rtpLatch := none
    referMediaWaiting := false
    logicalCallId := if t.logicalCallId = "" then original else t.logicalCallId
    logicalWireId := t.dialog.callId
    referWireId := original
    referRetiring := true }

/-- The second peer has answered and its media fits: exchange the two dialogs. -/
def completeRefer (w : World) (ended : Bool) (t : Transport) : Transport :=
  let t := (t.notifyRefer w t.referCseq 200 "OK").takeOver t.dialog.callId
  let t := t.inRefer (endReplaced w ended)
  t.emitSipSignal
    { type := .connectedIdentity
      mediaSourceChanged := true
      callId := t.dialog.callId
      connectedRoute := t.dialog.destination.route
      connectedName := t.dialog.destination.name }

/-- The second peer has answered. -/
def candidateAnswered (w : World) (ended : Bool) (t : Transport) : Bool × Transport :=
  let prepared := t.prepareReferMedia w
  if prepared.1 then (true, prepared.2.completeRefer w ended)
  else
    (false, (prepared.2.inRefer fun t => (t.sendBye w t.dialog.callId).2).finishFailedRefer w 488
      "Not Acceptable Here")

/-- The signals of the second dialog that end a transfer. -/
def endsTransfer : SipSignalType → Bool
  | .finalResponse | .protocolError | .mediaIncompatible | .authRequired | .proxyAuthRequired =>
    true
  | _ => false

/-- Act on what the second dialog has reported. The result is `false` where `pump_refer_` returns
    early. -/
def handleReferSignal (w : World) (t : Transport) : Bool × Transport :=
  if t.referSignalPending = false ∨ t.referRetiring = true then (true, t)
  else
    let t := { t with referSignalPending := false }
    let ended := t.referDialog.elim false ReferDialog.ownerInviteEnded
    if t.referSignalType = .status200Ok ∧ t.dialog.callId ≠ "" ∧
        (t.mediaActive = true ∨ ended = true) then t.candidateAnswered w ended
    else if endsTransfer t.referSignalType then
      (true, t.finishFailedRefer w (if 300 ≤ t.referStatus then t.referStatus else 500)
        "Transfer Failed")
    else (true, t)

/-- Nothing of the second dialog is outstanding. -/
def candidateDone (r : ReferDialog) : Bool :=
  r.dialog.callId == "" && r.dialog.pendingInvite.isNone && r.dialog.pendingCancel.isNone &&
    r.dialog.pendingBye.isNone && r.pendingNotify.isNone && r.pendingNotifyFinal.isNone

/-- A record of the transfer may still be asked for over UDP. -/
def needsReplay (r : ReferDialog) : Bool :=
  (r.acceptedRefer.elim false fun c => c.udp) ||
    (r.dialog.completedControl.elim false fun c => c.udp) ||
    (r.dialog.completedInviteClient.elim false fun c => c.udp)

/-- What is kept of a transfer that is done. -/
def completedReferOf (r : ReferDialog) (t : Transport) : CompletedRefer :=
  { accepted := r.acceptedRefer
    control := r.dialog.completedControl
    invite := r.dialog.completedInviteClient
    expiresMs := t.now + UInt32.ofNat sipTransactionTimeoutMs }

/-- Keep the records of a transfer that is done, when there is room for them. -/
def keepRefer (w : World) (r : ReferDialog) (t : Transport) : Transport :=
  match t.completedRefers.findIdx? Option.isNone with
  | none => t
  | some i =>
    let memory := t.resource w
    if memory.1 then
      { memory.2 with completedRefers :=
          memory.2.completedRefers.set i (some (memory.2.completedReferOf r)) }.releaseReferDialog
    else memory.2

/-- A transfer that is done makes room. -/
def retireRefer (w : World) (t : Transport) : Transport :=
  match t.referDialog with
  | none => t
  | some r =>
    if t.referRetiring = true ∧ candidateDone r = true then
      if needsReplay r then t.keepRefer w r else t.releaseReferDialog
    else t

/-- A transfer that takes too long is dropped. -/
def expireRefer (t : Transport) : Transport :=
  if t.referDialog.isSome = true ∧ timeReached t.now t.referExpires = true then
    t.releaseReferDialog
  else t

/-- The part of `pump_refer_` that carries on the transfer in progress. -/
def advanceRefer (w : World) (t : Transport) : Transport :=
  let t := (t.inRefer (pumpUdpWith w id)).retireOrphan w
  let handled := t.handleReferSignal w
  if handled.1 then (handled.2.retireRefer w).expireRefer else handled.2

/-- `pump_refer_`. -/
def pumpRefer (w : World) (t : Transport) : Transport :=
  if t.referContextActive then t
  else
    let t := t.expireRefers
    if t.referDialog.isSome then t.advanceRefer w else t

/-- `pump_udp_retransmits_`. -/
def pumpUdpRetransmits (w : World) (t : Transport) : Transport := t.pumpUdpWith w (pumpRefer w)

end Transport

end EsphomeVoip
