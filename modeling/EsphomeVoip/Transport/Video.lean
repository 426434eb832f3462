import EsphomeVoip.Transport.Dialog

/-! # Changing the direction of video (`sip_transport.cpp`)

In a build with video the user can turn the camera on and off during a call, with a re-INVITE that
repeats the confirmed local SDP but for one direction attribute.  Audio and every other property of
the video stream must come back unchanged. -/

namespace EsphomeVoip

open WrapClock (timeReached)

namespace Transport

/-! ## Proposals -/

/-- Bring back the media that a rejected proposal has written over. -/
def restoreMedia (old t : Transport) : Transport :=
  { t with
    negotiation := { old.negotiation with
      localOfferedRxPayloads := t.negotiation.localOfferedRxPayloads
      localOfferedTxFormats := t.negotiation.localOfferedTxFormats
      localOfferedDirectionalAudioV1 := t.negotiation.localOfferedDirectionalAudioV1 }
    video := { t.video with negotiation := old.video.negotiation } }

/-- `same_audio`. -/
def sameAudio (old new : Negotiation) : Bool :=
  new.selectedTx == old.selectedTx && new.selectedRx == old.selectedRx &&
    new.txPayloadType == old.txPayloadType && new.rxPayloadType == old.rxPayloadType &&
    new.rxPayloads.same old.rxPayloads && new.remoteRtpIp == old.remoteRtpIp &&
    new.remoteRtpPort == old.remoteRtpPort

/-- `same_video_media`, which leaves the dimensions out. -/
def sameVideoMedia (old new : VideoNegotiation) : Bool :=
  { new.capability with width := 0, height := 0 } ==
      { old.capability with width := 0, height := 0 } &&
    new.remoteIp == old.remoteIp && new.remoteRtpPort == old.remoteRtpPort &&
    new.remoteRtcpIp == old.remoteRtcpIp && new.remoteRtcpPort == old.remoteRtcpPort

/-- Set or clear `pending_video_direction_invite_`. -/
def setPendingDirection (p : Option PendingVideoDirectionInvite) (t : Transport) : Transport :=
  { t with video := { t.video with pendingDirection := p } }

/-- Set `video_send_requested_`. -/
def setVideoSendRequested (enabled : Bool) (t : Transport) : Transport :=
  { t with video := { t.video with sendRequested := enabled } }

/-! ## The re-INVITE -/

/-- What the re-INVITE proposes: a retry repeats its first attempt. -/
def directionProposal (w : World) (enabled retry : Bool) (t : Transport) :
    PendingVideoDirectionInvite :=
  let version := t.dialog.sdpSessionVersion + 1
  let fresh : PendingVideoDirectionInvite :=
    { offeredSdp := w.sdp.directionOffer t.sdpContext t.video.confirmedLocalSdp enabled version
      sessionVersion := version
      targetSend := enabled
      previousSend := t.video.negotiation.sendEnabled }
  if retry then
    let p := t.video.pendingDirection.getD fresh
    { fresh with
      offeredSdp := p.offeredSdp
      sessionVersion := p.sessionVersion
      previousSend := p.previousSend
      retryCount := p.retryCount }
  else fresh

/-- Remember the audio that the re-INVITE offers again. -/
def rememberDirectionOffer (w : World) (offer : String) (t : Transport) : Transport :=
  { t with negotiation := { t.negotiation with
    localOfferedRxPayloads := t.negotiation.rxPayloads
    localOfferedTxFormats := [t.negotiation.selectedTx]
    localOfferedDirectionalAudioV1 := w.sdp.hasFlow offer } }

/-- Where the re-INVITE goes. -/
def directionTarget (d : Dialog) : UInt32 × UInt16 :=
  if d.remoteSipTcp then (d.remoteIp, d.remoteSipPort)
  else d.remoteTargetUri.target.getD (d.remoteIp, d.remoteSipPort)

/-- The record of the re-INVITE that was sent. -/
def pendingDirectionOf (proposal : PendingVideoDirectionInvite) (branch : String) (cseq : UInt32)
    (request : Option SipMessage) (t : Transport) : PendingVideoDirectionInvite :=
  let target := directionTarget t.dialog
  { proposal with
    branch := branch
    cseq := cseq
    responseDeadlineMs := t.now + UInt32.ofNat sipTransactionTimeoutMs
    transaction := request.map fun msg => t.newTransaction msg target.1 target.2 }

/-- The part of `send_video_direction_reinvite_unlocked_` that sends the proposal. -/
def offerDirection (w : World) (proposal : PendingVideoDirectionInvite) (t : Transport) :
    Bool × Transport :=
  let t := t.rememberDirectionOffer w proposal.offeredSdp
  let cseq := t.dialog.cseq
  let token := { t with dialog := { t.dialog with cseq := cseq + 1 } }.makeToken w ""
  let branch := "z9hG4bK" ++ token.1
  let sent := (token.2.setVideoSendRequested proposal.targetSend).sendRequestFormatted w .invite
    proposal.offeredSdp
    { cseqNumber := cseq
      branchOverride := branch
      rememberTransaction := false
      rememberInviteAck := false }
  if sent.1 then
    (true, sent.2.2.setPendingDirection
      (some (sent.2.2.pendingDirectionOf proposal branch cseq sent.2.1)))
  else (false, sent.2.2.setVideoSendRequested proposal.previousSend)

/-- `send_video_direction_reinvite_unlocked_`. -/
def sendVideoDirectionReinvite (w : World) (enabled retry : Bool) (t : Transport) :
    Bool × Transport :=
  if t.mediaActive = false ∨ t.video.negotiation.negotiated = false ∨ t.video.hasSource = false ∨
      t.dialog.remoteTag = "" then (false, t)
  else
    let proposal := t.directionProposal w enabled retry
    if proposal.offeredSdp = "" then (false, t) else t.offerDirection w proposal

/-- The final response to an INVITE of the peer awaits its ACK. -/
def awaitsAnyAck (d : Dialog) : Bool := d.completedInvite.elim false fun c => c.awaitingAck

/-- `request_video_send`, in a build with video. -/
def requestVideoSend (w : World) (enabled : Bool) (t : Transport) : Bool × Transport :=
  if t.dialog.callId = "" ∧ t.video.hasSource = true ∧ t.mediaActive = false ∧
      t.dialog.outgoingInvitePending = false ∧ t.stopping = false ∧
      t.terminalTransactionPending = false then (true, t.setVideoSendRequested enabled)
  else if t.running = false ∨ t.stopping = true ∨ t.mediaActive = false ∨
      t.video.negotiation.negotiated = false ∨ t.video.hasSource = false then (false, t)
  else if t.video.pendingDirection.isSome = true ∨ t.dialog.outgoingInvitePending = true ∨
      awaitsAnyAck t.dialog = true then (false, t)
  else if enabled = t.video.negotiation.sendEnabled then (true, t.setVideoSendRequested enabled)
  else t.sendVideoDirectionReinvite w enabled false

/-! ## Its response -/

/-- The send direction that an answer grants, when it changes nothing else. -/
def answeredDirection (parsed : Bool) (old new : Transport) : Option Bool :=
  if parsed && sameAudio old.negotiation new.negotiation && new.video.negotiation.negotiated &&
      sameVideoMedia old.video.negotiation new.video.negotiation &&
      new.video.negotiation.receiveEnabled == old.video.negotiation.receiveEnabled then
    some new.video.negotiation.sendEnabled
  else none

/-- `VideoRtpSession::request_send_direction`, when the direction changes. -/
def requestSendDirection (w : World) (send : Bool) (t : Transport) : Bool × Transport :=
  if send = t.video.negotiation.sendEnabled then (true, t)
  else if t.video.hasSession = false then (false, t)
  else t.resource w

/-- `apply_video_direction_answer_`. -/
def applyVideoDirectionAnswer (w : World) (sdp : String) (defaultIp : UInt32) (t : Transport) :
    Bool × Transport :=
  if sdp = "" then (false, t)
  else
    let learnt := t.openProposal.learnRemoteRtp w sdp defaultIp true
    let restored := (t.restoreMedia learnt.2).closeProposal
    match answeredDirection learnt.1 t learnt.2 with
    | none => (false, restored)
    | some send =>
      let granted := restored.requestSendDirection w send
      if granted.1 then
        (true, { granted.2.setVideoSendRequested send with
          video := { (granted.2.setVideoSendRequested send).video with
            negotiation := { granted.2.video.negotiation with sendEnabled := send } } })
      else granted

/-- A kept ACK of a direction change answers this response. -/
def directionAckMatches (response : SipMessage) (src : Peer) (tcp : Bool)
    (c : CompletedInviteClientTransaction) : Bool :=
  response.isResponse && response.cseqMethod == .invite && response.callId == c.callId &&
    response.cseqNumber == c.cseq && src.ip == c.responseIp && c.udp == !tcp &&
    response.topBranch == c.branch

/-- `replay_completed_video_direction_ack_`. -/
def replayCompletedVideoDirectionAck (w : World) (response : SipMessage) (src : Peer)
    (t : Transport) : Bool × Transport :=
  match t.video.completedDirection with
  | none => (false, t)
  | some c =>
    if t.outlived c.completedMs then
      (false, { t with video := { t.video with completedDirection := none } })
    else if directionAckMatches response src t.dialog.remoteSipTcp c then
      (true, (t.sendAgain w c.flow c.ack c.ackIp c.ackPort).2)
    else (false, t)

/-- The response belongs to the pending re-INVITE. -/
def directionResponseMatches (message : SipMessage) (src : Peer)
    (p : PendingVideoDirectionInvite) (d : Dialog) : Bool :=
  let expectedIp := match p.transaction with
    | none => d.remoteIp
    | some x => if x.udp then x.ip else d.remoteIp
  message.callId == d.callId && src.ip == expectedIp && message.topBranch == p.branch &&
    message.fromTag == d.localTag && message.toTag == d.remoteTag

/-- Send the ACK of a direction change, and keep it. -/
def ackDirection (w : World) (message : SipMessage) (src : Peer)
    (p : PendingVideoDirectionInvite) (t : Transport) : Transport :=
  let token := if message.status < 300 then t.makeToken w "" else ("", t)
  let sent := token.2.sendRequestFormatted w .ack ""
    { cseqNumber := p.cseq
      cseqMethod := some .ack
      branchOverride := if message.status < 300 then "z9hG4bK" ++ token.1 else p.branch
      rememberTransaction := false
      rememberInviteAck := false }
  match sent.2.1 with
  | none => sent.2.2
  | some ack =>
    let t := sent.2.2
    let target := t.dialog.remoteTargetUri.target.getD (t.dialog.remoteIp, t.dialog.remoteSipPort)
    { t with video := { t.video with
      completedDirection := some
        { callId := t.dialog.callId
          branch := p.branch
          ack := ack
          cseq := p.cseq
          responseIp := src.ip
          ackIp := target.1
          ackPort := target.2
          completedMs := t.now
          udp := !t.dialog.remoteSipTcp
          connection := t.connectionNumber } } }

/-- A nonempty contact of a 2xx becomes the remote target. -/
def retarget (contact : SipUri) (t : Transport) : Transport :=
  if contact = {} then t
  else { t with dialog := { t.dialog with remoteTargetUri := contact } }

/-- The direction change failed for good, and video keeps the direction it had. -/
def abandonDirection (p : PendingVideoDirectionInvite) (t : Transport) : Transport :=
  (t.setPendingDirection none).setVideoSendRequested p.previousSend

/-- End the dialog with a BYE, or locally when it cannot be sent, and report why. -/
def endDialog (w : World) (type : SipSignalType) (status : Nat) (callId reason : String)
    (t : Transport) : Transport :=
  let bye := t.sendBye w callId
  (if bye.1 then bye.2 else bye.2.resetDialog).emitSipSignal
    { type := type
      statusCode := status
      callId := callId
      reason := reason
      terminalTransactionPending := bye.1 }

/-- The answer to the direction change was accepted, or ends the dialog. -/
def concludeDirection (w : World) (message : SipMessage) (src : Peer)
    (p : PendingVideoDirectionInvite) (t : Transport) : Transport :=
  let applied := t.applyVideoDirectionAnswer w message.body src.ip
  if applied.1 then
    { applied.2.setPendingDirection none with
      dialog := { applied.2.dialog with sdpSessionVersion := p.sessionVersion }
      video := { (applied.2.setPendingDirection none).video with
        confirmedLocalSdp := p.offeredSdp } }
  else
    let t := applied.2.abandonDirection p
    let bye := t.sendBye w t.dialog.callId
    let signal : SipSignal :=
      { type := .mediaIncompatible
        statusCode := 488
        callId := bye.2.dialog.callId
        reason := "video_reinvite_answer_incompatible"
        terminalTransactionPending := bye.1 }
    (if bye.1 then bye.2 else bye.2.resetDialog).emitSipSignal signal

/-- Wait before the one retry after a glare. -/
def scheduleDirectionRetry (w : World) (p : PendingVideoDirectionInvite) (t : Transport) :
    Transport :=
  let random := t.espRandom w
  let delay := if t.dialog.dialogOriginated then 2100 + random.1 % 1901 else random.1 % 2001
  random.2.setPendingDirection (some { p with
    transaction := none
    cseq := 0
    branch := ""
    responseDeadlineMs := 0
    waitingRetry := true
    retryCount := 1
    retryAtMs := t.now + delay })

/-- A final response other than a 2xx to the direction change. -/
def refuseDirection (w : World) (status : Nat) (p : PendingVideoDirectionInvite)
    (t : Transport) : Transport :=
  if status = 491 ∧ p.retryCount = 0 then t.scheduleDirectionRetry w p
  else
    let t := t.abandonDirection p
    if status = 408 ∨ status = 481 then
      t.endDialog w .protocolError status t.dialog.callId
        (if status = 481 then "dialog_not_found" else "video_reinvite_timeout")
    else t

/-- The part of `handle_video_direction_response_` after the transaction was matched. -/
def directionResponse (w : World) (message : SipMessage) (src : Peer)
    (p : PendingVideoDirectionInvite) (t : Transport) : Transport :=
  let t := t.markSipEvent .response message.status
  if message.status < 200 then
    t.setPendingDirection (some { p with
      transaction := p.transaction.map fun x =>
        { x with completed := true, nextMs := p.responseDeadlineMs } })
  else if message.status < 300 then
    ((t.retarget message.contactUri).ackDirection w message src p).concludeDirection w message src p
  else (t.ackDirection w message src p).refuseDirection w message.status p

/-- `handle_video_direction_response_`. -/
def handleVideoDirectionResponse (w : World) (message : SipMessage) (src : Peer)
    (t : Transport) : Bool × Transport :=
  match t.video.pendingDirection with
  | none => (false, t)
  | some p =>
    if p.waitingRetry = true ∨ message.cseqNumber ≠ p.cseq then (false, t)
    else if directionResponseMatches message src p t.dialog then
      (true, t.directionResponse w message src p)
    else (true, t)

/-! ## Its timers -/

/-- The next time to send a message again that backs off exponentially. -/
def backOff (now deadline : UInt32) (intervalMs limit : Nat) : Nat × UInt32 :=
  let interval := min (intervalMs * 2) limit
  let next := now + UInt32.ofNat interval
  (interval, if timeReached next deadline then deadline else next)

/-- Send the re-INVITE again, when it is time. -/
def retransmitDirection (w : World) (p : PendingVideoDirectionInvite) (t : Transport) :
    Transport :=
  match p.transaction with
  | none => t
  | some x =>
    if x.udp = false ∨ x.completed = true ∨ timeReached t.now x.nextMs = false then t
    else
      let sent := t.sendAgain w (.udp x.ip x.port) x.request x.ip x.port
      let next := backOff t.now p.responseDeadlineMs x.intervalMs sipT2Ms
      sent.2.setPendingDirection (some { p with
        transaction := some
          { x with intervalMs := next.1, nextMs := next.2, retries := x.retries + 1 } })

/-- `pump_video_direction_transaction_`. -/
def pumpVideoDirection (w : World) (t : Transport) : Transport :=
  match t.video.pendingDirection with
  | none => t
  | some p =>
    if p.waitingRetry then
      if timeReached t.now p.retryAtMs then
        let sent := t.sendVideoDirectionReinvite w p.targetSend true
        if sent.1 then sent.2 else sent.2.abandonDirection p
      else t
    else if timeReached t.now p.responseDeadlineMs then
      (t.abandonDirection p).endDialog w .protocolError 408 t.dialog.callId
        "video_reinvite_timeout"
    else t.retransmitDirection w p

end Transport

end EsphomeVoip
