import EsphomeVoip.Transport.Refer
import EsphomeVoip.ForStd.EventRun

/-! # Steps of the transport (`sip_transport.cpp`)

The dispatcher of received messages, the stream connections, the failure of the RTP task, and the
interface to the call component.  `step` takes the transport from one event to the next. -/

namespace EsphomeVoip

open WrapClock (timeReached)

namespace Transport

/-! ## Requests -/

/-- The part of the ACK branch after its SDP answer was dealt with. -/
def confirmDialog (w : World) (t : Transport) : Transport :=
  let t := { t with dialog := { t.dialog with outgoingInvitePending := false } }
  (t.openMediaSession.sendConnectedIdentityUpdate w).2

/-- The signal that the answer of a delayed offer was accepted. -/
def mediaReadySignal (t : Transport) : SipSignal :=
  { type := .mediaReady
    callId := t.dialog.callId
    selectedTxFormat := t.negotiation.selectedTx
    selectedRxFormat := t.negotiation.selectedRx }

/-- The ACK of a delayed offer carries no answer that fits. -/
def refuseDelayedAnswer (w : World) (t : Transport) : Transport :=
  let bye := t.sendBye w t.dialog.callId
  let t' := if bye.1 then bye.2 else bye.2.resetDialog
  t'.emitSipSignal
    { type := .mediaIncompatible
      statusCode := 488
      callId := t.dialog.callId
      reason := "media_incompatible"
      terminalTransactionPending := t'.terminalTransactionPending }

/-- The ACK of a delayed offer, with its answer. -/
def takeDelayedAnswer (w : World) (m : SipMessage) (src : Peer) (t : Transport) : Transport :=
  let learnt := if m.body = "" then (false, t) else t.learnRemoteRtp w m.body src.ip true
  let t := { learnt.2 with dialog := { learnt.2.dialog with delayedOfferPending := false } }
  if learnt.1 then
    let t := t.confirmDialog w
    (t.record (.acceptedAnswer (t.upwardId t.dialog.callId) m.body)).emitSipSignal
      t.mediaReadySignal
  else t.refuseDelayedAnswer w

/-- The ACK of an accepted INVITE belongs to the dialog. -/
def ackInDialog (m : SipMessage) (src : Peer) (d : Dialog) : Bool :=
  m.callId != "" && d.callId != "" && m.callId == d.callId &&
    (d.remoteIp == 0 || src.ip == d.remoteIp) && d.lastInviteCseqNumber != 0 &&
    m.cseqNumber == d.lastInviteCseqNumber && m.cseqMethod == .ack &&
    m.fromTag == d.remoteTag && m.toTag == d.localTag

/-- The part of the ACK branch for a 2xx. -/
def confirmAck (w : World) (m : SipMessage) (src : Peer) (t : Transport) : Transport :=
  if ackInDialog m src t.dialog = false then t
  else if t.dialog.pendingBye.isSome then t
  else if t.dialog.delayedOfferPending then t.takeDelayedAnswer w m src
  else t.confirmDialog w

/-- The ACK branch of the dispatcher. -/
def handleAck (w : World) (m : SipMessage) (src : Peer) (t : Transport) : Transport :=
  let acked := t.acknowledgeCompletedInvite m src
  let t := acked.2
  if acked.1.terminateAfterAck then
    let bye := t.sendBye w t.dialog.callId
    if bye.1 then bye.2 else bye.2.resetDialog
  else if 300 ≤ acked.1.status then
    t.emitSipSignal
      { type := .terminalComplete, statusCode := acked.1.status, callId := m.callId }
  else if 200 ≤ acked.1.status then t.confirmAck w m src
  else t

/-- The BYE of the peer took effect although ours was outstanding. -/
def crossBye (number : UInt32) (t : Transport) : Transport :=
  let t := t.noteAccepted number
  { t with dialog := { t.dialog with crossed := true } }

/-- The BYE of the peer is accepted. -/
def acceptBye (w : World) (m : SipMessage) (src : Peer) (t : Transport) : Transport :=
  let localByePending := t.dialog.pendingBye.isSome
  let t := (t.refuse w m src 200 "OK" "").2
  let ended := if localByePending then (false, t) else t.endReferInviteUsage true
  if ended.1 then
    { ended.2 with dialog := { ended.2.dialog with
      remoteDialogCseq := m.cseqNumber } }.noteAccepted m.cseqNumber
  else
    let t := if localByePending then t.crossBye m.cseqNumber else t.noteAccepted m.cseqNumber
    let t := t.emitSipSignal
      { type := .bye
        callId := t.dialog.callId
        terminalTransactionPending := localByePending }
    if localByePending then t else t.resetDialog

/-- The BYE branch of the dispatcher. -/
def handleBye (w : World) (m : SipMessage) (src : Peer) (t : Transport) : Transport :=
  let stale := t.rejectIfStaleDialog w m src .bye
  if stale.1 then stale.2
  else if t.mediaActive = false ∧ t.dialog.pendingBye.isNone = true then
    (t.reject w m src 481 "Call/Transaction Does Not Exist").2
  else t.acceptBye w m src

/-- The CANCEL and the last INVITE of the dialog are one transaction. -/
def cancelsInvite (m : SipMessage) (d : Dialog) : Bool :=
  let sameVia := if m.topBranch ≠ "" ∧ viaBranch d.lastInviteVia ≠ ""
    then m.topBranch == viaBranch d.lastInviteVia
    else m.via.take 1 == d.lastInviteVia
  m.cseqMethod == .cancel && d.lastInviteCseqNumber != 0 &&
    m.cseqNumber == d.lastInviteCseqNumber && sameVia && m.fromTag != "" &&
    m.fromTag == d.remoteTag

/-- The CANCEL of the peer is accepted, and ends the INVITE. -/
def acceptCancel (w : World) (m : SipMessage) (src : Peer) (t : Transport) : Transport :=
  let t := (t.refuse w m src 200 "OK" "").2
  let t := (t.sendResponse w 487 "Request Terminated" "" "").2
  (t.emitSipSignal
    { type := .cancel
      statusCode := 487
      callId := t.dialog.callId
      reason := "cancelled" }).resetDialog

/-- The CANCEL branch of the dispatcher. -/
def handleCancel (w : World) (m : SipMessage) (src : Peer) (t : Transport) : Transport :=
  let stale := t.rejectIfStaleDialog w m src .cancel
  if stale.1 then stale.2
  else if t.mediaActive = true ∨ cancelsInvite m t.dialog = false then
    (t.reject w m src 481 "Call/Transaction Does Not Exist").2
  else t.acceptCancel w m src

/-- The methods whose retransmissions the dispatcher itself answers. -/
def isReplayedMethod : Method → Bool
  | .cancel | .bye | .refer => true
  | _ => false

/-- The branches of the dispatcher by method. -/
def routeRequest (w : World) (m : SipMessage) (src : Peer) (t : Transport) : Transport :=
  if t.referContextActive = true ∧ (m.method = .invite ∨ m.method = .update) then
    (t.reject w m src 491 "Request Pending").2
  else match m.method with
    | .refer => t.handleRefer w m src
    | .invite => (t.handleInvite w m src).2
    | .ack => t.handleAck w m src
    | .bye => t.handleBye w m src
    | .cancel => t.handleCancel w m src
    | .update => (t.handleUpdate w m src).2
    | .options => (t.reject w m src 200 "OK").2
    | method =>
      if sipMethodKnown method then (t.reject w m src 405 "Method Not Allowed").2
      else (t.reject w m src 501 "Not Implemented").2

/-- The part of the dispatcher for a request. -/
def handleRequest (w : World) (m : SipMessage) (src : Peer) (t : Transport) : Transport :=
  let replayed := if isReplayedMethod m.method
    then t.replayCompletedResponse w m src m.method (!t.dialog.remoteSipTcp)
    else (false, t)
  if replayed.1 then replayed.2
  else
    let t := replayed.2
    let t := if sipEventFromMethod m.method = .none then t
      else t.markSipEvent (sipEventFromMethod m.method) 0
    t.routeRequest w m src

/-! ## The dispatcher -/

/-- The part of the dispatcher after it has chosen a dialog. -/
def dispatch (w : World) (m : SipMessage) (src : Peer) (t : Transport) : Transport :=
  if m.isResponse then (t.handleResponse w m src).2.pumpRefer w else t.handleRequest w m src

/-- `handle_sip_datagram_`. -/
def handleSipDatagram (w : World) (m : SipMessage) (src : Peer) (t : Transport) : Transport :=
  let t := t.record (.received m src t.clock)
  if m.framed = false then
    if m.isResponse then t else (t.reject w m src 400 "Bad Request").2
  else if t.referContextActive = false ∧ t.referDialog.isSome = true ∧ m.callId = t.referWireId then
    (t.inRefer (dispatch w m src)).pumpRefer w
  else t.dispatch w m src

/-! ## Datagrams -/

/-- Something of the dialog is going on. -/
def signalingOwned (t : Transport) : Bool :=
  t.dialog.callId != "" || t.dialog.outgoingInvitePending || t.mediaActive ||
    t.terminalTransactionPending || t.video.pendingDirection.isSome

/-- The dialog has a stream connection, or will have one. -/
def tcpInUse (flow : TcpFlow) : Bool :=
  flow.open_ || flow.connecting.isSome || flow.connectRequested

/-- `close_tcp_flow_`. -/
def closeTcpFlow (flow : TcpFlow) : TcpFlow :=
  { flow with
    open_ := false
    closeRequested := false
    peerIp := 0
    connecting := none }

/-- The datagram belongs to the second dialog of a transfer. -/
def referUdp (m : SipMessage) (t : Transport) : Bool :=
  t.referDialog.elim false fun r => !r.dialog.remoteSipTcp && m.callId == t.referWireId

/-- The owner takes to UDP: an idle connection is closed. -/
def adoptUdp (t : Transport) : Transport :=
  let flow := t.dialog.tcpFlow
  let t := if flow.open_ then t.setTcpFlow (closeTcpFlow flow) else t
  { t with dialog := { t.dialog with remoteSipTcp := false } }

/-- `handle_sip_udp_datagram_`. -/
def handleSipUdpDatagram (w : World) (m : SipMessage) (src : Peer) (t : Transport) : Transport :=
  let replayed := t.replayCompletedResponse w m src m.method true
  if replayed.1 then replayed.2
  else
    let acked := replayed.2.replayCompletedInviteAck w m src true
    if acked.1 then acked.2
    else
      let t := acked.2
      let refer := t.referUdp m
      if t.signalingOwned = true ∧ t.dialog.remoteSipTcp = true ∧ tcpInUse t.dialog.tcpFlow = true ∧
          refer = false then t
      else (if refer then t else t.adoptUdp).handleSipDatagram w m src

/-! ## Stream connections -/

/-- Drop the records that belong to a lost stream connection. -/
def dropTcpRecords (t : Transport) : Transport :=
  let lost := t.dialog.completedInvite.elim false fun c => !c.udp
  let t := if lost then t.record (.recordLost false
    (t.dialog.completedInvite.elim false fun c => c.awaitingAck) false) else t
  { t with
    dialog := { t.dialog with
      tcpFlow := { closeTcpFlow t.dialog.tcpFlow with connectRequested := false, pending := none }
      completedInvite := t.dialog.completedInvite.filter fun c => c.udp
      terminateAfterInviteAck := if lost then false else t.dialog.terminateAfterInviteAck
      completedControl := t.dialog.completedControl.filter fun c => c.udp
      completedInviteClient := t.dialog.completedInviteClient.filter fun c => c.udp }
    video := { t.video with
      completedDirection := t.video.completedDirection.filter fun c => c.udp } }

/-- `close_tcp_dialog_`. -/
def closeTcpDialog (t : Transport) : Bool × Transport :=
  let dialogLost := t.dialog.remoteSipTcp && (t.dialog.callId != "" ||
    t.dialog.outgoingInvitePending || t.mediaActive || t.terminalTransactionPending)
  let t := t.dropTcpRecords
  let ended := if dialogLost then t.endReferInviteUsage false else (false, t)
  if ended.1 then (false, ended.2)
  else
    let t := { t with dialog := { t.dialog with remoteSipTcp := false } }
    (dialogLost, if dialogLost then t.resetDialog else t)

/-- `handle_tcp_peer_loss_` for the connection of the owner. -/
def ownerTcpLoss (t : Transport) : Transport :=
  let closed := t.closeTcpDialog
  if closed.1 then
    { closed.2 with callbacks := closed.2.callbacks ++ [.connectionChange false] }
  else closed.2

/-- The second dialog loses its connection, under a `ReferScope`. -/
def candidateTcpLoss (t : Transport) : Transport :=
  let closed := t.closeTcpDialog
  if closed.1 then closed.2.emitSipSignal { type := .protocolError, statusCode := 503 }
  else closed.2

/-- `handle_tcp_peer_loss_`, for the connection of the owner or of the second dialog. -/
def handleTcpPeerLoss (w : World) (refer : Bool) (t : Transport) : Transport :=
  if refer = true ∧ t.referDialog.isSome = true then (t.inRefer candidateTcpLoss).pumpRefer w
  else if refer then t
  else t.ownerTcpLoss

/-- The connection attempt succeeded: send what was queued. -/
def promoteOwnFlow (w : World) (t : Transport) : Bool × Transport :=
  let flow := t.dialog.tcpFlow
  let t := { t with connections := t.connections + 1 }.setTcpFlow { flow with
    open_ := true
    peerIp := (flow.connecting.getD (0, 0)).1
    closeRequested := false
    connectRequested := false
    pending := none
    connecting := none
    connection := t.connections + 1 }
  match flow.pending with
  | none => (true, t)
  | some msg => t.sendSipTcpRecord w msg

/-- Work on the dialog that a connection belongs to. -/
def onFlow (refer : Bool) (f : Transport → α × Transport) (t : Transport) : α × Transport :=
  if refer then
    let r := f t.swapRefer
    (r.1, r.2.swapRefer)
  else f t

/-- `promote_tcp_flow_`. -/
def promoteTcpFlow (w : World) (refer : Bool) (t : Transport) : Transport :=
  let promoted := t.onFlow refer (promoteOwnFlow w)
  if promoted.1 then promoted.2 else promoted.2.handleTcpPeerLoss w refer

/-- What `connect` returned. -/
inductive ConnectResult where
  | connected | inProgress | failed
  deriving DecidableEq, Repr

/-- The part of `prepare_tcp_flow_` before the connection attempt. The result says whether there is
    an attempt to make, and whether its target is usable. -/
def prepareOwnFlow (t : Transport) : (Bool × Bool) × Transport :=
  let flow := t.dialog.tcpFlow
  let flow := if flow.closeRequested then closeTcpFlow flow else flow
  if flow.connectRequested = false then ((false, false), t.setTcpFlow flow)
  else
    ((true, flow.targetIp != 0 && flow.targetPort != 0), t.setTcpFlow { closeTcpFlow flow with
      connecting := some (flow.targetIp, flow.targetPort) })

/-- The connection attempt is under way. -/
def awaitConnection (t : Transport) : Unit × Transport :=
  ((), t.setTcpFlow { t.dialog.tcpFlow with connectRequested := false })

/-- `prepare_tcp_flow_`. -/
def prepareTcpFlow (w : World) (refer : Bool) (result : ConnectResult) (t : Transport) :
    Transport :=
  if refer = true ∧ t.referDialog = none then t
  else
    let prepared := t.onFlow refer prepareOwnFlow
    if prepared.1.1 = false then prepared.2
    else if prepared.1.2 = false then prepared.2.handleTcpPeerLoss w refer
    else match result with
      | .connected => prepared.2.promoteTcpFlow w refer
      | .inProgress => (prepared.2.onFlow refer awaitConnection).2
      | .failed => prepared.2.handleTcpPeerLoss w refer

/-- A connection attempt has ended. -/
def finishConnection (w : World) (refer connected : Bool) (t : Transport) : Transport :=
  let flow := if refer then t.referDialog.map fun r => r.dialog.tcpFlow else some t.dialog.tcpFlow
  if (flow.bind TcpFlow.connecting).isNone then t
  else if connected then t.promoteTcpFlow w refer
  else t.handleTcpPeerLoss w refer

/-- A peer connects. `dialogActive` and `shouldAccept` are what the call component says. -/
def acceptTcp (ip : UInt32) (dialogActive shouldAccept : Bool) (t : Transport) : Transport :=
  let flow := t.dialog.tcpFlow
  let replaces := t.signalingOwned && (!t.dialog.remoteSipTcp || tcpInUse flow)
  if replaces = true ∨
      (dialogActive = true ∧ flow.open_ = true ∧ flow.peerIp ≠ 0 ∧ flow.peerIp ≠ ip) then t
  else if shouldAccept = false ∧ flow.open_ = false then t
  else
    let t := { t with connections := t.connections + 1 }.setTcpFlow { closeTcpFlow flow with
      open_ := true, peerIp := ip, connection := t.connections + 1 }
    { t with dialog := { t.dialog with remoteSipTcp := true } }

/-! ## The RTP task -/

/-- The RTP task has stopped by itself. -/
def rtpWorkerFailed (w : World) (t : Transport) : Transport :=
  if t.rtpRunning = false then t
  else
    let phase : MediaLifecyclePhase := if t.phase = .active then .cleaning else t.phase
    let t := { t.closeMediaSession with phase := phase }.videoRequestStop.rtpTaskQuiesce
    if t.dialog.callId = "" then t
    else t.endDialog w .protocolError 500 t.dialog.callId "rtp_worker_failed"

/-- What the RTP task reads of a packet. -/
structure RtpPacket where
  payloadType : Nat
  ssrc : UInt32
  /-- The header, the padding and, for PCM, the length of the payload are those of a frame. -/
  wellFormed : Bool
  deriving DecidableEq, Repr

/-- The RTP task listens to this packet. -/
def hearsRtp (packet : RtpPacket) (src : Peer) (t : Transport) : Bool :=
  t.rtpRunning && t.mediaActive && t.mediaProposalEpoch % 2 == 0 &&
    (t.negotiation.remoteRtpIp == 0 || src.ip == t.negotiation.remoteRtpIp) &&
    packet.wellFormed && t.negotiation.rxPayloads.any fun p => p.1 == packet.payloadType

/-- Follow the source of the packet: the peer's RTP port becomes the one it sends from. -/
def followRtpSource (packet : RtpPacket) (src : Peer) (t : Transport) : Transport :=
  { t with
    rtpLatch := some { ip := src.ip, port := src.port, ssrc := packet.ssrc }
    negotiation := { t.negotiation with remoteRtpPort := src.port } }

/-- The part of `rtp_task_` for one packet. -/
def receiveRtp (packet : RtpPacket) (src : Peer) (t : Transport) : Transport :=
  let counted (t : Transport) : Transport := { t with rtpRxPackets := t.rtpRxPackets + 1 }
  if t.hearsRtp packet src = false then t
  else match t.rtpLatch with
    | none => counted (t.followRtpSource packet src)
    | some l =>
      if l.ip ≠ src.ip then t
      else if l.ssrc ≠ packet.ssrc then
        if l.port ≠ src.port then t
        else counted { t with rtpLatch := some { l with ssrc := packet.ssrc } }
      else if l.port ≠ src.port then counted (t.followRtpSource packet src)
      else counted t

/-! ## The interface to the call component -/

/-- A command that returns nothing. -/
def done (t : Transport) : Bool × Transport := (true, t)

/-- The commands of `SipPhoneTransport`. -/
def exec (w : World) (c : Command) (t : Transport) : Bool × Transport :=
  match c with
  | .sendInvite callId callerRoute callerName destRoute destName =>
    t.sendInvite w callId { route := callerRoute, name := callerName }
      { route := destRoute, name := destName }
  | .sendRinging callId => t.sendRinging w callId
  | .sendAnswer callId callerToDest destToCaller => t.sendAnswer w callId callerToDest destToCaller
  | .setConnectedIdentity route name => done (t.setConnectedIdentity route name)
  | .sendCancel callId => t.sendCancel w callId
  | .sendBye callId => t.sendBye w callId
  | .sendFinalResponse callId status reason => t.sendFinalResponse w callId status reason
  | .setRemote ip port rtpPort => done (t.setRemote w ip port rtpPort)
  | .setSipSignalingTransport tcp => done (t.setSipSignalingTransport tcp)
  | .setPeerDirectionalAudioV1 enabled =>
    done { t with dialog := { t.dialog with peerDirectionalAudioV1 := enabled } }
  | .originate host port => t.originate w host port
  | .prepareMediaPath => t.prepareMediaPath w
  | .commitMediaPath => t.commitMediaPath w
  | .abortMediaPath => done t.stopAudioPath
  | .startAudioPath => t.startAudioPath w
  | .stopAudioPath => done t.stopAudioPath
  | .disconnect => done t.disconnect

/-- `snapshot`. -/
def snapshot (t : Transport) : SipTransportSnapshot :=
  { terminalTransactionPending := t.terminalTransactionPending
    mediaLifecyclePhase := t.phase.code }

/-- `SipTransport` as the call component sees it. -/
def api (w : World) : TransportApi Transport :=
  { exec := exec w
    isConnected := fun t => t.running
    snapshot := snapshot
    receivedAudioPackets := fun t => t.rtpRxPackets
    lastSipStatusCode := fun t => t.lastSipStatusCode
    remoteAudioExpected := fun t => t.negotiation.selectedRx.isValid && !t.referMediaWaiting
    takeCallbacks := fun t => (t.callbacks, { t with callbacks := [] }) }

/-! ## Steps -/

/-- What can happen to the transport. -/
inductive Event where
  | udp (m : SipMessage) (src : Peer)
  /-- A message on the stream connection of the owner or of the second dialog. -/
  | tcp (m : SipMessage) (src : Peer)
  | pump
  | elapse (ms : Nat)
  | prepareTcp (refer : Bool) (result : ConnectResult)
  | finishConnection (refer connected : Bool)
  | acceptTcp (ip : UInt32) (dialogActive shouldAccept : Bool)
  | tcpPeerLoss (refer : Bool)
  | rtpWorkerFailed
  | rtpTaskQuiesced
  | rtpReceived (packet : RtpPacket) (src : Peer)
  | requestVideoSend (enabled : Bool)
  | command (c : Command)
  | takeCallbacks
  deriving DecidableEq, Repr

/-- One step. -/
def step (w : World) (e : Event) (t : Transport) : Transport :=
  match e with
  | .udp m src => t.handleSipUdpDatagram w m src
  | .tcp m src => t.handleSipDatagram w m src
  | .pump => t.pumpUdpRetransmits w
  | .elapse ms => { t with clock := t.clock + ms }
  | .prepareTcp refer result => t.prepareTcpFlow w refer result
  | .finishConnection refer connected => t.finishConnection w refer connected
  | .acceptTcp ip dialogActive shouldAccept => t.acceptTcp ip dialogActive shouldAccept
  | .tcpPeerLoss refer => t.handleTcpPeerLoss w refer
  | .rtpWorkerFailed => t.rtpWorkerFailed w
  | .rtpTaskQuiesced => t.rtpTaskQuiesce
  | .rtpReceived packet src => t.receiveRtp packet src
  | .requestVideoSend enabled =>
    if t.video.enabled then (t.requestVideoSend w enabled).2 else t
  | .command c => (t.exec w c).2
  | .takeCallbacks => { t with callbacks := [] }

/-! ## Concrete runs -/

/-- A world in which every request succeeds and every SDP fits. -/
def grantingWorld : World where
  sendOk := fun _ => true
  random := fun _ => 1
  token := fun kind _ => kind ++ "1"
  token_ne_empty := fun kind _ h => by simpa using congrArg String.length h
  localIp := fun _ => "10.0.0.9"
  parseIp := fun _ => 2
  resourceOk := fun _ => true
  sdp :=
    { learn := fun c _ _ _ => (true, c.negotiation, c.video)
      offer := fun c _ => ("offer", c.negotiation)
      answer := fun _ _ => "answer"
      directionOffer := fun _ _ _ _ => "offer"
      hasFlow := fun _ => false }

/-- The INVITE of a call from Hall to Kitchen. -/
def inviteFromHall (callId branch : String) (number : UInt32) (body : String) : SipMessage :=
  { start := .request .invite { user := "kitchen" }
    via := [{ branch := some branch }]
    fromAddr := some { uri := { user := "hall" }, tag := "hall" }
    toAddr := some { uri := { user := "kitchen" } }
    callId := callId
    cseq := some { number := number, method := .invite }
    contentType := "application/sdp"
    body := body }

/-- Where Hall is. -/
def hall : Peer := { ip := 2, port := 5060 }

/-- Where another peer is. -/
def stranger : Peer := { ip := 3, port := 5060 }

end Transport

end EsphomeVoip
