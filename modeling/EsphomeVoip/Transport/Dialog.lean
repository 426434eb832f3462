import EsphomeVoip.Transport.Lifecycle

/-! # Ending and answering a dialog (`sip_transport.cpp`, `sip_refer.cpp`)

`send_bye_unlocked_`, `send_cancel_unlocked_` and `cancel_refer_` call each other in the source.
Under a `ReferScope` the last one returns at once, so the first two take it as an argument. -/

namespace EsphomeVoip

namespace Transport

/-! ## Terminating a dialog -/

/-- The dialog of the last INVITE was accepted and its ACK is outstanding. -/
def awaitsUasAck (d : Dialog) : Bool :=
  match d.completedInvite with
  | none => false
  | some c => c.awaitingAck && decide (200 ≤ c.status) && decide (c.status < 300) &&
      d.callId != "" && c.callId == d.callId && d.lastInviteCseqNumber == c.cseq

/-- Set `terminate_after_invite_ack_`. -/
def setTerminateAfterAck (t : Transport) : Transport :=
  { t with dialog := { t.dialog with terminateAfterInviteAck := true } }

/-- The media part of `send_bye_unlocked_`. -/
def stopOwnAudioPath (t : Transport) : Transport :=
  if t.referContextActive then t else t.stopAudioPath

/-- The part of `send_bye_unlocked_` that puts the BYE on the wire. -/
def sendConfirmedBye (w : World) (t : Transport) : Bool × Transport :=
  let t := { t with dialog := { t.dialog with pendingUpdate := none } }
  let sent := t.sendRequest w .bye "" {}
  (sent.1, sent.2.stopOwnAudioPath)

/-- The INVITE usage of the owner has ended, and only its transfer is still going on. -/
def ownerInviteEnded (t : Transport) : Bool :=
  !t.referContextActive &&
    t.referDialog.elim false fun r => r.ownerInviteEnded && t.dialog.callId == r.ownerCallId

/-- `terminal` for a dialog whose INVITE usage had ended. -/
def finishEndedInvite (t : Transport) : Transport :=
  t.resetDialog.emitSipSignal { type := .terminalComplete, callId := t.dialog.callId }

/-- `send_bye_unlocked_`. -/
def sendByeWith (w : World) (cancelRefer : Transport → Transport) (callId : String)
    (t : Transport) : Bool × Transport :=
  if t.dialog.callId = "" ∨
      (callId ≠ "" ∧ callId ≠ t.dialog.callId ∧ callId ≠ t.logicalCallId) then (false, t)
  else
    let ended := t.ownerInviteEnded
    let t := cancelRefer t
    if ended then (true, t.finishEndedInvite)
    else if awaitsUasAck t.dialog then (true, t.setTerminateAfterAck.stopOwnAudioPath)
    else t.sendConfirmedBye w

/-- The application names a dialog: unless the name is a logical one, it replaces the Call-ID. -/
def adoptCallId (callId : String) (t : Transport) : Transport :=
  if callId ≠ "" ∧ callId ≠ t.logicalCallId then
    { t with
      dialog := { t.dialog with callId := callId }
      log := if callId = t.dialog.callId then t.log else .renamed callId :: t.log }
  else t

/-- The INVITE of the dialog still waits for its connection. -/
def inviteQueued (d : Dialog) : Bool :=
  d.remoteSipTcp && match d.tcpFlow.pending with
    | none => false
    | some msg => msg.method == .invite && msg.callId == d.callId

/-- The INVITE is retracted before its first byte was sent. -/
def retractInvite (t : Transport) : Transport :=
  (t.setTcpFlow { t.dialog.tcpFlow with
    pending := none, connectRequested := false, closeRequested := true }).resetDialog

/-- The part of `send_cancel_unlocked_` that puts the CANCEL on the wire. -/
def sendCancelRequest (w : World) (t : Transport) : Bool × Transport :=
  let t := t.record (.cancelling (t.dialog.cancelRequested ||
    t.dialog.pendingInvite.elim false fun x => x.completed))
  let requested := { t with dialog := { t.dialog with cancelRequested := true } }
  let sent := requested.sendRequest w .cancel "" { cseqNumber := t.dialog.inviteCseq }
  if sent.1 then (true, { sent.2 with dialog := { sent.2.dialog with pendingInvite := none } })
  else (false, { sent.2 with dialog := { sent.2.dialog with cancelRequested := false } })

/-- `send_cancel_unlocked_`. -/
def sendCancelWith (w : World) (cancelRefer : Transport → Transport) (callId : String)
    (t : Transport) : Bool × Transport :=
  let t := t.adoptCallId callId
  if t.dialog.outgoingInvitePending = false then t.sendByeWith w cancelRefer callId
  else if inviteQueued t.dialog then (true, t.retractInvite)
  else t.sendCancelRequest w

/-! ## The transfer of a dialog that ends -/

/-- `notify_refer_`. -/
def notifyRefer (w : World) (referCseq : UInt32) (status : Nat) (phrase : String)
    (t : Transport) : Transport :=
  if (t.referDialog.elim false ReferDialog.reporterAvailable) = false then t
  else (t.sendRequest w .notify ("SIP/2.0 " ++ toString status ++ " " ++ phrase ++ "\r\n")
    { subscription := some { referCseq := referCseq, terminated := 200 ≤ status }
      contentType := "message/sipfrag;version=2.0" }).2

/-- End the second dialog of a transfer, under its `ReferScope`. -/
def endCandidate (w : World) (t : Transport) : Transport :=
  if t.dialog.outgoingInvitePending then (t.sendCancelWith w id t.dialog.callId).2
  else if t.dialog.callId ≠ "" then (t.sendByeWith w id t.dialog.callId).2
  else t

/-- `cancel_refer_`. -/
def cancelRefer (w : World) (t : Transport) : Transport :=
  if t.referContextActive = true ∨ t.referDialog = none ∨ t.referRetiring = true then t
  else { t.notifyRefer w t.referCseq 487 "Request Terminated" with
    referRetiring := true }.inRefer (endCandidate w)

/-- `send_bye_unlocked_`. -/
def sendBye (w : World) (callId : String) (t : Transport) : Bool × Transport :=
  t.sendByeWith w (cancelRefer w) callId

/-- `send_cancel_unlocked_`. -/
def sendCancel (w : World) (callId : String) (t : Transport) : Bool × Transport :=
  t.sendCancelWith w (cancelRefer w) callId

/-- `end_refer_invite_usage_`: the transfer outlives the INVITE usage that it came from. -/
def endReferInviteUsage (reporterAvailable : Bool) (t : Transport) : Bool × Transport :=
  match t.referDialog with
  | none => (false, t)
  | some r =>
    if t.referContextActive = true ∨ t.referRetiring = true ∨ t.dialog.callId ≠ r.ownerCallId
    then (false, t)
    else
      (true, { t with
        referDialog := some { r with
          ownerInviteEnded := true
          reporterAvailable := r.reporterAvailable && reporterAvailable }
        referMediaWaiting := true
        dialog := { t.dialog with pendingUpdate := none } }.closeMediaSession)

/-- `finish_failed_refer_`. -/
def finishFailedRefer (w : World) (status : Nat) (phrase : String) (t : Transport) : Transport :=
  let t := { t.notifyRefer w t.referCseq status phrase with referRetiring := true }
  if t.referDialog.elim false fun r => r.ownerInviteEnded && t.dialog.callId == r.ownerCallId then
    (t.emitSipSignal
      { type := .bye, callId := t.dialog.callId, reason := "transfer_failed" }).resetDialog
  else t

/-! ## Commands of the call component -/

/-- `set_media_config_`, with the payload table given. -/
def setMediaConfig (tx rx : AudioFormat) (txPayloadType rxPayloadType : Nat)
    (payloads : RtpAudioPayloads) (t : Transport) : Transport :=
  { t with negotiation := { t.negotiation with
    selectedTx := tx
    selectedRx := rx
    txPayloadType := txPayloadType
    rxPayloadType := rxPayloadType
    rxPayloads := payloads } }

/-- `build_sdp_offer_`, which remembers what it offered. -/
def buildSdpOffer (w : World) (t : Transport) : String × Transport :=
  let offer := w.sdp.offer t.sdpContext t.dialog.remoteIp
  (offer.1, { t with negotiation := offer.2 })

/-- `build_sdp_answer_`. -/
def buildSdpAnswer (w : World) (t : Transport) : String :=
  w.sdp.answer t.sdpContext t.dialog.remoteIp

/-- `learn_remote_rtp_from_sdp_`. The second dialog of a transfer has no video. -/
def learnRemoteRtp (w : World) (sdp : String) (defaultIp : UInt32) (remoteIsAnswer : Bool)
    (t : Transport) : Bool × Transport :=
  let learnt := w.sdp.learn t.sdpContext sdp defaultIp remoteIsAnswer
  (learnt.1, { t with
    negotiation := learnt.2.1
    video := if t.referContextActive then t.video
      else { t.video with negotiation := learnt.2.2 } })

/-- What an SDP tells is about media. -/
theorem learnRemoteRtp_shape (w : World) (sdp : String) (defaultIp : UInt32)
    (remoteIsAnswer : Bool) (t : Transport) : ∃ n v,
    (t.learnRemoteRtp w sdp defaultIp remoteIsAnswer).2 =
      { t with negotiation := n, video := { t.video with negotiation := v } } := by
  unfold learnRemoteRtp
  dsimp only
  split
  · exact ⟨_, t.video.negotiation, rfl⟩
  · exact ⟨_, _, rfl⟩

/-- Keep the local SDP that the peer was given, in a build with video. -/
def confirmLocalSdp (sdp : String) (t : Transport) : Transport :=
  if t.video.enabled then { t with video := { t.video with confirmedLocalSdp := sdp } } else t

/-- `send_ringing`. -/
def sendRinging (w : World) (callId : String) (t : Transport) : Bool × Transport :=
  (t.adoptCallId callId).sendResponse w 180 "Ringing" "" ""

/-- The part of `send_answer` that sends the answer it has built. -/
def sendBuiltAnswer (w : World) (answer : String) (t : Transport) : Bool × Transport :=
  if answer = "" then
    let sent := t.sendResponse w 488 "Not Acceptable Here" "" "media_incompatible"
    (sent.1, sent.2.resetDialog)
  else
    let sent := t.sendResponse w 200 "OK" answer ""
    if sent.1 then
      let t := sent.2.confirmLocalSdp answer
      (true, if t.dialog.delayedOfferPending then t else t.openMediaSession)
    else sent

/-- `send_answer`. -/
def sendAnswer (w : World) (callId : String) (callerToDest destToCaller : AudioFormat)
    (t : Transport) : Bool × Transport :=
  if t.running = false ∨ t.stopping = true then (false, t)
  else
    let t := t.adoptCallId callId
    let t := t.setMediaConfig destToCaller callerToDest t.negotiation.txPayloadType
      t.negotiation.rxPayloadType t.negotiation.rxPayloads
    let t := { t with dialog := { t.dialog with outgoingInvitePending := false } }
    if t.phase = .cleaning ∨ t.phase = .shuttingDown then (false, t)
    else if t.dialog.delayedOfferPending then
      let offer := t.buildSdpOffer w
      offer.2.sendBuiltAnswer w offer.1
    else t.sendBuiltAnswer w (t.buildSdpAnswer w)

/-- `set_connected_identity`. -/
def setConnectedIdentity (route name : String) (t : Transport) : Transport :=
  if t.dialog.dialogOriginated = true ∨ t.dialog.callId = "" ∨ t.dialog.localUri.uri = {} then t
  else
    let uri := if route = "" then t.dialog.localUri.uri
      else { t.dialog.localUri.uri with user := route }
    { t with dialog := { t.dialog with localUri := { uri := uri, displayName := name } } }

/-- The phrase that `send_final_response` chooses. -/
def finalResponsePhrase (status : Nat) : String :=
  if status = 603 then "Decline"
  else if status = 488 then "Not Acceptable Here"
  else if status = 487 then "Request Terminated"
  else if status = 500 then "Server Internal Error"
  else "Busy Here"

/-- `send_final_response`. -/
def sendFinalResponse (w : World) (callId : String) (status : Nat) (reason : String)
    (t : Transport) : Bool × Transport :=
  let t := t.adoptCallId callId
  if t.dialog.outgoingInvitePending then t.sendCancel w callId
  else
    let sent := t.sendResponse w status (finalResponsePhrase status) "" reason
    (sent.1, sent.2.resetDialog)

/-- `terminate_dialog_after_media_commit_failure_`. -/
def terminateAfterCommitFailure (w : World) (t : Transport) : Transport :=
  let accepted := t.dialog.callId ≠ "" && t.dialog.completedInvite.elim false fun c =>
    decide (200 ≤ c.status) && decide (c.status < 300) && c.callId == t.dialog.callId
  if accepted = false then t
  else if awaitsUasAck t.dialog then t.setTerminateAfterAck
  else (t.sendBye w t.dialog.callId).2

/-- `commit_media_path`. -/
def commitMediaPath (w : World) (t : Transport) : Bool × Transport :=
  let committed := if t.running = false ∨ t.stopping = true then (false, t)
    else t.commitMediaPathLocked w
  if committed.1 then committed else (false, committed.2.terminateAfterCommitFailure w)

/-! ## Placing a call -/

/-- `parse_remote_`. -/
def parseRemote (w : World) (host : String) (t : Transport) : Bool × Transport :=
  let ip := if host = "" then 0 else w.parseIp host
  (ip ≠ 0, { t with
    dialog := { t.dialog with remoteIp := ip }
    negotiation := { t.negotiation with remoteRtpIp := ip } })

/-- `request_tcp_client_close_`. -/
def requestTcpClientClose (t : Transport) : Transport :=
  t.setTcpFlow { t.dialog.tcpFlow with
    connectRequested := false, pending := none, closeRequested := true }

/-- `originate`. -/
def originate (w : World) (host : String) (port : UInt16) (t : Transport) : Bool × Transport :=
  let parsed := t.parseRemote w host
  if parsed.1 = false then parsed
  else
    let port := if port = 0 then 5060 else port
    let t := { parsed.2 with dialog := { parsed.2.dialog with remoteSipPort := port } }
    if t.dialog.remoteSipTcp then
      let t := t.requestTcpClientClose
      (true, t.setTcpFlow { t.dialog.tcpFlow with
        targetIp := t.dialog.remoteIp, targetPort := port, connectRequested := true })
    else (true, t)

/-- `set_remote`. -/
def setRemote (w : World) (ip : String) (port rtpPort : UInt16) (t : Transport) : Transport :=
  let t := (t.parseRemote w ip).2
  { t with
    dialog := { t.dialog with remoteSipPort := if port = 0 then t.dialog.remoteSipPort else port }
    negotiation := { t.negotiation with
      remoteRtpPort := if rtpPort = 0 then t.negotiation.remoteRtpPort else rtpPort } }

/-- `set_sip_signaling_transport`. -/
def setSipSignalingTransport (tcp : Bool) (t : Transport) : Transport :=
  let switched := { t with dialog := { t.dialog with remoteSipTcp := tcp } }
  if t.dialog.remoteSipTcp = true ∧ tcp = false then switched.requestTcpClientClose else switched

/-- The state in which `send_invite_unlocked_` formats its request: a fresh dialog of our own. -/
def beginOwnDialog (w : World) (callId : String) (caller destination : SipIdentity)
    (t : Transport) : Transport :=
  let t := if t.referContextActive then t
    else { t with logicalCallId := "", logicalWireId := "" }
  let session := (t.resetDialog.record (.named callId (t.clashes callId))).espRandom w
  { session.2 with
    lastSipStatusCode := 0
    dialog := { session.2.dialog with
      callId := callId
      sdpSessionId := if session.1 = 0 then 1 else session.1
      sdpSessionVersion := 0
      dialogOriginated := true
      caller := caller
      destination := destination } }

/-- `remote_identity_uri` of `send_invite_unlocked_`. -/
def remoteIdentityUri (t : Transport) : SipUri :=
  match t.referContextActive, t.referDialog with
  | true, some r => r.targetUri
  | _, _ =>
    { user := t.dialog.destination.route
      host := .ip t.dialog.remoteIp
      port := t.dialog.remoteSipPort
      params := if t.dialog.remoteSipTcp then ";transport=tcp" else ";transport=udp"
      target := some (t.dialog.remoteIp, t.dialog.remoteSipPort) }

/-- The identities and the transaction of the fresh dialog. -/
def identifyOwnDialog (w : World) (t : Transport) : Transport :=
  let tag := t.makeToken w "tag"
  let branch := tag.2.makeToken w "z9hG4bK"
  let t := branch.2
  let localIdentity : SipUri :=
    { user := t.dialog.caller.route
      host := .text (w.localIp t.dialog.remoteIp)
      port := t.sipPort
      params := if t.dialog.remoteSipTcp then ";transport=tcp" else ";transport=udp" }
  { t with dialog := { t.dialog with
    localTag := tag.1
    branch := branch.1
    inviteCseq := t.dialog.cseq
    localUri := { uri := localIdentity, displayName := t.dialog.caller.name }
    localContactUri := { uri := localIdentity }
    remoteUri := { uri := t.remoteIdentityUri, displayName := t.dialog.destination.name }
    remoteTargetUri := t.remoteIdentityUri } }

/-- The part of `send_invite_unlocked_` that offers media and sends the request. -/
def offerInvite (w : World) (t : Transport) : Bool × Transport :=
  let offer := t.buildSdpOffer w
  if offer.1 = "" then (false, offer.2.resetDialog)
  else
    let t := if offer.2.referContextActive then offer.2 else offer.2.confirmLocalSdp offer.1
    let sent := t.sendRequest w .invite offer.1 { cseqNumber := t.dialog.inviteCseq }
    if sent.1 then
      let d := sent.2.dialog
      (true, { sent.2 with dialog := { d with
        outgoingInvitePending := true
        cseq := if d.cseq ≤ d.inviteCseq then d.inviteCseq + 1 else d.cseq } })
    else (false, sent.2.resetDialog)

/-- `send_invite_unlocked_`. -/
def sendInvite (w : World) (callId : String) (caller destination : SipIdentity)
    (t : Transport) : Bool × Transport :=
  if t.running = false ∨ t.stopping = true ∨ t.terminalTransactionPending = true then (false, t)
  else if t.referContextActive = false ∧ t.phase ≠ .idle then (false, t)
  else
    let t := t.beginOwnDialog w callId caller destination
    if t.dialog.remoteIp = 0 then (false, t.resetDialog)
    else (t.identifyOwnDialog w).offerInvite w

end Transport

end EsphomeVoip
