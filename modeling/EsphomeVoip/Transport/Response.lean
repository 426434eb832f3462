import EsphomeVoip.Transport.Invite

/-! # Responses to our own requests (`handle_response_` of `sip_transport.cpp`)

A response that does not belong to an outstanding transaction of the owned dialog changes nothing.
One that does may retarget the dialog, and reports to the call component. -/

namespace EsphomeVoip

namespace Transport

/-! ## Responses to a NOTIFY -/

/-- The response answers this NOTIFY. -/
def answersNotify (m : SipMessage) (src : Peer) (x : Option UdpTransaction) : Bool :=
  x.elim false fun x => m.callId == x.request.callId && m.cseq == x.request.cseq &&
    m.topBranch == x.request.topBranch && src.ip == x.ip && src.port == x.port

/-- The NOTIFY branch of `handle_response_`. -/
def handleNotifyResponse (m : SipMessage) (src : Peer) (r : ReferDialog) (t : Transport) :
    Bool × Transport :=
  if answersNotify m src r.pendingNotify then
    (true, if 200 ≤ m.status then { t with referDialog := some { r with pendingNotify := none } }
      else t)
  else if answersNotify m src r.pendingNotifyFinal then
    (true, if 200 ≤ m.status
      then { t with referDialog := some { r with pendingNotifyFinal := none } } else t)
  else (false, t)

/-! ## Matching a transaction of the dialog -/

/-- The request of an outstanding transaction has the number and the branch of this response. -/
def sameTransaction (m : SipMessage) (x : Option UdpTransaction) : Bool :=
  x.elim false fun x =>
    m.cseqNumber == x.request.cseqNumber && m.topBranch == x.request.topBranch

/-- The transaction that a response to `method` belongs to. -/
def transactionOf (method : Method) (d : Dialog) : Option UdpTransaction :=
  match method with
  | .bye => d.pendingBye
  | .cancel => d.pendingCancel
  | .update => d.pendingUpdate
  | _ => d.pendingInvite

/-- The number, the tags and the branch of the response are those of a request of ours. -/
def answersRequest (m : SipMessage) (d : Dialog) : Bool :=
  d.localTag != "" && m.fromTag == d.localTag &&
    match m.cseqMethod with
    | .invite | .cancel =>
      m.cseqNumber == d.inviteCseq && d.branch != "" && m.topBranch == d.branch
    | .bye => sameTransaction m d.pendingBye
    | .update => sameTransaction m d.pendingUpdate
    | _ => false

/-- Over UDP the response comes from where its request went. -/
def fromExpectedPeer (m : SipMessage) (src : Peer) (d : Dialog) : Bool :=
  let expected := match transactionOf m.cseqMethod d with
    | none => d.remoteIp
    | some x => if x.ip = 0 then d.remoteIp else x.ip
  d.remoteSipTcp || expected == 0 || src.ip == expected

/-- The `To` tag of a response other than 100. -/
def remoteTagFits (m : SipMessage) (d : Dialog) : Bool :=
  m.status ≤ 100 || ((m.toTag == "" || d.remoteTag == "" || m.toTag == d.remoteTag) &&
    (m.toTag != "" || m.cseqMethod == .invite))

/-- The response belongs to an outstanding transaction of the dialog. -/
def responseMatches (m : SipMessage) (src : Peer) (d : Dialog) : Bool :=
  answersRequest m d && fromExpectedPeer m src d && remoteTagFits m d

/-- What a matched response tells about the peer. -/
def learnPeer (m : SipMessage) (src : Peer) (t : Transport) : Transport :=
  let d := t.dialog
  { t with dialog := { d with
    remoteTag := if 100 < m.status ∧ d.remoteTag = "" then m.toTag else d.remoteTag
    peerSupportsFromChange := d.peerSupportsFromChange ||
      (m.cseqMethod == Method.invite && decide (100 < m.status) && m.supportsFromChange)
    remoteIp := src.ip
    remoteSipPort := src.port } }.markSipEvent .response m.status

/-- A provisional response stops the retransmission of the INVITE; a final one completes it. -/
def settleInvite (status : Nat) (t : Transport) : Transport :=
  { t with dialog := { t.dialog with
    pendingInvite := if status < 200
      then t.dialog.pendingInvite.map fun x => { x with completed := true, nextMs := x.deadlineMs }
      else none } }

/-- The CANCEL was answered, and waits for the final response to its INVITE. -/
def completeCancel (t : Transport) : Transport :=
  { t with dialog := { t.dialog with
    pendingCancel :=
      t.dialog.pendingCancel.map fun x => { x with completed := true, nextMs := x.deadlineMs } } }

/-! ## Final responses -/

/-- The BYE was answered, whatever the answer is: the dialog is over. -/
def completeBye (status : Nat) (t : Transport) : Transport :=
  ({ t with dialog := { t.dialog with pendingBye := none } }.resetDialog).emitSipSignal
    { type := .terminalComplete, statusCode := status, callId := t.dialog.callId }

/-- Acknowledge a 2xx to the INVITE. -/
def acknowledgeAnswer (w : World) (m : SipMessage) (t : Transport) : Transport :=
  let t := { t with dialog := { t.dialog with outgoingInvitePending := false } }
  let t := t.retarget m.contactUri
  (t.sendRequest w .ack "" { cseqNumber := t.dialog.inviteCseq }).2

/-- End a dialog that a 2xx confirmed but that cannot carry the call. -/
def rejectAnswer (w : World) (t : Transport) : Transport :=
  let bye := t.sendBye w t.dialog.callId
  let signal : SipSignal :=
    { type := .mediaIncompatible
      statusCode := 488
      callId := bye.2.dialog.callId
      reason := "media_incompatible"
      terminalTransactionPending := bye.1 }
  (if bye.1 then bye.2 else bye.2.resetDialog).emitSipSignal signal

/-- The media of an answer, and video resources for it. -/
def learnAnswer (w : World) (m : SipMessage) (src : Peer) (t : Transport) : Bool × Transport :=
  let learnt := t.learnRemoteRtp w m.body src.ip true
  if learnt.1 = true ∧ learnt.2.referContextActive = false then learnt.2.prepareVideoSession w
  else learnt

/-- The 2xx branch of `handle_response_` for an INVITE. -/
def inviteAnswered (w : World) (m : SipMessage) (src : Peer) (t : Transport) : Transport :=
  let t := t.acknowledgeAnswer w m
  if t.dialog.remoteTag = "" then
    t.resetDialog.emitSipSignal
      { type := .protocolError
        statusCode := 500
        callId := t.dialog.callId
        reason := "malformed_2xx" }
  else
    let media := t.learnAnswer w m src
    let t := media.2
    if t.dialog.cancelRequested then
      -- The CANCEL crossed the answer: the dialog is confirmed and must be ended.
      let bye := t.sendBye w t.dialog.callId
      if bye.1 then bye.2 else bye.2.resetDialog
    else if media.1 = false then t.rejectAnswer w
    else
      let t := t.openMediaSession
      t.emitSipSignal
        { type := .status200Ok
          statusCode := m.status
          callId := t.dialog.callId
          selectedTxFormat := t.negotiation.selectedTx
          selectedRxFormat := t.negotiation.selectedRx }

/-- The reason that a failure response gives. -/
def failureReason (m : SipMessage) : String :=
  if m.declineReason ≠ "" then m.declineReason
  else if m.reasonText ≠ "" then m.reasonText
  else sipFailureReason m.status

/-- The signal of a failure response. -/
def failureSignal (status : Nat) : SipSignalType :=
  if status = 401 then .authRequired
  else if status = 407 then .proxyAuthRequired
  else if status = 488 then .mediaIncompatible
  else .finalResponse

/-- The branch of `handle_response_` for an INVITE that was refused. -/
def inviteRefused (w : World) (m : SipMessage) (t : Transport) : Transport :=
  let t := { t with dialog := { t.dialog with outgoingInvitePending := false } }
  let t := (t.sendInviteErrorAck w).2
  (t.emitSipSignal
    { type := failureSignal m.status
      statusCode := m.status
      callId := t.dialog.callId
      reason := failureReason m }).resetDialog

/-- The INVITE branch of `handle_response_`. -/
def inviteResponse (w : World) (m : SipMessage) (src : Peer) (t : Transport) : Transport :=
  let t := t.settleInvite m.status
  if m.status < 200 then
    if 100 < m.status then
      t.emitSipSignal
        { type := .status180Ringing, statusCode := m.status, callId := t.dialog.callId }
    else t
  else if m.status < 300 then t.inviteAnswered w m src
  else t.inviteRefused w m

/-- The part of `handle_response_` after the transaction was matched. -/
def matchedResponse (w : World) (m : SipMessage) (src : Peer) (t : Transport) : Transport :=
  let t := t.learnPeer m src
  match m.cseqMethod with
  | .invite => t.inviteResponse w m src
  | .bye => if 200 ≤ m.status then t.completeBye m.status else t
  | .cancel => if 200 ≤ m.status then t.completeCancel else t
  | .update =>
    if 200 ≤ m.status then { t with dialog := { t.dialog with pendingUpdate := none } } else t
  | _ => t

/-- The part of `handle_response_` for a response that no kept ACK answers. -/
def dialogResponse (w : World) (m : SipMessage) (src : Peer) (t : Transport) :
    Bool × Transport :=
  if m.callId = "" ∨ t.dialog.callId = "" ∨ m.callId ≠ t.dialog.callId ∨
      m.cseqMethod = .other "" ∨ m.cseqNumber = 0 then (true, t)
  else
    let direction := if m.cseqMethod = .invite then t.handleVideoDirectionResponse w m src
      else (false, t)
    if direction.1 then direction
    else if responseMatches m src t.dialog then (true, t.matchedResponse w m src)
    else (true, t)

/-- `handle_response_`. -/
def handleResponse (w : World) (m : SipMessage) (src : Peer) (t : Transport) : Bool × Transport :=
  if m.isResponse = false ∨ m.status < 100 ∨ 699 < m.status then (false, t)
  else
    let video := t.replayCompletedVideoDirectionAck w m src
    if video.1 then video
    else
      let ack := video.2.replayCompletedInviteAck w m src (!t.dialog.remoteSipTcp)
      if ack.1 then ack
      else
        let t := ack.2
        match m.cseqMethod, t.referDialog with
        | .notify, some r => t.handleNotifyResponse m src r
        | _, _ => t.dialogResponse w m src

end Transport

end EsphomeVoip
