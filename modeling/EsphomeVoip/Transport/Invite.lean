import EsphomeVoip.Transport.Video

/-! # Requests that open or change a dialog (`sip_transport.cpp`)

`handle_invite_` in the order of its checks, the re-INVITE within the owned dialog, and UPDATE. -/

namespace EsphomeVoip

namespace Transport

/-! ## Checks of an INVITE -/

/-- The headers of an INVITE make a transaction. -/
def inviteWellFormed (m : SipMessage) : Bool :=
  m.callId != "" && !m.via.isEmpty && m.fromAddr.isSome && m.toAddr.isSome &&
    m.cseqNumber != 0 && m.cseqMethod == .invite && m.fromTag != ""

/-- The INVITE is sent within the owned dialog. -/
def matchingDialog (m : SipMessage) (d : Dialog) : Bool :=
  m.callId == d.callId && d.localTag != "" && d.remoteTag != "" && m.toTag == d.localTag &&
    m.fromTag == d.remoteTag

/-- The name of a party: its display name, the name of our own header, or its user. -/
def partyName (a : Option NameAddr) (x : SipIdentity) : String :=
  let a := a.getD {}
  if a.displayName ≠ "" then a.displayName else if x.name ≠ "" then x.name else a.uri.user

/-- The route of a party: its user, the route of our own header, or its name. -/
def partyRoute (user : String) (x : SipIdentity) (name : String) : String :=
  if user ≠ "" then user else if x.route ≠ "" then x.route else name

/-- The peer that we are calling calls us. -/
def glare (m : SipMessage) (src : Peer) (d : Dialog) : Bool :=
  d.outgoingInvitePending && d.remoteIp == src.ip && d.caller.name != "" &&
    partyName m.fromAddr m.xCaller == d.destination.name

/-- An INVITE of another call is refused while a dialog is owned. -/
def refuseForeignInvite (w : World) (m : SipMessage) (src : Peer) (t : Transport) :
    Bool × Transport :=
  if glare m src t.dialog then
    let random := t.espRandom w
    random.2.sendStatelessResponse w m src 491 "Request Pending" "glare" true
      (some (random.1 % 3))
  else t.sendStatelessResponse w m src 486 "Busy Here" "busy" true none

/-! ## The initial INVITE -/

/-- The contact that we answer an INVITE with. -/
def localContactFor (w : World) (m : SipMessage) (src : Peer) (t : Transport) : NameAddr :=
  { uri :=
      { user := (m.toAddr.getD {}).uri.user
        host := .text (w.localIp src.ip)
        port := t.sipPort
        params := if t.dialog.remoteSipTcp then ";transport=tcp" else ";transport=udp" } }

/-- The dialog of an INVITE that is taken on, but for its session and its local tag. -/
def invitedDialog (w : World) (m : SipMessage) (src : Peer) (t : Transport) : Dialog :=
  let caller := m.fromAddr.getD {}
  let destination := m.toAddr.getD {}
  { t.dialog with
    remoteIp := src.ip
    remoteSipPort := src.port
    callId := m.callId
    sdpSessionVersion := 0
    dialogOriginated := false
    lastInviteVia := m.via
    lastInviteFrom := m.fromAddr
    lastInviteTo := m.toAddr
    lastInviteCseq := m.cseq
    lastInviteCseqNumber := m.cseqNumber
    remoteDialogCseq := m.cseqNumber
    lastInvitePeerIp := src.ip
    lastInvitePeerPort := src.port
    remoteTag := caller.tag
    peerSupportsFromChange := m.supportsFromChange
    remoteUri := if caller.uri = {} then {}
      else { uri := caller.uri, displayName := partyName m.fromAddr m.xCaller }
    remoteTargetUri := if m.contactUri = {} then caller.uri else m.contactUri
    localUri := { uri := destination.uri, displayName := partyName m.toAddr m.xDest }
    localContactUri := t.localContactFor w m src
    accepted := []
    crossed := false }

/-- Take on the dialog of an INVITE. -/
def adoptInvite (w : World) (m : SipMessage) (src : Peer) (t : Transport) : Transport :=
  let session := ((t.record (.invited m.callId m.cseqNumber m.topBranch)).record
    (.named m.callId (t.clashes m.callId))).espRandom w
  let t := { session.2 with
    logicalCallId := ""
    logicalWireId := ""
    dialog := { session.2.invitedDialog w m src with
      sdpSessionId := if session.1 = 0 then 1 else session.1 } }
  t.ensureLocalTag w

/-- The media of an INVITE: its offer, or one of our own formats when it makes none. -/
def inviteMedia (w : World) (m : SipMessage) (src : Peer) (t : Transport) : Bool × Transport :=
  if m.body = "" then
    let tx := t.offerTxFormats
    let rx := t.offerRxFormats
    match chooseCommonAudioFormat (if tx = [] then rx else tx) (if rx = [] then tx else rx) with
    | none => (false, t)
    | some shared =>
      let t := t.setMediaConfig (if tx = [] then disabledAudioFormat else shared)
        (if rx = [] then disabledAudioFormat else shared) 96 96
        (if rx ≠ [] ∧ shared.isValid = true then [(96, shared)] else [])
      (true, { t with dialog := { t.dialog with delayedOfferPending := true } })
  else
    { t with dialog := { t.dialog with delayedOfferPending := false } }.learnRemoteRtp w m.body
      src.ip false

/-- Answer the INVITE of the dialog with a failure, and free the dialog. -/
def failInvite (w : World) (status : Nat) (phrase : String) (t : Transport) : Bool × Transport :=
  let sent := t.sendResponse w status phrase "" ""
  (sent.1, sent.2.resetDialog)

/-- The parties of the call, from the headers of its INVITE. -/
def identifyParties (m : SipMessage) (t : Transport) : Transport :=
  let caller := partyName m.fromAddr m.xCaller
  let destination := partyName m.toAddr m.xDest
  { t with dialog := { t.dialog with
    caller :=
      { route := partyRoute (m.fromAddr.getD {}).uri.user m.xCaller caller
        name := caller }
    destination :=
      { route := partyRoute m.requestUri.user m.xDest destination
        name := destination } } }

/-- The signal that reports an accepted INVITE. -/
def inviteSignal (t : Transport) : SipSignal :=
  let rx := t.negotiation.selectedRx
  let tx := t.negotiation.selectedTx
  { type := .invite
    callId := t.dialog.callId
    callerRoute := t.dialog.caller.route
    callerName := t.dialog.caller.name
    destRoute := t.dialog.destination.route
    destName := t.dialog.destination.name
    callerTxFormats := if rx.isValid then [rx] else []
    callerRxFormats := if tx.isValid then [tx] else []
    selectedRxFormat := rx
    selectedTxFormat := tx
    mediaAnswerPending := t.dialog.delayedOfferPending }

/-- The INVITE was taken on and its media is compatible: say so, here and to the peer. -/
def announceInvite (w : World) (m : SipMessage) (t : Transport) : Bool × Transport :=
  let t := (t.sendResponse w 100 "Trying" "" "").2
  if partyName m.fromAddr m.xCaller = "" ∨ partyName m.toAddr m.xDest = "" then
    t.failInvite w 400 "Bad Request"
  else
    let t := t.identifyParties m
    (true, t.emitSipSignal t.inviteSignal)

/-- The part of `handle_invite_` that accepts an initial INVITE. -/
def acceptInvite (w : World) (m : SipMessage) (src : Peer) (t : Transport) : Bool × Transport :=
  let media := (t.adoptInvite w m src).inviteMedia w m src
  if media.1 then media.2.announceInvite w m
  else media.2.failInvite w 488 "Not Acceptable Here"

/-! ## The re-INVITE -/

/-- What a re-INVITE does to video. -/
structure VideoPlan where
  prepared : Bool := false
  direction : Bool := false
  remove : Bool := false
  deriving DecidableEq, Repr

/-- Video is added: the running session must fit, or a new one is prepared. -/
def admitNewVideo (w : World) (t : Transport) : Except String VideoPlan × Transport :=
  if t.video.hasSession = false then (.error "video_resources_unavailable", t)
  else
    let granted := t.resource w
    if t.video.sessionRunning then
      if granted.1 then (.ok { direction := true }, granted.2)
      else (.error "video_renegotiation_unsupported", granted.2)
    else if granted.1 then
      (.ok { prepared := true, direction := true },
        { granted.2 with video := { granted.2.video with sessionRunning := true } })
    else (.error "video_resources_unavailable", granted.2.videoRequestStop)

/-- The video part of a re-INVITE's admission. -/
def admitVideo (w : World) (new : VideoNegotiation) (t : Transport) :
    Except String VideoPlan × Transport :=
  let old := t.video.negotiation
  let replace := old.negotiated && new.negotiated &&
    !(old.sendEnabled == new.sendEnabled && old.receiveEnabled == new.receiveEnabled)
  let remove := old.negotiated && !new.negotiated
  if t.video.enabled = false then (.ok {}, t)
  else if old.negotiated && new.negotiated && !sameVideoMedia old new then
    (.error "video_renegotiation_unsupported", t)
  else if !old.negotiated && new.negotiated then t.admitNewVideo w
  else if replace || remove then
    if t.video.hasSession = false then (.error "video_resources_unavailable", t)
    else
      let granted := t.resource w
      if granted.1 then (.ok { direction := replace, remove := remove }, granted.2)
      else (.error "video_resources_unavailable", granted.2)
  else (.ok {}, t)

/-- The remote target after a request of the peer within the dialog. -/
def refreshedTarget (m : SipMessage) (d : Dialog) : SipUri :=
  if m.contactUri = {} then d.remoteTargetUri else m.contactUri

/-- The re-INVITE becomes the last INVITE of the dialog. -/
def recordReinvite (m : SipMessage) (src : Peer) (t : Transport) : Transport :=
  let t := t.record (.invited m.callId m.cseqNumber m.topBranch)
  { t with dialog := { t.dialog with
    lastInviteVia := m.via
    lastInviteFrom := m.fromAddr
    lastInviteTo := m.toAddr
    lastInviteCseq := m.cseq
    lastInviteCseqNumber := m.cseqNumber
    remoteDialogCseq := m.cseqNumber
    lastInvitePeerIp := src.ip
    lastInvitePeerPort := src.port
    remoteTargetUri := refreshedTarget m t.dialog } }

/-- `restore_old_dialog_metadata`. -/
def restoreLastInvite (old : Dialog) (t : Transport) : Transport :=
  { t with dialog := { t.dialog with
    lastInviteVia := old.lastInviteVia
    lastInviteFrom := old.lastInviteFrom
    lastInviteTo := old.lastInviteTo
    lastInviteCseq := old.lastInviteCseq
    lastInviteResponse := old.lastInviteResponse
    lastResponseFlow := old.lastResponseFlow
    lastInviteCseqNumber := old.lastInviteCseqNumber
    remoteDialogCseq := old.remoteDialogCseq
    lastInvitePeerIp := old.lastInvitePeerIp
    lastInvitePeerPort := old.lastInvitePeerPort
    remoteTargetUri := old.remoteTargetUri } }

/-- The new video direction could not be started after the 200: the ACK, or its timeout, ends the
    dialog. -/
def failVideoActivation (t : Transport) : Transport :=
  let t := t.requestAudioPathStop.setTerminateAfterAck
  t.emitSipSignal
    { type := .mediaIncompatible
      statusCode := 500
      callId := t.dialog.callId
      reason := "video_activation_failed"
      terminalTransactionPending := true }

/-- The answered re-INVITE takes effect. Its audio is the audio there was. -/
def commitReinvite (new : VideoNegotiation) (answer : String) (t : Transport) : Transport :=
  let t := { t with rtpLatch := none }
  if t.video.enabled then
    { t with
      dialog := { t.dialog with sdpSessionVersion := t.dialog.sdpSessionVersion + 1 }
      video := { t.video with negotiation := new, confirmedLocalSdp := answer } }
  else t

/-- Carry out the video plan of an answered re-INVITE. -/
def applyVideoPlan (w : World) (plan : VideoPlan) (new : VideoNegotiation) (answer : String)
    (t : Transport) : Transport :=
  if plan.remove then t.videoRequestStop.commitReinvite new answer
  else if plan.direction then
    let granted := t.resource w
    if granted.1 then granted.2.commitReinvite new answer else granted.2.failVideoActivation
  else t.commitReinvite new answer

/-- The part of `handle_reinvite_` that answers an admitted re-INVITE. -/
def answerReinvite (w : World) (m : SipMessage) (src : Peer) (plan : VideoPlan)
    (new : VideoNegotiation) (answer : String) (t : Transport) : Bool × Transport :=
  let sent := (t.recordReinvite m src).sendResponse w 200 "OK" answer ""
  if sent.1 then (true, (sent.2.noteAccepted m.cseqNumber).applyVideoPlan w plan new answer)
  else
    let t' := if plan.prepared then sent.2.videoRequestStop else sent.2
    (false, (t.restoreMedia t').restoreLastInvite t.dialog)

/-- A stateless response that is kept for replay. -/
def refuse (w : World) (m : SipMessage) (src : Peer) (status : Nat) (phrase reason : String)
    (t : Transport) : Bool × Transport :=
  t.sendStatelessResponse w m src status phrase reason true none

/-- The answer that `handle_reinvite_` builds, with the next session version in a build with
    video. -/
def buildReinviteAnswer (w : World) (t : Transport) : String :=
  if t.video.enabled then
    { t with dialog := { t.dialog with
      sdpSessionVersion := t.dialog.sdpSessionVersion + 1 } }.buildSdpAnswer w
  else t.buildSdpAnswer w

/-- The part of `handle_reinvite_` that weighs the proposed media. -/
def weighReinvite (w : World) (m : SipMessage) (src : Peer) (t : Transport) : Bool × Transport :=
  let learnt := t.openProposal.learnRemoteRtp w m.body src.ip false
  let restored := (t.restoreMedia learnt.2).closeProposal
  let answer := learnt.2.buildReinviteAnswer w
  if learnt.1 = false ∨ answer = "" then
    restored.refuse w m src 488 "Not Acceptable Here" "media_incompatible"
  else if sameAudio t.negotiation learnt.2.negotiation = false then
    restored.refuse w m src 488 "Not Acceptable Here" "audio_renegotiation_unsupported"
  else
    let admitted := restored.admitVideo w learnt.2.video.negotiation
    match admitted.1 with
    | .error reason => admitted.2.refuse w m src 488 "Not Acceptable Here" reason
    | .ok plan => admitted.2.answerReinvite w m src plan learnt.2.video.negotiation answer

/-- A refusal that asks the peer to try again after a random number of seconds. -/
def refuseForNow (w : World) (m : SipMessage) (src : Peer) (reason : String) (cache : Bool)
    (t : Transport) : Bool × Transport :=
  let random := t.espRandom w
  random.2.sendStatelessResponse w m src 500 "Server Internal Error" reason cache
    (some (random.1 % 11))

/-- `handle_reinvite_`. -/
def handleReinvite (w : World) (m : SipMessage) (src : Peer) (t : Transport) :
    Bool × Transport :=
  if t.referRetiring = false ∧ t.referDialog.elim false ReferDialog.ownerInviteEnded = true then
    t.reject w m src 481 "Call/Transaction Does Not Exist"
  else if t.referRetiring = false ∧ t.referDialog.isSome = true then
    t.reject w m src 491 "Request Pending"
  else if t.mediaActive = false ∨ src.ip ≠ t.dialog.remoteIp ∨ m.fromTag ≠ t.dialog.remoteTag ∨
      m.toTag ≠ t.dialog.localTag then
    t.refuse w m src 481 "Call/Transaction Does Not Exist" ""
  else if awaitsAnyAck t.dialog then t.refuseForNow w m src "request_pending" false
  else if t.video.pendingDirection.isSome then t.reject w m src 491 "Request Pending"
  else if m.cseqNumber ≤ t.dialog.remoteDialogCseq then t.refuseForNow w m src "stale_cseq" true
  else if m.contentType ≠ "application/sdp" ∨ m.body = "" then
    t.refuse w m src 415 "Unsupported Media Type" ""
  else if t.phase = .cleaning ∨ t.phase = .shuttingDown ∨ t.mediaActive = false then
    t.reject w m src 491 "Request Pending"
  else t.weighReinvite w m src

/-! ## `handle_invite_` -/

/-- The INVITE repeats the number of the last one but took another path. -/
def mergedInvite (m : SipMessage) (d : Dialog) : Bool :=
  m.cseqNumber == d.lastInviteCseqNumber && viaBranch m.via != viaBranch d.lastInviteVia

/-- The part of `handle_invite_` for an INVITE that no dialog is in the way of. -/
def admitInvite (w : World) (m : SipMessage) (src : Peer) (t : Transport) : Bool × Transport :=
  if t.phase = .cleaning ∨ t.phase = .shuttingDown then
    t.sendStatelessResponse w m src 503 "Service Unavailable" "media_cleanup" true (some 1)
  else t.acceptInvite w m src

/-- The part of `handle_invite_` for an INVITE outside the owned dialog with its Call-ID, or when
    there is none. -/
def repeatInvite (w : World) (m : SipMessage) (src : Peer) (t : Transport) : Bool × Transport :=
  let d := t.dialog
  if m.callId = d.callId ∧ d.lastInviteCseqNumber = m.cseqNumber ∧ viaBranch d.lastInviteVia ≠ "" ∧
      viaBranch m.via ≠ viaBranch d.lastInviteVia then
    t.reject w m src 482 "Loop Detected"
  else if m.callId = d.callId ∧ d.lastInviteCseqNumber = m.cseqNumber ∧
      d.lastInviteResponse.isSome = true then
    match d.lastInviteResponse with
    | none => (true, t)
    | some msg => (true, (t.sendAgain w d.lastResponseFlow msg src.ip src.port).2)
  else if d.callId ≠ "" then
    t.sendStatelessResponse w m src 486 "Busy Here" "busy" false none
  else t.admitInvite w m src

/-- The part of `handle_invite_` that tells the owned dialog's requests from the others. -/
def routeInvite (w : World) (m : SipMessage) (src : Peer) (t : Transport) : Bool × Transport :=
  let d := t.dialog
  if d.callId ≠ "" ∧ m.callId ≠ d.callId then t.refuseForeignInvite w m src
  else if d.callId ≠ "" ∧ d.remoteIp ≠ 0 ∧ src.ip ≠ d.remoteIp then
    t.reject w m src 481 "Call/Transaction Does Not Exist"
  else if matchingDialog m d = true then
    if mergedInvite m d then t.reject w m src 482 "Loop Detected" else t.handleReinvite w m src
  else t.repeatInvite w m src

/-- The part of `handle_invite_` for an INVITE that is no retransmission of an answered one. -/
def freshInvite (w : World) (m : SipMessage) (src : Peer) (t : Transport) : Bool × Transport :=
  if m.toTag ≠ "" ∧ matchingDialog m t.dialog = false then
    t.reject w m src 481 "Call/Transaction Does Not Exist"
  else if t.terminalTransactionPending then
    let own := m.callId = t.dialog.callId
    t.sendStatelessResponse w m src (if own then 500 else 503)
      (if own then "Server Internal Error" else "Service Unavailable") "transaction_pending" false
      (some 1)
  else t.routeInvite w m src

/-- `handle_invite_`. -/
def handleInvite (w : World) (m : SipMessage) (src : Peer) (t : Transport) : Bool × Transport :=
  if inviteWellFormed m = false then t.reject w m src 400 "Bad Request"
  else
    let replayed := t.replayCompletedResponse w m src .invite (!t.dialog.remoteSipTcp)
    if replayed.1 then replayed else replayed.2.freshInvite w m src

/-! ## UPDATE -/

/-- The UPDATE is sent within the owned dialog. -/
def updateInDialog (m : SipMessage) (d : Dialog) : Bool :=
  m.callId != "" && m.callId == d.callId && m.cseqMethod == .update && m.cseqNumber != 0 &&
    m.fromTag == d.remoteTag && m.toTag == d.localTag

/-- An accepted UPDATE changes the identity of the peer. -/
def applyUpdate (m : SipMessage) (t : Transport) : Transport :=
  let sender := m.fromAddr.getD {}
  let route := sender.uri.user
  let name := if sender.displayName = "" then route else sender.displayName
  let identity : SipIdentity := { route := route, name := name }
  let d := t.dialog
  let t := { t with dialog := { d with
    remoteUri := { uri := sender.uri, displayName := name }
    remoteTargetUri := refreshedTarget m d
    remoteDialogCseq := m.cseqNumber
    destination := if d.dialogOriginated then identity else d.destination
    caller := if d.dialogOriginated then d.caller else identity } }.noteAccepted m.cseqNumber
  t.emitSipSignal
    { type := .connectedIdentity
      callId := t.dialog.callId
      connectedRoute := route
      connectedName := name }

/-- The part of `handle_update_` for an UPDATE that is no retransmission. -/
def freshUpdate (w : World) (m : SipMessage) (src : Peer) (t : Transport) : Bool × Transport :=
  let sender := m.fromAddr.getD {}
  if t.mediaActive = false ∨ updateInDialog m t.dialog = false then
    t.refuse w m src 481 "Call/Transaction Does Not Exist" ""
  else if m.cseqNumber ≤ t.dialog.remoteDialogCseq then t.refuseForNow w m src "stale_cseq" true
  else if m.body ≠ "" then t.refuse w m src 488 "Not Acceptable Here" "media_update_unsupported"
  else if sender.uri = {} ∨ sender.uri.user = "" ∨
      (m.contact.isSome = true ∧ m.contactUri = {})
  then t.refuse w m src 400 "Bad Request" ""
  else
    let sent := t.refuse w m src 200 "OK" ""
    if sent.1 then (true, sent.2.applyUpdate m) else sent

/-- `handle_update_`. -/
def handleUpdate (w : World) (m : SipMessage) (src : Peer) (t : Transport) : Bool × Transport :=
  let replayed := t.replayCompletedResponse w m src .update (!t.dialog.remoteSipTcp)
  if replayed.1 then replayed else replayed.2.freshUpdate w m src

end Transport

end EsphomeVoip
