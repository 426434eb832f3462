import EsphomeVoip.Transport.State

/-! # Sending and remembering (`sip_request_response.cpp`, `sip_transport.cpp`)

The socket primitives, the request and response builders, and the transaction records that
retransmissions are answered from. -/

namespace EsphomeVoip

open WrapClock (timeReached)

namespace Transport

/-! ## Sockets -/

/-- `send_sip_udp_bytes_`. -/
def sendSipUdp (w : World) (msg : SipMessage) (ip : UInt32) (port : UInt16) (t : Transport) :
    Bool × Transport :=
  if t.sipSocketOpen = false ∨ ip = 0 ∨ port = 0 then (false, t)
  else if w.sendOk t.io then
    (true, { t with io := t.io + 1, log := .sent msg (.udp ip port) t.clock :: t.log })
  else (false, { t with io := t.io + 1 })

/-- Replace the stream connection of the dialog. -/
def setTcpFlow (flow : TcpFlow) (t : Transport) : Transport :=
  { t with dialog := { t.dialog with tcpFlow := flow } }

/-- `send_sip_tcp_record_`. -/
def sendSipTcpRecord (w : World) (msg : SipMessage) (t : Transport) : Bool × Transport :=
  if w.sendOk t.io then
    (true, { t with
      io := t.io + 1
      log := .sent msg (.tcp t.dialog.tcpFlow.connection) t.clock :: t.log })
  else (false, { t with io := t.io + 1 })

/-- `send_sip_tcp_bytes_`: without a usable connection the record is queued for the next one. -/
def sendSipTcp (w : World) (msg : SipMessage) (t : Transport) : Bool × Transport :=
  let flow := t.dialog.tcpFlow
  if flow.open_ = false ∨ flow.closeRequested = true ∨ flow.connectRequested = true then
    if t.dialog.remoteSipTcp = true ∧ flow.pending = none then
      (true, (t.record (.queued msg)).setTcpFlow { flow with pending := some msg })
    else (false, t)
  else t.sendSipTcpRecord w msg

/-- `send_sip_`. -/
def sendSip (w : World) (msg : SipMessage) (ip : UInt32) (port : UInt16) (t : Transport) :
    Bool × Transport :=
  if t.dialog.remoteSipTcp then t.sendSipTcp w msg else t.sendSipUdp w msg ip port

/-! ## Requests -/

/-- `SipRequestOptions`, without the output argument. -/
structure SipRequestOptions where
  /-- 0 takes the next number of the dialog. -/
  cseqNumber : UInt32 := 0
  cseqMethod : Option Method := none
  branchOverride : String := ""
  rememberTransaction : Bool := true
  rememberInviteAck : Bool := true
  subscription : Option Subscription := none
  contentType : String := "application/sdp"
  deriving DecidableEq, Repr

/-- A fresh client transaction of our own. -/
def newTransaction (request : SipMessage) (ip : UInt32) (port : UInt16) (t : Transport) :
    UdpTransaction :=
  { request := request
    ip := ip
    port := port
    nextMs := t.now + UInt32.ofNat sipT1Ms
    deadlineMs := t.now + UInt32.ofNat sipTransactionTimeoutMs
    udp := !t.dialog.remoteSipTcp }

/-- `remember_udp_transaction_` for a NOTIFY, which belongs to the transfer. -/
def rememberNotify (txn : UdpTransaction) (t : Transport) : Transport :=
  match t.referDialog with
  | none => t
  | some r =>
    if r.pendingNotify = none then { t with referDialog := some { r with pendingNotify := txn } }
    else { t with referDialog := some { r with pendingNotifyFinal := txn } }

/-- `remember_udp_transaction_`. -/
def rememberUdpTransaction (method : Method) (msg : SipMessage) (ip : UInt32) (port : UInt16)
    (t : Transport) : Transport :=
  if ip = 0 ∨ port = 0 then t
  else
    let txn := t.newTransaction msg ip port
    match method with
    | .notify => t.rememberNotify txn
    | .invite => { t with dialog := { t.dialog with pendingInvite := some txn } }
    | .cancel => { t with dialog := { t.dialog with pendingCancel := some txn } }
    | .bye => { t with dialog := { t.dialog with pendingBye := some txn } }
    | .update => { t with dialog := { t.dialog with pendingUpdate := some txn } }
    | _ => t

/-- `remember_completed_invite_ack_`. -/
def rememberCompletedInviteAck (ack : SipMessage) (ip : UInt32) (port : UInt16)
    (t : Transport) : Transport :=
  if ip = 0 ∨ port = 0 then t
  else { t with dialog := { t.dialog with
    completedInviteClient := some
      { callId := t.dialog.callId
        branch := t.dialog.branch
        ack := ack
        cseq := t.dialog.inviteCseq
        responseIp := t.dialog.remoteIp
        ackIp := ip
        ackPort := port
        completedMs := t.now
        udp := !t.dialog.remoteSipTcp
        connection := t.connectionNumber } } }

/-- The branch of a request: an INVITE and its CANCEL share the dialog's. -/
def requestBranch (w : World) (method : Method) (options : SipRequestOptions) (t : Transport) :
    String × Transport :=
  if options.branchOverride ≠ "" then (options.branchOverride, t)
  else if method = .invite ∨ method = .cancel then
    if t.dialog.branch = "" then
      let fresh := t.makeToken w "z9hG4bK"
      (fresh.1, { fresh.2 with dialog := { fresh.2.dialog with branch := fresh.1 } })
    else (t.dialog.branch, t)
  else t.makeToken w "z9hG4bK"

/-- The request URI: the remote target, else the remote URI, else the peer's address. -/
def requestUri (d : Dialog) : SipUri :=
  if d.remoteTargetUri ≠ {} then d.remoteTargetUri
  else if d.remoteUri.uri ≠ {} then d.remoteUri.uri
  else { user := "voip", host := .ip d.remoteIp }

/-- The next hop: over UDP a request URI with an address retargets it. -/
def requestTarget (d : Dialog) : UInt32 × UInt16 :=
  if d.remoteSipTcp then (d.remoteIp, d.remoteSipPort)
  else (requestUri d).target.getD (d.remoteIp, d.remoteSipPort)

/-- The contact that a message carries. -/
def contactOf (d : Dialog) : NameAddr :=
  if d.localContactUri = {} then d.localUri else d.localContactUri

/-- The message that `send_request_` formats. -/
def buildRequest (w : World) (method : Method) (body : String) (options : SipRequestOptions)
    (branch : String) (d : Dialog) : SipMessage :=
  { start := .request method (requestUri d)
    via := [{ text := w.localIp d.remoteIp, branch := some branch, rport := true }]
    fromAddr := some { d.localUri with tag := d.localTag }
    toAddr := some { d.remoteUri with tag := d.remoteTag }
    callId := d.callId
    cseq := some
      { number := if options.cseqNumber = 0 then d.cseq else options.cseqNumber
        method := options.cseqMethod.getD method }
    contact := some (contactOf d)
    supportsFromChange := true
    xCaller := if method = .invite then d.caller else {}
    xDest := if method = .invite then d.destination else {}
    subscription := options.subscription
    contentType := if body = "" then "" else options.contentType
    body := body }

/-- The formatting part of `send_request_`: choose the branch and take a sequence number. -/
def formatRequest (w : World) (method : Method) (body : String) (options : SipRequestOptions)
    (t : Transport) : SipMessage × Transport :=
  let branch := t.requestBranch w method options
  let d := branch.2.dialog
  let msg := buildRequest w method body options branch.1 d
  (msg, { branch.2.record (.requested msg) with dialog := { d with
    cseq := if options.cseqNumber = 0 then d.cseq + 1 else d.cseq } })

/-- The methods whose requests are remembered as transactions. -/
def isTransactionRequest (method : Method) : Bool :=
  match method with
  | .invite | .cancel | .bye | .update | .notify => true
  | _ => false

/-- The part of `send_request_` after formatting. -/
def transmitRequest (w : World) (method : Method) (options : SipRequestOptions)
    (msg : SipMessage) (ip : UInt32) (port : UInt16) (t : Transport) : Bool × Transport :=
  let t := if method = .ack ∧ options.rememberInviteAck = true
    then t.rememberCompletedInviteAck msg ip port else t
  let remembered := options.rememberTransaction && isTransactionRequest method
  let retried := remembered && !t.dialog.remoteSipTcp
  let sent := t.sendSip w msg ip port
  if sent.1 || retried then
    let t := if sipEventFromMethod method = .none then sent.2
      else sent.2.markSipEvent (sipEventFromMethod method) 0
    (true, if remembered then t.rememberUdpTransaction method msg ip port else t)
  else (false, sent.2)

/-- `send_request_`, which also returns the request once it is formatted. -/
def sendRequestFormatted (w : World) (method : Method) (body : String)
    (options : SipRequestOptions) (t : Transport) : Bool × Option SipMessage × Transport :=
  if t.dialog.remoteIp = 0 ∨ t.dialog.remoteSipPort = 0 ∨ t.dialog.callId = "" then
    (false, none, t)
  else
    let target := requestTarget t.dialog
    let formatted := t.formatRequest w method body options
    let sent := formatted.2.transmitRequest w method options formatted.1 target.1 target.2
    (sent.1, some formatted.1, sent.2)

/-- `send_request_`. -/
def sendRequest (w : World) (method : Method) (body : String) (options : SipRequestOptions)
    (t : Transport) : Bool × Transport :=
  let r := t.sendRequestFormatted w method body options
  (r.1, r.2.2)

/-- `send_invite_error_ack_`: the ACK of a non-2xx response reuses the INVITE's branch. -/
def sendInviteErrorAck (w : World) (t : Transport) : Bool × Transport :=
  if t.dialog.branch = "" then (false, t)
  else t.sendRequest w .ack "" { cseqNumber := t.dialog.inviteCseq, cseqMethod := some .ack,
                                 branchOverride := t.dialog.branch }

/-- `send_connected_identity_update_`. -/
def sendConnectedIdentityUpdate (w : World) (t : Transport) : Bool × Transport :=
  if t.dialog.dialogOriginated = true ∨ t.dialog.connectedIdentitySent = true ∨
      t.dialog.peerSupportsFromChange = false ∨ t.mediaActive = false then (false, t)
  else
    let sent := t.sendRequest w .update "" {}
    if sent.1 then
      (true, { sent.2 with dialog := { sent.2.dialog with connectedIdentitySent := true } })
    else (false, sent.2)

/-! ## Responses -/

/-- The headers that a response copies from its request. -/
structure ResponseHead where
  via : List Via
  fromAddr : Option NameAddr
  toAddr : Option NameAddr
  callId : String
  cseq : Option CSeq

/-- `format_response_` for a given local tag. -/
def buildResponse (status : Nat) (phrase : String) (head : ResponseHead) (appReason body : String)
    (contact : Option NameAddr) (stateless : Bool) (retryAfter : Option UInt32) : SipMessage :=
  let reason := if stateless = false ∨ 300 ≤ status then appReason else ""
  { start := .response status phrase
    via := head.via
    fromAddr := head.fromAddr
    toAddr := head.toAddr
    callId := head.callId
    cseq := head.cseq
    contact := contact
    supportsFromChange := (head.cseq.getD {}).method == .invite && 100 < status && status < 300
    declineReason := reason
    reasonText := reason
    retryAfter := retryAfter
    contentType := if body = "" then "" else "application/sdp"
    body := body }

/-- The local tag, made up when there is none. -/
def ensureLocalTag (w : World) (t : Transport) : Transport :=
  if t.dialog.localTag = "" then
    let tag := t.makeToken w "tag"
    { tag.2 with dialog := { tag.2.dialog with localTag := tag.1 } }
  else t

/-- The `To` header of a response that adds the local tag where the request has none. -/
def taggedTo (d : Dialog) (toAddr : Option NameAddr) : Option NameAddr :=
  toAddr.map fun a => if a.tag = "" then { a with tag := d.localTag } else a

/-- `defer_udp_provisional_response_`. -/
def deferUdpProvisionalResponse (response : SipMessage) (ip : UInt32) (port : UInt16)
    (t : Transport) : Transport :=
  if ip = 0 ∨ port = 0 then t
  else
    { t with
      pendingProvisionalResponse := some
        { response := response
          ip := ip
          port := port
          nextMs := t.now + 20
          deadlineMs := t.now + UInt32.ofNat sipT2Ms } }

/-- The methods whose final responses are kept for replay. -/
def isRememberedMethod (method : Method) : Bool :=
  match method with
  | .invite | .cancel | .bye | .update | .refer => true
  | _ => false

/-- The active UAS final response is not evicted by another one before its ACK. -/
def keepsActiveInvite (d : Dialog) (callId : String) (cseq : UInt32) (branch : String) : Bool :=
  match d.completedInvite with
  | none => false
  | some c => c.awaitingAck && c.callId == d.callId && d.lastInviteCseqNumber != 0 &&
      (c.callId != callId || c.cseq != cseq || c.branch != branch)

/-- The record that `remember_completed_response_` makes. -/
def completedTransaction (callId : String) (cseq : UInt32) (branch : String) (ip : UInt32)
    (port : UInt16) (method : Method) (response : SipMessage) (t : Transport) :
    CompletedServerTransaction :=
  { method := method
    callId := callId
    branch := branch
    fromTag := response.fromTag
    toTag := response.toTag
    response := response
    cseq := cseq
    peerIp := ip
    peerPort := port
    status := response.status
    completedMs := t.now
    nextRetransmitMs := t.now + UInt32.ofNat sipT1Ms
    deadlineMs := t.now + UInt32.ofNat sipTransactionTimeoutMs
    udp := !t.dialog.remoteSipTcp
    awaitingAck := method == .invite
    connection := t.connectionNumber }

/-- `remember_completed_response_` for a request with this Call-ID, CSeq number and branch. -/
def rememberCompletedResponse (callId : String) (cseq : UInt32) (branch : String) (ip : UInt32)
    (port : UInt16) (method : Method) (response : SipMessage) (t : Transport) : Transport :=
  if ip = 0 ∨ port = 0 ∨ isRememberedMethod method = false ∨ response.status < 200 ∨
      699 < response.status ∨ callId = "" ∨ cseq = 0 then t
  else
    let completed := t.completedTransaction callId cseq branch ip port method response
    if method = .invite then
      if keepsActiveInvite t.dialog callId cseq branch then t
      else { t with dialog := { t.dialog with completedInvite := some completed } }
    else { t with dialog := { t.dialog with completedControl := some completed } }

/-- The response that `send_response_` formats, once there is a local tag. -/
def buildInviteResponse (status : Nat) (phrase body appReason : String) (d : Dialog) :
    SipMessage :=
  buildResponse status phrase
    { via := responseViaWithRport d.lastInviteVia d.lastInvitePeerIp d.lastInvitePeerPort
      fromAddr := d.lastInviteFrom
      toAddr := if status = 100 then d.lastInviteTo else taggedTo d d.lastInviteTo
      callId := d.callId
      cseq := d.lastInviteCseq }
    appReason body (some (contactOf d)) false none

/-- Whether formatting a response to the last INVITE needs the local tag. -/
def needsLocalTag (status : Nat) (toAddr : Option NameAddr) : Bool :=
  status ≠ 100 && (toAddr.getD {}).tag == ""

/-- The response is the last one to the last INVITE. -/
def keepLastResponse (msg : SipMessage) (t : Transport) : Transport :=
  { t with
    pendingProvisionalResponse := none
    dialog := { t.dialog with
      lastInviteResponse := some msg
      lastResponseFlow := t.path t.dialog.lastInvitePeerIp t.dialog.lastInvitePeerPort } }

/-- The part of `send_response_` that owns a final response before it is sent. -/
def ownFinalResponse (msg : SipMessage) (t : Transport) : Transport :=
  let d := t.dialog
  (t.keepLastResponse msg).rememberCompletedResponse d.callId (d.lastInviteCseq.getD {}).number
    (viaBranch (d.lastInviteVia.take 1)) d.lastInvitePeerIp d.lastInvitePeerPort .invite msg

/-- The final response is the one that is kept until its ACK. -/
def ownsFinalResponse (msg : SipMessage) (d : Dialog) : Bool :=
  match d.completedInvite with
  | none => false
  | some c => c.awaitingAck && c.response == msg

/-- The final branch of `send_response_`, for a formatted response. -/
def sendFinalInviteResponse (w : World) (status : Nat) (msg : SipMessage) (t : Transport) :
    Bool × Transport :=
  let t := t.ownFinalResponse msg
  let sent := t.sendSip w msg t.dialog.lastInvitePeerIp t.dialog.lastInvitePeerPort
  if sent.1 = true ∨ ownsFinalResponse msg t.dialog = true then
    (true, sent.2.markSipEvent .response status)
  else (false, sent.2)

/-- The provisional branch of `send_response_`: over UDP a failed send is retried. -/
def sendProvisionalInviteResponse (w : World) (status : Nat) (msg : SipMessage)
    (t : Transport) : Bool × Transport :=
  let t := t.keepLastResponse msg
  let sent := t.sendSip w msg t.dialog.lastInvitePeerIp t.dialog.lastInvitePeerPort
  if sent.1 then (true, sent.2.markSipEvent .response status)
  else if sent.2.dialog.remoteSipTcp then (false, sent.2)
  else
    (true, (sent.2.deferUdpProvisionalResponse msg t.dialog.lastInvitePeerIp
      t.dialog.lastInvitePeerPort).markSipEvent .response status)

/-- `remember_completed_response_` does not keep a final response to the last INVITE. -/
def losesFinal (status : Nat) (d : Dialog) : Bool :=
  decide (699 < status) || d.callId == "" || (d.lastInviteCseq.getD {}).number == 0 ||
    keepsActiveInvite d d.callId (d.lastInviteCseq.getD {}).number
      (viaBranch (d.lastInviteVia.take 1))

/-- A BYE of the dialog is outstanding, or waits for its connection. -/
def byeOutstanding (d : Dialog) : Bool :=
  d.pendingBye.isSome || d.tcpFlow.pending.elim false fun m => m.method == .bye

/-- The last INVITE has had its final response. -/
def finallyAnswered (d : Dialog) : Bool :=
  d.lastInviteResponse.elim false fun r =>
    decide (200 ≤ r.status) && r.cseqNumber == d.lastInviteCseqNumber

/-- `send_response_`: a response to the last INVITE of the dialog. -/
def sendResponse (w : World) (status : Nat) (phrase body appReason : String) (t : Transport) :
    Bool × Transport :=
  if t.dialog.lastInvitePeerIp = 0 ∨ t.dialog.lastInvitePeerPort = 0 ∨
      t.dialog.lastInviteVia = [] then (false, t)
  else
    let t := if needsLocalTag status t.dialog.lastInviteTo then t.ensureLocalTag w else t
    let msg := buildInviteResponse status phrase body appReason t.dialog
    let t := t.record (.responded msg (finallyAnswered t.dialog) (byeOutstanding t.dialog)
      (losesFinal status t.dialog) t.clock)
    if 200 ≤ status then t.sendFinalInviteResponse w status msg
    else t.sendProvisionalInviteResponse w status msg

/-- The `To` header of a stateless response: only a cached one gets a tag. -/
def statelessTo (w : World) (request : SipMessage) (cache : Bool) (t : Transport) :
    Option NameAddr × Transport :=
  if cache && request.toTag == "" then
    if request.cseqMethod = .invite ∨ t.dialog.localTag = "" then
      let tag := t.makeToken w "tag"
      (request.toAddr.map fun a => { a with tag := tag.1 }, tag.2)
    else (request.toAddr.map fun a => { a with tag := t.dialog.localTag }, t)
  else (request.toAddr, t)

/-- The response that `send_stateless_response_` formats. -/
def buildStatelessResponse (request : SipMessage) (src : Peer) (toAddr : Option NameAddr)
    (status : Nat) (phrase appReason : String) (retryAfter : Option UInt32) (d : Dialog) :
    SipMessage :=
  let method := request.cseqMethod
  buildResponse status phrase
    { via := responseViaWithRport request.via src.ip src.port
      fromAddr := request.fromAddr
      toAddr := toAddr
      callId := request.callId
      cseq := request.cseq }
    appReason ""
    (if (method = .update ∨ method = .refer) ∧ 200 ≤ status ∧ status < 300
      then some (contactOf d) else none) true retryAfter

/-- The record in which a final response to `method` is kept. -/
def completedRecord (method : Method) (d : Dialog) : Option CompletedServerTransaction :=
  if method = .invite then d.completedInvite else d.completedControl

/-- Keeping the response to this request displaces a final response that awaits its ACK. -/
def evictsFinal (request : SipMessage) (d : Dialog) : Bool :=
  request.cseqMethod == .invite && (d.completedInvite.elim false fun c => c.awaitingAck) &&
    !keepsActiveInvite d request.callId request.cseqNumber request.topBranch

/-- The part of `send_stateless_response_` after formatting. -/
def transmitStateless (w : World) (request : SipMessage) (src : Peer) (status : Nat)
    (cache : Bool) (msg : SipMessage) (t : Transport) : Bool × Transport :=
  let cached := cache && 200 ≤ status
  let t := t.record (.refused msg (cached && evictsFinal request t.dialog))
  let t := if cached then t.rememberCompletedResponse request.callId request.cseqNumber
    request.topBranch src.ip src.port request.cseqMethod msg else t
  let owned := cached && match completedRecord request.cseqMethod t.dialog with
    | none => false
    | some c => c.udp && c.response == msg
  let sent := t.sendSip w msg src.ip src.port
  if sent.1 || owned then (true, sent.2.markSipEvent .response status) else (false, sent.2)

/-- `send_stateless_response_`. -/
def sendStatelessResponse (w : World) (request : SipMessage) (src : Peer) (status : Nat)
    (phrase appReason : String) (cache : Bool) (retryAfter : Option UInt32) (t : Transport) :
    Bool × Transport :=
  if request.via = [] ∨ request.fromAddr = none ∨ request.toAddr = none ∨ request.callId = "" ∨
      request.cseq = none then (false, t)
  else
    let tagged := t.statelessTo w request cache
    tagged.2.transmitStateless w request src status cache
      (buildStatelessResponse request src tagged.1 status phrase appReason retryAfter
        tagged.2.dialog)

/-- A stateless response without an application reason that is not kept. -/
def reject (w : World) (request : SipMessage) (src : Peer) (status : Nat) (phrase : String)
    (t : Transport) : Bool × Transport :=
  t.sendStatelessResponse w request src status phrase "" false none

/-! ## Replay -/

/-- A record has outlived its transaction. -/
def outlived (completedMs : UInt32) (t : Transport) : Bool :=
  sipTransactionTimeoutMs < (t.now - completedMs).toNat

/-- A record keeps the response to this request. -/
def recordMatches (request : SipMessage) (src : Peer) (method : Method) (incomingUdp : Bool)
    (c : CompletedServerTransaction) : Bool :=
  c.method == method && c.callId == request.callId && c.cseq == request.cseqNumber &&
    request.cseqMethod == method && c.peerIp == src.ip && c.udp == incomingUdp &&
    (c.branch == "" || c.branch == request.topBranch)

/-- Send a message again that was kept for the path `recorded`. -/
def sendAgain (w : World) (recorded : Flow) (msg : SipMessage) (ip : UInt32) (port : UInt16)
    (t : Transport) : Bool × Transport :=
  let sent := t.sendSip w msg ip port
  (sent.1, sent.2.noteRepeated sent.1 recorded (t.path ip port))

/-- Send a kept message again, over the transport on which the peer asked. -/
def resend (w : World) (incomingUdp : Bool) (recorded : Flow) (msg : SipMessage) (ip : UInt32)
    (port : UInt16) (t : Transport) : Transport :=
  if incomingUdp then
    let sent := t.sendSipUdp w msg ip port
    sent.2.noteRepeated sent.1 recorded (.udp ip port)
  else (t.sendAgain w recorded msg ip port).2


/-- Where a kept server transaction lies. -/
inductive RecordSlot where
  | acceptedRefer
  | invite
  | control
  | retiredAccepted (i : Nat)
  | retiredControl (i : Nat)
  deriving DecidableEq, Repr

/-- The record in a slot. -/
def recordIn (slot : RecordSlot) (t : Transport) : Option CompletedServerTransaction :=
  match slot with
  | .acceptedRefer => t.referDialog.bind ReferDialog.acceptedRefer
  | .invite => t.dialog.completedInvite
  | .control => t.dialog.completedControl
  | .retiredAccepted i => (t.completedRefers.getD i none).bind CompletedRefer.accepted
  | .retiredControl i => (t.completedRefers.getD i none).bind CompletedRefer.control

/-- Change what is kept of one finished transfer. -/
def modifyRetired (i : Nat) (f : CompletedRefer → CompletedRefer) (t : Transport) : Transport :=
  { t with completedRefers := t.completedRefers.modify i (Option.map f) }

/-- Clear the record in a slot. -/
def clearRecord (slot : RecordSlot) (t : Transport) : Transport :=
  match slot with
  | .acceptedRefer =>
    { t with referDialog := t.referDialog.map fun r => { r with acceptedRefer := none } }
  | .invite => { t with dialog := { t.dialog with completedInvite := none } }
  | .control => { t with dialog := { t.dialog with completedControl := none } }
  | .retiredAccepted i => t.modifyRetired i fun c => { c with accepted := none }
  | .retiredControl i => t.modifyRetired i fun c => { c with control := none }

/-- Drop a record that has outlived its transaction. -/
def dropRecord (slot : RecordSlot) (t : Transport) : Transport :=
  match slot with
  | .invite =>
    (t.clearRecord .invite).record (.recordLost true
      (t.dialog.completedInvite.elim false fun c => c.awaitingAck) t.dialog.terminateAfterInviteAck)
  | slot => t.clearRecord slot

/-- A retired transfer keeps the response to this request. -/
def retiredMatches (request : SipMessage) (method : Method) (now : UInt32)
    (entry : Option CompletedRefer) : Bool :=
  match entry with
  | none => false
  | some e =>
    !timeReached now e.expiresMs &&
      match (if method = .refer then e.accepted else e.control) with
      | none => false
      | some c => c.method == method && c.callId == request.callId &&
          c.cseq == request.cseqNumber

/-- The record that `replay_completed_response_` looks at. -/
def replaySlot (request : SipMessage) (method : Method) (t : Transport) : RecordSlot :=
  match t.completedRefers.findIdx? (retiredMatches request method t.now) with
  | some i => if method = .refer then .retiredAccepted i else .retiredControl i
  | none =>
    if method = .refer ∧ t.referDialog.isSome = true then .acceptedRefer
    else if method = .invite then .invite else .control

/-- `replay_completed_response_`. -/
def replayCompletedResponse (w : World) (request : SipMessage) (src : Peer) (method : Method)
    (incomingUdp : Bool) (t : Transport) : Bool × Transport :=
  let slot := t.replaySlot request method
  if request.replayFramed = false then (false, t)
  else match t.recordIn slot with
    | none => (false, t)
    | some c =>
      if t.outlived c.completedMs then (false, t.dropRecord slot)
      else if recordMatches request src method incomingUdp c then
        (true, t.resend w incomingUdp c.flow c.response src.ip src.port)
      else (false, t)

/-- A retired transfer keeps the ACK for this response. -/
def retiredAckMatches (response : SipMessage) (now : UInt32) (entry : Option CompletedRefer) :
    Bool :=
  match entry with
  | none => false
  | some e => !timeReached now e.expiresMs &&
      (match e.invite with
        | none => response.callId == ""
        | some c => c.callId == response.callId)

/-- A kept ACK answers this final response. -/
def ackMatches (response : SipMessage) (src : Peer) (incomingUdp : Bool)
    (c : CompletedInviteClientTransaction) : Bool :=
  200 ≤ response.status && response.cseqMethod == .invite && response.callId == c.callId &&
    response.cseqNumber == c.cseq && src.ip == c.responseIp && c.udp == incomingUdp &&
    (c.branch == "" || response.topBranch == c.branch)

/-- `replay_completed_invite_ack_`. -/
def replayCompletedInviteAck (w : World) (response : SipMessage) (src : Peer)
    (incomingUdp : Bool) (t : Transport) : Bool × Transport :=
  let retired := t.completedRefers.findIdx? (retiredAckMatches response t.now)
  let record := match retired with
    | some i => (t.completedRefers.getD i none).bind CompletedRefer.invite
    | none => t.dialog.completedInviteClient
  if response.replayFramed = false then (false, t)
  else match record with
    | none => (false, t)
    | some c =>
      if t.outlived c.completedMs then
        (false, match retired with
          | some i => t.modifyRetired i fun e => { e with invite := none }
          | none => { t with dialog := { t.dialog with completedInviteClient := none } })
      else if response.isResponse && ackMatches response src incomingUdp c then
        (true, t.resend w incomingUdp c.flow c.ack c.ackIp c.ackPort)
      else (false, t)

/-! ## The ACK of a final response -/

/-- The ACK belongs to the kept final response. -/
def acknowledges (request : SipMessage) (src : Peer) (tcp : Bool)
    (c : CompletedServerTransaction) : Bool :=
  request.cseqMethod == .ack && request.cseqNumber == c.cseq && request.callId == c.callId &&
    src.ip == c.peerIp && c.udp != tcp && request.fromTag == c.fromTag &&
    request.toTag == c.toTag &&
    (decide (c.status < 300) || c.branch == "" || request.topBranch == c.branch)

/-- What `acknowledge_completed_invite_` reports. -/
structure Acknowledged where
  status : Nat := 0
  terminateAfterAck : Bool := false
  deriving DecidableEq, Repr

/-- `acknowledge_completed_invite_` for a kept response. -/
def acknowledge (c : CompletedServerTransaction) (t : Transport) : Acknowledged × Transport :=
  let terminate := decide (c.status < 300) && t.dialog.terminateAfterInviteAck
  let t := if terminate then t.record (.due t.dialog.callId) else t
  ({ status := c.status, terminateAfterAck := terminate },
    { t with dialog := { t.dialog with
      completedInvite := some { c with awaitingAck := false }
      terminateAfterInviteAck := if terminate then false else t.dialog.terminateAfterInviteAck } })

/-- `acknowledge_completed_invite_`. -/
def acknowledgeCompletedInvite (request : SipMessage) (src : Peer) (t : Transport) :
    Acknowledged × Transport :=
  match t.dialog.completedInvite with
  | none => ({}, t)
  | some c =>
    if timeReached t.now (c.completedMs + UInt32.ofNat sipTransactionTimeoutMs) then
      ({}, t.dropRecord .invite)
    else if acknowledges request src t.dialog.remoteSipTcp c then t.acknowledge c
    else ({}, t)

end Transport

end EsphomeVoip
