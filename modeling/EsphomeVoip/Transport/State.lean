import EsphomeVoip.ForStd.WrapClock
import EsphomeVoip.SipMessage
import EsphomeVoip.Fsm.State

/-! # State of the SIP transport (`sip_transport.h`)

One transport owns one dialog, and during a transfer a second, uncommitted one.  The fields that
`swap_dialog_` exchanges between the two are grouped in `Dialog`, those that `swap_negotiation_`
exchanges in `Negotiation`.  A transaction record that the source clears is an `Option` here.

What the code asks of the world (sockets, random numbers, codec and camera resources, memory, the
SDP module) and how it is built is a parameter, `World`.  A fallible request takes the outcome at
the counter `io`.

Left out: task and socket plumbing, the RTP packets themselves (only the latch that a reset clears
is here), statistics and the diagnostic copies of them, and the entity callbacks that only publish a
sensor. -/

namespace EsphomeVoip

open WrapClock (millis timeReached)

/-! ## Timers -/

/-- `SIP_T1_MS`. -/
def sipT1Ms : Nat := 500

/-- `SIP_T2_MS`. -/
def sipT2Ms : Nat := 4000

/-- `SIP_TRANSACTION_TIMEOUT_MS`: 64*T1. -/
def sipTransactionTimeoutMs : Nat := 32000

/-! ## Transactions -/

/-- A path that a message takes: a datagram to an address, or a stream connection. The numbers of
    the connections are made up here. -/
inductive Flow where
  | udp (ip : UInt32) (port : UInt16)
  | tcp (connection : Nat)
  deriving DecidableEq, Repr

/-- `UdpTransaction`: an outstanding request of ours. -/
structure UdpTransaction where
  request : SipMessage
  ip : UInt32
  port : UInt16
  nextMs : UInt32
  deadlineMs : UInt32
  intervalMs : Nat := sipT1Ms
  retries : Nat := 0
  udp : Bool := true
  completed : Bool := false
  deriving DecidableEq, Repr

/-- `DeferredUdpResponse`: a provisional response whose send failed. -/
structure DeferredUdpResponse where
  response : SipMessage
  ip : UInt32
  port : UInt16
  nextMs : UInt32
  deadlineMs : UInt32
  intervalMs : Nat := 20
  deriving DecidableEq, Repr

/-- `CompletedServerTransaction`: a final response that is kept for replay. -/
structure CompletedServerTransaction where
  method : Method
  callId : String
  branch : String
  fromTag : String
  toTag : String
  response : SipMessage
  cseq : UInt32
  peerIp : UInt32
  peerPort : UInt16
  status : Nat
  completedMs : UInt32
  nextRetransmitMs : UInt32
  deadlineMs : UInt32
  retransmitIntervalMs : Nat := sipT1Ms
  udp : Bool
  awaitingAck : Bool
  /-- The connection that it belongs to. Only the log says anything of it. -/
  connection : Nat := 0
  deriving DecidableEq, Repr

/-- The path that the response was kept for. -/
def CompletedServerTransaction.flow (c : CompletedServerTransaction) : Flow :=
  if c.udp then .udp c.peerIp c.peerPort else .tcp c.connection

/-- `CompletedInviteClientTransaction`: an ACK of ours that is kept for replay. -/
structure CompletedInviteClientTransaction where
  callId : String
  branch : String
  ack : SipMessage
  cseq : UInt32
  responseIp : UInt32
  ackIp : UInt32
  ackPort : UInt16
  completedMs : UInt32
  udp : Bool
  /-- The connection that it belongs to. Only the log says anything of it. -/
  connection : Nat := 0
  deriving DecidableEq, Repr

/-- The path that the ACK was kept for. -/
def CompletedInviteClientTransaction.flow (c : CompletedInviteClientTransaction) : Flow :=
  if c.udp then .udp c.ackIp c.ackPort else .tcp c.connection

/-- `PendingVideoDirectionInvite`, when one is pending. The source has cleared its transaction and
    its sequence number while it waits for a retry. -/
structure PendingVideoDirectionInvite where
  transaction : Option UdpTransaction := none
  branch : String := ""
  offeredSdp : String
  cseq : UInt32 := 0
  sessionVersion : UInt32
  responseDeadlineMs : UInt32 := 0
  retryAtMs : UInt32 := 0
  targetSend : Bool
  previousSend : Bool
  waitingRetry : Bool := false
  retryCount : Nat := 0
  deriving DecidableEq, Repr

/-! ## Dialogs -/

/-- `SipTcpFlow`: one stream connection and the record queued for it. -/
structure TcpFlow where
  open_ : Bool := false
  peerIp : UInt32 := 0
  targetIp : UInt32 := 0
  targetPort : UInt16 := 0
  connectRequested : Bool := false
  closeRequested : Bool := false
  pending : Option SipMessage := none
  /-- A connection attempt is under way, to this address. -/
  connecting : Option (UInt32 × UInt16) := none
  /-- The number of the connection, or of the last one. Only the log says anything of it. -/
  connection : Nat := 0
  deriving DecidableEq, Repr

/-- What `swap_dialog_` exchanges. -/
structure Dialog where
  callId : String := ""
  localTag : String := ""
  remoteTag : String := ""
  branch : String := ""
  localUri : NameAddr := {}
  localContactUri : NameAddr := {}
  remoteUri : NameAddr := {}
  remoteTargetUri : SipUri := {}
  lastInviteVia : List Via := []
  lastInviteFrom : Option NameAddr := none
  lastInviteTo : Option NameAddr := none
  lastInviteCseq : Option CSeq := none
  lastInviteResponse : Option SipMessage := none
  lastInviteCseqNumber : UInt32 := 0
  remoteDialogCseq : UInt32 := 0
  lastInvitePeerIp : UInt32 := 0
  lastInvitePeerPort : UInt16 := 0
  caller : SipIdentity := {}
  destination : SipIdentity := {}
  dialogOriginated : Bool := false
  peerSupportsFromChange : Bool := false
  connectedIdentitySent : Bool := false
  outgoingInvitePending : Bool := false
  cancelRequested : Bool := false
  delayedOfferPending : Bool := false
  terminateAfterInviteAck : Bool := false
  peerDirectionalAudioV1 : Bool := false
  cseq : UInt32 := 1
  inviteCseq : UInt32 := 1
  sdpSessionId : UInt32 := 0
  sdpSessionVersion : UInt32 := 0
  remoteSipTcp : Bool := false
  tcpFlow : TcpFlow := {}
  remoteIp : UInt32 := 0
  remoteSipPort : UInt16 := 5060
  completedInvite : Option CompletedServerTransaction := none
  completedControl : Option CompletedServerTransaction := none
  completedInviteClient : Option CompletedInviteClientTransaction := none
  pendingInvite : Option UdpTransaction := none
  pendingCancel : Option UdpTransaction := none
  pendingBye : Option UdpTransaction := none
  pendingUpdate : Option UdpTransaction := none
  /-- How `lastInviteResponse` was sent. Only the log says anything of it. -/
  lastResponseFlow : Flow := .udp 0 0
  /-- The numbers of the peer's requests that took effect within the dialog, most recent first. No
      function of the model reads it. -/
  accepted : List UInt32 := []
  /-- A BYE of the peer took effect while ours was outstanding. No function of the model reads
      it. -/
  crossed : Bool := false
  deriving DecidableEq, Repr

/-- `RtpAudioPayloads`: payload types and their formats. -/
abbrev RtpAudioPayloads := List (Nat × AudioFormat)

/-- `RtpAudioPayloads::find`. -/
def RtpAudioPayloads.format? (payloads : RtpAudioPayloads) (pt : Nat) : Option AudioFormat :=
  (payloads.find? fun entry => entry.1 == pt).map (·.2)

/-- `RtpAudioPayloads::operator==`, which does not look at the order. -/
def RtpAudioPayloads.same (payloads other : RtpAudioPayloads) : Bool :=
  payloads.length == other.length &&
    payloads.all fun entry => RtpAudioPayloads.format? other entry.1 == some entry.2

/-- `RemoteMediaShape`: the m-lines of the peer's offer. -/
structure RemoteMediaShape where
  lines : List String := []
  audioIndex : Option Nat := none
  videoIndex : Option Nat := none
  overflow : Bool := false
  deriving DecidableEq, Repr

/-- What `swap_negotiation_` exchanges. -/
structure Negotiation where
  selectedTx : AudioFormat := defaultAudioFormat
  selectedRx : AudioFormat := defaultAudioFormat
  txPayloadType : Nat := 96
  rxPayloadType : Nat := 96
  rxPayloads : RtpAudioPayloads := []
  remoteRtpIp : UInt32 := 0
  remoteRtpPort : UInt16 := 0
  mediaShape : RemoteMediaShape := {}
  localOfferedRxPayloads : RtpAudioPayloads := []
  localOfferedTxFormats : AudioFormatList := []
  remoteDirectionalAudioV1 : Bool := false
  localOfferedDirectionalAudioV1 : Bool := false
  deriving DecidableEq, Repr

/-- `VideoCapability`. -/
structure VideoCapability where
  payloadType : Nat := 0
  clockRate : Nat := 90000
  width : Nat := 0
  height : Nat := 0
  maxFps : Nat := 0
  packetizationMode : Nat := 0
  levelAsymmetryAllowed : Bool := false
  encoding : String := ""
  profileLevelId : String := ""
  maxBitrateBps : Nat := 0
  rtcpFeedbackPli : Bool := false
  rtcpFeedbackFir : Bool := false
  deriving DecidableEq, Repr

/-- The negotiated video of a dialog. -/
structure VideoNegotiation where
  offered : Bool := false
  negotiated : Bool := false
  sendEnabled : Bool := false
  receiveEnabled : Bool := false
  remoteIp : UInt32 := 0
  remoteRtpPort : UInt16 := 0
  remoteRtcpIp : UInt32 := 0
  remoteRtcpPort : UInt16 := 0
  capability : VideoCapability := {}
  deriving DecidableEq, Repr

/-- The video part of the transport, in a build with `USE_ESPHOME_VOIP_STACK_VIDEO`. -/
structure Video where
  enabled : Bool := false
  /-- `video_source_` is set. -/
  hasSource : Bool := false
  /-- `video_session_` is set. -/
  hasSession : Bool := false
  sessionRunning : Bool := false
  negotiation : VideoNegotiation := {}
  sendRequested : Bool := true
  pendingDirection : Option PendingVideoDirectionInvite := none
  completedDirection : Option CompletedInviteClientTransaction := none
  confirmedLocalSdp : String := ""
  deriving DecidableEq, Repr

/-- `ReferDialog`: the second dialog of a transfer. -/
structure ReferDialog where
  dialog : Dialog := {}
  negotiation : Negotiation := {}
  ownerCallId : String := ""
  targetUri : SipUri := {}
  ownerInviteEnded : Bool := false
  reporterAvailable : Bool := true
  acceptedRefer : Option CompletedServerTransaction := none
  pendingNotify : Option UdpTransaction := none
  pendingNotifyFinal : Option UdpTransaction := none
  deriving DecidableEq, Repr

/-- `CompletedRefer`: what is kept of a finished transfer. -/
structure CompletedRefer where
  accepted : Option CompletedServerTransaction
  control : Option CompletedServerTransaction
  invite : Option CompletedInviteClientTransaction
  expiresMs : UInt32
  deriving DecidableEq, Repr

/-! ## The transport -/

/-- The source of the first valid RTP packet: `latched_rtp_ip_v4_`, `latched_rtp_port_` and
    `latched_rtp_ssrc_`. -/
structure RtpLatch where
  ip : UInt32
  port : UInt16
  ssrc : UInt32
  deriving DecidableEq, Repr

/-- `SipEvent`. -/
inductive SipEvent where
  | none | invite | ack | cancel | bye | options | update | response
  deriving DecidableEq, Repr

/-- `MediaLifecyclePhase`. -/
inductive MediaLifecyclePhase where
  | idle | active | cleaning | shuttingDown | prepared
  deriving DecidableEq, Repr

/-- The number that `snapshot()` reports for a phase. -/
def MediaLifecyclePhase.code : MediaLifecyclePhase → Nat
  | .idle => 0
  | .active => 1
  | .cleaning => 2
  | .shuttingDown => 3
  | .prepared => 4

/-- What happened on the wire, and the decisions that results about runs speak of. No function of
    the model reads it. -/
inductive WireEntry where
  /-- A message left. -/
  | sent (msg : SipMessage) (flow : Flow) (time : Nat)
  /-- A message waits for a connection. -/
  | queued (msg : SipMessage)
  /-- The message that left last, or waits, is a kept one. It was kept for the path `recorded`, and
      was sent by a dialog whose path is `path`. -/
  | repeated (recorded path : Flow)
  /-- A message was handed to the dispatcher. -/
  | received (msg : SipMessage) (src : Peer) (time : Nat)
  /-- `learn_remote_rtp_from_sdp_` accepted the answer that an ACK carried, for the call that the
      call component knows by this name. -/
  | acceptedAnswer (callId : String) (sdp : String)
  /-- A response to the last INVITE of a dialog was formed. That INVITE had its final response
      already (`again`), a BYE of the dialog was outstanding (`ending`), or a final response would
      not be kept for its ACK (`unkept`). -/
  | responded (msg : SipMessage) (again ending unkept : Bool) (time : Nat)
  /-- A response outside of dialogs was formed. Keeping it displaces a final response that awaits
      its ACK (`evicts`). -/
  | refused (msg : SipMessage) (evicts : Bool)
  /-- An INVITE became the last INVITE of a dialog. -/
  | invited (callId : String) (number : UInt32) (branch : String)
  /-- An INVITE of ours is cancelled, after a provisional response to it or not. -/
  | cancelling (provisional : Bool)
  /-- `completed_invite_` was dropped: it had outlived its transaction, or its connection was lost.
      It still awaited an ACK (`awaited`), which a BYE was waiting for (`deferred`). -/
  | recordLost (expired awaited deferred : Bool)
  /-- A dialog was given its Call-ID, which the other dialog of the transfer has too (`clash`). -/
  | named (callId : String) (clash : Bool)
  /-- A command gave a dialog another Call-ID. -/
  | renamed (callId : String)
  /-- A dialog was given up, while its BYE was waiting for an ACK (`deferred`). -/
  | closed (callId : String) (deferred : Bool)
  /-- The ACK that a BYE was waiting for arrived, or is not waited for any longer. -/
  | due (callId : String)
  /-- A request of ours was formed. -/
  | requested (msg : SipMessage)
  /-- A request of the peer took effect within its dialog, where the requests with the numbers
      `before` had taken effect, most recent first. -/
  | tookEffect (number : UInt32) (before : List UInt32)
  /-- A REFER was accepted. -/
  | transferBegun
  /-- The second dialog of a transfer became the owner. -/
  | committed
  deriving DecidableEq, Repr

/-- The entry is a message that left. -/
def WireEntry.isSent : WireEntry → Bool
  | .sent .. => true
  | _ => false

/-- `SipTransport`. -/
structure Transport where
  dialog : Dialog := {}
  negotiation : Negotiation := {}
  referDialog : Option ReferDialog := none
  referContextActive : Bool := false
  referRetiring : Bool := false
  referMediaWaiting : Bool := false
  referCseq : UInt32 := 0
  referExpires : UInt32 := 0
  referSignalType : SipSignalType := .protocolError
  referStatus : Nat := 0
  referSignalPending : Bool := false
  logicalCallId : String := ""
  logicalWireId : String := ""
  referWireId : String := ""
  completedRefers : List (Option CompletedRefer) := [none, none, none, none]
  pendingProvisionalResponse : Option DeferredUdpResponse := none
  offerTxFormats : AudioFormatList := [defaultAudioFormat]
  offerRxFormats : AudioFormatList := [defaultAudioFormat]
  video : Video := {}
  sipPort : UInt16 := 5060
  /-- `sip_socket_` is open. -/
  sipSocketOpen : Bool := true
  running : Bool := true
  stopping : Bool := false
  mediaActive : Bool := false
  phase : MediaLifecyclePhase := .idle
  rtpRunning : Bool := false
  /-- `rtp_task_handle_` is set and the task is not told to terminate. -/
  rtpTaskAvailable : Bool := true
  rtpTaskQuiesced : Bool := true
  rtpSocketOpen : Bool := false
  rtpRxPackets : UInt32 := 0
  /-- `reset_rtp_latch_` clears it. -/
  rtpLatch : Option RtpLatch := none
  /-- Odd while a media proposal is weighed. -/
  mediaProposalEpoch : UInt32 := 0
  lastSipStatusCode : Nat := 0
  lastSipEvent : SipEvent := .none
  /-- The number of stream connections so far. -/
  connections : Nat := 0
  /-- Milliseconds since the clock of `millis()` started. -/
  clock : Nat := 0
  /-- The number of outcomes taken from the world so far. -/
  io : Nat := 0
  /-- Callbacks made and not yet taken by the call component, oldest first. -/
  callbacks : List Callback := []
  /-- Most recent first. -/
  log : List WireEntry := []
  deriving DecidableEq, Repr

/-! ## The world -/

/-- What an SDP function reads besides its arguments. -/
structure SdpContext where
  negotiation : Negotiation
  video : VideoNegotiation
  offerTxFormats : AudioFormatList
  offerRxFormats : AudioFormatList
  peerDirectionalAudioV1 : Bool
  sdpSessionId : UInt32
  sdpSessionVersion : UInt32
  videoSendRequested : Bool
  referContextActive : Bool := false
  /-- The transmit format of the owner, while its transfer makes an offer. -/
  retainedTx : Option AudioFormat
  deriving DecidableEq, Repr

/-- `sip_sdp.cpp`. -/
structure SdpModule where
  /-- `learn_remote_rtp_from_sdp_(sdp, default_ip, remote_is_answer)`. -/
  learn : SdpContext → String → UInt32 → Bool → Bool × Negotiation × VideoNegotiation
  /-- `build_sdp_offer_`, with the local offer it remembers. -/
  offer : SdpContext → UInt32 → String × Negotiation
  /-- `build_sdp_answer_`. -/
  answer : SdpContext → UInt32 → String
  /-- `build_video_direction_offer_` of the confirmed local SDP. -/
  directionOffer : SdpContext → String → Bool → UInt32 → String
  /-- An SDP text has the `a=x-voip-stack-flow:` attribute. -/
  hasFlow : String → Bool

/-- The outside of the transport. -/
structure World where
  /-- The outcome of a socket send. -/
  sendOk : Nat → Bool
  /-- `esp_random()`. -/
  random : Nat → UInt32
  /-- `make_token(kind)`: the kind, a random number and the time. -/
  token : String → Nat → String
  token_ne_empty : ∀ kind n, token kind n ≠ ""
  /-- `local_ip_for_peer_`, `"0.0.0.0"` when there is none. -/
  localIp : UInt32 → String
  /-- `inet_aton` of a host text, 0 when it is no address. -/
  parseIp : String → UInt32
  /-- The outcome of a memory, codec, socket or camera request. -/
  resourceOk : Nat → Bool
  /-- The SDP module. -/
  sdp : SdpModule
  /-- `USE_ESPHOME_VOIP_STACK_SPEAKER`. -/
  speaker : Bool := true
  /-- `USE_ESPHOME_VOIP_STACK_OPUS`. -/
  opus : Bool := false

namespace Transport

/-- What `millis()` returns now. -/
def now (t : Transport) : UInt32 := millis t.clock

/-- Record an entry of the log. -/
def record (e : WireEntry) (t : Transport) : Transport := { t with log := e :: t.log }

/-- A request of the peer took effect within the dialog. -/
def noteAccepted (number : UInt32) (t : Transport) : Transport :=
  { t.record (.tookEffect number t.dialog.accepted) with
    dialog := { t.dialog with accepted := number :: t.dialog.accepted } }

/-- The number of the connection that the dialog sends on, which is the next one when it has none
    that it can send on. -/
def connectionNumber (t : Transport) : Nat :=
  let flow := t.dialog.tcpFlow
  if flow.open_ = false ∨ flow.closeRequested = true ∨ flow.connectRequested = true then
    t.connections + 1
  else flow.connection

/-- The path by which the dialog sends now. -/
def path (ip : UInt32) (port : UInt16) (t : Transport) : Flow :=
  if t.dialog.remoteSipTcp then .tcp t.connectionNumber else .udp ip port

/-- A kept message was sent again, unless it was lost. -/
def noteRepeated (sent : Bool) (recorded path : Flow) (t : Transport) : Transport :=
  if sent then t.record (.repeated recorded path) else t

/-- The other dialog of a transfer has this Call-ID. -/
def clashes (callId : String) (t : Transport) : Bool :=
  t.referDialog.elim false fun r => r.dialog.callId == callId

/-- `esp_random()`. -/
def espRandom (w : World) (t : Transport) : UInt32 × Transport :=
  (w.random t.io, { t with io := t.io + 1 })

/-- `make_token(kind)`. -/
def makeToken (w : World) (kind : String) (t : Transport) : String × Transport :=
  (w.token kind t.io, { t with io := t.io + 1 })

/-- The outcome of a resource request. -/
def resource (w : World) (t : Transport) : Bool × Transport :=
  (w.resourceOk t.io, { t with io := t.io + 1 })

/-- The constructor of `ScopedMediaProposal`. -/
def openProposal (t : Transport) : Transport :=
  { t with mediaProposalEpoch := t.mediaProposalEpoch + 1 }

/-- `ScopedMediaProposal::finish`. -/
def closeProposal (t : Transport) : Transport :=
  { t with mediaProposalEpoch := t.mediaProposalEpoch + 1 }

/-- What the SDP functions read. -/
def sdpContext (t : Transport) : SdpContext :=
  { negotiation := t.negotiation
    video := t.video.negotiation
    offerTxFormats := t.offerTxFormats
    offerRxFormats := t.offerRxFormats
    peerDirectionalAudioV1 := t.dialog.peerDirectionalAudioV1
    sdpSessionId := t.dialog.sdpSessionId
    sdpSessionVersion := t.dialog.sdpSessionVersion
    videoSendRequested := t.video.sendRequested
    referContextActive := t.referContextActive
    retainedTx := if t.referContextActive
      then t.referDialog.map fun r => r.negotiation.selectedTx else none }

/-- `mark_sip_event_`. -/
def markSipEvent (event : SipEvent) (status : Nat) (t : Transport) : Transport :=
  { t with
    lastSipEvent := event
    lastSipStatusCode := if status = 0 then t.lastSipStatusCode else status }

end Transport

/-- `sip_event_from_method_`. -/
def sipEventFromMethod : Method → SipEvent
  | .invite => .invite
  | .ack => .ack
  | .cancel => .cancel
  | .bye => .bye
  | .options => .options
  | .update => .update
  | _ => .none

end EsphomeVoip
