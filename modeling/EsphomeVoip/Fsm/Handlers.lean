import EsphomeVoip.Fsm.State
import EsphomeVoip.Phonebook.Rows

/-! # The call state machine (`voip_fsm.cpp`)

Every member function of the source that moves the call state, in the source's order and under
its name.  `request_call_termination_`, `finish_call_termination_` and `start_call_attempt_`
call each other in the source; `requestCallTerminationWith` takes the middle one as an argument
so that the definitions stay plain functions. -/

namespace EsphomeVoip

namespace VoipStack

variable {τ : Type}

/-! ## Call identity -/

/-- `set_call_identity_`. -/
def setCallIdentity (callId callerRoute callerName destRoute destName : String)
    (s : VoipStack τ) : VoipStack τ :=
  let dialed :=
    if s.current.callId = "" ∨ s.current.callId ≠ callId then
      if callerName = s.deviceName then destName else ""
    else s.current.dialedDestName
  { s with current := ⟨callId, callerRoute, callerName, destRoute, destName, dialed⟩ }

/-- `clear_call_identity_`. -/
def clearCallIdentity (s : VoipStack τ) : VoipStack τ :=
  { s with
    incomingSetupPending := false
    incomingMediaAnswerPending := false
    incomingAnswerAccepted := false
    current := {} }

/-- `set_terminal_response_`. -/
def setTerminalResponse (callId reason : String) (s : VoipStack τ) : VoipStack τ :=
  { s with lastTerminalResponse := ⟨callId, reason, s.millis⟩ }

/-- `clear_terminal_response_`. -/
def clearTerminalResponse (s : VoipStack τ) : VoipStack τ := { s with lastTerminalResponse := {} }

/-- The age that `snapshot_terminal_response_` reports. -/
def terminalResponseAgeMs (s : VoipStack τ) : UInt32 :=
  if s.lastTerminalResponse.ms = 0 then 0xFFFFFFFF else s.millis - s.lastTerminalResponse.ms

/-- `TERMINAL_RESPONSE_REPLAY_MS`. -/
def terminalResponseReplayMs : UInt32 := 1500

/-- `recent_terminal_call_`. -/
def recentTerminalCall (callId : String) (s : VoipStack τ) : Bool :=
  callId ≠ "" && s.lastTerminalResponse.callId == callId &&
    s.terminalResponseAgeMs ≤ terminalResponseReplayMs

/-- `clear_terminal_call_snapshot_`. -/
def clearTerminalCallSnapshot (s : VoipStack τ) : VoipStack τ := { s with lastTerminal := {} }

/-- `publish_last_reason_`. -/
def publishLastReason (reason : String) (s : VoipStack τ) : VoipStack τ :=
  { s with lastReason := reason }

/-! ## Requests to the transport -/

/-- The status that `send_sip_final_response_` chooses for a reason. -/
def finalResponseStatus (reason : String) : Nat :=
  if reason = "media_incompatible" then 488
  else if reason = "cancelled" then 487
  else if reason = "declined" then 603
  else if reason = "media_setup_failed" ∨ reason = "protocol_error" then 500
  else 486

/-- `send_sip_final_response_`. -/
def sendSipFinalResponse (api : TransportApi τ) (callId reason : String) (s : VoipStack τ) :
    Bool × VoipStack τ :=
  s.issue api (.sendFinalResponse callId (finalResponseStatus reason) reason)

/-- `send_sip_answer_`. -/
def sendSipAnswer (api : TransportApi τ) (callId : String) (s : VoipStack τ) :
    Bool × VoipStack τ :=
  s.issue api (.sendAnswer callId s.currentMediaFormats.callerToDest
    s.currentMediaFormats.destToCaller)

/-- `ignore_if_idle_or_stale_`. -/
def ignoreIfIdleOrStale (callId : String) (s : VoipStack τ) : Bool :=
  s.callState == .idle ||
    (callId ≠ "" && s.current.callId ≠ "" && callId ≠ s.current.callId)

/-! ## State helpers -/

/-- `set_current_media_formats_`. -/
def setCurrentMediaFormats (callerToDest destToCaller tx rx : AudioFormat) (s : VoipStack τ) :
    VoipStack τ :=
  { s with currentMediaFormats := ⟨callerToDest, destToCaller, tx, rx⟩ }

/-- `reset_peer_audio_watchdog_`. -/
def resetPeerAudioWatchdog (api : TransportApi τ) (seedFromTransport : Bool) (s : VoipStack τ) :
    VoipStack τ :=
  { s with
    firstAudioReceived := false
    lastPeerAudioMs :=
      if seedFromTransport then (if s.millis = 0 then 1 else s.millis) else 0
    mediaTimeoutRtpRxPackets :=
      if seedFromTransport then api.receivedAudioPackets s.transport else 0 }

/-- `set_audio_devices_active_`. -/
def setAudioDevicesActive (api : TransportApi τ) (on : Bool) (s : VoipStack τ) : VoipStack τ :=
  let changed := s.audioDevicesActive ≠ on
  let s := { s with audioDevicesActive := on }.note (.audioDevices on)
  if changed then s.resetPeerAudioWatchdog api on else s

/-- The peer named in the automations of the current call. -/
def triggerPeer (s : VoipStack τ) : String :=
  let peer :=
    if s.current.callerName = s.deviceName then s.current.destName else s.current.callerName
  if peer = "" then s.phonebook.currentName else peer

/-- `set_call_state_`. -/
def setCallState (newState : CallState) (s : VoipStack τ) : VoipStack τ :=
  if s.callState = newState then s
  else
    let peer := s.triggerPeer
    let s := { s with callState := newState }.note
      (.entered newState s.current s.currentMediaFormats)
    let s := s.defer (.trigger (.stateCallback newState))
    match newState with
    | .idle => s.defer (.trigger .idle)
    | .calling => (s.publishLastReason "").defer (.trigger (.calling peer))
    | .remoteRinging => (s.publishLastReason "").defer (.trigger (.destRinging peer))
    | .ringing => (s.publishLastReason "").defer (.trigger (.ringing peer))
    | .connecting => s.publishLastReason ""
    | .inCall => (s.publishLastReason "").defer (.trigger (.inCall peer))
    | .terminating | .busy | .declined | .cancelled | .mediaIncompatible
    | .transportUnreachable | .authRequiredUnsupported => s

/-- `set_in_call_(true)`. -/
def setInCall (api : TransportApi τ) (s : VoipStack τ) : VoipStack τ :=
  if s.callState = .inCall then s
  else if s.recentTerminalCall s.current.callId then s
  else ((s.setAudioDevicesActive api true).resetPeerAudioWatchdog api true).setCallState .inCall

/-- `set_in_call_(false)`. -/
def setOutOfCall (api : TransportApi τ) (s : VoipStack τ) : VoipStack τ :=
  (s.issue api .stopAudioPath).2

/-! ## Termination -/

/-- `end_call_` for a direct attempt that is retried through Home Assistant: only this attempt
    ends, the user is still placing the same call. -/
def endAttempt (s : VoipStack τ) : VoipStack τ :=
  let s := { s with
    pendingDialplanTarget := ""
    current := { s.current with callId := "" } }
  (s.setCallState .calling).defer .finishCallTermination

/-- The terminal snapshot that `end_call_` takes. -/
def terminalCallSnapshot (s : VoipStack τ) : TerminalCallSnapshot :=
  { callId := s.current.callId
    direction :=
      if s.current.dialedDestName ≠ "" then "outgoing"
      else if s.current.destName ≠ "" ∧ s.current.destName = s.deviceName then "incoming"
      else ""
    callerName := s.current.callerName
    destName :=
      if s.current.dialedDestName ≠ "" then s.current.dialedDestName else s.current.destName
    txAudioFormat := s.currentMediaFormats.tx
    rxAudioFormat := s.currentMediaFormats.rx }

/-- The automation through which `end_call_` reports a reason. -/
def callEndTrigger (reason : CallEndReason) (reasonStr : String) (s : VoipStack τ) : Trigger :=
  if callEndReasonIsFailure reason then .callFailed s.triggerPeer reasonStr
  else .hangup s.triggerPeer reasonStr

/-- `end_call_` for a call that is over. -/
def publishCallEnd (reason : CallEndReason) (reasonStr : String) (s : VoipStack τ) :
    VoipStack τ :=
  let trigger := s.callEndTrigger reason reasonStr
  let s := { s with
    pendingDialplanTarget := ""
    haMediaFallbackPending := false
    lastTerminal := s.terminalCallSnapshot }
  let s := (s.publishLastReason reasonStr).setCallState (terminalStateOf reason)
  (s.defer (.trigger trigger)).clearCallIdentity.defer .finishCallTermination

/-- `end_call_`. -/
def endCall (reason : CallEndReason) (detail : String) (s : VoipStack τ) : VoipStack τ :=
  if s.callState = .idle ∧ s.incomingSetupPending = false then s
  else if reason = .mediaIncompatible ∧ s.haMediaFallbackPending = true then s.endAttempt
  else s.publishCallEnd reason (if detail = "" then callEndReasonToStr reason else detail)

/-- The send callable of `request_call_termination_`. -/
def sendTermination (api : TransportApi τ) (callId detail : String)
    (action : SipTerminationAction) (s : VoipStack τ) : Bool × VoipStack τ :=
  match action with
  | .cancel => s.issue api (.sendCancel callId)
  | .bye => s.issue api (.sendBye callId)
  | .finalResponse => (false, (s.sendSipFinalResponse api callId detail).2)
  | .auto | .none => (false, s)

/-- `request_call_termination_`, with the continuation for an already terminating call. -/
def requestCallTerminationWith (api : TransportApi τ) (finish : VoipStack τ → VoipStack τ)
    (intent : TerminationIntent) (s : VoipStack τ) : VoipStack τ :=
  if callStateIsTerminating s.callState then finish s
  else
    let callId := s.current.callId
    let detail := intent.detail.getD ""
    let snapshot : TerminationSnapshot :=
      { state := s.callState
        transportConnected := api.isConnected s.transport
        hasCallId := callId ≠ ""
        incomingSetupPending := s.incomingSetupPending && callId ≠ "" }
    let disposition :=
      if intent.sipAction = .auto ∧ s.callState = .connecting ∧ s.incomingAnswerAccepted = true
      then { intent with sipAction := .bye } else intent
    dispatchCallTermination snapshot disposition
      (setTerminalResponse callId detail)
      (sendTermination api callId detail)
      (endCall intent.reason detail)
      (fun s => (s.setOutOfCall api).setAudioDevicesActive api false)
      (fun s => (s.issue api .disconnect).2) s

/-! ## Placing a call -/

/-- `can_start_call_`. -/
def canStartCall (api : TransportApi τ) (s : VoipStack τ) : Bool :=
  s.callState == .idle && !(api.snapshot s.transport).terminalTransactionPending

/-- The dial parameters that `start_call_attempt_` takes from a contact. -/
structure DialTarget where
  ip : String := ""
  port : UInt16 := 0
  rtpPort : UInt16 := 0
  sipTcp : Bool := false
  directionalAudioV1 : Bool := false
  deriving DecidableEq, Repr

/-- Where `start_call_attempt_` dials: the selected contact, or the Home Assistant peer. -/
def dialTarget (viaHa : Bool) (s : VoipStack τ) : DialTarget :=
  if viaHa then
    match s.phonebook.find s.haPeerName with
    | some ha => ⟨ha.ip, ha.port, ha.rtpPort, ha.sipTransportTcp, ha.directionalAudioV1⟩
    | none => {}
  else
    match s.phonebook.current with
    | some c => ⟨c.ip, c.port, c.rtpPort, c.endpointType == .sip && c.sipTransportTcp,
        c.directionalAudioV1⟩
    | none => {}

/-- `dest_name` of `start_call_attempt_`. -/
def attemptDestName (viaHa : Bool) (s : VoipStack τ) : String :=
  if viaHa then s.current.destName
  else if s.pendingDialplanTarget ≠ "" then s.pendingDialplanTarget
  else if s.phonebook.currentName = "" then
    (if s.haPeerName = "" then "(unknown)" else s.haPeerName)
  else s.phonebook.currentName

/-- `dest_route` of `start_call_attempt_`. -/
def attemptDestRoute (viaHa : Bool) (s : VoipStack τ) : String :=
  if viaHa then s.current.destRoute
  else if s.pendingDialplanTarget ≠ "" then s.pendingDialplanTarget
  else if s.phonebook.currentRoute = "" then s.attemptDestName viaHa
  else s.phonebook.currentRoute

/-- `caller_route` of `start_call_attempt_`. -/
def attemptCallerRoute (s : VoipStack τ) : String :=
  if s.deviceRouteId = "" then s.deviceName else s.deviceRouteId

/-- `call_id` of `start_call_attempt_`. -/
def attemptCallId (requestedCallId : String) (s : VoipStack τ) : String :=
  if requestedCallId ≠ "" then requestedCallId
  else s.attemptCallerRoute ++ "-" ++ toString s.millis.toNat ++ "-" ++
    toString s.espRandom.toNat ++ "@" ++
    (if s.deviceRouteId = "" then "esp" else s.deviceRouteId)

/-- The identity under which `start_call_attempt_` places a call. -/
structure AttemptIdentity where
  callId : String
  callerRoute : String
  destRoute : String
  destName : String
  deriving DecidableEq, Repr

/-- The identity computed at the start of `start_call_attempt_`. -/
def attemptIdentity (viaHa : Bool) (requestedCallId : String) (s : VoipStack τ) :
    AttemptIdentity :=
  { callId := s.attemptCallId requestedCallId
    callerRoute := s.attemptCallerRoute
    destRoute := s.attemptDestRoute viaHa
    destName := s.attemptDestName viaHa }

/-- `route_via_ha` of `start_call_attempt_`. -/
def attemptRoutesViaHa (viaHa : Bool) (s : VoipStack τ) : Bool :=
  viaHa || (s.haPeerName ≠ "" && s.phonebook.currentName == s.haPeerName)

/-- `start_call_attempt_` without a usable address: a short-lived call that fails at once. -/
def startUnreachableAttempt (api : TransportApi τ) (who : AttemptIdentity) (s : VoipStack τ) :
    VoipStack τ :=
  let s := { s with haMediaFallbackPending := false }.clearTerminalCallSnapshot
  let s := s.setCallIdentity who.callId who.callerRoute s.deviceName who.destRoute who.destName
  let s := s.clearTerminalResponse
  let s := s.setCurrentMediaFormats s.txAudioFormat s.rxAudioFormat s.txAudioFormat
    s.rxAudioFormat
  (s.setCallState .calling).requestCallTerminationWith api id
    { reason := .transportUnreachable, sipAction := .none }

/-- The part of `start_call_attempt_` up to the published `CALLING` state. -/
def announceCallAttempt (api : TransportApi τ) (viaHa : Bool) (dial : DialTarget)
    (who : AttemptIdentity) (s : VoipStack τ) : VoipStack τ :=
  let routeViaHa := s.attemptRoutesViaHa viaHa
  let s := s.clearTerminalCallSnapshot
  let s := (s.issue api (.setSipSignalingTransport dial.sipTcp)).2
  let s := (s.issue api (.setPeerDirectionalAudioV1 dial.directionalAudioV1)).2
  let s := (s.issue api (.setRemote dial.ip dial.port dial.rtpPort)).2
  let s := s.setCallIdentity who.callId who.callerRoute s.deviceName who.destRoute who.destName
  let s := s.clearTerminalResponse
  let remoteUri := "sip:" ++ who.destRoute ++ "@" ++ dial.ip ++ ":" ++ toString dial.port.toNat
  let s := if viaHa then s
    else s.defer (.trigger (.outgoingCall who.callId s.deviceName who.destName remoteUri))
  let s := if routeViaHa then
      s.defer (.trigger (.bridgeRequest who.callId s.deviceName who.destName remoteUri))
    else s
  let s := s.setCurrentMediaFormats s.txAudioFormat s.rxAudioFormat s.txAudioFormat
    s.rxAudioFormat
  let s := (s.setAudioDevicesActive api true).setCallState .calling
  { s with callingStartTime := s.millis, haMediaFallbackPending := false }

/-- The part of `start_call_attempt_` that originates the leg and sends the INVITE. The call is
    `CALLING` at the terminations requested here, so the continuation for a terminating call is
    never taken. -/
def placeCallAttempt (api : TransportApi τ) (dial : DialTarget) (who : AttemptIdentity)
    (s : VoipStack τ) : VoipStack τ :=
  let originated := s.issue api (.originate dial.ip dial.port)
  if originated.1 = false then
    { originated.2 with pendingDialplanTarget := "" }.requestCallTerminationWith api id
      { reason := .transportUnreachable, sipAction := .none }
  else
    let invited := originated.2.issue api
      (.sendInvite who.callId who.callerRoute s.deviceName who.destRoute who.destName)
    let s := { invited.2 with pendingDialplanTarget := "" }
    if invited.1 = false then
      s.requestCallTerminationWith api id { reason := .protocolError, sipAction := .none }
    else s

/-- `start_call_attempt_`. -/
def startCallAttempt (api : TransportApi τ) (viaHa : Bool) (requestedCallId : String)
    (s : VoipStack τ) : VoipStack τ :=
  let dial := s.dialTarget viaHa
  let who := s.attemptIdentity viaHa requestedCallId
  if dial.ip = "" ∨ dial.port = 0 then s.startUnreachableAttempt api who
  else (s.announceCallAttempt api viaHa dial who).placeCallAttempt api dial who

/-- `finish_call_termination_`. -/
def finishCallTermination (api : TransportApi τ) (s : VoipStack τ) : VoipStack τ :=
  let transport := api.snapshot s.transport
  if transport.terminalTransactionPending then s
  else if transport.mediaLifecyclePhase ≠ 0 then s
  else if s.haMediaFallbackPending = true ∧ s.callState = .calling then
    s.startCallAttempt api true ""
  else if callStateIsTerminating s.callState then s.setCallState .idle
  else s

/-- `request_call_termination_`. -/
def requestCallTermination (api : TransportApi τ) (intent : TerminationIntent)
    (s : VoipStack τ) : VoipStack τ :=
  s.requestCallTerminationWith api (finishCallTermination api) intent

/-- `start_with_id_`. -/
def startWithId (api : TransportApi τ) (callId : String) (s : VoipStack τ) : VoipStack τ :=
  if s.canStartCall api then
    { s with
      haMediaFallbackPending := false
      haMediaFallbackAttempted := false }.startCallAttempt api false callId
  else { s with pendingDialplanTarget := "" }

/-- `start`. -/
def start (api : TransportApi τ) (s : VoipStack τ) : VoipStack τ := s.startWithId api ""

/-- `on_call_failed` for a request that is turned down. -/
def refuse (peer reason : String) (s : VoipStack τ) : VoipStack τ := s.defer (.refusal peer reason)

/-- The characters that no target label of `call_` may have. -/
def isTargetDelimiter (c : Char) : Bool :=
  c == '|' || c == ',' || c == ';' || c == '\r' || c == '\n'

/-- `call_`, which `call` calls without a Call-ID and `call_via_ha` with one. -/
def call (api : TransportApi τ) (value callId : String) (s : VoipStack τ) : VoipStack τ :=
  if s.canStartCall api then
    let target := String.ofList (Phonebook.trim value.toList)
    if target = "" then s.refuse "" "Empty target"
    else if target.length > Phonebook.maxNameBytes ∨ target.toList.any isTargetDelimiter = true then
      s.refuse target "Invalid target"
    else match (if callId = "" then s.phonebook.select target else none) with
      | some pb => { s with pendingDialplanTarget := "", phonebook := pb }.start api
      | none =>
        match (if s.haPeerName = "" then none else s.phonebook.select s.haPeerName) with
        | some pb =>
          { s with phonebook := pb, pendingDialplanTarget := target }.startWithId api callId
        | none => s.refuse target ("Contact not found: " ++ target)
  else s

/-! ## User actions -/

/-- `stop`. -/
def stop (api : TransportApi τ) (s : VoipStack τ) : VoipStack τ :=
  if callStateIsActive s.callState then
    s.requestCallTermination api
      { reason := .localHangup, sipAction := .auto, cacheFinalResponse := true }
  else if s.audioDevicesActive then s.setAudioDevicesActive api false
  else s

/-- The part of `complete_incoming_answer_` after the answer was sent: activate the devices,
    admit media and enter the call. -/
def commitIncomingAnswer (api : TransportApi τ) (s : VoipStack τ) : VoipStack τ :=
  let committed := (s.setAudioDevicesActive api true).issue api .commitMediaPath
  if committed.1 = false then
    (committed.2.issue api .abortMediaPath).2.requestCallTermination api
      { reason := .transportUnreachable, sipAction := .bye }
  else committed.2.setInCall api

/-- The part of `complete_incoming_answer_` that sends the answer, when there is one to send. -/
def sendIncomingAnswer (api : TransportApi τ) (sendAnswer : Bool) (callId : String)
    (s : VoipStack τ) : Bool × VoipStack τ :=
  if sendAnswer && callId ≠ "" then
    let r := s.sendSipAnswer api callId
    if r.1 then (true, { r.2 with incomingAnswerAccepted := true }) else (false, r.2)
  else (true, s)

/-- The part of `complete_incoming_answer_` after media was prepared, or left for the answer in
    the peer's ACK. -/
def acceptIncomingAnswer (api : TransportApi τ) (sendAnswer waiting : Bool) (callId : String)
    (s : VoipStack τ) : VoipStack τ :=
  let answered := ({ s with incomingSetupPending := false }.setCallState .connecting
    ).sendIncomingAnswer api sendAnswer callId
  if answered.1 = false then
    (answered.2.issue api .abortMediaPath).2.requestCallTermination api
      { reason := .protocolError, sipAction := .none }
  else if waiting then answered.2
  else answered.2.commitIncomingAnswer api

/-- The part of `complete_incoming_answer_` that prepares media, unless the call waits for the
    answer in the peer's ACK. -/
def prepareIncomingMedia (api : TransportApi τ) (waiting : Bool) (s : VoipStack τ) :
    Bool × VoipStack τ :=
  if waiting then (true, s) else s.issue api .prepareMediaPath

/-- `complete_incoming_answer_`. -/
def completeIncomingAnswer (api : TransportApi τ) (sendAnswer : Bool) (s : VoipStack τ) :
    VoipStack τ :=
  let callId := s.current.callId
  let waiting := sendAnswer && s.incomingMediaAnswerPending
  let prepared := s.prepareIncomingMedia api waiting
  if prepared.1 = false then
    prepared.2.requestCallTermination api
      { reason := .transportUnreachable
        detail := some "media_setup_failed"
        sipAction := if sendAnswer then .finalResponse else .bye
        cacheFinalResponse := sendAnswer }
  else prepared.2.acceptIncomingAnswer api sendAnswer waiting callId

/-- `answer_call`. -/
def answerCall (api : TransportApi τ) (s : VoipStack τ) : VoipStack τ :=
  if s.callState = .ringing ∧ api.isConnected s.transport = true then
    s.completeIncomingAnswer api true
  else s

/-- `decline_call`. -/
def declineCall (api : TransportApi τ) (reason : String) (s : VoipStack τ) : VoipStack τ :=
  match s.callState with
  | .inCall => s.stop api
  | .ringing | .calling | .remoteRinging =>
    s.requestCallTermination api
      { reason := if reason = "" then .localHangup else .declined
        detail := if reason = "" then none else some reason
        sipAction := if s.callState = .ringing then .finalResponse else .cancel
        cacheFinalResponse := true }
  | _ => s

/-- `call_toggle`. -/
def callToggle (api : TransportApi τ) (s : VoipStack τ) : VoipStack τ :=
  if s.callState = .ringing then s.answerCall api
  else if callStateIsActive s.callState then s.stop api
  else s.start api

/-- `next_contact` and `prev_contact`: contact browsing with the given cursor move. -/
def browseContact (move : Phonebook → Phonebook) (s : VoipStack τ) : VoipStack τ :=
  if s.phonebook.entries.isEmpty then s
  else ({ s with phonebook := move s.phonebook }.publishLastReason "").clearTerminalCallSnapshot

/-- `set_contact`. -/
def setContact (name : String) (s : VoipStack τ) : Bool × VoipStack τ :=
  if s.phonebook.entries.isEmpty then (false, s.refuse name ("Contact not found: " ++ name))
  else match s.phonebook.select name with
    | some pb => (true, { s with phonebook := pb })
    | none => (false, s.refuse name ("Contact not found: " ++ name))

/-! ## Signals -/

/-- The `INVITE` case once a common format is known: the call becomes the current one. -/
def adoptInvite (api : TransportApi τ) (msg : SipSignal) (s : VoipStack τ) : VoipStack τ :=
  let s := s.clearTerminalCallSnapshot
  let destRoute := if msg.destRoute = "" then s.attemptCallerRoute else msg.destRoute
  let destName := if msg.destName = "" then s.deviceName else msg.destName
  let s := s.setCallIdentity msg.callId msg.callerRoute msg.callerName destRoute destName
  let s := { s with
    incomingSetupPending := true
    incomingMediaAnswerPending := msg.mediaAnswerPending
    incomingAnswerAccepted := false }.note (.accepted msg)
  let s := s.clearTerminalResponse
  let s := (s.issue api (.setConnectedIdentity
    (if s.deviceRouteId = "" then destRoute else s.deviceRouteId) s.deviceName)).2
  let remoteUri := "sip:" ++ (if msg.callerRoute = "" then msg.callerName else msg.callerRoute)
  s.defer (.trigger (.incomingCall msg.callId msg.callerName destName remoteUri))

/-- The `INVITE` case for a call that is not answered automatically. -/
def ringIncoming (api : TransportApi τ) (callId : String) (s : VoipStack τ) : VoipStack τ :=
  let rung := s.issue api (.sendRinging callId)
  if rung.1 = false then
    rung.2.requestCallTermination api
      { reason := .protocolError
        detail := some "protocol_error"
        sipAction := .finalResponse
        cacheFinalResponse := true }
  else
    { rung.2 with
      ringingStartTime := rung.2.millis
      incomingSetupPending := false }.setCallState .ringing

/-- The `INVITE` case for a call that is not turned away. -/
def acceptInvite (api : TransportApi τ) (msg : SipSignal) (s : VoipStack τ) : VoipStack τ :=
  let s := s.adoptInvite api msg
  if s.autoAnswer then s.completeIncomingAnswer api true else s.ringIncoming api msg.callId

/-- The formats that the `INVITE` case selects, caller to destination first; `none` when the
    offer has no common format. -/
def selectInviteFormats (msg : SipSignal) (tx rx : AudioFormatList) :
    Option (AudioFormat × AudioFormat) :=
  let receive := msg.callerTxFormats ≠ [] && rx ≠ []
  let send := msg.callerRxFormats ≠ [] && tx ≠ []
  if !receive && !send then none
  else
    let toDest := if receive then chooseCommonAudioFormat msg.callerTxFormats rx
      else some disabledAudioFormat
    let toCaller := if send then chooseCommonAudioFormat msg.callerRxFormats tx
      else some disabledAudioFormat
    match toDest, toCaller with
    | some a, some b => some (a, b)
    | _, _ => none

/-- An incoming call is turned away: remember the reason, answer and drop the session. -/
def rejectInvite (api : TransportApi τ) (callId reason : String) (s : VoipStack τ) :
    VoipStack τ :=
  let s := s.setTerminalResponse callId reason
  let s := (s.sendSipFinalResponse api callId reason).2
  (s.issue api .disconnect).2

/-- The `INVITE` case. -/
def onInvite (api : TransportApi τ) (msg : SipSignal) (s : VoipStack τ) : VoipStack τ :=
  if s.callState ≠ .idle then s
  else if s.lastTerminalResponse.callId ≠ "" ∧ msg.callId = s.lastTerminalResponse.callId ∧
      s.terminalResponseAgeMs ≤ terminalResponseReplayMs then
    (s.sendSipFinalResponse api msg.callId s.lastTerminalResponse.reason).2
  else if s.doNotDisturb then s.rejectInvite api msg.callId "busy"
  else match selectInviteFormats msg s.txAudioFormats s.rxAudioFormats with
    | none => s.rejectInvite api msg.callId "media_incompatible"
    | some (callerToDest, destToCaller) =>
      (s.setCurrentMediaFormats callerToDest destToCaller destToCaller callerToDest).acceptInvite
        api msg

/-- The `MEDIA_READY` case. -/
def onMediaReady (api : TransportApi τ) (msg : SipSignal) (s : VoipStack τ) : VoipStack τ :=
  if s.incomingMediaAnswerPending = false ∨ s.callState ≠ .connecting ∨
      msg.callId ≠ s.current.callId then s
  else
    let s := { s with incomingMediaAnswerPending := false }
    if msg.selectedFormatsRejected s.txAudioFormats s.rxAudioFormats then
      s.requestCallTermination api { reason := .mediaIncompatible, sipAction := .bye }
    else
      (s.setCurrentMediaFormats msg.selectedRxFormat msg.selectedTxFormat msg.selectedTxFormat
        msg.selectedRxFormat).completeIncomingAnswer api false

/-- The peer's name in a `CONNECTED_IDENTITY` signal. -/
def connectedPeerName (msg : SipSignal) : String :=
  if msg.connectedName = "" then msg.connectedRoute else msg.connectedName

/-- The `CONNECTED_IDENTITY` case: rename the peer of the current call. -/
def applyConnectedIdentity (msg : SipSignal) (s : VoipStack τ) : VoipStack τ :=
  let call := s.current
  if connectedPeerName msg = "" then s
  else if call.callerName = s.deviceName then
    s.setCallIdentity call.callId call.callerRoute call.callerName
      (if msg.connectedRoute = "" then call.destRoute else msg.connectedRoute)
      (connectedPeerName msg)
  else
    s.setCallIdentity call.callId
      (if msg.connectedRoute = "" then call.callerRoute else msg.connectedRoute)
      (connectedPeerName msg) call.destRoute call.destName

/-- The `CONNECTED_IDENTITY` case. -/
def onConnectedIdentity (api : TransportApi τ) (msg : SipSignal) (s : VoipStack τ) :
    VoipStack τ :=
  if s.ignoreIfIdleOrStale msg.callId then s
  else if msg.mediaSourceChanged then
    (s.resetPeerAudioWatchdog api true).applyConnectedIdentity msg
  else s.applyConnectedIdentity msg

/-- The `STATUS_200_OK` case for a call that is being placed. -/
def onAnswered (api : TransportApi τ) (msg : SipSignal) (s : VoipStack τ) : VoipStack τ :=
  if msg.selectedFormatsRejected s.txAudioFormats s.rxAudioFormats then
    s.requestCallTermination api { reason := .mediaIncompatible, sipAction := .bye }
  else
    let s := s.setCurrentMediaFormats msg.selectedTxFormat msg.selectedRxFormat
      msg.selectedTxFormat msg.selectedRxFormat
    let started := s.issue api .startAudioPath
    if started.1 = false then
      started.2.requestCallTermination api { reason := .transportUnreachable, sipAction := .bye }
    else (started.2.setCallState .connecting).setInCall api

/-- The `STATUS_200_OK` case. -/
def onStatus200Ok (api : TransportApi τ) (msg : SipSignal) (s : VoipStack τ) : VoipStack τ :=
  if msg.callId ≠ "" ∧ (s.recentTerminalCall msg.callId = true ∨
      (s.current.callId ≠ "" ∧ msg.callId ≠ s.current.callId)) then s
  else match s.callState with
    | .calling | .remoteRinging => s.onAnswered api msg
    | .ringing => s.answerCall api
    | .inCall =>
      if s.firstAudioReceived then s else (s.sendSipAnswer api s.current.callId).2
    | _ => s

/-- The reason that a failure signal is given. -/
def failureReason (msg : SipSignal) : CallEndReason :=
  if msg.statusCode = 486 ∨ msg.reason = "busy" then .busy
  else if msg.statusCode = 487 ∨ msg.reason = "cancelled" then .cancelled
  else if msg.statusCode = 488 ∨ msg.reason = "media_incompatible" then .mediaIncompatible
  else if msg.statusCode = 408 ∨ msg.reason = "timeout" then .timeout
  else if msg.statusCode = 401 ∨ msg.reason = "auth_required_unsupported" then
    .authRequiredUnsupported
  else if msg.statusCode = 407 ∨ msg.reason = "proxy_auth_required_unsupported" then
    .proxyAuthRequiredUnsupported
  else if msg.type = .protocolError then .protocolError
  else .declined

/-- The condition under which a failed direct attempt is retried through Home Assistant. -/
def fallbackApplies (reason : CallEndReason) (s : VoipStack τ) : Bool :=
  reason == .mediaIncompatible &&
  (s.callState == .calling || s.callState == .remoteRinging || s.callState == .connecting) &&
  s.current.dialedDestName ≠ "" && !s.haMediaFallbackAttempted &&
  s.haPeerName ≠ "" && s.phonebook.currentName ≠ s.haPeerName &&
  (s.phonebook.find s.haPeerName).isSome

/-- The `FINAL_RESPONSE`, `MEDIA_INCOMPATIBLE`, `AUTH_REQUIRED`, `PROXY_AUTH_REQUIRED` and
    `PROTOCOL_ERROR` cases. -/
def onFailure (api : TransportApi τ) (msg : SipSignal) (s : VoipStack τ) : VoipStack τ :=
  if s.ignoreIfIdleOrStale msg.callId then s
  else
    let reason := failureReason msg
    let detail := if reason = .declined ∧ msg.reason ≠ "" ∧ msg.reason ≠ "declined"
      then msg.reason else ""
    let s := if s.fallbackApplies reason then
        { s with haMediaFallbackPending := true, haMediaFallbackAttempted := true }
      else s
    s.requestCallTermination api
      { reason := reason
        detail := if detail = "" then none else some detail
        sipAction := .none }

/-- `on_sip_signal_received_`. -/
def onSipSignalReceived (api : TransportApi τ) (msg : SipSignal) (s : VoipStack τ) :
    VoipStack τ :=
  let s := s.note (.handled msg)
  match msg.type with
  | .invite => s.onInvite api msg
  | .mediaReady => s.onMediaReady api msg
  | .bye =>
    if s.ignoreIfIdleOrStale msg.callId then s
    else s.requestCallTermination api { reason := .remoteHangup, sipAction := .none }
  | .terminalComplete => s.finishCallTermination api
  | .connectedIdentity => s.onConnectedIdentity api msg
  | .status200Ok => s.onStatus200Ok api msg
  | .cancel =>
    if s.ignoreIfIdleOrStale msg.callId then s
    else s.requestCallTermination api { reason := .cancelled, sipAction := .none }
  | .finalResponse | .mediaIncompatible | .authRequired | .proxyAuthRequired
  | .protocolError => s.onFailure api msg
  | .status180Ringing => if s.callState = .calling then s.setCallState .remoteRinging else s
  | .options => s

/-- `on_connection_change_`, behind the Call-ID check of `transport_connection_callback_`. -/
def onConnectionChange (api : TransportApi τ) (connected : Bool) (callId : String)
    (s : VoipStack τ) : VoipStack τ :=
  -- A disconnect of a retired attempt must not end its successor.
  if connected = false ∧ s.current.callId ≠ callId then s
  else if connected then s
  else if s.haMediaFallbackPending then s.finishCallTermination api
  else if s.callState ≠ .idle then
    s.requestCallTermination api { reason := .transportUnreachable, sipAction := .none }
  else s.setAudioDevicesActive api false

/-- `on_audio_received_` for a frame of the expected size. -/
def onAudioReceived (s : VoipStack τ) : VoipStack τ :=
  if s.callState = .connecting ∨ s.callState = .inCall then
    { s with firstAudioReceived := true, lastPeerAudioMs := s.millis }
  else s

/-! ## Timeouts -/

/-- `INVITE_NO_RESPONSE_TIMEOUT_MS`. -/
def inviteNoResponseTimeoutMs : UInt32 := 5000

/-- `MEDIA_TIMEOUT_MS`. -/
def mediaTimeoutMs : UInt32 := 15000

/-- `fire_unanswered_invite_timeout_`. -/
def fireUnansweredInviteTimeout (api : TransportApi τ) (s : VoipStack τ) : VoipStack τ :=
  s.requestCallTermination api
    { reason := .timeout, detail := some "timeout", sipAction := .none
      cacheFinalResponse := true }

/-- `fire_timeout_decline_`. -/
def fireTimeoutDecline (api : TransportApi τ) (s : VoipStack τ) : VoipStack τ :=
  s.requestCallTermination api
    { reason := .timeout
      detail := some "timeout"
      sipAction := if s.callState = .ringing then .finalResponse else .cancel
      cacheFinalResponse := true }

/-- The media watchdog of `handle_call_timeouts_` takes in the packets seen so far. -/
def refreshMediaWatchdog (rxPackets : UInt32) (s : VoipStack τ) : VoipStack τ :=
  if rxPackets = s.mediaTimeoutRtpRxPackets then s
  else
    { s with
      mediaTimeoutRtpRxPackets := rxPackets
      lastPeerAudioMs := s.millis
      firstAudioReceived := s.firstAudioReceived || rxPackets ≠ 0 }

/-- Whether the media watchdog has run out. -/
def mediaTimedOut (s : VoipStack τ) : Bool :=
  let elapsed := s.millis - s.lastPeerAudioMs
  s.lastPeerAudioMs ≠ 0 && elapsed < 0x80000000 && mediaTimeoutMs ≤ elapsed

/-- The media watchdog of `handle_call_timeouts_`. -/
def handleMediaTimeout (api : TransportApi τ) (s : VoipStack τ) : VoipStack τ :=
  let rxPackets := api.receivedAudioPackets s.transport
  if api.remoteAudioExpected s.transport = false then
    { s with mediaTimeoutRtpRxPackets := rxPackets, lastPeerAudioMs := s.millis }
  else
    let s := s.refreshMediaWatchdog rxPackets
    if s.mediaTimedOut then
      s.requestCallTermination api
        { reason := .mediaTimeout
          detail := some "media_timeout"
          sipAction := .bye
          cacheFinalResponse := true }
    else s

/-- The calling timeout that `loop` passes on: the ringing timeout when none is set. -/
def callingTimeout (s : VoipStack τ) : UInt32 :=
  if s.callingTimeoutMs > 0 then s.callingTimeoutMs else s.ringingTimeoutMs

/-- `handle_call_timeouts_`. -/
def handleCallTimeouts (api : TransportApi τ) (s : VoipStack τ) : VoipStack τ :=
  if s.ringingTimeoutMs > 0 ∧ s.callState = .ringing ∧
      s.ringingTimeoutMs ≤ s.millis - s.ringingStartTime then
    s.fireTimeoutDecline api
  else if s.callState = .calling ∧
      inviteNoResponseTimeoutMs ≤ s.millis - s.callingStartTime ∧
      api.lastSipStatusCode s.transport = 0 then
    s.fireUnansweredInviteTimeout api
  else if s.callingTimeout > 0 ∧ (s.callState = .calling ∨ s.callState = .remoteRinging) ∧
      s.callingTimeout ≤ s.millis - s.callingStartTime then
    s.fireTimeoutDecline api
  else if s.callState = .inCall ∧ s.hasSpeaker = true then s.handleMediaTimeout api
  else s

/-! ## Steps -/

/-- Everything that can happen to the call component. -/
inductive Event (τ : Type) where
  | start
  | call (value callId : String)
  | stop
  | hangupCallIfId (callId : String)
  | answerCall
  | declineCall (reason : String)
  | callToggle
  | nextContact
  | prevContact
  | setContact (name : String)
  | setPhonebook (phonebook : Phonebook)
  | setHaPeerName (name : String)
  | setAutoAnswer (enabled : Bool)
  | setDoNotDisturb (enabled : Bool)
  | runDeferred
  | loop
  | audioFrame
  | advance (millis espRandom : UInt32)
  | transport (t : τ)

/-- Run the oldest deferred function object. -/
def runDeferred (api : TransportApi τ) (s : VoipStack τ) : VoipStack τ :=
  match s.deferred with
  | [] => s
  | d :: rest =>
    let s := { s with deferred := rest }
    match d with
    | .trigger t => s.note (.fired t)
    | .refusal peer reason => s.note (.refused peer reason)
    | .finishCallTermination => s.finishCallTermination api
    | .signal msg => s.onSipSignalReceived api msg
    | .connectionChange connected callId => s.onConnectionChange api connected callId

/-- One step of the call component. -/
def step (api : TransportApi τ) (e : Event τ) (s : VoipStack τ) : VoipStack τ :=
  match e with
  | .start => s.start api
  | .call value callId => s.call api value callId
  | .stop => s.stop api
  | .hangupCallIfId callId =>
    if callId ≠ "" ∧ callId = s.current.callId then s.stop api else s
  | .answerCall => s.answerCall api
  | .declineCall reason => s.declineCall api reason
  | .callToggle => s.callToggle api
  | .nextContact => s.browseContact Phonebook.next
  | .prevContact => s.browseContact Phonebook.prev
  | .setContact name => (s.setContact name).2
  | .setPhonebook phonebook => { s with phonebook := phonebook }
  | .setHaPeerName name => { s with haPeerName := name }
  | .setAutoAnswer enabled => { s with autoAnswer := enabled }
  | .setDoNotDisturb enabled => { s with doNotDisturb := enabled }
  | .runDeferred => s.runDeferred api
  | .loop => s.handleCallTimeouts api
  | .audioFrame => s.onAudioReceived
  | .advance millis espRandom => { s with millis := millis, espRandom := espRandom }
  | .transport t => s.adopt api t

end VoipStack

end EsphomeVoip
