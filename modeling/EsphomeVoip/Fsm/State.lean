import EsphomeVoip.Signal
import EsphomeVoip.Phonebook
import EsphomeVoip.Fsm.Types

/-! # State of the call component (`voip_stack.h`)

The call state machine owns one transport and talks to it only through the virtual methods of
`SipPhoneTransport` and through deferred callbacks.  Both are kept here: a `Command` for every
method the state machine calls, a `Callback` for every notification, and the first-in first-out
queue of `defer()` between them and the main loop.

The transport's own state is a type parameter, so that results about the call state machine hold
for every transport.

Left out: sensor publishing, logging, the media-route projection, and the hardware behind
`set_audio_devices_active_`.  None of them is read back by a function modelled here. -/

namespace EsphomeVoip

/-- The methods of `SipPhoneTransport` that the call state machine calls. -/
inductive Command where
  | sendInvite (callId callerRoute callerName destRoute destName : String)
  | sendRinging (callId : String)
  | sendAnswer (callId : String) (callerToDest destToCaller : AudioFormat)
  | setConnectedIdentity (route name : String)
  | sendCancel (callId : String)
  | sendBye (callId : String)
  | sendFinalResponse (callId : String) (status : Nat) (reason : String)
  | setRemote (ip : String) (port rtpPort : UInt16)
  | setSipSignalingTransport (tcp : Bool)
  | setPeerDirectionalAudioV1 (enabled : Bool)
  | originate (host : String) (port : UInt16)
  | prepareMediaPath
  | commitMediaPath
  | abortMediaPath
  | startAudioPath
  | stopAudioPath
  | disconnect
  deriving DecidableEq, Repr

/-- What the transport reports upwards. -/
inductive Callback where
  | sipSignal (msg : SipSignal)
  | connectionChange (connected : Bool)
  | mediaQuiesced
  deriving DecidableEq, Repr

/-- The fields of `SipTransportSnapshot` that the call state machine reads. -/
structure SipTransportSnapshot where
  terminalTransactionPending : Bool := false
  mediaLifecyclePhase : Nat := 0
  deriving DecidableEq, Repr

/-- `SipPhoneTransport` over a state type: commands, queries, and the callbacks made since they
    were last taken. A command that returns nothing in the source returns `true` here. -/
structure TransportApi (τ : Type) where
  exec : Command → τ → Bool × τ
  isConnected : τ → Bool
  snapshot : τ → SipTransportSnapshot
  receivedAudioPackets : τ → UInt32
  lastSipStatusCode : τ → Nat
  remoteAudioExpected : τ → Bool
  takeCallbacks : τ → List Callback × τ

/-- The user automations that the call state machine fires. -/
inductive Trigger where
  | stateCallback (state : CallState)
  | idle
  | calling (peer : String)
  | destRinging (peer : String)
  | ringing (peer : String)
  | inCall (peer : String)
  | outgoingCall (callId caller destName remoteUri : String)
  | bridgeRequest (callId caller destName remoteUri : String)
  | incomingCall (callId callerName destName remoteUri : String)
  | callFailed (peer reason : String)
  | hangup (peer reason : String)
  deriving DecidableEq, Repr

/-- `on_hangup` and `on_call_failed`: the automations that `end_call_` fires. -/
def Trigger.isCallEnd : Trigger → Bool
  | .callFailed .. | .hangup .. => true
  | _ => false

/-- One function object handed to `defer()`. A `refusal` fires `on_call_failed` for a request that
    `call_` or `set_contact` turns down; it is not about a call. -/
inductive Deferred where
  | trigger (t : Trigger)
  | refusal (peer reason : String)
  | finishCallTermination
  | signal (msg : SipSignal)
  | connectionChange (connected : Bool) (callId : String)
  deriving DecidableEq, Repr

/-- The call-end automation that a function object fires. -/
def Deferred.callEnd : Deferred → Option Trigger
  | .trigger t => if t.isCallEnd then some t else none
  | _ => none

/-- `CallSnapshot`: identity of the current call. -/
structure CallSnapshot where
  callId : String := ""
  callerRoute : String := ""
  callerName : String := ""
  destRoute : String := ""
  destName : String := ""
  dialedDestName : String := ""
  deriving DecidableEq, Repr

/-- `CurrentMediaFormats`. -/
structure CurrentMediaFormats where
  callerToDest : AudioFormat := defaultAudioFormat
  destToCaller : AudioFormat := defaultAudioFormat
  tx : AudioFormat := defaultAudioFormat
  rx : AudioFormat := defaultAudioFormat
  deriving DecidableEq, Repr

/-- `last_terminal_response_*`: the terminal reason cached for a repeated Call-ID. -/
structure TerminalResponse where
  callId : String := ""
  reason : String := ""
  ms : UInt32 := 0
  deriving DecidableEq, Repr

/-- `last_terminal_*`: what is shown about the call that ended last. -/
structure TerminalCallSnapshot where
  callId : String := ""
  direction : String := ""
  callerName : String := ""
  destName : String := ""
  txAudioFormat : AudioFormat := defaultAudioFormat
  rxAudioFormat : AudioFormat := defaultAudioFormat
  deriving DecidableEq, Repr

/-- What has happened so far, most recent first. No function of the model reads it. A command is
    recorded with the Call-ID of the call that was current when it was issued. -/
inductive Entry where
  | issued (callId : String) (command : Command) (ok : Bool)
  | handled (msg : SipSignal)
  | accepted (invite : SipSignal)
  | entered (state : CallState) (call : CallSnapshot) (formats : CurrentMediaFormats)
  | audioDevices (on : Bool)
  | fired (t : Trigger)
  | refused (peer reason : String)
  deriving DecidableEq, Repr

/-- The call-end automation whose firing an entry records. -/
def Entry.callEnd : Entry → Option Trigger
  | .fired t => if t.isCallEnd then some t else none
  | _ => none

/-- `VoipStack`: the call component and the transport it owns. -/
structure VoipStack (τ : Type) where
  transport : τ
  deviceName : String := ""
  deviceRouteId : String := ""
  haPeerName : String := ""
  txAudioFormat : AudioFormat := defaultAudioFormat
  rxAudioFormat : AudioFormat := defaultAudioFormat
  txAudioFormats : AudioFormatList := [defaultAudioFormat]
  rxAudioFormats : AudioFormatList := [defaultAudioFormat]
  hasSpeaker : Bool := true
  ringingTimeoutMs : UInt32 := 0
  callingTimeoutMs : UInt32 := 0
  autoAnswer : Bool := false
  doNotDisturb : Bool := false
  phonebook : Phonebook := {}
  pendingDialplanTarget : String := ""
  callState : CallState := .idle
  incomingSetupPending : Bool := false
  incomingMediaAnswerPending : Bool := false
  incomingAnswerAccepted : Bool := false
  haMediaFallbackPending : Bool := false
  haMediaFallbackAttempted : Bool := false
  current : CallSnapshot := {}
  currentMediaFormats : CurrentMediaFormats := {}
  lastTerminalResponse : TerminalResponse := {}
  lastTerminal : TerminalCallSnapshot := {}
  lastReason : String := ""
  audioDevicesActive : Bool := false
  firstAudioReceived : Bool := false
  lastPeerAudioMs : UInt32 := 0
  mediaTimeoutRtpRxPackets : UInt32 := 0
  callingStartTime : UInt32 := 0
  ringingStartTime : UInt32 := 0
  /-- What `millis()` returns now. -/
  millis : UInt32 := 0
  /-- What the next call of `esp_random()` returns. -/
  espRandom : UInt32 := 0
  /-- The queue of `defer()`, oldest first. -/
  deferred : List Deferred := []
  trace : List Entry := []


namespace VoipStack

variable {τ : Type}

/-- `defer()`. -/
def defer (d : Deferred) (s : VoipStack τ) : VoipStack τ := { s with deferred := s.deferred ++ [d] }

/-- Record an entry of the trace. -/
def note (e : Entry) (s : VoipStack τ) : VoipStack τ := { s with trace := e :: s.trace }

/-- The transport callbacks as `transport_sip_signal_callback_`, `transport_connection_callback_`
    and `transport_media_quiesced_callback_` defer them. -/
def deferredOfCallback (callId : String) : Callback → Deferred
  | .sipSignal msg => .signal msg
  -- A disconnect carries the call it was raised for.
  | .connectionChange connected => .connectionChange connected callId
  | .mediaQuiesced => .finishCallTermination

/-- The transport moves to `t`, and the callbacks it made on the way are deferred. -/
def adopt (api : TransportApi τ) (t : τ) (s : VoipStack τ) : VoipStack τ :=
  let r := api.takeCallbacks t
  { s with
    transport := r.2
    deferred := s.deferred ++ r.1.map (deferredOfCallback s.current.callId) }

/-- Call one method of the transport. -/
def issue (api : TransportApi τ) (c : Command) (s : VoipStack τ) : Bool × VoipStack τ :=
  let r := api.exec c s.transport
  (r.1, (s.adopt api r.2).note (.issued s.current.callId c r.1))

/-- The call-end automations that a trace has fired, oldest first. -/
def firedEnds (trace : List Entry) : List Trigger := trace.reverse.filterMap Entry.callEnd

/-- The call-end automations that a queue still holds, oldest first. -/
def pendingEnds (deferred : List Deferred) : List Trigger := deferred.filterMap Deferred.callEnd

/-- The automations that report a call's end: those already fired, then those still deferred. -/
def callEnds (s : VoipStack τ) : List Trigger := firedEnds s.trace ++ pendingEnds s.deferred

@[simp] theorem firedEnds_cons (e : Entry) (trace : List Entry) :
    firedEnds (e :: trace) = firedEnds trace ++ e.callEnd.toList := by
  cases h : e.callEnd <;> simp [firedEnds, h]

@[simp] theorem pendingEnds_nil : pendingEnds [] = [] := rfl

@[simp] theorem pendingEnds_cons (d : Deferred) (deferred : List Deferred) :
    pendingEnds (d :: deferred) = d.callEnd.toList ++ pendingEnds deferred := by
  cases h : d.callEnd <;> simp [pendingEnds, h]

@[simp] theorem pendingEnds_append (deferred ds : List Deferred) :
    pendingEnds (deferred ++ ds) = pendingEnds deferred ++ pendingEnds ds :=
  List.filterMap_append

/-- What the transport reports is never the end of a call. -/
@[simp] theorem pendingEnds_callbacks (callId : String) (cs : List Callback) :
    pendingEnds (cs.map (deferredOfCallback callId)) = [] := by
  rw [pendingEnds, List.filterMap_eq_nil_iff]
  intro d hd
  obtain ⟨c, -, rfl⟩ := List.mem_map.1 hd
  cases c <;> rfl

end VoipStack

end EsphomeVoip
