/-! # Call states and termination dispatch (`voip_fsm.h`) -/

namespace EsphomeVoip

/-- `CallState`. -/
inductive CallState where
  | idle
  | calling
  | remoteRinging
  | ringing
  | connecting
  | inCall
  | terminating
  | busy
  | declined
  | cancelled
  | mediaIncompatible
  | transportUnreachable
  | authRequiredUnsupported
  deriving DecidableEq, Repr

/-- `CallEndReason`. -/
inductive CallEndReason where
  | localHangup
  | remoteHangup
  | declined
  | timeout
  | busy
  | cancelled
  | transportUnreachable
  | mediaIncompatible
  | mediaTimeout
  | authRequiredUnsupported
  | proxyAuthRequiredUnsupported
  | protocolError
  deriving DecidableEq, Repr

/-- `SipTerminationAction`. -/
inductive SipTerminationAction where
  | auto
  | none
  | cancel
  | bye
  | finalResponse
  deriving DecidableEq, Repr

/-- `TerminationIntent`. -/
structure TerminationIntent where
  reason : CallEndReason := .localHangup
  detail : Option String := Option.none
  sipAction : SipTerminationAction := .auto
  cacheFinalResponse : Bool := false
  deriving DecidableEq, Repr

/-- `resolve_sip_termination_action`. -/
def resolveSipTerminationAction (state : CallState) (requested : SipTerminationAction) :
    SipTerminationAction :=
  if requested ≠ .auto then requested
  else match state with
    | .inCall => .bye
    | .ringing => .finalResponse
    | .calling | .remoteRinging | .connecting => .cancel
    | _ => .none

/-- `call_state_is_terminating`. -/
def callStateIsTerminating : CallState → Bool
  | .terminating | .busy | .declined | .cancelled | .mediaIncompatible
  | .transportUnreachable | .authRequiredUnsupported => true
  | _ => false

/-- `is_active` of `voip_stack.h`. -/
def callStateIsActive : CallState → Bool
  | .inCall | .calling | .remoteRinging | .ringing | .connecting => true
  | _ => false

/-- `TerminationSnapshot`. -/
structure TerminationSnapshot where
  state : CallState := .idle
  transportConnected : Bool := false
  hasCallId : Bool := false
  incomingSetupPending : Bool := false
  deriving DecidableEq, Repr

/-- `dispatch_call_termination`. The five callables of the source are state transformers. -/
def dispatchCallTermination {σ : Type} (snapshot : TerminationSnapshot)
    (intent : TerminationIntent) (cacheFinalResponse : σ → σ)
    (send : SipTerminationAction → σ → Bool × σ) (endCall mediaOff disconnect : σ → σ)
    (s : σ) : σ :=
  if (snapshot.state = .idle ∧ snapshot.incomingSetupPending = false) ∨
      callStateIsTerminating snapshot.state = true then s
  else
    let s := if intent.cacheFinalResponse && snapshot.hasCallId then cacheFinalResponse s else s
    let action := resolveSipTerminationAction snapshot.state intent.sipAction
    let r := if snapshot.transportConnected && snapshot.hasCallId then
        if action ≠ .none then send action s else (false, s)
      else (false, s)
    let s := mediaOff (endCall r.2)
    -- A pending terminal transaction keeps the dialog.
    if r.1 then s else disconnect s

/-- The rule of a dispatch: `P` holds up to the end of the call and `Q` from there on. A snapshot
    that no terminal intent applies to leaves the state alone. -/
theorem dispatchCallTermination_rule {σ : Type} {P Q : σ → Prop} {snapshot : TerminationSnapshot}
    {intent : TerminationIntent} {cacheFinalResponse : σ → σ}
    {send : SipTerminationAction → σ → Bool × σ} {endCall mediaOff disconnect : σ → σ} {s : σ}
    (hskip : (snapshot.state = .idle ∧ snapshot.incomingSetupPending = false) ∨
      callStateIsTerminating snapshot.state = true → Q s)
    (hcache : ∀ s, P s → P (cacheFinalResponse s)) (hsend : ∀ a s, P s → P (send a s).2)
    (hend : ∀ s, P s → Q (endCall s)) (hmedia : ∀ s, Q s → Q (mediaOff s))
    (hdisconnect : ∀ s, Q s → Q (disconnect s)) (hs : P s) :
    Q (dispatchCallTermination snapshot intent cacheFinalResponse send endCall mediaOff disconnect
      s) := by
  simp only [dispatchCallTermination]
  split
  · exact hskip ‹_›
  · have hfirst : P (if intent.cacheFinalResponse && snapshot.hasCallId then cacheFinalResponse s
        else s) := by
      split
      · exact hcache s hs
      · exact hs
    have hlast : ∀ (b : Bool) (s : σ), Q s → Q (if b then s else disconnect s) := by
      intro b s hq
      cases b with
      | true => exact hq
      | false => exact hdisconnect s hq
    refine hlast _ _ (hmedia _ (hend _ ?_))
    split
    · split
      · exact hsend _ _ hfirst
      · exact hfirst
    · exact hfirst

/-- `call_end_reason_to_str`. -/
def callEndReasonToStr : CallEndReason → String
  | .localHangup => "local_hangup"
  | .remoteHangup => "remote_hangup"
  | .declined => "declined"
  | .timeout => "timeout"
  | .busy => "busy"
  | .cancelled => "cancelled"
  | .transportUnreachable => "transport_unreachable"
  | .mediaIncompatible => "media_incompatible"
  | .mediaTimeout => "media_timeout"
  | .authRequiredUnsupported => "auth_required_unsupported"
  | .proxyAuthRequiredUnsupported => "proxy_auth_required_unsupported"
  | .protocolError => "protocol_error"

/-- The terminal state that `end_call_` publishes for a reason. -/
def terminalStateOf : CallEndReason → CallState
  | .busy => .busy
  | .declined => .declined
  | .cancelled => .cancelled
  | .mediaIncompatible => .mediaIncompatible
  | .transportUnreachable => .transportUnreachable
  | .authRequiredUnsupported | .proxyAuthRequiredUnsupported => .authRequiredUnsupported
  | _ => .terminating

/-- Whether `end_call_` reports a reason through `on_call_failed` rather than `on_hangup`. -/
def callEndReasonIsFailure : CallEndReason → Bool
  | .localHangup | .remoteHangup => false
  | _ => true

@[simp] theorem callStateIsTerminating_terminalStateOf (r : CallEndReason) :
    callStateIsTerminating (terminalStateOf r) = true := by
  cases r <;> rfl

end EsphomeVoip
