import EsphomeVoip.ForStd.EventRun
import EsphomeVoip.Fsm.Handlers

/-! # The first terminal intent of a call wins

A call is in progress while its state is active, and over once it is terminating.  Every
handler leaves a call that is not over either untouched, or in progress with nothing reported,
or over with exactly one of `on_hangup` and `on_call_failed` raised.  A call that is over keeps
its reason and its snapshot until the machine is idle again.

All of it holds for every transport, and from every state. -/

namespace EsphomeVoip

namespace VoipStack

variable {τ : Type} (api : TransportApi τ)

/-! ## What a terminal intent fixes -/

/-- The part of the state that the winning terminal intent owns. -/
structure TerminalView where
  callState : CallState
  lastReason : String
  lastTerminal : TerminalCallSnapshot
  callEnds : List Trigger

/-- The terminal view of a state. -/
def terminalView (s : VoipStack τ) : TerminalView :=
  ⟨s.callState, s.lastReason, s.lastTerminal, s.callEnds⟩

/-! ## Frame lemmas -/

theorem terminalView_adopt (t : τ) (s : VoipStack τ) :
    (s.adopt api t).terminalView = s.terminalView := by
  simp [terminalView, callEnds, adopt]

@[simp] theorem terminalView_issue (c : Command) (s : VoipStack τ) :
    (s.issue api c).2.terminalView = s.terminalView := by
  simp [terminalView, callEnds, issue, note, adopt, Entry.callEnd]

@[simp] theorem terminalView_setAudioDevicesActive (on : Bool) (s : VoipStack τ) :
    (s.setAudioDevicesActive api on).terminalView = s.terminalView := by
  simp only [setAudioDevicesActive]
  split <;> simp [terminalView, callEnds, note, resetPeerAudioWatchdog, Entry.callEnd]

@[simp] theorem callState_issue (c : Command) (s : VoipStack τ) :
    (s.issue api c).2.callState = s.callState := rfl

@[simp] theorem callEnds_issue (c : Command) (s : VoipStack τ) :
    (s.issue api c).2.callEnds = s.callEnds :=
  congrArg TerminalView.callEnds (terminalView_issue api c s)

@[simp] theorem callState_setAudioDevicesActive (on : Bool) (s : VoipStack τ) :
    (s.setAudioDevicesActive api on).callState = s.callState :=
  congrArg TerminalView.callState (terminalView_setAudioDevicesActive api on s)

@[simp] theorem callEnds_setAudioDevicesActive (on : Bool) (s : VoipStack τ) :
    (s.setAudioDevicesActive api on).callEnds = s.callEnds :=
  congrArg TerminalView.callEnds (terminalView_setAudioDevicesActive api on s)

@[simp] theorem callEnds_setCallIdentity (a b c d e : String) (s : VoipStack τ) :
    (s.setCallIdentity a b c d e).callEnds = s.callEnds := rfl

@[simp] theorem callEnds_clearTerminalCallSnapshot (s : VoipStack τ) :
    (s.clearTerminalCallSnapshot).callEnds = s.callEnds := rfl

@[simp] theorem callEnds_clearTerminalResponse (s : VoipStack τ) :
    (s.clearTerminalResponse).callEnds = s.callEnds := rfl

@[simp] theorem callEnds_setTerminalResponse (a b : String) (s : VoipStack τ) :
    (s.setTerminalResponse a b).callEnds = s.callEnds := rfl

@[simp] theorem callEnds_setCurrentMediaFormats (a b c d : AudioFormat) (s : VoipStack τ) :
    (s.setCurrentMediaFormats a b c d).callEnds = s.callEnds := rfl

@[simp] theorem callEnds_resetPeerAudioWatchdog (b : Bool) (s : VoipStack τ) :
    (s.resetPeerAudioWatchdog api b).callEnds = s.callEnds := rfl

theorem callEnds_defer (d : Deferred) (s : VoipStack τ) :
    (s.defer d).callEnds = s.callEnds ++ d.callEnd.toList := by
  simp [callEnds, defer]

@[simp] theorem callState_setCallState (newState : CallState) (s : VoipStack τ) :
    (s.setCallState newState).callState = newState := by
  simp only [setCallState]
  split
  · assumption
  · cases newState <;> rfl

@[simp] theorem callEnds_setCallState (newState : CallState) (s : VoipStack τ) :
    (s.setCallState newState).callEnds = s.callEnds := by
  simp only [setCallState]
  split
  · rfl
  · cases newState <;>
      simp [callEnds, defer, note, publishLastReason, Entry.callEnd, Deferred.callEnd,
        Trigger.isCallEnd]

/-- Only an active state clears the reason; no state change touches the snapshot. -/
theorem terminalView_setCallState {newState : CallState} (h : callStateIsActive newState = false)
    (s : VoipStack τ) :
    (s.setCallState newState).terminalView = { s.terminalView with callState := newState } := by
  have hr : (s.setCallState newState).lastReason = s.lastReason ∧
      (s.setCallState newState).lastTerminal = s.lastTerminal := by
    simp only [setCallState]
    split
    · exact ⟨rfl, rfl⟩
    · cases newState <;> simp_all [callStateIsActive, defer, note]
  simp only [terminalView, callState_setCallState, callEnds_setCallState, hr]

/-! ## A call that is not over -/

/-- Nothing is reported, and the call goes on or is in progress. -/
def Silent (v v' : TerminalView) : Prop :=
  v'.callEnds = v.callEnds ∧
    (v'.callState = v.callState ∨ callStateIsActive v'.callState = true)

/-- The call is over and exactly one automation reports it. -/
def Ends (v v' : TerminalView) : Prop :=
  callStateIsTerminating v'.callState = true ∧
    ∃ t, t.isCallEnd = true ∧ v'.callEnds = v.callEnds ++ [t]

/-- How a call that is not over can develop. -/
def Develops (v v' : TerminalView) : Prop := Silent v v' ∨ Ends v v'

theorem Silent.refl (v : TerminalView) : Silent v v := ⟨rfl, .inl rfl⟩

theorem Develops.refl (v : TerminalView) : Develops v v := .inl (.refl v)

theorem Silent.develops {u v w : TerminalView} (h : Silent u v) (h' : Develops v w) :
    Develops u w := by
  rcases h' with ⟨he, hc⟩ | ⟨ht, t, htt, he⟩
  · refine .inl ⟨he.trans h.1, ?_⟩
    rcases hc with hc | hc
    · rw [hc]
      exact h.2
    · exact .inr hc
  · exact .inr ⟨ht, t, htt, he.trans (by rw [h.1])⟩

theorem Silent.trans {u v w : TerminalView} (h : Silent u v) (h' : Silent v w) : Silent u w := by
  refine ⟨h'.1.trans h.1, ?_⟩
  rcases h'.2 with hc | hc
  · rw [hc]
    exact h.2
  · exact .inr hc

theorem not_terminating_of_active {c : CallState} (h : callStateIsActive c = true) :
    callStateIsTerminating c = false := by
  cases c <;> simp_all [callStateIsActive, callStateIsTerminating]

theorem Silent.not_terminating {v v' : TerminalView} (h : Silent v v')
    (hv : callStateIsTerminating v.callState = false) :
    callStateIsTerminating v'.callState = false := by
  rcases h.2 with hc | hc
  · rw [hc]
    exact hv
  · exact not_terminating_of_active hc

/-- A state change into an active state is silent. -/
theorem silent_setCallState {c : CallState} (h : callStateIsActive c = true)
    (s : VoipStack τ) : Silent s.terminalView (s.setCallState c).terminalView :=
  ⟨callEnds_setCallState c s, .inr (by simpa [terminalView] using h)⟩

theorem isCallEnd_callEndTrigger (reason : CallEndReason) (reasonStr : String)
    (s : VoipStack τ) : (s.callEndTrigger reason reasonStr).isCallEnd = true := by
  simp only [callEndTrigger]
  split <;> rfl

theorem silent_endAttempt (s : VoipStack τ) : Silent s.terminalView s.endAttempt.terminalView := by
  refine ⟨?_, .inr ?_⟩
  · simp only [terminalView, endAttempt, callEnds_defer, callEnds_setCallState]
    simp [callEnds, Deferred.callEnd]
  · simp [terminalView, endAttempt, defer, callStateIsActive]

theorem ends_publishCallEnd (reason : CallEndReason) (reasonStr : String) (s : VoipStack τ) :
    Ends s.terminalView (s.publishCallEnd reason reasonStr).terminalView := by
  refine ⟨?_, s.callEndTrigger reason reasonStr, isCallEnd_callEndTrigger _ _ _, ?_⟩
  · simp [terminalView, publishCallEnd, clearCallIdentity, defer]
  · have hclear : ∀ s' : VoipStack τ, s'.clearCallIdentity.callEnds = s'.callEnds := fun _ => rfl
    simp only [terminalView, publishCallEnd, callEnds_defer, hclear, callEnds_setCallState]
    simp [callEnds, publishLastReason, Deferred.callEnd, isCallEnd_callEndTrigger]

theorem develops_endCall (reason : CallEndReason) (detail : String) (s : VoipStack τ) :
    Develops s.terminalView (s.endCall reason detail).terminalView := by
  simp only [endCall]
  split
  · exact .refl _
  split
  · exact .inl (silent_endAttempt s)
  · exact .inr (ends_publishCallEnd _ _ s)

theorem terminalView_sendTermination (callId detail : String) (action : SipTerminationAction)
    (s : VoipStack τ) :
    (s.sendTermination api callId detail action).2.terminalView = s.terminalView := by
  cases action with
  | cancel | bye => exact terminalView_issue api _ s
  | finalResponse => exact terminalView_issue api _ s
  | auto | none => rfl

/-- A termination request for a call that is not over. -/
theorem develops_requestCallTerminationWith (finish : VoipStack τ → VoipStack τ)
    (intent : TerminationIntent) {s : VoipStack τ}
    (h : callStateIsTerminating s.callState = false) :
    Develops s.terminalView
      (s.requestCallTerminationWith api finish intent).terminalView := by
  simp only [requestCallTerminationWith, h, Bool.false_eq_true, if_false]
  refine dispatchCallTermination_rule 
    (P := fun s' : VoipStack τ => s'.terminalView = s.terminalView)
    (Q := fun s' : VoipStack τ => Develops s.terminalView s'.terminalView) ?_ ?_ ?_ ?_ ?_ ?_ rfl
  · exact fun _ => .refl _
  · exact fun s' hs' => hs'
  · exact fun a s' hs' => (terminalView_sendTermination api _ _ a s').trans hs'
  · intro s' hs'
    rw [← hs']
    exact develops_endCall _ _ s'
  · intro s' hs'
    simpa [setOutOfCall] using hs'
  · intro s' hs'
    simpa using hs'

/-! ## Placing a call -/

theorem silent_announceCallAttempt (viaHa : Bool) (dial : DialTarget) (who : AttemptIdentity)
    (s : VoipStack τ) :
    Silent s.terminalView (s.announceCallAttempt api viaHa dial who).terminalView := by
  refine ⟨?_, .inr ?_⟩
  · have hlast : ∀ s' : VoipStack τ,
        { s' with callingStartTime := s'.millis, haMediaFallbackPending := false }.callEnds =
          s'.callEnds := fun _ => rfl
    simp only [terminalView, announceCallAttempt, hlast, callEnds_setCallState,
      callEnds_setAudioDevicesActive, callEnds_setCurrentMediaFormats]
    split <;> split <;>
      simp [callEnds_defer, Deferred.callEnd, Trigger.isCallEnd]
  · simp [terminalView, announceCallAttempt, callStateIsActive]

/-- A termination request after silent steps. -/
theorem Silent.request {s s' : VoipStack τ} (hs : Silent s.terminalView s'.terminalView)
    (h : callStateIsTerminating s.callState = false) (finish : VoipStack τ → VoipStack τ)
    (intent : TerminationIntent) :
    Develops s.terminalView (s'.requestCallTerminationWith api finish intent).terminalView :=
  hs.develops (develops_requestCallTerminationWith api finish intent (hs.not_terminating h))

theorem silent_issue (c : Command) (s : VoipStack τ) :
    Silent s.terminalView (s.issue api c).2.terminalView := by
  rw [terminalView_issue]
  exact .refl _

theorem develops_placeCallAttempt (dial : DialTarget) (who : AttemptIdentity) {s : VoipStack τ}
    (h : callStateIsTerminating s.callState = false) :
    Develops s.terminalView (s.placeCallAttempt api dial who).terminalView := by
  have hi : ∀ (c : Command) (s' : VoipStack τ), Silent s'.terminalView
      { (s'.issue api c).2 with pendingDialplanTarget := "" }.terminalView := silent_issue api
  simp only [placeCallAttempt]
  split
  · exact (hi _ s).request api h _ _
  have ho := silent_issue api (.originate dial.ip dial.port) s
  split
  · exact (ho.trans (hi _ _)).request api h _ _
  · exact .inl (ho.trans (hi _ _))

theorem develops_startCallAttempt (viaHa : Bool) (requestedCallId : String) {s : VoipStack τ}
    (h : callStateIsTerminating s.callState = false) :
    Develops s.terminalView (s.startCallAttempt api viaHa requestedCallId).terminalView := by
  simp only [startCallAttempt]
  split
  · simp only [startUnreachableAttempt]
    refine Silent.request api ⟨?_, .inr ?_⟩ h _ _
    · have hlast : ({ s with haMediaFallbackPending := false } : VoipStack τ).callEnds =
          s.callEnds := rfl
      simp [terminalView, hlast]
    · simp [terminalView, callStateIsActive]
  · have hs := silent_announceCallAttempt api viaHa (s.dialTarget viaHa)
      (s.attemptIdentity viaHa requestedCallId) s
    exact hs.develops (develops_placeCallAttempt api _ _ (hs.not_terminating h))

theorem develops_finishCallTermination {s : VoipStack τ}
    (h : callStateIsTerminating s.callState = false) :
    Develops s.terminalView (s.finishCallTermination api).terminalView := by
  simp only [finishCallTermination, h, Bool.false_eq_true, if_false]
  split
  · exact .refl _
  split
  · exact .refl _
  split
  · exact develops_startCallAttempt api true "" h
  · exact .refl _

theorem Silent.requestCallTermination {s s' : VoipStack τ}
    (hs : Silent s.terminalView s'.terminalView)
    (h : callStateIsTerminating s.callState = false) (intent : TerminationIntent) :
    Develops s.terminalView (s'.requestCallTermination api intent).terminalView :=
  hs.request api h _ _

theorem develops_startWithId (callId : String) {s : VoipStack τ}
    (h : callStateIsTerminating s.callState = false) :
    Develops s.terminalView (s.startWithId api callId).terminalView := by
  simp only [startWithId]
  split
  · have hs : Silent s.terminalView { s with
        haMediaFallbackPending := false, haMediaFallbackAttempted := false }.terminalView := .refl _
    exact hs.develops (develops_startCallAttempt api false callId h)
  · exact .refl _

/-- A request that is turned down is not the end of a call. -/
theorem terminalView_refuse (peer reason : String) (s : VoipStack τ) :
    (s.refuse peer reason).terminalView = s.terminalView := by
  simp [terminalView, refuse, defer, callEnds, Deferred.callEnd]

theorem develops_call (value callId : String) {s : VoipStack τ}
    (h : callStateIsTerminating s.callState = false) :
    Develops s.terminalView (s.call api value callId).terminalView := by
  have hrefuse (peer reason : String) :
      Develops s.terminalView (s.refuse peer reason).terminalView := by
    rw [terminalView_refuse]
    exact .refl _
  simp only [call]
  split
  · split
    · exact hrefuse _ _
    split
    · exact hrefuse _ _
    split
    · rename_i pb _
      exact develops_startWithId (s := { s with pendingDialplanTarget := "", phonebook := pb })
        api "" h
    · split
      · rename_i pb _
        exact develops_startWithId (s := { s with
          phonebook := pb
          pendingDialplanTarget := String.ofList (Phonebook.trim value.toList) }) api callId h
      · exact hrefuse _ _
  · exact .refl _

/-! ## User actions -/

theorem develops_stop {s : VoipStack τ} (h : callStateIsTerminating s.callState = false) :
    Develops s.terminalView (s.stop api).terminalView := by
  simp only [stop]
  split
  · exact (Silent.refl _).requestCallTermination api h _
  split
  · rw [terminalView_setAudioDevicesActive]
    exact .refl _
  · exact .refl _

theorem silent_setInCall (s : VoipStack τ) :
    Silent s.terminalView (s.setInCall api).terminalView := by
  simp only [setInCall]
  split
  · exact .refl _
  split
  · exact .refl _
  · have h := silent_setCallState (c := .inCall) rfl
      ((s.setAudioDevicesActive api true).resetPeerAudioWatchdog api true)
    have hv : ((s.setAudioDevicesActive api true).resetPeerAudioWatchdog api true).terminalView =
        s.terminalView := terminalView_setAudioDevicesActive api true s
    rwa [hv] at h

theorem develops_commitIncomingAnswer {s : VoipStack τ}
    (h : callStateIsTerminating s.callState = false) :
    Develops s.terminalView (s.commitIncomingAnswer api).terminalView := by
  have hc : Silent s.terminalView
      ((s.setAudioDevicesActive api true).issue api .commitMediaPath).2.terminalView := by
    simpa using Silent.refl s.terminalView
  simp only [commitIncomingAnswer]
  split
  · exact (hc.trans (silent_issue api _ _)).requestCallTermination api h _
  · exact .inl (hc.trans (silent_setInCall api _))

theorem silent_sendIncomingAnswer (sendAnswer : Bool) (callId : String) (s : VoipStack τ) :
    Silent s.terminalView (s.sendIncomingAnswer api sendAnswer callId).2.terminalView := by
  simp only [sendIncomingAnswer]
  split
  · split
    · exact silent_issue api _ s
    · exact silent_issue api _ s
  · exact .refl _

theorem develops_acceptIncomingAnswer (sendAnswer waiting : Bool) (callId : String)
    {s : VoipStack τ} (h : callStateIsTerminating s.callState = false) :
    Develops s.terminalView
      (s.acceptIncomingAnswer api sendAnswer waiting callId).terminalView := by
  have hc : Silent s.terminalView
      ({ s with incomingSetupPending := false }.setCallState .connecting).terminalView :=
    silent_setCallState (c := .connecting) rfl { s with incomingSetupPending := false }
  have ha := hc.trans (silent_sendIncomingAnswer api sendAnswer callId _)
  simp only [acceptIncomingAnswer]
  split
  · exact (ha.trans (silent_issue api _ _)).requestCallTermination api h _
  split
  · exact .inl ha
  · exact ha.develops (develops_commitIncomingAnswer api (ha.not_terminating h))

theorem silent_prepareIncomingMedia (waiting : Bool) (s : VoipStack τ) :
    Silent s.terminalView (s.prepareIncomingMedia api waiting).2.terminalView := by
  simp only [prepareIncomingMedia]
  split
  · exact .refl _
  · exact silent_issue api _ s

theorem develops_completeIncomingAnswer (sendAnswer : Bool) {s : VoipStack τ}
    (h : callStateIsTerminating s.callState = false) :
    Develops s.terminalView (s.completeIncomingAnswer api sendAnswer).terminalView := by
  have hp := silent_prepareIncomingMedia api (sendAnswer && s.incomingMediaAnswerPending) s
  simp only [completeIncomingAnswer]
  split
  · exact hp.requestCallTermination api h _
  · exact hp.develops (develops_acceptIncomingAnswer api _ _ _ (hp.not_terminating h))

theorem develops_answerCall {s : VoipStack τ} (h : callStateIsTerminating s.callState = false) :
    Develops s.terminalView (s.answerCall api).terminalView := by
  simp only [answerCall]
  split
  · exact develops_completeIncomingAnswer api true h
  · exact .refl _

theorem develops_declineCall (reason : String) {s : VoipStack τ}
    (h : callStateIsTerminating s.callState = false) :
    Develops s.terminalView (s.declineCall api reason).terminalView := by
  simp only [declineCall]
  split
  · exact develops_stop api h
  · exact (Silent.refl _).requestCallTermination api h _
  · exact (Silent.refl _).requestCallTermination api h _
  · exact (Silent.refl _).requestCallTermination api h _
  · exact .refl _

theorem develops_callToggle {s : VoipStack τ} (h : callStateIsTerminating s.callState = false) :
    Develops s.terminalView (s.callToggle api).terminalView := by
  simp only [callToggle]
  split
  · exact develops_answerCall api h
  split
  · exact develops_stop api h
  · exact develops_startWithId api "" h

/-- To select a contact is no event of a call. -/
theorem terminalView_setContact (name : String) (s : VoipStack τ) :
    (s.setContact name).2.terminalView = s.terminalView := by
  simp only [setContact]
  split
  · exact terminalView_refuse _ _ s
  split
  · rfl
  · exact terminalView_refuse _ _ s

/-! ## Signals -/

theorem silent_rejectInvite (callId reason : String) (s : VoipStack τ) :
    Silent s.terminalView (s.rejectInvite api callId reason).terminalView := by
  have h : Silent s.terminalView (s.setTerminalResponse callId reason).terminalView := .refl _
  exact h.trans ((silent_issue api _ _).trans (silent_issue api _ _))

theorem silent_adoptInvite (msg : SipSignal) (s : VoipStack τ) :
    Silent s.terminalView (s.adoptInvite api msg).terminalView := by
  refine ⟨?_, .inl rfl⟩
  have hset : ∀ s' : VoipStack τ, (note (.accepted msg) { s' with
      incomingSetupPending := true
      incomingMediaAnswerPending := msg.mediaAnswerPending
      incomingAnswerAccepted := false }).callEnds = s'.callEnds := by
    intro s'
    simp [callEnds, note, Entry.callEnd]
  simp [terminalView, adoptInvite, callEnds_defer, Deferred.callEnd, Trigger.isCallEnd, hset]

theorem develops_ringIncoming (callId : String) {s : VoipStack τ}
    (h : callStateIsTerminating s.callState = false) :
    Develops s.terminalView (s.ringIncoming api callId).terminalView := by
  have hr := silent_issue api (.sendRinging callId) s
  simp only [ringIncoming]
  split
  · exact hr.requestCallTermination api h _
  · refine .inl (hr.trans ?_)
    exact silent_setCallState (c := .ringing) rfl
      { (s.issue api (.sendRinging callId)).2 with
        ringingStartTime := (s.issue api (.sendRinging callId)).2.millis
        incomingSetupPending := false }

theorem develops_acceptInvite (msg : SipSignal) {s : VoipStack τ}
    (h : callStateIsTerminating s.callState = false) :
    Develops s.terminalView (s.acceptInvite api msg).terminalView := by
  have ha := silent_adoptInvite api msg s
  simp only [acceptInvite]
  split
  · exact ha.develops (develops_completeIncomingAnswer api true (ha.not_terminating h))
  · exact ha.develops (develops_ringIncoming api _ (ha.not_terminating h))

theorem develops_onInvite (msg : SipSignal) {s : VoipStack τ}
    (h : callStateIsTerminating s.callState = false) :
    Develops s.terminalView (s.onInvite api msg).terminalView := by
  simp only [onInvite]
  split
  · exact .refl _
  split
  · exact .inl (silent_issue api _ s)
  split
  · exact .inl (silent_rejectInvite api _ _ s)
  split
  · exact .inl (silent_rejectInvite api _ _ s)
  · rename_i toDest toCaller _
    exact develops_acceptInvite
      (s := s.setCurrentMediaFormats toDest toCaller toCaller toDest) api msg h

theorem develops_onMediaReady (msg : SipSignal) {s : VoipStack τ}
    (h : callStateIsTerminating s.callState = false) :
    Develops s.terminalView (s.onMediaReady api msg).terminalView := by
  have hs : Silent s.terminalView { s with incomingMediaAnswerPending := false }.terminalView :=
    .refl _
  simp only [onMediaReady]
  split
  · exact .refl _
  split
  · exact hs.requestCallTermination api h _
  · exact develops_completeIncomingAnswer
      (s := setCurrentMediaFormats msg.selectedRxFormat msg.selectedTxFormat msg.selectedTxFormat
        msg.selectedRxFormat { s with incomingMediaAnswerPending := false }) api false h

@[simp] theorem terminalView_applyConnectedIdentity (msg : SipSignal) (s : VoipStack τ) :
    (s.applyConnectedIdentity msg).terminalView = s.terminalView := by
  simp only [applyConnectedIdentity]
  split
  · rfl
  split
  · rfl
  · rfl

@[simp] theorem terminalView_onConnectedIdentity (msg : SipSignal) (s : VoipStack τ) :
    (s.onConnectedIdentity api msg).terminalView = s.terminalView := by
  simp only [onConnectedIdentity]
  split
  · rfl
  split
  · exact terminalView_applyConnectedIdentity msg (s.resetPeerAudioWatchdog api true)
  · exact terminalView_applyConnectedIdentity msg s

theorem develops_onAnswered (msg : SipSignal) {s : VoipStack τ}
    (h : callStateIsTerminating s.callState = false) :
    Develops s.terminalView (s.onAnswered api msg).terminalView := by
  have hs : Silent s.terminalView ((s.setCurrentMediaFormats msg.selectedTxFormat
      msg.selectedRxFormat msg.selectedTxFormat msg.selectedRxFormat).issue api
      .startAudioPath).2.terminalView := silent_issue api _ _
  simp only [onAnswered]
  split
  · exact (Silent.refl _).requestCallTermination api h _
  split
  · exact hs.requestCallTermination api h _
  · exact .inl (hs.trans ((silent_setCallState (c := .connecting) rfl _).trans
      (silent_setInCall api _)))

theorem develops_onStatus200Ok (msg : SipSignal) {s : VoipStack τ}
    (h : callStateIsTerminating s.callState = false) :
    Develops s.terminalView (s.onStatus200Ok api msg).terminalView := by
  simp only [onStatus200Ok]
  split
  · exact .refl _
  split
  · exact develops_onAnswered api msg h
  · exact develops_onAnswered api msg h
  · exact develops_answerCall api h
  · split
    · exact .refl _
    · exact .inl (silent_issue api _ s)
  · exact .refl _

theorem develops_onFailure (msg : SipSignal) {s : VoipStack τ}
    (h : callStateIsTerminating s.callState = false) :
    Develops s.terminalView (s.onFailure api msg).terminalView := by
  simp only [onFailure]
  split
  · exact .refl _
  · refine Silent.requestCallTermination api ?_ h _
    split <;> exact .refl _

theorem develops_onSipSignalReceived (msg : SipSignal) {s : VoipStack τ}
    (h : callStateIsTerminating s.callState = false) :
    Develops s.terminalView (s.onSipSignalReceived api msg).terminalView := by
  have hn : (s.note (.handled msg)).terminalView = s.terminalView := by
    simp [terminalView, callEnds, note, Entry.callEnd]
  rw [← hn]
  replace h : callStateIsTerminating (s.note (.handled msg)).callState = false := h
  simp only [onSipSignalReceived]
  split
  · exact develops_onInvite api msg h
  · exact develops_onMediaReady api msg h
  · split
    · exact .refl _
    · exact (Silent.refl _).requestCallTermination api h _
  · exact develops_finishCallTermination api h
  · rw [terminalView_onConnectedIdentity]
    exact .refl _
  · exact develops_onStatus200Ok api msg h
  · split
    · exact .refl _
    · exact (Silent.refl _).requestCallTermination api h _
  · exact develops_onFailure api msg h
  · exact develops_onFailure api msg h
  · exact develops_onFailure api msg h
  · exact develops_onFailure api msg h
  · exact develops_onFailure api msg h
  · split
    · exact .inl (silent_setCallState (c := .remoteRinging) rfl _)
    · exact .refl _
  · exact .refl _

theorem develops_onConnectionChange (connected : Bool) (callId : String) {s : VoipStack τ}
    (h : callStateIsTerminating s.callState = false) :
    Develops s.terminalView (s.onConnectionChange api connected callId).terminalView := by
  simp only [onConnectionChange]
  split
  · exact .refl _
  split
  · exact .refl _
  split
  · exact develops_finishCallTermination api h
  split
  · exact (Silent.refl _).requestCallTermination api h _
  · rw [terminalView_setAudioDevicesActive]
    exact .refl _

/-! ## Timeouts -/

theorem terminalView_refreshMediaWatchdog (rxPackets : UInt32) (s : VoipStack τ) :
    (s.refreshMediaWatchdog rxPackets).terminalView = s.terminalView := by
  simp only [refreshMediaWatchdog]
  split
  · rfl
  · rfl

theorem develops_handleMediaTimeout {s : VoipStack τ}
    (h : callStateIsTerminating s.callState = false) :
    Develops s.terminalView (s.handleMediaTimeout api).terminalView := by
  have hr := terminalView_refreshMediaWatchdog (api.receivedAudioPackets s.transport) s
  simp only [handleMediaTimeout]
  split
  · exact .refl _
  split
  · refine Silent.requestCallTermination api ?_ h _
    rw [hr]
    exact .refl _
  · rw [hr]
    exact .refl _

theorem develops_handleCallTimeouts {s : VoipStack τ}
    (h : callStateIsTerminating s.callState = false) :
    Develops s.terminalView (s.handleCallTimeouts api).terminalView := by
  simp only [handleCallTimeouts]
  split
  · exact (Silent.refl _).requestCallTermination api h _
  split
  · exact (Silent.refl _).requestCallTermination api h _
  split
  · exact (Silent.refl _).requestCallTermination api h _
  split
  · exact develops_handleMediaTimeout api h
  · exact .refl _

/-! ## Steps -/

theorem develops_runDeferred {s : VoipStack τ} (h : callStateIsTerminating s.callState = false) :
    Develops s.terminalView (s.runDeferred api).terminalView := by
  simp only [runDeferred]
  split
  · exact .refl _
  · rename_i d rest hd
    split
    · rename_i t
      -- Firing an automation moves it from the queue to the trace.
      refine .inl ⟨?_, .inl rfl⟩
      cases ht : t.isCallEnd <;>
        simp [terminalView, callEnds, note, Entry.callEnd, Deferred.callEnd, hd, ht]
    · refine .inl ⟨?_, .inl rfl⟩
      simp [terminalView, callEnds, note, Entry.callEnd, Deferred.callEnd, hd]
    · have hv : ({ s with deferred := rest } : VoipStack τ).terminalView = s.terminalView := by
        simp [terminalView, callEnds, Deferred.callEnd, hd]
      rw [← hv]
      exact develops_finishCallTermination api h
    · have hv : ({ s with deferred := rest } : VoipStack τ).terminalView = s.terminalView := by
        simp [terminalView, callEnds, Deferred.callEnd, hd]
      rw [← hv]
      exact develops_onSipSignalReceived api _ h
    · have hv : ({ s with deferred := rest } : VoipStack τ).terminalView = s.terminalView := by
        simp [terminalView, callEnds, Deferred.callEnd, hd]
      rw [← hv]
      exact develops_onConnectionChange api _ _ h

/-- A step from a call that is not over. -/
theorem develops_step (e : Event τ) {s : VoipStack τ}
    (h : callStateIsTerminating s.callState = false) :
    Develops s.terminalView (s.step api e).terminalView := by
  cases e with
  | start => exact develops_startWithId api "" h
  | call value callId => exact develops_call api value callId h
  | stop => exact develops_stop api h
  | hangupCallIfId callId =>
    simp only [step]
    split
    · exact develops_stop api h
    · exact .refl _
  | answerCall => exact develops_answerCall api h
  | declineCall reason => exact develops_declineCall api reason h
  | callToggle => exact develops_callToggle api h
  | nextContact | prevContact =>
    simp only [step, browseContact]
    split
    · exact .refl _
    · exact .inl ⟨rfl, .inl rfl⟩
  | setContact name =>
    simp only [step, terminalView_setContact]
    exact .refl _
  | setPhonebook _ | setHaPeerName _ | setAutoAnswer _ | setDoNotDisturb _ => exact .refl _
  | runDeferred => exact develops_runDeferred api h
  | loop => exact develops_handleCallTimeouts api h
  | audioFrame =>
    simp only [step, onAudioReceived]
    split
    · exact .refl _
    · exact .refl _
  | advance _ _ => exact .refl _
  | transport t =>
    simp only [step, terminalView_adopt]
    exact .refl _

/-! ## A call that is over -/

/-- A call that is over keeps its terminal view, or becomes idle with the same reason and
    snapshot. -/
def Rests (v v' : TerminalView) : Prop := v' = v ∨ v' = { v with callState := .idle }

theorem rests_finishCallTermination {s : VoipStack τ}
    (h : callStateIsTerminating s.callState = true) :
    Rests s.terminalView (s.finishCallTermination api).terminalView := by
  have hc : s.callState ≠ .calling := by
    intro hc
    simp [hc, callStateIsTerminating] at h
  simp only [finishCallTermination, h, hc, and_false, if_true, if_false]
  split
  · exact .inl rfl
  split
  · exact .inl rfl
  · exact .inr (terminalView_setCallState rfl s)

theorem rests_requestCallTermination (intent : TerminationIntent) {s : VoipStack τ}
    (h : callStateIsTerminating s.callState = true) :
    Rests s.terminalView (s.requestCallTermination api intent).terminalView := by
  simp only [requestCallTermination, requestCallTerminationWith, h, if_true]
  exact rests_finishCallTermination api h

theorem rests_stop {s : VoipStack τ} (h : callStateIsTerminating s.callState = true) :
    Rests s.terminalView (s.stop api).terminalView := by
  have ha : callStateIsActive s.callState = false := by
    cases hc : s.callState <;> simp_all [callStateIsActive, callStateIsTerminating]
  simp only [stop, ha, Bool.false_eq_true, if_false]
  split
  · exact .inl (terminalView_setAudioDevicesActive api false s)
  · exact .inl rfl

theorem rests_startWithId (callId : String) {s : VoipStack τ}
    (h : callStateIsTerminating s.callState = true) :
    Rests s.terminalView (s.startWithId api callId).terminalView := by
  have hc : s.canStartCall api = false := by
    cases hs : s.callState <;> simp_all [canStartCall, callStateIsTerminating]
  simp only [startWithId, hc, Bool.false_eq_true, if_false]
  exact .inl rfl

theorem rests_answerCall {s : VoipStack τ} (h : callStateIsTerminating s.callState = true) :
    Rests s.terminalView (s.answerCall api).terminalView := by
  have hc : s.callState ≠ .ringing := by
    intro hc
    simp [hc, callStateIsTerminating] at h
  simp only [answerCall, hc, false_and, if_false]
  exact .inl rfl

theorem rests_onFailure (msg : SipSignal) {s : VoipStack τ}
    (h : callStateIsTerminating s.callState = true) :
    Rests s.terminalView (s.onFailure api msg).terminalView := by
  have hf : s.fallbackApplies (failureReason msg) = false := by
    cases hs : s.callState <;> simp_all [fallbackApplies, callStateIsTerminating]
  simp only [onFailure, hf, Bool.false_eq_true, if_false]
  split
  · exact .inl rfl
  · exact rests_requestCallTermination api _ h

theorem rests_onSipSignalReceived (msg : SipSignal) {s : VoipStack τ}
    (h : callStateIsTerminating s.callState = true) :
    Rests s.terminalView (s.onSipSignalReceived api msg).terminalView := by
  have hn : (s.note (.handled msg)).terminalView = s.terminalView := by
    simp [terminalView, callEnds, note, Entry.callEnd]
  rw [← hn]
  replace h : callStateIsTerminating (s.note (.handled msg)).callState = true := h
  simp only [onSipSignalReceived]
  generalize s.note (.handled msg) = s at h ⊢
  -- Whatever the signal is about, the call is not in a state that it changes.
  have hc : ∀ c, callStateIsTerminating c = false → s.callState ≠ c := by
    intro c hc hs
    rw [hs, hc] at h
    exact absurd h (by decide)
  split
  · rw [onInvite, if_pos (hc .idle rfl)]
    exact .inl rfl
  · rw [onMediaReady, if_pos (.inr (.inl (hc .connecting rfl)))]
    exact .inl rfl
  · split
    · exact .inl rfl
    · exact rests_requestCallTermination api _ h
  · exact rests_finishCallTermination api h
  · rw [terminalView_onConnectedIdentity]
    exact .inl rfl
  · simp only [onStatus200Ok]
    split
    · exact .inl rfl
    split
    · exact absurd ‹_› (hc .calling rfl)
    · exact absurd ‹_› (hc .remoteRinging rfl)
    · exact absurd ‹_› (hc .ringing rfl)
    · exact absurd ‹_› (hc .inCall rfl)
    · exact .inl rfl
  · split
    · exact .inl rfl
    · exact rests_requestCallTermination api _ h
  · exact rests_onFailure api msg h
  · exact rests_onFailure api msg h
  · exact rests_onFailure api msg h
  · exact rests_onFailure api msg h
  · exact rests_onFailure api msg h
  · rw [if_neg (hc .calling rfl)]
    exact .inl rfl
  · exact .inl rfl

theorem rests_onConnectionChange (connected : Bool) (callId : String) {s : VoipStack τ}
    (h : callStateIsTerminating s.callState = true) :
    Rests s.terminalView (s.onConnectionChange api connected callId).terminalView := by
  simp only [onConnectionChange]
  split
  · exact .inl rfl
  split
  · exact .inl rfl
  split
  · exact rests_finishCallTermination api h
  split
  · exact rests_requestCallTermination api _ h
  · exact .inl (terminalView_setAudioDevicesActive api false s)

theorem rests_runDeferred {s : VoipStack τ} (h : callStateIsTerminating s.callState = true) :
    Rests s.terminalView (s.runDeferred api).terminalView := by
  simp only [runDeferred]
  split
  · exact .inl rfl
  · rename_i d rest hd
    split
    · rename_i t
      refine .inl ?_
      cases ht : t.isCallEnd <;>
        simp [terminalView, callEnds, note, Entry.callEnd, Deferred.callEnd, hd, ht]
    · refine .inl ?_
      simp [terminalView, callEnds, note, Entry.callEnd, Deferred.callEnd, hd]
    all_goals
      have hv : ({ s with deferred := rest } : VoipStack τ).terminalView = s.terminalView := by
        simp [terminalView, callEnds, Deferred.callEnd, hd]
      rw [← hv]
    · exact rests_finishCallTermination api h
    · exact rests_onSipSignalReceived api _ h
    · exact rests_onConnectionChange api _ _ h

/-- Contact browsing clears the shown reason and snapshot in every state. -/
def Event.browsesContacts : Event τ → Bool
  | .nextContact | .prevContact => true
  | _ => false

/-- A step from a call that is over, unless the user browses the contacts. -/
theorem rests_step {e : Event τ} (he : e.browsesContacts = false) {s : VoipStack τ}
    (h : callStateIsTerminating s.callState = true) :
    Rests s.terminalView (s.step api e).terminalView := by
  have hc : ∀ c, callStateIsTerminating c = false → s.callState ≠ c := by
    intro c hc hs
    rw [hs, hc] at h
    exact absurd h (by decide)
  cases e with
  -- a call that is ending takes no new attempt
  | start => exact rests_startWithId api "" h
  | call value callId =>
    have hs : s.canStartCall api = false := by
      simp [canStartCall, hc .idle rfl]
    simp only [step, call, hs, Bool.false_eq_true, if_false]
    exact .inl rfl
  -- ending it once more changes nothing
  | stop => exact rests_stop api h
  | hangupCallIfId callId =>
    simp only [step]
    split
    · exact rests_stop api h
    · exact .inl rfl
  | answerCall => exact rests_answerCall api h
  -- only a call that rings or talks can be declined
  | declineCall reason =>
    simp only [step, declineCall]
    split
    · exact absurd ‹_› (hc .inCall rfl)
    · exact absurd ‹_› (hc .ringing rfl)
    · exact absurd ‹_› (hc .calling rfl)
    · exact absurd ‹_› (hc .remoteRinging rfl)
    · exact .inl rfl
  -- the button answers a ringing call and otherwise stops or starts
  | callToggle =>
    simp only [step, callToggle, hc .ringing rfl, if_false]
    split
    · exact rests_stop api h
    · exact rests_startWithId api "" h
  | nextContact | prevContact => exact absurd he (by simp [Event.browsesContacts])
  | setContact name => exact .inl (terminalView_setContact name s)
  | setPhonebook _ | setHaPeerName _ | setAutoAnswer _ | setDoNotDisturb _ => exact .inl rfl
  | runDeferred => exact rests_runDeferred api h
  -- every timeout is one of a state that the call has left
  | loop =>
    simp only [step, handleCallTimeouts, hc .ringing rfl, hc .calling rfl, hc .remoteRinging rfl,
      hc .inCall rfl, false_and, and_false, or_self, if_false]
    exact .inl rfl
  | audioFrame =>
    simp only [step, onAudioReceived]
    split
    · exact .inl rfl
    · exact .inl rfl
  | advance _ _ => exact .inl rfl
  | transport t => exact .inl (terminalView_adopt api t s)

/-! ## Whole calls -/

/-- Whatever happens to a call that is over, nothing more is reported, and it stays over or
    becomes idle. -/
theorem step_of_terminating (e : Event τ) {s : VoipStack τ}
    (h : callStateIsTerminating s.callState = true) :
    (s.step api e).callEnds = s.callEnds ∧
      ((s.step api e).callState = s.callState ∨ (s.step api e).callState = .idle) := by
  have hrest : e.browsesContacts = false → (s.step api e).callEnds = s.callEnds ∧
      ((s.step api e).callState = s.callState ∨ (s.step api e).callState = .idle) := by
    intro he
    rcases rests_step api he h with hv | hv
    · exact ⟨congrArg TerminalView.callEnds hv, .inl (congrArg TerminalView.callState hv)⟩
    · exact ⟨congrArg TerminalView.callEnds hv, .inr (congrArg TerminalView.callState hv)⟩
  cases e with
  | nextContact | prevContact =>
    simp only [step, browseContact]
    split
    · exact ⟨rfl, .inl rfl⟩
    · exact ⟨rfl, .inl rfl⟩
  | _ => exact hrest rfl

/-- The machine becomes idle only from a terminal state. -/
theorem terminating_of_step_idle {e : Event τ} {s : VoipStack τ} (hs : s.callState ≠ .idle)
    (hidle : (s.step api e).callState = .idle) : callStateIsTerminating s.callState = true := by
  cases h : callStateIsTerminating s.callState with
  | true => rfl
  | false =>
    rcases develops_step api e h with ⟨-, hc | hc⟩ | ⟨hc, -⟩
    · exact absurd (hc.symm.trans hidle) hs
    · rw [show (s.step api e).terminalView.callState = .idle from hidle] at hc
      simp [callStateIsActive] at hc
    · rw [show (s.step api e).terminalView.callState = .idle from hidle] at hc
      simp [callStateIsTerminating] at hc

/-- Where a call stands: in progress with nothing reported since `ends`, or over with exactly
    one automation raised since. -/
def CallStands (ends : List Trigger) (s : VoipStack τ) : Prop :=
  (callStateIsActive s.callState = true ∧ s.callEnds = ends) ∨
  (callStateIsTerminating s.callState = true ∧ ∃ t, t.isCallEnd = true ∧ s.callEnds = ends ++ [t])

/-- The step that leaves `IDLE` begins a call. -/
theorem callStands_of_idle (e : Event τ) {s : VoipStack τ} (hs : s.callState = .idle)
    (hleave : (s.step api e).callState ≠ .idle) : CallStands s.callEnds (s.step api e) := by
  have h : callStateIsTerminating s.callState = false := by
    rw [hs]
    rfl
  rcases develops_step api e h with ⟨he, hc | hc⟩ | ⟨hc, ht⟩
  · exact absurd (hc.trans hs) hleave
  · exact .inl ⟨hc, he⟩
  · exact .inr ⟨hc, ht⟩

/-- A step that does not end in `IDLE` continues a call. -/
theorem callStands_step (e : Event τ) {s : VoipStack τ} {ends : List Trigger}
    (h : CallStands ends s) (hleave : (s.step api e).callState ≠ .idle) :
    CallStands ends (s.step api e) := by
  rcases h with ⟨ha, he⟩ | ⟨ht, t, htt, he⟩
  · rcases develops_step api e (not_terminating_of_active ha) with ⟨he', hc⟩ | ⟨hc, t, htt, he'⟩
    · refine .inl ⟨?_, he'.trans he⟩
      rcases hc with hc | hc
      · exact (congrArg callStateIsActive hc).trans ha
      · exact hc
    · exact .inr ⟨hc, t, htt, he'.trans (congrArg (· ++ [t]) he)⟩
  · obtain ⟨he', hc | hc⟩ := step_of_terminating api e ht
    · exact .inr ⟨(congrArg callStateIsTerminating hc).trans ht, t, htt, he'.trans he⟩
    · exact absurd hc hleave

/-- A call that has not returned to `IDLE` stands somewhere. -/
theorem callStands_after {s : VoipStack τ} {ends : List Trigger} (es : List (Event τ))
    (h : CallStands ends s) (hes : EventRun.Along (step api)
      (fun e s => (s.step api e).callState ≠ .idle) s es) :
    CallStands ends (EventRun.after (step api) s es) :=
  EventRun.invariant (step api) (fun e _ hne hs => callStands_step api e hs hne) hes h

/-- The run of one call: the machine is idle, `first` begins the call, the events `middle` do
    not bring it back to `IDLE`, and it has reached `now`. -/
structure CallRun (s now : VoipStack τ) (first : Event τ) (middle : List (Event τ)) : Prop where
  idle : s.callState = .idle
  begun : (s.step api first).callState ≠ .idle
  going : EventRun.Along (step api) (fun e s => (s.step api e).callState ≠ .idle)
    (s.step api first) middle
  reached : now = EventRun.after (step api) (s.step api first) middle

theorem CallRun.stands {s now : VoipStack τ} {first : Event τ} {middle : List (Event τ)}
    (h : CallRun api s now first middle) : CallStands s.callEnds now := by
  rw [h.reached]
  exact callStands_after api middle (callStands_of_idle api first h.idle h.begun) h.going

/-- What it means that the first terminal intent of a call wins. -/
structure FirstTerminalIntentWins : Prop where
  /-- Until the machine is idle, a terminal state keeps its reason and its snapshot, unless the
      user browses the contacts. -/
  kept : ∀ (s : VoipStack τ) (es : List (Event τ)), callStateIsTerminating s.callState = true →
    EventRun.Along (step api) (fun e s => e.browsesContacts = false ∧ s.callState ≠ .idle) s es →
    Rests s.terminalView (EventRun.after (step api) s es).terminalView
  /-- `IDLE` is entered only from a terminal state. -/
  idle_from_terminal : ∀ (s : VoipStack τ) (e : Event τ), s.callState ≠ .idle →
    (s.step api e).callState = .idle → callStateIsTerminating s.callState = true
  /-- Between two idle moments with a call between them, exactly one of `on_hangup` and
      `on_call_failed` is raised as the end of a call. -/
  one_end : ∀ (s now : VoipStack τ) (first last : Event τ) (middle : List (Event τ)),
    CallRun api s now first middle → (now.step api last).callState = .idle →
    ∃ t, t.isCallEnd = true ∧ (now.step api last).callEnds = s.callEnds ++ [t]
  /-- Outside a call neither is raised. -/
  idle_silent : ∀ (s : VoipStack τ) (e : Event τ), s.callState = .idle →
    (s.step api e).callState = .idle → (s.step api e).callEnds = s.callEnds
  /-- When the retry of a failed direct attempt is due, neither has been raised for the call. -/
  first_attempt_silent : ∀ (s now : VoipStack τ) (first : Event τ) (middle : List (Event τ)),
    CallRun api s now first middle → now.haMediaFallbackPending = true →
    now.callState = .calling → now.callEnds = s.callEnds

/-- In every run of the call state machine, over every transport, the first terminal intent of a
    call wins. -/
theorem first_terminal_intent_wins (api : TransportApi τ) : FirstTerminalIntentWins api where
  kept := by
    intro s es h hes
    -- Step by step: the view stays, or the step was the one that leads to IDLE.
    induction es generalizing s with
    | nil => exact .inl rfl
    | cons e es ih =>
      obtain ⟨⟨he, -⟩, hes⟩ := hes
      rcases rests_step api he h with hv | hv
      · have hs : callStateIsTerminating (s.step api e).callState = true :=
          (congrArg (fun v => callStateIsTerminating v.callState) hv).trans h
        rw [← hv]
        exact ih _ hs hes
      · cases es with
        | nil => exact .inr hv
        | cons e' es => exact absurd (congrArg TerminalView.callState hv) hes.1.2
  idle_from_terminal := fun _ _ hs hidle => terminating_of_step_idle api hs hidle
  one_end := by
    intro s now first last middle hrun hidle
    have hne : now.callState ≠ .idle := by
      intro hi
      rcases hrun.stands with ⟨ha, -⟩ | ⟨ht, -⟩
      · rw [hi] at ha
        exact absurd ha (by decide)
      · rw [hi] at ht
        exact absurd ht (by decide)
    have ht := terminating_of_step_idle api hne hidle
    -- The call was terminating before, and had fired its one trigger by then.
    rcases hrun.stands with ⟨ha, -⟩ | ⟨-, t, htt, he⟩
    · rw [not_terminating_of_active ha] at ht
      exact absurd ht (by decide)
    · exact ⟨t, htt, (step_of_terminating api last ht).1.trans he⟩
  idle_silent := by
    intro s e hs hidle
    have h : callStateIsTerminating s.callState = false := by
      rw [hs]
      rfl
    rcases develops_step api e h with ⟨he, -⟩ | ⟨hc, -⟩
    · exact he
    · rw [show (s.step api e).terminalView.callState = .idle from hidle] at hc
      simp [callStateIsTerminating] at hc
  first_attempt_silent := by
    intro s now first middle hrun _ hc
    rcases hrun.stands with ⟨-, he⟩ | ⟨ht, -⟩
    · exact he
    · rw [hc] at ht
      exact absurd ht (by decide)

/-! A transport that only reports what it is told to, for concrete runs. -/

/-- Every command succeeds; the state is the list of callbacks not yet taken. -/
def scriptedTransport : TransportApi (List Callback) where
  exec := fun _ t => (true, t)
  isConnected := fun _ => true
  snapshot := fun _ => {}
  receivedAudioPackets := fun _ => 0
  lastSipStatusCode := fun _ => 0
  remoteAudioExpected := fun _ => true
  takeCallbacks := fun t => (t, [])

/-- An idle phone with two contacts. -/
def idlePhone : VoipStack (List Callback) where
  transport := []
  deviceName := "Kitchen"
  phonebook := { entries := [{ name := "Hall" }, { name := "Office" }] }

/-- A call from Hall rings and is hung up by the caller. -/
def answeredByHangup : List (Event (List Callback)) :=
  [.transport [.sipSignal { type := .invite, callId := "a", callerName := "Hall" },
      .sipSignal { type := .bye, callId := "a" }], .runDeferred, .runDeferred]

/-- While a call from Hall rings, a contact is selected that does not exist. -/
def unknownContactWhileRinging : List (Event (List Callback)) :=
  [.transport [.sipSignal { type := .invite, callId := "a", callerName := "Hall" }], .runDeferred,
    .setContact "Attic", .runDeferred, .runDeferred, .runDeferred, .runDeferred]

/-- Browsing the contacts clears the reason of a call that is over but not yet idle, and a contact
    that is not found fires `on_call_failed` while a call goes on. -/
theorem contact_browsing_clears_the_reason :
    (¬ ∀ es fs, callStateIsTerminating
        (EventRun.after (step scriptedTransport) idlePhone es).callState = true →
      EventRun.Along (step scriptedTransport) (fun _ s => s.callState ≠ .idle)
        (EventRun.after (step scriptedTransport) idlePhone es) fs →
      (EventRun.after (step scriptedTransport) idlePhone (es ++ fs)).lastReason =
        (EventRun.after (step scriptedTransport) idlePhone es).lastReason) ∧
      (EventRun.after (step scriptedTransport) idlePhone unknownContactWhileRinging).callState =
        .ringing ∧
      Entry.refused "Attic" "Contact not found: Attic" ∈
        (EventRun.after (step scriptedTransport) idlePhone unknownContactWhileRinging).trace := by
  refine ⟨fun h => ?_, by decide +kernel, by decide +kernel⟩
  have hkept := h answeredByHangup [.nextContact] (by decide) (by decide)
  exact absurd hkept (by decide)

end VoipStack

end EsphomeVoip
