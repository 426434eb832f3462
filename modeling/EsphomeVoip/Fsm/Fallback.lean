import EsphomeVoip.Fsm.Termination

/-! # Late signals while a Home Assistant fallback is pending

When a direct attempt fails for want of a common format, `end_call_` keeps the call in `CALLING`,
forgets the Call-ID of the attempt and schedules the retry.  `ignore_if_idle_or_stale_` compares
a signal's Call-ID with the current one only when there is one, so in that window it lets
every signal of the failed attempt through.  `HarmlessWhilePending` lists which of them leave
the retry alone. -/

namespace EsphomeVoip

namespace VoipStack

variable {τ : Type} (api : TransportApi τ)

/-! ## The window -/

/-- The direct attempt has failed and the relayed one has not started. -/
structure FallbackPending (s : VoipStack τ) : Prop where
  pending : s.haMediaFallbackPending = true
  calling : s.callState = .calling
  no_call_id : s.current.callId = ""

/-- Nothing that the pending retry depends on has changed: the call state, the reason, the
    pending flag, what the retry dials, and that the failed attempt's Call-ID is forgotten. -/
structure Undisturbed (s s' : VoipStack τ) : Prop where
  call_state : s'.callState = s.callState
  last_reason : s'.lastReason = s.lastReason
  pending : s'.haMediaFallbackPending = s.haMediaFallbackPending
  dial_target : s'.dialTarget true = s.dialTarget true
  dest_name : s'.attemptDestName true = s.attemptDestName true
  dest_route : s'.attemptDestRoute true = s.attemptDestRoute true
  caller_route : s'.attemptCallerRoute = s.attemptCallerRoute
  call_id : s'.current.callId = s.current.callId

theorem Undisturbed.refl (s : VoipStack τ) : Undisturbed s s :=
  ⟨rfl, rfl, rfl, rfl, rfl, rfl, rfl, rfl⟩

theorem Undisturbed.trans {a b c : VoipStack τ} (h : Undisturbed a b) (h' : Undisturbed b c) :
    Undisturbed a c :=
  ⟨h'.call_state.trans h.call_state, h'.last_reason.trans h.last_reason,
    h'.pending.trans h.pending, h'.dial_target.trans h.dial_target,
    h'.dest_name.trans h.dest_name, h'.dest_route.trans h.dest_route,
    h'.caller_route.trans h.caller_route, h'.call_id.trans h.call_id⟩

theorem Undisturbed.symm {a b : VoipStack τ} (h : Undisturbed a b) : Undisturbed b a :=
  ⟨h.call_state.symm, h.last_reason.symm, h.pending.symm, h.dial_target.symm, h.dest_name.symm,
    h.dest_route.symm, h.caller_route.symm, h.call_id.symm⟩

/-- The signals that leave a pending retry alone. -/
def HarmlessWhilePending (msg : SipSignal) (s : VoipStack τ) : Prop :=
  match msg.type with
  | .invite | .mediaReady | .options => True
  | .bye | .cancel | .status180Ringing => False
  | .connectedIdentity =>
    connectedPeerName msg = "" ∨ s.current.callerName ≠ s.deviceName ∨
      (connectedPeerName msg = s.current.destName ∧
        (msg.connectedRoute = "" ∨ msg.connectedRoute = s.current.destRoute))
  | .status200Ok =>
    (msg.callId ≠ "" ∧ s.recentTerminalCall msg.callId = true) ∨
      msg.selectedFormatsRejected s.txAudioFormats s.rxAudioFormats = true
  | .finalResponse | .mediaIncompatible | .authRequired | .proxyAuthRequired | .protocolError =>
    failureReason msg = .mediaIncompatible
  -- `TERMINAL_COMPLETE` is what starts the retry.
  | .terminalComplete => False

/-! ## One late signal -/

/-- The dial parameters of a retry come from the phonebook, the peer's name and the current
    identity only. -/
theorem undisturbed_of_eq {s s' : VoipStack τ} (hc : s'.callState = s.callState)
    (hr : s'.lastReason = s.lastReason)
    (hp : s'.haMediaFallbackPending = s.haMediaFallbackPending)
    (hcfg : s'.phonebook = s.phonebook ∧ s'.haPeerName = s.haPeerName ∧
      s'.deviceName = s.deviceName ∧ s'.deviceRouteId = s.deviceRouteId)
    (hd : s'.current.destName = s.current.destName ∧
      s'.current.destRoute = s.current.destRoute ∧ s'.current.callId = s.current.callId) :
    Undisturbed s s' := by
  obtain ⟨hb, hn, hdn, hdr⟩ := hcfg
  refine ⟨hc, hr, hp, ?_, hd.1, hd.2.1, ?_, hd.2.2⟩
  · simp only [dialTarget, hb, hn]
  · simp only [attemptCallerRoute, hdn, hdr]

/-- A termination that sends nothing: there is no Call-ID, or none is asked for. -/
theorem requestCallTermination_unsent {s : VoipStack τ} {intent : TerminationIntent}
    (ha : callStateIsActive s.callState = true)
    (hsend : s.current.callId = "" ∨ intent.sipAction = .none)
    (hcache : intent.cacheFinalResponse = false) :
    s.requestCallTermination api intent =
      ((((s.endCall intent.reason (intent.detail.getD "")).setOutOfCall api
        ).setAudioDevicesActive api false).issue api .disconnect).2 := by
  have ht := not_terminating_of_active ha
  have hi : s.callState ≠ .idle := by
    intro hi
    rw [hi] at ha
    exact absurd ha (by decide)
  rcases hsend with hc | hn
  · simp [requestCallTermination, requestCallTerminationWith, dispatchCallTermination, ht, hi, hc,
      hcache]
  · simp [requestCallTermination, requestCallTerminationWith, dispatchCallTermination, ht, hi, hn,
      hcache, resolveSipTerminationAction]

/-- The retry's inputs that teardown does not touch. -/
theorem undisturbed_teardown (s : VoipStack τ) :
    Undisturbed s
      (((s.setOutOfCall api).setAudioDevicesActive api false).issue api .disconnect).2 := by
  have hoff : Undisturbed (s.setOutOfCall api)
      ((s.setOutOfCall api).setAudioDevicesActive api false) := by
    simp only [setAudioDevicesActive]
    split
    · exact undisturbed_of_eq rfl rfl rfl ⟨rfl, rfl, rfl, rfl⟩ ⟨rfl, rfl, rfl⟩
    · exact undisturbed_of_eq rfl rfl rfl ⟨rfl, rfl, rfl, rfl⟩ ⟨rfl, rfl, rfl⟩
  have hissue : ∀ (c : Command) (s' : VoipStack τ), Undisturbed s' (s'.issue api c).2 :=
    fun c s' => undisturbed_of_eq rfl rfl rfl ⟨rfl, rfl, rfl, rfl⟩ ⟨rfl, rfl, rfl⟩
  exact ((hissue .stopAudioPath s).trans hoff).trans (hissue .disconnect _)

theorem undisturbed_endAttempt {s : VoipStack τ} (h : FallbackPending s) :
    Undisturbed s s.endAttempt := by
  refine undisturbed_of_eq ?_ ?_ ?_ ?_ ?_ <;>
    simp [endAttempt, setCallState, defer, h.calling, h.no_call_id]

/-- A failure for want of a format ends only an attempt that is already over. -/
theorem undisturbed_request_mediaIncompatible {s : VoipStack τ} (h : FallbackPending s)
    {intent : TerminationIntent} (hr : intent.reason = .mediaIncompatible)
    (hcache : intent.cacheFinalResponse = false) :
    Undisturbed s (s.requestCallTermination api intent) := by
  have he : s.endCall intent.reason (intent.detail.getD "") = s.endAttempt := by
    simp [endCall, hr, h.calling, h.pending]
  rw [requestCallTermination_unsent api (by rw [h.calling]; rfl) (.inl h.no_call_id) hcache, he]
  exact (undisturbed_endAttempt h).trans (undisturbed_teardown api _)

/-- Any other failure ends the call, and with it the retry. -/
theorem disturbed_request {s : VoipStack τ} (h : FallbackPending s) {intent : TerminationIntent}
    (hr : intent.reason ≠ .mediaIncompatible) (hcache : intent.cacheFinalResponse = false) :
    (s.requestCallTermination api intent).callState ≠ s.callState := by
  have he : (s.endCall intent.reason (intent.detail.getD "")).callState =
      terminalStateOf intent.reason := by
    simp [endCall, hr, h.calling, publishCallEnd, defer, clearCallIdentity]
  rw [requestCallTermination_unsent api (by rw [h.calling]; rfl) (.inl h.no_call_id) hcache,
    (undisturbed_teardown api _).call_state, he, h.calling]
  cases intent.reason <;> simp [terminalStateOf]

/-- The answer to the failed attempt is taken for the answer to the call. -/
theorem disturbed_onAnswered {s : VoipStack τ} (h : FallbackPending s) {msg : SipSignal}
    (hf : msg.selectedFormatsRejected s.txAudioFormats s.rxAudioFormats = false) :
    (s.onAnswered api msg).callState ≠ s.callState := by
  simp only [onAnswered, hf, Bool.false_eq_true, if_false]
  have hp : FallbackPending ((s.setCurrentMediaFormats msg.selectedTxFormat msg.selectedRxFormat
      msg.selectedTxFormat msg.selectedRxFormat).issue api .startAudioPath).2 :=
    ⟨h.pending, h.calling, h.no_call_id⟩
  split
  · exact disturbed_request api hp (by decide) rfl
  · rw [h.calling, setInCall]
    split
    · simp
    split
    · simp
    · simp

theorem applyConnectedIdentity_dest (msg : SipSignal) (s : VoipStack τ) :
    ((s.applyConnectedIdentity msg).current.destName = s.current.destName ∧
      (s.applyConnectedIdentity msg).current.destRoute = s.current.destRoute) ↔
    (connectedPeerName msg = "" ∨ s.current.callerName ≠ s.deviceName ∨
      (connectedPeerName msg = s.current.destName ∧
        (msg.connectedRoute = "" ∨ msg.connectedRoute = s.current.destRoute))) := by
  simp only [applyConnectedIdentity]
  split
  · simp [*]
  split
  · by_cases hr : msg.connectedRoute = "" <;> simp [setCallIdentity, *]
  · simp [setCallIdentity, *]

/-- In the window every failure signal is taken, whatever its Call-ID. -/
theorem FallbackPending.accepts {s : VoipStack τ} (h : FallbackPending s) (callId : String) :
    s.ignoreIfIdleOrStale callId = false := by
  simp [ignoreIfIdleOrStale, h.calling, h.no_call_id]

theorem undisturbed_onFailure_iff {s : VoipStack τ} (h : FallbackPending s) (msg : SipSignal) :
    Undisturbed s (s.onFailure api msg) ↔ failureReason msg = .mediaIncompatible := by
  simp only [onFailure, h.accepts, Bool.false_eq_true, if_false]
  by_cases hr : failureReason msg = .mediaIncompatible
  · simp only [hr, iff_true]
    -- A second attempt at scheduling the retry changes nothing.
    have hs : FallbackPending (if s.fallbackApplies .mediaIncompatible then
        { s with haMediaFallbackPending := true, haMediaFallbackAttempted := true } else s) ∧
        Undisturbed s (if s.fallbackApplies .mediaIncompatible then
        { s with haMediaFallbackPending := true, haMediaFallbackAttempted := true } else s) := by
      split
      · exact ⟨⟨rfl, h.calling, h.no_call_id⟩, undisturbed_of_eq rfl rfl h.pending.symm
          ⟨rfl, rfl, rfl, rfl⟩ ⟨rfl, rfl, rfl⟩⟩
      · exact ⟨h, .refl s⟩
    exact hs.2.trans (undisturbed_request_mediaIncompatible api hs.1 rfl rfl)
  · have hf : s.fallbackApplies (failureReason msg) = false := by
      simp [fallbackApplies, hr]
    simp only [hr, hf, Bool.false_eq_true, if_false, iff_false]
    exact fun hu => disturbed_request api h hr rfl hu.call_state

theorem undisturbed_onConnectedIdentity_iff {s : VoipStack τ} (h : FallbackPending s)
    (msg : SipSignal) :
    Undisturbed s (s.onConnectedIdentity api msg) ↔
      (connectedPeerName msg = "" ∨ s.current.callerName ≠ s.deviceName ∨
        (connectedPeerName msg = s.current.destName ∧
          (msg.connectedRoute = "" ∨ msg.connectedRoute = s.current.destRoute))) := by
  -- The identity changes the destination or nothing that the fallback needs.
  have happly : ∀ s' : VoipStack τ, s'.current = s.current → s'.deviceName = s.deviceName →
      Undisturbed s s' → (Undisturbed s (s'.applyConnectedIdentity msg) ↔
        (connectedPeerName msg = "" ∨ s.current.callerName ≠ s.deviceName ∨
          (connectedPeerName msg = s.current.destName ∧
            (msg.connectedRoute = "" ∨ msg.connectedRoute = s.current.destRoute)))) := by
    intro s' hc hd hu
    have hiff := applyConnectedIdentity_dest msg s'
    rw [hc, hd] at hiff
    have hview := terminalView_applyConnectedIdentity msg s'
    have hrest : (s'.applyConnectedIdentity msg).haMediaFallbackPending =
        s'.haMediaFallbackPending ∧ (s'.applyConnectedIdentity msg).phonebook = s'.phonebook ∧
        (s'.applyConnectedIdentity msg).haPeerName = s'.haPeerName ∧
        (s'.applyConnectedIdentity msg).deviceName = s'.deviceName ∧
        (s'.applyConnectedIdentity msg).deviceRouteId = s'.deviceRouteId ∧
        (s'.applyConnectedIdentity msg).current.callId = s'.current.callId := by
      simp only [applyConnectedIdentity]
      split
      · exact ⟨rfl, rfl, rfl, rfl, rfl, rfl⟩
      split <;> exact ⟨rfl, rfl, rfl, rfl, rfl, rfl⟩
    constructor
    · intro hn
      exact hiff.1 ⟨hn.dest_name, hn.dest_route⟩
    · intro hn
      obtain ⟨hname, hroute⟩ := hiff.2 hn
      obtain ⟨hp, hb, hn', hd', hr', hid⟩ := hrest
      refine hu.trans (undisturbed_of_eq (congrArg TerminalView.callState hview)
        (congrArg TerminalView.lastReason hview) hp ⟨hb, hn', hd', hr'⟩ ?_)
      rw [hname, hroute, hid, hc]
      exact ⟨rfl, rfl, rfl⟩
  simp only [onConnectedIdentity, h.accepts, Bool.false_eq_true, if_false]
  split
  · exact happly _ rfl rfl (undisturbed_of_eq rfl rfl rfl ⟨rfl, rfl, rfl, rfl⟩ ⟨rfl, rfl, rfl⟩)
  · exact happly s rfl rfl (.refl s)

theorem undisturbed_onStatus200Ok_iff {s : VoipStack τ} (h : FallbackPending s)
    (msg : SipSignal) :
    Undisturbed s (s.onStatus200Ok api msg) ↔
      ((msg.callId ≠ "" ∧ s.recentTerminalCall msg.callId = true) ∨
        msg.selectedFormatsRejected s.txAudioFormats s.rxAudioFormats = true) := by
  simp only [onStatus200Ok, h.no_call_id, ne_eq, not_true_eq_false, false_and, or_false,
    h.calling]
  by_cases hr : msg.callId ≠ "" ∧ s.recentTerminalCall msg.callId = true
  · simp only [ne_eq] at hr
    simp only [hr, not_false_eq_true, and_self, if_true, true_or, iff_true]
    exact .refl s
  · simp only [ne_eq] at hr
    simp only [hr, if_false, false_or]
    cases hf : msg.selectedFormatsRejected s.txAudioFormats s.rxAudioFormats with
    | true =>
      simp only [onAnswered, hf, if_true, iff_true]
      exact undisturbed_request_mediaIncompatible api h rfl rfl
    | false =>
      simp only [Bool.false_eq_true, iff_false]
      exact fun hu => disturbed_onAnswered api h hf hu.call_state

/-- A signal leaves a pending retry alone exactly when it is harmless. -/
theorem undisturbed_onSipSignalReceived_iff {s : VoipStack τ} (h : FallbackPending s)
    {msg : SipSignal} (hlate : msg.type ≠ .terminalComplete) :
    Undisturbed s (s.onSipSignalReceived api msg) ↔ HarmlessWhilePending msg s := by
  have hn : Undisturbed s (s.note (.handled msg)) :=
    undisturbed_of_eq rfl rfl rfl ⟨rfl, rfl, rfl, rfl⟩ ⟨rfl, rfl, rfl⟩
  have hback : ∀ s', Undisturbed (s.note (.handled msg)) s' ↔ Undisturbed s s' := by
    intro s'
    have hn' : Undisturbed (s.note (.handled msg)) s :=
      undisturbed_of_eq rfl rfl rfl ⟨rfl, rfl, rfl, rfl⟩ ⟨rfl, rfl, rfl⟩
    exact ⟨fun hu => hn.trans hu, fun hu => hn'.trans hu⟩
  have hp : FallbackPending (s.note (.handled msg)) := ⟨h.pending, h.calling, h.no_call_id⟩
  rw [← hback]
  simp only [onSipSignalReceived, HarmlessWhilePending]
  cases htype : msg.type with
  | invite =>
    -- The machine is not idle.
    simp only [iff_true]
    rw [onInvite, if_pos (by rw [hp.calling]; decide)]
    exact .refl _
  | mediaReady =>
    simp only [iff_true]
    rw [onMediaReady, if_pos (.inr (.inl (by rw [hp.calling]; decide)))]
    exact .refl _
  | options =>
    simp only [iff_true]
    exact .refl _
  | bye | cancel =>
    simp only [hp.accepts, Bool.false_eq_true, if_false, iff_false]
    exact fun hu => disturbed_request api hp (by decide) rfl hu.call_state
  | terminalComplete => exact absurd htype hlate
  | connectedIdentity => exact undisturbed_onConnectedIdentity_iff api hp msg
  | status200Ok => exact undisturbed_onStatus200Ok_iff api hp msg
  | finalResponse | mediaIncompatible | authRequired | proxyAuthRequired | protocolError =>
    exact undisturbed_onFailure_iff api hp msg
  | status180Ringing =>
    simp only [hp.calling, if_true, iff_false]
    intro hu
    have hc := hu.call_state
    rw [callState_setCallState, hp.calling] at hc
    exact absurd hc (by decide)

/-! ## Sequences of late signals -/

/-- What happens in the window: a signal of the failed attempt is delivered, the transport moves
    on, or time passes. `TERMINAL_COMPLETE` is not a late signal: it starts the retry. -/
inductive LateEvent (τ : Type) where
  | deliver (msg : SipSignal) (late : msg.type ≠ .terminalComplete)
  | transport (t : τ)
  | advance (millis espRandom : UInt32)

/-- One step in the window. -/
def lateStep (e : LateEvent τ) (s : VoipStack τ) : VoipStack τ :=
  match e with
  | .deliver msg _ => s.onSipSignalReceived api msg
  | .transport t => s.adopt api t
  | .advance millis espRandom => { s with millis := millis, espRandom := espRandom }

/-- The events that leave a pending retry alone. -/
def LateEvent.Harmless (e : LateEvent τ) (s : VoipStack τ) : Prop :=
  match e with
  | .deliver msg _ => HarmlessWhilePending msg s
  | .transport _ | .advance _ _ => True

theorem undisturbed_lateStep_iff {s : VoipStack τ} (h : FallbackPending s) (e : LateEvent τ) :
    Undisturbed s (lateStep api e s) ↔ e.Harmless s := by
  cases e with
  | deliver msg late => exact undisturbed_onSipSignalReceived_iff api h late
  | transport t | advance _ _ =>
    simp only [LateEvent.Harmless, iff_true]
    exact undisturbed_of_eq rfl rfl rfl ⟨rfl, rfl, rfl, rfl⟩ ⟨rfl, rfl, rfl⟩

/-- The window stays open, with no Call-ID to compare with, while nothing disturbs the retry. -/
theorem fallbackPending_lateStep {s : VoipStack τ} (h : FallbackPending s) {e : LateEvent τ}
    (hu : Undisturbed s (lateStep api e s)) : FallbackPending (lateStep api e s) := by
  exact ⟨hu.pending.trans h.pending, hu.call_state.trans h.calling, hu.call_id.trans h.no_call_id⟩

/-- While a fallback is pending, late signals change neither the call state, nor the reason, nor
    the retry, at any point of their sequence, exactly when each of them is harmless. -/
theorem late_signals_spare_the_fallback_iff {s : VoipStack τ} (h : FallbackPending s)
    (es : List (LateEvent τ)) :
    EventRun.Along (lateStep api) (fun e s' => Undisturbed s (lateStep api e s')) s es ↔
      EventRun.Along (lateStep api) LateEvent.Harmless s es := by
  have hgen : ∀ s', FallbackPending s' → Undisturbed s s' →
      (EventRun.Along (lateStep api) (fun e s' => Undisturbed s (lateStep api e s')) s' es ↔
        EventRun.Along (lateStep api) LateEvent.Harmless s' es) := by
    induction es with
    | nil => simp
    | cons e es ih =>
      intro s' hp hu
      have hback : Undisturbed s' s := hu.symm
      rw [EventRun.along_cons, EventRun.along_cons]
      constructor
      · rintro ⟨hn, hrest⟩
        have hstep : Undisturbed s' (lateStep api e s') := hback.trans hn
        exact ⟨(undisturbed_lateStep_iff api hp e).1 hstep,
          (ih _ (fallbackPending_lateStep api hp hstep) hn).1 hrest⟩
      · rintro ⟨he, hrest⟩
        have hstep := (undisturbed_lateStep_iff api hp e).2 he
        have hn := hu.trans hstep
        exact ⟨hn, (ih _ (fallbackPending_lateStep api hp hstep) hn).2 hrest⟩
  exact hgen s h (.refl s)

/-! ## A run in which a late signal ends the retry -/

/-- An idle phone that can dial Hall directly, or through Home Assistant. -/
def phoneWithHa : VoipStack (List Callback) where
  transport := []
  deviceName := "Kitchen"
  haPeerName := "Home"
  phonebook :=
    { entries := [{ name := "Hall", ip := "10.0.0.2", port := 5060, endpointType := .sip },
        { name := "Home", ip := "10.0.0.1", port := 5060, endpointType := .sip }] }

/-- The Call-ID of the direct attempt. -/
def directCallId : String := "Kitchen-0-0@esp"

/-- What the transport reports when Hall's 2xx has no common format: it was acknowledged, and a BYE
    is under way. -/
def directRefusal : SipSignal :=
  { type := .mediaIncompatible
    statusCode := 488
    callId := directCallId
    reason := "media_incompatible"
    terminalTransactionPending := true }

/-- The user calls Hall, which answers without a common format. -/
def refusedDirectAttempt : List (Event (List Callback)) :=
  [.start, .transport [.sipSignal directRefusal], .runDeferred, .runDeferred, .runDeferred,
    .runDeferred]

/-- Hall's BYE, which crossed the one that the transport has sent. -/
def crossingBye : SipSignal := { type := .bye, callId := directCallId }

theorem fallbackPending_refusedDirectAttempt :
    FallbackPending (EventRun.after (step scriptedTransport) phoneWithHa refusedDirectAttempt) :=
  ⟨by decide, by decide, by decide⟩

/-- The crossing BYE of the failed attempt ends the call and drops the retry. -/
theorem crossing_bye_drops_the_fallback :
    ¬ ∀ (es : List (Event (List Callback))) (fs : List (LateEvent (List Callback))),
      FallbackPending (EventRun.after (step scriptedTransport) phoneWithHa es) →
      EventRun.Along (lateStep scriptedTransport)
        (fun e s' => Undisturbed (EventRun.after (step scriptedTransport) phoneWithHa es)
          (lateStep scriptedTransport e s'))
        (EventRun.after (step scriptedTransport) phoneWithHa es) fs := by
  intro h
  have hb := h refusedDirectAttempt [.deliver crossingBye (by decide)]
    ⟨by decide, by decide, by decide⟩
  exact absurd hb.1.call_state (by decide)

/-- A late 488 is harmless, and so leaves the retry of the refused attempt alone. -/
theorem late_488_spares_the_fallback :
    EventRun.Along (lateStep scriptedTransport)
      (fun e s' => Undisturbed
        (EventRun.after (step scriptedTransport) phoneWithHa refusedDirectAttempt)
        (lateStep scriptedTransport e s'))
      (EventRun.after (step scriptedTransport) phoneWithHa refusedDirectAttempt)
      [.deliver directRefusal (by decide)] :=
  (late_signals_spare_the_fallback_iff scriptedTransport fallbackPending_refusedDirectAttempt
    _).2 ⟨rfl, trivial⟩

end VoipStack

end EsphomeVoip
