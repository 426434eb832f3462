import EsphomeVoip.Fsm.Termination

/-! # Media before `IN_CALL`

The call state machine enters `IN_CALL` through `set_in_call_(true)` only, and both of its callers
have just seen the transport start or commit the media of the current call.  A delayed-offer call
has no media to prepare before its `MEDIA_READY`.

Both facts are read off the trace, by an invariant that every handler keeps over every
transport. -/

namespace EsphomeVoip

/-! ## What the trace says about media -/

/-- Every active direction uses a configured format. -/
def FormatsConfigured (tx rx : AudioFormatList) (f : CurrentMediaFormats) : Prop :=
  (f.tx.isValid = true → f.tx ∈ tx) ∧ (f.rx.isValid = true → f.rx ∈ rx)

/-- Media of the call `callId` was prepared, and neither dropped nor left behind since. -/
def MediaPrepared (callId : String) : List Entry → Prop
  | [] => False
  | .issued id .prepareMediaPath true :: older => id = callId ∨ MediaPrepared callId older
  | .issued _ .stopAudioPath _ :: _ | .issued _ .abortMediaPath _ :: _
  | .issued _ .disconnect _ :: _ | .entered .idle _ _ :: _ => False
  | _ :: older => MediaPrepared callId older

/-- Media of the call `callId` was started, or prepared and committed, and neither dropped nor
    left behind since. -/
def MediaAdmitted (callId : String) : List Entry → Prop
  | [] => False
  | .issued id .startAudioPath true :: older => id = callId ∨ MediaAdmitted callId older
  | .issued id .commitMediaPath true :: older =>
    (id = callId ∧ MediaPrepared callId older) ∨ MediaAdmitted callId older
  | .issued _ .stopAudioPath _ :: _ | .issued _ .abortMediaPath _ :: _
  | .issued _ .disconnect _ :: _ | .entered .idle _ _ :: _ => False
  | _ :: older => MediaAdmitted callId older

/-- The Call-ID of a delayed-offer call in progress whose `MEDIA_READY` has not been delivered.
    The transport accepts no INVITE without a Call-ID. -/
def awaitingMedia : List Entry → Option String
  | [] => none
  | .accepted invite :: _ =>
    if invite.mediaAnswerPending ∧ invite.callId ≠ "" then some invite.callId else none
  | .handled msg :: older =>
    if msg.type = .mediaReady ∧ awaitingMedia older = some msg.callId then none
    else awaitingMedia older
  | .entered .ringing _ _ :: older | .entered .connecting _ _ :: older => awaitingMedia older
  | .entered _ _ _ :: _ => none
  | _ :: older => awaitingMedia older

/-- Preparing, committing or starting media, or activating the audio devices. -/
def Entry.activatesMedia : Entry → Bool
  | .issued _ .prepareMediaPath _ | .issued _ .commitMediaPath _ | .issued _ .startAudioPath _
  | .audioDevices true => true
  | _ => false

/-- Every entry into `IN_CALL` found media admitted for that call, in configured formats, and no
    media was activated for a delayed-offer call before its `MEDIA_READY`. -/
def MediaTraceOk (tx rx : AudioFormatList) : List Entry → Prop
  | [] => True
  | e :: older =>
    (∀ call formats, e = .entered .inCall call formats →
      MediaAdmitted call.callId older ∧ FormatsConfigured tx rx formats) ∧
    (e.activatesMedia = true → awaitingMedia older = none) ∧
    MediaTraceOk tx rx older

namespace VoipStack

variable {τ : Type} (api : TransportApi τ)

/-! ## The invariant -/

/-- What holds between handlers (`setup = false`), and while an incoming call is set up. -/
structure MediaInv (setup : Bool) (s : VoipStack τ) : Prop where
  trace_ok : MediaTraceOk s.txAudioFormats s.rxAudioFormats s.trace
  formats_ok : s.callState = .ringing ∨ s.callState = .connecting ∨ s.callState = .inCall →
    FormatsConfigured s.txAudioFormats s.rxAudioFormats s.currentMediaFormats
  awaiting_ok : ∀ id, awaitingMedia s.trace = some id →
    s.incomingMediaAnswerPending = true ∧ s.current.callId = id ∧ id ≠ "" ∧
      (s.callState = .ringing ∨ s.callState = .connecting ∨
        (setup = true ∧ s.callState = .idle ∧ s.incomingSetupPending = true))

/-- The fields that the invariant reads. -/
theorem MediaInv.congr {b : Bool} {s t : VoipStack τ} (h : MediaInv b s)
    (htrace : t.trace = s.trace) (hstate : t.callState = s.callState)
    (htx : t.txAudioFormats = s.txAudioFormats) (hrx : t.rxAudioFormats = s.rxAudioFormats)
    (hformats : t.currentMediaFormats = s.currentMediaFormats)
    (hpending : t.incomingMediaAnswerPending = s.incomingMediaAnswerPending)
    (hcall : t.current.callId = s.current.callId)
    (hsetup : t.incomingSetupPending = s.incomingSetupPending) : MediaInv b t := by
  constructor
  · rw [htrace, htx, hrx]
    exact h.trace_ok
  · rw [hstate, htx, hrx, hformats]
    exact h.formats_ok
  · rw [htrace, hstate, hpending, hcall, hsetup]
    exact h.awaiting_ok

/-- An entry that neither enters a state nor starts or ends a wait for media. -/
theorem MediaInv.note {b : Bool} {s : VoipStack τ} (h : MediaInv b s) {e : Entry}
    (hin : ∀ call formats, e ≠ .entered .inCall call formats)
    (hact : e.activatesMedia = true → awaitingMedia s.trace = none)
    (haw : awaitingMedia (e :: s.trace) = awaitingMedia s.trace) : MediaInv b (s.note e) := by
  refine ⟨⟨fun c f hcf => absurd hcf (hin c f), hact, h.trace_ok⟩, h.formats_ok, fun id hid => ?_⟩
  exact h.awaiting_ok id (haw ▸ hid)

theorem MediaInv.adopt {b : Bool} {s : VoipStack τ} (h : MediaInv b s) (t : τ) :
    MediaInv b (s.adopt api t) :=
  h.congr rfl rfl rfl rfl rfl rfl rfl rfl

/-- Issuing a command that is not about media. -/
theorem MediaInv.issue {b : Bool} {s : VoipStack τ} (h : MediaInv b s) {c : Command}
    (hc : (Entry.issued s.current.callId c (api.exec c s.transport).1).activatesMedia = false) :
    MediaInv b (s.issue api c).2 := by
  refine (h.adopt api (api.exec c s.transport).2).note (fun _ _ => Entry.noConfusion) ?_ rfl
  intro ha
  rw [hc] at ha
  exact absurd ha (by decide)

/-- Issuing any command when no delayed-offer call waits. -/
theorem MediaInv.issue_media {b : Bool} {s : VoipStack τ} (h : MediaInv b s) (c : Command)
    (hw : awaitingMedia s.trace = none) : MediaInv b (s.issue api c).2 :=
  (h.adopt api (api.exec c s.transport).2).note (fun _ _ => Entry.noConfusion) (fun _ => hw) rfl

/-- What a state change does to the fields that the invariant reads. -/
theorem setCallState_media {newState : CallState} {s : VoipStack τ} (h : s.callState ≠ newState) :
    (s.setCallState newState).trace =
        .entered newState s.current s.currentMediaFormats :: s.trace ∧
      (s.setCallState newState).txAudioFormats = s.txAudioFormats ∧
      (s.setCallState newState).rxAudioFormats = s.rxAudioFormats ∧
      (s.setCallState newState).currentMediaFormats = s.currentMediaFormats ∧
      (s.setCallState newState).incomingMediaAnswerPending = s.incomingMediaAnswerPending ∧
      (s.setCallState newState).current = s.current := by
  simp only [setCallState, if_neg h]
  cases newState <;> simp [defer, VoipStack.note, publishLastReason]

/-- The states in which a call has no accepted media to look after. -/
def CallState.leavesMedia (c : CallState) : Prop :=
  c ≠ .ringing ∧ c ≠ .connecting ∧ c ≠ .inCall

/-- A state without media, in which no delayed-offer call waits. -/
theorem MediaInv.of_away {s : VoipStack τ}
    (ht : MediaTraceOk s.txAudioFormats s.rxAudioFormats s.trace)
    (hn : CallState.leavesMedia s.callState) (hw : awaitingMedia s.trace = none) :
    MediaInv false s := by
  refine ⟨ht, ?_, fun id hid => ?_⟩
  · rintro (hc | hc | hc)
    · exact absurd hc hn.1
    · exact absurd hc hn.2.1
    · exact absurd hc hn.2.2
  · rw [hw] at hid
    exact absurd hid (by simp)

/-- A wait for `MEDIA_READY` belongs to a call that rings, connects or is being set up. -/
theorem MediaInv.not_awaiting {b : Bool} {s : VoipStack τ} (h : MediaInv b s)
    (hs : s.callState ≠ .ringing ∧ s.callState ≠ .connecting ∧
      ¬(s.callState = .idle ∧ s.incomingSetupPending = true)) : awaitingMedia s.trace = none := by
  cases hw : awaitingMedia s.trace with
  | none => rfl
  | some id =>
    obtain ⟨-, -, -, hc | hc | ⟨-, hc⟩⟩ := h.awaiting_ok id hw
    · exact absurd hc hs.1
    · exact absurd hc hs.2.1
    · exact absurd hc hs.2.2

/-- Leaving for a state without media ends the wait for `MEDIA_READY`. -/
theorem mediaInv_leave {s : VoipStack τ}
    (h : MediaTraceOk s.txAudioFormats s.rxAudioFormats s.trace) {newState : CallState}
    (hn : CallState.leavesMedia newState) (hne : s.callState ≠ newState) :
    MediaInv false (s.setCallState newState) ∧
      awaitingMedia (s.setCallState newState).trace = none := by
  obtain ⟨ht, htx, hrx, -, -, -⟩ := setCallState_media hne
  have hw : awaitingMedia (s.setCallState newState).trace = none := by
    rw [ht]
    obtain ⟨h1, h2, -⟩ := hn
    cases newState <;> first | rfl | exact absurd rfl h1 | exact absurd rfl h2
  refine ⟨.of_away ?_ ?_ hw, hw⟩
  · rw [ht, htx, hrx]
    refine ⟨fun c f hcf => ?_, fun ha => ?_, h⟩
    · exact absurd (Entry.entered.inj hcf).1 hn.2.2
    · exact absurd ha (by simp [Entry.activatesMedia])
  · rw [callState_setCallState]
    exact hn

/-- A call that waits for `MEDIA_READY` is the current one, and has a Call-ID. -/
def AwaitsCurrent (s : VoipStack τ) : Prop :=
  ∀ id, awaitingMedia s.trace = some id →
    s.incomingMediaAnswerPending = true ∧ s.current.callId = id ∧ id ≠ ""

theorem MediaInv.awaitsCurrent {b : Bool} {s : VoipStack τ} (h : MediaInv b s) :
    s.AwaitsCurrent := by
  intro id hid
  obtain ⟨hp, hc, hi, -⟩ := h.awaiting_ok id hid
  exact ⟨hp, hc, hi⟩

/-- `RINGING` and `CONNECTING` need configured formats, and keep a wait for `MEDIA_READY`. -/
theorem mediaInv_setup_state {s : VoipStack τ}
    (ht : MediaTraceOk s.txAudioFormats s.rxAudioFormats s.trace) (ha : s.AwaitsCurrent)
    {c : CallState} (hn : c = .ringing ∨ c = .connecting)
    (hf : FormatsConfigured s.txAudioFormats s.rxAudioFormats s.currentMediaFormats) :
    MediaInv false (s.setCallState c) ∧
      awaitingMedia (s.setCallState c).trace = awaitingMedia s.trace := by
  by_cases hne : s.callState = c
  · have hs : s.setCallState c = s := by
      simp only [setCallState, if_pos hne]
    rw [hs]
    refine ⟨⟨ht, fun _ => hf, fun id hid => ?_⟩, rfl⟩
    obtain ⟨hp, hc, hi⟩ := ha id hid
    refine ⟨hp, hc, hi, ?_⟩
    rcases hn with hn | hn
    · exact .inl (hne.trans hn)
    · exact .inr (.inl (hne.trans hn))
  · obtain ⟨htr, htx, hrx, hcm, hp, hcur⟩ := setCallState_media hne
    have hw : awaitingMedia (s.setCallState c).trace = awaitingMedia s.trace := by
      rw [htr]
      rcases hn with hn | hn <;> rw [hn] <;> rfl
    refine ⟨⟨?_, ?_, ?_⟩, hw⟩
    · rw [htr, htx, hrx]
      refine ⟨fun call f hcf => ?_, fun ha => ?_, ht⟩
      · have hin := (Entry.entered.inj hcf).1
        rcases hn with hn | hn <;> rw [hn] at hin <;> exact absurd hin (by decide)
      · exact absurd ha (by simp [Entry.activatesMedia])
    · rw [htx, hrx, hcm]
      exact fun _ => hf
    · intro id hid
      rw [hw] at hid
      obtain ⟨hp', hc', hi⟩ := ha id hid
      rw [hp, hcur, callState_setCallState]
      refine ⟨hp', hc', hi, ?_⟩
      rcases hn with hn | hn
      · exact .inl hn
      · exact .inr (.inl hn)

/-- Entering the call, with media admitted for it. -/
theorem MediaInv.enter {b : Bool} {s : VoipStack τ} (h : MediaInv b s)
    (hne : s.callState ≠ .inCall) (hm : MediaAdmitted s.current.callId s.trace)
    (hf : FormatsConfigured s.txAudioFormats s.rxAudioFormats s.currentMediaFormats) :
    MediaInv false (s.setCallState .inCall) := by
  obtain ⟨ht, htx, hrx, hcm, -, -⟩ := setCallState_media hne
  refine ⟨?_, ?_, ?_⟩
  · rw [ht, htx, hrx]
    refine ⟨fun c f hcf => ?_, fun ha => ?_, h.trace_ok⟩
    · obtain ⟨-, rfl, rfl⟩ := Entry.entered.inj hcf
      exact ⟨hm, hf⟩
    · exact absurd ha (by simp [Entry.activatesMedia])
  · rw [htx, hrx, hcm]
    exact fun _ => hf
  · intro id hid
    rw [ht] at hid
    exact absurd hid (by simp [awaitingMedia])

/-- The devices are switched off at any time, and on when no delayed-offer call waits. -/
theorem MediaInv.devices {b : Bool} {s : VoipStack τ} (h : MediaInv b s) (on : Bool)
    (hw : on = true → awaitingMedia s.trace = none) :
    MediaInv b (s.setAudioDevicesActive api on) := by
  have hn : MediaInv b
      (VoipStack.note (.audioDevices on) { s with audioDevicesActive := on }) := by
    refine (h.congr (t := { s with audioDevicesActive := on }) rfl rfl rfl rfl rfl rfl rfl
      rfl).note (fun _ _ => Entry.noConfusion) ?_ rfl
    cases on with
    | true => exact fun _ => hw rfl
    | false => exact fun ha => absurd ha (by decide)
  simp only [setAudioDevicesActive]
  split
  · exact hn.congr rfl rfl rfl rfl rfl rfl rfl rfl
  · exact hn

/-! ## Termination -/

theorem leavesMedia_terminalStateOf (r : CallEndReason) :
    CallState.leavesMedia (terminalStateOf r) := by
  cases r <;> exact ⟨by decide, by decide, by decide⟩

theorem mediaInv_endAttempt {b : Bool} {s : VoipStack τ} (h : MediaInv b s) :
    MediaInv false s.endAttempt := by
  have hn : CallState.leavesMedia .calling := ⟨by decide, by decide, by decide⟩
  by_cases hc : s.callState = .calling
  · have hw := h.not_awaiting (by rw [hc]; exact ⟨by decide, by decide, by simp⟩)
    refine .of_away ?_ ?_ ?_ <;> simp only [endAttempt, setCallState, hc, defer, if_true]
    · exact h.trace_ok
    · exact hn
    · exact hw
  · exact (mediaInv_leave (s := { s with
      pendingDialplanTarget := "", current := { s.current with callId := "" } }) h.trace_ok hn
      hc).1.congr rfl rfl rfl rfl rfl rfl rfl rfl

theorem mediaInv_publishCallEnd {b : Bool} {s : VoipStack τ} (h : MediaInv b s)
    (hs : callStateIsTerminating s.callState = false) (reason : CallEndReason)
    (reasonStr : String) : MediaInv false (s.publishCallEnd reason reasonStr) := by
  have hne : s.callState ≠ terminalStateOf reason := by
    intro hc
    rw [hc, callStateIsTerminating_terminalStateOf] at hs
    exact absurd hs (by decide)
  obtain ⟨hi, hw⟩ := mediaInv_leave (s := publishLastReason reasonStr { s with
    pendingDialplanTarget := "", haMediaFallbackPending := false
    lastTerminal := s.terminalCallSnapshot }) h.trace_ok (leavesMedia_terminalStateOf reason) hne
  have hc := callState_setCallState (terminalStateOf reason) (publishLastReason reasonStr { s with
    pendingDialplanTarget := "", haMediaFallbackPending := false
    lastTerminal := s.terminalCallSnapshot })
  simp only [publishCallEnd, defer, clearCallIdentity]
  generalize setCallState (terminalStateOf reason) _ = t at hi hw hc ⊢
  refine .of_away hi.trace_ok ?_ hw
  rw [hc]
  exact leavesMedia_terminalStateOf reason

theorem mediaInv_endCall {b : Bool} {s : VoipStack τ} (h : MediaInv b s)
    (hs : callStateIsTerminating s.callState = false) (reason : CallEndReason)
    (detail : String) : MediaInv false (s.endCall reason detail) := by
  simp only [endCall]
  split
  · rename_i hidle
    exact .of_away h.trace_ok (by rw [hidle.1]; exact ⟨by decide, by decide, by decide⟩)
      (h.not_awaiting (by rw [hidle.1, hidle.2]; exact ⟨by decide, by decide, by decide⟩))
  split
  · exact mediaInv_endAttempt h
  · exact mediaInv_publishCallEnd h hs _ _

theorem MediaInv.sendTermination {b : Bool} {s : VoipStack τ} (h : MediaInv b s)
    (callId detail : String) (action : SipTerminationAction) :
    MediaInv b (s.sendTermination api callId detail action).2 := by
  cases action with
  | cancel | bye | finalResponse => exact h.issue api rfl
  | auto | none => exact h

/-- A termination request for a call that is not over, set up or being set up. -/
theorem mediaInv_requestCallTerminationWith {b : Bool} {s : VoipStack τ} (h : MediaInv b s)
    (hs : callStateIsTerminating s.callState = false) (finish : VoipStack τ → VoipStack τ)
    (intent : TerminationIntent) :
    MediaInv false (s.requestCallTerminationWith api finish intent) := by
  simp only [requestCallTerminationWith, hs, Bool.false_eq_true, if_false]
  refine dispatchCallTermination_rule (P := fun s' : VoipStack τ => MediaInv b s' ∧
    callStateIsTerminating s'.callState = false) (Q := MediaInv false) ?_ ?_ ?_ ?_ ?_ ?_ ⟨h, hs⟩
  · rintro (⟨hidle, hsetup⟩ | ht)
    · refine ⟨h.trace_ok, h.formats_ok, fun id hid => ?_⟩
      obtain ⟨hp, hc, hne, hst | hst | ⟨-, -, hst⟩⟩ := h.awaiting_ok id hid
      · exact ⟨hp, hc, hne, .inl hst⟩
      · exact ⟨hp, hc, hne, .inr (.inl hst)⟩
      · -- A call that is being set up has a Call-ID.
        rw [← hc] at hne
        simp [hst, hne] at hsetup
    · rw [hs] at ht
      exact absurd ht (by decide)
  · exact fun s' hs' => ⟨hs'.1.congr rfl rfl rfl rfl rfl rfl rfl rfl, hs'.2⟩
  · intro a s' hs'
    refine ⟨hs'.1.sendTermination api _ _ a, ?_⟩
    rw [show (s'.sendTermination api _ _ a).2.callState = s'.callState from
      congrArg TerminalView.callState (terminalView_sendTermination api _ _ a s')]
    exact hs'.2
  · exact fun s' hs' => mediaInv_endCall hs'.1 hs'.2 _ _
  · intro s' hs'
    exact (hs'.issue api rfl).devices api false (fun hf => absurd hf (by decide))
  · exact fun s' hs' => hs'.issue api rfl

/-- Outside a set-up the two invariants agree. -/
theorem MediaInv.settle {b : Bool} {s : VoipStack τ} (h : MediaInv b s)
    (hs : ¬(s.callState = .idle ∧ s.incomingSetupPending = true)) : MediaInv false s := by
  refine ⟨h.trace_ok, h.formats_ok, fun id hid => ?_⟩
  obtain ⟨hp, hc, hne, hst | hst | ⟨-, hst⟩⟩ := h.awaiting_ok id hid
  · exact ⟨hp, hc, hne, .inl hst⟩
  · exact ⟨hp, hc, hne, .inr (.inl hst)⟩
  · exact absurd hst hs

/-! ## Placing a call -/

/-- No media belongs to the state, and no delayed-offer call waits. -/
structure MediaAway (s : VoipStack τ) : Prop where
  trace_ok : MediaTraceOk s.txAudioFormats s.rxAudioFormats s.trace
  away : CallState.leavesMedia s.callState
  not_awaiting : awaitingMedia s.trace = none

theorem MediaAway.inv {s : VoipStack τ} (h : MediaAway s) : MediaInv false s :=
  .of_away h.trace_ok h.away h.not_awaiting

theorem MediaAway.congr {s t : VoipStack τ} (h : MediaAway s) (htrace : t.trace = s.trace)
    (hstate : t.callState = s.callState) (htx : t.txAudioFormats = s.txAudioFormats)
    (hrx : t.rxAudioFormats = s.rxAudioFormats) : MediaAway t := by
  refine ⟨?_, ?_, ?_⟩
  · rw [htrace, htx, hrx]
    exact h.trace_ok
  · rw [hstate]
    exact h.away
  · rw [htrace]
    exact h.not_awaiting

theorem MediaAway.issue {s : VoipStack τ} (h : MediaAway s) (c : Command) :
    MediaAway (s.issue api c).2 :=
  ⟨(h.inv.issue_media api c h.not_awaiting).trace_ok, h.away, h.not_awaiting⟩

theorem MediaAway.devices {s : VoipStack τ} (h : MediaAway s) (on : Bool) :
    MediaAway (s.setAudioDevicesActive api on) := by
  refine ⟨(h.inv.devices api on fun _ => h.not_awaiting).trace_ok, ?_, ?_⟩
  · rw [callState_setAudioDevicesActive]
    exact h.away
  · simp only [setAudioDevicesActive]
    split
    · exact h.not_awaiting
    · exact h.not_awaiting

theorem MediaAway.setCallState {s : VoipStack τ} (h : MediaAway s) {newState : CallState}
    (hn : CallState.leavesMedia newState) : MediaAway (s.setCallState newState) := by
  by_cases hne : s.callState = newState
  · have hs : s.setCallState newState = s := by
      simp only [VoipStack.setCallState, if_pos hne]
    rw [hs]
    exact h
  · obtain ⟨hi, hw⟩ := mediaInv_leave h.trace_ok hn hne
    exact ⟨hi.trace_ok, by rwa [callState_setCallState], hw⟩

theorem MediaInv.away {b : Bool} {s : VoipStack τ} (h : MediaInv b s)
    (hs : s.callState = .calling ∨ s.callState = .remoteRinging) : MediaAway s := by
  rcases hs with hs | hs
  · exact ⟨h.trace_ok, by rw [hs]; exact ⟨by decide, by decide, by decide⟩,
      h.not_awaiting (by rw [hs]; exact ⟨by decide, by decide, by simp⟩)⟩
  · exact ⟨h.trace_ok, by rw [hs]; exact ⟨by decide, by decide, by decide⟩,
      h.not_awaiting (by rw [hs]; exact ⟨by decide, by decide, by simp⟩)⟩

theorem MediaInv.away_idle {s : VoipStack τ} (h : MediaInv false s) (hs : s.callState = .idle) :
    MediaAway s := by
  refine ⟨h.trace_ok, by rw [hs]; exact ⟨by decide, by decide, by decide⟩, ?_⟩
  cases hw : awaitingMedia s.trace with
  | none => rfl
  | some id =>
    obtain ⟨-, -, -, hc | hc | ⟨hf, -⟩⟩ := h.awaiting_ok id hw
    · rw [hs] at hc
      exact absurd hc (by decide)
    · rw [hs] at hc
      exact absurd hc (by decide)
    · exact absurd hf (by decide)

theorem leavesMedia_calling : CallState.leavesMedia .calling := ⟨by decide, by decide, by decide⟩

theorem mediaAway_announceCallAttempt {s : VoipStack τ} (h : MediaAway s) (viaHa : Bool)
    (dial : DialTarget) (who : AttemptIdentity) :
    MediaAway (s.announceCallAttempt api viaHa dial who) := by
  have h3 := (((h.congr (t := s.clearTerminalCallSnapshot) rfl rfl rfl rfl).issue api
    (.setSipSignalingTransport dial.sipTcp)).issue api
    (.setPeerDirectionalAudioV1 dial.directionalAudioV1)).issue api
    (.setRemote dial.ip dial.port dial.rtpPort)
  simp only [announceCallAttempt]
  refine MediaAway.congr (s := VoipStack.setCallState .calling _) ?_ rfl rfl rfl rfl
  refine (MediaAway.devices api ?_ true).setCallState leavesMedia_calling
  refine h3.congr ?_ ?_ ?_ ?_ <;>
    simp only [setCurrentMediaFormats, setCallIdentity, clearTerminalResponse, defer] <;>
    split <;> split <;> rfl

theorem mediaInv_placeCallAttempt {s : VoipStack τ} (h : MediaAway s)
    (hs : callStateIsTerminating s.callState = false) (dial : DialTarget)
    (who : AttemptIdentity) : MediaInv false (s.placeCallAttempt api dial who) := by
  have ho := h.issue api (.originate dial.ip dial.port)
  have hcongr : ∀ s : VoipStack τ, MediaAway s →
      MediaInv false { s with pendingDialplanTarget := "" } :=
    fun s hs => hs.inv.congr rfl rfl rfl rfl rfl rfl rfl rfl
  simp only [placeCallAttempt]
  split
  · exact mediaInv_requestCallTerminationWith api (hcongr _ ho) hs _ _
  split
  · exact mediaInv_requestCallTerminationWith api (hcongr _ (ho.issue api _)) hs _ _
  · exact hcongr _ (ho.issue api _)

theorem mediaInv_startUnreachableAttempt {s : VoipStack τ} (h : MediaAway s)
    (who : AttemptIdentity) : MediaInv false (s.startUnreachableAttempt api who) := by
  simp only [startUnreachableAttempt]
  refine mediaInv_requestCallTerminationWith api (b := false) ?_ ?_ _ _
  · refine (MediaAway.setCallState ?_ leavesMedia_calling).inv
    refine h.congr ?_ ?_ ?_ ?_ <;>
      simp only [setCurrentMediaFormats, setCallIdentity, clearTerminalResponse,
        clearTerminalCallSnapshot]
  · rw [callState_setCallState]
    rfl

theorem mediaInv_startCallAttempt {s : VoipStack τ} (h : MediaAway s)
    (hs : callStateIsTerminating s.callState = false) (viaHa : Bool) (requestedCallId : String) :
    MediaInv false (s.startCallAttempt api viaHa requestedCallId) := by
  simp only [startCallAttempt]
  split
  · exact mediaInv_startUnreachableAttempt api h _
  · have ha := mediaAway_announceCallAttempt api h viaHa (s.dialTarget viaHa)
      (s.attemptIdentity viaHa requestedCallId)
    refine mediaInv_placeCallAttempt api ha ?_ _ _
    have hsil := silent_announceCallAttempt api viaHa (s.dialTarget viaHa)
      (s.attemptIdentity viaHa requestedCallId) s
    exact hsil.not_terminating hs

theorem mediaInv_finishCallTermination {s : VoipStack τ} (h : MediaInv false s) :
    MediaInv false (s.finishCallTermination api) := by
  simp only [finishCallTermination]
  split
  · exact h
  split
  · exact h
  split
  · rename_i hp
    exact mediaInv_startCallAttempt api (h.away (.inl hp.2)) (by rw [hp.2]; rfl) true ""
  split
  · rename_i ht
    refine (mediaInv_leave h.trace_ok ⟨by decide, by decide, by decide⟩ ?_).1
    intro hc
    rw [hc] at ht
    exact absurd ht (by decide)
  · exact h

theorem mediaInv_requestCallTermination {b : Bool} {s : VoipStack τ} (h : MediaInv b s)
    (intent : TerminationIntent) : MediaInv false (s.requestCallTermination api intent) := by
  cases hs : callStateIsTerminating s.callState with
  | false => exact mediaInv_requestCallTerminationWith api h hs _ intent
  | true =>
    simp only [requestCallTermination, requestCallTerminationWith, hs, if_true]
    refine mediaInv_finishCallTermination api (h.settle ?_)
    rintro ⟨hc, -⟩
    rw [hc] at hs
    exact absurd hs (by decide)

theorem mediaInv_startWithId {s : VoipStack τ} (h : MediaInv false s) (callId : String) :
    MediaInv false (s.startWithId api callId) := by
  simp only [startWithId]
  split
  · rename_i hc
    have hidle : s.callState = .idle := by
      simp only [canStartCall, Bool.and_eq_true, beq_iff_eq] at hc
      exact hc.1
    have ha : MediaAway { s with
        haMediaFallbackPending := false, haMediaFallbackAttempted := false } :=
      (h.away_idle hidle).congr rfl rfl rfl rfl
    refine mediaInv_startCallAttempt api ha ?_ _ _
    simp only [hidle]
    rfl
  · exact h.congr rfl rfl rfl rfl rfl rfl rfl rfl

theorem mediaInv_refuse {s : VoipStack τ} (h : MediaInv false s) (peer reason : String) :
    MediaInv false (s.refuse peer reason) :=
  h.congr rfl rfl rfl rfl rfl rfl rfl rfl

theorem mediaInv_call {s : VoipStack τ} (h : MediaInv false s) (value callId : String) :
    MediaInv false (s.call api value callId) := by
  simp only [call]
  split
  · split
    · exact mediaInv_refuse h _ _
    split
    · exact mediaInv_refuse h _ _
    split
    · rename_i pb _
      have hp : MediaInv false { s with pendingDialplanTarget := "", phonebook := pb } :=
        h.congr rfl rfl rfl rfl rfl rfl rfl rfl
      exact mediaInv_startWithId api hp ""
    · split
      · rename_i pb _
        have hp : MediaInv false { s with
            phonebook := pb
            pendingDialplanTarget := String.ofList (Phonebook.trim value.toList) } :=
          h.congr rfl rfl rfl rfl rfl rfl rfl rfl
        exact mediaInv_startWithId api hp callId
      · exact mediaInv_refuse h _ _
  · exact h

theorem mediaInv_setContact {s : VoipStack τ} (h : MediaInv false s) (name : String) :
    MediaInv false (s.setContact name).2 := by
  simp only [setContact]
  split
  · exact mediaInv_refuse h _ _
  split
  · exact h.congr rfl rfl rfl rfl rfl rfl rfl rfl
  · exact mediaInv_refuse h _ _

theorem mediaInv_stop {s : VoipStack τ} (h : MediaInv false s) : MediaInv false (s.stop api) := by
  simp only [stop]
  split
  · exact mediaInv_requestCallTermination api h _
  split
  · exact h.devices api false (fun hf => absurd hf (by decide))
  · exact h

/-! ## Answering a call -/

theorem mediaInv_setInCall {s : VoipStack τ} (h : MediaInv false s)
    (hw : awaitingMedia s.trace = none) (hm : MediaAdmitted s.current.callId s.trace)
    (hf : FormatsConfigured s.txAudioFormats s.rxAudioFormats s.currentMediaFormats) :
    MediaInv false (s.setInCall api) := by
  have hd := h.devices api true (fun _ => hw)
  have hkeep : MediaAdmitted (s.setAudioDevicesActive api true).current.callId
      (s.setAudioDevicesActive api true).trace ∧
      FormatsConfigured (s.setAudioDevicesActive api true).txAudioFormats
        (s.setAudioDevicesActive api true).rxAudioFormats
        (s.setAudioDevicesActive api true).currentMediaFormats := by
    simp only [setAudioDevicesActive]
    split
    · exact ⟨hm, hf⟩
    · exact ⟨hm, hf⟩
  simp only [setInCall]
  split
  · exact h
  split
  · exact h
  · rename_i hc _
    refine (hd.congr (t := (s.setAudioDevicesActive api true).resetPeerAudioWatchdog api true)
      rfl rfl rfl rfl rfl rfl rfl rfl).enter ?_ hkeep.1 hkeep.2
    intro hin
    exact hc ((callState_setAudioDevicesActive api true s).symm.trans hin)

theorem mediaInv_commitIncomingAnswer {s : VoipStack τ} (h : MediaInv false s)
    (hw : awaitingMedia s.trace = none) (hp : MediaPrepared s.current.callId s.trace)
    (hf : FormatsConfigured s.txAudioFormats s.rxAudioFormats s.currentMediaFormats) :
    MediaInv false (s.commitIncomingAnswer api) := by
  have hd := h.devices api true (fun _ => hw)
  have hkeep : MediaPrepared (s.setAudioDevicesActive api true).current.callId
      (s.setAudioDevicesActive api true).trace ∧
      FormatsConfigured (s.setAudioDevicesActive api true).txAudioFormats
        (s.setAudioDevicesActive api true).rxAudioFormats
        (s.setAudioDevicesActive api true).currentMediaFormats ∧
      awaitingMedia (s.setAudioDevicesActive api true).trace = none := by
    simp only [setAudioDevicesActive]
    split
    · exact ⟨hp, hf, hw⟩
    · exact ⟨hp, hf, hw⟩
  generalize hs' : s.setAudioDevicesActive api true = s' at hd hkeep
  have hc := hd.issue_media api .commitMediaPath hkeep.2.2
  simp only [commitIncomingAnswer, hs']
  split
  · exact mediaInv_requestCallTermination api (hc.issue api rfl) _
  · rename_i hok
    refine mediaInv_setInCall api hc hkeep.2.2 ?_ hkeep.2.1
    simp only [issue, adopt, VoipStack.note]
    rw [Bool.not_eq_false] at hok
    rw [show (api.exec .commitMediaPath s'.transport).1 = true from hok]
    exact .inl ⟨rfl, hkeep.1⟩

theorem configured_setCallState {newState : CallState} {s : VoipStack τ}
    (hf : FormatsConfigured s.txAudioFormats s.rxAudioFormats s.currentMediaFormats) :
    FormatsConfigured (s.setCallState newState).txAudioFormats
      (s.setCallState newState).rxAudioFormats (s.setCallState newState).currentMediaFormats := by
  by_cases hne : s.callState = newState
  · simp only [setCallState, if_pos hne]
    exact hf
  · obtain ⟨-, htx, hrx, hcm, -, -⟩ := setCallState_media hne
    rw [htx, hrx, hcm]
    exact hf

theorem current_setCallState (newState : CallState) (s : VoipStack τ) :
    (s.setCallState newState).current = s.current := by
  by_cases hne : s.callState = newState
  · simp only [setCallState, if_pos hne]
  · exact (setCallState_media hne).2.2.2.2.2

/-- Connecting keeps prepared media. -/
theorem mediaPrepared_setCallState {callId : String} {s : VoipStack τ}
    (hp : MediaPrepared callId s.trace) :
    MediaPrepared callId (s.setCallState .connecting).trace := by
  by_cases hne : s.callState = .connecting
  · simp only [setCallState, if_pos hne]
    exact hp
  · rw [(setCallState_media hne).1]
    exact hp

/-- An answer is sent, or was not asked for. -/
theorem MediaInv.sendIncomingAnswer {b : Bool} {s : VoipStack τ} (h : MediaInv b s)
    (sendAnswer : Bool) (callId : String) :
    MediaInv b (s.sendIncomingAnswer api sendAnswer callId).2 := by
  simp only [VoipStack.sendIncomingAnswer]
  split
  · split
    · exact (MediaInv.issue api h rfl).congr rfl rfl rfl rfl rfl rfl rfl rfl
    · exact MediaInv.issue api h rfl
  · exact h

/-- What sending the answer leaves for the commit. -/
theorem sendIncomingAnswer_ready {s : VoipStack τ} (sendAnswer : Bool) (callId : String)
    (hw : awaitingMedia s.trace = none) (hp : MediaPrepared s.current.callId s.trace)
    (hf : FormatsConfigured s.txAudioFormats s.rxAudioFormats s.currentMediaFormats) :
    awaitingMedia (s.sendIncomingAnswer api sendAnswer callId).2.trace = none ∧
    MediaPrepared (s.sendIncomingAnswer api sendAnswer callId).2.current.callId
      (s.sendIncomingAnswer api sendAnswer callId).2.trace ∧
    FormatsConfigured (s.sendIncomingAnswer api sendAnswer callId).2.txAudioFormats
      (s.sendIncomingAnswer api sendAnswer callId).2.rxAudioFormats
      (s.sendIncomingAnswer api sendAnswer callId).2.currentMediaFormats := by
  simp only [VoipStack.sendIncomingAnswer]
  split
  · split
    · exact ⟨hw, hp, hf⟩
    · exact ⟨hw, hp, hf⟩
  · exact ⟨hw, hp, hf⟩

theorem mediaInv_acceptIncomingAnswer {b : Bool} {s : VoipStack τ} (h : MediaInv b s)
    (sendAnswer waiting : Bool) (callId : String)
    (hf : FormatsConfigured s.txAudioFormats s.rxAudioFormats s.currentMediaFormats)
    (hp : waiting = false →
      awaitingMedia s.trace = none ∧ MediaPrepared s.current.callId s.trace) :
    MediaInv false (s.acceptIncomingAnswer api sendAnswer waiting callId) := by
  obtain ⟨hc, hw⟩ := mediaInv_setup_state (s := { s with incomingSetupPending := false })
    h.trace_ok h.awaitsCurrent (.inr rfl) hf
  have hready := fun hwait => sendIncomingAnswer_ready api
    (s := setCallState .connecting { s with incomingSetupPending := false }) sendAnswer callId
    (hw.trans (hp hwait).1)
    ((congrArg (fun c : CallSnapshot => MediaPrepared c.callId _)
      (current_setCallState .connecting { s with incomingSetupPending := false })).mpr
      (mediaPrepared_setCallState (hp hwait).2))
    (configured_setCallState (s := { s with incomingSetupPending := false }) hf)
  have ha := hc.sendIncomingAnswer api sendAnswer callId
  simp only [acceptIncomingAnswer]
  generalize VoipStack.sendIncomingAnswer api sendAnswer callId _ = answered at ha hready ⊢
  split
  · exact mediaInv_requestCallTermination api (ha.issue api rfl) _
  split
  · exact ha
  · rename_i hwait
    obtain ⟨h1, h2, h3⟩ := hready (Bool.eq_false_iff.2 hwait)
    exact mediaInv_commitIncomingAnswer api ha h1 h2 h3

/-- Answering an incoming call, of which either the media or the SDP answer is still to come. -/
theorem mediaInv_completeIncomingAnswer {b : Bool} {s : VoipStack τ} (h : MediaInv b s)
    (sendAnswer : Bool)
    (hf : FormatsConfigured s.txAudioFormats s.rxAudioFormats s.currentMediaFormats)
    (hw : (sendAnswer && s.incomingMediaAnswerPending) = false → awaitingMedia s.trace = none) :
    MediaInv false (s.completeIncomingAnswer api sendAnswer) := by
  simp only [completeIncomingAnswer, prepareIncomingMedia]
  cases hwait : sendAnswer && s.incomingMediaAnswerPending with
  | true =>
    simp only [if_true, Bool.true_eq_false, if_false]
    exact mediaInv_acceptIncomingAnswer api h _ _ _ hf (fun hf => absurd hf (by decide))
  | false =>
    have hp := h.issue_media api .prepareMediaPath (hw hwait)
    simp only [Bool.false_eq_true, if_false]
    split
    · exact mediaInv_requestCallTermination api hp _
    · rename_i hok
      refine mediaInv_acceptIncomingAnswer api hp _ _ _ hf (fun _ => ⟨hw hwait, ?_⟩)
      rw [Bool.not_eq_false] at hok
      simp only [VoipStack.issue, VoipStack.adopt, VoipStack.note]
      rw [show (api.exec .prepareMediaPath s.transport).1 = true from hok]
      exact .inl rfl

theorem mediaInv_answerCall {s : VoipStack τ} (h : MediaInv false s) :
    MediaInv false (s.answerCall api) := by
  simp only [answerCall]
  split
  · rename_i hs
    refine mediaInv_completeIncomingAnswer api h true (h.formats_ok (.inl hs.1)) ?_
    intro hwait
    cases hw : awaitingMedia s.trace with
    | none => rfl
    | some id =>
      rw [(h.awaiting_ok id hw).1] at hwait
      exact absurd hwait (by decide)
  · exact h

theorem mediaInv_declineCall {s : VoipStack τ} (h : MediaInv false s) (reason : String) :
    MediaInv false (s.declineCall api reason) := by
  simp only [declineCall]
  split
  · exact mediaInv_stop api h
  · exact mediaInv_requestCallTermination api h _
  · exact mediaInv_requestCallTermination api h _
  · exact mediaInv_requestCallTermination api h _
  · exact h

theorem mediaInv_callToggle {s : VoipStack τ} (h : MediaInv false s) :
    MediaInv false (s.callToggle api) := by
  simp only [callToggle]
  split
  · exact mediaInv_answerCall api h
  split
  · exact mediaInv_stop api h
  · exact mediaInv_startWithId api h ""

/-! ## Signals -/

/-- The formats chosen for an offer are the endpoint's own, or disabled. -/
theorem selectInviteFormats_configured {msg : SipSignal} {tx rx : AudioFormatList}
    {toDest toCaller : AudioFormat}
    (h : selectInviteFormats msg tx rx = some (toDest, toCaller)) :
    FormatsConfigured tx rx ⟨toDest, toCaller, toCaller, toDest⟩ := by
  have hchoose : ∀ (offered : Bool) (preferred supported : AudioFormatList) (f : AudioFormat),
      (if offered then chooseCommonAudioFormat preferred supported
        else some disabledAudioFormat) = some f → f.isValid = true → f ∈ supported := by
    intro offered preferred supported f hf hv
    cases offered with
    | true => exact chooseCommonAudioFormat_mem_supported hf
    | false =>
      rw [← Option.some.inj hf] at hv
      exact absurd hv (by simp)
  simp only [selectInviteFormats] at h
  split at h
  · exact absurd h (by simp)
  · split at h
    · rename_i a b ha hb
      obtain ⟨rfl, rfl⟩ := Prod.mk.inj (Option.some.inj h)
      exact ⟨hchoose _ _ _ _ hb, hchoose _ _ _ _ ha⟩
    · exact absurd h (by simp)

/-- The formats a 200 OK or a media-ready signal selects are the endpoint's own. -/
theorem configured_of_not_rejected {msg : SipSignal} {tx rx : AudioFormatList}
    (h : ¬msg.selectedFormatsRejected tx rx = true) (a b : AudioFormat) :
    FormatsConfigured tx rx ⟨a, b, msg.selectedTxFormat, msg.selectedRxFormat⟩ := by
  simp only [SipSignal.selectedFormatsRejected, Bool.or_eq_true, Bool.and_eq_true,
    Bool.not_eq_true', not_or, not_and, Bool.not_eq_false] at h
  exact ⟨fun hv => (audioFormatListContains_iff _ _).1 (h.1.1 hv),
    fun hv => (audioFormatListContains_iff _ _).1 (h.1.2 hv)⟩

theorem mediaInv_rejectInvite {s : VoipStack τ} (h : MediaInv false s) (callId reason : String) :
    MediaInv false (s.rejectInvite api callId reason) := by
  have hset : MediaInv false (s.setTerminalResponse callId reason) :=
    h.congr rfl rfl rfl rfl rfl rfl rfl rfl
  exact (hset.issue api rfl).issue api rfl

/-- What adopting an INVITE makes of an idle machine. -/
theorem mediaInv_adoptInvite {s : VoipStack τ} (h : MediaAway s) (hs : s.callState = .idle)
    (msg : SipSignal) : MediaInv true (s.adoptInvite api msg) := by
  have hset : ∀ s' : VoipStack τ, s'.callState = .idle → s'.current.callId = msg.callId →
      MediaTraceOk s'.txAudioFormats s'.rxAudioFormats s'.trace →
      MediaInv true (note (.accepted msg) { s' with
        incomingSetupPending := true
        incomingMediaAnswerPending := msg.mediaAnswerPending
        incomingAnswerAccepted := false }) := by
    intro s' hidle hcur htr
    refine ⟨⟨fun _ _ => Entry.noConfusion, fun ha => absurd ha Bool.false_ne_true, htr⟩, ?_, ?_⟩
    · rintro (hc | hc | hc) <;> exact absurd (hidle.symm.trans hc) (by decide)
    · intro id hid
      simp only [note, awaitingMedia] at hid
      split at hid
      · rename_i hp
        obtain rfl := Option.some.inj hid
        exact ⟨hp.1, hcur, hp.2, .inr (.inr ⟨rfl, hidle, rfl⟩)⟩
      · exact absurd hid (by simp)
  simp only [adoptInvite]
  refine MediaInv.congr (MediaInv.issue (b := true) api (MediaInv.congr (hset _ ?_ ?_ ?_)
    rfl rfl rfl rfl rfl rfl rfl rfl) ?_) rfl rfl rfl rfl rfl rfl rfl rfl
  · exact hs
  · rfl
  · exact h.trace_ok
  · rfl

theorem mediaInv_ringIncoming {s : VoipStack τ} (h : MediaInv true s)
    (hf : FormatsConfigured s.txAudioFormats s.rxAudioFormats s.currentMediaFormats)
    (callId : String) : MediaInv false (s.ringIncoming api callId) := by
  have hr : MediaInv true (s.issue api (.sendRinging callId)).2 := h.issue api rfl
  simp only [ringIncoming]
  split
  · exact mediaInv_requestCallTermination api hr _
  · exact (mediaInv_setup_state (s := { (s.issue api (.sendRinging callId)).2 with
      ringingStartTime := (s.issue api (.sendRinging callId)).2.millis
      incomingSetupPending := false }) hr.trace_ok hr.awaitsCurrent (.inl rfl) hf).1

theorem mediaInv_acceptInvite {s : VoipStack τ} (h : MediaAway s) (hs : s.callState = .idle)
    (hf : FormatsConfigured s.txAudioFormats s.rxAudioFormats s.currentMediaFormats)
    (msg : SipSignal) : MediaInv false (s.acceptInvite api msg) := by
  have ha := mediaInv_adoptInvite api h hs msg
  simp only [acceptInvite]
  split
  · refine mediaInv_completeIncomingAnswer api ha true hf ?_
    intro hwait
    cases hw : awaitingMedia (s.adoptInvite api msg).trace with
    | none => rfl
    | some id =>
      rw [(ha.awaiting_ok id hw).1] at hwait
      exact absurd hwait (by decide)
  · exact mediaInv_ringIncoming api ha hf msg.callId

theorem mediaInv_onInvite {s : VoipStack τ} (h : MediaInv false s) (msg : SipSignal) :
    MediaInv false (s.onInvite api msg) := by
  simp only [onInvite]
  split
  · exact h
  rename_i hidle
  rw [ne_eq, Decidable.not_not] at hidle
  split
  · exact h.issue api rfl
  split
  · exact mediaInv_rejectInvite api h _ _
  split
  · exact mediaInv_rejectInvite api h _ _
  · rename_i toDest toCaller hsel
    have ha : MediaAway (s.setCurrentMediaFormats toDest toCaller toCaller toDest) :=
      (h.away_idle hidle).congr rfl rfl rfl rfl
    exact mediaInv_acceptInvite api ha hidle (selectInviteFormats_configured hsel) msg

/-- The media-ready signal of the call that waits for it ends the wait. -/
theorem mediaInv_onMediaReady {s : VoipStack τ} (h : MediaInv false s) (msg : SipSignal)
    (hw : msg.callId = s.current.callId → awaitingMedia s.trace = none) :
    MediaInv false (s.onMediaReady api msg) := by
  simp only [onMediaReady]
  split
  · exact h
  rename_i hc
  simp only [not_or, Bool.not_eq_false, ne_eq, Decidable.not_not] at hc
  have hnone := hw hc.2.2
  have hset : ∀ formats, FormatsConfigured s.txAudioFormats s.rxAudioFormats formats →
      MediaInv false { s with
        incomingMediaAnswerPending := false, currentMediaFormats := formats } := by
    intro formats hf
    refine ⟨h.trace_ok, fun _ => hf, fun id hid => ?_⟩
    rw [show awaitingMedia _ = none from hnone] at hid
    exact absurd hid (by simp)
  split
  · refine mediaInv_requestCallTermination api (b := false) ?_ _
    exact hset s.currentMediaFormats (h.formats_ok (.inr (.inl hc.2.1)))
  · rename_i hrej
    have hf := configured_of_not_rejected hrej msg.selectedRxFormat msg.selectedTxFormat
    exact mediaInv_completeIncomingAnswer api (hset _ hf) false hf (fun _ => hnone)

theorem mediaInv_onConnectedIdentity {s : VoipStack τ} (h : MediaInv false s)
    (msg : SipSignal) : MediaInv false (s.onConnectedIdentity api msg) := by
  have happly : ∀ s' : VoipStack τ, MediaInv false s' →
      MediaInv false (s'.applyConnectedIdentity msg) := by
    intro s' h'
    simp only [applyConnectedIdentity]
    split
    · exact h'
    split
    · exact h'.congr rfl rfl rfl rfl rfl rfl rfl rfl
    · exact h'.congr rfl rfl rfl rfl rfl rfl rfl rfl
  simp only [onConnectedIdentity]
  split
  · exact h
  split
  · refine happly _ ?_
    exact h.congr rfl rfl rfl rfl rfl rfl rfl rfl
  · exact happly _ h

theorem mediaInv_onAnswered {s : VoipStack τ} (h : MediaInv false s)
    (hs : s.callState = .calling ∨ s.callState = .remoteRinging) (msg : SipSignal) :
    MediaInv false (s.onAnswered api msg) := by
  simp only [onAnswered]
  split
  · exact mediaInv_requestCallTermination api h _
  rename_i hrej
  have hf := configured_of_not_rejected hrej msg.selectedTxFormat msg.selectedRxFormat
  have ha : MediaAway (s.setCurrentMediaFormats msg.selectedTxFormat msg.selectedRxFormat
      msg.selectedTxFormat msg.selectedRxFormat) := (h.away hs).congr rfl rfl rfl rfl
  have hi := ha.issue api .startAudioPath
  split
  · exact mediaInv_requestCallTermination api hi.inv _
  · rename_i hok
    obtain ⟨hc, hw⟩ := mediaInv_setup_state hi.trace_ok hi.inv.awaitsCurrent
      (c := .connecting) (.inr rfl) hf
    refine mediaInv_setInCall api hc (hw.trans hi.not_awaiting) ?_ (configured_setCallState hf)
    rw [current_setCallState]
    have hne : s.callState ≠ .connecting := by
      rcases hs with hs | hs <;> rw [hs] <;> decide
    rw [(setCallState_media (s := (VoipStack.issue api .startAudioPath
      (s.setCurrentMediaFormats msg.selectedTxFormat msg.selectedRxFormat msg.selectedTxFormat
        msg.selectedRxFormat)).2) hne).1]
    rw [Bool.not_eq_false] at hok
    simp only [VoipStack.issue, VoipStack.adopt, VoipStack.note]
    rw [show (api.exec .startAudioPath _).1 = true from hok]
    exact .inl rfl

theorem mediaInv_onStatus200Ok {s : VoipStack τ} (h : MediaInv false s) (msg : SipSignal) :
    MediaInv false (s.onStatus200Ok api msg) := by
  simp only [onStatus200Ok]
  split
  · exact h
  split
  · exact mediaInv_onAnswered api h (.inl ‹_›) msg
  · exact mediaInv_onAnswered api h (.inr ‹_›) msg
  · exact mediaInv_answerCall api h
  · split
    · exact h
    · exact h.issue api rfl
  · exact h

theorem mediaInv_onFailure {s : VoipStack τ} (h : MediaInv false s) (msg : SipSignal) :
    MediaInv false (s.onFailure api msg) := by
  simp only [onFailure]
  split
  · exact h
  · refine mediaInv_requestCallTermination api (b := false) ?_ _
    split
    · exact h.congr rfl rfl rfl rfl rfl rfl rfl rfl
    · exact h

/-- Handling a signal can only end a wait for `MEDIA_READY`. -/
theorem mediaInv_handled {s : VoipStack τ} (h : MediaInv false s) (msg : SipSignal) :
    MediaInv false (s.note (.handled msg)) := by
  refine ⟨⟨fun _ _ => Entry.noConfusion, fun ha => absurd ha Bool.false_ne_true, h.trace_ok⟩,
    h.formats_ok, fun id hid => h.awaiting_ok id ?_⟩
  simp only [VoipStack.note, awaitingMedia] at hid
  split at hid
  · exact absurd hid (by simp)
  · exact hid

theorem mediaInv_onSipSignalReceived {s : VoipStack τ} (h : MediaInv false s)
    (msg : SipSignal) : MediaInv false (s.onSipSignalReceived api msg) := by
  have hn := mediaInv_handled h msg
  -- A MEDIA_READY of the current call ends the wait for it.
  have hready : msg.type = .mediaReady → msg.callId = s.current.callId →
      awaitingMedia (s.note (.handled msg)).trace = none := by
    intro htype hid
    simp only [VoipStack.note, awaitingMedia]
    split
    · rfl
    · rename_i hnot
      cases hw : awaitingMedia s.trace with
      | none => rfl
      | some id =>
        obtain ⟨-, hcur, -⟩ := h.awaiting_ok id hw
        exact absurd ⟨htype, by rw [hw, hid, hcur]⟩ hnot
  simp only [onSipSignalReceived]
  split
  · exact mediaInv_onInvite api hn msg
  · exact mediaInv_onMediaReady api hn msg (hready ‹_›)
  · split
    · exact hn
    · exact mediaInv_requestCallTermination api hn _
  · exact mediaInv_finishCallTermination api hn
  · exact mediaInv_onConnectedIdentity api hn msg
  · exact mediaInv_onStatus200Ok api hn msg
  · split
    · exact hn
    · exact mediaInv_requestCallTermination api hn _
  · exact mediaInv_onFailure api hn msg
  · exact mediaInv_onFailure api hn msg
  · exact mediaInv_onFailure api hn msg
  · exact mediaInv_onFailure api hn msg
  · exact mediaInv_onFailure api hn msg
  · split
    · rename_i hc
      exact ((hn.away (.inl hc)).setCallState ⟨by decide, by decide, by decide⟩).inv
    · exact hn
  · exact hn

theorem mediaInv_onConnectionChange {s : VoipStack τ} (h : MediaInv false s)
    (connected : Bool) (callId : String) :
    MediaInv false (s.onConnectionChange api connected callId) := by
  simp only [onConnectionChange]
  split
  · exact h
  split
  · exact h
  split
  · exact mediaInv_finishCallTermination api h
  split
  · exact mediaInv_requestCallTermination api h _
  · exact h.devices api false (fun hf => absurd hf (by decide))

/-! ## Timeouts and steps -/

theorem mediaInv_handleMediaTimeout {s : VoipStack τ} (h : MediaInv false s) :
    MediaInv false (s.handleMediaTimeout api) := by
  have hr : MediaInv false (s.refreshMediaWatchdog (api.receivedAudioPackets s.transport)) := by
    simp only [refreshMediaWatchdog]
    split
    · exact h
    · exact h.congr rfl rfl rfl rfl rfl rfl rfl rfl
  simp only [handleMediaTimeout]
  split
  · exact h.congr rfl rfl rfl rfl rfl rfl rfl rfl
  split
  · exact mediaInv_requestCallTermination api hr _
  · exact hr

theorem mediaInv_handleCallTimeouts {s : VoipStack τ} (h : MediaInv false s) :
    MediaInv false (s.handleCallTimeouts api) := by
  simp only [handleCallTimeouts]
  split
  · exact mediaInv_requestCallTermination api h _
  split
  · exact mediaInv_requestCallTermination api h _
  split
  · exact mediaInv_requestCallTermination api h _
  split
  · exact mediaInv_handleMediaTimeout api h
  · exact h

theorem mediaInv_runDeferred {s : VoipStack τ} (h : MediaInv false s) :
    MediaInv false (s.runDeferred api) := by
  simp only [runDeferred]
  split
  · exact h
  · rename_i d rest _
    have hpop : MediaInv false { s with deferred := rest } :=
      h.congr rfl rfl rfl rfl rfl rfl rfl rfl
    split
    · exact hpop.note (fun _ _ => Entry.noConfusion) (fun ha => absurd ha Bool.false_ne_true) rfl
    · exact hpop.note (fun _ _ => Entry.noConfusion) (fun ha => absurd ha Bool.false_ne_true) rfl
    · exact mediaInv_finishCallTermination api hpop
    · exact mediaInv_onSipSignalReceived api hpop _
    · exact mediaInv_onConnectionChange api hpop _ _

/-- Every step keeps the invariant. -/
theorem mediaInv_step (e : Event τ) {s : VoipStack τ} (h : MediaInv false s) :
    MediaInv false (s.step api e) := by
  cases e with
  | start => exact mediaInv_startWithId api h ""
  | call value callId => exact mediaInv_call api h value callId
  | stop => exact mediaInv_stop api h
  | hangupCallIfId callId =>
    simp only [step]
    split
    · exact mediaInv_stop api h
    · exact h
  | answerCall => exact mediaInv_answerCall api h
  | declineCall reason => exact mediaInv_declineCall api h reason
  | callToggle => exact mediaInv_callToggle api h
  | nextContact | prevContact =>
    simp only [step, browseContact]
    split
    · exact h
    · exact h.congr rfl rfl rfl rfl rfl rfl rfl rfl
  | setContact name => exact mediaInv_setContact h name
  | setPhonebook _ | setHaPeerName _ | setAutoAnswer _ | setDoNotDisturb _ | advance _ _ =>
    exact h.congr rfl rfl rfl rfl rfl rfl rfl rfl
  | runDeferred => exact mediaInv_runDeferred api h
  | loop => exact mediaInv_handleCallTimeouts api h
  | audioFrame =>
    simp only [step, onAudioReceived]
    split
    · exact h.congr rfl rfl rfl rfl rfl rfl rfl rfl
    · exact h
  | transport t => exact h.adopt api t

theorem mediaInv_after {s : VoipStack τ} (hs : s.callState = .idle) (ht : s.trace = [])
    (es : List (Event τ)) : MediaInv false (EventRun.after (step api) s es) := by
  refine EventRun.invariant_of_step (step api) (fun e s => mediaInv_step api e) ?_ es
  refine .of_away ?_ ?_ ?_
  · rw [ht]
    trivial
  · rw [hs]
    exact ⟨by decide, by decide, by decide⟩
  · rw [ht]
    rfl

/-- In every run from an idle machine, media was admitted in configured formats before each entry
    into `IN_CALL`, and a delayed-offer call activates no media before its `MEDIA_READY`. -/
theorem mediaTraceOk_after {s : VoipStack τ} (hs : s.callState = .idle) (ht : s.trace = [])
    (es : List (Event τ)) :
    MediaTraceOk (EventRun.after (step api) s es).txAudioFormats
      (EventRun.after (step api) s es).rxAudioFormats (EventRun.after (step api) s es).trace :=
  (mediaInv_after api hs ht es).trace_ok

end VoipStack

end EsphomeVoip
