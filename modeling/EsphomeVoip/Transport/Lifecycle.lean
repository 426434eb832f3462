import EsphomeVoip.Transport.Send

/-! # Media lifecycle and dialog reset (`sip_transport.cpp`)

The media session is opened and closed on behalf of the owner dialog only: while the second
dialog of a transfer stands in for it, the same code leaves media alone. -/

namespace EsphomeVoip

namespace Transport

/-! ## Media lifecycle -/

/-- `open_media_session_`. -/
def openMediaSession (t : Transport) : Transport :=
  if t.referContextActive then t else { t with mediaActive := true }

/-- `close_media_session_`. -/
def closeMediaSession (t : Transport) : Transport :=
  if t.referContextActive then t else { t with mediaActive := false }

/-- `VideoRtpSession::request_stop`. -/
def videoRequestStop (t : Transport) : Transport :=
  { t with video := { t.video with sessionRunning := false } }

/-- The video session exists and is running. -/
def videoRunning (t : Transport) : Bool :=
  t.video.enabled && t.video.hasSession && t.video.sessionRunning

/-- `request_audio_path_stop_locked_`. -/
def requestAudioPathStop (t : Transport) : Transport :=
  let t := t.closeMediaSession
  if t.phase = .cleaning ∨ t.phase = .shuttingDown then t
  else
    let wasRunning := t.rtpRunning || t.videoRunning
    let t := { t with rtpRunning := false }
    if t.phase = .idle ∧ wasRunning = false then t
    else if t.rtpTaskAvailable then
      { t.videoRequestStop with phase := .cleaning, rtpTaskQuiesced := false }
    else
      { t.videoRequestStop with phase := .idle, rtpTaskQuiesced := true, rtpSocketOpen := false }

/-- Stopping the media path closes the session. -/
theorem mediaActive_requestAudioPathStop {t : Transport} (h : t.referContextActive = false) :
    t.requestAudioPathStop.mediaActive = false := by
  have hclosed : t.closeMediaSession.mediaActive = false := by
    unfold closeMediaSession
    rw [h]
    rfl
  unfold requestAudioPathStop
  dsimp only
  repeat' split
  all_goals exact hclosed

/-- `stop_audio_path`. -/
def stopAudioPath (t : Transport) : Transport := t.requestAudioPathStop

/-- `prepare_video_session_locked_`. -/
def prepareVideoSession (w : World) (t : Transport) : Bool × Transport :=
  if t.video.enabled = false ∨ t.video.negotiation.negotiated = false then (true, t)
  else if t.video.hasSession = false then (false, t)
  else
    let granted := t.resource w
    if granted.1 then
      (true, { granted.2 with video := { granted.2.video with sessionRunning := true } })
    else granted

/-- The part of `prepare_media_path_locked_` that binds the RTP socket and prepares video, which
    never fails the audio. -/
def bindMediaPath (w : World) (t : Transport) : Bool × Transport :=
  let granted := { t with rtpLatch := none }.resource w
  if granted.1 = false then granted
  else
    let video := granted.2.prepareVideoSession w
    let t := if video.1 then video.2
      else { video.2.videoRequestStop with
        video := { video.2.videoRequestStop.video with
          negotiation := { video.2.video.negotiation with negotiated := false } } }
    (true, { t with phase := .prepared, rtpSocketOpen := true })

/-- `prepare_media_path_locked_`. -/
def prepareMediaPathLocked (w : World) (t : Transport) : Bool × Transport :=
  if t.phase = .prepared ∨ (t.phase = .active ∧ t.rtpRunning = true) then (true, t)
  else if t.phase ≠ .idle ∨ t.rtpTaskAvailable = false ∨ t.rtpTaskQuiesced = false then (false, t)
  else t.bindMediaPath w

/-- `prepare_media_path`. -/
def prepareMediaPath (w : World) (t : Transport) : Bool × Transport :=
  if t.running = false ∨ t.stopping = true then (false, t) else t.prepareMediaPathLocked w

/-- `commit_media_path_locked_`. Video stays subordinate: its activation never fails the commit. -/
def commitMediaPathLocked (w : World) (t : Transport) : Bool × Transport :=
  if t.phase = .active ∧ t.rtpRunning = true then (true, t)
  else if t.phase ≠ .prepared ∨ t.rtpTaskAvailable = false ∨ t.rtpTaskQuiesced = false ∨
      t.rtpSocketOpen = false then (false, t)
  else
    let t := { t with rtpTaskQuiesced := false, rtpRunning := true, phase := .active }
    if t.video.enabled && t.video.negotiation.negotiated then
      let granted := t.resource w
      if granted.1 then (true, granted.2)
      else
        (true, { granted.2.videoRequestStop with
          video := { granted.2.videoRequestStop.video with
            negotiation := { granted.2.video.negotiation with negotiated := false } } })
    else (true, t)

/-- `start_audio_path`. -/
def startAudioPath (w : World) (t : Transport) : Bool × Transport :=
  if t.running = false ∨ t.stopping = true ∨ t.phase = .cleaning ∨ t.phase = .shuttingDown then
    (false, t)
  else
    let prepared := t.prepareMediaPathLocked w
    if prepared.1 then prepared.2.commitMediaPathLocked w else prepared

/-- The RTP task leaves the media path and reports that it is quiet. -/
def rtpTaskQuiesce (t : Transport) : Transport :=
  { t with
    rtpRunning := false
    phase := if t.phase = .cleaning then .idle else t.phase
    rtpSocketOpen := if t.phase = .cleaning then false else t.rtpSocketOpen
    rtpTaskQuiesced := true
    callbacks := t.callbacks ++ [.mediaQuiesced] }

/-! ## Signals to the call component -/

/-- The name under which the call component knows a dialog. -/
def upwardId (callId : String) (t : Transport) : String :=
  if t.logicalCallId ≠ "" ∧ callId = t.logicalWireId then t.logicalCallId else callId

/-- `emit_sip_signal_`: the second dialog of a transfer reports to the transfer, not upwards. -/
def emitSipSignal (signal : SipSignal) (t : Transport) : Transport :=
  if t.referContextActive then
    { t with
      referSignalType := signal.type
      referStatus := signal.statusCode
      referSignalPending := true }
  else
    { t with callbacks := t.callbacks ++
        [.sipSignal { signal with callId := t.upwardId signal.callId }] }

/-! ## Reset -/

/-- What is left of a dialog after a reset: counters, addresses, the connection and the records
    that answer retransmissions. A record still queued for a connection is retracted. -/
def resetOf (d : Dialog) : Dialog :=
  { peerDirectionalAudioV1 := d.peerDirectionalAudioV1
    cseq := d.cseq
    inviteCseq := d.inviteCseq
    remoteSipTcp := d.remoteSipTcp
    tcpFlow := if d.tcpFlow.pending = none then d.tcpFlow
      else { d.tcpFlow with pending := none, connectRequested := false, closeRequested := true }
    remoteIp := d.remoteIp
    remoteSipPort := d.remoteSipPort
    completedInvite := d.completedInvite
    completedControl := d.completedControl
    completedInviteClient := d.completedInviteClient }

/-- The part of `reset_dialog_media_locked_` that concerns the owner dialog only. -/
def resetOwnerMedia (t : Transport) : Transport :=
  { t.requestAudioPathStop with
    referMediaWaiting := false
    rtpLatch := none
    video := { t.requestAudioPathStop.video with
      pendingDirection := none
      confirmedLocalSdp := ""
      negotiation := {} } }

/-- `reset_dialog_`. -/
def resetDialog (t : Transport) : Transport :=
  let t := t.record (.closed t.dialog.callId t.dialog.terminateAfterInviteAck)
  let t := if t.referContextActive then t else t.resetOwnerMedia
  { t with
    dialog := resetOf t.dialog
    pendingProvisionalResponse := none
    negotiation := { t.negotiation with remoteDirectionalAudioV1 := false, mediaShape := {} } }

/-- `terminal_transaction_pending_locked_`. -/
def terminalTransactionPending (t : Transport) : Bool :=
  t.dialog.pendingCancel.isSome || t.dialog.pendingBye.isSome ||
    (t.dialog.completedInvite.elim false fun c => c.awaitingAck) ||
    t.dialog.terminateAfterInviteAck

/-- `disconnect`. -/
def disconnect (t : Transport) : Transport :=
  if t.terminalTransactionPending then t else t.resetDialog

/-! ## The second dialog of a transfer -/

/-- `swap_dialog_` and `swap_negotiation_`. -/
def swapRefer (t : Transport) : Transport :=
  match t.referDialog with
  | none => t
  | some r =>
    { t with
      dialog := r.dialog
      negotiation := r.negotiation
      referDialog := some { r with dialog := t.dialog, negotiation := t.negotiation } }

/-- The constructor of `ReferScope`. -/
def enterRefer (t : Transport) : Transport :=
  { t.openProposal.swapRefer with referContextActive := true }

/-- The destructor of an uncommitted `ReferScope`. -/
def leaveRefer (t : Transport) : Transport :=
  { t.swapRefer with referContextActive := false }.closeProposal

/-- Run `f` under a `ReferScope` that is not committed. -/
def inRefer (f : Transport → Transport) (t : Transport) : Transport := (f t.enterRefer).leaveRefer

/-- A `ReferScope` that is committed: the second dialog becomes the owner. -/
def commitRefer (t : Transport) : Transport := t.openProposal.swapRefer.closeProposal

end Transport

end EsphomeVoip
