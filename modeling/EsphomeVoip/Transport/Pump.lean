import EsphomeVoip.Transport.Response

/-! # Timers (`pump_udp_retransmits_unlocked_` of `sip_transport.cpp`)

One call retransmits what is due and expires what has reached its deadline.  The pump and
`pump_refer_` call each other in the source, and the latter returns at once under a `ReferScope`,
so the pump takes it as an argument. -/

namespace EsphomeVoip

open WrapClock (timeReached)

namespace Transport

/-! ## Client transactions -/

/-- A client transaction that the pump looks at. -/
inductive ClientSlot where
  | invite | cancel | bye | update | notify | notifyFinal
  deriving DecidableEq, Repr

/-- The transaction in a slot. -/
def clientIn (slot : ClientSlot) (t : Transport) : Option UdpTransaction :=
  match slot with
  | .invite => t.dialog.pendingInvite
  | .cancel => t.dialog.pendingCancel
  | .bye => t.dialog.pendingBye
  | .update => t.dialog.pendingUpdate
  | .notify => t.referDialog.bind ReferDialog.pendingNotify
  | .notifyFinal => t.referDialog.bind ReferDialog.pendingNotifyFinal

/-- Replace the transaction in a slot. -/
def setClient (slot : ClientSlot) (x : Option UdpTransaction) (t : Transport) : Transport :=
  match slot with
  | .invite => { t with dialog := { t.dialog with pendingInvite := x } }
  | .cancel => { t with dialog := { t.dialog with pendingCancel := x } }
  | .bye => { t with dialog := { t.dialog with pendingBye := x } }
  | .update => { t with dialog := { t.dialog with pendingUpdate := x } }
  | .notify => { t with referDialog := t.referDialog.map fun r => { r with pendingNotify := x } }
  | .notifyFinal =>
    { t with referDialog := t.referDialog.map fun r => { r with pendingNotifyFinal := x } }

/-- The transaction after a retransmission. -/
def UdpTransaction.backedOff (now : UInt32) (x : UdpTransaction) : UdpTransaction :=
  let next := backOff now x.deadlineMs x.intervalMs sipT2Ms
  { x with intervalMs := next.1, nextMs := next.2, retries := x.retries + 1 }

/-- The lambda `pump`. It reports whether the transaction timed out. -/
def pumpClient (w : World) (slot : ClientSlot) (t : Transport) : Bool × Transport :=
  match t.clientIn slot with
  | none => (false, t)
  | some x =>
    if x.ip = 0 ∨ x.port = 0 then (false, t)
    else if timeReached t.now x.deadlineMs then (true, t.setClient slot none)
    else if timeReached t.now x.nextMs = false then (false, t)
    else if x.completed = true ∨ x.udp = false then
      (false, t.setClient slot (some { x with nextMs := x.deadlineMs }))
    else
      let sent := t.sendAgain w (.udp x.ip x.port) x.request x.ip x.port
      (false, sent.2.setClient slot (some (UdpTransaction.backedOff t.now x)))

/-- The variables of the pump that its last part acts on. -/
structure PumpOutcome where
  resetTerminalDialog : Bool := false
  inviteTimedOut : Bool := false
  ackTimedOut : Bool := false
  timedOutCallId : String := ""
  deriving DecidableEq, Repr

/-- Pump a CANCEL or a BYE, whose timeout ends the dialog. -/
def pumpTerminal (w : World) (slot : ClientSlot) (r : PumpOutcome × Transport) :
    PumpOutcome × Transport :=
  let pumped := r.2.pumpClient w slot
  (if pumped.1 then
      { r.1 with resetTerminalDialog := true, timedOutCallId := pumped.2.dialog.callId }
    else r.1, pumped.2)

/-- Pump the INVITE, while its response is outstanding. -/
def pumpInvite (w : World) (r : PumpOutcome × Transport) : PumpOutcome × Transport :=
  if r.2.dialog.outgoingInvitePending then
    let pumped := r.2.pumpClient w .invite
    if pumped.1 then
      ({ r.1 with inviteTimedOut := true, timedOutCallId := pumped.2.dialog.callId },
        { pumped.2 with dialog := { pumped.2.dialog with outgoingInvitePending := false } })
    else (r.1, pumped.2)
  else r

/-- Pump a transaction whose timeout has no consequence. -/
def pumpQuiet (w : World) (slot : ClientSlot) (r : PumpOutcome × Transport) :
    PumpOutcome × Transport :=
  (r.1, (r.2.pumpClient w slot).2)

/-- The client transactions of the dialog and the NOTIFYs of its transfer. -/
def pumpClients (w : World) (t : Transport) : PumpOutcome × Transport :=
  let r := pumpInvite w ({}, t)
  let r := pumpTerminal w .cancel r
  let r := pumpTerminal w .bye r
  let r := pumpQuiet w .update r
  if r.2.referContextActive then r else pumpQuiet w .notifyFinal (pumpQuiet w .notify r)

/-! ## Responses of our own -/

/-- The retry of a provisional response whose send failed. -/
def pumpProvisional (w : World) (t : Transport) : Transport :=
  match t.pendingProvisionalResponse with
  | none => t
  | some p =>
    if timeReached t.now p.nextMs = false then t
    else if timeReached t.now p.deadlineMs then { t with pendingProvisionalResponse := none }
    else
      let sent := t.sendAgain w (.udp p.ip p.port) p.response p.ip p.port
      if sent.1 then { sent.2 with pendingProvisionalResponse := none }
      else
        let next := backOff t.now p.deadlineMs p.intervalMs sipT1Ms
        { sent.2 with
          pendingProvisionalResponse := some { p with intervalMs := next.1, nextMs := next.2 } }

/-- Replace `completed_invite_`. -/
def setCompletedInvite (c : Option CompletedServerTransaction) (t : Transport) : Transport :=
  { t with dialog := { t.dialog with completedInvite := c } }

/-- The kept final response accepted the last INVITE of the dialog. -/
def acceptedLastInvite (c : CompletedServerTransaction) (d : Dialog) : Bool :=
  decide (c.status < 300) && d.callId != "" && d.callId == c.callId &&
    d.lastInviteCseqNumber == c.cseq

/-- The ACK of a final response did not arrive in time. -/
def expireAck (c : CompletedServerTransaction) (r : PumpOutcome × Transport) :
    PumpOutcome × Transport :=
  let t := r.2.setCompletedInvite (some { c with awaitingAck := false })
  if acceptedLastInvite c t.dialog then
    let t := if t.dialog.terminateAfterInviteAck then t.record (.due t.dialog.callId) else t
    ({ r.1 with ackTimedOut := true, timedOutCallId := t.dialog.callId },
      { t with dialog := { t.dialog with terminateAfterInviteAck := false } })
  else (r.1, t)

/-- Send a final response again that awaits its ACK. -/
def retransmitFinal (w : World) (c : CompletedServerTransaction) (t : Transport) : Transport :=
  let sent := t.sendAgain w c.flow c.response c.peerIp c.peerPort
  let next := backOff t.now c.deadlineMs c.retransmitIntervalMs sipT2Ms
  sent.2.setCompletedInvite
    (some { c with retransmitIntervalMs := next.1, nextRetransmitMs := next.2 })

/-- The final response that awaits its ACK. -/
def pumpFinal (w : World) (r : PumpOutcome × Transport) : PumpOutcome × Transport :=
  match r.2.dialog.completedInvite with
  | none => r
  | some c =>
    if c.awaitingAck = false then r
    else if timeReached r.2.now c.deadlineMs then expireAck c r
    else if (c.udp = true ∨ c.status < 300) ∧ timeReached r.2.now c.nextRetransmitMs = true then
      (r.1, r.2.retransmitFinal w c)
    else r

/-! ## Expiry of what is kept -/

/-- A kept server transaction, unless it has expired. -/
def keepServer (now : UInt32) (c : Option CompletedServerTransaction) :
    Option CompletedServerTransaction :=
  c.filter fun c => !timeReached now (c.completedMs + UInt32.ofNat sipTransactionTimeoutMs)

/-- A kept ACK, unless it has expired. -/
def keepClient (now : UInt32) (c : Option CompletedInviteClientTransaction) :
    Option CompletedInviteClientTransaction :=
  c.filter fun c => !timeReached now (c.completedMs + UInt32.ofNat sipTransactionTimeoutMs)

/-- `expire_completed` of the kept records. -/
def expireCompleted (t : Transport) : Transport :=
  let expired := t.dialog.completedInvite.elim false fun c =>
    timeReached t.now (c.completedMs + UInt32.ofNat sipTransactionTimeoutMs)
  let t := if expired then t.record (.recordLost true
    (t.dialog.completedInvite.elim false fun c => c.awaitingAck) t.dialog.terminateAfterInviteAck)
    else t
  { t with
    dialog := { t.dialog with
      completedInvite := keepServer t.now t.dialog.completedInvite
      completedControl := keepServer t.now t.dialog.completedControl
      completedInviteClient := keepClient t.now t.dialog.completedInviteClient }
    video := { t.video with
      completedDirection := keepClient t.now t.video.completedDirection } }

/-! ## The pump -/

/-- Report the end of a dialog whose CANCEL or BYE was not answered. -/
def finishTerminalTimeout (callId : String) (t : Transport) : Transport :=
  t.resetDialog.emitSipSignal
    { type := .terminalComplete
      statusCode := 408
      callId := callId
      reason := "terminal_timeout" }

/-- Report the end of a dialog whose INVITE was not answered. -/
def finishInviteTimeout (callId : String) (t : Transport) : Transport :=
  t.resetDialog.emitSipSignal
    { type := .finalResponse
      statusCode := 408
      callId := callId
      reason := "timeout" }

/-- The last part of the pump: act on what timed out. -/
def settleTimeouts (w : World) (r : PumpOutcome × Transport) : Transport :=
  let t := r.2
  let t := if r.1.resetTerminalDialog then t.finishTerminalTimeout r.1.timedOutCallId else t
  let t := if r.1.inviteTimedOut then t.finishInviteTimeout r.1.timedOutCallId else t
  if r.1.ackTimedOut then t.endDialog w .protocolError 408 r.1.timedOutCallId "ack_timeout" else t

/-- The part of the pump after the client transactions and the transfer. -/
def pumpServers (w : World) (r : PumpOutcome × Transport) : Transport :=
  let r := pumpFinal w (r.1, r.2.pumpProvisional w)
  settleTimeouts w (r.1, (r.2.pumpVideoDirection w).expireCompleted)

/-- `pump_udp_retransmits_unlocked_`. -/
def pumpUdpWith (w : World) (pumpRefer : Transport → Transport) (t : Transport) : Transport :=
  let r := t.pumpClients w
  pumpServers w (r.1, pumpRefer r.2)

end Transport

end EsphomeVoip
