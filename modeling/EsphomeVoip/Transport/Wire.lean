import Mathlib.Logic.Relation
import EsphomeVoip.ForStd.History
import EsphomeVoip.Transport.Effects

/-! # The transport, seen from the wire

A message is formed, kept, sent, sent again and forgotten; a dialog is opened, given up, and handed
over to the second dialog of a transfer.  `Wire` is the part of the state that these depend on, and
`Move` lists all that can happen to it, each move with what the transport checks before it.  Media,
timers and addresses are left out, and so are the tags.

That every step of the transport is a sequence of moves is proved in the modules that follow; what
holds along all moves then holds in every run. -/

namespace EsphomeVoip

open WrapClock (timeReached)

/-! ## The state -/

/-- The part of a dialog that its signalling depends on. -/
structure Line where
  callId : String := ""
  branch : String := ""
  inviteCseq : UInt32 := 1
  /-- The `Via` lines, the number and the `CSeq` of the last INVITE of the peer, and its
      response. -/
  inviteVia : List Via := []
  inviteNumber : UInt32 := 0
  inviteHead : Option CSeq := none
  response : Option SipMessage := none
  remoteCseq : UInt32 := 0
  cancelRequested : Bool := false
  /-- A BYE waits for the ACK of our 2xx. -/
  deferred : Bool := false
  /-- A provisional response to our INVITE was received. -/
  heard : Bool := false
  invite : Option SipMessage := none
  cancel : Option SipMessage := none
  bye : Option SipMessage := none
  update : Option SipMessage := none
  /-- The message that waits for a connection. -/
  queued : Option SipMessage := none
  record : Option CompletedServerTransaction := none
  control : Option SipMessage := none
  ack : Option SipMessage := none
  accepted : List UInt32 := []
  crossed : Bool := false
  deriving DecidableEq, Repr

/-- The second dialog of a transfer. -/
structure Second where
  line : Line
  acceptedRefer : Option SipMessage := none
  notify : Option SipMessage := none
  notifyFinal : Option SipMessage := none
  deriving DecidableEq, Repr

/-- What the moves are about. -/
structure Wire where
  own : Line
  second : Option Second
  scope : Bool
  retiring : Bool
  provisional : Option SipMessage
  direction : Option SipMessage
  directionAck : Option SipMessage
  retired : List SipMessage
  clock : Nat
  callbacks : List Callback
  log : List WireEntry
  epoch : UInt32
  deriving DecidableEq, Repr

/-- A kept final response without the timers of its retransmission. -/
def CompletedServerTransaction.untimed (c : CompletedServerTransaction) :
    CompletedServerTransaction :=
  { c with nextRetransmitMs := 0, retransmitIntervalMs := 0 }

/-- The line of a dialog. -/
def lineOf (d : Dialog) : Line :=
  { callId := d.callId
    branch := d.branch
    inviteCseq := d.inviteCseq
    inviteVia := d.lastInviteVia
    inviteNumber := d.lastInviteCseqNumber
    inviteHead := d.lastInviteCseq
    response := d.lastInviteResponse
    remoteCseq := d.remoteDialogCseq
    cancelRequested := d.cancelRequested
    deferred := d.terminateAfterInviteAck
    heard := d.pendingInvite.elim false UdpTransaction.completed
    invite := d.pendingInvite.map UdpTransaction.request
    cancel := d.pendingCancel.map UdpTransaction.request
    bye := d.pendingBye.map UdpTransaction.request
    update := d.pendingUpdate.map UdpTransaction.request
    queued := d.tcpFlow.pending
    record := d.completedInvite.map CompletedServerTransaction.untimed
    control := d.completedControl.map CompletedServerTransaction.response
    ack := d.completedInviteClient.map CompletedInviteClientTransaction.ack
    accepted := d.accepted
    crossed := d.crossed }

/-- The second dialog, as the moves see it. -/
def secondOf (r : ReferDialog) : Second :=
  { line := lineOf r.dialog
    acceptedRefer := r.acceptedRefer.map CompletedServerTransaction.response
    notify := r.pendingNotify.map UdpTransaction.request
    notifyFinal := r.pendingNotifyFinal.map UdpTransaction.request }

/-- The messages kept of a finished transfer. -/
def CompletedRefer.messages (c : CompletedRefer) : List SipMessage :=
  (c.accepted.map CompletedServerTransaction.response).toList ++
    (c.control.map CompletedServerTransaction.response).toList ++
    (c.invite.map CompletedInviteClientTransaction.ack).toList

/-- The messages kept of all finished transfers. -/
def retiredMessages (l : List (Option CompletedRefer)) : List SipMessage :=
  l.flatMap fun c => c.elim [] CompletedRefer.messages

/-- The transport, seen from the wire. -/
def Transport.wire (t : Transport) : Wire :=
  { own := lineOf t.dialog
    second := t.referDialog.map secondOf
    scope := t.referContextActive
    retiring := t.referRetiring
    provisional := t.pendingProvisionalResponse.map DeferredUdpResponse.response
    direction := (t.video.pendingDirection.bind PendingVideoDirectionInvite.transaction).map
      UdpTransaction.request
    directionAck := t.video.completedDirection.map CompletedInviteClientTransaction.ack
    retired := retiredMessages t.completedRefers
    clock := t.clock
    callbacks := t.callbacks
    log := t.log
    epoch := t.mediaProposalEpoch }

/-! ## Messages -/

/-- The message that an entry says was formed. -/
def WireEntry.made : WireEntry → Option SipMessage
  | .requested msg => some msg
  | .responded msg .. => some msg
  | .refused msg _ => some msg
  | _ => none

/-- The messages formed so far. -/
def made (log : List WireEntry) : List SipMessage := log.filterMap WireEntry.made

/-- The messages that a line keeps. -/
def Line.kept (l : Line) : List SipMessage :=
  l.response.toList ++ l.invite.toList ++ l.cancel.toList ++ l.bye.toList ++ l.update.toList ++
    l.queued.toList ++ (l.record.map CompletedServerTransaction.response).toList ++
    l.control.toList ++ l.ack.toList

/-- The messages that are kept with the second dialog. -/
def Second.kept (r : Second) : List SipMessage :=
  r.line.kept ++ r.acceptedRefer.toList ++ r.notify.toList ++ r.notifyFinal.toList

namespace Wire

/-- The messages that are kept. -/
def kept (s : Wire) : List SipMessage :=
  s.own.kept ++ s.second.elim [] Second.kept ++ s.provisional.toList ++ s.direction.toList ++
    s.directionAck.toList ++ s.retired

/-- The message is kept, or was formed. -/
def Holds (s : Wire) (msg : SipMessage) : Prop := msg ∈ s.kept ∨ msg ∈ made s.log

/-- Record an entry. -/
def enter (e : WireEntry) (s : Wire) : Wire := { s with log := e :: s.log }

/-- What `millis()` returns. -/
def now (s : Wire) : UInt32 := WrapClock.millis s.clock

end Wire

/-! ## Checks of the transport -/

namespace Line

/-- The last INVITE was accepted and its ACK is outstanding. -/
def awaitsAck (l : Line) : Bool :=
  match l.record with
  | none => false
  | some c => c.awaitingAck && decide (200 ≤ c.status) && decide (c.status < 300) &&
      l.callId != "" && c.callId == l.callId && l.inviteNumber == c.cseq

/-- The last INVITE has had its final response. -/
def finallyAnswered (l : Line) : Bool :=
  l.response.elim false fun r => decide (200 ≤ r.status) && r.cseqNumber == l.inviteNumber

/-- A BYE of ours is outstanding. -/
def byeOutstanding (l : Line) : Bool :=
  l.bye.isSome || l.queued.elim false fun m => m.method == .bye

/-- A final response that awaits its ACK is in the way of one to this INVITE. -/
def keepsActive (l : Line) (callId : String) (cseq : UInt32) (branch : String) : Bool :=
  match l.record with
  | none => false
  | some c => c.awaitingAck && c.callId == l.callId && l.inviteNumber != 0 &&
      (c.callId != callId || c.cseq != cseq || c.branch != branch)

/-- A final response to the last INVITE is not kept. -/
def losesFinal (status : Nat) (l : Line) : Bool :=
  decide (699 < status) || l.callId == "" || (l.inviteHead.getD {}).number == 0 ||
    l.keepsActive l.callId (l.inviteHead.getD {}).number (viaBranch (l.inviteVia.take 1))

/-- A kept final response awaits its ACK. -/
def awaitsAnyAck (l : Line) : Bool := l.record.elim false fun c => c.awaitingAck

/-- A request of the peer with this number may take effect: it is greater than the number that the
    dialog knows and, if the peer is said to number its requests in order (`b`), greater than the
    last one even after a BYE of the peer has crossed ours. -/
def MayTake (b : Bool) (l : Line) (number : UInt32) : Prop :=
  l.remoteCseq < number ∧ (b = true → l.crossed = true → ∀ last ∈ l.accepted.head?, last < number)

/-- What is left after a reset. -/
def reset (l : Line) : Line :=
  { inviteCseq := l.inviteCseq
    record := l.record
    control := l.control
    ack := l.ack }

end Line

namespace Wire

/-- `reset_dialog_`. -/
def reset (s : Wire) : Wire :=
  { s.enter (.closed s.own.callId s.own.deferred) with
    own := s.own.reset
    provisional := none
    direction := if s.scope then s.direction else none }

/-- Replace the request in a slot. -/
def setPending (slot : Transport.ClientSlot) (x : Option SipMessage) (s : Wire) : Wire :=
  match slot with
  | .invite => { s with own := { s.own with invite := x, heard := false } }
  | .cancel => { s with own := { s.own with cancel := x } }
  | .bye => { s with own := { s.own with bye := x } }
  | .update => { s with own := { s.own with update := x } }
  | .notify => { s with second := s.second.map fun r => { r with notify := x } }
  | .notifyFinal => { s with second := s.second.map fun r => { r with notifyFinal := x } }

/-- A provisional response to the INVITE of the line was received. -/
def HeardProvisional (l : Line) (log : List WireEntry) : Prop :=
  ∃ m src time, .received m src time ∈ log ∧ m.isResponse = true ∧ 100 ≤ m.status ∧
    m.status < 200 ∧ m.cseqMethod = .invite ∧ m.callId = l.callId ∧ m.cseqNumber = l.inviteCseq ∧
    m.topBranch = l.branch

/-- What the transport checks before it forms a request other than a NOTIFY. -/
def MayRequest (s : Wire) (msg : SipMessage) : Prop :=
  match msg.method with
  | .bye => msg.callId = s.own.callId ∧ s.own.awaitsAck = false
  | .cancel => s.own.cancelRequested = true ∧ msg.callId = s.own.callId ∧
      msg.topBranch = s.own.branch
  | .notify => False
  | _ => True

/-- A message is lost, sent on a path, or queued for a connection. -/
inductive Sends (msg : SipMessage) (s : Wire) : Wire → Prop where
  | lost : Sends msg s s
  | sent (flow : Flow) : Sends msg s (s.enter (.sent msg flow s.clock))
  | queued (h : s.own.queued = none) :
    Sends msg s { s.enter (.queued msg) with own := { s.own with queued := some msg } }

/-- A kept message is lost, sent again by the path that the dialog has now, or queued for another
    connection. -/
inductive Repeats (msg : SipMessage) (recorded path : Flow) (s : Wire) : Wire → Prop where
  | lost : Repeats msg recorded path s s
  | sent :
    Repeats msg recorded path s
      ((s.enter (.sent msg path s.clock)).enter (.repeated recorded path))
  | queued (h : s.own.queued = none) :
    Repeats msg recorded path s
      { (s.enter (.queued msg)).enter (.repeated recorded path) with
        own := { s.own with queued := some msg } }

/-- A NOTIFY of the transfer is formed, sent and remembered, or nothing happens. -/
inductive Notified (final : Bool) (body : String) (s : Wire) : Wire → Prop where
  | none : Notified final body s s
  | sent (msg : SipMessage) (referCseq : UInt32) (hmethod : msg.method = .notify)
    (hfinal : msg.subscription = some { referCseq := referCseq, terminated := final })
    (hbody : msg.body = body) {s' : Wire} (h : Sends msg (s.enter (.requested msg)) s') :
    Notified final body s s'
  | kept (msg : SipMessage) (referCseq : UInt32) (hmethod : msg.method = .notify)
    (hfinal : msg.subscription = some { referCseq := referCseq, terminated := final })
    (hbody : msg.body = body) {s' : Wire} (h : Sends msg (s.enter (.requested msg)) s')
    (slot : Transport.ClientSlot) (hslot : slot = .notify ∨ slot = .notifyFinal) :
    Notified final body s (s'.setPending slot (some msg))

/-- The record of a final response to the last INVITE. -/
def finalRecord (s : Wire) (msg : SipMessage) (c : CompletedServerTransaction) : Prop :=
  c.callId = s.own.callId ∧ c.cseq = (s.own.inviteHead.getD {}).number ∧
    c.branch = viaBranch (s.own.inviteVia.take 1) ∧ c.status = msg.status ∧ c.response = msg ∧
    c.awaitingAck = true ∧ c.fromTag = msg.fromTag ∧ c.toTag = msg.toTag ∧
    c.completedMs = s.now ∧ c.deadlineMs = s.now + UInt32.ofNat sipTransactionTimeoutMs

/-- The line after a response to the last INVITE was formed. -/
def answered (msg : SipMessage) (record : Option CompletedServerTransaction) (s : Wire) : Wire :=
  { s.enter (.responded msg s.own.finallyAnswered s.own.byeOutstanding
      (s.own.losesFinal msg.status) s.clock) with
    provisional := none
    own := { s.own with response := some msg, record := record } }

/-- A final response to the last INVITE, and what is kept of it. -/
structure FinalResponse (s : Wire) (msg : SipMessage)
    (record : Option CompletedServerTransaction) : Prop where
  status : 200 ≤ msg.status
  callId : msg.callId = s.own.callId
  cseq : msg.cseq = s.own.inviteHead
  kept : if s.own.losesFinal msg.status then record = s.own.record
    else ∃ c, record = some c ∧ s.finalRecord msg c

/-- The line after a re-INVITE became its last INVITE. -/
def reinvitedBy (m : SipMessage) (s : Wire) : Wire :=
  { s.enter (.invited m.callId m.cseqNumber m.topBranch) with
    own := { s.own with
      inviteVia := m.via
      inviteHead := m.cseq
      inviteNumber := m.cseqNumber } }

/-- A BYE can wait for the ACK of a 2xx, which is kept unless it was said to be lost. -/
def Deferrable (s : Wire) : Prop :=
  s.own.awaitsAck = true ∨ ∃ msg again ending time, .responded msg again ending true time ∈ s.log

/-- The exchange of the two dialogs of a transfer. -/
def swap (s : Wire) : Wire :=
  match s.second with
  | none => s
  | some r => { s with own := r.line, second := some { r with line := s.own } }

/-- The second dialog comes to stand in for the owner. -/
def enterScope (s : Wire) : Wire := { s.swap with scope := true, epoch := s.epoch + 1 }

/-- The owner is back. -/
def leaveScope (s : Wire) : Wire := { s.swap with scope := false, epoch := s.epoch + 1 }

end Wire

namespace Transport

/-! ## The order of the peer's requests -/

/-- What decides whether a request of the peer may take effect in a dialog. -/
def turnOf (d : Dialog) : Dialog :=
  { callId := d.callId
    localTag := d.localTag
    remoteTag := d.remoteTag
    remoteDialogCseq := d.remoteDialogCseq
    accepted := d.accepted
    crossed := d.crossed }

/-- The request is addressed to the dialog, whose number does not rule it out. -/
def addresses (m : SipMessage) (d : Dialog) : Bool :=
  m.callId == d.callId && m.fromTag == d.remoteTag && m.toTag == d.localTag &&
    decide (d.remoteDialogCseq < m.cseqNumber)

/-- If the peer is said to number its requests in order, one that the dialog does not rule out has
    a number greater than the last one even after a BYE of the peer has crossed ours. -/
def InOrder (b : Bool) (m : SipMessage) (d : Dialog) : Prop :=
  b = true → addresses m d = true → d.crossed = true → ∀ last ∈ d.accepted.head?,
    last < m.cseqNumber

/-- The request is answered from what is kept, or is in order. -/
def Orderly (b : Bool) (m : SipMessage) (src : Peer) (t : Transport) : Prop :=
  t.replayable m src m.method (!t.dialog.remoteSipTcp) = true ∨ InOrder b m t.dialog

theorem InOrder.of_turn {b : Bool} {m : SipMessage} {d d' : Dialog} (h : InOrder b m d)
    (hturn : turnOf d' = turnOf d) : InOrder b m d' := by
  have hcongr (x y : Dialog) (hx : InOrder b m (turnOf x)) (hxy : turnOf y = turnOf x) :
      InOrder b m (turnOf y) := hxy ▸ hx
  exact hcongr d d' h hturn

theorem mayTake_of_inOrder {b : Bool} {m : SipMessage} {d : Dialog} (h : InOrder b m d)
    (hm : addresses m d = true) : (lineOf d).MayTake b m.cseqNumber := by
  refine ⟨?_, fun hb => h hb hm⟩
  unfold addresses at hm
  exact of_decide_eq_true (Bool.and_eq_true_iff.1 hm).2

theorem mayTake_of_turn {b : Bool} {number : UInt32} {d d' : Dialog}
    (h : (lineOf d).MayTake b number) (hturn : turnOf d' = turnOf d) :
    (lineOf d').MayTake b number := by
  have hcongr (x y : Dialog) (hx : (lineOf (turnOf x)).MayTake b number)
      (hxy : turnOf y = turnOf x) : (lineOf (turnOf y)).MayTake b number := hxy ▸ hx
  exact hcongr d d' h hturn

end Transport

/-! ## Moves -/

open Wire (Sends Repeats Notified)

/-- What can happen, when `b` says that the peer numbers its requests in order. -/
inductive Move (b : Bool) : Wire → Wire → Prop where
  | elapse (s : Wire) (ms : Nat) : Move b s { s with clock := s.clock + ms }
  | hear (s : Wire) (m : SipMessage) (src : Peer) :
    Move b s (s.enter (.received m src s.clock))
  | takeAnswer (s : Wire) (callId sdp : String) : Move b s (s.enter (.acceptedAnswer callId sdp))
  /-- A callback: that media is ready is said only of an answer that was accepted. -/
  | callback (s : Wire) (c : Callback)
    (h : ∀ signal, c = .sipSignal signal → signal.type = .mediaReady →
      ∃ sdp, .acceptedAnswer signal.callId sdp ∈ s.log) :
    Move b s { s with callbacks := s.callbacks ++ [c] }
  | takeCallbacks (s : Wire) : Move b s { s with callbacks := [] }
  /-- A message that was just formed, or waits for a connection, is sent. -/
  | send (msg : SipMessage) {s s' : Wire} (hmsg : s.Holds msg) (h : Sends msg s s') : Move b s s'
  /-- A message that is kept is sent again. -/
  | sendAgain (msg : SipMessage) (recorded path : Flow) {s s' : Wire} (hmsg : msg ∈ s.kept)
    (h : Repeats msg recorded path s s') : Move b s s'
  | dequeue (s : Wire) : Move b s { s with own := { s.own with queued := none } }
  | request (s : Wire) (msg : SipMessage) (h : s.MayRequest msg) :
    Move b s (s.enter (.requested msg))
  | pend (s : Wire) (slot : Transport.ClientSlot) (msg : SipMessage) (h : msg ∈ made s.log) :
    Move b s (s.setPending slot (some msg))
  | unpend (s : Wire) (slot : Transport.ClientSlot) : Move b s (s.setPending slot none)
  | hearProvisional (s : Wire) (h : Wire.HeardProvisional s.own s.log) :
    Move b s { s with own := { s.own with heard := true } }
  | keepAck (s : Wire) (msg : SipMessage) (h : msg ∈ made s.log) :
    Move b s { s with own := { s.own with ack := some msg } }
  | dropAck (s : Wire) : Move b s { s with own := { s.own with ack := none } }
  | dropControl (s : Wire) : Move b s { s with own := { s.own with control := none } }
  | keepDirection (s : Wire) (msg : SipMessage) (h : msg ∈ made s.log) :
    Move b s { s with direction := some msg }
  | dropDirection (s : Wire) : Move b s { s with direction := none }
  | keepDirectionAck (s : Wire) (msg : SipMessage) (h : msg ∈ made s.log) :
    Move b s { s with directionAck := some msg }
  | dropDirectionAck (s : Wire) : Move b s { s with directionAck := none }
  | deferResponse (s : Wire) (msg : SipMessage) (h : msg ∈ made s.log) :
    Move b s { s with provisional := some msg }
  | dropProvisional (s : Wire) : Move b s { s with provisional := none }
  | retire (s : Wire) (l : List SipMessage) (h : ∀ msg ∈ l, s.Holds msg) :
    Move b s { s with retired := l }
  | dropAcceptedRefer (s : Wire) :
    Move b s { s with second := s.second.map fun r => { r with acceptedRefer := none } }
  /-- The first request of a dialog makes up its branch. -/
  | setBranch (s : Wire) (branch : String) (h : s.own.branch = "") :
    Move b s { s with own := { s.own with branch := branch } }
  | rename (s : Wire) (callId : String) :
    Move b s { s.enter (.renamed callId) with own := { s.own with callId := callId } }
  | name (s : Wire) (callId : String) (clash : Bool) (h : s.own.callId = "") :
    Move b s { s.enter (.named callId clash) with own := { s.own with callId := callId } }
  | identify (s : Wire) (branch : String) (number : UInt32)
    (h : s.own.invite = none ∧ s.own.cancel = none ∧ s.own.cancelRequested = false) :
    Move b s { s with own := { s.own with branch := branch, inviteCseq := number } }
  | startCancel (s : Wire) :
    Move b s { s.enter (.cancelling (s.own.cancelRequested || s.own.heard)) with
      own := { s.own with cancelRequested := true } }
  | stopCancel (s : Wire) : Move b s { s with own := { s.own with cancelRequested := false } }
  | defer (s : Wire) (h : s.Deferrable) :
    Move b s { s with own := { s.own with deferred := true } }
  | reset (s : Wire) : Move b s s.reset
  /-- A final response to the last INVITE is formed and, if possible, kept. -/
  | respondFinal (s : Wire) (msg : SipMessage) (record : Option CompletedServerTransaction)
    (h : s.FinalResponse msg record) : Move b s (s.answered msg record)
  | respondProvisional (s : Wire) (msg : SipMessage) (hresponse : msg.isResponse = true)
    (hstatus : msg.status < 200)
    (hcall : msg.callId = s.own.callId) (hcseq : msg.cseq = s.own.inviteHead) :
    Move b s (s.answered msg s.own.record)
  /-- A response outside of dialogs is formed, and perhaps kept. -/
  | refuse (s : Wire) (msg : SipMessage) (evicts : Bool) (hresponse : msg.isResponse = true) :
    Move b s (s.enter (.refused msg evicts))
  | refuseControl (s : Wire) (msg : SipMessage) (evicts : Bool)
    (hresponse : msg.isResponse = true) :
    Move b s { s.enter (.refused msg evicts) with own := { s.own with control := some msg } }
  | refuseInvite (s : Wire) (msg : SipMessage) (c : CompletedServerTransaction)
    (hresponse : msg.isResponse = true) (hc : c.response = msg)
    (hkeeps : s.own.keepsActive c.callId c.cseq c.branch = false) :
    Move b s { s.enter (.refused msg s.own.awaitsAnyAck) with
      own := { s.own with record := some c } }
  /-- The kept response to an INVITE is dropped. -/
  | loseRecord (s : Wire) (expired deferred : Bool)
    (h : expired = true → ∀ c, s.own.record = some c →
      timeReached s.now (c.completedMs + UInt32.ofNat sipTransactionTimeoutMs) = true ∨
        sipTransactionTimeoutMs < (s.now - c.completedMs).toNat) :
    Move b s { s.enter (.recordLost expired s.own.awaitsAnyAck (s.own.deferred && expired)) with
      own := { s.own with record := none, deferred := s.own.deferred && deferred } }
  | acknowledge (s : Wire) (c : CompletedServerTransaction) (m : SipMessage) (src : Peer)
    (time : Nat) (tcp : Bool) (hc : s.own.record = some c)
    (hm : .received m src time ∈ s.log) (h : Transport.acknowledges m src tcp c = true) :
    Move b s { s with
      log := if decide (c.status < 300) && s.own.deferred then .due s.own.callId :: s.log
        else s.log
      own := { s.own with
        record := some { c with awaitingAck := false }
        deferred := if decide (c.status < 300) && s.own.deferred then false
          else s.own.deferred } }
  | expireAck (s : Wire) (c : CompletedServerTransaction) (last : Bool) (hc : s.own.record = some c)
    (h : timeReached s.now c.deadlineMs = true) :
    Move b s { s with
      log := if last && s.own.deferred then .due s.own.callId :: s.log else s.log
      own := { s.own with
        record := some { c with awaitingAck := false }
        deferred := !last && s.own.deferred } }
  /-- A request of the peer takes effect. -/
  | accept (s : Wire) (number : UInt32) (h : s.own.MayTake b number) :
    Move b s { s.enter (.tookEffect number s.own.accepted) with
      own := { s.own with remoteCseq := number, accepted := number :: s.own.accepted } }
  /-- A BYE of the peer takes effect although ours is outstanding. -/
  | cross (s : Wire) (number : UInt32) (h : s.own.MayTake b number) :
    Move b s { s.enter (.tookEffect number s.own.accepted) with
      own := { s.own with accepted := number :: s.own.accepted, crossed := true } }
  | invited (s : Wire) (m : SipMessage) (clash : Bool) (h : s.own.callId = "") :
    Move b s { (s.enter (.invited m.callId m.cseqNumber m.topBranch)).enter
        (.named m.callId clash) with
      own := { s.own with
        callId := m.callId
        inviteVia := m.via
        inviteHead := m.cseq
        inviteNumber := m.cseqNumber
        remoteCseq := m.cseqNumber
        accepted := []
        crossed := false } }
  /-- A re-INVITE becomes the last INVITE of the dialog. -/
  | reinvited (s : Wire) (m : SipMessage) (h : s.own.awaitsAnyAck = false) :
    Move b s (s.reinvitedBy m)
  /-- The 200 to a re-INVITE could not be formed. -/
  | reinviteUnanswered (s : Wire) (m : SipMessage) :
    Move b s (s.enter (.invited m.callId m.cseqNumber m.topBranch))
  /-- The 200 to a re-INVITE could neither be sent nor kept, and the line is as it was. -/
  | reinviteFailed (s : Wire) (m msg : SipMessage) (record : Option CompletedServerTransaction)
    (h : (s.reinvitedBy m).FinalResponse msg record)
    (hloses : (s.reinvitedBy m).own.losesFinal msg.status = true) :
    Move b s { (s.reinvitedBy m).answered msg record with own := s.own }
  | weigh (s : Wire) : Move b s { s with epoch := s.epoch + 2 }
  /-- A transfer begins. -/
  | begin (s : Wire) (hscope : s.scope = false) (h : s.second = none) :
    Move b s { s.enter .transferBegun with
      second := some { line := {}, acceptedRefer := s.own.control }
      retiring := false
      own := { s.own with control := none } }
  | inform (body : String) {s s' : Wire} (h : Notified false body s s') : Move b s s'
  /-- A transfer ends with a failure. -/
  | fail (body : String) {s s' : Wire} (hscope : s.scope = false) (hsecond : s.second.isSome = true)
    (hretiring : s.retiring = false) (h : Notified true body s s') :
    Move b s { s' with retiring := true }
  | giveUp (s : Wire) (hscope : s.scope = false) : Move b s { s with retiring := true }
  /-- The second dialog becomes the owner. -/
  | commit {s s' : Wire} (hscope : s.scope = false) (hsecond : s.second.isSome = true)
    (hretiring : s.retiring = false) (h : Notified true "SIP/2.0 200 OK\r\n" s s') :
    Move b s { s'.swap.enter .committed with retiring := true, epoch := s'.epoch + 2 }
  | release (s : Wire) (r : Second) (hscope : s.scope = false) (h : s.second = some r) :
    Move b s { s.enter (.closed r.line.callId r.line.deferred) with second := none }
  /-- The connection of the second dialog is there, and what waited for it is sent or lost. -/
  | sendSecond (s : Wire) (r : Second) (msg : SipMessage) (connection : Nat)
    (h : s.second = some r) (hmsg : r.line.queued = some msg) :
    Move b s { s.enter (.sent msg (.tcp connection) s.clock) with
      second := some { r with line := { r.line with queued := none } } }
  | dequeueSecond (s : Wire) : Move b s { s with second := s.second.map fun r =>
      { r with line := { r.line with queued := none } } }

/-- What is known of a run. -/
structure Mode where
  /-- The owner may hand over to the second dialog of its transfer. -/
  outer : Bool
  /-- The peer numbers its requests in order. -/
  ordered : Bool := false

/-- What can happen in such a run. -/
def Acts (o : Mode) (s s' : Wire) : Prop :=
  Move o.ordered s s' ∨ (o.outer = true ∧ s.scope = false ∧ s.second.isSome = true ∧
    ∃ s₁, Relation.ReflTransGen (Move o.ordered) s.enterScope s₁ ∧ s' = s₁.leaveScope)

/-! ## The scope -/

theorem Wire.Sends.scope {msg : SipMessage} {s s' : Wire} (h : Sends msg s s') :
    s'.scope = s.scope := by
  cases h <;> rfl

theorem Wire.scope_setPending (slot : Transport.ClientSlot) (x : Option SipMessage) (s : Wire) :
    (s.setPending slot x).scope = s.scope := by
  cases slot <;> rfl

theorem Wire.Notified.scope {final : Bool} {body : String} {s s' : Wire}
    (h : Notified final body s s') : s'.scope = s.scope := by
  cases h with
  | none => rfl
  | sent msg referCseq hmethod hfinal hbody h => exact h.scope
  | kept msg referCseq hmethod hfinal hbody h slot hslot =>
    rw [scope_setPending]
    exact h.scope

/-- Sending touches the log and the message that waits for a connection. -/
theorem Wire.Sends.shape {msg : SipMessage} {s s' : Wire} (h : Sends msg s s') :
    ∃ queued log, s' = { s with own := { s.own with queued := queued }, log := log } := by
  cases h with
  | lost => exact ⟨s.own.queued, s.log, rfl⟩
  | sent flow => exact ⟨s.own.queued, _, rfl⟩
  | queued hq => exact ⟨_, _, rfl⟩

theorem Wire.Repeats.shape {msg : SipMessage} {recorded path : Flow} {s s' : Wire}
    (h : Repeats msg recorded path s s') : ∃ queued log, s.log <:+ log ∧
      s' = { s with own := { s.own with queued := queued }, log := log } := by
  cases h with
  | lost => exact ⟨s.own.queued, s.log, List.suffix_rfl, rfl⟩
  | sent =>
    exact ⟨s.own.queued, _, (List.suffix_cons _ _).trans (List.suffix_cons _ _), rfl⟩
  | queued hq => exact ⟨_, _, (List.suffix_cons _ _).trans (List.suffix_cons _ _), rfl⟩

theorem Wire.Sends.second {msg : SipMessage} {s s' : Wire} (h : Sends msg s s') :
    s'.second = s.second := by
  cases h <;> rfl

theorem Wire.isSome_setPending (slot : Transport.ClientSlot) (x : Option SipMessage) (s : Wire) :
    (s.setPending slot x).second.isSome = s.second.isSome := by
  cases slot <;> first | rfl | exact Option.isSome_map

theorem Wire.Sends.retiring {msg : SipMessage} {s s' : Wire} (h : Sends msg s s') :
    s'.retiring = s.retiring := by
  cases h <;> rfl

theorem Wire.retiring_setPending (slot : Transport.ClientSlot) (x : Option SipMessage)
    (s : Wire) : (s.setPending slot x).retiring = s.retiring := by
  cases slot <;> rfl

theorem Wire.Notified.retiring {final : Bool} {body : String} {s s' : Wire}
    (h : Notified final body s s') : s'.retiring = s.retiring := by
  cases h with
  | none => rfl
  | sent msg referCseq hmethod hfinal hbody h => exact h.retiring
  | kept msg referCseq hmethod hfinal hbody h slot hslot =>
    rw [retiring_setPending]
    exact h.retiring

theorem Wire.Notified.isSome_second {final : Bool} {body : String} {s s' : Wire}
    (h : Notified final body s s') : s'.second.isSome = s.second.isSome := by
  cases h with
  | none => rfl
  | sent msg referCseq hmethod hfinal hbody h => exact congrArg Option.isSome h.second
  | kept msg referCseq hmethod hfinal hbody h slot hslot =>
    rw [isSome_setPending]
    exact congrArg Option.isSome h.second

theorem Move.scope {b : Bool} {s s' : Wire} (h : Move b s s') : s'.scope = s.scope := by
  cases h with
  | send msg hmsg h => exact h.scope
  | sendAgain msg recorded path hmsg h =>
    obtain ⟨queued, log, _, rfl⟩ := h.shape
    rfl
  | pend _ slot msg h => exact Wire.scope_setPending slot _ s
  | unpend _ slot => exact Wire.scope_setPending slot _ s
  | inform body h => exact h.scope
  | fail body hscope hsecond hretiring h => exact h.scope
  | commit hscope hsecond hretiring h =>
    rename_i s'
    have hswap : s'.swap.scope = s'.scope := by
      unfold Wire.swap
      split <;> rfl
    exact hswap.trans h.scope
  | _ => rfl

/-- Under the scope of the second dialog no transfer begins or ends. -/
theorem Move.keepsTransfer {b : Bool} {s s' : Wire} (h : Move b s s') (hscope : s.scope = true) :
    s'.second.isSome = s.second.isSome ∧ s'.retiring = s.retiring := by
  have hoff (hs : s.scope = false) : False := by
    rw [hscope] at hs
    cases hs
  cases h with
  | send msg hmsg h => exact ⟨congrArg Option.isSome h.second, h.retiring⟩
  | sendAgain msg recorded path hmsg h =>
    obtain ⟨queued, log, _, rfl⟩ := h.shape
    exact ⟨rfl, rfl⟩
  | pend _ slot msg h =>
    exact ⟨Wire.isSome_setPending slot _ s, Wire.retiring_setPending slot _ s⟩
  | unpend _ slot => exact ⟨Wire.isSome_setPending slot _ s, Wire.retiring_setPending slot _ s⟩
  | dropAcceptedRefer => exact ⟨Option.isSome_map, rfl⟩
  | begin _ hs h => exact (hoff hs).elim
  | inform body h => exact ⟨h.isSome_second, h.retiring⟩
  | fail body hs hsecond hretiring h => exact (hoff hs).elim
  | giveUp _ hs => exact (hoff hs).elim
  | commit hs hsecond hretiring h => exact (hoff hs).elim
  | release _ r hs h => exact (hoff hs).elim
  | sendSecond _ r msg connection h hmsg => exact ⟨h ▸ rfl, rfl⟩
  | dequeueSecond => exact ⟨Option.isSome_map, rfl⟩
  | _ => exact ⟨rfl, rfl⟩

/-! ## The log -/

theorem Wire.Sends.log {msg : SipMessage} {s s' : Wire} (h : Sends msg s s') :
    s.log <:+ s'.log := by
  cases h with
  | lost => exact List.suffix_rfl
  | _ => exact List.suffix_cons _ _

theorem Wire.log_setPending (slot : Transport.ClientSlot) (x : Option SipMessage) (s : Wire) :
    (s.setPending slot x).log = s.log := by
  cases slot <;> rfl

theorem Wire.log_swap (s : Wire) : s.swap.log = s.log := by
  unfold swap
  split <;> rfl

theorem Wire.Notified.log {final : Bool} {body : String} {s s' : Wire}
    (h : Notified final body s s') : s.log <:+ s'.log := by
  cases h with
  | none => exact List.suffix_rfl
  | sent msg referCseq hmethod hfinal hbody h => exact (List.suffix_cons _ _).trans h.log
  | kept msg referCseq hmethod hfinal hbody h slot hslot =>
    rw [log_setPending]
    exact (List.suffix_cons _ _).trans h.log

/-- What was recorded stays. -/
theorem Move.log {b : Bool} {s s' : Wire} (h : Move b s s') : s.log <:+ s'.log := by
  cases h with
  | send msg hmsg h => exact h.log
  | sendAgain msg recorded path hmsg h =>
    obtain ⟨queued, log, hlog, rfl⟩ := h.shape
    exact hlog
  | pend _ slot msg h => exact (Wire.log_setPending slot _ s).symm ▸ List.suffix_rfl
  | unpend _ slot => exact (Wire.log_setPending slot _ s).symm ▸ List.suffix_rfl
  | inform body h => exact h.log
  | fail body hscope hsecond hretiring h => exact h.log
  | commit hscope hsecond hretiring h =>
    exact h.log.trans ((Wire.log_swap _).symm ▸ List.suffix_cons _ _)
  | acknowledge _ c m src time tcp hc hm h =>
    dsimp only
    split
    · exact List.suffix_cons _ _
    · exact List.suffix_rfl
  | expireAck _ c last hc h =>
    dsimp only
    split
    · exact List.suffix_cons _ _
    · exact List.suffix_rfl
  | invited _ m clash h => exact (List.suffix_cons _ _).trans (List.suffix_cons _ _)
  | reinviteFailed _ m msg record h hloses =>
    exact (List.suffix_cons _ _).trans (List.suffix_cons _ _)
  | _ => first | exact List.suffix_rfl | exact List.suffix_cons _ _

theorem Acts.log {o : Mode} {s s' : Wire} (h : Acts o s s') : s.log <:+ s'.log := by
  rcases h with hm | ⟨_, _, _, s₁, hs, rfl⟩
  · exact hm.log
  · have hleave : s₁.leaveScope.log = s₁.log := Wire.log_swap s₁
    rw [hleave]
    have henter : s.enterScope.log = s.log := Wire.log_swap s
    rw [← henter]
    clear hleave
    induction hs with
    | refl => exact List.suffix_rfl
    | tail _ hmove ih => exact ih.trans hmove.log

theorem Acts.scope {o : Mode} {s s' : Wire} (h : Acts o s s') : s'.scope = s.scope := by
  rcases h with hm | ⟨_, hscope, _, s₁, _, rfl⟩
  · exact hm.scope
  · exact hscope.symm

namespace Transport

/-- The transport gets from `t` to `t'` by moves. -/
def Evolves (o : Mode) (t t' : Transport) : Prop :=
  Relation.ReflTransGen (Acts o) t.wire t'.wire

variable {o : Mode} {q : Bool} {a b c : Transport}

theorem Evolves.refl (t : Transport) : Evolves o t t := Relation.ReflTransGen.refl

theorem Evolves.trans (hab : Evolves o a b) (hbc : Evolves o b c) : Evolves o a c :=
  Relation.ReflTransGen.trans hab hbc

theorem Evolves.of_move (h : Move o.ordered a.wire b.wire) : Evolves o a b :=
  Relation.ReflTransGen.single (.inl h)

/-- What the moves do not see does not move. -/
theorem Evolves.of_eq (h : b.wire = a.wire) : Evolves o a b := by
  unfold Evolves
  rw [h]

/-- Whether the second dialog stands in for the owner is the same before and after. -/
theorem Evolves.scope (h : Evolves o a b) : b.referContextActive = a.referContextActive := by
  have hscope (s s' : Wire) (h : Relation.ReflTransGen (Acts o) s s') :
      s'.scope = s.scope := by
    induction h with
    | refl => rfl
    | tail _ hact ih => exact hact.scope.trans ih
  exact hscope a.wire b.wire h

theorem moves_of_evolves (h : Evolves ⟨false, q⟩ a b) :
    Relation.ReflTransGen (Move q) a.wire b.wire := by
  have hacts : Acts ⟨false, q⟩ ≤ Move q := by
    rintro s s' (hm | ⟨ho, _⟩)
    · exact hm
    · cases ho
  exact Relation.ReflTransGen.mono hacts _ _ h

/-- What is done in place of the owner neither begins nor ends the transfer. -/
theorem Evolves.keepsTransfer (h : Evolves ⟨false, q⟩ a b) (hscope : a.referContextActive = true) :
    b.wire.second.isSome = a.wire.second.isSome ∧ b.referRetiring = a.referRetiring := by
  have hmoves (s s' : Wire) (h : Relation.ReflTransGen (Move q) s s') (hs : s.scope = true) :
      s'.scope = true ∧ s'.second.isSome = s.second.isSome ∧ s'.retiring = s.retiring := by
    induction h with
    | refl => exact ⟨hs, rfl, rfl⟩
    | tail _ hmove ih =>
      obtain ⟨hscope', hsome, hretiring⟩ := ih
      obtain ⟨hsome', hretiring'⟩ := hmove.keepsTransfer hscope'
      exact ⟨hmove.scope.trans hscope', hsome'.trans hsome, hretiring'.trans hretiring⟩
  exact (hmoves a.wire b.wire (moves_of_evolves h) hscope).2

theorem exists_mode {o : Mode} (h : o.outer = true) : ∃ b, o = ⟨true, b⟩ := by
  obtain ⟨outer, b⟩ := o
  exact ⟨b, congrArg (Mode.mk · b) h⟩

/-- The owner may hand over, or the second dialog stands in for it. -/
def Outer (o : Mode) (t : Transport) : Prop := o.outer = true ∨ t.referContextActive = true

/-- A function that proceeds by moves wherever it may. -/
def Proceeds (o : Mode) (f : Transport → Transport) : Prop :=
  ∀ t, Outer o t → Evolves o t (f t)

theorem proceeds_id : Proceeds o id := fun t _ => .refl t

theorem Outer.evolves (h : Outer o a) (hab : Evolves o a b) : Outer o b :=
  h.imp_right hab.scope.trans

/-- What was recorded stays. -/
theorem Evolves.log (h : Evolves o a b) : a.log <:+ b.log := by
  have hacts (s s' : Wire) (h : Relation.ReflTransGen (Acts o) s s') : s.log <:+ s'.log := by
    induction h with
    | refl => exact List.suffix_rfl
    | tail _ hact ih => exact ih.trans hact.log
  exact hacts a.wire b.wire h

theorem Evolves.mem_log {e : WireEntry} (h : Evolves o a b) (he : e ∈ a.log) : e ∈ b.log :=
  h.log.mem he

end Transport

end EsphomeVoip
