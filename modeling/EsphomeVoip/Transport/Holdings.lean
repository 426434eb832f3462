import EsphomeVoip.Transport.Step

/-! # What a transport holds

A command that comes too late must leave alone what the transport holds: the name of its dialog, the
tags, the counters, the address of the peer and what is remembered for retransmissions.  Here is
what sending and ending a dialog leave of it. -/

namespace EsphomeVoip

namespace Transport

variable {w : World} {msg : SipMessage} {t : Transport}

/-! ## The name of the owner and the second dialog are left alone -/

/-- The name of a dialog and where its peer is. -/
def addressOf (d : Dialog) : String × UInt32 × UInt16 := (d.callId, d.remoteIp, d.remoteSipPort)

theorem callId_of_address {d d' : Dialog} (h : addressOf d' = addressOf d) :
    d'.callId = d.callId :=
  congrArg Prod.fst h

/-- `t'` has the second dialog of `t`, and an owner of the same name and address. -/
def KeepsDialogs (t t' : Transport) : Prop :=
  addressOf t'.dialog = addressOf t.dialog ∧ t'.referDialog = t.referDialog

theorem KeepsDialogs.refl (t : Transport) : KeepsDialogs t t := ⟨rfl, rfl⟩

theorem KeepsDialogs.trans {a b c : Transport} (hab : KeepsDialogs a b) (hbc : KeepsDialogs b c) :
    KeepsDialogs a c :=
  ⟨hbc.1.trans hab.1, hbc.2.trans hab.2⟩

theorem keeps_sendSip (ip : UInt32) (port : UInt16) :
    KeepsDialogs t (t.sendSip w msg ip port).2 := by
  unfold sendSip sendSipTcp sendSipTcpRecord sendSipUdp
  dsimp only
  split
  · split
    · split <;> exact ⟨rfl, rfl⟩
    · split <;> exact ⟨rfl, rfl⟩
  · split
    · exact .refl t
    · split <;> exact ⟨rfl, rfl⟩

theorem keeps_requestBranch (method : Method) (options : SipRequestOptions) :
    KeepsDialogs t (t.requestBranch w method options).2 := by
  unfold requestBranch
  split
  · exact .refl t
  · split
    · split <;> exact ⟨rfl, rfl⟩
    · exact ⟨rfl, rfl⟩

theorem keeps_rememberUdpTransaction {method : Method} (hm : method ≠ .notify) (ip : UInt32)
    (port : UInt16) : KeepsDialogs t (t.rememberUdpTransaction method msg ip port) := by
  unfold rememberUdpTransaction
  split
  · exact .refl t
  · cases method <;> first | exact ⟨rfl, rfl⟩ | exact absurd rfl hm

/-- `t'` has the owner's name and address of `t`, and a second dialog if `t` has one. -/
def KeepsOwner (t t' : Transport) : Prop :=
  addressOf t'.dialog = addressOf t.dialog ∧ t'.referDialog.isSome = t.referDialog.isSome

theorem KeepsDialogs.owner {a b : Transport} (h : KeepsDialogs a b) : KeepsOwner a b :=
  ⟨h.1, congrArg Option.isSome h.2⟩

theorem KeepsOwner.trans {a b c : Transport} (hab : KeepsOwner a b) (hbc : KeepsOwner b c) :
    KeepsOwner a c :=
  ⟨hbc.1.trans hab.1, hbc.2.trans hab.2⟩

theorem keepsOwner_rememberUdpTransaction (method : Method) (ip : UInt32) (port : UInt16) :
    KeepsOwner t (t.rememberUdpTransaction method msg ip port) := by
  by_cases hm : method = .notify
  · subst hm
    unfold rememberUdpTransaction rememberNotify
    split
    · exact (KeepsDialogs.refl t).owner
    · dsimp only
      cases hr : t.referDialog with
      | none => exact ⟨rfl, rfl⟩
      | some r =>
        dsimp only
        split <;> exact ⟨rfl, by rw [hr]; rfl⟩
  · exact (keeps_rememberUdpTransaction hm ip port).owner

theorem keeps_rememberCompletedInviteAck (ip : UInt32) (port : UInt16) :
    KeepsDialogs t (t.rememberCompletedInviteAck msg ip port) := by
  unfold rememberCompletedInviteAck
  split <;> exact ⟨rfl, rfl⟩

/-- The state in which `transmit_request` remembers its transaction. -/
theorem transmitRequest_shape (w : World) (t : Transport) (msg : SipMessage) (method : Method)
    (options : SipRequestOptions) (ip : UInt32) (port : UInt16) : ∃ u, KeepsDialogs t u ∧
      ((t.transmitRequest w method options msg ip port).2 = u ∨
        (t.transmitRequest w method options msg ip port).2 =
          u.rememberUdpTransaction method msg ip port) := by
  have hack : KeepsDialogs t (if method = .ack ∧ options.rememberInviteAck = true
      then t.rememberCompletedInviteAck msg ip port else t) := by
    split
    · exact keeps_rememberCompletedInviteAck ip port
    · exact .refl t
  unfold transmitRequest
  dsimp only
  generalize (if method = .ack ∧ options.rememberInviteAck = true
    then t.rememberCompletedInviteAck msg ip port else t) = a at hack
  have hsent : KeepsDialogs t (a.sendSip w msg ip port).2 := hack.trans (keeps_sendSip ip port)
  have hmark : KeepsDialogs t (if sipEventFromMethod method = .none then
      (a.sendSip w msg ip port).2
      else (a.sendSip w msg ip port).2.markSipEvent (sipEventFromMethod method) 0) := by
    split
    · exact hsent
    · exact hsent.trans ⟨rfl, rfl⟩
  split
  · generalize (if sipEventFromMethod method = .none then (a.sendSip w msg ip port).2
      else (a.sendSip w msg ip port).2.markSipEvent (sipEventFromMethod method) 0) = b at hmark
    refine ⟨b, hmark, ?_⟩
    split
    · exact .inr rfl
    · exact .inl rfl
  · exact ⟨_, hsent, .inl rfl⟩

theorem keeps_formatRequest (method : Method) (body : String) (options : SipRequestOptions) :
    KeepsDialogs t (t.formatRequest w method body options).2 :=
  (keeps_requestBranch method options).trans ⟨rfl, rfl⟩

theorem keeps_sendRequest (w : World) (t : Transport) {method : Method} (hm : method ≠ .notify)
    (body : String) (options : SipRequestOptions) :
    KeepsDialogs t (t.sendRequest w method body options).2 := by
  unfold sendRequest sendRequestFormatted
  dsimp only
  split
  · exact .refl t
  · have hf := keeps_formatRequest (w := w) (t := t) method body options
    obtain ⟨u, hu, he | he⟩ := transmitRequest_shape w (t.formatRequest w method body options).2
      (t.formatRequest w method body options).1 method options (requestTarget t.dialog).1
      (requestTarget t.dialog).2
    · rw [he]
      exact hf.trans hu
    · rw [he]
      exact hf.trans (hu.trans (keeps_rememberUdpTransaction hm _ _))

theorem keepsOwner_sendRequest (method : Method) (body : String) (options : SipRequestOptions) :
    KeepsOwner t (t.sendRequest w method body options).2 := by
  by_cases hm : method = .notify
  · unfold sendRequest sendRequestFormatted
    dsimp only
    split
    · exact (KeepsDialogs.refl t).owner
    · have hf := keeps_formatRequest (w := w) (t := t) method body options
      obtain ⟨u, hu, he | he⟩ := transmitRequest_shape w (t.formatRequest w method body options).2
        (t.formatRequest w method body options).1 method options (requestTarget t.dialog).1
        (requestTarget t.dialog).2
      · rw [he]
        exact (hf.trans hu).owner
      · rw [he]
        exact (hf.trans hu).owner.trans (keepsOwner_rememberUdpTransaction _ _ _)
  · exact (keeps_sendRequest w t hm body options).owner

theorem keepsOwner_notifyRefer (referCseq : UInt32) (status : Nat) (phrase : String) :
    KeepsOwner t (t.notifyRefer w referCseq status phrase) := by
  unfold notifyRefer
  split
  · exact (KeepsDialogs.refl t).owner
  · exact keepsOwner_sendRequest _ _ _

theorem referDialog_requestAudioPathStop : t.requestAudioPathStop.referDialog = t.referDialog := by
  unfold requestAudioPathStop closeMediaSession
  dsimp only
  repeat' split
  all_goals rfl

theorem dialog_requestAudioPathStop : t.requestAudioPathStop.dialog = t.dialog := by
  unfold requestAudioPathStop closeMediaSession
  dsimp only
  repeat' split
  all_goals rfl

theorem keeps_stopOwnAudioPath : KeepsDialogs t t.stopOwnAudioPath := by
  unfold stopOwnAudioPath stopAudioPath
  split
  · exact .refl t
  · exact ⟨congrArg addressOf dialog_requestAudioPathStop, referDialog_requestAudioPathStop⟩

theorem referDialog_resetDialog : t.resetDialog.referDialog = t.referDialog := by
  unfold resetDialog resetOwnerMedia
  dsimp only
  split
  · rfl
  · exact referDialog_requestAudioPathStop

theorem keeps_sendConfirmedBye : KeepsDialogs t (t.sendConfirmedBye w).2 := by
  unfold sendConfirmedBye
  dsimp only
  have hbye : Method.bye ≠ .notify := by decide
  have hsent := keeps_sendRequest w { t with dialog := { t.dialog with pendingUpdate := none } }
    hbye "" {}
  exact KeepsDialogs.trans hsent keeps_stopOwnAudioPath

theorem keeps_emitSipSignal (signal : SipSignal) : KeepsDialogs t (t.emitSipSignal signal) := by
  unfold emitSipSignal
  split <;> exact ⟨rfl, rfl⟩

/-- Ending the second dialog leaves the parked owner alone. -/
theorem referDialog_sendByeWith_id (callId : String) :
    (t.sendByeWith w id callId).2.referDialog = t.referDialog := by
  unfold sendByeWith
  dsimp only [id]
  split
  · rfl
  · split
    · exact (keeps_emitSipSignal _).2.trans referDialog_resetDialog
    · split
      · exact (keeps_stopOwnAudioPath (t := t.setTerminateAfterAck)).2
      · exact keeps_sendConfirmedBye.2

theorem keeps_sendCancelRequest : KeepsDialogs t (t.sendCancelRequest w).2 := by
  have hcancel : Method.cancel ≠ .notify := by decide
  unfold sendCancelRequest
  generalize hu : t.record _ = u
  have hkeep : KeepsDialogs t u := hu ▸ ⟨rfl, rfl⟩
  have hsent := keeps_sendRequest w
    { u with dialog := { u.dialog with cancelRequested := true } } hcancel ""
    { cseqNumber := u.dialog.inviteCseq }
  dsimp only
  split
  · exact hkeep.trans (KeepsDialogs.trans hsent ⟨rfl, rfl⟩)
  · exact hkeep.trans (KeepsDialogs.trans hsent ⟨rfl, rfl⟩)

theorem referDialog_sendCancelWith_id (callId : String) :
    (t.sendCancelWith w id callId).2.referDialog = t.referDialog := by
  have hadopt : (t.adoptCallId callId).referDialog = t.referDialog := by
    unfold adoptCallId
    split <;> rfl
  unfold sendCancelWith
  dsimp only
  split
  · exact (referDialog_sendByeWith_id callId).trans hadopt
  · split
    · exact referDialog_resetDialog.trans hadopt
    · exact keeps_sendCancelRequest.2.trans hadopt

theorem referDialog_endCandidate : (t.endCandidate w).referDialog = t.referDialog := by
  unfold endCandidate
  split
  · exact referDialog_sendCancelWith_id _
  · split
    · exact referDialog_sendByeWith_id _
    · rfl

/-- Cancelling the transfer of a dialog leaves the dialog to the report of its failure. -/
theorem dialog_cancelRefer (w : World) (t : Transport) : (t.cancelRefer w).dialog = t.dialog ∨
    (t.cancelRefer w).dialog =
      (t.notifyRefer w t.referCseq 487 "Request Terminated").dialog := by
  unfold cancelRefer
  split
  · exact .inl rfl
  · rename_i h
    have hn := keepsOwner_notifyRefer (w := w) (t := t) t.referCseq 487 "Request Terminated"
    generalize t.notifyRefer w t.referCseq 487 "Request Terminated" = u at hn ⊢
    -- The owner is parked in the transfer while its second dialog is ended.
    have he := referDialog_endCandidate (w := w) (t := { u with referRetiring := true }.enterRefer)
    unfold inRefer leaveRefer
    generalize { u with referRetiring := true }.enterRefer.endCandidate w = v at he ⊢
    unfold enterRefer swapRefer at he
    cases hr : u.referDialog with
    | none =>
      have hs : t.referDialog.isSome = false := by rw [← hn.2, hr]; rfl
      simp only [Option.isSome_eq_false_iff, Option.isNone_iff_eq_none] at hs
      exact absurd (.inr (.inl hs)) h
    | some r =>
      right
      simp only [hr] at he
      simp only [swapRefer, he]
      rfl

theorem address_cancelRefer (w : World) (t : Transport) :
    addressOf (t.cancelRefer w).dialog = addressOf t.dialog := by
  rcases dialog_cancelRefer w t with h | h
  · rw [h]
  · rw [h]
    exact (keepsOwner_notifyRefer _ _ _).1

/-- A BYE or a CANCEL under a name that has replaced the Call-ID keeps that name, unless it reports
    success. -/
theorem sendBye_named {callId : String} (hid : callId ≠ "") (hown : t.dialog.callId = callId) :
    (t.sendBye w callId).1 = true ∨ (t.sendBye w callId).2.dialog.callId = callId := by
  unfold sendBye sendByeWith
  rw [if_neg (by simp [hown, hid])]
  dsimp only
  have hc := callId_of_address (address_cancelRefer w t)
  generalize t.cancelRefer w = u at hc
  split
  · exact .inl rfl
  · split
    · exact .inl rfl
    · exact .inr ((callId_of_address (keeps_sendConfirmedBye (w := w)).1).trans (hc.trans hown))

theorem sendCancel_named {callId : String} (hid : callId ≠ "")
    (hlogical : callId ≠ t.logicalCallId) :
    (t.sendCancel w callId).1 = true ∨ (t.sendCancel w callId).2.dialog.callId = callId := by
  have hadopt : (t.adoptCallId callId).dialog.callId = callId := by
    unfold adoptCallId
    rw [if_pos ⟨hid, hlogical⟩]
  unfold sendCancel sendCancelWith
  dsimp only
  generalize t.adoptCallId callId = u at hadopt
  split
  · exact sendBye_named hid hadopt
  · split
    · exact .inl rfl
    · exact .inr ((callId_of_address keeps_sendCancelRequest.1).trans hadopt)

/-! ## Responses keep the name of the dialog -/

/-- `t'` has the Call-ID of `t`, and is under a `ReferScope` if `t` is. -/
def KeepsName (t t' : Transport) : Prop :=
  t'.dialog.callId = t.dialog.callId ∧ t'.referContextActive = t.referContextActive

theorem KeepsName.refl (t : Transport) : KeepsName t t := ⟨rfl, rfl⟩

theorem KeepsName.trans {a b c : Transport} (hab : KeepsName a b) (hbc : KeepsName b c) :
    KeepsName a c :=
  ⟨hbc.1.trans hab.1, hbc.2.trans hab.2⟩

theorem name_sendSip (w : World) (msg : SipMessage) (ip : UInt32) (port : UInt16)
    (t : Transport) : KeepsName t (t.sendSip w msg ip port).2 := by
  refine ⟨callId_of_address (keeps_sendSip ip port).1, ?_⟩
  unfold sendSip sendSipTcp sendSipTcpRecord sendSipUdp
  dsimp only
  repeat' split
  all_goals rfl

theorem name_ownFinalResponse : KeepsName t (t.ownFinalResponse msg) := by
  unfold ownFinalResponse rememberCompletedResponse
  dsimp only
  repeat' split
  all_goals exact ⟨rfl, rfl⟩

theorem name_sendFinalInviteResponse (status : Nat) :
    KeepsName t (t.sendFinalInviteResponse w status msg).2 := by
  have hsent := name_ownFinalResponse.trans (name_sendSip w msg
    (t.ownFinalResponse msg).dialog.lastInvitePeerIp
    (t.ownFinalResponse msg).dialog.lastInvitePeerPort (t.ownFinalResponse msg))
  unfold sendFinalInviteResponse
  dsimp only
  split
  · exact hsent.trans ⟨rfl, rfl⟩
  · exact hsent

theorem name_deferUdpProvisionalResponse (ip : UInt32) (port : UInt16) :
    KeepsName t (t.deferUdpProvisionalResponse msg ip port) := by
  unfold deferUdpProvisionalResponse
  split <;> exact ⟨rfl, rfl⟩

theorem name_sendProvisionalInviteResponse (status : Nat) :
    KeepsName t (t.sendProvisionalInviteResponse w status msg).2 := by
  have hsent := KeepsName.trans (a := t) ⟨rfl, rfl⟩ (name_sendSip w msg
    t.dialog.lastInvitePeerIp t.dialog.lastInvitePeerPort (t.keepLastResponse msg))
  unfold sendProvisionalInviteResponse
  dsimp only
  split
  · exact hsent.trans ⟨rfl, rfl⟩
  · split
    · exact hsent
    · exact (hsent.trans (name_deferUdpProvisionalResponse _ _)).trans ⟨rfl, rfl⟩

theorem name_sendResponse (status : Nat) (phrase body reason : String) :
    KeepsName t (t.sendResponse w status phrase body reason).2 := by
  have htag : KeepsName t (if needsLocalTag status t.dialog.lastInviteTo then t.ensureLocalTag w
      else t) := by
    unfold ensureLocalTag
    split
    · split <;> exact ⟨rfl, rfl⟩
    · exact .refl t
  unfold sendResponse
  split
  · exact .refl t
  · dsimp only
    split
    · exact htag.trans (name_sendFinalInviteResponse status)
    · exact htag.trans (name_sendProvisionalInviteResponse status)

/-- Without an INVITE there is nothing to respond to. -/
theorem sendResponse_unaddressed (h : t.dialog.lastInvitePeerIp = 0) (status : Nat)
    (phrase body reason : String) :
    t.sendResponse w status phrase body reason = (false, t) := by
  unfold sendResponse
  rw [if_pos (.inl h)]

/-! ## What a late command must leave alone -/

/-- What the owned dialog is called, where its peer is, and what is remembered for it and for its
    transfer. -/
structure Holdings where
  dialog : Dialog
  referDialog : Option ReferDialog
  completedRefers : List (Option CompletedRefer)
  pendingProvisionalResponse : Option DeferredUdpResponse
  pendingDirection : Option PendingVideoDirectionInvite
  completedDirection : Option CompletedInviteClientTransaction
  /-- The messages that left. -/
  sent : List WireEntry
  deriving DecidableEq

/-- The name, the tags, the counters, the remote address and the transactions of a dialog, and the
    message that waits for its connection. -/
def heldOf (d : Dialog) : Dialog :=
  { callId := d.callId
    localTag := d.localTag
    remoteTag := d.remoteTag
    branch := d.branch
    lastInviteVia := d.lastInviteVia
    lastInviteFrom := d.lastInviteFrom
    lastInviteTo := d.lastInviteTo
    lastInviteCseq := d.lastInviteCseq
    lastInviteResponse := d.lastInviteResponse
    lastInviteCseqNumber := d.lastInviteCseqNumber
    remoteDialogCseq := d.remoteDialogCseq
    lastInvitePeerIp := d.lastInvitePeerIp
    lastInvitePeerPort := d.lastInvitePeerPort
    cseq := d.cseq
    inviteCseq := d.inviteCseq
    tcpFlow := { pending := d.tcpFlow.pending }
    remoteIp := d.remoteIp
    remoteSipPort := d.remoteSipPort
    completedInvite := d.completedInvite
    completedControl := d.completedControl
    completedInviteClient := d.completedInviteClient
    pendingInvite := d.pendingInvite
    pendingCancel := d.pendingCancel
    pendingBye := d.pendingBye
    pendingUpdate := d.pendingUpdate }

/-- The holdings of the transport. -/
def holdings (t : Transport) : Holdings :=
  { dialog := heldOf t.dialog
    referDialog := t.referDialog
    completedRefers := t.completedRefers
    pendingProvisionalResponse := t.pendingProvisionalResponse
    pendingDirection := t.video.pendingDirection
    completedDirection := t.video.completedDirection
    sent := t.log.filter WireEntry.isSent }

/-- The holdings but for the name of the dialog. -/
def Holdings.unnamed (h : Holdings) : Holdings :=
  { h with dialog := { h.dialog with callId := "" } }

/-- A command failed, sent nothing and left the holdings alone. -/
def Isolated (t : Transport) (r : Bool × Transport) : Prop :=
  r.1 = false ∧ r.2.holdings = t.holdings

instance (t : Transport) (r : Bool × Transport) : Decidable (Isolated t r) :=
  inferInstanceAs (Decidable (_ ∧ _))

/-- The dialog holds nothing that a reset would clear. -/
def IsReset (t : Transport) : Prop := t.resetDialog.holdings = t.holdings

instance (t : Transport) : Decidable t.IsReset := inferInstanceAs (Decidable (_ = _))

/-- What a reset does to the holdings. -/
def Holdings.reset (scope : Bool) (h : Holdings) : Holdings :=
  { h with
    dialog := heldOf (resetOf h.dialog)
    pendingProvisionalResponse := none
    pendingDirection := if scope then h.pendingDirection else none }

theorem heldOf_resetOf (d : Dialog) : heldOf (resetOf d) = heldOf (resetOf (heldOf d)) := by
  unfold resetOf heldOf
  split <;> simp_all

theorem Holdings.reset_reset (scope : Bool) (h : Holdings) :
    (h.reset scope).reset scope = h.reset scope := by
  unfold Holdings.reset
  dsimp only
  rw [← heldOf_resetOf]
  have hd : heldOf (resetOf (resetOf h.dialog)) = heldOf (resetOf h.dialog) := by
    unfold resetOf heldOf
    split <;> simp_all
  rw [hd]
  cases scope <;> rfl

theorem video_requestAudioPathStop :
    t.requestAudioPathStop.video.pendingDirection = t.video.pendingDirection ∧
      t.requestAudioPathStop.video.completedDirection = t.video.completedDirection ∧
      t.requestAudioPathStop.completedRefers = t.completedRefers ∧
      t.requestAudioPathStop.log = t.log := by
  unfold requestAudioPathStop closeMediaSession videoRequestStop
  dsimp only
  repeat' split
  all_goals exact ⟨rfl, rfl, rfl, rfl⟩

/-- Only the messages that left count. -/
theorem holdings_record {e : WireEntry} (h : e.isSent = false) :
    (t.record e).holdings = t.holdings := by
  have hsent : (e :: t.log).filter WireEntry.isSent = t.log.filter WireEntry.isSent := by
    rw [List.filter_cons, h]
    rfl
  unfold holdings record
  dsimp only
  rw [hsent]

theorem holdings_resetDialog (t : Transport) :
    t.resetDialog.holdings = t.holdings.reset t.referContextActive := by
  unfold resetDialog
  generalize hu : t.record _ = u
  have hheld : u.holdings = t.holdings := hu ▸ holdings_record rfl
  have hscope : u.referContextActive = t.referContextActive := by
    rw [← hu]
    rfl
  rw [← hheld, ← hscope]
  obtain ⟨_, hc, hr, hl⟩ := video_requestAudioPathStop (t := u)
  have hd := dialog_requestAudioPathStop (t := u)
  have hf := referDialog_requestAudioPathStop (t := u)
  unfold resetOwnerMedia holdings Holdings.reset
  dsimp only
  cases u.referContextActive with
  | true =>
    simp only [if_true]
    rw [heldOf_resetOf]
  | false =>
    simp only [Bool.false_eq_true, if_false, hc, hr, hl, hd, hf]
    rw [heldOf_resetOf]

theorem isReset_iff : t.IsReset ↔ t.holdings.reset t.referContextActive = t.holdings := by
  unfold IsReset
  rw [holdings_resetDialog]

end Transport

end EsphomeVoip
