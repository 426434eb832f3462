import EsphomeVoip.Transport.Effects

/-! # INVITEs of other calls

While the transport owns a dialog it refuses the INVITE of any other call.  This module says what
such a refusal leaves alone, and when it nevertheless changes whether the owned dialog counts as
busy: a refusal that is kept for replay also waits for an ACK. -/

namespace EsphomeVoip

namespace Transport

variable {w : World} {m msg : SipMessage} {src : Peer} {t : Transport}

/-! ## What sending leaves alone -/

/-- `t'` is `t` after messages were sent: the stream connection of the dialog, the log, the counter
    of outcomes and the diagnostics may differ. -/
structure SentFrom (t t' : Transport) : Prop where
  dialog : ∃ flow, t'.dialog = { t.dialog with tcpFlow := flow }
  video : t'.video = t.video
  clock : t'.clock = t.clock

theorem SentFrom.refl (t : Transport) : SentFrom t t := ⟨⟨_, rfl⟩, rfl, rfl⟩

theorem SentFrom.trans {a b c : Transport} (hab : SentFrom a b) (hbc : SentFrom b c) :
    SentFrom a c := by
  obtain ⟨flow, hb⟩ := hab.dialog
  obtain ⟨flow', hc⟩ := hbc.dialog
  refine ⟨⟨flow', ?_⟩, hbc.video.trans hab.video, hbc.clock.trans hab.clock⟩
  rw [hc, hb]

theorem sentFrom_sendSipUdp (ip : UInt32) (port : UInt16) :
    SentFrom t (t.sendSipUdp w msg ip port).2 := by
  unfold sendSipUdp
  split
  · exact .refl t
  · split <;> exact ⟨⟨_, rfl⟩, rfl, rfl⟩

theorem sentFrom_sendSipTcp : SentFrom t (t.sendSipTcp w msg).2 := by
  unfold sendSipTcp
  dsimp only
  split
  · split <;> exact ⟨⟨_, rfl⟩, rfl, rfl⟩
  · unfold sendSipTcpRecord
    split <;> exact ⟨⟨_, rfl⟩, rfl, rfl⟩

theorem sentFrom_sendSip (ip : UInt32) (port : UInt16) :
    SentFrom t (t.sendSip w msg ip port).2 := by
  unfold sendSip
  split
  · exact sentFrom_sendSipTcp
  · exact sentFrom_sendSipUdp ip port

theorem sentFrom_noteRepeated (sent : Bool) (recorded path : Flow) :
    SentFrom t (t.noteRepeated sent recorded path) := by
  unfold noteRepeated
  split
  · exact ⟨⟨_, rfl⟩, rfl, rfl⟩
  · exact .refl t

theorem sentFrom_sendAgain (recorded : Flow) (ip : UInt32) (port : UInt16) :
    SentFrom t (t.sendAgain w recorded msg ip port).2 :=
  (sentFrom_sendSip ip port).trans (sentFrom_noteRepeated _ _ _)

theorem sentFrom_resend (udp : Bool) (recorded : Flow) (ip : UInt32) (port : UInt16) :
    SentFrom t (t.resend w udp recorded msg ip port) := by
  unfold resend
  split
  · exact (sentFrom_sendSipUdp ip port).trans (sentFrom_noteRepeated _ _ _)
  · exact sentFrom_sendAgain recorded ip port

theorem sentFrom_record (e : WireEntry) : SentFrom t (t.record e) := ⟨⟨_, rfl⟩, rfl, rfl⟩

theorem sentFrom_statelessTo (cache : Bool) : SentFrom t (t.statelessTo w m cache).2 := by
  unfold statelessTo
  split
  · split <;> exact ⟨⟨_, rfl⟩, rfl, rfl⟩
  · exact .refl t

theorem sentFrom_reported {u : Transport} (h : SentFrom t u) (ok : Bool) (status : Nat) :
    SentFrom t (if ok = true then (true, u.markSipEvent .response status) else (false, u)).2 := by
  split
  · exact h.trans ⟨⟨_, rfl⟩, rfl, rfl⟩
  · exact h

/-- A response that is not kept. -/
theorem sentFrom_transmitStateless (status : Nat) :
    SentFrom t (t.transmitStateless w m src status false msg).2 := by
  unfold transmitStateless
  simp only [Bool.false_and, Bool.false_eq_true, if_false]
  exact (sentFrom_record _).trans (sentFrom_reported (sentFrom_sendSip src.ip src.port) _ status)

theorem sentFrom_sendStatelessResponse (w : World) (m : SipMessage) (src : Peer) (t : Transport)
    (status : Nat) (phrase reason : String) (retry : Option UInt32) :
    SentFrom t (t.sendStatelessResponse w m src status phrase reason false retry).2 := by
  unfold sendStatelessResponse
  split
  · exact .refl t
  · exact (sentFrom_statelessTo false).trans (sentFrom_transmitStateless status)

theorem sentFrom_reject (status : Nat) (phrase : String) :
    SentFrom t (t.reject w m src status phrase).2 :=
  sentFrom_sendStatelessResponse w m src t status phrase "" none

/-! ## The owned dialog's progress -/

/-- What the owned dialog has done so far and what it waits for. -/
structure Progress where
  callId : String
  localTag : String
  remoteTag : String
  remoteIp : UInt32
  remoteSipPort : UInt16
  cseq : UInt32
  inviteCseq : UInt32
  lastInviteCseqNumber : UInt32
  remoteDialogCseq : UInt32
  lastInviteVia : List Via
  lastInviteResponse : Option SipMessage
  outgoingInvitePending : Bool
  cancelRequested : Bool
  delayedOfferPending : Bool
  terminateAfterInviteAck : Bool
  pendingInvite : Option UdpTransaction
  pendingCancel : Option UdpTransaction
  pendingBye : Option UdpTransaction
  pendingUpdate : Option UdpTransaction
  pendingDirection : Option PendingVideoDirectionInvite
  /-- The final response to an INVITE of the dialog, while it awaits its ACK. -/
  unacknowledged : Option CompletedServerTransaction
  deriving DecidableEq

/-- The final response to an INVITE of the dialog, while it awaits its ACK. -/
def unacknowledged (d : Dialog) : Option CompletedServerTransaction :=
  d.completedInvite.filter fun c => c.awaitingAck && c.callId == d.callId

/-- The progress of the owned dialog. -/
def progress (t : Transport) : Progress :=
  { callId := t.dialog.callId
    localTag := t.dialog.localTag
    remoteTag := t.dialog.remoteTag
    remoteIp := t.dialog.remoteIp
    remoteSipPort := t.dialog.remoteSipPort
    cseq := t.dialog.cseq
    inviteCseq := t.dialog.inviteCseq
    lastInviteCseqNumber := t.dialog.lastInviteCseqNumber
    remoteDialogCseq := t.dialog.remoteDialogCseq
    lastInviteVia := t.dialog.lastInviteVia
    lastInviteResponse := t.dialog.lastInviteResponse
    outgoingInvitePending := t.dialog.outgoingInvitePending
    cancelRequested := t.dialog.cancelRequested
    delayedOfferPending := t.dialog.delayedOfferPending
    terminateAfterInviteAck := t.dialog.terminateAfterInviteAck
    pendingInvite := t.dialog.pendingInvite
    pendingCancel := t.dialog.pendingCancel
    pendingBye := t.dialog.pendingBye
    pendingUpdate := t.dialog.pendingUpdate
    pendingDirection := t.video.pendingDirection
    unacknowledged := unacknowledged t.dialog }

/-- Nothing that decides over the dialog's further requests has changed. -/
def Unaffected (t t' : Transport) : Prop :=
  t'.progress = t.progress ∧ t'.terminalTransactionPending = t.terminalTransactionPending

instance (t t' : Transport) : Decidable (Unaffected t t') :=
  inferInstanceAs (Decidable (_ ∧ _))

theorem SentFrom.progress_eq {t t' : Transport} (h : SentFrom t t') :
    t'.progress = t.progress := by
  obtain ⟨flow, hd⟩ := h.dialog
  unfold progress
  rw [hd, h.video]
  rfl

theorem SentFrom.terminal_eq {t t' : Transport} (h : SentFrom t t') :
    t'.terminalTransactionPending = t.terminalTransactionPending := by
  obtain ⟨flow, hd⟩ := h.dialog
  unfold terminalTransactionPending
  rw [hd]

theorem SentFrom.unaffected {t t' : Transport} (h : SentFrom t t') : Unaffected t t' :=
  ⟨h.progress_eq, h.terminal_eq⟩

/-! ## Dropping a kept response -/

/-- The dropped record is the one that `terminal_transaction_pending_locked_` looks at. -/
def forgetsFinal (m : SipMessage) (t : Transport) : Bool :=
  t.forgets m .invite && t.replaySlot m .invite == .invite

/-- Dropping another record changes nothing here. -/
theorem dropRecord_unaffected {slot : RecordSlot} (h : slot ≠ .invite) :
    (t.dropRecord slot).progress = t.progress ∧
      (t.dropRecord slot).terminalTransactionPending = t.terminalTransactionPending ∧
      (t.dropRecord slot).dialog.callId = t.dialog.callId := by
  cases slot with
  | invite => exact absurd rfl h
  | acceptedRefer => exact ⟨rfl, rfl, rfl⟩
  | control => exact ⟨rfl, rfl, rfl⟩
  | retiredAccepted i => exact ⟨rfl, rfl, rfl⟩
  | retiredControl i => exact ⟨rfl, rfl, rfl⟩

/-! ## The refusal -/

/-- A foreign INVITE is not sent within the owned dialog. -/
theorem matchingDialog_foreign {d : Dialog} (h : m.callId ≠ d.callId) :
    matchingDialog m d = false := by
  have hid : (m.callId == d.callId) = false := by simpa using h
  unfold matchingDialog
  rw [hid]
  rfl

/-- Nothing terminal is pending for another reason than an outstanding ACK. -/
def otherTerminal (t : Transport) : Bool :=
  t.dialog.pendingCancel.isSome || t.dialog.pendingBye.isSome || t.dialog.terminateAfterInviteAck

theorem terminalTransactionPending_eq (t : Transport) :
    t.terminalTransactionPending = (awaitsAnyAck t.dialog || t.otherTerminal) := by
  unfold terminalTransactionPending awaitsAnyAck otherTerminal
  cases t.dialog.pendingCancel.isSome <;> cases t.dialog.pendingBye.isSome <;>
    cases (t.dialog.completedInvite.elim false fun c => c.awaitingAck) <;> rfl

theorem unacknowledged_of_idle {d : Dialog} (h : awaitsAnyAck d = false) :
    unacknowledged d = none := by
  unfold awaitsAnyAck at h
  unfold unacknowledged
  cases hc : d.completedInvite with
  | none => rfl
  | some c =>
    rw [hc] at h
    have ha : c.awaitingAck = false := h
    simp [Option.filter, ha]

/-- The refusal can be kept: it opens a new transaction, with a peer that has an address. -/
def keepable (m : SipMessage) (src : Peer) : Bool :=
  m.toTag == "" && src.ip != 0 && src.port != 0

/-- The dialog in which a refusal is kept that awaits its ACK. -/
def withRefusal (c : CompletedServerTransaction) (t : Transport) : Transport :=
  { t with dialog := { t.dialog with completedInvite := some c } }

/-- Keeping the refusal of a foreign INVITE leaves the progress alone. -/
theorem withRefusal_progress {c : CompletedServerTransaction}
    (hidle : awaitsAnyAck t.dialog = false) (hc : c.callId ≠ t.dialog.callId) :
    (t.withRefusal c).progress = t.progress := by
  have hnew : unacknowledged (t.withRefusal c).dialog = none := by
    have hid : (c.callId == t.dialog.callId) = false := by simpa using hc
    simp [unacknowledged, withRefusal, Option.filter, hid]
  have hold := unacknowledged_of_idle hidle
  unfold progress
  rw [hnew, hold]
  rfl

theorem withRefusal_terminal {c : CompletedServerTransaction} (hc : c.awaitingAck = true) :
    (t.withRefusal c).terminalTransactionPending = true := by
  rw [terminalTransactionPending_eq]
  simp [awaitsAnyAck, withRefusal, hc]

/-- Sending does not depend on the kept refusal. -/
theorem sentFrom_withRefusal {c : CompletedServerTransaction} {t' : Transport}
    (h : SentFrom (t.withRefusal c) t') (hidle : awaitsAnyAck t.dialog = false)
    (hid : c.callId ≠ t.dialog.callId) (hc : c.awaitingAck = true) :
    t'.progress = t.progress ∧ t'.terminalTransactionPending = true := by
  rw [h.progress_eq, h.terminal_eq]
  exact ⟨withRefusal_progress hidle hid, withRefusal_terminal hc⟩

/-- What `remember_completed_response_` does with the refusal of a foreign INVITE. -/
theorem rememberCompletedResponse_refusal (hidle : awaitsAnyAck t.dialog = false)
    (hcseq : m.cseqNumber ≠ 0) (hcall : m.callId ≠ "") (hlow : 200 ≤ msg.status)
    (hhigh : msg.status ≤ 699) (hsrc : src.ip ≠ 0 ∧ src.port ≠ 0) :
    t.rememberCompletedResponse m.callId m.cseqNumber m.topBranch src.ip src.port .invite msg =
      t.withRefusal (t.completedTransaction m.callId m.cseqNumber m.topBranch src.ip src.port
        .invite msg) := by
  have hkeep : keepsActiveInvite t.dialog m.callId m.cseqNumber m.topBranch = false := by
    unfold awaitsAnyAck at hidle
    unfold keepsActiveInvite
    cases hc : t.dialog.completedInvite with
    | none => rfl
    | some c =>
      rw [hc] at hidle
      have ha : c.awaitingAck = false := hidle
      simp [ha]
  have hguard : ¬(src.ip = 0 ∨ src.port = 0 ∨ isRememberedMethod .invite = false ∨
      msg.status < 200 ∨ 699 < msg.status ∨ m.callId = "" ∨ m.cseqNumber = 0) := by
    have hr : isRememberedMethod .invite = true := rfl
    simp only [hsrc.1, hsrc.2, hr, hcseq, hcall, false_or, or_false, Bool.true_eq_false]
    omega
  unfold rememberCompletedResponse
  rw [if_neg hguard]
  simp [hkeep, withRefusal]

theorem rememberCompletedResponse_unaddressed (callId : String) (cseq : UInt32) (branch : String)
    (method : Method) (h : src.ip = 0 ∨ src.port = 0) :
    t.rememberCompletedResponse callId cseq branch src.ip src.port method msg = t := by
  unfold rememberCompletedResponse
  rw [if_pos]
  rcases h with h | h
  · exact .inl h
  · exact .inr (.inl h)

theorem rememberCompletedResponse_record (e : WireEntry) (callId : String) (cseq : UInt32)
    (branch : String) (ip : UInt32) (port : UInt16) (method : Method) :
    (t.record e).rememberCompletedResponse callId cseq branch ip port method msg =
      (t.rememberCompletedResponse callId cseq branch ip port method msg).record e := by
  unfold rememberCompletedResponse record completedTransaction
  dsimp only
  repeat' split
  all_goals rfl

/-- A final response to an INVITE that asks to be kept. -/
theorem sentFrom_transmitKept (w : World) (src : Peer) (msg : SipMessage) (t : Transport)
    (status : Nat) (hstatus : 200 ≤ status) (hmethod : m.cseqMethod = .invite) :
    SentFrom (t.rememberCompletedResponse m.callId m.cseqNumber m.topBranch src.ip src.port
      .invite msg) (t.transmitStateless w m src status true msg).2 := by
  unfold transmitStateless
  simp only [Bool.true_and, decide_eq_true hstatus, if_true, hmethod,
    rememberCompletedResponse_record]
  generalize t.rememberCompletedResponse m.callId m.cseqNumber m.topBranch src.ip src.port
    .invite msg = t'
  exact (sentFrom_record _).trans (sentFrom_reported (sentFrom_sendSip src.ip src.port) _ status)

/-- A kept refusal of a foreign INVITE, while no ACK is awaited. -/
theorem refuse_kept (status : Nat) (phrase reason : String) (retry : Option UInt32)
    (hlow : 200 ≤ status) (hhigh : status ≤ 699) (hidle : awaitsAnyAck t.dialog = false)
    (hwf : inviteWellFormed m = true) (hforeign : m.callId ≠ t.dialog.callId) :
    let t' := (t.sendStatelessResponse w m src status phrase reason true retry).2
    t'.progress = t.progress ∧
      t'.terminalTransactionPending =
        (t.terminalTransactionPending || (src.ip != 0 && src.port != 0)) := by
  intro t'
  simp only [inviteWellFormed, Bool.and_eq_true, bne_iff_ne, beq_iff_eq, ne_eq,
    Bool.not_eq_true', List.isEmpty_eq_false_iff, Option.isSome_iff_ne_none] at hwf
  obtain ⟨⟨⟨⟨⟨⟨hcall, hvia⟩, hfrom⟩, hto⟩, hcseq⟩, hmethod⟩, _⟩ := hwf
  have hsome : m.cseq ≠ none := by
    intro h
    simp [SipMessage.cseqNumber, h] at hcseq
  -- A well-formed INVITE has all that a response is made from.
  have hguard : ¬(m.via = [] ∨ m.fromAddr = none ∨ m.toAddr = none ∨ m.callId = "" ∨
      m.cseq = none) := by
    simp [hvia, hfrom, hto, hcall, hsome]
  have hto' := sentFrom_statelessTo (w := w) (m := m) (t := t) true
  have hdef : t' = ((t.statelessTo w m true).2.transmitStateless w m src status true
      (buildStatelessResponse m src (t.statelessTo w m true).1 status phrase reason retry
        (t.statelessTo w m true).2.dialog)).2 := by
    show (t.sendStatelessResponse w m src status phrase reason true retry).2 = _
    unfold sendStatelessResponse
    rw [if_neg hguard]
  generalize hmsg : buildStatelessResponse m src (t.statelessTo w m true).1 status phrase reason
    retry (t.statelessTo w m true).2.dialog = msg at hdef
  have hst : msg.status = status := by
    rw [← hmsg]
    rfl
  generalize (t.statelessTo w m true).2 = u at hto' hdef
  -- Naming the local tag touches no part that matters here.
  have hidle' : awaitsAnyAck u.dialog = false := by
    obtain ⟨flow, hd⟩ := hto'.dialog
    rw [hd]
    exact hidle
  have hforeign' : m.callId ≠ u.dialog.callId := by
    obtain ⟨flow, hd⟩ := hto'.dialog
    rw [hd]
    exact hforeign
  have hsent := sentFrom_transmitKept w src msg u status hlow hmethod
  rw [hdef, ← hto'.progress_eq, ← hto'.terminal_eq]
  -- The refusal is kept for its retransmission only when there is an address to send it to.
  by_cases hsrc : src.ip ≠ 0 ∧ src.port ≠ 0
  · rw [rememberCompletedResponse_refusal hidle' hcseq hcall (by omega) (by omega) hsrc] at hsent
    have h := sentFrom_withRefusal hsent hidle' hforeign' rfl
    refine ⟨h.1, ?_⟩
    rw [h.2]
    simp [hsrc.1, hsrc.2]
  · have hno : src.ip = 0 ∨ src.port = 0 := by
      by_cases hip : src.ip = 0
      · exact .inl hip
      · exact .inr (by simpa [hip] using hsrc)
    rw [rememberCompletedResponse_unaddressed _ _ _ _ hno] at hsent
    refine ⟨hsent.progress_eq, ?_⟩
    rw [hsent.terminal_eq]
    rcases hno with hno | hno <;> simp [hno]

theorem awaitsAnyAck_of_terminal (h : t.terminalTransactionPending = false) :
    awaitsAnyAck t.dialog = false := by
  rw [terminalTransactionPending_eq] at h
  exact (Bool.or_eq_false_iff.1 h).1

/-- A foreign INVITE that is no retransmission leaves the progress alone, and its refusal may be
    kept. -/
theorem freshInvite_foreign (w : World) (m : SipMessage) (src : Peer) (t : Transport)
    (hown : t.dialog.callId ≠ "") (hforeign : m.callId ≠ t.dialog.callId)
    (hwf : inviteWellFormed m = true) :
    (t.freshInvite w m src).2.progress = t.progress ∧
      (t.freshInvite w m src).2.terminalTransactionPending =
        (t.terminalTransactionPending || keepable m src) := by
  have hmatch := matchingDialog_foreign hforeign
  unfold freshInvite
  by_cases htag : m.toTag = ""
  · have hkeep : keepable m src = (src.ip != 0 && src.port != 0) := by simp [keepable, htag]
    rw [if_neg (by simp [htag]), hkeep]
    by_cases hbusy : t.terminalTransactionPending = true
    · rw [if_pos hbusy, hbusy]
      have h := (sentFrom_sendStatelessResponse w m src t
        (if m.callId = t.dialog.callId then 500 else 503)
        (if m.callId = t.dialog.callId then "Server Internal Error" else "Service Unavailable")
        "transaction_pending" (some 1)).unaffected
      exact ⟨h.1, h.2.trans (by simp [hbusy])⟩
    · have hidle := awaitsAnyAck_of_terminal (Bool.eq_false_iff.2 hbusy)
      rw [if_neg hbusy]
      unfold routeInvite
      dsimp only
      rw [if_pos ⟨hown, hforeign⟩]
      unfold refuseForeignInvite
      split
      · exact refuse_kept (t := (t.espRandom w).2) 491 _ _ _ (by omega) (by omega) hidle hwf
          hforeign
      · exact refuse_kept 486 _ _ _ (by omega) (by omega) hidle hwf hforeign
  · have hkeep : keepable m src = false := by simp [keepable, htag]
    rw [if_pos ⟨htag, hmatch⟩, hkeep, Bool.or_false]
    exact (sentFrom_reject 481 _).unaffected

/-! ## When a foreign INVITE is harmless -/

/-- A foreign INVITE meets its own kept response, or is malformed; or it finds a terminal
    transaction pending already, or its refusal cannot be kept.  One that drops a final response
    past its lifetime must not be the first to notice the missing ACK. -/
def ForeignInviteHarmless (m : SipMessage) (src : Peer) (t : Transport) : Prop :=
  inviteWellFormed m = false ∨ t.replayable m src .invite (!t.dialog.remoteSipTcp) = true ∨
    if t.forgetsFinal m = true then
      unacknowledged t.dialog = none ∧
        (awaitsAnyAck t.dialog || t.otherTerminal) = (t.otherTerminal || keepable m src)
    else t.terminalTransactionPending = true ∨ keepable m src = false

instance (m : SipMessage) (src : Peer) (t : Transport) :
    Decidable (ForeignInviteHarmless m src t) :=
  inferInstanceAs (Decidable (_ ∨ _ ∨ ite _ _ _))

/-- What is left when the final response to the last INVITE is dropped. -/
theorem dropRecord_invite (t : Transport) :
    (t.dropRecord .invite).progress = { t.progress with unacknowledged := none } ∧
      (t.dropRecord .invite).terminalTransactionPending = t.otherTerminal := by
  refine ⟨rfl, ?_⟩
  rw [terminalTransactionPending_eq]
  rfl

theorem progress_dropped_iff (t : Transport) :
    ({ t.progress with unacknowledged := none } : Progress) = t.progress ↔
      unacknowledged t.dialog = none := by
  constructor
  · intro h
    have hu := congrArg Progress.unacknowledged h
    exact hu.symm
  · intro h
    unfold progress
    rw [h]

/-- A foreign INVITE leaves the owned dialog's progress and the pending of its terminal
    transaction untouched exactly when it is harmless. -/
theorem foreign_invite_unaffected_iff (w : World) (m : SipMessage) (src : Peer) (t : Transport)
    (hown : t.dialog.callId ≠ "") (hforeign : m.callId ≠ t.dialog.callId) :
    Unaffected t (t.handleInvite w m src).2 ↔ ForeignInviteHarmless m src t := by
  unfold handleInvite ForeignInviteHarmless
  -- An ill-formed INVITE is refused statelessly.
  by_cases hwf : inviteWellFormed m = false
  · rw [if_pos hwf]
    exact ⟨fun _ => .inl hwf, fun _ => (sentFrom_reject 400 _).unaffected⟩
  · rw [if_neg hwf]
    have hwf' : inviteWellFormed m = true := by simpa using hwf
    dsimp only
    -- It is a repetition, or it has let a record lapse, or it is new.
    rcases replayCompletedResponse_cases (w := w) m src .invite (!t.dialog.remoteSipTcp) t with
      ⟨hr, c, _, _, he⟩ | ⟨hr, hfo, he⟩ | ⟨hr, hfo, he⟩
    · rw [he, if_pos rfl]
      exact ⟨fun _ => .inr (.inl hr), fun _ => (sentFrom_resend _ _ _ _).unaffected⟩
    · rw [he, if_neg (by simp)]
      simp only [hwf', hr, Bool.true_eq_false, Bool.false_eq_true, false_or]
      by_cases hslot : t.replaySlot m .invite = .invite
      · -- The record that waits for an ACK is dropped before the INVITE is looked at.
        have hfinal : t.forgetsFinal m = true := by simp [forgetsFinal, hfo, hslot]
        have hfresh := freshInvite_foreign w m src (t.dropRecord .invite) hown hforeign hwf'
        obtain ⟨hp, ht⟩ := dropRecord_invite t
        rw [hslot, if_pos hfinal]
        unfold Unaffected
        rw [hfresh.1, hfresh.2, hp, ht, progress_dropped_iff, terminalTransactionPending_eq]
        constructor
        · exact fun h => ⟨h.1, h.2.symm⟩
        · exact fun h => ⟨h.1, h.2.symm⟩
      · have hfinal : ¬t.forgetsFinal m = true := by simp [forgetsFinal, hslot]
        obtain ⟨hp, ht, hc⟩ := dropRecord_unaffected (t := t) hslot
        have hfresh := freshInvite_foreign w m src (t.dropRecord (t.replaySlot m .invite))
          (hc ▸ hown) (hc ▸ hforeign) hwf'
        rw [if_neg hfinal]
        unfold Unaffected
        rw [hfresh.1, hfresh.2, hp, ht]
        cases t.terminalTransactionPending <;> cases keepable m src <;> simp
    · have hfinal : ¬t.forgetsFinal m = true := by simp [forgetsFinal, hfo]
      rw [he, if_neg (by simp), if_neg hfinal]
      simp only [hwf', hr, Bool.true_eq_false, Bool.false_eq_true, false_or]
      have hfresh := freshInvite_foreign w m src t hown hforeign hwf'
      unfold Unaffected
      rw [hfresh.1, hfresh.2]
      cases t.terminalTransactionPending <;> cases keepable m src <;> simp

/-- Hall's call is ringing here. -/
def hallCalls : Transport :=
  EventRun.after (step grantingWorld) {} [.udp (inviteFromHall "hall" "b1" 1 "offer") hall]

/-- While Hall's call is ringing, the refusal of a stranger's INVITE makes the dialog count as
    terminating. -/
theorem stranger_blocks_the_dialog :
    ¬ ∀ (es : List Event) (m : SipMessage) (src : Peer),
      let t := EventRun.after (step grantingWorld) {} es
      t.dialog.callId ≠ "" → m.callId ≠ t.dialog.callId →
      Unaffected t (t.handleInvite grantingWorld m src).2 := by
  intro h
  have hs := h [.udp (inviteFromHall "hall" "b1" 1 "offer") hall]
    (inviteFromHall "stranger" "b2" 1 "offer") stranger (by decide) (by decide)
  exact absurd hs (by decide)

/-- An INVITE of another call that carries a To-tag is refused without a trace. -/
theorem tagged_invite_unaffected :
    Unaffected hallCalls (hallCalls.handleInvite grantingWorld
      { inviteFromHall "stranger" "b2" 1 "offer" with
        toAddr := some { uri := { user := "kitchen" }, tag := "other" } } stranger).2 :=
  (foreign_invite_unaffected_iff grantingWorld _ stranger hallCalls (by decide) (by decide)).2
    (by decide)

end Transport

end EsphomeVoip
