import EsphomeVoip.Transport.Timely.Watch

/-! # Timers while messages are sent

A message that is sent leaves the timers as they are, a request of ours is remembered with new ones,
and a final response with its own. -/

namespace EsphomeVoip

open WrapClock (millis timeReached)

namespace Transport

variable {k : Watch} {w : World} {t u : Transport} {m msg : SipMessage} {src : Peer}

/-! ## Sockets -/

theorem Sent.agenda (h : Sent t u) : u.agenda = t.agenda := by
  obtain ⟨flow, io, log, event, status, rfl, _⟩ := h
  rfl

@[simp] theorem agenda_record (e : WireEntry) : (t.record e).agenda = t.agenda := rfl

@[simp] theorem agenda_markSipEvent (event : SipEvent) (status : Nat) :
    (t.markSipEvent event status).agenda = t.agenda := rfl

theorem agenda_noteAccepted (number : UInt32) : (t.noteAccepted number).agenda = t.agenda := rfl

theorem agenda_espRandom : (t.espRandom w).2.agenda = t.agenda := rfl

@[simp] theorem agenda_sendSip (ip : UInt32) (port : UInt16) :
    (t.sendSip w msg ip port).2.agenda = t.agenda :=
  (sent_sendSip ip port).agenda

@[simp] theorem agenda_sendAgain (recorded : Flow) (ip : UInt32) (port : UInt16) :
    (t.sendAgain w recorded msg ip port).2.agenda = t.agenda :=
  (sent_sendAgain recorded ip port).agenda

@[simp] theorem agenda_resend (udp : Bool) (recorded : Flow) (ip : UInt32) (port : UInt16) :
    (t.resend w udp recorded msg ip port).agenda = t.agenda :=
  (sent_resend udp recorded ip port).agenda

/-! ## Requests -/

theorem newTransaction_eq (h : Timely k t) (ip : UInt32) (port : UInt16) :
    t.newTransaction msg ip port = .fresh k.clock msg ip port (!t.dialog.remoteSipTcp) := by
  unfold newTransaction UdpTransaction.fresh
  rw [h.now]

/-- A request other than an INVITE is remembered. -/
theorem Timely.rememberUdpTransaction (hk : k.Closed) (h : Timely k t) {method : Method}
    (hmethod : method ≠ .invite) (ip : UInt32) (port : UInt16) :
    Timely k (t.rememberUdpTransaction method msg ip port) := by
  unfold Transport.rememberUdpTransaction
  split
  · exact h
  · rename_i hends
    rw [not_or] at hends
    dsimp only
    rw [newTransaction_eq h]
    generalize hx : UdpTransaction.fresh k.clock msg ip port (!t.dialog.remoteSipTcp) = x
    have hown : k.own x := hx ▸ hk.own.fresh msg ip port _ hends.1 hends.2
    have hnotify : k.notify x := hx ▸ hk.notify.fresh msg ip port _ hends.1 hends.2
    have hnew (y : UdpTransaction) (hy : y ∈ some x) : k.own y := Option.mem_some.1 hy ▸ hown
    split
    · unfold rememberNotify
      split
      · exact h
      · rename_i r hr
        obtain ⟨hfirst, hfinal⟩ := h.notify r hr
        have hother := h.other r hr
        split
        · refine { h with other := ?_, notify := ?_ }
          · rintro r' ⟨rfl⟩
            exact hother
          · rintro r' ⟨rfl⟩
            exact ⟨fun y hy => Option.mem_some.1 hy ▸ hnotify, hfinal⟩
        · refine { h with other := ?_, notify := ?_ }
          · rintro r' ⟨rfl⟩
            exact hother
          · rintro r' ⟨rfl⟩
            exact ⟨hfirst, fun y hy => Option.mem_some.1 hy ▸ hnotify⟩
    · exact absurd rfl hmethod
    · exact h.withDialog { h.own with cancel := hnew }
    · exact h.withDialog { h.own with bye := hnew }
    · exact h.withDialog { h.own with update := hnew }
    · exact h

theorem agenda_rememberCompletedInviteAck (ip : UInt32) (port : UInt16) :
    (t.rememberCompletedInviteAck msg ip port).agenda = t.agenda := by
  unfold rememberCompletedInviteAck
  split <;> rfl

theorem agenda_requestBranch (method : Method) (options : SipRequestOptions) :
    (t.requestBranch w method options).2.agenda = t.agenda := by
  unfold requestBranch
  dsimp only
  repeat' split
  all_goals rfl

theorem agenda_formatRequest (method : Method) (body : String) (options : SipRequestOptions) :
    (t.formatRequest w method body options).2.agenda = t.agenda :=
  agenda_requestBranch (w := w) (t := t) method options

/-- A request is sent and perhaps remembered, or nothing is remembered of it. -/
theorem transmitRequest_cases (msg : SipMessage) (method : Method)
    (options : SipRequestOptions) (ip : UInt32) (port : UInt16) : ∃ u, u.agenda = t.agenda ∧
      (t.transmitRequest w method options msg ip port = (false, u) ∨
        t.transmitRequest w method options msg ip port =
          (true, if options.rememberTransaction && isTransactionRequest method
            then u.rememberUdpTransaction method msg ip port else u)) := by
  unfold transmitRequest
  dsimp only
  generalize hv : (if method = Method.ack ∧ options.rememberInviteAck = true then
    t.rememberCompletedInviteAck msg ip port else t) = v
  have hacked : v.agenda = t.agenda := by
    rw [← hv]
    split
    · exact agenda_rememberCompletedInviteAck ip port
    · rfl
  have hsent : (v.sendSip w msg ip port).2.agenda = t.agenda :=
    (agenda_sendSip ip port).trans hacked
  split
  · refine ⟨if sipEventFromMethod method = .none then (v.sendSip w msg ip port).2
      else (v.sendSip w msg ip port).2.markSipEvent (sipEventFromMethod method) 0, ?_, .inr rfl⟩
    split
    · exact hsent
    · exact hsent
  · exact ⟨_, hsent, .inl rfl⟩

/-- What a request leaves of the timers. -/
theorem sendRequestFormatted_cases (method : Method) (body : String)
    (options : SipRequestOptions) : ∃ u, u.agenda = t.agenda ∧
      ((∃ msg?, t.sendRequestFormatted w method body options = (false, msg?, u)) ∨
        ∃ msg ip port, t.dialog.callId ≠ "" ∧ t.sendRequestFormatted w method body options =
          (true, some msg, if options.rememberTransaction && isTransactionRequest method
            then u.rememberUdpTransaction method msg ip port else u)) := by
  unfold sendRequestFormatted
  split
  · exact ⟨t, rfl, .inl ⟨none, rfl⟩⟩
  · rename_i hready
    simp only [not_or] at hready
    dsimp only
    obtain ⟨u, hu, hsent | hsent⟩ := transmitRequest_cases (w := w)
      (t := (t.formatRequest w method body options).2)
      (t.formatRequest w method body options).1 method options
      (requestTarget t.dialog).1 (requestTarget t.dialog).2
    · rw [hsent]
      exact ⟨u, hu.trans (agenda_formatRequest method body options), .inl ⟨_, rfl⟩⟩
    · rw [hsent]
      exact ⟨u, hu.trans (agenda_formatRequest method body options),
        .inr ⟨_, _, _, hready.2.2, rfl⟩⟩

theorem Timely.sendRequestFormatted (hk : k.Closed) (h : Timely k t) {method : Method}
    (hmethod : method ≠ .invite) (body : String) (options : SipRequestOptions) :
    Timely k (t.sendRequestFormatted w method body options).2.2 := by
  obtain ⟨u, hu, ⟨_, he⟩ | ⟨msg, ip, port, _, he⟩⟩ :=
    sendRequestFormatted_cases (w := w) (t := t) method body options
  · rw [he]
    exact h.congr hu
  · rw [he]
    dsimp only
    split
    · exact (h.congr hu).rememberUdpTransaction hk hmethod ip port
    · exact h.congr hu

theorem Timely.sendRequest (hk : k.Closed) (h : Timely k t) {method : Method}
    (hmethod : method ≠ .invite) (body : String) (options : SipRequestOptions) :
    Timely k (t.sendRequest w method body options).2 :=
  h.sendRequestFormatted hk hmethod body options

theorem Timely.sendInviteErrorAck (hk : k.Closed) (h : Timely k t) :
    Timely k (t.sendInviteErrorAck w).2 := by
  unfold Transport.sendInviteErrorAck
  split
  · exact h
  · exact h.sendRequest hk (by decide) _ _

theorem Timely.sendConnectedIdentityUpdate (hk : k.Closed) (h : Timely k t) :
    Timely k (t.sendConnectedIdentityUpdate w).2 := by
  unfold Transport.sendConnectedIdentityUpdate
  have hsent : Timely k (t.sendRequest w .update "" {}).2 := h.sendRequest hk (by decide) "" {}
  split
  · exact h
  · dsimp only
    split
    · exact hsent.congr rfl
    · exact hsent

/-! ## Responses -/

theorem agenda_ensureLocalTag : (t.ensureLocalTag w).agenda = t.agenda := by
  unfold ensureLocalTag
  split <;> rfl

theorem Timely.deferUdpProvisionalResponse (h : Timely k t) (ip : UInt32) (port : UInt16) :
    Timely k (t.deferUdpProvisionalResponse msg ip port) := by
  unfold Transport.deferUdpProvisionalResponse
  split
  · exact h
  · refine { h with provisional := ?_ }
    rintro p ⟨rfl⟩
    exact Nat.succ_pos 19

/-- The record that is made of a final response starts at T1. -/
theorem Timely.rememberCompletedResponse (h : Timely k t) (callId : String) (cseq : UInt32)
    (branch : String) (ip : UInt32) (port : UInt16) (method : Method) :
    Timely k (t.rememberCompletedResponse callId cseq branch ip port method msg) := by
  unfold Transport.rememberCompletedResponse
  split
  · exact h
  · dsimp only
    split
    · split
      · exact h
      · refine h.withDialog { h.own with final := ?_ }
        rintro c ⟨rfl⟩
        exact Nat.succ_pos 499
    · exact h.congr rfl

theorem Timely.keepLastResponse (h : Timely k t) : Timely k (t.keepLastResponse msg) := by
  have hdialog : Timely k { t with dialog := { t.dialog with
      lastInviteResponse := some msg
      lastResponseFlow := t.path t.dialog.lastInvitePeerIp t.dialog.lastInvitePeerPort } } :=
    h.congr rfl
  exact { hdialog with provisional := fun p hp => nomatch hp }

theorem Timely.ownFinalResponse (h : Timely k t) : Timely k (t.ownFinalResponse msg) :=
  h.keepLastResponse.rememberCompletedResponse _ _ _ _ _ _

theorem Timely.sendFinalInviteResponse (h : Timely k t) (status : Nat) :
    Timely k (t.sendFinalInviteResponse w status msg).2 := by
  unfold Transport.sendFinalInviteResponse
  have hown : Timely k (t.ownFinalResponse msg) := h.ownFinalResponse
  dsimp only
  split
  · exact hown.congr ((agenda_markSipEvent _ _).trans (agenda_sendSip _ _))
  · exact hown.congr (agenda_sendSip _ _)

theorem Timely.sendProvisionalInviteResponse (h : Timely k t) (status : Nat) :
    Timely k (t.sendProvisionalInviteResponse w status msg).2 := by
  unfold Transport.sendProvisionalInviteResponse
  have hkept : Timely k (t.keepLastResponse msg) := h.keepLastResponse
  dsimp only
  have hsent : Timely k ((t.keepLastResponse msg).sendSip w msg
      (t.keepLastResponse msg).dialog.lastInvitePeerIp
      (t.keepLastResponse msg).dialog.lastInvitePeerPort).2 := hkept.congr (agenda_sendSip _ _)
  split
  · exact hsent.congr (agenda_markSipEvent _ _)
  · split
    · exact hsent
    · exact (hsent.deferUdpProvisionalResponse _ _).congr (agenda_markSipEvent _ _)

theorem Timely.sendResponse (h : Timely k t) (status : Nat) (phrase body reason : String) :
    Timely k (t.sendResponse w status phrase body reason).2 := by
  unfold Transport.sendResponse
  split
  · exact h
  · dsimp only
    generalize hu : (if needsLocalTag status t.dialog.lastInviteTo then t.ensureLocalTag w
      else t) = u
    have hu' : Timely k u := by
      rw [← hu]
      split
      · exact h.congr agenda_ensureLocalTag
      · exact h
    split
    · exact Timely.sendFinalInviteResponse (hu'.congr (agenda_record _)) status
    · exact Timely.sendProvisionalInviteResponse (hu'.congr (agenda_record _)) status

/-- A response is sent or owned only where an INVITE of the peer is to be answered. -/
theorem lastInvitePeerIp_of_sendResponse {status : Nat} {phrase body reason : String}
    (h : (t.sendResponse w status phrase body reason).1 = true) :
    t.dialog.lastInvitePeerIp ≠ 0 := by
  intro hip
  unfold Transport.sendResponse at h
  rw [if_pos (.inl hip)] at h
  cases h

theorem agenda_statelessTo (cache : Bool) : (t.statelessTo w m cache).2.agenda = t.agenda :=
  (sent_statelessTo cache).agenda

theorem Timely.transmitStateless (h : Timely k t) (status : Nat) (cache : Bool) :
    Timely k (t.transmitStateless w m src status cache msg).2 := by
  unfold Transport.transmitStateless
  dsimp only
  generalize hu : t.record (.refused msg _) = u
  have hu' : Timely k u := hu ▸ h.congr (agenda_record _)
  have hreport (v : Transport) (hv : Timely k v) (ok : Bool) : Timely k
      (if ok = true then (true, (v.sendSip w msg src.ip src.port).2.markSipEvent .response status)
        else (false, (v.sendSip w msg src.ip src.port).2)).2 := by
    split
    · exact hv.congr ((agenda_markSipEvent _ _).trans (agenda_sendSip _ _))
    · exact hv.congr (agenda_sendSip _ _)
  split
  · exact hreport _ (hu'.rememberCompletedResponse _ _ _ _ _ _) _
  · exact hreport _ hu' _

theorem Timely.sendStatelessResponse (h : Timely k t) (status : Nat) (phrase reason : String)
    (cache : Bool) (retryAfter : Option UInt32) :
    Timely k (t.sendStatelessResponse w m src status phrase reason cache retryAfter).2 := by
  unfold Transport.sendStatelessResponse
  split
  · exact h
  · exact Timely.transmitStateless (h.congr (agenda_statelessTo cache)) status cache

theorem Timely.reject (h : Timely k t) (status : Nat) (phrase : String) :
    Timely k (t.reject w m src status phrase).2 :=
  h.sendStatelessResponse status phrase "" false none

theorem Timely.refuse (h : Timely k t) (status : Nat) (phrase reason : String) :
    Timely k (t.refuse w m src status phrase reason).2 :=
  h.sendStatelessResponse status phrase reason true none

theorem Timely.refuseForNow (h : Timely k t) (reason : String) (cache : Bool) :
    Timely k (t.refuseForNow w m src reason cache).2 :=
  (h.congr (u := (t.espRandom w).2) rfl).sendStatelessResponse 500 _ reason cache _

theorem Timely.refuseForeignInvite (h : Timely k t) :
    Timely k (t.refuseForeignInvite w m src).2 := by
  unfold Transport.refuseForeignInvite
  split
  · exact (h.congr (u := (t.espRandom w).2) rfl).sendStatelessResponse 491 _ _ _ _
  · exact h.sendStatelessResponse 486 _ _ _ _

/-! ## Records -/

theorem Timely.setCompletedInvite (h : Timely k t) {c : Option CompletedServerTransaction}
    (hc : ∀ c' ∈ c, 0 < c'.retransmitIntervalMs) : Timely k (t.setCompletedInvite c) :=
  h.withDialog (h.own.withFinal hc)

theorem Timely.dropRecord (h : Timely k t) (slot : RecordSlot) : Timely k (t.dropRecord slot) := by
  cases slot with
  | invite =>
    have hcleared : Timely k (t.setCompletedInvite none) := h.setCompletedInvite fun c hc =>
      nomatch hc
    exact hcleared.congr rfl
  | acceptedRefer =>
    refine h.congr ?_
    unfold agenda Transport.dropRecord clearRecord
    cases t.referDialog <;> rfl
  | _ => exact h.congr rfl

theorem Timely.replayCompletedResponse (h : Timely k t) (method : Method) (udp : Bool) :
    Timely k (t.replayCompletedResponse w m src method udp).2 := by
  rcases replayCompletedResponse_cases (w := w) m src method udp t with
    ⟨_, c, _, _, he⟩ | ⟨_, _, he⟩ | ⟨_, _, he⟩
  · rw [he]
    exact h.congr (agenda_resend _ _ _ _)
  · rw [he]
    exact h.dropRecord _
  · rw [he]
    exact h

theorem Timely.replayCompletedInviteAck (h : Timely k t) (udp : Bool) :
    Timely k (t.replayCompletedInviteAck w m src udp).2 := by
  refine h.congr ?_
  unfold Transport.replayCompletedInviteAck
  dsimp only
  split
  · rfl
  · split
    · rfl
    · split
      · split <;> rfl
      · split
        · exact agenda_resend _ _ _ _
        · rfl

theorem Timely.replayCompletedVideoDirectionAck (h : Timely k t) :
    Timely k (t.replayCompletedVideoDirectionAck w m src).2 := by
  refine h.congr ?_
  unfold Transport.replayCompletedVideoDirectionAck
  split
  · rfl
  · split
    · rfl
    · split
      · exact agenda_sendAgain _ _ _
      · rfl

theorem Timely.acknowledgeCompletedInvite (h : Timely k t) :
    Timely k (t.acknowledgeCompletedInvite m src).2 := by
  unfold Transport.acknowledgeCompletedInvite
  split
  · exact h
  · rename_i c hc
    split
    · exact h.dropRecord .invite
    · split
      · have hkept : Timely k (t.setCompletedInvite (some { c with awaitingAck := false })) := by
          refine h.setCompletedInvite ?_
          rintro c' ⟨rfl⟩
          exact h.own.final c hc
        unfold acknowledge
        dsimp only
        split <;> exact hkept.congr rfl
      · exact h

end Transport

end EsphomeVoip
