import EsphomeVoip.Transport.Step

/-! # What sending leaves behind

Sending a message changes the stream connection of the dialog, the counter of outcomes, the log and
the diagnostics.  A response outside of dialogs may also be kept for replay.  The `_shape` theorems
say so as equations between states, from which every fact about the other fields follows. -/

namespace EsphomeVoip

/-- The response that an entry says was formed. -/
def WireEntry.formed : WireEntry → Option SipMessage
  | .responded msg .. => some msg
  | .refused msg _ => some msg
  | _ => none

namespace Transport

variable {w : World} {t u : Transport} {m msg : SipMessage} {src : Peer}

/-- The responses formed so far, most recent first. -/
def formed (t : Transport) : List SipMessage := t.log.filterMap WireEntry.formed

/-! ## Sockets -/

/-- `t'` is `t` after messages were sent. -/
def Sent (t t' : Transport) : Prop :=
  ∃ flow io log event status, t' = { t with
      dialog := { t.dialog with tcpFlow := flow }
      io := io
      log := log
      lastSipEvent := event
      lastSipStatusCode := status } ∧
    log.filterMap WireEntry.formed = t.formed

theorem Sent.refl (t : Transport) : Sent t t := ⟨_, _, _, _, _, rfl, rfl⟩

theorem Sent.trans {a b c : Transport} (hab : Sent a b) (hbc : Sent b c) : Sent a c := by
  obtain ⟨flow, io, log, event, status, rfl, hf⟩ := hab
  obtain ⟨flow', io', log', event', status', rfl, hf'⟩ := hbc
  exact ⟨flow', io', log', event', status', rfl, hf'.trans hf⟩

theorem sent_sendSipUdp (ip : UInt32) (port : UInt16) : Sent t (t.sendSipUdp w msg ip port).2 := by
  unfold sendSipUdp
  split
  · exact .refl t
  · split <;> exact ⟨_, _, _, _, _, rfl, rfl⟩

theorem sent_sendSip (ip : UInt32) (port : UInt16) : Sent t (t.sendSip w msg ip port).2 := by
  unfold sendSip
  split
  · unfold sendSipTcp
    dsimp only
    split
    · split <;> exact ⟨_, _, _, _, _, rfl, rfl⟩
    · unfold sendSipTcpRecord
      split <;> exact ⟨_, _, _, _, _, rfl, rfl⟩
  · exact sent_sendSipUdp ip port

theorem sent_markSipEvent (event : SipEvent) (status : Nat) :
    Sent t (t.markSipEvent event status) :=
  ⟨_, _, _, _, _, rfl, rfl⟩

theorem sent_noteRepeated (sent : Bool) (recorded path : Flow) :
    Sent t (t.noteRepeated sent recorded path) := by
  unfold noteRepeated
  split
  · exact ⟨_, _, _, _, _, rfl, rfl⟩
  · exact .refl t

theorem sent_sendAgain (recorded : Flow) (ip : UInt32) (port : UInt16) :
    Sent t (t.sendAgain w recorded msg ip port).2 :=
  (sent_sendSip ip port).trans (sent_noteRepeated _ _ _)

theorem sent_resend (udp : Bool) (recorded : Flow) (ip : UInt32) (port : UInt16) :
    Sent t (t.resend w udp recorded msg ip port) := by
  unfold resend
  split
  · exact (sent_sendSipUdp ip port).trans (sent_noteRepeated _ _ _)
  · exact sent_sendAgain recorded ip port

/-! ## Responses outside of dialogs -/

/-- `t'` is `t` after the response `msg` was formed, sent and perhaps kept. -/
def Refused (msg : SipMessage) (t t' : Transport) : Prop :=
  ∃ flow invite control io log event status, t' = { t with
      dialog := { t.dialog with
        tcpFlow := flow, completedInvite := invite, completedControl := control }
      io := io
      log := log
      lastSipEvent := event
      lastSipStatusCode := status } ∧
    log.filterMap WireEntry.formed = msg :: t.formed

theorem Refused.formed {t' : Transport} (h : Refused msg t t') : t'.formed = msg :: t.formed := by
  obtain ⟨flow, invite, control, io, log, event, status, rfl, hf⟩ := h
  exact hf

theorem Sent.refused {a b c : Transport} (hab : Sent a b) (hbc : Refused msg b c) :
    Refused msg a c := by
  obtain ⟨flow, io, log, event, status, rfl, hf⟩ := hab
  obtain ⟨flow', invite, control, io', log', event', status', rfl, hf'⟩ := hbc
  exact ⟨flow', invite, control, io', log', event', status', rfl, hf'.trans (congrArg _ hf)⟩

theorem Refused.sent {a b c : Transport} (hab : Refused msg a b) (hbc : Sent b c) :
    Refused msg a c := by
  obtain ⟨flow, invite, control, io, log, event, status, rfl, hf⟩ := hab
  obtain ⟨flow', io', log', event', status', rfl, hf'⟩ := hbc
  exact ⟨flow', invite, control, io', log', event', status', rfl, hf'.trans hf⟩

theorem refused_transmitStateless (status : Nat) (cache : Bool) :
    Refused msg t (t.transmitStateless w m src status cache msg).2 := by
  unfold transmitStateless
  dsimp only
  generalize hu : t.record (.refused msg _) = u
  have hrecord : Refused msg t u := hu ▸ ⟨_, _, _, _, _, _, _, rfl, rfl⟩
  have hkept (callId : String) (cseq : UInt32) (branch : String) (ip : UInt32) (port : UInt16)
      (method : Method) : Refused msg t
        (u.rememberCompletedResponse callId cseq branch ip port method msg) := by
    obtain ⟨flow, invite, control, io, log, event, status, rfl, hf⟩ := hrecord
    unfold rememberCompletedResponse
    dsimp only
    repeat' split
    all_goals exact ⟨_, _, _, _, _, _, _, rfl, hf⟩
  have hreport (v : Transport) (hv : Refused msg t v) (ok : Bool) :
      Refused msg t (if ok = true then (true, v.markSipEvent .response status) else
        (false, v)).2 := by
    split
    · exact hv.sent (sent_markSipEvent _ _)
    · exact hv
  split
  · exact hreport _ ((hkept _ _ _ _ _ _).sent (sent_sendSip _ _)) _
  · exact hreport _ (hrecord.sent (sent_sendSip _ _)) _

theorem sent_statelessTo (cache : Bool) : Sent t (t.statelessTo w m cache).2 := by
  unfold statelessTo makeToken
  repeat' split
  all_goals exact ⟨_, _, _, _, _, rfl, rfl⟩

/-- A request with the headers that every response copies. -/
def answerable (m : SipMessage) : Bool :=
  !m.via.isEmpty && m.fromAddr.isSome && m.toAddr.isSome && m.callId != "" && m.cseq.isSome

theorem refused_sendStatelessResponse (h : answerable m = true) (status : Nat)
    (phrase reason : String) (cache : Bool) (retryAfter : Option UInt32) :
    ∃ msg, msg.status = status ∧ Refused msg t
      (t.sendStatelessResponse w m src status phrase reason cache retryAfter).2 := by
  simp only [answerable, Bool.and_eq_true, Bool.not_eq_true', List.isEmpty_eq_false_iff,
    bne_iff_ne, ne_eq, Option.isSome_iff_ne_none] at h
  obtain ⟨⟨⟨⟨hvia, hfrom⟩, hto⟩, hcall⟩, hcseq⟩ := h
  unfold sendStatelessResponse
  rw [if_neg (by simp [hvia, hfrom, hto, hcall, hcseq])]
  exact ⟨_, rfl, (sent_statelessTo cache).refused (refused_transmitStateless status cache)⟩

theorem refused_refuse (h : answerable m = true) (status : Nat) (phrase reason : String) :
    ∃ msg, msg.status = status ∧ Refused msg t (t.refuse w m src status phrase reason).2 :=
  refused_sendStatelessResponse h status phrase reason true none

theorem refused_reject (h : answerable m = true) (status : Nat) (phrase : String) :
    ∃ msg, msg.status = status ∧ Refused msg t (t.reject w m src status phrase).2 :=
  refused_sendStatelessResponse h status phrase "" false none

/-- A stateless response is formed and sent, unless its request lacks a header. -/
theorem sendStatelessResponse_cases (w : World) (m : SipMessage) (src : Peer) (t : Transport)
    (status : Nat) (phrase reason : String) (cache : Bool) (retryAfter : Option UInt32) :
    t.sendStatelessResponse w m src status phrase reason cache retryAfter = (false, t) ∨
      ∃ msg, msg.status = status ∧ Refused msg t
        (t.sendStatelessResponse w m src status phrase reason cache retryAfter).2 := by
  unfold sendStatelessResponse
  split
  · exact .inl rfl
  · exact .inr ⟨_, rfl, (sent_statelessTo cache).refused (refused_transmitStateless status cache)⟩

/-! ## Responses to the last INVITE -/

/-- `t'` is `t` after `msg` was formed as a response to the last INVITE of the dialog. -/
def Responded (msg : SipMessage) (t t' : Transport) : Prop :=
  ∃ tag flow response path invite provisional io log event status, t' = { t with
      dialog := { t.dialog with
        localTag := tag
        tcpFlow := flow
        lastInviteResponse := response
        lastResponseFlow := path
        completedInvite := invite }
      pendingProvisionalResponse := provisional
      io := io
      log := log
      lastSipEvent := event
      lastSipStatusCode := status } ∧
    log.filterMap WireEntry.formed = msg :: t.formed

theorem Responded.formed {t' : Transport} (h : Responded msg t t') :
    t'.formed = msg :: t.formed := by
  obtain ⟨tag, flow, response, path, invite, provisional, io, log, event, status, rfl, hf⟩ := h
  exact hf

theorem Responded.sent {a b c : Transport} (hab : Responded msg a b) (hbc : Sent b c) :
    Responded msg a c := by
  obtain ⟨tag, flow, response, path, invite, provisional, io, log, event, status, rfl, hf⟩ := hab
  obtain ⟨flow', io', log', event', status', rfl, hf'⟩ := hbc
  exact ⟨tag, flow', response, path, invite, provisional, io', log', event', status', rfl,
    hf'.trans hf⟩

theorem rememberCompletedResponse_invite (t : Transport) (callId : String) (cseq : UInt32)
    (branch : String) (ip : UInt32) (port : UInt16) (msg : SipMessage) : ∃ invite,
      t.rememberCompletedResponse callId cseq branch ip port .invite msg =
        { t with dialog := { t.dialog with completedInvite := invite } } := by
  unfold rememberCompletedResponse
  split
  · exact ⟨_, rfl⟩
  · dsimp only
    rw [if_pos rfl]
    split <;> exact ⟨_, rfl⟩

theorem responded_ownFinalResponse (h : Responded msg t u) :
    Responded msg t (u.ownFinalResponse msg) := by
  obtain ⟨tag, flow, response, path, invite, provisional, io, log, event, status, rfl, hf⟩ := h
  unfold ownFinalResponse
  dsimp only
  obtain ⟨invite', he⟩ := rememberCompletedResponse_invite _ _ _ _ _ _ msg
  rw [he]
  exact ⟨_, _, _, _, _, _, _, _, _, _, rfl, hf⟩

theorem responded_deferUdpProvisionalResponse (h : Responded msg t u)
    (ip : UInt32) (port : UInt16) : Responded msg t
    (u.deferUdpProvisionalResponse msg ip port) := by
  obtain ⟨tag, flow, response, path, invite, provisional, io, log, event, status, rfl, hf⟩ := h
  unfold deferUdpProvisionalResponse
  split <;> exact ⟨_, _, _, _, _, _, _, _, _, _, rfl, hf⟩

/-- A response to the last INVITE is formed, unless there is no INVITE to respond to. -/
theorem sendResponse_cases (w : World) (t : Transport) (status : Nat)
    (phrase body reason : String) :
    t.sendResponse w status phrase body reason = (false, t) ∨
      ∃ msg, msg.status = status ∧
        Responded msg t (t.sendResponse w status phrase body reason).2 := by
  unfold sendResponse
  split
  · exact .inl rfl
  · refine .inr ?_
    dsimp only
    generalize hu : (if needsLocalTag status t.dialog.lastInviteTo then t.ensureLocalTag w
      else t) = u
    generalize hmsg : buildInviteResponse status phrase body reason u.dialog = msg
    have hstatus : msg.status = status := hmsg ▸ rfl
    -- The response is formed, perhaps with a new local tag.
    have hformed : Responded msg t (u.record (.responded msg (finallyAnswered u.dialog)
        (byeOutstanding u.dialog) (losesFinal status u.dialog) u.clock)) := by
      rw [← hu]
      unfold ensureLocalTag
      repeat' split
      all_goals exact ⟨_, _, _, _, _, _, _, _, _, _, rfl, rfl⟩
    refine ⟨msg, hstatus, ?_⟩
    generalize u.record _ = v at hformed
    split
    · -- A final response is kept and sent.
      unfold sendFinalInviteResponse
      have hown := responded_ownFinalResponse hformed
      dsimp only
      split
      · exact (hown.sent (sent_sendSip _ _)).sent (sent_markSipEvent _ _)
      · exact hown.sent (sent_sendSip _ _)
    · -- A provisional one is sent, or put off.
      unfold sendProvisionalInviteResponse
      have hkept : Responded msg t (v.keepLastResponse msg) := by
        obtain ⟨tag, flow, response, path, invite, provisional, io, log, event, status, rfl, hf⟩ :=
          hformed
        exact ⟨_, _, _, _, _, _, _, _, _, _, rfl, hf⟩
      dsimp only
      split
      · exact (hkept.sent (sent_sendSip _ _)).sent (sent_markSipEvent _ _)
      · split
        · exact hkept.sent (sent_sendSip _ _)
        · exact (responded_deferUdpProvisionalResponse (hkept.sent (sent_sendSip _ _)) _ _).sent
            (sent_markSipEvent _ _)

/-- Without another response that awaits its ACK, a final response is kept until its own. -/
theorem ownsFinalResponse_of_idle (hidle : awaitsAnyAck t.dialog = false)
    (hpeer : t.dialog.lastInvitePeerIp ≠ 0 ∧ t.dialog.lastInvitePeerPort ≠ 0)
    (hcall : t.dialog.callId ≠ "") (hnumber : (t.dialog.lastInviteCseq.getD {}).number ≠ 0)
    (hlow : 200 ≤ msg.status) (hhigh : msg.status ≤ 699) :
    ownsFinalResponse msg (t.ownFinalResponse msg).dialog = true := by
  have hguard : ¬(t.dialog.lastInvitePeerIp = 0 ∨ t.dialog.lastInvitePeerPort = 0 ∨
      isRememberedMethod .invite = false ∨ msg.status < 200 ∨ 699 < msg.status ∨
      t.dialog.callId = "" ∨ (t.dialog.lastInviteCseq.getD {}).number = 0) := by
    have hr : isRememberedMethod .invite = true := rfl
    simp only [hpeer.1, hpeer.2, hr, hcall, hnumber, false_or, or_false, Bool.true_eq_false]
    omega
  have hkeep (d : Dialog) (hd : d.completedInvite = t.dialog.completedInvite) (callId : String)
      (cseq : UInt32) (branch : String) : keepsActiveInvite d callId cseq branch = false := by
    unfold awaitsAnyAck at hidle
    unfold keepsActiveInvite
    rw [hd]
    cases hc : t.dialog.completedInvite with
    | none => rfl
    | some c =>
      rw [hc] at hidle
      have ha : c.awaitingAck = false := hidle
      simp [ha]
  unfold ownFinalResponse rememberCompletedResponse
  dsimp only
  rw [if_neg hguard, if_pos rfl]
  split
  · rename_i hkept
    exact absurd hkept (Bool.eq_false_iff.1 (hkeep _ rfl _ _ _))
  · unfold ownsFinalResponse completedTransaction
    simp

/-- A 200 to the last INVITE is answered or kept. -/
theorem sendResponse_accepted (hidle : awaitsAnyAck t.dialog = false)
    (hpeer : t.dialog.lastInvitePeerIp ≠ 0 ∧ t.dialog.lastInvitePeerPort ≠ 0)
    (hvia : t.dialog.lastInviteVia ≠ []) (hcall : t.dialog.callId ≠ "")
    (hnumber : (t.dialog.lastInviteCseq.getD {}).number ≠ 0) (phrase body reason : String) :
    (t.sendResponse w 200 phrase body reason).1 = true := by
  unfold sendResponse
  rw [if_neg (by simp [hpeer.1, hpeer.2, hvia])]
  dsimp only
  rw [if_pos (Nat.le_refl 200)]
  generalize hu : (if needsLocalTag 200 t.dialog.lastInviteTo then t.ensureLocalTag w
    else t) = u
  have hd : ∃ tag, u.dialog = { t.dialog with localTag := tag } := by
    rw [← hu]
    unfold ensureLocalTag
    repeat' split
    all_goals exact ⟨_, rfl⟩
  obtain ⟨tag, hd⟩ := hd
  generalize hmsg : buildInviteResponse 200 phrase body reason u.dialog = msg
  have hstatus : msg.status = 200 := hmsg ▸ rfl
  have howns : ∀ e, ownsFinalResponse msg ((u.record e).ownFinalResponse msg).dialog = true := by
    intro e
    have hd' : (u.record e).dialog = { t.dialog with localTag := tag } := hd
    exact ownsFinalResponse_of_idle (by rw [hd']; exact hidle) (by rw [hd']; exact hpeer)
      (by rw [hd']; exact hcall) (by rw [hd']; exact hnumber) (by omega) (by omega)
  unfold sendFinalInviteResponse
  dsimp only
  rw [if_pos (.inr (howns _))]

/-! ## Looking for a kept response -/

/-- The look-up of a kept response finds it. -/
def replayable (m : SipMessage) (src : Peer) (method : Method) (udp : Bool) (t : Transport) :
    Bool :=
  m.replayFramed && (t.recordIn (t.replaySlot m method)).elim false fun c =>
    !t.outlived c.completedMs && recordMatches m src method udp c

/-- The look-up of a kept response finds one that has outlived its transaction, and drops it. -/
def forgets (m : SipMessage) (method : Method) (t : Transport) : Bool :=
  m.replayFramed && (t.recordIn (t.replaySlot m method)).elim false fun c =>
    t.outlived c.completedMs

/-- The look-up resends what it finds, drops what is too old, and else does nothing. -/
theorem replayCompletedResponse_cases (m : SipMessage) (src : Peer) (method : Method)
    (udp : Bool) (t : Transport) :
    (t.replayable m src method udp = true ∧ ∃ c,
      t.recordIn (t.replaySlot m method) = some c ∧ recordMatches m src method udp c = true ∧
      t.replayCompletedResponse w m src method udp =
        (true, t.resend w udp c.flow c.response src.ip src.port)) ∨
    (t.replayable m src method udp = false ∧ t.forgets m method = true ∧
      t.replayCompletedResponse w m src method udp =
        (false, t.dropRecord (t.replaySlot m method))) ∨
    (t.replayable m src method udp = false ∧ t.forgets m method = false ∧
      t.replayCompletedResponse w m src method udp = (false, t)) := by
  unfold replayable forgets replayCompletedResponse
  by_cases hf : m.replayFramed = false
  · simp [hf]
  · cases hr : t.recordIn (t.replaySlot m method) with
    | none => simp [hf, hr]
    | some c =>
      by_cases ho : t.outlived c.completedMs = true
      · simp [hf, hr, ho]
      · by_cases hm : recordMatches m src method udp c = true
        · simp [hf, hr, ho, hm]
        · simp [hf, hr, ho, hm]

/-- A look-up for another method than INVITE or REFER that finds nothing drops at most a record of
    requests within dialogs. -/
theorem replayCompletedResponse_missed {method : Method} {udp : Bool}
    (h : t.replayable m src method udp = false) (hinvite : method ≠ .invite)
    (hrefer : method ≠ .refer) : ∃ control refers,
      t.replayCompletedResponse w m src method udp = (false,
        { t with
          dialog := { t.dialog with completedControl := control }
          completedRefers := refers }) := by
  rcases replayCompletedResponse_cases (w := w) m src method udp t with
    ⟨hr, _⟩ | ⟨_, _, he⟩ | ⟨_, _, he⟩
  · rw [h] at hr
    cases hr
  · rw [he]
    unfold replaySlot
    cases t.completedRefers.findIdx? (retiredMatches m method t.now) with
    | none =>
      dsimp only
      rw [if_neg (by simp [hrefer]), if_neg hinvite]
      exact ⟨_, _, rfl⟩
    | some i =>
      dsimp only
      rw [if_neg hrefer]
      exact ⟨_, _, rfl⟩
  · exact ⟨_, _, he⟩

/-- Both dialogs are back in their places. -/
theorem swapRefer_swapRefer (t : Transport) : t.swapRefer.swapRefer = t := by
  unfold swapRefer
  cases hr : t.referDialog with
  | none => simp only [hr]
  | some r =>
    cases t
    cases hr
    rfl

end Transport

end EsphomeVoip
