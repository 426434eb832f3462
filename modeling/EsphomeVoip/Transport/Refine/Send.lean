import EsphomeVoip.Transport.Wire

/-! # The moves of sending and remembering

What the functions of `Send` do to the wire.  A request may be formed when the guard of its method
holds; what is remembered was formed before. -/

namespace EsphomeVoip

open Wire (Sends Repeats Notified)

namespace Transport

variable {o : Mode} {b : Bool} {w : World} {t u : Transport} {m msg : SipMessage} {src : Peer}

/-! ## Sockets -/

theorem sends_sendSipUdp (ip : UInt32) (port : UInt16) :
    Sends msg t.wire (t.sendSipUdp w msg ip port).2.wire := by
  unfold sendSipUdp
  split
  · exact .lost
  · split
    · exact .sent (.udp ip port)
    · exact .lost

theorem sends_sendSip (ip : UInt32) (port : UInt16) :
    Sends msg t.wire (t.sendSip w msg ip port).2.wire := by
  unfold sendSip
  split
  · unfold sendSipTcp
    dsimp only
    split
    · split
      · rename_i hq
        exact .queued hq.2
      · exact .lost
    · unfold sendSipTcpRecord
      split
      · exact .sent _
      · exact .lost
  · exact sends_sendSipUdp ip port

theorem evolves_sendSip (h : t.wire.Holds msg) (ip : UInt32) (port : UInt16) :
    Evolves o t (t.sendSip w msg ip port).2 :=
  .of_move (.send msg h (sends_sendSip ip port))

theorem repeats_sendSipUdp (recorded : Flow) (ip : UInt32) (port : UInt16) :
    Wire.Repeats msg recorded (.udp ip port) t.wire ((t.sendSipUdp w msg ip port).2.noteRepeated
      (t.sendSipUdp w msg ip port).1 recorded (.udp ip port)).wire := by
  unfold sendSipUdp
  split
  · exact .lost
  · split
    · exact .sent
    · exact .lost

theorem repeats_sendAgain (recorded : Flow) (ip : UInt32) (port : UInt16) :
    Wire.Repeats msg recorded (t.path ip port) t.wire
      (t.sendAgain w recorded msg ip port).2.wire := by
  unfold sendAgain sendSip path
  dsimp only
  cases htcp : t.dialog.remoteSipTcp with
  | false =>
    simp only [Bool.false_eq_true, if_false]
    exact repeats_sendSipUdp recorded ip port
  | true =>
    simp only [if_true]
    unfold sendSipTcp connectionNumber
    dsimp only
    split
    · split
      · rename_i hq
        exact .queued hq.2
      · exact .lost
    · unfold sendSipTcpRecord
      split
      · exact .sent
      · exact .lost

theorem evolves_sendAgain (h : msg ∈ t.wire.kept) (recorded : Flow) (ip : UInt32)
    (port : UInt16) : Evolves o t (t.sendAgain w recorded msg ip port).2 :=
  .of_move (.sendAgain msg recorded _ h (repeats_sendAgain recorded ip port))

theorem evolves_resend (h : msg ∈ t.wire.kept) (udp : Bool) (recorded : Flow) (ip : UInt32)
    (port : UInt16) : Evolves o t (t.resend w udp recorded msg ip port) := by
  unfold resend
  split
  · exact .of_move (.sendAgain msg recorded _ h (repeats_sendSipUdp recorded ip port))
  · exact evolves_sendAgain h recorded ip port

theorem evolves_markSipEvent (event : SipEvent) (status : Nat) :
    Evolves o t (t.markSipEvent event status) :=
  .of_eq rfl

/-- Sending forms nothing. -/
theorem made_sends {s s' : Wire} (h : Sends msg s s') : made s'.log = made s.log := by
  cases h <;> rfl

theorem holds_of_made (h : msg ∈ made t.log) : t.wire.Holds msg := .inr h

theorem made_sendSip (ip : UInt32) (port : UInt16) :
    made (t.sendSip w msg ip port).2.log = made t.log :=
  made_sends (sends_sendSip ip port)

/-! ## Requests -/

theorem awaitsUasAck_eq (d : Dialog) : awaitsUasAck d = (lineOf d).awaitsAck := by
  unfold awaitsUasAck Line.awaitsAck lineOf
  cases d.completedInvite <;> rfl

theorem awaitsAnyAck_eq (d : Dialog) : awaitsAnyAck d = (lineOf d).awaitsAnyAck := by
  unfold awaitsAnyAck Line.awaitsAnyAck lineOf
  cases d.completedInvite <;> rfl

theorem evolves_rememberUdpTransaction (h : msg ∈ made t.log) {method : Method}
    (hm : method ≠ .notify) (ip : UInt32) (port : UInt16) :
    Evolves o t (t.rememberUdpTransaction method msg ip port) := by
  unfold rememberUdpTransaction
  split
  · exact .refl t
  · cases method with
    | notify => exact absurd rfl hm
    | invite => exact .of_move (.pend t.wire .invite msg h)
    | cancel => exact .of_move (.pend t.wire .cancel msg h)
    | bye => exact .of_move (.pend t.wire .bye msg h)
    | update => exact .of_move (.pend t.wire .update msg h)
    | _ => exact .refl t

theorem evolves_rememberCompletedInviteAck (h : msg ∈ made t.log) (ip : UInt32) (port : UInt16) :
    Evolves o t (t.rememberCompletedInviteAck msg ip port) := by
  unfold rememberCompletedInviteAck
  split
  · exact .refl t
  · exact .of_move (.keepAck t.wire msg h)

theorem log_rememberCompletedInviteAck (ip : UInt32) (port : UInt16) :
    (t.rememberCompletedInviteAck msg ip port).log = t.log := by
  unfold rememberCompletedInviteAck
  split <;> rfl

theorem log_rememberUdpTransaction (method : Method) (ip : UInt32) (port : UInt16) :
    (t.rememberUdpTransaction method msg ip port).log = t.log := by
  unfold rememberUdpTransaction rememberNotify
  repeat' split
  all_goals rfl

/-- A formed request is sent and remembered. -/
theorem evolves_transmitRequest (h : msg ∈ made t.log) {method : Method} (hm : method ≠ .notify)
    (options : SipRequestOptions) (ip : UInt32) (port : UInt16) :
    Evolves o t (t.transmitRequest w method options msg ip port).2 := by
  unfold transmitRequest
  dsimp only
  generalize hu : (if method = .ack ∧ options.rememberInviteAck = true
    then t.rememberCompletedInviteAck msg ip port else t) = u
  -- An ACK of a 2xx is remembered first, to be sent again.
  have hacked : Evolves o t u := by
    rw [← hu]
    split
    · exact evolves_rememberCompletedInviteAck h ip port
    · exact .refl t
  have hmade : msg ∈ made u.log := by
    rw [← hu]
    split
    · rw [log_rememberCompletedInviteAck]
      exact h
    · exact h
  -- The request is sent,
  have hsent := hacked.trans (evolves_sendSip (w := w) (holds_of_made hmade) ip port)
  have hmade' : msg ∈ made (u.sendSip w msg ip port).2.log := by
    rw [made_sendSip]
    exact hmade
  generalize u.sendSip w msg ip port = sent at hsent hmade'
  split
  · -- and marked and remembered if that went well.
    generalize hv : (if sipEventFromMethod method = .none then sent.2
      else sent.2.markSipEvent (sipEventFromMethod method) 0) = v
    have hmarked : Evolves o t v := by
      rw [← hv]
      split
      · exact hsent
      · exact hsent.trans (evolves_markSipEvent _ _)
    have hmade'' : msg ∈ made v.log := by
      rw [← hv]
      split <;> exact hmade'
    split
    · exact hmarked.trans (evolves_rememberUdpTransaction hmade'' hm ip port)
    · exact hmarked
  · exact hsent

/-- A request whose branch is made up or given leaves everything else alone. -/
theorem requestBranch_shape (method : Method) (options : SipRequestOptions) :
    ((t.requestBranch w method options).2.wire = t.wire ∨
      t.dialog.branch = "" ∧ (t.requestBranch w method options).2.wire =
        { t.wire with own := { t.wire.own with
          branch := (t.requestBranch w method options).1 } }) ∧
    (method = .cancel → options.branchOverride = "" →
      (t.requestBranch w method options).1 =
        (t.requestBranch w method options).2.dialog.branch) := by
  unfold requestBranch
  split
  · rename_i ho
    exact ⟨.inl rfl, fun _ h => absurd h ho⟩
  · split
    · split
      · rename_i hb
        exact ⟨.inr ⟨hb, rfl⟩, fun _ _ => rfl⟩
      · exact ⟨.inl rfl, fun _ _ => rfl⟩
    · rename_i hm
      exact ⟨.inl rfl, fun hc => absurd (.inr hc) hm⟩

theorem evolves_requestBranch (method : Method) (options : SipRequestOptions) :
    Evolves o t (t.requestBranch w method options).2 := by
  rcases (requestBranch_shape (w := w) (t := t) method options).1 with he | ⟨hb, he⟩
  · exact .of_eq he
  · apply Evolves.of_move
    rw [he]
    exact .setBranch t.wire _ hb

/-- The guards under which a request is formed. -/
structure MayRequest (method : Method) (options : SipRequestOptions) (t : Transport) : Prop where
  notify : method ≠ .notify
  bye : method = .bye → awaitsUasAck t.dialog = false
  cancel : method = .cancel → t.dialog.cancelRequested = true ∧ options.branchOverride = ""

/-- A method that needs no guard. -/
theorem MayRequest.of_free {method : Method} (options : SipRequestOptions)
    (h : method ≠ .notify ∧ method ≠ .bye ∧ method ≠ .cancel) (t : Transport) :
    MayRequest method options t :=
  ⟨h.1, fun hb => absurd hb h.2.1, fun hc => absurd hc h.2.2⟩

theorem evolves_formatRequest {method : Method} {options : SipRequestOptions}
    (h : MayRequest method options t) (body : String) :
    Evolves o t (t.formatRequest w method body options).2 := by
  have hbranch := evolves_requestBranch (o := o) (w := w) (t := t) method options
  obtain ⟨hshape, hname⟩ := requestBranch_shape (w := w) (t := t) method options
  have hrecord : (t.requestBranch w method options).2.wire.own.record = t.wire.own.record ∧
      (t.requestBranch w method options).2.wire.own.callId = t.wire.own.callId ∧
      (t.requestBranch w method options).2.wire.own.inviteNumber = t.wire.own.inviteNumber ∧
      (t.requestBranch w method options).2.wire.own.cancelRequested =
        t.wire.own.cancelRequested := by
    rcases hshape with he | ⟨_, he⟩ <;> rw [he] <;> exact ⟨rfl, rfl, rfl, rfl⟩
  unfold formatRequest
  dsimp only
  generalize t.requestBranch w method options = branch at hbranch hname hrecord
  refine hbranch.trans (.of_move (.request branch.2.wire _ ?_))
  unfold Wire.MayRequest
  have hmethod : (buildRequest w method body options branch.1 branch.2.dialog).method =
    method := rfl
  rw [hmethod]
  cases method with
  | notify => exact h.notify rfl
  | bye =>
    refine ⟨rfl, ?_⟩
    have hawaits := h.bye rfl
    rw [awaitsUasAck_eq] at hawaits
    unfold Line.awaitsAck at hawaits ⊢
    rw [hrecord.1, hrecord.2.1, hrecord.2.2.1]
    exact hawaits
  | cancel =>
    obtain ⟨hrequested, hoverride⟩ := h.cancel rfl
    exact ⟨hrecord.2.2.2.trans hrequested, rfl, hname rfl hoverride⟩
  | _ => trivial

theorem made_formatRequest (method : Method) (body : String) (options : SipRequestOptions) :
    (t.formatRequest w method body options).1 ∈
      made (t.formatRequest w method body options).2.log :=
  List.mem_cons_self

theorem evolves_sendRequestFormatted {method : Method} {options : SipRequestOptions}
    (h : MayRequest method options t) (body : String) :
    Evolves o t (t.sendRequestFormatted w method body options).2.2 := by
  unfold sendRequestFormatted
  split
  · exact .refl t
  · exact (evolves_formatRequest h body).trans
      (evolves_transmitRequest (made_formatRequest _ _ _) h.notify _ _ _)

theorem evolves_sendRequest {method : Method} {options : SipRequestOptions}
    (h : MayRequest method options t) (body : String) :
    Evolves o t (t.sendRequest w method body options).2 :=
  evolves_sendRequestFormatted h body

theorem made_transmitRequest (method : Method) (options : SipRequestOptions) (ip : UInt32)
    (port : UInt16) :
    made (t.transmitRequest w method options msg ip port).2.log = made t.log := by
  unfold transmitRequest
  dsimp only
  have hacked : (if method = .ack ∧ options.rememberInviteAck = true
      then t.rememberCompletedInviteAck msg ip port else t).log = t.log := by
    split
    · exact log_rememberCompletedInviteAck ip port
    · rfl
  generalize (if method = .ack ∧ options.rememberInviteAck = true
    then t.rememberCompletedInviteAck msg ip port else t) = u at hacked
  have hsent : made (u.sendSip w msg ip port).2.log = made t.log := by
    rw [made_sendSip, hacked]
  generalize u.sendSip w msg ip port = sent at hsent
  repeat' split
  all_goals first
    | exact hsent
    | exact (congrArg made (log_rememberUdpTransaction _ _ _)).trans hsent

/-- The request that was formatted was formed. -/
theorem made_sendRequestFormatted {method : Method} {options : SipRequestOptions} {body : String}
    (h : (t.sendRequestFormatted w method body options).2.1 = some msg) :
    msg ∈ made (t.sendRequestFormatted w method body options).2.2.log := by
  unfold sendRequestFormatted at h ⊢
  split at h
  · cases h
  · rename_i hguard
    rw [if_neg hguard]
    dsimp only at h ⊢
    rw [made_transmitRequest]
    cases h
    exact made_formatRequest _ _ _

theorem evolves_sendInviteErrorAck : Evolves o t (t.sendInviteErrorAck w).2 := by
  unfold sendInviteErrorAck
  split
  · exact .refl t
  · exact evolves_sendRequest (.of_free _ (by decide) t) ""

theorem evolves_sendConnectedIdentityUpdate :
    Evolves o t (t.sendConnectedIdentityUpdate w).2 := by
  unfold sendConnectedIdentityUpdate
  split
  · exact .refl t
  · have hsent : Evolves o t (t.sendRequest w .update "" {}).2 :=
      evolves_sendRequest (.of_free _ (by decide) t) ""
    dsimp only
    split
    · exact hsent.trans (.of_eq rfl)
    · exact hsent

/-! ## NOTIFY -/

theorem rememberUdpTransaction_notify (ip : UInt32) (port : UInt16) :
    (t.rememberUdpTransaction .notify msg ip port).wire = t.wire ∨
      ∃ slot : ClientSlot, (slot = .notify ∨ slot = .notifyFinal) ∧
        (t.rememberUdpTransaction .notify msg ip port).wire = t.wire.setPending slot
          (some msg) := by
  unfold rememberUdpTransaction
  split
  · exact .inl rfl
  · unfold rememberNotify
    cases hr : t.referDialog with
    | none => exact .inl rfl
    | some r =>
      dsimp only
      split
      · refine .inr ⟨.notify, .inl rfl, ?_⟩
        unfold wire Wire.setPending
        dsimp only
        rw [hr]
        rfl
      · refine .inr ⟨.notifyFinal, .inr rfl, ?_⟩
        unfold wire Wire.setPending
        dsimp only
        rw [hr]
        rfl

/-- A formed NOTIFY is sent, and perhaps remembered. -/
theorem transmitRequest_notify (w : World) (t : Transport) (msg : SipMessage)
    (options : SipRequestOptions) (ip : UInt32) (port : UInt16) :
    (t.transmitRequest w .notify options msg ip port).2.wire =
        (t.sendSip w msg ip port).2.wire ∨
      ∃ slot : ClientSlot, (slot = .notify ∨ slot = .notifyFinal) ∧
        (t.transmitRequest w .notify options msg ip port).2.wire =
          (t.sendSip w msg ip port).2.wire.setPending slot (some msg) := by
  unfold transmitRequest
  dsimp only
  rw [if_neg (show ¬(Method.notify = .ack ∧ options.rememberInviteAck = true) from
    fun h => nomatch h.1)]
  generalize t.sendSip w msg ip port = sent
  split
  · rw [if_pos (show sipEventFromMethod .notify = .none from rfl)]
    split
    · exact rememberUdpTransaction_notify ip port
    · exact .inl rfl
  · exact .inl rfl

/-- The NOTIFY is formed on the line as it is, sent and remembered. -/
theorem notified_sendRequest (body : String) (referCseq : UInt32) (final : Bool)
    (contentType : String) :
    Notified final body t.wire (t.sendRequest w .notify body
      { subscription := some { referCseq := referCseq, terminated := final }
        contentType := contentType }).2.wire := by
  unfold sendRequest sendRequestFormatted
  split
  · exact .none
  · dsimp only
    generalize hf : t.formatRequest w .notify body
      { subscription := some { referCseq := referCseq, terminated := final }
        contentType := contentType } = formatted
    have hwire : formatted.2.wire = t.wire.enter (.requested formatted.1) := hf ▸ rfl
    have hmethod : formatted.1.method = .notify := hf ▸ rfl
    have hfinal : formatted.1.subscription =
        some { referCseq := referCseq, terminated := final } := hf ▸ rfl
    have hbody : formatted.1.body = body := hf ▸ rfl
    have hsends : Sends formatted.1 (t.wire.enter (.requested formatted.1))
        (formatted.2.sendSip w formatted.1 (requestTarget t.dialog).1
          (requestTarget t.dialog).2).2.wire := by
      rw [← hwire]
      exact sends_sendSip _ _
    rcases transmitRequest_notify w formatted.2 formatted.1
      { subscription := some { referCseq := referCseq, terminated := final }
        contentType := contentType }
      (requestTarget t.dialog).1 (requestTarget t.dialog).2 with he | ⟨slot, hslot, he⟩
    · rw [he]
      exact .sent formatted.1 referCseq hmethod hfinal hbody hsends
    · rw [he]
      exact .kept formatted.1 referCseq hmethod hfinal hbody hsends slot hslot

/-- What `notify_refer_` says of the transfer. -/
def notifyBody (status : Nat) (phrase : String) : String :=
  "SIP/2.0 " ++ toString status ++ " " ++ phrase ++ "\r\n"

theorem notified_notifyRefer (referCseq : UInt32) (status : Nat) (phrase : String) :
    Notified (200 ≤ status) (notifyBody status phrase) t.wire
      (t.notifyRefer w referCseq status phrase).wire := by
  unfold notifyRefer
  split
  · exact .none
  · exact notified_sendRequest _ _ _ _

end Transport

end EsphomeVoip
