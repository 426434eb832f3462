import EsphomeVoip.Transport.Refine.Send

/-! # The moves of responses and resets

A response is formed, kept as far as there is room, and sent; a kept one is sent again or dropped.
A reset gives a dialog up. -/

namespace EsphomeVoip

open Wire (Sends Notified)
open WrapClock (timeReached)

namespace Transport

variable {o : Mode} {b : Bool} {w : World} {t u : Transport} {m msg : SipMessage} {src : Peer}

/-! ## Resets and signals -/

theorem wire_requestAudioPathStop : t.requestAudioPathStop.wire = t.wire := by
  unfold requestAudioPathStop closeMediaSession videoRequestStop
  dsimp only
  repeat' split
  all_goals rfl

theorem wire_stopOwnAudioPath : t.stopOwnAudioPath.wire = t.wire := by
  unfold stopOwnAudioPath stopAudioPath
  split
  · rfl
  · exact wire_requestAudioPathStop

theorem lineOf_resetOf (d : Dialog) : lineOf (resetOf d) = (lineOf d).reset := by
  unfold lineOf resetOf Line.reset
  dsimp only
  split
  · rename_i hq
    rw [hq]
    rfl
  · rfl

theorem wire_resetDialog : t.resetDialog.wire = t.wire.reset := by
  unfold resetDialog
  dsimp only
  split
  · rename_i hscope
    unfold wire Wire.reset
    dsimp only
    have hscope' : t.referContextActive = true := hscope
    have hreset : lineOf (resetOf (t.record (.closed t.dialog.callId
        t.dialog.terminateAfterInviteAck)).dialog) = (lineOf t.dialog).reset :=
      lineOf_resetOf t.dialog
    rw [hreset, if_pos hscope']
    rfl
  · rename_i hscope
    have hstop := wire_requestAudioPathStop (t := t.record (.closed t.dialog.callId
      t.dialog.terminateAfterInviteAck))
    generalize hv : (t.record (.closed t.dialog.callId
      t.dialog.terminateAfterInviteAck)).requestAudioPathStop = v at hstop
    unfold resetOwnerMedia
    rw [hv]
    have hown : lineOf v.dialog = lineOf t.dialog := congrArg Wire.own hstop
    unfold wire Wire.reset
    dsimp only
    have hscope' : ¬t.referContextActive = true := hscope
    rw [if_neg hscope', lineOf_resetOf, hown]
    unfold wire at hstop
    simp only [Wire.mk.injEq] at hstop
    obtain ⟨_, hsecond, hcontext, hretiring, _, _, hack, hretired, hclock, hcallbacks, hlog,
      hepoch⟩ := hstop
    simp only [hsecond, hcontext, hretiring, hack, hretired, hclock, hcallbacks, hlog, hepoch]
    rfl

theorem evolves_resetDialog : Evolves o t t.resetDialog := by
  apply Evolves.of_move
  rw [wire_resetDialog]
  exact .reset t.wire

/-- A signal other than that media is ready. -/
theorem evolves_emitSipSignal (signal : SipSignal) (h : signal.type ≠ .mediaReady) :
    Evolves o t (t.emitSipSignal signal) := by
  unfold emitSipSignal
  split
  · exact .of_eq rfl
  · refine .of_move (.callback t.wire _ ?_)
    intro signal' hs htype
    cases hs
    exact absurd htype h

/-! ## Responses outside of dialogs -/

theorem evolves_statelessTo (cache : Bool) : Evolves o t (t.statelessTo w m cache).2 := by
  unfold statelessTo
  repeat' split
  all_goals exact .of_eq rfl

theorem keepsActiveInvite_eq (d : Dialog) (callId : String) (cseq : UInt32) (branch : String) :
    keepsActiveInvite d callId cseq branch = (lineOf d).keepsActive callId cseq branch := by
  unfold keepsActiveInvite Line.keepsActive lineOf
  cases d.completedInvite <;> rfl

/-- A formed stateless response is kept where there is room for it. -/
theorem evolves_keepRefusal (t : Transport) (request : SipMessage) (ip : UInt32) (port : UInt16)
    {msg : SipMessage} (hresponse : msg.isResponse = true) (cached : Bool) :
    Evolves o t (if cached then (t.record (.refused msg (cached && evictsFinal request
        t.dialog))).rememberCompletedResponse request.callId request.cseqNumber request.topBranch
        ip port request.cseqMethod msg
      else t.record (.refused msg (cached && evictsFinal request t.dialog))) := by
  cases cached with
  | false => exact .of_move (.refuse t.wire msg _ hresponse)
  | true =>
    simp only [if_true, Bool.true_and]
    unfold rememberCompletedResponse
    split
    · exact .of_move (.refuse t.wire msg _ hresponse)
    · dsimp only
      split
      · rename_i hinvite
        split
        · exact .of_move (.refuse t.wire msg _ hresponse)
        · rename_i hkeeps
          have hkeeps' : keepsActiveInvite t.dialog request.callId request.cseqNumber
              request.topBranch = false := Bool.eq_false_iff.2 hkeeps
          have hevicts : evictsFinal request t.dialog = t.wire.own.awaitsAnyAck := by
            show evictsFinal request t.dialog = (lineOf t.dialog).awaitsAnyAck
            rw [← awaitsAnyAck_eq]
            unfold evictsFinal awaitsAnyAck
            rw [hkeeps', hinvite]
            simp
          rw [hevicts]
          rw [keepsActiveInvite_eq] at hkeeps'
          exact .of_move (.refuseInvite t.wire msg _ hresponse rfl hkeeps')
      · exact .of_move (.refuseControl t.wire msg _ hresponse)

theorem made_rememberCompletedResponse (callId : String) (cseq : UInt32) (branch : String)
    (ip : UInt32) (port : UInt16) (method : Method) :
    made (t.rememberCompletedResponse callId cseq branch ip port method msg).log = made t.log := by
  unfold rememberCompletedResponse
  dsimp only
  repeat' split
  all_goals rfl

theorem evolves_transmitStateless (hresponse : msg.isResponse = true) (status : Nat)
    (cache : Bool) :
    Evolves o t (t.transmitStateless w m src status cache msg).2 := by
  unfold transmitStateless
  dsimp only
  have hkept := evolves_keepRefusal (o := o) t m src.ip src.port hresponse
    (cache && decide (200 ≤ status))
  have hmade : msg ∈ made (if (cache && decide (200 ≤ status)) = true then
      (t.record (.refused msg ((cache && decide (200 ≤ status)) &&
        evictsFinal m t.dialog))).rememberCompletedResponse m.callId m.cseqNumber m.topBranch
        src.ip src.port m.cseqMethod msg
      else t.record (.refused msg ((cache && decide (200 ≤ status)) &&
        evictsFinal m t.dialog))).log := by
    split
    · rw [made_rememberCompletedResponse]
      exact List.mem_cons_self
    · exact List.mem_cons_self
  generalize (if (cache && decide (200 ≤ status)) = true then
      (t.record (.refused msg ((cache && decide (200 ≤ status)) &&
        evictsFinal m t.dialog))).rememberCompletedResponse m.callId m.cseqNumber m.topBranch
        src.ip src.port m.cseqMethod msg
      else t.record (.refused msg ((cache && decide (200 ≤ status)) &&
        evictsFinal m t.dialog))) = u at hkept hmade
  have hsent := hkept.trans (evolves_sendSip (w := w) (holds_of_made hmade) src.ip src.port)
  have hreport (v : Transport) (hv : Evolves o t v) (ok : Bool) :
      Evolves o t (if ok = true then (true, v.markSipEvent .response status) else
        (false, v)).2 := by
    split
    · exact hv.trans (evolves_markSipEvent _ _)
    · exact hv
  exact hreport _ hsent _

theorem evolves_sendStatelessResponse (status : Nat) (phrase reason : String) (cache : Bool)
    (retryAfter : Option UInt32) :
    Evolves o t (t.sendStatelessResponse w m src status phrase reason cache retryAfter).2 := by
  unfold sendStatelessResponse
  split
  · exact .refl t
  · exact (evolves_statelessTo cache).trans (evolves_transmitStateless rfl status cache)

theorem evolves_reject (status : Nat) (phrase : String) :
    Evolves o t (t.reject w m src status phrase).2 :=
  evolves_sendStatelessResponse status phrase "" false none

theorem evolves_refuse (status : Nat) (phrase reason : String) :
    Evolves o t (t.refuse w m src status phrase reason).2 :=
  evolves_sendStatelessResponse status phrase reason true none

theorem evolves_refuseForNow (reason : String) (cache : Bool) :
    Evolves o t (t.refuseForNow w m src reason cache).2 := by
  have hrandom : Evolves o t (t.espRandom w).2 := .of_eq rfl
  exact hrandom.trans (evolves_sendStatelessResponse _ _ _ _ _)

/-! ## Responses to the last INVITE -/

theorem finallyAnswered_eq (d : Dialog) : finallyAnswered d = (lineOf d).finallyAnswered := rfl

theorem byeOutstanding_eq (d : Dialog) : byeOutstanding d = (lineOf d).byeOutstanding := by
  unfold byeOutstanding Line.byeOutstanding lineOf
  rw [Option.isSome_map]

theorem losesFinal_eq (status : Nat) (d : Dialog) :
    losesFinal status d = (lineOf d).losesFinal status := by
  unfold losesFinal Line.losesFinal
  rw [keepsActiveInvite_eq]
  rfl

/-- The peer of the last INVITE is known, so that a response can be sent. -/
def canRespond (d : Dialog) : Prop :=
  ¬(d.lastInvitePeerIp = 0 ∨ d.lastInvitePeerPort = 0 ∨ d.lastInviteVia = [])

/-- The response of the last INVITE is formed and owned. -/
theorem wire_ownFinalResponse (h : canRespond t.dialog) (hstatus : 200 ≤ msg.status)
    (hcall : msg.callId = t.dialog.callId) (hcseq : msg.cseq = t.dialog.lastInviteCseq) :
    ∃ record, t.wire.FinalResponse msg record ∧
      ((t.record (.responded msg (finallyAnswered t.dialog) (byeOutstanding t.dialog)
        (losesFinal msg.status t.dialog) t.clock)).ownFinalResponse msg).wire =
          t.wire.answered msg record := by
  rw [finallyAnswered_eq, byeOutstanding_eq]
  unfold canRespond at h
  rw [not_or, not_or] at h
  have hlow : ¬msg.status < 200 := by omega
  cases hloses : losesFinal msg.status t.dialog with
  | true =>
    have hloses' : t.wire.own.losesFinal msg.status = true := (losesFinal_eq _ _).symm.trans hloses
    refine ⟨t.wire.own.record, ⟨hstatus, hcall, hcseq, ?_⟩, ?_⟩
    · rw [if_pos hloses']
    · unfold Wire.answered
      rw [hloses']
      unfold ownFinalResponse rememberCompletedResponse
      dsimp only
      split
      · rfl
      · rename_i hguard
        rw [if_pos rfl]
        split
        · rfl
        · rename_i hkeeps
          -- Every reason to lose the response was excluded.
          unfold losesFinal at hloses
          simp only [not_or] at hguard
          obtain ⟨_, _, _, _, hhigh, hcallId, hnumber⟩ := hguard
          have hcallId' : ¬t.dialog.callId = "" := hcallId
          have hnumber' : ¬(t.dialog.lastInviteCseq.getD {}).number = 0 := hnumber
          have hkeeps' : keepsActiveInvite t.dialog t.dialog.callId
              (t.dialog.lastInviteCseq.getD {}).number
              (viaBranch (t.dialog.lastInviteVia.take 1)) = false := Bool.eq_false_iff.2 hkeeps
          rw [hkeeps'] at hloses
          simp [hhigh, hcallId', hnumber'] at hloses
  | false =>
    have hloses' : t.wire.own.losesFinal msg.status = false := (losesFinal_eq _ _).symm.trans hloses
    unfold losesFinal at hloses
    simp only [Bool.or_eq_false_iff, decide_eq_false_iff_not, beq_eq_false_iff_ne, ne_eq] at hloses
    obtain ⟨⟨⟨hhigh, hcallId⟩, hnumber⟩, hkeeps⟩ := hloses
    have hanswered (c : CompletedServerTransaction) (hc : t.wire.finalRecord msg c) :
        t.wire.FinalResponse msg (some c) := by
      refine ⟨hstatus, hcall, hcseq, ?_⟩
      rw [if_neg (Bool.eq_false_iff.1 hloses')]
      exact ⟨c, rfl, hc⟩
    unfold ownFinalResponse rememberCompletedResponse
    dsimp only
    rw [if_neg (by
      simp only [not_or]
      exact ⟨h.1, h.2.1, by decide, hlow, hhigh, hcallId, hnumber⟩), if_pos rfl]
    split
    · rename_i hkeeps'
      exact absurd hkeeps' (Bool.eq_false_iff.1 hkeeps)
    · refine ⟨some (t.completedTransaction t.dialog.callId (t.dialog.lastInviteCseq.getD {}).number
        (viaBranch (t.dialog.lastInviteVia.take 1)) t.dialog.lastInvitePeerIp
        t.dialog.lastInvitePeerPort .invite msg).untimed,
        hanswered _ ⟨rfl, rfl, rfl, rfl, rfl, rfl, rfl, rfl, rfl, rfl⟩, ?_⟩
      unfold Wire.answered
      rw [hloses']
      rfl

theorem wire_ensureLocalTag : (t.ensureLocalTag w).wire = t.wire := by
  unfold ensureLocalTag
  split <;> rfl

/-- A provisional response of ours that was formed waits for its retry. -/
theorem evolves_deferUdpProvisionalResponse (h : msg ∈ made t.log) (ip : UInt32) (port : UInt16) :
    Evolves o t (t.deferUdpProvisionalResponse msg ip port) := by
  unfold deferUdpProvisionalResponse
  split
  · exact .refl t
  · exact .of_move (.deferResponse t.wire msg h)

/-- What is not sent is lost without a trace. -/
theorem wire_sendSip_failed (ip : UInt32) (port : UInt16) :
    (t.sendSip w msg ip port).1 = true ∨ (t.sendSip w msg ip port).2.wire = t.wire := by
  unfold sendSip sendSipTcp sendSipTcpRecord sendSipUdp
  dsimp only
  repeat' split
  all_goals first | exact .inl rfl | exact .inr rfl

theorem ownsFinalResponse_eq (d : Dialog) : ownsFinalResponse msg d =
    (lineOf d).record.elim false fun c => c.awaitingAck && c.response == msg := by
  unfold ownsFinalResponse lineOf
  cases d.completedInvite <;> rfl

/-- A final response to the last INVITE is formed, kept if possible, and sent. When that is said to
    fail, it was neither sent nor kept. -/
theorem sendResponse_final {status : Nat} (hstatus : 200 ≤ status) (w : World) (t : Transport)
    (phrase body reason : String) :
    t.sendResponse w status phrase body reason = (false, t) ∨
    ∃ msg record, msg.status = status ∧ t.wire.FinalResponse msg record ∧
      Sends msg (t.wire.answered msg record)
        (t.sendResponse w status phrase body reason).2.wire ∧
      ((t.sendResponse w status phrase body reason).1 = false →
        t.wire.own.losesFinal msg.status = true ∧
        (t.sendResponse w status phrase body reason).2.wire = t.wire.answered msg record) := by
  unfold sendResponse
  split
  · exact .inl rfl
  · rename_i hpeer
    refine .inr ?_
    dsimp only
    generalize hu : (if needsLocalTag status t.dialog.lastInviteTo = true then t.ensureLocalTag w
      else t) = u
    -- A local tag may be made first, which nobody sees.
    have hwire : u.wire = t.wire ∧ canRespond u.dialog := by
      rw [← hu]
      split
      · refine ⟨wire_ensureLocalTag, ?_⟩
        unfold ensureLocalTag
        split <;> exact hpeer
      · exact ⟨rfl, hpeer⟩
    generalize hmsg : buildInviteResponse status phrase body reason u.dialog = msg
    have hs : msg.status = status := hmsg ▸ rfl
    have hcall : msg.callId = u.dialog.callId := hmsg ▸ rfl
    have hcseq : msg.cseq = u.dialog.lastInviteCseq := hmsg ▸ rfl
    subst hs
    -- The response is formed, and kept unless it is one that would be lost.
    obtain ⟨record, hfinal, howned⟩ := wire_ownFinalResponse hwire.2 hstatus hcall hcseq
    rw [hwire.1] at hfinal howned
    refine ⟨msg, record, rfl, hfinal, ?_⟩
    unfold sendFinalInviteResponse
    dsimp only
    generalize (u.record (.responded msg (finallyAnswered u.dialog) (byeOutstanding u.dialog)
      (losesFinal msg.status u.dialog) u.clock)).ownFinalResponse msg = v at howned
    -- Then it is sent.
    have hsent : Sends msg v.wire (v.sendSip w msg v.dialog.lastInvitePeerIp
      v.dialog.lastInvitePeerPort).2.wire := sends_sendSip _ _
    rw [howned] at hsent
    split
    · exact ⟨hsent, fun h => nomatch h⟩
    · rename_i hneither
      rw [not_or] at hneither
      refine ⟨hsent, fun _ => ⟨?_, ?_⟩⟩
      · -- A response that is not lost is owned.
        refine Decidable.byContradiction fun hkept => hneither.2 ?_
        have hif := hfinal.kept
        rw [if_neg hkept] at hif
        obtain ⟨c, rfl, hc⟩ := hif
        have hrecord : (lineOf v.dialog).record = some c := congrArg (fun s => s.own.record) howned
        rw [ownsFinalResponse_eq, hrecord]
        obtain ⟨_, _, _, _, hresponse, hawaiting, _⟩ := hc
        simp [hresponse, hawaiting]
      · exact ((wire_sendSip_failed _ _).resolve_left hneither.1).trans howned

/-- A kept provisional response is sent, or waits for its retry. -/
theorem evolves_sendProvisionalInviteResponse (status : Nat)
    (hkept : Evolves o t (u.keepLastResponse msg)) (hmade : msg ∈ made u.log) :
    Evolves o t (u.sendProvisionalInviteResponse w status msg).2 := by
  have hheld : Wire.Holds (u.keepLastResponse msg).wire msg := holds_of_made hmade
  have hsent := hkept.trans (evolves_sendSip (w := w) hheld u.dialog.lastInvitePeerIp
    u.dialog.lastInvitePeerPort)
  have hmade' : msg ∈ made ((u.keepLastResponse msg).sendSip w msg u.dialog.lastInvitePeerIp
      u.dialog.lastInvitePeerPort).2.log := by
    rw [made_sendSip]
    exact hmade
  unfold sendProvisionalInviteResponse
  dsimp only
  split
  · exact hsent.trans (evolves_markSipEvent _ _)
  · split
    · exact hsent
    · exact (hsent.trans (evolves_deferUdpProvisionalResponse hmade' _ _)).trans
        (evolves_markSipEvent _ _)

theorem evolves_sendResponse (status : Nat) (phrase body reason : String) :
    Evolves o t (t.sendResponse w status phrase body reason).2 := by
  by_cases hfinal : 200 ≤ status
  · rcases sendResponse_final hfinal w t phrase body reason with he | ⟨msg, record, _, hr, hs, _⟩
    · rw [he]
      exact .refl t
    · have hmade : Wire.Holds (t.wire.answered msg record) msg := .inr List.mem_cons_self
      exact (Relation.ReflTransGen.single (.inl (.respondFinal t.wire msg record hr))).tail
        (.inl (.send msg hmade hs))
  · unfold sendResponse
    split
    · exact .refl t
    · dsimp only
      generalize hu : (if needsLocalTag status t.dialog.lastInviteTo = true then t.ensureLocalTag w
        else t) = u
      have hwire : u.wire = t.wire := by
        rw [← hu]
        split
        · exact wire_ensureLocalTag
        · rfl
      generalize hmsg : buildInviteResponse status phrase body reason u.dialog = msg
      have hresponse : msg.isResponse = true := hmsg ▸ rfl
      have hs : msg.status = status := hmsg ▸ rfl
      have hcall : msg.callId = u.dialog.callId := hmsg ▸ rfl
      have hcseq : msg.cseq = u.dialog.lastInviteCseq := hmsg ▸ rfl
      subst hs
      have hmove := Move.respondProvisional (b := o.ordered) u.wire msg hresponse
        (Nat.lt_of_not_le hfinal) hcall hcseq
      refine evolves_sendProvisionalInviteResponse _
        ((Evolves.of_eq hwire).trans (.of_move ?_)) List.mem_cons_self
      rw [finallyAnswered_eq, byeOutstanding_eq, losesFinal_eq]
      exact hmove

/-! ## Replay -/

theorem mem_kept_retired {l : List (Option CompletedRefer)} {i : Nat} {c : CompletedRefer}
    (h : l.getD i none = some c) (hm : msg ∈ c.messages) : msg ∈ retiredMessages l := by
  unfold retiredMessages
  rw [List.mem_flatMap]
  refine ⟨some c, ?_, hm⟩
  rw [List.getD_eq_getElem?_getD] at h
  cases hi : l[i]? with
  | none =>
    rw [hi] at h
    cases h
  | some x =>
    rw [hi] at h
    cases h
    exact List.mem_of_getElem? hi

/-- A response that is kept is kept on the wire. -/
theorem kept_recordIn {slot : RecordSlot} {c : CompletedServerTransaction}
    (h : t.recordIn slot = some c) : c.response ∈ t.wire.kept := by
  unfold Wire.kept
  simp only [List.mem_append]
  cases slot with
  -- The records of a transfer are kept by the second line,
  | acceptedRefer =>
    refine .inl (.inl (.inl (.inl (.inr ?_))))
    cases hr : t.referDialog with
    | none =>
      rw [recordIn, hr] at h
      cases h
    | some r =>
      rw [recordIn, hr] at h
      have h' : r.acceptedRefer = some c := h
      have hs : t.wire.second = some (secondOf r) := congrArg (Option.map secondOf) hr
      rw [hs]
      unfold Option.elim Second.kept secondOf
      simp [h']
  -- those of the dialog by its own,
  | invite =>
    refine .inl (.inl (.inl (.inl (.inl ?_))))
    have h' : t.dialog.completedInvite = some c := h
    show c.response ∈ (lineOf t.dialog).kept
    unfold Line.kept lineOf
    simp [h', CompletedServerTransaction.untimed]
  | control =>
    refine .inl (.inl (.inl (.inl (.inl ?_))))
    have h' : t.dialog.completedControl = some c := h
    show c.response ∈ (lineOf t.dialog).kept
    unfold Line.kept lineOf
    simp [h']
  -- and those of retired transfers apart.
  | retiredAccepted i =>
    refine .inr ?_
    unfold recordIn at h
    obtain ⟨e, he, hc⟩ := Option.bind_eq_some_iff.1 h
    refine mem_kept_retired he ?_
    unfold CompletedRefer.messages
    simp [hc]
  | retiredControl i =>
    refine .inr ?_
    unfold recordIn at h
    obtain ⟨e, he, hc⟩ := Option.bind_eq_some_iff.1 h
    refine mem_kept_retired he ?_
    unfold CompletedRefer.messages
    simp [hc]

theorem mem_retired_modify {l : List (Option CompletedRefer)} {i : Nat}
    {f : CompletedRefer → CompletedRefer} (hf : ∀ c, ∀ x ∈ (f c).messages, x ∈ c.messages)
    (h : msg ∈ retiredMessages (l.modify i (Option.map f))) : msg ∈ retiredMessages l := by
  unfold retiredMessages at h ⊢
  rw [List.mem_flatMap] at h ⊢
  obtain ⟨entry, hentry, hm⟩ := h
  obtain ⟨j, hj⟩ := List.mem_iff_getElem?.1 hentry
  rw [List.getElem?_modify] at hj
  cases hl : l[j]? with
  | none =>
    rw [hl] at hj
    cases hj
  | some old =>
    rw [hl] at hj
    refine ⟨old, List.mem_of_getElem? hl, ?_⟩
    dsimp only [Option.map_eq_map, Option.map] at hj
    split at hj
    · cases old with
      | none =>
        cases hj
        exact hm
      | some c =>
        cases hj
        exact hf c msg hm
    · cases hj
      exact hm

theorem evolves_modifyRetired (i : Nat) {f : CompletedRefer → CompletedRefer}
    (hf : ∀ c, ∀ x ∈ (f c).messages, x ∈ c.messages) : Evolves o t (t.modifyRetired i f) := by
  refine .of_move (.retire t.wire _ fun x hx => .inl ?_)
  unfold Wire.kept
  exact List.mem_append_right _ (mem_retired_modify hf hx)

/-- A record that has outlived its transaction is dropped. -/
theorem evolves_dropRecord (slot : RecordSlot)
    (h : slot = .invite → ∀ c, t.dialog.completedInvite = some c →
      timeReached t.now (c.completedMs + UInt32.ofNat sipTransactionTimeoutMs) = true ∨
        t.outlived c.completedMs = true) : Evolves o t (t.dropRecord slot) := by
  unfold dropRecord
  cases slot with
  -- The records of a transfer belong to the second line.
  | acceptedRefer =>
    apply Evolves.of_move
    have hmove := Move.dropAcceptedRefer (b := o.ordered) t.wire
    unfold clearRecord
    have hwire : wire { t with
          referDialog := t.referDialog.map fun r => { r with acceptedRefer := none } } =
        { t.wire with second := t.wire.second.map fun r => { r with acceptedRefer := none } } := by
      unfold wire
      cases t.referDialog <;> rfl
    rw [hwire]
    exact hmove
  -- The one record whose loss is seen: its ACK may still be awaited.
  | invite =>
    have hmove := Move.loseRecord (b := o.ordered) t.wire true true (by
      intro _ c hc
      cases hd : t.dialog.completedInvite with
      | none =>
        have hn : t.wire.own.record = none := congrArg (Option.map _) hd
        rw [hn] at hc
        cases hc
      | some c' =>
        have hs : t.wire.own.record = some c'.untimed := congrArg (Option.map _) hd
        rw [hs] at hc
        cases hc
        rcases h rfl c' hd with hr | ho
        · exact .inl hr
        · exact .inr (of_decide_eq_true ho))
    rw [Bool.and_true] at hmove
    apply Evolves.of_move
    have hawaits : (t.dialog.completedInvite.elim false fun c => c.awaitingAck) =
        t.wire.own.awaitsAnyAck := awaitsAnyAck_eq t.dialog
    dsimp only
    rw [hawaits]
    exact hmove
  | control => exact .of_move (.dropControl t.wire)
  -- The retired transfers keep what is left of them.
  | retiredAccepted i =>
    refine evolves_modifyRetired i fun c x hx => ?_
    unfold CompletedRefer.messages at hx ⊢
    simp only [List.mem_append, Option.map_none, Option.toList_none, List.not_mem_nil,
      false_or] at hx ⊢
    exact hx.imp_left .inr
  | retiredControl i =>
    refine evolves_modifyRetired i fun c x hx => ?_
    unfold CompletedRefer.messages at hx ⊢
    simp only [List.mem_append, Option.map_none, Option.toList_none, List.not_mem_nil,
      or_false] at hx ⊢
    exact hx.imp_left .inl

theorem evolves_replayCompletedResponse (method : Method) (udp : Bool) :
    Evolves o t (t.replayCompletedResponse w m src method udp).2 := by
  unfold replayCompletedResponse
  dsimp only
  split
  · exact .refl t
  · split
    · exact .refl t
    · rename_i c hc
      split
      · rename_i hold
        refine evolves_dropRecord _ fun hslot c' hc' => ?_
        rw [hslot] at hc
        have he : t.dialog.completedInvite = some c := hc
        rw [he] at hc'
        cases hc'
        exact .inr hold
      · split
        · exact evolves_resend (kept_recordIn hc) _ _ _ _
        · exact .refl t

/-- A kept ACK is kept on the wire. -/
theorem kept_completedInviteClient {c : CompletedInviteClientTransaction}
    (h : t.dialog.completedInviteClient = some c) : c.ack ∈ t.wire.kept := by
  unfold Wire.kept
  simp only [List.mem_append]
  refine .inl (.inl (.inl (.inl (.inl ?_))))
  show c.ack ∈ (lineOf t.dialog).kept
  unfold Line.kept lineOf
  simp [h]

theorem evolves_replayCompletedInviteAck (udp : Bool) :
    Evolves o t (t.replayCompletedInviteAck w m src udp).2 := by
  unfold replayCompletedInviteAck
  cases hi : t.completedRefers.findIdx? (retiredAckMatches m t.now) with
  | none =>
    dsimp only
    repeat' split
    · exact .refl t
    · exact .refl t
    · exact .of_move (.dropAck t.wire)
    · rename_i hc _ _
      exact evolves_resend (kept_completedInviteClient hc) _ _ _ _
    · exact .refl t
  | some i =>
    dsimp only
    repeat' split
    · exact .refl t
    · exact .refl t
    · refine evolves_modifyRetired i fun c x hx => ?_
      unfold CompletedRefer.messages at hx ⊢
      simp only [List.mem_append, Option.map_none, Option.toList_none, List.not_mem_nil,
        or_false] at hx ⊢
      exact .inl hx
    · rename_i c hc _ _
      obtain ⟨e, he, hinvite⟩ := Option.bind_eq_some_iff.1 hc
      refine evolves_resend ?_ _ _ _ _
      unfold Wire.kept
      refine List.mem_append_right _ (mem_kept_retired he ?_)
      unfold CompletedRefer.messages
      simp [hinvite]
    · exact .refl t

/-- Neither a refusal nor a look-up decides whose turn it is. -/
theorem turn_sendStatelessResponse (status : Nat) (phrase reason : String) (cache : Bool)
    (retryAfter : Option UInt32) :
    turnOf (t.sendStatelessResponse w m src status phrase reason cache retryAfter).2.dialog =
      turnOf t.dialog := by
  rcases sendStatelessResponse_cases w m src t status phrase reason cache retryAfter with
    he | ⟨msg, _, flow, invite, control, io, log, event, status', he, _⟩
  · rw [he]
  · rw [he]
    rfl

theorem turn_replayCompletedResponse (method : Method) (udp : Bool) :
    turnOf (t.replayCompletedResponse w m src method udp).2.dialog = turnOf t.dialog := by
  rcases replayCompletedResponse_cases (w := w) m src method udp t with
    ⟨_, c, _, _, he⟩ | ⟨_, _, he⟩ | ⟨_, _, he⟩
  · obtain ⟨flow, io, log, event, status, hu, _⟩ : Sent t (t.resend w udp c.flow c.response src.ip
      src.port) := sent_resend _ _ _ _
    rw [he, hu]
    rfl
  · rw [he]
    cases t.replaySlot m method <;> rfl
  · rw [he]

/-! ## The ACK of a final response -/

/-- The kept final response is acknowledged by a message that was received. -/
theorem evolves_acknowledge {c : CompletedServerTransaction} {time : Nat} {tcp : Bool}
    (hc : t.dialog.completedInvite = some c) (hm : .received m src time ∈ t.log)
    (h : acknowledges m src tcp c = true) : Evolves o t (t.acknowledge c).2 := by
  have hrecord : t.wire.own.record = some c.untimed := congrArg (Option.map _) hc
  have hmove := Move.acknowledge (b := o.ordered) t.wire c.untimed m src time tcp hrecord hm h
  apply Evolves.of_move
  have hstatus : c.untimed.status = c.status := rfl
  have hdeferred : t.wire.own.deferred = t.dialog.terminateAfterInviteAck := rfl
  rw [hstatus, hdeferred] at hmove
  unfold acknowledge
  dsimp only
  cases hd : decide (c.status < 300) && t.dialog.terminateAfterInviteAck with
  | true =>
    rw [hd] at hmove
    exact hmove
  | false =>
    rw [hd] at hmove
    exact hmove

theorem evolves_acknowledgeCompletedInvite {time : Nat} (hm : .received m src time ∈ t.log) :
    Evolves o t (t.acknowledgeCompletedInvite m src).2 := by
  unfold acknowledgeCompletedInvite
  cases hc : t.dialog.completedInvite with
  | none => exact .refl t
  | some c =>
    dsimp only
    split
    · rename_i hreached
      refine evolves_dropRecord .invite fun _ c' hc' => ?_
      rw [hc] at hc'
      cases hc'
      exact .inl hreached
    · split
      · rename_i hacks
        exact evolves_acknowledge hc hm hacks
      · exact .refl t

end Transport

end EsphomeVoip
