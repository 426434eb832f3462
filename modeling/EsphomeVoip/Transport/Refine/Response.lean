import EsphomeVoip.Transport.Refine.Invite

/-! # The moves of responses to our own requests, and of the pump

A response that was received settles the transaction that it belongs to.  The pump sends what is
kept again, and drops what has expired. -/

namespace EsphomeVoip

open Wire (Sends Notified)
open WrapClock (timeReached)

namespace Transport

variable {o : Mode} {b : Bool} {w : World} {t u : Transport} {m msg : SipMessage} {src : Peer}

/-! ## Settled transactions -/

theorem evolves_handleNotifyResponse {r : ReferDialog} (hr : t.referDialog = some r) :
    Evolves o t (t.handleNotifyResponse m src r).2 := by
  have hsecond : t.wire.second = some (secondOf r) := congrArg (Option.map secondOf) hr
  unfold handleNotifyResponse
  split
  · dsimp only
    split
    · have hmove := Move.unpend (b := o.ordered) t.wire .notify
      unfold Wire.setPending at hmove
      dsimp only at hmove
      rw [hsecond] at hmove
      exact .of_move hmove
    · exact .refl t
  · split
    · dsimp only
      split
      · have hmove := Move.unpend (b := o.ordered) t.wire .notifyFinal
        unfold Wire.setPending at hmove
        dsimp only at hmove
        rw [hsecond] at hmove
        exact .of_move hmove
      · exact .refl t
    · exact .refl t

theorem evolves_learnPeer : Evolves o t (t.learnPeer m src) := .of_eq rfl

/-- The response belongs to the INVITE of the dialog. -/
structure AnswersInvite (m : SipMessage) (t : Transport) : Prop where
  heard : ∃ src time, .received m src time ∈ t.log
  response : m.isResponse = true
  status : 100 ≤ m.status
  method : m.cseqMethod = .invite
  callId : m.callId = t.dialog.callId
  number : m.cseqNumber = t.dialog.inviteCseq
  branch : m.topBranch = t.dialog.branch

theorem evolves_settleInvite (h : AnswersInvite m t) : Evolves o t (t.settleInvite m.status) := by
  unfold settleInvite
  split
  · rename_i hlow
    obtain ⟨src, time, hreceived⟩ := h.heard
    cases hp : t.dialog.pendingInvite with
    | none =>
      refine .of_eq ?_
      unfold wire lineOf
      simp only [hp, Option.map_none, Option.elim_none]
    | some x =>
      have hmove := Move.hearProvisional (b := o.ordered) t.wire ⟨m, src, time, hreceived,
        h.response, h.status, hlow,
        h.method, h.callId, h.number, h.branch⟩
      apply Evolves.of_move
      have hwire : wire { t with dialog := { t.dialog with
            pendingInvite := (some x).map fun x =>
              { x with completed := true, nextMs := x.deadlineMs } } } =
          { t.wire with own := { t.wire.own with heard := true } } := by
        unfold wire lineOf
        simp only [hp, Option.map_some, Option.elim_some]
      rw [hwire]
      exact hmove
  · exact .of_move (.unpend t.wire .invite)

theorem evolves_completeCancel : Evolves o t t.completeCancel := by
  refine .of_eq ?_
  unfold completeCancel wire lineOf
  cases t.dialog.pendingCancel <;> rfl

theorem evolves_completeBye (status : Nat) : Evolves o t (t.completeBye status) := by
  unfold completeBye
  refine Evolves.trans (b := { t with dialog := { t.dialog with pendingBye := none } })
    (.of_move (.unpend t.wire .bye)) ?_
  exact evolves_resetDialog.trans (evolves_emitSipSignal _ (by intro h; cases h))

theorem evolves_acknowledgeAnswer : Evolves o t (t.acknowledgeAnswer w m) := by
  unfold acknowledgeAnswer
  dsimp only
  generalize hu : retarget m.contactUri _ = u
  have hset : Evolves o t u := by
    refine .of_eq ?_
    rw [← hu, wire_retarget]
    rfl
  have hmay : MayRequest .ack { cseqNumber := u.dialog.inviteCseq } u := .of_free _ (by decide) u
  exact hset.trans (evolves_sendRequest hmay "")

/-- A dialog is ended with a BYE, or given up. -/
theorem evolves_byeOrReset (callId : String) (ho : Outer o t) :
    Evolves o t (if (t.sendBye w callId).1 = true then (t.sendBye w callId).2
      else (t.sendBye w callId).2.resetDialog) := by
  have hbye := evolves_sendBye (w := w) callId ho
  split
  · exact hbye
  · exact hbye.trans evolves_resetDialog

theorem evolves_rejectAnswer (ho : Outer o t) : Evolves o t (t.rejectAnswer w) := by
  unfold rejectAnswer
  exact (evolves_byeOrReset _ ho).trans (evolves_emitSipSignal _ (by intro h; cases h))

theorem wire_learnAnswer : (t.learnAnswer w m src).2.wire = t.wire := by
  unfold learnAnswer
  dsimp only
  split
  · exact wire_prepareVideoSession.trans (wire_learnRemoteRtp _ _ _)
  · exact wire_learnRemoteRtp _ _ _

theorem evolves_inviteAnswered (ho : Outer o t) : Evolves o t (t.inviteAnswered w m src) := by
  have hack : Evolves o t (t.acknowledgeAnswer w m) := evolves_acknowledgeAnswer
  unfold inviteAnswered
  dsimp only
  split
  · exact (hack.trans evolves_resetDialog).trans (evolves_emitSipSignal _ (by intro h; cases h))
  · have hmedia : Evolves o t ((t.acknowledgeAnswer w m).learnAnswer w m src).2 :=
      hack.trans (.of_eq wire_learnAnswer)
    split
    · exact hmedia.trans (evolves_byeOrReset _ (ho.evolves hmedia))
    · split
      · exact hmedia.trans (evolves_rejectAnswer (ho.evolves hmedia))
      · exact (hmedia.trans (.of_eq wire_openMediaSession)).trans
          (evolves_emitSipSignal _ (by intro h; cases h))

theorem failureSignal_ne_mediaReady (status : Nat) : failureSignal status ≠ .mediaReady := by
  unfold failureSignal
  repeat' split
  all_goals exact fun h => nomatch h

theorem evolves_inviteRefused : Evolves o t (t.inviteRefused w m) := by
  unfold inviteRefused
  dsimp only
  have hcleared : Evolves o t { t with dialog := { t.dialog with
    outgoingInvitePending := false } } := .of_eq rfl
  refine ((hcleared.trans evolves_sendInviteErrorAck).trans
    (evolves_emitSipSignal _ ?_)).trans evolves_resetDialog
  exact failureSignal_ne_mediaReady m.status

theorem evolves_inviteResponse (h : AnswersInvite m t) (ho : Outer o t) :
    Evolves o t (t.inviteResponse w m src) := by
  have hsettled : Evolves o t (t.settleInvite m.status) := evolves_settleInvite h
  unfold inviteResponse
  dsimp only
  split
  · split
    · exact hsettled.trans (evolves_emitSipSignal _ (by intro h; cases h))
    · exact hsettled
  · split
    · exact hsettled.trans (evolves_inviteAnswered (ho.evolves hsettled))
    · exact hsettled.trans evolves_inviteRefused

/-- What the dispatcher knows of the response that it hands on. -/
structure Responds (m : SipMessage) (t : Transport) : Prop where
  heard : ∃ src time, .received m src time ∈ t.log
  response : m.isResponse = true
  status : 100 ≤ m.status

theorem evolves_matchedResponse (h : Responds m t) (hcall : m.callId = t.dialog.callId)
    (hmatch : responseMatches m src t.dialog = true) (ho : Outer o t) :
    Evolves o t (t.matchedResponse w m src) := by
  have hlearnt : Evolves o t (t.learnPeer m src) := evolves_learnPeer
  unfold matchedResponse
  dsimp only
  cases hm : m.cseqMethod with
  | invite =>
    refine hlearnt.trans (evolves_inviteResponse ?_ (ho.evolves hlearnt))
    unfold responseMatches answersRequest at hmatch
    rw [hm] at hmatch
    simp only [Bool.and_eq_true, beq_iff_eq] at hmatch
    obtain ⟨⟨⟨_, ⟨hnumber, _⟩, hbranch⟩, _⟩, _⟩ := hmatch
    exact ⟨h.heard, h.response, h.status, hm, hcall, hnumber, hbranch⟩
  | bye =>
    dsimp only
    split
    · exact hlearnt.trans (evolves_completeBye _)
    · exact hlearnt
  | cancel =>
    dsimp only
    split
    · exact hlearnt.trans evolves_completeCancel
    · exact hlearnt
  | update =>
    dsimp only
    split
    · exact hlearnt.trans (.of_move (.unpend _ .update))
    · exact hlearnt
  | _ => exact hlearnt

theorem evolves_dialogResponse (h : Responds m t) (ho : Outer o t) :
    Evolves o t (t.dialogResponse w m src).2 := by
  unfold dialogResponse
  split
  · exact .refl t
  · rename_i hguard
    simp only [not_or] at hguard
    have hcall : m.callId = t.dialog.callId := Decidable.byContradiction hguard.2.2.1
    dsimp only
    generalize hd : (if m.cseqMethod = .invite then t.handleVideoDirectionResponse w m src
      else (false, t)) = direction
    have hdirection : Evolves o t direction.2 := by
      rw [← hd]
      split
      · exact evolves_handleVideoDirectionResponse ho
      · exact .refl t
    by_cases htaken : direction.1 = true
    · rw [if_pos htaken]
      exact hdirection
    · rw [if_neg htaken]
      by_cases hmatch : responseMatches m src t.dialog = true
      · rw [if_pos hmatch]
        exact evolves_matchedResponse h hcall hmatch ho
      · rw [if_neg hmatch]
        exact .refl t

theorem evolves_handleResponse (hheard : ∃ src time, .received m src time ∈ t.log)
    (ho : Outer o t) : Evolves o t (t.handleResponse w m src).2 := by
  unfold handleResponse
  split
  · exact .refl t
  · rename_i hguard
    simp only [not_or] at hguard
    have hvideo : Evolves o t (t.replayCompletedVideoDirectionAck w m src).2 :=
      evolves_replayCompletedVideoDirectionAck
    dsimp only
    split
    · exact hvideo
    · have hack : Evolves o t ((t.replayCompletedVideoDirectionAck w m
          src).2.replayCompletedInviteAck w m src (!t.dialog.remoteSipTcp)).2 :=
        hvideo.trans (evolves_replayCompletedInviteAck _)
      split
      · exact hack
      · generalize ((t.replayCompletedVideoDirectionAck w m src).2.replayCompletedInviteAck w m src
          (!t.dialog.remoteSipTcp)).2 = u at hack
        obtain ⟨src', time, hm⟩ := hheard
        have hresponds : Responds m u :=
          ⟨⟨src', time, hack.mem_log hm⟩, by simpa using hguard.1,
            Nat.le_of_not_lt hguard.2.1⟩
        split
        · rename_i r hmethod hr
          exact hack.trans (evolves_handleNotifyResponse hr)
        · exact hack.trans (evolves_dialogResponse hresponds (ho.evolves hack))

end Transport

end EsphomeVoip
