import EsphomeVoip.Transport.Refine.Video

/-! # The moves of requests that open or change a dialog

An initial INVITE opens a line that was free.  A re-INVITE and an UPDATE take effect only with a
number greater than that of every request before them. -/

namespace EsphomeVoip

open Wire (Sends Notified)

namespace Transport

variable {o : Mode} {b : Bool} {w : World} {t u : Transport} {m msg : SipMessage} {src : Peer}

/-! ## The initial INVITE -/

theorem evolves_espRandom : Evolves o t (t.espRandom w).2 := .of_eq rfl

theorem evolves_refuseForeignInvite : Evolves o t (t.refuseForeignInvite w m src).2 := by
  unfold refuseForeignInvite
  split
  · exact evolves_espRandom.trans (evolves_sendStatelessResponse _ _ _ _ _)
  · exact evolves_sendStatelessResponse _ _ _ _ _

theorem evolves_adoptInvite (h : t.dialog.callId = "") : Evolves o t (t.adoptInvite w m src) := by
  unfold adoptInvite
  refine Evolves.trans (.of_move ?_) (.of_eq wire_ensureLocalTag)
  exact .invited t.wire m (t.clashes m.callId) h

theorem wire_inviteMedia : (t.inviteMedia w m src).2.wire = t.wire := by
  unfold inviteMedia
  dsimp only
  split
  · split <;> rfl
  · exact wire_learnRemoteRtp _ _ _

theorem evolves_failInvite (status : Nat) (phrase : String) :
    Evolves o t (t.failInvite w status phrase).2 :=
  (evolves_sendResponse _ _ _ _).trans evolves_resetDialog

theorem evolves_announceInvite : Evolves o t (t.announceInvite w m).2 := by
  have htrying : Evolves o t (t.sendResponse w 100 "Trying" "" "").2 := evolves_sendResponse _ _ _ _
  unfold announceInvite
  dsimp only
  split
  · exact htrying.trans (evolves_failInvite _ _)
  · have htype (t : Transport) : t.inviteSignal.type ≠ .mediaReady := by
      intro h
      cases h
    have hnamed : Evolves o t ((t.sendResponse w 100 "Trying" "" "").2.identifyParties m) :=
      htrying.trans (.of_eq rfl)
    exact hnamed.trans (evolves_emitSipSignal _ (htype _))

theorem evolves_acceptInvite (h : t.dialog.callId = "") :
    Evolves o t (t.acceptInvite w m src).2 := by
  have hmedia : Evolves o t ((t.adoptInvite w m src).inviteMedia w m src).2 :=
    (evolves_adoptInvite h).trans (.of_eq wire_inviteMedia)
  unfold acceptInvite
  dsimp only
  split
  · exact hmedia.trans evolves_announceInvite
  · exact hmedia.trans (evolves_failInvite _ _)

/-! ## The re-INVITE -/

theorem wire_admitNewVideo : (t.admitNewVideo w).2.wire = t.wire := by
  unfold admitNewVideo
  dsimp only
  repeat' split
  all_goals rfl

theorem wire_admitVideo (new : VideoNegotiation) : (t.admitVideo w new).2.wire = t.wire := by
  unfold admitVideo
  dsimp only
  split
  · rfl
  · split
    · rfl
    · split
      · exact wire_admitNewVideo
      · repeat' split
        all_goals rfl

theorem wire_commitReinvite (new : VideoNegotiation) (answer : String) :
    (t.commitReinvite new answer).wire = t.wire := by
  unfold commitReinvite
  dsimp only
  split <;> rfl

theorem evolves_failVideoActivation (h : t.wire.Deferrable) :
    Evolves o t t.failVideoActivation := by
  have hstopped : Evolves o t t.requestAudioPathStop := .of_eq wire_requestAudioPathStop
  have hdeferrable : t.requestAudioPathStop.wire.Deferrable := by
    rw [wire_requestAudioPathStop]
    exact h
  exact (hstopped.trans (evolves_setTerminateAfterAck hdeferrable)).trans
    (evolves_emitSipSignal _ (by intro h; cases h))

theorem evolves_applyVideoPlan (h : t.wire.Deferrable) (plan : VideoPlan)
    (new : VideoNegotiation) (answer : String) :
    Evolves o t (t.applyVideoPlan w plan new answer) := by
  unfold applyVideoPlan
  split
  · exact .of_eq (wire_commitReinvite new answer)
  · split
    · dsimp only
      have hgranted : Evolves o t (t.resource w).2 := .of_eq rfl
      split
      · exact hgranted.trans (.of_eq (wire_commitReinvite new answer))
      · exact hgranted.trans (evolves_failVideoActivation h)
    · exact .of_eq (wire_commitReinvite new answer)

/-- A 2xx that was formed is kept for its ACK, or was said to be lost. -/
theorem deferrable_answered {s : Wire} {record : Option CompletedServerTransaction}
    (h : s.FinalResponse msg record) (hstatus : msg.status < 300)
    (hnumber : s.own.inviteNumber = (s.own.inviteHead.getD {}).number) :
    (s.answered msg record).Deferrable := by
  cases hloses : s.own.losesFinal msg.status with
  | true =>
    refine .inr ⟨msg, s.own.finallyAnswered, s.own.byeOutstanding, s.clock, ?_⟩
    unfold Wire.answered
    rw [hloses]
    exact List.mem_cons_self
  | false =>
    left
    have hif := h.kept
    rw [if_neg (Bool.eq_false_iff.1 hloses)] at hif
    obtain ⟨c, rfl, hcall, hcseq, hbranch, hcstatus, hresponse, hawaiting, _⟩ := hif
    have hlow := h.status
    unfold Line.losesFinal at hloses
    simp only [Bool.or_eq_false_iff, beq_eq_false_iff_ne, ne_eq] at hloses
    unfold Line.awaitsAck Wire.answered
    simp [hawaiting, hcstatus, hlow, hstatus, hcall, hcseq, hnumber, hloses.1.1.2]

theorem deferrable_sends {s s' : Wire} (hs : Sends msg s s') (h : s.Deferrable) :
    s'.Deferrable := by
  have hlater {e : WireEntry} {own : Line} (h : s.Deferrable) (hown : own.awaitsAck =
    s.own.awaitsAck) :
      Wire.Deferrable { s.enter e with own := own } := by
    rcases h with h | ⟨msg', again, ending, time, hm⟩
    · exact .inl (hown.trans h)
    · exact .inr ⟨msg', again, ending, time, List.mem_cons_of_mem _ hm⟩
  cases hs with
  | lost => exact h
  | sent flow =>
    exact hlater h rfl
  | queued hq => exact hlater h rfl

/-- The last number of the peer is another one. -/
def atCseq (number : UInt32) (s : Wire) : Wire :=
  { s with own := { s.own with remoteCseq := number } }

/-- Sending does not depend on the last number of the peer. -/
theorem sends_atCseq {s s' : Wire} {number : UInt32} (h : Sends msg (atCseq number s) s') :
    ∃ s₁, Sends msg s s₁ ∧ s' = atCseq number s₁ ∧ s₁.own.remoteCseq = s.own.remoteCseq ∧
      s₁.own.crossed = s.own.crossed ∧ s₁.own.accepted = s.own.accepted := by
  cases h with
  | lost => exact ⟨s, .lost, rfl, rfl, rfl, rfl⟩
  | sent flow => exact ⟨_, .sent flow, rfl, rfl, rfl, rfl⟩
  | queued hq => exact ⟨_, .queued hq, rfl, rfl, rfl, rfl⟩

theorem wire_recordReinvite :
    (t.recordReinvite m src).wire = atCseq m.cseqNumber (t.wire.reinvitedBy m) := rfl

/-- What is restored after the 200 could not be sent. -/
theorem wire_restoreReinvite (v : Transport)
    (hown : v.wire.own = { t.wire.own with
      inviteVia := v.wire.own.inviteVia
      inviteHead := v.wire.own.inviteHead
      inviteNumber := v.wire.own.inviteNumber
      remoteCseq := v.wire.own.remoteCseq
      response := v.wire.own.response }) :
    ((t.restoreMedia v).restoreLastInvite t.dialog).wire = { v.wire with own := t.wire.own } := by
  have hwire : ((t.restoreMedia v).restoreLastInvite t.dialog).wire = { v.wire with
      own := { v.wire.own with
        inviteVia := t.wire.own.inviteVia
        inviteHead := t.wire.own.inviteHead
        inviteNumber := t.wire.own.inviteNumber
        remoteCseq := t.wire.own.remoteCseq
        response := t.wire.own.response } } := rfl
  rw [hwire, hown]

/-- A re-INVITE that is answered takes effect; one that is not leaves the line as it was. -/
theorem evolves_answerReinvite (hidle : awaitsAnyAck t.dialog = false)
    (htake : (lineOf t.dialog).MayTake o.ordered m.cseqNumber) (plan : VideoPlan)
    (new : VideoNegotiation) (answer : String) :
    Evolves o t (t.answerReinvite w m src plan new answer).2 := by
  have hstop (v : Transport) : (if plan.prepared then v.videoRequestStop else v).wire = v.wire := by
    split <;> rfl
  unfold answerReinvite
  dsimp only
  rcases sendResponse_final (show 200 ≤ 200 by omega) w (t.recordReinvite m src) "OK" answer "" with
    he | ⟨msg, record, hstatus, hfinal, hsends, hfailed⟩
  · -- No response could be formed.
    rw [he, if_neg Bool.false_ne_true]
    dsimp only
    apply Evolves.of_move
    rw [wire_restoreReinvite _ (by rw [hstop]; rfl), hstop]
    exact .reinviteUnanswered t.wire m
  · rw [wire_recordReinvite] at hfinal hsends hfailed
    have hfinal' : (t.wire.reinvitedBy m).FinalResponse msg record :=
      ⟨hfinal.status, hfinal.callId, hfinal.cseq, hfinal.kept⟩
    split
    · -- The 200 was sent, so the re-INVITE takes effect and may end in a new plan.
      obtain ⟨s₁, hs₁, he, hremote, hcrossed, haccepted⟩ := sends_atCseq
        (s := (t.wire.reinvitedBy m).answered msg record)
        hsends
      have hidle' : t.wire.own.awaitsAnyAck = false := (awaitsAnyAck_eq t.dialog).symm.trans hidle
      have hmade : Wire.Holds ((t.wire.reinvitedBy m).answered msg record) msg :=
        .inr List.mem_cons_self
      have hlater : s₁.own.MayTake o.ordered m.cseqNumber := by
        unfold Line.MayTake
        rw [hremote, hcrossed, haccepted]
        exact htake
      have hanswered : Relation.ReflTransGen (Acts o) t.wire s₁ :=
        ((Relation.ReflTransGen.single (.inl (.reinvited t.wire m hidle'))).tail
          (.inl (.respondFinal _ msg record hfinal'))).tail (.inl (.send msg hmade hs₁))
      have htaken := hanswered.tail (.inl (.accept s₁ m.cseqNumber hlater))
      have hdeferrable := deferrable_sends hs₁ (deferrable_answered hfinal' (by omega) rfl)
      generalize ((t.recordReinvite m src).sendResponse w 200 "OK" answer "").2 = v at he
      have hwire : (v.noteAccepted m.cseqNumber).wire =
          { s₁.enter (.tookEffect m.cseqNumber s₁.own.accepted) with
            own := { s₁.own with
              remoteCseq := m.cseqNumber
              accepted := m.cseqNumber :: s₁.own.accepted } } := by
        have hnote : (v.noteAccepted m.cseqNumber).wire =
            { v.wire.enter (.tookEffect m.cseqNumber v.wire.own.accepted) with
              own := { v.wire.own with accepted := m.cseqNumber :: v.wire.own.accepted } } := rfl
        rw [hnote, he]
        rfl
      rw [← hwire] at htaken
      refine Evolves.trans htaken (evolves_applyVideoPlan ?_ plan new answer)
      rw [hwire]
      refine hdeferrable.imp_right ?_
      rintro ⟨msg', again, ending, time, hm⟩
      exact ⟨msg', again, ending, time, List.mem_cons_of_mem _ hm⟩
    · -- The 200 was lost with no record of it, and the line is put back.
      rename_i hunsent
      obtain ⟨hloses, he⟩ := hfailed (Bool.eq_false_iff.2 hunsent)
      have hloses' : (t.wire.reinvitedBy m).own.losesFinal msg.status = true := hloses
      have hrecord := hfinal'.kept
      rw [if_pos hloses'] at hrecord
      subst hrecord
      apply Evolves.of_move
      rw [wire_restoreReinvite _ (by rw [hstop, he]; rfl), hstop, he]
      exact .reinviteFailed t.wire m msg _ hfinal' hloses'

theorem evolves_weighReinvite (hidle : awaitsAnyAck t.dialog = false)
    (htake : (lineOf t.dialog).MayTake o.ordered m.cseqNumber) :
    Evolves o t (t.weighReinvite w m src).2 := by
  have hweighed : Evolves o t
      (t.restoreMedia (t.openProposal.learnRemoteRtp w m.body src.ip false).2).closeProposal :=
    evolves_weigh _ (wire_learnRemoteRtp _ _ _)
  unfold weighReinvite
  dsimp only
  split
  · exact hweighed.trans (evolves_refuse _ _ _)
  · split
    · exact hweighed.trans (evolves_refuse _ _ _)
    · have hadmitted := hweighed.trans (.of_eq (wire_admitVideo (w := w)
        (t.openProposal.learnRemoteRtp w m.body src.ip false).2.video.negotiation))
      have hline : lineOf (admitVideo w
          (t.openProposal.learnRemoteRtp w m.body src.ip false).2.video.negotiation
          (t.restoreMedia (t.openProposal.learnRemoteRtp w m.body src.ip false).2).closeProposal
          ).2.dialog = lineOf t.dialog := congrArg Wire.own (wire_admitVideo _)
      split
      · exact hadmitted.trans (evolves_refuse _ _ _)
      · refine hadmitted.trans (evolves_answerReinvite ?_ ?_ _ _ _)
        · rw [awaitsAnyAck_eq, hline, ← awaitsAnyAck_eq]
          exact hidle
        · rw [hline]
          exact htake

theorem evolves_handleReinvite (hcall : m.callId = t.dialog.callId)
    (hord : InOrder o.ordered m t.dialog) : Evolves o t (t.handleReinvite w m src).2 := by
  unfold handleReinvite
  split
  · exact evolves_reject _ _
  · split
    · exact evolves_reject _ _
    · split
      · exact evolves_refuse _ _ _
      · rename_i hpeer
        simp only [not_or, ne_eq, Decidable.not_not] at hpeer
        split
        · exact evolves_refuseForNow _ _
        · rename_i hidle
          split
          · exact evolves_reject _ _
          · split
            · exact evolves_refuseForNow _ _
            · rename_i hnumber
              repeat' split
              · exact evolves_refuse _ _ _
              · exact evolves_reject _ _
              · refine evolves_weighReinvite (Bool.eq_false_iff.2 hidle)
                  (mayTake_of_inOrder hord ?_)
                unfold addresses
                simp [hcall, hpeer.2.2.1, hpeer.2.2.2, UInt32.not_le.1 hnumber]

/-! ## `handle_invite_` -/

theorem evolves_admitInvite (h : t.dialog.callId = "") :
    Evolves o t (t.admitInvite w m src).2 := by
  unfold admitInvite
  split
  · exact evolves_sendStatelessResponse _ _ _ _ _
  · exact evolves_acceptInvite h

theorem evolves_repeatInvite : Evolves o t (t.repeatInvite w m src).2 := by
  unfold repeatInvite
  dsimp only
  split
  · exact evolves_reject _ _
  · split
    · split
      · exact .refl t
      · rename_i msg hmsg
        refine evolves_sendAgain ?_ _ _ _
        have hresponse : t.wire.own.response = some msg := hmsg
        unfold Wire.kept Line.kept
        simp [hresponse]
    · split
      · exact evolves_sendStatelessResponse _ _ _ _ _
      · rename_i hfree
        exact evolves_admitInvite (Decidable.byContradiction hfree)

theorem evolves_routeInvite (hord : InOrder o.ordered m t.dialog) :
    Evolves o t (t.routeInvite w m src).2 := by
  unfold routeInvite
  dsimp only
  repeat' split
  · exact evolves_refuseForeignInvite
  · exact evolves_reject _ _
  · exact evolves_reject _ _
  · rename_i hmatch _
    refine evolves_handleReinvite ?_ hord
    unfold matchingDialog at hmatch
    simp only [Bool.and_eq_true, beq_iff_eq] at hmatch
    exact hmatch.1.1.1.1
  · exact evolves_repeatInvite

theorem evolves_freshInvite (hord : InOrder o.ordered m t.dialog) :
    Evolves o t (t.freshInvite w m src).2 := by
  unfold freshInvite
  split
  · exact evolves_reject _ _
  · split
    · exact evolves_sendStatelessResponse _ _ _ _ _
    · exact evolves_routeInvite hord

/-- What the look-up does not answer is in order. -/
theorem inOrder_missed {method : Method} {udp : Bool}
    (hord : t.replayable m src method udp = true ∨ InOrder o.ordered m t.dialog)
    (hmissed : ¬(t.replayCompletedResponse w m src method udp).1 = true) :
    InOrder o.ordered m (t.replayCompletedResponse w m src method udp).2.dialog := by
  refine (hord.resolve_left fun hr => hmissed ?_).of_turn (turn_replayCompletedResponse _ _)
  rcases replayCompletedResponse_cases (w := w) m src method udp t with
    ⟨_, c, _, _, he⟩ | ⟨hr', _, _⟩ | ⟨hr', _, _⟩
  · rw [he]
  · rw [hr] at hr'
    cases hr'
  · rw [hr] at hr'
    cases hr'

theorem evolves_handleInvite (hord : t.replayable m src .invite (!t.dialog.remoteSipTcp) = true ∨
    InOrder o.ordered m t.dialog) : Evolves o t (t.handleInvite w m src).2 := by
  unfold handleInvite
  split
  · exact evolves_reject _ _
  · have hreplayed : Evolves o t (t.replayCompletedResponse w m src .invite
        (!t.dialog.remoteSipTcp)).2 := evolves_replayCompletedResponse _ _
    dsimp only
    split
    · exact hreplayed
    · rename_i hmissed
      exact hreplayed.trans (evolves_freshInvite (inOrder_missed hord hmissed))

/-! ## UPDATE -/

theorem evolves_applyUpdate (h : (lineOf t.dialog).MayTake o.ordered m.cseqNumber) :
    Evolves o t (t.applyUpdate m) := by
  have hmove := Move.accept (b := o.ordered) t.wire m.cseqNumber h
  unfold applyUpdate
  dsimp only
  generalize hu : noteAccepted m.cseqNumber _ = u
  have hwire : u.wire = { t.wire.enter (.tookEffect m.cseqNumber t.wire.own.accepted) with
      own := { t.wire.own with
        remoteCseq := m.cseqNumber
        accepted := m.cseqNumber :: t.wire.own.accepted } } := by
    rw [← hu]
    rfl
  rw [← hwire] at hmove
  exact (Evolves.of_move hmove).trans (evolves_emitSipSignal _ (by intro h; cases h))

theorem evolves_freshUpdate (hord : InOrder o.ordered m t.dialog) :
    Evolves o t (t.freshUpdate w m src).2 := by
  unfold freshUpdate
  dsimp only
  split
  · exact evolves_refuse _ _ _
  · rename_i hdialog
    simp only [not_or, Bool.not_eq_false] at hdialog
    split
    · exact evolves_refuseForNow _ _
    · rename_i hnumber
      split
      · exact evolves_refuse _ _ _
      · split
        · exact evolves_refuse _ _ _
        · have hsent : Evolves o t (t.refuse w m src 200 "OK" "").2 := evolves_refuse _ _ _
          split
          · refine hsent.trans (evolves_applyUpdate (mayTake_of_turn (mayTake_of_inOrder hord ?_)
              (turn_sendStatelessResponse _ _ _ _ _)))
            have hin := hdialog.2
            unfold updateInDialog at hin
            simp only [Bool.and_eq_true, beq_iff_eq] at hin
            unfold addresses
            simp [hin.1.1.1.1.2, hin.1.2, hin.2, UInt32.not_le.1 hnumber]
          · exact hsent

theorem evolves_handleUpdate (hord : t.replayable m src .update (!t.dialog.remoteSipTcp) = true ∨
    InOrder o.ordered m t.dialog) : Evolves o t (t.handleUpdate w m src).2 := by
  have hreplayed : Evolves o t (t.replayCompletedResponse w m src .update
      (!t.dialog.remoteSipTcp)).2 := evolves_replayCompletedResponse _ _
  unfold handleUpdate
  dsimp only
  split
  · exact hreplayed
  · rename_i hmissed
    exact hreplayed.trans (evolves_freshUpdate (inOrder_missed hord hmissed))

end Transport

end EsphomeVoip
