import EsphomeVoip.Transport.Refine.Pump

/-! # The moves of a transfer

A REFER that is accepted begins a transfer.  It ends once: with a failure, by being given up, or
with the second dialog as the owner. -/

namespace EsphomeVoip

open Wire (Sends Notified)
open WrapClock (timeReached)

namespace Transport

variable {o : Mode} {b : Bool} {w : World} {t u : Transport} {m msg : SipMessage} {src : Peer}

/-! ## Accepting a REFER -/

theorem evolves_rejectIfStaleDialog (method : Method) :
    Evolves o t (t.rejectIfStaleDialog w m src method).2 := by
  unfold rejectIfStaleDialog
  split
  · exact .refl t
  · exact evolves_reject _ _

/-- The request that is not stale is addressed to the dialog. -/
theorem addresses_of_currentDialog {method : Method} {d : Dialog}
    (hm : method = .bye ∨ method = .refer) (h : currentDialog m src method d = true) :
    addresses m d = true := by
  unfold currentDialog inDialogRequest at h
  simp only [Bool.and_eq_true, Bool.or_eq_true, decide_eq_true_eq, beq_iff_eq] at h
  unfold addresses
  rcases h.2 with hother | hin
  · rcases hm with rfl | rfl <;> simp at hother
  · simp [h.1.1.2, hin.1.1.1.2, hin.1.1.2, hin.2]

theorem evolves_beginRefer (hscope : t.referContextActive = false) (hnone : t.referDialog = none)
    (htake : (lineOf t.dialog).MayTake o.ordered m.cseqNumber) (ip : UInt32) (port : UInt16) :
    Evolves o t (t.beginRefer w m ip port) := by
  have hsecond : t.wire.second = none := congrArg (Option.map secondOf) hnone
  have haccept := Move.accept (b := o.ordered) t.wire m.cseqNumber htake
  have hbegin := Move.begin (b := o.ordered) _ (show Wire.scope _ = false from hscope)
    (show Wire.second { t.wire.enter (.tookEffect m.cseqNumber t.wire.own.accepted) with
      own := { t.wire.own with
        remoteCseq := m.cseqNumber
        accepted := m.cseqNumber :: t.wire.own.accepted } } = none from hsecond)
  refine (Relation.ReflTransGen.single (.inl haccept)).tail (.inl ?_)
  exact hbegin

/-- The second dialog calls its peer, in place of the owner. -/
theorem evolves_callCandidate (caller destination : SipIdentity) :
    Evolves o t (t.callCandidate w caller destination).2 := by
  unfold callCandidate
  dsimp only
  generalize hu : (if t.dialog.remoteSipTcp = true then t.setTcpFlow { t.dialog.tcpFlow with
      targetIp := t.dialog.remoteIp
      targetPort := t.dialog.remoteSipPort
      connectRequested := true } else t) = u
  have hconnecting : Evolves o t u := by
    rw [← hu]
    split
    · exact .of_eq rfl
    · exact .refl t
  exact hconnecting.trans (evolves_sendInvite _ _ _)

theorem isSome_swapRefer : t.swapRefer.referDialog.isSome = t.referDialog.isSome := by
  unfold swapRefer
  split
  · rfl
  · rename_i hr
    rw [hr]
    rfl

theorem retiring_swapRefer : t.swapRefer.referRetiring = t.referRetiring := by
  unfold swapRefer
  split <;> rfl

/-- A scoped run neither begins nor ends the transfer. -/
theorem keepsTransfer_inRefer {f : Transport → Transport}
    (hf : Evolves ⟨false, b⟩ t.enterRefer (f t.enterRefer)) :
    (t.inRefer f).referDialog.isSome = t.referDialog.isSome ∧
      (t.inRefer f).referRetiring = t.referRetiring := by
  obtain ⟨hsome, hretiring⟩ := hf.keepsTransfer scope_enterRefer
  rw [isSome_second, isSome_second] at hsome
  have hentered : t.enterRefer.referDialog.isSome = t.referDialog.isSome :=
    isSome_swapRefer (t := t.openProposal)
  have hleft : (t.inRefer f).referDialog.isSome = (f t.enterRefer).referDialog.isSome :=
    isSome_swapRefer (t := f t.enterRefer)
  have hentered' : t.enterRefer.referRetiring = t.referRetiring :=
    retiring_swapRefer (t := t.openProposal)
  have hleft' : (t.inRefer f).referRetiring = (f t.enterRefer).referRetiring :=
    retiring_swapRefer (t := f t.enterRefer)
  exact ⟨hleft.trans (hsome.trans hentered), hleft'.trans (hretiring.trans hentered')⟩

theorem evolves_startRefer (hscope : t.referContextActive = false) (hnone : t.referDialog = none)
    (htake : (lineOf t.dialog).MayTake b m.cseqNumber) (ip : UInt32) (port : UInt16) :
    Evolves ⟨true, b⟩ t (t.startRefer w m ip port) := by
  have hbegun := evolves_beginRefer (o := ⟨true, b⟩) (w := w) hscope hnone htake ip port
  have hn := notified_notifyRefer (w := w) (t := t.beginRefer w m ip port) m.cseqNumber 100
    "Trying"
  have hnotified := hbegun.trans (.of_move (.inform _ hn))
  have hsome : ((t.beginRefer w m ip port).notifyRefer w m.cseqNumber 100
      "Trying").referDialog.isSome = true := isSome_notifyRefer _ _ _
  have hretiring : ((t.beginRefer w m ip port).notifyRefer w m.cseqNumber 100
      "Trying").referRetiring = false := hn.retiring
  unfold startRefer
  dsimp only
  generalize (t.beginRefer w m ip port).notifyRefer w m.cseqNumber 100 "Trying" = u
    at hnotified hsome hretiring
  generalize SipIdentity.mk u.dialog.localUri.uri.user u.dialog.localUri.displayName = caller
  generalize SipIdentity.mk m.referTo.uri.user m.referTo.uri.user = destination
  have hcall : Evolves ⟨false, b⟩ u.enterRefer
    (u.enterRefer.callCandidate w caller destination).2 :=
    evolves_callCandidate caller destination
  have hscope' : u.referContextActive = false := hnotified.scope.trans hscope
  have hcalled : Evolves ⟨true, b⟩ t
    (u.enterRefer.callCandidate w caller destination).2.leaveRefer :=
    hnotified.trans (evolves_inRefer (f := fun t => (t.callCandidate w caller destination).2)
      hscope' hsome hcall)
  obtain ⟨hsome', hretiring'⟩ := keepsTransfer_inRefer
    (f := fun t => (t.callCandidate w caller destination).2) hcall
  split
  · exact hcalled
  · exact hcalled.trans (evolves_failRefer _ _ (by omega) rfl (hsome'.trans hsome)
      (hretiring'.trans hretiring))

/-- A function that does not touch what begins a transfer. -/
theorem frame_refuse (w : World) (m : SipMessage) (src : Peer) (t : Transport) (status : Nat)
    (phrase reason : String) :
    (t.refuse w m src status phrase reason).2.referContextActive = t.referContextActive ∧
      (t.refuse w m src status phrase reason).2.referDialog = t.referDialog ∧
      turnOf (t.refuse w m src status phrase reason).2.dialog = turnOf t.dialog := by
  unfold refuse
  rcases sendStatelessResponse_cases w m src t status phrase reason true none with
    he | ⟨msg, _, flow, invite, control, io, log, event, status', he, _⟩
  · rw [he]
    exact ⟨rfl, rfl, rfl⟩
  · rw [he]
    exact ⟨rfl, rfl, rfl⟩

theorem evolves_acceptRefer (hscope : t.referContextActive = false) (hnone : t.referDialog = none)
    (htake : (lineOf t.dialog).MayTake b m.cseqNumber) (ip : UInt32) (port : UInt16) :
    Evolves ⟨true, b⟩ t (t.acceptRefer w m src ip port) := by
  unfold acceptRefer
  dsimp only
  have hmemory : Evolves ⟨true, b⟩ t (t.resource w).2 := .of_eq rfl
  split
  · exact hmemory.trans (evolves_reject _ _)
  · have hnoted : Evolves ⟨true, b⟩ t { (t.resource w).2 with referCseq := m.cseqNumber } :=
      .of_eq rfl
    have hrefused : Evolves ⟨true, b⟩ { (t.resource w).2 with referCseq := m.cseqNumber }
        ({ (t.resource w).2 with referCseq := m.cseqNumber }.refuse w m src 200 "OK" "").2 :=
      evolves_refuse 200 "OK" ""
    have hsent := hnoted.trans hrefused
    split
    · obtain ⟨hs, hr, hc⟩ := frame_refuse w m src { (t.resource w).2 with
        referCseq := m.cseqNumber } 200 "OK" ""
      exact hsent.trans (evolves_startRefer (hs.trans hscope) (hr.trans hnone)
        (mayTake_of_turn htake hc) ip port)
    · exact hsent

theorem evolves_handleRefer (hord : InOrder o.ordered m t.dialog) (ho : Outer o t) :
    Evolves o t (t.handleRefer w m src) := by
  have hstale : Evolves o t (t.rejectIfStaleDialog w m src .refer).2 :=
    evolves_rejectIfStaleDialog _
  unfold handleRefer
  dsimp only
  split
  · exact hstale
  · rename_i hcurrent
    have hcurrent' : currentDialog m src .refer t.dialog = true := by
      unfold rejectIfStaleDialog at hcurrent
      split at hcurrent
      · assumption
      · exact absurd rfl hcurrent
    split
    · exact evolves_reject _ _
    · rename_i hfree
      simp only [not_or] at hfree
      obtain ⟨_, hscope, hnone, _⟩ := hfree
      split
      · exact evolves_reject _ _
      · split
        · repeat' split
          · exact evolves_reject _ _
          · exact evolves_reject _ _
          · obtain ⟨b, rfl⟩ := exists_mode (ho.resolve_right hscope)
            exact evolves_acceptRefer (Bool.eq_false_iff.2 hscope)
              (Option.not_isSome_iff_eq_none.1 hnone)
              (mayTake_of_inOrder hord (addresses_of_currentDialog (.inr rfl) hcurrent')) _ _
        · exact evolves_reject _ _

/-! ## Carrying a transfer on -/

theorem evolves_expireRefers : Evolves o t t.expireRefers := by
  refine .of_move (.retire t.wire _ fun msg hm => .inl ?_)
  unfold Wire.kept
  refine List.mem_append_right _ ?_
  show msg ∈ retiredMessages t.completedRefers
  unfold retiredMessages at hm ⊢
  rw [List.mem_flatMap] at hm ⊢
  obtain ⟨entry, hentry, hm⟩ := hm
  obtain ⟨old, hold, rfl⟩ := List.mem_map.1 hentry
  refine ⟨old, hold, ?_⟩
  cases hf : old.filter fun c => !timeReached t.now c.expiresMs with
  | none =>
    rw [hf] at hm
    cases hm
  | some c =>
    rw [hf] at hm
    rw [(Option.filter_eq_some_iff.1 hf).1]
    exact hm

theorem evolves_releaseReferDialog (hscope : t.referContextActive = false) :
    Evolves o t t.releaseReferDialog := by
  unfold releaseReferDialog
  cases hr : t.referDialog with
  | none => exact .refl t
  | some r =>
    have hsecond : t.wire.second = some (secondOf r) := congrArg (Option.map secondOf) hr
    exact .of_move (.release t.wire (secondOf r) hscope hsecond)

theorem evolves_retireOrphan (hscope : t.referContextActive = false) :
    Evolves ⟨true, b⟩ t (t.retireOrphan w) := by
  unfold retireOrphan
  cases hr : t.referDialog with
  | none => exact .refl t
  | some r =>
    dsimp only
    split
    · have hended : Evolves ⟨true, b⟩ t (t.inRefer (endCandidate w)) :=
        evolves_inRefer hscope (by rw [hr]; rfl) (evolves_endCandidate scope_enterRefer)
      exact hended.trans (.of_move (.giveUp _ (hended.scope.trans hscope)))
    · exact .refl t

/-- The media of the second dialog is not on the wire, and the transfer goes on. -/
theorem frame_prepareReferMedia : (t.prepareReferMedia w).2.wire = t.wire ∧
    (t.prepareReferMedia w).2.referDialog.isSome = t.referDialog.isSome ∧
    ((t.prepareReferMedia w).1 = true → t.referDialog.isSome = true) := by
  unfold prepareReferMedia
  cases hr : t.referDialog with
  | none => exact ⟨rfl, by rw [hr], fun h => nomatch h⟩
  | some r =>
    dsimp only
    split
    · exact ⟨rfl, by rw [hr], fun _ => rfl⟩
    · split
      · exact ⟨rfl, by rw [hr], fun _ => rfl⟩
      · split
        · exact ⟨rfl, by rw [hr], fun _ => rfl⟩
        · split
          · exact ⟨rfl, by rw [hr], fun _ => rfl⟩
          · dsimp only
            split
            · -- A further converter is made for the payloads of the second dialog.
              refine ⟨?_, rfl, fun _ => rfl⟩
              unfold wire resource
              simp only [hr]
              rfl
            · exact ⟨rfl, congrArg Option.isSome hr, fun _ => rfl⟩

theorem evolves_endReplaced (ended : Bool) (hscope : t.referContextActive = true) :
    Evolves o t (endReplaced w ended t) := by
  unfold endReplaced
  split
  · exact evolves_resetDialog
  · exact evolves_sendBye _ (.inr hscope)

theorem wire_takeOver (original : String) : (t.takeOver original).wire =
    { t.wire.swap.enter .committed with retiring := true, epoch := t.wire.epoch + 2 } := by
  have hepoch : t.wire.epoch + 1 + 1 = t.wire.epoch + 2 := by
    rw [UInt32.add_assoc]
    rfl
  have hcommitted : t.commitRefer.wire = { t.wire.swap with epoch := t.wire.epoch + 2 } := by
    have hswapped : t.openProposal.swapRefer.mediaProposalEpoch = t.mediaProposalEpoch + 1 := by
      unfold swapRefer
      split <;> rfl
    have hwire : t.commitRefer.wire = { t.openProposal.swapRefer.wire with
        epoch := t.openProposal.swapRefer.mediaProposalEpoch + 1 } := rfl
    have hopen : t.openProposal.wire = { t.wire with epoch := t.wire.epoch + 1 } := rfl
    rw [hwire, wire_swapRefer, hswapped, hopen, swap_epoch, ← hepoch]
    rfl
  have hwire : (t.takeOver original).wire =
      { t.commitRefer.openMediaSession.wire.enter .committed with retiring := true } := rfl
  rw [hwire, wire_openMediaSession, hcommitted]
  rfl

theorem evolves_completeRefer (ended : Bool) (hscope : t.referContextActive = false)
    (hsome : t.referDialog.isSome = true) (hretiring : t.referRetiring = false) :
    Evolves ⟨true, b⟩ t (t.completeRefer w ended) := by
  have hn := notified_notifyRefer (w := w) (t := t) t.referCseq 200 "OK"
  have hsome' : t.wire.second.isSome = true := (isSome_second t).trans hsome
  have hmove := Move.commit (b := b) hscope hsome' hretiring hn
  rw [← wire_takeOver t.dialog.callId] at hmove
  have hcommitted : Evolves ⟨true, b⟩ t ((t.notifyRefer w t.referCseq 200 "OK").takeOver
      t.dialog.callId) := .of_move hmove
  have hkept : ((t.notifyRefer w t.referCseq 200 "OK").takeOver
      t.dialog.callId).referDialog.isSome = true := by
    rw [← isSome_second, wire_takeOver]
    show (t.notifyRefer w t.referCseq 200 "OK").wire.swap.second.isSome = true
    rw [← wire_swapRefer, isSome_second, isSome_swapRefer, isSome_notifyRefer]
    exact hsome
  unfold completeRefer
  dsimp only
  generalize (t.notifyRefer w t.referCseq 200 "OK").takeOver t.dialog.callId = u
    at hcommitted hkept
  have hscope' : u.referContextActive = false := hcommitted.scope.trans hscope
  exact (hcommitted.trans (evolves_inRefer hscope' hkept (evolves_endReplaced ended
    scope_enterRefer))).trans (evolves_emitSipSignal _ (by intro h; cases h))

theorem evolves_candidateAnswered (ended : Bool) (hscope : t.referContextActive = false)
    (hsome : t.referDialog.isSome = true) (hretiring : t.referRetiring = false) :
    Evolves ⟨true, b⟩ t (t.candidateAnswered w ended).2 := by
  obtain ⟨hwire, hkept, _⟩ := frame_prepareReferMedia (w := w) (t := t)
  have hprepared : Evolves ⟨true, b⟩ t (t.prepareReferMedia w).2 := .of_eq hwire
  have hretiring' : (t.prepareReferMedia w).2.referRetiring = false :=
    (congrArg Wire.retiring hwire).trans hretiring
  have hscope' := hprepared.scope.trans hscope
  unfold candidateAnswered
  dsimp only
  split
  · exact hprepared.trans (evolves_completeRefer ended hscope' (hkept.trans hsome) hretiring')
  · have hbye : Evolves ⟨false, b⟩ (t.prepareReferMedia w).2.enterRefer
        ((t.prepareReferMedia w).2.enterRefer.sendBye w
          (t.prepareReferMedia w).2.enterRefer.dialog.callId).2 :=
      evolves_sendBye _ (.inr scope_enterRefer)
    have hended := hprepared.trans (evolves_inRefer (f := fun t => (t.sendBye w t.dialog.callId).2)
      hscope' (hkept.trans hsome) hbye)
    obtain ⟨hsome'', hretiring''⟩ := keepsTransfer_inRefer
      (f := fun t => (t.sendBye w t.dialog.callId).2) hbye
    exact hended.trans (evolves_finishFailedRefer _ (by omega) (hended.scope.trans hscope)
      (hsome''.trans (hkept.trans hsome)) (hretiring''.trans hretiring'))

theorem evolves_handleReferSignal (hscope : t.referContextActive = false)
    (hsome : t.referDialog.isSome = true) : Evolves ⟨true, b⟩ t (t.handleReferSignal w).2 := by
  unfold handleReferSignal
  split
  · exact .refl t
  · rename_i hgoes
    rw [not_or] at hgoes
    have hretiring : t.referRetiring = false := Bool.eq_false_iff.2 hgoes.2
    have htaken : Evolves ⟨true, b⟩ t { t with referSignalPending := false } := .of_eq rfl
    dsimp only
    split
    · exact htaken.trans (evolves_candidateAnswered _ hscope hsome hretiring)
    · split
      · refine htaken.trans (evolves_finishFailedRefer _ ?_ hscope hsome hretiring)
        split <;> omega
      · exact htaken

theorem mem_retired_set {l : List (Option CompletedRefer)} {i : Nat} {c : CompletedRefer}
    (h : msg ∈ retiredMessages (l.set i (some c))) : msg ∈ c.messages ∨
    msg ∈ retiredMessages l := by
  unfold retiredMessages at h ⊢
  rw [List.mem_flatMap] at h
  obtain ⟨entry, hentry, hm⟩ := h
  rcases List.mem_or_eq_of_mem_set hentry with hold | rfl
  · exact .inr (List.mem_flatMap.2 ⟨entry, hold, hm⟩)
  · exact .inl hm

theorem evolves_keepRefer {r : ReferDialog} (hr : t.referDialog = some r)
    (hscope : t.referContextActive = false) : Evolves o t (t.keepRefer w r) := by
  unfold keepRefer
  split
  · exact .refl t
  · rename_i i hi
    dsimp only
    split
    · have hsecond : t.wire.second = some (secondOf r) := congrArg (Option.map secondOf) hr
      have hretire (kept : List (Option CompletedRefer))
          (hkept : ∀ msg ∈ retiredMessages kept, msg ∈ t.wire.kept) :
          Evolves o t { (t.resource w).2 with completedRefers := kept } :=
        .of_move (.retire t.wire _ fun msg hm => .inl (hkept msg hm))
      refine (hretire _ fun msg hm => ?_).trans (evolves_releaseReferDialog hscope)
      unfold Wire.kept
      rcases mem_retired_set hm with hnew | hold
      · rw [hsecond]
        simp only [List.mem_append]
        refine .inl (.inl (.inl (.inl (.inr ?_))))
        unfold completedReferOf CompletedRefer.messages at hnew
        simp only [List.mem_append, Option.mem_toList] at hnew
        show msg ∈ (secondOf r).kept
        unfold Second.kept secondOf Line.kept lineOf
        simp only [List.mem_append, Option.mem_toList]
        rcases hnew with (ha | hc) | hinvite
        · exact .inl (.inl (.inr ha))
        · exact .inl (.inl (.inl (.inl (.inr hc))))
        · exact .inl (.inl (.inl (.inr hinvite)))
      · exact List.mem_append_right _ hold
    · exact .of_eq rfl

theorem evolves_retireRefer (hscope : t.referContextActive = false) :
    Evolves o t (t.retireRefer w) := by
  unfold retireRefer
  cases hr : t.referDialog with
  | none => exact .refl t
  | some r =>
    dsimp only
    repeat' split
    · exact evolves_keepRefer hr hscope
    · exact evolves_releaseReferDialog hscope
    · exact .refl t

theorem evolves_expireRefer (hscope : t.referContextActive = false) :
    Evolves o t t.expireRefer := by
  unfold expireRefer
  split
  · exact evolves_releaseReferDialog hscope
  · exact .refl t

theorem isSome_retireOrphan (hsome : t.referDialog.isSome = true) :
    (t.retireOrphan w).referDialog.isSome = true := by
  unfold retireOrphan
  split
  · exact hsome
  · split
    · exact (keepsTransfer_inRefer (b := false) (evolves_endCandidate scope_enterRefer)).1.trans
        hsome
    · exact hsome

theorem evolves_advanceRefer (hscope : t.referContextActive = false)
    (hsome : t.referDialog.isSome = true) : Evolves ⟨true, b⟩ t (t.advanceRefer w) := by
  have hpump : Evolves ⟨false, b⟩ t.enterRefer (pumpUdpWith w id t.enterRefer) :=
    proceeds_pumpUdpWith proceeds_id _ (.inr scope_enterRefer)
  have hpumped := evolves_inRefer hscope hsome hpump
  have hretired := hpumped.trans (evolves_retireOrphan (w := w) (hpumped.scope.trans hscope))
  have hsome' : ((t.inRefer (pumpUdpWith w id)).retireOrphan w).referDialog.isSome = true :=
    isSome_retireOrphan ((keepsTransfer_inRefer hpump).1.trans hsome)
  have hhandled := hretired.trans (evolves_handleReferSignal (w := w)
    (hretired.scope.trans hscope) hsome')
  unfold advanceRefer
  dsimp only
  split
  · have hscope' := hhandled.scope.trans hscope
    have hdone := hhandled.trans (evolves_retireRefer (w := w) hscope')
    exact hdone.trans (evolves_expireRefer (hdone.scope.trans hscope))
  · exact hhandled

/-- `pump_refer_`. -/
theorem proceeds_pumpRefer : Proceeds o (pumpRefer w) := by
  intro t ho
  unfold pumpRefer
  split
  · exact .refl t
  · rename_i hscope
    obtain ⟨b, rfl⟩ := exists_mode (ho.resolve_right hscope)
    have hexpired : Evolves ⟨true, b⟩ t t.expireRefers := evolves_expireRefers
    dsimp only
    split
    · rename_i hsome
      exact hexpired.trans (evolves_advanceRefer (Bool.eq_false_iff.2 hscope) hsome)
    · exact hexpired

theorem evolves_pumpUdpRetransmits (ho : Outer o t) : Evolves o t (t.pumpUdpRetransmits w) :=
  proceeds_pumpUdpWith proceeds_pumpRefer t ho

end Transport

end EsphomeVoip
