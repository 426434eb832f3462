import EsphomeVoip.Transport.Timely.Pump

/-! # Timers while a whole pump runs

After the client transactions the pump looks at what was answered, at the direction of video, and at
what has expired, and carries a transfer on.  Each of these keeps what is known, and the commit of a
transfer exchanges two dialogs of which the same is known. -/

namespace EsphomeVoip

open WrapClock (millis timeReached)

namespace Transport

variable {k : Watch} {w : World} {t u v : Transport} {m msg : SipMessage} {src : Peer}

/-! ## Responses of our own -/

/-- An interval that doubles up to a limit does not vanish. -/
theorem backOff_pos (now deadline : UInt32) {interval limit : Nat} (hi : 0 < interval)
    (hl : 0 < limit) : 0 < (backOff now deadline interval limit).1 := by
  show 0 < min (interval * 2) limit
  omega

theorem Timely.pumpProvisional (h : Timely k t) : Timely k (t.pumpProvisional w) := by
  unfold Transport.pumpProvisional
  split
  · exact h
  · rename_i p hp
    split
    · exact h
    · split
      · exact { h with provisional := fun p hp => nomatch hp }
      · have hsent : Timely k (t.sendAgain w (.udp p.ip p.port) p.response p.ip p.port).2 :=
          h.congr (agenda_sendAgain _ _ _)
        dsimp only
        split
        · exact { hsent with provisional := fun p hp => nomatch hp }
        · refine { hsent with provisional := ?_ }
          rintro p' ⟨rfl⟩
          exact backOff_pos t.now p.deadlineMs (h.provisional p hp) (by decide)

theorem Timely.expireAck (h : Timely k t) {c : CompletedServerTransaction}
    (hc : t.dialog.completedInvite = some c) (o : PumpOutcome) :
    Timely k (expireAck c (o, t)).2 := by
  have hkept : Timely k (t.setCompletedInvite (some { c with awaitingAck := false })) := by
    refine h.setCompletedInvite ?_
    rintro c' ⟨rfl⟩
    exact h.own.final c hc
  unfold Transport.expireAck
  dsimp only
  split
  · split <;> exact hkept.congr rfl
  · exact hkept

theorem Timely.retransmitFinal (h : Timely k t) {c : CompletedServerTransaction}
    (hc : t.dialog.completedInvite = some c) : Timely k (t.retransmitFinal w c) := by
  have hsent : Timely k (t.sendAgain w c.flow c.response c.peerIp c.peerPort).2 :=
    h.congr (agenda_sendAgain _ _ _)
  refine hsent.setCompletedInvite ?_
  rintro c' ⟨rfl⟩
  exact backOff_pos t.now c.deadlineMs (h.own.final c hc) (by decide)

theorem Timely.pumpFinal (h : Timely k t) (o : PumpOutcome) : Timely k (pumpFinal w (o, t)).2 := by
  unfold Transport.pumpFinal
  split
  · exact h
  · rename_i c hc
    split
    · exact h
    · split
      · exact h.expireAck hc o
      · split
        · exact h.retransmitFinal hc
        · exact h

/-! ## Expiry -/

theorem Timely.retransmitDirection (h : Timely k t) {p : PendingVideoDirectionInvite}
    (hp : t.video.pendingDirection = some p) (hwaiting : p.waitingRetry = false) :
    Timely k (t.retransmitDirection w p) := by
  obtain ⟨x, hx, hpos⟩ := h.direction p hp hwaiting
  unfold Transport.retransmitDirection
  rw [hx]
  dsimp only
  split
  · exact h
  · have hsent : Timely k (t.sendAgain w (.udp x.ip x.port) x.request x.ip x.port).2 :=
      h.congr (agenda_sendAgain _ _ _)
    refine hsent.setPendingDirection ?_
    rintro p' ⟨rfl⟩ _
    exact ⟨_, rfl, backOff_pos t.now p.responseDeadlineMs hpos (by decide)⟩

theorem Timely.pumpVideoDirection (hk : k.Closed) (h : Timely k t) :
    Timely k (t.pumpVideoDirection w) := by
  unfold Transport.pumpVideoDirection
  split
  · exact h
  · rename_i p hp
    split
    · split
      · have hsent : Timely k (t.sendVideoDirectionReinvite w p.targetSend true).2 :=
          h.sendVideoDirectionReinvite _ _
        dsimp only
        split
        · exact hsent
        · exact hsent.abandonDirection p
      · exact h
    · rename_i hwaiting
      split
      · exact (h.abandonDirection p).endDialog hk (by decide) _ _ _
      · exact h.retransmitDirection hp (Bool.eq_false_iff.2 hwaiting)

theorem Timely.expireCompleted (h : Timely k t) : Timely k t.expireCompleted := by
  have hkept : Timely k (t.setCompletedInvite (keepServer t.now t.dialog.completedInvite)) := by
    refine h.setCompletedInvite fun c hc => ?_
    exact h.own.final c (Option.filter_eq_some_iff.1 hc).1
  unfold Transport.expireCompleted
  dsimp only
  split <;> exact hkept.congr rfl

theorem Timely.settleTimeouts (hk : k.Closed) (h : Timely k t) (o : PumpOutcome) :
    Timely k (settleTimeouts w (o, t)) := by
  unfold Transport.settleTimeouts
  dsimp only
  generalize hu : (if o.resetTerminalDialog = true then t.finishTerminalTimeout o.timedOutCallId
    else t) = u
  have hu' : Timely k u := by
    rw [← hu]
    split
    · exact h.resetDialog.emitOther (by intro he; cases he)
    · exact h
  generalize hv : (if o.inviteTimedOut = true then u.finishInviteTimeout o.timedOutCallId
    else u) = v
  have hv' : Timely k v := by
    rw [← hv]
    split
    · exact hu'.resetDialog.emitOther (by intro he; cases he)
    · exact hu'
  split
  · exact hv'.endDialog hk (by decide) _ _ _
  · exact hv'

theorem Timely.pumpServers (hk : k.Closed) (h : Timely k t) (o : PumpOutcome) :
    Timely k (pumpServers w (o, t)) :=
  (((h.pumpProvisional.pumpFinal o).pumpVideoDirection hk).expireCompleted).settleTimeouts hk _

/-- The pump of the second dialog, in place of the owner. -/
theorem Timely.pumpCandidate (hk : k.Closed) (h : Timely k t) (hscope : k.scope = true)
    {Q : UdpTransaction → Prop} (hown : Pumps k.clock k.own Q) (hQ : Closed k.clock Q) :
    Timely { k with own := Q } (pumpUdpWith w id t) := by
  have hpumped := h.pumpClients (w := w) hown (N := fun _ => True) fun _ _ _ _ => trivial
  unfold pumpedWatch at hpumped
  rw [hscope, if_pos rfl, ← hscope] at hpumped
  have hk' : ({ k with own := Q } : Watch).Closed := ⟨hQ, hk.other, hk.notify⟩
  exact hpumped.pumpServers hk' _

/-! ## The transfer -/

theorem Timely.releaseReferDialog (h : Timely k t) : Timely k t.releaseReferDialog := by
  unfold Transport.releaseReferDialog
  split
  · exact h
  · have hreleased : Timely k { t with referDialog := none } :=
      { h with other := fun r hr => (nomatch hr), notify := fun r hr => (nomatch hr) }
    exact hreleased.congr rfl

theorem Timely.retireOrphan (hk : k.Closed) (h : Timely k t) (hscope : k.scope = false) :
    Timely k (t.retireOrphan w) := by
  unfold Transport.retireOrphan
  split
  · exact h
  · rename_i r hr
    split
    · have hended : Timely k (t.inRefer (Transport.endCandidate w)) :=
        h.inRefer hscope (by rw [hr]; rfl) (fun he => he.endCandidate hk.entered) keeps_endCandidate
      exact hended.unsettle.retire
    · exact h

theorem Timely.prepareReferMedia (h : Timely k t) : Timely k (t.prepareReferMedia w).2 := by
  unfold Transport.prepareReferMedia
  split
  · exact h
  · rename_i r hr
    dsimp only
    repeat' split
    · exact h
    · exact h
    · exact h
    · exact h
    · have hresource : Timely k (t.resource w).2 := h.congr rfl
      refine { hresource with other := ?_, notify := ?_ }
      · rintro r' ⟨rfl⟩
        exact h.other r hr
      · rintro r' ⟨rfl⟩
        exact h.notify r hr
    · exact h.congr rfl

/-- A commit exchanges the two dialogs. -/
theorem commitRefer_eq {r : ReferDialog} (hr : t.referDialog = some r) : t.commitRefer = { t with
    mediaProposalEpoch := t.mediaProposalEpoch + 1 + 1
    dialog := r.dialog
    negotiation := r.negotiation
    referDialog := some { r with dialog := t.dialog, negotiation := t.negotiation } } := by
  unfold commitRefer swapRefer
  have hr' : t.openProposal.referDialog = some r := hr
  rw [hr']
  rfl

/-- The second dialog becomes the owner, and media is opened. -/
theorem agenda_takeOver (hscope : t.referContextActive = false) {r : ReferDialog}
    (hr : t.referDialog = some r) (original : String) :
    (t.takeOver original).agenda = ({ t with
      dialog := r.dialog
      referDialog := some { r with dialog := t.dialog }
      mediaActive := true
      referRetiring := true } : Transport).agenda := by
  have hopen (v : Transport) (hv : v.referContextActive = false) :
      v.openMediaSession = { v with mediaActive := true } := by
    unfold openMediaSession
    rw [hv]
    rfl
  unfold takeOver
  dsimp only
  rw [hopen t.commitRefer (by rw [commitRefer_eq hr]; exact hscope), commitRefer_eq hr]
  rfl

/-- A reset in place of the owner. -/
theorem agenda_inRefer_resetDialog (hscope : t.referContextActive = false) {r : ReferDialog}
    (hr : t.referDialog = some r) : (t.inRefer resetDialog).agenda = ({ t with
      referDialog := some { r with dialog := resetOf r.dialog }
      pendingProvisionalResponse := none } : Transport).agenda := by
  have hentered : t.enterRefer = { t with
      mediaProposalEpoch := t.mediaProposalEpoch + 1
      dialog := r.dialog
      negotiation := r.negotiation
      referDialog := some { r with dialog := t.dialog, negotiation := t.negotiation }
      referContextActive := true } := by
    unfold enterRefer swapRefer
    have hr' : t.openProposal.referDialog = some r := hr
    rw [hr']
    rfl
  unfold inRefer
  rw [hentered]
  unfold agenda leaveRefer swapRefer resetDialog
  simp only [hscope, record, closeProposal]
  rfl

/-- The second dialog has answered, and the owner has media: the two are exchanged. -/
theorem Timely.takeOver (h : Timely k t) (hscope : k.scope = false) (hsame : k.other = k.own)
    {r : ReferDialog} (hr : t.referDialog = some r) (hcandidate : r.dialog.pendingInvite = none)
    (howner : t.dialog.pendingInvite = none) (original : String) :
    Timely k (t.takeOver original) := by
  have hother := h.other r hr
  rw [hsame] at hother
  refine Timely.congr (t := { t with
      dialog := r.dialog
      referDialog := some { r with dialog := t.dialog }
      mediaActive := true
      referRetiring := true }) ?_ (agenda_takeOver (h.scope.trans hscope) hr original)
  refine { h with own := hother.withRole hcandidate _ _, other := ?_, notify := ?_, calm := ?_ }
  · rintro r' ⟨rfl⟩
    rw [hsame]
    exact h.own.withRole howner _ _
  · rintro r' ⟨rfl⟩
    exact h.notify r hr
  · exact fun _ => by simp [answered]

theorem referDialog_takeOver {r : ReferDialog} (hr : t.referDialog = some r) (original : String) :
    (t.takeOver original).referDialog =
      some { r with dialog := t.dialog, negotiation := t.negotiation } := by
  unfold takeOver openMediaSession
  dsimp only
  rw [commitRefer_eq hr]
  split <;> rfl

/-- The second dialog has answered, and the INVITE usage of the owner has ended. -/
theorem Timely.takeOverEnded (h : Timely k t) (hscope : k.scope = false) (hsame : k.other = k.own)
    {r : ReferDialog} (hr : t.referDialog = some r) (hcandidate : r.dialog.pendingInvite = none)
    (original : String) : Timely k ((t.takeOver original).inRefer Transport.resetDialog) := by
  have hscope' : t.referContextActive = false := h.scope.trans hscope
  have hother := h.other r hr
  rw [hsame] at hother
  have htaken := agenda_takeOver hscope' hr original
  have hout : (t.takeOver original).referContextActive = false :=
    (congrArg referContextActive htaken).trans hscope'
  have hreset := agenda_inRefer_resetDialog hout (referDialog_takeOver hr original)
  have hfields (u : Transport) : ({ u with
      referDialog := some { r with dialog := resetOf t.dialog, negotiation := t.negotiation }
      pendingProvisionalResponse := none } : Transport).agenda = { u.agenda with
        referDialog := some { r with dialog := resetOf t.dialog }.agenda
        pendingProvisionalResponse := none } := rfl
  refine Timely.congr (t := { t with
      dialog := r.dialog
      referDialog := some { r with dialog := resetOf t.dialog }
      mediaActive := true
      referRetiring := true
      pendingProvisionalResponse := none }) ?_ ?_
  · refine { h with
      own := hother.withRole hcandidate _ _, other := ?_, notify := ?_, calm := ?_
      provisional := fun p hp => (nomatch hp) }
    · rintro r' ⟨rfl⟩
      rw [hsame]
      exact lineTimely_resetOf h.own _ _
    · rintro r' ⟨rfl⟩
      exact h.notify r hr
    · exact fun _ => by simp [answered]
  · rw [hreset, hfields, htaken]
    rfl

/-! ## The answer of the second dialog -/

/-- A NOTIFY leaves both INVITEs as they are. -/
theorem pendingInvite_notifyRefer (referCseq : UInt32) (status : Nat) (phrase : String)
    {r : ReferDialog} (hr : t.referDialog = some r) :
    (t.notifyRefer w referCseq status phrase).dialog.pendingInvite = t.dialog.pendingInvite ∧
      ∃ r', (t.notifyRefer w referCseq status phrase).referDialog = some r' ∧
        r'.dialog.pendingInvite = r.dialog.pendingInvite := by
  have hagenda {u : Transport} (hu : u.agenda = t.agenda) :
      u.dialog.pendingInvite = t.dialog.pendingInvite ∧
        ∃ r', u.referDialog = some r' ∧ r'.dialog.pendingInvite = r.dialog.pendingInvite := by
    have hrefer := congrArg Transport.referDialog hu
    unfold agenda at hrefer
    dsimp only at hrefer
    rw [hr] at hrefer
    obtain ⟨r', hr', he⟩ := Option.map_eq_some_iff.1 hrefer
    have hinvite := congrArg (fun r : ReferDialog => r.dialog.pendingInvite) he
    exact ⟨pendingInvite_of_agenda hu, r', hr', hinvite⟩
  unfold notifyRefer sendRequest
  split
  · exact ⟨rfl, r, hr, rfl⟩
  · obtain ⟨u, hu, ⟨_, he⟩ | ⟨msg, ip, port, _, he⟩⟩ :=
      sendRequestFormatted_cases (w := w) (t := t) .notify
        ("SIP/2.0 " ++ toString status ++ " " ++ phrase ++ "\r\n")
        { subscription := some { referCseq := referCseq, terminated := 200 ≤ status }
          contentType := "message/sipfrag;version=2.0" }
    · rw [he]
      exact hagenda hu
    · rw [he]
      obtain ⟨hown, r', hr', hother⟩ := hagenda hu
      unfold rememberUdpTransaction rememberNotify
      dsimp only
      repeat' split
      all_goals simp_all

theorem Timely.completeRefer (hk : k.Closed) (h : Timely k t) (hscope : k.scope = false)
    (hsame : k.other = k.own) {r : ReferDialog} (hr : t.referDialog = some r)
    (hcandidate : r.dialog.pendingInvite = none) {ended : Bool}
    (howner : ended = false → t.dialog.pendingInvite = none) :
    Timely k (t.completeRefer w ended) := by
  obtain ⟨hown, r', hr', hother⟩ :=
    pendingInvite_notifyRefer (w := w) t.referCseq 200 "OK" hr
  have hnotified : Timely k (t.notifyRefer w t.referCseq 200 "OK") := h.notifyRefer hk _ _ _
  have hcandidate' := hother.trans hcandidate
  unfold Transport.completeRefer
  dsimp only
  cases ended with
  | true =>
    exact (hnotified.takeOverEnded hscope hsame hr' hcandidate' t.dialog.callId).emitOther
      fun he => nomatch he
  | false =>
    have htaken := hnotified.takeOver hscope hsame hr' hcandidate' (hown.trans (howner rfl))
      t.dialog.callId
    have hsome := referDialog_takeOver hr' t.dialog.callId
    refine Timely.emitOther (htaken.inRefer (f := endReplaced w false) hscope ?_ (fun he => ?_) ?_)
      fun he => nomatch he
    · rw [hsome]
      rfl
    · exact he.sendBye hk.entered _
    · exact (keepsTransfer_inRefer (b := false) (evolves_endReplaced false scope_enterRefer)).1

theorem dialogs_prepareReferMedia {r : ReferDialog} (hr : t.referDialog = some r) :
    (t.prepareReferMedia w).2.dialog = t.dialog ∧
      ∃ r', (t.prepareReferMedia w).2.referDialog = some r' ∧ r'.dialog = r.dialog := by
  unfold prepareReferMedia
  rw [hr]
  dsimp only
  repeat' split
  all_goals first | exact ⟨rfl, r, hr, rfl⟩ | exact ⟨rfl, _, rfl, rfl⟩

theorem Timely.candidateAnswered (hk : k.Closed) (h : Timely k t) (hscope : k.scope = false)
    (hsame : k.other = k.own) {r : ReferDialog} (hr : t.referDialog = some r)
    (hcandidate : r.dialog.pendingInvite = none) {ended : Bool}
    (howner : ended = false → t.dialog.pendingInvite = none) :
    Timely k (t.candidateAnswered w ended).2 := by
  have hprepared : Timely k (t.prepareReferMedia w).2 := h.prepareReferMedia
  obtain ⟨hdialog, r', hr', hother⟩ := dialogs_prepareReferMedia (w := w) hr
  unfold Transport.candidateAnswered
  dsimp only
  split
  · refine hprepared.completeRefer hk hscope hsame hr' (by rw [hother]; exact hcandidate) ?_
    rw [hdialog]
    exact howner
  · have hended : Timely k ((t.prepareReferMedia w).2.inRefer
        fun t => (t.sendBye w t.dialog.callId).2) := by
      refine hprepared.inRefer hscope (by rw [hr']; rfl) (fun he => he.sendBye hk.entered _) ?_
      exact (keepsTransfer_inRefer (b := false)
        (f := fun t => (t.sendBye w t.dialog.callId).2)
          (evolves_sendBye _ (.inr scope_enterRefer))).1
    exact hended.unsettle.finishFailedRefer hk _ _

/-- The transfer acts on what the second dialog has reported. -/
theorem Timely.handleReferSignal (hk : k.Closed) (h : Timely k.unsettled t)
    (hscope : k.scope = false) (hsame : k.other = k.own) (hsome : t.referDialog.isSome = true) :
    Timely k (t.handleReferSignal w).2 := by
  have hheard : Timely k { t with referSignalPending := false } :=
    h.withAnswered rfl (by simp [answered])
  unfold Transport.handleReferSignal
  split
  · rename_i hidle
    refine h.settle ?_
    rcases hidle with hidle | hidle <;> simp [answered, hidle]
  · rename_i hgoes
    simp only [not_or, Bool.not_eq_true, Bool.not_eq_false] at hgoes
    dsimp only
    split
    · rename_i hanswer
      obtain ⟨htype, _, hmedia⟩ := hanswer
      have hanswered : t.answered = true := by simp [answered, hgoes, htype]
      obtain ⟨r, hr⟩ := Option.isSome_iff_exists.1 hsome
      have hother := h.other r hr
      have hown := h.own
      have hunsettled : k.unsettled.scope = false := hscope
      rw [hunsettled] at hother hown
      refine hheard.candidateAnswered hk hscope hsame hr
        (hother.not_calling (.inr (.inr (.inr hanswered)))) fun hended => ?_
      -- Without its INVITE usage ended the owner still has media.
      have hactive : t.mediaActive = true :=
        hmedia.elim id fun he => absurd (hended.symm.trans he) Bool.false_ne_true
      exact hown.not_calling (.inr (.inr (.inr hactive)))
    · split
      · exact hheard.unsettle.finishFailedRefer hk _ _
      · exact hheard

/-- Only an answer can keep the transfer from making room. -/
theorem handleReferSignal_of_calm (h : t.answered = false) : (t.handleReferSignal w).1 = true := by
  unfold handleReferSignal
  split
  · rfl
  · rename_i hgoes
    simp only [not_or, Bool.not_eq_true, Bool.not_eq_false] at hgoes
    have htype : t.referSignalType ≠ .status200Ok := by
      intro htype
      simp [answered, hgoes, htype] at h
    dsimp only
    rw [if_neg fun hanswer => htype hanswer.1]
    split <;> rfl

/-! ## The pump of a transfer -/

theorem Timely.keepRefer (h : Timely k t) (r : ReferDialog) : Timely k (t.keepRefer w r) := by
  unfold Transport.keepRefer
  split
  · exact h
  · dsimp only
    split
    · have hkept (u : Transport) (hu : u.agenda = t.agenda) : Timely k u.releaseReferDialog :=
        (h.congr hu).releaseReferDialog
      exact hkept _ rfl
    · exact h.congr rfl

theorem Timely.retireRefer (h : Timely k t) : Timely k (t.retireRefer w) := by
  unfold Transport.retireRefer
  split
  · exact h
  · split
    · split
      · exact h.keepRefer _
      · exact h.releaseReferDialog
    · exact h

theorem Timely.expireRefer (h : Timely k t) : Timely k t.expireRefer := by
  unfold Transport.expireRefer
  split
  · exact h.releaseReferDialog
  · exact h

/-- The second dialog is pumped in place of the owner. -/
theorem Timely.pumpOther {O : UdpTransaction → Prop} (hk : k.Closed)
    (h : Timely { k with other := O } t) (hO : EsphomeVoip.Closed k.clock O)
    (hpump : Pumps k.clock O k.other) (hscope : k.scope = false)
    (hsome : t.referDialog.isSome = true) :
    Timely k ((t.inRefer (pumpUdpWith w id)).retireOrphan w) := by
  refine Timely.retireOrphan hk (h.inReferTo hscope hscope hsome (fun he => ?_) ?_) hscope
  · have hentered : ({ k with other := O } : Watch).entered.Closed := ⟨hO, hk.own, hk.notify⟩
    exact he.pumpCandidate hentered rfl hpump hk.other
  · exact (keepsTransfer_inRefer (b := false)
      (proceeds_pumpUdpWith proceeds_id _ (.inr scope_enterRefer))).1

theorem isSome_pumpOther (hsome : t.referDialog.isSome = true) :
    ((t.inRefer (pumpUdpWith w id)).retireOrphan w).referDialog.isSome = true :=
  isSome_retireOrphan ((keepsTransfer_inRefer (b := false)
    (proceeds_pumpUdpWith proceeds_id _ (.inr scope_enterRefer))).1.trans hsome)

theorem Timely.advanceRefer {O : UdpTransaction → Prop} (hk : k.Closed)
    (h : Timely { k.unsettled with other := O } t) (hO : EsphomeVoip.Closed k.clock O)
    (hpump : Pumps k.clock O k.other) (hscope : k.scope = false) (hsame : k.other = k.own)
    (hsome : t.referDialog.isSome = true) : Timely k (t.advanceRefer w) := by
  have hpumped : Timely k.unsettled ((t.inRefer (pumpUdpWith w id)).retireOrphan w) :=
    h.pumpOther hk.unsettled hO hpump hscope hsome
  have hhandled := hpumped.handleReferSignal (w := w) hk hscope hsame (isSome_pumpOther hsome)
  unfold Transport.advanceRefer
  dsimp only
  split
  · exact hhandled.retireRefer.expireRefer
  · exact hhandled

theorem agenda_expireRefers : t.expireRefers.agenda = t.agenda := rfl

/-- The pump of a transfer acts on an answer of the second dialog. -/
theorem Timely.pumpRefer {O : UdpTransaction → Prop} (hk : k.Closed)
    (h : Timely { k.unsettled with other := O } t) (hO : EsphomeVoip.Closed k.clock O)
    (hpump : Pumps k.clock O k.other) (hscope : k.scope = false) (hsame : k.other = k.own)
    (hcalm : t.referDialog = none → t.answered = false) : Timely k (t.pumpRefer w) := by
  have hexpired : Timely { k.unsettled with other := O } t.expireRefers :=
    h.congr agenda_expireRefers
  unfold Transport.pumpRefer
  rw [h.scope]
  have hs : ({ k.unsettled with other := O } : Watch).scope = false := hscope
  rw [hs]
  dsimp only
  rw [if_neg Bool.false_ne_true]
  split
  · rename_i hsome
    exact hexpired.advanceRefer hk hO hpump hscope hsame hsome
  · rename_i hnone
    have hnone' : t.referDialog = none := Option.not_isSome_iff_eq_none.1 hnone
    have hsettled : Timely k.unsettled t.expireRefers :=
      { hexpired with other := fun r hr => nomatch hnone'.symm.trans hr }
    exact hsettled.settle (hcalm hnone')

end Transport

end EsphomeVoip
