import EsphomeVoip.Transport.Timely.Records

/-! # The timeout of the SIP task (`sip_task_` of `sip_transport.cpp`)

Between two pumps the SIP task sleeps until the next deadline.  `sipDeadlines` are the deadlines
that it reads, and `selectTimeout` is what it makes of them.  After a pump none of them is reached:
what the pump does not remove it moves past the present.  The deadline of a connection attempt also
bounds the sleep; no pump serves it, and it is not among these. -/

namespace EsphomeVoip

open WrapClock (millis timeReached timeReached_delay)

/-! ## The deadlines that are read -/

/-- The lambda `include_txn`. -/
def UdpTransaction.selectDeadline (x : UdpTransaction) : UInt32 :=
  if x.udp && !x.completed then x.nextMs else x.deadlineMs

/-- The deadline of a final response that awaits its ACK. -/
def CompletedServerTransaction.selectDeadline (c : CompletedServerTransaction) : UInt32 :=
  if c.udp || decide (c.status < 300) then c.nextRetransmitMs else c.deadlineMs

/-- The deadline of a direction change. -/
def PendingVideoDirectionInvite.selectDeadline (p : PendingVideoDirectionInvite) : UInt32 :=
  if p.waitingRetry then p.retryAtMs
  else p.transaction.elim 0 fun x =>
    if x.udp && !x.completed then x.nextMs else p.responseDeadlineMs

/-- When a kept record expires. -/
def expiryOf (completedMs : UInt32) : UInt32 := completedMs + UInt32.ofNat sipTransactionTimeoutMs

namespace Transport

/-- The client transactions whose deadlines are read. -/
def selectClients (t : Transport) : List UdpTransaction :=
  let d := t.dialog
  (if d.outgoingInvitePending then d.pendingInvite.toList else []) ++ d.pendingCancel.toList ++
    d.pendingBye.toList ++ d.pendingUpdate.toList ++
    t.referDialog.elim [] fun r =>
      r.dialog.pendingInvite.toList ++ r.dialog.pendingCancel.toList ++
        r.dialog.pendingBye.toList ++ r.pendingNotify.toList ++ r.pendingNotifyFinal.toList

/-- When what is kept of transfers and of the dialog expires. -/
def selectExpiries (t : Transport) : List UInt32 :=
  (if t.referDialog.isSome then [t.referExpires] else []) ++
    (t.completedRefers.filterMap id).map CompletedRefer.expiresMs ++
    t.dialog.completedInvite.toList.map (fun c => expiryOf c.completedMs) ++
    t.dialog.completedControl.toList.map (fun c => expiryOf c.completedMs) ++
    t.dialog.completedInviteClient.toList.map (fun c => expiryOf c.completedMs) ++
    t.video.completedDirection.toList.map fun c => expiryOf c.completedMs

/-- The deadlines that the SIP task reads before it sleeps. -/
def sipDeadlines (t : Transport) : List UInt32 :=
  t.selectClients.map UdpTransaction.selectDeadline ++ t.selectExpiries ++
    t.pendingProvisionalResponse.toList.map DeferredUdpResponse.nextMs ++
    (t.dialog.completedInvite.filter fun c => c.awaitingAck).toList.map
      CompletedServerTransaction.selectDeadline ++
    t.video.pendingDirection.toList.map PendingVideoDirectionInvite.selectDeadline

/-- The lambda `include_at`. -/
def includeAt (now : UInt32) (next : Option UInt32) (deadline : UInt32) : Option UInt32 :=
  let delta := if timeReached now deadline then 0 else deadline - now
  match next with
  | none => some delta
  | some ms => some (if delta < ms then delta else ms)

/-- The timeout, in milliseconds, with which the SIP task sleeps. -/
def selectTimeout (t : Transport) : Option UInt32 := t.sipDeadlines.foldl (includeAt t.now) none

variable {k : Watch} {w : World} {t u : Transport}

/-- A deadline that is not reached leaves time to sleep. -/
theorem pos_of_not_reached {now deadline : UInt32} (h : timeReached now deadline = false) :
    0 < deadline - now := by
  rw [UInt32.pos_iff_ne_zero]
  intro hzero
  have heq : now - deadline = 0 := by
    rw [← UInt32.neg_sub, hzero]
    rfl
  rw [timeReached, heq] at h
  exact absurd h (by decide)

/-- Where no deadline is reached the timeout is positive. -/
theorem pos_foldl_includeAt {now : UInt32} {ds : List UInt32}
    (hds : ∀ d ∈ ds, timeReached now d = false) {next : Option UInt32}
    (hnext : ∀ ms ∈ next, 0 < ms) : ∀ ms ∈ ds.foldl (includeAt now) next, 0 < ms := by
  induction ds generalizing next with
  | nil => exact hnext
  | cons d ds ih =>
    have hd := hds d List.mem_cons_self
    refine ih (fun d' hd' => hds d' (List.mem_cons_of_mem d hd')) ?_
    intro ms hms
    unfold includeAt at hms
    rw [hd] at hms
    cases hn : next with
    | none =>
      rw [hn] at hms
      cases hms
      exact pos_of_not_reached hd
    | some old =>
      rw [hn] at hms
      cases hms
      show 0 < if d - now < old then d - now else old
      split
      · exact pos_of_not_reached hd
      · exact hnext old hn

/-! ## Client transactions -/

/-- What is known of a client transaction in any state. -/
def Sendable (x : UdpTransaction) : Prop := x.ip ≠ 0 ∧ x.port ≠ 0 ∧ 0 < x.intervalMs

/-- What is known of a client transaction that was just pumped. -/
structure Waiting (clock : Nat) (x : UdpTransaction) : Prop where
  sendable : Sendable x
  deadline : timeReached (millis clock) x.deadlineMs = false
  next : x.udp = true → x.completed = false → timeReached (millis clock) x.nextMs = false

theorem closed_sendable (clock : Nat) : Closed clock Sendable :=
  ⟨fun _ _ _ _ hip hport => ⟨hip, hport, Nat.succ_pos 499⟩, fun _ h => h⟩

theorem closed_waiting (clock : Nat) : Closed clock (Waiting clock) := by
  refine ⟨fun request ip port udp hip hport => ?_, fun x h => ?_⟩
  · exact ⟨⟨hip, hport, Nat.succ_pos 499⟩, timeReached_delay _ (by decide) (by decide),
      fun _ _ => timeReached_delay _ (by decide) (by decide)⟩
  · exact ⟨h.sendable, h.deadline, fun _ hcompleted => nomatch hcompleted⟩

/-- The next time of a message that backs off lies ahead. -/
theorem not_reached_backOff {now deadline : UInt32} (hdeadline : timeReached now deadline = false)
    {interval limit : Nat} (hinterval : 0 < interval) (hpos : 0 < limit)
    (hlimit : limit ≤ 2147483648) :
    timeReached now (backOff now deadline interval limit).2 = false := by
  unfold backOff
  dsimp only
  split
  · exact hdeadline
  · exact timeReached_delay now (by omega) (by omega)

theorem pumps_waiting (clock : Nat) : Pumps clock Sendable (Waiting clock) := by
  intro x y hx hy
  obtain ⟨hip, hport, hinterval⟩ := hx
  have hends : ¬(x.ip = 0 ∨ x.port = 0) := not_or.2 ⟨hip, hport⟩
  unfold UdpTransaction.pumped at hy
  rw [if_neg hends] at hy
  split at hy
  · cases hy
  · rename_i hdeadline
    have hdeadline' := Bool.eq_false_iff.2 hdeadline
    split at hy
    · rename_i hnext
      cases hy
      exact ⟨⟨hip, hport, hinterval⟩, hdeadline', fun _ _ => hnext⟩
    · split at hy
      · rename_i hquiet
        cases hy
        exact ⟨⟨hip, hport, hinterval⟩, hdeadline', fun _ _ => hdeadline'⟩
      · cases hy
        exact ⟨⟨hip, hport, backOff_pos (millis clock) x.deadlineMs hinterval (by decide)⟩,
          hdeadline',
          fun _ _ => not_reached_backOff hdeadline' hinterval (by decide) (by decide)⟩

theorem Waiting.selectDeadline {clock : Nat} {x : UdpTransaction} (h : Waiting clock x) :
    timeReached (millis clock) x.selectDeadline = false := by
  unfold UdpTransaction.selectDeadline
  split
  · rename_i hretransmits
    simp only [Bool.and_eq_true, Bool.not_eq_true'] at hretransmits
    exact h.next hretransmits.1 hretransmits.2
  · exact h.deadline

/-- The client transactions of any state can be sent. -/
theorem timely_runFrom (w : World) (c : Setup) (es : List Event) :
    Timely (idleWatch (runFrom w c es).clock false Sendable) (runFrom w c es) := by
  have hpumps (clock : Nat) : Pumps clock Sendable Sendable := fun x y hx hy =>
    (pumps_waiting clock x y hx hy).sendable
  have hstep (e : Event) (t : Transport) (ht : Timely (idleWatch t.clock false Sendable) t) :
      Timely (idleWatch (step w e t).clock false Sendable) (step w e t) := by
    have hidle : Idle (idleWatch t.clock false Sendable) :=
      idle_idleWatch (closed_sendable _) (hpumps _)
    by_cases hpump : e = .pump
    · subst hpump
      have hpumped := ht.pumpUdpRetransmits (w := w) (closed_sendable _)
        (closed_sendable _) (hpumps _)
      have hclock : (step w .pump t).clock = t.clock := hpumped.clock
      rw [hclock]
      exact hpumped
    · by_cases helapse : ∃ ms, e = .elapse ms
      · obtain ⟨ms, rfl⟩ := helapse
        exact ht.elapse ms fun _ hx => hx
      · have hkept := ht.step (w := w) hidle e hpump (fun ms he => helapse ⟨ms, he⟩)
          (fun ho => nomatch ho)
        have hclock : (step w e t).clock = t.clock := hkept.clock
        rw [hclock]
        exact hkept
  exact EventRun.invariant_of_step (step w) hstep (timely_boot c false Sendable) es

/-- No client transaction that was pumped has a deadline that is reached. -/
theorem Timely.selectClients {clock : Nat} (h : Timely (idleWatch clock false (Waiting clock)) t) :
    ∀ x ∈ t.selectClients, Waiting clock x := by
  intro x hx
  have hown := h.own
  have hsecond : ∀ r ∈ t.referDialog, ∀ x ∈ r.dialog.pendingInvite.toList ++
      r.dialog.pendingCancel.toList ++ r.dialog.pendingBye.toList ++ r.pendingNotify.toList ++
      r.pendingNotifyFinal.toList, Waiting clock x := by
    intro r hr x hx
    have hother := h.other r hr
    obtain ⟨hfirst, hfinal⟩ := h.notify r hr
    simp only [List.mem_append, Option.mem_toList] at hx
    obtain (((hinvite | hcancel) | hbye) | hnotify) | hnotifyFinal := hx
    · -- The INVITE of a second dialog that has not answered is outstanding.
      exact hother.invite ((hother.calling (by rw [hinvite]; rfl)).2.2.2.2 rfl) x hinvite
    · exact hother.cancel x hcancel
    · exact hother.bye x hbye
    · exact hfirst x hnotify
    · exact hfinal x hnotifyFinal
  unfold Transport.selectClients at hx
  rcases List.mem_append.1 hx with hx | hx
  · simp only [List.mem_append, Option.mem_toList] at hx
    obtain ((hinvite | hcancel) | hbye) | hupdate := hx
    · split at hinvite
      · rename_i hout
        exact hown.invite hout x (Option.mem_toList.1 hinvite)
      · cases hinvite
    · exact hown.cancel x hcancel
    · exact hown.bye x hbye
    · exact hown.update x hupdate
  · cases hr : t.referDialog with
    | none =>
      rw [hr] at hx
      cases hx
    | some r =>
      rw [hr] at hx
      exact hsecond r hr x hx

/-! ## Records -/

theorem shelf_setClient (slot : ClientSlot) (x : Option UdpTransaction) :
    (t.setClient slot x).shelf = t.shelf := by
  cases slot <;> first | rfl | (unfold setClient shelf; cases t.referDialog <;> rfl)

theorem shelf_pumpClient (slot : ClientSlot) : (t.pumpClient w slot).2.shelf = t.shelf := by
  unfold pumpClient
  split
  · rfl
  · dsimp only
    repeat' split
    · rfl
    · exact shelf_setClient slot _
    · rfl
    · exact shelf_setClient slot _
    · exact (shelf_setClient slot _).trans (sent_sendAgain _ _ _).shelf

/-- The pump of the client transactions leaves the records. -/
theorem shelf_pumpClients : (t.pumpClients w).2.shelf = t.shelf := by
  have hinvite (o : PumpOutcome) : (pumpInvite w (o, t)).2.shelf = t.shelf := by
    unfold pumpInvite
    dsimp only
    repeat' split
    · exact shelf_pumpClient .invite
    · exact shelf_pumpClient .invite
    · rfl
  have hterminal (r : PumpOutcome × Transport) (slot : ClientSlot) :
      (pumpTerminal w slot r).2.shelf = r.2.shelf := shelf_pumpClient slot
  have hquiet (r : PumpOutcome × Transport) (slot : ClientSlot) :
      (pumpQuiet w slot r).2.shelf = r.2.shelf := shelf_pumpClient slot
  have hdialog : (pumpQuiet w .update (pumpTerminal w .bye (pumpTerminal w .cancel
      (pumpInvite w ({}, t))))).2.shelf = t.shelf :=
    (hquiet _ _).trans ((hterminal _ _).trans ((hterminal _ _).trans (hinvite {})))
  unfold pumpClients
  dsimp only
  split
  · exact hdialog
  · exact (hquiet _ _).trans ((hquiet _ _).trans hdialog)

/-- A provisional response that was not sent waits for its next try. -/
theorem sheds_pumpProvisional (hinterval : ∀ p ∈ t.pendingProvisionalResponse, 0 < p.intervalMs) :
    ∃ q, Sheds { t with pendingProvisionalResponse := q } (t.pumpProvisional w) ∧
      ∀ p ∈ q, timeReached t.now p.nextMs = false := by
  unfold pumpProvisional
  cases hp : t.pendingProvisionalResponse with
  | none => exact ⟨none, .of_shelf (by unfold shelf; rw [hp]), fun _ hq => (nomatch hq)⟩
  | some p =>
    have hsent : (t.sendAgain w (.udp p.ip p.port) p.response p.ip p.port).2.shelf = t.shelf :=
      (sent_sendAgain _ _ _).shelf
    have hput (u : Transport) (hu : u.shelf = t.shelf) (q : Option DeferredUdpResponse) :
        Sheds { t with pendingProvisionalResponse := q }
          { u with pendingProvisionalResponse := q } := by
      refine .of_shelf ?_
      have hshelf (u : Transport) : ({ u with pendingProvisionalResponse := q } :
          Transport).shelf = { u.shelf with pendingProvisionalResponse := q } := rfl
      rw [hshelf, hshelf, hu]
    dsimp only
    split
    · rename_i hnext
      refine ⟨some p, .of_shelf (by unfold shelf; rw [hp]), ?_⟩
      rintro q ⟨rfl⟩
      exact hnext
    · split
      · exact ⟨none, .refl _, fun _ hq => (nomatch hq)⟩
      · rename_i hdeadline
        split
        · exact ⟨none, hput _ hsent none, fun _ hq => (nomatch hq)⟩
        · refine ⟨_, hput _ hsent _, ?_⟩
          rintro q ⟨rfl⟩
          exact not_reached_backOff (Bool.eq_false_iff.2 hdeadline) (hinterval p hp) (by decide)
            (by decide)

/-- A final response that awaits its ACK waits for its next time. -/
theorem sheds_pumpFinal (hinterval : ∀ c ∈ t.dialog.completedInvite, 0 < c.retransmitIntervalMs)
    (o : PumpOutcome) : ∃ q, Sheds (t.setCompletedInvite q) (pumpFinal w (o, t)).2 ∧
      ∀ c ∈ q, c.awaitingAck = true → timeReached t.now c.selectDeadline = false := by
  have hkept (q : Option CompletedServerTransaction) (hq : t.dialog.completedInvite = q) :
      Sheds (t.setCompletedInvite q) t := by
    rw [← hq]
    exact .refl t
  unfold pumpFinal
  dsimp only
  cases hc : t.dialog.completedInvite with
  | none => exact ⟨none, hkept none hc, fun _ hq => (nomatch hq)⟩
  | some c =>
    dsimp only
    split
    · -- The ACK has come, so that no time is waited for.
      rename_i hack
      refine ⟨some c, hkept _ hc, ?_⟩
      rintro c' ⟨rfl⟩ hawaits
      rw [hack] at hawaits
      cases hawaits
    · split
      · -- The deadline has passed: the response waits for its ACK no longer.
        refine ⟨some { c with awaitingAck := false }, ?_, ?_⟩
        · unfold expireAck
          dsimp only
          repeat' split
          all_goals exact .of_shelf rfl
        · rintro c' ⟨rfl⟩ hawaits
          cases hawaits
      · rename_i hdeadline
        have hdeadline' := Bool.eq_false_iff.2 hdeadline
        split
        · -- It is sent again, and its interval doubles.
          have hsent : (t.sendAgain w c.flow c.response c.peerIp c.peerPort).2.shelf = t.shelf :=
            (sent_sendAgain _ _ _).shelf
          have hput (u : Transport) (hu : u.shelf = t.shelf)
              (q : Option CompletedServerTransaction) :
              Sheds (t.setCompletedInvite q) (u.setCompletedInvite q) := by
            refine .of_shelf ?_
            have hshelf (u : Transport) : (u.setCompletedInvite q).shelf =
                u.shelf.setCompletedInvite q := rfl
            rw [hshelf, hshelf, hu]
          refine ⟨_, hput _ hsent _, ?_⟩
          rintro c' ⟨rfl⟩ _
          unfold CompletedServerTransaction.selectDeadline
          dsimp only
          split
          · exact not_reached_backOff hdeadline' (hinterval c hc) (by decide) (by decide)
          · exact hdeadline'
        · -- Its next time has not come yet.
          rename_i hidle
          refine ⟨some c, hkept _ hc, ?_⟩
          rintro c' ⟨rfl⟩ _
          unfold CompletedServerTransaction.selectDeadline
          split
          · rename_i hretransmits
            refine Bool.eq_false_iff.2 fun hnext => hidle ⟨?_, hnext⟩
            simpa using hretransmits
          · exact hdeadline'

/-! ## The direction change -/

theorem Sheds.setPendingDirection (h : Sheds t u) (q : Option PendingVideoDirectionInvite) :
    Sheds (t.setPendingDirection q) (u.setPendingDirection q) :=
  { h with direction := fun _ hp => hp }

theorem isSome_sendRequestFormatted {method : Method} {body : String} {options : SipRequestOptions}
    (h : (t.sendRequestFormatted w method body options).1 = true) :
    (t.sendRequestFormatted w method body options).2.1.isSome = true := by
  unfold sendRequestFormatted at h ⊢
  split at h
  · cases h
  · rename_i hready
    rw [if_neg hready]
    rfl

/-- A re-INVITE that was sent waits for its first retransmission or for its response. -/
theorem sheds_offerDirection {proposal : PendingVideoDirectionInvite}
    (hproposal : proposal.waitingRetry = false) :
    ((t.offerDirection w proposal).1 = false ∧ Sheds t (t.offerDirection w proposal).2) ∨
      ((t.offerDirection w proposal).1 = true ∧ ∃ q,
        Sheds (t.setPendingDirection (some q)) (t.offerDirection w proposal).2 ∧
          timeReached t.now q.selectDeadline = false) := by
  unfold offerDirection
  dsimp only
  generalize hu : ({ t.rememberDirectionOffer w proposal.offeredSdp with
    dialog := _ } : Transport).makeToken w "" = token
  -- Neither the token nor the request touches what else is waited for.
  have htoken : (token.2.setVideoSendRequested proposal.targetSend).shelf = t.shelf := by
    rw [← hu]
    rfl
  generalize hs : (token.2.setVideoSendRequested proposal.targetSend).sendRequestFormatted w
    .invite proposal.offeredSdp
    { cseqNumber := (t.rememberDirectionOffer w proposal.offeredSdp).dialog.cseq
      branchOverride := "z9hG4bK" ++ token.1
      rememberTransaction := false
      rememberInviteAck := false } = sent
  have hsent : sent.2.2.shelf = t.shelf := by
    rw [← hs]
    exact (shelf_sendRequestFormatted (by decide) _ _).trans htoken
  have hnow : sent.2.2.now = t.now := (Sheds.of_shelf hsent).now
  split
  · rename_i hok
    -- What was sent is remembered with its first interval.
    have hsome : sent.2.1.isSome = true := by
      rw [← hs] at hok ⊢
      exact isSome_sendRequestFormatted hok
    obtain ⟨request, hrequest⟩ := Option.isSome_iff_exists.1 hsome
    refine .inr ⟨rfl, _, (Sheds.of_shelf hsent).setPendingDirection _, ?_⟩
    unfold PendingVideoDirectionInvite.selectDeadline pendingDirectionOf
    dsimp only
    rw [hproposal, hrequest, hnow]
    dsimp only [Option.map_some, Option.elim_some]
    rw [if_neg Bool.false_ne_true]
    split
    · show timeReached t.now (sent.2.2.now + _) = false
      rw [hnow]
      exact timeReached_delay _ (by decide) (by decide)
    · exact timeReached_delay _ (by decide) (by decide)
  · exact .inl ⟨rfl, Sheds.of_shelf hsent⟩

theorem waitingRetry_directionProposal (enabled retry : Bool) :
    (t.directionProposal w enabled retry).waitingRetry = false := by
  unfold directionProposal
  split <;> rfl

theorem sheds_sendVideoDirectionReinvite (enabled retry : Bool) :
    ((t.sendVideoDirectionReinvite w enabled retry).1 = false ∧
        Sheds t (t.sendVideoDirectionReinvite w enabled retry).2) ∨
      ((t.sendVideoDirectionReinvite w enabled retry).1 = true ∧ ∃ q,
        Sheds (t.setPendingDirection (some q)) (t.sendVideoDirectionReinvite w enabled retry).2 ∧
          timeReached t.now q.selectDeadline = false) := by
  unfold sendVideoDirectionReinvite
  split
  · exact .inl ⟨rfl, .refl t⟩
  · dsimp only
    split
    · exact .inl ⟨rfl, .refl t⟩
    · exact sheds_offerDirection (waitingRetry_directionProposal enabled retry)

/-- A direction change waits for its response, or for its retry. -/
theorem sheds_pumpVideoDirection (hdirection : ∀ p ∈ t.video.pendingDirection,
    p.waitingRetry = false → ∃ x, p.transaction = some x ∧ 0 < x.intervalMs) :
    ∃ q, Sheds (t.setPendingDirection q) (t.pumpVideoDirection w) ∧
      ∀ p ∈ q, timeReached t.now p.selectDeadline = false := by
  have hkept (q : Option PendingVideoDirectionInvite) (hq : t.video.pendingDirection = q) :
      Sheds (t.setPendingDirection q) t := by
    rw [← hq]
    exact .refl t
  -- An abandoned change waits for nothing.
  have habandon (u : Transport) (p : PendingVideoDirectionInvite) (hu : Sheds t u) :
      Sheds (t.setPendingDirection none) (u.abandonDirection p) :=
    (hu.setPendingDirection none).congr rfl
  unfold pumpVideoDirection
  cases hp : t.video.pendingDirection with
  | none => exact ⟨none, hkept none hp, fun _ hq => (nomatch hq)⟩
  | some p =>
    dsimp only
    split
    · -- It waits for its retry, which is sent when its time has come.
      rename_i hwaiting
      split
      · rcases sheds_sendVideoDirectionReinvite (w := w) (t := t) p.targetSend true with
          ⟨hfailed, hsent⟩ | ⟨hok, q, hsent, hq⟩
        · rw [if_neg fun hok => Bool.false_ne_true (hfailed.symm.trans hok)]
          exact ⟨none, habandon _ p hsent, fun _ hq => (nomatch hq)⟩
        · rw [if_pos hok]
          refine ⟨some q, hsent, ?_⟩
          rintro q' ⟨rfl⟩
          exact hq
      · rename_i hretry
        refine ⟨some p, hkept _ hp, ?_⟩
        rintro q ⟨rfl⟩
        unfold PendingVideoDirectionInvite.selectDeadline
        rw [if_pos hwaiting]
        exact Bool.eq_false_iff.2 hretry
    · -- It waits for its response.
      rename_i hwaiting
      obtain ⟨x, hx, hinterval⟩ := hdirection p hp (Bool.eq_false_iff.2 hwaiting)
      split
      · exact ⟨none, (habandon t p (.refl t)).trans (sheds_endDialog _ _ _ _),
          fun _ hq => (nomatch hq)⟩
      · rename_i hdeadline
        have hdeadline' := Bool.eq_false_iff.2 hdeadline
        unfold retransmitDirection
        rw [hx]
        dsimp only
        split
        · -- Nothing is to be sent now.
          rename_i hidle
          refine ⟨some p, hkept _ hp, ?_⟩
          rintro q ⟨rfl⟩
          unfold PendingVideoDirectionInvite.selectDeadline
          rw [if_neg hwaiting, hx]
          dsimp only [Option.elim_some]
          split
          · rename_i hretransmits
            simp only [Bool.and_eq_true, Bool.not_eq_true'] at hretransmits
            rcases hidle with hudp | hcompleted | hnext
            · exact absurd (hudp.symm.trans hretransmits.1) Bool.false_ne_true
            · exact absurd (hretransmits.2.symm.trans hcompleted) Bool.false_ne_true
            · exact hnext
          · exact hdeadline'
        · -- It is sent again, and its interval doubles.
          have hsent : Sheds t (t.sendAgain w (.udp x.ip x.port) x.request x.ip x.port).2 :=
            .of_shelf (sent_sendAgain _ _ _).shelf
          refine ⟨_, hsent.setPendingDirection _, ?_⟩
          rintro q ⟨rfl⟩
          unfold PendingVideoDirectionInvite.selectDeadline
          rw [if_neg hwaiting]
          dsimp only [Option.elim_some]
          split
          · exact not_reached_backOff hdeadline' hinterval (by decide) (by decide)
          · exact hdeadline'

/-! ## The transfer -/

/-- The records of finished transfers have not expired. -/
def RefersKept (t : Transport) : Prop :=
  ∀ c, some c ∈ t.completedRefers → timeReached t.now c.expiresMs = false

theorem refersKept_expireRefers : t.expireRefers.RefersKept := by
  intro c hc
  obtain ⟨old, _, hkept⟩ := List.mem_map.1 hc
  have hlasts := (Option.filter_eq_some_iff.1 hkept).2
  have hnow : t.expireRefers.now = t.now := rfl
  rw [hnow]
  simpa using hlasts

theorem RefersKept.congr (h : t.RefersKept) (hrefers : u.completedRefers = t.completedRefers)
    (hnow : u.now = t.now) : u.RefersKept := by
  intro c hc
  rw [hnow]
  exact h c (hrefers ▸ hc)

theorem completedRefers_pumpServers (h : Timely k t) (o : PumpOutcome) :
    (pumpServers w (o, t)).completedRefers = t.completedRefers := by
  have hprovisional : (t.pumpProvisional w).completedRefers = t.completedRefers := by
    obtain ⟨q, hq, _⟩ := sheds_pumpProvisional (w := w) h.provisional
    exact hq.refers
  have hfinal : (pumpFinal w (o, t.pumpProvisional w)).2.completedRefers =
      (t.pumpProvisional w).completedRefers := by
    obtain ⟨q, hq, _⟩ := sheds_pumpFinal (w := w) (h.pumpProvisional (w := w)).own.final o
    exact hq.refers
  have hdirection : ((pumpFinal w (o, t.pumpProvisional w)).2.pumpVideoDirection
    w).completedRefers =
      (pumpFinal w (o, t.pumpProvisional w)).2.completedRefers := by
    obtain ⟨q, hq, _⟩ := sheds_pumpVideoDirection (w := w)
      ((h.pumpProvisional (w := w)).pumpFinal (w := w) o).direction
    exact hq.refers
  have hexpired (u : Transport) : u.expireCompleted.completedRefers = u.completedRefers := by
    unfold expireCompleted
    dsimp only
    split <;> rfl
  unfold pumpServers
  dsimp only
  rw [(sheds_settleTimeouts _).refers, hexpired, hdirection, hfinal, hprovisional]

/-- The pump of the second dialog leaves the records of finished transfers. -/
theorem completedRefers_pumpCandidate (h : Timely k t) {Q : UdpTransaction → Prop}
    (hpump : Pumps k.clock k.own Q) :
    (pumpUdpWith w id t).completedRefers = t.completedRefers := by
  have hclients := h.pumpClients (w := w) hpump (N := fun _ => True) fun _ _ _ _ => trivial
  have hservers := completedRefers_pumpServers (w := w) hclients (t.pumpClients w).1
  exact hservers.trans (Sheds.of_shelf shelf_pumpClients).refers

theorem completedRefers_enterRefer : t.enterRefer.completedRefers = t.completedRefers := by
  unfold enterRefer swapRefer openProposal
  dsimp only
  split <;> rfl

theorem completedRefers_leaveRefer : t.leaveRefer.completedRefers = t.completedRefers := by
  unfold leaveRefer swapRefer closeProposal
  dsimp only
  split <;> rfl

/-- Without an answer of the second dialog the transfer is at most given up. -/
theorem sheds_handleReferSignal (h : t.answered = false) :
    Sheds t (t.handleReferSignal w).2 := by
  have hheard : Sheds t { t with referSignalPending := false } := .of_shelf rfl
  unfold handleReferSignal
  split
  · exact .refl t
  · rename_i hgoes
    simp only [not_or, Bool.not_eq_true, Bool.not_eq_false] at hgoes
    have htype : t.referSignalType ≠ .status200Ok := by
      intro htype
      simp [answered, hgoes, htype] at h
    dsimp only
    rw [if_neg fun hanswer => htype hanswer.1]
    split
    · exact hheard.trans (sheds_finishFailedRefer _ _)
    · exact hheard

theorem RefersKept.releaseReferDialog (h : t.RefersKept) : t.releaseReferDialog.RefersKept := by
  unfold Transport.releaseReferDialog
  split
  · exact h
  · exact h

/-- The records of a transfer that is done are kept for as long as those of a dialog. -/
theorem RefersKept.keepRefer (h : t.RefersKept) (r : ReferDialog) :
    (t.keepRefer w r).RefersKept := by
  unfold Transport.keepRefer
  split
  · exact h
  · rename_i i _
    dsimp only
    split
    · refine RefersKept.releaseReferDialog ?_
      intro c hc
      rcases List.mem_or_eq_of_mem_set hc with hold | hnew
      · exact h c hold
      · cases hnew
        exact timeReached_delay _ (by decide) (by decide)
    · exact h

theorem RefersKept.retireRefer (h : t.RefersKept) : (t.retireRefer w).RefersKept := by
  unfold Transport.retireRefer
  split
  · exact h
  · split
    · split
      · exact h.keepRefer _
      · exact h.releaseReferDialog
    · exact h

/-- A transfer that takes too long is over. -/
theorem lasts_expireRefer (h : t.expireRefer.referDialog.isSome = true) :
    timeReached t.expireRefer.now t.expireRefer.referExpires = false := by
  unfold expireRefer at h ⊢
  split at h
  · rename_i hover
    obtain ⟨r, hr⟩ := Option.isSome_iff_exists.1 hover.1
    have hnone : t.releaseReferDialog.referDialog = none := by
      unfold releaseReferDialog
      rw [hr]
      rfl
    rw [hnone] at h
    cases h
  · rename_i hlasts
    rw [if_neg hlasts]
    exact Bool.eq_false_iff.2 fun hover => hlasts ⟨h, hover⟩

/-- The pump of a transfer leaves no deadline of transfers behind. -/
theorem refers_pumpRefer {O : UdpTransaction → Prop} (hk : k.Closed)
    (h : Timely { k with other := O } t) (hO : Closed k.clock O)
    (hpump : Pumps k.clock O k.other) (hscope : k.scope = false) (hcalm : k.calm = true) :
    (t.pumpRefer w).RefersKept ∧ ((t.pumpRefer w).referDialog.isSome = true →
      timeReached (t.pumpRefer w).now (t.pumpRefer w).referExpires = false) := by
  have hexpired : Timely { k with other := O } t.expireRefers := h.congr agenda_expireRefers
  have hkept := refersKept_expireRefers (t := t)
  unfold pumpRefer
  rw [h.scope.trans hscope, if_neg Bool.false_ne_true]
  dsimp only
  generalize t.expireRefers = v at hexpired hkept
  split
  · rename_i hsome
    have hpumped : Timely k ((v.inRefer (pumpUdpWith w id)).retireOrphan w) :=
      hexpired.pumpOther hk hO hpump hscope hsome
    have hentered : Timely ({ k with other := O } : Watch).entered v.enterRefer :=
      hexpired.enterRefer hscope hsome
    have hrefers : ((v.inRefer (pumpUdpWith w id)).retireOrphan w).completedRefers =
        v.completedRefers := by
      rw [sheds_retireOrphan.refers, inRefer, completedRefers_leaveRefer,
        completedRefers_pumpCandidate hentered hpump, completedRefers_enterRefer]
    have hwaiting := hkept.congr hrefers (hpumped.now.trans hexpired.now.symm)
    unfold advanceRefer
    dsimp only
    generalize (v.inRefer (pumpUdpWith w id)).retireOrphan w = u at hpumped hwaiting
    have hcalm' : u.answered = false := hpumped.calm hcalm
    rw [if_pos (handleReferSignal_of_calm hcalm')]
    have hhandled := sheds_handleReferSignal (w := w) hcalm'
    have hretired : ((u.handleReferSignal w).2.retireRefer w).RefersKept :=
      (hwaiting.congr hhandled.refers hhandled.now).retireRefer
    refine ⟨?_, lasts_expireRefer⟩
    unfold expireRefer
    split
    · exact hretired.releaseReferDialog
    · exact hretired
  · rename_i hnone
    exact ⟨hkept, fun hsome => absurd hsome hnone⟩

/-! ## After a pump -/

/-- No deadline of a record is reached. -/
structure Served (t : Transport) : Prop where
  expires : t.referDialog.isSome = true → timeReached t.now t.referExpires = false
  refers : t.RefersKept
  invite : ∀ c ∈ t.dialog.completedInvite, timeReached t.now (expiryOf c.completedMs) = false
  control : ∀ c ∈ t.dialog.completedControl, timeReached t.now (expiryOf c.completedMs) = false
  inviteClient : ∀ c ∈ t.dialog.completedInviteClient,
    timeReached t.now (expiryOf c.completedMs) = false
  completedDirection : ∀ c ∈ t.video.completedDirection,
    timeReached t.now (expiryOf c.completedMs) = false
  provisional : ∀ p ∈ t.pendingProvisionalResponse, timeReached t.now p.nextMs = false
  final : ∀ c ∈ t.dialog.completedInvite, c.awaitingAck = true →
    timeReached t.now c.selectDeadline = false
  direction : ∀ p ∈ t.video.pendingDirection, timeReached t.now p.selectDeadline = false

theorem Sheds.completedInvite (h : Sheds t u) :
    u.dialog.completedInvite = t.dialog.completedInvite := by
  have hinvite := congrArg Dialog.completedInvite h.own
  exact hinvite

theorem Sheds.isSome (h : Sheds t u) : u.referDialog.isSome = t.referDialog.isSome := by
  have hother := congrArg Option.isSome h.other
  rw [Option.isSome_map, Option.isSome_map] at hother
  exact hother

/-- What is dropped has no deadline. -/
theorem Served.sheds (h : Served t) (hu : Sheds t u) : Served u := by
  have hinvite := hu.completedInvite
  have hcontrol : u.dialog.completedControl = t.dialog.completedControl := by
    have heq := congrArg Dialog.completedControl hu.own
    exact heq
  have hclient : u.dialog.completedInviteClient = t.dialog.completedInviteClient := by
    have heq := congrArg Dialog.completedInviteClient hu.own
    exact heq
  constructor
  · rw [hu.isSome, hu.now, hu.expires]
    exact h.expires
  · exact h.refers.congr hu.refers hu.now
  · rw [hinvite, hu.now]
    exact h.invite
  · rw [hcontrol, hu.now]
    exact h.control
  · rw [hclient, hu.now]
    exact h.inviteClient
  · rw [hu.completedDirection, hu.now]
    exact h.completedDirection
  · rw [hu.now]
    exact fun p hp => h.provisional p (hu.provisional p hp)
  · rw [hinvite, hu.now]
    exact h.final
  · rw [hu.now]
    exact fun p hp => h.direction p (hu.direction p hp)

/-- The records that have expired are dropped. -/
theorem served_expireCompleted
    (hexpires : t.referDialog.isSome = true → timeReached t.now t.referExpires = false)
    (hrefers : t.RefersKept)
    (hprovisional : ∀ p ∈ t.pendingProvisionalResponse, timeReached t.now p.nextMs = false)
    (hfinal : ∀ c ∈ t.dialog.completedInvite, c.awaitingAck = true →
      timeReached t.now c.selectDeadline = false)
    (hdirection : ∀ p ∈ t.video.pendingDirection, timeReached t.now p.selectDeadline = false) :
    Served t.expireCompleted := by
  have hlog : ∃ log, t.expireCompleted = { t with
      dialog := { t.dialog with
        completedInvite := keepServer t.now t.dialog.completedInvite
        completedControl := keepServer t.now t.dialog.completedControl
        completedInviteClient := keepClient t.now t.dialog.completedInviteClient }
      video := { t.video with
        completedDirection := keepClient t.now t.video.completedDirection }
      log := log } := by
    unfold expireCompleted
    dsimp only
    split
    · exact ⟨_, rfl⟩
    · exact ⟨_, rfl⟩
  have hserver {o : Option CompletedServerTransaction} {c : CompletedServerTransaction}
      (hc : c ∈ keepServer t.now o) :
      c ∈ o ∧ timeReached t.now (expiryOf c.completedMs) = false := by
    obtain ⟨hold, hlasts⟩ := Option.filter_eq_some_iff.1 hc
    simp only [Bool.not_eq_true'] at hlasts
    exact ⟨hold, hlasts⟩
  have hclient {o : Option CompletedInviteClientTransaction} {c : CompletedInviteClientTransaction}
      (hc : c ∈ keepClient t.now o) : timeReached t.now (expiryOf c.completedMs) = false := by
    have hlasts := (Option.filter_eq_some_iff.1 hc).2
    simp only [Bool.not_eq_true'] at hlasts
    exact hlasts
  obtain ⟨log, he⟩ := hlog
  rw [he]
  exact ⟨hexpires, hrefers, fun c hc => (hserver hc).2, fun c hc => (hserver hc).2,
    fun c hc => hclient hc, fun c hc => hclient hc, hprovisional,
    fun c hc => hfinal c (hserver hc).1, hdirection⟩

/-- The part of a pump after the transfer leaves no deadline of a record behind. -/
theorem served_pumpServers (h : Timely k t) (hrefers : t.RefersKept)
    (hexpires : t.referDialog.isSome = true → timeReached t.now t.referExpires = false)
    (o : PumpOutcome) : Served (pumpServers w (o, t)) := by
  have hprovisional := h.pumpProvisional (w := w)
  have hfinal := hprovisional.pumpFinal (w := w) o
  obtain ⟨p, hp, hpLater⟩ := sheds_pumpProvisional (w := w) h.provisional
  obtain ⟨c, hc, hcLater⟩ := sheds_pumpFinal (w := w) hprovisional.own.final o
  obtain ⟨q, hq, hqLater⟩ := sheds_pumpVideoDirection (w := w) hfinal.direction
  have hnow₁ : (t.pumpProvisional w).now = t.now := hp.now
  have hnow₂ : (pumpFinal w (o, t.pumpProvisional w)).2.now = t.now := hc.now.trans hnow₁
  have hnow₃ : ((pumpFinal w (o, t.pumpProvisional w)).2.pumpVideoDirection w).now = t.now :=
    hq.now.trans hnow₂
  unfold pumpServers
  dsimp only
  refine Served.sheds (served_expireCompleted ?_ ?_ ?_ ?_ ?_) (sheds_settleTimeouts _)
  · rw [hq.isSome, hq.expires, hnow₃]
    show (pumpFinal w (o, t.pumpProvisional w)).2.referDialog.isSome = true → timeReached t.now
      (pumpFinal w (o, t.pumpProvisional w)).2.referExpires = false
    rw [hc.isSome, hc.expires]
    show (t.pumpProvisional w).referDialog.isSome = true →
      timeReached t.now (t.pumpProvisional w).referExpires = false
    rw [hp.isSome, hp.expires]
    exact hexpires
  · exact hrefers.congr (hq.refers.trans (hc.refers.trans hp.refers)) hnow₃
  · rw [hnow₃]
    exact fun r hr => hpLater r (hp.provisional r (hc.provisional r (hq.provisional r hr)))
  · have hinvite := hq.completedInvite.trans hc.completedInvite
    rw [hinvite, hnow₃, ← hnow₁]
    exact hcLater
  · rw [hnow₃, ← hnow₂]
    exact fun r hr => hqLater r (hq.direction r hr)

/-- After a pump no deadline that the SIP task reads is reached. -/
theorem not_reached_sipDeadlines (hclients : ∀ x ∈ t.selectClients, Waiting t.clock x)
    (h : Served t) : ∀ d ∈ t.sipDeadlines, timeReached t.now d = false := by
  have hexpiries : ∀ d ∈ t.selectExpiries, timeReached t.now d = false := by
    intro d hd
    unfold selectExpiries at hd
    simp only [List.mem_append, List.mem_map, Option.mem_toList] at hd
    obtain ((((hexpires | hrefers) | hinvite) | hcontrol) | hclient) | hdirection := hd
    · split at hexpires
      · rename_i hsome
        rw [List.mem_singleton.1 hexpires]
        exact h.expires hsome
      · cases hexpires
    · obtain ⟨c, hc, rfl⟩ := hrefers
      obtain ⟨o, ho, rfl⟩ := List.mem_filterMap.1 hc
      exact h.refers c ho
    · obtain ⟨c, hc, rfl⟩ := hinvite
      exact h.invite c hc
    · obtain ⟨c, hc, rfl⟩ := hcontrol
      exact h.control c hc
    · obtain ⟨c, hc, rfl⟩ := hclient
      exact h.inviteClient c hc
    · obtain ⟨c, hc, rfl⟩ := hdirection
      exact h.completedDirection c hc
  intro d hd
  unfold sipDeadlines at hd
  simp only [List.mem_append, List.mem_map, Option.mem_toList] at hd
  obtain (((hclient | hexpiry) | hprovisional) | hfinal) | hdirection := hd
  · obtain ⟨x, hx, rfl⟩ := hclient
    exact (hclients x hx).selectDeadline
  · exact hexpiries d hexpiry
  · obtain ⟨p, hp, rfl⟩ := hprovisional
    exact h.provisional p hp
  · obtain ⟨c, hc, rfl⟩ := hfinal
    obtain ⟨hkept, hawaits⟩ := Option.filter_eq_some_iff.1 hc
    exact h.final c hkept hawaits
  · obtain ⟨p, hp, rfl⟩ := hdirection
    exact h.direction p hp

theorem served_pumpUdpRetransmits {clock : Nat} (h : Timely (idleWatch clock false Sendable) t) :
    Served (t.pumpUdpRetransmits w) := by
  have hwaiting : (idleWatch clock false (Waiting clock)).Closed :=
    ⟨closed_waiting clock, closed_waiting clock, closed_waiting clock⟩
  have hclients : Timely { idleWatch clock false (Waiting clock) with other := Sendable }
      (t.pumpClients w).2 := h.pumpClients (pumps_waiting clock) (pumps_waiting clock)
  have hrefer : Timely (idleWatch clock false (Waiting clock)) ((t.pumpClients w).2.pumpRefer w) :=
    hclients.unsettle.pumpRefer hwaiting (closed_sendable clock) (pumps_waiting clock) rfl rfl
      fun _ => hclients.calm rfl
  obtain ⟨hkept, hexpires⟩ := refers_pumpRefer (w := w) (k := idleWatch clock false (Waiting clock))
    hwaiting hclients (closed_sendable clock) (pumps_waiting clock) rfl rfl
  exact served_pumpServers hrefer hkept hexpires _

/-- In every state of every run, once the pump has run no deadline that the SIP task reads is
    reached, so that it sleeps for a positive time. -/
theorem select_never_spins (w : World) (c : Setup) (es : List Event) :
    (∀ d ∈ ((runFrom w c es).pumpUdpRetransmits w).sipDeadlines,
      timeReached ((runFrom w c es).pumpUdpRetransmits w).now d = false) ∧
    ∀ ms, ((runFrom w c es).pumpUdpRetransmits w).selectTimeout = some ms → 0 < ms := by
  have hrun := timely_runFrom w c es
  have hpumped : Timely (idleWatch (runFrom w c es).clock false (Waiting (runFrom w c es).clock))
      ((runFrom w c es).pumpUdpRetransmits w) :=
    hrun.pumpUdpRetransmits (closed_sendable _) (closed_waiting _) (pumps_waiting _)
  have hclients := hpumped.selectClients
  have hclock : ((runFrom w c es).pumpUdpRetransmits w).clock = (runFrom w c es).clock :=
    hpumped.clock
  rw [← hclock] at hclients
  have hdeadlines := not_reached_sipDeadlines hclients (served_pumpUdpRetransmits hrun)
  exact ⟨hdeadlines, pos_foldl_includeAt hdeadlines fun ms hms => nomatch hms⟩

end Transport

end EsphomeVoip
