import EsphomeVoip.Transport.Refine.Response

/-! # The moves of the pump

What is kept is sent again with other timers, or dropped when it has expired. -/

namespace EsphomeVoip

open WrapClock (timeReached)

namespace Transport

variable {o : Mode} {b : Bool} {w : World} {t u : Transport} {msg : SipMessage}

/-! ## Client transactions -/

theorem clientIn_sendAgain (slot : ClientSlot) (recorded : Flow) (ip : UInt32) (port : UInt16) :
    (t.sendAgain w recorded msg ip port).2.clientIn slot = t.clientIn slot := by
  have hsent : Sent t (t.sendAgain w recorded msg ip port).2 := sent_sendAgain recorded ip port
  obtain ⟨flow, io, log, event, status, he, _⟩ := hsent
  rw [he]
  cases slot <;> rfl

/-- A request that is kept is kept on the wire. -/
theorem kept_clientIn {slot : ClientSlot} {x : UdpTransaction} (h : t.clientIn slot = some x) :
    x.request ∈ t.wire.kept := by
  -- The owner's requests are kept by its line, and those about a transfer by the second one.
  have hown (l : List SipMessage) (hl : x.request ∈ l)
    (hkept : ∀ y ∈ l, y ∈ (lineOf t.dialog).kept) :
      x.request ∈ t.wire.kept := by
    unfold Wire.kept
    simp only [List.mem_append]
    exact .inl (.inl (.inl (.inl (.inl (hkept _ hl)))))
  have hsecond (r : ReferDialog) (hr : t.referDialog = some r)
      (hkept : x.request ∈ (secondOf r).kept) : x.request ∈ t.wire.kept := by
    have hs : t.wire.second = some (secondOf r) := congrArg (Option.map secondOf) hr
    unfold Wire.kept
    rw [hs]
    simp only [List.mem_append]
    exact .inl (.inl (.inl (.inl (.inr hkept))))
  cases slot with
  | invite =>
    have hx : t.dialog.pendingInvite = some x := h
    refine hown [x.request] List.mem_cons_self fun y hy => ?_
    rw [List.mem_singleton.1 hy]
    unfold Line.kept lineOf
    simp [hx]
  | cancel =>
    have hx : t.dialog.pendingCancel = some x := h
    refine hown [x.request] List.mem_cons_self fun y hy => ?_
    rw [List.mem_singleton.1 hy]
    unfold Line.kept lineOf
    simp [hx]
  | bye =>
    have hx : t.dialog.pendingBye = some x := h
    refine hown [x.request] List.mem_cons_self fun y hy => ?_
    rw [List.mem_singleton.1 hy]
    unfold Line.kept lineOf
    simp [hx]
  | update =>
    have hx : t.dialog.pendingUpdate = some x := h
    refine hown [x.request] List.mem_cons_self fun y hy => ?_
    rw [List.mem_singleton.1 hy]
    unfold Line.kept lineOf
    simp [hx]
  | notify =>
    obtain ⟨r, hr, hx⟩ := Option.bind_eq_some_iff.1 h
    refine hsecond r hr ?_
    unfold Second.kept secondOf
    simp [hx]
  | notifyFinal =>
    obtain ⟨r, hr, hx⟩ := Option.bind_eq_some_iff.1 h
    refine hsecond r hr ?_
    unfold Second.kept secondOf
    simp [hx]

/-- The timers of a transaction do not matter. -/
theorem wire_setClient_timers {slot : ClientSlot} {x y : UdpTransaction}
    (h : t.clientIn slot = some x) (hrequest : y.request = x.request)
    (hcompleted : y.completed = x.completed) : (t.setClient slot (some y)).wire = t.wire := by
  cases slot with
  | invite =>
    have hx : t.dialog.pendingInvite = some x := h
    unfold setClient wire lineOf
    simp only [hx, Option.map_some, Option.elim_some, hrequest, hcompleted]
  | cancel =>
    have hx : t.dialog.pendingCancel = some x := h
    unfold setClient wire lineOf
    simp only [hx, Option.map_some, hrequest]
  | bye =>
    have hx : t.dialog.pendingBye = some x := h
    unfold setClient wire lineOf
    simp only [hx, Option.map_some, hrequest]
  | update =>
    have hx : t.dialog.pendingUpdate = some x := h
    unfold setClient wire lineOf
    simp only [hx, Option.map_some, hrequest]
  | notify =>
    obtain ⟨r, hr, hx⟩ := Option.bind_eq_some_iff.1 h
    unfold setClient wire secondOf
    simp only [hr, hx, Option.map_some, hrequest]
  | notifyFinal =>
    obtain ⟨r, hr, hx⟩ := Option.bind_eq_some_iff.1 h
    unfold setClient wire secondOf
    simp only [hr, hx, Option.map_some, hrequest]

theorem evolves_clearClient (slot : ClientSlot) : Evolves o t (t.setClient slot none) := by
  have hmove := Move.unpend (b := o.ordered) t.wire slot
  apply Evolves.of_move
  have hwire : (t.setClient slot none).wire = t.wire.setPending slot none := by
    cases slot with
    | notify =>
      unfold setClient wire Wire.setPending
      cases t.referDialog <;> rfl
    | notifyFinal =>
      unfold setClient wire Wire.setPending
      cases t.referDialog <;> rfl
    | _ => rfl
  rw [hwire]
  exact hmove

theorem evolves_pumpClient (slot : ClientSlot) : Evolves o t (t.pumpClient w slot).2 := by
  unfold pumpClient
  cases hx : t.clientIn slot with
  | none => exact .refl t
  | some x =>
    dsimp only
    repeat' split
    · exact .refl t
    · exact evolves_clearClient slot
    · exact .refl t
    · exact .of_eq (wire_setClient_timers hx rfl rfl)
    · have hsent : Evolves o t (t.sendAgain w (.udp x.ip x.port) x.request x.ip x.port).2 :=
        evolves_sendAgain (kept_clientIn hx) _ _ _
      have hx' : (t.sendAgain w (.udp x.ip x.port) x.request x.ip x.port).2.clientIn slot =
          some x := by
        rw [clientIn_sendAgain]
        exact hx
      exact hsent.trans (.of_eq (wire_setClient_timers hx' rfl rfl))

/-- What the pump does to the transport, whatever it has found so far. -/
theorem evolves_pumpTerminal (slot : ClientSlot) {r : PumpOutcome × Transport}
    (h : Evolves o t r.2) : Evolves o t (pumpTerminal w slot r).2 :=
  h.trans (evolves_pumpClient slot)

theorem evolves_pumpQuiet (slot : ClientSlot) {r : PumpOutcome × Transport}
    (h : Evolves o t r.2) : Evolves o t (pumpQuiet w slot r).2 :=
  h.trans (evolves_pumpClient slot)

theorem evolves_pumpInvite {r : PumpOutcome × Transport} (h : Evolves o t r.2) :
    Evolves o t (pumpInvite w r).2 := by
  unfold pumpInvite
  split
  · have hpumped := h.trans (evolves_pumpClient (w := w) .invite)
    dsimp only
    split
    · exact hpumped.trans (.of_eq rfl)
    · exact hpumped
  · exact h

theorem evolves_pumpClients : Evolves o t (t.pumpClients w).2 := by
  have hupdate := evolves_pumpQuiet (w := w) .update (evolves_pumpTerminal (w := w) .bye
    (evolves_pumpTerminal (w := w) .cancel (evolves_pumpInvite (w := w)
      (r := ({}, t)) (Evolves.refl (o := o) t))))
  unfold pumpClients
  dsimp only
  split
  · exact hupdate
  · exact evolves_pumpQuiet .notifyFinal (evolves_pumpQuiet .notify hupdate)

/-! ## Responses of our own -/

theorem evolves_pumpProvisional : Evolves o t (t.pumpProvisional w) := by
  unfold pumpProvisional
  cases hp : t.pendingProvisionalResponse with
  | none => exact .refl t
  | some p =>
    dsimp only
    have hkept : t.wire.provisional = some p.response := congrArg (Option.map _) hp
    have hheld : p.response ∈ t.wire.kept := by
      unfold Wire.kept
      simp [hkept]
    have hsent : Evolves o t (t.sendAgain w (.udp p.ip p.port) p.response p.ip p.port).2 :=
      evolves_sendAgain hheld _ _ _
    repeat' split
    · exact .refl t
    · exact .of_move (.dropProvisional t.wire)
    · exact hsent.trans (.of_move (.dropProvisional _))
    · refine hsent.trans (.of_eq ?_)
      have hsame : (t.sendAgain w (.udp p.ip p.port) p.response p.ip p.port).2.wire.provisional =
          some p.response := by
        obtain ⟨queued, log, _, he⟩ := (repeats_sendAgain (w := w) (t := t) (.udp p.ip p.port)
          p.ip p.port).shape
        rw [he]
        exact hkept
      generalize (t.sendAgain w (.udp p.ip p.port) p.response p.ip p.port).2 = v at hsame
      show { v.wire with provisional := some p.response } = v.wire
      rw [← hsame]

theorem evolves_expireAck {c : CompletedServerTransaction} {r : PumpOutcome × Transport}
    (hc : r.2.dialog.completedInvite = some c) (h : timeReached r.2.now c.deadlineMs = true) :
    Evolves o r.2 (expireAck c r).2 := by
  have hrecord : r.2.wire.own.record = some c.untimed := congrArg (Option.map _) hc
  unfold expireAck
  dsimp only
  split
  · have hmove := Move.expireAck (b := o.ordered) r.2.wire c.untimed true hrecord h
    apply Evolves.of_move
    cases hd : r.2.dialog.terminateAfterInviteAck with
    | true =>
      have hd' : r.2.wire.own.deferred = true := hd
      simp only [hd', Bool.and_self, if_true] at hmove
      have hset : (r.2.setCompletedInvite (some { c with
          awaitingAck := false })).dialog.terminateAfterInviteAck = true := hd
      rw [if_pos hset]
      exact hmove
    | false =>
      have hd' : r.2.wire.own.deferred = false := hd
      simp only [hd', Bool.and_false] at hmove
      have hset : ¬(r.2.setCompletedInvite (some { c with
          awaitingAck := false })).dialog.terminateAfterInviteAck = true := by
        show ¬r.2.dialog.terminateAfterInviteAck = true
        rw [hd]
        decide
      rw [if_neg hset]
      exact hmove
  · have hmove := Move.expireAck (b := o.ordered) r.2.wire c.untimed false hrecord h
    exact .of_move hmove

/-- The timers of a kept final response do not matter. -/
theorem wire_setCompletedInvite_timers {c c' : CompletedServerTransaction}
    (hc : t.wire.own.record = some c.untimed) (hsame : c'.untimed = c.untimed) :
    (t.setCompletedInvite (some c')).wire = t.wire := by
  have hwire : (t.setCompletedInvite (some c')).wire =
      { t.wire with own := { t.wire.own with record := some c'.untimed } } := rfl
  rw [hwire, hsame, ← hc]

theorem evolves_retransmitFinal {c : CompletedServerTransaction}
    (hc : t.dialog.completedInvite = some c) : Evolves o t (t.retransmitFinal w c) := by
  have hheld : c.response ∈ t.wire.kept := kept_recordIn (show t.recordIn .invite = some c from hc)
  have hrecord : (t.sendAgain w c.flow c.response c.peerIp c.peerPort).2.wire.own.record =
      some c.untimed := by
    obtain ⟨queued, log, _, he⟩ := (repeats_sendAgain (w := w) (t := t) c.flow c.peerIp
      c.peerPort).shape
    rw [he]
    exact congrArg (Option.map _) hc
  exact (evolves_sendAgain (w := w) hheld c.flow c.peerIp c.peerPort).trans
    (.of_eq (wire_setCompletedInvite_timers hrecord rfl))

theorem evolves_pumpFinal {r : PumpOutcome × Transport} (h : Evolves o t r.2) :
    Evolves o t (pumpFinal w r).2 := by
  unfold pumpFinal
  cases hc : r.2.dialog.completedInvite with
  | none => exact h
  | some c =>
    dsimp only
    repeat' split
    · exact h
    · rename_i hexpired
      exact h.trans (evolves_expireAck hc hexpired)
    · exact h.trans (evolves_retransmitFinal hc)
    · exact h

/-! ## Expiry of what is kept -/

theorem evolves_filterControl (p : CompletedServerTransaction → Bool) :
    Evolves o t { t with dialog := { t.dialog with
      completedControl := t.dialog.completedControl.filter p } } := by
  cases hc : t.dialog.completedControl.filter p with
  | none => exact .of_move (.dropControl t.wire)
  | some c =>
    have hkept := (Option.filter_eq_some_iff.1 hc).1
    refine .of_eq ?_
    unfold wire lineOf
    simp only [hkept]

theorem evolves_filterAck (p : CompletedInviteClientTransaction → Bool) :
    Evolves o t { t with dialog := { t.dialog with
      completedInviteClient := t.dialog.completedInviteClient.filter p } } := by
  cases hc : t.dialog.completedInviteClient.filter p with
  | none => exact .of_move (.dropAck t.wire)
  | some c =>
    have hkept := (Option.filter_eq_some_iff.1 hc).1
    refine .of_eq ?_
    unfold wire lineOf
    simp only [hkept]

theorem evolves_filterDirectionAck (p : CompletedInviteClientTransaction → Bool) :
    Evolves o t { t with video := { t.video with
      completedDirection := t.video.completedDirection.filter p } } := by
  cases hc : t.video.completedDirection.filter p with
  | none => exact .of_move (.dropDirectionAck t.wire)
  | some c =>
    have hkept := (Option.filter_eq_some_iff.1 hc).1
    refine .of_eq ?_
    unfold wire
    simp only [hkept]

/-- The kept response to the last INVITE expires, or not. -/
def expireInvite (t : Transport) : Transport :=
  let expired := t.dialog.completedInvite.elim false fun c =>
    timeReached t.now (c.completedMs + UInt32.ofNat sipTransactionTimeoutMs)
  let t := if expired then t.record (.recordLost true
    (t.dialog.completedInvite.elim false fun c => c.awaitingAck) t.dialog.terminateAfterInviteAck)
    else t
  { t with dialog :=
    { t.dialog with completedInvite := keepServer t.now t.dialog.completedInvite } }

theorem evolves_expireInvite : Evolves o t t.expireInvite := by
  unfold expireInvite keepServer
  cases hc : t.dialog.completedInvite with
  | none =>
    refine .of_eq ?_
    simp only [Option.elim_none, Bool.false_eq_true, if_false, hc, Option.filter_none]
    unfold wire lineOf
    simp only [hc]
  | some c =>
    cases hx : timeReached t.now (c.completedMs + UInt32.ofNat sipTransactionTimeoutMs) with
    | false =>
      refine .of_eq ?_
      simp only [Option.elim_some, hx, Bool.false_eq_true, if_false, hc]
      unfold wire lineOf
      simp only [hc, Option.filter_some, hx, Bool.not_false, if_true]
    | true =>
      -- The record is lost, and the log says whether its ACK was still awaited.
      have hrecord : t.wire.own.record = some c.untimed := congrArg (Option.map _) hc
      have hmove := Move.loseRecord (b := o.ordered) t.wire true true (by
        intro _ c' hc'
        rw [hrecord] at hc'
        cases hc'
        exact .inl hx)
      have hawaits : t.wire.own.awaitsAnyAck = c.awaitingAck := by
        unfold Line.awaitsAnyAck
        rw [hrecord]
        rfl
      rw [hawaits, Bool.and_true] at hmove
      apply Evolves.of_move
      simp only [Option.elim_some, hx, if_true]
      have hgone : (t.dialog.completedInvite.filter fun c => !timeReached t.now
          (c.completedMs + UInt32.ofNat sipTransactionTimeoutMs)) = none := by
        rw [hc, Option.filter_some, hx]
        rfl
      show Move o.ordered t.wire (wire { t.record (.recordLost true c.awaitingAck
        t.dialog.terminateAfterInviteAck) with dialog := { t.dialog with
          completedInvite := t.dialog.completedInvite.filter fun c => !timeReached t.now
            (c.completedMs + UInt32.ofNat sipTransactionTimeoutMs) } })
      rw [hgone]
      exact hmove

theorem evolves_expireCompleted : Evolves o t t.expireCompleted := by
  have hexpired := (((evolves_expireInvite (o := o) (t := t)).trans (evolves_filterControl
    fun c => !timeReached t.now (c.completedMs + UInt32.ofNat sipTransactionTimeoutMs))).trans
    (evolves_filterAck fun c => !timeReached t.now
      (c.completedMs + UInt32.ofNat sipTransactionTimeoutMs))).trans
    (evolves_filterDirectionAck fun c => !timeReached t.now
      (c.completedMs + UInt32.ofNat sipTransactionTimeoutMs))
  refine hexpired.trans (.of_eq ?_)
  unfold expireInvite expireCompleted keepServer keepClient
  dsimp only
  split <;> rfl

/-! ## The pump -/

theorem evolves_settleTimeouts {r : PumpOutcome × Transport} (ho : Outer o r.2) :
    Evolves o r.2 (settleTimeouts w r) := by
  unfold settleTimeouts
  dsimp only
  generalize hu : (if r.1.resetTerminalDialog = true
    then r.2.finishTerminalTimeout r.1.timedOutCallId else r.2) = u
  have hterminal : Evolves o r.2 u := by
    rw [← hu]
    split
    · exact evolves_resetDialog.trans (evolves_emitSipSignal _ (by intro h; cases h))
    · exact .refl _
  generalize hv : (if r.1.inviteTimedOut = true
    then u.finishInviteTimeout r.1.timedOutCallId else u) = v
  have hinvite : Evolves o r.2 v := by
    rw [← hv]
    split
    · exact (hterminal.trans evolves_resetDialog).trans
        (evolves_emitSipSignal _ (by intro h; cases h))
    · exact hterminal
  split
  · exact hinvite.trans (evolves_endDialog (by intro h; cases h) _ _ _ (ho.evolves hinvite))
  · exact hinvite

theorem evolves_pumpServers {r : PumpOutcome × Transport} (h : Evolves o t r.2)
    (ho : Outer o t) : Evolves o t (pumpServers w r) := by
  have hfinal := evolves_pumpFinal (w := w) (r := (r.1, r.2.pumpProvisional w))
    (h.trans evolves_pumpProvisional)
  unfold pumpServers
  dsimp only
  generalize pumpFinal w (r.1, r.2.pumpProvisional w) = r' at hfinal
  have hexpired : Evolves o t (r'.2.pumpVideoDirection w).expireCompleted :=
    (hfinal.trans (evolves_pumpVideoDirection (ho.evolves hfinal))).trans evolves_expireCompleted
  exact hexpired.trans (evolves_settleTimeouts (r := (r'.1,
    (r'.2.pumpVideoDirection w).expireCompleted)) (ho.evolves hexpired))

/-- `pump_udp_retransmits_unlocked_`. -/
theorem proceeds_pumpUdpWith {f : Transport → Transport} (hf : Proceeds o f) :
    Proceeds o (pumpUdpWith w f) := by
  intro t ho
  have hclients : Evolves o t (t.pumpClients w).2 := evolves_pumpClients
  unfold pumpUdpWith
  dsimp only
  exact evolves_pumpServers (r := ((t.pumpClients w).1, f (t.pumpClients w).2))
    (hclients.trans (hf _ (ho.evolves hclients))) ho

end Transport

end EsphomeVoip
