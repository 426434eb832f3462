import EsphomeVoip.Transport.Timely.Responses

/-! # Timers while they are pumped

What one pump makes of a client transaction is a function of the transaction and the time.  A whole
pump applies it to every transaction of the dialog in place, so that a predicate that holds of the
transactions before it turns into what the function makes of it. -/

namespace EsphomeVoip

open WrapClock (millis timeReached)

/-! ## One transaction -/

/-- What a pump makes of a transaction. -/
def UdpTransaction.pumped (now : UInt32) (x : UdpTransaction) : Option UdpTransaction :=
  if x.ip = 0 ∨ x.port = 0 then some x
  else if timeReached now x.deadlineMs then none
  else if timeReached now x.nextMs = false then some x
  else if x.completed = true ∨ x.udp = false then some { x with nextMs := x.deadlineMs }
  else some (Transport.UdpTransaction.backedOff now x)

/-- A pump turns transactions of which `P` holds into ones of which `Q` holds. -/
def Pumps (clock : Nat) (P Q : UdpTransaction → Prop) : Prop :=
  ∀ x y, P x → x.pumped (millis clock) = some y → Q y

namespace Transport

variable {k : Watch} {w : World} {t u v : Transport} {m msg : SipMessage} {src : Peer}

theorem agenda_setClient (slot : ClientSlot) (x : Option UdpTransaction) (t : Transport) :
    (t.setClient slot x).agenda = (t.agenda.setClient slot x).agenda := by
  cases slot <;> first | rfl | (unfold setClient agenda; cases t.referDialog <;> rfl)

theorem clientIn_agenda (slot : ClientSlot) (t : Transport) :
    t.agenda.clientIn slot = t.clientIn slot := by
  cases slot <;> first | rfl | (unfold clientIn agenda; cases t.referDialog <;> rfl)

theorem setClient_clientIn (slot : ClientSlot) (t : Transport) :
    t.setClient slot (t.clientIn slot) = t := by
  cases slot with
  | notify =>
    unfold setClient clientIn
    cases hr : t.referDialog <;> (cases t; cases hr; rfl)
  | notifyFinal =>
    unfold setClient clientIn
    cases hr : t.referDialog <;> (cases t; cases hr; rfl)
  | _ => rfl

theorem agenda_setClient_congr (h : u.agenda = v.agenda) (slot : ClientSlot)
    (x : Option UdpTransaction) : (u.setClient slot x).agenda = (v.setClient slot x).agenda := by
  rw [agenda_setClient, agenda_setClient slot x v, h]

theorem clientIn_congr (h : u.agenda = v.agenda) (slot : ClientSlot) :
    u.clientIn slot = v.clientIn slot := by
  rw [← clientIn_agenda, h, clientIn_agenda]

theorem now_of_agenda (h : u.agenda = v.agenda) : u.now = v.now := by
  have hnow : u.agenda.now = v.agenda.now := by rw [h]
  exact hnow

/-- A pump replaces the transaction in the slot. -/
theorem agenda_pumpClient (slot : ClientSlot) (t : Transport) :
    (t.pumpClient w slot).2.agenda =
      (t.setClient slot ((t.clientIn slot).bind (UdpTransaction.pumped t.now))).agenda := by
  have hsame (x : UdpTransaction) (hx : t.clientIn slot = some x) :
      t.setClient slot (some x) = t := hx ▸ setClient_clientIn slot t
  unfold pumpClient
  cases hx : t.clientIn slot with
  | none => exact congrArg agenda ((congrArg (t.setClient slot ·) hx.symm).trans
      (setClient_clientIn slot t)).symm
  | some x =>
    dsimp only [Option.bind_some]
    unfold UdpTransaction.pumped
    split
    · rw [hsame x hx]
    · split
      · rfl
      · split
        · rw [hsame x hx]
        · split
          · rfl
          · exact agenda_setClient_congr (agenda_sendAgain _ _ _) slot _

/-- What timed out is gone. -/
theorem pumped_of_timedOut {slot : ClientSlot} (h : (t.pumpClient w slot).1 = true) :
    (t.clientIn slot).bind (UdpTransaction.pumped t.now) = none := by
  unfold pumpClient at h
  cases hx : t.clientIn slot with
  | none => rfl
  | some x =>
    rw [hx] at h
    dsimp only [Option.bind_some] at h ⊢
    unfold UdpTransaction.pumped
    split at h
    · cases h
    · rename_i hends
      rw [if_neg hends]
      split at h
      · rename_i hreached
        rw [if_pos hreached]
      · split at h
        · cases h
        · split at h <;> cases h

/-- Pump the transaction of a slot. -/
def pumpSlot (slot : ClientSlot) (t : Transport) : Transport :=
  t.setClient slot ((t.clientIn slot).bind (UdpTransaction.pumped t.now))

theorem agenda_pumpSlot_congr (h : u.agenda = v.agenda) (slot : ClientSlot) :
    (u.pumpSlot slot).agenda = (v.pumpSlot slot).agenda := by
  unfold pumpSlot
  rw [clientIn_congr h, now_of_agenda h]
  exact agenda_setClient_congr h slot _

/-! ## All transactions of a dialog -/

/-- The INVITE timed out. -/
def giveUpInvite (t : Transport) : Transport :=
  { t with dialog := { t.dialog with pendingInvite := none, outgoingInvitePending := false } }

/-- The INVITE is pumped while its response is outstanding. -/
theorem agenda_pumpInvite (o : PumpOutcome) : ∃ u, (pumpInvite w (o, t)).2.agenda = u.agenda ∧
    ((t.dialog.outgoingInvitePending = false ∧ u = t) ∨
      (t.dialog.outgoingInvitePending = true ∧ u = t.pumpSlot .invite) ∨ u = t.giveUpInvite) := by
  unfold pumpInvite
  dsimp only
  split
  · rename_i hout
    have he := agenda_pumpClient (w := w) .invite t
    split
    · rename_i htimed
      refine ⟨_, ?_, .inr (.inr rfl)⟩
      rw [pumped_of_timedOut htimed] at he
      have hstop (t : Transport) : ({ t with
          dialog := { t.dialog with outgoingInvitePending := false } } : Transport).agenda =
          { t.agenda with dialog := { t.agenda.dialog with outgoingInvitePending := false } } := rfl
      rw [hstop, he]
      rfl
    · exact ⟨_, he, .inr (.inl ⟨hout, rfl⟩)⟩
  · rename_i hout
    exact ⟨t, rfl, .inl ⟨Bool.eq_false_iff.2 hout, rfl⟩⟩

theorem agenda_pumpTerminal (slot : ClientSlot) {r : PumpOutcome × Transport}
    (h : r.2.agenda = v.agenda) :
    (pumpTerminal w slot r).2.agenda = (v.pumpSlot slot).agenda :=
  (agenda_pumpClient slot r.2).trans (agenda_pumpSlot_congr h slot)

theorem agenda_pumpQuiet (slot : ClientSlot) {r : PumpOutcome × Transport}
    (h : r.2.agenda = v.agenda) : (pumpQuiet w slot r).2.agenda = (v.pumpSlot slot).agenda :=
  (agenda_pumpClient slot r.2).trans (agenda_pumpSlot_congr h slot)

theorem mem_pumped {clock : Nat} {P Q : UdpTransaction → Prop} (hpump : Pumps clock P Q)
    {o : Option UdpTransaction} (ho : ∀ x ∈ o, P x) :
    ∀ y ∈ o.bind (UdpTransaction.pumped (millis clock)), Q y := by
  intro y hy
  obtain ⟨x, hx, hxy⟩ := Option.bind_eq_some_iff.1 hy
  exact hpump x y (ho x hx) hxy

/-- Pump the transactions of the dialog but its INVITE. -/
def pumpDialog (t : Transport) : Transport :=
  ((t.pumpSlot .cancel).pumpSlot .bye).pumpSlot .update

/-- The dialog after its transactions but its INVITE were pumped. -/
def pumpedDialog (now : UInt32) (d : Dialog) : Dialog :=
  { d with
    pendingCancel := d.pendingCancel.bind (UdpTransaction.pumped now)
    pendingBye := d.pendingBye.bind (UdpTransaction.pumped now)
    pendingUpdate := d.pendingUpdate.bind (UdpTransaction.pumped now) }

theorem pumpDialog_eq (t : Transport) :
    t.pumpDialog = { t with dialog := pumpedDialog t.now t.dialog } := rfl

/-- Replace the dialog in place by one of which something else is known. -/
theorem Timely.changeDialog (h : Timely k t) {Q : UdpTransaction → Prop} {d : Dialog}
    (hd : LineTimely Q (k.scope || k.orderly) (t.blocked k.scope) d) :
    Timely { k with own := Q } { t with dialog := d } :=
  { h with own := hd }

/-- The transactions of the dialog in place are pumped. -/
theorem Timely.pumpDialog (h : Timely k t) {Q : UdpTransaction → Prop}
    (hpump : Pumps k.clock k.own Q)
    (hu : (t.dialog.outgoingInvitePending = false ∧ u = t) ∨
      (t.dialog.outgoingInvitePending = true ∧ u = t.pumpSlot .invite) ∨ u = t.giveUpInvite) :
    Timely { k with own := Q } u.pumpDialog := by
  have hcancel := mem_pumped hpump h.own.cancel
  have hbye := mem_pumped hpump h.own.bye
  have hupdate := mem_pumped hpump h.own.update
  rw [← h.now] at hcancel hbye hupdate
  rw [pumpDialog_eq]
  rcases hu with ⟨hout, rfl⟩ | ⟨hout, rfl⟩ | rfl
  · refine h.changeDialog ⟨fun ho => ?_, hcancel, hbye, hupdate, h.own.final, h.own.calling⟩
    exact absurd (hout.symm.trans ho) Bool.false_ne_true
  · have hinvite := mem_pumped hpump (h.own.invite hout)
    rw [← h.now] at hinvite
    refine h.changeDialog (d := pumpedDialog t.now { t.dialog with
        pendingInvite := t.dialog.pendingInvite.bind (UdpTransaction.pumped t.now) })
      ⟨fun _ => hinvite, hcancel, hbye, hupdate, h.own.final, fun hsome => ?_⟩
    obtain ⟨y, hy⟩ := Option.isSome_iff_exists.1 hsome
    obtain ⟨x, hx, _⟩ := Option.bind_eq_some_iff.1 hy
    exact h.own.calling (Option.isSome_iff_exists.2 ⟨x, hx⟩)
  · exact h.changeDialog (d := pumpedDialog t.now { t.dialog with
        pendingInvite := none, outgoingInvitePending := false })
      ⟨fun _ _ hx => (nomatch hx), hcancel, hbye, hupdate, h.own.final, fun hsome =>
        (nomatch hsome)⟩

/-- The NOTIFYs of the transfer are pumped. -/
theorem Timely.pumpNotifies (h : Timely k t) {N : UdpTransaction → Prop}
    (hpump : Pumps k.clock k.notify N) :
    Timely { k with notify := N } ((t.pumpSlot .notify).pumpSlot .notifyFinal) := by
  cases hr : t.referDialog with
  | none =>
    have hnone : ((t.pumpSlot .notify).pumpSlot .notifyFinal).referDialog = none := by
      simp [pumpSlot, setClient, hr]
    refine { h with other := fun r hr' => ?_, notify := fun r hr' => ?_ }
    · rw [hnone] at hr'
      cases hr'
    · rw [hnone] at hr'
      cases hr'
  | some r =>
    obtain ⟨hfirst, hfinal⟩ := h.notify r hr
    have hfirst' := mem_pumped hpump hfirst
    have hfinal' := mem_pumped hpump hfinal
    rw [← h.now] at hfirst' hfinal'
    have hsome : ((t.pumpSlot .notify).pumpSlot .notifyFinal).referDialog = some { r with
        pendingNotify := r.pendingNotify.bind (UdpTransaction.pumped t.now)
        pendingNotifyFinal := r.pendingNotifyFinal.bind (UdpTransaction.pumped t.now) } := by
      simp [pumpSlot, setClient, clientIn, hr, Transport.now]
    refine { h with other := fun r' hr' => ?_, notify := fun r' hr' => ?_ }
    · rw [hsome] at hr'
      cases hr'
      exact h.other r hr
    · rw [hsome] at hr'
      cases hr'
      exact ⟨hfirst', hfinal'⟩

/-- What is known after a pump of the dialog in place, and of the NOTIFYs if it is the owner. -/
def pumpedWatch (k : Watch) (Q N : UdpTransaction → Prop) : Watch :=
  { k with own := Q, notify := if k.scope then k.notify else N }

theorem Timely.pumpClients (h : Timely k t) {Q N : UdpTransaction → Prop}
    (hown : Pumps k.clock k.own Q) (hnotify : Pumps k.clock k.notify N) :
    Timely (pumpedWatch k Q N) (t.pumpClients w).2 := by
  obtain ⟨u, hu, hcases⟩ := agenda_pumpInvite (w := w) (t := t) {}
  have hdialog := h.pumpDialog hown hcases
  have he : (pumpQuiet w .update (pumpTerminal w .bye (pumpTerminal w .cancel
      (pumpInvite w ({}, t))))).2.agenda = u.pumpDialog.agenda :=
    agenda_pumpQuiet .update (agenda_pumpTerminal .bye (agenda_pumpTerminal .cancel hu))
  have hpumped := hdialog.congr he
  unfold Transport.pumpClients
  dsimp only
  generalize pumpQuiet w .update (pumpTerminal w .bye (pumpTerminal w .cancel
    (pumpInvite w ({}, t)))) = r at hpumped
  unfold pumpedWatch
  rw [hpumped.scope]
  cases hs : k.scope
  · have howner := hpumped.pumpNotifies hnotify
    rw [hs] at howner
    exact howner.congr (agenda_pumpQuiet .notifyFinal (agenda_pumpQuiet .notify rfl))
  · rw [hs] at hpumped
    exact hpumped

end Transport

end EsphomeVoip
