import EsphomeVoip.Transport.Run

/-! # What the timers of the transport keep

The transport has a client transaction in each of four slots of a dialog, two more for the NOTIFYs
of a transfer, a deferred provisional response, a final response that awaits its ACK, and the
re-INVITE that changes the direction of video.  `Timely` says of a state what is known of each of
them: a predicate of the client transactions of either dialog, that no interval is zero, and when an
INVITE of ours can be outstanding.  The functions of the transport keep it as long as the predicates
hold of a transaction that is new, and go on to hold when it is completed. -/

namespace EsphomeVoip

open WrapClock (millis timeReached)

/-! ## Client transactions -/

namespace UdpTransaction

/-- What `remember_udp_transaction_` makes at this time. -/
def fresh (clock : Nat) (request : SipMessage) (ip : UInt32) (port : UInt16) (udp : Bool) :
    UdpTransaction :=
  { request := request
    ip := ip
    port := port
    nextMs := millis clock + UInt32.ofNat sipT1Ms
    deadlineMs := millis clock + UInt32.ofNat sipTransactionTimeoutMs
    udp := udp }

/-- The transaction after a response that stops its retransmission. -/
def done (x : UdpTransaction) : UdpTransaction :=
  { x with completed := true, nextMs := x.deadlineMs }

end UdpTransaction

/-- The predicate holds of new transactions, and of completed ones if it held before. -/
structure Closed (clock : Nat) (P : UdpTransaction → Prop) : Prop where
  fresh : ∀ request ip port udp, ip ≠ 0 → port ≠ 0 → P (.fresh clock request ip port udp)
  done : ∀ x, P x → P x.done

/-- What is known of a state: its time, whether the second dialog of a transfer stands in for the
    owner, a predicate of the transactions of either dialog and of the NOTIFYs, whether there is no
    answer of the second dialog that the transfer is yet to act on, and whether the call component
    has only answered calls of the peer. -/
structure Watch where
  clock : Nat
  scope : Bool
  own : UdpTransaction → Prop
  other : UdpTransaction → Prop
  notify : UdpTransaction → Prop
  calm : Bool
  orderly : Bool

namespace Watch

/-- Every predicate is kept. -/
structure Closed (k : Watch) : Prop where
  own : EsphomeVoip.Closed k.clock k.own
  other : EsphomeVoip.Closed k.clock k.other
  notify : EsphomeVoip.Closed k.clock k.notify

/-- The second dialog stands in for the owner. -/
def entered (k : Watch) : Watch := { k with scope := true, own := k.other, other := k.own }

/-- The second dialog may have answered. -/
def unsettled (k : Watch) : Watch := { k with calm := false }

theorem Closed.entered {k : Watch} (h : k.Closed) : k.entered.Closed := ⟨h.other, h.own, h.notify⟩

theorem Closed.unsettled {k : Watch} (h : k.Closed) : k.unsettled.Closed :=
  ⟨h.own, h.other, h.notify⟩

end Watch

/-! ## Dialogs -/

/-- What is known of a dialog. An outstanding INVITE of ours excludes one of the peer. The owner has
    one only without media, the second dialog only until it has answered. -/
structure LineTimely (P : UdpTransaction → Prop) (candidate blocked : Bool) (d : Dialog) :
    Prop where
  invite : d.outgoingInvitePending = true → ∀ x ∈ d.pendingInvite, P x
  cancel : ∀ x ∈ d.pendingCancel, P x
  bye : ∀ x ∈ d.pendingBye, P x
  update : ∀ x ∈ d.pendingUpdate, P x
  final : ∀ c ∈ d.completedInvite, 0 < c.retransmitIntervalMs
  calling : d.pendingInvite.isSome = true → d.callId ≠ "" ∧ d.lastInviteCseqNumber = 0 ∧
    d.lastInvitePeerIp = 0 ∧ blocked = false ∧ (candidate = true → d.outgoingInvitePending = true)

/-- The fields of a dialog that `LineTimely` depends on. -/
def Dialog.agenda (d : Dialog) : Dialog :=
  { callId := d.callId
    lastInviteCseqNumber := d.lastInviteCseqNumber
    lastInvitePeerIp := d.lastInvitePeerIp
    outgoingInvitePending := d.outgoingInvitePending
    completedInvite := d.completedInvite
    pendingInvite := d.pendingInvite
    pendingCancel := d.pendingCancel
    pendingBye := d.pendingBye
    pendingUpdate := d.pendingUpdate }

/-- The fields of a second dialog that `Timely` depends on. -/
def ReferDialog.agenda (r : ReferDialog) : ReferDialog :=
  { dialog := r.dialog.agenda
    pendingNotify := r.pendingNotify
    pendingNotifyFinal := r.pendingNotifyFinal }

theorem LineTimely.congr {P : UdpTransaction → Prop} {candidate blocked : Bool} {d e : Dialog}
    (h : LineTimely P candidate blocked d) (he : e.agenda = d.agenda) :
    LineTimely P candidate blocked e := by
  have hd : LineTimely P candidate blocked d.agenda :=
    ⟨h.invite, h.cancel, h.bye, h.update, h.final, h.calling⟩
  rw [← he] at hd
  exact ⟨hd.invite, hd.cancel, hd.bye, hd.update, hd.final, hd.calling⟩

theorem LineTimely.mono {P Q : UdpTransaction → Prop} {candidate blocked : Bool} {d : Dialog}
    (h : LineTimely P candidate blocked d) (hpq : ∀ x, P x → Q x) :
    LineTimely Q candidate blocked d :=
  ⟨fun ho x hx => hpq x (h.invite ho x hx), fun x hx => hpq x (h.cancel x hx),
    fun x hx => hpq x (h.bye x hx), fun x hx => hpq x (h.update x hx), h.final, h.calling⟩

theorem LineTimely.withFinal {P : UdpTransaction → Prop} {candidate blocked : Bool} {d : Dialog}
    (h : LineTimely P candidate blocked d) {c : Option CompletedServerTransaction}
    (hc : ∀ c' ∈ c, 0 < c'.retransmitIntervalMs) :
    LineTimely P candidate blocked { d with completedInvite := c } :=
  ⟨h.invite, h.cancel, h.bye, h.update, hc, h.calling⟩

/-- Without an outstanding INVITE nothing else depends on the role of the dialog. -/
theorem LineTimely.withRole {P : UdpTransaction → Prop} {candidate blocked : Bool} {d : Dialog}
    (h : LineTimely P candidate blocked d) (hnone : d.pendingInvite = none)
    (candidate' blocked' : Bool) : LineTimely P candidate' blocked' d := by
  refine { h with calling := fun hsome => ?_ }
  rw [hnone] at hsome
  cases hsome

/-- Without an outstanding INVITE the other transactions are all that matters. -/
theorem LineTimely.withoutInvite {P : UdpTransaction → Prop} {candidate blocked : Bool}
    {d e : Dialog} (h : LineTimely P candidate blocked d) (hinvite : e.pendingInvite = none)
    (hcancel : e.pendingCancel = d.pendingCancel) (hbye : e.pendingBye = d.pendingBye)
    (hupdate : e.pendingUpdate = d.pendingUpdate) (hfinal : e.completedInvite = d.completedInvite) :
    LineTimely P candidate blocked e := by
  refine ⟨fun _ x hx => ?_, hcancel ▸ h.cancel, hbye ▸ h.bye, hupdate ▸ h.update,
    hfinal ▸ h.final, fun hsome => ?_⟩
  · rw [hinvite] at hx
    cases hx
  · rw [hinvite] at hsome
    cases hsome

/-- An INVITE of the peer excludes an outstanding one of ours. -/
theorem LineTimely.not_calling {P : UdpTransaction → Prop} {candidate blocked : Bool} {d : Dialog}
    (h : LineTimely P candidate blocked d)
    (hd : d.callId = "" ∨ d.lastInviteCseqNumber ≠ 0 ∨ d.lastInvitePeerIp ≠ 0 ∨ blocked = true) :
    d.pendingInvite = none := by
  cases hp : d.pendingInvite with
  | none => rfl
  | some x =>
    obtain ⟨hcall, hnumber, hip, hblocked, _⟩ := h.calling (by rw [hp]; rfl)
    rcases hd with hd | hd | hd | hd
    · exact absurd hd hcall
    · exact absurd hnumber hd
    · exact absurd hip hd
    · rw [hblocked] at hd
      cases hd

namespace Transport

/-! ## The transport -/

/-- The second dialog has reported its answer, and the transfer is yet to act on it. -/
def answered (t : Transport) : Bool :=
  t.referSignalPending && !t.referRetiring && t.referSignalType == .status200Ok

/-- What a dialog in this role cannot have an outstanding INVITE with. -/
def blocked (candidate : Bool) (t : Transport) : Bool :=
  if candidate then t.answered else t.mediaActive

/-- What is known of the state. -/
structure Timely (k : Watch) (t : Transport) : Prop where
  clock : t.clock = k.clock
  scope : t.referContextActive = k.scope
  own : LineTimely k.own (k.scope || k.orderly) (t.blocked k.scope) t.dialog
  other : ∀ r ∈ t.referDialog,
    LineTimely k.other (!k.scope || k.orderly) (t.blocked !k.scope) r.dialog
  notify : ∀ r ∈ t.referDialog,
    (∀ x ∈ r.pendingNotify, k.notify x) ∧ ∀ x ∈ r.pendingNotifyFinal, k.notify x
  provisional : ∀ p ∈ t.pendingProvisionalResponse, 0 < p.intervalMs
  direction : ∀ p ∈ t.video.pendingDirection, p.waitingRetry = false →
    ∃ x, p.transaction = some x ∧ 0 < x.intervalMs
  calm : k.calm = true → t.answered = false

/-- The fields of the transport that `Timely` depends on. -/
def agenda (t : Transport) : Transport :=
  { dialog := t.dialog.agenda
    referDialog := t.referDialog.map ReferDialog.agenda
    referContextActive := t.referContextActive
    referRetiring := t.referRetiring
    referSignalType := t.referSignalType
    referSignalPending := t.referSignalPending
    pendingProvisionalResponse := t.pendingProvisionalResponse
    video := { pendingDirection := t.video.pendingDirection }
    mediaActive := t.mediaActive
    clock := t.clock }

variable {k : Watch} {t u : Transport}

theorem timely_agenda (h : Timely k t) : Timely k t.agenda := by
  refine ⟨h.clock, h.scope, h.own.congr rfl, ?_, ?_, h.provisional, h.direction, h.calm⟩
  · intro r hr
    obtain ⟨r', hr', rfl⟩ := Option.map_eq_some_iff.1 hr
    exact (h.other r' hr').congr rfl
  · intro r hr
    obtain ⟨r', hr', rfl⟩ := Option.map_eq_some_iff.1 hr
    exact h.notify r' hr'

theorem Timely.of_agenda (h : Timely k t.agenda) : Timely k t := by
  refine ⟨h.clock, h.scope, h.own.congr rfl, ?_, ?_, h.provisional, h.direction, h.calm⟩
  · intro r hr
    exact (h.other r.agenda (Option.map_eq_some_iff.2 ⟨r, hr, rfl⟩)).congr rfl
  · intro r hr
    exact h.notify r.agenda (Option.map_eq_some_iff.2 ⟨r, hr, rfl⟩)

/-- What the agenda does not see does not matter. -/
theorem Timely.congr (h : Timely k t) (he : u.agenda = t.agenda) : Timely k u := by
  have hagenda := timely_agenda h
  rw [← he] at hagenda
  exact hagenda.of_agenda

theorem blocked_of_agenda (he : u.agenda = t.agenda) (candidate : Bool) :
    u.blocked candidate = t.blocked candidate := by
  have hagenda : u.agenda.blocked candidate = t.agenda.blocked candidate := by rw [he]
  exact hagenda

/-- Replace the dialog in place. -/
theorem Timely.withDialog (h : Timely k t) {d : Dialog}
    (hd : LineTimely k.own (k.scope || k.orderly) (t.blocked k.scope) d) :
    Timely k { t with dialog := d } :=
  { h with own := hd }

theorem Timely.now (h : Timely k t) : t.now = millis k.clock := congrArg millis h.clock

end Transport

end EsphomeVoip
