import Mathlib.Algebra.GroupWithZero.Nat
import EsphomeVoip.Transport.Timely.Step

/-! # The schedule of client transactions

A client transaction is retransmitted at intervals that double from T1 to T2 until its deadline, 64
times T1 after it was sent.  `Scheduled` relates its 32-bit times to the time that never wraps; it
survives pumps that come late by any amount under half a turn of the clock. -/

namespace EsphomeVoip

open WrapClock (millis timeReached timeReached_eq_true timeReached_eq_false millis_add)

/-! ## The schedule -/

/-- The interval after this many retransmissions. -/
def retransmitInterval (retries : Nat) : Nat := min (sipT1Ms * 2 ^ retries) sipT2Ms

/-- The earliest time of the next retransmission, after the first transmission. -/
def dueAfter : Nat → Nat
  | 0 => retransmitInterval 0
  | retries + 1 => dueAfter retries + retransmitInterval (retries + 1)

theorem retransmitInterval_succ (retries : Nat) :
    retransmitInterval (retries + 1) = min (retransmitInterval retries * 2) sipT2Ms := by
  unfold retransmitInterval
  rw [Nat.pow_succ, ← Nat.mul_assoc]
  omega

theorem retransmitInterval_le (retries : Nat) : retransmitInterval retries ≤ sipT2Ms :=
  Nat.min_le_right _ _

theorem retransmitInterval_pos (retries : Nat) : 0 < retransmitInterval retries := by
  have hpow := Nat.two_pow_pos retries
  unfold retransmitInterval sipT1Ms sipT2Ms
  omega

theorem dueAfter_mono {a b : Nat} (h : a ≤ b) : dueAfter a ≤ dueAfter b := by
  induction h with
  | refl => exact Nat.le_refl _
  | step _ ih => exact Nat.le_trans ih (Nat.le_add_right _ _)

theorem dueAfter_pos (retries : Nat) : sipT1Ms ≤ dueAfter retries :=
  dueAfter_mono (Nat.zero_le retries)

/-- The eleventh retransmission would come after the deadline. -/
theorem retries_le {retries : Nat} (h : dueAfter retries < sipTransactionTimeoutMs) :
    retries ≤ 9 := by
  refine Nat.le_of_not_lt fun hmany => ?_
  have hlate : dueAfter 10 ≤ dueAfter retries := dueAfter_mono hmany
  have hten : sipTransactionTimeoutMs ≤ dueAfter 10 := by decide
  omega

/-- The transaction was sent at some time up to now, and its next time lies after the last pump. -/
structure Scheduled (clock last : Nat) (x : UdpTransaction) : Prop where
  ends : x.ip ≠ 0 ∧ x.port ≠ 0
  interval : x.intervalMs = retransmitInterval x.retries
  retries : x.retries ≤ 10
  times : ∃ start next, start ≤ clock ∧ x.deadlineMs = millis (start + sipTransactionTimeoutMs) ∧
    x.nextMs = millis next ∧ last < next ∧ next ≤ start + sipTransactionTimeoutMs ∧
    min (start + sipTransactionTimeoutMs) (start + dueAfter x.retries) ≤ next

variable {clock last : Nat}

theorem Scheduled.mono {x : UdpTransaction} (h : Scheduled clock last x) {clock' last' : Nat}
    (hclock : clock ≤ clock') (hlast : last' ≤ last) : Scheduled clock' last' x := by
  obtain ⟨start, next, hstart, hdeadline, hnext, hlater, hbefore, hdue⟩ := h.times
  exact { h with times := ⟨start, next, Nat.le_trans hstart hclock, hdeadline, hnext,
    Nat.lt_of_le_of_lt hlast hlater, hbefore, hdue⟩ }

theorem closed_scheduled (hlast : last ≤ clock) : Closed clock (Scheduled clock last) := by
  refine ⟨fun request ip port udp hip hport => ?_, fun x h => ?_⟩
  · have htimes : last < clock + sipT1Ms ∧ clock + sipT1Ms ≤ clock + sipTransactionTimeoutMs := by
      unfold sipT1Ms sipTransactionTimeoutMs
      omega
    exact ⟨⟨hip, hport⟩, rfl, Nat.zero_le 10, clock, clock + sipT1Ms, Nat.le_refl clock,
      millis_add _ _, millis_add _ _, htimes.1, htimes.2, Nat.min_le_right _ _⟩
  · obtain ⟨start, next, hstart, hdeadline, _, hlater, hbefore, _⟩ := h.times
    exact ⟨h.ends, h.interval, h.retries, start, start + sipTransactionTimeoutMs, hstart, hdeadline,
      hdeadline, Nat.lt_of_lt_of_le hlater hbefore, Nat.le_refl _, Nat.min_le_left _ _⟩

/-- A time of the transaction is reached when it has come. -/
theorem reached_iff {at_ : Nat} (hlast : last ≤ at_) (hrecent : clock < last + 2147483648)
    (hnear : at_ ≤ clock + sipTransactionTimeoutMs) :
    timeReached (millis clock) (millis at_) = true ↔ at_ ≤ clock := by
  by_cases h : at_ ≤ clock
  · exact iff_of_true (timeReached_eq_true h (by omega)) h
  · have hahead : timeReached (millis clock) (millis at_) = false := by
      have hbound : sipTransactionTimeoutMs ≤ 2147483648 := by decide
      exact timeReached_eq_false (by omega) (by omega)
    rw [hahead]
    exact iff_of_false Bool.false_ne_true h

/-- The next time of a retransmission, in time that never wraps. -/
theorem backOff_eq {start retries : Nat} {deadline : UInt32} (hstart : start ≤ clock)
    (hdeadline : deadline = millis (start + sipTransactionTimeoutMs))
    (hbefore : clock < start + sipTransactionTimeoutMs) :
    Transport.backOff (millis clock) deadline (retransmitInterval retries) sipT2Ms =
      (retransmitInterval (retries + 1), millis (min (clock + retransmitInterval (retries + 1))
        (start + sipTransactionTimeoutMs))) := by
  have hsmall := retransmitInterval_le (retries + 1)
  have hbound : sipT2Ms + sipTransactionTimeoutMs < 2147483648 := by decide
  have hnear : timeReached (millis (clock + retransmitInterval (retries + 1)))
      (millis (start + sipTransactionTimeoutMs)) = true ↔
        start + sipTransactionTimeoutMs ≤ clock + retransmitInterval (retries + 1) := by
    have hlast : clock ≤ start + sipTransactionTimeoutMs := by omega
    exact reached_iff hlast (by omega) (by omega)
  unfold Transport.backOff
  dsimp only
  rw [← retransmitInterval_succ, millis_add, hdeadline]
  split
  · rename_i hover
    rw [Nat.min_eq_right (hnear.1 hover)]
  · rename_i hahead
    rw [Nat.min_eq_left (Nat.le_of_not_le fun h => hahead (hnear.2 h))]

/-- A pump keeps the schedule, however late it comes. -/
theorem pumps_scheduled (hlast : last ≤ clock) (hrecent : clock < last + 2147483648) :
    Pumps clock (Scheduled clock last) (Scheduled clock clock) := by
  intro x y hx hy
  obtain ⟨start, next, hstart, hdeadline, hnext, hlater, hbefore, hdue⟩ := hx.times
  have hbound : sipTransactionTimeoutMs < 2147483648 := by decide
  have hdeadlineReached : timeReached (millis clock) x.deadlineMs = true ↔
      start + sipTransactionTimeoutMs ≤ clock := by
    rw [hdeadline]
    exact reached_iff (by omega) hrecent (by omega)
  have hnextReached : timeReached (millis clock) x.nextMs = true ↔ next ≤ clock := by
    rw [hnext]
    exact reached_iff (by omega) hrecent (by omega)
  unfold UdpTransaction.pumped at hy
  rw [if_neg (not_or.2 hx.ends)] at hy
  split at hy
  · cases hy
  · rename_i hopen
    have hopen' : clock < start + sipTransactionTimeoutMs :=
      Nat.lt_of_not_le fun h => hopen (hdeadlineReached.2 h)
    split at hy
    · rename_i hahead
      cases hy
      have hahead' : clock < next := Nat.lt_of_not_le fun h =>
        Bool.false_ne_true (hahead.symm.trans (hnextReached.2 h))
      exact ⟨hx.ends, hx.interval, hx.retries, start, next, hstart, hdeadline, hnext, hahead',
        hbefore, hdue⟩
    · rename_i hcome
      have hcome' : next ≤ clock := hnextReached.1 (Bool.not_eq_false _ ▸ hcome)
      split at hy
      · cases hy
        exact ⟨hx.ends, hx.interval, hx.retries, start, start + sipTransactionTimeoutMs, hstart,
          hdeadline, hdeadline, hopen', Nat.le_refl _, Nat.min_le_left _ _⟩
      · cases hy
        -- The retransmission is not early, so that at most nine were sent before it.
        have hnine : x.retries ≤ 9 := retries_le (by omega)
        have hback : Transport.backOff (millis clock) x.deadlineMs (retransmitInterval x.retries)
            sipT2Ms = (retransmitInterval (x.retries + 1), millis (min
              (clock + retransmitInterval (x.retries + 1)) (start + sipTransactionTimeoutMs))) :=
          backOff_eq hstart hdeadline hopen'
        rw [← hx.interval] at hback
        have hpos := retransmitInterval_pos (x.retries + 1)
        unfold Transport.UdpTransaction.backedOff
        dsimp only
        rw [hback]
        refine ⟨hx.ends, rfl, by dsimp only; omega, start, _, hstart, hdeadline, rfl, ?_, ?_, ?_⟩
        · omega
        · omega
        · show min (start + sipTransactionTimeoutMs)
            (start + (dueAfter x.retries + retransmitInterval (x.retries + 1))) ≤ _
          omega

/-! ## What a transaction shows of its schedule -/

/-- The fields of a client transaction are those of its schedule. -/
structure OnSchedule (x : UdpTransaction) : Prop where
  interval : x.intervalMs = min (sipT1Ms * 2 ^ x.retries) sipT2Ms
  next : timeReached x.deadlineMs x.nextMs = true
  retries : x.retries ≤ 10

theorem Scheduled.onSchedule {x : UdpTransaction} (h : Scheduled clock last x) :
    OnSchedule x := by
  obtain ⟨start, next, _, hdeadline, hnext, _, hbefore, hdue⟩ := h.times
  refine ⟨h.interval, ?_, h.retries⟩
  have hfirst := dueAfter_pos x.retries
  have hbound : sipTransactionTimeoutMs < 2147483648 := by decide
  rw [hdeadline, hnext]
  exact timeReached_eq_true hbefore (by omega)

theorem Scheduled.open {x : UdpTransaction} (h : Scheduled clock clock x) :
    timeReached (millis clock) x.deadlineMs = false := by
  obtain ⟨start, next, hstart, hdeadline, _, hlater, hbefore, _⟩ := h.times
  have hbound : sipTransactionTimeoutMs < 2147483648 := by decide
  rw [hdeadline]
  exact timeReached_eq_false (by omega) (by omega)

/-! ## The client transactions of a state -/

/-- The client transactions of a dialog. -/
def Dialog.clients (d : Dialog) : List UdpTransaction :=
  d.pendingInvite.toList ++ d.pendingCancel.toList ++ d.pendingBye.toList ++
    d.pendingUpdate.toList

/-- Those that the pump looks at: an INVITE only until its final response. -/
def Dialog.outstanding (d : Dialog) : List UdpTransaction :=
  (if d.outgoingInvitePending then d.pendingInvite.toList else []) ++ d.pendingCancel.toList ++
    d.pendingBye.toList ++ d.pendingUpdate.toList

theorem LineTimely.outstanding {P : UdpTransaction → Prop} {candidate blocked : Bool} {d : Dialog}
    (h : LineTimely P candidate blocked d) : ∀ x ∈ d.outstanding, P x := by
  intro x hx
  unfold Dialog.outstanding at hx
  simp only [List.mem_append, Option.mem_toList] at hx
  obtain ((hinvite | hcancel) | hbye) | hupdate := hx
  · split at hinvite
    · rename_i hout
      exact h.invite hout x (Option.mem_toList.1 hinvite)
    · cases hinvite
  · exact h.cancel x hcancel
  · exact h.bye x hbye
  · exact h.update x hupdate

/-- Where an INVITE that is remembered is outstanding, every client transaction is. -/
theorem LineTimely.clients {P : UdpTransaction → Prop} {blocked : Bool} {d : Dialog}
    (h : LineTimely P true blocked d) : ∀ x ∈ d.clients, x ∈ d.outstanding := by
  intro x hx
  unfold Dialog.clients at hx
  unfold Dialog.outstanding
  simp only [List.mem_append, Option.mem_toList] at hx ⊢
  obtain ((hinvite | hcancel) | hbye) | hupdate := hx
  · have hout : d.outgoingInvitePending = true :=
      (h.calling (by rw [hinvite]; rfl)).2.2.2.2 rfl
    rw [if_pos hout]
    exact .inl (.inl (.inl (Option.mem_toList.2 hinvite)))
  · exact .inl (.inl (.inr hcancel))
  · exact .inl (.inr hbye)
  · exact .inr hupdate

namespace Transport

/-- The client transactions of both dialogs, and the NOTIFYs. -/
def clients (t : Transport) : List UdpTransaction :=
  t.dialog.clients ++ t.referDialog.elim [] fun r =>
    r.dialog.clients ++ r.pendingNotify.toList ++ r.pendingNotifyFinal.toList

/-- Those of them that the pump looks at. -/
def outstanding (t : Transport) : List UdpTransaction :=
  t.dialog.outstanding ++ t.referDialog.elim [] fun r =>
    r.dialog.outstanding ++ r.pendingNotify.toList ++ r.pendingNotifyFinal.toList

variable {orderly : Bool} {P : UdpTransaction → Prop} {w : World} {t : Transport}

theorem Timely.outstanding (h : Timely (idleWatch clock orderly P) t) :
    ∀ x ∈ t.outstanding, P x := by
  intro x hx
  unfold Transport.outstanding at hx
  rcases List.mem_append.1 hx with hown | hrefer
  · exact h.own.outstanding x hown
  · cases hr : t.referDialog with
    | none =>
      rw [hr] at hrefer
      cases hrefer
    | some r =>
      rw [hr, Option.elim_some] at hrefer
      obtain ⟨hfirst, hfinal⟩ := h.notify r hr
      simp only [List.mem_append, Option.mem_toList] at hrefer
      obtain (hother | hnotify) | hnotifyFinal := hrefer
      · exact (h.other r hr).outstanding x hother
      · exact hfirst x hnotify
      · exact hfinal x hnotifyFinal

theorem Timely.clients (h : Timely (idleWatch clock true P) t) :
    ∀ x ∈ t.clients, x ∈ t.outstanding := by
  intro x hx
  unfold Transport.clients at hx
  unfold Transport.outstanding
  rcases List.mem_append.1 hx with hown | hrefer
  · exact List.mem_append_left _ (h.own.clients x hown)
  · refine List.mem_append_right _ ?_
    cases hr : t.referDialog with
    | none =>
      rw [hr] at hrefer
      cases hrefer
    | some r =>
      rw [hr, Option.elim_some] at hrefer
      rw [Option.elim_some]
      rcases List.mem_append.1 hrefer with hlast | hfinal
      · rcases List.mem_append.1 hlast with hother | hnotify
        · exact List.mem_append_left _ (List.mem_append_left _ ((h.other r hr).clients x hother))
        · exact List.mem_append_left _ (List.mem_append_right _ hnotify)
      · exact List.mem_append_right _ hfinal

/-! ## One pump of a transaction -/

theorem log_setClient (slot : ClientSlot) (x : Option UdpTransaction) :
    (t.setClient slot x).log = t.log := by
  cases slot <;> rfl

theorem clientIn_setClient {slot : ClientSlot} {x : UdpTransaction}
    (hx : t.clientIn slot = some x) (y : Option UdpTransaction) :
    (t.setClient slot y).clientIn slot = y := by
  cases slot with
  | notify =>
    obtain ⟨r, hr, _⟩ := Option.bind_eq_some_iff.1 hx
    simp [setClient, clientIn, hr]
  | notifyFinal =>
    obtain ⟨r, hr, _⟩ := Option.bind_eq_some_iff.1 hx
    simp [setClient, clientIn, hr]
  | _ => rfl

/-- What one pump does with a transaction in its slot. -/
structure PumpedOnce (w : World) (slot : ClientSlot) (t : Transport) (x : UdpTransaction) :
    Prop where
  /-- At or after the deadline it is removed, and nothing is sent. -/
  expires : timeReached t.now x.deadlineMs = true →
    (t.pumpClient w slot).2.clientIn slot = none ∧ (t.pumpClient w slot).2.log = t.log
  /-- It is sent again when its time has come, unless a response or the stream stopped that, and
      then its interval doubles up to T2. -/
  sends : (t.pumpClient w slot).2.log ≠ t.log →
    timeReached t.now x.deadlineMs = false ∧ timeReached t.now x.nextMs = true ∧
      x.completed = false ∧ x.udp = true ∧
      ∃ y, (t.pumpClient w slot).2.clientIn slot = some y ∧ y.retries = x.retries + 1 ∧
        y.intervalMs = min (x.intervalMs * 2) sipT2Ms
  /-- Its deadline stays, and a response that it has had. -/
  keeps : timeReached t.now x.deadlineMs = false →
    ∃ y, (t.pumpClient w slot).2.clientIn slot = some y ∧ y.deadlineMs = x.deadlineMs ∧
      y.completed = x.completed

theorem pumpedOnce {slot : ClientSlot} {x : UdpTransaction} (hx : t.clientIn slot = some x)
    (hends : x.ip ≠ 0 ∧ x.port ≠ 0) : PumpedOnce w slot t x := by
  have hsome : (t.sendAgain w (.udp x.ip x.port) x.request x.ip x.port).2.clientIn slot = some x :=
    (clientIn_sendAgain slot _ _ _).trans hx
  constructor
  · intro hdeadline
    unfold pumpClient
    rw [hx]
    dsimp only
    rw [if_neg (not_or.2 hends), if_pos hdeadline]
    exact ⟨clientIn_setClient hx none, log_setClient slot none⟩
  · intro hlog
    unfold pumpClient at hlog ⊢
    rw [hx] at hlog ⊢
    dsimp only at hlog ⊢
    rw [if_neg (not_or.2 hends)] at hlog ⊢
    split at hlog
    · exact absurd (log_setClient slot none) hlog
    · rename_i hdeadline
      rw [if_neg hdeadline]
      split at hlog
      · exact absurd rfl hlog
      · rename_i hnext
        rw [if_neg hnext]
        split at hlog
        · exact absurd (log_setClient slot _) hlog
        · rename_i hgoes
          rw [if_neg hgoes]
          simp only [not_or, Bool.not_eq_true, Bool.not_eq_false] at hgoes hnext hdeadline
          exact ⟨hdeadline, hnext, hgoes.1, hgoes.2, _, clientIn_setClient hsome _, rfl, rfl⟩
  · intro hdeadline
    unfold pumpClient
    rw [hx]
    dsimp only
    rw [if_neg (not_or.2 hends), if_neg (Bool.eq_false_iff.1 hdeadline)]
    split
    · exact ⟨x, hx, rfl, rfl⟩
    · split
      · exact ⟨_, clientIn_setClient hx _, rfl, rfl⟩
      · exact ⟨_, clientIn_setClient hsome _, rfl, rfl⟩

/-- A provisional response stops the retransmission of the INVITE, and leaves its deadline. -/
theorem provisional_inviteResponse (w : World) {m : SipMessage} (src : Peer)
    (hstatus : m.status < 200) (t : Transport) :
    (t.inviteResponse w m src).dialog.pendingInvite =
      t.dialog.pendingInvite.map UdpTransaction.done := by
  have hsettled : (t.settleInvite m.status).dialog.pendingInvite =
      t.dialog.pendingInvite.map UdpTransaction.done := if_pos hstatus
  unfold inviteResponse
  dsimp only
  rw [if_pos hstatus]
  split
  · rw [← hsettled]
    unfold emitSipSignal
    split <;> rfl
  · exact hsettled

/-! ## Runs -/

/-- The pump comes within half a turn of the clock, `idle` milliseconds after the last one. -/
def PumpedInTime (idle : Nat) : List Event → Prop
  | [] => True
  | .elapse ms :: es => idle + ms < 2147483648 ∧ PumpedInTime (idle + ms) es
  | .pump :: es => PumpedInTime 0 es
  | _ :: es => PumpedInTime idle es

theorem pumpedInTime_cons {idle : Nat} {e : Event} {es : List Event} (hpump : e ≠ .pump)
    (helapse : ∀ ms, e ≠ .elapse ms) (h : PumpedInTime idle (e :: es)) : PumpedInTime idle es := by
  cases e with
  | pump => exact absurd rfl hpump
  | elapse ms => exact absurd rfl (helapse ms)
  | _ => exact h

/-- In a run that is pumped in time every client transaction stays on its schedule. -/
theorem timely_scheduled (es : List Event) (last idle : Nat) (hclock : t.clock = last + idle)
    (hidle : idle < 2147483648) (ht : Timely (idleWatch t.clock orderly (Scheduled t.clock last)) t)
    (h : PumpedInTime idle es)
    (horderly : orderly = true → EventRun.Along (step w) AnswersOrderly t es) :
    ∃ last' idle', (EventRun.after (step w) t es).clock = last' + idle' ∧ idle' < 2147483648 ∧
      Timely (idleWatch (EventRun.after (step w) t es).clock orderly
        (Scheduled (EventRun.after (step w) t es).clock last'))
        (EventRun.after (step w) t es) := by
  induction es generalizing t last idle with
  | nil => exact ⟨last, idle, hclock, hidle, ht⟩
  | cons e es ih =>
    have hlast : last ≤ t.clock := by omega
    have hrecent : t.clock < last + 2147483648 := by omega
    have hpumps := pumps_scheduled hlast hrecent
    have hrest : orderly = true → EventRun.Along (step w) AnswersOrderly (step w e t) es :=
      fun ho => (horderly ho).2
    rw [EventRun.after_cons]
    -- A pump starts the idle time anew.
    by_cases hpump : e = .pump
    · subst hpump
      have hpumped := ht.pumpUdpRetransmits (w := w) (closed_scheduled hlast)
        (closed_scheduled (Nat.le_refl t.clock)) hpumps
      have hsame : (step w .pump t).clock = t.clock := hpumped.clock
      refine ih t.clock 0 hsame (by decide) ?_ h hrest
      rw [hsame]
      exact hpumped
    · -- Time that passes adds to it.
      by_cases helapse : ∃ ms, e = .elapse ms
      · obtain ⟨ms, rfl⟩ := helapse
        have hpassed := ht.elapse ms fun x hx => hx.mono (Nat.le_add_right t.clock ms)
          (Nat.le_refl last)
        refine ih last (idle + ms) ?_ h.1 hpassed h.2 hrest
        show t.clock + ms = last + (idle + ms)
        omega
      · -- Everything else takes no time, and remembers requests with a fresh schedule.
        have hclosed : Idle (idleWatch t.clock orderly (Scheduled t.clock last)) := by
          refine idle_idleWatch (closed_scheduled hlast) fun x y hx hy => ?_
          exact (hpumps x y hx hy).mono (Nat.le_refl _) hlast
        have helapse' (ms : Nat) : e ≠ .elapse ms := fun he => helapse ⟨ms, he⟩
        have hkept := ht.step (w := w) hclosed e hpump helapse' fun ho => (horderly ho).1
        have hsame : (step w e t).clock = t.clock := hkept.clock
        refine ih last idle (hsame.trans hclock) hidle ?_
          (pumpedInTime_cons hpump helapse' h) hrest
        rw [hsame]
        exact hkept

theorem timely_scheduled_runFrom (orderly : Bool) {c : Setup} {es : List Event}
    (h : PumpedInTime 0 es)
    (horderly : orderly = true → EventRun.Along (step w) AnswersOrderly (boot c) es) :
    ∃ last idle, (runFrom w c es).clock = last + idle ∧ idle < 2147483648 ∧
      Timely (idleWatch (runFrom w c es).clock orderly (Scheduled (runFrom w c es).clock last))
        (runFrom w c es) :=
  timely_scheduled es c.clock 0 rfl (by decide) (timely_boot c orderly _) h horderly

/-- In every state of a run that is pumped in time, every outstanding client transaction is on its
    schedule, a pump does with it what the schedule says, and leaves none whose deadline has come.
    A provisional response stops the INVITE and keeps its deadline. No client transaction is
    forgotten, if the call component only answers calls of the peer. -/
theorem client_transactions_on_schedule (w : World) (c : Setup) (es : List Event)
    (h : PumpedInTime 0 es) :
    (∀ x ∈ (runFrom w c es).outstanding, OnSchedule x ∧
      ∀ slot t, t.clientIn slot = some x → PumpedOnce w slot t x) ∧
    (∀ x ∈ (step w .pump (runFrom w c es)).outstanding,
      timeReached (step w .pump (runFrom w c es)).now x.deadlineMs = false) ∧
    (∀ m src, m.status < 200 → ∀ t : Transport,
      (t.inviteResponse w m src).dialog.pendingInvite =
        t.dialog.pendingInvite.map UdpTransaction.done) ∧
    (EventRun.Along (step w) AnswersOrderly (boot c) es →
      ∀ x ∈ (runFrom w c es).clients, x ∈ (runFrom w c es).outstanding) := by
  obtain ⟨last, idle, hclock, hidle, ht⟩ :=
    timely_scheduled_runFrom (w := w) (c := c) false h fun ho => nomatch ho
  refine ⟨fun x hx => ?_, fun x hx => ?_, fun m src hstatus t => ?_, fun horderly => ?_⟩
  · have hx' := ht.outstanding x hx
    exact ⟨hx'.onSchedule, fun slot t hslot => pumpedOnce hslot hx'.ends⟩
  · have hpumped : Timely (idleWatch (runFrom w c es).clock false
        (Scheduled (runFrom w c es).clock (runFrom w c es).clock))
        (step w .pump (runFrom w c es)) :=
      ht.pumpUdpRetransmits (closed_scheduled (by omega)) (closed_scheduled (Nat.le_refl _))
        (pumps_scheduled (by omega) (by omega))
    rw [hpumped.now]
    exact (hpumped.outstanding x hx).open
  · exact provisional_inviteResponse w src hstatus t
  · obtain ⟨_, _, _, _, ht'⟩ := timely_scheduled_runFrom (w := w) (c := c) true h fun _ => horderly
    exact ht'.clients

/-- A call to Hall whose INVITE is not answered. -/
def unansweredCall : List Event :=
  [.command (.setRemote "10.0.0.2" 5060 0), .command (.sendInvite "call" "kitchen" "" "hall" ""),
    .elapse 500, .pump, .elapse 1100, .pump]

theorem client_transactions_on_schedule_unanswered :
    PumpedInTime 0 unansweredCall ∧
    (runFrom grantingWorld plainSetup unansweredCall).outstanding.map
      (fun x => (x.retries, x.intervalMs)) = [(2, 2000)] ∧
    ∀ x ∈ (runFrom grantingWorld plainSetup unansweredCall).outstanding, OnSchedule x := by
  have htime : PumpedInTime 0 unansweredCall := ⟨by decide, by decide, trivial⟩
  refine ⟨htime, by decide, fun x hx => ?_⟩
  exact ((client_transactions_on_schedule grantingWorld plainSetup unansweredCall htime).1 x hx).1

end Transport

end EsphomeVoip
