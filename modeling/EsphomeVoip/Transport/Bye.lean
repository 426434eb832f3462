import EsphomeVoip.Transport.Effects

/-! # The peer hangs up

A BYE of the peer within the owned dialog ends the call.  The dispatcher takes it only while media
is active or a BYE of our own is outstanding, and neither is so from a 2xx to the ACK of a delayed
offer, nor while a hangup of our own waits for that ACK. -/

namespace EsphomeVoip

namespace Transport

variable {w : World} {t : Transport} {m msg : SipMessage} {src : Peer}

/-! ## What must happen -/

/-- A BYE of the peer within the owned dialog: its Call-ID, tags and source are those of the dialog,
    its number is new, and it repeats no request that was answered. -/
def ValidBye (m : SipMessage) (src : Peer) (t : Transport) : Prop :=
  m.method = .bye ∧ m.framed = true ∧ answerable m = true ∧
    currentDialog m src .bye t.dialog = true ∧
    t.replayable m src .bye (!t.dialog.remoteSipTcp) = false ∧
    t.referContextActive = false ∧ ¬(t.referDialog.isSome = true ∧ m.callId = t.referWireId)

instance (m : SipMessage) (src : Peer) (t : Transport) : Decidable (ValidBye m src t) :=
  inferInstanceAs (Decidable (_ ∧ _))

/-- Between two states one response was formed, with this status. -/
def AnsweredWith (status : Nat) (t t' : Transport) : Prop :=
  ∃ msg, msg.status = status ∧ t'.formed = msg :: t.formed

/-- The dialog and its media are over: it is reset, or is kept only for the answer to our own BYE or
    for a transfer that outlives it. -/
def CallOver (t : Transport) : Prop :=
  t.mediaActive = false ∧
    (t.dialog.callId = "" ∨ t.dialog.pendingBye.isSome = true ∨ t.ownerInviteEnded = true)

instance (t : Transport) : Decidable t.CallOver := inferInstanceAs (Decidable (_ ∧ _))

/-- A 2xx to an INVITE of this call. -/
def isAcceptance (callId : String) (m : SipMessage) : Bool :=
  decide (200 ≤ m.status) && decide (m.status < 300) && m.cseqMethod == .invite &&
    m.callId == callId

/-- The INVITE of the owned dialog was answered with a 2xx, by us or by the peer. -/
def Established (t : Transport) : Prop :=
  t.dialog.callId ≠ "" ∧ (t.log.any fun e => match e with
    | .sent m .. => isAcceptance t.dialog.callId m
    | .received m .. => isAcceptance t.dialog.callId m
    | _ => false) = true

instance (t : Transport) : Decidable t.Established := inferInstanceAs (Decidable (_ ∧ _))

/-! ## What does happen -/

/-- The signal, or the note for the transfer, that an event of the dialog leaves. -/
theorem emitSipSignal_shape (signal : SipSignal) : ∃ type status pending callbacks,
    t.emitSipSignal signal = { t with
      referSignalType := type
      referStatus := status
      referSignalPending := pending
      callbacks := callbacks } := by
  unfold emitSipSignal
  split <;> exact ⟨_, _, _, _, rfl⟩

/-- A reset outside of a `ReferScope` leaves neither dialog nor media. -/
theorem callOver_resetDialog (h : t.referContextActive = false) :
    t.resetDialog.CallOver ∧ t.resetDialog.formed = t.formed := by
  have hstop (u : Transport) (hu : u.referContextActive = false) :
      u.requestAudioPathStop.mediaActive = false ∧ u.requestAudioPathStop.log = u.log := by
    unfold requestAudioPathStop closeMediaSession videoRequestStop
    simp only [hu, Bool.false_eq_true, if_false]
    repeat' split
    all_goals exact ⟨rfl, rfl⟩
  unfold resetDialog
  dsimp only
  generalize hu : t.record (.closed _ _) = u
  have hscope : u.referContextActive = false := hu ▸ h
  have hformed : u.formed = t.formed := hu ▸ rfl
  obtain ⟨hmedia, hlog⟩ := hstop u hscope
  rw [if_neg (by simp [hscope]), ← hformed]
  refine ⟨⟨hmedia, .inl rfl⟩, ?_⟩
  unfold formed resetOwnerMedia
  exact congrArg (List.filterMap WireEntry.formed) hlog

theorem formed_emitSipSignal (signal : SipSignal) :
    (t.emitSipSignal signal).formed = t.formed := by
  obtain ⟨_, _, _, _, he⟩ := emitSipSignal_shape (t := t) signal
  rw [he]
  rfl

/-- The BYE is refused when no media is active and no BYE of our own is outstanding. -/
theorem handleBye_refused (h : answerable m = true) (hcurrent : currentDialog m src .bye t.dialog)
    (hmedia : t.mediaActive = false) (hbye : t.dialog.pendingBye = none) :
    AnsweredWith 481 t (t.handleBye w m src) := by
  unfold handleBye rejectIfStaleDialog
  simp only [hcurrent, hmedia, hbye, if_true, Bool.false_eq_true, if_false, Option.isNone_none,
    and_self]
  obtain ⟨msg, hstatus, hr⟩ : ∃ msg, msg.status = 481 ∧
      Refused msg t (t.reject w m src 481 "Call/Transaction Does Not Exist").2 :=
    refused_reject h 481 _
  exact ⟨msg, hstatus, hr.formed⟩

/-- An accepted BYE is answered; whether the call is over then depends on the media that a BYE of
    our own has left. -/
theorem handleBye_accepted (h : answerable m = true) (hcurrent : currentDialog m src .bye t.dialog)
    (hscope : t.referContextActive = false)
    (hgate : ¬(t.mediaActive = false ∧ t.dialog.pendingBye.isNone = true)) :
    AnsweredWith 200 t (t.handleBye w m src) ∧
      ((t.handleBye w m src).CallOver ↔ t.mediaActive = t.dialog.pendingBye.isNone) := by
  unfold handleBye rejectIfStaleDialog
  simp only [hcurrent, if_true, Bool.false_eq_true, if_false]
  rw [if_neg hgate]
  unfold acceptBye
  obtain ⟨msg, hstatus, hr⟩ : ∃ msg, msg.status = 200 ∧
      Refused msg t (t.refuse w m src 200 "OK" "").2 := refused_refuse h 200 "OK" ""
  have hformed := hr.formed
  generalize (t.refuse w m src 200 "OK" "").2 = u at hr hformed
  obtain ⟨flow, invite, control, io, log, event, status, hu, _⟩ := hr
  have hmedia : u.mediaActive = t.mediaActive := by rw [hu]
  have hscope' : u.referContextActive = false := by rw [hu]; exact hscope
  have hpending : u.dialog.pendingBye = t.dialog.pendingBye := by rw [hu]
  clear hu
  dsimp only
  cases hbye : t.dialog.pendingBye with
  | some x =>
    -- Our own BYE keeps the dialog until it is answered.
    simp only [Option.isSome_some, Option.isNone_some, if_true, Bool.false_eq_true, if_false]
    have hover (signal : SipSignal) :
        ((u.crossBye m.cseqNumber).emitSipSignal signal).CallOver ↔ t.mediaActive = false := by
      obtain ⟨_, _, _, _, he⟩ := emitSipSignal_shape (t := u.crossBye m.cseqNumber) signal
      rw [he]
      unfold CallOver crossBye noteAccepted record
      dsimp only
      rw [hmedia, hpending, hbye]
      exact ⟨fun h => h.1, fun h => ⟨h, .inr (.inl rfl)⟩⟩
    exact ⟨⟨msg, hstatus, (formed_emitSipSignal _).trans hformed⟩, hover _⟩
  | none =>
    have hactive : t.mediaActive = true := by
      rw [hbye] at hgate
      simpa using hgate
    simp only [Option.isSome_none, Option.isNone_none, Bool.false_eq_true, if_false, hactive,
      iff_true]
    cases hended : (u.endReferInviteUsage true).1 with
    | true =>
      -- The transfer outlives the INVITE usage.
      simp only [if_true]
      unfold endReferInviteUsage at hended ⊢
      cases href : u.referDialog with
      | none =>
        rw [href] at hended
        cases hended
      | some r =>
        rw [href] at hended
        dsimp only at hended ⊢
        split at hended
        · cases hended
        · rename_i hown
          have hid : u.dialog.callId = r.ownerCallId := by
            by_cases hid : u.dialog.callId = r.ownerCallId
            · exact hid
            · exact absurd (.inr (.inr hid)) hown
          rw [if_neg hown]
          unfold closeMediaSession noteAccepted record
          rw [if_neg (by simp [hscope'])]
          refine ⟨⟨msg, hstatus, hformed⟩, rfl, .inr (.inr ?_)⟩
          simp [ownerInviteEnded, hscope', hid]
    | false =>
      simp only [Bool.false_eq_true, if_false]
      have hnoted : (u.noteAccepted m.cseqNumber).formed = u.formed := rfl
      have hscope'' (signal : SipSignal) :
          ((u.noteAccepted m.cseqNumber).emitSipSignal signal).referContextActive = false := by
        obtain ⟨_, _, _, _, he⟩ := emitSipSignal_shape (t := u.noteAccepted m.cseqNumber) signal
        rw [he]
        exact hscope'
      obtain ⟨hover, hreset⟩ := callOver_resetDialog (hscope'' _)
      exact ⟨⟨msg, hstatus,
        ((hreset.trans (formed_emitSipSignal _)).trans hnoted).trans hformed⟩, hover⟩

theorem routeRequest_bye (h : m.method = .bye) : t.routeRequest w m src = t.handleBye w m src := by
  unfold routeRequest
  rw [h, if_neg (by simp)]

/-- A BYE of the peer is answered 200 and ends the call exactly when either media is active or a BYE
    of our own is outstanding. -/
theorem peer_bye_ends_call_iff (w : World) (t : Transport) (m : SipMessage) (src : Peer)
    (h : ValidBye m src t) :
    (AnsweredWith 200 t (t.handleSipDatagram w m src) ∧ (t.handleSipDatagram w m src).CallOver) ↔
      t.mediaActive = t.dialog.pendingBye.isNone := by
  obtain ⟨hmethod, hframed, hanswer, hcurrent, hnew, hscope, hrefer⟩ := h
  have hrequest : m.isResponse = false := by
    unfold SipMessage.method at hmethod
    unfold SipMessage.isResponse
    cases hs : m.start with
    | request method uri => rfl
    | response status phrase =>
      rw [hs] at hmethod
      cases hmethod
  -- The BYE is new, and no remembered response answers it.
  obtain ⟨control, refers, hmissed⟩ := replayCompletedResponse_missed (w := w)
    (t := t.record (.received m src t.clock)) hnew (by decide) (by decide)
  -- It is in order, so that the dispatcher hands it to its handler.
  have hroute : t.handleSipDatagram w m src =
      (({ t.record (.received m src t.clock) with
        dialog := { t.dialog with completedControl := control }
        completedRefers := refers } : Transport).markSipEvent .bye 0).handleBye w m src := by
    unfold handleSipDatagram dispatch handleRequest
    simp only [hframed, hrequest, Bool.true_eq_false, Bool.false_eq_true, if_false]
    rw [if_neg (by rintro ⟨_, h1, h2⟩; exact hrefer ⟨h1, h2⟩)]
    have hslot : isReplayedMethod Method.bye = true := rfl
    simp only [hmethod, hslot, if_true]
    have hudp : (t.record (.received m src t.clock)).dialog.remoteSipTcp =
        t.dialog.remoteSipTcp := rfl
    rw [hudp, hmissed]
    simp only [Bool.false_eq_true, if_false]
    exact routeRequest_bye hmethod
  rw [hroute]
  generalize hu : Transport.markSipEvent .bye 0 _ = u
  have hmedia : u.mediaActive = t.mediaActive := by rw [← hu]; rfl
  have hpending : u.dialog.pendingBye = t.dialog.pendingBye := by rw [← hu]; rfl
  have hscope' : u.referContextActive = false := by rw [← hu]; exact hscope
  have hcurrent' : currentDialog m src .bye u.dialog = true := by rw [← hu]; exact hcurrent
  have hformed : u.formed = t.formed := by rw [← hu]; rfl
  have hfrom (status : Nat) (v : Transport) :
      AnsweredWith status t v ↔ AnsweredWith status u v := by
    unfold AnsweredWith
    rw [hformed]
  rw [← hmedia, ← hpending, hfrom]
  -- The handler refuses it when there is neither media nor a BYE of our own.
  by_cases hgate : u.mediaActive = false ∧ u.dialog.pendingBye.isNone = true
  · obtain ⟨msg, hstatus, hrefused⟩ :=
      handleBye_refused (w := w) hanswer hcurrent' hgate.1 (Option.isNone_iff_eq_none.1 hgate.2)
    constructor
    · rintro ⟨⟨msg', hstatus', hok⟩, _⟩
      rw [hrefused] at hok
      have hsame : msg = msg' := by simpa using hok
      rw [hsame, hstatus'] at hstatus
      omega
    · intro heq
      rw [hgate.1, hgate.2] at heq
      cases heq
  · obtain ⟨hok, hover⟩ := handleBye_accepted (w := w) hanswer hcurrent' hscope' hgate
    exact ⟨fun h => hover.1 h.2, fun h => ⟨hok, hover.2 h⟩⟩

/-- Hall's call, without an offer, is answered here; the ACK with Hall's answer is on its way. -/
def hallAnswered : Transport :=
  EventRun.after (step grantingWorld) {}
    [.udp (inviteFromHall "hall" "b1" 1 "") hall,
      .command (.sendAnswer "hall" defaultAudioFormat defaultAudioFormat)]

/-- Hall hangs up. -/
def byeFromHall : SipMessage :=
  { start := .request .bye { user := "kitchen" }
    via := [{ branch := some "b2" }]
    fromAddr := some { uri := { user := "hall" }, tag := "hall" }
    toAddr := some { uri := { user := "kitchen" }, tag := "tag1" }
    callId := "hall"
    cseq := some { number := 2, method := .bye } }

/-- Between the 200 of a delayed offer and its ACK the peer cannot hang up. -/
theorem early_bye_is_refused :
    ¬ ∀ (es : List Event) (m : SipMessage) (src : Peer),
      let t := EventRun.after (step grantingWorld) {} es
      Established t → ValidBye m src t →
      AnsweredWith 200 t (t.handleSipDatagram grantingWorld m src) ∧
        (t.handleSipDatagram grantingWorld m src).CallOver := by
  intro h
  have hs := h [.udp (inviteFromHall "hall" "b1" 1 "") hall,
    .command (.sendAnswer "hall" defaultAudioFormat defaultAudioFormat)] byeFromHall hall
    (by decide) (by decide)
  obtain ⟨⟨msg, hstatus, hformed⟩, _⟩ := hs
  have hhead : (hallAnswered.handleSipDatagram grantingWorld byeFromHall hall).formed.head?.map
      SipMessage.status = some 481 := by decide
  have hhead' : (hallAnswered.handleSipDatagram grantingWorld byeFromHall hall).formed =
      msg :: hallAnswered.formed := hformed
  rw [hhead'] at hhead
  have h481 : msg.status = 481 := by simpa using hhead
  omega

/-- Once the ACK has come, the peer can hang up. -/
theorem bye_ends_hall :
    let t := EventRun.after (step grantingWorld) hallAnswered [.udp
      { byeFromHall with start := .request .ack {}, cseq := some { number := 1, method := .ack }
                         body := "answer" } hall]
    AnsweredWith 200 t (t.handleSipDatagram grantingWorld byeFromHall hall) ∧
      (t.handleSipDatagram grantingWorld byeFromHall hall).CallOver :=
  (peer_bye_ends_call_iff grantingWorld _ byeFromHall hall (by decide)).2 (by decide)

end Transport

end EsphomeVoip
