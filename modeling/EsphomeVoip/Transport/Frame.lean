import EsphomeVoip.Transport.Effects

/-! # What a message leaves standing

Answering a message, or failing to, touches the stream connection, the records that answer
retransmissions, the log and the diagnostics.  What is left when these are taken away is the dialogs
with their pending requests, their media and what the call component was told.  Two states with the
same `standing` differ only in how the last messages were answered. -/

namespace EsphomeVoip

/-- A dialog without its connection and the records that answer retransmissions. -/
def Dialog.standing (d : Dialog) : Dialog :=
  { d with
    tcpFlow := {}
    completedInvite := none
    completedControl := none
    completedInviteClient := none }

/-- The second dialog of a transfer without what answers retransmissions. -/
def ReferDialog.standing (r : ReferDialog) : ReferDialog :=
  { r with dialog := r.dialog.standing, acceptedRefer := none }

namespace Transport

/-- The transport without connections, records, the log and diagnostics. -/
def standing (t : Transport) : Transport :=
  { t with
    dialog := t.dialog.standing
    referDialog := t.referDialog.map ReferDialog.standing
    completedRefers := []
    video := { t.video with completedDirection := none }
    mediaProposalEpoch := 0
    lastSipEvent := .none
    lastSipStatusCode := 0
    io := 0
    log := [] }

variable {w : World} {t u : Transport} {m msg : SipMessage} {src : Peer}

/-! ## Answers -/

theorem Sent.standing (h : Sent t u) : u.standing = t.standing := by
  obtain ⟨flow, io, log, event, status, rfl, _⟩ := h
  rfl

theorem Refused.standing (h : Refused msg t u) : u.standing = t.standing := by
  obtain ⟨flow, invite, control, io, log, event, status, rfl, _⟩ := h
  rfl

@[simp] theorem standing_sendStatelessResponse (status : Nat) (phrase reason : String)
    (cache : Bool) (retryAfter : Option UInt32) :
    (t.sendStatelessResponse w m src status phrase reason cache retryAfter).2.standing =
      t.standing := by
  rcases sendStatelessResponse_cases w m src t status phrase reason cache retryAfter with
    he | ⟨msg, _, h⟩
  · rw [he]
  · exact h.standing

@[simp] theorem standing_reject (status : Nat) (phrase : String) :
    (t.reject w m src status phrase).2.standing = t.standing :=
  standing_sendStatelessResponse status phrase "" false none

@[simp] theorem standing_refuse (status : Nat) (phrase reason : String) :
    (t.refuse w m src status phrase reason).2.standing = t.standing :=
  standing_sendStatelessResponse status phrase reason true none

theorem standing_espRandom : (t.espRandom w).2.standing = t.standing := rfl

@[simp] theorem standing_refuseForNow (reason : String) (cache : Bool) :
    (t.refuseForNow w m src reason cache).2.standing = t.standing :=
  (standing_sendStatelessResponse 500 "Server Internal Error" reason cache _).trans
    standing_espRandom

/-! ## Records -/

@[simp] theorem standing_resend (udp : Bool) (recorded : Flow) (ip : UInt32) (port : UInt16) :
    (t.resend w udp recorded msg ip port).standing = t.standing :=
  (sent_resend udp recorded ip port).standing

@[simp] theorem standing_sendAgain (recorded : Flow) (ip : UInt32) (port : UInt16) :
    (t.sendAgain w recorded msg ip port).2.standing = t.standing :=
  (sent_sendAgain recorded ip port).standing

@[simp] theorem standing_dropRecord (slot : RecordSlot) :
    (t.dropRecord slot).standing = t.standing := by
  cases slot with
  | acceptedRefer =>
    unfold standing dropRecord clearRecord
    cases t.referDialog <;> rfl
  | _ => rfl

@[simp] theorem standing_replayCompletedResponse (method : Method) (udp : Bool) :
    (t.replayCompletedResponse w m src method udp).2.standing = t.standing := by
  rcases replayCompletedResponse_cases (w := w) m src method udp t with
    ⟨_, c, _, _, he⟩ | ⟨_, _, he⟩ | ⟨_, _, he⟩
  · rw [he]
    exact standing_resend udp c.flow src.ip src.port
  · rw [he]
    exact standing_dropRecord _
  · rw [he]

@[simp] theorem standing_replayCompletedInviteAck (udp : Bool) :
    (t.replayCompletedInviteAck w m src udp).2.standing = t.standing := by
  unfold replayCompletedInviteAck
  dsimp only
  split
  · rfl
  · split
    · rfl
    · split
      · split <;> rfl
      · split
        · exact standing_resend udp _ _ _
        · rfl

/-! ## The second dialog of a transfer -/

theorem swapRefer_none (h : t.referDialog = none) : t.swapRefer = t := by
  unfold swapRefer
  rw [h]

theorem swapRefer_some {r : ReferDialog} (h : t.referDialog = some r) :
    t.swapRefer = { t with
      dialog := r.dialog
      negotiation := r.negotiation
      referDialog := some { r with dialog := t.dialog, negotiation := t.negotiation } } := by
  unfold swapRefer
  rw [h]

theorem clock_swapRefer (t : Transport) : t.swapRefer.clock = t.clock := by
  unfold swapRefer
  split <;> rfl

theorem swapRefer_scope (scope : Bool) (t : Transport) :
    { t with referContextActive := scope }.swapRefer =
      { t.swapRefer with referContextActive := scope } := by
  unfold swapRefer
  cases hr : t.referDialog <;> simp only [hr]

theorem standing_swapRefer (t : Transport) : t.swapRefer.standing = t.standing.swapRefer := by
  cases hr : t.referDialog with
  | none =>
    have hnone : t.standing.referDialog = none := congrArg (Option.map ReferDialog.standing) hr
    rw [swapRefer_none hr, swapRefer_none hnone]
  | some r =>
    have hsome : t.standing.referDialog = some r.standing :=
      congrArg (Option.map ReferDialog.standing) hr
    rw [swapRefer_some hr, swapRefer_some hsome]
    rfl

/-- A view of the transport that the exchange of the two dialogs does not disturb. -/
structure SwapView (view : Transport → Transport) : Prop where
  swap : ∀ t, view t.swapRefer = (view t).swapRefer
  scope : ∀ scope t, view { t with referContextActive := scope } =
    { view t with referContextActive := scope }
  proposal : ∀ t, view t.openProposal = view t
  active : ∀ t, (view t).referContextActive = t.referContextActive

/-- What a view does not see happen under the scope of the second dialog, it does not see when the
    owner is back. -/
theorem SwapView.inRefer {view : Transport → Transport} (hview : SwapView view)
    {f : Transport → Transport} (hscope : t.referContextActive = false)
    (h : view (f t.enterRefer) = view t.enterRefer) : view (t.inRefer f) = view t := by
  have hleave (u : Transport) : view u.leaveRefer =
      { (view u).swapRefer with referContextActive := false } := by
    have hleft : view u.leaveRefer = view { u.swapRefer with referContextActive := false } :=
      hview.proposal _
    rw [hleft, hview.scope, hview.swap]
  have henter : view t.enterRefer = { (view t).swapRefer with referContextActive := true } := by
    have hentered : view t.enterRefer =
        view { t.openProposal.swapRefer with referContextActive := true } := rfl
    rw [hentered, hview.scope, hview.swap, hview.proposal]
  have hback : view (t.inRefer f) = view t.enterRefer.leaveRefer := by
    have hrun : view (t.inRefer f) = view (f t.enterRefer).leaveRefer := rfl
    rw [hrun, hleave, h, ← hleave]
  rw [hback, hleave, henter, swapRefer_scope, swapRefer_swapRefer]
  have hsame : (view t).referContextActive = false := (hview.active t).trans hscope
  rw [← hsame]

theorem swapView_standing : SwapView standing :=
  ⟨standing_swapRefer, fun _ _ => rfl, fun _ => rfl, fun _ => rfl⟩

end Transport

end EsphomeVoip
