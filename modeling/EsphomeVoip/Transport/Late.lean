import EsphomeVoip.Transport.Vain

/-! # Commands that come too late

The call component names a call in its commands, and may name one that the transport no longer
owns.  `send_bye` ignores such a command.  The other four let the name replace the Call-ID of the
owned dialog, and this module says exactly when they nevertheless do no harm. -/

namespace EsphomeVoip

namespace Transport

variable {w : World} {msg : SipMessage} {t : Transport}

/-! ## Late commands -/

/-- The call that a command names, for the five commands about one call. -/
def namedCall : Command → Option String
  | .sendRinging callId => some callId
  | .sendAnswer callId .. => some callId
  | .sendCancel callId => some callId
  | .sendBye callId => some callId
  | .sendFinalResponse callId .. => some callId
  | _ => none

/-- The command names a call that is neither the dialog's nor one that a logical id stands for. -/
def ForeignCall (callId : String) (t : Transport) : Prop :=
  callId ≠ t.dialog.callId ∧ ¬(callId = t.logicalCallId ∧ t.logicalWireId = t.dialog.callId)

instance (callId : String) (t : Transport) : Decidable (ForeignCall callId t) :=
  inferInstanceAs (Decidable (_ ∧ ¬(_ ∧ _)))

/-- The commands take an empty name, and the logical id, for the dialog at hand, whichever it is. -/
def AtHand (callId : String) (t : Transport) : Prop := callId = "" ∨ callId = t.logicalCallId

instance (callId : String) (t : Transport) : Decidable (AtHand callId t) :=
  inferInstanceAs (Decidable (_ ∨ _))

/-- Ending the dialog at hand comes to nothing: its BYE does, or the CANCEL of its INVITE, which has
    left already. -/
def EndsInVain (w : World) (t : Transport) : Prop :=
  if t.dialog.outgoingInvitePending then inviteQueued t.dialog = false ∧ t.cancelsInVain w = true
  else t.ByesInVain w

instance (w : World) (t : Transport) : Decidable (t.EndsInVain w) :=
  inferInstanceAs (Decidable (ite _ _ _))

/-- The state in which `send_answer` builds its SDP, but for the Call-ID. -/
def configuredForAnswer (callerToDest destToCaller : AudioFormat) (t : Transport) : Transport :=
  let t := t.setMediaConfig destToCaller callerToDest t.negotiation.txPayloadType
    t.negotiation.rxPayloadType t.negotiation.rxPayloads
  { t with dialog := { t.dialog with outgoingInvitePending := false } }

/-- The SDP that `send_answer` builds. -/
def answerSdp (w : World) (callerToDest destToCaller : AudioFormat) (t : Transport) : String :=
  let t := t.configuredForAnswer callerToDest destToCaller
  if t.dialog.delayedOfferPending then (t.buildSdpOffer w).1 else t.buildSdpAnswer w

/-- When a command that names another call does no harm. The commands but `send_bye` replace the
    Call-ID, unless they take the name for the dialog at hand or return early, and a failure
    response resets the dialog again. -/
def LateHarmless (w : World) (c : Command) (t : Transport) : Prop :=
  match c with
  | .sendRinging callId => AtHand callId t ∧ t.RespondsInVain w 180 "Ringing" "" ""
  | .sendCancel callId => AtHand callId t ∧ t.EndsInVain w
  | .sendBye callId => AtHand callId t → t.ByesInVain w
  | .sendFinalResponse callId .. =>
    if t.dialog.outgoingInvitePending then AtHand callId t ∧ t.EndsInVain w
    else t.dialog.callId = "" ∧ t.IsReset
  | .sendAnswer callId callerToDest destToCaller =>
    t.running = false ∨ t.stopping = true ∨
      if t.phase = .cleaning ∨ t.phase = .shuttingDown then AtHand callId t
      else if t.answerSdp w callerToDest destToCaller = "" then t.dialog.callId = "" ∧ t.IsReset
      else AtHand callId t ∧
        t.RespondsInVain w 200 "OK" (t.answerSdp w callerToDest destToCaller) ""
  | _ => True

theorem callId_of_holdings {a b : Transport} (h : a.holdings = b.holdings) :
    a.dialog.callId = b.dialog.callId :=
  congrArg (fun x => x.dialog.callId) h

/-- A command that leaves another name behind has done harm. -/
theorem not_isolated_of_named {callId : String} {r : Bool × Transport}
    (hforeign : callId ≠ t.dialog.callId) (h : r.1 = true ∨ r.2.dialog.callId = callId) :
    ¬Isolated t r := by
  rintro ⟨hfail, hheld⟩
  rcases h with h | h
  · rw [hfail] at h
    cases h
  · exact hforeign (h.symm.trans (callId_of_holdings hheld))

/-- A reset dialog has no INVITE to respond to. -/
theorem IsReset.unaddressed (h : t.IsReset) : t.dialog.lastInvitePeerIp = 0 := by
  have hh := isReset_iff.1 h
  exact (congrArg (fun x => x.dialog.lastInvitePeerIp) hh).symm

/-- A reset of anything that only differs from a reset dialog in its name and in what is not
    held. -/
theorem holdings_reset_of_reset {u : Transport} (h : t.IsReset)
    (hscope : u.referContextActive = t.referContextActive)
    (hheld : u.holdings.unnamed = t.holdings.unnamed) :
    u.resetDialog.holdings = t.holdings := by
  have hname : ∀ v : Transport, v.holdings.reset v.referContextActive =
      v.holdings.unnamed.reset v.referContextActive := fun v => rfl
  rw [holdings_resetDialog, hname u, hheld, hscope, ← hname t]
  exact isReset_iff.1 h

/-- A dialog that a reset has brought back to what it was had been reset before. -/
theorem isReset_of_restored {u : Transport} (hscope : u.referContextActive = t.referContextActive)
    (h : u.resetDialog.holdings = t.holdings) : t.dialog.callId = "" ∧ t.IsReset := by
  rw [holdings_resetDialog, hscope] at h
  refine ⟨(congrArg (fun x => x.dialog.callId) h).symm, ?_⟩
  rw [isReset_iff, ← h, Holdings.reset_reset]

/-- The failure branch that the two response commands share. -/
theorem failure_isolated_iff {u : Transport} (hscope : u.referContextActive = t.referContextActive)
    (hheld : u.holdings.unnamed = t.holdings.unnamed)
    (status : Nat) (phrase body reason : String) :
    Isolated t ((u.sendResponse w status phrase body reason).1,
      (u.sendResponse w status phrase body reason).2.resetDialog) ↔
        t.dialog.callId = "" ∧ t.IsReset := by
  have hname := name_sendResponse (w := w) (t := u) status phrase body reason
  constructor
  · rintro ⟨_, h⟩
    exact isReset_of_restored (hname.2.trans hscope) h
  · rintro ⟨_, h⟩
    have hpeer : u.dialog.lastInvitePeerIp = 0 :=
      (congrArg (fun x => x.dialog.lastInvitePeerIp) hheld).trans h.unaddressed
    rw [sendResponse_unaddressed hpeer]
    exact ⟨rfl, holdings_reset_of_reset h hscope hheld⟩

theorem holdings_adoptCallId (callId : String) :
    (t.adoptCallId callId).holdings.unnamed = t.holdings.unnamed := by
  have hlog : (if callId = t.dialog.callId then t.log else .renamed callId :: t.log).filter
      WireEntry.isSent = t.log.filter WireEntry.isSent := by
    split <;> rfl
  unfold adoptCallId
  split
  · unfold holdings
    dsimp only
    rw [hlog]
    rfl
  · rfl

theorem scope_adoptCallId (callId : String) :
    (t.adoptCallId callId).referContextActive = t.referContextActive := by
  unfold adoptCallId
  split <;> rfl

theorem adoptCallId_atHand {callId : String} (h : AtHand callId t) : t.adoptCallId callId = t := by
  unfold adoptCallId
  rw [if_neg]
  rintro ⟨hnamed, hlogical⟩
  exact h.elim hnamed hlogical

theorem callId_adoptCallId {callId : String} (h : ¬AtHand callId t) :
    (t.adoptCallId callId).dialog.callId = callId := by
  unfold AtHand at h
  unfold adoptCallId
  rw [if_pos (not_or.1 h)]

theorem sendBye_foreign {callId : String} (hown : callId ≠ t.dialog.callId)
    (h : ¬AtHand callId t) : t.sendBye w callId = (false, t) := by
  unfold AtHand at h
  rw [not_or] at h
  unfold sendBye sendByeWith
  rw [if_pos (.inr ⟨h.1, hown, h.2⟩)]

theorem sendCancel_atHand {callId : String} (h : AtHand callId t) :
    Isolated t (t.sendCancel w callId) ↔ t.EndsInVain w := by
  unfold sendCancel sendCancelWith EndsInVain
  rw [adoptCallId_atHand h]
  dsimp only
  cases t.dialog.outgoingInvitePending with
  | false =>
    rw [if_pos rfl, if_neg Bool.false_ne_true]
    exact sendBye_isolated_iff h
  | true =>
    rw [if_neg (by decide), if_pos rfl]
    split
    · rename_i hqueued
      rw [hqueued]
      exact ⟨fun hi => absurd hi (not_isolated_of_sent rfl), fun hv => by cases hv.1⟩
    · rename_i hqueued
      rw [sendCancelRequest_isolated_iff]
      exact ⟨fun hv => ⟨Bool.eq_false_iff.2 hqueued, hv⟩, And.right⟩

theorem sendCancel_isolated_iff {callId : String} (hown : callId ≠ t.dialog.callId) :
    Isolated t (t.sendCancel w callId) ↔ AtHand callId t ∧ t.EndsInVain w := by
  by_cases hhand : AtHand callId t
  · rw [sendCancel_atHand hhand]
    exact ⟨fun hv => ⟨hhand, hv⟩, And.right⟩
  · have hn := not_isolated_of_named hown
      (sendCancel_named (w := w) (not_or.1 hhand).1 (not_or.1 hhand).2)
    exact ⟨fun hi => absurd hi hn, fun h => absurd h.1 hhand⟩

theorem sendRinging_isolated_iff {callId : String} (hown : callId ≠ t.dialog.callId) :
    Isolated t (t.sendRinging w callId) ↔
      AtHand callId t ∧ t.RespondsInVain w 180 "Ringing" "" "" := by
  unfold sendRinging
  by_cases hhand : AtHand callId t
  · rw [adoptCallId_atHand hhand, sendResponse_isolated_iff]
    exact ⟨fun hv => ⟨hhand, hv⟩, And.right⟩
  · have hname := (name_sendResponse (w := w) (t := t.adoptCallId callId) 180 "Ringing" "" "").1
    have hn := not_isolated_of_named hown (.inr (hname.trans (callId_adoptCallId hhand)))
    exact ⟨fun hi => absurd hi hn, fun h => absurd h.1 hhand⟩

theorem sendFinalResponse_isolated_iff {callId : String} (hown : callId ≠ t.dialog.callId)
    (status : Nat) (reason : String) :
    Isolated t (t.sendFinalResponse w callId status reason) ↔
      LateHarmless w (.sendFinalResponse callId status reason) t := by
  have hout : (t.adoptCallId callId).dialog.outgoingInvitePending =
      t.dialog.outgoingInvitePending := by
    unfold adoptCallId
    split <;> rfl
  show _ ↔ if t.dialog.outgoingInvitePending then AtHand callId t ∧ t.EndsInVain w
    else t.dialog.callId = "" ∧ t.IsReset
  unfold sendFinalResponse
  dsimp only
  rw [hout]
  split
  · by_cases hhand : AtHand callId t
    · rw [adoptCallId_atHand hhand]
      exact sendCancel_isolated_iff hown
    · have hlogical : callId ≠ (t.adoptCallId callId).logicalCallId := by
        unfold adoptCallId
        split <;> exact (not_or.1 hhand).2
      have hn := not_isolated_of_named hown (sendCancel_named (w := w) (not_or.1 hhand).1 hlogical)
      exact ⟨fun hi => absurd hi hn, fun h => absurd h.1 hhand⟩
  · exact failure_isolated_iff (scope_adoptCallId callId) (holdings_adoptCallId callId) _ _ _ _

/-- The state in which `send_answer` sends what it has built. -/
def answering (negotiation : Negotiation) (t : Transport) : Transport :=
  { t with
    negotiation := negotiation
    dialog := { t.dialog with outgoingInvitePending := false } }

/-- What `send_answer` builds its SDP from does not depend on the name of the dialog. -/
theorem configured_adoptCallId (callId : String) (callerToDest destToCaller : AudioFormat) :
    let u := (t.adoptCallId callId).configuredForAnswer callerToDest destToCaller
    u.phase = t.phase ∧ u.dialog.delayedOfferPending = t.dialog.delayedOfferPending ∧
      u.sdpContext = (t.configuredForAnswer callerToDest destToCaller).sdpContext ∧
      u.dialog.remoteIp = t.dialog.remoteIp := by
  unfold adoptCallId
  split
  · exact ⟨rfl, rfl, rfl, rfl⟩
  · exact ⟨rfl, rfl, rfl, rfl⟩

/-- The outcome of `send_answer` up to what it sends. -/
theorem sendAnswer_cases (callId : String) (callerToDest destToCaller : AudioFormat)
    (hrun : ¬(t.running = false ∨ t.stopping = true)) : ∃ n,
      ((t.phase = .cleaning ∨ t.phase = .shuttingDown) ∧
        t.sendAnswer w callId callerToDest destToCaller =
          (false, (t.adoptCallId callId).answering n)) ∨
      (¬(t.phase = .cleaning ∨ t.phase = .shuttingDown) ∧
        t.sendAnswer w callId callerToDest destToCaller =
          ((t.adoptCallId callId).answering n).sendBuiltAnswer w
            (t.answerSdp w callerToDest destToCaller)) := by
  obtain ⟨hphase, hdelayed, hctx, hip⟩ :=
    configured_adoptCallId (t := t) callId callerToDest destToCaller
  -- Past its two early exits the command adopts the name and takes the formats over.
  have hunfold : t.sendAnswer w callId callerToDest destToCaller =
      let u := (t.adoptCallId callId).configuredForAnswer callerToDest destToCaller
      if u.phase = .cleaning ∨ u.phase = .shuttingDown then (false, u)
      else if u.dialog.delayedOfferPending then
        (u.buildSdpOffer w).2.sendBuiltAnswer w (u.buildSdpOffer w).1
      else u.sendBuiltAnswer w (u.buildSdpAnswer w) := by
    unfold sendAnswer
    rw [if_neg hrun]
    rfl
  dsimp only at hunfold
  rw [hunfold, hphase, hdelayed]
  -- A path that is being torn down lets it fail before an SDP is built.
  by_cases hbad : t.phase = .cleaning ∨ t.phase = .shuttingDown
  · rw [if_pos hbad]
    exact ⟨_, .inl ⟨hbad, rfl⟩⟩
  · -- The SDP is the one that would be built under the old name.
    have hsdp : t.answerSdp w callerToDest destToCaller =
        let u := (t.adoptCallId callId).configuredForAnswer callerToDest destToCaller
        if t.dialog.delayedOfferPending then (u.buildSdpOffer w).1 else u.buildSdpAnswer w := by
      unfold answerSdp buildSdpOffer buildSdpAnswer
      dsimp only
      rw [hctx, hip]
      rfl
    rw [if_neg hbad, hsdp]
    by_cases hd : t.dialog.delayedOfferPending = true
    · simp only [if_pos hd]
      exact ⟨_, .inr ⟨hbad, rfl⟩⟩
    · simp only [if_neg hd]
      exact ⟨_, .inr ⟨hbad, rfl⟩⟩

/-- An answer that could be built keeps the name of its dialog. -/
theorem sendBuiltAnswer_named {answer : String} (h : answer ≠ "") :
    (t.sendBuiltAnswer w answer).2.dialog.callId = t.dialog.callId := by
  have hname := (name_sendResponse (w := w) (t := t) 200 "OK" answer "").1
  unfold sendBuiltAnswer
  rw [if_neg h]
  dsimp only
  split
  · unfold confirmLocalSdp openMediaSession
    dsimp only
    repeat' split
    all_goals exact hname
  · exact hname

/-- An answer that could be built is isolated when its response is. -/
theorem sendBuiltAnswer_isolated_iff {answer : String} (h : answer ≠ "") :
    Isolated t (t.sendBuiltAnswer w answer) ↔ t.RespondsInVain w 200 "OK" answer "" := by
  rw [← sendResponse_isolated_iff]
  unfold sendBuiltAnswer
  rw [if_neg h]
  dsimp only
  split
  · rename_i hsent
    exact ⟨fun hi => absurd hi (not_isolated_of_sent rfl),
      fun hi => absurd hi (not_isolated_of_sent hsent)⟩
  · exact Iff.rfl

theorem answering_isolated_iff (n : Negotiation) {answer : String} (h : answer ≠ "") :
    Isolated t ((t.answering n).sendBuiltAnswer w answer) ↔
      t.RespondsInVain w 200 "OK" answer "" := by
  have hheld : (t.answering n).holdings = t.holdings := rfl
  have hvain : (t.answering n).RespondsInVain w 200 "OK" answer "" ↔
      t.RespondsInVain w 200 "OK" answer "" := Iff.rfl
  rw [← hvain, ← sendBuiltAnswer_isolated_iff h]
  unfold Isolated
  rw [hheld]

theorem sendAnswer_isolated_iff {callId : String} (hown : callId ≠ t.dialog.callId)
    (callerToDest destToCaller : AudioFormat) :
    Isolated t (t.sendAnswer w callId callerToDest destToCaller) ↔
      LateHarmless w (.sendAnswer callId callerToDest destToCaller) t := by
  show _ ↔ t.running = false ∨ t.stopping = true ∨
    if t.phase = .cleaning ∨ t.phase = .shuttingDown then AtHand callId t
    else if t.answerSdp w callerToDest destToCaller = "" then t.dialog.callId = "" ∧ t.IsReset
    else AtHand callId t ∧ t.RespondsInVain w 200 "OK" (t.answerSdp w callerToDest destToCaller) ""
  by_cases hrun : t.running = false ∨ t.stopping = true
  · have hnone : t.sendAnswer w callId callerToDest destToCaller = (false, t) := by
      unfold sendAnswer
      rw [if_pos hrun]
    rw [hnone]
    constructor
    · exact fun _ => hrun.elim .inl fun hs => .inr (.inl hs)
    · exact fun _ => ⟨rfl, rfl⟩
  · have hdrop (p : Prop) : (t.running = false ∨ t.stopping = true ∨ p) ↔ p := by
      rw [← or_assoc]
      exact ⟨fun h => h.resolve_left hrun, .inr⟩
    rw [hdrop]
    -- A name that replaces the Call-ID stays, but for a reset.
    have hkept (hhand : ¬AtHand callId t) (n : Negotiation) :
        ((t.adoptCallId callId).answering n).dialog.callId = callId := callId_adoptCallId hhand
    obtain ⟨n, ⟨hbad, he⟩ | ⟨hgood, he⟩⟩ :=
      sendAnswer_cases (w := w) callId callerToDest destToCaller hrun
    · rw [he, if_pos hbad]
      constructor
      · intro hi
        exact Decidable.byContradiction fun hhand =>
          not_isolated_of_named hown (.inr (hkept hhand n)) hi
      · intro hhand
        rw [adoptCallId_atHand hhand]
        exact ⟨rfl, rfl⟩
    · rw [he, if_neg hgood]
      by_cases hsdp : t.answerSdp w callerToDest destToCaller = ""
      · rw [if_pos hsdp]
        unfold sendBuiltAnswer
        rw [if_pos hsdp]
        have hscope : ((t.adoptCallId callId).answering n).referContextActive =
            t.referContextActive := scope_adoptCallId callId
        have hheld : ((t.adoptCallId callId).answering n).holdings.unnamed = t.holdings.unnamed :=
          holdings_adoptCallId callId
        exact failure_isolated_iff hscope hheld 488 "Not Acceptable Here" "" "media_incompatible"
      · rw [if_neg hsdp]
        by_cases hhand : AtHand callId t
        · rw [adoptCallId_atHand hhand]
          rw [answering_isolated_iff n hsdp]
          exact ⟨fun hv => ⟨hhand, hv⟩, And.right⟩
        · have hn : ¬Isolated t (((t.adoptCallId callId).answering n).sendBuiltAnswer w
              (t.answerSdp w callerToDest destToCaller)) :=
            not_isolated_of_named hown (.inr ((sendBuiltAnswer_named hsdp).trans (hkept hhand n)))
          exact ⟨fun hi => absurd hi hn, fun h => absurd h.1 hhand⟩

/-- A command that names another call fails, sends nothing and leaves the holdings of the
    transport alone exactly when it is harmless. -/
theorem late_command_isolated_iff (w : World) (t : Transport) (c : Command) (callId : String)
    (hcall : namedCall c = some callId) (hforeign : ForeignCall callId t) :
    Isolated t (t.exec w c) ↔ LateHarmless w c t := by
  obtain ⟨hown, _⟩ := hforeign
  cases c with
  | sendRinging id =>
    obtain rfl : id = callId := by simpa [namedCall] using hcall
    exact sendRinging_isolated_iff hown
  | sendAnswer id callerToDest destToCaller =>
    obtain rfl : id = callId := by simpa [namedCall] using hcall
    exact sendAnswer_isolated_iff hown callerToDest destToCaller
  | sendCancel id =>
    obtain rfl : id = callId := by simpa [namedCall] using hcall
    exact sendCancel_isolated_iff hown
  | sendBye id =>
    obtain rfl : id = callId := by simpa [namedCall] using hcall
    show Isolated t (t.sendBye w id) ↔ (AtHand id t → t.ByesInVain w)
    by_cases hhand : AtHand id t
    · rw [sendBye_isolated_iff hhand]
      exact ⟨fun hv _ => hv, fun hv => hv hhand⟩
    · rw [sendBye_foreign hown hhand]
      exact ⟨fun _ h => absurd h hhand, fun _ => ⟨rfl, rfl⟩⟩
  | sendFinalResponse id status reason =>
    obtain rfl : id = callId := by simpa [namedCall] using hcall
    exact sendFinalResponse_isolated_iff hown status reason
  | _ => cases hcall

/-- A 180 for a call that is long over gives an idle transport a dialog again. -/
theorem late_ringing_adopts_its_call :
    ¬ ∀ (es : List Event) (c : Command) (callId : String),
      let t := EventRun.after (step grantingWorld) {} es
      namedCall c = some callId → ForeignCall callId t → Isolated t (t.exec grantingWorld c) := by
  intro h
  have hr := h [] (.sendRinging "over") "over" rfl (by decide)
  exact absurd hr (by decide)

/-- Hall's call rings, and Hall gives up. -/
def hallGaveUp : Transport :=
  EventRun.after (step grantingWorld) {}
    [.udp (inviteFromHall "hall" "b1" 1 "") hall,
      .command (.sendRinging "hall"),
      .udp { inviteFromHall "hall" "b1" 1 "" with
        start := .request .cancel { user := "kitchen" }
        cseq := some { number := 1, method := .cancel } } hall]

/-- A refusal of Hall's call that comes after Hall gave up finds nothing to respond to. -/
theorem late_failure_isolated :
    Isolated hallGaveUp (hallGaveUp.exec grantingWorld (.sendFinalResponse "hall" 486 "busy")) :=
  (late_command_isolated_iff grantingWorld hallGaveUp (.sendFinalResponse "hall" 486 "busy") "hall"
    rfl (by decide +kernel)).2
    (show if hallGaveUp.dialog.outgoingInvitePending
      then AtHand "hall" hallGaveUp ∧ hallGaveUp.EndsInVain grantingWorld
      else hallGaveUp.dialog.callId = "" ∧ hallGaveUp.IsReset by decide +kernel)

end Transport

end EsphomeVoip
