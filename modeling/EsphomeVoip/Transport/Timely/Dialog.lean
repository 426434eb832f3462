import EsphomeVoip.Transport.Timely.Send

/-! # Timers while dialogs end and begin

A reset takes the client transactions of its dialog away.  What the second dialog of a transfer does
in place of the owner keeps what is known of both, and leaves the transfer to act on what was
reported. -/

namespace EsphomeVoip

open WrapClock (millis timeReached)

namespace Transport

variable {k : Watch} {w : World} {t u : Transport} {m msg : SipMessage} {src : Peer}

/-! ## Media -/

theorem Timely.openMediaSession (h : Timely k t)
    (hidle : k.scope = false → t.dialog.pendingInvite = none) : Timely k t.openMediaSession := by
  unfold Transport.openMediaSession
  split
  · exact h
  · rename_i hscope
    rw [h.scope, Bool.not_eq_true] at hscope
    have hown := h.own.withRole (hidle hscope)
    have hother := h.other
    rw [hscope] at hother
    refine { h with own := hown _ _, other := ?_ }
    rw [hscope]
    exact hother

theorem Timely.closeMediaSession (h : Timely k t) : Timely k t.closeMediaSession := by
  unfold Transport.closeMediaSession
  split
  · exact h
  · rename_i hscope
    rw [h.scope, Bool.not_eq_true] at hscope
    have hown := h.own
    have hother := h.other
    rw [hscope] at hown hother
    refine { h with own := ?_, other := ?_ }
    · rw [hscope]
      refine { hown with calling := fun hsome => ?_ }
      obtain ⟨hcall, hnumber, hip, _, hpending⟩ := hown.calling hsome
      exact ⟨hcall, hnumber, hip, rfl, hpending⟩
    · rw [hscope]
      exact hother

theorem Timely.requestAudioPathStop (h : Timely k t) : Timely k t.requestAudioPathStop := by
  have hclosed := h.closeMediaSession
  unfold Transport.requestAudioPathStop
  dsimp only
  repeat' split
  all_goals exact hclosed.congr rfl

theorem Timely.stopOwnAudioPath (h : Timely k t) : Timely k t.stopOwnAudioPath := by
  unfold Transport.stopOwnAudioPath
  split
  · exact h
  · exact h.requestAudioPathStop

theorem agenda_prepareVideoSession : (t.prepareVideoSession w).2.agenda = t.agenda := by
  unfold prepareVideoSession
  dsimp only
  repeat' split
  all_goals rfl

theorem agenda_bindMediaPath : (t.bindMediaPath w).2.agenda = t.agenda := by
  have hvideo := agenda_prepareVideoSession (w := w)
    (t := ({ t with rtpLatch := none }.resource w).2)
  unfold bindMediaPath
  dsimp only
  split
  · rfl
  · split <;> exact hvideo

theorem agenda_prepareMediaPathLocked : (t.prepareMediaPathLocked w).2.agenda = t.agenda := by
  unfold prepareMediaPathLocked
  split
  · rfl
  · split
    · rfl
    · exact agenda_bindMediaPath

theorem agenda_commitMediaPathLocked : (t.commitMediaPathLocked w).2.agenda = t.agenda := by
  unfold commitMediaPathLocked
  dsimp only
  repeat' split
  all_goals rfl

/-! ## Signals -/

/-- The answer of the second dialog is reported when its INVITE is not outstanding any longer. -/
theorem Timely.emitSipSignal (h : Timely k t) (signal : SipSignal)
    (hidle : k.scope = true → signal.type = .status200Ok →
      k.calm = false ∧ t.dialog.pendingInvite = none) : Timely k (t.emitSipSignal signal) := by
  unfold Transport.emitSipSignal
  split
  · rename_i hscope
    rw [h.scope] at hscope
    have hown := h.own
    have hother := h.other
    rw [hscope] at hown hother
    have hanswered (htype : signal.type ≠ .status200Ok) : ({ t with
        referSignalType := signal.type
        referStatus := signal.statusCode
        referSignalPending := true } : Transport).answered = false := by
      simp [answered, htype]
    refine { h with own := ?_, other := ?_, calm := fun hcalm => ?_ }
    · rw [hscope]
      by_cases htype : signal.type = .status200Ok
      · exact hown.withRole (hidle hscope htype).2 _ _
      · refine { hown with calling := fun hsome => ?_ }
        obtain ⟨hcall, hnumber, hip, _, hpending⟩ := hown.calling hsome
        exact ⟨hcall, hnumber, hip, hanswered htype, hpending⟩
    · rw [hscope]
      exact hother
    · refine hanswered fun htype => ?_
      rw [(hidle hscope htype).1] at hcalm
      cases hcalm
  · exact h.congr rfl

/-- A signal that reports no answer. -/
theorem Timely.emitOther (h : Timely k t) {signal : SipSignal}
    (htype : signal.type ≠ .status200Ok) :
    Timely k (t.emitSipSignal signal) :=
  h.emitSipSignal signal fun _ hanswer => absurd hanswer htype

/-! ## Reset -/

/-- A dialog after its reset. -/
theorem lineTimely_resetOf {P : UdpTransaction → Prop} {candidate blocked : Bool} {d : Dialog}
    (h : LineTimely P candidate blocked d) (candidate' blocked' : Bool) :
    LineTimely P candidate' blocked' (resetOf d) :=
  ⟨fun _ _ hx => (nomatch hx), fun _ hx => (nomatch hx), fun _ hx => (nomatch hx),
    fun _ hx => (nomatch hx), h.final, fun hsome => (nomatch hsome)⟩

theorem Timely.resetOwnerMedia (h : Timely k t) : Timely k t.resetOwnerMedia := by
  have hstopped := h.requestAudioPathStop
  have hvideo : Timely k { t.requestAudioPathStop with
      video := { t.requestAudioPathStop.video with pendingDirection := none } } :=
    { hstopped with direction := fun p hp => nomatch hp }
  exact hvideo.congr rfl

theorem Timely.resetDialog (h : Timely k t) : Timely k t.resetDialog := by
  unfold Transport.resetDialog
  dsimp only
  generalize hu : (if (t.record (.closed t.dialog.callId t.dialog.terminateAfterInviteAck)
    ).referContextActive = true then _ else _) = u
  have hclosed : Timely k (t.record (.closed t.dialog.callId t.dialog.terminateAfterInviteAck)) :=
    h.congr (agenda_record _)
  have hu' : Timely k u := by
    rw [← hu]
    split
    · exact hclosed
    · exact hclosed.resetOwnerMedia
  have hdialog := hu'.withDialog (lineTimely_resetOf hu'.own _ _)
  exact { hdialog with provisional := fun p hp => nomatch hp }

/-! ## The second dialog of a transfer -/

theorem Timely.enterRefer (h : Timely k t) (hscope : k.scope = false)
    (hsome : t.referDialog.isSome = true) : Timely k.entered t.enterRefer := by
  obtain ⟨r, hr⟩ := Option.isSome_iff_exists.1 hsome
  have hown := h.own
  have hother := h.other r hr
  rw [hscope] at hown hother
  have he : t.enterRefer = { t with
      mediaProposalEpoch := t.mediaProposalEpoch + 1
      dialog := r.dialog
      negotiation := r.negotiation
      referDialog := some { r with dialog := t.dialog, negotiation := t.negotiation }
      referContextActive := true } := by
    unfold Transport.enterRefer swapRefer
    have hr' : t.openProposal.referDialog = some r := hr
    rw [hr']
    rfl
  rw [he]
  refine ⟨h.clock, rfl, hother, ?_, ?_, h.provisional, h.direction, h.calm⟩
  · rintro r' ⟨rfl⟩
    exact hown
  · rintro r' ⟨rfl⟩
    exact h.notify r hr

theorem Timely.leaveRefer (h : Timely k.entered t) (hscope : k.scope = false)
    (hsome : t.referDialog.isSome = true) : Timely k t.leaveRefer := by
  obtain ⟨r, hr⟩ := Option.isSome_iff_exists.1 hsome
  have he : t.leaveRefer = { t with
      mediaProposalEpoch := t.mediaProposalEpoch + 1
      dialog := r.dialog
      negotiation := r.negotiation
      referDialog := some { r with dialog := t.dialog, negotiation := t.negotiation }
      referContextActive := false } := by
    unfold Transport.leaveRefer swapRefer
    rw [hr]
    rfl
  rw [he]
  have hother := h.other r hr
  have hown := h.own
  refine ⟨h.clock, hscope.symm, ?_, ?_, ?_, h.provisional, h.direction, h.calm⟩
  · rw [hscope]
    exact hother
  · rintro r' ⟨rfl⟩
    rw [hscope]
    exact hown
  · rintro r' ⟨rfl⟩
    exact h.notify r hr

theorem Timely.unsettle (h : Timely k t) : Timely k.unsettled t :=
  { h with calm := fun hcalm => nomatch hcalm }

/-- What the second dialog does in place of the owner, perhaps to what is known of it. -/
theorem Timely.inReferTo {k' : Watch} (h : Timely k t) (hscope : k.scope = false)
    (hscope' : k'.scope = false) (hsome : t.referDialog.isSome = true) {f : Transport → Transport}
    (hf : Timely k.entered t.enterRefer → Timely k'.entered (f t.enterRefer))
    (hkeeps : (t.inRefer f).referDialog.isSome = t.referDialog.isSome) :
    Timely k' (t.inRefer f) := by
  have hsome' : (f t.enterRefer).referDialog.isSome = true := by
    rw [← hsome, ← hkeeps]
    exact (isSome_swapRefer (t := f t.enterRefer)).symm
  exact (hf (h.enterRefer hscope hsome)).leaveRefer hscope' hsome'

theorem Timely.inRefer (h : Timely k t) (hscope : k.scope = false)
    (hsome : t.referDialog.isSome = true) {f : Transport → Transport}
    (hf : Timely k.entered t.enterRefer → Timely k.entered (f t.enterRefer))
    (hkeeps : (t.inRefer f).referDialog.isSome = t.referDialog.isSome) : Timely k (t.inRefer f) :=
  h.inReferTo hscope hscope hsome hf hkeeps

/-- Whether the second dialog may have an outstanding INVITE depends on the answer it reported. -/
theorem Timely.withAnswered (h : Timely k.unsettled t)
    (hu : u = { t with referRetiring := u.referRetiring
                       referSignalPending := u.referSignalPending })
    (hanswered : u.answered = false) : Timely k u := by
  have hmedia : u.mediaActive = t.mediaActive := by rw [hu]
  have hdialog : u.dialog = t.dialog := by rw [hu]
  have hrefer : u.referDialog = t.referDialog := by rw [hu]
  have hblocked (c : Bool) (hb : t.blocked c = false) : u.blocked c = false := by
    cases c
    · exact hmedia.trans hb
    · exact hanswered
  have hline {P : UdpTransaction → Prop} {c b : Bool} {d : Dialog}
      (hd : LineTimely P c (t.blocked b) d) : LineTimely P c (u.blocked b) d := by
    refine { hd with calling := fun hsome => ?_ }
    obtain ⟨hcall, hnumber, hip, hb, hpending⟩ := hd.calling hsome
    exact ⟨hcall, hnumber, hip, hblocked b hb, hpending⟩
  refine ⟨?_, ?_, ?_, ?_, ?_, ?_, ?_, fun _ => hanswered⟩
  · rw [hu]
    exact h.clock
  · rw [hu]
    exact h.scope
  · rw [hdialog]
    exact hline h.own
  · rw [hrefer]
    exact fun r hr => hline (h.other r hr)
  · rw [hrefer]
    exact h.notify
  · rw [hu]
    exact h.provisional
  · rw [hu]
    exact h.direction

/-- The second dialog has no answer that the transfer is yet to act on. -/
theorem Timely.settle (h : Timely k.unsettled t) (hanswered : t.answered = false) : Timely k t :=
  h.withAnswered rfl hanswered

/-- The transfer is given up. -/
theorem Timely.retire (h : Timely k.unsettled t) : Timely k { t with referRetiring := true } :=
  h.withAnswered rfl (by simp [answered])

end Transport

end EsphomeVoip
