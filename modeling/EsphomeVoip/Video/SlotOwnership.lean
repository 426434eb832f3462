import EsphomeVoip.Video.ReceiveWorker

/-! # Who owns a receive slot

Each slot is free, or it is the one that is filled, or it is with the sink, and its memory is
written in the second case alone.  A video session with JPEG lends its one slot to the sink for the
length of a call and never hands it over. -/

namespace EsphomeVoip

namespace VideoRtpSession

namespace ReceiveWorker

variable {w : ReceiveWorker}

/-! ## The invariant -/

/-- The slots that are with the sink. -/
def leased (w : ReceiveWorker) : List Nat := w.leases.map (·.1)

/-- The state that a slot has to be in. -/
def stateOf (w : ReceiveWorker) (slot : Nat) : UInt8 :=
  if w.session.reassemblySlot = some slot then 1 else if slot ∈ w.leased then 2 else 0

/-- What the phase says about `reassembly_slot_`. -/
def PhaseOk (w : ReceiveWorker) : Prop :=
  match w.phase with
  | .idle => True
  | .acquiring _ _ | .rearming _ _ => w.session.reassemblySlot = none
  | .handling _ => w.session.reassemblySlot.isSome
  | .delivering _ _ slot =>
    w.session.reassemblySlot = none ∧ slot < w.session.receiveAccessUnits.length

theorem PhaseOk.of_eq (h : w.PhaseOk) {w' : ReceiveWorker}
    (hslot : w'.session.reassemblySlot = w.session.reassemblySlot)
    (hlength : w'.session.receiveAccessUnits.length = w.session.receiveAccessUnits.length)
    (hphase : w'.phase = w.phase) : w'.PhaseOk := by
  rw [PhaseOk, hphase, hslot, hlength]
  exact h

/-- Every slot has one owner, and what the sink was handed is still there. -/
structure Owned (w : ReceiveWorker) : Prop where
  states : ∀ slot r, w.session.receiveAccessUnits[slot]? = some r → r.state = w.stateOf slot
  memory : w.memory.length = w.session.receiveAccessUnits.length
  filling : ∀ slot, w.session.reassemblySlot = some slot →
    slot < w.session.receiveAccessUnits.length ∧ slot ∉ w.leased
  distinct : w.leased.Nodup
  bytes : ∀ lease ∈ w.leases, w.memory[lease.1]? = some lease.2
  phase : w.PhaseOk

theorem owned_created (s : VideoRtpSession) : Owned (created s) where
  states := by
    intro slot r hr
    rw [created, List.getElem?_map, Option.map_eq_some_iff] at hr
    obtain ⟨_, _, rfl⟩ := hr
    rfl
  memory := by simp [created]
  filling := fun _ h => nomatch h
  distinct := List.nodup_nil
  bytes := fun _ h => nomatch h
  phase := trivial

/-- The slots are as they were. -/
structure SameSlots (s s' : VideoRtpSession) : Prop where
  units : s'.receiveAccessUnits = s.receiveAccessUnits
  slot : s'.reassemblySlot = s.reassemblySlot

theorem SameSlots.refl (s : VideoRtpSession) : SameSlots s s := ⟨rfl, rfl⟩

theorem SameSlots.trans {s s' t : VideoRtpSession} (h : SameSlots s s')
    (h' : SameSlots s' t) : SameSlots s t :=
  ⟨h'.units.trans h.units, h'.slot.trans h.slot⟩

/-- The worker goes on without a change of a slot. -/
theorem Owned.goOn (h : Owned w) {s : VideoRtpSession} (hs : SameSlots w.session s)
    (phase : WorkerPhase) (hphase : PhaseOk { w with session := s, phase := phase }) :
    Owned { w with session := s, phase := phase } where
  states := by
    intro slot r hr
    rw [show ({ w with session := s, phase := phase } : ReceiveWorker).stateOf slot =
      w.stateOf slot by rw [stateOf, stateOf, hs.slot]; rfl]
    rw [hs.units] at hr
    exact h.states slot r hr
  memory := by rw [hs.units]; exact h.memory
  filling := by
    rw [hs.slot, hs.units]
    exact h.filling
  distinct := h.distinct
  bytes := h.bytes
  phase := hphase

/-- The memory of the slot that is filled is written. -/
theorem Owned.write (h : Owned w) {slot : Nat} (hslot : w.session.reassemblySlot = some slot)
    (bytes : ByteSpan) : Owned (w.write bytes) where
  states := h.states
  memory := by rw [ReceiveWorker.write, List.length_set]; exact h.memory
  filling := h.filling
  distinct := h.distinct
  bytes := by
    intro lease hlease
    have hne : slot ≠ lease.1 := by
      intro heq
      exact (h.filling slot hslot).2 (heq ▸ List.mem_map_of_mem hlease)
    rw [ReceiveWorker.write, hslot, Option.getD_some]
    rw [List.getElem?_set_ne hne]
    exact h.bytes lease hlease
  phase := h.phase

theorem slot_of_setSlotState {s : VideoRtpSession} {slot i : Nat} {state : UInt8}
    {q : ReceiveAccessUnitSlot}
    (hq : (s.setSlotState slot state).receiveAccessUnits[i]? = some q) :
    i = slot ∧ q.state = state ∨ i ≠ slot ∧ s.receiveAccessUnits[i]? = some q := by
  rw [setSlotState, List.getElem?_modify] at hq
  by_cases hi : slot = i
  · subst hi
    rw [Option.map_eq_map, Option.map_eq_some_iff] at hq
    obtain ⟨r, _, rfl⟩ := hq
    exact .inl ⟨rfl, by rw [if_pos rfl]⟩
  · refine .inr ⟨Ne.symm hi, ?_⟩
    simpa [hi] using hq

theorem lt_of_slot {s : VideoRtpSession} {i : Nat} {r : ReceiveAccessUnitSlot}
    (h : s.receiveAccessUnits[i]? = some r) : i < s.receiveAccessUnits.length :=
  (List.getElem?_eq_some_iff.mp h).1

/-- A free slot is with nobody. -/
theorem Owned.free (h : Owned w) {slot : Nat} {r : ReceiveAccessUnitSlot}
    (hr : w.session.receiveAccessUnits[slot]? = some r) (hfree : r.state = 0) :
    w.session.reassemblySlot ≠ some slot ∧ slot ∉ w.leased := by
  have hstate := h.states slot r hr
  rw [hfree, stateOf] at hstate
  by_cases hfilling : w.session.reassemblySlot = some slot
  · rw [if_pos hfilling] at hstate
    exact absurd hstate (by decide)
  · rw [if_neg hfilling] at hstate
    refine ⟨hfilling, fun hmem => ?_⟩
    rw [if_pos hmem] at hstate
    exact absurd hstate (by decide)

/-- A free slot is taken. -/
theorem Owned.acquire (h : Owned w) (hnone : w.session.reassemblySlot = none) {slot : Nat}
    {r : ReceiveAccessUnitSlot} (hr : w.session.receiveAccessUnits[slot]? = some r)
    (hfree : r.state = 0) (phase : WorkerPhase)
    (hphase : phase = .idle ∨ ∃ c, phase = .handling c) :
    Owned { w with
      session := { w.session.setSlotState slot 1 with reassemblySlot := some slot }
      phase := phase } where
  states := by
    intro i q hq
    rcases slot_of_setSlotState hq with ⟨rfl, hstate⟩ | ⟨hne, hq⟩
    · rw [hstate, stateOf, if_pos rfl]
    · have hother : w.stateOf i = if i ∈ w.leased then 2 else 0 := by
        rw [stateOf, hnone, if_neg (by simp)]
      rw [h.states i q hq, hother]
      exact (if_neg (by simpa using Ne.symm hne)).symm
  memory := by
    simp only [setSlotState, List.length_modify]
    exact h.memory
  filling := by
    intro i hi
    cases hi
    simp only [setSlotState, List.length_modify]
    exact ⟨lt_of_slot hr, (h.free hr hfree).2⟩
  distinct := h.distinct
  bytes := h.bytes
  phase := by
    rcases hphase with rfl | ⟨c, rfl⟩
    · trivial
    · rfl

/-- The slot that is filled goes to the sink. -/
theorem Owned.deliver (h : Owned w) {slot : Nat} (hslot : w.session.reassemblySlot = some slot)
    {data : ByteSpan} (hdata : w.memory[slot]? = some data) {s : VideoRtpSession}
    (hunits : s.receiveAccessUnits = (w.session.setSlotState slot 2).receiveAccessUnits)
    (hnone : s.reassemblySlot = none) (c : Call) (ok : Bool) :
    Owned { w with
      session := s
      phase := .delivering c ok slot
      leases := w.leases ++ [(slot, data)] } := by
  -- The slot joins those that are lent out, which it was not among.
  have hleased : ({ w with
      session := s
      phase := .delivering c ok slot
      leases := w.leases ++ [(slot, data)] } : ReceiveWorker).leased = w.leased ++ [slot] := by
    simp [leased]
  obtain ⟨hlt, hfresh⟩ := h.filling slot hslot
  have hlength : s.receiveAccessUnits.length = w.session.receiveAccessUnits.length := by
    rw [hunits]
    simp only [setSlotState, List.length_modify]
  constructor
  · intro i q hq
    rw [stateOf, hleased, if_neg (by simp [hnone])]
    rw [hunits] at hq
    rcases slot_of_setSlotState hq with ⟨rfl, hstate⟩ | ⟨hne, hq⟩
    · rw [hstate, if_pos (by simp)]
    · rw [h.states i q hq, stateOf, hslot, if_neg (by simpa using Ne.symm hne)]
      simp [hne]
  · exact h.memory.trans hlength.symm
  · intro i hi
    rw [hnone] at hi
    cases hi
  · rw [hleased, List.nodup_append]
    refine ⟨h.distinct, by simp, ?_⟩
    intro i hi j hj heq
    rw [List.mem_singleton] at hj
    exact hfresh (hj ▸ heq ▸ hi)
  · intro lease hlease
    rcases List.mem_append.mp hlease with hlease | hlease
    · exact h.bytes lease hlease
    · rw [List.mem_singleton.mp hlease]
      exact hdata
  · exact ⟨hnone, by rw [hlength]; exact hlt⟩

theorem leased_endLease (slot : Nat) (w : ReceiveWorker) :
    (w.endLease slot).leased = w.leased.filter (· != slot) := by
  rw [endLease, leased, leased, List.filter_map]
  rfl

/-- A slot that is not filled is given back. -/
theorem Owned.giveBack (h : Owned w) {slot : Nat} (hslot : w.session.reassemblySlot ≠ some slot)
    {s : VideoRtpSession} (hs : SameSlots (w.session.releaseReassemblySlot slot) s)
    (phase : WorkerPhase) (hphase : PhaseOk { w.endLease slot with session := s, phase := phase }) :
    Owned { w.endLease slot with session := s, phase := phase } := by
  have hleased : ({ w.endLease slot with session := s, phase := phase } : ReceiveWorker).leased =
      w.leased.filter (· != slot) := leased_endLease slot w
  have hsame : s.reassemblySlot = w.session.reassemblySlot := hs.slot
  have hlength : s.receiveAccessUnits.length = w.session.receiveAccessUnits.length := by
    rw [hs.units]
    simp only [releaseReassemblySlot, setSlotState, List.length_modify]
  constructor
  · intro i q hq
    rw [stateOf, hleased, hsame]
    rw [hs.units] at hq
    rcases slot_of_setSlotState hq with ⟨rfl, hstate⟩ | ⟨hne, hq⟩
    · rw [hstate, if_neg hslot, if_neg (by simp)]
    · rw [h.states i q hq, stateOf]
      simp [hne]
  · exact h.memory.trans hlength.symm
  · intro i hi
    rw [hsame] at hi
    rw [hlength, hleased]
    exact ⟨(h.filling i hi).1, fun hmem => (h.filling i hi).2 (List.mem_filter.mp hmem).1⟩
  · rw [hleased]
    exact h.distinct.filter _
  · intro lease hlease
    exact h.bytes lease (List.mem_filter.mp hlease).1
  · exact hphase

/-! ## What does not touch a slot -/

theorem sameSlots_handleRtpKeepalive (packet : ByteSpan) (port : UInt16) (ssrc : UInt32)
    (s : VideoRtpSession) : SameSlots s (s.handleRtpKeepalive packet port ssrc) := by
  rw [handleRtpKeepalive]
  repeat' split
  all_goals exact ⟨rfl, rfl⟩

theorem sameSlots_followSource (packet : ByteSpan) (s : VideoRtpSession) :
    SameSlots s (s.followSource packet) := by
  rw [followSource]
  split <;> exact ⟨rfl, rfl⟩

theorem sameSlots_receiveBegins (d : Datagram) (s : VideoRtpSession) :
    SameSlots s (s.receiveBegins d).2 := by
  rw [receiveBegins]
  dsimp only
  generalize d.bytes.take kMaxRtpPacketBytes = packet
  by_cases hshort : packet.length < 12 ∨ rtpVersion packet ≠ 2
  · rw [if_pos hshort]
    exact .refl s
  rw [if_neg hshort]
  by_cases hip : d.sourceIp ≠ s.remoteIpV4
  · rw [if_pos hip]
    exact .refl s
  rw [if_neg hip]
  by_cases htype : rtpPayloadType packet ≠ s.payloadType
  · rw [if_pos htype]
    exact sameSlots_handleRtpKeepalive packet d.sourcePort (rtpSsrc packet) s
  rw [if_neg htype]
  by_cases hport : s.sourceChanges packet = true ∧ d.sourcePort ≠ s.latchedRemoteRtpPort
  · rw [if_pos hport]
    exact .refl s
  rw [if_neg hport]
  have hfollow := sameSlots_followSource packet s
  split
  · exact hfollow
  · split
    · exact hfollow
    · split <;> exact hfollow

theorem sameSlots_settle (c : Call) (ok : Bool) (s : VideoRtpSession) :
    SameSlots s (s.settle c ok) := by
  rw [settle]
  cases ok
  · exact ⟨rfl, rfl⟩
  · cases c.follows <;> exact ⟨rfl, rfl⟩

theorem sameSlots_openAccessUnit (timestamp : UInt32) (gap : Bool) (s : VideoRtpSession) :
    SameSlots s (s.openAccessUnit timestamp gap) := by
  rw [openAccessUnit]
  split
  · cases s.reassemblyActive <;> exact ⟨rfl, rfl⟩
  · cases gap <;> exact ⟨rfl, rfl⟩

theorem sameSlots_handleBegins (c : Call) (s : VideoRtpSession) :
    SameSlots s (s.handleBegins c).session := by
  rw [handleBegins]
  dsimp only
  split
  · exact .refl s
  · rename_i h
    rw [not_or, Bool.not_eq_true] at h
    have hopen := sameSlots_openAccessUnit (rtpTimestamp c.packet)
      (s.sequenceValid && rtpSequence c.packet != s.expectedSequence) s
    obtain ⟨⟨_, _, _, _, heq⟩, -⟩ := appendPayload_reassembles c.payload
      (s.openAccessUnit (rtpTimestamp c.packet)
        (s.sequenceValid && rtpSequence c.packet != s.expectedSequence))
      (type_of_not_refused h.2)
    have happend := hopen.trans (t := (s.openAccessUnit (rtpTimestamp c.packet)
      (s.sequenceValid && rtpSequence c.packet != s.expectedSequence)).appendPayload c.payload)
      (by rw [heq]; exact ⟨rfl, rfl⟩)
    cases rtpMarker c.packet
    · exact happend
    · rw [if_pos rfl]
      split
      · exact happend.trans ⟨rfl, rfl⟩
      · exact happend

theorem sameSlots_takeReset (s : VideoRtpSession) : SameSlots s s.takeReset := by
  rw [takeReset]
  split <;> exact ⟨rfl, rfl⟩

/-- What `finish_access_unit_` does to the slots by itself. -/
theorem finishBegins_cases (timestamp : UInt32) (s : VideoRtpSession) :
    (∃ s', s.finishBegins timestamp = .returns s' ∧ SameSlots s s') ∨
      (∃ s', s.finishBegins timestamp = .rearms s' ∧ SameSlots s s') ∨
      ∃ accessUnit s', s.finishBegins timestamp =
          .delivers (s.reassemblySlot.getD 0) accessUnit s' ∧
        s'.receiveAccessUnits =
          (s.setSlotState (s.reassemblySlot.getD 0) 2).receiveAccessUnits ∧
        s'.reassemblySlot = none := by
  rw [finishBegins]
  split
  · dsimp only
    split
    · exact .inl ⟨_, rfl, rfl, rfl⟩
    · exact .inr (.inr ⟨_, _, rfl, rfl, rfl⟩)
  · exact .inr (.inl ⟨_, rfl, rfl, rfl⟩)

/-! ## One step -/

theorem Owned.finish (h : Owned w) (rest : Option (Call × Bool)) : Owned (w.finish rest) := by
  cases rest with
  | none => exact h.goOn (.refl _) _ trivial
  | some rest => exact h.goOn (sameSlots_settle rest.1 rest.2 w.session) _ trivial

theorem Owned.rearm (h : Owned w) (rest : Option (Call × Bool)) : Owned (w.rearm rest) := by
  rw [ReceiveWorker.rearm]
  cases hslot : w.session.reassemblySlot with
  | some slot => exact h.finish rest
  | none => exact h.goOn (.refl _) _ hslot

theorem Owned.lookAt (h : Owned w)
    {found missed : ReceiveWorker → ReceiveWorker} {look : Nat} {again : WorkerPhase}
    (hmissed : Owned (missed w)) (hagain : PhaseOk { w with phase := again })
    (hfound : ∀ r, w.session.receiveAccessUnits[look]? = some r → r.state = 0 →
      Owned (found { w with
        session := { w.session.setSlotState look 1 with reassemblySlot := some look } })) :
    Owned (w.lookAt look found missed again) := by
  rw [ReceiveWorker.lookAt]
  cases hr : w.session.receiveAccessUnits[look]? with
  | none => exact hmissed
  | some r =>
    dsimp only
    split
    · rename_i hfree
      rw [Bool.and_eq_true, beq_iff_eq] at hfree
      exact hfound r hr hfree.2
    · exact h.goOn (.refl _) _ hagain

theorem Owned.handlePayload (h : Owned w) (c : Call) (hslot : w.session.reassemblySlot.isSome) :
    Owned (w.handlePayload c) := by
  obtain ⟨slot, hslot⟩ := Option.isSome_iff_exists.mp hslot
  have hsame := sameSlots_handleBegins c w.session
  have hwritten : ∀ bytes, Owned (w.write bytes) := h.write hslot
  have hend : ∀ (bytes : ByteSpan) (s : VideoRtpSession), SameSlots w.session s →
      Owned (ReceiveWorker.finish (some (c, (w.session.handleBegins c).ok))
        { w.write bytes with session := s }) := fun bytes s hs =>
    (hwritten bytes).goOn (hs.trans (sameSlots_settle c _ s)) _ trivial
  rw [ReceiveWorker.handlePayload]
  dsimp only
  cases hfinishes : (w.session.handleBegins c).finishes with
  | false =>
    rw [if_neg (by decide)]
    exact hend _ _ hsame
  | true =>
    rw [if_pos rfl]
    rcases finishBegins_cases (rtpTimestamp c.packet) (w.session.handleBegins c).session with
      ⟨s', hfinish, hs'⟩ | ⟨s', hfinish, hs'⟩ | ⟨accessUnit, s', hfinish, hunits, hnone⟩
    · rw [hfinish]
      exact hend _ _ (hsame.trans hs')
    · rw [hfinish]
      exact Owned.rearm ((hwritten _).goOn (hsame.trans hs') .idle trivial) _
    · rw [hsame.slot, hslot, Option.getD_some] at hfinish hunits
      rw [hfinish]
      have hlt : slot < w.memory.length := by
        rw [h.memory]
        exact (h.filling slot hslot).1
      refine (hwritten accessUnit.data).deliver hslot ?_ ?_ hnone c _
      · rw [ReceiveWorker.write, hslot, Option.getD_some, List.getElem?_set_self hlt]
      · rw [hunits, setSlotState, setSlotState, hsame.units]
        rfl

/-- **One step** keeps the owner of every slot. -/
theorem Owned.step (h : Owned w) (a : Action) : Owned (w.step a) := by
  have hphase := h.phase
  rw [PhaseOk] at hphase
  unfold ReceiveWorker.step
  split
  · -- a datagram
    rename_i d hw
    have hsame := sameSlots_receiveBegins d w.session
    rcases hbegins : w.session.receiveBegins d with ⟨_ | c, s⟩
    · rw [hbegins] at hsame
      exact h.goOn hsame w.phase (by rw [PhaseOk, hw]; trivial)
    · rw [hbegins] at hsame
      refine h.goOn hsame _ ?_
      cases hslot : s.reassemblySlot with
      | none => exact hslot
      | some slot => exact (congrArg Option.isSome hslot)
  · -- a reset
    rename_i hw
    exact h.goOn (sameSlots_takeReset w.session) w.phase (by rw [PhaseOk, hw]; trivial)
  · -- a change of the direction
    rename_i enabled
    exact h.goOn (s := w.session.requestReceive enabled) ⟨rfl, rfl⟩ w.phase h.phase
  · exact h.rearm none
  · -- the search for a slot, before a packet and behind a unit
    rename_i c look hw
    rw [hw] at hphase
    exact h.lookAt (h.goOn (.refl _) _ trivial) hphase
      fun r hr hfree => h.acquire hphase hr hfree _ (.inr ⟨c, rfl⟩)
  · rename_i rest look hw
    rw [hw] at hphase
    exact h.lookAt (h.finish rest) hphase
      fun r hr hfree => (h.acquire hphase hr hfree .idle (.inl rfl)).finish rest
  · -- the payload of a packet that has a slot
    rename_i c hw
    rw [hw] at hphase
    exact h.handlePayload c hphase
  · -- the answer of the sink
    rename_i accepts c ok slot hw
    rw [hw] at hphase
    cases accepts with
    | true =>
      exact Owned.rearm (h.goOn (s := w.session.answered true slot) ⟨rfl, rfl⟩ w.phase
        (h.phase.of_eq rfl rfl rfl)) _
    | false =>
      exact Owned.rearm (h.giveBack (s := w.session.answered false slot)
        (by rw [hphase.1]; simp) ⟨rfl, rfl⟩ w.phase
        (h.phase.of_eq rfl
          (by simp [answered, resetReassembly, releaseReassemblySlot, setSlotState]) rfl)) _
  · -- a lease that ends
    rename_i slot
    split
    · rename_i hleased
      obtain ⟨lease, hlease, heq⟩ := List.any_eq_true.mp hleased
      rw [beq_iff_eq] at heq
      have hslot : w.session.reassemblySlot ≠ some slot := fun hfilling =>
        (h.filling slot hfilling).2 (heq ▸ List.mem_map_of_mem hlease)
      exact h.giveBack hslot (.refl _) w.phase
        (h.phase.of_eq rfl (by simp [releaseReassemblySlot, setSlotState]) rfl)
    · exact h
  · exact h

theorem leases_rearm (rest : Option (Call × Bool)) (w : ReceiveWorker) :
    (w.rearm rest).leases = w.leases := by
  rw [rearm]
  split <;> rfl

theorem leases_lookAt {found missed : ReceiveWorker → ReceiveWorker}
    (hfound : ∀ w, (found w).leases = w.leases) (hmissed : ∀ w, (missed w).leases = w.leases)
    (look : Nat) (again : WorkerPhase) (w : ReceiveWorker) :
    (w.lookAt look found missed again).leases = w.leases := by
  rw [lookAt]
  split
  · exact hmissed w
  · split
    · exact hfound _
    · rfl

theorem leases_handlePayload (c : Call) (w : ReceiveWorker) :
    ∃ more, (w.handlePayload c).leases = w.leases ++ more := by
  rw [handlePayload]
  dsimp only
  split
  · split
    · exact ⟨[], (List.append_nil _).symm⟩
    · exact ⟨_, rfl⟩
    · exact ⟨[], (leases_rearm _ _).trans (List.append_nil _).symm⟩
  · exact ⟨[], (List.append_nil _).symm⟩

theorem mem_endLease (slot : Nat) {lease : Nat × ByteSpan} (h : lease ∈ w.leases) :
    lease ∈ (w.endLease slot).leases ∨ slot = lease.1 := by
  by_cases heq : slot = lease.1
  · exact .inr heq
  · exact .inl (List.mem_filter.mpr ⟨h, by simpa using Ne.symm heq⟩)

/-- The sink has a slot until it gives it back, or until it refuses it. -/
theorem mem_leases_step {lease : Nat × ByteSpan} (h : lease ∈ w.leases) (a : Action) :
    lease ∈ (w.step a).leases ∨ a = .release lease.1 ∨
      a = .answer false ∧ ∃ c ok, w.phase = .delivering c ok lease.1 := by
  unfold step
  split
  · split <;> exact .inl h
  · exact .inl h
  · exact .inl h
  · exact .inl (by rw [leases_rearm]; exact h)
  · refine .inl ?_
    rw [leases_lookAt]
    · exact h
    · exact fun _ => rfl
    · exact fun _ => rfl
  · refine .inl ?_
    rw [leases_lookAt]
    · exact h
    · exact fun _ => rfl
    · exact fun _ => rfl
  · rename_i c _
    obtain ⟨more, hmore⟩ := leases_handlePayload c w
    exact .inl (by rw [hmore]; exact List.mem_append_left _ h)
  · rename_i accepts c ok slot hw
    cases accepts with
    | true => exact .inl (by rw [leases_rearm]; exact h)
    | false =>
      rcases mem_endLease slot h with hmem | rfl
      · exact .inl (by rw [leases_rearm]; exact hmem)
      · exact .inr (.inr ⟨rfl, c, ok, hw⟩)
  · rename_i slot
    split
    · rcases mem_endLease slot h with hmem | rfl
      · exact .inl hmem
      · exact .inr (.inl rfl)
    · exact .inl h
  · exact .inl h

/-! ## Every run -/

/-- Who owns the receive slots. -/
structure OneOwner (w : ReceiveWorker) : Prop where
  /-- What is with the sink is not filled, and holds what the sink was handed. -/
  withSink : ∀ lease ∈ w.leases, w.session.reassemblySlot ≠ some lease.1 ∧
    w.memory[lease.1]? = some lease.2 ∧
    ∃ r, w.session.receiveAccessUnits[lease.1]? = some r ∧ r.state = 2
  /-- A slot is handed out once. -/
  once : w.leased.Nodup
  /-- It stays with the sink until it is given back, or refused. -/
  untilReleased : ∀ lease ∈ w.leases, ∀ a, lease ∈ (w.step a).leases ∨ a = .release lease.1 ∨
    a = .answer false ∧ ∃ c ok, w.phase = .delivering c ok lease.1
  oneFilling : ∀ (i j : Nat) (r q : ReceiveAccessUnitSlot), w.session.receiveAccessUnits[i]? =
    some r →
    w.session.receiveAccessUnits[j]? = some q → r.state = 1 → q.state = 1 → i = j
  pointer : ∀ slot, w.session.reassemblySlot = some slot →
    ∃ r, w.session.receiveAccessUnits[slot]? = some r ∧ r.state = 1
  noneLost : ∀ slot r, w.session.receiveAccessUnits[slot]? = some r →
    r.state = 0 ∨ (r.state = 1 ∧ w.session.reassemblySlot = some slot) ∨
      (r.state = 2 ∧ slot ∈ w.leased)

theorem Owned.cases (h : Owned w) {slot : Nat} {r : ReceiveAccessUnitSlot}
    (hr : w.session.receiveAccessUnits[slot]? = some r) :
    r.state = 1 ∧ w.session.reassemblySlot = some slot ∨
      w.session.reassemblySlot ≠ some slot ∧ (r.state = 2 ∧ slot ∈ w.leased ∨
        r.state = 0 ∧ slot ∉ w.leased) := by
  rw [h.states slot r hr, stateOf]
  by_cases hfilling : w.session.reassemblySlot = some slot
  · exact .inl ⟨if_pos hfilling, hfilling⟩
  · rw [if_neg hfilling]
    by_cases hleased : slot ∈ w.leased
    · exact .inr ⟨hfilling, .inl ⟨if_pos hleased, hleased⟩⟩
    · exact .inr ⟨hfilling, .inr ⟨if_neg hleased, hleased⟩⟩

theorem Owned.oneOwner (h : Owned w) : OneOwner w where
  withSink := by
    intro lease hlease
    have hleased : lease.1 ∈ w.leased := List.mem_map_of_mem hlease
    have hbytes := h.bytes lease hlease
    have hlt : lease.1 < w.session.receiveAccessUnits.length := by
      rw [← h.memory]
      exact (List.getElem?_eq_some_iff.mp hbytes).1
    have hfilling : w.session.reassemblySlot ≠ some lease.1 := fun hfilling =>
      (h.filling _ hfilling).2 hleased
    refine ⟨hfilling, hbytes, _, List.getElem?_eq_getElem hlt, ?_⟩
    rw [h.states _ _ (List.getElem?_eq_getElem hlt), stateOf, if_neg hfilling, if_pos hleased]
  once := h.distinct
  untilReleased := fun _ hlease a => mem_leases_step hlease a
  oneFilling := by
    have hfilling : ∀ i r, w.session.receiveAccessUnits[i]? = some r → r.state = 1 →
        w.session.reassemblySlot = some i := by
      intro i r hr hstate
      rcases h.cases hr with ⟨_, hslot⟩ | ⟨_, ⟨hstate', _⟩ | ⟨hstate', _⟩⟩
      · exact hslot
      · exact absurd (hstate.symm.trans hstate') (by decide)
      · exact absurd (hstate.symm.trans hstate') (by decide)
    intro i j r q hr hq hstate hstate'
    exact Option.some.inj ((hfilling i r hr hstate).symm.trans (hfilling j q hq hstate'))
  pointer := by
    intro slot hslot
    have hlt := (h.filling slot hslot).1
    refine ⟨_, List.getElem?_eq_getElem hlt, ?_⟩
    rw [h.states _ _ (List.getElem?_eq_getElem hlt), stateOf, if_pos hslot]
  noneLost := by
    intro slot r hr
    rcases h.cases hr with hfilling | ⟨_, hleased | ⟨hfree, _⟩⟩
    · exact .inr (.inl hfilling)
    · exact .inr (.inr hleased)
    · exact .inl hfree

theorem owned_run (s : VideoRtpSession) (actions : List Action) :
    Owned ((created s).run actions) :=
  EventRun.invariant_of_step step (fun a _ h => h.step a) (owned_created s) actions

/-- In every run, whatever the order of packets, answers and slots that are given back, every slot
    has one owner. -/
theorem receive_slots_have_one_owner (s : VideoRtpSession) (actions : List Action) :
    OneOwner ((created s).run actions) :=
  (owned_run s actions).oneOwner

end ReceiveWorker

end VideoRtpSession

end EsphomeVoip
