import EsphomeVoip.Video.Reassembly

/-! # The receive worker, one atomic step at a time (`video_rtp.cpp`, H.264 build)

The sink gives a slot back from a task of its own, between any two things that the receive worker
does.  `ReceiveWorker` cuts `receive` where the worker touches the state of a slot: the rounds of
the loop that looks for a free slot, the payload that may hand a slot over, and the answer of the
sink.  Without the sink in between, the steps come to `receive`. -/

namespace EsphomeVoip

namespace VideoRtpSession

/-! ## The parts of `receive` -/

/-- What the worker keeps of a packet while it works on it. -/
structure Call where
  packet : ByteSpan
  payload : ByteSpan
  sourcePort : UInt16
  /-- The packet becomes the source that is followed. -/
  follows : Bool
  deriving DecidableEq, Repr

/-- The part of `task_` and `handle_rtp_packet_` in front of `acquire_reassembly_slot_`: a call
    where they get that far. -/
def receiveBegins (d : Datagram) (s : VideoRtpSession) : Option Call × VideoRtpSession :=
  let packet := d.bytes.take kMaxRtpPacketBytes
  if packet.length < 12 ∨ rtpVersion packet ≠ 2 then (none, s)
  else if d.sourceIp ≠ s.remoteIpV4 then (none, s)
  else if rtpPayloadType packet ≠ s.payloadType then
    (none, s.handleRtpKeepalive packet d.sourcePort (rtpSsrc packet))
  else if s.sourceChanges packet = true ∧ d.sourcePort ≠ s.latchedRemoteRtpPort then (none, s)
  else
    let follows := !s.remoteSsrcLatched || s.sourceChanges packet
    let s := s.followSource packet
    if s.receiveEnabled = false ∨ packet.length < 12 ∨ rtpVersion packet ≠ 2 then (none, s)
    else
      match rtpPayload packet with
      | none => (none, s)
      | some payload =>
        if rtpPayloadType packet ≠ s.payloadType ∨ payload = [] then (none, s)
        else (some { packet, payload, sourcePort := d.sourcePort, follows }, s)

/-- The part behind `handle_h264_payload_`. -/
def settle (c : Call) (ok : Bool) (s : VideoRtpSession) : VideoRtpSession :=
  if ok then
    let s := { s with expectedSequence := rtpSequence c.packet + 1, sequenceValid := true }
    let s := if c.follows then
      { s with remoteSsrc := rtpSsrc c.packet, remoteSsrcLatched := true } else s
    { s with latchedRemoteRtpPort := c.sourcePort }
  else s.resetReassembly

/-- How far `handle_h264_payload_` comes: it returns `ok`, after `finish_access_unit_` or
    without. -/
structure Handled where
  finishes : Bool
  ok : Bool
  session : VideoRtpSession
  deriving DecidableEq, Repr

/-- `handle_h264_payload_`, up to `finish_access_unit_`. -/
def handleBegins (c : Call) (s : VideoRtpSession) : Handled :=
  let sequenceGap := s.sequenceValid && rtpSequence c.packet != s.expectedSequence
  if c.payload = [] ∨ s.refusesH264Payload c.payload (rtpTimestamp c.packet) = true then
    ⟨false, false, s⟩
  else
    let s := (s.openAccessUnit (rtpTimestamp c.packet) sequenceGap).appendPayload c.payload
    if rtpMarker c.packet then
      if s.fuActive then ⟨true, false, s.damage⟩ else ⟨true, true, s⟩
    else ⟨false, true, s⟩

/-- How far `finish_access_unit_` comes by itself. -/
inductive Finish where
  /-- the parameter sets have no room -/
  | returns (s : VideoRtpSession)
  /-- a slot is handed over, and the sink is called -/
  | delivers (slot : Nat) (accessUnit : EncodedVideoAccessUnit) (s : VideoRtpSession)
  /-- there is nothing to hand over, and the loop for a free slot begins -/
  | rearms (s : VideoRtpSession)
  deriving DecidableEq, Repr

/-- `finish_access_unit_`, up to the call of the sink or the loop for a free slot. -/
def finishBegins (timestamp : UInt32) (s : VideoRtpSession) : Finish :=
  if s.reassemblyDamaged = false ∧ s.reassembly ≠ [] ∧ s.hasSink = true then
    let p := s.parameterSets
    let accessUnit := s.completed timestamp
    let s := { s with h264Sps := p.sps, h264Pps := p.pps }
    if p.prefixBytes ≠ [] ∧
        kMaxAccessUnitBytes < s.reassembly.length + p.prefixBytes.length then
      .returns s.resetReassembly
    else
      let slot := s.reassemblySlot.getD 0
      .delivers slot accessUnit { s.setSlotState slot 2 with
        reassemblySlot := none
        handedOver := s.handedOver ++ [accessUnit] }
  else .rearms s.resetReassembly

/-- The answer of the sink, up to the loop for a free slot. -/
def answered (accepts : Bool) (slot : Nat) (s : VideoRtpSession) : VideoRtpSession :=
  (if accepts then s else s.releaseReassemblySlot slot).resetReassembly

theorem finishAccessUnit_eq (accepts : Bool) (timestamp : UInt32) (s : VideoRtpSession) :
    s.finishAccessUnit accepts timestamp =
      match s.finishBegins timestamp with
      | .returns s => s
      | .delivers slot _ s => (s.answered accepts slot).acquireReassemblySlot.2
      | .rearms s => s.acquireReassemblySlot.2 := by
  rw [finishAccessUnit, finishBegins]
  split
  · dsimp only
    split
    · rename_i h
      rw [parameterSets, if_pos h]
    · rename_i h
      rw [parameterSets, if_neg h]
      rfl
  · rfl

theorem handleH264Payload_eq (accepts : Bool) (c : Call) (s : VideoRtpSession) :
    s.handleH264Payload accepts c.payload (rtpMarker c.packet) (rtpTimestamp c.packet)
        (s.sequenceValid && rtpSequence c.packet != s.expectedSequence) =
      ((s.handleBegins c).ok, if (s.handleBegins c).finishes then
        (s.handleBegins c).session.finishAccessUnit accepts (rtpTimestamp c.packet)
        else (s.handleBegins c).session) := by
  rw [handleH264Payload, handleBegins]
  dsimp only
  split
  · rfl
  · cases rtpMarker c.packet
    · rfl
    · rw [if_pos rfl, if_pos rfl]
      split <;> rfl

/-- `receive` is its parts. -/
theorem receive_eq (d : Datagram) (s : VideoRtpSession) :
    s.receive d =
      match s.receiveBegins d with
      | (none, s) => s
      | (some c, s) =>
        match s.acquireReassemblySlot with
        | (false, s) => s
        | (true, s) =>
          (if (s.handleBegins c).finishes then
            (s.handleBegins c).session.finishAccessUnit d.accepts (rtpTimestamp c.packet)
            else (s.handleBegins c).session).settle c (s.handleBegins c).ok := by
  rw [receive, receiveBegins]
  dsimp only
  generalize d.bytes.take kMaxRtpPacketBytes = packet
  -- The exits of the loop come first, and those of the handler behind them.
  by_cases hshort : packet.length < 12 ∨ rtpVersion packet ≠ 2
  · rw [if_pos hshort, if_pos hshort]
  rw [if_neg hshort, if_neg hshort]
  by_cases hip : d.sourceIp ≠ s.remoteIpV4
  · rw [if_pos hip, if_pos hip]
  rw [if_neg hip, if_neg hip]
  by_cases htype : rtpPayloadType packet ≠ s.payloadType
  · rw [if_pos htype, if_pos htype]
  rw [if_neg htype, if_neg htype, receiveMedia]
  by_cases hport : s.sourceChanges packet = true ∧ d.sourcePort ≠ s.latchedRemoteRtpPort
  · rw [if_pos hport, if_pos hport]
  rw [if_neg hport, if_neg hport, handleRtpPacket]
  generalize hfollowed : s.followSource packet = t
  by_cases hbad : t.receiveEnabled = false ∨ packet.length < 12 ∨ rtpVersion packet ≠ 2
  · rw [if_pos hbad, if_pos hbad]
  rw [if_neg hbad, if_neg hbad]
  cases hpayload : rtpPayload packet with
  | none => rfl
  | some payload =>
    dsimp only
    by_cases hmedia : rtpPayloadType packet ≠ t.payloadType ∨ payload = []
    · rw [if_pos hmedia, if_pos hmedia]
    rw [if_neg hmedia, if_neg hmedia]
    dsimp only
    rcases t.acquireReassemblySlot with ⟨_ | _, u⟩
    · rfl
    · dsimp only
      rw [handleH264Payload_eq d.accepts ⟨packet, payload, d.sourcePort,
        !s.remoteSsrcLatched || s.sourceChanges packet⟩ u]
      cases hok : (u.handleBegins ⟨packet, payload, d.sourcePort,
          !s.remoteSsrcLatched || s.sourceChanges packet⟩).ok with
      | false => rfl
      | true =>
        rw [settle, if_pos rfl]
        cases s.remoteSsrcLatched <;> cases s.sourceChanges packet <;> rfl

/-! ## The worker and the sink -/

/-- Where the worker is. -/
inductive WorkerPhase where
  | idle
  /-- in the loop for a free slot, for this packet -/
  | acquiring (c : Call) (look : Nat)
  /-- a slot is there for the payload -/
  | handling (c : Call)
  /-- the sink has been called with the slot, and `handle_h264_payload_` will return `ok` -/
  | delivering (c : Call) (ok : Bool) (slot : Nat)
  /-- in the loop for a free slot, at the end of a unit or when buffers are made ready -/
  | rearming (rest : Option (Call × Bool)) (look : Nat)
  deriving DecidableEq, Repr

/-- The worker, the memory of the slots, and the slots that the sink has been called with and has
    not given back, with the bytes that it was to find there. -/
structure ReceiveWorker where
  session : VideoRtpSession
  phase : WorkerPhase := .idle
  memory : List ByteSpan
  leases : List (Nat × ByteSpan) := []
  deriving DecidableEq, Repr

namespace ReceiveWorker

/-- What can happen next.  Where the worker is not waiting for it, nothing happens. -/
inductive Action where
  /-- a datagram is received -/
  | datagram (d : Datagram)
  /-- a pass of the worker takes a requested reset up -/
  | takeReset
  /-- the receive direction is switched -/
  | direction (enabled : Bool)
  /-- `acquire_reassembly_slot_` is called when buffers are made ready -/
  | prepare
  /-- the next round of the loop for a free slot -/
  | look
  /-- the payload is handled -/
  | handle
  /-- the sink returns -/
  | answer (accepts : Bool)
  /-- the sink gives a slot back -/
  | release (slot : Nat)
  deriving DecidableEq, Repr

/-- Write to where `reassembly_` points. -/
def write (bytes : ByteSpan) (w : ReceiveWorker) : ReceiveWorker :=
  { w with memory := w.memory.set (w.session.reassemblySlot.getD 0) bytes }

/-- The end of a call. -/
def finish (rest : Option (Call × Bool)) (w : ReceiveWorker) : ReceiveWorker :=
  { w with
    phase := .idle
    session := match rest with
      | none => w.session
      | some (c, ok) => w.session.settle c ok }

/-- `acquire_reassembly_slot_`, up to its loop. -/
def rearm (rest : Option (Call × Bool)) (w : ReceiveWorker) : ReceiveWorker :=
  if w.session.reassemblySlot.isSome then w.finish rest else { w with phase := .rearming rest 0 }

/-- One round of the loop for a free slot: `found` goes on with a slot, `missed` without. -/
def lookAt (look : Nat) (found missed : ReceiveWorker → ReceiveWorker) (again : WorkerPhase)
    (w : ReceiveWorker) : ReceiveWorker :=
  match w.session.receiveAccessUnits[look]? with
  | none => missed w
  | some r =>
    if r.allocated && r.state == 0 then
      found { w with session := { w.session.setSlotState look 1 with reassemblySlot := some look } }
    else { w with phase := again }

/-- The payload, with a slot in hand: everything up to the next atomic step. -/
def handlePayload (c : Call) (w : ReceiveWorker) : ReceiveWorker :=
  let h := w.session.handleBegins c
  if h.finishes then
    match h.session.finishBegins (rtpTimestamp c.packet) with
    | .returns s => { w.write h.session.reassembly with session := s }.finish (some (c, h.ok))
    | .delivers slot accessUnit s =>
      { w.write accessUnit.data with
        session := s
        phase := .delivering c h.ok slot
        leases := w.leases ++ [(slot, accessUnit.data)] }
    | .rearms s => { w.write h.session.reassembly with session := s }.rearm (some (c, h.ok))
  else { w.write h.session.reassembly with session := h.session }.finish (some (c, h.ok))

/-- The slot is no longer with the sink. -/
def endLease (slot : Nat) (w : ReceiveWorker) : ReceiveWorker :=
  { w with leases := w.leases.filter fun lease => lease.1 != slot }

/-- One atomic step. -/
def step (a : Action) (w : ReceiveWorker) : ReceiveWorker :=
  match a, w.phase with
  | .datagram d, .idle =>
    match w.session.receiveBegins d with
    | (none, s) => { w with session := s }
    | (some c, s) =>
      { w with
        session := s
        phase := if s.reassemblySlot.isSome then .handling c else .acquiring c 0 }
  | .takeReset, .idle => { w with session := w.session.takeReset }
  | .direction enabled, _ => { w with session := w.session.requestReceive enabled }
  | .prepare, .idle => w.rearm none
  | .look, .acquiring c look =>
    w.lookAt look (fun w => { w with phase := .handling c }) (fun w => { w with phase := .idle })
      (.acquiring c (look + 1))
  | .look, .rearming rest look =>
    w.lookAt look (finish rest) (finish rest) (.rearming rest (look + 1))
  | .handle, .handling c => w.handlePayload c
  | .answer accepts, .delivering c ok slot =>
    { (if accepts then w else w.endLease slot) with
      session := w.session.answered accepts slot }.rearm (some (c, ok))
  | .release slot, _ =>
    if w.leases.any (fun lease => lease.1 == slot) then
      { w.endLease slot with session := w.session.releaseReassemblySlot slot }
    else w
  | _, _ => w

/-- A run. -/
def run (w : ReceiveWorker) (actions : List Action) : ReceiveWorker :=
  EventRun.after step w actions

/-- The worker of a session that has been created: no slot is in use. -/
def created (s : VideoRtpSession) : ReceiveWorker where
  session := { s with
    receiveAccessUnits := s.receiveAccessUnits.map fun r => { r with state := 0 }
    reassemblySlot := none }
  memory := s.receiveAccessUnits.map fun _ => []

/-! ## Without the sink in between -/

theorem findIdx?_eq {α : Type} {p : α → Bool} {xs : List α} {k : Nat}
    (hbefore : ∀ j < k, ∀ x, xs[j]? = some x → p x = false) {x : α} (hx : xs[k]? = some x)
    (hp : p x = true) : xs.findIdx? p = some k := by
  obtain ⟨hlt, rfl⟩ := List.getElem?_eq_some_iff.mp hx
  rw [List.findIdx?_eq_some_iff_getElem]
  refine ⟨hlt, hp, fun j hj => ?_⟩
  rw [hbefore j hj _ (List.getElem?_eq_getElem (by omega))]
  decide

/-- The rounds of the loop come to `acquire_reassembly_slot_`. -/
theorem run_look (again : Nat → WorkerPhase) (found missed : ReceiveWorker → ReceiveWorker)
    (hstep : ∀ (w : ReceiveWorker) look, w.phase = again look →
      w.step .look = w.lookAt look found missed (again (look + 1)))
    (hphase : ∀ (w : ReceiveWorker) phase, found { w with phase } = found w ∧
      missed { w with phase } = missed w)
    (n : Nat) {w : ReceiveWorker} {look : Nat} (hw : w.phase = again look)
    (hn : w.session.receiveAccessUnits.length ≤ look + n)
    (hnone : w.session.reassemblySlot = none)
    (hbefore : ∀ j < look, ∀ r, w.session.receiveAccessUnits[j]? = some r →
      (r.allocated && r.state == 0) = false) :
    ∃ looks, w.run (List.replicate looks .look) =
      match w.session.acquireReassemblySlot with
      | (true, s) => found { w with session := s }
      | (false, _) => missed w := by
  -- behind the last slot there is nothing free
  have hmissed : ∀ (w : ReceiveWorker) look, w.phase = again look →
      w.session.receiveAccessUnits.length ≤ look → w.session.reassemblySlot = none →
      (∀ j < look, ∀ r, w.session.receiveAccessUnits[j]? = some r →
        (r.allocated && r.state == 0) = false) →
      w.run (List.replicate 1 .look) = missed w ∧
        w.session.acquireReassemblySlot = (false, w.session) := by
    intro w look hw hlength hnone hbefore
    constructor
    · show w.step .look = missed w
      rw [hstep w look hw, lookAt, List.getElem?_eq_none hlength]
    · have hnowhere : (w.session.receiveAccessUnits.findIdx? fun r => r.allocated && r.state == 0) =
          none := by
        rw [List.findIdx?_eq_none_iff]
        intro r hr
        obtain ⟨j, hlt, rfl⟩ := List.getElem_of_mem hr
        exact hbefore j (by omega) _ (List.getElem?_eq_getElem hlt)
      rw [acquireReassemblySlot, hnone, if_neg (by decide), hnowhere]
  induction n generalizing w look with
  | zero =>
    obtain ⟨hrun, hacquire⟩ := hmissed w look hw hn hnone hbefore
    exact ⟨1, by rw [hrun, hacquire]⟩
  | succ n ih =>
    cases hr : w.session.receiveAccessUnits[look]? with
    | none =>
      obtain ⟨hrun, hacquire⟩ := hmissed w look hw (List.getElem?_eq_none_iff.mp hr) hnone hbefore
      exact ⟨1, by rw [hrun, hacquire]⟩
    | some r =>
      have hlook : w.step .look = w.lookAt look found missed (again (look + 1)) := hstep w look hw
      rw [lookAt, hr] at hlook
      cases hfree : r.allocated && r.state == 0 with
      | true =>
        refine ⟨1, ?_⟩
        show w.step .look = _
        rw [hlook, acquireReassemblySlot, hnone, if_neg (by decide), findIdx?_eq hbefore hr hfree]
        dsimp only
        rw [hfree, if_pos rfl]
      | false =>
        dsimp only at hlook
        rw [hfree, if_neg (by decide)] at hlook
        obtain ⟨looks, hlooks⟩ := ih (w := { w with phase := again (look + 1) }) rfl
          (by simp only; omega) hnone (by
            intro j hj q hq
            rcases Nat.lt_succ_iff_lt_or_eq.mp hj with hj | rfl
            · exact hbefore j hj q hq
            · rw [hr] at hq
              cases hq
              exact hfree)
        refine ⟨looks + 1, ?_⟩
        rw [List.replicate_succ]
        show (w.step .look).run (List.replicate looks .look) = _
        rw [hlook, hlooks]
        rcases w.session.acquireReassemblySlot with ⟨_ | _, s⟩
        · exact (hphase w _).2
        · exact (hphase { w with session := s } _).1

theorem run_append (w : ReceiveWorker) (actions actions' : List Action) :
    w.run (actions ++ actions') = (w.run actions).run actions' := EventRun.after_append _ _ _ _

theorem acquireReassemblySlot_isSome {s : VideoRtpSession} (h : s.reassemblySlot.isSome = true) :
    s.acquireReassemblySlot = (true, s) := by
  rw [acquireReassemblySlot, if_pos h]

theorem acquireReassemblySlot_false {s s' : VideoRtpSession}
    (h : s.acquireReassemblySlot = (false, s')) : s' = s := by
  rw [acquireReassemblySlot] at h
  split at h
  · cases h
  · split at h
    · cases h
    · cases h
      rfl

/-- The end of a call, with another slot. -/
theorem run_rearm (c : Call) (ok : Bool) (w : ReceiveWorker) :
    ∃ actions, ((w.rearm (some (c, ok))).run actions).phase = .idle ∧
      ((w.rearm (some (c, ok))).run actions).session =
        w.session.acquireReassemblySlot.2.settle c ok := by
  rw [rearm]
  cases hslot : w.session.reassemblySlot with
  | some slot =>
    refine ⟨[], rfl, ?_⟩
    rw [acquireReassemblySlot_isSome (by rw [hslot]; rfl)]
    rfl
  | none =>
    rw [Option.isSome_none, if_neg (by decide)]
    obtain ⟨looks, hlooks⟩ := run_look (.rearming (some (c, ok))) (finish (some (c, ok)))
      (finish (some (c, ok))) (w := { w with phase := .rearming (some (c, ok)) 0 })
      (fun w look hw => by unfold step; rw [hw]) (fun _ _ => ⟨rfl, rfl⟩)
      w.session.receiveAccessUnits.length rfl (by simp) hslot (by simp)
    refine ⟨_, by rw [hlooks]; split <;> rfl, ?_⟩
    rw [hlooks]
    rcases hacquire : w.session.acquireReassemblySlot with ⟨_ | _, s⟩
    · rw [acquireReassemblySlot_false hacquire]
      rfl
    · rfl

/-- The payload, up to the end of its call. -/
theorem run_handle (c : Call) (accepts : Bool) {w : ReceiveWorker} (hw : w.phase = .handling c) :
    ∃ actions, (w.run actions).phase = .idle ∧ (w.run actions).session =
      (if (w.session.handleBegins c).finishes then
        (w.session.handleBegins c).session.finishAccessUnit accepts (rtpTimestamp c.packet)
        else (w.session.handleBegins c).session).settle c (w.session.handleBegins c).ok := by
  have hstep : w.step .handle = w.handlePayload c := by
    unfold step
    rw [hw]
  -- what is left to do after the step
  suffices ∃ actions, ((w.handlePayload c).run actions).phase = .idle ∧
      ((w.handlePayload c).run actions).session = _ by
    obtain ⟨actions, hidle, hsession⟩ := this
    refine ⟨.handle :: actions, ?_, ?_⟩
    · show ((w.step .handle).run actions).phase = .idle
      rw [hstep, hidle]
    · show ((w.step .handle).run actions).session = _
      rw [hstep, hsession]
  rw [handlePayload]
  dsimp only
  cases hfinishes : (w.session.handleBegins c).finishes with
  | false =>
    rw [if_neg (by decide)]
    exact ⟨[], rfl, rfl⟩
  | true =>
    rw [if_pos rfl, if_pos rfl, finishAccessUnit_eq]
    cases hfinish : (w.session.handleBegins c).session.finishBegins (rtpTimestamp c.packet) with
    | returns s => exact ⟨[], rfl, rfl⟩
    | rearms s => exact run_rearm c _ _
    | delivers slot accessUnit s =>
      obtain ⟨actions, hidle, hsession⟩ := run_rearm c (w.session.handleBegins c).ok
        { (if accepts then { w.write accessUnit.data with
            session := s
            phase := .delivering c (w.session.handleBegins c).ok slot
            leases := w.leases ++ [(slot, accessUnit.data)] }
          else ReceiveWorker.endLease slot { w.write accessUnit.data with
            session := s
            phase := .delivering c (w.session.handleBegins c).ok slot
            leases := w.leases ++ [(slot, accessUnit.data)] }) with
          session := s.answered accepts slot }
      exact ⟨.answer accepts :: actions, hidle, hsession⟩

/-- **Without the sink in between**, the worker does with a datagram what `receive` does. -/
theorem run_datagram (d : Datagram) {w : ReceiveWorker} (hw : w.phase = .idle) :
    ∃ actions, (w.run actions).phase = .idle ∧ (w.run actions).session = w.session.receive d := by
  rw [receive_eq]
  rcases hbegins : w.session.receiveBegins d with ⟨_ | c, s⟩
  · have hstep : w.step (.datagram d) = { w with session := s } := by
      unfold step
      rw [hw]
      dsimp only
      rw [hbegins]
    exact ⟨[.datagram d], by
      rw [show w.run [.datagram d] = w.step (.datagram d) from rfl, hstep, hw],
      by rw [show w.run [.datagram d] = w.step (.datagram d) from rfl, hstep]⟩
  · have hstep : w.step (.datagram d) = { w with
        session := s
        phase := if s.reassemblySlot.isSome then .handling c else .acquiring c 0 } := by
      unfold step
      rw [hw]
      dsimp only
      rw [hbegins]
    -- the loop for a free slot, if there is none
    have hloop : ∃ actions, w.run (.datagram d :: actions) =
        match s.acquireReassemblySlot with
        | (true, s') => { w with session := s', phase := .handling c }
        | (false, _) => { w with session := s, phase := .idle } := by
      cases hslot : s.reassemblySlot with
      | some slot =>
        refine ⟨[], ?_⟩
        rw [acquireReassemblySlot_isSome (by rw [hslot]; rfl)]
        show w.step (.datagram d) = _
        rw [hstep, hslot]
        rfl
      | none =>
        obtain ⟨looks, hlooks⟩ := run_look (.acquiring c) (fun w => { w with phase := .handling c })
          (fun w => { w with phase := .idle })
          (w := { w with session := s, phase := .acquiring c 0 })
          (fun w look hw => by unfold step; rw [hw]) (fun _ _ => ⟨rfl, rfl⟩)
          s.receiveAccessUnits.length rfl (by simp) hslot (by simp)
        refine ⟨List.replicate looks .look, ?_⟩
        show (w.step (.datagram d)).run (List.replicate looks .look) = _
        rw [hstep, hslot, Option.isSome_none, if_neg (by decide), hlooks]
    obtain ⟨actions, hactions⟩ := hloop
    dsimp only
    rcases hacquire : s.acquireReassemblySlot with ⟨_ | _, s'⟩
    · rw [hacquire] at hactions
      rw [acquireReassemblySlot_false hacquire]
      exact ⟨_, by rw [hactions], by rw [hactions]⟩
    · rw [hacquire] at hactions
      obtain ⟨rest, hidle, hsession⟩ := run_handle c d.accepts
        (w := { w with session := s', phase := .handling c }) rfl
      refine ⟨.datagram d :: actions ++ rest, ?_, ?_⟩
      · rw [run_append, hactions]
        exact hidle
      · rw [run_append, hactions]
        exact hsession

end ReceiveWorker

end VideoRtpSession

end EsphomeVoip
