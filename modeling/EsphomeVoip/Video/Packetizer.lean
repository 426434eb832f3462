import EsphomeVoip.Video.Packetization

/-! # What the sender sends

`send_h264_access_unit_` sends the payloads of one piece for every NAL unit, under consecutive
sequence numbers and with the marker on the last packet. -/

namespace EsphomeVoip

namespace VideoRtpSession

/-! ## The payloads of an access unit -/

/-- The fragments of a NAL unit from `offset` on, in parts of `size` bytes. -/
def fuPayloads (size : Nat) (nal : ByteSpan) : Nat → Nat → Bool → List ByteSpan
  | 0, _, _ => []
  | fuel + 1, offset, first =>
    if offset < nal.length then
      let chunk := min size (nal.length - offset)
      (fuPrefix nal first (offset + chunk == nal.length) ++ (nal.drop offset).take chunk) ::
        fuPayloads size nal fuel (offset + chunk) false
    else []

/-- The payloads of the packets that a NAL unit goes out in. -/
def nalPayloads (maxPayload : Nat) (nal : ByteSpan) : List ByteSpan :=
  if nal.length ≤ maxPayload then [nal]
  else fuPayloads (maxPayload - 2) nal nal.length 1 true

/-- Payloads as packets, under consecutive sequence numbers.  The last one carries the marker if
    `last` holds. -/
def rtpPackets (s : VideoRtpSession) (timestamp : UInt32) (last : Bool) :
    UInt16 → List ByteSpan → List ByteSpan
  | _, [] => []
  | sequence, p :: ps =>
    rtpPacket s.payloadType (last && ps.isEmpty) sequence (timestamp + s.txTimestampOffset)
      s.txSsrc p :: rtpPackets s timestamp last (sequence + 1) ps

/-- The session after `packets` sequence numbers have been used. -/
def advance (packets : Nat) (s : VideoRtpSession) : VideoRtpSession :=
  { s with txSequence := s.txSequence + UInt16.ofNat packets }

theorem advance_zero (s : VideoRtpSession) : s.advance 0 = s := by
  simp [advance]

theorem advance_advance (m n : Nat) (s : VideoRtpSession) :
    (s.advance m).advance n = s.advance (m + n) := by
  simp [advance, UInt16.add_assoc]

theorem rtpPackets_advance (s : VideoRtpSession) (k : Nat) (timestamp : UInt32) (last : Bool)
    (sequence : UInt16) (ps : List ByteSpan) :
    rtpPackets (s.advance k) timestamp last sequence ps =
      rtpPackets s timestamp last sequence ps := by
  induction ps generalizing sequence with
  | nil => rfl
  | cons p ps ih =>
    rw [rtpPackets, rtpPackets, ih]
    rfl

theorem rtpPackets_append (s : VideoRtpSession) (timestamp : UInt32) (last : Bool)
    (sequence : UInt16) (ps qs : List ByteSpan) :
    rtpPackets s timestamp last sequence (ps ++ qs) =
      rtpPackets s timestamp (last && qs.isEmpty) sequence ps ++
        rtpPackets s timestamp last (sequence + UInt16.ofNat ps.length) qs := by
  induction ps generalizing sequence with
  | nil => simp [rtpPackets]
  | cons p ps ih =>
    have hseq : sequence + 1 + UInt16.ofNat ps.length =
        sequence + UInt16.ofNat (ps.length + 1) := by
      rw [UInt16.ofNat_add, UInt16.add_assoc, UInt16.add_comm 1]
      rfl
    rw [List.cons_append, rtpPackets, rtpPackets, ih, List.length_cons, hseq, List.cons_append]
    congr 2
    cases ps <;> simp

@[simp] theorem length_rtpPackets (s : VideoRtpSession) (timestamp : UInt32) (last : Bool)
    (sequence : UInt16) (ps : List ByteSpan) :
    (rtpPackets s timestamp last sequence ps).length = ps.length := by
  induction ps generalizing sequence with
  | nil => rfl
  | cons p ps ih => rw [rtpPackets, List.length_cons, List.length_cons, ih]

/-- Only the last packet carries the marker. -/
theorem markers_rtpPackets {s : VideoRtpSession} (hpt : s.payloadType < 128) (timestamp : UInt32)
    (sequence : UInt16) {ps : List ByteSpan} (h : ps ≠ []) :
    (rtpPackets s timestamp true sequence ps).map rtpMarker =
      List.replicate (ps.length - 1) false ++ [true] := by
  induction ps generalizing sequence with
  | nil => exact absurd rfl h
  | cons p ps ih =>
    rw [rtpPackets, List.map_cons, rtpMarker_rtpPacket _ _ _ _ _ _ hpt]
    cases ps with
    | nil => rfl
    | cons q qs =>
      rw [ih _ (by simp)]
      rfl

/-! ## A sender that nothing stops -/

/-- The session may send, the network takes every datagram, and a packet of the largest payload
    fits the packet buffer. -/
structure CanSend (sendto : ByteSpan → Bool) (s : VideoRtpSession) : Prop where
  sendEnabled : s.sendEnabled = true
  running : s.running = true
  rtpSocket : s.rtpSocket = true
  sendto : ∀ packet, sendto packet = true
  room : 2 < s.maxPayload
  fits : s.maxPayload + 12 ≤ kMaxRtpPacketBytes

variable {sendto : ByteSpan → Bool} {s : VideoRtpSession}

theorem CanSend.advance (h : CanSend sendto s) (k : Nat) : CanSend sendto (s.advance k) :=
  ⟨h.sendEnabled, h.running, h.rtpSocket, h.sendto, h.room, h.fits⟩

/-- A payload within the limit goes out. -/
theorem sendRtpPayload_eq (h : CanSend sendto s) {payload : ByteSpan} (hne : payload ≠ [])
    (hlen : payload.length ≤ s.maxPayload) (marker : Bool) (timestamp : UInt32) :
    s.sendRtpPayload sendto payload marker timestamp =
      (some (rtpPacket s.payloadType marker s.txSequence (timestamp + s.txTimestampOffset)
        s.txSsrc payload), s.advance 1) := by
  have hfits := h.fits
  rw [sendRtpPayload, if_neg (by simp [hne, h.sendEnabled, hlen]), if_neg (by omega)]
  simp only
  rw [if_neg (by simp [h.sendEnabled, h.running, h.rtpSocket]), if_pos (h.sendto _)]
  rfl

/-- The loop over the fragments of a NAL unit sends all of them. -/
theorem sendFragments_eq (h : CanSend sendto s) (nal : ByteSpan) (last : Bool)
    (timestamp : UInt32) {fuel offset : Nat} (first : Bool)
    (hfuel : nal.length - offset ≤ fuel) :
    s.sendFragments sendto nal last timestamp fuel offset first =
      ⟨rtpPackets s timestamp last s.txSequence
          (fuPayloads (s.maxPayload - 2) nal fuel offset first), true,
        s.advance (fuPayloads (s.maxPayload - 2) nal fuel offset first).length⟩ := by
  have hroom := h.room
  induction fuel generalizing s offset first with
  | zero => rw [sendFragments, fuPayloads, rtpPackets, List.length_nil, advance_zero]
  | succ fuel ih =>
    rw [sendFragments, fuPayloads]
    by_cases hoffset : offset < nal.length
    · simp only [if_pos hoffset]
      generalize hchunk : min (s.maxPayload - 2) (nal.length - offset) = chunk
      have hpos : 0 < chunk := by omega
      have hle : chunk ≤ s.maxPayload - 2 := by omega
      rw [sendRtpPayload_eq h (by simp [fuPrefix]) (by simp [fuPrefix]; omega)]
      simp only
      rw [ih (h.advance 1) false (by omega) hroom, advance_advance, rtpPackets_advance,
        List.length_cons, rtpPackets, Nat.add_comm _ 1]
      -- the marker is on the fragment behind which there is none
      have hlast : (fuPayloads (s.maxPayload - 2) nal fuel (offset + chunk) false).isEmpty =
          (offset + chunk == nal.length) := by
        by_cases hend : offset + chunk = nal.length
        · cases fuel with
          | zero => simp [fuPayloads, hend]
          | succ fuel => simp [fuPayloads, hend]
        · obtain ⟨fuel, rfl⟩ : ∃ k, fuel = k + 1 := ⟨fuel - 1, by omega⟩
          rw [fuPayloads, if_pos (by omega)]
          simp [hend]
      rw [hlast]
      rfl
    · simp only [if_neg hoffset]
      rw [rtpPackets, List.length_nil, advance_zero]

theorem fuPayloads_ne_nil {size offset : Nat} {nal : ByteSpan} {first : Bool}
    (h : offset < nal.length) : fuPayloads size nal nal.length offset first ≠ [] := by
  obtain ⟨k, hk⟩ : ∃ k, nal.length = k + 1 := ⟨nal.length - 1, by omega⟩
  rw [hk, fuPayloads, if_pos h]
  exact List.cons_ne_nil _ _

theorem nalPayloads_ne_nil (maxPayload : Nat) (hmax : 2 < maxPayload) (n : NalUnit) :
    nalPayloads maxPayload n.bytes ≠ [] := by
  rw [nalPayloads]
  split
  · exact List.cons_ne_nil _ _
  · exact fuPayloads_ne_nil (by omega)

/-- One round of the loop sends the packets of one NAL unit. -/
theorem sendNal_eq (h : CanSend sendto s) (n : NalUnit) (last : Bool) (timestamp : UInt32) :
    s.sendNal sendto n.bytes last timestamp =
      ⟨rtpPackets s timestamp last s.txSequence (nalPayloads s.maxPayload n.bytes), true,
        s.advance (nalPayloads s.maxPayload n.bytes).length⟩ := by
  have hroom := h.room
  rw [sendNal, nalPayloads]
  by_cases hlen : n.bytes.length ≤ s.maxPayload
  · rw [if_pos hlen, if_pos hlen, sendRtpPayload_eq h n.bytes_ne_nil hlen]
    simp [rtpPackets]
  · rw [if_neg hlen, if_neg hlen, if_neg (by omega), sendFragments_eq h _ _ _ _ (by omega)]

/-- The payloads of the packets of an access unit. -/
def unitPayloads (maxPayload : Nat) (units : List (Nat × NalUnit)) : List ByteSpan :=
  units.flatMap fun u => nalPayloads maxPayload u.2.bytes

theorem unitPayloads_cons (maxPayload : Nat) (u : Nat × NalUnit) (units : List (Nat × NalUnit)) :
    unitPayloads maxPayload (u :: units) =
      nalPayloads maxPayload u.2.bytes ++ unitPayloads maxPayload units := List.flatMap_cons

/-- The loop over the NAL units sends the packets of all of them. -/
theorem sendNals_eq (h : CanSend sendto s) {data : ByteSpan} (timestamp : UInt32)
    {fuel p : Nat} {units : List (Nat × NalUnit)} (sentAny : Bool)
    (hunits : ∀ u ∈ units, 2 ≤ u.1) (hp : p ≤ data.length) (hdata : data.drop p = annexB units)
    (hfuel : units.length < fuel) :
    s.sendNals sendto data timestamp fuel p sentAny =
      ⟨rtpPackets s timestamp true s.txSequence (unitPayloads s.maxPayload units),
        sentAny || !units.isEmpty, s.advance (unitPayloads s.maxPayload units).length⟩ := by
  induction units generalizing s fuel p sentAny with
  | nil =>
    obtain ⟨fuel, rfl⟩ : ∃ k, fuel = k + 1 := ⟨fuel - 1, by simp at hfuel; omega⟩
    rw [annexB_nil, List.drop_eq_nil_iff] at hdata
    obtain rfl : p = data.length := by omega
    rw [sendNals, nextAnnexBNal_end]
    simp [unitPayloads, rtpPackets, advance_zero]
  | cons u units ih =>
    obtain ⟨fuel, rfl⟩ : ∃ k, fuel = k + 1 := ⟨fuel - 1, by simp at hfuel; omega⟩
    rw [annexB_cons] at hdata
    have hrest : ∀ v ∈ units, 2 ≤ v.1 := fun v hv => hunits v (List.mem_cons_of_mem u hv)
    have hdrop : data.drop (p + (u.1 + 1) + u.2.bytes.length) = annexB units := by
      rw [Nat.add_assoc, ← List.drop_drop, hdata]
      exact List.drop_left' (by simp)
    have hlen := congrArg List.length hdata
    simp only [List.length_drop, List.length_append, length_startCode] at hlen
    have hp' : p + (u.1 + 1) + u.2.bytes.length ≤ data.length := by omega
    -- a unit is the last one exactly if no other is left
    have hlast : (nextAnnexBNal data (p + (u.1 + 1) + u.2.bytes.length)).isNone =
        (unitPayloads s.maxPayload units).isEmpty := by
      cases units with
      | nil =>
        rw [annexB_nil, List.drop_eq_nil_iff] at hdrop
        rw [show p + (u.1 + 1) + u.2.bytes.length = data.length by omega, nextAnnexBNal_end]
        rfl
      | cons v units =>
        rw [annexB_cons] at hdrop
        rw [nextAnnexBNal_eq (hrest v List.mem_cons_self)
          (fun w hw => hrest w (List.mem_cons_of_mem v hw)) hdrop]
        have := nalPayloads_ne_nil s.maxPayload h.room v.2
        simp [unitPayloads_cons, this]
    rw [sendNals, nextAnnexBNal_eq (hunits u List.mem_cons_self) hrest hdata]
    simp only [hlast, sendNal_eq h, ↓reduceIte]
    rw [ih (h.advance _) true hrest hp' hdrop (by simpa using hfuel), rtpPackets_advance,
      advance_advance, unitPayloads_cons, rtpPackets_append, List.length_append]
    simp [advance]

/-- **What an access unit is sent as.** -/
theorem sendH264AccessUnit_eq (h : CanSend sendto s) {units : List (Nat × NalUnit)}
    (hunits : ∀ u ∈ units, 2 ≤ u.1) (timestamp : UInt32) (keyFrame : Bool) :
    s.sendH264AccessUnit sendto ⟨annexB units, timestamp, keyFrame⟩ =
      ⟨rtpPackets s timestamp true s.txSequence (unitPayloads s.maxPayload units),
        !units.isEmpty, s.advance (unitPayloads s.maxPayload units).length⟩ := by
  have hsend := sendNals_eq h timestamp false hunits (Nat.zero_le (annexB units).length) rfl
    (Nat.lt_succ_of_le (length_le_annexB units))
  rw [Bool.false_or] at hsend
  exact hsend

/-! ## The packets of a NAL unit are those of a piece -/

/-- The fragments behind the first one are some in the middle and a last one. -/
theorem fuPayloads_later {size : Nat} (hsize : 0 < size) (nal : ByteSpan) {fuel offset : Nat}
    (hfuel : nal.length - offset ≤ fuel) (hoffset : offset < nal.length) :
    ∃ (middle : List ByteSpan) (final : ByteSpan), nal.drop offset = middle.flatten ++ final ∧
      fuPayloads size nal fuel offset false =
        middle.map (fuPrefix nal false false ++ ·) ++ [fuPrefix nal false true ++ final] := by
  induction fuel generalizing offset with
  | zero => omega
  | succ fuel ih =>
    rw [fuPayloads, if_pos hoffset]
    dsimp only
    by_cases hend : nal.length - offset ≤ size
    · rw [Nat.min_eq_right hend, show offset + (nal.length - offset) = nal.length by omega]
      refine ⟨[], nal.drop offset, by simp, ?_⟩
      have hnone : fuPayloads size nal fuel nal.length false = [] := by
        cases fuel with
        | zero => rfl
        | succ fuel => rw [fuPayloads, if_neg (Nat.lt_irrefl _)]
      rw [hnone, List.take_of_length_le (by simp)]
      simp
    · rw [Nat.min_eq_left (by omega)]
      obtain ⟨middle, final, hdrop, hpayloads⟩ :=
        ih (show nal.length - (offset + size) ≤ fuel by omega)
          (show offset + size < nal.length by omega)
      refine ⟨(nal.drop offset).take size :: middle, final, ?_, ?_⟩
      · rw [List.flatten_cons, List.append_assoc, ← hdrop, ← List.drop_drop,
          List.take_append_drop]
      · rw [hpayloads, beq_eq_false_iff_ne.mpr (by omega)]
        rfl

/-- What a NAL unit is sent as is a packetization of it: alone or in fragments. -/
theorem nalPayloads_piece {maxPayload : Nat} (hmax : 2 < maxPayload) (n : NalUnit) :
    ∃ p : Piece, p.isAggregate = false ∧ p.nals = [n] ∧
      p.payloads = nalPayloads maxPayload n.bytes := by
  rw [nalPayloads]
  split
  · exact ⟨.single n, rfl, rfl, rfl⟩
  · rename_i hlen
    obtain ⟨k, hk⟩ : ∃ k, n.bytes.length = k + 1 := ⟨n.bytes.length - 1, by omega⟩
    have hfirst : fuPayloads (maxPayload - 2) n.bytes n.bytes.length 1 true =
        (fuPrefix n.bytes true false ++ n.bytes.tail.take (maxPayload - 2)) ::
          fuPayloads (maxPayload - 2) n.bytes k (1 + (maxPayload - 2)) false := by
      conv =>
        lhs
        rw [hk, fuPayloads, if_pos (by omega)]
      rw [Nat.min_eq_left (by omega)]
      dsimp only
      rw [beq_eq_false_iff_ne.mpr (by omega), List.drop_one]
    obtain ⟨middle, final, hdrop, hlater⟩ :=
      fuPayloads_later (show 0 < maxPayload - 2 by omega) n.bytes
        (show n.bytes.length - (1 + (maxPayload - 2)) ≤ k by omega) (by omega)
    refine ⟨.fragments n (n.bytes.tail.take (maxPayload - 2)) middle final ?_, rfl, rfl, ?_⟩
    · rw [List.append_assoc, ← hdrop, ← List.drop_drop, List.drop_one, List.take_append_drop]
    · rw [hfirst, hlater]
      rfl

theorem length_of_mem_fuPayloads {size fuel offset : Nat} {nal : ByteSpan} {first : Bool}
    {p : ByteSpan} (h : p ∈ fuPayloads size nal fuel offset first) : p.length ≤ size + 2 := by
  induction fuel generalizing offset first with
  | zero => cases h
  | succ fuel ih =>
    rw [fuPayloads] at h
    split at h
    · rcases List.mem_cons.mp h with rfl | h
      · simp only [fuPrefix, List.length_append, List.length_cons, List.length_nil,
          List.length_take]
        omega
      · exact ih h
    · cases h

/-- No payload is longer than the limit. -/
theorem length_of_mem_unitPayloads {maxPayload : Nat} (hmax : 2 < maxPayload)
    {units : List (Nat × NalUnit)} {p : ByteSpan} (h : p ∈ unitPayloads maxPayload units) :
    p.length ≤ maxPayload := by
  obtain ⟨u, -, h⟩ := List.mem_flatMap.mp h
  rw [nalPayloads] at h
  split at h
  · rename_i hlen
    rw [List.mem_singleton.mp h]
    exact hlen
  · have := length_of_mem_fuPayloads h
    omega

/-- What an access unit is sent as is a packetization of its NAL units. -/
theorem unitPayloads_pieces {maxPayload : Nat} (hmax : 2 < maxPayload)
    (units : List (Nat × NalUnit)) :
    ∃ ps : List Piece, (∀ p ∈ ps, p.isAggregate = false) ∧
      ps.flatMap Piece.nals = units.map (·.2) ∧
      ps.flatMap Piece.payloads = unitPayloads maxPayload units := by
  induction units with
  | nil => exact ⟨[], by simp, rfl, rfl⟩
  | cons u units ih =>
    obtain ⟨ps, hplain, hnals, hpayloads⟩ := ih
    obtain ⟨p, hp, hn, hload⟩ := nalPayloads_piece hmax u.2
    refine ⟨p :: ps, ?_, ?_, ?_⟩
    · intro q hq
      rcases List.mem_cons.mp hq with rfl | hq
      · exact hp
      · exact hplain q hq
    · rw [List.flatMap_cons, hn, hnals]
      rfl
    · rw [List.flatMap_cons, hload, hpayloads, unitPayloads_cons]

end VideoRtpSession

end EsphomeVoip
