import EsphomeVoip.Video.Arrival

/-! # Lost, repeated and foreign packets: what the sink is given

What an arrival does to the invariant is lifted to runs.  The first packet with the marker bit that
the session looks at ends whatever it joined in the middle; behind that packet units are complete
as long as none is begun in its middle, and one packet that comes twice is enough to begin one
there. -/

namespace EsphomeVoip

open VideoRtpSession

variable {σ : UInt32 → SentStream} {whole : Bool}

/-! ## Runs -/

section Runs

variable {t : Tracked} {arrivals : List Arrival}

/-- **A run keeps the invariant.** -/
theorem inv_run (hinv : Inv σ whole t)
    (h : EventRun.Along Tracked.step (Admissible σ) t arrivals)
    (hinside : whole = true →
      EventRun.Along Tracked.step (fun a t => ¬OpensInside σ a t) t arrivals) :
    Inv σ whole (EventRun.after Tracked.step t arrivals) := by
  induction arrivals generalizing t with
  | nil => exact hinv
  | cons a arrivals ih =>
    exact ih (inv_step hinv h.1 fun hw => (hinside hw).1).1 h.2 fun hw => (hinside hw).2

/-- What a run hands over is complete, if no unit is begun in its middle. -/
theorem handsOver_run (hinv : Inv σ true t)
    (h : EventRun.Along Tracked.step (Admissible σ) t arrivals)
    (hinside : EventRun.Along Tracked.step (fun a t => ¬OpensInside σ a t) t arrivals) :
    ∃ units, (EventRun.after Tracked.step t arrivals).session.handedOver =
        t.session.handedOver ++ units ∧ ∀ unit ∈ units, Complete σ unit := by
  induction arrivals generalizing t with
  | nil => exact ⟨[], (List.append_nil _).symm, fun _ h => nomatch h⟩
  | cons a arrivals ih =>
    obtain ⟨hinv', hover⟩ := inv_step hinv h.1 fun _ => hinside.1
    obtain ⟨units, hunits, hcomplete⟩ := ih hinv' h.2 hinside.2
    rcases hover with hover | ⟨unit, hover, hunit⟩
    · refine ⟨units, ?_, hcomplete⟩
      rw [EventRun.after_cons, hunits, hover]
    · refine ⟨unit :: units, ?_, ?_⟩
      · rw [EventRun.after_cons, hunits, hover, List.append_assoc]
        rfl
      · intro v hv
        rcases List.mem_cons.mp hv with rfl | hv
        · exact hunit rfl
        · exact hcomplete v hv

/-- **What is handed over behind the first marker bit is complete.**  Packets of any senders come
    in any order, with losses and repetitions, between datagrams that nobody sent, resets and
    switches of the direction.  From the first packet with the marker bit on, every unit that the
    sink is given is one that has been sent, completely, as long as no packet from inside a unit
    comes to a session that has dropped what came before it and sees no gap. -/
theorem delivered_units_are_complete (σ : UInt32 → SentStream) (s : VideoRtpSession) (hs : Fresh s)
    (before : List Arrival) (mark : Arrival) (after : List Arrival)
    (h : EventRun.Along Tracked.step (Admissible σ) ⟨s, none⟩ (before ++ mark :: after))
    (hmark : Marks σ mark (EventRun.after Tracked.step ⟨s, none⟩ before))
    (hinside : EventRun.Along Tracked.step (fun a t => ¬OpensInside σ a t)
      (EventRun.after Tracked.step ⟨s, none⟩ (before ++ [mark])) after) :
    ∃ units,
      (EventRun.after Tracked.step ⟨s, none⟩ (before ++ mark :: after)).session.handedOver =
        (EventRun.after Tracked.step ⟨s, none⟩ (before ++ [mark])).session.handedOver ++ units ∧
      ∀ unit ∈ units, Complete σ unit := by
  rw [EventRun.along_append, EventRun.along_cons] at h
  obtain ⟨hbefore, hadmissible, hafter⟩ := h
  rw [EventRun.after_append, EventRun.after_append] at *
  rw [EventRun.after_cons]
  rw [EventRun.after_cons, EventRun.after_nil] at hinside ⊢
  -- the marker ends whatever has been begun before
  have hinv : Inv σ false (EventRun.after Tracked.step ⟨s, none⟩ before) :=
    inv_run (hs.inv false) hbefore fun h => nomatch h
  have hidle := idle_of_marks hadmissible hmark
  have hwhole := (inv_step hinv hadmissible fun h => nomatch h).1.whole_of_idle hidle
  exact handsOver_run hwhole hafter hinside

end Runs

/-! ## Two runs -/

/-- A packet as `send_rtp_payload_` writes it. -/
def SentPacket.datagram (p : SentPacket) (payload : ByteSpan) (payloadType : UInt8)
    (sequence : UInt16) (ssrc ip : UInt32) (port : UInt16) : Datagram :=
  ⟨ip, port, rtpPacket payloadType p.last sequence p.unit.timestamp ssrc payload, true⟩

/-- It may reach a session, if that is not 65536 packets behind. -/
theorem admissible_datagram {t : Tracked} {ssrc : UInt32} {i : Nat} {p : SentPacket}
    {payload : ByteSpan} {payloadType : UInt8} (ip : UInt32) (port : UInt16)
    (hentry : (σ ssrc).entries[i]? = some (.media p)) (hpayload : p.payload = some payload)
    (hlen : payload.length + 12 ≤ kMaxRtpPacketBytes) (hpt : payloadType < 128)
    (htype : t.session.payloadType = payloadType) (hi : i < 65536)
    (hnext : ∀ n, t.next = some (ssrc, n) → n < 65536) :
    Admissible σ ⟨.datagram (p.datagram payload payloadType ((σ ssrc).sequence i) ssrc ip port),
      some (ssrc, i)⟩ t := by
  refine ⟨⟨?_, rtpSsrc_rtpPacket .., rtpSequence_rtpPacket .., .inl ⟨p, hentry, ?_, ?_, ?_, ?_⟩⟩,
    ?_⟩
  · rw [SentPacket.datagram, length_rtpPacket]
    exact hlen
  · exact (rtpPayloadType_rtpPacket _ _ _ _ _ _ hpt).trans htype.symm
  · exact (rtpPayload_rtpPacket ..).trans hpayload.symm
  · exact rtpMarker_rtpPacket _ _ _ _ _ _ hpt
  · exact rtpTimestamp_rtpPacket ..
  · intro n hn h
    have := hnext n hn
    omega

namespace TwoUnits

def firstSlice : NalUnit := ⟨[0x41, 1], by decide, by decide, by decide, by decide⟩

def keySlice : NalUnit := ⟨[0x65, 1, 2], by decide, by decide, by decide, by decide⟩

def lastSlice : NalUnit := ⟨[0x41, 2], by decide, by decide, by decide, by decide⟩

/-- A unit of one slice. -/
def small : SentUnit := ⟨[.single firstSlice], 100⟩

/-- A unit of an IDR slice in two fragments and of another slice. -/
def big : SentUnit := ⟨[.fragments keySlice [1] [] [2] rfl, .single lastSlice], 200⟩

/-- The two units, one after the other. -/
def stream : SentStream where
  base := 0
  units := [small, big]
  entries := [.media ⟨small, 0⟩, .media ⟨big, 0⟩, .media ⟨big, 1⟩, .media ⟨big, 2⟩]
  inOrder := rfl

/-- One sender sends the stream, and no other sends anything. -/
def senders (ssrc : UInt32) : SentStream := if ssrc = 9 then stream else .silent

/-- The packet `i` of the stream. -/
def packet (i : Nat) (p : SentPacket) (payload : ByteSpan) : Arrival :=
  ⟨.datagram (p.datagram payload 96 (stream.sequence i) 9 7 5004), some (9, i)⟩

def only : Arrival := packet 0 ⟨small, 0⟩ [0x41, 1]

def fuFirst : Arrival := packet 1 ⟨big, 0⟩ [0x7C, 0x85, 1]

def fuLast : Arrival := packet 2 ⟨big, 1⟩ [0x7C, 0x45, 2]

def final : Arrival := packet 3 ⟨big, 2⟩ [0x41, 2]

/-- The session that listens to it, before anything has come. -/
def start : Tracked := ⟨{ payloadType := 96, remoteIpV4 := 7 }, none⟩

theorem fresh_start : Fresh start.session := ⟨⟨rfl, rfl, rfl⟩, rfl, rfl, rfl⟩

theorem admissible_packet (n : Nat) {t : Tracked} {i : Nat} {p : SentPacket} {payload : ByteSpan}
    (hentry : stream.entries[i]? = some (.media p)) (hpayload : p.payload = some payload)
    (h : t.session.payloadType = 96 ∧ (t.next = none ∨ t.next = some (9, n)) ∧ i < 65536 ∧
      n < 65536 ∧ payload.length + 12 ≤ kMaxRtpPacketBytes) :
    Admissible senders (packet i p payload) t := by
  obtain ⟨htype, hnext, hi, hn, hlen⟩ := h
  have hstream : senders 9 = stream := rfl
  rw [packet, ← hstream]
  refine admissible_datagram 7 5004 (by rw [hstream, hentry]) hpayload hlen (by decide) htype hi ?_
  intro m hm
  rcases hnext with h | h
  · exact nomatch h.symm.trans hm
  · obtain ⟨-, rfl⟩ := Prod.mk.inj (Option.some.inj (h.symm.trans hm))
    exact hn

theorem marks_only : Marks senders only start :=
  ⟨_, 9, 0, ⟨small, 0⟩, rfl, rfl, rfl, by decide, by unfold Hears; decide⟩

/-- The last packet but one comes twice, and the session forgets the unit that it belongs to.  The
    packet behind it then passes for a unit of its own. -/
theorem repeated_fragment_shortens_the_unit :
    Fresh start.session ∧
      EventRun.Along Tracked.step (Admissible senders) start
        [only, fuFirst, fuLast, fuLast, final] ∧
      Marks senders only start ∧
      (EventRun.after Tracked.step start
          [only, fuFirst, fuLast, fuLast, final]).session.handedOver =
        (EventRun.after Tracked.step start [only]).session.handedOver ++
          [⟨[0, 0, 0, 1, 0x41, 2], 200, false⟩] ∧
      ¬Complete senders ⟨[0, 0, 0, 1, 0x41, 2], 200, false⟩ := by
  refine ⟨fresh_start, ⟨?_, ?_, ?_, ?_, ?_, trivial⟩, marks_only, by decide, ?_⟩
  · exact admissible_packet 0 rfl rfl (by decide)
  · exact admissible_packet 1 rfl rfl (by decide)
  · exact admissible_packet 2 rfl rfl (by decide)
  · exact admissible_packet 3 rfl rfl (by decide)
  · exact admissible_packet 3 rfl rfl (by decide)
  · rintro ⟨ssrc, u, hu, sets, -, hts, hdata⟩
    have hu : u ∈ [small, big] := by
      rw [senders] at hu
      split at hu
      · exact hu
      · exact nomatch hu
    rcases List.mem_cons.mp hu with rfl | hu
    · exact absurd hts (by decide)
    · obtain rfl := List.mem_singleton.mp hu
      -- the unit that was sent has thirteen bytes at least
      have hlen := congrArg List.length hdata
      rw [longForm_append, List.length_append] at hlen
      have : (longForm big.nals).length = 13 := by decide
      have : [0, 0, 0, 1, (0x41 : UInt8), 2].length = 6 := rfl
      dsimp only at hlen
      omega

/-- Packets in order: what comes behind the first one is a whole unit. -/
theorem units_in_order_are_complete :
    ∃ units, (EventRun.after Tracked.step start
          ([] ++ only :: [fuFirst, fuLast, final])).session.handedOver =
        (EventRun.after Tracked.step start ([] ++ [only])).session.handedOver ++ units ∧
      ∀ unit ∈ units, Complete senders unit := by
  apply delivered_units_are_complete senders start.session fresh_start [] only
    [fuFirst, fuLast, final]
  · refine ⟨?_, ?_, ?_, ?_, trivial⟩
    · exact admissible_packet 0 rfl rfl (by decide)
    · exact admissible_packet 1 rfl rfl (by decide)
    · exact admissible_packet 2 rfl rfl (by decide)
    · exact admissible_packet 3 rfl rfl (by decide)
  · exact marks_only
  · refine ⟨?_, ?_, ?_, trivial⟩
    · rintro ⟨d, ssrc, i, p, payload, hevent, horigin, hentry, hplace, -⟩
      obtain ⟨rfl, rfl⟩ := Prod.mk.inj (Option.some.inj horigin)
      obtain rfl := SentEntry.media.inj (Option.some.inj hentry)
      exact hplace rfl
    · rintro ⟨d, ssrc, i, p, payload, hevent, horigin, hentry, hplace, hpayload, hcont, -⟩
      obtain ⟨rfl, rfl⟩ := Prod.mk.inj (Option.some.inj horigin)
      obtain rfl := SentEntry.media.inj (Option.some.inj hentry)
      obtain rfl := Option.some.inj hpayload
      exact absurd hcont (by decide)
    · rintro ⟨d, ssrc, i, p, payload, hevent, horigin, hentry, hplace, hpayload, hcont, -, hopens,
        -⟩
      obtain ⟨rfl, rfl⟩ := Prod.mk.inj (Option.some.inj horigin)
      obtain rfl := SentEntry.media.inj (Option.some.inj hentry)
      obtain rfl := Event.datagram.inj hevent
      exact absurd hopens (by decide)

end TwoUnits

end EsphomeVoip
