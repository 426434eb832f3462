import EsphomeVoip.Video.Packetization

/-! # The stream of a sender

A sender packetizes one access unit after the other and numbers the packets.  Between them it may
send keepalives without a payload, which take numbers too. -/

namespace EsphomeVoip

/-- An access unit, as it is packetized. -/
structure SentUnit where
  pieces : List Piece
  timestamp : UInt32

/-- A media packet: the access unit and the place in it. -/
structure SentPacket where
  unit : SentUnit
  place : Nat

namespace SentUnit

variable (u : SentUnit)

def payloads : List ByteSpan := u.pieces.flatMap Piece.payloads

def nals : List NalUnit := u.pieces.flatMap Piece.nals

def packets : List SentPacket := (List.range u.payloads.length).map fun k => ⟨u, k⟩

@[simp] theorem length_packets : u.packets.length = u.payloads.length := by
  simp [packets]

theorem getElem?_packets {k : Nat} (h : k < u.payloads.length) : u.packets[k]? = some ⟨u, k⟩ := by
  simp [packets, h]

end SentUnit

/-- The payload of a packet. -/
def SentPacket.payload (p : SentPacket) : Option ByteSpan := p.unit.payloads[p.place]?

/-- Whether a packet is the last one of its access unit. -/
def SentPacket.last (p : SentPacket) : Bool := p.place + 1 == p.unit.payloads.length

/-- What takes a sequence number. -/
inductive SentEntry where
  | media (p : SentPacket)
  | keepalive

def SentEntry.media? : SentEntry → Option SentPacket
  | media p => some p
  | keepalive => none

/-- The stream of a sender: the access units, and the packets in the order of their numbers. -/
structure SentStream where
  base : UInt16
  units : List SentUnit
  entries : List SentEntry
  inOrder : entries.filterMap SentEntry.media? = units.flatMap SentUnit.packets

namespace SentStream

/-- A sender that sends nothing. -/
def silent : SentStream := ⟨0, [], [], rfl⟩

variable (σ : SentStream)

/-- The sequence number of the packet `i`. -/
def sequence (i : Nat) : UInt16 := σ.base + UInt16.ofNat i

theorem sequence_succ (i : Nat) : σ.sequence i + 1 = σ.sequence (i + 1) := by
  rw [sequence, sequence, UInt16.ofNat_add, UInt16.add_assoc]
  rfl

/-- Two packets have the same number if they are a multiple of 65536 apart. -/
theorem sequence_inj {i j : Nat} (h : σ.sequence i = σ.sequence j) : i % 65536 = j % 65536 := by
  rw [sequence, sequence, UInt16.add_right_inj] at h
  have := congrArg UInt16.toNat h
  simpa using this

/-- How many media packets there are before the packet `i`. -/
def mediaBefore (i : Nat) : Nat := ((σ.entries.take i).filterMap SentEntry.media?).length

/-- The packet `i` is the media packet of that number. -/
theorem media_eq {i : Nat} {p : SentPacket} (h : σ.entries[i]? = some (.media p)) :
    (σ.units.flatMap SentUnit.packets)[σ.mediaBefore i]? = some p ∧
      σ.mediaBefore (i + 1) = σ.mediaBefore i + 1 := by
  obtain ⟨hi, hget⟩ := List.getElem?_eq_some_iff.mp h
  have hsplit := List.take_append_drop i σ.entries
  rw [List.drop_eq_getElem_cons hi, hget] at hsplit
  constructor
  · rw [← σ.inOrder, ← hsplit, List.filterMap_append, mediaBefore,
      List.getElem?_append_right (by simp)]
    simp [SentEntry.media?]
  · rw [mediaBefore, mediaBefore, List.take_succ_eq_append_getElem hi, hget,
      List.filterMap_append, List.length_append]
    rfl

theorem keepalive_eq {i : Nat} (h : σ.entries[i]? = some .keepalive) :
    σ.mediaBefore (i + 1) = σ.mediaBefore i := by
  obtain ⟨hi, hget⟩ := List.getElem?_eq_some_iff.mp h
  rw [mediaBefore, mediaBefore, List.take_succ_eq_append_getElem hi, hget,
    List.filterMap_append, List.length_append]
  rfl

/-- A packet that is not the last one of its unit is followed by the next one of that unit. -/
theorem next_in_unit {units : List SentUnit} {c k : Nat} {u : SentUnit}
    (h : (units.flatMap SentUnit.packets)[c]? = some ⟨u, k⟩) (hk : k + 1 < u.payloads.length) :
    (units.flatMap SentUnit.packets)[c + 1]? = some ⟨u, k + 1⟩ := by
  induction units generalizing c with
  | nil => simp at h
  | cons v units ih =>
    rw [List.flatMap_cons] at h ⊢
    by_cases hc : c < v.payloads.length
    · rw [List.getElem?_append_left (by simpa using hc), v.getElem?_packets hc] at h
      obtain ⟨rfl, rfl⟩ := SentPacket.mk.inj (Option.some.inj h)
      rw [List.getElem?_append_left (by simpa using hk), v.getElem?_packets hk]
    · rw [List.getElem?_append_right (by simpa using hc), SentUnit.length_packets] at h
      rw [List.getElem?_append_right (by simp; omega), SentUnit.length_packets,
        show c + 1 - v.payloads.length = c - v.payloads.length + 1 by omega]
      exact ih h

/-- Every media packet is one of a unit of the stream. -/
theorem mem_of_packet {units : List SentUnit} {c k : Nat} {u : SentUnit}
    (h : (units.flatMap SentUnit.packets)[c]? = some ⟨u, k⟩) :
    u ∈ units ∧ k < u.payloads.length := by
  obtain ⟨v, hv, hmem⟩ := List.mem_flatMap.mp (List.mem_of_getElem? h)
  obtain ⟨j, hj, heq⟩ := List.mem_map.mp hmem
  obtain ⟨rfl, rfl⟩ := SentPacket.mk.inj heq
  exact ⟨hv, List.mem_range.mp hj⟩

/-- The packets before `n` end with the packet `k` of `u`, and that is not the last one. -/
def EndsInside (n : Nat) (u : SentUnit) (k : Nat) : Prop :=
  ∃ c, σ.mediaBefore n = c + 1 ∧ (σ.units.flatMap SentUnit.packets)[c]? = some ⟨u, k⟩ ∧
    k + 1 < u.payloads.length

variable {σ} {n : Nat} {u : SentUnit} {k : Nat}

theorem EndsInside.keepalive (h : σ.EndsInside n u k) (hn : σ.entries[n]? = some .keepalive) :
    σ.EndsInside (n + 1) u k := by
  obtain ⟨c, hc, hget, hk⟩ := h
  exact ⟨c, (σ.keepalive_eq hn).trans hc, hget, hk⟩

/-- The next media packet is the next one of the unit. -/
theorem EndsInside.next (h : σ.EndsInside n u k) {p : SentPacket}
    (hn : σ.entries[n]? = some (.media p)) : p = ⟨u, k + 1⟩ := by
  obtain ⟨c, hc, hget, hk⟩ := h
  have hp := (σ.media_eq hn).1
  rw [hc, next_in_unit hget hk] at hp
  exact (Option.some.inj hp).symm

/-- A packet that is not the last one of its unit leaves the stream inside it. -/
theorem endsInside_of_media {p : SentPacket} (hn : σ.entries[n]? = some (.media p))
    (hlast : p.last = false) : σ.EndsInside (n + 1) p.unit p.place := by
  obtain ⟨hget, hsucc⟩ := σ.media_eq hn
  have hk := (mem_of_packet hget).2
  rw [SentPacket.last, beq_eq_false_iff_ne] at hlast
  exact ⟨σ.mediaBefore n, hsucc, hget, by omega⟩

end SentStream

/-! ## Where a unit may be cut -/

/-- Of the packets of a piece only the first is no continuation. -/
theorem Piece.continuation (p : Piece) {i : Nat} {payload : ByteSpan}
    (h : p.payloads[i]? = some payload) (hc : isContinuation payload = false) : i = 0 := by
  cases i with
  | zero => rfl
  | succ i =>
    cases p with
    | single n => simp [payloads] at h
    | aggregate indicator ns isStap nonempty fits => simp [payloads] at h
    | fragments n first middle final whole =>
      rw [payloads, List.getElem?_cons_succ] at h
      have hmem := List.mem_of_getElem? h
      rw [List.mem_append, List.mem_map, List.mem_singleton] at hmem
      rcases hmem with ⟨m, -, rfl⟩ | rfl
      · simp [isContinuation, nalType_fuPrefix, fuStart_fuPrefix] at hc
      · simp [isContinuation, nalType_fuPrefix, fuStart_fuPrefix] at hc

/-- A packet of a sender has a payload. -/
theorem SentPacket.payload_ne_nil {p : SentPacket} {payload : ByteSpan}
    (h : p.payload = some payload) : payload ≠ [] := by
  obtain ⟨piece, -, hmem⟩ := List.mem_flatMap.mp (List.mem_of_getElem? h)
  rintro rfl
  cases piece with
  | single n =>
    rw [Piece.payloads, List.mem_singleton] at hmem
    exact n.bytes_ne_nil hmem.symm
  | aggregate indicator ns isStap nonempty fits => simp [Piece.payloads] at hmem
  | fragments n first middle final whole =>
    simp [Piece.payloads, VideoRtpSession.fuPrefix] at hmem

/-- A packet that is no continuation is the first one of a piece. -/
theorem boundary_of_not_continuation {ps : List Piece} {k : Nat} {payload : ByteSpan}
    (h : (ps.flatMap Piece.payloads)[k]? = some payload) (hc : isContinuation payload = false) :
    ∃ before after, ps = before ++ after ∧
      (ps.flatMap Piece.payloads).take k = before.flatMap Piece.payloads := by
  induction ps generalizing k with
  | nil => simp at h
  | cons p ps ih =>
    rw [List.flatMap_cons] at h ⊢
    by_cases hk : k < p.payloads.length
    · rw [List.getElem?_append_left hk] at h
      obtain rfl := p.continuation h hc
      exact ⟨[], p :: ps, rfl, rfl⟩
    · rw [List.getElem?_append_right (by omega)] at h
      obtain ⟨before, after, rfl, htake⟩ := ih h
      refine ⟨p :: before, after, rfl, ?_⟩
      rw [List.take_append, List.take_of_length_le (by omega), htake, List.flatMap_cons]

end EsphomeVoip
