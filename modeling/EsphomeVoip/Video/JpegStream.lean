import EsphomeVoip.Video.JpegRoundTrip
import EsphomeVoip.Video.SentStream

/-! # The stream of a sender of JPEG frames

A sender packetizes one frame after the other and numbers the packets.  It may give a frame up
behind any of its packets, and keepalives without a payload take numbers too. -/

namespace EsphomeVoip

namespace RtpJpegFrameView

open VideoRtpSession

/-! ## Where the fragments begin -/

/-- How much of the scan the fragment at `offset` carries. -/
def fragmentSize (maxPayload : Nat) (frame : RtpJpegFrameView) (offset : Nat) : Nat :=
  min (maxPayload - (frame.fragmentHeader offset).length) (frame.scan.length - offset)

/-- The payload of the fragment at `offset`. -/
def fragmentAt (maxPayload : Nat) (frame : RtpJpegFrameView) (offset : Nat) : ByteSpan :=
  frame.fragmentHeader offset ++ (frame.scan.drop offset).take
    (frame.fragmentSize maxPayload offset)

/-- Where the fragment `k` begins, if the first one begins at `offset`. -/
def fragmentOffset (maxPayload : Nat) (frame : RtpJpegFrameView) : Nat → Nat → Nat
  | offset, 0 => offset
  | offset, k + 1 => fragmentOffset maxPayload frame (offset + frame.fragmentSize maxPayload offset)
    k

variable {maxPayload : Nat} {frame : RtpJpegFrameView}

theorem fragmentOffset_succ (offset k : Nat) :
    fragmentOffset maxPayload frame offset (k + 1) =
      fragmentOffset maxPayload frame offset k +
        frame.fragmentSize maxPayload (fragmentOffset maxPayload frame offset k) := by
  induction k generalizing offset with
  | zero => rfl
  | succ k ih =>
    rw [fragmentOffset, ih]
    rfl

theorem le_fragmentOffset (offset k : Nat) : offset ≤ fragmentOffset maxPayload frame offset k := by
  induction k with
  | zero => exact Nat.le_refl _
  | succ k ih =>
    rw [fragmentOffset_succ]
    omega

/-- No fragment goes beyond the scan. -/
theorem fragmentOffset_le {offset : Nat} (h : offset ≤ frame.scan.length) (k : Nat) :
    fragmentOffset maxPayload frame offset k ≤ frame.scan.length := by
  induction k with
  | zero => exact h
  | succ k ih =>
    rw [fragmentOffset_succ, fragmentSize]
    omega

/-- The payloads, by their places. -/
theorem getElem?_jpegPayloads {fuel offset : Nat} (hfuel : frame.scan.length - offset ≤ fuel)
    (hsize : ∀ offset < frame.scan.length, 0 < frame.fragmentSize maxPayload offset) (k : Nat) :
    (jpegPayloads maxPayload frame fuel offset)[k]? =
      if fragmentOffset maxPayload frame offset k < frame.scan.length then
        some (frame.fragmentAt maxPayload (fragmentOffset maxPayload frame offset k))
      else none := by
  induction fuel generalizing offset k with
  | zero =>
    have hle : offset ≤ fragmentOffset maxPayload frame offset k := le_fragmentOffset offset k
    rw [jpegPayloads, if_neg (by omega), List.getElem?_nil]
  | succ fuel ih =>
    have hle : offset ≤ fragmentOffset maxPayload frame offset k := le_fragmentOffset offset k
    rw [jpegPayloads]
    by_cases hmore : offset < frame.scan.length
    · have hpos := hsize offset hmore
      rw [if_pos hmore]
      cases k with
      | zero =>
        rw [fragmentOffset, if_pos hmore]
        rfl
      | succ k =>
        simp only [List.getElem?_cons_succ]
        rw [fragmentOffset, ← ih (by omega)]
        rfl
    · rw [if_neg hmore, if_neg (by omega), List.getElem?_nil]

end RtpJpegFrameView

/-! ## Frames -/

/-- A frame, as it is packetized. -/
structure SentJpeg where
  frame : RtpJpegFrameView
  sendable : frame.Sendable
  maxPayload : Nat
  headerFits : (frame.fragmentHeader 0).length < maxPayload
  scanFits : frame.scan.length ≤ 2 ^ 24
  timestamp : UInt32

namespace SentJpeg

open RtpJpegFrameView VideoRtpSession

variable (u : SentJpeg)

/-- The payloads that `send_jpeg_access_unit_` sends. -/
def payloads : List ByteSpan := jpegPayloads u.maxPayload u.frame u.frame.scan.length 0

/-- Where the packet `k` begins in the scan. -/
def offset (k : Nat) : Nat := fragmentOffset u.maxPayload u.frame 0 k

variable {u} {k : Nat} {payload : ByteSpan}

theorem offset_le (k : Nat) : u.offset k ≤ u.frame.scan.length :=
  fragmentOffset_le (Nat.zero_le _) k

theorem offset_succ (k : Nat) :
    u.offset (k + 1) = u.offset k + u.frame.fragmentSize u.maxPayload (u.offset k) :=
  fragmentOffset_succ 0 k

theorem fragmentSize_pos {offset : Nat} (h : offset < u.frame.scan.length) :
    0 < u.frame.fragmentSize u.maxPayload offset := by
  have hle := length_fragmentHeader_le u.sendable offset
  have hfits := u.headerFits
  rw [fragmentSize]
  omega

/-- The packet `k`, if there is one. -/
theorem payloads_eq (k : Nat) :
    u.payloads[k]? =
      if u.offset k < u.frame.scan.length then
        some (u.frame.fragmentAt u.maxPayload (u.offset k))
      else none := by
  rw [payloads, offset]
  exact getElem?_jpegPayloads (Nat.sub_le _ _) (fun _ h => fragmentSize_pos h) k

theorem lt_length_iff : k < u.payloads.length ↔ u.offset k < u.frame.scan.length := by
  have heq := u.payloads_eq k
  constructor
  · intro h
    by_cases hlt : u.offset k < u.frame.scan.length
    · exact hlt
    · rw [if_neg hlt, List.getElem?_eq_none_iff] at heq
      omega
  · intro h
    rw [if_pos h] at heq
    exact (List.getElem?_eq_some_iff.mp heq).1

theorem eq_of_payload (h : u.payloads[k]? = some payload) :
    u.offset k < u.frame.scan.length ∧
      payload = u.frame.fragmentAt u.maxPayload (u.offset k) := by
  rw [payloads_eq] at h
  split at h
  · rename_i hlt
    exact ⟨hlt, (Option.some.inj h).symm⟩
  · cases h

/-- The packet `k` is the last one if its fragment ends the scan. -/
theorem last_iff (h : u.offset k < u.frame.scan.length) :
    (k + 1 == u.payloads.length) = (u.offset (k + 1) == u.frame.scan.length) := by
  have hk : k < u.payloads.length := lt_length_iff.mpr h
  have hnext : k + 1 < u.payloads.length ↔ u.offset (k + 1) < u.frame.scan.length := lt_length_iff
  have hle := u.offset_le (k + 1)
  rw [Bool.eq_iff_iff, beq_iff_eq, beq_iff_eq]
  omega

theorem offset_ne_zero (h : u.offset k < u.frame.scan.length) : u.offset (k + 1) ≠ 0 := by
  have hpos := fragmentSize_pos h
  rw [offset_succ]
  omega

theorem offset_lt (h : u.offset k < u.frame.scan.length) : u.offset k < 2 ^ 24 := by
  have hfits := u.scanFits
  omega

end SentJpeg

/-! ## Streams -/

/-- What takes a sequence number: the packet `k` of a frame, or a keepalive. -/
inductive JpegEntry where
  | media (u : SentJpeg) (k : Nat)
  | keepalive

def JpegEntry.media? : JpegEntry → Option (SentJpeg × Nat)
  | media u k => some (u, k)
  | keepalive => none

/-- The last media packet among some entries. -/
def lastPacket (entries : List JpegEntry) : Option (SentJpeg × Nat) :=
  (entries.filterMap JpegEntry.media?).getLast?

/-- The stream of a sender.  A packet that is not the first one of its frame comes right behind the
    packet before it in that frame. -/
structure JpegStream where
  base : UInt16
  entries : List JpegEntry
  inOrder : ∀ i u k, entries[i]? = some (.media u (k + 1)) →
    lastPacket (entries.take i) = some (u, k)

namespace JpegStream

/-- A sender that sends nothing. -/
def silent : JpegStream := ⟨0, [], fun _ _ _ h => by simp at h⟩

variable (σ : JpegStream)

/-- The sequence number of the packet `i`. -/
def sequence (i : Nat) : UInt16 := σ.base + UInt16.ofNat i

theorem sequence_succ (i : Nat) : σ.sequence i + 1 = σ.sequence (i + 1) := by
  rw [sequence, sequence, UInt16.ofNat_add, UInt16.add_assoc]
  rfl

/-- Two packets have the same number if they are a multiple of 65536 apart. -/
theorem sequence_inj {i j : Nat} (h : σ.sequence i = σ.sequence j) : i % 65536 = j % 65536 := by
  rw [sequence, sequence, UInt16.add_right_inj] at h
  have hnat := congrArg UInt16.toNat h
  simpa using hnat

/-- The last media packet before the entry `i`. -/
def before (i : Nat) : Option (SentJpeg × Nat) := lastPacket (σ.entries.take i)

variable {σ} {i : Nat} {u : SentJpeg} {k : Nat}

theorem before_media (h : σ.entries[i]? = some (.media u k)) :
    σ.before (i + 1) = some (u, k) := by
  obtain ⟨hi, hget⟩ := List.getElem?_eq_some_iff.mp h
  rw [before, lastPacket, List.take_succ_eq_append_getElem hi, hget, List.filterMap_append]
  exact List.getLast?_concat

theorem before_keepalive (h : σ.entries[i]? = some .keepalive) : σ.before (i + 1) = σ.before i := by
  obtain ⟨hi, hget⟩ := List.getElem?_eq_some_iff.mp h
  rw [before, lastPacket, List.take_succ_eq_append_getElem hi, hget, List.filterMap_append]
  simp only [List.filterMap_cons, JpegEntry.media?, List.filterMap_nil, List.append_nil]
  rfl

/-- The packet behind another one of its frame. -/
theorem before_of_later (h : σ.entries[i]? = some (.media u (k + 1))) :
    σ.before i = some (u, k) := σ.inOrder i u k h

end JpegStream

end EsphomeVoip
