import EsphomeVoip.ForStd.SlotTable
import EsphomeVoip.Rtp.JitterBuffer

/-! # The window of the jitter buffer

What every method keeps: a valid slot lies where its number says and within the window, and the
count of valid slots is right. -/

namespace EsphomeVoip

open SerialNumber

namespace RtpJitterBuffer

variable {b : RtpJitterBuffer} {q : UInt16}

/-! ## What the slots hold -/

/-- What a slot holds for the reader. -/
def Slot.content (s : Slot) : Option Played := if s.valid then some s.played else none

/-- The frames that wait in the buffer. -/
def queued (b : RtpJitterBuffer) : List Played := SlotTable.held Slot.content b.slots

@[simp] theorem content_clear (s : Slot) : s.clear.content = none := rfl

theorem content_isSome (s : Slot) : s.content.isSome = s.valid := by
  unfold Slot.content
  cases s.valid <;> rfl

theorem length_queued (b : RtpJitterBuffer) : b.queued.length = b.slots.countP Slot.valid := by
  rw [queued, SlotTable.length_held]
  simp only [content_isSome]

/-- The slots do what the window says, and the counters what the slots say. -/
structure Sound (b : RtpJitterBuffer) : Prop where
  counted : b.validCount = b.slots.countP Slot.valid
  placed : ∀ i s, b.slots[i]? = some s → s.valid →
    b.slotIndex s.sequence = i ∧ offset b.nextSequence s.sequence < b.slotCount
  filled : ∀ s ∈ b.slots, s.valid → s.bytes ≠ 0 ∧ s.bytes ≤ b.frameCapacity
  small : b.slotCount ≤ maxSlots
  started : b.buffering = false → b.nextSequenceValid
  unanchored : b.nextSequenceValid = false → ∀ s ∈ b.slots, s.valid = false

theorem slotIndex_lt (h : b.slotCount ≠ 0) (q : UInt16) : b.slotIndex q < b.slots.length :=
  Nat.mod_lt _ (Nat.pos_of_ne_zero h)

theorem getElem?_slotIndex (h : b.slotCount ≠ 0) (q : UInt16) :
    b.slots[b.slotIndex q]? = some (b.slotFor q) := by
  rw [slotFor, List.getD_eq_getElem?_getD, List.getElem?_eq_getElem (slotIndex_lt h q)]
  rfl

theorem slotFor_mem (h : b.slotCount ≠ 0) (q : UInt16) : b.slotFor q ∈ b.slots :=
  List.mem_of_getElem? (getElem?_slotIndex h q)

theorem getElem?_setSlot (h : b.slotCount ≠ 0) (q : UInt16) (new : Slot) (i : Nat) :
    (b.setSlot q new).slots[i]? = if b.slotIndex q = i then some new else b.slots[i]? := by
  unfold setSlot
  rw [List.getElem?_set, if_pos (slotIndex_lt h q)]

@[simp] theorem slotCount_setSlot (new : Slot) : (b.setSlot q new).slotCount = b.slotCount :=
  List.length_set

theorem countP_setSlot (h : b.slotCount ≠ 0) (new : Slot) :
    (b.setSlot q new).slots.countP Slot.valid + (if (b.slotFor q).valid then 1 else 0) =
      b.slots.countP Slot.valid + (if new.valid then 1 else 0) := by
  have hperm := (SlotTable.held_set Slot.content (getElem?_slotIndex h q) new).length_eq
  have hlen (s : Slot) : s.content.toList.length = if s.valid then 1 else 0 := by
    unfold Slot.content
    cases s.valid <;> rfl
  simp only [List.length_append, hlen] at hperm
  have hset := length_queued (b.setSlot q new)
  have hold := length_queued b
  unfold queued setSlot at *
  simp only at *
  omega

/-- A slot that is valid holds the frame of its own number. -/
theorem holds_of_valid (h : b.Sound) {i : Nat} {s : Slot} (hs : b.slots[i]? = some s)
    (hv : s.valid) : b.holds s.sequence := by
  have hi := (h.placed i s hs hv).1
  have hslot : b.slotFor s.sequence = s := by
    rw [slotFor, List.getD_eq_getElem?_getD, hi, hs]
    rfl
  simp [holds, hslot, hv]

theorem holds_iff : b.holds q ↔ (b.slotFor q).valid ∧ (b.slotFor q).sequence = q := by
  simp [holds]

/-! ## The window -/

theorem outside_eq_false {n : Nat} (hn : n ≤ maxSlots) {next : UInt16} {s : Slot} :
    outside n next s = false ↔ offset next s.sequence < n := by
  have hlt := offset_lt next s.sequence
  unfold outside delta
  change _ ↔ (s.sequence - next).toNat < n
  change (s.sequence - next).toNat < 65536 at hlt
  unfold maxSlots at hn
  simp only [Bool.or_eq_false_iff, decide_eq_false_iff_not]
  split <;> omega

/-- What stays of the table when the window moves. -/
theorem getElem?_keepWindowFrom {next : UInt16} {i : Nat} {s : Slot}
    (h : (keepWindowFrom next b).slots[i]? = some s) (hv : s.valid) :
    b.slots[i]? = some s ∧ outside b.slotCount next s = false := by
  simp only [keepWindowFrom, List.getElem?_map, Option.map_eq_some_iff] at h
  obtain ⟨old, hold, hs⟩ := h
  split at hs
  · rw [← hs] at hv
    cases hv
  · rename_i hkept
    subst hs
    exact ⟨hold, by simpa [hv] using hkept⟩

@[simp] theorem slotCount_keepWindowFrom (next : UInt16) :
    (keepWindowFrom next b).slotCount = b.slotCount :=
  List.length_map _

theorem countP_keepWindowFrom (next : UInt16) :
    (keepWindowFrom next b).slots.countP Slot.valid = (keepWindowFrom next b).validCount := by
  simp only [keepWindowFrom, List.countP_map]
  apply List.countP_congr
  intro s _
  simp only [Function.comp_apply]
  split <;> simp_all [Slot.clear]

/-- Wherever the window goes, what it keeps is within it. -/
theorem Sound.keepWindowFrom (h : b.Sound) (next : UInt16) (hanchored : b.nextSequenceValid) :
    (keepWindowFrom next { b with nextSequence := next }).Sound where
  counted := (countP_keepWindowFrom next).symm
  placed i s hs hv := by
    obtain ⟨hold, hkept⟩ := getElem?_keepWindowFrom hs hv
    rw [slotCount_keepWindowFrom]
    refine ⟨?_, (outside_eq_false h.small).1 hkept⟩
    have hi := (h.placed i s hold hv).1
    unfold slotIndex at hi ⊢
    rw [slotCount_keepWindowFrom]
    exact hi
  filled s hs hv := by
    obtain ⟨i, hi⟩ := List.getElem?_of_mem hs
    exact h.filled s (List.mem_of_getElem? (getElem?_keepWindowFrom hi hv).1) hv
  small := by
    rw [slotCount_keepWindowFrom]
    exact h.small
  started _ := hanchored
  unanchored hnone := by
    change b.nextSequenceValid = false at hnone
    simp [hanchored] at hnone

theorem Sound.anchor (h : b.Sound) (q : UInt16) : (b.anchor q).Sound := by
  unfold RtpJitterBuffer.anchor
  split
  · exact h
  · rename_i hnone
    simp only [Bool.not_eq_true] at hnone
    have hempty := h.unanchored hnone
    exact ⟨h.counted, fun i s hs hv => by simp [hempty s (List.mem_of_getElem? hs)] at hv,
      h.filled, h.small, fun _ => rfl, fun hno => by cases hno⟩

/-- Counters other than those of the slots are of no account. -/
theorem Sound.withCounters (h : b.Sound) (c : Counters) : { b with counters := c }.Sound :=
  ⟨h.counted, h.placed, h.filled, h.small, h.started, h.unanchored⟩

@[simp] theorem anchored_anchor (q : UInt16) : (b.anchor q).nextSequenceValid := by
  unfold RtpJitterBuffer.anchor
  split
  · assumption
  · rfl

/-- What `align` can do: refuse a late number, leave the window, or move it either way. -/
theorem align_cases (q : UInt16) (b : RtpJitterBuffer) :
    (delta q b.nextSequence < 0 ∧
      ∃ late, b.align q = (.late, { b with counters := { b.counters with late } })) ∨
    (0 ≤ delta q b.nextSequence ∧ delta q b.nextSequence < b.slotCount ∧
      b.align q = (.kept, b)) ∨
    (b.buffering = true ∧ delta q b.nextSequence < 0 ∧ -(b.slotCount : Int) < delta q
      b.nextSequence ∧
      b.align q = (.kept, RtpJitterBuffer.keepWindowFrom q { b with nextSequence := q })) ∨
    (∃ next drops, next = q - UInt16.ofNat b.keepFrames + 1 ∧
      (b.slotCount : Int) ≤ delta q b.nextSequence ∧
      b.align q = (.realigned,
        { RtpJitterBuffer.keepWindowFrom next { b with nextSequence := next } with
        counters := { (RtpJitterBuffer.keepWindowFrom next { b with nextSequence :=
          next }).counters with
          drops } })) := by
  unfold align
  dsimp only
  split
  · rename_i hback
    split
    · rename_i hmove
      exact .inr (.inr (.inl ⟨hmove.1, hback, hmove.2, rfl⟩))
    · exact .inl ⟨hback, _, rfl⟩
  · rename_i hahead
    split
    · rename_i hfar
      exact .inr (.inr (.inr ⟨_, _, rfl, hfar, rfl⟩))
    · rename_i hnear
      exact .inr (.inl ⟨by omega, by omega, rfl⟩)

theorem keepFrames_pos (b : RtpJitterBuffer) : 0 < b.keepFrames := by
  unfold keepFrames
  split <;> omega

theorem keepFrames_le (h : b.slotCount ≠ 0) : b.keepFrames ≤ b.slotCount := by
  unfold keepFrames
  split <;> omega

theorem offset_realigned (h : b.Sound) (hslots : b.slotCount ≠ 0) (q : UInt16) :
    offset (q - UInt16.ofNat b.keepFrames + 1) q = b.keepFrames - 1 := by
  have hpos := keepFrames_pos b
  have hle := keepFrames_le hslots
  have hsmall : b.slotCount ≤ 16 := h.small
  have hq := UInt16.toNat_lt q
  simp only [offset, UInt16.toNat_sub, UInt16.toNat_add, UInt16.reduceToNat, UInt16.toNat_ofNat']
  omega

/-- Unless it is refused, a number lies in the window that `align` leaves. -/
theorem Sound.align (h : b.Sound) (hslots : b.slotCount ≠ 0) (hanchored : b.nextSequenceValid)
    (q : UInt16) : (b.align q).2.Sound ∧ (b.align q).2.slotCount = b.slotCount ∧
      (b.align q).2.frameCapacity = b.frameCapacity ∧ (b.align q).2.nextSequenceValid ∧
      ((b.align q).1 ≠ .late → offset (b.align q).2.nextSequence q < b.slotCount) := by
  have hsmall : b.slotCount ≤ 16 := h.small
  obtain ⟨_, late, he⟩ | ⟨hlow, hhigh, he⟩ | ⟨_, _, _, he⟩ | ⟨next, drops, hnext, hfar, he⟩ :=
    align_cases q b
  · rw [he]
    exact ⟨h.withCounters _, rfl, rfl, hanchored, fun hno => absurd rfl hno⟩
  · rw [he]
    refine ⟨h, rfl, rfl, hanchored, fun _ => ?_⟩
    have := offset_reference hlow
    change offset b.nextSequence q < b.slotCount
    omega
  · rw [he]
    refine ⟨h.keepWindowFrom q hanchored, slotCount_keepWindowFrom q, rfl, hanchored, fun _ => ?_⟩
    change offset q q < b.slotCount
    rw [offset_self]
    omega
  · rw [he]
    refine ⟨(h.keepWindowFrom next hanchored).withCounters _, slotCount_keepWindowFrom next, rfl,
      hanchored, fun _ => ?_⟩
    have hkeep := keepFrames_le hslots
    have hpos := keepFrames_pos b
    change offset next q < b.slotCount
    rw [hnext, offset_realigned h hslots]
    omega

/-! ## Writing a slot -/

@[simp] theorem slotIndex_setSlot (new : Slot) (p : UInt16) :
    (b.setSlot q new).slotIndex p = b.slotIndex p := by
  simp [slotIndex]

theorem slotFor_setSlot (hslots : b.slotCount ≠ 0) (new : Slot) :
    (b.setSlot q new).slotFor q = new := by
  rw [slotFor, List.getD_eq_getElem?_getD, slotIndex_setSlot, getElem?_setSlot hslots, if_pos rfl]
  rfl

/-- What is valid after a slot was cleared is another slot. -/
theorem getElem?_cleared (hslots : b.slotCount ≠ 0) {i : Nat} {s : Slot}
    (h : (b.setSlot q (b.slotFor q).clear).slots[i]? = some s) (hv : s.valid) :
    b.slots[i]? = some s ∧ i ≠ b.slotIndex q := by
  rw [getElem?_setSlot hslots] at h
  split at h
  · obtain rfl := Option.some.inj h
    cases hv
  · rename_i hne
    exact ⟨h, fun hi => hne hi.symm⟩

theorem countP_cleared (hslots : b.slotCount ≠ 0) (hv : (b.slotFor q).valid) :
    (b.setSlot q (b.slotFor q).clear).slots.countP Slot.valid = b.slots.countP Slot.valid - 1 := by
  have hcount := countP_setSlot hslots (q := q) (b.slotFor q).clear
  rw [if_pos hv, if_neg (by simp [Slot.clear])] at hcount
  omega

theorem Sound.nextSequenceValid (h : b.Sound) {s : Slot} (hs : s ∈ b.slots) (hv : s.valid) :
    b.nextSequenceValid := by
  cases hnone : b.nextSequenceValid with
  | true => rfl
  | false =>
    have := h.unanchored hnone s hs
    rw [hv] at this
    cases this

/-- Clearing a valid slot leaves one frame less. -/
theorem Sound.cleared (h : b.Sound) (hslots : b.slotCount ≠ 0) (hv : (b.slotFor q).valid) :
    { b.setSlot q (b.slotFor q).clear with validCount := b.validCount - 1 }.Sound := by
  refine ⟨?_, fun i s hs hvalid => ?_, fun s hs hvalid => ?_, ?_, h.started, fun hno => ?_⟩
  · show b.validCount - 1 = _
    rw [h.counted]
    exact (countP_cleared hslots hv).symm
  · obtain ⟨hi, hwindow⟩ := h.placed i s (getElem?_cleared hslots hs hvalid).1 hvalid
    exact ⟨(slotIndex_setSlot _ _).trans hi, (slotCount_setSlot _).symm ▸ hwindow⟩
  · obtain ⟨i, hi⟩ := List.getElem?_of_mem hs
    exact h.filled s (List.mem_of_getElem? (getElem?_cleared hslots hi hvalid).1) hvalid
  · exact (slotCount_setSlot _).symm ▸ h.small
  · have hanchored := h.nextSequenceValid (slotFor_mem hslots q) hv
    exact absurd (hanchored.symm.trans hno) (by decide)

theorem Sound.evict (h : b.Sound) (hslots : b.slotCount ≠ 0) (q : UInt16) :
    (b.evict q).Sound ∧ ((b.evict q).slotFor q).valid = false := by
  unfold RtpJitterBuffer.evict
  split
  · rename_i hv
    exact ⟨(h.cleared hslots hv).withCounters _, congrArg Slot.valid (slotFor_setSlot hslots _)⟩
  · rename_i hv
    exact ⟨h, by simpa using hv⟩

/-- A frame within the window goes into an empty slot. -/
theorem Sound.store (h : b.Sound) (hslots : b.slotCount ≠ 0) (hanchored : b.nextSequenceValid)
    (hempty : (b.slotFor q).valid = false) (hq : offset b.nextSequence q < b.slotCount)
    (frame : Frame) {pcm : List UInt8} (hpcm : pcm.length ≠ 0 ∧ pcm.length ≤ b.frameCapacity) :
    (b.store frame pcm q).Sound := by
  unfold RtpJitterBuffer.store
  dsimp only
  generalize hnew : (b.slotFor q).fill frame pcm q = new
  have hslot (i : Nat) (s : Slot) (hs : (b.setSlot q new).slots[i]? = some s) :
      (s = new ∧ i = b.slotIndex q) ∨ b.slots[i]? = some s := by
    rw [getElem?_setSlot hslots] at hs
    split at hs
    · rename_i hi
      exact .inl ⟨(Option.some.inj hs).symm, hi.symm⟩
    · exact .inr hs
  refine ⟨?_, fun i s hs hv => ?_, fun s hs hv => ?_, ?_, h.started, fun hno => ?_⟩
  · have hcount := countP_setSlot hslots (q := q) new
    rw [if_neg (by simp [hempty]), if_pos (by rw [← hnew]; rfl)] at hcount
    show b.validCount + 1 = _
    rw [h.counted]
    exact hcount.symm
  · show (b.setSlot q new).slotIndex s.sequence = i ∧
      offset b.nextSequence s.sequence < (b.setSlot q new).slotCount
    rw [slotIndex_setSlot, slotCount_setSlot]
    obtain ⟨rfl, rfl⟩ | hold := hslot i s hs
    · rw [← hnew]
      exact ⟨rfl, hq⟩
    · exact h.placed i s hold hv
  · obtain ⟨i, hi⟩ := List.getElem?_of_mem hs
    obtain ⟨rfl, _⟩ | hold := hslot i s hi
    · rw [← hnew]
      exact hpcm
    · exact h.filled s (List.mem_of_getElem? hold) hv
  · exact (slotCount_setSlot _).symm ▸ h.small
  · exact absurd (hanchored.symm.trans hno) (by decide)

/-! ## Resuming -/

/-- The loop finds the first number that is held. -/
theorem firstHeld_spec (h : b.Sound) (hq : b.holds q)
    (hwindow : offset b.nextSequence q < b.slotCount) :
    b.holds b.firstHeld ∧ ∀ p, b.holds p → offset b.nextSequence p < b.slotCount →
      offset b.nextSequence b.firstHeld ≤ offset b.nextSequence p := by
  have hsmall : b.slotCount ≤ 16 := h.small
  unfold firstHeld
  cases hfind : (List.range b.slotCount).find? fun offset =>
      b.holds (b.nextSequence + UInt16.ofNat offset) with
  | none =>
    rw [List.find?_eq_none] at hfind
    have hnot := hfind _ (List.mem_range.2 hwindow)
    rw [add_offset] at hnot
    exact absurd hq hnot
  | some i =>
    rw [List.find?_range_eq_some] at hfind
    obtain ⟨hheld, hi, hfirst⟩ := hfind
    refine ⟨hheld, fun p hp hlt => ?_⟩
    rw [Option.elim_some, offset_add (by have := List.mem_range.1 hi; omega)]
    refine Nat.le_of_not_lt fun hbefore => ?_
    have hnot := hfirst _ hbefore
    rw [add_offset, hp] at hnot
    cases hnot

theorem Sound.resume (h : b.Sound) (hanchored : b.nextSequenceValid) (hq : b.holds q)
    (hwindow : offset b.nextSequence q < b.slotCount) (alignment : Alignment) :
    (b.resume alignment).Sound := by
  have hsmall : b.slotCount ≤ 16 := h.small
  unfold RtpJitterBuffer.resume
  split
  · obtain ⟨hheld, hfirst⟩ := firstHeld_spec h hq hwindow
    refine ⟨h.counted, fun i s hs hv => ?_, h.filled, h.small, fun _ => hanchored, h.unanchored⟩
    obtain ⟨hi, hlt⟩ := h.placed i s hs hv
    refine ⟨hi, ?_⟩
    have hle := hfirst s.sequence (holds_of_valid h hs hv) hlt
    have hsplit : offset b.nextSequence b.firstHeld + offset b.firstHeld s.sequence =
        offset b.nextSequence s.sequence := offset_split hle
    show offset b.firstHeld s.sequence < b.slotCount
    omega
  · split
    · exact ⟨h.counted, h.placed, h.filled, h.small, fun _ => hanchored, h.unanchored⟩
    · exact h

/-! ## Reading -/

/-- A number that no slot holds is passed. -/
theorem Sound.advance (h : b.Sound) (hnone : b.holds b.nextSequence = false) :
    { b with nextSequence := b.nextSequence + 1 }.Sound := by
  refine ⟨h.counted, fun i s hs hv => ?_, h.filled, h.small, h.started, h.unanchored⟩
  obtain ⟨hi, hwindow⟩ := h.placed i s hs hv
  have hheld := holds_of_valid h hs hv
  have hne : offset b.nextSequence s.sequence ≠ 0 := by
    intro hzero
    rw [eq_of_offset_eq_zero hzero, hnone] at hheld
    cases hheld
  have hstep := offset_succ_base hne
  refine ⟨hi, ?_⟩
  show offset (b.nextSequence + 1) s.sequence < b.slotCount
  omega

theorem Sound.consume (h : b.Sound) (hslots : b.slotCount ≠ 0) (hheld : b.holds b.nextSequence) :
    b.consume.Sound := by
  refine (h.cleared hslots (holds_iff.1 hheld).1).advance ?_
  have hcleared : (b.setSlot b.nextSequence (b.slotFor b.nextSequence).clear).holds b.nextSequence =
      false := by
    rw [holds, slotFor_setSlot hslots]
    rfl
  exact hcleared

theorem Sound.play (h : b.Sound) (hready : b.ready) : { b with buffering := false }.Sound :=
  ⟨h.counted, h.placed, h.filled, h.small, fun _ => (Bool.and_eq_true_iff.1 hready).1, h.unanchored⟩

theorem Sound.readDue (h : b.Sound) (hslots : b.slotCount ≠ 0) (r : Request) :
    (b.readDue r).2.Sound := by
  unfold RtpJitterBuffer.readDue
  split
  · rename_i hheld
    dsimp only
    split
    · exact (h.consume hslots hheld).withCounters _
    · exact h.consume hslots hheld
  · rename_i hnone
    split
    · exact h
    · exact (h.advance (by simpa using hnone)).withCounters _

theorem Sound.read (h : b.Sound) (r : Request) : (b.read r).2.Sound := by
  unfold RtpJitterBuffer.read
  split
  · exact h
  · rename_i hvalid
    split
    · rename_i hready
      exact (h.play hready).readDue (fun hzero => hvalid (.inl hzero)) r
    · exact h

theorem slotCount_anchor (q : UInt16) : (b.anchor q).slotCount = b.slotCount := by
  unfold RtpJitterBuffer.anchor
  split <;> rfl

theorem frameCapacity_anchor (q : UInt16) : (b.anchor q).frameCapacity = b.frameCapacity := by
  unfold RtpJitterBuffer.anchor
  split <;> rfl

/-- What `push` can do with a frame that passes its first check: refuse it, or write it where the
    window allows. -/
theorem push_cases (frame : Frame) (b : RtpJitterBuffer) :
    ((∀ pcm, frame.pcm = some pcm →
        b.slotCount = 0 ∨ pcm.length = 0 ∨ b.frameCapacity < pcm.length) ∧
      b.push frame = (false, b)) ∨
    ∃ pcm alignment c, frame.pcm = some pcm ∧ b.slotCount ≠ 0 ∧ pcm.length ≠ 0 ∧
      pcm.length ≤ b.frameCapacity ∧
      (b.anchor (b.sequenceFor frame)).align (b.sequenceFor frame) = (alignment, c) ∧
      ((alignment = .late ∧ b.push frame = (false, c)) ∨
        (alignment ≠ .late ∧ b.push frame = c.insert frame pcm (b.sequenceFor frame)
          alignment)) := by
  unfold push
  split
  · rename_i hnone
    exact .inl ⟨fun pcm hpcm => (Option.some_ne_none pcm (hpcm.symm.trans hnone)).elim, rfl⟩
  · rename_i pcm hpcm
    split
    · rename_i hunfit
      refine .inl ⟨fun pcm' hpcm' => ?_, rfl⟩
      obtain rfl := Option.some.inj (hpcm.symm.trans hpcm')
      exact hunfit
    · rename_i hvalid
      simp only [not_or] at hvalid
      dsimp only
      rcases halign : (b.anchor (b.sequenceFor frame)).align (b.sequenceFor frame) with
        ⟨alignment, c⟩
      refine .inr ⟨pcm, alignment, c, hpcm, hvalid.1, hvalid.2.1, by omega, rfl, ?_⟩
      cases alignment with
      | late => exact .inl ⟨rfl, rfl⟩
      | kept => exact .inr ⟨by decide, rfl⟩
      | realigned => exact .inr ⟨by decide, rfl⟩

theorem evict_frame (b : RtpJitterBuffer) (q : UInt16) : (b.evict q).slotCount = b.slotCount ∧
    (b.evict q).frameCapacity = b.frameCapacity ∧
    (b.evict q).nextSequence = b.nextSequence ∧
    (b.evict q).nextSequenceValid = b.nextSequenceValid := by
  unfold RtpJitterBuffer.evict
  split
  · exact ⟨slotCount_setSlot _, rfl, rfl, rfl⟩
  · exact ⟨rfl, rfl, rfl, rfl⟩

theorem holds_store (hslots : b.slotCount ≠ 0) (frame : Frame) (pcm : List UInt8) (q : UInt16) :
    (b.store frame pcm q).holds q := by
  have hself : (b.store frame pcm q).slotFor q = (b.slotFor q).fill frame pcm q :=
    slotFor_setSlot hslots _
  exact holds_iff.2 (by rw [hself]; exact ⟨rfl, rfl⟩)

theorem resume_frame (b : RtpJitterBuffer) (alignment : Alignment) :
    (b.resume alignment).slots = b.slots ∧ (b.resume alignment).frameCapacity = b.frameCapacity ∧
      (b.resume alignment).nextSequenceValid = b.nextSequenceValid := by
  unfold RtpJitterBuffer.resume
  split
  · exact ⟨rfl, rfl, rfl⟩
  · split <;> exact ⟨rfl, rfl, rfl⟩

/-- A frame is accepted where its number is not yet held, and then it is. -/
theorem insert_spec (hslots : b.slotCount ≠ 0) (frame : Frame) (pcm : List UInt8) (q : UInt16)
    (alignment : Alignment) :
    (b.insert frame pcm q alignment).2.slotCount = b.slotCount ∧
      (b.insert frame pcm q alignment).2.frameCapacity = b.frameCapacity ∧
      (b.insert frame pcm q alignment).2.nextSequenceValid = b.nextSequenceValid ∧
      (b.insert frame pcm q alignment).1 = !b.holds q ∧
      (b.insert frame pcm q alignment).2.holds q := by
  unfold RtpJitterBuffer.insert
  split
  · rename_i hheld
    exact ⟨rfl, rfl, rfl, by simp [hheld], hheld⟩
  · rename_i hnone
    obtain ⟨hcount, hcapacity, _, hvalid⟩ := evict_frame b q
    obtain ⟨hslots', hcapacity', hvalid'⟩ :=
      resume_frame ((b.evict q).store frame pcm q) alignment
    have hheld := holds_store (b := b.evict q) (by rw [hcount]; exact hslots) frame pcm q
    refine ⟨?_, hcapacity'.trans hcapacity, hvalid'.trans hvalid, by simp [hnone], ?_⟩
    · exact (congrArg List.length hslots').trans ((slotCount_setSlot _).trans hcount)
    · simp only [holds, slotFor, slotIndex, slotCount, hslots'] at hheld ⊢
      exact hheld

theorem Sound.insert (h : b.Sound) (hslots : b.slotCount ≠ 0) (hanchored : b.nextSequenceValid)
    (hq : offset b.nextSequence q < b.slotCount) {frame : Frame} {pcm : List UInt8}
    (hpcm : pcm.length ≠ 0 ∧ pcm.length ≤ b.frameCapacity) (alignment : Alignment) :
    (b.insert frame pcm q alignment).2.Sound := by
  unfold RtpJitterBuffer.insert
  split
  · exact h.withCounters _
  · obtain ⟨hevicted, hempty⟩ := h.evict hslots q
    obtain ⟨hcount, hcapacity, hnext, hvalid⟩ := evict_frame b q
    rw [← hcount] at hslots
    rw [← hcount, ← hnext] at hq
    rw [← hcapacity] at hpcm
    rw [← hvalid] at hanchored
    have hstored := hevicted.store hslots hanchored hempty hq frame hpcm
    refine hstored.resume hanchored (holds_store hslots frame pcm q) ?_ alignment
    show offset (b.evict q).nextSequence q < ((b.evict q).setSlot q _).slotCount
    rw [slotCount_setSlot]
    exact hq

theorem Sound.push (h : b.Sound) (frame : Frame) : (b.push frame).2.Sound := by
  obtain ⟨_, he⟩ | ⟨pcm, alignment, c, _, hslots, hbytes, hfits, halign, hrest⟩ :=
    push_cases frame b
  · rw [he]
    exact h
  · have hslots' : (b.anchor (b.sequenceFor frame)).slotCount ≠ 0 := by
      rw [slotCount_anchor]
      exact hslots
    obtain ⟨hsound, hcount, hcapacity, hanchored, hwindow⟩ :=
      (h.anchor (b.sequenceFor frame)).align hslots' (anchored_anchor _) (b.sequenceFor frame)
    rw [halign] at hsound hcount hcapacity hanchored hwindow
    obtain ⟨_, he⟩ | ⟨hne, he⟩ := hrest
    · rw [he]
      exact hsound
    · rw [he]
      have hwindow' := hwindow hne
      rw [← hcount] at hslots' hwindow'
      rw [frameCapacity_anchor] at hcapacity
      exact hsound.insert hslots' hanchored hwindow' ⟨hbytes, hcapacity ▸ hfits⟩ alignment

end RtpJitterBuffer

end EsphomeVoip
