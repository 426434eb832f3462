import EsphomeVoip.Rtp.Account

/-! # The order of playout

Between two resets, frames are delivered by rising sequence numbers as long as no push takes the
anchor back behind a frame that was delivered.  While the buffer fills for the first time nothing
was delivered; but a realignment lets it fill again, and then the anchor moves back once more. -/

namespace EsphomeVoip

open SerialNumber

namespace RtpJitterBuffer

variable {b c : RtpJitterBuffer} {base q : UInt16}

/-- A push that goes on to the sequence number: there are slots, and the frame fits into one. -/
def admits (frame : Frame) (b : RtpJitterBuffer) : Prop :=
  b.slotCount ≠ 0 ∧ ∃ pcm ∈ frame.pcm, pcm.length ≠ 0 ∧ pcm.length ≤ b.frameCapacity

instance (frame : Frame) (b : RtpJitterBuffer) : Decidable (b.admits frame) :=
  inferInstanceAs (Decidable (_ ∧ _))

/-- A push that takes the anchor back: the buffer is filling, and the number lies before the anchor
    by less than the window. -/
def takesBack (frame : Frame) (b : RtpJitterBuffer) : Prop :=
  b.admits frame ∧ b.nextSequenceValid ∧ b.buffering ∧
    delta (b.sequenceFor frame) b.nextSequence < 0 ∧
    -(b.slotCount : Int) < delta (b.sequenceFor frame) b.nextSequence

instance (frame : Frame) (b : RtpJitterBuffer) : Decidable (b.takesBack frame) :=
  inferInstanceAs (Decidable (_ ∧ _ ∧ _ ∧ _ ∧ _))

/-- Where a call takes the anchor back, it stays after every frame delivered since the reset. -/
def Call.steady : Call → Session → Prop
  | .push frame, s => s.buffer.takesBack frame →
      ∀ p ∈ s.delivered, 0 < delta (s.buffer.sequenceFor frame) p.sequence
  | _, _ => True

/-- The numbers lie within a span of less than half a turn from `base` on. -/
def Spanned (base : UInt16) (numbers : List UInt16) : Prop :=
  ∀ number ∈ numbers, offset base number < 32768

instance (base : UInt16) (numbers : List UInt16) : Decidable (Spanned base numbers) :=
  List.decidableBAll _ numbers

instance (call : Call) (s : Session) : Decidable (call.steady s) := by
  cases call with
  | push frame =>
    exact inferInstanceAs (Decidable (s.buffer.takesBack frame → ∀ p ∈ s.delivered, _))
  | reset => exact .isTrue trivial
  | read request => exact .isTrue trivial

/-- The window and the frames waiting lie in the span from `base` on, and what was delivered lies
    before the window. -/
structure Spans (base : UInt16) (delivered : List Played) (b : RtpJitterBuffer) : Prop where
  anchored : b.nextSequenceValid → offset base b.nextSequence ≤ 32768
  waiting : ∀ slot ∈ b.slots, slot.valid → offset base slot.sequence < 32768
  before : ∀ p ∈ delivered, b.nextSequenceValid ∧
    offset base p.sequence < offset base b.nextSequence

variable {delivered : List Played}

/-! ## Pushing -/

/-- The first number pushed is its own anchor, so only a buffer with an anchor takes it back. -/
theorem takesBack_of_anchor {frame : Frame} (hadmits : b.admits frame)
    (hbuffering : (b.anchor (b.sequenceFor frame)).buffering)
    (hback : delta (b.sequenceFor frame) (b.anchor (b.sequenceFor frame)).nextSequence < 0)
    (hnear : -((b.anchor (b.sequenceFor frame)).slotCount : Int) <
      delta (b.sequenceFor frame) (b.anchor (b.sequenceFor frame)).nextSequence) :
    b.takesBack frame := by
  unfold RtpJitterBuffer.anchor at hbuffering hback hnear
  split at hback
  · rename_i hanchored
    rw [if_pos hanchored] at hbuffering hnear
    exact ⟨hadmits, hanchored, hbuffering, hback, hnear⟩
  · simp [delta] at hback

theorem Spans.anchor (h : Spans base delivered b) (hq : offset base q < 32768) :
    Spans base delivered (b.anchor q) := by
  unfold RtpJitterBuffer.anchor
  split
  · exact h
  · rename_i hnone
    exact ⟨fun _ => Nat.le_of_lt hq, h.waiting, fun p hp => absurd (h.before p hp).1 hnone⟩

/-- Moving the window keeps the span, where the new anchor lies in it and after what was
    delivered. -/
theorem Spans.keepWindowFrom (h : Spans base delivered b) (hanchored : b.nextSequenceValid)
    {next : UInt16} (hnext : offset base next ≤ 32768)
    (hbefore : ∀ p ∈ delivered, offset base p.sequence < offset base next) :
    Spans base delivered
      (RtpJitterBuffer.keepWindowFrom next { b with nextSequence := next }) := by
  refine ⟨fun _ => hnext, fun slot hslot hv => ?_, fun p hp => ⟨hanchored, hbefore p hp⟩⟩
  obtain ⟨i, hi⟩ := List.getElem?_of_mem hslot
  exact h.waiting slot (List.mem_of_getElem? (getElem?_keepWindowFrom hi hv).1) hv

theorem Spans.withCounters (h : Spans base delivered b) (counters : Counters) :
    Spans base delivered { b with counters } :=
  ⟨h.anchored, h.waiting, h.before⟩

theorem Spans.align (h : Spans base delivered b) (hsound : b.Sound) (hslots : b.slotCount ≠ 0)
    (hanchored : b.nextSequenceValid) (hq : offset base q < 32768)
    (hsteady : b.buffering → delta q b.nextSequence < 0 →
      -(b.slotCount : Int) < delta q b.nextSequence →
        ∀ p ∈ delivered, offset base p.sequence < offset base q) :
    Spans base delivered (b.align q).2 := by
  have hnext := h.anchored hanchored
  obtain ⟨_, late, he⟩ | ⟨_, _, he⟩ | ⟨hbuffering, hback, hnear, he⟩ | ⟨next, drops, hmoved,
    hfar, he⟩ :=
    align_cases q b
  · rw [he]
    exact h.withCounters _
  · rw [he]
    exact h
  · rw [he]
    exact h.keepWindowFrom hanchored (Nat.le_of_lt hq) (hsteady hbuffering hback hnear)
  · -- the new window starts after the old anchor
    have hdistance : delta q b.nextSequence = (offset base q : Int) - offset base b.nextSequence :=
      delta_eq_sub (by omega) (by omega)
    have hpos := keepFrames_pos b
    have hle := keepFrames_le hslots
    have hsmall : b.slotCount ≤ 16 := hsound.small
    have hstart : offset base next + b.keepFrames = offset base q + 1 := by
      rw [hmoved]
      exact offset_window hpos (by omega) (by omega)
    rw [he]
    refine (h.keepWindowFrom hanchored (by omega) fun p hp => ?_).withCounters _
    have hp := (h.before p hp).2
    omega

theorem Spans.evict (h : Spans base delivered b) (hslots : b.slotCount ≠ 0) :
    Spans base delivered (b.evict q) := by
  unfold RtpJitterBuffer.evict
  split
  · refine ⟨h.anchored, fun slot hslot hv => ?_, h.before⟩
    obtain ⟨i, hi⟩ := List.getElem?_of_mem hslot
    exact h.waiting slot (List.mem_of_getElem? (getElem?_cleared hslots hi hv).1) hv
  · exact h

theorem Spans.store (h : Spans base delivered b) (hq : offset base q < 32768) (frame : Frame)
    (pcm : List UInt8) : Spans base delivered (b.store frame pcm q) := by
  refine ⟨h.anchored, fun slot hslot hv => ?_, h.before⟩
  obtain hold | rfl := List.mem_or_eq_of_mem_set hslot
  · exact h.waiting slot hold hv
  · exact hq

/-- The anchor goes on to a frame that waits. -/
theorem Spans.resume (h : Spans base delivered b) (hsound : b.Sound)
    (hanchored : b.nextSequenceValid)
    (hslots : b.slotCount ≠ 0) (hheld : b.holds q) (alignment : Alignment) :
    Spans base delivered (b.resume alignment) := by
  have hsmall : b.slotCount ≤ 16 := hsound.small
  unfold RtpJitterBuffer.resume
  split
  · have hwindow := (hsound.placed _ _ (getElem?_slotIndex hslots q) (holds_iff.1 hheld).1).2
    rw [(holds_iff.1 hheld).2] at hwindow
    obtain ⟨hfirst, hleast⟩ := firstHeld_spec hsound hheld hwindow
    have hle := hleast q hheld hwindow
    have hnext := h.anchored hanchored
    have hvalid := h.waiting _ (slotFor_mem hslots b.firstHeld) (holds_iff.1 hfirst).1
    rw [(holds_iff.1 hfirst).2] at hvalid
    have hon : offset base b.firstHeld = offset base b.nextSequence +
        offset b.nextSequence b.firstHeld := offset_trans (by omega)
    refine ⟨fun _ => Nat.le_of_lt hvalid, h.waiting, fun p hp => ⟨hanchored, ?_⟩⟩
    have hp := (h.before p hp).2
    show offset base p.sequence < offset base b.firstHeld
    omega
  · split
    · exact ⟨h.anchored, h.waiting, h.before⟩
    · exact h

theorem Spans.insert (h : Spans base delivered b) (hsound : b.Sound) (hslots : b.slotCount ≠ 0)
    (hanchored : b.nextSequenceValid) (hwindow : offset b.nextSequence q < b.slotCount)
    (hq : offset base q < 32768) (frame : Frame) {pcm : List UInt8}
    (hpcm : pcm.length ≠ 0 ∧ pcm.length ≤ b.frameCapacity) (alignment : Alignment) :
    Spans base delivered (b.insert frame pcm q alignment).2 := by
  unfold RtpJitterBuffer.insert
  split
  · exact h.withCounters _
  · obtain ⟨hevicted, hempty⟩ := hsound.evict hslots q
    obtain ⟨hcount, hcapacity, hnext, hvalid⟩ := evict_frame b q
    have hslots' : (b.evict q).slotCount ≠ 0 := by rw [hcount]; exact hslots
    rw [← hcount, ← hnext] at hwindow
    rw [← hcapacity] at hpcm
    rw [← hvalid] at hanchored
    have hstored := hevicted.store hslots' hanchored hempty hwindow frame hpcm
    refine ((h.evict hslots).store hq frame pcm).resume hstored hanchored ?_
      (holds_store hslots' frame pcm q) alignment
    exact (slotCount_setSlot _).symm ▸ hslots'

/-- A push keeps the span, unless it takes the anchor back behind a delivered frame. -/
theorem Spans.push (h : Spans base delivered b) (hsound : b.Sound) (frame : Frame)
    (hq : offset base (b.sequenceFor frame) < 32768)
    (hsteady : b.takesBack frame →
      ∀ p ∈ delivered, offset base p.sequence < offset base (b.sequenceFor frame)) :
    Spans base delivered (b.push frame).2 := by
  obtain ⟨_, he⟩ | ⟨pcm, alignment, c, hpcm, hslots, hbytes, hfits, halign, hrest⟩ :=
    push_cases frame b
  · rw [he]
    exact h
  have hadmits : b.admits frame := ⟨hslots, pcm, hpcm, hbytes, hfits⟩
  have hslots' : (b.anchor (b.sequenceFor frame)).slotCount ≠ 0 := by
    rw [slotCount_anchor]
    exact hslots
  have hspans := (h.anchor hq).align (hsound.anchor _) hslots' (anchored_anchor _) hq
    (fun hbuffering hback hnear => hsteady (takesBack_of_anchor hadmits hbuffering hback hnear))
  obtain ⟨hsound', hcount, hcapacity, hanchored, hwindow⟩ :=
    (hsound.anchor (b.sequenceFor frame)).align hslots' (anchored_anchor _) (b.sequenceFor frame)
  rw [halign] at hspans hsound' hcount hcapacity hanchored hwindow
  obtain ⟨_, he⟩ | ⟨hne, he⟩ := hrest
  · rw [he]
    exact hspans
  · rw [he]
    have hwindow' := hwindow hne
    rw [← hcount] at hslots' hwindow'
    rw [frameCapacity_anchor] at hcapacity
    exact hspans.insert hsound' hslots' hanchored hwindow' hq frame
      ⟨hbytes, hcapacity ▸ hfits⟩ alignment

/-! ## Reading -/

/-- The frame that is due is delivered after all others, and the anchor passes it. -/
theorem Spans.consume (h : Spans base delivered b) (hslots : b.slotCount ≠ 0)
    (hanchored : b.nextSequenceValid) (hheld : b.holds b.nextSequence) :
    Spans base (delivered ++ [(b.slotFor b.nextSequence).played]) b.consume ∧
      offset base (b.slotFor b.nextSequence).sequence = offset base b.nextSequence := by
  obtain ⟨hv, hdue⟩ := holds_iff.1 hheld
  have hspan := h.waiting _ (slotFor_mem hslots b.nextSequence) hv
  rw [hdue] at hspan
  have hnext : offset base (b.nextSequence + 1) = offset base b.nextSequence + 1 :=
    offset_succ (by omega)
  refine ⟨⟨fun _ => ?_, fun slot hslot hvalid => ?_, fun p hp => ⟨hanchored, ?_⟩⟩, by rw [hdue]⟩
  · show offset base (b.nextSequence + 1) ≤ 32768
    omega
  · obtain ⟨i, hi⟩ := List.getElem?_of_mem hslot
    exact h.waiting slot (List.mem_of_getElem? (getElem?_cleared hslots hi hvalid).1) hvalid
  · show offset base p.sequence < offset base (b.nextSequence + 1)
    obtain hold | hnew := List.mem_append.1 hp
    · have := (h.before p hold).2
      omega
    · rw [List.mem_singleton.1 hnew]
      show offset base (b.slotFor b.nextSequence).sequence < _
      rw [hdue]
      omega

/-- A read keeps the span, and what it delivers comes after all that was delivered. -/
theorem Spans.readDue (h : Spans base delivered b) (hsound : b.Sound) (hslots : b.slotCount ≠ 0)
    (hanchored : b.nextSequenceValid) (r : Request) :
    Spans base (delivered ++ (b.readDue r).1.delivered) (b.readDue r).2 ∧
      ∀ p ∈ (b.readDue r).1.delivered, offset base p.sequence = offset base b.nextSequence := by
  unfold RtpJitterBuffer.readDue
  split
  · rename_i hheld
    obtain ⟨hspans, hdue⟩ := h.consume hslots hanchored hheld
    dsimp only
    split
    · refine ⟨?_, fun p hp => absurd hp List.not_mem_nil⟩
      show Spans base (delivered ++ []) _
      rw [List.append_nil]
      exact ⟨hspans.anchored, hspans.waiting, fun p hp =>
        hspans.before p (List.mem_append_left _ hp)⟩
    · refine ⟨hspans, fun p hp => ?_⟩
      rw [List.mem_singleton.1 hp]
      exact hdue
  · rename_i hnone
    split
    · exact ⟨(List.append_nil delivered).symm ▸ h, fun p hp => absurd hp List.not_mem_nil⟩
    · rename_i hwaiting
      refine ⟨?_, fun p hp => absurd hp List.not_mem_nil⟩
      show Spans base (delivered ++ []) _
      rw [List.append_nil]
      -- a frame waits further on, so the anchor is not yet at the end of the span
      have hsome : 0 < b.slots.countP Slot.valid := by
        have := hsound.counted
        omega
      obtain ⟨slot, hslot, hv⟩ := List.countP_pos_iff.1 hsome
      obtain ⟨i, hi⟩ := List.getElem?_of_mem hslot
      have hwindow := (hsound.placed i slot hi hv).2
      have hsmall : b.slotCount ≤ 16 := hsound.small
      have hspan := h.waiting slot hslot hv
      have hnext := h.anchored hanchored
      have hon : offset base slot.sequence = offset base b.nextSequence +
          offset b.nextSequence slot.sequence := offset_trans (by omega)
      have hstep : offset base (b.nextSequence + 1) = offset base b.nextSequence + 1 :=
        offset_succ (by omega)
      refine ⟨fun _ => ?_, h.waiting, fun p hp => ⟨hanchored, ?_⟩⟩
      · show offset base (b.nextSequence + 1) ≤ 32768
        omega
      · have hp := (h.before p hp).2
        show offset base p.sequence < offset base (b.nextSequence + 1)
        omega

theorem Spans.read (h : Spans base delivered b) (hsound : b.Sound) (r : Request) :
    Spans base (delivered ++ (b.read r).1.delivered) (b.read r).2 ∧
      ∀ p ∈ (b.read r).1.delivered, offset base p.sequence = offset base b.nextSequence ∧
        b.nextSequenceValid := by
  have hnothing : Spans base (delivered ++ ReadResult.buffering.delivered) b := by
    show Spans base (delivered ++ []) b
    rw [List.append_nil]
    exact h
  unfold RtpJitterBuffer.read
  split
  · exact ⟨hnothing, fun p hp => absurd hp List.not_mem_nil⟩
  · rename_i hvalid
    split
    · rename_i hready
      have hanchored := (Bool.and_eq_true_iff.1 hready).1
      have hplay : Spans base delivered { b with buffering := false } :=
        ⟨h.anchored, h.waiting, h.before⟩
      obtain ⟨hspans, hdue⟩ :=
        hplay.readDue (hsound.play hready) (fun hzero => hvalid (.inl hzero)) hanchored r
      exact ⟨hspans, fun p hp => ⟨hdue p hp, hanchored⟩⟩
    · exact ⟨hnothing, fun p hp => absurd hp List.not_mem_nil⟩

/-! ## Runs -/

/-- Wherever the numbers pushed since the reset lie within a span, so does the window, and what was
    delivered rises. -/
structure Session.Rising (s : Session) : Prop where
  sound : s.buffer.Sound
  spans : ∀ base, Spanned base s.pushed → Spans base s.delivered s.buffer
  rising : ∀ base, Spanned base s.pushed →
    s.delivered.Pairwise fun p p' => offset base p.sequence < offset base p'.sequence

theorem spans_of_invalid (hslots : ∀ s ∈ b.slots, s.valid = false)
    (hunanchored : b.nextSequenceValid = false) (base : UInt16) : Spans base [] b := by
  refine ⟨fun hanchored => ?_, fun slot hslot hv => ?_, fun p hp => absurd hp List.not_mem_nil⟩
  · rw [hunanchored] at hanchored
    cases hanchored
  · rw [hslots slot hslot] at hv
    cases hv

theorem Session.Rising.apply {s : Session} (h : s.Rising) (call : Call) (hsteady : call.steady s) :
    (call.apply s).Rising := by
  cases call with
  | reset =>
    have hslots (slot : Slot) (hslot : slot ∈ s.buffer.reset.slots) : slot.valid = false := by
      obtain ⟨old, _, rfl⟩ := List.mem_map.1 hslot
      rfl
    exact ⟨h.sound.reset.1, fun base _ => spans_of_invalid hslots rfl base, fun _ _ => .nil⟩
  | push frame =>
    refine ⟨h.sound.push frame, fun base hspan => ?_, fun base hspan => ?_⟩
    · have hbefore : Spanned base s.pushed := fun n hn => hspan n (List.mem_append_left _ hn)
      have hq : offset base (s.buffer.sequenceFor frame) < 32768 :=
        hspan _ (List.mem_append_right _ List.mem_cons_self)
      have hspans := h.spans base hbefore
      refine hspans.push h.sound frame hq fun hback p hp => ?_
      obtain ⟨hanchored, hp'⟩ := hspans.before p hp
      have hnext := hspans.anchored hanchored
      have hafter := hsteady hback p hp
      have hdistance : delta (s.buffer.sequenceFor frame) p.sequence =
          (offset base (s.buffer.sequenceFor frame) : Int) - offset base p.sequence :=
        delta_eq_sub (by omega) (by omega)
      omega
    · exact h.rising base fun n hn => hspan n (List.mem_append_left _ hn)
  | read request =>
    refine ⟨h.sound.read request, fun base hspan => ?_, fun base hspan => ?_⟩
    · exact ((h.spans base hspan).read h.sound request).1
    · have hspans := h.spans base hspan
      have hdue := (hspans.read h.sound request).2
      refine List.pairwise_append.2 ⟨h.rising base hspan, ?_, fun p hp p' hp' => ?_⟩
      · cases (s.buffer.read request).1 with
        | frame p => exact List.pairwise_singleton _ p
        | buffering => exact .nil
        | missing => exact .nil
      · rw [(hdue p' hp').1]
        exact (hspans.before p hp).2

theorem rising_create (frameCapacity : Nat) (slots prebuffer : UInt8) :
    ({ buffer := create frameCapacity slots prebuffer } : Session).Rising := by
  obtain ⟨hsound, hqueued, _⟩ := sound_create frameCapacity slots prebuffer
  refine ⟨hsound, fun base _ => ?_, fun _ _ => .nil⟩
  refine spans_of_invalid (fun slot hslot => ?_) ?_ base
  · have hnone := List.filterMap_eq_nil_iff.1 hqueued slot hslot
    rw [← content_isSome, hnone]
    rfl
  · unfold create
    dsimp only
    generalize (if maxSlots < slots.toNat then maxSlots else slots.toNat) = n
    split <;> rfl

/-- In every run in which no push takes the anchor back behind a delivered frame, the frames
    delivered since the last reset have rising numbers, where the numbers pushed since then lie
    within a span of less than half a turn. -/
theorem frames_are_delivered_in_order (frameCapacity : Nat) (slots prebuffer : UInt8)
    (calls : List Call)
    (hsteady : EventRun.Along Call.apply Call.steady
      { buffer := create frameCapacity slots prebuffer } calls)
    (hspan : ∃ base, Spanned base (session frameCapacity slots prebuffer calls).pushed) :
    (session frameCapacity slots prebuffer calls).delivered.Pairwise
      fun p p' => 0 < delta p'.sequence p.sequence := by
  have hrising : (session frameCapacity slots prebuffer calls).Rising :=
    EventRun.invariant _ (fun call s hok h => h.apply call hok) hsteady
      (rising_create frameCapacity slots prebuffer)
  obtain ⟨base, hspan⟩ := hspan
  have hspans := hrising.spans base hspan
  refine (hrising.rising base hspan).imp_of_mem fun {p p'} hp hp' hlt => ?_
  obtain ⟨hanchored, hbefore⟩ := hspans.before p' hp'
  have hnext := hspans.anchored hanchored
  have hdistance : delta p'.sequence p.sequence =
      (offset base p'.sequence : Int) - offset base p.sequence :=
    delta_eq_sub (by omega) (by omega)
  omega

/-- Four frames are played, a jump makes the buffer fill again, and the next frames come. -/
theorem played_after_a_jump :
    (session 4 16 4 ([6, 7, 8, 9].map (fun n => .push (numbered n)) ++
      List.replicate 4 (.read { capacity := 4 }) ++
      [24, 25, 26, 27].map (fun n => .push (numbered n)) ++
      List.replicate 4 (.read { capacity := 4 }))).delivered.Pairwise
      fun p p' => 0 < delta p'.sequence p.sequence :=
  frames_are_delivered_in_order 4 16 4 _ (by decide) ⟨0, by decide⟩

/-- Number 9 is played, a jump makes the buffer fill again, and number 9 comes a second time. -/
theorem a_frame_is_played_twice :
    ¬ ∀ (frameCapacity : Nat) (slots prebuffer : UInt8) (calls : List Call),
      (∃ base, Spanned base (session frameCapacity slots prebuffer calls).pushed) →
      (session frameCapacity slots prebuffer calls).delivered.Pairwise
        fun p p' => 0 < delta p'.sequence p.sequence := by
  intro h
  have htwice := h 4 16 4 ([6, 7, 8, 9].map (fun n => .push (numbered n)) ++
    List.replicate 4 (.read { capacity := 4 }) ++
    [24, 25, 26, 9, 10, 11].map (fun n => .push (numbered n)) ++ [.read { capacity := 4 }])
    ⟨0, by decide⟩
  exact absurd htwice (by decide)

end RtpJitterBuffer

end EsphomeVoip
