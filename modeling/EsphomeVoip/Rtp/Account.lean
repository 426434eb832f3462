import EsphomeVoip.ForStd.EventRun
import EsphomeVoip.Rtp.Window

/-! # The account of the jitter buffer

Every frame that was accepted since the last reset is delivered once, still waits, or is counted as
discarded; and while frames wait and playing has begun, a read soon delivers one. -/

namespace EsphomeVoip

open SerialNumber

namespace RtpJitterBuffer

variable {b : RtpJitterBuffer} {q : UInt16}

/-! ## The account of the frames -/

/-- The frame as the reader is to have it. -/
def Frame.played (frame : Frame) (pcm : List UInt8) (sequence : UInt16) : Played where
  pcm := pcm
  sequence := sequence
  timestamp := frame.timestamp
  hasMetadata := frame.hasMetadata
  sourceChanged := frame.sourceChanged
  formatPacked := frame.formatPacked

/-- Of what waited and what `entered`, what `left` was handed out, what still waits is there, and
    the rest is counted as discarded. -/
def Accounts (b c : RtpJitterBuffer) (entered left : List Played) : Prop :=
  ∃ lost, (b.queued ++ entered).Perm (left ++ lost ++ c.queued) ∧
    c.counters.discardedFrames = b.counters.discardedFrames + UInt32.ofNat lost.length

/-- What moves no frame. -/
theorem Accounts.of_same {c : RtpJitterBuffer} (hslots : c.slots = b.slots)
    (hcount : c.counters.discardedFrames = b.counters.discardedFrames) : Accounts b c [] [] := by
  refine ⟨[], ?_, ?_⟩
  · simp [queued, hslots]
  · simp [hcount]

/-- What only takes frames out. -/
theorem Accounts.of_perm {c : RtpJitterBuffer} (left lost : List Played)
    (hperm : b.queued.Perm (left ++ lost ++ c.queued))
    (hcount : c.counters.discardedFrames = b.counters.discardedFrames + UInt32.ofNat lost.length) :
    Accounts b c [] left :=
  ⟨lost, (List.append_nil b.queued).symm ▸ hperm, hcount⟩

theorem Accounts.trans {c d : RtpJitterBuffer} {entered left entered' left' : List Played}
    (h : Accounts b c entered left) (h' : Accounts c d entered' left') :
    Accounts b d (entered ++ entered') (left ++ left') := by
  obtain ⟨lost, hperm, hcount⟩ := h
  obtain ⟨lost', hperm', hcount'⟩ := h'
  refine ⟨lost ++ lost', ?_, ?_⟩
  · rw [List.perm_iff_count] at hperm hperm' ⊢
    intro p
    have hp := hperm p
    have hp' := hperm' p
    simp only [List.count_append] at hp hp' ⊢
    omega
  · rw [hcount', hcount, List.length_append, UInt32.ofNat_add, UInt32.add_assoc]

theorem accounts_anchor (b : RtpJitterBuffer) (q : UInt16) : Accounts b (b.anchor q) [] [] := by
  unfold RtpJitterBuffer.anchor
  split <;> exact .of_same rfl rfl

/-- Moving the window counts what it loses. -/
theorem accounts_keepWindowFrom (b : RtpJitterBuffer) (next : UInt16) :
    Accounts b (RtpJitterBuffer.keepWindowFrom next { b with nextSequence := next }) [] [] := by
  have hclear := SlotTable.held_clear Slot.content
    (fun s => s.valid && outside b.slotCount next s) Slot.clear content_clear b.slots
  refine .of_perm [] _ hclear ?_
  have hlength : (SlotTable.held Slot.content
      (b.slots.filter fun s => s.valid && outside b.slotCount next s)).length =
      b.slots.countP fun s => s.valid && outside b.slotCount next s := by
    rw [SlotTable.length_held, List.countP_filter]
    apply List.countP_congr
    intro s _
    rw [content_isSome]
    cases s.valid <;> simp
  exact congrArg (b.counters.discardedFrames + UInt32.ofNat ·) hlength.symm

theorem accounts_align (b : RtpJitterBuffer) (q : UInt16) : Accounts b (b.align q).2 [] [] := by
  obtain ⟨_, late, he⟩ | ⟨_, _, he⟩ | ⟨_, _, _, he⟩ | ⟨next, drops, _, _, he⟩ := align_cases q b
  · rw [he]
    exact .of_same rfl rfl
  · rw [he]
    exact .of_same rfl rfl
  · rw [he]
    exact accounts_keepWindowFrom b q
  · rw [he]
    exact (accounts_keepWindowFrom b next).trans (.of_same rfl rfl)

/-- Clearing a valid slot takes its frame out. -/
theorem perm_cleared (hslots : b.slotCount ≠ 0) (hv : (b.slotFor q).valid) :
    b.queued.Perm ((b.slotFor q).played :: (b.setSlot q (b.slotFor q).clear).queued) := by
  have hperm := SlotTable.held_set Slot.content (getElem?_slotIndex hslots q) (b.slotFor q).clear
  have hcontent : (b.slotFor q).content = some (b.slotFor q).played := if_pos hv
  rw [hcontent, content_clear] at hperm
  exact hperm.symm

theorem accounts_evict (hslots : b.slotCount ≠ 0) (q : UInt16) : Accounts b (b.evict q) [] [] := by
  unfold RtpJitterBuffer.evict
  split
  · rename_i hv
    exact .of_perm [] [(b.slotFor q).played] (perm_cleared hslots hv) rfl
  · exact .of_same rfl rfl

theorem played_fill (frame : Frame) (pcm : List UInt8) (q : UInt16) (s : Slot) :
    (s.fill frame pcm q).played = frame.played pcm q := by
  simp [Slot.played, Slot.fill, Frame.played, memcpy]

theorem accounts_store (hslots : b.slotCount ≠ 0) (hempty : (b.slotFor q).valid = false)
    (frame : Frame) (pcm : List UInt8) :
    Accounts b (b.store frame pcm q) [frame.played pcm q] [] := by
  have hperm := SlotTable.held_set Slot.content (getElem?_slotIndex hslots q)
    ((b.slotFor q).fill frame pcm q)
  have hold : (b.slotFor q).content = none := if_neg (by simp [hempty])
  have hnew : ((b.slotFor q).fill frame pcm q).content = some (frame.played pcm q) := by
    rw [← played_fill frame pcm q (b.slotFor q)]
    rfl
  rw [hold, hnew] at hperm
  exact ⟨[], List.perm_append_comm.trans hperm.symm, by simp [store, setSlot]⟩

theorem accounts_resume (b : RtpJitterBuffer) (alignment : Alignment) :
    Accounts b (b.resume alignment) [] [] := by
  unfold RtpJitterBuffer.resume
  split
  · exact .of_same rfl rfl
  · split <;> exact .of_same rfl rfl

theorem accounts_insert (h : b.Sound) (hslots : b.slotCount ≠ 0) (frame : Frame)
    (pcm : List UInt8) (q : UInt16) (alignment : Alignment) :
    Accounts b (b.insert frame pcm q alignment).2
      (if (b.insert frame pcm q alignment).1 then [frame.played pcm q] else []) [] := by
  unfold RtpJitterBuffer.insert
  split
  · exact .of_same rfl rfl
  · have hempty := (h.evict hslots q).2
    have hslots' : (b.evict q).slotCount ≠ 0 := by
      rw [(evict_frame b q).1]
      exact hslots
    exact ((accounts_evict hslots q).trans (accounts_store hslots' hempty frame pcm)).trans
      (accounts_resume _ alignment)

/-- What `push` accepts. -/
def accepted (frame : Frame) (b : RtpJitterBuffer) : List Played :=
  if (b.push frame).1 then [frame.played (frame.pcm.getD []) (b.sequenceFor frame)] else []

theorem accounts_push (h : b.Sound) (frame : Frame) :
    Accounts b (b.push frame).2 (b.accepted frame) [] := by
  unfold accepted
  obtain ⟨_, he⟩ | ⟨pcm, alignment, c, hpcm, hslots, _, _, halign, hrest⟩ := push_cases frame b
  · rw [he]
    exact .of_same rfl rfl
  · have hslots' : (b.anchor (b.sequenceFor frame)).slotCount ≠ 0 := by
      rw [slotCount_anchor]
      exact hslots
    have hmoved := (accounts_anchor b (b.sequenceFor frame)).trans
      (accounts_align (b.anchor (b.sequenceFor frame)) (b.sequenceFor frame))
    obtain ⟨hsound, hcount, _⟩ :=
      (h.anchor (b.sequenceFor frame)).align hslots' (anchored_anchor _) (b.sequenceFor frame)
    rw [halign] at hsound hcount hmoved
    obtain ⟨_, he⟩ | ⟨_, he⟩ := hrest
    · rw [he]
      exact hmoved
    · rw [he, hpcm]
      rw [← hcount] at hslots'
      exact hmoved.trans (accounts_insert hsound hslots' frame pcm _ alignment)

/-- What `read` hands out. -/
def ReadResult.delivered : ReadResult → List Played
  | .frame p => [p]
  | _ => []

theorem accounts_readDue (hslots : b.slotCount ≠ 0) (r : Request) :
    Accounts b (b.readDue r).2 [] (b.readDue r).1.delivered := by
  unfold RtpJitterBuffer.readDue
  split
  · rename_i hheld
    have hperm := perm_cleared hslots (holds_iff.1 hheld).1
    dsimp only
    split
    · exact .of_perm [] [(b.slotFor b.nextSequence).played] hperm rfl
    · exact .of_perm [(b.slotFor b.nextSequence).played] [] hperm
        (UInt32.add_zero _).symm
  · split <;> exact .of_same rfl rfl

theorem accounts_read (b : RtpJitterBuffer) (r : Request) :
    Accounts b (b.read r).2 [] (b.read r).1.delivered := by
  unfold RtpJitterBuffer.read
  split
  · exact .of_same rfl rfl
  · rename_i hvalid
    split
    · exact accounts_readDue (b := { b with buffering := false })
        (fun hzero => hvalid (.inl hzero)) r
    · exact .of_same rfl rfl

/-! ## Runs -/

/-- A call of the buffer's methods. -/
inductive Call where
  | reset
  | push (frame : Frame)
  | read (request : Request)
  deriving DecidableEq, Repr

/-- The buffer, and what happened since the last reset: the numbers pushed, the frames accepted and
    the frames delivered, oldest first. -/
structure Session where
  buffer : RtpJitterBuffer
  pushed : List UInt16 := []
  accepted : List Played := []
  delivered : List Played := []
  deriving DecidableEq, Repr

/-- One call. -/
def Call.apply : Call → Session → Session
  | .reset, s => { buffer := s.buffer.reset }
  | .push frame, s =>
    { s with
      buffer := (s.buffer.push frame).2
      pushed := s.pushed ++ [s.buffer.sequenceFor frame]
      accepted := s.accepted ++ s.buffer.accepted frame }
  | .read request, s =>
    { s with
      buffer := (s.buffer.read request).2
      delivered := s.delivered ++ (s.buffer.read request).1.delivered }

/-- A run of calls on a new buffer. -/
def session (frameCapacity : Nat) (slots prebuffer : UInt8) (calls : List Call) : Session :=
  EventRun.after Call.apply { buffer := create frameCapacity slots prebuffer } calls

theorem sound_of_invalid (hslots : ∀ s ∈ b.slots, s.valid = false) (hcount : b.validCount = 0)
    (hbuffering : b.buffering = true) (hsmall : b.slotCount ≤ maxSlots) : b.Sound := by
  have hno (s : Slot) (hs : s ∈ b.slots) (hv : s.valid) : False := by
    rw [hslots s hs] at hv
    cases hv
  refine ⟨?_, fun i s hs hv => (hno s (List.mem_of_getElem? hs) hv).elim,
    fun s hs hv => (hno s hs hv).elim, hsmall, fun h => ?_, fun _ => hslots⟩
  · rw [hcount, eq_comm, List.countP_eq_zero]
    exact fun s hs => by simp [hslots s hs]
  · rw [hbuffering] at h
    cases h

theorem sound_create (frameCapacity : Nat) (slots prebuffer : UInt8) :
    (create frameCapacity slots prebuffer).Sound ∧
      (create frameCapacity slots prebuffer).queued = [] ∧
      (create frameCapacity slots prebuffer).counters = {} := by
  have hcount : (if maxSlots < slots.toNat then maxSlots else slots.toNat) ≤ maxSlots := by
    split <;> omega
  unfold create
  dsimp only
  generalize (if maxSlots < slots.toNat then maxSlots else slots.toNat) = n at hcount ⊢
  split
  · refine ⟨sound_of_invalid (fun s hs => ?_) rfl rfl (by simpa [slotCount] using hcount), ?_, rfl⟩
    · rw [List.eq_of_mem_replicate hs]
    · simp [queued, SlotTable.held, Slot.content]
  · refine ⟨sound_of_invalid (fun s hs => ?_) rfl rfl (by simpa [slotCount] using hcount), ?_, rfl⟩
    · rw [List.eq_of_mem_replicate hs]
    · simp [queued, SlotTable.held, Slot.content]

theorem Sound.reset (h : b.Sound) : b.reset.Sound ∧ b.reset.queued = [] := by
  have hslots (s : Slot) (hs : s ∈ b.reset.slots) : s.valid = false := by
    obtain ⟨old, _, rfl⟩ := List.mem_map.1 hs
    rfl
  refine ⟨sound_of_invalid hslots rfl rfl ?_, ?_⟩
  · exact Nat.le_trans (Nat.le_of_eq (List.length_map Slot.clear)) h.small
  · refine List.filterMap_eq_nil_iff.2 fun s hs => ?_
    exact if_neg (by simp [hslots s hs])

/-- The buffer is sound, and every frame accepted since the reset is delivered, waiting, or counted
    as discarded. -/
structure Session.Balanced (s : Session) : Prop where
  sound : s.buffer.Sound
  account : ∃ discarded, s.accepted.Perm (s.delivered ++ discarded ++ s.buffer.queued) ∧
    s.buffer.counters.discardedFrames = UInt32.ofNat discarded.length

/-- What a step accounts for is added to the account. -/
theorem Accounts.balance {s : Session} (h : s.Balanced) {c : RtpJitterBuffer}
    {entered left : List Played} (haccounts : Accounts s.buffer c entered left) :
    ∃ discarded, (s.accepted ++ entered).Perm ((s.delivered ++ left) ++ discarded ++ c.queued) ∧
      c.counters.discardedFrames = UInt32.ofNat discarded.length := by
  obtain ⟨discarded, hperm, hcount⟩ := h.account
  obtain ⟨lost, hstep, hlost⟩ := haccounts
  refine ⟨discarded ++ lost, ?_, ?_⟩
  · rw [List.perm_iff_count] at hperm hstep ⊢
    intro p
    have hp := hperm p
    have hp' := hstep p
    simp only [List.count_append] at hp hp' ⊢
    omega
  · rw [hlost, hcount, List.length_append, UInt32.ofNat_add]

theorem Session.Balanced.apply {s : Session} (h : s.Balanced) (call : Call) :
    (call.apply s).Balanced := by
  cases call with
  | reset =>
    obtain ⟨hsound, hqueued⟩ := h.sound.reset
    refine ⟨hsound, [], ?_, rfl⟩
    show ([] : List Played).Perm ([] ++ [] ++ s.buffer.reset.queued)
    rw [hqueued]
    exact .nil
  | push frame =>
    refine ⟨h.sound.push frame, ?_⟩
    have hbalance := (accounts_push h.sound frame).balance h
    rw [List.append_nil] at hbalance
    exact hbalance
  | read request =>
    refine ⟨h.sound.read request, ?_⟩
    have hbalance := (accounts_read s.buffer request).balance h
    rw [List.append_nil] at hbalance
    exact hbalance

theorem balanced_session (frameCapacity : Nat) (slots prebuffer : UInt8) (calls : List Call) :
    (session frameCapacity slots prebuffer calls).Balanced := by
  refine EventRun.invariant_of_step _ (fun call _ h => h.apply call) ?_ calls
  obtain ⟨hsound, hqueued, hcounters⟩ := sound_create frameCapacity slots prebuffer
  refine ⟨hsound, [], ?_, ?_⟩
  · show ([] : List Played).Perm ([] ++ [] ++ (create frameCapacity slots prebuffer).queued)
    rw [hqueued]
    exact .nil
  · exact congrArg Counters.discardedFrames hcounters

/-! ## Every waiting frame is reached -/

/-- The caller's `read`: room for a whole frame, and the size is asked for. -/
def Request.whole (r : Request) (frameCapacity : Nat) : Prop :=
  r.out = true ∧ r.actualBytes = true ∧ r.capacity = frameCapacity

/-- Playing, with a frame waiting, a read delivers or comes nearer to the frame. -/
theorem read_nearer (h : b.Sound) {r : Request} (hr : r.whole b.frameCapacity)
    (hplaying : b.buffering = false) {s : Slot} (hs : s ∈ b.slots) (hv : s.valid) :
    (b.read r).1.delivered.length = 1 ∨
    (offset b.nextSequence s.sequence ≠ 0 ∧
      (b.read r).2 = { b with
        nextSequence := b.nextSequence + 1
        counters := { b.counters with missing := b.counters.missing + 1 } }) := by
  obtain ⟨hout, hbytes, hcapacity⟩ := hr
  have hslots : b.slotCount ≠ 0 := fun hzero => by
    rw [List.length_eq_zero_iff.1 hzero] at hs
    cases hs
  obtain ⟨hfull, hfits⟩ := h.filled s hs hv
  have hready : b.ready = true := by
    unfold ready
    rw [h.started hplaying, hplaying]
    rfl
  have hsame : { b with buffering := false } = b := by rw [← hplaying]
  unfold RtpJitterBuffer.read
  rw [if_neg (by simp [hout, hcapacity, hslots]; omega), if_pos hready, hsame]
  unfold RtpJitterBuffer.readDue
  split
  · -- The frame that is due is there, and the request takes it.
    rename_i hheld
    left
    have hdue := (h.filled _ (slotFor_mem hslots b.nextSequence) (holds_iff.1 hheld).1).2
    have htakes : r.refuses (b.slotFor b.nextSequence) = false := by
      simp [Request.refuses, hbytes, hcapacity, hdue]
    dsimp only
    rw [if_neg (by simp [htakes])]
    rfl
  · -- It is missing, but some other frame waits.
    rename_i hnone
    right
    obtain ⟨i, hi⟩ := List.getElem?_of_mem hs
    have hheld := holds_of_valid h hi hv
    have hcount : b.validCount ≠ 0 := by
      rw [h.counted]
      exact fun hzero => List.countP_eq_zero.1 hzero s hs hv
    rw [if_neg hcount]
    refine ⟨fun hzero => hnone ?_, rfl⟩
    rw [← eq_of_offset_eq_zero hzero]
    exact hheld

theorem delivered_mono (s : Session) (rs : List Request) :
    s.delivered.length ≤ (EventRun.after Call.apply s (rs.map .read)).delivered.length := by
  induction rs generalizing s with
  | nil => exact Nat.le_refl _
  | cons r rs ih =>
    rw [List.map_cons, EventRun.after_cons]
    refine Nat.le_trans ?_ (ih _)
    show _ ≤ (s.delivered ++ _).length
    rw [List.length_append]
    omega

/-- A waiting frame that lies `n` numbers ahead bounds the reads up to the next delivery. -/
theorem delivers_within {s : Session} (h : s.buffer.Sound) (hplaying : s.buffer.buffering = false)
    {slot : Slot} (hs : slot ∈ s.buffer.slots) (hv : slot.valid) (rs : List Request)
    (hrs : ∀ r ∈ rs, r.whole s.buffer.frameCapacity)
    (hlength : offset s.buffer.nextSequence slot.sequence < rs.length) :
    s.delivered.length < (EventRun.after Call.apply s (rs.map .read)).delivered.length := by
  induction rs generalizing s with
  | nil => cases hlength
  | cons r rs ih =>
    rw [List.map_cons, EventRun.after_cons]
    obtain hone | ⟨hne, he⟩ := read_nearer h (hrs r List.mem_cons_self) hplaying hs hv
    · have hmono := delivered_mono ((Call.read r).apply s) rs
      have hgrown : ((Call.read r).apply s).delivered.length = s.delivered.length + 1 := by
        show (s.delivered ++ (s.buffer.read r).1.delivered).length = _
        rw [List.length_append, hone]
      omega
    · have hbuffer : ((Call.read r).apply s).buffer = _ := he
      have hnearer := offset_succ_base hne
      have hsound := h.read r
      rw [he] at hsound
      have hdone := ih (s := (Call.read r).apply s) (by rw [hbuffer]; exact hsound)
        (by rw [hbuffer]; exact hplaying) (by rw [hbuffer]; exact hs)
        (by rw [hbuffer]; exact fun r' hr' => hrs r' (List.mem_cons_of_mem _ hr'))
        (by
          rw [hbuffer]
          show offset (s.buffer.nextSequence + 1) slot.sequence < rs.length
          rw [List.length_cons] at hlength
          omega)
      have hmono : s.delivered.length ≤ ((Call.read r).apply s).delivered.length := by
        show _ ≤ (s.delivered ++ _).length
        rw [List.length_append]
        omega
      omega

/-! ## The counts since the last reset -/

/-- After every run of calls, the slots are where their numbers say and as many as counted, every
    frame delivered is one of those accepted, the counts balance as 32-bit numbers do, and while
    playing a waiting frame bounds the reads to the next delivery. -/
theorem every_frame_is_accounted_for (frameCapacity : Nat) (slots prebuffer : UInt8)
    (calls : List Call) :
    let s := session frameCapacity slots prebuffer calls
    let b := s.buffer
    (∀ i slot, b.slots[i]? = some slot → slot.valid →
      slot.sequence.toNat % b.slotCount = i ∧
        0 ≤ delta slot.sequence b.nextSequence ∧ delta slot.sequence b.nextSequence < b.slotCount) ∧
    b.validCount = b.slots.countP Slot.valid ∧
    (∃ discarded, s.accepted.Perm (s.delivered ++ discarded ++ b.queued)) ∧
    UInt32.ofNat s.accepted.length =
      UInt32.ofNat s.delivered.length + b.counters.discardedFrames + b.readCounters.depth ∧
    (s.accepted.length < 4294967296 → s.accepted.length =
      s.delivered.length + b.counters.discardedFrames.toNat + b.readCounters.depth.toNat) ∧
    (b.buffering = false → b.validCount ≠ 0 → ∀ rs : List Request,
      (∀ r ∈ rs, r.whole b.frameCapacity) → b.slotCount ≤ rs.length →
        s.delivered.length < (EventRun.after Call.apply s (rs.map .read)).delivered.length) := by
  intro s
  have hbalanced : s.Balanced := balanced_session frameCapacity slots prebuffer calls
  have hsound := hbalanced.sound
  -- What was accepted is delivered, discarded or still queued.
  obtain ⟨discarded, hperm, hcount⟩ := hbalanced.account
  have hlength := hperm.length_eq
  have hdepth := (length_queued s.buffer).trans hsound.counted.symm
  simp only [List.length_append] at hlength
  refine ⟨fun i slot hs hv => ?_, hsound.counted, ⟨discarded, hperm⟩, ?_, fun hfew => ?_,
    fun hplaying hwaiting rs hrs hrounds => ?_⟩
  · obtain ⟨hi, hwindow⟩ := hsound.placed i slot hs hv
    have hsmall : s.buffer.slotCount ≤ 16 := hsound.small
    rw [delta_base (by omega)]
    exact ⟨hi, by omega, by omega⟩
  · show _ = _ + _ + UInt32.ofNat s.buffer.validCount
    rw [hcount, hlength, ← hdepth, UInt32.ofNat_add, UInt32.ofNat_add]
  · show _ = _ + _ + (UInt32.ofNat s.buffer.validCount).toNat
    have hsize : UInt32.size = 4294967296 := rfl
    rw [hcount, UInt32.toNat_ofNat_of_lt' (by omega), UInt32.toNat_ofNat_of_lt' (by omega)]
    omega
  · -- a frame waits, and each read delivers or comes one nearer to it
    have hsome : 0 < s.buffer.slots.countP Slot.valid := by
      have := hsound.counted
      omega
    obtain ⟨slot, hslot, hv⟩ := List.countP_pos_iff.1 hsome
    obtain ⟨i, hi⟩ := List.getElem?_of_mem hslot
    have hwindow := (hsound.placed i slot hi hv).2
    exact delivers_within hsound hplaying hslot hv rs hrs (by omega)

/-! ## More frames than a counter counts -/

/-- No slot holds a number that lies beyond the window, wherever the window goes. -/
theorem holds_keepWindowFrom (h : b.Sound) (hslots : b.slotCount ≠ 0)
    (hfar : (b.slotCount : Int) ≤ delta q b.nextSequence) (next : UInt16) :
    (RtpJitterBuffer.keepWindowFrom next { b with nextSequence := next }).holds q = false := by
  rw [Bool.eq_false_iff]
  intro hheld
  obtain ⟨hv, hq⟩ := holds_iff.1 hheld
  have hget := getElem?_slotIndex (b := keepWindowFrom next { b with nextSequence := next })
    (by rw [slotCount_keepWindowFrom]; exact hslots) q
  obtain ⟨hold, _⟩ := getElem?_keepWindowFrom hget hv
  have hwindow := (h.placed _ _ hold hv).2
  rw [hq] at hwindow
  have hdistance : (offset b.nextSequence q : Int) = delta q b.nextSequence :=
    offset_reference (by omega)
  omega

/-- A frame that lies beyond the window is accepted, and the window follows it. -/
theorem push_ahead (h : b.Sound) (hanchored : b.nextSequenceValid) {frame : Frame}
    {pcm : List UInt8}
    (hpcm : frame.pcm = some pcm) (hbytes : pcm.length ≠ 0 ∧ pcm.length ≤ b.frameCapacity)
    (hslots : b.slotCount ≠ 0)
    (hfar : (b.slotCount : Int) ≤ delta (b.sequenceFor frame) b.nextSequence) :
    (b.push frame).1 = true ∧ (b.push frame).2.nextSequenceValid ∧
      (b.push frame).2.slotCount = b.slotCount ∧
      (b.push frame).2.frameCapacity = b.frameCapacity ∧
      offset (b.push frame).2.nextSequence (b.sequenceFor frame) < b.slotCount := by
  have hsound := h.push frame
  have hanchor : b.anchor (b.sequenceFor frame) = b := if_pos hanchored
  -- The frame itself is fit, so that the push comes to the alignment.
  obtain ⟨hunfit, _⟩ | ⟨pcm', alignment, c, _, _, _, _, halign, hrest⟩ := push_cases frame b
  · obtain hzero | hzero | hlong := hunfit pcm hpcm
    · exact absurd hzero hslots
    · exact absurd hzero hbytes.1
    · omega
  rw [hanchor] at halign
  generalize b.sequenceFor frame = q at hfar halign hrest ⊢
  -- That far ahead, the window is moved.
  obtain ⟨_, _⟩ | ⟨_, _, _⟩ | ⟨_, _, _, _⟩ | ⟨next, drops, _, _, he⟩ := align_cases q b
  · omega
  · omega
  · omega
  obtain ⟨_, hcount, hcapacity, hvalid, _⟩ := h.align hslots hanchored q
  rw [halign] at hcount hcapacity hvalid
  -- No slot of the moved window holds the number yet.
  have hnone := holds_keepWindowFrom h hslots hfar next
  obtain ⟨rfl, rfl⟩ := Prod.mk.inj (halign.symm.trans he)
  obtain ⟨hlate, _⟩ | ⟨_, hpush⟩ := hrest
  · cases hlate
  rw [← hcount] at hslots
  have hinsert := insert_spec hslots frame pcm' q .realigned
  rw [← hpush] at hinsert
  obtain ⟨hcount', hcapacity', hvalid', haccepted, hheld⟩ := hinsert
  have hslots' : (b.push frame).2.slotCount ≠ 0 := by rw [hcount']; exact hslots
  have hnow := hsound.placed _ _ (getElem?_slotIndex hslots' q) (holds_iff.1 hheld).1
  rw [(holds_iff.1 hheld).2] at hnow
  refine ⟨?_, hvalid'.trans hvalid, hcount'.trans hcount, hcapacity'.trans hcapacity, ?_⟩
  · rw [haccepted, Bool.not_eq_true']
    exact hnone
  · exact (hcount'.trans hcount) ▸ hnow.2

/-- A frame with this number. -/
def numbered (sequence : UInt16) : Frame :=
  { pcm := some [0, 0, 0, 0], sequence, hasMetadata := true }

/-- The number of the `n`-th frame of a stream that always jumps beyond the window. -/
def jump : Nat → UInt16
  | 0 => 0
  | n + 1 => jump n + 100

/-- The first `n + 1` frames of that stream. -/
def jumps : Nat → List Call
  | 0 => [.push (numbered (jump 0))]
  | n + 1 => jumps n ++ [.push (numbered (jump (n + 1)))]

theorem session_jumps (n : Nat) :
    let s := session 4 16 4 (jumps n)
    s.buffer.Sound ∧ s.buffer.nextSequenceValid ∧ s.buffer.slotCount = 16 ∧
      s.buffer.frameCapacity = 4 ∧ offset s.buffer.nextSequence (jump n) < 16 ∧
      s.accepted.length = n + 1 ∧ s.delivered = [] := by
  induction n with
  | zero =>
    refine ⟨(balanced_session 4 16 4 _).sound, ?_⟩
    decide
  | succ n ih =>
    obtain ⟨hsound, hanchored, hcount, hcapacity, hnear, haccepted, hdelivered⟩ := ih
    have hrun : session 4 16 4 (jumps (n + 1)) =
        (Call.push (numbered (jump (n + 1)))).apply (session 4 16 4 (jumps n)) :=
      EventRun.after_append Call.apply _ (jumps n) _
    rw [hrun]
    clear hrun
    generalize session 4 16 4 (jumps n) = s at *
    have hjump : offset (jump n) (jump (n + 1)) = 100 := offset_add (n := 100) (by decide) _
    have hoffset : offset s.buffer.nextSequence (jump (n + 1)) =
        offset s.buffer.nextSequence (jump n) + 100 := by
      rw [← hjump]
      exact offset_trans (by omega)
    have hfar : (s.buffer.slotCount : Int) ≤ delta (jump (n + 1)) s.buffer.nextSequence := by
      rw [delta_base (by omega)]
      omega
    obtain ⟨hpushed, hanchored', hcount', hcapacity', hnear'⟩ := push_ahead hsound hanchored
      (show (numbered (jump (n + 1))).pcm = _ from rfl) (by rw [hcapacity]; decide) (by omega) hfar
    refine ⟨hsound.push _, hanchored', hcount'.trans hcount, hcapacity'.trans hcapacity, ?_, ?_, ?_⟩
    · exact hcount ▸ hnear'
    · show (s.accepted ++ s.buffer.accepted _).length = _
      rw [List.length_append, haccepted]
      unfold RtpJitterBuffer.accepted
      rw [if_pos hpushed]
      rfl
    · exact hdelivered

/-- More frames than 32 bits count, and a reader with too little room for the frames. -/
theorem counters_wrap_and_small_reads_discard :
    (¬ ∀ (frameCapacity : Nat) (calls : List Call),
      let s := session frameCapacity 16 4 calls
      s.accepted.length = s.delivered.length + s.buffer.counters.discardedFrames.toNat +
        s.buffer.readCounters.depth.toNat) ∧
    (¬ ∀ (frameCapacity : Nat) (calls : List Call) (rs : List Request),
      let s := session frameCapacity 16 4 calls
      s.buffer.buffering = false → s.buffer.validCount ≠ 0 → s.buffer.slotCount ≤ rs.length →
        s.delivered.length < (EventRun.after Call.apply s (rs.map .read)).delivered.length) := by
  constructor
  · intro h
    obtain ⟨n, hn⟩ : ∃ n, n = 4294967312 := ⟨_, rfl⟩
    have hcount := h 4 (jumps n)
    obtain ⟨hsound, _, hslots, _, _, haccepted, hdelivered⟩ := session_jumps n
    generalize session 4 16 4 (jumps n) = s at hcount hsound hslots haccepted hdelivered
    have hdiscarded := UInt32.toNat_lt s.buffer.counters.discardedFrames
    have hdepth : s.buffer.readCounters.depth.toNat ≤ 16 := by
      show (UInt32.ofNat s.buffer.validCount).toNat ≤ 16
      have hle := SlotTable.length_held_le Slot.content s.buffer.slots
      have hqueued : (SlotTable.held Slot.content s.buffer.slots).length = s.buffer.validCount :=
        (length_queued s.buffer).trans hsound.counted.symm
      change s.buffer.slots.length = 16 at hslots
      rw [UInt32.toNat_ofNat']
      omega
    dsimp only at hcount
    rw [haccepted, hdelivered, List.length_nil] at hcount
    omega
  · intro h
    have hlost := h 4 ([.push (numbered 0), .push (numbered 1), .push (numbered 2),
      .push (numbered 3)] ++ List.replicate 3 (.read { capacity := 4, actualBytes := true }))
      (List.replicate 16 { capacity := 2, actualBytes := true })
    exact absurd (hlost (by decide) (by decide) (by decide)) (by decide)

end RtpJitterBuffer

end EsphomeVoip
