import EsphomeVoip.ForStd.SerialNumber

/-! # The audio jitter buffer (`rtp_jitter_buffer.h`)

Slots indexed by the sequence number, the window of numbers that they may hold, and the counters.
Every method body is one critical section of the buffer's mutex and one function here.  A pointer
that may be null is an `Option`; what `read` writes through its pointers comes with
`ReadResult.frame`, and of the pointers only `actual_bytes` decides anything. -/

namespace EsphomeVoip

open SerialNumber

namespace RtpJitterBuffer

/-- `RtpJitterBuffer::Frame`.  The bytes that `pcm` points to are the frame's `bytes`. -/
structure Frame where
  pcm : Option (List UInt8) := none
  sequence : UInt16 := 0
  timestamp : UInt32 := 0
  hasMetadata : Bool := false
  sourceChanged : Bool := false
  formatPacked : UInt32 := 0
  deriving DecidableEq, Repr

/-- What `read` hands out: through `out` the bytes, and the rest through the optional pointers. -/
structure Played where
  pcm : List UInt8
  sequence : UInt16
  timestamp : UInt32
  hasMetadata : Bool
  sourceChanged : Bool
  formatPacked : UInt32
  deriving DecidableEq, Repr

/-- `RtpJitterBuffer::ReadResult`. -/
inductive ReadResult where
  | frame (played : Played)
  | buffering
  | missing
  deriving DecidableEq, Repr

/-- The arguments of `read` that decide something: whether `out` and `actual_bytes` are given, and
    the room behind `out`. -/
structure Request where
  out : Bool := true
  capacity : Nat
  actualBytes : Bool := false
  deriving DecidableEq, Repr

/-- `RtpJitterBuffer::Counters`. -/
structure Counters where
  depth : UInt32 := 0
  drops : UInt32 := 0
  discardedFrames : UInt32 := 0
  late : UInt32 := 0
  missing : UInt32 := 0
  duplicates : UInt32 := 0
  deriving DecidableEq, Repr

/-- `RtpJitterBuffer::Slot`.  `pcm` is the slot's part of the storage. -/
structure Slot where
  valid : Bool := false
  hasMetadata : Bool := false
  sourceChanged : Bool := false
  formatPacked : UInt32 := 0
  sequence : UInt16 := 0
  timestamp : UInt32 := 0
  bytes : Nat := 0
  pcm : List UInt8 := []
  deriving DecidableEq, Repr

/-- `slot.valid = false; slot.bytes = 0`. -/
def Slot.clear (s : Slot) : Slot := { s with valid := false, bytes := 0 }

/-- `MAX_SLOTS`. -/
def maxSlots : Nat := 16

/-- `memcpy` to the start of a slot's storage. -/
def memcpy (destination source : List UInt8) : List UInt8 :=
  source ++ destination.drop source.length

end RtpJitterBuffer

/-- The fields of `RtpJitterBuffer`.  `slots` are the `slot_count_` slots in use. -/
structure RtpJitterBuffer where
  frameCapacity : Nat
  prebuffer : Nat
  slots : List RtpJitterBuffer.Slot
  validCount : Nat := 0
  buffering : Bool := true
  nextSequenceValid : Bool := false
  nextSequence : UInt16 := 0
  counters : RtpJitterBuffer.Counters := {}
  deriving DecidableEq, Repr

namespace RtpJitterBuffer

/-- `slot_count_`. -/
def slotCount (b : RtpJitterBuffer) : Nat := b.slots.length

/-- The constructor, over storage for `slots` frames. -/
def create (frameCapacity : Nat) (slots prebuffer : UInt8) : RtpJitterBuffer :=
  let slotCount := if maxSlots < slots.toNat then maxSlots else slots.toNat
  let b : RtpJitterBuffer :=
    { frameCapacity, prebuffer := prebuffer.toNat, slots := List.replicate slotCount {} }
  if frameCapacity = 0 ∨ slotCount = 0 then
    b
  else
    let prebuffer := if b.prebuffer = 0 then 1 else b.prebuffer
    let prebuffer := if slotCount < prebuffer then slotCount else prebuffer
    { b with
      prebuffer
      slots := List.replicate slotCount { pcm := List.replicate frameCapacity 0 } }

/-- The slot of a sequence number. -/
def slotIndex (b : RtpJitterBuffer) (sequence : UInt16) : Nat := sequence.toNat % b.slotCount

def slotFor (b : RtpJitterBuffer) (sequence : UInt16) : Slot :=
  b.slots.getD (b.slotIndex sequence) {}

def setSlot (b : RtpJitterBuffer) (sequence : UInt16) (slot : Slot) : RtpJitterBuffer :=
  { b with slots := b.slots.set (b.slotIndex sequence) slot }

/-- `clear_slots_`. -/
def clearSlots (b : RtpJitterBuffer) : RtpJitterBuffer :=
  { b with slots := b.slots.map Slot.clear }

/-- Outside the window of `slots` numbers from `nextSequence` on. -/
def outside (slots : Nat) (nextSequence : UInt16) (s : Slot) : Bool :=
  decide (delta s.sequence nextSequence < 0) || decide
    ((slots : Int) ≤ delta s.sequence nextSequence)

/-- `keep_window_from_`: the loop clears the valid slots outside the window, and counts the
    others. -/
def keepWindowFrom (nextSequence : UInt16) (b : RtpJitterBuffer) : RtpJitterBuffer :=
  let lost (s : Slot) := s.valid && outside b.slotCount nextSequence s
  let kept (s : Slot) := s.valid && !outside b.slotCount nextSequence s
  { b with
    slots := b.slots.map fun s => if lost s then s.clear else s
    validCount := b.slots.countP kept
    counters := { b.counters with
      discardedFrames := b.counters.discardedFrames + UInt32.ofNat (b.slots.countP lost) } }

/-- `reset`. -/
def reset (b : RtpJitterBuffer) : RtpJitterBuffer :=
  { b.clearSlots with
    validCount := 0
    buffering := true
    nextSequenceValid := false
    nextSequence := 0
    counters := {} }

/-- The sequence number that `push` goes by: a frame without metadata goes behind those queued. -/
def sequenceFor (frame : Frame) (b : RtpJitterBuffer) : UInt16 :=
  if frame.hasMetadata then
    frame.sequence
  else if b.nextSequenceValid then
    b.nextSequence + UInt16.ofNat b.validCount
  else
    0

/-- `keep_frames` of `push`: how many numbers the window keeps up to one that lies beyond it. -/
def keepFrames (b : RtpJitterBuffer) : Nat :=
  if b.prebuffer < b.slotCount then b.slotCount - b.prebuffer else 1

/-- The first number given becomes the anchor. -/
def anchor (sequence : UInt16) (b : RtpJitterBuffer) : RtpJitterBuffer :=
  if b.nextSequenceValid then
    b
  else
    { b with nextSequence := sequence, nextSequenceValid := true }

/-- What moving the window for a number comes to. -/
inductive Alignment where
  | late
  | kept
  | realigned
  deriving DecidableEq, Repr

/-- The first half of `push`: move the window, where it must. -/
def align (sequence : UInt16) (b : RtpJitterBuffer) : Alignment × RtpJitterBuffer :=
  let distance := delta sequence b.nextSequence
  if distance < 0 then
    if b.buffering ∧ -(b.slotCount : Int) < distance then
      (.kept, keepWindowFrom sequence { b with nextSequence := sequence })
    else
      (.late, { b with counters := { b.counters with late := b.counters.late + 1 } })
  else if (b.slotCount : Int) ≤ distance then
    let nextSequence := sequence - UInt16.ofNat b.keepFrames + 1
    let b := keepWindowFrom nextSequence { b with nextSequence }
    (.realigned, { b with counters := { b.counters with drops := b.counters.drops + 1 } })
  else
    (.kept, b)

/-- Empty the slot of a number that is about to be written. -/
def evict (sequence : UInt16) (b : RtpJitterBuffer) : RtpJitterBuffer :=
  if (b.slotFor sequence).valid then
    let b := b.setSlot sequence (b.slotFor sequence).clear
    { b with
      validCount := b.validCount - 1
      counters := { b.counters with
        drops := b.counters.drops + 1
        discardedFrames := b.counters.discardedFrames + 1 } }
  else
    b

/-- The slot after `memcpy` and the assignments of the frame's fields. -/
def Slot.fill (frame : Frame) (pcm : List UInt8) (sequence : UInt16) (s : Slot) : Slot where
  valid := true
  hasMetadata := frame.hasMetadata
  sourceChanged := frame.sourceChanged
  formatPacked := frame.formatPacked
  sequence := sequence
  timestamp := frame.timestamp
  bytes := pcm.length
  pcm := memcpy s.pcm pcm

/-- Write the frame to its slot. -/
def store (frame : Frame) (pcm : List UInt8) (sequence : UInt16) (b : RtpJitterBuffer) :
    RtpJitterBuffer :=
  let b := b.setSlot sequence ((b.slotFor sequence).fill frame pcm sequence)
  { b with validCount := b.validCount + 1 }

/-- A slot that holds the number asked for. -/
def holds (b : RtpJitterBuffer) (sequence : UInt16) : Bool :=
  (b.slotFor sequence).valid && (b.slotFor sequence).sequence == sequence

/-- The loop of `push` over the window: the first number that a slot holds. -/
def firstHeld (b : RtpJitterBuffer) : UInt16 :=
  ((List.range b.slotCount).find? fun offset =>
    b.holds (b.nextSequence + UInt16.ofNat offset)).elim b.nextSequence fun offset =>
      b.nextSequence + UInt16.ofNat offset

/-- The last part of `push`: anchor playout after a realignment, or end the prebuffering. -/
def resume (alignment : Alignment) (b : RtpJitterBuffer) : RtpJitterBuffer :=
  if alignment = .realigned then
    { b with nextSequence := b.firstHeld, buffering := b.validCount < b.prebuffer }
  else if b.buffering ∧ b.prebuffer ≤ b.validCount then
    { b with buffering := false }
  else
    b

/-- The second half of `push`: the frame goes into its slot, unless it is there already. -/
def insert (frame : Frame) (pcm : List UInt8) (sequence : UInt16) (alignment : Alignment)
    (b : RtpJitterBuffer) : Bool × RtpJitterBuffer :=
  if b.holds sequence then
    (false, { b with counters := { b.counters with duplicates := b.counters.duplicates + 1 } })
  else
    (true, ((b.evict sequence).store frame pcm sequence).resume alignment)

/-- `push`. -/
def push (frame : Frame) (b : RtpJitterBuffer) : Bool × RtpJitterBuffer :=
  match frame.pcm with
  | none => (false, b)
  | some pcm =>
    if b.slotCount = 0 ∨ pcm.length = 0 ∨ b.frameCapacity < pcm.length then
      (false, b)
    else
      let sequence := b.sequenceFor frame
      match (b.anchor sequence).align sequence with
      | (.late, b) => (false, b)
      | (alignment, b) => b.insert frame pcm sequence alignment

/-- Playing has begun, or enough is queued for it to begin. -/
def ready (b : RtpJitterBuffer) : Bool :=
  b.nextSequenceValid && (!b.buffering || decide (b.prebuffer ≤ b.validCount))

/-- Empty the slot of the number that is due, and go on to the next number. -/
def consume (b : RtpJitterBuffer) : RtpJitterBuffer :=
  let emptied := b.setSlot b.nextSequence (b.slotFor b.nextSequence).clear
  { emptied with
    validCount := b.validCount - 1
    nextSequence := b.nextSequence + 1 }

/-- What a slot gives to `read`. -/
def Slot.played (s : Slot) : Played where
  pcm := s.pcm.take s.bytes
  sequence := s.sequence
  timestamp := s.timestamp
  hasMetadata := s.hasMetadata
  sourceChanged := s.sourceChanged
  formatPacked := s.formatPacked

/-- The slot's frame does not go into what the caller gave. -/
def Request.refuses (r : Request) (s : Slot) : Bool :=
  decide (r.capacity < s.bytes) || (!r.actualBytes && s.bytes != r.capacity)

/-- The second half of `read`: the frame that is due, where it is there. -/
def readDue (r : Request) (b : RtpJitterBuffer) : ReadResult × RtpJitterBuffer :=
  if b.holds b.nextSequence then
    let slot := b.slotFor b.nextSequence
    if r.refuses slot then
      let b := b.consume
      (.missing, { b with counters := { b.counters with
        drops := b.counters.drops + 1
        discardedFrames := b.counters.discardedFrames + 1 } })
    else
      (.frame slot.played, b.consume)
  else if b.validCount = 0 then
    (.buffering, b)
  else
    (.missing, { b with
      nextSequence := b.nextSequence + 1
      counters := { b.counters with missing := b.counters.missing + 1 } })

/-- `read`. -/
def read (r : Request) (b : RtpJitterBuffer) : ReadResult × RtpJitterBuffer :=
  if b.slotCount = 0 ∨ !r.out ∨ r.capacity = 0 ∨ b.frameCapacity < r.capacity then
    (.buffering, b)
  else if b.ready then
    { b with buffering := false }.readDue r
  else
    (.buffering, b)

/-- `counters`. -/
def readCounters (b : RtpJitterBuffer) : Counters :=
  { b.counters with depth := UInt32.ofNat b.validCount }

end RtpJitterBuffer

end EsphomeVoip
