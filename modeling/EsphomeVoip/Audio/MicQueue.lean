import EsphomeVoip.ForStd.EventRun
import EsphomeVoip.Rtp.AudioPayload

/-! # The queue of the microphone (`voip_audio.cpp`)

What the microphone hands over waits in a ring for the task that sends it.  When the ring is full
the oldest bytes are given up, as many as are needed; whether these are whole sample frames depends
on the size of the ring. -/

namespace EsphomeVoip

/-! ## The ring of ESPHome -/

/-- `RingBuffer` of ESPHome, by what the component calls. -/
structure RingBuffer (R : Type) where
  available : R → Nat
  free : R → Nat
  /-- The bytes that are written. -/
  write : ByteSpan → R → Nat × R
  /-- The bytes that are read. -/
  read : Nat → R → ByteSpan × R
  reset : R → R

/-- A ring of so many bytes that holds `contents`: a write that does not fit gives up as many of the
    oldest bytes as are missing. -/
structure RingBuffer.Lawful {R : Type} (ring : RingBuffer R) (capacity : Nat)
    (contents : R → ByteSpan) : Prop where
  bounded : ∀ r, (contents r).length ≤ capacity
  available : ∀ r, ring.available r = (contents r).length
  free : ∀ r, ring.free r = capacity - (contents r).length
  written : ∀ data r, data.length ≤ capacity → (ring.write data r).1 = data.length
  write : ∀ data r, data.length ≤ capacity →
    contents (ring.write data r).2 = (contents r).drop (data.length - ring.free r) ++ data
  taken : ∀ n r, n ≤ ring.available r → (ring.read n r).1 = (contents r).take n
  read : ∀ n r, n ≤ ring.available r → contents (ring.read n r).2 = (contents r).drop n
  reset : ∀ r, contents (ring.reset r) = []

/-! ## The queue -/

/-- What a build and its configuration say about the microphone. -/
structure TxAudioConfig where
  txAudioFormat : AudioFormat := {}
  /-- The packet times that a call may have, that of `tx_audio_format` first. -/
  txAudioFormats : AudioFormatList := [txAudioFormat]
  /-- `USE_ESPHOME_VOIP_STACK_AUDIO_STACK_MIC`. -/
  audioStackMic : Bool := false
  deriving DecidableEq, Repr

namespace TxAudioConfig

/-- `tx_audio_max_chunk_bytes_`. -/
def txAudioMaxChunkBytes (c : TxAudioConfig) : Nat :=
  c.txAudioFormats.foldl (fun bytes format => max bytes format.nominalFrameBytes)
    c.txAudioFormat.nominalFrameBytes

/-- `tx_audio_buffer_bytes_`. -/
def txAudioBufferBytes (c : TxAudioConfig) : Nat :=
  let frameBytes := c.txAudioMaxChunkBytes
  if c.audioStackMic then max (frameBytes * 6) (frameBytes + 1024)
  else max (frameBytes * 16) (frameBytes + 4096)

/-- `mic_processing_samples_`. -/
def micProcessingSamples (c : TxAudioConfig) : Nat := c.txAudioMaxChunkBytes / 2

/-- The bytes of a sample of every channel. -/
def sampleFrameBytes (c : TxAudioConfig) : Nat :=
  c.txAudioFormat.containerBytesPerSample * c.txAudioFormat.channels

/-- The formats of a valid configuration: they differ in their packet times only. -/
structure Valid (c : TxAudioConfig) : Prop where
  txAudioFormat : c.txAudioFormat.isValid = true
  isValid : ∀ format ∈ c.txAudioFormats, format.isValid = true
  sampleRate : ∀ format ∈ c.txAudioFormats, format.sampleRate = c.txAudioFormat.sampleRate
  pcmFormat : ∀ format ∈ c.txAudioFormats, format.pcmFormat = c.txAudioFormat.pcmFormat
  channels : ∀ format ∈ c.txAudioFormats, format.channels = c.txAudioFormat.channels

end TxAudioConfig

/-- `frames_for_bytes`. -/
def framesForBytes (bytes frameBytes : Nat) : UInt32 :=
  if bytes = 0 ∨ frameBytes = 0 then 0 else UInt32.ofNat ((bytes + frameBytes - 1) / frameBytes)

/-- The queue, and behind `taken` what only the proofs know. -/
structure MicQueue (R : Type) where
  micBuffer : R
  /-- `get_current_tx_audio_format_`. -/
  current : AudioFormat
  mediaTxQueueDrops : UInt32 := 0
  /-- How many of the bytes `offered` have left the queue, sent or given up. -/
  taken : Nat := 0
  /-- The bytes of the microphone since the queue was emptied. -/
  offered : ByteSpan := []
  /-- The bytes that the writes have given up. -/
  drops : List Nat := []
  /-- The chunks that were read, and how many bytes of the microphone were before each. -/
  chunks : List (Nat × ByteSpan) := []

namespace MicQueue

variable {R : Type} (ring : RingBuffer R) (c : TxAudioConfig)

/-- `tx_audio_chunk_bytes_`. -/
def txAudioChunkBytes (q : MicQueue R) : Nat := q.current.nominalFrameBytes

/-- `write_mic_buffer_`. -/
def writeMicBuffer (data : ByteSpan) (q : MicQueue R) : Bool × MicQueue R :=
  if data = [] then (false, q)
  else
    let skipped := data.length - c.txAudioBufferBytes
    let kept := data.drop skipped
    let freeBefore := ring.free q.micBuffer
    let replaced := if freeBefore < kept.length then kept.length - freeBefore else 0
    let (written, micBuffer) := ring.write kept q.micBuffer
    let dropped := skipped + replaced + (if written < kept.length then kept.length - written else 0)
    (skipped == 0 && written == kept.length,
      { q with
        micBuffer := micBuffer
        mediaTxQueueDrops := q.mediaTxQueueDrops + framesForBytes dropped q.txAudioChunkBytes
        taken := q.taken + dropped
        offered := q.offered ++ data
        drops := dropped :: q.drops })

/-- The processed samples, in blocks of `mic_processing_samples_`; the first argument bounds the
    number of blocks. -/
def writeBlocks : Nat → ByteSpan → MicQueue R → MicQueue R
  | 0, _, q => q
  | n + 1, data, q =>
    let chunk := min (data.length / 2) c.micProcessingSamples
    if data.length / 2 = 0 then q
    else writeBlocks n (data.drop (chunk * 2)) (q.writeMicBuffer ring c (data.take (chunk * 2))).2

/-- `on_microphone_data_`, while the stream is ready: `data` is what comes out of the gain and the
    DC blocker where `processed` says that they are used. -/
def onMicrophoneData (data : ByteSpan) (processed : Bool) (q : MicQueue R) : MicQueue R :=
  if processed then q.writeBlocks ring c data.length data
  else (q.writeMicBuffer ring c data).2

/-- `read_tx_chunk_`, when `tx_task_` finds a chunk in the queue. -/
def readTxChunk (q : MicQueue R) : MicQueue R :=
  let frameBytes := q.txAudioChunkBytes
  if frameBytes = 0 ∨ ring.available q.micBuffer < frameBytes then q
  else
    let (chunk, micBuffer) := ring.read frameBytes q.micBuffer
    { q with
      micBuffer := micBuffer
      taken := q.taken + frameBytes
      chunks := (q.taken, chunk) :: q.chunks }

/-- `set_in_call_`: the queue is emptied when media starts and when it ends. -/
def empty (q : MicQueue R) : MicQueue R :=
  { q with micBuffer := ring.reset q.micBuffer, mediaTxQueueDrops := 0, taken := 0, offered := [] }

/-- What happens to the queue. -/
inductive Event where
  | microphone (data : ByteSpan) (processed : Bool)
  | send
  | setInCall
  | setCurrentTxAudioFormat (format : AudioFormat)
  deriving DecidableEq, Repr

/-- One step. -/
def step : Event → MicQueue R → MicQueue R
  | .microphone data processed, q => q.onMicrophoneData ring c data processed
  | .send, q => q.readTxChunk ring
  | .setInCall, q => q.empty ring
  | .setCurrentTxAudioFormat format, q => { q with current := format }

/-- The queue behind some events. -/
def after (q : MicQueue R) (events : List Event) : MicQueue R :=
  EventRun.after (step ring c) q events

/-- A callback of whole sample frames, which only samples of 16 bits are processed in, or a format
    of the configuration. -/
def Event.Admissible : Event → Prop
  | .microphone data processed =>
    c.sampleFrameBytes ∣ data.length ∧ (processed = true → c.txAudioFormat.pcmFormat = .s16le)
  | .setCurrentTxAudioFormat format => format ∈ c.txAudioFormats ∨ format = disabledAudioFormat
  | _ => True

/-- Whole sample frames were given up each time, and every chunk begins with one. -/
def SampleAligned (q : MicQueue R) : Prop :=
  (∀ dropped ∈ q.drops, c.sampleFrameBytes ∣ dropped) ∧
    ∀ chunk ∈ q.chunks, c.sampleFrameBytes ∣ chunk.1

/-- A callback that the queue has room for. -/
def Roomy (contents : R → ByteSpan) : Event → MicQueue R → Prop
  | .microphone data _, q =>
    (contents q.micBuffer).length + data.length ≤ c.txAudioBufferBytes
  | _, _ => True

/-- A queue that nothing has been through. -/
structure Fresh (contents : R → ByteSpan) (q : MicQueue R) : Prop where
  contents : contents q.micBuffer = []
  current : q.current ∈ c.txAudioFormats ∨ q.current = disabledAudioFormat
  taken : q.taken = 0
  offered : q.offered = []
  drops : q.drops = []
  chunks : q.chunks = []

/-- The queue holds whole sample frames, and they are the last of those that were offered. -/
structure Sound (contents : R → ByteSpan) (q : MicQueue R) : Prop where
  taken : c.sampleFrameBytes ∣ q.taken
  length : c.sampleFrameBytes ∣ (contents q.micBuffer).length
  chunk : c.sampleFrameBytes ∣ q.txAudioChunkBytes
  within : q.taken ≤ q.offered.length
  holds : contents q.micBuffer = q.offered.drop q.taken
  aligned : SampleAligned c q

end MicQueue

/-! ## The size of the ring -/

namespace TxAudioConfig

variable {c : TxAudioConfig}

/-- Frames of 10 ms at 8 kHz are the shortest that there are. -/
theorem nominalFrameSamples_of_isValid {f : AudioFormat} (h : f.isValid = true) :
    80 ≤ f.nominalFrameSamples ∧
      (f.nominalFrameSamples ≤ 91 ↔ f.sampleRate = 8000 ∧ f.frameMs = 10) := by
  simp only [AudioFormat.isValid, Bool.and_eq_true, Bool.or_eq_true, beq_iff_eq] at h
  obtain ⟨⟨⟨⟨⟨hrate, -⟩, hframe⟩, -⟩, -⟩, -⟩ := h
  rw [AudioFormat.nominalFrameSamples]
  rcases hframe with ((hframe | hframe) | hframe) | hframe <;> rw [hframe] <;> omega

theorem channels_of_isValid {f : AudioFormat} (h : f.isValid = true) :
    f.channels = 1 ∨ f.channels = 2 := by
  simp only [AudioFormat.isValid, Bool.and_eq_true, Bool.or_eq_true, beq_iff_eq] at h
  exact h.1.1.1.1.2

/-- The samples of the longest frame. -/
def maxFrameSamples (c : TxAudioConfig) : Nat :=
  c.txAudioFormats.foldl (fun samples format => max samples format.nominalFrameSamples)
    c.txAudioFormat.nominalFrameSamples

theorem foldl_max_mul (formats : AudioFormatList) (size samples : Nat)
    (h : ∀ format ∈ formats, format.nominalFrameBytes = format.nominalFrameSamples * size) :
    formats.foldl (fun bytes format => max bytes format.nominalFrameBytes) (samples * size) =
      formats.foldl (fun samples format => max samples format.nominalFrameSamples) samples *
        size := by
  induction formats generalizing samples with
  | nil => rfl
  | cons format formats ih =>
    rw [List.foldl_cons, List.foldl_cons, h format (.head _), Nat.mul_max_mul_right,
      ih _ fun f hf => h f (.tail _ hf)]

theorem foldl_max_le (formats : AudioFormatList) (samples bound : Nat) :
    formats.foldl (fun samples format => max samples format.nominalFrameSamples) samples ≤ bound ↔
      samples ≤ bound ∧ ∀ format ∈ formats, format.nominalFrameSamples ≤ bound := by
  induction formats generalizing samples with
  | nil => simp
  | cons format formats ih =>
    rw [List.foldl_cons, ih, Nat.max_le, List.forall_mem_cons, and_assoc]

theorem nominalFrameBytes_eq {f : AudioFormat} (hpcm : f.pcmFormat = c.txAudioFormat.pcmFormat)
    (hchannels : f.channels = c.txAudioFormat.channels) :
    f.nominalFrameBytes = f.nominalFrameSamples * c.sampleFrameBytes := by
  rw [AudioFormat.nominalFrameBytes, sampleFrameBytes, AudioFormat.containerBytesPerSample,
    AudioFormat.containerBytesPerSample, hpcm, hchannels, Nat.mul_assoc]
  exact congrArg _ (Nat.mul_comm ..)

theorem txAudioMaxChunkBytes_eq (h : c.Valid) :
    c.txAudioMaxChunkBytes = c.maxFrameSamples * c.sampleFrameBytes := by
  rw [txAudioMaxChunkBytes, nominalFrameBytes_eq rfl rfl]
  exact foldl_max_mul _ _ _ fun f hf => nominalFrameBytes_eq (h.pcmFormat f hf) (h.channels f hf)

theorem le_maxFrameSamples (h : c.Valid) : 80 ≤ c.maxFrameSamples := by
  have hfirst := (nominalFrameSamples_of_isValid h.txAudioFormat).1
  exact Nat.le_trans hfirst ((foldl_max_le _ _ _).mp (Nat.le_refl _)).1

/-- A ring that is not made of whole sample frames: packed samples of 24 bits from one channel at
    8 kHz, in packets of 10 ms only, and a ring for an ESPHome microphone. -/
structure Ragged (c : TxAudioConfig) : Prop where
  microphone : c.audioStackMic = false
  pcmFormat : c.txAudioFormat.pcmFormat = .s24le
  channels : c.txAudioFormat.channels = 1
  sampleRate : c.txAudioFormat.sampleRate = 8000
  frameMs : c.txAudioFormat.frameMs = 10
  txAudioFormats : ∀ format ∈ c.txAudioFormats, format.frameMs = 10

theorem maxFrameSamples_le_iff (h : c.Valid) :
    c.maxFrameSamples ≤ 91 ↔ c.txAudioFormat.sampleRate = 8000 ∧ c.txAudioFormat.frameMs = 10 ∧
      ∀ format ∈ c.txAudioFormats, format.frameMs = 10 := by
  rw [maxFrameSamples, foldl_max_le, (nominalFrameSamples_of_isValid h.txAudioFormat).2, and_assoc]
  refine and_congr_right fun hrate => and_congr_right fun _ =>
    forall₂_congr fun format hformat => ?_
  rw [(nominalFrameSamples_of_isValid (h.isValid format hformat)).2, h.sampleRate format hformat]
  exact and_iff_right hrate

/-- The ring is made of whole sample frames, but for one format. -/
theorem sampleFrameBytes_dvd_iff (h : c.Valid) :
    c.sampleFrameBytes ∣ c.txAudioBufferBytes ↔ ¬c.Ragged := by
  have hsamples := le_maxFrameSamples h
  have hsmall := maxFrameSamples_le_iff h
  rw [txAudioBufferBytes, txAudioMaxChunkBytes_eq h]
  generalize hn : c.maxFrameSamples = n at hsamples hsmall
  constructor
  · intro hdvd hragged
    have hle := hsmall.mpr ⟨hragged.sampleRate, hragged.frameMs, hragged.txAudioFormats⟩
    rw [sampleFrameBytes, AudioFormat.containerBytesPerSample, hragged.pcmFormat,
      hragged.channels, hragged.microphone] at hdvd
    dsimp only at hdvd
    rw [if_neg (by decide)] at hdvd
    omega
  · intro hragged
    -- the ring of a packed format is too small only where the longest frame is
    have hlong : c.audioStackMic = false → c.txAudioFormat.pcmFormat = .s24le →
        c.txAudioFormat.channels = 1 → 91 < n := by
      intro hmicrophone hpcm hchannels
      refine Nat.lt_of_not_le fun hle => hragged ?_
      obtain ⟨hrate, hframe, hformats⟩ := hsmall.mp hle
      exact ⟨hmicrophone, hpcm, hchannels, hrate, hframe, hformats⟩
    rw [sampleFrameBytes, AudioFormat.containerBytesPerSample]
    rcases channels_of_isValid h.txAudioFormat with hchannels | hchannels <;>
      cases hpcm : c.txAudioFormat.pcmFormat <;> cases hmicrophone : c.audioStackMic <;>
      simp only [hchannels, hpcm, hmicrophone, Bool.false_eq_true, if_true, if_false, true_implies,
        reduceCtorEq, false_implies] at hlong ⊢ <;> omega

end TxAudioConfig

/-! ## One step -/

namespace MicQueue

section

variable {R : Type} {ring : RingBuffer R} {c : TxAudioConfig} {contents : R → ByteSpan}
  {q : MicQueue R} {data : ByteSpan}

/-- A write gives up what the ring has no room for, of what was in it and of the data. -/
theorem writeMicBuffer_spec (hring : ring.Lawful c.txAudioBufferBytes contents)
    (hdata : data ≠ []) :
    let dropped := (contents q.micBuffer).length + data.length - c.txAudioBufferBytes
    let q' := (q.writeMicBuffer ring c data).2
    contents q'.micBuffer = (contents q.micBuffer ++ data).drop dropped ∧
      q'.taken = q.taken + dropped ∧ q'.offered = q.offered ++ data ∧
      q'.drops = dropped :: q.drops ∧ q'.chunks = q.chunks ∧ q'.current = q.current := by
  have hbounded := hring.bounded q.micBuffer
  have hfree := hring.free q.micBuffer
  have hkept : (data.drop (data.length - c.txAudioBufferBytes)).length ≤ c.txAudioBufferBytes := by
    rw [List.length_drop]
    omega
  have hwritten := hring.written _ q.micBuffer hkept
  have hwrite := hring.write _ q.micBuffer hkept
  rw [writeMicBuffer, if_neg hdata]
  dsimp only
  rw [hwritten, if_neg (Nat.lt_irrefl _), hwrite, hfree]
  rw [List.length_drop] at hkept ⊢
  have hdropped : data.length - c.txAudioBufferBytes +
      (if c.txAudioBufferBytes - (contents q.micBuffer).length <
          data.length - (data.length - c.txAudioBufferBytes) then
        data.length - (data.length - c.txAudioBufferBytes) -
          (c.txAudioBufferBytes - (contents q.micBuffer).length) else 0) + 0 =
      (contents q.micBuffer).length + data.length - c.txAudioBufferBytes := by
    split <;> omega
  rw [hdropped]
  refine ⟨?_, rfl, rfl, rfl, rfl, rfl⟩
  rw [List.drop_append]
  congr 1
  · by_cases hlong : c.txAudioBufferBytes ≤ data.length
    · rw [List.drop_eq_nil_of_le (by omega), List.drop_eq_nil_of_le (by omega)]
    · congr 1
      omega
  · congr 1
    omega

theorem Sound.of_start (h : Fresh c contents q)
    (hchunk : c.sampleFrameBytes ∣ q.txAudioChunkBytes) :
    Sound c contents q where
  taken := by simp [h.taken]
  length := by simp [h.contents]
  chunk := hchunk
  within := by simp [h.taken]
  holds := by simp [h.contents, h.offered]
  aligned := by simp [SampleAligned, h.drops, h.chunks]

/-- A write of whole sample frames keeps the queue as it should be, where the ring is made of whole
    sample frames or has room for them. -/
theorem Sound.writeMicBuffer (h : Sound c contents q)
    (hring : ring.Lawful c.txAudioBufferBytes contents)
    (hdata : c.sampleFrameBytes ∣ data.length)
    (hroom : c.sampleFrameBytes ∣ c.txAudioBufferBytes ∨
      (contents q.micBuffer).length + data.length ≤ c.txAudioBufferBytes) :
    Sound c contents (q.writeMicBuffer ring c data).2 := by
  by_cases hnil : data = []
  · rw [MicQueue.writeMicBuffer, if_pos hnil]
    exact h
  · obtain ⟨hcontents, htaken, hoffered, hdrops, hchunks, hcurrent⟩ :=
      writeMicBuffer_spec (q := q) hring hnil
    have hwhole := Nat.dvd_add h.length hdata
    have hdropped : c.sampleFrameBytes ∣
        (contents q.micBuffer).length + data.length - c.txAudioBufferBytes := by
      rcases hroom with hsize | hfits
      · exact Nat.dvd_sub hwhole hsize
      · rw [Nat.sub_eq_zero_of_le hfits]
        exact Nat.dvd_zero _
    have hbounded := hring.bounded q.micBuffer
    have hheld := congrArg List.length h.holds
    rw [List.length_drop] at hheld
    constructor
    · rw [htaken]
      exact Nat.dvd_add h.taken hdropped
    · rw [hcontents, List.length_drop, List.length_append]
      exact Nat.dvd_sub hwhole hdropped
    · rw [txAudioChunkBytes, hcurrent]
      exact h.chunk
    · rw [htaken, hoffered, List.length_append]
      have := h.within
      omega
    · rw [hcontents, htaken, hoffered, h.holds, ← List.drop_append_of_le_length h.within,
        List.drop_drop]
    · refine ⟨?_, ?_⟩
      · rw [hdrops, List.forall_mem_cons]
        exact ⟨hdropped, h.aligned.1⟩
      · rw [hchunks]
        exact h.aligned.2

/-- The blocks of a callback are whole sample frames too. -/
theorem Sound.writeBlocks (hvalid : c.Valid) (hring : ring.Lawful c.txAudioBufferBytes contents)
    (hsize : c.sampleFrameBytes ∣ c.txAudioBufferBytes)
    (hpcm : c.txAudioFormat.pcmFormat = .s16le) (n : Nat) {data : ByteSpan} {q : MicQueue R}
    (h : Sound c contents q) (hdata : c.sampleFrameBytes ∣ data.length) :
    Sound c contents (q.writeBlocks ring c n data) := by
  induction n generalizing data q with
  | zero => exact h
  | succ n ih =>
    rw [MicQueue.writeBlocks]
    split
    · exact h
    · -- a block is the rest of the data, or as long as the longest frame
      have hblock : c.sampleFrameBytes ∣ min (data.length / 2) c.micProcessingSamples * 2 := by
        have htwo : 2 ∣ c.sampleFrameBytes := by
          rw [TxAudioConfig.sampleFrameBytes, AudioFormat.containerBytesPerSample, hpcm]
          exact Nat.dvd_mul_right ..
        have hchunk : c.sampleFrameBytes ∣ c.txAudioMaxChunkBytes := by
          rw [TxAudioConfig.txAudioMaxChunkBytes_eq hvalid]
          exact Nat.dvd_mul_left ..
        rw [TxAudioConfig.micProcessingSamples, ← Nat.mul_min_mul_right,
          Nat.div_mul_cancel (Nat.dvd_trans htwo hdata),
          Nat.div_mul_cancel (Nat.dvd_trans htwo hchunk)]
        rcases Nat.le_total data.length c.txAudioMaxChunkBytes with hle | hle
        · rwa [Nat.min_eq_left hle]
        · rwa [Nat.min_eq_right hle]
      have hshort : min (data.length / 2) c.micProcessingSamples * 2 ≤ data.length := by omega
      refine ih (h.writeMicBuffer hring ?_ (.inl hsize)) ?_
      · rwa [List.length_take, Nat.min_eq_left hshort]
      · rw [List.length_drop]
        exact Nat.dvd_sub hdata hblock

theorem offered_writeMicBuffer (data : ByteSpan) (q : MicQueue R) :
    (q.writeMicBuffer ring c data).2.offered = q.offered ++ data := by
  rw [MicQueue.writeMicBuffer]
  split
  · rename_i hnil
    rw [hnil, List.append_nil]
  · rfl

/-- The blocks are all of the callback: there are never more of them than it has bytes. -/
theorem offered_writeBlocks (hblock : 0 < c.micProcessingSamples) {n : Nat} {data : ByteSpan}
    (hn : data.length ≤ n) (heven : 2 ∣ data.length) (q : MicQueue R) :
    (q.writeBlocks ring c n data).offered = q.offered ++ data := by
  induction n generalizing data q with
  | zero =>
    rw [List.length_eq_zero_iff.mp (Nat.le_zero.mp hn), List.append_nil]
    rfl
  | succ n ih =>
    rw [MicQueue.writeBlocks]
    split
    · have hnil : data.length = 0 := by omega
      rw [List.length_eq_zero_iff.mp hnil, List.append_nil]
    · rw [ih (by rw [List.length_drop]; omega) (by rw [List.length_drop]; omega),
        offered_writeMicBuffer, List.append_assoc, List.take_append_drop]

theorem Sound.readTxChunk (h : Sound c contents q)
    (hring : ring.Lawful c.txAudioBufferBytes contents) :
    Sound c contents (q.readTxChunk ring) := by
  rw [MicQueue.readTxChunk]
  dsimp only
  split
  · exact h
  · rename_i hready
    rw [not_or, Nat.not_lt] at hready
    have havailable := hring.available q.micBuffer
    have hheld := congrArg List.length h.holds
    rw [List.length_drop] at hheld
    have hread := hring.read _ q.micBuffer hready.2
    constructor
    · exact Nat.dvd_add h.taken h.chunk
    · rw [hread, List.length_drop]
      exact Nat.dvd_sub h.length h.chunk
    · exact h.chunk
    · have := h.within
      show q.taken + q.txAudioChunkBytes ≤ q.offered.length
      omega
    · show contents (ring.read q.txAudioChunkBytes q.micBuffer).2 =
        q.offered.drop (q.taken + q.txAudioChunkBytes)
      rw [hread, h.holds, List.drop_drop]
    · refine ⟨h.aligned.1, ?_⟩
      dsimp only
      rw [List.forall_mem_cons]
      exact ⟨h.taken, h.aligned.2⟩

theorem Sound.empty (h : Sound c contents q)
    (hring : ring.Lawful c.txAudioBufferBytes contents) :
    Sound c contents (q.empty ring) where
  taken := Nat.dvd_zero _
  length := by simp [MicQueue.empty, hring.reset]
  chunk := h.chunk
  within := Nat.le_refl _
  holds := hring.reset _
  aligned := h.aligned

theorem chunk_of_admissible (hvalid : c.Valid) {format : AudioFormat}
    (h : format ∈ c.txAudioFormats ∨ format = disabledAudioFormat) :
    c.sampleFrameBytes ∣ format.nominalFrameBytes := by
  rcases h with h | rfl
  · rw [TxAudioConfig.nominalFrameBytes_eq (hvalid.pcmFormat _ h) (hvalid.channels _ h)]
    exact Nat.dvd_mul_left ..
  · exact Nat.dvd_zero _

/-- An event that the queue has room for, or that a ring of whole sample frames need not have. -/
theorem Sound.step (h : Sound c contents q) (hvalid : c.Valid)
    (hring : ring.Lawful c.txAudioBufferBytes contents) {e : Event} (he : e.Admissible c)
    (hroom : c.sampleFrameBytes ∣ c.txAudioBufferBytes ∨ Roomy c contents e q) :
    Sound c contents (step ring c e q) := by
  cases e with
  | send => exact h.readTxChunk hring
  | setInCall => exact h.empty hring
  | setCurrentTxAudioFormat format =>
    exact { h with chunk := chunk_of_admissible hvalid he }
  | microphone data processed =>
    rw [MicQueue.step, onMicrophoneData]
    cases hprocessed : processed with
    | false => exact h.writeMicBuffer hring he.1 hroom
    | true =>
      have hpcm := he.2 hprocessed
      refine h.writeBlocks hvalid hring ?_ hpcm _ he.1
      rw [TxAudioConfig.sampleFrameBytes_dvd_iff hvalid]
      intro hragged
      rw [hragged.pcmFormat] at hpcm
      cases hpcm

/-! ## Runs -/

theorem mem_drops_writeMicBuffer {dropped : Nat} (h : dropped ∈ q.drops) :
    dropped ∈ (q.writeMicBuffer ring c data).2.drops := by
  rw [writeMicBuffer]
  split
  · exact h
  · exact .tail _ h

theorem mem_drops_writeBlocks {dropped : Nat} (n : Nat) {data : ByteSpan} {q : MicQueue R}
    (h : dropped ∈ q.drops) : dropped ∈ (q.writeBlocks ring c n data).drops := by
  induction n generalizing data q with
  | zero => exact h
  | succ n ih =>
    rw [writeBlocks]
    split
    · exact h
    · exact ih (mem_drops_writeMicBuffer h)

theorem mem_drops_step {dropped : Nat} (h : dropped ∈ q.drops) (e : Event) :
    dropped ∈ (step ring c e q).drops := by
  cases e with
  | send =>
    rw [step, readTxChunk]
    dsimp only
    split <;> exact h
  | setInCall => exact h
  | setCurrentTxAudioFormat format => exact h
  | microphone data processed =>
    rw [step, onMicrophoneData]
    cases processed
    · exact mem_drops_writeMicBuffer h
    · exact mem_drops_writeBlocks _ h

/-- What has been given up is not forgotten. -/
theorem mem_drops_after {dropped : Nat} (h : dropped ∈ q.drops) (events : List Event) :
    dropped ∈ (q.after ring c events).drops := by
  induction events generalizing q with
  | nil => exact h
  | cons e events ih => exact ih (mem_drops_step h e)

/-- The first callback without room gives up a part of a sample frame, where the ring is not made of
    whole ones. -/
theorem roomy_of_aligned (hring : ring.Lawful c.txAudioBufferBytes contents)
    (hragged : c.Ragged) (hvalid : c.Valid) (h : Sound c contents q) {e : Event}
    (he : e.Admissible c)
    (hdrops : ∀ dropped ∈ (step ring c e q).drops, c.sampleFrameBytes ∣ dropped) :
    Roomy c contents e q := by
  cases e with
  | send => trivial
  | setInCall => trivial
  | setCurrentTxAudioFormat format => trivial
  | microphone data processed =>
    refine Nat.le_of_not_lt fun hfull => ?_
    have hbounded := hring.bounded q.micBuffer
    have hnil : data ≠ [] := by
      rintro rfl
      simp only [List.length_nil] at hfull
      omega
    have hprocessed : processed = false := by
      cases hprocessed : processed with
      | false => rfl
      | true =>
        have hpcm := he.2 hprocessed
        rw [hragged.pcmFormat] at hpcm
        cases hpcm
    subst hprocessed
    have hwrite := (writeMicBuffer_spec (q := q) hring hnil).2.2.2.1
    rw [step, onMicrophoneData, if_neg (by decide), hwrite] at hdrops
    have hdropped := hdrops _ (.head _)
    have hsize := Nat.dvd_sub (Nat.dvd_add h.length he.1) hdropped
    rw [Nat.sub_sub_self (Nat.le_of_lt hfull)] at hsize
    exact (TxAudioConfig.sampleFrameBytes_dvd_iff hvalid).mp hsize hragged

/-- The queue stays aligned in a run just where its ring is made of whole sample frames, or no
    callback of the run finds it too full. -/
theorem sampleAligned_iff (ring : RingBuffer R) (contents : R → ByteSpan) (hvalid : c.Valid)
    (hring : ring.Lawful c.txAudioBufferBytes contents) (hfresh : Fresh c contents q)
    (events : List Event) (hevents : ∀ e ∈ events, e.Admissible c) :
    SampleAligned c (q.after ring c events) ↔
      ¬c.Ragged ∨ EventRun.Along (step ring c) (Roomy c contents) q events := by
  have hsound := Sound.of_start hfresh (chunk_of_admissible hvalid hfresh.current)
  clear hfresh
  constructor
  · intro haligned
    by_cases hragged : c.Ragged
    · right
      induction events generalizing q with
      | nil => trivial
      | cons e events ih =>
        have hfirst := roomy_of_aligned hring hragged hvalid hsound (hevents e (.head _))
          fun dropped hdropped => haligned.1 dropped (mem_drops_after hdropped events)
        have hnext := hsound.step hvalid hring (hevents e (.head _)) (.inr hfirst)
        exact ⟨hfirst, ih (fun f hf => hevents f (.tail _ hf)) hnext haligned⟩
    · exact .inl hragged
  · intro hroom
    refine Sound.aligned (?_ : Sound c contents _)
    induction events generalizing q with
    | nil => exact hsound
    | cons e events ih =>
      have he := hevents e (.head _)
      rcases hroom with hragged | hroomy
      · have hsize := (TxAudioConfig.sampleFrameBytes_dvd_iff hvalid).mpr hragged
        exact ih (fun f hf => hevents f (.tail _ hf)) (hsound.step hvalid hring he (.inl hsize))
          (.inl hragged)
      · exact ih (fun f hf => hevents f (.tail _ hf))
          (hsound.step hvalid hring he (.inr hroomy.1)) (.inr hroomy.2)

end

/-! ## A ring of ESPHome -/

/-- A ring of so many bytes, by its contents. -/
structure Held (capacity : Nat) where
  bytes : ByteSpan
  bounded : bytes.length ≤ capacity

/-- The ring of ESPHome, on its contents. -/
def heldRing (capacity : Nat) : RingBuffer (Held capacity) where
  available r := r.bytes.length
  free r := capacity - r.bytes.length
  write data r :=
    let room := data.take capacity
    (room.length,
      { bytes := r.bytes.drop (room.length - (capacity - r.bytes.length)) ++ room
        bounded := by
          have := r.bounded
          simp only [room, List.length_append, List.length_drop, List.length_take]
          omega })
  read n r :=
    (r.bytes.take n,
      { bytes := r.bytes.drop n
        bounded := by
          have := r.bounded
          rw [List.length_drop]
          omega })
  reset _ := { bytes := [], bounded := Nat.zero_le _ }

theorem lawful_heldRing (capacity : Nat) : (heldRing capacity).Lawful capacity Held.bytes where
  bounded r := r.bounded
  available _ := rfl
  free _ := rfl
  written data r h := by
    show (data.take capacity).length = data.length
    rw [List.take_of_length_le h]
  write data r h := by
    show r.bytes.drop ((data.take capacity).length - (capacity - r.bytes.length)) ++
      data.take capacity = _
    rw [List.take_of_length_le h]
    rfl
  taken _ _ _ := rfl
  read _ _ _ := rfl
  reset _ := rfl

namespace NarrowBand

/-- Packed samples of 24 bits at 8 kHz, from an ESPHome microphone. -/
def packed : TxAudioConfig where
  txAudioFormat := { sampleRate := 8000, pcmFormat := .s24le, frameMs := 10 }

/-- The same with samples of 16 bits. -/
def narrow : TxAudioConfig where
  txAudioFormat := { sampleRate := 8000, frameMs := 10 }

/-- An empty queue. -/
def start (c : TxAudioConfig) : MicQueue (Held c.txAudioBufferBytes) where
  micBuffer := { bytes := [], bounded := Nat.zero_le _ }
  current := c.txAudioFormat

/-- So many callbacks of 10 ms, and then a chunk is sent. -/
def stalled (count size : Nat) : List Event :=
  List.replicate count (.microphone (List.replicate size 0) false) ++ [.send]

theorem valid_packed : packed.Valid := by
  constructor <;> decide

theorem valid_narrow : narrow.Valid := by
  constructor <;> decide

theorem fresh_start (c : TxAudioConfig) (h : c.txAudioFormat ∈ c.txAudioFormats) :
    Fresh c Held.bytes (start c) :=
  ⟨rfl, .inl h, rfl, rfl, rfl, rfl⟩

theorem admissible_stalled {c : TxAudioConfig} (count : Nat) {size : Nat}
    (h : c.sampleFrameBytes ∣ size) : ∀ e ∈ stalled count size, e.Admissible c := by
  intro e he
  rcases List.mem_append.mp he with he | he
  · rw [(List.mem_replicate.mp he).2]
    exact ⟨by rwa [List.length_replicate], nofun⟩
  · rw [List.mem_singleton.mp he]
    trivial

/-- The ring holds 4336 bytes, which are no whole samples of three: 224 are given up, and the chunk
    begins with the third byte of a sample. -/
theorem overflow_splits_a_sample :
    packed.Valid ∧ (∀ e ∈ stalled 19 240, e.Admissible packed) ∧
      ((start packed).after (heldRing _) packed (stalled 19 240)).drops.head? = some 224 ∧
      ((start packed).after (heldRing _) packed (stalled 19 240)).chunks.map Prod.fst = [224] ∧
      ¬SampleAligned packed ((start packed).after (heldRing _) packed (stalled 19 240)) := by
  have hdrops : ((start packed).after (heldRing _) packed (stalled 19 240)).drops.head? =
      some 224 := by decide +kernel
  refine ⟨valid_packed, admissible_stalled 19 (by decide), hdrops, by decide +kernel, fun h => ?_⟩
  exact absurd (h.1 224 (List.mem_of_head? hdrops)) (by decide)

/-- The ring of samples of 16 bits holds 4256 bytes.  It overflows too, but what it gives up and
    what is sent are whole samples. -/
theorem narrow_keeps_aligned :
    ((start narrow).after (heldRing _) narrow (stalled 27 160)).drops.head? = some 64 ∧
      SampleAligned narrow ((start narrow).after (heldRing _) narrow (stalled 27 160)) :=
  ⟨by decide +kernel, (sampleAligned_iff _ Held.bytes valid_narrow (lawful_heldRing _)
    (fresh_start narrow (by decide)) _ (admissible_stalled 27 (by decide))).mpr
    (.inl fun h => absurd h.pcmFormat (by decide))⟩

end NarrowBand

end MicQueue

end EsphomeVoip
