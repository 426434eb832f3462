/-! # Audio formats (`sip_types.h`)

PCM and Opus stream geometry, the bounded lists an endpoint advertises, and the
selection functions that offer/answer and the call state machine share.

Sizes are `Nat`: every product of the source is taken in 64 bits from 32- and
16-bit factors and cannot wrap. -/

namespace EsphomeVoip

/-- `PcmFormat`. -/
inductive PcmFormat where
  | s16le
  | s24le
  | s24leInS32
  | s32le
  deriving DecidableEq, Repr

/-- `AudioCodec`. -/
inductive AudioCodec where
  | pcm
  | opus
  deriving DecidableEq, Repr

/-- `AudioFormat`, with the source's member initialisers. -/
structure AudioFormat where
  sampleRate : Nat := 16000
  pcmFormat : PcmFormat := .s16le
  channels : Nat := 1
  frameMs : Nat := 16
  codec : AudioCodec := .pcm
  deriving DecidableEq, Repr

namespace AudioFormat

/-- Bytes one sample occupies in memory. -/
def containerBytesPerSample (f : AudioFormat) : Nat :=
  match f.pcmFormat with
  | .s16le => 2
  | .s24le => 3
  | .s24leInS32 => 4
  | .s32le => 4

/-- Samples per channel in one frame. -/
def nominalFrameSamples (f : AudioFormat) : Nat := f.sampleRate * f.frameMs / 1000

/-- Bytes of one frame in memory. -/
def nominalFrameBytes (f : AudioFormat) : Nat :=
  f.nominalFrameSamples * f.channels * f.containerBytesPerSample

/-- `is_valid`: a direction with an invalid format carries no stream. -/
def isValid (f : AudioFormat) : Bool :=
  let validRate := f.sampleRate == 8000 || f.sampleRate == 12000 || f.sampleRate == 16000 ||
    f.sampleRate == 24000 || f.sampleRate == 32000 || f.sampleRate == 44100 ||
    f.sampleRate == 48000
  let validChannels := f.channels == 1 || f.channels == 2
  let validFrame := f.frameMs == 10 || f.frameMs == 16 || f.frameMs == 20 || f.frameMs == 32
  let wholeFrames := f.sampleRate * f.frameMs % 1000 == 0
  let validOpusRate := f.sampleRate == 8000 || f.sampleRate == 12000 || f.sampleRate == 16000 ||
    f.sampleRate == 24000 || f.sampleRate == 48000
  let validCodec := f.codec == .pcm ||
    (f.codec == .opus && validOpusRate && f.pcmFormat == .s16le && f.channels == 1 &&
      (f.frameMs == 10 || f.frameMs == 20))
  validRate && validChannels && validFrame && wholeFrames && validCodec &&
    f.containerBytesPerSample != 0

end AudioFormat

/-- The format of an absent or unnegotiated direction. -/
def disabledAudioFormat : AudioFormat := { sampleRate := 0, channels := 0, frameMs := 0 }

/-- `DEFAULT_AUDIO_FORMAT`. -/
def defaultAudioFormat : AudioFormat := {}

@[simp] theorem isValid_disabledAudioFormat : disabledAudioFormat.isValid = false := by decide

/-- `AudioFormatList`: the first `count` formats of the source's array. -/
abbrev AudioFormatList := List AudioFormat

/-- `audio_format_list_contains`. -/
def audioFormatListContains (list : AudioFormatList) (format : AudioFormat) : Bool :=
  list.any (· == format)

/-- `choose_common_audio_format`: the first preferred format that is supported. -/
def chooseCommonAudioFormat (preferred supported : AudioFormatList) : Option AudioFormat :=
  preferred.find? (audioFormatListContains supported)

theorem audioFormatListContains_iff (list : AudioFormatList) (f : AudioFormat) :
    audioFormatListContains list f = true ↔ f ∈ list := by
  simp [audioFormatListContains]

/-- A commonly chosen format is one of the supported ones. -/
theorem chooseCommonAudioFormat_mem_supported {preferred supported : AudioFormatList}
    {f : AudioFormat} (h : chooseCommonAudioFormat preferred supported = some f) :
    f ∈ supported := by
  have hc : audioFormatListContains supported f = true := List.find?_some h
  exact (audioFormatListContains_iff supported f).1 hc

/-- A commonly chosen format is one of the preferred ones. -/
theorem chooseCommonAudioFormat_mem_preferred {preferred supported : AudioFormatList}
    {f : AudioFormat} (h : chooseCommonAudioFormat preferred supported = some f) :
    f ∈ preferred :=
  List.mem_of_find?_eq_some h

end EsphomeVoip
