import EsphomeVoip.Sdp.Text
import EsphomeVoip.Transport.State

/-! # Audio formats on the wire (`sip_types.h`, `rtp_audio_payloads.h`, `sip_message.cpp`)

How an audio format is named in an SDP, when a local format is taken for a remote one, and the set
of payload types that a stream may use. -/

namespace EsphomeVoip

/-- `VOIP_STACK_MAX_AUDIO_FORMATS`. -/
def voipStackMaxAudioFormats : Nat := 8

/-- The values of `PcmFormat`. -/
def PcmFormat.value : PcmFormat → Nat
  | s16le => 1
  | s24le => 2
  | s24leInS32 => 3
  | s32le => 4

/-- The values of `AudioCodec`. -/
def AudioCodec.value : AudioCodec → Nat
  | pcm => 0
  | opus => 1

namespace AudioFormat

/-- `rtp_bytes_per_sample`. -/
def rtpBytesPerSample (f : AudioFormat) : Nat :=
  if f.pcmFormat = .s24leInS32 then 3 else f.containerBytesPerSample

/-- `nominal_rtp_payload_bytes`. -/
def nominalRtpPayloadBytes (f : AudioFormat) : Nat :=
  f.nominalFrameSamples * f.channels * f.rtpBytesPerSample

end AudioFormat

/-- `pack_audio_frame_ms`. -/
def packAudioFrameMs (frameMs : Nat) : Nat :=
  if frameMs = 10 then 0 else if frameMs = 16 then 1 else if frameMs = 20 then 2 else 3

/-- `pack_audio_format`. -/
def packAudioFormat (f : AudioFormat) : Nat :=
  (f.sampleRate &&& 0xFFFF) ||| ((f.pcmFormat.value &&& 0x07) <<< 16) |||
    ((f.channels &&& 0x03) <<< 19) ||| (packAudioFrameMs f.frameMs <<< 21) |||
    (f.codec.value <<< 23)

/-- `audio_format_rtp_encoding`. -/
def audioFormatRtpEncoding (f : AudioFormat) (maxPayload : Nat) : Option String :=
  if f.codec = .opus then some "opus"
  else if maxPayload < f.nominalRtpPayloadBytes then none
  else
    match f.pcmFormat with
    | .s16le => some "L16"
    | .s24le => some "L24"
    | .s24leInS32 => some "L24"
    | .s32le => none

/-- `audio_format_rtp_clock_rate`. -/
def audioFormatRtpClockRate (f : AudioFormat) : Nat :=
  if f.codec = .opus then 48000 else f.sampleRate

/-- `audio_format_rtp_channels`. -/
def audioFormatRtpChannels (f : AudioFormat) : Nat := if f.codec = .opus then 2 else f.channels

/-- `audio_formats_share_wire_encoding`. -/
def audioFormatsShareWireEncoding (left right : AudioFormat) : Bool :=
  if left.codec ≠ right.codec ∨ left.frameMs ≠ right.frameMs then false
  else if left.codec = .opus then true
  else left.sampleRate == right.sampleRate && left.channels == right.channels &&
    left.pcmFormat == right.pcmFormat

/-- `audio_format_list_supports_rtp_ptime`. -/
def audioFormatListSupportsRtpPtime (list : AudioFormatList) (ptime maxPayload : Nat) : Bool :=
  list.any fun candidate =>
    candidate.frameMs == ptime && (audioFormatRtpEncoding candidate maxPayload).isSome

/-- `choose_common_audio_ptime`. -/
def chooseCommonAudioPtime (tx rx : AudioFormatList) (maxPayload : Nat) : Nat :=
  ([10, 16, 20, 32].find? fun ptime =>
    (tx != [] || rx != []) &&
      (tx == [] || audioFormatListSupportsRtpPtime tx ptime maxPayload) &&
      (rx == [] || audioFormatListSupportsRtpPtime rx ptime maxPayload)).getD 0

/-- `audio_format_list_match_udp_safe`. -/
def audioFormatListMatchUdpSafe (list : AudioFormatList) (remote : AudioFormat)
    (maxPayload : Nat) : Option AudioFormat :=
  if remote.codec = .pcm ∧ maxPayload < remote.nominalRtpPayloadBytes then none
  else
    match audioFormatRtpEncoding remote maxPayload with
    | none => none
    | some encoding =>
      list.find? fun candidate =>
        audioFormatsShareWireEncoding candidate remote &&
          audioFormatRtpEncoding candidate maxPayload == some encoding

/-- `audio_direction_attribute`. -/
def audioDirectionAttribute (send receive : Bool) : String :=
  if send && receive then "sendrecv"
  else if send then "sendonly"
  else if receive then "recvonly"
  else "inactive"

/-- `pcm_receive_conversion_supported`. -/
def pcmReceiveConversionSupported (source target : AudioFormat) : Bool :=
  source == target ||
    (source.codec == .pcm && target.codec == .pcm && source.pcmFormat == .s16le &&
      target.pcmFormat == .s16le && source.channels == target.channels &&
      source.frameMs == target.frameMs && source.sampleRate ≤ target.sampleRate)

/-- `decoded_pcm_format`. -/
def decodedPcmFormat (f : AudioFormat) : AudioFormat := { f with codec := .pcm }

/-- `same_decoded_audio_geometry`. -/
def sameDecodedAudioGeometry (left right : AudioFormat) : Bool :=
  left.isValid && right.isValid && decodedPcmFormat left == decodedPcmFormat right

/-- `RtpAudioPayloads::add`. -/
def RtpAudioPayloads.add (pt : Nat) (format : AudioFormat) (payloads : RtpAudioPayloads) :
    Option RtpAudioPayloads :=
  if 127 < pt ∨ format.isValid = false then none
  else
    match payloads.find? fun entry => entry.1 == pt with
    | some entry => if entry.2 = format then some payloads else none
    | none =>
      if payloads.length = voipStackMaxAudioFormats then none
      else some (payloads ++ [(pt, format)])

namespace Sdp

/-- The format that an `rtpmap` names, with the packet time that is overwritten later. -/
def rtpmapFormat (encoding : Text) (rate channels : Nat) : Option AudioFormat :=
  let candidate : Option AudioFormat :=
    if encoding = "L16".toList ∨ encoding = "l16".toList then
      some { sampleRate := rate, channels := channels, pcmFormat := .s16le, frameMs := 20 }
    else if encoding = "L24".toList ∨ encoding = "l24".toList then
      some { sampleRate := rate, channels := channels, pcmFormat := .s24le, frameMs := 20 }
    else if encoding = "opus".toList ∨ encoding = "OPUS".toList then
      if rate ≠ 48000 ∨ channels ≠ 2 then none
      else some
        { sampleRate := 48000, channels := 1, pcmFormat := .s16le, frameMs := 20, codec := .opus }
    else none
  candidate.filter AudioFormat.isValid

/-- `parse_rtpmap_format`. -/
def parseRtpmapFormat (line : Text) : Option (AudioFormat × Nat) := do
  let (_, value) ← cut ':' line
  let (number, rest) ← cut ' ' value
  let pt ← parseDecimalU32 number 127
  let (encoding, parameters) ← cut '/' (trimCopy rest)
  let (rate, channels) := match cut '/' parameters with
    | some (rate, channels) => (rate, some channels)
    | none => (parameters, none)
  let rate ← parseDecimalU32 rate 4294967295
  let channels ← match channels with
    | some channels => parseDecimalU32 channels 255
    | none => some 1
  let format ← rtpmapFormat encoding rate channels
  return (format, pt)

end Sdp

end EsphomeVoip
