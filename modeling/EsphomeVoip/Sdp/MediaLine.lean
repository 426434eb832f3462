import Mathlib.Algebra.GroupWithZero.Nat
import EsphomeVoip.Sdp.Text
import EsphomeVoip.Transport.State

/-! # Media lines (`sip_message.cpp`, `sip_sdp.cpp`)

What is read from an `m=` line, and the memory of the `m=` lines of an offer that the answer has to
repeat. -/

namespace EsphomeVoip

namespace Sdp

/-! ## Reading -/

/-- The common part of `parse_audio_media_line` and `parse_video_media_line`: the port and the
    payload types of an `RTP/AVP` line of that kind. -/
def parseMediaLine (kind : String) (line : Text) : Option (Nat × List Nat) :=
  if startsWith line kind = false then none
  else
    match fields (trimCopy (line.drop kind.toList.length)) with
    | port :: protocol :: payloads =>
      if protocol ≠ "RTP/AVP".toList then none
      else
        match parseDecimalU32 port 65535, payloads.mapM fun p => parseDecimalU32 p 127 with
        | some port, some pts => if pts = [] then none else some (port, pts)
        | _, _ => none
    | _ => none

/-- `parse_audio_media_line`, which refuses a disabled stream. -/
def parseAudioMediaLine (line : Text) : Option (Nat × List Nat) :=
  (parseMediaLine "m=audio " line).filter fun m => m.1 != 0

/-- `parse_video_media_line`, which has room for 128 payload types. -/
def parseVideoMediaLine (line : Text) : Option (Nat × List Nat) :=
  (parseMediaLine "m=video " line).filter fun m => m.2.length ≤ 128

/-! ## The media lines of an offer -/

/-- `kMaxSdpMediaLines`. -/
def kMaxSdpMediaLines : Nat := 8

/-- `RemoteMediaShape::append`. -/
def RemoteMediaShape.append (line : Text) (shape : RemoteMediaShape) : Bool × RemoteMediaShape :=
  if kMaxSdpMediaLines ≤ shape.lines.length ∨
      65535 < (shape.lines.map String.length).sum + line.length then
    (false, { shape with overflow := true })
  else (true, { shape with lines := shape.lines ++ [String.ofList line] })

/-- One round of the loop of `capture_remote_media_shape_`.  `video` says that the build has
    video. -/
def captureLine (video : Bool) (shape : RemoteMediaShape) (line : Text) : RemoteMediaShape :=
  if startsWith line "m=" then
    let index := shape.lines.length
    match RemoteMediaShape.append line shape with
    | (true, shape) =>
      { shape with
        audioIndex := if shape.audioIndex.isNone && (parseAudioMediaLine line).isSome
          then some index else shape.audioIndex
        videoIndex := if video && shape.videoIndex.isNone && (parseVideoMediaLine line).isSome
          then some index else shape.videoIndex }
    | (false, shape) => shape
  else shape

/-- `capture_remote_media_shape_`. -/
def captureRemoteMediaShape (video : Bool) (sdp : Text) : RemoteMediaShape :=
  (sdpLines sdp).foldl (captureLine video) {}

/-- `rejected_media_answer_`: the line with port zero. -/
def rejectedMediaAnswer (mediaLine : Text) : Text :=
  if startsWith mediaLine "m=" = false then []
  else
    match Search.find [' '] mediaLine with
    | none => []
    | some portStart =>
      match (mediaLine.drop (portStart + 1)).findIdx? isSpace with
      | none => []
      | some port =>
        mediaLine.take (portStart + 1) ++ "0".toList ++ mediaLine.drop (portStart + 1 + port) ++
          "\r\na=inactive\r\n".toList

end Sdp

end EsphomeVoip
