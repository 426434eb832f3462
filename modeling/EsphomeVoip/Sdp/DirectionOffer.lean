import EsphomeVoip.Sdp.Video

/-! # The offer that changes the direction of video (`build_video_direction_offer_`)

The confirmed SDP is edited as a text: another version in its `o=` line, another direction in its
video section. -/

namespace EsphomeVoip

namespace Sdp

/-- `std::string::replace`. -/
def replace (s : Text) (pos len : Nat) (part : Text) : Text :=
  s.take pos ++ part ++ s.drop (pos + len)

/-- The direction attribute that is asked for. -/
def requestedDirection (enabled receive : Bool) : Text :=
  "a=".toList ++ (videoDirection enabled receive).toList

/-- The part that replaces the `o=` line. -/
def replaceOrigin (c : SdpContext) (sessionVersion : UInt32) (offer : Text) : Option Text := do
  let origin ← Search.find "o=- ".toList offer
  let originEnd ← Search.findFrom "\r\n".toList offer origin
  let network ← Search.findFrom " IN IP4 ".toList offer origin
  if originEnd ≤ network then none
  else
    return replace offer origin (originEnd - origin)
      ("o=- ".toList ++ decimal c.sdpSessionId.toNat ++ " ".toList ++
        decimal sessionVersion.toNat ++ (offer.drop network).take (originEnd - network))

/-- The first direction attribute, in the order in which they are tried, of the part of the text
    between the two places. -/
def findDirection (offer : Text) (start stop : Nat) : Option (Nat × Nat) :=
  ["a=sendrecv", "a=sendonly", "a=recvonly", "a=inactive"].findSome? fun candidate =>
    ((Search.findFrom candidate.toList offer start).filter fun found => found < stop).map
      fun found => (found, candidate.toList.length)

/-- The part that replaces the direction of the video section. -/
def replaceDirection (direction offer : Text) : Option Text := do
  let video ← Search.find "m=video ".toList offer
  let videoLineEnd ← Search.findFrom "\r\n".toList offer video
  if startsWith (offer.drop video) "m=video 0" then none
  else
    let videoEnd := (Search.findFrom "\r\nm=".toList offer videoLineEnd).getD offer.length
    match findDirection offer videoLineEnd videoEnd with
    | some (pos, len) => return replace offer pos len direction
    | none =>
      if videoEnd = offer.length ∧ "\r\n".toList <:+ offer then
        return offer ++ direction ++ "\r\n".toList
      else return replace offer videoEnd 0 ("\r\n".toList ++ direction)

/-- `build_video_direction_offer_`.  No text stands for the failure. -/
def buildVideoDirectionOffer (c : SdpContext) (confirmedLocalSdp : Text) (enabled : Bool)
    (sessionVersion : UInt32) : Text :=
  if confirmedLocalSdp = [] then []
  else
    let direction := requestedDirection enabled c.video.receiveEnabled
    ((replaceOrigin c sessionVersion confirmedLocalSdp).bind (replaceDirection direction)).getD []

end Sdp

end EsphomeVoip
