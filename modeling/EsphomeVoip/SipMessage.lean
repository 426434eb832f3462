/-! # SIP messages (`sip_message.h`)

The transport reads a message through the header readers of `sip_message.cpp` and writes one by
concatenating header lines.  A message is kept here as what those readers return: one field for
every value that the transport reads back or that a peer can tell apart.  The readers'
own text handling is not part of this module. -/

namespace EsphomeVoip

/-- The host part of a URI: an address that was printed, or a text. -/
inductive SipHost where
  | ip (v4 : UInt32)
  | text (name : String)
  deriving DecidableEq, Repr

/-- A SIP URI as `strip_angle_uri`, `sip_user_from_header` and `sip_uri_ipv4_target` see it. The
    empty URI is `{}`. -/
structure SipUri where
  user : String := ""
  host : SipHost := .text ""
  port : UInt16 := 0
  params : String := ""
  /-- `sip_uri_ipv4_target`. -/
  target : Option (UInt32 × UInt16) := none
  deriving DecidableEq, Repr

/-- The value of a `From`, `To` or `Contact` header. -/
structure NameAddr where
  uri : SipUri := {}
  displayName : String := ""
  /-- `tag_from_header`. -/
  tag : String := ""
  deriving DecidableEq, Repr

/-- One `Via` header line. -/
structure Via where
  text : String := ""
  /-- `via_branch`, when the line has one. -/
  branch : Option String := none
  rport : Bool := false
  /-- What `response_via_with_rport` filled in. -/
  received : Option (UInt32 × UInt16) := none
  deriving DecidableEq, Repr

/-- `via_branch` of some lines: the first branch parameter in them. -/
def viaBranch (vias : List Via) : String := (vias.findSome? Via.branch).getD ""

/-- `response_via_with_rport`: an `rport` on the topmost line is filled in. -/
def responseViaWithRport (vias : List Via) (ip : UInt32) (port : UInt16) : List Via :=
  match vias with
  | [] => []
  | top :: rest => (if top.rport then { top with received := some (ip, port) } else top) :: rest

theorem viaBranch_responseViaWithRport (vias : List Via) (ip : UInt32) (port : UInt16) :
    viaBranch (responseViaWithRport vias ip port) = viaBranch vias := by
  cases vias with
  | nil => rfl
  | cons top rest =>
    have hb : (if top.rport then { top with received := some (ip, port) } else top).branch =
        top.branch := by
      split <;> rfl
    simp only [responseViaWithRport, viaBranch, List.findSome?_cons, hb]

/-- The method of a request. -/
inductive Method where
  | invite
  | ack
  | cancel
  | bye
  | options
  | update
  | refer
  | notify
  | register
  | other (name : String)
  deriving DecidableEq, Repr

/-- `sip_method_known_`. -/
def sipMethodKnown : Method → Bool
  | .invite | .ack | .cancel | .bye | .options | .register | .update => true
  | .refer | .notify | .other _ => false

/-- The value of a `CSeq` header: `cseq_number` and `cseq_method`. -/
structure CSeq where
  number : UInt32 := 0
  method : Method := .other ""
  deriving DecidableEq, Repr

/-- `SipIdentity`. -/
structure SipIdentity where
  route : String := ""
  name : String := ""
  deriving DecidableEq, Repr

/-- The `Refer-To` header of a request, in its full or its compact form. -/
structure ReferTo where
  /-- Both forms are present, or one of them more than once. -/
  ambiguous : Bool := false
  uri : SipUri := {}
  /-- A `sip:` URI without headers whose parameters `handle_refer_` accepts. -/
  supported : Bool := false
  /-- `transport=tcp`. -/
  tcp : Bool := false
  deriving DecidableEq, Repr

/-- The `Event` and `Subscription-State` headers of a NOTIFY. -/
structure Subscription where
  referCseq : UInt32
  terminated : Bool
  deriving DecidableEq, Repr

/-- The first line of a message. -/
inductive StartLine where
  | request (method : Method) (uri : SipUri)
  | response (status : Nat) (phrase : String)
  deriving DecidableEq, Repr

/-- A SIP message. An absent text header reads as the empty string, as in the source. -/
structure SipMessage where
  start : StartLine
  via : List Via := []
  fromAddr : Option NameAddr := none
  toAddr : Option NameAddr := none
  callId : String := ""
  cseq : Option CSeq := none
  contact : Option NameAddr := none
  /-- `Supported` lists `from-change`. -/
  supportsFromChange : Bool := false
  /-- The `X-Voip-Stack-Caller-*` and `X-Voip-Stack-Dest-*` headers. -/
  xCaller : SipIdentity := {}
  xDest : SipIdentity := {}
  /-- `X-Voip-Stack-Decline-Reason`. -/
  declineReason : String := ""
  /-- `reason_text_from_header` of `Reason`. -/
  reasonText : String := ""
  retryAfter : Option UInt32 := none
  referTo : ReferTo := {}
  subscription : Option Subscription := none
  /-- The media type of `Content-Type` in lower case, without parameters. -/
  contentType : String := ""
  /-- `message_body`. -/
  body : String := ""
  /-- The framing check of `handle_sip_datagram_unlocked_` passes. -/
  framed : Bool := true
  /-- The framing check of the two replay functions passes. -/
  replayFramed : Bool := true
  deriving DecidableEq, Repr

namespace SipMessage

/-- The message is a response. -/
def isResponse (m : SipMessage) : Bool :=
  match m.start with
  | .request .. => false
  | .response .. => true

/-- The method on the request line. -/
def method (m : SipMessage) : Method :=
  match m.start with
  | .request method _ => method
  | .response .. => .other ""

/-- The status of a response, 0 for a request. -/
def status (m : SipMessage) : Nat :=
  match m.start with
  | .request .. => 0
  | .response status _ => status

/-- `sip_request_uri`. -/
def requestUri (m : SipMessage) : SipUri :=
  match m.start with
  | .request _ uri => uri
  | .response .. => {}

/-- `cseq_number` of the `CSeq` header. -/
def cseqNumber (m : SipMessage) : UInt32 := (m.cseq.getD {}).number

/-- `cseq_method` of the `CSeq` header. -/
def cseqMethod (m : SipMessage) : Method := (m.cseq.getD {}).method

/-- `tag_from_header` of `From`. -/
def fromTag (m : SipMessage) : String := (m.fromAddr.getD {}).tag

/-- `tag_from_header` of `To`. -/
def toTag (m : SipMessage) : String := (m.toAddr.getD {}).tag

/-- `via_branch(header_value(…, "Via"))`: the branch of the topmost line. -/
def topBranch (m : SipMessage) : String := viaBranch (m.via.take 1)

/-- `strip_angle_uri` of `Contact`. -/
def contactUri (m : SipMessage) : SipUri := (m.contact.getD {}).uri

end SipMessage

/-- `sip_failure_reason_`. -/
def sipFailureReason (status : Nat) : String :=
  if status = 401 then "auth_required_unsupported"
  else if status = 407 then "proxy_auth_required_unsupported"
  else if status = 486 then "busy"
  else if status = 487 then "cancelled"
  else if status = 488 then "media_incompatible"
  else if status = 603 then "declined"
  else "sip_" ++ toString status

/-- Where a message came from. -/
structure Peer where
  ip : UInt32
  port : UInt16
  deriving DecidableEq, Repr

end EsphomeVoip
