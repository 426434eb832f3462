import EsphomeVoip.ForStd.Bytes
import EsphomeVoip.ForStd.Search
import EsphomeVoip.SipStream

/-! # The text of SIP headers (`sip_message.cpp`)

What the writers put into a header and what the readers take out of one, as bytes.  `find(c)` is a
cut at the first occurrence of a byte. -/

namespace EsphomeVoip

namespace SipText

open SipStream (Bytes ascii isBlank isDigit toLower trimCopy)
open Search (cut)

/-! ## Bytes -/

/-- `'"'`. -/
abbrev quote : UInt8 := 34

/-- `'%'`. -/
abbrev percent : UInt8 := 37

/-- `','`. -/
abbrev comma : UInt8 := 44

/-- `':'`. -/
abbrev colon : UInt8 := 58

/-- `';'`. -/
abbrev semicolon : UInt8 := 59

/-- `'<'`. -/
abbrev left : UInt8 := 60

/-- `'='`. -/
abbrev equals : UInt8 := 61

/-- `'>'`. -/
abbrev right : UInt8 := 62

/-- `'@'`. -/
abbrev at' : UInt8 := 64

/-- `'\\'`. -/
abbrev backslash : UInt8 := 92

/-- `std::isalnum`. -/
def isAlnum (b : UInt8) : Bool := isDigit b || (65 ≤ b && b ≤ 90) || (97 ≤ b && b ≤ 122)

/-- `ch == '\r' || ch == '\n'`. -/
def isNewline (b : UInt8) : Bool := b == 13 || b == 10

/-- `byte < 0x20 || byte == 0x7F`. -/
def isControl (b : UInt8) : Bool := b < 0x20 || b == 0x7F

/-! ## The user part of a URI -/

/-- `VOIP_STACK_MAX_ROUTE_ID_LEN`. -/
def maxRouteIdLen : Nat := 64

/-- `VOIP_STACK_MAX_NAME_LEN`. -/
def maxNameLen : Nat := 64

/-- `VOIP_STACK_MAX_REASON_LEN`, the default bound of `sip_header_token`. -/
def maxReasonLen : Nat := 160

/-- `is_sip_uri_unreserved`. -/
def isSipUriUnreserved (b : UInt8) : Bool :=
  isAlnum b || b == 45 || b == 46 || b == 95 || b == 126

/-- `hex_value`, which is none for `0xFF`. -/
def hexValue (b : UInt8) : Option UInt8 :=
  if isDigit b then some (b - 48)
  else if 65 ≤ b ∧ b ≤ 70 then some (b - 65 + 10)
  else if 97 ≤ b ∧ b ≤ 102 then some (b - 97 + 10)
  else none

/-- `HEX[digit]`. -/
def hexDigit (digit : UInt8) : UInt8 := if digit < 10 then 48 + digit else 55 + digit

/-- What `sip_uri_user_encode` writes for a byte. -/
def encodeByte (b : UInt8) : Bytes :=
  if isNewline b then []
  else if isSipUriUnreserved b then [b]
  else [percent, hexDigit (b >>> 4 &&& 0x0F), hexDigit (b &&& 0x0F)]

/-- `sip_uri_user_encode`. -/
def sipUriUserEncode (raw : Bytes) : Bytes :=
  let out := raw.flatMap encodeByte
  if out = [] then ascii "voip" else out

/-- A byte that `sip_header_token` keeps. -/
def isTokenByte (b : UInt8) : Bool := isAlnum b || b == 95 || b == 45 || b == 46 || b == 32

/-- `sip_header_token`. -/
def sipHeaderToken (raw : Bytes) (maxBytes : Nat) : Bytes :=
  trimCopy ((raw.filter isTokenByte).take maxBytes)

/-- The loop of `sip_uri_user_decode`. -/
def decodeBytes : Bytes → Bytes
  | [] => []
  | b :: rest =>
    if isNewline b then decodeBytes rest
    else
      match rest with
      | h :: l :: tail =>
        match hexValue h, hexValue l with
        | some hi, some lo =>
          if b = percent then (hi <<< 4 ||| lo) :: decodeBytes tail
          else b :: decodeBytes (h :: l :: tail)
        | _, _ => b :: decodeBytes (h :: l :: tail)
      | rest => b :: decodeBytes rest

/-- `sip_uri_user_decode`. -/
def sipUriUserDecode (raw : Bytes) : Bytes := sipHeaderToken (decodeBytes raw) maxReasonLen

/-- `sip_route_id`: nothing where the text is not accepted. -/
def sipRouteId (raw : Bytes) (maxBytes : Nat) : Bytes :=
  let route := trimCopy raw
  if route = [] ∨ maxBytes < route.length then []
  else if route.any fun b =>
      isControl b || b == left || b == right || b == at' || b == quote || b == backslash then []
  else route

/-! ## Name and address -/

/-- `sip_quoted`. -/
def sipQuoted (raw : Bytes) : Bytes :=
  quote :: raw.flatMap (fun b =>
    if isNewline b then [] else if b == quote || b == backslash then [backslash, b] else [b]) ++
      [quote]

/-- `name_addr_uri`. -/
def nameAddrUri (value : Bytes) : Bytes :=
  let out := trimCopy value
  if out.any isNewline then []
  else
    match cut left out with
    | none =>
      -- a comma counts behind the first `@`
      let behind := match cut at' out with
        | none => out
        | some (_, rest) => rest
      if right ∈ out ∨ comma ∈ behind then [] else out
    | some (before, rest) =>
      match cut right rest with
      | none => []
      | some (uri, suffix) =>
        if right ∈ before ∨ uri = [] ∨ left ∈ rest ∨ right ∈ suffix then []
        else
          match trimCopy suffix with
          | [] => trimCopy uri
          | b :: _ => if b = semicolon then trimCopy uri else []

/-- `strip_angle_uri`. -/
def stripAngleUri (value : Bytes) : Bytes :=
  let out := nameAddrUri value
  let out := match Search.find (ascii ";tag=") (out.map toLower) with
    | none => out
    | some tag => out.take tag
  if (ascii "sip:").isPrefixOf (out.map toLower) then out else []

/-- `sip_name_addr`. -/
def sipNameAddr (uri displayName : Bytes) : Bytes :=
  let cleanUri := stripAngleUri uri
  if cleanUri = [] then []
  else
    let display := trimCopy displayName
    if display = [] then left :: cleanUri ++ [right]
    else if display.any isControl then []
    else sipQuoted display ++ 32 :: left :: cleanUri ++ [right]

/-- The loop over a quoted display name behind its first quote, with its variable `escaped`: the
    text up to the closing quote. -/
def unquote : Bool → Bytes → Option Bytes
  | _, [] => none
  | true, b :: rest => (unquote false rest).map (b :: ·)
  | false, b :: rest =>
    if b = backslash then unquote true rest
    else if b = quote then some []
    else (unquote false rest).map (b :: ·)

/-- `sip_display_name_from_header`. -/
def sipDisplayNameFromHeader (value : Bytes) (maxBytes : Nat) : Bytes :=
  match cut left value with
  | none => []
  | some (before, _) =>
    match trimCopy before with
    | [] => []
    | b :: rest =>
      match (if b = quote then unquote false rest else some (b :: rest)) with
      | none => []
      | some display =>
        let display := trimCopy display
        if display = [] ∨ maxBytes < display.length ∨ display.any isControl = true then []
        else display

/-- The loop of `tag_from_header` over the parameters. -/
def findTag : List Bytes → Bytes
  | [] => []
  | parameter :: parameters =>
    match cut equals (trimCopy parameter) with
    | none => findTag parameters
    | some (key, value) =>
      if (trimCopy key).map toLower = ascii "tag" then
        (trimCopy value).takeWhile (!isBlank ·)
      else findTag parameters

/-- `tag_from_header`. -/
def tagFromHeader (value : Bytes) : Bytes :=
  let rest := match cut right value with
    | none => value
    | some (_, rest) => rest
  match cut semicolon rest with
  | none => []
  | some (_, parameters) => findTag (Search.parts semicolon parameters)

/-- `sip_user_from_header`. -/
def sipUserFromHeader (value : Bytes) : Bytes :=
  let address :=
    match (cut left value).bind fun (_, rest) => cut right rest with
    | some (uri, _) => if uri ≠ [] then uri else (trimCopy value).takeWhile (· != semicolon)
    | none => (trimCopy value).takeWhile (· != semicolon)
  let uri := trimCopy address
  let uri :=
    if ((uri.take 3).map toLower = ascii "sip") ∧ uri.getD 3 0 = colon then uri.drop 4 else uri
  match cut at' uri with
  | none => []
  | some (user, _) => if user = [] then [] else sipUriUserDecode user

/-! ## The identity in an INVITE -/

/-- `std::to_string`. -/
def decimal (n : Nat) : Bytes := (Nat.toDigits 10 n).map fun c => UInt8.ofNat c.toNat

/-- `inet_ntoa_r` of an address in host order. -/
def inetNtoa (ip : UInt32) : Bytes :=
  decimal (ip >>> 24).toNat ++ 46 :: decimal (ip >>> 16 &&& 0xFF).toNat ++
    46 :: decimal (ip >>> 8 &&& 0xFF).toNat ++ 46 :: decimal (ip &&& 0xFF).toNat

/-- What `send_invite_unlocked_` writes its `From` header from: `caller_`, the address of the
    interface to the peer, `sip_port_`, `remote_sip_tcp_` and `local_tag_`. -/
structure LocalIdentity where
  route : Bytes
  name : Bytes
  localIp : UInt32
  sipPort : UInt16
  remoteSipTcp : Bool
  localTag : Bytes

/-- `local_identity_uri`. -/
def LocalIdentity.uri (i : LocalIdentity) : Bytes :=
  ascii "sip:" ++ sipUriUserEncode i.route ++ at' :: inetNtoa i.localIp ++
    colon :: decimal i.sipPort.toNat ++ ascii ";transport=" ++
      (if i.remoteSipTcp then ascii "tcp" else ascii "udp")

/-- The `From` header: `local_uri_ + ";tag=" + local_tag_`. -/
def LocalIdentity.fromHeader (i : LocalIdentity) : Bytes :=
  sipNameAddr i.uri i.name ++ ascii ";tag=" ++ i.localTag

end SipText

end EsphomeVoip
