import EsphomeVoip.ForStd.Search
import EsphomeVoip.Phonebook.Contacts

/-! # Rows of the phonebook (`phonebook.h`)

A contact is one row of a comma separated text, and its fields are separated by bars.  A row has
one field (a name), five (name, address, two ports, transport), six (with a route behind the name)
or eight (with an audio capability before two fields that are not read). -/

namespace EsphomeVoip

namespace Phonebook

/-- The blanks that `trim_` removes. -/
def isTrimmed (c : Char) : Bool := c == ' ' || c == '\t'

/-- `trim_`. -/
def trim (raw : List Char) : List Char := Search.strip isTrimmed raw

/-- `split_`, which stops after `MAX_CONTACTS` parts. -/
def split (s : List Char) (sep : Char) : List (List Char) := (Search.parts sep s).take maxContacts

/-- The characters that `strtoul` skips. -/
def isSpaceChar (c : Char) : Bool :=
  c == ' ' || c == '\t' || c == '\n' || c == Char.ofNat 11 || c == Char.ofNat 12 || c == '\r'

/-- `strtoul` in base ten with an `unsigned long` of 32 bits: the value, whether it fits, and what
    is behind the digits.  Without digits there is no value. -/
def strtoul (s : List Char) : Option (Nat × Bool × List Char) :=
  let s := s.dropWhile isSpaceChar
  let (negative, s) := match s with
    | '-' :: rest => (true, rest)
    | '+' :: rest => (false, rest)
    | _ => (false, s)
  let digits := s.takeWhile Char.isDigit
  if digits = [] then none
  else
    let magnitude := Nat.ofDigitChars 10 digits 0
    some (if negative then (4294967296 - magnitude) % 4294967296 else magnitude,
      decide (magnitude < 4294967296), s.dropWhile Char.isDigit)

/-- `parse_u16_`.  `c_str()` ends at the first character zero. -/
def parseU16 (s : List Char) : Option UInt16 :=
  if s = [] then none
  else
    match strtoul (s.takeWhile (· != Char.ofNat 0)) with
    | some (value, true, []) => if value ≤ 65535 then some (.ofNat value) else none
    | _ => none

/-- The transport of a row. -/
def parseTransport (transport : List Char) : Option Bool :=
  if transport = "sip_tcp".toList ∨ transport = "SIP_TCP".toList then some true
  else if transport = "sip_udp".toList ∨ transport = "SIP_UDP".toList then some false
  else none

/-- The endpoint of a row, from the parts that hold it. -/
def parseEndpoint (route ip port rtpPort transport capability : List Char) (c : ContactEntry) :
    Option ContactEntry :=
  let ip := trim ip
  if ip = [] then none
  else
    match parseU16 (trim port), parseU16 (trim rtpPort), parseTransport (trim transport) with
    | some port, some rtpPort, some tcp =>
      some { c with
        endpointType := .sip
        route := String.ofList route
        ip := String.ofList ip
        port := port
        rtpPort := rtpPort
        sipTransportTcp := tcp
        audioCapability := String.ofList capability }
    | _, _, _ => none

/-- `parse_short_entry_`, of the parts behind the name. -/
def parseShortEntry (c : ContactEntry) : List (List Char) → Option ContactEntry
  | [] => some c
  | [ip, port, rtpPort, transport] =>
    parseEndpoint c.route.toList ip port rtpPort transport [] c
  | [route, ip, port, rtpPort, transport] =>
    parseEndpoint (trim route) ip port rtpPort transport [] c
  | [ip, port, rtpPort, capability, _, _, transport] =>
    parseEndpoint c.route.toList ip port rtpPort transport (trim capability) c
  | _ => none

/-- `parse_entry_`. -/
def parseEntry (raw : List Char) : Option ContactEntry :=
  let s := trim raw
  if s = [] then none
  else
    match split s '|' with
    | [] => none
    | name :: parts =>
      let name := String.ofList (trim name)
      if name = "" then none
      else (parseShortEntry { name, route := name } parts).filter validEntry

/-- `add_one`. -/
def addOne (selfName : String) (entry : List Char) (p : Phonebook) : AddResult × Phonebook :=
  match parseEntry entry with
  | none => (.rejected, p)
  | some incoming => addEntry selfName incoming p

/-- Whether a result stands for a change. -/
def AddResult.changed : AddResult → Bool
  | .added | .upgraded | .endpointReplaced => true
  | .noop | .rejected => false

/-- `add_batch`, which looks at `MAX_CONTACTS` rows. -/
def addBatch (selfName : String) (csv : List Char) (p : Phonebook) : Bool × Phonebook :=
  (split csv ',').foldl (fun result row =>
    let added := addOne selfName row result.2
    (result.1 || AddResult.changed added.1, added.2)) (false, p)

end Phonebook

end EsphomeVoip
