/-! # Phonebook (`phonebook.h`)

The contact list as the call state machine reads it: the selected contact and lookup by
name or route. -/

namespace EsphomeVoip

/-- `ContactEndpointType`. -/
inductive ContactEndpointType where
  | unknown
  | sip
  deriving DecidableEq, Repr

/-- `ContactEntry`, one phonebook slot. -/
structure ContactEntry where
  name : String := ""
  route : String := ""
  ip : String := ""
  endpointType : ContactEndpointType := .unknown
  port : UInt16 := 0
  rtpPort : UInt16 := 0
  sipTransportTcp : Bool := false
  directionalAudioV1 : Bool := false
  audioCapability : String := ""
  missingCount : UInt8 := 0
  deriving DecidableEq, Repr

/-- `Phonebook`: slots in stable order and the cursor. -/
structure Phonebook where
  entries : List ContactEntry := []
  index : Nat := 0
  deriving DecidableEq, Repr

namespace Phonebook

/-- `current`. -/
def current (p : Phonebook) : Option ContactEntry :=
  if p.entries.isEmpty then none else p.entries[p.index % p.entries.length]?

/-- `find`: the first slot whose name or route matches. -/
def find (p : Phonebook) (name : String) : Option ContactEntry :=
  p.entries.find? fun e => e.name == name || e.route == name

/-- `select`: move the cursor to the named contact, `none` when it is not present. -/
def select (p : Phonebook) (name : String) : Option Phonebook :=
  (p.entries.findIdx? fun e => e.name == name || e.route == name).map
    fun i => { p with index := i }

/-- `next`. -/
def next (p : Phonebook) : Phonebook :=
  if p.entries.isEmpty then p else { p with index := (p.index + 1) % p.entries.length }

/-- `prev`. -/
def prev (p : Phonebook) : Phonebook :=
  if p.entries.isEmpty then p
  else { p with index := (p.index + p.entries.length - 1) % p.entries.length }

/-- `current_name`. -/
def currentName (p : Phonebook) : String := (p.current.map (·.name)).getD ""

/-- `current_route`. -/
def currentRoute (p : Phonebook) : String := (p.current.map (·.route)).getD ""

end Phonebook

end EsphomeVoip
