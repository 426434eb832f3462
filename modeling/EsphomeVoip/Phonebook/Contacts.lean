import EsphomeVoip.ForStd.FirstMatch
import EsphomeVoip.Phonebook

/-! # Changing the phonebook (`phonebook.h`)

A character of a text stands for a byte, as `size()` counts them. -/

namespace EsphomeVoip

/-- `AddResult`. -/
inductive AddResult where
  | noop
  | added
  | upgraded
  | endpointReplaced
  | rejected
  deriving DecidableEq, Repr

namespace Phonebook

/-- `MAX_CONTACTS`. -/
def maxContacts : Nat := 64

/-- `MAX_NAME_BYTES`. -/
def maxNameBytes : Nat := 64

/-- `MAX_ROUTE_BYTES`. -/
def maxRouteBytes : Nat := 96

/-- `MAX_ADDRESS_BYTES`. -/
def maxAddressBytes : Nat := 64

/-- `MAX_CAPABILITY_BYTES`. -/
def maxCapabilityBytes : Nat := 160

/-- A character that no field may hold. -/
def invalidTextChar (rejectListDelimiters : Bool) (ch : Char) : Bool :=
  ch.toNat < 0x20 || ch.toNat == 0x7F || ch == '|' ||
    (rejectListDelimiters && (ch == ',' || ch == ';'))

/-- `valid_text_field_`. -/
def validTextField (value : String) (maxBytes : Nat) (rejectListDelimiters : Bool) : Bool :=
  decide (value.length ≤ maxBytes) && !value.toList.any (invalidTextChar rejectListDelimiters)

/-- `valid_entry_`. -/
def validEntry (entry : ContactEntry) : Bool :=
  if entry.name = "" ∨ entry.route = "" ∨ validTextField entry.name maxNameBytes true = false ∨
      validTextField entry.route maxRouteBytes true = false ∨
      validTextField entry.ip maxAddressBytes true = false ∨
      validTextField entry.audioCapability maxCapabilityBytes true = false then
    false
  else
    match entry.endpointType with
    | .sip => entry.ip != "" && entry.port != 0
    | .unknown => entry.ip == "" && entry.port == 0 && entry.rtpPort == 0

/-- The entry has no endpoint. -/
def unset (entry : ContactEntry) : Bool :=
  entry.ip == "" && entry.port == 0 && entry.rtpPort == 0

/-- What `merge_` writes into a slot: all but the route and the counter. -/
def overwrite (incoming existing : ContactEntry) : ContactEntry :=
  { incoming with route := existing.route, missingCount := existing.missingCount }

/-- `merge_`. -/
def merge (incoming : ContactEntry) (p : Phonebook) : AddResult × Phonebook :=
  if validEntry incoming = false then (.rejected, p)
  else
    match p.entries.find? fun existing => existing.route == incoming.route with
    | some existing =>
      if unset incoming then (.noop, p)
      else if existing = overwrite incoming existing then (.noop, p)
      else
        let entries := FirstMatch.modifyFirst (fun existing => existing.route == incoming.route)
          (overwrite incoming) p.entries
        (if unset existing then .upgraded else .endpointReplaced, { p with entries })
    | none =>
      if maxContacts ≤ p.entries.length then (.rejected, p)
      else (.added, { p with entries := p.entries ++ [incoming] })

/-- The entry is named like the device. -/
def isSelf (selfName : String) (entry : ContactEntry) : Bool :=
  selfName != "" && entry.name == selfName

/-- `add_entry`. -/
def addEntry (selfName : String) (entry : ContactEntry) (p : Phonebook) : AddResult × Phonebook :=
  if isSelf selfName entry then (.rejected, p) else merge entry p

/-- One round of the loop of `replace_all`. -/
def normalizeEntry (selfName : String) (normalized : List ContactEntry) (entry : ContactEntry) :
    List ContactEntry :=
  if maxContacts ≤ normalized.length then normalized
  else if validEntry entry = false ∨ isSelf selfName entry = true then normalized
  else
    let entry := { entry with missingCount := 0 }
    if normalized.any fun existing => existing.route == entry.route then
      FirstMatch.modifyFirst (fun existing => existing.route == entry.route) (fun _ => entry)
        normalized
    else normalized ++ [entry]

/-- `same_entry_`, which leaves the counter out. -/
def sameEntry (a b : ContactEntry) : Bool :=
  decide ({ a with missingCount := 0 } = { b with missingCount := 0 })

/-- `same_entries_`. -/
def sameEntries (a b : List ContactEntry) : Bool :=
  a.length == b.length && (a.zip b).all fun pair => sameEntry pair.1 pair.2

/-- `replace_all`. -/
def replaceAll (selfName : String) (entries : List ContactEntry) (p : Phonebook) :
    Bool × Phonebook :=
  let selected := p.currentName
  let selectedRoute := p.currentRoute
  let normalized := entries.foldl (normalizeEntry selfName) []
  let changed := !sameEntries p.entries normalized
  let start : Phonebook := { entries := normalized, index := 0 }
  if selectedRoute = "" then (changed, start)
  else
    match start.select selectedRoute with
    | some q => (changed, q)
    | none => (changed, if selected = "" then start else (start.select selected).getD start)

/-- `clear`. -/
def clear (_ : Phonebook) : Phonebook := {}

/-- `remove_one`. -/
def removeOne (name : String) (p : Phonebook) : Bool × Phonebook :=
  match p.entries.findIdx? fun entry => entry.name == name with
  | none => (false, p)
  | some i =>
    let entries := p.entries.eraseIdx i
    (true,
      { entries
        index :=
          if entries = [] then 0
          else if i < p.index then p.index - 1
          else if i = p.index ∧ entries.length ≤ p.index then 0
          else p.index })

/-- The counter after an update cycle. -/
def countCycle (seen : List String) (entry : ContactEntry) : ContactEntry :=
  if seen.contains entry.name then { entry with missingCount := 0 }
  else if entry.missingCount < 255 then { entry with missingCount := entry.missingCount + 1 }
  else entry

/-- The loop that removes names. -/
def removeNames (names : List String) (p : Phonebook) : Bool × Phonebook :=
  names.foldl (fun result name =>
    let removed := result.2.removeOne name
    (result.1 || removed.1, removed.2)) (false, p)

/-- `commit_cycle`. -/
def commitCycle (seen : List String) (threshold : UInt8) (p : Phonebook) : Bool × Phonebook :=
  let p := { p with entries := p.entries.map (countCycle seen) }
  if threshold = 0 then (false, p)
  else
    removeNames ((p.entries.filter fun entry => threshold ≤ entry.missingCount).map (·.name)) p

end Phonebook

end EsphomeVoip
