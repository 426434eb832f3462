import EsphomeVoip.Phonebook.Pruning

/-! # Normalising a phonebook (`voip_settings.cpp`)

A phonebook text is read into contacts and written again before it is added.  The rows that are
written have five or six fields, or the name alone, so they say the same as the rows that were read
but for the audio capability of a row of eight fields. -/

namespace EsphomeVoip

namespace Phonebook

/-- The name of a transport. -/
def transportName (sipTransportTcp : Bool) : List Char :=
  if sipTransportTcp then "sip_tcp".toList else "sip_udp".toList

/-- `serialize_endpoint`. -/
def serializeEndpoint (name route : List Char) (endpointType : ContactEndpointType)
    (ip : List Char) (port rtpPort : UInt16) (sipTransportTcp : Bool) : List Char :=
  if name = [] then []
  else if ip = [] ∨ port = 0 then name
  else if endpointType = .sip then
    (if route = [] ∨ route = name then name else name ++ '|' :: route) ++ '|' :: ip ++
      '|' :: Nat.toDigits 10 port.toNat ++ '|' :: Nat.toDigits 10 rtpPort.toNat ++
      '|' :: transportName sipTransportTcp
  else name

/-- `append_csv`. -/
def appendCsv (out entry : List Char) : List Char :=
  if entry = [] then out else if out = [] then entry else out ++ ',' :: entry

/-- The row that is written for a contact. -/
def serializeRow (entry : ContactEntry) : List Char :=
  if entry.endpointType = .sip then
    serializeEndpoint entry.name.toList entry.route.toList entry.endpointType entry.ip.toList
      entry.port entry.rtpPort entry.sipTransportTcp
  else entry.name.toList

/-- The contacts of a phonebook text. -/
def slots (csv : List Char) : List ContactEntry := (split csv ',').filterMap parseEntry

/-- `normalize_phonebook_for_transport_`. -/
def normalizePhonebook (csv : List Char) : List Char :=
  if slots csv = [] then csv
  else (slots csv).foldl (fun out entry => appendCsv out (serializeRow entry)) []

/-! ## Rows that are read again -/

/-- A valid field has no separators. -/
theorem not_mem_of_validTextField {value : String} {maxBytes : Nat}
    (h : validTextField value maxBytes true = true) :
    '|' ∉ value.toList ∧ ',' ∉ value.toList := by
  rw [validTextField, Bool.and_eq_true, Bool.not_eq_true', List.any_eq_false] at h
  exact ⟨fun hmem => h.2 _ hmem (by decide), fun hmem => h.2 _ hmem (by decide)⟩

/-- The fields of a valid contact have no separators. -/
theorem fields_of_validEntry {entry : ContactEntry} (h : validEntry entry = true) :
    entry.name ≠ "" ∧ entry.route ≠ "" ∧
      ('|' ∉ entry.name.toList ∧ ',' ∉ entry.name.toList) ∧
      ('|' ∉ entry.route.toList ∧ ',' ∉ entry.route.toList) ∧
      ('|' ∉ entry.ip.toList ∧ ',' ∉ entry.ip.toList) := by
  rw [validEntry] at h
  split at h
  · cases h
  · rename_i hok
    simp only [not_or, Bool.not_eq_false] at hok
    exact ⟨hok.1, hok.2.1, not_mem_of_validTextField hok.2.2.1,
      not_mem_of_validTextField hok.2.2.2.1, not_mem_of_validTextField hok.2.2.2.2.1⟩

/-- What a row is read as. -/
structure Parsed (entry : ContactEntry) : Prop where
  valid : validEntry entry = true
  name : Search.Stripped isTrimmed entry.name.toList
  route : Search.Stripped isTrimmed entry.route.toList
  ip : Search.Stripped isTrimmed entry.ip.toList
  unknown : entry.endpointType = .unknown → entry = { name := entry.name, route := entry.name }
  sip : entry.endpointType = .sip → entry.directionalAudioV1 = false ∧ entry.missingCount = 0

/-- What an endpoint is read as. -/
theorem parseEndpoint_eq {route ip port rtpPort transport capability : List Char}
    {c entry : ContactEntry}
    (h : parseEndpoint route ip port rtpPort transport capability c = some entry) :
    ∃ (port rtpPort : UInt16) (tcp : Bool), entry = { c with
      endpointType := .sip
      route := String.ofList route
      ip := String.ofList (trim ip)
      port := port
      rtpPort := rtpPort
      sipTransportTcp := tcp
      audioCapability := String.ofList capability } := by
  rw [parseEndpoint] at h
  split at h
  · cases h
  · split at h
    · rename_i port rtpPort tcp _ _ _
      cases h
      exact ⟨port, rtpPort, tcp, rfl⟩
    · cases h

theorem parsed_of_parseEntry {raw : List Char} {entry : ContactEntry}
    (h : parseEntry raw = some entry) : Parsed entry := by
  rw [parseEntry] at h
  split at h
  · cases h
  split at h
  · cases h
  rename_i name parts _
  simp only at h
  split at h
  · cases h
  obtain ⟨hparse, hvalid⟩ := Option.filter_eq_some_iff.mp h
  have hname : Search.Stripped isTrimmed (trim name) := Search.stripped_strip _ _
  -- an endpoint has a trimmed route and address
  have hendpoint : ∀ {route ip port rtpPort transport capability : List Char},
      Search.Stripped isTrimmed route →
      parseEndpoint route ip port rtpPort transport capability
        { name := String.ofList (trim name), route := String.ofList (trim name) } = some entry →
      Parsed entry := by
    intro route ip port rtpPort transport capability hroute hparse
    obtain ⟨port, rtpPort, tcp, rfl⟩ := parseEndpoint_eq hparse
    refine ⟨hvalid, ?_, ?_, ?_, nofun, fun _ => ⟨rfl, rfl⟩⟩
    · rwa [String.toList_ofList]
    · rwa [String.toList_ofList]
    · rw [String.toList_ofList]
      exact Search.stripped_strip _ _
  unfold parseShortEntry at hparse
  split at hparse
  · cases hparse
    refine ⟨hvalid, ?_, ?_, ⟨nofun, nofun⟩, fun _ => rfl, nofun⟩
    · rwa [String.toList_ofList]
    · rwa [String.toList_ofList]
  · exact hendpoint (by rwa [String.toList_ofList]) hparse
  · exact hendpoint (Search.stripped_strip _ _) hparse
  · exact hendpoint (by rwa [String.toList_ofList]) hparse
  · cases hparse

/-! ## Numbers and transports -/

theorem parseTransport_transportName (tcp : Bool) :
    parseTransport (transportName tcp) = some tcp := by
  cases tcp <;> decide

theorem isDigit_of_mem_toDigits {n : Nat} {c : Char} (h : c ∈ Nat.toDigits 10 n) :
    c.isDigit = true :=
  Nat.isDigit_of_mem_toDigits (by decide) (by decide) h

/-- A property that no digit has does not strip a number. -/
theorem stripped_toDigits {p : Char → Bool} (h : ∀ c, c.isDigit = true → p c = false) (n : Nat) :
    Search.Stripped p (Nat.toDigits 10 n) where
  head := fun c hc => h c (isDigit_of_mem_toDigits (List.mem_of_head? hc))
  last := fun c hc => h c (isDigit_of_mem_toDigits (List.mem_of_getLast? hc))

/-- A digit is none of the characters that are not. -/
theorem ne_of_isDigit {c d : Char} (h : c.isDigit = true) (hd : d.isDigit = false) : c ≠ d := by
  rintro rfl
  rw [h] at hd
  cases hd

theorem trim_toDigits (n : Nat) : trim (Nat.toDigits 10 n) = Nat.toDigits 10 n := by
  refine (stripped_toDigits (fun c hc => ?_) n).strip_eq
  simp [isTrimmed, ne_of_isDigit hc (d := ' ') (by decide), ne_of_isDigit hc (d := '\t')
    (by decide)]

/-- Digits are read to their end. -/
theorem strtoul_digits {ds : List Char} (hne : ds ≠ []) (hds : ∀ c ∈ ds, c.isDigit = true)
    (hfits : Nat.ofDigitChars 10 ds 0 < 4294967296) :
    strtoul ds = some (Nat.ofDigitChars 10 ds 0, true, []) := by
  have hspace : ds.dropWhile isSpaceChar = ds := by
    refine Search.dropWhile_eq_self fun c hc => ?_
    have hdigit := hds c (List.mem_of_head? hc)
    simp [isSpaceChar, ne_of_isDigit hdigit (d := ' ') (by decide),
      ne_of_isDigit hdigit (d := '\t') (by decide), ne_of_isDigit hdigit (d := '\n') (by decide),
      ne_of_isDigit hdigit (d := Char.ofNat 11) (by decide),
      ne_of_isDigit hdigit (d := Char.ofNat 12) (by decide),
      ne_of_isDigit hdigit (d := '\r') (by decide)]
  have htake := Search.takeWhile_eq_self hds
  have hdrop := Search.dropWhile_eq_nil hds
  cases ds with
  | nil => exact absurd rfl hne
  | cons c cs =>
    have hc := hds c List.mem_cons_self
    rw [strtoul, hspace]
    -- a digit is no sign
    split
    rename_i negative s' hsign
    split at hsign
    · rename_i heq
      cases heq
      exact absurd hc (by decide)
    · rename_i heq
      cases heq
      exact absurd hc (by decide)
    · cases hsign
      simp only [htake, hdrop, hne, if_false, Bool.false_eq_true, hfits, decide_true]

/-- A port that is printed is read back. -/
theorem parseU16_toDigits (port : UInt16) : parseU16 (Nat.toDigits 10 port.toNat) = some port := by
  have hne : Nat.toDigits 10 port.toNat ≠ [] := Nat.toDigits_ne_nil
  have hdigits : ∀ c ∈ Nat.toDigits 10 port.toNat, c.isDigit = true := fun _ hc =>
    isDigit_of_mem_toDigits hc
  have hvalue : Nat.ofDigitChars 10 (Nat.toDigits 10 port.toNat) 0 = port.toNat :=
    Nat.ofDigitChars_ten_toDigits
  have hlt := port.toNat_lt
  have htake : (Nat.toDigits 10 port.toNat).takeWhile (· != Char.ofNat 0) =
      Nat.toDigits 10 port.toNat :=
    Search.takeWhile_eq_self fun c hc => bne_iff_ne.mpr (ne_of_isDigit (hdigits c hc) (by decide))
  rw [parseU16, if_neg hne, htake, strtoul_digits hne hdigits (by omega), hvalue]
  simp only
  rw [if_pos (by omega)]
  simp

/-! ## Rows that are written -/

/-- The contact without its audio capability. -/
def stripCapability (entry : ContactEntry) : ContactEntry := { entry with audioCapability := "" }

theorem validEntry_stripCapability {entry : ContactEntry} (h : validEntry entry = true) :
    validEntry (stripCapability entry) = true := by
  rw [validEntry] at h ⊢
  split at h
  · cases h
  · rename_i hok
    simp only [not_or] at hok
    rw [if_neg]
    · exact h
    · simp only [not_or]
      exact ⟨hok.1, hok.2.1, hok.2.2.1, hok.2.2.2.1, hok.2.2.2.2.1,
        show ¬validTextField "" maxCapabilityBytes true = false by decide⟩

/-- A contact with an endpoint has an address and a port. -/
theorem endpoint_of_validEntry {entry : ContactEntry} (h : validEntry entry = true)
    (hsip : entry.endpointType = .sip) : entry.ip ≠ "" ∧ entry.port ≠ 0 := by
  rw [validEntry] at h
  split at h
  · cases h
  · rw [hsip] at h
    simpa using h

/-- The fields behind the name. -/
def rowFields (entry : ContactEntry) : List (List Char) :=
  (if entry.route = entry.name then [] else [entry.route.toList]) ++
    [entry.ip.toList, Nat.toDigits 10 entry.port.toNat, Nat.toDigits 10 entry.rtpPort.toNat,
      transportName entry.sipTransportTcp]

theorem serializeRow_sip {entry : ContactEntry} (h : validEntry entry = true)
    (hsip : entry.endpointType = .sip) :
    serializeRow entry = entry.name.toList ++ Search.behind '|' (rowFields entry) := by
  obtain ⟨hname, hroute, _⟩ := fields_of_validEntry h
  obtain ⟨hip, hport⟩ := endpoint_of_validEntry h hsip
  rw [serializeRow, if_pos hsip, serializeEndpoint, if_neg (by simpa using hname),
    if_neg (by simp [hip, hport]), if_pos hsip, rowFields]
  by_cases hsame : entry.route = entry.name
  · rw [if_pos (.inr (by rw [hsame])), if_pos hsame]
    simp [Search.behind]
  · rw [if_neg (by simp [hroute, hsame, String.toList_inj]), if_neg hsame]
    simp [Search.behind]

theorem serializeRow_unknown {entry : ContactEntry} (h : entry.endpointType = .unknown) :
    serializeRow entry = entry.name.toList := by
  rw [serializeRow, if_neg (by rw [h]; decide)]

/-- No field that is written has a bar in it. -/
theorem bar_of_rowFields {entry : ContactEntry} (h : validEntry entry = true) :
    ∀ field ∈ entry.name.toList :: rowFields entry, '|' ∉ field ∧ ',' ∉ field := by
  obtain ⟨_, _, hname, hroute, hip⟩ := fields_of_validEntry h
  have hdigits : ∀ n : Nat, '|' ∉ Nat.toDigits 10 n ∧ ',' ∉ Nat.toDigits 10 n := fun n =>
    ⟨fun h => ne_of_isDigit (isDigit_of_mem_toDigits h) (by decide) rfl,
      fun h => ne_of_isDigit (isDigit_of_mem_toDigits h) (by decide) rfl⟩
  have htransport : '|' ∉ transportName entry.sipTransportTcp ∧
      ',' ∉ transportName entry.sipTransportTcp := by
    cases entry.sipTransportTcp <;> decide
  rw [List.forall_mem_cons, rowFields, List.forall_mem_append]
  refine ⟨hname, ?_, by simp only [List.forall_mem_cons]; exact ⟨hip, hdigits _, hdigits _,
    htransport, fun _ h => nomatch h⟩⟩
  split
  · exact fun _ h => nomatch h
  · rw [List.forall_mem_singleton]
    exact hroute

theorem rowFields_length (entry : ContactEntry) : (rowFields entry).length ≤ 5 := by
  rw [rowFields, List.length_append]
  split <;> exact Nat.le_of_ble_eq_true rfl

/-- The row of a parsed contact is not stripped. -/
theorem stripped_serializeRow {entry : ContactEntry} (h : Parsed entry) :
    Search.Stripped isTrimmed (serializeRow entry) := by
  cases htype : entry.endpointType with
  | unknown =>
    rw [serializeRow_unknown htype]
    exact h.name
  | sip =>
    have hname : entry.name.toList ≠ [] := by simpa using (fields_of_validEntry h.valid).1
    have htransport : Search.Stripped isTrimmed (transportName entry.sipTransportTcp) := by
      constructor <;> cases entry.sipTransportTcp <;> intro x hx <;>
        obtain rfl := Option.some.inj hx <;> decide
    have hne : transportName entry.sipTransportTcp ≠ [] := by
      cases entry.sipTransportTcp <;> decide
    -- the row begins as the name does, and ends as the transport does
    have := h.name.append htransport hname hne
      (Search.behind '|' ((rowFields entry).dropLast) ++ ['|'])
    rw [serializeRow_sip h.valid htype]
    simpa [Search.behind, rowFields, List.dropLast_append_of_ne_nil] using this

/-- The fields of an endpoint that have been written are read back. -/
theorem parseEndpoint_written {entry c : ContactEntry} (h : Parsed entry)
    (hsip : entry.endpointType = .sip) (hc : c = { name := entry.name, route := c.route }) :
    parseEndpoint entry.route.toList entry.ip.toList (Nat.toDigits 10 entry.port.toNat)
      (Nat.toDigits 10 entry.rtpPort.toNat) (transportName entry.sipTransportTcp) [] c =
      some (stripCapability entry) := by
  have hip : entry.ip.toList ≠ [] := by
    simpa using (endpoint_of_validEntry h.valid hsip).1
  have htransport : trim (transportName entry.sipTransportTcp) =
      transportName entry.sipTransportTcp := by
    cases entry.sipTransportTcp <;> decide
  obtain ⟨hdirectional, hmissing⟩ := h.sip hsip
  rw [parseEndpoint, trim, h.ip.strip_eq]
  simp only [hip, if_false, trim_toDigits, parseU16_toDigits, htransport,
    parseTransport_transportName, String.ofList_toList]
  rw [hc]
  cases entry
  simp only at hsip hdirectional hmissing
  subst hsip hdirectional hmissing
  rfl

/-- The row of a parsed contact is read as the contact, but for the audio capability. -/
theorem parseEntry_serializeRow {entry : ContactEntry} (h : Parsed entry) :
    parseEntry (serializeRow entry) = some (stripCapability entry) := by
  have htrim : trim (serializeRow entry) = serializeRow entry := (stripped_serializeRow h).strip_eq
  have hname : entry.name ≠ "" := (fields_of_validEntry h.valid).1
  have hchars : entry.name.toList ≠ [] := by simpa using hname
  have hread : String.ofList (trim entry.name.toList) = entry.name := by
    rw [trim, h.name.strip_eq, String.ofList_toList]
  have hvalid := validEntry_stripCapability h.valid
  -- the parts are the name and what is behind it, and these are read as the contact
  suffices ∃ fields, serializeRow entry ≠ [] ∧
      split (serializeRow entry) '|' = entry.name.toList :: fields ∧
      parseShortEntry { name := entry.name, route := entry.name } fields =
        some (stripCapability entry) by
    obtain ⟨fields, hne, hsplit, hparse⟩ := this
    rw [parseEntry, htrim, if_neg hne, hsplit]
    simp only [hread, hname, if_false, hparse, Option.filter_some, hvalid, if_true]
  cases htype : entry.endpointType with
  | unknown =>
    rw [serializeRow_unknown htype]
    refine ⟨[], hchars, ?_, ?_⟩
    · rw [split, Search.parts_of_not_mem (fields_of_validEntry h.valid).2.2.1.1]
      rfl
    · rw [parseShortEntry, stripCapability, h.unknown htype]
  | sip =>
    rw [serializeRow_sip h.valid htype]
    refine ⟨rowFields entry, by simp [hchars], ?_, ?_⟩
    · rw [split, Search.parts_behind fun field hfield => (bar_of_rowFields h.valid field hfield).1]
      refine List.take_of_length_le ?_
      have := rowFields_length entry
      rw [List.length_cons, maxContacts]
      omega
    · rw [rowFields]
      split
      · rename_i hsame
        simp only [List.nil_append, parseShortEntry]
        rw [← hsame]
        exact parseEndpoint_written h htype (by rw [hsame])
      · simp only [List.cons_append, List.nil_append, parseShortEntry]
        rw [trim, h.route.strip_eq]
        exact parseEndpoint_written h htype rfl

/-! ## The whole text -/

theorem serializeRow_ne_nil {entry : ContactEntry} (h : validEntry entry = true) :
    serializeRow entry ≠ [] := by
  have hname : entry.name.toList ≠ [] := by simpa using (fields_of_validEntry h).1
  cases htype : entry.endpointType with
  | unknown =>
    rw [serializeRow_unknown htype]
    exact hname
  | sip =>
    rw [serializeRow_sip h htype]
    exact List.append_ne_nil_of_left_ne_nil hname _

theorem comma_not_mem_serializeRow {entry : ContactEntry} (h : validEntry entry = true) :
    ',' ∉ serializeRow entry := by
  have hfields := bar_of_rowFields h
  rw [List.forall_mem_cons] at hfields
  cases htype : entry.endpointType with
  | unknown =>
    rw [serializeRow_unknown htype]
    exact hfields.1.2
  | sip =>
    rw [serializeRow_sip h htype, List.mem_append, not_or]
    refine ⟨hfields.1.2, fun hmem => ?_⟩
    obtain ⟨field, hfield, hmem⟩ := List.mem_flatMap.mp hmem
    rcases List.mem_cons.mp hmem with hbar | hmem
    · exact absurd hbar (by decide)
    · exact (hfields.2 field hfield).2 hmem

/-- The rows, with commas between them. -/
theorem foldl_appendCsv {entries : List ContactEntry} (h : ∀ e ∈ entries, validEntry e = true)
    {out : List Char} (hout : out ≠ []) :
    entries.foldl (fun out entry => appendCsv out (serializeRow entry)) out =
      out ++ Search.behind ',' (entries.map serializeRow) := by
  induction entries generalizing out with
  | nil => simp [Search.behind]
  | cons entry entries ih =>
    rw [List.forall_mem_cons] at h
    rw [List.foldl_cons, appendCsv, if_neg (serializeRow_ne_nil h.1), if_neg hout, ih h.2 (by simp)]
    simp [Search.behind]

theorem parsed_of_mem_slots {csv : List Char} {entry : ContactEntry} (h : entry ∈ slots csv) :
    Parsed entry := by
  obtain ⟨row, _, hrow⟩ := List.mem_filterMap.mp h
  exact parsed_of_parseEntry hrow

theorem length_slots_le (csv : List Char) : (slots csv).length ≤ maxContacts := by
  refine Nat.le_trans (List.length_filterMap_le _ _) ?_
  rw [split, List.length_take]
  exact Nat.min_le_left _ _

/-- Rows that are written are read again one by one. -/
theorem filterMap_parseEntry {entries : List ContactEntry} (h : ∀ e ∈ entries, Parsed e) :
    entries.filterMap (parseEntry ∘ serializeRow) = entries.map stripCapability := by
  induction entries with
  | nil => rfl
  | cons entry entries ih =>
    rw [List.forall_mem_cons] at h
    rw [List.filterMap_cons_some (b := stripCapability entry)
      (by rw [Function.comp_apply, parseEntry_serializeRow h.1]), ih h.2, List.map_cons]

/-- The contacts of the normalised text are those of the text, but for the audio capability. -/
theorem slots_normalizePhonebook (csv : List Char) :
    slots (normalizePhonebook csv) = (slots csv).map stripCapability := by
  rw [normalizePhonebook]
  split
  · rename_i hnil
    rw [hnil, List.map_nil]
  · rename_i hne
    have hparsed : ∀ entry ∈ slots csv, Parsed entry := fun entry => parsed_of_mem_slots
    have hlength := length_slots_le csv
    generalize slots csv = entries at hne hparsed hlength
    cases entries with
    | nil => exact absurd rfl hne
    | cons entry entries =>
      have hall : ∀ e ∈ entry :: entries, validEntry e = true := fun e he => (hparsed e he).valid
      rw [List.forall_mem_cons] at hall
      have hsplit : split (serializeRow entry ++ Search.behind ',' (entries.map serializeRow)) ',' =
          (entry :: entries).map serializeRow := by
        rw [split, Search.parts_behind]
        · refine List.take_of_length_le ?_
          simpa using hlength
        · intro row hrow
          rw [← List.map_cons] at hrow
          obtain ⟨e, he, rfl⟩ := List.mem_map.mp hrow
          exact comma_not_mem_serializeRow (hparsed e he).valid
      rw [List.foldl_cons, appendCsv, if_neg (serializeRow_ne_nil hall.1), if_pos rfl,
        foldl_appendCsv hall.2 (serializeRow_ne_nil hall.1), slots, hsplit, List.filterMap_map]
      exact filterMap_parseEntry hparsed

/-- Contacts that are added one after the other. -/
def addAll (selfName : String) (entries : List ContactEntry) (p : Phonebook) : Phonebook :=
  entries.foldl (fun p entry => (addEntry selfName entry p).2) p

theorem addAll_cons (selfName : String) (entry : ContactEntry) (entries : List ContactEntry)
    (p : Phonebook) : addAll selfName (entry :: entries) p =
      addAll selfName entries (addEntry selfName entry p).2 := rfl

/-- Adding a text is adding its contacts. -/
theorem addBatch_eq (selfName : String) (csv : List Char) (p : Phonebook) :
    (addBatch selfName csv p).2 = addAll selfName (slots csv) p := by
  rw [addBatch, slots]
  suffices ∀ (rows : List (List Char)) (b : Bool) (p : Phonebook),
      (rows.foldl (fun result row =>
        let added := addOne selfName row result.2
        (result.1 || AddResult.changed added.1, added.2)) (b, p)).2 =
      addAll selfName (rows.filterMap parseEntry) p from this _ _ _
  intro rows
  induction rows with
  | nil => exact fun _ _ => rfl
  | cons row rows ih =>
    intro b p
    rw [List.foldl_cons, ih, addOne]
    cases hparse : parseEntry row with
    | none => rw [List.filterMap_cons_none hparse]
    | some entry =>
      rw [List.filterMap_cons_some hparse]
      rfl

end Phonebook

end EsphomeVoip
