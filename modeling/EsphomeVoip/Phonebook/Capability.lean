import EsphomeVoip.Phonebook.Normalize
import Mathlib.Data.List.Nodup

/-! # What a normalised phonebook loses

A phonebook text is added row by row, and the text that is written for it is added beside it.  In
both cases a contact is what the last row with an endpoint for its route says, and the routes are
those of the phonebook and of the first rows that find room.  So the contacts differ where that row
has an audio capability, and where the rows that are never looked at say something new. -/

namespace EsphomeVoip

namespace Phonebook

variable {selfName : String}

/-! ## One contact -/

/-- The routes of a phonebook after one more contact. -/
def withRoute (routes : List String) (route : String) : List String :=
  if routes.contains route ∨ maxContacts ≤ routes.length then routes else routes ++ [route]

/-- What `merge_` makes of the contacts. -/
def merged (incoming : ContactEntry) (entries : List ContactEntry) : List ContactEntry :=
  if (entries.map (·.route)).contains incoming.route then
    if unset incoming then entries
    else entries.map fun existing =>
      if existing.route == incoming.route then overwrite incoming existing else existing
  else if maxContacts ≤ entries.length then entries
  else entries ++ [incoming]

theorem pairwise_route {entries : List ContactEntry} (h : (entries.map (·.route)).Nodup)
    (route : String) : entries.Pairwise fun x y =>
      (x.route == route) = true → (y.route == route) = false := by
  rw [List.Nodup, List.pairwise_map] at h
  refine h.imp fun hne hx => ?_
  rw [beq_iff_eq] at hx
  rw [← hx]
  exact beq_eq_false_iff_ne.mpr (Ne.symm hne)

theorem merge_entries {p : Phonebook} (h : (p.entries.map (·.route)).Nodup)
    {incoming : ContactEntry} (hvalid : validEntry incoming = true) :
    (merge incoming p).2.entries = merged incoming p.entries := by
  have hmodify := FirstMatch.modifyFirst_eq_map (f := overwrite incoming)
    (pairwise_route h incoming.route)
  rw [merge, merged, hvalid, if_neg (by decide), ← hmodify]
  split
  · rename_i existing hfind
    have hmem : (p.entries.map (·.route)).contains incoming.route = true := by
      rw [List.contains_iff_mem]
      have hroute := List.find?_some hfind
      rw [beq_iff_eq] at hroute
      rw [← hroute]
      exact List.mem_map_of_mem (List.mem_of_find?_eq_some hfind)
    rw [if_pos hmem]
    split
    · rfl
    · split
      · rename_i hsame
        -- what is written is what is there
        exact (FirstMatch.modifyFirst_eq_self fun x hx => by
          rw [hfind] at hx
          cases hx
          exact hsame.symm).symm
      · rfl
  · rename_i hnone
    have hmem : ¬(p.entries.map (·.route)).contains incoming.route = true := by
      rw [List.contains_iff_mem, List.mem_map]
      rintro ⟨existing, hexisting, hroute⟩
      have := List.find?_eq_none.mp hnone existing hexisting
      rw [hroute] at this
      exact this (beq_self_eq_true _)
    rw [if_neg hmem]
    split <;> rfl

theorem route_merged (incoming : ContactEntry) (entries : List ContactEntry) :
    (merged incoming entries).map (·.route) = withRoute (entries.map (·.route)) incoming.route := by
  rw [merged, withRoute, List.length_map]
  by_cases hmem : (entries.map (·.route)).contains incoming.route = true
  · rw [if_pos hmem, if_pos (Or.inl hmem)]
    split
    · rfl
    · rw [List.map_map]
      refine List.map_congr_left fun existing _ => ?_
      rw [Function.comp_apply]
      split <;> rfl
  · rw [if_neg hmem]
    by_cases hfull : maxContacts ≤ entries.length
    · rw [if_pos hfull, if_pos (Or.inr hfull)]
    · rw [if_neg hfull, if_neg (not_or.mpr ⟨hmem, hfull⟩), List.map_append, List.map_singleton]

/-- A contact without an endpoint has no audio capability to lose. -/
theorem Parsed.stripCapability_eq {entry : ContactEntry} (h : Parsed entry)
    (hunknown : entry.endpointType = .unknown) : stripCapability entry = entry := by
  rw [h.unknown hunknown, stripCapability]

theorem Parsed.unset_iff {entry : ContactEntry} (h : Parsed entry) :
    unset entry = true ↔ entry.endpointType = .unknown := by
  constructor
  · intro hunset
    cases htype : entry.endpointType with
    | unknown => rfl
    | sip =>
      have hip := (endpoint_of_validEntry h.valid htype).1
      rw [unset, beq_eq_false_iff_ne.mpr hip] at hunset
      cases hunset
  · intro hunknown
    rw [h.unknown hunknown]
    rfl

theorem Parsed.stripCapability {entry : ContactEntry} (h : Parsed entry) :
    Parsed (stripCapability entry) where
  valid := validEntry_stripCapability h.valid
  name := h.name
  route := h.route
  ip := h.ip
  unknown := fun hunknown => by
    rw [h.stripCapability_eq hunknown]
    exact h.unknown hunknown
  sip := h.sip

/-! ## Several contacts -/

/-- The last row with an endpoint for a route. -/
def lastEndpoint (rows : List ContactEntry) (route : String) : Option ContactEntry :=
  rows.reverse.find? fun row => row.endpointType == .sip && row.route == route

/-- A contact, after the last row with an endpoint for its route was written over it. -/
def settled (rows : List ContactEntry) (entry : ContactEntry) : ContactEntry :=
  match lastEndpoint rows entry.route with
  | some row => overwrite row entry
  | none => entry

/-- The rows that bring a route of their own, as long as there is room. -/
def newRows : List ContactEntry → List String → List ContactEntry
  | [], _ => []
  | row :: rows, routes =>
    if routes.contains row.route ∨ maxContacts ≤ routes.length then newRows rows routes
    else row :: newRows rows (routes ++ [row.route])

theorem lastEndpoint_cons (row : ContactEntry) (rows : List ContactEntry) (route : String) :
    lastEndpoint (row :: rows) route = (lastEndpoint rows route).or
      (if row.endpointType == .sip && row.route == route then some row else none) := by
  rw [lastEndpoint, lastEndpoint, List.reverse_cons, List.find?_append]
  congr 1
  cases hrow : row.endpointType == .sip && row.route == route <;> simp [hrow]

/-- A row for another route leaves a contact as it is. -/
theorem settled_cons_of_ne {row entry : ContactEntry} {rows : List ContactEntry}
    (h : row.route ≠ entry.route) : settled (row :: rows) entry = settled rows entry := by
  rw [settled, lastEndpoint_cons, beq_eq_false_iff_ne.mpr h, Bool.and_false, settled]
  simp

theorem settled_cons_of_unknown {row : ContactEntry} {rows : List ContactEntry}
    (h : row.endpointType = .unknown) (entry : ContactEntry) :
    settled (row :: rows) entry = settled rows entry := by
  rw [settled, lastEndpoint_cons, h, settled]
  simp

/-- A row with an endpoint is written over the contact, whatever comes after it. -/
theorem settled_cons_of_sip {row entry : ContactEntry} {rows : List ContactEntry}
    (h : row.endpointType = .sip) (hroute : row.route = entry.route) :
    settled (row :: rows) entry = settled rows (overwrite row entry) := by
  have hkeep : (overwrite row entry).route = entry.route := rfl
  rw [settled, lastEndpoint_cons, h, hroute, settled, hkeep]
  cases lastEndpoint rows entry.route <;> simp [overwrite]

/-- A row that brings a route settles itself as the rows after it do. -/
theorem settled_cons_self (row : ContactEntry) (rows : List ContactEntry) :
    settled (row :: rows) row = settled rows row := by
  cases htype : row.endpointType with
  | unknown => exact settled_cons_of_unknown htype row
  | sip =>
    have hself : overwrite row row = row := rfl
    rw [settled_cons_of_sip htype rfl, hself]

/-- What is new has another route than what was there. -/
theorem route_newRows {rows : List ContactEntry} {routes : List String} :
    ∀ row ∈ newRows rows routes, row.route ∉ routes := by
  induction rows generalizing routes with
  | nil => exact fun _ h => absurd h List.not_mem_nil
  | cons first rows ih =>
    rw [newRows]
    split
    · exact ih
    · rename_i hnew
      rw [not_or, List.contains_iff_mem] at hnew
      rw [List.forall_mem_cons]
      refine ⟨hnew.1, fun row hrow hmem => ?_⟩
      exact ih row hrow (List.mem_append_left _ hmem)

theorem mem_of_mem_newRows {rows : List ContactEntry} {routes : List String}
    {row : ContactEntry} (h : row ∈ newRows rows routes) : row ∈ rows := by
  induction rows generalizing routes with
  | nil => exact absurd h List.not_mem_nil
  | cons first rows ih =>
    rw [newRows] at h
    split at h
    · exact List.mem_cons_of_mem _ (ih h)
    · rcases List.mem_cons.mp h with rfl | h
      · exact List.mem_cons_self
      · exact List.mem_cons_of_mem _ (ih h)

theorem newRows_full {rows : List ContactEntry} {routes : List String}
    (h : maxContacts ≤ routes.length) : newRows rows routes = [] := by
  induction rows with
  | nil => rfl
  | cons row rows ih => rw [newRows, if_pos (.inr h), ih]

theorem newRows_append (first rows : List ContactEntry) (routes : List String) :
    newRows (first ++ rows) routes = newRows first routes ++
      newRows rows (routes ++ (newRows first routes).map (·.route)) := by
  induction first generalizing routes with
  | nil => simp [newRows]
  | cons row first ih =>
    rw [List.cons_append, newRows, newRows]
    split
    · exact ih routes
    · rw [ih, List.cons_append, List.map_cons, List.append_assoc, List.singleton_append]

theorem newRows_map_stripCapability (rows : List ContactEntry) (routes : List String) :
    newRows (rows.map stripCapability) routes = (newRows rows routes).map stripCapability := by
  induction rows generalizing routes with
  | nil => rfl
  | cons row rows ih =>
    have hroute : (stripCapability row).route = row.route := rfl
    rw [List.map_cons, newRows, newRows, hroute]
    split
    · exact ih routes
    · rw [ih, List.map_cons]

/-- Nothing is new where every row has a known route, or finds no room. -/
theorem newRows_eq_nil_iff {rows : List ContactEntry} {routes : List String} :
    newRows rows routes = [] ↔
      ∀ row ∈ rows, row.route ∈ routes ∨ maxContacts ≤ routes.length := by
  induction rows with
  | nil => simp [newRows]
  | cons row rows ih =>
    rw [newRows, List.forall_mem_cons]
    split
    · rename_i hold
      rw [List.contains_iff_mem] at hold
      rw [ih]
      exact ⟨fun h => ⟨hold, h⟩, fun h => h.2⟩
    · rename_i hnew
      rw [List.contains_iff_mem] at hnew
      constructor
      · intro h
        cases h
      · exact fun h => absurd h.1 hnew

/-- What comes of rows that are added one after the other. -/
theorem foldl_merged {rows : List ContactEntry} (h : ∀ row ∈ rows, Parsed row)
    (entries : List ContactEntry) :
    rows.foldl (fun entries row => merged row entries) entries =
      (entries ++ newRows rows (entries.map (·.route))).map (settled rows) := by
  induction rows generalizing entries with
  | nil =>
    have hsettled : settled [] = id := rfl
    rw [List.foldl_nil, newRows, List.append_nil, hsettled, List.map_id]
  | cons row rows ih =>
    rw [List.forall_mem_cons] at h
    rw [List.foldl_cons, ih h.2, route_merged, withRoute, newRows, List.length_map]
    by_cases hmem : (entries.map (·.route)).contains row.route = true
    · rw [if_pos (.inl hmem), if_pos (.inl hmem)]
      have hnew : ∀ other ∈ newRows rows (entries.map (·.route)),
          settled (row :: rows) other = settled rows other := by
        intro other hother
        refine settled_cons_of_ne fun hroute => route_newRows other hother ?_
        rwa [← hroute, ← List.contains_iff_mem]
      rw [List.map_append, List.map_append, List.map_congr_left hnew]
      congr 1
      rw [merged, if_pos hmem]
      cases htype : row.endpointType with
      | unknown =>
        -- without an endpoint, the contact that is there stays
        rw [if_pos (h.1.unset_iff.mpr htype)]
        exact List.map_congr_left fun entry _ => (settled_cons_of_unknown htype entry).symm
      | sip =>
        have hunset : ¬unset row = true := by
          rw [h.1.unset_iff, htype]
          decide
        rw [if_neg hunset, List.map_map]
        refine List.map_congr_left fun entry _ => ?_
        rw [Function.comp_apply]
        by_cases hroute : entry.route = row.route
        · rw [if_pos (beq_iff_eq.mpr hroute), settled_cons_of_sip htype hroute.symm]
        · rw [if_neg (by simpa using hroute), settled_cons_of_ne (Ne.symm hroute)]
    · have hother : ∀ entry ∈ entries, settled (row :: rows) entry = settled rows entry := by
        intro entry hentry
        refine settled_cons_of_ne fun hroute => hmem ?_
        rw [List.contains_iff_mem, hroute]
        exact List.mem_map_of_mem hentry
      rw [merged, if_neg hmem]
      by_cases hfull : maxContacts ≤ entries.length
      · -- a row that finds no room changes nothing
        have hroutes : maxContacts ≤ (entries.map (·.route)).length := by
          rwa [List.length_map]
        rw [if_pos hfull, if_pos (.inr hfull), if_pos (.inr hfull), newRows_full hroutes,
          List.append_nil]
        exact (List.map_congr_left hother).symm
      · -- a row with a new route goes behind the others
        have hnot : ¬((entries.map (·.route)).contains row.route = true ∨
            maxContacts ≤ entries.length) := not_or.mpr ⟨hmem, hfull⟩
        have hnew : ∀ other ∈ newRows rows (entries.map (·.route) ++ [row.route]),
            settled (row :: rows) other = settled rows other := by
          intro other hmore
          refine settled_cons_of_ne fun hroute => route_newRows other hmore ?_
          rw [← hroute]
          exact List.mem_append_right _ List.mem_cons_self
        rw [if_neg hfull, if_neg hnot, if_neg hnot, List.append_assoc, List.singleton_append,
          List.map_append, List.map_append, List.map_cons, List.map_cons, settled_cons_self,
          List.map_congr_left hother, List.map_congr_left hnew]

/-! ## Whole texts -/

/-- Every row of a text is added, one after the other. -/
def addRows (selfName : String) (csv : List Char) (p : Phonebook) : Phonebook :=
  (Search.parts ',' csv).foldl (fun p row => (addOne selfName row p).2) p

/-- The contacts of the rows that may be added, without those that are named like the device. -/
def rowsOf (selfName : String) (parts : List (List Char)) : List ContactEntry :=
  (parts.filterMap parseEntry).filter fun entry => !isSelf selfName entry

/-- The first rows of a text, which are looked at. -/
def rows (selfName : String) (csv : List Char) : List ContactEntry :=
  rowsOf selfName (split csv ',')

/-- The rows behind them. -/
def laterRows (selfName : String) (csv : List Char) : List ContactEntry :=
  rowsOf selfName ((Search.parts ',' csv).drop maxContacts)

/-- The routes of a phonebook with the contacts of the first rows. -/
def routesWith (selfName : String) (csv : List Char) (p : Phonebook) : List String :=
  p.entries.map (·.route) ++
    (newRows (rows selfName csv) (p.entries.map (·.route))).map (·.route)

/-- A row says what the last row with an endpoint for its route has said, without an audio
    capability, or what the phonebook says if there is no such row. -/
def SaidBefore (rows : List ContactEntry) (p : Phonebook) (row : ContactEntry) : Prop :=
  match lastEndpoint rows row.route with
  | some earlier => row = stripCapability earlier
  | none => ∃ entry ∈ p.entries, entry.route = row.route ∧ overwrite row entry = entry

theorem addEntry_self {entry : ContactEntry} (h : isSelf selfName entry = true) (p : Phonebook) :
    (addEntry selfName entry p).2 = p := by
  rw [addEntry, if_pos h]

theorem addEntry_entries {p : Phonebook} (hp : WellFormed selfName p) {entry : ContactEntry}
    (hvalid : validEntry entry = true) (hself : isSelf selfName entry = false) :
    (addEntry selfName entry p).2.entries = merged entry p.entries := by
  rw [addEntry, hself, if_neg (by decide)]
  exact merge_entries hp.listed.routes hvalid

theorem addAll_entries {entries : List ContactEntry} (hvalid : ∀ e ∈ entries, validEntry e = true)
    {p : Phonebook} (hp : WellFormed selfName p) :
    (addAll selfName entries p).entries =
      (entries.filter fun entry => !isSelf selfName entry).foldl
        (fun entries row => merged row entries) p.entries := by
  induction entries generalizing p with
  | nil => rfl
  | cons entry entries ih =>
    rw [List.forall_mem_cons] at hvalid
    rw [addAll_cons, ih hvalid.2 (hp.addEntry entry)]
    cases hself : isSelf selfName entry with
    | true => rw [addEntry_self hself, List.filter_cons_of_neg (by simp [hself])]
    | false =>
      rw [addEntry_entries hp hvalid.1 hself, List.filter_cons_of_pos (by simp [hself]),
        List.foldl_cons]

/-- Adding every row of a text is adding its contacts. -/
theorem addRows_eq (selfName : String) (csv : List Char) (p : Phonebook) :
    addRows selfName csv p = addAll selfName ((Search.parts ',' csv).filterMap parseEntry) p := by
  rw [addRows]
  generalize Search.parts ',' csv = parts
  induction parts generalizing p with
  | nil => rfl
  | cons row parts ih =>
    rw [List.foldl_cons, ih, addOne]
    cases hparse : parseEntry row with
    | none => rw [List.filterMap_cons_none hparse]
    | some entry =>
      rw [List.filterMap_cons_some hparse]
      rfl

theorem parsed_of_mem_rowsOf {parts : List (List Char)} {row : ContactEntry}
    (h : row ∈ rowsOf selfName parts) : Parsed row := by
  obtain ⟨_, _, hparse⟩ := List.mem_filterMap.mp (List.mem_filter.mp h).1
  exact parsed_of_parseEntry hparse

/-- The contacts after every row of a text was added. -/
theorem entries_addRows (csv : List Char) {p : Phonebook} (hp : WellFormed selfName p) :
    (addRows selfName csv p).entries =
      (p.entries ++ newRows (rows selfName csv ++ laterRows selfName csv)
        (p.entries.map (·.route))).map
          (settled (rows selfName csv ++ laterRows selfName csv)) := by
  have hparts : rows selfName csv ++ laterRows selfName csv =
      rowsOf selfName (Search.parts ',' csv) := by
    rw [rows, laterRows, rowsOf, rowsOf, rowsOf, ← List.filter_append, ← List.filterMap_append,
      split, List.take_append_drop]
  rw [hparts, ← foldl_merged (fun row => parsed_of_mem_rowsOf), addRows_eq, addAll_entries _ hp]
  · rfl
  · intro entry hentry
    obtain ⟨_, _, hparse⟩ := List.mem_filterMap.mp hentry
    exact (parsed_of_parseEntry hparse).valid

/-- The contacts after the normalised text was added. -/
theorem entries_addBatch_normalizePhonebook (csv : List Char) {p : Phonebook}
    (hp : WellFormed selfName p) :
    (addBatch selfName (normalizePhonebook csv) p).2.entries =
      (p.entries ++ (newRows (rows selfName csv) (p.entries.map (·.route))).map
        stripCapability).map (settled ((rows selfName csv).map stripCapability)) := by
  have hparsed : ∀ entry ∈ slots csv, Parsed entry := fun entry => parsed_of_mem_slots
  have hrows : ((slots csv).map stripCapability).filter (fun entry => !isSelf selfName entry) =
      (rows selfName csv).map stripCapability := by
    rw [List.filter_map]
    rfl
  have hstripped : ∀ row ∈ (rows selfName csv).map stripCapability, Parsed row := by
    rw [List.forall_mem_map]
    exact fun row hrow => (parsed_of_mem_rowsOf hrow).stripCapability
  rw [addBatch_eq, slots_normalizePhonebook, addAll_entries _ hp, hrows, foldl_merged hstripped,
    newRows_map_stripCapability]
  rw [List.forall_mem_map]
  exact fun entry hentry => validEntry_stripCapability (hparsed entry hentry).valid

/-! ## Both ways compared -/

theorem lastEndpoint_mem {rows : List ContactEntry} {route : String} {row : ContactEntry}
    (h : lastEndpoint rows route = some row) :
    row ∈ rows ∧ row.endpointType = .sip ∧ row.route = route := by
  have hmem := List.mem_of_find?_eq_some h
  have hfound := List.find?_some h
  rw [List.mem_reverse] at hmem
  rw [Bool.and_eq_true, beq_iff_eq, beq_iff_eq] at hfound
  exact ⟨hmem, hfound⟩

theorem lastEndpoint_append (rows later : List ContactEntry) (route : String) :
    lastEndpoint (rows ++ later) route = (lastEndpoint later route).or
      (lastEndpoint rows route) := by
  rw [lastEndpoint, List.reverse_append, List.find?_append]
  rfl

theorem lastEndpoint_map_stripCapability (rows : List ContactEntry) (route : String) :
    lastEndpoint (rows.map stripCapability) route =
      (lastEndpoint rows route).map stripCapability := by
  rw [lastEndpoint, ← List.map_reverse, List.find?_map]
  rfl

/-- Two rows for one route that have not been missed write the same only if they are the same. -/
theorem overwrite_inj {row other : ContactEntry} (hroute : row.route = other.route)
    (hmissing : row.missingCount = other.missingCount) (entry : ContactEntry) :
    overwrite row entry = overwrite other entry ↔ row = other := by
  constructor
  · intro h
    cases row
    cases other
    simp only [overwrite, ContactEntry.mk.injEq] at h hroute hmissing ⊢
    exact ⟨h.1, hroute, h.2.2.1, h.2.2.2.1, h.2.2.2.2.1, h.2.2.2.2.2.1, h.2.2.2.2.2.2.1,
      h.2.2.2.2.2.2.2.1, h.2.2.2.2.2.2.2.2.1, hmissing⟩
  · rintro rfl
    rfl

section Compared

variable {first later : List ContactEntry} {p : Phonebook}

/-- A row with an endpoint among the first rows settles a contact: both ways agree on it where the
    last row says the same. -/
theorem settled_eq_iff_of_some (hfirst : ∀ row ∈ first, Parsed row)
    (hlater : ∀ row ∈ later, Parsed row) {base bare earlier : ContactEntry}
    (hroute : bare.route = base.route) (hmissing : bare.missingCount = base.missingCount)
    (h : lastEndpoint first base.route = some earlier) :
    settled (first.map stripCapability) bare = settled (first ++ later) base ↔
      ∀ row ∈ lastEndpoint (first ++ later) base.route, SaidBefore first p row := by
  have hparsed : ∀ row ∈ first ++ later, Parsed row := fun row hrow =>
    (List.mem_append.mp hrow).elim (hfirst row) (hlater row)
  obtain ⟨hearlier, hsip, hof⟩ := lastEndpoint_mem h
  have hlast : ∃ row, lastEndpoint (first ++ later) base.route = some row := by
    rw [lastEndpoint_append, h]
    cases lastEndpoint later base.route with
    | some row => exact ⟨row, rfl⟩
    | none => exact ⟨earlier, rfl⟩
  obtain ⟨row, hrow⟩ := hlast
  obtain ⟨hmem, hrowSip, hrowOf⟩ := lastEndpoint_mem hrow
  have hbare : overwrite (stripCapability earlier) bare =
      overwrite (stripCapability earlier) base := by
    rw [overwrite, overwrite, hroute, hmissing]
  have hsame : (stripCapability earlier).route = row.route := hof.trans hrowOf.symm
  have hcount : (stripCapability earlier).missingCount = row.missingCount := by
    rw [((hparsed row hmem).sip hrowSip).2]
    exact ((hfirst earlier hearlier).sip hsip).2
  rw [settled, settled, lastEndpoint_map_stripCapability, hroute, h, hrow, Option.map_some]
  show overwrite (stripCapability earlier) bare = overwrite row base ↔ _
  rw [hbare, overwrite_inj hsame hcount]
  simp only [Option.mem_some_iff, forall_eq', SaidBefore, hrowOf, h]
  exact eq_comm

/-- No row with an endpoint among the first rows settles a contact of the phonebook. -/
theorem settled_eq_iff_of_none {base : ContactEntry} (hbase : base ∈ p.entries)
    (hnodup : (p.entries.map (·.route)).Nodup) (h : lastEndpoint first base.route = none) :
    settled (first.map stripCapability) base = settled (first ++ later) base ↔
      ∀ row ∈ lastEndpoint (first ++ later) base.route, SaidBefore first p row := by
  have hleft : settled (first.map stripCapability) base = base := by
    rw [settled, lastEndpoint_map_stripCapability, h]
    rfl
  rw [hleft, settled]
  cases hrow : lastEndpoint (first ++ later) base.route with
  | none => simp
  | some row =>
    have hof := (lastEndpoint_mem hrow).2.2
    simp only [Option.mem_some_iff, forall_eq', SaidBefore, hof, h]
    constructor
    · intro heq
      exact ⟨base, hbase, rfl, heq.symm⟩
    · rintro ⟨entry, hentry, hroute, heq⟩
      -- there is one contact of that route
      rw [← List.inj_on_of_nodup_map hnodup hentry hbase hroute]
      exact heq.symm

/-- A row that brings its route without an endpoint: what settles it later is new. -/
theorem settled_eq_iff_of_new (hfirst : ∀ row ∈ first, Parsed row) {base : ContactEntry}
    (hbase : base ∈ newRows first (p.entries.map (·.route)))
    (h : lastEndpoint first base.route = none) :
    settled (first.map stripCapability) (stripCapability base) = settled (first ++ later) base ↔
      ∀ row ∈ lastEndpoint (first ++ later) base.route, SaidBefore first p row := by
  have hmem := mem_of_mem_newRows hbase
  have hunknown : base.endpointType = .unknown := by
    cases htype : base.endpointType with
    | unknown => rfl
    | sip =>
      rw [lastEndpoint, List.find?_eq_none] at h
      have := h base (List.mem_reverse.mpr hmem)
      rw [htype, beq_self_eq_true, beq_self_eq_true] at this
      exact absurd rfl this
  have hleft : settled (first.map stripCapability) base = base := by
    rw [settled, lastEndpoint_map_stripCapability, h]
    rfl
  rw [(hfirst base hmem).stripCapability_eq hunknown, hleft, settled]
  cases hrow : lastEndpoint (first ++ later) base.route with
  | none => simp
  | some row =>
    obtain ⟨_, hsip, hof⟩ := lastEndpoint_mem hrow
    simp only [Option.mem_some_iff, forall_eq', SaidBefore, hof, h]
    constructor
    · intro heq
      rw [heq, overwrite, hsip] at hunknown
      cases hunknown
    · rintro ⟨entry, hentry, hroute, _⟩
      refine absurd ?_ (route_newRows base hbase)
      rw [← hroute]
      exact List.mem_map_of_mem hentry

end Compared

/-- Two lists of contacts of which the second may be longer. -/
theorem map_eq_map_iff {α β : Type} {f g : α → β} {strip : α → α} {entries new more : List α} :
    (entries ++ new.map strip).map f = (entries ++ (new ++ more)).map g ↔
      more = [] ∧ (∀ x ∈ entries, f x = g x) ∧ ∀ x ∈ new, f (strip x) = g x := by
  constructor
  · intro h
    have hlength := congrArg List.length h
    simp only [List.length_map, List.length_append] at hlength
    have hmore : more = [] := List.eq_nil_of_length_eq_zero (by omega)
    rw [hmore, List.append_nil, List.map_append, List.map_append, List.map_map] at h
    obtain ⟨hentries, hnew⟩ := List.append_inj h (by rw [List.length_map, List.length_map])
    exact ⟨hmore, List.map_inj_left.mp hentries, List.map_inj_left.mp hnew⟩
  · rintro ⟨rfl, hentries, hnew⟩
    rw [List.append_nil, List.map_append, List.map_append, List.map_map,
      List.map_congr_left hentries]
    congr 1
    exact List.map_congr_left hnew

/-- Adding a normalised text gives the contacts that come of adding every valid row of the text, if
    and only if the rows that are never looked at bring no route of their own, and the last row
    with an endpoint for a route says what was said before, without an audio capability. -/
theorem normalizePhonebook_preserves_iff (selfName : String) (ops : List Op) (csv : List Char) :
    (addBatch selfName (normalizePhonebook csv) (after selfName ops)).2.entries =
        (addRows selfName csv (after selfName ops)).entries ↔
      (∀ row ∈ laterRows selfName csv,
        row.route ∈ routesWith selfName csv (after selfName ops) ∨
          maxContacts ≤ (routesWith selfName csv (after selfName ops)).length) ∧
      ∀ route ∈ routesWith selfName csv (after selfName ops),
        ∀ row ∈ lastEndpoint (rows selfName csv ++ laterRows selfName csv) route,
          SaidBefore (rows selfName csv) (after selfName ops) row := by
  have hp := wellFormed_after selfName ops
  generalize after selfName ops = p at hp
  have hfirst : ∀ row ∈ rows selfName csv, Parsed row := fun row => parsed_of_mem_rowsOf
  have hlater : ∀ row ∈ laterRows selfName csv, Parsed row := fun row => parsed_of_mem_rowsOf
  rw [entries_addBatch_normalizePhonebook csv hp, entries_addRows csv hp, newRows_append,
    map_eq_map_iff, ← newRows_eq_nil_iff, routesWith, List.forall_mem_append,
    List.forall_mem_map, List.forall_mem_map]
  refine and_congr_right fun _ => and_congr ?_ ?_
  · refine forall₂_congr fun entry hentry => ?_
    cases h : lastEndpoint (rows selfName csv) entry.route with
    | none => exact settled_eq_iff_of_none hentry hp.listed.routes h
    | some earlier => exact settled_eq_iff_of_some hfirst hlater rfl rfl h
  · refine forall₂_congr fun entry hentry => ?_
    cases h : lastEndpoint (rows selfName csv) entry.route with
    | none => exact settled_eq_iff_of_new hfirst hentry h
    | some earlier => exact settled_eq_iff_of_some hfirst hlater rfl rfl h

namespace CapabilityRow

/-- A row with an audio capability. -/
def csv : List Char := "A|1.2.3.4|5060|40000|pcm|x|y|sip_udp".toList

/-- The text is written without the audio capability. -/
theorem normalised_row_loses_capability :
    (addRows "" csv {}).entries.map (·.audioCapability) = ["pcm"] ∧
      (addBatch "" (normalizePhonebook csv) {}).2.entries.map (·.audioCapability) = [""] ∧
      (addBatch "" (normalizePhonebook csv) {}).2.entries ≠ (addRows "" csv {}).entries := by
  decide

end CapabilityRow

end Phonebook

end EsphomeVoip
