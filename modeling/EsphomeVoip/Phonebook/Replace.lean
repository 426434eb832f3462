import EsphomeVoip.Phonebook.Capability

/-! # The cursor of a replaced phonebook (`replace_all`)

The cursor is put back on the first contact that has the selected route as its route or as its name.
So it is on the selected route unless a contact before it is named like that route. -/

namespace EsphomeVoip

namespace Phonebook

variable {selfName : String}

/-! ## The entries that are taken -/

/-- The entries that the loop of `replace_all` takes, once it has some routes. -/
def takenFrom (selfName : String) : List String → List ContactEntry → List ContactEntry
  | _, [] => []
  | routes, entry :: entries =>
    if maxContacts ≤ routes.length then []
    else if validEntry entry = false ∨ isSelf selfName entry = true then
      takenFrom selfName routes entries
    else entry :: takenFrom selfName (withRoute routes entry.route) entries

/-- The entries that `replace_all` takes: the valid ones that are not the device, up to the one that
    brings the last route there is room for. -/
def taken (selfName : String) (entries : List ContactEntry) : List ContactEntry :=
  takenFrom selfName [] entries

/-- The routes of some entries, in the order in which they come first. -/
def routeOrder (entries : List ContactEntry) : List String :=
  (entries.map (·.route)).foldl withRoute []

/-- The last entry with a route. -/
def lastWith (entries : List ContactEntry) (route : String) : Option ContactEntry :=
  entries.reverse.find? fun entry => entry.route == route

theorem lastWith_concat (entries : List ContactEntry) (entry : ContactEntry) (route : String) :
    lastWith (entries ++ [entry]) route =
      if entry.route = route then some entry else lastWith entries route := by
  rw [lastWith, List.reverse_append, List.reverse_singleton, List.singleton_append,
    List.find?_cons]
  by_cases h : entry.route = route
  · simp [h]
  · rw [if_neg h, beq_eq_false_iff_ne.mpr h]
    rfl

/-- What the loop has come to: each route once, with the last entry that has it. -/
structure Collected (taken normalized : List ContactEntry) : Prop where
  routes : normalized.map (·.route) = routeOrder taken
  last : ∀ entry ∈ normalized,
    (lastWith taken entry.route).map (fun e => { e with missingCount := 0 }) = some entry

theorem Collected.add {before normalized : List ContactEntry} (h : Collected before normalized)
    (hlisted : Listed selfName normalized) {entry : ContactEntry}
    (hroom : ¬maxContacts ≤ normalized.length) (hvalid : validEntry entry = true)
    (hself : isSelf selfName entry = false) :
    Collected (before ++ [entry]) (normalizeEntry selfName normalized entry) := by
  have horder : routeOrder (before ++ [entry]) = withRoute (normalized.map (·.route))
    entry.route := by
    rw [routeOrder, List.map_append, List.foldl_append, h.routes]
    rfl
  rw [normalizeEntry, if_neg hroom, if_neg (by simp [hvalid, hself])]
  simp only
  -- whether the route is taken, read off the list of routes
  have hany : (normalized.any fun existing => existing.route == entry.route) =
      (normalized.map (·.route)).contains entry.route := by
    rw [Bool.eq_iff_iff, List.any_eq_true, List.contains_iff_mem, List.mem_map]
    simp only [beq_iff_eq]
  rw [hany]
  split
  · -- A contact with this route is there: it is overwritten in its place.
    rename_i hmem
    rw [FirstMatch.modifyFirst_eq_map (pairwise_route hlisted.routes entry.route)]
    constructor
    · rw [horder, withRoute, if_pos (.inl hmem), List.map_map]
      refine List.map_congr_left fun existing _ => ?_
      rw [Function.comp_apply]
      split
      · rename_i hroute
        exact (beq_iff_eq.mp hroute).symm
      · rfl
    · intro e he
      obtain ⟨existing, hexisting, rfl⟩ := List.mem_map.mp he
      by_cases hroute : existing.route = entry.route
      · rw [if_pos (beq_iff_eq.mpr hroute), lastWith_concat, if_pos rfl]
        rfl
      · have hother : ¬(existing.route == entry.route) = true := by simpa using hroute
        rw [if_neg hother, lastWith_concat, if_neg (Ne.symm hroute)]
        exact h.last existing hexisting
  · -- The route is new: the contact comes last.
    rename_i hmem
    constructor
    · rw [horder, withRoute, if_neg (not_or.mpr ⟨hmem, by simpa using hroom⟩), List.map_append]
      rfl
    · intro e he
      rw [lastWith_concat]
      rcases List.mem_append.mp he with he | he
      · have hother : entry.route ≠ e.route := by
          intro hroute
          rw [List.contains_iff_mem, hroute] at hmem
          exact hmem (List.mem_map_of_mem he)
        rw [if_neg hother]
        exact h.last e he
      · rw [List.mem_singleton.mp he, if_pos rfl]
        rfl

/-- The loop collects what it takes. -/
theorem collected_foldl {before normalized : List ContactEntry} (h : Collected before normalized)
    (hlisted : Listed selfName normalized) (entries : List ContactEntry) :
    Collected (before ++ takenFrom selfName (routeOrder before) entries)
      (entries.foldl (normalizeEntry selfName) normalized) := by
  have hlength : (routeOrder before).length = normalized.length := by
    rw [← h.routes, List.length_map]
  induction entries generalizing before normalized with
  | nil => rwa [takenFrom, List.append_nil]
  | cons entry entries ih =>
    rw [takenFrom, List.foldl_cons, hlength]
    by_cases hroom : maxContacts ≤ normalized.length
    · rw [if_pos hroom, List.append_nil, normalizeEntry, if_pos hroom]
      -- a full list stays as it is
      have hstay : entries.foldl (normalizeEntry selfName) normalized = normalized :=
        List.foldlRecOn (motive := fun n => n = normalized) entries _ rfl fun n hn e _ => by
          rw [hn, normalizeEntry, if_pos hroom]
      rw [hstay]
      exact h
    · rw [if_neg hroom]
      by_cases hskip : validEntry entry = false ∨ isSelf selfName entry = true
      · rw [if_pos hskip, normalizeEntry, if_neg hroom, if_pos hskip]
        exact ih h hlisted hlength
      · have hok := not_or.mp hskip
        rw [Bool.not_eq_false, Bool.not_eq_true] at hok
        rw [if_neg hskip]
        have hadd := h.add hlisted hroom hok.1 hok.2
        have horder : withRoute (routeOrder before) entry.route =
            routeOrder (before ++ [entry]) := by
          rw [routeOrder, routeOrder, List.map_append, List.foldl_append]
          rfl
        rw [horder, List.append_cons]
        exact ih hadd (hlisted.normalizeEntry entry) (by rw [← hadd.routes, List.length_map])

theorem collected_replaceAll (entries : List ContactEntry) :
    Collected (taken selfName entries) (entries.foldl (normalizeEntry selfName) []) := by
  have hnil : Collected [] [] := ⟨rfl, (fun _ h => nomatch h)⟩
  exact collected_foldl hnil listed_nil entries

/-! ## The cursor -/

theorem entries_replaceAll (entries : List ContactEntry) (p : Phonebook) :
    (replaceAll selfName entries p).2.entries = entries.foldl (normalizeEntry selfName) [] := by
  rw [replaceAll]
  split
  · rfl
  · split
    · rename_i hselect
      exact (select_eq hselect).1
    · simp only
      split
      · rfl
      · cases hselect : Phonebook.select
            { entries := entries.foldl (normalizeEntry selfName) [], index := 0 } p.currentName with
        | none => rfl
        | some q => exact (select_eq hselect).1

/-- The contact that is found among some contacts before the others. -/
theorem select_before {before : List ContactEntry} (rest : List ContactEntry) {name : String}
    {x : ContactEntry} (hx : x ∈ before) (hname : x.name = name) :
    ∃ i, ∃ h : i < before.length,
      Phonebook.select { entries := before ++ rest, index := 0 } name =
          some { entries := before ++ rest, index := i } ∧
        Phonebook.current { entries := before ++ rest, index := i } = some before[i] := by
  cases hfind : before.findIdx? fun e => e.name == name || e.route == name with
  | none =>
    have := List.findIdx?_eq_none_iff.mp hfind x hx
    simp [hname] at this
  | some i =>
    have hlt := (List.findIdx?_eq_some_iff_findIdx_eq.mp hfind).1
    refine ⟨i, hlt, ?_, ?_⟩
    · rw [Phonebook.select, List.findIdx?_append, hfind]
      rfl
    · rw [current_eq (.inl (by simp only [List.length_append]; omega)),
        List.getElem?_append_left hlt, List.getElem?_eq_getElem hlt]

/-- A contact is found behind others that the text does not name. -/
theorem select_behind {before : List ContactEntry} (rest : List ContactEntry) {entry : ContactEntry}
    (hbefore : ∀ e ∈ before, e.name ≠ entry.route ∧ e.route ≠ entry.route) :
    Phonebook.select { entries := before ++ entry :: rest, index := 0 } entry.route =
        some { entries := before ++ entry :: rest, index := before.length } ∧
      Phonebook.current { entries := before ++ entry :: rest, index := before.length } =
        some entry := by
  have hnone : before.findIdx? (fun e => e.name == entry.route || e.route == entry.route) =
      none := by
    rw [List.findIdx?_eq_none_iff]
    intro e he
    simp [hbefore e he]
  constructor
  · rw [Phonebook.select, List.findIdx?_append, hnone, List.findIdx?_cons, beq_self_eq_true,
      Bool.or_true]
    simp
  · rw [current_eq (.inl (by simp))]
    simp

/-- After a replacement by `entries`, the route that was selected in `p` is selected still, if there
    is a contact with it. -/
def SelectionKept (selfName : String) (entries : List ContactEntry) (p : Phonebook) : Prop :=
  ∀ entry ∈ (replaceAll selfName entries p).2.entries, entry.route = p.currentRoute →
    (replaceAll selfName entries p).2.current = some entry

/-- No route that comes before the selected one has a contact that is named like it. -/
def NoNamesake (selfName : String) (entries : List ContactEntry) (selected : String) : Prop :=
  let taken := taken selfName entries
  selected ∈ routeOrder taken →
    ∀ route ∈ (routeOrder taken).takeWhile (· != selected), ∀ entry ∈ lastWith taken route,
      entry.name ≠ selected

instance (selfName : String) (entries : List ContactEntry) (selected : String) :
    Decidable (NoNamesake selfName entries selected) :=
  inferInstanceAs (Decidable (_ → _))

/-- The same of the contacts that the loop collects. -/
theorem Collected.noNamesake_iff {entries normalized : List ContactEntry}
    (h : Collected (taken selfName entries) normalized)
    (hroutes : (normalized.map (·.route)).Nodup) (selected : String) :
    NoNamesake selfName entries selected ↔
      ∀ before entry rest, normalized = before ++ entry :: rest → entry.route = selected →
        ∀ x ∈ before, x.name ≠ selected := by
  have hlast : ∀ x ∈ normalized, ∃ e, lastWith (taken selfName entries) x.route = some e ∧
      e.name = x.name := by
    intro x hx
    obtain ⟨e, he, hreset⟩ := Option.map_eq_some_iff.mp (h.last x hx)
    exact ⟨e, he, by rw [← hreset]⟩
  -- the routes before the selected one are those of the contacts before it
  have htake : ∀ before entry rest, normalized = before ++ entry :: rest →
      entry.route = selected →
      (normalized.map (·.route)).takeWhile (· != selected) = before.map (·.route) := by
    intro before entry rest hsplit hroute
    rw [hsplit, List.map_append, List.map_cons, List.nodup_append] at hroutes
    rw [hsplit, List.map_append, List.map_cons, List.takeWhile_append_of_pos, List.takeWhile_cons,
      hroute, bne_self_eq_false, if_neg (by decide), List.append_nil]
    intro route hmem
    rw [bne_iff_ne, ← hroute]
    exact hroutes.2.2 route hmem _ List.mem_cons_self
  rw [NoNamesake, ← h.routes]
  constructor
  · intro hno before entry rest hsplit hroute x hx
    have hmem : x ∈ normalized := by
      rw [hsplit]
      exact List.mem_append_left _ hx
    obtain ⟨e, he, hname⟩ := hlast x hmem
    rw [← hname]
    refine hno ?_ x.route ?_ e he
    · rw [← hroute, hsplit]
      exact List.mem_map_of_mem (List.mem_append_right _ List.mem_cons_self)
    · rw [htake before entry rest hsplit hroute]
      exact List.mem_map_of_mem hx
  · intro hno hselected route hmem entry hentry
    obtain ⟨contact, hcontact, hroute⟩ := List.mem_map.mp hselected
    obtain ⟨before, rest, hsplit⟩ := List.append_of_mem hcontact
    rw [htake before contact rest hsplit hroute] at hmem
    obtain ⟨x, hx, rfl⟩ := List.mem_map.mp hmem
    obtain ⟨e, he, hname⟩ := hlast x (by rw [hsplit]; exact List.mem_append_left _ hx)
    rw [Option.mem_def, he] at hentry
    cases hentry
    rw [hname]
    exact hno before contact rest hsplit hroute x hx

/-- A replacement keeps the selected route selected just where no contact before it is named like
    it. -/
theorem replaceAll_keeps_selection_iff (selfName : String) (ops : List Op)
    (entries : List ContactEntry) {selected : ContactEntry}
    (hselected : (after selfName ops).current = some selected) :
    SelectionKept selfName entries (after selfName ops) ↔
      NoNamesake selfName entries selected.route := by
  have hwell := wellFormed_after selfName ops
  have hroute : (after selfName ops).currentRoute = selected.route := by
    rw [currentRoute, hselected, Option.map_some, Option.getD_some]
  have hvalid : validEntry selected = true := by
    rw [current_eq hwell.cursor] at hselected
    exact hwell.listed.valid selected (List.mem_of_getElem? hselected)
  have hne : selected.route ≠ "" := (fields_of_validEntry hvalid).2.1
  have hlisted : Listed selfName (entries.foldl (normalizeEntry selfName) []) :=
    List.foldlRecOn (motive := Listed selfName) entries _ listed_nil fun _ h entry _ =>
      h.normalizeEntry entry
  -- the cursor is where the selected route is found
  have hreplace : ∀ q, Phonebook.select
      { entries := entries.foldl (normalizeEntry selfName) [], index := 0 } selected.route =
        some q → (replaceAll selfName entries (after selfName ops)).2 = q := by
    intro q hq
    rw [replaceAll]
    simp only [hroute, hne, if_false, hq]
  rw [(collected_replaceAll entries).noNamesake_iff hlisted.routes, SelectionKept,
    entries_replaceAll, hroute]
  -- no contact before that of the selected route has the same route
  have hbefore : ∀ before entry rest,
      entries.foldl (normalizeEntry selfName) [] = before ++ entry :: rest →
      ∀ x ∈ before, x.route ≠ entry.route := by
    intro before entry rest hsplit x hx
    have hroutes := hlisted.routes
    rw [hsplit, List.map_append, List.map_cons, List.nodup_append] at hroutes
    exact hroutes.2.2 _ (List.mem_map_of_mem hx) _ List.mem_cons_self
  constructor
  · intro hkept before entry rest hsplit hentry x hx hname
    obtain ⟨i, hi, hselect, hcurrent⟩ := select_before (entry :: rest) hx hname
    rw [← hsplit] at hselect hcurrent
    have hmem : entry ∈ entries.foldl (normalizeEntry selfName) [] := by
      rw [hsplit]
      exact List.mem_append_right _ List.mem_cons_self
    have hsame := hkept entry hmem hentry
    rw [hreplace _ hselect, hcurrent, Option.some_inj] at hsame
    exact hbefore before entry rest hsplit before[i] (List.getElem_mem hi) (by rw [hsame])
  · intro hno entry hmem hentry
    obtain ⟨before, rest, hsplit⟩ := List.append_of_mem hmem
    have hfirst : ∀ e ∈ before, e.name ≠ entry.route ∧ e.route ≠ entry.route := by
      intro e he
      exact ⟨hentry ▸ hno before entry rest hsplit hentry e he,
        hbefore before entry rest hsplit e he⟩
    obtain ⟨hselect, hcurrent⟩ := select_behind rest hfirst
    rw [← hsplit] at hselect hcurrent
    rw [hreplace _ (hentry ▸ hselect), hcurrent]

namespace Namesake

/-- A contact without an endpoint. -/
def contact (name route : String) : ContactEntry := { name, route }

theorem alice_selected : (after "" [.addEntry (contact "Alice" "100")]).current =
    some (contact "Alice" "100") := by
  decide

/-- Two contacts with names of their own. -/
theorem other_names_keep_selection :
    SelectionKept "" [contact "Carol" "101", contact "Alice" "100"]
      (after "" [.addEntry (contact "Alice" "100")]) :=
  (replaceAll_keeps_selection_iff "" [.addEntry (contact "Alice" "100")]
    [contact "Carol" "101", contact "Alice" "100"] alice_selected).mpr (by decide)

/-- A contact that is named `100` comes before the selected one, whose route is `100`.  The cursor
    is on the former afterwards. -/
theorem namesake_takes_selection :
    (after "" [.addEntry (contact "Alice" "100")]).current = some (contact "Alice" "100") ∧
      (replaceAll "" [contact "100" "101", contact "Alice" "100"]
        (after "" [.addEntry (contact "Alice" "100")])).2.current = some (contact "100" "101") ∧
      ¬SelectionKept "" [contact "100" "101", contact "Alice" "100"]
        (after "" [.addEntry (contact "Alice" "100")]) := by
  refine ⟨alice_selected, by decide, fun h => ?_⟩
  have := h (contact "Alice" "100") (by decide) (by decide)
  revert this
  decide

end Namesake

end Phonebook

end EsphomeVoip
