import EsphomeVoip.Phonebook.Rows

/-! # What every phonebook keeps (`phonebook.h`)

The routes of the contacts are distinct, there are never too many contacts, each of them is valid
and none is the device, and the cursor is on a contact unless there is none. -/

namespace EsphomeVoip

namespace Phonebook

/-! ## Contacts -/

/-- The contacts of a phonebook. -/
structure Listed (selfName : String) (entries : List ContactEntry) : Prop where
  size : entries.length ≤ maxContacts
  routes : (entries.map (·.route)).Nodup
  valid : ∀ entry ∈ entries, validEntry entry = true
  notSelf : ∀ entry ∈ entries, isSelf selfName entry = false

variable {selfName : String}

theorem listed_nil : Listed selfName [] where
  size := Nat.zero_le _
  routes := List.nodup_nil
  valid := fun _ h => nomatch h
  notSelf := fun _ h => nomatch h

/-- A contact with a new route goes behind the others. -/
theorem Listed.append {entries : List ContactEntry} (h : Listed selfName entries)
    {entry : ContactEntry} (hroom : entries.length < maxContacts)
    (hroute : ∀ existing ∈ entries, existing.route ≠ entry.route)
    (hvalid : validEntry entry = true) (hself : isSelf selfName entry = false) :
    Listed selfName (entries ++ [entry]) where
  size := by
    rw [List.length_append, List.length_singleton]
    omega
  routes := by
    rw [List.map_append, List.nodup_append]
    refine ⟨h.routes, by simp, ?_⟩
    intro route hroute' route' hroute''
    obtain ⟨existing, hexisting, rfl⟩ := List.mem_map.mp hroute'
    rw [List.map_singleton, List.mem_singleton] at hroute''
    rw [hroute'']
    exact hroute existing hexisting
  valid := by
    intro existing hexisting
    rcases List.mem_append.mp hexisting with hexisting | hexisting
    · exact h.valid existing hexisting
    · rw [List.mem_singleton.mp hexisting]
      exact hvalid
  notSelf := by
    intro existing hexisting
    rcases List.mem_append.mp hexisting with hexisting | hexisting
    · exact h.notSelf existing hexisting
    · rw [List.mem_singleton.mp hexisting]
      exact hself

/-- A contact may be changed, but for its route. -/
theorem Listed.modify {entries : List ContactEntry} (h : Listed selfName entries)
    {p : ContactEntry → Bool} {f : ContactEntry → ContactEntry}
    (hroute : ∀ entry ∈ entries, p entry = true → (f entry).route = entry.route)
    (hvalid : ∀ entry ∈ entries, p entry = true → validEntry (f entry) = true)
    (hself : ∀ entry ∈ entries, p entry = true → isSelf selfName (f entry) = false) :
    Listed selfName (FirstMatch.modifyFirst p f entries) where
  size := by
    rw [FirstMatch.length_modifyFirst]
    exact h.size
  routes := by
    rw [FirstMatch.map_modifyFirst hroute]
    exact h.routes
  valid := by
    intro entry hentry
    rcases FirstMatch.mem_modifyFirst hentry with hentry | ⟨x, hx, hp, rfl⟩
    · exact h.valid entry hentry
    · exact hvalid x hx hp
  notSelf := by
    intro entry hentry
    rcases FirstMatch.mem_modifyFirst hentry with hentry | ⟨x, hx, hp, rfl⟩
    · exact h.notSelf entry hentry
    · exact hself x hx hp

/-- Some of the contacts. -/
theorem Listed.sublist {entries entries' : List ContactEntry} (h : Listed selfName entries)
    (hsub : entries'.Sublist entries) : Listed selfName entries' where
  size := Nat.le_trans hsub.length_le h.size
  routes := h.routes.sublist (hsub.map _)
  valid := fun entry hentry => h.valid entry (hsub.subset hentry)
  notSelf := fun entry hentry => h.notSelf entry (hsub.subset hentry)

/-- The counter does not count. -/
theorem Listed.map {entries : List ContactEntry} (h : Listed selfName entries)
    {f : ContactEntry → ContactEntry}
    (hf : ∀ entry, f entry = { entry with missingCount := (f entry).missingCount }) :
    Listed selfName (entries.map f) where
  size := by
    rw [List.length_map]
    exact h.size
  routes := by
    have hroute : (fun entry : ContactEntry => entry.route) ∘ f = fun entry => entry.route := by
      funext entry
      rw [Function.comp_apply, hf]
    rw [List.map_map, hroute]
    exact h.routes
  valid := by
    intro entry hentry
    obtain ⟨existing, hexisting, rfl⟩ := List.mem_map.mp hentry
    rw [hf]
    exact h.valid existing hexisting
  notSelf := by
    intro entry hentry
    obtain ⟨existing, hexisting, rfl⟩ := List.mem_map.mp hentry
    rw [hf]
    exact h.notSelf existing hexisting

/-! ## Merging -/

/-- What `merge_` does: nothing, a change of the first contact of that route, or a new contact. -/
theorem merge_cases (incoming : ContactEntry) (p : Phonebook) :
    (merge incoming p).2 = p ∨
      validEntry incoming = true ∧ (merge incoming p).2 = { p with
        entries := FirstMatch.modifyFirst (fun existing => existing.route == incoming.route)
          (overwrite incoming) p.entries } ∨
      validEntry incoming = true ∧ p.entries.length < maxContacts ∧
        (∀ existing ∈ p.entries, existing.route ≠ incoming.route) ∧
        (merge incoming p).2 = { p with entries := p.entries ++ [incoming] } := by
  rw [merge]
  split
  · exact .inl rfl
  · rename_i hvalid
    rw [Bool.not_eq_false] at hvalid
    split
    · split
      · exact .inl rfl
      · split
        · exact .inl rfl
        · exact .inr (.inl ⟨hvalid, rfl⟩)
    · rename_i hnone
      split
      · exact .inl rfl
      · rename_i hroom
        refine .inr (.inr ⟨hvalid, by omega, fun existing hexisting hroute => ?_, rfl⟩)
        have := List.find?_eq_none.mp hnone existing hexisting
        rw [hroute] at this
        exact this (beq_self_eq_true _)

/-- The cursor is on a contact, unless there is none. -/
def CursorOk (p : Phonebook) : Prop :=
  p.index < p.entries.length ∨ p.entries = [] ∧ p.index = 0

/-- What a phonebook keeps. -/
structure WellFormed (selfName : String) (p : Phonebook) : Prop where
  listed : Listed selfName p.entries
  cursor : CursorOk p

theorem wellFormed_empty : WellFormed selfName {} where
  listed := listed_nil
  cursor := .inr ⟨rfl, rfl⟩

theorem WellFormed.merge {p : Phonebook} (h : WellFormed selfName p) {incoming : ContactEntry}
    (hself : isSelf selfName incoming = false) : WellFormed selfName (merge incoming p).2 := by
  rcases merge_cases incoming p with hmerge | ⟨hvalid, hmerge⟩ | ⟨hvalid, hroom, hroute, hmerge⟩
  · rw [hmerge]
    exact h
  · rw [hmerge]
    constructor
    · refine h.listed.modify (fun _ _ _ => rfl) ?_ (fun _ _ _ => hself)
      intro existing _ hsame
      rw [beq_iff_eq] at hsame
      have hover : overwrite incoming existing =
          { incoming with missingCount := existing.missingCount } := by
        rw [overwrite, hsame]
      rw [hover]
      exact hvalid
    · rcases h.cursor with h | ⟨hnil, hindex⟩
      · exact .inl (by simpa using h)
      · exact .inr ⟨by simp [hnil, FirstMatch.modifyFirst], hindex⟩
  · rw [hmerge]
    refine ⟨h.listed.append hroom hroute hvalid hself, .inl ?_⟩
    rcases h.cursor with h | ⟨hnil, hindex⟩
    · simp only [List.length_append, List.length_singleton]
      omega
    · simp [hnil, hindex]

/-- A contact that is in the phonebook as it is written there is merged without a change. -/
theorem merge_of_overwritten {incoming : ContactEntry} (existing : ContactEntry) {p : Phonebook}
    (hfind : p.entries.find? (fun existing => existing.route == incoming.route) = some existing)
    (h : existing = overwrite incoming existing) : (Phonebook.merge incoming p).2 = p := by
  rw [Phonebook.merge]
  split
  · rfl
  · rw [hfind]
    simp only
    split <;> rfl

/-- Merging a contact again changes nothing. -/
theorem merge_merge (incoming : ContactEntry) (p : Phonebook) :
    (Phonebook.merge incoming (Phonebook.merge incoming p).2).2 =
      (Phonebook.merge incoming p).2 := by
  rcases merge_cases incoming p with hmerge | ⟨_, hmerge⟩ | ⟨_, _, hroute, hmerge⟩
  · rw [hmerge]
    exact hmerge
  · rw [hmerge]
    cases hfind : p.entries.find? fun existing => existing.route == incoming.route with
    | some existing =>
      -- the contact that has been written is found again
      refine merge_of_overwritten (overwrite incoming existing) ?_ rfl
      simp only
      rw [FirstMatch.find_modifyFirst (f := overwrite incoming) (fun _ => rfl), hfind]
      rfl
    | none =>
      have hsame : FirstMatch.modifyFirst (fun existing => existing.route == incoming.route)
          (overwrite incoming) p.entries = p.entries :=
        FirstMatch.modifyFirst_eq_self (by rw [hfind]; exact fun _ h => nomatch h)
      rw [hsame] at hmerge ⊢
      exact hmerge
  · rw [hmerge]
    refine merge_of_overwritten incoming ?_ rfl
    have hnone : p.entries.find? (fun existing => existing.route == incoming.route) = none := by
      rw [List.find?_eq_none]
      intro existing hexisting
      rw [beq_iff_eq]
      exact hroute existing hexisting
    rw [List.find?_append, hnone]
    simp

/-! ## The other operations -/

theorem WellFormed.addEntry {p : Phonebook} (h : WellFormed selfName p) (entry : ContactEntry) :
    WellFormed selfName (addEntry selfName entry p).2 := by
  rw [Phonebook.addEntry]
  split
  · exact h
  · rename_i hself
    exact h.merge (Bool.eq_false_iff.mpr hself)

theorem WellFormed.addOne {p : Phonebook} (h : WellFormed selfName p) (row : List Char) :
    WellFormed selfName (addOne selfName row p).2 := by
  rw [Phonebook.addOne]
  split
  · exact h
  · exact h.addEntry _

theorem WellFormed.addBatch {p : Phonebook} (h : WellFormed selfName p) (csv : List Char) :
    WellFormed selfName (addBatch selfName csv p).2 := by
  rw [Phonebook.addBatch]
  exact List.foldlRecOn (motive := fun result : Bool × Phonebook => WellFormed selfName result.2)
    (split csv ',') _ h fun _ h row _ => h.addOne row

theorem Listed.normalizeEntry {normalized : List ContactEntry} (h : Listed selfName normalized)
    (entry : ContactEntry) : Listed selfName (normalizeEntry selfName normalized entry) := by
  rw [Phonebook.normalizeEntry]
  split
  · exact h
  · rename_i hroom
    split
    · exact h
    · rename_i hok
      rw [not_or, Bool.not_eq_false, Bool.not_eq_true] at hok
      simp only
      split
      · exact h.modify (fun existing _ hsame => (beq_iff_eq.mp hsame).symm)
          (fun _ _ _ => hok.1) (fun _ _ _ => hok.2)
      · rename_i hnew
        refine h.append (by omega) (fun existing hexisting hroute => hnew ?_) hok.1 hok.2
        rw [List.any_eq_true]
        exact ⟨existing, hexisting, by rw [hroute]; exact beq_self_eq_true _⟩

/-- A selected contact is one. -/
theorem select_eq {p q : Phonebook} {name : String} (h : p.select name = some q) :
    q.entries = p.entries ∧ q.index < p.entries.length := by
  rw [select, Option.map_eq_some_iff] at h
  obtain ⟨i, hi, rfl⟩ := h
  exact ⟨rfl, (List.findIdx?_eq_some_iff_findIdx_eq.mp hi).1⟩

theorem WellFormed.select {p q : Phonebook} (h : WellFormed selfName p) {name : String}
    (hselect : p.select name = some q) : WellFormed selfName q := by
  obtain ⟨hentries, hindex⟩ := select_eq hselect
  exact ⟨hentries ▸ h.listed, .inl (hentries ▸ hindex)⟩

theorem WellFormed.replaceAll (entries : List ContactEntry) (p : Phonebook) :
    WellFormed selfName (replaceAll selfName entries p).2 := by
  have hlisted : Listed selfName (entries.foldl (Phonebook.normalizeEntry selfName) []) :=
    List.foldlRecOn (motive := Listed selfName) entries _ listed_nil fun _ h entry _ =>
      h.normalizeEntry entry
  generalize hstart : entries.foldl (Phonebook.normalizeEntry selfName) [] = normalized at hlisted
  have hok : WellFormed selfName { entries := normalized, index := 0 } := by
    refine ⟨hlisted, ?_⟩
    cases normalized with
    | nil => exact .inr ⟨rfl, rfl⟩
    | cons entry rest => exact .inl (Nat.succ_pos _)
  rw [Phonebook.replaceAll]
  simp only [hstart]
  split
  · exact hok
  · split
    · rename_i hselect
      exact hok.select hselect
    · simp only
      split
      · exact hok
      · cases hselect : Phonebook.select { entries := normalized, index := 0 } p.currentName with
        | none => exact hok
        | some q => exact hok.select hselect

theorem WellFormed.removeOne {p : Phonebook} (h : WellFormed selfName p) (name : String) :
    WellFormed selfName (removeOne name p).2 := by
  rw [Phonebook.removeOne]
  split
  · exact h
  · rename_i i hi
    have hlt := (List.findIdx?_eq_some_iff_findIdx_eq.mp hi).1
    have hlength : (p.entries.eraseIdx i).length = p.entries.length - 1 :=
      List.length_eraseIdx_of_lt hlt
    refine ⟨h.listed.sublist (List.eraseIdx_sublist _ _), ?_⟩
    have hcursor : p.index < p.entries.length := by
      rcases h.cursor with h | ⟨hnil, _⟩
      · exact h
      · rw [hnil] at hlt
        exact absurd hlt (Nat.not_lt_zero _)
    simp only [CursorOk]
    split
    · rename_i hnil
      exact .inr ⟨hnil, rfl⟩
    · rename_i hne
      have hpos : 0 < (p.entries.eraseIdx i).length := List.length_pos_iff.mpr hne
      refine .inl ?_
      split
      · omega
      · split
        · exact hpos
        · omega

theorem WellFormed.countCycle {p : Phonebook} (h : WellFormed selfName p) (seen : List String) :
    WellFormed selfName { p with entries := p.entries.map (countCycle seen) } := by
  refine ⟨h.listed.map fun entry => ?_, ?_⟩
  · rw [Phonebook.countCycle]
    split
    · rfl
    · split <;> rfl
  · rcases h.cursor with h | ⟨hnil, hindex⟩
    · exact .inl (by simpa using h)
    · exact .inr ⟨by simp [hnil], hindex⟩

theorem WellFormed.commitCycle {p : Phonebook} (h : WellFormed selfName p) (seen : List String)
    (threshold : UInt8) : WellFormed selfName (commitCycle seen threshold p).2 := by
  have hcount := h.countCycle seen
  rw [Phonebook.commitCycle]
  simp only
  split
  · exact hcount
  · exact List.foldlRecOn (motive := fun result : Bool × Phonebook => WellFormed selfName result.2)
      _ _ hcount fun _ h name _ => h.removeOne name

/-! ## What adding keeps -/

/-- The slots stay in their order, and the cursor stays on its contact. -/
structure Keeps (p q : Phonebook) : Prop where
  routes : p.entries.map (·.route) <+: q.entries.map (·.route)
  index : q.index = p.index

theorem Keeps.refl (p : Phonebook) : Keeps p p where
  routes := List.prefix_rfl
  index := rfl

theorem Keeps.trans {p q r : Phonebook} (h : Keeps p q) (h' : Keeps q r) : Keeps p r where
  routes := h.routes.trans h'.routes
  index := h'.index.trans h.index

theorem keeps_merge (incoming : ContactEntry) (p : Phonebook) :
    Keeps p (Phonebook.merge incoming p).2 := by
  rcases merge_cases incoming p with hmerge | ⟨_, hmerge⟩ | ⟨_, _, _, hmerge⟩
  · rw [hmerge]
    exact Keeps.refl p
  · rw [hmerge]
    refine ⟨?_, rfl⟩
    refine ⟨[], (List.append_nil _).trans (Eq.symm ?_)⟩
    exact FirstMatch.map_modifyFirst (f := overwrite incoming) fun _ _ _ => rfl
  · rw [hmerge]
    refine ⟨?_, rfl⟩
    rw [List.map_append]
    exact List.prefix_append _ _

theorem keeps_addEntry (entry : ContactEntry) (p : Phonebook) :
    Keeps p (Phonebook.addEntry selfName entry p).2 := by
  rw [Phonebook.addEntry]
  split
  · exact Keeps.refl p
  · exact keeps_merge entry p

theorem keeps_addOne (row : List Char) (p : Phonebook) :
    Keeps p (Phonebook.addOne selfName row p).2 := by
  rw [Phonebook.addOne]
  split
  · exact Keeps.refl p
  · exact keeps_addEntry _ p

theorem keeps_addBatch (csv : List Char) (p : Phonebook) :
    Keeps p (Phonebook.addBatch selfName csv p).2 := by
  rw [Phonebook.addBatch]
  exact List.foldlRecOn (motive := fun result : Bool × Phonebook => Keeps p result.2)
    (split csv ',') _ (Keeps.refl p) fun _ h row _ => h.trans (keeps_addOne row _)

/-- The contact that the cursor designates. -/
theorem current_eq {p : Phonebook} (h : CursorOk p) : p.current = p.entries[p.index]? := by
  rw [Phonebook.current]
  rcases h with h | ⟨hnil, _⟩
  · have hne : p.entries.isEmpty = false := by
      rw [Bool.eq_false_iff, ne_eq, List.isEmpty_iff]
      exact List.ne_nil_of_length_pos (Nat.zero_lt_of_lt h)
    rw [hne, if_neg Bool.false_ne_true, Nat.mod_eq_of_lt h]
  · simp [hnil]

/-- It is the one of that route afterwards. -/
theorem Keeps.current {p q : Phonebook} (h : Keeps p q) (hp : CursorOk p) (hq : CursorOk q)
    {entry : ContactEntry} (hentry : p.current = some entry) :
    (q.current).map (·.route) = some entry.route := by
  rw [current_eq hp] at hentry
  have hlt := (List.getElem?_eq_some_iff.mp hentry).1
  -- the routes of the old slots are still where they were
  have hold : (p.entries.map (·.route))[p.index]? = some entry.route := by
    rw [List.getElem?_map, hentry]
    rfl
  obtain ⟨routes, hroutes⟩ := h.routes
  rw [current_eq hq, h.index, ← List.getElem?_map, ← hroutes,
    List.getElem?_append_left (by rwa [List.length_map])]
  exact hold

/-! ## Runs -/

/-- The operations of a phonebook. -/
inductive Op where
  | addOne (row : List Char)
  | addBatch (csv : List Char)
  | addEntry (entry : ContactEntry)
  | replaceAll (entries : List ContactEntry)
  | commitCycle (seen : List String) (threshold : UInt8)
  | removeOne (name : String)
  | select (name : String)
  | next
  | prev
  | clear

/-- What an operation makes of a phonebook, in a device of that name. -/
def Op.run (selfName : String) (p : Phonebook) : Op → Phonebook
  | .addOne row => (Phonebook.addOne selfName row p).2
  | .addBatch csv => (Phonebook.addBatch selfName csv p).2
  | .addEntry entry => (Phonebook.addEntry selfName entry p).2
  | .replaceAll entries => (Phonebook.replaceAll selfName entries p).2
  | .commitCycle seen threshold => (Phonebook.commitCycle seen threshold p).2
  | .removeOne name => (Phonebook.removeOne name p).2
  | .select name => (p.select name).getD p
  | .next => p.next
  | .prev => p.prev
  | .clear => p.clear

/-- Whether an operation adds contacts. -/
def Op.adds : Op → Bool
  | .addOne _ | .addBatch _ | .addEntry _ => true
  | _ => false

/-- The phonebook after some operations. -/
def after (selfName : String) (ops : List Op) : Phonebook := ops.foldl (Op.run selfName) {}

theorem WellFormed.step {p : Phonebook} (h : WellFormed selfName p) (op : Op) :
    WellFormed selfName (op.run selfName p) := by
  cases op with
  | addOne row => exact h.addOne row
  | addBatch csv => exact h.addBatch csv
  | addEntry entry => exact h.addEntry entry
  | replaceAll entries => exact WellFormed.replaceAll entries p
  | commitCycle seen threshold => exact h.commitCycle seen threshold
  | removeOne name => exact h.removeOne name
  | select name =>
    simp only [Op.run]
    cases hselect : p.select name with
    | none => exact h
    | some q => exact h.select hselect
  | next =>
    simp only [Op.run, Phonebook.next]
    split
    · exact h
    · rename_i hne
      refine ⟨h.listed, .inl (Nat.mod_lt _ ?_)⟩
      exact List.length_pos_iff.mpr (by simpa using hne)
  | prev =>
    simp only [Op.run, Phonebook.prev]
    split
    · exact h
    · rename_i hne
      refine ⟨h.listed, .inl (Nat.mod_lt _ ?_)⟩
      exact List.length_pos_iff.mpr (by simpa using hne)
  | clear => exact wellFormed_empty

theorem wellFormed_after (selfName : String) (ops : List Op) :
    WellFormed selfName (after selfName ops) :=
  List.foldlRecOn (motive := WellFormed selfName) ops _ wellFormed_empty fun _ h op _ => h.step op

/-- Every phonebook keeps its invariant, merging twice is merging once, and adding moves neither a
    slot nor the cursor. -/
theorem phonebook_invariant (selfName : String) (ops : List Op) :
    WellFormed selfName (after selfName ops) ∧
      (∀ incoming, (Phonebook.merge incoming (Phonebook.merge incoming (after selfName ops)).2).2 =
        (Phonebook.merge incoming (after selfName ops)).2) ∧
      (∀ incoming, Keeps (after selfName ops) (Phonebook.merge incoming (after selfName ops)).2) ∧
      ∀ op : Op, op.adds = true →
        Keeps (after selfName ops) (op.run selfName (after selfName ops)) ∧
          ∀ entry, (after selfName ops).current = some entry →
            ((op.run selfName (after selfName ops)).current).map (·.route) = some entry.route := by
  refine ⟨wellFormed_after selfName ops, fun _ => merge_merge _ _, fun _ => keeps_merge _ _, ?_⟩
  intro op hadds
  have hkeeps : Keeps (after selfName ops) (op.run selfName (after selfName ops)) := by
    cases op with
    | addOne row => exact keeps_addOne row _
    | addBatch csv => exact keeps_addBatch csv _
    | addEntry entry => exact keeps_addEntry entry _
    | replaceAll | commitCycle | removeOne | select | next | prev | clear => cases hadds
  have hwell := wellFormed_after selfName ops
  exact ⟨hkeeps, fun entry => hkeeps.current hwell.cursor (hwell.step op).cursor⟩

end Phonebook

end EsphomeVoip
