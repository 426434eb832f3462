import EsphomeVoip.Phonebook.Invariant

/-! # Pruning the phonebook (`commit_cycle`)

Contacts that have not been seen for too long are removed by their names, and a name stands for the
first contact that has it.  So the stale contacts are the ones that go, as long as none that is to
stay comes before a stale one of the same name. -/

namespace EsphomeVoip

namespace Phonebook

variable {selfName : String}

/-! ## Removing names -/

theorem removeOne_entries (name : String) (p : Phonebook) :
    (removeOne name p).2.entries = p.entries.eraseP fun entry => entry.name == name := by
  rw [removeOne, List.eraseP_eq_eraseIdx]
  split
  · rename_i hnone
    rw [hnone]
  · rename_i i hi
    rw [hi]

/-- A removed name leaves fewer contacts, and nothing else does. -/
theorem removeOne_length (name : String) (p : Phonebook) :
    (removeOne name p).2.entries.length + (removeOne name p).1.toNat = p.entries.length := by
  rw [removeOne]
  split
  · rfl
  · rename_i i hi
    have hlt := (List.findIdx?_eq_some_iff_findIdx_eq.mp hi).1
    simp only [List.length_eraseIdx_of_lt hlt, Bool.toNat_true]
    omega

/-- The contact under the cursor stays under it, unless it is the one that is removed. -/
theorem removeOne_cursor {name : String} {p : Phonebook} {entry : ContactEntry}
    (hnodup : p.entries.Nodup) (hentry : p.entries[p.index]? = some entry)
    (hkept : entry ∈ (removeOne name p).2.entries) :
    (removeOne name p).2.entries[(removeOne name p).2.index]? = some entry := by
  rw [removeOne] at hkept ⊢
  split
  · exact hentry
  · rename_i i hi
    rw [hi] at hkept
    simp only at hkept ⊢
    have hindex := (List.getElem?_eq_some_iff.mp hentry).1
    have hlt := (List.findIdx?_eq_some_iff_findIdx_eq.mp hi).1
    -- were it the one that is removed, it would not be there any more
    have hne : i ≠ p.index := by
      rintro rfl
      obtain ⟨j, hj, hother⟩ := List.mem_eraseIdx_iff_getElem?.mp hkept
      exact hj ((List.getElem?_inj hindex hnodup).mp (hentry.trans hother.symm)).symm
    rw [if_neg (List.ne_nil_of_mem hkept)]
    by_cases hbefore : i < p.index
    · rw [if_pos hbefore, List.getElem?_eraseIdx_of_ge (by omega),
        show p.index - 1 + 1 = p.index by omega]
      exact hentry
    · rw [if_neg hbefore, if_neg fun h => hne h.1, List.getElem?_eraseIdx_of_lt (by omega)]
      exact hentry

/-- The first of some names is removed, then the others. -/
theorem removeNames_cons (name : String) (names : List String) (p : Phonebook) :
    removeNames (name :: names) p =
      ((removeOne name p).1 || (removeNames names (removeOne name p).2).1,
        (removeNames names (removeOne name p).2).2) := by
  -- the flag that has been set only joins the later ones
  have hflag : ∀ (names : List String) (b : Bool) (q : Phonebook),
      names.foldl (fun result name =>
        let removed := result.2.removeOne name
        (result.1 || removed.1, removed.2)) (b, q) =
      (b || (removeNames names q).1, (removeNames names q).2) := by
    intro names
    induction names with
    | nil =>
      intro b q
      rw [removeNames, List.foldl_nil, List.foldl_nil, Bool.or_false]
    | cons name names ih =>
      intro b q
      rw [removeNames, List.foldl_cons, List.foldl_cons]
      simp only [ih, Bool.false_or, Bool.or_assoc]
  rw [removeNames, List.foldl_cons]
  simp only [hflag, Bool.false_or]

theorem removeNames_entries (names : List String) (p : Phonebook) :
    (removeNames names p).2.entries = FirstMatch.eraseKeys (·.name) names p.entries := by
  induction names generalizing p with
  | nil => rfl
  | cons name names ih =>
    rw [removeNames_cons, ih, removeOne_entries]
    rfl

/-- The flag says whether there are fewer contacts. -/
theorem removeNames_length (names : List String) (p : Phonebook) :
    (removeNames names p).2.entries.length ≤ p.entries.length ∧
      ((removeNames names p).1 = true ↔
        (removeNames names p).2.entries.length < p.entries.length) := by
  induction names generalizing p with
  | nil => exact ⟨Nat.le_refl _, by simp [removeNames]⟩
  | cons name names ih =>
    rw [removeNames_cons]
    simp only
    obtain ⟨hle, hflag⟩ := ih (removeOne name p).2
    have hone := removeOne_length name p
    cases hremoved : (removeOne name p).1 with
    | true =>
      rw [hremoved, Bool.toNat_true] at hone
      refine ⟨by omega, ?_⟩
      simp only [Bool.true_or, true_iff]
      omega
    | false =>
      rw [hremoved, Bool.toNat_false, Nat.add_zero] at hone
      rw [Bool.false_or, ← hone]
      exact ⟨hle, hflag⟩

/-- A contact under the cursor that is not removed stays under it. -/
theorem removeNames_cursor {names : List String} {p : Phonebook} {entry : ContactEntry}
    (hnodup : p.entries.Nodup) (hentry : p.entries[p.index]? = some entry)
    (hkept : entry ∈ (removeNames names p).2.entries) :
    (removeNames names p).2.entries[(removeNames names p).2.index]? = some entry := by
  induction names generalizing p with
  | nil => exact hentry
  | cons name names ih =>
    rw [removeNames_cons] at hkept ⊢
    simp only at hkept ⊢
    have hsub : (removeNames names (removeOne name p).2).2.entries.Sublist
        (removeOne name p).2.entries := by
      rw [removeNames_entries]
      exact FirstMatch.eraseKeys_sublist names _
    have hrest : (removeOne name p).2.entries.Nodup := by
      rw [removeOne_entries]
      exact hnodup.sublist List.eraseP_sublist
    exact ih hrest (removeOne_cursor hnodup hentry (hsub.subset hkept)) hkept

/-! ## An update cycle -/

/-- A counter that has reached the threshold. -/
def stale (threshold : UInt8) (entry : ContactEntry) : Bool := threshold ≤ entry.missingCount

/-- What pruning is for: the contacts whose counter is below the threshold are left, in their order,
    the result says whether there are fewer, and a contact under the cursor that is left is still
    under it. -/
structure Pruned (seen : List String) (threshold : UInt8) (p : Phonebook)
    (result : Bool × Phonebook) : Prop where
  entries : result.2.entries =
    (p.entries.map (countCycle seen)).filter fun entry => !stale threshold entry
  flag : result.1 = true ↔ result.2.entries.length < p.entries.length
  cursor : ∀ entry, p.current = some entry → countCycle seen entry ∈ result.2.entries →
    result.2.current = some (countCycle seen entry)

/-- The contacts that are stale come before the others of the same name. -/
def StaleFirst (threshold : UInt8) (entries : List ContactEntry) : Prop :=
  entries.Pairwise fun x y => x.name = y.name → stale threshold y = true → stale threshold x = true

instance (threshold : UInt8) (entries : List ContactEntry) :
    Decidable (StaleFirst threshold entries) :=
  inferInstanceAs (Decidable (entries.Pairwise _))

/-- An update cycle prunes the stale contacts just where these come before the others of the same
    name. -/
theorem commitCycle_prunes_iff (ops : List Op) (seen : List String) {threshold : UInt8}
    (hthreshold : 0 < threshold) :
    Pruned seen threshold (after selfName ops)
        (commitCycle seen threshold (after selfName ops)) ↔
      StaleFirst threshold ((after selfName ops).entries.map (countCycle seen)) := by
  have hwell := wellFormed_after selfName ops
  have hdone := hwell.commitCycle seen threshold
  generalize after selfName ops = p at hwell hdone ⊢
  have hcount := hwell.countCycle seen
  have hnodup : (p.entries.map (countCycle seen)).Nodup :=
    List.Pairwise.of_map _ (fun _ _ hne heq => hne (congrArg _ heq)) hcount.listed.routes
  have hne : threshold ≠ 0 := by
    rintro rfl
    exact absurd hthreshold (by decide)
  -- A cycle counts first, and then removes the first contact of each stale name.
  have hcommit : commitCycle seen threshold p =
      removeNames (((p.entries.map (countCycle seen)).filter (stale threshold)).map (·.name))
        { p with entries := p.entries.map (countCycle seen) } := by
    rw [commitCycle, if_neg hne]
    rfl
  -- Removing by name removes the stale ones just where they come first.
  have hiff := @FirstMatch.eraseKeys_stale_iff ContactEntry String _ (·.name) (stale threshold) _
    hnodup
  rw [hcommit] at hdone ⊢
  constructor
  · intro h
    have hentries := h.entries
    rw [removeNames_entries] at hentries
    exact hiff.mp hentries
  · intro h
    refine ⟨?_, ?_, fun entry hentry hkept => ?_⟩
    · rw [removeNames_entries]
      exact hiff.mpr h
    · have := (removeNames_length
        (((p.entries.map (countCycle seen)).filter (stale threshold)).map (·.name))
        { p with entries := p.entries.map (countCycle seen) }).2
      rwa [List.length_map] at this
    · rw [current_eq hwell.cursor] at hentry
      rw [current_eq hdone.cursor]
      refine removeNames_cursor hnodup ?_ hkept
      rw [List.getElem?_map, hentry]
      rfl

namespace RenamedContact

/-- A contact with an endpoint. -/
def contact (name route : String) : ContactEntry :=
  { name, route, ip := "10.0.0.2", endpointType := .sip, port := 5060, rtpPort := 40000 }

/-- Two contacts of different names, of which one is seen. -/
theorem unseen_contact_is_pruned :
    Pruned ["B"] 1 (after "" [.addEntry (contact "B" "1"), .addEntry (contact "A" "2")])
      (commitCycle ["B"] 1 (after "" [.addEntry (contact "B" "1"), .addEntry (contact "A" "2")])) :=
  (commitCycle_prunes_iff [.addEntry (contact "B" "1"), .addEntry (contact "A" "2")] ["B"]
    (by decide)).mpr (by decide)

/-- The contact `B` is seen twice, and is then renamed to `A`, which another contact that has not
    been seen is called already. -/
def ops : List Op :=
  [.addEntry (contact "B" "1"), .addEntry (contact "A" "2"), .commitCycle ["B"] 3,
    .commitCycle ["B"] 3, .addEntry (contact "A" "1")]

/-- The next cycle removes the contact that has been missing once, and keeps the one that has been
    missing three times. -/
theorem fresh_contact_is_pruned :
    (commitCycle [] 3 (after "" ops)).2.entries.map (fun e => (e.route, e.missingCount)) =
        [("2", 3)] ∧
      ¬Pruned [] 3 (after "" ops) (commitCycle [] 3 (after "" ops)) := by
  refine ⟨by decide, fun h => ?_⟩
  have := h.entries
  revert this
  decide

end RenamedContact

end Phonebook

end EsphomeVoip
