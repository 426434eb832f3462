import EsphomeVoip.Phonebook.Rows

/-! # Routing settings (`voip_stack.cpp`, `voip_settings.cpp`)

The extension and the group lists are normalised when they are set, saved into arrays of characters
and set again from these at the next boot.  A character of a text stands for a byte. -/

namespace EsphomeVoip

/-! ## The normalisers -/

/-- `MAX_GROUP_BYTES`. -/
def maxGroupBytes : Nat := 32

/-- `MAX_GROUP_LIST_BYTES`. -/
def maxGroupListBytes : Nat := 240

/-- `MAX_EXTENSION_BYTES`. -/
def maxExtensionBytes : Nat := 32

/-- A character that a group may hold. -/
def groupChar (ch : Char) : Bool :=
  decide (0x20 ≤ ch.toNat) && ch.toNat != 0x7F && ch != '|' && ch != ';'

/-- The lambda `flush` of `normalize_group_list`: the list with one more group. -/
def flushGroup (out current : List Char) : List Char :=
  let group := Phonebook.trim current
  if group = [] then out
  else if maxGroupBytes < group.length then out
  else
    let separator := if out = [] then 0 else 1
    if maxGroupListBytes < out.length + separator + group.length then out
    else if separator ≠ 0 then out ++ ',' :: group
    else out ++ group

/-- The loop of `normalize_group_list`. -/
def normalizeGroups (out current : List Char) : List Char → List Char
  | [] => flushGroup out current
  | ch :: value =>
    if ch = ',' then normalizeGroups (flushGroup out current) [] value
    else if groupChar ch then normalizeGroups out (current ++ [ch]) value
    else normalizeGroups out current value

/-- `normalize_group_list`. -/
def normalizeGroupList (value : List Char) : List Char := normalizeGroups [] [] value

/-- A character that a label may hold. -/
def labelChar (ch : Char) : Bool := groupChar ch && ch != ','

/-- The loop of `normalize_endpoint_label`. -/
def normalizeLabel (out : List Char) : List Char → List Char
  | [] => out
  | ch :: value =>
    if 32 ≤ out.length then out
    else if labelChar ch then normalizeLabel (out ++ [ch]) value
    else normalizeLabel out value

/-- `normalize_endpoint_label`. -/
def normalizeEndpointLabel (value : List Char) : List Char :=
  normalizeLabel [] (Phonebook.trim value)

/-! ## The settings -/

/-- The routing settings of `VoipStack`. -/
structure RoutingSettings where
  extension : List Char := []
  ringGroups : List Char := []
  conferenceGroups : List Char := []
  conferenceRing : Bool := false
  deriving DecidableEq, Repr

namespace RoutingSettings

/-- `set_extension`. -/
def setExtension (extension : List Char) (s : RoutingSettings) : RoutingSettings :=
  let normalized := normalizeEndpointLabel extension
  if normalized = s.extension then s else { s with extension := normalized }

/-- `set_ring_groups`. -/
def setRingGroups (groups : List Char) (s : RoutingSettings) : RoutingSettings :=
  let normalized := normalizeGroupList groups
  if normalized = s.ringGroups then s else { s with ringGroups := normalized }

/-- `set_conference_ring`. -/
def setConferenceRing (enabled : Bool) (s : RoutingSettings) : RoutingSettings :=
  { s with conferenceRing := enabled && s.conferenceGroups != [] }

/-- `set_conference_groups`. -/
def setConferenceGroups (groups : List Char) (s : RoutingSettings) : RoutingSettings :=
  let normalized := normalizeGroupList groups
  if normalized = s.conferenceGroups then s
  else
    let s := { s with conferenceGroups := normalized }
    if normalized == [] && s.conferenceRing then s.setConferenceRing false else s

end RoutingSettings

/-- `StoredRoutingSettings`: arrays that end in a zero. -/
structure StoredRoutingSettings where
  version : UInt8 := 1
  extension : List Char
  ringGroups : List Char
  conferenceGroups : List Char
  deriving DecidableEq, Repr

/-- `copy_bounded`, into an array of zeros. -/
def copyBounded (capacity : Nat) (source : List Char) : List Char :=
  let bytes := min (capacity - 1) source.length
  source.take bytes ++ List.replicate (capacity - bytes) (Char.ofNat 0)

/-- The string that begins an array of which the last character is set to zero. -/
def readBounded (maxBytes : Nat) (array : List Char) : List Char :=
  (array.set maxBytes (Char.ofNat 0)).takeWhile (· != Char.ofNat 0)

namespace RoutingSettings

/-- `save_routing_settings_`. -/
def save (s : RoutingSettings) : StoredRoutingSettings where
  extension := copyBounded (maxExtensionBytes + 1) s.extension
  ringGroups := copyBounded (maxGroupListBytes + 1) s.ringGroups
  conferenceGroups := copyBounded (maxGroupListBytes + 1) s.conferenceGroups

/-- `load_routing_settings_`. -/
def load (stored : Option StoredRoutingSettings) (s : RoutingSettings) : RoutingSettings :=
  match stored with
  | none => s
  | some stored =>
    if stored.version = 1 then
      ((s.setExtension (readBounded maxExtensionBytes stored.extension)).setRingGroups
        (readBounded maxGroupListBytes stored.ringGroups)).setConferenceGroups
          (readBounded maxGroupListBytes stored.conferenceGroups)
    else s

end RoutingSettings

/-! ## Group lists -/

/-- A group as a list holds it. -/
structure IsGroup (group : List Char) : Prop where
  nonempty : group ≠ []
  stripped : Search.Stripped Phonebook.isTrimmed group
  size : group.length ≤ maxGroupBytes
  chars : ∀ ch ∈ group, groupChar ch = true ∧ ch ≠ ','

/-- Groups with commas between them. -/
def joinGroups : List (List Char) → List Char
  | [] => []
  | group :: groups => group ++ Search.behind ',' groups

/-- A list that has been normalised. -/
structure IsGroupList (out : List Char) (groups : List (List Char)) : Prop where
  joined : out = joinGroups groups
  groups : ∀ group ∈ groups, IsGroup group
  size : out.length ≤ maxGroupListBytes

theorem joinGroups_concat (groups : List (List Char)) (group : List Char) :
    joinGroups (groups ++ [group]) =
      if groups = [] then group else joinGroups groups ++ ',' :: group := by
  cases groups with
  | nil => simp [joinGroups, Search.behind]
  | cons first groups => simp [joinGroups, Search.behind]

theorem joinGroups_eq_nil_iff {groups : List (List Char)} (h : ∀ g ∈ groups, IsGroup g) :
    joinGroups groups = [] ↔ groups = [] := by
  cases groups with
  | nil => simp [joinGroups]
  | cons first groups => simp [joinGroups, (h first List.mem_cons_self).nonempty]

/-- A group that there is room for is added. -/
theorem flushGroup_of_isGroup {out group : List Char} (h : IsGroup group)
    (hroom : (if out = [] then group else out ++ ',' :: group).length ≤ maxGroupListBytes) :
    flushGroup out group = if out = [] then group else out ++ ',' :: group := by
  have htrim : Phonebook.trim group = group := h.stripped.strip_eq
  rw [flushGroup, htrim]
  simp only
  rw [if_neg h.nonempty, if_neg (Nat.not_lt.mpr h.size)]
  by_cases hout : out = []
  · rw [if_pos hout] at hroom
    simp only [hout, if_true, List.length_nil, Nat.zero_add, List.nil_append, ne_eq,
      not_true_eq_false, if_false]
    rw [if_neg (Nat.not_lt.mpr hroom)]
  · rw [if_neg hout, List.length_append, List.length_cons] at hroom
    rw [if_neg hout, if_neg (by omega), if_pos (by decide), if_neg hout]

/-- The characters of a trimmed text are characters of the text. -/
theorem mem_of_mem_trim {raw : List Char} {ch : Char} (h : ch ∈ Phonebook.trim raw) : ch ∈ raw := by
  rw [Phonebook.trim, Search.strip, List.mem_reverse] at h
  have h := (List.dropWhile_suffix _).subset h
  rw [List.mem_reverse] at h
  exact (List.dropWhile_suffix _).subset h

/-- What is flushed is added as a group, or left out. -/
theorem IsGroupList.flush {out current : List Char} {groups : List (List Char)}
    (h : IsGroupList out groups) (hcurrent : ∀ ch ∈ current, groupChar ch = true ∧ ch ≠ ',') :
    ∃ groups, IsGroupList (flushGroup out current) groups := by
  by_cases hempty : Phonebook.trim current = []
  · exact ⟨groups, by rw [flushGroup]; simp only; rwa [if_pos hempty]⟩
  by_cases hsize : maxGroupBytes < (Phonebook.trim current).length
  · exact ⟨groups, by rw [flushGroup]; simp only; rwa [if_neg hempty, if_pos hsize]⟩
  have hgroup : IsGroup (Phonebook.trim current) :=
    ⟨hempty, Search.stripped_strip _ _, Nat.not_lt.mp hsize,
      fun ch hch => hcurrent ch (mem_of_mem_trim hch)⟩
  have htrim : flushGroup out current = flushGroup out (Phonebook.trim current) := by
    rw [flushGroup, flushGroup, show Phonebook.trim (Phonebook.trim current) =
      Phonebook.trim current from hgroup.stripped.strip_eq]
  rw [htrim]
  have hout : out = [] ↔ groups = [] := by rw [h.joined, joinGroups_eq_nil_iff h.groups]
  by_cases hroom : (if out = [] then Phonebook.trim current
      else out ++ ',' :: Phonebook.trim current).length ≤ maxGroupListBytes
  · rw [flushGroup_of_isGroup hgroup hroom]
    refine ⟨groups ++ [Phonebook.trim current], ?_, ?_, hroom⟩
    · simp only [joinGroups_concat, hout, ← h.joined]
    · rw [List.forall_mem_append, List.forall_mem_singleton]
      exact ⟨h.groups, hgroup⟩
  · refine ⟨groups, ?_⟩
    have hstay : flushGroup out (Phonebook.trim current) = out := by
      rw [flushGroup, show Phonebook.trim (Phonebook.trim current) =
        Phonebook.trim current from hgroup.stripped.strip_eq]
      simp only
      rw [if_neg hempty, if_neg hsize, if_pos]
      by_cases hnil : out = []
      · rw [if_pos hnil] at hroom
        rw [hnil, if_pos rfl, List.length_nil]
        omega
      · rw [if_neg hnil, List.length_append, List.length_cons] at hroom
        rw [if_neg hnil]
        omega
    rw [hstay]
    exact h

/-- The loop leaves a normalised list. -/
theorem IsGroupList.normalize {out current : List Char} {groups : List (List Char)}
    (h : IsGroupList out groups) (hcurrent : ∀ ch ∈ current, groupChar ch = true ∧ ch ≠ ',')
    (value : List Char) : ∃ groups, IsGroupList (normalizeGroups out current value) groups := by
  induction value generalizing out current groups with
  | nil => exact h.flush hcurrent
  | cons ch value ih =>
    rw [normalizeGroups]
    split
    · obtain ⟨groups, hflush⟩ := h.flush hcurrent
      exact ih hflush fun _ h => nomatch h
    · rename_i hcomma
      split
      · rename_i hkeep
        refine ih h ?_
        rw [List.forall_mem_append, List.forall_mem_singleton]
        exact ⟨hcurrent, hkeep, hcomma⟩
      · exact ih h hcurrent

theorem isGroupList_normalizeGroupList (value : List Char) :
    ∃ groups, IsGroupList (normalizeGroupList value) groups := by
  have hnil : IsGroupList [] [] := ⟨rfl, (fun _ h => nomatch h), Nat.zero_le _⟩
  have hnone : ∀ ch ∈ ([] : List Char), groupChar ch = true ∧ ch ≠ ',' := fun _ h => nomatch h
  exact hnil.normalize hnone value

/-- The characters of a group are collected. -/
theorem normalizeGroups_append {group : List Char}
    (h : ∀ ch ∈ group, groupChar ch = true ∧ ch ≠ ',') (out current rest : List Char) :
    normalizeGroups out current (group ++ rest) = normalizeGroups out (current ++ group) rest := by
  induction group generalizing current with
  | nil => rw [List.nil_append, List.append_nil]
  | cons ch group ih =>
    rw [List.forall_mem_cons] at h
    rw [List.cons_append, normalizeGroups, if_neg h.1.2, if_pos h.1.1, ih h.2, List.append_assoc,
      List.singleton_append]

theorem length_joinGroups_le (done more : List (List Char)) :
    (joinGroups done).length ≤ (joinGroups (done ++ more)).length := by
  cases done with
  | nil => exact Nat.zero_le _
  | cons first done => simp [joinGroups, Search.behind]

/-- Groups that are written with commas between them are added one after the other. -/
theorem normalizeGroups_joined {done : List (List Char)} (hdone : ∀ g ∈ done, IsGroup g)
    {group : List Char} {groups : List (List Char)} (h : ∀ g ∈ group :: groups, IsGroup g)
    (hsize : (joinGroups (done ++ group :: groups)).length ≤ maxGroupListBytes) :
    normalizeGroups (joinGroups done) [] (group ++ Search.behind ',' groups) =
      joinGroups (done ++ group :: groups) := by
  have hflush : ∀ {done group groups}, (∀ g ∈ done, IsGroup g) → IsGroup group →
      (joinGroups (done ++ group :: groups)).length ≤ maxGroupListBytes →
      flushGroup (joinGroups done) group = joinGroups (done ++ [group]) := by
    intro done group groups hdone hgroup hsize
    have hle := length_joinGroups_le (done ++ [group]) groups
    rw [List.append_assoc, List.singleton_append] at hle
    have hconcat := joinGroups_concat done group
    simp only [← joinGroups_eq_nil_iff hdone] at hconcat
    rw [hconcat] at hle ⊢
    exact flushGroup_of_isGroup hgroup (Nat.le_trans hle hsize)
  induction groups generalizing done group with
  | nil =>
    have hgroup := h group List.mem_cons_self
    rw [Search.behind, List.flatMap_nil, normalizeGroups_append hgroup.chars, List.nil_append,
      normalizeGroups, hflush hdone hgroup hsize]
  | cons next groups ih =>
    rw [List.forall_mem_cons] at h
    have hdone' : ∀ g ∈ done ++ [group], IsGroup g := by
      rw [List.forall_mem_append, List.forall_mem_singleton]
      exact ⟨hdone, h.1⟩
    rw [Search.behind, List.flatMap_cons, List.cons_append, normalizeGroups_append h.1.chars,
      List.nil_append, normalizeGroups, if_pos rfl, hflush hdone h.1 hsize]
    have hnext : done ++ group :: next :: groups = done ++ [group] ++ next :: groups :=
      List.append_cons done group (next :: groups)
    rw [hnext] at hsize ⊢
    exact ih hdone' h.2 hsize

/-- A normalised list is normalised. -/
theorem IsGroupList.normalizeGroupList_eq {out : List Char} {groups : List (List Char)}
    (h : IsGroupList out groups) : normalizeGroupList out = out := by
  have hsize := h.size
  rw [h.joined] at hsize ⊢
  cases groups with
  | nil => rfl
  | cons group groups =>
    have hnone : ∀ g ∈ ([] : List (List Char)), IsGroup g := fun _ h => nomatch h
    exact normalizeGroups_joined hnone h.groups hsize

theorem normalizeGroupList_idempotent (value : List Char) :
    normalizeGroupList (normalizeGroupList value) = normalizeGroupList value := by
  obtain ⟨groups, h⟩ := isGroupList_normalizeGroupList value
  exact h.normalizeGroupList_eq

/-! ## Labels -/

theorem normalizeLabel_eq (out value : List Char) :
    normalizeLabel out value = out ++ (value.filter labelChar).take (32 - out.length) := by
  induction value generalizing out with
  | nil => simp [normalizeLabel]
  | cons ch value ih =>
    rw [normalizeLabel]
    by_cases hfull : 32 ≤ out.length
    · rw [if_pos hfull, Nat.sub_eq_zero_of_le hfull, List.take_zero, List.append_nil]
    · rw [if_neg hfull]
      by_cases hkeep : labelChar ch = true
      · rw [if_pos hkeep, ih, List.filter_cons_of_pos hkeep, List.length_append,
          List.length_singleton, show 32 - out.length = 32 - (out.length + 1) + 1 by omega,
          List.take_succ_cons, List.append_assoc, List.singleton_append]
      · rw [if_neg hkeep, ih, List.filter_cons_of_neg hkeep]

theorem normalizeEndpointLabel_eq (value : List Char) :
    normalizeEndpointLabel value = ((Phonebook.trim value).filter labelChar).take 32 := by
  rw [normalizeEndpointLabel, normalizeLabel_eq, List.nil_append, List.length_nil]

/-- Of the characters of the trimmed text that a label may hold, the first one is not a space, and
    neither is the last one that there is room for. -/
def LabelSettled (value : List Char) : Prop :=
  let kept := (Phonebook.trim value).filter labelChar
  kept.head? ≠ some ' ' ∧ (kept.take 32).getLast? ≠ some ' '

instance (value : List Char) : Decidable (LabelSettled value) :=
  inferInstanceAs (Decidable (_ ∧ _))

theorem isTrimmed_of_labelChar {ch : Char} (h : labelChar ch = true) :
    Phonebook.isTrimmed ch = (ch == ' ') := by
  have htab : ch ≠ '\t' := by
    rintro rfl
    exact absurd h (by decide)
  rw [Phonebook.isTrimmed, beq_eq_false_iff_ne.mpr htab, Bool.or_false]

/-- A label is normalised again into itself just where it is settled. -/
theorem normalizeEndpointLabel_idempotent_iff (value : List Char) :
    normalizeEndpointLabel (normalizeEndpointLabel value) = normalizeEndpointLabel value ↔
      LabelSettled value := by
  rw [LabelSettled]
  generalize hkept : (Phonebook.trim value).filter labelChar = kept
  have hlabel : normalizeEndpointLabel value = kept.take 32 := by
    rw [normalizeEndpointLabel_eq, hkept]
  have hchars : ∀ ch ∈ kept.take 32, labelChar ch = true := by
    intro ch hch
    have hch := List.mem_of_mem_take hch
    rw [← hkept] at hch
    exact (List.mem_filter.mp hch).2
  -- the label has room and nothing that it may not hold, so it is only trimmed
  have htrim : normalizeEndpointLabel (kept.take 32) = Phonebook.trim (kept.take 32) := by
    have hle : (Phonebook.trim (kept.take 32)).length ≤ 32 := by
      rw [Phonebook.trim, Search.strip, List.length_reverse]
      refine Nat.le_trans (List.dropWhile_suffix _).length_le ?_
      rw [List.length_reverse]
      refine Nat.le_trans (List.dropWhile_suffix _).length_le ?_
      exact List.length_take_le 32 kept
    rw [normalizeEndpointLabel_eq, List.filter_eq_self.mpr fun ch hch =>
      hchars ch (mem_of_mem_trim hch), List.take_of_length_le hle]
  have hhead : (kept.take 32).head? = kept.head? := by
    cases kept <;> rfl
  rw [hlabel, htrim, ← hhead]
  constructor
  · intro hsame
    have hstripped := Search.stripped_strip Phonebook.isTrimmed (kept.take 32)
    rw [show Search.strip Phonebook.isTrimmed (kept.take 32) = kept.take 32 from hsame] at hstripped
    constructor
    · intro hspace
      exact absurd (hstripped.head ' ' hspace) (by decide)
    · intro hspace
      exact absurd (hstripped.last ' ' hspace) (by decide)
  · rintro ⟨hfirst, hlast⟩
    refine Search.Stripped.strip_eq ⟨fun ch hch => ?_, fun ch hch => ?_⟩
    · rw [isTrimmed_of_labelChar (hchars ch (List.mem_of_head? hch)), beq_eq_false_iff_ne]
      rintro rfl
      exact hfirst hch
    · rw [isTrimmed_of_labelChar (hchars ch (List.mem_of_getLast? hch)), beq_eq_false_iff_ne]
      rintro rfl
      exact hlast hch

/-! ## Saving and loading -/

/-- What has been saved is read, as long as it fits and has no zero in it. -/
theorem readBounded_copyBounded {maxBytes : Nat} {source : List Char}
    (hsize : source.length ≤ maxBytes) (hzero : ∀ ch ∈ source, ch ≠ Char.ofNat 0) :
    readBounded maxBytes (copyBounded (maxBytes + 1) source) = source := by
  have hmin : min (maxBytes + 1 - 1) source.length = source.length := by omega
  have hzeros : maxBytes + 1 - source.length = maxBytes - source.length + 1 := by omega
  rw [readBounded, copyBounded, hmin, List.take_of_length_le (Nat.le_refl _), hzeros,
    List.set_append_right _ _ hsize]
  rw [List.set_replicate_self, List.replicate_succ, List.takeWhile_append_of_pos]
  · simp
  · exact fun ch hch => bne_iff_ne.mpr (hzero ch hch)

theorem ne_zero_of_groupChar {ch : Char} (h : groupChar ch = true) : ch ≠ Char.ofNat 0 := by
  rintro rfl
  exact absurd h (by decide)

theorem normalizeEndpointLabel_fits (value : List Char) :
    (normalizeEndpointLabel value).length ≤ maxExtensionBytes ∧
      ∀ ch ∈ normalizeEndpointLabel value, ch ≠ Char.ofNat 0 := by
  rw [normalizeEndpointLabel_eq]
  refine ⟨List.length_take_le _ _, fun ch hch => ne_zero_of_groupChar ?_⟩
  have hkeep := (List.mem_filter.mp (List.mem_of_mem_take hch)).2
  rw [labelChar, Bool.and_eq_true] at hkeep
  exact hkeep.1

theorem normalizeGroupList_fits (value : List Char) :
    (normalizeGroupList value).length ≤ maxGroupListBytes ∧
      ∀ ch ∈ normalizeGroupList value, ch ≠ Char.ofNat 0 := by
  obtain ⟨groups, h⟩ := isGroupList_normalizeGroupList value
  refine ⟨h.size, ?_⟩
  rw [h.joined]
  have hgroups := h.groups
  cases groups with
  | nil => exact fun _ h => nomatch h
  | cons group groups =>
    rw [List.forall_mem_cons] at hgroups
    intro ch hch
    rcases List.mem_append.mp hch with hch | hch
    · exact ne_zero_of_groupChar (hgroups.1.chars ch hch).1
    · obtain ⟨group', hgroup', hch⟩ := List.mem_flatMap.mp hch
      rcases List.mem_cons.mp hch with rfl | hch
      · decide
      · exact ne_zero_of_groupChar ((hgroups.2 group' hgroup').chars ch hch).1

namespace RoutingSettings

variable (s : RoutingSettings)

@[simp] theorem extension_setExtension (extension : List Char) :
    (s.setExtension extension).extension = normalizeEndpointLabel extension := by
  rw [setExtension]
  split
  · rename_i h
    exact h.symm
  · rfl

@[simp] theorem ringGroups_setRingGroups (groups : List Char) :
    (s.setRingGroups groups).ringGroups = normalizeGroupList groups := by
  rw [setRingGroups]
  split
  · rename_i h
    exact h.symm
  · rfl

@[simp] theorem extension_setRingGroups (groups : List Char) :
    (s.setRingGroups groups).extension = s.extension := by
  rw [setRingGroups]
  split <;> rfl

/-- Setting the conference groups changes neither the extension nor the ring groups. -/
theorem setConferenceGroups_eq (groups : List Char) :
    (s.setConferenceGroups groups).extension = s.extension ∧
      (s.setConferenceGroups groups).ringGroups = s.ringGroups ∧
      (s.setConferenceGroups groups).conferenceGroups = normalizeGroupList groups := by
  rw [setConferenceGroups]
  split
  · rename_i h
    exact ⟨rfl, rfl, h.symm⟩
  · simp only
    split <;> exact ⟨rfl, rfl, rfl⟩

/-- The settings after a user has entered an extension and groups. -/
def enter (extension ringGroups conferenceGroups : List Char) (s : RoutingSettings) :
    RoutingSettings :=
  ((s.setExtension extension).setRingGroups ringGroups).setConferenceGroups conferenceGroups

/-- The extension and the groups. -/
def routing (s : RoutingSettings) : List Char × List Char × List Char :=
  (s.extension, s.ringGroups, s.conferenceGroups)

theorem routing_enter (extension ringGroups conferenceGroups : List Char) :
    (s.enter extension ringGroups conferenceGroups).routing =
      (normalizeEndpointLabel extension, normalizeGroupList ringGroups,
        normalizeGroupList conferenceGroups) := by
  obtain ⟨hextension, hring, hconference⟩ :=
    ((s.setExtension extension).setRingGroups ringGroups).setConferenceGroups_eq conferenceGroups
  rw [routing, enter, hextension, hring, hconference, extension_setRingGroups,
    extension_setExtension, ringGroups_setRingGroups]

/-- Loading sets what has been saved. -/
theorem routing_load_save {extension ringGroups conferenceGroups : List Char}
    (booted : RoutingSettings) (h : s.routing = (normalizeEndpointLabel extension,
      normalizeGroupList ringGroups, normalizeGroupList conferenceGroups)) :
    (booted.load (some s.save)).routing =
      (normalizeEndpointLabel (normalizeEndpointLabel extension), normalizeGroupList ringGroups,
        normalizeGroupList conferenceGroups) := by
  obtain ⟨hextension, hring, hconference⟩ : s.extension = normalizeEndpointLabel extension ∧
      s.ringGroups = normalizeGroupList ringGroups ∧
      s.conferenceGroups = normalizeGroupList conferenceGroups := by
    rw [routing, Prod.mk.injEq, Prod.mk.injEq] at h
    exact h
  have hread : ∀ value, readBounded maxGroupListBytes
      (copyBounded (maxGroupListBytes + 1) (normalizeGroupList value)) =
        normalizeGroupList value := fun value =>
    readBounded_copyBounded (normalizeGroupList_fits value).1 (normalizeGroupList_fits value).2
  rw [load, save]
  simp only
  rw [if_pos trivial, hextension, hring, hconference, hread, hread,
    readBounded_copyBounded (normalizeEndpointLabel_fits extension).1
      (normalizeEndpointLabel_fits extension).2]
  have henter := routing_enter booted (normalizeEndpointLabel extension)
    (normalizeGroupList ringGroups) (normalizeGroupList conferenceGroups)
  rw [normalizeGroupList_idempotent, normalizeGroupList_idempotent] at henter
  exact henter

/-- Normalising what is entered again changes nothing, and the settings that are saved are the ones
    that the next boot loads, whatever it starts from. -/
structure Restores (extension ringGroups conferenceGroups : List Char)
    (device booted : RoutingSettings) : Prop where
  label : normalizeEndpointLabel (normalizeEndpointLabel extension) =
    normalizeEndpointLabel extension
  ring : normalizeGroupList (normalizeGroupList ringGroups) = normalizeGroupList ringGroups
  conference : normalizeGroupList (normalizeGroupList conferenceGroups) =
    normalizeGroupList conferenceGroups
  loaded : (booted.load (some (device.enter extension ringGroups conferenceGroups).save)).routing =
    (device.enter extension ringGroups conferenceGroups).routing

/-- The settings restore to themselves just where the extension is settled; the groups always do. -/
theorem restores_iff (extension ringGroups conferenceGroups : List Char)
    (device booted : RoutingSettings) :
    Restores extension ringGroups conferenceGroups device booted ↔ LabelSettled extension := by
  have hload := routing_load_save _ booted
    (routing_enter device extension ringGroups conferenceGroups)
  constructor
  · intro h
    exact (normalizeEndpointLabel_idempotent_iff extension).mp h.label
  · intro h
    have hsame := (normalizeEndpointLabel_idempotent_iff extension).mpr h
    refine ⟨hsame, normalizeGroupList_idempotent _, normalizeGroupList_idempotent _, ?_⟩
    rw [hload, routing_enter, hsame]

/-- The semicolon is taken away after the text has been trimmed, so the space before it stays, and
    is taken away at the next boot. -/
theorem extension_before_semicolon_changes :
    normalizeEndpointLabel "100 ;".toList = "100 ".toList ∧
      normalizeEndpointLabel "100 ".toList = "100".toList ∧
      (load (some (enter "100 ;".toList [] [] {}).save) {}).extension = "100".toList ∧
      ¬Restores "100 ;".toList [] [] {} {} := by
  refine ⟨by decide, by decide, by decide, fun h => ?_⟩
  have := h.label
  revert this
  decide

end RoutingSettings

end EsphomeVoip
