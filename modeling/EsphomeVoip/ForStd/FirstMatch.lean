/-! # The first element that matches

Changing it and erasing it, and where the others are afterwards. -/

namespace FirstMatch

universe u v

variable {α : Type u} {β : Type v}

/-- Change the first element that matches. -/
def modifyFirst (p : α → Bool) (f : α → α) : List α → List α
  | [] => []
  | x :: xs => if p x then f x :: xs else x :: modifyFirst p f xs

variable {p : α → Bool} {f : α → α}

/-- What the change does not touch is the same in every place. -/
theorem map_modifyFirst {g : α → β} {xs : List α} (h : ∀ x ∈ xs, p x = true → g (f x) = g x) :
    (modifyFirst p f xs).map g = xs.map g := by
  induction xs with
  | nil => rfl
  | cons x xs ih =>
    rw [List.forall_mem_cons] at h
    rw [modifyFirst]
    split
    · rename_i hx
      rw [List.map_cons, List.map_cons, h.1 hx]
    · rw [List.map_cons, List.map_cons, ih h.2]

@[simp] theorem length_modifyFirst (xs : List α) :
    (modifyFirst p f xs).length = xs.length := by
  induction xs with
  | nil => rfl
  | cons x xs ih =>
    rw [modifyFirst]
    split
    · rfl
    · rw [List.length_cons, List.length_cons, ih]

/-- An element is an old one or the changed one. -/
theorem mem_modifyFirst {xs : List α} {y : α} (h : y ∈ modifyFirst p f xs) :
    y ∈ xs ∨ ∃ x ∈ xs, p x = true ∧ y = f x := by
  induction xs with
  | nil => cases h
  | cons x xs ih =>
    rw [modifyFirst] at h
    split at h
    · rename_i hx
      rcases List.mem_cons.mp h with rfl | h
      · exact .inr ⟨x, List.mem_cons_self, hx, rfl⟩
      · exact .inl (List.mem_cons_of_mem _ h)
    · rcases List.mem_cons.mp h with rfl | h
      · exact .inl List.mem_cons_self
      · rcases ih h with h | ⟨z, hz, hp, hy⟩
        · exact .inl (List.mem_cons_of_mem _ h)
        · exact .inr ⟨z, List.mem_cons_of_mem _ hz, hp, hy⟩

/-- A change that changes nothing. -/
theorem modifyFirst_eq_self {xs : List α} (h : ∀ x ∈ xs.find? p, f x = x) :
    modifyFirst p f xs = xs := by
  induction xs with
  | nil => rfl
  | cons x xs ih =>
    rw [modifyFirst]
    rw [List.find?_cons] at h
    split
    · rename_i hx
      rw [hx] at h
      rw [h x rfl]
    · rename_i hx
      rw [Bool.not_eq_true] at hx
      rw [hx] at h
      rw [ih h]

/-- The first match after a change that keeps it. -/
theorem find_modifyFirst (h : ∀ x, p (f x) = p x) (xs : List α) :
    (modifyFirst p f xs).find? p = (xs.find? p).map f := by
  induction xs with
  | nil => rfl
  | cons x xs ih =>
    rw [modifyFirst]
    split
    · rename_i hx
      rw [List.find?_cons, h, hx, List.find?_cons, hx]
      rfl
    · rename_i hx
      rw [Bool.not_eq_true] at hx
      rw [List.find?_cons, hx, List.find?_cons, hx, ih]

/-- Where one element at most matches, it is changed wherever it is. -/
theorem modifyFirst_eq_map {xs : List α} (h : xs.Pairwise fun x y => p x = true → p y = false) :
    modifyFirst p f xs = xs.map fun x => if p x then f x else x := by
  induction xs with
  | nil => rfl
  | cons x xs ih =>
    rw [List.pairwise_cons] at h
    rw [modifyFirst, List.map_cons]
    split
    · rename_i hx
      rw [List.map_congr_left (g := id) fun y hy => by
        rw [if_neg (by rw [h.1 y hy hx]; decide)]; rfl,
        List.map_id]
    · rw [ih h.2]

/-! ## Erasing by a key

For each key of a list, the first element with that key is erased.  If the keys are those of some
elements, these are the ones that are erased just where no other element with the same key is in
front of one of them. -/

section EraseKeys

variable {κ : Type v} [DecidableEq κ]

/-- For each key, erase the first element that has it. -/
def eraseKeys (key : α → κ) (ks : List κ) (xs : List α) : List α :=
  ks.foldl (fun xs k => xs.eraseP fun x => key x == k) xs

variable {key : α → κ} {stale : α → Bool}

theorem filter_eraseP_self (xs : List α) : (xs.eraseP p).filter p = (xs.filter p).drop 1 := by
  induction xs with
  | nil => rfl
  | cons x xs ih =>
    cases hx : p x with
    | true => rw [List.eraseP_cons_of_pos hx, List.filter_cons_of_pos hx, List.drop_succ_cons,
        List.drop_zero]
    | false =>
      rw [List.eraseP_cons_of_neg (by simp [hx]), List.filter_cons_of_neg (by simp [hx]),
        List.filter_cons_of_neg (by simp [hx]), ih]

theorem filter_eraseP_other {q : α → Bool} (h : ∀ x, p x = true → q x = false) (xs : List α) :
    (xs.eraseP p).filter q = xs.filter q := by
  induction xs with
  | nil => rfl
  | cons x xs ih =>
    cases hx : p x with
    | true => rw [List.eraseP_cons_of_pos hx, List.filter_cons_of_neg (by simp [h x hx])]
    | false => rw [List.eraseP_cons_of_neg (by simp [hx]), List.filter_cons, List.filter_cons, ih]

theorem eraseKeys_sublist (ks : List κ) (xs : List α) : (eraseKeys key ks xs).Sublist xs := by
  induction ks generalizing xs with
  | nil => exact List.Sublist.refl xs
  | cons k ks ih => exact (ih _).trans List.eraseP_sublist

/-- Of the elements with a key, as many are erased as there are such keys. -/
theorem filter_eraseKeys (ks : List κ) (xs : List α) (k : κ) :
    (eraseKeys key ks xs).filter (fun x => key x == k) =
      (xs.filter fun x => key x == k).drop (ks.count k) := by
  induction ks generalizing xs with
  | nil => rfl
  | cons l ks ih =>
    rw [eraseKeys, List.foldl_cons, ← eraseKeys, ih, List.count_cons]
    by_cases hl : l = k
    · subst hl
      rw [filter_eraseP_self, List.drop_drop, beq_self_eq_true, if_pos rfl]
      congr 1
      omega
    · rw [filter_eraseP_other, if_neg (by simpa using hl), Nat.add_zero]
      intro x hx
      rw [beq_iff_eq] at hx
      rw [hx]
      exact beq_eq_false_iff_ne.mpr hl

/-- If what is left behind some first elements is what is not stale, these are the stale ones. -/
theorem pairwise_of_filter_eq_drop {xs : List α} (hnodup : xs.Nodup)
    (h : xs.filter (fun x => !stale x) = xs.drop (xs.countP stale)) :
    xs.Pairwise fun x y => stale y = true → stale x = true := by
  induction xs with
  | nil => exact List.Pairwise.nil
  | cons x xs ih =>
    rw [List.nodup_cons] at hnodup
    cases hx : stale x with
    | true =>
      rw [List.filter_cons_of_neg (by simp [hx]), List.countP_cons_of_pos hx,
        List.drop_succ_cons] at h
      exact List.Pairwise.cons (fun _ _ _ => hx) (ih hnodup.2 h)
    | false =>
      rw [List.filter_cons_of_pos (by simp [hx]), List.countP_cons_of_neg (by simp [hx])] at h
      -- were there a stale element, the first one would be erased
      cases hcount : xs.countP stale with
      | zero =>
        rw [List.countP_eq_zero] at hcount
        refine List.Pairwise.cons (fun y hy hstale => absurd hstale (hcount y hy)) ?_
        rw [List.pairwise_iff_forall_sublist]
        intro y z hsub hstale
        exact absurd hstale (hcount z (hsub.subset (by simp)))
      | succ n =>
        rw [hcount, List.drop_succ_cons] at h
        have hmem : x ∈ xs.drop n := by
          rw [← h]
          exact List.mem_cons_self
        exact absurd (List.mem_of_mem_drop hmem) hnodup.1

theorem eraseKeys_of_pairwise {xs : List α}
    (h : xs.Pairwise fun x y => key x = key y → stale y = true → stale x = true) :
    eraseKeys key ((xs.filter stale).map key) xs = xs.filter fun x => !stale x := by
  -- by induction on the stale elements, from the first one on
  generalize hn : xs.length = n
  induction n generalizing xs with
  | zero =>
    rw [List.length_eq_zero_iff] at hn
    subst hn
    rfl
  | succ n ih =>
    cases hfind : xs.find? stale with
    | none =>
      rw [List.find?_eq_none] at hfind
      have hnone : xs.filter stale = [] := List.filter_eq_nil_iff.mpr hfind
      rw [hnone]
      exact (List.filter_eq_self.mpr fun x hx => by simpa using hfind x hx).symm
    | some x =>
      obtain ⟨hstale, before, behind, rfl, hbefore⟩ := List.find?_eq_some_iff_append.mp hfind
      have hbefore' : ∀ y ∈ before, stale y = false := fun y hy => by simpa using hbefore y hy
      have hfirst : ∀ y ∈ before, key y ≠ key x := by
        intro y hy hkey
        have := (List.pairwise_append.mp h).2.2 y hy x List.mem_cons_self hkey hstale
        rw [hbefore' y hy] at this
        cases this
      have hnone : before.filter stale = [] :=
        List.filter_eq_nil_iff.mpr fun y hy => by simp [hbefore' y hy]
      have herase : (before ++ x :: behind).eraseP (fun y => key y == key x) =
          before ++ behind := by
        rw [List.eraseP_append_right _ fun y hy => by simpa using hfirst y hy,
          List.eraseP_cons_of_pos (by simp)]
      have hrest := ih (h.sublist (List.Sublist.append_left (List.sublist_cons_self x behind) _))
        (by simp only [List.length_append, List.length_cons] at hn ⊢; omega)
      rw [List.filter_append, hnone, List.nil_append] at hrest
      rw [List.filter_append, hnone, List.nil_append, List.filter_cons_of_pos hstale,
        List.map_cons, eraseKeys, List.foldl_cons, herase, ← eraseKeys, hrest, List.filter_append,
        List.filter_append, List.filter_cons_of_neg (by simp [hstale])]

/-- Erasing by the keys of the stale elements erases them just where no other element with the same
    key is in front of one. -/
theorem eraseKeys_stale_iff {xs : List α} (hnodup : xs.Nodup) :
    eraseKeys key ((xs.filter stale).map key) xs = xs.filter (fun x => !stale x) ↔
      xs.Pairwise fun x y => key x = key y → stale y = true → stale x = true := by
  refine ⟨fun h => ?_, eraseKeys_of_pairwise⟩
  rw [List.pairwise_iff_forall_sublist]
  intro x y hsub hkey
  have hcount : ((xs.filter stale).map key).count (key x) =
      (xs.filter fun z => key z == key x).countP stale := by
    rw [List.count, List.countP_map, List.countP_filter, List.countP_filter]
    congr 1
    funext z
    exact Bool.and_comm _ _
  have hfilter := @filter_eraseKeys α κ _ key ((xs.filter stale).map key) xs (key x)
  have hcomm : (xs.filter fun z => !stale z).filter (fun z => key z == key x) =
      (xs.filter fun z => key z == key x).filter fun z => !stale z := by
    rw [List.filter_filter, List.filter_filter]
    congr 1
    funext z
    exact Bool.and_comm _ _
  rw [h, hcount, hcomm] at hfilter
  have := pairwise_of_filter_eq_drop (hnodup.sublist List.filter_sublist) hfilter
  rw [List.pairwise_filter] at this
  exact List.pairwise_iff_forall_sublist.mp this hsub (beq_self_eq_true _)
    (beq_iff_eq.mpr hkey.symm)

end EraseKeys

end FirstMatch
