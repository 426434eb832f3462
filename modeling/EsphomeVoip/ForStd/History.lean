/-! # Histories

A history is a list of entries, most recent first, that only grows.  `Always P` says that every
entry met the condition `P` together with the entries before it, so what holds of an entry keeps
holding of it.  `since p` is what happened after the last entry that `p` marks. -/

namespace History

universe u

variable {α : Type u} {P Q : α → List α → Prop} {p q : α → Bool} {e : α} {l l' new : List α}

/-- Every entry meets the condition together with what was before it. -/
def Always (P : α → List α → Prop) : List α → Prop
  | [] => True
  | e :: l => P e l ∧ Always P l

@[simp] theorem always_nil : Always P [] := trivial

@[simp] theorem always_cons : Always P (e :: l) ↔ P e l ∧ Always P l := Iff.rfl

/-- An entry of the history met the condition when it was made. -/
theorem Always.at (h : Always P l) {pre : List α} (hpre : e :: pre <:+ l) : P e pre := by
  induction l with
  | nil => exact absurd (List.suffix_nil.1 hpre) (by nofun)
  | cons e' l ih =>
    rcases List.suffix_cons_iff.1 hpre with heq | hsuffix
    · cases heq
      exact h.1
    · exact ih h.2 hsuffix

theorem Always.mono (hPQ : ∀ e l, P e l → Q e l) (h : Always P l) : Always Q l := by
  induction l with
  | nil => trivial
  | cons e l ih => exact ⟨hPQ e l h.1, ih h.2⟩

theorem Always.of_suffix (h : Always P l) (hl : l' <:+ l) : Always P l' := by
  induction l with
  | nil =>
    rw [List.suffix_nil.1 hl]
    trivial
  | cons e l ih =>
    rcases List.suffix_cons_iff.1 hl with rfl | hsuffix
    · exact h
    · exact ih h.2 hsuffix

/-- Entries that meet the condition after any others can be added. -/
theorem Always.append (h : Always P l) (hnew : ∀ e ∈ new, ∀ before, P e before) :
    Always P (new ++ l) := by
  induction new with
  | nil => exact h
  | cons e new ih =>
    exact ⟨hnew e List.mem_cons_self _, ih fun e' he' => hnew e' (List.mem_cons_of_mem _ he')⟩

/-! ## What happened since -/

/-- What happened after the last entry that `p` marks. -/
def since (p : α → Bool) (l : List α) : List α := l.takeWhile fun e => !p e

theorem since_cons_of_marked (h : p e = true) : since p (e :: l) = [] := by
  simp [since, h]

@[simp] theorem since_nil : since p ([] : List α) = [] := rfl

theorem since_cons (h : p e = false) : since p (e :: l) = e :: since p l := by
  simp [since, h]

theorem since_append (h : ∀ e ∈ new, p e = false) : since p (new ++ l) = new ++ since p l := by
  induction new with
  | nil => rfl
  | cons e new ih =>
    have hnew : since p (new ++ l) = new ++ since p l :=
      ih fun e' he' => h e' (List.mem_cons_of_mem _ he')
    rw [List.cons_append, since_cons (h e List.mem_cons_self), hnew, List.cons_append]

theorem not_marked_of_mem_since (h : e ∈ since p l) : p e = false := by
  induction l with
  | nil => cases h
  | cons e' l ih =>
    cases he' : p e' with
    | true =>
      rw [since_cons_of_marked he'] at h
      cases h
    | false =>
      rw [since_cons he'] at h
      rcases List.mem_cons.1 h with rfl | h
      · exact he'
      · exact ih h

/-- A history with a marked entry is what happened since the last one, that one, and the rest. -/
theorem exists_eq_since (h : ∃ e ∈ l, p e = true) :
    ∃ e older, p e = true ∧ l = since p l ++ e :: older := by
  induction l with
  | nil =>
    obtain ⟨e, he, _⟩ := h
    cases he
  | cons e' l ih =>
    cases he' : p e' with
    | true => exact ⟨e', l, he', by rw [since_cons_of_marked he', List.nil_append]⟩
    | false =>
      obtain ⟨e, he, hmarked⟩ := h
      have hrest : ∃ e ∈ l, p e = true := by
        rcases List.mem_cons.1 he with rfl | he
        · exact nomatch he'.symm.trans hmarked
        · exact ⟨e, he, hmarked⟩
      obtain ⟨e, older, hmarked, hl⟩ := ih hrest
      exact ⟨e, older, hmarked, by rw [since_cons he', List.cons_append, ← hl]⟩

/-- If an entry that `q` marks is always the first since the last one that `p` marks, then there is
    at most one of them wherever `p` marks none. -/
theorem Always.countP_le_one
    (h : Always (fun e before => q e = true → ∀ e' ∈ since p before, q e' = false) l)
    {newer older : List α} (hl : l = newer ++ new ++ older) (hnew : ∀ e ∈ new, p e = false) :
    new.countP q ≤ 1 := by
  have hpart : Always (fun e before => q e = true → ∀ e' ∈ since p before, q e' = false)
      (new ++ older) := h.of_suffix ⟨newer, by rw [hl, List.append_assoc]⟩
  clear h hl
  induction new with
  | nil => simp
  | cons e new ih =>
    have hrest (e' : α) (he' : e' ∈ new) : p e' = false := hnew e' (List.mem_cons_of_mem _ he')
    cases he : q e with
    | false =>
      rw [List.countP_cons_of_neg (by simp [he])]
      exact ih hrest hpart.2
    | true =>
      have hnone : new.countP q = 0 := by
        refine List.countP_eq_zero.2 fun e' he' => ?_
        have hmem : e' ∈ since p (new ++ older) := by
          rw [since_append hrest]
          exact List.mem_append_left _ he'
        rw [hpart.1 he e' hmem]
        exact Bool.false_ne_true
      have hone := List.countP_cons_of_pos (l := new) he
      omega

end History
