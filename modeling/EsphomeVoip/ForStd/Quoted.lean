import EsphomeVoip.ForStd.Search

/-! # Splitting lists outside quoted text

Quoted text stands between two quotes, and an escape within it takes the next element along.  The
`parts` of a list are what separators outside quoted text separate: they are the parts of
`Search.parts`, of which some belong together. -/

namespace Quoted

universe u

variable {α : Type u} [DecidableEq α] (quote escape : α)

/-! ## Places -/

/-- Where the next element stands: outside quoted text, within it, or behind an escape. -/
inductive Place where
  | outside
  | inside
  | escaped
  deriving DecidableEq

/-- The place behind an element. -/
def next : Place → α → Place
  | .outside, x => if x = quote then .inside else .outside
  | .inside, x => if x = escape then .escaped else if x = quote then .outside else .inside
  | .escaped, _ => .inside

/-- The place behind a list. -/
def placeAfter (at' : Place) (xs : List α) : Place := xs.foldl (next quote escape) at'

/-- What is quoted in a list ends in it. -/
def Closed (xs : List α) : Prop := placeAfter quote escape .outside xs = .outside

instance (xs : List α) : Decidable (Closed quote escape xs) := by
  unfold Closed
  infer_instance

/-- `c` does not stand outside quoted text. -/
def Free (c : α) : Place → List α → Prop
  | _, [] => True
  | at', x :: xs => (at' = .outside → x ≠ c) ∧ Free c (next quote escape at' x) xs

/-- What is between the separators outside quoted text, of which there is always one part. -/
def partsFrom (s : α) : Place → List α → List (List α)
  | _, [] => [[]]
  | at', x :: xs =>
    if at' = .outside ∧ x = s then [] :: partsFrom s .outside xs
    else
      match partsFrom s (next quote escape at' x) xs with
      | [] => [[x]]
      | w :: ws => (x :: w) :: ws

/-- The parts of a list that does not begin within quoted text. -/
def parts (s : α) (xs : List α) : List (List α) := partsFrom quote escape s .outside xs

variable {quote escape : α}

theorem placeAfter_cons (at' : Place) (x : α) (xs : List α) :
    placeAfter quote escape at' (x :: xs) =
      placeAfter quote escape (next quote escape at' x) xs := rfl

/-- Without a quote, nothing is quoted. -/
theorem closed_of_not_mem {xs : List α} (h : quote ∉ xs) : Closed quote escape xs := by
  induction xs with
  | nil => rfl
  | cons x xs ih =>
    rw [List.mem_cons, not_or] at h
    rw [Closed, placeAfter_cons, next, if_neg (Ne.symm h.1)]
    exact ih h.2

/-- What stands behind a separator or a blank is quoted if it was before. -/
theorem next_outside {x : α} (h : x ≠ quote) : next quote escape .outside x = .outside := by
  rw [next, if_neg h]

theorem free_append (c : α) (at' : Place) (xs ys : List α) :
    Free quote escape c at' (xs ++ ys) ↔
      Free quote escape c at' xs ∧ Free quote escape c (placeAfter quote escape at' xs) ys := by
  induction xs generalizing at' with
  | nil => simp [Free, placeAfter]
  | cons x xs ih => rw [List.cons_append, Free, Free, ih, placeAfter_cons, and_assoc]

theorem free_of_not_mem {c : α} {xs : List α} (h : c ∉ xs) (at' : Place) :
    Free quote escape c at' xs := by
  induction xs generalizing at' with
  | nil => trivial
  | cons x xs ih =>
    rw [List.mem_cons, not_or] at h
    exact ⟨fun _ => Ne.symm h.1, ih h.2 _⟩

/-! ## Parts -/

theorem partsFrom_ne_nil (s : α) (at' : Place) (xs : List α) :
    partsFrom quote escape s at' xs ≠ [] := by
  cases xs with
  | nil => exact List.cons_ne_nil _ _
  | cons x xs =>
    rw [partsFrom]
    split
    · exact List.cons_ne_nil _ _
    · split <;> exact List.cons_ne_nil _ _

/-- Where no separator stands outside quoted text, there is one part. -/
theorem partsFrom_of_free {s : α} {at' : Place} {w : List α} (h : Free quote escape s at' w) :
    partsFrom quote escape s at' w = [w] := by
  induction w generalizing at' with
  | nil => rfl
  | cons x w ih =>
    rw [partsFrom, if_neg fun hx => h.1 hx.1 hx.2, ih h.2]

/-- A part ends at the separator behind closed quotes. -/
theorem partsFrom_append {s : α} {at' : Place} {w : List α} (h : Free quote escape s at' w)
    (hclosed : placeAfter quote escape at' w = .outside) (rest : List α) :
    partsFrom quote escape s at' (w ++ s :: rest) = w :: parts quote escape s rest := by
  induction w generalizing at' with
  | nil =>
    rw [List.nil_append, partsFrom, if_pos ⟨hclosed, rfl⟩, parts]
  | cons x w ih =>
    rw [List.cons_append, partsFrom, if_neg fun hx => h.1 hx.1 hx.2, ih h.2 hclosed]

/-- Parts that are written with separators between them are read back. -/
theorem parts_behind {s : α} {w : List α} {ws : List (List α)}
    (h : ∀ v ∈ w :: ws, Free quote escape s .outside v)
    (hclosed : ∀ v ∈ (w :: ws).dropLast, Closed quote escape v) :
    parts quote escape s (w ++ Search.behind s ws) = w :: ws := by
  induction ws generalizing w with
  | nil =>
    rw [Search.behind, List.flatMap_nil, List.append_nil]
    exact partsFrom_of_free (h w List.mem_cons_self)
  | cons v ws ih =>
    rw [List.dropLast_cons_of_ne_nil (List.cons_ne_nil _ _), List.forall_mem_cons] at hclosed
    rw [List.forall_mem_cons] at h
    rw [Search.behind, List.flatMap_cons, List.cons_append, parts,
      partsFrom_append h.1 hclosed.1]
    exact congrArg (w :: ·) (ih h.2 hclosed.2)

/-- What is between the separators, with the separators again. -/
theorem exists_partsFrom (s : α) (at' : Place) (xs : List α) :
    ∃ w ws, partsFrom quote escape s at' xs = w :: ws ∧ xs = w ++ Search.behind s ws ∧
      Free quote escape s at' w ∧ (ws ≠ [] → placeAfter quote escape at' w = .outside) ∧
      (∀ v ∈ ws, Free quote escape s .outside v) ∧
      ∀ v ∈ ws.dropLast, Closed quote escape v := by
  induction xs generalizing at' with
  | nil =>
    refine ⟨[], [], rfl, rfl, trivial, fun h => absurd rfl h, ?_, ?_⟩ <;> intro v hv <;>
      exact absurd hv List.not_mem_nil
  | cons x xs ih =>
    rw [partsFrom]
    by_cases hx : at' = .outside ∧ x = s
    · obtain ⟨w, ws, hparts, hxs, hw, hclosed, hfree, hinit⟩ := ih .outside
      rw [if_pos hx, hparts]
      refine ⟨[], w :: ws, rfl, ?_, trivial, fun _ => hx.1, ?_, ?_⟩
      · rw [hxs, hx.2, Search.behind, Search.behind, List.flatMap_cons]
        rfl
      · rw [List.forall_mem_cons]
        exact ⟨hw, hfree⟩
      · cases ws with
        | nil => exact fun v hv => absurd hv List.not_mem_nil
        | cons u ws =>
          rw [List.dropLast_cons_of_ne_nil (List.cons_ne_nil _ _), List.forall_mem_cons]
          exact ⟨hclosed (List.cons_ne_nil _ _), hinit⟩
    · obtain ⟨w, ws, hparts, hxs, hw, hclosed, hfree, hinit⟩ := ih (next quote escape at' x)
      rw [if_neg hx, hparts]
      exact ⟨x :: w, ws, rfl, by rw [hxs]; rfl, ⟨fun hout heq => hx ⟨hout, heq⟩, hw⟩, hclosed,
        hfree, hinit⟩

theorem exists_parts (s : α) (xs : List α) :
    ∃ w ws, parts quote escape s xs = w :: ws ∧ xs = w ++ Search.behind s ws ∧
      (∀ v ∈ w :: ws, Free quote escape s .outside v) ∧
      ∀ v ∈ (w :: ws).dropLast, Closed quote escape v := by
  obtain ⟨w, ws, hparts, hxs, hw, hclosed, hfree, hinit⟩ :=
    @exists_partsFrom _ _ quote escape s .outside xs
  refine ⟨w, ws, hparts, hxs, ?_, ?_⟩
  · rw [List.forall_mem_cons]
    exact ⟨hw, hfree⟩
  · cases ws with
    | nil => exact fun v hv => absurd hv List.not_mem_nil
    | cons u ws =>
      rw [List.dropLast_cons_of_ne_nil (List.cons_ne_nil _ _), List.forall_mem_cons]
      exact ⟨hclosed (List.cons_ne_nil _ _), hinit⟩

/-- The parts of the parts are the parts. -/
theorem flatMap_partsFrom (s : α) (at' : Place) (xs : List α) :
    (partsFrom quote escape s at' xs).flatMap (Search.parts s) = Search.parts s xs := by
  induction xs generalizing at' with
  | nil => rfl
  | cons x xs ih =>
    rw [partsFrom, Search.parts]
    by_cases hx : x = s
    · rw [if_pos hx]
      by_cases hout : at' = .outside
      · rw [if_pos ⟨hout, hx⟩, List.flatMap_cons, ih]
        rfl
      · rw [if_neg fun h => hout h.1, ← ih (next quote escape at' x)]
        cases hparts : partsFrom quote escape s (next quote escape at' x) xs with
        | nil => exact absurd hparts (partsFrom_ne_nil _ _ _)
        | cons w ws =>
          rw [List.flatMap_cons, List.flatMap_cons, Search.parts, if_pos hx]
          rfl
    · rw [if_neg hx, if_neg fun h => hx h.2, ← ih (next quote escape at' x)]
      cases hparts : partsFrom quote escape s (next quote escape at' x) xs with
      | nil => exact absurd hparts (partsFrom_ne_nil _ _ _)
      | cons w ws =>
        obtain ⟨v, vs, hv, -⟩ := Search.exists_parts s w
        rw [List.flatMap_cons, List.flatMap_cons, Search.parts, if_neg hx, hv]
        rfl

theorem flatMap_parts (s : α) (xs : List α) :
    (parts quote escape s xs).flatMap (Search.parts s) = Search.parts s xs :=
  flatMap_partsFrom s .outside xs

/-- What is stripped of elements that are no quotes has nothing more outside quoted text. -/
theorem Free.strip {c : α} {p : α → Bool} (hp : p quote = false) {xs : List α}
    (h : Free quote escape c .outside xs) : Free quote escape c .outside (Search.strip p xs) := by
  obtain ⟨front, back, hxs, hfront, -⟩ := Search.exists_strip p xs
  have hclosed : Closed quote escape front := closed_of_not_mem fun hmem => by
    rw [hfront quote hmem] at hp
    cases hp
  rw [hxs, List.append_assoc, free_append, hclosed, free_append] at h
  exact h.2.1

/-- An element that is no separator stands outside quoted text in one of the parts. -/
theorem free_behind {c s : α} (hs : s ≠ quote) (hc : s ≠ c) {w : List α} {ws : List (List α)}
    (h : ∀ v ∈ (w :: ws).dropLast, Closed quote escape v) :
    Free quote escape c .outside (w ++ Search.behind s ws) ↔
      ∀ v ∈ w :: ws, Free quote escape c .outside v := by
  induction ws generalizing w with
  | nil => simp [Search.behind]
  | cons v ws ih =>
    rw [List.dropLast_cons_of_ne_nil (List.cons_ne_nil _ _), List.forall_mem_cons] at h
    rw [List.forall_mem_cons, ← ih h.2, free_append, h.1, Search.behind, List.flatMap_cons,
      List.cons_append, Free, next_outside hs]
    exact and_congr_right fun _ => and_iff_right fun _ => hc

end Quoted
