/-! # Searching and splitting lists

`find` is the place of the first occurrence of a pattern, `Clear` says that a pattern does not
begin within a part, `fields` are the maximal runs without a separator, and `lines` are the parts
that a separator of two elements ends.  What is written with separators is read back. -/

namespace Search

universe u

variable {α : Type u}

/-! ## The first occurrence -/

/-- `pat` does not begin within `a` when `b` follows. -/
def Clear (pat : List α) : List α → List α → Prop
  | [], _ => True
  | x :: a, b => ¬pat <+: x :: (a ++ b) ∧ Clear pat a b

instance decidableClear [DecidableEq α] (pat : List α) : ∀ a b, Decidable (Clear pat a b)
  | [], _ => .isTrue trivial
  | _ :: a, b => @instDecidableAnd _ _ (inferInstanceAs (Decidable (¬_))) (decidableClear pat a b)

theorem clear_append (pat a b c : List α) :
    Clear pat (a ++ b) c ↔ Clear pat a (b ++ c) ∧ Clear pat b c := by
  induction a with
  | nil => simp [Clear]
  | cons x a ih => simp only [List.cons_append, Clear, ih, List.append_assoc, and_assoc]

/-- A pattern whose first element is missing does not begin. -/
theorem clear_of_not_mem {p : α} {pat a : List α} (h : p ∉ a) (b : List α) :
    Clear (p :: pat) a b := by
  induction a with
  | nil => trivial
  | cons x a ih =>
    rw [List.mem_cons, not_or] at h
    refine ⟨?_, ih h.2⟩
    rintro ⟨t, ht⟩
    rw [List.cons_append, List.cons.injEq] at ht
    exact h.1 ht.1

/-- A pattern that does not begin when more follows does not begin without it. -/
theorem Clear.nil {pat a b : List α} (h : Clear pat a b) : Clear pat a [] := by
  induction a with
  | nil => trivial
  | cons x a ih =>
    refine ⟨fun hx => h.1 (hx.trans ?_), ih h.2⟩
    rw [List.append_nil, ← List.cons_append]
    exact List.prefix_append _ _

/-- An element that is not in the pattern ends what can be searched. -/
theorem clear_of_absent {pat a : List α} {c : α} (hc : c ∉ pat) (h : ¬pat <:+: a) (b : List α) :
    Clear pat a (c :: b) := by
  induction a with
  | nil => trivial
  | cons x a ih =>
    rw [List.infix_cons_iff, not_or] at h
    refine ⟨fun hpre => ?_, ih h.2⟩
    have hwhole : x :: a <+: x :: (a ++ c :: b) := by
      rw [← List.cons_append]
      exact List.prefix_append _ _
    by_cases hlen : pat.length ≤ (x :: a).length
    · exact h.1 (List.prefix_of_prefix_length_le hpre hwhole hlen)
    · -- the pattern reaches as far as the element
      have hlonger : x :: a ++ [c] <+: x :: (a ++ c :: b) := by
        rw [List.cons_append, List.cons_prefix_cons]
        exact ⟨rfl, b, by simp⟩
      have hin : x :: a ++ [c] <+: pat :=
        List.prefix_of_prefix_length_le hlonger hpre (by simp at hlen ⊢; omega)
      exact hc (hin.subset (by simp))

theorem clear_nil_of_absent {pat a : List α} (h : ¬pat <:+: a) : Clear pat a [] := by
  induction a with
  | nil => trivial
  | cons x a ih =>
    rw [List.infix_cons_iff, not_or] at h
    exact ⟨by rw [List.append_nil]; exact h.1, ih h.2⟩

theorem not_infix_append_cons {pat a b : List α} {c : α} (hpat : pat ≠ []) (hc : c ∉ pat)
    (ha : ¬pat <:+: a) (hb : ¬pat <:+: b) : ¬pat <:+: a ++ c :: b := by
  induction a with
  | nil =>
    rw [List.nil_append, List.infix_cons_iff, not_or]
    refine ⟨fun hpre => ?_, hb⟩
    cases pat with
    | nil => exact hpat rfl
    | cons p pat =>
      obtain ⟨rfl, -⟩ := List.cons_prefix_cons.mp hpre
      exact hc List.mem_cons_self
  | cons x a ih =>
    have hclear := clear_of_absent hc ha b
    rw [List.infix_cons_iff, not_or] at ha
    rw [List.cons_append, List.infix_cons_iff, not_or]
    exact ⟨hclear.1, ih ha.2⟩

/-- A pattern does not begin with an element that it does not have. -/
theorem not_prefix_cons {pat xs : List α} {c : α} (hpat : pat ≠ []) (hc : c ∉ pat) :
    ¬pat <+: c :: xs := by
  intro hpre
  cases pat with
  | nil => exact hpat rfl
  | cons p pat =>
    obtain ⟨rfl, -⟩ := List.cons_prefix_cons.mp hpre
    exact hc List.mem_cons_self

/-- A pattern ends in front of an element that it does not have. -/
theorem prefix_append_cons {pat a b : List α} {c : α} (hc : c ∉ pat) :
    pat <+: a ++ c :: b ↔ pat <+: a := by
  induction a generalizing pat with
  | nil =>
    cases pat with
    | nil => simp
    | cons p pat =>
      refine iff_of_false (fun h => ?_) (by simp)
      obtain ⟨rfl, -⟩ := List.cons_prefix_cons.mp h
      exact hc List.mem_cons_self
  | cons x a ih =>
    cases pat with
    | nil => simp
    | cons p pat =>
      rw [List.cons_append, List.cons_prefix_cons, List.cons_prefix_cons,
        ih fun hin => hc (List.mem_cons_of_mem _ hin)]

section Find

variable [DecidableEq α]

/-- The place of the first occurrence of `pat`. -/
def find (pat : List α) : List α → Option Nat
  | [] => if pat = [] then some 0 else none
  | x :: xs => if pat.isPrefixOf (x :: xs) then some 0 else (find pat xs).map (· + 1)

/-- The place of the first occurrence of `pat` from `pos` on. -/
def findFrom (pat xs : List α) (pos : Nat) : Option Nat := (find pat (xs.drop pos)).map (pos + ·)

/-- Where a pattern does not begin, it is found behind. -/
theorem find_append {pat a b : List α} (h : Clear pat a b) :
    find pat (a ++ b) = (find pat b).map (a.length + ·) := by
  induction a with
  | nil => simp
  | cons x a ih =>
    rw [List.cons_append, find, if_neg (by rw [List.isPrefixOf_iff_prefix]; exact h.1), ih h.2,
      Option.map_map]
    congr 1
    funext n
    simp only [Function.comp_apply, List.length_cons]
    omega

theorem find_prefix {pat b : List α} (h : pat <+: b) : find pat b = some 0 := by
  cases b with
  | nil => rw [find, if_pos (List.prefix_nil.mp h)]
  | cons x b => rw [find, if_pos (List.isPrefixOf_iff_prefix.mpr h)]

/-- A pattern behind a part in which it does not begin is found there. -/
theorem find_eq {pat a b : List α} (h : Clear pat a b) (hb : pat <+: b) :
    find pat (a ++ b) = some a.length := by
  rw [find_append h, find_prefix hb]
  rfl

theorem findFrom_eq {pat xs a b : List α} {pos : Nat} (hxs : xs.drop pos = a ++ b)
    (h : Clear pat a b) (hb : pat <+: b) : findFrom pat xs pos = some (pos + a.length) := by
  rw [findFrom, hxs, find_eq h hb]
  rfl

/-- What has been found: the pattern begins there, and not before. -/
theorem find_some {pat xs : List α} {n : Nat} (h : find pat xs = some n) :
    Clear pat (xs.take n) (xs.drop n) ∧ pat <+: xs.drop n := by
  induction xs generalizing n with
  | nil =>
    rw [find] at h
    split at h
    · rename_i hpat
      rw [hpat]
      exact ⟨by cases h; trivial, List.nil_prefix⟩
    · cases h
  | cons x xs ih =>
    rw [find] at h
    split at h
    · rename_i hpat
      cases h
      exact ⟨trivial, List.isPrefixOf_iff_prefix.mp hpat⟩
    · rename_i hpat
      obtain ⟨m, hm, rfl⟩ := Option.map_eq_some_iff.mp h
      obtain ⟨hclear, hprefix⟩ := ih hm
      refine ⟨⟨?_, hclear⟩, hprefix⟩
      rw [List.drop_succ_cons, List.take_append_drop]
      exact fun hx => hpat (List.isPrefixOf_iff_prefix.mpr hx)

theorem find_none {pat a : List α} (hpat : pat ≠ []) (h : Clear pat a []) : find pat a = none := by
  have := find_append h
  rw [List.append_nil, find, if_neg hpat] at this
  exact this

/-- A pattern is found just where it occurs. -/
theorem find_eq_none_iff {pat xs : List α} (hpat : pat ≠ []) :
    find pat xs = none ↔ ¬pat <:+: xs := by
  induction xs with
  | nil =>
    rw [find, if_neg hpat, List.infix_nil]
    exact iff_of_true rfl hpat
  | cons x xs ih =>
    rw [find, List.infix_cons_iff, ← List.isPrefixOf_iff_prefix]
    split
    · rename_i h
      exact iff_of_false (Option.some_ne_none 0) fun hnot => hnot (.inl h)
    · rename_i h
      rw [Option.map_eq_none_iff, ih, not_or]
      exact ⟨fun hnot => ⟨h, hnot⟩, And.right⟩

theorem Clear.absent {pat a b : List α} (hpat : pat ≠ []) (h : Clear pat a b) : ¬pat <:+: a :=
  (find_eq_none_iff hpat).mp (find_none hpat h.nil)

/-- A pattern is not in what comes before the place where it has been found. -/
theorem find_take {pat xs : List α} {n : Nat} (hpat : pat ≠ []) (h : find pat xs = some n) :
    find pat (xs.take n) = none :=
  find_none hpat (find_some h).1.nil

/-- A pattern that is found is found at the same place when more follows. -/
theorem find_append_left {pat xs : List α} {n : Nat} (h : find pat xs = some n)
    (ys : List α) : find pat (xs ++ ys) = some n := by
  obtain ⟨hclear, hpre⟩ := find_some h
  have hle : pat.length ≤ (xs.drop n).length := hpre.length_le
  have hn : n ≤ xs.length := by
    by_cases hpat : pat = []
    · subst hpat
      cases xs with
      | nil => cases h; exact Nat.le_refl 0
      | cons x xs =>
        rw [ find_prefix List.nil_prefix] at h
        cases h
        exact Nat.zero_le _
    · have hpos := List.length_pos_iff.mpr hpat
      rw [List.length_drop] at hle
      omega
  have hlength : (xs.take n).length = n := by rw [List.length_take]; omega
  -- nothing begins in front, since what would begin ends before the place where it is found
  have hfront : Clear pat (xs.take n) (xs.drop n ++ ys) := by
    clear h hpre hn hlength
    generalize xs.take n = a at hclear
    generalize xs.drop n = b at hclear hle
    induction a with
    | nil => trivial
    | cons x a ih =>
      refine ⟨fun hx => hclear.1 ?_, ih hclear.2⟩
      have hwhole : x :: (a ++ b) <+: x :: (a ++ (b ++ ys)) := by
        rw [← List.append_assoc, ← List.cons_append]
        exact List.prefix_append _ _
      exact List.prefix_of_prefix_length_le hx hwhole (by simp; omega)
  have := find_eq hfront (hpre.trans (List.prefix_append _ ys))
  rwa [← List.append_assoc, List.take_append_drop, hlength] at this

end Find

/-! ## Pairs

A pattern begins with its first two elements, so it does not occur where these two are never next
to each other. -/

section Pairs

variable {x y : α}

theorem not_pair_of_not_mem {l : List α} (h : y ∉ l) : ¬[x, y] <:+: l := fun hin =>
  h (hin.subset (by simp))

theorem not_pair_append {a b : List α} (ha : ¬[x, y] <:+: a) (hb : ¬[x, y] <:+: b)
    (h : b.head? ≠ some y) : ¬[x, y] <:+: a ++ b := by
  induction a with
  | nil => exact hb
  | cons z a ih =>
    rw [List.cons_append, List.infix_cons_iff, not_or]
    rw [List.infix_cons_iff, not_or] at ha
    refine ⟨?_, ih ha.2⟩
    cases a with
    | nil =>
      -- the pair would be the last element of `a` and the first one of `b`
      cases b with
      | nil => simp
      | cons w b =>
        rw [List.nil_append, List.cons_prefix_cons, List.cons_prefix_cons]
        rintro ⟨_, rfl, _⟩
        exact h rfl
    | cons w a =>
      intro hpre
      rw [List.cons_append, List.cons_prefix_cons, List.cons_prefix_cons] at hpre
      exact ha.1 (by simp [hpre.1, hpre.2.1])

/-- A part without the second element may follow. -/
theorem not_pair_append_of_not_mem {a b : List α} (ha : ¬[x, y] <:+: a) (hb : y ∉ b) :
    ¬[x, y] <:+: a ++ b :=
  not_pair_append ha (not_pair_of_not_mem hb) fun h => hb (List.mem_of_head? h)

theorem clear_of_not_pair {pat l r : List α} (h : ¬[x, y] <:+: l) (hr : r.head? ≠ some y) :
    Clear (x :: y :: pat) l r := by
  induction l with
  | nil => trivial
  | cons z l ih =>
    rw [List.infix_cons_iff, not_or] at h
    refine ⟨?_, ih h.2⟩
    rintro ⟨t, ht⟩
    rw [List.cons_append, List.cons_append, List.cons.injEq] at ht
    obtain ⟨rfl, ht⟩ := ht
    cases l with
    | nil =>
      rw [List.nil_append] at ht
      exact hr (by rw [← ht]; rfl)
    | cons w l =>
      rw [List.cons_append, List.cons.injEq] at ht
      exact h.1 (by simp [ht.1])

end Pairs

/-! ## Fields -/

/-- The runs without a separator, where `acc` holds the run that has begun, backwards. -/
def fieldsFrom (sep : α → Bool) : List α → List α → List (List α)
  | acc, [] => if acc.isEmpty then [] else [acc.reverse]
  | acc, x :: xs =>
    if sep x then
      if acc.isEmpty then fieldsFrom sep [] xs else acc.reverse :: fieldsFrom sep [] xs
    else fieldsFrom sep (x :: acc) xs

/-- The maximal runs without a separator. -/
def fields (sep : α → Bool) (xs : List α) : List (List α) := fieldsFrom sep [] xs

variable {sep : α → Bool}

theorem fieldsFrom_run {w : List α} (hw : ∀ x ∈ w, sep x = false) (acc rest : List α) :
    fieldsFrom sep acc (w ++ rest) = fieldsFrom sep (w.reverse ++ acc) rest := by
  induction w generalizing acc with
  | nil => rfl
  | cons x w ih =>
    rw [List.forall_mem_cons] at hw
    rw [List.cons_append, fieldsFrom, hw.1, if_neg (by decide), ih hw.2, List.reverse_cons,
      List.append_assoc]
    rfl

/-- A field is a run without a separator. -/
theorem fields_run {w : List α} (hw : ∀ x ∈ w, sep x = false) (hne : w ≠ []) :
    fields sep w = [w] := by
  have h := fieldsFrom_run hw [] []
  rw [List.append_nil, List.append_nil] at h
  rw [fields, h, fieldsFrom, if_neg (by simpa using hne), List.reverse_reverse]

/-- A field ends at a separator. -/
theorem fields_cons {w : List α} (hw : ∀ x ∈ w, sep x = false) (hne : w ≠ []) {s : α}
    (hs : sep s = true) (rest : List α) :
    fields sep (w ++ s :: rest) = w :: fields sep rest := by
  rw [fields, fieldsFrom_run hw, List.append_nil, fieldsFrom, if_pos hs,
    if_neg (by simpa using hne), List.reverse_reverse]
  rfl

/-- A separator in front changes nothing. -/
theorem fields_sep {s : α} (hs : sep s = true) (rest : List α) :
    fields sep (s :: rest) = fields sep rest := by
  rw [fields, fieldsFrom, if_pos hs]
  rfl

/-- Fields, each behind a separator `s`. -/
def behind (s : α) (ws : List (List α)) : List α := ws.flatMap fun w => s :: w

theorem behind_append (s : α) (ws vs : List (List α)) :
    behind s (ws ++ vs) = behind s ws ++ behind s vs := List.flatMap_append

/-- Fields with separators between them. -/
theorem intercalate_cons (s : α) (w : List α) (ws : List (List α)) :
    [s].intercalate (w :: ws) = w ++ behind s ws := by
  induction ws generalizing w with
  | nil => simp [List.intercalate, behind]
  | cons v ws ih =>
    rw [List.intercalate, List.intersperse_cons_cons, List.flatten_cons, List.flatten_cons,
      ← List.intercalate, ih, behind, behind, List.flatMap_cons]
    rfl

/-- Fields that are written with separators between them are read back. -/
theorem fields_behind {s : α} (hs : sep s = true) {w : List α} {ws : List (List α)}
    (hw : ∀ v ∈ w :: ws, v ≠ [] ∧ ∀ x ∈ v, sep x = false) :
    fields sep (w ++ behind s ws) = w :: ws := by
  induction ws generalizing w with
  | nil =>
    obtain ⟨hne, hrun⟩ := hw w List.mem_cons_self
    rw [behind, List.flatMap_nil, List.append_nil, fields_run hrun hne]
  | cons v ws ih =>
    obtain ⟨hne, hrun⟩ := hw w List.mem_cons_self
    rw [behind, List.flatMap_cons, List.cons_append, fields_cons hrun hne hs]
    exact congrArg (w :: ·) (ih fun u hu => hw u (List.mem_cons_of_mem _ hu))

/-- The last element is the last one of a field. -/
theorem getLast_behind {P : α → Prop} {s : α} {w : List α} {ws : List (List α)}
    (h : ∀ v ∈ w :: ws, v ≠ [] ∧ ∀ x ∈ v.getLast?, P x) :
    ∀ x ∈ (w ++ behind s ws).getLast?, P x := by
  induction ws generalizing w with
  | nil =>
    rw [behind, List.flatMap_nil, List.append_nil]
    exact (h w List.mem_cons_self).2
  | cons v ws ih =>
    rw [List.forall_mem_cons] at h
    obtain ⟨hne, -⟩ := h.2 v List.mem_cons_self
    have hrest := ih h.2
    rw [behind, List.flatMap_cons, ← behind, List.cons_append, List.getLast?_append,
      List.getLast?_cons]
    intro x hx
    cases hlast : (v ++ behind s ws).getLast? with
    | none => exact absurd (List.append_eq_nil_iff.mp (List.getLast?_eq_none_iff.mp hlast)).1 hne
    | some y =>
      rw [hlast, Option.getD_some, Option.some_or, Option.mem_some] at hx
      exact hx ▸ hrest y hlast

/-! ## Parts -/

section Parts

variable [DecidableEq α]

/-- What is between the separators, of which there is always one part. -/
def parts (s : α) : List α → List (List α)
  | [] => [[]]
  | x :: xs =>
    if x = s then [] :: parts s xs
    else
      match parts s xs with
      | [] => [[x]]
      | w :: ws => (x :: w) :: ws

theorem parts_of_not_mem {s : α} {w : List α} (h : s ∉ w) : parts s w = [w] := by
  induction w with
  | nil => rfl
  | cons x w ih =>
    rw [List.mem_cons, not_or] at h
    rw [parts, if_neg (Ne.symm h.1), ih h.2]

/-- A part ends at the separator. -/
theorem parts_append {s : α} {w : List α} (h : s ∉ w) (rest : List α) :
    parts s (w ++ s :: rest) = w :: parts s rest := by
  induction w with
  | nil => rw [List.nil_append, parts, if_pos rfl]
  | cons x w ih =>
    rw [List.mem_cons, not_or] at h
    rw [List.cons_append, parts, if_neg (Ne.symm h.1), ih h.2]

/-- Parts that are written with separators between them are read back. -/
theorem parts_behind {s : α} {w : List α} {ws : List (List α)} (h : ∀ v ∈ w :: ws, s ∉ v) :
    parts s (w ++ behind s ws) = w :: ws := by
  induction ws generalizing w with
  | nil =>
    rw [behind, List.flatMap_nil, List.append_nil]
    exact parts_of_not_mem (h w List.mem_cons_self)
  | cons v ws ih =>
    rw [behind, List.flatMap_cons, List.cons_append,
      parts_append (h w List.mem_cons_self)]
    exact congrArg (w :: ·) (ih fun u hu => h u (List.mem_cons_of_mem _ hu))

/-- What is between the separators, with the separators again. -/
theorem exists_parts (s : α) (xs : List α) :
    ∃ w ws, parts s xs = w :: ws ∧ xs = w ++ behind s ws ∧ ∀ v ∈ w :: ws, s ∉ v := by
  induction xs with
  | nil => exact ⟨[], [], rfl, rfl, by simp⟩
  | cons x xs ih =>
    obtain ⟨w, ws, hparts, hxs, hclean⟩ := ih
    rw [parts, hparts]
    by_cases hx : x = s
    · rw [if_pos hx]
      refine ⟨[], w :: ws, rfl, ?_, ?_⟩
      · rw [hxs, hx, behind, behind, List.flatMap_cons]
        rfl
      · rw [List.forall_mem_cons]
        exact ⟨List.not_mem_nil, hclean⟩
    · rw [if_neg hx]
      rw [List.forall_mem_cons] at hclean
      refine ⟨x :: w, ws, rfl, by rw [hxs]; rfl, ?_⟩
      rw [List.forall_mem_cons, List.mem_cons, not_or]
      exact ⟨⟨Ne.symm hx, hclean.1⟩, hclean.2⟩

omit [DecidableEq α] in
theorem infix_behind {s : α} {w : List α} {ws : List (List α)} (h : w ∈ ws) :
    w <:+: behind s ws := by
  obtain ⟨before, after, rfl⟩ := List.append_of_mem h
  refine ⟨behind s before ++ [s], behind s after, ?_⟩
  simp [behind]

/-- Parts of parts are written as the parts are. -/
theorem behind_flatMap_parts (s : α) (ws : List (List α)) :
    behind s (ws.flatMap (parts s)) = behind s ws := by
  induction ws with
  | nil => rfl
  | cons w ws ih =>
    obtain ⟨v, vs, hparts, hw, -⟩ := exists_parts s w
    rw [List.flatMap_cons, behind_append, ih, hparts, hw]
    simp [behind]

end Parts

/-! ## Cutting -/

section Cut

variable [BEq α] [LawfulBEq α]

/-- The parts before and behind the first occurrence of an element. -/
def cut (c : α) (s : List α) : Option (List α × List α) :=
  match s.dropWhile (· != c) with
  | [] => none
  | _ :: rest => some (s.takeWhile (· != c), rest)

/-- A part without the element ends at it. -/
theorem cut_eq {c : α} {s : List α} (h : c ∉ s) (rest : List α) :
    cut c (s ++ c :: rest) = some (s, rest) := by
  have hs : ∀ d ∈ s, (d != c) = true := fun d hd =>
    bne_iff_ne.mpr fun heq => h (heq ▸ hd)
  rw [cut, List.dropWhile_append_of_pos hs, List.takeWhile_append_of_pos hs]
  simp

theorem cut_none {c : α} {s : List α} (h : c ∉ s) : cut c s = none := by
  have hs : ∀ d ∈ s, (d != c) = true := fun d hd =>
    bne_iff_ne.mpr fun heq => h (heq ▸ hd)
  have hdrop : (s ++ []).dropWhile (· != c) = [] := List.dropWhile_append_of_pos hs
  rw [List.append_nil] at hdrop
  rw [cut, hdrop]

/-- What has been taken apart. -/
theorem cut_some {c : α} {s a b : List α} (h : cut c s = some (a, b)) :
    s = a ++ c :: b ∧ c ∉ a := by
  rw [cut] at h
  split at h
  · cases h
  · rename_i d rest hdrop
    cases h
    -- the rest begins with the element, and there is none before it
    have hd := List.head?_dropWhile_not (· != c) s
    rw [hdrop, List.head?_cons] at hd
    have hdc : d = c := by simpa using hd
    rw [hdc] at hdrop
    constructor
    · rw [← hdrop, List.takeWhile_append_dropWhile]
    · intro hc
      have hall := List.all_eq_true.mp (List.all_takeWhile (p := (· != c)) (l := s)) c hc
      simp at hall

/-- An element that is there takes the list apart. -/
theorem cut_of_mem {c : α} {s : List α} (h : c ∈ s) :
    ∃ a b, cut c s = some (a, b) ∧ s = a ++ c :: b ∧ c ∉ a := by
  cases hcut : cut c s with
  | none =>
    rw [cut] at hcut
    split at hcut
    · rename_i hdrop
      have htake := List.takeWhile_append_dropWhile (p := (· != c)) (l := s)
      rw [hdrop, List.append_nil] at htake
      rw [← htake] at h
      have hall := List.all_eq_true.mp (List.all_takeWhile (p := (· != c)) (l := s)) c h
      simp at hall
    · cases hcut
  | some parts => exact ⟨parts.1, parts.2, rfl, cut_some hcut⟩

end Cut

/-! ## Stripping -/

theorem takeWhile_eq_self {p : α → Bool} {xs : List α} (h : ∀ x ∈ xs, p x = true) :
    xs.takeWhile p = xs := by
  induction xs with
  | nil => rfl
  | cons x xs ih =>
    rw [List.forall_mem_cons] at h
    rw [List.takeWhile_cons_of_pos h.1, ih h.2]

theorem dropWhile_eq_nil {p : α → Bool} {xs : List α} (h : ∀ x ∈ xs, p x = true) :
    xs.dropWhile p = [] := by
  induction xs with
  | nil => rfl
  | cons x xs ih =>
    rw [List.forall_mem_cons] at h
    rw [List.dropWhile_cons_of_pos h.1, ih h.2]

/-- What has the property does not reach beyond an element without it. -/
theorem dropWhile_append_cons {p : α → Bool} {c : α} (hc : p c = false) (xs ys : List α) :
    (xs ++ c :: ys).dropWhile p = xs.dropWhile p ++ c :: ys := by
  rw [List.dropWhile_append]
  split
  · rename_i hempty
    rw [List.isEmpty_iff.mp hempty, List.dropWhile_cons_of_neg (by rw [hc]; decide)]
    rfl
  · rfl

theorem takeWhile_append_cons [BEq α] [LawfulBEq α] {xs : List α} {c : α} (h : c ∉ xs)
    (ys : List α) : (xs ++ c :: ys).takeWhile (· != c) = xs := by
  have hxs : ∀ x ∈ xs, (x != c) = true := fun x hx => bne_iff_ne.mpr fun heq => h (heq ▸ hx)
  rw [List.takeWhile_append_of_pos hxs, List.takeWhile_cons_of_neg (by simp), List.append_nil]

/-- Take away what has a property from both ends. -/
def strip (p : α → Bool) (xs : List α) : List α :=
  ((xs.dropWhile p).reverse.dropWhile p).reverse

theorem strip_isInfix (p : α → Bool) (xs : List α) : strip p xs <:+: xs := by
  have hprefix : strip p xs <+: xs.dropWhile p := by
    rw [strip, ← List.reverse_suffix, List.reverse_reverse]
    exact List.dropWhile_suffix p
  exact hprefix.isInfix.trans (List.dropWhile_suffix p).isInfix

/-- Nothing at the ends has the property. -/
structure Stripped (p : α → Bool) (xs : List α) : Prop where
  head : ∀ x ∈ xs.head?, p x = false
  last : ∀ x ∈ xs.getLast?, p x = false

theorem head_dropWhile {p : α → Bool} (xs : List α) :
    ∀ x ∈ (xs.dropWhile p).head?, p x = false := by
  intro x hx
  have := List.head?_dropWhile_not p xs
  rw [Option.mem_def.mp hx] at this
  exact this

theorem dropWhile_eq_self {p : α → Bool} {xs : List α} (h : ∀ x ∈ xs.head?, p x = false) :
    xs.dropWhile p = xs := by
  cases xs with
  | nil => rfl
  | cons x xs => rw [List.dropWhile_cons_of_neg (by rw [h x rfl]; decide)]

theorem Stripped.strip_eq {p : α → Bool} {xs : List α} (h : Stripped p xs) : strip p xs = xs := by
  rw [strip, dropWhile_eq_self h.head, dropWhile_eq_self, List.reverse_reverse]
  rw [List.head?_reverse]
  exact h.last

/-- The first and the last part decide. -/
theorem Stripped.append {p : α → Bool} {xs zs : List α} (hxs : Stripped p xs) (hzs : Stripped p zs)
    (hne : xs ≠ []) (hne' : zs ≠ []) (ys : List α) : Stripped p (xs ++ ys ++ zs) := by
  constructor
  · cases xs with
    | nil => exact absurd rfl hne
    | cons x xs => exact hxs.head
  · rw [List.getLast?_append]
    cases hlast : zs.getLast? with
    | none => exact absurd (List.getLast?_eq_none_iff.mp hlast) hne'
    | some z =>
      have := hzs.last
      rw [hlast] at this
      exact this

/-- Stripping strips. -/
theorem stripped_strip (p : α → Bool) (xs : List α) : Stripped p (strip p xs) := by
  have hhead := head_dropWhile (p := p) xs
  generalize hys : xs.dropWhile p = ys at hhead
  have hlast := head_dropWhile (p := p) ys.reverse
  rw [strip, hys]
  refine ⟨?_, by rwa [List.getLast?_reverse]⟩
  -- what is left of `ys` begins where `ys` begins
  have hsuffix : ys.reverse.dropWhile p <:+ ys.reverse := List.dropWhile_suffix p
  obtain ⟨zs, hzs⟩ := hsuffix
  intro x hx
  apply hhead
  have : ys = (ys.reverse.dropWhile p).reverse ++ zs.reverse := by
    rw [← List.reverse_append, hzs, List.reverse_reverse]
  rw [this, List.head?_append, Option.mem_def.mp hx]
  rfl

/-- What is taken away from both ends. -/
theorem exists_strip (p : α → Bool) (xs : List α) :
    ∃ front back, xs = front ++ strip p xs ++ back ∧ (∀ x ∈ front, p x = true) ∧
      ∀ x ∈ back, p x = true := by
  refine ⟨xs.takeWhile p, ((xs.dropWhile p).reverse.takeWhile p).reverse, ?_, ?_, ?_⟩
  · rw [strip, List.append_assoc, ← List.reverse_append, List.takeWhile_append_dropWhile,
      List.reverse_reverse, List.takeWhile_append_dropWhile]
  · exact fun x hx => List.all_eq_true.mp List.all_takeWhile x hx
  · intro x hx
    rw [List.mem_reverse] at hx
    exact List.all_eq_true.mp List.all_takeWhile x hx

theorem strip_append_left {p : α → Bool} {front : List α} (h : ∀ x ∈ front, p x = true)
    (xs : List α) : strip p (front ++ xs) = strip p xs := by
  rw [strip, strip, List.dropWhile_append_of_pos h]

theorem strip_append_right {p : α → Bool} {back : List α} (h : ∀ x ∈ back, p x = true)
    (xs : List α) : strip p (xs ++ back) = strip p xs := by
  have hback : ∀ x ∈ back.reverse, p x = true := fun x hx => h x (List.mem_reverse.mp hx)
  rw [strip, strip, List.dropWhile_append]
  split
  · rename_i hnil
    rw [List.isEmpty_iff] at hnil
    rw [hnil, dropWhile_eq_nil h]
  · rw [List.reverse_append, List.dropWhile_append_of_pos hback]

/-- To strip a list strips its first and its last part. -/
theorem map_strip_parts [DecidableEq α] {p : α → Bool} {s : α} (hs : p s = false) (xs : List α) :
    (parts s (strip p xs)).map (strip p) = (parts s xs).map (strip p) := by
  obtain ⟨front, back, hxs, hfront, hback⟩ := exists_strip p xs
  have hnot : ∀ ys : List α, (∀ y ∈ ys, p y = true) → s ∉ ys := by
    intro ys hys hmem
    have := hys s hmem
    rw [hs] at this
    cases this
  generalize strip p xs = inner at hxs
  obtain ⟨w, ws, hparts, hinner, hclean⟩ := exists_parts s inner
  rw [List.forall_mem_cons] at hclean
  rw [hparts, hxs, hinner]
  rcases List.eq_nil_or_concat ws with rfl | ⟨ws, last, rfl⟩
  · have hwhole : s ∉ front ++ w ++ back := by
      simp [hnot front hfront, hclean.1, hnot back hback]
    rw [behind, List.flatMap_nil, List.append_nil, parts_of_not_mem hwhole, List.map_singleton,
      List.map_singleton, strip_append_right hback, strip_append_left hfront]
  · rw [List.concat_eq_append] at hclean ⊢
    rw [List.forall_mem_append] at hclean
    have hwhole : front ++ (w ++ behind s (ws ++ [last])) ++ back =
        (front ++ w) ++ behind s (ws ++ [last ++ back]) := by
      simp [behind]
    have hlast : s ∉ last := hclean.2.2 last List.mem_cons_self
    have hclean' : ∀ v ∈ (front ++ w) :: (ws ++ [last ++ back]), s ∉ v := by
      rw [List.forall_mem_cons, List.forall_mem_append, List.forall_mem_cons, List.mem_append,
        List.mem_append, not_or, not_or]
      exact ⟨⟨hnot front hfront, hclean.1⟩, hclean.2.1, ⟨hlast, hnot back hback⟩,
        fun _ h => absurd h List.not_mem_nil⟩
    rw [hwhole, parts_behind hclean', List.map_cons, List.map_cons, List.map_append,
      List.map_append, List.map_singleton, List.map_singleton, strip_append_right hback,
      strip_append_left hfront]

/-- A list whose parts are stripped and not empty is stripped. -/
theorem stripped_of_parts [DecidableEq α] {p : α → Bool} {s : α} {xs : List α}
    (h : ∀ w ∈ parts s xs, Stripped p w ∧ w ≠ []) : Stripped p xs ∧ xs ≠ [] := by
  obtain ⟨w, ws, hparts, hxs, -⟩ := exists_parts s xs
  rw [hparts, List.forall_mem_cons] at h
  rcases List.eq_nil_or_concat ws with rfl | ⟨ws, last, rfl⟩
  · rw [hxs, behind, List.flatMap_nil, List.append_nil]
    exact h.1
  · rw [List.concat_eq_append, List.forall_mem_append, List.forall_mem_cons] at h
    rw [List.concat_eq_append, behind_append, behind, behind, List.flatMap_singleton,
      ← List.singleton_append, ← List.append_assoc, ← List.append_assoc] at hxs
    refine ⟨?_, ?_⟩
    · rw [hxs, List.append_assoc w]
      exact h.1.1.append h.2.2.1.1 h.1.2 h.2.2.1.2 _
    · rw [hxs]
      simp [h.1.2]

/-! ## Lines -/

section Lines

variable [DecidableEq α]

/-- The parts that `e` followed by `f` ends, where `acc` holds the part that has begun, backwards.
    What is left at the end is a part too, unless it is empty. -/
def linesFrom (e f : α) : List α → List α → List (List α)
  | acc, [] => if acc.isEmpty then [] else [acc.reverse]
  | acc, [x] => [(x :: acc).reverse]
  | acc, x :: y :: rest =>
    if x = e ∧ y = f then acc.reverse :: linesFrom e f [] rest
    else linesFrom e f (x :: acc) (y :: rest)

/-- The parts that `e` followed by `f` ends. -/
def lines (e f : α) (xs : List α) : List (List α) := linesFrom e f [] xs

variable {e f : α}

@[simp] theorem lines_nil : lines e f [] = [] := rfl

/-- A part without the end mark, whatever follows the mark. -/
theorem linesFrom_append {l : List α} (hef : e ≠ f) (h : ¬[e, f] <:+: l) (acc rest : List α) :
    linesFrom e f acc (l ++ e :: f :: rest) = (acc.reverse ++ l) :: lines e f rest := by
  induction l generalizing acc with
  | nil => simp [linesFrom, lines]
  | cons x l ih =>
    have hl : ¬[e, f] <:+: l := fun hin => h (hin.trans (List.suffix_cons x l).isInfix)
    have hrest := ih hl (x :: acc)
    rw [List.reverse_cons, List.append_assoc, List.singleton_append] at hrest
    cases l with
    | nil =>
      rw [List.cons_append, List.nil_append, linesFrom,
        if_neg fun hx => hef hx.2]
      exact hrest
    | cons y l =>
      rw [List.cons_append, List.cons_append, linesFrom, if_neg]
      · exact hrest
      · rintro ⟨rfl, rfl⟩
        exact h ⟨[], l, rfl⟩

theorem lines_append {l : List α} (hef : e ≠ f) (h : ¬[e, f] <:+: l) (rest : List α) :
    lines e f (l ++ e :: f :: rest) = l :: lines e f rest :=
  linesFrom_append hef h [] rest

end Lines

/-- Lines, each with the end mark. -/
def unlines (e f : α) (ls : List (List α)) : List α := ls.flatMap fun l => l ++ [e, f]

@[simp] theorem unlines_nil : unlines e f [] = [] := rfl

@[simp] theorem unlines_cons (l : List α) (ls : List (List α)) :
    unlines e f (l :: ls) = l ++ e :: f :: unlines e f ls := by
  simp [unlines]

theorem unlines_append (ls ms : List (List α)) :
    unlines e f (ls ++ ms) = unlines e f ls ++ unlines e f ms :=
  List.flatMap_append

/-- A pair that is apart from the end mark is not in the lines if it is in none of them. -/
theorem clear_unlines {x y : α} {pat : List α} (hxe : e ≠ x) (hxf : f ≠ x) (hye : e ≠ y)
    {ls : List (List α)} (h : ∀ l ∈ ls, ¬[x, y] <:+: l) (rest : List α) :
    Clear (x :: y :: pat) (unlines e f ls) rest := by
  induction ls with
  | nil => trivial
  | cons l ls ih =>
    rw [List.forall_mem_cons] at h
    rw [unlines_cons, clear_append]
    refine ⟨clear_of_not_pair h.1 (by simpa using hye), ?_, ?_, ih h.2⟩
    · exact fun hp => hxe (List.cons_prefix_cons.mp hp).1.symm
    · exact fun hp => hxf (List.cons_prefix_cons.mp hp).1.symm

/-- A pattern without the elements of the end mark is not in the lines if it is in none of them. -/
theorem clear_unlines_of_absent {e f : α} {pat : List α}
    (hpat : e ∉ pat ∧ f ∉ pat ∧ pat ≠ []) {ls : List (List α)} (h : ∀ l ∈ ls, ¬pat <:+: l)
    (rest : List α) : Clear pat (unlines e f ls) rest := by
  induction ls with
  | nil => trivial
  | cons l ls ih =>
    rw [List.forall_mem_cons] at h
    rw [unlines_cons, clear_append]
    exact ⟨clear_of_absent hpat.1 h.1 _, not_prefix_cons hpat.2.2 hpat.1,
      not_prefix_cons hpat.2.2 hpat.2.1, ih h.2⟩

section Lines

variable [DecidableEq α]

/-- Lines that are written are read back. -/
theorem lines_unlines_append (hef : e ≠ f) {ls : List (List α)}
    (h : ∀ l ∈ ls, ¬[e, f] <:+: l) (rest : List α) :
    lines e f (unlines e f ls ++ rest) = ls ++ lines e f rest := by
  induction ls with
  | nil => rfl
  | cons l ls ih =>
    rw [List.forall_mem_cons] at h
    rw [unlines_cons, List.append_assoc, List.cons_append, List.cons_append,
      lines_append hef h.1, ih h.2]
    rfl

theorem lines_unlines (hef : e ≠ f) {ls : List (List α)} (h : ∀ l ∈ ls, ¬[e, f] <:+: l) :
    lines e f (unlines e f ls) = ls := by
  have := lines_unlines_append hef h []
  rwa [List.append_nil, lines_nil, List.append_nil] at this

/-- A line that has been read has no end mark in it. -/
theorem not_infix_of_mem_lines {xs l : List α} (h : l ∈ lines e f xs) : ¬[e, f] <:+: l := by
  -- the invariant is about the part that has begun, with the element that comes next
  suffices ∀ acc, ¬[e, f] <:+: acc.reverse ++ xs.take 1 → l ∈ linesFrom e f acc xs →
      ¬[e, f] <:+: l by
    apply this [] ?_ h
    intro hin
    have hle := hin.length_le
    rw [List.reverse_nil, List.nil_append, List.length_take] at hle
    have htwo : [e, f].length = 2 := rfl
    omega
  clear h
  intro acc
  fun_induction linesFrom e f acc xs with
  | case1 acc hempty => exact fun _ h => nomatch h
  | case2 acc hempty =>
    intro hacc h
    rw [List.mem_singleton.mp h]
    simpa using hacc
  | case3 acc x =>
    intro hacc h
    rw [List.mem_singleton.mp h, List.reverse_cons]
    exact hacc
  | case4 acc x y rest hxy ih =>
    intro hacc h
    rcases List.mem_cons.mp h with rfl | h
    · exact fun hin => hacc (hin.trans (List.prefix_append _ _).isInfix)
    · refine ih ?_ h
      intro hin
      have hlen := hin.length_le
      simp only [List.reverse_nil, List.nil_append, List.length_cons, List.length_take] at hlen
      omega
  | case5 acc x y rest hxy ih =>
    intro hacc h
    refine ih ?_ h
    intro hin
    rw [List.take_succ_cons, List.take_zero, List.infix_concat_iff, List.reverse_cons] at hin
    rcases hin with ⟨t, ht⟩ | hin
    · -- the mark would be the two elements that were just read
      rw [List.append_assoc] at ht
      obtain ⟨rfl, rfl⟩ : e = x ∧ f = y := by simpa using List.append_inj_right' ht rfl
      exact hxy ⟨rfl, rfl⟩
    · exact hacc hin

end Lines

end Search
