/-! # Scanning loops

`seek` goes forward to the first place that it is looking for, `retreat` goes back over the places
that it may leave behind.  Both are loops over an index. -/

namespace Scan

/-- The first place from `i` on at which `stop` holds, looking at `fuel` places at most. -/
def seek (stop : Nat → Bool) : Nat → Nat → Nat
  | 0, i => i
  | fuel + 1, i => if stop i = true then i else seek stop fuel (i + 1)

/-- Step back from a place while it is above `low` and `leave` holds of the place before it. -/
def retreat (leave : Nat → Bool) (low : Nat) : Nat → Nat
  | 0 => 0
  | i + 1 => if low < i + 1 ∧ leave i = true then retreat leave low i else i + 1

/-- A place that is looked for is found from every place before it that has none in between. -/
theorem seek_eq {stop : Nat → Bool} {fuel i j : Nat} (hle : i ≤ j) (hfuel : j - i ≤ fuel)
    (between : ∀ m, i ≤ m → m < j → stop m = false) (hit : stop j = true) :
    seek stop fuel i = j := by
  induction fuel generalizing i with
  | zero =>
    have : i = j := by omega
    exact this
  | succ fuel ih =>
    rw [seek]
    by_cases h : i = j
    · subst h
      rw [if_pos hit]
    · rw [if_neg (by simp [between i (Nat.le_refl i) (by omega)])]
      exact ih (by omega) (by omega) (fun m hm => between m (by omega))

theorem le_seek (stop : Nat → Bool) (fuel i : Nat) : i ≤ seek stop fuel i := by
  induction fuel generalizing i with
  | zero => exact Nat.le_refl i
  | succ fuel ih =>
    rw [seek]
    split
    · exact Nat.le_refl i
    · exact Nat.le_trans (Nat.le_succ i) (ih (i + 1))

/-- Going back stops behind the last place that may not be left. -/
theorem retreat_eq {leave : Nat → Bool} {low i j : Nat} (hle : j ≤ i) (hlow : low ≤ j)
    (between : ∀ m, j ≤ m → m < i → leave m = true)
    (stay : low < j → leave (j - 1) = false) : retreat leave low i = j := by
  induction i with
  | zero =>
    have : j = 0 := by omega
    rw [retreat, this]
  | succ i ih =>
    rw [retreat]
    by_cases h : j = i + 1
    · subst h
      rw [if_neg]
      rintro ⟨hl, hleave⟩
      rw [show i = i + 1 - 1 from rfl, stay hl] at hleave
      exact Bool.false_ne_true hleave
    · rw [if_pos ⟨by omega, between i (by omega) (Nat.lt_succ_self i)⟩]
      exact ih (by omega) (fun m hm hi => between m hm (by omega))

/-- What is kept up to the first element that fails is all that may be kept, just where no element
that fails stands before one that does not. -/
theorem takeWhile_eq_filter_iff {α : Type u} {p : α → Bool} {l : List α} :
    l.takeWhile p = l.filter p ↔ l.Pairwise fun x y => p y = true → p x = true := by
  induction l with
  | nil => exact iff_of_true rfl .nil
  | cons a l ih =>
    rw [List.pairwise_cons]
    by_cases ha : p a = true
    · rw [List.takeWhile_cons_of_pos ha, List.filter_cons_of_pos ha, List.cons_inj_right, ih]
      exact (and_iff_right fun _ _ _ => ha).symm
    · rw [List.takeWhile_cons_of_neg ha, List.filter_cons_of_neg ha, eq_comm,
        List.filter_eq_nil_iff]
      constructor
      · intro hnone
        refine ⟨fun y hy hpy => absurd hpy (hnone y hy), ?_⟩
        exact List.Pairwise.imp_of_mem (fun _ hy _ hpy => absurd hpy (hnone _ hy))
          (List.pairwise_of_forall fun _ _ => trivial)
      · intro h y hy hpy
        exact ha (h.1 y hy hpy)

end Scan
