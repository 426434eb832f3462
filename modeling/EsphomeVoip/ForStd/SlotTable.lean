/-! # Tables of slots

A table is a list of slots, some of which hold something.  `SlotTable.held` lists what they hold;
writing one slot and clearing several change it by what they say, up to the order. -/

namespace SlotTable

universe u v

variable {σ : Type u} {κ : Type v} (content : σ → Option κ)

/-- What the slots hold. -/
def held (slots : List σ) : List κ := slots.filterMap content

@[simp] theorem held_nil : held content [] = [] := rfl

theorem held_cons (s : σ) (slots : List σ) :
    held content (s :: slots) = (content s).toList ++ held content slots := by
  unfold held
  rw [List.filterMap_cons]
  cases content s <;> rfl

theorem length_held (slots : List σ) :
    (held content slots).length = slots.countP fun s => (content s).isSome := by
  rw [held, List.length_filterMap_eq_countP]

theorem length_held_le (slots : List σ) : (held content slots).length ≤ slots.length :=
  List.length_filterMap_le content slots

/-- Writing one slot exchanges what it held for what it holds then. -/
theorem held_set {slots : List σ} {i : Nat} {old : σ} (h : slots[i]? = some old) (new : σ) :
    ((content old).toList ++ held content (slots.set i new)).Perm
      ((content new).toList ++ held content slots) := by
  induction slots generalizing i with
  | nil => simp at h
  | cons s slots ih =>
    cases i with
    | zero =>
      obtain rfl : s = old := by simpa using h
      rw [List.set_cons_zero, held_cons, held_cons]
      exact List.perm_append_comm_assoc _ _ _
    | succ i =>
      rw [List.getElem?_cons_succ] at h
      rw [List.set_cons_succ, held_cons, held_cons]
      refine (List.perm_append_comm_assoc _ _ _).trans ?_
      refine ((ih h).append_left _).trans ?_
      exact List.perm_append_comm_assoc _ _ _

/-- Clearing the slots that meet `p` loses what they held and nothing else. -/
theorem held_clear (p : σ → Bool) (clear : σ → σ) (h : ∀ s, content (clear s) = none)
    (slots : List σ) :
    (held content slots).Perm (held content (slots.filter p) ++
      held content (slots.map fun s => if p s then clear s else s)) := by
  induction slots with
  | nil => exact .nil
  | cons s slots ih =>
    rw [List.map_cons, held_cons, held_cons, List.filter_cons]
    by_cases hp : p s
    · rw [if_pos hp, if_pos hp, held_cons, h]
      simpa using ih.append_left (content s).toList
    · rw [if_neg hp, if_neg hp]
      exact (ih.append_left _).trans (List.perm_append_comm_assoc _ _ _)

end SlotTable
