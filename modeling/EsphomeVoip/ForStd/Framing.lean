/-! # Cutting a stream into frames

A decoder looks at the items that are buffered and says whether they begin with a whole frame, have
to wait for more, or can never be cut.  A decoder that does not change its mind when more arrives
cuts the same frames however the stream was split. -/

namespace Framing

universe u v

/-- What a decoder says of the buffered items. -/
inductive Verdict (ε : Type v) where
  | wait
  /-- The first `n` items are a frame. -/
  | frame (n : Nat)
  | reject (e : ε)
  deriving DecidableEq

/-- A decoder whose verdict stands when more items arrive. -/
structure Decoder (α : Type u) (ε : Type v) where
  look : List α → Verdict ε
  look_nil : look [] = .wait
  frame_pos : ∀ {xs n}, look xs = .frame n → 0 < n ∧ n ≤ xs.length
  stable : ∀ xs ys, look xs ≠ .wait → look (xs ++ ys) = look xs

/-- A stream that is being cut. -/
@[ext]
structure Intake (α : Type u) (ε : Type v) where
  /-- The frames handed on, oldest first. -/
  delivered : List (List α) := []
  buffer : List α := []
  error : Option ε := none
  deriving DecidableEq

variable {α : Type u} {ε : Type v} (d : Decoder α ε) (keep : List (List α) → Bool)

/-- The stream has not failed, and its consumer goes on after what it was handed. -/
def Intake.live (s : Intake α ε) : Bool := s.error.isNone && keep s.delivered

/-- More items arrive. -/
def push (xs : List α) (s : Intake α ε) : Intake α ε :=
  if s.live keep then { s with buffer := s.buffer ++ xs } else s

/-- Hand on the frames that the buffer begins with, while the consumer goes on. -/
def drain (s : Intake α ε) : Intake α ε :=
  if s.live keep = false then { s with buffer := [] }
  else match _h : d.look s.buffer with
    | .wait => s
    | .reject e => { s with buffer := [], error := some e }
    | .frame n =>
      drain { s with
        delivered := s.delivered ++ [s.buffer.take n]
        buffer := s.buffer.drop n }
termination_by s.buffer.length
decreasing_by
  have hn := d.frame_pos _h
  simp only [List.length_drop]
  omega

/-! ## The loop -/

variable {d keep}

theorem drain_dead {s : Intake α ε} (h : s.live keep = false) :
    drain d keep s = { s with buffer := [] } := by
  unfold drain
  rw [if_pos h]

theorem drain_wait {s : Intake α ε} (h : s.live keep = true) (hl : d.look s.buffer = .wait) :
    drain d keep s = s := by
  unfold drain
  rw [if_neg (by simp [h])]
  split
  · rfl
  · rename_i e he
    rw [hl] at he
    cases he
  · rename_i n hn
    rw [hl] at hn
    cases hn

theorem drain_reject {s : Intake α ε} {e : ε} (h : s.live keep = true)
    (hl : d.look s.buffer = .reject e) :
    drain d keep s = { s with buffer := [], error := some e } := by
  unfold drain
  rw [if_neg (by simp [h])]
  split
  · rename_i he
    rw [hl] at he
    cases he
  · rename_i e' he
    rw [hl] at he
    cases he
    rfl
  · rename_i n hn
    rw [hl] at hn
    cases hn

theorem drain_frame {s : Intake α ε} {n : Nat} (h : s.live keep = true)
    (hl : d.look s.buffer = .frame n) :
    drain d keep s = drain d keep { s with
      delivered := s.delivered ++ [s.buffer.take n]
      buffer := s.buffer.drop n } := by
  rw [drain]
  rw [if_neg (by simp [h])]
  split
  · rename_i he
    rw [hl] at he
    cases he
  · rename_i e he
    rw [hl] at he
    cases he
  · rename_i m hm
    rw [hl] at hm
    cases hm
    rfl

theorem push_of_dead {s : Intake α ε} (h : s.live keep = false) (xs : List α) :
    push keep xs s = s := by
  unfold push
  rw [if_neg (by simp [h])]

theorem push_of_live {s : Intake α ε} (h : s.live keep = true) (xs : List α) :
    push keep xs s = { s with buffer := s.buffer ++ xs } := by
  unfold push
  rw [if_pos h]

@[simp] theorem push_nil (s : Intake α ε) : push keep [] s = s := by
  unfold push
  split
  · rw [List.append_nil]
  · rfl

theorem push_push (xs ys : List α) (s : Intake α ε) :
    push keep ys (push keep xs s) = push keep (xs ++ ys) s := by
  by_cases h : s.live keep = true
  · rw [push_of_live h, push_of_live h, push_of_live (by exact h), List.append_assoc]
  · have hd := Bool.eq_false_iff.2 h
    rw [push_of_dead hd, push_of_dead hd, push_of_dead hd]

/-- A stream that was drained between two arrivals ends as if both had arrived at once. -/
theorem drain_push_drain (ys : List α) (s : Intake α ε) :
    drain d keep (push keep ys (drain d keep s)) = drain d keep (push keep ys s) := by
  induction hlen : s.buffer.length using Nat.strongRecOn generalizing s with
  | ind k ih =>
    by_cases h : s.live keep = true
    · cases hl : d.look s.buffer with
      | wait => rw [drain_wait h hl]
      | reject e =>
        have hmore : d.look (s.buffer ++ ys) = .reject e := by
          rw [d.stable _ _ (by rw [hl]; nofun), hl]
        have hlive : Intake.live keep { s with buffer := s.buffer ++ ys } = true := h
        have hdead : Intake.live keep { s with buffer := [], error := some e } = false := rfl
        rw [drain_reject h hl, push_of_dead hdead, drain_dead hdead, push_of_live h,
          drain_reject hlive hmore]
      | frame n =>
        obtain ⟨hpos, hle⟩ := d.frame_pos hl
        have hmore : d.look (s.buffer ++ ys) = .frame n := by
          rw [d.stable _ _ (by rw [hl]; nofun), hl]
        have hlive : Intake.live keep { s with buffer := s.buffer ++ ys } = true := h
        rw [drain_frame h hl, push_of_live h, drain_frame hlive hmore]
        simp only [List.take_append_of_le_length hle, List.drop_append_of_le_length hle]
        generalize hs' : ({ s with
          delivered := s.delivered ++ [s.buffer.take n]
          buffer := s.buffer.drop n } : Intake α ε) = s'
        have hbuf : s'.buffer = s.buffer.drop n := hs' ▸ rfl
        have hshort : s'.buffer.length < k := by
          rw [hbuf, List.length_drop]
          omega
        rw [ih _ hshort s' rfl]
        by_cases h' : s'.live keep = true
        · rw [push_of_live h', ← hs']
        · have hd := Bool.eq_false_iff.2 h'
          rw [push_of_dead hd, drain_dead hd, drain_dead (by rw [← hs'] at hd; exact hd), ← hs']
    · have hd := Bool.eq_false_iff.2 h
      have hd' : Intake.live keep { s with buffer := ([] : List α) } = false := hd
      rw [drain_dead hd, push_of_dead hd', drain_dead hd', push_of_dead hd, drain_dead hd]

/-- Draining twice is draining once. -/
theorem drain_drain (s : Intake α ε) : drain d keep (drain d keep s) = drain d keep s := by
  have h : drain d keep (push keep [] (drain d keep s)) = drain d keep (push keep [] s) :=
    drain_push_drain [] s
  rwa [push_nil, push_nil] at h

/-- A consumer that has stopped makes no use of what was buffered. -/
theorem drain_push (xs : List α) (s : Intake α ε) :
    drain d keep (push keep xs s) = drain d keep { s with buffer := s.buffer ++ xs } := by
  by_cases h : s.live keep = true
  · rw [push_of_live h]
  · have hd := Bool.eq_false_iff.2 h
    have hd' : Intake.live keep { s with buffer := s.buffer ++ xs } = false := hd
    rw [push_of_dead hd, drain_dead hd, drain_dead hd']

/-- Draining never fills the buffer. -/
theorem length_drain_le (s : Intake α ε) :
    (drain d keep s).buffer.length ≤ s.buffer.length := by
  induction hlen : s.buffer.length using Nat.strongRecOn generalizing s with
  | ind k ih =>
    by_cases h : s.live keep = true
    · cases hl : d.look s.buffer with
      | wait =>
        rw [drain_wait h hl]
        exact Nat.le_of_eq hlen
      | reject e =>
        rw [drain_reject h hl]
        exact Nat.zero_le _
      | frame n =>
        have hn := d.frame_pos hl
        rw [drain_frame h hl]
        have hdrop := List.length_drop (i := n) (l := s.buffer)
        have hle := ih (s.buffer.drop n).length (by omega) { s with
          delivered := s.delivered ++ [s.buffer.take n]
          buffer := s.buffer.drop n } rfl
        omega
    · rw [drain_dead (Bool.eq_false_iff.2 h)]
      exact Nat.zero_le _

theorem drain_start : drain d keep ({} : Intake α ε) = {} := by
  by_cases h : Intake.live keep ({} : Intake α ε) = true
  · exact drain_wait h d.look_nil
  · exact drain_dead (Bool.eq_false_iff.2 h)

/-! ## Whole frames -/

/-- What a consumer that was handed `done` takes of the frames that follow. -/
def heard (keep : List (List α) → Bool) : List (List α) → List (List α) → List (List α)
  | done, [] => done
  | done, m :: ms => if keep done then heard keep (done ++ [m]) ms else done

/-- A buffer that begins with whole frames is drained of them, in order. -/
theorem drain_frames {ms : List (List α)} (h : ∀ m ∈ ms, d.look m = .frame m.length)
    (done : List (List α)) (rest : List α) :
    drain d keep { delivered := done, buffer := ms.flatten ++ rest } =
      drain d keep { delivered := heard keep done ms, buffer := rest } := by
  induction ms generalizing done with
  | nil => rfl
  | cons m ms ih =>
    unfold heard
    by_cases hk : keep done = true
    · rw [if_pos hk]
      have hlook : d.look (m ++ (ms.flatten ++ rest)) = .frame m.length := by
        have hm := h m List.mem_cons_self
        rw [d.stable _ _ (by rw [hm]; nofun), hm]
      rw [List.flatten_cons, List.append_assoc, drain_frame (by simpa [Intake.live] using hk) hlook,
        ← ih (fun m hm => h m (List.mem_cons_of_mem _ hm))]
      simp only [List.take_left, List.drop_left]
    · have hdead (xs : List α) : Intake.live keep
          ({ delivered := done, buffer := xs } : Intake α ε) = false := by
        simpa [Intake.live] using hk
      rw [if_neg hk, drain_dead (hdead _), drain_dead (hdead _)]

end Framing
