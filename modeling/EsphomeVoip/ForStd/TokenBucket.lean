import EsphomeVoip.ForStd.EventRun

/-! # Token buckets

A gate lets a call pass when there is credit for it.  Whatever rule refills the credit, calls that
are paid for are no more than the credit of the start and the refills cover. -/

namespace TokenBucket

universe u v

variable {σ : Type u} {ε : Type v} (step : ε → σ → σ)

/-- The calls of a run that pass. -/
def passed (passes : ε → σ → Bool) : σ → List ε → Nat
  | _, [] => 0
  | s, e :: es => (if passes e s then 1 else 0) + passed passes (step e s) es

/-- The refills of a run together. -/
def refilled (refill : ε → σ → Nat) : σ → List ε → Nat
  | _, [] => 0
  | s, e :: es => refill e s + refilled refill (step e s) es

variable {passes : ε → σ → Bool} (credit : σ → Nat) {refill : ε → σ → Nat} {cost : Nat}
  (Inv : σ → Prop)

/-- What has passed is paid for. -/
theorem paid (hinv : ∀ e s, Inv s → Inv (step e s))
    (hstep : ∀ e s, Inv s →
      (if passes e s then cost else 0) + credit (step e s) ≤ credit s + refill e s)
    {s : σ} (hs : Inv s) (es : List ε) :
    passed step passes s es * cost + credit (EventRun.after step s es) ≤
      credit s + refilled step refill s es := by
  induction es generalizing s with
  | nil => simp [passed, refilled]
  | cons e es ih =>
    have hhead := hstep e s hs
    have htail := ih (hinv e s hs)
    rw [EventRun.after_cons, passed, refilled, Nat.add_mul]
    cases hpass : passes e s
    · rw [hpass, if_neg (by decide)] at hhead
      rw [if_neg (by decide)]
      omega
    · rw [hpass, if_pos rfl] at hhead
      rw [if_pos rfl, Nat.one_mul]
      omega

/-- From the credit of one call, no more pass than one and those that the refills pay for. -/
theorem passed_le (hinv : ∀ e s, Inv s → Inv (step e s))
    (hstep : ∀ e s, Inv s →
      (if passes e s then cost else 0) + credit (step e s) ≤ credit s + refill e s)
    {s : σ} (hs : Inv s) (hcost : 0 < cost) (hcredit : credit s ≤ cost) (es : List ε) :
    passed step passes s es ≤ 1 + refilled step refill s es / cost := by
  have hpaid := paid step credit Inv hinv hstep hs es
  have hcover : passed step passes s es * cost ≤ cost + refilled step refill s es := by omega
  calc passed step passes s es ≤ (cost + refilled step refill s es) / cost :=
        (Nat.le_div_iff_mul_le hcost).mpr hcover
    _ = 1 + refilled step refill s es / cost := by
        rw [Nat.add_div_left _ hcost, Nat.add_comm]

end TokenBucket
