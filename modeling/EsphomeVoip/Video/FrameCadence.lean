import EsphomeVoip.ForStd.Bytes
import EsphomeVoip.ForStd.TokenBucket

/-! # The cadence of frames (`video.h`)

`RtpFrameCadence90k` lets a frame pass when the timestamps have gone on by an interval since the
last one.  What is left over is kept as credit, so that the average rate is met; only a step of two
intervals or more does away with it. -/

namespace EsphomeVoip

/-! ## The bucket -/

/-- `RtpFrameCadence90k`. -/
structure RtpFrameCadence90k where
  interval : UInt32 := 9000
  last : UInt32 := 0
  credit : UInt32 := 0
  seen : Bool := false
  deriving DecidableEq, Repr

namespace RtpFrameCadence90k

/-- `reset`. -/
def reset (framesPerSecond : UInt8) (c : RtpFrameCadence90k) : RtpFrameCadence90k :=
  let fps : UInt32 := if framesPerSecond = 0 then 1 else framesPerSecond.toUInt32
  { c with interval := (90000 + fps - 1) / fps, seen := false, credit := 0 }

/-- `elapsed`: the ticks since the last timestamp. -/
def elapsed (timestamp : UInt32) (c : RtpFrameCadence90k) : UInt32 := timestamp - c.last

/-- `credit`, before a frame is paid for. -/
def refilled (timestamp : UInt32) (c : RtpFrameCadence90k) : UInt32 :=
  let elapsed := c.elapsed timestamp
  if c.interval * 2 ≤ elapsed then c.interval
  else if 0xFFFFFFFF - c.credit ≤ elapsed then 0xFFFFFFFF
  else c.credit + elapsed

/-- `accept`. -/
def accept (timestamp : UInt32) (c : RtpFrameCadence90k) : Bool × RtpFrameCadence90k :=
  if c.seen = false then (true, { c with seen := true, last := timestamp })
  else
    let credit := c.refilled timestamp
    if credit < c.interval then (false, { c with last := timestamp, credit := credit })
    else (true, { c with last := timestamp, credit := credit - c.interval })

/-- The bucket behind a call. -/
def tick (timestamp : UInt32) (c : RtpFrameCadence90k) : RtpFrameCadence90k :=
  (c.accept timestamp).2

/-- The bucket behind some calls. -/
def after (c : RtpFrameCadence90k) (timestamps : List UInt32) : RtpFrameCadence90k :=
  EventRun.after tick c timestamps

/-- The frames of some calls that are accepted. -/
def accepted (c : RtpFrameCadence90k) (timestamps : List UInt32) : Nat :=
  TokenBucket.passed tick (fun timestamp c => (c.accept timestamp).1) c timestamps

end RtpFrameCadence90k

open RtpFrameCadence90k

/-- How far the timestamps of a window go on from the first to the last. -/
def advance : List UInt32 → Nat
  | a :: b :: rest => (b - a).toNat + advance (b :: rest)
  | _ => 0

/-- Behind every call the credit is an interval or less. -/
def CreditBounded (c : RtpFrameCadence90k) (timestamps : List UInt32) : Prop :=
  ∀ before timestamp, before ++ [timestamp] <+: timestamps →
    (c.after (before ++ [timestamp])).credit ≤ c.interval

/-- No window has more frames than two and those that it goes on by. -/
def WindowsBounded (c : RtpFrameCadence90k) (timestamps : List UInt32) : Prop :=
  ∀ before window, before ++ window <+: timestamps →
    (c.after before).accepted window ≤ 2 + advance window / c.interval.toNat

/-- A step that leaves a credit of an interval or less: it is the first, or a stall, or the ticks
    and the credit there is are two intervals together or less. -/
def Modest (timestamp : UInt32) (c : RtpFrameCadence90k) : Prop :=
  c.seen = false ∨ c.interval * 2 ≤ c.elapsed timestamp ∨
    c.credit.toNat + (c.elapsed timestamp).toNat ≤ 2 * c.interval.toNat

/-! ## One step -/

namespace RtpFrameCadence90k

/-- An interval that `reset` sets. -/
def Sound (c : RtpFrameCadence90k) : Prop :=
  0 < c.interval.toNat ∧ c.interval.toNat ≤ 90000

theorem sound_reset (framesPerSecond : UInt8) (c : RtpFrameCadence90k) :
    (c.reset framesPerSecond).Sound := by
  have hall : ∀ f : UInt8,
      let fps : UInt32 := if f = 0 then 1 else f.toUInt32
      0 < ((90000 + fps - 1) / fps).toNat ∧ ((90000 + fps - 1) / fps).toNat ≤ 90000 :=
    forall_byte (by decide +kernel)
  exact hall framesPerSecond

@[simp] theorem interval_tick (timestamp : UInt32) (c : RtpFrameCadence90k) :
    (c.tick timestamp).interval = c.interval := by
  rw [tick, accept]
  split
  · rfl
  · dsimp only
    split <;> rfl

@[simp] theorem seen_tick (timestamp : UInt32) (c : RtpFrameCadence90k) :
    (c.tick timestamp).seen = true := by
  rw [tick, accept]
  split
  · rfl
  · rename_i hseen
    dsimp only
    split <;> simpa using hseen

@[simp] theorem last_tick (timestamp : UInt32) (c : RtpFrameCadence90k) :
    (c.tick timestamp).last = timestamp := by
  rw [tick, accept]
  split
  · rfl
  · dsimp only
    split <;> rfl

@[simp] theorem interval_after (c : RtpFrameCadence90k) (timestamps : List UInt32) :
    (c.after timestamps).interval = c.interval := by
  induction timestamps generalizing c with
  | nil => rfl
  | cons timestamp timestamps ih => exact (ih _).trans (interval_tick timestamp c)

theorem toNat_twice {c : RtpFrameCadence90k} (h : c.Sound) :
    (c.interval * 2).toNat = 2 * c.interval.toNat := by
  have := h.2
  rw [UInt32.toNat_mul]
  simp only [UInt32.toNat_ofNat]
  omega

/-- The credit there is for a frame, in numbers. -/
theorem toNat_refilled {c : RtpFrameCadence90k} (h : c.Sound) (timestamp : UInt32) :
    (c.refilled timestamp).toNat =
      if 2 * c.interval.toNat ≤ (c.elapsed timestamp).toNat then c.interval.toNat
      else min 0xFFFFFFFF (c.credit.toNat + (c.elapsed timestamp).toNat) := by
  have hcredit := c.credit.toNat_lt
  have hrest : (0xFFFFFFFF - c.credit).toNat = 0xFFFFFFFF - c.credit.toNat := by
    rw [UInt32.toNat_sub_of_le _ _ (UInt32.le_iff_toNat_le.mpr (by simpa using by omega))]
    rfl
  rw [refilled]
  simp only [UInt32.le_iff_toNat_le, toNat_twice h, hrest]
  split
  · rfl
  · split
    · rw [Nat.min_eq_left (by omega)]
      rfl
    · rw [Nat.min_eq_right (by omega), UInt32.toNat_add, Nat.mod_eq_of_lt (by omega)]

/-- What `accept` answers and keeps behind the first call. -/
theorem accept_of_seen {c : RtpFrameCadence90k} (hseen : c.seen = true) (timestamp : UInt32) :
    ((c.accept timestamp).1 = true ↔ c.interval.toNat ≤ (c.refilled timestamp).toNat) ∧
      (c.tick timestamp).credit.toNat =
        if c.interval.toNat ≤ (c.refilled timestamp).toNat then
          (c.refilled timestamp).toNat - c.interval.toNat
        else (c.refilled timestamp).toNat := by
  rw [tick, accept, if_neg (by simp [hseen])]
  dsimp only
  split
  · rename_i hlt
    rw [UInt32.lt_iff_toNat_lt] at hlt
    exact ⟨by simpa using hlt, by rw [if_neg (by omega)]⟩
  · rename_i hge
    rw [UInt32.lt_iff_toNat_lt, Nat.not_lt] at hge
    refine ⟨by simpa using hge, ?_⟩
    rw [if_pos hge]
    exact UInt32.toNat_sub_of_le _ _ (UInt32.le_iff_toNat_le.mpr hge)

/-- The credit is an interval or less behind a step just where the step is modest. -/
theorem credit_tick_le_iff {c : RtpFrameCadence90k} (h : c.Sound)
    (hcredit : c.credit ≤ c.interval) (timestamp : UInt32) :
    (c.tick timestamp).credit ≤ c.interval ↔ Modest timestamp c := by
  have hbound := h.2
  rw [Modest]
  cases hseen : c.seen with
  | false =>
    have hfirst : (c.tick timestamp).credit = c.credit := by
      rw [tick, accept, if_pos hseen]
    rw [hfirst]
    exact iff_of_true hcredit (.inl rfl)
  | true =>
    rw [UInt32.le_iff_toNat_le, UInt32.le_iff_toNat_le, (accept_of_seen hseen timestamp).2,
      toNat_refilled h, toNat_twice h]
    rw [UInt32.le_iff_toNat_le] at hcredit
    simp only [Bool.true_eq_false, false_or]
    split <;> split <;> omega

/-- What passes is paid for with the credit and the ticks. -/
theorem accept_paid {c : RtpFrameCadence90k} (h : c.Sound) (hseen : c.seen = true)
    (timestamp : UInt32) :
    (if (c.accept timestamp).1 then c.interval.toNat else 0) + (c.tick timestamp).credit.toNat ≤
      c.credit.toNat + (c.elapsed timestamp).toNat := by
  obtain ⟨haccept, hcredit⟩ := accept_of_seen hseen timestamp
  simp only [haccept, hcredit, toNat_refilled h]
  split <;> split <;> omega

/-- The ticks of a window are those that its calls see. -/
theorem refilled_eq_advance {c : RtpFrameCadence90k} (timestamps : List UInt32) :
    TokenBucket.refilled tick (fun timestamp c => (c.elapsed timestamp).toNat) c timestamps =
      advance (c.last :: timestamps) := by
  induction timestamps generalizing c with
  | nil => rfl
  | cons timestamp timestamps ih =>
    rw [TokenBucket.refilled, ih, last_tick, advance]
    rfl

/-- In a window that begins with a credit of an interval or less, no more frames are accepted than
    one and those that it goes on by. -/
theorem accepted_le {c : RtpFrameCadence90k} (h : c.Sound) (hseen : c.seen = true)
    (hcredit : c.credit ≤ c.interval) (timestamps : List UInt32) :
    c.accepted timestamps ≤ 1 + advance (c.last :: timestamps) / c.interval.toNat := by
  rw [← refilled_eq_advance]
  refine TokenBucket.passed_le tick (fun d => d.credit.toNat)
    (fun d => d.interval = c.interval ∧ d.seen = true) ?_ ?_ ⟨rfl, hseen⟩ h.1
    (UInt32.le_iff_toNat_le.mp hcredit) timestamps
  · exact fun timestamp d hd => ⟨(interval_tick timestamp d).trans hd.1, seen_tick timestamp d⟩
  · intro timestamp d hd
    have hsound : d.Sound := by
      rw [Sound, hd.1]
      exact h
    rw [← hd.1]
    exact accept_paid hsound hd.2 timestamp

theorem accepted_cons_le (c : RtpFrameCadence90k) (timestamp : UInt32) (timestamps : List UInt32) :
    c.accepted (timestamp :: timestamps) ≤ 1 + (c.tick timestamp).accepted timestamps := by
  rw [accepted, TokenBucket.passed]
  split
  · exact Nat.le_refl _
  · rw [Nat.zero_add]
    exact Nat.le_add_left _ _

end RtpFrameCadence90k

/-! ## Runs -/

section

variable {c : RtpFrameCadence90k}

theorem creditBounded_cons (timestamp : UInt32) (timestamps : List UInt32) :
    CreditBounded c (timestamp :: timestamps) ↔
      (c.tick timestamp).credit ≤ c.interval ∧ CreditBounded (c.tick timestamp) timestamps := by
  constructor
  · intro h
    refine ⟨h [] timestamp ⟨timestamps, rfl⟩, fun before t hrun => ?_⟩
    have := h (timestamp :: before) t ((List.prefix_cons_inj timestamp).mpr hrun)
    rwa [interval_tick]
  · rintro ⟨hfirst, hbehind⟩ before t hrun
    obtain ⟨rest, hrest⟩ := hrun
    cases before with
    | nil =>
      cases hrest
      exact hfirst
    | cons b before =>
      cases hrest
      have := hbehind before t ⟨rest, rfl⟩
      rwa [interval_tick] at this

/-- The credit stays within an interval just where every step is modest. -/
theorem creditBounded_iff (h : c.Sound) (hcredit : c.credit ≤ c.interval)
    (timestamps : List UInt32) :
    CreditBounded c timestamps ↔ EventRun.Along tick Modest c timestamps := by
  induction timestamps generalizing c with
  | nil =>
    refine iff_of_true (fun before t hrun => ?_) trivial
    exact absurd (List.prefix_nil.mp hrun) (by simp)
  | cons timestamp timestamps ih =>
    have hstep := credit_tick_le_iff h hcredit timestamp
    have hsound : (c.tick timestamp).Sound := by
      rw [Sound, interval_tick]
      exact h
    rw [creditBounded_cons, EventRun.along_cons, hstep]
    refine and_congr_right fun hmodest => ih hsound ?_
    rw [interval_tick]
    exact hstep.mpr hmodest

/-- Where the credit stays within an interval, so do the windows. -/
theorem CreditBounded.windows (h : c.Sound) {timestamps : List UInt32}
    (hbounded : CreditBounded c timestamps) : WindowsBounded c timestamps := by
  intro before window hrun
  cases window with
  | nil => exact Nat.zero_le _
  | cons timestamp window =>
    obtain ⟨rest, hrest⟩ := hrun
    -- the first call of the window leaves an interval or less
    have hcredit := hbounded before timestamp ⟨window ++ rest, by simpa using hrest⟩
    have hafter : c.after (before ++ [timestamp]) = (c.after before).tick timestamp := by
      rw [after, EventRun.after_append]
      rfl
    rw [hafter] at hcredit
    have hinterval : ((c.after before).tick timestamp).interval = c.interval := by simp
    have hsound : ((c.after before).tick timestamp).Sound := by
      rw [Sound, hinterval]
      exact h
    have hrest := accepted_le hsound (seen_tick _ _) (by rwa [hinterval]) window
    rw [last_tick, hinterval] at hrest
    calc (c.after before).accepted (timestamp :: window)
        ≤ 1 + ((c.after before).tick timestamp).accepted window := accepted_cons_le ..
      _ ≤ 2 + advance (timestamp :: window) / c.interval.toNat := by omega

end

/-- At every frame rate the credit, and with it what is accepted in any window, stays bounded just
    where no step of less than two intervals brings the credit above two. -/
theorem cadence_bounded_iff (c : RtpFrameCadence90k) (framesPerSecond : UInt8)
    (timestamps : List UInt32) :
    CreditBounded (c.reset framesPerSecond) timestamps ∧
        WindowsBounded (c.reset framesPerSecond) timestamps ↔
      EventRun.Along tick Modest (c.reset framesPerSecond) timestamps := by
  have hsound := sound_reset framesPerSecond c
  have hcredit : (c.reset framesPerSecond).credit ≤ (c.reset framesPerSecond).interval :=
    UInt32.le_iff_toNat_le.mpr (Nat.zero_le _)
  rw [← creditBounded_iff hsound hcredit]
  exact and_iff_left_of_imp (·.windows hsound)

/-- A step of an interval or less, or a stall. -/
def Steady (timestamp : UInt32) (c : RtpFrameCadence90k) : Prop :=
  c.seen = false ∨ c.interval * 2 ≤ c.elapsed timestamp ∨ c.elapsed timestamp ≤ c.interval

theorem Steady.modest {c : RtpFrameCadence90k} (h : c.Sound) (hcredit : c.credit < c.interval)
    {timestamp : UInt32} (hsteady : Steady timestamp c) :
    Modest timestamp c ∧ (c.tick timestamp).credit < c.interval := by
  rw [Steady] at hsteady
  rw [Modest]
  cases hseen : c.seen with
  | false =>
    have hfirst : (c.tick timestamp).credit = c.credit := by
      rw [tick, accept, if_pos hseen]
    exact ⟨.inl rfl, by rwa [hfirst]⟩
  | true =>
    have hpositive := h.1
    have hbound := h.2
    rw [hseen] at hsteady
    simp only [UInt32.lt_iff_toNat_lt, UInt32.le_iff_toNat_le, (accept_of_seen hseen timestamp).2,
      toNat_refilled h, toNat_twice h, Bool.true_eq_false, false_or] at hsteady hcredit ⊢
    refine ⟨by omega, ?_⟩
    split <;> split <;> omega

/-- A source that never skips between one interval and two is let through without a burst. -/
theorem modest_of_steady {c : RtpFrameCadence90k} (h : c.Sound) (hcredit : c.credit < c.interval)
    {timestamps : List UInt32} (hsteady : EventRun.Along tick Steady c timestamps) :
    EventRun.Along tick Modest c timestamps := by
  induction timestamps generalizing c with
  | nil => trivial
  | cons timestamp timestamps ih =>
    obtain ⟨hmodest, hnext⟩ := hsteady.1.modest h hcredit
    have hsound : (c.tick timestamp).Sound := by
      rw [Sound, interval_tick]
      exact h
    exact ⟨hmodest, ih hsound (by rwa [interval_tick]) hsteady.2⟩

namespace Burst

/-- Thirty frames a second whose timestamps go on by just under two intervals four times, and then
    no more. -/
def timestamps : List UInt32 := [0, 5999, 11998, 17997, 23996, 23996, 23996, 23996]

/-- Behind the fifth call the credit is more than an interval, and the four frames from there on are
    all accepted, though the timestamps stand still. -/
theorem frames_are_accepted_back_to_back :
    ((RtpFrameCadence90k.reset 30 {}).after (timestamps.take 5)).credit = 11996 ∧
      ¬CreditBounded (RtpFrameCadence90k.reset 30 {}) timestamps ∧
      ¬WindowsBounded (RtpFrameCadence90k.reset 30 {}) timestamps := by
  refine ⟨by decide +kernel, fun h => ?_, fun h => ?_⟩
  · exact absurd (h (timestamps.take 4) 23996 (by decide)) (by decide +kernel)
  · exact absurd (h (timestamps.take 4) (timestamps.drop 4) (by decide)) (by decide +kernel)

end Burst

end EsphomeVoip
