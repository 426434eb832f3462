/-! # Wrapping millisecond clocks

A clock that counts milliseconds in 32 bits and wraps.  Deadlines are earlier readings plus a
delay, and a deadline is reached when the signed distance to it is not negative.  The lemmas
below relate both to the time that never wraps. -/

namespace WrapClock

/-- What the 32-bit counter reads `t` milliseconds after it started. -/
def millis (t : Nat) : UInt32 := UInt32.ofNat t

/-- The reading `now` is at or after `deadline`: their signed distance is not negative. -/
def timeReached (now deadline : UInt32) : Bool := (now - deadline).toNat < 2147483648

theorem millis_add (t d : Nat) : millis t + UInt32.ofNat d = millis (t + d) := by
  simp [millis]

/-- A deadline in the future, less than half a turn ahead, is not reached. -/
theorem timeReached_eq_false {now deadline : Nat} (h : now < deadline)
    (hnear : deadline ≤ now + 2147483648) :
    timeReached (millis now) (millis deadline) = false := by
  simp only [timeReached, millis, UInt32.toNat_sub, UInt32.toNat_ofNat', decide_eq_false_iff_not]
  omega

/-- A deadline that passed less than half a turn ago is reached. -/
theorem timeReached_eq_true {now deadline : Nat} (h : deadline ≤ now)
    (hnear : now < deadline + 2147483648) :
    timeReached (millis now) (millis deadline) = true := by
  simp only [timeReached, millis, UInt32.toNat_sub, UInt32.toNat_ofNat', decide_eq_true_eq]
  omega

/-- A delay of at most half a turn is not over when it begins. -/
theorem timeReached_delay (now : UInt32) {d : Nat} (hpos : 0 < d) (hd : d ≤ 2147483648) :
    timeReached now (now + UInt32.ofNat d) = false := by
  have hnow := UInt32.toNat_lt now
  simp only [timeReached, UInt32.toNat_sub, UInt32.toNat_add, UInt32.toNat_ofNat',
    decide_eq_false_iff_not]
  omega

end WrapClock
