/-! # Serial numbers of sixteen bits

Packets are numbered in 16 bits and the numbers wrap.  `SerialNumber.delta` is the signed distance
of one number from another, as a 16-bit subtraction has it; `SerialNumber.offset` counts upwards
from a base.  Numbers whose offsets from one base stay below half a turn are ordered by their
distances as their offsets are. -/

namespace SerialNumber

/-- The distance of `number` from `reference`: `static_cast<int16_t>(number - reference)`. -/
def delta (number reference : UInt16) : Int :=
  if (number - reference).toNat < 32768 then ((number - reference).toNat : Int)
  else ((number - reference).toNat : Int) - 65536

/-- How far `number` lies after `base`, counted upwards. -/
def offset (base number : UInt16) : Nat := (number - base).toNat

theorem offset_lt (base number : UInt16) : offset base number < 65536 :=
  UInt16.toNat_lt _

@[simp] theorem offset_self (base : UInt16) : offset base base = 0 := by
  simp [offset]

theorem offset_succ {base number : UInt16} (h : offset base number < 65535) :
    offset base (number + 1) = offset base number + 1 := by
  simp only [offset, UInt16.toNat_sub, UInt16.toNat_add, UInt16.reduceToNat] at h ⊢
  omega

theorem offset_add {n : Nat} (hn : n < 65536) (base : UInt16) :
    offset base (base + UInt16.ofNat n) = n := by
  have hbase := UInt16.toNat_lt base
  simp only [offset, UInt16.toNat_sub, UInt16.toNat_add, UInt16.toNat_ofNat']
  omega

theorem add_offset (base number : UInt16) : base + UInt16.ofNat (offset base number) = number := by
  rw [offset, UInt16.ofNat_toNat, UInt16.add_comm, UInt16.sub_add_cancel]

theorem offset_inj {base a b : UInt16} (h : offset base a = offset base b) : a = b := by
  have hsub : a - base = b - base := UInt16.toNat.inj h
  simpa using congrArg (· + base) hsub

/-- A number that lies `delta` after another is reached by counting. -/
theorem offset_reference {number reference : UInt16} (h : 0 ≤ delta number reference) :
    (offset reference number : Int) = delta number reference := by
  unfold delta at h ⊢
  unfold offset
  have := UInt16.toNat_lt (number - reference)
  split at h <;> split <;> omega

/-- Within half a turn of the base, distances are differences of offsets. -/
theorem delta_eq_sub {base number reference : UInt16}
    (hlow : offset base reference ≤ offset base number + 32768)
    (hhigh : offset base number < offset base reference + 32768) :
    delta number reference = (offset base number : Int) - offset base reference := by
  unfold delta offset at *
  simp only [UInt16.toNat_sub] at *
  have := UInt16.toNat_lt base
  have := UInt16.toNat_lt number
  have := UInt16.toNat_lt reference
  split <;> omega

/-- Within half a turn, the distance from the base is the offset. -/
theorem delta_base {base number : UInt16} (h : offset base number < 32768) :
    delta number base = offset base number := by
  unfold delta offset at *
  split <;> omega

/-- Where a run of `n` numbers that ends with `number` begins. -/
theorem offset_window {n : Nat} {base number : UInt16} (hpos : 0 < n) (hn : n < 65536)
    (h : n ≤ offset base number + 1) :
    offset base (number - UInt16.ofNat n + 1) + n = offset base number + 1 := by
  simp only [offset, UInt16.toNat_sub, UInt16.toNat_add, UInt16.reduceToNat,
    UInt16.toNat_ofNat'] at h ⊢
  have := UInt16.toNat_lt base
  have := UInt16.toNat_lt number
  omega

/-- Counting up to a number passes those before it. -/
theorem offset_split {base a b : UInt16} (h : offset base a ≤ offset base b) :
    offset base a + offset a b = offset base b := by
  unfold offset at *
  simp only [UInt16.toNat_sub] at *
  have := UInt16.toNat_lt base
  have := UInt16.toNat_lt a
  have := UInt16.toNat_lt b
  omega

/-- A base further on has one less to count. -/
theorem offset_succ_base {base number : UInt16} (h : offset base number ≠ 0) :
    offset (base + 1) number + 1 = offset base number := by
  simp only [offset, UInt16.toNat_sub, UInt16.toNat_add, UInt16.reduceToNat] at h ⊢
  have := UInt16.toNat_lt base
  have := UInt16.toNat_lt number
  omega

theorem eq_of_offset_eq_zero {base number : UInt16} (h : offset base number = 0) : number = base :=
  offset_inj (h.trans (offset_self base).symm)

/-- Counting on from a base to a later number, and from there. -/
theorem offset_trans {base number reference : UInt16}
    (h : offset base reference + offset reference number < 65536) :
    offset base number = offset base reference + offset reference number := by
  unfold offset at *
  simp only [UInt16.toNat_sub] at *
  have := UInt16.toNat_lt base
  have := UInt16.toNat_lt number
  have := UInt16.toNat_lt reference
  omega

end SerialNumber
