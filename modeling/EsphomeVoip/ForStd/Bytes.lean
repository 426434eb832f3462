/-! # Bytes

A decidable property of a byte is checked on the 256 bytes there are, and one of the members of a
list on these. -/

namespace EsphomeVoip

/-- A statement about every byte, from its 256 instances. -/
theorem forall_byte {p : UInt8 → Prop} (h : ∀ x : BitVec 8, p (.ofBitVec x)) (b : UInt8) :
    p b := h b.toBitVec

/-- A statement about the members of a list, from its instance at each of them. -/
theorem forall_mem_of_all {α : Type} {p : α → Prop} [DecidablePred p] {l : List α}
    (h : (l.all fun x => decide (p x)) = true) : ∀ x ∈ l, p x := by
  simpa using h

/-- What is done with the byte at a place, and what is the case where the data has none there. -/
def withByte {β : Type} (data : List UInt8) (i : Nat) (outside : β) (k : UInt8 → β) : β :=
  match data[i]? with
  | none => outside
  | some b => k b

/-- Within the data there is a byte. -/
theorem withByte_of_lt {β : Type} {data : List UInt8} {i : Nat} (h : i < data.length) (outside : β)
    (k : UInt8 → β) : withByte data i outside k = k (data.getD i 0) := by
  rw [withByte, List.getElem?_eq_getElem h, List.getD_eq_getElem?_getD, List.getElem?_eq_getElem h]
  rfl

/-! ## Words of 32 bits, little endian -/

/-- Four bytes, the lowest first, as a word. -/
def leWord32 (a b c d : UInt8) : BitVec 32 :=
  d.toBitVec ++ (c.toBitVec ++ (b.toBitVec ++ a.toBitVec))

/-- The four bytes of a word, the lowest first. -/
def leBytes32 (x : BitVec 32) : List UInt8 :=
  [.ofBitVec (x.extractLsb' 0 8), .ofBitVec (x.extractLsb' 8 8), .ofBitVec (x.extractLsb' 16 8),
    .ofBitVec (x.extractLsb' 24 8)]

theorem leBytes32_leWord32 (a b c d : UInt8) : leBytes32 (leWord32 a b c d) = [a, b, c, d] := by
  have ha : (leWord32 a b c d).extractLsb' 0 8 = a.toBitVec := by
    rw [leWord32, BitVec.extractLsb'_append_eq_of_add_le (by decide),
      BitVec.extractLsb'_append_eq_of_add_le (by decide)]
    exact BitVec.extractLsb'_append_eq_right
  have hb : (leWord32 a b c d).extractLsb' 8 8 = b.toBitVec := by
    rw [leWord32, BitVec.extractLsb'_append_eq_of_add_le (by decide),
      BitVec.extractLsb'_append_eq_of_add_le (by decide)]
    exact BitVec.extractLsb'_append_eq_left
  have hc : (leWord32 a b c d).extractLsb' 16 8 = c.toBitVec := by
    rw [leWord32, BitVec.extractLsb'_append_eq_of_add_le (by decide)]
    exact BitVec.extractLsb'_append_eq_left
  have hd : (leWord32 a b c d).extractLsb' 24 8 = d.toBitVec :=
    BitVec.extractLsb'_append_eq_left
  rw [leBytes32, ha, hb, hc, hd]

/-- The sign of the lower three bytes fills the fourth. -/
theorem signExtend_leWord32 (a b c d : UInt8) :
    ((leWord32 a b c d).setWidth 24).signExtend 32 =
      leWord32 a b c (if c &&& 0x80 != 0 then 0xFF else 0) := by
  have hlow : (leWord32 a b c d).setWidth 24 = c.toBitVec ++ (b.toBitVec ++ a.toBitVec) :=
    BitVec.setWidth_append_eq_right
  have hbyte : ∀ c : UInt8, c.toBitVec.msb = (c &&& 0x80 != 0) := forall_byte (by decide)
  have hmsb : (c.toBitVec ++ (b.toBitVec ++ a.toBitVec)).msb = (c &&& 0x80 != 0) := by
    rw [BitVec.msb_append]
    simpa using hbyte c
  rw [hlow, BitVec.signExtend_eq_append_of_le (by decide), hmsb]
  cases c &&& 0x80 != 0 <;> rfl

end EsphomeVoip
