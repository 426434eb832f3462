import EsphomeVoip.ForStd.Scan

/-! # The Annex B byte stream (`video_rtp.cpp`, H.264 build)

An encoded access unit is a run of NAL units, each behind a start code of zeros and a one.
`nextAnnexBNal` is the scanner that both directions of the video session use: the sender to find
what it packetizes, the receiver to look for parameter sets in what it has put together. -/

namespace EsphomeVoip

open Scan

/-! ## The scanner -/

/-- A `const uint8_t *` with its size. -/
abbrev ByteSpan := List UInt8

/-- `data[i]`. -/
def byteAt (data : ByteSpan) (i : Nat) : UInt8 := data.getD i 0

/-- Whether a start code begins at `i`: the test of both loops of `next_annex_b_nal`. -/
def startCodeAt (data : ByteSpan) (i : Nat) : Bool :=
  byteAt data i == 0 && byteAt data (i + 1) == 0 &&
    (byteAt data (i + 2) == 1 ||
      (decide (i + 3 < data.length) && byteAt data (i + 2) == 0 && byteAt data (i + 3) == 1))

/-- The loop `while (i + 3 < size)` that ends at a start code. -/
def skipToStartCode (data : ByteSpan) (i : Nat) : Nat :=
  seek (fun i => !decide (i + 3 < data.length) || startCodeAt data i) data.length i

/-- `next_annex_b_nal`: the next NAL unit from `cursor` on, and the cursor behind it. -/
def nextAnnexBNal (data : ByteSpan) (cursor : Nat) : Option (ByteSpan × Nat) :=
  let start := skipToStartCode data cursor
  if data.length ≤ start + 3 then none
  else
    let length := if byteAt data (start + 2) = 1 then 3 else 4
    let payload := start + length
    let found := skipToStartCode data payload
    let stop := if data.length ≤ found + 3 then data.length else found
    let last := retreat (fun i => byteAt data i == 0) payload stop
    if last ≤ payload then none else some ((data.drop payload).take (last - payload), last)

/-- The NAL units that a loop over `next_annex_b_nal` sees, in at most `fuel` rounds. -/
def annexBNalsFrom (data : ByteSpan) : Nat → Nat → List ByteSpan
  | 0, _ => []
  | fuel + 1, cursor =>
    match nextAnnexBNal data cursor with
    | none => []
    | some (nal, next) => nal :: annexBNalsFrom data fuel next

/-- Every NAL unit of a byte stream.  A round that finds one consumes a byte at least. -/
def annexBNals (data : ByteSpan) : List ByteSpan := annexBNalsFrom data (data.length + 1) 0

/-! ## Byte streams of NAL units -/

/-- `nal[0] & 0x1F`. -/
def nalType (nal : ByteSpan) : UInt8 := byteAt nal 0 &&& 0x1F

/-- A NAL unit that may stand alone in a packet: its type is 1 to 23, no start code is hidden in
    it and it does not end in a zero. -/
structure NalUnit where
  bytes : ByteSpan
  typePos : 0 < nalType bytes
  typeLe : nalType bytes ≤ 23
  noStartCode : ¬[0, 0, 1] <:+: bytes
  noTrailingZero : bytes.getLast? ≠ some 0

/-- A start code with `zeros` zeros: two of them in the short form, three in the long one. -/
def startCode (zeros : Nat) : ByteSpan := List.replicate zeros 0 ++ [1]

/-- The byte stream of some NAL units, with the number of zeros before each. -/
def annexB (units : List (Nat × NalUnit)) : ByteSpan :=
  units.flatMap fun u => startCode u.1 ++ u.2.bytes

@[simp] theorem annexB_nil : annexB [] = [] := rfl

@[simp] theorem annexB_cons (u : Nat × NalUnit) (units : List (Nat × NalUnit)) :
    annexB (u :: units) = startCode u.1 ++ u.2.bytes ++ annexB units := by
  simp only [annexB, List.flatMap_cons]

@[simp] theorem length_startCode (zeros : Nat) : (startCode zeros).length = zeros + 1 := by
  simp [startCode]

namespace NalUnit

variable (n : NalUnit)

theorem bytes_ne_nil : n.bytes ≠ [] := by
  intro h
  have := n.typePos
  rw [h] at this
  exact absurd this (by decide)

theorem length_pos : 0 < n.bytes.length := List.length_pos_iff.mpr n.bytes_ne_nil

end NalUnit

/-- Bytes in which no start code is hidden, and that do not end in a zero. -/
structure Whole (a : ByteSpan) : Prop where
  noStartCode : ¬[0, 0, 1] <:+: a
  noTrailingZero : a.getLast? ≠ some 0

theorem NalUnit.whole (n : NalUnit) : Whole n.bytes := ⟨n.noStartCode, n.noTrailingZero⟩

theorem byteAt_eq_getElem {a : ByteSpan} {x : Nat} (h : x < a.length) : byteAt a x = a[x] := by
  rw [byteAt, List.getD_eq_getElem?_getD, List.getElem?_eq_getElem h, Option.getD_some]

/-- The last byte is not a zero. -/
theorem last_ne_zero {a : ByteSpan} (ha : a.getLast? ≠ some 0) (hpos : 0 < a.length) :
    byteAt a (a.length - 1) ≠ 0 := by
  intro h
  apply ha
  have hlt : a.length - 1 < a.length := Nat.sub_lt hpos Nat.one_pos
  rw [byteAt_eq_getElem hlt] at h
  rw [List.getLast?_eq_getElem?, List.getElem?_eq_getElem hlt, h]

/-- Where no start code is hidden, no three bytes are two zeros and a one. -/
theorem not_code_inside {a : ByteSpan} (ha : ¬[0, 0, 1] <:+: a) {x : Nat} (hx : x + 2 < a.length) :
    ¬(byteAt a x = 0 ∧ byteAt a (x + 1) = 0 ∧ byteAt a (x + 2) = 1) := by
  rintro ⟨h0, h1, h2⟩
  apply ha
  rw [byteAt_eq_getElem (by omega)] at h0 h1 h2
  refine ⟨a.take x, a.drop (x + 3), ?_⟩
  calc a.take x ++ [0, 0, 1] ++ a.drop (x + 3)
      = a.take x ++ (a[x] :: a[x + 1] :: a[x + 2] :: a.drop (x + 3)) := by
        rw [h0, h1, h2, List.append_assoc]
        rfl
    _ = a.take x ++ a.drop x := by
        rw [← List.drop_eq_getElem_cons hx, ← List.drop_eq_getElem_cons (by omega),
          ← List.drop_eq_getElem_cons (by omega)]
    _ = a := List.take_append_drop x a

/-! ## Reading a byte stream back -/

/-- A byte that lies in the part of `data` behind `p`. -/
theorem byteAt_drop {data rest : ByteSpan} {p : Nat} (h : data.drop p = rest) (x : Nat) :
    byteAt data (p + x) = byteAt rest x := by
  rw [byteAt, byteAt, ← h, List.getD_eq_getElem?_getD, List.getD_eq_getElem?_getD,
    List.getElem?_drop]

theorem byteAt_append_left {a : ByteSpan} (b : ByteSpan) {x : Nat} (h : x < a.length) :
    byteAt (a ++ b) x = byteAt a x := by
  rw [byteAt, byteAt, List.getD_eq_getElem?_getD, List.getD_eq_getElem?_getD,
    List.getElem?_append_left h]

theorem byteAt_append_right (a b : ByteSpan) (x : Nat) :
    byteAt (a ++ b) (a.length + x) = byteAt b x :=
  byteAt_drop (List.drop_left) x

theorem startCodeAt_drop {data rest : ByteSpan} {p : Nat} (h : data.drop p = rest) (x : Nat) :
    startCodeAt data (p + x) = startCodeAt rest x := by
  have hlen : (p + x + 3 < data.length) = (x + 3 < rest.length) := by
    rw [← h, List.length_drop, eq_iff_iff]
    omega
  simp only [startCodeAt, Nat.add_assoc p, byteAt_drop h] at hlen ⊢
  simp only [hlen]

/-- Bytes at which no start code begins are skipped. -/
theorem skipToStartCode_eq {data : ByteSpan} {i j : Nat} (hle : i ≤ j) (hj : j ≤ data.length)
    (between : ∀ m, i ≤ m → m < j → m + 3 < data.length ∧ startCodeAt data m = false)
    (hit : data.length ≤ j + 3 ∨ startCodeAt data j = true) : skipToStartCode data i = j := by
  apply seek_eq hle (by omega)
  · intro m hm hlt
    obtain ⟨hin, hnot⟩ := between m hm hlt
    simp [hin, hnot]
  · rcases hit with h | h
    · simp [Nat.not_lt.mpr h]
    · simp [h]

/-- No start code begins inside such bytes, whatever comes behind them. -/
theorem Whole.startCodeAt_inside {a : ByteSpan} (ha : Whole a) (rest : ByteSpan) {x : Nat}
    (hx : x < a.length) : startCodeAt (a ++ rest) x = false := by
  have hlast := last_ne_zero ha.noTrailingZero (Nat.zero_lt_of_lt hx)
  rw [← Bool.not_eq_true]
  intro hcode
  simp only [startCodeAt, Bool.and_eq_true, Bool.or_eq_true, beq_iff_eq,
    decide_eq_true_eq] at hcode
  obtain ⟨⟨h0, h1⟩, h2⟩ := hcode
  -- the last byte is no zero, so the code has at least three bytes of them
  have hone : x ≠ a.length - 1 := by
    rintro rfl
    exact hlast (byteAt_append_left rest hx ▸ h0)
  have htwo : x + 1 ≠ a.length - 1 := by
    intro h
    rw [byteAt_append_left rest (by omega), h] at h1
    exact hlast h1
  rw [byteAt_append_left rest hx] at h0
  rw [byteAt_append_left rest (by omega)] at h1
  rw [byteAt_append_left rest (show x + 2 < a.length by omega)] at h2
  rcases h2 with h2 | ⟨⟨-, h2⟩, h3⟩
  · exact not_code_inside ha.noStartCode (by omega) ⟨h0, h1, h2⟩
  · have hthree : x + 2 ≠ a.length - 1 := by
      intro h
      exact hlast (h ▸ h2)
    rw [byteAt_append_left rest (by omega)] at h3
    exact not_code_inside ha.noStartCode (show x + 1 + 2 < a.length by omega) ⟨h1, h2, h3⟩

theorem byteAt_zeros {zeros x : Nat} (rest : ByteSpan) (h : x < zeros) :
    byteAt (startCode zeros ++ rest) x = 0 := by
  rw [startCode, List.append_assoc, byteAt_append_left _ (by simpa using h), byteAt,
    List.getD_eq_getElem?_getD, List.getElem?_replicate_of_lt h, Option.getD_some]

theorem byteAt_one (zeros : Nat) (rest : ByteSpan) :
    byteAt (startCode zeros ++ rest) zeros = 1 := by
  have h := byteAt_append_right (List.replicate zeros (0 : UInt8)) ([1] ++ rest) 0
  rw [List.length_replicate] at h
  rw [startCode, List.append_assoc]
  exact h

/-- Before the last three zeros of a run no start code begins. -/
theorem startCodeAt_before {zeros x : Nat} (rest : ByteSpan) (h : x < zeros - 3) :
    startCodeAt (startCode zeros ++ rest) x = false := by
  rw [startCodeAt, byteAt_zeros rest (show x + 2 < zeros by omega),
    byteAt_zeros rest (show x + 3 < zeros by omega)]
  simp

/-- The last three zeros before a one, or the two that there are before more bytes, begin a start
    code. -/
theorem startCodeAt_code {zeros : Nat} {rest : ByteSpan} (hz : 2 ≤ zeros)
    (hseen : rest ≠ [] ∨ 3 ≤ zeros) : startCodeAt (startCode zeros ++ rest) (zeros - 3) = true := by
  rw [startCodeAt, byteAt_zeros rest (show zeros - 3 < zeros by omega),
    byteAt_zeros rest (show zeros - 3 + 1 < zeros by omega)]
  by_cases h2 : zeros = 2
  · subst h2
    rw [show 2 - 3 + 2 = 2 from rfl, byteAt_one]
    rfl
  · have hin : zeros < zeros + 1 + rest.length := by omega
    rw [byteAt_zeros rest (show zeros - 3 + 2 < zeros by omega),
      show zeros - 3 + 3 = zeros by omega, byteAt_one, List.length_append, length_startCode]
    simp [hin]

/-- A scan over bytes without a start code, up to a run of zeros before a one, ends at the last
    three zeros: they are taken for the long start code. -/
theorem skipToStartCode_code {data a rest : ByteSpan} {i zeros : Nat}
    (h : data.drop i = a ++ (startCode zeros ++ rest)) (ha : Whole a) (hz : 2 ≤ zeros)
    (hseen : rest ≠ [] ∨ 3 ≤ zeros) : skipToStartCode data i = i + a.length + (zeros - 3) := by
  have hlen : data.length = i + a.length + (zeros + 1) + rest.length := by
    have := congrArg List.length h
    simp only [List.length_drop, List.length_append, length_startCode] at this
    omega
  have hpos : rest.length ≠ 0 ∨ 3 ≤ zeros := hseen.imp_left fun hne => by simpa using hne
  have hcode : data.drop (i + a.length) = startCode zeros ++ rest := by
    rw [← List.drop_drop, h, List.drop_left]
  apply skipToStartCode_eq (by omega) (by omega)
  · intro m hm hlt
    refine ⟨by omega, ?_⟩
    by_cases hinside : m < i + a.length
    · obtain ⟨x, rfl⟩ : ∃ x, m = i + x := ⟨m - i, by omega⟩
      rw [startCodeAt_drop h, ha.startCodeAt_inside _ (by omega)]
    · obtain ⟨x, rfl⟩ : ∃ x, m = i + a.length + x := ⟨m - (i + a.length), by omega⟩
      rw [startCodeAt_drop hcode, startCodeAt_before rest (by omega)]
  · right
    rw [startCodeAt_drop hcode, startCodeAt_code hz hseen]

/-- A scan over bytes in which no start code begins comes to their end. -/
theorem skipToStartCode_end {data rest : ByteSpan} {i : Nat} (hi : i ≤ data.length)
    (h : data.drop i = rest) (hnone : ∀ x, x + 3 < rest.length → startCodeAt rest x = false) :
    data.length ≤ skipToStartCode data i + 3 := by
  have hlen : data.length = i + rest.length := by
    rw [← h, List.length_drop]
    omega
  rw [skipToStartCode_eq (i := i) (j := i + (rest.length - 3)) (by omega) (by omega) ?_ (.inl ?_)]
  · omega
  · intro m hm hlt
    obtain ⟨x, rfl⟩ : ∃ x, m = i + x := ⟨m - i, by omega⟩
    refine ⟨by omega, ?_⟩
    rw [startCodeAt_drop h]
    exact hnone x (by omega)
  · omega

/-- Where the unit that begins at `payload` ends, before zeros are trimmed. -/
def stopFrom (data : ByteSpan) (payload : Nat) : Nat :=
  if data.length ≤ skipToStartCode data payload + 3 then data.length
  else skipToStartCode data payload

/-- A unit ends at the next start code. -/
theorem stopFrom_code {data a rest : ByteSpan} {i zeros : Nat}
    (h : data.drop i = a ++ (startCode zeros ++ rest)) (ha : Whole a) (hz : 2 ≤ zeros)
    (hseen : rest ≠ [] ∨ 3 ≤ zeros) : stopFrom data i = i + a.length + (zeros - 3) := by
  have hlen : data.length = i + a.length + (zeros + 1) + rest.length := by
    have := congrArg List.length h
    simp only [List.length_drop, List.length_append, length_startCode] at this
    omega
  have hpos : rest.length ≠ 0 ∨ 3 ≤ zeros := hseen.imp_left fun hne => by simpa using hne
  rw [stopFrom, skipToStartCode_code h ha hz hseen, if_neg (by omega)]

/-- The last unit ends with the bytes. -/
theorem stopFrom_end {data rest : ByteSpan} {i : Nat} (hi : i ≤ data.length)
    (h : data.drop i = rest) (hnone : ∀ x, x + 3 < rest.length → startCodeAt rest x = false) :
    stopFrom data i = data.length :=
  if_pos (skipToStartCode_end hi h hnone)

/-- **One round of the scanner.**  Behind the first start code it takes the bytes up to where the
    unit stops, without the zeros at their end. -/
theorem nextAnnexBNal_code {data a rest b : ByteSpan} {p zeros j : Nat}
    (h : data.drop p = a ++ (startCode zeros ++ rest)) (ha : Whole a) (hz : 2 ≤ zeros)
    (hseen : rest ≠ [] ∨ 3 ≤ zeros) (hb : b <+: rest) (hlast : b.getLast? ≠ some 0)
    (hzero : ∀ x < j, byteAt rest (b.length + x) = 0)
    (hstop : stopFrom data (p + a.length + (zeros + 1)) =
      p + a.length + (zeros + 1) + b.length + j) :
    nextAnnexBNal data p =
      if b = [] then none else some (b, p + a.length + (zeros + 1) + b.length) := by
  obtain ⟨tail, rfl⟩ := hb
  have hlen : data.length = p + a.length + (zeros + 1) + (b.length + tail.length) := by
    have := congrArg List.length h
    simp only [List.length_drop, List.length_append, length_startCode] at this
    omega
  have hpos : b.length + tail.length ≠ 0 ∨ 3 ≤ zeros :=
    hseen.imp_left fun hne => by simpa [← List.length_eq_zero_iff] using hne
  have hcode : data.drop (p + a.length) = startCode zeros ++ (b ++ tail) := by
    rw [← List.drop_drop, h, List.drop_left]
  have hrest : data.drop (p + a.length + (zeros + 1)) = b ++ tail := by
    rw [← List.drop_drop, hcode, List.drop_left' (length_startCode zeros)]
  -- The unit begins behind the start code, however many zeros that has,
  have hpayload : p + a.length + (zeros - 3) +
      (if byteAt data (p + a.length + (zeros - 3) + 2) = 1 then 3 else 4) =
        p + a.length + (zeros + 1) := by
    rw [Nat.add_assoc (p + a.length) (zeros - 3) 2, byteAt_drop hcode]
    by_cases h2 : zeros = 2
    · subst h2
      rw [show 2 - 3 + 2 = 2 from rfl, byteAt_one, if_pos rfl]
    · rw [byteAt_zeros _ (by omega), if_neg (by decide)]
      omega
  -- and the scanner goes back over the zeros in front of where it stops.
  have hretreat : retreat (fun i => byteAt data i == 0) (p + a.length + (zeros + 1))
      (stopFrom data (p + a.length + (zeros + 1))) = p + a.length + (zeros + 1) + b.length := by
    rw [hstop]
    apply retreat_eq (by omega) (by omega)
    · intro m hm hlt
      obtain ⟨x, rfl⟩ : ∃ x, m = p + a.length + (zeros + 1) + (b.length + x) :=
        ⟨m - (p + a.length + (zeros + 1) + b.length), by omega⟩
      rw [byteAt_drop hrest, hzero x (by omega)]
      rfl
    · intro hb
      have hlastByte := last_ne_zero hlast (by omega)
      rw [show p + a.length + (zeros + 1) + b.length - 1 =
          p + a.length + (zeros + 1) + (b.length - 1) by omega, byteAt_drop hrest,
        byteAt_append_left _ (by omega)]
      simpa using hlastByte
  rw [stopFrom] at hretreat
  simp only [nextAnnexBNal, skipToStartCode_code h ha hz hseen, hpayload, hretreat]
  rw [if_neg (by omega), hrest, Nat.add_sub_cancel_left, List.take_left]
  by_cases hnil : b = []
  · rw [if_pos hnil, if_pos (by rw [hnil]; exact Nat.le_refl _)]
  · have := List.length_pos_iff.mpr hnil
    rw [if_neg hnil, if_neg (by omega)]

theorem whole_nil : Whole [] := ⟨by decide, by decide⟩

/-- **The scanner finds a NAL unit** behind its start code and stops at its last byte, whatever
    units come behind it. -/
theorem nextAnnexBNal_eq {data : ByteSpan} {p zeros : Nat} {n : NalUnit}
    {units : List (Nat × NalUnit)} (hz : 2 ≤ zeros) (hunits : ∀ u ∈ units, 2 ≤ u.1)
    (h : data.drop p = startCode zeros ++ n.bytes ++ annexB units) :
    nextAnnexBNal data p = some (n.bytes, p + (zeros + 1) + n.bytes.length) := by
  have hrest : data.drop (p + (zeros + 1)) = n.bytes ++ annexB units := by
    rw [← List.drop_drop, h, List.append_assoc, List.drop_left' (length_startCode zeros)]
  have hlen : data.length = p + (zeros + 1) + n.bytes.length + (annexB units).length := by
    have := congrArg List.length h
    have hpos := n.length_pos
    simp only [List.length_drop, List.length_append, length_startCode] at this
    omega
  have hstop : ∃ j, (∀ x < j, byteAt (annexB units) x = 0) ∧
      stopFrom data (p + (zeros + 1)) = p + (zeros + 1) + n.bytes.length + j := by
    cases units with
    | nil =>
      refine ⟨0, fun x hx => absurd hx (Nat.not_lt_zero x), ?_⟩
      rw [annexB_nil, List.length_nil] at hlen
      rw [annexB_nil, List.append_nil] at hrest
      refine (stopFrom_end (by omega) hrest fun x hx => ?_).trans hlen
      have := n.whole.startCodeAt_inside [] (show x < n.bytes.length by omega)
      rwa [List.append_nil] at this
    | cons u units =>
      have hu := hunits u List.mem_cons_self
      rw [annexB_cons, List.append_assoc] at hrest
      refine ⟨u.1 - 3, fun x hx => ?_, stopFrom_code hrest n.whole hu (.inl ?_)⟩
      · rw [annexB_cons, List.append_assoc]
        exact byteAt_zeros _ (by omega)
      · simp [u.2.bytes_ne_nil]
  obtain ⟨j, hzero, hstop⟩ := hstop
  have hnext := nextAnnexBNal_code (a := []) (j := j)
    (by rw [List.nil_append, h, List.append_assoc]) whole_nil hz (.inl (by simp [n.bytes_ne_nil]))
    (List.prefix_append n.bytes (annexB units)) n.noTrailingZero
    (fun x hx => by rw [byteAt_append_right, hzero x hx]) hstop
  rw [hnext, if_neg n.bytes_ne_nil]
  rfl

/-- At the end of a byte stream there is no further unit. -/
theorem nextAnnexBNal_end (data : ByteSpan) : nextAnnexBNal data data.length = none := by
  have h := le_seek (fun i => !decide (i + 3 < data.length) || startCodeAt data i) data.length
    data.length
  rw [nextAnnexBNal, if_pos]
  exact Nat.le_trans h (Nat.le_add_right _ 3)

/-- What is left of a byte stream is read unit by unit. -/
theorem annexBNalsFrom_eq {data : ByteSpan} {fuel p : Nat} {units : List (Nat × NalUnit)}
    (hunits : ∀ u ∈ units, 2 ≤ u.1) (hp : p ≤ data.length) (h : data.drop p = annexB units)
    (hfuel : units.length < fuel) :
    annexBNalsFrom data fuel p = units.map fun u => u.2.bytes := by
  induction units generalizing fuel p with
  | nil =>
    obtain ⟨fuel, rfl⟩ : ∃ k, fuel = k + 1 := ⟨fuel - 1, by simp at hfuel; omega⟩
    rw [annexB_nil, List.drop_eq_nil_iff] at h
    obtain rfl : p = data.length := by omega
    rw [annexBNalsFrom, nextAnnexBNal_end]
    rfl
  | cons u units ih =>
    obtain ⟨fuel, rfl⟩ : ∃ k, fuel = k + 1 := ⟨fuel - 1, by simp at hfuel; omega⟩
    rw [annexB_cons] at h
    have hrest : ∀ v ∈ units, 2 ≤ v.1 := fun v hv => hunits v (List.mem_cons_of_mem u hv)
    have hdrop : data.drop (p + (u.1 + 1) + u.2.bytes.length) = annexB units := by
      rw [Nat.add_assoc, ← List.drop_drop, h]
      exact List.drop_left' (by simp)
    have hlen := congrArg List.length h
    simp only [List.length_drop, List.length_append, length_startCode] at hlen
    rw [annexBNalsFrom, nextAnnexBNal_eq (hunits u List.mem_cons_self) hrest h]
    simp only [List.map_cons]
    rw [ih hrest (by omega) hdrop (by simpa using hfuel)]

/-- A byte stream has more bytes than units. -/
theorem length_le_annexB (units : List (Nat × NalUnit)) :
    units.length ≤ (annexB units).length := by
  induction units with
  | nil => exact Nat.le_refl 0
  | cons u units ih =>
    simp only [annexB_cons, List.length_append, length_startCode, List.length_cons]
    omega

/-- **Reading a byte stream gives back the NAL units it was made of**, whether their start codes
    are short, long or preceded by more zeros. -/
theorem annexBNals_annexB {units : List (Nat × NalUnit)} (hunits : ∀ u ∈ units, 2 ≤ u.1) :
    annexBNals (annexB units) = units.map fun u => u.2.bytes :=
  annexBNalsFrom_eq hunits (Nat.zero_le _) rfl (Nat.lt_succ_of_le (length_le_annexB units))

end EsphomeVoip
