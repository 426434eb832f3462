import EsphomeVoip.Video.VideoRtpSession

/-! # Packetizing access units

What a sender of H.264 may do with the NAL units of an access unit: one unit in a packet, several
in an aggregate (STAP-A), one over several packets (FU-A).  `assemble` is the other direction, on
payloads alone: it says which byte stream some payloads stand for. -/

namespace EsphomeVoip

/-! ## What a sender may send -/

/-- The NAL units of an aggregate, each behind its size. -/
def sizedUnits (ns : List NalUnit) : ByteSpan :=
  ns.flatMap fun n => writeBe16 (UInt16.ofNat n.bytes.length) ++ n.bytes

theorem sizedUnits_cons (n : NalUnit) (ns : List NalUnit) : sizedUnits (n :: ns) =
    writeBe16 (UInt16.ofNat n.bytes.length) ++ n.bytes ++ sizedUnits ns := List.flatMap_cons

/-- A part of an access unit that is packetized on its own. -/
inductive Piece where
  /-- a NAL unit in a packet of its own -/
  | single (n : NalUnit)
  /-- some NAL units in one packet, each behind its size -/
  | aggregate (indicator : UInt8) (ns : List NalUnit) (isStap : indicator &&& 0x1F = 24)
      (nonempty : ns ≠ []) (fits : ∀ n ∈ ns, n.bytes.length < 65536)
  /-- a NAL unit without its header, cut into two fragments at least -/
  | fragments (n : NalUnit) (first : ByteSpan) (middle : List ByteSpan) (final : ByteSpan)
      (whole : n.bytes.tail = first ++ middle.flatten ++ final)

namespace Piece

/-- The NAL units of a piece. -/
def nals : Piece → List NalUnit
  | single n => [n]
  | aggregate _ ns _ _ _ => ns
  | fragments n _ _ _ _ => [n]

/-- Whether several units share a packet. -/
def isAggregate : Piece → Bool
  | aggregate .. => true
  | _ => false

/-- The payloads of its packets. -/
def payloads : Piece → List ByteSpan
  | single n => [n.bytes]
  | aggregate indicator ns _ _ _ => [indicator :: sizedUnits ns]
  | fragments n first middle final _ =>
    (VideoRtpSession.fuPrefix n.bytes true false ++ first) ::
      (middle.map (VideoRtpSession.fuPrefix n.bytes false false ++ ·) ++
        [VideoRtpSession.fuPrefix n.bytes false true ++ final])

end Piece

/-- The byte stream of some NAL units, with the start codes that the receiver puts before them. -/
def longForm (ns : List NalUnit) : ByteSpan := annexB (ns.map fun n => (3, n))

@[simp] theorem longForm_nil : longForm [] = [] := rfl

@[simp] theorem longForm_cons (n : NalUnit) (ns : List NalUnit) :
    longForm (n :: ns) = startCode 3 ++ n.bytes ++ longForm ns := by
  simp only [longForm, List.map_cons, annexB_cons]

@[simp] theorem longForm_append (ms ns : List NalUnit) :
    longForm (ms ++ ns) = longForm ms ++ longForm ns := by
  simp only [longForm, annexB, List.map_append, List.flatMap_append]

/-- The scanner reads the units back. -/
theorem annexBNals_longForm (ns : List NalUnit) :
    annexBNals (longForm ns) = ns.map NalUnit.bytes := by
  rw [longForm, annexBNals_annexB]
  · simp only [List.map_map]
    rfl
  · intro u hu
    obtain ⟨n, -, rfl⟩ := List.mem_map.mp hu
    exact Nat.le_succ 2

/-! ## The header bytes of a payload -/

/-- Whether an FU header carries the start bit. -/
def fuStart (payload : ByteSpan) : Bool := byteAt payload 1 &&& 0x80 != 0

/-- Whether an FU header carries the end bit. -/
def fuEnd (payload : ByteSpan) : Bool := byteAt payload 1 &&& 0x40 != 0

/-- Whether a payload is a fragment behind the first one. -/
def isContinuation (payload : ByteSpan) : Bool := nalType payload == 28 && !fuStart payload

/-- The type of the NAL unit that a fragment is from. -/
def fragmentType (payload : ByteSpan) : UInt8 := byteAt payload 1 &&& 0x1F

/-- The header of the NAL unit that a fragment is from. -/
def reconstructed (payload : ByteSpan) : UInt8 :=
  (byteAt payload 0 &&& 0xE0) ||| fragmentType payload

section Fragment

variable (n : NalUnit) (first final : Bool) (rest : ByteSpan)

theorem nalType_fuPrefix (nal : ByteSpan) :
    nalType (VideoRtpSession.fuPrefix nal first final ++ rest) = 28 := by
  show ((byteAt nal 0 &&& 0xE0) ||| 28) &&& 0x1F = 28
  generalize byteAt nal 0 = b
  revert b
  apply forall_byte
  decide

theorem fuStart_fuPrefix (nal : ByteSpan) :
    fuStart (VideoRtpSession.fuPrefix nal first final ++ rest) = first := by
  show (((byteAt nal 0 &&& 0x1F) ||| (if first then 0x80 else 0) |||
    (if final then 0x40 else 0)) &&& 0x80 != 0) = first
  generalize byteAt nal 0 = b
  revert b
  apply forall_byte
  cases first <;> cases final <;> decide

theorem fuEnd_fuPrefix (nal : ByteSpan) :
    fuEnd (VideoRtpSession.fuPrefix nal first final ++ rest) = final := by
  show (((byteAt nal 0 &&& 0x1F) ||| (if first then 0x80 else 0) |||
    (if final then 0x40 else 0)) &&& 0x40 != 0) = final
  generalize byteAt nal 0 = b
  revert b
  apply forall_byte
  cases first <;> cases final <;> decide

theorem fragmentType_fuPrefix (nal : ByteSpan) :
    fragmentType (VideoRtpSession.fuPrefix nal first final ++ rest) = nalType nal := by
  show ((byteAt nal 0 &&& 0x1F) ||| (if first then 0x80 else 0) |||
    (if final then 0x40 else 0)) &&& 0x1F = byteAt nal 0 &&& 0x1F
  generalize byteAt nal 0 = b
  revert b
  apply forall_byte
  cases first <;> cases final <;> decide

/-- The header of a NAL unit is split over the two bytes of a fragment and put together again. -/
theorem reconstructed_fuPrefix (nal : ByteSpan) :
    reconstructed (VideoRtpSession.fuPrefix nal first final ++ rest) = byteAt nal 0 := by
  show (((byteAt nal 0 &&& 0xE0) ||| 28) &&& 0xE0) ||| (((byteAt nal 0 &&& 0x1F) |||
    (if first then 0x80 else 0) ||| (if final then 0x40 else 0)) &&& 0x1F) = byteAt nal 0
  generalize byteAt nal 0 = b
  revert b
  apply forall_byte
  cases first <;> cases final <;> decide

theorem drop_fuPrefix (nal : ByteSpan) :
    (VideoRtpSession.fuPrefix nal first final ++ rest).drop 2 = rest := rfl

end Fragment

/-! ## The byte stream that payloads stand for -/

/-- The units of a STAP-A from `pos` on. -/
def stapUnitsFrom (payload : ByteSpan) : Nat → Nat → List ByteSpan
  | 0, _ => []
  | fuel + 1, pos =>
    if pos + 2 ≤ payload.length then
      let nalSize := (readBe16 payload pos).toNat
      if nalSize = 0 ∨ payload.length < pos + 2 + nalSize then []
      else (payload.drop (pos + 2)).take nalSize ::
        stapUnitsFrom payload fuel (pos + 2 + nalSize)
    else []

/-- The units of a STAP-A. -/
def stapUnits (payload : ByteSpan) : List ByteSpan := stapUnitsFrom payload payload.length 1

/-- A byte stream under construction: the bytes, and the type of the NAL unit whose fragments are
    still to come, if there is one. -/
structure Assembly where
  bytes : ByteSpan
  openType : Option UInt8
  deriving DecidableEq, Repr

namespace Assembly

/-- Nothing has been put together. -/
def empty : Assembly := ⟨[], none⟩

/-- Put the next payload behind. -/
def take (a : Assembly) (payload : ByteSpan) : Assembly :=
  if nalType payload = 24 then
    { a with bytes := a.bytes ++ (stapUnits payload).flatMap (startCode 3 ++ ·) }
  else if nalType payload = 28 then
    { bytes := a.bytes ++
        (if fuStart payload then startCode 3 ++ [reconstructed payload] else []) ++
        payload.drop 2
      openType :=
        if fuEnd payload then none
        else if fuStart payload then some (fragmentType payload)
        else a.openType }
  else { a with bytes := a.bytes ++ startCode 3 ++ payload }

/-- Put some payloads together. -/
def takeAll (a : Assembly) (payloads : List ByteSpan) : Assembly := payloads.foldl take a

@[simp] theorem takeAll_nil (a : Assembly) : a.takeAll [] = a := rfl

@[simp] theorem takeAll_cons (a : Assembly) (p : ByteSpan) (ps : List ByteSpan) :
    a.takeAll (p :: ps) = (a.take p).takeAll ps := rfl

theorem takeAll_append (a : Assembly) (ps qs : List ByteSpan) :
    a.takeAll (ps ++ qs) = (a.takeAll ps).takeAll qs := List.foldl_append

end Assembly

/-! ## The payloads of a piece stand for its units -/

theorem NalUnit.nalType_ne {n : NalUnit} {t : UInt8} (h : 23 < t) : nalType n.bytes ≠ t := by
  rintro rfl
  have := n.typeLe
  rw [UInt8.le_iff_toNat_le] at this
  rw [UInt8.lt_iff_toNat_lt] at h
  omega

theorem nalType_cons (header : UInt8) (rest : ByteSpan) :
    nalType (header :: rest) = header &&& 0x1F := rfl

/-- A NAL unit is its header and the rest. -/
theorem NalUnit.cons_tail (n : NalUnit) : byteAt n.bytes 0 :: n.bytes.tail = n.bytes := by
  obtain ⟨b, bs, h⟩ := List.exists_cons_of_ne_nil n.bytes_ne_nil
  rw [h]
  rfl

theorem readBe16_drop {data rest : ByteSpan} {p : Nat} (h : data.drop p = rest) :
    readBe16 data p = readBe16 rest 0 := by
  have h0 := byteAt_drop h 0
  have h1 := byteAt_drop h 1
  rw [Nat.add_zero] at h0
  rw [readBe16, readBe16, h0, h1]

/-- The units of an aggregate are read back. -/
theorem stapUnitsFrom_eq {payload : ByteSpan} {fuel pos : Nat} {ns : List NalUnit}
    (fits : ∀ n ∈ ns, n.bytes.length < 65536) (hfuel : ns.length < fuel)
    (h : payload.drop pos = sizedUnits ns) :
    stapUnitsFrom payload fuel pos = ns.map NalUnit.bytes := by
  induction ns generalizing fuel pos with
  | nil =>
    obtain ⟨fuel, rfl⟩ : ∃ k, fuel = k + 1 := ⟨fuel - 1, by simp at hfuel; omega⟩
    have hlen := congrArg List.length h
    simp only [List.length_drop, sizedUnits, List.flatMap_nil, List.length_nil] at hlen
    rw [stapUnitsFrom, if_neg (by omega)]
    rfl
  | cons n ns ih =>
    obtain ⟨fuel, rfl⟩ : ∃ k, fuel = k + 1 := ⟨fuel - 1, by simp at hfuel; omega⟩
    rw [sizedUnits_cons, List.append_assoc] at h
    have hpos := n.length_pos
    have hlen := congrArg List.length h
    simp only [List.length_drop, List.length_append, writeBe16, List.length_cons,
      List.length_nil] at hlen
    have hsize : (readBe16 payload pos).toNat = n.bytes.length := by
      rw [readBe16_drop h, readBe16_writeBe16, UInt16.toNat_ofNat']
      exact Nat.mod_eq_of_lt (fits n List.mem_cons_self)
    have hunit : payload.drop (pos + 2) = n.bytes ++ sizedUnits ns := by
      rw [← List.drop_drop, h]
      rfl
    have hrest : payload.drop (pos + 2 + n.bytes.length) = sizedUnits ns := by
      rw [← List.drop_drop, hunit, List.drop_left]
    rw [stapUnitsFrom, if_pos (by omega)]
    simp only [hsize]
    rw [if_neg (by omega), hunit, List.take_left, List.map_cons,
      ih (fun m hm => fits m (List.mem_cons_of_mem n hm)) (by simpa using hfuel) hrest]

theorem length_le_sizedUnits (ns : List NalUnit) : ns.length ≤ (sizedUnits ns).length := by
  induction ns with
  | nil => exact Nat.le_refl 0
  | cons n ns ih =>
    simp only [sizedUnits_cons, List.length_append, writeBe16, List.length_cons,
      List.length_nil] at ih ⊢
    omega

theorem longForm_eq_flatMap (ns : List NalUnit) :
    longForm ns = (ns.map NalUnit.bytes).flatMap (startCode 3 ++ ·) := by
  simp only [longForm, annexB, List.flatMap_map]

namespace Assembly

theorem take_single (a : Assembly) (n : NalUnit) :
    a.take n.bytes = { a with bytes := a.bytes ++ longForm [n] } := by
  rw [take, if_neg (NalUnit.nalType_ne (by decide)), if_neg (NalUnit.nalType_ne (by decide)),
    longForm_cons, longForm_nil, List.append_nil, List.append_assoc]

theorem take_aggregate (a : Assembly) {indicator : UInt8} {ns : List NalUnit}
    (isStap : indicator &&& 0x1F = 24) (fits : ∀ n ∈ ns, n.bytes.length < 65536) :
    a.take (indicator :: sizedUnits ns) = { a with bytes := a.bytes ++ longForm ns } := by
  have hunits : stapUnits (indicator :: sizedUnits ns) = ns.map NalUnit.bytes := by
    apply stapUnitsFrom_eq fits
    · have := length_le_sizedUnits ns
      rw [List.length_cons]
      omega
    · rfl
  rw [take, nalType_cons, if_pos isStap, hunits, longForm_eq_flatMap]

section Fragments

variable (a : Assembly) (nal rest : ByteSpan)

/-- The first fragment brings the header of the unit. -/
theorem take_first : a.take (VideoRtpSession.fuPrefix nal true false ++ rest) =
    ⟨a.bytes ++ (startCode 3 ++ [byteAt nal 0]) ++ rest, some (nalType nal)⟩ := by
  rw [take, nalType_fuPrefix, if_neg (by decide), if_pos rfl, fuStart_fuPrefix, fuEnd_fuPrefix,
    reconstructed_fuPrefix, fragmentType_fuPrefix, drop_fuPrefix]
  rfl

theorem take_middle : a.take (VideoRtpSession.fuPrefix nal false false ++ rest) =
    ⟨a.bytes ++ rest, a.openType⟩ := by
  rw [take, nalType_fuPrefix, if_neg (by decide), if_pos rfl, fuStart_fuPrefix, fuEnd_fuPrefix,
    drop_fuPrefix]
  simp only [Bool.false_eq_true, ↓reduceIte, List.append_nil]

theorem take_final : a.take (VideoRtpSession.fuPrefix nal false true ++ rest) =
    ⟨a.bytes ++ rest, none⟩ := by
  rw [take, nalType_fuPrefix, if_neg (by decide), if_pos rfl, fuStart_fuPrefix, fuEnd_fuPrefix,
    drop_fuPrefix]
  simp only [Bool.false_eq_true, ↓reduceIte, List.append_nil]

theorem takeAll_middle (middle : List ByteSpan) :
    a.takeAll (middle.map (VideoRtpSession.fuPrefix nal false false ++ ·)) =
      ⟨a.bytes ++ middle.flatten, a.openType⟩ := by
  induction middle generalizing a with
  | nil => simp
  | cons m middle ih =>
    rw [List.map_cons, takeAll_cons, take_middle, ih]
    simp only [List.flatten_cons, List.append_assoc]

end Fragments

/-- **The payloads of a piece stand for its NAL units**, each behind a long start code. -/
theorem takeAll_piece (bytes : ByteSpan) (p : Piece) :
    takeAll ⟨bytes, none⟩ p.payloads = ⟨bytes ++ longForm p.nals, none⟩ := by
  cases p with
  | single n =>
    show take ⟨bytes, none⟩ n.bytes = _
    rw [take_single]
    rfl
  | aggregate indicator ns isStap nonempty fits =>
    show take ⟨bytes, none⟩ _ = _
    rw [take_aggregate _ isStap fits]
    rfl
  | fragments n first middle final whole =>
    simp only [Piece.payloads, Piece.nals, takeAll_cons, take_first, takeAll_append,
      takeAll_middle, take_final, takeAll_nil, longForm_cons, longForm_nil, List.append_nil]
    have hnal : n.bytes = byteAt n.bytes 0 :: (first ++ middle.flatten ++ final) := by
      rw [← whole, n.cons_tail]
    conv =>
      rhs
      rw [hnal]
    simp only [List.append_assoc, List.cons_append, List.nil_append]

/-- The payloads of some pieces stand for the NAL units of all of them. -/
theorem takeAll_pieces (bytes : ByteSpan) (ps : List Piece) :
    takeAll ⟨bytes, none⟩ (ps.flatMap Piece.payloads) =
      ⟨bytes ++ longForm (ps.flatMap Piece.nals), none⟩ := by
  induction ps generalizing bytes with
  | nil => simp
  | cons p ps ih =>
    rw [List.flatMap_cons, takeAll_append, takeAll_piece, ih, List.flatMap_cons, longForm_append,
      List.append_assoc]

end Assembly

end EsphomeVoip
