import EsphomeVoip.Video.Rtcp

/-! # Compound RTCP packets

A compound packet is a chain of records that begins with a report and has a description of the
source.  `handleRtcpPacket_eq_ok_iff` says that these are the packets that are accepted, and for
which of them a key frame is requested. -/

namespace EsphomeVoip

/-! ## Records -/

/-- The record says that it is padded. -/
def Padded (record : ByteSpan) : Prop := byteAt record 0 &&& 0x20 ≠ 0

instance (record : ByteSpan) : Decidable (Padded record) := inferInstanceAs (Decidable (_ ≠ _))

/-- `packet[offset] & 0x1F`. -/
def rtcpCount (record : ByteSpan) : UInt8 := byteAt record 0 &&& 0x1F

/-- `packet[offset + 1]`. -/
def rtcpType (record : ByteSpan) : UInt8 := byteAt record 1

/-- The padding of a record, which counts itself in its last byte. -/
def rtcpPadding (record : ByteSpan) : Nat :=
  if Padded record then (byteAt record (record.length - 1)).toNat else 0

/-- The size of a record without its padding. -/
def rtcpContentSize (record : ByteSpan) : Nat := record.length - rtcpPadding record

/-- The least size of a record of some type. -/
def leastSize (type count : UInt8) : Nat :=
  if type = 200 then 28 + count.toNat * 24
  else if type = 201 then 8 + count.toNat * 24
  else if type = 202 then 8
  else if type = 203 then 4 + count.toNat * 4
  else if type = 206 then 12
  else 0

/-- The bytes of one record, as its header gives them. -/
structure IsFrame (record : ByteSpan) : Prop where
  version : byteAt record 0 >>> 6 = 2
  size : record.length = ((readBe16 record 2).toNat + 1) * 4
  counted : Padded record → rtcpPadding record ≠ 0 ∧ rtcpPadding record ≤ record.length - 4

/-- A record with room for what its type has. -/
structure IsRecord (record : ByteSpan) : Prop extends IsFrame record where
  room : leastSize (rtcpType record) (rtcpCount record) ≤ rtcpContentSize record

/-- The record is a report of a sender or of a receiver. -/
def IsReport (record : ByteSpan) : Prop := rtcpType record = 200 ∨ rtcpType record = 201

/-- A chain of records, of which only the last one is padded. -/
structure IsCompound (records : List ByteSpan) : Prop where
  isRecord : ∀ r ∈ records, IsRecord r
  notPadded : ∀ r ∈ records.dropLast, ¬Padded r
  report : ∃ r, records.head? = some r ∧ IsReport r
  sdes : ∃ r ∈ records, rtcpType r = 202

/-- The record is a picture loss indication for a source. -/
def IsPli (ssrc : UInt32) (record : ByteSpan) : Prop :=
  rtcpType record = 206 ∧ rtcpCount record = 1 ∧ readBe32 record 8 = ssrc

/-- The record is a full intra request that has an entry for a source. -/
def IsFir (ssrc : UInt32) (record : ByteSpan) : Prop :=
  rtcpType record = 206 ∧ rtcpCount record = 4 ∧
    ∃ i, 12 + i * 8 + 8 ≤ rtcpContentSize record ∧ readBe32 record (12 + i * 8) = ssrc

/-- The record asks the session for a key frame, in a way that was negotiated. -/
def AsksKeyFrame (s : RtcpSession) (record : ByteSpan) : Prop :=
  (s.acceptRemotePli = true ∧ IsPli s.txSsrc record) ∨
    (s.acceptRemoteFir = true ∧ IsFir s.txSsrc record)

/-- What the loop knows of a record. -/
def rtcpHeaderOf (record : ByteSpan) : RtcpHeader :=
  ⟨rtcpCount record, rtcpType record, readBe16 record 2, rtcpContentSize record⟩

/-! ## Reading -/

theorem byteAt_append {record : ByteSpan} {i : Nat} (h : i < record.length) (tail : ByteSpan) :
    byteAt (record ++ tail) i = byteAt record i := by
  rw [byteAt, byteAt, List.getD_eq_getElem?_getD, List.getD_eq_getElem?_getD,
    List.getElem?_append_left h]

theorem withBe32_of_lt {β : Type} {data : ByteSpan} {i : Nat} (h : i + 3 < data.length)
    (outside : β) (k : UInt32 → β) : withBe32 data i outside k = k (readBe32 data i) := by
  rw [withBe32, withByte_of_lt (by omega), withByte_of_lt (by omega), withByte_of_lt (by omega),
    withByte_of_lt h]
  rfl

theorem readBe32_append {record : ByteSpan} {i : Nat} (h : i + 3 < record.length)
    (tail : ByteSpan) : readBe32 (record ++ tail) i = readBe32 record i := by
  rw [readBe32, readBe32, byteAt_append (by omega), byteAt_append (by omega),
    byteAt_append (by omega), byteAt_append h]

theorem readBe16_append {record : ByteSpan} {i : Nat} (h : i + 1 < record.length)
    (tail : ByteSpan) : readBe16 (record ++ tail) i = readBe16 record i := by
  rw [readBe16, readBe16, byteAt_append (by omega), byteAt_append h]

theorem IsFrame.four_le {record : ByteSpan} (h : IsFrame record) : 4 ≤ record.length := by
  have := h.size
  omega

/-- The header that is read, byte by byte within the packet. -/
theorem rtcpHeader_eq (rest : ByteSpan) :
    rtcpHeader rest =
      if rest.length < 4 ∨ byteAt rest 0 >>> 6 ≠ 2 ∨
          rest.length < ((readBe16 rest 2).toNat + 1) * 4 then .rejected
      else if byteAt rest 0 &&& 0x20 = 0 then
        .ok ⟨rtcpCount rest, rtcpType rest, readBe16 rest 2, ((readBe16 rest 2).toNat + 1) * 4⟩
      else if ((readBe16 rest 2).toNat + 1) * 4 ≠ rest.length then .rejected
      else if (byteAt rest (rest.length - 1)).toNat = 0 ∨
          rest.length - 4 < (byteAt rest (rest.length - 1)).toNat then .rejected
      else .ok ⟨rtcpCount rest, rtcpType rest, readBe16 rest 2,
        rest.length - (byteAt rest (rest.length - 1)).toNat⟩ := by
  have hwords : ((byteAt rest 2).toUInt16 <<< 8) ||| (byteAt rest 3).toUInt16 =
      readBe16 rest 2 := rfl
  rw [rtcpHeader]
  -- Each read lies behind the check that makes room for it.
  by_cases hlen : rest.length < 4
  · rw [if_pos hlen, if_pos (.inl hlen)]
  · rw [if_neg hlen, withByte_of_lt (by omega), ← byteAt]
    by_cases hversion : byteAt rest 0 >>> 6 ≠ 2
    · rw [if_pos hversion, if_pos (.inr (.inl hversion))]
    · rw [if_neg hversion, withByte_of_lt (by omega), withByte_of_lt (by omega),
        withByte_of_lt (by omega), ← byteAt, ← byteAt, ← byteAt, hwords]
      dsimp only
      by_cases hfits : rest.length < ((readBe16 rest 2).toNat + 1) * 4
      · rw [if_pos (.inr hfits), if_pos (.inr (.inr hfits))]
      · have hread : ¬(((readBe16 rest 2).toNat + 1) * 4 < 4 ∨
            rest.length < ((readBe16 rest 2).toNat + 1) * 4) := by omega
        have hall : ¬(rest.length < 4 ∨ byteAt rest 0 >>> 6 ≠ 2 ∨
            rest.length < ((readBe16 rest 2).toNat + 1) * 4) := by
          rw [not_or, not_or]
          exact ⟨hlen, hversion, hfits⟩
        rw [if_neg hread, if_neg hall]
        by_cases hpadding : byteAt rest 0 &&& 0x20 = 0
        · rw [if_pos hpadding, if_pos hpadding]
          rfl
        · rw [if_neg hpadding, if_neg hpadding]
          by_cases hfinal : ((readBe16 rest 2).toNat + 1) * 4 = rest.length
          · rw [if_neg (fun h => h hfinal), if_neg (fun h => h hfinal), hfinal,
              withByte_of_lt (by omega), ← byteAt]
            rfl
          · rw [if_pos hfinal, if_pos hfinal]

theorem IsFrame.header_facts {record : ByteSpan} (h : IsFrame record) (tail : ByteSpan) :
    byteAt (record ++ tail) 0 = byteAt record 0 ∧ rtcpCount (record ++ tail) = rtcpCount record ∧
      rtcpType (record ++ tail) = rtcpType record ∧
      readBe16 (record ++ tail) 2 = readBe16 record 2 := by
  have hlen := h.four_le
  have hfirst : byteAt (record ++ tail) 0 = byteAt record 0 := byteAt_append (by omega) tail
  refine ⟨hfirst, ?_, byteAt_append (by omega) tail, readBe16_append (by omega) tail⟩
  rw [rtcpCount, rtcpCount, hfirst]

/-- The header of a record is read, whatever follows an unpadded one. -/
theorem rtcpHeader_append {record tail : ByteSpan} (h : IsFrame record)
    (hpadded : Padded record → tail = []) :
    rtcpHeader (record ++ tail) = .ok (rtcpHeaderOf record) := by
  obtain ⟨hfirst, hcount, htype, hwords⟩ := h.header_facts tail
  have hlen := h.four_le
  have hsize := h.size
  have hshort : ¬(record.length + tail.length < 4 ∨ byteAt record 0 >>> 6 ≠ 2 ∨
      record.length + tail.length < ((readBe16 record 2).toNat + 1) * 4) := by
    rw [not_or, not_or, Decidable.not_not]
    exact ⟨by omega, h.version, by omega⟩
  rw [rtcpHeader_eq, hfirst, hcount, htype, hwords, List.length_append, if_neg hshort]
  by_cases hpadding : byteAt record 0 &&& 0x20 = 0
  · have hnot : ¬Padded record := fun hp => hp hpadding
    rw [if_pos hpadding, rtcpHeaderOf, rtcpContentSize, rtcpPadding, if_neg hnot, ← hsize]
    rfl
  · have hnil : tail = [] := hpadded hpadding
    have hpad : rtcpPadding record = (byteAt record (record.length - 1)).toNat :=
      if_pos (show Padded record from hpadding)
    have hcounted := h.counted hpadding
    rw [hpad] at hcounted
    have hcounts : ¬((byteAt record (record.length - 1)).toNat = 0 ∨
        record.length - 4 < (byteAt record (record.length - 1)).toNat) := by omega
    simp only [hnil, List.append_nil, List.length_nil, Nat.add_zero]
    rw [if_neg hpadding, if_neg (by rw [← hsize]; exact fun hne => hne rfl), if_neg hcounts,
      rtcpHeaderOf, rtcpContentSize, hpad]

/-- What is read as a header is the header of a record, and nothing is read outside. -/
theorem rtcpHeader_spec (rest : ByteSpan) :
    rtcpHeader rest = .rejected ∨
      ∃ record tail, rest = record ++ tail ∧ IsFrame record ∧ (Padded record → tail = []) := by
  rw [rtcpHeader_eq]
  split
  · exact .inl rfl
  · rename_i hshort
    rw [not_or, not_or, Decidable.not_not] at hshort
    obtain ⟨hlen, hversion, hfits⟩ := hshort
    have hsplit := List.take_append_drop (((readBe16 rest 2).toNat + 1) * 4) rest
    -- The length field cuts the rest in two.
    generalize hrecord : rest.take (((readBe16 rest 2).toNat + 1) * 4) = record at hsplit
    generalize htail : rest.drop (((readBe16 rest 2).toNat + 1) * 4) = tail at hsplit
    have hlength : record.length = ((readBe16 rest 2).toNat + 1) * 4 := by
      rw [← hrecord, List.length_take]
      omega
    have hfirst : byteAt rest 0 = byteAt record 0 := by
      rw [← hsplit]
      exact byteAt_append (by omega) tail
    have hwords : readBe16 rest 2 = readBe16 record 2 := by
      rw [← hsplit]
      exact readBe16_append (by omega) tail
    split
    · -- without padding
      rename_i hpadding
      have hnot : ¬Padded record := fun hp => hp (hfirst ▸ hpadding)
      refine .inr ⟨record, tail, hsplit.symm, ⟨?_, ?_, fun hp => absurd hp hnot⟩,
        fun hp => absurd hp hnot⟩
      · rw [← hfirst]
        exact hversion
      · rw [← hwords]
        exact hlength
    · -- Only the last record may be padded, by at most what it holds.
      rename_i hpadding
      split
      · exact .inl rfl
      · rename_i hfinal
        rw [Decidable.not_not] at hfinal
        have hnil : tail = [] := by
          rw [← htail, hfinal, List.drop_length]
        rw [hnil, List.append_nil] at hsplit
        split
        · exact .inl rfl
        · rename_i hcounted
          have hpadded : Padded record := by
            rw [hsplit]
            exact hpadding
          refine .inr ⟨record, tail, ?_, ⟨?_, ?_, fun _ => ?_⟩, fun _ => hnil⟩
          · rw [hnil, List.append_nil, hsplit]
          · rw [hsplit]
            exact hversion
          · rw [hlength, hwords]
          · rw [rtcpPadding, if_pos hpadded, hsplit]
            omega

/-! ## One record -/

/-- The entries of a full intra request are looked at within the record. -/
theorem firTargets_spec {subpacket : ByteSpan} {contentSize : Nat}
    (h : contentSize ≤ subpacket.length) (txSsrc : UInt32) (fir : Nat) :
    ∃ targets, firTargets subpacket txSsrc contentSize fir = .ok targets ∧
      (targets = true ↔
        ∃ i, fir + i * 8 + 8 ≤ contentSize ∧ readBe32 subpacket (fir + i * 8) = txSsrc) := by
  by_cases hfir : fir + 8 ≤ contentSize
  · rw [firTargets, if_pos hfir, withBe32_of_lt (by omega)]
    by_cases hssrc : readBe32 subpacket fir = txSsrc
    · rw [if_pos hssrc]
      exact ⟨true, rfl, fun _ => ⟨0, by simpa using hfir, by simpa using hssrc⟩, fun _ => rfl⟩
    · rw [if_neg hssrc]
      obtain ⟨targets, heq, hiff⟩ := firTargets_spec h txSsrc (fir + 8)
      refine ⟨targets, heq, hiff.trans ⟨?_, ?_⟩⟩
      · rintro ⟨i, hi, hread⟩
        have hnext : fir + (i + 1) * 8 = fir + 8 + i * 8 := by omega
        exact ⟨i + 1, by omega, by rw [hnext]; exact hread⟩
      · rintro ⟨i, hi, hread⟩
        cases i with
        | zero => exact absurd (by simpa using hread) hssrc
        | succ i =>
          have hnext : fir + (i + 1) * 8 = fir + 8 + i * 8 := by omega
          rw [hnext] at hread
          exact ⟨i, by omega, hread⟩
  · rw [firTargets, if_neg hfir]
    refine ⟨false, rfl, fun hnot => absurd hnot (by decide), ?_⟩
    rintro ⟨i, hi, -⟩
    omega
termination_by contentSize - fir

theorem contentSize_le (record : ByteSpan) : rtcpContentSize record ≤ record.length :=
  Nat.sub_le _ _

namespace RtcpSession

variable {s : RtcpSession}

/-- The feedback of a record. -/
theorem targetsLocalStream_spec {record : ByteSpan} (htype : rtcpType record = 206)
    (hroom : 12 ≤ rtcpContentSize record) (tail : ByteSpan) :
    ∃ targets, s.targetsLocalStream (record ++ tail) (rtcpHeaderOf record) = .ok targets ∧
      (targets = true ↔ AsksKeyFrame s record) := by
  have hlen := contentSize_le record
  have hne : (1 : UInt8) ≠ 4 := by decide
  rw [targetsLocalStream, rtcpHeaderOf]
  -- a PLI names one stream
  by_cases hpli : rtcpCount record = 1 ∧ s.acceptRemotePli = true
  · rw [if_pos hpli, withBe32_of_lt (by rw [List.length_append]; omega),
      readBe32_append (by omega)]
    refine ⟨_, rfl, ?_⟩
    rw [beq_iff_eq]
    constructor
    · exact fun h => .inl ⟨hpli.2, htype, hpli.1, h⟩
    · rintro (⟨-, -, -, h⟩ | ⟨-, -, h, -⟩)
      · exact h
      · exact absurd (hpli.1.symm.trans h) hne
  · rw [if_neg hpli]
    -- a FIR names a list of streams
    by_cases hfir : rtcpCount record = 4 ∧ s.acceptRemoteFir = true
    · rw [if_pos hfir]
      have hinside : rtcpContentSize record ≤ (record ++ tail).length := by
        rw [List.length_append]
        omega
      obtain ⟨targets, heq, hiff⟩ := firTargets_spec hinside s.txSsrc 12
      refine ⟨targets, heq, hiff.trans ⟨?_, ?_⟩⟩
      · rintro ⟨i, hi, hread⟩
        rw [readBe32_append (by omega)] at hread
        exact .inr ⟨hfir.2, htype, hfir.1, i, hi, hread⟩
      · rintro (⟨-, -, h, -⟩ | ⟨-, -, -, i, hi, hread⟩)
        · exact absurd (h.symm.trans hfir.1) hne
        · refine ⟨i, hi, ?_⟩
          rw [readBe32_append (by omega)]
          exact hread
    · rw [if_neg hfir]
      -- any other feedback asks for nothing
      refine ⟨false, rfl, fun h => absurd h (by decide), ?_⟩
      rintro (⟨haccept, -, h, -⟩ | ⟨haccept, -, h, -⟩)
      · exact absurd ⟨h, haccept⟩ hpli
      · exact absurd ⟨h, haccept⟩ hfir

/-- What has been seen behind a record. -/
structure Saw (s : RtcpSession) (record : ByteSpan) (seen seen' : RtcpSeen) : Prop where
  report : seen'.report = true ↔ seen.report = true ∨ IsReport record
  sdes : seen'.sdes = true ↔ seen.sdes = true ∨ rtcpType record = 202
  request : seen'.requestKeyFrame = true ↔ seen.requestKeyFrame = true ∨ AsksKeyFrame s record

/-- Only feedback asks for a key frame. -/
theorem not_asks {record : ByteSpan} (h : rtcpType record ≠ 206) : ¬AsksKeyFrame s record := by
  rintro (⟨-, htype, -⟩ | ⟨-, htype, -⟩)
  · exact h htype
  · exact h htype

/-- How a record is handled that is taken if it has room. -/
theorem taken {first : Bool} {record : ByteSpan} {seen seen' : RtcpSeen}
    (hreport : first = true → IsReport record) (hsaw : Saw s record seen seen') {least : Nat}
    (hleast : leastSize (rtcpType record) (rtcpCount record) = least) {result : RtcpRead RtcpSeen}
    (hresult : result = if rtcpContentSize record < least then .rejected else .ok seen') :
    (result = .rejected ∧ ¬((first = true → IsReport record) ∧
        leastSize (rtcpType record) (rtcpCount record) ≤ rtcpContentSize record)) ∨
    ∃ seen', result = .ok seen' ∧ (first = true → IsReport record) ∧
      leastSize (rtcpType record) (rtcpCount record) ≤ rtcpContentSize record ∧
      Saw s record seen seen' := by
  rw [hresult, hleast]
  split
  · rename_i hroom
    exact .inl ⟨rfl, fun h => Nat.not_le.mpr hroom h.2⟩
  · rename_i hroom
    exact .inr ⟨seen', rfl, hreport, Nat.not_lt.mp hroom, hsaw⟩

/-- How a record is handled, in terms of its bytes. -/
theorem handleRecord_eq (first : Bool) (subpacket record : ByteSpan) (seen : RtcpSeen) :
    s.handleRecord first subpacket (rtcpHeaderOf record) seen =
      if first = true ∧ rtcpType record ≠ 200 ∧ rtcpType record ≠ 201 then .rejected
      else if rtcpType record = 200 then
        if rtcpContentSize record < 28 + (rtcpCount record).toNat * 24 then .rejected
        else .ok { seen with report := true }
      else if rtcpType record = 201 then
        if rtcpContentSize record < 8 + (rtcpCount record).toNat * 24 then .rejected
        else .ok { seen with report := true }
      else if rtcpType record = 202 then
        if rtcpContentSize record < 8 then .rejected else .ok { seen with sdes := true }
      else if rtcpType record = 203 then
        if rtcpContentSize record < 4 + (rtcpCount record).toNat * 4 then .rejected else .ok seen
      else if rtcpType record = 206 then
        if rtcpContentSize record < 12 then .rejected
        else
          match s.targetsLocalStream subpacket (rtcpHeaderOf record) with
          | .outside => .outside
          | .rejected => .rejected
          | .ok targets => .ok { seen with requestKeyFrame := seen.requestKeyFrame || targets }
      else .ok seen := rfl

/-- A record is taken just where it has room for its type, and the first one is a report. -/
theorem handleRecord_spec (first : Bool) (record tail : ByteSpan) (seen : RtcpSeen) :
    (s.handleRecord first (record ++ tail) (rtcpHeaderOf record) seen = .rejected ∧
      ¬((first = true → IsReport record) ∧
        leastSize (rtcpType record) (rtcpCount record) ≤ rtcpContentSize record)) ∨
    ∃ seen', s.handleRecord first (record ++ tail) (rtcpHeaderOf record) seen = .ok seen' ∧
      (first = true → IsReport record) ∧
      leastSize (rtcpType record) (rtcpCount record) ≤ rtcpContentSize record ∧
      Saw s record seen seen' := by
  rw [handleRecord_eq]
  -- The first record has to be a report.
  by_cases hfirst : first = true ∧ rtcpType record ≠ 200 ∧ rtcpType record ≠ 201
  · refine .inl ⟨if_pos hfirst, fun h => ?_⟩
    rcases h.1 hfirst.1 with h | h
    · exact hfirst.2.1 h
    · exact hfirst.2.2 h
  · have hreport : first = true → IsReport record := by
      intro h
      by_cases h200 : rtcpType record = 200
      · exact .inl h200
      · exact .inr (Decidable.byContradiction fun h201 => hfirst ⟨h, h200, h201⟩)
    rw [if_neg hfirst]
    -- Each type asks for its own room, and is noted in its own way.
    by_cases h200 : rtcpType record = 200
    · have hnot := not_asks (s := s) (h200.symm ▸ (by decide) : rtcpType record ≠ 206)
      have hsaw : Saw s record seen { seen with report := true } :=
        ⟨iff_of_true rfl (.inr (.inl h200)), by simp [h200], by simp [hnot]⟩
      exact taken hreport hsaw (if_pos h200) (if_pos h200)
    · by_cases h201 : rtcpType record = 201
      · have hnot := not_asks (s := s) (h201.symm ▸ (by decide) : rtcpType record ≠ 206)
        have hsaw : Saw s record seen { seen with report := true } :=
          ⟨iff_of_true rfl (.inr (.inr h201)), by simp [h201], by simp [hnot]⟩
        have hleast : leastSize (rtcpType record) (rtcpCount record) =
            8 + (rtcpCount record).toNat * 24 := by
          rw [leastSize, if_neg h200, if_pos h201]
        exact taken hreport hsaw hleast (by rw [if_neg h200, if_pos h201])
      · have hother : ¬IsReport record := fun h => h.elim h200 h201
        by_cases h202 : rtcpType record = 202
        · have hnot := not_asks (s := s) (h202.symm ▸ (by decide) : rtcpType record ≠ 206)
          have hsaw : Saw s record seen { seen with sdes := true } :=
            ⟨by simp [hother], iff_of_true rfl (.inr h202), by simp [hnot]⟩
          have hleast : leastSize (rtcpType record) (rtcpCount record) = 8 := by
            rw [leastSize, if_neg h200, if_neg h201, if_pos h202]
          exact taken hreport hsaw hleast (by rw [if_neg h200, if_neg h201, if_pos h202])
        · by_cases h203 : rtcpType record = 203
          · have hnot := not_asks (s := s) (h203.symm ▸ (by decide) : rtcpType record ≠ 206)
            have hsaw : Saw s record seen seen :=
              ⟨by simp [hother], by simp [h202], by simp [hnot]⟩
            have hleast : leastSize (rtcpType record) (rtcpCount record) =
                4 + (rtcpCount record).toNat * 4 := by
              rw [leastSize, if_neg h200, if_neg h201, if_neg h202, if_pos h203]
            exact taken hreport hsaw hleast
              (by rw [if_neg h200, if_neg h201, if_neg h202, if_pos h203])
          · by_cases h206 : rtcpType record = 206
            · have hleast : leastSize (rtcpType record) (rtcpCount record) = 12 := by
                rw [leastSize, if_neg h200, if_neg h201, if_neg h202, if_neg h203, if_pos h206]
              rw [if_neg h200, if_neg h201, if_neg h202, if_neg h203, if_pos h206]
              -- feedback is looked into for our own stream
              by_cases hroom : rtcpContentSize record < 12
              · rw [if_pos hroom, hleast]
                exact .inl ⟨rfl, fun h => Nat.not_le.mpr hroom h.2⟩
              · obtain ⟨targets, htargets, hasks⟩ :=
                  targetsLocalStream_spec (s := s) h206 (by omega) tail
                have hsaw : Saw s record seen
                    { seen with requestKeyFrame := seen.requestKeyFrame || targets } :=
                  ⟨by simp [hother], by simp [h202], by rw [Bool.or_eq_true, hasks]⟩
                rw [if_neg hroom, htargets]
                exact .inr ⟨_, rfl, hreport, by omega, hsaw⟩
            · have hnot := not_asks (s := s) h206
              have hsaw : Saw s record seen seen :=
                ⟨by simp [hother], by simp [h202], by simp [hnot]⟩
              have hleast : leastSize (rtcpType record) (rtcpCount record) = 0 := by
                rw [leastSize, if_neg h200, if_neg h201, if_neg h202, if_neg h203, if_neg h206]
              exact taken hreport hsaw hleast (by
                rw [if_neg h200, if_neg h201, if_neg h202, if_neg h203, if_neg h206,
                  if_neg (Nat.not_lt_zero _)])

end RtcpSession

/-! ## The walk -/

/-- Records in a chain; the first one of a packet is a report. -/
structure IsChain (first : Bool) (records : List ByteSpan) : Prop where
  isRecord : ∀ r ∈ records, IsRecord r
  notPadded : ∀ r ∈ records.dropLast, ¬Padded r
  report : first = true → ∀ r, records.head? = some r → IsReport r

theorem IsRecord.ne_nil {record : ByteSpan} (h : IsRecord record) : record ≠ [] :=
  List.ne_nil_of_length_pos (by have := h.toIsFrame.four_le; omega)

theorem isChain_nil (first : Bool) : IsChain first [] := by
  refine ⟨?_, ?_, ?_⟩
  · intro r h
    nomatch h
  · intro r h
    nomatch h
  · intro _ r h
    nomatch h

/-- Only the last record of a chain is padded. -/
theorem IsChain.uncons {first : Bool} {record : ByteSpan} {records : List ByteSpan}
    (h : IsChain first (record :: records)) :
    IsRecord record ∧ (Padded record → records.flatten = []) ∧ (first = true → IsReport record) ∧
      IsChain false records := by
  refine ⟨h.isRecord record (.head _), ?_, fun hfirst => h.report hfirst record rfl, ?_⟩
  · intro hpadded
    cases records with
    | nil => rfl
    | cons next records => exact absurd hpadded (h.notPadded record (.head _))
  · refine ⟨fun r hr => h.isRecord r (.tail _ hr), ?_, fun hfalse => Bool.noConfusion hfalse⟩
    intro r hr
    cases records with
    | nil => nomatch hr
    | cons next records => exact h.notPadded r (.tail _ hr)

/-- A record may stand before a chain, unless it is padded. -/
theorem IsChain.cons {first : Bool} {record : ByteSpan} {records : List ByteSpan}
    (hchain : IsChain false records) (hrecord : IsRecord record)
    (hpadded : Padded record → records.flatten = []) (hreport : first = true → IsReport record) :
    IsChain first (record :: records) := by
  refine ⟨?_, ?_, ?_⟩
  · intro r hr
    rcases List.mem_cons.mp hr with rfl | hr
    · exact hrecord
    · exact hchain.isRecord r hr
  · intro r hr
    cases records with
    | nil => nomatch hr
    | cons next records =>
      rcases List.mem_cons.mp hr with rfl | hr
      · intro h
        have hnil := hpadded h
        rw [List.flatten_cons, List.append_eq_nil_iff] at hnil
        exact (hchain.isRecord next (.head _)).ne_nil hnil.1
      · exact hchain.notPadded r hr
  · intro hfirst r hr
    obtain rfl := Option.some.inj hr
    exact hreport hfirst

namespace RtcpSession

variable {s : RtcpSession}

/-- What has been seen behind a chain. -/
structure SawAll (s : RtcpSession) (records : List ByteSpan) (seen seen' : RtcpSeen) : Prop where
  report : seen'.report = true ↔ seen.report = true ∨ ∃ r ∈ records, IsReport r
  sdes : seen'.sdes = true ↔ seen.sdes = true ∨ ∃ r ∈ records, rtcpType r = 202
  request : seen'.requestKeyFrame = true ↔
    seen.requestKeyFrame = true ∨ ∃ r ∈ records, AsksKeyFrame s r

theorem SawAll.nil (seen : RtcpSeen) : SawAll s [] seen seen := by
  refine ⟨?_, ?_, ?_⟩ <;> simp

theorem SawAll.cons {record : ByteSpan} {records : List ByteSpan} {seen mid seen' : RtcpSeen}
    (h : Saw s record seen mid) (hall : SawAll s records mid seen') :
    SawAll s (record :: records) seen seen' := by
  refine ⟨?_, ?_, ?_⟩
  · simp only [hall.report, h.report, List.mem_cons, exists_eq_or_imp, or_assoc]
  · simp only [hall.sdes, h.sdes, List.mem_cons, exists_eq_or_imp, or_assoc]
  · simp only [hall.request, h.request, List.mem_cons, exists_eq_or_imp, or_assoc]

/-- One turn of the loop, over a record. -/
theorem walkRtcp_append {first : Bool} {record tail : ByteSpan} {seen seen' : RtcpSeen}
    (hframe : IsFrame record) (hpadded : Padded record → tail = [])
    (hseen : s.handleRecord first (record ++ tail) (rtcpHeaderOf record) seen = .ok seen') :
    s.walkRtcp first (record ++ tail) seen = s.walkRtcp false tail seen' := by
  have hne : record ++ tail ≠ [] := by
    have := hframe.four_le
    exact List.ne_nil_of_length_pos (by rw [List.length_append]; omega)
  have hsize : (rtcpHeaderOf record).size = record.length := hframe.size.symm
  rw [walkRtcp, dif_neg hne, rtcpHeader_append hframe hpadded]
  simp only [hseen, hsize]
  rw [List.drop_left]

/-- A chain is walked to its end. -/
theorem walkRtcp_flatten {first : Bool} {records : List ByteSpan} (h : IsChain first records)
    (seen : RtcpSeen) :
    ∃ seen', SawAll s records seen seen' ∧
      s.walkRtcp first records.flatten seen =
        if seen'.report = true ∧ seen'.sdes = true then .ok seen'.requestKeyFrame
        else .rejected := by
  induction records generalizing first seen with
  | nil =>
    refine ⟨seen, .nil seen, ?_⟩
    rw [List.flatten_nil, walkRtcp, dif_pos rfl]
  | cons record records ih =>
    obtain ⟨hrecord, hpadded, hreport, hrest⟩ := h.uncons
    rcases s.handleRecord_spec first record records.flatten seen with
      ⟨-, hnot⟩ | ⟨mid, hmid, -, -, hsaw⟩
    · exact absurd ⟨hreport, hrecord.room⟩ hnot
    · obtain ⟨seen', hall, hwalk⟩ := ih hrest mid
      refine ⟨seen', hall.cons hsaw, ?_⟩
      rw [List.flatten_cons, walkRtcp_append hrecord.toIsFrame hpadded hmid, hwalk]

/-- What is not rejected is a chain. -/
theorem walkRtcp_chain (first : Bool) (rest : ByteSpan) (seen : RtcpSeen) :
    s.walkRtcp first rest seen = .rejected ∨
      ∃ records, IsChain first records ∧ rest = records.flatten := by
  by_cases hrest : rest = []
  · exact .inr ⟨[], isChain_nil first, hrest⟩
  · rcases rtcpHeader_spec rest with hrejected | ⟨record, tail, heq, hframe, hpadded⟩
    · left
      rw [walkRtcp, dif_neg hrest, hrejected]
    · have hless : tail.length < rest.length := by
        have hlen := hframe.four_le
        rw [heq, List.length_append]
        omega
      have ih := fun mid => walkRtcp_chain false tail mid
      subst heq
      rcases s.handleRecord_spec first record tail seen with
        ⟨hrejected, -⟩ | ⟨mid, hmid, hreport, hroom, -⟩
      · left
        rw [walkRtcp, dif_neg hrest, rtcpHeader_append hframe hpadded]
        simp only [hrejected]
      · rw [walkRtcp_append hframe hpadded hmid]
        rcases ih mid with hrejected | ⟨records, hchain, rfl⟩
        · exact .inl hrejected
        · exact .inr ⟨record :: records, hchain.cons ⟨hframe, hroom⟩ hpadded hreport, rfl⟩
termination_by rest.length

/-- The packets that are accepted are the compound packets, and a key frame is requested for those
that ask for one. -/
theorem handleRtcpPacket_eq_ok_iff (packet : ByteSpan) (request : Bool) :
    s.handleRtcpPacket packet = .ok request ↔
      ∃ records, IsCompound records ∧ packet = records.flatten ∧
        (request = true ↔ ∃ r ∈ records, AsksKeyFrame s r) := by
  constructor
  · intro h
    rw [handleRtcpPacket] at h
    split at h
    · cases h
    · rename_i hlen
      -- A packet that is walked to its end is a chain of records.
      rcases s.walkRtcp_chain true packet {} with hrejected | ⟨records, hchain, rfl⟩
      · rw [hrejected] at h
        cases h
      · obtain ⟨seen', hall, hwalk⟩ := walkRtcp_flatten (s := s) hchain {}
        rw [hwalk] at h
        split at h
        · rename_i hseen
          injection h with h
          refine ⟨records, ⟨hchain.isRecord, hchain.notPadded, ?_, ?_⟩, rfl, ?_⟩
          · cases records with
            | nil => exact absurd (Nat.zero_lt_succ 7) hlen
            | cons record records => exact ⟨record, rfl, hchain.report rfl record rfl⟩
          · simpa using hall.sdes.mp hseen.2
          · simpa [h] using hall.request
        · cases h
  · -- A compound packet is such a chain, and it is long enough.
    rintro ⟨records, hcompound, rfl, hrequest⟩
    obtain ⟨first, hhead, hreport⟩ := hcompound.report
    have hchain : IsChain true records :=
      ⟨hcompound.isRecord, hcompound.notPadded, fun _ r hr => by
        rw [hhead] at hr
        exact Option.some.inj hr ▸ hreport⟩
    have hmem : first ∈ records := List.mem_of_head? hhead
    have hlen : ¬records.flatten.length < 8 := by
      have hroom := (hcompound.isRecord first hmem).room
      have hcontent := contentSize_le first
      have hpart : first.length ≤ records.flatten.length :=
        (List.sublist_flatten_of_mem hmem).length_le
      rcases hreport with htype | htype
      · rw [leastSize, if_pos htype] at hroom
        omega
      · rw [leastSize, if_neg (by rw [htype]; decide), if_pos htype] at hroom
        omega
    obtain ⟨seen', hall, hwalk⟩ := walkRtcp_flatten (s := s) hchain {}
    have hseen : seen'.report = true ∧ seen'.sdes = true :=
      ⟨hall.report.mpr (.inr ⟨first, hmem, hreport⟩), hall.sdes.mpr (.inr hcompound.sdes)⟩
    have hsame : seen'.requestKeyFrame = request := by
      rw [Bool.eq_iff_iff, hrequest, hall.request]
      simp
    rw [handleRtcpPacket, if_neg hlen, hwalk, if_pos hseen, hsame]

/-- Nothing is read outside of the packet. -/
theorem handleRtcpPacket_inside (packet : ByteSpan) : s.handleRtcpPacket packet ≠ .outside := by
  rw [handleRtcpPacket]
  split
  · exact fun h => nomatch h
  · rcases s.walkRtcp_chain true packet {} with hrejected | ⟨records, hchain, rfl⟩
    · rw [hrejected]
      exact fun h => nomatch h
    · obtain ⟨seen', -, hwalk⟩ := walkRtcp_flatten (s := s) hchain {}
      rw [hwalk]
      split <;> exact fun h => nomatch h

end RtcpSession

/-! ## The packets that are sent -/

/-- A record without padding, which may stand anywhere in a chain. -/
structure IsPlain (record : ByteSpan) : Prop extends IsRecord record where
  unpadded : ¬Padded record

/-- The records as they are written. -/
theorem isPlain_written {first type : UInt8} {words : UInt16} {body : ByteSpan}
    (hversion : first >>> 6 = 2) (hpadding : first &&& 0x20 = 0)
    (hlength : body.length = words.toNat * 4)
    (hroom : leastSize type (first &&& 0x1F) ≤ words.toNat * 4 + 4) :
    IsPlain ([first, type] ++ (writeBe16 words ++ body)) := by
  have hnot : ¬Padded ([first, type] ++ (writeBe16 words ++ body)) := fun h => h hpadding
  have hread : readBe16 ([first, type] ++ (writeBe16 words ++ body)) 2 = words :=
    readBe16_writeBe16 words body
  have hlen : ([first, type] ++ (writeBe16 words ++ body)).length = body.length + 4 := rfl
  refine ⟨⟨⟨hversion, ?_, fun h => absurd h hnot⟩, ?_⟩, hnot⟩
  · rw [hread, hlen, hlength]
    omega
  · rw [rtcpContentSize, rtcpPadding, if_neg hnot, hlen, hlength]
    exact hroom

/-- Plain records in a chain that begins with a report and describes the source. -/
theorem isCompound_of_plain {records : List ByteSpan} (hplain : ∀ r ∈ records, IsPlain r)
    (hreport : ∃ r, records.head? = some r ∧ IsReport r)
    (hsdes : ∃ r ∈ records, rtcpType r = 202) : IsCompound records := by
  refine ⟨?_, ?_, hreport, hsdes⟩
  · intro r hr
    exact (hplain r hr).toIsRecord
  · intro r hr
    exact (hplain r (List.dropLast_subset records hr)).unpadded

namespace RtcpSession

variable (s : RtcpSession) (c : Clock)

theorem length_cname : s.cname.length = 18 := by
  rw [cname, List.length_append, lowerHex8, List.length_map]
  rfl

theorem isPlain_rtcpReport : IsPlain (s.rtcpReport c) ∧ IsReport (s.rtcpReport c) := by
  rw [rtcpReport]
  split
  · simp only [List.append_assoc]
    exact ⟨isPlain_written rfl rfl rfl (by decide), .inl rfl⟩
  · simp only [List.append_assoc]
    exact ⟨isPlain_written rfl rfl rfl (by decide), .inr rfl⟩

theorem isPlain_rtcpSdes : IsPlain s.rtcpSdes ∧ rtcpType s.rtcpSdes = 202 := by
  rw [rtcpSdes]
  simp only [length_cname, List.append_assoc]
  exact ⟨isPlain_written rfl rfl rfl (by decide), rfl⟩

theorem isPlain_pli : IsPlain ([0x81, 206] ++ writeBe16 2 ++ writeBe32 s.txSsrc ++
    writeBe32 s.remoteSsrc) := by
  simp only [List.append_assoc]
  exact isPlain_written rfl rfl rfl (by decide)

theorem isPlain_bye : IsPlain ([0x81, 203] ++ writeBe16 1 ++ writeBe32 s.txSsrc) := by
  simp only [List.append_assoc]
  exact isPlain_written rfl rfl rfl (by decide)

/-- What is built are the report and the description, if there is room for them. -/
theorem buildRtcpReportSdes_eq {capacity : Nat} (h : 64 ≤ capacity) :
    s.buildRtcpReportSdes c capacity = s.rtcpReport c ++ s.rtcpSdes := by
  rw [buildRtcpReportSdes, if_neg (by omega), length_cname, if_neg (by decide)]

/-- A session that is sent to accepts the report with further records. -/
theorem accepts_report (peer : RtcpSession) {more : List ByteSpan} (hmore : ∀ r ∈ more, IsPlain r) :
    (peer.handleRtcpPacket (s.rtcpReport c ++ s.rtcpSdes ++ more.flatten)).isOk = true := by
  have hcompound : IsCompound (s.rtcpReport c :: s.rtcpSdes :: more) := by
    refine isCompound_of_plain ?_ ?_ ?_
    · intro r hr
      rcases List.mem_cons.mp hr with rfl | hr
      · exact (s.isPlain_rtcpReport c).1
      · rcases List.mem_cons.mp hr with rfl | hr
        · exact s.isPlain_rtcpSdes.1
        · exact hmore r hr
    · exact ⟨_, rfl, (s.isPlain_rtcpReport c).2⟩
    · exact ⟨_, .tail _ (.head _), s.isPlain_rtcpSdes.2⟩
  have hflatten : s.rtcpReport c ++ s.rtcpSdes ++ more.flatten =
      (s.rtcpReport c :: s.rtcpSdes :: more).flatten := by
    rw [List.flatten_cons, List.flatten_cons, List.append_assoc]
  generalize s.rtcpReport c ++ s.rtcpSdes ++ more.flatten = packet at hflatten
  have hin := peer.handleRtcpPacket_inside packet
  have hok := fun request => (peer.handleRtcpPacket_eq_ok_iff packet request).mpr
  by_cases hasks : ∃ r ∈ s.rtcpReport c :: s.rtcpSdes :: more, AsksKeyFrame peer r
  · rw [hok true ⟨_, hcompound, hflatten, iff_of_true rfl hasks⟩]
    rfl
  · rw [hok false ⟨_, hcompound, hflatten, iff_of_false Bool.false_ne_true hasks⟩]
    rfl

/-- Every packet that is sent has the report, the description and perhaps one record more. -/
theorem mem_rtcpPackets {packet : ByteSpan} (h : packet ∈ s.rtcpPackets c) :
    ∃ more : List ByteSpan, (∀ r ∈ more, IsPlain r) ∧
      packet = s.rtcpReport c ++ s.rtcpSdes ++ more.flatten := by
  rw [rtcpPackets, List.mem_append, List.mem_append, Option.mem_toList, Option.mem_toList,
    Option.mem_toList] at h
  rcases h with (h | h) | h
  · rw [sendRtcpReport, s.buildRtcpReportSdes_eq c (by decide)] at h
    split at h
    · cases h
    · obtain rfl := Option.some.inj h
      exact ⟨[], by simp, by simp⟩
  · rw [sendRtcpPli, s.buildRtcpReportSdes_eq c (by decide)] at h
    dsimp only at h
    split at h
    · cases h
    · split at h
      · cases h
      · dsimp only at h
        split at h
        · cases h
        · obtain rfl := Option.some.inj h
          refine ⟨[_], fun r hr => ?_, by rw [List.flatten_singleton]⟩
          obtain rfl := List.mem_singleton.mp hr
          exact s.isPlain_pli
  · rw [sendRtcpBye, s.buildRtcpReportSdes_eq c (by decide)] at h
    split at h
    · cases h
    · obtain rfl := Option.some.inj h
      refine ⟨[_], fun r hr => ?_, by rw [List.flatten_singleton]⟩
      obtain rfl := List.mem_singleton.mp hr
      exact s.isPlain_bye

end RtcpSession

/-- Any packet is handled within its bytes; what a session sends is accepted by every other one; and
a key frame is requested for the compound packets that have negotiated feedback for the local
source. -/
theorem RtcpSession.handleRtcpPacket_spec (s sender : RtcpSession) (c : RtcpSession.Clock)
    (packet : ByteSpan) :
    s.handleRtcpPacket packet ≠ .outside ∧
    (sender.rtcpPackets c).all (fun sent => (s.handleRtcpPacket sent).isOk) = true ∧
    (s.handleRtcpPacket packet = .ok true ↔
      ∃ records, IsCompound records ∧ packet = records.flatten ∧
        ∃ r ∈ records, AsksKeyFrame s r) := by
  refine ⟨s.handleRtcpPacket_inside packet, ?_, ?_⟩
  · rw [List.all_eq_true]
    intro sent hsent
    obtain ⟨more, hmore, rfl⟩ := sender.mem_rtcpPackets c hsent
    exact sender.accepts_report c s hmore
  · rw [s.handleRtcpPacket_eq_ok_iff packet true]
    simp only [true_iff]

end EsphomeVoip
