import EsphomeVoip.Video.JpegFrames
import EsphomeVoip.Video.JpegSender

/-! # JPEG frames that are put together again

A depacketizer that gets the fragments of a frame in order hands over a JPEG frame that is read as
the one that was sent, its size rounded up to whole blocks. -/

namespace EsphomeVoip

namespace RtpJpegFrameView

variable {frame : RtpJpegFrameView} {offset : Nat}

/-! ## Reading the header of a fragment -/

/-- What the depacketizer reads. -/
def fragment (frame : RtpJpegFrameView) (offset : Nat) : RtpJpegFragment where
  typeSpecific := 0
  fragmentOffset := UInt32.ofNat offset
  typeRaw := frame.wireType
  type := frame.type
  quality := 255
  widthBlocks := blocks frame.width
  heightBlocks := blocks frame.height
  restartInterval := frame.restartInterval
  cursor := 8 + frame.restartHeader.length

theorem toNat_blocks {size : UInt16} (h : size ≤ 2040) :
    (blocks size).toNat = (size.toNat + 7) / 8 := by
  have hle : size.toNat ≤ 2040 := UInt16.le_iff_toNat_le.mp h
  rw [blocks, UInt8.toNat_ofNat_of_lt' (by show (size.toNat + 7) / 8 < 256; omega)]

theorem blocks_ne_zero {size : UInt16} (h : size ≠ 0 ∧ size ≤ 2040) : blocks size ≠ 0 := by
  intro hzero
  have hblocks := toNat_blocks h.2
  rw [hzero] at hblocks
  have hpos : size.toNat ≠ 0 := fun hnat => h.1 (UInt16.toNat_inj.mp hnat)
  have hnone : (0 : UInt8).toNat = 0 := rfl
  omega

/-- The type, and whether there is a restart header, from the type on the wire. -/
theorem wireType_restart (h : frame.type ≤ 1) (hrestart : frame.restartInterval ≠ 0) :
    frame.wireType &&& 0x40 ≠ 0 ∧ frame.wireType &&& 0xBF = frame.type := by
  rw [wireType, if_pos hrestart]
  rcases JpegMarkers.type_cases h with htype | htype
  · rw [htype]
    decide
  · rw [htype]
    decide

theorem wireType_plain (h : frame.type ≤ 1) (hrestart : frame.restartInterval = 0) :
    frame.wireType &&& 0x40 = 0 ∧ frame.wireType = frame.type := by
  rw [wireType, if_neg (by simpa using hrestart)]
  rcases JpegMarkers.type_cases h with htype | htype
  · rw [htype]
    decide
  · rw [htype]
    decide

/-- What is behind the main header and the restart header. -/
theorem fragmentHeader_append (frame : RtpJpegFrameView) (offset : Nat) (data : ByteSpan) :
    frame.fragmentHeader offset ++ data =
      writeBe32 (UInt32.ofNat offset) ++
        (frame.wireType :: 255 :: blocks frame.width :: blocks frame.height ::
          (frame.restartHeader ++
            ((if offset = 0 then [0, 0] ++ writeBe16 128 ++ frame.quantizers else []) ++
              data))) := by
  simp only [fragmentHeader, List.append_assoc, List.cons_append, List.nil_append]

/-- The offset is read back. -/
theorem readOffset_eq (hoffset : offset < 2 ^ 24) (rest : ByteSpan) :
    ((byteAt (writeBe32 (UInt32.ofNat offset) ++ rest) 1).toUInt32 <<< 16) |||
      ((byteAt (writeBe32 (UInt32.ofNat offset) ++ rest) 2).toUInt32 <<< 8) |||
        (byteAt (writeBe32 (UInt32.ofNat offset) ++ rest) 3).toUInt32 = UInt32.ofNat offset := by
  have hread := readBe32_writeBe32 (UInt32.ofNat offset) rest
  have htop : byteAt (writeBe32 (UInt32.ofNat offset) ++ rest) 0 = 0 :=
    top_byte_eq hoffset
  rw [readBe32, htop] at hread
  have hzero : (0 : UInt8).toUInt32 <<< 24 = 0 := by decide
  rw [hzero, UInt32.zero_or] at hread
  exact hread

/-- The header of a fragment is read back. -/
theorem readRtpJpegFragment_eq (h : frame.Sendable) (hoffset : offset < 2 ^ 24)
    (data : ByteSpan) :
    readRtpJpegFragment (frame.fragmentHeader offset ++ data) = some (frame.fragment offset) := by
  have hw := blocks_ne_zero h.width
  have hh := blocks_ne_zero h.height
  have htype : ¬1 < frame.type := UInt8.not_lt.mpr h.type
  have htop := top_byte_eq hoffset
  rw [fragmentHeader_append]
  generalize (if offset = 0 then [0, 0] ++ writeBe16 128 ++ frame.quantizers else []) ++ data = rest
  generalize hmore : frame.restartHeader ++ rest = more
  have hread := readOffset_eq hoffset
    (frame.wireType :: 255 :: blocks frame.width :: blocks frame.height :: more)
  generalize hpayload : writeBe32 (UInt32.ofNat offset) ++
    (frame.wireType :: 255 :: blocks frame.width :: blocks frame.height :: more) =
    payload at hread ⊢
  -- the bytes of the main header
  have hspecific : byteAt payload 0 = 0 := hpayload ▸ htop
  have hraw : byteAt payload 4 = frame.wireType := hpayload ▸ rfl
  have hquality : byteAt payload 5 = 255 := hpayload ▸ rfl
  have hwidth : byteAt payload 6 = blocks frame.width := hpayload ▸ rfl
  have hheight : byteAt payload 7 = blocks frame.height := hpayload ▸ rfl
  have hbehind : readBe16 payload 8 = readBe16 more 0 := hpayload ▸ rfl
  have hlen : payload.length = 8 + more.length := by
    rw [← hpayload]
    simp only [writeBe32, List.length_append, List.length_cons, List.length_nil]
    omega
  rw [readRtpJpegFragment, if_neg (by omega)]
  simp only [hspecific, hraw, hquality, hwidth, hheight, hbehind, hread, hlen]
  by_cases hrestart : frame.restartInterval = 0
  · obtain ⟨hbit, htypeRaw⟩ := wireType_plain h.type hrestart
    rw [htypeRaw] at hbit
    rw [htypeRaw, if_neg (by simp [hbit]), if_neg (by simp [hbit, htype, hw, hh])]
    simp [fragment, hbit, htypeRaw, hrestart, length_restartHeader]
  · obtain ⟨hbit, htypeRaw⟩ := wireType_restart h.type hrestart
    have hinterval : readBe16 more 0 = frame.restartInterval := by
      rw [← hmore, restartHeader, if_pos hrestart, List.append_assoc]
      exact readBe16_writeBe16 frame.restartInterval _
    have hmoreLength : 4 ≤ more.length := by
      rw [← hmore, List.length_append, length_restartHeader, if_pos hrestart]
      omega
    rw [hinterval, if_neg (by simp only [hrestart, or_false]; omega),
      if_neg (by simp [hbit, htypeRaw, htype, hw, hh])]
    simp [fragment, hbit, htypeRaw, hrestart, length_restartHeader]

/-- The JPEG headers that are written for the frame. -/
def jpegHeader (frame : RtpJpegFrameView) : ByteSpan :=
  interchangeHeader frame.type (blocks frame.width) (blocks frame.height) frame.quantizers
    frame.restartInterval

/-- What the tables of the first fragment are taken for. -/
theorem frameQuantizers_eq (h : frame.Sendable) (d : RtpJpegDepacketizer) (data : ByteSpan) :
    d.frameQuantizers (frame.fragmentHeader 0 ++ data) (frame.fragment 0) =
      if validQuantizers frame.quantizers = false then (none, d)
      else (some (frame.quantizers, (frame.fragmentHeader 0).length), d) := by
  have hcursor : (frame.fragment 0).cursor = 8 + frame.restartHeader.length := rfl
  have hquality : (frame.fragment 0).quality = 255 := rfl
  -- Behind the main and the restart header stand four bytes and the tables.
  obtain ⟨main, hmain, hheader⟩ : ∃ main : ByteSpan,
      main.length = 8 + frame.restartHeader.length ∧
        frame.fragmentHeader 0 = main ++ (0 :: 0 :: 0 :: 128 :: frame.quantizers) := by
    refine ⟨writeBe32 (UInt32.ofNat 0) ++
      [frame.wireType, 255, blocks frame.width, blocks frame.height] ++ frame.restartHeader,
      by simp only [writeBe32, List.length_append, List.length_cons, List.length_nil], ?_⟩
    rw [fragmentHeader, if_pos rfl]
    rfl
  have hlength : (frame.fragmentHeader 0 ++ data).length =
      main.length + 132 + data.length := by
    rw [hheader]
    simp only [List.length_append, List.length_cons, h.quantizers]
  have hread : ∀ i, byteAt (frame.fragmentHeader 0 ++ data) (main.length + i) =
      byteAt (0 :: 0 :: 0 :: 128 :: (frame.quantizers ++ data)) i := by
    intro i
    rw [hheader, List.append_assoc, byteAt_append_right]
    rfl
  -- The four bytes say that 128 bytes follow,
  have hfirst : byteAt (frame.fragmentHeader 0 ++ data) main.length = 0 := hread 0
  have hsecond : byteAt (frame.fragmentHeader 0 ++ data) (main.length + 1) = 0 := hread 1
  have hsize : (readBe16 (frame.fragmentHeader 0 ++ data) (main.length + 2)).toNat = 128 := by
    have hbytes : readBe16 (frame.fragmentHeader 0 ++ data) (main.length + 2) =
        readBe16 [0, 128] 0 := by
      rw [readBe16, hread 2, Nat.add_assoc, hread 3]
      rfl
    rw [hbytes]
    decide
  -- and these are the tables.
  have hwire : ((frame.fragmentHeader 0 ++ data).drop (main.length + 4)).take 128 =
      frame.quantizers := by
    rw [hheader, List.append_assoc, ← List.drop_drop, List.drop_left]
    exact List.take_left' h.quantizers
  have hbehind : main.length + 4 + 128 = (frame.fragmentHeader 0).length := by
    rw [hheader]
    simp only [List.length_append, List.length_cons, h.quantizers]
  rw [RtpJpegDepacketizer.frameQuantizers, hquality, if_pos (by decide), hcursor, ← hmain,
    if_neg (by
      simp only [hfirst, hsecond, hlength, ne_eq, not_true_eq_false, or_false]
      omega)]
  simp only [hsize, hwire, hbehind]
  rw [if_neg (by decide), if_neg (by
    simp only [kQuantizationTableBytes, List.length_append]
    omega)]
  simp only [show ¬(128 : Nat) = 64 by decide, if_false, if_true]

/-- The frame with its size in whole blocks. -/
def inBlocks (frame : RtpJpegFrameView) : RtpJpegFrameView :=
  { frame with
    width := UInt16.ofNat ((frame.width.toNat + 7) / 8 * 8)
    height := UInt16.ofNat ((frame.height.toNat + 7) / 8 * 8) }

theorem toUInt16_blocks {size : UInt16} (h : size ≤ 2040) :
    (blocks size).toUInt16 * 8 = UInt16.ofNat ((size.toNat + 7) / 8 * 8) := by
  have hle : size.toNat ≤ 2040 := UInt16.le_iff_toNat_le.mp h
  apply UInt16.toNat_inj.mp
  rw [JpegMarkers.toNat_blocks, toNat_blocks h, UInt16.toNat_ofNat_of_lt' (by
    show (size.toNat + 7) / 8 * 8 < 65536
    omega)]

/-- The JPEG frame that is put together is read as the one that was sent. -/
theorem parse_jpegHeader (h : frame.Sendable) :
    parseJpegForRtp (frame.jpegHeader ++ (frame.scan ++ [0xFF, 0xD9])) = .ok frame.inBlocks := by
  rw [jpegHeader, parseJpegForRtp_interchange h.type (blocks_ne_zero h.width)
    (blocks_ne_zero h.height) h.quantizers frame.restartInterval h.scan, inBlocks,
    toUInt16_blocks h.width.2, toUInt16_blocks h.height.2]

end RtpJpegFrameView

/-! ## Writing the headers -/

/-- All of it is appended where there is room for it. -/
theorem BoundedWriter.appendAll_of_fits {chunks : List ByteSpan} {w : BoundedWriter}
    (h : w.size + chunks.flatten.length ≤ w.data.length) :
    ∃ w', BoundedWriter.appendAll chunks w = (true, w') := by
  induction chunks generalizing w with
  | nil => exact ⟨w, rfl⟩
  | cons bytes chunks ih =>
    rw [List.flatten_cons, List.length_append] at h
    have hlen : (memcpyAt w.data w.size bytes).length = w.data.length :=
      length_memcpyAt (by omega)
    rw [appendAll, append, if_neg (by omega)]
    apply ih
    simp only [hlen]
    omega

/-- The header is written where there is room for it. -/
theorem writeInterchangeHeader_of_fits {type widthBlocks heightBlocks : UInt8}
    {quantizers : ByteSpan} {output : ByteSpan} (htype : type ≤ 1) (hwidth : widthBlocks ≠ 0)
    (hheight : heightBlocks ≠ 0) (hquantizers : quantizers.length = 128) (restartInterval : UInt16)
    (hfits : (interchangeHeader type widthBlocks heightBlocks quantizers restartInterval).length ≤
      output.length) :
    ∃ output', writeInterchangeHeader type widthBlocks heightBlocks quantizers restartInterval
        output =
      (some (interchangeHeader type widthBlocks heightBlocks quantizers restartInterval).length,
        output') := by
  have hfits' : (0 : Nat) + (interchangeChunks type widthBlocks heightBlocks quantizers
      restartInterval).flatten.length ≤ output.length := by
    rw [Nat.zero_add]
    exact hfits
  obtain ⟨w, hw⟩ := BoundedWriter.appendAll_of_fits (w := { data := output }) hfits'
  obtain ⟨hsize, -⟩ := BoundedWriter.appendAll_true hw (Nat.zero_le _)
  refine ⟨w.data, ?_⟩
  rw [writeInterchangeHeader, if_neg (by simp [UInt8.not_lt.mpr htype, hwidth, hheight,
    hquantizers]), hw]
  simp only [hsize, Nat.zero_add, interchangeHeader]

namespace RtpJpegDepacketizer

open RtpJpegFrameView

variable {frame : RtpJpegFrameView} {timestamp : UInt32} {offset : Nat}
  {d : RtpJpegDepacketizer} {output : ByteSpan}

/-! ## A frame that is being put together -/

/-- The depacketizer has taken up the scan of a frame up to `offset`. -/
structure Assembling (frame : RtpJpegFrameView) (timestamp : UInt32) (offset : Nat)
    (d : RtpJpegDepacketizer) (output : ByteSpan) : Prop where
  active : d.active = true
  timestamp : d.timestamp = timestamp
  typeSpecific : d.typeSpecific = 0
  type : d.type = frame.wireType
  quality : d.quality = 255
  widthBlocks : d.widthBlocks = blocks frame.width
  heightBlocks : d.heightBlocks = blocks frame.height
  restartInterval : d.restartInterval = frame.restartInterval
  headerSize : d.headerSize = frame.jpegHeader.length
  scanSize : d.scanSize = offset
  written : output.take (frame.jpegHeader.length + offset) =
    frame.jpegHeader ++ frame.scan.take offset

/-- There is room for the frame. -/
def Roomy (frame : RtpJpegFrameView) (output : ByteSpan) : Prop :=
  frame.jpegHeader.length + frame.scan.length + 2 ≤ output.length

/-- A frame that has been put together. -/
structure Complete (frame : RtpJpegFrameView) (pushed : Pushed) : Prop where
  result : pushed.result = .complete
  output : pushed.output.take pushed.outputSize =
    frame.jpegHeader ++ (frame.scan ++ [0xFF, 0xD9])

/-- The next part of the scan is put behind what is there. -/
theorem Assembling.append (h : Assembling frame timestamp offset d output) {size : Nat}
    (hsize : 0 < size) (hle : offset + size ≤ frame.scan.length) (hoffset : offset < 2 ^ 32)
    (hroom : frame.jpegHeader.length + offset + size + 2 ≤ output.length) :
    let fragment := (frame.scan.drop offset).take size
    (offset + size = frame.scan.length →
      Complete frame (d.appendFragment (UInt32.ofNat offset) fragment true output)) ∧
    let pushed := d.appendFragment (UInt32.ofNat offset) fragment false output
    pushed.result = .incomplete ∧ pushed.output.length = output.length ∧
      Assembling frame timestamp (offset + size) pushed.depacketizer pushed.output := by
  intro fragment
  have hfragment : fragment.length = size := by
    rw [List.length_take, List.length_drop]
    omega
  have hnat : (UInt32.ofNat offset).toNat = offset := UInt32.toNat_ofNat_of_lt' hoffset
  have hne : fragment ≠ [] := List.ne_nil_of_length_pos (by omega)
  have hfits : ¬(d.active = false ∨ (UInt32.ofNat offset).toNat ≠ d.scanSize ∨ fragment = [] ∨
      output.length < d.headerSize + d.scanSize + fragment.length + 2) := by
    simp only [h.active, hnat, h.scanSize, h.headerSize, hfragment, hne]
    simp only [reduceCtorEq, ne_eq, not_true_eq_false, false_or, Nat.not_lt]
    omega
  have hlength : (memcpyAt output (d.headerSize + d.scanSize) fragment).length =
      output.length := by
    apply length_memcpyAt
    rw [h.headerSize, h.scanSize, hfragment]
    omega
  have htaken : (frame.scan.take offset).length = offset := by
    rw [List.length_take]
    omega
  have hthere : output.take (frame.jpegHeader.length + (frame.scan.take offset).length) =
      frame.jpegHeader ++ frame.scan.take offset := by
    rw [htaken]
    exact h.written
  -- what is there with the part behind it
  obtain ⟨hwritten, hcompleted⟩ := take_appended fragment hthere (by
    rw [htaken, hfragment]
    omega)
  have hplace : frame.jpegHeader.length + offset = d.headerSize + d.scanSize := by
    rw [h.headerSize, h.scanSize]
  rw [List.length_append, ← List.take_add, htaken, hfragment, hplace] at hwritten
  rw [← List.take_add, htaken, ← h.headerSize, ← h.scanSize] at hcompleted
  constructor
  · intro hend
    rw [appendFragment, if_neg hfits]
    refine ⟨rfl, ?_⟩
    rw [h.scanSize, hend, List.take_length] at hcompleted
    rw [← hcompleted, ← h.scanSize]
    rfl
  · rw [appendFragment, if_neg hfits]
    refine ⟨rfl, hlength, ?_⟩
    exact ⟨h.active, h.timestamp, h.typeSpecific, h.type, h.quality, h.widthBlocks,
      h.heightBlocks, h.restartInterval, h.headerSize,
      by show d.scanSize + fragment.length = _; rw [h.scanSize, hfragment], hwritten⟩

/-! ## The fragments -/

/-- The first fragment begins a frame, if its tables are ones that a frame may have and the headers
    fit. -/
theorem push_first (h : frame.Sendable) (hvalid : validQuantizers frame.quantizers = true)
    (hroom : frame.jpegHeader.length ≤ output.length) (d : RtpJpegDepacketizer) (data : ByteSpan)
    (marker : Bool) (timestamp : UInt32) :
    ∃ d' output', Assembling frame timestamp 0 d' output' ∧ output'.length = output.length ∧
      d.push (frame.fragmentHeader 0 ++ data) marker timestamp output =
        d'.appendFragment (UInt32.ofNat 0) data marker output' := by
  have hpos : (0 : Nat) < 2 ^ 24 := by decide
  obtain ⟨output', hwrite⟩ := writeInterchangeHeader_of_fits h.type (blocks_ne_zero h.width)
    (blocks_ne_zero h.height) h.quantizers frame.restartInterval hroom
  obtain ⟨hlength, -, htake⟩ := writeInterchangeHeader_some hwrite
  have hdrop : (frame.fragmentHeader 0 ++ data).drop (frame.fragmentHeader 0).length = data :=
    List.drop_left
  rw [push, readRtpJpegFragment_eq h hpos]
  simp only
  rw [if_pos (show (frame.fragment 0).fragmentOffset = 0 from rfl), frameQuantizers_eq h,
    if_neg (by rw [hvalid]; decide)]
  simp only [hdrop]
  have hstart : d.reset.startFrame (frame.fragment 0) frame.quantizers timestamp output =
      (true, output', { d.reset with
        active := true, timestamp, typeSpecific := 0, type := frame.wireType, quality := 255
        widthBlocks := blocks frame.width, heightBlocks := blocks frame.height
        restartInterval := frame.restartInterval, headerSize := frame.jpegHeader.length
        scanSize := 0 }) := by
    rw [startFrame, if_neg]
    · rw [show writeInterchangeHeader (frame.fragment 0).type (frame.fragment 0).widthBlocks
        (frame.fragment 0).heightBlocks frame.quantizers (frame.fragment 0).restartInterval output =
          _ from hwrite]
      rfl
    · have hargs := And.intro (blocks_ne_zero h.width) (blocks_ne_zero h.height)
      simp only [not_or, UInt8.not_lt, ne_eq, Decidable.not_not]
      exact ⟨rfl, h.type, hargs.1, hargs.2, h.quantizers⟩
  rw [hstart]
  refine ⟨_, output', ⟨rfl, rfl, rfl, rfl, rfl, rfl, rfl, rfl, rfl, rfl, ?_⟩, ?_, rfl⟩
  · rw [Nat.add_zero, List.take_zero, List.append_nil]
    exact htake
  · exact hlength

/-- It is dropped, if they are not. -/
theorem push_first_invalid (h : frame.Sendable) (hvalid : validQuantizers frame.quantizers = false)
    (d : RtpJpegDepacketizer) (data : ByteSpan) (marker : Bool) (timestamp : UInt32)
    (output : ByteSpan) :
    d.push (frame.fragmentHeader 0 ++ data) marker timestamp output = d.drop output := by
  have hpos : (0 : Nat) < 2 ^ 24 := by decide
  rw [push, readRtpJpegFragment_eq h hpos]
  simp only
  rw [if_pos (show (frame.fragment 0).fragmentOffset = 0 from rfl), frameQuantizers_eq h,
    if_pos hvalid]

theorem drop_later (hoffset : offset ≠ 0) (data : ByteSpan) :
    (frame.fragmentHeader offset ++ data).drop (frame.fragment offset).cursor = data := by
  rw [fragmentHeader, if_neg hoffset, List.append_nil]
  apply List.drop_left'
  rw [List.length_append]
  rfl

/-- A later fragment goes on with the frame. -/
theorem Assembling.push_later (h : Assembling frame timestamp offset d output)
    (hframe : frame.Sendable) (hpos : offset ≠ 0) (hoffset : offset < 2 ^ 24) (data : ByteSpan)
    (marker : Bool) :
    d.push (frame.fragmentHeader offset ++ data) marker timestamp output =
      d.appendFragment (UInt32.ofNat offset) data marker output := by
  have hnat : (UInt32.ofNat offset).toNat = offset :=
    UInt32.toNat_ofNat_of_lt' (by show offset < 2 ^ 32; omega)
  rw [push, readRtpJpegFragment_eq hframe hoffset]
  simp only
  rw [if_neg (by rw [fragment]; simpa [ofNat_eq_zero hoffset] using hpos), if_neg, drop_later hpos,
    fragment]
  rw [differs]
  simp only [h.active, h.timestamp, h.typeSpecific, h.type, h.quality, h.widthBlocks,
    h.heightBlocks, h.restartInterval, h.scanSize, fragment, hnat]
  simp

/-- It is dropped, if there is no frame to go on with. -/
theorem push_later_inactive (hframe : frame.Sendable) (hpos : offset ≠ 0)
    (hoffset : offset < 2 ^ 24) (hd : d.active = false) (data : ByteSpan) (marker : Bool)
    (timestamp : UInt32) :
    d.push (frame.fragmentHeader offset ++ data) marker timestamp output = d.drop output := by
  rw [push, readRtpJpegFragment_eq hframe hoffset]
  simp only
  rw [if_neg (by rw [fragment]; simpa [ofNat_eq_zero hoffset] using hpos), if_pos (.inl hd)]

end RtpJpegDepacketizer

/-! ## The packets of a frame -/

/-- The payloads of some packets, pushed one after the other. -/
def pushPackets : List ByteSpan → RtpJpegDepacketizer → ByteSpan →
    List RtpJpegDepacketizer.Pushed
  | [], _, _ => []
  | packet :: packets, d, output =>
    let pushed := d.push ((rtpPayload packet).getD []) (rtpMarker packet) (rtpTimestamp packet)
      output
    pushed :: pushPackets packets pushed.depacketizer pushed.output

section Run

open VideoRtpSession RtpJpegDepacketizer RtpJpegFrameView

variable {frame : RtpJpegFrameView} {s : VideoRtpSession}

/-- One packet that has been sent. -/
theorem pushPackets_rtpPackets (hpt : s.payloadType < 128) (timestamp : UInt32)
    (sequence : UInt16) (p : ByteSpan) (ps : List ByteSpan) (d : RtpJpegDepacketizer)
    (output : ByteSpan) :
    pushPackets (rtpPackets s timestamp true sequence (p :: ps)) d output =
      let pushed := d.push p ps.isEmpty (timestamp + s.txTimestampOffset) output
      pushed :: pushPackets (rtpPackets s timestamp true (sequence + 1) ps) pushed.depacketizer
        pushed.output := by
  rw [rtpPackets, pushPackets, rtpPayload_rtpPacket, rtpMarker_rtpPacket _ _ _ _ _ _ hpt,
    rtpTimestamp_rtpPacket]
  rfl

/-- **The rest of a frame.**  Behind a fragment that is taken up the others are, to the last. -/
theorem Assembling_rest (hpt : s.payloadType < 128) (hframe : frame.Sendable)
    (hscan : frame.scan.length ≤ 2 ^ 24) (hmax : (frame.fragmentHeader 0).length < s.maxPayload)
    (timestamp : UInt32) {fuel offset size : Nat} (sequence : UInt16) {d : RtpJpegDepacketizer}
    {output : ByteSpan}
    (h : Assembling frame (timestamp + s.txTimestampOffset) offset d output)
    (hroom : Roomy frame output) (hsize : 0 < size) (hle : offset + size ≤ frame.scan.length)
    (hfuel : frame.scan.length - (offset + size) ≤ fuel) :
    let pushed := d.appendFragment (UInt32.ofNat offset) ((frame.scan.drop offset).take size)
      (offset + size == frame.scan.length) output
    ∃ last, (pushed :: pushPackets (rtpPackets s timestamp true sequence
        (jpegPayloads s.maxPayload frame fuel (offset + size))) pushed.depacketizer
          pushed.output).getLast? = some last ∧ Complete frame last := by
  rw [Roomy] at hroom
  obtain ⟨hlast, hresult, hkept, hnext⟩ := h.append hsize hle (by omega) (by omega)
  induction fuel generalizing offset size sequence d output with
  | zero =>
    have hend : offset + size = frame.scan.length := by omega
    rw [beq_iff_eq.mpr hend]
    exact ⟨_, rfl, hlast hend⟩
  | succ fuel ih =>
    by_cases hend : offset + size = frame.scan.length
    · rw [beq_iff_eq.mpr hend, jpegPayloads, if_neg (by omega)]
      exact ⟨_, rfl, hlast hend⟩
    · have hheader := length_fragmentHeader_le hframe (offset + size)
      rw [beq_eq_false_iff_ne.mpr hend, jpegPayloads, if_pos (by omega)]
      simp only
      generalize hsize' : min (s.maxPayload - (frame.fragmentHeader (offset + size)).length)
        (frame.scan.length - (offset + size)) = size'
      rw [pushPackets_rtpPackets hpt, isEmpty_jpegPayloads s.maxPayload (by omega) (by omega)]
      simp only
      rw [hnext.push_later hframe (by omega) (by omega), List.getLast?_cons_cons]
      obtain ⟨hlast', hresult', hkept', hnext'⟩ :=
        hnext.append (show 0 < size' by omega) (by omega) (by omega) (by omega)
      exact ih (sequence + 1) hnext (by omega) (by omega) (by omega) (by omega) hlast' hresult'
        hkept' hnext'

/-- Without a frame to go on with, the later fragments are dropped. -/
theorem dropped_rest (hpt : s.payloadType < 128) (hframe : frame.Sendable)
    (hscan : frame.scan.length ≤ 2 ^ 24) (timestamp : UInt32) {fuel offset : Nat}
    (hoffset : offset ≠ 0) (sequence : UInt16)
    {d : RtpJpegDepacketizer} (hd : d.active = false) (output : ByteSpan) :
    ∀ pushed ∈ pushPackets (rtpPackets s timestamp true sequence
      (jpegPayloads s.maxPayload frame fuel offset)) d output, pushed.result = .dropped := by
  induction fuel generalizing offset sequence d output with
  | zero =>
    rw [jpegPayloads]
    exact fun pushed hpushed => absurd hpushed List.not_mem_nil
  | succ fuel ih =>
    rw [jpegPayloads]
    by_cases hmore : offset < frame.scan.length
    · rw [if_pos hmore]
      simp only
      rw [pushPackets_rtpPackets hpt]
      simp only
      rw [push_later_inactive hframe hoffset (by omega) hd]
      intro pushed hpushed
      rcases List.mem_cons.mp hpushed with rfl | hrest
      · rfl
      · exact ih (by omega) (sequence + 1) rfl output pushed hrest
    · rw [if_neg hmore]
      exact fun pushed hpushed => absurd hpushed List.not_mem_nil

/-- The last packet completes a JPEG frame that is read as the one that was sent, with its size in
    whole blocks. -/
def Survives (frame : RtpJpegFrameView) (pushed : List RtpJpegDepacketizer.Pushed) : Prop :=
  ∃ last, pushed.getLast? = some last ∧ last.result = .complete ∧
    parseJpegForRtp (last.output.take last.outputSize) = .ok frame.inBlocks

/-- The packets of a frame whose tables are valid. -/
theorem survives_of_valid (hpt : s.payloadType < 128) (hframe : frame.Sendable)
    (hscan : frame.scan.length ≤ 2 ^ 24) (hmax : (frame.fragmentHeader 0).length < s.maxPayload)
    (hvalid : validQuantizers frame.quantizers = true) (timestamp : UInt32) (sequence : UInt16)
    (d : RtpJpegDepacketizer) {output : ByteSpan} (hroom : Roomy frame output) :
    Survives frame (pushPackets (rtpPackets s timestamp true sequence
      (jpegPayloads s.maxPayload frame frame.scan.length 0)) d output) := by
  have hpos : 0 < frame.scan.length := List.length_pos_iff.mpr hframe.scan
  obtain ⟨fuel, hfuel⟩ : ∃ k, frame.scan.length = k + 1 := ⟨frame.scan.length - 1, by omega⟩
  conv in jpegPayloads _ _ _ _ => rw [hfuel, jpegPayloads, if_pos hpos]
  simp only
  generalize hsize : min (s.maxPayload - (frame.fragmentHeader 0).length)
    (frame.scan.length - 0) = size
  rw [pushPackets_rtpPackets hpt, isEmpty_jpegPayloads s.maxPayload (by omega) (by omega)]
  simp only
  have hheaders : frame.jpegHeader.length ≤ output.length := by
    rw [Roomy] at hroom
    omega
  obtain ⟨d', output', hassembling, hkept, hpush⟩ := push_first hframe hvalid hheaders d
    ((frame.scan.drop 0).take size) (0 + size == frame.scan.length)
    (timestamp + s.txTimestampOffset)
  rw [hpush]
  obtain ⟨last, hlast, hcomplete⟩ := Assembling_rest hpt hframe hscan hmax timestamp
    (sequence + 1) hassembling (by rw [Roomy, hkept]; exact hroom) (show 0 < size by omega)
    (by omega)
    (show frame.scan.length - (0 + size) ≤ fuel by omega)
  refine ⟨last, hlast, hcomplete.result, ?_⟩
  rw [hcomplete.output, parse_jpegHeader hframe]

/-- The packets of a frame whose tables are not. -/
theorem not_survives_of_invalid (hpt : s.payloadType < 128) (hframe : frame.Sendable)
    (hscan : frame.scan.length ≤ 2 ^ 24) (hmax : (frame.fragmentHeader 0).length < s.maxPayload)
    (hvalid : validQuantizers frame.quantizers = false) (timestamp : UInt32) (sequence : UInt16)
    (d : RtpJpegDepacketizer) (output : ByteSpan) :
    ¬Survives frame (pushPackets (rtpPackets s timestamp true sequence
      (jpegPayloads s.maxPayload frame frame.scan.length 0)) d output) := by
  have hpos : 0 < frame.scan.length := List.length_pos_iff.mpr hframe.scan
  obtain ⟨fuel, hfuel⟩ : ∃ k, frame.scan.length = k + 1 := ⟨frame.scan.length - 1, by omega⟩
  rintro ⟨last, hlast, hresult, -⟩
  have hdropped : last.result = .dropped := by
    have hmem := List.mem_of_getLast? hlast
    rw [hfuel, jpegPayloads, if_pos hpos] at hmem
    simp only at hmem
    rw [pushPackets_rtpPackets hpt] at hmem
    simp only at hmem
    rw [push_first_invalid hframe hvalid] at hmem
    rcases List.mem_cons.mp hmem with rfl | hrest
    · rfl
    · exact dropped_rest hpt hframe hscan timestamp (by omega) _ rfl _ _ hrest
  rw [hdropped] at hresult
  cases hresult

end Run

open VideoRtpSession in
/-- **RTP/JPEG round trip.**  What is sent of a frame that the parser accepts is put together to
    the same frame, exactly if no entry of its tables is zero and its first packet fits the packet
    buffer. -/
theorem jpegFrame_survives_iff {sendto : ByteSpan → Bool} {s : VideoRtpSession}
    (hsend : s.MaySend sendto) (hpt : s.payloadType < 128) {accessUnit : EncodedVideoAccessUnit}
    {frame : RtpJpegFrameView} (hparse : parseJpegForRtp accessUnit.data = .ok frame)
    (hscan : frame.scan.length ≤ 2 ^ 24)
    (hmax : (frame.fragmentHeader 0).length < s.maxPayload) (d : RtpJpegDepacketizer)
    {slot : ByteSpan}
    (hslot : frame.jpegHeader.length + frame.scan.length + 2 ≤ slot.length) :
    Survives frame (pushPackets (s.sendJpegAccessUnit sendto accessUnit).packets d slot) ↔
      (∀ q ∈ frame.quantizers, q ≠ 0) ∧
        min s.maxPayload ((frame.fragmentHeader 0).length + frame.scan.length) + 12 ≤
          kMaxRtpPacketBytes := by
  have hframe := sendable_of_parse hparse
  have hvalid : validQuantizers frame.quantizers = true ↔ ∀ q ∈ frame.quantizers, q ≠ 0 := by
    rw [validQuantizers, hframe.quantizers]
    simp
  have hsent : (s.sendJpegAccessUnit sendto accessUnit).packets = (s.sendJpegFragments sendto
      frame accessUnit.timestamp90khz frame.scan.length 0).packets := by
    rw [sendJpegAccessUnit, hparse]
  rw [hsent, ← hvalid]
  -- The first packet fits the buffer, and then all packets are sent.
  by_cases hfits : FirstFits s.maxPayload frame
  · rw [sendJpegFragments_eq hframe hscan hmax hsend hfits accessUnit.timestamp90khz (Nat.zero_le _)
      (Nat.sub_le _ 0)]
    constructor
    · intro hsurvives
      refine ⟨?_, hfits⟩
      cases hinvalid : validQuantizers frame.quantizers with
      | true => rfl
      | false =>
        exact absurd hsurvives
          (not_survives_of_invalid hpt hframe hscan hmax hinvalid _ _ d slot)
    · rintro ⟨hall, -⟩
      exact survives_of_valid hpt hframe hscan hmax hall _ _ d hslot
  · rw [sendJpegFragments_of_not_fits hframe hscan hmax hfits]
    constructor
    · -- nothing is sent, so that nothing can be completed
      rintro ⟨last, hlast, -⟩
      cases hlast
    · rintro ⟨-, hfirst⟩
      exact absurd hfirst hfits

/-- A frame in three packets, which come to a depacketizer in the middle of another frame. -/
theorem small_jpegFrame_survives :
    let quantizers : ByteSpan := List.replicate 128 1
    let scan : ByteSpan := List.replicate 400 0x2A
    let accessUnit : EncodedVideoAccessUnit :=
      ⟨interchangeHeader 0 2 1 quantizers 0 ++ (scan ++ [0xFF, 0xD9]), 90000, true⟩
    let s : VideoRtpSession := { payloadType := 26, remoteIpV4 := 0, maxPayload := 200 }
    let packets := (s.sendJpegAccessUnit (fun _ => true) accessUnit).packets
    let d : RtpJpegDepacketizer :=
      { active := true, timestamp := 87000, quality := 255, widthBlocks := 2, heightBlocks := 1
        headerSize := 600, scanSize := 60 }
    packets.length = 3 ∧
      Survives { scan, quantizers, width := 16, height := 8 }
        (pushPackets packets d (List.replicate 1200 0)) := by
  intro quantizers scan accessUnit s packets d
  have hparse : parseJpegForRtp accessUnit.data =
    .ok { scan, quantizers, width := 16, height := 8 } :=
    parseJpegForRtp_interchange (by decide) (by decide) (by decide) List.length_replicate 0
      (by decide +kernel)
  have hsend : s.MaySend (fun _ => true) := ⟨rfl, rfl, rfl, fun _ => rfl⟩
  have hall : ∀ q ∈ quantizers, q ≠ 0 := by
    intro q hq
    rw [List.eq_of_mem_replicate hq]
    decide
  exact ⟨by decide +kernel, (jpegFrame_survives_iff hsend (by decide) hparse (by decide +kernel)
    (by decide +kernel) d (by decide +kernel)).mpr ⟨hall, by decide +kernel⟩⟩

end EsphomeVoip
