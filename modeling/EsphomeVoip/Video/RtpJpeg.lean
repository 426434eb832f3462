import EsphomeVoip.Video.RtpPacket

/-! # RTP/JPEG frames (`rtp_jpeg.cpp`)

The parser that decides which JPEG frames can be sent, the header of a fragment, and the writer of
the JPEG headers that are not sent.  A pointer into the data is the rest of the data. -/

namespace EsphomeVoip

/-! ## Memory -/

/-- `memcpy(data + offset, bytes, size)`. -/
def memcpyAt (data : ByteSpan) (offset : Nat) (bytes : ByteSpan) : ByteSpan :=
  data.take offset ++ bytes ++ data.drop (offset + bytes.length)

theorem length_le_memcpyAt (data : ByteSpan) (offset : Nat) (bytes : ByteSpan) :
    data.length ≤ (memcpyAt data offset bytes).length := by
  rw [memcpyAt, List.length_append, List.length_append, List.length_take, List.length_drop]
  omega

theorem length_memcpyAt {data bytes : ByteSpan} {offset : Nat}
    (h : offset + bytes.length ≤ data.length) :
    (memcpyAt data offset bytes).length = data.length := by
  rw [memcpyAt, List.length_append, List.length_append, List.length_take, List.length_drop]
  omega

/-- What is before the copy is kept. -/
theorem take_memcpyAt {data : ByteSpan} {n offset : Nat} (hn : n ≤ offset)
    (h : offset ≤ data.length) (bytes : ByteSpan) :
    (memcpyAt data offset bytes).take n = data.take n := by
  rw [memcpyAt, List.append_assoc, List.take_append_of_le_length, List.take_take,
    Nat.min_eq_left hn]
  rw [List.length_take, Nat.min_eq_left h]
  exact hn

/-- From its place on there is the copy. -/
theorem drop_memcpyAt {data : ByteSpan} {offset : Nat} (h : offset ≤ data.length)
    (bytes : ByteSpan) :
    (memcpyAt data offset bytes).drop offset = bytes ++ data.drop (offset + bytes.length) := by
  rw [memcpyAt, List.append_assoc]
  exact List.drop_left' (by rw [List.length_take, Nat.min_eq_left h])

/-- What is behind the copy is kept. -/
theorem drop_memcpyAt_behind {data bytes : ByteSpan} {n offset : Nat} (h : offset ≤ data.length)
    (hn : offset + bytes.length ≤ n) : (memcpyAt data offset bytes).drop n = data.drop n := by
  obtain ⟨k, rfl⟩ : ∃ k, n = offset + (bytes.length + k) := ⟨n - (offset + bytes.length), by omega⟩
  rw [← List.drop_drop, drop_memcpyAt h, ← List.drop_drop, List.drop_left, List.drop_drop,
    Nat.add_assoc]

/-- Up to its end there is the copy behind what was before it. -/
theorem take_memcpyAt_through {data : ByteSpan} {offset : Nat} (h : offset ≤ data.length)
    (bytes : ByteSpan) :
    (memcpyAt data offset bytes).take (offset + bytes.length) = data.take offset ++ bytes := by
  rw [memcpyAt]
  exact List.take_left' (by rw [List.length_append, List.length_take, Nat.min_eq_left h])

/-- `BoundedWriter`. -/
structure BoundedWriter where
  data : ByteSpan
  size : Nat := 0
  deriving DecidableEq, Repr

/-- `BoundedWriter::append`. -/
def BoundedWriter.append (bytes : ByteSpan) (w : BoundedWriter) : Bool × BoundedWriter :=
  if w.data.length < w.size + bytes.length then (false, w)
  else (true, { data := memcpyAt w.data w.size bytes, size := w.size + bytes.length })

/-- Calls of `append`, up to the first one that fails. -/
def BoundedWriter.appendAll : List ByteSpan → BoundedWriter → Bool × BoundedWriter
  | [], w => (true, w)
  | bytes :: rest, w =>
    match w.append bytes with
    | (false, w) => (false, w)
    | (true, w) => appendAll rest w

/-- What has been written, if all of it fits. -/
theorem BoundedWriter.appendAll_true {chunks : List ByteSpan} {w w' : BoundedWriter}
    (h : BoundedWriter.appendAll chunks w = (true, w')) (hw : w.size ≤ w.data.length) :
    w'.size = w.size + chunks.flatten.length ∧ w'.size ≤ w'.data.length ∧
      w'.data.length = w.data.length ∧
      w'.data.take w'.size = w.data.take w.size ++ chunks.flatten := by
  induction chunks generalizing w with
  | nil =>
    cases h
    exact ⟨rfl, hw, rfl, (List.append_nil _).symm⟩
  | cons bytes chunks ih =>
    rw [appendAll, append] at h
    by_cases hfits : w.data.length < w.size + bytes.length
    · rw [if_pos hfits] at h
      cases h
    · rw [if_neg hfits] at h
      have hlen : (memcpyAt w.data w.size bytes).length = w.data.length :=
        length_memcpyAt (by omega)
      have hinside : w.size + bytes.length ≤ (memcpyAt w.data w.size bytes).length :=
        hlen ▸ Nat.not_lt.mp hfits
      obtain ⟨hsize, hle, hlength, htake⟩ := ih h hinside
      refine ⟨?_, hle, hlength.trans hlen, ?_⟩
      · rw [hsize, List.flatten_cons, List.length_append, Nat.add_assoc]
      · rw [htake, take_memcpyAt_through hw, List.flatten_cons, List.append_assoc]

/-! ## The standard tables -/

/-- `JPEG_BASE_QUANTIZERS`. -/
def jpegBaseQuantizers : ByteSpan :=
  [0x10, 0x0b, 0x0c, 0x0e, 0x0c, 0x0a, 0x10, 0x0e, 0x0d, 0x0e, 0x12, 0x11, 0x10, 0x13, 0x18, 0x28,
    0x1a, 0x18, 0x16, 0x16, 0x18, 0x31, 0x23, 0x25, 0x1d, 0x28, 0x3a, 0x33, 0x3d, 0x3c, 0x39, 0x33,
    0x38, 0x37, 0x40, 0x48, 0x5c, 0x4e, 0x40, 0x44, 0x57, 0x45, 0x37, 0x38, 0x50, 0x6d, 0x51, 0x57,
    0x5f, 0x62, 0x67, 0x68, 0x67, 0x3e, 0x4d, 0x71, 0x79, 0x70, 0x64, 0x78, 0x5c, 0x65, 0x67, 0x63,
    0x11, 0x12, 0x12, 0x18, 0x15, 0x18, 0x2f, 0x1a, 0x1a, 0x2f, 0x63, 0x42, 0x38, 0x42, 0x63, 0x63,
    0x63, 0x63, 0x63, 0x63, 0x63, 0x63, 0x63, 0x63, 0x63, 0x63, 0x63, 0x63, 0x63, 0x63, 0x63, 0x63,
    0x63, 0x63, 0x63, 0x63, 0x63, 0x63, 0x63, 0x63, 0x63, 0x63, 0x63, 0x63, 0x63, 0x63, 0x63, 0x63,
    0x63, 0x63, 0x63, 0x63, 0x63, 0x63, 0x63, 0x63, 0x63, 0x63, 0x63, 0x63, 0x63, 0x63, 0x63, 0x63]

/-- `JPEG_STANDARD_DHT`. -/
def jpegStandardDht : ByteSpan :=
  [0xff, 0xc4, 0x01, 0xa2, 0x00, 0x00, 0x01, 0x05, 0x01, 0x01, 0x01, 0x01, 0x01, 0x01, 0x00, 0x00,
    0x00, 0x00, 0x00, 0x00, 0x00, 0x00, 0x01, 0x02, 0x03, 0x04, 0x05, 0x06, 0x07, 0x08, 0x09, 0x0a,
    0x0b, 0x01, 0x00, 0x03, 0x01, 0x01, 0x01, 0x01, 0x01, 0x01, 0x01, 0x01, 0x01, 0x00, 0x00, 0x00,
    0x00, 0x00, 0x00, 0x01, 0x02, 0x03, 0x04, 0x05, 0x06, 0x07, 0x08, 0x09, 0x0a, 0x0b, 0x10, 0x00,
    0x02, 0x01, 0x03, 0x03, 0x02, 0x04, 0x03, 0x05, 0x05, 0x04, 0x04, 0x00, 0x00, 0x01, 0x7d, 0x01,
    0x02, 0x03, 0x00, 0x04, 0x11, 0x05, 0x12, 0x21, 0x31, 0x41, 0x06, 0x13, 0x51, 0x61, 0x07, 0x22,
    0x71, 0x14, 0x32, 0x81, 0x91, 0xa1, 0x08, 0x23, 0x42, 0xb1, 0xc1, 0x15, 0x52, 0xd1, 0xf0, 0x24,
    0x33, 0x62, 0x72, 0x82, 0x09, 0x0a, 0x16, 0x17, 0x18, 0x19, 0x1a, 0x25, 0x26, 0x27, 0x28, 0x29,
    0x2a, 0x34, 0x35, 0x36, 0x37, 0x38, 0x39, 0x3a, 0x43, 0x44, 0x45, 0x46, 0x47, 0x48, 0x49, 0x4a,
    0x53, 0x54, 0x55, 0x56, 0x57, 0x58, 0x59, 0x5a, 0x63, 0x64, 0x65, 0x66, 0x67, 0x68, 0x69, 0x6a,
    0x73, 0x74, 0x75, 0x76, 0x77, 0x78, 0x79, 0x7a, 0x83, 0x84, 0x85, 0x86, 0x87, 0x88, 0x89, 0x8a,
    0x92, 0x93, 0x94, 0x95, 0x96, 0x97, 0x98, 0x99, 0x9a, 0xa2, 0xa3, 0xa4, 0xa5, 0xa6, 0xa7, 0xa8,
    0xa9, 0xaa, 0xb2, 0xb3, 0xb4, 0xb5, 0xb6, 0xb7, 0xb8, 0xb9, 0xba, 0xc2, 0xc3, 0xc4, 0xc5, 0xc6,
    0xc7, 0xc8, 0xc9, 0xca, 0xd2, 0xd3, 0xd4, 0xd5, 0xd6, 0xd7, 0xd8, 0xd9, 0xda, 0xe1, 0xe2, 0xe3,
    0xe4, 0xe5, 0xe6, 0xe7, 0xe8, 0xe9, 0xea, 0xf1, 0xf2, 0xf3, 0xf4, 0xf5, 0xf6, 0xf7, 0xf8, 0xf9,
    0xfa, 0x11, 0x00, 0x02, 0x01, 0x02, 0x04, 0x04, 0x03, 0x04, 0x07, 0x05, 0x04, 0x04, 0x00, 0x01,
    0x02, 0x77, 0x00, 0x01, 0x02, 0x03, 0x11, 0x04, 0x05, 0x21, 0x31, 0x06, 0x12, 0x41, 0x51, 0x07,
    0x61, 0x71, 0x13, 0x22, 0x32, 0x81, 0x08, 0x14, 0x42, 0x91, 0xa1, 0xb1, 0xc1, 0x09, 0x23, 0x33,
    0x52, 0xf0, 0x15, 0x62, 0x72, 0xd1, 0x0a, 0x16, 0x24, 0x34, 0xe1, 0x25, 0xf1, 0x17, 0x18, 0x19,
    0x1a, 0x26, 0x27, 0x28, 0x29, 0x2a, 0x35, 0x36, 0x37, 0x38, 0x39, 0x3a, 0x43, 0x44, 0x45, 0x46,
    0x47, 0x48, 0x49, 0x4a, 0x53, 0x54, 0x55, 0x56, 0x57, 0x58, 0x59, 0x5a, 0x63, 0x64, 0x65, 0x66,
    0x67, 0x68, 0x69, 0x6a, 0x73, 0x74, 0x75, 0x76, 0x77, 0x78, 0x79, 0x7a, 0x82, 0x83, 0x84, 0x85,
    0x86, 0x87, 0x88, 0x89, 0x8a, 0x92, 0x93, 0x94, 0x95, 0x96, 0x97, 0x98, 0x99, 0x9a, 0xa2, 0xa3,
    0xa4, 0xa5, 0xa6, 0xa7, 0xa8, 0xa9, 0xaa, 0xb2, 0xb3, 0xb4, 0xb5, 0xb6, 0xb7, 0xb8, 0xb9, 0xba,
    0xc2, 0xc3, 0xc4, 0xc5, 0xc6, 0xc7, 0xc8, 0xc9, 0xca, 0xd2, 0xd3, 0xd4, 0xd5, 0xd6, 0xd7, 0xd8,
    0xd9, 0xda, 0xe2, 0xe3, 0xe4, 0xe5, 0xe6, 0xe7, 0xe8, 0xe9, 0xea, 0xf2, 0xf3, 0xf4, 0xf5, 0xf6,
    0xf7, 0xf8, 0xf9, 0xfa]

/-- The table at the head of some Huffman tables (its identifier, sixteen counts and as many values
    as they say), and what comes behind it. -/
def splitHuffmanTable (data : ByteSpan) : Option (ByteSpan × ByteSpan) :=
  if data.length < 17 then none
  else
    let values := ((data.drop 1).take 16).foldl (fun sum count => sum + count.toNat) 0
    if values = 0 ∨ data.length < 17 + values then none
    else some (data.splitAt (17 + values))

/-- The loop of `standard_huffman_table`.  A table has a byte at least. -/
def findHuffmanTable (tableId : UInt8) : Nat → ByteSpan → Option ByteSpan
  | 0, _ => none
  | fuel + 1, data =>
    if data = [] then none
    else
      match splitHuffmanTable data with
      | none => none
      | some (table, rest) =>
        if byteAt table 0 = tableId then some table else findHuffmanTable tableId fuel rest

/-- `standard_huffman_table`. -/
def standardHuffmanTable (tableId : UInt8) : Option ByteSpan :=
  findHuffmanTable tableId jpegStandardDht.length (jpegStandardDht.drop 4)

/-- The bit of a table in the mask of the tables that were seen. -/
def huffmanTableBit (tableId : UInt8) : Option UInt8 :=
  if tableId = 0x00 then some 0x01
  else if tableId = 0x01 then some 0x02
  else if tableId = 0x10 then some 0x04
  else if tableId = 0x11 then some 0x08
  else none

/-- The loop of `consume_standard_huffman_tables`: the mask behind a segment of standard tables. -/
def consumeHuffmanTables : Nat → ByteSpan → UInt8 → Option UInt8
  | 0, _, _ => none
  | fuel + 1, segment, tableMask =>
    if segment = [] then some tableMask
    else
      match splitHuffmanTable segment, huffmanTableBit (byteAt segment 0) with
      | some (table, rest), some mask =>
        if tableMask &&& mask ≠ 0 then none
        else if standardHuffmanTable (byteAt segment 0) ≠ some table then none
        else consumeHuffmanTables fuel rest (tableMask ||| mask)
      | _, _ => none

/-- `consume_standard_huffman_tables`. -/
def consumeStandardHuffmanTables (segment : ByteSpan) (tableMask : UInt8) : Option UInt8 :=
  consumeHuffmanTables (segment.length + 1) segment tableMask

/-! ## Parsing a JPEG frame -/

/-- `RtpJpegFrameView`.  `quantizers` is the table of table 0 and that of table 1. -/
structure RtpJpegFrameView where
  scan : ByteSpan := []
  quantizers : ByteSpan := List.replicate 128 0
  width : UInt16 := 0
  height : UInt16 := 0
  restartInterval : UInt16 := 0
  type : UInt8 := 0
  deriving DecidableEq, Repr

/-- `RtpJpegParseError`, without the value that stands for success. -/
inductive RtpJpegParseError where
  | malformed
  | unsupportedPrecision
  | unsupportedSampling
  | nonstandardHuffman
  | unsupportedProcess
  deriving DecidableEq, Repr

/-- The variables of `parse_jpeg_for_rtp`. -/
structure JpegMarkers where
  frame : RtpJpegFrameView := {}
  quantizerPresent : List Bool := [false, false]
  sawSof : Bool := false
  sawDht : Bool := false
  huffmanTableMask : UInt8 := 0
  deriving DecidableEq, Repr

namespace JpegMarkers

/-- The tables of a DQT segment. -/
def quantizationTables : Nat → ByteSpan → JpegMarkers → Except RtpJpegParseError JpegMarkers
  | _, [], p => .ok p
  | 0, _, _ => .error .malformed
  | fuel + 1, descriptor :: segment, p =>
    let precision := descriptor >>> 4
    let table := (descriptor &&& 0x0F).toNat
    if precision ≠ 0 then .error .unsupportedPrecision
    else if 1 < table ∨ p.quantizerPresent.getD table false = true ∨ segment.length < 64 then
      .error .malformed
    else
      quantizationTables fuel (segment.drop 64)
        { p with
          frame := { p.frame with
            quantizers := memcpyAt p.frame.quantizers (table * 64) (segment.take 64) }
          quantizerPresent := p.quantizerPresent.set table true }

/-- A DHT segment. -/
def huffmanTables (segment : ByteSpan) (p : JpegMarkers) : Except RtpJpegParseError JpegMarkers :=
  match consumeStandardHuffmanTables segment p.huffmanTableMask with
  | none => .error .nonstandardHuffman
  | some mask => .ok { p with huffmanTableMask := mask, sawDht := true }

/-- A SOF0 segment. -/
def startOfFrame (segment : ByteSpan) (p : JpegMarkers) : Except RtpJpegParseError JpegMarkers :=
  if segment.length ≠ 15 ∨ byteAt segment 5 ≠ 3 then .error .malformed
  else if byteAt segment 0 ≠ 8 then .error .unsupportedPrecision
  else
    let height := readBe16 segment 1
    let width := readBe16 segment 3
    let components := segment.drop 6
    if width = 0 ∨ height = 0 ∨ 2040 < width ∨ 2040 < height then .error .malformed
    else if byteAt components 0 ≠ 1 ∨ byteAt components 2 ≠ 0 ∨ byteAt components 3 ≠ 2 ∨
        byteAt components 4 ≠ 0x11 ∨ byteAt components 5 ≠ 1 ∨ byteAt components 6 ≠ 3 ∨
        byteAt components 7 ≠ 0x11 ∨ byteAt components 8 ≠ 1 then .error .unsupportedSampling
    else if byteAt components 1 = 0x21 then
      .ok { p with frame := { p.frame with height, width, type := 0 }, sawSof := true }
    else if byteAt components 1 = 0x22 then
      .ok { p with frame := { p.frame with height, width, type := 1 }, sawSof := true }
    else .error .unsupportedSampling

/-- A DRI segment. -/
def restartInterval (segment : ByteSpan) (p : JpegMarkers) :
    Except RtpJpegParseError JpegMarkers :=
  if segment.length ≠ 2 ∨ readBe16 segment 0 = 0 then .error .malformed
  else .ok { p with frame := { p.frame with restartInterval := readBe16 segment 0 } }

/-- The segments before the scan. -/
def segment (marker : UInt8) (segment : ByteSpan) (p : JpegMarkers) :
    Except RtpJpegParseError JpegMarkers :=
  if marker = 0xDB then p.quantizationTables segment.length segment
  else if marker = 0xC4 then p.huffmanTables segment
  else if marker = 0xC0 then p.startOfFrame segment
  else if marker = 0xDD then p.restartInterval segment
  else if 0xC1 ≤ marker ∧ marker ≤ 0xCF ∧ marker ≠ 0xC4 ∧ marker ≠ 0xC8 ∧ marker ≠ 0xCC then
    .error .unsupportedProcess
  else .ok p

/-- The loop that looks backwards from `scanEnd` for the last EOI. -/
def findEoi (data : ByteSpan) : Nat → Option Nat
  | scanEnd + 2 =>
    if byteAt data scanEnd = 0xFF ∧ byteAt data (scanEnd + 1) = 0xD9 then some scanEnd
    else findEoi data (scanEnd + 1)
  | _ => none

/-- A SOS segment and what follows it. -/
def startOfScan (segment data : ByteSpan) (p : JpegMarkers) :
    Except RtpJpegParseError RtpJpegFrameView :=
  if p.sawSof = false ∨ p.quantizerPresent ≠ [true, true] ∨ segment.length ≠ 10 ∨
      byteAt segment 0 ≠ 3 ∨
      segment.drop 1 ≠ [0x01, 0x00, 0x02, 0x11, 0x03, 0x11, 0x00, 0x3f, 0x00] then
    .error .malformed
  else if p.sawDht = true ∧ p.huffmanTableMask ≠ 0x0F then .error .nonstandardHuffman
  else
    match findEoi data data.length with
    | none => .error .malformed
    | some scanSize =>
      if scanSize = 0 then .error .malformed
      else .ok { p.frame with scan := data.take scanSize }

/-- The loop of `parse_jpeg_for_rtp` over the markers.  A marker has two bytes at least. -/
def parse : Nat → ByteSpan → JpegMarkers → Except RtpJpegParseError RtpJpegFrameView
  | 0, _, _ => .error .malformed
  | fuel + 1, data, p =>
    if data.length < 2 ∨ byteAt data 0 ≠ 0xFF then .error .malformed
    else
      match data.dropWhile (· == 0xFF) with
      | [] => .error .malformed
      | marker :: data =>
        if marker = 0xD9 then .error .malformed
        else if marker = 0xD8 ∨ (0xD0 ≤ marker ∧ marker ≤ 0xD7) ∨ marker = 0x01 then
          parse fuel data p
        else if data.length < 2 then .error .malformed
        else
          let segmentLength := (readBe16 data 0).toNat
          if segmentLength < 2 ∨ data.length < segmentLength then .error .malformed
          else
            let payload := (data.take segmentLength).drop 2
            let data := data.drop segmentLength
            if marker = 0xDA then p.startOfScan payload data
            else
              match p.segment marker payload with
              | .error e => .error e
              | .ok p => parse fuel data p

end JpegMarkers

/-- `parse_jpeg_for_rtp`. -/
def parseJpegForRtp (data : ByteSpan) : Except RtpJpegParseError RtpJpegFrameView :=
  if data.length < 4 ∨ byteAt data 0 ≠ 0xFF ∨ byteAt data 1 ≠ 0xD8 then .error .malformed
  else JpegMarkers.parse data.length (data.drop 2) {}

/-! ## Writing -/

/-- What `write_interchange_header` appends, one call after the other. -/
def interchangeChunks (type widthBlocks heightBlocks : UInt8) (quantizers : ByteSpan)
    (restartInterval : UInt16) : List ByteSpan :=
  [[0xFF, 0xD8, 0xFF, 0xE0, 0x00, 0x10, 0x4A, 0x46, 0x49, 0x46, 0x00, 0x01, 0x02, 0x00, 0x00, 0x01,
      0x00, 0x01, 0x00, 0x00], [0xFF, 0xDB], writeBe16 132,
    [0], quantizers.take 64, [1], (quantizers.drop 64).take 64] ++
  (if restartInterval ≠ 0 then [[0xFF, 0xDD, 0x00, 0x04], writeBe16 restartInterval] else []) ++
  [[0xFF, 0xC0, 0x00, 0x11, 0x08], writeBe16 (heightBlocks.toUInt16 * 8),
    writeBe16 (widthBlocks.toUInt16 * 8),
    [3, 1, if type = 1 then 0x22 else 0x21, 0, 2, 0x11, 1, 3, 0x11, 1], jpegStandardDht,
    [0xFF, 0xDA, 0x00, 0x0C, 0x03, 0x01, 0x00, 0x02, 0x11, 0x03, 0x11, 0x00, 0x3F, 0x00]]

/-- The header that is written. -/
def interchangeHeader (type widthBlocks heightBlocks : UInt8) (quantizers : ByteSpan)
    (restartInterval : UInt16) : ByteSpan :=
  (interchangeChunks type widthBlocks heightBlocks quantizers restartInterval).flatten

/-- `write_interchange_header`: the size of the header where all of it fits, and the output. -/
def writeInterchangeHeader (type widthBlocks heightBlocks : UInt8) (quantizers : ByteSpan)
    (restartInterval : UInt16) (output : ByteSpan) : Option Nat × ByteSpan :=
  if 1 < type ∨ widthBlocks = 0 ∨ heightBlocks = 0 ∨ quantizers.length ≠ 128 then (none, output)
  else
    match BoundedWriter.appendAll
        (interchangeChunks type widthBlocks heightBlocks quantizers restartInterval)
        { data := output } with
    | (false, out) => (none, out.data)
    | (true, out) => (some out.size, out.data)

theorem writeInterchangeHeader_some {type widthBlocks heightBlocks : UInt8} {quantizers : ByteSpan}
    {restartInterval : UInt16} {output output' : ByteSpan} {size : Nat}
    (h : writeInterchangeHeader type widthBlocks heightBlocks quantizers restartInterval output =
      (some size, output')) :
    output'.length = output.length ∧ size ≤ output.length ∧
      output'.take size =
        interchangeHeader type widthBlocks heightBlocks quantizers restartInterval := by
  rw [writeInterchangeHeader] at h
  split at h
  · cases h
  · split at h
    · cases h
    · rename_i out hall
      obtain ⟨-, hle, hlength, htake⟩ := BoundedWriter.appendAll_true hall (Nat.zero_le _)
      injection h with hsize hout
      injection hsize with hsize
      subst hsize hout
      refine ⟨hlength, hlength ▸ hle, ?_⟩
      rw [htake, List.take_zero, List.nil_append, interchangeHeader]

/-- `build_rtp_jpeg_fragment_header`: nothing where the source returns zero. -/
def buildRtpJpegFragmentHeader (frame : RtpJpegFrameView) (fragmentOffset : UInt32)
    (capacity : Nat) : ByteSpan :=
  let first := fragmentOffset = 0
  let required := 8 + (if frame.restartInterval ≠ 0 then 4 else 0) + if first then 132 else 0
  if capacity < required ∨ frame.scan = [] ∨ 1 < frame.type ∨ frame.width = 0 ∨
      frame.height = 0 ∨ 2040 < frame.width ∨ 2040 < frame.height ∨ 0xFFFFFF < fragmentOffset then
    []
  else
    let main : ByteSpan :=
      [0, (fragmentOffset >>> 16).toUInt8, (fragmentOffset >>> 8).toUInt8, fragmentOffset.toUInt8,
        frame.type ||| (if frame.restartInterval ≠ 0 then 0x40 else 0), 255,
        UInt8.ofNat ((frame.width.toNat + 7) / 8), UInt8.ofNat ((frame.height.toNat + 7) / 8)]
    let restart : ByteSpan :=
      if frame.restartInterval ≠ 0 then writeBe16 frame.restartInterval ++ writeBe16 0xFFFF
      else []
    let tables : ByteSpan := if first then [0, 0] ++ writeBe16 128 ++ frame.quantizers else []
    main ++ restart ++ tables

/-- `make_quantizers`. -/
def makeQuantizers (quality : UInt8) : ByteSpan :=
  let scale := if quality < 50 then 5000 / quality.toNat else 200 - quality.toNat * 2
  jpegBaseQuantizers.map fun base =>
    UInt8.ofNat (max 1 (min 255 ((base.toNat * scale + 50) / 100)))

/-- `valid_quantizers`. -/
def validQuantizers (quantizers : ByteSpan) : Bool :=
  quantizers.length == 128 && quantizers.all (· != 0)

end EsphomeVoip
