import EsphomeVoip.Video.RtpJpeg

/-! # The JPEG headers that are written (`rtp_jpeg.cpp`)

What `write_interchange_header` writes in front of a scan is read back by `parse_jpeg_for_rtp`, one
segment after the other. -/

namespace EsphomeVoip

namespace JpegMarkers

/-! ## Segments -/

/-- A marker that a segment follows. -/
def HasSegment (marker : UInt8) : Prop :=
  marker ≠ 0xFF ∧ marker ≠ 0xD9 ∧
    ¬(marker = 0xD8 ∨ (0xD0 ≤ marker ∧ marker ≤ 0xD7) ∨ marker = 0x01)

instance (marker : UInt8) : Decidable (HasSegment marker) := inferInstanceAs (Decidable (_ ∧ _))

/-- A segment behind its marker and its size is taken up as a whole. -/
theorem parse_segment {marker hi lo : UInt8} (hmarker : HasSegment marker) {payload : ByteSpan}
    (hsize : (readBe16 [hi, lo] 0).toNat = payload.length + 2) (fuel : Nat) (rest : ByteSpan)
    (p : JpegMarkers) :
    parse (fuel + 1) (0xFF :: marker :: hi :: lo :: (payload ++ rest)) p =
      if marker = 0xDA then p.startOfScan payload rest
      else
        match p.segment marker payload with
        | .error e => .error e
        | .ok p => parse fuel rest p := by
  obtain ⟨hfill, heoi, hbare⟩ := hmarker
  have hdrop : (0xFF :: marker :: hi :: lo :: (payload ++ rest)).dropWhile (· == 0xFF) =
      marker :: hi :: lo :: (payload ++ rest) := by
    rw [List.dropWhile_cons_of_pos (by rfl), List.dropWhile_cons_of_neg (by simpa using hfill)]
  have hread : (readBe16 (hi :: lo :: (payload ++ rest)) 0).toNat = payload.length + 2 := hsize
  rw [parse, if_neg (by simp [byteAt]), hdrop]
  dsimp only
  rw [if_neg heoi, if_neg hbare, if_neg (by simp), hread, if_neg (by simp)]
  have htake : ((hi :: lo :: (payload ++ rest)).take (payload.length + 2)).drop 2 = payload := by
    rw [List.take_succ_cons, List.take_succ_cons, List.take_left]
    rfl
  have hbehind : (hi :: lo :: (payload ++ rest)).drop (payload.length + 2) = rest := by
    rw [List.drop_succ_cons, List.drop_succ_cons, List.drop_left]
  by_cases hsos : marker = 0xDA
  · simp only [if_pos hsos, htake, hbehind]
  · cases hsegment : p.segment marker payload with
    | error e => simp only [if_neg hsos, htake, hsegment]
    | ok p' => simp only [if_neg hsos, htake, hbehind, hsegment]

/-- Both tables in one segment. -/
theorem quantizationTables_eq {quantizers : ByteSpan} (h : quantizers.length = 128) :
    quantizationTables 130 (0 :: (quantizers.take 64 ++ 1 :: quantizers.drop 64)) {} =
      .ok { frame := { quantizers }, quantizerPresent := [true, true] } := by
  have hlow : (quantizers.take 64).length = 64 := by rw [List.length_take]; omega
  have hhigh : (quantizers.drop 64).length = 64 := by rw [List.length_drop]; omega
  have hdrop : (quantizers.take 64 ++ 1 :: quantizers.drop 64).drop 64 =
      1 :: quantizers.drop 64 := List.drop_left' hlow
  have htake : (quantizers.take 64 ++ 1 :: quantizers.drop 64).take 64 = quantizers.take 64 :=
    List.take_left' hlow
  have hall : (quantizers.drop 64).take 64 = quantizers.drop 64 :=
    List.take_of_length_le (Nat.le_of_eq hhigh)
  have hnil : (quantizers.drop 64).drop 64 = [] := List.drop_eq_nil_of_le (Nat.le_of_eq hhigh)
  have hboth : memcpyAt (memcpyAt (List.replicate 128 0) 0 (quantizers.take 64)) 64
      (quantizers.drop 64) = quantizers := by
    have hfirst : memcpyAt (List.replicate 128 0) 0 (quantizers.take 64) =
        quantizers.take 64 ++ List.replicate 64 0 := by
      rw [memcpyAt, hlow]
      rfl
    have hrest : (quantizers.take 64 ++ List.replicate 64 (0 : UInt8)).drop (64 + 64) = [] :=
      List.drop_eq_nil_of_le
        (Nat.le_of_eq (by rw [List.length_append, hlow, List.length_replicate]))
    rw [hfirst, memcpyAt, List.take_left' hlow, hhigh, hrest, List.append_nil,
      List.take_append_drop]
  -- the first table
  rw [quantizationTables]
  simp only
  rw [if_neg (by decide), if_neg (by simp [hlow, hhigh]), hdrop]
  -- the second one, behind which nothing is left
  rw [htake, quantizationTables]
  simp only
  rw [if_neg (by decide), if_neg (by simp [hhigh]), hnil, hall]
  exact congrArg (fun q => Except.ok (ε := RtpJpegParseError)
    ({ frame := { quantizers := q }, quantizerPresent := [true, true] } : JpegMarkers)) hboth

/-- The standard tables in one segment are all four of them. -/
theorem huffmanTables_eq (p : JpegMarkers) (h : p.huffmanTableMask = 0) :
    p.huffmanTables (jpegStandardDht.drop 4) =
      .ok { p with huffmanTableMask := 0x0F, sawDht := true } := by
  have hmask : consumeStandardHuffmanTables (jpegStandardDht.drop 4) 0 = some 0x0F := by
    decide +kernel
  rw [huffmanTables, h, hmask]

/-- The last EOI is the one that has been put behind the scan. -/
theorem findEoi_scan (scan : ByteSpan) :
    findEoi (scan ++ [0xFF, 0xD9]) (scan ++ [0xFF, 0xD9]).length = some scan.length := by
  have hlength : (scan ++ [0xFF, 0xD9]).length = scan.length + 2 := by simp
  rw [hlength, findEoi, if_pos]
  constructor <;> simp [byteAt, List.getD_eq_getElem?_getD]

theorem type_cases {type : UInt8} (h : type ≤ 1) : type = 0 ∨ type = 1 := by
  have hle : type.toNat ≤ 1 := UInt8.le_iff_toNat_le.mp h
  rcases Nat.lt_or_ge type.toNat 1 with hlt | hge
  · exact .inl (UInt8.toNat_inj.mp (show type.toNat = 0 by omega))
  · exact .inr (UInt8.toNat_inj.mp (show type.toNat = 1 by omega))

/-- The components of a frame, with the sampling of its type. -/
def frameComponents (type : UInt8) : ByteSpan :=
  [3, 1, if type = 1 then 0x22 else 0x21, 0, 2, 0x11, 1, 3, 0x11, 1]

theorem toNat_blocks (blocks : UInt8) : (blocks.toUInt16 * 8).toNat = blocks.toNat * 8 := by
  have hlt := blocks.toNat_lt
  rw [UInt16.toNat_mul, UInt8.toNat_toUInt16]
  show blocks.toNat * 8 % 65536 = blocks.toNat * 8
  omega

/-- A number of blocks is a size of a frame. -/
theorem blocks_bounds {blocks : UInt8} (h : blocks ≠ 0) :
    blocks.toUInt16 * 8 ≠ 0 ∧ ¬2040 < blocks.toUInt16 * 8 := by
  have hlt := blocks.toNat_lt
  have hsize := toNat_blocks blocks
  constructor
  · intro hzero
    rw [hzero] at hsize
    exact h (UInt8.toNat_inj.mp (show blocks.toNat = 0 by
      have : (0 : UInt16).toNat = 0 := rfl
      omega))
  · rw [UInt16.lt_iff_toNat_lt, hsize]
    show ¬2040 < blocks.toNat * 8
    omega

/-- The size and the sampling of a frame are read back. -/
theorem startOfFrame_eq {type widthBlocks heightBlocks : UInt8} (htype : type ≤ 1)
    (hwidth : widthBlocks ≠ 0) (hheight : heightBlocks ≠ 0) (p : JpegMarkers) :
    p.startOfFrame (8 :: (writeBe16 (heightBlocks.toUInt16 * 8) ++
        writeBe16 (widthBlocks.toUInt16 * 8) ++ frameComponents type)) =
      .ok { p with
        frame := { p.frame with
          height := heightBlocks.toUInt16 * 8, width := widthBlocks.toUInt16 * 8, type }
        sawSof := true } := by
  obtain ⟨hw, hw'⟩ := blocks_bounds hwidth
  obtain ⟨hh, hh'⟩ := blocks_bounds hheight
  generalize widthBlocks.toUInt16 * 8 = width at hw hw' ⊢
  generalize heightBlocks.toUInt16 * 8 = height at hh hh' ⊢
  have hreadHeight :
      readBe16 (8 :: (writeBe16 height ++ writeBe16 width ++ frameComponents type)) 1 = height :=
    readBe16_writeBe16 height []
  have hreadWidth :
      readBe16 (8 :: (writeBe16 height ++ writeBe16 width ++ frameComponents type)) 3 = width :=
    readBe16_writeBe16 width []
  rw [startOfFrame, if_neg (by simp [writeBe16, frameComponents, byteAt]),
    if_neg (by simp [byteAt])]
  simp only [hreadHeight, hreadWidth]
  have hcomponents : (8 :: (writeBe16 height ++ writeBe16 width ++ frameComponents type)).drop 6 =
      [1, if type = 1 then 0x22 else 0x21, 0, 2, 0x11, 1, 3, 0x11, 1] := rfl
  rw [if_neg (by simp [hw, hh, hw', hh']), hcomponents, if_neg (by simp [byteAt])]
  rcases type_cases htype with rfl | rfl
  · rw [if_pos (by rfl)]
  · rw [if_neg (by decide), if_pos (by rfl)]

/-- Behind all of the tables the scan is what is in front of the EOI. -/
theorem startOfScan_eq {p : JpegMarkers} (hsof : p.sawSof = true)
    (hpresent : p.quantizerPresent = [true, true]) (hmask : p.huffmanTableMask = 0x0F)
    {scan : ByteSpan} (hscan : scan ≠ []) :
    p.startOfScan [0x03, 0x01, 0x00, 0x02, 0x11, 0x03, 0x11, 0x00, 0x3F, 0x00]
        (scan ++ [0xFF, 0xD9]) = .ok { p.frame with scan } := by
  rw [startOfScan, if_neg (by simp [hsof, hpresent, byteAt]), if_neg (by simp [hmask]),
    findEoi_scan]
  simp only
  rw [if_neg (by simpa using hscan), List.take_left]

/-- A segment other than the one in front of the scan. -/
theorem parse_ordinary {marker hi lo : UInt8} (hmarker : HasSegment marker) (hsos : marker ≠ 0xDA)
    {payload : ByteSpan} (hsize : (readBe16 [hi, lo] 0).toNat = payload.length + 2)
    {p p' : JpegMarkers} (hsegment : p.segment marker payload = .ok p') (fuel : Nat)
    (rest : ByteSpan) :
    parse (fuel + 1) (0xFF :: marker :: hi :: lo :: (payload ++ rest)) p = parse fuel rest p' := by
  rw [parse_segment hmarker hsize, if_neg hsos, hsegment]

end JpegMarkers

/-- The segment of the restart interval, where there is one. -/
def restartSegment (restartInterval : UInt16) : ByteSpan :=
  if restartInterval ≠ 0 then [0xFF, 0xDD, 0x00, 0x04] ++ writeBe16 restartInterval else []

/-- The segments of a frame that is written. -/
theorem interchangeHeader_eq {type widthBlocks heightBlocks : UInt8} {quantizers : ByteSpan}
    (h : quantizers.length = 128) (restartInterval : UInt16) (rest : ByteSpan) :
    interchangeHeader type widthBlocks heightBlocks quantizers restartInterval ++ rest =
      0xFF :: 0xD8 :: 0xFF :: 0xE0 :: 0x00 :: 0x10 ::
        ([0x4A, 0x46, 0x49, 0x46, 0x00, 0x01, 0x02, 0x00, 0x00, 0x01, 0x00, 0x01, 0x00, 0x00] ++
      (0xFF :: 0xDB :: 0x00 :: 0x84 :: ((0 :: (quantizers.take 64 ++ 1 :: quantizers.drop 64)) ++
      (restartSegment restartInterval ++
      (0xFF :: 0xC0 :: 0x00 :: 0x11 :: ((8 :: (writeBe16 (heightBlocks.toUInt16 * 8) ++
        writeBe16 (widthBlocks.toUInt16 * 8) ++ JpegMarkers.frameComponents type)) ++
      (0xFF :: 0xC4 :: 0x01 :: 0xA2 :: (jpegStandardDht.drop 4 ++
      (0xFF :: 0xDA :: 0x00 :: 0x0C ::
        ([0x03, 0x01, 0x00, 0x02, 0x11, 0x03, 0x11, 0x00, 0x3F, 0x00] ++ rest)))))))))) := by
  have hhigh : (quantizers.drop 64).take 64 = quantizers.drop 64 :=
    List.take_of_length_le (by rw [List.length_drop]; omega)
  have hdht : ∀ rest : ByteSpan, jpegStandardDht ++ rest =
      0xFF :: 0xC4 :: 0x01 :: 0xA2 :: (jpegStandardDht.drop 4 ++ rest) := fun _ => rfl
  have hrestart : (if restartInterval ≠ 0 then
      [[0xFF, 0xDD, 0x00, 0x04], writeBe16 restartInterval] else []).flatten =
        restartSegment restartInterval := by
    rw [restartSegment]
    split <;> simp
  have hsize : writeBe16 132 = [0x00, 0x84] := by decide
  simp only [interchangeHeader, interchangeChunks, List.flatten_append, hrestart, hhigh, hsize,
    List.flatten_cons, List.flatten_nil, List.cons_append, List.nil_append, List.append_assoc,
    List.append_nil, hdht, JpegMarkers.frameComponents]

namespace JpegMarkers

variable {quantizers : ByteSpan} {type widthBlocks heightBlocks : UInt8}

/-! ## The segments of the header -/

/-- A segment for the application is passed over. -/
theorem segment_app0 (payload : ByteSpan) (p : JpegMarkers) : p.segment 0xE0 payload = .ok p := by
  rw [segment, if_neg (by decide), if_neg (by decide), if_neg (by decide), if_neg (by decide),
    if_neg (by decide)]

/-- Both of the quantization tables. -/
theorem segment_dqt (h : quantizers.length = 128) :
    segment 0xDB (0 :: (quantizers.take 64 ++ 1 :: quantizers.drop 64)) {} =
      .ok { frame := { quantizers }, quantizerPresent := [true, true] } := by
  have hlength : (0 :: (quantizers.take 64 ++ 1 :: quantizers.drop 64)).length = 130 := by
    simp only [List.length_cons, List.length_append, List.length_take, List.length_drop]
    omega
  rw [segment, if_pos rfl, hlength, quantizationTables_eq h]

/-- The restart interval is read back, where there is one. -/
theorem parse_restart (fuel : Nat) (restartInterval : UInt16) (rest : ByteSpan)
    {p : JpegMarkers} (hp : p.frame.restartInterval = 0) :
    ∃ more, parse (fuel + 1) (restartSegment restartInterval ++ rest) p =
      parse (fuel + more) rest { p with frame := { p.frame with restartInterval } } := by
  rw [restartSegment]
  by_cases h : restartInterval = 0
  · subst h
    refine ⟨1, ?_⟩
    rw [if_neg (by decide), List.nil_append, ← hp]
  · have hsegment : p.segment 0xDD (writeBe16 restartInterval) =
        .ok { p with frame := { p.frame with restartInterval } } := by
      have hread : readBe16 (writeBe16 restartInterval) 0 = restartInterval :=
        readBe16_writeBe16 restartInterval []
      rw [segment, if_neg (by decide), if_neg (by decide), if_neg (by decide), if_pos rfl,
        JpegMarkers.restartInterval, hread, if_neg (by simp [h, writeBe16])]
    have hsize : (readBe16 [0x00, 0x04] 0).toNat = (writeBe16 restartInterval).length + 2 := by
      show (readBe16 [0x00, 0x04] 0).toNat = 4
      decide
    refine ⟨0, ?_⟩
    rw [if_pos h]
    exact parse_ordinary (by decide) (by decide) hsize hsegment fuel rest

theorem segment_sof (htype : type ≤ 1) (hwidth : widthBlocks ≠ 0) (hheight : heightBlocks ≠ 0)
    (p : JpegMarkers) :
    p.segment 0xC0 (8 :: (writeBe16 (heightBlocks.toUInt16 * 8) ++
        writeBe16 (widthBlocks.toUInt16 * 8) ++ frameComponents type)) =
      .ok { p with
        frame := { p.frame with
          height := heightBlocks.toUInt16 * 8, width := widthBlocks.toUInt16 * 8, type }
        sawSof := true } := by
  rw [segment, if_neg (by decide), if_neg (by decide), if_pos rfl,
    startOfFrame_eq htype hwidth hheight]

theorem segment_dht {p : JpegMarkers} (h : p.huffmanTableMask = 0) :
    p.segment 0xC4 (jpegStandardDht.drop 4) =
      .ok { p with huffmanTableMask := 0x0F, sawDht := true } := by
  rw [segment, if_neg (by decide), if_pos rfl, huffmanTables_eq p h]

end JpegMarkers

/-- What is written in front of a scan is read back. -/
theorem parseJpegForRtp_interchange {type widthBlocks heightBlocks : UInt8} (htype : type ≤ 1)
    (hwidth : widthBlocks ≠ 0) (hheight : heightBlocks ≠ 0) {quantizers : ByteSpan}
    (hquantizers : quantizers.length = 128) (restartInterval : UInt16) {scan : ByteSpan}
    (hscan : scan ≠ []) :
    parseJpegForRtp (interchangeHeader type widthBlocks heightBlocks quantizers restartInterval ++
        (scan ++ [0xFF, 0xD9])) =
      .ok { scan, quantizers, width := widthBlocks.toUInt16 * 8
            height := heightBlocks.toUInt16 * 8, restartInterval, type } := by
  rw [interchangeHeader_eq hquantizers, parseJpegForRtp,
    if_neg (by simp [byteAt])]
  -- Six segments are read at most.
  generalize hfuel : List.length _ = fuel
  obtain ⟨k, rfl⟩ : ∃ k, fuel = k + 6 := by
    refine ⟨fuel - 6, ?_⟩
    rw [← hfuel]
    simp only [List.length_cons]
    omega
  show JpegMarkers.parse (k + 5 + 1) (0xFF :: 0xE0 :: _) {} = _
  -- APP0, the tables,
  rw [JpegMarkers.parse_ordinary (by decide) (by decide) rfl (JpegMarkers.segment_app0 _ _)]
  have hdqt : (readBe16 [0x00, 0x84] 0).toNat =
      (0 :: (quantizers.take 64 ++ 1 :: quantizers.drop 64)).length + 2 := by
    simp only [List.length_cons, List.length_append, List.length_take, List.length_drop,
      hquantizers]
    rfl
  rw [JpegMarkers.parse_ordinary (by decide) (by decide) hdqt
    (JpegMarkers.segment_dqt hquantizers)]
  -- the restart interval, if there is one,
  obtain ⟨more, hrestart⟩ := JpegMarkers.parse_restart (k + 3) restartInterval
    (0xFF :: 0xC0 :: 0x00 :: 0x11 :: ((8 :: (writeBe16 (heightBlocks.toUInt16 * 8) ++
        writeBe16 (widthBlocks.toUInt16 * 8) ++ JpegMarkers.frameComponents type)) ++
      (0xFF :: 0xC4 :: 0x01 :: 0xA2 :: (jpegStandardDht.drop 4 ++
      (0xFF :: 0xDA :: 0x00 :: 0x0C ::
        ([0x03, 0x01, 0x00, 0x02, 0x11, 0x03, 0x11, 0x00, 0x3F, 0x00] ++
          (scan ++ [0xFF, 0xD9])))))))
    (show ({ frame := { quantizers }, quantizerPresent := [true, true] } :
      JpegMarkers).frame.restartInterval = 0 from rfl)
  -- then the frame, the Huffman tables and the scan
  have hsof : (readBe16 [0x00, 0x11] 0).toNat =
      (8 :: (writeBe16 (heightBlocks.toUInt16 * 8) ++ writeBe16 (widthBlocks.toUInt16 * 8) ++
        JpegMarkers.frameComponents type)).length + 2 := by
    show (readBe16 [0x00, 0x11] 0).toNat = 17
    decide
  have hdht : (readBe16 [0x01, 0xA2] 0).toNat = (jpegStandardDht.drop 4).length + 2 := by
    decide +kernel
  rw [hrestart, show k + 3 + more = k + more + 2 + 1 by omega,
    JpegMarkers.parse_ordinary (by decide) (by decide) hsof
      (JpegMarkers.segment_sof htype hwidth hheight _),
    JpegMarkers.parse_ordinary (by decide) (by decide) hdht (JpegMarkers.segment_dht rfl),
    JpegMarkers.parse_segment (by decide) rfl, if_pos rfl,
    JpegMarkers.startOfScan_eq rfl rfl rfl hscan]

end EsphomeVoip
