import EsphomeVoip.Video.JpegHeaders
import EsphomeVoip.Video.QuantizationCache

/-! # The frames that are completed

Whatever packets come, a JPEG frame that the depacketizer completes is put together from packets
that followed each other without a gap, and `parse_jpeg_for_rtp` reads it. -/

namespace EsphomeVoip

/-! ## Parts of a scan -/

/-- Two packets describe the same frame. -/
structure RtpJpegFragment.SameFrame (f g : RtpJpegFragment) : Prop where
  typeRaw : f.typeRaw = g.typeRaw
  quality : f.quality = g.quality
  widthBlocks : f.widthBlocks = g.widthBlocks
  heightBlocks : f.heightBlocks = g.heightBlocks
  restartInterval : f.restartInterval = g.restartInterval

/-- Where the scan begins in the first packet of a frame. -/
def RtpJpegFragment.scanStart (payload : ByteSpan) (f : RtpJpegFragment) : Nat :=
  if 128 ≤ f.quality then f.cursor + 4 + (readBe16 payload (f.cursor + 2)).toNat else f.cursor

/-- `scan` consists of what some packets carry: the first one has the offset zero, and each other
    one the offset at which the ones before it end. -/
inductive JpegParts (first : RtpJpegFragment) : List ByteSpan → ByteSpan → Prop where
  | first {payload : ByteSpan} (hread : readRtpJpegFragment payload = some first)
      (hoffset : first.fragmentOffset = 0) :
      JpegParts first [payload] (payload.drop (first.scanStart payload))
  | next {payloads : List ByteSpan} {scan payload : ByteSpan} {f : RtpJpegFragment}
      (before : JpegParts first payloads scan) (hread : readRtpJpegFragment payload = some f)
      (hsame : f.SameFrame first) (hoffset : f.fragmentOffset.toNat = scan.length) :
      JpegParts first (payloads ++ [payload]) (scan ++ payload.drop f.cursor)

namespace RtpJpegDepacketizer

variable {d : RtpJpegDepacketizer}

/-! ## Tables -/

theorem makeQuantizers_valid (quality : UInt8) :
    validQuantizers (makeQuantizers quality) = true := by
  have hlen : (makeQuantizers quality).length = 128 := by
    simp only [makeQuantizers, List.length_map]
    rfl
  simp only [validQuantizers, hlen, beq_self_eq_true, Bool.true_and, List.all_eq_true]
  intro q hq
  simp only [makeQuantizers, List.mem_map] at hq
  obtain ⟨base, -, rfl⟩ := hq
  generalize (base.toNat * _ + 50) / 100 = n
  simp only [bne_iff_ne, ne_eq]
  intro hzero
  have hnat := congrArg UInt8.toNat hzero
  rw [UInt8.toNat_ofNat_of_lt' (by show max 1 (min 255 n) < 256; omega)] at hnat
  have hnone : (0 : UInt8).toNat = 0 := rfl
  omega

/-- The tables of a new frame have no zero, and the scan is behind them. -/
theorem frameQuantizers_valid (h : CacheInv d) {payload : ByteSpan} {f : RtpJpegFragment}
    {quantizers : ByteSpan} {cursor : Nat} {d' : RtpJpegDepacketizer}
    (hresult : d.frameQuantizers payload f = (some (quantizers, cursor), d')) :
    validQuantizers quantizers = true ∧ cursor = f.scanStart payload := by
  rw [frameQuantizers] at hresult
  rw [RtpJpegFragment.scanStart]
  split at hresult
  · rename_i hdynamic
    rw [if_pos hdynamic]
    split at hresult
    · cases hresult
    · dsimp only at hresult
      split at hresult
      · rename_i hsize
        split at hresult
        · cases hresult
        · -- tables that were cached
          rename_i bound hbound
          split at hresult
          · cases hresult
          · cases hresult
            exact ⟨h.valid _ _ hbound, by rw [hsize, Nat.add_zero]⟩
      · split at hresult
        · cases hresult
        · generalize (if (readBe16 payload (f.cursor + 2)).toNat = 64 then
              (payload.drop (f.cursor + 4)).take (readBe16 payload (f.cursor + 2)).toNat ++
                (payload.drop (f.cursor + 4)).take (readBe16 payload (f.cursor + 2)).toNat
            else (payload.drop (f.cursor + 4)).take (readBe16 payload (f.cursor + 2)).toNat) =
              wire at hresult
          split at hresult
          · cases hresult
          · -- tables in the packet
            rename_i hvalid
            rw [Bool.not_eq_false] at hvalid
            split at hresult
            · cases hresult
              exact ⟨hvalid, rfl⟩
            · split at hresult
              · cases hresult
              · cases hresult
                exact ⟨hvalid, rfl⟩
  · -- tables that the Q value stands for
    rename_i hstatic
    rw [if_neg hstatic]
    split at hresult
    · cases hresult
    · cases hresult
      exact ⟨makeQuantizers_valid _, rfl⟩

/-! ## One packet -/

/-- What one packet does. -/
inductive Push (d : RtpJpegDepacketizer) (payload : ByteSpan) (marker : Bool) (timestamp : UInt32)
    (output : ByteSpan) : Pushed → Prop where
  | dropped (pushed : Pushed) (hresult : pushed.result = .dropped)
      (hidle : pushed.depacketizer.active = false) : Push d payload marker timestamp output pushed
  | fresh (f : RtpJpegFragment) (quantizers output' : ByteSpan) (d' : RtpJpegDepacketizer)
      (hread : readRtpJpegFragment payload = some f) (hoffset : f.fragmentOffset = 0)
      (hvalid : validQuantizers quantizers = true)
      (hstart : d'.active = true ∧ d'.timestamp = timestamp ∧
        d'.type = f.type ||| (if f.restartInterval ≠ 0 then 0x40 else 0) ∧
        d'.quality = f.quality ∧ d'.widthBlocks = f.widthBlocks ∧
        d'.heightBlocks = f.heightBlocks ∧ d'.restartInterval = f.restartInterval ∧
        d'.scanSize = 0)
      (hheader : d'.headerSize = (interchangeHeader f.type f.widthBlocks f.heightBlocks quantizers
        f.restartInterval).length ∧ output'.take d'.headerSize = interchangeHeader f.type
          f.widthBlocks f.heightBlocks quantizers f.restartInterval) :
      Push d payload marker timestamp output (d'.appendFragment f.fragmentOffset
        (payload.drop (f.scanStart payload)) marker output')
  | later (f : RtpJpegFragment) (hread : readRtpJpegFragment payload = some f)
      (hsame : ¬d.differs f timestamp) :
      Push d payload marker timestamp output
        (d.appendFragment f.fragmentOffset (payload.drop f.cursor) marker output)

theorem push_cases (h : CacheInv d) (payload : ByteSpan) (marker : Bool) (timestamp : UInt32)
    (output : ByteSpan) :
    Push d payload marker timestamp output (d.push payload marker timestamp output) := by
  rw [push]
  split
  · exact .dropped _ rfl rfl
  · rename_i f hread
    split
    · rename_i hoffset
      split
      · exact .dropped _ rfl rfl
      · rename_i quantizers cursor d' hquantizers
        -- The tables are there: the frame starts when its header fits the buffer.
        obtain ⟨hvalid, rfl⟩ := frameQuantizers_valid h hquantizers
        split
        · rename_i output' d'' hstart
          refine .dropped _ rfl ?_
          rw [startFrame] at hstart
          split at hstart
          · cases hstart
            rfl
          · split at hstart
            · cases hstart
              rfl
            · cases hstart
        · rename_i output' d'' hstart
          rw [startFrame] at hstart
          split at hstart
          · cases hstart
          · split at hstart
            · cases hstart
            · rename_i headerSize written hwrite
              cases hstart
              obtain ⟨-, hle, htake⟩ := writeInterchangeHeader_some hwrite
              have hsize : headerSize = (interchangeHeader f.type f.widthBlocks f.heightBlocks
                  quantizers f.restartInterval).length := by
                rw [← htake, List.length_take]
                have := (writeInterchangeHeader_some hwrite).1
                omega
              exact .fresh f quantizers _ _ hread hoffset hvalid
                ⟨rfl, rfl, rfl, rfl, rfl, rfl, rfl, rfl⟩ ⟨hsize, htake⟩
    · split
      · exact .dropped _ rfl rfl
      · -- A later fragment has to match the frame.
        rename_i hsame
        exact .later f hread hsame

/-- What is in the buffer when a fragment is put behind a scan, without and with the EOI. -/
theorem take_appended {output header scan : ByteSpan} (fragment : ByteSpan)
    (hwritten : output.take (header.length + scan.length) = header ++ scan)
    (hroom : header.length + scan.length + fragment.length + 2 ≤ output.length) :
    (memcpyAt output (header.length + scan.length) fragment).take
        (header.length + (scan ++ fragment).length) = header ++ (scan ++ fragment) ∧
      (memcpyAt (memcpyAt output (header.length + scan.length) fragment)
          (header.length + (scan.length + fragment.length)) [0xFF, 0xD9]).take
        (header.length + (scan.length + fragment.length) + 2) =
          header ++ (scan ++ fragment ++ [0xFF, 0xD9]) := by
  have hfirst : (memcpyAt output (header.length + scan.length) fragment).take
      (header.length + (scan.length + fragment.length)) = header ++ (scan ++ fragment) := by
    rw [← Nat.add_assoc, take_memcpyAt_through (by omega), hwritten, List.append_assoc]
  have hlength : (memcpyAt output (header.length + scan.length) fragment).length =
      output.length := length_memcpyAt (by omega)
  constructor
  · rw [List.length_append]
    exact hfirst
  · rw [← List.append_assoc, ← hfirst]
    exact take_memcpyAt_through (by omega) [0xFF, 0xD9]

/-- A fragment is dropped, or put behind the scan that is there, or it completes the frame. -/
theorem appendFragment_cases {output header scan : ByteSpan}
    (hheader : d.headerSize = header.length) (hscan : d.scanSize = scan.length)
    (hwritten : output.take (header.length + scan.length) = header ++ scan)
    (offset : UInt32) (fragment : ByteSpan) (marker : Bool) :
    let pushed := d.appendFragment offset fragment marker output
    (pushed.result = .dropped ∧ pushed.depacketizer.active = false) ∨
      (fragment ≠ [] ∧ marker = false ∧ pushed.result = .incomplete ∧
        pushed.depacketizer = { d with scanSize := (scan ++ fragment).length } ∧
        pushed.output.take (header.length + (scan ++ fragment).length) =
          header ++ (scan ++ fragment)) ∨
      (fragment ≠ [] ∧ marker = true ∧ pushed.result = .complete ∧
        pushed.depacketizer.active = false ∧
        pushed.output.take pushed.outputSize = header ++ (scan ++ fragment ++ [0xFF, 0xD9])) := by
  dsimp only
  rw [appendFragment]
  split
  · exact .inl ⟨rfl, rfl⟩
  · rename_i hfits
    simp only [not_or, Nat.not_lt, hheader, hscan] at hfits
    obtain ⟨-, -, hne, hroom⟩ := hfits
    obtain ⟨htaken, hcompleted⟩ := take_appended fragment hwritten hroom
    cases marker with
    | false =>
      refine .inr (.inl ⟨hne, rfl, rfl, ?_, ?_⟩)
      · rw [List.length_append, ← hscan]
        rfl
      · rw [← htaken, hheader, hscan]
        rfl
    | true =>
      refine .inr (.inr ⟨hne, rfl, rfl, rfl, ?_⟩)
      rw [← hcompleted, hheader, hscan]
      rfl

end RtpJpegDepacketizer

/-- The type on the wire, from what has been read. -/
theorem typeRaw_of_read {payload : ByteSpan} {f : RtpJpegFragment}
    (h : readRtpJpegFragment payload = some f) :
    f.typeRaw = f.type ||| (if f.restartInterval ≠ 0 then 0x40 else 0) ∧ f.type ≤ 1 ∧
      f.widthBlocks ≠ 0 ∧ f.heightBlocks ≠ 0 := by
  have hbit : ∀ x : UInt8, x &&& 0x40 ≠ 0 → x = (x &&& 0xBF) ||| 0x40 := forall_byte (by decide)
  simp only [readRtpJpegFragment, Option.ite_none_left_eq_some, Option.some.injEq, not_or,
    not_and] at h
  obtain ⟨hlen, hrestart, ⟨htype, -, hwidth, hheight⟩, rfl⟩ := h
  refine ⟨?_, UInt8.not_lt.mp htype, hwidth, hheight⟩
  by_cases hraw : byteAt payload 4 &&& 0x40 = 0
  · simp [hraw]
  · have hinterval := hrestart hraw
    simp [hraw, hinterval, ← hbit _ hraw]

/-! ## Runs -/

/-- The packets among some events, with their markers and timestamps. -/
def JpegEvent.pushes (es : List JpegEvent) : List (ByteSpan × Bool × UInt32) :=
  es.filterMap fun
    | .push payload marker timestamp => some (payload, marker, timestamp)
    | .reset => none
    | .hand _ => none

/-- The packets of a frame that is put together: the last ones, none with a marker, all with its
    timestamp, and the frame has not been given up behind the first of them. -/
structure Packets (timestamp : UInt32) (payloads : List ByteSpan) (es : List JpegEvent) : Prop where
  during : ∃ before during, es = before ++ during ∧
    JpegEvent.pushes during = payloads.map (fun payload => (payload, false, timestamp)) ∧
    .reset ∉ during

/-- A frame that is put together, with what it is put together from. -/
structure PartialFrame (first : RtpJpegFragment) (quantizers : ByteSpan) (payloads : List ByteSpan)
    (scan : ByteSpan) (s : JpegReceiver) : Prop where
  parts : JpegParts first payloads scan
  valid : validQuantizers quantizers = true
  type : s.depacketizer.type = first.typeRaw
  quality : s.depacketizer.quality = first.quality
  widthBlocks : s.depacketizer.widthBlocks = first.widthBlocks
  heightBlocks : s.depacketizer.heightBlocks = first.heightBlocks
  restartInterval : s.depacketizer.restartInterval = first.restartInterval
  headerSize : s.depacketizer.headerSize = (interchangeHeader first.type first.widthBlocks
    first.heightBlocks quantizers first.restartInterval).length
  scanSize : s.depacketizer.scanSize = scan.length
  written : s.output.take (s.depacketizer.headerSize + scan.length) =
    interchangeHeader first.type first.widthBlocks first.heightBlocks quantizers
      first.restartInterval ++ scan

/-- What the events so far have left. -/
def GoingOn (es : List JpegEvent) (s : JpegReceiver) : Prop :=
  RtpJpegDepacketizer.Inv s.depacketizer s.output ∧
    (s.depacketizer.active = true → ∃ first quantizers payloads scan,
      PartialFrame first quantizers payloads scan s ∧
        Packets s.depacketizer.timestamp payloads es)

/-- A completed frame, with the packets it has been put together from. -/
structure CompletedFrame (es : List JpegEvent) (payload : ByteSpan) (marker : Bool)
    (timestamp : UInt32) (data : ByteSpan) : Prop where
  marker : marker = true
  frame : ∃ first payloads scan quantizers, Packets timestamp payloads es ∧
    JpegParts first (payloads ++ [payload]) scan ∧
    parseJpegForRtp data =
      .ok { scan, quantizers, width := first.widthBlocks.toUInt16 * 8
            height := first.heightBlocks.toUInt16 * 8, restartInterval := first.restartInterval
            type := first.type } ∧
    ∀ q ∈ quantizers, q ≠ 0

theorem JpegParts.read_first {first : RtpJpegFragment} {payloads : List ByteSpan} {scan : ByteSpan}
    (h : JpegParts first payloads scan) :
    ∃ payload, readRtpJpegFragment payload = some first := by
  induction h with
  | first hread => exact ⟨_, hread⟩
  | next _ _ _ _ ih => exact ih

/-- What has been put together is read back. -/
theorem parse_completed {first : RtpJpegFragment} {payloads : List ByteSpan}
    {scan quantizers : ByteSpan} (hparts : JpegParts first payloads scan) (hscan : scan ≠ [])
    (hvalid : validQuantizers quantizers = true) :
    parseJpegForRtp (interchangeHeader first.type first.widthBlocks first.heightBlocks quantizers
        first.restartInterval ++ (scan ++ [0xFF, 0xD9])) =
      .ok { scan, quantizers, width := first.widthBlocks.toUInt16 * 8
            height := first.heightBlocks.toUInt16 * 8, restartInterval := first.restartInterval
            type := first.type } := by
  obtain ⟨payload, hread⟩ := hparts.read_first
  obtain ⟨-, htype, hwidth, hheight⟩ := typeRaw_of_read hread
  obtain ⟨hlen, -⟩ := JpegReceiver.of_valid hvalid
  exact parseJpegForRtp_interchange htype hwidth hheight hlen _ hscan

/-- The packets of a frame, with one more. -/
theorem Packets.push {timestamp : UInt32} {payloads : List ByteSpan} {es : List JpegEvent}
    (h : Packets timestamp payloads es) (payload : ByteSpan) :
    Packets timestamp (payloads ++ [payload]) (es ++ [.push payload false timestamp]) := by
  obtain ⟨before, during, rfl, hpushes, hreset⟩ := h.during
  refine ⟨before, during ++ [.push payload false timestamp], by rw [List.append_assoc], ?_, ?_⟩
  · rw [JpegEvent.pushes, List.filterMap_append, ← JpegEvent.pushes, hpushes, List.map_append]
    rfl
  · simp [hreset]

theorem Packets.hand {timestamp : UInt32} {payloads : List ByteSpan} {es : List JpegEvent}
    (h : Packets timestamp payloads es) (output : ByteSpan) :
    Packets timestamp payloads (es ++ [.hand output]) := by
  obtain ⟨before, during, rfl, hpushes, hreset⟩ := h.during
  refine ⟨before, during ++ [.hand output], by rw [List.append_assoc], ?_, ?_⟩
  · rw [JpegEvent.pushes, List.filterMap_append, ← JpegEvent.pushes, hpushes]
    simp
  · simp [hreset]

theorem Packets.none (timestamp : UInt32) (es : List JpegEvent) : Packets timestamp [] es :=
  ⟨es, [], (List.append_nil es).symm, rfl, List.not_mem_nil⟩

namespace JpegReceiver

open RtpJpegDepacketizer

variable {s : JpegReceiver} {es : List JpegEvent}

/-- **One packet**: what is put together stays what its packets carry, and so is what is
    completed. -/
theorem push_goingOn (h : GoingOn es s) (payload : ByteSpan) (marker : Bool) (timestamp : UInt32) :
    let pushed := s.depacketizer.push payload marker timestamp s.output
    GoingOn (es ++ [.push payload marker timestamp]) (s.step (.push payload marker timestamp)) ∧
      (pushed.result = .complete →
        CompletedFrame es payload marker timestamp (pushed.output.take pushed.outputSize)) := by
  obtain ⟨hinv, hgoing⟩ := h
  have hnext := (push_spec hinv payload marker timestamp).1
  have hcases := push_cases hinv.cache payload marker timestamp s.output
  rw [step]
  simp only at hnext ⊢
  generalize s.depacketizer.push payload marker timestamp s.output = pushed at hnext hcases ⊢
  cases hcases with
  | dropped _ hresult hidle =>
    refine ⟨⟨hnext, fun hactive => ?_⟩, fun hcomplete => ?_⟩
    · exact Bool.noConfusion (hidle.symm.trans hactive)
    · rw [hresult] at hcomplete
      cases hcomplete
  | fresh f quantizers output' d' hread hoffset hvalid hstart hheader =>
    obtain ⟨-, hts, htype, hquality, hwidth, hheight, hrestart, hsize⟩ := hstart
    obtain ⟨hlength, htake⟩ := hheader
    have hparts := JpegParts.first hread hoffset
    -- nothing of the scan is there yet
    have hwritten : output'.take ((interchangeHeader f.type f.widthBlocks f.heightBlocks quantizers
        f.restartInterval).length + ([] : ByteSpan).length) = interchangeHeader f.type f.widthBlocks
          f.heightBlocks quantizers f.restartInterval ++ [] := by
      rw [List.append_nil, ← hlength]
      exact htake
    have hnone : d'.scanSize = ([] : ByteSpan).length := hsize
    rcases appendFragment_cases hlength hnone hwritten f.fragmentOffset
      (payload.drop (f.scanStart payload)) marker with
      ⟨hresult, hidle⟩ | ⟨-, rfl, hresult, hd, hput⟩ | ⟨hne, rfl, hresult, hidle, hput⟩
    · refine ⟨⟨hnext, fun hactive => ?_⟩, fun hcomplete => ?_⟩
      · exact Bool.noConfusion (hidle.symm.trans hactive)
      · rw [hresult] at hcomplete
        cases hcomplete
    · refine ⟨⟨hnext, fun _ => ⟨f, quantizers, [payload], _, ⟨hparts, hvalid, ?_, ?_, ?_, ?_, ?_,
        ?_, ?_, ?_⟩, ?_⟩⟩, fun hcomplete => ?_⟩
      · rw [hd]
        exact htype.trans (typeRaw_of_read hread).1.symm
      · rw [hd]
        exact hquality
      · rw [hd]
        exact hwidth
      · rw [hd]
        exact hheight
      · rw [hd]
        exact hrestart
      · rw [hd]
        exact hlength
      · rw [hd]
        rfl
      · rw [hd]
        show List.take (d'.headerSize + _) _ = _
        rw [hlength]
        exact hput
      · rw [hd]
        show Packets d'.timestamp _ _
        rw [hts]
        exact (Packets.none timestamp es).push payload
      · rw [hresult] at hcomplete
        cases hcomplete
    · refine ⟨⟨hnext, fun hactive => ?_⟩, fun _ => ⟨rfl, f, [], _, quantizers,
        Packets.none timestamp es, hparts, ?_, (of_valid hvalid).2⟩⟩
      · exact Bool.noConfusion (hidle.symm.trans hactive)
      · rw [hput]
        exact parse_completed hparts hne hvalid
  | later f hread hsame =>
    simp only [differs, not_or, Bool.not_eq_false, Decidable.not_not] at hsame
    obtain ⟨hactive, hts, -, htype, hquality, hwidth, hheight, hrestart, hoffset⟩ := hsame
    obtain ⟨first, quantizers, payloads, scan, hframe, hpackets⟩ := hgoing hactive
    rw [hts] at hpackets
    have hparts : JpegParts first (payloads ++ [payload]) (scan ++ payload.drop f.cursor) := by
      refine .next hframe.parts hread ⟨?_, ?_, ?_, ?_, ?_⟩ (hoffset.trans hframe.scanSize)
      · exact htype.symm.trans hframe.type
      · exact hquality.symm.trans hframe.quality
      · exact hwidth.symm.trans hframe.widthBlocks
      · exact hheight.symm.trans hframe.heightBlocks
      · exact hrestart.symm.trans hframe.restartInterval
    have hwritten := hframe.written
    rw [hframe.headerSize] at hwritten
    rcases appendFragment_cases hframe.headerSize hframe.scanSize hwritten f.fragmentOffset
      (payload.drop f.cursor) marker with
      ⟨hresult, hidle⟩ | ⟨-, rfl, hresult, hd, hput⟩ | ⟨hne, rfl, hresult, hidle, hput⟩
    · refine ⟨⟨hnext, fun hactive => ?_⟩, fun hcomplete => ?_⟩
      · exact Bool.noConfusion (hidle.symm.trans hactive)
      · rw [hresult] at hcomplete
        cases hcomplete
    · refine ⟨⟨hnext, fun _ => ⟨first, quantizers, payloads ++ [payload], _, ⟨hparts,
        hframe.valid, ?_, ?_, ?_, ?_, ?_, ?_, ?_, ?_⟩, ?_⟩⟩, fun hcomplete => ?_⟩
      · rw [hd]
        exact hframe.type
      · rw [hd]
        exact hframe.quality
      · rw [hd]
        exact hframe.widthBlocks
      · rw [hd]
        exact hframe.heightBlocks
      · rw [hd]
        exact hframe.restartInterval
      · rw [hd]
        exact hframe.headerSize
      · rw [hd]
      · rw [hd]
        show List.take (s.depacketizer.headerSize + _) _ = _
        rw [hframe.headerSize]
        exact hput
      · rw [hd]
        show Packets s.depacketizer.timestamp _ _
        rw [hts]
        exact hpackets.push payload
      · rw [hresult] at hcomplete
        cases hcomplete
    · refine ⟨⟨hnext, fun hactive => ?_⟩, fun _ => ⟨rfl, first, payloads, _, quantizers, hpackets,
        hparts, ?_, (of_valid hframe.valid).2⟩⟩
      · exact Bool.noConfusion (hidle.symm.trans hactive)
      · rw [hput]
        exact parse_completed hparts (List.append_ne_nil_of_right_ne_nil _ hne) hframe.valid

/-- **One event.** -/
theorem step_goingOn (h : GoingOn es s) (e : JpegEvent) : GoingOn (es ++ [e]) (s.step e) := by
  cases e with
  | push payload marker timestamp => exact (push_goingOn h payload marker timestamp).1
  | reset =>
    exact ⟨inv_reset h.1.cache s.output, fun hactive => Bool.noConfusion hactive⟩
  | hand output =>
    rw [step]
    split
    · rename_i hactive
      refine ⟨h.1, fun _ => ?_⟩
      obtain ⟨first, quantizers, payloads, scan, hframe, hpackets⟩ := h.2 hactive
      exact ⟨first, quantizers, payloads, scan, hframe, hpackets.hand output⟩
    · rename_i hidle
      rw [Bool.not_eq_true] at hidle
      exact ⟨inv_of_idle h.1.cache hidle output,
        fun hactive => Bool.noConfusion (hidle.symm.trans hactive)⟩

theorem session_goingOn (d : RtpJpegDepacketizer) (output : ByteSpan) (es : List JpegEvent) :
    GoingOn es (session d output es) := by
  apply EventRun.invariant_of_past
  · exact ⟨resetSession_inv d output, fun hactive => Bool.noConfusion hactive⟩
  · exact fun past e s h => step_goingOn h e

/-- **What is completed is a JPEG frame of its own.**  In every session, a frame that a packet
    completes is put together from the last packets, all with the timestamp of that packet and one
    set of parameters, which follow each other from the offset zero on; the parser reads it, and
    no entry of its tables is a zero. -/
theorem completed_frames_are_contiguous (d : RtpJpegDepacketizer) (output : ByteSpan)
    (es : List JpegEvent) (payload : ByteSpan) (marker : Bool) (timestamp : UInt32) :
    let s := session d output es
    let pushed := s.depacketizer.push payload marker timestamp s.output
    pushed.result = .complete →
      CompletedFrame es payload marker timestamp (pushed.output.take pushed.outputSize) :=
  (push_goingOn (session_goingOn d output es) payload marker timestamp).2

/-- A frame in three packets, behind one that was given up and one that a gap has ended. -/
theorem frame_behind_others_is_contiguous :
    let first : ByteSpan :=
      [0, 0, 0, 0, 1, 255, 2, 3, 0, 0, 0, 128] ++ List.replicate 128 1 ++ [0x2A, 0x2B]
    let later (offset : UInt8) : ByteSpan := [0, 0, 0, offset, 1, 255, 2, 3, 0x2C, 0x2D]
    let es : List JpegEvent := [.push first false 3000, .reset, .push first false 6000,
      .push (later 4) true 6000, .hand (List.replicate 2048 0), .push first false 90000,
      .push (later 2) false 90000]
    let s := session {} (List.replicate 1024 0) es
    let pushed := s.depacketizer.push (later 4) true 90000 s.output
    CompletedFrame es (later 4) true 90000 (pushed.output.take pushed.outputSize) := by
  intro first later es s pushed
  exact completed_frames_are_contiguous {} (List.replicate 1024 0) es _ true 90000
    (by decide +kernel)

end JpegReceiver

end EsphomeVoip
