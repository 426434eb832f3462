import EsphomeVoip.Video.RtpJpeg

/-! # The RTP/JPEG depacketizer (`RtpJpegDepacketizer` of `rtp_jpeg.cpp`)

Frames are put together in a buffer of the caller, which `output` is here from one call to the next;
the tables of the dynamic Q values are kept in storage that also belongs to the caller. -/

namespace EsphomeVoip

/-! ## The quantization cache -/

def kFirstCachedQuality : UInt8 := 128
def kLastCachedQuality : UInt8 := 254
def kQuantizationTableBytes : Nat := 128

/-- `kCachedQualityCount`. -/
def kCachedQualityCount : Nat := kLastCachedQuality.toNat - kFirstCachedQuality.toNat + 1

/-- `kQuantizationCacheBytes`. -/
def kQuantizationCacheBytes : Nat := kCachedQualityCount * kQuantizationTableBytes

/-- `quantization_cache_`: storage that is large enough, as `set_quantization_cache` checks. -/
structure QuantizationCache where
  storage : ByteSpan
  room : kQuantizationCacheBytes ≤ storage.length
  deriving DecidableEq

/-- The table of a Q value. -/
def QuantizationCache.table (c : QuantizationCache) (index : Nat) : ByteSpan :=
  (c.storage.drop (index * kQuantizationTableBytes)).take kQuantizationTableBytes

/-- `memcpy` into the table of a Q value. -/
def QuantizationCache.write (c : QuantizationCache) (index : Nat) (quantizers : ByteSpan) :
    QuantizationCache where
  storage := memcpyAt c.storage (index * kQuantizationTableBytes) quantizers
  room := Nat.le_trans c.room (length_le_memcpyAt _ _ _)

/-! ## The depacketizer -/

/-- `RtpJpegDepacketizer`.  A bit of `cached_quantizers_valid_` is an element of the list. -/
structure RtpJpegDepacketizer where
  active : Bool := false
  timestamp : UInt32 := 0
  typeSpecific : UInt8 := 0
  type : UInt8 := 0
  quality : UInt8 := 0
  widthBlocks : UInt8 := 0
  heightBlocks : UInt8 := 0
  restartInterval : UInt16 := 0
  headerSize : Nat := 0
  scanSize : Nat := 0
  quantizationCache : Option QuantizationCache := none
  cachedQuantizersValid : List Bool := List.replicate kCachedQualityCount false
  deriving DecidableEq

inductive RtpJpegPushResult where
  | incomplete
  | complete
  | dropped
  deriving DecidableEq, Repr

/-- What `push` has read before it looks at the tables. -/
structure RtpJpegFragment where
  typeSpecific : UInt8
  fragmentOffset : UInt32
  typeRaw : UInt8
  type : UInt8
  quality : UInt8
  widthBlocks : UInt8
  heightBlocks : UInt8
  restartInterval : UInt16
  cursor : Nat
  deriving DecidableEq, Repr

/-- The main header and the restart header, up to the first check that drops the packet. -/
def readRtpJpegFragment (payload : ByteSpan) : Option RtpJpegFragment :=
  if payload.length < 8 then none
  else
    let typeRaw := byteAt payload 4
    let restart := typeRaw &&& 0x40 ≠ 0
    if restart ∧ (payload.length < 12 ∨ readBe16 payload 8 = 0) then none
    else
      let fragment : RtpJpegFragment :=
        { typeSpecific := byteAt payload 0
          fragmentOffset := ((byteAt payload 1).toUInt32 <<< 16) |||
            ((byteAt payload 2).toUInt32 <<< 8) ||| (byteAt payload 3).toUInt32
          typeRaw
          type := if restart then typeRaw &&& 0xBF else typeRaw
          quality := byteAt payload 5
          widthBlocks := byteAt payload 6
          heightBlocks := byteAt payload 7
          restartInterval := if restart then readBe16 payload 8 else 0
          cursor := if restart then 12 else 8 }
      if 1 < fragment.type ∨ fragment.typeSpecific ≠ 0 ∨ fragment.widthBlocks = 0 ∨
          fragment.heightBlocks = 0 then none
      else some fragment

namespace RtpJpegDepacketizer

/-- `reset`. -/
def reset (d : RtpJpegDepacketizer) : RtpJpegDepacketizer :=
  { d with
    active := false, timestamp := 0, typeSpecific := 0, type := 0, quality := 0, widthBlocks := 0
    heightBlocks := 0, restartInterval := 0, headerSize := 0, scanSize := 0 }

/-- `reset_session`. -/
def resetSession (d : RtpJpegDepacketizer) : RtpJpegDepacketizer :=
  { d.reset with cachedQuantizersValid := List.replicate kCachedQualityCount false }

/-- `find_cached_quantizers_`. -/
def findCachedQuantizers (d : RtpJpegDepacketizer) (quality : UInt8) : Option ByteSpan :=
  match d.quantizationCache with
  | none => none
  | some cache =>
    if quality < kFirstCachedQuality ∨ kLastCachedQuality < quality then none
    else
      let index := (quality - kFirstCachedQuality).toNat
      if d.cachedQuantizersValid.getD index false = false then none else some (cache.table index)

/-- `cache_or_validate_quantizers_`. -/
def cacheOrValidateQuantizers (d : RtpJpegDepacketizer) (quality : UInt8) (quantizers : ByteSpan) :
    Bool × RtpJpegDepacketizer :=
  match d.quantizationCache with
  | none => (false, d)
  | some cache =>
    if quality < kFirstCachedQuality ∨ kLastCachedQuality < quality then (false, d)
    else
      let index := (quality - kFirstCachedQuality).toNat
      if d.cachedQuantizersValid.getD index false = true then
        (cache.table index == quantizers.take kQuantizationTableBytes, d)
      else
        (true, { d with
          quantizationCache := some (cache.write index (quantizers.take kQuantizationTableBytes))
          cachedQuantizersValid := d.cachedQuantizersValid.set index true })

/-- The quantizers of a new frame, and where its scan begins in the packet; nothing where the packet
is dropped. -/
def frameQuantizers (d : RtpJpegDepacketizer) (payload : ByteSpan) (f : RtpJpegFragment) :
    Option (ByteSpan × Nat) × RtpJpegDepacketizer :=
  if 128 ≤ f.quality then
    if payload.length < f.cursor + 4 ∨ byteAt payload f.cursor ≠ 0 ∨
        byteAt payload (f.cursor + 1) ≠ 0 then (none, d)
    else
      let quantizerSize := (readBe16 payload (f.cursor + 2)).toNat
      let cursor := f.cursor + 4
      if quantizerSize = 0 then
        match d.findCachedQuantizers f.quality with
        | none => (none, d)
        | some quantizers => if f.quality = 255 then (none, d) else (some (quantizers, cursor), d)
      else if (quantizerSize ≠ 64 ∧ quantizerSize ≠ kQuantizationTableBytes) ∨
          payload.length < cursor + quantizerSize then (none, d)
      else
        let wire := (payload.drop cursor).take quantizerSize
        let quantizers := if quantizerSize = 64 then wire ++ wire else wire
        if validQuantizers quantizers = false then (none, d)
        else if f.quality = 255 then (some (quantizers, cursor + quantizerSize), d)
        else
          match d.cacheOrValidateQuantizers f.quality quantizers with
          | (false, d) => (none, d)
          | (true, d) => (some (quantizers, cursor + quantizerSize), d)
  else if f.quality = 0 ∨ 99 < f.quality then (none, d)
  else (some (makeQuantizers f.quality, f.cursor), d)

/-- `start_frame_`, whose checks of its arguments `push` has made before. -/
def startFrame (d : RtpJpegDepacketizer) (f : RtpJpegFragment) (quantizers : ByteSpan)
    (timestamp : UInt32) (output : ByteSpan) : Bool × ByteSpan × RtpJpegDepacketizer :=
  if f.typeSpecific ≠ 0 ∨ 1 < f.type ∨ f.widthBlocks = 0 ∨ f.heightBlocks = 0 ∨
      quantizers.length ≠ 128 then (false, output, d)
  else
    match writeInterchangeHeader f.type f.widthBlocks f.heightBlocks quantizers f.restartInterval
        output with
    | (none, output) => (false, output, d)
    | (some headerSize, output) =>
      (true, output,
        { d with
          active := true, timestamp, typeSpecific := f.typeSpecific
          type := f.type ||| (if f.restartInterval ≠ 0 then 0x40 else 0)
          quality := f.quality, widthBlocks := f.widthBlocks, heightBlocks := f.heightBlocks
          restartInterval := f.restartInterval, headerSize, scanSize := 0 })

/-- What `push` leaves behind. -/
structure Pushed where
  result : RtpJpegPushResult
  outputSize : Nat := 0
  output : ByteSpan
  depacketizer : RtpJpegDepacketizer

/-- A packet that is dropped ends the frame. -/
def drop (d : RtpJpegDepacketizer) (output : ByteSpan) : Pushed :=
  { result := .dropped, output, depacketizer := d.reset }

/-- The fragment of a packet is copied behind what is there already. -/
def appendFragment (d : RtpJpegDepacketizer) (fragmentOffset : UInt32) (fragment : ByteSpan)
    (marker : Bool) (output : ByteSpan) : Pushed :=
  if d.active = false ∨ fragmentOffset.toNat ≠ d.scanSize ∨ fragment = [] ∨
      output.length < d.headerSize + d.scanSize + fragment.length + 2 then d.drop output
  else
    let output := memcpyAt output (d.headerSize + d.scanSize) fragment
    let scanSize := d.scanSize + fragment.length
    if marker = false then
      { result := .incomplete, output, depacketizer := { d with scanSize } }
    else
      { result := .complete
        outputSize := d.headerSize + scanSize + 2
        output := memcpyAt output (d.headerSize + scanSize) [0xFF, 0xD9]
        depacketizer := d.reset }

/-- The packet does not go on with the frame. -/
def differs (d : RtpJpegDepacketizer) (f : RtpJpegFragment) (timestamp : UInt32) : Prop :=
  d.active = false ∨ d.timestamp ≠ timestamp ∨ d.typeSpecific ≠ f.typeSpecific ∨
    d.type ≠ f.typeRaw ∨ d.quality ≠ f.quality ∨ d.widthBlocks ≠ f.widthBlocks ∨
    d.heightBlocks ≠ f.heightBlocks ∨ d.restartInterval ≠ f.restartInterval ∨
    f.fragmentOffset.toNat ≠ d.scanSize

instance (d : RtpJpegDepacketizer) (f : RtpJpegFragment) (timestamp : UInt32) :
    Decidable (d.differs f timestamp) := inferInstanceAs (Decidable (_ ∨ _))

/-- `push`. -/
def push (d : RtpJpegDepacketizer) (payload : ByteSpan) (marker : Bool) (timestamp : UInt32)
    (output : ByteSpan) : Pushed :=
  match readRtpJpegFragment payload with
  | none => d.drop output
  | some f =>
    if f.fragmentOffset = 0 then
      match d.frameQuantizers payload f with
      | (none, d) => d.drop output
      | (some (quantizers, cursor), d) =>
        match d.reset.startFrame f quantizers timestamp output with
        | (false, output, d) => { result := .dropped, output, depacketizer := d }
        | (true, output, d) =>
          d.appendFragment f.fragmentOffset (payload.drop cursor) marker output
    else if d.differs f timestamp then d.drop output
    else d.appendFragment f.fragmentOffset (payload.drop f.cursor) marker output

end RtpJpegDepacketizer

end EsphomeVoip
