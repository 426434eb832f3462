import EsphomeVoip.ForStd.EventRun
import EsphomeVoip.Video.RtpJpegDepacketizer

/-! # The tables of the dynamic Q values

Between two resets of the session a Q value keeps the table that it has been bound to, and a frame
with such a Q value is put together with that table (`tables_consistent`). -/

namespace EsphomeVoip

/-! ## Runs -/

/-- A depacketizer with the buffer of its caller. -/
structure JpegReceiver where
  depacketizer : RtpJpegDepacketizer
  output : ByteSpan

/-- What may happen between two resets of the session. -/
inductive JpegEvent where
  | push (payload : ByteSpan) (marker : Bool) (timestamp : UInt32)
  /-- The frame is given up. -/
  | reset
  /-- The caller hands over another buffer, while no frame is put together. -/
  | hand (output : ByteSpan)

/-- What an event does. -/
def JpegReceiver.step : JpegEvent → JpegReceiver → JpegReceiver
  | .push payload marker timestamp, s =>
    let pushed := s.depacketizer.push payload marker timestamp s.output
    ⟨pushed.depacketizer, pushed.output⟩
  | .reset, s => ⟨s.depacketizer.reset, s.output⟩
  | .hand output, s => if s.depacketizer.active = true then s else ⟨s.depacketizer, output⟩

/-- The state after some events of a session. -/
def JpegReceiver.session (d : RtpJpegDepacketizer) (output : ByteSpan) (es : List JpegEvent) :
    JpegReceiver :=
  EventRun.after JpegReceiver.step ⟨d.resetSession, output⟩ es

/-! ## The cache -/

namespace QuantizationCache

variable {c : QuantizationCache} {i j : Nat} {quantizers : ByteSpan}

theorem table_le (hi : i < kCachedQualityCount) :
    i * kQuantizationTableBytes + kQuantizationTableBytes ≤ c.storage.length := by
  have hroom : 127 * 128 ≤ c.storage.length := c.room
  have hi : i < 127 := hi
  rw [kQuantizationTableBytes]
  omega

theorem table_write_self (hi : i < kCachedQualityCount)
    (hq : quantizers.length = kQuantizationTableBytes) :
    (c.write i quantizers).table i = quantizers := by
  have hle := c.table_le hi
  rw [table, write, drop_memcpyAt (by omega)]
  exact List.take_left' hq

/-- The other tables are kept. -/
theorem table_write_ne (hi : i < kCachedQualityCount) (hij : j ≠ i)
    (hq : quantizers.length = kQuantizationTableBytes) :
    (c.write i quantizers).table j = c.table j := by
  have hle := c.table_le hi
  rw [table, write, table]
  simp only [kQuantizationTableBytes] at *
  rcases Nat.lt_or_gt_of_ne hij with h | h
  · rw [List.take_drop, List.take_drop, take_memcpyAt (by omega) (by omega)]
  · rw [drop_memcpyAt_behind (by omega) (by omega)]

end QuantizationCache

namespace RtpJpegDepacketizer

variable {d : RtpJpegDepacketizer}

/-- A Q value that may be bound. -/
def IsDynamic (quality : UInt8) : Prop :=
  kFirstCachedQuality ≤ quality ∧ quality ≤ kLastCachedQuality

theorem IsDynamic.index_lt {quality : UInt8} (h : IsDynamic quality) :
    (quality - kFirstCachedQuality).toNat < kCachedQualityCount := by
  obtain ⟨hfirst, hlast⟩ := h
  rw [kFirstCachedQuality] at *
  rw [kLastCachedQuality] at hlast
  have hlast : quality.toNat ≤ 254 := UInt8.le_iff_toNat_le.mp hlast
  rw [UInt8.toNat_sub_of_le _ _ hfirst]
  show quality.toNat - 128 < 127
  have hfirst : 128 ≤ quality.toNat := UInt8.le_iff_toNat_le.mp hfirst
  omega

/-- Different Q values have different tables. -/
theorem IsDynamic.index_ne {q q' : UInt8} (h : q ≠ q') :
    (q - kFirstCachedQuality).toNat ≠ (q' - kFirstCachedQuality).toNat := by
  intro heq
  exact h ((UInt8.sub_left_inj _).mp (UInt8.toNat_inj.mp heq))

theorem find_eq_some {quality : UInt8} {t : ByteSpan} :
    d.findCachedQuantizers quality = some t ↔
      IsDynamic quality ∧ ∃ cache, d.quantizationCache = some cache ∧
        d.cachedQuantizersValid.getD (quality - kFirstCachedQuality).toNat false = true ∧
        cache.table (quality - kFirstCachedQuality).toNat = t := by
  rw [findCachedQuantizers]
  cases hcache : d.quantizationCache with
  | none => exact ⟨fun h => (nomatch h), fun ⟨_, _, h, _⟩ => (nomatch h)⟩
  | some cache =>
    have hdynamic : ¬(quality < kFirstCachedQuality ∨ kLastCachedQuality < quality) ↔
        IsDynamic quality := by
      rw [not_or, UInt8.not_lt, UInt8.not_lt, IsDynamic]
    dsimp only
    split
    · rename_i hout
      exact ⟨fun h => (nomatch h), fun h => absurd hout (hdynamic.mpr h.1)⟩
    · rename_i hin
      split
      · rename_i hbit
        refine ⟨fun h => (nomatch h), ?_⟩
        rintro ⟨-, _, -, h, -⟩
        rw [hbit] at h
        exact nomatch h
      · rename_i hbit
        rw [Bool.not_eq_false] at hbit
        refine ⟨fun h => ⟨hdynamic.mp hin, cache, rfl, hbit, Option.some.inj h⟩, ?_⟩
        rintro ⟨-, cache', hsame, -, h⟩
        obtain rfl := Option.some.inj hsame
        rw [h]

/-- The tables that are bound are ones that a frame may have. -/
structure CacheInv (d : RtpJpegDepacketizer) : Prop where
  bits : d.cachedQuantizersValid.length = kCachedQualityCount
  valid : ∀ q t, d.findCachedQuantizers q = some t → validQuantizers t = true

/-- What is bound stays bound. -/
def Keeps (d d' : RtpJpegDepacketizer) : Prop :=
  ∀ q t, d.findCachedQuantizers q = some t → d'.findCachedQuantizers q = some t

theorem Keeps.refl (d : RtpJpegDepacketizer) : Keeps d d := fun _ _ h => h

theorem Keeps.trans {d d' d'' : RtpJpegDepacketizer} (h : Keeps d d') (h' : Keeps d' d'') :
    Keeps d d'' := fun q t hq => h' q t (h q t hq)

theorem length_of_valid {t : ByteSpan} (h : validQuantizers t = true) :
    t.length = kQuantizationTableBytes := by
  rw [validQuantizers, Bool.and_eq_true, beq_iff_eq] at h
  exact h.1

/-- A Q value that has no table yet is bound to one. -/
theorem find_bound {cache : QuantizationCache} {quality : UInt8} {t : ByteSpan}
    (hcache : d.quantizationCache = some cache)
    (hbits : d.cachedQuantizersValid.length = kCachedQualityCount)
    (hquality : IsDynamic quality) (ht : t.length = kQuantizationTableBytes) (q : UInt8) :
    ({ d with
        quantizationCache := some (cache.write (quality - kFirstCachedQuality).toNat t)
        cachedQuantizersValid :=
          d.cachedQuantizersValid.set (quality - kFirstCachedQuality).toNat true } :
      RtpJpegDepacketizer).findCachedQuantizers q =
      if q = quality then some t else d.findCachedQuantizers q := by
  have hindex := hquality.index_lt
  by_cases hq : q = quality
  · subst hq
    rw [if_pos rfl, find_eq_some]
    refine ⟨hquality, _, rfl, ?_, QuantizationCache.table_write_self hindex ht⟩
    rw [List.getD_eq_getElem?_getD, List.getElem?_set_self (by omega), Option.getD_some]
  · rw [if_neg hq]
    have hne := IsDynamic.index_ne (show q ≠ quality from hq)
    apply Option.ext
    intro u
    rw [find_eq_some, find_eq_some]
    refine and_congr_right fun _ => ?_
    constructor
    · rintro ⟨_, hsame, hbit, rfl⟩
      obtain rfl := Option.some.inj hsame
      rw [List.getD_eq_getElem?_getD, List.getElem?_set_ne hne.symm,
        ← List.getD_eq_getElem?_getD] at hbit
      exact ⟨cache, hcache, hbit, (QuantizationCache.table_write_ne hindex hne ht).symm⟩
    · rintro ⟨_, hcache', hbit, rfl⟩
      obtain rfl := Option.some.inj (hcache.symm.trans hcache')
      refine ⟨_, rfl, ?_, QuantizationCache.table_write_ne hindex hne ht⟩
      rw [List.getD_eq_getElem?_getD, List.getElem?_set_ne hne.symm, ← List.getD_eq_getElem?_getD]
      exact hbit

/-- What is cached is bound, or was bound to the same table before. -/
theorem cacheOrValidateQuantizers_spec {quality : UInt8} {quantizers : ByteSpan} (h : CacheInv d)
    (hvalid : validQuantizers quantizers = true) {ok : Bool} {d' : RtpJpegDepacketizer}
    (hresult : d.cacheOrValidateQuantizers quality quantizers = (ok, d')) :
    CacheInv d' ∧ Keeps d d' ∧
      (ok = true → d'.findCachedQuantizers quality = some quantizers) := by
  have hlen := length_of_valid hvalid
  rw [cacheOrValidateQuantizers] at hresult
  cases hcache : d.quantizationCache with
  | none =>
    rw [hcache] at hresult
    cases hresult
    exact ⟨h, .refl d, fun hok => nomatch hok⟩
  | some cache =>
    rw [hcache] at hresult
    dsimp only at hresult
    split at hresult
    · cases hresult
      exact ⟨h, .refl d, fun hok => nomatch hok⟩
    · rename_i hin
      have hquality : IsDynamic quality := by
        rw [not_or, UInt8.not_lt, UInt8.not_lt] at hin
        exact hin
      rw [List.take_of_length_le (Nat.le_of_eq hlen)] at hresult
      split at hresult
      · -- The Q value is bound already, and the tables are compared.
        rename_i hbit
        injection hresult with hok hd
        subst hd
        refine ⟨h, .refl d, fun htrue => ?_⟩
        rw [htrue, beq_iff_eq] at hok
        exact find_eq_some.mpr ⟨hquality, cache, hcache, hbit, hok⟩
      · -- It is free, and is bound to these tables.
        rename_i hbit
        injection hresult with hok hd
        subst hd
        have hfind := find_bound hcache h.bits hquality hlen
        have hfree : ∀ t, d.findCachedQuantizers quality ≠ some t := by
          intro t ht
          obtain ⟨-, _, -, hset, -⟩ := find_eq_some.mp ht
          exact hbit hset
        refine ⟨⟨by rw [List.length_set, h.bits], fun q t ht => ?_⟩, fun q t ht => ?_, fun _ => ?_⟩
        · rw [hfind q] at ht
          split at ht
          · rw [← Option.some.inj ht]
            exact hvalid
          · exact h.valid q t ht
        · have hne : q ≠ quality := by
            rintro rfl
            exact hfree t ht
          rw [hfind q, if_neg hne, ht]
        · rw [hfind quality, if_pos rfl]

/-- A table is the one that its Q value is bound to, if it may be bound. -/
def IsBound (d : RtpJpegDepacketizer) (quality : UInt8) (quantizers : ByteSpan) : Prop :=
  IsDynamic quality → d.findCachedQuantizers quality = some quantizers

/-- The table of a new frame is the one that its Q value is bound to. -/
theorem frameQuantizers_spec (h : CacheInv d) (payload : ByteSpan) (f : RtpJpegFragment)
    {found : Option (ByteSpan × Nat)} {d' : RtpJpegDepacketizer}
    (hresult : d.frameQuantizers payload f = (found, d')) :
    CacheInv d' ∧ Keeps d d' ∧ ∀ new, found = some new → IsBound d' f.quality new.1 := by
  have hnothing : CacheInv d ∧ Keeps d d ∧ ∀ new : ByteSpan × Nat, none = some new →
      IsBound d f.quality new.1 := ⟨h, .refl d, fun _ hnone => nomatch hnone⟩
  -- 255 and the static values have no binding
  have hother : ¬IsDynamic f.quality → ∀ found : Option (ByteSpan × Nat),
      CacheInv d ∧ Keeps d d ∧ ∀ new, found = some new → IsBound d f.quality new.1 :=
    fun hnot _ => ⟨h, .refl d, fun _ _ hdynamic => absurd hdynamic hnot⟩
  have h255 : f.quality = 255 → ¬IsDynamic f.quality := by
    rintro h255 ⟨-, hlast⟩
    rw [h255] at hlast
    exact absurd hlast (by decide)
  rw [frameQuantizers] at hresult
  split at hresult
  · split at hresult
    · cases hresult
      exact hnothing
    · dsimp only at hresult
      split at hresult
      · split at hresult
        · cases hresult
          exact hnothing
        · rename_i bound hbound
          split at hresult
          · cases hresult
            exact hnothing
          · cases hresult
            refine ⟨h, .refl d, fun new hsome _ => ?_⟩
            obtain rfl := Option.some.inj hsome
            exact hbound
      · split at hresult
        · cases hresult
          exact hnothing
        · generalize (if (readBe16 payload (f.cursor + 2)).toNat = 64 then
              (payload.drop (f.cursor + 4)).take (readBe16 payload (f.cursor + 2)).toNat ++
                (payload.drop (f.cursor + 4)).take (readBe16 payload (f.cursor + 2)).toNat
            else (payload.drop (f.cursor + 4)).take (readBe16 payload (f.cursor + 2)).toNat) =
              quantizers at hresult
          split at hresult
          · cases hresult
            exact hnothing
          · rename_i hvalid
            rw [Bool.not_eq_false] at hvalid
            split at hresult
            · rename_i hunbound
              cases hresult
              exact hother (h255 hunbound) _
            · split at hresult
              · rename_i cached hcached
                cases hresult
                obtain ⟨hinv, hkeeps, -⟩ := cacheOrValidateQuantizers_spec h hvalid hcached
                exact ⟨hinv, hkeeps, fun _ hnone => nomatch hnone⟩
              · rename_i cached hcached
                cases hresult
                obtain ⟨hinv, hkeeps, hfind⟩ := cacheOrValidateQuantizers_spec h hvalid hcached
                refine ⟨hinv, hkeeps, fun new hsome _ => ?_⟩
                obtain rfl := Option.some.inj hsome
                exact hfind rfl
  · rename_i hstatic
    have hnot : ¬IsDynamic f.quality := fun hdynamic => hstatic hdynamic.1
    split at hresult
    · cases hresult
      exact hnothing
    · cases hresult
      exact hother hnot _

/-! ## Frames -/

/-- While a frame is put together, its header is in the buffer, with the table that the Q value is
bound to. -/
structure FrameInv (d : RtpJpegDepacketizer) (output : ByteSpan) (type : UInt8)
    (quantizers : ByteSpan) : Prop where
  typeLe : type ≤ 1
  typeEq : d.type = type ||| (if d.restartInterval ≠ 0 then 0x40 else 0)
  bound : IsBound d d.quality quantizers
  fits : d.headerSize + d.scanSize ≤ output.length
  header : output.take d.headerSize =
    interchangeHeader type d.widthBlocks d.heightBlocks quantizers d.restartInterval

/-- The tables and the frame. -/
structure Inv (d : RtpJpegDepacketizer) (output : ByteSpan) : Prop where
  cache : CacheInv d
  frame : d.active = true → ∃ type quantizers, FrameInv d output type quantizers

theorem inv_of_idle (h : CacheInv d) (hidle : d.active = false) (output : ByteSpan) :
    Inv d output :=
  ⟨h, fun hactive => Bool.noConfusion (hidle.symm.trans hactive)⟩

theorem inv_reset (h : CacheInv d) (output : ByteSpan) : Inv d.reset output :=
  inv_of_idle (d := d.reset) ⟨h.bits, h.valid⟩ rfl output

/-- What is written when a fragment is the last one. -/
theorem take_completed {output fragment : ByteSpan} {header scan : Nat}
    (h : header + scan + fragment.length + 2 ≤ output.length) :
    ∃ all, (memcpyAt (memcpyAt output (header + scan) fragment) (header + (scan + fragment.length))
        [0xFF, 0xD9]).take (header + (scan + fragment.length) + 2) =
      output.take header ++ all ++ [0xFF, 0xD9] := by
  have hlen : (memcpyAt output (header + scan) fragment).length = output.length :=
    length_memcpyAt (by omega)
  refine ⟨(output.drop header).take scan ++ fragment, ?_⟩
  calc (memcpyAt (memcpyAt output (header + scan) fragment) (header + (scan + fragment.length))
          [0xFF, 0xD9]).take (header + (scan + fragment.length) + 2)
      = (memcpyAt output (header + scan) fragment).take (header + (scan + fragment.length)) ++
          [0xFF, 0xD9] := take_memcpyAt_through (by omega) [0xFF, 0xD9]
    _ = output.take (header + scan) ++ fragment ++ [0xFF, 0xD9] := by
        rw [← Nat.add_assoc, take_memcpyAt_through (by omega)]
    _ = output.take header ++ ((output.drop header).take scan ++ fragment) ++ [0xFF, 0xD9] := by
        simp only [List.take_add, List.append_assoc]

/-- A fragment behind the ones that are there keeps the header, and completes it with a scan. -/
theorem appendFragment_spec {output : ByteSpan} {type : UInt8} {quantizers : ByteSpan}
    (h : CacheInv d) (hframe : FrameInv d output type quantizers) (fragmentOffset : UInt32)
    (fragment : ByteSpan) (marker : Bool) :
    let pushed := d.appendFragment fragmentOffset fragment marker output
    Inv pushed.depacketizer pushed.output ∧ Keeps d pushed.depacketizer ∧
      (pushed.result = .complete → ∃ scan, pushed.output.take pushed.outputSize =
        interchangeHeader type d.widthBlocks d.heightBlocks quantizers d.restartInterval ++ scan ++
          [0xFF, 0xD9]) := by
  dsimp only
  rw [appendFragment]
  split
  · exact ⟨inv_reset h output, .refl d, fun hresult => nomatch hresult⟩
  · rename_i hfits
    simp only [not_or, Nat.not_lt] at hfits
    have hroom := hfits.2.2.2
    dsimp only
    split
    · have hlen : (memcpyAt output (d.headerSize + d.scanSize) fragment).length = output.length :=
        length_memcpyAt (by omega)
      refine ⟨⟨⟨h.bits, h.valid⟩, fun _ => ⟨type, quantizers, ?_⟩⟩, .refl d,
        fun hresult => nomatch hresult⟩
      refine ⟨hframe.typeLe, hframe.typeEq, hframe.bound, ?_, ?_⟩
      · show d.headerSize + (d.scanSize + fragment.length) ≤
          (memcpyAt output (d.headerSize + d.scanSize) fragment).length
        omega
      · rw [← hframe.header]
        exact take_memcpyAt (Nat.le_add_right _ _) hframe.fits fragment
    · refine ⟨inv_reset h _, .refl d, fun _ => ?_⟩
      rw [← hframe.header]
      exact take_completed hroom

/-- A new frame begins with its header. -/
theorem startFrame_spec {f : RtpJpegFragment} {quantizers output output' : ByteSpan}
    {timestamp : UInt32} {ok : Bool} {d' : RtpJpegDepacketizer}
    (hbound : IsBound d f.quality quantizers)
    (hresult : d.startFrame f quantizers timestamp output = (ok, output', d')) :
    (ok = false ∧ d' = d) ∨
    ok = true ∧ FrameInv d' output' f.type quantizers ∧
      d'.findCachedQuantizers = d.findCachedQuantizers ∧
      d'.cachedQuantizersValid = d.cachedQuantizersValid ∧ d'.quality = f.quality ∧
      d'.widthBlocks = f.widthBlocks ∧ d'.heightBlocks = f.heightBlocks ∧
      d'.restartInterval = f.restartInterval := by
  rw [startFrame] at hresult
  split at hresult
  · cases hresult
    exact .inl ⟨rfl, rfl⟩
  · rename_i hargs
    simp only [not_or] at hargs
    split at hresult
    · cases hresult
      exact .inl ⟨rfl, rfl⟩
    · rename_i headerSize written hheader
      cases hresult
      obtain ⟨hlength, hle, htake⟩ := writeInterchangeHeader_some hheader
      refine .inr ⟨rfl, ⟨UInt8.not_lt.mp hargs.2.1, rfl, hbound, ?_, htake⟩, rfl, rfl,
        rfl, rfl, rfl,
        rfl⟩
      rw [hlength]
      exact hle

/-- The type of a packet that goes on with a frame. -/
theorem type_of_fragment {payload : ByteSpan} {f : RtpJpegFragment}
    (h : readRtpJpegFragment payload = some f) {type : UInt8} {restart : UInt16} (htype : type ≤ 1)
    (hraw : type ||| (if restart ≠ 0 then 0x40 else 0) = f.typeRaw) : f.type = type := by
  have hread : f.type = if f.typeRaw &&& 0x40 ≠ 0 then f.typeRaw &&& 0xBF else f.typeRaw := by
    simp only [readRtpJpegFragment, Option.ite_none_left_eq_some, Option.some.injEq] at h
    obtain ⟨-, -, -, rfl⟩ := h
    rfl
  have hcases : type = 0 ∨ type = 1 := by
    have hle : type.toNat ≤ 1 := UInt8.le_iff_toNat_le.mp htype
    rcases Nat.lt_or_ge type.toNat 1 with hlt | hge
    · exact .inl (UInt8.toNat_inj.mp (show type.toNat = 0 by omega))
    · exact .inr (UInt8.toNat_inj.mp (show type.toNat = 1 by omega))
  rw [hread, ← hraw]
  by_cases hrestart : restart ≠ 0
  · rw [if_pos hrestart]
    rcases hcases with rfl | rfl <;> rfl
  · rw [if_neg hrestart]
    rcases hcases with rfl | rfl <;> rfl

/-- **One packet** keeps the tables that are bound, and a frame that it completes has been put
together with the table of its Q value. -/
theorem push_spec {output : ByteSpan} (h : Inv d output) (payload : ByteSpan) (marker : Bool)
    (timestamp : UInt32) :
    let pushed := d.push payload marker timestamp output
    Inv pushed.depacketizer pushed.output ∧ Keeps d pushed.depacketizer ∧
      (pushed.result = .complete → ∃ f quantizers scan, readRtpJpegFragment payload = some f ∧
        IsBound pushed.depacketizer f.quality quantizers ∧
        pushed.output.take pushed.outputSize =
          interchangeHeader f.type f.widthBlocks f.heightBlocks quantizers f.restartInterval ++
            scan ++ [0xFF, 0xD9]) := by
  -- Whatever drops the packet resets the frame and keeps the cache.
  have hdropped : ∀ {d' : RtpJpegDepacketizer} (out : ByteSpan), CacheInv d' → Keeps d d' →
      Inv (d'.drop out).depacketizer (d'.drop out).output ∧ Keeps d (d'.drop out).depacketizer :=
    fun out hcache hkeeps => ⟨inv_reset hcache out, hkeeps⟩
  dsimp only
  rw [push]
  split
  · have hdrop := hdropped output h.cache (.refl d)
    exact ⟨hdrop.1, hdrop.2, fun hresult => nomatch hresult⟩
  · rename_i f hread
    split
    · split
      · rename_i d' hquantizers
        obtain ⟨hcache, hkeeps, -⟩ := frameQuantizers_spec h.cache payload f hquantizers
        have hdrop := hdropped output hcache hkeeps
        exact ⟨hdrop.1, hdrop.2, fun hresult => nomatch hresult⟩
      · -- A first fragment starts a frame with its tables.
        rename_i quantizers cursor d' hquantizers
        obtain ⟨hcache, hkeeps, hbound⟩ := frameQuantizers_spec h.cache payload f hquantizers
        have hnew : IsBound d'.reset f.quality quantizers := hbound _ rfl
        split
        · rename_i out d'' hstart
          rcases startFrame_spec hnew hstart with ⟨-, rfl⟩ | ⟨hok, -⟩
          · exact ⟨inv_reset hcache out, hkeeps, fun hresult => nomatch hresult⟩
          · exact nomatch hok
        · rename_i out d'' hstart
          rcases startFrame_spec hnew hstart with
            ⟨hok, -⟩ | ⟨-, hframe, hfind, hvalid, hquality, hwidth, hheight, hrestart⟩
          · exact nomatch hok
          · have hcache'' : CacheInv d'' := by
              refine ⟨hvalid ▸ hcache.bits, fun q t ht => hcache.valid q t ?_⟩
              rw [hfind] at ht
              exact ht
            have hkeeps'' : Keeps d d'' := fun q t ht => by
              rw [hfind]
              exact hkeeps q t ht
            obtain ⟨hinv, hkept, hcomplete⟩ := appendFragment_spec hcache'' hframe
              f.fragmentOffset (payload.drop cursor) marker
            refine ⟨hinv, hkeeps''.trans hkept, fun hresult => ?_⟩
            obtain ⟨scan, hscan⟩ := hcomplete hresult
            rw [hwidth, hheight, hrestart] at hscan
            refine ⟨f, quantizers, scan, hread, fun hdynamic => hkept _ _ ?_, hscan⟩
            exact hquality ▸ hframe.bound (hquality.symm ▸ hdynamic)
    · split
      · have hdrop := hdropped output h.cache (.refl d)
        exact ⟨hdrop.1, hdrop.2, fun hresult => nomatch hresult⟩
      · -- A later fragment has the parameters of the frame, and so its Q value.
        rename_i hsame
        simp only [differs, not_or, Bool.not_eq_false, Decidable.not_not] at hsame
        obtain ⟨hactive, -, -, htype, hquality, hwidth, hheight, hrestart, -⟩ := hsame
        obtain ⟨type, quantizers, hframe⟩ := h.frame hactive
        obtain ⟨hinv, hkept, hcomplete⟩ := appendFragment_spec h.cache hframe f.fragmentOffset
          (payload.drop f.cursor) marker
        refine ⟨hinv, hkept, fun hresult => ?_⟩
        obtain ⟨scan, hscan⟩ := hcomplete hresult
        have hsameType := type_of_fragment hread hframe.typeLe (hframe.typeEq.symm.trans htype)
        rw [hwidth, hheight, hrestart, ← hsameType] at hscan
        refine ⟨f, quantizers, scan, hread, fun hdynamic => hkept _ _ ?_, hscan⟩
        exact hquality ▸ hframe.bound (hquality.symm ▸ hdynamic)

theorem quality_of_fragment {payload : ByteSpan} {f : RtpJpegFragment}
    (h : readRtpJpegFragment payload = some f) : f.quality = byteAt payload 5 := by
  simp only [readRtpJpegFragment, Option.ite_none_left_eq_some, Option.some.injEq] at h
  obtain ⟨-, -, -, rfl⟩ := h
  rfl

theorem resetSession_inv (d : RtpJpegDepacketizer) (output : ByteSpan) :
    Inv d.resetSession output := by
  refine inv_of_idle (d := d.resetSession) ⟨List.length_replicate, fun q t ht => ?_⟩ rfl output
  obtain ⟨hdynamic, _, -, hbit, -⟩ := find_eq_some.mp ht
  rw [resetSession, List.getD_eq_getElem?_getD,
    List.getElem?_replicate_of_lt hdynamic.index_lt, Option.getD_some] at hbit
  exact nomatch hbit

end RtpJpegDepacketizer

/-! ## Sessions -/

namespace JpegReceiver

open RtpJpegDepacketizer (IsDynamic Inv Keeps)

variable {s : JpegReceiver}

/-- **One event** keeps the invariant and the tables that are bound. -/
theorem step_spec (h : Inv s.depacketizer s.output) (e : JpegEvent) :
    Inv (s.step e).depacketizer (s.step e).output ∧
      Keeps s.depacketizer (s.step e).depacketizer := by
  cases e with
  | push payload marker timestamp =>
    obtain ⟨hinv, hkeeps, -⟩ := RtpJpegDepacketizer.push_spec h payload marker timestamp
    exact ⟨hinv, hkeeps⟩
  | reset => exact ⟨RtpJpegDepacketizer.inv_reset h.cache s.output, .refl s.depacketizer⟩
  | hand output =>
    rw [step]
    split
    · exact ⟨h, .refl s.depacketizer⟩
    · rename_i hidle
      rw [Bool.not_eq_true] at hidle
      exact ⟨RtpJpegDepacketizer.inv_of_idle h.cache hidle output, .refl s.depacketizer⟩

/-- What is bound at some point of a run is bound at its end. -/
theorem after_keeps (h : Inv s.depacketizer s.output) (es : List JpegEvent) :
    Keeps s.depacketizer (EventRun.after step s es).depacketizer := by
  induction es generalizing s with
  | nil => exact .refl s.depacketizer
  | cons e es ih =>
    obtain ⟨hinv, hkeeps⟩ := step_spec h e
    exact hkeeps.trans (ih hinv)

theorem session_inv (d : RtpJpegDepacketizer) (output : ByteSpan) (es : List JpegEvent) :
    Inv (session d output es).depacketizer (session d output es).output := by
  have hstep : ∀ e s, Inv s.depacketizer s.output →
      Inv (step e s).depacketizer (step e s).output := fun e _ hs => (step_spec hs e).1
  exact EventRun.invariant_of_step step hstep (RtpJpegDepacketizer.resetSession_inv d output) es

/-- A table is one for a frame. -/
theorem of_valid {t : ByteSpan} (h : validQuantizers t = true) :
    t.length = 128 ∧ ∀ x ∈ t, x ≠ 0 := by
  rw [validQuantizers, Bool.and_eq_true, beq_iff_eq, List.all_eq_true] at h
  exact ⟨h.1, fun x hx => by simpa using h.2 x hx⟩

/-- `table` says what the Q values are bound to, in all of a session. -/
structure BoundTo (d : RtpJpegDepacketizer) (output : ByteSpan) (es : List JpegEvent)
    (table : UInt8 → Option ByteSpan) : Prop where
  /-- Only dynamic values are bound, and no entry of a table is a zero. -/
  valid : ∀ q t, table q = some t → IsDynamic q ∧ t.length = 128 ∧ ∀ x ∈ t, x ≠ 0
  /-- What is bound at some point of the session is bound to its table. -/
  bound : ∀ before after q t, es = before ++ after →
    (session d output before).depacketizer.findCachedQuantizers q = some t → table q = some t
  /-- A frame that is complete has a table, and is put together with it. -/
  complete : ∀ before payload marker timestamp after,
    es = before ++ .push payload marker timestamp :: after →
    let s := session d output before
    let pushed := s.depacketizer.push payload marker timestamp s.output
    pushed.result = .complete → IsDynamic (byteAt payload 5) →
      ∃ f quantizers scan, readRtpJpegFragment payload = some f ∧
        pushed.depacketizer.findCachedQuantizers (byteAt payload 5) = some quantizers ∧
        table (byteAt payload 5) = some quantizers ∧
        pushed.output.take pushed.outputSize =
          interchangeHeader f.type f.widthBlocks f.heightBlocks quantizers f.restartInterval ++
            scan ++ [0xFF, 0xD9]

/-- **Each Q value has one table in a session**, and the frames with this value are put together
with it. -/
theorem tables_consistent (d : RtpJpegDepacketizer) (output : ByteSpan) (es : List JpegEvent) :
    ∃ table, BoundTo d output es table := by
  refine ⟨(session d output es).depacketizer.findCachedQuantizers, ?_, ?_, ?_⟩
  · intro q t ht
    obtain ⟨hdynamic, -⟩ := RtpJpegDepacketizer.find_eq_some.mp ht
    exact ⟨hdynamic, of_valid ((session_inv d output es).cache.valid q t ht)⟩
  · rintro before after q t rfl ht
    rw [session, EventRun.after_append]
    exact after_keeps (session_inv d output before) after q t ht
  · rintro before payload marker timestamp after rfl
    intro s pushed hresult hdynamic
    have hinv := session_inv d output before
    obtain ⟨hnext, -, hcomplete⟩ :=
      RtpJpegDepacketizer.push_spec hinv payload marker timestamp
    obtain ⟨f, quantizers, scan, hread, hbound, hscan⟩ := hcomplete hresult
    rw [RtpJpegDepacketizer.quality_of_fragment hread] at hbound
    have hnow := hbound hdynamic
    refine ⟨f, quantizers, scan, hread, hnow, ?_, hscan⟩
    rw [session, EventRun.after_append, EventRun.after_cons]
    exact after_keeps (s := ⟨pushed.depacketizer, pushed.output⟩) hnext after _ _ hnow

end JpegReceiver

end EsphomeVoip
