import EsphomeVoip.Video.Rtcp

/-! # Every NAL unit of a buffer

`nalUnits` cuts any buffer at its start codes.  A loop over `next_annex_b_nal` is compared with it:
the loop stops at an empty unit, and a short start code at the very end of the buffer is taken for
bytes of the unit before it.  `enumerates_iff` says for which buffers neither matters. -/

namespace EsphomeVoip

/-! ## The units of a buffer -/

/-- Bytes without the zeros at their end. -/
def trimZeros : ByteSpan → ByteSpan
  | [] => []
  | b :: rest => if b = 0 ∧ trimZeros rest = [] then [] else b :: trimZeros rest

/-- What is before the first start code, and the pieces behind each one.  The first zero of a long
start code is at the end of the piece before. -/
def codePieces : ByteSpan → ByteSpan × List ByteSpan
  | [] => ([], [])
  | 0 :: 0 :: 1 :: rest => ([], (codePieces rest).1 :: (codePieces rest).2)
  | b :: rest => (b :: (codePieces rest).1, (codePieces rest).2)

/-- The units of a buffer, also the empty ones. -/
def rawUnits (data : ByteSpan) : List ByteSpan := (codePieces data).2.map trimZeros

/-- The NAL units of a buffer. -/
def nalUnits (data : ByteSpan) : List ByteSpan := (rawUnits data).filter (!·.isEmpty)

/-- `%02x`. -/
def lowerHex2 (value : UInt8) : ByteSpan :=
  [lowerHexDigit (value >>> 4), lowerHexDigit (value &&& 0x0F)]

/-- The profile and the level that the first sequence parameter set has. -/
def profileLevelId (nals : List ByteSpan) : Option ByteSpan :=
  (nals.find? fun nal => decide (4 ≤ nal.length) && nalType nal == 7).map fun nal =>
    lowerHex2 (byteAt nal 1) ++ lowerHex2 (byteAt nal 2) ++ lowerHex2 (byteAt nal 3)

/-- `h264_profile_level_id_from_annex_b`. -/
def h264ProfileLevelIdFromAnnexB (data : ByteSpan) : Option ByteSpan :=
  profileLevelId (annexBNals data)

/-- The loops over `next_annex_b_nal` end, and have seen every unit of the buffer in order. -/
structure Enumerates (data : ByteSpan) : Prop where
  visits : ∃ rounds, ∀ fuel, rounds ≤ fuel → annexBNalsFrom data fuel 0 = nalUnits data
  profile : h264ProfileLevelIdFromAnnexB data = profileLevelId (nalUnits data)
  looks : ∀ p : VideoRtpSession.ParameterSets,
    (annexBNals data).foldl .look p = (nalUnits data).foldl .look p

/-- A buffer whose units all are reached and end where they should. -/
structure Reached (data : ByteSpan) : Prop where
  /-- No empty unit stands before one that is not empty. -/
  noGap : (rawUnits data).Pairwise fun u v => (!v.isEmpty) = true → (!u.isEmpty) = true
  /-- A start code at the end of the buffer, behind another one, is a long one or is not reached. -/
  noShortEnd : ∀ front piece, (codePieces data).2 = front ++ [piece, []] →
    piece.getLast? = some 0 ∨ ∃ u ∈ front, trimZeros u = []

/-! ## Pieces -/

theorem trimZeros_append_zeros {a : ByteSpan} (h : a.getLast? ≠ some 0) (k : Nat) :
    trimZeros (a ++ List.replicate k 0) = a := by
  induction a with
  | nil =>
    induction k with
    | zero => rfl
    | succ k ih =>
      rw [List.nil_append, List.replicate_succ, trimZeros, if_pos ⟨rfl, ih⟩]
  | cons b a ih =>
    cases a with
    | nil =>
      have hb : b ≠ 0 := fun hb => h (by rw [hb]; rfl)
      rw [List.cons_append, trimZeros, if_neg fun hand => hb hand.1, ih (by decide)]
    | cons c a =>
      have hlast : (c :: a).getLast? ≠ some 0 := by
        rwa [List.getLast?_cons_cons] at h
      rw [List.cons_append, trimZeros, ih hlast, if_neg (fun hand => nomatch hand.2)]

/-- What is trimmed are the zeros at the end. -/
theorem exists_trim (w : ByteSpan) :
    ∃ a k, w = a ++ List.replicate k 0 ∧ a.getLast? ≠ some 0 ∧ trimZeros w = a := by
  suffices ∃ a k, w = a ++ List.replicate k 0 ∧ a.getLast? ≠ some 0 by
    obtain ⟨a, k, rfl, ha⟩ := this
    exact ⟨a, k, rfl, ha, trimZeros_append_zeros ha k⟩
  induction w with
  | nil => exact ⟨[], 0, rfl, by decide⟩
  | cons b w ih =>
    obtain ⟨a, k, rfl, ha⟩ := ih
    by_cases hnil : a = []
    · subst hnil
      by_cases hb : b = 0
      · exact ⟨[], k + 1, by rw [hb]; rfl, by decide⟩
      · exact ⟨[b], k, rfl, fun h => hb (Option.some.inj h)⟩
    · refine ⟨b :: a, k, rfl, ?_⟩
      rw [List.getLast?_cons, List.getLast?_eq_some_getLast hnil] at *
      exact ha

/-- Pieces behind a start code each. -/
def joined (pieces : List ByteSpan) : ByteSpan := pieces.flatMap fun q => startCode 2 ++ q

theorem joined_cons (q : ByteSpan) (pieces : List ByteSpan) :
    joined (q :: pieces) = startCode 2 ++ (q ++ joined pieces) := by
  rw [joined, List.flatMap_cons, List.append_assoc]
  rfl

/-- The pieces are all of the buffer. -/
theorem codePieces_join (data : ByteSpan) :
    data = (codePieces data).1 ++ joined (codePieces data).2 := by
  fun_induction codePieces data with
  | case1 => rfl
  | case2 rest ih =>
    rw [joined_cons, ← ih]
    rfl
  | case3 b rest hcode ih => rw [List.cons_append, ← ih]

/-- No start code is hidden in a piece. -/
theorem codePieces_free (data : ByteSpan) :
    ∀ w ∈ (codePieces data).1 :: (codePieces data).2, ¬[0, 0, 1] <:+: w := by
  fun_induction codePieces data with
  | case1 =>
    intro w hw
    rw [List.mem_singleton.mp hw]
    exact whole_nil.noStartCode
  | case2 rest ih =>
    intro w hw
    rcases List.mem_cons.mp hw with rfl | hw
    · exact whole_nil.noStartCode
    · exact ih w hw
  | case3 b rest hcode ih =>
    intro w hw
    rcases List.mem_cons.mp hw with rfl | hw
    · rw [List.infix_cons_iff, not_or]
      refine ⟨fun hprefix => ?_, ih _ (.head _)⟩
      have hall : [0, 0, 1] <+: b :: rest := by
        rw [codePieces_join rest, ← List.cons_append]
        exact hprefix.trans (List.prefix_append _ _)
      obtain ⟨tail, htail⟩ := hall
      rw [List.cons_append, List.cons.injEq] at htail
      exact hcode tail htail.1.symm htail.2.symm
    · exact ih w (.tail _ hw)

/-- What the loop takes for the pieces: a short start code at the very end is one of the bytes. -/
def seenPieces : List ByteSpan → List ByteSpan
  | [] => []
  | [piece, []] => if piece.getLast? = some 0 then [piece, []] else [piece ++ [0, 0, 1]]
  | piece :: pieces => piece :: seenPieces pieces

theorem seenPieces_cons {piece : ByteSpan} {pieces : List ByteSpan}
    (h : pieces = [[]] → piece.getLast? = some 0) :
    seenPieces (piece :: pieces) = piece :: seenPieces pieces := by
  by_cases hend : pieces = [[]]
  · subst hend
    rw [seenPieces, if_pos (h rfl)]
    rfl
  · rw [seenPieces]
    rintro rfl
    exact hend rfl

/-! ## The loop -/

/-- A piece before a start code, as the scanner sees it: zeros at its end are zeros of the code. -/
theorem piece_code {w a : ByteSpan} {k : Nat} (h : w = a ++ List.replicate k 0) (rest : ByteSpan) :
    w ++ (startCode 2 ++ rest) = a ++ (startCode (k + 2) ++ rest) := by
  rw [h, startCode, startCode, ← List.replicate_append_replicate]
  simp only [List.append_assoc]

theorem whole_of_trimmed {w a : ByteSpan} {k : Nat} (h : w = a ++ List.replicate k 0)
    (hw : ¬[0, 0, 1] <:+: w) (ha : a.getLast? ≠ some 0) : Whole a :=
  ⟨fun hin => hw (hin.trans (h ▸ (List.prefix_append a _).isInfix)), ha⟩

/-- In bytes without a start code none begins. -/
theorem startCodeAt_none {w : ByteSpan} (hw : ¬[0, 0, 1] <:+: w) {x : Nat} (hx : x + 3 < w.length) :
    startCodeAt w x = false := by
  rw [← Bool.not_eq_true]
  intro hcode
  simp only [startCodeAt, Bool.and_eq_true, Bool.or_eq_true, beq_iff_eq,
    decide_eq_true_eq] at hcode
  obtain ⟨⟨h0, h1⟩, h2 | ⟨⟨-, h2⟩, h3⟩⟩ := hcode
  · exact not_code_inside hw (by omega) ⟨h0, h1, h2⟩
  · exact not_code_inside hw (show x + 1 + 2 < w.length by omega) ⟨h1, h2, h3⟩

/-- Without a start code that is seen there is no further unit. -/
theorem nextAnnexBNal_none {data rest : ByteSpan} {p : Nat} (hp : p ≤ data.length)
    (h : data.drop p = rest) (hnone : ∀ x, x + 3 < rest.length → startCodeAt rest x = false) :
    nextAnnexBNal data p = none := by
  rw [nextAnnexBNal, if_pos (skipToStartCode_end hp h hnone)]

/-- A short start code at the very end is not seen. -/
theorem startCodeAt_short {a : ByteSpan} (ha : Whole a) {x : Nat}
    (hx : x + 3 < (a ++ startCode 2).length) : startCodeAt (a ++ startCode 2) x = false := by
  rw [List.length_append, length_startCode] at hx
  exact ha.startCodeAt_inside _ (by omega)

/-- The unit that a round finds behind some bytes without a start code, and what is left. -/
theorem nextAnnexBNal_joined {data w q : ByteSpan} {pieces : List ByteSpan} {p : Nat}
    (hp : p ≤ data.length) (h : data.drop p = w ++ joined (q :: pieces))
    (hw : ¬[0, 0, 1] <:+: w) (hq : ¬[0, 0, 1] <:+: q)
    (hnext : pieces = [[]] → q.getLast? = some 0) :
    (trimZeros q = [] ∧ nextAnnexBNal data p = none) ∨
    ∃ next k, trimZeros q ≠ [] ∧ nextAnnexBNal data p = some (trimZeros q, next) ∧
      next ≤ data.length ∧ data.drop next = List.replicate k 0 ++ joined pieces := by
  -- Zeros at the end of the bytes in front belong to the start code.
  obtain ⟨a, i, hwa, ha, -⟩ := exists_trim w
  obtain ⟨b, k, hqb, hb, htrim⟩ := exists_trim q
  have hwholea : Whole a := whole_of_trimmed hwa hw ha
  have hwholeb : Whole b := whole_of_trimmed hqb hq hb
  rw [joined_cons, piece_code hwa] at h
  have hlen : data.length = p + a.length + (i + 2 + 1) + (q ++ joined pieces).length := by
    have := congrArg List.length h
    rw [List.length_drop, List.length_append, List.length_append, length_startCode] at this
    omega
  have hcode : data.drop (p + a.length) = startCode (i + 2) ++ (q ++ joined pieces) := by
    rw [← List.drop_drop, h, List.drop_left]
  have hrest : data.drop (p + a.length + (i + 2 + 1)) = q ++ joined pieces := by
    rw [← List.drop_drop, hcode, List.drop_left' (length_startCode (i + 2))]
  rw [htrim]
  by_cases hseen : q ++ joined pieces ≠ [] ∨ 3 ≤ i + 2
  · -- where the unit stops: with the bytes, or at the next start code
    have hstop : ∃ j ≤ k, stopFrom data (p + a.length + (i + 2 + 1)) =
        p + a.length + (i + 2 + 1) + b.length + j := by
      cases pieces with
      | nil =>
        refine ⟨k, Nat.le_refl k, ?_⟩
        rw [joined, List.flatMap_nil, List.append_nil] at hrest hlen
        rw [stopFrom_end (by omega) hrest fun x hx => startCodeAt_none hq hx, hlen, hqb,
          List.length_append, List.length_replicate]
        omega
      | cons r pieces =>
        rw [joined_cons, piece_code hqb] at hrest
        have hlater : r ++ joined pieces ≠ [] ∨ 3 ≤ k + 2 := by
          by_cases hk : k = 0
          · left
            intro hnil
            rw [List.append_eq_nil_iff] at hnil
            have hends : r :: pieces = [[]] := by
              cases pieces with
              | nil => rw [hnil.1]
              | cons s pieces =>
                rw [joined_cons] at hnil
                exact nomatch hnil.2
            have hlast := hnext hends
            rw [hqb, hk, List.replicate_zero, List.append_nil] at hlast
            exact hb hlast
          · right
            omega
        exact ⟨k + 2 - 3, by omega, stopFrom_code hrest hwholeb (by omega) hlater⟩
    obtain ⟨j, hj, hstop⟩ := hstop
    have hsplit : q ++ joined pieces = b ++ (List.replicate k 0 ++ joined pieces) := by
      rw [hqb, List.append_assoc]
    -- what stands between the unit and its stop is zeros
    have hzero : ∀ x < j, byteAt (q ++ joined pieces) (b.length + x) = 0 := by
      intro x hx
      have hinside : x < (List.replicate k (0 : UInt8)).length := by
        rw [List.length_replicate]
        omega
      rw [hsplit, byteAt_append_right, byteAt_append_left _ hinside, byteAt,
        List.getD_eq_getElem?_getD, List.getElem?_replicate_of_lt (by omega), Option.getD_some]
    have hround := nextAnnexBNal_code h hwholea (by omega) hseen
      (hsplit ▸ List.prefix_append b _) hb hzero hstop
    by_cases hnil : b = []
    · rw [if_pos hnil] at hround
      exact .inl ⟨hnil, hround⟩
    · rw [if_neg hnil] at hround
      rw [hsplit, List.length_append] at hlen
      refine .inr ⟨_, k, hnil, hround, by omega, ?_⟩
      rw [← List.drop_drop, hrest, hsplit, List.drop_left]
  · -- a short start code at the very end
    rw [not_or, Decidable.not_not, List.append_eq_nil_iff] at hseen
    obtain ⟨⟨hqnil, hjoined⟩, hi⟩ := hseen
    have hi : i = 0 := by omega
    subst hi
    rw [hqnil, hjoined, List.append_nil, List.append_nil] at h
    have hbnil : b = [] := by
      rw [hqnil] at hqb
      exact (List.append_eq_nil_iff.mp hqb.symm).1
    exact .inl ⟨hbnil, nextAnnexBNal_none hp h fun x hx => startCodeAt_short hwholea hx⟩

/-- The bytes that are taken for the last unit, with the start code at their end. -/
theorem nextAnnexBNal_short {data w q : ByteSpan} {p : Nat} (h : data.drop p = w ++ joined [q, []])
    (hw : ¬[0, 0, 1] <:+: w) (hq : ¬[0, 0, 1] <:+: q) (hlast : q.getLast? ≠ some 0) :
    nextAnnexBNal data p = some (q ++ [0, 0, 1], data.length) := by
  obtain ⟨a, i, hwa, ha, -⟩ := exists_trim w
  have hwholea : Whole a := whole_of_trimmed hwa hw ha
  have hend : q ++ joined [[]] = q ++ [0, 0, 1] := rfl
  rw [joined_cons, piece_code hwa, hend] at h
  have hlen : data.length = p + a.length + (i + 2 + 1) + (q ++ [0, 0, 1]).length := by
    have := congrArg List.length h
    rw [List.length_drop, List.length_append, List.length_append, length_startCode] at this
    omega
  have hcode : data.drop (p + a.length) = startCode (i + 2) ++ (q ++ [0, 0, 1]) := by
    rw [← List.drop_drop, h, List.drop_left]
  have hrest : data.drop (p + a.length + (i + 2 + 1)) = q ++ [0, 0, 1] := by
    rw [← List.drop_drop, hcode, List.drop_left' (length_startCode (i + 2))]
  have hstop := stopFrom_end (by omega) hrest fun x hx => startCodeAt_short ⟨hq, hlast⟩ hx
  have hround := nextAnnexBNal_code (j := 0) h hwholea (by omega) (.inl (by simp))
    (List.prefix_refl _) (by simp) (fun x hx => absurd hx (Nat.not_lt_zero x)) (hstop.trans hlen)
  rw [if_neg (by simp), ← hlen] at hround
  exact hround

/-- Zeros hide no start code. -/
theorem zeros_free (k : Nat) : ¬[0, 0, 1] <:+: List.replicate k (0 : UInt8) := by
  intro hin
  have hmem : (1 : UInt8) ∈ List.replicate k (0 : UInt8) := hin.subset (by simp)
  exact absurd (List.eq_of_mem_replicate hmem) (by decide)

/-- **The loop over a buffer** stops at the first unit that is empty. -/
theorem annexBNalsFrom_joined {data w : ByteSpan} {pieces : List ByteSpan} {fuel p : Nat}
    (hp : p ≤ data.length) (h : data.drop p = w ++ joined pieces)
    (hfree : ∀ v ∈ w :: pieces, ¬[0, 0, 1] <:+: v) (hfuel : pieces.length < fuel) :
    annexBNalsFrom data fuel p = ((seenPieces pieces).map trimZeros).takeWhile (!·.isEmpty) := by
  induction pieces generalizing w fuel p with
  | nil =>
    obtain ⟨fuel, rfl⟩ : ∃ m, fuel = m + 1 := ⟨fuel - 1, by rw [List.length_nil] at hfuel; omega⟩
    rw [joined, List.flatMap_nil, List.append_nil] at h
    rw [annexBNalsFrom, nextAnnexBNal_none hp h fun x hx => startCodeAt_none (hfree w (.head _)) hx]
    rfl
  | cons q pieces ih =>
    rw [List.length_cons] at hfuel
    obtain ⟨fuel, rfl⟩ : ∃ m, fuel = m + 1 := ⟨fuel - 1, by omega⟩
    have hw := hfree w (.head _)
    have hq := hfree q (.tail _ (.head _))
    -- A short start code at the very end belongs to the unit in front of it.
    by_cases hshort : pieces = [[]] ∧ q.getLast? ≠ some 0
    · obtain ⟨rfl, hlast⟩ := hshort
      obtain ⟨fuel, rfl⟩ : ∃ m, fuel = m + 1 := ⟨fuel - 1, by
        rw [List.length_singleton] at hfuel
        omega⟩
      have htrim : trimZeros (q ++ [0, 0, 1]) = q ++ [0, 0, 1] := by
        have := trimZeros_append_zeros (a := q ++ [0, 0, 1]) (by simp) 0
        rwa [List.replicate_zero, List.append_nil] at this
      rw [annexBNalsFrom, nextAnnexBNal_short h hw hq hlast]
      simp only [annexBNalsFrom, nextAnnexBNal_end, seenPieces, if_neg hlast, List.map_cons,
        List.map_nil, htrim]
      rw [List.takeWhile_cons_of_pos (by simp), List.takeWhile_nil]
    · have hnext : pieces = [[]] → q.getLast? = some 0 := fun hend =>
        Decidable.byContradiction fun hlast => hshort ⟨hend, hlast⟩
      rw [seenPieces_cons hnext, List.map_cons]
      -- A round finds nothing, and the loop ends, or it finds the unit q.
      rcases nextAnnexBNal_joined hp h hw hq hnext with
        ⟨hnil, hnone⟩ | ⟨next, k, hne, hsome, hle, hdrop⟩
      · rw [annexBNalsFrom, hnone, hnil]
        rfl
      · -- The zeros behind the unit are skipped with the next one.
        have hrest : ∀ v ∈ List.replicate k 0 :: pieces, ¬[0, 0, 1] <:+: v := by
          intro v hv
          rcases List.mem_cons.mp hv with rfl | hv
          · exact zeros_free k
          · exact hfree v (.tail _ (.tail _ hv))
        rw [annexBNalsFrom, hsome]
        simp only []
        rw [ih hle hdrop hrest (by omega), List.takeWhile_cons_of_pos (by simpa using hne)]

/-! ## What is reached -/

theorem length_le_joined (pieces : List ByteSpan) : pieces.length ≤ (joined pieces).length := by
  induction pieces with
  | nil => exact Nat.le_refl 0
  | cons q pieces ih =>
    rw [joined_cons, List.length_append, List.length_append, length_startCode, List.length_cons]
    omega

/-- The loop over a buffer, with as many rounds as it takes. -/
theorem annexBNalsFrom_eq_seen {data : ByteSpan} {fuel : Nat} (hfuel : data.length < fuel) :
    annexBNalsFrom data fuel 0 =
      ((seenPieces (codePieces data).2).map trimZeros).takeWhile (!·.isEmpty) := by
  have hjoin := codePieces_join data
  have hlen := length_le_joined (codePieces data).2
  have hall := congrArg List.length hjoin
  rw [List.length_append] at hall
  exact annexBNalsFrom_joined (Nat.zero_le _) hjoin (codePieces_free data) (by omega)

/-- Either the last start code is a short one that is not seen, or all pieces are. -/
theorem seenPieces_spec (pieces : List ByteSpan) :
    (∃ front piece, pieces = front ++ [piece, []] ∧ piece.getLast? ≠ some 0 ∧
      seenPieces pieces = front ++ [piece ++ [0, 0, 1]]) ∨
    ((∀ front piece, pieces = front ++ [piece, []] → piece.getLast? = some 0) ∧
      seenPieces pieces = pieces) := by
  induction pieces with
  | nil =>
    refine .inr ⟨fun front piece h => ?_, rfl⟩
    cases front <;> nomatch h
  | cons q pieces ih =>
    by_cases hshort : pieces = [[]] ∧ q.getLast? ≠ some 0
    · obtain ⟨rfl, hlast⟩ := hshort
      exact .inl ⟨[], q, rfl, hlast, by rw [seenPieces, if_neg hlast, List.nil_append]⟩
    · have hnext : pieces = [[]] → q.getLast? = some 0 := fun hend =>
        Decidable.byContradiction fun hlast => hshort ⟨hend, hlast⟩
      rw [seenPieces_cons hnext]
      rcases ih with ⟨front, piece, rfl, hlast, hseen⟩ | ⟨hall, hseen⟩
      · exact .inl ⟨q :: front, piece, rfl, hlast, by rw [hseen, List.cons_append]⟩
      · refine .inr ⟨fun front piece h => ?_, by rw [hseen]⟩
        cases front with
        | nil =>
          rw [List.nil_append, List.cons.injEq] at h
          exact h.1 ▸ hnext h.2
        | cons r front =>
          rw [List.cons_append, List.cons.injEq] at h
          exact hall front piece h.2

theorem trimZeros_eq_self {a : ByteSpan} (h : a.getLast? ≠ some 0) : trimZeros a = a := by
  have := trimZeros_append_zeros h 0
  rwa [List.replicate_zero, List.append_nil] at this

/-- Behind a unit that is empty the loop does not go on. -/
theorem takeWhile_front {front back : List ByteSpan} (h : ∃ u ∈ front, trimZeros u = []) :
    ((front ++ back).map trimZeros).takeWhile (!·.isEmpty) =
      (front.map trimZeros).takeWhile (!·.isEmpty) := by
  induction front with
  | nil =>
    obtain ⟨u, hu, -⟩ := h
    nomatch hu
  | cons v front ih =>
    rw [List.cons_append, List.map_cons, List.map_cons]
    by_cases hv : trimZeros v = []
    · rw [hv]
      rfl
    · have hrest : ∃ u ∈ front, trimZeros u = [] := by
        obtain ⟨u, hu, hnil⟩ := h
        rcases List.mem_cons.mp hu with rfl | hu
        · exact absurd hnil hv
        · exact ⟨u, hu, hnil⟩
      rw [List.takeWhile_cons_of_pos (by simpa using hv),
        List.takeWhile_cons_of_pos (by simpa using hv), ih hrest]

/-- A unit that has taken a start code for its own bytes is not one of the buffer. -/
theorem units_ne {front : List ByteSpan} {piece : ByteSpan} (hlast : piece.getLast? ≠ some 0)
    (hfront : ∀ u ∈ front, trimZeros u ≠ []) :
    ((front ++ [piece ++ [0, 0, 1]]).map trimZeros).takeWhile (!·.isEmpty) ≠
      ((front ++ [piece, []]).map trimZeros).filter (!·.isEmpty) := by
  have hall : ∀ u ∈ front.map trimZeros, (!u.isEmpty) = true := by
    intro u hu
    obtain ⟨v, hv, rfl⟩ := List.mem_map.mp hu
    simpa using hfront v hv
  have htaken : trimZeros (piece ++ [0, 0, 1]) = piece ++ [0, 0, 1] := trimZeros_eq_self (by simp)
  rw [List.map_append, List.map_append, List.takeWhile_append_of_pos hall, List.filter_append,
    List.filter_eq_self.mpr hall]
  simp only [List.map_cons, List.map_nil, htaken, trimZeros_eq_self hlast]
  rw [List.takeWhile_cons_of_pos (by simp)]
  intro h
  have hsame := List.append_cancel_left h
  by_cases hpiece : piece = []
  · rw [hpiece] at hsame
    exact nomatch hsame
  · have hlong := congrArg (fun l => (l.flatten).length) hsame
    simp [hpiece, trimZeros] at hlong

/-- The loop sees just the units, if and only if they are reached. -/
theorem seen_eq_units_iff (data : ByteSpan) :
    ((seenPieces (codePieces data).2).map trimZeros).takeWhile (!·.isEmpty) = nalUnits data ↔
      Reached data := by
  have hgap := Scan.takeWhile_eq_filter_iff (p := (!·.isEmpty)) (l := rawUnits data)
  rcases seenPieces_spec (codePieces data).2 with
    ⟨front, piece, hpieces, hlast, hseen⟩ | ⟨hall, hseen⟩
  · rw [nalUnits, hseen]
    by_cases hfront : ∃ u ∈ front, trimZeros u = []
    · have hsame : (rawUnits data).takeWhile (!·.isEmpty) =
          ((front ++ [piece ++ [0, 0, 1]]).map trimZeros).takeWhile (!·.isEmpty) := by
        rw [rawUnits, hpieces, takeWhile_front hfront, takeWhile_front hfront]
      rw [← hsame, hgap]
      refine ⟨fun h => ⟨h, fun front' piece' h' => .inr ?_⟩, fun h => h.noGap⟩
      have := List.append_inj_left' (hpieces.symm.trans h') rfl
      exact this ▸ hfront
    · have hne := units_ne hlast fun u hu hnil => hfront ⟨u, hu, hnil⟩
      rw [rawUnits, hpieces]
      refine iff_of_false hne fun h => ?_
      rcases h.noShortEnd front piece hpieces with h | h
      · exact hlast h
      · exact hfront h
  · rw [hseen, nalUnits, ← rawUnits, hgap]
    exact ⟨fun h => ⟨h, fun front piece h' => .inl (hall front piece h')⟩, fun h => h.noGap⟩

/-- **Every unit of a buffer is visited** just where no empty unit stands before another one, and no
short start code at the very end of the buffer ends a unit that is reached. -/
theorem enumerates_iff (data : ByteSpan) : Enumerates data ↔ Reached data := by
  rw [← seen_eq_units_iff]
  constructor
  · intro h
    obtain ⟨rounds, hvisits⟩ := h.visits
    rw [← hvisits (rounds + data.length + 1) (by omega), annexBNalsFrom_eq_seen (by omega)]
  · intro h
    have hall : annexBNals data = nalUnits data := by
      rw [annexBNals, annexBNalsFrom_eq_seen (Nat.lt_succ_self _), h]
    refine ⟨⟨data.length + 1, fun fuel hfuel => ?_⟩, ?_, fun p => by rw [hall]⟩
    · rw [annexBNalsFrom_eq_seen (by omega), h]
    · rw [h264ProfileLevelIdFromAnnexB, hall]

/-- Two start codes with nothing between them hide the key frame behind them. -/
theorem empty_unit_hides_key_frame : ¬Enumerates [0, 0, 0, 1, 0, 0, 0, 1, 0x65, 0x88] := by
  intro h
  have hlooks := congrArg (·.keyFrame) (h.looks ⟨false, false, false, [], []⟩)
  revert hlooks
  decide

/-- A short start code at the end becomes a part of the unit before it. -/
example : annexBNals [0, 0, 1, 0x65, 0x88, 0, 0, 1] = [[0x65, 0x88, 0, 0, 1]] := by decide

end EsphomeVoip
