import EsphomeVoip.SipStream

/-! # The framing of SIP messages is exact

A message is cut off a stream as a whole, wherever the stream was split between two reads.  The one
thing that depends on the reads is how much waits in the buffer: what is read in one go is appended
before anything is cut off. -/

namespace EsphomeVoip

open Framing (Intake drain push heard)
open EventRun (after Along)

namespace SipStream

/-! ## Well-formed messages -/

/-- The lengths of the body that a header gives. -/
def lengthFields (head : Bytes) : List Bytes := (headerLines head).filterMap lengthField

/-- The number that decimal digits denote, after those for `n`. -/
def decimalFrom (n : Nat) (digits : Bytes) : Nat :=
  digits.foldl (fun n b => n * 10 + (b.toNat - 48)) n

/-- The header says that a body of `n` bytes follows: once, or for no body not at all. -/
def Announces (head : Bytes) (n : Nat) : Prop :=
  (lengthFields head = [] ∧ n = 0) ∨
    ∃ v, lengthFields head = [v] ∧ v ≠ [] ∧ (∀ b ∈ v, isDigit b = true) ∧ decimalFrom 0 v = n

/-- The empty line after the header is the first one. -/
def HeaderEnds (head : Bytes) : Prop :=
  ∀ i < head.length, ¬separator.isPrefixOf ((head ++ separator).drop i) = true

/-- A message within the limits of one message. -/
structure Message where
  head : Bytes
  body : Bytes
  header_ends : HeaderEnds head
  announces : Announces head body.length
  body_fits : body.length ≤ maxSipBodyBytes
  fits : head.length + 4 + body.length ≤ maxSipTcpRxBuffer

/-- The bytes of a message. -/
def Message.bytes (m : Message) : Bytes := m.head ++ separator ++ m.body

/-- A header with an invalid, repeated or excessive length, and whatever follows it. -/
def Unframeable (tail : Bytes) : Prop :=
  ∃ head rest, tail = head ++ separator ++ rest ∧ HeaderEnds head ∧
    ∀ n, Announces head n → maxSipBodyBytes < n ∨ maxSipTcpRxBuffer < head.length + 4 + n

theorem findSeparator_of_first {xs : Bytes} {n : Nat}
    (hfirst : ∀ i < n, ¬separator.isPrefixOf (xs.drop i) = true)
    (hn : separator.isPrefixOf (xs.drop n) = true) : findSeparator xs = some n := by
  induction xs generalizing n with
  | nil =>
    rw [List.drop_nil] at hn
    cases hn
  | cons b xs ih =>
    unfold findSeparator
    cases n with
    | zero =>
      rw [List.drop_zero] at hn
      rw [if_pos hn]
    | succ n =>
      have hb := hfirst 0 (Nat.succ_pos n)
      rw [List.drop_zero] at hb
      rw [if_neg hb, ih (fun i hi => hfirst (i + 1) (Nat.succ_lt_succ hi)) hn]
      rfl

/-- The empty line is found where the header ends. -/
theorem findSeparator_header {head : Bytes} (h : HeaderEnds head) (rest : Bytes) :
    findSeparator (head ++ separator ++ rest) = some head.length := by
  apply findSeparator_append
  apply findSeparator_of_first h
  rw [List.drop_left]
  rfl

theorem headerOf_header {head : Bytes} (h : HeaderEnds head) (rest : Bytes) :
    headerOf (head ++ separator ++ rest) = head := by
  unfold headerOf
  rw [findSeparator_header h, List.append_assoc]
  exact List.take_left

/-! ## The length of the body -/

/-- More digits do not make the number smaller. -/
theorem le_decimalFrom (v : Bytes) (n : Nat) : n ≤ decimalFrom n v := by
  induction v generalizing n with
  | nil => exact Nat.le_refl n
  | cons b v ih =>
    have hstep := ih (n * 10 + (b.toNat - 48))
    have hcons : decimalFrom n (b :: v) = decimalFrom (n * 10 + (b.toNat - 48)) v := rfl
    omega

/-- Digits that denote a small number are read as that number. -/
theorem parseDigits_of_digits {v : Bytes} (hv : ∀ b ∈ v, isDigit b = true) (n : Nat)
    (hle : decimalFrom n v ≤ maxSipTcpRxBuffer) : parseDigits n v = some (decimalFrom n v) := by
  induction v generalizing n with
  | nil => rfl
  | cons b v ih =>
    have hb := hv b List.mem_cons_self
    have hgrow : n * 10 + (b.toNat - 48) ≤ decimalFrom n (b :: v) := le_decimalFrom v _
    unfold parseDigits
    rw [if_pos hb]
    dsimp only
    rw [if_neg (by unfold maxSipTcpRxBuffer at hle ⊢; omega)]
    exact ih (fun c hc => hv c (List.mem_cons_of_mem _ hc)) _ hle

/-- What is read as a number consists of digits that denote it. -/
theorem parseDigits_some {v : Bytes} {n k : Nat} (h : parseDigits n v = some k) :
    (∀ b ∈ v, isDigit b = true) ∧ decimalFrom n v = k := by
  induction v generalizing n with
  | nil => exact ⟨nofun, by simpa [parseDigits, decimalFrom] using h⟩
  | cons b v ih =>
    unfold parseDigits at h
    split at h
    · rename_i hb
      dsimp only at h
      split at h
      · cases h
      · obtain ⟨hv, hk⟩ := ih h
        refine ⟨?_, hk⟩
        intro c hc
        rcases List.mem_cons.1 hc with rfl | hc
        · exact hb
        · exact hv c hc
    · cases h

/-- After a length was seen, another one is an error. -/
theorem scanLength_seen (n : Nat) (lines : List Bytes) :
    scanLength true n lines = if lines.filterMap lengthField = [] then some n else none := by
  induction lines with
  | nil => rfl
  | cons line lines ih =>
    unfold scanLength
    cases hf : lengthField line with
    | none =>
      rw [List.filterMap_cons_none hf]
      exact ih
    | some v =>
      rw [List.filterMap_cons_some hf]
      simp

/-- The scan of the header depends on its length fields alone. -/
theorem scanLength_fresh (n : Nat) (lines : List Bytes) :
    scanLength false n lines = match lines.filterMap lengthField with
      | [] => some n
      | [v] => if v = [] then none else parseDigits 0 v
      | _ => none := by
  induction lines with
  | nil => rfl
  | cons line lines ih =>
    unfold scanLength
    cases hf : lengthField line with
    | none =>
      rw [List.filterMap_cons_none hf]
      exact ih
    | some v =>
      rw [List.filterMap_cons_some hf]
      cases hfs : lines.filterMap lengthField with
      | nil =>
        simp only [Bool.false_eq_true, false_or]
        split
        · rfl
        · cases parseDigits 0 v with
          | none => rfl
          | some k =>
            dsimp only
            rw [scanLength_seen, if_pos hfs]
      | cons v' vs =>
        simp only [Bool.false_eq_true, false_or]
        split
        · rfl
        · cases parseDigits 0 v with
          | none => rfl
          | some k =>
            dsimp only
            rw [scanLength_seen, if_neg (by rw [hfs]; nofun)]

/-- A length within the limit is read. -/
theorem scanLength_of_announces {head : Bytes} {n : Nat} (h : Announces head n)
    (hn : n ≤ maxSipTcpRxBuffer) : scanLength false 0 (headerLines head) = some n := by
  rw [scanLength_fresh]
  unfold Announces lengthFields at h
  rcases h with ⟨hf, rfl⟩ | ⟨v, hf, hne, hv, rfl⟩
  · rw [hf]
  · rw [hf]
    dsimp only
    rw [if_neg hne, parseDigits_of_digits hv 0 hn]

/-- The length that is read is the announced one. -/
theorem announces_of_scanLength {head : Bytes} {n : Nat}
    (h : scanLength false 0 (headerLines head) = some n) : Announces head n := by
  rw [scanLength_fresh] at h
  unfold Announces lengthFields
  cases hf : (headerLines head).filterMap lengthField with
  | nil =>
    rw [hf] at h
    exact .inl ⟨rfl, (Option.some.inj h).symm⟩
  | cons v vs =>
    rw [hf] at h
    cases vs with
    | nil =>
      dsimp only at h
      split at h
      · cases h
      · rename_i hne
        obtain ⟨hv, hk⟩ := parseDigits_some h
        exact .inr ⟨v, rfl, hne, hv, hk⟩
    | cons v' vs => cases h

/-- A message is cut off as a whole. -/
theorem look_message (m : Message) : look m.bytes = .frame m.bytes.length := by
  have hsep := findSeparator_header m.header_ends m.body
  have hsmall : m.body.length ≤ maxSipTcpRxBuffer := by
    have := m.fits
    omega
  have hlen : sipContentLength m.bytes = some m.body.length := by
    unfold sipContentLength Message.bytes
    rw [headerOf_header m.header_ends]
    exact scanLength_of_announces m.announces hsmall
  have hbytes : m.bytes.length = m.head.length + 4 + m.body.length := by
    unfold Message.bytes
    rw [List.length_append, List.length_append]
    rfl
  have hbody := m.body_fits
  have hfits := m.fits
  unfold look
  rw [show findSeparator m.bytes = some m.head.length from hsep, hlen]
  dsimp only
  rw [if_neg (by omega), if_neg (by omega), if_neg (by omega), hbytes]

/-- A header that gives no admissible length is refused. -/
theorem look_unframeable {tail : Bytes} (h : Unframeable tail) :
    ∃ e, e ≠ .peerClosed ∧ look tail = .reject e := by
  obtain ⟨head, rest, rfl, hends, hbad⟩ := h
  unfold look sipContentLength
  rw [findSeparator_header hends, headerOf_header hends]
  dsimp only
  cases hlen : scanLength false 0 (headerLines head) with
  | none => exact ⟨.contentLength, nofun, rfl⟩
  | some n =>
    dsimp only
    by_cases hbody : maxSipBodyBytes < n
    · rw [if_pos hbody]
      exact ⟨.bodyLimit, nofun, rfl⟩
    · have hframe := (hbad n (announces_of_scanLength hlen)).resolve_left hbody
      rw [if_neg hbody, if_pos hframe]
      exact ⟨.frameLimit, nofun, rfl⟩

/-! ## Runs -/

/-- All that a run reads. -/
def bytesOf (rs : List Reads) : Bytes := rs.flatMap Reads.bytes

/-- The connection was given up for what arrived on it. -/
def dropped (s : Intake UInt8 StreamLoss) : Bool :=
  match s.error with
  | none | some .peerClosed => false
  | some _ => true

/-- What is read in one go fits into the buffer together with what has been waiting. -/
def Fits (owned : List Bytes → Bool) (r : Reads) (s : Intake UInt8 StreamLoss) : Prop :=
  s.live owned = false ∨ (s.buffer ++ r.bytes).length ≤ maxSipTcpRxBuffer

instance (owned : List Bytes → Bool) (r : Reads) (s : Intake UInt8 StreamLoss) :
    Decidable (Fits owned r s) :=
  inferInstanceAs (Decidable (_ ∨ _))

variable {owned : List Bytes → Bool} {r : Reads} {rs : List Reads} {s : Intake UInt8 StreamLoss}

theorem readChunks_of_fits (chunks : List Bytes) (buffer : Bytes)
    (h : (buffer ++ chunks.flatten).length ≤ maxSipTcpRxBuffer) :
    readChunks buffer chunks = some (buffer ++ chunks.flatten) := by
  induction chunks generalizing buffer with
  | nil => simp [readChunks]
  | cons c chunks ih =>
    rw [List.flatten_cons, ← List.append_assoc] at h ⊢
    unfold readChunks
    have hle : (buffer ++ c).length ≤ (buffer ++ c ++ chunks.flatten).length := by
      exact (List.prefix_append _ _).length_le
    rw [if_neg (by omega), ih _ h]

theorem readChunks_overflow (chunks : List Bytes) (buffer : Bytes)
    (hbuffer : buffer.length ≤ maxSipTcpRxBuffer)
    (h : maxSipTcpRxBuffer < (buffer ++ chunks.flatten).length) :
    readChunks buffer chunks = none := by
  induction chunks generalizing buffer with
  | nil =>
    rw [List.flatten_nil, List.append_nil] at h
    omega
  | cons c chunks ih =>
    rw [List.flatten_cons, ← List.append_assoc] at h
    unfold readChunks
    split
    · rfl
    · exact ih _ (by omega) h

/-- While the connection is up, what fits is appended and cut. -/
theorem handleSipStream_fits (hlive : s.live owned = true)
    (h : (s.buffer ++ r.bytes).length ≤ maxSipTcpRxBuffer) :
    handleSipStream owned r s =
      let s' := drain decoder owned (push owned r.bytes s)
      if r.peerClosed = true ∧ s'.live owned = true then
        { s' with buffer := [], error := some .peerClosed }
      else s' := by
  unfold handleSipStream
  rw [if_neg (by simp [hlive]), show readChunks s.buffer r.chunks = some (s.buffer ++ r.bytes) from
    readChunks_of_fits _ _ h, Framing.push_of_live hlive]

theorem handleSipStream_dead (hdead : s.live owned = false) : handleSipStream owned r s = s := by
  unfold handleSipStream
  rw [if_pos hdead]

/-- As long as the peer keeps the connection, the reads of a run add up. -/
theorem handleSipStream_open (hfits : Fits owned r s) (hopen : r.peerClosed = false)
    (hs : drain decoder owned s = s) :
    handleSipStream owned r s = drain decoder owned (push owned r.bytes s) := by
  by_cases hlive : s.live owned = true
  · rw [handleSipStream_fits hlive (hfits.resolve_left (by simp [hlive]))]
    simp [hopen]
  · have hdead := Bool.eq_false_iff.2 hlive
    rw [handleSipStream_dead hdead, Framing.push_of_dead hdead, hs]

/-- The last call of a run may find the connection closed, which loses nothing. -/
theorem handleSipStream_last (hfits : Fits owned r s) (hs : drain decoder owned s = s) :
    (handleSipStream owned r s).delivered =
        (drain decoder owned (push owned r.bytes s)).delivered ∧
      dropped (handleSipStream owned r s) =
        dropped (drain decoder owned (push owned r.bytes s)) := by
  by_cases hlive : s.live owned = true
  · rw [handleSipStream_fits hlive (hfits.resolve_left (by simp [hlive]))]
    dsimp only
    split
    · rename_i hclosed
      refine ⟨rfl, ?_⟩
      have herror := hclosed.2
      unfold Intake.live at herror
      rw [Bool.and_eq_true, Option.isNone_iff_eq_none] at herror
      unfold dropped
      rw [herror.1]
    · exact ⟨rfl, rfl⟩
  · have hdead := Bool.eq_false_iff.2 hlive
    rw [handleSipStream_dead hdead, Framing.push_of_dead hdead, hs]
    exact ⟨rfl, rfl⟩

/-- A run hands on what one drain of all its bytes hands on. -/
theorem after_eq_drain (hfits : Along (handleSipStream owned) (Fits owned) s rs)
    (hopen : ∀ r ∈ rs.dropLast, r.peerClosed = false) (hs : drain decoder owned s = s) :
    (after (handleSipStream owned) s rs).delivered =
        (drain decoder owned (push owned (bytesOf rs) s)).delivered ∧
      dropped (after (handleSipStream owned) s rs) =
        dropped (drain decoder owned (push owned (bytesOf rs) s)) := by
  induction rs generalizing s with
  | nil =>
    have hnil : push owned (bytesOf []) s = s := Framing.push_nil s
    rw [hnil, hs]
    exact ⟨rfl, rfl⟩
  | cons r rs ih =>
    cases rs with
    | nil =>
      have hone : bytesOf [r] = r.bytes := by simp [bytesOf]
      rw [hone]
      exact handleSipStream_last hfits.1 hs
    | cons r' rs =>
      have hr := hopen r List.mem_cons_self
      have hstep := handleSipStream_open hfits.1 hr hs
      have hbytes : bytesOf (r :: r' :: rs) = r.bytes ++ bytesOf (r' :: rs) := rfl
      have hrest := ih hfits.2 (fun q hq => hopen q (List.mem_cons_of_mem _ hq))
        (by rw [hstep, Framing.drain_drain])
      rw [hstep, Framing.drain_push_drain, Framing.push_push, ← hbytes, ← hstep] at hrest
      exact hrest

/-- The buffer stays within its limit. -/
theorem handleSipStream_buffer (h : s.buffer.length ≤ maxSipTcpRxBuffer) :
    (handleSipStream owned r s).buffer.length ≤ maxSipTcpRxBuffer := by
  by_cases hlive : s.live owned = true
  · by_cases hfits : (s.buffer ++ r.bytes).length ≤ maxSipTcpRxBuffer
    · rw [handleSipStream_fits hlive hfits, Framing.push_of_live hlive]
      have hle : (drain decoder owned { s with buffer := s.buffer ++ r.bytes }).buffer.length ≤
          (s.buffer ++ r.bytes).length := Framing.length_drain_le _
      dsimp only
      split
      · exact Nat.zero_le _
      · exact Nat.le_trans hle hfits
    · unfold handleSipStream
      rw [if_neg (by simp [hlive]), show readChunks s.buffer r.chunks = none from
        readChunks_overflow _ _ h (Nat.lt_of_not_le hfits)]
      exact Nat.zero_le _
  · rw [handleSipStream_dead (Bool.eq_false_iff.2 hlive)]
    exact h

/-- A connection that was dropped stays so. -/
theorem dropped_after (h : dropped s = true) :
    dropped (after (handleSipStream owned) s rs) = true := by
  have hstep (r : Reads) (s : Intake UInt8 StreamLoss) (hs : dropped s = true) :
      dropped (handleSipStream owned r s) = true := by
    have hdead : s.live owned = false := by
      unfold dropped at hs
      unfold Intake.live
      cases he : s.error with
      | none =>
        rw [he] at hs
        cases hs
      | some e => rfl
    rw [handleSipStream_dead hdead]
    exact hs
  exact EventRun.invariant_of_step _ hstep h rs

/-- A run in which some reads do not fit ends with the connection dropped. -/
theorem dropped_of_not_fits (h : ¬Along (handleSipStream owned) (Fits owned) s rs)
    (hs : s.buffer.length ≤ maxSipTcpRxBuffer) :
    dropped (after (handleSipStream owned) s rs) = true := by
  induction rs generalizing s with
  | nil => exact absurd trivial h
  | cons r rs ih =>
    by_cases hr : Fits owned r s
    · exact ih (fun hrest => h ⟨hr, hrest⟩) (handleSipStream_buffer hs)
    · unfold Fits at hr
      rw [not_or, Nat.not_le] at hr
      have hover : handleSipStream owned r s =
        { s with buffer := [], error := some .overflow } := by
        unfold handleSipStream
        rw [if_neg hr.1, show readChunks s.buffer r.chunks = none from
          readChunks_overflow _ _ hs hr.2]
      rw [EventRun.after_cons, hover]
      exact dropped_after rfl

/-- A run that reads no more than the buffer holds fits, however long its messages wait. -/
theorem along_fits_of_length (h : s.buffer.length + (bytesOf rs).length ≤ maxSipTcpRxBuffer) :
    Along (handleSipStream owned) (Fits owned) s rs := by
  induction rs generalizing s with
  | nil => trivial
  | cons r rs ih =>
    have hbytes : (bytesOf (r :: rs)).length = r.bytes.length + (bytesOf rs).length :=
      List.length_append
    have hfits : (s.buffer ++ r.bytes).length ≤ maxSipTcpRxBuffer := by
      rw [List.length_append]
      omega
    refine ⟨.inr hfits, ih ?_⟩
    by_cases hlive : s.live owned = true
    · have hle : (drain decoder owned { s with buffer := s.buffer ++ r.bytes }).buffer.length ≤
          (s.buffer ++ r.bytes).length := Framing.length_drain_le _
      rw [List.length_append] at hle
      rw [handleSipStream_fits hlive hfits, Framing.push_of_live hlive]
      dsimp only
      split
      · show 0 + (bytesOf rs).length ≤ maxSipTcpRxBuffer
        omega
      · omega
    · rw [handleSipStream_dead (Bool.eq_false_iff.2 hlive)]
      omega

/-- Whole messages are handed on, and then what follows them is looked at. -/
theorem drain_messages (ms : List Message) (tail : Bytes) :
    drain decoder owned (push owned ((ms.map Message.bytes).flatten ++ tail) {}) =
      drain decoder owned
        { delivered := heard owned [] (ms.map Message.bytes), buffer := tail } := by
  have hlook : ∀ m ∈ ms.map Message.bytes, decoder.look m = .frame m.length := by
    intro b hb
    obtain ⟨m, _, rfl⟩ := List.mem_map.1 hb
    exact look_message m
  rw [Framing.drain_push]
  exact Framing.drain_frames hlook [] tail

/-- The messages of a stream are handed on exactly, in order and whatever the reads, if and only if
    no call reads more than fits into the buffer; and those before a message that cannot be framed
    are.  A connection that a dialog has given up is not read any further. -/
theorem framing_exact (owned : List Bytes → Bool) (ms : List Message) (tail : Bytes)
    (rs : List Reads) (hrs : bytesOf rs = (ms.map Message.bytes).flatten ++ tail)
    (hopen : ∀ r ∈ rs.dropLast, r.peerClosed = false) :
    let s := after (handleSipStream owned) {} rs
    let handed := heard owned [] (ms.map Message.bytes)
    (tail = [] → (s.delivered = handed ∧ dropped s = false ↔
      Along (handleSipStream owned) (Fits owned) {} rs)) ∧
    (Unframeable tail → Along (handleSipStream owned) (Fits owned) {} rs →
      s.delivered = handed ∧ dropped s = owned handed) := by
  intro s handed
  -- While every call's bytes fit, the calls together do what one look at all bytes does.
  have hrun (h : Along (handleSipStream owned) (Fits owned) {} rs) :
      s.delivered = (drain decoder owned { delivered := handed, buffer := tail }).delivered ∧
        dropped s = dropped (drain decoder owned { delivered := handed, buffer := tail }) := by
    have hafter := after_eq_drain h hopen Framing.drain_start
    rw [hrs, drain_messages] at hafter
    exact hafter
  -- A connection that the dialog has given up hands on nothing more.
  have hlive (buffer : Bytes) : Intake.live owned
      ({ delivered := handed, buffer := buffer } : Intake UInt8 StreamLoss) = owned handed :=
    Bool.true_and _
  have hdead (h : owned handed = false) (buffer : Bytes) :
      drain decoder owned { delivered := handed, buffer := buffer } = { delivered := handed } :=
    Framing.drain_dead ((hlive buffer).trans h)
  constructor
  · -- A stream of whole messages.
    rintro rfl
    constructor
    · intro h
      -- a call that reads too much drops the connection
      apply Decidable.byContradiction
      intro hnot
      have hdrop := dropped_of_not_fits hnot (Nat.zero_le _)
      rw [h.2] at hdrop
      cases hdrop
    · intro h
      obtain ⟨hdel, hdrop⟩ := hrun h
      have hend : drain decoder owned { delivered := handed } = { delivered := handed } := by
        by_cases hkeep : owned handed = true
        · exact Framing.drain_wait ((hlive []).trans hkeep) look_nil
        · exact hdead (Bool.eq_false_iff.2 hkeep) []
      rw [hend] at hdel hdrop
      exact ⟨hdel, hdrop⟩
  · -- Whole messages before one that cannot be framed.
    intro hbad h
    obtain ⟨hdel, hdrop⟩ := hrun h
    by_cases hkeep : owned handed = true
    · obtain ⟨e, he, hlook⟩ := look_unframeable hbad
      have hreject := Framing.drain_reject (d := decoder) ((hlive tail).trans hkeep) hlook
      rw [hreject] at hdel hdrop
      refine ⟨hdel, hdrop.trans ?_⟩
      rw [hkeep]
      cases e <;> first | rfl | exact absurd rfl he
    · have hkeep' := Bool.eq_false_iff.2 hkeep
      rw [hdead hkeep'] at hdel hdrop
      exact ⟨hdel, hdrop.trans hkeep'.symm⟩

/-- A request without a body. -/
def ping : Message where
  head := ascii "OPTIONS sip:hall SIP/2.0"
  body := []
  header_ends := by
    unfold HeaderEnds
    decide
  announces := .inl ⟨by decide, rfl⟩
  body_fits := by decide
  fits := by decide

/-- Two of them, read in three calls that split both empty lines. -/
def splitPings : List Reads :=
  [{ chunks := [ascii "OPTIONS sip:hall SIP/2.0\r\n"], chunk_size := by decide },
    { chunks := [[13], ascii "\nOPTIONS sip:hall SIP/2.0\r"], chunk_size := by decide },
    { chunks := [[10, 13, 10]], chunk_size := by decide, peerClosed := true }]

/-- Both are handed on. -/
theorem split_pings_handed_on :
    let s := after (handleSipStream fun _ => true) {} splitPings
    s.delivered = [ping.bytes, ping.bytes] ∧ dropped s = false :=
  ((framing_exact (fun _ => true) [ping, ping] [] splitPings (by decide) (by decide)).1 rfl).2
    (along_fits_of_length (by decide))

/-- A thousand bytes of a body. -/
def bodyChunk : Bytes := List.replicate 1000 97

theorem length_bodyChunk : bodyChunk.length = 1000 := List.length_replicate

/-- A message with a body of 4000 bytes. -/
def longMessage : Message where
  head := ascii "Content-Length: 4000"
  body := (List.replicate 4 bodyChunk).flatten
  header_ends := by
    unfold HeaderEnds
    decide
  announces := .inr ⟨ascii "4000", by decide, by decide, by decide +kernel, by
    rw [List.length_flatten, List.map_replicate, length_bodyChunk]
    decide⟩
  body_fits := by
    rw [List.length_flatten, List.map_replicate, length_bodyChunk]
    decide
  fits := by
    rw [List.length_flatten, List.map_replicate, length_bodyChunk]
    decide

/-- The reads of one such message. -/
def longReads : List Bytes :=
  ascii "Content-Length: 4000\r\n\r\n" :: List.replicate 4 bodyChunk

theorem flatten_longReads : longReads.flatten = longMessage.bytes := by
  have hhead : ascii "Content-Length: 4000\r\n\r\n" =
      ascii "Content-Length: 4000" ++ separator := by decide
  unfold longReads Message.bytes longMessage
  rw [List.flatten_cons, hhead]

/-- Three of them, read in one call. -/
def burst : Reads where
  chunks := longReads ++ longReads ++ longReads
  chunk_size := by
    intro c hc
    have hmem : c ∈ longReads := by simpa using hc
    rcases List.mem_cons.1 hmem with rfl | hbody
    · decide
    · rw [List.eq_of_mem_replicate hbody, length_bodyChunk]
      decide

theorem bytes_burst :
    burst.bytes = [longMessage.bytes, longMessage.bytes, longMessage.bytes].flatten := by
  unfold burst Reads.bytes
  simp only [List.flatten_append, flatten_longReads, List.flatten_cons, List.flatten_nil,
    List.append_nil, List.append_assoc]

theorem length_longMessage : longMessage.bytes.length = 4024 := by
  rw [← flatten_longReads, longReads, List.flatten_cons, List.length_append, List.length_flatten,
    List.map_replicate, length_bodyChunk]
  decide

/-- Messages that arrive faster than they are read are not handed on, and the connection is
    dropped. -/
theorem burst_drops_the_connection :
    ¬ ∀ (ms : List Message) (rs : List Reads),
      bytesOf rs = (ms.map Message.bytes).flatten → (∀ r ∈ rs, r.peerClosed = false) →
      let s := after (handleSipStream fun _ => true) {} rs
      s.delivered = ms.map Message.bytes ∧ dropped s = false := by
  intro h
  have hbytes : bytesOf [burst] =
      ([longMessage, longMessage, longMessage].map Message.bytes).flatten := by
    unfold bytesOf
    rw [List.flatMap_singleton, bytes_burst]
    rfl
  have hopen : ∀ r ∈ [burst], r.peerClosed = false := by
    intro r hr
    rw [List.mem_singleton.1 hr]
    rfl
  have hkept := (h _ _ hbytes hopen).2
  have hlong : ¬(([] : Bytes) ++ burst.bytes).length ≤ maxSipTcpRxBuffer := by
    rw [List.nil_append, bytes_burst]
    simp only [List.flatten_cons, List.flatten_nil, List.length_append, List.length_nil,
      length_longMessage]
    decide
  have hnot : ¬Along (handleSipStream fun _ => true) (Fits fun _ => true) {} [burst] := by
    rintro ⟨hdead | hfits, _⟩
    · cases hdead
    · exact hlong hfits
  rw [dropped_of_not_fits hnot (Nat.zero_le _)] at hkept
  cases hkept

end SipStream

end EsphomeVoip
