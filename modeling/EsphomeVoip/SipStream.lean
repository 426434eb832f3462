import EsphomeVoip.ForStd.EventRun
import EsphomeVoip.ForStd.Framing

/-! # SIP over a stream connection (`handle_sip_stream_`, `sip_content_length`)

Each time the socket is readable everything that has arrived is appended to the buffer of the
connection, and the messages that the buffer begins with are handed to the dispatcher.  A message
ends where its `Content-Length` says. -/

namespace EsphomeVoip

open Framing (Verdict Decoder Intake drain push heard)

namespace SipStream

/-- `std::string`, as bytes. -/
abbrev Bytes := List UInt8

/-- The bytes of an ASCII text. -/
def ascii (s : String) : Bytes := s.toList.map fun c => UInt8.ofNat c.toNat

/-- `MAX_SIP_BODY_BYTES`. -/
def maxSipBodyBytes : Nat := 4096

/-- `MAX_SIP_TCP_RX_BUFFER`. -/
def maxSipTcpRxBuffer : Nat := 8192

/-! ## The header -/

/-- The empty line that ends the header: `"\r\n\r\n"`. -/
def separator : Bytes := [13, 10, 13, 10]

/-- `find("\r\n\r\n")`. -/
def findSeparator : Bytes → Option Nat
  | [] => none
  | b :: rest =>
    if separator.isPrefixOf (b :: rest) then some 0 else (findSeparator rest).map (· + 1)

/-- Put a byte before the first line. -/
def consLine (b : UInt8) : List Bytes → List Bytes
  | [] => [[b]]
  | line :: lines => (b :: line) :: lines

/-- The lines of a header, which `"\r\n"` separates. -/
def headerLines : Bytes → List Bytes
  | [] => [[]]
  | [b] => [[b]]
  | a :: b :: rest =>
    if a = 13 ∧ b = 10 then [] :: headerLines rest else consLine a (headerLines (b :: rest))

/-- The bytes that `trim_copy` removes. -/
def isBlank (b : UInt8) : Bool := b == 32 || b == 9 || b == 13 || b == 10

/-- `trim_copy`. -/
def trimCopy (s : Bytes) : Bytes := ((s.dropWhile isBlank).reverse.dropWhile isBlank).reverse

/-- `std::tolower`. -/
def toLower (b : UInt8) : UInt8 := if 65 ≤ b ∧ b ≤ 90 then b + 32 else b

/-- The trimmed value of a line that gives the length of the body. -/
def lengthField (line : Bytes) : Option Bytes :=
  match line.dropWhile (· != 58) with
  | [] => none
  | _ :: value =>
    let normalized := trimCopy ((line.takeWhile (· != 58)).map toLower)
    if normalized = ascii "content-length" ∨ normalized = ascii "l" then some (trimCopy value)
    else none

/-- `std::isdigit`. -/
def isDigit (b : UInt8) : Bool := 48 ≤ b && b ≤ 57

/-- The loop over the digits of a length. -/
def parseDigits : Nat → Bytes → Option Nat
  | parsed, [] => some parsed
  | parsed, b :: rest =>
    if isDigit b then
      let digit := b.toNat - 48
      if (maxSipTcpRxBuffer - digit) / 10 < parsed then none
      else parseDigits (parsed * 10 + digit) rest
    else none

/-- The loop of `sip_content_length` over the lines, with its variables `seen` and `out`. -/
def scanLength : Bool → Nat → List Bytes → Option Nat
  | _, out, [] => some out
  | seen, out, line :: lines =>
    match lengthField line with
    | none => scanLength seen out lines
    | some value =>
      if seen = true ∨ value = [] then none
      else match parseDigits 0 value with
        | none => none
        | some n => scanLength true n lines

/-- The bytes before the empty line. -/
def headerOf (msg : Bytes) : Bytes :=
  match findSeparator msg with
  | none => msg
  | some sep => msg.take sep

/-- `sip_content_length`. -/
def sipContentLength (msg : Bytes) : Option Nat := scanLength false 0 (headerLines (headerOf msg))

/-! ## The connection -/

/-- Why the connection was given up. -/
inductive StreamLoss where
  | overflow
  | contentLength
  | bodyLimit
  | frameLimit
  /-- The peer closed it, or reading failed. -/
  | peerClosed
  deriving DecidableEq, Repr

/-- What the second loop of `handle_sip_stream_` does with the buffer. -/
def look (buffer : Bytes) : Verdict StreamLoss :=
  match findSeparator buffer with
  | none => .wait
  | some sep =>
    match sipContentLength buffer with
    | none => .reject .contentLength
    | some bodyLen =>
      if maxSipBodyBytes < bodyLen then .reject .bodyLimit
      else if maxSipTcpRxBuffer < sep + 4 + bodyLen then .reject .frameLimit
      else if buffer.length < sep + 4 + bodyLen then .wait
      else .frame (sep + 4 + bodyLen)

/-- What one call of `handle_sip_stream_` reads: the results of `recv`, and whether the peer has
    closed the connection. -/
structure Reads where
  chunks : List Bytes
  chunk_size : ∀ c ∈ chunks, 0 < c.length ∧ c.length ≤ 1024
  peerClosed : Bool := false

/-- All that was read. -/
def Reads.bytes (r : Reads) : Bytes := r.chunks.flatten

/-- The first loop of `handle_sip_stream_`. There is no result when the buffer overflows. -/
def readChunks : Bytes → List Bytes → Option Bytes
  | buffer, [] => some buffer
  | buffer, c :: chunks =>
    if maxSipTcpRxBuffer < (buffer ++ c).length then none else readChunks (buffer ++ c) chunks

/-! ## What the decoder sees -/

theorem separator_isPrefixOf_append {xs : Bytes} (h : separator.isPrefixOf xs = true)
    (ys : Bytes) : separator.isPrefixOf (xs ++ ys) = true := by
  rw [List.isPrefixOf_iff_prefix] at h ⊢
  exact h.trans (List.prefix_append xs ys)

theorem findSeparator_le {xs : Bytes} {n : Nat} (h : findSeparator xs = some n) :
    n + 4 ≤ xs.length := by
  induction xs generalizing n with
  | nil => cases h
  | cons b xs ih =>
    unfold findSeparator at h
    split at h
    · rename_i hp
      have hlen := (List.isPrefixOf_iff_prefix.1 hp).length_le
      have hsep : separator.length = 4 := rfl
      simp only [Option.some.injEq] at h
      omega
    · cases hrest : findSeparator xs with
      | none => simp [hrest] at h
      | some k =>
        have hk := ih hrest
        simp only [hrest, Option.map_some, Option.some.injEq] at h
        simp only [List.length_cons]
        omega

/-- A separator that was found stays the first one. -/
theorem findSeparator_append {xs : Bytes} {n : Nat} (h : findSeparator xs = some n)
    (ys : Bytes) : findSeparator (xs ++ ys) = some n := by
  induction xs generalizing n with
  | nil => cases h
  | cons b xs ih =>
    unfold findSeparator at h
    rw [List.cons_append]
    unfold findSeparator
    split at h
    · rename_i hp
      have hp' : separator.isPrefixOf (b :: (xs ++ ys)) = true := separator_isPrefixOf_append hp ys
      rw [if_pos hp']
      exact h
    · rename_i hp
      cases hrest : findSeparator xs with
      | none => simp [hrest] at h
      | some k =>
        have hlen := findSeparator_le hrest
        have hsep : separator.length = 4 := rfl
        -- The separator is too short to reach beyond `xs`.
        have hnot : ¬separator.isPrefixOf (b :: (xs ++ ys)) = true := by
          intro hp'
          rw [List.isPrefixOf_iff_prefix] at hp'
          have hxs : b :: xs <+: b :: (xs ++ ys) := List.prefix_append (b :: xs) ys
          have hshort : separator <+: b :: xs :=
            List.prefix_of_prefix_length_le hp' hxs (by simp only [List.length_cons]; omega)
          exact hp (List.isPrefixOf_iff_prefix.2 hshort)
        rw [if_neg hnot, ih hrest]
        simpa [hrest] using h

theorem headerOf_append {xs : Bytes} {n : Nat} (h : findSeparator xs = some n) (ys : Bytes) :
    headerOf (xs ++ ys) = headerOf xs := by
  have hlen := findSeparator_le h
  unfold headerOf
  rw [findSeparator_append h, h]
  dsimp only
  rw [List.take_append_of_le_length (by omega)]

theorem sipContentLength_append {xs : Bytes} {n : Nat} (h : findSeparator xs = some n)
    (ys : Bytes) : sipContentLength (xs ++ ys) = sipContentLength xs := by
  unfold sipContentLength
  rw [headerOf_append h]

theorem look_nil : look [] = .wait := rfl

theorem look_frame_pos {xs : Bytes} {n : Nat} (h : look xs = .frame n) :
    0 < n ∧ n ≤ xs.length := by
  unfold look at h
  repeat' split at h
  all_goals cases h
  omega

/-- More bytes do not change what was decided. -/
theorem look_append (xs ys : Bytes) (h : look xs ≠ .wait) : look (xs ++ ys) = look xs := by
  cases hsep : findSeparator xs with
  | none =>
    unfold look at h
    rw [hsep] at h
    exact absurd rfl h
  | some sep =>
    unfold look at h ⊢
    rw [hsep] at h ⊢
    rw [findSeparator_append hsep, sipContentLength_append hsep]
    dsimp only at h ⊢
    cases hlen : sipContentLength xs with
    | none => rfl
    | some n =>
      rw [hlen] at h
      dsimp only at h ⊢
      by_cases hbody : maxSipBodyBytes < n
      · rw [if_pos hbody, if_pos hbody]
      · rw [if_neg hbody] at h ⊢
        rw [if_neg hbody]
        by_cases hframe : maxSipTcpRxBuffer < sep + 4 + n
        · rw [if_pos hframe, if_pos hframe]
        · rw [if_neg hframe] at h ⊢
          rw [if_neg hframe]
          by_cases hshort : xs.length < sep + 4 + n
          · rw [if_pos hshort] at h
            exact absurd rfl h
          · rw [if_neg hshort, if_neg (by rw [List.length_append]; omega)]

/-- The framing of `handle_sip_stream_`. -/
def decoder : Decoder UInt8 StreamLoss where
  look := look
  look_nil := look_nil
  frame_pos := look_frame_pos
  stable := look_append

/-- `handle_sip_stream_`. `owned` says of the messages handed over so far whether a dialog still
    has the connection after them. -/
def handleSipStream (owned : List Bytes → Bool) (r : Reads) (s : Intake UInt8 StreamLoss) :
    Intake UInt8 StreamLoss :=
  if s.live owned = false then s
  else match readChunks s.buffer r.chunks with
    | none => { s with buffer := [], error := some .overflow }
    | some buffer =>
      let s := drain decoder owned { s with buffer := buffer }
      if r.peerClosed = true ∧ s.live owned = true then
        { s with buffer := [], error := some .peerClosed }
      else s

end SipStream

end EsphomeVoip
