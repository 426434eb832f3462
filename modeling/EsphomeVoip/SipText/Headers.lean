import EsphomeVoip.SipFraming
import EsphomeVoip.SipText.NameAddr

/-! # Three readers of one header

`header_value` compares the beginning of a line with the name and a colon, `header_values` and
`sip_content_length` take the line apart at its first colon and trim the name.  A message is framed
by the third and its body is cut out with the first.  `readersAgree_iff` says which messages have
the same `Content-Length` for all three. -/

namespace EsphomeVoip

namespace SipText

open SipStream (Bytes ascii isBlank isDigit toLower trimCopy headerLines headerOf findSeparator
  sipContentLength lengthField lengthFields separator look maxSipBodyBytes maxSipTcpRxBuffer)
open Search (cut)

/-! ## The readers -/

/-- `compact` of `header_value`. -/
def compactName (canonical : Bytes) : Option Bytes :=
  if canonical = ascii "via" then some (ascii "v")
  else if canonical = ascii "from" then some (ascii "f")
  else if canonical = ascii "to" then some (ascii "t")
  else if canonical = ascii "call-id" then some (ascii "i")
  else if canonical = ascii "contact" then some (ascii "m")
  else if canonical = ascii "content-type" then some (ascii "c")
  else if canonical = ascii "content-length" then some (ascii "l")
  else none

/-- `starts_with_header`. -/
def startsWithHeader (candidate line : Bytes) : Bool :=
  !candidate.isEmpty && (candidate.map toLower).isPrefixOf (line.map toLower)

/-- The loop of `header_value` over the lines. -/
def findHeader (needle compactNeedle : Bytes) : List Bytes → Bytes
  | [] => []
  | line :: lines =>
    if line = [] then []
    else if startsWithHeader needle line then trimCopy (line.drop needle.length)
    else if startsWithHeader compactNeedle line then trimCopy (line.drop compactNeedle.length)
    else findHeader needle compactNeedle lines

/-- `header_value`. -/
def headerValue (msg name : Bytes) : Bytes :=
  let canonical := name.map toLower
  let compactNeedle := match compactName canonical with
    | none => []
    | some compact => compact ++ [colon]
  findHeader (canonical ++ [colon]) compactNeedle (headerLines msg)

/-- The loop of `header_values` over the lines, with its variable `out`. -/
def collectHeader (canonical : Bytes) (compact : Option Bytes) : Bytes → List Bytes → Bytes
  | out, [] => out
  | out, line :: lines =>
    if line = [] then out
    else
      match cut colon line with
      | none => collectHeader canonical compact out lines
      | some (key, value) =>
        let key := (trimCopy key).map toLower
        if key = canonical ∨ compact = some key then
          let out := if out = [] then [] else out ++ ascii "\r\nVia: "
          collectHeader canonical compact (out ++ trimCopy value) lines
        else collectHeader canonical compact out lines

/-- `header_values`. -/
def headerValues (msg name : Bytes) : Bytes :=
  let canonical := name.map toLower
  collectHeader canonical (if canonical = ascii "via" then some (ascii "v") else none) []
    (headerLines msg)

/-- The loop of `parse_decimal_u32` over the digits. -/
def parseDecimalDigits (maxValue : Nat) : Nat → Bytes → Option Nat
  | parsed, [] => some parsed
  | parsed, b :: rest =>
    if isDigit b then
      let digit := b.toNat - 48
      if maxValue < digit ∨ (maxValue - digit) / 10 < parsed then none
      else parseDecimalDigits maxValue (parsed * 10 + digit) rest
    else none

/-- `parse_decimal_u32`. -/
def parseDecimalU32 (raw : Bytes) (maxValue : Nat) : Option Nat :=
  let value := trimCopy raw
  if value = [] then none else parseDecimalDigits maxValue 0 value

/-- `message_body`. -/
def messageBody (msg : Bytes) : Bytes :=
  match findSeparator msg with
  | none => []
  | some sep =>
    let rest := msg.drop (sep + 4)
    let contentLength := headerValue msg (ascii "Content-Length")
    if contentLength = [] then rest
    else
      match parseDecimalU32 contentLength maxSipBodyBytes with
      | none => []
      | some declared => if rest.length < declared then [] else rest.take declared

/-- `handle_sip_datagram_unlocked_` does not find `invalid_framing`. -/
def acceptsFraming (msg : Bytes) : Bool :=
  match sipContentLength msg with
  | none => false
  | some declared =>
    if headerValue msg (ascii "Content-Length") = [] then true
    else
      match findSeparator msg with
      | none => false
      | some sep => declared == msg.length - sep - 4

/-- `sip_rx_scratch_.size() - 1`. -/
def maxDatagram : Nat := 2047

/-- The bytes come to `handle_sip_datagram_`: as a datagram, or from `handle_sip_stream_`, which has
    cut them off its buffer. -/
def Arrives (msg : Bytes) : Prop :=
  msg.length ≤ maxDatagram ∨ ∃ buffer total, look buffer = .frame total ∧ msg = buffer.take total

/-! ## Lines -/

theorem headerLines_ne_nil (xs : Bytes) : headerLines xs ≠ [] := by
  fun_induction headerLines xs with
  | case1 => exact List.cons_ne_nil _ _
  | case2 => exact List.cons_ne_nil _ _
  | case3 => exact List.cons_ne_nil _ _
  | case4 a b rest _ ih =>
    cases h : headerLines (b :: rest) with
    | nil => exact absurd h ih
    | cons => exact List.cons_ne_nil _ _

theorem consLine_append {b : UInt8} {ls : List Bytes} (h : ls ≠ []) (ms : List Bytes) :
    SipStream.consLine b (ls ++ ms) = SipStream.consLine b ls ++ ms := by
  cases ls with
  | nil => exact absurd rfl h
  | cons l ls => rfl

/-- A line ends at `"\r\n"`. -/
theorem headerLines_append (xs rest : Bytes) :
    headerLines (xs ++ 13 :: 10 :: rest) = headerLines xs ++ headerLines rest := by
  fun_induction headerLines xs with
  | case1 => rw [List.nil_append, headerLines, if_pos ⟨rfl, rfl⟩]; rfl
  | case2 b =>
    rw [List.cons_append, List.nil_append, headerLines, if_neg (by simp), headerLines,
      if_pos ⟨rfl, rfl⟩]
    rfl
  | case3 a b tail hend ih =>
    rw [List.cons_append, List.cons_append, headerLines, if_pos hend, ih]
    rfl
  | case4 a b tail hend ih =>
    rw [List.cons_append, List.cons_append, headerLines, if_neg hend, ← List.cons_append, ih,
      consLine_append (headerLines_ne_nil _)]

/-- Lines with `"\r\n"` between them. -/
def joinLines : List Bytes → Bytes
  | [] => []
  | [line] => line
  | line :: lines => line ++ 13 :: 10 :: joinLines lines

theorem joinLines_cons {ls : List Bytes} (h : ls ≠ []) (line : Bytes) :
    joinLines (line :: ls) = line ++ 13 :: 10 :: joinLines ls := by
  cases ls with
  | nil => exact absurd rfl h
  | cons l ls => rfl

theorem joinLines_consLine {ls : List Bytes} (h : ls ≠ []) (b : UInt8) :
    joinLines (SipStream.consLine b ls) = b :: joinLines ls := by
  match ls with
  | [] => exact absurd rfl h
  | [_] => rfl
  | _ :: _ :: _ => rfl

theorem joinLines_headerLines (xs : Bytes) : joinLines (headerLines xs) = xs := by
  fun_induction headerLines xs with
  | case1 => rfl
  | case2 => rfl
  | case3 a b tail hend ih =>
    rw [joinLines_cons (headerLines_ne_nil tail), ih, hend.1, hend.2]
    rfl
  | case4 a b tail hend ih => rw [joinLines_consLine (headerLines_ne_nil _), ih]

theorem joinLines_append {ls ms : List Bytes} (hls : ls ≠ []) (hms : ms ≠ []) :
    joinLines (ls ++ ms) = joinLines ls ++ 13 :: 10 :: joinLines ms := by
  induction ls with
  | nil => exact absurd rfl hls
  | cons l ls ih =>
    cases ls with
    | nil => exact joinLines_cons hms l
    | cons k ls =>
      rw [List.cons_append, joinLines_cons (by simp), ih (List.cons_ne_nil _ _),
        joinLines_cons (List.cons_ne_nil _ _), List.append_assoc]
      rfl

theorem findSeparator_eq_find (xs : Bytes) : findSeparator xs = Search.find separator xs := by
  induction xs with
  | nil => rfl
  | cons b xs ih => rw [findSeparator, Search.find, ih]

theorem separator_of_find {xs : Bytes} {n : Nat} (h : findSeparator xs = some n) :
    Search.Clear separator (xs.take n) (xs.drop n) ∧
      xs.drop n = 13 :: 10 :: 13 :: 10 :: xs.drop (n + 4) := by
  rw [findSeparator_eq_find] at h
  obtain ⟨hclear, rest, hrest⟩ := Search.find_some h
  refine ⟨hclear, ?_⟩
  rw [← List.drop_drop, ← hrest]
  rfl

theorem findSeparator_ne_none (xs rest : Bytes) :
    findSeparator (xs ++ separator ++ rest) ≠ none := by
  rw [findSeparator_eq_find, Ne, Search.find_eq_none_iff (by decide), Decidable.not_not]
  exact ⟨xs, rest, rfl⟩

/-- An empty line in the header is its first line, or it is at the end of a message that has no
    empty line to end the header. -/
theorem eq_nil_of_empty_line {msg : Bytes} {before behind : List Bytes}
    (h : headerLines (headerOf msg) = before ++ [] :: behind) : before = [] ∨ behind = [] := by
  by_cases hbefore : before = []
  · exact .inl hbefore
  · refine .inr (Decidable.byContradiction fun hbehind => ?_)
    have hjoin := joinLines_headerLines (headerOf msg)
    rw [h, joinLines_append hbefore (List.cons_ne_nil _ _), joinLines_cons hbehind,
      List.nil_append] at hjoin
    cases hsep : findSeparator msg with
    | none =>
      -- the header would end at the empty line
      simp only [headerOf, hsep] at hjoin
      rw [← hjoin] at hsep
      have hfound := findSeparator_ne_none (joinLines before) (joinLines behind)
      rw [List.append_assoc] at hfound
      exact hfound hsep
    | some sep =>
      simp only [headerOf, hsep] at hjoin
      have hclear := (separator_of_find hsep).1
      rw [← hjoin, Search.clear_append] at hclear
      apply hclear.2.1
      exact ⟨_, rfl⟩

/-- The lines of a message are those of its header, before an empty line. -/
theorem headerLines_eq (msg : Bytes) :
    ∃ rest, headerLines msg = headerLines (headerOf msg) ++ rest ∧
    (rest = [] ∨ rest.head? = some []) := by
  cases hsep : findSeparator msg with
  | none =>
    refine ⟨[], ?_, .inl rfl⟩
    rw [headerOf, hsep, List.append_nil]
  | some sep =>
    obtain ⟨-, hdrop⟩ := separator_of_find hsep
    refine ⟨[] :: headerLines (msg.drop (sep + 4)), ?_, .inr rfl⟩
    have hline : headerLines (13 :: 10 :: msg.drop (sep + 4)) =
        [] :: headerLines (msg.drop (sep + 4)) := by
      rw [headerLines, if_pos ⟨rfl, rfl⟩]
    rw [headerOf, hsep]
    simp only
    rw [← hline, ← headerLines_append, ← hdrop, List.take_append_drop]

/-- The lines up to the first empty one. -/
def topLines (lines : List Bytes) : List Bytes := lines.takeWhile (!·.isEmpty)

theorem topLines_headerLines (msg : Bytes) :
    topLines (headerLines msg) = topLines (headerLines (headerOf msg)) := by
  obtain ⟨rest, hlines, hrest⟩ := headerLines_eq msg
  rw [hlines, topLines, topLines, List.takeWhile_append]
  split
  · have hstop : rest.takeWhile (!·.isEmpty) = [] := by
      cases rest with
      | nil => rfl
      | cons line rest =>
        have hline : line = [] := by simpa using hrest
        rw [hline]
        rfl
    rename_i hall
    rw [hstop, List.append_nil]
    exact ((List.takeWhile_prefix _).eq_of_length hall).symm
  · rfl

/-- All lengths of the body are in the lines up to the first empty one, unless that is the first of
    all. -/
theorem filterMap_topLines {msg : Bytes} (h : (headerLines (headerOf msg)).head? ≠ some []) :
    (topLines (headerLines msg)).filterMap lengthField = lengthFields (headerOf msg) := by
  rw [topLines_headerLines]
  have hsplit := List.takeWhile_append_dropWhile (p := (!·.isEmpty))
    (l := headerLines (headerOf msg))
  cases hrest : (headerLines (headerOf msg)).dropWhile (!·.isEmpty) with
  | nil =>
    rw [hrest, List.append_nil] at hsplit
    rw [topLines, hsplit]
    rfl
  | cons line behind =>
    have hempty : line = [] := by
      have hline := List.head?_dropWhile_not (!·.isEmpty) (headerLines (headerOf msg))
      rw [hrest] at hline
      simpa using hline
    rw [hrest, hempty] at hsplit
    have hnil : behind = [] := by
      refine (eq_nil_of_empty_line hsplit.symm).resolve_left fun hbefore => ?_
      rw [hbefore, List.nil_append] at hsplit
      rw [← hsplit] at h
      exact h rfl
    have hfield : lengthField [] = none := rfl
    have hall := congrArg (List.filterMap lengthField) hsplit
    rw [hnil, List.filterMap_append, List.filterMap_cons_none hfield, List.filterMap_nil,
      List.append_nil] at hall
    exact hall

/-! ## One line -/

theorem isBlank_toLower (b : UInt8) : isBlank (toLower b) = isBlank b :=
  forall_byte (p := fun b => isBlank (toLower b) = isBlank b) (by decide) b

theorem trimCopy_map_toLower (s : Bytes) : trimCopy (s.map toLower) = (trimCopy s).map toLower := by
  have hblank : (isBlank ∘ toLower) = isBlank := funext isBlank_toLower
  rw [trimCopy, trimCopy, List.dropWhile_map, hblank, ← List.map_reverse,
    List.dropWhile_map, hblank,
    ← List.map_reverse]

theorem lengthField_eq (line : Bytes) :
    lengthField line = (cut colon line).bind fun (key, value) =>
      if (trimCopy key).map toLower = ascii "content-length" ∨
        (trimCopy key).map toLower = ascii "l" then some (trimCopy value) else none := by
  generalize hrest : line.dropWhile (· != 58) = rest
  rw [lengthField, cut, colon, hrest]
  cases rest with
  | nil => rfl
  | cons b value =>
    show (if trimCopy ((line.takeWhile (· != 58)).map toLower) = ascii "content-length" ∨
      trimCopy ((line.takeWhile (· != 58)).map toLower) = ascii "l" then some (trimCopy value)
      else none) = _
    rw [trimCopy_map_toLower]
    rfl

theorem toLower_eq_colon {b : UInt8} (h : toLower b = colon) : b = colon := by
  have hall : ∀ b, toLower b = colon → b = colon := forall_byte (by decide)
  exact hall b h

/-- A line that begins with a name and a colon is taken apart at the end of the name. -/
theorem startsWithHeader_iff {name line : Bytes} (hname : colon ∉ name)
    (hlower : name.map toLower = name) :
    startsWithHeader (name ++ [colon]) line = true ↔
      ∃ key value, cut colon line = some (key, value) ∧ key.map toLower = name := by
  have hneedle : (name ++ [colon]).map toLower = name ++ [colon] := by
    rw [List.map_append, hlower]
    rfl
  have hempty : (!(name ++ [colon]).isEmpty) = true := by simp
  rw [startsWithHeader, hempty, hneedle, Bool.true_and, List.isPrefixOf_iff_prefix]
  constructor
  · rintro ⟨rest, hrest⟩
    rw [List.append_assoc] at hrest
    obtain ⟨key, tail, rfl, hkey, htail⟩ := List.map_eq_append_iff.mp hrest.symm
    obtain ⟨b, value, rfl, hb, -⟩ := List.map_eq_cons_iff.mp htail
    have hclean : colon ∉ key := by
      intro hmem
      apply hname
      rw [← hkey]
      exact List.mem_map.mpr ⟨colon, hmem, rfl⟩
    rw [toLower_eq_colon hb]
    exact ⟨key, value, Search.cut_eq hclean value, hkey⟩
  · rintro ⟨key, value, hcut, hkey⟩
    obtain ⟨rfl, -⟩ := Search.cut_some hcut
    refine ⟨value.map toLower, ?_⟩
    rw [List.map_append, hkey, List.map_cons, List.append_assoc]
    rfl

/-- What is behind the name and the colon. -/
theorem drop_of_cut {name key value line : Bytes} (hcut : cut colon line = some (key, value))
    (hkey : key.map toLower = name) : line.drop (name ++ [colon]).length = value := by
  obtain ⟨rfl, -⟩ := Search.cut_some hcut
  have hlength : (name ++ [colon]).length = key.length + 1 := by
    rw [← hkey, List.length_append, List.length_map]
    rfl
  rw [hlength, ← List.drop_drop, List.drop_left]
  rfl

/-! ## All lines -/

theorem findHeader_topLines (needle compactNeedle : Bytes) (lines : List Bytes) :
    findHeader needle compactNeedle (topLines lines) = findHeader needle compactNeedle lines := by
  induction lines with
  | nil => rfl
  | cons line lines ih =>
    rw [topLines, List.takeWhile_cons]
    cases line with
    | nil => rfl
    | cons b line =>
      rw [if_pos (by rfl), findHeader, findHeader, ← topLines, ih]

theorem collectHeader_topLines (canonical : Bytes) (compact : Option Bytes) (out : Bytes)
    (lines : List Bytes) :
    collectHeader canonical compact out (topLines lines) =
      collectHeader canonical compact out lines := by
  induction lines generalizing out with
  | nil => rfl
  | cons line lines ih =>
    rw [topLines, List.takeWhile_cons]
    cases line with
    | nil => rfl
    | cons b line =>
      rw [if_pos (by rfl), collectHeader, collectHeader, ← topLines]
      simp only [ih]

/-- What `header_value` returns comes from a line with the name. -/
theorem exists_line_of_findHeader {needle compactNeedle : Bytes} {lines : List Bytes}
    (h : findHeader needle compactNeedle lines ≠ []) :
    ∃ line ∈ lines, startsWithHeader needle line = true ∨
      startsWithHeader compactNeedle line = true := by
  induction lines with
  | nil => exact absurd rfl h
  | cons line lines ih =>
    rw [findHeader] at h
    split at h
    · exact absurd rfl h
    · split at h
      · rename_i hline
        exact ⟨line, List.mem_cons_self, .inl hline⟩
      · split at h
        · rename_i hline
          exact ⟨line, List.mem_cons_self, .inr hline⟩
        · obtain ⟨found, hmem, hfound⟩ := ih h
          exact ⟨found, List.mem_cons_of_mem _ hmem, hfound⟩

/-- What `header_values` returns comes from a line with the name. -/
theorem exists_line_of_collectHeader {canonical : Bytes} {lines : List Bytes}
    (h : collectHeader canonical none [] lines ≠ []) :
    ∃ line ∈ lines, ∃ key value, cut colon line = some (key, value) ∧
      (trimCopy key).map toLower = canonical := by
  induction lines with
  | nil => exact absurd rfl h
  | cons line lines ih =>
    rw [collectHeader] at h
    split at h
    · exact absurd rfl h
    · have hlater (h : collectHeader canonical none [] lines ≠ []) :
          ∃ found ∈ line :: lines, ∃ key value, cut colon found = some (key, value) ∧
            (trimCopy key).map toLower = canonical := by
        obtain ⟨found, hmem, hfound⟩ := ih h
        exact ⟨found, List.mem_cons_of_mem _ hmem, hfound⟩
      split at h
      · exact hlater h
      · rename_i key value hcut
        simp only at h
        split at h
        · rename_i hkey
          have hname := hkey.resolve_right (by simp)
          exact ⟨line, List.mem_cons_self, key, value, hcut, hname⟩
        · exact hlater h

/-- The first line with the name counts. -/
theorem findHeader_append {needle compactNeedle line : Bytes} {before : List Bytes}
    (hbefore : ∀ l ∈ before, l ≠ [] ∧ startsWithHeader needle l = false ∧
      startsWithHeader compactNeedle l = false)
    (hline : startsWithHeader needle line = true) (behind : List Bytes) :
    findHeader needle compactNeedle (before ++ line :: behind) =
      trimCopy (line.drop needle.length) := by
  induction before with
  | nil =>
    have hne : line ≠ [] := by
      rintro rfl
      rw [startsWithHeader, Bool.and_eq_true, List.map_nil, List.isPrefixOf_iff_prefix,
        List.prefix_nil, List.map_eq_nil_iff] at hline
      rw [hline.2] at hline
      exact absurd hline.1 (by decide)
    rw [List.nil_append, findHeader, if_neg hne, if_pos hline]
  | cons l before ih =>
    rw [List.forall_mem_cons] at hbefore
    rw [List.cons_append, findHeader, if_neg hbefore.1.1, hbefore.1.2.1, if_neg (by decide),
      hbefore.1.2.2, if_neg (by decide), ih hbefore.2]

/-- Lines with other names are passed over. -/
theorem collectHeader_of_other {canonical : Bytes} {lines : List Bytes}
    (h : ∀ line ∈ lines, ∀ key value, cut colon line = some (key, value) →
      (trimCopy key).map toLower ≠ canonical) (out : Bytes) :
    collectHeader canonical none out lines = out := by
  induction lines with
  | nil => rfl
  | cons line lines ih =>
    rw [List.forall_mem_cons] at h
    rw [collectHeader]
    split
    · rfl
    · split
      · exact ih h.2
      · rename_i key value hcut
        simp only
        rw [if_neg (by simp [h.1 key value hcut])]
        exact ih h.2

theorem collectHeader_append {canonical line key value : Bytes} {before behind : List Bytes}
    (hbefore : ∀ l ∈ before, l ≠ [] ∧ ∀ key value, cut colon l = some (key, value) →
      (trimCopy key).map toLower ≠ canonical)
    (hcut : cut colon line = some (key, value)) (hkey : (trimCopy key).map toLower = canonical)
    (hbehind : ∀ l ∈ behind, ∀ key value, cut colon l = some (key, value) →
      (trimCopy key).map toLower ≠ canonical) :
    collectHeader canonical none [] (before ++ line :: behind) = trimCopy value := by
  induction before with
  | nil =>
    have hne : line ≠ [] := by
      rintro rfl
      cases hcut
    rw [List.nil_append, collectHeader, if_neg hne, hcut]
    simp only
    rw [if_pos (.inl hkey), collectHeader_of_other hbehind]
    rfl
  | cons l before ih =>
    rw [List.forall_mem_cons] at hbefore
    rw [List.cons_append, collectHeader, if_neg hbefore.1.1]
    split
    · exact ih hbefore.2
    · rename_i key' value' hcut'
      simp only
      rw [if_neg (by simp [hbefore.1.2 key' value' hcut']), ih hbefore.2]

/-! ## The length of the body -/

/-- `Content-Length` and the names that the readers compare with. -/
theorem contentLength_names :
    (ascii "Content-Length").map toLower = ascii "content-length" ∧
      compactName (ascii "content-length") = some (ascii "l") := by
  decide

theorem headerValue_contentLength (msg : Bytes) :
    headerValue msg (ascii "Content-Length") =
      findHeader (ascii "content-length" ++ [colon]) (ascii "l" ++ [colon]) (headerLines msg) := by
  rw [headerValue, contentLength_names.1]
  simp only [contentLength_names.2]

theorem headerValues_contentLength (msg : Bytes) :
    headerValues msg (ascii "Content-Length") =
      collectHeader (ascii "content-length") none [] (headerLines msg) := by
  rw [headerValues, contentLength_names.1, if_neg (by decide)]

/-- A line that one of the other readers takes for the length is one. -/
theorem lengthField_of_cut {line key value : Bytes} (hcut : cut colon line = some (key, value))
    (hkey : (trimCopy key).map toLower = ascii "content-length" ∨
      (trimCopy key).map toLower = ascii "l") : lengthField line = some (trimCopy value) := by
  rw [lengthField_eq, hcut, Option.bind_some]
  simp only
  rw [if_pos hkey]

/-- A name in front of the colon, without blanks. -/
theorem trimCopy_key {key name : Bytes} (hname : ∀ b ∈ name, isBlank b = false)
    (hkey : key.map toLower = name) : (trimCopy key).map toLower = name := by
  rw [← trimCopy_map_toLower, hkey, trimCopy_of_forall hname]

theorem startsWith_full {line : Bytes} :
    startsWithHeader (ascii "content-length" ++ [colon]) line = true ↔
      ∃ key value, cut colon line = some (key, value) ∧ key.map toLower = ascii "content-length" :=
  startsWithHeader_iff (by decide) (by decide)

theorem startsWith_compact {line : Bytes} :
    startsWithHeader (ascii "l" ++ [colon]) line = true ↔
      ∃ key value, cut colon line = some (key, value) ∧ key.map toLower = ascii "l" :=
  startsWithHeader_iff (by decide) (by decide)

theorem lengthField_of_full {line : Bytes}
    (h : startsWithHeader (ascii "content-length" ++ [colon]) line = true) :
    lengthField line ≠ none := by
  obtain ⟨key, value, hcut, hkey⟩ := startsWith_full.mp h
  rw [lengthField_of_cut hcut (.inl (trimCopy_key (by decide +kernel) hkey))]
  exact Option.some_ne_none _

theorem lengthField_of_compact {line : Bytes}
    (h : startsWithHeader (ascii "l" ++ [colon]) line = true) : lengthField line ≠ none := by
  obtain ⟨key, value, hcut, hkey⟩ := startsWith_compact.mp h
  rw [lengthField_of_cut hcut (.inr (trimCopy_key (by decide +kernel) hkey))]
  exact Option.some_ne_none _

/-- Digits that denote a number within the bound are read as that number. -/
theorem parseDecimalDigits_of_digits {v : Bytes} (hv : ∀ b ∈ v, isDigit b = true) {maxValue n : Nat}
    (hle : SipStream.decimalFrom n v ≤ maxValue) :
    parseDecimalDigits maxValue n v = some (SipStream.decimalFrom n v) := by
  induction v generalizing n with
  | nil => rfl
  | cons b v ih =>
    rw [List.forall_mem_cons] at hv
    have hgrow : n * 10 + (b.toNat - 48) ≤ SipStream.decimalFrom n (b :: v) :=
      SipStream.le_decimalFrom v _
    rw [parseDecimalDigits, if_pos hv.1]
    simp only
    rw [if_neg (by omega)]
    exact ih hv.2 hle

theorem isBlank_of_isDigit {b : UInt8} (h : isDigit b = true) : isBlank b = false := by
  have hall : ∀ b, isDigit b = true → isBlank b = false := forall_byte (by decide)
  exact hall b h

/-- The separator of a message that was cut off the stream. -/
theorem findSeparator_take {xs : Bytes} {n k : Nat} (h : findSeparator xs = some n)
    (hk : n + 4 ≤ k) : findSeparator (xs.take k) = some n := by
  induction xs generalizing n k with
  | nil => cases h
  | cons b xs ih =>
    obtain ⟨k, rfl⟩ : ∃ m, k = m + 1 := ⟨k - 1, by omega⟩
    rw [findSeparator] at h
    rw [List.take_succ_cons, findSeparator, ← List.take_succ_cons]
    have hpre : separator <+: (b :: xs).take (k + 1) ↔ separator <+: b :: xs := by
      have hsep : separator.length ≤ k + 1 := by
        have : separator.length = 4 := rfl
        omega
      rw [List.prefix_take_iff]
      exact and_iff_left hsep
    split at h
    · rename_i hp
      rw [if_pos (by rw [List.isPrefixOf_iff_prefix, hpre, ← List.isPrefixOf_iff_prefix]; exact hp)]
      exact h
    · rename_i hp
      rw [if_neg (by rw [List.isPrefixOf_iff_prefix, hpre, ← List.isPrefixOf_iff_prefix]; exact hp)]
      obtain ⟨m, hm, rfl⟩ := Option.map_eq_some_iff.mp h
      rw [ih hm (by omega)]
      rfl

/-- The body of a message that has arrived is within the limit. -/
theorem Arrives.body_le {msg : Bytes} (h : Arrives msg) {n sep : Nat}
    (hlength : sipContentLength msg = some n) (hsep : findSeparator msg = some sep)
    (hbody : n = msg.length - sep - 4) : n ≤ maxSipBodyBytes := by
  rcases h with hshort | ⟨buffer, total, hlook, rfl⟩
  · have hmax : maxDatagram ≤ maxSipBodyBytes := by decide
    omega
  · rw [look] at hlook
    split at hlook
    · cases hlook
    · rename_i sep' hsep'
      split at hlook
      · cases hlook
      · rename_i bodyLen hlen'
        -- the length was read from the same header before the message was cut off
        split at hlook
        · cases hlook
        · split at hlook
          · cases hlook
          · split at hlook
            · cases hlook
            · cases hlook
              have htake := findSeparator_take hsep' (k := sep' + 4 + bodyLen) (by omega)
              rw [htake] at hsep
              cases hsep
              rw [List.length_take] at hbody
              omega

/-! ## Agreement -/

/-- The readers take the same header for the length of the body, or all find none, and the body is
    of the length that frames the message. -/
structure ReadersAgree (msg : Bytes) : Prop where
  value : headerValue msg (ascii "Content-Length") = (lengthFields (headerOf msg)).head?.getD []
  values : headerValues msg (ascii "Content-Length") = (lengthFields (headerOf msg)).head?.getD []
  body : lengthFields (headerOf msg) ≠ [] → sipContentLength msg = some (messageBody msg).length

/-- The `Content-Length` of the message is written with its full name right in front of the colon,
    and the message does not begin with an empty line. -/
def PlainLength (msg : Bytes) : Prop :=
  (headerLines (headerOf msg)).head? ≠ some [] ∧
    ∃ line ∈ headerLines (headerOf msg),
      startsWithHeader (ascii "content-length:") line = true

theorem mem_of_mem_topLines {msg line : Bytes} (h : line ∈ topLines (headerLines msg)) :
    line ∈ headerLines (headerOf msg) := by
  rw [topLines_headerLines] at h
  exact (List.takeWhile_sublist _).subset h

/-- The line that gives the one length there is. -/
theorem eq_of_lengthField {msg v : Bytes} (h : lengthFields (headerOf msg) = [v]) {l m : Bytes}
    (hl : l ∈ headerLines (headerOf msg)) (hm : m ∈ headerLines (headerOf msg))
    (hfl : lengthField l ≠ none) (hfm : lengthField m ≠ none) : l = m := by
  obtain ⟨before, line, behind, hlines, hbefore, -, hbehind⟩ := List.filterMap_eq_cons_iff.mp h
  rw [List.filterMap_eq_nil_iff] at hbehind
  have hone : ∀ k ∈ headerLines (headerOf msg), lengthField k ≠ none → k = line := by
    intro k hk hfk
    rw [hlines] at hk
    rcases List.mem_append.mp hk with hk | hk
    · exact absurd (hbefore k hk) hfk
    · rcases List.mem_cons.mp hk with rfl | hk
      · rfl
      · exact absurd (hbehind k hk) hfk
  rw [hone l hl hfl, hone m hm hfm]

/-- Without a length none of the readers returns one. -/
theorem headers_of_nil {msg : Bytes} (h : lengthFields (headerOf msg) = []) :
    headerValue msg (ascii "Content-Length") = [] ∧
      headerValues msg (ascii "Content-Length") = [] := by
  have hnone : ∀ line ∈ topLines (headerLines msg), lengthField line = none := fun line hline =>
    List.filterMap_eq_nil_iff.mp h line (mem_of_mem_topLines hline)
  constructor
  · refine Decidable.byContradiction fun hne => ?_
    rw [headerValue_contentLength, ← findHeader_topLines] at hne
    obtain ⟨line, hline, hstarts | hstarts⟩ := exists_line_of_findHeader hne
    · exact lengthField_of_full hstarts (hnone line hline)
    · exact lengthField_of_compact hstarts (hnone line hline)
  · refine Decidable.byContradiction fun hne => ?_
    rw [headerValues_contentLength, ← collectHeader_topLines] at hne
    obtain ⟨line, hline, key, value, hcut, hkey⟩ := exists_line_of_collectHeader hne
    have hnot := hnone line hline
    rw [lengthField_of_cut hcut (.inl hkey)] at hnot
    cases hnot

/-- A length that both readers of headers find is plain. -/
theorem plainLength_of_ne_nil {msg v : Bytes} (h : lengthFields (headerOf msg) = [v])
    (hvalue : headerValue msg (ascii "Content-Length") ≠ [])
    (hvalues : headerValues msg (ascii "Content-Length") ≠ []) : PlainLength msg := by
  rw [headerValue_contentLength, ← findHeader_topLines] at hvalue
  rw [headerValues_contentLength, ← collectHeader_topLines] at hvalues
  obtain ⟨line, hline, hstarts⟩ := exists_line_of_findHeader hvalue
  obtain ⟨line', hline', key, value, hcut, hkey⟩ := exists_line_of_collectHeader hvalues
  have hfield' : lengthField line' ≠ none := by
    rw [lengthField_of_cut hcut (.inl hkey)]
    exact Option.some_ne_none _
  constructor
  · intro hhead
    rw [topLines_headerLines] at hline
    cases hlines : headerLines (headerOf msg) with
    | nil => exact absurd hlines (headerLines_ne_nil _)
    | cons first rest =>
      rw [hlines] at hhead hline
      cases hhead
      exact absurd hline List.not_mem_nil
  · refine ⟨line, mem_of_mem_topLines hline, hstarts.resolve_right fun hcompact => ?_⟩
    have hsame := eq_of_lengthField h (mem_of_mem_topLines hline) (mem_of_mem_topLines hline')
      (lengthField_of_compact hcompact) hfield'
    -- the compact name is not the full one
    obtain ⟨key', value', hcut', hkey'⟩ := startsWith_compact.mp hcompact
    rw [hsame, hcut] at hcut'
    cases hcut'
    rw [trimCopy_key (by decide +kernel) hkey'] at hkey
    exact absurd hkey (by decide)

/-- A plain length is found by both readers. -/
theorem headers_of_plainLength {msg v : Bytes} (h : lengthFields (headerOf msg) = [v])
    (hplain : PlainLength msg) :
    headerValue msg (ascii "Content-Length") = v ∧
      headerValues msg (ascii "Content-Length") = v := by
  obtain ⟨hhead, line, hline, hstarts⟩ := hplain
  have htop := filterMap_topLines hhead
  rw [h] at htop
  obtain ⟨before, line', behind, hlines, hbefore, hfield, hbehind⟩ :=
    List.filterMap_eq_cons_iff.mp htop
  rw [List.filterMap_eq_nil_iff] at hbehind
  have hmem : line' ∈ topLines (headerLines msg) := by
    rw [hlines]
    exact List.mem_append_right _ List.mem_cons_self
  -- The plain line is the only line above the body that gives a length.
  have hsame : line = line' := by
    refine eq_of_lengthField h hline (mem_of_mem_topLines hmem) (lengthField_of_full hstarts) ?_
    rw [hfield]
    exact Option.some_ne_none v
  rw [hsame] at hstarts
  have hneedle : startsWithHeader (ascii "content-length" ++ [colon]) line' = true := hstarts
  obtain ⟨key, value, hcut, hkey⟩ := startsWith_full.mp hneedle
  have hname := trimCopy_key (by decide +kernel) hkey
  have hv : trimCopy value = v := by
    rw [lengthField_of_cut hcut (.inl hname)] at hfield
    exact Option.some.inj hfield
  -- No other line has the name as its key.
  have hother (lines : List Bytes) (hlines : ∀ l ∈ lines, lengthField l = none) :
      ∀ l ∈ lines, ∀ key value, cut colon l = some (key, value) →
        (trimCopy key).map toLower ≠ ascii "content-length" := by
    intro l hl key value hcut hkey
    have hnot := hlines l hl
    rw [lengthField_of_cut hcut (.inl hkey)] at hnot
    cases hnot
  -- The lines above it belong to the header, so that none of them is empty.
  have hnonempty : ∀ l ∈ before, l ≠ [] := by
    intro l hl hnil
    have hall : l ∈ topLines (headerLines msg) := by
      rw [hlines]
      exact List.mem_append_left _ hl
    have hkept := List.all_eq_true.mp
      (List.all_takeWhile (p := fun line : Bytes => !line.isEmpty) (l := headerLines msg)) l hall
    rw [hnil] at hkept
    cases hkept
  constructor
  · -- This reader goes down to the line and skips the others.
    rw [headerValue_contentLength, ← findHeader_topLines, hlines, findHeader_append _ hneedle,
      drop_of_cut hcut hkey, hv]
    intro l hl
    refine ⟨hnonempty l hl, ?_, ?_⟩
    · rw [Bool.eq_false_iff]
      exact fun hs => lengthField_of_full hs (hbefore l hl)
    · rw [Bool.eq_false_iff]
      exact fun hs => lengthField_of_compact hs (hbefore l hl)
  · rw [headerValues_contentLength, ← collectHeader_topLines, hlines,
      collectHeader_append _ hcut hname (hother behind hbehind), hv]
    exact fun l hl => ⟨hnonempty l hl, hother before hbefore l hl⟩

/-- The body is of the length that all readers have found. -/
theorem messageBody_length {msg v : Bytes} {n : Nat} (harrives : Arrives msg)
    (haccepts : acceptsFraming msg = true) (hlength : sipContentLength msg = some n)
    (hvalue : headerValue msg (ascii "Content-Length") = v) (hne : v ≠ [])
    (hdigits : ∀ b ∈ v, isDigit b = true) (hn : SipStream.decimalFrom 0 v = n) :
    (messageBody msg).length = n := by
  rw [acceptsFraming, hlength] at haccepts
  simp only [hvalue, if_neg hne] at haccepts
  cases hsep : findSeparator msg with
  | none =>
    rw [hsep] at haccepts
    cases haccepts
  | some sep =>
    rw [hsep] at haccepts
    have hbody : n = msg.length - sep - 4 := by simpa using haccepts
    have hle := harrives.body_le hlength hsep hbody
    have hparse : parseDecimalU32 v maxSipBodyBytes = some n := by
      rw [parseDecimalU32, trimCopy_of_forall fun b hb => isBlank_of_isDigit (hdigits b hb),
        if_neg hne, parseDecimalDigits_of_digits hdigits (by omega), hn]
    rw [messageBody, hsep]
    simp only [hvalue, if_neg hne, hparse]
    rw [List.length_drop, if_neg (by omega), List.length_take, List.length_drop]
    omega

/-- The readers agree on the messages that have no length of the body, or a plain one. -/
theorem readersAgree_iff {msg : Bytes} (harrives : Arrives msg)
    (haccepts : acceptsFraming msg = true) :
    ReadersAgree msg ↔ lengthFields (headerOf msg) = [] ∨ PlainLength msg := by
  obtain ⟨n, hlength⟩ : ∃ n, sipContentLength msg = some n := by
    cases h : sipContentLength msg with
    | none =>
      rw [acceptsFraming, h] at haccepts
      cases haccepts
    | some n => exact ⟨n, rfl⟩
  rcases SipStream.announces_of_scanLength hlength with ⟨hfields, -⟩ | ⟨v, hfields, hne,
    hdigits, hn⟩
  · obtain ⟨hvalue, hvalues⟩ := headers_of_nil hfields
    refine ⟨fun _ => .inl hfields, fun _ => ⟨?_, ?_, fun h => absurd hfields h⟩⟩
    · rw [hvalue, hfields]
      rfl
    · rw [hvalues, hfields]
      rfl
  · constructor
    · intro h
      have hvalue := h.value
      have hvalues := h.values
      rw [hfields] at hvalue hvalues
      refine .inr (plainLength_of_ne_nil hfields ?_ ?_)
      · rw [hvalue]
        exact hne
      · rw [hvalues]
        exact hne
    · intro h
      have hplain : PlainLength msg := h.resolve_left (by rw [hfields]; exact List.cons_ne_nil _ _)
      obtain ⟨hvalue, hvalues⟩ := headers_of_plainLength hfields hplain
      refine ⟨?_, ?_, fun _ => ?_⟩
      · rw [hvalue, hfields]
        rfl
      · rw [hvalues, hfields]
        rfl
      · rw [messageBody_length harrives haccepts hlength hvalue hne hdigits hn, hlength]

namespace Framed

/-- A request with a body of five bytes. -/
def plain : Bytes := ascii "INFO sip:a SIP/2.0\r\nCONTENT-length:\t5 \r\n\r\nhello"

/-- The same with a blank in front of the colon and another length. -/
def blank : Bytes := ascii "INFO sip:a SIP/2.0\r\nContent-Length : 0\r\n\r\nhello"

theorem plain_agrees : ReadersAgree plain :=
  (readersAgree_iff (.inl (by decide)) (by decide)).mpr
    (.inr ⟨by decide, ascii "CONTENT-length:\t5 ", by decide, by decide⟩)

/-- The header that frames the message is not the one that its body is cut out with. -/
theorem blank_disagrees :
    Arrives blank ∧ acceptsFraming blank = true ∧ sipContentLength blank = some 0 ∧
      headerValues blank (ascii "Content-Length") = ascii "0" ∧
      headerValue blank (ascii "Content-Length") = [] ∧ messageBody blank = ascii "hello" ∧
      ¬ReadersAgree blank := by
  refine ⟨.inl (by decide), by decide, by decide, by decide, by decide, by decide, fun h => ?_⟩
  have := h.value
  revert this
  decide

end Framed

end SipText

end EsphomeVoip
