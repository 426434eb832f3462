import EsphomeVoip.SipText

/-! # A name and an address in one header

`sip_name_addr` writes the display name in quotes, with an escape before a quote and before a
backslash.  The readers look for the first angle bracket without looking at the quotes, so what is
written is read back unless the display name has an angle bracket. -/

namespace EsphomeVoip

namespace SipText

open SipStream (Bytes ascii isBlank isDigit toLower trimCopy)
open Search (cut Stripped)

/-! ## Trimming -/

theorem trimCopy_eq_strip (s : Bytes) : trimCopy s = Search.strip isBlank s := rfl

/-- A text without blanks at its ends is not changed. -/
theorem trimCopy_eq_self {s : Bytes} (h : Stripped isBlank s) : trimCopy s = s := h.strip_eq

theorem stripped_of_forall {s : Bytes} (h : ∀ b ∈ s, isBlank b = false) : Stripped isBlank s where
  head := fun b hb => h b (List.mem_of_head? hb)
  last := fun b hb => h b (List.mem_of_getLast? hb)

/-- Trimming takes blanks away behind a text that begins without one. -/
theorem trimCopy_cons {b : UInt8} (hb : isBlank b = false) (s : Bytes) :
    ∃ kept blanks, trimCopy (b :: s) = b :: kept ∧ s = kept ++ blanks := by
  rw [trimCopy, List.dropWhile_cons_of_neg (by rw [hb]; decide), List.reverse_cons,
    List.dropWhile_append]
  split
  · rw [List.dropWhile_cons_of_neg (by rw [hb]; decide)]
    exact ⟨[], s, rfl, rfl⟩
  · obtain ⟨blanks, hblanks⟩ := List.dropWhile_suffix isBlank (l := s.reverse)
    refine ⟨(s.reverse.dropWhile isBlank).reverse, blanks.reverse, by simp, ?_⟩
    rw [← List.reverse_append, hblanks, List.reverse_reverse]

/-! ## Quoting -/

/-- What `sip_quoted` writes between the quotes. -/
def escaped (raw : Bytes) : Bytes :=
  raw.flatMap fun b =>
    if isNewline b then [] else if b == quote || b == backslash then [backslash, b] else [b]

theorem sipQuoted_eq (raw : Bytes) : sipQuoted raw = quote :: escaped raw ++ [quote] := rfl

theorem escaped_append (a b : Bytes) : escaped (a ++ b) = escaped a ++ escaped b :=
  List.flatMap_append

/-- A byte other than a quote and a backslash stands for itself. -/
theorem escaped_cons {b : UInt8} (hline : isNewline b = false) (hquote : b ≠ quote)
    (hbackslash : b ≠ backslash) (s : Bytes) : escaped (b :: s) = b :: escaped s := by
  rw [escaped, List.flatMap_cons, hline, if_neg (by decide), if_neg (by simp [hquote, hbackslash])]
  rfl

/-- Nothing but quotes and backslashes is added. -/
theorem mem_escaped {raw : Bytes} {c : UInt8} (hc : c ≠ backslash) :
    c ∈ escaped raw ↔ c ∈ raw ∧ isNewline c = false := by
  rw [escaped, List.mem_flatMap]
  constructor
  · rintro ⟨b, hb, hmem⟩
    split at hmem
    · cases hmem
    · rename_i hline
      have hsame : c = b := by
        split at hmem
        · simpa [hc] using hmem
        · simpa using hmem
      rw [hsame]
      exact ⟨hb, by simpa using hline⟩
  · rintro ⟨hmem, hline⟩
    refine ⟨c, hmem, ?_⟩
    rw [if_neg (by rw [hline]; decide)]
    split
    · exact List.mem_cons_of_mem _ List.mem_cons_self
    · exact List.mem_cons_self

/-- Reading goes through what is escaped. -/
theorem unquote_escaped {raw : Bytes} (h : ∀ b ∈ raw, isNewline b = false) (rest : Bytes) :
    unquote false (escaped raw ++ rest) = (unquote false rest).map (raw ++ ·) := by
  induction raw with
  | nil => simp [escaped]
  | cons b raw ih =>
    rw [List.forall_mem_cons] at h
    have ih := ih h.2
    by_cases hspecial : b = quote ∨ b = backslash
    · have hcons : escaped (b :: raw) = backslash :: b :: escaped raw := by
        rw [escaped, List.flatMap_cons, h.1, if_neg (by decide), if_pos (by simpa using hspecial)]
        rfl
      rw [hcons, List.cons_append, List.cons_append, unquote, if_pos rfl, unquote, ih,
        Option.map_map]
      rfl
    · rw [not_or] at hspecial
      rw [escaped_cons h.1 hspecial.1 hspecial.2, List.cons_append, unquote, if_neg hspecial.2,
        if_neg hspecial.1, ih, Option.map_map]
      rfl

/-- A quote that has not been found is not found in a part either. -/
theorem unquote_prefix {s rest : Bytes} {e : Bool} (h : unquote e (s ++ rest) = none) :
    unquote e s = none := by
  induction s generalizing e with
  | nil => cases e <;> rfl
  | cons b s ih =>
    rw [List.cons_append] at h
    cases e with
    | true =>
      rw [unquote, Option.map_eq_none_iff] at h ⊢
      exact ih h
    | false =>
      rw [unquote] at h ⊢
      split
      · rename_i hb
        rw [if_pos hb] at h
        exact ih h
      · rename_i hb
        rw [if_neg hb] at h
        split
        · rename_i hquote
          rw [if_pos hquote] at h
          cases h
        · rename_i hquote
          rw [if_neg hquote, Option.map_eq_none_iff] at h
          rw [ih h]
          rfl

/-! ## What is written -/

/-- A display name: not blank at its ends, not too long and without control characters. -/
structure IsDisplayName (display : Bytes) : Prop where
  stripped : Stripped isBlank display
  nonempty : display ≠ []
  size : display.length ≤ maxNameLen
  chars : ∀ b ∈ display, isControl b = false

/-- A URI of SIP without angle brackets and blanks. -/
structure IsSipUri (uri : Bytes) : Prop where
  scheme : (ascii "sip:").isPrefixOf (uri.map toLower) = true
  chars : ∀ b ∈ uri, isBlank b = false ∧ b ≠ left ∧ b ≠ right

/-- A tag: no blank, semicolon or angle bracket is in it. -/
def IsTag (tag : Bytes) : Prop :=
  ∀ b ∈ tag, isBlank b = false ∧ b ≠ semicolon ∧ b ≠ left ∧ b ≠ right

/-- What is behind the first `@`, or all of the text without one. -/
def behindAt (uri : Bytes) : Bytes :=
  match cut at' uri with
  | none => uri
  | some (_, rest) => rest

/-- The URI has no tag of its own, and no comma behind its first `@`. -/
structure IsPlainUri (uri : Bytes) : Prop where
  noTag : Search.find (ascii ";tag=") (uri.map toLower) = none
  noComma : comma ∉ behindAt uri

/-- A header of a display name, a URI and a tag. -/
def nameAddrHeader (uri display tag : Bytes) : Bytes :=
  sipNameAddr uri display ++ ascii ";tag=" ++ tag

theorem isNewline_of_isBlank {b : UInt8} (h : isBlank b = false) : isNewline b = false := by
  simp only [isBlank, Bool.or_eq_false_iff] at h
  simp only [isNewline, h, Bool.or_self]

theorem isNewline_of_isControl {b : UInt8} (h : isControl b = false) : isNewline b = false := by
  have hall : ∀ b, isControl b = false → isNewline b = false := forall_byte (by decide)
  exact hall b h

/-! ## Extracting the URI -/

/-- A text of no blanks is trimmed already. -/
theorem trimCopy_of_forall {s : Bytes} (h : ∀ b ∈ s, isBlank b = false) : trimCopy s = s :=
  (stripped_of_forall h).strip_eq

/-- A URI stands for itself, unless there is a comma behind its first `@`. -/
theorem nameAddrUri_of_isSipUri {uri : Bytes} (h : IsSipUri uri) :
    nameAddrUri uri = if comma ∈ behindAt uri then [] else uri := by
  have hline : ¬(uri.any isNewline) = true := by
    rw [Bool.not_eq_true, List.any_eq_false]
    intro b hb
    rw [isNewline_of_isBlank (h.chars b hb).1]
    decide
  have hleft : left ∉ uri := fun hmem => (h.chars left hmem).2.1 rfl
  have hright : right ∉ uri := fun hmem => (h.chars right hmem).2.2 rfl
  rw [nameAddrUri, trimCopy_of_forall fun b hb => (h.chars b hb).1]
  simp only
  rw [if_neg hline, Search.cut_none hleft]
  simp only [hright, false_or]
  rfl

/-- What `strip_angle_uri` leaves has no tag of its own. -/
theorem find_tag_stripAngleUri (value : Bytes) :
    Search.find (ascii ";tag=") ((stripAngleUri value).map toLower) = none := by
  have hpat : ascii ";tag=" ≠ [] := by decide
  cases hfind : Search.find (ascii ";tag=") ((nameAddrUri value).map toLower) with
  | none =>
    simp only [stripAngleUri, hfind]
    split
    · exact hfind
    · rfl
  | some tag =>
    simp only [stripAngleUri, hfind]
    split
    · rw [List.map_take]
      exact Search.find_take hpat hfind
    · rfl

/-- `strip_angle_uri` leaves a plain URI as it is. -/
theorem stripAngleUri_of_isPlainUri {value uri : Bytes} (hvalue : nameAddrUri value = uri)
    (h : IsSipUri uri) (hplain : IsPlainUri uri) : stripAngleUri value = uri := by
  rw [stripAngleUri, hvalue]
  simp only [hplain.noTag]
  rw [if_pos h.scheme]

theorem stripAngleUri_self {uri : Bytes} (h : IsSipUri uri) (hplain : IsPlainUri uri) :
    stripAngleUri uri = uri := by
  refine stripAngleUri_of_isPlainUri ?_ h hplain
  rw [nameAddrUri_of_isSipUri h, if_neg hplain.noComma]

theorem IsSipUri.ne_nil {uri : Bytes} (h : IsSipUri uri) : uri ≠ [] := by
  rintro rfl
  exact absurd h.scheme (by decide)

/-- The header of a plain URI. -/
theorem nameAddrHeader_eq {uri display : Bytes} (huri : IsSipUri uri) (hplain : IsPlainUri uri)
    (hdisplay : IsDisplayName display) (tag : Bytes) :
    nameAddrHeader uri display tag =
      (quote :: escaped display ++ [quote, 32]) ++ left ::
        (uri ++ right :: (ascii ";tag=" ++ tag)) := by
  have hcontrol : ¬display.any isControl = true := by
    rw [Bool.not_eq_true, List.any_eq_false]
    intro b hb
    rw [hdisplay.chars b hb]
    decide
  rw [nameAddrHeader, sipNameAddr, stripAngleUri_self huri hplain]
  simp only
  rw [if_neg huri.ne_nil, trimCopy_eq_self hdisplay.stripped, if_neg hdisplay.nonempty,
    if_neg hcontrol, sipQuoted_eq]
  simp

/-- The part before the URI, without the blank at its end. -/
theorem trimCopy_quoted (s : Bytes) :
    trimCopy (quote :: s ++ [quote, 32]) = quote :: (s ++ [quote]) := by
  have hquote : ¬isBlank quote = true := by decide
  have hspace : isBlank 32 = true := by decide
  have hreverse : (quote :: s ++ [quote, 32]).reverse = 32 :: quote :: (s.reverse ++ [quote]) := by
    simp
  rw [trimCopy, List.cons_append, List.dropWhile_cons_of_neg hquote, ← List.cons_append, hreverse,
    List.dropWhile_cons_of_pos hspace, List.dropWhile_cons_of_neg hquote]
  simp

/-- A byte that the name does not have is not before the URI. -/
theorem not_mem_quoted {display : Bytes} {b : UInt8} (hb : b ∉ display) (hquote : b ≠ quote)
    (hspace : b ≠ 32) (hbackslash : b ≠ backslash) : b ∉ quote :: escaped display ++
    [quote, 32] := by
  simp only [List.cons_append, List.mem_cons, List.mem_append, List.not_mem_nil, or_false,
    mem_escaped hbackslash, not_or, not_and]
  exact ⟨hquote, fun hmem => absurd hmem hb, hquote, hspace⟩

section Written

variable {uri display tag : Bytes} (huri : IsSipUri uri) (hplain : IsPlainUri uri)
  (hdisplay : IsDisplayName display)
include huri hplain hdisplay

/-- The display name is read up to its closing quote. -/
theorem sipDisplayNameFromHeader_header (hleft : left ∉ display) :
    sipDisplayNameFromHeader (nameAddrHeader uri display tag) maxNameLen = display := by
  have hlines : ∀ b ∈ display, isNewline b = false := fun b hb =>
    isNewline_of_isControl (hdisplay.chars b hb)
  have hcut := not_mem_quoted hleft (by decide) (by decide) (by decide)
  have hunquote : unquote false (escaped display ++ [quote]) = some display := by
    rw [unquote_escaped hlines, show unquote false [quote] = some [] from rfl, Option.map_some,
      List.append_nil]
  have hok : ¬(display = [] ∨ maxNameLen < display.length ∨ display.any isControl = true) := by
    rw [not_or, not_or, Bool.not_eq_true, List.any_eq_false]
    refine ⟨hdisplay.nonempty, Nat.not_lt.mpr hdisplay.size, fun b hb => ?_⟩
    rw [hdisplay.chars b hb]
    decide
  rw [nameAddrHeader_eq huri hplain hdisplay, sipDisplayNameFromHeader, Search.cut_eq hcut]
  simp only [trimCopy_quoted, if_true, hunquote, trimCopy_eq_self hdisplay.stripped]
  rw [if_neg hok]

variable (htag : IsTag tag)
include htag

/-- The header has neither blanks at its ends nor newlines. -/
theorem header_stripped : Stripped isBlank (nameAddrHeader uri display tag) := by
  constructor
  · rw [nameAddrHeader_eq huri hplain hdisplay]
    intro b hb
    cases hb
    decide
  · intro b hb
    rw [nameAddrHeader, List.append_assoc, List.getLast?_append] at hb
    cases hlast : (ascii ";tag=" ++ tag).getLast? with
    | none => exact absurd (List.getLast?_eq_none_iff.mp hlast) (List.cons_ne_nil _ _)
    | some c =>
      rw [hlast] at hb
      cases hb
      rcases List.mem_append.mp (List.mem_of_getLast? hlast) with hmem | hmem
      · have hall : ∀ b ∈ ascii ";tag=", isBlank b = false := forall_mem_of_all (by decide)
        exact hall b hmem
      · exact (htag b hmem).1

theorem header_newlines : ¬(nameAddrHeader uri display tag).any isNewline = true := by
  have hall : ∀ b ∈ ascii ";tag=", isNewline b = false := forall_mem_of_all (by decide)
  rw [Bool.not_eq_true, List.any_eq_false, nameAddrHeader_eq huri hplain hdisplay]
  intro b hb
  rw [Bool.not_eq_true]
  simp only [List.cons_append, List.mem_cons, List.mem_append, List.not_mem_nil, or_false] at hb
  rcases hb with rfl | (hb | rfl | rfl) | rfl | hb | rfl | hb | hb
  any_goals decide
  · by_cases hb' : b = backslash
    · rw [hb']
      decide
    · exact ((mem_escaped hb').mp hb).2
  · exact isNewline_of_isBlank (huri.chars b hb).1
  · exact hall b hb
  · exact isNewline_of_isBlank (htag b hb).1

theorem nameAddrUri_header (hleft : left ∉ display) (hright : right ∉ display) :
    nameAddrUri (nameAddrHeader uri display tag) = uri := by
  have hcut := not_mem_quoted hleft (by decide) (by decide) (by decide)
  have hbefore := not_mem_quoted hright (by decide) (by decide) (by decide)
  have huriright : right ∉ uri := fun hmem => (huri.chars right hmem).2.2 rfl
  have hurileft : left ∉ uri := fun hmem => (huri.chars left hmem).2.1 rfl
  have htagright : right ∉ ascii ";tag=" ++ tag := by
    rw [List.mem_append, not_or]
    exact ⟨by decide, fun hmem => (htag right hmem).2.2.2 rfl⟩
  have htagleft : left ∉ ascii ";tag=" ++ tag := by
    rw [List.mem_append, not_or]
    exact ⟨by decide, fun hmem => (htag left hmem).2.2.1 rfl⟩
  have hbehind : left ∉ uri ++ right :: (ascii ";tag=" ++ tag) := by
    rw [List.mem_append, List.mem_cons, not_or, not_or]
    exact ⟨hurileft, by decide, htagleft⟩
  have hsuffix : trimCopy (ascii ";tag=" ++ tag) = ascii ";tag=" ++ tag := by
    refine trimCopy_of_forall fun b hb => ?_
    rcases List.mem_append.mp hb with hb | hb
    · have hall : ∀ b ∈ ascii ";tag=", isBlank b = false := forall_mem_of_all (by decide)
      exact hall b hb
    · exact (htag b hb).1
  have hline := header_newlines huri hplain hdisplay htag
  rw [nameAddrUri, trimCopy_eq_self (header_stripped huri hplain hdisplay htag)]
  simp only
  rw [if_neg hline, nameAddrHeader_eq huri hplain hdisplay, Search.cut_eq hcut]
  simp only
  rw [Search.cut_eq huriright]
  simp only
  rw [if_neg (by simp only [hbefore, huri.ne_nil, hbehind, htagright, or_self, not_false_eq_true]),
    hsuffix]
  exact trimCopy_of_forall fun b hb => (huri.chars b hb).1

theorem tagFromHeader_header (hright : right ∉ display) :
    tagFromHeader (nameAddrHeader uri display tag) = tag := by
  have hquoted := not_mem_quoted hright (by decide) (by decide) (by decide)
  have hbefore : right ∉ (quote :: escaped display ++ [quote, 32]) ++ left :: uri := by
    rw [List.mem_append, List.mem_cons, not_or, not_or]
    exact ⟨hquoted, by decide, fun hmem => (huri.chars right hmem).2.2 rfl⟩
  have hheader : nameAddrHeader uri display tag =
      ((quote :: escaped display ++ [quote, 32]) ++ left :: uri) ++
        right :: ([] ++ semicolon :: (ascii "tag" ++ equals :: tag)) := by
    rw [nameAddrHeader_eq huri hplain hdisplay]
    simp [ascii]
  have hparameter : semicolon ∉ ascii "tag" ++ equals :: tag := by
    rw [List.mem_append, List.mem_cons, not_or, not_or]
    exact ⟨by decide, by decide, fun hmem => (htag semicolon hmem).2.1 rfl⟩
  have hblank : ∀ b ∈ ascii "tag" ++ equals :: tag, isBlank b = false := by
    have hall : ∀ b ∈ ascii "tag", isBlank b = false := forall_mem_of_all (by decide)
    rw [List.forall_mem_append, List.forall_mem_cons]
    exact ⟨hall, by decide, fun b hb => (htag b hb).1⟩
  have htake : tag.takeWhile (!isBlank ·) = tag :=
    Search.takeWhile_eq_self fun b hb => by rw [(htag b hb).1]; rfl
  rw [tagFromHeader, hheader, Search.cut_eq hbefore]
  simp only
  rw [Search.cut_eq List.not_mem_nil]
  simp only
  rw [Search.parts_of_not_mem hparameter, findTag, trimCopy_of_forall hblank,
    Search.cut_eq (by decide)]
  simp only
  rw [if_pos (by decide), trimCopy_of_forall fun b hb => (htag b hb).1, htake]

end Written

/-! ## What is read back -/

/-- The three readers return what the header was written from. -/
structure ReadsBack (uri display tag : Bytes) : Prop where
  name : sipDisplayNameFromHeader (nameAddrHeader uri display tag) maxNameLen = display
  address : nameAddrUri (nameAddrHeader uri display tag) = uri
  stripped : stripAngleUri (nameAddrHeader uri display tag) = uri
  dialogTag : tagFromHeader (nameAddrHeader uri display tag) = tag

theorem stripAngleUri_of_nil {value : Bytes} (h : nameAddrUri value = []) :
    stripAngleUri value = [] := by
  have hnone : Search.find (ascii ";tag=") (([] : Bytes).map toLower) = none := by decide
  rw [stripAngleUri, h]
  simp only [hnone]
  rw [if_neg (by decide)]

/-- A URI that is not written at all leaves no display name. -/
theorem not_readsBack_of_comma {uri display tag : Bytes} (huri : IsSipUri uri)
    (hdisplay : IsDisplayName display) (htag : IsTag tag) (hcomma : comma ∈ behindAt uri) :
    ¬ReadsBack uri display tag := by
  intro h
  have hempty : stripAngleUri uri = [] := by
    exact stripAngleUri_of_nil (by rw [nameAddrUri_of_isSipUri huri, if_pos hcomma])
  have hleft : left ∉ ascii ";tag=" ++ tag := by
    rw [List.mem_append, not_or]
    exact ⟨by decide, fun hmem => (htag left hmem).2.2.1 rfl⟩
  have hread := h.name
  rw [nameAddrHeader, sipNameAddr, hempty] at hread
  simp only [if_true, List.nil_append] at hread
  rw [sipDisplayNameFromHeader, Search.cut_none hleft] at hread
  exact hdisplay.nonempty hread.symm

/-- A header is read back just where neither an angle bracket is in the display name nor a tag or a
    misplaced comma in the URI. -/
theorem readsBack_iff {uri display tag : Bytes} (huri : IsSipUri uri)
    (hdisplay : IsDisplayName display) (htag : IsTag tag) :
    ReadsBack uri display tag ↔ left ∉ display ∧ right ∉ display ∧ IsPlainUri uri := by
  constructor
  · intro h
    have hplain : IsPlainUri uri := by
      constructor
      · rw [← h.stripped]
        exact find_tag_stripAngleUri _
      · exact fun hcomma => not_readsBack_of_comma huri hdisplay htag hcomma h
    have hlines : ∀ b ∈ display, isNewline b = false := fun b hb =>
      isNewline_of_isControl (hdisplay.chars b hb)
    have hleft : left ∉ display := by
      intro hmem
      -- the reader sees a quote that is not closed
      obtain ⟨a, c, _, hsplit, ha⟩ := Search.cut_of_mem hmem
      have hescaped : escaped display = escaped a ++ left :: escaped c := by
        rw [hsplit, escaped_append, escaped_cons (by decide) (by decide) (by decide)]
      have hread := h.name
      have hcut : left ∉ quote :: escaped a := by
        rw [List.mem_cons, mem_escaped (by decide), not_or, not_and]
        exact ⟨by decide, fun hmem => absurd hmem ha⟩
      rw [nameAddrHeader_eq huri hplain hdisplay, hescaped, sipDisplayNameFromHeader,
        List.append_assoc, List.cons_append, List.append_assoc, List.cons_append,
        ← List.cons_append, Search.cut_eq hcut] at hread
      simp only at hread
      obtain ⟨kept, blanks, htrim, hkept⟩ := trimCopy_cons (b := quote) (by decide) (escaped a)
      have hnone : unquote false kept = none := by
        have hclean : ∀ b ∈ a, isNewline b = false := fun b hb =>
          hlines b (by rw [hsplit]; exact List.mem_append_left _ hb)
        have hopen : unquote false (kept ++ blanks) = none := by
          rw [← hkept]
          simpa [unquote] using unquote_escaped hclean []
        exact unquote_prefix hopen
      simp only [htrim, if_true, hnone] at hread
      exact hdisplay.nonempty hread.symm
    refine ⟨hleft, fun hmem => ?_, hplain⟩
    -- the first right bracket is before the left one
    have hcut := not_mem_quoted hleft (by decide) (by decide) (by decide)
    have hbefore : right ∈ quote :: escaped display ++ [quote, 32] := by
      have hin : right ∈ escaped display := (mem_escaped (by decide)).mpr ⟨hmem, by decide⟩
      exact List.mem_append_left _ (List.mem_cons_of_mem _ hin)
    have hread := h.address
    rw [nameAddrUri, trimCopy_eq_self (header_stripped huri hplain hdisplay htag)] at hread
    simp only at hread
    rw [if_neg (header_newlines huri hplain hdisplay htag), nameAddrHeader_eq huri hplain hdisplay,
      Search.cut_eq hcut] at hread
    simp only [hbefore, true_or, if_true] at hread
    refine huri.ne_nil (hread.symm.trans ?_)
    split <;> rfl
  · rintro ⟨hleft, hright, hplain⟩
    have haddress := nameAddrUri_header huri hplain hdisplay htag hleft hright
    exact ⟨sipDisplayNameFromHeader_header huri hplain hdisplay hleft, haddress,
      stripAngleUri_of_isPlainUri haddress huri hplain,
      tagFromHeader_header huri hplain hdisplay htag hright⟩

namespace FrontDoor

/-- The URI of a device. -/
def uri : Bytes := ascii "sip:100@10.0.0.2:5060;transport=udp"

theorem isSipUri : IsSipUri uri := ⟨by decide, forall_mem_of_all (by decide)⟩

/-- A display name with quotes and a backslash in it. -/
def quoted : Bytes := ascii "Front \"door\" \\ 2; east"

/-- A display name with an angle bracket in it. -/
def bracket : Bytes := ascii "Front <door"

theorem isDisplayName_quoted : IsDisplayName quoted where
  stripped := ⟨by decide +kernel, by decide +kernel⟩
  nonempty := by decide
  size := by decide
  chars := forall_mem_of_all (by decide)

/-- Quotes, backslashes and semicolons are read back. -/
theorem quotes_are_read_back : ReadsBack uri quoted (ascii "tag1") :=
  (readsBack_iff isSipUri isDisplayName_quoted (forall_mem_of_all (by decide))).mpr
    ⟨by decide, by decide, ⟨by decide, by decide⟩⟩

theorem isDisplayName_bracket : IsDisplayName bracket where
  stripped := ⟨by decide +kernel, by decide +kernel⟩
  nonempty := by decide
  size := by decide
  chars := forall_mem_of_all (by decide)

/-- An angle bracket is taken for the one before the URI. -/
theorem bracket_is_not_read_back :
    IsSipUri uri ∧ IsDisplayName bracket ∧ IsTag (ascii "tag1") ∧
      sipDisplayNameFromHeader (nameAddrHeader uri bracket (ascii "tag1")) maxNameLen = [] ∧
      nameAddrUri (nameAddrHeader uri bracket (ascii "tag1")) = [] ∧
      ¬ReadsBack uri bracket (ascii "tag1") := by
  refine ⟨isSipUri, isDisplayName_bracket, forall_mem_of_all (by decide), by decide,
    by decide, fun h => ?_⟩
  have := h.name
  revert this
  decide

end FrontDoor

end SipText

end EsphomeVoip
