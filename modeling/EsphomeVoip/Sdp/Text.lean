import EsphomeVoip.ForStd.Search

/-! # SDP text (`sip_message.cpp`)

An SDP body is a list of characters.  The readers take it apart at `"\r\n"`, at blanks and at the
first occurrence of a character, and read decimal numbers with a bound. -/

namespace EsphomeVoip

namespace Sdp

/-- `std::string`. -/
abbrev Text := List Char

/-- `line.rfind(start, 0) == 0`. -/
def startsWith (line : Text) (start : String) : Bool := start.toList.isPrefixOf line

/-- The lines of the loops that go through an SDP. -/
def sdpLines (sdp : Text) : List Text := Search.lines '\r' '\n' sdp

/-- Lines, each with its `"\r\n"`. -/
def sdpText (lines : List Text) : Text := Search.unlines '\r' '\n' lines

/-- The characters that `trim_copy` removes. -/
def isBlank (c : Char) : Bool := c == ' ' || c == '\t' || c == '\r' || c == '\n'

/-- `trim_copy`. -/
def trimCopy (s : Text) : Text := ((s.dropWhile isBlank).reverse.dropWhile isBlank).reverse

/-- `" \t"`, the characters that separate the fields of a line. -/
def isSpace (c : Char) : Bool := c == ' ' || c == '\t'

/-- The loops with `find_first_not_of(" \t")` and `find_first_of(" \t")`. -/
def fields (s : Text) : List Text := Search.fields isSpace s

/-- `find(c)`, with the parts before and behind the character. -/
def cut (c : Char) (s : Text) : Option (Text × Text) :=
  match s.dropWhile (· != c) with
  | [] => none
  | _ :: rest => some (s.takeWhile (· != c), rest)

/-- The loop over the digits of a number. -/
def parseDigits (maxValue : Nat) : Nat → Text → Option Nat
  | parsed, [] => some parsed
  | parsed, c :: rest =>
    if c.isDigit then
      let digit := c.toNat - 48
      if maxValue < digit ∨ (maxValue - digit) / 10 < parsed then none
      else parseDigits maxValue (parsed * 10 + digit) rest
    else none

/-- `parse_decimal_u32`. -/
def parseDecimalU32 (raw : Text) (maxValue : Nat) : Option Nat :=
  let value := trimCopy raw
  if value = [] then none else parseDigits maxValue 0 value

/-- `std::to_string`. -/
def decimal (n : Nat) : Text := Nat.toDigits 10 n

/-! ## Trimming -/

/-- A text without blanks at its ends is not changed. -/
theorem trimCopy_eq_self {s : Text} (hhead : ∀ c ∈ s.head?, isBlank c = false)
    (hlast : ∀ c ∈ s.getLast?, isBlank c = false) : trimCopy s = s :=
  Search.Stripped.strip_eq ⟨hhead, hlast⟩

theorem trimCopy_of_forall {s : Text} (h : ∀ c ∈ s, isBlank c = false) : trimCopy s = s :=
  trimCopy_eq_self (fun c hc => h c (List.mem_of_head? hc)) fun c hc =>
    h c (List.mem_of_getLast? hc)

theorem cut_eq_search (c : Char) (s : Text) : cut c s = Search.cut c s := by
  rw [cut, Search.cut]
  cases s.dropWhile (· != c) <;> rfl

/-- A part without the character ends at it. -/
theorem cut_eq {c : Char} {s : Text} (h : c ∉ s) (rest : Text) :
    cut c (s ++ c :: rest) = some (s, rest) := by
  rw [cut_eq_search]
  exact Search.cut_eq h rest

/-- What `find(c)` has taken apart. -/
theorem cut_some {c : Char} {s a b : Text} (h : cut c s = some (a, b)) :
    s = a ++ c :: b ∧ c ∉ a := by
  rw [cut_eq_search] at h
  exact Search.cut_some h

/-- A list in which something has a property, taken apart where it is first. -/
theorem exists_of_any {p : Char → Bool} {s : Text} (h : s.any p = true) :
    ∃ a c b, s = a ++ c :: b ∧ (∀ d ∈ a, p d = false) ∧ p c = true := by
  induction s with
  | nil => cases h
  | cons d s ih =>
    cases hd : p d with
    | true => exact ⟨[], d, s, rfl, (fun _ h => nomatch h), hd⟩
    | false =>
      rw [List.any_cons, hd, Bool.false_or] at h
      obtain ⟨a, c, b, rfl, ha, hc⟩ := ih h
      exact ⟨d :: a, c, b, rfl, List.forall_mem_cons.mpr ⟨hd, ha⟩, hc⟩

/-! ## Numbers -/

theorem isDigit_of_mem_decimal {n : Nat} {c : Char} (h : c ∈ decimal n) : c.isDigit = true :=
  Nat.isDigit_of_mem_toDigits (by decide) (by decide) h

theorem decimal_ne_nil (n : Nat) : decimal n ≠ [] := Nat.toDigits_ne_nil

/-- No number but zero begins with a zero. -/
theorem decimal_head {n : Nat} (h : n ≠ 0) : (decimal n).head? ≠ some '0' := by
  induction n using Nat.strongRecOn with
  | ind n ih =>
    by_cases hlt : n < 10
    · have hall : ∀ n < 10, n ≠ 0 → (decimal n).head? ≠ some '0' := by decide
      exact hall n hlt h
    · rw [decimal, Nat.toDigits_of_base_le (by decide) (by omega), List.head?_append]
      have hquot := ih (n / 10) (by omega) (by omega)
      cases hhead : (decimal (n / 10)).head? with
      | none => exact absurd (List.head?_eq_none_iff.mp hhead) (decimal_ne_nil _)
      | some d =>
        rw [hhead] at hquot
        rw [decimal] at hhead
        rw [hhead]
        exact hquot

/-- A digit is no separator. -/
theorem ne_of_isDigit {c d : Char} (h : c.isDigit = true) (hd : d.isDigit = false) : c ≠ d := by
  rintro rfl
  rw [h] at hd
  cases hd

theorem not_isBlank_of_isDigit {c : Char} (h : c.isDigit = true) : isBlank c = false := by
  have h₁ := ne_of_isDigit h (d := ' ') (by decide)
  have h₂ := ne_of_isDigit h (d := '\t') (by decide)
  have h₃ := ne_of_isDigit h (d := '\r') (by decide)
  have h₄ := ne_of_isDigit h (d := '\n') (by decide)
  simp [isBlank, h₁, h₂, h₃, h₄]

theorem isSpace_of_isBlank {c : Char} (h : isBlank c = false) : isSpace c = false := by
  simp only [isBlank, Bool.or_eq_false_iff] at h
  simp only [isSpace, Bool.or_eq_false_iff]
  exact ⟨h.1.1.1, h.1.1.2⟩

theorem trimCopy_decimal (n : Nat) : trimCopy (decimal n) = decimal n :=
  trimCopy_of_forall fun _ hc => not_isBlank_of_isDigit (isDigit_of_mem_decimal hc)

/-- Digits are read as their value, if that is not above the bound. -/
theorem parseDigits_eq {maxValue : Nat} {s : Text} (hs : ∀ c ∈ s, c.isDigit = true) (parsed : Nat)
    (hmax : Nat.ofDigitChars 10 s parsed ≤ maxValue) :
    parseDigits maxValue parsed s = some (Nat.ofDigitChars 10 s parsed) := by
  induction s generalizing parsed with
  | nil => rfl
  | cons c s ih =>
    rw [List.forall_mem_cons] at hs
    rw [Nat.ofDigitChars_cons] at hmax ⊢
    have hle : 10 * parsed + (c.toNat - '0'.toNat) ≤
        Nat.ofDigitChars 10 s (10 * parsed + (c.toNat - '0'.toNat)) := by
      rw [Nat.ofDigitChars_eq_ofDigitChars_zero]
      have : 1 ≤ 10 ^ s.length := Nat.one_le_pow _ _ (by decide)
      have : 1 * (10 * parsed + (c.toNat - '0'.toNat)) ≤
          10 ^ s.length * (10 * parsed + (c.toNat - '0'.toNat)) :=
        Nat.mul_le_mul_right _ this
      omega
    have hzero : '0'.toNat = 48 := rfl
    rw [hzero] at hle hmax ⊢
    have hsame : parsed * 10 + (c.toNat - 48) = 10 * parsed + (c.toNat - 48) := by omega
    simp only [parseDigits, hs.1, if_true]
    rw [if_neg (by omega), hsame]
    exact ih hs.2 _ hmax

/-- A number that is printed is read back. -/
theorem parseDecimalU32_decimal {n maxValue : Nat} (h : n ≤ maxValue) :
    parseDecimalU32 (decimal n) maxValue = some n := by
  have hvalue : Nat.ofDigitChars 10 (decimal n) 0 = n := Nat.ofDigitChars_ten_toDigits
  rw [parseDecimalU32, trimCopy_decimal, if_neg (decimal_ne_nil n),
    parseDigits_eq (fun _ hc => isDigit_of_mem_decimal hc) 0 (by rw [hvalue]; exact h), hvalue]

end Sdp

end EsphomeVoip
