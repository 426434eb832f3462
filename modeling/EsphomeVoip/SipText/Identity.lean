import EsphomeVoip.SipText.NameAddr

/-! # The identity of the caller

The route of the caller is the user part of its `From` header, in percent encoding.  The callee
reads it back with `sip_user_from_header`, whose decoder keeps the characters of a header token
only.  `readBack_iff` says for which routes and display names that gives the route again. -/

namespace EsphomeVoip

namespace SipText

open SipStream (Bytes ascii isBlank isDigit toLower trimCopy)
open Search (cut)

/-! ## Percent encoding -/

theorem decodeBytes_newline {b : UInt8} (hline : isNewline b = true) (rest : Bytes) :
    decodeBytes (b :: rest) = decodeBytes rest := by
  match rest with
  | [] => simp [decodeBytes, hline]
  | [_] => simp [decodeBytes, hline]
  | _ :: _ :: _ => rw [decodeBytes, if_pos hline]

/-- A byte that two hexadecimal digits do not follow stands for itself. -/
theorem decodeBytes_of_not_hex {b : UInt8} (hline : isNewline b = false) {rest : Bytes}
    (h : ∀ h l tail, rest = h :: l :: tail → hexValue h = none ∨ hexValue l = none) :
    decodeBytes (b :: rest) = b :: decodeBytes rest := by
  match rest with
  | [] => simp [decodeBytes, hline]
  | [_] => simp [decodeBytes, hline]
  | h' :: l' :: tail =>
    rw [decodeBytes, hline, if_neg (by decide)]
    split
    · rename_i hhi hlo
      rcases h h' l' tail rfl with hnone | hnone
      · rw [hnone] at hhi
        cases hhi
      · rw [hnone] at hlo
        cases hlo
    · rfl

/-- A byte other than `%` stands for itself. -/
theorem decodeBytes_cons {b : UInt8} (hline : isNewline b = false) (hb : b ≠ percent)
    (rest : Bytes) :
    decodeBytes (b :: rest) = b :: decodeBytes rest := by
  match rest with
  | [] => simp [decodeBytes, hline]
  | [_] => simp [decodeBytes, hline]
  | h :: l :: tail =>
    rw [decodeBytes, hline, if_neg (by decide)]
    split
    · rw [if_neg hb]
    · rfl

/-- `%` with two hexadecimal digits stands for a byte. -/
theorem decodeBytes_triple {h l hi lo : UInt8} (hhi : hexValue h = some hi)
    (hlo : hexValue l = some lo) (tail : Bytes) :
    decodeBytes (percent :: h :: l :: tail) = (hi <<< 4 ||| lo) :: decodeBytes tail := by
  rw [decodeBytes, if_neg (by decide), hhi, hlo]
  simp only [if_true]

theorem hexValue_hexDigit_high (b : UInt8) :
    hexValue (hexDigit (b >>> 4 &&& 0x0F)) = some (b >>> 4 &&& 0x0F) :=
  forall_byte (p := fun b => hexValue (hexDigit (b >>> 4 &&& 0x0F)) = some (b >>> 4 &&& 0x0F))
    (by decide) b

theorem hexValue_hexDigit_low (b : UInt8) :
    hexValue (hexDigit (b &&& 0x0F)) = some (b &&& 0x0F) :=
  forall_byte (p := fun b => hexValue (hexDigit (b &&& 0x0F)) = some (b &&& 0x0F)) (by decide) b

theorem nibbles (b : UInt8) : (b >>> 4 &&& 0x0F) <<< 4 ||| (b &&& 0x0F) = b :=
  forall_byte (p := fun b => (b >>> 4 &&& 0x0F) <<< 4 ||| (b &&& 0x0F) = b) (by decide) b

theorem ne_percent_of_unreserved {b : UInt8} (h : isSipUriUnreserved b = true) : b ≠ percent := by
  rintro rfl
  exact absurd h (by decide)

/-- What is written for a byte is read as that byte. -/
theorem decodeBytes_encodeByte {b : UInt8} (hline : isNewline b = false) (rest : Bytes) :
    decodeBytes (encodeByte b ++ rest) = b :: decodeBytes rest := by
  rw [encodeByte, hline, if_neg (by decide)]
  split
  · rename_i hb
    exact decodeBytes_cons hline (ne_percent_of_unreserved hb) rest
  · rw [List.cons_append, List.cons_append, List.cons_append, List.nil_append,
      decodeBytes_triple (hexValue_hexDigit_high b) (hexValue_hexDigit_low b), nibbles]

theorem decodeBytes_encode {raw : Bytes} (h : ∀ b ∈ raw, isNewline b = false) :
    decodeBytes (raw.flatMap encodeByte) = raw := by
  induction raw with
  | nil => rfl
  | cons b raw ih =>
    rw [List.forall_mem_cons] at h
    rw [List.flatMap_cons, decodeBytes_encodeByte h.1, ih h.2]

/-- A byte that is neither a hexadecimal digit nor `%` parts what is decoded. -/
theorem decodeBytes_append {c : UInt8} (hline : isNewline c = false) (hc : c ≠ percent)
    (hhex : hexValue c = none) (u v : Bytes) :
    decodeBytes (u ++ c :: v) = decodeBytes u ++ c :: decodeBytes v := by
  fun_induction decodeBytes u with
  | case1 => exact decodeBytes_cons hline hc v
  | case2 b rest hb ih => rw [List.cons_append, decodeBytes_newline hb, ih]
  | case3 h l tail hi lo hlo hhi _ ih =>
    rw [List.cons_append, List.cons_append, List.cons_append, decodeBytes_triple hhi hlo, ih]
    rfl
  | case4 b hb h l tail hi lo _ _ hpercent ih =>
    rw [List.cons_append, decodeBytes_cons (by simpa using hb) hpercent, ih]
    rfl
  | case5 b hb h l tail hnot ih =>
    have hnone : hexValue h = none ∨ hexValue l = none := by
      cases hh : hexValue h with
      | none => exact .inl rfl
      | some hi =>
        cases hl : hexValue l with
        | none => exact .inr rfl
        | some lo => exact (hnot hi lo hh hl).elim
    have hfollow : ∀ h' l' tail', h :: l :: tail ++ c :: v = h' :: l' :: tail' →
        hexValue h' = none ∨ hexValue l' = none := by
      intro h' l' tail' heq
      cases heq
      exact hnone
    rw [List.cons_append, decodeBytes_of_not_hex (by simpa using hb) hfollow, ih]
    rfl
  | case6 b hb rest hshort ih =>
    have hfollow : ∀ h' l' tail', rest ++ c :: v = h' :: l' :: tail' →
        hexValue h' = none ∨ hexValue l' = none := by
      intro h' l' tail' heq
      match rest with
      | [] =>
        cases heq
        exact .inl hhex
      | [_] =>
        cases heq
        exact .inr hhex
      | x :: y :: zs => exact (hshort x y zs rfl).elim
    rw [List.cons_append, decodeBytes_of_not_hex (by simpa using hb) hfollow, ih]
    rfl

/-- A kept byte is not a backslash, so a byte more on both sides leaves the bound. -/
theorem length_filter_cons_le {xs ys : Bytes}
    (h : (xs.filter isTokenByte).length ≤ (ys.filter (· != backslash)).length) (b : UInt8) :
    ((b :: xs).filter isTokenByte).length ≤ ((b :: ys).filter (· != backslash)).length := by
  by_cases hb : b = backslash
  · rw [hb, List.filter_cons_of_neg (by decide), List.filter_cons_of_neg (by decide)]
    exact h
  · rw [List.filter_cons_of_pos (p := (· != backslash)) (by simpa using hb), List.length_cons,
      List.filter_cons]
    split
    · rw [List.length_cons]
      omega
    · omega

/-- Decoding adds no characters: each one that is kept comes from one that is not a backslash. -/
theorem length_filter_decodeBytes_le (s : Bytes) :
    ((decodeBytes s).filter isTokenByte).length ≤ (s.filter (· != backslash)).length := by
  fun_induction decodeBytes s with
  | case1 => exact Nat.le_refl _
  | case2 b rest hb ih =>
    exact Nat.le_trans ih ((List.sublist_cons_self b rest).filter _).length_le
  | case3 h l tail hi lo hlo hhi _ ih =>
    have hskip : tail.Sublist (h :: l :: tail) :=
      (List.sublist_cons_self l tail).trans (List.sublist_cons_self h _)
    have hmore := (hskip.filter (· != backslash)).length_le
    rw [List.filter_cons_of_pos (p := (· != backslash)) (by decide), List.length_cons,
      List.filter_cons]
    split
    · rw [List.length_cons]
      omega
    · omega
  | case4 b _ h l tail hi lo _ _ _ ih => exact length_filter_cons_le ih b
  | case5 b _ h l tail _ ih => exact length_filter_cons_le ih b
  | case6 b _ rest _ ih => exact length_filter_cons_le ih b

theorem length_filter_escaped_le (raw : Bytes) :
    ((escaped raw).filter (· != backslash)).length ≤ raw.length := by
  induction raw with
  | nil => exact Nat.le_refl _
  | cons b raw ih =>
    have hone : ((if isNewline b then [] else if b == quote || b == backslash then [backslash, b]
        else [b]).filter (· != backslash)).length ≤ 1 := by
      split
      · exact Nat.zero_le _
      · split
        · rw [List.filter_cons_of_neg (by decide)]
          exact List.length_filter_le _ _
        · exact List.length_filter_le _ _
    rw [escaped, List.flatMap_cons, List.filter_append, List.length_append, List.length_cons]
    rw [escaped] at ih
    omega

/-! ## The user part -/

/-- An address without a leading `sip:`. -/
def schemeLess (uri : Bytes) : Bytes :=
  if ((uri.take 3).map toLower = ascii "sip") ∧ uri.getD 3 0 = colon then uri.drop 4 else uri

/-- The user part that is read from what is in front of the first `@` of an address. -/
def userBefore (front : Bytes) : Bytes :=
  if schemeLess (front.dropWhile isBlank) = [] then []
  else sipUriUserDecode (schemeLess (front.dropWhile isBlank))

/-- The user part of an address. -/
def userIn (address : Bytes) : Bytes :=
  match cut at' address with
  | none => []
  | some (front, _) => userBefore front

/-- The address that a header has in its first angle brackets, or else in front of its
    parameters. -/
def addressIn (value : Bytes) : Bytes :=
  match (cut left value).bind fun (_, rest) => cut right rest with
  | some (uri, _) => if uri ≠ [] then uri else (trimCopy value).takeWhile (· != semicolon)
  | none => (trimCopy value).takeWhile (· != semicolon)

theorem addressIn_of_ne_nil {front uri : Bytes} (hfront : left ∉ front) (huri : right ∉ uri)
    (hne : uri ≠ []) (rest : Bytes) : addressIn (front ++ left :: (uri ++ right :: rest)) =
    uri := by
  rw [addressIn, Search.cut_eq hfront, Option.bind_some]
  simp only [Search.cut_eq huri]
  rw [if_pos hne]

/-- Angle brackets with nothing between them do not count. -/
theorem addressIn_of_nil {front : Bytes} (hfront : left ∉ front) (rest : Bytes) :
    addressIn (front ++ left :: right :: rest) =
      (trimCopy (front ++ left :: right :: rest)).takeWhile (· != semicolon) := by
  have hright : cut right (right :: rest) = some ([], rest) := Search.cut_eq List.not_mem_nil rest
  rw [addressIn, Search.cut_eq hfront, Option.bind_some]
  simp only [hright]
  rw [if_neg (by simp)]

/-- A byte that is not one of `sip:` ends the scheme. -/
theorem schemeLess_append {c : UInt8} (hlower : toLower c ∉ ascii "sip") (hcolon : c ≠ colon)
    (x y : Bytes) : schemeLess (x ++ c :: y) = schemeLess x ++ c :: y := by
  by_cases hlen : 4 ≤ x.length
  · rw [schemeLess, schemeLess, List.take_append_of_le_length (by omega),
      List.drop_append_of_le_length hlen, List.getD_eq_getElem?_getD, List.getD_eq_getElem?_getD,
      List.getElem?_append_left (by omega)]
    split <;> rfl
  · have hx : ¬((x.take 3).map toLower = ascii "sip" ∧ x.getD 3 0 = colon) := by
      rintro ⟨_, h⟩
      rw [List.getD_eq_getElem?_getD, List.getElem?_eq_none (by omega)] at h
      exact absurd h (by decide)
    have hxy : ¬(((x ++ c :: y).take 3).map toLower = ascii "sip" ∧
        (x ++ c :: y).getD 3 0 = colon) := by
      rintro ⟨hsip, h⟩
      by_cases hthree : x.length = 3
      · rw [List.getD_eq_getElem?_getD, List.getElem?_append_right (by omega), hthree] at h
        exact hcolon h
      · -- the byte would be one of the scheme
        obtain ⟨n, hn⟩ : ∃ n, 3 - x.length = n + 1 := ⟨2 - x.length, by omega⟩
        rw [List.take_append, hn, List.take_succ_cons] at hsip
        apply hlower
        rw [← hsip, List.map_append, List.map_cons]
        exact List.mem_append_right _ List.mem_cons_self
    rw [schemeLess, schemeLess, if_neg hx, if_neg hxy]

/-- What is in front of a byte that is not blank is trimmed at its beginning only. -/
theorem trimCopy_append {c : UInt8} (hc : isBlank c = false) (x y : Bytes) :
    ∃ kept, trimCopy (x ++ c :: y) = x.dropWhile isBlank ++ c :: kept := by
  refine ⟨(y.reverse.dropWhile isBlank).reverse, ?_⟩
  have hreverse : (x.dropWhile isBlank ++ c :: y).reverse =
      y.reverse ++ c :: (x.dropWhile isBlank).reverse := by simp
  rw [trimCopy, Search.dropWhile_append_cons hc, hreverse, Search.dropWhile_append_cons hc]
  simp

/-- What is in front of the parameters. -/
theorem takeWhile_trimCopy {b : UInt8} {front : Bytes} (hb : isBlank b = false)
    (h : semicolon ∉ b :: front) (rest : Bytes) :
    (trimCopy (b :: front ++ semicolon :: rest)).takeWhile (· != semicolon) = b :: front := by
  obtain ⟨kept, hkept⟩ := trimCopy_append (c := semicolon) (by decide) (b :: front) rest
  rw [hkept, List.dropWhile_cons_of_neg (by rw [hb]; decide), Search.takeWhile_append_cons h]

/-- What is in front of the first `@` decides. -/
theorem userIn_append {front : Bytes} (h : at' ∉ front) (rest : Bytes) :
    userIn (front ++ at' :: rest) = userBefore front := by
  rw [userIn, Search.cut_eq h]

theorem userIn_of_not_mem {address : Bytes} (h : at' ∉ address) : userIn address = [] := by
  rw [userIn, Search.cut_none h]

theorem not_mem_schemeLess {c : UInt8} {s : Bytes} (h : c ∉ s) : c ∉ schemeLess s := by
  rw [schemeLess]
  split
  · exact fun hmem => h (List.mem_of_mem_drop hmem)
  · exact h

theorem mem_of_mem_trimCopy {c : UInt8} {s : Bytes} (h : c ∈ trimCopy s) : c ∈ s := by
  rw [trimCopy, List.mem_reverse] at h
  have hmem := (List.dropWhile_suffix isBlank).subset h
  exact (List.dropWhile_suffix isBlank).subset (List.mem_reverse.mp hmem)

/-- The address of a header gives its user part. -/
theorem sipUserFromHeader_eq (value : Bytes) :
    sipUserFromHeader value = userIn (addressIn value) := by
  have hdef : sipUserFromHeader value =
      match cut at' (schemeLess (trimCopy (addressIn value))) with
      | none => []
      | some (user, _) => if user = [] then [] else sipUriUserDecode user := rfl
  rw [hdef]
  by_cases hat : at' ∈ addressIn value
  · obtain ⟨front, rest, -, hsplit, hfront⟩ := Search.cut_of_mem hat
    obtain ⟨kept, hkept⟩ := trimCopy_append (c := at') (by decide) front rest
    have hclean : at' ∉ schemeLess (front.dropWhile isBlank) :=
      not_mem_schemeLess fun hmem => hfront ((List.dropWhile_suffix isBlank).subset hmem)
    rw [hsplit, hkept, schemeLess_append (by decide) (by decide), Search.cut_eq hclean,
      userIn_append hfront]
    rfl
  · have hnone : at' ∉ schemeLess (trimCopy (addressIn value)) :=
      not_mem_schemeLess fun hmem => hat (mem_of_mem_trimCopy hmem)
    rw [Search.cut_none hnone, userIn_of_not_mem hat]

/-! ## The header of the caller -/

/-- A display name that `sip_name_addr` accepts, of the length that the reader allows. -/
structure IsValidName (name : Bytes) : Prop where
  size : (trimCopy name).length ≤ maxNameLen
  chars : ∀ b ∈ trimCopy name, isControl b = false

/-- A route that `sip_route_id` has accepted. -/
def IsRoute (route : Bytes) : Prop := sipRouteId route maxRouteIdLen = route ∧ route ≠ []

theorem IsRoute.facts {route : Bytes} (h : IsRoute route) :
    Search.Stripped isBlank route ∧ route.length ≤ maxRouteIdLen ∧
      ∀ b ∈ route, isControl b = false := by
  obtain ⟨h, hne⟩ := h
  rw [sipRouteId] at h
  split at h
  · exact absurd h.symm hne
  · rename_i hlen
    split at h
    · exact absurd h.symm hne
    · rename_i hchars
      rw [not_or, Nat.not_lt] at hlen
      rw [h] at hlen hchars
      refine ⟨?_, hlen.2, fun b hb => ?_⟩
      · rw [← h]
        exact Search.stripped_strip isBlank route
      · rw [Bool.not_eq_true, List.any_eq_false] at hchars
        have := hchars b hb
        simp only [Bool.or_eq_true, not_or, Bool.not_eq_true] at this
        exact this.1.1.1.1.1

/-- A byte of the user part and of the address of the caller. -/
def isUserByte (b : UInt8) : Bool := isSipUriUnreserved b || b == percent

theorem isUserByte_of_mem_encodeByte {b c : UInt8} (h : c ∈ encodeByte b) :
    isUserByte c = true := by
  have hall : ∀ b, (encodeByte b).all isUserByte = true := forall_byte (by decide +kernel)
  exact List.all_eq_true.mp (hall b) c h

theorem isUserByte_of_mem_sipUriUserEncode {raw : Bytes} {c : UInt8}
    (h : c ∈ sipUriUserEncode raw) : isUserByte c = true := by
  rw [sipUriUserEncode] at h
  split at h
  · have hvoip : ∀ c ∈ ascii "voip", isUserByte c = true := forall_mem_of_all (by decide)
    exact hvoip c h
  · obtain ⟨b, -, hc⟩ := List.mem_flatMap.mp h
    exact isUserByte_of_mem_encodeByte hc

theorem isUserByte_of_mem_decimal {n : Nat} {c : UInt8} (h : c ∈ decimal n) :
    isUserByte c = true := by
  obtain ⟨d, hd, rfl⟩ := List.mem_map.mp h
  have hdigit : d.isDigit = true := Nat.isDigit_of_mem_toDigits (by decide) (by decide) hd
  have hbyte : isDigit (UInt8.ofNat d.toNat) = true := by
    simp only [Char.isDigit, Bool.and_eq_true, decide_eq_true_eq] at hdigit
    have h1 : 48 ≤ d.toNat := hdigit.1
    have h2 : d.toNat ≤ 57 := hdigit.2
    simp only [isDigit, Bool.and_eq_true, decide_eq_true_eq, UInt8.le_iff_toNat_le,
      UInt8.toNat_ofNat', UInt8.toNat_ofNat]
    omega
  have hall : ∀ b, isDigit b = true → isUserByte b = true := forall_byte (by decide)
  exact hall _ hbyte

theorem isUserByte_of_mem_inetNtoa {ip : UInt32} {c : UInt8} (h : c ∈ inetNtoa ip) :
    isUserByte c = true := by
  simp only [inetNtoa, List.mem_cons, List.mem_append] at h
  rcases h with ((h | rfl | h) | rfl | h) | rfl | h
  any_goals exact isUserByte_of_mem_decimal h
  all_goals decide

/-- What is behind the `@` of the URI of the caller. -/
def LocalIdentity.authority (i : LocalIdentity) : Bytes :=
  inetNtoa i.localIp ++ colon :: decimal i.sipPort.toNat ++ ascii ";transport=" ++
    (if i.remoteSipTcp then ascii "tcp" else ascii "udp")

theorem LocalIdentity.uri_eq (i : LocalIdentity) :
    i.uri = (ascii "sip:" ++ sipUriUserEncode i.route) ++ at' :: i.authority := by
  simp only [uri, authority, List.append_assoc, List.cons_append]

/-- What a byte of the URI is not. -/
theorem isUserByte_ne {b : UInt8} (h : isUserByte b = true) :
    isBlank b = false ∧ b ≠ left ∧ b ≠ right ∧ b ≠ at' ∧ b ≠ comma ∧ b ≠ semicolon ∧
      toLower b ≠ semicolon := by
  have hall : ∀ b, isUserByte b = true → isBlank b = false ∧ b ≠ left ∧ b ≠ right ∧ b ≠ at' ∧
      b ≠ comma ∧ b ≠ semicolon ∧ toLower b ≠ semicolon := forall_byte (by decide)
  exact hall b h

theorem LocalIdentity.isSipUri (i : LocalIdentity) : IsSipUri i.uri where
  scheme := rfl
  chars := by
    have hsip : ∀ b ∈ ascii "sip:", isBlank b = false ∧ b ≠ left ∧ b ≠ right :=
      forall_mem_of_all (by decide)
    have htransport : ∀ b ∈ ascii ";transport=", isBlank b = false ∧ b ≠ left ∧ b ≠ right :=
      forall_mem_of_all (by decide)
    have hkind : ∀ b ∈ (if i.remoteSipTcp then ascii "tcp" else ascii "udp"),
        isBlank b = false ∧ b ≠ left ∧ b ≠ right := by
      cases i.remoteSipTcp <;> exact forall_mem_of_all (by decide)
    have huser : ∀ {b}, isUserByte b = true → isBlank b = false ∧ b ≠ left ∧ b ≠ right :=
      fun h => ⟨(isUserByte_ne h).1, (isUserByte_ne h).2.1, (isUserByte_ne h).2.2.1⟩
    intro b hb
    simp only [uri_eq, authority, List.mem_append, List.mem_cons] at hb
    rcases hb with (hb | hb) | rfl | ((hb | rfl | hb) | hb) | hb
    · exact hsip b hb
    · exact huser (isUserByte_of_mem_sipUriUserEncode hb)
    · decide
    · exact huser (isUserByte_of_mem_inetNtoa hb)
    · decide
    · exact huser (isUserByte_of_mem_decimal hb)
    · exact htransport b hb
    · exact hkind b hb

theorem LocalIdentity.at_not_mem_front (i : LocalIdentity) :
    at' ∉ ascii "sip:" ++ sipUriUserEncode i.route := by
  rw [List.mem_append, not_or]
  refine ⟨by decide, fun h => ?_⟩
  exact (isUserByte_ne (isUserByte_of_mem_sipUriUserEncode h)).2.2.2.1 rfl

theorem LocalIdentity.isPlainUri (i : LocalIdentity) : IsPlainUri i.uri where
  noTag := by
    have hfront : semicolon ∉ (ascii "sip:" ++ sipUriUserEncode i.route ++
        at' :: (inetNtoa i.localIp ++ colon :: decimal i.sipPort.toNat)).map toLower := by
      have huser : ∀ {b}, isUserByte b = true → toLower b ≠ semicolon := fun h =>
        (isUserByte_ne h).2.2.2.2.2.2
      rw [List.mem_map]
      rintro ⟨b, hb, hlower⟩
      simp only [List.mem_append, List.mem_cons] at hb
      -- scheme, user, host and port: none of their bytes is a semicolon
      rcases hb with (hb | hb) | rfl | hb | rfl | hb
      · have hsip : ∀ b ∈ ascii "sip:", toLower b ≠ semicolon :=
          forall_mem_of_all (by decide)
        exact hsip b hb hlower
      · exact huser (isUserByte_of_mem_sipUriUserEncode hb) hlower
      · exact absurd hlower (by decide)
      · exact huser (isUserByte_of_mem_inetNtoa hb) hlower
      · exact absurd hlower (by decide)
      · exact huser (isUserByte_of_mem_decimal hb) hlower
    have htransport : Search.Clear (ascii ";tag=") ((ascii ";transport=" ++
        (if i.remoteSipTcp then ascii "tcp" else ascii "udp")).map toLower) [] := by
      cases i.remoteSipTcp <;> decide
    have hsplit : i.uri = (ascii "sip:" ++ sipUriUserEncode i.route ++
        at' :: (inetNtoa i.localIp ++ colon :: decimal i.sipPort.toNat)) ++
          (ascii ";transport=" ++ (if i.remoteSipTcp then ascii "tcp" else ascii "udp")) := by
      simp only [LocalIdentity.uri, List.append_assoc, List.cons_append]
    rw [hsplit, List.map_append]
    refine Search.find_none (by decide) ((Search.clear_append _ _ _ _).mpr ⟨?_, htransport⟩)
    exact Search.clear_of_not_mem hfront _
  noComma := by
    have hkind : comma ∉ (if i.remoteSipTcp then ascii "tcp" else ascii "udp") := by
      cases i.remoteSipTcp <;> decide
    have huser : ∀ {b}, isUserByte b = true → comma ≠ b := fun h heq =>
      (isUserByte_ne h).2.2.2.2.1 heq.symm
    rw [behindAt, i.uri_eq, Search.cut_eq i.at_not_mem_front]
    simp only [LocalIdentity.authority, List.mem_append, List.mem_cons, not_or]
    refine ⟨⟨⟨fun h => ?_, by decide, fun h => ?_⟩, by decide⟩, hkind⟩
    · exact huser (isUserByte_of_mem_inetNtoa h) rfl
    · exact huser (isUserByte_of_mem_decimal h) rfl

/-- What is written for the display name. -/
def shownName (name : Bytes) : Bytes := if name = [] then [] else sipQuoted name ++ [32]

theorem LocalIdentity.fromHeader_eq {i : LocalIdentity} (hname : IsValidName i.name) :
    i.fromHeader = shownName (trimCopy i.name) ++
      left :: (i.uri ++ right :: (ascii ";tag=" ++ i.localTag)) := by
  have hcontrol : ¬(trimCopy i.name).any isControl = true := by
    rw [Bool.not_eq_true, List.any_eq_false]
    intro b hb
    rw [hname.chars b hb]
    decide
  rw [fromHeader, sipNameAddr, stripAngleUri_self i.isSipUri i.isPlainUri, shownName]
  simp only
  rw [if_neg i.isSipUri.ne_nil]
  split
  · simp
  · simp

/-! ## What the callee reads -/

/-- The address that a display name offers in place of the one behind it, if it has an angle
    bracket: what is behind the bracket, or all of the name in front of a semicolon if the bracket
    is closed at once. -/
def offeredAddress (name : Bytes) : Bytes :=
  match cut left (escaped name) with
  | none => []
  | some (_, rest) =>
    match cut right rest with
    | none => rest
    | some (address, _) =>
      if address = [] then quote :: (escaped name).takeWhile (· != semicolon) else address

/-- Without an angle bracket the address of the caller is read. -/
theorem LocalIdentity.addressIn_of_not_mem {i : LocalIdentity} (hname : IsValidName i.name)
    (hleft : left ∉ trimCopy i.name) : addressIn i.fromHeader = i.uri := by
  have hshown : left ∉ shownName (trimCopy i.name) := by
    rw [shownName]
    split
    · exact List.not_mem_nil
    · rw [sipQuoted_eq]
      simp only [List.cons_append, List.mem_cons, List.mem_append, List.not_mem_nil, or_false,
        mem_escaped (c := left) (by decide), not_or]
      exact ⟨by decide, ⟨fun hmem => hleft hmem.1, by decide⟩, by decide⟩
  have hright : right ∉ i.uri := fun hmem => (i.isSipUri.chars right hmem).2.2 rfl
  rw [i.fromHeader_eq hname]
  exact addressIn_of_ne_nil hshown hright i.isSipUri.ne_nil _

/-- The user part of the caller's address. -/
theorem userBefore_sip {user : Bytes} (h : user ≠ []) :
    userBefore (ascii "sip:" ++ user) = sipUriUserDecode user := by
  have hdrop : (ascii "sip:" ++ user).dropWhile isBlank = ascii "sip:" ++ user := rfl
  have hscheme : schemeLess (ascii "sip:" ++ user) = user := rfl
  rw [userBefore, hdrop, hscheme, if_neg h]

/-- The encoding of a route. -/
theorem IsRoute.encode {route : Bytes} (h : IsRoute route) :
    decodeBytes (sipUriUserEncode route) = route ∧ sipUriUserEncode route ≠ [] := by
  have hlines : ∀ b ∈ route, isNewline b = false := fun b hb =>
    isNewline_of_isControl (h.facts.2.2 b hb)
  have hdecode := decodeBytes_encode hlines
  have hne : route.flatMap encodeByte ≠ [] := by
    intro hnil
    rw [hnil] at hdecode
    exact h.2 hdecode.symm
  rw [sipUriUserEncode, if_neg hne]
  exact ⟨hdecode, hne⟩

/-- A route of token characters is kept. -/
theorem IsRoute.token {route : Bytes} (h : IsRoute route) :
    sipHeaderToken route maxReasonLen = route ↔ ∀ b ∈ route, isTokenByte b = true := by
  obtain ⟨hstripped, hlen, -⟩ := h.facts
  constructor
  · intro heq b hb
    rw [← heq] at hb
    exact (List.mem_filter.mp (List.mem_of_mem_take (mem_of_mem_trimCopy hb))).2
  · intro hall
    rw [sipHeaderToken, List.filter_eq_self.mpr hall, List.take_of_length_le,
      trimCopy_eq_self hstripped]
    have : maxRouteIdLen ≤ maxReasonLen := by decide
    omega

/-- A user part that goes on beyond the display name is longer than the route. -/
theorem userBefore_ne {w route : Bytes} (h : IsRoute route)
    (hw : (w.filter (· != backslash)).length ≤ maxNameLen + 3) :
    userBefore (w ++ left :: (ascii "sip:" ++ sipUriUserEncode route)) ≠ route := by
  obtain ⟨hstripped, hlen, -⟩ := h.facts
  have hscheme : schemeLess
    ((w ++ left :: (ascii "sip:" ++ sipUriUserEncode route)).dropWhile isBlank)
      = schemeLess (w.dropWhile isBlank) ++ left :: (ascii "sip:" ++ sipUriUserEncode route) := by
    rw [Search.dropWhile_append_cons (by decide), schemeLess_append (by decide) (by decide)]
  generalize hu : schemeLess (w.dropWhile isBlank) = u at hscheme
  have hsub : u.Sublist w := by
    rw [← hu, schemeLess]
    split
    · exact (List.drop_sublist 4 _).trans (List.dropWhile_sublist isBlank)
    · exact List.dropWhile_sublist isBlank
  have hdecode : decodeBytes (u ++ left :: (ascii "sip:" ++ sipUriUserEncode route)) =
      decodeBytes u ++ left :: (ascii "sip" ++ colon :: route) := by
    have hcolon : ascii "sip:" ++ sipUriUserEncode route =
        ascii "sip" ++ colon :: sipUriUserEncode route := rfl
    rw [decodeBytes_append (by decide) (by decide) (by decide), hcolon,
      decodeBytes_append (by decide) (by decide) (by decide), h.encode.1]
    rfl
  have hfilter : (decodeBytes u ++ left :: (ascii "sip" ++ colon :: route)).filter isTokenByte =
      (decodeBytes u).filter isTokenByte ++ ascii "sip" ++ route.filter isTokenByte := by
    rw [List.filter_append, List.filter_cons_of_neg (by decide), List.filter_append,
      List.filter_cons_of_neg (by decide), List.append_assoc]
    rfl
  have hbound : ((decodeBytes u).filter isTokenByte).length ≤ maxNameLen + 3 :=
    Nat.le_trans (length_filter_decodeBytes_le u) (Nat.le_trans (hsub.filter _).length_le hw)
  have hshort : ((decodeBytes u).filter isTokenByte ++ ascii "sip" ++
      route.filter isTokenByte).length ≤ maxReasonLen := by
    have hfiltered := List.length_filter_le isTokenByte route
    have hconst : maxNameLen + 3 + 3 + maxRouteIdLen ≤ maxReasonLen := by decide
    have hsip : (ascii "sip").length = 3 := rfl
    rw [List.length_append, List.length_append]
    omega
  rw [userBefore, hscheme, if_neg (by simp), sipUriUserDecode, hdecode, sipHeaderToken, hfilter,
    List.take_of_length_le hshort]
  intro heq
  have hall : ∀ b ∈ route, isTokenByte b = true := by
    intro b hb
    rw [← heq] at hb
    have hmem := mem_of_mem_trimCopy hb
    rw [← hfilter] at hmem
    exact (List.mem_filter.mp hmem).2
  rw [List.filter_eq_self.mpr hall] at heq
  -- the last byte of the route is not trimmed, and neither is the `sip` in front of it
  have hsplit := List.dropLast_concat_getLast h.2
  generalize route.dropLast = r at hsplit
  generalize route.getLast h.2 = z at hsplit
  have hz : isBlank z = false := hstripped.last z (by rw [← hsplit]; simp)
  rw [← hsplit, ← List.append_assoc] at heq
  obtain ⟨kept, hkept⟩ :=
    trimCopy_append hz ((decodeBytes u).filter isTokenByte ++ ascii "sip" ++ r) []
  have hfront : ((decodeBytes u).filter isTokenByte ++ ascii "sip" ++ r).dropWhile isBlank =
      ((decodeBytes u).filter isTokenByte).dropWhile isBlank ++ 115 :: (ascii "ip" ++ r) := by
    rw [List.append_assoc]
    exact Search.dropWhile_append_cons (by decide) _ _
  rw [hfront] at hkept
  have hlength := congrArg List.length (hkept.symm.trans heq)
  have hip : (ascii "ip").length = 2 := rfl
  simp only [List.length_append, List.length_cons, List.length_nil] at hlength
  omega

/-- What is behind the display name is read only where the name has no `@` of its own, and then it
    is longer than the route. -/
theorem userIn_beyond {w route : Bytes} (h : IsRoute route)
    (hw : (w.filter (· != backslash)).length ≤ maxNameLen + 1) (rest : Bytes) :
    userIn (w ++ [quote, 32] ++ left :: (ascii "sip:" ++ sipUriUserEncode route ++ at' :: rest)) =
      route ↔ userIn w = route := by
  by_cases hat : at' ∈ w
  · obtain ⟨front, tail, -, rfl, hfront⟩ := Search.cut_of_mem hat
    rw [List.append_assoc, List.append_assoc, List.cons_append, userIn_append hfront,
      userIn_append hfront]
  · have hfront : at' ∉ w ++ [quote, 32] ++ left :: (ascii "sip:" ++ sipUriUserEncode route) := by
      have huser : at' ∉ sipUriUserEncode route := fun hmem =>
        (isUserByte_ne (isUserByte_of_mem_sipUriUserEncode hmem)).2.2.2.1 rfl
      simp only [List.mem_append, List.mem_cons, List.not_mem_nil, or_false, not_or]
      exact ⟨⟨hat, by decide, by decide⟩, by decide, by decide, huser⟩
    have hlong : ((w ++ [quote, 32]).filter (· != backslash)).length ≤ maxNameLen + 3 := by
      have htwo : ([quote, 32].filter (· != backslash)).length = 2 := rfl
      rw [List.filter_append, List.length_append]
      omega
    have hassoc : w ++ [quote, 32] ++ left ::
      (ascii "sip:" ++ sipUriUserEncode route ++ at' :: rest) =
        (w ++ [quote, 32] ++ left :: (ascii "sip:" ++ sipUriUserEncode route)) ++ at' :: rest := by
      simp only [List.append_assoc, List.cons_append]
    rw [hassoc, userIn_append hfront, userIn_of_not_mem hat]
    constructor
    · exact fun heq => absurd heq (userBefore_ne h hlong)
    · exact fun heq => absurd heq.symm h.2

/-- The header with a display name. -/
theorem LocalIdentity.fromHeader_of_ne_nil {i : LocalIdentity} (hname : IsValidName i.name)
    (hne : trimCopy i.name ≠ []) :
    i.fromHeader = quote :: escaped (trimCopy i.name) ++ [quote, 32] ++
      left :: (ascii "sip:" ++ sipUriUserEncode i.route ++ at' :: i.authority ++
        right :: (ascii ";tag=" ++ i.localTag)) := by
  rw [i.fromHeader_eq hname, shownName, if_neg hne, sipQuoted_eq, i.uri_eq]
  simp

/-- What is in front of the parameters, where the header is read without its angle brackets. -/
theorem LocalIdentity.userIn_parameters {i : LocalIdentity} (hroute : IsRoute i.route)
    (hname : IsValidName i.name) (hne : trimCopy i.name ≠ []) :
    userIn ((trimCopy i.fromHeader).takeWhile (· != semicolon)) = i.route ↔
      userIn (quote :: (escaped (trimCopy i.name)).takeWhile (· != semicolon)) = i.route := by
  have hheader := i.fromHeader_of_ne_nil hname hne
  by_cases hsemicolon : semicolon ∈ escaped (trimCopy i.name)
  · -- the parameters begin within the name
    obtain ⟨front, rest, -, hsplit, hfront⟩ := Search.cut_of_mem hsemicolon
    have hclean : semicolon ∉ quote :: front := by
      rw [List.mem_cons, not_or]
      exact ⟨by decide, hfront⟩
    have hwhole : i.fromHeader = quote :: front ++ semicolon :: (rest ++ [quote, 32] ++
        left :: (ascii "sip:" ++ sipUriUserEncode i.route ++ at' :: i.authority ++
          right :: (ascii ";tag=" ++ i.localTag))) := by
      rw [hheader, hsplit]
      simp
    rw [hwhole, takeWhile_trimCopy (by decide) hclean, hsplit, Search.takeWhile_append_cons hfront]
  · -- they begin within the URI
    -- the name has none, and is short enough to be looked at whole
    have hescaped : (escaped (trimCopy i.name)).takeWhile (· != semicolon) =
        escaped (trimCopy i.name) :=
      Search.takeWhile_eq_self fun b hb => bne_iff_ne.mpr fun heq => hsemicolon (heq ▸ hb)
    have hshort : ((quote :: escaped (trimCopy i.name)).filter (· != backslash)).length ≤
        maxNameLen + 1 := by
      have hcount := length_filter_escaped_le (trimCopy i.name)
      have hsize := hname.size
      rw [List.filter_cons_of_pos (by decide), List.length_cons]
      omega
    have huser : ∀ {b}, isUserByte b = true → semicolon ≠ b := fun h heq =>
      (isUserByte_ne h).2.2.2.2.2.1 heq.symm
    have hclean : semicolon ∉ quote :: (escaped (trimCopy i.name) ++ [quote, 32] ++
        left :: (ascii "sip:" ++ sipUriUserEncode i.route ++ at' ::
          (inetNtoa i.localIp ++ colon :: decimal i.sipPort.toNat))) := by
      simp only [List.mem_append, List.mem_cons, List.not_mem_nil, or_false, not_or]
      refine ⟨by decide, ⟨hsemicolon, by decide, by decide⟩, by decide,
        ⟨by decide, fun h => ?_⟩, by decide, fun h => ?_, by decide, fun h => ?_⟩
      · exact huser (isUserByte_of_mem_sipUriUserEncode h) rfl
      · exact huser (isUserByte_of_mem_inetNtoa h) rfl
      · exact huser (isUserByte_of_mem_decimal h) rfl
    have hwhole : i.fromHeader = quote :: (escaped (trimCopy i.name) ++ [quote, 32] ++
        left :: (ascii "sip:" ++ sipUriUserEncode i.route ++ at' ::
          (inetNtoa i.localIp ++ colon :: decimal i.sipPort.toNat))) ++
            semicolon :: (ascii "transport=" ++ (if i.remoteSipTcp then ascii "tcp"
              else ascii "udp") ++ right :: (ascii ";tag=" ++ i.localTag)) := by
      have htransport : ascii ";transport=" = semicolon :: ascii "transport=" := rfl
      rw [hheader, LocalIdentity.authority, htransport]
      simp
    rw [hwhole, takeWhile_trimCopy (by decide) hclean, hescaped, ← List.cons_append,
      ← List.cons_append]
    exact userIn_beyond hroute hshort _

/-- Where the display name has an angle bracket, it decides what is read. -/
theorem LocalIdentity.userIn_of_mem {i : LocalIdentity} (hroute : IsRoute i.route)
    (hname : IsValidName i.name) (hleft : left ∈ trimCopy i.name) :
    userIn (addressIn i.fromHeader) = i.route ↔
      userIn (offeredAddress (trimCopy i.name)) = i.route := by
  have hne : trimCopy i.name ≠ [] := List.ne_nil_of_mem hleft
  have hcount := length_filter_escaped_le (trimCopy i.name)
  have hsize := hname.size
  have hheader := i.fromHeader_of_ne_nil hname hne
  -- The reader starts at the first angle bracket of the name.
  obtain ⟨a, c, -, hsplit, ha⟩ := Search.cut_of_mem hleft
  have hescaped : escaped (trimCopy i.name) = escaped a ++ left :: escaped c := by
    rw [hsplit, escaped_append, escaped_cons (by decide) (by decide) (by decide)]
  have hclean : left ∉ escaped a := by
    rw [mem_escaped (by decide), not_and]
    exact fun hmem => absurd hmem ha
  -- the escapes before it hide none
  have hquoted : left ∉ quote :: escaped a := by
    rw [List.mem_cons, not_or]
    exact ⟨by decide, hclean⟩
  by_cases hright : right ∈ escaped c
  · obtain ⟨address, tail, -, hc, haddress⟩ := Search.cut_of_mem hright
    by_cases hempty : address = []
    · -- what is in front of the parameters is read
      rw [hempty, List.nil_append] at hc
      have hoffered : offeredAddress (trimCopy i.name) =
          quote :: (escaped (trimCopy i.name)).takeWhile (· != semicolon) := by
        have hcut : cut right (right :: tail) = some ([], tail) :=
          Search.cut_eq List.not_mem_nil tail
        rw [offeredAddress]
        simp only [hescaped, Search.cut_eq hclean, hc, hcut, if_true]
      have hread : addressIn i.fromHeader =
          (trimCopy i.fromHeader).takeWhile (· != semicolon) := by
        have hwhole : i.fromHeader = (quote :: escaped a) ++ left :: right :: (tail ++
            [quote, 32] ++ left :: (i.uri ++ right :: (ascii ";tag=" ++ i.localTag))) := by
          rw [hheader, hescaped, hc, i.uri_eq]
          simp
        rw [hwhole]
        exact addressIn_of_nil hquoted _
      rw [hread, hoffered]
      exact i.userIn_parameters hroute hname hne
    · -- the angle brackets are those of the name
      have hoffered : offeredAddress (trimCopy i.name) = address := by
        rw [offeredAddress, hescaped, Search.cut_eq hclean]
        simp only [hc, Search.cut_eq haddress]
        rw [if_neg hempty]
      have hread : addressIn i.fromHeader = address := by
        have hwhole : i.fromHeader = (quote :: escaped a) ++ left :: (address ++ right ::
            (tail ++ [quote, 32] ++ left ::
              (i.uri ++ right :: (ascii ";tag=" ++ i.localTag)))) := by
          rw [hheader, hescaped, hc, i.uri_eq]
          simp
        rw [hwhole]
        exact addressIn_of_ne_nil hquoted haddress hempty _
      rw [hread, hoffered]
  · -- the angle bracket is closed behind the name
    have hdisplay : right ∉ escaped c ++ [quote, 32] ++ left :: (ascii "sip:" ++
        sipUriUserEncode i.route ++ at' :: i.authority) := by
      have huri : right ∉ i.uri := fun hmem => (i.isSipUri.chars right hmem).2.2 rfl
      rw [← i.uri_eq]
      simp only [List.mem_append, List.mem_cons, List.not_mem_nil, or_false, not_or]
      exact ⟨⟨hright, by decide, by decide⟩, by decide, huri⟩
    have hread : addressIn i.fromHeader = escaped c ++ [quote, 32] ++ left :: (ascii "sip:" ++
        sipUriUserEncode i.route ++ at' :: i.authority) := by
      have hwhole : i.fromHeader = (quote :: escaped a) ++ left :: ((escaped c ++ [quote, 32] ++
          left :: (ascii "sip:" ++ sipUriUserEncode i.route ++ at' :: i.authority)) ++
            right :: (ascii ";tag=" ++ i.localTag)) := by
        rw [hheader, hescaped]
        simp
      rw [hwhole]
      exact addressIn_of_ne_nil hquoted hdisplay (by simp) _
    have hoffered : offeredAddress (trimCopy i.name) = escaped c := by
      rw [offeredAddress, hescaped, Search.cut_eq hclean]
      simp only
      rw [Search.cut_none hright]
    have hshort : ((escaped c).filter (· != backslash)).length ≤ maxNameLen + 1 := by
      rw [hescaped, List.filter_append, List.length_append, List.filter_cons_of_pos (by decide),
        List.length_cons] at hcount
      omega
    rw [hread, hoffered]
    exact userIn_beyond hroute hshort i.authority

/-- The route is read back just where the display name has no angle bracket and the route is made of
    the characters of a header token, or where the display name offers the same route. -/
theorem LocalIdentity.readsRoute_iff {i : LocalIdentity} (hroute : IsRoute i.route)
    (hname : IsValidName i.name) :
    sipUserFromHeader i.fromHeader = i.route ↔
      if left ∈ trimCopy i.name then userIn (offeredAddress (trimCopy i.name)) = i.route
      else ∀ b ∈ i.route, isTokenByte b = true := by
  rw [sipUserFromHeader_eq]
  by_cases hleft : left ∈ trimCopy i.name
  · rw [if_pos hleft]
    exact i.userIn_of_mem hroute hname hleft
  · obtain ⟨hdecode, hne⟩ := hroute.encode
    rw [if_neg hleft, i.addressIn_of_not_mem hname hleft, i.uri_eq,
      userIn_append i.at_not_mem_front,
      userBefore_sip hne, sipUriUserDecode, hdecode]
    exact hroute.token

namespace Callback

/-- A caller whose route is an extension. -/
def extension : LocalIdentity where
  route := ascii "front-door 2"
  name := ascii "Front \"door\""
  localIp := 0xC0A80102
  sipPort := 5060
  remoteSipTcp := false
  localTag := ascii "tag1"

/-- A caller whose route is a telephone number. -/
def number : LocalIdentity := { extension with route := ascii "+393331234567" }

theorem isRoute_extension : IsRoute extension.route := ⟨by decide, by decide⟩

theorem isValidName_extension :
    IsValidName extension.name := ⟨by decide, forall_mem_of_all (by decide)⟩

/-- The extension is read back. -/
theorem extension_is_read_back : sipUserFromHeader extension.fromHeader = extension.route :=
  (LocalIdentity.readsRoute_iff isRoute_extension isValidName_extension).mpr (by decide +kernel)

/-- The telephone number loses its first character. -/
theorem number_is_not_read_back :
    IsRoute number.route ∧ IsValidName number.name ∧
      sipUserFromHeader number.fromHeader = ascii "393331234567" ∧
      sipUserFromHeader number.fromHeader ≠ number.route := by
  refine ⟨⟨by decide, by decide⟩, ⟨by decide, forall_mem_of_all (by decide)⟩, by decide +kernel, by
    decide +kernel⟩

end Callback

end SipText

end EsphomeVoip
