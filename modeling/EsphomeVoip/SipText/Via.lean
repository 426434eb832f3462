import EsphomeVoip.SipText.Identity
import EsphomeVoip.ForStd.Quoted
import Mathlib.Data.List.Perm.Basic

/-! # The Via header of a response

`response_via_with_rport` looks for the text `rport` in the first header and then writes `received`
and `rport` at the end of it, without taking apart the entries that commas separate.
`rportHandled_iff` says where that is what the topmost entry asks for. -/

namespace EsphomeVoip

namespace SipText

open SipStream (Bytes ascii isBlank isDigit toLower trimCopy)
open Search (cut behind parts)

/-! ## The function -/

/-- What `header_values` writes between the values of two `Via` headers. -/
def viaSeparator : Bytes := ascii "\r\nVia: "

/-- `key` of a parameter. -/
def parameterKey (part : Bytes) : Bytes :=
  let key := match cut equals part with
    | none => part
    | some (key, _) => key
  (trimCopy key).map toLower

/-- `!part.empty() && key != "rport" && key != "received"`. -/
def keepsParameter (part : Bytes) : Bool :=
  part != [] && parameterKey part != ascii "rport" && parameterKey part != ascii "received"

/-- The loop over the parts of the first header, with its variable `out`. -/
def keepParameters : Bytes → List Bytes → Bytes
  | out, [] => out
  | out, part :: rest =>
    let part := trimCopy part
    keepParameters (if keepsParameter part then out ++ semicolon :: part else out) rest

/-- What is written for the first header. -/
def responseTopVia (topVia : Bytes) (sourceIp : UInt32) (sourcePort : UInt16) : Bytes :=
  if Search.find (ascii "rport") (topVia.map toLower) = none then topVia
  else
    let filled := ascii ";received=" ++ inetNtoa sourceIp ++ ascii ";rport=" ++
      decimal sourcePort.toNat
    match cut semicolon topVia with
    | none => topVia ++ filled
    | some (out, rest) => keepParameters out (parts semicolon rest) ++ filled

/-- `top_via`. -/
def topVia (via : Bytes) : Bytes :=
  match Search.find viaSeparator via with
  | none => via
  | some remainingVias => via.take remainingVias

/-- `tail`. -/
def lowerVias (via : Bytes) : Bytes :=
  match Search.find viaSeparator via with
  | none => []
  | some remainingVias => via.drop remainingVias

/-- `response_via_with_rport`. -/
def responseViaWithRport (via : Bytes) (sourceIp : UInt32) (sourcePort : UInt16) : Bytes :=
  responseTopVia (topVia via) sourceIp sourcePort ++ lowerVias via

/-! ## Entries and parameters -/

/-- The entries of a header. A comma within a quoted value separates none. -/
def entries (line : Bytes) : List Bytes := Quoted.parts quote backslash comma line

/-- The topmost entry of a header. -/
def topEntry (line : Bytes) : Bytes := (entries line).headD []

/-- The other entries of the header, each with the comma in front of it. -/
def lowerEntries (line : Bytes) : Bytes := behind comma (entries line).tail

/-- The sections of an entry. A semicolon within a quoted value separates none. -/
def sections (entry : Bytes) : List Bytes := Quoted.parts quote backslash semicolon entry

/-- The protocol and the host of an entry. -/
def sentBy (entry : Bytes) : Bytes := (sections entry).headD []

/-- The parameters of an entry. -/
def parameters (entry : Bytes) : List Bytes :=
  ((sections entry).tail.map trimCopy).filter (· != [])

/-- The entry has an `rport` parameter, with or without a value. -/
def HasRport (entry : Bytes) : Prop := ∃ p ∈ parameters entry, parameterKey p = ascii "rport"

/-- An entry with `received` and `rport` filled in. -/
structure Fills (entry filled : Bytes) (sourceIp : UInt32) (sourcePort : UInt16) : Prop where
  sentBy : sentBy filled = sentBy entry
  others : (parameters filled).filter keepsParameter = (parameters entry).filter keepsParameter
  received : (parameters filled).filter (parameterKey · == ascii "received") =
    [ascii "received=" ++ inetNtoa sourceIp]
  rport : (parameters filled).filter (parameterKey · == ascii "rport") =
    [ascii "rport=" ++ decimal sourcePort.toNat]

/-- The topmost entry is filled in if it asks for that, all else is left alone, and to do it again
    changes nothing. -/
structure RportHandled (via : Bytes) (sourceIp : UInt32) (sourcePort : UInt16) : Prop where
  filled : HasRport (topEntry (topVia via)) →
    ∃ entry, responseViaWithRport via sourceIp sourcePort =
        entry ++ lowerEntries (topVia via) ++ lowerVias via ∧
      lowerEntries entry = [] ∧ Fills (topEntry (topVia via)) entry sourceIp sourcePort
  kept : ¬HasRport (topEntry (topVia via)) → responseViaWithRport via sourceIp sourcePort = via
  again : responseViaWithRport (responseViaWithRport via sourceIp sourcePort) sourceIp sourcePort =
    responseViaWithRport via sourceIp sourcePort

/-- A header that already ends with the two parameters and has them nowhere else. -/
def AlreadyFilled (line : Bytes) (sourceIp : UInt32) (sourcePort : UInt16) : Prop :=
  ∃ front params, line = front ++ behind semicolon params ++ (ascii ";received=" ++
      inetNtoa sourceIp ++ ascii ";rport=" ++ decimal sourcePort.toNat) ∧
    semicolon ∉ front ∧ ∀ p ∈ params, semicolon ∉ p ∧ Search.Stripped isBlank p ∧
      keepsParameter p = true

/-- A piece that is written as it is. -/
def Survives (piece : Bytes) : Prop := Search.Stripped isBlank piece ∧ keepsParameter piece = true

/-- All pieces of the parameters that are to be kept survive, wherever a semicolon cuts them, and
    no piece of the others does. -/
structure Undivided (entry : Bytes) : Prop where
  sentBy : ∀ piece ∈ (parts semicolon (sentBy entry)).tail, Survives piece
  others : ∀ p ∈ parameters entry, keepsParameter p = true →
    Quoted.Closed quote backslash p ∧ ∀ piece ∈ parts semicolon p, Survives piece
  removed : ∀ p ∈ parameters entry, keepsParameter p = false →
    ∀ piece ∈ parts semicolon p, keepsParameter (trimCopy piece) = false

theorem topVia_append_lowerVias (via : Bytes) : topVia via ++ lowerVias via = via := by
  rw [topVia, lowerVias]
  cases Search.find viaSeparator via with
  | none => exact List.append_nil via
  | some n => exact List.take_append_drop n via

/-- The first header has no separator in it, also together with what follows. -/
theorem clear_topVia (via : Bytes) : Search.Clear viaSeparator (topVia via) (lowerVias via) ∧
    (lowerVias via = [] ∨ viaSeparator <+: lowerVias via) := by
  have hpat : viaSeparator ≠ [] := by decide
  rw [topVia, lowerVias]
  cases h : Search.find viaSeparator via with
  | none =>
    exact ⟨Search.clear_nil_of_absent ((Search.find_eq_none_iff hpat).mp h), .inl rfl⟩
  | some n =>
    obtain ⟨hclear, hprefix⟩ := Search.find_some h
    exact ⟨hclear, .inr hprefix⟩

/-- A first header without a separator is taken apart from the others. -/
theorem topVia_append {line tail : Bytes} (hclear : Search.Clear viaSeparator line tail)
    (htail : tail = [] ∨ viaSeparator <+: tail) :
    topVia (line ++ tail) = line ∧ lowerVias (line ++ tail) = tail := by
  have hpat : viaSeparator ≠ [] := by decide
  rw [topVia, lowerVias]
  rcases htail with rfl | hprefix
  · rw [List.append_nil, Search.find_none hpat hclear]
    exact ⟨rfl, rfl⟩
  · rw [Search.find_eq hclear hprefix]
    exact ⟨List.take_left, List.drop_left⟩

theorem topEntry_append_lowerEntries (line : Bytes) :
    topEntry line ++ lowerEntries line = line := by
  obtain ⟨w, ws, hentries, hline, -⟩ := @Quoted.exists_parts _ _ quote backslash comma line
  rw [topEntry, lowerEntries, entries, hentries]
  exact hline.symm

/-- Where there is one entry, no comma stands outside quoted values. -/
theorem topEntry_of_lowerEntries {line : Bytes} (h : lowerEntries line = []) :
    topEntry line = line ∧ Quoted.Free quote backslash comma .outside line := by
  have htop := topEntry_append_lowerEntries line
  rw [h, List.append_nil] at htop
  obtain ⟨w, ws, hentries, -, hfree, -⟩ := @Quoted.exists_parts _ _ quote backslash comma line
  refine ⟨htop, ?_⟩
  rw [topEntry, entries, hentries] at htop
  have hw : w = line := htop
  rw [← hw]
  exact hfree w List.mem_cons_self

theorem lowerEntries_of_free {line : Bytes} (h : Quoted.Free quote backslash comma .outside line) :
    lowerEntries line = [] := by
  rw [lowerEntries, entries, Quoted.parts, Quoted.partsFrom_of_free h]
  rfl

/-! ## What is written -/

/-- The two parameters that are written. -/
def filledParameters (sourceIp : UInt32) (sourcePort : UInt16) : List Bytes :=
  [ascii "received=" ++ inetNtoa sourceIp, ascii "rport=" ++ decimal sourcePort.toNat]

/-- The parameters that are kept of some parts. -/
def kept (params : List Bytes) : List Bytes := (params.map trimCopy).filter keepsParameter

theorem keepParameters_eq (out : Bytes) (params : List Bytes) :
    keepParameters out params = out ++ behind semicolon (kept params) := by
  induction params generalizing out with
  | nil => simp [keepParameters, kept, behind]
  | cons part rest ih =>
    have hkept : kept (part :: rest) =
        if keepsParameter (trimCopy part) then trimCopy part :: kept rest else kept rest := by
      rw [kept, List.map_cons, List.filter_cons]
      rfl
    rw [keepParameters, ih, hkept]
    split
    · rw [List.append_assoc]
      rfl
    · rfl

theorem behind_filledParameters (sourceIp : UInt32) (sourcePort : UInt16) :
    behind semicolon (filledParameters sourceIp sourcePort) =
      ascii ";received=" ++ inetNtoa sourceIp ++ ascii ";rport=" ++ decimal sourcePort.toNat := by
  have hreceived : ascii ";received=" = semicolon :: ascii "received=" := rfl
  have hrport : ascii ";rport=" = semicolon :: ascii "rport=" := rfl
  rw [hreceived, hrport]
  simp [behind, filledParameters]

/-- What is written for a header that mentions `rport`. -/
theorem responseTopVia_of_mention {front : Bytes} {params : List Bytes}
    (hclean : ∀ p ∈ front :: params, semicolon ∉ p)
    (h : ascii "rport" <:+: (front ++ behind semicolon params).map toLower) (sourceIp : UInt32)
    (sourcePort : UInt16) :
    responseTopVia (front ++ behind semicolon params) sourceIp sourcePort =
      front ++ behind semicolon (kept params ++ filledParameters sourceIp sourcePort) := by
  rw [List.forall_mem_cons] at hclean
  have hfind : ¬Search.find (ascii "rport") ((front ++ behind semicolon params).map toLower) =
    none := by
    rw [Search.find_eq_none_iff (by decide), Decidable.not_not]
    exact h
  rw [responseTopVia, if_neg hfind, Search.behind_append, behind_filledParameters]
  cases params with
  | nil =>
    have hnone : cut semicolon (front ++ behind semicolon []) = none :=
      Search.cut_none (by simpa [behind] using hclean.1)
    rw [hnone]
    simp [behind, kept]
  | cons p ps =>
    have hbehind : behind semicolon (p :: ps) = semicolon :: (p ++ behind semicolon ps) := by
      rw [behind, List.flatMap_cons]
      rfl
    rw [hbehind, Search.cut_eq hclean.1]
    simp only
    rw [Search.parts_behind hclean.2, keepParameters_eq, List.append_assoc front]

theorem responseTopVia_of_no_mention {line : Bytes} (h : ¬ascii "rport" <:+: line.map toLower)
    (sourceIp : UInt32) (sourcePort : UInt16) : responseTopVia line sourceIp sourcePort = line := by
  rw [responseTopVia, if_pos ((Search.find_eq_none_iff (by decide)).mpr h)]

/-! ## The parameters that are written -/

theorem not_mem_filledParameters {b : UInt8} {sourceIp : UInt32} {sourcePort : UInt16}
    (huser : isUserByte b = false) (hreceived : b ∉ ascii "received=")
    (hrport : b ∉ ascii "rport=") :
    ∀ p ∈ filledParameters sourceIp sourcePort, b ∉ p := by
  have hnot : ∀ c, isUserByte c = true → b ≠ c := by
    rintro c hc rfl
    rw [huser] at hc
    cases hc
  simp only [filledParameters, List.forall_mem_cons, List.mem_append, not_or]
  refine ⟨⟨hreceived, fun h => ?_⟩, ⟨hrport, fun h => ?_⟩, fun _ h => absurd h List.not_mem_nil⟩
  · exact hnot b (isUserByte_of_mem_inetNtoa h) rfl
  · exact hnot b (isUserByte_of_mem_decimal h) rfl

/-- The written parameters are trimmed, and have their names. -/
theorem filledParameters_facts (sourceIp : UInt32) (sourcePort : UInt16) :
    trimCopy (ascii "received=" ++ inetNtoa sourceIp) = ascii "received=" ++ inetNtoa sourceIp ∧
      trimCopy (ascii "rport=" ++ decimal sourcePort.toNat) =
        ascii "rport=" ++ decimal sourcePort.toNat ∧
      parameterKey (ascii "received=" ++ inetNtoa sourceIp) = ascii "received" ∧
      parameterKey (ascii "rport=" ++ decimal sourcePort.toNat) = ascii "rport" := by
  have hreceived : ∀ b ∈ ascii "received=", isBlank b = false := forall_mem_of_all (by decide)
  have hrport : ∀ b ∈ ascii "rport=", isBlank b = false := forall_mem_of_all (by decide)
  have hcut (name value : Bytes) (h : equals ∉ name) :
      parameterKey (name ++ equals :: value) = (trimCopy name).map toLower := by
    rw [parameterKey, Search.cut_eq h]
  refine ⟨trimCopy_of_forall ?_, trimCopy_of_forall ?_, ?_, ?_⟩
  · rw [List.forall_mem_append]
    exact ⟨hreceived, fun b hb => (isUserByte_ne (isUserByte_of_mem_inetNtoa hb)).1⟩
  · rw [List.forall_mem_append]
    exact ⟨hrport, fun b hb => (isUserByte_ne (isUserByte_of_mem_decimal hb)).1⟩
  · exact (hcut (ascii "received") (inetNtoa sourceIp) (by decide)).trans (by decide)
  · exact (hcut (ascii "rport") (decimal sourcePort.toNat) (by decide)).trans (by decide)

/-- Nothing of what is written is kept when it is done again. -/
theorem kept_filled {params : List Bytes}
    (h : ∀ p ∈ params, Search.Stripped isBlank p ∧ keepsParameter p = true) (sourceIp : UInt32)
    (sourcePort : UInt16) : kept (params ++ filledParameters sourceIp sourcePort) = params := by
  obtain ⟨htrim, htrim', hkey, hkey'⟩ := filledParameters_facts sourceIp sourcePort
  have hparams : params.map trimCopy = params := by
    refine (List.map_congr_left fun p hp => ?_).trans (List.map_id params)
    exact trimCopy_eq_self (h p hp).1
  rw [kept, List.map_append, hparams, List.filter_append,
    List.filter_eq_self.mpr fun p hp => (h p hp).2]
  simp [filledParameters, htrim, htrim', keepsParameter, hkey, hkey']

theorem stripped_of_mem_kept {params : List Bytes} {p : Bytes} (h : p ∈ kept params) :
    Search.Stripped isBlank p ∧ keepsParameter p = true ∧ ∃ q ∈ params, p <:+: q := by
  obtain ⟨hmem, hkeeps⟩ := List.mem_filter.mp h
  obtain ⟨q, hq, rfl⟩ := List.mem_map.mp hmem
  exact ⟨Search.stripped_strip isBlank q, hkeeps, q, hq, Search.strip_isInfix isBlank q⟩

/-- To write the parameters once more changes nothing. -/
theorem responseTopVia_filled {front : Bytes} {params : List Bytes} (hfront : semicolon ∉ front)
    (hparams : ∀ p ∈ params, semicolon ∉ p ∧ Search.Stripped isBlank p ∧ keepsParameter p = true)
    (sourceIp : UInt32) (sourcePort : UInt16) :
    responseTopVia (front ++ behind semicolon (params ++ filledParameters sourceIp sourcePort))
        sourceIp sourcePort =
      front ++ behind semicolon (params ++ filledParameters sourceIp sourcePort) := by
  have hclean : ∀ p ∈ front :: (params ++ filledParameters sourceIp sourcePort), semicolon ∉ p := by
    rw [List.forall_mem_cons, List.forall_mem_append]
    exact ⟨hfront, fun p hp => (hparams p hp).1,
      not_mem_filledParameters (by decide) (by decide) (by decide)⟩
  have hrport : ascii "rport" <:+:
      (front ++ behind semicolon (params ++ filledParameters sourceIp sourcePort)).map toLower := by
    have hlast : ascii "rport=" ++ decimal sourcePort.toNat <:+:
        behind semicolon (params ++ filledParameters sourceIp sourcePort) := by
      exact Search.infix_behind
        (List.mem_append_right _ (List.mem_cons_of_mem _ List.mem_cons_self))
    have hname : ascii "rport" <:+: (ascii "rport=" ++ decimal sourcePort.toNat).map toLower := by
      exact ⟨[], equals :: (decimal sourcePort.toNat).map toLower, rfl⟩
    exact hname.trans ((hlast.trans (List.suffix_append _ _).isInfix).map toLower)
  rw [responseTopVia_of_mention hclean hrport, kept_filled fun p hp => (hparams p hp).2]

/-- The written header has no separator in it. -/
theorem clear_filled {front : Bytes} {params : List Bytes} (hfront : ¬viaSeparator <:+: front)
    (hparams : ∀ p ∈ params, ¬viaSeparator <:+: p) (sourceIp : UInt32) (sourcePort : UInt16)
    (tail : Bytes) :
    Search.Clear viaSeparator
      (front ++ behind semicolon (params ++ filledParameters sourceIp sourcePort)) tail := by
  have hpat : viaSeparator ≠ [] := by decide
  have hsemicolon : semicolon ∉ viaSeparator := by decide
  have hkept (ps : List Bytes) (hps : ∀ p ∈ ps, ¬viaSeparator <:+: p) (front : Bytes)
      (hfront : ¬viaSeparator <:+: front) : ¬viaSeparator <:+: front ++ behind semicolon ps := by
    induction ps generalizing front with
    | nil => simpa [behind] using hfront
    | cons p ps ih =>
      rw [List.forall_mem_cons] at hps
      rw [behind, List.flatMap_cons, List.cons_append]
      exact Search.not_infix_append_cons hpat hsemicolon hfront (ih hps.2 p hps.1)
  rw [Search.behind_append, ← List.append_assoc, Search.clear_append]
  constructor
  · rw [behind_filledParameters]
    exact Search.clear_of_absent hsemicolon (hkept params hparams front hfront) _
  · -- a separator would begin with a line break
    have hreturn : (13 : UInt8) ∉ behind semicolon (filledParameters sourceIp sourcePort) := by
      rw [behind, List.mem_flatMap]
      rintro ⟨p, hp, hmem⟩
      rcases List.mem_cons.mp hmem with hsemi | hmem
      · exact absurd hsemi (by decide)
      · exact not_mem_filledParameters (by decide) (by decide) (by decide) p hp hmem
    exact Search.clear_of_not_mem hreturn tail

/-! ## The topmost entry -/

theorem exists_sections (entry : Bytes) : ∃ params,
    sections entry = sentBy entry :: params ∧ entry = sentBy entry ++ behind semicolon params ∧
      (∀ w ∈ sentBy entry :: params, Quoted.Free quote backslash semicolon .outside w) ∧
      ∀ w ∈ (sentBy entry :: params).dropLast, Quoted.Closed quote backslash w := by
  obtain ⟨w, ws, hsections, hentry⟩ := @Quoted.exists_parts _ _ quote backslash semicolon entry
  have hsent : sentBy entry = w := by
    rw [sentBy, sections, hsections]
    rfl
  rw [hsent]
  exact ⟨ws, hsections, hentry⟩

theorem parameters_eq {entry : Bytes} {params : List Bytes}
    (h : sections entry = sentBy entry :: params) :
    parameters entry = (params.map trimCopy).filter (· != []) := by
  rw [parameters, h]
  rfl

/-- The name of a parameter is in its text. -/
theorem parameterKey_isInfix (p : Bytes) : parameterKey p <:+: p.map toLower := by
  rw [parameterKey]
  refine List.IsInfix.map toLower ((Search.strip_isInfix isBlank _).trans ?_)
  split
  · exact List.infix_rfl
  · rename_i key value hcut
    rw [(Search.cut_some hcut).1]
    exact (List.prefix_append key _).isInfix

/-- A header whose topmost entry has an `rport` parameter mentions it. -/
theorem HasRport.mention {line : Bytes} (h : HasRport (topEntry line)) :
    ascii "rport" <:+: line.map toLower := by
  obtain ⟨p, hp, hkey⟩ := h
  obtain ⟨params, hsections, hentry, -⟩ := exists_sections (topEntry line)
  rw [parameters_eq hsections] at hp
  obtain ⟨q, hq, rfl⟩ := List.mem_map.mp (List.mem_filter.mp hp).1
  have hname := parameterKey_isInfix (trimCopy q)
  rw [hkey] at hname
  refine hname.trans (List.IsInfix.map toLower ?_)
  have hentryline : topEntry line <:+: line := by
    have hprefix := List.prefix_append (topEntry line) (lowerEntries line)
    rw [topEntry_append_lowerEntries] at hprefix
    exact hprefix.isInfix
  refine ((Search.strip_isInfix isBlank q).trans ?_).trans hentryline
  rw [hentry]
  exact (Search.infix_behind hq).trans (List.suffix_append _ _).isInfix

/-! ## Pieces that survive -/

theorem kept_append (pieces others : List Bytes) :
    kept (pieces ++ others) = kept pieces ++ kept others := by
  rw [kept, List.map_append, List.filter_append]
  rfl

theorem kept_eq_self {pieces : List Bytes} (h : ∀ piece ∈ pieces, Survives piece) :
    kept pieces = pieces := by
  have hmap : pieces.map trimCopy = pieces := by
    refine (List.map_congr_left fun p hp => ?_).trans (List.map_id pieces)
    exact trimCopy_eq_self (h p hp).1
  rw [kept, hmap, List.filter_eq_self]
  exact fun p hp => (h p hp).2

theorem kept_flatMap (params : List Bytes) :
    kept (params.flatMap (parts semicolon)) =
      params.flatMap fun p => kept (parts semicolon p) := by
  induction params with
  | nil => rfl
  | cons p params ih => rw [List.flatMap_cons, kept_append, ih, List.flatMap_cons]

/-- It does not matter for the pieces that a parameter is trimmed. -/
theorem kept_parts_trimCopy (p : Bytes) :
    kept (parts semicolon (trimCopy p)) = kept (parts semicolon p) := by
  rw [kept, kept]
  exact congrArg (List.filter keepsParameter) (Search.map_strip_parts (by decide) p)

/-- The pieces of an entry are those of its sections. -/
theorem exists_pieces {entry : Bytes} {params : List Bytes}
    (h : sections entry = sentBy entry :: params) :
    ∃ front, parts semicolon (sentBy entry) = front :: (parts semicolon (sentBy entry)).tail ∧
      parts semicolon entry = front :: ((parts semicolon (sentBy entry)).tail ++
        params.flatMap (parts semicolon)) := by
  obtain ⟨front, rest, hparts, -⟩ := Search.exists_parts semicolon (sentBy entry)
  refine ⟨front, by rw [hparts]; rfl, ?_⟩
  have hflat := @Quoted.flatMap_parts _ _ quote backslash semicolon entry
  rw [show Quoted.parts quote backslash semicolon entry = sections entry from rfl, h,
    List.flatMap_cons, hparts] at hflat
  rw [← hflat, hparts]
  rfl

theorem parts_filledParameters (sourceIp : UInt32) (sourcePort : UInt16) :
    (filledParameters sourceIp sourcePort).flatMap (parts semicolon) =
      filledParameters sourceIp sourcePort := by
  have hclean : ∀ p ∈ filledParameters sourceIp sourcePort, semicolon ∉ p :=
    not_mem_filledParameters (by decide) (by decide) (by decide)
  generalize filledParameters sourceIp sourcePort = params at hclean
  induction params with
  | nil => rfl
  | cons p params ih =>
    rw [List.forall_mem_cons] at hclean
    rw [List.flatMap_cons, ih hclean.2, Search.parts_of_not_mem hclean.1]
    rfl

section Entry

variable {entry : Bytes} {params : List Bytes}

/-- The parameters of an entry that are to be kept. -/
theorem mem_parameters_of_keeps (h : sections entry = sentBy entry :: params) {p : Bytes}
    (hp : p ∈ params) (hne : trimCopy p ≠ []) : trimCopy p ∈ parameters entry := by
  rw [parameters_eq h, List.mem_filter, bne_iff_ne]
  exact ⟨List.mem_map_of_mem hp, hne⟩

theorem filter_keeps_parameters (h : sections entry = sentBy entry :: params) :
    (parameters entry).filter keepsParameter = kept params := by
  rw [parameters_eq h, List.filter_filter, kept]
  refine List.filter_congr fun p _ => ?_
  cases p with
  | nil => rfl
  | cons b p => exact Bool.and_true _

/-- What is kept of the pieces is what is kept of the parameters. -/
theorem kept_pieces (h : sections entry = sentBy entry :: params) (hundivided : Undivided entry) :
    kept ((parts semicolon (sentBy entry)).tail ++ params.flatMap (parts semicolon)) =
      (parts semicolon (sentBy entry)).tail ++ (kept params).flatMap (parts semicolon) := by
  rw [kept_append, kept_eq_self hundivided.sentBy, kept_flatMap]
  congr 1
  have hparams : ∀ p ∈ params, kept (parts semicolon p) =
      if keepsParameter (trimCopy p) then parts semicolon (trimCopy p) else [] := by
    intro p hp
    rw [← kept_parts_trimCopy]
    split
    · rename_i hkeeps
      have hne : trimCopy p ≠ [] := by
        intro hnil
        rw [hnil] at hkeeps
        cases hkeeps
      exact kept_eq_self (hundivided.others _ (mem_parameters_of_keeps h hp hne) hkeeps).2
    · rename_i hkeeps
      rw [Bool.not_eq_true] at hkeeps
      by_cases hne : trimCopy p = []
      · rw [hne]
        rfl
      · rw [kept, List.filter_eq_nil_iff, List.forall_mem_map]
        intro piece hpiece
        rw [hundivided.removed _ (mem_parameters_of_keeps h hp hne) hkeeps piece hpiece]
        decide
  clear h
  induction params with
  | nil => rfl
  | cons p params ih =>
    rw [List.forall_mem_cons] at hparams
    have hkept : kept (p :: params) =
        if keepsParameter (trimCopy p) then trimCopy p :: kept params else kept params := by
      rw [kept, List.map_cons, List.filter_cons]
      rfl
    rw [List.flatMap_cons, hparams.1, ih hparams.2, hkept]
    split <;> rfl

/-- The parameters that are kept are closed, and separators stand only within their quotes. -/
theorem kept_clean (h : sections entry = sentBy entry :: params) (hundivided : Undivided entry)
    {c : UInt8} (hfree : ∀ p ∈ params, Quoted.Free quote backslash c .outside p) :
    ∀ p ∈ kept params, Quoted.Closed quote backslash p ∧
      Quoted.Free quote backslash c .outside p := by
  intro p hp
  have hclosed : p ∈ parameters entry ∧ keepsParameter p = true := by
    rw [← filter_keeps_parameters h] at hp
    exact List.mem_filter.mp hp
  obtain ⟨q, hq, rfl⟩ := List.mem_map.mp (List.mem_filter.mp hp).1
  exact ⟨(hundivided.others _ hclosed.1 hclosed.2).1, (hfree q hq).strip (by decide)⟩

/-- The sections that are written are closed, and what stands outside the quotes of the entry
    alone does so in them. -/
theorem filled_clean (h : sections entry = sentBy entry :: params) (hne : params ≠ [])
    (hundivided : Undivided entry) {c : UInt8} (huser : isUserByte c = false)
    (hreceived : c ∉ ascii "received=") (hrport : c ∉ ascii "rport=")
    (hfree : ∀ w ∈ sentBy entry :: params, Quoted.Free quote backslash c .outside w)
    {sourceIp : UInt32} {sourcePort : UInt16} :
    ∀ w ∈ sentBy entry :: (kept params ++ filledParameters sourceIp sourcePort),
      Quoted.Closed quote backslash w ∧ Quoted.Free quote backslash c .outside w := by
  obtain ⟨params', hsections, -, -, hclosed⟩ := exists_sections entry
  rw [h] at hsections
  obtain rfl : params = params' := (List.cons.inj hsections).2
  rw [List.dropLast_cons_of_ne_nil hne, List.forall_mem_cons] at hclosed
  rw [List.forall_mem_cons] at hfree
  rw [List.forall_mem_cons, List.forall_mem_append]
  refine ⟨⟨hclosed.1, hfree.1⟩, kept_clean h hundivided hfree.2, fun p hp => ⟨?_, ?_⟩⟩
  · exact Quoted.closed_of_not_mem
      (not_mem_filledParameters (by decide) (by decide) (by decide) p hp)
  · exact Quoted.free_of_not_mem (not_mem_filledParameters huser hreceived hrport p hp) _

/-- The sections of an entry whose parameters are kept and filled in. -/
theorem sections_filled (h : sections entry = sentBy entry :: params) (hne : params ≠ [])
    (hundivided : Undivided entry) (sourceIp : UInt32) (sourcePort : UInt16) :
    sections (sentBy entry ++
      behind semicolon (kept params ++ filledParameters sourceIp sourcePort)) =
      sentBy entry :: (kept params ++ filledParameters sourceIp sourcePort) := by
  obtain ⟨params', hsections, -, hfree, -⟩ := exists_sections entry
  rw [← hsections, h] at hfree
  have hclean := @filled_clean _ _ h hne hundivided semicolon (by decide) (by decide) (by decide)
    hfree sourceIp sourcePort
  exact Quoted.parts_behind (fun w hw => (hclean w hw).2)
    fun w hw => (hclean w ((List.dropLast_sublist _).subset hw)).1

/-- An entry stays one entry when it is filled in. -/
theorem lowerEntries_filled (h : sections entry = sentBy entry :: params) (hne : params ≠ [])
    (hundivided : Undivided entry) (hone : lowerEntries entry = []) (sourceIp : UInt32)
    (sourcePort : UInt16) :
    lowerEntries (sentBy entry ++
      behind semicolon (kept params ++ filledParameters sourceIp sourcePort)) = [] := by
  obtain ⟨params', hsections, hentry, -, hclosed⟩ := exists_sections entry
  have hcomma := (topEntry_of_lowerEntries hone).2
  rw [hentry, Quoted.free_behind (by decide) (by decide) hclosed, ← hsections, h] at hcomma
  have hclean := @filled_clean _ _ h hne hundivided comma (by decide) (by decide) (by decide)
    hcomma sourceIp sourcePort
  apply lowerEntries_of_free
  rw [Quoted.free_behind (by decide) (by decide)]
  · exact fun w hw => (hclean w hw).2
  · exact fun w hw => (hclean w ((List.dropLast_sublist _).subset hw)).1

/-- The parameters that an entry has when it is filled in. -/
theorem fills_of_sections (h : sections entry = sentBy entry :: params) {filled : Bytes}
    {sourceIp : UInt32} {sourcePort : UInt16} (hfilled : sections filled =
      sentBy entry :: (kept params ++ filledParameters sourceIp sourcePort)) :
    Fills entry filled sourceIp sourcePort := by
  obtain ⟨htrim, htrim', hkey, hkey'⟩ := filledParameters_facts sourceIp sourcePort
  have hsent : sentBy filled = sentBy entry := by
    rw [sentBy, hfilled]
    rfl
  have hkeepsAll : ∀ p ∈ kept params, keepsParameter p = true := fun p hp =>
    (List.mem_filter.mp hp).2
  -- What is kept has been trimmed, and so has what is written.
  have htrimmed : (kept params ++ filledParameters sourceIp sourcePort).map trimCopy =
      kept params ++ filledParameters sourceIp sourcePort := by
    rw [List.map_append]
    congr 1
    · refine (List.map_congr_left fun p hp => ?_).trans (List.map_id _)
      exact trimCopy_eq_self (stripped_of_mem_kept hp).1
    · rw [filledParameters, List.map_cons, List.map_singleton, htrim, htrim']
  -- Therefore the parameters are read back as they stand,
  have hparameters : parameters filled =
      kept params ++ filledParameters sourceIp sourcePort := by
    rw [← hsent] at hfilled
    rw [parameters_eq hfilled, htrimmed, List.filter_eq_self]
    intro p hp
    rw [bne_iff_ne]
    rintro rfl
    rcases List.mem_append.mp hp with hp | hp
    · exact absurd (hkeepsAll [] hp) (by decide)
    · simp [filledParameters, ascii] at hp
  -- and none that is kept has a name that is written.
  have hother (name : Bytes) (hname : name = ascii "received" ∨ name = ascii "rport") :
      (kept params).filter (parameterKey · == name) = [] := by
    rw [List.filter_eq_nil_iff]
    intro p hp heq
    have hkeeps := hkeepsAll p hp
    rw [beq_iff_eq] at heq
    simp only [keepsParameter, heq, Bool.and_eq_true, bne_iff_ne] at hkeeps
    rcases hname with hname | hname
    · exact hkeeps.2 hname
    · exact hkeeps.1.2 hname
  constructor
  · exact hsent
  · rw [hparameters, filter_keeps_parameters h, List.filter_append,
      List.filter_eq_self.mpr hkeepsAll]
    simp [filledParameters, keepsParameter, hkey, hkey']
  · -- so received is there once,
    rw [hparameters, List.filter_append, hother _ (.inl rfl)]
    rw [filledParameters, List.filter_cons_of_pos (by rw [hkey]; decide),
      List.filter_cons_of_neg (by rw [hkey']; decide)]
    rfl
  · -- and rport is
    rw [hparameters, List.filter_append, hother _ (.inr rfl)]
    rw [filledParameters, List.filter_cons_of_neg (by rw [hkey]; decide),
      List.filter_cons_of_pos (by rw [hkey']; decide)]
    rfl

/-- What is written for an entry whose pieces survive. -/
theorem written_eq (h : sections entry = sentBy entry :: params) (hundivided : Undivided entry)
    {front : Bytes} {pieces : List Bytes} (hparts : parts semicolon entry = front :: pieces)
    (filled : List Bytes) :
    front ++ behind semicolon (kept pieces ++ filled) =
      sentBy entry ++ behind semicolon (kept params ++ filled) := by
  obtain ⟨front', hsent, hentry⟩ := exists_pieces h
  rw [hparts] at hentry
  obtain ⟨rfl, rfl⟩ := List.cons.inj hentry
  rw [kept_pieces h hundivided, List.append_assoc, Search.behind_append, Search.behind_append,
    Search.behind_flatMap_parts, Search.behind_append, ← List.append_assoc]
  congr 1
  obtain ⟨first, rest, hparts', hsentBy, -⟩ := Search.exists_parts semicolon (sentBy entry)
  rw [hparts'] at hsent
  rw [hparts', List.tail_cons, ← (List.cons.inj hsent).1]
  exact hsentBy.symm

end Entry

/-! ## What a filled entry was -/

section Written

variable {entry written : Bytes} {sourceIp : UInt32} {sourcePort : UInt16} {front : Bytes}
  {pieces : List Bytes}

theorem not_keeps_filledParameters (sourceIp : UInt32) (sourcePort : UInt16) :
    ∀ p ∈ filledParameters sourceIp sourcePort,
      keepsParameter p = false ∧ Search.Stripped isBlank p ∧ p ≠ [] := by
  obtain ⟨htrim, htrim', hkey, hkey'⟩ := filledParameters_facts sourceIp sourcePort
  have hstripped (p : Bytes) (h : trimCopy p = p) : Search.Stripped isBlank p := by
    rw [← h]
    exact Search.stripped_strip isBlank p
  intro p hp
  rcases List.mem_cons.mp hp with rfl | hp
  · exact ⟨by simp [keepsParameter, hkey], hstripped _ htrim, by simp [ascii]⟩
  · rw [List.mem_singleton.mp hp]
    exact ⟨by simp [keepsParameter, hkey'], hstripped _ htrim', by simp [ascii]⟩

/-- The sections of what is written are its parameters. -/
theorem parameters_written {params : List Bytes}
    (hsections : sections written = sentBy written :: params)
    (hpieces : ∀ piece ∈ params.flatMap (parts semicolon),
      piece ∈ kept pieces ++ filledParameters sourceIp sourcePort) :
    parameters written = params := by
  have hparams : ∀ p ∈ params, Search.Stripped isBlank p ∧ p ≠ [] := by
    intro p hp
    refine @Search.stripped_of_parts _ _ _ semicolon _ fun piece hpiece => ?_
    rcases List.mem_append.mp (hpieces piece (List.mem_flatMap.mpr ⟨p, hp, hpiece⟩)) with hin | hin
    · obtain ⟨hstripped, hkeeps, -⟩ := stripped_of_mem_kept hin
      refine ⟨hstripped, ?_⟩
      rintro rfl
      cases hkeeps
    · exact (not_keeps_filledParameters _ _ piece hin).2
  have htrim : params.map trimCopy = params :=
    (List.map_congr_left fun p hp => trimCopy_eq_self (hparams p hp).1).trans (List.map_id _)
  rw [parameters_eq hsections, htrim, List.filter_eq_self]
  exact fun p hp => bne_iff_ne.mpr (hparams p hp).2

/-- The parameters of a filled entry are those that were kept and the two that are written. -/
theorem parameters_perm (h : Fills entry written sourceIp sourcePort) :
    (parameters written).Perm
      ((parameters entry).filter keepsParameter ++ filledParameters sourceIp sourcePort) := by
  have hne : ∀ p ∈ parameters written, p ≠ [] := fun p hp => bne_iff_ne.mp (List.mem_filter.mp hp).2
  have hsplit := List.filter_append_perm keepsParameter (parameters written)
  have hother := List.filter_append_perm (parameterKey · == ascii "received")
    ((parameters written).filter fun p => !keepsParameter p)
  rw [List.filter_filter, List.filter_filter] at hother
  have hreceived : (parameters written).filter (fun p =>
        (parameterKey p == ascii "received") && !keepsParameter p) =
      [ascii "received=" ++ inetNtoa sourceIp] := by
    rw [← h.received]
    refine List.filter_congr fun p _ => ?_
    by_cases hkey : parameterKey p = ascii "received" <;> simp [keepsParameter, hkey]
  have hrport : (parameters written).filter (fun p =>
        !(parameterKey p == ascii "received") && !keepsParameter p) =
      [ascii "rport=" ++ decimal sourcePort.toNat] := by
    rw [← h.rport]
    refine List.filter_congr fun p hp => ?_
    by_cases hkey : parameterKey p = ascii "rport"
    · simp [keepsParameter, hkey]
      decide
    · by_cases hkey' : parameterKey p = ascii "received"
      · simp [keepsParameter, hkey']
        decide
      · simp only [keepsParameter, bne, beq_eq_false_iff_ne.mpr hkey, beq_eq_false_iff_ne.mpr hkey',
          beq_eq_false_iff_ne.mpr (hne p hp)]
        rfl
  rw [hreceived, hrport] at hother
  rw [← h.others]
  exact hsplit.symm.trans (hother.symm.append_left _)

/-- The pieces that were kept are those of the entry and of the parameters that are to be kept. -/
theorem pieces_perm (hwritten : parts semicolon written =
      front :: (kept pieces ++ filledParameters sourceIp sourcePort))
    (h : Fills entry written sourceIp sourcePort) :
    (kept pieces).Perm ((parts semicolon (sentBy entry)).tail ++
      ((parameters entry).filter keepsParameter).flatMap (parts semicolon)) := by
  obtain ⟨params, hsections, -⟩ := exists_sections written
  obtain ⟨front', -, hpieces⟩ := exists_pieces hsections
  rw [hwritten, List.cons.injEq] at hpieces
  have hparameters := parameters_written hsections fun piece hpiece => by
    rw [hpieces.2]
    exact List.mem_append_right _ hpiece
  have hperm := (parameters_perm h).flatMap_right (parts semicolon)
  rw [hparameters, List.flatMap_append, parts_filledParameters] at hperm
  have hall := hperm.append_left (parts semicolon (sentBy written)).tail
  rw [← hpieces.2, h.sentBy, ← List.append_assoc, List.perm_append_right_iff] at hall
  exact hall

/-- A parameter of which all pieces survive has its quotes closed, because the port is the last
    piece that is written. -/
theorem closed_of_fills (hwritten : parts semicolon written =
      front :: (kept pieces ++ filledParameters sourceIp sourcePort))
    (h : Fills entry written sourceIp sourcePort) {p : Bytes}
    (hp : p ∈ (parameters entry).filter keepsParameter)
    (hsurvives : ∀ piece ∈ parts semicolon p, Survives piece) :
    Quoted.Closed quote backslash p := by
  obtain ⟨params, hsections, -, -, hclosed⟩ := exists_sections written
  obtain ⟨front', -, hpieces⟩ := exists_pieces hsections
  rw [hwritten, List.cons.injEq] at hpieces
  have hparameters := parameters_written hsections fun piece hpiece => by
    rw [hpieces.2]
    exact List.mem_append_right _ hpiece
  rw [← h.others, hparameters] at hp
  have hmem := (List.mem_filter.mp hp).1
  rcases List.eq_nil_or_concat params with rfl | ⟨init, last, rfl⟩
  · exact absurd hmem List.not_mem_nil
  · rw [List.concat_eq_append] at hclosed hmem hpieces
    have hport : ascii "rport=" ++ decimal sourcePort.toNat ∈ parts semicolon last := by
      obtain ⟨w, ws, hparts, -⟩ := Search.exists_parts semicolon last
      have hlast := congrArg List.getLast? hpieces.2
      rw [List.flatMap_append, List.flatMap_singleton, ← List.append_assoc, hparts,
        List.getLast?_append_of_ne_nil _ (List.cons_ne_nil w ws), filledParameters,
        List.getLast?_append_of_ne_nil _ (List.cons_ne_nil _ _), ← hparts] at hlast
      exact List.mem_of_getLast? hlast.symm
    rcases List.mem_append.mp hmem with hinit | hinit
    · refine hclosed p ?_
      rw [← List.cons_append, List.dropLast_concat]
      exact List.mem_cons_of_mem _ hinit
    · rw [List.mem_singleton.mp hinit] at hsurvives
      have hnot := (not_keeps_filledParameters sourceIp sourcePort _
        (List.mem_cons_of_mem _ List.mem_cons_self)).1
      rw [(hsurvives _ hport).2] at hnot
      cases hnot

/-- Nothing is left of the other parameters, because the pieces that were kept are used up. -/
theorem removed_of_perm {params : List Bytes} (hsections : sections entry = sentBy entry :: params)
    (hsurvives : ∀ p ∈ kept params, ∀ piece ∈ parts semicolon p, Survives piece)
    (hperm : (params.flatMap fun p => kept (parts semicolon p)).Perm
      ((kept params).flatMap (parts semicolon))) {p : Bytes} (hp : p ∈ parameters entry)
    (hkeeps : keepsParameter p = false) :
    ∀ piece ∈ parts semicolon p, keepsParameter (trimCopy piece) = false := by
  have hkept : (params.filter fun p => keepsParameter (trimCopy p)).flatMap
      (fun p => kept (parts semicolon p)) = (kept params).flatMap (parts semicolon) := by
    have hmap : kept params =
        (params.filter fun p => keepsParameter (trimCopy p)).map trimCopy := by
      rw [kept, List.filter_map]
      rfl
    rw [hmap] at hsurvives ⊢
    rw [List.flatMap_map]
    refine List.flatMap_congr fun q hq => ?_
    rw [← kept_parts_trimCopy, kept_eq_self (hsurvives _ (List.mem_map_of_mem hq))]
  have hsplit := (List.filter_append_perm (fun p => keepsParameter (trimCopy p))
    params).flatMap_right
    fun p => kept (parts semicolon p)
  rw [List.flatMap_append, hkept] at hsplit
  have hlength := (hsplit.trans hperm).length_eq
  rw [List.length_append, Nat.add_eq_left] at hlength
  have hnil := List.eq_nil_of_length_eq_zero hlength
  rw [parameters_eq hsections, List.mem_filter] at hp
  obtain ⟨q, hq, rfl⟩ := List.mem_map.mp hp.1
  have hnone := List.flatMap_eq_nil_iff.mp hnil q
    (List.mem_filter.mpr ⟨hq, by rw [hkeeps]; rfl⟩)
  rw [← kept_parts_trimCopy, kept, List.filter_eq_nil_iff, List.forall_mem_map] at hnone
  exact fun piece hpiece => Bool.not_eq_true _ ▸ hnone piece hpiece

/-- What is written for an entry fills it in only if its pieces survive. -/
theorem undivided_of_fills (hparts : parts semicolon entry = front :: pieces)
    (hwritten : parts semicolon written =
      front :: (kept pieces ++ filledParameters sourceIp sourcePort))
    (h : Fills entry written sourceIp sourcePort) : Undivided entry := by
  obtain ⟨params, hsections, -⟩ := exists_sections entry
  obtain ⟨front', -, hpieces⟩ := exists_pieces hsections
  rw [hparts, List.cons.injEq] at hpieces
  have hperm := pieces_perm hwritten h
  have hsurvives : ∀ piece ∈ kept pieces, Survives piece := fun piece hpiece =>
    ⟨(stripped_of_mem_kept hpiece).1, (stripped_of_mem_kept hpiece).2.1⟩
  have hsent : ∀ piece ∈ (parts semicolon (sentBy entry)).tail, Survives piece :=
    fun piece hpiece =>
    hsurvives piece (hperm.mem_iff.mpr (List.mem_append_left _ hpiece))
  have hothers : ∀ p ∈ (parameters entry).filter keepsParameter,
      ∀ piece ∈ parts semicolon p, Survives piece := fun p hp piece hpiece =>
    hsurvives piece (hperm.mem_iff.mpr
      (List.mem_append_right _ (List.mem_flatMap.mpr ⟨p, hp, hpiece⟩)))
  refine ⟨hsent, fun p hp hkeeps => ?_, fun p hp hkeeps => ?_⟩
  · have hkept := List.mem_filter.mpr ⟨hp, hkeeps⟩
    exact ⟨closed_of_fills hwritten h hkept (hothers p hkept), hothers p hkept⟩
  · rw [hpieces.2, kept_append, kept_eq_self hsent, kept_flatMap, List.perm_append_left_iff,
      filter_keeps_parameters hsections] at hperm
    rw [filter_keeps_parameters hsections] at hothers
    exact removed_of_perm hsections hothers hperm hp hkeeps

end Written

/-- A part that begins like the written port does not belong to the parameters that are kept. -/
theorem keepsParameter_append {part : Bytes} {sourcePort : UInt16}
    (h : trimCopy part = ascii "rport=" ++ decimal sourcePort.toNat) (rest : Bytes) :
    keepsParameter (part ++ rest) = false := by
  have hmem : equals ∈ part := by
    apply mem_of_mem_trimCopy
    rw [h]
    exact List.mem_append_left _ (by decide)
  obtain ⟨name, value, -, rfl, hname⟩ := Search.cut_of_mem hmem
  obtain ⟨trimmed, htrimmed⟩ := trimCopy_append (c := equals) (by decide) name value
  have hclean : equals ∉ name.dropWhile isBlank := fun hin =>
    hname ((List.dropWhile_suffix isBlank).subset hin)
  have hrport : name.dropWhile isBlank = ascii "rport" := by
    have hcut := Search.cut_eq hclean trimmed
    rw [← htrimmed, h] at hcut
    have hcut' : cut equals (ascii "rport=" ++ decimal sourcePort.toNat) =
        some (ascii "rport", decimal sourcePort.toNat) :=
      Search.cut_eq (show equals ∉ ascii "rport" by decide) (decimal sourcePort.toNat)
    rw [hcut'] at hcut
    exact (Prod.mk.inj (Option.some.inj hcut)).1.symm
  have hkey : parameterKey (name ++ equals :: value ++ rest) = ascii "rport" := by
    rw [List.append_assoc, parameterKey, List.cons_append, Search.cut_eq hname]
    simp only
    rw [trimCopy, hrport]
    decide
  rw [keepsParameter, hkey, Bool.and_assoc, show (ascii "rport" != ascii "rport") = false from by
    decide,
    Bool.false_and, Bool.and_false]

/-- A parameter without a semicolon is one piece. -/
theorem exists_piece_of_mem_parameters {entry front p : Bytes} {pieces : List Bytes}
    (hparts : parts semicolon entry = front :: pieces) (hclean : semicolon ∉ p)
    (h : p ∈ parameters entry) : ∃ piece ∈ pieces, trimCopy piece = p := by
  obtain ⟨params, hsections, -⟩ := exists_sections entry
  obtain ⟨front', -, hpieces⟩ := exists_pieces hsections
  rw [hparts, List.cons.injEq] at hpieces
  rw [parameters_eq hsections] at h
  obtain ⟨q, hq, rfl⟩ := List.mem_map.mp (List.mem_filter.mp h).1
  have hone : semicolon ∉ q := fun hmem => by
    obtain ⟨before, behind, hq', hbefore, hbehind⟩ := Search.exists_strip isBlank q
    rw [hq', List.mem_append, List.mem_append] at hmem
    rcases hmem with (hmem | hmem) | hmem
    · exact absurd (hbefore _ hmem) (by decide)
    · exact hclean hmem
    · exact absurd (hbehind _ hmem) (by decide)
  refine ⟨q, ?_, rfl⟩
  rw [hpieces.2, List.mem_append, List.mem_flatMap]
  refine .inr ⟨q, hq, ?_⟩
  rw [Search.parts_of_not_mem hone]
  exact List.mem_cons_self

/-- Where the written header has a comma, the entry in front of it does not have the written
    port. -/
theorem not_fills_of_comma {front entry rest : Bytes} {params : List Bytes}
    (hclean : ∀ p ∈ front :: params, semicolon ∉ p) {sourceIp : UInt32} {sourcePort : UInt16}
    (h : front ++ behind semicolon (kept params ++ filledParameters sourceIp sourcePort) =
      entry ++ comma :: rest) {whole : Bytes} : ¬Fills whole entry sourceIp sourcePort := by
  intro hfills
  obtain ⟨-, -, hkey, hkey'⟩ := filledParameters_facts sourceIp sourcePort
  have hport : ascii "rport=" ++ decimal sourcePort.toNat ∈ parameters entry := by
    have hmem : ascii "rport=" ++ decimal sourcePort.toNat ∈
        (parameters entry).filter (parameterKey · == ascii "rport") := by
      rw [hfills.rport]
      exact List.mem_cons_self
    exact (List.mem_filter.mp hmem).1
  obtain ⟨front', params', hparts, hentry, hcleanEntry⟩ := Search.exists_parts semicolon entry
  obtain ⟨first, others, -, hrest, hcleanRest⟩ := Search.exists_parts semicolon rest
  have hone : semicolon ∉ ascii "rport=" ++ decimal sourcePort.toNat :=
    @not_mem_filledParameters _ sourceIp sourcePort (by decide) (by decide) (by decide) _
      (List.mem_cons_of_mem _ List.mem_cons_self)
  obtain ⟨q, hq, htrimq⟩ := exists_piece_of_mem_parameters hparts hone hport
  have hne : params' ≠ [] := List.ne_nil_of_mem hq
  have hlast := List.dropLast_concat_getLast hne
  generalize params'.dropLast = before at hlast
  generalize params'.getLast hne = last at hlast
  rw [← hlast] at hq hentry hcleanEntry
  -- the parts of the whole header: the last one of the entry goes on behind the comma
  have hwhole : front ++ behind semicolon (kept params ++ filledParameters sourceIp sourcePort) =
      front' ++ behind semicolon (before ++ (last ++ comma :: first) :: others) := by
    rw [h, hentry, hrest]
    simp [behind]
  have hlists : kept params ++ filledParameters sourceIp sourcePort =
      before ++ (last ++ comma :: first) :: others := by
    have hclean' : ∀ p ∈ front :: (kept params ++ filledParameters sourceIp sourcePort),
        semicolon ∉ p := by
      rw [List.forall_mem_cons] at hclean ⊢
      rw [List.forall_mem_append]
      refine ⟨hclean.1, fun p hp => ?_,
        not_mem_filledParameters (by decide) (by decide) (by decide)⟩
      obtain ⟨-, -, q, hq, hpq⟩ := stripped_of_mem_kept hp
      exact fun hmem => hclean.2 q hq (hpq.subset hmem)
    have hcleanWhole : ∀ p ∈ front' :: (before ++ (last ++ comma :: first) :: others),
        semicolon ∉ p := by
      rw [List.forall_mem_cons, List.forall_mem_append] at hcleanEntry
      rw [List.forall_mem_cons] at hcleanRest
      rw [List.forall_mem_cons, List.forall_mem_append, List.forall_mem_cons, List.mem_append,
        List.mem_cons, not_or, not_or]
      exact ⟨hcleanEntry.1, hcleanEntry.2.1,
        ⟨hcleanEntry.2.2 last List.mem_cons_self, by decide, hcleanRest.1⟩, hcleanRest.2⟩
    have hparts := Search.parts_behind hclean'
    rw [hwhole, Search.parts_behind hcleanWhole] at hparts
    exact (List.cons.inj hparts).2.symm
  rcases List.mem_append.mp hq with hq | hq
  · -- another parameter follows, so it is not the written one
    have hmem : q ∈ kept params ++ [ascii "received=" ++ inetNtoa sourceIp] := by
      have hdrop := congrArg List.dropLast hlists
      rw [List.dropLast_append_of_ne_nil (List.cons_ne_nil _ _), filledParameters,
        List.dropLast_append_of_ne_nil (List.cons_ne_nil _ _)] at hdrop
      have hin : q ∈ before ++ ((last ++ comma :: first) :: others).dropLast :=
        List.mem_append_left _ hq
      rw [← hdrop] at hin
      exact hin
    rcases List.mem_append.mp hmem with hkept | hreceived
    · have hkeeps := (stripped_of_mem_kept hkept).2.1
      have hnot := keepsParameter_append htrimq []
      rw [List.append_nil, hkeeps] at hnot
      cases hnot
    · have hname : parameterKey (trimCopy q) = ascii "received" := by
        rw [List.mem_singleton.mp hreceived, (filledParameters_facts sourceIp sourcePort).1, hkey]
      rw [htrimq, hkey'] at hname
      exact absurd hname (by decide)
  · -- the part with the comma is kept as a whole
    have hmem : last ++ comma :: first ∈ kept params ++ filledParameters sourceIp sourcePort := by
      rw [hlists]
      exact List.mem_append_right _ List.mem_cons_self
    rw [List.mem_singleton.mp hq] at htrimq
    rcases List.mem_append.mp hmem with hkept | hfilled
    · have hkeeps := (stripped_of_mem_kept hkept).2.1
      rw [keepsParameter_append htrimq] at hkeeps
      cases hkeeps
    · exact not_mem_filledParameters (by decide) (by decide) (by decide) _ hfilled
        (List.mem_append_right _ List.mem_cons_self)

/-! ## What is answered -/

/-- To answer with the answer changes nothing. -/
theorem responseViaWithRport_again {via : Bytes} (h : ascii "rport" <:+: (topVia via).map toLower)
    (sourceIp : UInt32) (sourcePort : UInt16) :
    responseViaWithRport (responseViaWithRport via sourceIp sourcePort) sourceIp sourcePort =
      responseViaWithRport via sourceIp sourcePort := by
  obtain ⟨hclear, htail⟩ := clear_topVia via
  have hpat : viaSeparator ≠ [] := by decide
  have hline := hclear.absent hpat
  obtain ⟨front, params, -, hsplit, hclean⟩ := Search.exists_parts semicolon (topVia via)
  rw [hsplit] at h hline
  have hfront : ¬viaSeparator <:+: front := fun hin =>
    hline (hin.trans (List.prefix_append _ _).isInfix)
  have hkept : ∀ p ∈ kept params, ¬viaSeparator <:+: p := by
    intro p hp hin
    obtain ⟨-, -, q, hq, hpq⟩ := stripped_of_mem_kept hp
    exact hline (((hin.trans hpq).trans (Search.infix_behind hq)).trans
      (List.suffix_append _ _).isInfix)
  have hparams : ∀ p ∈ kept params,
      semicolon ∉ p ∧ Search.Stripped isBlank p ∧ keepsParameter p = true := by
    intro p hp
    obtain ⟨hstripped, hkeeps, q, hq, hpq⟩ := stripped_of_mem_kept hp
    exact ⟨fun hmem => hclean q (List.mem_cons_of_mem _ hq) (hpq.subset hmem), hstripped, hkeeps⟩
  obtain ⟨htop, hlower⟩ := topVia_append
    (clear_filled hfront hkept sourceIp sourcePort (lowerVias via)) htail
  have hwritten : responseViaWithRport via sourceIp sourcePort =
      (front ++ behind semicolon (kept params ++ filledParameters sourceIp sourcePort)) ++
        lowerVias via := by
    rw [responseViaWithRport, hsplit, responseTopVia_of_mention hclean h]
  rw [hwritten, responseViaWithRport, htop, hlower,
    responseTopVia_filled (hclean front List.mem_cons_self) hparams]

/-- What is written for a header that has one entry and asks for the port fills it in, if and only
    if the pieces of the parameters survive. -/
theorem filled_iff_undivided {line front : Bytes} {pieces : List Bytes}
    (hparts : parts semicolon line = front :: pieces)
    (hclean : ∀ p ∈ front :: pieces, semicolon ∉ p)
    (hone : lowerEntries line = []) (hrport : HasRport line) (sourceIp : UInt32)
    (sourcePort : UInt16) :
    lowerEntries (front ++ behind semicolon
        (kept pieces ++ filledParameters sourceIp sourcePort)) = [] ∧
      Fills line (front ++ behind semicolon
        (kept pieces ++ filledParameters sourceIp sourcePort)) sourceIp sourcePort ↔
    Undivided line := by
  constructor
  · rintro ⟨-, hfills⟩
    refine undivided_of_fills hparts (Search.parts_behind ?_) hfills
    rw [List.forall_mem_cons] at hclean ⊢
    rw [List.forall_mem_append]
    refine ⟨hclean.1, fun p hp => ?_,
      not_mem_filledParameters (by decide) (by decide) (by decide)⟩
    obtain ⟨-, -, q, hq, hpq⟩ := stripped_of_mem_kept hp
    exact fun hmem => hclean.2 q hq (hpq.subset hmem)
  · intro hundivided
    obtain ⟨params, hsections, -⟩ := exists_sections line
    have hne : params ≠ [] := by
      rintro rfl
      obtain ⟨p, hp, -⟩ := hrport
      rw [parameters_eq hsections] at hp
      exact absurd hp List.not_mem_nil
    rw [written_eq hsections hundivided hparts]
    exact ⟨lowerEntries_filled hsections hne hundivided hone sourceIp sourcePort,
      fills_of_sections hsections (sections_filled hsections hne hundivided sourceIp sourcePort)⟩

/-- The text of another parameter may mention `rport`, commas may part the entries of the header,
    and semicolons may stand in quoted values: the topmost entry is handled where the header does
    not mention `rport`, where its one entry has that parameter and no quoted value is cut to
    pieces, or where there is nothing left to write. -/
theorem rportHandled_iff (via : Bytes) (sourceIp : UInt32) (sourcePort : UInt16) :
    RportHandled via sourceIp sourcePort ↔
      ¬ascii "rport" <:+: (topVia via).map toLower ∨
        (lowerEntries (topVia via) = [] ∧ HasRport (topVia via) ∧ Undivided (topVia via)) ∨
        (¬HasRport (topEntry (topVia via)) ∧ AlreadyFilled (topVia via) sourceIp sourcePort) := by
  have hvia := topVia_append_lowerVias via
  -- Without a mention the header is not touched. With one it is written anew.
  by_cases hmentioned : ascii "rport" <:+: (topVia via).map toLower
  · have hagain := responseViaWithRport_again hmentioned sourceIp sourcePort
    obtain ⟨front, pieces, hparts, hline, hclean⟩ := Search.exists_parts semicolon (topVia via)
    rw [hline] at hmentioned
    have hwritten := responseTopVia_of_mention hclean hmentioned sourceIp sourcePort
    rw [← hline] at hwritten hmentioned
    have hresponse : responseViaWithRport via sourceIp sourcePort =
        (front ++ behind semicolon (kept pieces ++ filledParameters sourceIp sourcePort)) ++
          lowerVias via := by
      rw [responseViaWithRport, hwritten]
    constructor
    · intro h
      right
      -- The entry asked for it: the commas and quotes have to be where the code cuts.
      by_cases hrport : HasRport (topEntry (topVia via))
      · left
        obtain ⟨entry, heq, hentry, hfills⟩ := h.filled hrport
        rw [hresponse] at heq
        have htext := List.append_cancel_right heq
        have hone : lowerEntries (topVia via) = [] := by
          rw [lowerEntries] at htext ⊢
          cases htail : (entries (topVia via)).tail with
          | nil => rfl
          | cons lower rest =>
            rw [htail] at htext
            exact absurd hfills (not_fills_of_comma hclean htext)
        rw [hone, List.append_nil] at htext
        rw [(topEntry_of_lowerEntries hone).1] at hrport hfills
        rw [← htext] at hentry hfills
        exact ⟨hone, hrport, (filled_iff_undivided hparts hclean hone hrport sourceIp
          sourcePort).mp ⟨hentry, hfills⟩⟩
      · -- It did not ask: the header is kept only when there was nothing to write.
        refine .inr ⟨hrport, front, kept pieces, ?_, ?_⟩
        · have hsame := h.kept hrport
          rw [hresponse] at hsame
          rw [List.append_assoc, ← behind_filledParameters, ← Search.behind_append]
          exact (List.append_cancel_right (hsame.trans hvia.symm)).symm
        · rw [List.forall_mem_cons] at hclean
          refine ⟨hclean.1, fun p hp => ?_⟩
          obtain ⟨hstripped, hkeeps, q, hq, hpq⟩ := stripped_of_mem_kept hp
          exact ⟨fun hmem => hclean.2 q hq (hpq.subset hmem), hstripped, hkeeps⟩
    · rintro (hnot | ⟨hone, hrport, hundivided⟩ | ⟨hrport, front', params', hfilled,
        hfront, hparams⟩)
      · exact absurd hmentioned hnot
      · have htop := (topEntry_of_lowerEntries hone).1
        obtain ⟨hlower, hfills⟩ :=
          (filled_iff_undivided hparts hclean hone hrport sourceIp sourcePort).mpr hundivided
        refine ⟨fun _ => ⟨_, ?_, hlower, ?_⟩, fun hnot => absurd (htop.symm ▸ hrport) hnot, hagain⟩
        · rw [hresponse, hone, List.append_nil]
        · rw [htop]
          exact hfills
      · have hsame : responseViaWithRport via sourceIp sourcePort = via := by
          rw [List.append_assoc, ← behind_filledParameters, ← Search.behind_append] at hfilled
          rw [responseViaWithRport, hfilled, responseTopVia_filled hfront hparams, ← hfilled, hvia]
        exact ⟨fun h => absurd h hrport, fun _ => hsame, hagain⟩
  · -- no mention
    have hsame : responseViaWithRport via sourceIp sourcePort = via := by
      rw [responseViaWithRport, responseTopVia_of_no_mention hmentioned, hvia]
    refine ⟨fun _ => .inl hmentioned, fun _ => ⟨fun h => ?_, fun _ => hsame, ?_⟩⟩
    · exact absurd h.mention hmentioned
    · rw [hsame, hsame]

namespace Mentioned

/-- A branch that mentions `rport`, without that parameter. -/
def branch : Bytes := ascii "SIP/2.0/UDP 10.0.0.9:5060;branch=z9hG4bKairport"

/-- Two entries in one header, of which the first asks for the port. -/
def joined : Bytes :=
  ascii "SIP/2.0/UDP 10.0.0.9;branch=z9hG4bK1;rport=0, SIP/2.0/UDP 10.0.0.8;branch=z9hG4bK2"

/-- A quoted value with semicolons, in an entry that asks for the port. -/
def quoted : Bytes := ascii "SIP/2.0/UDP 10.0.0.9;x=\"a;rport;b\";rport"

/-- The first header is answered as if it asked for the port, of the second the lower entry is
    lost, and of the third a piece of the quoted value. -/
theorem branch_is_filled_in :
    ¬RportHandled branch 0x0A000009 5060 ∧
      responseViaWithRport branch 0x0A000009 5060 =
        branch ++ ascii ";received=10.0.0.9;rport=5060" ∧
      responseViaWithRport joined 0x0A000009 5060 =
        ascii "SIP/2.0/UDP 10.0.0.9;branch=z9hG4bK1;branch=z9hG4bK2;received=10.0.0.9;rport=5060" ∧
      responseViaWithRport quoted 0x0A000009 5060 =
        ascii "SIP/2.0/UDP 10.0.0.9;x=\"a;b\";received=10.0.0.9;rport=5060" := by
  have hnone : ¬HasRport (topEntry (topVia branch)) := by
    unfold HasRport
    decide +kernel
  refine ⟨fun h => ?_, by decide +kernel, by decide +kernel, by decide +kernel⟩
  have hkept := h.kept hnone
  revert hkept
  decide +kernel

end Mentioned

end SipText

end EsphomeVoip
