import EsphomeVoip.Sdp.DirectionOffer
import EsphomeVoip.Sdp.Mirror

/-! # Where the direction of video is edited (`build_video_direction_offer_`)

The text is searched for the key of a video line and for the first direction attribute behind it, in
front of the next media line. -/

namespace EsphomeVoip

namespace Sdp

/-! ## Direction attributes -/

/-- The attributes that are searched for, in this order. -/
def directions : List String := ["a=sendrecv", "a=sendonly", "a=recvonly", "a=inactive"]

/-- A line without a direction attribute in it. -/
def NoDirection (line : Text) : Prop := ∀ candidate ∈ directions, ¬candidate.toList <:+: line

theorem requestedDirection_eq (enabled receive : Bool) :
    ∃ dir ∈ directions, requestedDirection enabled receive = dir.toList ∧
      dir = "a=" ++ videoDirection enabled receive := by
  cases enabled <;> cases receive <;> simp [requestedDirection, videoDirection, directions]

/-- Only the first two characters can begin an attribute. -/
theorem noDirection_of_head {key t : Text} (hkey : ¬['a', '='] <:+: key.tail)
    (hhead : ∀ candidate ∈ directions, ¬candidate.toList <+: key ∧ ¬key <+: candidate.toList)
    (ht : ¬['a', '='] <:+: t) (hjoin : t.head? ≠ some '=') : NoDirection (key ++ t) := by
  intro candidate hcandidate hin
  have hpair : ['a', '='] <+: candidate.toList := by
    simp only [directions, List.mem_cons, List.not_mem_nil, or_false] at hcandidate
    rcases hcandidate with rfl | rfl | rfl | rfl <;> exact ⟨_, rfl⟩
  cases key with
  | nil => exact (hhead candidate hcandidate).2 List.nil_prefix
  | cons c key =>
    rw [List.cons_append, List.infix_cons_iff] at hin
    rcases hin with hin | hin
    · rcases List.prefix_or_prefix_of_prefix hin (List.prefix_append (c :: key) t) with h | h
      · exact (hhead candidate hcandidate).1 h
      · exact (hhead candidate hcandidate).2 h
    · exact Search.not_pair_append hkey ht hjoin (hpair.isInfix.trans hin)

theorem noDirection_of_free {key t : Text} (hkey : ¬['a', '='] <:+: key.tail)
    (hhead : ∀ candidate ∈ directions, ¬candidate.toList <+: key ∧ ¬key <+: candidate.toList)
    (ht : Free t) : NoDirection (key ++ t) :=
  noDirection_of_head hkey hhead (Search.not_pair_of_not_mem ht.key) fun h =>
    ht.key (List.mem_of_head? h)

theorem head_append {a b : Text} (ha : Free a) (hb : b.head? ≠ some '=') :
    (a ++ b).head? ≠ some '=' := by
  cases a with
  | nil => exact hb
  | cons c a =>
    rintro ⟨⟩
    exact ha.key List.mem_cons_self

theorem noDirection_fmtp (pt : Nat) {profile extra : Text} (h : Free profile)
    (hextra : ¬['a', '='] <:+: extra) (hjoin : extra.head? ≠ some '=') :
    NoDirection ("a=fmtp:".toList ++ (decimal pt ++
      (" packetization-mode=1;profile-level-id=".toList ++ (profile ++ extra)))) := by
  have hprofile : ¬['a', '='] <:+: profile ++ extra :=
    Search.not_pair_append (Search.not_pair_of_not_mem h.key) hextra hjoin
  have hparams : ¬['a', '='] <:+:
      " packetization-mode=1;profile-level-id=".toList ++ (profile ++ extra) :=
    Search.not_pair_append (by simp [List.infix_cons_iff]) hprofile (head_append h hjoin)
  refine noDirection_of_head (by simp [List.infix_cons_iff]) (by simp [directions]) ?_ ?_
  · exact Search.not_pair_append (Search.not_pair_of_not_mem (free_decimal _).key) hparams (by simp)
  · exact head_append (free_decimal _) (by simp)

theorem noDirection_videoCodecLines {codec : VideoCodec} {capability : VideoCapability}
    (hprofile : codec = .h264 → Free capability.profileLevelId.toList) :
    ∀ line ∈ videoCodecLines codec capability, NoDirection line := by
  unfold videoCodecLines
  split
  · rename_i hcodec
    rw [List.forall_mem_cons, List.forall_mem_append]
    have hfeedback : ∀ t : Text, Free t → NoDirection ("a=rtcp-fb:".toList ++
        decimal capability.payloadType ++ t) := by
      intro t ht
      rw [List.append_assoc]
      exact noDirection_of_free (by simp [List.infix_cons_iff]) (by simp [directions])
        (free_append.mpr ⟨free_decimal _, ht⟩)
    refine ⟨?_, ?_, ?_⟩
    · simp only [List.append_assoc]
      refine noDirection_fmtp _ (hprofile hcodec.1) ?_ ?_ <;> split <;>
        simp [List.infix_cons_iff]
    · split
      · rw [List.forall_mem_singleton]
        exact hfeedback _ (by decide)
      · exact fun _ h => nomatch h
    · split
      · rw [List.forall_mem_singleton]
        exact hfeedback _ (by decide)
      · exact fun _ h => nomatch h
  · exact fun _ h => nomatch h

/-- No line of a video section but the last one is a direction. -/
theorem noDirection_videoLines (e : SdpEndpoint) {codec : VideoCodec} {localIp : Text}
    (hip : Free localIp) {capability : VideoCapability} (hvalid : capability.valid codec = true)
    (hprofile : codec = .h264 → Free capability.profileLevelId.toList) :
    ∀ line ∈ (videoLines e codec localIp capability).tail, NoDirection line := by
  have hencoding := free_encoding_of_valid hvalid
  unfold videoLines
  simp only [List.cons_append, List.tail_cons, List.nil_append, List.forall_mem_cons,
    List.forall_mem_append]
  have none : ∀ line ∈ ([] : List Text), NoDirection line := fun _ h => nomatch h
  refine ⟨?_, ⟨⟨?_, ?_, ?_, none⟩, ?_⟩, ?_, none⟩
  · exact noDirection_of_free (by simp [List.infix_cons_iff]) (by simp [directions]) hip
  · split
    · rw [List.forall_mem_singleton]
      exact noDirection_of_free (by simp [List.infix_cons_iff]) (by simp [directions])
        (free_decimal _)
    · exact none
  · simp only [List.append_assoc]
    refine noDirection_of_free (by simp [List.infix_cons_iff]) (by simp [directions]) ?_
    simp only [free_append, free_decimal, true_and]
    exact ⟨by decide, hip⟩
  · simp only [List.append_assoc]
    refine noDirection_of_free (by simp [List.infix_cons_iff]) (by simp [directions]) ?_
    simp only [free_append, free_decimal, true_and]
    exact ⟨by decide, hencoding, by decide⟩
  · exact noDirection_videoCodecLines hprofile
  · exact noDirection_of_free (by simp [List.infix_cons_iff]) (by simp [directions])
      (free_decimal _)

/-! ## The edits -/

theorem replace_eq (a b c part : Text) :
    replace (a ++ (b ++ c)) a.length b.length part = a ++ (part ++ c) := by
  rw [replace, List.take_left, ← List.drop_drop, List.drop_left, List.drop_left, List.append_assoc]

/-- The session part that is written for another version. -/
theorem replaceOrigin_eq (c : SdpContext) (written version : UInt32) {localIp : Text}
    (hip : Free localIp) (rest : List Text) :
    replaceOrigin c version
        (sdpText (sessionLines { c with sdpSessionVersion := written } localIp ++ rest)) =
      some (sdpText (sessionLines { c with sdpSessionVersion := version } localIp ++ rest)) := by
  have hcr : ∀ n : Nat, '\r' ∉ decimal n := fun n => (free_decimal n).cr
  -- what is in front of the network of the origin
  let session : UInt32 → Text := fun v =>
    "o=- ".toList ++ decimal c.sdpSessionId.toNat ++ " ".toList ++ decimal v.toNat
  let network : Text := " IN IP4 ".toList ++ localIp
  let start : Text := "v=0\r\n".toList
  let behind : Text := sdpText (("s=VoIP Stack".toList :: ("c=IN IP4 ".toList ++ localIp) ::
    "t=0 0".toList :: []) ++ rest)
  have htext : ∀ v, sdpText (sessionLines { c with sdpSessionVersion := v } localIp ++ rest) =
      start ++ (session v ++ (network ++ ("\r\n".toList ++ behind))) := by
    intro v
    simp only [start, session, network, behind, sdpText, sessionLines, Search.unlines_append,
      Search.unlines_cons, List.cons_append, List.append_assoc]
    rfl
  have horigin : '\r' ∉ session written ++ network := by
    simp only [session, network, List.mem_append, not_or]
    exact ⟨⟨⟨⟨by decide, hcr _⟩, by decide⟩, hcr _⟩, by decide, hip.cr⟩
  have hblank : ¬[' ', 'I'] <:+: session written := by
    refine Search.not_pair_of_not_mem fun hin => ?_
    simp only [session, List.mem_append] at hin
    rcases hin with ((hin | hin) | hin) | hin
    · exact absurd hin (by decide)
    · exact absurd (isDigit_of_mem_decimal hin) (by decide)
    · exact absurd hin (by decide)
    · exact absurd (isDigit_of_mem_decimal hin) (by decide)
  have hfind : Search.find "o=- ".toList
      (start ++ (session written ++ (network ++ ("\r\n".toList ++ behind)))) =
        some start.length := by
    refine Search.find_eq (Search.clear_of_not_mem (by decide) _) ?_
    simp only [session, List.append_assoc]
    exact List.prefix_append _ _
  have hend : Search.findFrom "\r\n".toList
      (start ++ (session written ++ (network ++ ("\r\n".toList ++ behind)))) start.length =
        some (start.length + (session written ++ network).length) := by
    refine Search.findFrom_eq (b := "\r\n".toList ++ behind) ?_
      (Search.clear_of_not_mem horigin _) (List.prefix_append _ _)
    rw [List.drop_left]
    exact (List.append_assoc _ _ _).symm
  have hnetwork : Search.findFrom " IN IP4 ".toList
      (start ++ (session written ++ (network ++ ("\r\n".toList ++ behind)))) start.length =
        some (start.length + (session written).length) := by
    refine Search.findFrom_eq (b := network ++ ("\r\n".toList ++ behind)) (List.drop_left ..)
      (Search.clear_of_not_pair hblank ?_) ?_
    · exact show some ' ' ≠ some 'I' by decide
    · simp only [network, List.append_assoc]
      exact List.prefix_append _ _
  have hlength : network.length ≠ 0 := by simp [network]
  rw [htext, htext, replaceOrigin, hfind]
  simp only [Option.bind_eq_bind, Option.bind_some, hend, hnetwork]
  rw [if_neg (by rw [List.length_append]; omega)]
  have hlen : start.length + (session written ++ network).length - start.length =
      (session written ++ network).length := by omega
  have hbehind : start.length + (session written ++ network).length -
      (start.length + (session written).length) = network.length := by
    rw [List.length_append]
    omega
  have hdrop : (start ++ (session written ++ (network ++ ("\r\n".toList ++ behind)))).drop
      (start.length + (session written).length) = network ++ ("\r\n".toList ++ behind) := by
    rw [← List.drop_drop, List.drop_left, List.drop_left]
  rw [hlen, hbehind, hdrop, List.take_left, ← List.append_assoc (session written), replace_eq]
  simp only [session, List.append_assoc, pure]

/-- No attribute has a character of a line end. -/
theorem noEnd_directions {candidate : String} (h : candidate ∈ directions) :
    '\r' ∉ candidate.toList ∧ '\n' ∉ candidate.toList ∧ candidate.toList ≠ [] := by
  simp only [directions, List.mem_cons, List.not_mem_nil, or_false] at h
  rcases h with rfl | rfl | rfl | rfl <;> decide

theorem findSome_congr {α β : Type} {f g : α → Option β} {xs : List α}
    (h : ∀ x ∈ xs, f x = g x) : xs.findSome? f = xs.findSome? g := by
  induction xs with
  | nil => rfl
  | cons x xs ih =>
    rw [List.forall_mem_cons] at h
    rw [List.findSome?_cons, List.findSome?_cons, h.1, ih h.2]

/-- The first attribute behind `a` is the one that follows `w`, in front of `b`. -/
theorem findDirection_eq {dir : String} (hdir : dir ∈ directions) {a w b : Text} {stop : Nat}
    (hw : ∀ candidate ∈ directions, ∀ rest, Search.Clear candidate.toList w rest)
    (hstart : (a ++ w).length < stop) (hstop : stop ≤ (a ++ w).length + dir.toList.length + 2) :
    findDirection (a ++ (w ++ (dir.toList ++ ('\r' :: '\n' :: b)))) a.length stop =
      some ((a ++ w).length, dir.toList.length) := by
  -- Of the four directions only the one that stands there is found before the stop.
  have hfound : ∀ candidate ∈ directions,
      ((Search.findFrom candidate.toList (a ++ (w ++ (dir.toList ++ ('\r' :: '\n' :: b)))) a.length
        ).filter fun found => found < stop).map (fun found => (found, candidate.toList.length)) =
      if candidate = dir then some ((a ++ w).length, dir.toList.length) else none := by
    intro candidate hcandidate
    split
    · rename_i heq
      subst heq
      rw [Search.findFrom_eq (List.drop_left ..) (hw candidate hcandidate _)
        (List.prefix_append _ _), ← List.length_append, Option.filter_some, decide_eq_true hstart,
        if_pos rfl, Option.map_some]
    · -- another direction is first found behind the stop, or nowhere
      rename_i hother
      have habsent : ¬candidate.toList <:+: dir.toList := by
        simp only [directions, List.mem_cons, List.not_mem_nil, or_false] at hcandidate hdir
        rcases hcandidate with rfl | rfl | rfl | rfl <;> rcases hdir with rfl | rfl | rfl | rfl <;>
          simp [List.infix_cons_iff] at hother ⊢
      have hclear : Search.Clear candidate.toList (w ++ (dir.toList ++ ['\r', '\n'])) b := by
        rw [Search.clear_append, Search.clear_append]
        refine ⟨hw candidate hcandidate _, ?_, ?_⟩
        · exact Search.clear_of_absent (noEnd_directions hcandidate).1 habsent _
        · obtain ⟨hcr, hlf, hne⟩ := noEnd_directions hcandidate
          exact ⟨Search.not_prefix_cons hne hcr, Search.not_prefix_cons hne hlf, trivial⟩
      rw [Search.findFrom, List.drop_left]
      have hsame : w ++ (dir.toList ++ ('\r' :: '\n' :: b)) =
          w ++ (dir.toList ++ ['\r', '\n']) ++ b := by simp
      rw [hsame, Search.find_append hclear]
      cases Search.find candidate.toList b with
      | none => rfl
      | some n =>
        rw [Option.map_some, Option.map_some, Option.filter_some, if_neg, Option.map_none]
        simp only [List.length_append, List.length_cons, List.length_nil] at hstop ⊢
        simp only [decide_eq_true_eq]
        omega
  have hfirst : findDirection (a ++ (w ++ (dir.toList ++ ('\r' :: '\n' :: b)))) a.length stop =
      directions.findSome? fun candidate =>
        if candidate = dir then some ((a ++ w).length, dir.toList.length) else none :=
    findSome_congr hfound
  rw [hfirst]
  simp only [directions, List.mem_cons, List.not_mem_nil, or_false] at hdir
  rcases hdir with rfl | rfl | rfl | rfl <;> rfl

/-- A media line does not begin behind lines that are none. -/
theorem clear_media {lines : List Text} (hlines : ∀ line ∈ lines, Plain line) {last : Text}
    (hlast : Plain last) {rest : Text} (hrest : rest.head? = some '\r') :
    Search.Clear "\r\nm=".toList ('\r' :: '\n' :: sdpText lines ++ last) rest := by
  have hline : ∀ {line : Text}, Plain line → ∀ {rest : Text}, rest.head? = some '\r' →
      Search.Clear "\r\nm=".toList ('\r' :: '\n' :: line) rest := by
    intro line hplain rest hrest
    refine ⟨fun hpre => ?_, fun hpre => ?_, Search.clear_of_not_mem hplain.cr _⟩
    · -- the key would be at the start of the line, since the line ends in front of `rest`
      have hkey : ['m', '='] <+: line ++ rest :=
        (List.cons_prefix_cons.mp (List.cons_prefix_cons.mp hpre).2).2
      obtain ⟨rest, rfl⟩ : ∃ tail, rest = '\r' :: tail := by
        cases rest with
        | nil => cases hrest
        | cons c rest =>
          cases hrest
          exact ⟨rest, rfl⟩
      rw [Search.prefix_append_cons (by decide)] at hkey
      exact hplain.key hkey.isInfix
    · exact absurd (List.cons_prefix_cons.mp hpre).1 (by decide)
  induction lines with
  | nil => exact hline hlast hrest
  | cons line lines ih =>
    rw [List.forall_mem_cons] at hlines
    have hsplit : '\r' :: '\n' :: sdpText (line :: lines) ++ last =
        ('\r' :: '\n' :: line) ++ ('\r' :: '\n' :: sdpText lines ++ last) := by
      simp [sdpText]
    rw [hsplit, Search.clear_append]
    exact ⟨hline hlines.1 rfl, ih hlines.2⟩

/-- The key is found in a line in which it is, if it is in no line before. -/
theorem find_key {before : List Text} {head : Text} {h : Nat}
    (hbefore : ∀ line ∈ before, ¬"m=video ".toList <:+: line)
    (hhead : Search.find "m=video ".toList head = some h) (rest : Text) :
    Search.find "m=video ".toList (sdpText before ++ head ++ rest) =
      some ((sdpText before).length + h) := by
  have hclear : ∀ rest, Search.Clear "m=video ".toList (sdpText before) rest :=
    Search.clear_unlines_of_absent (by decide) hbefore
  rw [List.append_assoc, Search.find_append (hclear _), Search.find_append_left hhead]
  rfl

/-- The line ends behind it. -/
theorem find_lineEnd {head : Text} {h : Nat} (hle : h ≤ head.length)
    (hclosed : ¬['\r', '\n'] <:+: head) (before rest : Text) :
    Search.findFrom "\r\n".toList (before ++ head ++ '\r' :: '\n' :: rest)
      (before.length + h) = some (before ++ head).length := by
  have hdrop : (before ++ head ++ '\r' :: '\n' :: rest).drop (before.length + h) =
      head.drop h ++ '\r' :: '\n' :: rest := by
    rw [List.append_assoc, ← List.drop_drop, List.drop_left, List.drop_append_of_le_length hle]
  have hrest : ¬['\r', '\n'] <:+: head.drop h := fun hin =>
    hclosed (hin.trans (List.drop_suffix h head).isInfix)
  have hclear : Search.Clear "\r\n".toList (head.drop h) ('\r' :: '\n' :: rest) :=
    Search.clear_of_not_pair (x := '\r') (y := '\n') hrest (by simp)
  rw [Search.findFrom_eq hdrop hclear ⟨_, rfl⟩, List.length_drop, List.length_append]
  congr 1
  omega

/-- The section ends in front of the next media line, or with the text. -/
theorem section_end {lines behind : List Text} {dir : Text}
    (hlines : ∀ line ∈ lines, Plain line) (hdir : Plain dir) (hne : 0 < dir.length)
    (hbehind : ∀ line ∈ behind.head?, startsWith line "m=" = true) {a w text : Text}
    (hw : '\r' :: '\n' :: sdpText lines = w)
    (htext : text = a ++ (w ++ (dir ++ '\r' :: '\n' :: sdpText behind))) :
    (a ++ w).length < (Search.findFrom "\r\nm=".toList text a.length).getD text.length ∧
      (Search.findFrom "\r\nm=".toList text a.length).getD text.length ≤
        (a ++ w).length + dir.length + 2 := by
  have hclear : Search.Clear "\r\nm=".toList (w ++ dir) ('\r' :: '\n' :: sdpText behind) := by
    rw [← hw]
    exact clear_media hlines hdir rfl
  have hdrop : text.drop a.length = w ++ dir ++ ('\r' :: '\n' :: sdpText behind) := by
    rw [htext, List.drop_left, List.append_assoc]
  cases behind with
  | nil =>
    have hnone : Search.findFrom "\r\nm=".toList text a.length = none := by
      rw [Search.findFrom, hdrop, Search.find_append hclear]
      rfl
    rw [hnone, htext]
    simp only [Option.getD_none, List.length_append, List.length_cons, sdpText,
      Search.unlines_nil, List.length_nil]
    omega
  | cons line behind =>
    have hmedia : "m=".toList <+: line := List.isPrefixOf_iff_prefix.mp (hbehind line rfl)
    have hsome : Search.findFrom "\r\nm=".toList text a.length =
        some (a.length + (w ++ dir).length) := by
      refine Search.findFrom_eq hdrop hclear ?_
      rw [sdpText, Search.unlines_cons]
      exact List.cons_prefix_cons.mpr ⟨rfl, List.cons_prefix_cons.mpr
        ⟨rfl, hmedia.trans (List.prefix_append _ _)⟩⟩
    rw [hsome]
    simp only [Option.getD_some, List.length_append]
    omega

theorem plain_of_mem_directions {dir : String} (h : dir ∈ directions) : Plain dir.toList := by
  simp only [directions, List.mem_cons, List.not_mem_nil, or_false] at h
  rcases h with rfl | rfl | rfl | rfl <;> exact ⟨by decide, by simp [List.infix_cons_iff]⟩

/-- The direction of the first section with the key in it is replaced, unless the section is
    rejected. -/
theorem replaceDirection_eq {before lines behind : List Text} {head : Text} {dir : String} {h : Nat}
    (hbefore : ∀ line ∈ before, ¬"m=video ".toList <:+: line)
    (hhead : Search.find "m=video ".toList head = some h) (hclosed : ¬['\r', '\n'] <:+: head)
    (hlines : ∀ line ∈ lines, Plain line ∧ NoDirection line) (hdir : dir ∈ directions)
    (hbehind : ∀ line ∈ behind.head?, startsWith line "m=" = true) (direction : Text) :
    replaceDirection direction (sdpText (before ++ head :: (lines ++ dir.toList :: behind))) =
      if startsWith (head.drop h) "m=video 0" = true then none
      else some (sdpText (before ++ head :: (lines ++ direction :: behind))) := by
  have hplain : ∀ line ∈ lines, Plain line := fun line hline => (hlines line hline).1
  generalize hw : '\r' :: '\n' :: sdpText lines = w
  -- The text falls apart at the key line, the lines behind it and the direction.
  have htext : ∀ d : Text, sdpText (before ++ head :: (lines ++ d :: behind)) =
      sdpText before ++ head ++ (w ++ (d ++ ('\r' :: '\n' :: sdpText behind))) := by
    intro d
    rw [← hw]
    simp [sdpText, Search.unlines_append]
  have hle : h ≤ head.length := by
    have hpre := (Search.find_some hhead).2.length_le
    have hlen : "m=video ".toList.length = 8 := rfl
    rw [List.length_drop] at hpre
    omega
  have hrest : w ++ (dir.toList ++ ('\r' :: '\n' :: sdpText behind)) =
      '\r' :: '\n' :: (sdpText lines ++ (dir.toList ++ ('\r' :: '\n' :: sdpText behind))) := by
    rw [← hw]
    rfl
  -- The search for the end of the key line ends at its own end,
  have hlineEnd : Search.findFrom "\r\n".toList
      (sdpText before ++ head ++ (w ++ (dir.toList ++ ('\r' :: '\n' :: sdpText behind))))
      ((sdpText before).length + h) = some (sdpText before ++ head).length := by
    rw [hrest]
    exact find_lineEnd hle hclosed _ _
  -- the port is looked at on that line alone,
  have hzero : startsWith ((sdpText before ++ head ++
      (w ++ (dir.toList ++ ('\r' :: '\n' :: sdpText behind)))).drop ((sdpText before).length + h))
      "m=video 0" = startsWith (head.drop h) "m=video 0" := by
    rw [List.append_assoc (sdpText before), ← List.drop_drop, List.drop_left,
      List.drop_append_of_le_length hle, hrest, Bool.eq_iff_iff, startsWith, startsWith,
      List.isPrefixOf_iff_prefix, List.isPrefixOf_iff_prefix,
      Search.prefix_append_cons (by decide)]
  -- and no direction is found before the one that the section has.
  have hclear : ∀ candidate ∈ directions, ∀ rest, Search.Clear candidate.toList w rest := by
    intro candidate hcandidate rest
    rw [← hw]
    have hall : ∀ line ∈ [] :: lines, ¬candidate.toList <:+: line := by
      rw [List.forall_mem_cons]
      refine ⟨fun hin => ?_, fun line hline => (hlines line hline).2 candidate hcandidate⟩
      exact (noEnd_directions hcandidate).2.2 (List.infix_nil.mp hin)
    have hclear := Search.clear_unlines_of_absent (noEnd_directions hcandidate) hall rest
    rwa [Search.unlines_cons] at hclear
  obtain ⟨hstart, hstop⟩ := section_end hplain (plain_of_mem_directions hdir)
    (List.length_pos_iff.mpr (noEnd_directions hdir).2.2) hbehind hw
    (Eq.refl (sdpText before ++ head ++ (w ++ (dir.toList ++ ('\r' :: '\n' :: sdpText behind)))))
  -- So the edit takes out exactly this direction.
  rw [htext, htext, replaceDirection, find_key hbefore hhead]
  simp only [Option.bind_eq_bind, Option.bind_some, hlineEnd, hzero]
  split
  · rfl
  · rw [findDirection_eq hdir hclear hstart hstop]
    simp only [pure, ← List.append_assoc (sdpText before ++ head) w]
    rw [replace_eq]

end Sdp

end EsphomeVoip
