import EsphomeVoip.Sdp.Audio

/-! # The media lines that are remembered (`capture_remote_media_shape_`)

What is remembered of an offer are its media lines, in their order, with the places of the first
audio and the first video line that can be read.  The loop that reads the audio finds the same
line. -/

namespace EsphomeVoip

namespace Sdp

/-- The media lines among the lines of an SDP. -/
def mediaOf (lines : List Text) : List Text := lines.filter fun line => startsWith line "m="

/-- The media lines of an SDP. -/
def mediaLines (sdp : Text) : List Text := mediaOf (sdpLines sdp)

@[simp] theorem mediaOf_append (lines rest : List Text) :
    mediaOf (lines ++ rest) = mediaOf lines ++ mediaOf rest :=
  List.filter_append ..

/-- The media line that audio is taken from. -/
def audioIndex (media : List Text) : Option Nat :=
  media.findIdx? fun line => (parseAudioMediaLine line).isSome

/-- The media line that video is taken from. -/
def videoIndex (media : List Text) : Option Nat :=
  media.findIdx? fun line => (parseVideoMediaLine line).isSome

/-! ## Capturing -/

/-- What is remembered of these media lines. -/
structure Captured (video : Bool) (media : List Text) (shape : RemoteMediaShape) : Prop where
  lines : shape.lines = media.map String.ofList
  audio : shape.audioIndex = audioIndex media
  video : shape.videoIndex = if video then videoIndex media else none

theorem captured_nil (video : Bool) : Captured video [] {} where
  lines := rfl
  audio := rfl
  video := by cases video <;> rfl

/-- The first place is kept, and otherwise it is the one of the new element. -/
theorem findIdx?_concat {α : Type} (p : α → Bool) (xs : List α) (x : α) :
    (xs ++ [x]).findIdx? p =
      if ((xs.findIdx? p).isNone && p x) = true then some xs.length else xs.findIdx? p := by
  rw [List.findIdx?_append, List.findIdx?_singleton]
  cases xs.findIdx? p with
  | some i => rfl
  | none =>
    cases hx : p x with
    | true => simp
    | false => simp

/-- A media line is remembered where there is room for it. -/
theorem captureLine_of_room {video : Bool} {shape : RemoteMediaShape} {line : Text}
    (hmedia : startsWith line "m=" = true)
    (h : (captureLine video shape line).overflow = false) :
    RemoteMediaShape.append line shape =
      (true, { shape with lines := shape.lines ++ [String.ofList line] }) := by
  rw [captureLine, if_pos hmedia] at h
  rw [RemoteMediaShape.append] at h ⊢
  split
  · rename_i hfull
    rw [if_pos hfull] at h
    cases h
  · rfl

/-- Nothing forgets that there were too many lines. -/
theorem overflow_of_captureLine {video : Bool} {shape : RemoteMediaShape} {line : Text}
    (h : (captureLine video shape line).overflow = false) : shape.overflow = false := by
  by_cases hmedia : startsWith line "m=" = true
  · have happend := captureLine_of_room hmedia h
    rw [captureLine, if_pos hmedia, happend] at h
    exact h
  · rwa [captureLine, if_neg hmedia] at h

/-- A line that is remembered is the next one. -/
theorem Captured.line {video : Bool} {media : List Text} {shape : RemoteMediaShape} {line : Text}
    (hshape : Captured video media shape)
    (h : (captureLine video shape line).overflow = false) :
    Captured video (media ++ mediaOf [line]) (captureLine video shape line) := by
  have hlength : shape.lines.length = media.length := by
    rw [hshape.lines, List.length_map]
  by_cases hmedia : startsWith line "m=" = true
  · have hline : mediaOf [line] = [line] := by
      rw [mediaOf, List.filter_cons_of_pos (by exact hmedia), List.filter_nil]
    rw [hline, captureLine, if_pos hmedia, captureLine_of_room hmedia h]
    refine ⟨?_, ?_, ?_⟩
    · simp [hshape.lines]
    · simp only [audioIndex, findIdx?_concat, hshape.audio, hlength]
    · cases video with
      | false => simpa using hshape.video
      | true =>
        have hvideo := hshape.video
        simp only [if_true] at hvideo ⊢
        simp only [videoIndex, findIdx?_concat, hvideo, hlength, Bool.true_and]
  · have hline : mediaOf [line] = [] := by
      rw [mediaOf, List.filter_cons_of_neg (by exact hmedia), List.filter_nil]
    rw [hline, List.append_nil, captureLine, if_neg hmedia]
    exact hshape

/-- There is room for the first line if there is room for all. -/
theorem overflow_of_foldl {video : Bool} (lines : List Text) {shape : RemoteMediaShape}
    (h : (lines.foldl (captureLine video) shape).overflow = false) : shape.overflow = false := by
  induction lines generalizing shape with
  | nil => exact h
  | cons line lines ih => exact overflow_of_captureLine (ih h)

/-- The loop, as far as there is room. -/
theorem Captured.run {video : Bool} (lines : List Text) {media : List Text}
    {shape : RemoteMediaShape} (hshape : Captured video media shape)
    (h : (lines.foldl (captureLine video) shape).overflow = false) :
    Captured video (media ++ mediaOf lines) (lines.foldl (captureLine video) shape) := by
  induction lines generalizing media shape with
  | nil =>
    rw [mediaOf, List.filter_nil, List.append_nil]
    exact hshape
  | cons line lines ih =>
    rw [List.foldl_cons] at h ⊢
    have hline := overflow_of_foldl lines h
    have := ih (hshape.line hline) h
    rwa [List.append_assoc, ← mediaOf_append, List.singleton_append] at this

/-- What is remembered of an offer with room for its media lines. -/
theorem captured_of_overflow {video : Bool} {sdp : Text}
    (h : (captureRemoteMediaShape video sdp).overflow = false) :
    Captured video (mediaLines sdp) (captureRemoteMediaShape video sdp) :=
  (captured_nil video).run (sdpLines sdp) h

/-! ## Reading the same lines -/

/-- A media line that can be read is one of its kind. -/
theorem startsWith_of_parseMediaLine {kind : String} {line : Text} {m : Nat × List Nat}
    (h : parseMediaLine kind line = some m) : startsWith line kind = true := by
  rw [parseMediaLine] at h
  split at h
  · cases h
  · rename_i hkind
    rwa [Bool.not_eq_false] at hkind

theorem startsWith_of_parseAudioMediaLine {line : Text}
    (h : (parseAudioMediaLine line).isSome = true) : startsWith line "m=audio " = true := by
  obtain ⟨m, hm⟩ := Option.isSome_iff_exists.mp h
  rw [parseAudioMediaLine, Option.filter_eq_some_iff] at hm
  exact startsWith_of_parseMediaLine hm.1

theorem startsWith_of_parseVideoMediaLine {line : Text}
    (h : (parseVideoMediaLine line).isSome = true) : startsWith line "m=video " = true := by
  obtain ⟨m, hm⟩ := Option.isSome_iff_exists.mp h
  rw [parseVideoMediaLine, Option.filter_eq_some_iff] at hm
  exact startsWith_of_parseMediaLine hm.1

/-- A line that starts with an `m=` line's kind is a media line. -/
theorem media_of_startsWith {line : Text} (kind : Text)
    (h : startsWith line (String.ofList ('m' :: '=' :: kind)) = true) :
    startsWith line "m=" = true := by
  rw [startsWith, List.isPrefixOf_iff_prefix, String.toList_ofList] at h
  rw [startsWith, List.isPrefixOf_iff_prefix]
  exact (show ['m', '='] <+: 'm' :: '=' :: kind from ⟨kind, rfl⟩).trans h

theorem media_of_parseAudioMediaLine {line : Text}
    (h : (parseAudioMediaLine line).isSome = true) : startsWith line "m=" = true :=
  media_of_startsWith "audio ".toList (startsWith_of_parseAudioMediaLine h)

theorem media_of_parseVideoMediaLine {line : Text}
    (h : (parseVideoMediaLine line).isSome = true) : startsWith line "m=" = true :=
  media_of_startsWith "video ".toList (startsWith_of_parseVideoMediaLine h)

/-- One line of the first loop selects the audio line or leaves it. -/
theorem selectedLine_of_scanAudioLine {s s' : AudioScan} {line : Text} {index : Nat}
    (h : scanAudioLine s (line, index) = some s') :
    s'.selectedLine =
      if (s.selectedLine.isNone && (parseAudioMediaLine line).isSome) = true then some index
      else s.selectedLine := by
  by_cases hmedia : startsWith line "m=" = true
  · simp only [scanAudioLine, if_pos hmedia] at h
    cases hsel : s.selectedLine with
    | some i =>
      rw [hsel, if_pos (by rfl)] at h
      cases h
      rfl
    | none =>
      rw [hsel, if_neg (by simp)] at h
      cases hparse : parseAudioMediaLine line with
      | none =>
        rw [hparse] at h
        cases h
        rfl
      | some m =>
        rw [hparse] at h
        simp only at h
        split at h
        · cases h
        · cases h
          rfl
  · have hparse : (parseAudioMediaLine line).isSome = false :=
      Bool.eq_false_iff.mpr fun hp => hmedia (media_of_parseAudioMediaLine hp)
    rw [hparse, Bool.and_false, if_neg (by decide)]
    simp only [scanAudioLine, if_neg hmedia] at h
    repeat' split at h
    all_goals cases h; rfl

/-- The first loop selects the first audio line that can be read. -/
theorem selectedLine_of_foldlM {lines : List Text} {k : Nat} {s s' : AudioScan}
    (h : (lines.zipIdx k).foldlM scanAudioLine s = some s') :
    s'.selectedLine = s.selectedLine.or
      ((lines.findIdx? fun line => (parseAudioMediaLine line).isSome).map (· + k)) := by
  induction lines generalizing k s with
  | nil =>
    cases h
    simp
  | cons line lines ih =>
    rw [List.zipIdx_cons, List.foldlM_cons, Option.bind_eq_bind, Option.bind_eq_some_iff] at h
    obtain ⟨next, hnext, h⟩ := h
    rw [ih h, selectedLine_of_scanAudioLine hnext, List.findIdx?_cons]
    cases s.selectedLine with
    | some i => rfl
    | none =>
      cases (parseAudioMediaLine line).isSome with
      | true => simp
      | false =>
        simp only [Option.isNone_none, Bool.and_false, Bool.false_eq_true, if_false, Option.map_map]
        congr 2
        funext i
        show i + (k + 1) = i + 1 + k
        omega

theorem selectedLine_of_scanAudio {lines : List Text} {scan : AudioScan}
    (h : scanAudio lines = some scan) :
    scan.selectedLine = lines.findIdx? fun line => (parseAudioMediaLine line).isSome := by
  rw [selectedLine_of_foldlM h]
  simp

/-- The audio line that is read has the remembered place among the media lines. -/
theorem audioIndex_mediaOf (lines : List Text) :
    audioIndex (mediaOf lines) =
      (lines.findIdx? fun line => (parseAudioMediaLine line).isSome).map fun i =>
        (mediaOf (lines.take i)).length := by
  induction lines with
  | nil => rfl
  | cons line lines ih =>
    rw [List.findIdx?_cons]
    by_cases hparse : (parseAudioMediaLine line).isSome = true
    · rw [if_pos hparse, mediaOf, List.filter_cons_of_pos
        (by exact media_of_parseAudioMediaLine hparse), audioIndex, List.findIdx?_cons,
        if_pos hparse]
      rfl
    · rw [if_neg hparse]
      by_cases hmedia : startsWith line "m=" = true
      · rw [mediaOf, List.filter_cons_of_pos (by exact hmedia), audioIndex, List.findIdx?_cons,
          if_neg hparse, ← mediaOf, ← audioIndex, ih, Option.map_map, Option.map_map]
        congr 1
        funext i
        simp [mediaOf, hmedia]
      · rw [mediaOf, List.filter_cons_of_neg (by exact hmedia), ← mediaOf, ih, Option.map_map]
        congr 1
        funext i
        simp [mediaOf, hmedia]

end Sdp

end EsphomeVoip
