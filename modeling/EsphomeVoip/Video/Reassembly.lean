import EsphomeVoip.Video.Packetization

/-! # What the receiver does with a payload

`appendPayload` either marks the access unit as damaged or goes on as `Assembly.take` says, and it
writes nothing but the reassembly. -/

namespace EsphomeVoip

namespace VideoRtpSession

/-- The byte stream under construction, as the session has it. -/
def assembly (s : VideoRtpSession) : Assembly :=
  ⟨s.reassembly, if s.fuActive then some s.fuNalType else none⟩

/-- Overwrite the reassembly. -/
def rewrite (bytes : ByteSpan) (damaged active : Bool) (type : UInt8) (s : VideoRtpSession) :
    VideoRtpSession :=
  { s with
    reassembly := bytes
    reassemblyDamaged := damaged
    fuActive := active
    fuNalType := type }

/-- `s'` is `s` with another reassembly.  If that is not damaged then `s` was not either, and the
    byte stream has changed by `f`. -/
def Reassembles (f : Assembly → Assembly) (s s' : VideoRtpSession) : Prop :=
  (∃ bytes damaged active type, s' = s.rewrite bytes damaged active type) ∧
    (s'.reassemblyDamaged = false → s.reassemblyDamaged = false ∧ s'.assembly = f s.assembly)

namespace Reassembles

variable {f g : Assembly → Assembly} {s s' s'' : VideoRtpSession}

theorem same : Reassembles id s s :=
  ⟨⟨s.reassembly, s.reassemblyDamaged, s.fuActive, s.fuNalType, rfl⟩, fun h => ⟨h, rfl⟩⟩

/-- About a damaged unit there is nothing to show. -/
theorem damaged : Reassembles f s s.damage :=
  ⟨⟨s.reassembly, true, s.fuActive, s.fuNalType, rfl⟩, fun h => absurd (show true = false from h)
    (by decide)⟩

theorem trans (h : Reassembles f s s') (h' : Reassembles g s' s'') :
    Reassembles (g ∘ f) s s'' := by
  obtain ⟨⟨_, _, _, _, rfl⟩, hf⟩ := h
  obtain ⟨⟨bytes, damaged, active, type, rfl⟩, hg⟩ := h'
  refine ⟨⟨bytes, damaged, active, type, rfl⟩, ?_⟩
  intro hd
  obtain ⟨hd', ha⟩ := hg hd
  obtain ⟨hd'', ha'⟩ := hf hd'
  exact ⟨hd'', by rw [ha, ha', Function.comp]⟩

theorem damageIf (b : Bool) : Reassembles id s (if b then s.damage else s) := by
  cases b
  · exact same
  · exact damaged

end Reassembles

/-! ## One kind of payload at a time -/

theorem appendAnnexBNal_reassembles (nal : ByteSpan) (s : VideoRtpSession) :
    Reassembles (fun a => { a with bytes := a.bytes ++ startCode 3 ++ nal }) s
      (match s.appendAnnexBNal nal with
      | (true, s) => s
      | (false, s) => s.damage) := by
  rw [appendAnnexBNal]
  split
  · rename_i h
    split at h
    · cases h
    · obtain rfl := (Prod.mk.inj h).2
      exact ⟨⟨_, _, _, _, rfl⟩, fun hd => ⟨hd, rfl⟩⟩
  · rename_i h
    split at h
    · obtain rfl := (Prod.mk.inj h).2
      exact .damaged
    · cases h

theorem appendStap_reassembles (payload : ByteSpan) (fuel pos : Nat) (s : VideoRtpSession) :
    Reassembles (fun a => { a with
      bytes := a.bytes ++ (stapUnitsFrom payload fuel pos).flatMap (startCode 3 ++ ·) }) s
      (s.appendStap payload fuel pos) := by
  induction fuel generalizing pos s with
  | zero =>
    simp only [appendStap, stapUnitsFrom, List.flatMap_nil, List.append_nil]
    exact .same
  | succ fuel ih =>
    rw [appendStap, stapUnitsFrom]
    by_cases hpos : pos + 2 ≤ payload.length
    · simp only [if_pos hpos]
      by_cases hsize : (readBe16 payload pos).toNat = 0 ∨
          payload.length < pos + 2 + (readBe16 payload pos).toNat
      · simp only [if_pos hsize]
        exact .damaged
      · simp only [if_neg hsize, List.flatMap_cons]
        have happend := appendAnnexBNal_reassembles
          ((payload.drop (pos + 2)).take (readBe16 payload pos).toNat) s
        rcases h : s.appendAnnexBNal ((payload.drop (pos + 2)).take
          (readBe16 payload pos).toNat) with ⟨ok, s'⟩
        rw [h] at happend
        cases ok
        · obtain ⟨rfl, -⟩ : s' = s ∧ True := by
            rw [appendAnnexBNal] at h
            split at h
            · exact ⟨(Prod.mk.inj h).2.symm, trivial⟩
            · cases h
          exact .damaged
        · have := happend.trans (ih (pos + 2 + (readBe16 payload pos).toNat) s')
          simpa only [Function.comp_def, List.append_assoc] using this
    · simp only [if_neg hpos, List.flatMap_nil, List.append_nil]
      split
      · exact .damaged
      · exact .same

theorem beginFragments_reassembles (type header : UInt8) (s : VideoRtpSession) :
    Reassembles (fun a => ⟨a.bytes ++ startCode 3 ++ [header], some type⟩) s
      (s.beginFragments type header) := by
  refine (Reassembles.damageIf s.fuActive).trans (g := fun a =>
    ⟨a.bytes ++ startCode 3 ++ [header], some type⟩) ?_
  simp only [beginFragments]
  generalize (if s.fuActive then s.damage else s) = s
  split
  · exact ⟨⟨s.reassembly, true, true, type, rfl⟩, fun h => absurd (show true = false from h)
      (by decide)⟩
  · exact ⟨⟨_, _, _, _, rfl⟩, fun hd => ⟨hd, rfl⟩⟩

theorem appendFragment_reassembles (fragment : ByteSpan) (s : VideoRtpSession) :
    Reassembles (fun a => { a with bytes := a.bytes ++ fragment }) s
      (s.appendFragment fragment) := by
  rw [appendFragment]
  split
  · rename_i hd
    exact ⟨⟨_, _, _, _, rfl⟩, fun h => absurd (hd.symm.trans h) (by decide)⟩
  · split
    · exact .damaged
    · exact ⟨⟨_, _, _, _, rfl⟩, fun hd => ⟨hd, rfl⟩⟩

theorem endFragments_reassembles (s : VideoRtpSession) :
    Reassembles (fun a => { a with openType := none }) s s.endFragments := by
  rw [endFragments]
  split
  · exact ⟨⟨_, _, _, _, rfl⟩, fun hd => ⟨hd, rfl⟩⟩
  · exact ⟨⟨s.reassembly, true, false, 0, rfl⟩, fun h => absurd (show true = false from h)
      (by decide)⟩

theorem appendFu_reassembles {payload : ByteSpan} (h : nalType payload = 28)
    (s : VideoRtpSession) : Reassembles (Assembly.take · payload) s (s.appendFu payload) := by
  have hbegin : Reassembles (fun a => if fuStart payload then
        ⟨a.bytes ++ startCode 3 ++ [reconstructed payload], some (fragmentType payload)⟩ else a) s
      (if fuStart payload then
        s.beginFragments (fragmentType payload) (reconstructed payload) else s) := by
    cases fuStart payload
    · exact .same
    · exact beginFragments_reassembles _ _ s
  have hmiddle := hbegin.trans (appendFragment_reassembles (payload.drop 2) _)
  generalize ha : appendFragment (payload.drop 2) _ = s' at hmiddle
  have hend : Reassembles (fun a => if fuEnd payload then { a with openType := none } else a) s'
      (if fuEnd payload then s'.endFragments else s') := by
    cases fuEnd payload
    · exact .same
    · exact endFragments_reassembles s'
  have hall := hmiddle.trans hend
  subst ha
  have htake : ((fun a => if fuEnd payload then { a with openType := none } else a) ∘
      (fun a : Assembly => { a with bytes := a.bytes ++ payload.drop 2 }) ∘
      fun a => if fuStart payload then
        ⟨a.bytes ++ startCode 3 ++ [reconstructed payload], some (fragmentType payload)⟩ else a) =
      (Assembly.take · payload) := by
    funext a
    simp only [Function.comp, Assembly.take, h]
    cases fuStart payload <;> cases fuEnd payload <;>
      simp
  rw [← htake]
  exact hall

/-- **What a payload does to the reassembly**, if it is of a type that is not refused. -/
theorem appendPayload_reassembles (payload : ByteSpan) (s : VideoRtpSession)
    (h : 1 ≤ nalType payload ∧ nalType payload ≤ 23 ∨ nalType payload = 24 ∨
      nalType payload = 28) :
    Reassembles (Assembly.take · payload) s (s.appendPayload payload) := by
  rw [appendPayload]
  by_cases hsingle : 1 ≤ nalType payload ∧ nalType payload ≤ 23
  · have h24 : nalType payload ≠ 24 := by
      intro h
      rw [h] at hsingle
      exact absurd hsingle.2 (by decide)
    have h28 : nalType payload ≠ 28 := by
      intro h
      rw [h] at hsingle
      exact absurd hsingle.2 (by decide)
    rw [if_pos hsingle]
    have happend := (Reassembles.damageIf (s := s) s.fuActive).trans
      (appendAnnexBNal_reassembles payload _)
    simp only [Assembly.take, if_neg h24, if_neg h28, Function.comp_id] at happend ⊢
    exact happend
  · rw [if_neg hsingle]
    by_cases h24 : nalType payload = 24
    · rw [if_pos h24]
      have happend := (Reassembles.damageIf (s := s) s.fuActive).trans
        (appendStap_reassembles payload payload.length 1 _)
      simpa only [Assembly.take, if_pos h24, stapUnits, Function.comp_id] using happend
    · have h28 : nalType payload = 28 := by
        rcases h with h | h | h
        · exact absurd h hsingle
        · exact absurd h h24
        · exact h
      rw [if_neg h24, if_pos h28]
      exact appendFu_reassembles h28 s

/-! ## What stays as it is -/

/-- `s'` and `s` agree about the source of the stream, the sequence numbers and the switches. -/
structure Keeps (s s' : VideoRtpSession) : Prop where
  payloadType : s'.payloadType = s.payloadType
  receiveEnabled : s'.receiveEnabled = s.receiveEnabled
  hasSink : s'.hasSink = s.hasSink
  remoteIpV4 : s'.remoteIpV4 = s.remoteIpV4
  remoteSsrc : s'.remoteSsrc = s.remoteSsrc
  remoteSsrcLatched : s'.remoteSsrcLatched = s.remoteSsrcLatched
  latchedRemoteRtpPort : s'.latchedRemoteRtpPort = s.latchedRemoteRtpPort
  expectedSequence : s'.expectedSequence = s.expectedSequence
  sequenceValid : s'.sequenceValid = s.sequenceValid

/-- `s'` has handed over what `s` has, and the cached sets are the same. -/
structure Quiet (s s' : VideoRtpSession) : Prop where
  handedOver : s'.handedOver = s.handedOver
  h264Sps : s'.h264Sps = s.h264Sps
  h264Pps : s'.h264Pps = s.h264Pps

/-- No access unit is under construction. -/
structure Idle (s : VideoRtpSession) : Prop where
  reassemblyActive : s.reassemblyActive = false
  reassembly : s.reassembly = []
  fuActive : s.fuActive = false

variable {s s' s'' : VideoRtpSession}

theorem Idle.assembly (h : Idle s) : s.assembly = .empty := by
  rw [VideoRtpSession.assembly, h.reassembly, h.fuActive]
  rfl

theorem Keeps.refl (s : VideoRtpSession) :
    Keeps s s := ⟨rfl, rfl, rfl, rfl, rfl, rfl, rfl, rfl, rfl⟩

theorem Keeps.trans (h : Keeps s s') (h' : Keeps s' s'') : Keeps s s'' where
  payloadType := h'.payloadType.trans h.payloadType
  receiveEnabled := h'.receiveEnabled.trans h.receiveEnabled
  hasSink := h'.hasSink.trans h.hasSink
  remoteIpV4 := h'.remoteIpV4.trans h.remoteIpV4
  remoteSsrc := h'.remoteSsrc.trans h.remoteSsrc
  remoteSsrcLatched := h'.remoteSsrcLatched.trans h.remoteSsrcLatched
  latchedRemoteRtpPort := h'.latchedRemoteRtpPort.trans h.latchedRemoteRtpPort
  expectedSequence := h'.expectedSequence.trans h.expectedSequence
  sequenceValid := h'.sequenceValid.trans h.sequenceValid

theorem Quiet.refl (s : VideoRtpSession) : Quiet s s := ⟨rfl, rfl, rfl⟩

theorem Quiet.trans (h : Quiet s s') (h' : Quiet s' s'') : Quiet s s'' where
  handedOver := h'.handedOver.trans h.handedOver
  h264Sps := h'.h264Sps.trans h.h264Sps
  h264Pps := h'.h264Pps.trans h.h264Pps

theorem Reassembles.keeps {f : Assembly → Assembly} (h : Reassembles f s s') : Keeps s s' := by
  obtain ⟨⟨_, _, _, _, rfl⟩, -⟩ := h
  exact ⟨rfl, rfl, rfl, rfl, rfl, rfl, rfl, rfl, rfl⟩

theorem Reassembles.quiet {f : Assembly → Assembly} (h : Reassembles f s s') : Quiet s s' := by
  obtain ⟨⟨_, _, _, _, rfl⟩, -⟩ := h
  exact ⟨rfl, rfl, rfl⟩

section Reset

variable (s : VideoRtpSession)

theorem keeps_resetReassembly : Keeps s s.resetReassembly :=
  ⟨rfl, rfl, rfl, rfl, rfl, rfl, rfl, rfl, rfl⟩

theorem quiet_resetReassembly : Quiet s s.resetReassembly := ⟨rfl, rfl, rfl⟩

theorem idle_resetReassembly : Idle s.resetReassembly := ⟨rfl, rfl, rfl⟩

/-- Acquiring a slot changes which slot is used. -/
theorem acquireReassemblySlot_eq : ∃ slots slot,
    s.acquireReassemblySlot.2 =
      { s with receiveAccessUnits := slots, reassemblySlot := slot } := by
  rw [acquireReassemblySlot]
  split
  · exact ⟨s.receiveAccessUnits, s.reassemblySlot, rfl⟩
  · split
    · exact ⟨_, _, rfl⟩
    · exact ⟨s.receiveAccessUnits, s.reassemblySlot, rfl⟩

end Reset

/-- A reset and another slot, as at the end of `finish_access_unit_`. -/
theorem resetAndAcquire (s : VideoRtpSession) :
    Keeps s s.resetReassembly.acquireReassemblySlot.2 ∧
      Quiet s s.resetReassembly.acquireReassemblySlot.2 ∧
      Idle s.resetReassembly.acquireReassemblySlot.2 := by
  obtain ⟨slots, slot, h⟩ := acquireReassemblySlot_eq s.resetReassembly
  rw [h]
  exact ⟨⟨rfl, rfl, rfl, rfl, rfl, rfl, rfl, rfl, rfl⟩, ⟨rfl, rfl, rfl⟩, ⟨rfl, rfl, rfl⟩⟩

/-! ## The end of an access unit -/

/-- What `finish_access_unit_` knows after it has looked at every unit. -/
def parameterSets (s : VideoRtpSession) : ParameterSets :=
  (annexBNals s.reassembly).foldl ParameterSets.look { sps := s.h264Sps, pps := s.h264Pps }

/-- The unit that `finish_access_unit_` hands over. -/
def completed (timestamp : UInt32) (s : VideoRtpSession) : EncodedVideoAccessUnit where
  data := s.parameterSets.prefixBytes ++ s.reassembly
  timestamp90khz := timestamp
  keyFrame := s.parameterSets.keyFrame

/-- **The end of an access unit.**  A damaged unit leaves nothing behind.  Of another one the
    parameter sets are kept, and it is handed over unless the sets before it take too much
    room. -/
theorem finishAccessUnit_cases (accepts : Bool) (timestamp : UInt32) (s : VideoRtpSession) :
    let s' := s.finishAccessUnit accepts timestamp
    Keeps s s' ∧ Idle s' ∧
      (Quiet s s' ∨ s.reassemblyDamaged = false ∧ s'.h264Sps = s.parameterSets.sps ∧
        s'.h264Pps = s.parameterSets.pps ∧ (s'.handedOver = s.handedOver ∨
          s'.handedOver = s.handedOver ++ [s.completed timestamp])) := by
  dsimp only
  rw [finishAccessUnit]
  split
  · rename_i h
    dsimp only
    split
    · exact ⟨⟨rfl, rfl, rfl, rfl, rfl, rfl, rfl, rfl, rfl⟩, ⟨rfl, rfl, rfl⟩,
        .inr ⟨h.1, rfl, rfl, .inl rfl⟩⟩
    · generalize hs : (if accepts = true then _ else _ : VideoRtpSession) = t
      obtain ⟨hkeeps, hquiet, hidle⟩ := resetAndAcquire t
      have ht : Keeps s t ∧ t.h264Sps = s.parameterSets.sps ∧
          t.h264Pps = s.parameterSets.pps ∧
          t.handedOver = s.handedOver ++ [s.completed timestamp] := by
        rw [← hs]
        cases accepts <;>
          exact ⟨⟨rfl, rfl, rfl, rfl, rfl, rfl, rfl, rfl, rfl⟩, rfl, rfl, rfl⟩
      obtain ⟨ht, hsps, hpps, hover⟩ := ht
      exact ⟨ht.trans hkeeps, hidle, .inr ⟨h.1, hquiet.h264Sps.trans hsps,
        hquiet.h264Pps.trans hpps, .inr (hquiet.handedOver.trans hover)⟩⟩
  · obtain ⟨hkeeps, hquiet, hidle⟩ := resetAndAcquire s
    exact ⟨hkeeps, hidle, .inl hquiet⟩

/-- An undamaged unit that fits its slot with the sets before it is handed over. -/
theorem finishAccessUnit_handedOver {accepts : Bool} {timestamp : UInt32}
    (hdamaged : s.reassemblyDamaged = false) (hsome : s.reassembly ≠ []) (hsink : s.hasSink = true)
    (hfits : (s.completed timestamp).data.length ≤ kMaxAccessUnitBytes) :
    (s.finishAccessUnit accepts timestamp).handedOver =
      s.handedOver ++ [s.completed timestamp] := by
  rw [finishAccessUnit, if_pos ⟨hdamaged, hsome, hsink⟩]
  dsimp only
  have hlen : s.parameterSets.prefixBytes.length + s.reassembly.length ≤ kMaxAccessUnitBytes := by
    rw [← List.length_append]
    exact hfits
  rw [if_neg]
  · rw [(resetAndAcquire _).2.1.handedOver]
    cases accepts <;> rfl
  · rintro ⟨-, h⟩
    change kMaxAccessUnitBytes < s.reassembly.length + s.parameterSets.prefixBytes.length at h
    omega

/-! ## The parameter sets of some NAL units -/

namespace ParameterSets

theorem look_eq (p : ParameterSets) (nal : ByteSpan) :
    (p.look nal).keyFrame = (p.keyFrame || nalType nal == 5) ∧
      (p.look nal).hasSps = (p.hasSps || nalType nal == 7) ∧
      (p.look nal).hasPps = (p.hasPps || nalType nal == 8) := by
  rw [look]
  by_cases h7 : nalType nal = 7
  · simp [h7]
  · by_cases h8 : nalType nal = 8
    · simp [h8]
    · simp [h7, h8]

/-- A set changes only to a NAL unit of its type. -/
theorem look_sets (p : ParameterSets) (nal : ByteSpan) :
    ((p.look nal).sps = p.sps ∨ (p.look nal).sps = nal ∧ nalType nal = 7) ∧
      ((p.look nal).pps = p.pps ∨ (p.look nal).pps = nal ∧ nalType nal = 8) := by
  rw [look]
  by_cases h7 : nalType nal = 7
  · by_cases hsize : nal.length ≤ kH264ParameterSetBytes <;> simp [h7, hsize]
  · by_cases h8 : nalType nal = 8
    · by_cases hsize : nal.length ≤ kH264ParameterSetBytes <;> simp [h8, hsize]
    · simp [h7, h8]

variable (nals : List ByteSpan) (p : ParameterSets)

theorem foldl_look_keyFrame :
    (nals.foldl look p).keyFrame = (p.keyFrame || nals.any (nalType · == 5)) := by
  induction nals generalizing p with
  | nil => simp
  | cons nal nals ih => rw [List.foldl_cons, ih, (look_eq p nal).1, List.any_cons, Bool.or_assoc]

theorem foldl_look_hasSps :
    (nals.foldl look p).hasSps = (p.hasSps || nals.any (nalType · == 7)) := by
  induction nals generalizing p with
  | nil => simp
  | cons nal nals ih => rw [List.foldl_cons, ih, (look_eq p nal).2.1, List.any_cons, Bool.or_assoc]

theorem foldl_look_hasPps :
    (nals.foldl look p).hasPps = (p.hasPps || nals.any (nalType · == 8)) := by
  induction nals generalizing p with
  | nil => simp
  | cons nal nals ih => rw [List.foldl_cons, ih, (look_eq p nal).2.2, List.any_cons, Bool.or_assoc]

/-- The sequence parameter set at the end is the one at the beginning or one of the units. -/
theorem foldl_look_sps : (nals.foldl look p).sps = p.sps ∨
    (nals.foldl look p).sps ∈ nals ∧ nalType (nals.foldl look p).sps = 7 := by
  induction nals generalizing p with
  | nil => exact .inl rfl
  | cons nal nals ih =>
    rw [List.foldl_cons]
    rcases ih (p.look nal) with h | ⟨hmem, htype⟩
    · rcases (look_sets p nal).1 with h' | ⟨h', htype⟩
      · exact .inl (h.trans h')
      · right
        rw [h, h']
        exact ⟨List.mem_cons_self, htype⟩
    · exact .inr ⟨List.mem_cons_of_mem nal hmem, htype⟩

/-- The picture parameter set at the end is the one at the beginning or one of the units. -/
theorem foldl_look_pps : (nals.foldl look p).pps = p.pps ∨
    (nals.foldl look p).pps ∈ nals ∧ nalType (nals.foldl look p).pps = 8 := by
  induction nals generalizing p with
  | nil => exact .inl rfl
  | cons nal nals ih =>
    rw [List.foldl_cons]
    rcases ih (p.look nal) with h | ⟨hmem, htype⟩
    · rcases (look_sets p nal).2 with h' | ⟨h', htype⟩
      · exact .inl (h.trans h')
      · right
        rw [h, h']
        exact ⟨List.mem_cons_self, htype⟩
    · exact .inr ⟨List.mem_cons_of_mem nal hmem, htype⟩

/-- Units without a sequence parameter set leave it as it is. -/
theorem foldl_look_sps_same (h : nals.any (nalType · == 7) = false) :
    (nals.foldl look p).sps = p.sps := by
  rcases foldl_look_sps nals p with h' | ⟨hmem, htype⟩
  · exact h'
  · rw [List.any_eq_false] at h
    exact absurd (by simp [htype]) (h _ hmem)

theorem foldl_look_pps_same (h : nals.any (nalType · == 8) = false) :
    (nals.foldl look p).pps = p.pps := by
  rcases foldl_look_pps nals p with h' | ⟨hmem, htype⟩
  · exact h'
  · rw [List.any_eq_false] at h
    exact absurd (by simp [htype]) (h _ hmem)

end ParameterSets

/-- The cached sets that go before an access unit of these NAL units: those that it lacks, if it
    is a key frame. -/
def cachedSets (s : VideoRtpSession) (ns : List NalUnit) : List ByteSpan :=
  if ns.any (nalType ·.bytes == 5) then
    (if ns.any (nalType ·.bytes == 7) || s.h264Sps == [] then [] else [s.h264Sps]) ++
      if ns.any (nalType ·.bytes == 8) || s.h264Pps == [] then [] else [s.h264Pps]
  else []

theorem cachedSets_quiet {s s' : VideoRtpSession} (h : Quiet s s') (ns : List NalUnit) :
    s'.cachedSets ns = s.cachedSets ns := by
  rw [cachedSets, cachedSets, h.h264Sps, h.h264Pps]

/-- A unit is a key frame if one of its NAL units is an IDR slice. -/
theorem keyFrame_eq {s : VideoRtpSession} {ns : List NalUnit} (h : s.reassembly = longForm ns) :
    s.parameterSets.keyFrame = ns.any (nalType ·.bytes == 5) := by
  rw [parameterSets, ParameterSets.foldl_look_keyFrame, h, annexBNals_longForm, List.any_map,
    Bool.false_or]
  rfl

/-- **What is put before an access unit** that has been put together completely. -/
theorem prefixBytes_eq {s : VideoRtpSession} {ns : List NalUnit}
    (h : s.reassembly = longForm ns) :
    s.parameterSets.prefixBytes = (s.cachedSets ns).flatMap (startCode 3 ++ ·) := by
  have hscan : annexBNals s.reassembly = ns.map NalUnit.bytes := by
    rw [h, annexBNals_longForm]
  have hany : ∀ t : UInt8, (ns.map NalUnit.bytes).any (nalType · == t) =
      ns.any (nalType ·.bytes == t) := by
    intro t
    rw [List.any_map]
    rfl
  have hsps : s.parameterSets.hasSps = ns.any (nalType ·.bytes == 7) := by
    rw [parameterSets, ParameterSets.foldl_look_hasSps, hscan, hany, Bool.false_or]
  have hpps : s.parameterSets.hasPps = ns.any (nalType ·.bytes == 8) := by
    rw [parameterSets, ParameterSets.foldl_look_hasPps, hscan, hany, Bool.false_or]
  have hsame : ns.any (nalType ·.bytes == 7) = false → s.parameterSets.sps = s.h264Sps := by
    intro h7
    rw [parameterSets, hscan, ParameterSets.foldl_look_sps_same _ _ (by rw [hany, h7])]
  have hsame' : ns.any (nalType ·.bytes == 8) = false → s.parameterSets.pps = s.h264Pps := by
    intro h8
    rw [parameterSets, hscan, ParameterSets.foldl_look_pps_same _ _ (by rw [hany, h8])]
  rw [ParameterSets.prefixBytes, cachedSets, keyFrame_eq h, hsps, hpps]
  cases ns.any (nalType ·.bytes == 5)
  · simp
  · cases h7 : ns.any (nalType ·.bytes == 7) <;> cases h8 : ns.any (nalType ·.bytes == 8)
    · rw [hsame h7, hsame' h8]
      by_cases hs : s.h264Sps = [] <;> by_cases hp : s.h264Pps = [] <;> simp [hs, hp]
    · rw [hsame h7]
      by_cases hs : s.h264Sps = [] <;> simp [hs]
    · rw [hsame' h8]
      by_cases hp : s.h264Pps = [] <;> simp [hp]
    · simp

/-! ## A packet of the stream -/

/-- A payload that is not refused is of one of the types that are taken up. -/
theorem type_of_not_refused {payload : ByteSpan} {timestamp : UInt32}
    (h : s.refusesH264Payload payload timestamp = false) :
    1 ≤ nalType payload ∧ nalType payload ≤ 23 ∨ nalType payload = 24 ∨
      nalType payload = 28 := by
  rw [refusesH264Payload] at h
  split at h
  · rename_i h24
    exact .inr (.inl h24)
  · split at h
    · rename_i h28
      exact .inr (.inr h28)
    · left
      simp only [Bool.or_eq_false_iff, beq_eq_false_iff_ne, decide_eq_false_iff_not] at h
      obtain ⟨hzero, hle⟩ := h
      refine ⟨?_, UInt8.not_lt.mp hle⟩
      rw [UInt8.le_iff_toNat_le]
      have : (nalType payload).toNat ≠ 0 := fun h => hzero (UInt8.toNat_inj.mp h)
      exact Nat.one_le_iff_ne_zero.mpr this

/-- A fragment behind the first one is refused unless its unit is under construction. -/
theorem not_continuation {payload : ByteSpan} {timestamp : UInt32}
    (h : s.refusesH264Payload payload timestamp = false)
    (hopens : s.reassemblyActive = false ∨ timestamp ≠ s.reassemblyTimestamp) :
    isContinuation payload = false := by
  rw [isContinuation]
  by_cases h28 : nalType payload = 28
  · rw [refusesH264Payload, h28, if_neg (by decide), if_pos rfl] at h
    simp only [Bool.or_eq_false_iff, Bool.and_eq_false_iff, Bool.not_eq_false'] at h
    rcases h.2 with hstart | hrest
    · rw [fuStart, hstart]
      simp
    · rcases hopens with hopens | hopens
      · simp [hopens] at hrest
      · simp [hopens] at hrest
  · simp [h28]

/-- **Beginning or continuing an access unit.**  If it is not damaged then there was no gap,
    and the unit is either a new one or the one under construction. -/
theorem openAccessUnit_undamaged {timestamp : UInt32} {gap : Bool}
    (hidle : s.reassemblyActive = false → Idle s)
    (h : (s.openAccessUnit timestamp gap).reassemblyDamaged = false) :
    gap = false ∧
      ((s.reassemblyActive = false ∨ timestamp ≠ s.reassemblyTimestamp) ∧
          (s.openAccessUnit timestamp gap).assembly = .empty ∨
        s.reassemblyActive = true ∧ timestamp = s.reassemblyTimestamp ∧
          s.reassemblyDamaged = false ∧
          (s.openAccessUnit timestamp gap).assembly = s.assembly) := by
  rw [openAccessUnit] at h ⊢
  by_cases hopens : s.reassemblyActive = false ∨ timestamp ≠ s.reassemblyTimestamp
  · rw [if_pos hopens] at h ⊢
    refine ⟨h, .inl ⟨hopens, ?_⟩⟩
    cases hactive : s.reassemblyActive
    · exact (hidle hactive).assembly
    · rfl
  · rw [if_neg hopens] at h ⊢
    rw [not_or, Bool.not_eq_false, ne_eq, Decidable.not_not] at hopens
    cases gap
    · exact ⟨rfl, .inr ⟨hopens.1, hopens.2, h, rfl⟩⟩
    · exact absurd h (by simp [damage])

theorem openAccessUnit_active (timestamp : UInt32) (gap : Bool) (s : VideoRtpSession) :
    (s.openAccessUnit timestamp gap).reassemblyActive = true ∧
      (s.openAccessUnit timestamp gap).reassemblyTimestamp = timestamp := by
  rw [openAccessUnit]
  split
  · exact ⟨rfl, rfl⟩
  · rename_i hopens
    rw [not_or, Bool.not_eq_false, ne_eq, Decidable.not_not] at hopens
    cases gap
    · exact ⟨hopens.1, hopens.2.symm⟩
    · exact ⟨hopens.1, hopens.2.symm⟩

theorem keeps_openAccessUnit (timestamp : UInt32) (gap : Bool) (s : VideoRtpSession) :
    Keeps s (s.openAccessUnit timestamp gap) ∧ Quiet s (s.openAccessUnit timestamp gap) ∧
      (s.openAccessUnit timestamp gap).reassemblySlot = s.reassemblySlot := by
  rw [openAccessUnit]
  split
  · cases s.reassemblyActive <;>
      exact ⟨⟨rfl, rfl, rfl, rfl, rfl, rfl, rfl, rfl, rfl⟩, ⟨rfl, rfl, rfl⟩, rfl⟩
  · cases gap <;>
      exact ⟨⟨rfl, rfl, rfl, rfl, rfl, rfl, rfl, rfl, rfl⟩, ⟨rfl, rfl, rfl⟩, rfl⟩

/-- What becomes of a payload that is taken up. -/
def takenUp (accepts : Bool) (payload : ByteSpan) (marker : Bool) (timestamp : UInt32) (gap : Bool)
    (s : VideoRtpSession) : VideoRtpSession :=
  let s := (s.openAccessUnit timestamp gap).appendPayload payload
  if marker then s.finishAccessUnit accepts timestamp else s

/-- A packet with a payload has a header. -/
theorem header_of_payload {packet payload : ByteSpan} (h : rtpPayload packet = some payload) :
    ¬(packet.length < 12 ∨ rtpVersion packet ≠ 2) := by
  intro hbad
  rw [rtpPayload, rtpPayloadBounds, if_pos hbad] at h
  cases h

/-- The three ways in which `handle_h264_payload_` ends. -/
theorem handleH264Payload_cases (accepts : Bool) (payload : ByteSpan) (marker : Bool)
    (timestamp : UInt32) (gap : Bool) (s : VideoRtpSession) :
    s.handleH264Payload accepts payload marker timestamp gap = (false, s) ∨
      s.refusesH264Payload payload timestamp = false ∧
        ((∃ s', s.handleH264Payload accepts payload marker timestamp gap = (false, s') ∧
            Keeps s s' ∧ Quiet s s') ∨
          (marker = true →
            ((s.openAccessUnit timestamp gap).appendPayload payload).fuActive = false) ∧
            s.handleH264Payload accepts payload marker timestamp gap =
              (true, s.takenUp accepts payload marker timestamp gap)) := by
  rw [handleH264Payload]
  split
  · exact .inl rfl
  · rename_i h
    rw [not_or, Bool.not_eq_true] at h
    refine .inr ⟨h.2, ?_⟩
    rw [takenUp]
    cases marker
    · exact .inr ⟨(fun h => nomatch h), rfl⟩
    · dsimp only
      cases hfu : ((s.openAccessUnit timestamp gap).appendPayload payload).fuActive
      · exact .inr ⟨fun _ => rfl, rfl⟩
      · left
        refine ⟨_, rfl, ?_⟩
        have hreassembles := appendPayload_reassembles payload (s.openAccessUnit timestamp gap)
          (type_of_not_refused h.2)
        obtain ⟨hkeeps, hquiet, -⟩ := keeps_openAccessUnit timestamp gap s
        have hdamage := hreassembles.trans (g := id) .damaged
        obtain ⟨hfinish, -, hover⟩ := finishAccessUnit_cases accepts timestamp
          ((s.openAccessUnit timestamp gap).appendPayload payload).damage
        refine ⟨(hkeeps.trans hdamage.keeps).trans hfinish, ?_⟩
        rcases hover with hover | ⟨hover, -⟩
        · exact (hquiet.trans hdamage.quiet).trans hover
        · exact absurd hover (by simp [damage])

/-- `s'` is `s`, but for the slot that it fills. -/
def Slotted (s s' : VideoRtpSession) : Prop :=
  ∃ slots slot, s' = { s with receiveAccessUnits := slots, reassemblySlot := slot }

/-- A packet gets as far as the depacketizer: the session receives and has a slot, and the packet
    has the negotiated type and a payload. -/
def Reaches (packet : ByteSpan) (s : VideoRtpSession) : Prop :=
  s.receiveEnabled = true ∧ s.acquireReassemblySlot.1 = true ∧
    rtpPayloadType packet = s.payloadType ∧
    ∃ payload, rtpPayload packet = some payload ∧ payload ≠ []

/-- **What becomes of a packet.**  If it is not accepted then the session is as it was, or without
    a unit under construction.  Otherwise its payload has been taken up and the next number is
    expected. -/
theorem handleRtpPacket_cases (accepts : Bool) (packet : ByteSpan) (s : VideoRtpSession) :
    (∃ s', s.handleRtpPacket accepts packet = (false, s') ∧ Keeps s s' ∧ Quiet s s' ∧
        (s' = s ∧ ¬Reaches packet s ∨ Idle s')) ∨
      Reaches packet s ∧
      ∃ payload s₁, rtpPayload packet = some payload ∧ Slotted s s₁ ∧
        s₁.refusesH264Payload payload (rtpTimestamp packet) = false ∧
        s.handleRtpPacket accepts packet = (true,
          { s₁.takenUp accepts payload (rtpMarker packet) (rtpTimestamp packet)
              (s₁.sequenceValid && rtpSequence packet != s₁.expectedSequence) with
            expectedSequence := rtpSequence packet + 1
            sequenceValid := true }) := by
  -- The early exits leave the session as it was.
  have hsame : ¬Reaches packet s → ∃ s', (false, s) = (false, s') ∧ Keeps s s' ∧ Quiet s s' ∧
      (s' = s ∧ ¬Reaches packet s ∨ Idle s') :=
    fun h => ⟨s, rfl, .refl s, .refl s, .inl ⟨rfl, h⟩⟩
  obtain ⟨slots, slot, hacquire⟩ := acquireReassemblySlot_eq s
  rw [handleRtpPacket]
  split
  · -- not enabled, or no RTP header
    rename_i hbad
    left
    apply hsame
    rintro ⟨hreceives, -, -, payload, hpayload, -⟩
    rcases hbad with h | h
    · exact absurd (hreceives.symm.trans h) (by decide)
    · exact header_of_payload hpayload h
  · rename_i hgood
    rw [not_or, Bool.not_eq_false] at hgood
    split
    · -- no payload can be cut out
      rename_i hnone
      left
      apply hsame
      rintro ⟨-, -, -, payload, hpayload, -⟩
      exact nomatch hnone.symm.trans hpayload
    · rename_i payload hpayload
      split
      · -- another payload type, or nothing in it
        rename_i hbad
        left
        apply hsame
        rintro ⟨-, -, hpt, payload', hpayload', hne⟩
        obtain rfl : payload = payload' := Option.some.inj (hpayload.symm.trans hpayload')
        rcases hbad with h | h
        · exact h hpt
        · exact hne h
      · rename_i hmedia
        rw [not_or, Decidable.not_not] at hmedia
        -- So does a session without a free slot.
        have hfail : s.acquireReassemblySlot.1 = false → s.acquireReassemblySlot.2 = s := by
          rw [acquireReassemblySlot]
          split
          · exact fun h => nomatch h
          · split
            · exact fun h => nomatch h
            · exact fun _ => rfl
        have hslot : s.acquireReassemblySlot.1 = true → Reaches packet s :=
          fun h => ⟨hgood.1, h, hmedia.1, payload, hpayload, hmedia.2⟩
        rcases hr : s.acquireReassemblySlot with ⟨ok, s₁⟩
        rw [hr] at hacquire hfail hslot
        cases ok
        · obtain rfl : s₁ = s := hfail rfl
          left
          apply hsame
          rintro ⟨-, h, -⟩
          rw [hr] at h
          cases h
        · have hreaches := hslot rfl
          replace hacquire : s₁ =
              { s with receiveAccessUnits := slots, reassemblySlot := slot } := hacquire
          have hkeeps : Keeps s s₁ := by
            rw [hacquire]
            exact ⟨rfl, rfl, rfl, rfl, rfl, rfl, rfl, rfl, rfl⟩
          have hquiet : Quiet s s₁ := by
            rw [hacquire]
            exact ⟨rfl, rfl, rfl⟩
          rcases handleH264Payload_cases accepts payload (rtpMarker packet) (rtpTimestamp packet)
              (s₁.sequenceValid && rtpSequence packet != s₁.expectedSequence) s₁ with
            h | ⟨hrefused, ⟨s', h, hkeeps', hquiet'⟩ | ⟨-, h⟩⟩
          · simp only [h]
            exact .inl ⟨_, rfl, hkeeps.trans (keeps_resetReassembly s₁),
              hquiet.trans (quiet_resetReassembly s₁), .inr (idle_resetReassembly s₁)⟩
          · simp only [h]
            exact .inl ⟨_, rfl, (hkeeps.trans hkeeps').trans (keeps_resetReassembly s'),
              (hquiet.trans hquiet').trans (quiet_resetReassembly s'),
              .inr (idle_resetReassembly s')⟩
          · simp only [h]
            exact .inr ⟨hreaches, payload, s₁, hpayload, ⟨slots, slot, hacquire⟩, hrefused, rfl⟩

end VideoRtpSession

end EsphomeVoip
