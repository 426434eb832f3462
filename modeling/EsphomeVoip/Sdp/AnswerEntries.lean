import EsphomeVoip.Sdp.OfferText

/-! # The entries of an answer (`build_sdp_answer_`)

An answer names what the answering end has accepted, and what it transmits.  Seen from the entries
of the offer, an entry that the offering end may transmit is one that is accepted. -/

namespace EsphomeVoip

namespace Sdp

/-! ## Entries -/

@[simp] theorem wireFormat_wireFormat (format : AudioFormat) :
    wireFormat (wireFormat format) = wireFormat format := by
  obtain ⟨_, pcmFormat, _, _, _⟩ := format
  cases pcmFormat <;> rfl

/-- The first elements with two properties are the same if each has both. -/
theorem find?_unique {α : Type} {p q : α → Bool} {xs : List α} {x y : α}
    (hx : xs.find? p = some x) (hy : xs.find? q = some y) (hqx : q x = true) (hpy : p y = true) :
    x = y := by
  induction xs with
  | nil => cases hx
  | cons z xs ih =>
    rw [List.find?_cons] at hx hy
    split at hx
    · cases hx
      rw [hqx] at hy
      exact Option.some.inj hy
    · rename_i hpz
      split at hy
      · cases hy
        rw [hpy] at hpz
        cases hpz
      · exact ih hx hy

theorem nodup_of_place {entries : List AudioEntry}
    (h : ∀ (i : Nat) (entry : AudioEntry), entries[i]? = some entry → entry.pt = 96 + i) :
    (entries.map (·.pt)).Nodup := by
  have hrange : entries.map (·.pt) = List.range' 96 entries.length := by
    apply List.ext_getElem?
    intro i
    by_cases hi : i < entries.length
    · rw [List.getElem?_map, List.getElem?_eq_getElem hi, Option.map_some, List.getElem?_range' hi,
        h i _ (List.getElem?_eq_getElem hi), Nat.one_mul]
    · rw [List.getElem?_eq_none (by simpa using hi), List.getElem?_eq_none (by simpa using hi)]
  rw [hrange]
  exact List.nodup_range'

section Entries

variable {a : AudioTerms} {scan : AudioScan} {entries : List AudioEntry} {entry : AudioEntry}
  {directional : Bool} {ptime maxPayload : Nat}

/-- The flow that counts for an entry. -/
theorem entryFlow_eq (hscan : Scanned directional entries ptime scan)
    (hdirectional : a.directional = true → directional = true) (hmem : entry ∈ entries)
    (hentry : entry.Writable maxPayload) :
    entryFlow a scan entry = if a.directional then flowOf entry.flow else Flow.both := by
  rw [entryFlow, hscan.both]
  cases ha : a.directional with
  | false => rfl
  | true =>
    rw [hscan.flows (hdirectional ha) entry hmem]
    simp [flowOf_ne_none hentry]

/-- Without the extension what may be transmitted may be received. -/
theorem receives_of_transmits (hdirectional : a.directional = false)
    (h : transmits a scan entry = true) : receives a scan entry = true := by
  simp only [transmits, hdirectional, Bool.false_or, Bool.and_eq_true] at h
  rw [receives, Bool.and_eq_true]
  exact ⟨h.2, h.1.2⟩

/-- A format of the family with a rate that is not higher can be played. -/
theorem usableRx_of_sameFamily {selected format : AudioFormat} (hspeaker : a.e.speaker = true)
    (hdirectional : a.directional = false) (hfamily : SameFamily format selected)
    (hrate : format.sampleRate ≤ selected.sampleRate) : usableRx a selected format = true := by
  simp [usableRx, hspeaker, hdirectional, hfamily.conversion hrate]

/-- What can be played is of the family of what has been selected. -/
theorem sameFamily_of_usableRx {selected format : AudioFormat} (hopus : a.e.opus = false)
    (h : usableRx a selected format = true) : SameFamily format selected := by
  simp only [usableRx, hopus, Bool.false_and, Bool.or_false, Bool.or_eq_true, beq_iff_eq,
    Bool.and_eq_true] at h
  rcases h with rfl | h
  · exact .refl _
  · exact (sameFamily_of_conversion h.2).1

end Entries

/-! ## The answering end -/

section Answer

variable {a : AudioTerms} {scan : AudioScan} {entries : List AudioEntry} {g : AudioAgreement}
  {sent : AudioEntry} {best : AudioFormat × Nat} {directional : Bool} {ptime maxPayload : Nat}
  {n : Negotiation}

/-- A payload type stands for one entry. -/
theorem eq_of_pt (hnodup : (entries.map (·.pt)).Nodup) {x y : AudioEntry} (hx : x ∈ entries)
    (hy : y ∈ entries) (h : x.pt = y.pt) : x = y := by
  induction entries with
  | nil => exact absurd hx List.not_mem_nil
  | cons entry entries ih =>
    rw [List.map_cons, List.nodup_cons] at hnodup
    rcases List.mem_cons.mp hx with rfl | hx'
    · rcases List.mem_cons.mp hy with rfl | hy'
      · rfl
      · exact absurd (h ▸ List.mem_map_of_mem hy') hnodup.1
    · rcases List.mem_cons.mp hy with rfl | hy'
      · exact absurd (h ▸ List.mem_map_of_mem hx') hnodup.1
      · exact ih hnodup.2 hx' hy'

/-- What reception is settled on is accepted. -/
theorem Agreed.best_mem (h : Agreed a scan entries g sent best) :
    (best.2, best.1) ∈ g.accepted := by
  rw [h.accepted]
  exact ⟨h.heard, by simp [usableRx]⟩

theorem Agreed.sent_mem (h : Agreed a scan entries g sent best) : sent ∈ entries :=
  List.mem_of_find?_eq_some h.first

/-- What may be received from an offer has the payload type of its entry. -/
theorem Agreed.entry_of_accepted (h : Agreed a scan entries g sent best)
    (hoffer : a.isAnswer = false) {pt : Nat} {format : AudioFormat}
    (hmem : (pt, format) ∈ g.accepted) :
    ∃ entry ∈ entries, receives a scan entry = true ∧ pt = entry.pt ∧
      format = wireFormat entry.format := by
  obtain ⟨entry, hentry, hreceives, hpt, hformat⟩ := ((h.accepted pt format).mp hmem).1
  exact ⟨entry, hentry, hreceives, hpt.trans (receivePt_entryMatch hoffer), hformat⟩

/-- The entries of the answer, seen from the offer. -/
theorem Agreed.answerEntries (h : Agreed a scan entries g sent best) (hoffer : a.isAnswer = false)
    (hnodup : (entries.map (·.pt)).Nodup) :
    ∀ entry ∈ answerEntries (g.apply n),
      (entry.flow = "sendrecv" ∨ entry.flow = "recv" ∨ entry.flow = "send") ∧
      (entry.flow ≠ "send" → (entry.pt, entry.format) ∈ g.accepted) ∧
      (entry.flow ≠ "recv" → entry.pt = sent.pt ∧ entry.format = wireFormat sent.format) := by
  intro entry hentry
  simp only [Sdp.answerEntries, AudioAgreement.apply, h.tx, h.rx, Option.map_some,
    Option.getD_some] at hentry
  rcases List.mem_append.mp hentry with hentry | hentry
  · rcases List.mem_cons.mp hentry with rfl | hentry
    · refine ⟨by split <;> simp, fun _ => h.best_mem, fun hflow => ?_⟩
      simp only at hflow ⊢
      split at hflow
      · -- both directions have one payload type, so they have one format
        rename_i hsame
        rw [beq_iff_eq] at hsame
        obtain ⟨entry, hmem, -, hpt, hformat⟩ := h.entry_of_accepted hoffer h.best_mem
        obtain rfl := eq_of_pt hnodup hmem h.sent_mem (hpt.symm.trans hsame.symm)
        exact ⟨hpt, hformat⟩
      · exact absurd rfl hflow
    · obtain ⟨accepted, hmem, rfl⟩ := List.mem_map.mp hentry
      exact ⟨by simp, fun _ => (List.mem_filter.mp hmem).1, fun hflow => absurd rfl hflow⟩
  · split at hentry
    · exact absurd hentry List.not_mem_nil
    · rw [List.mem_singleton.mp hentry]
      exact ⟨by simp, fun hflow => absurd rfl hflow, fun _ => ⟨rfl, rfl⟩⟩

/-- What is transmitted is an entry of the answer. -/
theorem Agreed.exists_sent (h : Agreed a scan entries g sent best) (hoffer : a.isAnswer = false)
    (hnodup : (entries.map (·.pt)).Nodup) :
    ∃ entry ∈ Sdp.answerEntries (g.apply n), entry.pt = sent.pt ∧
      entry.format = wireFormat sent.format ∧ entry.flow ≠ "recv" := by
  by_cases hsame : sent.pt = best.2
  · obtain ⟨entry, hmem, -, hpt, hformat⟩ := h.entry_of_accepted hoffer h.best_mem
    obtain rfl := eq_of_pt hnodup hmem h.sent_mem (hpt.symm.trans hsame.symm)
    refine ⟨⟨best.2, best.1, "sendrecv"⟩, ?_, hpt, hformat, by simp⟩
    simp [Sdp.answerEntries, AudioAgreement.apply, h.tx, h.rx, hsame]
  · refine ⟨⟨sent.pt, wireFormat sent.format, "send"⟩, ?_, rfl, rfl, by simp⟩
    simp [Sdp.answerEntries, AudioAgreement.apply, h.tx, h.rx, hsame]

/-- The payload types of the answer are different. -/
theorem Agreed.nodup_answerEntries (h : Agreed a scan entries g sent best) :
    ((Sdp.answerEntries (g.apply n)).map (·.pt)).Nodup := by
  have hmap : (Sdp.answerEntries (g.apply n)).map (·.pt) =
      best.2 :: (g.accepted.filter fun entry => entry.1 ≠ best.2 ∧ entry.1 ≠ sent.pt).map (·.1) ++
        if sent.pt = best.2 then [] else [sent.pt] := by
    simp only [Sdp.answerEntries, AudioAgreement.apply, h.tx, h.rx, Option.map_some,
      Option.getD_some, List.map_append, List.map_cons, List.map_map]
    congr 1
    split <;> rfl
  have hfilter : ((g.accepted.filter fun entry => entry.1 ≠ best.2 ∧ entry.1 ≠ sent.pt).map
      (·.1)).Nodup := h.nodup.sublist (List.filter_sublist.map _)
  have hnot : ∀ pt ∈ (g.accepted.filter fun entry => entry.1 ≠ best.2 ∧ entry.1 ≠ sent.pt).map
      (·.1), pt ≠ best.2 ∧ pt ≠ sent.pt := by
    rw [List.forall_mem_map]
    intro entry hentry
    simpa using (List.mem_filter.mp hentry).2
  rw [hmap, List.cons_append, List.nodup_cons, List.nodup_append, List.mem_append, not_or]
  refine ⟨⟨fun hmem => (hnot _ hmem).1 rfl, ?_⟩, hfilter, ?_, ?_⟩
  · split
    · exact List.not_mem_nil
    · rename_i hother
      rw [List.mem_singleton]
      exact fun heq => hother heq.symm
  · split <;> simp
  · intro pt hpt pt' hpt'
    split at hpt'
    · exact absurd hpt' List.not_mem_nil
    · rw [List.mem_singleton.mp hpt']
      exact (hnot pt hpt).2

/-- The entries of the answer can be written, and they have the packet time of the offer. -/
theorem Agreed.writable_answerEntries (h : Agreed a scan entries g sent best)
    (hoffer : a.isAnswer = false) (hnodup : (entries.map (·.pt)).Nodup)
    (hentries : ∀ entry ∈ entries, entry.Writable maxPayload ∧ entry.format.frameMs = ptime)
    (hfit : Fitting a.e (Sdp.answerEntries (g.apply n))) :
    ∀ entry ∈ Sdp.answerEntries (g.apply n),
      entry.Writable a.e.udpMaxPayload ∧ entry.format.frameMs = best.1.frameMs := by
  have hformat : ∀ entry ∈ Sdp.answerEntries (g.apply n), ∃ old ∈ entries,
      entry.format = wireFormat old.format ∧ entry.pt = old.pt := by
    intro entry hentry
    obtain ⟨hflow, haccepted, hsent⟩ := h.answerEntries hoffer hnodup entry hentry
    by_cases hsend : entry.flow = "send"
    · obtain ⟨hpt, hformat⟩ := hsent (by rw [hsend]; simp)
      exact ⟨sent, h.sent_mem, hformat, hpt⟩
    · obtain ⟨old, hold, -, hpt, hformat⟩ := h.entry_of_accepted hoffer (haccepted hsend)
      exact ⟨old, hold, hformat, hpt⟩
  have hbest : best.1.frameMs = ptime := by
    obtain ⟨old, hold, -, -, hold'⟩ := h.entry_of_accepted hoffer h.best_mem
    rw [hold', ← (hentries old hold).2]
    rfl
  intro entry hentry
  obtain ⟨old, hold, hformat, hpt⟩ := hformat entry hentry
  obtain ⟨hwritable, hptime⟩ := hentries old hold
  refine ⟨⟨hpt ▸ hwritable.pt, ?_, ?_, hfit entry hentry,
    (h.answerEntries hoffer hnodup entry hentry).1⟩, ?_⟩
  · rw [hformat]
    exact hwritable.pcm
  · rw [hformat]
    exact (isValid_wireFormat hwritable.pcm hwritable.valid).1
  · rw [hformat, hbest, ← hptime]
    rfl

end Answer

end Sdp

end EsphomeVoip
