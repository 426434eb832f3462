import EsphomeVoip.ForStd.EventRun
import EsphomeVoip.Sdp.RtpFormat

/-! # The converters of received audio (`pcm_receive_converter.h`)

Every rate that a peer may send is converted to the one of the speaker, by a converter that is made
before the media is admitted.  The playout task reads the first `count_` entries while more are made
behind them. -/

namespace EsphomeVoip

/-! ## Entries -/

/-- `ResamplerConfiguration`, without what is the same for every converter. -/
structure ResamplerConfiguration where
  sourceSampleRate : Nat
  targetSampleRate : Nat
  channels : Nat
  deriving DecidableEq, Repr

/-- `Converter`; the configuration is there once `initialize` has taken it. -/
structure Converter where
  inputSamples : Nat
  outputSamples : Nat
  configuration : Option ResamplerConfiguration := none
  deriving DecidableEq, Repr

/-- `Entry`. -/
structure ConverterEntry where
  format : AudioFormat := {}
  converter : Option Converter := none
  deriving DecidableEq, Repr

/-- What becomes of a converter: it gets no memory, or `initialize` fails, or it is ready. -/
inductive Attempt where
  | noMemory
  | refused
  | ready
  deriving DecidableEq, Repr

/-- The converter of a format. -/
def Converter.new (source target : AudioFormat) : Converter where
  inputSamples := source.nominalFrameSamples * source.channels
  outputSamples := target.nominalFrameSamples * target.channels

/-- `initialize`. -/
def Converter.initialise (source target : AudioFormat) (c : Converter) : Converter :=
  { c with
    configuration := some
      { sourceSampleRate := source.sampleRate
        targetSampleRate := target.sampleRate
        channels := source.channels } }

/-- The entry has a converter that is ready for its format. -/
def ConverterEntry.Ready (target : AudioFormat) (e : ConverterEntry) : Prop :=
  e.converter = some ((Converter.new e.format target).initialise e.format target)

/-! ## Preparation -/

/-- The entries while some are made, and how many are. -/
structure Building where
  entries : List ConverterEntry
  count : Nat
  deriving DecidableEq, Repr

/-- The entries that are made. -/
def Building.made (b : Building) : List ConverterEntry := b.entries.take b.count

/-- One round of the loop: whether it goes on. -/
def Building.addFormat (target source : AudioFormat) (attempt : Attempt) (b : Building) :
    Bool × Building :=
  if source = target then (true, b)
  else if pcmReceiveConversionSupported source target = false then (false, b)
  else if b.made.any (fun e => e.format == source) then (true, b)
  else if b.count = voipStackMaxAudioFormats then (false, b)
  else
    match attempt with
    | .noMemory =>
      (false, { b with entries := b.entries.set b.count { format := source, converter := none } })
    -- the converter is given back
    | .refused =>
      (false, { b with entries := b.entries.set b.count { format := source, converter := none } })
    | .ready =>
      let converter := (Converter.new source target).initialise source target
      (true,
        { entries := b.entries.set b.count { format := source, converter := some converter }
          count := b.count + 1 })

/-- The loop, from the `i`th payload on; what is tried for it is `attempts i`. -/
def Building.addFormats (target : AudioFormat) (attempts : Nat → Attempt) :
    Nat → RtpAudioPayloads → Building → Bool × Building
  | _, [], b => (true, b)
  | i, payload :: payloads, b =>
    match b.addFormat target payload.2 (attempts i) with
    | (true, b) => b.addFormats target attempts (i + 1) payloads
    | (false, b) => (false, b)

/-- `rollback`: the converters that were made from the `previous`th on are given back. -/
def rollback (previous count : Nat) (entries : List ConverterEntry) : List ConverterEntry :=
  entries.mapIdx fun i e => if previous ≤ i ∧ i < count then { e with converter := none } else e

/-- `PcmReceiveConverter`. -/
structure PcmReceiveConverter where
  entries : List ConverterEntry := List.replicate voipStackMaxAudioFormats {}
  count : Nat := 0
  target : AudioFormat := {}
  deriving DecidableEq, Repr

namespace PcmReceiveConverter

/-- The entries that the playout task reads. -/
def published (c : PcmReceiveConverter) : List ConverterEntry := c.entries.take c.count

/-- `prepare_additional`. -/
def prepareAdditional (payloads : RtpAudioPayloads) (target : AudioFormat)
    (attempts : Nat → Attempt) (c : PcmReceiveConverter) : Bool × PcmReceiveConverter :=
  if target ≠ c.target then (false, c)
  else
    match Building.addFormats target attempts 0 payloads ⟨c.entries, c.count⟩ with
    | (false, b) => (false, { c with entries := rollback c.count b.count b.entries })
    | (true, b) => (true, { c with entries := b.entries, count := b.count })

/-- `clear_`. -/
def clear (c : PcmReceiveConverter) : PcmReceiveConverter :=
  { c with
    entries := c.entries.map fun e => { e with converter := none }
    count := 0 }

/-- `prepare`. -/
def prepare (payloads : RtpAudioPayloads) (target : AudioFormat) (attempts : Nat → Attempt)
    (c : PcmReceiveConverter) : Bool × PcmReceiveConverter :=
  prepareAdditional payloads target attempts { c.clear with target := target }

/-- A call, and what is tried for each of its payloads. -/
inductive Call where
  | prepare (payloads : RtpAudioPayloads) (target : AudioFormat) (attempts : Nat → Attempt)
  | prepareAdditional (payloads : RtpAudioPayloads) (target : AudioFormat)
      (attempts : Nat → Attempt)

/-- The converters behind a call. -/
def step : Call → PcmReceiveConverter → PcmReceiveConverter
  | .prepare payloads target attempts, c => (c.prepare payloads target attempts).2
  | .prepareAdditional payloads target attempts, c =>
    (c.prepareAdditional payloads target attempts).2

/-- The converters behind some calls. -/
def after (calls : List Call) : PcmReceiveConverter := EventRun.after step {} calls

/-- The entries that are published have formats that differ from each other and from the target,
    and converters that are ready for them. -/
structure WellPublished (c : PcmReceiveConverter) : Prop where
  distinct : (c.published.map (·.format)).Nodup
  convertible : ∀ e ∈ c.published, e.format ≠ c.target
  ready : ∀ e ∈ c.published, e.Ready c.target

/-- There are no converters but those that are published. -/
def NoneExtra (c : PcmReceiveConverter) : Prop := ∀ e ∈ c.entries.drop c.count, e.converter = none

end PcmReceiveConverter

/-! ## Rounds -/

/-- What holds while converters are made. -/
structure Building.Sound (target : AudioFormat) (b : Building) : Prop where
  size : b.entries.length = voipStackMaxAudioFormats
  bound : b.count ≤ voipStackMaxAudioFormats
  distinct : (b.made.map (·.format)).Nodup
  convertible : ∀ e ∈ b.made, e.format ≠ target
  ready : ∀ e ∈ b.made, e.Ready target
  rest : ∀ e ∈ b.entries.drop b.count, e.converter = none

/-- Nothing that was made before has changed. -/
structure Building.Keeps (b b' : Building) : Prop where
  count : b.count ≤ b'.count
  entries : b'.entries.take b.count = b.made

namespace Building

variable {target source : AudioFormat} {b b' b'' : Building}

theorem Keeps.refl (b : Building) : Keeps b b := ⟨Nat.le_refl _, rfl⟩

theorem Keeps.trans (h : Keeps b b') (h' : Keeps b' b'') : Keeps b b'' where
  count := Nat.le_trans h.count h'.count
  entries := by
    have hentries := congrArg (List.take b.count) h'.entries
    rw [made, List.take_take, List.take_take, Nat.min_eq_left h.count] at hentries
    exact hentries.trans h.entries

theorem Keeps.subset (h : Keeps b b') {e : ConverterEntry} (he : e ∈ b.made) : e ∈ b'.made := by
  rw [← h.entries] at he
  exact (List.take_subset_take_left b'.entries h.count) he

theorem mem_rest (h : b.Sound target) {e : ConverterEntry} {j : Nat} (he : b.entries[j]? = some e)
    (hj : b.count ≤ j) : e.converter = none := by
  refine h.rest e (List.mem_of_getElem? (i := j - b.count) ?_)
  rw [List.getElem?_drop, Nat.add_sub_cancel' hj]
  exact he

/-- An entry behind those that are made may be taken, and left without a converter. -/
theorem Sound.leave (h : b.Sound target) (e : ConverterEntry) (he : e.converter = none) :
    Sound target { b with entries := b.entries.set b.count e } ∧
      Keeps b { b with entries := b.entries.set b.count e } := by
  have hmade : made { b with entries := b.entries.set b.count e } = b.made :=
    List.take_set_of_le (Nat.le_refl _)
  refine ⟨⟨?_, h.bound, ?_, ?_, ?_, fun x hx => ?_⟩, Nat.le_refl _, hmade⟩
  · rw [List.length_set]
    exact h.size
  · rw [hmade]
    exact h.distinct
  · rw [hmade]
    exact h.convertible
  · rw [hmade]
    exact h.ready
  · obtain ⟨j, hj⟩ := List.mem_iff_getElem?.mp hx
    rw [List.getElem?_drop, List.getElem?_set] at hj
    split at hj
    · split at hj <;> cases hj
      exact he
    · exact mem_rest h hj (Nat.le_add_right _ _)

/-- An entry behind those that are made becomes one of them with its converter. -/
theorem Sound.make (h : b.Sound target) {e : ConverterEntry}
    (hroom : b.count < voipStackMaxAudioFormats)
    (hnew : ∀ x ∈ b.made, x.format ≠ e.format) (hformat : e.format ≠ target)
    (hready : e.Ready target) :
    let b' : Building := { entries := b.entries.set b.count e, count := b.count + 1 }
    Sound target b' ∧ Keeps b b' ∧ e ∈ b'.made := by
  intro b'
  have hcount : b'.count = b.count + 1 := rfl
  have hlt : b.count < b.entries.length := by rwa [h.size]
  have hmade : b'.made = b.made ++ [e] := by
    rw [made, List.take_add_one, List.take_set_of_le (Nat.le_refl _),
      List.getElem?_set_self hlt]
    rfl
  have hmem : ∀ x, x ∈ b'.made ↔ x ∈ b.made ∨ x = e := by simp [hmade]
  refine ⟨⟨?_, hroom, ?_, fun x hx => ?_, fun x hx => ?_, fun x hx => ?_⟩,
    ⟨Nat.le_succ _, List.take_set_of_le (Nat.le_refl _)⟩, (hmem e).mpr (.inr rfl)⟩
  · rw [List.length_set]
    exact h.size
  · rw [hmade, List.map_append, List.nodup_append]
    refine ⟨h.distinct, by simp, fun x hx y hy heq => ?_⟩
    obtain ⟨z, hz, rfl⟩ := List.mem_map.mp hx
    rw [List.map_singleton, List.mem_singleton] at hy
    exact hnew z hz (heq.trans hy)
  · rcases (hmem x).mp hx with hx | rfl
    · exact h.convertible x hx
    · exact hformat
  · rcases (hmem x).mp hx with hx | rfl
    · exact h.ready x hx
    · exact hready
  · obtain ⟨j, hj⟩ := List.mem_iff_getElem?.mp hx
    rw [List.getElem?_drop, List.getElem?_set_ne (by omega)] at hj
    exact mem_rest h hj (by omega)

/-- One round: what was made stays, and where the loop goes on the format is the target's or has an
    entry. -/
theorem Sound.addFormat (h : b.Sound target) (source : AudioFormat) (attempt : Attempt) :
    let r := b.addFormat target source attempt
    Sound target r.2 ∧ Keeps b r.2 ∧
      (r.1 = true → source ≠ target → ∃ e ∈ r.2.made, e.format = source) := by
  unfold Building.addFormat
  split
  · rename_i hsame
    exact ⟨h, .refl b, fun _ hne => absurd hsame hne⟩
  · rename_i hne
    split
    · exact ⟨h, .refl b, nofun⟩
    · split
      · rename_i hfound
        obtain ⟨e, he, heq⟩ := List.any_eq_true.mp hfound
        exact ⟨h, .refl b, fun _ _ => ⟨e, he, eq_of_beq heq⟩⟩
      · rename_i hfound
        split
        · exact ⟨h, .refl b, nofun⟩
        · rename_i hfull
          cases attempt with
          | noMemory =>
            obtain ⟨hsound, hkeeps⟩ := h.leave { format := source, converter := none } rfl
            exact ⟨hsound, hkeeps, nofun⟩
          | refused =>
            obtain ⟨hsound, hkeeps⟩ := h.leave { format := source, converter := none } rfl
            exact ⟨hsound, hkeeps, nofun⟩
          | ready =>
            have hnew : ∀ x ∈ b.made, x.format ≠ source := by
              simpa [List.any_eq_true] using hfound
            obtain ⟨hsound, hkeeps, hmem⟩ := h.make
              (e := { format := source
                      converter := some ((Converter.new source target).initialise source target) })
              (Nat.lt_of_le_of_ne h.bound hfull) hnew hne rfl
            exact ⟨hsound, hkeeps, fun _ _ => ⟨_, hmem, rfl⟩⟩

/-- The loop. -/
theorem Sound.addFormats (h : b.Sound target) (attempts : Nat → Attempt) (i : Nat)
    (payloads : RtpAudioPayloads) :
    let r := b.addFormats target attempts i payloads
    Sound target r.2 ∧ Keeps b r.2 ∧
      (r.1 = true → ∀ payload ∈ payloads, payload.2 ≠ target →
        ∃ e ∈ r.2.made, e.format = payload.2) := by
  induction payloads generalizing i b with
  | nil => exact ⟨h, .refl b, fun _ payload hpayload => nomatch hpayload⟩
  | cons payload payloads ih =>
    obtain ⟨hsound, hkeeps, hround⟩ := h.addFormat payload.2 (attempts i)
    rw [Building.addFormats]
    split
    · rename_i b' hadd
      rw [hadd] at hsound hkeeps hround
      obtain ⟨hsound', hkeeps', hrest⟩ := ih hsound (i + 1)
      refine ⟨hsound', hkeeps.trans hkeeps', fun hok x hx hne => ?_⟩
      cases hx with
      | head =>
        obtain ⟨e, he, heq⟩ := hround rfl hne
        exact ⟨e, hkeeps'.subset he, heq⟩
      | tail _ hx => exact hrest hok x hx hne
    · rename_i b' hadd
      rw [hadd] at hsound hkeeps
      exact ⟨hsound, hkeeps, nofun⟩

end Building

/-! ## Calls -/

theorem take_rollback (previous count : Nat) (entries : List ConverterEntry) :
    (rollback previous count entries).take previous = entries.take previous := by
  refine List.ext_getElem? fun j => ?_
  rw [List.getElem?_take, List.getElem?_take, rollback, List.getElem?_mapIdx]
  split
  · rw [show (fun e : ConverterEntry => if previous ≤ j ∧ j < count then
      { e with converter := none } else e) = id from funext fun e => if_neg (by omega)]
    simp
  · rfl

/-- Behind the entries that stay no converter is left. -/
theorem none_of_mem_rollback {previous count : Nat} {entries : List ConverterEntry}
    (h : ∀ e ∈ entries.drop count, e.converter = none) :
    ∀ e ∈ (rollback previous count entries).drop previous, e.converter = none := by
  intro e he
  obtain ⟨j, hj⟩ := List.mem_iff_getElem?.mp he
  rw [List.getElem?_drop, rollback, List.getElem?_mapIdx] at hj
  obtain ⟨x, hx, rfl⟩ := Option.map_eq_some_iff.mp hj
  split
  · rfl
  · rename_i hout
    refine h x (List.mem_of_getElem? (i := previous + j - count) ?_)
    rw [List.getElem?_drop, Nat.add_sub_cancel' (by omega)]
    exact hx

namespace PcmReceiveConverter

variable {c : PcmReceiveConverter}

/-- What holds between calls. -/
structure Sound (c : PcmReceiveConverter) : Prop where
  size : c.entries.length = voipStackMaxAudioFormats
  bound : c.count ≤ voipStackMaxAudioFormats
  well : WellPublished c
  rest : NoneExtra c

theorem Sound.building (h : c.Sound) : Building.Sound c.target ⟨c.entries, c.count⟩ :=
  ⟨h.size, h.bound, h.well.distinct, h.well.convertible, h.well.ready, h.rest⟩

theorem sound_start : Sound {} where
  size := rfl
  bound := Nat.zero_le _
  well := ⟨.nil, nofun, nofun⟩
  rest e he := by
    rw [List.eq_of_mem_replicate (List.mem_of_mem_drop he)]

theorem Sound.clear (h : c.Sound) (target : AudioFormat) :
    Sound { c.clear with target := target } where
  size := (List.length_map _).trans h.size
  bound := Nat.zero_le _
  well := ⟨.nil, nofun, nofun⟩
  rest e he := by
    obtain ⟨x, -, rfl⟩ := List.mem_map.mp (List.mem_of_mem_drop he)
    rfl

/-- A call of `prepare_additional` keeps what was published, and publishes all or nothing. -/
theorem Sound.prepareAdditional (h : c.Sound) (payloads : RtpAudioPayloads) (target : AudioFormat)
    (attempts : Nat → Attempt) :
    let r := c.prepareAdditional payloads target attempts
    Sound r.2 ∧ r.2.target = c.target ∧
      (r.1 = false → r.2.count = c.count ∧ r.2.published = c.published) ∧
      (r.1 = true → c.published <+: r.2.published ∧
        ∀ payload ∈ payloads, payload.2 ≠ target → ∃ e ∈ r.2.published, e.format = payload.2) := by
  rw [PcmReceiveConverter.prepareAdditional]
  split
  · exact ⟨h, rfl, fun _ => ⟨rfl, rfl⟩, nofun⟩
  · rename_i hsame
    obtain rfl := Decidable.not_not.mp hsame
    obtain ⟨hsound, hkeeps, hall⟩ := h.building.addFormats attempts 0 payloads
    split
    · rename_i b hadd
      rw [hadd] at hsound hkeeps
      have hpublished : (rollback c.count b.count b.entries).take c.count = c.published :=
        (take_rollback ..).trans hkeeps.entries
      refine ⟨⟨?_, h.bound, ?_, none_of_mem_rollback hsound.rest⟩, rfl,
        fun _ => ⟨rfl, hpublished⟩, nofun⟩
      · rw [rollback, List.length_mapIdx]
        exact hsound.size
      · exact ⟨by rw [published, hpublished]; exact h.well.distinct,
          by rw [published, hpublished]; exact h.well.convertible,
          by rw [published, hpublished]; exact h.well.ready⟩
    · rename_i b hadd
      rw [hadd] at hsound hkeeps hall
      refine ⟨⟨hsound.size, hsound.bound,
        ⟨hsound.distinct, hsound.convertible, hsound.ready⟩, hsound.rest⟩, rfl, nofun,
        fun _ => ⟨?_, hall rfl⟩⟩
      have hkept : b.entries.take c.count = c.published := hkeeps.entries
      rw [← hkept]
      exact List.take_prefix_take_left hkeeps.count

theorem Sound.step (h : c.Sound) (call : Call) : Sound (step call c) := by
  cases call with
  | prepare payloads target attempts =>
    exact ((h.clear target).prepareAdditional payloads target attempts).1
  | prepareAdditional payloads target attempts =>
    exact (h.prepareAdditional payloads target attempts).1

theorem sound_after (calls : List Call) : Sound (after calls) :=
  EventRun.invariant_of_step step (fun call _ h => h.step call) sound_start calls

/-- Behind any calls, whatever came of their attempts: the published entries are well formed; a call
    that fails leaves them as they are and no other converter behind; one that succeeds leaves them
    in front and publishes a converter for every other format of its payloads. -/
theorem preparation_all_or_nothing (calls : List Call) :
    WellPublished (after calls) ∧
      ∀ payloads target attempts,
        let r := (after calls).prepareAdditional payloads target attempts
        WellPublished r.2 ∧ NoneExtra r.2 ∧
          (r.1 = false → r.2.count = (after calls).count ∧
            r.2.published = (after calls).published) ∧
          (r.1 = true → (after calls).published <+: r.2.published ∧
            ∀ payload ∈ payloads, payload.2 ≠ target →
              ∃ e ∈ r.2.published, e.format = payload.2 ∧ e.Ready target) := by
  have h := sound_after calls
  refine ⟨h.well, fun payloads target attempts => ?_⟩
  obtain ⟨hsound, htarget, hfailed, hdone⟩ := h.prepareAdditional payloads target attempts
  refine ⟨hsound.well, hsound.rest, hfailed, fun hok => ⟨(hdone hok).1, fun x hx hne => ?_⟩⟩
  obtain ⟨e, he, heq⟩ := (hdone hok).2 x hx hne
  have hready := hsound.well.ready e he
  -- a call for another target does not succeed
  have hsame : target = (after calls).target := by
    refine Decidable.byContradiction fun hother => ?_
    rw [PcmReceiveConverter.prepareAdditional, if_pos hother] at hok
    cases hok
  rw [htarget, ← hsame] at hready
  exact ⟨e, he, heq, hready⟩

end PcmReceiveConverter

end EsphomeVoip
