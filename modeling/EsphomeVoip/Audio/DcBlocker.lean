import EsphomeVoip.ForStd.EventRun

/-! # The DC blocker (`audio_core_audio_utils.h`)

A high pass of the first order on samples of 16 bits, with sixteen more bits behind them.  What it
gives out is the sample less a mean of the samples before; it is computed from the output before,
in 32 bits that may not be enough for a large step. -/

namespace EsphomeVoip

/-! ## The filter -/

/-- `DcBlockerState`. -/
structure DcBlockerState where
  prevInputQ16 : Int32 := 0
  prevOutputQ16 : Int32 := 0
  deriving DecidableEq, Repr

namespace DcBlockerState

/-- `process`, with the sums of the machine. -/
def process (sample : Int16) (s : DcBlockerState) : Int16 × DcBlockerState :=
  let input := sample.toInt32 <<< 16
  let output := input - s.prevInputQ16 + s.prevOutputQ16 - (s.prevOutputQ16 >>> 10)
  ((output >>> 16).toInt16, { prevInputQ16 := input, prevOutputQ16 := output })

/-- The state behind some samples. -/
def after (samples : List Int16) : DcBlockerState :=
  EventRun.after (fun sample s => (s.process sample).2) {} samples

/-- The values that `process` computes on the way to its output, as they are without a bound. -/
def intermediates (sample : Int16) (s : DcBlockerState) : List Int :=
  let input := sample.toInt * 65536
  let difference := input - s.prevInputQ16.toInt
  let sum := difference + s.prevOutputQ16.toInt
  [input, difference, sum, sum - s.prevOutputQ16.toInt / 1024]

end DcBlockerState

/-- A value of `int32_t`. -/
def FitsInt32 (v : Int) : Prop := -2147483648 ≤ v ∧ v < 2147483648

instance (v : Int) : Decidable (FitsInt32 v) := inferInstanceAs (Decidable (_ ∧ _))

/-- One step of the recurrence: the input and the output behind it. -/
def recur (sample : Int16) (s : Int × Int) : Int × Int :=
  (sample.toInt * 65536, sample.toInt * 65536 - s.1 + s.2 - s.2 / 1024)

/-- `y[n] = x[n] - x[n-1] + y[n-1] - floor(y[n-1] / 1024)` behind some samples. -/
def exactOutput (samples : List Int16) : Int := (EventRun.after recur (0, 0) samples).2

/-- At every sample the values fit, the state is that of the recurrence and the sample given out is
    its upper half. -/
def Exact (samples : List Int16) : Prop :=
  ∀ before sample, before ++ [sample] <+: samples →
    (∀ v ∈ (DcBlockerState.after before).intermediates sample, FitsInt32 v) ∧
      (DcBlockerState.after (before ++ [sample])).prevOutputQ16.toInt =
        exactOutput (before ++ [sample]) ∧
      ((DcBlockerState.after before).process sample).1.toInt =
        exactOutput (before ++ [sample]) / 65536

/-! ## The mean -/

/-- The last input, and the mean of those before it: each takes the mean a 1024th of the way. -/
structure Mean where
  input : Int := 0
  level : Int := 0
  deriving DecidableEq, Repr

/-- The mean behind a sample. -/
def Mean.follow (sample : Int16) (m : Mean) : Mean where
  input := sample.toInt * 65536
  level := m.level + (m.input - m.level) / 1024

/-- A sample that is less than half of the range away from the last one and from the mean. -/
def Gentle (sample : Int16) (m : Mean) : Prop :=
  FitsInt32 (sample.toInt * 65536 - m.input) ∧ FitsInt32 (sample.toInt * 65536 - m.level)

instance (sample : Int16) (m : Mean) : Decidable (Gentle sample m) :=
  inferInstanceAs (Decidable (_ ∧ _))

/-- The output is the input less the mean of those before. -/
theorem recur_follow (sample : Int16) (m : Mean) :
    recur sample (m.input, m.input - m.level) =
      ((m.follow sample).input, (m.follow sample).input - (m.follow sample).level) := by
  rw [recur, Mean.follow]
  refine Prod.ext rfl ?_
  dsimp only
  omega

/-! ## One sample -/

theorem toInt_shiftRight_ten (a : Int32) : (a >>> 10).toInt = a.toInt / 1024 := by
  have hbits : (a >>> 10).toBitVec = a.toBitVec.sshiftRight 10 := by
    rw [Int32.toBitVec_shiftRight]
    rfl
  rw [← Int32.toInt_toBitVec, hbits, BitVec.toInt_sshiftRight, Int.shiftRight_eq_div_pow]
  rfl

theorem toInt_shiftRight_sixteen (a : Int32) : (a >>> 16).toInt = a.toInt / 65536 := by
  have hbits : (a >>> 16).toBitVec = a.toBitVec.sshiftRight 16 := by
    rw [Int32.toBitVec_shiftRight]
    rfl
  rw [← Int32.toInt_toBitVec, hbits, BitVec.toInt_sshiftRight, Int.shiftRight_eq_div_pow]
  rfl

theorem toInt_shiftLeft_sixteen (a : Int16) : (a.toInt32 <<< 16).toInt = a.toInt * 65536 := by
  have hlow := a.le_toInt
  have hhigh := a.toInt_lt
  have hbits : (a.toInt32 <<< 16).toBitVec = a.toInt32.toBitVec * 65536#32 := by
    rw [Int32.toBitVec_shiftLeft]
    exact BitVec.shiftLeft_eq_mul_twoPow ..
  rw [← Int32.toInt_toBitVec, hbits, BitVec.toInt_mul, Int32.toInt_toBitVec, Int16.toInt_toInt32]
  exact Int.bmod_eq_of_le (by simp; omega) (by simp; omega)

theorem toInt_sub_of_fits {a b : Int32} (h : FitsInt32 (a.toInt - b.toInt)) :
    (a - b).toInt = a.toInt - b.toInt := by
  rw [Int32.toInt_sub]
  exact Int.bmod_eq_of_le (by simpa using h.1) (by simpa using h.2)

theorem toInt_add_of_fits {a b : Int32} (h : FitsInt32 (a.toInt + b.toInt)) :
    (a + b).toInt = a.toInt + b.toInt := by
  rw [Int32.toInt_add]
  exact Int.bmod_eq_of_le (by simpa using h.1) (by simpa using h.2)

/-- The state is that of the recurrence. -/
structure Tracks (s : DcBlockerState) (m : Mean) : Prop where
  input : s.prevInputQ16.toInt = m.input
  output : s.prevOutputQ16.toInt = m.input - m.level

section

variable {s : DcBlockerState} {m : Mean}

/-- Where the two differences fit, so does the output: the mean moves it towards nothing. -/
theorem Tracks.fits_iff (h : Tracks s m) (sample : Int16) :
    (∀ v ∈ s.intermediates sample, FitsInt32 v) ↔ Gentle sample m := by
  have hlow := sample.le_toInt
  have hhigh := sample.toInt_lt
  have hslow := s.prevOutputQ16.le_toInt
  have hshigh := s.prevOutputQ16.toInt_lt
  simp only [DcBlockerState.intermediates, List.forall_mem_cons, List.not_mem_nil, false_implies,
    implies_true, and_true, h.input]
  rw [h.output] at hslow hshigh ⊢
  simp only [Gentle, FitsInt32]
  omega

/-- A gentle sample is taken exactly. -/
theorem Tracks.process (h : Tracks s m) {sample : Int16} (hgentle : Gentle sample m) :
    Tracks (s.process sample).2 (m.follow sample) ∧
      (s.process sample).1.toInt =
        ((m.follow sample).input - (m.follow sample).level) / 65536 := by
  have hfits := (h.fits_iff sample).mpr hgentle
  simp only [DcBlockerState.intermediates, List.forall_mem_cons, List.not_mem_nil, false_implies,
    implies_true, and_true] at hfits
  obtain ⟨-, hdifference, hsum, houtput⟩ := hfits
  have hinput := toInt_shiftLeft_sixteen sample
  have hshift := toInt_shiftRight_ten s.prevOutputQ16
  rw [← hinput] at hdifference hsum houtput
  rw [← toInt_sub_of_fits hdifference] at hsum houtput
  rw [← toInt_add_of_fits hsum, ← hshift] at houtput
  -- the output of the machine is the one of the recurrence
  have hexact : ((s.process sample).2.prevOutputQ16).toInt =
      (m.follow sample).input - (m.follow sample).level := by
    have hrecur := congrArg Prod.snd (recur_follow sample m)
    dsimp only [recur] at hrecur
    rw [← hrecur, ← h.output, ← h.input, ← hshift, ← hinput]
    rw [← toInt_sub_of_fits hdifference, ← toInt_add_of_fits hsum, ← toInt_sub_of_fits houtput]
    rfl
  refine ⟨⟨hinput, hexact⟩, ?_⟩
  rw [← hexact]
  have hlow := (s.process sample).2.prevOutputQ16.le_toInt
  have hhigh := (s.process sample).2.prevOutputQ16.toInt_lt
  calc (s.process sample).1.toInt
      = ((s.process sample).2.prevOutputQ16.toInt / 65536).bmod (2 ^ 16) := by
        rw [← toInt_shiftRight_sixteen, ← Int32.toInt_toInt16]
        rfl
    _ = (s.process sample).2.prevOutputQ16.toInt / 65536 :=
        Int.bmod_eq_of_le (by simp; omega) (by simp; omega)

end

/-! ## Runs -/

/-- The mean behind some samples. -/
def Mean.after (samples : List Int16) : Mean := EventRun.after Mean.follow {} samples

theorem exactState_eq (m : Mean) (samples : List Int16) :
    EventRun.after recur (m.input, m.input - m.level) samples =
      ((EventRun.after Mean.follow m samples).input,
        (EventRun.after Mean.follow m samples).input -
          (EventRun.after Mean.follow m samples).level) := by
  induction samples generalizing m with
  | nil => rfl
  | cons sample samples ih => rw [EventRun.after_cons, EventRun.after_cons, recur_follow, ih]

theorem exactOutput_eq (samples : List Int16) :
    exactOutput samples = (Mean.after samples).input - (Mean.after samples).level :=
  congrArg Prod.snd (exactState_eq {} samples)

theorem tracks_of_gentle {s : DcBlockerState} {m : Mean} (h : Tracks s m) {samples : List Int16}
    (hgentle : EventRun.Along Mean.follow Gentle m samples) :
    Tracks (EventRun.after (fun sample s => (s.process sample).2) s samples)
      (EventRun.after Mean.follow m samples) := by
  induction samples generalizing s m with
  | nil => exact h
  | cons sample samples ih =>
    rw [EventRun.along_cons] at hgentle
    rw [EventRun.after_cons, EventRun.after_cons]
    exact ih (h.process hgentle.1).1 hgentle.2

theorem tracks_start : Tracks {} {} := ⟨rfl, rfl⟩

/-- The filter is exact on a sequence of samples just where each of them is less than half of the
    range away from the sample before and from the mean of those before. -/
theorem exact_iff (samples : List Int16) :
    Exact samples ↔ EventRun.Along Mean.follow Gentle {} samples := by
  constructor
  · intro h
    rw [EventRun.along_iff_prefix]
    intro before sample hrun
    -- the samples before have been taken exactly
    have htracks : Tracks (DcBlockerState.after before) (Mean.after before) := by
      rcases List.eq_nil_or_concat before with rfl | ⟨init, last, rfl⟩
      · exact tracks_start
      · rw [List.concat_eq_append] at hrun ⊢
        have hlast := (h init last ((List.prefix_append _ _).trans hrun)).2.1
        refine ⟨?_, hlast.trans (exactOutput_eq _)⟩
        rw [DcBlockerState.after, Mean.after, EventRun.after_append, EventRun.after_append]
        exact toInt_shiftLeft_sixteen last
    exact (htracks.fits_iff sample).mp (h before sample hrun).1
  · rintro h before sample ⟨rest, rfl⟩
    rw [EventRun.along_append, EventRun.along_append] at h
    have htracks := tracks_of_gentle tracks_start h.1.1
    obtain ⟨hnext, hgiven⟩ := htracks.process h.1.2.1
    have hafter : DcBlockerState.after (before ++ [sample]) =
        ((DcBlockerState.after before).process sample).2 := by
      rw [DcBlockerState.after, EventRun.after_append]
      rfl
    have hmean : Mean.after (before ++ [sample]) = (Mean.after before).follow sample := by
      rw [Mean.after, EventRun.after_append]
      rfl
    rw [exactOutput_eq, hafter, hmean]
    exact ⟨(htracks.fits_iff sample).mpr h.1.2.1, hnext.output, hgiven⟩

/-- Samples of less than half of the range. -/
def HalfRange (sample : Int16) : Prop := -16384 ≤ sample.toInt ∧ sample.toInt < 16384

theorem gentle_of_halfRange {m : Mean} {samples : List Int16}
    (hhalf : ∀ sample ∈ samples, HalfRange sample)
    (hinput : -1073741824 ≤ m.input ∧ m.input < 1073741824)
    (hlevel : -1073741824 ≤ m.level ∧ m.level < 1073741824) :
    EventRun.Along Mean.follow Gentle m samples := by
  induction samples generalizing m with
  | nil => trivial
  | cons sample samples ih =>
    have hsample := hhalf sample (.head _)
    simp only [HalfRange] at hsample
    refine ⟨?_, ih (fun x hx => hhalf x (.tail _ hx)) ?_ ?_⟩
    · simp only [Gentle, FitsInt32]
      omega
    · dsimp only [Mean.follow]
      omega
    · dsimp only [Mean.follow]
      omega

/-- No sequence of samples of less than half of the range overflows. -/
theorem exact_of_halfRange {samples : List Int16} (hhalf : ∀ sample ∈ samples, HalfRange sample) :
    Exact samples :=
  (exact_iff samples).mpr (gentle_of_halfRange hhalf (by decide) (by decide))

namespace FullScale

/-- From one end of the range to the other. -/
def samples : List Int16 := [-32768, 32767]

/-- The difference does not fit, and what is given out has the wrong sign: the recurrence has the
    upper half 32799. -/
theorem step_turns_the_sign :
    (DcBlockerState.after [-32768]).intermediates 32767 =
        [2147418112, 4294901760, 2147418112, 2149515264] ∧
      exactOutput samples / 65536 = 32799 ∧
      ((DcBlockerState.after [-32768]).process 32767).1 = -32737 ∧ ¬Exact samples := by
  refine ⟨by decide +kernel, by decide +kernel, by decide +kernel, fun h => ?_⟩
  rw [exact_iff] at h
  exact absurd h.2.1 (by decide +kernel)

end FullScale

end EsphomeVoip
