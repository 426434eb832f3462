/-! # Runs of event-driven machines

A machine is a total step function from events to state changes.  `EventRun.after` is the state
after a list of events, `EventRun.Along` says that every event of a run meets a condition at the
state in which it happens, and the rules below lift one-step facts to runs. -/

namespace EventRun

universe u v

variable {σ : Type u} {ε : Type v} (step : ε → σ → σ)

/-- The state after the events `es`, oldest first. -/
def after (s : σ) (es : List ε) : σ := es.foldl (fun s e => step e s) s

/-- Every event of the run meets `ok` at the state in which it happens. -/
def Along (ok : ε → σ → Prop) : σ → List ε → Prop
  | _, [] => True
  | s, e :: es => ok e s ∧ Along ok (step e s) es

instance decidableAlong {ok : ε → σ → Prop} [∀ e s, Decidable (ok e s)] :
    ∀ s es, Decidable (Along step ok s es)
  | _, [] => .isTrue trivial
  | s, e :: es =>
    @instDecidableAnd (ok e s) (Along step ok (step e s) es) _ (decidableAlong (step e s) es)

@[simp] theorem after_nil (s : σ) : after step s [] = s := rfl

@[simp] theorem after_cons (s : σ) (e : ε) (es : List ε) :
    after step s (e :: es) = after step (step e s) es := rfl

theorem after_append (s : σ) (es fs : List ε) :
    after step s (es ++ fs) = after step (after step s es) fs :=
  List.foldl_append

@[simp] theorem along_nil (ok : ε → σ → Prop) (s : σ) : Along step ok s [] := trivial

@[simp] theorem along_cons (ok : ε → σ → Prop) (s : σ) (e : ε) (es : List ε) :
    Along step ok s (e :: es) ↔ ok e s ∧ Along step ok (step e s) es := Iff.rfl

theorem along_append (ok : ε → σ → Prop) (s : σ) (es fs : List ε) :
    Along step ok s (es ++ fs) ↔ Along step ok s es ∧ Along step ok (after step s es) fs := by
  induction es generalizing s with
  | nil => simp
  | cons e es ih => simp [ih, and_assoc]

theorem along_of_forall {ok : ε → σ → Prop} (h : ∀ e s, ok e s) (s : σ) (es : List ε) :
    Along step ok s es := by
  induction es generalizing s with
  | nil => trivial
  | cons e es ih => exact ⟨h e s, ih _⟩

/-- The condition along a run, event by event. -/
theorem along_iff_prefix {ok : ε → σ → Prop} {s : σ} {es : List ε} :
    Along step ok s es ↔ ∀ before e, before ++ [e] <+: es → ok e (after step s before) := by
  constructor
  · rintro h before e ⟨rest, rfl⟩
    rw [along_append, along_append] at h
    exact h.1.2.1
  · intro h
    induction es generalizing s with
    | nil => trivial
    | cons e es ih =>
      refine ⟨h [] e ⟨es, rfl⟩, ih fun before f hrun => ?_⟩
      exact h (e :: before) f ((List.prefix_cons_inj e).mpr hrun)

/-- A property that every permitted step keeps holds at the end of a permitted run. -/
theorem invariant {ok : ε → σ → Prop} {Inv : σ → Prop}
    (hstep : ∀ e s, ok e s → Inv s → Inv (step e s)) {s : σ} {es : List ε}
    (hes : Along step ok s es) (hs : Inv s) : Inv (after step s es) := by
  induction es generalizing s with
  | nil => exact hs
  | cons e es ih => exact ih hes.2 (hstep e s hes.1 hs)

/-- A property that every step keeps holds at the end of every run. -/
theorem invariant_of_step {Inv : σ → Prop} (hstep : ∀ e s, Inv s → Inv (step e s)) {s : σ}
    (hs : Inv s) (es : List ε) : Inv (after step s es) := by
  have hes : Along step (fun _ _ => True) s es := along_of_forall step (fun _ _ => trivial) s es
  exact invariant step (fun e s _ => hstep e s) hes hs

/-- A property of the state and of the events that led to it, kept by every step, holds at the end
    of every run. -/
theorem invariant_of_past {Inv : List ε → σ → Prop} {s : σ} (hs : Inv [] s)
    (hstep : ∀ past e s, Inv past s → Inv (past ++ [e]) (step e s)) (es : List ε) :
    Inv es (after step s es) := by
  have hgen : ∀ past s, Inv past s → Inv (past ++ es) (after step s es) := by
    induction es with
    | nil =>
      intro past s h
      rw [List.append_nil]
      exact h
    | cons e es ih =>
      intro past s h
      have hnext := ih (past ++ [e]) (step e s) (hstep past e s h)
      rw [List.append_assoc] at hnext
      exact hnext
  exact hgen [] s hs

end EventRun
