import EsphomeVoip.Transport.Refine.Step

/-! # Runs of the transport

A run starts from a transport that was set up and has heard and done nothing yet.  What every move
keeps, and what the exchange with the second dialog of a transfer keeps, holds in every state of
every run.  The first such thing is said here: what is kept, and what leaves, was formed before. -/

namespace EsphomeVoip

open Wire (Sends Repeats Notified)

/-! ## The start -/

/-- What is configured before the transport runs. -/
structure Setup where
  offerTxFormats : AudioFormatList
  offerRxFormats : AudioFormatList
  sipPort : UInt16
  sipSocketOpen : Bool
  running : Bool
  videoEnabled : Bool
  hasVideoSource : Bool
  hasVideoSession : Bool
  clock : Nat
  deriving DecidableEq, Repr

namespace Transport

/-- The transport that was set up. -/
def boot (c : Setup) : Transport :=
  { offerTxFormats := c.offerTxFormats
    offerRxFormats := c.offerRxFormats
    sipPort := c.sipPort
    sipSocketOpen := c.sipSocketOpen
    running := c.running
    video :=
      { enabled := c.videoEnabled
        hasSource := c.hasVideoSource
        hasSession := c.hasVideoSession }
    clock := c.clock }

/-- The transport after some events. -/
def runFrom (w : World) (c : Setup) (es : List Event) : Transport :=
  EventRun.after (step w) (boot c) es

/-- At every event of the run, the peer's request is answered from what is kept or is in order. -/
def OrderlyRun (w : World) (c : Setup) (es : List Event) : Prop :=
  EventRun.Along (step w) (fun e t => t.OrderlyEvent true e) (boot c) es

end Transport

/-! ## Invariants -/

/-- What every move keeps, and the exchange of the two dialogs of a transfer. -/
structure Preserved (b : Bool) (Inv : Wire → Prop) : Prop where
  move : ∀ s s', Move b s s' → Inv s → Inv s'
  enter : ∀ s, s.scope = false → s.second.isSome = true → Inv s → Inv s.enterScope
  leave : ∀ s, s.scope = true → s.second.isSome = true → Inv s → Inv s.leaveScope

theorem Wire.isSome_swap (s : Wire) : s.swap.second.isSome = s.second.isSome := by
  unfold swap
  split
  · rfl
  · rename_i r hr
    rw [hr]
    rfl

theorem Preserved.acts {o : Mode} {Inv : Wire → Prop} (h : Preserved o.ordered Inv) {s s' : Wire}
    (hact : Acts o s s') (hs : Inv s) : Inv s' := by
  rcases hact with hm | ⟨_, hscope, hsome, s₁, hrun, rfl⟩
  · exact h.move s s' hm hs
  · have hentered : s.enterScope.second.isSome = true := (Wire.isSome_swap s).trans hsome
    have hinside : s₁.scope = true ∧ s₁.second.isSome = true ∧ Inv s₁ := by
      induction hrun with
      | refl => exact ⟨rfl, hentered, h.enter s hscope hsome hs⟩
      | tail _ hmove ih =>
        obtain ⟨hin, hsome', hinv⟩ := ih
        exact ⟨hmove.scope.trans hin, (hmove.keepsTransfer hin).1.trans hsome',
          h.move _ _ hmove hinv⟩
    exact h.leave s₁ hinside.1 hinside.2.1 hinside.2.2

theorem Preserved.evolves {o : Mode} {Inv : Wire → Prop} (h : Preserved o.ordered Inv)
    {t u : Transport} (hrun : Transport.Evolves o t u) (ht : Inv t.wire) : Inv u.wire := by
  have hacts (s s' : Wire) (hrun : Relation.ReflTransGen (Acts o) s s') (hs : Inv s) : Inv s' := by
    induction hrun with
    | refl => exact hs
    | tail _ hact ih => exact h.acts hact ih
  exact hacts t.wire u.wire hrun ht

namespace Transport

/-- Between events the owner is in its place. -/
theorem scope_runFrom (w : World) (c : Setup) (es : List Event) :
    (runFrom w c es).referContextActive = false := by
  have hstep (e : Event) (t : Transport) (ht : t.referContextActive = false) :
      (step w e t).referContextActive = false := (evolves_step w e t ht).scope.trans ht
  exact EventRun.invariant_of_step (step w) hstep rfl es

/-- What is preserved holds in every state of every run in which the peer numbers its requests in
    order. -/
theorem invariant_of_orderly {Inv : Wire → Prop} (h : Preserved true Inv) (w : World) (c : Setup)
    (es : List Event) (hes : OrderlyRun w c es) (hstart : Inv (boot c).wire) :
    Inv (runFrom w c es).wire := by
  have hstep (e : Event) (t : Transport) (hord : t.OrderlyEvent true e)
      (ht : t.referContextActive = false ∧ Inv t.wire) :
      (step w e t).referContextActive = false ∧ Inv (step w e t).wire := by
    have hrun := evolves_orderly_step w e t ht.1 hord
    exact ⟨hrun.scope.trans ht.1, h.evolves hrun ht.2⟩
  exact (EventRun.invariant (step w) hstep hes ⟨rfl, hstart⟩).2

/-- What is preserved holds in every state of every run. -/
theorem invariant_of_preserved {Inv : Wire → Prop} (h : Preserved false Inv) (w : World)
    (c : Setup) (es : List Event) (hstart : Inv (boot c).wire) : Inv (runFrom w c es).wire := by
  have hstep (e : Event) (t : Transport) (ht : t.referContextActive = false ∧ Inv t.wire) :
      (step w e t).referContextActive = false ∧ Inv (step w e t).wire := by
    have hrun := evolves_step w e t ht.1
    exact ⟨hrun.scope.trans ht.1, h.evolves hrun ht.2⟩
  exact (EventRun.invariant_of_step (step w) hstep ⟨rfl, hstart⟩ es).2

end Transport

/-! ## Entries -/

namespace Wire

/-- What is known of an entry that a move adds. -/
def Logs (b : Bool) (s : Wire) : WireEntry → Prop
  | .responded msg .. => msg.isResponse = true
  | .refused msg _ => msg.isResponse = true
  | .tookEffect number before => before = s.own.accepted ∧ s.own.MayTake b number
  | .cancelling provisional => provisional = (s.own.cancelRequested || s.own.heard)
  | _ => True

/-- The log grows by entries of which this is known. -/
def Grows (b : Bool) (s s' : Wire) : Prop := ∃ new, s'.log = new ++ s.log ∧ ∀ e ∈ new, s.Logs b e

variable {b : Bool} {s s' : Wire}

theorem Grows.of_eq (h : s'.log = s.log) : Grows b s s' :=
  ⟨[], h, fun _ he => absurd he List.not_mem_nil⟩

theorem Grows.of_cons (e : WireEntry) (h : s'.log = e :: s.log) (he : s.Logs b e) :
    Grows b s s' := by
  refine ⟨[e], h, fun e' he' => ?_⟩
  rw [List.mem_singleton.1 he']
  exact he

theorem Grows.of_pair (e f : WireEntry) (h : s'.log = f :: e :: s.log) (he : s.Logs b e)
    (hf : s.Logs b f) : Grows b s s' := by
  refine ⟨[f, e], h, fun e' he' => ?_⟩
  rcases List.mem_cons.1 he' with rfl | he'
  · exact hf
  · rw [List.mem_singleton.1 he']
    exact he

theorem Sends.grows {msg : SipMessage} (h : Sends msg s s') : Grows b s s' := by
  cases h with
  | lost => exact .of_eq rfl
  | sent flow => exact .of_cons _ rfl trivial
  | queued _ => exact .of_cons _ rfl trivial

theorem Repeats.grows {msg : SipMessage} {recorded path : Flow}
    (h : Repeats msg recorded path s s') : Grows b s s' := by
  cases h with
  | lost => exact .of_eq rfl
  | sent => exact .of_pair _ _ rfl trivial trivial
  | queued _ => exact .of_pair _ _ rfl trivial trivial

theorem Notified.grows {final : Bool} {body : String} (h : Notified final body s s') :
    Grows b s s' := by
  have hsent {msg : SipMessage} {u : Wire} (h : Sends msg (s.enter (.requested msg)) u) :
      Grows b s u := by
    cases h with
    | lost => exact .of_cons _ rfl trivial
    | sent flow => exact .of_pair _ _ rfl trivial trivial
    | queued _ => exact .of_pair _ _ rfl trivial trivial
  cases h with
  | none => exact .of_eq rfl
  | sent msg _ _ _ _ h => exact hsent h
  | kept msg _ _ _ _ h slot _ =>
    unfold Grows
    rw [log_setPending]
    exact hsent h

end Wire

theorem isResponse_of_status {msg : SipMessage} (h : 200 ≤ msg.status) : msg.isResponse = true := by
  unfold SipMessage.status at h
  unfold SipMessage.isResponse
  split at h
  · omega
  · rfl

theorem Move.grows {b : Bool} {s s' : Wire} (h : Move b s s') : Wire.Grows b s s' := by
  cases h with
  | send msg hmsg h => exact h.grows
  | sendAgain msg recorded path hmsg h => exact h.grows
  | pend _ slot msg h => exact .of_eq (Wire.log_setPending slot _ s)
  | unpend _ slot => exact .of_eq (Wire.log_setPending slot _ s)
  | startCancel => exact .of_cons _ rfl rfl
  | respondFinal _ msg record h => exact .of_cons _ rfl (isResponse_of_status h.status)
  | respondProvisional _ msg hresponse hstatus hcall hcseq => exact .of_cons _ rfl hresponse
  | refuse _ msg evicts hresponse => exact .of_cons _ rfl hresponse
  | refuseControl _ msg evicts hresponse => exact .of_cons _ rfl hresponse
  | refuseInvite _ msg c hresponse hc hkeeps => exact .of_cons _ rfl hresponse
  | accept _ number h => exact .of_cons _ rfl ⟨rfl, h⟩
  | cross _ number h => exact .of_cons _ rfl ⟨rfl, h⟩
  | inform body h => exact h.grows
  | fail body hscope hsecond hretiring h => exact h.grows
  | commit hscope hsecond hretiring h =>
    obtain ⟨new, hlog, hnew⟩ := h.grows (b := b)
    refine ⟨.committed :: new, ?_, fun e he => ?_⟩
    · rw [List.cons_append, ← hlog]
      exact congrArg (WireEntry.committed :: ·) (Wire.log_swap _)
    · rcases List.mem_cons.1 he with rfl | he
      · trivial
      · exact hnew e he
  | acknowledge _ c m src time tcp hc hm h =>
    cases decide (c.status < 300) && s.own.deferred
    · exact .of_eq rfl
    · exact .of_cons _ rfl trivial
  | expireAck _ c last hc h =>
    cases last && s.own.deferred
    · exact .of_eq rfl
    · exact .of_cons _ rfl trivial
  | invited _ m clash h => exact .of_pair _ _ rfl trivial trivial
  | reinviteFailed _ m msg record h hloses =>
    exact .of_pair _ _ rfl trivial (isResponse_of_status h.status)
  | _ => first | exact .of_eq rfl | exact .of_cons _ rfl trivial

/-- A condition that every new entry meets keeps holding of the whole log. -/
theorem Wire.Grows.always {b : Bool} {s s' : Wire} (h : Grows b s s')
    {P : WireEntry → List WireEntry → Prop} (hP : ∀ e, s.Logs b e → ∀ before, P e before)
    (hs : History.Always P s.log) : History.Always P s'.log := by
  obtain ⟨new, hlog, hnew⟩ := h
  rw [hlog]
  exact hs.append fun e he => hP e (hnew e he)

/-! ## What is kept was formed -/

variable {s s' : Wire} {b : Bool} {msg x : SipMessage}

theorem Line.mem_kept {l : Line} : msg ∈ l.kept ↔ l.response = some msg ∨ l.invite = some msg ∨
    l.cancel = some msg ∨ l.bye = some msg ∨ l.update = some msg ∨ l.queued = some msg ∨
    (∃ c, l.record = some c ∧ c.response = msg) ∨ l.control = some msg ∨ l.ack = some msg := by
  unfold kept
  simp only [List.mem_append, Option.mem_toList, Option.map_eq_some_iff, or_assoc]

theorem Second.mem_kept {r : Second} :
    msg ∈ r.kept ↔ msg ∈ r.line.kept ∨ r.acceptedRefer = some msg ∨
    r.notify = some msg ∨ r.notifyFinal = some msg := by
  unfold kept
  simp only [List.mem_append, Option.mem_toList, or_assoc]

theorem Wire.mem_kept : msg ∈ s.kept ↔ msg ∈ s.own.kept ∨ (∃ r, s.second = some r ∧ msg ∈ r.kept) ∨
    s.provisional = some msg ∨ s.direction = some msg ∨ s.directionAck = some msg ∨
    msg ∈ s.retired := by
  have hsecond : msg ∈ s.second.elim [] Second.kept ↔ ∃ r, s.second = some r ∧ msg ∈ r.kept := by
    cases s.second with
    | none => simp
    | some r => simp
  unfold kept
  simp only [List.mem_append, Option.mem_toList, or_assoc, hsecond]

theorem Wire.mem_kept_swap : msg ∈ s.swap.kept ↔ msg ∈ s.kept := by
  unfold swap
  cases hs : s.second with
  | none => rfl
  | some r => grind [Wire.mem_kept, Second.mem_kept]

theorem Wire.Sends.kept (h : Sends x s s') (hm : msg ∈ s'.kept) : msg ∈ s.kept ∨ msg = x := by
  cases h <;> grind [Wire.mem_kept, Line.mem_kept, Wire.enter]

theorem Wire.Repeats.kept {f g : Flow} (h : Repeats x f g s s')
    (hm : msg ∈ s'.kept) : msg ∈ s.kept ∨ msg = x := by
  cases h <;> grind [Wire.mem_kept, Line.mem_kept, Wire.enter]

theorem Wire.kept_setPending {slot : Transport.ClientSlot} {x : Option SipMessage}
    (hm : msg ∈ (s.setPending slot x).kept) : msg ∈ s.kept ∨ x = some msg := by
  cases slot <;> simp only [Wire.setPending, Wire.mem_kept, Line.mem_kept] at hm ⊢
  case notify => cases hs : s.second <;> grind [Wire.mem_kept, Second.mem_kept, Line.mem_kept]
  case notifyFinal => cases hs : s.second <;> grind [Wire.mem_kept, Second.mem_kept, Line.mem_kept]
  all_goals grind

theorem made_mono (h : Move b s s') (hm : msg ∈ made s.log) : msg ∈ made s'.log := by
  unfold made at hm ⊢
  obtain ⟨l, hl⟩ := h.log
  rw [← hl, List.filterMap_append]
  exact List.mem_append_right _ hm

theorem mem_made_cons {e : WireEntry} {l : List WireEntry} :
    msg ∈ made (e :: l) ↔ e.made = some msg ∨ msg ∈ made l := by
  unfold made
  rw [List.filterMap_cons]
  cases he : e.made with
  | none => simp
  | some x => simp [eq_comm]

theorem Wire.Sends.made (h : Sends x s s') : EsphomeVoip.made s'.log = EsphomeVoip.made s.log := by
  cases h <;> rfl

theorem Wire.Notified.keeps {final : Bool} {body : String} (h : Notified final body s s')
    (hm : msg ∈ s'.kept) : msg ∈ s.kept ∨ msg ∈ EsphomeVoip.made s'.log := by
  have hsent {x : SipMessage} {u : Wire} (h : Sends x (s.enter (.requested x)) u)
      (hm : msg ∈ u.kept) : msg ∈ s.kept ∨ msg ∈ EsphomeVoip.made u.log := by
    refine (h.kept hm).imp_right ?_
    rintro rfl
    rw [h.made]
    exact mem_made_cons.2 (.inl rfl)
  cases h with
  | none => exact .inl hm
  | sent x _ _ _ _ h => exact hsent h hm
  | kept x _ _ _ _ h slot hslot =>
    rw [Wire.log_setPending]
    rcases Wire.kept_setPending hm with hold | hx
    · exact hsent h hold
    · cases hx
      rw [h.made]
      exact .inr (mem_made_cons.2 (.inl rfl))

theorem Move.kept (h : Move b s s') (hm : msg ∈ s'.kept) : msg ∈ s.kept ∨ msg ∈ made s'.log := by
  have hmono (x : SipMessage) (hx : x ∈ made s.log) : x ∈ made s'.log := made_mono h hx
  -- Only the moves that form a message or take one in can add to what is kept.
  cases h with
  | send x hx hs => grind [Wire.Holds, Wire.Sends.kept]
  | sendAgain x f g hx hs => grind [Wire.Repeats.kept]
  | pend _ slot x h => grind [Wire.kept_setPending]
  | unpend _ slot => grind [Wire.kept_setPending]
  | inform body h => exact h.keeps hm
  | fail body _ _ _ h => exact h.keeps hm
  | commit _ _ _ h =>
    have hm' := Wire.mem_kept_swap.1 hm
    refine (h.keeps hm').imp_right fun hx => ?_
    rw [← Wire.log_swap] at hx
    exact mem_made_cons.2 (.inr hx)
  | release _ r _ hs => grind [Wire.mem_kept, Wire.enter]
  | begin _ _ hs =>
    simp only [Wire.mem_kept, Line.mem_kept, Wire.enter, Second.mem_kept] at hm ⊢
    grind
  | retire _ l h => grind [Wire.mem_kept, Wire.Holds]
  | sendSecond _ r x c hs hx =>
    simp only [Wire.mem_kept, Line.mem_kept, Wire.enter, Second.mem_kept] at hm ⊢
    grind
  | dequeueSecond _ =>
    simp only [Wire.mem_kept, Line.mem_kept, Second.mem_kept, Option.map_eq_some_iff] at hm ⊢
    grind
  | dropAcceptedRefer _ =>
    simp only [Wire.mem_kept, Line.mem_kept, Second.mem_kept, Option.map_eq_some_iff] at hm ⊢
    grind
  | respondFinal _ x record h =>
    have hrecord : record = s.own.record ∨ ∃ c, record = some c ∧ c.response = x := by
      have hkept := h.kept
      split at hkept
      · exact .inl hkept
      · obtain ⟨c, hc, hx⟩ := hkept
        exact .inr ⟨c, hc, hx.2.2.2.2.1⟩
    simp only [Wire.mem_kept, Line.mem_kept, Wire.answered, Wire.enter, mem_made_cons,
      WireEntry.made] at hm ⊢
    grind
  | reinviteFailed _ m x record h =>
    refine .inl ?_
    simp only [Wire.mem_kept, Wire.answered, Wire.reinvitedBy, Wire.enter] at hm ⊢
    grind
  | refuseInvite _ x c h1 h2 h3 =>
    simp only [Wire.mem_kept, Line.mem_kept, Wire.enter, mem_made_cons, WireEntry.made] at hm ⊢
    grind
  | _ =>
    simp only [Wire.mem_kept, Line.mem_kept, Wire.enter, Wire.reset, Line.reset, Wire.answered,
      Wire.reinvitedBy, mem_made_cons, WireEntry.made] at hm ⊢
    grind

/-- The message that an entry says left, or waits to leave. -/
def WireEntry.carried : WireEntry → Option SipMessage
  | .sent msg .. => some msg
  | .queued msg => some msg
  | _ => none

/-- What left was formed before. -/
def WasMade (e : WireEntry) (before : List WireEntry) : Prop :=
  ∀ msg, e.carried = some msg → msg ∈ made before

theorem wasMade_of_none {e : WireEntry} {l : List WireEntry} (h : e.carried = none) :
    WasMade e l := by
  intro msg hm
  rw [h] at hm
  cases hm

/-- Everything that is kept, and everything that left, was formed before. -/
def Wire.Sound (s : Wire) : Prop := (∀ msg ∈ s.kept, msg ∈ made s.log) ∧
    History.Always WasMade s.log

theorem Wire.Sends.wasMade (h : Sends x s s') (hx : x ∈ EsphomeVoip.made s.log)
    (hs : History.Always WasMade s.log) : History.Always WasMade s'.log := by
  cases h with
  | lost => exact hs
  | _ =>
    refine ⟨fun msg hm => ?_, hs⟩
    cases hm
    exact hx

theorem Wire.Repeats.wasMade {f g : Flow} (h : Repeats x f g s s') (hx : x ∈ EsphomeVoip.made s.log)
    (hs : History.Always WasMade s.log) : History.Always WasMade s'.log := by
  cases h with
  | lost => exact hs
  | _ =>
    refine ⟨wasMade_of_none rfl, fun msg hm => ?_, hs⟩
    cases hm
    exact hx

theorem Wire.Notified.wasMade {final : Bool} {body : String} (h : Notified final body s s')
    (hs : History.Always WasMade s.log) : History.Always WasMade s'.log := by
  have hsent {x : SipMessage} {u : Wire} (h : Sends x (s.enter (.requested x)) u) :
      History.Always WasMade u.log :=
    h.wasMade (mem_made_cons.2 (.inl rfl)) ⟨wasMade_of_none rfl, hs⟩
  cases h with
  | none => exact hs
  | sent x _ _ _ _ h => exact hsent h
  | kept x _ _ _ _ h slot hslot =>
    rw [Wire.log_setPending]
    exact hsent h

theorem Move.sound (h : Move b s s') (hs : s.Sound) : s'.Sound := by
  obtain ⟨hkept, hlog⟩ := hs
  refine ⟨fun msg hm => (h.kept hm).elim (fun hold => made_mono h (hkept msg hold)) id, ?_⟩
  cases h with
  | send x hx hs => exact hs.wasMade (hx.elim (hkept x) id) hlog
  | sendAgain x f g hx hs => exact hs.wasMade (hkept x hx) hlog
  | pend _ slot x h => exact (Wire.log_setPending slot _ s).symm ▸ hlog
  | unpend _ slot => exact (Wire.log_setPending slot _ s).symm ▸ hlog
  | inform body h => exact h.wasMade hlog
  | fail body _ _ _ h => exact h.wasMade hlog
  | commit _ _ _ h =>
    refine ⟨wasMade_of_none rfl, ?_⟩
    rw [Wire.log_swap]
    exact h.wasMade hlog
  | acknowledge _ c m src time tcp hc hm h =>
    dsimp only
    split
    · exact ⟨wasMade_of_none rfl, hlog⟩
    · exact hlog
  | expireAck _ c last hc h =>
    dsimp only
    split
    · exact ⟨wasMade_of_none rfl, hlog⟩
    · exact hlog
  | invited _ m clash h => exact ⟨wasMade_of_none rfl, wasMade_of_none rfl, hlog⟩
  | reinviteFailed _ m msg record h hloses => exact ⟨wasMade_of_none rfl, wasMade_of_none rfl, hlog⟩
  | sendSecond _ r x c hs hx =>
    refine ⟨fun msg hm => ?_, hlog⟩
    cases hm
    refine hkept x (Wire.mem_kept.2 (.inr (.inl ⟨r, hs, Second.mem_kept.2 (.inl ?_)⟩)))
    exact Line.mem_kept.2 (.inr (.inr (.inr (.inr (.inr (.inl hx))))))
  | _ => first | exact hlog | exact ⟨wasMade_of_none rfl, hlog⟩

theorem Wire.sound_swap (h : s.Sound) : s.swap.Sound := by
  obtain ⟨hkept, hlog⟩ := h
  unfold Sound
  rw [log_swap]
  exact ⟨fun msg hm => hkept msg (mem_kept_swap.1 hm), hlog⟩

/-- The scope is no message. -/
theorem Wire.sound_scope (scope : Bool) (epoch : UInt32) (h : s.Sound) :
    { s with scope := scope, epoch := epoch }.Sound := by
  cases s
  exact h

theorem Wire.sound_enterScope (h : s.Sound) : s.enterScope.Sound :=
  sound_scope true _ (sound_swap h)

theorem Wire.sound_leaveScope (h : s.Sound) : s.leaveScope.Sound :=
  sound_scope false _ (sound_swap h)

theorem sound_preserved (b : Bool) : Preserved b Wire.Sound :=
  ⟨fun _ _ hmove hs => hmove.sound hs, fun _ _ _ hs => Wire.sound_enterScope hs,
    fun _ _ _ hs => Wire.sound_leaveScope hs⟩

namespace Transport

theorem kept_boot (c : Setup) : (boot c).wire.kept = [] := rfl

/-- In every state of every run, what is kept and what left was formed before. -/
theorem sound_runFrom (w : World) (c : Setup) (es : List Event) : (runFrom w c es).wire.Sound := by
  refine invariant_of_preserved (sound_preserved false) w c es ⟨fun msg hm => ?_, trivial⟩
  rw [kept_boot] at hm
  cases hm

end Transport

/-! ## Proposals -/

/-- No media proposal is open, but for the scope of a transfer, which is one itself. -/
def Wire.Settled (s : Wire) : Prop := s.epoch % 2 = if s.scope then 1 else 0

theorem Wire.epoch_setPending (slot : Transport.ClientSlot) (x : Option SipMessage) (s : Wire) :
    (s.setPending slot x).epoch = s.epoch := by
  cases slot <;> rfl

theorem Wire.Notified.epoch {final : Bool} {body : String} {s s' : Wire}
    (h : Notified final body s s') : s'.epoch = s.epoch := by
  have hsent {msg : SipMessage} {u v : Wire} (h : Sends msg u v) : v.epoch = u.epoch := by
    obtain ⟨queued, log, rfl⟩ := h.shape
    rfl
  cases h with
  | none => rfl
  | sent msg referCseq hmethod hfinal hbody h => exact (hsent h).trans rfl
  | kept msg referCseq hmethod hfinal hbody h slot hslot =>
    rw [epoch_setPending]
    exact (hsent h).trans rfl

/-- A move weighs a whole proposal or none. -/
theorem Move.epoch {b : Bool} {s s' : Wire} (h : Move b s s') :
    s'.epoch = s.epoch ∨ s'.epoch = s.epoch + 2 := by
  cases h with
  | send msg hmsg h =>
    obtain ⟨queued, log, rfl⟩ := h.shape
    exact .inl rfl
  | sendAgain msg recorded path hmsg h =>
    obtain ⟨queued, log, _, rfl⟩ := h.shape
    exact .inl rfl
  | pend _ slot msg h => exact .inl (Wire.epoch_setPending slot _ s)
  | unpend _ slot => exact .inl (Wire.epoch_setPending slot _ s)
  | inform body h => exact .inl h.epoch
  | fail body hscope hsecond hretiring h => exact .inl h.epoch
  | commit hscope hsecond hretiring h => exact .inr (congrArg (· + 2) h.epoch)
  | weigh => exact .inr rfl
  | _ => exact .inl rfl

theorem Move.settled {b : Bool} {s s' : Wire} (h : Move b s s') (hs : s.Settled) : s'.Settled := by
  unfold Wire.Settled at hs ⊢
  rw [h.scope, ← hs]
  rcases h.epoch with he | he
  · rw [he]
  · rw [he]
    have h2 : (2 : UInt32).toNat = 2 := rfl
    apply UInt32.toNat_inj.1
    rw [UInt32.toNat_mod, UInt32.toNat_mod, UInt32.toNat_add, h2]
    omega

/-- The scope opens a proposal, and its end closes it. -/
theorem Wire.settled_succ {s : Wire} {scope : Bool} (h : s.Settled) (hscope : s.scope = !scope) :
    { s.swap with scope := scope, epoch := s.epoch + 1 }.Settled := by
  unfold Settled at h ⊢
  have h1 : (1 : UInt32).toNat = 1 := rfl
  have h2 : (2 : UInt32).toNat = 2 := rfl
  have hnat : s.epoch.toNat % 2 = if s.scope then 1 else 0 := by
    have := congrArg UInt32.toNat h
    rw [UInt32.toNat_mod, h2] at this
    rw [this]
    split <;> rfl
  rw [hscope] at hnat
  apply UInt32.toNat_inj.1
  rw [UInt32.toNat_mod, UInt32.toNat_add, h1, h2]
  cases scope
  · simp at hnat ⊢
    omega
  · simp at hnat ⊢
    omega

theorem settled_preserved (b : Bool) : Preserved b Wire.Settled :=
  ⟨fun _ _ hmove hs => hmove.settled hs, fun _ hscope _ hs => Wire.settled_succ hs hscope,
    fun _ hscope _ hs => Wire.settled_succ hs hscope⟩

namespace Transport

/-- Between events the epoch is even. -/
theorem even_epoch_runFrom (w : World) (c : Setup) (es : List Event) :
    (runFrom w c es).mediaProposalEpoch % 2 = 0 := by
  have h := invariant_of_preserved (settled_preserved false) w c es rfl
  have hscope : (runFrom w c es).wire.scope = false := scope_runFrom w c es
  unfold Wire.Settled at h
  rw [hscope] at h
  exact h

/-! ## Concrete runs -/

/-- A transport without video. -/
def plainSetup : Setup :=
  { offerTxFormats := [defaultAudioFormat]
    offerRxFormats := [defaultAudioFormat]
    sipPort := 5060
    sipSocketOpen := true
    running := true
    videoEnabled := false
    hasVideoSource := false
    hasVideoSession := false
    clock := 1000 }

/-- A request of Hall within its call. -/
def requestFromHall (method : Method) (number : UInt32) (branch : String) : SipMessage :=
  { inviteFromHall "call" branch number "" with
    start := .request method { user := "kitchen" }
    toAddr := some { uri := { user := "kitchen" }, tag := "tag1" }
    cseq := some { number := number, method := method } }

/-- A call from Hall is answered and confirmed. -/
def answeredCall : List Event :=
  [.udp (inviteFromHall "call" "z9hG4bKa" 1 "sdp") hall,
    .command (.sendAnswer "call" defaultAudioFormat defaultAudioFormat),
    .udp (requestFromHall .ack 1 "z9hG4bKb") hall]

/-- Where Attic is. -/
def attic : Peer := { ip := 3, port := 5060 }

/-- Hall asks to be connected with Attic. -/
def referFromHall (tcp : Bool) : SipMessage :=
  { requestFromHall .refer 2 "z9hG4bKc" with
    referTo :=
      { uri := { user := "attic", target := some (attic.ip, attic.port) }
        supported := true
        tcp := tcp } }

/-- Attic answers the INVITE of the transfer. -/
def responseFromAttic (status : Nat) (phrase : String) : SipMessage :=
  { start := .response status phrase
    via := [{ branch := some "z9hG4bK1" }]
    fromAddr := some { uri := { user := "kitchen" }, tag := "tag1" }
    toAddr := some { uri := { user := "attic" }, tag := "attic" }
    callId := "refer-1"
    cseq := some { number := 1, method := .invite }
    contentType := "application/sdp"
    body := "sdp" }

end Transport

end EsphomeVoip
