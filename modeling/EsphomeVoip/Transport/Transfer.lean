import EsphomeVoip.Transport.Run

/-! # The outcome of a transfer

An accepted REFER ends once: with the NOTIFY that ends its subscription, and with the second dialog
becoming the owner if that NOTIFY says so.  As long as it is open, nothing was decided since it was
accepted; every function that decides checks that it is open, and leaves it retiring. -/

namespace EsphomeVoip

open History (Always since)
open Wire (Sends Repeats Notified)

/-! ## Decisions -/

/-- The NOTIFY that ends the subscription of a REFER. -/
def SipMessage.endsSubscription (m : SipMessage) : Bool :=
  m.method == .notify && m.subscription.elim false Subscription.terminated

namespace WireEntry

/-- A REFER was accepted. -/
def begins : WireEntry → Bool
  | .transferBegun => true
  | _ => false

/-- The last NOTIFY of a transfer was formed. -/
def concludes : WireEntry → Bool
  | .requested msg => msg.endsSubscription
  | _ => false

/-- The second dialog became the owner. -/
def commits : WireEntry → Bool
  | .committed => true
  | _ => false

/-- The entry tells nothing about a transfer. -/
def quiet (e : WireEntry) : Bool := !e.begins && !e.concludes && !e.commits

end WireEntry

/-- The last NOTIFY of a transfer that succeeded. -/
def successBody : String := "SIP/2.0 200 OK\r\n"

/-- The entry decides nothing, or nothing was decided since the last REFER. A success that was
    announced may then take effect. -/
structure Decides (e : WireEntry) (before : List WireEntry) : Prop where
  notify : e.concludes = true → .transferBegun ∈ before ∧
    ∀ e' ∈ since WireEntry.begins before, e'.concludes = false ∧ e'.commits = false
  commit : e.commits = true → .transferBegun ∈ before ∧
    ∀ e' ∈ since WireEntry.begins before, e'.commits = false ∧
      ∀ msg, e' = .requested msg → msg.endsSubscription = true → msg.body = successBody

theorem decides_of_quiet {e : WireEntry} (h : e.quiet = true) (before : List WireEntry) :
    Decides e before := by
  simp only [WireEntry.quiet, Bool.and_eq_true, Bool.not_eq_true'] at h
  obtain ⟨⟨_, hconcludes⟩, hcommits⟩ := h
  constructor
  · intro hc
    rw [hconcludes] at hc
    cases hc
  · intro hc
    rw [hcommits] at hc
    cases hc

/-! ## Open transfers -/

namespace Wire

/-- A transfer is in progress and its outcome is open. -/
def Pending (s : Wire) : Prop := s.second.isSome = true ∧ s.retiring = false

/-- Nothing was decided about an open transfer, and every decision was the first one. -/
structure OneOutcome (s : Wire) : Prop where
  decided : Always Decides s.log
  pending : s.Pending → .transferBegun ∈ s.log ∧
    ∀ e ∈ since WireEntry.begins s.log, e.concludes = false ∧ e.commits = false

/-- What leaves transfers alone: it may be given up. -/
structure Calm (s s' : Wire) : Prop where
  log : ∃ new, s'.log = new ++ s.log ∧ ∀ e ∈ new, e.quiet = true
  pending : s'.Pending → s.Pending

variable {s s' u : Wire}

theorem Calm.of_log (hlog : s'.log = s.log) (hpending : s'.Pending → s.Pending) : Calm s s' :=
  ⟨⟨[], hlog, fun _ he => absurd he List.not_mem_nil⟩, hpending⟩

theorem Calm.of_enter (e : WireEntry) (hlog : s'.log = e :: s.log) (he : e.quiet = true)
    (hpending : s'.Pending → s.Pending) : Calm s s' := by
  refine ⟨⟨[e], hlog, fun e' he' => ?_⟩, hpending⟩
  rw [List.mem_singleton.1 he']
  exact he

theorem Calm.trans (h : Calm s s') (h' : Calm s' u) : Calm s u := by
  obtain ⟨new, hlog, hnew⟩ := h.log
  obtain ⟨new', hlog', hnew'⟩ := h'.log
  refine ⟨⟨new' ++ new, by rw [hlog', hlog, List.append_assoc], fun e he => ?_⟩, fun hp => ?_⟩
  · exact (List.mem_append.1 he).elim (hnew' e) (hnew e)
  · exact h.pending (h'.pending hp)

theorem Sends.calm {msg : SipMessage} (h : Sends msg s s') : Calm s s' := by
  cases h with
  | lost => exact .of_log rfl id
  | sent flow => exact .of_enter (.sent msg flow s.clock) rfl rfl id
  | queued _ => exact .of_enter (.queued msg) rfl rfl id

theorem Repeats.calm {msg : SipMessage} {recorded path : Flow}
    (h : Repeats msg recorded path s s') :
    Calm s s' := by
  cases h with
  | lost => exact .of_log rfl id
  | sent =>
    have hsent : Calm s (s.enter (.sent msg path s.clock)) := .of_enter _ rfl rfl id
    exact hsent.trans (.of_enter (.repeated recorded path) rfl rfl id)
  | queued _ =>
    have hqueued : Calm s (s.enter (.queued msg)) := .of_enter _ rfl rfl id
    exact hqueued.trans (.of_enter (.repeated recorded path) rfl rfl id)

theorem calm_setPending (slot : Transport.ClientSlot) (x : Option SipMessage) (s : Wire) :
    Calm s (s.setPending slot x) := by
  refine .of_log (log_setPending slot x s) fun hp => ?_
  rw [Pending, isSome_setPending, retiring_setPending] at hp
  exact hp

/-- At most one message is formed, a NOTIFY with this state and this body. -/
def Notice (final : Bool) (body : String) (new : List WireEntry) : Prop :=
  (∀ e ∈ new, e.quiet = true) ∨ ∃ sends msg, new = sends ++ [.requested msg] ∧
    (∀ e ∈ sends, e.quiet = true) ∧ msg.endsSubscription = final ∧ msg.body = body

theorem Notified.notice {final : Bool} {body : String} (h : Notified final body s s') :
    ∃ new, s'.log = new ++ s.log ∧ Notice final body new := by
  have hsent {msg : SipMessage} {referCseq : UInt32} {u : Wire} (hmethod : msg.method = .notify)
      (hfinal : msg.subscription = some { referCseq := referCseq, terminated := final })
      (hbody : msg.body = body) (h : Sends msg (s.enter (.requested msg)) u) :
      ∃ new, u.log = new ++ s.log ∧ Notice final body new := by
    obtain ⟨sends, hlog, hquiet⟩ := h.calm.log
    refine ⟨sends ++ [.requested msg], ?_, .inr ⟨sends, msg, rfl, hquiet, ?_, hbody⟩⟩
    · rw [hlog, List.append_assoc]
      rfl
    · rw [SipMessage.endsSubscription, hmethod, hfinal]
      rfl
  cases h with
  | none => exact ⟨[], rfl, .inl fun _ he => absurd he List.not_mem_nil⟩
  | sent msg referCseq hmethod hfinal hbody h => exact hsent hmethod hfinal hbody h
  | kept msg referCseq hmethod hfinal hbody h slot hslot =>
    rw [log_setPending]
    exact hsent hmethod hfinal hbody h

/-- A NOTIFY that leaves the subscription open decides nothing. -/
theorem Notified.calm {body : String} (h : Notified false body s s') : Calm s s' := by
  refine ⟨?_, fun hp => ?_⟩
  · obtain ⟨new, hlog, hquiet | ⟨sends, msg, rfl, hsends, hopen, _⟩⟩ := h.notice
    · exact ⟨new, hlog, hquiet⟩
    · refine ⟨_, hlog, fun e he => ?_⟩
      rcases List.mem_append.1 he with he | he
      · exact hsends e he
      · rw [List.mem_singleton.1 he]
        simp only [WireEntry.quiet, WireEntry.begins, WireEntry.concludes, WireEntry.commits, hopen]
        rfl
  · rw [Pending, h.isSome_second, h.retiring] at hp
    exact hp

end Wire

/-! ## Moves -/

variable {b : Bool} {s s' : Wire}

/-- What a move can do to transfers. -/
inductive Outcome (s s' : Wire) : Prop where
  | calm (h : Wire.Calm s s')
  | begun (h : s'.log = .transferBegun :: s.log)
  | failed (body : String) (new : List WireEntry) (hpending : s.Pending)
    (hretiring : s'.retiring = true) (hlog : s'.log = new ++ s.log) (h : Wire.Notice true body new)
  | committed (new : List WireEntry) (hpending : s.Pending) (hretiring : s'.retiring = true)
    (hlog : s'.log = .committed :: (new ++ s.log)) (h : Wire.Notice true successBody new)

/-- A formed request other than a NOTIFY decides nothing. -/
theorem Wire.MayRequest.quiet {msg : SipMessage} (h : s.MayRequest msg) :
    (WireEntry.requested msg).quiet = true := by
  have hmethod : msg.method ≠ .notify := by
    intro hnotify
    unfold MayRequest at h
    rw [hnotify] at h
    exact h
  have hopen : msg.endsSubscription = false := by
    rw [SipMessage.endsSubscription, beq_false_of_ne hmethod]
    rfl
  simp only [WireEntry.quiet, WireEntry.begins, WireEntry.concludes, WireEntry.commits, hopen]
  rfl

theorem Move.outcome (h : Move b s s') : Outcome s s' := by
  -- Only the moves of a transfer report on it. Every other move is calm.
  cases h with
  | send msg hmsg h => exact .calm h.calm
  | sendAgain msg recorded path hmsg h => exact .calm h.calm
  | pend _ slot msg h => exact .calm (Wire.calm_setPending slot _ s)
  | unpend _ slot => exact .calm (Wire.calm_setPending slot _ s)
  | request _ msg h => exact .calm (.of_enter _ rfl h.quiet id)
  | inform body h => exact .calm h.calm
  | begin _ hscope h => exact .begun rfl
  | fail body hscope hsecond hretiring h =>
    obtain ⟨new, hlog, hnotice⟩ := h.notice
    exact .failed body new ⟨hsecond, hretiring⟩ rfl hlog hnotice
  | commit hscope hsecond hretiring h =>
    obtain ⟨new, hlog, hnotice⟩ := h.notice
    refine .committed new ⟨hsecond, hretiring⟩ rfl ?_ hnotice
    rw [← hlog]
    exact congrArg (WireEntry.committed :: ·) (Wire.log_swap _)
  | giveUp _ hscope => exact .calm (.of_log rfl fun hp => nomatch hp.2)
  | release _ r hscope h => exact .calm (.of_enter _ rfl rfl fun hp => nomatch hp.1)
  | dropAcceptedRefer => exact .calm (.of_log rfl fun hp => ⟨Option.isSome_map ▸ hp.1, hp.2⟩)
  | dequeueSecond => exact .calm (.of_log rfl fun hp => ⟨Option.isSome_map ▸ hp.1, hp.2⟩)
  | sendSecond _ r msg connection h hmsg =>
    exact .calm (.of_enter _ rfl rfl fun hp => ⟨by rw [h]; rfl, hp.2⟩)
  | acknowledge _ c m src time tcp hc hm h =>
    refine .calm ?_
    cases decide (c.status < 300) && s.own.deferred
    · exact .of_log rfl id
    · exact .of_enter _ rfl rfl id
  | expireAck _ c last hc h =>
    refine .calm ?_
    cases last && s.own.deferred
    · exact .of_log rfl id
    · exact .of_enter _ rfl rfl id
  | invited _ m clash h =>
    have hinvited : Wire.Calm s (s.enter (.invited m.callId m.cseqNumber m.topBranch)) :=
      .of_enter _ rfl rfl id
    exact .calm (hinvited.trans (.of_enter _ rfl rfl id))
  | reinviteFailed _ m msg record h hloses =>
    have hinvited : Wire.Calm s (s.enter (.invited m.callId m.cseqNumber m.topBranch)) :=
      .of_enter _ rfl rfl id
    exact .calm (hinvited.trans (.of_enter _ rfl rfl id))
  | _ => first | exact .calm (.of_log rfl id) | exact .calm (.of_enter _ rfl rfl id)

/-! ## Runs -/

theorem WireEntry.quiet_iff {e : WireEntry} :
    e.quiet = true ↔ e.begins = false ∧ e.concludes = false ∧ e.commits = false := by
  simp only [quiet, Bool.and_eq_true, Bool.not_eq_true', and_assoc]

/-- The log after entries that tell nothing about transfers. -/
theorem since_quiet {new log : List WireEntry} (h : ∀ e ∈ new, e.quiet = true) :
    since WireEntry.begins (new ++ log) = new ++ since WireEntry.begins log :=
  History.since_append fun e he => (WireEntry.quiet_iff.1 (h e he)).1

theorem Wire.OneOutcome.calm (hs : s.OneOutcome) (h : Wire.Calm s s') : s'.OneOutcome := by
  obtain ⟨new, hlog, hquiet⟩ := h.log
  refine ⟨?_, fun hp => ?_⟩
  · rw [hlog]
    exact hs.decided.append fun e he before => decides_of_quiet (hquiet e he) before
  · obtain ⟨hbegun, hopen⟩ := hs.pending (h.pending hp)
    rw [hlog]
    refine ⟨List.mem_append_right new hbegun, fun e he => ?_⟩
    rw [since_quiet hquiet] at he
    exact (List.mem_append.1 he).elim (fun he => (WireEntry.quiet_iff.1 (hquiet e he)).2) (hopen e)

/-- The last NOTIFY of an open transfer is its first decision, and nothing else is decided with
    it. -/
theorem Wire.OneOutcome.notice (hs : s.OneOutcome) (hpending : s.Pending) {body : String}
    {new : List WireEntry} (h : Wire.Notice true body new) :
    Always Decides (new ++ s.log) ∧ .transferBegun ∈ new ++ s.log ∧
      ∀ e ∈ since WireEntry.begins (new ++ s.log), e.commits = false ∧
        ∀ msg, e = .requested msg → msg.endsSubscription = true → msg.body = body := by
  obtain ⟨hbegun, hopen⟩ := hs.pending hpending
  have hundecided {e : WireEntry} (he : e.concludes = false ∧ e.commits = false) :
      e.commits = false ∧
        ∀ msg, e = .requested msg → msg.endsSubscription = true → msg.body = body := by
    refine ⟨he.2, fun msg hmsg hends => ?_⟩
    rw [hmsg] at he
    exact nomatch he.1.symm.trans hends
  have hquietOne {e : WireEntry} (he : e.quiet = true) := hundecided (WireEntry.quiet_iff.1 he).2
  rcases h with hquiet | ⟨sends, msg, rfl, hsends, hends, hbody⟩
  · refine ⟨hs.decided.append fun e he before => decides_of_quiet (hquiet e he) before,
      List.mem_append_right new hbegun, fun e he => ?_⟩
    rw [since_quiet hquiet] at he
    exact (List.mem_append.1 he).elim (fun he => hquietOne (hquiet e he))
      fun he => hundecided (hopen e he)
  · have hfirst : Decides (.requested msg) s.log := ⟨fun _ => ⟨hbegun, hopen⟩, nofun⟩
    have hlast : since WireEntry.begins (.requested msg :: s.log) =
        .requested msg :: since WireEntry.begins s.log := rfl
    rw [List.append_assoc]
    refine ⟨Always.append ⟨hfirst, hs.decided⟩ fun e he before =>
      decides_of_quiet (hsends e he) before,
      List.mem_append_right sends (List.mem_cons_of_mem _ hbegun), fun e he => ?_⟩
    rw [since_quiet hsends, List.singleton_append, hlast] at he
    rcases List.mem_append.1 he with he | he
    · exact hquietOne (hsends e he)
    · rcases List.mem_cons.1 he with rfl | he
      · refine ⟨rfl, fun msg' hmsg _ => ?_⟩
        cases hmsg
        exact hbody
      · exact hundecided (hopen e he)

/-- Every move keeps transfers to one outcome. -/
theorem Move.oneOutcome (h : Move b s s') (hs : s.OneOutcome) : s'.OneOutcome := by
  rcases h.outcome with hcalm | hbegun | ⟨body, new, hpending, hretiring, hlog, hnotice⟩ |
    ⟨new, hpending, hretiring, hlog, hnotice⟩
  · exact hs.calm hcalm
  · refine ⟨?_, fun _ => ?_⟩
    · rw [hbegun]
      exact ⟨⟨nofun, nofun⟩, hs.decided⟩
    · rw [hbegun, History.since_cons_of_marked rfl]
      exact ⟨List.mem_cons_self, fun _ he => absurd he List.not_mem_nil⟩
  · refine ⟨?_, fun hp => ?_⟩
    · rw [hlog]
      exact (hs.notice hpending hnotice).1
    · rw [hp.2] at hretiring
      cases hretiring
  · obtain ⟨halways, hbegun, hsuccess⟩ := hs.notice hpending hnotice
    refine ⟨?_, fun hp => ?_⟩
    · rw [hlog]
      exact ⟨⟨nofun, fun _ => ⟨hbegun, hsuccess⟩⟩, halways⟩
    · rw [hp.2] at hretiring
      cases hretiring

theorem Wire.oneOutcome_of_swap {u : Wire} (hs : s.OneOutcome) (hlog : u.log = s.log)
    (hsecond : u.second.isSome = s.second.isSome) (hretiring : u.retiring = s.retiring) :
    u.OneOutcome := by
  refine ⟨hlog ▸ hs.decided, fun hp => ?_⟩
  rw [Pending, hsecond, hretiring] at hp
  rw [hlog]
  exact hs.pending hp

theorem Wire.retiring_swap (s : Wire) : s.swap.retiring = s.retiring := by
  unfold swap
  split <;> rfl

theorem oneOutcome_preserved (b : Bool) : Preserved b Wire.OneOutcome :=
  ⟨fun _ _ hmove hs => hmove.oneOutcome hs,
    fun s _ _ hs => Wire.oneOutcome_of_swap hs (Wire.log_swap s) (Wire.isSome_swap s)
      (Wire.retiring_swap s),
    fun s _ _ hs => Wire.oneOutcome_of_swap hs (Wire.log_swap s) (Wire.isSome_swap s)
      (Wire.retiring_swap s)⟩

/-! ## What is sent for a transfer -/

/-- A NOTIFY that ends a subscription is formed as a request. -/
def WireEntry.Announced (e : WireEntry) : Prop :=
  ∀ msg, e.made = some msg → msg.endsSubscription = true → e = .requested msg

/-- A response is no NOTIFY. -/
theorem endsSubscription_of_response {msg : SipMessage} (h : msg.isResponse = true) :
    msg.endsSubscription = false := by
  unfold SipMessage.isResponse at h
  unfold SipMessage.endsSubscription SipMessage.method
  split at h
  · cases h
  · rfl

theorem announced_of_logs {e : WireEntry} (h : s.Logs b e) : e.Announced := by
  intro msg hmsg hends
  cases e with
  | requested msg' =>
    cases hmsg
    rfl
  | responded msg' again ending unkept time =>
    cases hmsg
    exact nomatch (endsSubscription_of_response h).symm.trans hends
  | refused msg' evicts =>
    cases hmsg
    exact nomatch (endsSubscription_of_response h).symm.trans hends
  | _ => cases hmsg

/-- Every NOTIFY that ends a subscription is formed as a request. -/
def Wire.Announces (s : Wire) : Prop := Always (fun e _ => e.Announced) s.log

theorem announces_preserved (b : Bool) : Preserved b Wire.Announces := by
  have hswap (s u : Wire) (hlog : u.log = s.swap.log) (hs : s.Announces) : u.Announces := by
    unfold Wire.Announces
    rw [hlog, Wire.log_swap]
    exact hs
  exact ⟨fun _ _ hmove hs => hmove.grows.always (fun e he _ => announced_of_logs he) hs,
    fun s _ _ hs => hswap s _ rfl hs, fun s _ _ hs => hswap s _ rfl hs⟩

/-! ## One outcome -/

/-- In this log every transfer has one outcome. What belongs to a transfer is what was recorded
    after its REFER was accepted and before the next one was. -/
structure TransfersEndOnce (log : List WireEntry) : Prop where
  notify : ∀ newer mine older, log = newer ++ mine ++ .transferBegun :: older →
    (∀ e ∈ mine, e.begins = false) → mine.countP WireEntry.concludes ≤ 1
  commit : ∀ newer mine older, log = newer ++ mine ++ .transferBegun :: older →
    (∀ e ∈ mine, e.begins = false) → mine.countP WireEntry.commits ≤ 1
  agree : ∀ newer mine older, log = newer ++ mine ++ .transferBegun :: older →
    (∀ e ∈ mine, e.begins = false) → .committed ∈ mine →
    ∀ msg, .requested msg ∈ mine → msg.endsSubscription = true → msg.body = successBody
  sent : ∀ msg flow time, .sent msg flow time ∈ log → msg.endsSubscription = true →
    ∃ newer mine older, log = newer ++ mine ++ .transferBegun :: older ∧
      (∀ e ∈ mine, e.begins = false) ∧ .requested msg ∈ mine

/-- Where the second dialog became the owner, every last NOTIFY says so. -/
theorem agree_of_decided {mine older : List WireEntry} (h : Always Decides (mine ++ older))
    (hmine : ∀ e ∈ mine, e.begins = false) (hcommitted : .committed ∈ mine) {msg : SipMessage}
    (hmsg : .requested msg ∈ mine) (hends : msg.endsSubscription = true) :
    msg.body = successBody := by
  induction mine with
  | nil => cases hmsg
  | cons e mine ih =>
    have hrest (e' : WireEntry) (he' : e' ∈ mine) : e'.begins = false :=
      hmine e' (List.mem_cons_of_mem _ he')
    have hsince (e' : WireEntry) (he' : e' ∈ mine) : e' ∈ since WireEntry.begins
      (mine ++ older) := by
      rw [History.since_append hrest]
      exact List.mem_append_left _ he'
    rcases List.mem_cons.1 hmsg with rfl | hmsg'
    · -- No NOTIFY is formed after the commitment.
      rcases List.mem_cons.1 hcommitted with hlast | hcommitted'
      · cases hlast
      · exact nomatch ((h.1.notify hends).2 _ (hsince _ hcommitted')).2
    · rcases List.mem_cons.1 hcommitted with rfl | hcommitted'
      · exact ((h.1.commit rfl).2 _ (hsince _ hmsg')).2 msg rfl hends
      · exact ih h.2 hrest hcommitted' hmsg'

theorem mem_requested_of_made {log : List WireEntry}
    (h : Always (fun e _ => e.Announced) log) {msg : SipMessage} (hmsg : msg ∈ made log)
    (hends : msg.endsSubscription = true) : .requested msg ∈ log := by
  induction log with
  | nil => cases hmsg
  | cons e log ih =>
    rcases mem_made_cons.1 hmsg with he | hmsg'
    · exact List.mem_cons.2 (.inl (h.1 msg he hends).symm)
    · exact List.mem_cons_of_mem _ (ih h.2 hmsg')

/-- A NOTIFY that ends a subscription was formed for a transfer. -/
theorem exists_transfer {log : List WireEntry} (h : Always Decides log) {msg : SipMessage}
    (hmsg : .requested msg ∈ log) (hends : msg.endsSubscription = true) :
    ∃ newer mine older, log = newer ++ mine ++ .transferBegun :: older ∧
      (∀ e ∈ mine, e.begins = false) ∧ .requested msg ∈ mine := by
  obtain ⟨newer, before, rfl⟩ := List.append_of_mem hmsg
  have hbegun : .transferBegun ∈ before :=
    ((h.at (List.suffix_append newer _)).notify hends).1
  obtain ⟨e, older, he, hbefore⟩ :=
    History.exists_eq_since (p := WireEntry.begins) ⟨_, hbegun, rfl⟩
  have hlast : e = .transferBegun := by
    cases e with
    | transferBegun => rfl
    | _ => cases he
  refine ⟨newer, .requested msg :: since WireEntry.begins before, older, ?_, ?_,
    List.mem_cons_self⟩
  · rw [List.append_assoc, List.cons_append, ← hlast, ← hbefore]
  · intro e' he'
    rcases List.mem_cons.1 he' with rfl | he'
    · rfl
    · exact History.not_marked_of_mem_since he'

namespace Transport

/-- In every run, every accepted REFER has one outcome. -/
theorem transfers_end_once (w : World) (c : Setup) (es : List Event) :
    TransfersEndOnce (runFrom w c es).log := by
  have hdecided : Always Decides (runFrom w c es).log :=
    (invariant_of_preserved (oneOutcome_preserved false) w c es ⟨trivial, nofun⟩).decided
  have hannounced : Always (fun e _ => e.Announced) (runFrom w c es).log :=
    invariant_of_preserved (announces_preserved false) w c es trivial
  constructor
  · intro newer mine older hlog hmine
    refine History.Always.countP_le_one (hdecided.mono ?_) hlog hmine
    exact fun e before h he e' he' => ((h.notify he).2 e' he').1
  · intro newer mine older hlog hmine
    refine History.Always.countP_le_one (hdecided.mono ?_) hlog hmine
    exact fun e before h he e' he' => ((h.commit he).2 e' he').1
  · intro newer mine older hlog hmine hcommitted msg hmsg hends
    rw [hlog, List.append_assoc] at hdecided
    exact agree_of_decided (hdecided.of_suffix (List.suffix_append newer _)) hmine hcommitted hmsg
      hends
  · intro msg flow time hsent hends
    obtain ⟨newer, before, hlog⟩ := List.append_of_mem hsent
    have hformed : msg ∈ made before := by
      have hsound := (sound_runFrom w c es).2
      refine hsound.at (e := .sent msg flow time) ?_ msg rfl
      exact ⟨newer, hlog.symm⟩
    have hmade : msg ∈ made (runFrom w c es).log := by
      rw [hlog, made, List.filterMap_append, List.filterMap_cons]
      exact List.mem_append_right _ hformed
    exact exists_transfer hdecided (mem_requested_of_made hannounced hmade hends) hends

/-- A transfer that succeeds. -/
theorem attic_takes_over :
    let log := (runFrom grantingWorld plainSetup (answeredCall ++
      [.udp (referFromHall false) hall, .udp (responseFromAttic 200 "OK") attic])).log
    log.countP WireEntry.concludes = 1 ∧ log.countP WireEntry.commits = 1 ∧ TransfersEndOnce log :=
  ⟨by decide, by decide, transfers_end_once _ _ _⟩

end Transport

end EsphomeVoip
