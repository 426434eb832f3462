import EsphomeVoip.Transport.Frame
import EsphomeVoip.Transport.Run

/-! # The order of the peer's requests

A BYE, an UPDATE, a REFER or a re-INVITE that is not addressed to the dialog, or whose number is not
new, is answered and leaves everything else standing.  So the numbers of those that took effect in
one dialog increase, as long as none is sent after a BYE of the peer has crossed ours that repeats
or goes below the number of that BYE: the branch for a crossing BYE does not note its number. -/

namespace EsphomeVoip

open History (Always)
open Wire (Sends Repeats Notified)

namespace Transport

variable {w : World} {t u : Transport} {m msg : SipMessage} {src : Peer}

/-! ## Requests that are ruled out -/

/-- A request that takes effect within a dialog: an INVITE does if it has a `To` tag or the Call-ID
    of the dialog. -/
def inDialog (m : SipMessage) (d : Dialog) : Bool :=
  match m.method with
  | .bye | .update | .refer => true
  | .invite => m.toTag != "" || m.callId == d.callId
  | _ => false

/-- A request within a dialog that is not addressed to it, or whose number is not new. -/
def ruledOut (m : SipMessage) (d : Dialog) : Bool := inDialog m d && !addresses m d

theorem ruledOut_of_standing (h : u.standing = t.standing) :
    ruledOut m u.dialog = ruledOut m t.dialog := by
  have hdialog : u.dialog.standing = t.dialog.standing := congrArg Transport.dialog h
  have hsame (d : Dialog) : ruledOut m d = ruledOut m d.standing := rfl
  rw [hsame u.dialog, hdialog, ← hsame]

theorem addresses_of_ruledOut {d : Dialog} (h : ruledOut m d = true) : addresses m d = false := by
  unfold ruledOut at h
  rw [Bool.and_eq_true, Bool.not_eq_true'] at h
  exact h.2

/-- A BYE or a REFER that the dialog rules out is no request of the dialog. -/
theorem rejectIfStaleDialog_ruledOut {method : Method} (hm : method = .bye ∨ method = .refer)
    (h : addresses m t.dialog = false) : t.rejectIfStaleDialog w m src method =
      (true, (t.reject w m src 481 "Call/Transaction Does Not Exist").2) := by
  have hstale : currentDialog m src method t.dialog = false := by
    apply Bool.eq_false_iff.2
    intro hcurrent
    rw [addresses_of_currentDialog hm hcurrent] at h
    cases h
  unfold rejectIfStaleDialog
  rw [hstale]
  rfl

theorem standing_handleBye (h : addresses m t.dialog = false) :
    (t.handleBye w m src).standing = t.standing := by
  unfold handleBye
  rw [rejectIfStaleDialog_ruledOut (.inl rfl) h]
  exact standing_reject 481 "Call/Transaction Does Not Exist"

theorem standing_handleRefer (h : addresses m t.dialog = false) :
    (t.handleRefer w m src).standing = t.standing := by
  unfold handleRefer
  rw [rejectIfStaleDialog_ruledOut (.inr rfl) h]
  exact standing_reject 481 "Call/Transaction Does Not Exist"

/-- The number is not new to a dialog that the request is sent within. -/
theorem not_new_of_ruledOut {d : Dialog} (h : addresses m d = false) (hcall : m.callId = d.callId)
    (hfrom : m.fromTag = d.remoteTag) (hto : m.toTag = d.localTag) :
    m.cseqNumber ≤ d.remoteDialogCseq := by
  unfold addresses at h
  simp only [hcall, hfrom, hto, BEq.rfl, Bool.true_and, decide_eq_false_iff_not] at h
  exact UInt32.not_lt.1 h

theorem standing_freshUpdate (h : addresses m t.dialog = false) :
    (t.freshUpdate w m src).2.standing = t.standing := by
  unfold freshUpdate
  dsimp only
  split
  · exact standing_refuse _ _ _
  · rename_i hin
    rw [not_or] at hin
    have hold : m.cseqNumber ≤ t.dialog.remoteDialogCseq := by
      have hupdate : updateInDialog m t.dialog = true := by simpa using hin.2
      simp only [updateInDialog, Bool.and_eq_true, beq_iff_eq] at hupdate
      obtain ⟨⟨⟨⟨⟨_, hcall⟩, _⟩, _⟩, hfrom⟩, hto⟩ := hupdate
      exact not_new_of_ruledOut h hcall hfrom hto
    rw [if_pos hold]
    exact standing_refuseForNow _ _

theorem standing_handleUpdate (h : ruledOut m t.dialog = true) :
    (t.handleUpdate w m src).2.standing = t.standing := by
  unfold handleUpdate
  dsimp only
  have hreplay : (t.replayCompletedResponse w m src .update (!t.dialog.remoteSipTcp)).2.standing =
      t.standing := standing_replayCompletedResponse _ _
  split
  · exact hreplay
  · have hstale := (ruledOut_of_standing hreplay).trans h
    exact (standing_freshUpdate (addresses_of_ruledOut hstale)).trans hreplay

theorem standing_handleReinvite (h : m.cseqNumber ≤ t.dialog.remoteDialogCseq) :
    (t.handleReinvite w m src).2.standing = t.standing := by
  unfold handleReinvite
  split
  · exact standing_reject _ _
  · split
    · exact standing_reject _ _
    · split
      · exact standing_refuse _ _ _
      · split
        · exact standing_refuseForNow _ _
        · split
          · exact standing_reject _ _
          · exact standing_refuseForNow _ _

theorem standing_repeatInvite (hcall : m.callId = t.dialog.callId) (hnamed : m.callId ≠ "") :
    (t.repeatInvite w m src).2.standing = t.standing := by
  unfold repeatInvite
  dsimp only
  split
  · exact standing_reject _ _
  · split
    · split
      · rfl
      · exact standing_sendAgain _ _ _
    · rw [if_pos (hcall ▸ hnamed)]
      exact standing_sendStatelessResponse _ _ _ _ _

theorem standing_routeInvite (h : ruledOut m t.dialog = true) (hcall : m.callId = t.dialog.callId)
    (hnamed : m.callId ≠ "") : (t.routeInvite w m src).2.standing = t.standing := by
  unfold routeInvite
  dsimp only
  rw [if_neg fun hforeign => hforeign.2 hcall]
  split
  · exact standing_reject _ _
  · split
    · rename_i hmatch
      split
      · exact standing_reject _ _
      · simp only [matchingDialog, Bool.and_eq_true, beq_iff_eq] at hmatch
        exact standing_handleReinvite
          (not_new_of_ruledOut (addresses_of_ruledOut h) hcall hmatch.2 hmatch.1.2)
    · exact standing_repeatInvite hcall hnamed

theorem standing_freshInvite (h : ruledOut m t.dialog = true) (hmethod : m.method = .invite)
    (hnamed : m.callId ≠ "") : (t.freshInvite w m src).2.standing = t.standing := by
  unfold freshInvite
  dsimp only
  split
  · exact standing_reject _ _
  · rename_i hin
    split
    · exact standing_sendStatelessResponse _ _ _ _ _
    · refine standing_routeInvite h ?_ hnamed
      have hdialog : inDialog m t.dialog = true := (Bool.and_eq_true_iff.1 h).1
      unfold inDialog at hdialog
      rw [hmethod] at hdialog
      simp only [Bool.or_eq_true, bne_iff_ne, beq_iff_eq] at hdialog
      rcases hdialog with htag | hcall
      · -- An INVITE with a tag that is not sent within the dialog was refused before.
        rw [not_and, Bool.not_eq_false] at hin
        have hmatch := hin htag
        simp only [matchingDialog, Bool.and_eq_true, beq_iff_eq] at hmatch
        exact hmatch.1.1.1.1
      · exact hcall

theorem standing_handleInvite (h : ruledOut m t.dialog = true) (hmethod : m.method = .invite) :
    (t.handleInvite w m src).2.standing = t.standing := by
  unfold handleInvite
  dsimp only
  split
  · exact standing_reject _ _
  · rename_i hformed
    have hnamed : m.callId ≠ "" := by
      intro hempty
      exact hformed (by simp [inviteWellFormed, hempty])
    have hreplay : (t.replayCompletedResponse w m src .invite (!t.dialog.remoteSipTcp)).2.standing =
        t.standing := standing_replayCompletedResponse _ _
    split
    · exact hreplay
    · have hstale := (ruledOut_of_standing hreplay).trans h
      exact (standing_freshInvite hstale hmethod hnamed).trans hreplay

/-! ## The dispatcher -/

theorem standing_routeRequest (h : ruledOut m t.dialog = true) :
    (t.routeRequest w m src).standing = t.standing := by
  unfold routeRequest
  split
  · exact standing_reject _ _
  · cases hmethod : m.method with
    | refer => exact standing_handleRefer (addresses_of_ruledOut h)
    | invite => exact standing_handleInvite h hmethod
    | bye => exact standing_handleBye (addresses_of_ruledOut h)
    | update => exact standing_handleUpdate h
    | _ =>
      unfold ruledOut inDialog at h
      rw [hmethod] at h
      cases h

theorem standing_handleRequest (h : ruledOut m t.dialog = true) :
    (t.handleRequest w m src).standing = t.standing := by
  unfold handleRequest
  dsimp only
  generalize hr : (if isReplayedMethod m.method = true then
    t.replayCompletedResponse w m src m.method (!t.dialog.remoteSipTcp) else (false, t)) = r
  have hreplay : r.2.standing = t.standing := by
    rw [← hr]
    split
    · exact standing_replayCompletedResponse _ _
    · rfl
  split
  · exact hreplay
  · generalize hu : (if sipEventFromMethod m.method = .none then r.2
      else r.2.markSipEvent (sipEventFromMethod m.method) 0) = u
    have hmarked : u.standing = t.standing := by
      rw [← hu]
      split
      · exact hreplay
      · exact hreplay
    exact (standing_routeRequest ((ruledOut_of_standing hmarked).trans h)).trans hmarked

theorem standing_dispatch (h : ruledOut m t.dialog = true) :
    (t.dispatch w m src).standing = t.standing := by
  have hrequest : m.isResponse = false := by
    have hdialog : inDialog m t.dialog = true := (Bool.and_eq_true_iff.1 h).1
    unfold inDialog SipMessage.method at hdialog
    unfold SipMessage.isResponse
    split
    · rfl
    · rename_i hstart
      rw [hstart] at hdialog
      cases hdialog
  unfold dispatch
  rw [hrequest]
  exact standing_handleRequest h

/-! ## Received messages -/

theorem ruledOut_of_turn {d d' : Dialog} (h : turnOf d' = turnOf d) :
    ruledOut m d' = ruledOut m d := by
  have hsame (d : Dialog) : ruledOut m d = ruledOut m (turnOf d) := rfl
  rw [hsame d', h, ← hsame]

theorem sameTurn_of_standing (h : u.standing = t.standing) : SameTurn t u := by
  have hturn (d : Dialog) : turnOf d = turnOf d.standing := rfl
  have hsecond (v : Transport) : v.referDialog.map (fun r => turnOf r.dialog) =
      v.standing.referDialog.map fun r => turnOf r.dialog := by
    show _ = Option.map _ (v.referDialog.map _)
    rw [Option.map_map]
    rfl
  have hdialog : u.dialog.standing = t.dialog.standing := congrArg Transport.dialog h
  refine ⟨?_, ?_, ?_, ?_⟩
  · exact congrArg (fun v => v.referContextActive) h
  · exact congrArg (fun v => v.referWireId) h
  · rw [hturn u.dialog, hdialog, ← hturn]
  · rw [hsecond u, h, ← hsecond]

/-- A request that is ruled out leaves everything standing, but for what the timers of a transfer
    do after it. -/
theorem standing_handleSipDatagram (h : ruledOut m (t.served m).dialog = true) :
    ∃ u, u.standing = t.standing ∧
      (t.handleSipDatagram w m src = u ∨ t.handleSipDatagram w m src = u.pumpRefer w) := by
  unfold handleSipDatagram
  dsimp only
  have hheard : (t.record (.received m src t.clock)).standing = t.standing := rfl
  generalize t.record (.received m src t.clock) = u at hheard
  have hturn := sameTurn_of_standing hheard
  split
  · refine ⟨_, ?_, .inl rfl⟩
    split
    · exact hheard
    · exact (standing_reject _ _).trans hheard
  · have hserved : ruledOut m (u.served m).dialog = true :=
      (ruledOut_of_turn (turn_served hturn)).trans h
    unfold served at hserved
    split at hserved
    · rename_i hrefer
      rw [if_pos hrefer]
      exact ⟨_, (swapView_standing.inRefer hrefer.1 (standing_dispatch hserved)).trans hheard,
        .inr rfl⟩
    · rename_i hrefer
      rw [if_neg hrefer]
      exact ⟨_, (standing_dispatch hserved).trans hheard, .inl rfl⟩

/-- The dialog is owned and its stream connection is in use, or it takes UDP. -/
def keepsPath (t : Transport) : Bool :=
  !t.dialog.remoteSipTcp || (t.dialog.callId != "" && tcpInUse t.dialog.tcpFlow)

/-- What receiving a message does before it is looked at: without a connection in use, a datagram
    makes the dialog take UDP. -/
def Receives (t u : Transport) : Prop :=
  u.standing = t.standing ∨ (t.keepsPath = false ∧ u.standing = t.adoptUdp.standing)

theorem standing_adoptUdp (t : Transport) : t.adoptUdp.standing =
    { t.standing with dialog := { t.standing.dialog with remoteSipTcp := false } } := by
  unfold adoptUdp
  dsimp only
  split <;> rfl

theorem receives_adoptUdp (h : u.standing = t.standing)
    (hpath : t.keepsPath = true → t.dialog.remoteSipTcp = false) : Receives t u.adoptUdp := by
  have hadopt : u.adoptUdp.standing = t.adoptUdp.standing := by
    rw [standing_adoptUdp, standing_adoptUdp, h]
  cases hkeeps : t.keepsPath with
  | false => exact .inr ⟨hkeeps, hadopt⟩
  | true =>
    refine .inl (hadopt.trans ?_)
    rw [standing_adoptUdp, ← hpath hkeeps]
    rfl

/-- A look-up that finds nothing leaves the connection alone. -/
theorem tcpFlow_replayCompletedResponse {method : Method} {udp : Bool}
    (h : (t.replayCompletedResponse w m src method udp).1 = false) :
    (t.replayCompletedResponse w m src method udp).2.dialog.tcpFlow = t.dialog.tcpFlow := by
  rcases replayCompletedResponse_cases (w := w) m src method udp t with
    ⟨_, c, _, _, he⟩ | ⟨_, _, he⟩ | ⟨_, _, he⟩
  · rw [he] at h
    cases h
  · rw [he]
    cases t.replaySlot m method <;> rfl
  · rw [he]

theorem tcpFlow_replayCompletedInviteAck {udp : Bool}
    (h : (t.replayCompletedInviteAck w m src udp).1 = false) :
    (t.replayCompletedInviteAck w m src udp).2.dialog.tcpFlow = t.dialog.tcpFlow := by
  unfold replayCompletedInviteAck at h ⊢
  dsimp only at h ⊢
  split at h
  · rw [if_pos ‹_›]
  · rw [if_neg ‹_›]
    split
    · rfl
    · split
      · split <;> rfl
      · split
        · simp_all
        · rfl

/-- The same for a datagram. -/
theorem standing_handleSipUdpDatagram (h : ruledOut m (t.served m).dialog = true) :
    ∃ u, Receives t u ∧
      (t.handleSipUdpDatagram w m src = u ∨ t.handleSipUdpDatagram w m src = u.pumpRefer w) := by
  unfold handleSipUdpDatagram
  dsimp only
  -- First the remembered responses are looked at, then the remembered ACKs.
  have hreplayed : (t.replayCompletedResponse w m src m.method true).2.standing = t.standing :=
    standing_replayCompletedResponse _ _
  have hflow (hmissed : (t.replayCompletedResponse w m src m.method true).1 = false) :
      (t.replayCompletedResponse w m src m.method true).2.dialog.tcpFlow = t.dialog.tcpFlow :=
    tcpFlow_replayCompletedResponse hmissed
  generalize t.replayCompletedResponse w m src m.method true = r at hreplayed hflow
  split
  · exact ⟨_, .inl hreplayed, .inl rfl⟩
  · rename_i hmissed
    have hacked : (r.2.replayCompletedInviteAck w m src true).2.standing = t.standing :=
      (standing_replayCompletedInviteAck true).trans hreplayed
    have hflow' (hack : (r.2.replayCompletedInviteAck w m src true).1 = false) :
        (r.2.replayCompletedInviteAck w m src true).2.dialog.tcpFlow = t.dialog.tcpFlow :=
      (tcpFlow_replayCompletedInviteAck hack).trans (hflow (by simpa using hmissed))
    generalize r.2.replayCompletedInviteAck w m src true = r' at hacked hflow'
    split
    · exact ⟨_, .inl hacked, .inl rfl⟩
    · rename_i hunacked
      have hsame : r'.2.dialog.tcpFlow = t.dialog.tcpFlow := hflow' (by simpa using hunacked)
      split
      · exact ⟨_, .inl hacked, .inl rfl⟩
      · -- Neither answered: the message goes on, and on a datagram the dialog may change its path.
        rename_i hopen
        have hruled (v : Transport) (hv : SameTurn t v) : ruledOut m (v.served m).dialog = true :=
          (ruledOut_of_turn (turn_served hv)).trans h
        have hturn := sameTurn_of_standing hacked
        split
        · obtain ⟨u, hu, hrun⟩ := standing_handleSipDatagram (hruled _ hturn)
          exact ⟨u, .inl (hu.trans hacked), hrun⟩
        · rename_i hown
          obtain ⟨u, hu, hrun⟩ :=
            standing_handleSipDatagram (hruled _ (hturn.trans sameTurn_adoptUdp))
          refine ⟨u, ?_, hrun⟩
          -- A path that has to stay is a usable stream, and then the datagram was ignored above.
          have hpath : t.keepsPath = true → t.dialog.remoteSipTcp = false := by
            intro hkeeps
            apply Bool.eq_false_iff.2
            intro htcp
            simp only [keepsPath, htcp, Bool.not_true, Bool.false_or, Bool.and_eq_true,
              bne_iff_ne] at hkeeps
            have hcall : r'.2.dialog.callId = t.dialog.callId :=
              congrArg (fun v => v.dialog.callId) hacked
            have htcp' : r'.2.dialog.remoteSipTcp = t.dialog.remoteSipTcp :=
              congrArg (fun v => v.dialog.remoteSipTcp) hacked
            refine hopen ⟨?_, htcp'.trans htcp, hsame ▸ hkeeps.2, by simpa using hown⟩
            simp [signalingOwned, hcall, hkeeps.1]
          exact (receives_adoptUdp hacked hpath).imp (hu.trans ·)
            fun hadopted => ⟨hadopted.1, hu.trans hadopted.2⟩

end Transport

/-! ## The numbers of a dialog -/

/-- The numbers of the requests that took effect increase, and the dialog knows the last one unless
    it is that of a BYE that crossed ours. -/
structure Line.Ordered (l : Line) : Prop where
  sorted : l.accepted.Pairwise (· > ·)
  known : l.crossed = false → ∀ last ∈ l.accepted.head?, last ≤ l.remoteCseq

theorem Line.ordered_of_empty {l : Line} (h : l.accepted = []) : l.Ordered := by
  refine ⟨h ▸ List.Pairwise.nil, fun _ last hlast => ?_⟩
  rw [h] at hlast
  cases hlast

/-- A request that may take effect has a number greater than those before it. -/
theorem Line.Ordered.take {l : Line} (hl : l.Ordered) {number : UInt32}
    (h : l.MayTake true number) : (number :: l.accepted).Pairwise (· > ·) := by
  have hlast : ∀ last ∈ l.accepted.head?, last < number := by
    intro last hlast
    cases hcrossed : l.crossed with
    | true => exact h.2 rfl hcrossed last hlast
    | false => exact UInt32.lt_of_le_of_lt (hl.known hcrossed last hlast) h.1
  refine List.pairwise_cons.2 ⟨fun old hold => ?_, hl.sorted⟩
  have hsorted := hl.sorted
  cases haccepted : l.accepted with
  | nil =>
    rw [haccepted] at hold
    cases hold
  | cons last rest =>
    rw [haccepted] at hold hsorted hlast
    have hnew : last < number := hlast last rfl
    rcases List.mem_cons.1 hold with rfl | hrest
    · exact hnew
    · exact UInt32.lt_trans ((List.pairwise_cons.1 hsorted).1 old hrest) hnew

/-- The numbers of a log entry increase. -/
def Increases (e : WireEntry) : Prop :=
  ∀ number before, e = .tookEffect number before → (number :: before).Pairwise (· > ·)

/-- The numbers increase in both dialogs and in the log. -/
structure Wire.Ordered (s : Wire) : Prop where
  own : s.own.Ordered
  second : ∀ r, s.second = some r → r.line.Ordered
  log : Always (fun e _ => Increases e) s.log

section

variable {s s' : Wire} {msg : SipMessage}

theorem increases_of_logs {e : WireEntry} (hs : s.own.Ordered) (h : s.Logs true e) :
    Increases e := by
  intro number before he
  subst he
  obtain ⟨rfl, htake⟩ := h
  exact hs.take htake

/-- What the order of a line depends on. -/
theorem Line.Ordered.congr {l l' : Line} (h : l.Ordered) (haccepted : l'.accepted = l.accepted)
    (hcrossed : l'.crossed = l.crossed) (hknown : l'.remoteCseq = l.remoteCseq) : l'.Ordered := by
  refine ⟨haccepted ▸ h.sorted, fun hc last hlast => ?_⟩
  rw [hknown]
  exact h.known (hcrossed ▸ hc) last (haccepted ▸ hlast)

theorem Wire.Sends.ordered (h : Sends msg s s') (hs : s.own.Ordered) : s'.own.Ordered := by
  obtain ⟨queued, log, rfl⟩ := h.shape
  exact hs.congr rfl rfl rfl

/-- Replacing a request leaves the order alone. -/
theorem Wire.ordered_setPending (slot : Transport.ClientSlot) (x : Option SipMessage)
    (hs : s.own.Ordered ∧ ∀ r, s.second = some r → r.line.Ordered) :
    (s.setPending slot x).own.Ordered ∧
      ∀ r, (s.setPending slot x).second = some r → r.line.Ordered := by
  have hmap (f : Second → Second) (hf : ∀ r, (f r).line = r.line) (r : Second)
      (hr : s.second.map f = some r) : r.line.Ordered := by
    obtain ⟨r', hr', rfl⟩ := Option.map_eq_some_iff.1 hr
    exact (hf r').symm ▸ hs.2 r' hr'
  cases slot with
  | notify => exact ⟨hs.1, hmap _ fun _ => rfl⟩
  | notifyFinal => exact ⟨hs.1, hmap _ fun _ => rfl⟩
  | _ => exact ⟨hs.1.congr rfl rfl rfl, hs.2⟩

theorem Wire.Notified.ordered {final : Bool} {body : String} (h : Notified final body s s')
    (hs : s.own.Ordered ∧ ∀ r, s.second = some r → r.line.Ordered) :
    s'.own.Ordered ∧ ∀ r, s'.second = some r → r.line.Ordered := by
  have hsent {x : SipMessage} {u : Wire} (h : Sends x (s.enter (.requested x)) u) :
      u.own.Ordered ∧ ∀ r, u.second = some r → r.line.Ordered :=
    ⟨h.ordered hs.1, fun r hr => hs.2 r (h.second ▸ hr)⟩
  cases h with
  | none => exact hs
  | sent x _ _ _ _ h => exact hsent h
  | kept x _ _ _ _ h slot _ => exact ordered_setPending slot _ (hsent h)

theorem Wire.ordered_swap (hs : s.own.Ordered ∧ ∀ r, s.second = some r → r.line.Ordered) :
    s.swap.own.Ordered ∧ ∀ r, s.swap.second = some r → r.line.Ordered := by
  unfold swap
  split
  · exact hs
  · rename_i r hr
    refine ⟨hs.2 r hr, fun r' hr' => ?_⟩
    cases hr'
    exact hs.1

/-- Every move keeps the numbers of both dialogs in order. -/
theorem Move.keepsOrder (h : Move true s s')
    (hs : s.own.Ordered ∧ ∀ r, s.second = some r → r.line.Ordered) :
    s'.own.Ordered ∧ ∀ r, s'.second = some r → r.line.Ordered := by
  cases h with
  | send x hx h => exact ⟨h.ordered hs.1, fun r hr => hs.2 r (h.second ▸ hr)⟩
  | sendAgain x f g hx h =>
    obtain ⟨queued, log, _, rfl⟩ := h.shape
    exact ⟨hs.1.congr rfl rfl rfl, hs.2⟩
  | pend _ slot x h => exact Wire.ordered_setPending slot _ hs
  | unpend _ slot => exact Wire.ordered_setPending slot _ hs
  -- The two moves that take a number of the peer.
  | accept _ number h =>
    refine ⟨⟨hs.1.take h, fun _ last hlast => ?_⟩, hs.2⟩
    cases hlast
    exact UInt32.le_refl number
  | cross _ number h => exact ⟨⟨hs.1.take h, nofun⟩, hs.2⟩
  -- A new dialog begins with no number at all.
  | invited _ m clash h => exact ⟨Line.ordered_of_empty rfl, hs.2⟩
  | reset _ => exact ⟨Line.ordered_of_empty rfl, hs.2⟩
  | begin _ hscope h =>
    refine ⟨hs.1.congr rfl rfl rfl, fun r hr => ?_⟩
    cases hr
    exact Line.ordered_of_empty rfl
  -- The moves of a transfer keep both lines, or swap them.
  | inform body h => exact h.ordered hs
  | fail body _ _ _ h => exact h.ordered hs
  | commit _ _ _ h => exact Wire.ordered_swap (h.ordered hs)
  | release _ r _ h =>
    refine ⟨hs.1, fun r' hr' => ?_⟩
    cases hr'
  | dropAcceptedRefer _ =>
    refine ⟨hs.1, fun r hr => ?_⟩
    obtain ⟨r', hr', rfl⟩ := Option.map_eq_some_iff.1 hr
    exact hs.2 r' hr'
  | sendSecond _ r x c h hx =>
    refine ⟨hs.1, fun r' hr' => ?_⟩
    cases hr'
    exact (hs.2 r h).congr rfl rfl rfl
  | dequeueSecond _ =>
    refine ⟨hs.1, fun r hr => ?_⟩
    obtain ⟨r', hr', rfl⟩ := Option.map_eq_some_iff.1 hr
    exact (hs.2 r' hr').congr rfl rfl rfl
  | _ => exact ⟨hs.1.congr rfl rfl rfl, hs.2⟩

theorem ordered_preserved : Preserved true Wire.Ordered := by
  have hswap (s u : Wire) (hown : u.own = s.swap.own) (hsecond : u.second = s.swap.second)
      (hlog : u.log = s.swap.log) (hs : s.Ordered) : u.Ordered := by
    have hlines := Wire.ordered_swap ⟨hs.own, hs.second⟩
    refine ⟨hown ▸ hlines.1, fun r hr => hlines.2 r (hsecond ▸ hr), ?_⟩
    rw [hlog, Wire.log_swap]
    exact hs.log
  refine ⟨fun s s' hmove hs => ?_, fun s _ _ hs => hswap s _ rfl rfl rfl hs,
    fun s _ _ hs => hswap s _ rfl rfl rfl hs⟩
  have hlines := hmove.keepsOrder ⟨hs.own, hs.second⟩
  exact ⟨hlines.1, hlines.2,
    hmove.grows.always (fun e he _ => increases_of_logs hs.own he) hs.log⟩

end

/-! ## Runs -/

namespace Transport

/-- The message that an event hands over. -/
def Event.message : Event → Option SipMessage
  | .udp m _ => some m
  | .tcp m _ => some m
  | _ => none

/-- The event is answered and leaves everything else standing, but for what the timers of a transfer
    do after it. -/
def Rejects (w : World) (e : Event) (t : Transport) : Prop :=
  ∃ u, Receives t u ∧ (step w e t = u ∨ step w e t = u.pumpRefer w)

theorem rejects_of_ruledOut (w : World) (e : Event) (t : Transport) {m : SipMessage}
    (he : e.message = some m) (h : ruledOut m (t.served m).dialog = true) : Rejects w e t := by
  cases e with
  | udp m' src =>
    cases he
    exact standing_handleSipUdpDatagram h
  | tcp m' src =>
    cases he
    obtain ⟨u, hu, hrun⟩ := standing_handleSipDatagram h
    exact ⟨u, .inl hu, hrun⟩
  | _ => cases he

/-- In every run, a request within a dialog that is not addressed to it, or whose number is not new,
    leaves the dialog, its media and the call component alone. If none goes back behind a BYE that
    crossed ours, the numbers of those that took effect in one dialog increase. -/
theorem requests_take_effect_in_order (w : World) (c : Setup) (es : List Event) :
    (∀ e m, Event.message e = some m →
      ruledOut m ((runFrom w c es).served m).dialog = true → Rejects w e (runFrom w c es)) ∧
    (OrderlyRun w c es → ∀ number before, .tookEffect number before ∈ (runFrom w c es).log →
      (number :: before).Pairwise (· > ·)) := by
  refine ⟨fun e m he h => rejects_of_ruledOut w e _ he h, fun hes number before hmem => ?_⟩
  have hordered : (runFrom w c es).wire.Ordered := by
    have hsecond : (boot c).wire.second = none := rfl
    refine invariant_of_orderly ordered_preserved w c es hes
      ⟨Line.ordered_of_empty rfl, fun r hr => ?_, trivial⟩
    rw [hsecond] at hr
    cases hr
  obtain ⟨newer, older, hlog⟩ := List.append_of_mem hmem
  exact hordered.log.at ⟨newer, hlog.symm⟩ number before rfl

/-- Hall hangs up after its call was confirmed. -/
theorem hall_hangs_up_in_order :
    let es := answeredCall ++ [.udp (requestFromHall .bye 2 "z9hG4bKc") hall]
    OrderlyRun grantingWorld plainSetup es ∧
      .tookEffect 2 [] ∈ (runFrom grantingWorld plainSetup es).log ∧
      ∀ number before, .tookEffect number before ∈ (runFrom grantingWorld plainSetup es).log →
        (number :: before).Pairwise (· > ·) := by
  have huncrossed {m : SipMessage} {d : Dialog} (h : d.crossed = false) : InOrder true m d :=
    fun _ _ hcrossed => nomatch h.symm.trans hcrossed
  have hes : OrderlyRun grantingWorld plainSetup
      (answeredCall ++ [.udp (requestFromHall .bye 2 "z9hG4bKc") hall]) :=
    ⟨.inr (huncrossed (by decide)), trivial, .inr (huncrossed (by decide)),
      .inr (huncrossed (by decide)), trivial⟩
  exact ⟨hes, by decide, (requests_take_effect_in_order _ _ _).2 hes⟩

/-- Two BYEs with one number take effect after ours was sent. -/
theorem crossing_bye_repeats_a_number :
    ¬ ∀ (es : List Event) (number : UInt32) (before : List UInt32),
      .tookEffect number before ∈ (runFrom grantingWorld plainSetup es).log →
      (number :: before).Pairwise (· > ·) := by
  intro h
  have htwice := h (answeredCall ++ [.command (.sendBye "call"),
    .udp (requestFromHall .bye 2 "z9hG4bKc") hall, .udp (requestFromHall .bye 2 "z9hG4bKd") hall])
    2 [2] (by decide)
  exact absurd htwice (by decide)

end Transport

end EsphomeVoip
