import EsphomeVoip.Transport.Frame
import EsphomeVoip.Transport.Run

/-! # Repeated requests

A request that was answered is answered again from the record of its response, before anything looks
at the request itself.  Which record that is depends on the method and on the dialog that the
dispatcher has chosen; a request whose record lies elsewhere is taken for a new one.  Under the
scope of the second dialog of a transfer an INVITE or an UPDATE is refused before its record is
looked for. -/

namespace EsphomeVoip

/-- A record that has not outlived its transaction. -/
def unexpired (now completedMs : UInt32) : Bool :=
  !decide (sipTransactionTimeoutMs < (now - completedMs).toNat)

/-- A kept response, unless it has outlived its transaction. -/
def liveServer (now : UInt32) (c : Option CompletedServerTransaction) :
    Option CompletedServerTransaction :=
  c.filter fun c => unexpired now c.completedMs

/-- A kept ACK, unless it has outlived its transaction. -/
def liveClient (now : UInt32) (c : Option CompletedInviteClientTransaction) :
    Option CompletedInviteClientTransaction :=
  c.filter fun c => unexpired now c.completedMs

/-- A dialog without its connection and the records that have outlived their transactions. -/
def Dialog.remains (now : UInt32) (d : Dialog) : Dialog :=
  { d with
    tcpFlow := {}
    completedInvite := liveServer now d.completedInvite
    completedControl := liveServer now d.completedControl
    completedInviteClient := liveClient now d.completedInviteClient }

/-- The second dialog of a transfer likewise. -/
def ReferDialog.remains (now : UInt32) (r : ReferDialog) : ReferDialog :=
  { r with
    dialog := r.dialog.remains now
    acceptedRefer := liveServer now r.acceptedRefer }

/-- A finished transfer likewise. -/
def CompletedRefer.remains (now : UInt32) (c : CompletedRefer) : CompletedRefer :=
  { c with
    accepted := liveServer now c.accepted
    control := liveServer now c.control
    invite := liveClient now c.invite }

/-- The entry is the message being sent, or says nothing of any other message. -/
def WireEntry.only (msg : SipMessage) : WireEntry → Prop
  | .sent x .. => x = msg
  | .queued x => x = msg
  | .repeated .. => True
  | .received .. => True
  | .recordLost expired .. => expired = true
  | _ => False

/-- The path by which a copy of the message left. -/
def WireEntry.copyOf (msg : SipMessage) : WireEntry → Option Flow
  | .sent x path _ => if x = msg then some path else none
  | _ => none

namespace Transport

/-- Everything but connections, records that have outlived their transactions, the log and
    diagnostics. -/
def remains (t : Transport) : Transport :=
  { t with
    dialog := t.dialog.remains t.now
    referDialog := t.referDialog.map (ReferDialog.remains t.now)
    completedRefers := t.completedRefers.map (Option.map (CompletedRefer.remains t.now))
    mediaProposalEpoch := 0
    lastSipEvent := .none
    lastSipStatusCode := 0
    io := 0
    log := [] }

/-- `u` is `t` after nothing but this message was sent. -/
structure Replayed (msg : SipMessage) (t u : Transport) : Prop where
  remains : u.remains = t.remains
  log : ∃ new, u.log = new ++ t.log ∧ ∀ e ∈ new, e.only msg

/-- The paths by which copies of a message left, most recent first. -/
def copies (msg : SipMessage) (t : Transport) : List Flow := t.log.filterMap (WireEntry.copyOf msg)

/-- The socket takes a kept response: the datagram socket, or the connection of the dialog `d`. -/
def takesCopy (w : World) (udp : Bool) (src : Peer) (d : Dialog) (t : Transport) : Bool :=
  w.sendOk t.io &&
    if udp then t.sipSocketOpen && src.ip != 0 && src.port != 0
    else d.tcpFlow.open_ && !d.tcpFlow.closeRequested && !d.tcpFlow.connectRequested

/-- The path on which the peer asked. -/
def copyPath (udp : Bool) (src : Peer) (d : Dialog) : Flow :=
  if udp then .udp src.ip src.port else .tcp d.tcpFlow.connection

/-- `u` is `t` after the kept response was sent once more, if the socket takes it, and after nothing
    else. A stream is that of the dialog `d`. -/
structure AnsweredOnce (w : World) (c : CompletedServerTransaction) (src : Peer) (d : Dialog)
    (t u : Transport) : Prop where
  replayed : Replayed c.response t u
  copies : u.copies c.response =
    if t.takesCopy w c.udp src d then copyPath c.udp src d :: t.copies c.response
    else t.copies c.response

variable {w : World} {t u v : Transport} {m msg : SipMessage} {src : Peer}

theorem Replayed.refl (t : Transport) : Replayed msg t t :=
  ⟨rfl, [], rfl, fun _ he => absurd he List.not_mem_nil⟩

theorem Replayed.trans (h : Replayed msg t u) (h' : Replayed msg u v) : Replayed msg t v := by
  obtain ⟨new, hlog, hnew⟩ := h.log
  obtain ⟨new', hlog', hnew'⟩ := h'.log
  refine ⟨h'.remains.trans h.remains, new' ++ new, ?_, fun e he => ?_⟩
  · rw [hlog', hlog, List.append_assoc]
  · exact (List.mem_append.1 he).elim (hnew' e) (hnew e)

theorem Replayed.of_entry {e : WireEntry} (h : u.remains = t.remains) (hlog : u.log = e :: t.log)
    (he : e.only msg) : Replayed msg t u := by
  refine ⟨h, [e], hlog, fun e' he' => ?_⟩
  rw [List.mem_singleton.1 he']
  exact he

theorem Replayed.of_log (h : u.remains = t.remains) (hlog : u.log = t.log) : Replayed msg t u :=
  ⟨h, [], hlog, fun _ he => absurd he List.not_mem_nil⟩

/-! ## Sending -/

theorem replayed_sendSipUdp (ip : UInt32) (port : UInt16) :
    Replayed msg t (t.sendSipUdp w msg ip port).2 := by
  unfold sendSipUdp
  split
  · exact .refl t
  · split
    · exact .of_entry rfl rfl rfl
    · exact .of_log rfl rfl

theorem replayed_sendSip (ip : UInt32) (port : UInt16) :
    Replayed msg t (t.sendSip w msg ip port).2 := by
  unfold sendSip
  split
  · unfold sendSipTcp
    dsimp only
    split
    · split
      · exact .of_entry rfl rfl rfl
      · exact .refl t
    · unfold sendSipTcpRecord
      split
      · exact .of_entry rfl rfl rfl
      · exact .of_log rfl rfl
  · exact replayed_sendSipUdp ip port

theorem replayed_noteRepeated (sent : Bool) (recorded path : Flow) :
    Replayed msg t (t.noteRepeated sent recorded path) := by
  unfold noteRepeated
  split
  · exact .of_entry rfl rfl trivial
  · exact .refl t

theorem replayed_resend (udp : Bool) (recorded : Flow) (ip : UInt32) (port : UInt16) :
    Replayed msg t (t.resend w udp recorded msg ip port) := by
  unfold resend sendAgain
  split
  · exact (replayed_sendSipUdp ip port).trans (replayed_noteRepeated _ _ _)
  · exact (replayed_sendSip ip port).trans (replayed_noteRepeated _ _ _)

theorem copies_noteRepeated (sent : Bool) (recorded path : Flow) :
    (t.noteRepeated sent recorded path).copies msg = t.copies msg := by
  unfold noteRepeated
  split
  · rfl
  · rfl

theorem copies_sent {path : Flow} {time : Nat} (h : u.log = .sent msg path time :: t.log) :
    u.copies msg = path :: t.copies msg := by
  have hcopy : WireEntry.copyOf msg (.sent msg path time) = some path := if_pos rfl
  unfold copies
  rw [h, List.filterMap_cons_some hcopy]

/-- A datagram leaves once if the socket takes it. -/
theorem copies_resend_udp (recorded : Flow) (d : Dialog) :
    (t.resend w true recorded msg src.ip src.port).copies msg =
      if t.takesCopy w true src d then copyPath true src d :: t.copies msg else t.copies msg := by
  unfold resend takesCopy
  rw [if_pos rfl, if_pos rfl, copies_noteRepeated]
  unfold sendSipUdp
  split
  · rename_i hclosed
    rw [if_neg]
    rintro htakes
    simp only [Bool.and_eq_true, bne_iff_ne] at htakes
    rcases hclosed with h | h | h
    · rw [htakes.2.1.1] at h
      cases h
    · exact htakes.2.1.2 h
    · exact htakes.2.2 h
  · rename_i hopen
    simp only [not_or, Bool.not_eq_false] at hopen
    split
    · rename_i hok
      rw [if_pos (by simp [hok, hopen])]
      exact copies_sent rfl
    · rename_i hok
      rw [if_neg (by simp [hok])]
      rfl

/-- On a stream a message leaves once if its connection is there and takes it; it waits for the next
    connection otherwise. -/
theorem copies_resend_stream (recorded : Flow) (h : t.dialog.remoteSipTcp = true) :
    (t.resend w false recorded msg src.ip src.port).copies msg =
      if t.takesCopy w false src t.dialog then copyPath false src t.dialog :: t.copies msg
      else t.copies msg := by
  unfold resend takesCopy
  rw [if_neg Bool.false_ne_true, if_neg Bool.false_ne_true]
  unfold sendAgain
  rw [copies_noteRepeated]
  unfold sendSip
  rw [if_pos h]
  unfold sendSipTcp
  dsimp only
  split
  · rename_i hunusable
    have hnot : ¬(w.sendOk t.io && (t.dialog.tcpFlow.open_ && !t.dialog.tcpFlow.closeRequested &&
        !t.dialog.tcpFlow.connectRequested)) = true := by
      rcases hunusable with h | h | h <;> simp [h]
    rw [if_neg hnot]
    split
    · rfl
    · rfl
  · rename_i husable
    simp only [not_or, Bool.not_eq_false, Bool.not_eq_true] at husable
    unfold sendSipTcpRecord
    split
    · rename_i hok
      rw [if_pos (by simp [hok, husable])]
      exact copies_sent rfl
    · rename_i hok
      rw [if_neg (by simp [hok])]
      rfl

/-- A kept response is sent once more over the transport on which the peer asked. -/
theorem answeredOnce_resend {c : CompletedServerTransaction}
    (h : t.dialog.remoteSipTcp = !c.udp) :
    AnsweredOnce w c src t.dialog t (t.resend w c.udp c.flow c.response src.ip src.port) := by
  refine ⟨replayed_resend _ _ _ _, ?_⟩
  cases hudp : c.udp with
  | true => exact copies_resend_udp _ _
  | false =>
    rw [hudp] at h
    exact copies_resend_stream _ h

/-- What was only noted before does not count. -/
theorem AnsweredOnce.of_noted {c : CompletedServerTransaction} {d : Dialog}
    (h : AnsweredOnce w c src d u v) (hreplayed : Replayed c.response t u)
    (hcopies : u.copies c.response = t.copies c.response) (hio : u.io = t.io)
    (hopen : u.sipSocketOpen = t.sipSocketOpen) : AnsweredOnce w c src d t v := by
  refine ⟨hreplayed.trans h.replayed, ?_⟩
  rw [h.copies, hcopies]
  unfold takesCopy
  rw [hio, hopen]

/-! ## Dropping what is too old -/

theorem unexpired_eq_false {completedMs : UInt32} (h : t.outlived completedMs = true) :
    unexpired t.now completedMs = false := by
  have hold : decide (sipTransactionTimeoutMs < (t.now - completedMs).toNat) = true := h
  unfold unexpired
  rw [hold]
  rfl

theorem liveServer_outlived {c : CompletedServerTransaction} (h : t.outlived c.completedMs = true) :
    liveServer t.now (some c) = none := by
  unfold liveServer
  rw [Option.filter_some, unexpired_eq_false h]
  rfl

theorem liveClient_outlived {c : CompletedInviteClientTransaction}
    (h : t.outlived c.completedMs = true) : liveClient t.now (some c) = none := by
  unfold liveClient
  rw [Option.filter_some, unexpired_eq_false h]
  rfl

/-- Changing what cannot be seen of one finished transfer cannot be seen. -/
theorem map_remains_modify (now : UInt32) {l : List (Option CompletedRefer)} {i : Nat}
    {f : CompletedRefer → CompletedRefer}
    (h : ∀ c, l.getD i none = some c → (f c).remains now = c.remains now) :
    (l.modify i (Option.map f)).map (Option.map (CompletedRefer.remains now)) =
      l.map (Option.map (CompletedRefer.remains now)) := by
  apply List.ext_getElem?
  intro j
  rw [List.getElem?_map, List.getElem?_map, List.getElem?_modify]
  by_cases hij : i = j
  · subst hij
    cases hentry : l[i]? with
    | none => rfl
    | some entry =>
      cases entry with
      | none => simp
      | some c =>
        have hc : l.getD i none = some c := by
          rw [List.getD_eq_getElem?_getD, hentry]
          rfl
        simp [h c hc]
  · simp [hij]

theorem replayed_dropRecord {slot : RecordSlot} {c : CompletedServerTransaction}
    (hc : t.recordIn slot = some c) (h : t.outlived c.completedMs = true) :
    Replayed msg t (t.dropRecord slot) := by
  have hlive := liveServer_outlived h
  cases slot with
  -- What has outlived its transaction is no part of what remains, wherever it was kept.
  | acceptedRefer =>
    have hsame : (t.referDialog.map fun r => { r with acceptedRefer := none }).map
        (ReferDialog.remains t.now) = t.referDialog.map (ReferDialog.remains t.now) := by
      cases hr : t.referDialog with
      | none => rfl
      | some r =>
        unfold recordIn at hc
        rw [hr] at hc
        have haccepted : r.acceptedRefer = some c := hc
        simp only [Option.map_some, ReferDialog.remains, haccepted, hlive]
        rfl
    exact .of_log (congrArg (fun r => { t.remains with referDialog := r }) hsame) rfl
  | invite =>
    have hinvite : t.dialog.completedInvite = some c := hc
    have hsame : { t.dialog with completedInvite := none }.remains t.now =
        t.dialog.remains t.now := by
      simp only [Dialog.remains, hinvite, hlive]
      rfl
    exact .of_entry (congrArg (fun d => { t.remains with dialog := d }) hsame) rfl rfl
  | control =>
    have hcontrol : t.dialog.completedControl = some c := hc
    have hsame : { t.dialog with completedControl := none }.remains t.now =
        t.dialog.remains t.now := by
      simp only [Dialog.remains, hcontrol, hlive]
      rfl
    exact .of_log (congrArg (fun d => { t.remains with dialog := d }) hsame) rfl
  | retiredAccepted i =>
    refine .of_log ?_ rfl
    have hsame := map_remains_modify t.now (l := t.completedRefers) (i := i)
      (f := fun c => { c with accepted := none }) fun entry hentry => by
        have hbind : (t.completedRefers.getD i none).bind CompletedRefer.accepted = some c := hc
        rw [hentry] at hbind
        have haccepted : entry.accepted = some c := hbind
        simp only [CompletedRefer.remains, haccepted, hlive]
        rfl
    exact congrArg (fun l => { t.remains with completedRefers := l }) hsame
  | retiredControl i =>
    refine .of_log ?_ rfl
    have hsame := map_remains_modify t.now (l := t.completedRefers) (i := i)
      (f := fun c => { c with control := none }) fun entry hentry => by
        have hbind : (t.completedRefers.getD i none).bind CompletedRefer.control = some c := hc
        rw [hentry] at hbind
        have hcontrol : entry.control = some c := hbind
        simp only [CompletedRefer.remains, hcontrol, hlive]
        rfl
    exact congrArg (fun l => { t.remains with completedRefers := l }) hsame

/-! ## Look-ups -/

/-- The look-up for the request finds this record. -/
def Finds (m : SipMessage) (c : CompletedServerTransaction) (t : Transport) : Prop :=
  t.recordIn (t.replaySlot m c.method) = some c

/-- The request is one that the record answers. -/
structure Repetition (m : SipMessage) (src : Peer) (c : CompletedServerTransaction) : Prop where
  method : m.method = c.method
  remembered : isRememberedMethod c.method = true
  framed : m.framed = true
  replayFramed : m.replayFramed = true
  wellFormed : c.method = .invite → inviteWellFormed m = true
  answered : recordMatches m src c.method c.udp c = true

theorem replay_of_finds {c : CompletedServerTransaction} (hm : Repetition m src c)
    (hlive : t.outlived c.completedMs = false) (h : Finds m c t) :
    t.replayCompletedResponse w m src m.method c.udp =
      (true, t.resend w c.udp c.flow c.response src.ip src.port) := by
  have hrecord : t.recordIn (t.replaySlot m c.method) = some c := h
  unfold replayCompletedResponse
  rw [hm.method]
  dsimp only
  rw [hrecord, if_neg (by simp [hm.replayFramed])]
  dsimp only
  rw [hlive, if_neg Bool.false_ne_true, hm.answered, if_pos rfl]

/-- A look-up that finds nothing drops what is too old. -/
theorem replayed_missed {method : Method} {udp : Bool}
    (h : t.replayable m src method udp = false) :
    Replayed msg t (t.replayCompletedResponse w m src method udp).2 := by
  rcases replayCompletedResponse_cases (w := w) m src method udp t with
    ⟨hr, _⟩ | ⟨_, hold, he⟩ | ⟨_, _, he⟩
  · rw [h] at hr
    cases hr
  · rw [he]
    unfold forgets at hold
    cases hc : t.recordIn (t.replaySlot m method) with
    | none =>
      rw [hc, Option.elim_none, Bool.and_false] at hold
      cases hold
    | some c =>
      rw [hc, Option.elim_some, Bool.and_eq_true] at hold
      exact replayed_dropRecord hc hold.2
  · rw [he]
    exact .refl t

/-- A request is no response: the look-up of a kept ACK drops what is too old. -/
theorem replayed_ackMissed (h : m.isResponse = false) (udp : Bool) :
    (t.replayCompletedInviteAck w m src udp).1 = false ∧
      Replayed msg t (t.replayCompletedInviteAck w m src udp).2 := by
  unfold replayCompletedInviteAck
  dsimp only
  split
  · exact ⟨rfl, .refl t⟩
  · cases hretired : t.completedRefers.findIdx? (retiredAckMatches m t.now) with
    | none =>
      dsimp only
      split
      · exact ⟨rfl, .refl t⟩
      · rename_i c hc
        split
        · rename_i hold
          refine ⟨rfl, .of_log ?_ rfl⟩
          -- only a record that has outlived its lifetime is dropped
          have hsame : { t.dialog with completedInviteClient := none }.remains t.now =
              t.dialog.remains t.now := by
            simp only [Dialog.remains, hc, liveClient_outlived hold]
            rfl
          exact congrArg (fun d => { t.remains with dialog := d }) hsame
        · rw [h, Bool.false_and, if_neg Bool.false_ne_true]
          exact ⟨rfl, .refl t⟩
    | some i =>
      dsimp only
      split
      · exact ⟨rfl, .refl t⟩
      · rename_i c hc
        split
        · rename_i hold
          refine ⟨rfl, .of_log ?_ rfl⟩
          have hsame := map_remains_modify t.now (l := t.completedRefers) (i := i)
            (f := fun e => { e with invite := none }) fun entry hentry => by
              rw [hentry] at hc
              have hinvite : entry.invite = some c := hc
              simp only [CompletedRefer.remains, hinvite, liveClient_outlived hold]
              rfl
          exact congrArg (fun l => { t.remains with completedRefers := l }) hsame
        · rw [h, Bool.false_and, if_neg Bool.false_ne_true]
          exact ⟨rfl, .refl t⟩

/-! ## The dispatcher -/

theorem Repetition.request {c : CompletedServerTransaction} (hm : Repetition m src c) :
    m.isResponse = false := by
  have hremembered := hm.remembered
  rw [← hm.method] at hremembered
  unfold SipMessage.method at hremembered
  unfold SipMessage.isResponse
  split
  · rfl
  · rename_i hstart
    rw [hstart] at hremembered
    cases hremembered

/-- In the dialog that keeps its response, a repeated request is answered from the record. Under the
    scope of the second dialog an INVITE or an UPDATE is refused before. -/
theorem dispatch_repetition {c : CompletedServerTransaction} (hm : Repetition m src c)
    (hlive : t.outlived c.completedMs = false) (h : Finds m c t)
    (hpath : t.dialog.remoteSipTcp = !c.udp)
    (hscope : t.referContextActive = false ∨ isReplayedMethod c.method = true) :
    ∃ event status, t.dispatch w m src = ({ t with
      lastSipEvent := event
      lastSipStatusCode := status } : Transport).resend w c.udp c.flow c.response src.ip
        src.port := by
  have hreplay (event : SipEvent) (status : Nat) : ({ t with
      lastSipEvent := event
      lastSipStatusCode := status } : Transport).replayCompletedResponse w m src m.method c.udp =
        (true, ({ t with
          lastSipEvent := event
          lastSipStatusCode := status } : Transport).resend w c.udp c.flow c.response src.ip
            src.port) := replay_of_finds hm hlive h
  unfold dispatch
  rw [hm.request, if_neg Bool.false_ne_true]
  unfold handleRequest
  dsimp only
  cases hrouted : isReplayedMethod m.method with
  | true =>
    refine ⟨t.lastSipEvent, t.lastSipStatusCode, ?_⟩
    rw [if_pos rfl, hpath, Bool.not_not, hreplay t.lastSipEvent t.lastSipStatusCode, if_pos rfl]
  | false =>
    rw [if_neg Bool.false_ne_true, if_neg Bool.false_ne_true]
    have hown : t.referContextActive = false := by
      refine hscope.resolve_right fun hreplayed => ?_
      rw [← hm.method, hrouted] at hreplayed
      cases hreplayed
    have hmethod : m.method = .invite ∨ m.method = .update := by
      have hremembered := hm.remembered
      rw [← hm.method] at hremembered
      cases hmethod : m.method <;> rw [hmethod] at hremembered hrouted <;>
        simp_all [isRememberedMethod, isReplayedMethod]
    -- the request is noted as the last event, and its handler looks into the records first
    have hmarked : ∃ event status, (if sipEventFromMethod m.method = .none then (false, t).2
        else (false, t).2.markSipEvent (sipEventFromMethod m.method) 0) =
          { t with lastSipEvent := event, lastSipStatusCode := status } := by
      split
      · exact ⟨t.lastSipEvent, t.lastSipStatusCode, rfl⟩
      · exact ⟨_, _, rfl⟩
    obtain ⟨event, status, hu⟩ := hmarked
    refine ⟨event, status, ?_⟩
    have hfound := hreplay event status
    rw [hu]
    unfold routeRequest
    rw [if_neg (by simp [hown])]
    rcases hmethod with hinvite | hupdate
    · rw [hinvite] at hfound ⊢
      unfold handleInvite
      rw [if_neg (by simp [hm.wellFormed (hm.method ▸ hinvite)])]
      dsimp only
      rw [hpath, Bool.not_not, hfound, if_pos rfl]
    · rw [hupdate] at hfound ⊢
      unfold handleUpdate
      dsimp only
      rw [hpath, Bool.not_not, hfound, if_pos rfl]

/-- What was noted of a request before it was answered. -/
theorem answeredOnce_dispatch {c : CompletedServerTransaction} (hm : Repetition m src c)
    (hlive : t.outlived c.completedMs = false) (h : Finds m c t)
    (hpath : t.dialog.remoteSipTcp = !c.udp)
    (hscope : t.referContextActive = false ∨ isReplayedMethod c.method = true) :
    Sent t (t.dispatch w m src) ∧ AnsweredOnce w c src t.dialog t (t.dispatch w m src) := by
  obtain ⟨event, status, hdispatch⟩ := dispatch_repetition (w := w) hm hlive h hpath hscope
  have hnoted : Sent t { t with lastSipEvent := event, lastSipStatusCode := status } :=
    ⟨t.dialog.tcpFlow, t.io, t.log, event, status, rfl, rfl⟩
  rw [hdispatch]
  refine ⟨hnoted.trans (sent_resend _ _ _ _), ?_⟩
  generalize hu : ({ t with lastSipEvent := event, lastSipStatusCode := status } : Transport) = u
  have hdialog : u.dialog = t.dialog := by rw [← hu]
  have hresent : AnsweredOnce w c src u.dialog u _ :=
    answeredOnce_resend (by rw [hdialog]; exact hpath)
  rw [hdialog] at hresent
  refine hresent.of_noted ?_ ?_ ?_ ?_
  · rw [← hu]
    exact .of_log rfl rfl
  · rw [← hu]
    rfl
  · rw [← hu]
  · rw [← hu]

/-! ## Received messages -/

/-- The message goes to the second dialog of a transfer. -/
def forSecond (m : SipMessage) (t : Transport) : Bool :=
  t.referDialog.isSome && m.callId == t.referWireId

/-- The dispatcher will look at this record of the owner. -/
def LooksAtOwn (m : SipMessage) (c : CompletedServerTransaction) (t : Transport) : Prop :=
  Finds m c t ∧ (c.udp = false → t.dialog.remoteSipTcp = true ∧ t.forSecond m = false)

/-- The dispatcher will look at this record under the scope of the second dialog. -/
structure LooksAtSecond (m : SipMessage) (src : Peer) (c : CompletedServerTransaction)
    (t : Transport) : Prop where
  second : t.forSecond m = true
  method : isReplayedMethod c.method = true
  path : t.enterRefer.dialog.remoteSipTcp = !c.udp
  /-- A datagram is not answered from a record of the owner or of a finished transfer. -/
  unanswered : c.udp = true →
    t.replaySlot m c.method = .control ∧ t.replayable m src c.method true = false
  finds : Finds m c t.enterRefer

/-- The event by which a request arrives again over the transport of its record. -/
def arrival (m : SipMessage) (src : Peer) (c : CompletedServerTransaction) : Event :=
  if c.udp then .udp m src else .tcp m src

/-- Receiving the request leaves the transport as it was after the response alone was sent once, but
    for what the timers of a transfer do after it. A stream is that of the second dialog. -/
def AnswersAgain (w : World) (e : Event) (src : Peer) (c : CompletedServerTransaction)
    (t : Transport) : Prop :=
  ∃ u, AnsweredOnce w c src t.enterRefer.dialog t u ∧ step w e t = u.pumpRefer w

theorem replayed_udp_owner {c : CompletedServerTransaction} (hm : Repetition m src c)
    (hlive : t.outlived c.completedMs = false) (hudp : c.udp = true) (h : Finds m c t) :
    t.handleSipUdpDatagram w m src = t.resend w c.udp c.flow c.response src.ip src.port := by
  have hreplay := replay_of_finds (w := w) hm hlive h
  rw [hudp] at hreplay
  unfold handleSipUdpDatagram
  dsimp only
  rw [hreplay, if_pos rfl, hudp]

theorem answeredOnce_stream_owner {c : CompletedServerTransaction} (hm : Repetition m src c)
    (hlive : t.outlived c.completedMs = false) (hpath : t.dialog.remoteSipTcp = !c.udp)
    (hscope : t.referContextActive = false) (hown : t.forSecond m = false) (h : Finds m c t) :
    Sent t (t.handleSipDatagram w m src) ∧
      AnsweredOnce w c src t.dialog t (t.handleSipDatagram w m src) := by
  have hsent : Sent t (t.record (.received m src t.clock)) := ⟨_, _, _, _, _, rfl, rfl⟩
  have hheard : Replayed c.response t (t.record (.received m src t.clock)) :=
    .of_entry rfl rfl trivial
  unfold handleSipDatagram
  dsimp only
  rw [if_neg (by simp [hm.framed]), if_neg ?_]
  · obtain ⟨hdone, hanswered⟩ := answeredOnce_dispatch (w := w)
        (t := t.record (.received m src t.clock))
      hm hlive h hpath (.inl hscope)
    exact ⟨hsent.trans hdone, hanswered.of_noted hheard rfl rfl rfl⟩
  · rintro ⟨_, hsecond, hcall⟩
    unfold forSecond at hown
    rw [show t.referDialog.isSome = true from hsecond, hcall] at hown
    simp [record] at hown

theorem remains_swapRefer (t : Transport) : t.swapRefer.remains = t.remains.swapRefer := by
  cases hr : t.referDialog with
  | none =>
    have hnone : t.remains.referDialog = none :=
      congrArg (Option.map (ReferDialog.remains t.now)) hr
    rw [swapRefer_none hr, swapRefer_none hnone]
  | some r =>
    have hsome : t.remains.referDialog = some (r.remains t.now) :=
      congrArg (Option.map (ReferDialog.remains t.now)) hr
    rw [swapRefer_some hr, swapRefer_some hsome]
    rfl

theorem swapView_remains : SwapView remains :=
  ⟨remains_swapRefer, fun _ _ => rfl, fun _ => rfl, fun _ => rfl⟩

theorem Replayed.inRefer {f : Transport → Transport} (hscope : t.referContextActive = false)
    (h : Replayed msg t.enterRefer (f t.enterRefer)) : Replayed msg t (t.inRefer f) := by
  obtain ⟨new, hlog, hnew⟩ := h.log
  refine ⟨swapView_remains.inRefer hscope h.remains, new, ?_, hnew⟩
  have henter : t.enterRefer.log = t.log := log_swapRefer
  have hleave : (t.inRefer f).log = (f t.enterRefer).log := log_swapRefer
  rw [hleave, hlog, henter]

theorem AnsweredOnce.inRefer {f : Transport → Transport} {c : CompletedServerTransaction}
    {d : Dialog} (hscope : t.referContextActive = false)
    (h : AnsweredOnce w c src d t.enterRefer (f t.enterRefer)) :
    AnsweredOnce w c src d t (t.inRefer f) := by
  have hlog : t.enterRefer.log = t.log := log_swapRefer
  have hleft : (t.inRefer f).log = (f t.enterRefer).log := log_swapRefer
  have hio : t.enterRefer.io = t.io ∧ t.enterRefer.sipSocketOpen = t.sipSocketOpen := by
    unfold enterRefer openProposal swapRefer
    dsimp only
    split
    · exact ⟨rfl, rfl⟩
    · exact ⟨rfl, rfl⟩
  refine ⟨h.replayed.inRefer hscope, ?_⟩
  have hcopies := h.copies
  unfold takesCopy at hcopies ⊢
  unfold Transport.copies at hcopies ⊢
  rw [hleft, hcopies, hlog, hio.1, hio.2]

theorem answeredOnce_second {c : CompletedServerTransaction} (hm : Repetition m src c)
    (hlive : t.outlived c.completedMs = false) (hscope : t.referContextActive = false)
    (hsecond : t.forSecond m = true) (hmethod : isReplayedMethod c.method = true)
    (hpath : t.enterRefer.dialog.remoteSipTcp = !c.udp) (h : Finds m c t.enterRefer) :
    ∃ u, AnsweredOnce w c src t.enterRefer.dialog t u ∧
      t.handleSipDatagram w m src = u.pumpRefer w := by
  have hheard : Replayed c.response t (t.record (.received m src t.clock)) :=
    .of_entry rfl rfl trivial
  simp only [forSecond, Bool.and_eq_true, beq_iff_eq] at hsecond
  unfold handleSipDatagram
  dsimp only
  rw [if_neg (by simp [hm.framed]), if_pos ⟨hscope, hsecond⟩]
  have hentered : (t.record (.received m src t.clock)).enterRefer =
      t.enterRefer.record (.received m src t.clock) := by
    unfold enterRefer openProposal swapRefer record
    dsimp only
    cases t.referDialog <;> rfl
  have hlive' : (t.enterRefer.record (.received m src t.clock)).outlived c.completedMs = false := by
    have hclock : t.enterRefer.clock = t.clock := clock_swapRefer _
    unfold outlived now at hlive ⊢
    rw [show (t.enterRefer.record (.received m src t.clock)).clock = t.clock from hclock]
    exact hlive
  have hanswered := (answeredOnce_dispatch (w := w)
    (t := t.enterRefer.record (.received m src t.clock)) hm hlive' h hpath (.inr hmethod)).2
  refine ⟨_, ?_, rfl⟩
  rw [← hentered] at hanswered
  have hinside : AnsweredOnce w c src t.enterRefer.dialog (t.record (.received m src t.clock))
      ((t.record (.received m src t.clock)).inRefer fun t => t.dispatch w m src) := by
    refine AnsweredOnce.inRefer hscope ?_
    rw [hentered] at hanswered ⊢
    exact hanswered
  exact hinside.of_noted hheard rfl rfl rfl

/-! ## Any number of times -/

theorem answeredOnce_arrival {c : CompletedServerTransaction} (hm : Repetition m src c)
    (hscope : t.referContextActive = false) (hlive : t.outlived c.completedMs = false)
    (h : LooksAtOwn m c t) :
    Sent t (step w (arrival m src c) t) ∧
      AnsweredOnce w c src t.dialog t (step w (arrival m src c) t) := by
  unfold arrival
  cases hudp : c.udp with
  | true =>
    show Sent t (t.handleSipUdpDatagram w m src) ∧
      AnsweredOnce w c src t.dialog t (t.handleSipUdpDatagram w m src)
    rw [replayed_udp_owner hm hlive hudp h.1]
    refine ⟨sent_resend _ _ _ _, replayed_resend _ _ _ _, ?_⟩
    rw [hudp]
    exact copies_resend_udp _ _
  | false =>
    obtain ⟨hpath, hown⟩ := h.2 hudp
    exact answeredOnce_stream_owner hm hlive (by rw [hpath, hudp]; rfl) hscope hown h.1

/-- What a sent message leaves is looked at again. -/
theorem LooksAtOwn.sent {c : CompletedServerTransaction} (h : LooksAtOwn m c t) (hu : Sent t u) :
    LooksAtOwn m c u := by
  obtain ⟨flow, io, log, event, status, rfl, _⟩ := hu
  exact h

/-- The repetitions are answered one by one, and nothing else happens in all of them. -/
theorem answeredOnce_any_number {c : CompletedServerTransaction} (hm : Repetition m src c)
    (hscope : t.referContextActive = false) (hlive : t.outlived c.completedMs = false)
    (h : LooksAtOwn m c t) (n : Nat) :
    EventRun.Along (step w) (fun e u => AnsweredOnce w c src u.dialog u (step w e u)) t
        (List.replicate n (arrival m src c)) ∧
      Replayed c.response t (EventRun.after (step w) t (List.replicate n (arrival m src c))) := by
  induction n generalizing t with
  | zero => exact ⟨trivial, .refl t⟩
  | succ n ih =>
    obtain ⟨hsent, hanswered⟩ := answeredOnce_arrival (w := w) hm hscope hlive h
    rw [List.replicate_succ, EventRun.after_cons, EventRun.along_cons]
    have hnext := h.sent hsent
    obtain ⟨flow, io, log, event, status, he, _⟩ := hsent
    have hrest := ih (t := step w (arrival m src c) t) (by rw [he]; exact hscope)
      (by rw [he]; exact hlive) hnext
    exact ⟨⟨hanswered, hrest.1⟩, hanswered.replayed.trans hrest.2⟩

/-! ## Datagrams for the second dialog -/

theorem enterRefer_some {r : ReferDialog} (h : t.referDialog = some r) : t.enterRefer = { t with
    dialog := r.dialog
    negotiation := r.negotiation
    referDialog := some { r with dialog := t.dialog, negotiation := t.negotiation }
    referContextActive := true
    mediaProposalEpoch := t.mediaProposalEpoch + 1 } := by
  unfold enterRefer openProposal swapRefer
  dsimp only
  rw [h]

theorem mem_modify {α : Type} {l : List α} {i : Nat} {f : α → α} {x : α} (h : x ∈ l.modify i f) :
    ∃ y ∈ l, x = y ∨ x = f y := by
  obtain ⟨j, hj⟩ := List.mem_iff_getElem?.1 h
  rw [List.getElem?_modify] at hj
  cases hl : l[j]? with
  | none =>
    rw [hl] at hj
    cases hj
  | some y =>
    rw [hl, Option.map_eq_map, Option.map_some, Option.some_inj] at hj
    refine ⟨y, List.mem_of_getElem? hl, ?_⟩
    split at hj
    · exact .inr hj.symm
    · exact .inl hj.symm

/-- Dropping the ACK of a finished transfer hides none of its responses. -/
theorem unretired_modify {l : List (Option CompletedRefer)} {i : Nat} {method : Method}
    {now : UInt32} (h : l.findIdx? (retiredMatches m method now) = none) :
    (l.modify i (Option.map fun e => { e with invite := none })).findIdx?
      (retiredMatches m method now) = none := by
  rw [List.findIdx?_eq_none_iff] at h ⊢
  intro x hx
  obtain ⟨y, hy, rfl | rfl⟩ := mem_modify hx
  · exact h x hy
  · cases y with
    | none => rfl
    | some e => exact h (some e) hy

/-- Where the look-up goes to the last request within the dialog, no finished transfer keeps the
    response. -/
theorem unretired_of_control {method : Method} (h : t.replaySlot m method = .control) :
    t.completedRefers.findIdx? (retiredMatches m method t.now) = none ∧ method ≠ .invite ∧
      ¬(method = .refer ∧ t.referDialog.isSome = true) := by
  unfold replaySlot at h
  cases hretired : t.completedRefers.findIdx? (retiredMatches m method t.now) with
  | some i =>
    rw [hretired] at h
    dsimp only at h
    split at h <;> cases h
  | none =>
    rw [hretired] at h
    dsimp only at h
    split at h
    · cases h
    · split at h
      · cases h
      · rename_i hrefer hinvite
        exact ⟨rfl, hinvite, hrefer⟩

/-- `u` is `t` but for records that the second dialog of a transfer does not have. -/
def OwnRecords (m : SipMessage) (method : Method) (t u : Transport) : Prop :=
  ∃ control client refers, u = { t with
      dialog := { t.dialog with completedControl := control, completedInviteClient := client }
      completedRefers := refers } ∧
    refers.findIdx? (retiredMatches m method t.now) = none

theorem ownRecords_replay {method : Method} (hslot : t.replaySlot m method = .control)
    (hmiss : t.replayable m src method true = false) :
    (t.replayCompletedResponse w m src method true).1 = false ∧
      OwnRecords m method t (t.replayCompletedResponse w m src method true).2 := by
  have hunretired := (unretired_of_control hslot).1
  rcases replayCompletedResponse_cases (w := w) m src method true t with
    ⟨hr, _⟩ | ⟨_, _, he⟩ | ⟨_, _, he⟩
  · rw [hmiss] at hr
    cases hr
  · rw [he, hslot]
    exact ⟨rfl, none, t.dialog.completedInviteClient, t.completedRefers, rfl, hunretired⟩
  · rw [he]
    exact ⟨rfl, t.dialog.completedControl, t.dialog.completedInviteClient, t.completedRefers, rfl,
      hunretired⟩

theorem ownRecords_ack {method : Method} (hrequest : m.isResponse = false)
    (h : OwnRecords m method t u) :
    OwnRecords m method t (u.replayCompletedInviteAck w m src true).2 := by
  obtain ⟨control, client, refers, rfl, hunretired⟩ := h
  unfold replayCompletedInviteAck
  dsimp only
  split
  · exact ⟨control, client, refers, rfl, hunretired⟩
  · split
    · exact ⟨control, client, refers, rfl, hunretired⟩
    · split
      · split
        · exact ⟨control, client, _, rfl, unretired_modify hunretired⟩
        · exact ⟨control, none, refers, rfl, hunretired⟩
      · rw [hrequest, Bool.false_and, if_neg Bool.false_ne_true]
        exact ⟨control, client, refers, rfl, hunretired⟩

/-- The second dialog is as it was. -/
theorem OwnRecords.second {c : CompletedServerTransaction} (h : LooksAtSecond m src c t)
    (hslot : t.replaySlot m c.method = .control) (hu : OwnRecords m c.method t u) :
    u.forSecond m = true ∧ u.enterRefer.dialog.remoteSipTcp = !c.udp ∧ Finds m c u.enterRefer ∧
      u.referContextActive = t.referContextActive ∧ u.clock = t.clock := by
  obtain ⟨hunretired, hinvite, hrefer⟩ := unretired_of_control hslot
  obtain ⟨control, client, refers, rfl, hunretired'⟩ := hu
  obtain ⟨r, hr⟩ := Option.isSome_iff_exists.1 (Bool.and_eq_true_iff.1 h.second).1
  have hmethod : c.method ≠ .refer := by
    intro hm
    exact hrefer ⟨hm, by rw [hr]; rfl⟩
  have hslots (v : Transport) (hv : v.completedRefers.findIdx? (retiredMatches m c.method v.now) =
      none) : v.replaySlot m c.method = .control := by
    unfold replaySlot
    rw [hv]
    dsimp only
    rw [if_neg (by simp [hmethod]), if_neg hinvite]
  have hfound (v : Transport) (hv : v.replaySlot m c.method = .control) :
      Finds m c v ↔ v.dialog.completedControl = some c := by
    unfold Finds
    rw [hv]
    rfl
  have hpath := h.path
  have hslot' : t.enterRefer.replaySlot m c.method = .control := by
    refine hslots _ ?_
    rw [enterRefer_some hr]
    exact hunretired
  have hcontrol := (hfound _ hslot').1 h.finds
  rw [enterRefer_some hr] at hpath hcontrol
  have hr' : ({ t with
      dialog := { t.dialog with completedControl := control, completedInviteClient := client }
      completedRefers := refers } : Transport).referDialog = some r := hr
  rw [enterRefer_some hr']
  exact ⟨h.second, hpath, (hfound _ (hslots _ hunretired')).2 hcontrol, rfl, rfl⟩

/-- The records of the owner have no part in what is sent. -/
theorem OwnRecords.unsent {method : Method} (h : OwnRecords m method t u)
    (hsome : t.referDialog.isSome = true) (msg : SipMessage) :
    u.enterRefer.dialog = t.enterRefer.dialog ∧ u.copies msg = t.copies msg ∧ u.io = t.io ∧
      u.sipSocketOpen = t.sipSocketOpen := by
  obtain ⟨control, client, refers, rfl, _⟩ := h
  obtain ⟨r, hr⟩ := Option.isSome_iff_exists.1 hsome
  have hr' : ({ t with
      dialog := { t.dialog with completedControl := control, completedInviteClient := client }
      completedRefers := refers } : Transport).referDialog = some r := hr
  rw [enterRefer_some hr, enterRefer_some hr']
  exact ⟨rfl, rfl, rfl, rfl⟩

theorem answeredOnce_udp_second {c : CompletedServerTransaction} (hm : Repetition m src c)
    (hlive : t.outlived c.completedMs = false) (hscope : t.referContextActive = false)
    (hudp : c.udp = true) (h : LooksAtSecond m src c t) :
    ∃ u, AnsweredOnce w c src t.enterRefer.dialog t u ∧
      t.handleSipUdpDatagram w m src = u.pumpRefer w := by
  -- The owner's records do not answer it first,
  obtain ⟨hslot, hmiss⟩ := h.unanswered hudp
  have hreplayed : Replayed c.response t (t.replayCompletedResponse w m src m.method true).2 := by
    rw [hm.method]
    exact replayed_missed hmiss
  have hown := ownRecords_replay (w := w) hslot hmiss
  rw [← hm.method] at hown
  unfold handleSipUdpDatagram
  dsimp only
  generalize t.replayCompletedResponse w m src m.method true = r at hreplayed hown
  rw [if_neg (by simp [hown.1])]
  -- nor does a kept ACK,
  obtain ⟨hunacked, hacked⟩ :
      (r.2.replayCompletedInviteAck w m src true).1 = false ∧
        Replayed c.response r.2 (r.2.replayCompletedInviteAck w m src true).2 :=
    replayed_ackMissed hm.request true
  have hown' : OwnRecords m m.method t (r.2.replayCompletedInviteAck w m src true).2 :=
    ownRecords_ack hm.request hown.2
  generalize r.2.replayCompletedInviteAck w m src true = r' at hunacked hacked hown'
  rw [if_neg (by simp [hunacked])]
  rw [hm.method] at hown'
  obtain ⟨hsecond, hpath, hfinds, hactive, hclock⟩ := OwnRecords.second h hslot hown'
  obtain ⟨hdialog, hcopies, hio, hopen⟩ :=
    hown'.unsent (Bool.and_eq_true_iff.1 h.second).1 c.response
  -- so that the datagram goes to the second dialog.
  have hrefer : r'.2.referUdp m = true := by
    unfold forSecond at hsecond
    rw [Bool.and_eq_true] at hsecond
    obtain ⟨x, hx⟩ := Option.isSome_iff_exists.1 hsecond.1
    rw [enterRefer_some hx, hudp] at hpath
    unfold referUdp
    rw [hx, Option.elim_some, show x.dialog.remoteSipTcp = false from hpath, hsecond.2]
    rfl
  rw [if_neg (by simp [hrefer]), if_pos hrefer]
  have hlive' : r'.2.outlived c.completedMs = false := by
    unfold outlived now at hlive ⊢
    rw [hclock]
    exact hlive
  obtain ⟨u, hu, hrun⟩ := answeredOnce_second (w := w) hm hlive' (hactive.trans hscope) hsecond
    h.method hpath hfinds
  rw [hdialog] at hu
  exact ⟨u, hu.of_noted (hreplayed.trans hacked) hcopies hio hopen, hrun⟩

/-! ## Every record -/

/-- The transport remembers this response: for the owner, for the second dialog of a transfer, or
    for a finished transfer. -/
def Remembers (c : CompletedServerTransaction) (t : Transport) : Prop :=
  ∃ slot, t.recordIn slot = some c ∨ t.enterRefer.recordIn slot = some c

/-- A message that nothing was formed for was sent from memory. -/
theorem Replayed.formed (h : Replayed msg t u) : u.formed = t.formed := by
  obtain ⟨new, hlog, hnew⟩ := h.log
  have hnone : new.filterMap WireEntry.formed = [] := by
    refine List.filterMap_eq_nil_iff.2 fun e he => ?_
    have honly := hnew e he
    cases e with
    | responded => cases honly
    | refused => cases honly
    | _ => rfl
  unfold Transport.formed
  rw [hlog, List.filterMap_append, hnone, List.nil_append]

/-- In every run, a request whose response the dispatcher will look at is answered again: each
    repetition sends the response once if the socket takes it, and nothing else happens. -/
theorem repeated_request_is_answered_again (w : World) (setup : Setup) (es : List Event)
    (m : SipMessage) (src : Peer) (c : CompletedServerTransaction) (hm : Repetition m src c)
    (hlive : (runFrom w setup es).outlived c.completedMs = false) :
    (LooksAtOwn m c (runFrom w setup es) → ∀ n,
      EventRun.Along (step w) (fun e u => AnsweredOnce w c src u.dialog u (step w e u))
          (runFrom w setup es) (List.replicate n (arrival m src c)) ∧
        Replayed c.response (runFrom w setup es)
          (EventRun.after (step w) (runFrom w setup es) (List.replicate n (arrival m src c)))) ∧
    (LooksAtSecond m src c (runFrom w setup es) →
      AnswersAgain w (arrival m src c) src c (runFrom w setup es)) := by
  have hscope := scope_runFrom w setup es
  generalize runFrom w setup es = t at hlive hscope
  refine ⟨fun h n => answeredOnce_any_number hm hscope hlive h n, fun h => ?_⟩
  unfold AnswersAgain arrival
  cases hudp : c.udp with
  | true => exact answeredOnce_udp_second hm hlive hscope hudp h
  | false => exact answeredOnce_second hm hlive hscope h.second h.method h.path h.finds

/-- Hall hangs up and repeats its BYE: the response leaves again each time. -/
theorem repeated_bye_is_answered_again :
    let t := runFrom grantingWorld plainSetup
      (answeredCall ++ [.udp (requestFromHall .bye 2 "z9hG4bKc") hall])
    ∃ c, t.dialog.completedControl = some c ∧
      (∀ n, EventRun.Along (step grantingWorld)
          (fun e u => AnsweredOnce grantingWorld c hall u.dialog u (step grantingWorld e u)) t
          (List.replicate n (arrival (requestFromHall .bye 2 "z9hG4bKc") hall c)) ∧
        Replayed c.response t (EventRun.after (step grantingWorld) t
          (List.replicate n (arrival (requestFromHall .bye 2 "z9hG4bKc") hall c)))) ∧
      t.takesCopy grantingWorld c.udp hall t.dialog = true := by
  intro t
  obtain ⟨c, hc⟩ : ∃ c, t.dialog.completedControl = some c :=
    Option.isSome_iff_exists.1 (by decide)
  have hrecord : (t.dialog.completedControl.elim false fun c =>
      decide (c.method = .bye) && !t.outlived c.completedMs &&
        recordMatches (requestFromHall .bye 2 "z9hG4bKc") hall .bye c.udp c && c.udp) = true := by
    decide
  rw [hc] at hrecord
  simp only [Option.elim_some, Bool.and_eq_true, decide_eq_true_eq, Bool.not_eq_true'] at hrecord
  obtain ⟨⟨⟨hmethod, hlive⟩, hmatch⟩, hudp⟩ := hrecord
  have hm : Repetition (requestFromHall .bye 2 "z9hG4bKc") hall c :=
    ⟨hmethod.symm, by rw [hmethod]; rfl, rfl, rfl, by simp [hmethod], by rw [hmethod]; exact hmatch⟩
  have hfinds : Finds (requestFromHall .bye 2 "z9hG4bKc") c t := by
    unfold Finds
    rw [hmethod, ← hc]
    rfl
  refine ⟨c, hc, (repeated_request_is_answered_again _ _ _ _ _ c hm hlive).1
    ⟨hfinds, fun hstream => absurd (hudp.symm.trans hstream) (by decide)⟩, ?_⟩
  rw [hudp]
  decide

/-- An UPDATE was answered, and then its dialog handed over to the second one of a transfer: its
    repetition is refused. -/
theorem update_is_refused_after_handover :
    ¬ ∀ (es : List Event) (m : SipMessage) (src : Peer) (c : CompletedServerTransaction),
      let t := runFrom grantingWorld plainSetup es
      Remembers c t → Repetition m src c → t.outlived c.completedMs = false →
      Replayed c.response t (step grantingWorld (arrival m src c) t) := by
  intro h
  have hanswered := h (answeredCall ++ [.udp (referFromHall false) hall,
    .udp (requestFromHall .update 3 "z9hG4bKd") hall, .udp (responseFromAttic 200 "OK") attic])
    (requestFromHall .update 3 "z9hG4bKd") hall
  generalize ht : runFrom grantingWorld plainSetup _ = t at hanswered
  obtain ⟨c, hc⟩ : ∃ c, t.enterRefer.recordIn .control = some c :=
    Option.isSome_iff_exists.1 (by rw [← ht]; decide)
  have hrecord : ((t.enterRefer.recordIn .control).elim false fun c =>
      decide (c.method = .update) && !t.outlived c.completedMs &&
        recordMatches (requestFromHall .update 3 "z9hG4bKd") hall .update c.udp c && c.udp) =
          true := by
    rw [← ht]
    decide
  rw [hc] at hrecord
  simp only [Option.elim_some, Bool.and_eq_true, decide_eq_true_eq, Bool.not_eq_true'] at hrecord
  obtain ⟨⟨⟨hmethod, hlive⟩, hmatch⟩, hudp⟩ := hrecord
  have hm : Repetition (requestFromHall .update 3 "z9hG4bKd") hall c :=
    ⟨hmethod.symm, by rw [hmethod]; rfl, rfl, rfl, by simp [hmethod], by rw [hmethod]; exact hmatch⟩
  have hformed := (hanswered c ⟨.control, .inr hc⟩ hm hlive).formed
  unfold arrival at hformed
  rw [hudp, if_pos rfl, ← ht] at hformed
  exact absurd (congrArg List.length hformed) (by decide)

end Transport

end EsphomeVoip
