import EsphomeVoip.Transport.Holdings

/-! # Messages that come to nothing

A response, a CANCEL or a BYE of the dialog at hand leaves a trace in what the transport holds, even
when it fails: a number, a branch, a tag or a response to repeat.  This module says exactly when one
fails without a trace. -/

namespace EsphomeVoip

namespace Transport

variable {w : World} {msg : SipMessage} {t : Transport}

/-! ## Sockets -/

/-- The stream of the dialog takes no message: it is not usable and another message waits for it, or
    its socket refuses. -/
def streamRefuses (w : World) (t : Transport) : Bool :=
  let flow := t.dialog.tcpFlow
  if flow.open_ = false ∨ flow.closeRequested = true ∨ flow.connectRequested = true
  then flow.pending.isSome else !w.sendOk t.io

/-- The dialog cannot send to this address. -/
def pathRefuses (w : World) (ip : UInt32) (port : UInt16) (t : Transport) : Bool :=
  if t.dialog.remoteSipTcp then t.streamRefuses w
  else t.sipSocketOpen == false || ip == 0 || port == 0 || !w.sendOk t.io

/-- What is refused is lost, and nothing else is. -/
theorem sendSip_refused (msg : SipMessage) {ip : UInt32} {port : UInt16}
    (h : t.pathRefuses w ip port = true) :
    ∃ io, t.sendSip w msg ip port = (false, { t with io := io }) := by
  unfold pathRefuses streamRefuses at h
  unfold sendSip sendSipTcp sendSipTcpRecord sendSipUdp
  dsimp only at h ⊢
  split at h
  · rename_i htcp
    rw [if_pos htcp]
    split at h
    · rename_i hunusable
      rw [if_pos hunusable, if_neg (by rw [not_and]; intro _ hnone; simp [hnone] at h)]
      exact ⟨t.io, rfl⟩
    · rename_i husable
      rw [if_neg husable, if_neg (by simpa using h)]
      exact ⟨_, rfl⟩
  · rename_i hudp
    rw [if_neg hudp]
    split
    · exact ⟨t.io, rfl⟩
    · rename_i hopen
      rw [if_neg (by simp_all)]
      exact ⟨_, rfl⟩

theorem sendSip_taken {ip : UInt32} {port : UInt16} (h : t.pathRefuses w ip port = false) :
    (t.sendSip w msg ip port).1 = true := by
  unfold pathRefuses streamRefuses at h
  unfold sendSip sendSipTcp sendSipTcpRecord sendSipUdp
  dsimp only at h ⊢
  split at h
  · rename_i htcp
    rw [if_pos htcp]
    split at h
    · rename_i hunusable
      rw [if_pos hunusable, if_pos ⟨htcp, by simpa using h⟩]
    · rename_i husable
      rw [if_neg husable, if_pos (by simpa using h)]
  · rename_i hudp
    rw [if_neg hudp]
    simp only [Bool.or_eq_false_iff, beq_eq_false_iff_ne, ne_eq, Bool.not_eq_false'] at h
    rw [if_neg (by simp [h]), if_pos h.2]

/-! ## Responses -/

/-- There is no INVITE to respond to. -/
def unaddressed (d : Dialog) : Bool :=
  d.lastInvitePeerIp == 0 || d.lastInvitePeerPort == 0 || d.lastInviteVia == []

/-- A response that cannot be sent is not kept either, to be sent later. -/
def lost (w : World) (status : Nat) (msg : SipMessage) (t : Transport) : Bool :=
  t.pathRefuses w t.dialog.lastInvitePeerIp t.dialog.lastInvitePeerPort &&
    if 200 ≤ status then losesFinal status t.dialog && !ownsFinalResponse msg t.dialog
    else t.dialog.remoteSipTcp

/-- A response to the last INVITE fails without a trace: there is no such INVITE, or the response is
    lost and was the last one before, with a local tag that it could use. -/
def RespondsInVain (w : World) (status : Nat) (phrase body reason : String) (t : Transport) :
    Prop :=
  unaddressed t.dialog = true ∨
    ((needsLocalTag status t.dialog.lastInviteTo = true → t.dialog.localTag ≠ "") ∧
      t.pendingProvisionalResponse = none ∧
      t.dialog.lastInviteResponse = some (buildInviteResponse status phrase body reason t.dialog) ∧
      t.lost w status (buildInviteResponse status phrase body reason t.dialog) = true)

instance (w : World) (status : Nat) (phrase body reason : String) (t : Transport) :
    Decidable (t.RespondsInVain w status phrase body reason) :=
  inferInstanceAs (Decidable (_ ∨ (_ → _) ∧ _ ∧ _ ∧ _))

/-- A final response is kept until its ACK, unless it is one that would be lost. -/
theorem ownFinalResponse_cases (hstatus : 200 ≤ msg.status) (haddr : unaddressed t.dialog = false) :
    (losesFinal msg.status t.dialog = true ∧ t.ownFinalResponse msg = t.keepLastResponse msg) ∨
      (losesFinal msg.status t.dialog = false ∧
        ownsFinalResponse msg (t.ownFinalResponse msg).dialog = true) := by
  simp only [unaddressed, Bool.or_eq_false_iff, beq_eq_false_iff_ne, ne_eq] at haddr
  have hlow : ¬msg.status < 200 := by omega
  unfold ownFinalResponse rememberCompletedResponse losesFinal
  dsimp only
  have hkeeps : keepsActiveInvite (t.keepLastResponse msg).dialog = keepsActiveInvite t.dialog :=
    rfl
  by_cases hhigh : 699 < msg.status
  · exact .inl ⟨by simp [hhigh], if_pos (by simp [hhigh])⟩
  · by_cases hname : t.dialog.callId = ""
    · exact .inl ⟨by simp [hname], if_pos (by simp [hname])⟩
    · by_cases hcseq : (t.dialog.lastInviteCseq.getD {}).number = 0
      · exact .inl ⟨by simp [hcseq], if_pos (by simp [hcseq])⟩
      · rw [if_neg (by simp [haddr, hlow, hhigh, hname, hcseq, isRememberedMethod]),
          if_pos rfl, hkeeps]
        cases hactive : keepsActiveInvite t.dialog t.dialog.callId
          (t.dialog.lastInviteCseq.getD {}).number (viaBranch (t.dialog.lastInviteVia.take 1)) with
        | true => exact .inl ⟨by simp, rfl⟩
        | false =>
          refine .inr ⟨by simp [hhigh, hname, hcseq], ?_⟩
          simp [ownsFinalResponse, completedTransaction]

/-- Keeping a response does not make the path of the dialog usable. -/
theorem keepLastResponse_refused (msg : SipMessage)
    (h : t.pathRefuses w t.dialog.lastInvitePeerIp t.dialog.lastInvitePeerPort = true) :
    ∃ io, (t.keepLastResponse msg).sendSip w msg
      (t.keepLastResponse msg).dialog.lastInvitePeerIp
      (t.keepLastResponse msg).dialog.lastInvitePeerPort =
        (false, { t.keepLastResponse msg with io := io }) :=
  sendSip_refused msg h

/-- A response that is not lost is reported as sent. -/
theorem transmitResponse_kept {status : Nat} (hstatus : msg.status = status)
    (haddr : unaddressed t.dialog = false) (h : t.lost w status msg = false) :
    (if 200 ≤ status then t.sendFinalInviteResponse w status msg
      else t.sendProvisionalInviteResponse w status msg).1 = true := by
  subst hstatus
  unfold lost at h
  split
  · rename_i hfinal
    rw [if_pos hfinal] at h
    -- Keeping the response does not change the path.
    have hpath : (t.ownFinalResponse msg).pathRefuses w
        (t.ownFinalResponse msg).dialog.lastInvitePeerIp
        (t.ownFinalResponse msg).dialog.lastInvitePeerPort =
          t.pathRefuses w t.dialog.lastInvitePeerIp t.dialog.lastInvitePeerPort := by
      unfold ownFinalResponse rememberCompletedResponse
      dsimp only
      repeat' split
      all_goals rfl
    unfold sendFinalInviteResponse
    dsimp only
    rw [if_pos]
    cases hrefused : t.pathRefuses w t.dialog.lastInvitePeerIp t.dialog.lastInvitePeerPort with
    | false => exact .inl (sendSip_taken (hpath.trans hrefused))
    | true =>
      right
      -- the path refuses, so the response must have been kept
      rcases ownFinalResponse_cases hfinal haddr with ⟨hloses, hsame⟩ | ⟨_, howns⟩
      · have howns : ownsFinalResponse msg t.dialog = true := by simpa [hrefused, hloses] using h
        rw [hsame]
        exact howns
      · exact howns
  · rename_i hprovisional
    rw [if_neg hprovisional] at h
    unfold sendProvisionalInviteResponse
    dsimp only
    split
    · rfl
    · rename_i hsent
      cases hrefused : t.pathRefuses w t.dialog.lastInvitePeerIp t.dialog.lastInvitePeerPort with
      | false => exact absurd (sendSip_taken (t := t.keepLastResponse msg) hrefused) hsent
      | true =>
        obtain ⟨io, he⟩ := keepLastResponse_refused msg hrefused
        -- on a datagram it is put off
        have hudp : ¬t.dialog.remoteSipTcp = true := by simpa [hrefused] using h
        rw [he]
        exact congrArg Prod.fst (if_neg hudp)

/-- A response that is lost is still the last one. -/
theorem transmitResponse_lost {status : Nat} (hstatus : msg.status = status)
    (haddr : unaddressed t.dialog = false) (h : t.lost w status msg = true) :
    ∃ io, (if 200 ≤ status then t.sendFinalInviteResponse w status msg
      else t.sendProvisionalInviteResponse w status msg) =
        (false, { t.keepLastResponse msg with io := io }) := by
  subst hstatus
  unfold lost at h
  rw [Bool.and_eq_true] at h
  obtain ⟨hrefused, hlost⟩ := h
  obtain ⟨io, he⟩ := keepLastResponse_refused msg hrefused
  refine ⟨io, ?_⟩
  split
  · rename_i hfinal
    rw [if_pos hfinal, Bool.and_eq_true, Bool.not_eq_true'] at hlost
    unfold sendFinalInviteResponse
    dsimp only
    rcases ownFinalResponse_cases hfinal haddr with ⟨_, hsame⟩ | ⟨hkept, _⟩
    · have howns : ownsFinalResponse msg (t.keepLastResponse msg).dialog = false := hlost.2
      rw [hsame, he, howns, if_neg (by simp)]
    · rw [hkept] at hlost
      cases hlost.1
  · rename_i hprovisional
    rw [if_neg hprovisional] at hlost
    unfold sendProvisionalInviteResponse
    dsimp only
    rw [he, if_neg Bool.false_ne_true]
    exact if_pos hlost

theorem transmitResponse_isolated_iff {u : Transport} (status : Nat) (e : WireEntry)
    (hstatus : msg.status = status) (haddr : unaddressed u.dialog = false) :
    Isolated t (if 200 ≤ status then (u.record e).sendFinalInviteResponse w status msg
      else (u.record e).sendProvisionalInviteResponse w status msg) ↔
        u.lost w status msg = true ∧ ((u.record e).keepLastResponse msg).holdings = t.holdings := by
  cases hlost : u.lost w status msg with
  | false =>
    have hsent := transmitResponse_kept (t := u.record e) hstatus haddr hlost
    constructor
    · rintro ⟨hfail, _⟩
      rw [hfail] at hsent
      cases hsent
    · rintro ⟨hlost, _⟩
      cases hlost
  | true =>
    obtain ⟨io, he⟩ := transmitResponse_lost (t := u.record e) hstatus haddr hlost
    rw [he]
    exact ⟨fun h => ⟨rfl, h.2⟩, fun h => ⟨rfl, h.2⟩⟩

/-- Keeping a response is seen, unless it is the last one already. -/
theorem holdings_keepLastResponse : (t.keepLastResponse msg).holdings = t.holdings ↔
    t.pendingProvisionalResponse = none ∧ t.dialog.lastInviteResponse = some msg := by
  constructor
  · intro h
    exact ⟨(congrArg Holdings.pendingProvisionalResponse h).symm,
      (congrArg (fun x => x.dialog.lastInviteResponse) h).symm⟩
  · rintro ⟨hnone, hlast⟩
    simp only [holdings, heldOf, keepLastResponse, hnone, hlast]

/-- A response changes what the transport holds, or reports success, unless it is sent in vain. -/
theorem sendResponse_isolated_iff (status : Nat) (phrase body reason : String) :
    Isolated t (t.sendResponse w status phrase body reason) ↔
      t.RespondsInVain w status phrase body reason := by
  have hguard : (t.dialog.lastInvitePeerIp = 0 ∨ t.dialog.lastInvitePeerPort = 0 ∨
      t.dialog.lastInviteVia = []) ↔ unaddressed t.dialog = true := by
    simp [unaddressed, or_assoc]
  unfold sendResponse RespondsInVain
  cases haddr : unaddressed t.dialog with
  | true =>
    rw [if_pos (hguard.2 haddr)]
    exact ⟨fun _ => .inl rfl, fun _ => ⟨rfl, rfl⟩⟩
  | false =>
    rw [if_neg (by rw [hguard, haddr]; exact Bool.false_ne_true)]
    dsimp only
    by_cases htag : needsLocalTag status t.dialog.lastInviteTo = true ∧ t.dialog.localTag = ""
    · -- The response gives the dialog a local tag.
      have haddr' : unaddressed (t.ensureLocalTag w).dialog = false := by
        unfold ensureLocalTag
        split <;> exact haddr
      rw [if_pos htag.1, transmitResponse_isolated_iff status _ rfl haddr']
      constructor
      · rintro ⟨_, h⟩
        have hheld : (t.ensureLocalTag w).dialog.localTag = t.dialog.localTag :=
          congrArg (fun x => x.dialog.localTag) h
        unfold ensureLocalTag at hheld
        rw [if_pos htag.2, htag.2] at hheld
        exact absurd hheld (w.token_ne_empty _ _)
      · rintro (hnone | ⟨hlocal, _⟩)
        · cases hnone
        · exact absurd htag.2 (hlocal htag.1)
    · -- The local tag stays, so that only the response itself can be seen.
      have hkept : (if needsLocalTag status t.dialog.lastInviteTo then t.ensureLocalTag w else t) =
        t := by
        unfold ensureLocalTag
        split
        · rename_i hneeds
          exact if_neg fun hnone => htag ⟨hneeds, hnone⟩
        · rfl
      rw [hkept, transmitResponse_isolated_iff status _ rfl haddr]
      generalize buildInviteResponse status phrase body reason t.dialog = msg
      have hheld : ((t.record (.responded msg (finallyAnswered t.dialog) (byeOutstanding t.dialog)
          (losesFinal status t.dialog) t.clock)).keepLastResponse msg).holdings = t.holdings ↔
            t.pendingProvisionalResponse = none ∧ t.dialog.lastInviteResponse = some msg :=
        holdings_keepLastResponse
      rw [hheld]
      constructor
      · rintro ⟨hlost, hnone, hlast⟩
        exact .inr ⟨fun hneeds hlocal => htag ⟨hneeds, hlocal⟩, hnone, hlast, hlost⟩
      · rintro (hnone | ⟨_, hnone, hlast, hlost⟩)
        · cases hnone
        · exact ⟨hlost, hnone, hlast⟩

/-! ## Requests -/

/-- There is nobody to send a request to. -/
def unreachable (d : Dialog) : Bool :=
  d.remoteIp == 0 || d.remoteSipPort == 0 || d.callId == ""

theorem unreachable_iff {d : Dialog} : unreachable d = true ↔
    d.remoteIp = 0 ∨ d.remoteSipPort = 0 ∨ d.callId = "" := by
  simp [unreachable, or_assoc]

theorem sendRequest_unreachable (h : unreachable t.dialog = true) (method : Method) (body : String)
    (options : SipRequestOptions) : t.sendRequest w method body options = (false, t) := by
  unfold sendRequest sendRequestFormatted
  rw [if_pos (unreachable_iff.1 h)]

theorem tcp_formatRequest (method : Method) (body : String) (options : SipRequestOptions) :
    (t.formatRequest w method body options).2.dialog.remoteSipTcp = t.dialog.remoteSipTcp := by
  unfold formatRequest requestBranch
  dsimp only
  repeat' split
  all_goals rfl

/-- A request that is remembered fails only when a stream refuses it. -/
theorem transmitRequest_taken {method : Method} (hm : isTransactionRequest method = true)
    {options : SipRequestOptions} (ho : options.rememberTransaction = true) (ip : UInt32)
    (port : UInt16) (h : (t.dialog.remoteSipTcp && t.streamRefuses w) = false) :
    (t.transmitRequest w method options msg ip port).1 = true := by
  have hack : ¬(method = .ack ∧ options.rememberInviteAck = true) := by
    rintro ⟨rfl, _⟩
    cases hm
  unfold transmitRequest
  rw [if_neg hack, hm, ho]
  dsimp only
  cases htcp : t.dialog.remoteSipTcp with
  | false => rw [if_pos (by simp)]
  | true =>
    have hpath : t.pathRefuses w ip port = false := by
      unfold pathRefuses
      rw [htcp, if_pos rfl]
      rwa [htcp, Bool.true_and] at h
    rw [if_pos (by rw [sendSip_taken hpath]; rfl)]

theorem transmitRequest_refused (msg : SipMessage) {method : Method}
    (hm : isTransactionRequest method = true)
    (options : SipRequestOptions) (ip : UInt32) (port : UInt16)
    (h : (t.dialog.remoteSipTcp && t.streamRefuses w) = true) :
    ∃ io, t.transmitRequest w method options msg ip port = (false, { t with io := io }) := by
  have hack : ¬(method = .ack ∧ options.rememberInviteAck = true) := by
    rintro ⟨rfl, _⟩
    cases hm
  rw [Bool.and_eq_true] at h
  have hpath : t.pathRefuses w ip port = true := by
    unfold pathRefuses
    rw [h.1]
    exact h.2
  obtain ⟨io, he⟩ := sendSip_refused msg hpath
  refine ⟨io, ?_⟩
  unfold transmitRequest
  rw [if_neg hack]
  dsimp only
  rw [he, h.1, if_neg (by simp)]

/-- A request that has somebody to go to is formatted, which takes a branch and a number, and then
    it is sent or lost. -/
theorem sendRequest_reachable (h : unreachable t.dialog = false) {method : Method}
    (hm : isTransactionRequest method = true) (body : String) (options : SipRequestOptions)
    (ho : options.rememberTransaction = true) :
    let u := (t.formatRequest w method body options).2
    if (t.dialog.remoteSipTcp && u.streamRefuses w) = true
    then ∃ io, t.sendRequest w method body options = (false, { u with io := io })
    else (t.sendRequest w method body options).1 = true := by
  have htcp := tcp_formatRequest (w := w) (t := t) method body options
  have hready : ¬(t.dialog.remoteIp = 0 ∨ t.dialog.remoteSipPort = 0 ∨ t.dialog.callId = "") := by
    rw [← unreachable_iff, h]
    exact Bool.false_ne_true
  unfold sendRequest sendRequestFormatted
  simp only [if_neg hready]
  generalize t.formatRequest w method body options = f at htcp
  rw [← htcp]
  split
  · rename_i hlost
    obtain ⟨io, he⟩ := transmitRequest_refused f.1 hm options
      (requestTarget t.dialog).1 (requestTarget t.dialog).2 hlost
    exact ⟨io, by rw [he]⟩
  · rename_i hsent
    exact transmitRequest_taken hm ho _ _ (Bool.eq_false_iff.2 hsent)

/-! ## Ending a dialog -/

/-- A CANCEL fails without a trace: there is nobody to send it to, or it has a branch and a number,
    and the stream refuses it. -/
def cancelsInVain (w : World) (t : Transport) : Bool :=
  unreachable t.dialog || (t.dialog.branch != "" && t.dialog.inviteCseq != 0 &&
    t.dialog.remoteSipTcp && t.streamRefuses w)

/-- A number that was taken is not taken back by taking another one. -/
theorem later_ne {a b : UInt32} (h : b = a ∨ b = a + 1) : b + 1 ≠ a := by
  intro hback
  have hnat : (b + 1).toNat = a.toNat := congrArg UInt32.toNat hback
  have hlt : a.toNat < 2 ^ 32 := a.toNat_lt
  have hone : (1 : UInt32).toNat = 1 := rfl
  rw [UInt32.toNat_add] at hnat
  rcases h with rfl | rfl
  · omega
  · rw [UInt32.toNat_add] at hnat
    omega

/-- A CANCEL takes nothing from a dialog that has a branch and a number for it. -/
theorem formatCancel_untouched {number : UInt32} (hbranch : t.dialog.branch ≠ "")
    (hnumber : number ≠ 0) : ∃ request,
      (t.formatRequest w .cancel "" { cseqNumber := number }).2 =
        t.record (.requested request) := by
  unfold formatRequest requestBranch
  simp only [ne_eq, not_true_eq_false, if_false, or_true, if_true, hbranch, hnumber]
  exact ⟨_, rfl⟩

theorem formatCancel_touched {number : UInt32} (h : t.dialog.branch = "" ∨ number = 0) :
    heldOf (t.formatRequest w .cancel "" { cseqNumber := number }).2.dialog ≠ heldOf t.dialog := by
  intro hheld
  by_cases hbranch : t.dialog.branch = ""
  · have hb := congrArg Dialog.branch hheld
    unfold formatRequest requestBranch at hb
    simp only [ne_eq, not_true_eq_false, if_false, or_true, if_true, hbranch] at hb
    exact w.token_ne_empty _ _ (hb.trans hbranch)
  · have hnumber : number = 0 := h.resolve_left hbranch
    have hc := congrArg Dialog.cseq hheld
    unfold formatRequest requestBranch at hc
    simp only [ne_eq, not_true_eq_false, if_false, or_true, if_true, hbranch, hnumber] at hc
    exact later_ne (.inl rfl) hc

/-- What is reported as sent is not isolated. -/
theorem not_isolated_of_sent {r : Bool × Transport} (h : r.1 = true) : ¬Isolated t r := by
  rintro ⟨hfail, _⟩
  rw [h] at hfail
  cases hfail

theorem sendCancelRequest_isolated_iff :
    Isolated t (t.sendCancelRequest w) ↔ t.cancelsInVain w = true := by
  unfold sendCancelRequest
  generalize hu : t.record _ = u
  have hheld : u.holdings = t.holdings := hu ▸ holdings_record rfl
  have hvain : t.cancelsInVain w = u.cancelsInVain w := by
    rw [← hu]
    rfl
  -- The intent in the log and the mark in the dialog are no part of the holdings.
  have hisolated (r : Bool × Transport) : Isolated t r ↔ Isolated u r := by
    unfold Isolated
    rw [hheld]
  rw [hisolated, hvain]
  dsimp only
  unfold cancelsInVain
  generalize hv : { u with dialog := { u.dialog with cancelRequested := true } } = v
  have hsame : v.holdings = u.holdings ∧ unreachable v.dialog = unreachable u.dialog ∧
      v.dialog.branch = u.dialog.branch ∧ v.dialog.inviteCseq = u.dialog.inviteCseq ∧
      v.dialog.remoteSipTcp = u.dialog.remoteSipTcp ∧ v.streamRefuses w = u.streamRefuses w := by
    rw [← hv]
    exact ⟨rfl, rfl, rfl, rfl, rfl, rfl⟩
  obtain ⟨hkept, hto, hbranch, hnumber, htcp, hstream⟩ := hsame
  rw [← hto, ← hbranch, ← hnumber, ← htcp, ← hstream]
  cases hto : unreachable v.dialog with
  | true =>
    rw [sendRequest_unreachable hto, if_neg Bool.false_ne_true]
    exact ⟨fun _ => rfl, fun _ => ⟨rfl, hkept⟩⟩
  | false =>
    have hcancel : isTransactionRequest .cancel = true := rfl
    have hsent := sendRequest_reachable (w := w) hto hcancel ""
      { cseqNumber := v.dialog.inviteCseq } rfl
    dsimp only at hsent
    by_cases hready : v.dialog.branch ≠ "" ∧ v.dialog.inviteCseq ≠ 0
    · -- The CANCEL takes nothing, so that it is in vain when the stream refuses it.
      obtain ⟨request, hformat⟩ := formatCancel_untouched (w := w) (t := v) hready.1 hready.2
      rw [hformat] at hsent
      have hrefuses : (v.record (.requested request)).streamRefuses w = v.streamRefuses w := rfl
      rw [hrefuses] at hsent
      split at hsent
      · rename_i hlost
        obtain ⟨io, he⟩ := hsent
        have hrecord : (v.record (.requested request)).holdings = v.holdings := holdings_record rfl
        rw [he, if_neg Bool.false_ne_true]
        refine ⟨fun _ => ?_, fun _ => ⟨rfl, hrecord.trans hkept⟩⟩
        rw [Bool.and_eq_true] at hlost
        simp [hready, hlost]
      · rename_i hlost
        rw [if_pos hsent]
        refine ⟨fun h => absurd h (not_isolated_of_sent rfl), fun h => absurd ?_ hlost⟩
        simp only [Bool.false_or, Bool.and_eq_true] at h ⊢
        exact ⟨h.1.2, h.2⟩
    · -- It takes a branch or a number, which stays.
      have hmissing : v.dialog.branch = "" ∨ v.dialog.inviteCseq = 0 := by
        by_cases hnamed : v.dialog.branch = ""
        · exact .inl hnamed
        · exact .inr (Decidable.byContradiction fun hfresh => hready ⟨hnamed, hfresh⟩)
      have hspent := formatCancel_touched (w := w) (t := v) hmissing
      have hno : (v.dialog.branch != "" && v.dialog.inviteCseq != 0) = false := by
        simpa using hready
      rw [hno]
      refine ⟨fun h => absurd h ?_, fun h => by simp at h⟩
      split at hsent
      · obtain ⟨io, he⟩ := hsent
        rw [he, if_neg Bool.false_ne_true]
        rintro ⟨_, hres⟩
        exact hspent (congrArg Holdings.dialog (hres.trans hkept.symm))
      · rw [if_pos hsent]
        exact not_isolated_of_sent rfl

/-- A BYE fails without a trace: there is no dialog, or there is nobody to send it to, nothing that
    could be deferred or forgotten, and no transfer that is cancelled with it. -/
def ByesInVain (w : World) (t : Transport) : Prop :=
  t.dialog.callId = "" ∨
    (t.ownerInviteEnded = false ∧ awaitsUasAck t.dialog = false ∧ unreachable t.dialog = true ∧
      t.dialog.pendingUpdate = none ∧ (t.cancelRefer w).holdings = t.holdings)

instance (w : World) (t : Transport) : Decidable (t.ByesInVain w) :=
  inferInstanceAs (Decidable (_ ∨ _ ∧ _ ∧ _ ∧ _ ∧ _))

theorem holdings_stopOwnAudioPath : t.stopOwnAudioPath.holdings = t.holdings := by
  unfold stopOwnAudioPath stopAudioPath
  split
  · rfl
  · unfold requestAudioPathStop closeMediaSession videoRequestStop
    dsimp only
    repeat' split
    all_goals rfl

theorem cseq_transmitRequest (method : Method) (options : SipRequestOptions) (ip : UInt32)
    (port : UInt16) :
    (t.transmitRequest w method options msg ip port).2.dialog.cseq = t.dialog.cseq := by
  have hack (u : Transport) : (u.rememberCompletedInviteAck msg ip port).dialog.cseq =
      u.dialog.cseq := by
    unfold rememberCompletedInviteAck
    split <;> rfl
  have hsend (u : Transport) : (u.sendSip w msg ip port).2.dialog.cseq = u.dialog.cseq := by
    unfold sendSip sendSipTcp sendSipTcpRecord sendSipUdp
    dsimp only
    repeat' split
    all_goals rfl
  have hremember (u : Transport) : (u.rememberUdpTransaction method msg ip port).dialog.cseq =
      u.dialog.cseq := by
    unfold rememberUdpTransaction rememberNotify
    dsimp only
    repeat' split
    all_goals rfl
  unfold transmitRequest
  dsimp only
  repeat' split
  all_goals simp only [hack, hsend, hremember, markSipEvent]

/-- A request of the dialog takes at most one number. -/
theorem cseq_sendRequest (method : Method) (body : String) (options : SipRequestOptions) :
    (t.sendRequest w method body options).2.dialog.cseq = t.dialog.cseq ∨
      (t.sendRequest w method body options).2.dialog.cseq = t.dialog.cseq + 1 := by
  have hformat : (t.formatRequest w method body options).2.dialog.cseq = t.dialog.cseq ∨
      (t.formatRequest w method body options).2.dialog.cseq = t.dialog.cseq + 1 := by
    unfold formatRequest requestBranch
    dsimp only
    repeat' split
    all_goals first | exact .inl rfl | exact .inr rfl
  unfold sendRequest sendRequestFormatted
  dsimp only
  split
  · exact .inl rfl
  · rw [cseq_transmitRequest]
    exact hformat

/-- The report of a cancelled transfer takes at most one number. -/
theorem cseq_cancelRefer (w : World) (t : Transport) :
    (t.cancelRefer w).dialog.cseq = t.dialog.cseq ∨
      (t.cancelRefer w).dialog.cseq = t.dialog.cseq + 1 := by
  rcases dialog_cancelRefer w t with h | h
  · exact .inl (congrArg Dialog.cseq h)
  · rw [h]
    unfold notifyRefer
    split
    · exact .inl rfl
    · exact cseq_sendRequest _ _ _

/-- Without an address of the peer, nobody is told that a transfer was cancelled. -/
theorem dialog_cancelRefer_unreachable (h : unreachable t.dialog = true) :
    (t.cancelRefer w).dialog = t.dialog := by
  rcases dialog_cancelRefer w t with hsame | hsame
  · exact hsame
  · rw [hsame]
    unfold notifyRefer
    split
    · rfl
    · rw [sendRequest_unreachable h]

theorem unreachable_of_address {d d' : Dialog} (h : addressOf d' = addressOf d) :
    unreachable d' = unreachable d := by
  unfold addressOf at h
  rw [Prod.mk.injEq, Prod.mk.injEq] at h
  obtain ⟨hname, hip, hport⟩ := h
  unfold unreachable
  rw [hname, hip, hport]

/-- A BYE that has somebody to go to takes a number, or is reported as sent. -/
theorem sendConfirmedBye_reachable {u : Transport} (h : unreachable u.dialog = false)
    (hnumber : u.dialog.cseq = t.dialog.cseq ∨ u.dialog.cseq = t.dialog.cseq + 1) :
    ¬Isolated t (u.sendConfirmedBye w) := by
  have hbye : isTransactionRequest .bye = true := rfl
  unfold sendConfirmedBye
  generalize hv : { u with dialog := { u.dialog with pendingUpdate := none } } = v
  have hto : unreachable v.dialog = false := by
    rw [← hv]
    exact h
  have hcseq : v.dialog.cseq = u.dialog.cseq := by rw [← hv]
  have hsent := sendRequest_reachable (w := w) hto hbye "" {} rfl
  dsimp only at hsent ⊢
  split at hsent
  · obtain ⟨io, he⟩ := hsent
    rw [he]
    rintro ⟨_, hheld⟩
    rw [holdings_stopOwnAudioPath] at hheld
    have htaken : (v.formatRequest w .bye "" {}).2.dialog.cseq = v.dialog.cseq + 1 := rfl
    have hback : (v.formatRequest w .bye "" {}).2.dialog.cseq = t.dialog.cseq :=
      congrArg (fun x => x.dialog.cseq) hheld
    rw [htaken, hcseq] at hback
    exact later_ne hnumber hback
  · exact not_isolated_of_sent hsent

/-- A BYE that has nobody to go to forgets an UPDATE that is outstanding. -/
theorem sendConfirmedBye_unreachable {u : Transport} (h : unreachable u.dialog = true)
    (hsame : u.dialog = t.dialog) : Isolated t (u.sendConfirmedBye w) ↔
      t.dialog.pendingUpdate = none ∧ u.holdings = t.holdings := by
  unfold sendConfirmedBye
  generalize hv : { u with dialog := { u.dialog with pendingUpdate := none } } = v
  have hto : unreachable v.dialog = true := by
    rw [← hv]
    exact h
  dsimp only
  rw [sendRequest_unreachable hto]
  unfold Isolated
  rw [holdings_stopOwnAudioPath]
  constructor
  · rintro ⟨_, hheld⟩
    have hnone : t.dialog.pendingUpdate = none := by
      have hgone : v.dialog.pendingUpdate = none := by rw [← hv]
      exact (congrArg (fun x => x.dialog.pendingUpdate) hheld).symm.trans hgone
    refine ⟨hnone, Eq.trans ?_ hheld⟩
    have hback : u.holdings = { v.holdings with
        dialog := { v.holdings.dialog with pendingUpdate := u.dialog.pendingUpdate } } := by
      rw [← hv]
      rfl
    rw [hback, hsame, hnone, ← hv]
    rfl
  · rintro ⟨hnone, hheld⟩
    refine ⟨rfl, Eq.trans ?_ hheld⟩
    have hforgotten : v.holdings = { u.holdings with
        dialog := { u.holdings.dialog with pendingUpdate := none } } := by
      rw [← hv]
      rfl
    have hout : u.holdings.dialog.pendingUpdate = none :=
      (congrArg Dialog.pendingUpdate hsame).trans hnone
    rw [hforgotten, ← hout]

/-- A BYE of the dialog at hand, by whichever name it is meant. -/
theorem sendBye_isolated_iff {callId : String} (hown : callId = "" ∨ callId = t.logicalCallId) :
    Isolated t (t.sendBye w callId) ↔ t.ByesInVain w := by
  unfold sendBye sendByeWith ByesInVain
  by_cases hnone : t.dialog.callId = ""
  · rw [if_pos (.inl hnone)]
    exact ⟨fun _ => .inl hnone, fun _ => ⟨rfl, rfl⟩⟩
  · have hmeant : ¬(t.dialog.callId = "" ∨
        (callId ≠ "" ∧ callId ≠ t.dialog.callId ∧ callId ≠ t.logicalCallId)) := by
      rintro (h | ⟨hnamed, _, hlogical⟩)
      · exact hnone h
      · exact hown.elim hnamed hlogical
    -- A transfer is cancelled first, which takes one number at most.
    have hnumber := cseq_cancelRefer w t
    have haddr := unreachable_of_address (address_cancelRefer w t)
    have hsame := dialog_cancelRefer_unreachable (w := w) (t := t)
    rw [if_neg hmeant]
    dsimp only
    generalize t.cancelRefer w = u at hnumber haddr hsame
    cases hended : t.ownerInviteEnded with
    | true =>
      rw [if_pos rfl]
      exact ⟨fun h => absurd h (not_isolated_of_sent rfl), fun h => by simp [hnone] at h⟩
    | false =>
      rw [if_neg Bool.false_ne_true]
      cases hto : unreachable t.dialog with
      | false =>
        rw [hto] at haddr
        refine ⟨fun h => absurd h ?_, fun h => by simp [hnone] at h⟩
        split
        · exact not_isolated_of_sent rfl
        · exact sendConfirmedBye_reachable haddr hnumber
      | true =>
        rw [hto] at haddr
        rw [hsame hto]
        cases hack : awaitsUasAck t.dialog with
        | true =>
          rw [if_pos rfl]
          exact ⟨fun h => absurd h (not_isolated_of_sent rfl), fun h => by simp [hnone] at h⟩
        | false =>
          rw [if_neg Bool.false_ne_true, sendConfirmedBye_unreachable haddr (hsame hto)]
          simp [hnone]

end Transport

end EsphomeVoip
